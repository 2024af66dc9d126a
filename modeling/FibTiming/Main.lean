import FibTiming.Invocation
import FibTiming.Timestamp
import Std.Time.DateTime.Timestamp

/-!
# The command

The surroundings of the program in a real process: files, clocks, the standard streams and worker threads.
-/

namespace FibTiming.Shell

/-! ### Files -/

/-- The number of a system error, which may come with its sign changed. -/
def errorNumber (code : UInt32) : UInt32 := min code (0 - code)

/-- The cause of a failed operation on a file. -/
def causeOf : IO.Error → FileCause
  | .noFileOrDirectory .. => .missing
  | .inappropriateType _ code _ => if errorNumber code = 20 then .notDirectory else .isDirectory
  | .invalidArgument _ code _ => if errorNumber code = 36 then .nameTooLong else .invalidName
  | .permissionDenied .. => .reported "permission denied"
  | e => .reported e.toString

/-- The tree at a path.  Only its shape matters here, so files are left empty; links count as files. -/
partial def treeAt (path : String) : IO Node := do
  let here := System.mkFilePath [path]
  if (← here.metadata).type != .dir then return .file ""
  let names := Node.sortTexts ((← here.readDir).toList.map (·.fileName))
  let entries ← names.mapM fun (name : String) => do
    let kind := (← (here.join name).symlinkMetadata).type
    return (name, ← if kind == .dir then treeAt (path ++ "/" ++ name) else pure (.file ""))
  return .directory entries

/-- An operation on a file, with the cause of its failure. -/
def attempt {α : Type} (act : IO α) : IO (Except FileCause α) := do
  try
    return .ok (← act)
  catch e =>
    return .error (causeOf e)

/-- Looks a path up in a list of paths. -/
def lookupIn (known : List (String × Except FileCause Node)) : Lookup := fun path =>
  ((known.find? (·.1 == path)).map (·.2)).getD (.error .missing)

/-- The suite that paths stand for.  The files are found first and read afterwards. -/
def load (paths : List String) : IO (List Log.Record × Except LoadError Suite) := do
  let shapes ← paths.mapM fun p => do return (p, ← attempt (treeAt p))
  let files := (discover (lookupIn shapes) [] paths).toOption.getD []
  let contents ← files.mapM fun (f : String) => do return (f, ← attempt (Node.file <$> IO.FS.readFile f))
  let lookup : Lookup := lookupIn (contents ++ shapes)
  return (loadRecords .byName lookup paths, loadSuite .byName lookup paths)

/-- Saves a report under a path. -/
def save (path : String) (report : Report.Document) : IO (Except SaveError Unit) := do
  match ← attempt (IO.FS.Handle.mk path .write) with
  | .error cause => return .error (.create ⟨"open", path, cause⟩)
  | .ok handle => return (← attempt (handle.putStr report.render)).mapError fun cause => .write cause.message

/-! ### Clocks -/

/-- The processor time of a thread, of which the account is kept in a file. -/
def accountedTime (file : String) : IO Nat := do
  let line ← IO.FS.readFile file
  return (((line.splitOn " ").head?.bind (·.toNat?)).getD 0)

/-- The reading of a clock in nanoseconds.  A thread's account is brought up to date when it pauses. -/
def reading : ClockKind → IO Nat
  | .wall => IO.monoNanosNow
  | .thread => do
    IO.sleep 1
    accountedTime "/proc/thread-self/schedstat"
  | .process => do
    IO.sleep 1
    let threads ← (System.mkFilePath ["/proc/self/task"]).readDir
    let times ← threads.toList.mapM fun t => accountedTime s!"/proc/self/task/{t.fileName}/schedstat"
    return times.foldl (· + ·) 0

/-- The reading of a clock, or why it cannot be read. -/
def now (k : ClockKind) : IO (Except String Int64) := do
  try
    return .ok (Int64.ofNat (← reading k))
  catch e =>
    return .error e.toString

/-! ### Workers -/

/-- Carries out the jobs that no other worker has taken, and returns their results with their places. -/
partial def work (next : IO.Ref Nat) (jobs : Array (IO Result)) (done : List (Nat × Result)) :
    IO (List (Nat × Result)) := do
  let i ← next.modifyGet fun i => (i, i + 1)
  match jobs[i]? with
  | none => return done
  | some job => work next jobs ((i, ← job) :: done)

/-- Carries out jobs on at most the given number of threads. -/
def gather (workers : Nat) (jobs : List (IO Result)) : IO (List Result) := do
  if workers ≤ 1 then return ← inOrder jobs
  let next ← IO.mkRef 0
  let tasks ← (List.range (min workers jobs.length)).mapM fun _ =>
    IO.asTask (work next jobs.toArray []) .dedicated
  let done ← tasks.mapM fun t => IO.ofExcept t.get
  return (List.range jobs.length).filterMap fun i => (done.flatten.find? (·.1 == i)).map (·.2)

/-! ### The host -/

/-- Calls an algorithm and counts the call. -/
def call (calls : IO.Ref Nat) (a : Algorithm) (n : Int) : IO UInt64 := do
  let number ← calls.modifyGet fun c => (c + 1, c + 1)
  return a.computation.answer number n

/-- Writes a record to the standard error stream. -/
def emit (format : Log.Format) (r : Log.Record) : IO Unit := do
  let time := Timestamp.ofNanoseconds (← Std.Time.Timestamp.now).toNanosecondsSinceUnixEpoch.val
  (← IO.getStderr).putStr (r.render format (time.text format) ++ "\n")

/-- Prints a text on the standard output stream. -/
def print (text : String) : IO (Except String Unit) := do
  try
    let out ← IO.getStdout
    out.putStr text
    out.flush
    return .ok ()
  catch e =>
    return .error e.toString

/-- The surroundings of the program in this process. -/
def host : IO (Host IO) := do
  let calls ← IO.mkRef 0
  let terminal ← (← IO.getStdout).isTty
  return {
    now := now
    call := call calls
    cancelled := IO.checkCanceled
    gather := gather
    emit := emit
    terminal := terminal
    print := print
    load := some load
    save := save }

end FibTiming.Shell

/-- Carries out the invocation, and says on the standard error stream why it failed. -/
def main (args : List String) : IO UInt32 := do
  let outcome ← FibTiming.invoke (← FibTiming.Shell.host) args
  if let .error e := outcome then
    (← IO.getStderr).putStr (e.message ++ "\n")
  return (FibTiming.exitCode outcome).toUInt32
