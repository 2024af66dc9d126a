import FibTiming.CommandLine.Request
import FibTiming.Program

/-!
# Invocations

An invocation reads its command line, runs the program with the configuration it asks for, and ends with an exit code:
`0` when all went well, `2` when the command line is refused, `1` otherwise.
-/

namespace FibTiming

/-- Why an invocation ends without success. -/
inductive InvocationError where
  | usage (e : CommandLine.UsageError)
  | program (e : ProgramError)
deriving Repr, Inhabited

namespace InvocationError

/-- The wording of a failure; failures other than wrong answers are reported under the name of the program. -/
def message : InvocationError → String
  | usage e => e.message
  | program (.mismatches count total) => (ProgramError.mismatches count total).message
  | program e => "fibbench: " ++ e.message

/-- The exit code of a failure. -/
def exitCode : InvocationError → Nat
  | usage _ => 2
  | program _ => 1

end InvocationError

/-- The exit code of an invocation. -/
def exitCode : Except InvocationError Unit → Nat
  | .ok () => 0
  | .error e => e.exitCode

/-- Carries out the invocation with a list of arguments. -/
@[specialize] def invoke {m : Type → Type} [Monad m] (h : Host m) (args : List String) :
    m (Except InvocationError Unit) := do
  let request := CommandLine.request args
  if request.output ≠ "" then
    let _ ← h.print request.output
  match request with
  | .help => return .ok ()
  | .refused e => return .error (.usage e)
  | .run c => return (← Program.run h c Registry.core).mapError .program

end FibTiming
