import FibTiming.Fibonacci
import FibTiming.Log
import FibTiming.Suite

/-!
# The registry of algorithms

Algorithms are registered under names.  The first algorithm that brings a computation keeps its name: a second
registration of the name is refused, and so is one without a computation.  The registry lists its algorithms in
the order of their names.
-/

namespace FibTiming

/-- What an algorithm computes.  The answer may depend on how often the algorithm was called: `answer call n` is
the answer of call number `call`, counted from one, at index `n`; a call can also cancel the run it is part of. -/
structure Computation where
  answer : Nat → Int → UInt64
  cancels : Nat → Bool := fun _ => false

/-- A computation whose answer depends on the index alone. -/
def Computation.ofFunction (f : Int → UInt64) : Computation := { answer := fun _ n => f n }

/-- A registered algorithm. -/
structure Algorithm where
  name : String
  description : String
  computation : Computation

/-- What is brought to a registration; the computation may be missing. -/
structure Offer where
  description : String
  computation : Option Computation

/-- Why a registration is refused. -/
inductive RegistrationError where
  | nameTaken (name : String)
  | noComputation (name : String)
deriving Repr, DecidableEq, Inhabited

/-- The wording of a refusal. -/
def RegistrationError.message : RegistrationError → String
  | nameTaken name => s!"algorithm with name '{name}' already registered"
  | noComputation name => s!"algorithm '{name}' registered without a function"

/-- The registered algorithms, in the order of their names. -/
structure Registry where
  algorithms : List Algorithm

/-- An algorithm that was asked for under a name nobody registered. -/
structure UnknownAlgorithm where
  name : String
  available : List String
deriving Repr, DecidableEq, Inhabited

/-- What is said about a name nobody registered. -/
def UnknownAlgorithm.message (e : UnknownAlgorithm) : String :=
  s!"unknown algorithm '{e.name}' (available: " ++ Log.bracketed e.available ++ ")"

/-- The benchmarks of a suite, by name and algorithm, whose algorithm nobody registered. -/
structure UnknownAlgorithms where
  benchmarks : List (String × String)
deriving Repr, DecidableEq, Inhabited

/-- What is said about a suite with such benchmarks. -/
def UnknownAlgorithms.message (e : UnknownAlgorithms) : String :=
  "unknown algorithm: suite validation failed:\n- " ++ String.intercalate "\n- "
    (e.benchmarks.map fun b => s!"benchmark '{b.1}': algorithm '{b.2}' is not registered")

namespace Registry

/-- The registry without algorithms. -/
def empty : Registry := ⟨[]⟩

/-- The registered names, in order. -/
def names (r : Registry) : List String := r.algorithms.map (·.name)

/-- The algorithm registered under a name. -/
def find? (r : Registry) (name : String) : Option Algorithm :=
  r.algorithms.find? (·.name == name)

/-- The algorithm registered under a name, or what to say about it. -/
def lookup (r : Registry) (name : String) : Except UnknownAlgorithm Algorithm :=
  match r.find? name with
  | some a => .ok a
  | none => .error ⟨name, r.names⟩

/-- Puts an algorithm before the first one with a larger name. -/
def insertByName (a : Algorithm) : List Algorithm → List Algorithm
  | [] => [a]
  | b :: rest => if a.name < b.name then a :: b :: rest else b :: insertByName a rest

/-- Registers an offer under a name. -/
def register (r : Registry) (name : String) (offer : Option Offer) : Except RegistrationError Registry :=
  if name ∈ r.names then .error (.nameTaken name)
  else
    match offer.bind fun o => o.computation.map fun c => (Algorithm.mk name o.description c) with
    | none => .error (.noComputation name)
    | some a => .ok ⟨insertByName a r.algorithms⟩

/-- Registers a list of offers, up to the first refusal. -/
def registerAll (r : Registry) : List (String × Option Offer) → Except RegistrationError Registry
  | [] => .ok r
  | (name, offer) :: rest =>
    match r.register name offer with
    | .error e => .error e
    | .ok r => r.registerAll rest

/-- The three algorithms of the program. -/
def coreOffers : List (String × Option Offer) := [
  ("naive", some ⟨"naive double recursion, exponential time", some (.ofFunction Naive.compute)⟩),
  ("accumulator", some ⟨"linear recursion with accumulator arguments", some (.ofFunction Accumulator.compute)⟩),
  ("iterative", some ⟨"while loop over two running values", some (.ofFunction Iterative.compute)⟩)]

/-- The registry of the three algorithms of the program. -/
def core : Registry :=
  match empty.registerAll coreOffers with
  | .ok r => r
  | .error _ => empty

/-- The registry of a list of offers; without any offer it has the three algorithms of the program. -/
def assemble (offers : List (String × Option Offer)) : Except RegistrationError Registry :=
  empty.registerAll (if offers.isEmpty then coreOffers else offers)

/-- The benchmarks of a suite whose algorithm is not registered. -/
def unknown (r : Registry) (s : Suite) : List (String × String) :=
  (s.benchmarks.filter fun b => b.algorithm ∉ r.names).map fun b => (b.name, b.algorithm)

/-- What the check of a suite logs: one record for each benchmark whose algorithm is registered. -/
def resolvedRecords (r : Registry) (s : Suite) : List Log.Record :=
  (s.benchmarks.filter fun b => b.algorithm ∈ r.names).map fun b =>
    ⟨.debug, "Benchmark algorithm resolved.", [("benchmark", .text b.name), ("algorithm", .text b.algorithm)]⟩

/-- Checks that every benchmark of a suite names a registered algorithm; all others are reported together. -/
def checkSuite (r : Registry) (s : Suite) : Except UnknownAlgorithms Unit :=
  match r.unknown s with
  | [] => .ok ()
  | bs => .error ⟨bs⟩

end Registry

end FibTiming
