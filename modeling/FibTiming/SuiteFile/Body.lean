import FibTiming.SuiteFile.Reader

/-!
# Bodies of suite files

A body is a sequence of attributes and blocks, each on a line of its own.  An attribute is given once.  A block has
labels and a body in braces; a body on the line of its block holds a single attribute.
-/

namespace FibTiming.SuiteFile

/-- A named expression. -/
structure Attribute where
  name : String
  nameRegion : Region
  value : Expr

/-- A label of a block. -/
structure Label where
  text : String
  region : Region
deriving Repr, DecidableEq, Inhabited

mutual

/-- Attributes and blocks, each in the order of the file. -/
inductive Body where
  | mk (attributes : List Attribute) (blocks : List Block)

/-- A block; `brace` is the region of its opening brace. -/
inductive Block where
  | mk (kind : String) (kindRegion : Region) (labels : List Label) (brace : Region) (body : Body)

end

namespace Body

/-- The attributes of a body. -/
def attributes : Body → List Attribute
  | mk as _ => as

/-- The blocks of a body. -/
def blocks : Body → List Block
  | mk _ bs => bs

/-- The body without anything in it. -/
def empty : Body := mk [] []

/-- The body with one attribute more at its front, unless it has one of this name. -/
def addAttribute? (a : Attribute) : Body → Option Body
  | mk as bs => if as.any (·.name == a.name) then none else some (mk (a :: as) bs)

/-- The body with one block more at its front. -/
def addBlock (b : Block) : Body → Body
  | mk as bs => mk as (b :: bs)

end Body

namespace Block

/-- The type of a block. -/
def kind : Block → String
  | mk k _ _ _ _ => k

/-- The region of a block's type. -/
def kindRegion : Block → Region
  | mk _ r _ _ _ => r

/-- The labels of a block. -/
def labels : Block → List Label
  | mk _ _ ls _ _ => ls

/-- The region of a block's opening brace. -/
def brace : Block → Region
  | mk _ _ _ r _ => r

/-- The body of a block. -/
def body : Block → Body
  | mk _ _ _ _ b => b

end Block

/-- Takes the end of a line, or of the file, off the front. -/
def takeLineEnd? : List Token → Option (List Token)
  | [] => some []
  | ⟨.newline, _⟩ :: rest => some rest
  | _ => none

/-- Takes the rest of a quoted label off the front: its text, the region of its end and what follows. -/
def takeQuotedLabel? : List Token → Option (List Char × Region × List Token)
  | ⟨.quoteClose, r⟩ :: rest => some ([], r, rest)
  | ⟨.literal t, _⟩ :: rest => (takeQuotedLabel? rest).map fun l => (t ++ l.1, l.2)
  | _ => none

/-- Takes the labels of a block and its opening brace off the front. -/
def takeLabels? : (fuel : Nat) → List Token → Option (List Label × Region × List Token)
  | 0, _ => none
  | fuel + 1, ts =>
    match ts with
    | ⟨.sign .braceOpen, r⟩ :: rest => some ([], r, rest)
    | ⟨.name n, r⟩ :: rest => (takeLabels? fuel rest).map fun l => (⟨n, r⟩ :: l.1, l.2)
    | ⟨.quoteOpen, r⟩ :: rest =>
      match takeQuotedLabel? rest with
      | none => none
      | some (text, stop, rest) =>
        (takeLabels? fuel rest).map fun l => (⟨String.ofList text, r.upTo stop⟩ :: l.1, l.2)
    | _ => none

/-- The fuel that is enough to read an expression from a list of tokens. -/
def exprFuel (ts : List Token) : Nat := 16 * (ts.length + 2)

/-- Reads the value of an attribute behind its equals sign. -/
def readValue (ts : List Token) : Option (Expr × List Token) := readExpr true (exprFuel ts) ts

/-- Reads the only attribute of a body on one line and its closing brace. -/
def readLineBody (ts : List Token) : Option (Body × List Token) :=
  match ts with
  | ⟨.name n, r⟩ :: ⟨.sign .assign, _⟩ :: rest =>
    match readValue rest with
    | some (e, ⟨.sign .braceClose, _⟩ :: rest) => some (.mk [⟨n, r, e⟩] [], rest)
    | _ => none
  | _ => none

/-- Reads the items of a body up to its closing brace or, at the `top` of a file, up to the end. -/
def readBody (top : Bool) : (fuel : Nat) → List Token → Option (Body × List Token)
  | 0, _ => none
  | fuel + 1, ts =>
    match ts with
    | [] => if top then some (.empty, []) else none
    | ⟨.newline, _⟩ :: rest => readBody top fuel rest
    | ⟨.sign .braceClose, _⟩ :: rest => if top then none else some (.empty, rest)
    | ⟨.name n, r⟩ :: ⟨.sign .assign, _⟩ :: rest =>
      match readValue rest with
      | none => none
      | some (e, rest) =>
        match takeLineEnd? rest with
        | none => none
        | some rest =>
          match readBody top fuel rest with
          | none => none
          | some (body, rest) => (body.addAttribute? ⟨n, r, e⟩).map fun b => (b, rest)
    | ⟨.name n, r⟩ :: rest =>
      match takeLabels? fuel rest with
      | none => none
      | some (labels, brace, rest) =>
        let body? := match rest with
          | [] => none
          | ⟨.newline, _⟩ :: _ => readBody false fuel rest
          | ⟨.sign .braceClose, _⟩ :: _ => readBody false fuel rest
          | _ => readLineBody rest
        match body? with
        | none => none
        | some (body, rest) =>
          match takeLineEnd? rest with
          | none => none
          | some rest =>
            match readBody top fuel rest with
            | none => none
            | some (more, rest) => some (more.addBlock (.mk n r labels brace body), rest)
    | _ => none

/-- The body of a suite file; none when the text is not well formed. -/
def Body.read? (file source : String) : Option Body :=
  match scan file source with
  | none => none
  | some ts => (readBody true (ts.length + 2) ts).map (·.1)

end FibTiming.SuiteFile
