import FibTiming.SuiteFile.Template
import FibTiming.SuiteFile.Token

/-!
# Reading expressions

A reader takes an expression off the front of a list of tokens.  Inside parentheses, brackets, sequences and
iterations the ends of lines do not count; everywhere else they end an expression.  Fuel bounds the depth of the
recursion and is computed from the number of tokens.
-/

namespace FibTiming.SuiteFile

/-- The tokens without leading line ends, unless line ends count. -/
def visible (lines : Bool) (ts : List Token) : List Token :=
  if lines then ts else ts.dropWhile fun t => t.kind == .newline

/-- Takes a sign off the front. -/
def takeSign? (lines : Bool) (s : Sign) (ts : List Token) : Option (Region × List Token) :=
  match visible lines ts with
  | ⟨.sign s', r⟩ :: rest => if s = s' then some (r, rest) else none
  | _ => none

/-- Takes a name off the front. -/
def takeName? (lines : Bool) (ts : List Token) : Option (String × Region × List Token) :=
  match visible lines ts with
  | ⟨.name n, r⟩ :: rest => some (n, r, rest)
  | _ => none

/-- Takes a given word off the front. -/
def takeWord? (lines : Bool) (word : String) (ts : List Token) : Option (List Token) :=
  match takeName? lines ts with
  | some (n, _, rest) => if n = word then some rest else none
  | none => none

/-- The operator of a sign. -/
def BinaryOp.ofSign? : Sign → Option BinaryOp
  | .or => some .or
  | .and => some .and
  | .equal => some .equal
  | .notEqual => some .notEqual
  | .less => some .less
  | .lessEqual => some .lessEqual
  | .greater => some .greater
  | .greaterEqual => some .greaterEqual
  | .plus => some .add
  | .minus => some .subtract
  | .star => some .multiply
  | .slash => some .divide
  | .percent => some .remainder
  | _ => none

/-- Takes an operator of the given level off the front. -/
def takeOperator? (lines : Bool) (level : Nat) (ts : List Token) : Option (BinaryOp × List Token) :=
  match visible lines ts with
  | ⟨.sign s, _⟩ :: rest =>
    match BinaryOp.ofSign? s with
    | some op => if op.level = level then some (op, rest) else none
    | none => none
  | _ => none

/-- The expression with one more step at its end. -/
def Expr.addStep (e : Expr) (s : Step) (region : Region) : Expr :=
  match e with
  | .named n nr path r => .named n nr (path ++ [s]) (r.upTo region)
  | .steps source path r => .steps source (path ++ [s]) (r.upTo region)
  | e => .steps e [s] (e.region.upTo region)

/-- The key of an index that is a plain literal. -/
def Expr.literalKey? : Expr → Option Value
  | .literal v _ => some v
  | .template [.literal v _] _ => some v
  | _ => none

/-- The iteration's condition when none is given. -/
def always (region : Region) : Expr := .literal (.bool true) region

/-- The number of an index after a point, which has no point itself. -/
def legacyIndex? (s : String) : Option Value :=
  if s.toList.contains '.' then none else (Number.readNumeral? s).map .number

/-- Takes the attribute steps of an attribute splat: names and indices after points. -/
def splatSteps? (lines : Bool) : (fuel : Nat) → List Token → Option (List (Step × Region) × List Token)
  | 0, _ => none
  | fuel + 1, ts =>
    match takeSign? lines .dot ts with
    | none => some ([], ts)
    | some (dot, rest) =>
      match visible lines rest with
      | ⟨.name n, r⟩ :: rest =>
        (splatSteps? lines fuel rest).map fun s => ((.attribute n (dot.upTo r), r) :: s.1, s.2)
      | ⟨.number n, r⟩ :: rest =>
        match legacyIndex? n with
        | none => none
        | some k => (splatSteps? lines fuel rest).map fun s => ((.index k (dot.upTo r), r) :: s.1, s.2)
      | _ => none

/-- The element of an attribute splat with its steps; `marker` is the region of the star. -/
def splatEach (marker : Region) : List (Step × Region) → Expr
  | [] => .element marker
  | (s, r) :: rest =>
    let path := s :: rest.map (·.1)
    let stop := (rest.getLast?.map (·.2)).getD r
    .steps (.element marker) path (match s with
      | .attribute _ q | .index _ q => q.upTo stop)

/-- Trims the last part when it is a literal. -/
def trimLast (parts : List Part) : List Part :=
  match parts.getLast? with
  | some (.literal t) => parts.dropLast ++ [.literal (Text.trimRight t)]
  | _ => parts

/-- Takes the end of a sequence off the front: whether it trims. -/
def takeSequenceClose? (ts : List Token) : Option (Bool × List Token) :=
  match visible false ts with
  | ⟨.sequenceClose trim, _⟩ :: rest => some (trim, rest)
  | _ => none

/-- The names of an iteration: an optional name for keys and one for elements, followed by `in`. -/
def takeIterationNames? (ts : List Token) : Option (Option String × String × List Token) :=
  match takeName? false ts with
  | none => none
  | some (first, _, rest) =>
    match takeSign? false .comma rest with
    | none => (takeWord? false "in" rest).map fun rest => (none, first, rest)
    | some (_, rest) =>
      match takeName? false rest with
      | none => none
      | some (second, _, rest) => (takeWord? false "in" rest).map fun rest => (some first, second, rest)

mutual

/-- Reads an expression. -/
def readExpr (lines : Bool) : (fuel : Nat) → List Token → Option (Expr × List Token)
  | 0, _ => none
  | fuel + 1, ts =>
    match readBinary lines 0 fuel ts with
    | none => none
    | some (condition, ts) =>
      match takeSign? lines .question ts with
      | none => some (condition, ts)
      | some (_, rest) =>
        match readExpr lines fuel rest with
        | none => none
        | some (yes, rest) =>
          match takeSign? lines .colon rest with
          | none => none
          | some (_, rest) =>
            match readExpr lines fuel rest with
            | none => none
            | some (no, rest) =>
              some (.conditional condition yes no (condition.region.upTo no.region), rest)

/-- Reads operands joined by operators of a level and of those that bind more. -/
def readBinary (lines : Bool) (level : Nat) : (fuel : Nat) → List Token → Option (Expr × List Token)
  | 0, _ => none
  | fuel + 1, ts =>
    if BinaryOp.levels ≤ level then readWithSteps lines fuel ts
    else
      match readBinary lines (level + 1) fuel ts with
      | none => none
      | some (left, ts) => readOperators lines level left fuel ts

/-- Reads further operands of a level behind a left operand. -/
def readOperators (lines : Bool) (level : Nat) (left : Expr) : (fuel : Nat) → List Token → Option (Expr × List Token)
  | 0, _ => none
  | fuel + 1, ts =>
    match takeOperator? lines level ts with
    | none => some (left, ts)
    | some (op, rest) =>
      match readBinary lines (level + 1) fuel rest with
      | none => none
      | some (right, rest) =>
        readOperators lines level (.binary op left right (left.region.upTo right.region)) fuel rest

/-- Reads a term and the steps behind it. -/
def readWithSteps (lines : Bool) : (fuel : Nat) → List Token → Option (Expr × List Token)
  | 0, _ => none
  | fuel + 1, ts =>
    match readTerm lines fuel ts with
    | none => none
    | some (e, ts) => readSteps lines e fuel ts

/-- Reads the steps behind an expression. -/
def readSteps (lines : Bool) (e : Expr) : (fuel : Nat) → List Token → Option (Expr × List Token)
  | 0, _ => none
  | fuel + 1, ts =>
    match visible lines ts with
    | ⟨.sign .dot, dot⟩ :: rest =>
      match visible lines rest with
      | ⟨.name n, r⟩ :: rest => readSteps lines (e.addStep (.attribute n (dot.upTo r)) (dot.upTo r)) fuel rest
      | ⟨.number n, r⟩ :: rest =>
        match legacyIndex? n with
        | none => none
        | some k => readSteps lines (e.addStep (.index k (dot.upTo r)) (dot.upTo r)) fuel rest
      | ⟨.sign .star, star⟩ :: rest =>
        match splatSteps? lines fuel rest with
        | none => none
        | some (path, rest) =>
          let each := splatEach (dot.upTo star) path
          let stop := (path.getLast?.map (·.2)).getD star
          readSteps lines (.splat e each (e.region.upTo stop)) fuel rest
      | _ => none
    | ⟨.sign .bracketOpen, open_⟩ :: rest =>
      match takeSign? lines .star rest with
      | some (_, rest) =>
        match takeSign? lines .bracketClose rest with
        | none => none
        | some (close, rest) =>
          match readSteps lines (.element (open_.upTo close)) fuel rest with
          | none => none
          | some (each, rest) => readSteps lines (.splat e each (e.region.upTo each.region)) fuel rest
      | none =>
        match readExpr false fuel rest with
        | none => none
        | some (key, rest) =>
          match takeSign? false .bracketClose rest with
          | none => none
          | some (close, rest) =>
            let bracket := open_.upTo close
            match key.literalKey? with
            | some k => readSteps lines (e.addStep (.index k bracket) bracket) fuel rest
            | none => readSteps lines (.index e key bracket (e.region.upTo bracket)) fuel rest
    | _ => some (e, ts)

/-- Reads a term. -/
def readTerm (lines : Bool) : (fuel : Nat) → List Token → Option (Expr × List Token)
  | 0, _ => none
  | fuel + 1, ts =>
    match visible lines ts with
    | ⟨.number n, r⟩ :: rest => (Number.readNumeral? n).map fun x => (.literal (.number x) r, rest)
    | ⟨.name n, r⟩ :: rest =>
      match visible lines rest with
      | ⟨.sign .parenOpen, _⟩ :: args => (readArguments fuel args).map fun c => (.call (r.upTo c.1), c.2)
      | ⟨.sign .doubleColon, _⟩ :: more => readQualifiedCall lines r fuel more
      | _ =>
        some (if n = "true" then .literal (.bool true) r
          else if n = "false" then .literal (.bool false) r
          else if n = "null" then .literal .untypedNull r
          else .named n r [] r, rest)
    | ⟨.quoteOpen, r⟩ :: rest => (readTemplate .quoteClose false r fuel rest)
    | ⟨.heredocOpen flush, r⟩ :: rest => (readTemplate .heredocClose flush r fuel rest)
    | ⟨.sign .parenOpen, r⟩ :: rest =>
      match readExpr false fuel rest with
      | none => none
      | some (inner, rest) =>
        (takeSign? false .parenClose rest).map fun c => (.parenthesized inner (r.upTo c.1), c.2)
    | ⟨.sign .minus, r⟩ :: rest =>
      (readWithSteps lines fuel rest).map fun o => (.unary .negate o.1 (r.upTo o.1.region), o.2)
    | ⟨.sign .not, r⟩ :: rest =>
      (readWithSteps lines fuel rest).map fun o => (.unary .not o.1 (r.upTo o.1.region), o.2)
    | ⟨.sign .bracketOpen, r⟩ :: rest =>
      match takeWord? false "for" rest with
      | some rest => readFor false r fuel rest
      | none => (readItems fuel rest).map fun i => (.tuple i.1 (r.upTo i.2.1), i.2.2)
    | ⟨.sign .braceOpen, r⟩ :: rest =>
      match takeWord? false "for" rest with
      | some rest => readFor true r fuel rest
      | none => (readEntries fuel rest).map fun i => (.object i.1 (r.upTo i.2.1), i.2.2)
    | _ => none

/-- Reads the rest of the name of a qualified call and its arguments. -/
def readQualifiedCall (lines : Bool) (start : Region) : (fuel : Nat) → List Token → Option (Expr × List Token)
  | 0, _ => none
  | fuel + 1, ts =>
    match takeName? lines ts with
    | none => none
    | some (_, _, rest) =>
      match visible lines rest with
      | ⟨.sign .parenOpen, _⟩ :: args => (readArguments fuel args).map fun c => (.call (start.upTo c.1), c.2)
      | ⟨.sign .doubleColon, _⟩ :: more => readQualifiedCall lines start fuel more
      | _ => none

/-- Reads the arguments of a call up to its closing parenthesis, of which it gives the region. -/
def readArguments : (fuel : Nat) → List Token → Option (Region × List Token)
  | 0, _ => none
  | fuel + 1, ts =>
    match takeSign? false .parenClose ts with
    | some close => some close
    | none =>
      match readExpr false fuel ts with
      | none => none
      | some (_, rest) =>
        match visible false rest with
        | ⟨.sign .parenClose, r⟩ :: rest => some (r, rest)
        | ⟨.sign .ellipsis, _⟩ :: rest => takeSign? false .parenClose rest
        | ⟨.sign .comma, _⟩ :: rest => readArguments fuel rest
        | _ => none

/-- Reads the items of a tuple up to its closing bracket, of which it gives the region. -/
def readItems : (fuel : Nat) → List Token → Option (List Expr × Region × List Token)
  | 0, _ => none
  | fuel + 1, ts =>
    match takeSign? false .bracketClose ts with
    | some close => some ([], close)
    | none =>
      match readExpr false fuel ts with
      | none => none
      | some (e, rest) =>
        match visible false rest with
        | ⟨.sign .bracketClose, r⟩ :: rest => some ([e], r, rest)
        | ⟨.sign .comma, _⟩ :: rest => (readItems fuel rest).map fun i => (e :: i.1, i.2)
        | _ => none

/-- Reads the entries of an object up to its closing brace, of which it gives the region. -/
def readEntries : (fuel : Nat) → List Token → Option (List ObjectItem × Region × List Token)
  | 0, _ => none
  | fuel + 1, ts =>
    match ts with
    | ⟨.newline, _⟩ :: rest => readEntries fuel rest
    | ⟨.sign .braceClose, r⟩ :: rest => some ([], r, rest)
    | _ =>
      let computed := (takeSign? true .parenOpen ts).isSome
      match readExpr true fuel ts with
      | none => none
      | some (key, rest) =>
        let value? := match rest with
          | ⟨.sign .assign, _⟩ :: rest => readExpr true fuel rest
          | ⟨.sign .colon, _⟩ :: rest => readExpr true fuel rest
          | _ => none
        match value? with
        | none => none
        | some (value, rest) =>
          let item := ObjectItem.mk computed key value
          match rest with
          | ⟨.sign .braceClose, r⟩ :: rest => some ([item], r, rest)
          | ⟨.sign .comma, _⟩ :: rest => (readEntries fuel rest).map fun i => (item :: i.1, i.2)
          | ⟨.newline, _⟩ :: rest => (readEntries fuel rest).map fun i => (item :: i.1, i.2)
          | _ => none

/-- Reads the rest of an iteration, which makes an object or a tuple. -/
def readFor (makesObject : Bool) (start : Region) : (fuel : Nat) → List Token → Option (Expr × List Token)
  | 0, _ => none
  | fuel + 1, ts =>
    match takeIterationNames? ts with
    | none => none
    | some (keyName, valueName, rest) =>
      match readExpr false fuel rest with
      | none => none
      | some (collection, rest) =>
        match takeSign? false .colon rest with
        | none => none
        | some (_, rest) =>
          match readExpr false fuel rest with
          | none => none
          | some (first, rest) =>
            let second? : Option (Option Expr × Expr × List Token) :=
              match takeSign? false .arrow rest with
              | none => some (none, first, rest)
              | some (_, rest) => (readExpr false fuel rest).map fun v => (some first, v.1, v.2)
            match second? with
            | none => none
            | some (key?, value, rest) =>
              let (group, rest) := match takeSign? false .ellipsis rest with
                | some (_, rest) => (true, rest)
                | none => (false, rest)
              let condition? : Option (Expr × List Token) :=
                match takeWord? false "if" rest with
                | none => some (always start, rest)
                | some rest => readExpr false fuel rest
              match condition? with
              | none => none
              | some (condition, rest) =>
                match takeSign? false (if makesObject then .braceClose else .bracketClose) rest with
                | none => none
                | some (close, rest) =>
                  let region := start.upTo close
                  match makesObject, key?, group with
                  | true, some key, _ =>
                    some (.forObject keyName valueName collection key value condition group region, rest)
                  | false, none, false => some (.forTuple keyName valueName collection value condition region, rest)
                  | _, _, _ => none

/-- Reads a template up to the token that closes it. -/
def readTemplate (close : TokenKind) (flush : Bool) (start : Region) :
    (fuel : Nat) → List Token → Option (Expr × List Token)
  | 0, _ => none
  | fuel + 1, ts =>
    match readParts close false [] fuel ts with
    | none => none
    | some (parts, stop, rest) =>
      let parts := Part.meld (if flush then Part.flush parts else parts)
      (Part.toExpr? (start.upTo stop) parts).map fun e => (e, rest)

/-- Reads the parts of a template behind those in `done`, up to the token that closes it, of which it gives the
region.  The flag says whether the next part, if it is a literal, loses its leading blanks. -/
def readParts (close : TokenKind) (trim : Bool) (done : List Part) :
    (fuel : Nat) → List Token → Option (List Part × Region × List Token)
  | 0, _ => none
  | fuel + 1, ts =>
    match ts with
    | [] => none
    | ⟨kind, region⟩ :: rest =>
      if kind = close then some (done, region, rest)
      else
        match kind with
        | .literal text => readParts close false (done ++ [.literal (if trim then Text.trimLeft text else text)]) fuel rest
        | .valueOpen trims =>
          match readExpr false fuel rest with
          | none => none
          | some (e, rest) =>
            match takeSequenceClose? rest with
            | none => none
            | some (next, rest) =>
              readParts close next ((if trims then trimLast done else done) ++ [.value e]) fuel rest
        | .directiveOpen trims =>
          match readDirective fuel rest with
          | none => none
          | some (part, rest) =>
            match takeSequenceClose? rest with
            | none => none
            | some (next, rest) =>
              readParts close next ((if trims then trimLast done else done) ++ [part]) fuel rest
        | _ => none

/-- Reads a directive. -/
def readDirective : (fuel : Nat) → List Token → Option (Part × List Token)
  | 0, _ => none
  | fuel + 1, ts =>
    match takeName? false ts with
    | none => none
    | some (word, _, rest) =>
      if word = "if" then (readExpr false fuel rest).map fun c => (.ifOpen c.1, c.2)
      else if word = "else" then some (.elseMark, rest)
      else if word = "endif" then some (.ifClose, rest)
      else if word = "endfor" then some (.forClose, rest)
      else if word = "for" then
        match takeIterationNames? rest with
        | none => none
        | some (keyName, valueName, rest) =>
          (readExpr false fuel rest).map fun c => (.forOpen keyName valueName c.1, c.2)
      else none

end

end FibTiming.SuiteFile
