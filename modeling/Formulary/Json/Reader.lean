import Formulary.Number.Decimal
import Formulary.Text.Hex
import Formulary.Value.Basic

/-!
# Reading JSON

A JSON text read into a value.  An integer is a number without fraction and
exponent; all others are double-precision.  The names `NaN`, `Infinity` and
`-Infinity` are accepted.  In an object the last value of a repeated name counts
and stands where the name stood first.

A text that is no JSON is refused with the offset of the code point at which
something else was expected; an unterminated string counts from its opening
mark.  Inside the reader a place is known by how many code points are left there.
A string may hold lone halves of surrogate pairs, as they are or named by an
escape.
-/

namespace Formulary.Json

/-- Why a text was refused. -/
inductive ReadError where
  /-- Something else was expected at this offset. -/
  | syntaxError (offset : Nat)
  /-- An integer has more digits than may be read. -/
  | integerTooLong
  /-- Lists and objects are nested too deep. -/
  | tooDeep
deriving DecidableEq, Repr

/-- Where reading stopped: with this many code points left, or at something that is
well-formed and too large. -/
inductive Stop where
  | left (count : Nat)
  | integerTooLong
  | tooDeep

/-- The blanks between the tokens of a JSON text. -/
def isSpace (c : Char) : Bool := c = ' ' || c = '\t' || c = '\n' || c = '\r'

/-- A text without the blanks it starts with. -/
def skipSpace (s : List CodePoint) : List CodePoint := s.dropWhile (CodePoint.satisfies isSpace)

/-! ## Strings -/

/-- The character that a letter after a backslash stands for. -/
def escaped? (c : Char) : Option Char :=
  if c = '\x22' || c = '\\' || c = '/' then some c
  else if c = 'n' then some '\n'
  else if c = 't' then some '\t'
  else if c = 'r' then some '\r'
  else if c = 'b' then some '\x08'
  else if c = 'f' then some '\x0c'
  else none

/-- The number that four hexadecimal digits stand for. -/
def hex4? (a b c d : CodePoint) : Option Nat := do
  let a ← a.char?.bind Text.hexValue?
  let b ← b.char?.bind Text.hexValue?
  let c ← c.char?.bind Text.hexValue?
  let d ← d.char?.bind Text.hexValue?
  return ((a * 16 + b) * 16 + c) * 16 + d

/-- The code points of a string up to its closing mark, and what follows it;
`opening` code points were left at the opening mark.  An escape by number needs
something after its four digits, and may name half of a surrogate pair. -/
def readPoints (opening : Nat) :
    List CodePoint → Except Stop (List CodePoint × List CodePoint)
  | [] => .error (.left opening)
  | .half h :: rest => do
    let (ps, rest) ← readPoints opening rest
    return (.half h :: ps, rest)
  | .char c :: rest =>
    if c = '\x22' then .ok ([], rest)
    else if c.toNat < 0x20 then .error (.left (rest.length + 1))
    else if c ≠ '\\' then do
      let (ps, rest) ← readPoints opening rest
      return (.char c :: ps, rest)
    else match rest with
      | [] => .error (.left opening)
      | .char 'u' :: h₁ :: h₂ :: h₃ :: h₄ :: rest =>
        if rest.isEmpty then .error (.left (rest.length + 5))
        else match hex4? h₁ h₂ h₃ h₄, rest with
          | none, rest => .error (.left (rest.length + 5))
          | some unit, .char '\\' :: .char 'u' :: k₁ :: k₂ :: k₃ :: k₄ :: rest =>
            let escape := .char '\\' :: .char 'u' :: k₁ :: k₂ :: k₃ :: k₄ :: rest
            if CodePoint.isHighHalf unit && !rest.isEmpty then
              match hex4? k₁ k₂ k₃ k₄ with
              | none => .error (.left (rest.length + 5))
              | some low =>
                if CodePoint.isLowHalf low then do
                  let (ps, rest) ← readPoints opening rest
                  return (.ofPair unit low :: ps, rest)
                else do
                  let (ps, rest) ← readPoints opening escape
                  return (.ofNat unit :: ps, rest)
            else do
              let (ps, rest) ← readPoints opening escape
              return (.ofNat unit :: ps, rest)
          | some unit, rest => do
            let (ps, rest) ← readPoints opening rest
            return (.ofNat unit :: ps, rest)
      | e :: rest =>
        if e = .char 'u' then .error (.left (rest.length + 1))
        else match e.char?.bind escaped? with
          | none => .error (.left (rest.length + 2))
          | some c => do
            let (ps, rest) ← readPoints opening rest
            return (.char c :: ps, rest)
termination_by s => s.length

/-- A string after its opening mark. -/
def readString (rest : List CodePoint) : Except Stop (Text × List CodePoint) := do
  let (ps, rest) ← readPoints (rest.length + 1) rest
  return (.ofPoints ps, rest)

/-! ## Numbers -/

/-- An ASCII digit. -/
def isDigit : CodePoint → Bool := CodePoint.satisfies Char.isDigit

/-- The ASCII digits that a text starts with, as values, and the rest. -/
def asciiDigits (s : List CodePoint) : List Nat × List CodePoint :=
  ((s.takeWhile isDigit).map (·.toNat - 0x30), s.dropWhile isDigit)

/-- A leading sign, taken off: whether it is a minus, and the rest. -/
def takeSign : List CodePoint → Bool × List CodePoint
  | .char '-' :: rest => (true, rest)
  | .char '+' :: rest => (false, rest)
  | s => (false, s)

/-- The digits of a fraction: a point and at least one digit. -/
def fraction (s : List CodePoint) : Option (List Nat) × List CodePoint :=
  match s with
  | .char '.' :: rest =>
    match asciiDigits rest with
    | ([], _) => (none, s)
    | (ds, rest) => (some ds, rest)
  | _ => (none, s)

/-- A power of ten: the letter `e`, perhaps a sign, and at least one digit. -/
def exponent (s : List CodePoint) : Option Int × List CodePoint :=
  match s with
  | p :: rest =>
    if p = .char 'e' || p = .char 'E' then
      let (negative, body) := takeSign rest
      match asciiDigits body with
      | ([], _) => (none, s)
      | (ds, rest) =>
        let n : Int := Number.ofDigits ds
        (some (if negative then -n else n), rest)
    else (none, s)
  | [] => (none, s)

/-- The digits before the point: a zero alone, or digits that start with another
one. -/
def wholeDigits (s : List CodePoint) : List Nat × List CodePoint :=
  match s with
  | .char '0' :: rest => ([0], rest)
  | _ => asciiDigits s

/-- A number; `before` is the text with its sign, for the place of a failure. -/
def readNumber (before : List CodePoint) : Except Stop (Value × List CodePoint) :=
  let (negative, s) := match before with
    | .char '-' :: rest => (true, rest)
    | s => (false, s)
  match wholeDigits s with
  | ([], _) => .error (.left before.length)
  | (whole, rest) =>
    let (frac, rest) := fraction rest
    let (power, rest) := exponent rest
    match frac, power with
    | none, none =>
      if whole.length > Number.maxIntegerDigits then .error .integerTooLong
      else
        let n : Int := Number.ofDigits whole
        .ok (.int (if negative then -n else n), rest)
    | _, _ =>
      let ds := frac.getD []
      .ok (.float (.ofDecimal negative (Number.ofDigits (whole ++ ds))
        (power.getD 0 - ds.length)), rest)

/-! ## Values -/

/-- The names that stand for values. -/
def constants : List (Text × Value) := [
  ("null", .null), ("true", .bool true), ("false", .bool false), ("NaN", .float (.nan true)),
  ("Infinity", .float (.infinite false)), ("-Infinity", .float (.infinite true))]

/-- The value of a name that a text starts with, and the rest. -/
def constant? (s : List CodePoint) : Option (Value × List CodePoint) :=
  constants.findSome? fun (name, v) =>
    if name.points.isPrefixOf s then some (v, s.drop name.points.length) else none

/-- How deep lists and objects may be nested. -/
def maxDepth : Nat := 950

mutual

/-- A value at the start of a text, and the rest; `depth` more lists and objects
may be opened around one another. -/
def readValue : (fuel depth : Nat) → List CodePoint → Except Stop (Value × List CodePoint)
  | 0, _, s => .error (.left s.length)
  | fuel + 1, depth, s =>
    match s with
    | .char '\x22' :: rest => do
      let (t, rest) ← readString rest
      return (.str t, rest)
    | .char '[' :: rest =>
      if depth = 0 then .error .tooDeep
      else match skipSpace rest with
        | .char ']' :: rest => .ok (.list [], rest)
        | rest => do
          let (items, rest) ← readItems fuel (depth - 1) rest
          return (.list items, rest)
    | .char '\x7b' :: rest =>
      if depth = 0 then .error .tooDeep
      else match skipSpace rest with
        | .char '\x7d' :: rest => .ok (.object [], rest)
        | rest => do
          let (members, rest) ← readMembers fuel (depth - 1) rest
          return (.object (Entries.ofList members), rest)
    | s =>
      match constant? s with
      | some found => .ok found
      | none => readNumber s

/-- The items of a list up to its closing bracket, at least one. -/
def readItems : (fuel depth : Nat) → List CodePoint →
    Except Stop (List Value × List CodePoint)
  | 0, _, s => .error (.left s.length)
  | fuel + 1, depth, s => do
    let (v, rest) ← readValue fuel depth s
    match skipSpace rest with
    | .char ']' :: rest => return ([v], rest)
    | .char ',' :: rest =>
      let (vs, rest) ← readItems fuel depth (skipSpace rest)
      return (v :: vs, rest)
    | rest => .error (.left rest.length)

/-- The members of an object up to its closing brace, at least one. -/
def readMembers : (fuel depth : Nat) → List CodePoint →
    Except Stop (List (Text × Value) × List CodePoint)
  | 0, _, s => .error (.left s.length)
  | fuel + 1, depth, s =>
    match s with
    | .char '\x22' :: rest => do
      let (name, rest) ← readString rest
      match skipSpace rest with
      | .char ':' :: rest =>
        let (v, rest) ← readValue fuel depth (skipSpace rest)
        match skipSpace rest with
        | .char '\x7d' :: rest => return ([(name, v)], rest)
        | .char ',' :: rest =>
          let (ms, rest) ← readMembers fuel depth (skipSpace rest)
          return ((name, v) :: ms, rest)
        | rest => .error (.left rest.length)
      | rest => .error (.left rest.length)
    | s => .error (.left s.length)

end

/-- The value of a JSON text.  Every second step of the reader takes a code point
off the text, so twice its length is enough fuel. -/
def read (text : Text) : Except ReadError Value :=
  let s := text.points
  let result := do
    let (v, rest) ← readValue (2 * s.length + 2) maxDepth (skipSpace s)
    match skipSpace rest with
    | [] => .ok v
    | rest => .error (.left rest.length)
  match result with
  | .ok v => .ok v
  | .error (.left count) => .error (.syntaxError (s.length - count))
  | .error .integerTooLong => .error .integerTooLong
  | .error .tooDeep => .error .tooDeep

end Formulary.Json
