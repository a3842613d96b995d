import Formulary.Text.Basic

/-!
# Setting up the log

Which records the program writes about its own log, and where: to standard
output and, when one is named, to a file.  A level is named in letters of either
case, and a name that is not known stands for `INFO`.

A record is written after the time, and may take several lines when the name of
the level or of the file does.  The file is kept in UTF-8, so that a record with a
lone half of a surrogate pair is missing there.
-/

namespace Formulary

/-- What the name of a level may stand for. -/
inductive LevelName where
  | level (n : Nat)
  /-- The name of the plain line format, which is no level. -/
  | lineFormat
  /-- The name of the table of format styles, which is no level. -/
  | styles
deriving DecidableEq, Repr

namespace LevelName

/-- The names, in capital letters. -/
def table : List (String × LevelName) := [
  ("NOTSET", .level 0), ("DEBUG", .level 10), ("INFO", .level 20), ("WARN", .level 30),
  ("WARNING", .level 30), ("ERROR", .level 40), ("CRITICAL", .level 50), ("FATAL", .level 50),
  ("BASIC_FORMAT", .lineFormat), ("_STYLES", .styles)]

/-- The capital letters of a letter.  Besides the letters of ASCII, a dotless i, a
long s and the ligatures of s and t have capitals that occur in the names. -/
def capitals (c : Char) : List Char :=
  if c = 'ı' then ['I']
  else if c = 'ſ' then ['S']
  else if c = 'ﬅ' || c = 'ﬆ' then ['S', 'T']
  else [c.toUpper]

/-- What a name stands for. -/
def ofText (name : Text) : LevelName :=
  let name? := name.string?.map fun s => String.ofList (s.toList.flatMap capitals)
  ((table.find? fun (n, _) => some n = name?).map Prod.snd).getD (.level 20)

end LevelName

/-- What a name that is the name of no level stands for. -/
inductive LevelFault where
  | lineFormat
  | styles
deriving DecidableEq, Repr

/-- The plain line format in the three styles of format texts: the mark of the
style, its name and the format. -/
def lineFormats : List (String × String × String) := [
  ("%", "PercentStyle", "%(levelname)s:%(name)s:%(message)s"),
  ("\x7b", "StrFormatStyle", "\x7blevelname\x7d:\x7bname\x7d:\x7bmessage\x7d"),
  ("$", "StringTemplateStyle", "$\x7blevelname\x7d:$\x7bname\x7d:$\x7bmessage\x7d")]

/-- The wording of a fault. -/
def LevelFault.message : LevelFault → String
  | .lineFormat => "Unknown level: '%(levelname)s:%(name)s:%(message)s'"
  | .styles =>
    let entries := lineFormats.map fun (mark, style, format) =>
      "'" ++ mark ++ "': (<class 'logging." ++ style ++ "'>, '" ++ format ++ "')"
    "Level not an integer or a valid string: \x7b" ++ String.intercalate ", " entries ++ "\x7d"

/-- How the log is set up. -/
structure LogSetup where
  level : Nat
  /-- The records written about the setup itself. -/
  records : List Text
  /-- The file that they are written to as well. -/
  file : Option Text
deriving DecidableEq, Repr

namespace LogSetup

/-- The level of the records about the setup. -/
def infoLevel : Nat := 20

/-- The level from which on database statements are logged. -/
def databaseLevel : Nat := 30

/-- What stands between the parts of a record. -/
def separator : List CodePoint := [.char ' ', .char '-', .char ' ']

/-- A record about the setup, without its time. -/
def record (message : Text) : Text := "root - INFO - " ++ message

/-- The number of places that records are written to. -/
def handlers (setup : LogSetup) : Nat := if setup.file.isSome then 2 else 1

/-- The log set up with the name of a level and, unless it is empty, of a file;
or what the name stands for when it is that of no level. -/
def configure (name : Text) (file : Option Text) : Except LevelFault LogSetup :=
  match LevelName.ofText name with
  | .lineFormat => .error .lineFormat
  | .styles => .error .styles
  | .level n =>
    let file := file.filter fun f : Text => f ≠ ""
    let records := record ("Logging configured with level: " ++ name)
      :: file.toList.map fun f => record ("Logs will be saved to: " ++ f)
    .ok ⟨n, if n ≤ infoLevel then records else [], file⟩

/-! ## The written lines -/

/-- A character that ends a line. -/
def endsLine (c : Char) : Bool :=
  let n := c.toNat
  (0x0A ≤ n && n ≤ 0x0D) || (0x1C ≤ n && n ≤ 0x1E) || n == 0x85 || n == 0x2028 || n == 0x2029

/-- The lines of a text; a carriage return and a line feed end one line. -/
def splitLines : List CodePoint → List (List CodePoint)
  | [] => []
  | .char '\r' :: .char '\n' :: rest => [] :: splitLines rest
  | p :: rest =>
    if p.satisfies endsLine then [] :: splitLines rest
    else match splitLines rest with
      | [] => [[p]]
      | line :: lines => (p :: line) :: lines

/-- What follows the first separator in a line; nothing in a line that has none. -/
def afterSeparator : List CodePoint → List CodePoint
  | [] => []
  | p :: rest =>
    if separator.isPrefixOf (p :: rest) then rest.drop 2 else afterSeparator rest

/-- The lines of a record, which ends with a line feed, each without what stands
before its first separator.  On the first line that is the time, which a record
does not hold, and a later line that has no separator is left empty. -/
def untimedLines (record : Text) : List Text :=
  match splitLines (record.points ++ [.char '\n']) with
  | [] => []
  | line :: lines => .ofPoints line :: lines.map fun l => .ofPoints (afterSeparator l)

/-- The written lines, each without its time. -/
def lines (setup : LogSetup) : List Text := setup.records.flatMap untimedLines

/-- The lines that the file takes, each without its time. -/
def fileLines (setup : LogSetup) : List Text :=
  (setup.records.filter Text.isEncodable).flatMap untimedLines

end LogSetup

end Formulary
