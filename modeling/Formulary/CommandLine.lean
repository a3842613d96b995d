import Formulary.Number.Decimal
import Formulary.Text.Blank
import Formulary.Text.Quoted

/-!
# The command line

Reading the arguments of the program.  Long options may be shortened to what no
other option starts with, and take their value from the next argument or after
an equals sign; two dashes after the sign are taken away and leave the option
with nothing.  An argument that starts with a dash is an option, unless it is
a dash alone, a negative number or a text with a blank in it; after two dashes
nothing is.  There are no arguments besides options, so that what is left over
is an error.

All arguments are told apart before the first is acted upon, so that an
ambiguous one is reported before any other mistake.  After that they are acted
upon in order, and the first that ends the program decides how it ends.
-/

namespace Formulary.CommandLine

/-- The options. -/
inductive Switch where
  | help
  | host
  | port
  | reload
  | logLevel
  | logFile
deriving DecidableEq, Inhabited, Repr

namespace Switch

/-- The spellings of the options, in the order in which messages list them. -/
def spellings : List (String × Switch) := [
  ("-h", .help), ("--help", .help), ("--host", .host), ("--port", .port), ("--reload", .reload),
  ("--log-level", .logLevel), ("--log-file", .logFile)]

/-- The option of a spelling. -/
def ofSpelling? (t : Text) : Option Switch :=
  (spellings.find? fun (spelling, _) => Text.ofString spelling = t).map Prod.snd

/-- An option as messages name it: all its spellings. -/
def title (switch : Switch) : String :=
  String.intercalate "/" ((spellings.filter fun (_, s) => s = switch).map Prod.fst)

/-- The option takes a value. -/
def takesValue : Switch → Bool
  | .help | .reload => false
  | .host | .port | .logLevel | .logFile => true

end Switch

/-- What is wrong with the arguments. -/
inductive UsageError where
  /-- A shortened option that several options start with. -/
  | ambiguous (argument : Text) (spellings : List String)
  | missingValue (switch : Switch)
  /-- A value for an option that takes none. -/
  | extraValue (switch : Switch) (value : Text)
  /-- A port that is no integer. -/
  | invalidPort (value : Text)
  | unrecognized (arguments : List Text)
deriving DecidableEq, Repr

/-- The wording of a usage error. -/
def UsageError.message : UsageError → Text
  | .ambiguous argument spellings =>
    "ambiguous option: " ++ argument ++ " could match " ++ String.intercalate ", " spellings
  | .missingValue switch => "argument " ++ switch.title ++ ": expected one argument"
  | .extraValue switch value =>
    "argument " ++ switch.title ++ ": ignored explicit argument " ++ Text.quoted value
  | .invalidPort value =>
    "argument " ++ Switch.port.title ++ ": invalid int value: " ++ Text.quoted value
  | .unrecognized arguments => "unrecognized arguments: " ++ Text.intercalate " " arguments

/-- Why the program ends before it starts. -/
inductive Exit where
  | help
  | usage (error : UsageError)
deriving DecidableEq, Repr

/-- The exit code. -/
def Exit.code : Exit → Nat
  | .help => 0
  | .usage _ => 2

/-- What is said about the mistake, if there is one. -/
def Exit.message : Exit → Text
  | .help => ""
  | .usage error => error.message

/-! ## Telling arguments apart -/

/-- An argument by its role. -/
inductive Token where
  | word (t : Text)
  /-- Two dashes: the rest are words. -/
  | separator
  /-- An option, with a value after an equals sign. -/
  | switch (switch : Switch) (value : Option Text)
  /-- The short help option with a text attached, directly or by an equals sign. -/
  | shortHelp (attached : List CodePoint)
  /-- An option that does not exist. -/
  | unknown (t : Text)
deriving DecidableEq, Repr

/-- A text split at its first equals sign. -/
def splitAtEquals (ps : List CodePoint) : Text × Option Text :=
  let before := Text.ofPoints (ps.takeWhile (· ≠ .char '='))
  match ps.dropWhile (· ≠ .char '=') with
  | _ :: value => (before, some (.ofPoints value))
  | [] => (before, none)

/-- Digits of any script and at least one. -/
def isDigits (s : List Char) : Bool := !s.isEmpty && s.all fun c => (Text.digit? c).isSome

/-- A negative number: a dash and digits, with or without a point among them. -/
def isNegativeNumber (s : List Char) : Bool :=
  match Text.dropLineEnd s with
  | '-' :: body =>
    isDigits body ||
      match body.dropWhile fun c => (Text.digit? c).isSome with
      | '.' :: fraction => isDigits fraction
      | _ => false
  | _ => false

/-- The spellings that a shortened long option may stand for. -/
def completions (start : Text) : List (String × Switch) :=
  if (Text.points "--").isPrefixOf start.points then
    Switch.spellings.filter fun (spelling, _) => start.points.isPrefixOf (Text.points spelling)
  else []

/-- The role of an argument that starts with a dash and is no long option. -/
def classifyDashed (t : Text) : Token :=
  match t.points with
  | .char '-' :: .char 'h' :: attached => .shortHelp attached
  | ps =>
    if t.string?.any (fun s => isNegativeNumber s.toList) || ps.contains (.char ' ') then .word t
    else .unknown t

/-- The role of an argument that is not two dashes. -/
def classify (t : Text) : Except UsageError Token :=
  match t.points with
  | .char '-' :: _ :: _ =>
    let (start, value) := splitAtEquals t.points
    match Switch.ofSpelling? start, value with
    | some switch, none => .ok (.switch switch none)
    | some switch, some value =>
      .ok (if start = "-h" then .shortHelp value.points else .switch switch (some value))
    | none, _ =>
      match completions start with
      | [(_, switch)] => .ok (.switch switch value)
      | [] => .ok (classifyDashed t)
      | several => .error (.ambiguous t (several.map Prod.fst))
  | _ => .ok (.word t)

/-- The arguments by their roles. -/
def tokens : List Text → Except UsageError (List Token)
  | [] => .ok []
  | t :: rest =>
    if t = "--" then .ok (.separator :: rest.map .word)
    else do
      let token ← classify t
      let more ← tokens rest
      return token :: more

/-! ## Acting upon options -/

/-- What an option is given. -/
inductive Given (α : Type) where
  | value (a : α)
  /-- The option is there, and its value has been taken away. -/
  | nothing
deriving DecidableEq, Repr

/-- What an option is given by a text after an equals sign. -/
def Given.ofText {α ε : Type} (read : Text → Except ε α) (t : Text) : Except ε (Given α) :=
  if t = "--" then .ok .nothing else .value <$> read t

/-- What an option is given, as a message shows it. -/
def Given.shown {α : Type} (text : α → Text) : Given α → Text
  | .value a => text a
  | .nothing => "[]"

/-- The settings of the program. -/
structure Settings where
  host : Given Text
  port : Given Int
  reload : Bool
  logLevel : Given Text
  /-- The file that is logged to, if there is one. -/
  logFile : Option (Given Text)
deriving DecidableEq, Repr

/-- The settings without any option. -/
def Settings.default : Settings where
  host := .value "127.0.0.1"
  port := .value 8001
  reload := false
  logLevel := .value "INFO"
  logFile := none

/-- The port that a text stands for. -/
def readPort (t : Text) : Except Exit Int :=
  match t.string?.bind fun s => Number.integer? (Text.trimWhere Text.isWhite s.toList) with
  | some n => .ok n
  | none => .error (.usage (.invalidPort t))

/-- The end that the short help option leads to with a text attached: the option
may be repeated there, and nothing else may stand there. -/
def exitForAttached : List CodePoint → Exit
  | [] => .usage (.extraValue .help "")
  | [.char 'h'] => .help
  | .char 'h' :: rest => exitForAttached rest
  | attached => .usage (.extraValue .help (.ofPoints attached))

/-- The settings with a value given to an option. -/
def Settings.set (settings : Settings) (switch : Switch) (t : Text) : Except Exit Settings :=
  match switch with
  | .host => do return { settings with host := ← Given.ofText .ok t }
  | .logLevel => do return { settings with logLevel := ← Given.ofText .ok t }
  | .logFile => do return { settings with logFile := some (← Given.ofText .ok t) }
  | .port => do return { settings with port := ← Given.ofText readPort t }
  | .help | .reload => .error (.usage (.extraValue switch t))

/-- The settings with an option that stands without a value. -/
def Settings.switchOn (settings : Settings) : Switch → Except Exit Settings
  | .help => .error .help
  | .reload => .ok { settings with reload := true }
  | switch => .error (.usage (.missingValue switch))

/-- The settings that arguments lead to, and the arguments that are left over. -/
def interpret (settings : Settings) : List Token → Except Exit (Settings × List Text)
  | [] => .ok (settings, [])
  | .word t :: rest | .unknown t :: rest => do
    let (settings, extras) ← interpret settings rest
    return (settings, t :: extras)
  | .separator :: rest => do
    let (settings, extras) ← interpret settings rest
    return (settings, "--" :: extras)
  | .shortHelp attached :: _ => .error (exitForAttached attached)
  | .switch switch (some t) :: rest => do interpret (← settings.set switch t) rest
  | .switch switch none :: .word t :: rest =>
    if switch.takesValue then do interpret (← settings.set switch t) rest
    else do interpret (← settings.switchOn switch) (.word t :: rest)
  | .switch switch none :: rest => do interpret (← settings.switchOn switch) rest

/-- The settings that the arguments of the program ask for. -/
def parse (arguments : List Text) : Except Exit Settings := do
  let tokens ← (tokens arguments).mapError .usage
  let (settings, extras) ← interpret .default tokens
  if extras.isEmpty then return settings
  else .error (.usage (.unrecognized extras))

example : parse [] = .ok .default := rfl

end Formulary.CommandLine
