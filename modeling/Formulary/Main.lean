import Formulary.CommandLine
import Formulary.Json.Writer
import Formulary.LogSetup
import Formulary.Server

/-!
# The program

Reads the arguments, sets up the log and answers requests.  A request comes as one
line of JSON on standard input, with the members `method`, `path`, `headers` and
`body`, and its response goes as one line to standard output.  The log goes to
standard error and to the file that the arguments name.
-/

namespace Formulary

open CommandLine

/-- What the program says about its use. -/
def usage : String :=
  "usage: formulary [-h] [--host HOST] [--port PORT] [--reload]\n"
    ++ "                 [--log-level LOG_LEVEL] [--log-file LOG_FILE]"

/-- The header lines in a request's line. -/
def readHeaders (v : Value) : Headers :=
  (v.items?.getD []).filterMap fun
    | .list [.str name, .str value] => return (← name.string?, ← value.string?)
    | _ => none

/-- The request of a line. -/
def readRequest (v : Value) : Http.Request :=
  let members : Entries Value := v.members?.getD []
  let string? (name : String) : Option String :=
    (Value.member members name).text?.bind Text.string?
  let request : Http.Request :=
    ⟨(string? "method").getD "", (string? "path").getD "",
      readHeaders (Value.member members "headers"), ""⟩
  ((Value.member members "body").text?.map request.withBody).getD request

/-- The line of a response. -/
def writeResponse : Http.Response → String
  | .json status body => Json.encode (.object [("status", .int status), ("body", body)])
  | .empty status => Json.encode (.object [("status", .int status), ("body", .null)])
  | .crash _ => Json.encode (.object [("status", .int 500), ("body", .null)])

/-- Writes a line of the log. -/
def writeLog (file : Option Text) (line : Text) : IO Unit := do
  IO.eprintln line
  if let (some name, some line) := (file, line.string?) then
    let handle ← IO.FS.Handle.mk name.escaped .append
    handle.putStrLn line

/-- Answers the requests that come in, one a line. -/
partial def serve (file : Option Text) (server : Server) : IO Unit := do
  let line ← (← IO.getStdin).getLine
  if line.isEmpty then return
  match Json.read line with
  | .error _ =>
    IO.println (Json.encode .null)
    serve file server
  | .ok v =>
    let (report, server) := server.step (.request (readRequest v))
    if let .responded notices response := report then
      for notice in notices do
        writeLog file notice.line
      IO.println (writeResponse response)
    serve file server

/-- Sets up the log and serves. -/
def start (settings : Settings) : IO UInt32 := do
  let file := match settings.logFile with
    | some (.value name) => some name
    | _ => none
  match LogSetup.configure (settings.logLevel.shown id) file with
  | .error fault =>
    IO.eprintln fault.message
    return 1
  | .ok setup =>
    for line in setup.records do
      writeLog setup.file line
    if setup.level ≤ LogSetup.infoLevel then
      writeLog setup.file (LogSetup.record
        ("Starting API server on " ++ settings.host.shown id ++ ":"
          ++ settings.port.shown fun n => Number.integerText n))
    serve setup.file (.start ⟨false, true⟩)
    return 0

end Formulary

/-- The program. -/
def main (arguments : List String) : IO UInt32 := do
  match Formulary.CommandLine.parse (arguments.map Formulary.Text.ofString) with
  | .ok settings => Formulary.start settings
  | .error exit =>
    IO.eprintln Formulary.usage
    if exit.message ≠ "" then
      IO.eprintln ("formulary: error: " ++ exit.message.escaped)
    return exit.code.toUInt32
