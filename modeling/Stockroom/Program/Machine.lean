import Stockroom.Log.Handler
import Stockroom.Program.Flags
import Stockroom.Program.Folder
import Stockroom.Settings.EnvFile

/-!
What a program finds when it starts and what it leaves behind: variables and files, what it printed
and its exit code. Both programs start alike: they load a file of variables, read their flags and
open their log.

Main definitions: `Machine`, `Terminal`, `ProgramResult`, `startProgram`.
-/
namespace Stockroom
set_option autoImplicit false

/-! ## Machines -/

/-- What a program finds: variables, files, and what would be different each time. -/
structure Machine where
  environment : Environment := []
  folder : Folder := {}
  /-- The time in the log. -/
  time : Text := []
  /-- The name of an import. -/
  batch : Text := []
  /-- A password that nobody knows. -/
  password : Text := []
  /-- A secret that nobody knows. -/
  secret : Text := []
  /-- What the database says of a file it cannot open. -/
  databaseFault : Text := []
  now : Instant := .unset

/-- What a program leaves behind. -/
structure ProgramResult where
  exit : Nat
  stdout : Text := []
  stderr : Text := []
  folder : Folder := {}
  deriving DecidableEq, Repr

/-- What has been printed so far, the files, and how the log is written. -/
structure Terminal where
  stdout : Text := []
  stderr : Text := []
  folder : Folder := {}
  handler : LogHandler
  /-- The file that gets a copy of the log, if there is one, by its shortest path. -/
  logPath : Text := []

namespace Terminal

def print (t : Terminal) (s : Text) : Terminal := { t with stdout := t.stdout ++ s }

def printError (t : Terminal) (s : Text) : Terminal := { t with stderr := t.stderr ++ s }

/-- Writes an entry of the log. -/
def log (t : Terminal) (e : LogEntry) : Terminal :=
  if !t.handler.isEnabled e.level then t
  else
    let line := t.handler.line e
    let t := if t.logPath.isEmpty then t
      else { t with folder := t.folder.append t.logPath line }
    if LogLevel.error ≤ e.level then t.printError line else t.print line

def exit (t : Terminal) (code : Nat) : ProgramResult := ⟨code, t.stdout, t.stderr, t.folder⟩

/-- Ends with an error. -/
def fail (t : Terminal) (message : Text) : ProgramResult :=
  (t.printError ("error: " ++ message ++ "\n")).exit 1

end Terminal

/-! ## Starting -/

/-- The file of variables. -/
def envFileName : Text := ".env"

/-- The variables of the machine with those of the file of variables. -/
def Machine.loadEnvironment (m : Machine) : Except Text Environment :=
  match m.folder.text? envFileName with
  | none => .ok m.environment
  | some t =>
    match EnvFile.load m.environment t with
    | .ok env => .ok env
    | .error e => .error ("loading " ++ envFileName ++ ": " ++ e.message)

/-- Loads the variables, reads the flags and opens the log. The flags may depend on the variables. -/
def startProgram (m : Machine) (title : Text) (flags : Environment → List Flag)
    (arguments : List Text) : Except ProgramResult (Environment × ParsedFlags × Terminal) :=
  let blank : Terminal := { folder := m.folder, handler := { least := LogLevel.info, time := m.time } }
  match m.loadEnvironment with
  | .error message => .error (blank.fail message)
  | .ok env =>
    let known := flags env
    let usage : Text := title ++ Text.ofString "\n\nFlags:\n" ++ flagUsages known
    let fallback (name : String) : Text := ((known.find? (·.name == name)).map (·.fallback)).getD []
    match parseFlags known arguments with
    | .error .help => .error ((blank.print usage).exit 0)
    | .error e => .error (blank.fail e.message)
    | .ok parsed =>
      match parsed.arguments with
      | argument :: _ =>
        .error (((blank.printError ("unexpected argument: " ++ argument ++ "\n")).print usage).exit 1)
      | [] =>
        let level := parsed.text "log-level" (fallback "log-level")
        let path := parsed.text "log" (fallback "log")
        match LogLevel.parse level with
        | none => .error (blank.fail (LogLevel.unknownMessage level))
        | some least =>
          if path.isEmpty then
            .ok (env, parsed, { blank with handler := { blank.handler with least } })
          else match blank.folder.openForAppending path with
            | .error fault => .error (blank.fail ("opening log file: " ++ fault.message path))
            | .ok logPath =>
              .ok (env, parsed, { blank with
                handler := { blank.handler with least }
                logPath
                folder := blank.folder.append logPath [] })

end Stockroom
