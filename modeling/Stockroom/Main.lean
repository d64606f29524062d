import Std.Time
import Stockroom.Program.Import
import Stockroom.Program.Server

/-!
The command line of both programs: the word `import` in front chooses the import program, and
anything else the server. Variables and files are read before a program runs, and what it printed
and the files it changed are written when it has ended.

Main definitions: `Machine.current`, `ProgramResult.write`, `main`.
-/
namespace Stockroom
set_option autoImplicit false

/-! ## What a program finds -/

/-- A file, if it can be read. -/
def readText? (path : String) : IO (Option Text) := do
  try return some (Text.ofBytes (← IO.FS.readBinFile path).toList)
  catch _ => return none

/-- The variables that have a value. -/
def readVariables : IO Environment :=
  configNames.filterMapM fun name => do
    return (← IO.getEnv name).map fun value => (Text.ofString name, Text.ofString value)

/-- The texts that may name a file: arguments, what follows their equals sign or their short name,
and the values of variables. -/
def possiblePaths (env : Environment) (arguments : List String) : List Text :=
  let named (argument : Text) : List Text :=
    [argument, argument.drop 2] ++ ((Text.cut (.char '=') argument).map (·.2)).toList
  (envFileName :: (arguments.map Text.ofString).flatMap named ++ env.map (·.2)).eraseDups

/-- The machine on which the command line was given. -/
def Machine.current (arguments : List String) : IO Machine := do
  let environment ← readVariables
  let files ← (possiblePaths environment arguments).filterMapM fun path => do
    return (← readText? path.display).map fun t => (path, FileData.text t)
  let choices ← (List.range 16).mapM fun _ => IO.rand 0 (passwordCharset.length - 1)
  let secret ← (List.range 32).mapM fun _ => IO.rand 0 255
  let batch ← (List.range 16).mapM fun _ => IO.rand 0 255
  let now : Instant := { unix := (← Std.Time.Timestamp.now).toSecondsSinceUnixEpoch.toInt }
  return {
    environment
    folder := Folder.ofFiles files
    time := now.stamp
    batch := Text.ofChars (batch.flatMap (hexDigits 2))
    password := generatedPassword choices
    secret := Text.ofChars (secret.flatMap (hexDigits 2))
    databaseFault := "file is not a database"
    now }

/-! ## What a program leaves behind -/

def textBytes (t : Text) : ByteArray := ⟨t.bytes.toArray⟩

/-- Writes the texts that are new or changed. -/
def Folder.write (before after : Folder) : IO Unit := do
  for (path, data) in after.files do
    if let .text t := data then
      if before.text? path != some t then
        IO.FS.writeBinFile path.display (textBytes t)

/-- Prints what was printed and writes what was written. -/
def ProgramResult.write (before : Folder) (r : ProgramResult) : IO UInt32 := do
  (← IO.getStdout).write (textBytes r.stdout)
  (← IO.getStderr).write (textBytes r.stderr)
  before.write r.folder
  return r.exit.toUInt32

end Stockroom

open Stockroom in
/-- Runs one of the programs. -/
def main (arguments : List String) : IO UInt32 := do
  match arguments with
  | "import" :: rest =>
    let m ← Machine.current rest
    (importProgram offline m (rest.map Text.ofString) ()).1.write m.folder
  | _ =>
    let m ← Machine.current arguments
    (serverProgram m (arguments.map Text.ofString)).write m.folder
