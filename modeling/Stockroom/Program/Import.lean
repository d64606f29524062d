import Stockroom.Client.Submit
import Stockroom.Import.Job
import Stockroom.Program.Machine
import Stockroom.Settings.Config
import Stockroom.Sheet.Synonyms

/-!
The import program: it reads a spreadsheet and submits its rows to a server, showing its progress.

Main definitions: `importFlags`, `ImportOptions`, `importProgram`.
-/
namespace Stockroom
set_option autoImplicit false

/-! ## Options -/

def importFlags (env : Environment) : List Flag :=
  let config := ImportConfig.load env
  [{ name := "file", short := some 'f', usage := "spreadsheet to import (.xlsx or .csv)" },
    { name := "branch", short := some 'b', usage := "branch the records belong to" },
    { name := "kind", short := some 'k', usage := "pc, printer or consumable" },
    { name := "synonyms", short := some 's', usage := "YAML file with extra header synonyms" },
    { name := "api-url", usage := "inventory API base URL", fallback := config.apiUrl },
    { name := "user", short := some 'u', usage := "username to log in with", fallback := config.user },
    { name := "password", short := some 'p', usage := "password (prefer INVENTAIRE_PASSWORD)"
      fallback := config.password },
    { name := "token", usage := "existing bearer token instead of logging in"
      fallback := config.token },
    { name := "timeout", kind := .duration, usage := "per-request timeout"
      fallback := config.httpTimeout.shown },
    { name := "attempts", kind := .integer, usage := "attempts per row and pass"
      fallback := Text.ofInt config.maxAttempts },
    { name := "log", short := some 'l', usage := "log file path", fallback := config.logPath },
    { name := "log-level", usage := "debug, info, warn or error", fallback := config.logLevel }]

def importTitle : Text := "Usage: inventaire-import -f <file> -b <branch> -k <kind> [flags]"

/-- What is imported, where to, and as whom. -/
structure ImportOptions where
  file : Text
  branch : Text
  kind : Text
  synonyms : Text
  apiUrl : Text
  user : Text
  password : Text
  token : Text
  attempts : Int
  deriving DecidableEq, Repr

def ImportOptions.ofFlags (env : Environment) (p : ParsedFlags) : ImportOptions :=
  let config := ImportConfig.load env
  { file := p.text "file" []
    branch := p.text "branch" []
    kind := p.text "kind" []
    synonyms := p.text "synonyms" []
    apiUrl := p.text "api-url" config.apiUrl
    user := p.text "user" config.user
    password := p.text "password" config.password
    token := p.text "token" config.token
    attempts := p.integer "attempts" config.maxAttempts }

/-! ## What is printed -/

/-- One line that is written over again and again. -/
def progressLine {ρ : Type} (p : Progress ρ) : Text :=
  Text.ofString "\r" ++ p.file ++ ": " ++ Text.ofInt p.current ++ "/" ++ Text.ofInt p.total ++
    "  ok " ++ Text.ofNat p.accepted ++ "  failed " ++ Text.ofNat p.failed ++ "  queued " ++
    Text.ofNat p.queued.length

/-- What came of an import. -/
def report {ρ : Type} (branch : Text) (p : Progress ρ) : Text :=
  let summary : Text := "Imported " ++ Text.ofNat p.accepted ++ " of " ++ Text.ofInt p.total ++
    " rows from " ++ p.file ++ " into " ++ branch ++ ".\n"
  let failures : Text :=
    if p.failures.isEmpty then []
    else Text.ofNat p.failed ++ Text.ofString " rows failed:\n" ++ p.failures.flatMap fun f =>
      Text.ofString "  row " ++ Text.ofInt f.line ++ Text.ofString ": " ++ f.message ++
        Text.ofString "\n"
  summary ++ failures

/-- Shows what an import lets others see. -/
def Terminal.show {ρ : Type} (t : Terminal) : RunEvent ρ → Terminal
  | .logged e => t.log e
  | .published p => t.print (progressLine p)

/-! ## The program -/

/-- The last part of a path. -/
def baseName (path : Text) : Text :=
  let bare := (path.reverse.dropWhile (· == .char '/')).reverse
  if bare.isEmpty then (if path.isEmpty then "." else "/")
  else (bare.reverse.takeWhile (· != .char '/')).reverse

/-- The schema of a kind with the further spellings of a file. -/
def importSchema (folder : Folder) (o : ImportOptions) : Except Text Schema :=
  match Schema.ofName o.kind with
  | none => .error ("unknown kind " ++ o.kind.quoted ++ ": use pc, printer or consumable")
  | some schema =>
    if o.synonyms.isEmpty then .ok schema
    else match folder.openForReading o.synonyms with
      | .error fault => .error ("opening synonyms: " ++ fault.message o.synonyms)
      | .ok .directory =>
        .error ("parsing synonyms: yaml: input error: read " ++ o.synonyms ++ ": is a directory")
      | .ok (.text t) =>
        match SynonymFile.parse t with
        | .error e => .error e.message
        | .ok file => .ok (file.apply schema)

section
variable {σ : Type} (send : Transport σ)

/-- Imports a file through a client and says what came of it. -/
def importContent {ρ : Type} [Inhabited ρ] (o : ImportOptions) (content : Text) (job : ImportJob ρ)
    (submit : Submitter ρ σ) (t : Terminal) (s : σ) : Except Text Unit × Terminal × σ :=
  match job.run submit o.attempts (.bytes content.bytes) { state := s } with
  | .error e => (.error e.message, t, s)
  | .ok run =>
    let t := run.events.foldl Terminal.show t
    (.ok (), t.print (Text.ofString "\n" ++ report o.branch run.progress), run.session.state)

/-- Imports a file as the kind of records it holds. -/
def importKind (m : Machine) (o : ImportOptions) (schema : Schema) (content : Text) (c : Client)
    (t : Terminal) (s : σ) : Except Text Unit × Terminal × σ :=
  let file := baseName o.file
  let items (n : Normalizer Item) := importContent o content ⟨m.batch, file, schema, o.branch, n⟩
    (c.itemSubmitter send) t s
  if o.kind = Schema.consumable.name then
    importContent o content ⟨m.batch, file, schema, o.branch, Normalizer.consumable⟩
      (c.consumableSubmitter send) t s
  else if o.kind = Schema.printer.name then items Normalizer.printer
  else items (Normalizer.pc fun n => "PC-" ++ Text.ofNat n)

/-- Signs in unless there is a token, imports the file, and signs out again. -/
def importSession (m : Machine) (o : ImportOptions) (schema : Schema) (content : Text)
    (t : Terminal) (s : σ) : Except Text Unit × Terminal × σ :=
  let c := Client.new o.apiUrl
  if !o.token.isEmpty then importKind send m o schema content { c with token := o.token } t s
  else if o.user.isEmpty || o.password.isEmpty then
    (.error "--user and --password (or --token) are required", t, s)
  else match c.login send o.user o.password s with
    | (.error e, _, s) => (.error e.message, t, s)
    | (.ok account, c, s) =>
      let account := account.getD {}
      let t := t.log ⟨LogLevel.info, "logged in",
        [("user", account.username), ("role", account.role)]⟩
      let (result, t, s) := importKind send m o schema content c t s
      match c.logout send s with
      | (.ok (), _, s) => (result, t, s)
      | (.error e, _, s) =>
        (result, t.log ⟨LogLevel.warn, "logout failed", [("error", e.message)]⟩, s)

/-- What the program does once it has started. -/
def runImportProgram (m : Machine) (o : ImportOptions) (t : Terminal) (s : σ) :
    Except Text Unit × Terminal × σ :=
  if o.file.isEmpty || o.branch.isEmpty || o.kind.isEmpty then
    (.error "--file, --branch and --kind are required", t, s)
  else match importSchema t.folder o with
    | .error message => (.error message, t, s)
    | .ok schema =>
      match t.folder.openForReading o.file with
      | .error fault => (.error (fault.message o.file), t, s)
      | .ok .directory => importSession send m o schema [] t s
      | .ok (.text content) => importSession send m o schema content t s

/-- The import program. -/
def importProgram (m : Machine) (arguments : List Text) (s : σ) : ProgramResult × σ :=
  match startProgram m importTitle importFlags arguments with
  | .error result => (result, s)
  | .ok (env, parsed, t) =>
    match runImportProgram send m (ImportOptions.ofFlags env parsed) t s with
    | (.ok (), t, s) => (t.exit 0, s)
    | (.error message, t, s) => (t.fail message, s)

end
end Stockroom
