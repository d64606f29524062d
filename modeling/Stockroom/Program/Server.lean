import Stockroom.Net.ListenAddress
import Stockroom.Net.Url
import Stockroom.Program.Machine
import Stockroom.Settings.Config
import Stockroom.Store.Accounts
import Stockroom.Store.Settings

/-!
The server program: it opens its database, creates an administrator if there is none, and listens
until it is told to stop.

Main definitions: `serverFlags`, `DatabasePlace`, `openDatabase`, `serverProgram`.
-/
namespace Stockroom
set_option autoImplicit false

def serverFlags (env : Environment) : List Flag :=
  let config := ServerConfig.load env
  [{ name := "db", short := some 'd', usage := "SQLite database path", fallback := config.database },
    { name := "addr", short := some 'a', usage := "listen address", fallback := config.address },
    { name := "user", short := some 'u', usage := "admin username created when no admin exists"
      fallback := config.admin },
    { name := "log", short := some 'l', usage := "log file path (default: stdout/stderr only)"
      fallback := config.logPath },
    { name := "log-level", usage := "debug, info, warn or error", fallback := config.logLevel }]

def serverTitle : Text := "Usage: inventaire [flags]"

/-! ## The database -/

/-- Where a database is kept. -/
inductive DatabasePlace where
  | nowhere
  | file (d : Directory)
  deriving DecidableEq, Repr

/-- The path of a database that is kept nowhere. -/
def transientDatabase : Text := ":memory:"

/-- The place that a path names. -/
def DatabasePlace.ofPath (path : Text) : DatabasePlace :=
  if path.isEmpty || path == transientDatabase then .nowhere else .file (Directory.ofPath path)

/-- The place that an address of the form `file:` names, if it names one: it may leave out the host or
name this machine, and options may ask for a database that is kept nowhere. -/
def DatabasePlace.ofAddress (address : Text) : Option DatabasePlace := do
  let address := (Text.cut (.char '#') address).elim address (·.1)
  let (path, options) := (Text.cut (.char '?') address).getD (address, [])
  let path ← match Text.after? "//" path with
    | none => some path
    | some after =>
      let host : Text := after.takeWhile (· != .char '/')
      if host.isEmpty || host == Text.ofString "localhost" then some (after.drop host.length) else none
  if queryText options "mode" == Text.ofString "memory" then some .nowhere
  else some (.ofPath (decodeSegment path))

/-- The place that a text names, if it names one. Options after a question mark change nothing, but
they must be written well. -/
def DatabasePlace.parse (t : Text) : Option DatabasePlace :=
  match Text.after? "file:" t, Text.cut (.char '?') t with
  | some address, some (_, options) => if isQuery options then ofAddress address else none
  | some address, none => ofAddress address
  | none, some (path@(_ :: _), options) => if isQuery options then some (ofPath path) else none
  | none, _ => some (ofPath t)

/-- The database at a place; a new one is empty. -/
def openDatabase (m : Machine) (folder : Folder) (path : Text) :
    Except Text (DatabasePlace × Store) :=
  let fault : Text := "opening database: setting pragma \"PRAGMA journal_mode=WAL\": " ++ m.databaseFault
  match DatabasePlace.parse path with
  | none => .error fault
  | some .nowhere => .ok (.nowhere, {})
  | some (.file d) =>
    if folder.hasDirectory d || !folder.hasDirectory d.parent then .error fault
    else match folder.find? d.path with
      | some (.database s) => .ok (.file d, s)
      | some (.text (_ :: _)) => .error fault
      | _ => .ok (.file d, {})

/-- Keeps a database. -/
def keepDatabase (folder : Folder) (place : DatabasePlace) (s : Store) : Folder :=
  match place with
  | .nowhere => folder
  | .file d => folder.put d.path (.database s)

/-! ## The program -/

/-- What is told once about a new administrator. -/
def adminNotice (username password : Text) : Text :=
  Text.ofString "Admin account created:\n  Username: " ++ username ++ "\n  Password: " ++ password ++
    "\n\nSave this password, it cannot be recovered.\n" ++
    "The admin can change it after logging in.\n\n"

/-- Creates an administrator if there is none. -/
def ensureAdmin (m : Machine) (username : Text) (t : Terminal) (s : Store) :
    Except Text (Terminal × Store) :=
  match s.readAdminCount with
  | .error e => .error e.message
  | .ok (_ + 1) => .ok (t, s)
  | .ok 0 =>
    match PasswordHash.ofPassword m.password.bytes with
    | none => .error ("hashing password: " ++ PasswordHash.tooLongMessage)
    | some hash =>
      match s.createAccount m.now username hash Role.admin.tag [] with
      | .error e => .error ("creating admin user: " ++ e.message)
      | .ok (_, s) =>
        let t := t.log ⟨LogLevel.info, "admin account created", [("user", username)]⟩
        .ok (t.print (adminNotice username m.password), s)

/-- Opens the database and gets everything ready. -/
def prepareServer (m : Machine) (database admin : Text) (t : Terminal) :
    Terminal × Except Text Unit :=
  match openDatabase m t.folder database with
  | .error message => (t, .error message)
  | .ok (place, s) =>
    let t := t.log ⟨LogLevel.info, "database ready", [("path", database)]⟩
    match ensureAdmin m admin t s with
    | .error message => (t, .error message)
    | .ok (t, s) =>
      match s.ensureSetting Store.secretKey (.ok m.secret) with
      | .error e => (t, .error ("getting JWT secret: " ++ e.message))
      | .ok (_, s) => ({ t with folder := keepDatabase t.folder place s }, .ok ())

/-- Listens at an address until told to stop. -/
def listen (address : Text) (t : Terminal) : Terminal × Except Text Unit :=
  let t := t.log ⟨LogLevel.info, "server started", [("addr", address)]⟩
  match ListenAddress.fault (if address.isEmpty then ":http" else address) with
  | some fault => (t, .error ("serving: " ++ fault.message))
  | none =>
    let t := t.log ⟨LogLevel.info, "shutdown signal received", []⟩
    (t.log ⟨LogLevel.info, "server stopped, closing database", []⟩, .ok ())

/-- The server program, which is told to stop as soon as it listens. -/
def serverProgram (m : Machine) (arguments : List Text) : ProgramResult :=
  match startProgram m serverTitle serverFlags arguments with
  | .error result => result
  | .ok (env, parsed, t) =>
    let config := ServerConfig.load env
    let (t, ready) := prepareServer m (parsed.text "db" config.database)
      (parsed.text "user" config.admin) t
    let (t, ended) := match ready with
      | .ok () => listen (parsed.text "addr" config.address) t
      | .error message => (t, .error message)
    match ended with
    | .ok () => t.exit 0
    | .error message => (t.log ⟨LogLevel.error, "server failed", [("error", message)]⟩).exit 1

end Stockroom
