import Stockroom.Calendar.Duration
import Stockroom.Settings.EnvFile

/-!
What the two programs take from the environment. A variable that is empty, or that should be an
integer and is none, leaves its default in place.

Main definitions: `ServerConfig`, `ServerConfig.load`, `ImportConfig`, `ImportConfig.load`.
-/
namespace Stockroom
set_option autoImplicit false

namespace Environment

/-- A variable, or a default when it is empty. -/
def getOr (env : Environment) (name fallback : Text) : Text :=
  if (env.get name).isEmpty then fallback else env.get name

/-- A variable that is an integer, or a default. -/
def getInt (env : Environment) (name : Text) (fallback : Int) : Int :=
  (readInt64 (env.get name).toChars).getD fallback

end Environment

/-- The variables that the programs read. -/
def configNames : List String :=
  ["INVENTAIRE_DB", "INVENTAIRE_ADDR", "INVENTAIRE_ADMIN", "INVENTAIRE_LOG", "INVENTAIRE_LOG_LEVEL",
    "INVENTAIRE_READ_HEADER_TIMEOUT_SEC", "INVENTAIRE_READ_TIMEOUT_SEC",
    "INVENTAIRE_WRITE_TIMEOUT_SEC", "INVENTAIRE_IDLE_TIMEOUT_SEC",
    "INVENTAIRE_SHUTDOWN_TIMEOUT_SEC", "INVENTAIRE_TOKEN_PURGE_MIN", "INVENTAIRE_API_URL",
    "INVENTAIRE_TOKEN", "INVENTAIRE_USER", "INVENTAIRE_PASSWORD", "INVENTAIRE_HTTP_TIMEOUT_SEC",
    "INVENTAIRE_IMPORT_MAX_ATTEMPTS", "INVENTAIRE_IMPORT_BACKOFF_MS",
    "INVENTAIRE_IMPORT_PASS_DELAY_MS", "INVENTAIRE_IMPORT_HOLD_MS"]

/-- The settings of the server. -/
structure ServerConfig where
  database : Text
  address : Text
  admin : Text
  logPath : Text
  logLevel : Text
  readHeaderTimeout : Duration
  readTimeout : Duration
  writeTimeout : Duration
  idleTimeout : Duration
  shutdownTimeout : Duration
  tokenPurgePeriod : Duration
  deriving DecidableEq, Repr

def ServerConfig.load (env : Environment) : ServerConfig where
  database := env.getOr "INVENTAIRE_DB" "inventaire.sqlite3"
  address := env.getOr "INVENTAIRE_ADDR" ":8080"
  admin := env.getOr "INVENTAIRE_ADMIN" "admin"
  logPath := env.get "INVENTAIRE_LOG"
  logLevel := env.getOr "INVENTAIRE_LOG_LEVEL" "info"
  readHeaderTimeout := .ofSeconds (env.getInt "INVENTAIRE_READ_HEADER_TIMEOUT_SEC" 10)
  readTimeout := .ofSeconds (env.getInt "INVENTAIRE_READ_TIMEOUT_SEC" 30)
  writeTimeout := .ofSeconds (env.getInt "INVENTAIRE_WRITE_TIMEOUT_SEC" 60)
  idleTimeout := .ofSeconds (env.getInt "INVENTAIRE_IDLE_TIMEOUT_SEC" 120)
  shutdownTimeout := .ofSeconds (env.getInt "INVENTAIRE_SHUTDOWN_TIMEOUT_SEC" 5)
  tokenPurgePeriod := .ofMinutes (env.getInt "INVENTAIRE_TOKEN_PURGE_MIN" 60)

/-- The settings of the import program. -/
structure ImportConfig where
  apiUrl : Text
  token : Text
  user : Text
  password : Text
  logPath : Text
  logLevel : Text
  httpTimeout : Duration
  maxAttempts : Int
  backoff : Duration
  passDelay : Duration
  holdDelay : Duration
  deriving DecidableEq, Repr

def ImportConfig.load (env : Environment) : ImportConfig where
  apiUrl := env.getOr "INVENTAIRE_API_URL" "http://localhost:8080"
  token := env.get "INVENTAIRE_TOKEN"
  user := env.get "INVENTAIRE_USER"
  password := env.get "INVENTAIRE_PASSWORD"
  logPath := env.get "INVENTAIRE_LOG"
  logLevel := env.getOr "INVENTAIRE_LOG_LEVEL" "warn"
  httpTimeout := .ofSeconds (env.getInt "INVENTAIRE_HTTP_TIMEOUT_SEC" 30)
  maxAttempts := env.getInt "INVENTAIRE_IMPORT_MAX_ATTEMPTS" 3
  backoff := .ofMillis (env.getInt "INVENTAIRE_IMPORT_BACKOFF_MS" 400)
  passDelay := .ofMillis (env.getInt "INVENTAIRE_IMPORT_PASS_DELAY_MS" 1000)
  holdDelay := .ofMillis (env.getInt "INVENTAIRE_IMPORT_HOLD_MS" 5000)

end Stockroom
