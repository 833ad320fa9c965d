import CsrfGuard.Text.Numeral

/-!
# Settings from the environment

Every default of the guard and of the demonstration site can be set by a variable of the
environment. The variables are read once, in a fixed order, and the first that cannot be read stops
the program. Numbers are read as `Text.Numeral.read` reads them.
-/

namespace CsrfGuard

/-- The defaults in force. -/
structure Settings where
  logLevel : String
  /-- The key that client sessions are signed with; none can be written under an empty key. -/
  secretKey : String
  cacheSize : Int
  nonceBytes : Int
  nonceParam : String
  sessionAttribute : String
  entryPoints : String
  /-- The status of the answer to a rejected request. -/
  denyStatus : Int
  /-- After how many minutes without a request a session is forgotten. -/
  idleMinutes : Int
  deriving Repr, DecidableEq

namespace Settings

/-- The greatest number of days, of either sign, that a span of time may have. -/
def maxDays : Int := 999999999

def dayMilliseconds : Int := 24 * 60 * 60 * 1000

/-- A span of time, in milliseconds; it may not have too many whole days. -/
def span (milliseconds : Int) : Except GuardError Int :=
  let days := milliseconds.fdiv dayMilliseconds
  if days < -maxDays ∨ maxDays < days then .error .durationOutOfRange else .ok milliseconds

/-- The variable that sets the idle time, as minutes. -/
def readIdleMinutes (text : String) : Except GuardError Int := do
  let minutes ← Text.Numeral.read text
  let _ ← span (minutes * 60 * 1000)
  return minutes

/-- What the names of all variables start with. -/
def variableStart : String := "NONCEGUARD_"

def variableNames : List String :=
  ["LOG_LEVEL", "SECRET_KEY", "NONCE_CACHE_SIZE", "NONCE_BYTES", "NONCE_PARAM", "SESSION_ATTR",
    "ENTRY_POINTS", "DENY_STATUS", "SESSION_IDLE_MINUTES"].map (variableStart ++ ·)

/-- Reads the settings from an environment. The numbers are read in the order cache size, nonce
length, status, idle time; only then is a nonce length below one refused. -/
def load (environment : String → Option String) : Except GuardError Settings := do
  let setting (name fallback : String) : String :=
    (environment (variableStart ++ name)).getD fallback
  let cacheSize ← Text.Numeral.read (setting "NONCE_CACHE_SIZE" "5")
  let nonceBytes ← Text.Numeral.read (setting "NONCE_BYTES" "16")
  let denyStatus ← Text.Numeral.read (setting "DENY_STATUS" "403")
  let idleMinutes ← readIdleMinutes (setting "SESSION_IDLE_MINUTES" "30")
  if nonceBytes < 1 then throw .nonceTooShort
  return {
    logLevel := setting "LOG_LEVEL" "INFO"
    secretKey := setting "SECRET_KEY" "dev-change-me"
    cacheSize
    nonceBytes
    nonceParam := setting "NONCE_PARAM" "CSRF_NONCE"
    sessionAttribute := setting "SESSION_ATTR" "nonceguard.CSRF_NONCE"
    entryPoints := setting "ENTRY_POINTS" ""
    denyStatus
    idleMinutes }

def idleSeconds (settings : Settings) : Int := settings.idleMinutes * 60

/-- The idle time in milliseconds, the unit of all clocks. -/
def idleMilliseconds (settings : Settings) : Int := settings.idleSeconds * 1000

/-- The settings in an environment that sets nothing. -/
def standard : Settings where
  logLevel := "INFO"
  secretKey := "dev-change-me"
  cacheSize := 5
  nonceBytes := 16
  nonceParam := "CSRF_NONCE"
  sessionAttribute := "nonceguard.CSRF_NONCE"
  entryPoints := ""
  denyStatus := 403
  idleMinutes := 30

end Settings

end CsrfGuard
