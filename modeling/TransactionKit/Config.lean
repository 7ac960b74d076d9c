import TransactionKit.Config.Document.Reader
import TransactionKit.Error

/-!
The settings of a lock table: how often a waiting owner looks again, from which age on a record
counts as abandoned, whether any owner may release a record, and how long an owner waits when it
does not say. Settings are written as a TOML document; entries that are missing have their default
value and entries with other names are ignored.
-/

namespace TransactionKit

/-- The settings of a lock table. Times are in milliseconds. -/
structure LockConfig where
  /-- The time between two attempts on a held key. -/
  pollIntervalMs : Nat := 50
  /-- The age beyond which a record is abandoned. -/
  maxLockAgeMs : Nat := 300000
  /-- Whether a release removes the record of another owner. -/
  ignoreLockOwner : Bool := false
  /-- The time to wait for a lock when the caller names none. -/
  defaultTimeoutMs : Nat := 10000
deriving DecidableEq, Repr

namespace LockConfig

instance : Inhabited LockConfig := ⟨{}⟩

/-- The number of nanoseconds in a millisecond. -/
def nanosPerMs : Nat := 1000000

/-- The time between two attempts, in nanoseconds. -/
def pollInterval (config : LockConfig) : Nat :=
  config.pollIntervalMs * nanosPerMs

/-- The age beyond which a record is abandoned, in nanoseconds. -/
def maxLockAge (config : LockConfig) : Nat :=
  config.maxLockAgeMs * nanosPerMs

/-- The default waiting time, in nanoseconds. -/
def defaultTimeout (config : LockConfig) : Nat :=
  config.defaultTimeoutMs * nanosPerMs

/-- Refuse settings under which waiting would never pause or every record would be abandoned. -/
def validate (config : LockConfig) : Except Error Unit :=
  if config.pollIntervalMs = 0 then
    .error (.config "poll_interval_ms must be greater than zero")
  else if config.maxLockAgeMs = 0 then
    .error (.config "max_lock_age_ms must be greater than zero")
  else .ok ()

/-- An entry that counts milliseconds, if it is one. -/
def milliseconds? : Document.Tree → Option Nat
  | .integer i => if 0 ≤ i then some i.toNat else none
  | _ => none

/-- An entry that is true or false, if it is one. -/
def boolean? : Document.Tree → Option Bool
  | .boolean b => some b
  | _ => none

/-- What a document has under a name, or the default when it has nothing there; no answer when the
entry is of another sort. -/
def entry? {α : Type} (entries : Document.Entries) (name : String) (read : Document.Tree → Option α)
    (default : α) : Option α :=
  match Document.Entries.get? entries name with
  | none => some default
  | some tree => read tree

/-- The settings in a document. -/
def ofEntries? (entries : Document.Entries) : Option LockConfig := do
  let config : LockConfig := {}
  return {
    pollIntervalMs := ← entry? entries "poll_interval_ms" milliseconds? config.pollIntervalMs
    maxLockAgeMs := ← entry? entries "max_lock_age_ms" milliseconds? config.maxLockAgeMs
    ignoreLockOwner := ← entry? entries "ignore_lock_owner" boolean? config.ignoreLockOwner
    defaultTimeoutMs := ← entry? entries "default_timeout_ms" milliseconds? config.defaultTimeoutMs
  }

/-- The settings that a document denotes, if they can be used. -/
def ofText (text : String) : Except Error LockConfig := do
  match (Document.read? text).bind ofEntries? with
  | some config =>
    config.validate
    return config
  | none => throw (.config "not a document of lock settings")

/-- The settings in a file with the given path and content; no content when there is no file. -/
def ofFile (path : String) (content? : Option String) : Except Error LockConfig :=
  match content? with
  | none =>
    .error (.config ("Failed to read config file '" ++ path ++
      "': No such file or directory (os error 2)"))
  | some text =>
    match ofText text with
    | .ok config => .ok config
    | .error e =>
      .error (.config ("Failed to load config file '" ++ path ++ "': " ++ e.message))

/-- A document of the default settings, with comments. -/
def defaultText : String :=
  "# Tessera lock manager configuration\n" ++
  "#\n" ++
  "# Sleep between attempts while a key is held by another owner (milliseconds)\n" ++
  "poll_interval_ms = 50\n" ++
  "\n" ++
  "# Locks older than this are treated as abandoned and evicted (milliseconds)\n" ++
  "max_lock_age_ms = 300000\n" ++
  "\n" ++
  "# Allow a non-owner to remove a lock on release (default: false)\n" ++
  "ignore_lock_owner = false\n" ++
  "\n" ++
  "# Acquisition timeout when the caller does not pass one (milliseconds)\n" ++
  "default_timeout_ms = 10000\n"

/-- The settings in one line. -/
def summary (config : LockConfig) : String :=
  "LockConfig \x7b poll_interval_ms: " ++ toString config.pollIntervalMs ++
    ", max_lock_age_ms: " ++ toString config.maxLockAgeMs ++
    ", ignore_lock_owner: " ++ toString config.ignoreLockOwner ++
    ", default_timeout_ms: " ++ toString config.defaultTimeoutMs ++ " \x7d"

end LockConfig

end TransactionKit
