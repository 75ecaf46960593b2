import LivePanel.Settings.Basic

/-!
# Faults in settings

Settings that fit their types may still be of no use. The rules are tried in order, and
the first that is broken names its field.
-/

namespace LivePanel

/-- A setting that is of no use, and what is wrong with it. -/
structure SettingsFault where
  field : String
  reason : String
deriving DecidableEq

/-- The wording of a fault. -/
def SettingsFault.message (f : SettingsFault) : String :=
  "Validation error in field '" ++ f.field ++ "': " ++ f.reason

namespace Settings

/-- The longest time to wait for changes to settle, in milliseconds. -/
def maxDebounce : Nat := 60000

/-- The deepest nesting that may be asked for. -/
def maxBuildDepth : Nat := 256

/-- The levels of logging. -/
def logLevels : List String := ["trace", "debug", "info", "warn", "error"]

/-- The formats of logging. -/
def logFormats : List String := ["pretty", "compact", "json", "full"]

/-- Whether a text is no extension: it is empty, starts with a point or has a slash. -/
def isBadExtension (e : String) : Bool :=
  e.isEmpty || e.toList.head? == some '.' || e.toList.contains '/'

/-- A rule: the fault that it finds, if its condition holds. -/
def rule (broken : Bool) (field reason : String) : Option SettingsFault :=
  if broken then some ⟨field, reason⟩ else none

/-- The rule that a capacity is not zero. -/
def atLeastOne (n : Nat) (part name : String) : Option SettingsFault :=
  rule (n = 0) (part ++ "." ++ name) (name ++ " must be at least 1")

/-- The rule that a text is one of a list. -/
def oneOf (known : List String) (s field what : String) : Option SettingsFault :=
  rule (s ∉ known) field
    ("unsupported " ++ what ++ " '" ++ s ++ "'; expected one of: " ++ Text.joinWith ", " known)

/-- The rule on extensions. -/
def extensionRule (extensions : List String) : Option SettingsFault :=
  match extensions.find? isBadExtension with
  | some e =>
    some ⟨"templates.extensions",
      "invalid extension '" ++ e ++ "'; use a bare suffix such as 'panel.yaml'"⟩
  | none => none

/-- The rules in order. -/
def rules (s : Settings) : List (Option SettingsFault) := [
  rule s.templates.directory.isEmpty "templates.directory" "directory must not be empty",
  rule s.templates.extensions.isEmpty "templates.extensions"
    "at least one template extension is required",
  extensionRule s.templates.extensions,
  rule (maxDebounce < s.templates.debounce) "templates.debounce_ms"
    ("debounce_ms must be at most " ++ toString maxDebounce),
  atLeastOne s.cache.activities "cache" "activity_log_capacity",
  atLeastOne s.events.channelCapacity "events" "channel_capacity",
  atLeastOne s.events.emitDepth "events" "max_emit_depth",
  rule (s.build.maxDepth = 0 || maxBuildDepth < s.build.maxDepth) "build.max_depth"
    ("max_depth must be between 1 and " ++ toString maxBuildDepth),
  oneOf logLevels s.logging.level "logging.level" "log level",
  oneOf logFormats s.logging.format "logging.format" "log format"]

/-- The first fault of the settings. -/
def fault? (s : Settings) : Option SettingsFault := (rules s).findSome? id

end Settings

end LivePanel
