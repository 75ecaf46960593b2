import LivePanel.Number.Shortest
import LivePanel.Settings.Basic
import LivePanel.Text.Shown

/-!
# Reading settings

Settings are read from a tree of values. A part is written as an object, of which
unknown members are passed over and missing ones have their defaults, or as an array of
its fields in order. The first value that does not fit is the misfit of the tree.
-/

namespace LivePanel

/-- Why a value does not fit. -/
inductive Misfit where
  | kind (found : Value) (expected : String)
  | negative (n : Int) (expected : String)
  | tooLong (length : Nat)

namespace Misfit

/-- What a double is called. -/
def shownDouble (d : Double) : String :=
  if d.exponentField = 2047 then
    if d.fraction ≠ 0 then "NaN" else if d.negative then "-inf" else "inf"
  else d.plainText

/-- What a value is called. -/
def described : Value → String
  | .null => "unit value"
  | .bool b => "boolean \x60" ++ toString b ++ "\x60"
  | .num (.int n) => "integer \x60" ++ toString n ++ "\x60"
  | .num (.double d) => "floating point \x60" ++ shownDouble d ++ "\x60"
  | .str s => "string " ++ Text.shown s
  | .arr _ => "sequence"
  | .obj _ => "map"

/-- The wording of a misfit. -/
def message : Misfit → String
  | kind found expected => "invalid type: " ++ described found ++ ", expected " ++ expected
  | negative n expected =>
    "invalid value: integer \x60" ++ toString n ++ "\x60, expected " ++ expected
  | tooLong length => "invalid length " ++ toString length ++ ", expected fewer elements in array"

end Misfit

namespace Settings

/-- What becomes of elements beyond the fields of a part that is written as an array. -/
inductive Surplus where
  | refused
  | passedOver
deriving DecidableEq

/-- A reader of one field of a part. -/
abbrev FieldReader (σ : Type) := String × (σ → Value → Except Misfit σ)

/-- A text; `what` names it. -/
def text (what : String) : Value → Except Misfit String
  | .str s => .ok s
  | v => .error (.kind v what)

/-- A truth value. -/
def truth : Value → Except Misfit Bool
  | .bool b => .ok b
  | v => .error (.kind v "a boolean")

/-- A count; `what` names its type. -/
def count (what : String) : Value → Except Misfit Nat
  | .num (.int n) => if n < 0 then .error (.negative n what) else .ok n.toNat
  | v => .error (.kind v what)

/-- A list of texts. -/
def textList : Value → Except Misfit (List String)
  | .arr items => items.mapM (text "a string")
  | v => .error (.kind v "a sequence")

/-- Take up the members of an object. -/
def takeMembers (readers : List (FieldReader σ)) (start : σ) (members : Table Value) :
    Except Misfit σ :=
  members.foldlM
    (fun s e =>
      match Table.get? readers e.1 with
      | some read => read s e.2
      | none => .ok s)
    start

/-- Take up the elements of an array. -/
def takeElements (readers : List (FieldReader σ)) (start : σ) (items : List Value) :
    Except Misfit σ :=
  (readers.zip items).foldlM (fun s e => e.1.2 s e.2) start

/-- A part that a value is, on top of `start`. -/
def part (surplus : Surplus) (name : String) (readers : List (FieldReader σ)) (start : σ) :
    Value → Except Misfit σ
  | .obj members => takeMembers readers start members
  | .arr items => do
    let read ← takeElements readers start items
    if surplus = .refused && readers.length < items.length then
      .error (.tooLong items.length)
    else .ok read
  | v => .error (.kind v ("struct " ++ name))

/-- The template settings that a value is. -/
def templatesOf (surplus : Surplus) : Value → Except Misfit TemplateSettings :=
  part surplus "TemplatesSection"
    [("directory", fun s v => (text "path string" v).map fun x => { s with directory := x }),
      ("extensions", fun s v => (textList v).map fun x => { s with extensions := x }),
      ("hot_reload", fun s v => (truth v).map fun x => { s with hotReload := x }),
      ("debounce_ms", fun s v => (count "u64" v).map fun x => { s with debounce := x })]
    {}

/-- The cache settings that a value is. -/
def cacheOf (surplus : Surplus) : Value → Except Misfit CacheSettings :=
  part surplus "CacheSection"
    [("activity_log_capacity", fun s v =>
      (count "usize" v).map fun x => { s with activities := x })]
    {}

/-- The event settings that a value is. -/
def eventsOf (surplus : Surplus) : Value → Except Misfit EventSettings :=
  part surplus "EventsSection"
    [("channel_capacity", fun s v =>
        (count "usize" v).map fun x => { s with channelCapacity := x }),
      ("max_emit_depth", fun s v => (count "usize" v).map fun x => { s with emitDepth := x })]
    {}

/-- The build settings that a value is. -/
def buildOf (surplus : Surplus) : Value → Except Misfit BuildSettings :=
  part surplus "BuildSection"
    [("max_depth", fun s v => (count "usize" v).map fun x => { s with maxDepth := x }),
      ("warn_unused_actions", fun s v =>
        (truth v).map fun x => { s with warnUnusedActions := x })]
    {}

/-- The log settings that a value is. -/
def loggingOf (surplus : Surplus) : Value → Except Misfit LogSettings :=
  part surplus "LoggingSection"
    [("level", fun s v => (text "a string" v).map fun x => { s with level := x }),
      ("format", fun s v => (text "a string" v).map fun x => { s with format := x }),
      ("directives", fun s v => (textList v).map fun x => { s with directives := x })]
    {}

/-- The settings that a value is. -/
def ofValue (surplus : Surplus) : Value → Except Misfit Settings :=
  part surplus "Config"
    [("templates", fun s v => (templatesOf surplus v).map fun x => { s with templates := x }),
      ("cache", fun s v => (cacheOf surplus v).map fun x => { s with cache := x }),
      ("events", fun s v => (eventsOf surplus v).map fun x => { s with events := x }),
      ("build", fun s v => (buildOf surplus v).map fun x => { s with build := x }),
      ("logging", fun s v => (loggingOf surplus v).map fun x => { s with logging := x })]
    {}

end Settings

end LivePanel
