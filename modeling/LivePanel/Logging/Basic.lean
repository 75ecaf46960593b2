import LivePanel.Settings.Basic
import LivePanel.Text.Blank
import LivePanel.Value.Decode

/-!
# What is logged, and where

How log lines look, where they go, and which parts they have. A name of a format in the
settings may have blanks around it and capital letters.
-/

namespace LivePanel

namespace Logging

/-- How log lines look. -/
inductive Format where
  | pretty
  | compact
  | json
  | full
deriving DecidableEq, Inhabited

/-- When a new log file is begun. -/
inductive Rotation where
  | daily
  | hourly
  | never
deriving DecidableEq, Inhabited

/-- Where log lines go. -/
inductive Target where
  | output
  | errors
  | file (directory : String)
deriving DecidableEq, Inhabited

/-- The names of the formats. -/
def Format.names : Table Format :=
  [("pretty", .pretty), ("compact", .compact), ("json", .json), ("full", .full)]

/-- The name of a format. -/
def Format.name : Format → String
  | pretty => "pretty"
  | compact => "compact"
  | json => "json"
  | full => "full"

/-- The names of the rotations. -/
def Rotation.names : Table Rotation := [("daily", .daily), ("hourly", .hourly), ("never", .never)]

/-- The name of a rotation. -/
def Rotation.name : Rotation → String
  | daily => "daily"
  | hourly => "hourly"
  | never => "never"

/-- The targets that are no files. -/
def Target.names : Table Target := [("stdout", .output), ("stderr", .errors)]

/-- A choice without content: its name, or an object with null under its name. -/
def choice? (names : Table α) : Value → Option α
  | .str s => names.get? s
  | .obj [(s, .null)] => names.get? s
  | _ => none

/-- The target that a value is. -/
def Target.ofValue? : Value → Option Target
  | .obj [("file", v)] => v.asStr?.map file
  | v => choice? names v

/-- The target as a value. -/
def Target.toValue : Target → Value
  | output => .str "stdout"
  | errors => .str "stderr"
  | file directory => .obj [("file", .str directory)]

/-- A format written in the settings; the error is the text that names none. -/
def Format.ofText (s : String) : Except String Format :=
  let word := (Text.trim s).map Char.toLower
  match names.get? word with
  | some f => .ok f
  | none => .error word

/-- How log files are named and begun. -/
structure Files where
  stem : String := "panelkit"
  rotation : Rotation := .daily
deriving DecidableEq

/-- The name of the log file of an hour of a day. -/
def Files.nameAt (f : Files) (day hour : String) : String :=
  let dated := fun date => if f.stem.isEmpty then date else f.stem ++ "." ++ date
  match f.rotation with
  | .daily => dated day
  | .hourly => dated (day ++ "-" ++ hour)
  | .never => if f.stem.isEmpty then day else f.stem

/-- What is logged, and where. -/
structure Plan where
  level : String := "info"
  format : Format := .pretty
  target : Target := .errors
  files : Files := {}
  timestamps : Bool := true
  fileInfo : Bool := false
  spanEvents : Bool := false
  colours : Bool := true
  directives : List String := []
deriving DecidableEq

namespace Plan

/-- Log to files in a directory, without colours. -/
def toFiles (p : Plan) (directory stem : String) (rotation : Rotation) : Plan :=
  { p with target := .file directory, files := ⟨stem, rotation⟩, colours := false }

/-- The plan as a value. -/
def toValue (p : Plan) : Value :=
  .ofPairs [
    ("level", .str p.level), ("format", .str p.format.name), ("target", p.target.toValue),
    ("file", .ofPairs [("prefix", .str p.files.stem), ("rotation", .str p.files.rotation.name)]),
    ("timestamps", .bool p.timestamps), ("file_info", .bool p.fileInfo),
    ("span_events", .bool p.spanEvents), ("ansi", .bool p.colours),
    ("directives", .ofStrings p.directives)]

/-- The naming of files that a value is. -/
def filesOf? (v : Value) : Option Files := do
  let r ← Record.ofValue? [⟨"prefix", []⟩, ⟨"rotation", []⟩] v
  return ⟨← r.orElse "prefix" "panelkit" Value.asStr?,
    ← r.orElse "rotation" .daily (choice? Rotation.names)⟩

/-- The plan that a value is; whatever is missing has its default. -/
def ofValue? (v : Value) : Option Plan := do
  let names := ["level", "format", "target", "file", "timestamps", "file_info", "span_events",
    "ansi", "directives"]
  let r ← Record.ofValue? (names.map fun n => ⟨n, []⟩) v
  return {
    level := ← r.orElse "level" "info" Value.asStr?
    format := ← r.orElse "format" .pretty (choice? Format.names)
    target := ← r.orElse "target" .errors Target.ofValue?
    files := ← r.orElse "file" {} filesOf?
    timestamps := ← r.orElse "timestamps" true Value.asBool?
    fileInfo := ← r.orElse "file_info" false Value.asBool?
    spanEvents := ← r.orElse "span_events" false Value.asBool?
    colours := ← r.orElse "ansi" true Value.asBool?
    directives := ← r.orElse "directives" [] (Value.listOf? Value.asStr?) }

end Plan

end Logging

end LivePanel
