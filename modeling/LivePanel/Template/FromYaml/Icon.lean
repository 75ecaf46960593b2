import LivePanel.Panel.Node
import LivePanel.Number.Shortest
import LivePanel.Template.FromYaml.Fields
import LivePanel.Text.Shown

/-!
# Icons in a template document

An icon is a mapping with the block that draws it and optional decorations. The
first entry that does not fit decides the wording of the problem; a missing block
is found last.
-/

namespace LivePanel.Template.FromYaml

/-- What a floating-point number is called in messages. -/
def shownReal : Real → String
  | .finite d => d.plainText
  | .infinity false => "inf"
  | .infinity true => "-inf"
  | .nan => "NaN"

/-- What a value is called in messages. -/
def described : Yaml → String
  | .null => "unit value"
  | .bool true => "boolean \x60true\x60"
  | .bool false => "boolean \x60false\x60"
  | .int n => "integer \x60" ++ toString n ++ "\x60"
  | .real r => "floating point \x60" ++ shownReal r ++ "\x60"
  | .str s => "string " ++ Text.shown s
  | .seq _ => "sequence"
  | .map _ => "map"
  | .tagged .. => "enum"

/-- The message that a value is not what was expected. -/
def unexpected (v : Yaml) (expected : String) : String :=
  "invalid type: " ++ described v.untagged ++ ", expected " ++ expected

/-- A text. -/
def textOf (v : Yaml) : Except String String :=
  match v.asStr? with
  | some s => .ok s
  | none => .error (unexpected v "a string")

/-- A text or nothing. -/
def optionalText (v : Yaml) : Except String (Option String) :=
  if v.isNull then .ok none else (textOf v).map some

/-- The entries of an icon read so far; the outer option says whether an entry was there. -/
structure IconFields where
  block : Option String := none
  color : Option (Option String) := none
  action : Option (Option String) := none
  matchColor : Option Bool := none
  position : Option (Option String) := none

/-- The message for an entry that occurs twice. -/
def repeated (key : String) : Except String IconFields :=
  .error ("duplicate field \x60" ++ key ++ "\x60")

/-- Take up one entry of an icon; unknown ones are passed over. -/
def IconFields.take (f : IconFields) (key : Yaml) (v : Yaml) : Except String IconFields :=
  match key.asStr? with
  | none => .error (unexpected key "field identifier")
  | some "block" =>
    if f.block.isSome then repeated "block"
    else (textOf v).map fun s => { f with block := some s }
  | some "color" =>
    if f.color.isSome then repeated "color"
    else (optionalText v).map fun s => { f with color := some s }
  | some "action" =>
    if f.action.isSome then repeated "action"
    else (optionalText v).map fun s => { f with action := some s }
  | some "matchColor" =>
    if f.matchColor.isSome then repeated "matchColor"
    else
      match v.untagged with
      | .bool b => .ok { f with matchColor := some b }
      | other => .error (unexpected other "a boolean")
  | some "position" =>
    if f.position.isSome then repeated "position"
    else (optionalText v).map fun s => { f with position := some s }
  | some _ => .ok f

/-- Take up the entries of an icon in order. -/
def IconFields.takeAll (f : IconFields) : Yaml.Entries → Except String IconFields
  | [] => .ok f
  | (k, v) :: rest =>
    match f.take k v with
    | .error e => .error e
    | .ok f => f.takeAll rest

/-- The icon of a mapping's entries. -/
def iconOfEntries (m : Yaml.Entries) : Except String Icon :=
  match IconFields.takeAll {} m with
  | .error e => .error e
  | .ok f =>
    match f.block with
    | none => .error "missing field \x60block\x60"
    | some block =>
      .ok ⟨block, f.color.getD none, f.action.getD none, f.matchColor.getD false,
        f.position.getD none⟩

/-- The icon of a value. -/
def iconOf (v : Yaml) : Except String Icon :=
  match v.untagged with
  | .map m => iconOfEntries m
  | .null => iconOfEntries []
  | other => .error (unexpected other "struct IconSpec")

/-- An item of a list of icons. -/
def iconItem (path : String) (v : Yaml) (i : Nat) : Noted (Option Icon) :=
  let place := path ++ ".icons[" ++ toString i ++ "]"
  match iconOf v with
  | .error e => .problem place e none
  | .ok icon =>
    if Text.allBlank icon.block then .problem place "icon block is empty" none
    else .clean (some icon)

/-- The icons under `icons`. -/
def iconsField (m : Yaml.Entries) (path : String) : Noted (List Icon) :=
  match m.get? "icons" with
  | none => .clean []
  | some .null => .clean []
  | some (.seq items) => Noted.collect (items.zipIdx.map fun (v, i) => iconItem path v i)
  | some _ => .problem (path ++ ".icons") "must be a sequence" []

end LivePanel.Template.FromYaml
