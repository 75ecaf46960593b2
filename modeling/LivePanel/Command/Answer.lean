import LivePanel.Command.Workplace
import LivePanel.Template.Analysis
import LivePanel.Value.Reader

/-!
# Answers

What the commands find that look at templates once: whether templates are valid, what a
template declares, what panel it builds. Answers are written for readers, or as JSON laid
out over lines.
-/

namespace LivePanel.Command

/-- What a command has found: the texts that tell it, each of which ends its line, and whether all
is well. -/
structure Answer where
  texts : List String
  good : Bool
deriving DecidableEq

/-- An answer in JSON. -/
def Answer.ofValue (v : Value) (good : Bool) : Answer := ⟨[v.pretty], good⟩

/-- Lines further in. -/
def indent (by_ : String) (lines : List String) : List String := lines.map (by_ ++ ·)

/-- Ask for the text of a template. -/
def templateText (path : String) : Attempt String := Attempt.text .unreadableTemplate path

/-! ### Validation -/

/-- A file with what is to report of it. -/
structure Checked where
  file : String
  validation : Build.Validation

namespace Checked

/-- The JSON form of a checked file. -/
def toValue (c : Checked) : Value := .obj (("file", .str c.file) :: c.validation.toValue.fields)

/-- A checked file for readers. -/
def lines (d : Display) (c : Checked) : List String :=
  let v := c.validation
  (if v.valid then d.success c.file else d.error c.file) ::
    indent "    " (v.errors.map (fun e => d.error e.text) ++
      v.warnings.map fun w => d.warning w.text)

end Checked

/-- How many of the files are valid. -/
def verdict (d : Display) (cs : List Checked) : String :=
  let failed := (cs.filter fun c => !c.validation.valid).length
  if failed = 0 then d.success (toString cs.length ++ " template(s) valid")
  else
    d.error (toString failed ++ " of " ++ toString cs.length ++ " template(s) invalid")

/-- Validate templates. -/
def validate (w : Workplace) (files : List String) : Attempt Answer := do
  let cs ← files.mapM fun file => return Checked.mk file (w.validate (← templateText file))
  let good := cs.all (·.validation.valid)
  match w.style with
  | .json => return .ofValue (.arr (cs.map Checked.toValue)) good
  | .pretty => return ⟨cs.flatMap (Checked.lines w.display) ++ ["", verdict w.display cs], good⟩

/-! ### Analysis -/

/-- A block that a template uses, and whether the catalogue lacks it. -/
def blockLine (w : Workplace) (block : String) : String :=
  if Table.has w.registry block then block
  else block ++ " " ++ w.display.paint .faint "(not in catalog)"

/-- Lines under a title, if there are any. -/
def titled (d : Display) (title : String) (lines : List String) : List String :=
  if lines.isEmpty then []
  else ["", "  " ++ d.paint .bold title] ++ indent "    " lines

/-- A summary of a template for readers. -/
def summaryLines (w : Workplace) (file : String) (a : Template.Analysis) : List String :=
  let d := w.display
  [d.paint .heading file, d.rule] ++
    indent "  " [
      d.labelled "Name" (a.name.getD "-"),
      d.labelled "Version" (a.version.getD "-"),
      d.labelled "Components" (toString a.componentCount),
      d.labelled "Actions" (toString a.actionCount),
      d.labelled "Events" (toString a.eventCount)] ++
    titled d "Blocks:" (a.blocks.map (blockLine w)) ++
    titled d "Syntax errors:" (a.problems.map fun p => d.error p.text)

/-- Analyze a template. -/
def analyze (w : Workplace) (file : String) : Attempt Answer := do
  let a := (w.parse (← templateText file)).analysis
  match w.style with
  | .json => return .ofValue a.toValue a.valid
  | .pretty => return ⟨summaryLines w file a, a.valid⟩

/-! ### Panels -/

/-- What a node is called. -/
def nodeLabel (d : Display) (kind : NodeKind) (block : Option String) : String :=
  match kind with
  | .element => d.paint .bold (block.getD "")
  | .group => d.paint .faint "(group)"
  | .diagnostic _ =>
    d.paint .red ("diagnostic" ++ ((block.map fun b => " [" ++ b ++ "]").getD ""))

/-- The props of a node after its label. -/
def propsText (d : Display) (props : Table Value) : String :=
  if List.isEmpty props then "" else " " ++ d.paint .faint (Value.obj props).compact

mutual
/-- A node and those below it for readers, every level further in. -/
def nodeLines (d : Display) (n : Node) : List String :=
  match n with
  | ⟨kind, block, props, bindings, icons, children⟩ =>
    (nodeLabel d kind block ++ propsText d props) ::
      indent "  "
        ((Node.messages ⟨kind, block, props, bindings, icons, []⟩).map d.error ++
          bindings.map (fun b => d.info ("on " ++ b.1 ++ " -> " ++ b.2)) ++
          nodesLines d children)

/-- Nodes for readers, one after the other. -/
def nodesLines (d : Display) : List Node → List String
  | [] => []
  | n :: rest => nodeLines d n ++ nodesLines d rest
end

/-- How a build came out. -/
def buildVerdict (d : Display) (a : Build.Artifact) : String :=
  if a.isOk then d.success "Build succeeded"
  else d.error ("Build failed with " ++ toString a.errors.length ++ " error(s)")

/-- An artifact for readers. -/
def artifactLines (d : Display) (file : String) (a : Build.Artifact) : List String :=
  [d.paint .heading file, d.rule] ++
    indent "  " (nodeLines d a.root) ++ [""] ++
    indent "  " (d.labelled "Blocks used" (Text.joinWith ", " a.used) ::
      a.warnings.map (fun w => d.warning w.text) ++ a.errors.map fun e => d.error e.text) ++
    ["", buildVerdict d a]

/-- The state that a text gives. -/
def stateOf : Option String → Attempt Value
  | none => return .obj []
  | some s =>
    match Value.ofText? s with
    | none => throw .malformedState
    | some v => if v.isObj then return v else throw .stateNoObject

/-- Build a template. Its name is its key in the directory that it is in. -/
def build (w : Workplace) (file : String) (state : Option String) : Attempt Answer := do
  let ps := Path.parts file
  match ps.getLast?.bind Path.Part.name? with
  | none => throw (.notTemplate file)
  | some key =>
    let state ← stateOf state
    let found ← Attempt.file (Path.ofParts ps)
    let text ← Attempt.orFail (fun e => .orchestra (.sourceUnavailable key e.message)) found.text
    let a := w.build text state
    match w.style with
    | .json => return .ofValue a.toValue a.isOk
    | .pretty => return ⟨artifactLines w.display file a, a.isOk⟩

end LivePanel.Command
