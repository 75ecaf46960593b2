import LivePanel.Block.Catalogue
import LivePanel.Build.Pass
import LivePanel.Command.Display
import LivePanel.Command.Failure
import LivePanel.Command.Request
import LivePanel.File.Inquiry

/-!
# The workplace of a command

What every command has at hand before it begins: the settings of the user and the project
under the environment, and the blocks of a catalogue. There is no host, so the bridge is a
detached one.
-/

namespace LivePanel.Command

/-- A computation that asks for files and may fail. -/
abbrev Attempt := ExceptT Failure Inquiry

namespace Attempt

variable {α ε : Type}

/-- Fail where something else has failed. -/
def orFail (failure : ε → Failure) (r : Except ε α) : Attempt α :=
  match r with
  | .ok a => pure a
  | .error e => throw (failure e)

/-- Ask for a file. -/
def file (path : String) : Attempt FoundFile := do
  return ⟨path, ← Inquiry.contentOf path⟩

/-- Ask for the text of a file. -/
def text (failure : String → TextError → Failure) (path : String) : Attempt String := do
  orFail (failure path) (← file path).text

end Attempt

/-- What a command has at hand. -/
structure Workplace where
  settings : Settings
  root : String
  registry : Registry Bridge
  style : Style
  display : Display

/-- The files of settings that count for a project, in the order in which they are laid over one
another: that of the user, who has a home, and that of the project. -/
def settingsPaths (env : Environment) (root : String) : List String :=
  (((env.get? "HOME").filter (· ≠ "")).toList ++ [root]).map fun directory =>
    Path.join (Path.join directory Settings.directoryName) Settings.fileName

/-- The blocks of the catalogue in a file, or those of the standard one. -/
def blocksIn (catalogue : Option String) : Attempt (List Metadata) := do
  match catalogue with
  | none => return Catalogue.standard
  | some path =>
    match Catalogue.ofText? (← Attempt.text .unreadableCatalogue path) with
    | some ms => return ms
    | none => throw (.malformedCatalogue path)

namespace Workplace

/-- Prepare a workplace in the directory `here`. -/
def prepare (env : Environment) (here : String) (display : Display) (r : Request) :
    Attempt Workplace := do
  let root := r.root.getD here
  let files ← (settingsPaths env root).mapM Attempt.file
  let settings := (← Attempt.orFail .settings (Settings.load files env)).settings
  let plan ← Attempt.orFail .logging (Logging.Plan.ofSettings settings.logging)
  let plan := if r.verbose then { plan with level := "debug" } else plan
  Attempt.orFail .logging (plan.checkFilter (env.get? "RUST_LOG"))
  let registry ← Attempt.orFail (fun e => .refusedBlock e.1 e.2)
    (Catalogue.registry (← blocksIn r.catalogue))
  return { settings, root, registry, style := r.style, display }

/-- How texts are built. -/
def options (w : Workplace) : Build.Options :=
  { maxDepth := w.settings.build.maxDepth
    warnUnusedActions := w.settings.build.warnUnusedActions }

/-- The bridge where there is no host. -/
def bridge : Bridge := .detached { id := "panelkit-cli" }

/-- What a text gives. -/
def parse (w : Workplace) (text : String) : Template.Outcome :=
  Template.parse text w.options.maxDepth

/-- Whether a text builds. -/
def validate (w : Workplace) (text : String) : Build.Validation :=
  (Build.validate w.options w.registry text bridge).1

/-- Build a text against the host's state. -/
def build (w : Workplace) (text : String) (state : Value) : Build.Artifact :=
  (Build.text w.options w.registry text state bridge).1

end Workplace

end LivePanel.Command
