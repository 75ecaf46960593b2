import LivePanel.Build.Problem
import LivePanel.Panel.Json

/-!
# Artifacts

What a build gives: a panel that can be shown whatever went wrong, the blocks that it
uses, and what there is to report.
-/

namespace LivePanel.Build

/-- The result of a build. -/
structure Artifact where
  root : Node
  used : List String := []
  warnings : List Warning := []
  errors : List Error := []
deriving Inhabited

namespace Artifact

/-- The artifact of a build that has no panel: a diagnostic with the texts of all errors. -/
def failed (block : Option String) (errors : List Error) (warnings : List Warning) : Artifact :=
  { root := .diagnostic block (errors.map Error.text), warnings := warnings, errors := errors }

/-- Whether the build recorded no errors. -/
def isOk (a : Artifact) : Bool := a.errors.isEmpty

/-- Whether the panel is no more than a diagnostic. -/
def isFatal (a : Artifact) : Bool := a.root.isDiagnostic

/-- The JSON form of an artifact. -/
def toValue (a : Artifact) : Value :=
  .obj [("root", a.root.toValue), ("blocksUsed", Value.ofStrings a.used),
    ("warnings", .arr (a.warnings.map Warning.toValue)),
    ("errors", .arr (a.errors.map Error.toValue))]

end Artifact

/-- Whether a text builds without errors, and what there is to report. -/
structure Validation where
  valid : Bool
  errors : List Error
  warnings : List Warning

/-- The JSON form of a validation. -/
def Validation.toValue (v : Validation) : Value :=
  .obj [("valid", .bool v.valid), ("errors", .arr (v.errors.map Error.toValue)),
    ("warnings", .arr (v.warnings.map Warning.toValue))]

end LivePanel.Build
