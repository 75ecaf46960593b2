import LivePanel.File.Disk
import LivePanel.Source.Fingerprint

/-!
# Template sources

Where the texts of templates come from. A source gives the fingerprint and the text that
it has under a key, or says why it has none; what matters of the reason is whether the
key was not found.

A source of files keeps templates below a root directory. Its keys are paths relative to
the root that do not climb out of it.
-/

namespace LivePanel

/-- Why a source gave nothing. -/
inductive SourceError where
  | notFound (reason : String)
  | unavailable (reason : String)
deriving DecidableEq, Inhabited

/-- The wording of the error. -/
def SourceError.message : SourceError → String
  | notFound reason => reason
  | unavailable reason => reason

/-- Whether the key was not found. -/
def SourceError.isNotFound : SourceError → Bool
  | notFound _ => true
  | unavailable _ => false

/-- The error of a source whose file could not be read. -/
def SourceError.ofFile : FileError → SourceError
  | .notFound => notFound FileError.notFound.message
  | e => unavailable e.message

namespace Source

/-- The error of a memory that has nothing under a key. -/
def absent (key : String) : SourceError := .notFound ("no template named '" ++ key ++ "'")

/-- Whether a part of a key stays inside the root. -/
def staysInside : Path.Part → Bool
  | .here => true
  | .name _ => true
  | _ => false

/-- The path of the file behind a key. -/
def pathOf (root key : String) : Except SourceError String :=
  if !key.isEmpty && (Path.parts key).all staysInside then .ok (Path.join root key)
  else .error (.unavailable ("template key '" ++ key ++ "' is not a path inside the source root"))

/-- The key of the file at a path; none for the root and for paths outside it. A path that does not
begin like the root may begin like the canonical path of the root, where that is another one. -/
def keyOf? (root : String) (canonical : Option String) (path : String) : Option String :=
  let below := (Path.below? root path).or (canonical.bind fun c => Path.below? c path)
  match below.bind Path.names? with
  | some (name :: rest) => some (Path.ofNames (name :: rest))
  | _ => none

/-- The file behind a key. -/
def file (d : Disk) (root key : String) : Except SourceError Entry := do
  (d.find (← pathOf root key)).mapError .ofFile

/-- The fingerprint of the file behind a key. -/
def fingerprintOfFile (d : Disk) (root key : String) : Except SourceError Fingerprint :=
  (file d root key).bind fun
    | .file content modified | .special content modified =>
      .ok (.ofFile (some modified) content.size)
    | .directory .. => .ok (.ofFile none 0)
    | .link _ => .error (.ofFile .notFound)

/-- The text of the file behind a key. -/
def textOfFile (d : Disk) (root key : String) : Except SourceError String := do
  let content ← (d.read (← pathOf root key)).mapError .ofFile
  match String.fromUTF8? content with
  | some s => return s
  | none => throw (.unavailable "stream did not contain valid UTF-8")

end Source

end LivePanel
