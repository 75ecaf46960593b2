import LivePanel.File.Tree
import LivePanel.Settings.Environment
import LivePanel.Settings.Fault
import LivePanel.Settings.Reading
import LivePanel.Toml.Document
import LivePanel.Toml.Merge
import LivePanel.Toml.Resolved

/-!
# Loading settings

Settings come in layers: the defaults, the file of the user, the file of the project and
the environment, a later layer being laid over an earlier one. A file that does not
exist is passed over; one that cannot be read, is too long or is no document ends the
loading, as does a value that does not fit and a setting of no use.
-/

namespace LivePanel

/-- Why the text of a file could not be had. -/
inductive TextError where
  | file (e : FileError)
  | notText
deriving DecidableEq

/-- The wording of the error. -/
def TextError.message : TextError → String
  | file e => e.message
  | notText => "stream did not contain valid UTF-8"

/-- What was found at a path. -/
structure FoundFile where
  path : String
  content : Except FileError ByteArray

namespace FoundFile

/-- The text of the file. -/
def text (f : FoundFile) : Except TextError String :=
  match f.content with
  | .error e => .error (.file e)
  | .ok bytes =>
    match String.fromUTF8? bytes with
    | some s => .ok s
    | none => .error .notText

/-- Whether there is nothing at the path. -/
def isAbsent (f : FoundFile) : Bool :=
  match f.content with
  | .error e => e == .notFound
  | .ok _ => false

end FoundFile

namespace Settings

/-- Why settings could not be loaded; a document without a misfit was not readable as such. -/
inductive LoadError where
  | unreadable (path : String) (why : TextError)
  | malformed (path : String) (misfit : Option Misfit)
  | useless (fault : SettingsFault)
  | environment (e : EnvironmentError)

/-- The wording of what a reader of documents reports. -/
def readerMessage : Option Misfit → String
  | some m => m.message
  | none => "TOML parse error"

/-- The wording of the error. -/
def LoadError.message : LoadError → String
  | unreadable path why => "Failed to read config file at " ++ path ++ ": " ++ why.message
  | malformed path misfit =>
    "Failed to parse config file at " ++ path ++ ": " ++ readerMessage misfit
  | useless fault => fault.message
  | environment e => e.message

/-- Settings and where they came from. -/
structure Loaded where
  settings : Settings
  files : List String
  overrides : Nat

/-- The longest file of settings, in bytes. -/
def maxFileSize : Nat := 1048576

/-- The file of settings below the directory of a user or a project. -/
def fileName : String := "config.toml"

/-- The directory of settings in the home of a user or the root of a project. -/
def directoryName : String := ".panelkit"

/-- The fault of a file that is too long. -/
def sizeFault? (path text : String) : Option SettingsFault :=
  rule (maxFileSize < text.utf8ByteSize) path
    ("config file is " ++ toString text.utf8ByteSize ++ " bytes, exceeding the " ++
      toString maxFileSize ++ " byte limit")

/-- The document in a file. -/
def documentOf (f : FoundFile) : Except LoadError Toml.Datum :=
  match f.text with
  | .error why => .error (.unreadable f.path why)
  | .ok text =>
    match sizeFault? f.path text with
    | some fault => .error (.useless fault)
    | none =>
      match Toml.ofText? text with
      | some d => .ok d
      | none => .error (.malformed f.path none)

/-- Settings without a fault. -/
def checked (s : Settings) : Except LoadError Settings :=
  match s.fault? with
  | some fault => .error (.useless fault)
  | none => .ok s

/-- Settings of a single file. A moment is read as an empty part. -/
def ofFile (f : FoundFile) : Except LoadError Settings := do
  let d ← documentOf f
  match ofValue .passedOver (d.toValue fun _ => .obj []) with
  | .error m => .error (.malformed f.path (some m))
  | .ok s => checked s

/-- The tree of a file of a layer, in which tables may stand for moments. -/
def layerOf (f : FoundFile) : Except LoadError Toml.Datum := do
  match (← documentOf f).resolved? false with
  | some d => return d
  | none => throw (.malformed f.path none)

/-- Lay files over a tree: the tree that results and the files that were there. -/
def layFiles (tree : Toml.Datum) : List FoundFile → Except LoadError (Toml.Datum × List String)
  | [] => .ok (tree, [])
  | f :: rest =>
    if f.isAbsent then layFiles tree rest
    else do
      let layer ← layerOf f
      let (tree, files) ← layFiles (tree.merge layer) rest
      return (tree, f.path :: files)

/-- The tree of the defaults. -/
def defaults : Toml.Datum := (Toml.Datum.ofValue? ({} : Settings).toValue).getD (.table [])

/-- The name under which the tree of all layers is reported. -/
def mergedName : String := "<merged config>"

/-- Load settings from files, the later one having precedence, and the environment. A moment among
them is its text. -/
def load (files : List FoundFile) (env : Environment) : Except LoadError Loaded := do
  let (tree, paths) ← layFiles defaults files
  match overrideBy env tree with
  | (_, .error e) => .error (.environment e)
  | (tree, .ok overrides) =>
    match ofValue .refused (tree.toValue fun m => .str m.text) with
    | .error m => .error (.malformed mergedName (some m))
    | .ok s => return ⟨← checked s, paths, overrides⟩

end Settings

end LivePanel
