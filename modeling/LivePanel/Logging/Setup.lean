import LivePanel.File.Change
import LivePanel.Logging.Basic
import LivePanel.Logging.Directive

/-!
# Starting to log

Logging starts with the filter, which is checked first, and with the directory of log
files, which is made, and the log file, which is opened in it. It can be started once;
what was made by then stays.
-/

namespace LivePanel.Logging

/-- Why logging could not be started. -/
inductive SetupError where
  | format (name : String)
  | filter (e : DirectiveError)
  | directory (e : FileError)
  | file (e : FileError)
  | started

/-- The wording of the error. -/
def SetupError.message : SetupError → String
  | format name => "Configuration error: unknown log format '" ++ name ++ "'"
  | filter e => "Configuration error: " ++ e.message
  | directory e => "Configuration error: failed to create log directory: " ++ e.message
  | file e => "Initialization error: failed to open log file: " ++ e.message
  | started =>
    "Initialization error: a global default trace dispatcher has already been set"

/-- Whether the error is none that is told of: the program breaks off. -/
def SetupError.breaksOff : SetupError → Bool
  | filter .torn | file _ => true
  | _ => false

/-- The plan that the settings ask for. -/
def Plan.ofSettings (s : LogSettings) : Except SetupError Plan :=
  match Format.ofText s.format with
  | .ok format => .ok { level := s.level, format, directives := s.directives }
  | .error name => .error (.format name)

/-- Check the filter: what the environment asks for, or else the level, and then each directive. -/
def Plan.checkFilter (p : Plan) (asked : Option String) : Except SetupError Unit :=
  let base :=
    match asked.map Text.trim with
    | some s => if s.isEmpty then p.level else s
    | none => p.level
  match checkDirectives base with
  | .error e => .error (.filter e)
  | .ok () => (p.directives.forM checkDirective).mapError .filter

/-- Open a log file. Where that fails it is tried once more, with the directory that the file is in
made before. -/
def openLog (d : Disk) (path : String) : Except FileError Disk :=
  match d.openToAdd path, Path.parent? path with
  | .error _, some parent => (d.makeDirectories parent).bind fun d => d.openToAdd path
  | r, _ => r

/-- Start to log, at an hour of a day: the disk with what was made, and what came of it. -/
def Plan.start (p : Plan) (d : Disk) (day hour : String) (asked : Option String)
    (started : Bool) : Disk × Except SetupError Unit :=
  let settle := fun d => (d, if started then .error .started else .ok ())
  match p.checkFilter asked, p.target with
  | .error e, _ => (d, .error e)
  | .ok (), .file directory =>
    match d.makeDirectories directory with
    | .error e => (d, .error (.directory e))
    | .ok d =>
      match openLog d (Path.join directory (p.files.nameAt day hour)) with
      | .error e => (d, .error (.file e))
      | .ok d => settle d
  | .ok (), _ => settle d

end LivePanel.Logging
