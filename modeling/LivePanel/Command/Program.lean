import LivePanel.Command.Answer
import LivePanel.Command.Arguments
import LivePanel.Command.Bulletin
import LivePanel.Command.Session

/-!
# The program

What the program does with the words of its command line: it answers a request, or begins
to watch. Where all files stay as they are, what it writes and how it ends is
`Program.run`.
-/

namespace LivePanel.Command

/-- The session that watches a directory, if there is room for its bus and its log. -/
def Workplace.session? (w : Workplace) (directory : String) (files : Entry) (hotReload : Bool) :
    Option Session := do
  let setup : Orchestra.Setup Bridge :=
    { hotReload := w.settings.templates.hotReload && hotReload
      options := w.options
      registry := w.registry
      keyOf? := Source.keyOf? directory none }
  let bus ← Bus.ofLimits? w.settings.events.channelCapacity w.settings.events.emitDepth
  let log ← Orchestra.ActivityLog.ofCapacity? w.settings.cache.activities
  return .start directory w.settings.templates.extensions files
    { setup, scene := ⟨bus, Workplace.bridge⟩, log }

/-- Ask for a directory, and begin to watch it. -/
def watch (w : Workplace) (directory : Option String) (hotReload : Bool) : Attempt Session := do
  let path := directory.getD (w.settings.templates.directoryIn w.root)
  match ← Inquiry.entryAt path with
  | .ok (.directory readable entries) =>
    match w.session? path (.directory readable entries) hotReload with
    | some session => return session
    | none => throw .noRoom
  | _ => throw (.noDirectory path)

/-- What a request comes to. -/
inductive Response where
  | answer (a : Answer)
  | session (w : Workplace) (s : Session)

/-- Do what is requested, in the directory `here`. -/
def respond (env : Environment) (here : String) (d : Display) (r : Request) : Attempt Response := do
  let w ← Workplace.prepare env here d r
  match r.order with
  | .validate files => return .answer (← validate w files)
  | .analyze file => return .answer (← analyze w file)
  | .build file state => return .answer (← build w file state)
  | .watch directory hotReload => return .session w (← watch w directory hotReload)

/-- What the program writes and how it ends. -/
structure Ending where
  texts : List String := []
  errors : List String := []
  code : Nat := 0
deriving DecidableEq

namespace Program

/-- The name of the program. -/
def name : String := "panelkit"

/-- The version of the program. -/
def version : String := "0.1.0"

/-- How the program is used. -/
def usage : String := "Usage: " ++ name ++ " [OPTIONS] <COMMAND>"

/-- The help of the program. -/
def help : List String := [
  name ++ " - author panels as plain-text templates", "", usage, "",
  "Commands:",
  "  validate <FILES>...                   Parse and build templates, reporting every problem",
  "  analyze <FILE>                        Summarise a template without building it",
  "  build <FILE> [--state <STATE>]        Build a template and print its component tree",
  "  watch [DIR] [--no-hot-reload]         Build every template in a directory, again on change",
  "  help                                  Print this message",
  "",
  "Options:",
  "  -v, --verbose          Enable verbose output",
  "      --format <FORMAT>  How results are written: pretty or json",
  "      --blocks <BLOCKS>  Block catalog to register instead of the built-in one",
  "      --root <ROOT>      Root of the project (defaults to the current directory)",
  "  -h, --help             Print help",
  "  -V, --version          Print version"]

/-- The ending where there is no request. -/
def stopped : Stop → Ending
  | .help => { texts := help }
  | .version => { texts := [name ++ " " ++ version] }
  | .misuse reason => { errors := ["error: " ++ reason, "", usage], code := 2 }

/-- The ending of a failure. -/
def failed (d : Display) (f : Failure) : Ending :=
  if f.breaksOff then { code := 101 } else { errors := [d.error f.message], code := 2 }

/-- The ending of an answer. -/
def answered (a : Answer) : Ending := { texts := a.texts, code := if a.good then 0 else 1 }

/-- The text of an event. -/
def bulletin (w : Workplace) (e : StampedEvent) : String :=
  match w.style with
  | .json => e.toValue.compact
  | .pretty => eventLine w.display e

/-- What a session writes before its first event. -/
def opening (w : Workplace) (s : Session) : List String :=
  match w.style with
  | .json => []
  | .pretty => heading w.display s.directory

/-- What a session writes after its last event. -/
def summary (w : Workplace) (s : Session) : List String :=
  match w.style with
  | .json => []
  | .pretty => closing w.display s.orchestra.status

/-- The ending of a session that is interrupted when there is nothing left to do; `stamp` is what is
stamped on the events. -/
def watched (w : Workplace) (s : Session) (stamp : Stamp) : Ending :=
  let s := s.settle
  { texts := opening w s ++ s.events.map (fun e => bulletin w ⟨e.what, stamp⟩) ++ summary w s }

/-- What the program writes and how it ends on a disk that stays as it is. -/
def run (env : Environment) (here : String) (disk : Disk) (stamp : Stamp) (args : List String) :
    Ending :=
  match Request.ofArguments env args with
  | .error stop => stopped stop
  | .ok r =>
    let d := Display.ofEnvironment env false
    match (respond env here d r).run.answer disk with
    | .error f => failed d f
    | .ok (.answer a) => answered a
    | .ok (.session w s) => watched w s stamp

end Program

end LivePanel.Command
