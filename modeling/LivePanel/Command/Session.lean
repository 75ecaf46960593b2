import LivePanel.Digest.Blake3
import LivePanel.Orchestra.Errand
import LivePanel.Watch.Scan

/-!
# Watching sessions

A session first finds the templates of a directory and loads them one after the other. Then
it registers the directory with the system, which reports every change from then on, and
writes down the digest of every template. From then on it watches: reported paths are
pending until the watcher looks at them, what the watcher has to tell is handled one notice
at a time, and the session reads the events, loading every template that was added.

Files may change at any time between two steps. A session takes its steps one by one
(`Session.take`), in whatever order they come; `Session.settle` takes those that are due
until none is.
-/

namespace LivePanel.Command

open Orchestra

/-- How far a session has come: the templates still to load, or those whose digests are still to
be taken. -/
inductive Phase where
  | loading (left : List String)
  | registering
  | priming (left : List String)
  | watching
deriving DecidableEq

/-- A session. -/
structure Session where
  directory : String
  extensions : List String
  files : Entry
  orchestra : Orchestra Bridge
  phase : Phase
  receiver : Receiver
  events : List Event := []
  load : Option Errand := none
  flights : List Errand := []
  handling : Option Errand := none
  notices : List Watch.Notice := []
  pending : List String := []
  known : Watch.Known := []

/-- A step of a session: it goes on by itself, a flight takes a turn, the watcher looks at a pending
path, or a notice is handled. -/
inductive Step where
  | own
  | flight (i : Nat)
  | look (i : Nat)
  | handle
deriving DecidableEq

namespace Session

/-- The path of a file in the directory. -/
def pathOf (s : Session) (names : List String) : String :=
  Path.join s.directory (Path.ofNames names)

/-- The paths of the templates. -/
def templates (s : Session) : List String :=
  (Watch.scan s.extensions s.files).map fun f => s.pathOf f.names

/-- A session that begins in a directory. -/
def start (directory : String) (extensions : List String) (files : Entry)
    (o : Orchestra Bridge) : Session :=
  let s : Session :=
    { directory, extensions, files, orchestra := o, phase := .loading []
      receiver := .ofBus o.scene.bus none }
  { s with phase := .loading s.templates }

/-- What an errand goes on with. -/
def signal (s : Session) : Errand → Signal
  | .comparing key _ => .fingerprint (Source.fingerprintOfFile ⟨s.files, []⟩ "" key)
  | .comparingIn f _ => .fingerprint (Source.fingerprintOfFile ⟨s.files, []⟩ "" f.key)
  | .marking f => .fingerprint (Source.fingerprintOfFile ⟨s.files, []⟩ "" f.key)
  | .reading f _ => .text (Source.textOfFile ⟨s.files, []⟩ "" f.key)
  | _ => .go

/-- What is left of an errand; none when it is over. -/
def left? : Errand → Option Errand
  | .done _ => none
  | t => some t

/-- Give an errand a turn. -/
def turn (s : Session) (t : Errand) : Option Errand × Session :=
  let out := t.turn (s.signal t) s.orchestra
  (left? out.errand,
    { s with orchestra := out.orchestra, flights := s.flights ++ out.launched.filterMap left? })

/-- Begin to load the template at a path. -/
def loadAt (s : Session) (path : String) : Session :=
  { s with load := (s.orchestra.setup.keyOf? path).map .load }

/-- What a look at a path shows. -/
def sight (s : Session) (path : String) : Watch.Sight :=
  match s.orchestra.setup.keyOf? path with
  | none => .gone
  | some key =>
    match s.files.read (Text.splitAtChar '/' key) with
    | .ok content => .content (Blake3.ofBytes content)
    | .error .notFound => .gone
    | .error e => .unreadable e.message

/-- Take the digest of a template that is there. -/
def prime (s : Session) (path : String) : Session :=
  match s.sight path with
  | .content digest => { s with known := s.known.put path digest }
  | _ => s

/-- Begin to watch the directory. -/
def register (s : Session) : Session :=
  let out := (Errand.watch s.directory).turn .go s.orchestra
  { s with orchestra := out.orchestra, phase := .priming s.templates }

/-- The directory is watched. -/
def ready (s : Session) : Session :=
  let out := (Errand.readying s.directory).turn (.ready true) s.orchestra
  { s with orchestra := out.orchestra, phase := .watching }

/-- Read an event. A template that was added is loaded. -/
def readEvent (s : Session) : Session :=
  match s.receiver.read s.orchestra.scene.bus with
  | (none, receiver) => { s with receiver }
  | (some e, receiver) =>
    let s := { s with receiver, events := s.events ++ [e] }
    match e.what with
    | .fileAdded path => s.loadAt path
    | _ => s

/-- Go on by itself. -/
def goOn (s : Session) : Session :=
  match s.load with
  | some t =>
    let out := s.turn t
    { out.2 with load := out.1 }
  | none =>
    match s.phase with
    | .loading [] => { s with phase := .registering }
    | .loading (path :: rest) => { s with phase := .loading rest }.loadAt path
    | .registering => s.register
    | .priming [] => s.ready
    | .priming (path :: rest) => { s with phase := .priming rest }.prime path
    | .watching => s.readEvent

/-- Give a flight a turn. -/
def fly (s : Session) (i : Nat) : Session :=
  match s.flights[i]? with
  | none => s
  | some t =>
    let out := { s with flights := s.flights.eraseIdx i }.turn t
    match out.1 with
    | some t => { out.2 with flights := out.2.flights.insertIdx i t }
    | none => out.2

/-- Look at a pending path. -/
def look (s : Session) (i : Nat) : Session :=
  match s.phase, s.pending[i]? with
  | .watching, some path =>
    let (notice, known) := s.known.look path (s.sight path)
    { s with
      pending := s.pending.eraseIdx i
      known := known
      notices := s.notices ++ notice.toList }
  | _, _ => s

/-- Go on handling a notice, or begin with the next one. -/
def handle (s : Session) : Session :=
  match s.handling, s.notices with
  | some t, _ =>
    let out := s.turn t
    { out.2 with handling := out.1 }
  | none, [] => s
  | none, n :: rest => { s with notices := rest, handling := some (.notice n) }

/-- Take a step. -/
def take (s : Session) : Step → Session
  | .own => s.goOn
  | .flight i => s.fly i
  | .look i => s.look i
  | .handle => s.handle

/-- Whether the system reports changes. -/
def isRegistered (s : Session) : Bool :=
  match s.phase with
  | .priming _ | .watching => true
  | _ => false

/-- A change at a path is reported, if it concerns a template. -/
def report (s : Session) (path : String) : Session :=
  if s.isRegistered && Watch.isTemplate s.extensions s.directory path then
    { s with pending := s.pending.filter (· ≠ path) ++ [path] }
  else s

/-- A file is written. -/
def write (s : Session) (names : List String) (content : ByteArray) (modified : Nat) : Session :=
  { s with files := s.files.put names (.file content modified) }.report (s.pathOf names)

/-- A file is removed. -/
def remove (s : Session) (names : List String) : Session :=
  { s with files := s.files.erase names }.report (s.pathOf names)

/-- The files are found to be others; the templates that differ are reported. -/
def observe (s : Session) (files : Entry) : Session :=
  let before := Watch.scan s.extensions s.files
  let after := Watch.scan s.extensions files
  let isNew := fun (f : Watch.Found) =>
    !before.any fun g => f.names = g.names && f.content == g.content
  let changed := (after.filter isNew).map (·.names)
  let gone := (before.map (·.names)).filter fun names => !after.any (·.names = names)
  ((changed ++ gone).map s.pathOf).foldl report { s with files }

/-- The step that is due, if any: flights go first, then what the session has begun to load, then
the notices, then the pending paths, and then the session by itself. -/
def due? (s : Session) : Option Step :=
  if !s.flights.isEmpty then some (.flight 0)
  else if s.load.isSome then some .own
  else if s.handling.isSome || !s.notices.isEmpty then some .handle
  else if s.phase ≠ .watching then some .own
  else if !s.pending.isEmpty then some (.look 0)
  else if (s.receiver.read s.orchestra.scene.bus).1.isSome then some .own
  else none

/-- Take up to `fuel` steps that are due. -/
def settleIn : Nat → Session → Session
  | 0, s => s
  | fuel + 1, s =>
    match s.due? with
    | none => s
    | some step => settleIn fuel (s.take step)

/-- How many steps a template may need. -/
def stepsOfTemplate : Nat := 40

/-- Take the steps that are due, until none is. -/
def settle (s : Session) : Session :=
  settleIn (stepsOfTemplate * (s.templates.length + s.pending.length + 1)) s

end Session

end LivePanel.Command
