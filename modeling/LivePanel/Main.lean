import LivePanel.Command.Program
import Std.Async.Signal
import Std.Time.DateTime.Timestamp

/-!
# The command line

The outermost layer: it answers inquiries from the file system, hands on the environment,
and prints. A watching session is given the files anew every now and then, until the program
is interrupted.
-/

open LivePanel LivePanel.Command

namespace LivePanel.Main

/-- Why the system refused; what is no error of its own kind counts as denied. -/
def fileErrorOf : IO.Error → FileError
  | .noFileOrDirectory .. => .notFound
  | .inappropriateType .. => .notDirectory
  | _ => .denied

/-- Try something with files. -/
def attempt (act : IO α) : IO (Except FileError α) := do
  try return .ok (← act) catch e => return .error (fileErrorOf e)

/-- The time of a change, in nanoseconds. -/
def nanosOf (t : IO.FS.SystemTime) : Nat := t.sec.toNat * 1000000000 + t.nsec.toNat

/-- The content of a file. -/
def contentAt (path : String) : IO (Except FileError ByteArray) := do
  match ← attempt (System.mkFilePath [path]).metadata with
  | .error e => return .error e
  | .ok m =>
    if m.type == .dir then return .error .isDirectory else attempt (IO.FS.readBinFile path)

/-- What stands at a path. Directories that are not looked into count as unreadable, and pipes and
the like, which might keep a reader waiting, as empty. -/
partial def entryAt (path : String) : IO (Except FileError Entry) := do
  match ← attempt (System.mkFilePath [path]).metadata with
  | .error e => return .error e
  | .ok m =>
    if m.type == .dir then
      match ← attempt (System.mkFilePath [path]).readDir with
      | .error _ => return .ok (.directory false [])
      | .ok found =>
        let mut entries : Table Entry := []
        for f in found do
          let below := Path.join path f.fileName
          if f.fileName ∈ Watch.ignoredNames then
            entries := entries.put f.fileName (.directory false [])
          else if (← attempt (System.mkFilePath [below]).symlinkMetadata).toOption.any
              (·.type == .symlink) then
            entries := entries.put f.fileName (.link "")
          else if let .ok e ← entryAt below then
            entries := entries.put f.fileName e
        return .ok (.directory true entries)
    else if m.type == .file then
      match ← attempt (IO.FS.readBinFile path) with
      | .ok content => return .ok (.file content (nanosOf m.modified))
      | .error e => return .error e
    else return .ok (.special ByteArray.empty (nanosOf m.modified))

/-- Answer an inquiry from the file system. -/
def ask : Inquiry α → IO α
  | .done a => return a
  | .read path next => do ask (next (← contentAt path))
  | .survey path next => do ask (next (← entryAt path))

/-- The variables of the environment that matter. -/
def variableNames : List String :=
  ["HOME", "RUST_LOG", "CLICOLOR", "CLICOLOR_FORCE", "NO_COLOR", catalogueVariable] ++
    Settings.Variable.all.map (·.name)

/-- The environment. -/
def environment : IO Environment := do
  let found ← variableNames.filterMapM fun name => return (← IO.getEnv name).map (name, ·)
  return Table.ofPairs found

/-- A random identifier, of the fourth version. -/
def identifier : IO Identifier := do
  let bytes ← IO.getRandomBytes 16
  let digits := bytes.toList.flatMap fun b => [b.toNat / 16, b.toNat % 16]
  return ⟨(digits.set 12 4).set 16 (8 + (digits[16]?.getD 0) % 4)⟩

/-- What is stamped on an event that happens now. -/
def stamp : IO Stamp := do
  let now := (← Std.Time.Timestamp.now).val
  return ⟨← identifier, ⟨now.second.val, now.nano.val.toNat⟩, none, "panelkit-runtime"⟩

/-- Print texts, each on lines of its own. -/
def print (texts : List String) : IO Unit := texts.forM fun s => IO.println s

/-- Print, and end as it is said. -/
def finish (e : Ending) : IO UInt32 := do
  print e.texts
  e.errors.forM fun s => IO.eprintln s
  return e.code.toUInt32

/-- The time between two looks at the files, in milliseconds. -/
def pauseOf (s : Settings) : Nat := max 20 (min 200 s.templates.debounce)

/-- Go on with a session that has told of `told` events, until it is interrupted. -/
partial def keepWatch (w : Workplace) (interrupted : BaseIO Bool) (told : Nat) (s : Session) :
    IO Session := do
  for e in s.events.drop told do
    IO.println (Program.bulletin w ⟨e.what, ← stamp⟩)
  (← IO.getStdout).flush
  if ← interrupted then return s
  IO.sleep (pauseOf w.settings).toUInt32
  match ← entryAt s.directory with
  | .ok files => keepWatch w interrupted s.events.length (s.observe files).settle
  | .error _ => keepWatch w interrupted s.events.length s

/-- Watch until the program is interrupted. -/
def watch (w : Workplace) (s : Session) : IO UInt32 := do
  print (Program.opening w s)
  let signal ← Std.Async.Signal.Waiter.mk .sigint false
  let interrupt ← signal.wait
  let s ← keepWatch w (IO.hasFinished interrupt) 0 s.settle
  print (Program.summary w s)
  return 0

end LivePanel.Main

/-- Do what the words of the command line ask for. -/
def main (args : List String) : IO UInt32 := do
  let env ← Main.environment
  let here := (← IO.currentDir).toString
  match Request.ofArguments env args with
  | .error stop => Main.finish (Program.stopped stop)
  | .ok r =>
    let d := Display.ofEnvironment env (← (← IO.getStdout).isTty)
    match ← Main.ask (respond env here d r).run with
    | .error f => Main.finish (Program.failed d f)
    | .ok (.answer a) => Main.finish (Program.answered a)
    | .ok (.session w s) => Main.watch w s
