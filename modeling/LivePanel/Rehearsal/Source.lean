import LivePanel.File.Change
import LivePanel.Orchestra.Errand
import LivePanel.Source.Basic

/-!
# Sources of a rehearsal

A memory of texts, a directory of files, or a script that says for each key what reading
it comes to. A read takes some time: it begins, and what it gives is seen at its end, but
a script keeps to the entry that it had when the read began.
-/

namespace LivePanel.Rehearsal

/-- What a script has under a key. -/
structure ScriptEntry where
  text : String := ""
  mark : Except SourceError Fingerprint
  failure : Option SourceError := none
  collapses : Bool := false

/-- What a source keeps. -/
inductive Shelf where
  | memory (texts : Table String) (delay : Nat)
  | script (entries : Table ScriptEntry) (delays : List Nat)
  | files (disk : Disk) (root : String)

/-- A source, with the number of reads that came to their end. -/
structure Source where
  shelf : Shelf
  reads : Nat := 0

/-- A read that has begun. -/
inductive Reading where
  | memory (key : String)
  | script (e : ScriptEntry)
  | failed (e : SourceError)
  | file (key : String)

/-- How long something takes: no time at all, or at least as long as it takes to see what else is
ready. -/
abbrev Latency := Option Nat

/-- The time that a delay takes. -/
def latency (delay : Nat) : Latency := if delay = 0 then none else some delay

namespace Source

/-- The key of a path in a script, which has keys for the paths under `in/` only: what follows, as
it is written. -/
def scriptKeyOf? (path : String) : Option String :=
  (Text.dropHead? "in/".toList path.toList).map String.ofList

/-- The key that a source has for a path. -/
def keyOf? (s : Source) (path : String) : Option String :=
  match s.shelf with
  | .memory .. => some path
  | .script .. => scriptKeyOf? path
  | .files disk root => LivePanel.Source.keyOf? root (disk.canonical? root) path

/-- The number of reads, where the source counts them. -/
def count? (s : Source) : Option Nat :=
  match s.shelf with
  | .files .. => none
  | _ => some s.reads

/-- How long it takes to give a fingerprint. -/
def markLatency (s : Source) : Latency :=
  match s.shelf with
  | .files .. => some 0
  | _ => none

/-- The fingerprint of what is under a key. -/
def mark (s : Source) (key : String) : Except SourceError Fingerprint :=
  match s.shelf with
  | .memory texts _ =>
    match texts.get? key with
    | some text => .ok (.ofText text)
    | none => .error (LivePanel.Source.absent key)
  | .script entries _ =>
    match entries.get? key with
    | some e => e.mark
    | none => .error (.notFound ("script has no '" ++ key ++ "'"))
  | .files disk root => LivePanel.Source.fingerprintOfFile disk root key

/-- Begin a read. -/
def begin (s : Source) (key : String) : Latency × Reading × Source :=
  match s.shelf with
  | .memory _ delay => (latency delay, .memory key, s)
  | .script entries delays =>
    match entries.get? key with
    | some e =>
      (latency (delays.head?.getD 0), .script e, { s with shelf := .script entries delays.tail })
    | none => (none, .failed (.notFound ("script has no '" ++ key ++ "'")), s)
  | .files .. => (some 0, .file key, s)

/-- One more read. -/
def counted (s : Source) : Source := { s with reads := s.reads + 1 }

/-- End a read. -/
def finish (s : Source) : Reading → Orchestra.Signal × Source
  | .memory key =>
    match s.shelf with
    | .memory texts _ =>
      match texts.get? key with
      | some text => (.text (.ok text), s.counted)
      | none => (.text (.error (LivePanel.Source.absent key)), s)
    | _ => (.collapse, s)
  | .script e =>
    if e.collapses then (.collapse, s.counted)
    else
      match e.failure with
      | some cause => (.text (.error cause), s.counted)
      | none => (.text (.ok e.text), s.counted)
  | .failed cause => (.text (.error cause), s)
  | .file key =>
    match s.shelf with
    | .files disk root => (.text (LivePanel.Source.textOfFile disk root key), s)
    | _ => (.collapse, s)

/-- Write a text under a key. -/
def write (s : Source) (key : String) (content : ByteArray) (e : ScriptEntry) (modified : Nat) :
    Source :=
  match s.shelf with
  | .memory texts delay => { s with shelf := .memory (texts.put key e.text) delay }
  | .script entries delays => { s with shelf := .script (entries.put key e) delays }
  | .files disk root =>
    let names := (Path.parts (Path.join root key)).filterMap Path.Part.name?
    { s with shelf := .files (disk.put names (.file content modified)) root }

/-- Take away what is under a key; whether there was something. -/
def remove (s : Source) (key : String) : Bool × Source :=
  match s.shelf with
  | .memory texts delay =>
    (texts.has key, { s with shelf := .memory (Table.erase texts key) delay })
  | .script entries delays =>
    (entries.has key, { s with shelf := .script (Table.erase entries key) delays })
  | .files disk root =>
    match disk.removeFile? (Path.join root key) with
    | some disk => (true, { s with shelf := .files disk root })
    | none => (false, s)

end Source

end LivePanel.Rehearsal
