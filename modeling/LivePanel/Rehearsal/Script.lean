import LivePanel.Rehearsal.Theatre
import LivePanel.Value.Members

/-!
# Scripts of rehearsals

Rehearsals are written down as values: the host with its replies, the files of a
directory, and the cues. A cue that holds other cues holds them a bounded number of
levels deep.
-/

namespace LivePanel.Rehearsal

open LivePanel.Orchestra

/-! ### Hosts -/

/-- The error of a bridge that a value names. -/
def bridgeErrorOf (v : Value) : BridgeError :=
  match v with
  | .str _ => .disconnected
  | _ =>
    match v.memberText? "unsupported" with
    | some s => .unsupported s
    | none => .failed (v.memberText "failed")

/-- The reply of an assistant that a value describes. -/
def replyOf (v : Value) : Except BridgeError Value :=
  match v.field? "err" with
  | some e => .error (bridgeErrorOf e)
  | none => .ok (v.member "ok")

/-- The host that a value describes. -/
def hostOf (v : Value) : Host :=
  { panel := ⟨"test-panel", some "Test Panel", true⟩
    replies := (v.memberItems "replies").map replyOf
    replyDelay := v.memberNat? "delay_ms"
    sendFailure := (v.field? "send_failure").map bridgeErrorOf }

/-! ### Files -/

/-- The bytes that a value describes: a text, a list of bytes, or a text so many times. -/
def bytesOf : Value → ByteArray
  | .str s => s.toUTF8
  | v =>
    match v.field? "bytes" with
    | some (.arr bytes) =>
      ByteArray.mk (bytes.filterMap fun b =>
        match b with
        | .num (.int n) => some n.toNat.toUInt8
        | _ => none).toArray
    | _ =>
      (String.join (List.replicate ((v.memberNat? "times").getD 0) (v.memberText "repeat"))).toUTF8

/-- The file that a value describes, or a directory for null. -/
def entryOf : Value → Entry
  | .null => .empty
  | v => .file (bytesOf v) 0

/-- The names on the way to a file. -/
def namesOf (path : String) : List String := (Path.parts path).filterMap Path.Part.name?

/-- The directory that holds the files and links, which are members by their paths. -/
def directoryOf (files links : Value) : Entry :=
  links.fields.foldl (fun dir e => dir.put (namesOf e.1) (.link (e.2.asStr?.getD "")))
    (files.fields.foldl (fun dir e => dir.put (namesOf e.1) (entryOf e.2)) .empty)

/-! ### Cues -/

/-- The error of a source that a value describes. -/
def sourceErrorOf (v : Value) : SourceError :=
  if v.memberText "kind" = "NotFound" then .notFound (v.memberText "message")
  else .unavailable (v.memberText "message")

/-- The entry of a script that a value describes. -/
def ScriptEntry.ofValue (v : Value) : ScriptEntry :=
  { text := v.memberText "text"
    mark :=
      match v.field? "fingerprint_error" with
      | some e => .error (sourceErrorOf e)
      | none => .ok (.ofText ((v.memberText? "fingerprint").getD (v.memberText "text")))
    failure := (v.field? "read_error").map sourceErrorOf
    collapses := (v.field? "panic").isSome }

/-- The path that a cue is about, below `root` if it says nothing else. -/
def watchedPath (root : Option String) (v : Value) : String :=
  match root with
  | some root =>
    if v.memberFlag "outside" false then v.memberText "path"
    else Path.join root (v.memberText "path")
  | none => v.memberText "path"

/-- The deed that a value describes; `root` is the directory of the files, if there is one. -/
def deedOf? (root : Option String) (v : Value) : Option Deed :=
  let key := v.memberText "key"
  match v.memberText "do" with
  | "write" => some (.write key (bytesOf (v.member "text")) (.ofValue v)
      ((v.memberNat? "mtime").getD 1 * 1000000000))
  | "remove" => some (.remove key)
  | "load" => some (.errand (.load key))
  | "reload" => some (.errand (.reload key))
  | "load_text" => some (.loadText key (v.memberText "text") true)
  | "load_text_detached" => some (.loadText key (v.memberText "text") false)
  | "cached" => some (.cached key)
  | "invalidate" => some (.invalidate key)
  | "clear_cache" => some .clearCache
  | "status" => some .status
  | "validate" => some (.validate (v.memberText "text"))
  | "analyze" => some (.analyze (v.memberText "text"))
  | "added" => some (.errand (.notice (.added (watchedPath root v))))
  | "changed" => some (.errand (.notice (.changed (watchedPath root v))))
  | "removed" => some (.errand (.notice (.removed (watchedPath root v))))
  | "watch_error" => some (.errand (.notice (.trouble (v.memberText "message"))))
  | "watch_absent" => some (.errand (.watch "absent"))
  | "dispatch" =>
    some (.dispatch key (v.memberText "action") (v.memberText "cancel" = "pre")
      (v.memberNat? "cancel"))
  | "set_state" => some (.setState (v.memberText "path") (v.member "value"))
  | "replace_state" => some (.replaceState (v.member "value"))
  | "state" => some .state
  | "fire" => some (.fire (v.memberText "event"))
  | "subscriptions" => some (.subscriptions (v.memberText "event"))
  | "reply" => some (.queueReply (replyOf v))
  | "sleep" => some (.sleep ((v.memberNat? "ms").getD 0))
  | "shutdown" => some .shutDown
  | "await" => some (.await (v.memberText "id"))
  | _ => none

/-- The cue that a value describes, down to so many levels. -/
def Cue.ofValue (root : Option String) : Nat → Value → Cue
  | 0, _ => .parallel []
  | levels + 1, v =>
    match deedOf? root v with
    | some d => .deed d
    | none =>
      match v.memberText "do" with
      | "parallel" => .parallel ((v.memberItems "steps").map (Cue.ofValue root levels))
      | "abandon" =>
        .abandon ((v.memberNat? "ms").getD 0) (Cue.ofValue root levels (v.member "step"))
      | _ => .spawn (v.memberText "id") (Cue.ofValue root levels (v.member "step"))

/-- The levels of cues inside one another. -/
def cueLevels : Nat := 128

end LivePanel.Rehearsal
