import LivePanel.Rehearsal.Theatre
import LivePanel.Rehearsal.Trial

/-!
# Accounts of rehearsals

What came of a rehearsal is written down as values. An error is written with the name of
its kind and its wording. Runs and artifacts are told apart by numbers, which they get in
the order in which the account first speaks of them.
-/

namespace LivePanel.Rehearsal

open LivePanel.Orchestra

/-! ### Errors -/

/-- An error of a kind that has no wording. -/
def bareError (kind : String) : Value := .ofPairs [("error", .str kind)]

/-- An error of a kind. -/
def errorOf (kind message : String) : Value :=
  .ofPairs [("error", .str kind), ("message", .str message)]

/-- The account of an error of a bridge. -/
def bridgeErrorValue (e : BridgeError) : Value :=
  let kind :=
    match e with
    | .unsupported _ => "Unsupported"
    | .disconnected => "Disconnected"
    | .failed _ => "Failed"
  errorOf kind e.message

/-- The account of an error of a store. -/
def writeErrorValue (e : State.WriteError) : Value :=
  let kind :=
    match e with
    | .invalidPath _ => "InvalidPath"
    | .notAContainer .. => "NotAContainer"
    | .indexOutOfBounds .. => "IndexOutOfBounds"
  errorOf kind e.message

/-- The account of an error of a registry. -/
def registryErrorValue (e : RegistryError) : Value :=
  let kind :=
    match e with
    | .invalidMetadata _ => "InvalidMetadata"
    | .notFound _ => "NotFound"
  errorOf kind e.message

/-- The account of an error of a run. -/
def runErrorValue (e : RunError) : Value :=
  let kind :=
    match e with
    | .unknownAction _ => "UnknownAction"
    | .state _ => "State"
    | .bridge _ => "Bridge"
    | .tooDeep _ => "DepthExceeded"
    | .cancelled => "Cancelled"
  errorOf kind e.message

/-- The account of an error of an orchestra. -/
def orchestraErrorValue (e : Orchestra.Error) : Value :=
  match e with
  | .sourceUnavailable .. => errorOf "SourceUnavailable" e.message
  | .notLoaded _ => errorOf "NotLoaded" e.message
  | .buildAborted key => .ofPairs [("error", .str "BuildAborted"), ("key", .str key)]
  | .action .. => errorOf "Action" e.message
  | .watcher _ => bareError "Watcher"
  | .shutDown => errorOf "ShutDown" e.message

/-! ### Events -/

/-- What an account has spoken of: runs, and the artifacts of builds. -/
structure Mentioned where
  runs : List Nat := []
  builds : List Nat := []

/-- The account of an event. -/
def eventValue (seen : Mentioned) (e : Event) : Value × Mentioned :=
  let fields := [("type", Value.str e.what.tag), ("event", .str e.what.name)] ++ e.what.toFields
  match e.run with
  | none => (.ofPairs fields, seen)
  | some id =>
    let runs := if id ∈ seen.runs then seen.runs else seen.runs ++ [id]
    (.ofPairs (fields ++ [("run", Value.ofNat (runs.idxOf id))]), { seen with runs := runs })

/-- The accounts of events. -/
def eventValues (seen : Mentioned) : List Event → List Value × Mentioned
  | [] => ([], seen)
  | e :: rest =>
    let (v, seen) := eventValue seen e
    let (vs, seen) := eventValues seen rest
    (v :: vs, seen)

/-- An event without what precedes the root in its path. -/
def withoutRoot (root : String) (e : Event) : Event :=
  let cut := fun path => (Text.dropPrefix? (root ++ "/") path).getD path
  match e.what with
  | .fileAdded path => { e with what := .fileAdded (cut path) }
  | .fileChanged path => { e with what := .fileChanged (cut path) }
  | .fileRemoved path => { e with what := .fileRemoved (cut path) }
  | _ => e

/-! ### Replies -/

/-- The account of an artifact. -/
def builtValue (seen : Mentioned) (b : Built) : Value × Mentioned :=
  if b.serial ∈ seen.builds then
    (.ofPairs [("artifact", Value.ofNat (seen.builds.idxOf b.serial))], seen)
  else
    (.ofPairs [("artifact", Value.ofNat seen.builds.length), ("ok", .bool b.artifact.isOk),
      ("fatal", .bool b.artifact.isFatal), ("value", b.artifact.toValue)],
      { seen with builds := seen.builds ++ [b.serial] })

/-- The account of a report of a run. -/
def reportValue (r : RunReport) : Value :=
  .ofPairs (r.toValue.fields ++
    [("terminal", .bool r.state.isTerminal), ("state_text", .str r.state.name)])

/-- The account of how a run of a trial came out. -/
def verdictValue : Verdict → Value
  | .refused e => runErrorValue e
  | .abandoned => .str "abandoned"
  | .reported r => reportValue r

/-- The account of what an errand came to. -/
def outcomeValue (seen : Mentioned) : Outcome → Value × Mentioned
  | .nothing => (.null, seen)
  | .landed (.ok b) => builtValue seen b
  | .landed (.error e) => (orchestraErrorValue e, seen)
  | .reported (.ok r) => (reportValue r, seen)
  | .reported (.error e) => (orchestraErrorValue e, seen)
  | .watching (.ok _) => (.str "watching", seen)
  | .watching (.error e) => (orchestraErrorValue e, seen)

/-- The members that tell of a store. -/
def storeFields (s : State.Store) : List (String × Value) :=
  [("revision", Value.ofNat s.revision), ("state", s.value)]

mutual
/-- The account of what a cue came to. -/
def replyValue (seen : Mentioned) : Reply → Value × Mentioned
  | .nothing => (.null, seen)
  | .abandoned => (.str "abandoned", seen)
  | .flag b => (.bool b, seen)
  | .count n => (Value.ofNat n, seen)
  | .outcome r => outcomeValue seen r
  | .cached none => (.null, seen)
  | .cached (some b) => builtValue seen b
  | .status s => (s.toValue, seen)
  | .validation v => (v.toValue, seen)
  | .analysis a => (a.toValue, seen)
  | .written (.ok _) => (.str "ok", seen)
  | .written (.error e) => (writeErrorValue e, seen)
  | .state s => (.ofPairs (storeFields s), seen)
  | .closed shutDown listeners =>
    (.ofPairs [("shut_down", .bool shutDown), ("listeners", Value.ofNat listeners)], seen)
  | .several rs =>
    let (vs, seen) := replyValues seen rs
    (.arr vs, seen)

/-- The accounts of what cues came to. -/
def replyValues (seen : Mentioned) : List Reply → List Value × Mentioned
  | [] => ([], seen)
  | r :: rest =>
    let (v, seen) := replyValue seen r
    let (vs, seen) := replyValues seen rest
    (v :: vs, seen)
end

/-! ### Rehearsals -/

/-- Messages and what they carried. -/
def pairsValue (ps : List (String × Value)) : Value := .arr (ps.map fun p => .arr [.str p.1, p.2])

/-- A member that is left out where there is nothing to say. -/
def unlessEmpty (k : String) (vs : List Value) : List (String × Value) :=
  if vs.isEmpty then [] else [(k, .arr vs)]

/-- Give cues one after the other, with an account of each; paths are told below `root`. -/
def accounts (root : Option String) (th : Theatre) (seen : Mentioned) :
    List Cue → List Value
  | [] => []
  | c :: rest =>
    let before := th.orchestra.scene.world
    let (reply, th) := th.give c
    let after := th.orchestra.scene.world
    let (result, seen) := replyValue seen reply
    let events := after.heard.drop before.heard.length
    let events := (root.map fun r => events.map (withoutRoot r)).getD events
    let (events, seen) := eventValues seen events
    let pair := fun (p : String × Value) => Value.arr [.str p.1, p.2]
    .ofPairs ([("result", result), ("events", .arr events),
        ("reads", (th.source.count?.map Value.ofNat).getD .null)] ++
      unlessEmpty "sent" ((after.bridge.sent.drop before.bridge.sent.length).map pair) ++
      unlessEmpty "prompts" ((after.bridge.prompts.drop before.bridge.prompts.length).map pair) ++
      unlessEmpty "calls" ((after.calls.drop before.calls.length).map Value.str)) ::
      accounts root th seen rest

/-- Run actions in a trial one after the other, with an account of each. -/
def trialAccounts (key : String) (program : Program) (allowed : Option Nat) (t : Trial) :
    List String → List Value
  | [] => []
  | name :: rest =>
    let (v, events, u) := t.run key program allowed name
    let (sent, prompts) := (t.desk.bridge.sent.length, t.desk.bridge.prompts.length)
    .ofPairs ([("run", .str name), ("result", verdictValue v),
      ("events", .arr (eventValues { runs := List.range u.nextRun } events).1),
      ("sent", pairsValue (u.desk.bridge.sent.drop sent)),
      ("prompts", pairsValue (u.desk.bridge.prompts.drop prompts))] ++ storeFields u.desk.store) ::
      trialAccounts key program allowed u rest

end LivePanel.Rehearsal
