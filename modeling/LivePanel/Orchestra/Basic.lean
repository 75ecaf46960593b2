import LivePanel.Build.Pass
import LivePanel.Event.Bus
import LivePanel.Orchestra.Activity
import LivePanel.Panel.Subscriptions
import LivePanel.Run.Report
import LivePanel.Source.Basic

/-!
# Orchestras

An orchestra owns the artifacts built from templates and the templates themselves. It
knows templates by keys. For each key it may have an artifact in its cache, with the
fingerprint of what it was built from, and a template to run actions of, whose events it
has bound at the bridge.

Builds of keys go on beside one another, each a flight. Every key has a generation, and a
flight carries the one that it started under: what a flight brings home is kept only if
that is still the generation of its key. Whatever overtakes a flight raises the
generation and lets go of the flight, so that later loads start one of their own.

The blocks of panels and the listeners of the bus act on a world `σ` that has a bridge in
it. This module holds what happens without a pause; what waits in between is in
`Orchestra.Errand`.
-/

namespace LivePanel.Orchestra

/-- Where a text came from. -/
inductive Origin where
  | source
  | text
deriving DecidableEq, Inhabited

/-- The name of an origin. -/
def Origin.name : Origin → String
  | source => "source"
  | text => "text"

/-- An artifact, with a number that no other one has. -/
structure Built where
  serial : Nat
  artifact : Build.Artifact
deriving Inhabited

/-- An artifact in the cache. -/
structure CacheEntry where
  fingerprint : Fingerprint
  built : Built
  origin : Origin
deriving Inhabited

/-- A template that is kept. -/
structure Loaded where
  template : Template
  fingerprint : Fingerprint
  origin : Origin
deriving Inhabited

/-- A bound event: the template whose action it runs. -/
structure Binding where
  key : String
  action : String
deriving DecidableEq

/-- Why an orchestra refused. -/
inductive Error where
  | sourceUnavailable (key reason : String)
  | notLoaded (key : String)
  | buildAborted (key : String)
  | action (key : String) (e : RunError)
  | watcher (reason : String)
  | shutDown
deriving DecidableEq

/-- The wording of the error. -/
def Error.message : Error → String
  | sourceUnavailable key reason => "Template source unavailable for " ++ key ++ ": " ++ reason
  | notLoaded key => "Template not loaded: " ++ key
  | buildAborted key => "Build task for " ++ key ++ " aborted"
  | action key e => "Action on " ++ key ++ " rejected: " ++ e.message
  | watcher reason => "Watcher error: " ++ reason
  | shutDown => "Orchestrator is shut down"

/-- What a load gives. -/
abbrev Landing := Except Error Built

/-- What does not change in an orchestra: whether known templates are built again when their
files change, how texts are built, and the key that the source has for a path. -/
structure Setup (σ : Type) where
  hotReload : Bool := true
  options : Build.Options := {}
  registry : Registry σ
  keyOf? : String → Option String

end Orchestra

open Orchestra in
/-- An orchestra. -/
structure Orchestra (σ : Type) where
  setup : Setup σ
  scene : Scene σ
  log : ActivityLog
  store : State.Store := State.Store.empty
  cache : Table CacheEntry := []
  loaded : Table Loaded := []
  bindings : Table (List Subscription) := []
  subscriptions : Subscriptions Binding := {}
  flights : Table Nat := []
  landed : List (Nat × Landing) := []
  generations : Table Nat := []
  nextFlight : Nat := 0
  nextRun : Nat := 0
  nextBuilt : Nat := 0
  watching : Option String := none
  shutDown : Bool := false
  cancelled : List Nat := []
  left : Nat := Run.stint

namespace Orchestra

variable {σ : Type}

/-- Add a line to the log. -/
def record (o : Orchestra σ) (kind : ActivityKind) (key : Option String) (detail : String) :
    Orchestra σ :=
  { o with log := o.log.record ⟨kind, key, detail⟩ }

/-- Emit an event. -/
def emit (o : Orchestra σ) (e : Event) : Orchestra σ := { o with scene := (o.scene.emit e).2 }

/-- Emit what happened outside of any run. -/
def tell (o : Orchestra σ) (what : Happening) : Orchestra σ := o.emit ⟨what, none⟩

/-- The generation of a key. -/
def generation (o : Orchestra σ) (key : String) : Nat := (o.generations.get? key).getD 0

/-- Begin a new generation of a key, and let go of its flight. -/
def supersede (o : Orchestra σ) (key : String) : Orchestra σ :=
  { o with
    generations := o.generations.put key (o.generation key + 1)
    flights := Table.erase o.flights key }

/-- Keep an artifact. -/
def keep (o : Orchestra σ) (key : String) (fingerprint : Fingerprint) (origin : Origin)
    (b : Built) : Orchestra σ :=
  { o with cache := o.cache.put key ⟨fingerprint, b, origin⟩ }

/-- The event of a build. -/
def announcement (key : String) (a : Build.Artifact) : Happening :=
  if a.isOk then .templateBuilt key a.used a.warnings.length
  else .templateError key (a.errors.map Build.Error.text)

/-- Log and tell how a build came out. -/
def announce (o : Orchestra σ) (key : String) (a : Build.Artifact) : Orchestra σ :=
  let o :=
    if a.isOk then
      o.record .built key
        (toString a.used.length ++ " blocks, " ++ toString a.warnings.length ++ " warnings")
    else o.record .buildFailed key (toString a.errors.length ++ " errors")
  o.tell (announcement key a)

/-- Subscribe to the events of a template. -/
def bind (o : Orchestra σ) (key : String) : List EventBinding → List Subscription × Orchestra σ
  | [] => ([], o)
  | e :: rest =>
    let made := o.subscriptions.subscribe e.event ⟨key, e.action⟩
    let others := bind { o with subscriptions := made.2 } key rest
    (made.1 :: others.1, others.2)

/-- End the subscriptions of a key and put others in their place. -/
def rebind (o : Orchestra σ) (key : String) (subs : List Subscription) : Orchestra σ :=
  { o with
    bindings := o.bindings.put key subs
    subscriptions := o.subscriptions.cancelAll ((o.bindings.get? key).getD []) }

/-- Keep a template, and bind its events unless there is nothing that could run them. -/
def register (o : Orchestra σ) (key : String) (l : Loaded) (bound : Bool) : Orchestra σ :=
  let made := o.bind key (if bound then l.template.events else [])
  { made.2 with loaded := made.2.loaded.put key l }.rebind key made.1

/-- Forget a template, and end its subscriptions. -/
def unregister (o : Orchestra σ) (key : String) : Orchestra σ :=
  { o with
    loaded := Table.erase o.loaded key
    bindings := Table.erase o.bindings key
    subscriptions := o.subscriptions.cancelAll ((o.bindings.get? key).getD []) }

/-- Give an artifact its number. -/
def number (o : Orchestra σ) (a : Build.Artifact) (world : σ) : Built × Orchestra σ :=
  (⟨o.nextBuilt, a⟩,
    { o with nextBuilt := o.nextBuilt + 1, scene := { o.scene with world := world } })

/-- Build a text. The artifact is kept and told of only if the orchestra is not shut down and the
generation of the key is still the given one. -/
def buildText (o : Orchestra σ) (key text : String) (fingerprint : Fingerprint) (origin : Origin)
    (generation : Nat) (bound : Bool := true) : Built × Orchestra σ :=
  let parsed := Template.parse text o.setup.options.maxDepth
  let made :=
    Build.outcome o.setup.options o.setup.registry parsed o.store.value o.scene.world
  let (b, o) := o.number made.1 made.2
  if o.shutDown then (b, o)
  else if o.generation key != generation then
    (b, o.record .superseded key "newer build replaced it")
  else
    let o := o.keep key fingerprint origin b
    let o :=
      match parsed.template with
      | some t => o.register key ⟨t, fingerprint, origin⟩ bound
      | none => o.unregister key
    let o := o.tell (.templateLoaded key (parsed.template.map (·.name)))
    (b, o.announce key b.artifact)

/-- Build a kept template against the state as it is now, and keep the artifact. -/
def rebuild (o : Orchestra σ) (key : String) (l : Loaded) : Orchestra σ :=
  let made := Build.template o.setup.options o.setup.registry l.template o.store.value []
    o.scene.world
  let (b, o) := o.number made.1 made.2
  (o.keep key l.fingerprint l.origin b).announce key b.artifact

/-- Build a text given under a key. It overtakes the flight of the key. -/
def loadText (o : Orchestra σ) (key text : String) (bound : Bool) : Landing × Orchestra σ :=
  if o.shutDown then (.error .shutDown, o)
  else
    let o := o.supersede key
    let out := o.buildText key text (.ofText text) .text (o.generation key) bound
    (.ok out.1, out.2)

/-- The artifact in the cache. -/
def cached? (o : Orchestra σ) (key : String) : Option Built := (o.cache.get? key).map (·.built)

/-- Drop the artifact of a key; whether there was one. -/
def invalidate (o : Orchestra σ) (key : String) : Bool × Orchestra σ :=
  let o := o.supersede key
  if o.cache.has key then
    (true, { o with cache := Table.erase o.cache key }.record .invalidated key
      "cache entry invalidated")
  else (false, o)

/-- Drop all artifacts; how many there were. -/
def clearCache (o : Orchestra σ) : Nat × Orchestra σ :=
  let n := o.cache.length
  let o := { o with cache := [] }.record .cacheCleared none (toString n ++ " entries dropped")
  (n, o.tell (.cacheCleared n))

/-- Forget a key whose file has gone. -/
def evict (o : Orchestra σ) (key : String) : Orchestra σ :=
  let known := o.cache.has key || o.loaded.has key
  let o := o.supersede key
  let o := { o with cache := Table.erase o.cache key }.unregister key
  if known then o.record .evicted key "source removed" else o

/-- Whether an artifact in the cache may be served, given what the source says of its key now: the
fingerprint has not changed, or the text was given and the source has none. -/
def CacheEntry.isFresh (e : CacheEntry) : Except SourceError Fingerprint → Bool
  | .ok f => f = e.fingerprint
  | .error cause => e.origin = .text && cause.isNotFound

/-- Log that an artifact was served. -/
def serve (o : Orchestra σ) (key : String) : Orchestra σ :=
  o.record .cacheHit key "served from cache"

/-- What a build comes to whose source has failed: a text that was given stands in for a key that
was not found. -/
def sourceFailed (o : Orchestra σ) (key : String) (cause : SourceError) : Landing × Orchestra σ :=
  match (o.cache.get? key).filter fun e => cause.isNotFound && e.origin = .text with
  | some e => (.ok e.built, o)
  | none =>
    (.error (.sourceUnavailable key cause.message), o.record .sourceError key cause.message)

/-- End all that the orchestra keeps. -/
def close (o : Orchestra σ) : Orchestra σ :=
  { o with
    subscriptions := o.subscriptions.cancelAll (Table.values o.bindings).flatten
    bindings := []
    scene := o.scene.mapBus Bus.clear
    flights := []
    cache := []
    loaded := []
    watching := none }

/-- The runs that an event of the bridge starts. -/
def fired (o : Orchestra σ) (event : String) : List Binding := o.subscriptions.called event

/-- Write into the store. -/
def setState (o : Orchestra σ) (path : String) (v : Value) :
    Except State.WriteError (Orchestra σ) :=
  (o.store.set path v).map fun store => { o with store := store }

/-- A kept template in a status. -/
structure Summary where
  key : String
  name : String
  version : String
  origin : Origin

/-- How an orchestra stands. -/
structure Status where
  templates : List Summary
  cached : Nat
  inFlight : Nat
  watching : Option String
  hotReload : Bool
  shutDown : Bool
  activity : List Activity

/-- How the orchestra stands. -/
def status (o : Orchestra σ) : Status :=
  { templates := o.loaded.map fun e =>
      ⟨e.1, e.2.template.name, e.2.template.version, e.2.origin⟩
    cached := o.cache.length
    inFlight := o.flights.length
    watching := o.watching
    hotReload := o.setup.hotReload
    shutDown := o.shutDown
    activity := o.log.entries }

/-- The JSON form of a kept template. -/
def Summary.toValue (s : Summary) : Value :=
  .obj [("key", .str s.key), ("name", .str s.name), ("version", .str s.version),
    ("origin", .str s.origin.name)]

/-- The JSON form of a status. -/
def Status.toValue (s : Status) : Value :=
  .obj ([("templates", .arr (s.templates.map Summary.toValue)),
      ("loaded", Value.ofNat s.templates.length), ("cached", Value.ofNat s.cached),
      ("in_flight", Value.ofNat s.inFlight)] ++
    (s.watching.map fun w => ("watching", Value.str w)).toList ++
    [("hot_reload", .bool s.hotReload), ("shut_down", .bool s.shutDown),
      ("activity", .arr (s.activity.map Activity.toValue))])

end Orchestra

end LivePanel
