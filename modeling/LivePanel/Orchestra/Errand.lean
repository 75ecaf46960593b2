import LivePanel.Orchestra.Basic
import LivePanel.Watch.Known

/-!
# Errands of an orchestra

What an orchestra is asked to do may have to wait: for the source, for another flight, for
a reply of the host, for a watcher. An errand is what is left to do at such a pause. It
goes on when a signal comes, in one turn that nothing comes between, up to its next pause;
a turn may launch other errands. Errands that are let go stop where they are, but a flight
goes on without those that wait for it.
-/

namespace LivePanel.Orchestra

/-- A build of a key: its number, whether it builds even if the cache is fresh, and the generation
that it started under. -/
structure Flight where
  id : Nat
  key : String
  forced : Bool
  generation : Nat
deriving DecidableEq

/-- A run of an action, with the template that it started with; `token` is what cancels it, and
`none` that the shutdown does. -/
structure Dispatch where
  performance : Performance
  loaded : Loaded
  token : Option Nat

/-- What comes of an errand. -/
inductive Outcome where
  | nothing
  | landed (l : Landing)
  | reported (r : Except Error RunReport)
  | watching (r : Except Error Unit)

/-- What is left to do. The first seven have not begun. -/
inductive Errand where
  | load (key : String)
  | reload (key : String)
  | build (f : Flight)
  | notice (n : Watch.Notice)
  | dispatch (key action : String) (token : Option Nat)
  | watch (dir : String)
  | shutDown
  | comparing (key : String) (e : CacheEntry)
  | comparingIn (f : Flight) (e : CacheEntry)
  | marking (f : Flight)
  | reading (f : Flight) (mark : Fingerprint)
  | joining (flight : Nat) (silent : Bool)
  | running (d : Dispatch)
  | readying (dir : String)
  | closing
  | done (r : Outcome)

/-- Whether an errand waits for a flight. -/
def Errand.isJoining : Errand → Bool
  | .joining .. => true
  | _ => false

/-- What an errand goes on with; `collapse` where the source breaks off, whatever it was asked for. -/
inductive Signal where
  | go
  | fingerprint (r : Except SourceError Fingerprint)
  | text (r : Except SourceError String)
  | collapse
  | reply
  | ready (ok : Bool)

/-- What a turn comes to. -/
structure Turn (σ : Type) where
  orchestra : Orchestra σ
  errand : Errand
  launched : List Errand := []

variable {σ : Type}

/-- A turn that ends its errand. -/
def Turn.over (o : Orchestra σ) (r : Outcome) : Turn σ := ⟨o, .done r, []⟩

/-- Whether what a token stands for is cancelled. -/
def isCancelled (o : Orchestra σ) : Option Nat → Bool
  | none => o.shutDown
  | some token => token ∈ o.cancelled

/-- Join the flight of a key, or launch one. -/
def join (o : Orchestra σ) (key : String) (forced silent : Bool) : Turn σ :=
  match o.flights.get? key with
  | some id => ⟨o, .joining id silent, []⟩
  | none =>
    let id := o.nextFlight
    ⟨{ o with flights := o.flights.put key id, nextFlight := id + 1 }, .joining id silent,
      [.build ⟨id, key, forced, o.generation key⟩]⟩

/-- End a flight. It is taken off the flights of its key if it is still the one there. -/
def land (o : Orchestra σ) (f : Flight) (l : Landing) : Turn σ :=
  .over
    { o with
      flights := if o.flights.get? f.key = some f.id then Table.erase o.flights f.key else o.flights
      landed := (f.id, l) :: o.landed }
    .nothing

/-- End a flight that broke off. -/
def crash (o : Orchestra σ) (f : Flight) : Turn σ :=
  .over { o with landed := (f.id, .error (.buildAborted f.key)) :: o.landed } .nothing

/-- Look up what a flight brought home. -/
def landing? (o : Orchestra σ) (flight : Nat) : Option Landing := o.landed.lookup flight

/-- Drop what is kept of the template at a path, and build it again if it was known. -/
def refresh (o : Orchestra σ) (path : String) : Turn σ :=
  match o.setup.keyOf? path with
  | none => .over o .nothing
  | some key =>
    let loaded := o.loaded.has key
    let dropped := o.invalidate key
    if o.setup.hotReload && (loaded || dropped.1) then dropped.2.join key true true
    else .over dropped.2 .nothing

/-- Act on a notice of the watcher. -/
def takeNotice (o : Orchestra σ) : Watch.Notice → Turn σ
  | .added path => (o.tell (.fileAdded path)).refresh path
  | .changed path => (o.tell (.fileChanged path)).refresh path
  | .removed path =>
    let o :=
      match o.setup.keyOf? path with
      | some key => o.evict key
      | none => o
    .over (o.tell (.fileRemoved path)) .nothing
  | .trouble message => .over (o.record .watcher none message) .nothing

section

variable [Hosted σ]

/-- What runs work on. -/
def desk (o : Orchestra σ) : Desk := ⟨o.store, Hosted.bridge o.scene.world, o.left⟩

/-- Put back what a run has worked on. -/
def withDesk (o : Orchestra σ) (d : Desk) : Orchestra σ :=
  { o with
    store := d.store
    left := d.left
    scene := { o.scene with world := Hosted.withBridge o.scene.world d.bridge } }

/-- Go on after a run has gone as far as it can. When it has ended, that is told; and if the state
has changed meanwhile, the template is built again. -/
def settle (d : Dispatch) (o : Orchestra σ) : Turn σ :=
  let f := d.performance
  match f.closing? with
  | none => ⟨o, .running d, []⟩
  | some e =>
    let o := o.emit e
    let report := f.report o.store
    let o := o.record .action f.key (f.action ++ ": " ++ report.state.name)
    let o :=
      if report.stateChanged && !o.shutDown then
        (o.tell (.stateChanged f.key o.store.revision)).rebuild f.key d.loaded
      else o
    .over o (.reported (.ok report))

/-- Start a run of an action. -/
def startRun (o : Orchestra σ) (key action : String) (token : Option Nat) : Turn σ :=
  match o.loaded.get? key with
  | none => .over o (.reported (.error (.notLoaded key)))
  | some l =>
    match Performance.start o.nextRun key action l.template.program o.store with
    | .error e => .over o (.reported (.error (.action key e)))
    | .ok f =>
      let o := { o with nextRun := o.nextRun + 1 }.emit f.opening
      let out := f.drive (o.isCancelled token) o.desk
      settle ⟨out.1, l, token⟩ (o.withDesk out.2)

/-- One turn of an errand. A signal that the errand does not wait for changes nothing. Where the source
breaks off, so does what has asked it: a flight leaves that to those that wait for it, and nothing
comes of a load that looks into the cache by itself. -/
def Errand.turn (t : Errand) (s : Signal) (o : Orchestra σ) : Turn σ :=
  match t, s with
  | .load key, .go =>
    if o.shutDown then .over o (.landed (.error .shutDown))
    else
      match o.cache.get? key with
      | some e => ⟨o, .comparing key e, []⟩
      | none => o.join key false false
  | .comparing key e, .fingerprint r =>
    if e.isFresh r then .over (o.serve key) (.landed (.ok e.built)) else o.join key false false
  | .comparing _ _, .collapse => .over o .nothing
  | .reload key, .go =>
    if o.shutDown then .over o (.landed (.error .shutDown)) else o.join key true false
  | .joining flight silent, .go =>
    match o.landing? flight with
    | none => ⟨o, t, []⟩
    | some l => .over o (if silent then .nothing else .landed l)
  | .build f, .go =>
    match if f.forced then none else o.cache.get? f.key with
    | some e => ⟨o, .comparingIn f e, []⟩
    | none => ⟨o, .marking f, []⟩
  | .comparingIn f e, .fingerprint r =>
    if e.isFresh r then (o.serve f.key).land f (.ok e.built) else ⟨o, .marking f, []⟩
  | .comparingIn f _, .collapse => o.crash f
  | .marking f, .fingerprint (.ok mark) => ⟨o, .reading f mark, []⟩
  | .marking f, .fingerprint (.error cause) =>
    let out := o.sourceFailed f.key cause
    out.2.land f out.1
  | .marking f, .collapse => o.crash f
  | .reading f mark, .text (.ok text) =>
    let out := o.buildText f.key text mark .source f.generation
    out.2.land f (.ok out.1)
  | .reading f _, .text (.error cause) =>
    let out := o.sourceFailed f.key cause
    out.2.land f out.1
  | .reading f _, .collapse => o.crash f
  | .notice n, .go => if o.shutDown then .over o .nothing else o.takeNotice n
  | .dispatch key action token, .go =>
    if o.shutDown then .over o (.reported (.error .shutDown)) else o.startRun key action token
  | .running d, .go =>
    let out := d.performance.drive (o.isCancelled d.token) o.desk
    settle { d with performance := out.1 } (o.withDesk out.2)
  | .running d, .reply =>
    let cancelled := o.isCancelled d.token
    let out :=
      if cancelled then d.performance.drive cancelled o.desk
      else d.performance.reply cancelled o.desk
    settle { d with performance := out.1 } (o.withDesk out.2)
  | .watch dir, .go =>
    if o.shutDown then .over o (.watching (.error .shutDown))
    else
      match o.watching with
      | some current => .over o (.watching (.error (.watcher ("already watching " ++ current))))
      | none => ⟨{ o with watching := some dir }, .readying dir, []⟩
  | .readying dir, .ready true =>
    .over (o.record .watcher none ("watching " ++ dir)) (.watching (.ok ()))
  | .readying dir, .ready false =>
    .over { o with watching := none } (.watching (.error (.watcher ("cannot watch " ++ dir))))
  | .shutDown, .go =>
    if o.shutDown then .over o .nothing else ⟨{ o with shutDown := true }, .closing, []⟩
  | .closing, .go => .over o.close .nothing
  | t, _ => ⟨o, t, []⟩

/-- Let go of an errand. A run that is under way counts as cancelled. -/
def Errand.letGo (t : Errand) (o : Orchestra σ) : Orchestra σ :=
  match t with
  | .running d => d.performance.letGo.closing?.elim o o.emit
  | _ => o

end

end LivePanel.Orchestra
