import LivePanel.Proofs.Orchestra.Building

/-!
# What one turn of an errand can do

`Course o t s turn` lists the turns that an errand `t` of an orchestra `o` can take at a signal
`s`: one constructor for each thing that can happen, said in terms of the operations of the
orchestra. Every turn is one of these (`course`), and what is later said about all turns is
read off the list; the turn function itself is not opened again.

## What is proved

* `course`: every turn is on the list.
* `Course.grows`: numbers and generations only go up, and what has landed stays landed.
* `Course.flown`: a turn lands its own flight or launches a new one, or leaves the flights alone.
-/

namespace LivePanel.Orchestra

variable {σ : Type}

/-! ### Errands and their keys -/

/-- The flight that an errand is a piece of. -/
def Errand.flight? : Errand → Option Flight
  | .build f => some f
  | .comparingIn f _ => some f
  | .marking f => some f
  | .reading f _ => some f
  | _ => none

/-- The key and the template of the run that an errand goes on with or starts. -/
def Errand.run? (o : Orchestra σ) : Errand → Option (String × Loaded)
  | .dispatch key _ _ => (o.loaded.get? key).map (key, ·)
  | .running d => some (d.performance.key, d.loaded)
  | _ => none

/-- An errand is a load or reload of a key that has no flight to wait for yet. -/
def Errand.Wants (key : String) : Errand → Prop
  | .load k => k = key
  | .reload k => k = key
  | .comparing k _ => k = key
  | _ => False

/-- An errand is over, or waits for a watcher. -/
def Errand.Rests : Errand → Prop
  | .done _ => True
  | .readying _ => True
  | _ => False

/-- An errand may change what is held under a key. -/
def Errand.Touches (keyOf? : String → Option String) (key : String) : Errand → Prop
  | .load k => k = key
  | .reload k => k = key
  | .build f => f.key = key
  | .notice (.added path) => keyOf? path = some key
  | .notice (.changed path) => keyOf? path = some key
  | .notice (.removed path) => keyOf? path = some key
  | .dispatch k _ _ => k = key
  | .shutDown => True
  | .comparing k _ => k = key
  | .comparingIn f _ => f.key = key
  | .marking f => f.key = key
  | .reading f _ => f.key = key
  | .running d => d.performance.key = key
  | .closing => True
  | _ => False

/-! ### Joining and landing -/

section

variable (o : Orchestra σ) (key k : String)

/-- Launch a flight of a key. -/
def embark (o : Orchestra σ) (key : String) : Orchestra σ :=
  { o with flights := o.flights.put key o.nextFlight, nextFlight := o.nextFlight + 1 }

/-- The flight that is launched next. -/
def nextOf (o : Orchestra σ) (key : String) (forced : Bool) : Flight :=
  ⟨o.nextFlight, key, forced, o.generation key⟩

theorem join_of_flight {id : Nat} (h : o.flights.get? key = some id) (forced silent : Bool) :
    o.join key forced silent = ⟨o, .joining id silent, []⟩ := by
  simp [join, h]

theorem join_of_none (h : o.flights.get? key = none) (forced silent : Bool) :
    o.join key forced silent =
      ⟨o.embark key, .joining o.nextFlight silent, [.build (o.nextOf key forced)]⟩ := by
  simp [join, h, embark, nextOf]

theorem holding_embark :
    (o.embark key).holding k =
      if key = k then { o.holding k with flight := some o.nextFlight } else o.holding k := by
  unfold embark holding generation
  by_cases h : key = k <;> simp [Table.get?_put, h]

@[simp] theorem ledger_embark :
    (o.embark key).ledger = { o.ledger with nextFlight := o.nextFlight + 1 } := rfl

theorem holding_land (f : Flight) (l : Landing) :
    (o.land f l).orchestra.holding k =
      if f.key = k ∧ o.flights.get? k = some f.id then { o.holding k with flight := none }
      else o.holding k := by
  unfold land Turn.over holding generation
  dsimp only
  by_cases hk : f.key = k
  · subst hk
    split <;> simp_all [Table.get?_erase]
  · split <;> simp [Table.get?_erase, hk]

@[simp] theorem ledger_land (f : Flight) (l : Landing) :
    (o.land f l).orchestra.ledger = { o.ledger with landed := (f.id, l) :: o.landed } := rfl

@[simp] theorem cache_land (f : Flight) (l : Landing) :
    (o.land f l).orchestra.cache = o.cache := rfl

@[simp] theorem loaded_land (f : Flight) (l : Landing) :
    (o.land f l).orchestra.loaded = o.loaded := rfl

@[simp] theorem scene_land (f : Flight) (l : Landing) :
    (o.land f l).orchestra.scene = o.scene := rfl

@[simp] theorem holding_crash (f : Flight) : (o.crash f).orchestra.holding = o.holding := rfl

@[simp] theorem ledger_crash (f : Flight) :
    (o.crash f).orchestra.ledger =
      { o.ledger with landed := (f.id, .error (.buildAborted f.key)) :: o.landed } := rfl

@[simp] theorem scene_serve : (o.serve key).scene = o.scene := rfl

@[simp] theorem scene_sourceFailed (cause : SourceError) :
    (o.sourceFailed key cause).2.scene = o.scene := by
  unfold sourceFailed
  split <;> rfl

/-- Whatever drops an artifact lets go of the flight of its key. -/
theorem flight_invalidate : (o.invalidate key).2.flights.get? key = none := by
  have h := congrArg Holding.flight (o.holding_invalidate key key)
  simpa [holding] using h

end

/-! ### Turns that only tell -/

/-- An orchestra has worked on its store and its world and has told of one key, or it has told of none
and has left its store alone; what it holds and what it has subscribed to is as before. -/
structure Quiet (about : Option String) (o o' : Orchestra σ) : Prop where
  holding : o'.holding = o.holding
  flights : o'.flights = o.flights
  ledger : o'.ledger = o.ledger
  subscriptions : o'.subscriptions = o.subscriptions
  store : about = none → o'.store = o.store
  tells : ∃ es, o.scene.Tells es o'.scene ∧ ∀ e ∈ es, e.what.key? = about

namespace Quiet

variable {about : Option String} {o o' o'' : Orchestra σ}

theorem refl : Quiet about o o := ⟨rfl, rfl, rfl, rfl, fun _ => rfl, [], .still, by simp⟩

theorem trans (h : Quiet about o o') (h' : Quiet about o' o'') : Quiet about o o'' := by
  obtain ⟨es, hes, hk⟩ := h.tells
  obtain ⟨es', hes', hk'⟩ := h'.tells
  refine ⟨h'.holding.trans h.holding, h'.flights.trans h.flights, h'.ledger.trans h.ledger,
    h'.subscriptions.trans h.subscriptions, fun ha => (h'.store ha).trans (h.store ha), es ++ es',
    hes.trans hes', ?_⟩
  intro e he
  rcases List.mem_append.1 he with he | he
  · exact hk e he
  · exact hk' e he

theorem record (kind : ActivityKind) (k : Option String) (detail : String) :
    Quiet about o (o.record kind k detail) :=
  ⟨rfl, rfl, rfl, rfl, fun _ => rfl, [], .still, by simp⟩

theorem emit {e : Event} (h : e.what.key? = about) : Quiet about o (o.emit e) :=
  ⟨rfl, rfl, rfl, rfl, fun _ => rfl, [e], .emitted e .still, by simpa using h⟩

theorem tell {what : Happening} (h : what.key? = about) : Quiet about o (o.tell what) :=
  emit h

theorem withDesk [Hosted σ] (key : String) (d : Desk) : Quiet (some key) o (o.withDesk d) :=
  ⟨rfl, rfl, rfl, rfl, nofun, [], Scene.tells_nil_iff.2 rfl, by simp⟩

end Quiet

/-! ### The list -/

/-- The turns that an errand can take. -/
inductive Course [Hosted σ] (o : Orchestra σ) : Errand → Signal → Turn σ → Prop where
  /-- It waits for another signal, or for a flight that has not landed. -/
  | unmoved {t : Errand} {s : Signal} : Course o t s ⟨o, t, []⟩
  /-- It ends with nothing done: refused, or with what the flight brought that it waited for. -/
  | returns {t : Errand} {s : Signal} {r : Outcome} (ht : t.flight? = none) :
      Course o t s (.over o r)
  /-- A load finds an artifact, and asks whether it is fresh. -/
  | compares {key : String} {e : CacheEntry} (he : o.cache.get? key = some e) :
      Course o (.load key) .go ⟨o, .comparing key e, []⟩
  /-- A load is served from the cache. -/
  | serves {key : String} {e : CacheEntry} {r : Except SourceError Fingerprint}
      (hr : e.isFresh r = true) :
      Course o (.comparing key e) (.fingerprint r) (.over (o.serve key) (.landed (.ok e.built)))
  /-- A load or reload joins the flight of its key. -/
  | joins {t : Errand} {s : Signal} {key : String} {id : Nat} {silent : Bool} (ht : t.Wants key)
      (hf : o.flights.get? key = some id) : Course o t s ⟨o, .joining id silent, []⟩
  /-- A load or reload launches a flight. -/
  | embarks {t : Errand} {s : Signal} {key : String} {forced silent : Bool} (ht : t.Wants key)
      (hf : o.flights.get? key = none) :
      Course o t s
        ⟨o.embark key, .joining o.nextFlight silent, [.build (o.nextOf key forced)]⟩
  /-- A flight goes for the fingerprint. -/
  | setsOut {f : Flight} (h : f.forced = true ∨ o.cache.get? f.key = none) :
      Course o (.build f) .go ⟨o, .marking f, []⟩
  /-- A flight finds an artifact, and asks whether it is fresh. -/
  | comparesIn {f : Flight} {e : CacheEntry} (hf : f.forced = false)
      (he : o.cache.get? f.key = some e) : Course o (.build f) .go ⟨o, .comparingIn f e, []⟩
  /-- The artifact that a flight has found is fresh. -/
  | servesIn {f : Flight} {e : CacheEntry} {r : Except SourceError Fingerprint}
      (hr : e.isFresh r = true) :
      Course o (.comparingIn f e) (.fingerprint r) ((o.serve f.key).land f (.ok e.built))
  /-- The artifact that a flight has found is not fresh. -/
  | turnsBack {f : Flight} {e : CacheEntry} {r : Except SourceError Fingerprint}
      (hr : e.isFresh r = false) :
      Course o (.comparingIn f e) (.fingerprint r) ⟨o, .marking f, []⟩
  /-- A flight has the fingerprint, and goes for the text. -/
  | marks {f : Flight} {mark : Fingerprint} :
      Course o (.marking f) (.fingerprint (.ok mark)) ⟨o, .reading f mark, []⟩
  /-- The source has failed a flight. -/
  | fails {t : Errand} {s : Signal} {f : Flight} {cause : SourceError} (ht : t.flight? = some f) :
      Course o t s
        ((o.sourceFailed f.key cause).2.land f (o.sourceFailed f.key cause).1)
  /-- A flight has the text, and builds it. -/
  | builds {f : Flight} {mark : Fingerprint} {text : String} :
      Course o (.reading f mark) (.text (.ok text))
        ((o.buildText f.key text mark .source f.generation).2.land f (.ok (o.builtOf text)))
  /-- A flight breaks off. -/
  | crashes {t : Errand} {f : Flight} (ht : t.flight? = some f) : Course o t .collapse (o.crash f)
  /-- A notice drops an artifact. -/
  | drops {n : Watch.Notice} {path key : String} {o' : Orchestra σ}
      (hn : n = .added path ∨ n = .changed path) (hk : o.setup.keyOf? path = some key)
      (hq : Quiet none o o') : Course o (.notice n) .go (.over (o'.invalidate key).2 .nothing)
  /-- A notice drops an artifact, and launches a flight. -/
  | renews {n : Watch.Notice} {path key : String} {o' : Orchestra σ}
      (hn : n = .added path ∨ n = .changed path) (hk : o.setup.keyOf? path = some key)
      (hq : Quiet none o o') :
      Course o (.notice n) .go
        ⟨(o'.invalidate key).2.embark key, .joining (o'.invalidate key).2.nextFlight true,
          [.build ((o'.invalidate key).2.nextOf key true)]⟩
  /-- A notice forgets a key. -/
  | evicts {path key : String} (hk : o.setup.keyOf? path = some key) :
      Course o (.notice (.removed path)) .go
        (.over ((o.evict key).tell (.fileRemoved path)) .nothing)
  /-- Something is told or noted that concerns no key. -/
  | notes {t t' : Errand} {s : Signal} {o' : Orchestra σ} (ht : t.flight? = none)
      (ht' : t'.Rests) (hq : Quiet none o o') :
      Course o t s ⟨o', t', []⟩
  /-- A run goes on until it has to wait. -/
  | plays {t : Errand} {s : Signal} {key : String} {l : Loaded} {d : Dispatch} {o' : Orchestra σ}
      (ht : t.run? o = some (key, l)) (hd : d.performance.key = key ∧ d.loaded = l)
      (hq : Quiet (some key) o o') : Course o t s ⟨o', .running d, []⟩
  /-- A run ends. -/
  | finishes {t : Errand} {s : Signal} {key : String} {l : Loaded} {r : RunReport}
      {o' : Orchestra σ} (ht : t.run? o = some (key, l)) (hq : Quiet (some key) o o') :
      Course o t s (.over o' (.reported (.ok r)))
  /-- A run ends, and its template is built again. -/
  | rebuilds {t : Errand} {s : Signal} {key : String} {l : Loaded} {r : RunReport}
      {o' : Orchestra σ} (ht : t.run? o = some (key, l)) (hs : o.shutDown = false)
      (hq : Quiet (some key) o o') :
      Course o t s (.over (o'.rebuild key l) (.reported (.ok r)))
  /-- The orchestra refuses what comes from now on. -/
  | shutsDown : Course o .shutDown .go ⟨{ o with shutDown := true }, .closing, []⟩
  /-- The orchestra lets go of what it holds. -/
  | closes : Course o .closing .go (.over o.close .nothing)

/-! ### Every turn is on the list -/

section

variable [Hosted σ] (o : Orchestra σ)

theorem course_join {t : Errand} {key : String} (ht : t.Wants key) (s : Signal)
    (forced silent : Bool) : Course o t s (o.join key forced silent) := by
  cases hf : o.flights.get? key with
  | some id =>
    rw [join_of_flight o key hf]
    exact .joins ht hf
  | none =>
    rw [join_of_none o key hf]
    exact .embarks ht hf

theorem course_load (key : String) (s : Signal) :
    Course o (.load key) s ((Errand.load key).turn s o) := by
  have ht : (Errand.load key).Wants key := rfl
  cases s with
  | go =>
    unfold Errand.turn
    dsimp only
    split
    · exact .returns rfl
    · split
      · rename_i he
        exact .compares he
      · exact course_join o ht _ _ _
  | _ => exact .unmoved

theorem course_reload (key : String) (s : Signal) :
    Course o (.reload key) s ((Errand.reload key).turn s o) := by
  have ht : (Errand.reload key).Wants key := rfl
  cases s with
  | go =>
    unfold Errand.turn
    dsimp only
    split
    · exact .returns rfl
    · exact course_join o ht _ _ _
  | _ => exact .unmoved

theorem course_comparing (key : String) (e : CacheEntry) (s : Signal) :
    Course o (.comparing key e) s ((Errand.comparing key e).turn s o) := by
  have ht : (Errand.comparing key e).Wants key := rfl
  cases s with
  | fingerprint r =>
    unfold Errand.turn
    dsimp only
    split
    · rename_i hr
      exact .serves hr
    · exact course_join o ht _ _ _
  | collapse => exact .returns rfl
  | _ => exact .unmoved

theorem course_build (f : Flight) (s : Signal) :
    Course o (.build f) s ((Errand.build f).turn s o) := by
  cases s with
  | go =>
    unfold Errand.turn
    dsimp only
    cases hf : f.forced with
    | true => exact .setsOut (.inl hf)
    | false =>
      cases he : o.cache.get? f.key with
      | some e => exact .comparesIn hf he
      | none => exact .setsOut (.inr he)
  | _ => exact .unmoved

theorem course_comparingIn (f : Flight) (e : CacheEntry) (s : Signal) :
    Course o (.comparingIn f e) s ((Errand.comparingIn f e).turn s o) := by
  cases s with
  | fingerprint r =>
    unfold Errand.turn
    dsimp only
    cases hr : e.isFresh r with
    | true => exact .servesIn hr
    | false => exact .turnsBack hr
  | collapse => exact .crashes rfl
  | _ => exact .unmoved

theorem course_marking (f : Flight) (s : Signal) :
    Course o (.marking f) s ((Errand.marking f).turn s o) := by
  cases s with
  | fingerprint r =>
    cases r with
    | ok mark => exact .marks
    | error cause => exact .fails rfl
  | collapse => exact .crashes rfl
  | _ => exact .unmoved

theorem course_reading (f : Flight) (mark : Fingerprint) (s : Signal) :
    Course o (.reading f mark) s ((Errand.reading f mark).turn s o) := by
  cases s with
  | text r =>
    cases r with
    | ok text =>
      unfold Errand.turn
      simp only [buildText_fst]
      exact .builds
    | error cause => exact .fails rfl
  | collapse => exact .crashes rfl
  | _ => exact .unmoved

theorem course_refresh {n : Watch.Notice} {path : String} {o' : Orchestra σ}
    (hn : n = .added path ∨ n = .changed path) (hq : Quiet none o o') :
    Course o (.notice n) .go (o'.refresh path) := by
  have hs : o'.setup = o.setup := congrArg Ledger.setup hq.ledger
  unfold refresh
  split
  · exact .notes rfl trivial hq
  · rename_i key hk
    rw [hs] at hk
    dsimp only
    split
    · rw [join_of_none _ key (flight_invalidate o' key)]
      exact .renews hn hk hq
    · exact .drops hn hk hq

theorem course_notice (n : Watch.Notice) (s : Signal) :
    Course o (.notice n) s ((Errand.notice n).turn s o) := by
  cases s with
  | go =>
    unfold Errand.turn
    dsimp only
    split
    · exact .returns rfl
    · cases n with
      | added path => exact course_refresh o (.inl rfl) (.tell rfl)
      | changed path => exact course_refresh o (.inr rfl) (.tell rfl)
      | removed path =>
        simp only [takeNotice]
        cases hk : o.setup.keyOf? path with
        | some key => exact .evicts hk
        | none => exact .notes rfl trivial (.tell rfl)
      | trouble message => exact .notes rfl trivial (.record ..)
  | _ => exact .unmoved

/-- The event of a run's end concerns the template of the run. -/
theorem key?_closing {f : Performance} {e : Event} (h : f.closing? = some e) :
    e.what.key? = some f.key := by
  unfold Performance.closing? at h
  split at h <;> simp_all [Performance.event, Performance.cancelledEvent] <;> subst h <;> rfl

theorem course_settle {t : Errand} {s : Signal} {d : Dispatch} {o' : Orchestra σ}
    (ht : t.run? o = some (d.performance.key, d.loaded))
    (hq : Quiet (some d.performance.key) o o') : Course o t s (settle d o') := by
  unfold settle
  dsimp only
  split
  · exact .plays ht ⟨rfl, rfl⟩ hq
  · rename_i e he
    have hq' := (hq.trans (.emit (key?_closing he))).trans (.record .action (some d.performance.key)
      (d.performance.action ++ ": " ++ (d.performance.report (o'.emit e).store).state.name))
    split
    · rename_i hc
      have hs := (Bool.and_eq_true_iff.1 hc).2
      rw [Bool.not_eq_true'] at hs
      exact .rebuilds ht ((congrArg Ledger.shutDown hq'.ledger).symm.trans hs)
        (hq'.trans (.tell rfl))
    · exact .finishes ht hq'

theorem course_running (d : Dispatch) (s : Signal) :
    Course o (.running d) s ((Errand.running d).turn s o) := by
  cases s with
  | go => exact course_settle (d := { d with performance := _ }) o rfl (.withDesk ..)
  | reply =>
    unfold Errand.turn
    dsimp only
    split
    · exact course_settle (d := { d with performance := _ }) o rfl (.withDesk ..)
    · exact course_settle (d := { d with performance := _ }) o rfl (.withDesk ..)
  | _ => exact .unmoved

theorem course_dispatch (key action : String) (token : Option Nat) (s : Signal) :
    Course o (.dispatch key action token) s ((Errand.dispatch key action token).turn s o) := by
  cases s with
  | go =>
    unfold Errand.turn
    dsimp only
    split
    · exact .returns rfl
    · unfold startRun
      split
      · exact .returns rfl
      · rename_i l hl
        split
        · exact .returns rfl
        · rename_i f hf
          have hk : f.key = key := by
            unfold Performance.start at hf
            split at hf
            · obtain rfl := Except.ok.inj hf
              rfl
            · cases hf
          refine course_settle o (by simp [Errand.run?, hl, Performance.drive, hk]) ?_
          refine Quiet.trans ?_ (.withDesk ..)
          have hn : Quiet (some f.key) o { o with nextRun := o.nextRun + 1 } :=
            ⟨rfl, rfl, rfl, rfl, fun _ => rfl, [], .still, by simp⟩
          exact hn.trans (.emit rfl)
  | _ => exact .unmoved

/-- A flight that has asked the source for something breaks off with it. -/
theorem turn_collapse {t : Errand} {f : Flight} (hf : t.flight? = some f) (ht : t ≠ .build f) :
    t.turn .collapse o = o.crash f := by
  cases t with
  | build g => exact absurd (congrArg Errand.build (Option.some.inj hf)) ht
  | comparingIn | marking | reading =>
    obtain rfl := Option.some.inj hf
    rfl
  | _ => cases hf

/-- **Every turn is on the list.** -/
theorem course (t : Errand) (s : Signal) : Course o t s (t.turn s o) := by
  cases t with
  | load key => exact course_load o key s
  | reload key => exact course_reload o key s
  | build f => exact course_build o f s
  | notice n => exact course_notice o n s
  | dispatch key action token => exact course_dispatch o key action token s
  | watch dir =>
    cases s with
    | go =>
      unfold Errand.turn
      dsimp only
      split
      · exact .returns rfl
      · split
        · exact .returns rfl
        · exact .notes rfl trivial ⟨rfl, rfl, rfl, rfl, fun _ => rfl, [], .still, by simp⟩
    | _ => exact .unmoved
  | shutDown =>
    cases s with
    | go =>
      unfold Errand.turn
      dsimp only
      split
      · exact .returns rfl
      · exact .shutsDown
    | _ => exact .unmoved
  | comparing key e => exact course_comparing o key e s
  | comparingIn f e => exact course_comparingIn o f e s
  | marking f => exact course_marking o f s
  | reading f mark => exact course_reading o f mark s
  | joining flight silent =>
    cases s with
    | go =>
      unfold Errand.turn
      dsimp only
      split
      · exact .unmoved
      · exact .returns rfl
    | _ => exact .unmoved
  | running d => exact course_running o d s
  | readying dir =>
    cases s with
    | ready ok =>
      cases ok with
      | true => exact .notes rfl trivial (.record ..)
      | false => exact .notes rfl trivial ⟨rfl, rfl, rfl, rfl, fun _ => rfl, [], .still, by simp⟩
    | _ => exact .unmoved
  | closing =>
    cases s with
    | go => exact .closes
    | _ => exact .unmoved
  | done r => exact .unmoved

end

/-- A turn launches flights only. -/
theorem Course.launched [Hosted σ] {o : Orchestra σ} {t : Errand} {s : Signal} {turn : Turn σ}
    (h : Course o t s turn) : ∀ t' ∈ turn.launched, ∃ f, t' = .build f := by
  cases h <;> simp [Turn.over, land, crash]

/-! ### Letting go -/

section

variable (o : Orchestra σ) (t : Errand)

@[simp] theorem holding_letGo : (t.letGo o).holding = o.holding := by
  unfold Errand.letGo
  split
  · rename_i d
    cases d.performance.letGo.closing? <;> rfl
  · rfl

@[simp] theorem ledger_letGo : (t.letGo o).ledger = o.ledger := by
  unfold Errand.letGo
  split
  · rename_i d
    cases d.performance.letGo.closing? <;> rfl
  · rfl

end

/-! ### What only grows -/

/-- Numbers and generations go up, what has landed stays landed, and a shutdown is not undone. -/
structure Grows (o o' : Orchestra σ) : Prop where
  setup : o'.setup = o.setup
  generation : ∀ key, o.generation key ≤ o'.generation key
  nextFlight : o.nextFlight ≤ o'.nextFlight
  nextBuilt : o.nextBuilt ≤ o'.nextBuilt
  landed : o.landed <:+ o'.landed
  shutDown : o.shutDown = true → o'.shutDown = true

namespace Grows

variable {o o' o'' : Orchestra σ}

theorem refl : Grows o o := ⟨rfl, fun _ => Nat.le_refl _, Nat.le_refl _, Nat.le_refl _,
  List.suffix_refl _, id⟩

theorem trans (h : Grows o o') (h' : Grows o' o'') : Grows o o'' where
  setup := h'.setup.trans h.setup
  generation key := Nat.le_trans (h.generation key) (h'.generation key)
  nextFlight := Nat.le_trans h.nextFlight h'.nextFlight
  nextBuilt := Nat.le_trans h.nextBuilt h'.nextBuilt
  landed := h.landed.trans h'.landed
  shutDown hs := h'.shutDown (h.shutDown hs)

/-- It is enough to look at the two views of an orchestra. -/
theorem of_views {n : Nat} (hg : ∀ key, (o.holding key).generation ≤ (o'.holding key).generation)
    (hl : o'.ledger = { o.ledger with nextBuilt := o.nextBuilt + n }) : Grows o o' where
  setup := congrArg Ledger.setup hl
  generation := hg
  nextFlight := Nat.le_of_eq (congrArg Ledger.nextFlight hl).symm
  nextBuilt := by
    have h : o'.nextBuilt = o.nextBuilt + n := congrArg Ledger.nextBuilt hl
    omega
  landed := by
    have h : o'.landed = o.landed := congrArg Ledger.landed hl
    exact h ▸ List.suffix_refl _
  shutDown hs := (congrArg Ledger.shutDown hl).trans hs

theorem of_quiet {about : Option String} (h : Quiet about o o') : Grows o o' :=
  of_views (n := 0) (fun key => Nat.le_of_eq (by rw [h.holding])) h.ledger

theorem rebuild (o : Orchestra σ) (key : String) (l : Loaded) : Grows o (o.rebuild key l) := by
  refine of_views (fun k => ?_) (o.ledger_rebuild key l)
  rw [holding_rebuild]
  split <;> exact Nat.le_refl _

theorem supersede (o : Orchestra σ) (key : String) : Grows o (o.supersede key) := by
  refine of_views (n := 0) (fun k => ?_) rfl
  rw [holding_supersede]
  split
  · exact Nat.le_succ _
  · exact Nat.le_refl _

theorem invalidate (o : Orchestra σ) (key : String) : Grows o (o.invalidate key).2 := by
  refine of_views (n := 0) (fun k => ?_) (o.ledger_invalidate key)
  rw [holding_invalidate]
  split
  · exact Nat.le_succ _
  · exact Nat.le_refl _

theorem evict (o : Orchestra σ) (key : String) : Grows o (o.evict key) := by
  refine of_views (n := 0) (fun k => ?_) (o.ledger_evict key)
  rw [holding_evict]
  split
  · exact Nat.le_succ _
  · exact Nat.le_refl _

theorem embark (o : Orchestra σ) (key : String) : Grows o (o.embark key) :=
  ⟨rfl, fun _ => Nat.le_refl _, Nat.le_succ _, Nat.le_refl _, List.suffix_refl _, id⟩

theorem land (o : Orchestra σ) (f : Flight) (l : Landing) : Grows o (o.land f l).orchestra :=
  ⟨rfl, fun _ => Nat.le_refl _, Nat.le_refl _, Nat.le_refl _, List.suffix_cons .., id⟩

theorem sourceFailed (o : Orchestra σ) (key : String) (cause : SourceError) :
    Grows o (o.sourceFailed key cause).2 :=
  of_views (n := 0) (fun k => Nat.le_of_eq (by rw [holding_sourceFailed]))
    (o.ledger_sourceFailed key cause)

theorem serve (o : Orchestra σ) (key : String) : Grows o (o.serve key) :=
  of_views (n := 0) (fun _ => Nat.le_refl _) (o.ledger_serve key)

theorem buildText (o : Orchestra σ) (key text : String) (fingerprint : Fingerprint)
    (origin : Origin) (generation : Nat) (bound : Bool) :
    Grows o (o.buildText key text fingerprint origin generation bound).2 := by
  refine of_views (fun k => ?_) (o.ledger_buildText key text fingerprint origin generation bound)
  by_cases h : o.shutDown = true ∨ o.generation key ≠ generation
  · rcases o.buildText_of_overtaken key text fingerprint origin bound h with h | h <;>
      rw [h] <;> simp
  · obtain ⟨hs, hg⟩ := not_or.1 h
    rw [holding_buildText_of_current o key text fingerprint origin bound
      (Bool.eq_false_iff.2 hs) (Decidable.not_not.1 hg)]
    split <;> exact Nat.le_refl _

theorem clearCache (o : Orchestra σ) : Grows o o.clearCache.2 :=
  of_views (n := 0) (fun _ => Nat.le_refl _) (o.ledger_clearCache)

theorem loadText (o : Orchestra σ) (key text : String) (bound : Bool) :
    Grows o (o.loadText key text bound).2 := by
  unfold Orchestra.loadText
  split
  · exact refl
  · exact (supersede o key).trans (buildText ..)

theorem letGo (o : Orchestra σ) (t : Errand) : Grows o (t.letGo o) :=
  of_views (n := 0) (fun key => Nat.le_of_eq (by rw [holding_letGo])) (o.ledger_letGo t)

end Grows

/-- **A turn only adds to the numbers, the generations and what has landed.** -/
theorem Course.grows [Hosted σ] {o : Orchestra σ} {t : Errand} {s : Signal} {turn : Turn σ}
    (h : Course o t s turn) : Grows o turn.orchestra := by
  cases h with
  | unmoved | returns | compares | joins | setsOut | comparesIn | turnsBack | marks => exact .refl
  | serves => exact .serve ..
  | embarks => exact .embark ..
  | servesIn => exact (Grows.serve ..).trans (.land ..)
  | fails => exact (Grows.sourceFailed ..).trans (.land ..)
  | builds => exact (Grows.buildText ..).trans (.land ..)
  | crashes =>
    exact ⟨rfl, fun _ => Nat.le_refl _, Nat.le_refl _, Nat.le_refl _, List.suffix_cons .., id⟩
  | drops _ _ hq => exact (Grows.of_quiet hq).trans (.invalidate ..)
  | renews _ _ hq => exact ((Grows.of_quiet hq).trans (.invalidate ..)).trans (.embark ..)
  | evicts => exact (Grows.evict ..).trans (.of_quiet (.tell rfl))
  | notes _ _ hq => exact .of_quiet hq
  | plays _ _ hq => exact .of_quiet hq
  | finishes _ hq => exact .of_quiet hq
  | rebuilds _ _ hq => exact (Grows.of_quiet hq).trans (.rebuild ..)
  | shutsDown =>
    exact ⟨rfl, fun _ => Nat.le_refl _, Nat.le_refl _, Nat.le_refl _, List.suffix_refl _,
      fun _ => rfl⟩
  | closes => exact .of_views (n := 0) (fun _ => Nat.le_refl _) rfl

/-! ### Flights -/

/-- What a turn means for the flights. -/
inductive Flown (o : Orchestra σ) (t : Errand) (turn : Turn σ) : Prop where
  /-- They are as many as before. -/
  | goesOn (hf : turn.errand.flight? = t.flight?) (hn : turn.launched = [])
      (hl : turn.orchestra.landed = o.landed)
      (hx : turn.orchestra.nextFlight = o.nextFlight)
  /-- The flight of the errand has landed. -/
  | lands {f : Flight} {l : Landing} (hf : t.flight? = some f) (he : turn.errand = .done .nothing)
      (hn : turn.launched = []) (hl : turn.orchestra.landed = (f.id, l) :: o.landed)
      (hx : turn.orchestra.nextFlight = o.nextFlight)
  /-- There is a new one, under the generation that its key has. -/
  | launches {f : Flight} (hf : t.flight? = none) (he : turn.errand.flight? = none)
      (hn : turn.launched = [.build f]) (hi : f.id = o.nextFlight)
      (hg : f.generation = turn.orchestra.generation f.key)
      (hl : turn.orchestra.landed = o.landed)
      (hx : turn.orchestra.nextFlight = o.nextFlight + 1)

theorem Flown.of_ledger {o o' : Orchestra σ} {t t' : Errand} {n : Nat}
    (hl : o'.ledger = { o.ledger with nextBuilt := o.nextBuilt + n })
    (hf : t'.flight? = t.flight?) : Flown o t ⟨o', t', []⟩ :=
  .goesOn hf rfl (congrArg Ledger.landed hl) (congrArg Ledger.nextFlight hl)

theorem Flown.of_landed {o o' : Orchestra σ} {t : Errand} {f : Flight} {n : Nat} (l : Landing)
    (hl : o'.ledger = { o.ledger with nextBuilt := o.nextBuilt + n })
    (hf : t.flight? = some f) : Flown o t (o'.land f l) :=
  .lands hf rfl rfl (congrArg ((f.id, l) :: ·) (congrArg Ledger.landed hl))
    (congrArg Ledger.nextFlight hl)

/-- An errand with a run is no flight. -/
theorem flight?_of_run? {o : Orchestra σ} {t : Errand} {r : String × Loaded}
    (h : t.run? o = some r) : t.flight? = none := by
  cases t <;> first | rfl | cases h

/-- An errand that wants a flight is none. -/
theorem Errand.Wants.flight? {t : Errand} {key : String} (h : t.Wants key) : t.flight? = none := by
  cases t <;> first | rfl | cases h

/-- An errand that is over, or waits for a watcher, is no flight. -/
theorem Errand.Rests.flight? {t : Errand} (h : t.Rests) : t.flight? = none := by
  cases t <;> first | rfl | exact h.elim

/-- **A turn lands its own flight only, and launches one only under the current generation.** -/
theorem Course.flown [Hosted σ] {o : Orchestra σ} {t : Errand} {s : Signal} {turn : Turn σ}
    (h : Course o t s turn) : Flown o t turn := by
  cases h with
  | unmoved | compares | serves | setsOut | comparesIn | turnsBack | marks | shutsDown | closes =>
    exact .goesOn rfl rfl rfl rfl
  | returns ht => exact .goesOn ht.symm rfl rfl rfl
  | joins ht => exact .goesOn ht.flight?.symm rfl rfl rfl
  | embarks ht => exact .launches ht.flight? rfl rfl rfl rfl rfl rfl
  | servesIn => exact .of_landed (n := 0) _ (ledger_serve ..) rfl
  | fails ht => exact .of_landed (n := 0) _ (ledger_sourceFailed ..) ht
  | builds => exact .of_landed _ (ledger_buildText ..) rfl
  | crashes ht => exact .lands ht rfl rfl rfl rfl
  | drops _ _ hq =>
    exact .of_ledger (n := 0) ((ledger_invalidate ..).trans hq.ledger) rfl
  | @renews _ _ key o' _ _ hq =>
    have hl := (o'.ledger_invalidate key).trans hq.ledger
    exact .launches rfl rfl rfl (congrArg Ledger.nextFlight hl) rfl (congrArg Ledger.landed hl)
      (congrArg (·.nextFlight + 1) hl)
  | evicts => exact .of_ledger (n := 0) (ledger_evict ..) rfl
  | notes ht ht' hq => exact .of_ledger (n := 0) hq.ledger (ht'.flight?.trans ht.symm)
  | plays ht _ hq => exact .of_ledger (n := 0) hq.ledger (flight?_of_run? ht).symm
  | finishes ht hq => exact .of_ledger (n := 0) hq.ledger (flight?_of_run? ht).symm
  | @rebuilds _ _ _ _ _ o' ht _ hq =>
    have hb : o'.nextBuilt = o.nextBuilt := congrArg Ledger.nextBuilt hq.ledger
    refine .of_ledger (n := 1) ((ledger_rebuild ..).trans ?_) (flight?_of_run? ht).symm
    rw [hq.ledger, hb]

end LivePanel.Orchestra
