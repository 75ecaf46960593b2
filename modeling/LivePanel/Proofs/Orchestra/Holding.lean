import LivePanel.Orchestra.Errand

/-!
# What an orchestra holds under a key

Most of what an orchestra does concerns one key: the artifact in its cache, the template that
is kept, its bindings, the flight under way and the generation. `Orchestra.holding` brings
these together, and `Orchestra.ledger` what is counted for all keys at once. Each operation
has one equation for either of them, and nothing later opens an operation to see what it
leaves alone.

## What is proved

* `holding_*` and `ledger_*`: the two views after each operation that is done in one go. The
  views after a build are in `Proofs.Orchestra.Building`.
-/

namespace LivePanel.Orchestra

variable {σ : Type}

/-- What is held under a key. -/
@[ext]
structure Holding where
  entry : Option CacheEntry
  record : Option Loaded
  bindings : Option (List Subscription)
  flight : Option Nat
  generation : Nat

/-- What is held under a key. -/
def holding (o : Orchestra σ) (key : String) : Holding :=
  ⟨o.cache.get? key, o.loaded.get? key, o.bindings.get? key, o.flights.get? key,
    o.generation key⟩

section

variable (o : Orchestra σ) (key : String)

theorem entry_holding : (o.holding key).entry = o.cache.get? key := rfl

theorem record_holding : (o.holding key).record = o.loaded.get? key := rfl

theorem flight_holding : (o.holding key).flight = o.flights.get? key := rfl

end

/-- What is the same for all keys: how texts are built, the flights that came home, the numbers of
the next flight and of the next artifact, and whether all is over. -/
@[ext]
structure Ledger (σ : Type) where
  setup : Setup σ
  landed : List (Nat × Landing)
  nextFlight : Nat
  nextBuilt : Nat
  shutDown : Bool

/-- What is the same for all keys. -/
def ledger (o : Orchestra σ) : Ledger σ :=
  ⟨o.setup, o.landed, o.nextFlight, o.nextBuilt, o.shutDown⟩

/-! ### What is told and logged is not held -/

section

variable (o : Orchestra σ) (key : String)

@[simp] theorem holding_record (kind : ActivityKind) (k : Option String) (detail : String) :
    (o.record kind k detail).holding = o.holding := rfl

@[simp] theorem ledger_record (kind : ActivityKind) (k : Option String) (detail : String) :
    (o.record kind k detail).ledger = o.ledger := rfl

@[simp] theorem holding_emit (e : Event) : (o.emit e).holding = o.holding := rfl

@[simp] theorem ledger_emit (e : Event) : (o.emit e).ledger = o.ledger := rfl

@[simp] theorem holding_tell (what : Happening) : (o.tell what).holding = o.holding := rfl

@[simp] theorem ledger_tell (what : Happening) : (o.tell what).ledger = o.ledger := rfl

@[simp] theorem holding_announce (a : Build.Artifact) : (o.announce key a).holding = o.holding := by
  unfold announce
  split <;> rfl

@[simp] theorem ledger_announce (a : Build.Artifact) : (o.announce key a).ledger = o.ledger := by
  unfold announce
  split <;> rfl

@[simp] theorem holding_serve : (o.serve key).holding = o.holding := rfl

@[simp] theorem ledger_serve : (o.serve key).ledger = o.ledger := rfl

@[simp] theorem holding_sourceFailed (cause : SourceError) :
    (o.sourceFailed key cause).2.holding = o.holding := by
  unfold sourceFailed
  split <;> rfl

@[simp] theorem ledger_sourceFailed (cause : SourceError) :
    (o.sourceFailed key cause).2.ledger = o.ledger := by
  unfold sourceFailed
  split <;> rfl

@[simp] theorem holding_number (a : Build.Artifact) (world : σ) :
    (o.number a world).2.holding = o.holding := rfl

@[simp] theorem ledger_number (a : Build.Artifact) (world : σ) :
    (o.number a world).2.ledger = { o.ledger with nextBuilt := o.nextBuilt + 1 } := rfl

end

/-! ### What changes a holding -/

section

variable (o : Orchestra σ) (key k : String)

theorem holding_supersede :
    (o.supersede key).holding k =
      if key = k then { o.holding k with flight := none, generation := o.generation k + 1 }
      else o.holding k := by
  unfold supersede holding generation
  by_cases h : key = k
  · subst h
    simp [Table.get?_erase]
  · simp [Table.get?_erase, Table.get?_put, h]

@[simp] theorem ledger_supersede : (o.supersede key).ledger = o.ledger := rfl

theorem holding_keep (fingerprint : Fingerprint) (origin : Origin) (b : Built) :
    (o.keep key fingerprint origin b).holding k =
      if key = k then { o.holding k with entry := some ⟨fingerprint, b, origin⟩ }
      else o.holding k := by
  unfold keep holding generation
  by_cases h : key = k <;> simp [Table.get?_put, h]

@[simp] theorem ledger_keep (fingerprint : Fingerprint) (origin : Origin) (b : Built) :
    (o.keep key fingerprint origin b).ledger = o.ledger := rfl

@[simp] theorem holding_bind (events : List EventBinding) :
    (o.bind key events).2.holding = o.holding := by
  induction events generalizing o with
  | nil => rfl
  | cons e rest ih =>
    rw [bind]
    exact ih _

@[simp] theorem ledger_bind (events : List EventBinding) :
    (o.bind key events).2.ledger = o.ledger := by
  induction events generalizing o with
  | nil => rfl
  | cons e rest ih =>
    rw [bind]
    exact ih _

theorem holding_rebind (subs : List Subscription) :
    (o.rebind key subs).holding k =
      if key = k then { o.holding k with bindings := some subs } else o.holding k := by
  unfold rebind holding generation
  by_cases h : key = k <;> simp [Table.get?_put, h]

@[simp] theorem ledger_rebind (subs : List Subscription) :
    (o.rebind key subs).ledger = o.ledger := rfl

/-- The subscriptions that a template comes to have. -/
def bound (o : Orchestra σ) (key : String) (t : Template) (bound : Bool) : List Subscription :=
  (o.bind key (if bound then t.events else [])).1

theorem holding_register (l : Loaded) (bound : Bool) :
    (o.register key l bound).holding k =
      if key = k then
        { o.holding k with record := some l, bindings := some (o.bound key l.template bound) }
      else o.holding k := by
  have hb := congrFun (o.holding_bind key (if bound then l.template.events else [])) k
  unfold register
  rw [holding_rebind]
  unfold holding generation at hb ⊢
  by_cases h : key = k <;> simp_all [Table.get?_put, Orchestra.bound]

@[simp] theorem ledger_register (l : Loaded) (bound : Bool) :
    (o.register key l bound).ledger = o.ledger := by
  unfold register
  rw [ledger_rebind]
  exact o.ledger_bind key _

theorem holding_unregister :
    (o.unregister key).holding k =
      if key = k then { o.holding k with record := none, bindings := none } else o.holding k := by
  unfold unregister holding generation
  by_cases h : key = k <;> simp [Table.get?_erase, h]

@[simp] theorem ledger_unregister : (o.unregister key).ledger = o.ledger := rfl

theorem holding_invalidate :
    (o.invalidate key).2.holding k =
      if key = k then
        { o.holding k with entry := none, flight := none, generation := o.generation k + 1 }
      else o.holding k := by
  have hs := o.holding_supersede key k
  unfold invalidate
  by_cases h : key = k
  · subst h
    simp only [if_true] at hs ⊢
    unfold holding generation at hs ⊢
    split
    · simp_all [record, Table.get?_erase]
    · simp_all [Table.has]
  · simp only [h, if_false] at hs ⊢
    unfold holding generation at hs ⊢
    split <;> simp_all [record, Table.get?_erase]

@[simp] theorem ledger_invalidate : (o.invalidate key).2.ledger = o.ledger := by
  unfold invalidate
  dsimp only
  split <;> rfl

@[simp] theorem ledger_clearCache : o.clearCache.2.ledger = o.ledger := rfl

theorem holding_evict :
    (o.evict key).holding k =
      if key = k then ⟨none, none, none, none, o.generation k + 1⟩ else o.holding k := by
  have hs := o.holding_supersede key k
  have hu := holding_unregister
    { o.supersede key with cache := Table.erase (o.supersede key).cache key } key k
  have he : (o.evict key).holding k =
      (unregister { o.supersede key with cache := Table.erase (o.supersede key).cache key }
        key).holding k := by
    unfold evict
    dsimp only
    split <;> rfl
  rw [he, hu]
  by_cases h : key = k <;> simp_all [holding, generation, Table.get?_erase]

@[simp] theorem ledger_evict : (o.evict key).ledger = o.ledger := by
  unfold evict
  dsimp only
  split <;> rfl

end

end LivePanel.Orchestra
