import LivePanel.Panel.Subscriptions
import LivePanel.Proofs.Value.Ordered
import LivePanel.Value.Basic
import Mathlib.Data.List.Induction

/-!
# Who is called when the host fires an event

Whoever subscribes to events of the host gets a handle, and ends the subscription by it, or lets the
handle go. A bridge and its clones share their handlers, so what is done through one of them holds
for all, and the uses of all of them make one history. When an event is fired, its handlers are
looked up and then called one by one; a handler that is called may itself use the bridge, which
stands behind the firing in the history and changes nothing about the handlers that are called for
it.

## The model

* `Switchboard`: the handlers, the handles with the number of their teardowns, and the rounds in
  which handlers are called. `Switchboard.Use`, what is done with it; `Switchboard.after`, what has
  come of a history of uses.
* `Lives`: a subscription that was made and not ended, by the history alone; `Roll`, all of an event
  in the order in which they were made.
* `Kept`: the switchboard is what the history says.

## What is proved

* `Kept.use`: each use keeps it so.
* `round_of_fire`: each round calls the handlers that were looked up when it began.
* `fire_calls_living`: after any history the handlers of an event are those that live, and so they
  are the ones that are called for it; each handle ends its own subscription, once.
-/

namespace LivePanel

namespace Subscriptions

variable {H : Type} (s : Subscriptions H)

theorem under_subscribe (event e : String) (handler : H) :
    (s.subscribe event handler).2.under e =
      if event = e then s.under e ++ [(s.next, handler)] else s.under e := by
  unfold subscribe under
  dsimp only
  rw [Table.get?_put]
  split
  · rename_i h
    subst h
    rfl
  · rfl

/-- The end of a subscription takes its handler away and no other. -/
theorem under_cancel (sub : Subscription) (event : String) :
    (s.cancel sub).under event =
      (s.under event).filter fun x => decide (⟨event, x.1⟩ ≠ sub) := by
  obtain ⟨e, id⟩ := sub
  by_cases he : e = event
  · subst he
    have hfilter : ∀ entries : List (Nat × H),
        (entries.filter fun x => decide ((⟨e, x.1⟩ : Subscription) ≠ ⟨e, id⟩)) =
          entries.filter fun x => x.1 != id := by
      intro entries
      refine List.filter_congr fun x _ => ?_
      by_cases hx : x.1 = id <;> simp [hx]
    rw [hfilter]
    unfold cancel under
    cases hget : s.handlers.get? e with
    | none => simp [hget]
    | some entries =>
      dsimp only
      split
      · rename_i hempty
        rw [Table.get?_erase, if_pos rfl]
        exact (List.isEmpty_iff.1 hempty).symm
      · rw [Table.get?_put, if_pos rfl]
        rfl
  · have hfilter : (s.under event).filter
        (fun x => decide ((⟨event, x.1⟩ : Subscription) ≠ ⟨e, id⟩)) = s.under event := by
      rw [List.filter_eq_self]
      simp [Ne.symm he]
    rw [hfilter]
    unfold cancel under
    split
    · rfl
    · dsimp only
      split
      · rw [Table.get?_erase, if_neg he]
      · rw [Table.get?_put, if_neg he]

@[simp] theorem next_cancel (sub : Subscription) : (s.cancel sub).next = s.next := by
  unfold cancel
  split <;> rfl

theorem under_cancelAll (subs : List Subscription) (event : String) :
    (s.cancelAll subs).under event =
      (s.under event).filter fun x => decide (⟨event, x.1⟩ ∉ subs) := by
  induction subs generalizing s with
  | nil => exact (List.filter_eq_self.2 (by simp)).symm
  | cons sub subs ih =>
    have hcons : s.cancelAll (sub :: subs) = (s.cancel sub).cancelAll subs := rfl
    rw [hcons, ih, under_cancel, List.filter_filter]
    refine List.filter_congr fun x _ => ?_
    simp [Bool.and_comm]

@[simp] theorem next_cancelAll (subs : List Subscription) : (s.cancelAll subs).next = s.next := by
  induction subs generalizing s with
  | nil => rfl
  | cons sub subs ih => exact (ih (s.cancel sub)).trans (s.next_cancel sub)

end Subscriptions

/-- Where a subscription ends, an event that is left without handlers is not kept. -/
theorem Subscriptions.peopled_cancel {H : Type} {s : Subscriptions H}
    (h : ∀ e ∈ s.handlers, e.2 ≠ []) (sub : Subscription) :
    ∀ e ∈ (s.cancel sub).handlers, e.2 ≠ [] := by
  intro e he
  unfold cancel at he
  split at he
  · exact h e he
  · dsimp only at he
    split at he
    · exact h e (List.mem_filter.1 he).1
    · rename_i hkept
      rcases Table.mem_put he with rfl | he
      · exact mt List.isEmpty_iff.2 hkept
      · exact h e he

/-! ### Uses of a bridge -/

/-- A handle, and how often its subscription has been torn down. -/
structure Ticket where
  handle : SubscriptionHandle
  teardowns : Nat := 0

namespace Ticket

variable {H : Type}

/-- Let the handle go. -/
def letGo (t : Ticket) (s : Subscriptions H) : Ticket × Subscriptions H :=
  let (handle, s, n) := t.handle.release s
  (⟨handle, t.teardowns + n⟩, s)

/-- End the subscription by hand, after which the handle is let go as well. -/
def unsubscribe (t : Ticket) (s : Subscriptions H) : Ticket × Subscriptions H :=
  let (t, s) := t.letGo s
  t.letGo s

theorem letGo_spent (n : Nat) (s : Subscriptions H) :
    letGo ⟨⟨none⟩, n⟩ s = (⟨⟨none⟩, n⟩, s) := rfl

/-- A handle that was used by hand has nothing left to end when it is let go. -/
theorem unsubscribe_eq_letGo (t : Ticket) (s : Subscriptions H) : t.unsubscribe s = t.letGo s := by
  obtain ⟨⟨live⟩, n⟩ := t
  cases live <;> rfl

end Ticket

/-- The calls for one firing of an event: the handlers that were looked up, those that have been
called by now and those that have not. -/
structure Round (H : Type) where
  event : String
  payload : Value
  handlers : List H
  called : List H := []
  due : List H := handlers

namespace Round

variable {H : Type}

/-- Call the next handler. -/
def next (r : Round H) : Round H :=
  match r.due with
  | [] => r
  | h :: rest => { r with called := r.called ++ [h], due := rest }

/-- How many handlers were called, as whoever fired is told in the end. -/
def answer? (r : Round H) : Option Nat :=
  if r.due.isEmpty then some r.handlers.length else none

/-- The round is one of these handlers: some were called, in their order, and the others are due. -/
structure Calls (r : Round H) (event : String) (payload : Value) (handlers : List H) : Prop where
  event_eq : r.event = event
  payload_eq : r.payload = payload
  handlers_eq : r.handlers = handlers
  called_append_due : r.called ++ r.due = handlers

theorem Calls.next {r : Round H} {event : String} {payload : Value} {handlers : List H}
    (h : r.Calls event payload handlers) : r.next.Calls event payload handlers := by
  unfold Round.next
  split
  · exact h
  · rename_i hdue
    refine ⟨h.event_eq, h.payload_eq, h.handlers_eq, ?_⟩
    rw [← h.called_append_due, hdue, List.append_assoc, List.singleton_append]

end Round

/-- What a bridge and its clones share. Handles and rounds are in the order in which they came. -/
structure Switchboard (H : Type) where
  table : Subscriptions H := {}
  tickets : List Ticket := []
  rounds : List (Round H) := []

namespace Switchboard

variable {H : Type}

/-- What is done with a bridge or with what it gave. -/
inductive Use (H : Type) where
  | subscribe (event : String) (handler : H)
  /-- The `n`-th subscription is ended by hand. -/
  | unsubscribe (n : Nat)
  /-- The handle on the `n`-th subscription is let go. -/
  | drop (n : Nat)
  | fire (event : String) (payload : Value)
  /-- The next handler of the `n`-th round is called. -/
  | call (n : Nat)

/-- The use ends the `n`-th subscription. -/
def Use.Ends (u : Use H) (n : Nat) : Prop := u = unsubscribe n ∨ u = drop n

/-- End the `n`-th subscription in a way. -/
def conclude (b : Switchboard H) (n : Nat)
    (way : Ticket → Subscriptions H → Ticket × Subscriptions H) : Switchboard H :=
  match b.tickets[n]? with
  | none => b
  | some t => { b with table := (way t b.table).2, tickets := b.tickets.set n (way t b.table).1 }

/-- What comes of a use. -/
def use (b : Switchboard H) : Use H → Switchboard H
  | .subscribe event handler =>
    let (sub, table) := b.table.subscribe event handler
    { b with table := table, tickets := b.tickets ++ [⟨⟨some sub⟩, 0⟩] }
  | .unsubscribe n => b.conclude n Ticket.unsubscribe
  | .drop n => b.conclude n Ticket.letGo
  | .fire event payload =>
    { b with rounds := b.rounds ++ [{ event, payload, handlers := b.table.called event }] }
  | .call n => { b with rounds := b.rounds.modify n Round.next }

/-- What has come of a history of uses. -/
def after (uses : List (Use H)) : Switchboard H := uses.foldl use {}

theorem after_append (uses : List (Use H)) (u : Use H) :
    after (uses ++ [u]) = (after uses).use u := by
  simp [after]

/-- The event and the handler of a subscription that is made. -/
def Use.made? : Use H → Option (String × H)
  | subscribe event handler => some (event, handler)
  | _ => none

/-- The subscriptions that were made, each at the place of its number. -/
def made (uses : List (Use H)) : List (String × H) := uses.filterMap Use.made?

/-- The subscription of number `n` was made, of a handler to an event, and has not been ended. -/
def Lives (uses : List (Use H)) (n : Nat) (event : String) (handler : H) : Prop :=
  ∃ front rest, uses = front ++ .subscribe event handler :: rest ∧ (made front).length = n ∧
    ∀ u ∈ rest, ¬ u.Ends n

/-- The subscriptions to an event that live, with their numbers, in the order in which they were
made. -/
def Roll (uses : List (Use H)) (event : String) (living : List (Nat × H)) : Prop :=
  (living.Pairwise fun x y => x.1 < y.1) ∧ ∀ x, x ∈ living ↔ Lives uses x.1 event x.2

section

variable {uses : List (Use H)} {n : Nat} {event : String} {handler : H}

theorem not_lives_nil : ¬ Lives [] n event handler := by
  rintro ⟨front, rest, h, -⟩
  simp at h

/-- **One more use**: it makes a subscription, or it ends one, or all live on. -/
theorem lives_append (u : Use H) : Lives (uses ++ [u]) n event handler ↔
    (u = .subscribe event handler ∧ n = (made uses).length) ∨
      Lives uses n event handler ∧ ¬ u.Ends n := by
  constructor
  · rintro ⟨front, rest, heq, hn, hrest⟩
    rcases List.eq_nil_or_concat rest with rfl | ⟨rest, last, rfl⟩
    · obtain ⟨rfl, hlast⟩ := List.append_inj' heq rfl
      cases hlast
      exact .inl ⟨rfl, hn.symm⟩
    · rw [List.concat_eq_append, ← List.cons_append, ← List.append_assoc] at heq
      obtain ⟨rfl, hlast⟩ := List.append_inj' heq rfl
      cases hlast
      exact .inr ⟨⟨front, rest, rfl, hn, fun u' hu => hrest u' (by simp [hu])⟩, hrest u (by simp)⟩
  · rintro (⟨rfl, rfl⟩ | ⟨⟨front, rest, rfl, hn, hrest⟩, hu⟩)
    · exact ⟨uses, [], rfl, rfl, nofun⟩
    · refine ⟨front, rest ++ [u], by simp, hn, fun u' hu' => ?_⟩
      rcases List.mem_append.1 hu' with hu' | hu'
      · exact hrest u' hu'
      · exact List.mem_singleton.1 hu' ▸ hu

theorem Lives.getElem?_made (h : Lives uses n event handler) :
    (made uses)[n]? = some (event, handler) := by
  obtain ⟨front, rest, rfl, rfl, -⟩ := h
  simp [made, Use.made?]

theorem Lives.lt (h : Lives uses n event handler) : n < (made uses).length :=
  (List.getElem?_eq_some_iff.1 h.getElem?_made).1

theorem Lives.event_eq {event' : String} {handler' : H} (h : Lives uses n event handler)
    (h' : Lives uses n event' handler') : event = event' :=
  (Prod.mk.inj (Option.some.inj (h.getElem?_made.symm.trans h'.getElem?_made))).1

theorem Use.Ends.made? {u : Use H} (hu : u.Ends n) : u.made? = none := by
  rcases hu with rfl | rfl <;> rfl

/-- With the end of a subscription all others live on that lived. -/
theorem Use.Ends.lives_append {u : Use H} {m : Nat} (hu : u.Ends n) :
    Lives (uses ++ [u]) m event handler ↔ Lives uses m event handler ∧ m ≠ n := by
  have hends : u.Ends m ↔ m = n := by
    rcases hu with rfl | rfl <;> simp [Use.Ends, eq_comm]
  rw [Switchboard.lives_append, hends]
  refine ⟨?_, .inr⟩
  rintro (⟨rfl, -⟩ | hm)
  · cases hu.made?
  · exact hm

end

/-! ### The switchboard and its history -/

/-- The ticket is that of the `n`-th subscription: it can still end it, or it has done so, once. -/
def Stamped (uses : List (Use H)) (n : Nat) (t : Ticket) : Prop :=
  (∃ event handler, Lives uses n event handler ∧ t = ⟨⟨some ⟨event, n⟩⟩, 0⟩) ∨
    (∀ event handler, ¬ Lives uses n event handler) ∧ t = ⟨⟨none⟩, 1⟩

/-- The switchboard is what the history says: subscriptions are numbered as they are made, each
event has the handlers of those that live, and no event is kept that has none. -/
structure Kept (uses : List (Use H)) (b : Switchboard H) : Prop where
  next : b.table.next = (made uses).length
  tickets : b.tickets.length = (made uses).length
  roll : ∀ event, Roll uses event (b.table.under event)
  stamped : ∀ n t, b.tickets[n]? = some t → Stamped uses n t
  peopled : ∀ e ∈ b.table.handlers, e.2 ≠ []

namespace Kept

variable {uses : List (Use H)} {b : Switchboard H}

theorem nil : Kept [] ({} : Switchboard H) where
  next := rfl
  tickets := rfl
  roll _ := ⟨.nil, fun _ => ⟨nofun, fun h => absurd h not_lives_nil⟩⟩
  stamped _ _ h := by simp at h
  peopled _ h := absurd h List.not_mem_nil

/-- A use that makes no subscription, and with which all live on that lived. -/
theorem same (h : Kept uses b) {u : Use H} (hmade : u.made? = none)
    (hlives : ∀ n event handler, Lives (uses ++ [u]) n event handler ↔
      Lives uses n event handler) (rounds : List (Round H)) :
    Kept (uses ++ [u]) { b with rounds := rounds } := by
  have hmade' : made (uses ++ [u]) = made uses := by simp [made, hmade]
  refine ⟨hmade'.symm ▸ h.next, hmade'.symm ▸ h.tickets, fun event => ?_, fun n t ht => ?_,
    h.peopled⟩
  · simpa only [Roll, hlives] using h.roll event
  · simpa only [Stamped, hlives] using h.stamped n t ht

/-- A use that makes no subscription and ends none. -/
theorem idle (h : Kept uses b) {u : Use H} (hmade : u.made? = none) (hends : ∀ n, ¬ u.Ends n)
    (rounds : List (Round H)) : Kept (uses ++ [u]) { b with rounds := rounds } := by
  refine h.same hmade (fun n event handler => ?_) rounds
  rw [lives_append]
  refine ⟨?_, fun hn => .inr ⟨hn, hends n⟩⟩
  rintro (⟨rfl, -⟩ | ⟨hn, -⟩)
  · cases hmade
  · exact hn

theorem subscribe (h : Kept uses b) (event : String) (handler : H) :
    Kept (uses ++ [.subscribe event handler]) (b.use (.subscribe event handler)) := by
  have hmade : made (uses ++ [.subscribe event handler]) = made uses ++ [(event, handler)] := by
    simp [made, Use.made?]
  have hlives : ∀ n event' handler', Lives (uses ++ [.subscribe event handler]) n event' handler' ↔
      (event = event' ∧ handler = handler' ∧ n = (made uses).length) ∨
        Lives uses n event' handler' := by
    intro n event' handler'
    rw [lives_append, Use.subscribe.injEq, and_assoc]
    simp [Use.Ends]
  refine ⟨?_, ?_, fun event' => ⟨?_, fun x => ?_⟩, fun n t ht => ?_, fun e he => ?_⟩
  · rw [hmade, List.length_append]
    exact congrArg (· + 1) h.next
  · rw [hmade, List.length_append, ← h.tickets]
    exact List.length_append
  · rw [use, Subscriptions.under_subscribe]
    split
    · refine List.pairwise_append.2 ⟨(h.roll event').1, List.pairwise_singleton .., ?_⟩
      intro x hx y hy
      rw [List.mem_singleton.1 hy, h.next]
      exact (((h.roll event').2 x).1 hx).lt
    · exact (h.roll event').1
  · obtain ⟨n, handler'⟩ := x
    rw [use, Subscriptions.under_subscribe, hlives, ← (h.roll event').2]
    split
    · rename_i heq
      subst heq
      simp [h.next, or_comm, and_comm, eq_comm]
    · rename_i hne
      simp [hne]
  · rw [use, List.getElem?_append] at ht
    split at ht
    · rename_i hn
      rcases h.stamped n t ht with ⟨event', handler', hn', rfl⟩ | ⟨hn', rfl⟩
      · exact .inl ⟨event', handler', (hlives ..).2 (.inr hn'), rfl⟩
      · refine .inr ⟨fun event' handler' hl => ?_, rfl⟩
        rcases (hlives ..).1 hl with ⟨-, -, rfl⟩ | hl
        · exact absurd hn (by rw [h.tickets]; exact Nat.lt_irrefl _)
        · exact hn' event' handler' hl
    · obtain ⟨hn, rfl⟩ : n = b.tickets.length ∧ t = ⟨⟨some ⟨event, b.table.next⟩⟩, 0⟩ := by
        have hlt := (List.getElem?_eq_some_iff.1 ht).1
        have hn : n = b.tickets.length := by
          simp only [List.length_singleton] at hlt
          omega
        subst hn
        rw [Nat.sub_self] at ht
        exact ⟨rfl, (Option.some.inj ht).symm⟩
      rw [h.tickets] at hn
      exact .inl ⟨event, handler, (hlives ..).2 (.inl ⟨rfl, rfl, hn⟩), by rw [hn, h.next]⟩
  · rcases Table.mem_put he with rfl | he
    · simp
    · exact h.peopled e he

/-- Of a subscription that lives, the handler is taken away and no other, and its ticket is used
up. -/
theorem cancel (h : Kept uses b) {u : Use H} {n : Nat} (hu : u.Ends n) {event : String}
    {handler : H} (hn : Lives uses n event handler) :
    Kept (uses ++ [u])
      { b with table := b.table.cancel ⟨event, n⟩, tickets := b.tickets.set n ⟨⟨none⟩, 1⟩ } := by
  have hmade : made (uses ++ [u]) = made uses := by simp [made, hu.made?]
  refine ⟨?_, ?_, fun event' => ⟨?_, fun x => ?_⟩, fun m t hm => ?_,
    Subscriptions.peopled_cancel h.peopled _⟩
  · rw [hmade, ← h.next]
    exact Subscriptions.next_cancel ..
  · rw [List.length_set, hmade, h.tickets]
  · rw [Subscriptions.under_cancel]
    exact (h.roll event').1.filter _
  · rw [Subscriptions.under_cancel, List.mem_filter, (h.roll event').2, hu.lives_append,
      decide_eq_true_eq]
    refine and_congr_right fun hx => not_congr ?_
    rw [Subscription.mk.injEq]
    refine ⟨(·.2), fun heq => ⟨?_, heq⟩⟩
    rw [heq] at hx
    exact hx.event_eq hn
  · by_cases hmn : n = m
    · subst hmn
      have hlt : n < b.tickets.length := h.tickets ▸ hn.lt
      rw [List.getElem?_set_self hlt] at hm
      cases hm
      exact .inr ⟨fun event handler hl => (hu.lives_append.1 hl).2 rfl, rfl⟩
    · rw [List.getElem?_set_ne hmn] at hm
      have hboth : ∀ event handler, Lives (uses ++ [u]) m event handler ↔
          Lives uses m event handler := by
        intro event handler
        rw [hu.lives_append]
        exact and_iff_left (Ne.symm hmn)
      simpa only [Stamped, hboth] using h.stamped m t hm

/-- **The end of a subscription**, if it lives; otherwise nothing changes. -/
theorem conclude (h : Kept uses b) {u : Use H} {n : Nat} (hu : u.Ends n) :
    Kept (uses ++ [u]) (b.conclude n Ticket.letGo) := by
  have hspent : (∀ event handler, ¬ Lives uses n event handler) → Kept (uses ++ [u]) b := by
    intro hnot
    refine h.same hu.made? (fun m event handler => ?_) b.rounds
    rw [hu.lives_append]
    exact ⟨(·.1), fun hm => ⟨hm, fun heq => hnot event handler (heq ▸ hm)⟩⟩
  unfold Switchboard.conclude
  cases ht : b.tickets[n]? with
  | none =>
    have hn : (made uses).length ≤ n := h.tickets ▸ List.getElem?_eq_none_iff.1 ht
    exact hspent fun event handler hl => absurd hl.lt (Nat.not_lt.2 hn)
  | some t =>
    rcases h.stamped n t ht with ⟨event, handler, hn, rfl⟩ | ⟨hn, rfl⟩
    · exact h.cancel hu hn
    · have hset : b.tickets.set n ⟨⟨none⟩, 1⟩ = b.tickets := by
        obtain ⟨hlt, hself⟩ := List.getElem?_eq_some_iff.1 ht
        rw [← hself, List.set_getElem_self hlt]
      have hsame := hspent hn
      simp only [Ticket.letGo_spent, hset]
      exact hsame

/-- **Each use keeps the switchboard what the history says.** -/
theorem use (h : Kept uses b) (u : Use H) : Kept (uses ++ [u]) (b.use u) := by
  cases u with
  | subscribe event handler => exact h.subscribe event handler
  | unsubscribe n =>
    have hway : (Ticket.unsubscribe : Ticket → Subscriptions H → _) = Ticket.letGo := by
      funext t s
      exact t.unsubscribe_eq_letGo s
    rw [Switchboard.use, hway]
    exact h.conclude (.inl rfl)
  | drop n => exact h.conclude (.inr rfl)
  | fire event payload => exact h.idle rfl (by simp [Use.Ends]) _
  | call n => exact h.idle rfl (by simp [Use.Ends]) _

end Kept

/-- After any history the switchboard is what it says. -/
theorem kept_after (uses : List (Use H)) : Kept uses (after uses) := by
  induction uses using List.reverseRecOn with
  | nil => exact .nil
  | append_singleton uses u ih =>
    rw [after_append]
    exact ih.use u

/-! ### Rounds -/

theorem rounds_conclude (b : Switchboard H) (n : Nat)
    (way : Ticket → Subscriptions H → Ticket × Subscriptions H) :
    (b.conclude n way).rounds = b.rounds := by
  unfold conclude
  split <;> rfl

/-- How many rounds a use begins. -/
def Use.fires : Use H → Bool
  | fire .. => true
  | _ => false

theorem length_rounds_use (b : Switchboard H) (u : Use H) :
    (b.use u).rounds.length = b.rounds.length + if u.fires then 1 else 0 := by
  cases u with
  | subscribe => rfl
  | unsubscribe n | drop n => exact congrArg List.length (b.rounds_conclude n _)
  | fire => exact List.length_append
  | call n => exact List.length_modify ..

/-- Rounds are numbered as they begin. -/
theorem length_rounds_after (uses : List (Use H)) :
    (after uses).rounds.length = uses.countP Use.fires := by
  induction uses using List.reverseRecOn with
  | nil => rfl
  | append_singleton uses u ih =>
    rw [after_append, length_rounds_use, ih, List.countP_append, List.countP_singleton]

/-- A use goes on with a round or leaves it as it is. -/
theorem rounds_use {b : Switchboard H} {n : Nat} {r : Round H} {event : String}
    {payload : Value} {handlers : List H} (hr : b.rounds[n]? = some r)
    (h : r.Calls event payload handlers) (u : Use H) :
    ∃ r', (b.use u).rounds[n]? = some r' ∧ r'.Calls event payload handlers := by
  cases u with
  | subscribe => exact ⟨r, hr, h⟩
  | unsubscribe m | drop m => exact ⟨r, (congrArg (·[n]?) (b.rounds_conclude m _)).trans hr, h⟩
  | fire event' payload' =>
    refine ⟨r, ?_, h⟩
    rw [Switchboard.use, List.getElem?_append_left (List.getElem?_eq_some_iff.1 hr).1, hr]
  | call m =>
    rw [Switchboard.use, List.getElem?_modify, hr]
    by_cases hm : m = n
    · exact ⟨r.next, by simp [hm], h.next⟩
    · exact ⟨r, by simp [hm], h⟩

/-- **Each round calls the handlers that were looked up when it began**, whatever is done
meanwhile. -/
theorem round_of_fire (front : List (Use H)) (event : String) (payload : Value)
    (rest : List (Use H)) :
    ∃ r, (after (front ++ .fire event payload :: rest)).rounds[front.countP Use.fires]? = some r ∧
      r.Calls event payload ((after front).table.called event) := by
  induction rest using List.reverseRecOn with
  | nil =>
    refine ⟨{ event, payload, handlers := (after front).table.called event }, ?_,
      ⟨rfl, rfl, rfl, rfl⟩⟩
    rw [after_append, use, ← length_rounds_after, List.getElem?_concat_length]
  | append_singleton rest u ih =>
    obtain ⟨r, hr, hcalls⟩ := ih
    rw [← List.cons_append, ← List.append_assoc, after_append]
    exact rounds_use hr hcalls u

/-! ### Any history -/

/-- There is one list of the subscriptions to an event that live. -/
theorem Roll.unique {uses : List (Use H)} {event : String} {living living' : List (Nat × H)}
    (h : Roll uses event living) (h' : Roll uses event living') : living = living' := by
  have hnodup : ∀ {l : List (Nat × H)}, (l.Pairwise fun x y => x.1 < y.1) → l.Nodup := by
    refine fun hl => hl.imp ?_
    rintro x y hlt rfl
    exact Nat.lt_irrefl _ hlt
  refine List.Perm.eq_of_pairwise ?_ h.1 h'.1 ?_
  · exact fun x y _ _ hxy hyx => absurd hxy (Nat.lt_asymm hyx)
  · refine (List.perm_ext_iff_of_nodup (hnodup h.1) (hnodup h'.1)).2 fun x => ?_
    rw [h.2, h'.2]

/-- The end of a subscription takes it from the list, and no other. -/
theorem Use.Ends.roll {uses : List (Use H)} {u : Use H} {n : Nat} (hu : u.Ends n) {event : String}
    {living : List (Nat × H)} (h : Roll uses event living) :
    Roll (uses ++ [u]) event (living.filter fun x => x.1 ≠ n) := by
  refine ⟨h.1.filter _, fun x => ?_⟩
  rw [List.mem_filter, h.2, hu.lives_append, decide_eq_true_eq]

/-- The number of an event's handlers is that of its subscriptions that live. -/
theorem Roll.called (uses : List (Use H)) (event : String) :
    ∃ living, Roll uses event living ∧ (after uses).table.called event = living.map (·.2) ∧
      (after uses).table.count event = living.length :=
  ⟨_, (kept_after uses).roll event, rfl, rfl⟩

/-- **An event calls the handlers of the subscriptions to it that live**, those that were made and
not ended, each once and in the order in which they were made; so it is for each firing in a
history, whatever handlers do while others wait to be called, and whoever fired is told how many
there were, which is the number of subscriptions then. To end a subscription, by hand or by
letting its handle go, takes its handler away and no other. It is torn down once, if it is ended,
and never before. No event is kept that has no handlers. -/
theorem fire_calls_living (uses : List (Use H)) :
    let b := after uses
    (∀ event, ∃ living, Roll uses event living ∧ b.table.called event = living.map (·.2) ∧
      b.table.count event = living.length) ∧
    (∀ front event payload rest, uses = front ++ .fire event payload :: rest →
      ∃ living r, Roll front event living ∧ b.rounds[front.countP Use.fires]? = some r ∧
        r.event = event ∧ r.payload = payload ∧ r.called ++ r.due = living.map (·.2) ∧
        (r.due = [] → r.answer? = some ((after front).table.count event)) ∧
        (after front).table.count event = living.length) ∧
    (∀ u n event, u.Ends n → (after (uses ++ [u])).table.under event =
      (b.table.under event).filter fun x => x.1 ≠ n) ∧
    (b.tickets.length = (made uses).length ∧ ∀ n t, b.tickets[n]? = some t →
      (t.teardowns = 0 ∧ ∃ event handler, Lives uses n event handler) ∨
        t.teardowns = 1 ∧ ∀ event handler, ¬ Lives uses n event handler) ∧
    ∀ e ∈ b.table.handlers, e.2 ≠ [] := by
  intro b
  have h := kept_after uses
  refine ⟨Roll.called uses, ?_, fun u n event hu => ?_, ⟨h.tickets, fun n t ht => ?_⟩,
    h.peopled⟩
  · rintro front event payload rest rfl
    obtain ⟨living, hroll, hcalled, hcount⟩ := Roll.called front event
    obtain ⟨r, hr, hevent, hpayload, hhandlers, hdue⟩ := round_of_fire front event payload rest
    refine ⟨living, r, hroll, hr, hevent, hpayload, hdue.trans hcalled, fun hnil => ?_, hcount⟩
    rw [Round.answer?, hnil, hhandlers, hcalled, hcount]
    simp
  · exact ((kept_after (uses ++ [u])).roll event).unique (hu.roll (h.roll event))
  · rcases h.stamped n t ht with ⟨event, handler, hn, rfl⟩ | ⟨hn, rfl⟩
    · exact .inl ⟨rfl, event, handler, hn⟩
    · exact .inr ⟨rfl, hn⟩

/-- One handler, subscribed to an event twice, is called once when one of the handles is let go. -/
theorem fire_calls_living_twice :
    let front : List (Use Nat) := [.subscribe "saved" 7, .subscribe "saved" 7, .drop 0]
    let uses := front ++ .fire "saved" .null :: [.call 0]
    (∃ living r, Roll front "saved" living ∧ (after uses).rounds[front.countP Use.fires]? = some r ∧
      r.called = [7] ∧ living.map (·.2) = [7] ∧ r.answer? = some living.length) ∧
    (after (uses ++ [.drop 1])).table.under "saved" =
      ((after uses).table.under "saved").filter (fun x => x.1 ≠ 1) ∧
    (∀ event handler, ¬ Lives uses 0 event handler) ∧
    ∃ e ∈ (after uses).table.handlers, e.1 = "saved" ∧ e.2 ≠ [] := by
  intro front uses
  obtain ⟨-, hfire, hend, ⟨-, htorn⟩, hpeopled⟩ := fire_calls_living uses
  obtain ⟨living, r, hroll, hr, -, -, hhandlers, hanswer, hcount⟩ := hfire front "saved" .null _ rfl
  have hround : (after uses).rounds[front.countP Use.fires]? =
    some { event := "saved", payload := .null, handlers := [7], called := [7], due := [] } := rfl
  obtain rfl := Option.some.inj (hr.symm.trans hround)
  refine ⟨⟨living, _, hroll, hr, rfl, hhandlers.symm, hcount ▸ hanswer rfl⟩,
    hend (.drop 1) 1 "saved" (.inr rfl), ?_, ("saved", [(1, 7)]), ?_, rfl, ?_⟩
  · rcases htorn 0 ⟨⟨none⟩, 1⟩ rfl with ⟨hnever, -⟩ | ⟨-, hlives⟩
    · cases hnever
    · exact hlives
  · exact List.mem_singleton.2 rfl
  · exact hpeopled _ (List.mem_singleton.2 rfl)

end Switchboard

end LivePanel
