import LivePanel.Proofs.Build.Picture

/-!
# The diagnostics of a panel

Suppose that every block, where it draws at all, draws a node that is no diagnostic around the
children that it is given. Then the diagnostics of a panel are what was reported, and no more:
`diagnostics_eq_shown` says that they stand, in order, for the errors about components, except those
under a component whose own block failed, because a block that fails takes the nodes below it along.
A panel that is itself a diagnostic has all errors as its messages.

Errors are appended before, between and after those of the components below. What keeps the two
lists together is that an error under a component is told from its place (`Location.isUnder`), and
that siblings have places of which none is under another.
-/

namespace LivePanel

variable {σ : Type}

/-! ### Blocks that keep their children -/

/-- Nodes that are given, in order, among nodes that are not diagnostics. -/
inductive Node.Around : List Node → List Node → Prop where
  | nil : Around [] []
  | kept {n : Node} {given drawn : List Node} (h : Around given drawn) :
      Around (n :: given) (n :: drawn)
  | own {n : Node} {within given drawn : List Node} (hn : n.isDiagnostic = false)
      (hw : Around within n.children) (h : Around given drawn) :
      Around (within ++ given) (n :: drawn)

theorem Node.around_refl (ns : List Node) : Around ns ns := by
  induction ns with
  | nil => exact .nil
  | cons n rest ih => exact .kept ih

/-- What the block draws is no diagnostic, and has the children given. -/
def Block.KeepsChildren (b : Block σ) : Prop :=
  ∀ props children s n s', b.render props children s = (.ok n, s') →
    n.isDiagnostic = false ∧ Node.Around children n.children

/-- All blocks keep their children. -/
def Registry.KeepsChildren (r : Registry σ) : Prop :=
  ∀ (id : String) (b : Block σ), r.resolve? id = some b → b.KeepsChildren

theorem Block.Elemental.keepsChildren {b : Block σ} (h : b.Elemental) : b.KeepsChildren := by
  intro props children s n s' hd
  rw [h props children s n s' hd]
  exact ⟨rfl, Node.around_refl children⟩

theorem Registry.Elemental.keepsChildren {r : Registry σ} (h : r.Elemental) : r.KeepsChildren :=
  fun _ _ hres => (h.draws hres).keepsChildren

theorem Registry.KeepsChildren.put {r : Registry σ} (hr : r.KeepsChildren) {b : Block σ}
    (hb : b.KeepsChildren) (id : String) : Registry.KeepsChildren (Table.put r id b) := by
  intro id' b' hres
  rw [resolve?, Table.get?_put] at hres
  split at hres
  · cases hres
    exact hb
  · exact hr _ _ hres

namespace Node

/-- The diagnostics of several trees. -/
def diagnosticsAll (ns : List Node) : List Node := (walkAll ns).filter isDiagnostic

theorem walk_eq (n : Node) : n.walk = n :: walkAll n.children := by
  cases n
  rw [walk]

theorem diagnosticsAll_cons (n : Node) (rest : List Node) :
    diagnosticsAll (n :: rest) = n.diagnostics ++ diagnosticsAll rest := by
  rw [diagnosticsAll, walkAll, List.filter_append]
  rfl

theorem diagnosticsAll_append (ns ms : List Node) :
    diagnosticsAll (ns ++ ms) = diagnosticsAll ns ++ diagnosticsAll ms := by
  induction ns with
  | nil => rfl
  | cons n rest ih => rw [List.cons_append, diagnosticsAll_cons, diagnosticsAll_cons, ih,
      List.append_assoc]

theorem diagnostics_of_not {n : Node} (h : n.isDiagnostic = false) :
    n.diagnostics = diagnosticsAll n.children := by
  rw [diagnostics, walk_eq, List.filter_cons, h]
  rfl

/-- Nodes around others have the diagnostics of these. -/
theorem Around.diagnosticsAll_eq {given drawn : List Node} (h : Around given drawn) :
    diagnosticsAll drawn = diagnosticsAll given := by
  induction h with
  | nil => rfl
  | kept _ ih => rw [diagnosticsAll_cons, diagnosticsAll_cons, ih]
  | own hn _ _ ihw ih =>
    rw [diagnosticsAll_cons, diagnostics_of_not hn, ihw, ih, diagnosticsAll_append]

end Node

namespace Build

/-! ### What the errors stand for -/

namespace Error

/-- The block that could not be drawn, and the place of its component. -/
def place? : Error → Option (String × String)
  | missingCapability block path => some (block, path)
  | factoryFault block path _ => some (block, path)
  | invalidProp block path _ _ => some (block, path)
  | unknownAction .. => none
  | malformed _ => none

/-- Whether a block failed. -/
def isFault : Error → Bool
  | factoryFault .. => true
  | _ => false

/-- Whether the component that an error is about lies under that of another. -/
def isUnder (e f : Error) : Bool :=
  match e.place?, f.place? with
  | some (_, path), some (_, above) => Location.isUnder path above
  | _, _ => false

/-- The diagnostic that stands for an error about a component. -/
def stand? (e : Error) : Option Node := e.place?.map fun p => .diagnostic p.1 [e.text]

/-- The error is about the component at a location. -/
def IsAt (l : Location) (e : Error) : Prop := ∃ block, e.place? = some (block, Location.text l)

theorem isUnder_iff {e f : Error} {l m : Location} (he : e.IsAt l) (hf : f.IsAt m) (hl : l ≠ [])
    (hm : m ≠ []) : e.isUnder f = true ↔ ∃ j r, l = m ++ j :: r := by
  obtain ⟨_, he⟩ := he
  obtain ⟨_, hf⟩ := hf
  simp only [isUnder, he, hf, Location.isUnder_text hm hl]

end Error

/-- Whether an error is about a component under one whose block failed. -/
def buried (es : List Error) (e : Error) : Bool := es.any fun f => f.isFault && e.isUnder f

/-- The diagnostics that stand for the errors. -/
def shown (es : List Error) : List Node :=
  (es.filter fun e => !buried es e).filterMap Error.stand?

theorem buried_append (es fs : List Error) (e : Error) :
    buried (es ++ fs) e = (buried es e || buried fs e) := List.any_append

theorem buried_eq_false {fs : List Error} {e : Error} (h : ∀ f ∈ fs, e.isUnder f = false) :
    buried fs e = false :=
  List.any_eq_false.2 fun f hf => by simp only [h f hf, Bool.and_false, Bool.false_eq_true,
    not_false_eq_true]

/-- Errors about components apart from one another stand for diagnostics one after the other. -/
theorem shown_append {es fs : List Error}
    (h : ∀ e ∈ es, ∀ f ∈ fs, e.isUnder f = false ∧ f.isUnder e = false) :
    shown (es ++ fs) = shown es ++ shown fs := by
  have hes : es.filter (fun e => !buried (es ++ fs) e) = es.filter fun e => !buried es e :=
    List.filter_congr fun e he => by
      rw [buried_append, buried_eq_false fun f hf => (h e he f hf).1, Bool.or_false]
  have hfs : fs.filter (fun f => !buried (es ++ fs) f) = fs.filter fun f => !buried fs f :=
    List.filter_congr fun f hf => by
      rw [buried_append, buried_eq_false fun e he => (h e he f hf).2, Bool.false_or]
  rw [shown, List.filter_append, List.filterMap_append, hes, hfs]
  rfl

theorem shown_singleton {e : Error} {l : Location} {block : String} (hl : l ≠ [])
    (he : e.place? = some (block, Location.text l)) : shown [e] = [.diagnostic block [e.text]] := by
  have hself : e.isUnder e = false := by
    rw [Bool.eq_false_iff]
    intro hu
    obtain ⟨j, r, h⟩ := (Error.isUnder_iff ⟨_, he⟩ ⟨_, he⟩ hl hl).1 hu
    have := congrArg List.length h
    simp at this
  rw [shown, List.filter_cons, buried_eq_false fun f hf => List.mem_singleton.1 hf ▸ hself]
  simp [Error.stand?, he]

/-- A block that fails takes what stands below its component along. -/
theorem shown_fault {l : Location} (hl : l ≠ []) {es : List Error}
    (hes : ∀ e ∈ es, ∃ j r, e.IsAt (l ++ j :: r)) {e : Error} {block : String}
    (he : e.place? = some (block, Location.text l)) (hf : e.isFault = true) :
    shown (es ++ [e]) = [.diagnostic block [e.text]] := by
  have hbelow : ∀ f ∈ es, buried (es ++ [e]) f = true := fun f hf' => by
    obtain ⟨j, r, hat⟩ := hes f hf'
    have hu : f.isUnder e = true := (Error.isUnder_iff hat ⟨_, he⟩ (by simp) hl).2 ⟨j, r, rfl⟩
    rw [buried_append, buried, buried, List.any_cons, hf, hu]
    simp
  have habove : buried es e = false := buried_eq_false fun f hf' => by
    obtain ⟨j, r, hat⟩ := hes f hf'
    rw [Bool.eq_false_iff]
    intro hu
    obtain ⟨k, q, h⟩ := (Error.isUnder_iff ⟨_, he⟩ hat hl (by simp)).1 hu
    have := congrArg List.length h
    simp at this
  rw [← shown_singleton hl he, shown, shown, List.filter_append,
    List.filter_eq_nil_iff.2 fun f hf' => by simp [hbelow f hf'], List.nil_append]
  rw [List.filter_cons, List.filter_cons, buried_append, habove, Bool.false_or]
  simp

/-! ### What is drawn and what is reported -/

/-- Nodes and the errors reported with them, about components from the `i`th under a location on. -/
structure Reported (above : Location) (i : Nat) (es : List Error) (ns : List Node) : Prop where
  places : ∀ e ∈ es, ∃ j r, i ≤ j ∧ e.IsAt (above ++ j :: r)
  diagnostics : Node.diagnosticsAll ns = shown es

theorem Reported.nil (above : Location) (i : Nat) : Reported above i [] [] :=
  ⟨fun _ h => absurd h List.not_mem_nil, rfl⟩

theorem Reported.within {above : Location} {i : Nat} {es : List Error} {ns : List Node}
    (h : Reported above i es ns) : ∀ e ∈ es, ∃ j r, e.IsAt (above ++ j :: r) := fun e he => by
  obtain ⟨j, r, -, hat⟩ := h.places e he
  exact ⟨j, r, hat⟩

theorem Reported.inside {above : Location} {i : Nat} {es : List Error} {ns : List Node}
    (h : Reported above i es ns) : ∀ e ∈ es, ∃ r, e.IsAt (above ++ r) := fun e he => by
  obtain ⟨j, r, hat⟩ := h.within e he
  exact ⟨j :: r, hat⟩

theorem Reported.append {above : Location} {i j : Nat} {es fs : List Error} {ns ms : List Node}
    (hij : i ≤ j) (hes : ∀ e ∈ es, ∃ r, e.IsAt (above ++ j :: r))
    (hns : Node.diagnosticsAll ns = shown es) (h : Reported above (j + 1) fs ms) :
    Reported above i (es ++ fs) (ns ++ ms) := by
  refine ⟨fun e he => ?_, ?_⟩
  · rcases List.mem_append.1 he with he | he
    · obtain ⟨r, hat⟩ := hes e he
      exact ⟨j, r, hij, hat⟩
    · obtain ⟨k, r, hk, hat⟩ := h.places e he
      exact ⟨k, r, by omega, hat⟩
  · rw [Node.diagnosticsAll_append, hns, h.diagnostics, shown_append fun e he f hf => ?_]
    obtain ⟨r, hat⟩ := hes e he
    obtain ⟨k, q, hk, hat'⟩ := h.places f hf
    -- Where the two places part, their steps are `j` and `k`.
    have happart : ∀ (x : List Nat), j :: r ≠ k :: q ++ x ∧ k :: q ≠ j :: r ++ x := fun x => by
      simp only [List.cons_append, ne_eq, List.cons.injEq, not_and]
      omega
    constructor
    · rw [Bool.eq_false_iff]
      intro hu
      obtain ⟨m, x, hx⟩ := (Error.isUnder_iff hat hat' (by simp) (by simp)).1 hu
      rw [List.append_assoc, List.append_cancel_left_eq] at hx
      exact (happart _).1 hx
    · rw [Bool.eq_false_iff]
      intro hu
      obtain ⟨m, x, hx⟩ := (Error.isUnder_iff hat' hat (by simp) (by simp)).1 hu
      rw [List.append_assoc, List.append_cancel_left_eq] at hx
      exact (happart _).2 hx

/-- A node around others, dressed or not, has the diagnostics of these. -/
theorem diagnosticsAll_around (scope : Expr.Scope) (c : Component) {n : Node} {below : List Node}
    (hn : n.isDiagnostic = false) (h : Node.Around below n.children) :
    Node.diagnosticsAll [dressed scope c n] = Node.diagnosticsAll below := by
  have hd : (dressed scope c n).isDiagnostic = false := hn
  rw [Node.diagnosticsAll_cons, Node.diagnostics_of_not hd, ← h.diagnosticsAll_eq]
  exact List.append_nil _

/-- **What is reported of a component and what is drawn in its place.** -/
theorem reported_of_draws {ctx : Context σ} (hr : ctx.registry.KeepsChildren) {c : Component}
    (hl : c.location ≠ [])
    (hbelow : ∀ w₁ : Work σ, ∃ es, (nodes ctx c.children w₁).2.draft.errors = w₁.draft.errors ++ es ∧
      Reported c.location 0 es (nodes ctx c.children w₁).1)
    {w w' : Work σ} {ns : List Node} (h : Draws ctx c w ns w') :
    ∃ es, w'.draft.errors = w.draft.errors ++ es ∧ (∀ e ∈ es, ∃ r, e.IsAt (c.location ++ r)) ∧
      Node.diagnosticsAll ns = shown es := by
  cases h with
  | hidden _ hq => exact ⟨[], by rw [hq.errors, List.append_nil], nofun, rfl⟩
  | @group w₁ _ _ _ hq hq' =>
    obtain ⟨es, herr, hrep⟩ := hbelow w₁
    refine ⟨es, by rw [hq'.errors, herr, hq.errors], hrep.inside, ?_⟩
    exact (diagnosticsAll_around ctx.scope c rfl (Node.around_refl _)).trans hrep.diagnostics
  | @refused w₁ block e _ _ hq he =>
    have hplace : e.place? = some (block, Location.text c.location) := by
      rcases he with ⟨-, rfl⟩ | ⟨b, prop, -, -, rfl⟩ <;> rfl
    refine ⟨[e], by simp [Work.mapDraft, hq.errors], fun f hf => ?_, ?_⟩
    · cases List.mem_singleton.1 hf
      exact ⟨[], block, by rw [hplace, List.append_nil]⟩
    · rw [shown_singleton hl hplace]
      rfl
  | @fault w₁ _ block b f _ _ _ _ hq _ herr' =>
    obtain ⟨es, herr, hrep⟩ := hbelow w₁
    refine ⟨es ++ [_], by rw [herr', herr, hq.errors, List.append_assoc], fun e he => ?_, ?_⟩
    · rcases List.mem_append.1 he with he | he
      · exact hrep.inside e he
      · cases List.mem_singleton.1 he
        exact ⟨[], block, by rw [List.append_nil]; rfl⟩
    · -- What was reported below comes first, but its diagnostics went with the children.
      rw [shown_fault hl hrep.within rfl rfl]
      rfl
  | @drawn w₁ _ block b n _ _ hres _ hq hd herr' =>
    obtain ⟨es, herr, hrep⟩ := hbelow w₁
    obtain ⟨hn, haround⟩ := hr _ _ hres _ _ _ _ _ hd
    have hn' : ({ n with block := some (n.block.getD block) } : Node).isDiagnostic = false := hn
    refine ⟨es, by rw [herr', herr, hq.errors], hrep.inside, ?_⟩
    exact (diagnosticsAll_around ctx.scope c hn' haround).trans hrep.diagnostics

/-- **What is reported of components and what is drawn in their places.** -/
theorem reported_nodes {ctx : Context σ} (hr : ctx.registry.KeepsChildren) {above : Location}
    {i : Nat} {cs : List Component} (h : Arranged above i cs) (w : Work σ) :
    ∃ es, (nodes ctx cs w).2.draft.errors = w.draft.errors ++ es ∧
      Reported above i es (nodes ctx cs w).1 := by
  induction h generalizing w with
  | nil above i =>
    rw [nodes_nil]
    exact ⟨[], (List.append_nil _).symm, .nil above i⟩
  | @cons above i j c rest hij hl hb _ _ ihc ihr =>
    rw [nodes_cons]
    obtain ⟨es, herr, hat, hdiag⟩ :=
      reported_of_draws hr (by rw [hl]; simp) ihc (draws_node ctx c w)
    obtain ⟨fs, herr', hrep⟩ := ihr (node ctx c w).2
    refine ⟨es ++ fs, by rw [herr', herr, List.append_assoc], ?_⟩
    refine hrep.append hij (fun e he => ?_) hdiag
    obtain ⟨r, h⟩ := hat e he
    rw [hl, List.append_assoc] at h
    exact ⟨r, h⟩

/-- What is wrong with the text or with the names of actions stands nowhere in the panel. -/
theorem place?_of_mem_openingDraft {o : Options} {t : Template} {problems : List SyntaxProblem}
    {e : Error} (h : e ∈ (openingDraft o t problems).errors) : e.place? = none := by
  rcases List.mem_append.1 h with h | h
  · obtain ⟨p, -, rfl⟩ := List.mem_map.1 h
    rfl
  · obtain ⟨m, -, rfl⟩ := List.mem_map.1 h
    rfl

theorem shown_opening {es fs : List Error} (h : ∀ e ∈ es, e.place? = none) :
    shown (es ++ fs) = shown fs := by
  rw [shown_append fun e he f _ => by simp [Error.isUnder, h e he]]
  have : shown es = [] := by
    rw [shown, List.filterMap_eq_nil_iff]
    intro e he
    simp [Error.stand?, h e (List.mem_filter.1 he).1]
  rw [this, List.nil_append]

/-- A panel shows the errors that are reported with it: in diagnostics, one for each about a
component that no failed block took along, or all of them in the panel that is itself one. -/
structure Artifact.ShowsErrors (a : Artifact) : Prop where
  panel : a.root.isDiagnostic = false → a.root.diagnostics = shown a.errors
  diagnostic : a.root.isDiagnostic = true →
    a.root.walk = [a.root] ∧ a.root.messages = a.errors.map Error.text

theorem Artifact.showsErrors_failed (block : Option String) (es : List Error) (ws : List Warning) :
    (Artifact.failed block es ws).ShowsErrors :=
  ⟨nofun, fun _ => ⟨Node.walk_eq _, rfl⟩⟩

/-- **The diagnostics of a panel are what was reported.** The components of a template that was read
are arranged (`Template.arranged_parse`). -/
theorem showsErrors_template {t : Template} (ht : Arranged [] 0 t.components) {r : Registry σ}
    (hr : r.KeepsChildren) (o : Options) (host : Value) (problems : List SyntaxProblem) (s : σ) :
    (template o r t host problems s).1.ShowsErrors := by
  have hb := builds_template o r t host problems s
  generalize (template o r t host problems s).1 = a at hb
  generalize hctx : Context.mk r (scopeOf t host) = ctx at hb
  have hr : ctx.registry.KeepsChildren := hctx ▸ hr
  cases hb with
  | unregistered _ => exact Artifact.showsErrors_failed ..
  | lacking _ _ => exact Artifact.showsErrors_failed ..
  | fault _ _ _ _ => exact Artifact.showsErrors_failed ..
  | @drawn w₁ s' b n us ws hres hl hq hd =>
    obtain ⟨hn, haround⟩ := hr _ _ hres _ _ _ _ _ hd
    obtain ⟨es, herr, hrep⟩ := reported_nodes hr ht w₁
    refine ⟨fun hroot => ?_, fun h => absurd (hn.symm.trans h) nofun⟩
    refine (Node.diagnostics_of_not hroot).trans ?_
    calc Node.diagnosticsAll n.children
      _ = shown es := haround.diagnosticsAll_eq.trans hrep.diagnostics
      _ = shown ((openingDraft o t problems).errors ++ es) :=
        (shown_opening fun e he => place?_of_mem_openingDraft he).symm
      _ = shown (nodes ctx t.components w₁).2.draft.errors := by rw [herr, hq.errors]

theorem showsErrors_frail :
    let r : Registry Unit := [("frail", ⟨.ofId "frail", fun _ _ s => (.error (.panicked none), s)⟩),
      ("panel", .element (.ofId "panel"))]
    let gauge : Component := { location := [0, 0], kind := .leaf "gauge" }
    let frail : Component :=
      { location := [0], kind := .container "frail", children := [gauge] }
    let t : Template :=
      { name := "a", version := Template.defaultVersion, bootstrap := ⟨"panel", []⟩,
        components := [frail] }
    Arranged [] 0 t.components ∧ (template {} r t (.obj []) [] ()).1.ShowsErrors ∧
      (template {} r t (.obj []) [] ()).1.root.isDiagnostic = false ∧
      (template {} r t (.obj []) [] ()).1.errors.map Error.text =
        ["components[0].children[0]: capability 'gauge' is not registered",
          "components[0]: capability 'frail' failed: panicked: unknown panic"] := by
  intro r gauge frail t
  have hpanel : Registry.KeepsChildren [("panel", (.element (.ofId "panel") : Block Unit))] :=
    (Registry.elemental_nil.put (Block.elemental_element (.ofId "panel"))).keepsChildren
  have hfrail : (⟨.ofId "frail", fun _ _ s => (.error (.panicked none), s)⟩ :
      Block Unit).KeepsChildren := nofun
  have hgauge : Arranged [0] 0 [gauge] :=
    .cons (Nat.le_refl 0) rfl Table.ordered_nil (.nil _ _) (.nil _ _)
  have ht : Arranged [] 0 t.components :=
    .cons (Nat.le_refl 0) rfl Table.ordered_nil hgauge (.nil _ _)
  exact ⟨ht, showsErrors_template ht (hpanel.put hfrail "frail") .., by decide +kernel,
    by decide +kernel⟩

end Build

end LivePanel
