import LivePanel.Proofs.Build.Drawing
import LivePanel.Proofs.Template.Arranged

/-!
# The picture of a panel

Suppose that every block, where it draws at all, draws the element of its own id with the props and
the children that it is given. Then the panel can be told from the template alone, by recursion over
its components: `picture` drops those whose condition is false, makes groups of those without a
block, and puts diagnostics where a block is not registered, lacks an input or fails. It knows
nothing of drafts, of what was reported or of the order in which a build goes about its work; only
the world that blocks act on is passed along, because whether a block fails may depend on it.

`root_eq_panel`: a build of a template that was read gives exactly this panel, and where the block
at the root draws nothing, a diagnostic in its place.
-/

namespace LivePanel

variable {σ : Type}

/-! ### Blocks that draw elements -/

/-- What the block draws is the element of its own id with the props and children given. -/
def Block.Elemental (b : Block σ) : Prop :=
  ∀ props children s n s', b.render props children s = (.ok n, s') →
    n = { Node.element b.metadata.id props with children := children }

/-- All blocks are under their ids and draw elements. -/
structure Registry.Elemental (r : Registry σ) : Prop where
  keyed : ∀ {id : String} {b : Block σ}, r.resolve? id = some b → b.metadata.id = id
  draws : ∀ {id : String} {b : Block σ}, r.resolve? id = some b → b.Elemental

theorem Block.elemental_element (m : Metadata) : (Block.element m : Block σ).Elemental := by
  intro props children s n s' h
  cases h
  rfl

namespace Registry

theorem elemental_nil : Elemental ([] : Registry σ) := ⟨nofun, nofun⟩

theorem Elemental.put {r : Registry σ} (hr : r.Elemental) {b : Block σ} (hb : b.Elemental) :
    Elemental (Table.put r b.metadata.id b) := by
  constructor
  all_goals
    intro id b' hres
    rw [resolve?, Table.get?_put] at hres
    split at hres
  · cases hres
    assumption
  · exact hr.keyed hres
  · cases hres
    exact hb
  · exact hr.draws hres

theorem Elemental.register {r r' : Registry σ} (hr : r.Elemental) {b : Block σ}
    (hb : b.Elemental) (h : r.register b = .ok r') : r'.Elemental := by
  simp only [Registry.register] at h
  split at h
  · cases h
    exact hr.put (b := ⟨{ b.metadata with integrityHash := some b.metadata.integrity }, b.render⟩) hb
  · exact nomatch h

theorem Elemental.registerAll {r r' : Registry σ} (hr : r.Elemental) {bs : List (Block σ)}
    (hbs : ∀ b ∈ bs, b.Elemental) (h : r.registerAll bs = .ok r') : r'.Elemental := by
  induction bs generalizing r with
  | nil =>
    cases h
    exact hr
  | cons b rest ih =>
    unfold Registry.registerAll at h
    split at h
    · rename_i hreg
      exact ih (hr.register (hbs b (List.mem_cons_self ..)) hreg)
        (fun b' hb' => hbs b' (List.mem_cons_of_mem _ hb')) h
    · exact nomatch h

theorem Elemental.unregister {r r' : Registry σ} (hr : r.Elemental) {id : String} {b : Block σ}
    (h : r.unregister id = .ok (b, r')) : r'.Elemental := by
  unfold Registry.unregister at h
  split at h
  · cases h
    constructor
    all_goals
      intro id' b' hres
      rw [resolve?, Table.get?_erase] at hres
      split at hres
    · exact nomatch hres
    · exact hr.keyed hres
    · exact nomatch hres
    · exact hr.draws hres
  · exact nomatch h

end Registry

namespace Build

/-! ### The picture -/

mutual
/-- The node of a component, if it is shown, and the world after it is drawn. -/
def picture (ctx : Context σ) (c : Component) (s : σ) : List Node × σ :=
  match c with
  | ⟨location, kind, condition, declared, bindings, icons, children⟩ =>
    let props := interpolated ctx.scope declared
    let place := Location.text location
    if hides ctx.scope condition then ([], s)
    else
      match kind.block? with
      | none =>
        let (below, s) := pictures ctx children s
        ([⟨.group, none, props, bindings, icons.map (tinted ctx.scope), below⟩], s)
      | some block =>
        match ctx.registry.resolve? block with
        | none => ([.diagnostic block [(Error.missingCapability block place).text]], s)
        | some b =>
          match lacking? b.metadata props with
          | some prop =>
            ([.diagnostic block [(Error.invalidProp block place prop "is required").text]], s)
          | none =>
            let (below, s) := pictures ctx children s
            match b.render props below s with
            | (.ok _, s) =>
              ([⟨.element, some block, props, bindings, icons.map (tinted ctx.scope), below⟩], s)
            | (.error f, s) =>
              ([.diagnostic block [(Error.factoryFault block place (faultText f)).text]], s)

/-- The nodes of components, in order. -/
def pictures (ctx : Context σ) (cs : List Component) (s : σ) : List Node × σ :=
  match cs with
  | [] => ([], s)
  | c :: rest =>
    let (first, s) := picture ctx c s
    let (others, s) := pictures ctx rest s
    (first ++ others, s)
end

/-- The panel of a template; none where the block at its root is not registered, lacks an input or
fails. -/
def panel? (ctx : Context σ) (t : Template) (s : σ) : Option Node :=
  let block := t.bootstrap.block
  let props := interpolated ctx.scope t.bootstrap.props
  match ctx.registry.resolve? block with
  | none => none
  | some b =>
    if (lacking? b.metadata props).isSome then none
    else
      let (below, s) := pictures ctx t.components s
      match b.render props below s with
      | (.ok _, _) =>
        some { kind := .element, block := some block, props := props, children := below }
      | (.error _, _) => none

/-! ### What is drawn is the picture -/

/-- Bindings in order are taken over as they are. -/
theorem addBindings_append {acc declared : Table String} (h : Table.Ordered (acc ++ declared)) :
    addBindings acc declared = acc ++ declared := by
  induction declared generalizing acc with
  | nil => rw [addBindings, List.foldl_nil, List.append_nil]
  | cons e rest ih =>
    have hlt : ∀ a ∈ acc, a.1 < e.1 := fun a ha =>
      (List.pairwise_append.1 h).2.2 a ha e (List.mem_cons_self ..)
    have hnew : acc.get? e.1 = none := by
      cases hget : acc.get? e.1 with
      | none => rfl
      | some v => exact absurd (hlt _ (Table.mem_of_get? hget)) (String.lt_irrefl _)
    have hput : acc.put e.1 e.2 = acc ++ [e] := Table.put_of_all_lt hlt e.2
    rw [List.append_cons] at h ⊢
    rw [← ih h, addBindings, List.foldl_cons, Table.has, hnew, ← hput]
    rfl

theorem pictures_cons (ctx : Context σ) (c : Component) (rest : List Component) (s : σ) :
    pictures ctx (c :: rest) s =
      ((picture ctx c s).1 ++ (pictures ctx rest (picture ctx c s).2).1,
        (pictures ctx rest (picture ctx c s).2).2) := by
  rw [pictures]

/-- What becomes of a component is its picture, if what becomes of its children is theirs. -/
theorem picture_of_draws {ctx : Context σ} (hr : ctx.registry.Elemental) {c : Component}
    (hb : Table.Ordered c.bindings) {w w' : Work σ} {ns : List Node}
    (hbelow : ∀ w₁ : Work σ, pictures ctx c.children w₁.world =
      ((nodes ctx c.children w₁).1, (nodes ctx c.children w₁).2.world))
    (h : Draws ctx c w ns w') : picture ctx c w.world = (ns, w'.world) := by
  obtain ⟨location, kind, condition, declared, bindings, icons, children⟩ := c
  have hadd : addBindings [] bindings = bindings := addBindings_append hb
  simp only at hbelow
  unfold picture
  cases h with
  | hidden hc hq => simp only [hc, hq.world, if_true]
  | @group w₁ _ hc hk hq hq' =>
    have hp := hbelow w₁
    rw [hq.world] at hp
    rw [show kind.block? = none from hk]
    simp only [hc, hp, hq'.world, Bool.false_eq_true, if_false]
    simp only [dressed, Node.group, hadd, List.nil_append]
  | @refused w₁ block e hc hk hq he =>
    rw [show kind.block? = some block from hk]
    rcases he with ⟨hres, rfl⟩ | ⟨b, prop, hres, hl, rfl⟩
    · simp only [hc, hres, Work.mapDraft, hq.world, Bool.false_eq_true, if_false]
    · simp only [hc, hres, hl, Work.mapDraft, hq.world, Bool.false_eq_true, if_false]
  | @fault w₁ _ block b f hc hk hres hl hq hd he =>
    have hp := hbelow w₁
    rw [hq.world] at hp
    rw [show kind.block? = some block from hk]
    simp only [hc, hres, hl, hp, hd, Bool.false_eq_true, if_false]
  | @drawn w₁ _ block b n hc hk hres hl hq hd he =>
    have hp := hbelow w₁
    rw [hq.world] at hp
    have hn := hr.draws hres _ _ _ _ _ hd
    rw [show kind.block? = some block from hk]
    simp only [hc, hres, hl, hp, hd, Bool.false_eq_true, if_false]
    simp only [hn, dressed, Node.element, hr.keyed hres, Option.getD_some, hadd, List.nil_append]

/-- **What is drawn is the picture.** -/
theorem pictures_eq_nodes {ctx : Context σ} (hr : ctx.registry.Elemental) {above : Location}
    {i : Nat} {cs : List Component} (h : Arranged above i cs) (w : Work σ) :
    pictures ctx cs w.world = ((nodes ctx cs w).1, (nodes ctx cs w).2.world) := by
  induction h generalizing w with
  | nil => rw [nodes_nil, pictures]
  | cons _ _ hb _ _ ihc ihr =>
    rw [nodes_cons, pictures_cons, picture_of_draws hr hb ihc (draws_node ..), ihr]

/-- **A build gives the panel of the template, or a diagnostic in its place.** -/
theorem root_eq_panel {source : String} {depth : Nat} {t : Template}
    (ht : (Template.parse source depth).template = some t) {r : Registry σ} (hr : r.Elemental)
    (o : Options) (host : Value) (problems : List SyntaxProblem) (s : σ) :
    (template o r t host problems s).1.root =
      (panel? ⟨r, scopeOf t host⟩ t s).getD
        (.diagnostic t.bootstrap.block
          ((template o r t host problems s).1.errors.map Error.text)) := by
  have hb := builds_template o r t host problems s
  generalize (template o r t host problems s).1 = a at hb
  generalize hctx : Context.mk r (scopeOf t host) = ctx at hb
  have hr : ctx.registry.Elemental := hctx ▸ hr
  have hp := fun w : Work σ => pictures_eq_nodes hr (Template.arranged_parse ht) w
  unfold panel?
  cases hb with
  | unregistered hres => simp only [hres, Artifact.failed, Option.getD_none]
  | lacking hres hl =>
    simp only [hres, hl, Option.isSome_some, if_true, Artifact.failed, Option.getD_none]
  | @fault w₁ s' b f ws hres hl hq hd =>
    have hp₁ := hp w₁
    rw [hq.world] at hp₁
    simp only [hres, hl, hp₁, hd, Option.isSome_none, Bool.false_eq_true, if_false,
      Artifact.failed, Option.getD_none]
  | @drawn w₁ s' b n us ws hres hl hq hd =>
    have hp₁ := hp w₁
    rw [hq.world] at hp₁
    have hn := hr.draws hres _ _ _ _ _ hd
    simp only [hres, hl, hp₁, hd, hn, hr.keyed hres, Node.element, Option.isSome_none,
      Bool.false_eq_true, if_false, Option.getD_some]

theorem root_eq_panel_gauge : ∃ t,
    (Template.parse "name: a\nbootstrap: panel\ncomponents:\n- gauge\n- panel\n").template = some t ∧
    (template {} [("panel", .element (.ofId "panel"))] t (.obj []) [] ()).1.root.walk.map
      (fun n => (n.kind, n.block)) =
      [(.element, some "panel"),
        (.diagnostic ["components[0]: capability 'gauge' is not registered"], some "gauge"),
        (.element, some "panel")] := by
  have hpanel : Registry.Elemental [("panel", (.element (.ofId "panel") : Block Unit))] :=
    Registry.elemental_nil.put (Block.elemental_element (.ofId "panel"))
  have hdrawn : ((Template.parse
      "name: a\nbootstrap: panel\ncomponents:\n- gauge\n- panel\n").template.map fun t =>
        (panel? ⟨[("panel", (.element (.ofId "panel") : Block Unit))], scopeOf t (.obj [])⟩ t ()).map
          fun n => n.walk.map fun n => (n.kind, n.block)) =
      some (some [(.element, some "panel"),
        (.diagnostic ["components[0]: capability 'gauge' is not registered"], some "gauge"),
        (.element, some "panel")]) := by
    decide +kernel
  obtain ⟨t, ht, hpanel?⟩ := Option.map_eq_some_iff.1 hdrawn
  obtain ⟨n, hn, hwalk⟩ := Option.map_eq_some_iff.1 hpanel?
  refine ⟨t, ht, ?_⟩
  rw [root_eq_panel ht hpanel, hn]
  exact hwalk

end Build

end LivePanel
