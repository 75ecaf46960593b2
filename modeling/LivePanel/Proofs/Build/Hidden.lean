import LivePanel.Proofs.Build.Sights

/-!
# What is hidden makes no difference

Of a component whose condition is false a build reads the condition and the place, and nothing else.
So templates that differ only in what such components hold (`SameShown`) are built alike.

`hidden_makes_no_difference`: they are reported to have the same faults, in the same order, except
for the names of actions, which are checked also where nothing is shown; and if the block at the
root draws, it draws the same panel from the same blocks.
-/

namespace LivePanel.Build

variable {σ : Type}

/-- Components that are the same but for what hidden ones hold. Of a hidden component the place and
the condition are the same; any other is the same itself, and so is what is below it, in turn but
for what hidden ones hold. -/
inductive SameShown (scope : Expr.Scope) : List Component → List Component → Prop where
  | nil : SameShown scope [] []
  | hidden {c d : Component} {cs ds : List Component} (hl : d.location = c.location)
      (hc : d.condition = c.condition) (hh : hides scope c.condition = true)
      (hr : SameShown scope cs ds) : SameShown scope (c :: cs) (d :: ds)
  | kept {c : Component} {below cs ds : List Component} (hb : SameShown scope c.children below)
      (hr : SameShown scope cs ds) : SameShown scope (c :: cs) ({ c with children := below } :: ds)

theorem SameShown.refl (scope : Expr.Scope) (cs : List Component) : SameShown scope cs cs := by
  induction cs using Component.forest_induction with
  | nil => exact .nil
  | cons c rest ihc ihr =>
    obtain ⟨_, _, _, _, _, _, _⟩ := c
    exact .kept ihc ihr

section

variable {ctx : Context σ}

/-- Of a hidden component only the place and the condition count. -/
theorem node_of_hidden {c d : Component} (hl : d.location = c.location)
    (hc : d.condition = c.condition) (hh : hides ctx.scope c.condition = true) (w : Work σ) :
    node ctx d w = node ctx c w := by
  obtain ⟨location, kind, condition, props, bindings, icons, children⟩ := c
  obtain ⟨_, _, _, _, _, _, _⟩ := d
  obtain rfl : _ = location := hl
  obtain rfl : _ = condition := hc
  rw [node, node]
  simp only [Draft.shows_fst, hh]
  rfl

/-- Of what is below a component only its nodes count. -/
theorem node_of_kept {c : Component} {below : List Component}
    (hb : ∀ w : Work σ, nodes ctx below w = nodes ctx c.children w) (w : Work σ) :
    node ctx { c with children := below } w = node ctx c w := by
  obtain ⟨location, kind, condition, props, bindings, icons, children⟩ := c
  rw [node, node]
  simp only [hb]

theorem nodes_of_sameShown {cs ds : List Component} (h : SameShown ctx.scope cs ds) (w : Work σ) :
    nodes ctx ds w = nodes ctx cs w := by
  induction h generalizing w with
  | nil => rfl
  | hidden hl hc hh _ ih => rw [nodes_cons, nodes_cons, node_of_hidden hl hc hh, ih]
  | kept _ _ ihb ih => rw [nodes_cons, nodes_cons, node_of_kept ihb, ih]

variable {t : Template} {cs : List Component} (h : SameShown ctx.scope t.components cs)
include h

theorem root_of_sameShown (b : Block σ) (w : Work σ) :
    root ctx { t with components := cs } b w = root ctx t b w := by
  unfold root
  simp only [nodes_of_sameShown h]

theorem rootNode?_of_sameShown (s : σ) :
    rootNode? ctx { t with components := cs } s = rootNode? ctx t s := by
  unfold rootNode?
  simp only [root_of_sameShown h]

theorem told_of_sameShown (s : σ) : told ctx { t with components := cs } s = told ctx t s := by
  cases hr : ctx.registry.resolve? t.bootstrap.block with
  | none => simp only [told, panelSights, blockSights, hr]
  | some b =>
    have hroot := congrArg (·.2.draft) (root_of_sameShown h b ⟨{}, s⟩)
    simp only [draft_root hr, draft_root (t := { t with components := cs }) hr] at hroot
    exact hroot

end

theorem filter_errors_openingDraft (o : Options) (t : Template) (problems : List SyntaxProblem) :
    (openingDraft o t problems).errors.filter (!·.isUnknownAction) = problems.map .malformed := by
  have hkept : ∀ e ∈ problems.map Error.malformed, (!e.isUnknownAction) = true :=
    List.forall_mem_map.2 fun _ _ => rfl
  have hdropped : ∀ e ∈ unknownActions t, ¬ (!e.isUnknownAction) = true :=
    List.forall_mem_map.2 fun _ _ => Bool.false_ne_true
  rw [openingDraft, List.filter_append, List.filter_eq_self.2 hkept,
    List.filter_eq_nil_iff.2 hdropped, List.append_nil]

theorem filter_warnings_openingDraft (o : Options) (t : Template) (problems : List SyntaxProblem) :
    (openingDraft o t problems).warnings.filter (!·.isUnusedAction) = [] := by
  rw [List.filter_eq_nil_iff, openingDraft]
  split
  · exact List.forall_mem_map.2 fun _ _ => Bool.false_ne_true
  · exact fun _ h => absurd h List.not_mem_nil

/-- **What is hidden makes no difference.** -/
theorem hidden_makes_no_difference (o : Options) (r : Registry σ) (t : Template) (host : Value)
    (problems : List SyntaxProblem) (s : σ) {cs : List Component}
    (h : SameShown (scopeOf t host) t.components cs) :
    let a := (template o r t host problems s).1
    let a' := (template o r { t with components := cs } host problems s).1
    a'.errors.filter (!·.isUnknownAction) = a.errors.filter (!·.isUnknownAction) ∧
      a'.warnings.filter (!·.isUnusedAction) = a.warnings.filter (!·.isUnusedAction) ∧
      (renders ⟨r, scopeOf t host⟩ t.bootstrap.block t.bootstrap.props t.components s = true →
        a'.root = a.root ∧ a'.used = a.used) := by
  have hscope : scopeOf { t with components := cs } host = scopeOf t host := rfl
  have htold : told ⟨r, scopeOf t host⟩ { t with components := cs } s =
      told ⟨r, scopeOf t host⟩ t s := told_of_sameShown h s
  refine ⟨?_, ?_, fun hrenders => ?_⟩
  · rw [errors_template, errors_template, List.filter_append, List.filter_append,
      filter_errors_openingDraft, filter_errors_openingDraft, hscope, htold]
  · rw [warnings_template, warnings_template, List.filter_append, List.filter_append,
      filter_warnings_openingDraft, filter_warnings_openingDraft, hscope, htold]
  · have hpanel : rootNode? ⟨r, scopeOf t host⟩ { t with components := cs } s =
        rootNode? ⟨r, scopeOf t host⟩ t s := rootNode?_of_sameShown h s
    obtain ⟨hroot, hused⟩ := template_of_renders o r t host problems s hrenders
    rw [← isSome_rootNode?, ← hpanel, isSome_rootNode?] at hrenders
    obtain ⟨hroot', hused'⟩ :=
      template_of_renders o r { t with components := cs } host problems s hrenders
    rw [hscope] at hroot' hused'
    rw [hused', htold, hused]
    exact ⟨Option.some.inj (hroot'.symm.trans (hpanel.trans hroot)), rfl⟩

/-- A hidden component names a block and an action that are not there, and a path that its neighbour
names as well; another holds a list of components. -/
theorem hidden_makes_no_difference_gauge :
    let r : Registry Unit := [("panel", .element (.ofId "panel"))]
    let props : Table Value := [("value", .str "\x7b\x7b state.x \x7d\x7d")]
    let gauge : Component :=
      { location := [0, 0], kind := .leaf "gauge", condition := some "state.on", props := props,
        bindings := [("click", "go")] }
    let list : Component :=
      { location := [0, 0], kind := .container none, condition := some "state.on",
        children := [{ location := [0, 0, 0], kind := .leaf "panel" }] }
    let shown : Component := { location := [0, 1], kind := .leaf "panel", props := props }
    let t (first : Component) : Template :=
      { name := "a", version := Template.defaultVersion, bootstrap := ⟨"panel", []⟩,
        components := [{ location := [0], kind := .container none, children := [first, shown] }] }
    let a := (template {} r (t gauge) (.obj []) [] ()).1
    let a' := (template {} r (t list) (.obj []) [] ()).1
    SameShown (scopeOf (t gauge) (.obj [])) (t gauge).components (t list).components ∧
      a.errors = [.unknownAction "go" "components[0].children[0].on.click"] ∧
      a.warnings = [.unresolvedPath "state.x" "components[0].children[1]"] ∧
      a'.errors.filter (!·.isUnknownAction) = a.errors.filter (!·.isUnknownAction) ∧
      a'.warnings.filter (!·.isUnusedAction) = a.warnings.filter (!·.isUnusedAction) ∧
      a'.root = a.root ∧ a'.used = a.used := by
  intro r props gauge list shown t a a'
  have hsame : SameShown (scopeOf (t gauge) (.obj [])) (t gauge).components (t list).components :=
    .kept (.hidden rfl rfl (by decide +kernel) (.refl _ [shown])) .nil
  obtain ⟨herrors, hwarnings, hpanel⟩ :=
    hidden_makes_no_difference {} r (t gauge) (.obj []) [] () hsame
  exact ⟨hsame, by decide +kernel, by decide +kernel, herrors, hwarnings,
    hpanel (by decide +kernel)⟩

end LivePanel.Build
