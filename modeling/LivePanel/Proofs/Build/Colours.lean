import LivePanel.Proofs.Build.Diagnostics
import LivePanel.Proofs.Build.Warned
import LivePanel.Proofs.Expr.Leftovers

/-!
# The colours of icons

The colour that is declared for an icon may hold tokens. `Appears` says which components of a
template get nodes, and `colours_told` what their icons come to: the tokens of a colour that mean a
value have given way to its text, and each of the others has been warned of (`Tells`).

There is one case in which that fails. A colour that is no more than a token becomes the value
itself, and where that is not a text the colour stays as it was declared, with its token and without
a warning (`colour_of_alone`).
-/

namespace LivePanel

variable {σ : Type}

namespace Expr

open Text

/-- The text is a single token, and it means the value. -/
def Alone (scope : Scope) (text : String) (v : Value) : Prop :=
  ∃ run, text.toList = braced run ∧ Plain run ∧ Means scope run v

variable {scope : Scope}

/-- A text that does not give way to a value of another kind becomes the text of its pieces. -/
theorem interpolateText_of_str {s : String}
    (h : ∀ v, Alone scope s v → ∃ text, v = .str text) :
    (interpolateText scope s).value =
      .str (String.ofList ((pieces s.toList).flatMap (Piece.text scope))) := by
  by_cases hv : ∃ v, Alone scope s v
  · obtain ⟨v, halone⟩ := hv
    obtain ⟨text, rfl⟩ := h v halone
    obtain ⟨run, hs, hrun, hmeans⟩ := halone
    rw [interpolateText_of_lone hs hrun hmeans, pieces_eq_token_iff.2 ⟨run, hs, hrun, rfl, rfl⟩,
      List.flatMap_singleton, text_of_means hmeans, displays_iff.1 (.str text),
      String.ofList_toList]
  · exact interpolateText_of_not_lone fun run v hs hrun hmeans => hv ⟨v, run, hs, hrun, hmeans⟩

theorem exists_fate {tail out : List Char} {toks : List Token} {fates : List Fate}
    (h : Puts tail toks out fates) {tok : Token} (htok : tok ∈ toks) :
    ∃ f ∈ fates, Trims tok.run f.body.toList := by
  induction h with
  | last => cases htok
  | value hbody _ _ ih | verbatim hbody _ ih =>
    rcases List.mem_cons.1 htok with rfl | htok
    · exact ⟨_, List.mem_cons_self .., hbody⟩
    · obtain ⟨f, hf, htrims⟩ := ih htok
      exact ⟨f, List.mem_cons_of_mem _ hf, htrims⟩

/-- A token without a meaning is noted. -/
theorem noted_of_not_means {s : String} {toks : List Token} {tail : List Char}
    (hcut : Cut s.toList toks tail) {tok : Token} (htok : tok ∈ toks)
    (h : ∀ v, ¬ Means scope tok.run v) :
    ∃ body : String, Trims tok.run body.toList ∧
      (body ∈ (interpolateText scope s).notes.missing ∧ IsPath body.toList ∧
          scope.resolve? body = none ∨
        body ∈ (interpolateText scope s).notes.invalid ∧ ¬ IsPath body.toList) := by
  obtain ⟨fates, hputs, hsettled⟩ := exists_puts scope tail toks
  obtain ⟨f, hf, hbody⟩ := exists_fate hputs htok
  obtain ⟨hmissing, hinvalid⟩ := firstSeen_notesOfAll scope (fates.map Fate.body)
  have hmem : f.body ∈ fates.map Fate.body := List.mem_map_of_mem hf
  rw [interpolateText_notes, pieces_of_cut hcut, hsettled.notes]
  refine ⟨f.body, hbody, ?_⟩
  by_cases hpath : IsPath f.body.toList
  · have hnone : scope.resolve? f.body = none :=
      Option.eq_none_iff_forall_ne_some.2 fun v hv => h v ((means_iff hbody).2 ⟨hpath, hv⟩)
    exact .inl ⟨(hmissing.mem_iff _).2 ⟨hmem, hpath, hnone⟩, hpath, hnone⟩
  · exact .inr ⟨(hinvalid.mem_iff _).2 ⟨hmem, hpath⟩, hpath⟩

end Expr

namespace Node

theorem walkAll_append (ns ms : List Node) : walkAll (ns ++ ms) = walkAll ns ++ walkAll ms := by
  induction ns with
  | nil => rfl
  | cons n rest ih => rw [List.cons_append, walkAll, walkAll, ih, List.append_assoc]

/-- Nodes around others have all that is in these. -/
theorem Around.walkAll_sublist {given drawn : List Node} (h : Around given drawn) :
    (walkAll given).Sublist (walkAll drawn) := by
  induction h with
  | nil => exact List.Sublist.refl _
  | kept _ ih => exact (List.Sublist.refl _).append ih
  | own _ _ _ ihw ih =>
    rw [walkAll_append, walkAll, walk_eq]
    exact (ihw.cons _).append ih

end Node

namespace Build

open LivePanel.Expr (Alone Cut Splices Means IsPath)
open Text (Trims)

/-! ### The nodes of components -/

/-- A component gets a node among those that are drawn of components, and no diagnostic in its
place. Nothing is left of the nodes below one whose block fails. -/
inductive Appears (ctx : Context σ) : List Component → σ → Component → Node → Prop where
  | here {c : Component} {rest : List Component} {s : σ} {n : Node}
      (hc : hides ctx.scope c.condition = false) (hs : stands ctx c s = true)
      (hn : (node ctx c ⟨{}, s⟩).1 = some n) : Appears ctx (c :: rest) s c n
  | inside {c d : Component} {rest : List Component} {s : σ} {n : Node}
      (hc : hides ctx.scope c.condition = false) (hs : stands ctx c s = true)
      (h : Appears ctx c.children s d n) : Appears ctx (c :: rest) s d n
  | later {c d : Component} {rest : List Component} {s : σ} {n : Node}
      (h : Appears ctx rest (node ctx c ⟨{}, s⟩).2.world d n) : Appears ctx (c :: rest) s d n

section

variable {ctx : Context σ}

/-- A block that draws is registered and lacks no input. -/
theorem exists_fitting {block : String} {props : Table Value} {children : List Component} {s : σ}
    (h : renders ctx block props children s = true) : ∃ b, fitting? ctx block props = some b := by
  cases hf : fitting? ctx block props with
  | none => simp [renders, hf] at h
  | some b => exact ⟨b, rfl⟩

theorem opens_of_stands {c : Component} {s : σ} (h : stands ctx c s = true) :
    opens ctx c = true := by
  rw [stands] at h
  rw [opens]
  cases hb : c.block? with
  | none => rfl
  | some block =>
    rw [hb] at h
    obtain ⟨b, hf⟩ := exists_fitting h
    simp [hf]

/-- What stands for a component is a node with its icons, around what is drawn below. -/
theorem node_of_stands {c : Component} {s : σ} (hc : hides ctx.scope c.condition = false)
    (hs : stands ctx c s = true) :
    ∃ n, (node ctx c ⟨{}, s⟩).1 = some (dressed ctx.scope c n) ∧
      (ctx.registry.KeepsChildren →
        Node.Around (nodes ctx c.children ⟨{}, s⟩).1 n.children) := by
  rw [stands] at hs
  cases hb : c.block? with
  | none =>
    obtain ⟨d, -, hw⟩ := node_of_group hc hb ⟨{}, s⟩
    have halike := alike_nodes (w := ⟨d, s⟩) (v := ⟨{}, s⟩) ctx c.children rfl
    refine ⟨.group (interpolated ctx.scope c.props) (nodes ctx c.children ⟨{}, s⟩).1, ?_,
      fun _ => Node.around_refl _⟩
    rw [hw]
    dsimp only
    rw [(decorate_eq ctx c _ _).1, halike.result]
  | some block =>
    rw [hb] at hs
    obtain ⟨b, hf⟩ := exists_fitting hs
    obtain ⟨d, -, hw⟩ := node_of_fitting hc hb hf ⟨{}, s⟩
    have halike := alike_nodes (w := ⟨d, s⟩) (v := ⟨{}, s⟩) ctx c.children rfl
    simp only [renders, hf] at hs
    rw [hw]
    dsimp only [draw]
    rw [halike.result, halike.world]
    cases hd : b.render (interpolated ctx.scope c.props) (nodes ctx c.children ⟨{}, s⟩).1
      (nodes ctx c.children ⟨{}, s⟩).2.world with
    | mk out s' =>
      cases out with
      | error f =>
        rw [hd] at hs
        cases hs
      | ok n =>
        exact ⟨{ n with block := some (n.block.getD block) },
          congrArg some (decorate_eq ctx c _ _).1,
          fun hr => (hr _ _ (fitting?_eq_some.1 hf).1 _ _ _ _ _ hd).2⟩

/-- Where blocks keep their children, what appears is somewhere in what is drawn. -/
theorem Appears.mem_walkAll (hr : ctx.registry.KeepsChildren) {cs : List Component} {s : σ}
    {c : Component} {n : Node} (h : Appears ctx cs s c n) :
    n ∈ Node.walkAll (nodes ctx cs ⟨{}, s⟩).1 := by
  induction h with
  | here hc hs hn =>
    rw [nodes_cons, hn, Option.toList_some, List.singleton_append, Node.walkAll, Node.walk_eq]
    exact List.mem_append_left _ (List.mem_cons_self ..)
  | inside hc hs _ ih =>
    obtain ⟨m, hm, haround⟩ := node_of_stands hc hs
    rw [nodes_cons, hm, Option.toList_some, List.singleton_append, Node.walkAll, Node.walk_eq]
    exact List.mem_append_left _
      (List.mem_cons_of_mem _ ((haround hr).walkAll_sublist.subset ih))
  | @later c d rest s n _ ih =>
    have halike := alike_nodes (w := (node ctx c ⟨{}, s⟩).2)
      (v := ⟨{}, (node ctx c ⟨{}, s⟩).2.world⟩) ctx rest rfl
    rw [nodes_cons, Node.walkAll_append, halike.result]
    exact List.mem_append_right _ ih

/-- The colours of what appears are interpolated. -/
theorem Appears.mem_textsAll {cs : List Component} {s : σ} {c : Component} {n : Node}
    (h : Appears ctx cs s c n) {icon : Icon} (hicon : icon ∈ c.icons) {text : String}
    (hcolor : icon.color = some text) :
    (Location.text c.location, .str text) ∈ textsAll ctx cs s := by
  induction h with
  | @here c rest s n hc hs =>
    rw [textsAll, texts_eq, if_neg (by simp [hc]), if_pos hs]
    refine List.mem_append_left _ (List.mem_append_right _ (List.mem_filterMap.2 ⟨icon, hicon, ?_⟩))
    rw [hcolor]
    rfl
  | @inside c d rest s n hc hs _ ih =>
    rw [textsAll, texts_eq, if_neg (by simp [hc]), if_pos (opens_of_stands hs)]
    exact List.mem_append_left _ (List.mem_append_left _ (List.mem_append_right _ (ih hicon)))
  | later _ ih =>
    rw [textsAll]
    exact List.mem_append_right _ (ih hicon)

theorem Appears.icons_eq {cs : List Component} {s : σ} {c : Component} {n : Node}
    (h : Appears ctx cs s c n) : ∃ own, n.icons = own ++ c.icons.map (tinted ctx.scope) := by
  induction h with
  | here hc hs hn =>
    obtain ⟨m, hm, -⟩ := node_of_stands hc hs
    obtain rfl := Option.some.inj (hn.symm.trans hm)
    exact ⟨m.icons, rfl⟩
  | inside _ _ _ ih => exact ih
  | later _ ih => exact ih

end

/-- Where blocks keep their children and the one at the root draws, the nodes of components are in
the panel. -/
theorem mem_walk_root {o : Options} {r : Registry σ} {t : Template} {host : Value}
    {problems : List SyntaxProblem} {s : σ} (hr : r.KeepsChildren)
    (hroot : renders ⟨r, scopeOf t host⟩ t.bootstrap.block t.bootstrap.props t.components s = true)
    {n : Node} (hn : n ∈ Node.walkAll (nodes ⟨r, scopeOf t host⟩ t.components ⟨{}, s⟩).1) :
    n ∈ (template o r t host problems s).1.root.walk := by
  have hb := builds_template o r t host problems s
  generalize (template o r t host problems s).1 = a at hb
  generalize hctx : Context.mk r (scopeOf t host) = ctx at hb hroot hn
  have hr : ctx.registry.KeepsChildren := hctx ▸ hr
  have halike {w₁ : Work σ} (hw : w₁.world = s) :
      Alike (nodes ctx t.components w₁) (nodes ctx t.components ⟨{}, s⟩) :=
    alike_nodes ctx t.components hw
  -- the block at the root draws, so of all that may become of the template only the last is left
  obtain ⟨b₀, hf⟩ := exists_fitting hroot
  obtain ⟨hres₀, hl₀⟩ := fitting?_eq_some.1 hf
  cases hb with
  | unregistered hres => cases hres.symm.trans hres₀
  | lacking hres hl =>
    cases hres.symm.trans hres₀
    cases hl.symm.trans hl₀
  | @fault w₁ s' b f ws hres hl hq hd =>
    rw [(halike hq.world).result, (halike hq.world).world] at hd
    rw [renders, fitting?_eq_some.2 ⟨hres, hl⟩] at hroot
    dsimp only at hroot
    rw [hd] at hroot
    cases hroot
  | @drawn w₁ s' b m us ws hres hl hq hd =>
    rw [(halike hq.world).result] at hd
    rw [Node.walk_eq]
    exact List.mem_cons_of_mem _ ((hr _ _ hres _ _ _ _ _ hd).2.walkAll_sublist.subset hn)

/-! ### What is told of a colour -/

/-- There is a warning for the token. -/
def WarnedOf (scope : Expr.Scope) (warnings : List Warning) (tok : Expr.Token) : Prop :=
  ∃ body path : String, Trims tok.run body.toList ∧
    (IsPath body.toList ∧ scope.resolve? body = none ∧ .unresolvedPath body path ∈ warnings ∨
      ¬ IsPath body.toList ∧ .invalidExpression body path "not a state path" ∈ warnings)

/-- The colour is the one declared with the tokens that mean a value replaced by its text, and there
are warnings for the others. -/
def Tells (scope : Expr.Scope) (warnings : List Warning) (declared colour : String) : Prop :=
  ∃ toks tail out, Cut declared.toList toks tail ∧ Splices scope tail toks out ∧
    colour = String.ofList out ∧
    ∀ tok ∈ toks, (∀ v, ¬ Means scope tok.run v) → WarnedOf scope warnings tok

/-- The icon is the one declared, but for its colour; and that tells of its tokens, unless the one
declared is no more than a token for a value that is no text. -/
structure Tinted (scope : Expr.Scope) (warnings : List Warning) (declared icon : Icon) : Prop where
  others : icon = { declared with color := icon.color }
  colourless : declared.color = none → icon.color = none
  tells : ∀ text, declared.color = some text →
    (∀ v, Alone scope text v → ∃ str, v = .str str) →
      ∃ colour, icon.color = some colour ∧ Tells scope warnings text colour

theorem Tells.eq {scope : Expr.Scope} {warnings : List Warning} {declared colour : String}
    (h : Tells scope warnings declared colour) :
    colour = String.ofList ((Expr.pieces declared.toList).flatMap (Expr.Piece.text scope)) := by
  obtain ⟨toks, tail, out, hcut, hout, rfl, -⟩ := h
  rw [Expr.pieces_of_cut hcut, Expr.splices_iff.1 hout]

/-- A colour that is no more than a token for a value that is no text stays as it is, and nothing is
noted. -/
theorem colour_of_alone {scope : Expr.Scope} {text : String} {v : Value} (h : Alone scope text v)
    (hv : ∀ str, v ≠ .str str) (d : Draft) (path : String) :
    d.colour scope path (some text) = (some text, d) := by
  obtain ⟨run, hs, hrun, hmeans⟩ := h
  have hout : Expr.interpolateText scope text = ⟨v, {}⟩ := by
    rw [Expr.interpolateText, Expr.pieces_eq_token_iff.2 ⟨run, hs, hrun, rfl, rfl⟩]
    dsimp only
    rw [Expr.outcome_eq_resolved_iff.2 hmeans]
  have hstr : v.asStr? = none := by
    cases v with
    | str s => exact absurd rfl (hv s)
    | _ => rfl
  simp only [Draft.colour, hout, hstr]
  rfl

section

variable (o : Options) (r : Registry σ) (t : Template) (host : Value)
  (problems : List SyntaxProblem) (s : σ)

/-- What a text leaves as it is is warned of. -/
theorem warnedOf_of_not_means {path text : String}
    (hx : (path, .str text) ∈ panelTexts ⟨r, scopeOf t host⟩ t s)
    {toks : List Expr.Token} {tail : List Char} (hcut : Cut text.toList toks tail)
    {tok : Expr.Token} (htok : tok ∈ toks) (h : ∀ v, ¬ Means (scopeOf t host) tok.run v) :
    WarnedOf (scopeOf t host) (template o r t host problems s).1.warnings tok := by
  obtain ⟨body, htrims, ⟨hmem, hpath, hnone⟩ | ⟨hmem, hpath⟩⟩ :=
    Expr.noted_of_not_means hcut htok h
  · obtain ⟨w, hw, habout⟩ := exists_warning o r t host problems s .missing body hx
      (by simp [Kind.noted, Expr.interpolate, hmem])
    obtain ⟨path', rfl⟩ := Kind.about?_missing habout
    exact ⟨body, path', htrims, .inl ⟨hpath, hnone, hw⟩⟩
  · obtain ⟨w, hw, habout⟩ := exists_warning o r t host problems s .invalid body hx
      (by simp [Kind.noted, Expr.interpolate, hmem])
    obtain ⟨path', rfl⟩ := Kind.about?_invalid habout
    exact ⟨body, path', htrims, .inr ⟨hpath, hw⟩⟩

theorem tinted_of_mem_panelTexts {path : String} {icon : Icon}
    (hx : ∀ text, icon.color = some text →
      (path, .str text) ∈ panelTexts ⟨r, scopeOf t host⟩ t s) :
    Tinted (scopeOf t host) (template o r t host problems s).1.warnings icon
      (tinted (scopeOf t host) icon) := by
  refine ⟨rfl, fun hnone => by rw [tinted, hnone]; rfl, fun text hcolor hstr => ?_⟩
  obtain ⟨toks, tail, hcut⟩ := Expr.exists_cut text.toList
  have hvalue := Expr.interpolateText_of_str hstr
  rw [Expr.pieces_of_cut hcut] at hvalue
  refine ⟨_, ?_, toks, tail, _, hcut, Expr.splices_iff.2 rfl, rfl, fun tok htok =>
    warnedOf_of_not_means o r t host problems s (hx text hcolor) hcut htok⟩
  rw [tinted, hcolor, Option.map_some, hvalue]
  rfl

end

/-- **The icons of what appears have the colours declared, and tell of their tokens.** -/
theorem colours_told (o : Options) (r : Registry σ) (t : Template) (host : Value)
    (problems : List SyntaxProblem) (s : σ)
    (hroot : renders ⟨r, scopeOf t host⟩ t.bootstrap.block t.bootstrap.props t.components s = true)
    {c : Component} {n : Node} (h : Appears ⟨r, scopeOf t host⟩ t.components s c n) :
    let a := (template o r t host problems s).1
    (∃ own icons, n.icons = own ++ icons ∧
      List.Forall₂ (Tinted (scopeOf t host) a.warnings) c.icons icons) ∧
    (r.KeepsChildren → n ∈ a.root.walk) := by
  intro a
  refine ⟨?_, fun hr => mem_walk_root hr hroot (h.mem_walkAll hr)⟩
  obtain ⟨own, hicons⟩ := h.icons_eq
  obtain ⟨b, hf⟩ := exists_fitting hroot
  have htexts {icon : Icon} (hicon : icon ∈ c.icons) {text : String}
      (hcolor : icon.color = some text) :
      (Location.text c.location, .str text) ∈ panelTexts ⟨r, scopeOf t host⟩ t s := by
    rw [panelTexts, hf]
    exact List.mem_append_right _ (h.mem_textsAll hicon hcolor)
  exact ⟨own, _, hicons, List.forall₂_map_right_iff.2 <| List.forall₂_same.2 fun icon hicon =>
    tinted_of_mem_panelTexts o r t host problems s fun _ => htexts hicon⟩

/-- Of three colours one has a token that becomes a number, one has a path that leads nowhere, and
one has neither. -/
theorem colours_told_three_icons :
    let r : Registry Unit := [("panel", .element (.ofId "panel")), ("row", .element (.ofId "row"))]
    let row : Component :=
      { location := [0], kind := .leaf "row", icons :=
          [{ block := "row", color := "no. \x7b\x7b state.n \x7d\x7d" },
            { block := "row", color := "\x7b\x7b state.x \x7d\x7d" },
            { block := "row", color := "red" }] }
    let t : Template :=
      { name := "a", version := Template.defaultVersion, bootstrap := ⟨"panel", []⟩,
        state := .obj [("n", .ofNat 3)], components := [row] }
    let a := (template {} r t (.obj []) [] ()).1
    ∃ n, Appears ⟨r, scopeOf t (.obj [])⟩ t.components () row n ∧
      n.icons.map (·.color) =
        [some "no. 3", some "\x7b\x7b state.x \x7d\x7d", some "red"] ∧
      a.warnings = [.unresolvedPath "state.x" "components[0]"] ∧
      (∃ own icons, n.icons = own ++ icons ∧
        List.Forall₂ (Tinted (scopeOf t (.obj [])) a.warnings) row.icons icons) ∧
      n ∈ a.root.walk := by
  intro r row t a
  have hr : r.KeepsChildren :=
    ((Registry.elemental_nil.put (Block.elemental_element (.ofId "panel"))).put
      (Block.elemental_element (.ofId "row"))).keepsChildren
  have hdrawn : ((node ⟨r, scopeOf t (.obj [])⟩ row ⟨{}, ()⟩).1.map fun n =>
      n.icons.map (·.color)) =
        some [some "no. 3", some "\x7b\x7b state.x \x7d\x7d", some "red"] := by
    decide +kernel
  obtain ⟨n, hn, hicons⟩ := Option.map_eq_some_iff.1 hdrawn
  have happears : Appears ⟨r, scopeOf t (.obj [])⟩ t.components () row n :=
    .here (by decide +kernel) (by decide +kernel) hn
  obtain ⟨htinted, hwalk⟩ :=
    colours_told {} r t (.obj []) [] () (by decide +kernel) happears
  exact ⟨n, happears, hicons, by decide +kernel, htinted, hwalk hr⟩

/-- The token means a number, and the colour is still the token; nothing is warned of. -/
theorem colour_untold :
    let r : Registry Unit := [("panel", .element (.ofId "panel")), ("row", .element (.ofId "row"))]
    let row : Component :=
      { location := [0], kind := .leaf "row",
        icons := [{ block := "row", color := "\x7b\x7b state.n \x7d\x7d" }] }
    let t : Template :=
      { name := "a", version := Template.defaultVersion, bootstrap := ⟨"panel", []⟩,
        state := .obj [("n", .ofNat 3)], components := [row] }
    let a := (template {} r t (.obj []) [] ()).1
    ∃ n, Appears ⟨r, scopeOf t (.obj [])⟩ t.components () row n ∧ n ∈ a.root.walk ∧
      n.icons = row.icons ∧ a.warnings = [] ∧
      Alone (scopeOf t (.obj [])) "\x7b\x7b state.n \x7d\x7d" (.ofNat 3) ∧
      ¬ Tells (scopeOf t (.obj [])) a.warnings "\x7b\x7b state.n \x7d\x7d"
        "\x7b\x7b state.n \x7d\x7d" := by
  intro r row t a
  have hr : r.KeepsChildren :=
    ((Registry.elemental_nil.put (Block.elemental_element (.ofId "panel"))).put
      (Block.elemental_element (.ofId "row"))).keepsChildren
  have hdrawn :
      (node ⟨r, scopeOf t (.obj [])⟩ row ⟨{}, ()⟩).1.map (·.icons) = some row.icons := by
    decide +kernel
  obtain ⟨n, hn, hicons⟩ := Option.map_eq_some_iff.1 hdrawn
  have happears : Appears ⟨r, scopeOf t (.obj [])⟩ t.components () row n :=
    .here (by decide +kernel) (by decide +kernel) hn
  refine ⟨n, happears, mem_walk_root hr (by decide +kernel) (happears.mem_walkAll hr), hicons,
    by decide +kernel, ?_, ?_⟩
  · exact ⟨" state.n ".toList, by decide +kernel, ⟨by decide +kernel, by decide +kernel⟩,
      Expr.outcome_eq_resolved_iff.1 rfl⟩
  · intro h
    exact absurd h.eq (by decide +kernel)

end Build

end LivePanel
