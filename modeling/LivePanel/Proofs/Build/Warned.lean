import LivePanel.Proofs.Build.Sights

/-!
# What is warned of once

A build warns of a path that does not resolve, of a token that is no path and of a deprecated block
once each, however often it comes across them. `textsAll` tells from the template which texts are
interpolated, in order: the props of a component before the texts below it, and the colours of its
icons after them. It passes over what is hidden, over the props of a component whose block is not
registered, over the children of one whose block lacks an input as well, and over the icons where a
diagnostic stands in a component's place.

`warned_once`: for each path that some of these texts leaves unresolved there is one warning, and it
names the place of the first of them; so it is with the tokens that are no paths, and for each
deprecated block among those that are met (`panelBlocks`) there is one warning. There are no others
of these kinds.

Three lists of a draft stand behind this, one for each kind. `Raises` says what one step does to the
warnings of a kind and to its list together; it holds of the steps that warn, and with them of any
that are done one after the other.
-/

namespace LivePanel.Build

variable {σ : Type}

/-! ### The texts that are interpolated -/

mutual
/-- The texts that a build interpolates in a component, with the places that it reports them at. -/
def texts (ctx : Context σ) (c : Component) (s : σ) : List (String × Value) :=
  match c with
  | ⟨location, kind, condition, props, bindings, icons, children⟩ =>
    let c : Component := ⟨location, kind, condition, props, bindings, icons, children⟩
    let path := Location.text location
    if hides ctx.scope condition then []
    else
      (if kind.block?.all (registered ctx) then [(path, .obj props)] else []) ++
        (if opens ctx c then textsAll ctx children s else []) ++
          if stands ctx c s then
            icons.filterMap fun icon => icon.color.map fun color => (path, .str color)
          else []

/-- The texts that a build interpolates in components, in order. -/
def textsAll (ctx : Context σ) (cs : List Component) (s : σ) : List (String × Value) :=
  match cs with
  | [] => []
  | c :: rest => texts ctx c s ++ textsAll ctx rest (node ctx c ⟨{}, s⟩).2.world
end

/-- The texts that a build interpolates in a template, the props of the block at the root first. -/
def panelTexts (ctx : Context σ) (t : Template) (s : σ) : List (String × Value) :=
  (if registered ctx t.bootstrap.block then [(bootstrapPath, .obj t.bootstrap.props)] else []) ++
    if (fitting? ctx t.bootstrap.block t.bootstrap.props).isSome then
      textsAll ctx t.components s
    else []

/-- The blocks that a build meets in a template, the one at the root first. -/
def panelBlocks (ctx : Context σ) (t : Template) (s : σ) : List String :=
  t.bootstrap.block ::
    if (fitting? ctx t.bootstrap.block t.bootstrap.props).isSome then metAll ctx t.components s
    else []

theorem texts_eq (ctx : Context σ) (c : Component) (s : σ) :
    texts ctx c s =
      if hides ctx.scope c.condition then []
      else
        (if c.block?.all (registered ctx) then [(Location.text c.location, .obj c.props)] else []) ++
          (if opens ctx c then textsAll ctx c.children s else []) ++
            if stands ctx c s then
              c.icons.filterMap fun icon =>
                icon.color.map fun color => (Location.text c.location, .str color)
            else [] := by
  obtain ⟨location, kind, condition, props, bindings, icons, children⟩ := c
  rw [texts]
  rfl

/-! ### Some of what a build comes across -/

/-- The text that is interpolated, and the place that it is reported at. -/
def Sight.text? : Sight → Option (String × Value)
  | text path value => some (path, value)
  | _ => none

/-- The block that is met. -/
def Sight.block? : Sight → Option String
  | block _ id => some id
  | icon _ id => some id
  | _ => none

theorem filterMap_cons_toList {α β : Type} (f : α → Option β) (x : α) (xs : List α) :
    (x :: xs).filterMap f = (f x).toList ++ xs.filterMap f := by
  cases h : f x with
  | none => rw [List.filterMap_cons_none h]; rfl
  | some y => rw [List.filterMap_cons_some h]; rfl

section

variable {ctx : Context σ} {α : Type} {f : Sight → Option α}
  (hcondition : ∀ path text, f (.condition path text) = none)
  (hlack : ∀ path block prop, f (.lack path block prop) = none)
  (hfault : ∀ path block message, f (.fault path block message) = none)

include hlack hfault in
theorem filterMap_blockSights (path block : String) (props : Table Value)
    (children : List Component) (s : σ) (below following : List Sight) :
    (blockSights ctx path block props children s below following).filterMap f =
      (f (.block path block)).toList ++
        (if registered ctx block then (f (.text path (.obj props))).toList else []) ++
          (if (fitting? ctx block props).isSome then below.filterMap f else []) ++
            if renders ctx block props children s then following.filterMap f else [] := by
  rw [blockSights, filterMap_cons_toList, List.append_assoc, List.append_assoc]
  congr 1
  cases hr : ctx.registry.resolve? block with
  | none => simp [registered, fitting?, renders, hr]
  | some b =>
    simp only [registered, hr, Option.isSome_some, if_true, filterMap_cons_toList]
    congr 1
    cases hl : lacking? b.metadata (interpolated ctx.scope props) with
    | some prop =>
      have hf : fitting? ctx block props = none := by simp [fitting?, hr, hl]
      simp [renders, hf, hlack]
    | none =>
      have hf : fitting? ctx block props = some b := fitting?_eq_some.2 ⟨hr, hl⟩
      simp only [renders, hf, Option.isSome_some, if_true, List.filterMap_append]
      congr 1
      generalize (b.render (interpolated ctx.scope props) _ _).1 = drawn
      cases drawn with
      | error fault => simp [hfault, Except.isOk, Except.toBool]
      | ok n => rfl

include hcondition hlack hfault in
/-- What is picked out of the sights of a component. -/
theorem filterMap_sights (c : Component) (s : σ) :
    (sights ctx c s).filterMap f =
      if hides ctx.scope c.condition then []
      else
        (c.block?.bind fun block => f (.block (Location.text c.location) block)).toList ++
          (if c.block?.all (registered ctx) then
            (f (.text (Location.text c.location) (.obj c.props))).toList else []) ++
            (if opens ctx c then (sightsAll ctx c.children s).filterMap f else []) ++
              if stands ctx c s then
                (iconSights (Location.text c.location) c.icons).filterMap f
              else [] := by
  have hnone : (c.condition.map (Sight.condition (Location.text c.location))).toList.filterMap f =
      [] := by
    cases c.condition <;> simp [hcondition]
  rw [sights_eq, List.filterMap_append, hnone, List.nil_append]
  split
  · rfl
  · rw [opens, stands]
    cases c.block? with
    | none => simp [filterMap_cons_toList]
    | some block => exact filterMap_blockSights hlack hfault ..

end

/-- The texts of the sights are those that are interpolated. -/
theorem filterMap_text? (ctx : Context σ) (cs : List Component) (s : σ) :
    (sightsAll ctx cs s).filterMap Sight.text? = textsAll ctx cs s := by
  have hicons (path : String) (icons : List Icon) : (iconSights path icons).filterMap Sight.text? =
      icons.filterMap fun icon => icon.color.map fun color => (path, .str color) := by
    induction icons with
    | nil => rfl
    | cons icon rest ih =>
      rw [iconSights, filterMap_cons_toList, List.cons_append, filterMap_cons_toList,
        List.filterMap_append, ih]
      cases icon.color <;> rfl
  induction cs using Component.forest_induction generalizing s with
  | nil => rw [sightsAll_nil, textsAll]; rfl
  | cons c rest ihc ihr =>
    rw [sightsAll_cons, textsAll, List.filterMap_append, ihr, texts_eq,
      filterMap_sights (fun _ _ => rfl) (fun _ _ _ => rfl) (fun _ _ _ => rfl), ihc, hicons]
    cases c.block? <;> rfl

/-- The blocks of the sights are those that are met. -/
theorem filterMap_block? (ctx : Context σ) (cs : List Component) (s : σ) :
    (sightsAll ctx cs s).filterMap Sight.block? = metAll ctx cs s := by
  have hicons (path : String) (icons : List Icon) : (iconSights path icons).filterMap Sight.block? =
      icons.map (·.block) := by
    induction icons with
    | nil => rfl
    | cons icon rest ih =>
      rw [iconSights, List.cons_append, filterMap_cons_toList, List.filterMap_append, ih]
      cases icon.color <;> rfl
  induction cs using Component.forest_induction generalizing s with
  | nil => rw [sightsAll_nil, metAll]; rfl
  | cons c rest ihc ihr =>
    rw [sightsAll_cons, metAll_cons, List.filterMap_append, ihr, met_eq,
      filterMap_sights (fun _ _ => rfl) (fun _ _ _ => rfl) (fun _ _ _ => rfl), ihc, hicons]
    cases c.block? <;> simp [Sight.block?]

theorem panelTexts_eq (ctx : Context σ) (t : Template) (s : σ) :
    panelTexts ctx t s = (panelSights ctx t s).filterMap Sight.text? := by
  rw [panelTexts, panelSights, filterMap_blockSights (fun _ _ _ => rfl) (fun _ _ _ => rfl),
    filterMap_text?]
  simp [Sight.text?]

theorem panelBlocks_eq (ctx : Context σ) (t : Template) (s : σ) :
    panelBlocks ctx t s = (panelSights ctx t s).filterMap Sight.block? := by
  rw [panelBlocks, panelSights, filterMap_blockSights (fun _ _ _ => rfl) (fun _ _ _ => rfl),
    filterMap_block?]
  simp [Sight.block?]

/-! ### Kinds of warnings that come once -/

/-- The kinds of warnings that are given once for each expression or block. -/
inductive Kind where
  | missing
  | invalid
  | deprecated
deriving DecidableEq

namespace Kind

/-- What a warning of the kind is about. -/
def about? : Kind → Warning → Option String
  | missing, .unresolvedPath expression _ => some expression
  | invalid, .invalidExpression expression _ message =>
    if message = "not a state path" then some expression else none
  | deprecated, .deprecatedCapability block _ => some block
  | _, _ => none

theorem about?_missing {w : Warning} {key : String} (h : missing.about? w = some key) :
    ∃ path, w = .unresolvedPath key path := by
  cases w with
  | unresolvedPath expression path => exact ⟨path, by rw [Option.some.inj h]⟩
  | _ => cases h

theorem about?_invalid {w : Warning} {key : String} (h : invalid.about? w = some key) :
    ∃ path, w = .invalidExpression key path "not a state path" := by
  cases w with
  | invalidExpression expression path message =>
    rw [about?] at h
    split at h
    · rename_i hmessage
      exact ⟨path, by rw [Option.some.inj h, hmessage]⟩
    · cases h
  | _ => cases h

/-- What a draft has warned of. -/
def seen : Kind → Draft → List String
  | missing => Draft.missing
  | invalid => Draft.invalid
  | deprecated => Draft.deprecated

/-- Put `key` in the list of what has been warned of. -/
def mark (k : Kind) (key : String) (d : Draft) : Draft :=
  match k with
  | missing => { d with missing := d.missing ++ [key] }
  | invalid => { d with invalid := d.invalid ++ [key] }
  | deprecated => { d with deprecated := d.deprecated ++ [key] }

/-- Warn of `key`, unless that has been done. -/
def once (k : Kind) (key : String) (w : Warning) (d : Draft) : Draft :=
  if key ∈ k.seen d then d else (k.mark key d).warn w

/-- The warnings of the kind that are about `key`. -/
def warnings (k : Kind) (key : String) (d : Draft) : List Warning :=
  d.warnings.filter fun w => k.about? w = some key

end Kind

/-- What one step does to the warnings of a kind and to the list of what has been warned of: it
warns of what it raises, unless that is in the list, and it puts all that it raises into the
list. -/
structure Raises (k : Kind) (f : Draft → Draft) (raised : String → Option Warning) : Prop where
  warnings : ∀ d key, k.warnings key (f d) =
    k.warnings key d ++ if key ∈ k.seen d then [] else (raised key).toList
  seen : ∀ d key, key ∈ k.seen (f d) ↔ key ∈ k.seen d ∨ (raised key).isSome = true

namespace Raises

variable {k : Kind} {f g : Draft → Draft} {raised raised' : String → Option Warning}

/-- A step that keeps the warnings and the list raises nothing. -/
theorem of_keeps (hw : ∀ d key, k.warnings key (f d) = k.warnings key d)
    (hs : ∀ d, k.seen (f d) = k.seen d) : Raises k f fun _ => none :=
  ⟨fun d key => by simp [hw], fun d key => by simp [hs]⟩

theorem comp (hf : Raises k f raised) (hg : Raises k g raised') :
    Raises k (fun d => g (f d)) fun key => (raised key).or (raised' key) := by
  constructor
  · intro d key
    have hseen := hf.seen d key
    rw [hg.warnings, hf.warnings]
    cases hr : raised key with
    | none => simp_all
    | some w => simp_all
  · intro d key
    rw [hg.seen, hf.seen]
    cases raised key <;> simp

theorem foldl {α : Type} {f : Draft → α → Draft} {raised : α → String → Option Warning}
    (h : ∀ x, Raises k (f · x) (raised x)) (xs : List α) :
    Raises k (fun d => xs.foldl f d) fun key => xs.findSome? (raised · key) := by
  induction xs with
  | nil => exact of_keeps (fun _ _ => rfl) fun _ => rfl
  | cons x xs ih =>
    have hcons : (fun key => (x :: xs).findSome? (raised · key)) =
        fun key => (raised x key).or (xs.findSome? (raised · key)) := by
      funext key
      rw [List.findSome?_cons]
      cases raised x key <;> rfl
    rw [hcons]
    exact (h x).comp ih

/-- To warn once raises the warning, for the kind that it is of and for what it is about. -/
theorem once {k j : Kind} {key : String} {w : Warning}
    (hw : k.about? w = if j = k then some key else none) :
    Raises k (j.once key w) fun key' => if j = k ∧ key' = key then some w else none := by
  have hwarnings (d : Draft) (key' : String) : k.warnings key' ((j.mark key d).warn w) =
      k.warnings key' d ++ if j = k ∧ key' = key then [w] else [] := by
    have hmark : (j.mark key d).warnings = d.warnings := by cases j <;> rfl
    rw [Kind.warnings, Draft.warn, hmark, List.filter_append, List.filter_singleton, hw]
    by_cases hj : j = k <;> by_cases hkey : key' = key <;> simp [Kind.warnings, hj, hkey, Ne.symm]
  have hseen (d : Draft) : k.seen ((j.mark key d).warn w) =
      k.seen d ++ if j = k then [key] else [] := by
    cases j <;> cases k <;> simp [Kind.seen, Kind.mark, Draft.warn]
  constructor
  · intro d key'
    rw [Kind.once]
    by_cases h : j = k ∧ key' = key
    · obtain ⟨rfl, rfl⟩ := h
      split <;> simp [*]
    · split <;> simp [hwarnings, h]
  · intro d key'
    rw [Kind.once]
    by_cases h : j = k ∧ key' = key
    · obtain ⟨rfl, rfl⟩ := h
      split <;> simp [*]
    · split <;> by_cases hj : j = k <;> simp_all

theorem foldl_once {k j : Kind} {w : String → Warning}
    (hw : ∀ key, k.about? (w key) = if j = k then some key else none) (es : List String) :
    Raises k (fun d => es.foldl (fun d e => j.once e (w e) d) d) fun key =>
      if j = k ∧ key ∈ es then some (w key) else none := by
  have hfind : (fun key => es.findSome? fun e => if j = k ∧ key = e then some (w e) else none) =
      fun key => if j = k ∧ key ∈ es then some (w key) else none := by
    funext key
    induction es with
    | nil => simp
    | cons e es ih =>
      rw [List.findSome?_cons, ih]
      by_cases hj : j = k <;> by_cases he : key = e <;> simp [hj, he]
  exact hfind ▸ foldl (fun e => once (hw e)) es

end Raises

/-! ### What is raised on the way -/

/-- The notice of a deprecated block. -/
def notice? (ctx : Context σ) (id : String) : Option String :=
  (ctx.registry.resolve? id).bind (·.metadata.deprecated)

/-- The warning of the kind about `key` that notes give rise to. -/
def Kind.noted (k : Kind) (path : String) (notes : Expr.Notes) (key : String) : Option Warning :=
  match k with
  | missing => if key ∈ notes.missing then some (.unresolvedPath key path) else none
  | invalid =>
    if key ∈ notes.invalid then some (.invalidExpression key path "not a state path") else none
  | deprecated => none

/-- The warning of the kind about `key` that a sight gives rise to. -/
def Kind.raised (k : Kind) (ctx : Context σ) (x : Sight) (key : String) : Option Warning :=
  match k with
  | deprecated => x.block?.bind fun id =>
    if key = id then (notice? ctx id).map (.deprecatedCapability id) else none
  | k => x.text?.bind fun text => k.noted text.1 (Expr.interpolate ctx.scope text.2).notes key

theorem raises_fail (k : Kind) (e : Error) : Raises k (·.fail e) fun _ => none :=
  .of_keeps (fun _ _ => rfl) fun _ => by cases k <;> rfl

theorem raises_warn {k : Kind} {w : Warning} (hw : k.about? w = none) :
    Raises k (·.warn w) fun _ => none :=
  .of_keeps (fun d key => by simp [Kind.warnings, Draft.warn, hw]) fun _ => by cases k <;> rfl

theorem raises_note (k : Kind) (path : String) (notes : Expr.Notes) :
    Raises k (·.note path notes) (k.noted path notes) := by
  have h := (Raises.foldl_once (k := k) (j := .missing) (w := (.unresolvedPath · path))
    (fun _ => by cases k <;> rfl) notes.missing).comp
      (Raises.foldl_once (k := k) (j := .invalid)
        (w := (.invalidExpression · path "not a state path")) (fun _ => by cases k <;> rfl)
        notes.invalid)
  have hnoted : k.noted path notes = fun key =>
      (if Kind.missing = k ∧ key ∈ notes.missing then some (.unresolvedPath key path)
        else none).or
          (if Kind.invalid = k ∧ key ∈ notes.invalid then
            some (.invalidExpression key path "not a state path") else none) := by
    funext key
    cases k <;> simp [Kind.noted]
  rw [hnoted]
  exact h

theorem raises_useBlock (k : Kind) (block : String) (m : Metadata) :
    Raises k (·.useBlock block m) fun key =>
      if .deprecated = k ∧ key = block then m.deprecated.map (.deprecatedCapability block)
      else none := by
  have hused : Raises k (fun d => { d with used := Template.addSeen d.used block }) fun _ => none :=
    .of_keeps (fun _ _ => rfl) fun _ => by cases k <;> rfl
  cases hm : m.deprecated with
  | none => simpa [Draft.useBlock, hm] using hused
  | some notice =>
    simp only [Draft.useBlock, hm]
    exact hused.comp (.once (j := .deprecated) (w := .deprecatedCapability block notice)
      (by cases k <;> rfl))

/-- A condition that cannot be read is not reported as a token. -/
theorem about?_fault (k : Kind) (text path : String) (e : Expr.SyntaxFault) :
    k.about? (.invalidExpression text path e.message) = none := by
  have hne : e.message ≠ "not a state path" := by
    intro h
    have hchars := congrArg String.toList h
    unfold Expr.SyntaxFault.message at hchars
    simp at hchars
  cases k with
  | invalid => rw [Kind.about?, if_neg hne]
  | _ => rfl

/-- **What a build comes across raises a warning of each kind at most once.** -/
theorem raises_see (k : Kind) (ctx : Context σ) (x : Sight) :
    Raises k (·.see ctx x) (k.raised ctx x) := by
  have hnone (h : x.text? = none) (h' : x.block? = none) : k.raised ctx x = fun _ => none := by
    funext key
    cases k <;> simp [Kind.raised, h, h']
  have hblock {id : String} (h : x.text? = none) (h' : x.block? = some id) : k.raised ctx x =
      fun key => if .deprecated = k ∧ key = id then
        (notice? ctx id).map (.deprecatedCapability id) else none := by
    funext key
    cases k <;> simp [Kind.raised, h, h']
  cases x with
  | condition path text =>
    rw [hnone rfl rfl]
    simp only [Draft.see, Draft.shows]
    cases Expr.evaluate ctx.scope text with
    | ok b => exact .of_keeps (fun _ _ => rfl) fun _ => rfl
    | error e => exact raises_warn (about?_fault k text path e)
  | block path id =>
    rw [hblock rfl rfl]
    simp only [Draft.see, notice?]
    cases ctx.registry.resolve? id with
    | none => simpa using raises_fail k _
    | some b => exact raises_useBlock k id b.metadata
  | icon path id =>
    rw [hblock rfl rfl]
    simp only [Draft.see, notice?]
    cases ctx.registry.resolve? id with
    | none => simpa using raises_warn (by cases k <;> rfl)
    | some b => exact raises_useBlock k id b.metadata
  | text path value =>
    have hnoted : k.raised ctx (.text path value) =
        k.noted path (Expr.interpolate ctx.scope value).notes := by
      funext key
      cases k <;> rfl
    exact hnoted ▸ raises_note k path _
  | lack path block prop => exact hnone rfl rfl ▸ raises_fail k _
  | fault path block message => exact hnone rfl rfl ▸ raises_fail k _

/-- The warnings of a kind about `key` are the first that is raised. -/
theorem warnings_told (k : Kind) (ctx : Context σ) (t : Template) (s : σ) (key : String) :
    k.warnings key (told ctx t s) =
      ((panelSights ctx t s).findSome? (k.raised ctx · key)).toList := by
  have h := (Raises.foldl (raises_see k ctx) (panelSights ctx t s)).warnings {} key
  have hseen : k.seen {} = [] := by cases k <;> rfl
  rw [hseen, if_neg List.not_mem_nil] at h
  exact h

/-! ### What is warned of -/

section

variable (o : Options) (r : Registry σ) (t : Template) (host : Value)
  (problems : List SyntaxProblem) (s : σ)

/-- Of the kinds that come once nothing is warned of before the first node. -/
theorem filter_about?_openingDraft (k : Kind) (key : String) :
    (openingDraft o t problems).warnings.filter (k.about? · = some key) = [] := by
  rw [List.filter_eq_nil_iff, openingDraft]
  split
  · exact List.forall_mem_map.2 fun _ _ => by cases k <;> simp [Kind.about?]
  · exact fun _ h => absurd h List.not_mem_nil

/-- The warning of a kind about `key` is the first that is raised. -/
theorem filter_about?_template (k : Kind) (key : String) :
    let ctx : Context σ := ⟨r, scopeOf t host⟩
    (template o r t host problems s).1.warnings.filter (k.about? · = some key) =
      ((panelSights ctx t s).findSome? (k.raised ctx · key)).toList := by
  rw [warnings_template, List.filter_append, filter_about?_openingDraft, List.nil_append]
  exact warnings_told k ⟨r, scopeOf t host⟩ t s key

/-- What a text leaves over is warned of, at that text or at one before it. -/
theorem exists_warning (k : Kind) (key : String) {path : String} {value : Value}
    (hx : (path, value) ∈ panelTexts ⟨r, scopeOf t host⟩ t s)
    (h : (k.noted path (Expr.interpolate (scopeOf t host) value).notes key).isSome = true) :
    ∃ w ∈ (template o r t host problems s).1.warnings, k.about? w = some key := by
  rw [panelTexts_eq, List.mem_filterMap] at hx
  obtain ⟨x, hx, htext⟩ := hx
  have hraised : (k.raised ⟨r, scopeOf t host⟩ x key).isSome = true := by
    cases k with
    | deprecated => cases h
    | missing | invalid =>
      simp only [Kind.raised, htext]
      exact h
  have hsome : ((panelSights ⟨r, scopeOf t host⟩ t s).findSome?
      (k.raised ⟨r, scopeOf t host⟩ · key)).isSome = true :=
    List.findSome?_isSome_iff.2 ⟨x, hx, hraised⟩
  obtain ⟨w, hw⟩ := Option.isSome_iff_exists.1 hsome
  have hmem : w ∈ (template o r t host problems s).1.warnings.filter (k.about? · = some key) := by
    rw [filter_about?_template, hw]
    exact List.mem_singleton.2 rfl
  exact ⟨w, List.mem_of_mem_filter hmem, by simpa using List.of_mem_filter hmem⟩

end

theorem findSome?_filterMap {α β γ : Type} (f : α → Option β) (g : β → Option γ) (xs : List α) :
    (xs.filterMap f).findSome? g = xs.findSome? fun x => (f x).bind g := by
  rw [← List.head?_filterMap, List.filterMap_filterMap, List.head?_filterMap]

theorem map_find? {α β : Type} (p : α → Bool) (f : α → β) (xs : List α) :
    (xs.find? p).map f = xs.findSome? fun x => if p x then some (f x) else none := by
  rw [← List.findSome?_guard, List.map_findSome?]
  congr 1
  funext x
  by_cases h : p x <;> simp [Option.guard, h]

/-- What is made of an element depends on the element alone, so it makes no difference which of
its occurrences is taken. -/
theorem findSome?_eq_of_mem {α β : Type} [DecidableEq α] (a : α) (f : α → Option β) (xs : List α) :
    (xs.findSome? fun x => if a = x then f x else none) = if a ∈ xs then f a else none := by
  induction xs with
  | nil => rfl
  | cons x xs ih =>
    rw [List.findSome?_cons, ih]
    by_cases h : a = x
    · subst h
      cases f a <;> simp
    · simp [h]

/-- **Each unresolved path, each token that is no path and each deprecated block is warned of
once.** -/
theorem warned_once (o : Options) (r : Registry σ) (t : Template) (host : Value)
    (problems : List SyntaxProblem) (s : σ) (key : String) :
    let ctx : Context σ := ⟨r, scopeOf t host⟩
    let warnings := (template o r t host problems s).1.warnings
    (warnings.filter (Kind.missing.about? · = some key) =
      (((panelTexts ctx t s).find? fun x =>
        key ∈ (Expr.interpolate ctx.scope x.2).notes.missing).map fun x =>
          .unresolvedPath key x.1).toList) ∧
    (warnings.filter (Kind.invalid.about? · = some key) =
      (((panelTexts ctx t s).find? fun x =>
        key ∈ (Expr.interpolate ctx.scope x.2).notes.invalid).map fun x =>
          .invalidExpression key x.1 "not a state path").toList) ∧
    warnings.filter (Kind.deprecated.about? · = some key) =
      if key ∈ panelBlocks ctx t s then
        ((notice? ctx key).map (.deprecatedCapability key)).toList
      else [] := by
  intro ctx warnings
  have hnoted {g : String × Value → Bool} {w : String × Value → Warning} (k : Kind)
      (hk : ∀ x, k.raised ctx x key = x.text?.bind fun x => if g x then some (w x) else none) :
      warnings.filter (k.about? · = some key) =
        (((panelTexts ctx t s).find? g).map w).toList := by
    rw [filter_about?_template, map_find?, panelTexts_eq, findSome?_filterMap]
    exact congrArg (Option.toList <| List.findSome? · _) (funext hk)
  refine ⟨hnoted .missing fun x => ?_, hnoted .invalid fun x => ?_, ?_⟩
  · simp only [decide_eq_true_iff]
    rfl
  · simp only [decide_eq_true_iff]
    rfl
  · have hraised : (Kind.deprecated.raised ctx · key) = fun x => x.block?.bind fun id =>
        if key = id then (notice? ctx id).map (.deprecatedCapability id) else none := rfl
    rw [filter_about?_template, hraised, ← findSome?_filterMap, ← panelBlocks_eq,
      findSome?_eq_of_mem]
    split <;> rfl

/-- The component names a path that the block at the root has named before it. -/
example :
    let missing : Value := .str "\x7b\x7b state.x \x7d\x7d"
    let sum : Value := .str "\x7b\x7b 1 + 1 \x7d\x7d"
    let t : Template :=
      { name := "a", version := Template.defaultVersion
        bootstrap := ⟨"panel", [("title", missing)]⟩
        components := [{ location := [0], kind := .container none
                         props := [("first", missing), ("second", sum)] }] }
    let r : Registry Unit := [("panel", .element (.ofId "panel"))]
    (template {} r t (.obj []) [] ()).1.warnings =
      [.unresolvedPath "state.x" "bootstrap",
        .invalidExpression "1 + 1" "components[0]" "not a state path"] := by
  decide +kernel

end LivePanel.Build
