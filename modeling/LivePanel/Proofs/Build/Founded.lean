import LivePanel.Command.Workplace
import LivePanel.Proofs.Build.Drawing
import LivePanel.Proofs.Template.Kept
import LivePanel.Template.Analysis

/-!
# When there is a template

Whether there is a template in a text is decided by its name and its bootstrap alone. The other
parts of the document are read whatever they are, and can only add problems. A part that decides
notes a problem wherever it gives nothing, so a text without a template is never without a problem;
and since a build starts with the problems of its text, a build without errors is one of a text that
has a template and no problem.

## What is proved

* `decides_nameField`, `decides_bootstrapField`: what the deciding parts need, and that nothing is
  missing without a problem.
* `prefix_problems_text`: a build reports the problems of its text.
* `template_iff_founded`: there is a template exactly if the document is founded, and what is valid
  for a build is valid for the analysis.
-/

namespace LivePanel

/-- A reader gives something exactly under a condition, and notes a problem where it gives
nothing. -/
structure Noted.Decides {α : Type} (x : Noted (Option α)) (p : Prop) : Prop where
  isSome_iff : x.value.isSome = true ↔ p
  noted : x.value = none → x.problems ≠ []

namespace Noted.Decides

variable {α : Type} {p : Prop}

theorem clean {a : α} (h : p) : (Noted.clean (some a)).Decides p where
  isSome_iff := iff_of_true rfl h
  noted h' := nomatch h'

theorem problem {path message : String} (h : ¬ p) :
    (Noted.problem path message (none : Option α)).Decides p where
  isSome_iff := iff_of_false (fun h' => nomatch h') h
  noted _ := List.cons_ne_nil _ _

end Noted.Decides

/-! ### Founded documents -/

/-- A text that names something: it is not blank. -/
def Yaml.IsId (v : Yaml) : Prop := ∃ s, v = .str s ∧ Text.allBlank s = false

/-- A mapping names a block: under `block`, or under `capabilityId` where it has no `block`. -/
def Yaml.Entries.NamesBlock (m : Yaml.Entries) : Prop :=
  ∃ id, (m.get? "block" = some id ∨ m.get? "block" = none ∧ m.get? "capabilityId" = some id) ∧
    id.IsId

/-- A bootstrap that can be used: it names a block, or is a mapping that does. -/
def Yaml.IsBootstrap (v : Yaml) : Prop := v.IsId ∨ ∃ m : Yaml.Entries, v = .map m ∧ m.NamesBlock

/-- A document that has what every template needs. -/
structure Yaml.Entries.Founded (doc : Yaml.Entries) : Prop where
  name : ∃ v, doc.get? "name" = some v ∧ v.IsId
  bootstrap : ∃ v, doc.get? "bootstrap" = some v ∧ v.IsBootstrap

namespace Template.FromYaml

open Yaml

theorem isSome_filled? (s : String) : (filled? s).isSome = true ↔ Text.allBlank s = false := by
  unfold filled?
  split <;> simp_all

theorem isId_str {s : String} : (Yaml.str s).IsId ↔ Text.allBlank s = false := by
  simp [IsId]

/-- The name decides. -/
theorem decides_nameField (doc : Entries) :
    (nameField doc).Decides (∃ v, doc.get? "name" = some v ∧ v.IsId) := by
  unfold nameField
  cases doc.get? "name" with
  | none => exact .problem (by simp)
  | some v =>
    cases v with
    | str s =>
      have hs := isSome_filled? s
      dsimp only
      cases hf : filled? s with
      | none => exact .problem (by simpa [hf, isId_str] using hs)
      | some name => exact .clean ⟨_, rfl, by simpa [hf, isId_str] using hs⟩
    | _ => exact .problem (by simp [IsId])

/-- Of the two names of a block id the first that is there counts. -/
theorem isSome_blockField (m : Entries) (path : String) :
    (blockField m path).value.isSome = true ↔ m.NamesBlock := by
  have hvalue (key : String) (v : Yaml) (h : firstOf m ["block", "capabilityId"] = some (key, v)) :
      (blockField m path).value.isSome = true ↔ v.IsId := by
    unfold blockField
    rw [h]
    cases v with
    | str s =>
      have hs := isSome_filled? s
      dsimp only
      cases hf : filled? s with
      | none => simpa [hf, isId_str, Noted.problem] using hs
      | some id => simpa [hf, isId_str, Noted.clean] using hs
    | _ => simp [IsId, Noted.clean, Noted.problem]
  unfold Entries.NamesBlock
  cases hb : m.get? "block" with
  | some v => simp [hvalue "block" v (by simp [firstOf, hb])]
  | none =>
    cases hc : m.get? "capabilityId" with
    | some v => simp [hvalue "capabilityId" v (by simp [firstOf, hb, hc])]
    | none => simp [blockField, firstOf, hb, hc, Noted.clean]

/-- A mapping without a block id is noted as such, whatever has been noted about the id before. -/
theorem decides_bootstrapEntries (m : Entries) : (bootstrapEntries m).Decides m.NamesBlock := by
  have hblock := isSome_blockField m "bootstrap"
  unfold bootstrapEntries
  simp only [bind, Noted.andThen]
  cases hv : (blockField m "bootstrap").value with
  | none =>
    rw [hv] at hblock
    exact ⟨hblock, by simp [Noted.problem]⟩
  | some id =>
    rw [hv] at hblock
    exact ⟨hblock, by simp [pure, Noted.clean]⟩

/-- The bootstrap decides. -/
theorem decides_bootstrapField (doc : Entries) :
    (bootstrapField doc).Decides (∃ v, doc.get? "bootstrap" = some v ∧ v.IsBootstrap) := by
  unfold bootstrapField
  cases doc.get? "bootstrap" with
  | none => exact .problem (by simp)
  | some v =>
    cases v with
    | str s =>
      have hs := isSome_filled? s
      dsimp only
      cases hf : filled? s with
      | none => exact .problem (by simpa [hf, IsBootstrap, isId_str] using hs)
      | some id => exact .clean ⟨_, rfl, .inl (by simpa [hf, isId_str] using hs)⟩
    | map m =>
      obtain ⟨hsome, hnoted⟩ := decides_bootstrapEntries m
      exact ⟨hsome.trans (by simp [IsBootstrap, IsId]), hnoted⟩
    | _ => exact .problem (by simp [IsBootstrap, IsId])

theorem isSome_document (depth : Nat) (doc : Entries) :
    (document depth doc).value.isSome =
      ((nameField doc).value.isSome && (bootstrapField doc).value.isSome) := by
  unfold document
  simp only [bind, Noted.andThen]
  cases (nameField doc).value <;> cases (bootstrapField doc).value <;> rfl

/-- **A document decides by its name and its bootstrap**, whatever else it contains. -/
theorem decides_document (depth : Nat) (doc : Entries) :
    (document depth doc).Decides doc.Founded := by
  obtain ⟨hname, hnameless⟩ := decides_nameField doc
  obtain ⟨hbootstrap, hbootless⟩ := decides_bootstrapField doc
  have hsome := isSome_document depth doc
  constructor
  · rw [hsome, Bool.and_eq_true, hname, hbootstrap]
    exact ⟨fun h => ⟨h.1, h.2⟩, fun h => ⟨h.1, h.2⟩⟩
  · intro hnone
    rw [hnone, Option.isSome_none, eq_comm, Bool.and_eq_false_iff, Option.isSome_eq_false_iff,
      Option.isSome_eq_false_iff, Option.isNone_iff_eq_none, Option.isNone_iff_eq_none] at hsome
    rw [problems_document]
    rcases hsome with h | h
    · simp [hnameless h]
    · simp [hbootless h]

/-- What a text gives is decided by the document that is read from it. -/
theorem decides_parse (text : String) (depth : Nat) :
    ((parse text depth).template.isSome = true ↔
        ∃ doc : Entries, Yaml.read text = .ok (.map doc) ∧ doc.Founded) ∧
      ((parse text depth).template = none → (parse text depth).problems ≠ []) := by
  cases hread : Yaml.read text with
  | error e =>
    have hparse : parse text depth = ⟨none, [unreadable e]⟩ := by
      unfold parse
      rw [hread]
    simp [hparse]
  | ok v =>
    rw [parse_of_read hread]
    cases v with
    | map doc =>
      obtain ⟨hsome, hnoted⟩ := decides_document depth doc
      exact ⟨hsome.trans (by simp), hnoted⟩
    | _ => simp [ofYaml]

/-- A `block` that is null is there all the same, so `capabilityId` does not count. -/
example :
    (parse "name: a\nbootstrap:\n  block: ~\n  capabilityId: b").template.isSome = false ∧
      (parse "name: a\nbootstrap:\n  capabilityId: b").template.isSome = true := by
  decide +kernel

end Template.FromYaml

namespace Build

open Template

variable {σ : Type}

/-- **A build reports the problems of its text**, before all else. -/
theorem prefix_problems_text (o : Options) (registry : Registry σ) (source : String)
    (host : Value) (s : σ) :
    (parse source o.maxDepth).problems.map Error.malformed <+:
      (text o registry source host s).1.errors := by
  unfold text outcome
  cases (parse source o.maxDepth).template with
  | none => simp [Artifact.failed]
  | some t =>
    have hopening : (parse source o.maxDepth).problems.map Error.malformed <+:
        (openingDraft o t (parse source o.maxDepth).problems).errors := List.prefix_append ..
    exact hopening.trans (builds_template o registry t host _ s).prefix_errors

/-- A build without errors is one of a text that has a template and no problem. -/
theorem clean_of_errors_eq_nil {o : Options} {registry : Registry σ} {source : String}
    {host : Value} {s : σ} (h : (text o registry source host s).1.errors = []) :
    (parse source o.maxDepth).clean = true := by
  have hprefix := prefix_problems_text o registry source host s
  rw [h, List.prefix_nil, List.map_eq_nil_iff] at hprefix
  have hnoted := (FromYaml.decides_parse source o.maxDepth).2
  rw [Outcome.clean, hprefix, List.isEmpty_nil, Bool.and_true]
  exact Option.isSome_iff_ne_none.2 fun hnone => hnoted hnone hprefix

theorem valid_analysis (o : Template.Outcome) : o.analysis.valid = o.clean := by
  unfold Template.Outcome.analysis
  cases o.template <;> rfl

theorem valid_validate (o : Options) (registry : Registry σ) (source : String) (s : σ) :
    (validate o registry source s).1.valid = true ↔
      (text o registry source (.obj []) s).1.errors = [] := by
  simp only [validate, Artifact.isOk, List.isEmpty_iff]

/-- **There is a template in a text exactly if the document is founded.** Where there is none, there
is a problem. A build of a text has no errors only if there is a template and no problem, so a text
that is valid for a build is valid for the analysis, in particular for the commands. -/
theorem template_iff_founded (source : String) :
    (∀ depth, (parse source depth).template.isSome = true ↔
      ∃ doc : Yaml.Entries, Yaml.read source = .ok (.map doc) ∧ doc.Founded) ∧
    (∀ depth, (parse source depth).template = none → (parse source depth).problems ≠ []) ∧
    (∀ (σ : Type) (o : Options) (registry : Registry σ) (host : Value) (s : σ),
      (text o registry source host s).1.errors = [] → (parse source o.maxDepth).clean = true) ∧
    (∀ (σ : Type) (o : Options) (registry : Registry σ) (s : σ),
      (validate o registry source s).1.valid = true →
        (parse source o.maxDepth).analysis.valid = true) ∧
    ∀ w : Command.Workplace, (w.validate source).valid = true →
      (w.parse source).analysis.valid = true := by
  have hvalid : ∀ (σ : Type) (o : Options) (registry : Registry σ) (s : σ),
      (validate o registry source s).1.valid = true →
        (parse source o.maxDepth).analysis.valid = true := by
    intro σ o registry s h
    rw [valid_validate] at h
    rw [valid_analysis]
    exact clean_of_errors_eq_nil h
  refine ⟨fun depth => (FromYaml.decides_parse source depth).1,
    fun depth => (FromYaml.decides_parse source depth).2,
    fun _ _ _ _ _ h => clean_of_errors_eq_nil h, hvalid, fun w h => ?_⟩
  rw [Command.Workplace.validate] at h
  rw [Command.Workplace.parse]
  exact hvalid Bridge w.options w.registry Command.Workplace.bridge h

/-- A text that is valid for a build, and one whose bootstrap names no block. -/
theorem template_iff_founded_panel :
    let r : Registry Unit := [("panel", .element (.ofId "panel"))]
    let sound := "name: a\nbootstrap: panel"
    let blockless := "name: a\nbootstrap:\n  props:\n"
    (validate {} r sound ()).1.valid = true ∧ (parse sound).analysis.valid = true ∧
      (parse blockless).template = none ∧ (parse blockless).problems ≠ [] := by
  intro r sound blockless
  have hvalid : (validate {} r sound ()).1.valid = true := by decide +kernel
  have hnone : (parse blockless).template = none :=
    Option.isNone_iff_eq_none.1 (by decide +kernel)
  obtain ⟨-, -, -, hanalysis, -⟩ := template_iff_founded sound
  obtain ⟨-, hnoted, -⟩ := template_iff_founded blockless
  exact ⟨hvalid, hanalysis Unit {} r () hvalid, hnone, hnoted _ hnone⟩

end Build

end LivePanel
