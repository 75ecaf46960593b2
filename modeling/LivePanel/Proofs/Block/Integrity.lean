import LivePanel.Block.Metadata
import LivePanel.Proofs.Value.Printing

/-!
# What the integrity of metadata tells

The integrity of metadata is the digest of their JSON text, in hexadecimal digits. Metadata that say the
same of a block have one integrity, whatever digests they declare. The other way round there are more
metadata than digests, so that no digest is without collisions, and none is taken for granted here:
metadata of one integrity say the same, or what is hashed of them is itself a collision.

## The model

* `Metadata.Agree`: two metadata have the same in each field but that of the declared digest.
* `Metadata.digestOctets`: what is hashed of metadata.
* `Blake3.Collide`: two inputs that differ, of one digest.

## What is proved

* `Text.toUTF8_inj` and `Blake3.hex_inj`: nothing is lost in the octets of a text, nor in the digits
  of a digest.
* `Metadata.Agree.of_toValue`: nothing is lost in the JSON form. A member that is left out where it is
  absent is told from one that is empty.
* `Metadata.digestOctets_eq_iff`: so nothing is lost in what is hashed, since there is no number in the
  JSON form and its text is that of no other.
* `Metadata.integrity_eq_iff`: what two integrities tell of two metadata.
-/

namespace LivePanel

/-! ### Octets -/

namespace Text

theorem toList_loop (bytes : ByteArray) (i : Nat) (front : List UInt8) :
    ByteArray.toList.loop bytes i front = front.reverse ++ bytes.data.toList.drop i := by
  fun_induction ByteArray.toList.loop bytes i front with
  | case1 i front hlt ih =>
    have hi : i < bytes.data.toList.length := by simpa using hlt
    have hget : bytes.get! i = bytes.data.toList[i] := by
      rw [Array.getElem_toList]
      exact getElem!_pos bytes.data i hlt
    rw [ih, hget, List.drop_eq_getElem_cons hi, List.reverse_cons, List.append_assoc,
      List.singleton_append]
  | case2 i front hge =>
    have hend : bytes.data.toList.length ≤ i := by simpa using hge
    rw [List.drop_eq_nil_of_le hend, List.append_nil]

/-- Texts that have the same octets are the same. -/
theorem toUTF8_inj {s t : String} (h : s.toUTF8.toList = t.toUTF8.toList) : s = t := by
  rw [ByteArray.toList, ByteArray.toList, toList_loop, toList_loop] at h
  exact String.toByteArray_inj.1 (ByteArray.ext (Array.toList_inj.1 (by simpa using h)))

end Text

namespace Blake3

/-- Octets that have the same hexadecimal digits are the same. -/
theorem hex_inj {xs ys : List UInt8} (h : hex xs = hex ys) : xs = ys := by
  replace h := String.ofList_injective h
  induction xs generalizing ys with
  | nil =>
    cases ys with
    | nil => rfl
    | cons y ys => cases h
  | cons x xs ih =>
    cases ys with
    | nil => cases h
    | cons y ys =>
      simp only [List.flatMap_cons, List.cons_append, List.nil_append, List.cons.injEq] at h
      obtain ⟨hhigh, hlow, hrest⟩ := h
      replace hhigh := congrArg (Text.digit? 16) hhigh
      replace hlow := congrArg (Text.digit? 16) hlow
      simp only [Text.digit?_hexDigit, Option.some.injEq] at hhigh hlow
      have hx := x.toNat_lt
      have hy := y.toNat_lt
      have hxy : x.toNat = y.toNat := by omega
      rw [UInt8.toNat_inj.1 hxy, ih hrest]

/-- Two inputs are a collision: they differ, and have one digest. -/
def Collide (x y : List UInt8) : Prop := x ≠ y ∧ digest x = digest y

end Blake3

/-! ### JSON forms -/

namespace Value

/-- A text that may be left out is told from the members, also an empty one from none. -/
theorem optionalField_inj {key : String} {s t : Option String}
    (h : optionalField key (s.map str) = optionalField key (t.map str)) : s = t := by
  cases s with
  | none =>
    cases t with
    | none => rfl
    | some t => cases h
  | some s =>
    cases t with
    | none => cases h
    | some t => simpa [optionalField] using h

theorem numberless_optionalField (key : String) (s : Option String) :
    ∀ e ∈ optionalField key (s.map str), e.2.Numberless := by
  intro e he
  cases s with
  | none => cases he
  | some s =>
    cases List.mem_singleton.1 he
    exact .str s

end Value

namespace Port

theorem toValue_inj {p q : Port} (h : p.toValue = q.toValue) : p = q := by
  cases p
  cases q
  simpa [toValue] using h

theorem numberless (p : Port) : p.toValue.Numberless := by
  refine .obj ?_
  simp [Value.Numberless.str, Value.Numberless.bool]

end Port

namespace Metadata

/-- Two metadata say the same of a block, whatever digests they declare. -/
structure Agree (a b : Metadata) : Prop where
  id : a.id = b.id
  name : a.name = b.name
  category : a.category = b.category
  version : a.version = b.version
  inputs : a.inputs = b.inputs
  outputs : a.outputs = b.outputs
  dependencies : a.dependencies = b.dependencies
  compliance : a.compliance = b.compliance
  deprecated : a.deprecated = b.deprecated

/-- The octets that the integrity of metadata is the digest of. -/
def digestOctets (m : Metadata) : List UInt8 := m.digestText.toUTF8.toList

theorem integrity_eq (m : Metadata) :
    m.integrity = Blake3.hex (Blake3.digest m.digestOctets) := rfl

theorem numberless (m : Metadata) : m.toValue.Numberless := by
  have hports : ∀ ports : List Port, (Value.arr (ports.map Port.toValue)).Numberless :=
    fun ports => .arr (List.forall_mem_map.2 fun p _ => p.numberless)
  have hnames : (Value.ofStrings m.dependencies).Numberless :=
    .arr (List.forall_mem_map.2 fun s _ => .str s)
  refine .obj (List.forall_mem_append.2 ⟨List.forall_mem_append.2 ⟨?_, ?_⟩, ?_⟩)
  · simp [Value.Numberless.str, Value.Numberless.bool, hports, hnames]
  · exact Value.numberless_optionalField _ _
  · exact Value.numberless_optionalField _ _

variable {a b : Metadata}

theorem Agree.toValue_eq (h : a.Agree b) :
    { a with integrityHash := none }.toValue = { b with integrityHash := none }.toValue := by
  simp only [toValue, h.id, h.name, h.category, h.version, h.inputs, h.outputs, h.dependencies,
    h.compliance, h.deprecated]

/-- **Each field is told from the JSON form**, by the member that it is written as. -/
theorem Agree.of_toValue
    (h : { a with integrityHash := none }.toValue = { b with integrityHash := none }.toValue) :
    a.Agree b := by
  simp only [toValue, Value.obj.injEq, Option.map_none, Value.optionalField, List.append_nil] at h
  -- as many members stand before the notice in both, so that the notices are level
  obtain ⟨hfront, hdeprecated⟩ := List.append_inj h rfl
  simp only [List.cons.injEq, Prod.mk.injEq, Value.str.injEq, Value.arr.injEq, Value.bool.injEq,
    Value.ofStrings, true_and, and_true] at hfront
  obtain ⟨hid, hname, hcategory, hversion, hinputs, houtputs, hdependencies, hcompliance⟩ := hfront
  exact
    { id := hid
      name := hname
      category := hcategory
      version := hversion
      inputs := (List.map_inj_right fun _ _ => Port.toValue_inj).1 hinputs
      outputs := (List.map_inj_right fun _ _ => Port.toValue_inj).1 houtputs
      dependencies := (List.map_inj_right fun _ _ => Value.str.inj).1 hdependencies
      compliance := hcompliance
      deprecated := Value.optionalField_inj hdeprecated }

/-! ### Integrity -/

/-- **What is hashed of metadata says all that they say**, but for the digest that they declare. -/
theorem digestOctets_eq_iff : a.digestOctets = b.digestOctets ↔ a.Agree b := by
  constructor
  · intro h
    have htext : a.digestText = b.digestText := Text.toUTF8_inj h
    exact .of_toValue ((numberless _).eq_of_compact (numberless _) htext)
  · intro h
    rw [digestOctets, digestOctets, digestText, digestText, h.toValue_eq]

/-- **Metadata have one integrity where they say the same, and nowhere else**: what is hashed of them
is the same only where they say the same, so that any others of one integrity are a collision of the
digest. -/
theorem integrity_eq_iff (a b : Metadata) :
    (a.digestOctets = b.digestOctets ↔ a.Agree b) ∧
      (a.integrity = b.integrity ↔
        a.Agree b ∨ Blake3.Collide a.digestOctets b.digestOctets) := by
  refine ⟨digestOctets_eq_iff, ?_, ?_⟩
  · intro h
    have hdigest : Blake3.digest a.digestOctets = Blake3.digest b.digestOctets := Blake3.hex_inj h
    by_cases hoctets : a.digestOctets = b.digestOctets
    · exact .inl (digestOctets_eq_iff.1 hoctets)
    · exact .inr ⟨hoctets, hdigest⟩
  · rintro (h | ⟨-, hdigest⟩)
    · rw [integrity_eq, integrity_eq, digestOctets_eq_iff.2 h]
    · rw [integrity_eq, integrity_eq, hdigest]

/-- An empty notice is hashed, where none would be left out. -/
example : { ofId "t" with deprecated := some "" }.digestText =
    "\x7b\"id\":\"t\",\"name\":\"t\",\"category\":\"general\",\"version\":\"1.0.0\",\"inputs\":[]," ++
      "\"outputs\":[],\"dependencies\":[],\"compliance\":false,\"deprecated\":\"\"\x7d" := by
  decide

end Metadata

end LivePanel
