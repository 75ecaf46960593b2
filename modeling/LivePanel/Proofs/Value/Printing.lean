import LivePanel.Value.Printer
import LivePanel.Value.Reader
import Mathlib.Tactic.SplitIfs

/-!
# Compact text tells values apart

Values with one compact text are one value. More than that, the text of a value says by itself where it
ends: whatever follows it, no other value can stand at the front. This is what keeps the fields of an
object and the items of a list apart, however they are written one after the other.

## The model

* `Text.Tells`: a text tells what it is the text of, whatever follows it.
* `Text.listed`: texts with commas between them.
* `Value.Numberless`: a value in which there is no number. The digits of a number may be followed by
  others, so that its text does not say where it ends; of values with numbers nothing is said here.

## What is proved

* `Value.stringBody?_escapeChars`: what is in quotes is read back as it was, with what follows it. One
  escaped character is one step of the reader, in whichever way it is escaped.
* `Text.eq_of_listed`: a list is told from its texts and what closes it, where its items are told from
  theirs; by induction on the one list, its first comma or end being met by that of the other.
* `Value.Numberless.tells`: a value without numbers is told from its text, by induction on the value.
  Its first character says of which kind it is.
-/

namespace LivePanel

namespace Text

/-! ### Hexadecimal digits -/

/-- A hexadecimal digit is read back as what it was written for. -/
theorem digit?_hexDigit (n : Nat) : digit? 16 (hexDigit n) = some (n % 16) := by
  have hread : ∀ d < 16, digit? 16 (Char.ofNat (if d < 10 then 48 + d else 87 + d)) = some d := by
    decide
  exact hread (n % 16) (Nat.mod_lt n (by decide))

theorem digits?_hexDigits {n : Nat} (h : n < 256) :
    digits? 16 ['0', '0', hexDigit (n / 16), hexDigit n] = some n := by
  have hzero : digit? 16 '0' = some 0 := rfl
  simp only [digits?, digitsFrom?, hzero, digit?_hexDigit]
  congr 1
  omega

/-! ### Texts that follow one another -/

section

variable {α : Type} {text : α → List Char} {close : Char} {xs ys : List α} {r s : List Char}

/-- A text that begins with the texts of both `a` and `b` shows that the two are one, and the same
then follows them. -/
def Tells (text : α → List Char) (a b : α) : Prop :=
  ∀ ⦃r s : List Char⦄, text a ++ r = text b ++ s → a = b ∧ r = s

/-- What begins with the text of `a` does not begin with what closes a list. -/
def Opens (text : α → List Char) (close : Char) (a : α) : Prop :=
  ∀ r s, text a ++ r ≠ close :: s

/-- Texts with commas between them. -/
def listed (text : α → List Char) : List α → List Char
  | [] => []
  | x :: rest => text x ++ rest.flatMap fun y => ',' :: text y

/-- What follows the first of a list says what the others are, and where the list is closed. -/
theorem eq_of_others (hclose : close ≠ ',') (htells : ∀ x ∈ xs, ∀ y ∈ ys, Tells text x y)
    (h : (xs.flatMap fun x => ',' :: text x) ++ close :: r =
      (ys.flatMap fun y => ',' :: text y) ++ close :: s) : xs = ys ∧ r = s := by
  induction xs generalizing ys with
  | nil =>
    cases ys with
    | nil => exact ⟨rfl, (List.cons.inj h).2⟩
    | cons y ys => exact absurd (List.cons.inj h).1 hclose
  | cons x xs ih =>
    cases ys with
    | nil => exact absurd (List.cons.inj h).1.symm hclose
    | cons y ys =>
      simp only [List.flatMap_cons, List.cons_append, List.append_assoc, List.cons.injEq,
        true_and] at h
      obtain ⟨rfl, hothers⟩ := htells x (by simp) y (by simp) h
      obtain ⟨rfl, rfl⟩ :=
        ih (fun x hx y hy => htells x (List.mem_cons_of_mem _ hx) y (List.mem_cons_of_mem _ hy))
          hothers
      exact ⟨rfl, rfl⟩

/-- **A list is told from its texts and what closes it**, where its items are told from theirs and
none of them begins like the end. -/
theorem eq_of_listed (hclose : close ≠ ',') (htells : ∀ x ∈ xs, ∀ y ∈ ys, Tells text x y)
    (hxs : ∀ x ∈ xs, Opens text close x) (hys : ∀ y ∈ ys, Opens text close y)
    (h : listed text xs ++ close :: r = listed text ys ++ close :: s) : xs = ys ∧ r = s := by
  cases xs with
  | nil =>
    cases ys with
    | nil => exact ⟨rfl, (List.cons.inj h).2⟩
    | cons y ys =>
      rw [listed, listed, List.append_assoc] at h
      exact absurd h.symm (hys y (by simp) _ _)
  | cons x xs =>
    cases ys with
    | nil =>
      rw [listed, listed, List.append_assoc] at h
      exact absurd h (hxs x (by simp) _ _)
    | cons y ys =>
      refine eq_of_others hclose htells ?_
      simpa only [listed, List.flatMap_cons, List.cons_append] using congrArg (',' :: ·) h

end

end Text

namespace Value

open Text

/-! ### Texts in quotes -/

/-- An escaped character is read back from its number. -/
theorem unicodeEscape?_hexDigits {c : Char} (h : c.toNat < 256) (rest : List Char) :
    unicodeEscape? ('0' :: '0' :: hexDigit (c.toNat / 16) :: hexDigit c.toNat :: rest) =
      some (c, rest) := by
  have hhigh : ¬ 0xD800 ≤ c.toNat := by omega
  have hlow : ¬ 0xDC00 ≤ c.toNat := by omega
  simp only [unicodeEscape?, hex4?, digits?_hexDigits h, Option.map_some]
  simp [hhigh, hlow]

/-- **One escaped character is one step of the reader**, in whichever way it is escaped. -/
theorem stringBody?_escapeChar (fuel : Nat) (acc : List Char) (c : Char) (rest : List Char) :
    stringBody? (fuel + 1) acc (escapeChar c ++ rest) = stringBody? fuel (c :: acc) rest := by
  have hof : ∀ {n}, c.toNat = n → c = Char.ofNat n := fun h => by rw [← h, Char.ofNat_toNat]
  unfold escapeChar
  split_ifs with hquote hslash hline hreturn htab hback hform hcontrol
  · rw [hquote]; rfl
  · rw [hslash]; rfl
  · rw [hline]; rfl
  · rw [hreturn]; rfl
  · rw [htab]; rfl
  · rw [hof hback]; rfl
  · rw [hof hform]; rfl
  · simp only [List.cons_append, List.nil_append, stringBody?,
      unicodeEscape?_hexDigits (Nat.lt_trans hcontrol (by decide))]
  · -- what is left stands for itself: it ends no text, begins no escape and is no control character
    rw [List.singleton_append, stringBody?, if_neg hcontrol]
    · exact hquote
    · exact fun _ h => absurd h hslash
    · exact fun _ _ h => absurd h hslash

/-- **What is in quotes is read back as it was**, with what follows it. -/
theorem stringBody?_escapeChars (cs acc rest : List Char) (fuel : Nat) :
    stringBody? (fuel + cs.length + 1) acc (escapeChars cs ++ '"' :: rest) =
      some (String.ofList (acc.reverse ++ cs), rest) := by
  induction cs generalizing acc with
  | nil => rw [List.append_nil]; rfl
  | cons c cs ih =>
    have hcs : escapeChars (c :: cs) = escapeChar c ++ escapeChars cs := List.flatMap_cons
    rw [hcs, List.append_assoc, stringBody?_escapeChar, List.length_cons, ← Nat.add_assoc, ih,
      List.reverse_cons, List.append_assoc, List.singleton_append]

theorem toList_quoted (s : String) :
    (quoted s).toList = '"' :: (escapeChars s.toList ++ ['"']) := by
  simp [quoted]

/-- A text is told from its quoted form. -/
theorem tells_quoted (s t : String) : Tells (fun s => (quoted s).toList) s t := by
  intro r r' h
  simp only [toList_quoted, List.cons_append, List.append_assoc, List.cons.injEq, true_and,
    List.nil_append] at h
  have hs := stringBody?_escapeChars s.toList [] r t.toList.length
  have ht := stringBody?_escapeChars t.toList [] r' s.toList.length
  rw [← h, Nat.add_comm s.toList.length] at ht
  simpa using hs.symm.trans ht

/-! ### Texts of values -/

/-- The compact text of a value, character by character. -/
def chars (v : Value) : List Char := v.compact.toList

/-- The compact text of a member, character by character. -/
def memberChars (e : String × Value) : List Char := (quoted e.1).toList ++ ':' :: e.2.chars

theorem toList_compactItems (items : List Value) :
    (compactItems items).toList = listed chars items := by
  cases items with
  | nil => rfl
  | cons v rest =>
    induction rest generalizing v with
    | nil => simp [compactItems, listed, chars]
    | cons w rest ih =>
      rw [compactItems, String.toList_append, String.toList_append, ih]
      · simp [listed, chars]
      · exact nofun

theorem toList_compactFields (fields : List (String × Value)) :
    (compactFields fields).toList = listed memberChars fields := by
  cases fields with
  | nil => rfl
  | cons e rest =>
    induction rest generalizing e with
    | nil => simp [compactFields, listed, memberChars, chars]
    | cons f rest ih =>
      rw [compactFields, String.toList_append, String.toList_append, ih]
      · simp [listed, memberChars, chars]
      · exact nofun

theorem chars_arr (items : List Value) :
    (arr items).chars = '[' :: (listed chars items ++ [']']) := by
  simp [chars, compact, toList_compactItems]

theorem chars_obj (fields : List (String × Value)) :
    (obj fields).chars = '{' :: (listed memberChars fields ++ ['}']) := by
  simp [chars, compact, toList_compactFields]

theorem opens_memberChars (e : String × Value) : Opens memberChars '}' e := by
  intro r s h
  simp [memberChars, toList_quoted] at h

/-- A member is told from its text where its value is. -/
theorem tells_memberChars {e f : String × Value} (h : Tells chars e.2 f.2) :
    Tells memberChars e f := by
  intro r s heq
  simp only [memberChars, List.append_assoc, List.cons_append] at heq
  obtain ⟨hkey, heq⟩ := tells_quoted e.1 f.1 heq
  obtain ⟨hvalue, hrest⟩ := h (List.cons.inj heq).2
  exact ⟨Prod.ext hkey hvalue, hrest⟩

/-! ### Values without numbers -/

/-- No number is in the value. -/
inductive Numberless : Value → Prop where
  | null : Numberless null
  | bool (b : Bool) : Numberless (bool b)
  | str (s : String) : Numberless (str s)
  | arr {items : List Value} : (∀ v ∈ items, Numberless v) → Numberless (arr items)
  | obj {fields : List (String × Value)} :
    (∀ e ∈ fields, Numberless e.2) → Numberless (obj fields)

/-- The first character of the text of a value that is no number. -/
def mark : Value → Char
  | null => 'n'
  | bool b => if b then 't' else 'f'
  | num _ => '0'
  | str _ => '"'
  | arr _ => '['
  | obj _ => '{'

/-- Two values of one kind, and the same value where it is null or a truth value. -/
inductive Alike : Value → Value → Prop where
  | null : Alike null null
  | bool (b : Bool) : Alike (bool b) (bool b)
  | str (s t : String) : Alike (str s) (str t)
  | arr (items items' : List Value) : Alike (arr items) (arr items')
  | obj (fields fields' : List (String × Value)) : Alike (obj fields) (obj fields')

namespace Numberless

variable {u v : Value} {r s : List Char}

theorem exists_chars (hv : Numberless v) : ∃ rest, v.chars = v.mark :: rest := by
  cases hv with
  | null => exact ⟨_, rfl⟩
  | bool b => cases b <;> exact ⟨_, rfl⟩
  | str s => exact ⟨_, toList_quoted s⟩
  | arr _ => exact ⟨_, chars_arr _⟩
  | obj _ => exact ⟨_, chars_obj _⟩

/-- **The first character says of which kind a value is.** -/
theorem alike (hu : Numberless u) (hv : Numberless v) (h : u.chars ++ r = v.chars ++ s) :
    Alike u v := by
  obtain ⟨restu, hchars⟩ := hu.exists_chars
  obtain ⟨restv, hchars'⟩ := hv.exists_chars
  rw [hchars, hchars'] at h
  have hmark : u.mark = v.mark := (List.cons.inj h).1
  cases hu <;> cases hv <;> grind [mark, Alike]

theorem opens_chars (hv : Numberless v) : Opens chars ']' v := by
  intro r s h
  obtain ⟨rest, hrest⟩ := hv.exists_chars
  rw [hrest] at h
  have hmark : v.mark = ']' := (List.cons.inj h).1
  cases hv <;> grind [mark]

/-- **A value without numbers is told from its compact text.** -/
theorem tells (hu : Numberless u) (hv : Numberless v) : Tells chars u v := by
  induction hu generalizing v with
  | null =>
    intro r s h
    cases alike .null hv h
    exact ⟨rfl, List.append_cancel_left h⟩
  | bool b =>
    intro r s h
    cases alike (.bool b) hv h
    exact ⟨rfl, List.append_cancel_left h⟩
  | str t =>
    intro r s h
    cases alike (.str t) hv h with
    | str t t' =>
      obtain ⟨rfl, hrest⟩ := tells_quoted t t' h
      exact ⟨rfl, hrest⟩
  | @arr items hitems ih =>
    intro r s h
    cases alike (.arr hitems) hv h with
    | arr _ items' =>
      cases hv with
      | arr hitems' =>
        simp only [chars_arr, List.cons_append, List.append_assoc, List.cons.injEq, true_and,
          List.nil_append] at h
        obtain ⟨rfl, hrest⟩ := eq_of_listed (by decide) (fun v hv w hw => ih v hv (hitems' w hw))
          (fun v hv => (hitems v hv).opens_chars) (fun v hv => (hitems' v hv).opens_chars) h
        exact ⟨rfl, hrest⟩
  | @obj fields hfields ih =>
    intro r s h
    cases alike (.obj hfields) hv h with
    | obj _ fields' =>
      cases hv with
      | obj hfields' =>
        simp only [chars_obj, List.cons_append, List.append_assoc, List.cons.injEq, true_and,
          List.nil_append] at h
        obtain ⟨rfl, hrest⟩ := eq_of_listed (by decide)
          (fun e he f hf => tells_memberChars (ih e he (hfields' f hf)))
          (fun e _ => opens_memberChars e) (fun e _ => opens_memberChars e) h
        exact ⟨rfl, hrest⟩

/-- **Values without numbers that have one compact text are one value.** -/
theorem eq_of_compact (hu : Numberless u) (hv : Numberless v) (h : u.compact = v.compact) :
    u = v :=
  (hu.tells hv (congrArg (fun text => text.toList ++ []) h)).1

end Numberless

end Value

end LivePanel
