import FibTiming.Proofs.WholeNumber
import FibTiming.SuiteFile.Setting

/-!
# What values settings take

A number setting takes a number, or a text that is a numeral, when it is a whole number within the bounds of the
setting, and takes it as it is (`signedOf_eq_ok_iff`, `unsignedOf_eq_ok_iff`).  A text setting takes whatever can be
written as text (`textOf_eq_ok_iff`).
-/

namespace FibTiming.SuiteFile

open Number

namespace Value

/-- The value is the given whole number, or a text that is a numeral of it. -/
def IsWhole (v : Value) (i : Int) : Prop := ∃ x, v.toNumber = .ok x ∧ x.IsWhole i

variable {v : Value}

private theorem convert_number (hn : v.isNull = false) (hk : v.isKnown = true) :
    v.convert .number = v.toNumber.map .number := by
  rw [convert]
  cases v <;> simp_all [isNull, isKnown, type, Ty.convertsTo, toNumber, Except.map]

private theorem convert_text (hn : v.isNull = false) (hk : v.isKnown = true) :
    v.convert .text = v.toText.map .text := by
  rw [convert]
  cases v <;> simp_all [isNull, isKnown, type, Ty.convertsTo, Ty.isPrimitive, toText, Except.map]

/-- A value that stands for a number is neither null nor unknown in any part. -/
private theorem known_of_toNumber {x : Extended} (h : v.toNumber = .ok x) :
    v.isNull = false ∧ v.isWhollyKnown = true := by
  cases v <;> simp_all [toNumber, isNull, isWhollyKnown]

private theorem known_of_toText {s : String} (h : v.toText = .ok s) : v.isNull = false ∧ v.isWhollyKnown = true := by
  cases v <;> simp_all [toText, isNull, isWhollyKnown]

private theorem isKnown_of_isWhollyKnown (h : v.isWhollyKnown = true) : v.isKnown = true := by
  cases v <;> simp_all [isWhollyKnown, isKnown]

end Value

/-- A number setting converts what stands for a whole number. -/
private theorem settle_number_eq_ok_iff (v w : Value) :
    settle .number v = .ok w ↔ ∃ x, v.toNumber = .ok x ∧ x.isInt = true ∧ w = .number x := by
  by_cases hk : v.isNull = false ∧ v.isWhollyKnown = true
  · obtain ⟨hn, hw⟩ := hk
    simp only [settle, hn, hw, Bool.not_true, Bool.false_eq_true, ↓reduceIte,
      Value.convert_number hn (Value.isKnown_of_isWhollyKnown hw)]
    cases hx : v.toNumber with
    | error e => simp [Except.map]
    | ok x =>
      simp only [Except.map, Except.ok.injEq, exists_eq_left']
      by_cases hi : x.isInt = true
      · simp [hi, eq_comm]
      · simp [hi]
  · -- What is null or unknown in a part is refused before it is converted, and stands for no number anyway.
    have hnone : ∀ x, v.toNumber ≠ .ok x := fun x hx => hk (Value.known_of_toNumber hx)
    simp only [hnone, false_and, exists_false, iff_false]
    unfold settle
    by_cases hn : v.isNull = true
    · simp [hn]
    · have hw : v.isWhollyKnown ≠ true := fun hw => hk ⟨by simpa using hn, hw⟩
      simp [hn, hw]

/-- What a number setting takes within its bounds. -/
private theorem exists_settle_iff (v : Value) (lo hi i : Int) :
    (∃ x, settle .number v = .ok (.number x) ∧ x.toIntBetween? lo hi = some i) ↔ v.IsWhole i ∧ lo ≤ i ∧ i ≤ hi := by
  simp only [settle_number_eq_ok_iff, Extended.toIntBetween?_eq_some_iff, Value.IsWhole]
  constructor
  · rintro ⟨x, ⟨x', hx', _, heq⟩, hx, hb⟩
    cases heq
    exact ⟨⟨x, hx', hx⟩, hb⟩
  · rintro ⟨⟨x, hx', hx⟩, hb⟩
    exact ⟨x, ⟨x, hx', (Extended.isInt_iff x).2 ⟨i, hx⟩, rfl⟩, hx, hb⟩

/-- A setting with a sign takes the whole numbers of 64 bits. -/
theorem signedOf_eq_ok_iff (v : Value) (i : Int) :
    signedOf v = .ok i ↔ v.IsWhole i ∧ -2 ^ 63 ≤ i ∧ i < 2 ^ 63 := by
  have hbounds : -2 ^ 63 ≤ i ∧ i < 2 ^ 63 ↔ -9223372036854775808 ≤ i ∧ i ≤ 9223372036854775807 := by omega
  rw [hbounds, ← exists_settle_iff]
  unfold signedOf
  split
  · rename_i h
    simp [h]
  · rename_i x h
    cases hx : x.toIntBetween? (-9223372036854775808) 9223372036854775807 <;> simp [h, hx]
  · rename_i w hw h
    obtain ⟨x, _, _, rfl⟩ := (settle_number_eq_ok_iff v w).1 h
    exact absurd rfl (hw x)

/-- A setting without a sign takes the words of 64 bits. -/
theorem unsignedOf_eq_ok_iff (v : Value) (n : UInt64) : unsignedOf v = .ok n ↔ v.IsWhole n.toNat := by
  have hlt : n.toNat < 18446744073709551616 := n.toNat_lt
  have hbounds : 0 ≤ (n.toNat : Int) ∧ (n.toNat : Int) ≤ 18446744073709551615 := by omega
  rw [← and_iff_left (a := v.IsWhole n.toNat) hbounds, ← exists_settle_iff]
  unfold unsignedOf
  split
  · rename_i h
    simp [h]
  · rename_i x h
    cases hx : x.toIntBetween? 0 18446744073709551615 with
    | none => simp [h, hx]
    | some i =>
      obtain ⟨_, h0, h1⟩ := (Extended.toIntBetween?_eq_some_iff ..).1 hx
      simp only [h, Except.ok.injEq, Value.number.injEq, exists_eq_left', hx, Option.some.injEq]
      rw [← UInt64.toNat_inj, UInt64.toNat_ofNat', Nat.mod_eq_of_lt (by omega)]
      omega
  · rename_i w hw h
    obtain ⟨x, _, _, rfl⟩ := (settle_number_eq_ok_iff v w).1 h
    exact absurd rfl (hw x)

/-- A text setting takes what can be written as text. -/
theorem textOf_eq_ok_iff (v : Value) (s : String) : textOf v = .ok s ↔ v.toText = .ok s := by
  unfold textOf settle
  by_cases hk : v.isNull = false ∧ v.isWhollyKnown = true
  · obtain ⟨hn, hw⟩ := hk
    simp only [hn, hw, Bool.not_true, Bool.false_eq_true, ↓reduceIte,
      Value.convert_text hn (Value.isKnown_of_isWhollyKnown hw)]
    cases v.toText <;> simp [Except.map]
  · have hnone : v.toText ≠ .ok s := fun hs => hk (Value.known_of_toText hs)
    by_cases hn : v.isNull = true
    · simp [hn, hnone]
    · have hw : v.isWhollyKnown ≠ true := fun hw => hk ⟨by simpa using hn, hw⟩
      simp [hn, hw, hnone]

/-! ### Expressions -/

namespace Expr

/-- The expression evaluates without faults. -/
def Yields (e : Expr) (scope : Scope) (v : Value) : Prop := e.eval scope = (v, [])

theorem setting_eq_ok_iff {α : Type} (e : Expr) (scope : Scope) (take : Value → Except SettingError α) (a : α) :
    e.setting scope take = .ok a ↔ ∃ v, e.Yields scope v ∧ take v = .ok a := by
  unfold setting Yields
  split
  · rename_i v h
    simp [h]
  · rename_i v ds hds h
    simp only [reduceCtorEq, false_iff]
    rintro ⟨w, hw, _⟩
    exact hds (congrArg Prod.snd (h.symm.trans hw))

end Expr

end FibTiming.SuiteFile
