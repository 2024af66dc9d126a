import FibTiming.Number.IntegerText
import Mathlib.Data.List.Basic

/-!
# Integers in decimal digits

The decimal text of an integer of 64 bits is read back as this integer (`readSigned_toString`,
`readUnsigned_toString`): no digit but a lone zero is taken for a base, and the range is never left on the way.
-/

namespace FibTiming.Number

private theorem digitValue?_digitChar {d : Nat} (h : d < 10) : digitValue? d.digitChar = some d := by
  unfold digitValue?
  simp only [Nat.toNat_digitChar_of_lt_ten h]
  rw [if_pos (by omega)]
  simp

private theorem digitChar_ne_underscore {d : Nat} (h : d < 10) : d.digitChar ≠ '_' := by
  intro hd
  have hcode := congrArg Char.toNat hd
  rw [Nat.toNat_digitChar_of_lt_ten h] at hcode
  have : '_'.toNat = 95 := rfl
  omega

private theorem readDigits_digitChar {m d : Nat} (hd : d < 10) (hmax : 10 * m + d ≤ maxWord) (rest : List Char) :
    readDigits 10 m (d.digitChar :: rest) = readDigits 10 (10 * m + d) rest := by
  rw [readDigits, if_neg (digitChar_ne_underscore hd)]
  simp only [digitValue?_digitChar hd]
  rw [if_neg (by omega), if_neg (by omega)]

/-- Behind the digits of a number the reading goes on from this number. -/
private theorem readDigits_toDigits {n : Nat} (hmax : n ≤ maxWord) (rest : List Char) :
    readDigits 10 0 (Nat.toDigits 10 n ++ rest) = readDigits 10 n rest := by
  induction n using Nat.strongRecOn generalizing rest with
  | ind n ih =>
    by_cases hn : n < 10
    · rw [Nat.toDigits_of_lt_base hn, List.singleton_append, readDigits_digitChar hn (by omega)]
      simp
    · rw [Nat.toDigits_of_base_le (by omega) (by omega), List.append_assoc, List.singleton_append,
        ih (n / 10) (by omega) (by omega), readDigits_digitChar (by omega) (by omega)]
      congr 1
      omega

/-- The digits of a positive number do not start with a zero. -/
private theorem exists_toDigits_cons {n : Nat} (hn : 0 < n) :
    ∃ d cs, 0 < d ∧ d < 10 ∧ Nat.toDigits 10 n = d.digitChar :: cs := by
  induction n using Nat.strongRecOn with
  | ind n ih =>
    by_cases hlt : n < 10
    · exact ⟨n, [], hn, hlt, Nat.toDigits_of_lt_base hlt⟩
    · obtain ⟨d, cs, hpos, hd, hdigits⟩ := ih (n / 10) (by omega) (by omega)
      refine ⟨d, cs ++ [(n % 10).digitChar], hpos, hd, ?_⟩
      rw [Nat.toDigits_of_base_le (by omega) (by omega), hdigits, List.cons_append]

private theorem splitBase_toDigits {n : Nat} (hn : 0 < n) :
    splitBase (Nat.toDigits 10 n) = (10, Nat.toDigits 10 n) := by
  obtain ⟨d, cs, hpos, hd, hdigits⟩ := exists_toDigits_cons hn
  have hzero : d.digitChar ≠ '0' := by
    intro h
    have hcode := congrArg Char.toNat h
    rw [Nat.toNat_digitChar_of_lt_ten hd] at hcode
    have : '0'.toNat = 48 := rfl
    omega
  rw [hdigits]
  unfold splitBase
  split
  · simp_all
  · simp_all
  · rfl

private theorem readUnsigned_toDigits {n : Nat} (hmax : n ≤ maxWord) : readUnsigned (Nat.toDigits 10 n) = .ok n := by
  rcases Nat.eq_zero_or_pos n with rfl | hpos
  · rfl
  · have hread := readDigits_toDigits hmax []
    rw [List.append_nil] at hread
    have hunderscore : (Nat.toDigits 10 n).contains '_' = false := by
      simp
    have hempty : (Nat.toDigits 10 n).isEmpty = false := by
      simp
    simp only [readUnsigned, hempty, Bool.false_eq_true, ↓reduceIte, splitBase_toDigits hpos, hread, hunderscore,
      Bool.false_and, readDigits]

theorem readUnsigned_toString {n : Nat} (h : n ≤ maxWord) : readUnsigned (toString n).toList = .ok n := by
  rw [Nat.toString_eq_ofList_toDigits, String.toList_ofList, readUnsigned_toDigits h]

private theorem readSigned_toDigits {n : Nat} (h : n < 9223372036854775808) :
    readSigned (Nat.toDigits 10 n) = .ok (n : Int) := by
  have hread : readUnsigned (Nat.toDigits 10 n) = .ok n := readUnsigned_toDigits (by unfold maxWord; omega)
  have hdigit : ∀ c ∈ Nat.toDigits 10 n, c.isDigit = true := fun c => Nat.isDigit_of_mem_toDigits (by omega) (by omega)
  unfold readSigned
  split
  rename_i minus body hsign
  split at hsign
  · rename_i hdigits
    exact absurd (hdigit '+' (by simp [hdigits])) (by decide)
  · rename_i hdigits
    exact absurd (hdigit '-' (by simp [hdigits])) (by decide)
  · cases hsign
    simp [hread, h]

theorem readSigned_toString {i : Int} (hmin : -9223372036854775808 ≤ i) (hmax : i < 9223372036854775808) :
    readSigned (toString i).toList = .ok i := by
  cases i with
  | ofNat n =>
    have htext : (toString (Int.ofNat n)).toList = Nat.toDigits 10 n := by
      show (toString n).toList = _
      rw [Nat.toString_eq_ofList_toDigits, String.toList_ofList]
    rw [htext]
    exact readSigned_toDigits (by simp at hmax; omega)
  | negSucc n =>
    have htext : (toString (Int.negSucc n)).toList = '-' :: Nat.toDigits 10 (n + 1) := by
      show ("-" ++ toString (n + 1)).toList = _
      rw [Nat.toString_eq_ofList_toDigits, String.toList_append]
      simp
    have hread : readUnsigned (Nat.toDigits 10 (n + 1)) = .ok (n + 1) :=
      readUnsigned_toDigits (by unfold maxWord; omega)
    have hfits : n + 1 ≤ 9223372036854775808 := by omega
    rw [htext]
    simp only [readSigned, hread, ↓reduceIte, hfits]
    rfl

end FibTiming.Number
