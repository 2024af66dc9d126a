import Mathlib.Data.List.Basic
import Mathlib.Tactic.SplitIfs

/-!
# Texts in the order of their bytes

Texts are compared character by character.  The bytes of a larger character are larger at the first place where they
differ, and there is always such a place, so texts are compared byte by byte at the same time (`bytes_lt_of_lt`).
-/

namespace FibTiming.Text

/-- The bytes of a text. -/
def bytes (s : String) : List UInt8 := s.toUTF8.data.toList

private theorem bytes_eq (s : String) : bytes s = s.toList.flatMap String.utf8EncodeChar := by
  conv_lhs => rw [← String.ofList_toList (s := s)]
  rw [bytes, String.toUTF8_eq_toByteArray, String.toByteArray_ofList, List.utf8Encode, List.data_toByteArray]

private theorem byte_lt_iff {m n : Nat} (hm : m < 256) (hn : n < 256) : UInt8.ofNat m < UInt8.ofNat n ↔ m < n := by
  rw [UInt8.lt_iff_toNat_lt, UInt8.toNat_ofNat', UInt8.toNat_ofNat', Nat.mod_eq_of_lt hm, Nat.mod_eq_of_lt hn]

private theorem byte_eq_iff {m n : Nat} (hm : m < 256) (hn : n < 256) : UInt8.ofNat m = UInt8.ofNat n ↔ m = n := by
  rw [← UInt8.toNat_inj, UInt8.toNat_ofNat', UInt8.toNat_ofNat', Nat.mod_eq_of_lt hm, Nat.mod_eq_of_lt hn]

/-- Of two numbers with four digits to the base 64, the first digits that differ decide which one is smaller. -/
private theorem digits_lt {v w : Nat} (hw : w < 2097152) (h : v < w) :
    v / 262144 % 8 < w / 262144 % 8 ∨ v / 262144 % 8 = w / 262144 % 8 ∧
      (v / 4096 % 64 < w / 4096 % 64 ∨ v / 4096 % 64 = w / 4096 % 64 ∧
        (v / 64 % 64 < w / 64 % 64 ∨ v / 64 % 64 = w / 64 % 64 ∧ v % 64 < w % 64)) := by
  have hsum : ∀ u < 2097152, u = 262144 * (u / 262144 % 8) + 4096 * (u / 4096 % 64) + 64 * (u / 64 % 64) + u % 64 := by
    intro u hu
    omega
  have hv := hsum v (by omega)
  have hw := hsum w hw
  have hdigit : ∀ u, u % 64 < 64 := fun u => Nat.mod_lt u (by decide)
  have hv₁ := hdigit (v / 4096)
  have hv₂ := hdigit (v / 64)
  have hv₃ := hdigit v
  have hw₁ := hdigit (w / 4096)
  have hw₂ := hdigit (w / 64)
  have hw₃ := hdigit w
  clear hsum hdigit
  generalize v / 262144 % 8 = a, v / 4096 % 64 = b, v / 64 % 64 = c, v % 64 = d at *
  generalize w / 262144 % 8 = a', w / 4096 % 64 = b', w / 64 % 64 = c', w % 64 = d' at *
  omega

/-- Whatever follows, the bytes of a smaller character stand before those of a larger one. -/
private theorem encode_append_lt {c d : Char} (h : c < d) (x y : List UInt8) :
    String.utf8EncodeChar c ++ x < String.utf8EncodeChar d ++ y := by
  have hlt : c.val.toNat < d.val.toNat := h
  have hmax : d.val.toNat < 1114112 := by
    have hvalid : d.val.toNat < 55296 ∨ 57343 < d.val.toNat ∧ d.val.toNat < 1114112 := d.valid
    omega
  unfold String.utf8EncodeChar
  generalize c.val.toNat = v at *
  generalize d.val.toNat = w at *
  -- A character takes one byte more at each of three bounds, and more bytes mean a larger first byte.
  dsimp only
  split_ifs
  all_goals try omega
  all_goals
    simp only [List.cons_append, List.nil_append, List.cons_lt_cons_iff]
    simp (disch := omega) only [byte_lt_iff, byte_eq_iff, Nat.add_lt_add_iff_right, Nat.add_right_cancel_iff]
  on_goal 10 =>
    rcases digits_lt (by omega) hlt with ha | ⟨ha, hb | ⟨hb, hc | ⟨hc, hd⟩⟩⟩
    · exact .inl ha
    · exact .inr ⟨ha, .inl hb⟩
    · exact .inr ⟨ha, .inr ⟨hb, .inl hc⟩⟩
    · exact .inr ⟨ha, .inr ⟨hb, .inr ⟨hc, .inl hd⟩⟩⟩
  all_goals omega

/-- The order of texts is the order of their bytes. -/
theorem bytes_lt_of_lt {s t : String} (h : s < t) : bytes s < bytes t := by
  have hchars : ∀ cs ds : List Char, cs < ds → cs.flatMap String.utf8EncodeChar < ds.flatMap String.utf8EncodeChar := by
    intro cs
    induction cs with
    | nil =>
      intro ds h
      cases ds with
      | nil => exact absurd h (List.not_lt_nil _)
      | cons d ds =>
        rw [List.flatMap_nil, List.flatMap_cons]
        cases he : String.utf8EncodeChar d with
        | nil => exact absurd he String.utf8EncodeChar_ne_nil
        | cons b bs => exact List.nil_lt_cons _ _
    | cons c cs ih =>
      intro ds h
      cases ds with
      | nil => exact absurd h (List.not_lt_nil _)
      | cons d ds =>
        rw [List.flatMap_cons, List.flatMap_cons]
        rcases List.cons_lt_cons_iff.1 h with hcd | ⟨rfl, hrest⟩
        · exact encode_append_lt hcd _ _
        · exact List.append_left_lt (ih ds hrest)
  rw [bytes_eq, bytes_eq]
  exact hchars _ _ (String.lt_iff.1 h)

end FibTiming.Text
