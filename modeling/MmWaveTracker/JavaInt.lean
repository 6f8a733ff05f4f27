import Mathlib.Data.Int.Basic
import Mathlib.Tactic.Common

/-! Java's fixed-width integers as integers with explicit wrap-around, and the
decimal text `String.format` makes of them. -/
namespace MmWaveTracker

/-- The value a Java `int` holds after an operation with exact result `x`. -/
def wrap32 (x : ℤ) : ℤ := (x + 2147483648)%4294967296 - 2147483648

/-- The value a Java `long` holds after an operation with exact result `x`. -/
def wrap64 (x : ℤ) : ℤ := (x + 9223372036854775808)%18446744073709551616 - 9223372036854775808

theorem wrap32_of_range (x : ℤ) (hlo : -2147483648 ≤ x) (hhi : x < 2147483648) : wrap32 x = x := by
  unfold wrap32
  omega

theorem wrap32_add_wrap32 (x y : ℤ) : wrap32 (wrap32 x + y) = wrap32 (x+y) := by
  unfold wrap32
  omega

def valueOf (n : ℤ) : String := Int.repr n

/-- `String.format("%02d", n)`: at least two characters, padded with a zero. -/
def format02 (n : ℤ) : String := if 0 ≤ n ∧ n < 10 then "0" ++ valueOf n else valueOf n

theorem valueOf_toList_ofNat (n : ℕ) : (valueOf (n:ℤ)).toList = Nat.toDigits 10 n := by
  change (Nat.repr n).toList = _
  exact Nat.toList_repr

theorem valueOf_toList_neg (n : ℕ) :
    (valueOf (Int.negSucc n)).toList = '-' :: Nat.toDigits 10 (n+1) := by
  change ("-" ++ Nat.repr (n+1)).toList = _
  rw [String.toList_append, Nat.toList_repr]
  rfl

theorem minus_not_mem_toDigits (n : ℕ) : '-' ∉ Nat.toDigits 10 n := by
  intro h
  have hd := Nat.isDigit_of_mem_toDigits (by decide) (by decide) h
  revert hd
  decide

theorem toDigits_ten_injective (m n : ℕ) (h : Nat.toDigits 10 m = Nat.toDigits 10 n) : m = n := by
  have hh := congrArg (fun l => Nat.ofDigitChars 10 l 0) h
  simpa only [Nat.ofDigitChars_ten_toDigits] using hh

theorem valueOf_injective (a b : ℤ) (h : valueOf a = valueOf b) : a = b := by
  have hl := congrArg String.toList h
  rcases a with m | m <;> rcases b with n | n
  · change (valueOf (m:ℤ)).toList = (valueOf (n:ℤ)).toList at hl
    rw [valueOf_toList_ofNat, valueOf_toList_ofNat] at hl
    rw [toDigits_ten_injective m n hl]
  · change (valueOf (m:ℤ)).toList = _ at hl
    rw [valueOf_toList_ofNat, valueOf_toList_neg] at hl
    exact False.elim (minus_not_mem_toDigits m (hl ▸ List.mem_cons_self))
  · change _ = (valueOf (n:ℤ)).toList at hl
    rw [valueOf_toList_ofNat, valueOf_toList_neg] at hl
    exact False.elim (minus_not_mem_toDigits n (hl ▸ List.mem_cons_self))
  · rw [valueOf_toList_neg, valueOf_toList_neg, List.cons.injEq] at hl
    have hn := toDigits_ten_injective (m+1) (n+1) hl.2
    rw [Nat.add_right_cancel hn]

/-- A padded number is never the text of another number: reading its digits
back ignores the leading zero. -/
theorem zero_append_valueOf_ne (n : ℕ) (b : ℤ) (hb : b ≠ n) : "0" ++ valueOf (n:ℤ) ≠ valueOf b := by
  intro h
  have hl := congrArg String.toList h
  rw [String.toList_append, valueOf_toList_ofNat] at hl
  change '0' :: Nat.toDigits 10 n = _ at hl
  rcases b with m | m
  · change _ = (valueOf (m:ℤ)).toList at hl
    rw [valueOf_toList_ofNat] at hl
    have hh := congrArg (fun l => Nat.ofDigitChars 10 l 0) hl
    rw [Nat.ofDigitChars_cons, Nat.ofDigitChars_ten_toDigits] at hh
    change Nat.ofDigitChars 10 (Nat.toDigits 10 n) 0 = m at hh
    rw [Nat.ofDigitChars_ten_toDigits] at hh
    exact hb (by rw [hh]; rfl)
  · rw [valueOf_toList_neg, List.cons.injEq] at hl
    exact absurd hl.1 (by decide)

theorem format02_injective (a b : ℤ) (h : format02 a = format02 b) : a = b := by
  by_contra hne
  unfold format02 at h
  split_ifs at h with ha hb hb
  · exact hne (valueOf_injective a b ((String.append_right_inj "0").mp h))
  · obtain ⟨n, rfl⟩ := Int.eq_ofNat_of_zero_le ha.1
    exact zero_append_valueOf_ne n b (Ne.symm hne) h
  · obtain ⟨n, rfl⟩ := Int.eq_ofNat_of_zero_le hb.1
    exact zero_append_valueOf_ne n a hne h.symm
  · exact hne (valueOf_injective a b h)

end MmWaveTracker
