import MmWaveTracker.JavaInt
import Mathlib.Data.List.TakeWhile

/-! Bytes in C arrays: overwriting a part of an array, and the `string.h`, `stdlib.h` and
`stdio.h` functions that work on a string up to its terminating zero. -/
namespace MmWaveTracker

namespace CString

/-- The bytes `bs` written over an array from `offset` on; past its end they go to what
follows the array. -/
def writeAt (array : List UInt8) (offset : ℕ) (bs : List UInt8) : List UInt8 :=
  array.take offset ++ bs ++ array.drop (offset+bs.length)

/-- The bytes of a string, without its terminating zero. -/
def str (array : List UInt8) : List UInt8 := array.takeWhile (· ≠ 0)

def isspace (b : UInt8) : Bool := b = 32 || (9 ≤ b && b ≤ 13)

def isdigit (b : UInt8) : Bool := 48 ≤ b && b ≤ 57

/-- The number that digits spell, after what has been read as `v`. -/
def digitsFrom (v : ℕ) (digits : List UInt8) : ℕ := digits.foldl (fun v b => 10*v + (b.toNat-48)) v

/-- A `long` does not go past its ends. -/
def clampLong (x : ℤ) : ℤ := max (-9223372036854775808) (min x 9223372036854775807)

/-- `strtol(nptr, NULL, 10)`. -/
def strtol (nptr : List UInt8) : ℤ :=
  let nptr := nptr.dropWhile isspace
  let negative := nptr.head? = some 45
  let digits := if negative ∨ nptr.head? = some 43 then nptr.tail else nptr
  let value : ℤ := digitsFrom 0 (digits.takeWhile isdigit)
  clampLong (if negative then -value else value)

/-- `atoi`: the `long` as an `int`. -/
def atoi (nptr : List UInt8) : ℤ := wrap32 (strtol nptr)

def ascii (text : String) : List UInt8 := text.toList.map fun c => UInt8.ofNat c.toNat

/-- What `sprintf(str, "%d", n)` writes, without the terminating zero. -/
def decimal (n : ℤ) : List UInt8 := ascii (valueOf n)

theorem writeAt_zero (array bs : List UInt8) : writeAt array 0 bs = bs ++ array.drop bs.length := by
  rw [writeAt, List.take_zero, List.nil_append, Nat.zero_add]

/-- A byte of the array is the one written over it, if any. -/
theorem getElem?_writeAt_zero (array bs : List UInt8) (n : ℕ) :
    (writeAt array 0 bs)[n]? = if n < bs.length then bs[n]? else array[n]? := by
  rw [writeAt_zero]
  split_ifs with hn
  · exact List.getElem?_append_left hn
  · rw [List.getElem?_append_right (not_lt.mp hn), List.getElem?_drop,
      Nat.add_sub_cancel' (not_lt.mp hn)]

/-- The bytes in front of the place of writing stay, those at it are the ones written. -/
theorem getElem?_writeAt (array bs : List UInt8) (offset n : ℕ) (h : offset ≤ array.length)
    (hn : n < offset+bs.length) :
    (writeAt array offset bs)[n]? = if n < offset then array[n]? else bs[n-offset]? := by
  have hlen : (array.take offset).length = offset := List.length_take_of_le h
  rw [writeAt, List.getElem?_append_left (by rw [List.length_append, hlen]; exact hn)]
  split_ifs with hlt
  · rw [List.getElem?_append_left (by rw [hlen]; exact hlt), List.getElem?_take_of_lt hlt]
  · rw [List.getElem?_append_right (by rw [hlen]; exact not_lt.mp hlt), hlen]

theorem le_length_writeAt_zero (array bs : List UInt8) :
    array.length ≤ (writeAt array 0 bs).length := by
  rw [writeAt_zero, List.length_append, List.length_drop]
  omega

theorem take_writeAt_zero (array bs : List UInt8) (b : UInt8) (h : array[bs.length]? = some b) :
    (writeAt array 0 bs).take (bs.length+1) = bs ++ [b] := by
  obtain ⟨hlt, rfl⟩ := List.getElem?_eq_some_iff.mp h
  rw [writeAt_zero, List.take_length_add_append, List.drop_eq_getElem_cons hlt]
  rfl

/-- A text written behind bytes that are not zero is the end of the string. -/
theorem str_writeAt_text (array text : List UInt8) (offset : ℕ)
    (harray : ∀ b ∈ array.take offset, b ≠ 0) (htext : ∀ b ∈ text, b ≠ 0) :
    str (writeAt array offset (text ++ [0])) = array.take offset ++ text := by
  have hwritten : writeAt array offset (text ++ [0]) =
      (array.take offset ++ text) ++ 0 :: array.drop (offset+(text ++ [0]).length) := by
    rw [writeAt, List.append_assoc, List.append_assoc, List.append_assoc]
    rfl
  rw [hwritten, str, List.takeWhile_append_of_pos, List.takeWhile_cons_of_neg (by simp),
    List.append_nil]
  intro b hb
  rcases List.mem_append.mp hb with hb | hb
  · exact decide_eq_true (harray b hb)
  · exact decide_eq_true (htext b hb)

theorem digitsFrom_cons (v : ℕ) (b : UInt8) (digits : List UInt8) :
    digitsFrom v (b :: digits) = digitsFrom (10*v + (b.toNat-48)) digits := by
  rw [digitsFrom, List.foldl_cons, digitsFrom]

theorem digitsFrom_append (v : ℕ) (first second : List UInt8) :
    digitsFrom v (first ++ second) = digitsFrom (digitsFrom v first) second := by
  rw [digitsFrom, List.foldl_append, digitsFrom, digitsFrom]

theorem isdigit_not_special (b : UInt8) (h : isdigit b = true) :
    isspace b = false ∧ b ≠ 45 ∧ b ≠ 43 := by
  simp only [isdigit, isspace, Bool.and_eq_true, decide_eq_true_eq, UInt8.le_iff_toNat_le] at h ⊢
  have h48 : (48:UInt8).toNat = 48 := rfl
  have h57 : (57:UInt8).toNat = 57 := rfl
  rw [h48, h57] at h
  refine ⟨?_, ?_, ?_⟩
  · simp only [Bool.or_eq_false_iff, decide_eq_false_iff_not, Bool.and_eq_false_iff]
    refine ⟨?_, .inr ?_⟩
    · rintro rfl
      exact absurd h.1 (by decide)
    · have h13 : (13:UInt8).toNat = 13 := rfl
      rw [h13]
      omega
  · rintro rfl
    exact absurd h.1 (by decide)
  · rintro rfl
    exact absurd h.1 (by decide)

/-- Digits are read up to the first byte that is not one. -/
theorem strtol_digits (digits rest : List UInt8) (hne : digits ≠ [])
    (hdigits : ∀ b ∈ digits, isdigit b = true) (hrest : ∀ b, rest.head? = some b →
      isdigit b = false) :
    strtol (digits ++ rest) = clampLong (digitsFrom 0 digits) := by
  obtain ⟨b, bs, rfl⟩ := List.exists_cons_of_ne_nil hne
  obtain ⟨hspace, hminus, hplus⟩ := isdigit_not_special b (hdigits b List.mem_cons_self)
  have hdrop : ((b :: bs) ++ rest).dropWhile isspace = (b :: bs) ++ rest := by
    rw [List.cons_append, List.dropWhile_cons_of_neg (by simp [hspace])]
  have htake : rest.takeWhile isdigit = [] := by
    cases rest with
    | nil => rfl
    | cons r rest => exact List.takeWhile_cons_of_neg (by simp [hrest r rfl])
  have hwhile : ((b :: bs) ++ rest).takeWhile isdigit = b :: bs := by
    rw [List.takeWhile_append_of_pos hdigits, htake, List.append_nil]
  unfold strtol
  simp only [hdrop]
  simp only [List.cons_append, List.head?_cons, Option.some.injEq, hminus, hplus, or_self, if_false]
  rw [← List.cons_append, hwhile]

theorem clampLong_of_lt (v : ℕ) (h : v < 9223372036854775808) : clampLong v = v := by
  unfold clampLong
  omega

/-! Printed numbers. -/

theorem isDigit_range (c : Char) (h : c.isDigit = true) : 48 ≤ c.toNat ∧ c.toNat ≤ 57 := by
  simp only [Char.isDigit, Bool.and_eq_true, decide_eq_true_eq, ge_iff_le,
    UInt32.le_iff_toNat_le] at h
  exact h

theorem toNat_digit (c : Char) (h : c.isDigit = true) : (UInt8.ofNat c.toNat).toNat = c.toNat := by
  have hhi := (isDigit_range c h).2
  rw [UInt8.toNat_ofNat']
  exact Nat.mod_eq_of_lt (by omega)

theorem isdigit_ascii (c : Char) (h : c.isDigit = true) : isdigit (UInt8.ofNat c.toNat) = true := by
  have h48 : (48:UInt8).toNat = 48 := rfl
  have h57 : (57:UInt8).toNat = 57 := rfl
  rw [isdigit, Bool.and_eq_true, decide_eq_true_eq, decide_eq_true_eq, UInt8.le_iff_toNat_le,
    UInt8.le_iff_toNat_le, toNat_digit c h, h48, h57]
  exact isDigit_range c h

/-- The bytes of digits spell what the digits do. -/
theorem digitsFrom_ascii (l : List Char) (h : ∀ c ∈ l, c.isDigit = true) (v : ℕ) :
    digitsFrom v (l.map fun c => UInt8.ofNat c.toNat) = Nat.ofDigitChars 10 l v := by
  induction l generalizing v with
  | nil => rfl
  | cons c l ih =>
    have hrest := ih (fun x hx => h x (List.mem_cons_of_mem c hx))
    rw [List.map_cons, digitsFrom_cons, toNat_digit c (h c List.mem_cons_self), hrest,
      Nat.ofDigitChars_cons]
    rfl

/-- The digits of a number, as bytes. -/
def digits (n : ℕ) : List UInt8 := (Nat.toDigits 10 n).map fun c => UInt8.ofNat c.toNat

theorem decimal_ofNat (n : ℕ) : decimal n = digits n := by
  rw [decimal, ascii, valueOf_toList_ofNat, digits]

theorem decimal_negSucc (n : ℕ) : decimal (Int.negSucc n) = 45 :: digits (n+1) := by
  rw [decimal, ascii, valueOf_toList_neg, List.map_cons, digits]
  rfl

theorem isdigit_of_mem_digits (n : ℕ) (b : UInt8) (hb : b ∈ digits n) : isdigit b = true := by
  obtain ⟨c, hc, rfl⟩ := List.mem_map.mp hb
  exact isdigit_ascii c (Nat.isDigit_of_mem_toDigits (by decide) (by decide) hc)

theorem digits_ne_nil (n : ℕ) : digits n ≠ [] := by
  rw [digits, Ne, List.map_eq_nil_iff]
  exact Nat.toDigits_ne_nil

theorem mem_decimal (n : ℤ) (b : UInt8) (hb : b ∈ decimal n) : isdigit b = true ∨ b = 45 := by
  cases n with
  | ofNat m =>
    change b ∈ decimal (m:ℤ) at hb
    rw [decimal_ofNat] at hb
    exact .inl (isdigit_of_mem_digits m b hb)
  | negSucc m =>
    rw [decimal_negSucc] at hb
    rcases List.mem_cons.mp hb with rfl | hb
    · exact .inr rfl
    · exact .inl (isdigit_of_mem_digits (m+1) b hb)

theorem decimal_ne_zero (n : ℤ) (b : UInt8) (hb : b ∈ decimal n) : b ≠ 0 := by
  rintro rfl
  exact absurd (mem_decimal n 0 hb) (by decide)

theorem decimal_ne_nil (n : ℤ) : decimal n ≠ [] := by
  cases n with
  | ofNat m =>
    change decimal (m:ℤ) ≠ []
    rw [decimal_ofNat]
    exact digits_ne_nil m
  | negSucc m =>
    rw [decimal_negSucc]
    exact List.cons_ne_nil _ _

theorem digitsFrom_digits (n : ℕ) : digitsFrom 0 (digits n) = n := by
  have hdigit (c : Char) (hc : c ∈ Nat.toDigits 10 n) : c.isDigit = true :=
    Nat.isDigit_of_mem_toDigits (by decide) (by decide) hc
  rw [digits, digitsFrom_ascii _ hdigit, Nat.ofDigitChars_ten_toDigits]

/-- A minus in front of digits. -/
theorem strtol_minus (digits rest : List UInt8) (hdigits : ∀ b ∈ digits, isdigit b = true)
    (hrest : ∀ b, rest.head? = some b → isdigit b = false) :
    strtol (45 :: digits ++ rest) = clampLong (-digitsFrom 0 digits) := by
  have htake : rest.takeWhile isdigit = [] := by
    cases rest with
    | nil => rfl
    | cons r rest => exact List.takeWhile_cons_of_neg (by simp [hrest r rfl])
  have hwhile : (digits ++ rest).takeWhile isdigit = digits := by
    rw [List.takeWhile_append_of_pos hdigits, htake, List.append_nil]
  have hdrop : (45 :: (digits ++ rest)).dropWhile isspace = 45 :: (digits ++ rest) :=
    List.dropWhile_cons_of_neg (by decide)
  unfold strtol
  rw [List.cons_append]
  simp only [hdrop, List.head?_cons, true_or, if_true, List.tail_cons, hwhile]

/-- A printed number is read as it is. -/
theorem strtol_decimal (n : ℤ) (rest : List UInt8) (hlo : -9223372036854775808 ≤ n)
    (hhi : n < 9223372036854775808) (hrest : ∀ b, rest.head? = some b → isdigit b = false) :
    strtol (decimal n ++ rest) = n := by
  cases n with
  | ofNat m =>
    change strtol (decimal (m:ℤ) ++ rest) = m
    rw [decimal_ofNat, strtol_digits _ _ (digits_ne_nil m) (isdigit_of_mem_digits m) hrest,
      digitsFrom_digits]
    unfold clampLong
    change (m:ℤ) < _ at hhi
    omega
  | negSucc m =>
    rw [decimal_negSucc, strtol_minus _ _ (isdigit_of_mem_digits (m+1)) hrest, digitsFrom_digits]
    unfold clampLong
    omega

theorem strtol_space (b : UInt8) (h : isspace b = true) (nptr : List UInt8) :
    strtol (b :: nptr) = strtol nptr := by
  unfold strtol
  rw [List.dropWhile_cons_of_pos h]

theorem strtol_spaces (spaces nptr : List UInt8) (h : ∀ b ∈ spaces, isspace b = true) :
    strtol (spaces ++ nptr) = strtol nptr := by
  induction spaces with
  | nil => rfl
  | cons b spaces ih =>
    rw [List.cons_append, strtol_space b (h b List.mem_cons_self)]
    exact ih fun x hx => h x (List.mem_cons_of_mem b hx)

end CString

end MmWaveTracker
