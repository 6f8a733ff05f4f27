import MmWaveTracker.CString

/-! Formatted input in C++: the lines of a file, and the words and numbers of a line. -/
namespace MmWaveTracker

namespace IStream

open CString

/-- The lines that `getline` gives until it fails. -/
def lines : List UInt8 → List (List UInt8)
  | [] => []
  | b :: rest =>
    if b = 10 then [] :: lines rest
    else
      match lines rest with
      | [] => [[b]]
      | line :: more => (b :: line) :: more

/-- `>>` into a string: the word, and what is left. -/
def extractWord (s : List UInt8) : List UInt8 × List UInt8 :=
  let s := s.dropWhile isspace
  (s.takeWhile fun b => !isspace b, s.dropWhile fun b => !isspace b)

/-- `>>` into an `int`: what is stored, and what is left if the stream is still good. -/
def extractInt (s : List UInt8) : Option Int32 × Option (List UInt8) :=
  let s := s.dropWhile isspace
  if s = [] then (none, none)
  else
    let negative := s.head? = some 45
    let s := if negative ∨ s.head? = some 43 then s.tail else s
    let digits := s.takeWhile isdigit
    if digits = [] then (some 0, none)
    else
      let value : ℤ := if negative then -digitsFrom 0 digits else digitsFrom 0 digits
      -- a number that is too large is stored as the nearest `int`, and the stream fails
      (some (Int32.ofIntClamp value),
        if -2147483648 ≤ value ∧ value ≤ 2147483647 then some (s.dropWhile isdigit) else none)

/-- `while (s) s >> a[count++]`: the numbers stored in `a`. A number takes a byte at least. -/
def extractInts : ℕ → List UInt8 → List Int32
  | 0, _ => []
  | fuel+1, s =>
    match extractInt s with
    | (none, _) => []
    | (some value, none) => [value]
    | (some value, some rest) => value :: extractInts fuel rest

/-! Lines. -/

theorem lines_append (line rest : List UInt8) (h : 10 ∉ line) :
    lines (line ++ 10 :: rest) = line :: lines rest := by
  induction line with
  | nil => rfl
  | cons b line ih =>
    have hb : b ≠ 10 := fun heq => h (heq ▸ List.mem_cons_self)
    rw [List.cons_append, lines, if_neg hb, ih fun hmem => h (List.mem_cons_of_mem b hmem)]

/-- Lines that each end in a newline are read back. -/
theorem lines_flatMap (ls : List (List UInt8)) (h : ∀ line ∈ ls, 10 ∉ line) :
    lines (ls.flatMap fun line => line ++ [10]) = ls := by
  induction ls with
  | nil => rfl
  | cons line ls ih =>
    rw [List.flatMap_cons, List.append_assoc, List.singleton_append,
      lines_append line _ (h line List.mem_cons_self),
      ih fun l hl => h l (List.mem_cons_of_mem line hl)]

/-! Numbers. -/

theorem dropWhile_spaces (gap : ℕ) (s : List UInt8) (hs : ∀ b, s.head? = some b →
    isspace b = false) : (List.replicate gap 32 ++ s).dropWhile isspace = s := by
  rw [List.dropWhile_append_of_pos fun b hb => List.eq_of_mem_replicate hb ▸ rfl]
  cases s with
  | nil => rfl
  | cons b s => exact List.dropWhile_cons_of_neg (by simp [hs b rfl])

/-- A printed number is stored, and ends the extraction if it is no `int`. -/
theorem extractInt_digits (gap v : ℕ) (rest : List UInt8) (hrest : ∀ b, rest.head? = some b →
    isdigit b = false) : extractInt (List.replicate gap 32 ++ (digits v ++ rest)) =
      (some (Int32.ofIntClamp v), if v ≤ 2147483647 then some rest else none) := by
  obtain ⟨b, ds, hds⟩ := List.exists_cons_of_ne_nil (digits_ne_nil v)
  have hdigits := isdigit_of_mem_digits v
  obtain ⟨hspace, hminus, hplus⟩ := isdigit_not_special b (hdigits b (hds ▸ List.mem_cons_self))
  have htake : rest.takeWhile isdigit = [] := by
    cases rest with
    | nil => rfl
    | cons r rest => exact List.takeWhile_cons_of_neg (by simp [hrest r rfl])
  have hdrop : rest.dropWhile isdigit = rest := by
    cases rest with
    | nil => rfl
    | cons r rest => exact List.dropWhile_cons_of_neg (by simp [hrest r rfl])
  have hskip : (List.replicate gap 32 ++ (digits v ++ rest)).dropWhile isspace = digits v ++
      rest := by
    apply dropWhile_spaces
    intro b' hb'
    rw [hds] at hb'
    obtain rfl := Option.some.inj hb'
    exact hspace
  have hhead : (digits v ++ rest).head? = some b := by
    rw [hds]
    rfl
  have hfits : (-2147483648 ≤ (v:ℤ) ∧ (v:ℤ) ≤ 2147483647) ↔ v ≤ 2147483647 := by omega
  have hne : digits v ++ rest ≠ [] := by
    rw [hds]
    exact List.cons_ne_nil _ _
  simp only [extractInt, hskip, hhead, Option.some.injEq, hminus, hplus, or_self, if_false, hne]
  rw [List.takeWhile_append_of_pos hdigits, htake, List.append_nil, if_neg (digits_ne_nil v),
    List.dropWhile_append_of_pos hdigits, hdrop, digitsFrom_digits]
  simp only [hfits]

end IStream

end MmWaveTracker
