import MmWaveTracker.CJsonRoundTrip

/-! What a parser accepts can be printed and parsed again. -/
namespace MmWaveTracker

namespace CJson

open CString

section parsed

variable {D : Type} (c : Numbers D)

/-- The elements that one round after the other reads are nested no deeper than each of them. -/
theorem nestingElements_le (parseValue : List UInt8 → Option (Item D × List UInt8)) (levels : ℕ)
    (hvalue : ∀ input item rest, parseValue input = some (item, rest) → nesting item ≤ levels)
    (fuel : ℕ)
    (input : List UInt8) (child : List (Item D)) (rest : List UInt8)
    (h : parseElements parseValue fuel input = some (child, rest)) :
    nestingElements child ≤ levels := by
  induction fuel generalizing input child with
  | zero => cases h
  | succ fuel ih =>
    obtain ⟨⟨item, rest'⟩, hitem, h⟩ := Option.bind_eq_some_iff.mp h
    have hle := hvalue _ item rest' hitem
    cases hskip : skipWhitespace rest' with
    | nil =>
      simp only [hskip] at h
      cases h
    | cons b more =>
      simp only [hskip] at h
      split_ifs at h with hcomma hclose
      · obtain ⟨⟨next, rest''⟩, hnext, heq⟩ := Option.map_eq_some_iff.mp h
        cases heq
        rw [nestingElements]
        exact max_le hle (ih more next hnext)
      · cases h
        rw [nestingElements, nestingElements]
        exact max_le hle (Nat.zero_le levels)

theorem nestingMembers_le (parseValue : List UInt8 → Option (Item D × List UInt8)) (levels : ℕ)
    (hvalue : ∀ input item rest, parseValue input = some (item, rest) → nesting item ≤ levels)
    (fuel : ℕ)
    (input : List UInt8) (child : List (Text × Item D)) (rest : List UInt8)
    (h : parseMembers parseValue fuel input = some (child, rest)) :
    nestingMembers child ≤ levels := by
  induction fuel generalizing input child with
  | zero => cases h
  | succ fuel ih =>
    obtain ⟨⟨string, rest₁⟩, -, h⟩ := Option.bind_eq_some_iff.mp h
    cases hskip : skipWhitespace rest₁ with
    | nil =>
      simp only [hskip] at h
      cases h
    | cons colon rest₂ =>
      simp only [hskip] at h
      split_ifs at h with hcolon
      obtain ⟨⟨item, rest₃⟩, hitem, h⟩ := Option.bind_eq_some_iff.mp h
      have hle := hvalue _ item rest₃ hitem
      cases hskip : skipWhitespace rest₃ with
      | nil =>
        simp only [hskip] at h
        cases h
      | cons b more =>
        simp only [hskip] at h
        split_ifs at h with hcomma hclose
        · obtain ⟨⟨next, rest₄⟩, hnext, heq⟩ := Option.map_eq_some_iff.mp h
          cases heq
          rw [nestingMembers]
          exact max_le hle (ih more next hnext)
        · cases h
          rw [nestingMembers, nestingMembers]
          exact max_le hle (Nat.zero_le levels)

theorem nesting_parseArray (parseValue : List UInt8 → Option (Item D × List UInt8)) (levels : ℕ)
    (hvalue : ∀ input item rest, parseValue input = some (item, rest) → nesting item ≤ levels)
    (input : List UInt8)
    (item : Item D) (rest : List UInt8) (h : parseArray parseValue input = some (item, rest)) :
    nesting item ≤ levels+1 := by
  rw [parseArray] at h
  cases hskip : skipWhitespace input with
  | nil =>
    simp only [hskip] at h
    cases h
  | cons b more =>
    simp only [hskip] at h
    split_ifs at h with hclose
    · cases h
      rw [nesting, nestingElements]
      exact Nat.le_add_left 1 levels
    · obtain ⟨⟨child, rest'⟩, hchild, heq⟩ := Option.map_eq_some_iff.mp h
      cases heq
      rw [nesting]
      exact Nat.succ_le_succ (nestingElements_le _ levels hvalue _ _ child _ hchild)

theorem nesting_parseObject (parseValue : List UInt8 → Option (Item D × List UInt8)) (levels : ℕ)
    (hvalue : ∀ input item rest, parseValue input = some (item, rest) → nesting item ≤ levels)
    (input : List UInt8)
    (item : Item D) (rest : List UInt8) (h : parseObject parseValue input = some (item, rest)) :
    nesting item ≤ levels+1 := by
  rw [parseObject] at h
  cases hskip : skipWhitespace input with
  | nil =>
    simp only [hskip] at h
    cases h
  | cons b more =>
    simp only [hskip] at h
    split_ifs at h with hclose
    · cases h
      rw [nesting, nestingMembers]
      exact Nat.le_add_left 1 levels
    · obtain ⟨⟨child, rest'⟩, hchild, heq⟩ := Option.map_eq_some_iff.mp h
      cases heq
      rw [nesting]
      exact Nat.succ_le_succ (nestingMembers_le _ levels hvalue _ _ child _ hchild)

/-- A value that was read is not nested, or it is an array or an object that took a level. -/
theorem parseValue_cases (levels : ℕ) (input : List UInt8) (item : Item D) (rest : List UInt8)
    (h : parseValue c levels input = some (item, rest)) :
    nesting item = 0 ∨ ∃ below more, levels = below+1 ∧
      (parseArray (parseValue c below) more = some (item, rest) ∨
        parseObject (parseValue c below) more = some (item, rest)) := by
  rw [parseValue.eq_def] at h
  dsimp only at h
  split_ifs at h
  · cases h; exact .inl nesting.eq_1
  · cases h; exact .inl nesting.eq_2
  · cases h; exact .inl nesting.eq_3
  cases input with
  | nil => cases h
  | cons b more =>
    simp only at h
    split_ifs at h with hstring hnumber harray hobject
    · obtain ⟨⟨string, rest'⟩, -, heq⟩ := Option.map_eq_some_iff.mp h
      cases heq
      exact .inl (nesting.eq_5 string)
    · obtain ⟨⟨number, rest'⟩, -, heq⟩ := Option.map_eq_some_iff.mp h
      cases heq
      exact .inl (nesting.eq_4 number)
    · cases levels with
      | zero => cases h
      | succ levels => exact .inr ⟨levels, more, rfl, .inl h⟩
    · cases levels with
      | zero => cases h
      | succ levels => exact .inr ⟨levels, more, rfl, .inr h⟩

/-- A value is nested no deeper than there were levels for it. -/
theorem nesting_le (levels : ℕ) (input : List UInt8) (item : Item D) (rest : List UInt8)
    (h : parseValue c levels input = some (item, rest)) : nesting item ≤ levels := by
  induction levels generalizing input item rest with
  | zero =>
    obtain hzero | ⟨below, more, hlevels, -⟩ := parseValue_cases c 0 input item rest h
    · exact hzero.le
    · cases hlevels
  | succ levels ih =>
    obtain hzero | ⟨below, more, hlevels, harray | hobject⟩ :=
      parseValue_cases c (levels+1) input item rest h
    · exact hzero.le.trans (Nat.zero_le _)
    · cases hlevels
      exact nesting_parseArray _ levels ih more item rest harray
    · cases hlevels
      exact nesting_parseObject _ levels ih more item rest hobject

end parsed

section whole

/-- The doubles that are whole and of at most 53 bits, written as `"%d"` would write them. -/
abbrev Whole : Type := {n : ℤ // n.natAbs ≤ 9007199254740992}

def Whole.of (n : ℤ) : Whole :=
  if h : n.natAbs ≤ 9007199254740992 then ⟨n, h⟩ else ⟨0, Nat.zero_le _⟩

def wholeLength (text : List UInt8) : ℕ :=
  ((text.drop (if text.head? = some 45 then 1 else 0)).takeWhile isdigit).length

def wholeNumbers : Numbers Whole where
  decimalPoint := 46
  finite _ := true
  g15 d := decimal d.val
  g17 d := decimal d.val
  strtod text :=
    if h : 0 < wholeLength text ∧ (strtol text).natAbs ≤ 9007199254740992 then
      some (⟨strtol text, h.2⟩, (if text.head? = some 45 then 1 else 0) + wholeLength text)
    else none
  ofInt := Whole.of
  trunc d := d.val
  sub d d' := Whole.of (d.val-d'.val)

theorem takeWhile_digits (n : ℕ) : (digits n).takeWhile isdigit = digits n :=
  List.takeWhile_eq_self_iff.mpr (isdigit_of_mem_digits n)

theorem length_digits (n : ℕ) (h : n ≤ 9007199254740992) : (digits n).length ≤ 16 := by
  rw [digits, List.length_map]
  exact (Nat.length_toDigits_le_iff (by decide) (by decide)).mpr (by omega)

theorem head_digits (n : ℕ) : ∃ b rest, digits n = b :: rest ∧ isdigit b = true := by
  obtain ⟨b, rest, h⟩ := List.exists_cons_of_ne_nil (digits_ne_nil n)
  exact ⟨b, rest, h, isdigit_of_mem_digits n b (h ▸ List.mem_cons_self)⟩

/-- The sign and the digits of a number are all that is read of it. -/
theorem wholeLength_decimal (n : ℤ) : 0 < wholeLength (decimal n) ∧
    (if (decimal n).head? = some 45 then 1 else 0) + wholeLength
    (decimal n) = (decimal n).length := by
  cases n with
  | ofNat m =>
    obtain ⟨b, rest, hb, hdigit⟩ := head_digits m
    have hdecimal : decimal (Int.ofNat m) = b :: rest := (decimal_ofNat m).trans hb
    have hne : ¬(b :: rest).head? = some 45 := by
      rintro ⟨⟩
      exact absurd hdigit (by decide)
    have htake : (b :: rest).takeWhile isdigit = b :: rest := by rw [← hb, takeWhile_digits]
    rw [hdecimal, wholeLength, if_neg hne, List.drop_zero, htake, List.length_cons]
    exact ⟨Nat.succ_pos _, Nat.zero_add _⟩
  | negSucc m =>
    have hhead : (45 :: digits (m+1)).head? = some 45 := rfl
    rw [decimal_negSucc, wholeLength, if_pos hhead, List.drop_succ_cons, List.drop_zero,
      takeWhile_digits, List.length_cons]
    exact ⟨List.length_pos_iff.mpr (digits_ne_nil _), Nat.add_comm _ _⟩

theorem strtod_decimal (d : Whole) :
    wholeNumbers.strtod (decimal d.val) = some (d, (decimal d.val).length) := by
  obtain ⟨n, hn⟩ := d
  have hval : strtol (decimal n) = n := by
    have hread := strtol_decimal n [] (by omega) (by omega) (fun b hb => by cases hb)
    rwa [List.append_nil] at hread
  obtain ⟨hpos, hlength⟩ := wholeLength_decimal n
  have hread : 0 < wholeLength (decimal n) ∧ (strtol (decimal n)).natAbs ≤ 9007199254740992 :=
    ⟨hpos, by rwa [hval]⟩
  refine (dif_pos hread).trans (congrArg some (Prod.ext (Subtype.ext hval) hlength))

theorem numeral_decimal (d : Whole) : Numeral wholeNumbers (decimal d.val) where
  bytes b hb := by
    refine .inr ?_
    rcases mem_decimal d.val b hb with hdigit | rfl
    · refine ⟨by rw [isNumberByte, hdigit]; rfl, ?_⟩
      rintro rfl
      exact absurd hdigit (by decide)
    · decide
  first := by
    obtain ⟨b, rest, hb⟩ := List.exists_cons_of_ne_nil (decimal_ne_nil d.val)
    have hmem := mem_decimal d.val b (hb ▸ List.mem_cons_self)
    refine ⟨b, by rw [hb]; rfl, hmem.symm, ?_⟩
    rintro rfl
    exact absurd hmem (by decide)
  length := by
    obtain ⟨n, hn⟩ := d
    cases n with
    | ofNat m =>
      change (decimal (m:ℤ)).length ≤ 25
      rw [decimal_ofNat]
      exact (length_digits m hn).trans (by decide)
    | negSucc m =>
      rw [decimal_negSucc, List.length_cons]
      exact Nat.succ_le_succ ((length_digits (m+1) hn).trans (by decide))
  read := ⟨d, strtod_decimal d⟩

theorem standard_wholeNumbers : wholeNumbers.Standard where
  point := by
    have hnull : ascii "null" = [110, 117, 108, 108] := rfl
    intro b hb
    rw [hnull] at hb
    rintro rfl
    exact absurd hb (by decide)
  g15 d _ := numeral_decimal d
  g17 d _ := numeral_decimal d
  identify d _ := decide_eq_true (by
    change (wholeNumbers.strtod (decimal d.val)).map Prod.fst = some d
    rw [strtod_decimal, Option.map_some])
  ofInt n h := ⟨rfl, congrArg Subtype.val (dif_pos h : Whole.of n = ⟨n, h⟩)⟩

end whole

section exchange

variable {D : Type} [DecidableEq D] (c : Numbers D)

/-- A printed tree, formatted or not, is parsed as the same tree again if and only if its arrays and
objects are not nested too deep for a parser; only numbers that are not finite are lost. -/
theorem parse_of_print (hc : c.Standard) (format : Bool) (item : Item D) (text : List UInt8)
    (h : print c format item = some text) :
    parse c text = if nesting item ≤ cjsonNestingLimit then some (readBack c item) else none := by
  obtain ⟨text', htext, -, hparse⟩ := exists_print c hc format item
  cases h.symm.trans htext
  exact hparse

/-- An object with a list, a text that has to be escaped and a number in it. -/
theorem parse_of_print_whole : parse wholeNumbers (ascii "\x7b\n\t\"a\\n\":\t[-12, true]\n\x7d") =
    some (.object [(Text.of (ascii "a\n"), .array [.number ⟨-12, by decide⟩, .true])]) :=
  (parse_of_print wholeNumbers standard_wholeNumbers true
    (.object [(Text.of (ascii "a\n"), .array [.number ⟨-12, by decide⟩, .true])]) _ rfl).trans
    (if_pos (by decide))

/-- A tree that was parsed from any text can be printed, formatted or not, and parsed again: nothing
is lost then but numbers that are not finite. -/
theorem reparse (hc : c.Standard) (format : Bool) (value : List UInt8) (item : Item D)
    (h : parse c value = some item) : ∃ text, print c format item = some text ∧
      parse c text = some (readBack c item) := by
  obtain ⟨⟨item', rest⟩, hparse, rfl⟩ := Option.map_eq_some_iff.mp h
  obtain ⟨text, htext, -, hagain⟩ := exists_print c hc format item'
  exact ⟨text, htext, hagain.trans (if_pos (nesting_le c _ _ item' rest hparse))⟩

/-- White space, a number with a sign, an object, and characters that are escaped. -/
def spacedText : List UInt8 :=
  ascii "[ 12 , \x7b\"k\\u0041\": -3, \"k\": null\x7d, \"\\ud83d\\ude00\" ]"

/-- The text is printed again without white space and without escapes. -/
theorem reparse_spaced : ∃ item, parse wholeNumbers spacedText = some item ∧
    print wholeNumbers false item =
      some (ascii "[12,\x7b\"kA\":-3,\"k\":null\x7d,\"" ++ [240, 159, 152, 128] ++ ascii "\"]") ∧
    parse wholeNumbers (ascii "[12,\x7b\"kA\":-3,\"k\":null\x7d,\"" ++ [240, 159, 152,
      128] ++ ascii "\"]") = some (readBack wholeNumbers item) := by
  have hprinted : (parse wholeNumbers spacedText).bind (print wholeNumbers false) =
      some (ascii "[12,\x7b\"kA\":-3,\"k\":null\x7d,\"" ++ [240, 159, 152, 128] ++ ascii "\"]") :=
        by decide +kernel
  obtain ⟨item, hparse, hprint⟩ := Option.bind_eq_some_iff.mp hprinted
  obtain ⟨text, htext, hagain⟩ :=
    reparse wholeNumbers standard_wholeNumbers false spacedText item hparse
  obtain rfl := Option.some.inj (hprint.symm.trans htext)
  exact ⟨item, hparse, hprint, hagain⟩

end exchange

end CJson

end MmWaveTracker
