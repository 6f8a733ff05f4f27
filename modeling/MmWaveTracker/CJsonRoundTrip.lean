import MmWaveTracker.CJson
import Mathlib.Tactic.IntervalCases

/-! What is printed is parsed again, formatted or not. -/
namespace MmWaveTracker

namespace CJson

open CString

section strings

def NoZero (text : List UInt8) : Prop := ∀ b ∈ text, b ≠ 0

theorem noZero_of_all {text : List UInt8} (h : text.all (fun b => decide (b ≠ 0)) = true) :
    NoZero text := fun b hb =>
  of_decide_eq_true (List.all_eq_true.mp h b hb)

theorem NoZero.append {text text' : List UInt8} (h : NoZero text) (h' : NoZero text') :
    NoZero (text ++ text') := by
  intro b hb
  exact (List.mem_append.mp hb).elim (h b) (h' b)

theorem NoZero.cons {b : UInt8} {text : List UInt8} (hb : b ≠ 0) (h : NoZero text) :
    NoZero (b :: text) := by
  intro x hx
  rcases List.mem_cons.mp hx with rfl | hx
  · exact hb
  · exact h x hx

theorem hexValue_hexDigit (n : ℕ) (h : n < 16) : hexValue (hexDigit n) = some n := by
  interval_cases n <;> rfl

/-- The `\u00xx` of a control character. -/
theorem parseHex4_control (m n : ℕ) (hm : m < 16) (hn : n < 16) (rest : List UInt8) :
    parseHex4 (48 :: 48 :: hexDigit m :: hexDigit n :: rest) = 16*m+n := by
  have hzero : hexValue 48 = some 0 := rfl
  have hdigits : [48, 48, hexDigit m, hexDigit n].mapM hexValue = some [0, 0, m, n] := by
    simp only [List.mapM_cons, List.mapM_nil, hzero, hexValue_hexDigit m hm, hexValue_hexDigit n hn]
    rfl
  rw [parseHex4]
  simp only [List.take_succ_cons, List.take_zero, hdigits, List.foldl_cons, List.foldl_nil]
  omega

theorem utf8_of_lt (b : UInt8) (h : b.toNat < 0x80) : utf8 b.toNat = [b] := by
  rw [utf8, if_pos h, UInt8.ofNat_toNat]

/-- A byte stands for itself, or for a backslash, a letter and bytes that are not special. -/
theorem escape_cases (b : UInt8) : (b ≠ 34 ∧ b ≠ 92 ∧ escape b = [b]) ∨
    ∃ e more, escape b = 92 :: e :: more ∧ ∀ x ∈ more, x ≠ 34 ∧ x ≠ 92 := by
  have hdigit : ∀ n < 16, hexDigit n ≠ 34 ∧ hexDigit n ≠ 92 := by decide
  unfold escape
  split_ifs with h92 h34 h31 h8 h12 h10 h13 h9
  · exact .inr ⟨92, [], rfl, by simp⟩
  · exact .inr ⟨34, [], rfl, by simp⟩
  · exact .inl ⟨h34, h92, rfl⟩
  · exact .inr ⟨98, [], rfl, by simp⟩
  · exact .inr ⟨102, [], rfl, by simp⟩
  · exact .inr ⟨110, [], rfl, by simp⟩
  · exact .inr ⟨114, [], rfl, by simp⟩
  · exact .inr ⟨116, [], rfl, by simp⟩
  · refine .inr ⟨117, 48 :: 48 :: [hexDigit (b.toNat/16), hexDigit (b.toNat%16)], rfl, ?_⟩
    have hlt : b.toNat < 256 := b.toNat_lt
    intro x hx
    simp only [List.mem_cons, List.not_mem_nil, or_false] at hx
    rcases hx with rfl | rfl | rfl | rfl
    · decide
    · decide
    · exact hdigit _ (by omega)
    · exact hdigit _ (by omega)

theorem noZero_escape (b : UInt8) (hb : b ≠ 0) : NoZero (escape b) := by
  have hdigit : ∀ n < 16, hexDigit n ≠ 0 := by decide
  have hlt : b.toNat < 256 := b.toNat_lt
  unfold escape
  split_ifs
  all_goals first
    | exact List.forall_mem_singleton.mpr hb
    | exact noZero_of_all rfl
    | skip
  exact .append (noZero_of_all rfl)
    (.cons (hdigit _ (by omega)) (.cons (hdigit _ (by omega)) (noZero_of_all rfl)))

/-- The sequence that a byte is escaped to stands for that byte. -/
theorem unescape_escape (b : UInt8) (hb : b ≠ 0) (rest : List UInt8) (h : escape b ≠ [b]) :
    unescape (escape b ++ rest) = some ([b], (escape b).length) := by
  unfold escape at h ⊢
  split_ifs at h ⊢ with h92 h34 h31 h8 h12 h10 h13 h9
  · subst h92; rfl
  · subst h34; rfl
  · exact absurd rfl h
  · subst h8; rfl
  · subst h12; rfl
  · subst h10; rfl
  · subst h13; rfl
  · subst h9; rfl
  · have hlt : b.toNat < 32 := by
      have := UInt8.not_lt.mp h31
      exact Nat.lt_succ_of_le (UInt8.le_iff_toNat_le.mp this)
    have hcode : 16*(b.toNat/16) + b.toNat%16 = b.toNat := Nat.div_add_mod _ _
    have hunescape (m n : UInt8) : unescape (92 :: 117 :: 48 :: 48 :: m :: n :: rest) =
        utf16LiteralToUtf8 (92 :: 117 :: 48 :: 48 :: m :: n :: rest) := rfl
    have hascii : ascii "\\u00" = [92, 117, 48, 48] := rfl
    rw [hascii, List.append_assoc]
    simp only [List.cons_append, List.nil_append, hunescape, utf16LiteralToUtf8, List.length_cons,
      List.drop_succ_cons, List.drop_zero]
    rw [parseHex4_control _ _ (by omega) (by omega), hcode, if_neg (by omega), if_neg (by omega),
      if_neg (by omega),
      utf8_of_lt b (by omega)]
    rfl

theorem stringEnd_plain (plain rest : List UInt8) (h : ∀ x ∈ plain, x ≠ 34 ∧ x ≠ 92) :
    stringEnd false (plain ++ rest) = (stringEnd false rest).map fun (text, rest) =>
      (plain ++ text, rest) := by
  induction plain with
  | nil => cases hrest : stringEnd false rest <;> simp [hrest]
  | cons x plain ih =>
    have hx := h x List.mem_cons_self
    rw [List.cons_append, stringEnd, if_neg (by simp [hx.1])]
    simp only [hx.2, decide_false, Bool.and_false, ih fun y hy => h y (List.mem_cons_of_mem _ hy),
      Option.map_map]
    rfl

theorem stringEnd_escape (b : UInt8) (rest : List UInt8) :
    stringEnd false (escape b ++ rest) = (stringEnd false rest).map fun (text, rest) =>
      (escape b ++ text, rest) := by
  obtain ⟨h34, h92, h⟩ | ⟨e, more, h, hmore⟩ := escape_cases b
  · rw [h]
    exact stringEnd_plain [b] rest (by simp [h34, h92])
  · rw [h, List.cons_append, List.cons_append, stringEnd, if_neg (by decide), stringEnd,
      if_neg (by simp)]
    simp only [decide_true, Bool.not_true, Bool.false_and, Bool.not_false, Bool.and_true,
      stringEnd_plain more rest hmore, Option.map_map]
    rfl

theorem stringEnd_print (s rest : List UInt8) :
    stringEnd false (s.flatMap escape ++ 34 :: rest) = some (s.flatMap escape, rest) := by
  induction s with
  | nil => rfl
  | cons b s ih => rw [List.flatMap_cons, List.append_assoc, stringEnd_escape, ih]; rfl

theorem unescapeLoop_print (s : List UInt8) (hs : ∀ b ∈ s, b ≠ 0) (fuel : ℕ)
    (hfuel : s.length ≤ fuel) :
    unescapeLoop fuel (s.flatMap escape) = some s := by
  induction s generalizing fuel with
  | nil => rw [List.flatMap_nil, unescapeLoop]
  | cons b s ih =>
    obtain ⟨fuel, rfl⟩ : ∃ n, fuel = n+1 := ⟨fuel-1, by rw [List.length_cons] at hfuel; omega⟩
    have hnext := ih (fun x hx => hs x (List.mem_cons_of_mem _ hx)) fuel
      (Nat.le_of_succ_le_succ hfuel)
    rw [List.flatMap_cons]
    obtain ⟨h34, h92, h⟩ | ⟨e, more, h, hmore⟩ := escape_cases b
    · rw [h, List.singleton_append, unescapeLoop, if_pos h92, hnext, Option.map_some]
    · have hlit := unescape_escape b (hs b List.mem_cons_self) (s.flatMap escape) (by
        rw [h]
        exact fun heq => by cases heq)
      have hdrop : (92 :: (e :: more ++ s.flatMap escape)).drop (escape b).length =
          s.flatMap escape := by
        rw [h]
        exact List.drop_left
      rw [h, List.cons_append, ← h] at hlit
      rw [h, List.cons_append, unescapeLoop, if_neg (by decide), hlit, Option.bind_some]
      simp only [hdrop, hnext, Option.map_some, List.singleton_append]

theorem printStringPtr_append (s : Text) (rest : List UInt8) :
    printStringPtr s ++ rest = 34 :: (s.val.flatMap escape ++ 34 :: rest) := by
  rw [printStringPtr, List.cons_append, List.append_assoc, List.singleton_append]

theorem noZero_printStringPtr (s : Text) : NoZero (printStringPtr s) := by
  refine .cons (by decide) (.append (fun x hx => ?_) (noZero_of_all rfl))
  obtain ⟨b, hb, hx⟩ := List.mem_flatMap.mp hx
  exact noZero_escape b (s.property b hb) x hx

theorem length_le_flatMap_escape (s : List UInt8) : s.length ≤ (s.flatMap escape).length := by
  induction s with
  | nil => exact Nat.le_refl 0
  | cons b s ih =>
    have hone : 1 ≤ (escape b).length := by
      obtain ⟨-, -, h⟩ | ⟨e, more, h, -⟩ := escape_cases b <;> rw [h, List.length_cons] <;> omega
    rw [List.flatMap_cons, List.length_append, List.length_cons]
    omega

theorem text_of (s : Text) : Text.of s.val = s :=
  Subtype.ext (List.takeWhile_eq_self_iff.mpr fun b hb => decide_eq_true (s.property b hb))

/-- A string is read as it was written, whatever follows it. -/
theorem parseString_print (s : Text) (rest : List UInt8) :
    parseString (printStringPtr s ++ rest) = some (s, rest) := by
  rw [printStringPtr_append, parseString, if_neg (by decide), stringEnd_print, Option.bind_some]
  simp only [unescapeLoop_print s.val s.property _ (length_le_flatMap_escape s.val),
    Option.map_some, text_of]

end strings

section numbers

variable {D : Type} [DecidableEq D] (c : Numbers D)

/-- A text that `"%g"` writes: a sign, digits, a decimal point and an exponent, all of it read
again. -/
structure Numeral (text : List UInt8) : Prop where
  bytes : ∀ b ∈ text, b = c.decimalPoint ∨ (isNumberByte b = true ∧ b ≠ 46)
  first : ∃ b, text.head? = some b ∧ (b = 45 ∨ isdigit b = true) ∧ b ≠ c.decimalPoint
  length : text.length ≤ 25
  read : ∃ d, c.strtod text = some (d, text.length)

omit [DecidableEq D] in
variable {c} in
theorem Numeral.noZero {text : List UInt8} (h : Numeral c text) :
    NoZero (text.map fun b => if b = c.decimalPoint then 46 else b) := by
  intro b hb
  obtain ⟨x, hx, rfl⟩ := List.mem_map.mp hb
  split_ifs with hpoint
  · decide
  · rintro rfl
    exact absurd ((h.bytes 0 hx).resolve_left hpoint).1 (by decide)

/-- What the C library promises of numbers: 17 significant digits identify a double, and a double
holds any integer of 53 bits. -/
structure Numbers.Standard : Prop where
  point : ∀ b ∈ ascii "null", b ≠ c.decimalPoint
  g15 : ∀ d, c.finite d = true → Numeral c (c.g15 d)
  g17 : ∀ d, c.finite d = true → Numeral c (c.g17 d)
  identify : ∀ d, c.finite d = true → recovers c (c.g17 d) d = true
  ofInt : ∀ n : ℤ, n.natAbs ≤ 9007199254740992 → c.finite (c.ofInt n) = true ∧
    c.trunc (c.ofInt n) = n

/-- What follows a value is not taken as a part of a number. -/
def Ends (rest : List UInt8) : Prop := ∀ b ∈ rest.head?, isNumberByte b = false

theorem ends_cons (b : UInt8) (rest : List UInt8) (h : isNumberByte b = false) :
    Ends (b :: rest) := by
  rintro x ⟨⟩
  exact h

/-- The buffer that a finite number is printed to. -/
theorem exists_numeral (hc : c.Standard) (d : D) (hd : c.finite d = true) :
    ∃ buffer, Numeral c buffer ∧ c.strtod buffer = some (d, buffer.length) ∧
      printNumber c d = some (buffer.map fun b => if b = c.decimalPoint then 46 else b) := by
  have hnumeral (buffer : List UInt8) (hbuffer : Numeral c buffer)
      (hd : recovers c buffer d = true) :
      c.strtod buffer = some (d, buffer.length) := by
    obtain ⟨d', hread⟩ := hbuffer.read
    have hfst := of_decide_eq_true hd
    rw [hread, Option.map_some, Option.some.injEq] at hfst
    rw [hread, ← hfst]
  by_cases h15 : recovers c (c.g15 d) d = true
  · refine ⟨c.g15 d, hc.g15 d hd, hnumeral _ (hc.g15 d hd) h15, ?_⟩
    rw [printNumber, if_pos hd, if_pos h15, if_neg (not_lt.mpr (hc.g15 d hd).length)]
  · refine ⟨c.g17 d, hc.g17 d hd, hnumeral _ (hc.g17 d hd) (hc.identify d hd), ?_⟩
    rw [printNumber, if_pos hd, if_neg h15, if_neg (not_lt.mpr (hc.g17 d hd).length)]

omit [DecidableEq D] in
/-- The bytes of a numeral are recognized, up to what follows it, and the decimal point is put
back. -/
theorem parseNumber_numeral (buffer rest : List UInt8) (hbuffer : Numeral c buffer)
    (hrest : Ends rest) (d : D)
    (hd : c.strtod buffer = some (d, buffer.length)) :
    parseNumber c ((buffer.map fun b => if b = c.decimalPoint then 46 else b) ++ rest) =
      some (d, rest) := by
  have hlength : (buffer.map fun b => if b = c.decimalPoint then 46 else b).length =
      buffer.length := List.length_map _
  have hnumber : ∀ b ∈ buffer.map (fun b => if b = c.decimalPoint then 46 else b), isNumberByte b =
      true := by
    intro b hb
    obtain ⟨x, hx, rfl⟩ := List.mem_map.mp hb
    split_ifs with hpoint
    · rfl
    · exact ((hbuffer.bytes x hx).resolve_left hpoint).1
  have hstop (k : ℕ) : (rest.take k).takeWhile isNumberByte = [] := by
    cases k with
    | zero => rfl
    | succ k =>
      cases rest with
      | nil => rfl
      | cons b rest => exact List.takeWhile_cons_of_neg (by rw [hrest b rfl]; decide)
  have hback : (buffer.map fun b => if b = c.decimalPoint then 46 else b).map
      (fun b => if b = 46 then c.decimalPoint else b) = buffer := by
    rw [List.map_map]
    refine (List.map_congr_left fun x hx => ?_).trans (List.map_id _)
    by_cases hpoint : x = c.decimalPoint
    · simp [hpoint]
    · simp [hpoint, ((hbuffer.bytes x hx).resolve_left hpoint).2]
  have hne : buffer.length ≠ 0 := by
    obtain ⟨b, hb, -⟩ := hbuffer.first
    intro h
    rw [List.length_eq_zero_iff.mp h] at hb
    cases hb
  have hshort := hbuffer.length
  rw [parseNumber, List.take_append, List.take_of_length_le (by omega),
    List.takeWhile_append_of_pos hnumber, hstop,
    List.append_nil, hback, hd, Option.bind_some]
  simp only [hne, if_false]
  rw [← hlength, List.drop_left]

end numbers

section trees

variable {D : Type} (c : Numbers D)

mutual

/-- The item that a reader gets: there is no text for a number that is not finite. -/
def readBack : Item D → Item D
  | .number valuedouble => if c.finite valuedouble then .number valuedouble else .null
  | .array child => .array (readBackElements child)
  | .object child => .object (readBackMembers child)
  | .null => .null
  | .false => .false
  | .true => .true
  | .string valuestring => .string valuestring

def readBackElements : List (Item D) → List (Item D)
  | [] => []
  | item :: next => readBack item :: readBackElements next

def readBackMembers : List (Text × Item D) → List (Text × Item D)
  | [] => []
  | (string, item) :: next => (string, readBack item) :: readBackMembers next

end

mutual

/-- How many arrays and objects are around the innermost item. -/
def nesting : Item D → ℕ
  | .null => 0
  | .false => 0
  | .true => 0
  | .number _ => 0
  | .string _ => 0
  | .array child => nestingElements child + 1
  | .object child => nestingMembers child + 1

def nestingElements : List (Item D) → ℕ
  | [] => 0
  | item :: next => max (nesting item) (nestingElements next)

def nestingMembers : List (Text × Item D) → ℕ
  | [] => 0
  | (_, item) :: next => max (nesting item) (nestingMembers next)

end

def Blank (ws : List UInt8) : Prop := ∀ b ∈ ws, b ≤ 32

theorem blank_append {ws ws' : List UInt8} (h : Blank ws) (h' : Blank ws') : Blank (ws ++ ws') := by
  intro b hb
  exact (List.mem_append.mp hb).elim (h b) (h' b)

theorem blank_format (format : Bool) (ws : List UInt8) (h : Blank ws) :
    Blank (if format then ws else []) := by
  split_ifs
  · exact h
  · exact fun b hb => absurd hb List.not_mem_nil

theorem blank_tabs (format : Bool) (depth : ℕ) :
    Blank (if format then List.replicate depth 9 else []) :=
  blank_format format _ fun b hb => by rw [List.eq_of_mem_replicate hb]; decide

theorem noZero_tabs (format : Bool) (depth : ℕ) :
    NoZero (if format then List.replicate depth 9 else []) := by
  split_ifs
  · exact fun b hb => by rw [List.eq_of_mem_replicate hb]; decide
  · exact noZero_of_all rfl

theorem skipWhitespace_blank (ws : List UInt8) (hws : Blank ws) (b : UInt8) (hb : 32 < b)
    (rest : List UInt8) :
    skipWhitespace (ws ++ b :: rest) = b :: rest := by
  have hdrop : (ws ++ b :: rest).dropWhile (· ≤ 32) = b :: rest := by
    rw [List.dropWhile_append_of_pos fun x hx => decide_eq_true (hws x hx),
      List.dropWhile_cons_of_neg (by simpa using hb)]
  rw [skipWhitespace, hdrop]

/-- The first byte of a value is neither white space nor the end of an array. -/
def Begins (text : List UInt8) : Prop := ∃ b more, text = b :: more ∧ 32 < b ∧ b ≠ 93

theorem Begins.skipWhitespace {text : List UInt8} (h : Begins text) (ws : List UInt8)
    (hws : Blank ws)
    (rest : List UInt8) : skipWhitespace (ws ++ (text ++ rest)) = text ++ rest := by
  obtain ⟨b, more, rfl, hb, -⟩ := h
  exact skipWhitespace_blank ws hws b hb (more ++ rest)

theorem Begins.length_pos {text : List UInt8} (h : Begins text) : 1 ≤ text.length := by
  obtain ⟨b, more, rfl, -⟩ := h
  rw [List.length_cons]
  omega

theorem begins_printStringPtr (s : Text) : Begins (printStringPtr s) :=
  ⟨34, _, rfl, by decide, by decide⟩

theorem take_ne_word (b : UInt8) (h110 : b ≠ 110) (h102 : b ≠ 102) (h116 : b ≠ 116)
    (rest : List UInt8) :
    (b :: rest).take 4 ≠ ascii "null" ∧ (b :: rest).take 5 ≠ ascii "false" ∧
    (b :: rest).take 4 ≠ ascii "true" :=
  ⟨fun heq => h110 (List.cons.inj heq).1, fun heq => h102 (List.cons.inj heq).1,
    fun heq => h116 (List.cons.inj heq).1⟩

/-- Only the first byte of a value that is not a word decides what it is taken for. -/
theorem parseValue_string (levels : ℕ) (s : Text) (rest : List UInt8) :
    parseValue c levels (printStringPtr s ++ rest) = some (.string s, rest) := by
  have hparse := parseString_print s rest
  rw [printStringPtr, List.cons_append] at hparse ⊢
  rw [parseValue.eq_def]
  dsimp only
  obtain ⟨hnull, hfalse, htrue⟩ :=
    take_ne_word 34 (by decide) (by decide) (by decide) (s.val.flatMap escape ++ [34] ++ rest)
  rw [if_neg hnull, if_neg hfalse, if_neg htrue, if_pos rfl, hparse]
  rfl

theorem parseValue_number (levels : ℕ) (b : UInt8) (hb : b = 45 ∨ isdigit b = true)
    (rest : List UInt8) :
    parseValue c levels (b :: rest) =
      (parseNumber c (b :: rest)).map fun (number, rest) => (.number number, rest) := by
  have hne : b ≠ 110 ∧ b ≠ 102 ∧ b ≠ 116 ∧ b ≠ 34 := by
    refine ⟨?_, ?_, ?_, ?_⟩ <;> rintro rfl <;> exact absurd hb (by decide)
  rw [parseValue.eq_def]
  dsimp only
  obtain ⟨hnull, hfalse, htrue⟩ := take_ne_word b hne.1 hne.2.1 hne.2.2.1 rest
  rw [if_neg hnull, if_neg hfalse, if_neg htrue, if_neg hne.2.2.2, if_pos (by simpa using hb)]

theorem parseValue_array (levels : ℕ) (rest : List UInt8) :
    parseValue c (levels+1) (91 :: rest) = parseArray (parseValue c levels) rest := by
  rw [parseValue.eq_def]
  dsimp only
  obtain ⟨hnull, hfalse, htrue⟩ := take_ne_word 91 (by decide) (by decide) (by decide) rest
  rw [if_neg hnull, if_neg hfalse, if_neg htrue, if_neg (by decide), if_neg (by decide), if_pos rfl]

theorem parseValue_object (levels : ℕ) (rest : List UInt8) :
    parseValue c (levels+1) (123 :: rest) = parseObject (parseValue c levels) rest := by
  rw [parseValue.eq_def]
  dsimp only
  obtain ⟨hnull, hfalse, htrue⟩ := take_ne_word 123 (by decide) (by decide) (by decide) rest
  rw [if_neg hnull, if_neg hfalse, if_neg htrue, if_neg (by decide), if_neg (by decide),
    if_neg (by decide),
    if_pos rfl]

variable [DecidableEq D]

/-- A printed value, and what it is read as: nothing where there are too few levels for it. -/
structure Reads (format : Bool) (depth : ℕ) (item : Item D) (text : List UInt8) : Prop where
  printed : printValue c format depth item = some text
  noZero : NoZero text
  begins : Begins text
  parsed : ∀ levels rest, Ends rest →
    parseValue c levels (text ++ rest) = if nesting item ≤ levels then some (readBack c item, rest)
      else none

theorem reads_null (format : Bool) (depth : ℕ) : Reads c format depth .null (ascii "null") where
  printed := by rw [printValue]
  noZero := noZero_of_all rfl
  begins := ⟨110, _, rfl, by decide, by decide⟩
  parsed levels rest _ := by
    rw [parseValue.eq_def, readBack, nesting, if_pos (Nat.zero_le levels)]
    exact if_pos rfl

theorem reads_false (format : Bool) (depth : ℕ) : Reads c format depth .false (ascii "false") where
  printed := by rw [printValue]
  noZero := noZero_of_all rfl
  begins := ⟨102, _, rfl, by decide, by decide⟩
  parsed levels rest _ := by
    rw [parseValue.eq_def, readBack, nesting, if_pos (Nat.zero_le levels)]
    exact (if_neg fun heq => absurd (List.cons.inj heq).1 (by decide)).trans (if_pos rfl)

theorem reads_true (format : Bool) (depth : ℕ) : Reads c format depth .true (ascii "true") where
  printed := by rw [printValue]
  noZero := noZero_of_all rfl
  begins := ⟨116, _, rfl, by decide, by decide⟩
  parsed levels rest _ := by
    rw [parseValue.eq_def, readBack, nesting, if_pos (Nat.zero_le levels)]
    exact (if_neg fun heq => absurd (List.cons.inj heq).1 (by decide)).trans
      ((if_neg fun heq => absurd (List.cons.inj heq).1 (by decide)).trans (if_pos rfl))

theorem reads_string (format : Bool) (depth : ℕ) (s : Text) :
    Reads c format depth (.string s) (printStringPtr s) where
  printed := by rw [printValue]
  noZero := noZero_printStringPtr s
  begins := begins_printStringPtr s
  parsed levels rest _ := by rw [parseValue_string, readBack, nesting, if_pos (Nat.zero_le levels)]

theorem reads_number (hc : c.Standard) (format : Bool) (depth : ℕ) (d : D) :
    ∃ text, Reads c format depth (.number d) text := by
  cases hd : c.finite d with
  | false =>
    have hprint : printNumber c d = some (ascii "null") := by
      have hmap : (ascii "null").map (fun b => if b = c.decimalPoint then 46 else b) =
          ascii "null" :=
        (List.map_congr_left fun b hb => if_neg (hc.point b hb)).trans (List.map_id _)
      have hlength : (ascii "null").length = 4 := rfl
      rw [printNumber, hd, if_neg Bool.false_ne_true, hlength, if_neg (by decide), hmap]
    have hnull := reads_null c format depth
    refine ⟨ascii "null", by rw [printValue, hprint], hnull.noZero, hnull.begins,
      fun levels rest hrest => ?_⟩
    rw [hnull.parsed levels rest hrest, readBack, readBack, hd, nesting, nesting]
    rfl
  | true =>
    obtain ⟨buffer, hnumeral, hread, hprint⟩ := exists_numeral c hc d hd
    obtain ⟨b, hb, hfirst, hpoint⟩ := hnumeral.first
    obtain ⟨more, rfl⟩ : ∃ more, buffer = b :: more := List.head?_eq_some_iff.mp hb
    refine ⟨_, by rw [printValue, hprint], hnumeral.noZero, ?_, fun levels rest hrest => ?_⟩
    · rw [List.map_cons, if_neg hpoint]
      refine ⟨b, _, rfl, ?_, ?_⟩
      · rcases hfirst with rfl | hdigit
        · decide
        · simp only [isdigit, Bool.and_eq_true, decide_eq_true_eq] at hdigit
          exact UInt8.lt_of_lt_of_le (show (32:UInt8) < 48 by decide) hdigit.1
      · rintro rfl
        exact absurd hfirst (by decide)
    · have hparse := parseNumber_numeral c (b :: more) rest hnumeral hrest d hread
      rw [List.map_cons, if_neg hpoint, List.cons_append] at hparse ⊢
      rw [parseValue_number c levels b hfirst, hparse, readBack, if_pos hd, nesting,
        if_pos (Nat.zero_le levels)]
      rfl

/-- White space is not a part of a number either. -/
theorem ends_blank (ws : List UInt8) (hws : Blank ws) (b : UInt8) (hb : isNumberByte b = false)
    (rest : List UInt8) :
    Ends (ws ++ b :: rest) := by
  cases ws with
  | nil => exact ends_cons b rest hb
  | cons x ws =>
    refine ends_cons x _ ?_
    have hx : x.toNat ≤ 32 := UInt8.le_iff_toNat_le.mp (hws x List.mem_cons_self)
    have hne (n : UInt8) (hn : 32 < n.toNat) : x ≠ n := by
      rintro rfl
      omega
    have hdigit : ¬48 ≤ x := fun h => by
      have h48 : 48 ≤ x.toNat := UInt8.le_iff_toNat_le.mp h
      omega
    simp [isNumberByte, isdigit, hdigit, hne 43, hne 45, hne 101, hne 69, hne 46]

/-- What is printed of the elements of an array, which is not empty, and of what closes it. -/
structure ReadsElements (format : Bool) (depth : ℕ) (child : List (Item D)) (text : List UInt8) :
    Prop where
  nonempty : child ≠ []
  printed : printElements c format depth child = some text
  noZero : NoZero text
  begins : Begins text
  length : child.length ≤ text.length
  parsed : ∀ levels ws, Blank ws → ∀ fuel, child.length ≤ fuel → ∀ rest,
    parseElements (parseValue c levels) fuel (ws ++ (text ++ 93 :: rest)) =
      if nestingElements child ≤ levels then some (readBackElements c child, rest) else none

theorem readsElements_last {format : Bool} {depth : ℕ} {item : Item D} {text : List UInt8}
    (h : Reads c format depth item text) : ReadsElements c format depth [item] text where
  nonempty := List.cons_ne_nil _ _
  printed := by simp [printElements, h.printed]
  noZero := h.noZero
  begins := h.begins
  length := h.begins.length_pos
  parsed levels ws hws fuel hfuel rest := by
    obtain ⟨fuel, rfl⟩ : ∃ n, fuel = n+1 := ⟨fuel-1, by rw [List.length_singleton] at hfuel; omega⟩
    have hskip : skipWhitespace (93 :: rest) = 93 :: rest :=
      skipWhitespace_blank [] (fun _ hb => absurd hb List.not_mem_nil) 93 (by decide) rest
    rw [parseElements, h.begins.skipWhitespace ws hws, h.parsed _ _ (ends_cons 93 rest rfl),
      nestingElements,
      nestingElements, Nat.max_zero]
    split_ifs with hlevels
    · rw [Option.bind_some]
      simp only [hskip]
      rw [if_neg (by decide), if_pos trivial, readBackElements, readBackElements]
    · rfl

theorem readsElements_cons {format : Bool} {depth : ℕ} {item : Item D} {text : List UInt8}
    {next : List (Item D)} {texts : List UInt8} (h : Reads c format depth item text)
    (hnext : ReadsElements c format depth next texts) :
    ReadsElements c format depth (item :: next)
      (text ++ ((if format then [44, 32] else [44]) ++ texts)) where
  nonempty := List.cons_ne_nil _ _
  printed := by simp [printElements, h.printed, hnext.printed, hnext.nonempty]
  noZero := .append h.noZero (.append (by cases format <;> exact noZero_of_all rfl) hnext.noZero)
  begins := by
    obtain ⟨b, more, rfl, hb, hclose⟩ := h.begins
    exact ⟨b, _, rfl, hb, hclose⟩
  length := by
    have hpos := h.begins.length_pos
    have hnextLength := hnext.length
    rw [List.length_cons, List.length_append, List.length_append]
    omega
  parsed levels ws hws fuel hfuel rest := by
    obtain ⟨fuel, rfl⟩ : ∃ n, fuel = n+1 := ⟨fuel-1, by rw [List.length_cons] at hfuel; omega⟩
    have hcomma : (if format then ([44, 32] : List UInt8) else [44]) = 44 :: (if format then [32]
        else []) := by
      cases format <;> rfl
    have hblank : Blank (if format then [32] else []) := blank_format format [32] (by simp [Blank])
    have hskip (l : List UInt8) : skipWhitespace (44 :: l) = 44 :: l :=
      skipWhitespace_blank [] (fun _ hb => absurd hb List.not_mem_nil) 44 (by decide) l
    rw [hcomma, List.append_assoc, parseElements, h.begins.skipWhitespace ws hws, List.append_assoc,
      List.cons_append,
      h.parsed _ _ (ends_cons 44 _ rfl), nestingElements]
    by_cases hlevels : nesting item ≤ levels
    · rw [if_pos hlevels, Option.bind_some]
      simp only [hskip, if_true]
      rw [hnext.parsed _ _ hblank fuel (Nat.le_of_succ_le_succ hfuel) rest, readBackElements]
      simp only [max_le_iff, hlevels, true_and]
      split_ifs <;> rfl
    · rw [if_neg hlevels, if_neg fun hle => hlevels ((le_max_left _ _).trans hle)]
      rfl

/-- What is printed of the members of an object, which is not empty, and of what closes it. -/
structure ReadsMembers (format : Bool) (depth : ℕ) (child : List (Text × Item D))
    (text : List UInt8) :
    Prop where
  nonempty : child ≠ []
  printed : printMembers c format depth child = some text
  noZero : NoZero text
  begins : ∃ tabs more, Blank tabs ∧ text = tabs ++ 34 :: more ∧ child.length ≤ more.length
  parsed : ∀ levels ws, Blank ws → ∀ closing, Blank closing → ∀ fuel, child.length ≤ fuel → ∀ rest,
    parseMembers (parseValue c levels) fuel (ws ++ (text ++ (closing ++ 125 :: rest))) =
      if nestingMembers child ≤ levels then some (readBackMembers c child, rest) else none

/-- One member, and the byte behind it. -/
theorem parseMembers_member {format : Bool} {depth : ℕ} {item : Item D} {text : List UInt8}
    (string : Text)
    (h : Reads c format depth item text) (levels : ℕ) (ws : List UInt8) (hws : Blank ws) (fuel : ℕ)
    (rest : List UInt8)
    (hrest : Ends rest) (b : UInt8) (rest' : List UInt8)
    (hskipped : skipWhitespace rest = b :: rest') :
    parseMembers (parseValue c levels) (fuel+1)
        (ws ++ (printStringPtr string ++ ((if format then [58, 9] else [58]) ++ (text ++ rest)))) =
      if nesting item ≤ levels then
        if b = 44 then
          (parseMembers (parseValue c levels) fuel rest').map fun next =>
            ((string, readBack c item) :: next.1, next.2)
        else if b = 125 then some ([(string, readBack c item)], rest')
        else none
      else none := by
  have hcolon : (if format then ([58, 9] : List UInt8) else [58]) = 58 :: (if format then [9]
      else []) := by
    cases format <;> rfl
  have hskip (l : List UInt8) : skipWhitespace (58 :: l) = 58 :: l :=
    skipWhitespace_blank [] (fun _ hb => absurd hb List.not_mem_nil) 58 (by decide) l
  have hblank : Blank (if format then [9] else []) := blank_format format [9] (by simp [Blank])
  rw [hcolon, parseMembers, (begins_printStringPtr string).skipWhitespace ws hws, parseString_print,
    Option.bind_some]
  simp only [List.cons_append, hskip, ne_eq, not_true_eq_false, if_false,
    h.begins.skipWhitespace _ hblank,
    h.parsed levels rest hrest]
  by_cases hlevels : nesting item ≤ levels
  · simp only [if_pos hlevels, Option.bind_some, hskipped]
  · simp only [if_neg hlevels, Option.bind_none]

theorem readsMembers_last {format : Bool} {depth : ℕ} {item : Item D} {text : List UInt8}
    (string : Text)
    (h : Reads c format depth item text) :
    ReadsMembers c format depth [(string, item)] ((if format then List.replicate depth 9 else []) ++
      (printStringPtr string ++
        ((if format then [58, 9] else [58]) ++ (text ++ if format then [10] else [])))) where
  nonempty := List.cons_ne_nil _ _
  printed := by simp [printMembers, h.printed]
  noZero := .append (noZero_tabs format depth) (.append (noZero_printStringPtr string)
    (.append (by cases format <;> exact noZero_of_all rfl)
      (.append h.noZero (by cases format <;> exact noZero_of_all rfl))))
  begins := by
    refine ⟨_, _, blank_tabs format depth, congrArg _ (printStringPtr_append string _), ?_⟩
    simp only [List.length_cons, List.length_append, List.length_nil]
    omega
  parsed levels ws hws closing hclosing fuel hfuel rest := by
    obtain ⟨fuel, rfl⟩ : ∃ n, fuel = n+1 := ⟨fuel-1, by rw [List.length_singleton] at hfuel; omega⟩
    have hblank : Blank ((if format then [10] else []) ++ closing) :=
      blank_append (blank_format format [10] (by simp [Blank])) hclosing
    have hmember := parseMembers_member c string h levels _
      (blank_append hws (blank_tabs format depth)) fuel _
      (ends_blank _ hblank 125 rfl rest) 125 rest
        (skipWhitespace_blank _ hblank 125 (by decide) rest)
    simp only [List.append_assoc] at hmember ⊢
    rw [hmember, readBackMembers, readBackMembers, nestingMembers, nestingMembers, Nat.max_zero]
    rfl

theorem readsMembers_cons {format : Bool} {depth : ℕ} {item : Item D} {text : List UInt8}
    (string : Text)
    {next : List (Text × Item D)} {texts : List UInt8} (h : Reads c format depth item text)
    (hnext : ReadsMembers c format depth next texts) :
    ReadsMembers c format depth ((string, item) :: next)
      ((if format then List.replicate depth 9 else []) ++
      (printStringPtr string ++ ((if format then [58, 9] else [58]) ++
        (text ++ ([44] ++ ((if format then [10] else []) ++ texts)))))) where
  nonempty := List.cons_ne_nil _ _
  printed := by simp [printMembers, h.printed, hnext.printed, hnext.nonempty]
  noZero := .append (noZero_tabs format depth) (.append (noZero_printStringPtr string)
    (.append (by cases format <;> exact noZero_of_all rfl) (.append h.noZero
      (.append (noZero_of_all rfl)
        (.append (by cases format <;> exact noZero_of_all rfl) hnext.noZero)))))
  begins := by
    obtain ⟨tabs, more, -, rfl, hlength⟩ := hnext.begins
    refine ⟨_, _, blank_tabs format depth, congrArg _ (printStringPtr_append string _), ?_⟩
    simp only [List.length_cons, List.length_append]
    omega
  parsed levels ws hws closing hclosing fuel hfuel rest := by
    obtain ⟨fuel, rfl⟩ : ∃ n, fuel = n+1 := ⟨fuel-1, by rw [List.length_cons] at hfuel; omega⟩
    have hblank : Blank (if format then [10] else []) := blank_format format [10] (by simp [Blank])
    have hmember := parseMembers_member c string h levels _
      (blank_append hws (blank_tabs format depth)) fuel _
      (ends_cons 44 ((if format then [10] else []) ++ (texts ++ (closing ++ 125 :: rest))) rfl) 44 _
      (skipWhitespace_blank [] (fun _ hb => absurd hb List.not_mem_nil) 44 (by decide) _)
    simp only [List.append_assoc, List.cons_append, List.nil_append] at hmember ⊢
    rw [hmember, hnext.parsed _ _ hblank closing hclosing fuel (Nat.le_of_succ_le_succ hfuel) rest,
      readBackMembers,
      nestingMembers]
    by_cases hlevels : nesting item ≤ levels
    · simp only [max_le_iff, hlevels, true_and, if_true]
      split_ifs <;> rfl
    · rw [if_neg hlevels, if_neg fun hle => hlevels ((le_max_left _ _).trans hle)]

omit [DecidableEq D] in
/-- Without a level left nothing in brackets is read. -/
theorem parseValue_zero (b : UInt8) (hb : b = 91 ∨ b = 123) (rest : List UInt8) :
    parseValue c 0 (b :: rest) = none := by
  obtain ⟨hnull, hfalse, htrue⟩ := take_ne_word b (by rintro rfl; exact absurd hb (by decide))
    (by rintro rfl; exact absurd hb (by decide)) (by rintro rfl; exact absurd hb (by decide)) rest
  rw [parseValue.eq_def]
  dsimp only
  rw [if_neg hnull, if_neg hfalse, if_neg htrue]
  rcases hb with rfl | rfl <;> rfl

theorem reads_emptyArray (format : Bool) (depth : ℕ) :
    Reads c format depth (.array []) (91 :: ([] ++ [93])) where
  printed := by rw [printValue, printElements, Option.map_some]
  noZero := noZero_of_all rfl
  begins := ⟨91, _, rfl, by decide, by decide⟩
  parsed levels rest _ := by
    have hskip := skipWhitespace_blank [] (fun _ hb => absurd hb List.not_mem_nil) 93
      (by decide) rest
    rw [List.nil_append] at hskip
    rw [List.nil_append, List.cons_append, List.singleton_append, nesting, nestingElements]
    cases levels with
    | zero => exact parseValue_zero c 91 (.inl rfl) _
    | succ levels =>
      rw [parseValue_array, parseArray, hskip, readBack, readBackElements,
        if_pos (Nat.le_add_left 1 levels)]
      exact if_pos rfl

theorem reads_array {format : Bool} {depth : ℕ} {child : List (Item D)} {text : List UInt8}
    (h : ReadsElements c format (depth+1) child text) :
    Reads c format depth (.array child) (91 :: (text ++ [93])) where
  printed := by rw [printValue, h.printed, Option.map_some]
  noZero := .cons (by decide) (.append h.noZero (noZero_of_all rfl))
  begins := ⟨91, _, rfl, by decide, by decide⟩
  parsed levels rest _ := by
    have hskip := h.begins.skipWhitespace [] (fun _ hb => absurd hb List.not_mem_nil) (93 :: rest)
    have hlength := h.length
    have hparse := h.parsed (levels-1) [] (fun _ hb => absurd hb List.not_mem_nil)
      (text ++ 93 :: rest).length
      (by rw [List.length_append]; omega) rest
    obtain ⟨b, more, rfl, -, hclose⟩ := h.begins
    simp only [List.nil_append, List.cons_append] at hskip hparse
    rw [List.cons_append, List.append_assoc, List.singleton_append, List.cons_append, nesting]
    cases levels with
    | zero => exact parseValue_zero c 91 (.inl rfl) _
    | succ levels =>
      rw [Nat.add_sub_cancel] at hparse
      rw [parseValue_array, parseArray, hskip, readBack]
      simp only [hclose, if_false, hparse, Nat.add_le_add_iff_right]
      split_ifs <;> rfl

/-- The brackets of an object, with nothing in between. -/
theorem reads_emptyObject (format : Bool) (depth : ℕ) :
    Reads c format depth (.object []) (123 :: ((if format then [10] else []) ++ [] ++
      ((if format then List.replicate depth 9 else []) ++ [125]))) where
  printed := by rw [printValue, printMembers, Option.map_some]
  noZero := .cons (by decide) (.append (by cases format <;> exact noZero_of_all rfl)
    (.append (noZero_tabs format depth) (noZero_of_all rfl)))
  begins := ⟨123, _, rfl, by decide, by decide⟩
  parsed levels rest _ := by
    have hblank : Blank ((if format then [10] else []) ++ if format then List.replicate depth 9
        else []) :=
      blank_append (blank_format format [10] (by simp [Blank])) (blank_tabs format depth)
    have hskip := skipWhitespace_blank _ hblank 125 (by decide) rest
    simp only [List.append_assoc] at hskip
    rw [List.cons_append, List.append_nil, List.append_assoc, List.append_assoc,
      List.singleton_append, nesting,
      nestingMembers]
    cases levels with
    | zero => exact parseValue_zero c 123 (.inr rfl) _
    | succ levels =>
      rw [parseValue_object, parseObject, hskip, readBack, readBackMembers,
        if_pos (Nat.le_add_left 1 levels)]
      exact if_pos rfl

omit [DecidableEq D] in
theorem parseMembers_skipped (fuel levels : ℕ) (input rest : List UInt8)
    (h : skipWhitespace input = 34 :: rest) :
    parseMembers (parseValue c levels) fuel (34 :: rest) =
      parseMembers (parseValue c levels) fuel input := by
  have hskip := skipWhitespace_blank [] (fun _ hb => absurd hb List.not_mem_nil) 34 (by decide) rest
  rw [List.nil_append] at hskip
  cases fuel with
  | zero => rfl
  | succ fuel => rw [parseMembers, parseMembers, hskip, h]

theorem reads_object {format : Bool} {depth : ℕ} {child : List (Text × Item D)} {text : List UInt8}
    (h : ReadsMembers c format (depth+1) child text) :
    Reads c format depth (.object child) (123 :: ((if format then [10] else []) ++ text ++
      ((if format then List.replicate depth 9 else []) ++ [125]))) where
  printed := by rw [printValue, h.printed, Option.map_some]
  noZero := .cons (by decide)
    (.append (.append (by cases format <;> exact noZero_of_all rfl) h.noZero)
      (.append (noZero_tabs format depth) (noZero_of_all rfl)))
  begins := ⟨123, _, rfl, by decide, by decide⟩
  parsed levels rest _ := by
    have hblank : Blank (if format then [10] else []) := blank_format format [10] (by simp [Blank])
    obtain ⟨tabs, more, htabs, htext, hmore⟩ := h.begins
    have hskip := skipWhitespace_blank _ (blank_append hblank htabs) 34 (by decide)
      (more ++ ((if format then List.replicate depth 9 else []) ++ 125 :: rest))
    have hinput : (if format then [10] else []) ++
        (text ++ ((if format then List.replicate depth 9 else []) ++ 125 :: rest)) =
          ((if format then [10] else []) ++ tabs) ++
          34 :: (more ++ ((if format then List.replicate depth 9 else []) ++ 125 :: rest)) := by
      rw [htext]
      simp only [List.append_assoc, List.cons_append]
    have hlength : child.length ≤
        (34 :: (more ++ ((if format then List.replicate depth 9 else []) ++ 125 :: rest))).length :=
          by
      rw [List.length_cons, List.length_append]
      omega
    have hparse := h.parsed (levels-1) _ hblank _ (blank_tabs format depth) _ hlength rest
    rw [← hinput] at hskip
    rw [← parseMembers_skipped c _ _ _ _ hskip] at hparse
    simp only [List.append_assoc, List.cons_append, List.nil_append]
    rw [nesting]
    cases levels with
    | zero => exact parseValue_zero c 123 (.inr rfl) _
    | succ levels =>
      rw [Nat.add_sub_cancel] at hparse
      rw [parseValue_object, parseObject, hskip, readBack]
      simp only [hparse, Nat.add_le_add_iff_right]
      split_ifs <;> first | rfl | contradiction

mutual

/-- Every value is printed, and read again if there are levels enough. -/
theorem exists_reads (hc : c.Standard) (format : Bool) (depth : ℕ) :
    ∀ item : Item D, ∃ text, Reads c format depth item text
  | .null => ⟨_, reads_null c format depth⟩
  | .false => ⟨_, reads_false c format depth⟩
  | .true => ⟨_, reads_true c format depth⟩
  | .number d => reads_number c hc format depth d
  | .string s => ⟨_, reads_string c format depth s⟩
  | .array child => by
    obtain rfl | ⟨text, htext⟩ := exists_readsElements hc format (depth+1) child
    · exact ⟨_, reads_emptyArray c format depth⟩
    · exact ⟨_, reads_array c htext⟩
  | .object child => by
    obtain rfl | ⟨text, htext⟩ := exists_readsMembers hc format (depth+1) child
    · exact ⟨_, reads_emptyObject c format depth⟩
    · exact ⟨_, reads_object c htext⟩

theorem exists_readsElements (hc : c.Standard) (format : Bool) (depth : ℕ) :
    ∀ child : List (Item D), child = [] ∨ ∃ text, ReadsElements c format depth child text
  | [] => .inl rfl
  | item :: next => by
    obtain ⟨text, htext⟩ := exists_reads hc format depth item
    obtain rfl | ⟨texts, htexts⟩ := exists_readsElements hc format depth next
    · exact .inr ⟨text, readsElements_last c htext⟩
    · exact .inr ⟨_, readsElements_cons c htext htexts⟩

theorem exists_readsMembers (hc : c.Standard) (format : Bool) (depth : ℕ) :
    ∀ child : List (Text × Item D), child = [] ∨ ∃ text, ReadsMembers c format depth child text
  | [] => .inl rfl
  | (string, item) :: next => by
    obtain ⟨text, htext⟩ := exists_reads hc format depth item
    obtain rfl | ⟨texts, htexts⟩ := exists_readsMembers hc format depth next
    · exact .inr ⟨_, readsMembers_last c string htext⟩
    · exact .inr ⟨_, readsMembers_cons c string htext htexts⟩

end

/-- The text of a tree, and what a parser makes of it. -/
theorem exists_print (hc : c.Standard) (format : Bool) (item : Item D) :
    ∃ text, print c format item = some text ∧ text ≠ [] ∧
      parse c text = if nesting item ≤ cjsonNestingLimit then some (readBack c item) else none := by
  obtain ⟨text, htext⟩ := exists_reads c hc format 0 item
  refine ⟨text, htext.printed, List.ne_nil_of_length_pos htext.begins.length_pos, ?_⟩
  have hstr : str text = text :=
    List.takeWhile_eq_self_iff.mpr fun b hb => decide_eq_true (htext.noZero b hb)
  have hskip := htext.begins.skipWhitespace [] (fun _ hb => absurd hb List.not_mem_nil) [0]
  rw [List.nil_append] at hskip
  rw [parse, hstr, hskip, htext.parsed _ [0] (ends_cons 0 [] rfl)]
  split_ifs <;> rfl

end trees

end CJson

end MmWaveTracker
