import MmWaveTracker.JavaInt
import Mathlib.Data.List.DropRight
import Mathlib.Data.List.TakeWhile

/-! Texts as Java's library reads them, as lists of characters. -/
namespace MmWaveTracker.JavaText

/-- `Character.isWhitespace`. -/
def isWhitespace (c : Char) : Bool :=
  [9, 10, 11, 12, 13, 28, 29, 30, 31, 32, 5760, 8192, 8193, 8194, 8195, 8196, 8197, 8198, 8200,
    8201, 8202, 8232, 8233, 8287, 12288].contains c.toNat

/-- The value of a number without its sign; `digit` is `Character.digit`. -/
def unsignedValue (digit : Char → Option ℕ) (cs : List Char) : Option ℕ :=
  if cs = [] then none else (cs.mapM digit).map fun ds => ds.foldl (fun n d => 10*n + d) 0

/-- What `Scanner` has of its locale, and `Character.digit`, which knows the digits of all
scripts. -/
structure Scanner where
  groupSeparator : Char
  digit : Char → Option ℕ
  digit_of_isDigit : ∀ c, c.isDigit = true → digit c = some (c.toNat-48)

/-- `Character.digit` for the digits of ASCII alone. -/
def latinDigit (c : Char) : Option ℕ := if c.isDigit then some (c.toNat-48) else none

theorem latinDigit_of_isDigit (c : Char) (h : c.isDigit = true) :
    latinDigit c = some (c.toNat-48) :=
  if_pos h

/-- Groups between commas. -/
def asciiScanner : Scanner where
  groupSeparator := ','
  digit := latinDigit
  digit_of_isDigit := latinDigit_of_isDigit

section Numerals

variable (scanner : Scanner)

/-- Digits in groups: one to three of them, no zero first, and then threes. -/
def grouped : List (List Char) → Bool
  | first :: second :: rest =>
    (1 ≤ first.length && first.length ≤ 3) && first.head? != some '0' &&
      (first :: second :: rest).all (fun group => group.all fun c => (scanner.digit c).isSome) &&
      (second :: rest).all (fun group => group.length == 3)
  | _ => false

/-- A numeral of `Scanner`; `none` if it is not one. -/
def numeral (cs : List Char) : Option ℕ :=
  if cs ≠ [] ∧ cs.all fun c => (scanner.digit c).isSome then unsignedValue scanner.digit cs
  else if grouped scanner (cs.splitOn scanner.groupSeparator) then
    unsignedValue scanner.digit (cs.splitOn scanner.groupSeparator).flatten
  else none

def intInRange (n : ℤ) : Option ℤ := if -2147483648 ≤ n ∧ n < 2147483648 then some n else none

/-- The token of an `int`. -/
def intToken : List Char → Option ℤ
  | '-' :: cs => (numeral scanner cs).bind fun n => intInRange (-(n:ℤ))
  | '+' :: cs => (numeral scanner cs).bind fun n => intInRange n
  | cs => (numeral scanner cs).bind fun n => intInRange n

/-- `new Scanner(in).nextInt()` where the bytes of `in` spell `cs`; `none` if it throws. -/
def nextInt (cs : List Char) : Option ℤ :=
  intToken scanner ((cs.dropWhile isWhitespace).takeWhile fun c => !isWhitespace c)

theorem not_isWhitespace_of_isDigit (c : Char) (h : c.isDigit = true) : isWhitespace c = false := by
  have hrange : 48 ≤ c.toNat ∧ c.toNat ≤ 57 := by
    simp only [Char.isDigit, Bool.and_eq_true, decide_eq_true_eq, ge_iff_le,
      UInt32.le_iff_toNat_le] at h
    exact h
  have hcontains : ∀ n : ℕ, n < 58 → 48 ≤ n → isWhitespace (Char.ofNat n) = false := by decide
  have hc := hcontains c.toNat (by omega) hrange.1
  rwa [Char.ofNat_toNat] at hc

theorem unsignedValue_of_isDigit (digit : Char → Option ℕ)
    (hdigit : ∀ c, c.isDigit = true → digit c = some (c.toNat-48)) (cs : List Char) (hne : cs ≠ [])
    (h : ∀ c ∈ cs, c.isDigit = true) :
    unsignedValue digit cs = some (Nat.ofDigitChars 10 cs 0) := by
  have hmap : cs.mapM digit = some (cs.map fun c => c.toNat-48) := by
    clear hne
    induction cs with
    | nil => rfl
    | cons c cs ih =>
      rw [List.mapM_cons, hdigit c (h c List.mem_cons_self), ih fun d hd =>
        h d (List.mem_cons_of_mem c hd)]
      rfl
  rw [unsignedValue, if_neg hne, hmap, Option.map_some, List.foldl_map]
  rfl

theorem numeral_toDigits (n : ℕ) : numeral scanner (Nat.toDigits 10 n) = some n := by
  have hdigits : ∀ c ∈ Nat.toDigits 10 n, c.isDigit = true :=
    fun c hc => Nat.isDigit_of_mem_toDigits (by decide) (by decide) hc
  have hall : ((Nat.toDigits 10 n).all fun c => (scanner.digit c).isSome) = true := by
    refine List.all_eq_true.mpr fun c hc => ?_
    rw [scanner.digit_of_isDigit c (hdigits c hc)]
    rfl
  rw [numeral, if_pos ⟨Nat.toDigits_ne_nil, hall⟩,
    unsignedValue_of_isDigit _ scanner.digit_of_isDigit _ Nat.toDigits_ne_nil hdigits,
      Nat.ofDigitChars_ten_toDigits]

theorem intInRange_eq (n : ℤ) (hlo : -2147483648 ≤ n) (hhi : n < 2147483648) :
    intInRange n = some n := if_pos ⟨hlo, hhi⟩

/-- The characters of a token are read up to the end. -/
theorem nextInt_token (cs : List Char) (h : ∀ c ∈ cs, isWhitespace c = false) :
    nextInt scanner cs = intToken scanner cs := by
  have hdrop : cs.dropWhile isWhitespace = cs := by
    rw [List.dropWhile_eq_self_iff]
    intro hlen
    rw [h _ (List.getElem_mem hlen)]
    exact Bool.false_ne_true
  have htake : cs.takeWhile (fun c => !isWhitespace c) = cs := by
    rw [List.takeWhile_eq_self_iff]
    intro c hc
    rw [h c hc]
    rfl
  rw [nextInt, hdrop, htake]

theorem intToken_of_isDigit (cs : List Char) (h : ∀ c ∈ cs, c.isDigit = true) :
    intToken scanner cs = (numeral scanner cs).bind fun n => intInRange n := by
  cases cs with
  | nil => rfl
  | cons c cs =>
    have hc := h c List.mem_cons_self
    unfold intToken
    split
    · rename_i heq
      rw [(List.cons.injEq ..).mp heq |>.1] at hc
      exact absurd hc (by decide)
    · rename_i heq
      rw [(List.cons.injEq ..).mp heq |>.1] at hc
      exact absurd hc (by decide)
    · rfl

/-- `nextInt` reads what `Integer.toString` has written. -/
theorem nextInt_valueOf (n : ℤ) (hlo : -2147483648 ≤ n) (hhi : n < 2147483648) :
    nextInt scanner (valueOf n).toList = some n := by
  have hdigits : ∀ m : ℕ, ∀ c ∈ Nat.toDigits 10 m, c.isDigit = true :=
    fun m c hc => Nat.isDigit_of_mem_toDigits (by decide) (by decide) hc
  have hspace : ∀ m : ℕ, ∀ c ∈ Nat.toDigits 10 m, isWhitespace c = false :=
    fun m c hc => not_isWhitespace_of_isDigit c (hdigits m c hc)
  rcases n with m | m
  · have hm : (valueOf (Int.ofNat m)).toList = Nat.toDigits 10 m := valueOf_toList_ofNat m
    rw [hm, nextInt_token scanner _ (hspace m), intToken_of_isDigit scanner _ (hdigits m),
      numeral_toDigits, Option.bind_some]
    exact intInRange_eq _ hlo hhi
  · have hminus : ∀ c ∈ '-' :: Nat.toDigits 10 (m+1), isWhitespace c = false := by
      intro c hc
      rcases List.mem_cons.mp hc with rfl | hc
      · decide
      · exact hspace (m+1) c hc
    rw [valueOf_toList_neg, nextInt_token scanner _ hminus, intToken, numeral_toDigits,
      Option.bind_some]
    exact intInRange_eq _ hlo hhi

theorem nextInt_range (cs : List Char) (n : ℤ) (h : nextInt scanner cs = some n) :
    -2147483648 ≤ n ∧ n < 2147483648 := by
  have hrange : ∀ m : ℤ, intInRange m = some n → -2147483648 ≤ n ∧ n < 2147483648 := by
    intro m hm
    unfold intInRange at hm
    split_ifs at hm with hin
    cases hm
    exact hin
  unfold nextInt intToken at h
  split at h
  · obtain ⟨m, -, hm⟩ := Option.bind_eq_some_iff.mp h
    exact hrange _ hm
  · obtain ⟨m, -, hm⟩ := Option.bind_eq_some_iff.mp h
    exact hrange _ hm
  · obtain ⟨m, -, hm⟩ := Option.bind_eq_some_iff.mp h
    exact hrange _ hm

end Numerals

/-! Lines, the parts of a line, and the names of a path. -/

/-- The loop of `BufferedReader.readLine`, with the line so far; after a carriage return it skips a
line feed. -/
def linesFrom (skipLF : Bool) (line : List Char) : List Char → List (List Char)
  | [] => if line = [] then [] else [line]
  | c :: cs =>
    if c = '\n' then if skipLF then linesFrom false line cs else line :: linesFrom false [] cs
    else if c = '\r' then line :: linesFrom true [] cs
    else linesFrom false (line ++ [c]) cs

/-- `Files.readAllLines`. -/
def readAllLines (cs : List Char) : List (List Char) := linesFrom false [] cs

/-- `String.split` at a character: trailing empty parts are left out, unless there is nothing to
split. -/
def split (separator : Char) (cs : List Char) : List (List Char) :=
  if separator ∈ cs then (cs.splitOn separator).rdropWhile (· = []) else [cs]

/-- `String.split` with a limit: at most so many parts, the rest in the last of them. -/
def splitLimit (separator : Char) : ℕ → List Char → List (List Char)
  | n+2, cs =>
    if separator ∈ cs then
      cs.takeWhile (· ≠ separator) :: splitLimit separator (n+1) (cs.dropWhile (· ≠ separator)).tail
    else [cs]
  | _, cs => [cs]

/-- The names of a `Path`. -/
def pathNames (cs : List Char) : List (List Char) := (cs.splitOn '/').filter (· ≠ [])

def Unbroken (cs : List Char) : Prop := '\n' ∉ cs ∧ '\r' ∉ cs

instance (cs : List Char) : Decidable (Unbroken cs) := inferInstanceAs (Decidable (_ ∧ _))

theorem Unbroken.cons {c : Char} {cs : List Char} (h : Unbroken (c :: cs)) :
    c ≠ '\n' ∧ c ≠ '\r' ∧ Unbroken cs :=
  ⟨fun hc => h.1 (hc ▸ List.mem_cons_self), fun hc => h.2 (hc ▸ List.mem_cons_self),
    fun hm => h.1 (List.mem_cons_of_mem c hm), fun hm => h.2 (List.mem_cons_of_mem c hm)⟩

theorem Unbroken.append {xs ys : List Char} (h : Unbroken xs) (h' : Unbroken ys) :
    Unbroken (xs ++ ys) := by
  constructor
  · exact fun hm => (List.mem_append.mp hm).elim h.1 h'.1
  · exact fun hm => (List.mem_append.mp hm).elim h.2 h'.2

/-- A line feed ends a line, whatever was in front of the line. -/
theorem linesFrom_line (skipLF : Bool) (line cs rest : List Char) (hcs : Unbroken cs)
    (hne : cs ≠ []) : linesFrom skipLF line (cs ++ '\n' :: rest) = (line ++ cs) :: linesFrom false
    [] rest := by
  induction cs generalizing skipLF line with
  | nil => exact absurd rfl hne
  | cons c cs ih =>
    obtain ⟨hn, hr, hcs'⟩ := hcs.cons
    rw [List.cons_append, linesFrom, if_neg hn, if_neg hr]
    cases cs with
    | nil => rfl
    | cons c' cs =>
      rw [ih false (line ++ [c]) hcs' (List.cons_ne_nil c' cs), List.append_assoc]
      rfl

theorem linesFrom_last (skipLF : Bool) (line cs : List Char) (hcs : Unbroken cs) (hne : cs ≠ []) :
    linesFrom skipLF line cs = [line ++ cs] := by
  induction cs generalizing skipLF line with
  | nil => exact absurd rfl hne
  | cons c cs ih =>
    obtain ⟨hn, hr, hcs'⟩ := hcs.cons
    rw [linesFrom, if_neg hn, if_neg hr]
    cases cs with
    | nil =>
      rw [linesFrom, if_neg (List.append_ne_nil_of_right_ne_nil line (List.cons_ne_nil c []))]
    | cons c' cs =>
      rw [ih false (line ++ [c]) hcs' (List.cons_ne_nil c' cs), List.append_assoc]
      rfl

theorem readAllLines_three (first second third : List Char) (hfirst : Unbroken first)
    (hsecond : Unbroken second) (hthird : Unbroken third)
      (hne : first ≠ [] ∧ second ≠ [] ∧ third ≠ []) :
    readAllLines (first ++ '\n' :: (second ++ '\n' :: third)) = [first, second, third] := by
  rw [readAllLines, linesFrom_line false [] first _ hfirst hne.1,
    linesFrom_line false [] second _ hsecond hne.2.1,
    linesFrom_last false [] third hthird hne.2.2]
  rfl

theorem unbroken_of_mem_linesFrom (skipLF : Bool) (line cs : List Char) (hline : Unbroken line) :
    ∀ l ∈ linesFrom skipLF line cs, Unbroken l := by
  induction cs generalizing skipLF line with
  | nil =>
    intro l hl
    rw [linesFrom] at hl
    split_ifs at hl
    · cases hl
    · rw [List.mem_singleton.mp hl]
      exact hline
  | cons c cs ih =>
    have hnil : Unbroken [] := ⟨List.not_mem_nil, List.not_mem_nil⟩
    intro l hl
    rw [linesFrom] at hl
    split_ifs at hl with hn hskip hr
    · exact ih false line hline l hl
    · rcases List.mem_cons.mp hl with rfl | hl
      · exact hline
      · exact ih false [] hnil l hl
    · rcases List.mem_cons.mp hl with rfl | hl
      · exact hline
      · exact ih true [] hnil l hl
    · refine ih false (line ++ [c]) (hline.append ⟨?_, ?_⟩) l hl
      · exact fun hm => hn (List.mem_singleton.mp hm).symm
      · exact fun hm => hr (List.mem_singleton.mp hm).symm

theorem not_mem_of_mem_splitOn (separator : Char) (cs : List Char) :
    ∀ part ∈ cs.splitOn separator, separator ∉ part ∧ ∀ c ∈ part, c ∈ cs := by
  induction cs with
  | nil =>
    intro part hpart
    rw [List.splitOn_nil, List.mem_singleton] at hpart
    rw [hpart]
    exact ⟨List.not_mem_nil, fun _ hc => hc⟩
  | cons x cs ih =>
    intro part hpart
    rw [List.splitOn_cons_eq_if_modifyHead] at hpart
    split_ifs at hpart with hx
    · rcases List.mem_cons.mp hpart with rfl | hpart
      · exact ⟨List.not_mem_nil, fun _ hc => absurd hc List.not_mem_nil⟩
      · exact ⟨(ih part hpart).1, fun c hc => List.mem_cons_of_mem x ((ih part hpart).2 c hc)⟩
    · cases hs : cs.splitOn separator with
      | nil => exact absurd hs (List.splitOn_ne_nil separator cs)
      | cons first rest =>
        rw [hs] at ih hpart
        rcases List.mem_cons.mp hpart with rfl | hpart
        · obtain ⟨hsep, hsub⟩ := ih first List.mem_cons_self
          constructor
          · intro hm
            rcases List.mem_cons.mp hm with rfl | hm
            · exact hx (beq_self_eq_true _)
            · exact hsep hm
          · intro c hc
            rcases List.mem_cons.mp hc with rfl | hc
            · exact List.mem_cons_self
            · exact List.mem_cons_of_mem x (hsub c hc)
        · obtain ⟨hsep, hsub⟩ := ih part (List.mem_cons_of_mem first hpart)
          exact ⟨hsep, fun c hc => List.mem_cons_of_mem x (hsub c hc)⟩

theorem not_mem_of_mem_split (separator : Char) (cs part : List Char)
    (h : part ∈ split separator cs) : separator ∉ part ∧ ∀ c ∈ part, c ∈ cs := by
  unfold split at h
  split_ifs at h with hmem
  · exact not_mem_of_mem_splitOn separator cs part ((List.rdropWhile_prefix _ _).subset h)
  · rw [List.mem_singleton.mp h]
    exact ⟨hmem, fun _ hc => hc⟩

/-- The text without the separators it ends with. -/
def trimEnd (separator : Char) (cs : List Char) : List Char := cs.rdropWhile (· = separator)

theorem splitOn_concat_ne (separator c : Char) (cs : List Char) (hc : c ≠ separator) :
    ∃ front last, (cs ++ [c]).splitOn separator = front ++ [last] ∧ last ≠ [] := by
  induction cs with
  | nil =>
    refine ⟨[], [c], ?_, List.cons_ne_nil c []⟩
    rw [List.nil_append, List.splitOn_eq_singleton (fun h => hc (List.mem_singleton.mp h).symm)]
    rfl
  | cons x cs ih =>
    obtain ⟨front, last, hsplit, hlast⟩ := ih
    rw [List.cons_append, List.splitOn_cons_eq_if_modifyHead, hsplit]
    split_ifs with hx
    · exact ⟨[] :: front, last, rfl, hlast⟩
    · cases front with
      | nil => exact ⟨[], x :: last, rfl, List.cons_ne_nil x last⟩
      | cons first front => exact ⟨(x :: first) :: front, last, rfl, hlast⟩

/-- What `split` leaves out is what comes from the separators at the end. -/
theorem rdropWhile_splitOn (separator : Char) (cs : List Char) :
    (cs.splitOn separator).rdropWhile (· = []) =
      if trimEnd separator cs = [] then [] else (trimEnd separator cs).splitOn separator := by
  unfold trimEnd
  induction cs using List.reverseRecOn with
  | nil => rfl
  | append_singleton cs c ih =>
    by_cases hc : c = separator
    · have hparts : (cs.splitOn separator ++ [[]]).rdropWhile (· = []) =
          (cs.splitOn separator).rdropWhile (· = []) :=
        List.rdropWhile_concat_pos _ _ _ (decide_eq_true rfl)
      have hend : (cs ++ [separator]).rdropWhile (· = separator) = cs.rdropWhile (· = separator) :=
        List.rdropWhile_concat_pos _ _ _ (decide_eq_true rfl)
      rw [hc, List.splitOn_append_cons_self, List.splitOn_nil, hparts, hend, ih]
    · obtain ⟨front, last, hsplit, hlast⟩ := splitOn_concat_ne separator c cs hc
      have hparts : (front ++ [last]).rdropWhile (· = []) = front ++ [last] :=
        List.rdropWhile_concat_neg _ _ _ fun h => hlast (of_decide_eq_true h)
      have hend : (cs ++ [c]).rdropWhile (· = separator) = cs ++ [c] :=
        List.rdropWhile_concat_neg _ _ _ fun h => hc (of_decide_eq_true h)
      rw [hend, if_neg (List.append_ne_nil_of_right_ne_nil cs (List.cons_ne_nil c [])), hsplit,
        hparts]

theorem split_eq (separator : Char) (cs : List Char) (h : cs ≠ []) : split separator cs =
    if trimEnd separator cs = [] then [] else (trimEnd separator cs).splitOn separator := by
  rw [← rdropWhile_splitOn]
  unfold split
  split_ifs with hmem
  · rfl
  · have hne : ¬decide (cs = []) = true := fun hnil => h (of_decide_eq_true hnil)
    rw [List.splitOn_eq_singleton hmem]
    exact (List.rdropWhile_concat_neg (fun part : List Char => decide (part = [])) [] cs hne).symm

theorem trimEnd_eq_nil_iff (separator : Char) (cs : List Char) :
    trimEnd separator cs = [] ↔ ∀ c ∈ cs, c = separator := by
  rw [trimEnd, List.rdropWhile_eq_nil_iff]
  simp only [decide_eq_true_eq]

theorem splitOn_replicate (separator : Char) (n : ℕ) :
    (List.replicate n separator).splitOn separator = List.replicate (n+1) [] := by
  induction n with
  | zero => rfl
  | succ n ih =>
    have hcons := List.splitOn_append_cons_self (a := separator) [] (List.replicate n separator)
    rw [List.nil_append, List.splitOn_nil, ih] at hcons
    exact hcons

/-- The separators at the end give one empty part each. -/
theorem splitOn_eq_trimEnd (separator : Char) (cs : List Char) : cs.splitOn separator =
    (trimEnd separator cs).splitOn separator ++ List.replicate
    (cs.rtakeWhile (· = separator)).length [] := by
  have hrep : cs.rtakeWhile (· = separator) =
      List.replicate (cs.rtakeWhile (· = separator)).length separator := by
    refine List.eq_replicate_iff.mpr ⟨rfl, ?_⟩
    intro c hc
    exact of_decide_eq_true (List.mem_rtakeWhile_imp (p := fun c => decide (c = separator)) hc)
  have hcs : trimEnd separator cs ++
      List.replicate (cs.rtakeWhile (· = separator)).length separator = cs := by
    rw [← hrep]
    exact List.rdropWhile_append_rtakeWhile
  conv_lhs => rw [← hcs]
  cases (cs.rtakeWhile (· = separator)).length with
  | zero => rw [List.replicate_zero, List.append_nil, List.replicate_zero, List.append_nil]
  | succ n => rw [List.replicate_succ, List.splitOn_append_cons_self, splitOn_replicate]

theorem trimEnd_append (separator : Char) (front rest : List Char) :
    trimEnd separator (front ++ rest) = if trimEnd separator rest = [] then trimEnd separator front
      else front ++ trimEnd separator rest := by
  unfold trimEnd List.rdropWhile
  rw [List.reverse_append, List.dropWhile_append]
  by_cases hnil : rest.reverse.dropWhile (· = separator) = []
  · rw [hnil]
    rfl
  · have hempty : ¬(rest.reverse.dropWhile (· = separator)).isEmpty = true :=
      fun h => hnil (List.isEmpty_iff.mp h)
    rw [if_neg hempty, if_neg fun h => hnil (List.reverse_eq_nil_iff.mp h), List.reverse_append,
      List.reverse_reverse]

theorem trimEnd_of_not_mem (separator : Char) (cs : List Char) (h : separator ∉ cs) :
    trimEnd separator cs = cs := by
  apply List.rdropWhile_eq_self_iff.mpr
  intro hne hlast
  have hmem := List.getLast_mem hne
  rw [of_decide_eq_true hlast] at hmem
  exact h hmem

/-- A separator stays if anything comes after it. -/
theorem trimEnd_append_cons (separator : Char) (front rest : List Char) (h : separator ∉ front) :
    trimEnd separator (front ++ separator :: rest) =
      if trimEnd separator rest = [] then front
        else front ++ separator :: trimEnd separator rest := by
  have hcons : trimEnd separator (separator :: rest) =
      if trimEnd separator rest = [] then trimEnd separator [separator]
        else separator :: trimEnd separator rest :=
    trimEnd_append separator [separator] rest
  have hself : trimEnd separator [separator] = [] :=
    (trimEnd_eq_nil_iff separator [separator]).mpr fun c hc => List.mem_singleton.mp hc
  rw [trimEnd_append, hcons, hself, trimEnd_of_not_mem separator front h]
  by_cases hnil : trimEnd separator rest = []
  · rw [if_pos hnil, if_pos rfl, if_pos hnil]
  · rw [if_neg hnil, if_neg (List.cons_ne_nil _ _), if_neg hnil]

theorem takeWhile_of_not_mem (separator : Char) (cs : List Char) (h : separator ∉ cs) :
    cs.takeWhile (· ≠ separator) = cs := by
  rw [List.takeWhile_eq_self_iff]
  intro c hc
  exact decide_eq_true fun heq => h (heq ▸ hc)

theorem takeWhile_append_cons (separator : Char) (front rest : List Char) (h : separator ∉ front) :
    (front ++ separator :: rest).takeWhile (· ≠ separator) = front := by
  have hstop : (separator :: rest).takeWhile (· ≠ separator) = [] :=
    List.takeWhile_cons_of_neg fun h => of_decide_eq_true h rfl
  rw [List.takeWhile_append, takeWhile_of_not_mem separator front h, if_pos rfl, hstop,
    List.append_nil]

/-- The first part reaches up to the first separator. -/
theorem splitOn_head (separator : Char) (cs : List Char) :
    ∃ parts, cs.splitOn separator = cs.takeWhile (· ≠ separator) :: parts := by
  by_cases hmem : separator ∈ cs
  · obtain ⟨front, rest, rfl, hfront⟩ := List.eq_append_cons_of_mem hmem
    rw [List.splitOn_append_cons_self_of_not_mem hfront,
      takeWhile_append_cons separator front rest hfront]
    exact ⟨_, rfl⟩
  · rw [List.splitOn_eq_singleton hmem, takeWhile_of_not_mem separator cs hmem]
    exact ⟨_, rfl⟩

theorem takeWhile_trimEnd (separator : Char) (cs : List Char) :
    (trimEnd separator cs).takeWhile (· ≠ separator) = cs.takeWhile (· ≠ separator) := by
  by_cases hmem : separator ∈ cs
  · obtain ⟨front, rest, rfl, hfront⟩ := List.eq_append_cons_of_mem hmem
    rw [takeWhile_append_cons separator front rest hfront,
      trimEnd_append_cons separator front rest hfront]
    split_ifs
    · exact takeWhile_of_not_mem separator front hfront
    · exact takeWhile_append_cons separator front _ hfront
  · rw [trimEnd_of_not_mem separator cs hmem]

/-- Joined parts are found again if the last one is not empty. -/
theorem split_intercalate (separator : Char) (front : List (List Char)) (last : List Char)
    (h : ∀ part ∈ front ++ [last], separator ∉ part) (hlast : last ≠ []) :
    split separator ([separator].intercalate (front ++ [last])) = front ++ [last] := by
  have hparts := List.splitOn_intercalate separator h (List.append_ne_nil_of_right_ne_nil front
    (List.cons_ne_nil last []))
  have hdrop : (front ++ [last]).rdropWhile (· = []) = front ++ [last] :=
    List.rdropWhile_concat_neg _ _ _ fun hnil => hlast (of_decide_eq_true hnil)
  generalize hjoined : [separator].intercalate (front ++ [last]) = joined at hparts
  have hne : joined ≠ [] := by
    rintro rfl
    rw [List.splitOn_nil, ← List.nil_append [[]]] at hparts
    exact hlast (List.append_singleton_inj.mp hparts).2.symm
  rw [split_eq separator joined hne, ← rdropWhile_splitOn, hparts, hdrop]

theorem trimEnd_ne_nil (separator c : Char) (cs : List Char) (hc : c ≠ separator) (hmem : c ∈ cs) :
    trimEnd separator cs ≠ [] := fun hnil => hc ((trimEnd_eq_nil_iff separator cs).mp hnil c hmem)

theorem split_cons (separator : Char) (part rest : List Char) (hpart : separator ∉ part)
    (hrest : trimEnd separator rest ≠ []) :
    split separator (part ++ separator :: rest) = part :: split separator rest := by
  have hne : rest ≠ [] := by
    rintro rfl
    exact hrest rfl
  rw [split_eq _ _ (List.append_ne_nil_of_right_ne_nil part (List.cons_ne_nil _ _)),
    split_eq _ _ hne, trimEnd_append_cons separator part rest hpart, if_neg hrest, if_neg hrest,
    if_neg (List.append_ne_nil_of_right_ne_nil part (List.cons_ne_nil _ _)),
    List.splitOn_append_cons_self_of_not_mem hpart]

/-- A part that is not empty is the first one, whatever comes behind it. -/
theorem split_first (separator : Char) (part rest : List Char) (hpart : separator ∉ part)
    (hne : part ≠ []) (hrest : rest = [] ∨ ∃ text, rest = separator :: text) :
    ∃ parts, split separator (part ++ rest) = part :: parts := by
  rcases hrest with rfl | ⟨text, rfl⟩
  · rw [List.append_nil]
    exact ⟨[], if_neg hpart⟩
  · by_cases htext : trimEnd separator text = []
    · rw [split_eq _ _ (List.append_ne_nil_of_left_ne_nil hne _),
        trimEnd_append_cons separator part text hpart,
        if_pos htext, if_neg hne, List.splitOn_eq_singleton hpart]
      exact ⟨[], rfl⟩
    · rw [split_cons separator part text hpart htext]
      exact ⟨_, rfl⟩

theorem split_pair (separator : Char) (key value : List Char) (hkey : separator ∉ key)
    (hvalue : separator ∉ value) (hne : value ≠ []) :
    split separator (key ++ separator :: value) = [key, value] := by
  have hmem : separator ∈ key ++ separator :: value := List.mem_append_right key List.mem_cons_self
  have hlast : (decide (value = [])) ≠ true := fun h => hne (of_decide_eq_true h)
  rw [split, if_pos hmem, List.splitOn_append_cons_self_of_not_mem hkey,
    List.splitOn_eq_singleton hvalue]
  exact List.rdropWhile_concat_neg (fun part : List Char => decide (part = [])) [key] value hlast

theorem pathNames_append (xs ys : List Char) :
    pathNames (xs ++ '/' :: ys) = pathNames xs ++ pathNames ys := by
  rw [pathNames, List.splitOn_append_cons_self, List.filter_append]
  rfl

theorem pathNames_ne_nil (cs : List Char) (c : Char) (hc : c ≠ '/') (hmem : c ∈ cs) :
    pathNames cs ≠ [] := by
  induction cs with
  | nil => cases hmem
  | cons x cs ih =>
    rw [pathNames, List.splitOn_cons_eq_if_modifyHead]
    split_ifs with hx
    · rw [beq_iff_eq] at hx
      rw [List.filter_cons_of_neg (by simp)]
      refine ih ?_
      rcases List.mem_cons.mp hmem with heq | hmem
      · exact absurd (heq.trans hx) hc
      · exact hmem
    · cases hs : cs.splitOn '/' with
      | nil => exact absurd hs (List.splitOn_ne_nil '/' cs)
      | cons first rest =>
        rw [List.modifyHead_cons, List.filter_cons_of_pos (by simp)]
        exact List.cons_ne_nil _ _

/-! Searching a text, whatever its characters are. -/

section Search

variable {α : Type} [DecidableEq α]

/-- Where `key` begins for the first time. -/
def firstAt (key : List α) : List α → Option ℕ
  | [] => if key = [] then some 0 else none
  | c :: text => if key <+: c :: text then some 0 else (firstAt key text).map (·+1)

/-- Where `key` begins for the last time. -/
def lastAt (key : List α) : List α → Option ℕ
  | [] => if key = [] then some 0 else none
  | c :: text => ((lastAt key text).map (·+1)).or (if key <+: c :: text then some 0 else none)

def index (position : Option ℕ) : ℤ := (position.map fun n => (n:ℤ)).getD (-1)

def indexOf (text key : List α) : ℤ := index (firstAt key text)

def lastIndexOf (text key : List α) : ℤ := index (lastAt key text)

def contains (text key : List α) : Bool := (firstAt key text).isSome

/-- `substring`; `none` if it throws. -/
def substring (text : List α) (beginIndex endIndex : ℤ) : Option (List α) :=
  if 0 ≤ beginIndex ∧ beginIndex ≤ endIndex ∧ endIndex ≤ text.length then
    some ((text.take endIndex.toNat).drop beginIndex.toNat)
  else none

def OccursAt (key text : List α) (i : ℕ) : Prop := key <+: text.drop i

omit [DecidableEq α] in
theorem OccursAt.lt {key text : List α} {i : ℕ} (hkey : key ≠ []) (h : OccursAt key text i) :
    i < text.length := by
  by_contra hge
  have hdrop : text.drop i = [] := List.drop_eq_nil_of_le (not_lt.mp hge)
  rw [OccursAt, hdrop, List.prefix_nil] at h
  exact hkey h

omit [DecidableEq α] in
theorem OccursAt.add_length_le {key text : List α} {i : ℕ} (hkey : key ≠ [])
    (h : OccursAt key text i) : i+key.length ≤ text.length := by
  have hlt := h.lt hkey
  have hle := List.IsPrefix.length_le h
  rw [List.length_drop] at hle
  omega

theorem firstAt_occurs (key text : List α) (i : ℕ) (h : firstAt key text = some i) :
    OccursAt key text i ∧ ∀ j, OccursAt key text j → i ≤ j := by
  induction text generalizing i with
  | nil =>
    rw [firstAt] at h
    split_ifs at h with hkey
    cases h
    rw [hkey]
    exact ⟨List.nil_prefix, fun j _ => Nat.zero_le j⟩
  | cons c text ih =>
    rw [firstAt] at h
    split_ifs at h with hhere
    · cases h
      exact ⟨hhere, fun j _ => Nat.zero_le j⟩
    · obtain ⟨k, hk, rfl⟩ := Option.map_eq_some_iff.mp h
      obtain ⟨hat, hfirst⟩ := ih k hk
      refine ⟨hat, ?_⟩
      intro j hj
      cases j with
      | zero => exact absurd hj hhere
      | succ j => exact Nat.succ_le_succ (hfirst j hj)

theorem firstAt_append_cons (c : α) (front rest : List α) (h : c ∉ front) :
    firstAt [c] (front ++ c :: rest) = some front.length := by
  induction front with
  | nil =>
    have hhere : [c] <+: c :: rest := List.prefix_append [c] rest
    rw [List.nil_append, firstAt, if_pos hhere]
    rfl
  | cons x front ih =>
    have hhere : ¬[c] <+: x :: (front ++ c :: rest) := by
      intro hprefix
      rw [(List.cons_prefix_cons.mp hprefix).1] at h
      exact h List.mem_cons_self
    rw [List.cons_append, firstAt, if_neg hhere, ih fun hmem => h (List.mem_cons_of_mem x hmem)]
    rfl

theorem firstAt_isSome (key text : List α) (i : ℕ) (hkey : key ≠ []) (h : OccursAt key text i) :
    (firstAt key text).isSome = true := by
  induction text generalizing i with
  | nil => exact absurd (h.lt hkey) (Nat.not_lt_zero i)
  | cons c text ih =>
    rw [firstAt]
    split_ifs with hhere
    · rfl
    · rw [Option.isSome_map]
      cases i with
      | zero => exact absurd h hhere
      | succ i => exact ih i h

theorem lastAt_isSome (key text : List α) (i : ℕ) (hkey : key ≠ []) (h : OccursAt key text i) :
    (lastAt key text).isSome = true := by
  induction text generalizing i with
  | nil => exact absurd (h.lt hkey) (Nat.not_lt_zero i)
  | cons c text ih =>
    rw [lastAt, Option.isSome_or, Option.isSome_map, Bool.or_eq_true]
    cases i with
    | zero =>
      have hhere : key <+: c :: text := h
      rw [if_pos hhere]
      exact .inr rfl
    | succ i => exact .inl (ih i h)

theorem lastAt_occurs (key text : List α) (i : ℕ) (hkey : key ≠ []) (h : lastAt key text = some i) :
    OccursAt key text i ∧ ∀ j, OccursAt key text j → j ≤ i := by
  induction text generalizing i with
  | nil =>
    rw [lastAt, if_neg hkey] at h
    cases h
  | cons c text ih =>
    rw [lastAt] at h
    cases hrest : lastAt key text with
    | some k =>
      rw [hrest] at h
      cases h
      obtain ⟨hat, hlast⟩ := ih k hrest
      refine ⟨hat, ?_⟩
      intro j hj
      cases j with
      | zero => exact Nat.zero_le _
      | succ j => exact Nat.succ_le_succ (hlast j hj)
    | none =>
      rw [hrest, Option.map_none, Option.none_or] at h
      split_ifs at h with hhere
      cases h
      refine ⟨hhere, ?_⟩
      intro j hj
      cases j with
      | zero => exact le_rfl
      | succ j =>
        have hsome := lastAt_isSome key text j hkey hj
        rw [hrest] at hsome
        cases hsome

theorem contains_iff (text key : List α) (hkey : key ≠ []) :
    contains text key = true ↔ ∃ i, lastAt key text = some i := by
  rw [contains, ← Option.isSome_iff_exists]
  constructor
  · intro h
    obtain ⟨i, hi⟩ := Option.isSome_iff_exists.mp h
    exact lastAt_isSome key text i hkey (firstAt_occurs key text i hi).1
  · intro h
    obtain ⟨i, hi⟩ := Option.isSome_iff_exists.mp h
    exact firstAt_isSome key text i hkey (lastAt_occurs key text i hkey hi).1

theorem contains_iff_isInfix (text key : List α) (hkey : key ≠ []) :
    contains text key = true ↔ key <:+: text := by
  rw [contains]
  constructor
  · intro h
    obtain ⟨i, hi⟩ := Option.isSome_iff_exists.mp h
    exact (firstAt_occurs key text i hi).1.isInfix.trans (List.drop_suffix i text).isInfix
  · rintro ⟨before, after, rfl⟩
    apply firstAt_isSome key _ before.length hkey
    rw [OccursAt, List.append_assoc, List.drop_left]
    exact List.prefix_append key after

theorem contains_of_infix (part text key : List α) (hkey : key ≠ []) (hpart : part <:+: text)
    (h : contains part key = true) : contains text key = true :=
  (contains_iff_isInfix text key hkey).mpr (((contains_iff_isInfix part key hkey).mp h).trans hpart)

theorem index_ne_neg_one (position : Option ℕ) : index position ≠ -1 ↔ ∃ i, position = some i := by
  cases position with
  | none => exact iff_of_false (fun h => h rfl) fun ⟨i, hi⟩ => by cases hi
  | some i => exact iff_of_true (by change (i:ℤ) ≠ -1; omega) ⟨i, rfl⟩

omit [DecidableEq α] in
theorem substring_of_le (text : List α) (b e : ℕ) (hbe : b ≤ e) (he : e ≤ text.length) :
    substring text b e = some ((text.take e).drop b) := by
  have hrange : 0 ≤ (b:ℤ) ∧ (b:ℤ) ≤ (e:ℤ) ∧ (e:ℤ) ≤ (text.length:ℤ) := by omega
  rw [substring, if_pos hrange, Int.toNat_natCast, Int.toNat_natCast]

end Search

/-! Occurrences beside a separator. -/

theorem eq_nil_of_prefix_cons {α : Type} (l b : List α) (sep : α) (h : sep ∉ l)
    (hbefore : l <+: sep :: b) : l = [] := by
  cases l with
  | nil => rfl
  | cons x l =>
    obtain ⟨rfl, -⟩ := List.cons_prefix_cons.mp hbefore
    exact absurd List.mem_cons_self h

/-- What does not contain the separator is found on one side of it. -/
theorem infix_append_cons_iff {α : Type} (key a b : List α) (sep : α) (h : sep ∉ key) :
    key <:+: a ++ sep :: b ↔ key <:+: a ∨ key <:+: b := by
  rw [List.infix_append_iff, List.infix_cons_iff]
  constructor
  · rintro (ha | (hbefore | hb) | ⟨first, second, rfl, hsuffix, hbefore⟩)
    · exact .inl ha
    · rw [eq_nil_of_prefix_cons key b sep h hbefore]
      exact .inl List.nil_infix
    · exact .inr hb
    · have hnil := eq_nil_of_prefix_cons second b sep (fun hmem =>
        h (List.mem_append_right first hmem)) hbefore
      rw [hnil, List.append_nil]
      exact .inl hsuffix.isInfix
  · rintro (ha | hb)
    · exact .inl ha
    · exact .inr (.inl (.inr hb))

/-! Splitting at a text. -/

section SplitKey

variable {α : Type} [DecidableEq α]

/-- The parts of a text between the occurrences of `key`, found one after the other from the
left; the first `skip` characters belong to an occurrence, and `part` was read before them. -/
def splitKeyFrom (key : List α) : ℕ → List α → List α → List (List α)
  | _, part, [] => [part]
  | skip+1, part, _ :: cs => splitKeyFrom key skip part cs
  | 0, part, c :: cs =>
    if key <+: c :: cs then part :: splitKeyFrom key (key.length-1) [] cs
    else splitKeyFrom key 0 (part ++ [c]) cs

/-- `String.split` at a text that is no regular expression of its own, trailing parts included. -/
def splitKey (key text : List α) : List (List α) := splitKeyFrom key 0 [] text

theorem splitKeyFrom_skip (key part taken text : List α) :
    splitKeyFrom key taken.length part (taken ++ text) = splitKeyFrom key 0 part text := by
  induction taken with
  | nil => rfl
  | cons c taken ih =>
    rw [List.length_cons, List.cons_append, splitKeyFrom]
    exact ih

theorem splitKeyFrom_key (key part text : List α) (hkey : key ≠ []) :
    splitKeyFrom key 0 part (key ++ text) = part :: splitKeyFrom key 0 [] text := by
  obtain ⟨c, cs, rfl⟩ := List.exists_cons_of_ne_nil hkey
  have hhere : c :: cs <+: c :: (cs ++ text) := List.prefix_append (c :: cs) text
  rw [List.cons_append, splitKeyFrom, if_pos hhere]
  exact congrArg (part :: ·) (splitKeyFrom_skip (c :: cs) [] cs text)

/-- What is passed over without an occurrence is part of the part. -/
theorem splitKeyFrom_pass (key part passed text : List α)
    (h : ∀ i < passed.length, ¬key <+: (passed ++ text).drop i) :
    splitKeyFrom key 0 part (passed ++ text) = splitKeyFrom key 0 (part ++ passed) text := by
  induction passed generalizing part with
  | nil => rw [List.append_nil, List.nil_append]
  | cons c passed ih =>
    have hhere : ¬key <+: c :: (passed ++ text) := h 0 (Nat.succ_pos _)
    rw [List.cons_append, splitKeyFrom, if_neg hhere, ih, List.append_assoc]
    · rfl
    · exact fun i hi => h (i+1) (Nat.succ_lt_succ hi)

omit [DecidableEq α] in
/-- A part whose last character is not in the key ends where the key begins. -/
theorem not_prefix_drop (key part rest : List α) (c : α) (hc : c ∉ key)
    (hpart : ¬key <:+: part ++ [c]) :
    ∀ i < (part ++ [c]).length, ¬key <+: ((part ++ [c]) ++ rest).drop i := by
  intro i hi hprefix
  rw [List.drop_append_of_le_length hi.le] at hprefix
  rcases List.prefix_or_prefix_of_prefix hprefix (List.prefix_append _ rest) with hinside | hover
  · exact hpart (hinside.isInfix.trans (List.drop_suffix i _).isInfix)
  · have hlast : c ∈ (part ++ [c]).drop i := by
      rw [List.length_append, List.length_singleton] at hi
      rw [List.drop_append_of_le_length (by omega)]
      exact List.mem_append_right _ (List.mem_singleton_self c)
    exact hc (hover.subset hlast)

theorem splitKey_cons (key part rest : List α) (c : α) (hkey : key ≠ []) (hc : c ∉ key)
    (hpart : ¬key <:+: part ++ [c]) :
    splitKey key ((part ++ [c]) ++ (key ++ rest)) = (part ++ [c]) :: splitKey key rest := by
  rw [splitKey, splitKeyFrom_pass key [] _ _ (not_prefix_drop key part _ c hc hpart),
    splitKeyFrom_key key _ rest hkey, List.nil_append]
  rfl

theorem splitKey_single (key part : List α) (c : α) (hc : c ∉ key) (hpart : ¬key <:+: part ++ [c]) :
    splitKey key (part ++ [c]) = [part ++ [c]] := by
  have hpass := splitKeyFrom_pass key [] (part ++ [c]) [] (not_prefix_drop key part [] c hc hpart)
  rw [List.append_nil, List.nil_append] at hpass
  rw [splitKey, hpass]
  rfl

/-- Joined parts are found again if the key is in none of them and none ends with one of its
characters. -/
theorem splitKey_intercalate (key : List α) (hkey : key ≠ []) (parts : List (List α))
    (hne : parts ≠ []) (h : ∀ part ∈ parts, ¬key <:+: part ∧ ∃ front c, part = front ++ [c] ∧
      c ∉ key) :
    splitKey key (key.intercalate parts) = parts := by
  induction parts with
  | nil => exact absurd rfl hne
  | cons part parts ih =>
    obtain ⟨hno, front, c, rfl, hc⟩ := h part List.mem_cons_self
    cases parts with
    | nil =>
      rw [List.intercalate_singleton]
      exact splitKey_single key front c hc hno
    | cons next parts =>
      rw [List.intercalate_cons_cons, List.append_assoc, splitKey_cons key front _ c hkey hc hno,
        ih (List.cons_ne_nil next parts) fun p hp => h p (List.mem_cons_of_mem _ hp)]

end SplitKey

/-! Decimal texts. -/

def digitsValue (cs : List Char) : Option ℕ :=
  if cs ≠ [] ∧ cs.all Char.isDigit then some (Nat.ofDigitChars 10 cs 0) else none

/-- The value of a decimal text, with or without a sign. -/
def parseDecimal : List Char → Option ℤ
  | '-' :: cs => (digitsValue cs).map fun n => -(n:ℤ)
  | '+' :: cs => (digitsValue cs).map fun n => (n:ℤ)
  | cs => (digitsValue cs).map fun n => (n:ℤ)

theorem digitsValue_toDigits (n : ℕ) : digitsValue (Nat.toDigits 10 n) = some n := by
  have hdigits : (Nat.toDigits 10 n).all Char.isDigit = true :=
    List.all_eq_true.mpr fun c hc => Nat.isDigit_of_mem_toDigits (by decide) (by decide) hc
  rw [digitsValue, if_pos ⟨Nat.toDigits_ne_nil, hdigits⟩, Nat.ofDigitChars_ten_toDigits]

theorem parseDecimal_of_isDigit (cs : List Char) (h : ∀ c ∈ cs, c.isDigit = true) :
    parseDecimal cs = (digitsValue cs).map fun n => (n:ℤ) := by
  cases cs with
  | nil => rfl
  | cons c cs =>
    have hc := h c List.mem_cons_self
    unfold parseDecimal
    split
    · rename_i heq
      rw [(List.cons.injEq ..).mp heq |>.1] at hc
      exact absurd hc (by decide)
    · rename_i heq
      rw [(List.cons.injEq ..).mp heq |>.1] at hc
      exact absurd hc (by decide)
    · rfl

theorem parseDecimal_valueOf (n : ℤ) : parseDecimal (valueOf n).toList = some n := by
  cases n with
  | ofNat m =>
    have hm : (valueOf (Int.ofNat m)).toList = Nat.toDigits 10 m := valueOf_toList_ofNat m
    rw [hm, parseDecimal_of_isDigit _ fun c hc =>
      Nat.isDigit_of_mem_toDigits (by decide) (by decide) hc,
      digitsValue_toDigits]
    rfl
  | negSucc m =>
    rw [valueOf_toList_neg, parseDecimal, digitsValue_toDigits]
    rfl

theorem mem_valueOf (n : ℤ) (c : Char) (h : c ∈ (valueOf n).toList) :
    c = '-' ∨ c.isDigit = true := by
  cases n with
  | ofNat m =>
    have hm : (valueOf (Int.ofNat m)).toList = Nat.toDigits 10 m := valueOf_toList_ofNat m
    rw [hm] at h
    exact .inr (Nat.isDigit_of_mem_toDigits (by decide) (by decide) h)
  | negSucc m =>
    rw [valueOf_toList_neg] at h
    rcases List.mem_cons.mp h with rfl | h
    · exact .inl rfl
    · exact .inr (Nat.isDigit_of_mem_toDigits (by decide) (by decide) h)

theorem not_mem_valueOf (n : ℤ) (c : Char) (hminus : c ≠ '-') (hdigit : c.isDigit = false) :
    c ∉ (valueOf n).toList := by
  intro h
  rcases mem_valueOf n c h with rfl | htrue
  · exact hminus rfl
  · rw [hdigit] at htrue
    cases htrue

end MmWaveTracker.JavaText
