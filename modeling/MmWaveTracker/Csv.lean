import Mathlib.Data.List.Basic
import Mathlib.Tactic.Common

/-! Records of comma-separated values: a field is either plain or enclosed in double quotes,
between which a double quote is written twice. -/
namespace MmWaveTracker.Csv

def IsSeparator (c : Char) : Prop := c = ',' ∨ c = '\n' ∨ c = '\r'

instance (c : Char) : Decidable (IsSeparator c) := inferInstanceAs (Decidable (_ ∨ _))

/-- A text that can be a field as it is. -/
def Plain (text : List Char) : Prop := ∀ c ∈ text, ¬IsSeparator c ∧ c ≠ '"'

instance (text : List Char) : Decidable (Plain text) := List.decidableBAll _ text

/-- Where a reader stands, with the field so far: outside quotes, between them, or behind a
quote that may be the closing one. -/
inductive State where
  | bare (field : List Char)
  | quoted (field : List Char)
  | closed (field : List Char)

def State.field : State → List Char
  | .bare field | .quoted field | .closed field => field

def State.isQuoted : State → Bool
  | .quoted _ => true
  | .bare _ | .closed _ => false

/-- The next character of the same field. A quote in a field that does not start with one is
malformed, and so is anything else behind a closing quote. -/
def State.next : State → Char → Option State
  | .bare field, c => if c ≠ '"' then some (.bare (field ++ [c]))
      else if field = [] then some (.quoted []) else none
  | .quoted field, c => some (if c ≠ '"' then .quoted (field ++ [c]) else .closed field)
  | .closed field, c => if c ≠ '"' then none else some (.quoted (field ++ [c]))

/-- The fields of the first record, and what stands behind its end. -/
def readFrom (st : State) : List Char → Option (List (List Char) × List Char)
  | [] => if st.isQuoted then none else some ([st.field], [])
  | c :: cs =>
    if st.isQuoted ∨ ¬IsSeparator c then (st.next c).bind fun st' => readFrom st' cs
    else if c = ',' then (readFrom (.bare []) cs).map fun (fields, rest) =>
      (st.field :: fields, rest)
    else some ([st.field], if c = '\r' ∧ cs.head? = some '\n' then cs.tail else cs)

def readRecord (text : List Char) : Option (List (List Char) × List Char) :=
  readFrom (.bare []) text

/-- Plain text is read as it is. -/
theorem readFrom_append (field text rest : List Char) (h : Plain text) :
    readFrom (.bare field) (text ++ rest) = readFrom (.bare (field ++ text)) rest := by
  induction text generalizing field with
  | nil => rw [List.nil_append, List.append_nil]
  | cons c text ih =>
    obtain ⟨hseparator, hquote⟩ := h c List.mem_cons_self
    rw [List.cons_append, readFrom, if_pos (.inr hseparator), State.next, if_pos hquote,
      Option.bind_some, ih _ fun d hd => h d (List.mem_cons_of_mem c hd), List.append_assoc,
        List.singleton_append]

theorem not_inside (field : List Char) (c : Char) (hc : IsSeparator c) :
    ¬((State.bare field).isQuoted = true ∨ ¬IsSeparator c) := by
  rintro (h | h)
  · cases h
  · exact h hc

theorem readRecord_comma (text rest : List Char) (h : Plain text) :
    readRecord (text ++ ',' :: rest) = (readRecord rest).map fun (fields, rest) =>
      (text :: fields, rest) := by
  rw [readRecord, readFrom_append [] text _ h, readFrom, if_neg (not_inside _ _ (.inl rfl)),
    if_pos rfl]
  rfl

theorem readRecord_newline (text rest : List Char) (h : Plain text) :
    readRecord (text ++ '\n' :: rest) = some ([text], rest) := by
  rw [readRecord, readFrom_append [] text _ h, readFrom, if_neg (not_inside _ _ (.inr (.inl rfl))),
    if_neg (by decide), if_neg fun hcr => absurd hcr.1 (by decide)]
  rfl

/-- A character either ends the field or is the next one in it. -/
theorem readFrom_cons_cases {st : State} {c : Char} {cs first : List Char}
    {fields : List (List Char)} {rest : List Char}
    (h : readFrom st (c :: cs) = some (first :: fields, rest)) :
    st.isQuoted = false ∧ IsSeparator c ∧ first = st.field ∨
    (st.isQuoted = true ∨ ¬IsSeparator c) ∧
      ∃ st', st.next c = some st' ∧ readFrom st' cs = some (first :: fields, rest) := by
  rw [readFrom] at h
  split_ifs at h with hinside hcomma
  · exact .inr ⟨hinside, Option.bind_eq_some_iff.mp h⟩
  · obtain ⟨hbare, hseparator⟩ := not_or.mp hinside
    obtain ⟨⟨fields', rest'⟩, -, heq⟩ := Option.map_eq_some_iff.mp h
    cases heq
    exact .inl ⟨Bool.not_eq_true _ ▸ hbare, not_not.mp hseparator, rfl⟩
  all_goals
    obtain ⟨hbare, hseparator⟩ := not_or.mp hinside
    cases h
    exact .inl ⟨Bool.not_eq_true _ ▸ hbare, not_not.mp hseparator, rfl⟩

theorem readFrom_nil {st : State} {first : List Char} {fields : List (List Char)} {rest : List Char}
    (h : readFrom st [] = some (first :: fields, rest)) : first = st.field := by
  rw [readFrom] at h
  split_ifs at h
  cases h
  rfl

theorem field_next {st st' : State} {c : Char} (h : st.next c = some st') :
    st.field <+: st'.field := by
  cases st with
  | bare field =>
    simp only [State.next] at h
    split_ifs at h with hc hnil
    · cases h
      exact List.prefix_append field [c]
    · cases h
      rw [State.field, hnil]
      exact List.nil_prefix
  | quoted field =>
    cases h
    split
    · exact List.prefix_append field [c]
    · exact List.prefix_refl field
  | closed field =>
    simp only [State.next] at h
    split_ifs at h
    cases h
    exact List.prefix_append field [c]

/-- What was read of a field stays its beginning. -/
theorem field_prefix {st : State} {cs first : List Char} {fields : List (List Char)}
    {rest : List Char} (h : readFrom st cs = some (first :: fields, rest)) :
    st.field <+: first := by
  induction cs generalizing st with
  | nil => exact readFrom_nil h ▸ List.prefix_refl _
  | cons c cs ih =>
    rcases readFrom_cons_cases h with ⟨-, -, hfirst⟩ | ⟨-, st', hnext, hrest⟩
    · exact hfirst ▸ List.prefix_refl _
    · exact (field_next hnext).trans (ih hrest)

/-! The quotes that a text starts with. -/

def quotes (text : List Char) : ℕ := (text.takeWhile (· = '"')).length

theorem quotes_cons (c : Char) (text : List Char) :
    quotes (c :: text) = if c = '"' then quotes text + 1 else 0 := by
  unfold quotes
  rw [List.takeWhile_cons]
  by_cases hc : c = '"'
  · rw [if_pos hc, decide_eq_true hc, if_pos rfl, List.length_cons]
  · rw [if_neg hc, decide_eq_false hc, if_neg Bool.false_ne_true, List.length_nil]

theorem quotes_append (n : ℕ) (text : List Char) :
    quotes (List.replicate n '"' ++ text) = n + quotes text := by
  induction n with
  | zero => rw [List.replicate_zero, List.nil_append, Nat.zero_add]
  | succ n ih =>
    rw [List.replicate_succ, List.cons_append, quotes_cons, if_pos rfl, ih]
    omega

/-- Behind the first quote, a field gets at most half of the quotes that the text has. -/
theorem quotes_first {n : ℕ} {cs first : List Char} {fields : List (List Char)} {rest : List Char} :
    (readFrom (.quoted (List.replicate n '"')) cs = some (first :: fields, rest) →
      2*quotes first ≤ 2*n + quotes cs) ∧
    (readFrom (.closed (List.replicate n '"')) cs = some (first :: fields, rest) →
      2*quotes first ≤ 2*n + quotes cs + 1) := by
  have hall (n : ℕ) : quotes (List.replicate n '"') = n := by
    have h := quotes_append n []
    rw [List.append_nil] at h
    exact h
  induction cs generalizing n with
  | nil =>
    constructor
    · intro h
      cases h
    · intro h
      rw [readFrom_nil h, State.field, hall]
      omega
  | cons c cs ih =>
    rw [quotes_cons]
    constructor
    · intro h
      rcases readFrom_cons_cases h with ⟨hquoted, -⟩ | ⟨-, st', hnext, hrest⟩
      · cases hquoted
      · cases hnext
        split_ifs at hrest with hc
        · obtain ⟨tail, rfl⟩ := field_prefix hrest
          rw [State.field, List.append_assoc, quotes_append, List.singleton_append, quotes_cons,
            if_neg hc]
          omega
        · rw [if_pos (not_not.mp hc)]
          have hle := (ih (n := n)).2 hrest
          omega
    · intro h
      rcases readFrom_cons_cases h with ⟨-, -, rfl⟩ | ⟨-, st', hnext, hrest⟩
      · rw [State.field, hall]
        omega
      · simp only [State.next] at hnext
        split_ifs at hnext with hc
        cases hnext
        have hquote : c = '"' := not_not.mp hc
        rw [hquote, ← List.replicate_succ'] at hrest
        rw [if_pos hquote]
        have hle := (ih (n := n+1)).1 hrest
        omega

/-- A text in front of a separator that is read back as the first field is plain: read as a
quoted field it would lose quotes at its beginning. -/
theorem plain_of_readRecord {text : List Char} {c : Char} {cs : List Char}
    {fields : List (List Char)} {rest : List Char}
    (hc : IsSeparator c) (h : readRecord (text ++ c :: cs) = some (text :: fields, rest)) :
    Plain text := by
  have hquote : c ≠ '"' := by rintro rfl; exact absurd hc (by decide)
  have hquotes (text : List Char) : quotes (text ++ c :: cs) = quotes text := by
    induction text with
    | nil => rw [List.nil_append, quotes_cons, if_neg hquote]; rfl
    | cons d text ih => rw [List.cons_append, quotes_cons, quotes_cons, ih]
  have hbare (field tail : List Char) (hstart : field ≠ [] ∨ quotes tail = 0)
      (h : readFrom (.bare field) (tail ++ c :: cs) = some ((field ++ tail) :: fields, rest)) :
        Plain tail := by
    induction tail generalizing field with
    | nil => exact fun d hd => absurd hd List.not_mem_nil
    | cons d tail ih =>
      rw [List.cons_append] at h
      rcases readFrom_cons_cases h with ⟨-, -, heq⟩ | ⟨hinside, st', hnext, hrest⟩
      · exact absurd (List.append_right_eq_self.mp heq) (List.cons_ne_nil d tail)
      · have hseparator : ¬IsSeparator d := hinside.resolve_left Bool.false_ne_true
        simp only [State.next] at hnext
        split_ifs at hnext with hd hnil
        · cases hnext
          rw [List.append_cons field d tail] at hrest
          have htail := ih (field ++ [d])
            (.inl (List.append_ne_nil_of_right_ne_nil _ (List.cons_ne_nil d []))) hrest
          intro e he
          rcases List.mem_cons.mp he with rfl | he
          · exact ⟨hseparator, hd⟩
          · exact htail e he
        · rw [quotes_cons, if_pos (not_not.mp hd)] at hstart
          exact absurd hnil (hstart.resolve_right (Nat.succ_ne_zero _))
  by_cases hstart : quotes text = 0
  · exact hbare [] text (.inr hstart) h
  · cases text with
    | nil => exact absurd rfl hstart
    | cons d tail =>
      rw [quotes_cons] at hstart
      rw [List.cons_append] at h
      have hd : d = '"' := by_contra fun hd => hstart (if_neg hd)
      rcases readFrom_cons_cases h with ⟨-, hd', -⟩ | ⟨-, st', hnext, hrest⟩
      · rw [hd] at hd'
        exact absurd hd' (by decide)
      · have hst : st' = .quoted (List.replicate 0 '"') := by
          rw [hd] at hnext
          exact (Option.some.inj hnext).symm
        rw [hst] at hrest
        have hle := quotes_first.1 hrest
        rw [hquotes, quotes_cons, if_pos hd] at hle
        omega

end MmWaveTracker.Csv
