import MmWaveTracker.IperfDialog

/-! `MapActivity.CorrectLabel`: the label of a run with its pieces in order. -/
namespace MmWaveTracker.RunLabel

open IperfDialog (units correctLabel)
open JavaText

/-! UTF-16 tells texts apart, so there is one order in which pieces can be sorted. -/

def charUnits (c : Char) : List ℕ :=
  if c.toNat < 65536 then [c.toNat]
  else [55296 + (c.toNat - 65536)/1024, 56320 + (c.toNat - 65536)%1024]

theorem units_cons (c : Char) (text : List Char) : units (c :: text) = charUnits c ++ units text :=
  rfl

/-- No character is a surrogate, so the first unit says how many there are. -/
theorem charUnits_append_inj (c d : Char) (xs ys : List ℕ)
    (h : charUnits c ++ xs = charUnits d ++ ys) :
    c = d ∧ xs = ys := by
  have hvalid (c : Char) : c.toNat < 55296 ∨ 57343 < c.toNat ∧ c.toNat < 1114112 := c.valid
  have hc := hvalid c
  have hd := hvalid d
  unfold charUnits at h
  split_ifs at h with hc' hd' hd'
  · obtain ⟨hcd, hxs⟩ := List.cons.inj h
    exact ⟨Char.toNat_inj.mp hcd, hxs⟩
  · have hhigh := (List.cons.inj h).1
    omega
  · have hhigh := (List.cons.inj h).1
    omega
  · obtain ⟨hhigh, hrest⟩ := List.cons.inj h
    obtain ⟨hlow, hxs⟩ := List.cons.inj hrest
    exact ⟨Char.toNat_inj.mp (by omega), hxs⟩

theorem charUnits_ne_nil (c : Char) : charUnits c ≠ [] := by
  unfold charUnits
  split_ifs
  · exact List.cons_ne_nil _ _
  · exact List.cons_ne_nil _ _

theorem units_injective (s t : List Char) (h : units s = units t) : s = t := by
  have hne (c : Char) (text : List Char) : units (c :: text) ≠ [] :=
    List.append_ne_nil_of_left_ne_nil (charUnits_ne_nil c) _
  induction s generalizing t with
  | nil =>
    cases t with
    | nil => rfl
    | cons d t => exact absurd h.symm (hne d t)
  | cons c s ih =>
    cases t with
    | nil => exact absurd h (hne c s)
    | cons d t =>
      rw [units_cons, units_cons] at h
      obtain ⟨rfl, hst⟩ := charUnits_append_inj c d _ _ h
      rw [ih t hst]

/-- `Arrays.sort`, as in `CorrectLabel`. -/
def sorted (pieces : List (List Char)) : List (List Char) :=
  pieces.mergeSort fun a b => decide (units a ≤ units b)

theorem sorted_perm (pieces : List (List Char)) : (sorted pieces).Perm pieces :=
  List.mergeSort_perm _ _

theorem sorted_pairwise (pieces : List (List Char)) :
    (sorted pieces).Pairwise fun a b => units a ≤ units b := by
  have hpairwise : (sorted pieces).Pairwise fun a b => decide (units a ≤ units b) = true := by
    apply List.pairwise_mergeSort
    · intro a b c hab hbc
      exact decide_eq_true ((of_decide_eq_true hab).trans (of_decide_eq_true hbc))
    · intro a b
      rw [Bool.or_eq_true, decide_eq_true_eq, decide_eq_true_eq]
      exact le_total _ _
  exact hpairwise.imp fun h => of_decide_eq_true h

theorem sorted_of_pairwise (pieces : List (List Char))
    (h : pieces.Pairwise fun a b => units a ≤ units b) :
    sorted pieces = pieces := List.mergeSort_of_pairwise (h.imp fun h => decide_eq_true h)

theorem sorted_eq_iff (pieces pieces' : List (List Char)) : sorted pieces = sorted pieces' ↔
    pieces.Perm pieces' := by
  constructor
  · intro h
    exact (sorted_perm pieces).symm.trans (h ▸ sorted_perm pieces')
  · intro h
    have hperm := (sorted_perm pieces).trans (h.trans (sorted_perm pieces').symm)
    exact hperm.eq_of_pairwise (fun a b _ _ hab hba => units_injective a b (le_antisymm hab hba))
      (sorted_pairwise pieces)
      (sorted_pairwise pieces')

/-! The pieces of a label. -/

/-- The pieces between the delimiters, with the empty ones. -/
def pieces (label : String) : List (List Char) := label.toList.splitOn '_'

/-- How many delimiters the label ends with. -/
def delimitersAtEnd (label : String) : ℕ := (label.toList.rtakeWhile (· = '_')).length

def OnlyDelimiters (label : String) : Prop := ∀ c ∈ label.toList, c = '_'

instance (label : String) : Decidable (OnlyDelimiters label) := List.decidableBAll _ _

/-- The array that `CorrectLabel` sorts. -/
def labelPieces (label : String) : List (List Char) := split '_' label.toList

theorem correctLabel_eq (label : String) (h : label ≠ "") :
    correctLabel label = some (String.ofList (['_'].intercalate (sorted (labelPieces label)))) :=
      if_neg h

theorem toList_ne_nil {label : String} (h : label ≠ "") : label.toList ≠ [] :=
  fun hnil => h (String.toList_eq_nil_iff.mp hnil)

theorem labelPieces_eq_nil_iff (label : String) (h : label ≠ "") :
    labelPieces label = [] ↔ OnlyDelimiters label := by
  have hiff := trimEnd_eq_nil_iff '_' label.toList
  unfold labelPieces OnlyDelimiters
  rw [split_eq _ _ (toList_ne_nil h), ← hiff]
  split_ifs with hnil
  · exact iff_of_true rfl hnil
  · exact iff_of_false (List.splitOn_ne_nil _ _) hnil

/-- The pieces, without the empty ones at the end. -/
theorem pieces_eq (label : String) (h : label ≠ "") (hne : ¬OnlyDelimiters label) :
    pieces label = labelPieces label ++ List.replicate (delimitersAtEnd label) [] := by
  have hnil : trimEnd '_' label.toList ≠ [] := fun hnil => hne ((trimEnd_eq_nil_iff _ _).mp hnil)
  rw [labelPieces, split_eq _ _ (toList_ne_nil h), if_neg hnil]
  exact splitOn_eq_trimEnd '_' label.toList

theorem pieces_of_onlyDelimiters (label : String) (h : OnlyDelimiters label) :
    pieces label = List.replicate (label.toList.length+1) [] := by
  have hrep : label.toList = List.replicate label.toList.length '_' :=
    List.eq_replicate_iff.mpr ⟨rfl, h⟩
  rw [pieces, hrep, splitOn_replicate, List.length_replicate]

theorem onlyDelimiters_iff (label : String) :
    OnlyDelimiters label ↔ ∀ piece ∈ pieces label, piece = [] := by
  constructor
  · intro h piece hpiece
    rw [pieces_of_onlyDelimiters label h] at hpiece
    exact List.eq_of_mem_replicate hpiece
  · intro h
    have hrep : pieces label = List.replicate (pieces label).length [] :=
      List.eq_replicate_iff.mpr ⟨rfl, h⟩
    have hjoin : ['_'].intercalate (pieces label) = label.toList := List.intercalate_splitOn '_'
    have hdelimiters (n : ℕ) : ∀ c ∈ ['_'].intercalate (List.replicate n []), c = '_' := by
      induction n with
      | zero => exact fun c hc => (List.not_mem_nil hc).elim
      | succ n ih =>
        cases n with
        | zero => exact fun c hc => (List.not_mem_nil hc).elim
        | succ n =>
          intro c hc
          rw [List.replicate_succ, List.replicate_succ, List.intercalate_cons_cons,
            List.nil_append] at hc
          rcases List.mem_append.mp hc with hc | hc
          · exact List.mem_singleton.mp hc
          · exact ih c hc
    rw [hrep] at hjoin
    intro c hc
    rw [← hjoin] at hc
    exact hdelimiters _ c hc

/-- Not all pieces are empty, so the last one in order is not. -/
theorem sorted_last (ps : List (List Char)) (h : ∃ piece ∈ ps, piece ≠ []) :
    ∃ front last, sorted ps = front ++ [last] ∧ last ≠ [] := by
  obtain ⟨piece, hpiece, hne⟩ := h
  have hmem : piece ∈ sorted ps := (sorted_perm ps).mem_iff.mpr hpiece
  rcases List.eq_nil_or_concat (sorted ps) with hnil | ⟨front, last, hconcat⟩
  · rw [hnil] at hmem
    exact absurd hmem List.not_mem_nil
  · rw [List.concat_eq_append] at hconcat
    refine ⟨front, last, hconcat, ?_⟩
    rintro rfl
    have hpairwise := sorted_pairwise ps
    rw [hconcat, List.pairwise_append] at hpairwise
    rw [hconcat] at hmem
    rcases List.mem_append.mp hmem with hfront | hlast
    · have hle : units piece ≤ [] := hpairwise.2.2 piece hfront [] List.mem_cons_self
      have hnil : units piece = units [] := by
        cases hunits : units piece with
        | nil => rfl
        | cons u us =>
          rw [hunits] at hle
          exact absurd hle (not_le_of_gt (List.nil_lt_cons u us))
      exact hne (units_injective piece [] hnil)
    · exact hne (List.mem_singleton.mp hlast)

section Result

variable {label : String}

/-- The result, split again, is what was sorted. -/
theorem splitOn_result (h : label ≠ "") (hne : ¬OnlyDelimiters label) :
    (['_'].intercalate (sorted (labelPieces label))).splitOn '_' = sorted (labelPieces label) := by
  apply List.splitOn_intercalate
  · intro piece hpiece
    have hmem := (sorted_perm _).mem_iff.mp hpiece
    exact (not_mem_of_mem_split '_' label.toList piece hmem).1
  · intro hnil
    have hperm := sorted_perm (labelPieces label)
    rw [hnil] at hperm
    exact hne ((labelPieces_eq_nil_iff label h).mp hperm.symm.eq_nil)

theorem exists_labelPiece (h : label ≠ "") (hne : ¬OnlyDelimiters label) :
    ∃ piece ∈ labelPieces label, piece ≠ [] := by
  have hpieces := mt (onlyDelimiters_iff label).mpr hne
  rw [pieces_eq label h hne] at hpieces
  simp only [not_forall] at hpieces
  obtain ⟨piece, hmem, hpiece⟩ := hpieces
  rcases List.mem_append.mp hmem with hmem | hmem
  · exact ⟨piece, hmem, hpiece⟩
  · exact absurd (List.eq_of_mem_replicate hmem) hpiece

/-- The result has the pieces of the label, in order. -/
theorem pieces_result (h : label ≠ "") (hne : ¬OnlyDelimiters label) :
    pieces (String.ofList (['_'].intercalate (sorted (labelPieces label)))) =
      sorted (labelPieces label) := by
  rw [pieces, String.toList_ofList]
  exact splitOn_result h hne

theorem correctLabel_of_onlyDelimiters (h : label ≠ "") (hall : OnlyDelimiters label) :
    correctLabel label = some "" := by
  rw [correctLabel_eq label h, (labelPieces_eq_nil_iff label h).mpr hall]
  have hsorted : sorted [] = [] := (sorted_perm []).eq_nil
  rw [hsorted]
  rfl

/-- A result that is not empty comes out of `CorrectLabel` again. -/
theorem correctLabel_result (h : label ≠ "") (hne : ¬OnlyDelimiters label) :
    correctLabel (String.ofList (['_'].intercalate (sorted (labelPieces label)))) =
      some (String.ofList (['_'].intercalate (sorted (labelPieces label)))) := by
  obtain ⟨front, last, hsorted, hlast⟩ := sorted_last _ (exists_labelPiece h hne)
  have hsplit : labelPieces (String.ofList (['_'].intercalate (sorted (labelPieces label)))) =
      sorted (labelPieces label) := by
    rw [labelPieces, String.toList_ofList, hsorted]
    apply split_intercalate '_' front last _ hlast
    intro piece hpiece
    rw [← hsorted] at hpiece
    exact (not_mem_of_mem_split '_' label.toList piece ((sorted_perm _).mem_iff.mp hpiece)).1
  have hstring : String.ofList (['_'].intercalate (sorted (labelPieces label))) ≠ "" := by
    intro hempty
    have hpieces := pieces_result h hne
    rw [hempty, hsorted] at hpieces
    have hlast' : [] = last :=
      (List.append_singleton_inj.mp (show [] ++ [[]] = front ++ [last] from hpieces)).2
    exact hlast hlast'.symm
  rw [correctLabel_eq _ hstring, hsplit, sorted_of_pairwise _ (sorted_pairwise _)]

end Result

/-- Labels with the same pieces have the same result, which has these pieces in order, but for
the empty ones, and is its own result. -/
structure Canonical (label label' : String) : Prop where
  same : correctLabel label = correctLabel label'
  kept : ∀ result, correctLabel label = some result →
    ((pieces result).filter (· ≠ [])).Perm ((pieces label).filter (· ≠ [])) ∧
    ((pieces result).filter (· ≠ [])).Pairwise fun a b => units a ≤ units b
  stable : ∃ result, correctLabel label = some result ∧ correctLabel result = some result

/-- Whatever the label, no piece is lost. -/
theorem pieces_kept (label result : String) (h : label ≠ "")
    (hresult : correctLabel label = some result) :
    ((pieces result).filter (· ≠ [])).Perm ((pieces label).filter (· ≠ [])) ∧
    ((pieces result).filter (· ≠ [])).Pairwise fun a b => units a ≤ units b := by
  by_cases hall : OnlyDelimiters label
  · rw [correctLabel_of_onlyDelimiters h hall] at hresult
    cases hresult
    have hnone : (pieces label).filter (· ≠ []) = [] := by
      rw [List.filter_eq_nil_iff]
      intro piece hpiece hne
      exact of_decide_eq_true hne ((onlyDelimiters_iff label).mp hall piece hpiece)
    rw [hnone]
    exact ⟨.nil, .nil⟩
  · rw [correctLabel_eq label h] at hresult
    cases hresult
    rw [pieces_result h hall]
    have hempty : (List.replicate (delimitersAtEnd label) ([] : List Char)).filter (· ≠ []) =
        [] := by
      rw [List.filter_eq_nil_iff]
      intro piece hpiece hne
      exact of_decide_eq_true hne (List.eq_of_mem_replicate hpiece)
    refine ⟨?_, (sorted_pairwise _).filter _⟩
    rw [pieces_eq label h hall, List.filter_append, hempty, List.append_nil]
    exact (sorted_perm _).filter _

/-- Two results are the same if the delimiters at the end are as many. -/
theorem same_result_iff (label label' : String) (h : label ≠ "") (h' : label' ≠ "")
    (hperm : (pieces label).Perm (pieces label')) (hne : ¬OnlyDelimiters label) :
    correctLabel label = correctLabel label' ↔ delimitersAtEnd label = delimitersAtEnd label' := by
  have hne' : ¬OnlyDelimiters label' := by
    rw [onlyDelimiters_iff] at hne ⊢
    exact fun hall => hne fun piece hpiece => hall piece (hperm.mem_iff.mp hpiece)
  have hresult : correctLabel label = correctLabel label' ↔
      (labelPieces label).Perm (labelPieces label') := by
    rw [correctLabel_eq label h, correctLabel_eq label' h', Option.some_inj, ← sorted_eq_iff]
    constructor
    · intro hsame
      rw [← pieces_result h hne, hsame, pieces_result h' hne']
    · intro hsame
      rw [hsame]
  rw [pieces_eq label h hne, pieces_eq label' h' hne'] at hperm
  rw [hresult]
  constructor
  · intro hpieces
    have hlength := hperm.length_eq
    have hlength' := hpieces.length_eq
    rw [List.length_append, List.length_append, List.length_replicate,
      List.length_replicate] at hlength
    omega
  · intro hend
    rw [hend] at hperm
    exact (List.perm_append_right_iff _).mp hperm

/-- Labels that differ in the delimiters at their ends are told apart, and a label of nothing
but delimiters becomes the empty text and then none. -/
theorem canonical_iff (label label' : String) (h : label ≠ "") (h' : label' ≠ "")
    (hperm : (pieces label).Perm (pieces label')) :
    Canonical label label' ↔ ¬OnlyDelimiters label ∧
      delimitersAtEnd label = delimitersAtEnd label' := by
  constructor
  · intro hcanonical
    have hne : ¬OnlyDelimiters label := by
      intro hall
      obtain ⟨result, hresult, hstable⟩ := hcanonical.stable
      rw [correctLabel_of_onlyDelimiters h hall] at hresult
      cases hresult
      cases hstable
    exact ⟨hne, (same_result_iff label label' h h' hperm hne).mp hcanonical.same⟩
  · rintro ⟨hne, hend⟩
    refine ⟨(same_result_iff label label' h h' hperm hne).mpr hend, fun result =>
      pieces_kept label result h, ?_⟩
    exact ⟨_, correctLabel_eq label h, correctLabel_result h hne⟩

/-- One delimiter too many in front of the label and in the middle of it. -/
theorem canonical_in_front : Canonical "_walk_5G" "5G__walk" :=
  (canonical_iff "_walk_5G" "5G__walk" (by decide) (by decide) (by decide)).mpr
    ⟨by decide, by decide⟩

/-- One in front and one at the end; and nothing else. -/
theorem label_not_canonical :
    ((pieces "_walk").Perm (pieces "walk_") ∧ ¬Canonical "_walk" "walk_") ∧
    ((pieces "_").Perm (pieces "_") ∧ ¬Canonical "_" "_") := by
  refine ⟨⟨by decide, ?_⟩, .refl _, ?_⟩
  · intro h
    have hsame := (same_result_iff "_walk" "walk_" (by decide) (by decide) (by decide)
      (by decide)).mp h.same
    exact absurd hsame (by decide)
  · intro h
    obtain ⟨result, hresult, hstable⟩ := h.stable
    rw [correctLabel_of_onlyDelimiters (by decide) (by decide)] at hresult
    cases hresult
    cases hstable

end MmWaveTracker.RunLabel
