import MmWaveTracker.ProcessReport

/-! The tower count of a session against the cells that its samples were served by. -/
namespace MmWaveTracker

/-- The identity of an LTE or NR cell. -/
def CellInfo.cellId : CellInfo → Option String
  | .lte cell => some (valueOf cell.ci)
  | .nr cell => some (valueOf cell.nci)
  | .other _ => none

/-- The identity of the last registered LTE or NR cell of a list. -/
def servingId (cells : List CellInfo) : Option String :=
  (cells.filterMap fun info => if registered info then info.cellId else none).getLast?

/-- A sample with the cells it has found; NR cells are listed from Q on. -/
structure CellSample where
  input : HandoffInput
  cells : List CellInfo
  nr_listed : ∀ cell, CellInfo.nr cell ∈ cells → versionCodeQ ≤ input.android.sdkInt

/-- The report of the sample, with `setMCid` called on a new one. -/
def CellSample.sampled (x : CellSample) : HandoffInput :=
  { x.input with report := { x.input.report with
      cellInfos := some x.cells
      mCid := setMCid x.input.android.sdkInt x.cells "" } }

def sessionOf (sessionNumber : String) (samples : List CellSample) : SessionSummary :=
  foldReports { sessionId := sessionNumber } (samples.map CellSample.sampled)

/-- The number of towers is that of the serving cells, and a sample without one does not
change it. -/
structure CountsTowers (sessionNumber : String) (samples : List CellSample) : Prop where
  distinct : (sessionOf sessionNumber samples).nTowers =
    ((samples.filterMap fun x => servingId x.cells).toFinset.card : ℤ)
  unchanged : ∀ (k : ℕ) x, samples[k]? = some x → servingId x.cells = none →
    (sessionOf sessionNumber (samples.take (k+1))).nTowers =
    (sessionOf sessionNumber (samples.take k)).nTowers

/-- The sample has found a registered LTE or NR cell. -/
def Served (x : CellSample) : Prop := ∃ info ∈ x.cells, registered info = true ∧ info.cellId.isSome

/-! One sample. -/

theorem servingId_cons_some (info : CellInfo) (cells : List CellInfo) (id : String)
    (hreg : registered info = true) (hid : info.cellId = some id) :
    servingId (info :: cells) = some ((servingId cells).getD id) := by
  rw [servingId, List.filterMap_cons, if_pos hreg, hid]
  exact List.getLast?_cons

theorem servingId_cons_none (info : CellInfo) (cells : List CellInfo)
    (h : registered info = false ∨ info.cellId = none) :
    servingId (info :: cells) = servingId cells := by
  have hnone : (if registered info = true then info.cellId else none) = none := by
    rcases h with h | h
    · rw [h]
      rfl
    · rw [h, ite_self]
  rw [servingId, List.filterMap_cons, hnone]
  rfl

theorem setMCid_eq (sdkInt : ℤ) (cells : List CellInfo) (mCid : String)
    (hnr : ∀ cell, CellInfo.nr cell ∈ cells → versionCodeQ ≤ sdkInt) :
    setMCid sdkInt cells mCid = (servingId cells).getD mCid := by
  induction cells generalizing mCid with
  | nil => rfl
  | cons info cells ih =>
    have hrest := fun mCid => ih mCid fun cell h => hnr cell (List.mem_cons_of_mem info h)
    rw [setMCid, List.foldl_cons, ← setMCid, hrest]
    cases hreg : registered info with
    | false =>
      rw [servingId_cons_none info cells (.inl hreg)]
      rfl
    | true =>
      cases info with
      | lte cell =>
        rw [servingId_cons_some _ cells _ hreg rfl]
        rfl
      | nr cell =>
        have hq := hnr cell List.mem_cons_self
        rw [servingId_cons_some _ cells _ hreg rfl]
        simp only [if_true, if_pos hq]
        rfl
      | other text =>
        rw [servingId_cons_none _ cells (.inr rfl)]
        rfl

theorem served_iff (x : CellSample) : Served x ↔ servingId x.cells ≠ none := by
  rw [servingId, Ne, List.getLast?_eq_none_iff, List.filterMap_eq_nil_iff, Served]
  constructor
  · rintro ⟨info, hmem, hreg, hid⟩ hnone
    have h := hnone info hmem
    rw [if_pos hreg] at h
    rw [h] at hid
    cases hid
  · intro h
    push Not at h
    obtain ⟨info, hmem, hne⟩ := h
    cases hreg : registered info with
    | false => exact absurd (by rw [hreg]; rfl) hne
    | true =>
      rw [if_pos hreg] at hne
      exact ⟨info, hmem, hreg, Option.isSome_iff_ne_none.mpr hne⟩

theorem valueOf_ne_empty (n : ℤ) : valueOf n ≠ "" := by
  intro h
  have hl := congrArg String.toList h
  cases n with
  | ofNat m =>
    change (valueOf (m:ℤ)).toList = _ at hl
    rw [valueOf_toList_ofNat] at hl
    exact Nat.toDigits_ne_nil hl
  | negSucc m =>
    rw [valueOf_toList_neg] at hl
    cases hl

theorem servingId_ne_empty (cells : List CellInfo) : servingId cells ≠ some "" := by
  intro h
  obtain ⟨info, -, hid⟩ := List.mem_filterMap.mp (List.mem_of_getLast? h)
  split_ifs at hid
  cases info with
  | lte cell => exact valueOf_ne_empty cell.ci (Option.some.inj hid)
  | nr cell => exact valueOf_ne_empty cell.nci (Option.some.inj hid)
  | other text => cases hid

/-! The session. -/

/-- The text under which a sample is counted. -/
def CellSample.tower (x : CellSample) : String := (servingId x.cells).getD ""

theorem sessionOf_snoc (sessionNumber : String) (samples : List CellSample) (x : CellSample) :
    sessionOf sessionNumber (samples ++ [x]) =
      foldReport (sessionOf sessionNumber samples) x.sampled := by
  rw [sessionOf, List.map_append]
  exact foldReports_snoc _ _ _

theorem towers_sessionOf (sessionNumber : String) (samples : List CellSample) :
    (sessionOf sessionNumber samples).towers = (samples.map CellSample.tower).toFinset ∧
    (sessionOf sessionNumber samples).nTowers =
      ((samples.map CellSample.tower).toFinset.card : ℤ) := by
  induction samples using List.reverseRecOn with
  | nil => exact ⟨rfl, rfl⟩
  | append_singleton samples x ih =>
    have hview := handoffView_foldReport (sessionOf sessionNumber samples) x.sampled
    have htowers := congrArg HandoffView.towers hview
    have hcount := congrArg HandoffView.nTowers hview
    have hid : x.sampled.classified.mCid = x.tower := setMCid_eq _ x.cells "" x.nr_listed
    have hinsert : ((samples ++ [x]).map CellSample.tower).toFinset =
        insert x.tower (samples.map CellSample.tower).toFinset := by
      rw [List.map_append, List.toFinset_append, Finset.union_comm]
      rfl
    rw [sessionOf_snoc, hinsert, ← ih.1, ← hid]
    exact ⟨htowers, hcount⟩

theorem tower_mem_iff (samples : List CellSample) (id : String) :
    id ∈ (samples.map CellSample.tower).toFinset ↔
      id ∈ (samples.filterMap fun x => servingId x.cells).toFinset ∨ id = "" ∧
        ∃ x ∈ samples, servingId x.cells = none := by
  rw [List.mem_toFinset, List.mem_toFinset, List.mem_map, List.mem_filterMap]
  constructor
  · rintro ⟨x, hx, rfl⟩
    cases hid : servingId x.cells with
    | none => exact .inr ⟨by rw [CellSample.tower, hid]; rfl, x, hx, hid⟩
    | some id => exact .inl ⟨x, hx, by rw [CellSample.tower, hid]; rfl⟩
  · rintro (⟨x, hx, hid⟩ | ⟨rfl, x, hx, hid⟩)
    · exact ⟨x, hx, by rw [CellSample.tower, hid]; rfl⟩
    · exact ⟨x, hx, by rw [CellSample.tower, hid]; rfl⟩

theorem towers_of_served (samples : List CellSample) (h : ∀ x ∈ samples, Served x) :
    (samples.map CellSample.tower).toFinset = (samples.filterMap fun x =>
      servingId x.cells).toFinset := by
  ext id
  rw [tower_mem_iff]
  refine or_iff_left ?_
  rintro ⟨-, x, hx, hid⟩
  exact (served_iff x).mp (h x hx) hid

/-- All samples without a cell are counted as one more tower. -/
theorem card_towers_of_unserved (samples : List CellSample) (h : ∃ x ∈ samples, ¬ Served x) :
    (samples.map CellSample.tower).toFinset.card =
      (samples.filterMap fun x => servingId x.cells).toFinset.card + 1 := by
  obtain ⟨x, hx, hnot⟩ := h
  rw [served_iff, not_not] at hnot
  have hnew : "" ∉ (samples.filterMap fun x => servingId x.cells).toFinset := by
    rw [List.mem_toFinset, List.mem_filterMap]
    rintro ⟨y, -, hy⟩
    exact servingId_ne_empty y.cells hy
  have hinsert : (samples.map CellSample.tower).toFinset =
      insert "" (samples.filterMap fun x => servingId x.cells).toFinset := by
    ext id
    rw [tower_mem_iff, Finset.mem_insert, or_comm]
    exact or_congr_left (and_iff_left ⟨x, hx, hnot⟩)
  rw [hinsert, Finset.card_insert_of_notMem hnew]

/-- The towers are counted right exactly when every sample has found a registered cell. -/
theorem tower_count_iff (sessionNumber : String) (samples : List CellSample) :
    CountsTowers sessionNumber samples ↔ ∀ x ∈ samples, Served x := by
  constructor
  · intro h
    by_contra hnot
    push Not at hnot
    have hcount := (towers_sessionOf sessionNumber samples).2
    rw [h.distinct, card_towers_of_unserved samples hnot] at hcount
    omega
  · intro h
    constructor
    · rw [(towers_sessionOf sessionNumber samples).2, towers_of_served samples h]
    · intro k x hk hid
      exact absurd hid ((served_iff x).mp (h x (List.mem_of_getElem? hk)))

/-- One cell, and then no coverage. -/
def coverageLost : List CellSample :=
  [onCells [lteCell 7], onCells []]
where
  onCells (cells : List CellInfo) : CellSample :=
    { input :=
        { android := steady (lteMoment 7), world := {}, sessionId := "1700000000"
          report := { locationData := some origin }, prevNrStatus := "", prevMCid := "7"
          prevAccessNetworkTech := networkTypeLte, accessNetworkTech := networkTypeLte }
      cells
      nr_listed := fun _ _ => (Int.le_add_one le_rfl : versionCodeQ ≤ versionCodeR) }

theorem tower_count_fails :
    (sessionOf "1700000000" (coverageLost.take 1)).nTowers = 1 ∧
    (sessionOf "1700000000" coverageLost).nTowers = 2 ∧
    ¬ CountsTowers "1700000000" coverageLost := by
  have hbefore : (sessionOf "1700000000" (coverageLost.take 1)).nTowers = 1 := by
    rw [(towers_sessionOf _ _).2]
    decide +kernel
  have hafter : (sessionOf "1700000000" coverageLost).nTowers = 2 := by
    rw [(towers_sessionOf _ _).2]
    decide +kernel
  refine ⟨hbefore, hafter, ?_⟩
  intro h
  have hsame := h.unchanged 1 _ rfl (by decide)
  rw [hbefore] at hsame
  change (sessionOf "1700000000" coverageLost).nTowers = 1 at hsame
  rw [hafter] at hsame
  exact absurd hsame (by decide)

end MmWaveTracker
