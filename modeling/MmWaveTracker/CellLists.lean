import MmWaveTracker.Report
import MmWaveTracker.JavaText

/-! The per-cell texts of a report, read back: `getCellinfoData` with all the fields that it
fills on the way, which keep what an earlier cell or an earlier call has left in them. -/
namespace MmWaveTracker

open JavaText

/-- The fields of `Report` that `getCellinfoData` assigns. -/
structure CellFields where
  data : CellData := {}
  lte_ci : Option String := none
  lte_dbm : Option String := none
  lte_level : Option String := none
  lte_rsrq : Option String := none
  lte_rssi : Option String := none
  lte_rssnr : Option String := none
  lte_pci : Option String := none
  lte_tac : Option String := none
  lte_mccstring : Option String := none
  lte_mncstring : Option String := none
  lte_AsuLevel : Option String := none
  lte_earfcn : Option String := none
  lte_operater : Option String := none
  nr_dbm : Option String := none
  nr_level : Option String := none
  nr_sssinr : Option String := none
  nr_ssrsrq : Option String := none
  nr_Asulevel : Option String := none
  nr_csirsrp : Option String := none
  nr_csirsrq : Option String := none
  nr_csisinr : Option String := none
  nr_ci : Option String := none
  nr_arfcn : Option String := none
  nr_pci : Option String := none
  nr_tac : Option String := none

/-- The joiners and builders of one call. -/
structure CellBuilders where
  allLte_Cells : List String := []
  allNr_Cells : List String := []
  allLte_CellIdentities : List String := []
  allNr_CellsIdentities : List String := []
  ltePCIs : String := ""
  lteCIs : String := ""
  lteBwds : String := ""
  lteSignal : String := ""
  nrPCIs : String := ""
  nrCIs : String := ""
  nrSignal : String := ""

def readLte (sdkInt : ℤ) (cell : CellInfoLte) (r : CellFields) : CellFields :=
  { r with
    data := { r.data with
      lte_bwd := some (valueOf cell.bandwidth)
      lte_rsrp := some (valueOf cell.rsrp) }
    lte_dbm := some (valueOf cell.dbm)
    lte_AsuLevel := some (valueOf cell.asuLevel)
    lte_level := some (valueOf cell.level)
    lte_rsrq := some (valueOf cell.rsrq)
    lte_rssi := if versionCodeQ ≤ sdkInt then some (valueOf cell.rssi) else r.lte_rssi
    lte_rssnr := some (valueOf cell.rssnr)
    lte_pci := some (valueOf cell.pci)
    lte_tac := some (valueOf cell.tac)
    lte_ci := some (valueOf cell.ci)
    lte_mccstring := cell.mccString
    lte_mncstring := cell.mncString
    lte_earfcn := some (valueOf cell.earfcn)
    lte_operater := some (orNull cell.mobileNetworkOperator) }

def appendLte (text : String) (r : CellFields) (b : CellBuilders) : CellBuilders :=
  { b with
    allLte_Cells := b.allLte_Cells ++ [String.intercalate csvDelimieter
      [text, orNull r.data.lte_rsrp, orNull r.lte_rsrq, orNull r.lte_rssi, orNull r.lte_rssnr,
        orNull r.lte_level, orNull r.lte_AsuLevel, orNull r.lte_dbm]]
    allLte_CellIdentities := b.allLte_CellIdentities ++ [String.intercalate csvDelimieter
      [orNull r.lte_ci, orNull r.lte_pci, orNull r.data.lte_bwd, orNull r.lte_tac,
        orNull r.lte_earfcn, orNull r.lte_operater, orNull r.lte_mccstring, orNull r.lte_mncstring]]
    ltePCIs := b.ltePCIs ++ orNull r.lte_pci ++ ";"
    lteBwds := b.lteBwds ++ orNull r.data.lte_bwd ++ ";"
    lteCIs := b.lteCIs ++ orNull r.lte_ci ++ ";"
    lteSignal := b.lteSignal ++ orNull r.data.lte_rsrp ++ "," ++ orNull r.lte_rsrq ++ "," ++
      orNull r.lte_rssi ++ "," ++ orNull r.lte_rssnr ++ ";" }

def readNr (cell : CellInfoNr) (r : CellFields) : CellFields :=
  { r with
    data := { r.data with nr_ssrsrp := some (valueOf cell.ssRsrp) }
    nr_dbm := some (valueOf cell.dbm)
    nr_level := some (valueOf cell.level)
    -- this getter and that of the channel number are not the ones of the field
    nr_Asulevel := some (valueOf cell.level)
    nr_csirsrp := some (valueOf cell.csiRsrp)
    nr_csirsrq := some (valueOf cell.csiRsrq)
    nr_csisinr := some (valueOf cell.csiSinr)
    nr_ssrsrq := some (valueOf cell.ssRsrq)
    nr_sssinr := some (valueOf cell.ssSinr)
    nr_ci := some (valueOf cell.nci)
    nr_arfcn := some (valueOf cell.nci)
    nr_pci := some (valueOf cell.pci)
    nr_tac := some (valueOf cell.tac) }

def appendNr (text : String) (r : CellFields) (b : CellBuilders) : CellBuilders :=
  { b with
    allNr_Cells := b.allNr_Cells ++ [String.intercalate csvDelimieter
      [text, orNull r.data.nr_ssrsrp, orNull r.nr_ssrsrq, orNull r.nr_sssinr, orNull r.nr_csirsrp,
        orNull r.nr_csirsrq, orNull r.nr_csisinr, orNull r.nr_level, orNull r.nr_Asulevel,
          orNull r.nr_dbm]]
    allNr_CellsIdentities := b.allNr_CellsIdentities ++ [String.intercalate csvDelimieter
      [orNull r.nr_ci, orNull r.nr_pci, orNull r.nr_tac, orNull r.nr_arfcn]]
    nrPCIs := b.nrPCIs ++ orNull r.nr_pci ++ ";"
    nrCIs := b.nrCIs ++ orNull r.nr_ci ++ ";"
    nrSignal := b.nrSignal ++ orNull r.data.nr_ssrsrp ++ "," ++ orNull r.nr_ssrsrq ++ "," ++
      orNull r.nr_sssinr ++ "," ++ orNull r.nr_csirsrp ++ "," ++ orNull r.nr_csirsrq ++ "," ++
        orNull r.nr_csisinr ++ ";" }

/-- The body of the loop. -/
def visitCell (sdkInt : ℤ) (s : CellFields × CellBuilders) : CellInfo → CellFields × CellBuilders
  | .lte cell =>
    let r := readLte sdkInt cell s.1
    (r, appendLte cell.text r s.2)
  | .nr cell =>
    if versionCodeQ ≤ sdkInt then
      let r := readNr cell s.1
      (r, appendNr cell.text r s.2)
    else s
  | .other _ => s

def storeLists (r : CellFields) (b : CellBuilders) : CellFields :=
  { r with data := { r.data with
      nr_CIs := b.nrCIs
      nr_PCIs := b.nrPCIs
      lte_CIs := b.lteCIs
      nr_Signal := b.nrSignal
      lte_PCIs := b.ltePCIs
      lte_Bwds := b.lteBwds
      lte_Signal := b.lteSignal
      allLteCells := String.intercalate "===" b.allLte_Cells
      allNrCells := String.intercalate "===" b.allNr_Cells
      allLteCellIdentities := String.intercalate "===" b.allLte_CellIdentities
      allNrCellsIdentities := String.intercalate "===" b.allNr_CellsIdentities } }

/-- `getCellinfoData` of a report whose fields are `r`. -/
def CellFields.getCellinfoData (sdkInt : ℤ) (cellInfos : List CellInfo) (r : CellFields) :
    CellFields :=
  let s := cellInfos.foldl (visitCell sdkInt) (r, {})
  storeLists s.1 s.2

/-! The lists as a reader takes them apart. -/

def lteCells (cells : List CellInfo) : List CellInfoLte :=
  cells.filterMap fun info => match info with
    | .lte cell => some cell
    | _ => none

def nrCells (cells : List CellInfo) : List CellInfoNr :=
  cells.filterMap fun info => match info with
    | .nr cell => some cell
    | _ => none

/-- The entries of a list, if each of them ends with a semicolon. -/
def entries (text : String) : Option (List (List Char)) :=
  let parts := text.toList.splitOn ';'
  if parts.getLast? = some [] then some parts.dropLast else none

def decodeList (text : String) : Option (List ℤ) :=
  (entries text).bind fun parts => parts.mapM parseDecimal

/-- The numbers of an entry, which are separated by commas. -/
def decodeGroup (group : List Char) : Option (List ℤ) := (group.splitOn ',').mapM parseDecimal

def decodeSignals (text : String) : Option (List (List ℤ)) :=
  (entries text).bind fun parts => parts.mapM decodeGroup

/-- Every list has the values of the cells of its kind, in order. -/
structure ListsDecode (data : CellData) (cells : List CellInfo) : Prop where
  lte_PCIs : decodeList data.lte_PCIs = some ((lteCells cells).map (·.pci))
  lte_CIs : decodeList data.lte_CIs = some ((lteCells cells).map (·.ci))
  lte_Bwds : decodeList data.lte_Bwds = some ((lteCells cells).map (·.bandwidth))
  lte_Signal : decodeSignals data.lte_Signal = some ((lteCells cells).map fun c =>
    [c.rsrp, c.rsrq, c.rssi, c.rssnr])
  nr_PCIs : decodeList data.nr_PCIs = some ((nrCells cells).map (·.pci))
  nr_CIs : decodeList data.nr_CIs = some ((nrCells cells).map (·.nci))
  nr_Signal : decodeSignals data.nr_Signal =
    some ((nrCells cells).map fun c => [c.ssRsrp, c.ssRsrq, c.ssSinr, c.csiRsrp, c.csiRsrq,
      c.csiSinr])

/-! The texts of a fresh report. -/

/-- The accumulator of `Report` for some fields and builders. -/
def accOf (r : CellFields) (b : CellBuilders) : CellAcc where
  data := { r.data with
    nr_CIs := b.nrCIs
    nr_PCIs := b.nrPCIs
    nr_Signal := b.nrSignal
    lte_CIs := b.lteCIs
    lte_PCIs := b.ltePCIs
    lte_Bwds := b.lteBwds
    lte_Signal := b.lteSignal
    allLteCells := ""
    allNrCells := ""
    allLteCellIdentities := ""
    allNrCellsIdentities := "" }
  lte_rssi := r.lte_rssi
  allLte_Cells := b.allLte_Cells
  allNr_Cells := b.allNr_Cells
  allLte_CellIdentities := b.allLte_CellIdentities
  allNr_CellsIdentities := b.allNr_CellsIdentities

theorem accOf_visitCell (sdkInt : ℤ) (s : CellFields × CellBuilders) (info : CellInfo) :
    accOf (visitCell sdkInt s info).1 (visitCell sdkInt s info).2 =
      addCell sdkInt (accOf s.1 s.2) info := by
  cases info with
  | lte cell =>
    have hsignal (rssi : Option String) : s.2.lteSignal ++ valueOf cell.rsrp ++ "," ++
        valueOf cell.rsrq ++ "," ++ orNull rssi ++ "," ++ valueOf cell.rssnr ++ ";" =
          s.2.lteSignal ++ (valueOf cell.rsrp ++ "," ++ valueOf cell.rsrq ++
        "," ++ orNull rssi ++ "," ++ valueOf cell.rssnr ++ ";") := by
      simp only [String.append_assoc]
    simp only [visitCell, addCell, addLteCell, accOf, readLte, appendLte]
    rw [← hsignal]
    rfl
  | nr cell =>
    have hsignal : s.2.nrSignal ++ valueOf cell.ssRsrp ++ "," ++ valueOf cell.ssRsrq ++ "," ++
        valueOf cell.ssSinr ++ "," ++ valueOf cell.csiRsrp ++ "," ++ valueOf cell.csiRsrq ++ "," ++
          valueOf cell.csiSinr ++ ";" = s.2.nrSignal ++
        (valueOf cell.ssRsrp ++ "," ++ valueOf cell.ssRsrq ++ "," ++ valueOf cell.ssSinr ++ "," ++
          valueOf cell.csiRsrp ++
        "," ++ valueOf cell.csiRsrq ++ "," ++ valueOf cell.csiSinr ++ ";") := by
      simp only [String.append_assoc]
    by_cases hQ : versionCodeQ ≤ sdkInt
    · simp only [visitCell, addCell, if_pos hQ, addNrCell, accOf, readNr, appendNr]
      rw [← hsignal]
      rfl
    · simp only [visitCell, addCell, if_neg hQ]
  | other text => rfl

theorem accOf_foldl (sdkInt : ℤ) (cells : List CellInfo) (s : CellFields × CellBuilders) :
    accOf (cells.foldl (visitCell sdkInt) s).1 (cells.foldl (visitCell sdkInt) s).2 =
      cells.foldl (addCell sdkInt) (accOf s.1 s.2) := by
  induction cells generalizing s with
  | nil => rfl
  | cons info cells ih => rw [List.foldl_cons, List.foldl_cons, ih, accOf_visitCell]

/-- A sample calls it once, on a report that it has just made. -/
theorem getCellinfoData_fresh (sdkInt : ℤ) (cells : List CellInfo) :
    (CellFields.getCellinfoData sdkInt cells {}).data = getCellinfoData sdkInt cells := by
  have h := accOf_foldl sdkInt cells ({}, {})
  have hempty : accOf {} {} = {} := rfl
  rw [hempty] at h
  unfold getCellinfoData
  rw [← h]
  rfl

/-! What a call puts together. -/

/-- Entries that each end with a semicolon. -/
def terminated (xs : List String) : String := String.join (xs.map (· ++ ";"))

theorem terminated_cons (x : String) (xs : List String) :
    terminated (x :: xs) = x ++ (";" ++ terminated xs) := by
  rw [terminated, List.map_cons, String.join_cons, String.append_assoc]
  rfl

def lteSignalEntry (c : CellInfoLte) : String :=
  String.intercalate "," ([c.rsrp, c.rsrq, c.rssi, c.rssnr].map valueOf)

def nrSignalEntry (c : CellInfoNr) : String :=
  String.intercalate "," ([c.ssRsrp, c.ssRsrq, c.ssSinr, c.csiRsrp, c.csiRsrq,
    c.csiSinr].map valueOf)

/-- The detail group of an NR cell, and the one of its identity, as they are put together. -/
def nrGroupAdded (c : CellInfoNr) : String :=
  String.intercalate csvDelimieter (c.text ::
    [c.ssRsrp, c.ssRsrq, c.ssSinr, c.csiRsrp, c.csiRsrq, c.csiSinr, c.level, c.level,
      c.dbm].map valueOf)

def nrIdentityAdded (c : CellInfoNr) : String :=
  String.intercalate csvDelimieter ([c.nci, c.pci, c.tac, c.nci].map valueOf)

/-- What the builders have of the lists and of the NR groups after some cells. -/
structure Built (b : CellBuilders) (cells : List CellInfo) (b' : CellBuilders) : Prop where
  ltePCIs : b'.ltePCIs = b.ltePCIs ++ terminated ((lteCells cells).map fun c => valueOf c.pci)
  lteCIs : b'.lteCIs = b.lteCIs ++ terminated ((lteCells cells).map fun c => valueOf c.ci)
  lteBwds : b'.lteBwds = b.lteBwds ++ terminated ((lteCells cells).map fun c => valueOf c.bandwidth)
  lteSignal : b'.lteSignal = b.lteSignal ++ terminated ((lteCells cells).map lteSignalEntry)
  nrPCIs : b'.nrPCIs = b.nrPCIs ++ terminated ((nrCells cells).map fun c => valueOf c.pci)
  nrCIs : b'.nrCIs = b.nrCIs ++ terminated ((nrCells cells).map fun c => valueOf c.nci)
  nrSignal : b'.nrSignal = b.nrSignal ++ terminated ((nrCells cells).map nrSignalEntry)
  allNr_Cells : b'.allNr_Cells = b.allNr_Cells ++ (nrCells cells).map nrGroupAdded
  allNr_CellsIdentities : b'.allNr_CellsIdentities = b.allNr_CellsIdentities ++
    (nrCells cells).map nrIdentityAdded

theorem append_entry (b x y : String) : b ++ x ++ ";" ++ y = b ++ (x ++ (";" ++ y)) := by
  rw [String.append_assoc, String.append_assoc]

/-- On Q or later every field that a cell adds was read from that cell. -/
theorem built_foldl (sdkInt : ℤ) (hQ : versionCodeQ ≤ sdkInt) (cells : List CellInfo)
    (r : CellFields) (b : CellBuilders) :
    Built b cells (cells.foldl (visitCell sdkInt) (r, b)).2 := by
  induction cells generalizing r b with
  | nil =>
    constructor
    all_goals first | exact String.append_empty.symm | exact (List.append_nil _).symm
  | cons info cells ih =>
    rw [List.foldl_cons]
    cases info with
    | other text =>
      have hrest := ih r b
      exact ⟨hrest.ltePCIs, hrest.lteCIs, hrest.lteBwds, hrest.lteSignal, hrest.nrPCIs, hrest.nrCIs,
        hrest.nrSignal, hrest.allNr_Cells, hrest.allNr_CellsIdentities⟩
    | lte cell =>
      have hrest := ih (readLte sdkInt cell r) (appendLte cell.text (readLte sdkInt cell r) b)
      have hlte : lteCells (.lte cell :: cells) = cell :: lteCells cells := rfl
      have hsignal : b.lteSignal ++ valueOf cell.rsrp ++ "," ++ valueOf cell.rsrq ++ "," ++
          orNull (if versionCodeQ ≤ sdkInt then some (valueOf cell.rssi) else r.lte_rssi) ++ "," ++
          valueOf cell.rssnr ++ ";" = b.lteSignal ++ lteSignalEntry cell ++ ";" := by
        rw [if_pos hQ, lteSignalEntry]
        simp only [List.map_cons, List.map_nil, String.intercalate_cons_cons,
          String.intercalate_singleton, String.append_assoc]
        rfl
      refine ⟨?_, ?_, ?_, ?_, hrest.nrPCIs, hrest.nrCIs, hrest.nrSignal, hrest.allNr_Cells,
        hrest.allNr_CellsIdentities⟩
      · rw [hlte, List.map_cons, terminated_cons, ← append_entry]
        exact hrest.ltePCIs
      · rw [hlte, List.map_cons, terminated_cons, ← append_entry]
        exact hrest.lteCIs
      · rw [hlte, List.map_cons, terminated_cons, ← append_entry]
        exact hrest.lteBwds
      · rw [hlte, List.map_cons, terminated_cons, ← append_entry, ← hsignal]
        exact hrest.lteSignal
    | nr cell =>
      have hvisit : visitCell sdkInt (r, b) (.nr cell) = (readNr cell r,
        appendNr cell.text (readNr cell r) b) := if_pos hQ
      rw [hvisit]
      have hrest := ih (readNr cell r) (appendNr cell.text (readNr cell r) b)
      have hnr : nrCells (.nr cell :: cells) = cell :: nrCells cells := rfl
      have hsignal : b.nrSignal ++ valueOf cell.ssRsrp ++ "," ++ valueOf cell.ssRsrq ++ "," ++
          valueOf cell.ssSinr ++ "," ++ valueOf cell.csiRsrp ++ "," ++ valueOf cell.csiRsrq ++
            "," ++ valueOf cell.csiSinr ++ ";" =
          b.nrSignal ++ nrSignalEntry cell ++ ";" := by
        rw [nrSignalEntry]
        simp only [List.map_cons, List.map_nil, String.intercalate_cons_cons,
          String.intercalate_singleton, String.append_assoc]
      refine ⟨hrest.ltePCIs, hrest.lteCIs, hrest.lteBwds, hrest.lteSignal, ?_, ?_, ?_, ?_, ?_⟩
      · rw [hnr, List.map_cons, terminated_cons, ← append_entry]
        exact hrest.nrPCIs
      · rw [hnr, List.map_cons, terminated_cons, ← append_entry]
        exact hrest.nrCIs
      · rw [hnr, List.map_cons, terminated_cons, ← append_entry, ← hsignal]
        exact hrest.nrSignal
      · rw [hnr, List.map_cons, ← List.singleton_append, ← List.append_assoc]
        exact hrest.allNr_Cells
      · rw [hnr, List.map_cons, ← List.singleton_append, ← List.append_assoc]
        exact hrest.allNr_CellsIdentities

/-! Reading. -/

theorem splitOn_terminated (xs : List String) (h : ∀ x ∈ xs, ';' ∉ x.toList) :
    (terminated xs).toList.splitOn ';' = xs.map String.toList ++ [[]] := by
  induction xs with
  | nil => rfl
  | cons x xs ih =>
    rw [terminated_cons, String.toList_append, String.toList_append]
    change (x.toList ++ ';' :: (terminated xs).toList).splitOn ';' = _
    rw [List.splitOn_append_cons_self_of_not_mem (h x List.mem_cons_self), ih fun y hy =>
      h y (List.mem_cons_of_mem x hy)]
    rfl

theorem entries_terminated (xs : List String) (h : ∀ x ∈ xs, ';' ∉ x.toList) :
    entries (terminated xs) = some (xs.map String.toList) := by
  have hlast : (xs.map String.toList ++ [[]]).getLast? = some [] := List.getLast?_concat
  simp only [entries, splitOn_terminated xs h, hlast, if_true, List.dropLast_concat]

theorem mapM_map_some {α β γ : Type} (f : β → Option γ) (g : α → β) (v : α → γ) (xs : List α)
    (h : ∀ x, f (g x) = some (v x)) : (xs.map g).mapM f = some (xs.map v) := by
  induction xs with
  | nil => rfl
  | cons x xs ih =>
    rw [List.map_cons, List.mapM_cons, h x, ih]
    rfl

theorem decodeList_terminated {α : Type} (xs : List α) (v : α → ℤ) :
    decodeList (terminated (xs.map fun x => valueOf (v x))) = some (xs.map v) := by
  have hplain : ∀ x ∈ xs.map fun x => valueOf (v x), ';' ∉ x.toList := by
    intro x hx
    obtain ⟨a, -, rfl⟩ := List.mem_map.mp hx
    exact not_mem_valueOf _ ';' (by decide) (by decide)
  rw [decodeList, entries_terminated _ hplain, Option.bind_some, List.map_map]
  exact mapM_map_some parseDecimal _ v xs fun x => parseDecimal_valueOf (v x)

theorem toList_intercalate_comma (xs : List String) :
    (String.intercalate "," xs).toList = [','].intercalate (xs.map String.toList) :=
      String.toList_intercalate

/-- Numbers that are joined by commas are read back. -/
theorem decodeGroup_intercalate (ns : List ℤ) (hne : ns ≠ []) :
    decodeGroup (String.intercalate "," (ns.map valueOf)).toList = some ns := by
  have hplain : ∀ x ∈ (ns.map valueOf).map String.toList, ',' ∉ x := by
    intro x hx
    rw [List.map_map] at hx
    obtain ⟨n, -, rfl⟩ := List.mem_map.mp hx
    exact not_mem_valueOf n ',' (by decide) (by decide)
  have hnonempty : (ns.map valueOf).map String.toList ≠ [] := by
    rw [List.map_map]
    exact mt List.map_eq_nil_iff.mp hne
  rw [decodeGroup, toList_intercalate_comma, List.splitOn_intercalate ',' hplain hnonempty,
    List.map_map]
  have hread := mapM_map_some parseDecimal (String.toList ∘ valueOf) id ns fun n =>
    parseDecimal_valueOf n
  rw [hread, List.map_id]

theorem not_mem_intercalate (ns : List ℤ) (c : Char) (hc : c ≠ '-' ∧ c.isDigit = false ∧ c ≠ ',') :
    c ∉ (String.intercalate "," (ns.map valueOf)).toList := by
  induction ns with
  | nil => exact List.not_mem_nil
  | cons n ns ih =>
    have hn := not_mem_valueOf n c hc.1 hc.2.1
    cases ns with
    | nil =>
      rw [List.map_singleton, String.intercalate_singleton]
      exact hn
    | cons m ns =>
      rw [List.map_cons, List.map_cons, String.intercalate_cons_cons, String.toList_append,
        String.toList_append]
      rw [List.map_cons] at ih
      intro h
      rcases List.mem_append.mp h with h | h
      · rcases List.mem_append.mp h with h | h
        · exact hn h
        · exact hc.2.2 (List.mem_singleton.mp h)
      · exact ih h

theorem decodeSignals_terminated {α : Type} (xs : List α) (v : α → List ℤ) (hne : ∀ x, v x ≠ []) :
    decodeSignals (terminated (xs.map fun x => String.intercalate "," ((v x).map valueOf))) =
      some (xs.map v) := by
  have hplain : ∀ x ∈ xs.map fun x => String.intercalate "," ((v x).map valueOf),
      ';' ∉ x.toList := by
    intro x hx
    obtain ⟨a, -, rfl⟩ := List.mem_map.mp hx
    exact not_mem_intercalate _ ';' (by decide)
  rw [decodeSignals, entries_terminated _ hplain, Option.bind_some, List.map_map]
  exact mapM_map_some decodeGroup _ v xs fun x => decodeGroup_intercalate (v x) (hne x)

/-- On Q or later the seven lists decode to the cells of the call, whatever the fields held
before it. -/
theorem cell_lists_decode (sdkInt : ℤ) (hQ : versionCodeQ ≤ sdkInt) (r : CellFields)
    (cells : List CellInfo) : ListsDecode (r.getCellinfoData sdkInt cells).data cells := by
  have h := built_foldl sdkInt hQ cells r {}
  constructor
  · change decodeList (cells.foldl (visitCell sdkInt) (r, {})).2.ltePCIs = _
    rw [h.ltePCIs]
    exact decodeList_terminated (lteCells cells) (·.pci)
  · change decodeList (cells.foldl (visitCell sdkInt) (r, {})).2.lteCIs = _
    rw [h.lteCIs]
    exact decodeList_terminated (lteCells cells) (·.ci)
  · change decodeList (cells.foldl (visitCell sdkInt) (r, {})).2.lteBwds = _
    rw [h.lteBwds]
    exact decodeList_terminated (lteCells cells) (·.bandwidth)
  · change decodeSignals (cells.foldl (visitCell sdkInt) (r, {})).2.lteSignal = _
    rw [h.lteSignal]
    exact decodeSignals_terminated (lteCells cells)
      (fun c => [c.rsrp, c.rsrq, c.rssi, c.rssnr]) fun _ => List.cons_ne_nil _ _
  · change decodeList (cells.foldl (visitCell sdkInt) (r, {})).2.nrPCIs = _
    rw [h.nrPCIs]
    exact decodeList_terminated (nrCells cells) (·.pci)
  · change decodeList (cells.foldl (visitCell sdkInt) (r, {})).2.nrCIs = _
    rw [h.nrCIs]
    exact decodeList_terminated (nrCells cells) (·.nci)
  · change decodeSignals (cells.foldl (visitCell sdkInt) (r, {})).2.nrSignal = _
    rw [h.nrSignal]
    exact decodeSignals_terminated (nrCells cells)
      (fun c => [c.ssRsrp, c.ssRsrq, c.ssSinr, c.csiRsrp, c.csiRsrq, c.csiSinr]) fun _ =>
        List.cons_ne_nil _ _

/-- Two calls on one report: the second has nothing left of the first. -/
theorem cell_lists_decode_again : ListsDecode
    ((CellFields.getCellinfoData versionCodeR [lteCell 7, lteCell 8] {}).getCellinfoData
      versionCodeR [.other "CellInfoWcdma", lteCell 9]).data [.other "CellInfoWcdma", lteCell 9] :=
  cell_lists_decode versionCodeR (by decide) _ _

/-! The detail groups of the NR cells. -/

def nrIdentity (c : CellInfoNr) : List ℤ := [c.nci, c.pci, c.tac, c.nrarfcn]

def nrValues (c : CellInfoNr) : List ℤ :=
  [c.ssRsrp, c.ssRsrq, c.ssSinr, c.csiRsrp, c.csiRsrq, c.csiSinr, c.level, c.asuLevel, c.dbm]

def groupSeparator : List Char := "===".toList

def splitGroups (text : String) : List (List Char) := splitKey groupSeparator text.toList

/-- The last nine values of a group; the text of the cell in front of them may have commas, too. -/
def numericTail (group : List Char) : Option (List ℤ) :=
  let values := group.splitOn ','
  (values.drop (values.length-9)).mapM parseDecimal

/-- The text of a cell, and its nine values. -/
def nrGroup (c : CellInfoNr) : String :=
  String.intercalate csvDelimieter (c.text :: (nrValues c).map valueOf)

/-- Every NR cell is described by its groups. Where no text of a cell has the separator in it, the
detail groups are also found by splitting. -/
structure NrGroupsDescribe (data : CellData) (cells : List CellInfo) : Prop where
  identities : ∀ (k : ℕ) c, (nrCells cells)[k]? = some c →
    ∃ group, (splitGroups data.allNrCellsIdentities)[k]? = some group ∧
      decodeGroup group = some (nrIdentity c)
  groups : data.allNrCells = String.intercalate "===" ((nrCells cells).map nrGroup)
  tails : (∀ c ∈ nrCells cells, ¬groupSeparator <:+: c.text.toList) →
    ∀ (k : ℕ) c, (nrCells cells)[k]? = some c → ∃ group, (splitGroups data.allNrCells)[k]? =
      some group ∧ numericTail group = some (nrValues c)

theorem toList_intercalate_groups (groups : List String) :
    (String.intercalate "===" groups).toList = groupSeparator.intercalate
    (groups.map String.toList) :=
  String.toList_intercalate

/-- Numbers end with a digit, and have nothing of the separator in them. -/
theorem intercalate_snoc (text : String) (ns : List ℤ) (hne : ns ≠ []) :
    ∃ front c, (String.intercalate "," (text :: ns.map valueOf)).toList = front ++ [c] ∧
      c ∉ groupSeparator := by
  induction ns generalizing text with
  | nil => exact absurd rfl hne
  | cons n ns ih =>
    rw [List.map_cons, String.intercalate_cons_cons]
    cases ns with
    | nil =>
      obtain ⟨front, c, hc⟩ := (List.eq_nil_or_concat' (valueOf n).toList).resolve_left (by
        intro hnil
        have hread := parseDecimal_valueOf n
        rw [hnil] at hread
        cases hread)
      have hmem : c ∈ (valueOf n).toList :=
        hc ▸ List.mem_append_right front (List.mem_singleton_self c)
      refine ⟨(text ++ ",").toList ++ front, c, ?_, ?_⟩
      · rw [List.map_nil, String.intercalate_singleton, String.toList_append, hc, List.append_assoc]
      · intro hsep
        have heq : c = '=' := by simpa [groupSeparator] using hsep
        rw [heq] at hmem
        exact not_mem_valueOf n '=' (by decide) (by decide) hmem
    | cons m ns =>
      obtain ⟨front, c, hfront, hc⟩ := ih (valueOf n) (List.cons_ne_nil m ns)
      refine ⟨(text ++ ",").toList ++ front, c, ?_, hc⟩
      rw [String.toList_append, hfront, List.append_assoc]

theorem not_infix_numbers (ns : List ℤ) :
    ¬groupSeparator <:+: (String.intercalate "," (ns.map valueOf)).toList := by
  intro h
  have hmem : '=' ∈ groupSeparator := by decide
  exact not_mem_intercalate ns '=' (by decide) (h.subset hmem)

/-- The groups are found by splitting, if they can be told from the separator. -/
theorem splitGroups_map (xs : List CellInfoNr) (group : CellInfoNr → String)
    (hgroup : ∀ c ∈ xs, ¬groupSeparator <:+: (group c).toList ∧
      ∃ front last, (group c).toList = front ++ [last] ∧ last ∉ groupSeparator) (k : ℕ)
        (c : CellInfoNr) (hk : xs[k]? = some c) :
    (splitGroups (String.intercalate "===" (xs.map group)))[k]? = some (group c).toList := by
  have hne : (xs.map group).map String.toList ≠ [] := by
    intro hnil
    have hempty : xs = [] := List.map_eq_nil_iff.mp (List.map_eq_nil_iff.mp hnil)
    rw [hempty] at hk
    cases hk
  rw [splitGroups, toList_intercalate_groups, splitKey_intercalate _ (by decide) _ hne]
  · rw [List.getElem?_map, List.getElem?_map, hk]
    rfl
  · intro part hpart
    obtain ⟨text, htext, rfl⟩ := List.mem_map.mp hpart
    obtain ⟨c', hc', rfl⟩ := List.mem_map.mp htext
    exact hgroup c' hc'

theorem splitGroups_identities (xs : List CellInfoNr) (v : CellInfoNr → List ℤ)
    (hv : ∀ c, 2 ≤ (v c).length) (k : ℕ) (c : CellInfoNr) (hk : xs[k]? = some c) :
    (splitGroups (String.intercalate "===" (xs.map fun c =>
      String.intercalate "," ((v c).map valueOf))))[k]? =
      some (String.intercalate "," ((v c).map valueOf)).toList := by
  apply splitGroups_map xs (fun c => String.intercalate "," ((v c).map valueOf)) _ k c hk
  intro c' _
  refine ⟨not_infix_numbers _, ?_⟩
  have hlen := hv c'
  cases hns : v c' with
  | nil =>
    rw [hns] at hlen
    cases hlen
  | cons n ns =>
    rw [List.map_cons]
    apply intercalate_snoc
    rintro rfl
    rw [hns, List.length_singleton] at hlen
    omega

theorem toList_nrGroup (c : CellInfoNr) :
    (nrGroup c).toList = c.text.toList ++
      ',' :: (String.intercalate "," ((nrValues c).map valueOf)).toList := by
  have hcons : nrGroup c = c.text ++ "," ++ String.intercalate "," ((nrValues c).map valueOf) :=
    String.intercalate_cons_of_ne_nil (List.cons_ne_nil _ _)
  rw [hcons, String.toList_append, String.toList_append, List.append_assoc]
  rfl

/-- A detail group has no separator in it if the text of its cell has none. -/
theorem not_infix_nrGroup (c : CellInfoNr) (h : ¬groupSeparator <:+: c.text.toList) :
    ¬groupSeparator <:+: (nrGroup c).toList := by
  rw [toList_nrGroup, infix_append_cons_iff groupSeparator _ _ ',' (by decide)]
  rintro (htext | hnumbers)
  · exact h htext
  · exact not_infix_numbers _ hnumbers

theorem numericTail_nrGroup (c : CellInfoNr) :
    numericTail (nrGroup c).toList = some (nrValues c) := by
  have hplain : ∀ x ∈ ((nrValues c).map valueOf).map String.toList, ',' ∉ x := by
    intro x hx
    rw [List.map_map] at hx
    obtain ⟨n, -, rfl⟩ := List.mem_map.mp hx
    exact not_mem_valueOf n ',' (by decide) (by decide)
  have hsplit : (nrGroup c).toList.splitOn ',' = c.text.toList.splitOn ',' ++
      (nrValues c).map (String.toList ∘ valueOf) := by
    rw [toList_nrGroup, List.splitOn_append_cons_self, toList_intercalate_comma,
      List.splitOn_intercalate ',' hplain (List.cons_ne_nil _ _),
      List.map_map]
  have hlen : (c.text.toList.splitOn ',' ++ (nrValues c).map (String.toList ∘ valueOf)).length-9 =
      (c.text.toList.splitOn ',').length := by
    rw [List.length_append, List.length_map]
    exact Nat.add_sub_cancel _ 9
  simp only [numericTail, hsplit, hlen, List.drop_left]
  exact (mapM_map_some parseDecimal (String.toList ∘ valueOf) id (nrValues c) fun n =>
    parseDecimal_valueOf n).trans (congrArg some (List.map_id _))

theorem splitGroups_details (xs : List CellInfoNr)
    (hplain : ∀ c ∈ xs, ¬groupSeparator <:+: c.text.toList) (k : ℕ)
    (c : CellInfoNr) (hk : xs[k]? = some c) :
    (splitGroups (String.intercalate "===" (xs.map nrGroup)))[k]? = some (nrGroup c).toList := by
  apply splitGroups_map xs nrGroup _ k c hk
  intro c' hc'
  exact ⟨not_infix_nrGroup c' (hplain c' hc'),
    intercalate_snoc c'.text (nrValues c') (List.cons_ne_nil _ _)⟩

/-- A number ends at its comma. -/
theorem number_before_comma (a b : ℤ) (x y : List Char)
    (h : (valueOf a).toList ++ ',' :: x = (valueOf b).toList ++ ',' :: y) : a = b ∧ x = y := by
  have htake (n : ℤ) (z : List Char) : ((valueOf n).toList ++ ',' :: z).takeWhile (· ≠ ',') =
      (valueOf n).toList := by
    rw [List.takeWhile_append_of_pos, List.takeWhile_cons_of_neg (by decide), List.append_nil]
    intro c hc
    apply decide_eq_true
    rintro rfl
    exact not_mem_valueOf n ',' (by decide) (by decide) hc
  have hab : a = b := by
    apply valueOf_injective
    rw [← String.toList_inj, ← htake a x, h, htake b y]
  rw [hab] at h
  exact ⟨hab, List.tail_eq_of_cons_eq (List.append_cancel_left h)⟩

theorem nrGroup_append_inj (c : CellInfoNr) (x y : String)
    (h : nrGroupAdded c ++ x = nrGroup c ++ y) : c.asuLevel = c.level ∧ x = y := by
  simp only [nrGroupAdded, nrGroup, nrValues, csvDelimieter, List.map_cons, List.map_nil,
    String.intercalate_cons_cons, String.intercalate_singleton, String.append_assoc,
      String.append_right_inj] at h
  have hl := congrArg String.toList h
  simp only [String.toList_append] at hl
  obtain ⟨hlevel, hrest⟩ := number_before_comma c.level c.asuLevel _ _ hl
  refine ⟨hlevel.symm, ?_⟩
  rw [← String.toList_inj]
  exact List.append_cancel_left hrest

theorem nrGroupAdded_eq (c : CellInfoNr) (h : c.asuLevel = c.level) :
    nrGroupAdded c = nrGroup c := by
  rw [nrGroup, nrValues, h]
  rfl

theorem level_of_groups (xs : List CellInfoNr)
    (h : String.intercalate "===" (xs.map nrGroupAdded) =
      String.intercalate "===" (xs.map nrGroup)) :
    ∀ c ∈ xs, c.asuLevel = c.level := by
  induction xs with
  | nil => exact fun c hc => absurd hc List.not_mem_nil
  | cons c xs ih =>
    have hrest : c.asuLevel = c.level ∧
        String.intercalate "===" (xs.map nrGroupAdded) =
          String.intercalate "===" (xs.map nrGroup) := by
      cases xs with
      | nil =>
        rw [List.map_singleton, List.map_singleton, String.intercalate_singleton,
          String.intercalate_singleton] at h
        have hlevel := nrGroup_append_inj c "" "" (congrArg (· ++ "") h)
        exact ⟨hlevel.1, by rw [List.map_nil, List.map_nil]⟩
      | cons d xs =>
        simp only [List.map_cons, String.intercalate_cons_cons, String.append_assoc] at h
        obtain ⟨hlevel, heq⟩ := nrGroup_append_inj c _ _ h
        exact ⟨hlevel, (String.append_right_inj _).mp heq⟩
    intro c' hc'
    rcases List.mem_cons.mp hc' with rfl | hc'
    · exact hrest.1
    · exact ih hrest.2 c' hc'

section Nr

variable (sdkInt : ℤ) (hQ : versionCodeQ ≤ sdkInt) (r : CellFields) (cells : List CellInfo)
include hQ

theorem allNrCells_getCellinfoData : (r.getCellinfoData sdkInt cells).data.allNrCells =
    String.intercalate "===" ((nrCells cells).map nrGroupAdded) :=
  congrArg (String.intercalate "===") (built_foldl sdkInt hQ cells r {}).allNr_Cells

theorem allNrCellsIdentities_getCellinfoData :
    (r.getCellinfoData sdkInt cells).data.allNrCellsIdentities =
    String.intercalate "===" ((nrCells cells).map nrIdentityAdded) :=
  congrArg (String.intercalate "===") (built_foldl sdkInt hQ cells r {}).allNr_CellsIdentities

/-- The identity group has the cell identity twice. -/
theorem identity_group (k : ℕ) (c : CellInfoNr) (hk : (nrCells cells)[k]? = some c) :
    ∃ group, (splitGroups (r.getCellinfoData sdkInt cells).data.allNrCellsIdentities)[k]? =
      some group ∧ decodeGroup group = some [c.nci, c.pci, c.tac, c.nci] := by
  refine ⟨(String.intercalate "," ([c.nci, c.pci, c.tac, c.nci].map valueOf)).toList, ?_,
    decodeGroup_intercalate _ (List.cons_ne_nil _ _)⟩
  rw [allNrCellsIdentities_getCellinfoData sdkInt hQ]
  exact splitGroups_identities (nrCells cells) (fun c => [c.nci, c.pci, c.tac, c.nci])
    (fun _ => Nat.le_add_left 2 2) k c hk

theorem NrGroupsDescribe.getters
    (h : NrGroupsDescribe (r.getCellinfoData sdkInt cells).data cells) :
    ∀ c ∈ nrCells cells, c.nrarfcn = c.nci ∧ c.asuLevel = c.level := by
  intro c hc
  constructor
  · obtain ⟨k, hk⟩ := List.mem_iff_getElem?.mp hc
    obtain ⟨group, hgroup, hread⟩ := h.identities k c hk
    obtain ⟨group', hgroup', hread'⟩ := identity_group sdkInt hQ r cells k c hk
    obtain rfl := Option.some.inj (hgroup.symm.trans hgroup')
    have heq := Option.some.inj (hread.symm.trans hread')
    simpa [nrIdentity] using heq
  · have hgroups := h.groups
    rw [allNrCells_getCellinfoData sdkInt hQ] at hgroups
    exact level_of_groups (nrCells cells) hgroups c hc

end Nr

/-- The NR groups describe their cells exactly if the two fields that are filled from the getter of
another have the same value there. -/
theorem nr_groups_describe_iff (sdkInt : ℤ) (hQ : versionCodeQ ≤ sdkInt) (r : CellFields)
    (cells : List CellInfo) : NrGroupsDescribe (r.getCellinfoData sdkInt cells).data cells ↔
      ∀ c ∈ nrCells cells, c.nrarfcn = c.nci ∧ c.asuLevel = c.level := by
  constructor
  · exact fun h => h.getters sdkInt hQ r cells
  · intro h
    have hdetails : (nrCells cells).map nrGroupAdded = (nrCells cells).map nrGroup :=
      List.map_congr_left fun c hc => nrGroupAdded_eq c (h c hc).2
    refine ⟨?_, ?_, ?_⟩
    · intro k c hk
      obtain ⟨group, hgroup, hread⟩ := identity_group sdkInt hQ r cells k c hk
      refine ⟨group, hgroup, ?_⟩
      rw [hread, nrIdentity, (h c (List.mem_of_getElem? hk)).1]
    · rw [allNrCells_getCellinfoData sdkInt hQ, hdetails]
    · intro hplain k c hk
      rw [allNrCells_getCellinfoData sdkInt hQ, hdetails]
      exact ⟨_, splitGroups_details (nrCells cells) hplain k c hk, numericTail_nrGroup c⟩

/-- An NR cell with the given level, ASU level and channel number. -/
def nrCell (level asuLevel nrarfcn : ℤ) : CellInfoNr where
  text := "CellInfoNr:\x7b mRegistered=YES \x7d"
  dbm := -85
  level
  asuLevel
  csiRsrp := -90
  csiRsrq := -11
  csiSinr := 10
  ssRsrp := -85
  ssRsrq := -10
  ssSinr := 15
  nci := 123456789
  nrarfcn
  pci := 77
  tac := 4321

theorem nr_groups_describe_equal : NrGroupsDescribe
    (CellFields.getCellinfoData versionCodeR [lteCell 7, .nr (nrCell 3 3 123456789)] {}).data
    [lteCell 7, .nr (nrCell 3 3 123456789)] :=
  (nr_groups_describe_iff versionCodeR (by decide) {} _).mpr (by decide)

theorem nr_groups_describe_fails : ¬NrGroupsDescribe
    (CellFields.getCellinfoData versionCodeR [.nr (nrCell 3 54 640000)] {}).data
    [.nr (nrCell 3 54 640000)] := by
  intro h
  obtain ⟨harfcn, -⟩ := h.getters versionCodeR (by decide) {} _
    (nrCell 3 54 640000) List.mem_cons_self
  exact absurd harfcn (by decide)

end MmWaveTracker
