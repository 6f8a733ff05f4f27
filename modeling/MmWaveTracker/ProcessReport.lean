import MmWaveTracker.Sampler

/-! `SessionSummary.processNetworkReport` on the current session, and the
consistency of the three handoff counters over a whole session. -/
namespace MmWaveTracker

def updateSession (f : SessionSummary → SessionSummary) : Java World Unit :=
  Java.modify fun w => { w with curSession := w.curSession.map f }

/-- `prevLocation.distanceTo(this.curLocation)`; neither location may be null. -/
def addDistance (A : Android) (s : SessionSummary) (r : Report) : Java World Unit := do
  updateSession fun s => { s with curLocation := r.locationData }
  let prevLocation ← Java.nonNull s.prevLocation
  let curLocation ← Java.nonNull r.locationData
  updateSession fun s => { s with
    distanceCoveredInMeters := s.distanceCoveredInMeters + A.distanceTo prevLocation curLocation
    prevLocation := some curLocation }

/-- The last statements ask the device for its current technology again. -/
def queryTechnology (A : Android) : Java World Unit := do
  let isNSA5G ← getIs5GNSA A
  updateSession fun s => { s with isNSA5G }
  let isSA5G ← getIs5GSA A
  updateSession fun s => { s with isSA5G }
  let networkService ← getAccessNetworkTech A
  updateSession fun s => { s with networkService }
  let networkType ← getNetworkType A
  updateSession fun s => { s with networkType := some networkType }

/-- The assignments before the first statement that can fail. -/
def countReport (A : Android) (sessionId : String) (samplingRateInMs : ℤ) (r : Report)
    (s : SessionSummary) : SessionSummary :=
  let s := startSession s sessionId (A.sampleDateFormat r.timeStamp) r
  countTimeIn5G (countHandoffs s r) samplingRateInMs r

def processNetworkReport (A : Android) (sessionId : String) (r : Report) : Java World Unit := do
  let w ← Java.get
  let s ← Java.nonNull w.curSession
  let s := countReport A sessionId w.samplingRateInMs r s
  Java.modify fun w => { w with curSession := some s }
  addDistance A s r
  queryTechnology A

/-- The first report fixes the start, every report the NR status. -/
theorem countReport_fields (A : Android) (sessionId : String) (rate : ℤ) (r : Report)
    (s : SessionSummary) : (countReport A sessionId rate r s).sessionStarted = true ∧
    (countReport A sessionId rate r s).startTime =
      (if s.sessionStarted then s.startTime else some (A.sampleDateFormat r.timeStamp)) ∧
    (countReport A sessionId rate r s).prevLocation =
      (if s.sessionStarted then s.prevLocation else r.locationData) ∧
    (countReport A sessionId rate r s).currentNrStatus = some r.nrStatus := by
  have hcount (s : SessionSummary) : (countTimeIn5G (countHandoffs s r) rate r).sessionStarted =
      s.sessionStarted ∧ (countTimeIn5G (countHandoffs s r) rate r).startTime = s.startTime ∧
      (countTimeIn5G (countHandoffs s r) rate r).prevLocation = s.prevLocation ∧
      (countTimeIn5G (countHandoffs s r) rate r).currentNrStatus = some r.nrStatus := by
    unfold countTimeIn5G
    split <;> exact ⟨rfl, rfl, rfl, rfl⟩
  obtain ⟨h₁, h₂, h₃, h₄⟩ := hcount (startSession s sessionId (A.sampleDateFormat r.timeStamp) r)
  unfold countReport
  rw [h₁, h₂, h₃, h₄]
  unfold startSession
  split_ifs with h
  · exact ⟨h, rfl, rfl, rfl⟩
  · exact ⟨rfl, rfl, rfl, rfl⟩

/-! After the counting, `processNetworkReport` keeps books: locations, distance and technology. -/

def Bookkeeping (f : SessionSummary → SessionSummary) : Prop :=
  ∀ s, f s = { s with
    curLocation := (f s).curLocation
    prevLocation := (f s).prevLocation
    distanceCoveredInMeters := (f s).distanceCoveredInMeters
    isNSA5G := (f s).isNSA5G
    isSA5G := (f s).isSA5G
    networkService := (f s).networkService
    networkType := (f s).networkType }

section Bookkeeping

variable {R : World → World → Prop} [Std.Refl R] [IsTrans World R]

theorem within_addDistance (hupd : ∀ f, Bookkeeping f → Java.Within R (updateSession f))
    (A : Android) (s : SessionSummary) (r : Report) : Java.Within R (addDistance A s r) := by
  refine Java.within_bind (hupd _ fun _ => rfl) fun _ => ?_
  refine Java.within_bind (Java.within_nonNull _) fun _ => ?_
  exact Java.within_bind (Java.within_nonNull _) fun _ => hupd _ fun _ => rfl

omit [Std.Refl R] in
theorem within_queryTechnology (hdev : ∀ w w', DeviceStep w w' → R w w')
    (hupd : ∀ f, Bookkeeping f → Java.Within R (updateSession f)) (A : Android) :
    Java.Within R (queryTechnology A) := by
  have hcall {α : Type} {x : Java World α} (hx : DeviceCall A x) : Java.Within R x :=
    Java.within_mono hx.within hdev
  refine Java.within_bind (hcall deviceCall_getIs5GNSA) fun _ => ?_
  refine Java.within_bind (hupd _ fun _ => rfl) fun _ => ?_
  refine Java.within_bind (hcall deviceCall_getIs5GSA) fun _ => ?_
  refine Java.within_bind (hupd _ fun _ => rfl) fun _ => ?_
  refine Java.within_bind (hcall deviceCall_getAccessNetworkTech) fun _ => ?_
  refine Java.within_bind (hupd _ fun _ => rfl) fun _ => ?_
  exact Java.within_bind (hcall deviceCall_getNetworkType) fun _ => hupd _ fun _ => rfl

theorem within_bookkeeping (hdev : ∀ w w', DeviceStep w w' → R w w')
    (hupd : ∀ f, Bookkeeping f → Java.Within R (updateSession f)) (A : Android)
    (s : SessionSummary) (r : Report) :
    Java.Within R (addDistance A s r >>= fun _ => queryTechnology A) :=
  Java.within_bind (within_addDistance hupd A s r) fun _ => within_queryTechnology hdev hupd A

end Bookkeeping

/-! Besides the summary, processing a report only asks the device. -/

def SessionBlind {γ : Type} (f : World → γ) : Prop :=
  Blind f ∧ ∀ (w : World) (curSession : Option SessionSummary), f { w with curSession } = f w

theorem leaves_processNetworkReport {γ : Type} {f : World → γ} (hf : SessionBlind f) (A : Android)
    (sessionId : String) (r : Report) : Java.Leaves f (processNetworkReport A sessionId r) := by
  refine Java.within_bind Java.within_get fun w => ?_
  refine Java.within_bind (Java.within_nonNull _) fun s => ?_
  refine Java.within_bind (Java.within_modify _ fun w => hf.2 w _) fun _ => ?_
  apply within_bookkeeping
  · exact fun _ _ h => h.blind hf.1
  · exact fun _ _ => Java.within_modify _ fun w => hf.2 w _

/-! What a summary says about towers and handoffs. -/

structure HandoffView where
  towers : Finset String
  nTowers : ℤ
  nHandoffs : ℤ
  nVerticalHandoffs : ℤ
  nHorizontalHandoffs : ℤ
  curHandoffOrientation : ℤ
  deriving DecidableEq

def handoffView (s : SessionSummary) : HandoffView :=
  ⟨s.towers, s.nTowers, s.nHandoffs, s.nVerticalHandoffs, s.nHorizontalHandoffs,
    s.curHandoffOrientation⟩

def sessionView (w : World) : Option HandoffView := w.curSession.map handoffView

/-- A view of the summary that bookkeeping does not change. -/
theorem leaves_bookkeeping {γ : Type} (v : SessionSummary → γ)
    (hv : ∀ f, Bookkeeping f → ∀ s, v (f s) = v s)
    (A : Android) (s : SessionSummary) (r : Report) :
    Java.Leaves (fun w => w.curSession.map v)
      (addDistance A s r >>= fun _ => queryTechnology A) := by
  apply within_bookkeeping
  · exact fun _ _ h => h.blind (f := fun w => w.curSession.map v) fun _ _ _ _ _ _ => rfl
  · intro f hf
    refine Java.within_modify _ fun w => ?_
    change (w.curSession.map f).map v = w.curSession.map v
    rw [Option.map_map]
    exact congrArg (w.curSession.map ·) (funext (hv f hf))

theorem handoffView_startSession (s : SessionSummary) (sessionId startTime : String) (r : Report) :
    handoffView (countHandoffs (startSession s sessionId startTime r) r) =
      handoffView (countHandoffs s r) := by
  unfold startSession
  split <;> rfl

theorem handoffView_countTimeIn5G (s : SessionSummary) (rate : ℤ) (r : Report) :
    handoffView (countTimeIn5G s rate r) = handoffView s := by
  unfold countTimeIn5G
  split <;> rfl

theorem processNetworkReport_null (A : Android) (sessionId : String) (r : Report) (w : World)
    (hs : w.curSession = none) :
    (processNetworkReport A sessionId r).run w = (.error .nullPointer, w) := by
  unfold processNetworkReport
  rw [Java.bind_ok _ _ w w w rfl, hs]
  rfl

theorem processNetworkReport_run (A : Android) (sessionId : String) (r : Report) (w : World)
    (s : SessionSummary) (hs : w.curSession = some s) :
    (processNetworkReport A sessionId r).run w =
      (addDistance A (countReport A sessionId w.samplingRateInMs r s) r >>= fun _ =>
        queryTechnology A).run
          { w with curSession := some (countReport A sessionId w.samplingRateInMs r s) } := by
  unfold processNetworkReport
  rw [Java.bind_ok _ _ w w w rfl, hs]
  rfl

/-- Whether `processNetworkReport` completes or throws, the report has been
counted once: the counters are updated before anything that can fail. -/
theorem processNetworkReport_view (A : Android) (sessionId : String) (r : Report) (w : World) :
    sessionView ((processNetworkReport A sessionId r).run w).2 =
      w.curSession.map fun s => handoffView (countHandoffs s r) := by
  cases hs : w.curSession with
  | none => simp [processNetworkReport_null A sessionId r w hs, sessionView, hs]
  | some s =>
    have hl := leaves_bookkeeping handoffView (fun f hf s => by rw [hf s]; rfl) A
      (countReport A sessionId w.samplingRateInMs r s) r
    rw [processNetworkReport_run A sessionId r w s hs, show sessionView _ = _ from hl _]
    simp only [Option.map_some, countReport, handoffView_countTimeIn5G,
      handoffView_startSession]

/-! A whole session: each report is classified against arbitrary previous values
and folded into the summary, in any surrounding state. -/

structure HandoffInput where
  android : Android
  world : World
  sessionId : String
  report : Report
  prevNrStatus : String
  prevMCid : String
  prevAccessNetworkTech : String
  accessNetworkTech : String

def HandoffInput.classified (x : HandoffInput) : Report :=
  { x.report with handoff := setHandoffType x.prevNrStatus x.prevMCid x.prevAccessNetworkTech
                               x.report.nrStatus x.report.mCid x.accessNetworkTech }

/-- The summary after one report; an exception keeps the assignments made before it. -/
def foldReport (s : SessionSummary) (x : HandoffInput) : SessionSummary :=
  ((processNetworkReport x.android x.sessionId x.classified).run
    { x.world with curSession := some s }).2.curSession.getD s

def foldReports (s : SessionSummary) (xs : List HandoffInput) : SessionSummary :=
  xs.foldl foldReport s

/-- The orientation a handoff stands for: bit 0 vertical, bit 1 horizontal. -/
def orientationOf (h : Handoff) : ℤ :=
  (if h.verticalHandoff = 1 then 1 else 0) + (if h.horizontalHandoff = 1 then 2 else 0)

/-- Three counters agree with one another. -/
def CountersConsistent (nHandoffs nVerticalHandoffs nHorizontalHandoffs : ℤ) : Prop :=
  max nVerticalHandoffs nHorizontalHandoffs ≤ nHandoffs ∧
  nHandoffs ≤ nVerticalHandoffs + nHorizontalHandoffs ∧
  nVerticalHandoffs + nHorizontalHandoffs ≤ 2*nHandoffs

theorem handoffView_foldReport (s : SessionSummary) (x : HandoffInput) :
    handoffView (foldReport s x) = handoffView (countHandoffs s x.classified) := by
  have hv := processNetworkReport_view x.android x.sessionId x.classified
    { x.world with curSession := some s }
  unfold foldReport
  generalize ((processNetworkReport x.android x.sessionId x.classified).run
    { x.world with curSession := some s }).2 = w at hv
  simp only [sessionView, Option.map_some] at hv
  obtain ⟨s', hs', he⟩ := Option.map_eq_some_iff.mp hv
  rw [hs']
  exact he

theorem HandoffInput.classified_mem (x : HandoffInput) : x.classified.handoff ∈ handoffOutcomes :=
  setHandoffType_mem _ _ _ _ _ _

/-- On the outcomes of the classifier every branch of the orientation is taken,
so nothing is left over from an earlier report. -/
theorem handoffOrientation_eq (h : Handoff) (hm : h ∈ handoffOutcomes) (old : ℤ) :
    handoffOrientation h old = orientationOf h := by
  have hz := handoffOutcomes_zero_iff h hm
  have hf := handoffOutcomes_flag_values h hm
  unfold handoffOrientation orientationOf noHandoff verticalHorizontanlHandoff verticalHandoff
    horizontalHandoff
  grind

theorem foldReports_snoc (s : SessionSummary) (xs : List HandoffInput) (x : HandoffInput) :
    foldReports s (xs ++ [x]) = foldReport (foldReports s xs) x := by
  simp [foldReports]

/-- What every prefix of a session satisfies: no counter wraps around, and every
counted handoff carries one or two of the flags. -/
def SessionInv (n : ℕ) (s : SessionSummary) : Prop :=
  0 ≤ s.nVerticalHandoffs ∧ 0 ≤ s.nHorizontalHandoffs ∧ s.nHandoffs ≤ n ∧
  CountersConsistent s.nHandoffs s.nVerticalHandoffs s.nHorizontalHandoffs

theorem increment_of_lt (n : ℤ) (h0 : 0 ≤ n) (h : n+1 < 2147483648) : increment n = n+1 :=
  wrap32_of_range _ (by omega) h

theorem sessionInv_countHandoffs (n : ℕ) (s : SessionSummary) (r : Report) (hn : n+1 < 2147483648)
    (hm : r.handoff ∈ handoffOutcomes) (hs : SessionInv n s) :
    SessionInv (n+1) (countHandoffs s r) := by
  obtain ⟨hv, hh, hle, h1, h2, h3⟩ := hs
  have hz := handoffOutcomes_zero_iff r.handoff hm
  have hf := handoffOutcomes_flag_values r.handoff hm
  have hiv : increment s.nVerticalHandoffs = s.nVerticalHandoffs + 1 :=
    increment_of_lt _ hv (by omega)
  have hih : increment s.nHorizontalHandoffs = s.nHorizontalHandoffs + 1 :=
    increment_of_lt _ hh (by omega)
  have hin : increment s.nHandoffs = s.nHandoffs + 1 := increment_of_lt _ (by omega) (by omega)
  simp only [SessionInv, CountersConsistent, countHandoffs, hiv, hih, hin]
  split_ifs <;> omega

theorem sessionInv_of_handoffView (n : ℕ) (s s' : SessionSummary)
    (h : handoffView s = handoffView s') (hs : SessionInv n s) : SessionInv n s' := by
  simp only [handoffView, HandoffView.mk.injEq] at h
  obtain ⟨-, -, h1, h2, h3, -⟩ := h
  unfold SessionInv at hs ⊢
  rwa [← h1, ← h2, ← h3]

/-- A session of fewer than 2^31 reports keeps the counters consistent. -/
theorem sessionInv_foldReports (s : SessionSummary) (hs : SessionInv 0 s) (xs : List HandoffInput)
    (hlen : xs.length < 2147483648) : SessionInv xs.length (foldReports s xs) := by
  induction xs using List.reverseRecOn with
  | nil => exact hs
  | append_singleton xs x ih =>
    rw [List.length_append, List.length_singleton] at hlen ⊢
    have hp := sessionInv_countHandoffs xs.length _ x.classified (by omega) x.classified_mem
      (ih (by omega))
    rw [foldReports_snoc]
    exact sessionInv_of_handoffView _ _ _ (handoffView_foldReport _ x).symm hp

theorem curHandoffOrientation_foldReports (s : SessionSummary) (xs : List HandoffInput)
    (x : HandoffInput) :
    (foldReports s (xs ++ [x])).curHandoffOrientation = orientationOf x.classified.handoff := by
  have hv := congrArg HandoffView.curHandoffOrientation
    (handoffView_foldReport (foldReports s xs) x)
  rw [foldReports_snoc]
  exact hv.trans (handoffOrientation_eq _ x.classified_mem _)

/-- The handoff counters over a whole session: after every step they are
consistent and the orientation is that of the latest report; a horizontal handoff
means a new cell, and the type code determines the flags. -/
theorem handoff_counters_consistent (sessionNumber : String) (xs : List HandoffInput)
    (hlen : xs.length < 2147483648) :
    (∀ k ≤ xs.length, CountersConsistent
      (foldReports { sessionId := sessionNumber } (xs.take k)).nHandoffs
      (foldReports { sessionId := sessionNumber } (xs.take k)).nVerticalHandoffs
      (foldReports { sessionId := sessionNumber } (xs.take k)).nHorizontalHandoffs) ∧
    (∀ k, ∀ hk : k < xs.length,
      (foldReports { sessionId := sessionNumber } (xs.take (k+1))).curHandoffOrientation =
        orientationOf (xs.get ⟨k, hk⟩).classified.handoff) ∧
    (∀ x ∈ xs, x.classified.handoff.horizontalHandoff = 1 → x.report.mCid ≠ x.prevMCid) ∧
    (∀ x ∈ xs, ∀ y ∈ xs, x.classified.handoff.handoffType ≠ 0 →
      x.classified.handoff.handoffType = y.classified.handoff.handoffType →
      x.classified.handoff.horizontalHandoff = y.classified.handoff.horizontalHandoff ∧
      x.classified.handoff.verticalHandoff = y.classified.handoff.verticalHandoff) := by
  refine ⟨?_, ?_, ?_, ?_⟩
  · intro k hk
    have h0 : SessionInv 0 { sessionId := sessionNumber } := by
      simp [SessionInv, CountersConsistent]
    have hl : (xs.take k).length < 2147483648 := by
      rw [List.length_take]
      omega
    exact (sessionInv_foldReports _ h0 _ hl).2.2.2
  · intro k hk
    rw [← List.take_append_getElem hk]
    exact curHandoffOrientation_foldReports _ _ _
  · intro x _ hx
    exact setHandoffType_horizontal _ _ _ _ _ _ hx
  · intro x _ y _ _ ht
    have he := handoffOutcomes_type_injective _ _ x.classified_mem y.classified_mem ht
    rw [he]
    exact ⟨rfl, rfl⟩

/-- SA is left for LTE on another tower, then the tower changes, then SA is back on the same
tower. -/
def leavingSA : HandoffInput where
  android := steady (lteMoment 7)
  world := {}
  sessionId := "1700000000"
  report := { mCid := "7", locationData := some origin }
  prevNrStatus := ""
  prevMCid := "6"
  prevAccessNetworkTech := networkType5GSA
  accessNetworkTech := networkTypeLte

def nextTower : HandoffInput where
  android := steady (lteMoment 8)
  world := {}
  sessionId := "1700000000"
  report := { mCid := "8", nrStatus := nrcNoneKeyword, locationData := some origin }
  prevNrStatus := nrcNoneKeyword
  prevMCid := "7"
  prevAccessNetworkTech := networkTypeLte
  accessNetworkTech := networkTypeLte

def backOnSA : HandoffInput where
  android := steady (lteMoment 8)
  world := {}
  sessionId := "1700000000"
  report := { mCid := "8", locationData := some origin }
  prevNrStatus := nrcNoneKeyword
  prevMCid := "8"
  prevAccessNetworkTech := networkTypeLte
  accessNetworkTech := networkType5GSA

def threeHandoffs : List HandoffInput := [leavingSA, nextTower, backOnSA]

theorem handoff_counters_consistent_three :
    threeHandoffs.map (fun x => x.classified.handoff) = [⟨18, 1, 1⟩, ⟨9, 1, 0⟩, ⟨17, 0, 1⟩] ∧
    (∀ k ≤ 3, CountersConsistent
      (foldReports { sessionId := "1700000000" } (threeHandoffs.take k)).nHandoffs
      (foldReports { sessionId := "1700000000" } (threeHandoffs.take k)).nVerticalHandoffs
      (foldReports { sessionId := "1700000000" } (threeHandoffs.take k)).nHorizontalHandoffs) ∧
    (foldReports { sessionId := "1700000000" } (threeHandoffs.take 1)).curHandoffOrientation = 3 ∧
    (foldReports { sessionId := "1700000000" } (threeHandoffs.take 2)).curHandoffOrientation = 2 ∧
    (foldReports { sessionId := "1700000000" } (threeHandoffs.take 3)).curHandoffOrientation =
      1 := by
  obtain ⟨hcounters, horientation, -⟩ :=
    handoff_counters_consistent "1700000000" threeHandoffs (by decide)
  exact ⟨by decide, hcounters, horientation 0 (by decide), horientation 1 (by decide),
    horientation 2 (by decide)⟩

end MmWaveTracker
