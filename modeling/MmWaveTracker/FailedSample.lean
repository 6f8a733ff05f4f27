import MmWaveTracker.HandoffChain

/-! A sample that fails: `NetworkInfoToReport` returns null, and its caller goes on with
whatever history the method left behind. -/
namespace MmWaveTracker

/-- The fields that one sample leaves for the next. -/
structure SampleHistory where
  prevNrStatus : String
  prevMCid : String
  prevAccessNetworkTech : Option String
  mobilityLabelQueue : List Location
  rxBytes : List ℤ
  txBytes : List ℤ
  timestamps_rxtx_bytes_calculation : List ℤ
  deriving DecidableEq

def sampleHistory (w : World) : SampleHistory where
  prevNrStatus := w.prevNrStatus
  prevMCid := w.prevMCid
  prevAccessNetworkTech := w.prevAccessNetworkTech
  mobilityLabelQueue := w.mobilityLabelQueue
  rxBytes := w.rxBytes
  txBytes := w.txBytes
  timestamps_rxtx_bytes_calculation := w.timestamps_rxtx_bytes_calculation

/-! What the sample from `w` reads before it touches its history. -/

/-- The location that the position receiver holds once `setContext` is done. -/
def locationAt (A : Android) (w : World) : Option Location :=
  (A.moment ((setContext A {}).run { w with tick := w.tick+1 }).2.tick).lastLoc

def gatheredCell (A : Android) (w : World) : String :=
  setMCid A.sdkInt ((A.moment (w.tick+1)).cellInfo.getD []) ""

/-- The technology read for the classification. -/
def gatheredTech (A : Android) (w : World) : Option String :=
  (technologyReading A ((beforeTechnology A).run w).2).or w.network_service

/-- The sample gets as far as its history: the platform answers its calls, and none of the
references that it follows on the way is null. -/
structure ReachesHistory (A : Android) (w : World) : Prop where
  answered : ∃ r w₀, (gatherSample A).run w = (.ok r, w₀)
  technology : (gatheredTech A w).isSome
  location : (locationAt A w).isSome
  prevTechnology : w.prevAccessNetworkTech.isSome
  rxWindow : w.rxBytes ≠ []
  txWindow : w.txBytes ≠ []

/-- What the sample stores before it asks for the technology again is there already: the
same cell, and a queue that holds nothing but this location. -/
structure AlreadyStored (A : Android) (w : World) : Prop where
  prevNrStatus : w.prevNrStatus = ""
  prevMCid : w.prevMCid = gatheredCell A w
  queue : ∃ l, locationAt A w = some l ∧
    w.mobilityLabelQueue = List.replicate mobilitylabelQueueSize l

/-- The sample is over with its gathering, and asks the platform for the technology again. -/
def afterGathering (A : Android) (w : World) : World := ((gatherSample A).run w).2

/-! The circular queue. -/

theorem eq_replicate_of_append_eq_cons {α : Type} (x : α) (n : ℕ) (y : α) (q : List α)
    (hn : q.length = n) (h : q ++ [x] = y :: q) : q = List.replicate n x ∧ y = x := by
  induction n generalizing y q with
  | zero =>
    obtain rfl := List.length_eq_zero_iff.mp hn
    cases h
    exact ⟨rfl, rfl⟩
  | succ n ih =>
    cases q with
    | nil => cases hn
    | cons z q =>
      obtain ⟨rfl, hq⟩ := List.cons.inj h
      obtain ⟨hrep, rfl⟩ := ih z q (Nat.succ.inj hn) hq
      exact ⟨by rw [List.replicate_succ, ← hrep], rfl⟩

/-- An `add` leaves the queue as it was exactly if the queue is full of that element. -/
theorem circularAdd_eq_self_iff {α : Type} (n : ℕ) (q : List α) (x : α) :
    circularAdd (n+1) q x = q ↔ q = List.replicate (n+1) x := by
  unfold circularAdd
  constructor
  · intro h
    have hlen : q.length = n+1 := by
      have hl := congrArg List.length h
      rw [List.length_drop, List.length_append, List.length_singleton] at hl
      omega
    cases q with
    | nil => cases hlen
    | cons y q =>
      rw [hlen, Nat.add_sub_cancel_left, List.cons_append, List.drop_succ_cons, List.drop_zero] at h
      obtain ⟨hrep, rfl⟩ := eq_replicate_of_append_eq_cons x n y q (Nat.succ.inj hlen) h
      rw [List.replicate_succ, ← hrep]
  · intro h
    rw [h, List.length_replicate, Nat.add_sub_cancel_left, ← List.replicate_succ',
      List.drop_replicate]
    rfl

/-! The stages of a sample, by what it reads. -/

section Stages

variable {A : Android}

theorem sampleHistory_blind : Blind sampleHistory := fun _ _ _ _ _ _ => rfl

theorem sampleHistory_prepareSample (w : World) :
    sampleHistory ((prepareSample A).run w).2 = sampleHistory w :=
  (within_prepareSample A w).blind sampleHistory_blind

theorem gatherSample_location (w w₀ : World) (r : Report)
    (h : (gatherSample A).run w = (.ok r, w₀)) : r.locationData = locationAt A w := by
  obtain ⟨now, w₁, hnow, h⟩ := Java.bind_eq_ok _ _ _ _ _ h
  cases hnow
  obtain ⟨r₁, w₂, hctx, h⟩ := Java.bind_eq_ok _ _ _ _ _ h
  obtain ⟨l, w₃, hloc, h⟩ := Java.bind_eq_ok _ _ _ _ _ h
  obtain ⟨traffic, w₄, -, h⟩ := Java.bind_eq_ok _ _ _ _ _ h
  cases h
  have hl : l = (A.moment w₂.tick).lastLoc := by
    cases hloc
    rfl
  rw [locationAt, hctx, hl]

theorem classifyHandoff_ok_iff (r : Report) (w : World) :
    (∃ r', (classifyHandoff r).run w = (.ok r', w)) ↔
      w.prevAccessNetworkTech.isSome ∧ w.accessNetworkTech.isSome := by
  unfold classifyHandoff
  rw [Java.bind_ok _ _ w w w rfl]
  cases w.prevAccessNetworkTech with
  | none => exact iff_of_false (by rintro ⟨_, h⟩; cases h) (by simp)
  | some prevTech =>
    rw [Java.bind_ok _ _ w w prevTech rfl]
    cases w.accessNetworkTech with
    | none => exact iff_of_false (by rintro ⟨_, h⟩; cases h) (by simp)
    | some tech => exact iff_of_true ⟨_, rfl⟩ ⟨rfl, rfl⟩

theorem setFromHistory_ok_iff (r : Report) (w : World) :
    (∃ r', (setFromHistory A r).run w = (.ok r', w)) ↔ w.rxBytes ≠ [] ∧ w.txBytes ≠ [] := by
  unfold setFromHistory
  rw [Java.bind_ok _ _ w w w rfl]
  cases w.rxBytes with
  | nil => exact iff_of_false (by rintro ⟨_, h⟩; cases h) (by simp)
  | cons rx _ =>
    rw [List.head?_cons, Java.bind_ok _ _ w w rx rfl]
    cases w.txBytes with
    | nil => exact iff_of_false (by rintro ⟨_, h⟩; cases h) (by simp)
    | cons tx _ => exact iff_of_true ⟨_, rfl⟩ ⟨List.cons_ne_nil _ _, List.cons_ne_nil _ _⟩

/-- What a prepared report takes to its history. -/
structure Prepared (A : Android) (w w₀ : World) (r : Report) : Prop where
  state : w₀ = afterGathering A w
  connected : w₀.connect_type.isSome
  nrStatus : r.nrStatus = ""
  mCid : r.mCid = gatheredCell A w
  locationData : r.locationData = locationAt A w

theorem setFromHistory_location (r r' : Report) (w : World)
    (h : (setFromHistory A r).run w = (.ok r', w)) : r'.locationData = r.locationData := by
  have hret : Java.Returns (fun r' => r'.locationData = r.locationData) (setFromHistory A r) := by
    refine Java.returns_bind fun _ => ?_
    refine Java.returns_bind fun _ => ?_
    exact Java.returns_bind fun _ => Java.returns_pure _ rfl
  exact hret w r' w h

theorem classifyHandoff_keeps (r r' : Report) (w : World)
    (h : (classifyHandoff r).run w = (.ok r', w)) :
    r'.nrStatus = r.nrStatus ∧ r'.mCid = r.mCid ∧ r'.locationData = r.locationData := by
  have hret : Java.Returns (fun r' => r'.nrStatus = r.nrStatus ∧ r'.mCid = r.mCid ∧
      r'.locationData = r.locationData) (classifyHandoff r) := by
    refine Java.returns_bind fun _ => ?_
    refine Java.returns_bind fun _ => ?_
    exact Java.returns_bind fun _ => Java.returns_pure _ ⟨rfl, rfl, rfl⟩
  exact hret w r' w h

theorem prepared_of_run (w w₀ : World) (r : Report) (h : (prepareSample A).run w = (.ok r, w₀)) :
    Prepared A w w₀ r := by
  obtain ⟨r₀, r₁, h₀, h₁, h₂⟩ := prepareSample_ok A w w₀ r h
  have hgathered := gathered_of_run A w w₀ r₀ h₀
  obtain ⟨hnr, hcell, hloc⟩ := classifyHandoff_keeps r₀ r₁ w₀ h₁
  obtain ⟨hnr', hcell', -⟩ := returns_setFromHistory_key A r₁ w₀ r w₀ h₂
  refine ⟨?_, hgathered.connected, ?_, ?_, ?_⟩
  · rw [afterGathering, h₀]
  · rw [hnr', hnr, returns_nrStatus_gatherSample A w r₀ w₀ h₀]
  · rw [hcell', hcell, hgathered.mCid, gatheredCell]
  · rw [setFromHistory_location r₁ r w₀ h₂, hloc, gatherSample_location w w₀ r₀ h₀]

theorem gatherSample_history (w w₀ : World) (r : Report)
    (h : (gatherSample A).run w = (.ok r, w₀)) : sampleHistory w₀ = sampleHistory w := by
  have hstep := within_gatherSample A w
  rw [h] at hstep
  exact hstep.blind sampleHistory_blind

/-- After the platform's answers only missing references stand in the way of the history. -/
theorem prepareSample_completes_iff (w w₀ : World) (r₀ : Report)
    (h₀ : (gatherSample A).run w = (.ok r₀, w₀)) :
    (∃ r, (prepareSample A).run w = (.ok r, w₀)) ↔
      (w.prevAccessNetworkTech.isSome ∧ (gatheredTech A w).isSome) ∧ w.rxBytes ≠ [] ∧
        w.txBytes ≠ [] := by
  have hsame := gatherSample_history w w₀ r₀ h₀
  rw [← show w₀.prevAccessNetworkTech = w.prevAccessNetworkTech from
      congrArg (·.prevAccessNetworkTech) hsame,
    ← show w₀.rxBytes = w.rxBytes from congrArg (·.rxBytes) hsame,
    ← show w₀.txBytes = w.txBytes from congrArg (·.txBytes) hsame, gatheredTech,
    ← (gathered_of_run A w w₀ r₀ h₀).technology, ← classifyHandoff_ok_iff r₀ w₀]
  constructor
  · rintro ⟨r, h⟩
    obtain ⟨r₀', r₁, h₀', h₁, h₂⟩ := prepareSample_ok A w w₀ r h
    rw [h₀] at h₀'
    cases h₀'
    exact ⟨⟨r₁, h₁⟩, (setFromHistory_ok_iff r₁ w₀).mp ⟨r, h₂⟩⟩
  · rintro ⟨⟨r₁, h₁⟩, hwindows⟩
    obtain ⟨r, h₂⟩ := (setFromHistory_ok_iff (A := A) r₁ w₀).mpr hwindows
    refine ⟨r, ?_⟩
    unfold prepareSample
    rw [Java.bind_ok _ _ _ _ _ h₀, Java.bind_ok _ _ _ _ _ h₁, h₂]

theorem reachesHistory_iff (w : World) :
    ReachesHistory A w ↔ ∃ r w₀, (prepareSample A).run w = (.ok r, w₀) ∧ r.locationData.isSome := by
  constructor
  · intro h
    obtain ⟨r₀, w₀, h₀⟩ := h.answered
    obtain ⟨r, hr⟩ := (prepareSample_completes_iff w w₀ r₀ h₀).mpr
      ⟨⟨h.prevTechnology, h.technology⟩, h.rxWindow, h.txWindow⟩
    refine ⟨r, w₀, hr, ?_⟩
    rw [(prepared_of_run w w₀ r hr).locationData]
    exact h.location
  · rintro ⟨r, w₀, hr, hl⟩
    obtain ⟨r₀, -, h₀, -, -⟩ := prepareSample_ok A w w₀ r hr
    obtain ⟨⟨hprev, htech⟩, hrx, htx⟩ := (prepareSample_completes_iff w w₀ r₀ h₀).mp ⟨r, hr⟩
    rw [(prepared_of_run w w₀ r hr).locationData] at hl
    exact ⟨⟨r₀, w₀, h₀⟩, htech, hl, hprev, hrx, htx⟩

/-- A sample that does not get as far as its history returns null and stores nothing. -/
theorem networkInfoToReport_unreached (w : World) (h : ¬ReachesHistory A w) :
    ∃ w', (networkInfoToReport A).run w = (.ok none, w') ∧ sampleHistory w' = sampleHistory w := by
  have hkept := sampleHistory_prepareSample (A := A) w
  unfold networkInfoToReport
  rw [Java.run_attempt]
  rcases hp : (prepareSample A).run w with ⟨e | r, w₀⟩ <;> rw [hp] at hkept
  · have hb : (sampleBody A).run w = (.error e, w₀) := Java.bind_error _ _ _ w₀ e hp
    rw [hb]
    exact ⟨w₀, rfl, hkept⟩
  · have hl : r.locationData = none := by
      by_contra hne
      exact h ((reachesHistory_iff w).mpr ⟨r, w₀, hp, Option.isSome_iff_ne_none.mpr hne⟩)
    have hr : (recordHistory A r).run w₀ = (.error .nullPointer, w₀) := by
      unfold recordHistory
      rw [hl]
      rfl
    have hb : (sampleBody A).run w = (.error .nullPointer, w₀) := by
      unfold sampleBody
      rw [Java.bind_ok _ _ _ _ _ hp, Java.bind_error _ _ _ _ _ hr]
    rw [hb]
    exact ⟨w₀, rfl, hkept⟩

/-- A sample that does, and whose repeated query the platform answers, gives a report. -/
theorem networkInfoToReport_answered (w : World) (h : ReachesHistory A w)
    (hans : AnswersTechnology A (afterGathering A w)) :
    ∃ r w', (networkInfoToReport A).run w = (.ok (some r), w') := by
  obtain ⟨r, w₀, hp, hl⟩ := (reachesHistory_iff w).mp h
  obtain ⟨l, hl⟩ := Option.isSome_iff_exists.mp hl
  have hprep := prepared_of_run w w₀ r hp
  rw [← hprep.state] at hans
  obtain ⟨tech, w₁, hn⟩ := getNetworkService_succeeds (A := A) (storeCell r l w₀) hprep.connected
    ⟨hans.capabilities, hans.permission, hans.dataNetworkType⟩
  rcases recordHistory_run A r w₀ l hl with ⟨_, w', hr, -, -⟩ | ⟨e, w', -, hn', -⟩
  · refine ⟨r, w', ?_⟩
    have hb : (sampleBody A).run w = (.ok (some r), w') := by
      unfold sampleBody
      rw [Java.bind_ok _ _ _ _ _ hp, Java.bind_ok _ _ _ _ _ hr]
      rfl
    unfold networkInfoToReport
    rw [Java.run_attempt, hb]
  · rw [hn] at hn'
    cases hn'

/-- One whose repeated query the platform does not answer returns null, with the cell and
the location stored. -/
theorem networkInfoToReport_unanswered (w : World) (h : ReachesHistory A w)
    (hans : ¬AnswersTechnology A (afterGathering A w)) :
    ∃ l w', locationAt A w = some l ∧ (networkInfoToReport A).run w = (.ok none, w') ∧
      sampleHistory w' = { sampleHistory w with
        prevNrStatus := ""
        prevMCid := gatheredCell A w
        mobilityLabelQueue := circularAdd mobilitylabelQueueSize w.mobilityLabelQueue l } := by
  obtain ⟨r, w₀, hp, hl⟩ := (reachesHistory_iff w).mp h
  obtain ⟨l, hl⟩ := Option.isSome_iff_exists.mp hl
  have hprep := prepared_of_run w w₀ r hp
  have hkept := sampleHistory_prepareSample (A := A) w
  rw [hp] at hkept
  have hstep := deviceCall_getAccessNetworkTech.leaves (A := A) sampleHistory_blind
    (storeCell r l w₀)
  rcases ha : (getAccessNetworkTech A).run (storeCell r l w₀) with ⟨e | tech, w'⟩ <;>
    rw [ha] at hstep
  · have hr : (recordHistory A r).run w₀ = (.error e, w') := by
      unfold recordHistory
      rw [hl, Java.bind_ok _ _ w₀ w₀ l rfl, Java.bind_ok _ _ w₀ (storeCell r l w₀) () rfl,
        Java.bind_error _ _ _ _ _ ha]
    have hb : (sampleBody A).run w = (.error e, w') := by
      unfold sampleBody
      rw [Java.bind_ok _ _ _ _ _ hp, Java.bind_error _ _ _ _ _ hr]
    refine ⟨l, w', hprep.locationData ▸ hl, ?_, ?_⟩
    · unfold networkInfoToReport
      rw [Java.run_attempt, hb]
      rfl
    · rw [hstep, ← hprep.nrStatus, ← hprep.mCid, ← hkept,
        ← show w₀.mobilityLabelQueue =
          w.mobilityLabelQueue from congrArg (·.mobilityLabelQueue) hkept]
      rfl
  · obtain ⟨s, w₁, hn, -⟩ := Java.bind_eq_ok _ _ _ _ _ ha
    obtain ⟨hthis, -, -⟩ := getNetworkService_eq_ok _ _ _ hn
    rw [hprep.state] at hthis
    exact absurd ⟨hthis.capabilities, hthis.permission, hthis.dataNetworkType⟩ hans

/-- What is stored without the technology leaves the history as it was exactly if it is
there already. -/
theorem stored_eq_iff (w : World) (l : Location) (hl : locationAt A w = some l) :
    { sampleHistory w with
      prevNrStatus := ""
      prevMCid := gatheredCell A w
      mobilityLabelQueue := circularAdd mobilitylabelQueueSize w.mobilityLabelQueue l } =
        sampleHistory w ↔
    AlreadyStored A w := by
  have hqueue : circularAdd mobilitylabelQueueSize w.mobilityLabelQueue l = w.mobilityLabelQueue ↔
      w.mobilityLabelQueue = List.replicate mobilitylabelQueueSize l :=
        circularAdd_eq_self_iff 19 _ l
  constructor
  · intro h
    refine ⟨(congrArg (·.prevNrStatus) h).symm, (congrArg (·.prevMCid) h).symm, l, hl, ?_⟩
    exact hqueue.mp (congrArg (·.mobilityLabelQueue) h)
  · rintro ⟨hnr, hcell, l', hl', hq⟩
    rw [hl] at hl'
    cases hl'
    rw [← hcell, hqueue.mpr hq, ← hnr]
    rfl

end Stages

/-- A sample that returns null leaves its history untouched exactly if it failed before it
touched the history, or what it had stored by then was there already. The one call made in
between is the repeated query for the technology. -/
theorem failed_sample_keeps_history_iff (A : Android) (w : World) :
    (∀ w', (networkInfoToReport A).run w = (.ok none, w') → sampleHistory w' = sampleHistory w) ↔
      (ReachesHistory A w → AnswersTechnology A (afterGathering A w) ∨ AlreadyStored A w) := by
  by_cases hreach : ReachesHistory A w
  · by_cases hans : AnswersTechnology A (afterGathering A w)
    · refine iff_of_true ?_ fun _ => .inl hans
      intro w' h
      obtain ⟨r, w₁, hr⟩ := networkInfoToReport_answered w hreach hans
      rw [hr] at h
      cases h
    · obtain ⟨l, w₁, hl, hr, hstored⟩ := networkInfoToReport_unanswered w hreach hans
      constructor
      · intro h _
        have hsame := h w₁ hr
        rw [hstored] at hsame
        exact .inr ((stored_eq_iff w l hl).mp hsame)
      · intro h w' hr'
        rw [hr] at hr'
        cases hr'
        rw [hstored]
        exact (stored_eq_iff w l hl).mpr ((h hreach).resolve_left hans)
  · refine iff_of_true ?_ fun h => absurd h hreach
    intro w' h
    obtain ⟨w₁, hr, hkept⟩ := networkInfoToReport_unreached w hreach
    rw [hr] at h
    cases h
    exact hkept

/-- A phone whose platform answers every call of the first sample but the last one, the
repeated query for the technology. -/
def fallingSilentPhone : Android :=
  { ltePhone with moment := fun n => { lteMoment 7 with throws := decide (58 ≤ n) } }

/-- The first sample of a session fails, and the history holds its cell. -/
theorem failed_sample_stores_cell : ∃ w w',
    runOps fallingSilentPhone {} [.device, .start] = w ∧
    (networkInfoToReport fallingSilentPhone).run w = (.ok none, w') ∧
    w.prevMCid = "" ∧ w'.prevMCid = "7" ∧ sampleHistory w' ≠ sampleHistory w := by
  refine ⟨_, _, rfl, rfl, rfl, rfl, ?_⟩
  intro h
  exact absurd (congrArg (·.prevMCid) h) (by decide)

end MmWaveTracker
