import MmWaveTracker.SamplingLoop
import Mathlib.Data.List.Chain

/-! The chain of handoff classifications: what a report is classified with, and
what the next report is compared against. -/
namespace MmWaveTracker

structure HandoffKey where
  nrStatus : String
  mCid : String
  accessNetworkTech : Option String
  deriving DecidableEq, Repr

/-- The fields that the next `setHandoffType` compares with. -/
def historyKey (w : World) : HandoffKey := ⟨w.prevNrStatus, w.prevMCid, w.prevAccessNetworkTech⟩

/-- The two triples of the `setHandoffType` call in the sample from `w`: what it
compares with, and what it classifies. -/
def setHandoffCall (A : Android) (w : World) : Option (HandoffKey × HandoffKey) :=
  match (gatherSample A).run { w with tick := w.tick+1 } with
  | (.ok r, w₀) => some (historyKey w₀, ⟨r.nrStatus, r.mCid, w₀.accessNetworkTech⟩)
  | (.error _, _) => none

/-- What a sample from `w` that gets as far as its history stores: the cell id, and
the answer of the device when it is asked for the technology again. -/
def recorded (A : Android) (w : World) : Option (String × Except Throwable (Option String)) :=
  match (prepareSample A).run { w with tick := w.tick+1 } with
  | (.ok r, w₀) => r.locationData.map fun l =>
      (r.mCid, ((getNetworkService A).run (storeCell r l w₀)).1)
  | (.error _, _) => none

/-! What the sample from `w` reads: its cell, and the technology, once for the
classification and once for the history. -/

def cellAt (A : Android) (w : World) : String :=
  setMCid A.sdkInt ((A.moment (w.tick+2)).cellInfo.getD []) ""

def askedFirst (A : Android) (w : World) : World :=
  ((beforeTechnology A).run { w with tick := w.tick+1 }).2

def askedAgain (A : Android) (w : World) : World :=
  ((prepareSample A).run { w with tick := w.tick+1 }).2

/-- A reading that names no technology leaves the static as the last query left it. -/
def classifiedTech (A : Android) (w : World) : Option String :=
  (technologyReading A (askedFirst A w)).or w.network_service

/-- The second reading names the technology of the first one, or none. -/
def ReadingsAgree (A : Android) (w : World) : Prop :=
  technologyReading A (askedAgain A w) = none ∨
    technologyReading A (askedAgain A w) = classifiedTech A w

/-! The sampler's NR status is always empty, and later stages keep what was gathered. -/

theorem returns_nrStatus_gatherSample (A : Android) :
    Java.Returns (fun r => r.nrStatus = "") (gatherSample A) := by
  refine Java.returns_bind fun _ => ?_
  refine Java.returns_bind fun _ => ?_
  refine Java.returns_bind fun _ => ?_
  exact Java.returns_bind fun _ => Java.returns_pure _ rfl

theorem returns_setFromHistory_key (A : Android) (r₁ : Report) :
    Java.Returns (fun r => r.nrStatus = r₁.nrStatus ∧ r.mCid = r₁.mCid ∧ r.handoff = r₁.handoff)
      (setFromHistory A r₁) := by
  refine Java.returns_bind fun w => ?_
  refine Java.returns_bind fun rx_bytes => ?_
  exact Java.returns_bind fun tx_bytes => Java.returns_pure _ ⟨rfl, rfl, rfl⟩

/-- The report of a prepared sample carries the result of the call `setHandoffCall` describes. -/
theorem prepareSample_call (A : Android) (w w₀ : World) (r : Report)
    (h : (prepareSample A).run { w with tick := w.tick+1 } = (.ok r, w₀)) :
    setHandoffCall A w = some (historyKey w₀, ⟨r.nrStatus, r.mCid, w₀.accessNetworkTech⟩) ∧
    r.nrStatus = "" ∧
    ∃ prevTech tech, w₀.prevAccessNetworkTech = some prevTech ∧ w₀.accessNetworkTech = some tech ∧
      r.handoff = setHandoffType w₀.prevNrStatus w₀.prevMCid prevTech r.nrStatus r.mCid tech := by
  obtain ⟨r₀, r₁, h₀, h₁, h₂⟩ := prepareSample_ok A _ w₀ r h
  obtain ⟨k₁, k₂, k₃⟩ := returns_setFromHistory_key A r₁ w₀ r w₀ h₂
  have hnr : r₀.nrStatus = "" := returns_nrStatus_gatherSample A _ r₀ w₀ h₀
  obtain ⟨w₁, w₂, hg, hb⟩ := Java.bind_eq_ok _ _ _ _ _ h₁
  cases hg
  obtain ⟨prevTech, w₃, hp, hc⟩ := Java.bind_eq_ok _ _ _ _ _ hb
  obtain ⟨tech, w₄, ht, hd⟩ := Java.bind_eq_ok _ _ _ _ _ hc
  have hprev := Java.nonNull_eq_ok _ _ _ _ hp
  have htech := Java.nonNull_eq_ok _ _ _ _ ht
  cases hd
  simp only at k₁ k₂ k₃
  refine ⟨?_, k₁.trans hnr, prevTech, tech, hprev.1, htech.1, ?_⟩
  · unfold setHandoffCall
    rw [h₀, k₁, k₂]
  · rw [k₁, k₂, k₃]

/-! How a sample moves the history. -/

theorem historyKey_sessionBlind : SessionBlind historyKey :=
  ⟨fun _ _ _ _ _ _ => rfl, fun _ _ => rfl⟩

theorem leaves_prepareSample (A : Android) : Java.Leaves historyKey (prepareSample A) :=
  Java.within_mono (within_prepareSample A) fun _ _ h => h.blind historyKey_sessionBlind.1

theorem recordHistory_run (A : Android) (r : Report) (w₀ : World) (l : Location)
    (hl : r.locationData = some l) :
    (∃ tech w', (recordHistory A r).run w₀ = (.ok (), w') ∧
      ((getNetworkService A).run (storeCell r l w₀)).1 = .ok tech ∧
      historyKey w' = ⟨r.nrStatus, r.mCid, tech⟩) ∨
    (∃ e w', (recordHistory A r).run w₀ = (.error e, w') ∧
      ((getNetworkService A).run (storeCell r l w₀)).1 = .error e ∧
      historyKey w' = ⟨r.nrStatus, r.mCid, w₀.prevAccessNetworkTech⟩) := by
  have hkey := deviceCall_getNetworkService.leaves (A := A) historyKey_sessionBlind.1
    (storeCell r l w₀)
  have hrec : recordHistory A r = Java.nonNull r.locationData >>= fun location =>
      Java.modify (storeCell r location) >>= fun _ => getAccessNetworkTech A >>= fun tech =>
      Java.modify fun w => { w with
        prevAccessNetworkTech := tech
        rxBytes := circularAdd speedCalculationWindowSize w.rxBytes r.traffic.mobileRxBytes
        txBytes := circularAdd speedCalculationWindowSize w.txBytes r.traffic.mobileTxBytes
        timestamps_rxtx_bytes_calculation :=
          circularAdd speedCalculationWindowSize w.timestamps_rxtx_bytes_calculation
            r.timeStamp } := rfl
  rw [hrec, hl, Java.bind_ok _ _ w₀ w₀ l rfl, Java.bind_ok _ _ w₀ (storeCell r l w₀) () rfl]
  rcases hn : (getNetworkService A).run (storeCell r l w₀) with ⟨e | tech, w₁⟩ <;> rw [hn] at hkey
  · have ha : (getAccessNetworkTech A).run (storeCell r l w₀) = (.error e, w₁) :=
      Java.bind_error _ _ _ w₁ e hn
    exact Or.inr ⟨e, w₁, Java.bind_error _ _ _ w₁ e ha, rfl, hkey⟩
  · have ha : (getAccessNetworkTech A).run (storeCell r l w₀) =
        (.ok tech, { w₁ with accessNetworkTech := tech }) := by
      unfold getAccessNetworkTech
      rw [Java.bind_ok _ _ _ w₁ tech hn]
      rfl
    refine Or.inl ⟨tech, _, Java.bind_ok _ _ _ _ tech ha, rfl, ?_⟩
    injection hkey with h₁ h₂ h₃
    exact congrArg₂ (HandoffKey.mk · · tech) h₁ h₂

/-- The key that the history holds after a sample that recorded `stored`. -/
def keyAfter (key : HandoffKey) : Option (String × Except Throwable (Option String)) → HandoffKey
  | none => key
  | some (mCid, .ok tech) => ⟨"", mCid, tech⟩
  | some (mCid, .error _) => ⟨"", mCid, key.accessNetworkTech⟩

/-- A sample succeeds exactly when it records a technology; whatever it records
moves the history, also when it then fails. -/
theorem sampleFrom_recorded (A : Android) (w : World) :
    historyKey (sampleFrom A w).2 = keyAfter (historyKey w) (recorded A w) ∧
    ((∃ r, (sampleFrom A w).1 = .ok (some r)) ↔
      ∃ mCid tech, recorded A w = some (mCid, .ok tech)) := by
  have hkey := leaves_prepareSample A { w with tick := w.tick+1 }
  unfold sampleFrom networkInfoToReport
  rw [Java.run_attempt]
  rcases hp : (prepareSample A).run { w with tick := w.tick+1 } with ⟨e | r, w₀⟩ <;> rw [hp] at hkey
  · have hb : (sampleBody A).run { w with tick := w.tick+1 } = (.error e, w₀) :=
      Java.bind_error _ _ _ w₀ e hp
    have hrec : recorded A w = none := by
      unfold recorded
      rw [hp]
    rw [hb, hrec]
    exact ⟨hkey, iff_of_false (by rintro ⟨r, hr⟩; cases hr) (by rintro ⟨_, _, h⟩; cases h)⟩
  have hnr := (prepareSample_call A w w₀ r hp).2.1
  have hb : (sampleBody A).run { w with tick := w.tick+1 } =
      (recordHistory A r >>= fun _ => pure (some r)).run w₀ := Java.bind_ok _ _ _ w₀ r hp
  cases hl : r.locationData with
  | none =>
    have hr : (recordHistory A r).run w₀ = (.error .nullPointer, w₀) := by
      unfold recordHistory
      rw [hl]
      rfl
    have hrec : recorded A w = none := by
      unfold recorded
      rw [hp]
      simp [hl]
    rw [hb, Java.bind_error _ _ w₀ w₀ _ hr, hrec]
    exact ⟨hkey, iff_of_false (by rintro ⟨r, hr⟩; cases hr) (by rintro ⟨_, _, h⟩; cases h)⟩
  | some l =>
    have hrec : recorded A w = some (r.mCid, ((getNetworkService A).run (storeCell r l w₀)).1) := by
      unfold recorded
      rw [hp]
      simp [hl]
    rcases recordHistory_run A r w₀ l hl with ⟨tech, w', hr, hn, hk⟩ | ⟨e, w', hr, hn, hk⟩
    · rw [hb, Java.bind_ok _ _ w₀ w' () hr, hrec, hn]
      refine ⟨?_, fun _ => ⟨_, _, rfl⟩, fun _ => ⟨r, rfl⟩⟩
      exact hk.trans (by rw [hnr]; rfl)
    · rw [hb, Java.bind_error _ _ w₀ w' e hr, hrec, hn]
      refine ⟨?_, iff_of_false (by rintro ⟨r, hr⟩; cases hr) (by rintro ⟨_, _, h⟩; cases h)⟩
      have htech : w₀.prevAccessNetworkTech = w.prevAccessNetworkTech :=
        congrArg HandoffKey.accessNetworkTech hkey
      exact hk.trans (by rw [hnr, htech]; rfl)

/-! Runs: only the sample inside a round moves the history. -/

section Run

variable {A : Android}

theorem leaves_publish {γ : Type} {f : World → γ} (hf : SessionBlind f) (report : Option Report) :
    Java.Leaves f (publish A report) := by
  cases report with
  | none => exact Java.within_pure _
  | some r =>
    refine Java.within_bind Java.within_get fun w => ?_
    exact Java.within_bind (leaves_processNetworkReport hf A _ r) fun _ => leaves_broadcast hf.1

theorem leaves_sleepUntilNext {γ : Type} {f : World → γ} (hf : Blind f) (startTime : ℤ) :
    Java.Leaves f (sleepUntilNext A startTime) := by
  refine Java.within_bind ((deviceCall_observe (A := A) _).leaves hf) fun _ => ?_
  exact Java.within_bind Java.within_get fun w => within_sleep _

/-- After the sample, a round only touches the summary and the device. -/
theorem view_iteration {γ : Type} {f : World → γ} (hf : SessionBlind f)
    (acts : Option (List DetectedActivity)) (w : World) :
    f ((iteration A acts).run w).2 = f (sampleFrom A w).2 := by
  obtain ⟨report, w₁, h, -, -⟩ := sampleFrom_ok (A := A) w
  rw [iteration_run acts w w₁ report h, h]
  have htail : Java.Leaves f (attachActivities report acts >>= fun report =>
      publish A report >>= fun _ => sleepUntilNext A (A.moment w.tick).now >>= fun _ =>
        pure report) := by
    refine Java.within_bind ?_ fun report => ?_
    · intro w
      rw [attachActivities_state]
      rfl
    refine Java.within_bind (leaves_publish hf report) fun _ => ?_
    exact Java.within_bind (leaves_sleepUntilNext hf.1 _) fun _ => Java.within_pure _
  exact htail w₁

theorem leaves_seedTracing : Java.Leaves historyKey (seedTracing A) := by
  have hobs {α : Type} (f : Moment → α) : Java.Leaves historyKey (observe A f) :=
    (deviceCall_observe (A := A) f).leaves historyKey_sessionBlind.1
  have hwin (n : ℕ) : Java.Leaves historyKey (seedWindows A n) := by
    induction n with
    | zero => exact Java.within_pure _
    | succ n ih =>
      refine Java.within_bind (hobs _) fun _ => ?_
      exact Java.within_bind (Java.within_modify _ fun _ => rfl) fun _ => ih
  refine Java.within_bind (hobs _) fun _ => ?_
  refine Java.within_bind (Java.within_modify _ fun _ => rfl) fun _ => ?_
  refine Java.within_bind (hobs _) fun _ => ?_
  refine Java.within_bind (Java.within_nonNull _) fun _ => ?_
  exact Java.within_bind (Java.within_modify _ fun _ => rfl) fun _ => hwin _

theorem leaves_newDevice {γ : Type} {f : World → γ} (hf : Blind f)
    (hcarrier : ∀ (w : World) (carrier : Option String), f { w with carrier } = f w) :
    Java.Leaves f (newDevice A) := by
  refine Java.within_bind ((deviceCall_query _).leaves hf) fun _ => ?_
  refine Java.within_bind (Java.within_modify _ fun w => hcarrier w _) fun _ => ?_
  refine Java.within_bind (deviceCall_getNetworkType.leaves hf) fun _ => ?_
  exact Java.within_bind (deviceCall_getNetworkService.leaves hf) fun _ => Java.within_pure _

theorem exec_iterate (acts : Option (List DetectedActivity)) (w : World) :
    ((Op.exec A (.iterate acts)).run w).2 = ((iteration A acts).run w).2 := by
  unfold Op.exec
  rw [Java.run_bind]
  rcases (iteration A acts).run w with ⟨_ | _, w'⟩ <;> rfl

theorem leaves_row {γ : Type} {f : World → γ} (hf : Blind f) (r : Report) :
    Java.Leaves f (Op.exec A (.row r)) := by
  refine Java.within_bind (Java.within_mono (within_rowValues r) fun _ _ h => ?_) fun _ =>
    Java.within_pure _
  exact h.blind hf

theorem leaves_connectType {γ : Type} {f : World → γ} (hf : Blind f) :
    Java.Leaves f (Op.exec A .connectType) :=
  Java.within_bind (deviceCall_getConnectType.leaves hf) fun _ => Java.within_pure _

def Op.recorded (A : Android) (w : World) : Op → Option (String × Except Throwable (Option String))
  | .iterate _ => MmWaveTracker.recorded A w
  | _ => none

theorem historyKey_exec (op : Op) (w : World) :
    historyKey ((op.exec A).run w).2 = keyAfter (historyKey w) (op.recorded A w) := by
  cases op with
  | device => exact leaves_newDevice historyKey_sessionBlind.1 (fun _ _ => rfl) w
  | start => exact leaves_seedTracing w
  | iterate acts =>
    rw [exec_iterate, view_iteration historyKey_sessionBlind]
    exact (sampleFrom_recorded A w).1
  | row r => exact leaves_row historyKey_sessionBlind.1 r w
  | connectType => exact leaves_connectType historyKey_sessionBlind.1 w
  | setRate millis => rfl

/-- The operation takes a sample that gives a report. -/
def Op.Succeeds (A : Android) (w : World) : Op → Prop
  | .iterate _ => ∃ r, (sampleFrom A w).1 = .ok (some r)
  | _ => False

theorem succeeds_iff_recorded (op : Op) (w : World) :
    op.Succeeds A w ↔ ∃ mCid tech, op.recorded A w = some (mCid, .ok tech) := by
  cases op with
  | iterate acts => exact (sampleFrom_recorded A w).2
  | _ => exact iff_of_false id (by rintro ⟨_, _, h⟩; cases h)

/-- Every sample taken along the run fails. -/
def SamplesFail (A : Android) : World → List Op → Prop
  | _, [] => True
  | w, op :: rest => ¬op.Succeeds A w ∧ SamplesFail A ((op.exec A).run w).2 rest

/-- The operation is a sample that gets as far as storing its cell id. -/
def Op.StoresCell (A : Android) (w : World) (op : Op) : Prop := (op.recorded A w).isSome = true

instance (A : Android) (w : World) (op : Op) : Decidable (op.StoresCell A w) :=
  inferInstanceAs (Decidable (_ = true))

/-- The cell id that failing samples leave behind, starting from `mCid`. -/
def lastCell (A : Android) : World → List Op → String → String
  | _, [], mCid => mCid
  | w, op :: rest, mCid =>
    lastCell A ((op.exec A).run w).2 rest (if op.StoresCell A w then cellAt A w else mCid)

/-- What a sample that reaches its history has done, by what it read: it has made its
call against the history it found, and it stores the answer of the second query. -/
structure SampleRecord (A : Android) (w : World) (mCid : String)
    (t : Except Throwable (Option String)) : Prop where
  cell : mCid = cellAt A w
  call : setHandoffCall A w = some (historyKey w, ⟨"", mCid, classifiedTech A w⟩)
  classified : (classifiedTech A w).isSome
  answer : ∀ tech, t = .ok tech →
    tech = (technologyReading A (askedAgain A w)).or (classifiedTech A w)
  answered : AnswersTechnology A (askedAgain A w) → ∃ tech, t = .ok tech

theorem sampleRecord_of_recorded (w : World) (mCid : String) (t : Except Throwable (Option String))
    (h : recorded A w = some (mCid, t)) : SampleRecord A w mCid t := by
  unfold recorded at h
  have hkey := leaves_prepareSample A { w with tick := w.tick+1 }
  rcases hp : (prepareSample A).run { w with tick := w.tick+1 } with ⟨e | r, w₀⟩ <;>
    rw [hp] at h hkey
  · cases h
  obtain ⟨l, -, hl⟩ := Option.map_eq_some_iff.mp h
  obtain ⟨r₀, r₁, h₀, -, -⟩ := prepareSample_ok A _ w₀ r hp
  have hread := gathered_of_run A _ w₀ r₀ h₀
  obtain ⟨hcall, hnr, -, tech, -, hsome, -⟩ := prepareSample_call A w w₀ r hp
  have hagain : askedAgain A w = w₀ := congrArg Prod.snd hp
  have hcell : r.mCid = cellAt A w := by
    unfold setHandoffCall at hcall
    rw [h₀] at hcall
    have hr : r₀.mCid = r.mCid := congrArg (fun o => (o.map fun c => c.2.mCid).getD "") hcall
    exact hr.symm.trans hread.mCid
  have htech : w₀.accessNetworkTech = classifiedTech A w := hread.technology
  cases hl
  refine ⟨hcell, ?_, ?_, ?_, ?_⟩
  · rw [hcall, hnr, htech, show historyKey w₀ = historyKey w from hkey]
  · rw [← htech, hsome]
    rfl
  · intro tech ht
    rcases hn : (getNetworkService A).run (storeCell r l w₀) with ⟨_ | s, w'⟩ <;> rw [hn] at ht <;>
      cases ht
    obtain ⟨-, hs, -⟩ := getNetworkService_eq_ok _ _ _ hn
    rw [hagain, ← htech, ← hread.network_service]
    exact hs
  · intro hans
    rw [hagain] at hans
    obtain ⟨s, w', hn⟩ := getNetworkService_succeeds (A := A) (storeCell r l w₀) hread.connected
      ⟨hans.capabilities, hans.permission, hans.dataNetworkType⟩
    exact ⟨s, by rw [hn]⟩

theorem op_sampleRecord (op : Op) (w : World) (mCid : String) (t : Except Throwable (Option String))
    (h : op.recorded A w = some (mCid, t)) : SampleRecord A w mCid t := by
  cases op with
  | iterate acts => exact sampleRecord_of_recorded w mCid t h
  | _ => cases h

/-- The second query repeats the technology of the classification exactly if the readings agree. -/
theorem SampleRecord.agrees_iff {w : World} {mCid : String} {tech : Option String}
    (h : SampleRecord A w mCid (.ok tech)) : tech = classifiedTech A w ↔ ReadingsAgree A w := by
  rw [h.answer tech rfl]
  unfold ReadingsAgree
  cases technologyReading A (askedAgain A w) with
  | none => exact iff_of_true rfl (.inl rfl)
  | some s => simp

theorem historyKey_runOps (ops : List Op) (w : World) (mCid : String) (tech : Option String)
    (hw : historyKey w = ⟨"", mCid, tech⟩) (hfail : SamplesFail A w ops) :
    historyKey (runOps A w ops) = ⟨"", lastCell A w ops mCid, tech⟩ := by
  induction ops generalizing w mCid with
  | nil => exact hw
  | cons op rest ih =>
    refine ih _ _ ?_ hfail.2
    rw [historyKey_exec, hw]
    have hno := fun h => hfail.1 ((succeeds_iff_recorded op w).mpr h)
    rcases hrec : op.recorded A w with _ | ⟨m, e | t⟩
    · rw [if_neg (by simp [Op.StoresCell, hrec])]
      rfl
    · rw [if_pos (by simp [Op.StoresCell, hrec]), ← (op_sampleRecord op w m _ hrec).cell]
      rfl
    · exact absurd ⟨m, t, hrec⟩ hno

/-- Two consecutive reports: the later one is compared with what the earlier one was
classified with exactly when the two readings of the earlier sample agree, and no failed
sample in between left another cell id behind. -/
theorem compared_eq_classified_iff (u : World) (op op' : Op) (ops : List Op) (h : op.Succeeds A u)
    (hfail : SamplesFail A ((op.exec A).run u).2 ops)
    (h' : op'.Succeeds A (runOps A ((op.exec A).run u).2 ops)) :
    ∃ prev cur prev' cur', setHandoffCall A u = some (prev, cur) ∧
      setHandoffCall A (runOps A ((op.exec A).run u).2 ops) = some (prev', cur') ∧
      (prev' = cur ↔ ReadingsAgree A u ∧
        lastCell A ((op.exec A).run u).2 ops (cellAt A u) = cellAt A u) := by
  obtain ⟨mCid, t, hrec⟩ := (succeeds_iff_recorded op u).mp h
  obtain ⟨mCid', t', hrec'⟩ := (succeeds_iff_recorded op' _).mp h'
  have hs := op_sampleRecord op u mCid _ hrec
  refine ⟨_, _, _, _, hs.call, (op_sampleRecord op' _ mCid' _ hrec').call, ?_⟩
  have hkey : historyKey ((op.exec A).run u).2 = ⟨"", mCid, t⟩ := by
    rw [historyKey_exec, hrec]
    rfl
  rw [historyKey_runOps ops _ mCid t hkey hfail, ← hs.agrees_iff, ← hs.cell]
  simp only [HandoffKey.mk.injEq, true_and]
  exact and_comm

/-! Whole runs in which every repeated query agrees. -/

/-- A sample that reaches its history is answered again, and the two readings agree. -/
def Op.Settled (A : Android) (w : World) (op : Op) : Prop :=
  op.StoresCell A w → AnswersTechnology A (askedAgain A w) ∧ ReadingsAgree A w

def AllSettled (A : Android) : World → List Op → Prop
  | _, [] => True
  | w, op :: rest => op.Settled A w ∧ AllSettled A ((op.exec A).run w).2 rest

/-- The `setHandoffType` calls of the samples that succeed, in order. -/
def calls (A : Android) : World → List Op → List (HandoffKey × HandoffKey)
  | _, [] => []
  | w, op :: rest =>
    (match op.recorded A w with
      | some (_, .ok _) => (setHandoffCall A w).toList
      | _ => []) ++ calls A ((op.exec A).run w).2 rest

/-- Each call compares with what the one before it classified. -/
def NoGaps (l : List (HandoffKey × HandoffKey)) : Prop := l.IsChain fun c c' => c'.1 = c.2

/-- Changes of technology between neighbouring reports. -/
def techChanges : List (HandoffKey × HandoffKey) → ℕ
  | c :: c' :: rest =>
    (if c.2.accessNetworkTech ≠ c'.2.accessNetworkTech then 1 else 0) + techChanges (c' :: rest)
  | _ => 0

/-- Calls after the first that see a change of technology. -/
def seenTechChanges (l : List (HandoffKey × HandoffKey)) : ℕ :=
  l.tail.countP fun c => c.1.accessNetworkTech ≠ c.2.accessNetworkTech

theorem noGaps_calls (ops : List Op) (w : World) (c : HandoffKey × HandoffKey)
    (hw : historyKey w = c.2) (hset : AllSettled A w ops) : NoGaps (c :: calls A w ops) := by
  induction ops generalizing w c with
  | nil => exact List.IsChain.singleton c
  | cons op rest ih =>
    have hkey := historyKey_exec (A := A) op w
    unfold calls
    rcases hrec : op.recorded A w with _ | ⟨mCid, t⟩ <;> rw [hrec] at hkey
    · exact ih _ c (hkey.trans hw) hset.2
    · have hs := op_sampleRecord op w mCid t hrec
      obtain ⟨hans, hagree⟩ := hset.1 (by simp [Op.StoresCell, hrec])
      obtain ⟨tech, rfl⟩ := hs.answered hans
      obtain rfl := hs.agrees_iff.mpr hagree
      simp only [hs.call, Option.toList_some, List.singleton_append]
      exact List.isChain_cons_cons.mpr ⟨hw, ih _ _ hkey hset.2⟩

theorem seenTechChanges_eq (l : List (HandoffKey × HandoffKey)) (h : NoGaps l) :
    seenTechChanges l = techChanges l := by
  unfold seenTechChanges
  induction l with
  | nil => rfl
  | cons c rest ih =>
    cases rest with
    | nil => rfl
    | cons c' rest =>
      obtain ⟨hc, hrest⟩ := List.isChain_cons_cons.mp h
      have hih := ih hrest
      simp only [List.tail_cons] at hih ⊢
      rw [List.countP_cons, hih, hc]
      simp only [techChanges, decide_eq_true_eq]
      omega

end Run

/-- The handoff chain. For any two consecutive reports of any run it has no gap exactly
when the readings of the earlier sample agree and no failed sample left another cell id;
and a run in which the readings of every sample agree has no gap at all, and sees every
change of technology in exactly one call. -/
theorem handoff_chain (A : Android) :
    (∀ (u : World) (op op' : Op) (ops : List Op), op.Succeeds A u →
      SamplesFail A ((op.exec A).run u).2 ops →
        op'.Succeeds A (runOps A ((op.exec A).run u).2 ops) →
      ∃ prev cur prev' cur', setHandoffCall A u = some (prev, cur) ∧
        setHandoffCall A (runOps A ((op.exec A).run u).2 ops) = some (prev', cur') ∧
        (prev' = cur ↔ ReadingsAgree A u ∧
          lastCell A ((op.exec A).run u).2 ops (cellAt A u) = cellAt A u)) ∧
    (∀ (w : World) (ops : List Op), AllSettled A w ops →
      NoGaps (calls A w ops) ∧ seenTechChanges (calls A w ops) = techChanges (calls A w ops)) := by
  refine ⟨fun u op op' ops h hfail h' => compared_eq_classified_iff u op op' ops h hfail h', ?_⟩
  intro w ops hset
  have hchain := (noGaps_calls ops w (historyKey w, historyKey w) rfl hset).tail
  exact ⟨hchain, seenTechChanges_eq _ hchain⟩

/-- A phone that leaves SA for LTE right after the first sample was classified, before
the technology is asked for again. -/
def fallbackPhone : Android :=
  { ltePhone with
    moment := fun n =>
      if n < 51 then { lteMoment 7 with dataNetworkType := telephonyNetworkTypeNr }
        else lteMoment 7 }

def fallbackStarted : World :=
  runOps fallbackPhone {} [.device, .start]

/-- Two reports in a row with SA and then LTE, and no call that compares the two. -/
theorem handoff_chain_loses_fallback : ∃ w₁ prev cur prev' cur' r r' v,
    (Op.exec fallbackPhone (.iterate none)).run fallbackStarted = (.ok (), w₁) ∧
    (sampleFrom fallbackPhone fallbackStarted).1 = .ok (some r) ∧
    sampleFrom fallbackPhone w₁ = (.ok (some r'), v) ∧
    setHandoffCall fallbackPhone fallbackStarted = some (prev, cur) ∧
    setHandoffCall fallbackPhone w₁ = some (prev', cur') ∧
    cur.accessNetworkTech = some networkType5GSA ∧ prev'.accessNetworkTech = some networkTypeLte ∧
    cur'.accessNetworkTech = some networkTypeLte ∧ r'.handoff = {} ∧ prev' ≠ cur :=
  ⟨_, _, _, _, _, _, _, _, rfl, rfl, rfl, rfl, rfl, rfl, rfl, rfl, rfl, by decide⟩

/-- On a phone that stays where it is the second report finds what the first one was
classified with, and no change of technology is there to be seen. -/
theorem handoff_chain_steady_phone :
    (∃ prev cur prev' cur', setHandoffCall ltePhone ltePhoneStarted = some (prev, cur) ∧
      setHandoffCall ltePhone (runOps ltePhone ltePhoneStarted [.iterate none]) =
        some (prev', cur') ∧
      prev' = cur) ∧
    NoGaps (calls ltePhone ltePhoneStarted [.iterate none]) := by
  have hfirst : Op.Succeeds ltePhone ltePhoneStarted (.iterate none) := ⟨_, rfl⟩
  have hsecond : Op.Succeeds ltePhone (runOps ltePhone ltePhoneStarted [.iterate none])
      (.iterate none) :=
    ⟨_, rfl⟩
  have hagree : ReadingsAgree ltePhone ltePhoneStarted := .inr rfl
  constructor
  · obtain ⟨prev, cur, prev', cur', hc, hc', hiff⟩ := (handoff_chain ltePhone).1 ltePhoneStarted
      (.iterate none) (.iterate none) [] hfirst trivial hsecond
    exact ⟨prev, cur, prev', cur', hc, hc', hiff.mpr ⟨hagree, rfl⟩⟩
  · refine ((handoff_chain ltePhone).2 ltePhoneStarted [.iterate none] ⟨?_, trivial⟩).1
    exact fun _ => ⟨⟨rfl, rfl, fun _ => rfl⟩, hagree⟩

end MmWaveTracker
