import MmWaveTracker.ProcessReport
import MmWaveTracker.ReportRow
import MmWaveTracker.TechnologyReading

/-! One round of `MonitoringThread.run`, and what the service does between rounds.
An exception that leaves a round ends the loop. -/
namespace MmWaveTracker

/-- `getType()` of Play Services answers one of the codes 0..22. -/
structure DetectedActivity where
  type : Fin 23
  confidence : ℤ
  deriving DecidableEq, Repr

def recordActivities : List DetectedActivity → Vector (Option String) 10 →
    Java World (Vector (Option String) 10)
  | [], activities => pure activities
  | a :: rest, activities =>
    if h : a.type.val < 10 then
      recordActivities rest (activities.set a.type.val (some (valueOf a.confidence)) h)
    else Java.throw .indexOutOfBounds

def mobilityLabelv2Of (mostProbableActivityType : String) : ℤ :=
  if mostProbableActivityType = "3" then mobilitylabelStationary
  else if mostProbableActivityType = "2" ∨ mostProbableActivityType = "7" ∨
      mostProbableActivityType = "8" then mobilitylabelWalking
  else if mostProbableActivityType = "0" then mobilitylabelDriving
  else mobilitylabelInvalid

def setActivities (r : Report) (detectedActivities : List DetectedActivity) : Java World Report :=
    do
  let activities ← recordActivities detectedActivities r.activities
  match detectedActivities with
  | [] => Java.throw .indexOutOfBounds
  | first :: _ => return { r with
      activities
      mostProbableActivityType := some (valueOf first.type.val)
      mostProbableActivityConfidence := first.confidence
      mobilityLabelv2 := mobilityLabelv2Of (valueOf first.type.val) }

/-- The extras dereference the NR status and parse the start time of the session. -/
def broadcastNetworkReportIntent (A : Android) : Java World Unit := do
  let w ← Java.get
  let s ← Java.nonNull w.curSession
  let _ ← Java.nonNull s.currentNrStatus
  let _ ← Java.nonNull s.startTime
  query A fun _ => ()

theorem leaves_broadcast {A : Android} {γ : Type} {f : World → γ} (hf : Blind f) :
    Java.Leaves f (broadcastNetworkReportIntent A) := by
  refine Java.within_bind Java.within_get fun _ => ?_
  refine Java.within_bind (Java.within_nonNull _) fun _ => ?_
  refine Java.within_bind (Java.within_nonNull _) fun _ => ?_
  refine Java.within_bind (Java.within_nonNull _) fun _ => ?_
  exact (deviceCall_query (A := A) _).leaves hf

/-- `Thread.sleep`; nothing interrupts the sampling thread. -/
def sleep (millis : ℤ) : Java World Unit :=
  if millis < 0 then Java.throw .illegalArgument else pure ()

theorem within_sleep {R : World → World → Prop} [Std.Refl R] (millis : ℤ) :
    Java.Within R (sleep millis) := by
  unfold sleep
  split
  · exact Java.within_throw _
  · exact Java.within_pure _

/-- The use of the activities comes before the null check of the report. -/
def attachActivities (report : Option Report)
    (detectedActivities : Option (List DetectedActivity)) :
    Java World (Option Report) :=
  match detectedActivities with
  | none => pure report
  | some l => do
    let r ← Java.nonNull report
    let r ← setActivities r l
    return some r

def publish (A : Android) (report : Option Report) : Java World Unit :=
  match report with
  | none => pure ()
  | some r => do
    let w ← Java.get
    processNetworkReport A w.sessionNumber r
    broadcastNetworkReportIntent A

def sleepUntilNext (A : Android) (startTime : ℤ) : Java World Unit := do
  let endTime ← observe A Moment.now
  let w ← Java.get
  let timedif := if endTime - startTime > w.samplingRateInMs then 0 else endTime - startTime
  sleep (w.samplingRateInMs - timedif)

/-- The body of the loop; the result is the report that was sent to the handler. -/
def iteration (A : Android) (detectedActivities : Option (List DetectedActivity)) :
    Java World (Option Report) := do
  let startTime ← observe A Moment.now
  let report ← networkInfoToReport A
  let report ← attachActivities report detectedActivities
  publish A report
  sleepUntilNext A startTime
  return report

/-! The operations that work on this state, in any order. The dialog only accepts
digits for the sampling interval. -/

inductive Op where
  | device
  | start
  | iterate (detectedActivities : Option (List DetectedActivity))
  | row (r : Report)
  | connectType
  | setRate (millis : ℕ)

def Op.exec (A : Android) : Op → Java World Unit
  | .device => newDevice A
  | .start => seedTracing A
  | .iterate detectedActivities => iteration A detectedActivities >>= fun _ => pure ()
  | .row r => rowValues A r >>= fun _ => pure ()
  | .connectType => getConnectType A >>= fun _ => pure ()
  | .setRate millis => Java.modify fun w => { w with samplingRateInMs := millis }

def runOps (A : Android) (w : World) (ops : List Op) : World :=
  ops.foldl (fun w op => ((op.exec A).run w).2) w

/-! The invariant of the loop: with a connection type and a session that knows its
start, nothing but the platform can make the statements after the sample fail. -/

def SessionReady (s : SessionSummary) : Prop :=
  s.sessionStarted = true → s.prevLocation.isSome ∧ s.startTime.isSome

structure Ready (w : World) : Prop where
  connect_type : w.connect_type.isSome
  samplingRate : 0 ≤ w.samplingRateInMs
  session : ∀ s ∈ w.curSession, SessionReady s

theorem SampleStep.ready {w w' : World} (h : SampleStep w w') (hw : Ready w) : Ready w' where
  connect_type := h.connect_type_isSome hw.connect_type
  samplingRate := h.samplingRateInMs ▸ hw.samplingRate
  session := h.curSession ▸ hw.session

theorem keeps_ready_of_sampleStep {α : Type} {x : Java World α} (h : Java.Within SampleStep x) :
    Java.Keeps Ready x := Java.within_mono h fun _ _ => SampleStep.ready

theorem keeps_ready_of_deviceStep {α : Type} {x : Java World α} (h : Java.Within DeviceStep x) :
    Java.Keeps Ready x := keeps_ready_of_sampleStep (Java.within_mono h DeviceStep.sampleStep)

/-- A session that has counted a report. -/
structure Running (s : SessionSummary) : Prop where
  sessionStarted : s.sessionStarted = true
  prevLocation : s.prevLocation.isSome
  startTime : s.startTime.isSome
  currentNrStatus : s.currentNrStatus.isSome

structure Publishing (t₀ : ℕ) (w : World) : Prop where
  connect_type : w.connect_type.isSome
  samplingRate : 0 ≤ w.samplingRateInMs
  tick_le : t₀ ≤ w.tick
  session : ∃ s, w.curSession = some s ∧ Running s

/-- Where a call made since `t₀` threw. -/
structure PlatformFailed (A : Android) (t₀ : ℕ) (w : World) : Prop where
  ready : Ready w
  tick_lt : t₀ < w.tick
  throws : (A.moment (w.tick-1)).throws = true

theorem Publishing.ready {t₀ : ℕ} {w : World} (h : Publishing t₀ w) : Ready w := by
  refine ⟨h.connect_type, h.samplingRate, ?_⟩
  intro s hs _
  obtain ⟨s', hs', hr⟩ := h.session
  rw [hs'] at hs
  cases hs
  exact ⟨hr.prevLocation, hr.startTime⟩

section Publishing

variable {A : Android} {t₀ : ℕ} {α : Type}

theorem triple_deviceCall {x : Java World α} (hx : DeviceCall A x) :
    Java.Triple (Publishing t₀) x (fun _ => Publishing t₀) (PlatformFailed A t₀) := by
  intro w hw
  obtain ⟨hs, he⟩ := hx w
  generalize x.run w = o at hs he
  have hstep := DeviceStep.sampleStep _ _ hs
  rcases o with ⟨e | a, w'⟩
  · obtain ⟨hlt, ht⟩ := he hw.connect_type e rfl
    exact ⟨hstep.ready hw.ready, hw.tick_le.trans_lt hlt, ht⟩
  · exact ⟨hs.connect_type_isSome hw.connect_type, hstep.samplingRateInMs ▸ hw.samplingRate,
      hw.tick_le.trans hs.tick_le, hstep.curSession ▸ hw.session⟩

theorem triple_updateSession (f : SessionSummary → SessionSummary)
    (h : ∀ s, Running s → Running (f s)) :
    Java.Triple (Publishing t₀) (updateSession f) (fun _ => Publishing t₀) (PlatformFailed A t₀) :=
      by
  refine Java.triple_modify _ fun w hw => ⟨hw.connect_type, hw.samplingRate, hw.tick_le, ?_⟩
  obtain ⟨s, hs, hr⟩ := hw.session
  exact ⟨f s, by simp [hs], h s hr⟩

theorem triple_addDistance (s : SessionSummary) (r : Report) (hs : s.prevLocation.isSome)
    (hr : r.locationData.isSome) :
    Java.Triple (Publishing t₀) (addDistance A s r) (fun _ => Publishing t₀)
      (PlatformFailed A t₀) := by
  have hsome (l : Option Location) (hl : l.isSome) : Java.Triple (Publishing t₀) (Java.nonNull l)
      (fun _ => Publishing t₀) (PlatformFailed A t₀) :=
    Java.triple_nonNull l (fun _ _ => hl) fun _ _ h _ => h
  refine Java.triple_seq ?_ fun _ => ?_
  · exact triple_updateSession _ fun _ h => ⟨h.1, h.2, h.3, h.4⟩
  refine Java.triple_seq (hsome _ hs) fun _ => ?_
  refine Java.triple_seq (hsome _ hr) fun _ => ?_
  exact triple_updateSession _ fun _ h => ⟨h.1, rfl, h.3, h.4⟩

theorem triple_queryTechnology :
    Java.Triple (Publishing t₀) (queryTechnology A) (fun _ => Publishing t₀)
      (PlatformFailed A t₀) := by
  refine Java.triple_seq (triple_deviceCall deviceCall_getIs5GNSA) fun _ => ?_
  refine Java.triple_seq ?_ fun _ => ?_
  · exact triple_updateSession _ fun _ h => ⟨h.1, h.2, h.3, h.4⟩
  refine Java.triple_seq (triple_deviceCall deviceCall_getIs5GSA) fun _ => ?_
  refine Java.triple_seq ?_ fun _ => ?_
  · exact triple_updateSession _ fun _ h => ⟨h.1, h.2, h.3, h.4⟩
  refine Java.triple_seq (triple_deviceCall deviceCall_getAccessNetworkTech) fun _ => ?_
  refine Java.triple_seq ?_ fun _ => ?_
  · exact triple_updateSession _ fun _ h => ⟨h.1, h.2, h.3, h.4⟩
  refine Java.triple_seq (triple_deviceCall deviceCall_getNetworkType) fun _ => ?_
  exact triple_updateSession _ fun _ h => ⟨h.1, h.2, h.3, h.4⟩

/-- The summary is running once a located report has been counted. -/
theorem running_countReport (sessionId : String) (rate : ℤ) (r : Report) (s : SessionSummary)
    (hs : SessionReady s) (hr : r.locationData.isSome) :
    Running (countReport A sessionId rate r s) := by
  obtain ⟨h₁, h₂, h₃, h₄⟩ := countReport_fields A sessionId rate r s
  refine ⟨h₁, ?_, ?_, by rw [h₄]; rfl⟩
  · rw [h₃]
    split_ifs with h
    · exact (hs h).1
    · exact hr
  · rw [h₂]
    split_ifs with h
    · exact (hs h).2
    · rfl

theorem triple_processNetworkReport (sessionId : String) (r : Report) (hr : r.locationData.isSome) :
    Java.Triple (fun w => Ready w ∧ t₀ ≤ w.tick ∧ w.curSession.isSome)
      (processNetworkReport A sessionId r) (fun _ => Publishing t₀) (PlatformFailed A t₀) := by
  rintro w ⟨hw, ht, hs⟩
  obtain ⟨s, hs⟩ := Option.isSome_iff_exists.mp hs
  have hrun := running_countReport (A := A) sessionId w.samplingRateInMs r s (hw.session s hs) hr
  rw [processNetworkReport_run A sessionId r w s hs]
  exact Java.triple_seq (triple_addDistance _ r hrun.prevLocation hr)
    (fun _ => triple_queryTechnology) _ ⟨hw.connect_type, hw.samplingRate, ht, _, rfl, hrun⟩

theorem triple_broadcast : Java.Triple (Publishing t₀) (broadcastNetworkReportIntent A)
    (fun _ => Publishing t₀) (PlatformFailed A t₀) := by
  intro w hw
  obtain ⟨s, hs, hrun⟩ := hw.session
  obtain ⟨n, hn⟩ := Option.isSome_iff_exists.mp hrun.currentNrStatus
  obtain ⟨t, ht⟩ := Option.isSome_iff_exists.mp hrun.startTime
  have hrw : (broadcastNetworkReportIntent A).run w = (query A fun _ => ()).run w := by
    unfold broadcastNetworkReportIntent
    rw [Java.bind_ok _ _ w w w rfl, hs, Java.bind_ok _ _ w w s rfl, hn, Java.bind_ok _ _ w w n rfl,
      ht]
    rfl
  rw [hrw]
  exact triple_deviceCall (deviceCall_query _) w hw

end Publishing

/-! The activities: every type needs a slot of the ten-element array, and the list a first
element. -/

def Indexable (l : List DetectedActivity) : Prop := l ≠ [] ∧ ∀ a ∈ l, a.type.val < 10

theorem recordActivities_ok (l : List DetectedActivity) (h : ∀ a ∈ l, a.type.val < 10)
    (v : Vector (Option String) 10) (w : World) :
    ∃ v', (recordActivities l v).run w = (.ok v', w) := by
  induction l generalizing v with
  | nil => exact ⟨v, rfl⟩
  | cons a rest ih =>
    unfold recordActivities
    rw [dif_pos (h a List.mem_cons_self)]
    exact ih (fun b hb => h b (List.mem_cons_of_mem a hb)) _

theorem recordActivities_error (l : List DetectedActivity) (h : ¬∀ a ∈ l, a.type.val < 10)
    (v : Vector (Option String) 10) (w : World) :
    (recordActivities l v).run w = (.error .indexOutOfBounds, w) := by
  induction l generalizing v with
  | nil => simp at h
  | cons a rest ih =>
    unfold recordActivities
    by_cases ha : a.type.val < 10
    · rw [dif_pos ha]
      refine ih (fun hrest => h ?_) _
      intro b hb
      rcases List.mem_cons.mp hb with rfl | hb
      · exact ha
      · exact hrest b hb
    · rw [dif_neg ha]
      rfl

theorem setActivities_ok (r : Report) (l : List DetectedActivity) (h : Indexable l) (w : World) :
    ∃ r', (setActivities r l).run w = (.ok r', w) ∧ r'.locationData = r.locationData := by
  obtain ⟨v, hv⟩ := recordActivities_ok l h.2 r.activities w
  unfold setActivities
  rw [Java.bind_ok _ _ w w v hv]
  cases l with
  | nil => exact absurd rfl h.1
  | cons first rest => exact ⟨_, rfl, rfl⟩

theorem setActivities_error (r : Report) (l : List DetectedActivity) (h : ¬Indexable l)
    (w : World) : (setActivities r l).run w = (.error .indexOutOfBounds, w) := by
  unfold setActivities
  by_cases hall : ∀ a ∈ l, a.type.val < 10
  · obtain ⟨v, hv⟩ := recordActivities_ok l hall r.activities w
    have hl : l = [] := by
      by_contra hne
      exact h ⟨hne, hall⟩
    subst hl
    rw [Java.bind_ok _ _ w w v hv]
    rfl
  · exact Java.bind_error _ _ w w _ (recordActivities_error l hall r.activities w)

/-- The combinations of a sample and the latest activities that a round gets through. -/
def Tolerated (report : Option Report) (detectedActivities : Option (List DetectedActivity)) :
    Prop :=
  ∀ l ∈ detectedActivities, report.isSome ∧ Indexable l

theorem attachActivities_ok (report : Option Report) (acts : Option (List DetectedActivity))
    (h : Tolerated report acts) (w : World) :
    ∃ report', (attachActivities report acts).run w = (.ok report', w) ∧
      report'.map Report.locationData = report.map Report.locationData := by
  cases acts with
  | none => exact ⟨report, rfl, rfl⟩
  | some l =>
    obtain ⟨hr, hl⟩ := h l rfl
    obtain ⟨r, rfl⟩ := Option.isSome_iff_exists.mp hr
    obtain ⟨r', hr', hloc⟩ := setActivities_ok r l hl w
    refine ⟨some r', ?_, congrArg some hloc⟩
    unfold attachActivities
    rw [Java.bind_ok _ _ w w r rfl, Java.bind_ok _ _ w w r' hr']
    rfl

theorem attachActivities_error (report : Option Report) (acts : Option (List DetectedActivity))
    (h : ¬Tolerated report acts) (w : World) :
    ∃ e, (attachActivities report acts).run w = (.error e, w) := by
  cases acts with
  | none => exact absurd (fun l hl => by cases hl) h
  | some l =>
    cases report with
    | none => exact ⟨.nullPointer, rfl⟩
    | some r =>
      have hl : ¬Indexable l := fun hi => h fun l' hl' => by
        cases hl'
        exact ⟨rfl, hi⟩
      refine ⟨.indexOutOfBounds, ?_⟩
      unfold attachActivities
      rw [Java.bind_ok _ _ w w r rfl]
      exact Java.bind_error _ _ w w _ (setActivities_error r l hl w)

theorem attachActivities_state (report : Option Report) (acts : Option (List DetectedActivity))
    (w : World) : ((attachActivities report acts).run w).2 = w := by
  by_cases ht : Tolerated report acts
  · obtain ⟨report', h, -⟩ := attachActivities_ok report acts ht w
    rw [h]
  · obtain ⟨e, h⟩ := attachActivities_error report acts ht w
    rw [h]

/-! The rest of a round. -/

section Round

variable {A : Android} {t₀ : ℕ}

theorem triple_publish (report : Option Report) (h : ∀ r ∈ report, r.locationData.isSome) :
    Java.Triple (fun w => Ready w ∧ t₀ ≤ w.tick ∧ w.curSession.isSome) (publish A report)
      (fun _ => Ready) (PlatformFailed A t₀) := by
  cases report with
  | none => exact Java.triple_pure () fun _ hw => hw.1
  | some r =>
    refine Java.triple_bind (Q := fun _ w => Ready w ∧ t₀ ≤ w.tick ∧ w.curSession.isSome)
      (Java.triple_get fun _ hw => hw) fun w => ?_
    refine Java.triple_bind (triple_processNetworkReport w.sessionNumber r (h r rfl)) fun _ => ?_
    exact Java.triple_weaken triple_broadcast (fun _ hw => hw) fun _ _ hw => hw.ready

theorem sleepUntilNext_ok (startTime : ℤ) (w : World) (hw : Ready w) :
    (sleepUntilNext A startTime).run w = (.ok (), { w with tick := w.tick+1 }) := by
  have hrate := hw.samplingRate
  change (sleep (w.samplingRateInMs - if (A.moment w.tick).now - startTime > w.samplingRateInMs then
    0 else (A.moment w.tick).now - startTime)).run { w with tick := w.tick+1 } = _
  unfold sleep
  rw [if_neg]
  · rfl
  · split_ifs <;> omega

/-- The sample that a round starting in `w` takes. -/
def sampleFrom (A : Android) (w : World) : Except Throwable (Option Report) × World :=
  (networkInfoToReport A).run { w with tick := w.tick+1 }

theorem sampleFrom_ok (w : World) : ∃ report w₁, sampleFrom A w = (.ok report, w₁) ∧
    SampleStep w w₁ ∧ ∀ r ∈ report, r.locationData.isSome := by
  have hstep : SampleStep w (sampleFrom A w).2 :=
    IsTrans.trans _ _ _ (⟨rfl, rfl, rfl, Nat.le_succ _, id⟩ : SampleStep w
      { w with tick := w.tick+1 }) (within_networkInfoToReport A { w with tick := w.tick+1 })
  rcases h : sampleFrom A w with ⟨e | report, w₁⟩
  · unfold sampleFrom networkInfoToReport at h
    rw [Java.run_attempt] at h
    split at h <;> cases h
  · rw [h] at hstep
    refine ⟨report, w₁, rfl, hstep, ?_⟩
    intro r hr
    cases hr
    exact networkInfoToReport_located A _ w₁ r h

theorem iteration_run (acts : Option (List DetectedActivity)) (w w₁ : World)
    (report : Option Report) (h : sampleFrom A w = (.ok report, w₁)) :
    (iteration A acts).run w = (attachActivities report acts >>= fun report =>
      publish A report >>= fun _ => sleepUntilNext A (A.moment w.tick).now >>= fun _ =>
      pure report).run w₁ := by
  unfold iteration
  rw [Java.bind_ok _ _ w { w with tick := w.tick+1 } (A.moment w.tick).now rfl,
    Java.bind_ok _ _ _ w₁ report h]

/-- A round that is not tolerated ends the loop right after the sample. -/
theorem iteration_error (acts : Option (List DetectedActivity)) (w w₁ : World)
    (report : Option Report) (h : sampleFrom A w = (.ok report, w₁)) (ht : ¬Tolerated report acts) :
    ∃ e, (iteration A acts).run w = (.error e, w₁) := by
  obtain ⟨e, he⟩ := attachActivities_error report acts ht w₁
  exact ⟨e, by rw [iteration_run acts w w₁ report h, Java.bind_error _ _ w₁ w₁ e he]⟩

/-- A tolerated round completes unless a call made after the sample throws. -/
theorem iteration_tolerated (acts : Option (List DetectedActivity)) (w w₁ : World)
    (report : Option Report) (hw : Ready w) (hs : w.curSession.isSome)
    (h : sampleFrom A w = (.ok report, w₁)) (ht : Tolerated report acts) :
    Java.Triple (fun w' => w' = w) (iteration A acts) (fun _ => Ready) (PlatformFailed A w₁.tick) :=
      by
  intro w' he
  rw [he]
  obtain ⟨report₀, w₀, h₀, hstep, hloc⟩ := sampleFrom_ok (A := A) w
  rw [h] at h₀
  cases h₀
  obtain ⟨report', hr', hmap⟩ := attachActivities_ok report acts ht w₁
  have hloc' : ∀ r ∈ report', r.locationData.isSome := by
    intro r hr
    cases hr
    cases report with
    | none => cases hmap
    | some r₀ =>
      have he : r.locationData = r₀.locationData := Option.some.inj hmap
      rw [he]
      exact hloc r₀ rfl
  rw [iteration_run acts w w₁ report h, Java.bind_ok _ _ w₁ w₁ report' hr']
  refine Java.triple_bind (triple_publish report' hloc') (fun _ => ?_) w₁ ⟨hstep.ready hw, le_rfl,
    hstep.curSession ▸ hs⟩
  intro w₂ hw₂
  rw [Java.bind_ok _ _ w₂ _ () (sleepUntilNext_ok _ w₂ hw₂)]
  exact ⟨hw₂.connect_type, hw₂.samplingRate, hw₂.session⟩

theorem keeps_ready_iteration (acts : Option (List DetectedActivity)) :
    Java.Keeps Ready (iteration A acts) := by
  intro w hw
  obtain ⟨report, w₁, h, hstep, hloc⟩ := sampleFrom_ok (A := A) w
  by_cases ht : Tolerated report acts
  · cases hs : w.curSession with
    | some s =>
      have htri := iteration_tolerated acts w w₁ report hw (by rw [hs]; rfl) h ht w rfl
      generalize (iteration A acts).run w = o at htri
      rcases o with ⟨_ | _, w'⟩
      · exact htri.ready
      · exact htri
    | none =>
      obtain ⟨report', hr', -⟩ := attachActivities_ok report acts ht w₁
      have hw₁ := hstep.ready hw
      rw [iteration_run acts w w₁ report h, Java.bind_ok _ _ w₁ w₁ report' hr']
      cases report' with
      | none =>
        rw [Java.bind_ok _ _ w₁ w₁ () rfl, Java.bind_ok _ _ w₁ _ () (sleepUntilNext_ok _ w₁ hw₁)]
        exact ⟨hw₁.connect_type, hw₁.samplingRate, hw₁.session⟩
      | some r =>
        have hp : (publish A (some r)).run w₁ = (.error .nullPointer, w₁) := by
          have hn := processNetworkReport_null A w₁.sessionNumber r w₁ (hstep.curSession.trans hs)
          unfold publish
          rw [Java.bind_ok _ _ w₁ w₁ w₁ rfl, Java.bind_error _ _ w₁ w₁ _ hn]
        rw [Java.bind_error _ _ w₁ w₁ _ hp]
        exact hw₁
  · obtain ⟨e, he⟩ := iteration_error acts w w₁ report h ht
    rw [he]
    exact hstep.ready hw

theorem keeps_ready_seedWindows (n : ℕ) : Java.Keeps Ready (seedWindows A n) := by
  induction n with
  | zero => exact Java.within_pure _
  | succ n ih =>
    refine Java.within_bind (keeps_ready_of_deviceStep (deviceCall_observe (A := A) _).within)
      fun _ => ?_
    refine Java.within_bind ?_ fun _ => ih
    exact Java.within_modify _ fun _ hw => ⟨hw.1, hw.2, hw.3⟩

theorem keeps_ready_seedTracing : Java.Keeps Ready (seedTracing A) := by
  refine Java.within_bind (keeps_ready_of_deviceStep (deviceCall_observe (A := A) _).within)
    fun now => ?_
  refine Java.within_bind ?_ fun _ => ?_
  · refine Java.within_modify _ fun _ hw => ⟨hw.1, hw.2, ?_⟩
    intro s hs
    cases hs
    exact fun h => by cases h
  refine Java.within_bind (keeps_ready_of_deviceStep (deviceCall_observe (A := A) _).within)
    fun _ => ?_
  refine Java.within_bind (Java.within_nonNull _) fun _ => ?_
  refine Java.within_bind ?_ fun _ => keeps_ready_seedWindows _
  exact Java.within_modify _ fun _ hw => ⟨hw.1, hw.2, hw.3⟩

theorem within_newDevice : Java.Within SampleStep (newDevice A) := by
  have hdev {α : Type} {x : Java World α} (hx : DeviceCall A x) : Java.Within SampleStep x :=
    Java.within_mono hx.within DeviceStep.sampleStep
  refine Java.within_bind (hdev (deviceCall_query _)) fun _ => ?_
  refine Java.within_bind ?_ fun _ => ?_
  · exact Java.within_modify _ fun _ => ⟨rfl, rfl, rfl, le_rfl, id⟩
  refine Java.within_bind (hdev deviceCall_getNetworkType) fun _ => ?_
  exact Java.within_bind (hdev deviceCall_getNetworkService) fun _ => Java.within_pure _

theorem keeps_ready_exec (op : Op) : Java.Keeps Ready (op.exec A) := by
  cases op with
  | device => exact keeps_ready_of_sampleStep within_newDevice
  | start => exact keeps_ready_seedTracing
  | iterate acts => exact Java.within_bind (keeps_ready_iteration acts) fun _ => Java.within_pure _
  | row r =>
    exact Java.within_bind (keeps_ready_of_deviceStep (within_rowValues r)) fun _ =>
      Java.within_pure _
  | connectType =>
    exact Java.within_bind (keeps_ready_of_deviceStep deviceCall_getConnectType.within) fun _ =>
      Java.within_pure _
  | setRate millis => exact Java.within_modify _ fun _ hw => ⟨hw.1, Int.natCast_nonneg _, hw.3⟩

theorem ready_runOps (ops : List Op) (w : World) (hw : Ready w) : Ready (runOps A w ops) := by
  induction ops generalizing w with
  | nil => exact hw
  | cons op rest ih => exact ih _ (keeps_ready_exec op w hw)

end Round

/-! Reachable states: the service constructs its `Device` first. -/

/-- A service that was created has read a connection type. -/
theorem ready_newDevice (A : Android) (w : World) (h : (newDevice A).run {} = (.ok (), w)) :
    Ready w := by
  have hstep := within_newDevice (A := A) {}
  rw [h] at hstep
  have hconn : w.connect_type.isSome := by
    obtain ⟨carrier, w₁, -, h₁⟩ := Java.bind_eq_ok _ _ _ _ _ h
    obtain ⟨u, w₂, -, h₂⟩ := Java.bind_eq_ok _ _ _ _ _ h₁
    obtain ⟨t, w₃, -, h₃⟩ := Java.bind_eq_ok _ _ _ _ _ h₂
    obtain ⟨s, w₄, hs, h₄⟩ := Java.bind_eq_ok _ _ _ _ _ h₃
    cases h₄
    exact getNetworkService_isSome w₃ w s hs
  refine ⟨hconn, ?_, ?_⟩
  · rw [hstep.samplingRateInMs]
    decide
  · rw [hstep.curSession]
    exact fun s hs => by cases hs

/-- The platform answers every call a round makes after its sample. -/
def AnswersAfterSample (A : Android) (w : World) (acts : Option (List DetectedActivity)) : Prop :=
  ∀ n, (sampleFrom A w).2.tick ≤ n → n < ((iteration A acts).run w).2.tick →
    (A.moment n).throws = false

/-- What the loop wants of a round: it completes, and when the sample failed it
sends nothing and leaves the session as it was. -/
def RoundSurvives (A : Android) (w : World) (acts : Option (List DetectedActivity)) : Prop :=
  ∃ sent w', (iteration A acts).run w = (.ok sent, w') ∧
    ((sampleFrom A w).1 = .ok none → sent = none ∧ w'.curSession = w.curSession)

theorem roundSurvives_of_tolerated (A : Android) (w w₁ : World) (report : Option Report)
    (acts : Option (List DetectedActivity)) (hw : Ready w) (hs : w.curSession.isSome)
    (h : sampleFrom A w = (.ok report, w₁)) (ht : Tolerated report acts)
    (hq : AnswersAfterSample A w acts) : RoundSurvives A w acts := by
  have htri := iteration_tolerated acts w w₁ report hw hs h ht w rfl
  unfold AnswersAfterSample at hq
  rw [h] at hq
  rcases hi : (iteration A acts).run w with ⟨e | sent, w'⟩ <;> rw [hi] at htri hq
  · have hfail : PlatformFailed A w₁.tick w' := htri
    have hlt := hfail.tick_lt
    have hle : w₁.tick ≤ w'.tick-1 := by omega
    have hans := hq (w'.tick-1) hle (Nat.sub_lt (by omega) Nat.one_pos)
    rw [hfail.throws] at hans
    cases hans
  · refine ⟨sent, w', hi, ?_⟩
    intro hnone
    rw [h] at hnone
    cases hnone
    have hacts : acts = none := by
      cases acts with
      | none => rfl
      | some l => exact absurd (ht l rfl).1 (by simp)
    subst hacts
    obtain ⟨_, w₀, h₀, hstep, -⟩ := sampleFrom_ok (A := A) w
    rw [h] at h₀
    cases h₀
    have hw₁ := hstep.ready hw
    rw [iteration_run none w w₁ none h, Java.bind_ok _ _ w₁ w₁ none rfl,
      Java.bind_ok _ _ w₁ w₁ () rfl, Java.bind_ok _ _ w₁ _ () (sleepUntilNext_ok _ w₁ hw₁)] at hi
    cases hi
    exact ⟨rfl, hstep.curSession⟩

/-- In every reachable state of a service with a session, a round of the sampling
loop survives exactly the tolerated combinations of its sample and the activities. -/
theorem round_survives_iff_tolerated (A : Android) (w₀ : World) (ops : List Op)
    (acts : Option (List DetectedActivity)) (hdev : (newDevice A).run {} = (.ok (), w₀))
    (hs : (runOps A w₀ ops).curSession.isSome) (hq : AnswersAfterSample A (runOps A w₀ ops) acts) :
    RoundSurvives A (runOps A w₀ ops) acts ↔
      ∀ report, (sampleFrom A (runOps A w₀ ops)).1 = .ok report → Tolerated report acts := by
  have hw := ready_runOps (A := A) ops w₀ (ready_newDevice A w₀ hdev)
  generalize runOps A w₀ ops = w at hw hs hq
  obtain ⟨report, w₁, h, -, -⟩ := sampleFrom_ok (A := A) w
  constructor
  · rintro ⟨sent, w', hi, -⟩ report' hr'
    rw [h] at hr'
    cases hr'
    by_contra ht
    obtain ⟨e, he⟩ := iteration_error acts w w₁ report h ht
    rw [he] at hi
    cases hi
  · intro ht
    exact roundSurvives_of_tolerated A w w₁ report acts hw hs h (ht report (by rw [h])) hq

/-- Standing still, as Play Services reports it. -/
def still : List DetectedActivity := [⟨3, 100⟩]

theorem round_survives_standing_still : ∃ w₀, (newDevice ltePhone).run {} = (.ok (), w₀) ∧
    RoundSurvives ltePhone (runOps ltePhone w₀ [.start]) (some still) := by
  refine ⟨_, rfl,
    (round_survives_iff_tolerated ltePhone _ [.start] (some still) rfl rfl fun _ _ _ => rfl).mpr ?_⟩
  intro report hr l hl
  cases hl
  cases hr
  exact ⟨rfl, by decide, by decide⟩

/-- A phone whose cell list is missing, so that every sample fails. -/
def cellessPhone : Android := steady { lteMoment 7 with cellInfo := none }

/-- One broadcast of activities before a failed sample ends the loop. -/
theorem round_dies_on_failed_sample : ∃ w₀ w₁ w₂,
    (newDevice cellessPhone).run {} = (.ok (), w₀) ∧
    (seedTracing cellessPhone).run w₀ = (.ok (), w₁) ∧
    (iteration cellessPhone (some still)).run w₁ = (.error .nullPointer, w₂) ∧
    ¬RoundSurvives cellessPhone w₁ (some still) := by
  refine ⟨_, _, _, rfl, rfl, rfl, ?_⟩
  rintro ⟨sent, w', hi, -⟩
  cases hi

end MmWaveTracker
