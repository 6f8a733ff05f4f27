import MmWaveTracker.HandoffChain
import Mathlib.Algebra.Order.BigOperators.Group.List

/-! The loop of the sampling thread against the clock: the time in 5G that its reports add up
to, and the time that has passed. -/
namespace MmWaveTracker

/-- A round of the loop: what comes out of `NetworkInfoToReport` and `setActivities`, in which
state, and the milliseconds from `startTime` to `endTime`. -/
structure TimedSample where
  android : Android
  world : World
  outcome : Except Throwable (Option Report)
  work : ℕ

/-- The report, if there is one, has NR status CONNECTED. -/
def TimedSample.Connected (x : TimedSample) : Prop :=
  ∀ r, x.outcome = .ok (some r) → r.nrStatus = nrConnectedKeyword

/-- The clock and the summary at the end of the work of a round. -/
structure TimeReading where
  endTime : ℤ
  nSecondsIn5G : ℚ

structure TimedLoop where
  clock : ℤ
  session : SessionSummary
  threadActive : Bool := true
  readings : List TimeReading := []

/-- The argument of `sleep`: what the work has left of the sampling interval, or all of it when
the work took longer. -/
def sleepMillis (samplingRateInMs startTime endTime : ℤ) : ℤ :=
  samplingRateInMs - if endTime-startTime > samplingRateInMs then 0 else endTime-startTime

/-- The world that the report of a round is published in. -/
def TimedSample.around (x : TimedSample) (samplingRateInMs : ℤ) (session : SessionSummary) :
    World :=
  { x.world with samplingRateInMs, curSession := some session }

/-- A round of the loop in which `sleep(d)` lasts exactly `d`. An exception ends the thread. -/
def timedRound (samplingRateInMs : ℤ) (l : TimedLoop) (x : TimedSample) : TimedLoop :=
  if l.threadActive then
    match x.outcome with
    | .error _ => { l with threadActive := false }
    | .ok report =>
      match (publish x.android report).run (x.around samplingRateInMs l.session) with
      | (.error _, w) => { l with session := w.curSession.getD l.session, threadActive := false }
      | (.ok _, w) =>
        let startTime := l.clock
        let endTime := startTime + x.work
        let session := w.curSession.getD l.session
        { l with
          clock := endTime + sleepMillis samplingRateInMs startTime endTime
          session
          readings := l.readings ++ [⟨endTime, session.nSecondsIn5G⟩] }
  else l

/-- A new session, from the beginning of its first sample. -/
def timedRun (samplingRateInMs beginTime : ℤ) (sessionNumber : String) (xs : List TimedSample) :
    TimedLoop :=
  xs.foldl (timedRound samplingRateInMs)
    { clock := beginTime, session := { sessionId := sessionNumber } }

/-- The longest working time of some samples. -/
def longestWork (xs : List TimedSample) : ℕ := xs.foldr (fun x n => max x.work n) 0

/-- After each sample the time in 5G, in seconds, is within one interval and the longest working
time so far of the time that has passed. -/
def TracksRealTime (samplingRateInMs beginTime : ℤ) (sessionNumber : String)
    (xs : List TimedSample) : Prop :=
  ∀ (k : ℕ) reading, (timedRun samplingRateInMs beginTime sessionNumber xs).readings[k]? =
    some reading → |reading.nSecondsIn5G - ((reading.endTime-beginTime : ℤ) : ℚ)/1000| ≤
      ((samplingRateInMs + longestWork (xs.take (k+1)) : ℤ) : ℚ)/1000

/-- The working time of the samples that took longer than the interval. -/
def slowWork (samplingRateInMs : ℤ) (xs : List TimedSample) : ℤ :=
  (xs.map fun x => if (x.work : ℤ) > samplingRateInMs then (x.work : ℤ) else 0).sum

def TimedSample.hasReport (x : TimedSample) : Bool :=
  match x.outcome with
  | .ok (some _) => true
  | _ => false

/-- The samples without a report. -/
def failedSamples (xs : List TimedSample) : ℕ := xs.countP fun x => !x.hasReport

/-- Up to the sample `x`, the time that no report stands for. -/
def lostTime (samplingRateInMs : ℤ) (before : List TimedSample) (x : TimedSample) : ℤ :=
  samplingRateInMs*failedSamples (before ++ [x]) + slowWork samplingRateInMs before + x.work

/-- No sample that the loop completes finds more than two intervals and the longest working time
lost. -/
def LittleLost (samplingRateInMs : ℤ) (xs : List TimedSample) (completed : ℕ) : Prop :=
  ∀ k x, k < completed → xs[k]? = some x →
    lostTime samplingRateInMs (xs.take k) x ≤ 2*samplingRateInMs + longestWork (xs.take (k+1))

/-! The loop of the service. -/

/-- The round that starts in `w`. -/
def TimedSample.ofRound (A : Android) (acts : Option (List DetectedActivity)) (w : World)
    (work : ℕ) : TimedSample where
  android := A
  world := (sampleFrom A w).2
  outcome := ((networkInfoToReport A >>= fun report => attachActivities report acts).run
    { w with tick := w.tick+1 }).1
  work

theorem sleepUntilNext_eq (A : Android) (startTime : ℤ) : sleepUntilNext A startTime =
    observe A Moment.now >>= fun endTime => Java.get >>= fun w =>
      sleep (sleepMillis w.samplingRateInMs startTime endTime) := rfl

/-- A round of the service leaves the summary of the timed round. -/
theorem session_iteration (A : Android) (acts : Option (List DetectedActivity)) (w : World)
    (s : SessionSummary) (work : ℕ) (hs : w.curSession = some s) :
    ((iteration A acts).run w).2.curSession.getD s =
      (timedRound w.samplingRateInMs { clock := (A.moment w.tick).now, session := s }
        (TimedSample.ofRound A acts w work)).session := by
  obtain ⟨report, w₁, hsample, hstep, -⟩ := sampleFrom_ok (A := A) w
  have houtcome : (TimedSample.ofRound A acts w work).outcome =
      ((attachActivities report acts).run w₁).1 := by
    change ((networkInfoToReport A >>= fun report => attachActivities report acts).run
      { w with tick := w.tick+1 }).1 = _
    rw [Java.bind_ok _ _ _ w₁ report hsample]
  have haround : (TimedSample.ofRound A acts w work).around w.samplingRateInMs s = w₁ := by
    unfold TimedSample.around TimedSample.ofRound
    rw [hsample, ← hs, ← hstep.curSession, ← hstep.samplingRateInMs]
  have hstate := attachActivities_state report acts w₁
  rw [iteration_run acts w w₁ report hsample, timedRound, if_pos rfl, houtcome]
  rcases hattach : (attachActivities report acts).run w₁ with ⟨e | report', w₂⟩ <;>
    rw [hattach] at hstate <;> subst hstate
  · rw [Java.bind_error _ _ _ _ e hattach, hstep.curSession, hs]
    rfl
  · rw [Java.bind_ok _ _ _ _ report' hattach]
    rcases hrun : (publish A report').run w₂ with ⟨e | _, w₃⟩
    · have hpublish : (publish (TimedSample.ofRound A acts w work).android report').run
          ((TimedSample.ofRound A acts w work).around w.samplingRateInMs s) = (.error e, w₃) := by
            rw [haround]; exact hrun
      rw [Java.bind_error _ _ _ _ e hrun]
      simp only [hpublish]
    · have hpublish : (publish (TimedSample.ofRound A acts w work).android report').run
          ((TimedSample.ofRound A acts w work).around w.samplingRateInMs s) = (.ok (), w₃) := by
            rw [haround]; exact hrun
      have htail : Java.Leaves World.curSession
          (sleepUntilNext A (A.moment w.tick).now >>= fun _ => pure report') :=
        Java.within_bind (leaves_sleepUntilNext (fun _ _ _ _ _ _ => rfl) _) fun _ =>
          Java.within_pure _
      rw [Java.bind_ok _ _ _ _ () hrun]
      simp only [hpublish]
      rw [htail w₃]

/-! What a round does to the time in 5G. -/

theorem countReport_nSecondsIn5G (A : Android) (sessionId : String) (rate : ℤ) (r : Report)
    (s : SessionSummary) (hr : r.nrStatus = nrConnectedKeyword) :
    (countReport A sessionId rate r s).nSecondsIn5G = s.nSecondsIn5G + (rate:ℚ)/1000 := by
  have hstart : (startSession s sessionId (A.sampleDateFormat r.timeStamp) r).nSecondsIn5G =
      s.nSecondsIn5G := by
    unfold startSession
    split_ifs <;> rfl
  rw [countReport, countTimeIn5G, if_pos hr, ← hstart]
  rfl

theorem publish_nSecondsIn5G (A : Android) (r : Report) (w : World) (s : SessionSummary)
    (hs : w.curSession = some s) (hr : r.nrStatus = nrConnectedKeyword) :
    ((publish A (some r)).run w).2.curSession.map SessionSummary.nSecondsIn5G =
      some (s.nSecondsIn5G + (w.samplingRateInMs : ℚ)/1000) := by
  let seconds (w : World) : Option ℚ := w.curSession.map SessionSummary.nSecondsIn5G
  have hbroadcast : Java.Leaves seconds (broadcastNetworkReportIntent A) :=
    leaves_broadcast fun _ _ _ _ _ _ => rfl
  have hbooks := leaves_bookkeeping SessionSummary.nSecondsIn5G (fun f hf s => by rw [hf s]) A
    (countReport A w.sessionNumber w.samplingRateInMs r s) r
  have hcount : seconds ((processNetworkReport A w.sessionNumber r).run w).2 =
      some (s.nSecondsIn5G + (w.samplingRateInMs : ℚ)/1000) := by
    rw [processNetworkReport_run A w.sessionNumber r w s hs,
      ← countReport_nSecondsIn5G A w.sessionNumber _ r s hr]
    exact hbooks _
  unfold publish
  rw [Java.bind_ok _ _ w w w rfl, Java.run_bind, ← hcount]
  rcases (processNetworkReport A w.sessionNumber r).run w with ⟨e | _, w'⟩
  · rfl
  · exact hbroadcast w'

/-- A round of a loop that is running. -/
inductive RoundCases (rate : ℤ) (l : TimedLoop) (x : TimedSample) (l' : TimedLoop) : Prop where
  | ended (inactive : l'.threadActive = false) (readings : l'.readings = l.readings)
  | completed (active : l'.threadActive = true)
      (clock : l'.clock = l.clock + x.work + sleepMillis rate l.clock (l.clock + x.work))
      (seconds : l'.session.nSecondsIn5G = l.session.nSecondsIn5G + if x.hasReport then
        (rate:ℚ)/1000 else 0)
      (readings : l'.readings = l.readings ++ [⟨l.clock + x.work, l'.session.nSecondsIn5G⟩])

theorem nSecondsIn5G_publish (rate : ℤ) (x : TimedSample) (session : SessionSummary)
    (hx : x.Connected) (report : Option Report) (houtcome : x.outcome = .ok report) :
    (((publish x.android report).run (x.around rate session)).2.curSession.getD
      session).nSecondsIn5G = session.nSecondsIn5G + if x.hasReport then (rate:ℚ)/1000 else 0 := by
  cases report with
  | none =>
    have hnone : x.hasReport = false := by simp [TimedSample.hasReport, houtcome]
    rw [hnone, if_neg Bool.false_ne_true, add_zero]
    rfl
  | some r =>
    have hsome : x.hasReport = true := by simp [TimedSample.hasReport, houtcome]
    have hseconds := publish_nSecondsIn5G x.android r (x.around rate session) session rfl
      (hx r houtcome)
    obtain ⟨s', hs', heq⟩ := Option.map_eq_some_iff.mp hseconds
    rw [hs', hsome, if_pos rfl]
    exact heq

theorem timedRound_cases (rate : ℤ) (l : TimedLoop) (x : TimedSample) (hx : x.Connected)
    (hactive : l.threadActive = true) : RoundCases rate l x (timedRound rate l x) := by
  rw [timedRound, if_pos hactive]
  cases houtcome : x.outcome with
  | error e => exact .ended rfl rfl
  | ok report =>
    have hseconds := nSecondsIn5G_publish rate x l.session hx report houtcome
    rcases hrun : (publish x.android report).run (x.around rate l.session) with ⟨e | _, w⟩ <;>
      rw [hrun] at hseconds
    · simp only [hrun]
      exact .ended rfl rfl
    · simp only [hrun]
      exact .completed hactive rfl hseconds rfl

/-! The run. -/

/-- From the beginning of one sample to that of the next. -/
def period (rate : ℤ) (x : TimedSample) : ℤ :=
  rate + if (x.work : ℤ) > rate then (x.work : ℤ) else 0

theorem period_eq (rate clock : ℤ) (x : TimedSample) :
    clock + x.work + sleepMillis rate clock (clock + x.work) = clock + period rate x := by
  unfold sleepMillis period
  rw [add_sub_cancel_left]
  split_ifs <;> omega

theorem sum_period (rate : ℤ) (xs : List TimedSample) :
    (xs.map (period rate)).sum = rate*xs.length + slowWork rate xs := by
  induction xs with
  | nil => simp [slowWork]
  | cons x xs ih =>
    have hslow : slowWork rate (x :: xs) = (if (x.work : ℤ) > rate then (x.work : ℤ) else 0) +
        slowWork rate xs :=
      List.sum_cons
    rw [List.map_cons, List.sum_cons, ih, hslow, List.length_cons, period]
    push_cast
    ring

/-- The time in 5G that the reports of some samples add up to. -/
def countedSeconds (rate : ℤ) (xs : List TimedSample) : ℚ :=
  (xs.countP TimedSample.hasReport : ℚ)*((rate:ℚ)/1000)

/-- The reading after the sample `k`. -/
structure ReadingAfter (rate beginTime : ℤ) (xs : List TimedSample) (k : ℕ) (x : TimedSample)
    (reading : TimeReading) : Prop where
  sample : xs[k]? = some x
  endTime : reading.endTime = beginTime + ((xs.take k).map (period rate)).sum + x.work
  seconds : reading.nSecondsIn5G = countedSeconds rate (xs.take (k+1))

theorem ReadingAfter.append {rate beginTime : ℤ} {xs : List TimedSample} {k : ℕ} {x : TimedSample}
    {reading : TimeReading} (h : ReadingAfter rate beginTime xs k x reading) (y : TimedSample) :
    ReadingAfter rate beginTime (xs ++ [y]) k x reading := by
  have hk : k < xs.length := (List.getElem?_eq_some_iff.mp h.sample).1
  refine ⟨?_, ?_, ?_⟩
  · rw [List.getElem?_append_left hk]
    exact h.sample
  · rw [List.take_append_of_le_length hk.le]
    exact h.endTime
  · rw [List.take_append_of_le_length hk]
    exact h.seconds

/-- The loop after some samples: where it stands while it runs, and what it has read. -/
structure LoopAfter (rate beginTime : ℤ) (xs : List TimedSample) (l : TimedLoop) : Prop where
  running : l.threadActive = true → l.readings.length = xs.length ∧
    l.clock = beginTime + (xs.map (period rate)).sum ∧
      l.session.nSecondsIn5G = countedSeconds rate xs
  readings : ∀ (k : ℕ) reading, l.readings[k]? = some reading →
    ∃ x, ReadingAfter rate beginTime xs k x reading

theorem countedSeconds_concat (rate : ℤ) (xs : List TimedSample) (x : TimedSample) :
    countedSeconds rate (xs ++ [x]) = countedSeconds rate xs + if x.hasReport then (rate:ℚ)/1000
      else 0 := by
  rw [countedSeconds, countedSeconds, List.countP_append, List.countP_singleton]
  cases x.hasReport with
  | false => simp
  | true =>
    simp only [if_true]
    push_cast
    ring

theorem loopAfter_round (rate beginTime : ℤ) (xs : List TimedSample) (l : TimedLoop)
    (x : TimedSample) (hx : x.Connected) (h : LoopAfter rate beginTime xs l) :
    LoopAfter rate beginTime (xs ++ [x]) (timedRound rate l x) := by
  have hold (k : ℕ) (reading : TimeReading) (hk : l.readings[k]? = some reading) :
      ∃ y, ReadingAfter rate beginTime (xs ++ [x]) k y reading := by
    obtain ⟨y, hy⟩ := h.readings k reading hk
    exact ⟨y, hy.append x⟩
  cases hactive : l.threadActive with
  | false =>
    have hround : timedRound rate l x = l := by rw [timedRound, hactive, if_neg Bool.false_ne_true]
    rw [hround]
    exact ⟨fun hrun => absurd (hactive.symm.trans hrun) Bool.false_ne_true, hold⟩
  | true =>
    obtain ⟨hlen, hclock, hsec⟩ := h.running hactive
    rcases timedRound_cases rate l x hx hactive with
      ⟨hinactive, hreadings⟩ | ⟨-, hclock', hseconds', hreadings⟩
    · refine ⟨fun hrun => absurd (hinactive.symm.trans hrun) Bool.false_ne_true, ?_⟩
      rw [hreadings]
      exact hold
    · have hcounted : (timedRound rate l x).session.nSecondsIn5G =
          countedSeconds rate (xs ++ [x]) := by
        rw [hseconds', hsec, countedSeconds_concat]
      refine ⟨fun _ => ⟨?_, ?_, hcounted⟩, ?_⟩
      · rw [hreadings, List.length_append, List.length_append, hlen]
        rfl
      · rw [hclock', period_eq, hclock, List.map_append, List.sum_append, List.map_singleton,
          List.sum_singleton, add_assoc]
      · intro k reading hk
        rw [hreadings] at hk
        rcases lt_or_ge k l.readings.length with hlt | hge
        · rw [List.getElem?_append_left hlt] at hk
          exact hold k reading hk
        · have hlast : k = xs.length := by
            have hbound := (List.getElem?_eq_some_iff.mp hk).1
            rw [List.length_append, List.length_singleton] at hbound
            omega
          rw [hlast, ← hlen, List.getElem?_concat_length] at hk
          cases hk
          subst hlast
          refine ⟨x, List.getElem?_concat_length .., ?_, ?_⟩
          · rw [List.take_left, ← hclock]
          · rw [hcounted, List.take_of_length_le (by simp)]

theorem loopAfter_timedRun (rate beginTime : ℤ) (sessionNumber : String) (xs : List TimedSample)
    (hxs : ∀ x ∈ xs, x.Connected) :
    LoopAfter rate beginTime xs (timedRun rate beginTime sessionNumber xs) := by
  induction xs using List.reverseRecOn with
  | nil => exact ⟨fun _ => ⟨rfl, by simp [timedRun], by simp [timedRun, countedSeconds]⟩,
      fun k reading hk => by cases hk⟩
  | append_singleton xs x ih =>
    rw [timedRun, List.foldl_concat]
    exact loopAfter_round rate beginTime xs _ x (hxs x (by simp))
      (ih fun y hy => hxs y (by simp [hy]))

/-! What is lost. -/

theorem slowWork_nonneg (rate : ℤ) (xs : List TimedSample) : 0 ≤ slowWork rate xs := by
  apply List.sum_nonneg
  intro n hn
  obtain ⟨x, -, rfl⟩ := List.mem_map.mp hn
  split_ifs <;> omega

theorem countP_add_failedSamples (xs : List TimedSample) :
    (xs.countP TimedSample.hasReport : ℤ) + failedSamples xs = xs.length := by
  have hlen := List.length_eq_countP_add_countP (l := xs) TimedSample.hasReport
  have hnot : failedSamples xs = xs.countP fun x => ¬ x.hasReport = true := by
    unfold failedSamples
    congr 1
    funext x
    cases x.hasReport <;> rfl
  omega

/-- The time that has passed is the time counted, the time lost, and less one interval. -/
theorem ReadingAfter.elapsed {rate beginTime : ℤ} {xs : List TimedSample} {k : ℕ} {x : TimedSample}
    {reading : TimeReading} (h : ReadingAfter rate beginTime xs k x reading) :
    reading.nSecondsIn5G - ((reading.endTime-beginTime : ℤ) : ℚ)/1000 =
      ((rate - lostTime rate (xs.take k) x : ℤ) : ℚ)/1000 := by
  obtain ⟨hk, hget⟩ := List.getElem?_eq_some_iff.mp h.sample
  have htake : xs.take (k+1) = xs.take k ++ [x] := by rw [← hget, List.take_append_getElem hk]
  have hlen : (xs.take k ++ [x]).length = k+1 := by
    rw [List.length_append, List.length_take_of_le hk.le, List.length_singleton]
  have hcount := countP_add_failedSamples (xs.take k ++ [x])
  have helapsed : reading.endTime - beginTime = rate*k + slowWork rate (xs.take k) + x.work := by
    rw [h.endTime, sum_period, List.length_take_of_le hk.le]
    ring
  have hcounted : ((xs.take k ++ [x]).countP TimedSample.hasReport : ℚ) =
      k + 1 - failedSamples (xs.take k ++ [x]) := by
    rw [hlen] at hcount
    have hint : ((xs.take k ++ [x]).countP TimedSample.hasReport : ℤ) =
        k + 1 - failedSamples (xs.take k ++ [x]) := by
      push_cast at hcount
      omega
    exact_mod_cast hint
  rw [h.seconds, htake, countedSeconds, hcounted, helapsed, lostTime]
  push_cast
  ring

theorem ReadingAfter.tracks_iff {rate beginTime : ℤ} {xs : List TimedSample} {k : ℕ}
    {x : TimedSample} {reading : TimeReading} (h : ReadingAfter rate beginTime xs k x reading)
    (hrate : 0 < rate) :
    |reading.nSecondsIn5G - ((reading.endTime-beginTime : ℤ) : ℚ)/1000| ≤
        ((rate + longestWork (xs.take (k+1)) : ℤ) : ℚ)/1000 ↔
      lostTime rate (xs.take k) x ≤ 2*rate + longestWork (xs.take (k+1)) := by
  have hlost : 0 ≤ lostTime rate (xs.take k) x := by
    have hslow := slowWork_nonneg rate (xs.take k)
    have hfailed : 0 ≤ rate*failedSamples (xs.take k ++ [x]) := mul_nonneg hrate.le (by omega)
    unfold lostTime
    omega
  have hthousand : |((1000:ℚ))| = 1000 := abs_of_pos (by norm_num)
  rw [h.elapsed, abs_div, hthousand, div_le_div_iff_of_pos_right (by norm_num)]
  have hint : |((rate - lostTime rate (xs.take k) x : ℤ) : ℚ)| ≤
      ((rate + longestWork (xs.take (k+1)) : ℤ) : ℚ) ↔
      |rate - lostTime rate (xs.take k) x| ≤ rate + longestWork (xs.take (k+1)) := by
    rw [← Int.cast_abs, Int.cast_le]
  rw [hint, abs_le]
  omega

/-- The time in 5G tracks the clock exactly as long as little time is lost: the intervals of failed
samples, and the whole of the samples that took longer than an interval. -/
theorem time_in_5G_iff (samplingRateInMs beginTime : ℤ) (sessionNumber : String)
    (xs : List TimedSample) (hrate : 0 < samplingRateInMs) (hconnected : ∀ x ∈ xs, x.Connected) :
    TracksRealTime samplingRateInMs beginTime sessionNumber xs ↔
      LittleLost samplingRateInMs xs
        (timedRun samplingRateInMs beginTime sessionNumber xs).readings.length := by
  have hloop := loopAfter_timedRun samplingRateInMs beginTime sessionNumber xs hconnected
  constructor
  · intro h k x hk hx
    have hreading := List.getElem?_eq_getElem hk
    obtain ⟨y, hy⟩ := hloop.readings k _ hreading
    have hxy : y = x := Option.some.inj (hy.sample.symm.trans hx)
    subst hxy
    exact (hy.tracks_iff hrate).mp (h k _ hreading)
  · intro h k reading hk
    obtain ⟨x, hx⟩ := hloop.readings k reading hk
    exact (hx.tracks_iff hrate).mpr (h k x (List.getElem?_eq_some_iff.mp hk).1 hx.sample)

/-- A sample on the LTE phone with a report that says CONNECTED. -/
def connectedSample (work : ℕ) : TimedSample where
  android := ltePhone
  world := {}
  outcome := .ok (some { nrStatus := nrConnectedKeyword, locationData := some origin })
  work

theorem connectedSample_connected (work : ℕ) : (connectedSample work).Connected := by
  intro r hr
  cases hr
  rfl

theorem time_in_5G_quick :
    (timedRun 1000 0 "0" [connectedSample 10, connectedSample 10]).readings.length = 2 ∧
    TracksRealTime 1000 0 "0" [connectedSample 10, connectedSample 10] := by
  have hlength : (timedRun 1000 0 "0" [connectedSample 10, connectedSample 10]).readings.length =
      2 := by decide +kernel
  refine ⟨hlength, (time_in_5G_iff 1000 0 "0" _ (by decide) ?_).mpr ?_⟩
  · intro x hx
    simp only [List.mem_cons, List.not_mem_nil, or_false, or_self] at hx
    rw [hx]
    exact connectedSample_connected 10
  · rw [hlength]
    intro k x hk hx
    obtain rfl | rfl : k = 0 ∨ k = 1 := by omega
    · cases hx
      decide
    · cases hx
      decide

/-- Three samples of a second and a half each: after six and a half seconds three are counted. -/
theorem time_in_5G_fails :
    (∀ x ∈ List.replicate 3 (connectedSample 1500), x.Connected) ∧
    (timedRun 1000 0 "0" (List.replicate 3 (connectedSample 1500))).readings[2]?.map
      (fun reading => (reading.endTime, reading.nSecondsIn5G)) = some (6500, 3) ∧
    ¬ TracksRealTime 1000 0 "0" (List.replicate 3 (connectedSample 1500)) := by
  have hreading : (timedRun 1000 0 "0" (List.replicate 3 (connectedSample 1500))).readings[2]?.map
      (fun reading => (reading.endTime, reading.nSecondsIn5G)) = some (6500, 3) := by decide +kernel
  refine ⟨?_, hreading, ?_⟩
  · intro x hx
    rw [List.eq_of_mem_replicate hx]
    exact connectedSample_connected 1500
  · intro h
    obtain ⟨reading, hk, hvalues⟩ := Option.map_eq_some_iff.mp hreading
    obtain ⟨hend, hseconds⟩ := Prod.mk.inj hvalues
    have hlongest : longestWork ((List.replicate 3 (connectedSample 1500)).take 3) = 1500 := by
      decide
    have hbound := h 2 reading hk
    rw [hend, hseconds, hlongest, abs_le] at hbound
    norm_num at hbound

end MmWaveTracker
