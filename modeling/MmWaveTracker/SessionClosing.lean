import MmWaveTracker.TracingInvariants

/-! What `StopTracing` leaves behind: the unsaved rows in the current part file and one
row in the file of summaries, if the sampling thread is still active. -/
namespace MmWaveTracker

variable {A : Android} {cfg : LogConfig FileLine} {s s' : Service}

/-- All file writes of the event succeed. -/
def Event.succeeds : Event → Prop
  | .startTracing ok => ok = true
  | .handleMessage writes => writes.batch = true ∧ writes.header = true
  | .flush ok => ok = true
  | .save ok => ok = true
  | _ => True

/-- The service in a run where all writes succeed. -/
structure Healthy (cfg : LogConfig FileLine) (s : Service) : Prop where
  orderly : Orderly s
  watched : Watched s
  tracked : Tracked cfg s
  file : 1 < s.threads.length → (s.log.files s.log.saveFilePath).isSome

theorem Healthy.flushSucceeds (h : Healthy cfg s) {e : Event} (he : e.succeeds)
    (ht : Transition cfg s e s') : FlushSucceeds s e := by
  cases e with
  | flush ok =>
    obtain rfl : ok = true := he
    have hbusy : s.main ≠ .idle := by
      cases ht with
      | flushed _ log flushing run =>
        rw [flushing]
        nofun
      | flushFailed _ log e flushing run =>
        rw [flushing]
        nofun
    obtain ⟨log, hrun, -⟩ := saveUnsavedLogs_ok s.log (h.file (h.tracked.busy hbusy))
    exact ⟨log, hrun⟩
  | _ => exact trivial

theorem Healthy.transition (h : Healthy cfg s) {e : Event} (he : e.succeeds)
    (ht : Transition cfg s e s') : Healthy cfg s' := by
  refine ⟨h.orderly.transition (h.flushSucceeds he ht) ht, h.watched.transition ht,
    h.tracked.transition ht, ?_⟩
  cases ht with
  | thread i acts s' t t' move =>
    rw [move.threads, List.length_set, move.log]
    exact h.file
  | startIgnored => exact h.file
  | started ok world idle active current =>
    obtain rfl : ok = true := he
    exact fun _ => exists_file_withFile cfg _
  | handled writes msg rest world text idle queue step =>
    exact fun hlt => exists_file_handleMessage cfg _ writes _ s.log he.2 (h.file hlt)
  | stopIgnored => exact h.file
  | stopping =>
    rw [List.length_set]
    exact h.file
  | ui => exact h.file
  | flushed ok log flushing run =>
    intro hlt
    obtain rfl : ok = true := he
    obtain ⟨log', hrun, hfile⟩ := saveUnsavedLogs_ok s.log (h.file hlt)
    rw [run] at hrun
    cases hrun
    exact hfile
  | flushFailed ok log e flushing run =>
    obtain rfl : ok = true := he
    have hlt := h.tracked.busy (by rw [flushing]; nofun)
    obtain ⟨log', hrun, -⟩ := saveUnsavedLogs_ok s.log (h.file hlt)
    rw [run] at hrun
    cases hrun
  | saved ok world summary saving step session =>
    intro hlt
    obtain ⟨files, lines, hsaved⟩ := saveSessionSummaryEntry_run ok summary s.log
    have hb := h.tracked.begun hlt
    have hne : s.log.saveFilePath ≠ s.log.saveSessionFilePath := by
      rw [hb.saveFilePath, hb.saveSessionFilePath]
      exact partPath_ne_sessionSummaryPath cfg _ _
    rw [hsaved.run]
    change (files s.log.saveFilePath).isSome
    rw [hsaved.other _ hne]
    exact h.file hlt
  | joined => exact h.file

theorem healthy_created (world : World) (files : String → Option (List String)) :
    Healthy cfg (Service.created world files) where
  orderly := orderly_created world files
  watched := watched_created world files
  tracked := tracked_created world files
  file h := absurd h (lt_irrefl 1)

theorem healthy_run (world : World) (files : String → Option (List String)) (events : List Event)
    (hrun : runEvents (step A cfg) (Service.created world files) events = some s)
    (hok : ∀ e ∈ events, e.succeeds) : Healthy cfg s := by
  apply runEvents_of_forall (step A cfg) Event.succeeds (Healthy cfg) _ events _ s hok hrun
  · exact healthy_created world files
  · exact fun s e s' he hs h => h.transition he (transition_of_step e hs)

/-! A session is closed when its rows are flushed and it has its line in the file of summaries. -/

/-- The buffer went to the end of the current part file. -/
structure RowsFlushed (log log' : Log FileLine) : Prop where
  contents : log'.files.contents log.saveFilePath = log.files.contents log.saveFilePath ++
    log.reportLines
  buffer : log'.reportLines = []

/-- One summary of the session was appended, after the header in a new file. -/
def SummaryAppended (sessionNumber : String) (log log' : Log FileLine) : Prop :=
  ∃ summary : SessionSummary, summary.sessionId = sessionNumber ∧
    log'.files.contents log.saveSessionFilePath = log.files.contents log.saveSessionFilePath ++
      if (log.files log.saveSessionFilePath).isSome then [.summary summary]
      else [.summaryHeader, .summary summary]

def Closed (s s' : Service) : Prop :=
  RowsFlushed s.log s'.log ∧ SummaryAppended s.world.sessionNumber s.log s'.log

/-- What can happen while `StopTracing` runs. -/
def Event.duringStop : Event → Prop
  | .thread _ _ => True
  | .flush ok => ok = true
  | .save ok => ok = true
  | .join => True
  | _ => False

/-- `StopTracing`, called in `s`, can return in `s'`. -/
def StopReturns (A : Android) (cfg : LogConfig FileLine) (s : Service) (source : StopSource)
    (s' : Service) : Prop :=
  ∃ events : List Event, (∀ e ∈ events, e.duringStop) ∧
    runEvents (step A cfg) s (.stopTracing source :: events) = some s' ∧ s'.main = .idle

/-- How far the log of `s` has been closed when the main thread has come to `main`. -/
def ClosedUpTo (s s' : Service) : MainPc → Prop
  | .flushing => s'.log = s.log
  | .saving => RowsFlushed s.log s'.log ∧ s'.log.saveSessionFilePath = s.log.saveSessionFilePath ∧
      s'.log.files s.log.saveSessionFilePath = s.log.files s.log.saveSessionFilePath
  | .joining => Closed s s'
  | .idle => Closed s s'

structure Closing (s s' : Service) : Prop where
  stage : ClosedUpTo s s' s'.main
  sessionNumber : s'.world.sessionNumber = s.world.sessionNumber
  current : Current s'.world

theorem Closing.of_log {u u' : Service} (h : Closing s u) (hlog : u'.log = u.log)
    (hmain : u'.main = u.main) (hworld : TraceStep u.world u'.world) : Closing s u' := by
  refine ⟨?_, hworld.sessionNumber.trans h.sessionNumber, hworld.current h.current⟩
  have hstage := h.stage
  rw [hmain]
  cases hm : u.main <;> rw [hm] at hstage
  · exact ⟨⟨hlog ▸ hstage.1.contents, hlog ▸ hstage.1.buffer⟩, hlog ▸ hstage.2⟩
  · exact hlog.trans hstage
  · exact ⟨⟨hlog ▸ hstage.1.contents, hlog ▸ hstage.1.buffer⟩, hlog ▸ hstage.2.1, hlog ▸ hstage.2.2⟩
  · exact ⟨⟨hlog ▸ hstage.1.contents, hlog ▸ hstage.1.buffer⟩, hlog ▸ hstage.2⟩

theorem rowsFlushed_of_run (log log' : Log FileLine) (q : String) (hq : q ≠ log.saveFilePath)
    (hrun : (saveUnsavedLogs true).run log = (.ok (), log')) :
    RowsFlushed log log' ∧ log'.files q = log.files q := by
  rcases saveUnsavedLogs_cases true log with ⟨hnil, h⟩ | ⟨log₁, ⟨files, ha, rfl⟩, h⟩ | ⟨-, h⟩ <;>
    rw [h] at hrun <;> cases hrun
  · refine ⟨⟨?_, hnil⟩, rfl⟩
    rw [hnil, List.append_nil]
  · exact ⟨⟨FileStore.contents_append _ _ _ _ ha, rfl⟩, FileStore.append_other _ _ _ _ q hq ha⟩

/-- The summary saved for a current session carries its number. -/
theorem summaryAppended_of_run {u : Service} (summary : SessionSummary)
    (files : FileStore String FileLine) (lines : List FileLine) (h : Closing s u)
    (hsaved : SummarySaved true summary u.log files lines)
    (hpath : u.log.saveSessionFilePath = s.log.saveSessionFilePath)
    (hfile : u.log.files s.log.saveSessionFilePath = s.log.files s.log.saveSessionFilePath)
    (hsession : u.world.curSession.map SessionSummary.sessionId = some summary.sessionId) :
    SummaryAppended s.world.sessionNumber s.log { u.log with files } := by
  refine ⟨summary, ?_, ?_⟩
  · obtain ⟨session, hs, hid⟩ := h.current
    rw [hs] at hsession
    rw [← h.sessionNumber, ← hid]
    exact (Option.some.inj hsession).symm
  · have hcontents := hsaved.contents
    rw [hsaved.lines_ok rfl, hpath, FileStore.contents, FileStore.contents, hfile] at hcontents
    exact hcontents

/-- Every step on the way keeps the log closed as far as the main thread has come. -/
theorem Closing.transition {u u' : Service} {e : Event}
    (hpath : s.log.saveFilePath ≠ s.log.saveSessionFilePath)
    (hfile : (s.log.files s.log.saveFilePath).isSome) (h : Closing s u) (he : e.duringStop)
    (ht : Transition cfg u e u') : Closing s u' := by
  have hstage := h.stage
  cases ht with
  | thread i acts s' t t' move => exact h.of_log move.log move.main move.world
  | flushed ok log flushing run =>
    obtain rfl : ok = true := he
    rw [flushing] at hstage
    change u.log = s.log at hstage
    rw [hstage] at run
    obtain ⟨hrows, hother⟩ := rowsFlushed_of_run s.log log _ hpath.symm run
    exact ⟨⟨hrows, (saveUnsavedLogs_frame true s.log log _ run).2.2, hother⟩, h.sessionNumber,
      h.current⟩
  | flushFailed ok log e flushing run =>
    obtain rfl : ok = true := he
    rw [flushing] at hstage
    change u.log = s.log at hstage
    obtain ⟨log', hrun, -⟩ := saveUnsavedLogs_ok s.log hfile
    rw [hstage, hrun] at run
    cases run
  | saved ok world summary saving step session =>
    obtain rfl : ok = true := he
    rw [saving] at hstage
    obtain ⟨hrows, hsummary, hsame⟩ := hstage
    obtain ⟨files, lines, hsaved⟩ := saveSessionSummaryEntry_run true summary u.log
    refine ⟨?_, step.sessionNumber.trans h.sessionNumber, step.current h.current⟩
    rw [hsaved.run]
    refine ⟨⟨?_, hrows.buffer⟩,
      summaryAppended_of_run summary files lines h hsaved hsummary hsame session⟩
    change files.contents s.log.saveFilePath = _
    rw [FileStore.contents, hsaved.other _ (by rw [hsummary]; exact hpath)]
    exact hrows.contents
  | joined i joining monitoringThread ended =>
    rw [joining] at hstage
    exact ⟨hstage, h.sessionNumber, h.current⟩
  | _ => exact he.elim

/-! `StopTracing` returns: a thread that is told to stop leaves its loop at the next check. -/

theorem threadStep_isSome (i : ℕ) (acts : Option (List DetectedActivity)) (s : Service)
    (t : MonitoringThread) (h : t.pc ≠ .ended) : ∃ s', threadStep A i acts s t = some s' := by
  unfold threadStep
  cases hp : t.pc with
  | ended => exact absurd hp h
  | _ => exact ⟨_, rfl⟩

theorem thread_ends (A : Android) (cfg : LogConfig FileLine) (n : ℕ) (i : ℕ) (s : Service)
    (t : MonitoringThread) (hthread : s.threads[i]? = some t)
    (hactive : t.threadActive = false) (hrank : t.pc.rank ≤ n) :
    ∃ (events : List Event) (s' : Service), (∀ e ∈ events, e.duringStop) ∧
      runEvents (step A cfg) s events = some s' ∧ s'.main = s.main ∧
        s'.monitoringThread = s.monitoringThread ∧
      ∀ t', s'.threads[i]? = some t' → t'.pc = .ended := by
  induction n generalizing s t with
  | zero =>
    refine ⟨[], s, nofun, rfl, rfl, rfl, ?_⟩
    intro t' ht'
    rw [hthread] at ht'
    cases ht'
    cases hp : t.pc <;> simp_all [ThreadPc.rank]
  | succ n ih =>
    by_cases hended : t.pc = .ended
    · refine ⟨[], s, nofun, rfl, rfl, rfl, ?_⟩
      intro t' ht'
      rw [hthread] at ht'
      cases ht'
      exact hended
    · obtain ⟨s₁, hs₁⟩ := threadStep_isSome (A := A) i none s t hended
      obtain ⟨t₁, hmove⟩ := threadMove_of_threadStep none hthread hs₁
      have hlt := (List.getElem?_eq_some_iff.mp hthread).1
      have hthread₁ : s₁.threads[i]? = some t₁ := by rw [hmove.threads, List.getElem?_set_self hlt]
      have hactive₁ : t₁.threadActive = false := by
        rcases hmove.active with ⟨hsame, -⟩ | ⟨hfalse, -⟩
        · rw [hsame, hactive]
        · exact hfalse
      have hrank₁ := hmove.rank hactive
      obtain ⟨events, s', hduring, hrun, hmain, hm, hall⟩ := ih s₁ t₁ hthread₁ hactive₁ (by omega)
      refine ⟨.thread i none :: events, s', ?_, ?_, hmain.trans hmove.main,
        hm.trans hmove.monitoringThread, hall⟩
      · exact List.forall_mem_cons.mpr ⟨trivial, hduring⟩
      · have hstep : step A cfg s (.thread i none) = some s₁ := by
          change (s.threads[i]?.bind fun t => threadStep A i none s t) = some s₁
          rw [hthread]
          exact hs₁
        rw [runEvents, hstep]
        exact hrun

theorem step_stopTracing (A : Android) (cfg : LogConfig FileLine) (source : StopSource)
    (hidle : s.main = .idle) :
    step A cfg s (.stopTracing source) = some (requestStop source s) := by
  simp only [step, hidle]

/-- From the flush to the join, the main thread only waits for the sampling thread. -/
theorem stop_runs_to_idle (A : Android) (cfg : LogConfig FileLine) (s : Service) (i : ℕ)
    (t : MonitoringThread) (hmain : s.main = .flushing)
    (hm : s.monitoringThread = some i) (ht : s.threads[i]? = some t)
    (hactive : t.threadActive = false)
    (hfile : (s.log.files s.log.saveFilePath).isSome) (hcurrent : Current s.world) :
    ∃ (events : List Event) (s' : Service), (∀ e ∈ events, e.duringStop) ∧
      runEvents (step A cfg) s events = some s' ∧ s'.main = .idle := by
  obtain ⟨log, hflush, -⟩ := saveUnsavedLogs_ok s.log hfile
  obtain ⟨session, hsession, -⟩ := hcurrent
  have hstep₁ : step A cfg s (.flush true) = some { s with log, main := .saving } := by
    simp only [step, hmain, flushStep, hflush]
  obtain ⟨s₂, hstep₂⟩ : ∃ s₂, saveStep A true { s with log, main := .saving } = some s₂ := by
    simp only [saveStep, hsession]
    exact ⟨_, rfl⟩
  have hs₂ : s₂.main = .joining ∧ s₂.monitoringThread = some i ∧ s₂.threads[i]? = some t := by
    obtain ⟨_, -, rfl⟩ := Option.map_eq_some_iff.mp hstep₂
    exact ⟨rfl, hm, ht⟩
  obtain ⟨events, s₃, hduring, hrun, hmain₃, hm₃, hended⟩ :=
    thread_ends A cfg t.pc.rank i s₂ t hs₂.2.2 hactive le_rfl
  have hjoin : step A cfg s₃ .join = some { s₃ with monitoringThread := none, main := .idle } := by
    have hall : s₃.threads[i]?.all (·.pc = .ended) = true := by
      cases hi : s₃.threads[i]? with
      | none => rfl
      | some t' => simpa using hended t' hi
    simp only [step, hmain₃, hs₂.1, joinStep, hm₃, hs₂.2.1, hall, if_true]
  refine ⟨.flush true :: .save true :: (events ++ [.join]),
    { s₃ with monitoringThread := none, main := .idle }, ?_, ?_, rfl⟩
  · intro e he
    simp only [List.mem_cons, List.mem_append, List.not_mem_nil, or_false] at he
    rcases he with rfl | rfl | he | rfl
    · rfl
    · rfl
    · exact hduring e he
    · exact trivial
  · rw [runEvents, hstep₁]
    change (saveStep A true _).bind _ = _
    rw [hstep₂]
    change runEvents _ s₂ _ = _
    rw [runEvents_append _ s₂ s₃ events _ hrun, runEvents, hjoin]
    rfl

theorem stopReturns_of_active (h : Healthy cfg s) (source : StopSource) (hidle : s.main = .idle)
    (hactive : s.traceActive = true) : ∃ s', StopReturns A cfg s source s' := by
  obtain ⟨i, t, hm, ht, htrue⟩ := traceActive_eq_true hactive
  have hlen := h.tracked.active i t ht (.inl htrue)
  have hlt := (List.getElem?_eq_some_iff.mp ht).1
  have hstop := step_stopTracing A cfg source hidle
  rw [requestStop_active source i t hm ht htrue] at hstop
  obtain ⟨events, s', hduring, hrun, hmain⟩ := stop_runs_to_idle A cfg { s with
      threads := s.threads.set i { t with threadActive := false }
      main := .flushing
      stopped := true }
    i _ rfl hm (List.getElem?_set_self hlt) rfl (h.file hlen) (h.tracked.begun hlen).current
  refine ⟨s', events, hduring, ?_, hmain⟩
  rw [runEvents, hstop]
  exact hrun

theorem closed_of_active (h : Healthy cfg s) (source : StopSource) (hidle : s.main = .idle)
    (hactive : s.traceActive = true) (hret : StopReturns A cfg s source s') : Closed s s' := by
  obtain ⟨events, hduring, hrun, hmain⟩ := hret
  obtain ⟨s₁, hstop, hrun⟩ := runEvents_cons _ _ _ _ _ hrun
  obtain ⟨i, t, hm, ht, htrue⟩ := traceActive_eq_true hactive
  have hlen := h.tracked.active i t ht (.inl htrue)
  have hb := h.tracked.begun hlen
  have hpath : s.log.saveFilePath ≠ s.log.saveSessionFilePath := by
    rw [hb.saveFilePath, hb.saveSessionFilePath]
    exact partPath_ne_sessionSummaryPath cfg _ _
  rw [step_stopTracing A cfg source hidle, requestStop_active source i t hm ht htrue] at hstop
  cases hstop
  have hclosing := runEvents_of_forall (step A cfg) Event.duringStop (Closing s)
    (fun u e u' he hs hu => hu.transition hpath (h.file hlen) he (transition_of_step e hs)) events _
      s'
    hduring hrun ⟨rfl, rfl, hb.current⟩
  have hstage := hclosing.stage
  rw [hmain] at hstage
  exact hstage

/-- With no active thread `StopTracing` writes nothing. -/
theorem log_of_inactive (source : StopSource) (hidle : s.main = .idle)
    (hactive : s.traceActive = false) (hret : StopReturns A cfg s source s') : s'.log = s.log := by
  obtain ⟨events, hduring, hrun, hmain⟩ := hret
  obtain ⟨s₁, hstop, hrun⟩ := runEvents_cons _ _ _ _ _ hrun
  rw [step_stopTracing A cfg source hidle, requestStop_inactive source hactive] at hstop
  cases hstop
  have hinv := runEvents_of_forall (step A cfg) Event.duringStop
    (fun u => u.main = .idle ∧ u.log = s.log) ?_ events _ s' hduring hrun ⟨hidle, rfl⟩
  · exact hinv.2
  intro u e u' he hs ⟨hu, hlog⟩
  cases transition_of_step e hs with
  | thread i acts s' t t' move => exact ⟨move.main.trans hu, move.log.trans hlog⟩
  | flushed ok log flushing run => rw [hu] at flushing; cases flushing
  | flushFailed ok log e flushing run => rw [hu] at flushing; cases flushing
  | saved ok world summary saving step session => rw [hu] at saving; cases saving
  | joined i joining monitoringThread ended => rw [hu] at joining; cases joining
  | _ => exact he.elim

theorem not_closed_of_log (h : s'.log = s.log) : ¬Closed s s' := by
  rintro ⟨-, summary, -, happ⟩
  rw [h] at happ
  have hnil := List.self_eq_append_right.mp happ
  split_ifs at hnil

/-- In every run without failing writes, `StopTracing` returns, and it closes an open
session exactly if the thread of the session has not left its loop. -/
theorem session_closed_iff_running (A : Android) (cfg : LogConfig FileLine) (world : World)
    (files : String → Option (List String)) (events : List Event) (s : Service)
    (source : StopSource)
    (hrun : runEvents (step A cfg) (Service.created world files) events = some s)
    (hwrites : ∀ e ∈ events, e.succeeds) (hidle : s.main = .idle) (hopen : s.stopped = false) :
    (∃ s', StopReturns A cfg s source s') ∧
    ∀ s', StopReturns A cfg s source s' →
      (Closed s s' ↔ ∃ t, s.threads.getLast? = some t ∧ t.pc ≠ .ended) := by
  have h := healthy_run world files events hrun hwrites
  rw [← traceActive_iff_running h.orderly h.watched hidle hopen]
  cases hactive : s.traceActive with
  | true =>
    refine ⟨stopReturns_of_active h source hidle hactive, ?_⟩
    intro s' hret
    exact iff_of_true (closed_of_active h source hidle hactive hret) rfl
  | false =>
    refine ⟨⟨requestStop source s, [], fun _ he => absurd he List.not_mem_nil, ?_, ?_⟩, ?_⟩
    · rw [runEvents, step_stopTracing A cfg source hidle]
      rfl
    · rw [requestStop_inactive source hactive]
      exact hidle
    · intro s' hret
      exact iff_of_false (not_closed_of_log (log_of_inactive source hidle hactive hret))
        Bool.false_ne_true

theorem session_closed_iff_running_just_started : ∃ s s',
    runEvents (step ltePhone (traceConfig 60 240000 "/sdcard" "phone"))
      (Service.created {} fun _ => none) [.startTracing true] = some s ∧
    StopReturns ltePhone (traceConfig 60 240000 "/sdcard" "phone") s .action s' ∧ Closed s s' := by
  obtain ⟨⟨s', hret⟩, hiff⟩ :=
    session_closed_iff_running ltePhone (traceConfig 60 240000 "/sdcard" "phone") {}
    (fun _ => none) [.startTracing true] _ .action rfl
    (fun e he => by rw [List.mem_singleton.mp he]; rfl) rfl rfl
  exact ⟨_, s', rfl, hret, (hiff s' hret).mpr ⟨_, rfl, nofun⟩⟩

/-- A failed sample and a broadcast of activities end the thread; destroying the
service then writes neither rows nor a summary. -/
theorem session_left_open_after_exception : ∃ s s',
    runEvents (step cellessPhone (traceConfig 60 240000 "/sdcard" "phone")) (Service.created {}
      fun _ => none) [.startTracing true, .thread 1 none, .thread 1 none, .thread 1 (some still)] =
        some s ∧
    s.main = .idle ∧ s.stopped = false ∧
    StopReturns cellessPhone (traceConfig 60 240000 "/sdcard" "phone") s .onDestroy s' ∧
      ¬Closed s s' :=
  ⟨_, _, rfl, rfl, rfl, ⟨[], nofun, rfl, rfl⟩, not_closed_of_log rfl⟩

end MmWaveTracker
