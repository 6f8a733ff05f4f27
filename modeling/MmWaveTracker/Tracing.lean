import MmWaveTracker.EventRun
import MmWaveTracker.SamplingLoop
import MmWaveTracker.TrackerLog

/-! The service while it traces. The sampling threads, the message queue of the main
looper and the operations of the main thread take their steps in any order. -/
namespace MmWaveTracker

/-- Where a thread stands in `MonitoringThread.run`. -/
inductive ThreadPc where
  | checking
  | sampling
  | attaching (startTime : ℤ)
  | sending (startTime : ℤ)
  | publishing (startTime : ℤ)
  | pausing (startTime : ℤ)
  | ended
  deriving DecidableEq, Repr

/-- A thread, with the session that started it and the number of reports that it has sent. -/
structure MonitoringThread where
  threadActive : Bool
  pc : ThreadPc
  session : String
  sent : ℕ
  deriving Repr

structure Message where
  sender : ℕ
  index : ℕ
  obj : Report

/-- The lines of the CSV files, by what they were made from. -/
inductive FileLine where
  | old (text : String)
  | header
  | row (msg : Message) (text : String)
  | summaryHeader
  | summary (s : SessionSummary)

def traceConfig (maxLinesPerBatch maxLinesPerChunk : ℤ) (documents deviceId : String) :
    LogConfig FileLine :=
  { maxLinesPerBatch, maxLinesPerChunk, documents, deviceId, header := .header }

/-- Where the main thread stands in `StopTracing`. -/
inductive MainPc where
  | idle
  | flushing
  | saving
  | joining
  deriving DecidableEq, Repr

/-- The service; `stopped` says that the last session that was started has been stopped. -/
structure Service where
  world : World
  log : Log FileLine
  report : Option Report := none
  threads : List MonitoringThread
  monitoringThread : Option ℕ
  queue : List Message := []
  main : MainPc := .idle
  stopped : Bool := true

/-- A new service has a thread that was never started. -/
def Service.created (world : World) (files : String → Option (List String)) : Service where
  world := world
  log := { files := fun p => (files p).map fun lines => lines.map FileLine.old }
  threads := [{ threadActive := false, pc := .ended, session := "", sent := 0 }]
  monitoringThread := some 0

namespace Service

/-- `monitoringThread != null && monitoringThread.ThreadActive`. -/
def traceActive (s : Service) : Bool :=
  match s.monitoringThread with
  | some i => s.threads[i]?.any MonitoringThread.threadActive
  | none => false

def move (s : Service) (i : ℕ) (pc : ThreadPc) : Service :=
  { s with threads := s.threads.modify i fun t => { t with pc } }

/-- The `finally` block of the thread. -/
def finish (s : Service) (i : ℕ) : Service :=
  { s with threads := s.threads.modify i fun t => { t with threadActive := false, pc := .ended } }

/-- A statement of the loop; an exception leaves the loop. -/
def body {α : Type} (s : Service) (i : ℕ) (x : Java World α) (k : α → Service → Service) :
    Service :=
  match x.run s.world with
  | (.ok a, world) => k a { s with world }
  | (.error _, world) => finish { s with world } i

def send (s : Service) (i : ℕ) (startTime : ℤ) (t : MonitoringThread) (obj : Report) : Service :=
  { s with
    queue := s.queue ++ [⟨i, t.sent, obj⟩]
    threads := s.threads.modify i fun t =>
      { t with pc := .publishing startTime, sent := t.sent+1 } }

end Service

def takeSample (A : Android) : Java World (ℤ × Option Report) := do
  let startTime ← observe A Moment.now
  let report ← networkInfoToReport A
  return (startTime, report)

/-- The thread shares the field `report` with the service. -/
def threadStep (A : Android) (i : ℕ) (detectedActivities : Option (List DetectedActivity))
    (s : Service) (t : MonitoringThread) : Option Service :=
  match t.pc with
  | .checking => some (if t.threadActive then s.move i .sampling else s.finish i)
  | .sampling => some (s.body i (takeSample A) fun (startTime, report) s =>
      { s with report }.move i (.attaching startTime))
  | .attaching startTime =>
      some (s.body i (attachActivities s.report detectedActivities) fun report s =>
      { s with report }.move i (.sending startTime))
  | .sending startTime => some (match s.report with
      | some obj => s.send i startTime t obj
      | none => s.move i (.pausing startTime))
  | .publishing startTime =>
      some (s.body i (Java.nonNull s.report >>= fun r => publish A (some r)) fun _ s =>
      s.move i (.pausing startTime))
  | .pausing startTime => some (s.body i (sleepUntilNext A startTime) fun _ s => s.move i .checking)
  | .ended => none

/-- What the user interface does to the shared state between the other operations. -/
inductive UiOp where
  | device
  | connectType
  | setRate (millis : ℕ)

def UiOp.exec (A : Android) : UiOp → Java World Unit
  | .device => newDevice A
  | .connectType => getConnectType A >>= fun _ => pure ()
  | .setRate millis => Java.modify fun w => { w with samplingRateInMs := millis }

/-- Who calls `StopTracing`. -/
inductive StopSource where
  | action
  | onDestroy

inductive Event where
  | startTracing (ok : Bool)
  | handleMessage (writes : Writes)
  | stopTracing (source : StopSource)
  | flush (ok : Bool)
  | save (ok : Bool)
  | join
  | ui (op : UiOp)
  | thread (i : ℕ) (detectedActivities : Option (List DetectedActivity))

section Steps

variable (A : Android) (cfg : LogConfig FileLine)

/-- An exception of `StartTracing` is not caught and ends the process. -/
def startTracing (ok : Bool) (s : Service) : Option Service :=
  if s.traceActive then some s
  else match (seedTracing A).run s.world with
    | (.ok _, world) => some { s with
        world
        log := ((startLog cfg world.sessionNumber ok).run s.log).2
        threads := s.threads ++
          [{ threadActive := true, pc := .checking, session := world.sessionNumber, sent := 0 }]
        monitoringThread := some s.threads.length
        stopped := false }
    | (.error _, _) => none

/-- The main looper takes the oldest message. -/
def handleNext (writes : Writes) (s : Service) : Option Service :=
  match s.queue with
  | [] => none
  | msg :: rest => some { s with
      world := ((msg.obj.toString A).run s.world).2
      log := ((handleMessage cfg s.world.sessionNumber writes
        (.row msg (rowText A s.world msg.obj))).run s.log).2
      queue := rest }

def stopTracing (s : Service) : Service :=
  match s.monitoringThread with
  | some i =>
    if s.traceActive then { s with
      threads := s.threads.modify i fun t => { t with threadActive := false }
      main := .flushing
      stopped := true }
    else { s with stopped := true }
  | none => { s with stopped := true }

/-- The stop action asks `CheckIfTraceActive` first. -/
def requestStop (source : StopSource) (s : Service) : Service :=
  match source with
  | .action => if s.traceActive then stopTracing s else { s with stopped := true }
  | .onDestroy => stopTracing s

/-- A failed write skips everything up to the `finally` block. -/
def flushStep (ok : Bool) (s : Service) : Service :=
  match (saveUnsavedLogs ok).run s.log with
  | (.ok _, log) => { s with log, main := .saving }
  | (.error _, log) => { s with log, monitoringThread := none, main := .idle }

def endSession (s : SessionSummary) (endTime : String) (parts : ℤ) : SessionSummary :=
  { s with endTime := some endTime, nTrackerParts := parts }

/-- A failure of either write is only logged. -/
def saveSessionSummaryEntry (ok : Bool) (summary : SessionSummary) : Java (Log FileLine) Unit := do
  let log ← Java.get
  Java.attempt (if (log.files log.saveSessionFilePath).isSome then
      writeAppend ok log.saveSessionFilePath [.summary summary]
    else writeCreate ok log.saveSessionFilePath [.summaryHeader, .summary summary]) fun _ => pure ()

def saveStep (ok : Bool) (s : Service) : Option Service :=
  s.world.curSession.map fun session =>
    let summary := endSession session (A.sampleDateFormat (A.moment s.world.tick).now) s.log.part
    { s with
      world := { s.world with tick := s.world.tick+1, curSession := some summary }
      log := ((saveSessionSummaryEntry ok summary).run s.log).2
      main := .joining }

/-- `join` waits until the thread has ended. -/
def joinStep (s : Service) : Option Service :=
  match s.monitoringThread with
  | some i => if s.threads[i]?.all (·.pc = .ended) then
      some { s with monitoringThread := none, main := .idle } else none
  | none => none

def uiStep (op : UiOp) (s : Service) : Service := { s with world := ((op.exec A).run s.world).2 }

/-- One step; operations of the main thread wait for each other. -/
def step (s : Service) (e : Event) : Option Service :=
  match e, s.main with
  | .thread i detectedActivities, _ => s.threads[i]?.bind fun t =>
      threadStep A i detectedActivities s t
  | .startTracing ok, .idle => startTracing A cfg ok s
  | .handleMessage writes, .idle => handleNext A cfg writes s
  | .stopTracing source, .idle => some (requestStop source s)
  | .ui op, .idle => some (uiStep A op s)
  | .flush ok, .flushing => some (flushStep ok s)
  | .save ok, .saving => saveStep A ok s
  | .join, .joining => joinStep s
  | _, _ => none

end Steps

/-! Every operation on the shared state but `StartTracing` keeps the session number,
and a summary that carries it. -/

def Current (w : World) : Prop := ∃ s, w.curSession = some s ∧ s.sessionId = w.sessionNumber

structure TraceStep (w w' : World) : Prop where
  sessionNumber : w'.sessionNumber = w.sessionNumber
  current : Current w → Current w'

instance : Std.Refl TraceStep := ⟨fun _ => ⟨rfl, id⟩⟩

instance : IsTrans World TraceStep :=
  ⟨fun _ _ _ h h' => ⟨h'.sessionNumber.trans h.sessionNumber, h'.current ∘ h.current⟩⟩

theorem SampleStep.traceStep (w w' : World) (h : SampleStep w w') : TraceStep w w' := by
  refine ⟨h.sessionNumber, ?_⟩
  rintro ⟨s, hs, hid⟩
  exact ⟨s, h.curSession.trans hs, hid.trans h.sessionNumber.symm⟩

theorem traceStep_of_deviceStep {α : Type} {x : Java World α} (h : Java.Within DeviceStep x) :
    Java.Within TraceStep x :=
  Java.within_mono h fun w w' hw => SampleStep.traceStep w w' (DeviceStep.sampleStep w w' hw)

theorem countReport_sessionId (A : Android) (sessionId : String) (rate : ℤ) (r : Report)
    (s : SessionSummary) (h : s.sessionId = sessionId) :
    (countReport A sessionId rate r s).sessionId = sessionId := by
  have hcount (s : SessionSummary) : (countTimeIn5G (countHandoffs s r) rate r).sessionId =
      s.sessionId := by
    unfold countTimeIn5G
    split <;> rfl
  unfold countReport
  rw [hcount]
  unfold startSession
  split_ifs
  · exact h
  · rfl

theorem traceStep_processNetworkReport (A : Android) (r : Report) (w : World) :
    TraceStep w ((processNetworkReport A w.sessionNumber r).run w).2 := by
  have hnum := leaves_processNetworkReport (f := World.sessionNumber)
    ⟨fun _ _ _ _ _ _ => rfl, fun _ _ => rfl⟩ A w.sessionNumber r w
  refine ⟨hnum, ?_⟩
  rintro ⟨s, hs, hid⟩
  have hview := leaves_bookkeeping SessionSummary.sessionId (fun f hf s => by rw [hf s]) A
    (countReport A w.sessionNumber w.samplingRateInMs r s) r
    { w with curSession := some (countReport A w.sessionNumber w.samplingRateInMs r s) }
  rw [← processNetworkReport_run A w.sessionNumber r w s hs] at hview
  obtain ⟨s', hs', hid'⟩ := Option.map_eq_some_iff.mp hview
  refine ⟨s', hs', ?_⟩
  rw [hid', countReport_sessionId A _ _ r s hid]
  exact hnum.symm

theorem traceStep_publish (A : Android) (r : Report) :
    Java.Within TraceStep (publish A (some r)) := by
  have hbroadcast : Java.Within TraceStep (broadcastNetworkReportIntent A) := by
    refine Java.within_bind Java.within_get fun _ => ?_
    refine Java.within_bind (Java.within_nonNull _) fun _ => ?_
    refine Java.within_bind (Java.within_nonNull _) fun _ => ?_
    refine Java.within_bind (Java.within_nonNull _) fun _ => ?_
    exact traceStep_of_deviceStep (deviceCall_query (A := A) _).within
  intro w
  unfold publish
  rw [Java.bind_ok _ _ w w w rfl, Java.run_bind]
  have hp := traceStep_processNetworkReport A r w
  generalize (processNetworkReport A w.sessionNumber r).run w = o at hp
  rcases o with ⟨e | _, w'⟩
  · exact hp
  · exact IsTrans.trans _ _ _ hp (hbroadcast w')

theorem traceStep_takeSample (A : Android) : Java.Within TraceStep (takeSample A) := by
  refine Java.within_bind (traceStep_of_deviceStep (deviceCall_observe (A := A) _).within) fun _ =>
    ?_
  exact Java.within_bind (Java.within_mono (within_networkInfoToReport A) SampleStep.traceStep)
    fun _ => Java.within_pure _

theorem traceStep_attachActivities (report : Option Report)
    (acts : Option (List DetectedActivity)) :
    Java.Within TraceStep (attachActivities report acts) := by
  intro w
  rw [attachActivities_state]
  exact Std.Refl.refl w

theorem traceStep_sleepUntilNext (A : Android) (startTime : ℤ) :
    Java.Within TraceStep (sleepUntilNext A startTime) := by
  refine Java.within_bind (traceStep_of_deviceStep (deviceCall_observe (A := A) _).within) fun _ =>
    ?_
  exact Java.within_bind Java.within_get fun _ => within_sleep _

theorem traceStep_toString (A : Android) (r : Report) : Java.Within TraceStep (r.toString A) :=
  Java.within_bind (traceStep_of_deviceStep (within_rowValues r)) fun _ => Java.within_pure _

theorem traceStep_ui (A : Android) (op : UiOp) : Java.Within TraceStep (op.exec A) := by
  cases op with
  | device => exact Java.within_mono within_newDevice SampleStep.traceStep
  | connectType =>
    exact Java.within_bind (traceStep_of_deviceStep deviceCall_getConnectType.within) fun _ =>
      Java.within_pure _
  | setRate millis => exact Java.within_modify _ fun _ => ⟨rfl, id⟩

/-- `StartTracing` makes a summary for the session number it chose. -/
theorem current_seedTracing (A : Android) (w w' : World)
    (h : (seedTracing A).run w = (.ok (), w')) : Current w' := by
  have hwindows (n : ℕ) : Java.Within TraceStep (seedWindows A n) := by
    induction n with
    | zero => exact Java.within_pure _
    | succ n ih =>
      refine Java.within_bind (traceStep_of_deviceStep (deviceCall_observe (A := A) _).within)
        fun _ => ?_
      exact Java.within_bind (Java.within_modify _ fun _ => ⟨rfl, id⟩) fun _ => ih
  obtain ⟨now, w₁, -, h₁⟩ := Java.bind_eq_ok _ _ _ _ _ h
  obtain ⟨u, w₂, h₂, h₃⟩ := Java.bind_eq_ok _ _ _ _ _ h₁
  have hrest := Java.within_bind (R := TraceStep)
    (traceStep_of_deviceStep (deviceCall_observe (A := A) Moment.lastLoc).within)
    (fun lastLoc => Java.within_bind (Java.within_nonNull lastLoc) fun l =>
      Java.within_bind (Java.within_modify (fun w => { w with
        mobilityLabelQueue := fillMobilityLabelQueue l w.mobilityLabelQueue }) fun _ => ⟨rfl, id⟩)
        fun _ => hwindows (speedCalculationWindowSize+1)) w₂
  rw [h₃] at hrest
  apply hrest.current
  cases h₂
  exact ⟨_, rfl, rfl⟩

/-! What a step can do, said once for all the invariants. -/

/-- The steps left in a round once `ThreadActive` is false. -/
def ThreadPc.rank : ThreadPc → ℕ
  | .ended => 0
  | .checking => 1
  | .pausing _ => 2
  | .publishing _ => 3
  | .sending _ => 4
  | .attaching _ => 5
  | .sampling => 6

/-- A step of thread `i`, which turns `t` into `t'`. -/
structure ThreadMove (i : ℕ) (s s' : Service) (t t' : MonitoringThread) : Prop where
  thread : s.threads[i]? = some t
  threads : s'.threads = s.threads.set i t'
  world : TraceStep s.world s'.world
  log : s'.log = s.log
  monitoringThread : s'.monitoringThread = s.monitoringThread
  main : s'.main = s.main
  stopped : s'.stopped = s.stopped
  session : t'.session = t.session
  queue : (s'.queue = s.queue ∧ t'.sent = t.sent) ∨
    ∃ obj, s'.queue = s.queue ++ [⟨i, t.sent, obj⟩] ∧ t'.sent = t.sent+1
  running : t.pc ≠ .ended
  active : (t'.threadActive = t.threadActive ∧ t'.pc ≠ .ended) ∨
    (t'.threadActive = false ∧ t'.pc = .ended)
  rank : t.threadActive = false → t'.pc.rank < t.pc.rank

theorem modify_eq_set_of_some {α : Type} (l : List α) (i : ℕ) (f : α → α) (a : α)
    (h : l[i]? = some a) : l.modify i f = l.set i (f a) := by
  rw [List.modify_eq_set_getElem?, h]
  rfl

section ThreadMove

variable {A : Android} {i : ℕ} {s s' : Service} {t : MonitoringThread} {α : Type}

theorem threadMove_finish (ht : s.threads[i]? = some t) (hpc : t.pc ≠ .ended) (world : World)
    (hw : TraceStep s.world world) :
    ThreadMove i s (Service.finish { s with world } i) t { t with
      threadActive := false, pc := .ended } where
  thread := ht
  threads := modify_eq_set_of_some s.threads i _ t ht
  world := hw
  log := rfl
  monitoringThread := rfl
  main := rfl
  stopped := rfl
  session := rfl
  queue := .inl ⟨rfl, rfl⟩
  running := hpc
  active := .inr ⟨rfl, rfl⟩
  rank := by
    intro _
    cases h : t.pc <;> simp_all [ThreadPc.rank]

theorem threadMove_move (ht : s.threads[i]? = some t) (hpc : t.pc ≠ .ended) (world : World)
    (hw : TraceStep s.world world) (report : Option Report) (pc : ThreadPc) (hpc' : pc ≠ .ended)
    (hrank : t.threadActive = false → pc.rank < t.pc.rank) :
    ThreadMove i s (Service.move { s with world, report } i pc) t { t with pc } where
  thread := ht
  threads := modify_eq_set_of_some s.threads i _ t ht
  world := hw
  log := rfl
  monitoringThread := rfl
  main := rfl
  stopped := rfl
  session := rfl
  queue := .inl ⟨rfl, rfl⟩
  running := hpc
  active := .inl ⟨rfl, hpc'⟩
  rank := hrank

/-- A statement that completes goes on as `k` says, and any other ends the thread. -/
theorem threadMove_body (ht : s.threads[i]? = some t) (hpc : t.pc ≠ .ended) (x : Java World α)
    (k : α → Service → Service) (hx : Java.Within TraceStep x)
    (hk : ∀ a world, TraceStep s.world world → ∃ t', ThreadMove i s (k a { s with world }) t t') :
    ∃ t', ThreadMove i s (s.body i x k) t t' := by
  have hw := hx s.world
  unfold Service.body
  generalize x.run s.world = o at hw
  rcases o with ⟨e | a, world⟩
  · exact ⟨_, threadMove_finish ht hpc world hw⟩
  · exact hk a world hw

theorem threadMove_of_threadStep (acts : Option (List DetectedActivity))
    (ht : s.threads[i]? = some t) (h : threadStep A i acts s t = some s') :
    ∃ t', ThreadMove i s s' t t' := by
  have hself : TraceStep s.world s.world := Std.Refl.refl _
  unfold threadStep at h
  cases hp : t.pc with
  | checking =>
    rw [hp] at h
    cases h
    split_ifs with hact
    · exact ⟨_, threadMove_move ht (by simp [hp]) _ hself s.report .sampling nofun (by simp [hact])⟩
    · exact ⟨_, threadMove_finish ht (by simp [hp]) _ hself⟩
  | sampling =>
    rw [hp] at h
    cases h
    apply threadMove_body ht (by simp [hp]) _ _ (traceStep_takeSample A)
    intro a world hw
    exact ⟨_, threadMove_move ht (by simp [hp]) world hw a.2
      (.attaching a.1) nofun (by simp [hp, ThreadPc.rank])⟩
  | attaching startTime =>
    rw [hp] at h
    cases h
    apply threadMove_body ht (by simp [hp]) _ _ (traceStep_attachActivities _ _)
    intro a world hw
    exact ⟨_, threadMove_move ht (by simp [hp]) world hw a
      (.sending startTime) nofun (by simp [hp, ThreadPc.rank])⟩
  | sending startTime =>
    rw [hp] at h
    cases h
    cases hr : s.report with
    | none =>
      exact ⟨_, threadMove_move ht (by simp [hp]) _ hself s.report
        (.pausing startTime) nofun (by simp [hp, ThreadPc.rank])⟩
    | some obj =>
      refine ⟨{ t with pc := .publishing startTime, sent := t.sent+1 }, ht, ?_, hself,
        rfl, rfl, rfl, rfl, rfl,
        .inr ⟨obj, rfl, rfl⟩, by simp [hp], .inl ⟨rfl, nofun⟩, by simp [hp, ThreadPc.rank]⟩
      exact modify_eq_set_of_some s.threads i _ t ht
  | publishing startTime =>
    rw [hp] at h
    cases h
    apply threadMove_body ht (by simp [hp])
    · exact Java.within_bind (Java.within_nonNull _) fun r => traceStep_publish A r
    intro a world hw
    exact ⟨_, threadMove_move ht (by simp [hp]) world hw s.report
      (.pausing startTime) nofun (by simp [hp, ThreadPc.rank])⟩
  | pausing startTime =>
    rw [hp] at h
    cases h
    apply threadMove_body ht (by simp [hp]) _ _ (traceStep_sleepUntilNext A startTime)
    intro a world hw
    exact ⟨_, threadMove_move ht (by simp [hp]) world hw s.report .checking nofun
      (by simp [hp, ThreadPc.rank])⟩
  | ended =>
    rw [hp] at h
    cases h

end ThreadMove

/-- Saving a summary adds `lines` to its file and leaves the other files alone. -/
structure SummarySaved (ok : Bool) (summary : SessionSummary) (log : Log FileLine)
    (files : FileStore String FileLine) (lines : List FileLine) : Prop where
  run : (saveSessionSummaryEntry ok summary).run log = (.ok (), { log with files })
  other : ∀ q, q ≠ log.saveSessionFilePath → files q = log.files q
  contents : files.contents log.saveSessionFilePath = log.files.contents log.saveSessionFilePath ++
    lines
  lines_cases : lines = [] ∨ lines = [.summary summary] ∨ lines = [.summaryHeader, .summary summary]
  lines_ok : ok = true → lines = if (log.files log.saveSessionFilePath).isSome
    then [.summary summary] else [.summaryHeader, .summary summary]

/-- The paths and the files are those of the log that the call is made on. -/
theorem run_saveSessionSummaryEntry (ok : Bool) (summary : SessionSummary) (log : Log FileLine) :
    (saveSessionSummaryEntry ok summary).run log =
      (Java.attempt (if (log.files log.saveSessionFilePath).isSome then
          writeAppend ok log.saveSessionFilePath [FileLine.summary summary]
        else writeCreate ok log.saveSessionFilePath [FileLine.summaryHeader,
          FileLine.summary summary])
        fun _ => pure ()).run log := rfl

theorem saveSessionSummaryEntry_run (ok : Bool) (summary : SessionSummary) (log : Log FileLine) :
    ∃ files lines, SummarySaved ok summary log files lines := by
  have hrun := run_saveSessionSummaryEntry ok summary log
  cases hf : log.files log.saveSessionFilePath with
  | none =>
    rw [hf] at hrun
    cases ok with
    | false => exact ⟨log.files, [], hrun, fun _ _ => rfl, (List.append_nil _).symm, .inl rfl,
        nofun⟩
    | true =>
      refine ⟨log.files.create log.saveSessionFilePath [.summaryHeader, .summary summary], _, hrun,
        ?_, ?_, .inr (.inr rfl), fun _ => by rw [hf]; rfl⟩
      · exact fun q hq => Function.update_of_ne hq _ _
      · rw [FileStore.contents, FileStore.contents, FileStore.create, Function.update_self, hf]
        rfl
  | some old =>
    rw [hf, if_pos Option.isSome_some, Java.run_attempt] at hrun
    rcases writeAppend_cases ok log.saveSessionFilePath [FileLine.summary summary] log with
      ⟨files, hok, ha, hw⟩ | ⟨hno, hw⟩ <;> rw [hw] at hrun
    · refine ⟨files, [.summary summary], hrun, ?_, ?_, .inr (.inl rfl), fun _ => by rw [hf]; rfl⟩
      · exact fun q hq => FileStore.append_other _ _ _ _ q hq ha
      · exact FileStore.contents_append _ _ _ _ ha
    · refine ⟨log.files, [], hrun, fun _ _ => rfl, (List.append_nil _).symm, .inl rfl, ?_⟩
      rintro rfl
      rcases hno with hno | hno
      · cases hno
      · rw [FileStore.append, hf] at hno
        cases hno

/-- A summary is not a row of the tracker log. -/
theorem SummarySaved.row_mem_iff {ok : Bool} {summary : SessionSummary} {log : Log FileLine}
    {files : FileStore String FileLine} {lines : List FileLine}
    (h : SummarySaved ok summary log files lines)
    (p : String) (m : Message) (text : String) :
    .row m text ∈ files.contents p ↔ .row m text ∈ log.files.contents p := by
  by_cases hp : p = log.saveSessionFilePath
  · rw [hp, h.contents, List.mem_append]
    refine or_iff_left ?_
    rcases h.lines_cases with rfl | rfl | rfl <;> simp
  · rw [FileStore.contents, FileStore.contents, h.other p hp]

/-- The transitions of the service. -/
inductive Transition (cfg : LogConfig FileLine) (s : Service) : Event → Service → Prop where
  | thread (i : ℕ) (acts : Option (List DetectedActivity)) (s' : Service) (t t' : MonitoringThread)
      (move : ThreadMove i s s' t t') : Transition cfg s (.thread i acts) s'
  | startIgnored (ok : Bool) (idle : s.main = .idle) (active : s.traceActive = true) :
      Transition cfg s (.startTracing ok) s
  | started (ok : Bool) (world : World) (idle : s.main = .idle) (active : s.traceActive = false)
      (current : Current world) :
      Transition cfg s (.startTracing ok) { s with
        world
        log := (Log.started cfg world.sessionNumber s.log.files).withFile cfg ok
        threads := s.threads ++ [⟨true, .checking, world.sessionNumber, 0⟩]
        monitoringThread := some s.threads.length
        stopped := false }
  | handled (writes : Writes) (msg : Message) (rest : List Message) (world : World) (text : String)
      (idle : s.main = .idle) (queue : s.queue = msg :: rest) (step : TraceStep s.world world) :
      Transition cfg s (.handleMessage writes) { s with
        world
        log := ((handleMessage cfg s.world.sessionNumber writes (.row msg text)).run s.log).2
        queue := rest }
  | stopIgnored (source : StopSource) (idle : s.main = .idle) (active : s.traceActive = false) :
      Transition cfg s (.stopTracing source) { s with stopped := true }
  | stopping (source : StopSource) (i : ℕ) (t : MonitoringThread) (idle : s.main = .idle)
      (monitoringThread : s.monitoringThread = some i) (thread : s.threads[i]? = some t)
      (active : t.threadActive = true) :
      Transition cfg s (.stopTracing source) { s with
        threads := s.threads.set i { t with threadActive := false }
        main := .flushing
        stopped := true }
  | ui (op : UiOp) (world : World) (idle : s.main = .idle) (step : TraceStep s.world world) :
      Transition cfg s (.ui op) { s with world }
  | flushed (ok : Bool) (log : Log FileLine) (flushing : s.main = .flushing)
      (run : (saveUnsavedLogs ok).run s.log = (.ok (), log)) :
      Transition cfg s (.flush ok) { s with log, main := .saving }
  | flushFailed (ok : Bool) (log : Log FileLine) (e : Throwable) (flushing : s.main = .flushing)
      (run : (saveUnsavedLogs ok).run s.log = (.error e, log)) :
      Transition cfg s (.flush ok) { s with log, monitoringThread := none, main := .idle }
  | saved (ok : Bool) (world : World) (summary : SessionSummary) (saving : s.main = .saving)
      (step : TraceStep s.world world)
      (session : s.world.curSession.map SessionSummary.sessionId = some summary.sessionId) :
      Transition cfg s (.save ok) { s with
        world
        log := ((saveSessionSummaryEntry ok summary).run s.log).2
        main := .joining }
  | joined (i : ℕ) (joining : s.main = .joining) (monitoringThread : s.monitoringThread = some i)
      (ended : ∀ t, s.threads[i]? = some t → t.pc = .ended) :
      Transition cfg s .join { s with monitoringThread := none, main := .idle }

section Transition

variable {A : Android} {cfg : LogConfig FileLine} {s s' : Service}

theorem traceActive_eq_true (h : s.traceActive = true) :
    ∃ i t, s.monitoringThread = some i ∧ s.threads[i]? = some t ∧ t.threadActive = true := by
  unfold Service.traceActive at h
  cases hm : s.monitoringThread with
  | none => simp [hm] at h
  | some i =>
    cases ht : s.threads[i]? with
    | none => simp [hm, ht] at h
    | some t => exact ⟨i, t, rfl, ht, by simpa [hm, ht] using h⟩

theorem traceActive_eq (i : ℕ) (t : MonitoringThread) (hm : s.monitoringThread = some i)
    (ht : s.threads[i]? = some t) : s.traceActive = t.threadActive := by
  simp [Service.traceActive, hm, ht]

theorem requestStop_active (source : StopSource) (i : ℕ) (t : MonitoringThread)
    (hm : s.monitoringThread = some i) (ht : s.threads[i]? = some t)
    (hact : t.threadActive = true) :
    requestStop source s = { s with
      threads := s.threads.set i { t with threadActive := false }, main := .flushing, stopped :=
        true } := by
  have htrue := (traceActive_eq i t hm ht).trans hact
  rw [← modify_eq_set_of_some s.threads i (fun t => { t with threadActive := false }) t ht]
  cases source <;> simp [requestStop, stopTracing, hm, htrue]

theorem requestStop_inactive (source : StopSource) (hact : s.traceActive = false) :
    requestStop source s = { s with stopped := true } := by
  cases source <;> cases hm : s.monitoringThread <;> simp [requestStop, stopTracing, hm, hact]

theorem transition_stop (source : StopSource) (hidle : s.main = .idle) :
    Transition cfg s (.stopTracing source) (requestStop source s) := by
  by_cases hact : s.traceActive = true
  · obtain ⟨i, t, hm, ht, htrue⟩ := traceActive_eq_true hact
    rw [requestStop_active source i t hm ht htrue]
    exact .stopping source i t hidle hm ht htrue
  · have hact := Bool.eq_false_iff.mpr hact
    rw [requestStop_inactive source hact]
    exact .stopIgnored source hidle hact

theorem startTracing_cases (ok : Bool) (h : startTracing A cfg ok s = some s') :
    (s.traceActive = true ∧ s' = s) ∨
    (s.traceActive = false ∧ ∃ world, (seedTracing A).run s.world = (.ok (), world) ∧
      s' = { s with
      world
      log := (Log.started cfg world.sessionNumber s.log.files).withFile cfg ok
      threads := s.threads ++ [⟨true, .checking, world.sessionNumber, 0⟩]
      monitoringThread := some s.threads.length
      stopped := false }) := by
  unfold startTracing at h
  split_ifs at h with hact
  · cases h
    exact .inl ⟨hact, rfl⟩
  · rcases hseed : (seedTracing A).run s.world with ⟨e | u, world⟩ <;> rw [hseed] at h
    · cases h
    · cases h
      rw [startLog_run]
      exact .inr ⟨Bool.eq_false_iff.mpr hact, world, rfl, rfl⟩

theorem transition_start (ok : Bool) (hidle : s.main = .idle)
    (h : startTracing A cfg ok s = some s') : Transition cfg s (.startTracing ok) s' := by
  rcases startTracing_cases ok h with ⟨hact, rfl⟩ | ⟨hact, world, hseed, rfl⟩
  · exact .startIgnored ok hidle hact
  · exact .started ok world hidle hact (current_seedTracing A s.world world hseed)

theorem transition_save (ok : Bool) (hsaving : s.main = .saving) (h : saveStep A ok s = some s') :
    Transition cfg s (.save ok) s' := by
  obtain ⟨session, hs, rfl⟩ := Option.map_eq_some_iff.mp h
  apply Transition.saved ok _ _ hsaving
  · refine ⟨rfl, ?_⟩
    rintro ⟨session', hs', hid⟩
    rw [hs] at hs'
    cases hs'
    exact ⟨_, rfl, hid⟩
  · rw [hs]
    rfl

/-- Where the main thread has to stand for one of its operations. -/
def Event.main : Event → Option MainPc
  | .thread _ _ => none
  | .startTracing _ | .handleMessage _ | .stopTracing _ | .ui _ => some .idle
  | .flush _ => some .flushing
  | .save _ => some .saving
  | .join => some .joining

theorem main_of_step {e : Event} (h : step A cfg s e = some s') (pc : MainPc)
    (he : e.main = some pc) : s.main = pc := by
  cases e <;> cases he <;> cases hm : s.main <;> simp only [step, hm] at h <;> first | rfl | cases h

theorem transition_of_step (e : Event) (h : step A cfg s e = some s') : Transition cfg s e s' := by
  cases e with
  | thread i acts =>
    obtain ⟨t, ht, hstep⟩ :=
        Option.bind_eq_some_iff.mp (show (s.threads[i]?.bind _) = some s' from by
      simpa only [step] using h)
    obtain ⟨t', hmove⟩ := threadMove_of_threadStep acts ht hstep
    exact .thread i acts s' t t' hmove
  | startTracing ok =>
    have hm := main_of_step h .idle rfl
    simp only [step, hm] at h
    exact transition_start ok hm h
  | handleMessage writes =>
    have hm := main_of_step h .idle rfl
    simp only [step, hm] at h
    unfold handleNext at h
    cases hq : s.queue with
    | nil => simp [hq] at h
    | cons msg rest =>
      simp only [hq] at h
      cases h
      exact .handled writes msg rest _ _ hm hq (traceStep_toString A msg.obj s.world)
  | stopTracing source =>
    have hm := main_of_step h .idle rfl
    simp only [step, hm] at h
    cases h
    exact transition_stop source hm
  | flush ok =>
    have hm := main_of_step h .flushing rfl
    simp only [step, hm] at h
    cases h
    unfold flushStep
    rcases hrun : (saveUnsavedLogs ok).run s.log with ⟨e | u, log⟩
    · exact .flushFailed ok log e hm hrun
    · exact .flushed ok log hm hrun
  | save ok =>
    have hm := main_of_step h .saving rfl
    simp only [step, hm] at h
    exact transition_save ok hm h
  | join =>
    have hm := main_of_step h .joining rfl
    simp only [step, hm, joinStep] at h
    cases hmt : s.monitoringThread with
    | none => simp [hmt] at h
    | some i =>
      simp only [hmt] at h
      split_ifs at h with hended
      cases h
      refine .joined i hm hmt ?_
      intro t ht
      simpa [ht] using hended
  | ui op =>
    have hm := main_of_step h .idle rfl
    simp only [step, hm] at h
    cases h
    exact .ui op _ hm (traceStep_ui A op s.world)

end Transition

/-! A thread that nobody interrupts does a round of the sampling loop: it comes back to
its check if `iteration` completes, and ends if `iteration` throws. -/

section Round

variable {A : Android} {cfg : LogConfig FileLine} {i : ℕ} {acts : Option (List DetectedActivity)}
    {α β : Type}

/-- Steps of thread `i` alone lead to the outcome `o`. -/
def RoundEnds (A : Android) (cfg : LogConfig FileLine) (i : ℕ)
    (acts : Option (List DetectedActivity)) (s : Service)
    (o : Except Throwable α × World) : Prop :=
  ∃ (events : List Event) (s' : Service) (t' : MonitoringThread),
    (∀ e ∈ events, e = .thread i acts) ∧ runEvents (step A cfg) s events = some s' ∧
      s'.threads[i]? = some t' ∧ s'.world = o.2 ∧
    t'.pc = match o.1 with
      | .ok _ => .checking
      | .error _ => .ended

theorem roundEnds_now (s : Service) (t : MonitoringThread) (o : Except Throwable α × World)
    (ht : s.threads[i]? = some t) (hw : s.world = o.2)
    (hpc : t.pc = match o.1 with
      | .ok _ => .checking
      | .error _ => .ended) : RoundEnds A cfg i acts s o :=
  ⟨[], s, t, fun _ he => absurd he List.not_mem_nil, rfl, ht, hw, hpc⟩

theorem roundEnds_step (s s₁ : Service) (t : MonitoringThread) (o : Except Throwable α × World)
    (ht : s.threads[i]? = some t) (hstep : threadStep A i acts s t = some s₁)
    (h : RoundEnds A cfg i acts s₁ o) : RoundEnds A cfg i acts s o := by
  obtain ⟨events, s', t', hthread, hrun, hrest⟩ := h
  refine ⟨.thread i acts :: events, s', t', List.forall_mem_cons.mpr ⟨rfl, hthread⟩, ?_, hrest⟩
  have hs : step A cfg s (.thread i acts) = some s₁ := by
    change (s.threads[i]?.bind fun t => threadStep A i acts s t) = some s₁
    rw [ht]
    exact hstep
  rw [runEvents, hs]
  exact hrun

/-- One statement of the loop, and then the rest. -/
theorem roundEnds_body (s : Service) (t : MonitoringThread) (x : Java World α)
    (k : α → Service → Service) (f : α → Java World β) (ht : s.threads[i]? = some t)
    (hstep : threadStep A i acts s t = some (s.body i x k))
    (hk : ∀ a w, x.run s.world = (.ok a, w) →
      RoundEnds A cfg i acts (k a { s with world := w }) ((f a).run w)) :
    RoundEnds A cfg i acts s ((x >>= f).run s.world) := by
  apply roundEnds_step s _ t _ ht hstep
  unfold Service.body
  rcases hx : x.run s.world with ⟨e | a, w⟩
  · rw [Java.bind_error _ _ _ w e hx]
    have hlt := (List.getElem?_eq_some_iff.mp ht).1
    apply roundEnds_now _ { t with threadActive := false, pc := .ended } _ _ rfl rfl
    change (s.threads.modify i _)[i]? = _
    rw [modify_eq_set_of_some s.threads i _ t ht, List.getElem?_set_self hlt]
  · rw [Java.bind_ok _ _ _ w a hx]
    exact hk a w hx

theorem move_thread (s : Service) (t : MonitoringThread) (pc : ThreadPc)
    (ht : s.threads[i]? = some t) : (s.move i pc).threads[i]? = some { t with pc } := by
  have hlt := (List.getElem?_eq_some_iff.mp ht).1
  change (s.threads.modify i _)[i]? = _
  rw [modify_eq_set_of_some s.threads i _ t ht, List.getElem?_set_self hlt]

theorem roundEnds_pausing (s : Service) (t : MonitoringThread) (startTime : ℤ)
    (report : Option Report) (ht : s.threads[i]? = some t) (hpc : t.pc = .pausing startTime) :
    RoundEnds A cfg i acts s ((sleepUntilNext A startTime >>= fun _ => pure report).run s.world) :=
      by
  apply roundEnds_body s t _ (fun _ s => s.move i .checking) _ ht
  · rw [threadStep, hpc]
  · intro a w _
    exact roundEnds_now _ _ _ (move_thread { s with world := w } t .checking ht) rfl rfl

theorem roundEnds_sending (s : Service) (t : MonitoringThread) (startTime : ℤ)
    (ht : s.threads[i]? = some t) (hpc : t.pc = .sending startTime) :
    RoundEnds A cfg i acts s
        ((publish A s.report >>= fun _ => sleepUntilNext A startTime >>= fun _ =>
      pure s.report).run s.world) := by
  have hlt := (List.getElem?_eq_some_iff.mp ht).1
  cases hr : s.report with
  | none =>
    apply roundEnds_step s (s.move i (.pausing startTime)) t _ ht
    · rw [threadStep, hpc, hr]
    · exact roundEnds_pausing _ _ startTime none (move_thread s t _ ht) rfl
  | some r =>
    have hsent : (s.send i startTime t r).threads[i]? =
        some { t with pc := .publishing startTime, sent := t.sent+1 } := by
      change (s.threads.modify i _)[i]? = _
      rw [modify_eq_set_of_some s.threads i _ t ht, List.getElem?_set_self hlt]
    apply roundEnds_step s (s.send i startTime t r) t _ ht
    · rw [threadStep, hpc, hr]
    · refine roundEnds_body _ _ (publish A (some r))
        (fun _ s => s.move i (.pausing startTime)) _ hsent ?_ ?_
      · change some (Service.body (s.send i startTime t r) i (Java.nonNull s.report >>= fun r =>
          publish A (some r)) _) = _
        rw [hr]
        rfl
      · intro a w _
        exact roundEnds_pausing _ _ startTime (some r)
          (move_thread { s.send i startTime t r with world := w } _ _ hsent) rfl

/-- The concurrent model runs the same loop body as the sequential one. -/
theorem thread_round (A : Android) (cfg : LogConfig FileLine) (i : ℕ)
    (acts : Option (List DetectedActivity)) (s : Service) (t : MonitoringThread)
    (ht : s.threads[i]? = some t) (hpc : t.pc = .sampling) :
    RoundEnds A cfg i acts s ((iteration A acts).run s.world) := by
  have hiter : (iteration A acts).run s.world = (takeSample A >>= fun sample =>
      attachActivities sample.2 acts >>= fun report => publish A report >>= fun _ =>
        sleepUntilNext A sample.1 >>= fun _ => pure report).run s.world := by
    obtain ⟨report, w₁, h, -⟩ := sampleFrom_ok (A := A) s.world
    have hsample : (takeSample A).run s.world =
        (.ok ((A.moment s.world.tick).now, report), w₁) := by
      unfold takeSample
      rw [Java.bind_ok _ _ s.world { s.world with tick := s.world.tick+1 }
        (A.moment s.world.tick).now rfl,
        Java.bind_ok _ _ _ w₁ report h]
      rfl
    rw [iteration_run acts s.world w₁ report h, Java.bind_ok _ _ _ w₁ _ hsample]
  rw [hiter]
  apply roundEnds_body s t _ (fun sample s =>
    Service.move { s with report := sample.2 } i (.attaching sample.1)) _ ht
  · rw [threadStep, hpc]
  · intro sample w _
    have ht₁ := move_thread { s with world := w, report := sample.2 } t (.attaching sample.1) ht
    refine roundEnds_body _ _ (attachActivities sample.2 acts)
      (fun report s => Service.move { s with report } i (.sending sample.1)) _ ht₁ rfl ?_
    intro report w' _
    exact roundEnds_sending _ _ sample.1
      (move_thread { Service.move { s with world := w, report := sample.2 } i
        (.attaching sample.1) with world := w', report } _ (.sending sample.1) ht₁) rfl

end Round

end MmWaveTracker
