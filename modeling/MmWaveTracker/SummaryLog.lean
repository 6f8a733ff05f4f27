import MmWaveTracker.OneSampler
import MmWaveTracker.SessionClosing

/-! The two routes of a report: through the queue and the buffer into the part files, and
into the summary of the session. `StopTracing` writes both, and then waits for the thread. -/
namespace MmWaveTracker

variable {A : Android} {cfg : LogConfig FileLine} {s s' : Service}

/-! The summary that reports add up to. -/

/-- `processNetworkReport` on one report after the other, whether or not it throws. -/
def processAll (A : Android) (w : World) (reports : List Report) : World :=
  reports.foldl (fun w r => ((processNetworkReport A w.sessionNumber r).run w).2) w

/-- What a report adds to the counters. -/
def HandoffView.count (v : HandoffView) (r : Report) : HandoffView where
  towers := insert r.mCid v.towers
  nTowers := (insert r.mCid v.towers).card
  nHandoffs := if r.handoff.handoffType ≠ 0 then increment v.nHandoffs else v.nHandoffs
  nVerticalHandoffs :=
    if r.handoff.verticalHandoff = 1 then increment v.nVerticalHandoffs else v.nVerticalHandoffs
  nHorizontalHandoffs :=
    if r.handoff.horizontalHandoff = 1 then increment v.nHorizontalHandoffs
      else v.nHorizontalHandoffs
  curHandoffOrientation := handoffOrientation r.handoff v.curHandoffOrientation

/-- The counters after the given reports of a new session. -/
def countAll (reports : List Report) : HandoffView :=
  reports.foldl HandoffView.count ⟨∅, 0, 0, 0, 0, 0⟩

theorem sessionView_processNetworkReport (sessionId : String) (r : Report) (w : World) :
    sessionView ((processNetworkReport A sessionId r).run w).2 =
      (sessionView w).map (HandoffView.count · r) := by
  rw [processNetworkReport_view, sessionView, Option.map_map]
  rfl

theorem sessionView_processAll (w : World) (reports : List Report) :
    sessionView (processAll A w reports) = (sessionView w).map fun v =>
      reports.foldl HandoffView.count v := by
  induction reports generalizing w with
  | nil => exact Option.map_id'.symm
  | cons r rest ih =>
    rw [processAll, List.foldl_cons]
    exact (ih _).trans (by rw [sessionView_processNetworkReport, Option.map_map]; rfl)

theorem countAll_concat (reports : List Report) (r : Report) :
    countAll (reports ++ [r]) = (countAll reports).count r := List.foldl_concat ..

/-! What a step does to the summary, and to the report that the thread is working on. -/

/-- Between the send and `processNetworkReport`. -/
def ThreadPc.isPublishing : ThreadPc → Bool
  | .publishing _ => true
  | _ => false

/-- A step of thread `i`, by what becomes of its report. -/
inductive ThreadEffect (i : ℕ) (s s' : Service) (t t' : MonitoringThread) : Prop where
  | quiet (queue : s'.queue = s.queue) (sent : t'.sent = t.sent)
      (view : sessionView s'.world = sessionView s.world)
      (before : t.pc.isPublishing = false) (after : t'.pc.isPublishing = false)
  | sends (obj : Report) (queue : s'.queue = s.queue ++ [⟨i, t.sent, obj⟩])
      (sent : t'.sent = t.sent+1) (view : sessionView s'.world = sessionView s.world)
        (report : s'.report = some obj)
      (before : t.pc.isPublishing = false) (after : t'.pc.isPublishing = true)
  | counts (obj : Report) (report : s.report = some obj) (queue : s'.queue = s.queue)
      (sent : t'.sent = t.sent)
        (view : sessionView s'.world = (sessionView s.world).map (HandoffView.count · obj))
      (before : t.pc.isPublishing = true) (after : t'.pc.isPublishing = false)

theorem sessionView_blind : Blind sessionView := fun _ _ _ _ _ _ => rfl

theorem SampleStep.sessionView_eq (w w' : World) (h : SampleStep w w') :
    sessionView w' = sessionView w :=
  congrArg (Option.map handoffView) h.curSession

section ThreadEffect

variable {i : ℕ} {t : MonitoringThread} {α : Type}

theorem getElem?_modify_self (l : List MonitoringThread) (f : MonitoringThread → MonitoringThread)
    (ht : l[i]? = some t) : (l.modify i f)[i]? = some (f t) := by
  rw [modify_eq_set_of_some l i f t ht, List.getElem?_set_self (List.getElem?_eq_some_iff.mp ht).1]

theorem body_cases (s : Service) (i : ℕ) (x : Java World α) (k : α → Service → Service) :
    (∃ e world, x.run s.world = (.error e, world) ∧
      s.body i x k = Service.finish { s with world } i) ∨
    ∃ a world, x.run s.world = (.ok a, world) ∧ s.body i x k = k a { s with world } := by
  unfold Service.body
  rcases x.run s.world with ⟨e | a, world⟩
  · exact .inl ⟨e, world, rfl, rfl⟩
  · exact .inr ⟨a, world, rfl, rfl⟩

/-- A statement that does not touch the summary. -/
theorem threadEffect_body (ht : s.threads[i]? = some t) (hbefore : t.pc.isPublishing = false)
    (x : Java World α) (k : α → Service → Service) (report : α → Option Report) (pc : α → ThreadPc)
    (hx : ∀ w, sessionView (x.run w).2 = sessionView w)
    (hk : ∀ a world,
      k a { s with world } = Service.move { s with world, report := report a } i (pc a))
    (hpc : ∀ a, (pc a).isPublishing = false) :
    ∃ t', (s.body i x k).threads[i]? = some t' ∧ ThreadEffect i s (s.body i x k) t t' := by
  have hview := hx s.world
  rcases body_cases s i x k with ⟨e, world, hrun, hbody⟩ | ⟨a, world, hrun, hbody⟩ <;>
    rw [hrun] at hview <;> rw [hbody]
  · exact ⟨_, getElem?_modify_self s.threads _ ht, .quiet rfl rfl hview hbefore rfl⟩
  · rw [hk]
    exact ⟨_, getElem?_modify_self s.threads _ ht, .quiet rfl rfl hview hbefore (hpc a)⟩

theorem sessionView_publish (r : Report) (w : World) :
    sessionView ((publish A (some r)).run w).2 = (sessionView w).map (HandoffView.count · r) := by
  have hbroadcast : Java.Leaves sessionView (broadcastNetworkReportIntent A) :=
    leaves_broadcast sessionView_blind
  have hcount := sessionView_processNetworkReport (A := A) w.sessionNumber r w
  unfold publish
  rw [Java.bind_ok _ _ w w w rfl, Java.run_bind, ← hcount]
  rcases (processNetworkReport A w.sessionNumber r).run w with ⟨e | _, w'⟩
  · rfl
  · exact hbroadcast w'

theorem threadEffect_of_threadStep (acts : Option (List DetectedActivity))
      (ht : s.threads[i]? = some t)
    (hreport : t.pc.isPublishing = true → s.report.isSome) (h : threadStep A i acts s t = some s') :
    ∃ t', s'.threads[i]? = some t' ∧ ThreadEffect i s s' t t' := by
  unfold threadStep at h
  cases hp : t.pc with
  | checking =>
    rw [hp] at h
    cases h
    split_ifs
    · exact ⟨_, getElem?_modify_self s.threads _ ht, .quiet rfl rfl rfl (by rw [hp]; rfl) rfl⟩
    · exact ⟨_, getElem?_modify_self s.threads _ ht, .quiet rfl rfl rfl (by rw [hp]; rfl) rfl⟩
  | sampling =>
    rw [hp] at h
    cases h
    apply threadEffect_body ht (by rw [hp]; rfl) _ _ (fun a => a.2) (fun a => .attaching a.1) _
      (fun _ _ => rfl) (fun _ => rfl)
    have hsample : Java.Leaves sessionView (takeSample A) := by
      refine Java.within_bind ((deviceCall_observe (A := A) _).leaves sessionView_blind) fun _ => ?_
      refine Java.within_bind ?_ fun _ => Java.within_pure _
      exact Java.within_mono (within_networkInfoToReport A) SampleStep.sessionView_eq
    exact hsample
  | attaching startTime =>
    rw [hp] at h
    cases h
    apply threadEffect_body ht (by rw [hp]; rfl) _ _ id (fun _ => .sending startTime) _
      (fun _ _ => rfl) (fun _ => rfl)
    intro w
    rw [attachActivities_state]
  | sending startTime =>
    rw [hp] at h
    cases h
    cases hr : s.report with
    | none => exact ⟨_, getElem?_modify_self s.threads _ ht,
        .quiet rfl rfl rfl (by rw [hp]; rfl) rfl⟩
    | some obj =>
      exact ⟨_, getElem?_modify_self s.threads _ ht,
        .sends obj rfl rfl rfl hr (by rw [hp]; rfl) rfl⟩
  | publishing startTime =>
    obtain ⟨obj, hobj⟩ := Option.isSome_iff_exists.mp (hreport (by rw [hp]; rfl))
    rw [hp] at h
    cases h
    have hview := sessionView_publish (A := A) obj s.world
    rw [hobj]
    have hpublish : (Java.nonNull (some obj) >>= fun r => publish A (some r)) =
        publish A (some obj) := rfl
    rw [hpublish]
    rcases body_cases s i (publish A (some obj)) fun _ s => s.move i (.pausing startTime) with
      ⟨e, world, hrun, hbody⟩ | ⟨_, world, hrun, hbody⟩ <;> rw [hrun] at hview <;> rw [hbody]
    · exact ⟨_, getElem?_modify_self s.threads _ ht,
        .counts obj hobj rfl rfl hview (by rw [hp]; rfl) rfl⟩
    · exact ⟨_, getElem?_modify_self s.threads _ ht,
        .counts obj hobj rfl rfl hview (by rw [hp]; rfl) rfl⟩
  | pausing startTime =>
    rw [hp] at h
    cases h
    apply threadEffect_body ht (by rw [hp]; rfl) _ _ (fun _ => s.report) (fun _ => .checking) _
      (fun _ _ => rfl) (fun _ => rfl)
    have hsleep : Java.Leaves sessionView (sleepUntilNext A startTime) := by
      refine Java.within_bind ((deviceCall_observe (A := A) _).leaves sessionView_blind) fun _ => ?_
      exact Java.within_bind Java.within_get fun w => within_sleep _
    exact hsleep
  | ended =>
    rw [hp] at h
    cases h

end ThreadEffect

/-- `StartTracing` begins with an empty summary for the second it was called in. -/
def nextSessionNumber (A : Android) (w : World) : String := valueOf ((A.moment w.tick).now/1000)

theorem seedTracing_session (w w' : World) (h : (seedTracing A).run w = (.ok (), w')) :
    w'.sessionNumber = nextSessionNumber A w ∧ sessionView w' = some (countAll []) := by
  let session (w : World) : String × Option HandoffView := (w.sessionNumber, sessionView w)
  have hobs {α : Type} (f : Moment → α) : Java.Leaves session (observe A f) := fun _ => rfl
  have hwindows (n : ℕ) : Java.Leaves session (seedWindows A n) := by
    induction n with
    | zero => exact Java.within_pure _
    | succ n ih =>
      refine Java.within_bind (hobs _) fun _ => ?_
      exact Java.within_bind (Java.within_modify _ fun _ => rfl) fun _ => ih
  have hrest : Java.Leaves session (observe A Moment.lastLoc >>= fun lastLoc =>
      Java.nonNull lastLoc >>= fun lastLoc =>
      (Java.modify fun w =>
        { w with mobilityLabelQueue := fillMobilityLabelQueue lastLoc w.mobilityLabelQueue }) >>=
        fun _ => seedWindows A (speedCalculationWindowSize+1)) := by
    refine Java.within_bind (hobs _) fun _ => ?_
    refine Java.within_bind (Java.within_nonNull _) fun _ => ?_
    exact Java.within_bind (Java.within_modify _ fun _ => rfl) fun _ => hwindows _
  obtain ⟨now, w₁, h₁, h⟩ := Java.bind_eq_ok _ _ _ _ _ h
  cases h₁
  obtain ⟨u, w₂, h₂, h⟩ := Java.bind_eq_ok _ _ _ _ _ h
  have hsame := hrest w₂
  rw [h] at hsame
  cases h₂
  exact ⟨congrArg Prod.fst hsame, congrArg Prod.snd hsame⟩

/-- Besides the sampling threads, only `StartTracing` touches the counters of the summary. -/
theorem sessionView_of_step {e : Event} (h : step A cfg s e = some s')
    (hthread : ∀ i acts, e ≠ .thread i acts) (hstart : StartsSession s e = false) :
    sessionView s'.world = sessionView s.world := by
  cases e with
  | thread i acts => exact absurd rfl (hthread i acts)
  | startTracing ok =>
    have hactive : s.traceActive = true := by simpa [StartsSession] using hstart
    simp only [step, main_of_step h .idle rfl, startTracing, hactive, if_true] at h
    cases h
    rfl
  | handleMessage writes =>
    simp only [step, main_of_step h .idle rfl, handleNext] at h
    cases hq : s.queue with
    | nil => simp [hq] at h
    | cons msg rest =>
      simp only [hq] at h
      cases h
      have hrow : Java.Leaves sessionView (msg.obj.toString A) :=
        Java.within_bind (Java.within_mono (within_rowValues msg.obj) fun _ _ h =>
            h.blind sessionView_blind) fun _ =>
          Java.within_pure _
      exact hrow s.world
  | stopTracing source =>
    simp only [step, main_of_step h .idle rfl] at h
    cases h
    cases hactive : s.traceActive with
    | false => rw [requestStop_inactive source hactive]
    | true =>
      obtain ⟨i, t, hm, ht, htrue⟩ := traceActive_eq_true hactive
      rw [requestStop_active source i t hm ht htrue]
  | flush ok =>
    simp only [step, main_of_step h .flushing rfl, flushStep] at h
    split at h <;> cases h <;> rfl
  | save ok =>
    simp only [step, main_of_step h .saving rfl, saveStep] at h
    obtain ⟨session, hs, rfl⟩ := Option.map_eq_some_iff.mp h
    have hview : sessionView s.world = some (handoffView session) :=
      congrArg (Option.map handoffView) hs
    exact hview.symm
  | join =>
    simp only [step, main_of_step h .joining rfl, joinStep] at h
    split at h
    · split_ifs at h
      cases h
      rfl
    · cases h
  | ui op =>
    simp only [step, main_of_step h .idle rfl] at h
    cases h
    have hop : Java.Leaves sessionView (op.exec A) := by
      cases op with
      | device => exact Java.within_mono within_newDevice SampleStep.sessionView_eq
      | connectType =>
        exact Java.within_bind (deviceCall_getConnectType.leaves sessionView_blind) fun _ =>
          Java.within_pure _
      | setRate millis => exact Java.within_modify _ fun _ => rfl
    exact hop s.world

/-! The reports of the session whose thread was created last. -/

/-- The row of the report is in a part file of the session. -/
def RowSaved (cfg : LogConfig FileLine) (s : Service) (sessionNumber : String) (m : Message) :
    Prop :=
  ∃ text part, .row m text ∈ s.log.files.contents (partPath cfg sessionNumber part)

/-- The row of the report is in the buffer, or in a part file of the current session. -/
def InLog (cfg : LogConfig FileLine) (s : Service) (m : Message) : Prop :=
  (∃ text, .row m text ∈ s.log.reportLines) ∨ RowSaved cfg s s.world.sessionNumber m

/-- The reports that the summary has counted: all, but for the last one while the thread is
between sending it and counting it. -/
def countedReports (t : MonitoringThread) (sent : List Message) : List Report :=
  (if t.pc.isPublishing then sent.dropLast else sent).map Message.obj

/-- The last line of the summary file counts the given reports. -/
def Summarises (cfg : LogConfig FileLine) (s : Service) (reports : List Message) : Prop :=
  ∃ summary old, s.log.files.contents (sessionSummaryPath cfg) = old ++ [.summary summary] ∧
    summary.sessionId = s.world.sessionNumber ∧
      handoffView summary = countAll (reports.map Message.obj)

/-- The thread has sent the `handled` reports and those in the queue, in this order. -/
structure Balanced (cfg : LogConfig FileLine) (s : Service) (t : MonitoringThread)
    (handled : List Message) : Prop where
  thread : s.threads.getLast? = some t
  sender : ∀ m ∈ handled ++ s.queue, m.sender+1 = s.threads.length
  index : (handled ++ s.queue).map Message.index = List.range t.sent
  inLog : ∀ m, InLog cfg s m ↔ m ∈ handled
  counters : sessionView s.world = some (countAll (countedReports t (handled ++ s.queue)))
  pending : t.pc.isPublishing = true → ∃ m, (handled ++ s.queue).getLast? = some m ∧
    s.report = some m.obj
  flushed : s.main = .saving ∨ s.main = .joining → s.log.reportLines = []
  summarised : s.main = .joining → Summarises cfg s handled

/-- A step that moves no report, and leaves the main thread where no more is asked of it. -/
theorem Balanced.of_frame {t : MonitoringThread} {handled : List Message}
    (h : Balanced cfg s t handled) (hthreads : s'.threads = s.threads) (hqueue : s'.queue = s.queue)
    (hreport : s'.report = s.report)
    (hview : sessionView s'.world = sessionView s.world)
    (hlog : ∀ m, InLog cfg s' m ↔ InLog cfg s m)
    (hflushed : s'.main = .saving ∨ s'.main = .joining → s'.log.reportLines = [])
    (hsummary : s'.main = .joining → Summarises cfg s' handled) : Balanced cfg s' t handled := by
  refine ⟨?_, ?_, ?_, fun m => (hlog m).trans (h.inLog m), ?_, ?_, hflushed, hsummary⟩
  · rw [hthreads]
    exact h.thread
  · rw [hthreads, hqueue]
    exact h.sender
  · rw [hqueue]
    exact h.index
  · rw [hview, hqueue]
    exact h.counters
  · rw [hqueue, hreport]
    exact h.pending

/-- Rows that are delivered were in the buffer or are new. -/
theorem inLog_of_delivers (s s' : Service) (new : List FileLine) (hheader : cfg.header = .header)
    (hpath : s.log.saveFilePath = partPath cfg s.world.sessionNumber s.log.part)
    (hnumber : s'.world.sessionNumber = s.world.sessionNumber) (hd : Delivers cfg new s.log s'.log)
    (m : Message) :
    InLog cfg s' m ↔ InLog cfg s m ∨ ∃ text, .row m text ∈ new := by
  have hsplit (text : String) (hl : .row m text ∈ s.log.reportLines ++ new) :
      InLog cfg s m ∨ ∃ text, .row m text ∈ new := by
    rcases List.mem_append.mp hl with hl | hl
    · exact .inl (.inl ⟨text, hl⟩)
    · exact .inr ⟨text, hl⟩
  have hjoin (text : String) (hl : .row m text ∈ s.log.reportLines ++ new) : InLog cfg s' m := by
    rcases hd.delivered _ hl with hl | hl
    · exact .inl ⟨text, hl⟩
    · rw [hpath, ← hnumber] at hl
      exact .inr ⟨text, s.log.part, hl⟩
  constructor
  · rintro (⟨text, hl⟩ | ⟨text, part, hl⟩)
    · exact hsplit text (hd.buffer _ hl)
    · rcases hd.written _ _ hl with hl | ⟨-, hl⟩ | hl
      · exact .inl (.inr ⟨text, part, hnumber ▸ hl⟩)
      · exact hsplit text hl
      · rw [hheader] at hl
        cases hl
  · rintro ((⟨text, hl⟩ | ⟨text, part, hl⟩) | ⟨text, hl⟩)
    · exact hjoin text (List.mem_append_left _ hl)
    · exact .inr ⟨text, part, hnumber ▸ hd.kept _ _ hl⟩
    · exact hjoin text (List.mem_append_right _ hl)

theorem Balanced.last_eq {t : MonitoringThread} {handled : List Message}
    (h : Balanced cfg s t handled) (i : ℕ) (hi : i+1 = s.threads.length) :
    s.threads[i]? = some t := by
  rw [← h.thread, List.getLast?_eq_getElem?, ← hi]
  rfl

/-- Replacing the last thread. -/
theorem getLast?_set_last (l : List MonitoringThread) (i : ℕ) (t : MonitoringThread)
    (hi : i+1 = l.length) : (l.set i t).getLast? = some t := by
  rw [List.getLast?_eq_getElem?, List.length_set, ← hi]
  exact List.getElem?_set_self (by omega)

theorem Balanced.threadMove {i : ℕ} {t t₀ t' : MonitoringThread} {handled : List Message}
    (h : Balanced cfg s t₀ handled) (ho : Orderly s) (hm : ThreadMove i s s' t t')
    (he : ThreadEffect i s s' t t') :
    Balanced cfg s' t' handled := by
  have hi := ho.last i t hm.thread hm.running
  obtain rfl : t₀ = t := Option.some.inj ((h.last_eq i hi).symm.trans hm.thread)
  have hlen : s'.threads.length = s.threads.length := by rw [hm.threads, List.length_set]
  have hthread : s'.threads.getLast? = some t' := by
    rw [hm.threads]
    exact getLast?_set_last _ i t' hi
  have hlog (m : Message) : InLog cfg s' m ↔ InLog cfg s m := by
    unfold InLog RowSaved
    rw [hm.log, hm.world.sessionNumber]
  have hflushed : s'.main = .saving ∨ s'.main = .joining → s'.log.reportLines = [] := by
    rw [hm.main, hm.log]
    exact h.flushed
  have hsummary : s'.main = .joining → Summarises cfg s' handled := by
    unfold Summarises
    rw [hm.main, hm.log, hm.world.sessionNumber]
    exact h.summarised
  have hcounters := h.counters
  cases he with
  | quiet queue sent view before after =>
    refine ⟨hthread, ?_, ?_, fun m => (hlog m).trans (h.inLog m), ?_, ?_, hflushed, hsummary⟩
    · rw [queue, hlen]
      exact h.sender
    · rw [queue, sent]
      exact h.index
    · rw [view, queue, hcounters, countedReports, countedReports, before, after]
    · rw [after]
      exact fun hf => absurd hf Bool.false_ne_true
  | sends obj queue sent view report before after =>
    have hqueue : handled ++ s'.queue = handled ++ s.queue ++ [⟨i, t₀.sent, obj⟩] := by
      rw [queue, List.append_assoc]
    refine ⟨hthread, ?_, ?_, fun m => (hlog m).trans (h.inLog m), ?_, ?_, hflushed, hsummary⟩
    · rw [hqueue, hlen]
      intro m hmem
      rcases List.mem_append.mp hmem with hmem | hmem
      · exact h.sender m hmem
      · rw [List.mem_singleton.mp hmem]
        exact hi
    · rw [hqueue, List.map_append, h.index, sent, List.range_succ]
      rfl
    · rw [view, hqueue, hcounters, countedReports, countedReports, before, after, if_pos rfl,
        List.dropLast_concat]
      rfl
    · rw [hqueue, List.getLast?_concat, report]
      exact fun _ => ⟨_, rfl, rfl⟩
  | counts obj report queue sent view before after =>
    obtain ⟨m, hlast, hobj⟩ := h.pending before
    have hsame : m.obj = obj := Option.some.inj (hobj.symm.trans report)
    refine ⟨hthread, ?_, ?_, fun m => (hlog m).trans (h.inLog m), ?_, ?_, hflushed, hsummary⟩
    · rw [queue, hlen]
      exact h.sender
    · rw [queue, sent]
      exact h.index
    · have hsplit : (handled ++ s.queue).dropLast ++ [m] = handled ++ s.queue :=
        List.dropLast_append_getLast? m hlast
      rw [view, queue, hcounters, countedReports, countedReports, before, after, if_pos rfl,
        if_neg Bool.false_ne_true]
      nth_rewrite 2 [← hsplit]
      rw [List.map_append, List.map_singleton, countAll_concat, hsame]
      rfl
    · rw [after]
      exact fun hf => absurd hf Bool.false_ne_true

/-- A message goes from the queue to the log. -/
theorem Balanced.handled {t : MonitoringThread} {done rest : List Message} {msg : Message}
    {text : String} (h : Balanced cfg s t done) (hheader : cfg.header = .header)
    (hpath : s.log.saveFilePath = partPath cfg s.world.sessionNumber s.log.part)
    (hqueue : s.queue = msg :: rest) (hqueue' : s'.queue = rest) (hthreads : s'.threads = s.threads)
    (hreport : s'.report = s.report) (hnumber : s'.world.sessionNumber = s.world.sessionNumber)
    (hview : sessionView s'.world = sessionView s.world) (hidle : s'.main = .idle)
    (hd : Delivers cfg [.row msg text] s.log s'.log) : Balanced cfg s' t (done ++ [msg]) := by
  have hsame : done ++ [msg] ++ s'.queue = done ++ s.queue := by
    rw [hqueue, hqueue', List.append_assoc]
    rfl
  refine ⟨?_, ?_, ?_, ?_, ?_, ?_, ?_, ?_⟩
  · rw [hthreads]
    exact h.thread
  · rw [hsame, hthreads]
    exact h.sender
  · rw [hsame]
    exact h.index
  · intro m
    rw [inLog_of_delivers s s' [.row msg text] hheader hpath hnumber hd m, h.inLog m,
      List.mem_append]
    refine or_congr_right ?_
    constructor
    · rintro ⟨text', hm⟩
      cases List.mem_singleton.mp hm
      exact List.mem_singleton.mpr rfl
    · intro hm
      rw [List.mem_singleton.mp hm]
      exact ⟨text, List.mem_singleton.mpr rfl⟩
  · rw [hview, hsame]
    exact h.counters
  · rw [hsame, hreport]
    exact h.pending
  · rintro (hm | hm) <;> rw [hidle] at hm <;> cases hm
  · intro hm
    rw [hidle] at hm
    cases hm

theorem Balanced.stopping {i : ℕ} {t u : MonitoringThread} {handled : List Message}
    (h : Balanced cfg s u handled) (ht : s.threads[i]? = some t) (hi : i+1 = s.threads.length) :
    Balanced cfg { s with
      threads := s.threads.set i { t with threadActive := false }
      main := .flushing
      stopped := true }
      { t with threadActive := false } handled := by
  obtain rfl : u = t := Option.some.inj ((h.last_eq i hi).symm.trans ht)
  refine ⟨getLast?_set_last _ i _ hi, ?_, h.index, h.inLog, h.counters, h.pending, ?_, fun hm =>
    nomatch hm⟩
  · intro m hm
    rw [List.length_set]
    exact h.sender m hm
  · rintro (hm | hm) <;> cases hm

/-- A new session has neither sent nor counted a report. -/
theorem balanced_started (ok : Bool) (world : World) (hheader : cfg.header = .header)
    (hidle : s.main = .idle) (hqueue : s.queue = [])
    (hview : sessionView world = some (countAll []))
    (hfresh : ∀ m, ¬RowSaved cfg s world.sessionNumber m) :
    Balanced cfg { s with
      world
      log := (Log.started cfg world.sessionNumber s.log.files).withFile cfg ok
      threads := s.threads ++ [⟨true, .checking, world.sessionNumber, 0⟩]
      monitoringThread := some s.threads.length
      stopped := false } ⟨true, .checking, world.sessionNumber, 0⟩ [] := by
  refine ⟨List.getLast?_concat, ?_, ?_, ?_, ?_, fun hm => absurd hm Bool.false_ne_true, ?_, ?_⟩
  · intro m hm
    simp [hqueue] at hm
  · simp [hqueue]
  · intro m
    refine iff_of_false ?_ List.not_mem_nil
    rintro (⟨text, hl⟩ | ⟨text, part, hl⟩)
    · rw [withFile_eq] at hl
      exact absurd hl List.not_mem_nil
    · rcases (mem_contents_withFile cfg ok (Log.started cfg world.sessionNumber s.log.files) _ _).2
        hl with hl | hl
      · exact hfresh m ⟨text, part, hl⟩
      · rw [hheader] at hl
        cases hl
  · rw [hqueue]
    exact hview
  · rintro (hm | hm) <;> rw [hidle] at hm <;> cases hm
  · intro hm
    rw [hidle] at hm
    cases hm

/-- Saving the summary while the reports in the queue are just those that are not counted. -/
theorem Balanced.saved {t : MonitoringThread} {handled : List Message} {session : SessionSummary}
    {endTime : String} {parts : ℤ} (h : Balanced cfg s t handled) (hb : Begun cfg s)
    (hsaving : s.main = .saving)
    (hsession : s.world.curSession = some session)
    (hqueue : s.queue.length = if t.pc.isPublishing then 1 else 0) :
    Balanced cfg { s with
      world := { s.world with
        tick := s.world.tick+1, curSession := some (endSession session endTime parts) }
      log := ((saveSessionSummaryEntry true (endSession session endTime parts)).run s.log).2
      main := .joining } t handled := by
  obtain ⟨files, lines, hsaved⟩ :=
    saveSessionSummaryEntry_run true (endSession session endTime parts) s.log
  have hempty := h.flushed (.inl hsaving)
  have hview : sessionView s.world = some (handoffView session) :=
    congrArg (Option.map handoffView) hsession
  rw [hsaved.run]
  refine h.of_frame rfl rfl rfl hview.symm ?_ (fun _ => hempty) ?_
  · intro m
    unfold InLog RowSaved
    refine or_congr_right (exists_congr fun text => exists_congr fun part => ?_)
    exact hsaved.row_mem_iff _ m text
  · intro _
    have hcounted : countedReports t (handled ++ s.queue) = handled.map Message.obj := by
      unfold countedReports
      cases hp : t.pc.isPublishing with
      | false =>
        rw [hp, if_neg Bool.false_ne_true] at hqueue
        rw [List.length_eq_zero_iff.mp hqueue, List.append_nil]
        rfl
      | true =>
        rw [hp, if_pos rfl] at hqueue
        obtain ⟨m, hm⟩ := List.length_eq_one_iff.mp hqueue
        rw [hm, if_pos rfl, List.dropLast_concat]
    have hcounters := h.counters
    rw [hview, hcounted] at hcounters
    have hcontents := hsaved.contents
    rw [hb.saveSessionFilePath, hsaved.lines_ok rfl] at hcontents
    obtain ⟨current, hcurrent, hid⟩ := hb.current
    rw [hsession] at hcurrent
    cases hcurrent
    refine ⟨endSession session endTime parts, ?_⟩
    split_ifs at hcontents
    · exact ⟨_, hcontents, hid, Option.some.inj hcounters⟩
    · refine ⟨s.log.files.contents (sessionSummaryPath cfg) ++ [.summaryHeader], ?_, hid,
        Option.some.inj hcounters⟩
      rw [List.append_assoc]
      exact hcontents

/-- `StartTracing` finds no message left and no row under its session number, and the summary
is saved while the queue holds just the report, if any, that the thread has yet to count. -/
def Matched (A : Android) (cfg : LogConfig FileLine) (s : Service) : Event → Prop
  | .startTracing _ => s.traceActive = true ∨
      s.queue = [] ∧ ∀ m, ¬RowSaved cfg s (nextSessionNumber A s.world) m
  | .save _ => s.queue.length = if s.threads.getLast?.any (·.pc.isPublishing) then 1 else 0
  | _ => True

/-- Once a session has begun, the books are in order. -/
def Reconciled (cfg : LogConfig FileLine) (s : Service) : Prop :=
  1 < s.threads.length → ∃ t handled, Balanced cfg s t handled

theorem Reconciled.start (h : Reconciled cfg s) (ok : Bool) (hheader : cfg.header = .header)
    (hok : Matched A cfg s (.startTracing ok)) (hs : step A cfg s (.startTracing ok) = some s') :
    Reconciled cfg s' := by
  have hm := main_of_step hs .idle rfl
  simp only [step, hm] at hs
  rcases startTracing_cases ok hs with ⟨-, rfl⟩ | ⟨hact, world, hseed, rfl⟩
  · exact h
  · obtain ⟨hnumber, hview⟩ := seedTracing_session s.world world hseed
    intro _
    rcases hok with hok | ⟨hqueue, hfresh⟩
    · rw [hact] at hok
      cases hok
    · rw [← hnumber] at hfresh
      exact ⟨_, _, balanced_started ok world hheader hm hqueue hview hfresh⟩

theorem Reconciled.threadStep (h : Reconciled cfg s) (hh : Healthy cfg s) (i : ℕ)
    (acts : Option (List DetectedActivity)) (hs : step A cfg s (.thread i acts) = some s') :
    Reconciled cfg s' := by
  obtain ⟨t, ht, hstep⟩ := Option.bind_eq_some_iff.mp (show (s.threads[i]?.bind _) = some s' from by
    simpa only [step] using hs)
  obtain ⟨t', hmove⟩ := threadMove_of_threadStep acts ht hstep
  have hi := hh.orderly.last i t ht hmove.running
  intro hlen
  rw [hmove.threads, List.length_set] at hlen
  obtain ⟨u, handled, hb⟩ := h hlen
  obtain rfl : u = t := Option.some.inj ((hb.last_eq i hi).symm.trans ht)
  have hreport : u.pc.isPublishing = true → s.report.isSome := by
    intro hp
    obtain ⟨m, -, hm⟩ := hb.pending hp
    rw [hm]
    rfl
  obtain ⟨t'', ht'', heffect⟩ := threadEffect_of_threadStep acts ht hreport hstep
  rw [hmove.threads, List.getElem?_set_self (by omega)] at ht''
  cases ht''
  exact ⟨t', handled, hb.threadMove hh.orderly hmove heffect⟩

theorem Reconciled.save (h : Reconciled cfg s) (hh : Healthy cfg s)
      (hok : Matched A cfg s (.save true))
    (hs : step A cfg s (.save true) = some s') : Reconciled cfg s' := by
  have hm := main_of_step hs .saving rfl
  simp only [step, hm, saveStep] at hs
  obtain ⟨session, hsession, rfl⟩ := Option.map_eq_some_iff.mp hs
  intro hlen
  obtain ⟨t, handled, hb⟩ := h hlen
  refine ⟨t, handled, hb.saved (hh.tracked.begun hlen) hm hsession ?_⟩
  change s.queue.length = _ at hok
  rw [hb.thread] at hok
  exact hok

theorem Reconciled.step {e : Event} (h : Reconciled cfg s) (hh : Healthy cfg s)
    (hheader : cfg.header = .header) (hok : Matched A cfg s e) (he : e.succeeds)
    (hs : step A cfg s e = some s') : Reconciled cfg s' := by
  have ht := transition_of_step e hs
  have hidle : s'.main = .idle → s'.main = .saving ∨ s'.main = .joining →
      s'.log.reportLines = [] := by
    rintro hm (hm' | hm') <;> rw [hm] at hm' <;> cases hm'
  have hidle' (handled : List Message) : s'.main = .idle → s'.main = .joining →
      Summarises cfg s' handled := by
    intro hm hm'
    rw [hm] at hm'
    cases hm'
  cases ht with
  | thread i acts s' t t' move => exact h.threadStep hh i acts hs
  | startIgnored ok idle active => exact h
  | started ok world idle active current => exact h.start ok hheader hok hs
  | handled writes msg rest world text idle queue step =>
    intro hlen
    obtain ⟨t, handled, hb⟩ := h hlen
    refine ⟨t, _, hb.handled hheader (hh.tracked.begun hlen).saveFilePath queue rfl rfl rfl
      step.sessionNumber ?_ idle (delivers_handleMessage cfg _ writes (.row msg text) s.log)⟩
    exact sessionView_of_step hs (fun _ _ => nofun) rfl
  | stopIgnored source idle active =>
    intro hlen
    obtain ⟨t, handled, hb⟩ := h hlen
    exact ⟨t, handled,
      hb.of_frame rfl rfl rfl rfl (fun _ => Iff.rfl) (hidle idle) (hidle' handled idle)⟩
  | stopping source i t idle monitoringThread thread active =>
    intro hlen
    rw [List.length_set] at hlen
    obtain ⟨u, handled, hb⟩ := h hlen
    exact ⟨_, handled, hb.stopping thread (hh.orderly.monitoringThread i monitoringThread)⟩
  | ui op world idle step =>
    intro hlen
    obtain ⟨t, handled, hb⟩ := h hlen
    refine ⟨t, handled, hb.of_frame rfl rfl rfl ?_ ?_ (hidle idle) (hidle' handled idle)⟩
    · exact sessionView_of_step hs (fun _ _ => nofun) rfl
    · intro m
      unfold InLog RowSaved
      rw [step.sessionNumber]
  | flushed ok log flushing run =>
    intro hlen
    obtain ⟨t, handled, hb⟩ := h hlen
    have hd := delivers_saveUnsavedLogs cfg ok s.log log _ run
    refine ⟨t, handled, hb.of_frame rfl rfl rfl rfl ?_ ?_ (fun hm => nomatch hm)⟩
    · intro m
      rw [inLog_of_delivers s { s with log, main := .saving } [] hheader
        (hh.tracked.begun hlen).saveFilePath rfl hd m]
      simp
    · exact fun _ => reportLines_of_flush ok s.log log run
  | flushFailed ok log e flushing run =>
    obtain ⟨log', hrun⟩ := hh.flushSucceeds he (transition_of_step _ hs)
    rw [run] at hrun
    cases hrun
  | saved ok world summary saving step session =>
    obtain rfl : ok = true := he
    exact h.save hh hok hs
  | joined i joining monitoringThread ended =>
    intro hlen
    obtain ⟨t, handled, hb⟩ := h hlen
    exact ⟨t, handled,
      hb.of_frame rfl rfl rfl rfl (fun _ => Iff.rfl) (hidle rfl) (hidle' handled rfl)⟩

/-- The summary written last agrees with the rows in the part files of its session: its
counters are those of a new summary that has processed just these reports. -/
def SummaryMatchesLog (cfg : LogConfig FileLine) (s : Service) : Prop :=
  ∃ (summary : SessionSummary) (old : List FileLine) (reports : List Message),
    s.log.files.contents (sessionSummaryPath cfg) = old ++ [.summary summary] ∧
    summary.sessionId = s.world.sessionNumber ∧ reports.Nodup ∧
    (∀ m, m ∈ reports ↔ RowSaved cfg s s.world.sessionNumber m) ∧
    ∀ (A : Android) (w : World), w.curSession = some { sessionId := summary.sessionId } →
      sessionView (processAll A w (reports.map Message.obj)) = some (handoffView summary)

theorem Balanced.summaryMatchesLog {t : MonitoringThread} {handled : List Message}
    (h : Balanced cfg s t handled) (hjoining : s.main = .joining) : SummaryMatchesLog cfg s := by
  obtain ⟨summary, old, hcontents, hid, hview⟩ := h.summarised hjoining
  refine ⟨summary, old, handled, hcontents, hid, ?_, ?_, ?_⟩
  · have hnodup : (handled ++ s.queue).Nodup := by
      apply List.Nodup.of_map Message.index
      rw [h.index]
      exact List.nodup_range
    exact (List.nodup_append.mp hnodup).1
  · intro m
    rw [← h.inLog m, InLog, h.flushed (.inr hjoining)]
    simp
  · intro A w hw
    rw [sessionView_processAll, sessionView, hw, hview]
    rfl

/-- In every run with successful writes whose steps are matched: each time `StopTracing`
returns from its wait, the summary it has saved agrees with the part files. -/
theorem summary_matches_log (A : Android) (maxLinesPerBatch maxLinesPerChunk : ℤ)
    (documents deviceId : String) (world : World) (files : String → Option (List String))
    (events : List Event) (s s' : Service)
    (hrun : runEvents (step A (traceConfig maxLinesPerBatch maxLinesPerChunk documents deviceId))
      (Service.created world files) events = some s)
    (hreturn : step A (traceConfig maxLinesPerBatch maxLinesPerChunk documents deviceId) s .join =
      some s')
    (hwrites : ∀ e ∈ events, e.succeeds)
    (hmatched : Along (step A (traceConfig maxLinesPerBatch maxLinesPerChunk documents deviceId))
      (Matched A (traceConfig maxLinesPerBatch maxLinesPerChunk documents deviceId))
      (Service.created world files) events) :
    SummaryMatchesLog (traceConfig maxLinesPerBatch maxLinesPerChunk documents deviceId) s' := by
  set cfg := traceConfig maxLinesPerBatch maxLinesPerChunk documents deviceId
  obtain ⟨hhealthy, hreconciled⟩ :=
    runEvents_invariant (step A cfg) (fun s e => Matched A cfg s e ∧ e.succeeds)
    (fun s => Healthy cfg s ∧ Reconciled cfg s)
    (fun s e s' he hs h => ⟨h.1.transition he.2 (transition_of_step e hs),
      h.2.step h.1 rfl he.1 he.2 hs⟩)
    events _ s (hmatched.and_forall (step A cfg) hwrites) hrun
    ⟨healthy_created world files, fun hlen => absurd hlen (lt_irrefl 1)⟩
  have hjoining := main_of_step hreturn .joining rfl
  obtain ⟨t, handled, hb⟩ := hreconciled (hhealthy.tracked.busy (by rw [hjoining]; nofun))
  cases transition_of_step .join hreturn with
  | joined i joining monitoringThread ended => exact hb.summaryMatchesLog hjoining

/-- One report, which is counted and handled before `StopTracing`. -/
def settledEvents : List Event :=
  [.startTracing true, .thread 1 none, .thread 1 none, .thread 1 none, .thread 1 none,
    .thread 1 none, .handleMessage ⟨true, true⟩, .stopTracing .action, .flush true, .save true,
      .thread 1 none, .thread 1 none]

theorem matched_settledEvents :
    Along (step ltePhone phoneConfig) (Matched ltePhone phoneConfig)
      (Service.created {} fun _ => none)
      settledEvents := by
  refine along_cons _ _ _ _ _ _ (.inr ⟨rfl, ?_⟩) rfl ?_
  · rintro m ⟨text, part, hrow⟩
    exact absurd hrow List.not_mem_nil
  iterate 8 refine along_cons _ _ _ _ _ _ trivial rfl ?_
  refine along_cons _ _ _ _ _ _ rfl rfl ?_
  iterate 2 refine along_cons _ _ _ _ _ _ trivial rfl ?_
  exact trivial

theorem summary_matches_log_settled : ∃ s s',
    runEvents (step ltePhone phoneConfig) (Service.created {} fun _ => none) settledEvents =
      some s ∧
    step ltePhone phoneConfig s .join = some s' ∧ SummaryMatchesLog phoneConfig s' := by
  have hruns : ((runEvents (step ltePhone phoneConfig) (Service.created {} fun _ => none)
      settledEvents).bind fun s =>
      step ltePhone phoneConfig s .join).isSome := by decide +kernel
  obtain ⟨s', hruns⟩ := Option.isSome_iff_exists.mp hruns
  obtain ⟨s, hrun, hjoin⟩ := Option.bind_eq_some_iff.mp hruns
  refine ⟨s, s', hrun, hjoin, summary_matches_log ltePhone 60 240000 "/sdcard" "phone" {}
    (fun _ => none) settledEvents s s' hrun hjoin ?_ matched_settledEvents⟩
  intro e he
  simp only [settledEvents, List.mem_cons, List.not_mem_nil, or_false] at he
  rcases he with rfl | rfl | rfl | rfl | rfl | rfl | rfl | rfl | rfl | rfl | rfl | rfl <;>
    simp [Event.succeeds]

/-- The report is being sampled when `StopTracing` is called; it is sent and counted after
the flush, but before the summary is saved. -/
def countedLateEvents : List Event :=
  [.startTracing true, .thread 1 none, .thread 1 none, .stopTracing .action, .flush true,
    .thread 1 none, .thread 1 none, .thread 1 none, .save true, .thread 1 none, .thread 1 none,
      .join]

/-- A summary with towers next to part files without rows. -/
theorem not_summaryMatchesLog_of_files (a : String) (summary : SessionSummary)
    (h : s.log.files = Function.update (Function.update (fun _ => none) a (some [.header]))
      (sessionSummaryPath cfg) (some [.summaryHeader, .summary summary]))
    (htowers : summary.nTowers ≠ 0) : ¬SummaryMatchesLog cfg s := by
  rintro ⟨summary', old, reports, hcontents, -, -, hrows, hviews⟩
  have hnone : reports = [] := by
    apply List.eq_nil_iff_forall_not_mem.mpr
    intro m hm
    obtain ⟨text, part, hrow⟩ := (hrows m).mp hm
    exact row_not_mem_of_files a _ summary h _ m text hrow
  have hlast : summary' = summary := by
    have hcurrent : s.log.files.contents (sessionSummaryPath cfg) = [.summaryHeader] ++
        [.summary summary] := by
      rw [FileStore.contents, h, Function.update_self]
      rfl
    rw [hcurrent] at hcontents
    have hline := (List.append_inj' hcontents rfl).2
    cases hline
    rfl
  have hview := hviews ltePhone { curSession := some { sessionId := summary'.sessionId } } rfl
  rw [hnone, hlast] at hview
  exact htowers (congrArg HandoffView.nTowers (Option.some.inj hview)).symm

/-- The summary counts a tower that no row of the log names. -/
theorem summary_counts_unlogged_report : ∃ s,
    runEvents (step ltePhone phoneConfig) (Service.created {} fun _ => none) countedLateEvents =
      some s ∧
    s.main = .idle ∧ ¬SummaryMatchesLog phoneConfig s :=
  ⟨_, rfl, rfl, not_summaryMatchesLog_of_files _ _ rfl (by decide)⟩

end MmWaveTracker
