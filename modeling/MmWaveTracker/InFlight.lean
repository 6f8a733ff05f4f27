import MmWaveTracker.TracingInvariants

/-! Reports on their way from the sampling thread to the part files of its session:
in the queue of the main looper, in the buffer, or on disk. -/
namespace MmWaveTracker

variable {A : Android} {cfg : LogConfig FileLine} {s s' : Service}

/-- Every row on disk was sent by a thread that was started, and its file is a part file
that carries the number of the thread's session. -/
def RowsFiled (cfg : LogConfig FileLine) (s : Service) : Prop :=
  ∀ p m text, .row m text ∈ s.log.files.contents p →
    0 < m.sender ∧ ∃ t part, s.threads[m.sender]? = some t ∧ p = partPath cfg t.session part

/-- Report `k` of thread `i` is a row of a part file of the thread's session. -/
def ReportSaved (cfg : LogConfig FileLine) (s : Service) (i k : ℕ) (t : MonitoringThread) : Prop :=
  ∃ m text part, m.sender = i ∧ m.index = k ∧
    .row m text ∈ s.log.files.contents (partPath cfg t.session part)

/-- Wherever report `k` of thread `i` is, it is not lost. -/
def ReportKept (cfg : LogConfig FileLine) (s : Service) (i k : ℕ) (t : MonitoringThread) : Prop :=
  ∃ m, m.sender = i ∧ m.index = k ∧ (m ∈ s.queue ∨ (∃ text, .row m text ∈ s.log.reportLines) ∨
    ∃ text part, .row m text ∈ s.log.files.contents (partPath cfg t.session part))

structure Owned (cfg : LogConfig FileLine) (s : Service) : Prop where
  queue : ∀ m ∈ s.queue, m.sender+1 = s.threads.length ∧ 1 < s.threads.length
  buffer : ∀ line ∈ s.log.reportLines, ∃ m text, line = .row m text ∧ m.sender+1 = s.threads.length
  filed : RowsFiled cfg s
  sent : ∀ (i : ℕ) (t : MonitoringThread), s.threads[i]? = some t → i+1 = s.threads.length →
    ∀ k < t.sent, ReportKept cfg s i k t

theorem owned_created (world : World) (files : String → Option (List String)) :
    Owned cfg (Service.created world files) := by
  refine ⟨fun _ h => absurd h List.not_mem_nil, fun _ h => absurd h List.not_mem_nil, ?_, ?_⟩
  · intro p m text h
    change FileLine.row m text ∈ ((files p).map fun lines => lines.map FileLine.old).getD [] at h
    cases hf : files p with
    | none =>
      rw [hf] at h
      cases h
    | some lines =>
      rw [hf] at h
      obtain ⟨_, -, h⟩ := List.mem_map.mp h
      cases h
  · intro i t ht _ k hk
    cases i with
    | zero =>
      cases ht
      cases hk
    | succ i => cases ht

/-- A step that moves no row. -/
theorem Owned.of_rows (h : Owned cfg s) (hthreads : s'.threads = s.threads)
    (hqueue : s'.queue = s.queue) (hbuffer : s'.log.reportLines = s.log.reportLines)
    (hfiles : ∀ p m text, .row m text ∈ s'.log.files.contents p ↔
      .row m text ∈ s.log.files.contents p) :
    Owned cfg s' := by
  refine ⟨?_, ?_, ?_, ?_⟩
  · rw [hthreads, hqueue]
    exact h.queue
  · rw [hthreads, hbuffer]
    exact h.buffer
  · intro p m text hm
    rw [hthreads]
    exact h.filed p m text ((hfiles p m text).mp hm)
  · rw [hthreads]
    intro i t ht hi k hk
    obtain ⟨m, hs, hx, hkept⟩ := h.sent i t ht hi k hk
    refine ⟨m, hs, hx, ?_⟩
    rw [hqueue, hbuffer]
    rcases hkept with hq | hb | ⟨text, part, hf⟩
    · exact .inl hq
    · exact .inr (.inl hb)
    · exact .inr (.inr ⟨text, part, (hfiles _ m text).mpr hf⟩)

theorem Owned.threadMove {i : ℕ} {t t' : MonitoringThread} (h : Owned cfg s) (ho : Orderly s)
    (htr : Tracked cfg s) (hm : ThreadMove i s s' t t') : Owned cfg s' := by
  have hlast := ho.last i t hm.thread hm.running
  have hlen : s'.threads.length = s.threads.length := by rw [hm.threads, List.length_set]
  have hself : s'.threads[i]? = some t' := by rw [hm.threads, List.getElem?_set_self (by omega)]
  have hqueue : ∀ m ∈ s.queue, m ∈ s'.queue := by
    intro m hq
    rcases hm.queue with ⟨he, -⟩ | ⟨obj, he, -⟩ <;> rw [he]
    · exact hq
    · exact List.mem_append_left _ hq
  refine ⟨?_, ?_, ?_, ?_⟩
  · intro m hq
    rw [hlen]
    rcases hm.queue with ⟨he, -⟩ | ⟨obj, he, -⟩ <;> rw [he] at hq
    · exact h.queue m hq
    · rcases List.mem_append.mp hq with hq | hq
      · exact h.queue m hq
      · rw [List.mem_singleton.mp hq]
        exact ⟨hlast, htr.active i t hm.thread (.inr hm.running)⟩
  · rw [hlen, hm.log]
    exact h.buffer
  · intro p m text hf
    rw [hm.log] at hf
    obtain ⟨hpos, u, part, hu, hp⟩ := h.filed p m text hf
    refine ⟨hpos, ?_⟩
    by_cases hmi : m.sender = i
    · rw [hmi] at hu ⊢
      rw [hm.thread] at hu
      cases hu
      exact ⟨t', part, hself, by rw [hm.session]; exact hp⟩
    · refine ⟨u, part, ?_, hp⟩
      rw [hm.threads, List.getElem?_set_ne (Ne.symm hmi)]
      exact hu
  · intro j u hu hj k hk
    rw [hlen] at hj
    obtain rfl : j = i := by omega
    rw [hself] at hu
    cases hu
    by_cases hold : k < t.sent
    · obtain ⟨m, hs, hx, hkept⟩ := h.sent j t hm.thread hj k hold
      refine ⟨m, hs, hx, ?_⟩
      rw [hm.log, hm.session]
      exact hkept.imp_left (hqueue m)
    · rcases hm.queue with ⟨-, he⟩ | ⟨obj, hq, he⟩
      · omega
      · refine ⟨⟨j, t.sent, obj⟩, rfl, ?_, .inl ?_⟩
        · change t.sent = k
          omega
        · rw [hq]
          exact List.mem_append_right _ (List.mem_singleton.mpr rfl)

/-- A step of the main thread that takes rows from the queue to the buffer, or from the
buffer to the current file. -/
theorem Owned.deliver (h : Owned cfg s) (hb : Begun cfg s) (hlen : 1 < s.threads.length)
    (hheader : cfg.header = .header)
    (new : List FileLine) (hnew : ∀ line ∈ new, ∃ m text, line = .row m text ∧
      m.sender+1 = s.threads.length)
    (hd : Delivers cfg new s.log s'.log) (hthreads : s'.threads = s.threads)
    (hqueue : ∀ m ∈ s'.queue, m ∈ s.queue)
    (htaken : ∀ m ∈ s.queue, m ∈ s'.queue ∨ ∃ text, .row m text ∈ new) : Owned cfg s' := by
  have hlines : ∀ line ∈ s.log.reportLines ++ new, ∃ m text, line = .row m text ∧
      m.sender+1 = s.threads.length := by
    intro line hl
    rcases List.mem_append.mp hl with hl | hl
    · exact h.buffer line hl
    · exact hnew line hl
  refine ⟨?_, ?_, ?_, ?_⟩
  · rw [hthreads]
    exact fun m hm => h.queue m (hqueue m hm)
  · rw [hthreads]
    exact fun line hl => hlines line (hd.buffer line hl)
  · intro p m text hf
    rw [hthreads]
    rcases hd.written p _ hf with hold | ⟨hp, hl⟩ | hl
    · exact h.filed p m text hold
    · obtain ⟨m', text', he, hlast⟩ := hlines _ hl
      cases he
      have hlt : m.sender < s.threads.length := by omega
      refine ⟨by omega, s.threads[m.sender], s.log.part, List.getElem?_eq_getElem hlt, ?_⟩
      rw [hp, hb.saveFilePath, hb.session _ _ (List.getElem?_eq_getElem hlt) hlast]
    · rw [hheader] at hl
      cases hl
  · rw [hthreads]
    intro i t ht hi k hk
    obtain ⟨m, hs, hx, hkept⟩ := h.sent i t ht hi k hk
    refine ⟨m, hs, hx, ?_⟩
    have hpath : s.log.saveFilePath = partPath cfg t.session s.log.part := by
      rw [hb.session i t ht hi]
      exact hb.saveFilePath
    have hline (text : String) (hl : .row m text ∈ s.log.reportLines ++ new) :
        (∃ text, .row m text ∈ s'.log.reportLines) ∨
        ∃ text part, .row m text ∈ s'.log.files.contents (partPath cfg t.session part) := by
      rcases hd.delivered _ hl with hl | hl
      · exact .inl ⟨text, hl⟩
      · exact .inr ⟨text, s.log.part, hpath ▸ hl⟩
    rcases hkept with hq | ⟨text, hbuf⟩ | ⟨text, part, hf⟩
    · rcases htaken m hq with hq' | ⟨text, hl⟩
      · exact .inl hq'
      · exact .inr (hline text (List.mem_append_right _ hl))
    · exact .inr (hline text (List.mem_append_left _ hbuf))
    · exact .inr (.inr ⟨text, part, hd.kept _ _ hf⟩)

theorem Owned.stopping (h : Owned cfg s) (i : ℕ) (t : MonitoringThread)
    (ht : s.threads[i]? = some t)
    (hthreads : s'.threads = s.threads.set i { t with threadActive := false })
    (hqueue : s'.queue = s.queue)
    (hlog : s'.log = s.log) : Owned cfg s' := by
  have hlen : s'.threads.length = s.threads.length := by rw [hthreads, List.length_set]
  have hthread (j : ℕ) : s'.threads[j]? = s.threads[j]? ∨
      j = i ∧ s'.threads[j]? = some { t with threadActive := false } := by
    by_cases hj : j = i
    · subst hj
      have hlt := (List.getElem?_eq_some_iff.mp ht).1
      exact .inr ⟨rfl, by rw [hthreads, List.getElem?_set_self hlt]⟩
    · exact .inl (by rw [hthreads, List.getElem?_set_ne (Ne.symm hj)])
  refine ⟨?_, ?_, ?_, ?_⟩
  · rw [hlen, hqueue]
    exact h.queue
  · rw [hlen, hlog]
    exact h.buffer
  · intro p m text hf
    rw [hlog] at hf
    obtain ⟨hpos, u, part, hu, hp⟩ := h.filed p m text hf
    refine ⟨hpos, ?_⟩
    rcases hthread m.sender with he | ⟨hi, he⟩
    · exact ⟨u, part, he.trans hu, hp⟩
    · rw [hi, ht] at hu
      cases hu
      exact ⟨_, part, he, hp⟩
  · intro j u hu hj k hk
    rw [hlen] at hj
    unfold ReportKept
    rw [hqueue, hlog]
    rcases hthread j with he | ⟨rfl, he⟩
    · exact h.sent j u (he ▸ hu) hj k hk
    · rw [he] at hu
      cases hu
      exact h.sent j t ht hj k hk

theorem Owned.started (h : Owned cfg s) (hheader : cfg.header = .header) (ok : Bool)
    (sessionNumber : String)
    (hthreads : s'.threads = s.threads ++ [⟨true, .checking, sessionNumber, 0⟩])
    (hqueue : s'.queue = [])
    (hlog : s'.log = (Log.started cfg sessionNumber s.log.files).withFile cfg ok) :
    Owned cfg s' := by
  refine ⟨?_, ?_, ?_, ?_⟩
  · rw [hqueue]
    exact fun _ hm => absurd hm List.not_mem_nil
  · rw [hlog, withFile_eq]
    exact fun _ hl => absurd hl List.not_mem_nil
  · intro p m text hf
    rw [hlog] at hf
    rcases (mem_contents_withFile cfg ok (Log.started cfg sessionNumber s.log.files) p _).2 hf
      with hf | hf
    · obtain ⟨hpos, t, part, ht, hp⟩ := h.filed p m text hf
      refine ⟨hpos, t, part, ?_, hp⟩
      rw [hthreads, List.getElem?_append_left (List.getElem?_eq_some_iff.mp ht).1]
      exact ht
    · rw [hheader] at hf
      cases hf
  · intro i t ht hi k hk
    rw [hthreads, List.length_append, List.length_singleton] at hi
    obtain rfl : i = s.threads.length := by omega
    rw [hthreads, List.getElem?_concat_length] at ht
    cases ht
    exact absurd hk (Nat.not_lt_zero k)

/-! The steps that lose no report. -/

/-- The next report completes a batch, and its write succeeds. -/
def CompletesBatch (cfg : LogConfig FileLine) (log : Log FileLine) (writes : Writes) : Prop :=
  cfg.maxLinesPerBatch ≠ 0 ∧ (wrap32 (log.counter+1)).tmod cfg.maxLinesPerBatch = 0 ∧
    writes.batch = true ∧ (log.files log.saveFilePath).isSome

/-- `StartTracing` finds the queue empty; `StopTracing` finds its thread active, or nothing
to save, or a message that is still to come; its flush succeeds; and the last message
that is handled after it completes a batch. -/
def LossFree (cfg : LogConfig FileLine) (s : Service) : Event → Prop
  | .startTracing _ => s.traceActive = true ∨ s.queue = []
  | .stopTracing _ => s.traceActive = true ∨ s.log.reportLines = [] ∨ s.queue ≠ []
  | .flush ok => s.log.reportLines = [] ∨ ok = true ∧ (s.log.files s.log.saveFilePath).isSome
  | .handleMessage writes => s.stopped = true → s.queue.length = 1 → CompletesBatch cfg s.log writes
  | _ => True

instance (cfg : LogConfig FileLine) (log : Log FileLine) (writes : Writes) :
    Decidable (CompletesBatch cfg log writes) :=
  inferInstanceAs (Decidable (_ ∧ _))

instance (cfg : LogConfig FileLine) (s : Service) (e : Event) : Decidable (LossFree cfg s e) :=
  match e with
  | .startTracing _ => inferInstanceAs (Decidable (_ ∨ _))
  | .stopTracing _ => inferInstanceAs (Decidable (_ ∨ _))
  | .flush _ => inferInstanceAs (Decidable (_ ∨ _))
  | .handleMessage _ => inferInstanceAs (Decidable (_ → _ → CompletesBatch _ _ _))
  | .thread _ _ => .isTrue trivial
  | .ui _ => .isTrue trivial
  | .save _ => .isTrue trivial
  | .join => .isTrue trivial

theorem LossFree.flushSucceeds {e : Event} (h : LossFree cfg s e) : FlushSucceeds s e := by
  cases e with
  | flush ok =>
    rcases saveUnsavedLogs_cases ok s.log with ⟨-, hrun⟩ | ⟨log', -, hrun⟩ | ⟨hno, -⟩
    · exact ⟨s.log, hrun⟩
    · exact ⟨log', hrun⟩
    · rcases h with hnil | ⟨hok, hfile⟩
      · refine ⟨s.log, ?_⟩
        unfold saveUnsavedLogs
        rw [Java.bind_ok _ _ s.log s.log s.log rfl, hnil]
        rfl
      · rcases hno with hno | hno
        · rw [hok] at hno
          cases hno
        · rw [hno] at hfile
          cases hfile
  | _ => exact trivial

/-- Once `StopTracing` has flushed, nothing stays behind in the buffer. -/
structure Emptied (s : Service) : Prop where
  flushed : s.main = .saving ∨ s.main = .joining → s.log.reportLines = []
  rest : s.main = .idle → s.stopped = true → s.queue = [] → s.log.reportLines = []

theorem reportLines_of_completesBatch (sessionNumber : String) (writes : Writes) (row : FileLine)
    (log : Log FileLine) (h : CompletesBatch cfg log writes) :
    ((handleMessage cfg sessionNumber writes row).run log).2.reportLines = [] := by
  obtain ⟨hbatch, hfull, hwrite, hfile⟩ := h
  obtain ⟨log₁, ⟨files, -, rfl⟩, hrun⟩ :=
    handleMessage_full cfg sessionNumber writes row log hbatch hfull hwrite hfile
  rw [hrun]
  split_ifs
  · rw [withFile_eq]
    rfl
  · rfl

theorem reportLines_of_flush (ok : Bool) (log log' : Log FileLine)
    (h : (saveUnsavedLogs ok).run log = (.ok (), log')) : log'.reportLines = [] := by
  rcases saveUnsavedLogs_cases ok log with ⟨hnil, hrun⟩ | ⟨log₁, ⟨files, -, rfl⟩, hrun⟩ | ⟨-, hrun⟩
    <;>
    rw [hrun] at h <;> cases h
  · exact hnil
  · rfl

theorem Emptied.transition {e : Event} (h : Emptied s) (hsafe : LossFree cfg s e)
    (ht : Transition cfg s e s') : Emptied s' := by
  cases ht with
  | thread i acts s' t t' move =>
    refine ⟨?_, ?_⟩
    · rw [move.main, move.log]
      exact h.flushed
    · rw [move.main, move.stopped, move.log]
      intro hidle hstopped hq
      apply h.rest hidle hstopped
      rcases move.queue with ⟨he, -⟩ | ⟨obj, he, -⟩
      · exact he ▸ hq
      · rw [he] at hq
        exact absurd hq (by simp)
  | startIgnored => exact h
  | started ok world idle active current =>
    refine ⟨?_, fun _ hstopped => by cases hstopped⟩
    rintro (hm | hm) <;> rw [idle] at hm <;> cases hm
  | handled writes msg rest world text idle queue step =>
    refine ⟨?_, ?_⟩
    · rintro (hm | hm) <;> rw [idle] at hm <;> cases hm
    · intro _ hstopped hrest
      apply reportLines_of_completesBatch
      apply hsafe hstopped
      change rest = [] at hrest
      rw [queue, hrest]
      rfl
  | stopIgnored source idle active =>
    refine ⟨h.flushed, ?_⟩
    intro _ _ hq
    rcases hsafe with hact | hnil | hne
    · rw [active] at hact
      cases hact
    · exact hnil
    · exact absurd hq hne
  | stopping =>
    refine ⟨?_, nofun⟩
    rintro (hm | hm)
    · cases hm
    · cases hm
  | ui => exact ⟨h.flushed, h.rest⟩
  | flushed ok log flushing run => exact ⟨fun _ => reportLines_of_flush ok s.log log run, nofun⟩
  | flushFailed ok log e flushing run =>
    obtain ⟨log', hrun⟩ := hsafe.flushSucceeds
    rw [run] at hrun
    cases hrun
  | saved ok world summary saving step session =>
    refine ⟨fun _ => ?_, nofun⟩
    obtain ⟨files, lines, hsaved⟩ := saveSessionSummaryEntry_run ok summary s.log
    rw [hsaved.run]
    exact h.flushed (.inl saving)
  | joined i joining monitoringThread ended =>
    refine ⟨?_, fun _ _ _ => h.flushed (.inr joining)⟩
    rintro (hm | hm)
    · cases hm
    · cases hm

theorem Owned.transition {e : Event} (h : Owned cfg s) (ho : Orderly s) (htr : Tracked cfg s)
    (hheader : cfg.header = .header) (hsafe : LossFree cfg s e) (ht : Transition cfg s e s') :
    Owned cfg s' := by
  cases ht with
  | thread i acts s' t t' move => exact h.threadMove ho htr move
  | startIgnored => exact h
  | started ok world idle active current =>
    refine h.started hheader ok world.sessionNumber rfl ?_ rfl
    rcases hsafe with hact | hq
    · rw [active] at hact
      cases hact
    · exact hq
  | handled writes msg rest world text idle queue step =>
    obtain ⟨hsender, hlen⟩ := h.queue msg (by rw [queue]; exact List.mem_cons_self)
    refine h.deliver (htr.begun hlen) hlen hheader [.row msg text] ?_
      (delivers_handleMessage cfg _ writes _ s.log) rfl ?_ ?_
    · intro line hl
      exact ⟨msg, text, List.mem_singleton.mp hl, hsender⟩
    · intro m hm
      rw [queue]
      exact List.mem_cons_of_mem msg hm
    · intro m hm
      rw [queue] at hm
      rcases List.mem_cons.mp hm with rfl | hm
      · exact .inr ⟨text, List.mem_singleton.mpr rfl⟩
      · exact .inl hm
  | stopIgnored => exact h.of_rows rfl rfl rfl fun _ _ _ => Iff.rfl
  | stopping source i t idle monitoringThread thread active =>
      exact h.stopping i t thread rfl rfl rfl
  | ui => exact h.of_rows rfl rfl rfl fun _ _ _ => Iff.rfl
  | flushed ok log flushing run =>
    have hlen := htr.busy (by rw [flushing]; nofun)
    exact h.deliver (htr.begun hlen) hlen hheader []
      (fun _ hl => absurd hl List.not_mem_nil) (delivers_saveUnsavedLogs cfg ok s.log log _ run) rfl
      (fun _ hm => hm) fun _ hm => .inl hm
  | flushFailed ok log e flushing run =>
    obtain ⟨log', hrun⟩ := hsafe.flushSucceeds
    rw [run] at hrun
    cases hrun
  | saved ok world summary saving step session =>
    obtain ⟨files, lines, hsaved⟩ := saveSessionSummaryEntry_run ok summary s.log
    refine h.of_rows rfl rfl ?_ ?_
    · rw [hsaved.run]
    · intro p m text
      rw [hsaved.run]
      exact hsaved.row_mem_iff p m text
  | joined => exact h.of_rows rfl rfl rfl fun _ _ _ => Iff.rfl

/-- Once a stopped session has nothing in the queue any more, all its reports are on disk. -/
theorem Owned.saved (h : Owned cfg s) (hempty : Emptied s) (hidle : s.main = .idle)
    (hstopped : s.stopped = true) (hq : s.queue = []) (i : ℕ) (t : MonitoringThread)
    (ht : s.threads[i]? = some t) (hi : i+1 = s.threads.length)
    (k : ℕ) (hk : k < t.sent) : ReportSaved cfg s i k t := by
  have hnil := hempty.rest hidle hstopped hq
  obtain ⟨m, hs, hx, hm | ⟨text, hm⟩ | ⟨text, part, hm⟩⟩ := h.sent i t ht hi k hk
  · rw [hq] at hm
    exact absurd hm List.not_mem_nil
  · rw [hnil] at hm
    exact absurd hm List.not_mem_nil
  · exact ⟨m, text, part, hs, hx, hm⟩

/-- What a run whose steps lose no report keeps. -/
theorem owned_run (world : World) (files : String → Option (List String)) (events : List Event)
    (hheader : cfg.header = .header)
    (hrun : runEvents (step A cfg) (Service.created world files) events = some s)
    (hsafe : Along (step A cfg) (LossFree cfg) (Service.created world files) events) :
    Owned cfg s ∧ Emptied s := by
  have hstep (s : Service) (e : Event) (s' : Service) (he : LossFree cfg s e)
      (hs : step A cfg s e = some s') (h : Orderly s ∧ Tracked cfg s ∧ Owned cfg s ∧ Emptied s) :
      Orderly s' ∧ Tracked cfg s' ∧ Owned cfg s' ∧ Emptied s' := by
    obtain ⟨horderly, htracked, howned, hempty⟩ := h
    have ht := transition_of_step e hs
    exact ⟨horderly.transition he.flushSucceeds ht, htracked.transition ht,
      howned.transition horderly htracked hheader he ht, hempty.transition he ht⟩
  have hcreated : Emptied (Service.created world files) := ⟨fun _ => rfl, fun _ _ _ => rfl⟩
  obtain ⟨-, -, hend⟩ := runEvents_invariant (step A cfg) (LossFree cfg)
    (fun s => Orderly s ∧ Tracked cfg s ∧ Owned cfg s ∧ Emptied s) hstep events _ s hsafe hrun
    ⟨orderly_created world files, tracked_created world files, owned_created world files, hcreated⟩
  exact hend

/-! One report on a phone with the default batch of 60 rows. -/

def phoneConfig : LogConfig FileLine := traceConfig 60 240000 "/sdcard" "phone"

/-- The session of thread `i`, with one report that is handled before `StopTracing`. -/
def promptSession (i : ℕ) : List Event :=
  [.startTracing true, .thread i none, .thread i none, .thread i none, .thread i none,
    .handleMessage ⟨true, true⟩, .stopTracing .action, .flush true, .save true, .thread i none,
    .thread i none, .thread i none, .join]

def promptEvents : List Event := promptSession 1

/-- `StopTracing` flushes while the report is being sampled, and it is handled after the join. -/
def lateEvents : List Event :=
  [.startTracing true, .thread 1 none, .thread 1 none, .stopTracing .action, .flush true,
    .save true, .thread 1 none, .thread 1 none, .thread 1 none, .thread 1 none, .thread 1 none,
    .join, .handleMessage ⟨true, true⟩]

theorem row_not_mem_of_files (a b : String) (summary : SessionSummary)
    (h : s.log.files = Function.update (Function.update (fun _ => none) a (some [.header])) b
      (some [.summaryHeader, .summary summary])) (p : String) (m : Message) (text : String) :
    .row m text ∉ s.log.files.contents p := by
  intro hrow
  rw [FileStore.contents, h] at hrow
  by_cases hb : p = b
  · rw [hb, Function.update_self] at hrow
    simp at hrow
  · rw [Function.update_of_ne hb] at hrow
    by_cases ha : p = a
    · rw [ha, Function.update_self] at hrow
      simp at hrow
    · rw [Function.update_of_ne ha] at hrow
      simp at hrow

theorem not_reportSaved_of_files (i k : ℕ) (t : MonitoringThread) (a b : String)
    (summary : SessionSummary)
    (h : s.log.files = Function.update (Function.update (fun _ => none) a (some [.header])) b
      (some [.summaryHeader, .summary summary])) : ¬ReportSaved cfg s i k t := by
  rintro ⟨m, text, part, -, -, hrow⟩
  exact row_not_mem_of_files a b summary h _ m text hrow

end MmWaveTracker
