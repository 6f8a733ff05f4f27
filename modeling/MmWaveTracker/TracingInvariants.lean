import MmWaveTracker.Tracing

/-! Invariants of the service: one sampling thread at a time as long as the flush of
`StopTracing` succeeds, and log paths that follow the session number. -/
namespace MmWaveTracker

variable {cfg : LogConfig FileLine} {s s' : Service}

/-- The flush of `StopTracing`, where there is one, does not throw. -/
def FlushSucceeds (s : Service) : Event → Prop
  | .flush ok => ∃ log, (saveUnsavedLogs ok).run s.log = (.ok (), log)
  | _ => True

/-- A `StartTracing` that finds no thread at hand comes after the last one has left its loop. -/
def Restartable (s : Service) : Event → Prop
  | .startTracing _ => s.main = .idle → s.monitoringThread = none →
      ∀ t, s.threads.getLast? = some t → t.pc = .ended
  | _ => True

/-- Only the last thread can still take a step, and it cannot if it is at hand and inactive. -/
structure Succession (s : Service) : Prop where
  monitoringThread : ∀ i, s.monitoringThread = some i → i+1 = s.threads.length
  earlier : ∀ (i : ℕ) (t : MonitoringThread), s.threads[i]? = some t → i+1 < s.threads.length →
    t.pc = .ended
  held : s.main = .idle → ∀ (i : ℕ) (t : MonitoringThread), s.monitoringThread = some i →
    s.threads[i]? = some t → t.threadActive = false → t.pc = .ended

/-- Only the last thread can still take a step, and none can once it is not active
and nobody waits for it. -/
structure Orderly (s : Service) : Prop where
  monitoringThread : ∀ i, s.monitoringThread = some i → i+1 = s.threads.length
  earlier : ∀ (i : ℕ) (t : MonitoringThread), s.threads[i]? = some t → i+1 < s.threads.length →
    t.pc = .ended
  resting : s.main = .idle → s.traceActive = false → ∀ (i : ℕ) (t : MonitoringThread),
    s.threads[i]? = some t → t.pc = .ended

theorem ended_created (world : World) (files : String → Option (List String)) (i : ℕ)
    (t : MonitoringThread) (h : (Service.created world files).threads[i]? = some t) :
    t.pc = .ended := by
  cases i with
  | zero =>
    cases h
    rfl
  | succ i => cases h

theorem orderly_created (world : World) (files : String → Option (List String)) :
    Orderly (Service.created world files) := by
  refine ⟨?_, fun i t h _ => ended_created world files i t h, fun _ _ => ended_created world files⟩
  intro i hi
  cases hi
  rfl

section Succession

theorem Succession.last (h : Succession s) (i : ℕ) (t : MonitoringThread)
    (ht : s.threads[i]? = some t) (hpc : t.pc ≠ .ended) : i+1 = s.threads.length := by
  have hlt := (List.getElem?_eq_some_iff.mp ht).1
  by_contra hne
  exact hpc (h.earlier i t ht (by omega))

theorem Succession.all_ended (h : Succession s) (hlast : ∀ t, s.threads.getLast? = some t →
    t.pc = .ended) (i : ℕ) (t : MonitoringThread) (ht : s.threads[i]? = some t) :
      t.pc = .ended := by
  by_contra hpc
  have hi := h.last i t ht hpc
  apply hpc
  apply hlast
  rw [List.getLast?_eq_getElem?, ← hi]
  exact ht

/-- A thread at hand that is not active has ended, and so have the threads before it. -/
theorem Succession.inactive (h : Succession s) (hidle : s.main = .idle) (k : ℕ)
    (hk : s.monitoringThread = some k) (hact : s.traceActive = false) (i : ℕ) (t : MonitoringThread)
    (ht : s.threads[i]? = some t) :
    t.pc = .ended := by
  have hlen := h.monitoringThread k hk
  refine h.all_ended ?_ i t ht
  intro u hu
  rw [List.getLast?_eq_getElem?, ← hlen] at hu
  refine h.held hidle k u hk hu ?_
  rw [← traceActive_eq k u hk hu, hact]

theorem Succession.threadMove {i : ℕ} {t t' : MonitoringThread} (h : Succession s)
    (hm : ThreadMove i s s' t t') : Succession s' := by
  have hlast := h.last i t hm.thread hm.running
  have hlen : s'.threads.length = s.threads.length := by rw [hm.threads, List.length_set]
  refine ⟨?_, ?_, ?_⟩
  · intro j hj
    rw [hlen]
    exact h.monitoringThread j (hm.monitoringThread ▸ hj)
  · intro j u hu hj
    rw [hm.threads, List.getElem?_set_ne (by omega)] at hu
    exact h.earlier j u hu (by omega)
  · intro hidle j u hj hu hact
    rw [hm.monitoringThread] at hj
    have hjlast := h.monitoringThread j hj
    obtain rfl : j = i := by omega
    rw [hm.threads, List.getElem?_set_self (by omega)] at hu
    cases hu
    rcases hm.active with ⟨hsame, -⟩ | ⟨-, hended⟩
    · exact absurd (h.held (hm.main ▸ hidle) j t hj hm.thread (hsame ▸ hact)) hm.running
    · exact hended

theorem Succession.transition {e : Event} (h : Succession s) (hok : Restartable s e)
    (ht : Transition cfg s e s') : Succession s' := by
  cases ht with
  | thread i acts s' t t' move => exact h.threadMove move
  | startIgnored => exact h
  | started ok world idle active current =>
    have hended : ∀ (i : ℕ) (t : MonitoringThread), s.threads[i]? = some t → t.pc = .ended := by
      cases hm : s.monitoringThread with
      | none => exact h.all_ended (hok idle hm)
      | some k => exact h.inactive idle k hm active
    refine ⟨?_, ?_, ?_⟩
    · intro i hi
      cases hi
      rw [List.length_append]
      rfl
    · intro i t hi hlt
      rw [List.length_append, List.length_singleton] at hlt
      rw [List.getElem?_append_left (by omega)] at hi
      exact hended i t hi
    · intro _ i t hi hthread hact
      cases hi
      rw [List.getElem?_concat_length] at hthread
      cases hthread
      cases hact
  | handled => exact ⟨h.monitoringThread, h.earlier, h.held⟩
  | stopIgnored => exact ⟨h.monitoringThread, h.earlier, h.held⟩
  | stopping source i t idle monitoringThread thread active =>
    have hi := h.monitoringThread i monitoringThread
    refine ⟨?_, ?_, nofun⟩
    · intro j hj
      rw [List.length_set]
      exact h.monitoringThread j hj
    · intro j u hu hj
      rw [List.length_set] at hj
      rw [List.getElem?_set_ne (by omega)] at hu
      exact h.earlier j u hu hj
  | ui => exact ⟨h.monitoringThread, h.earlier, h.held⟩
  | flushed => exact ⟨h.monitoringThread, h.earlier, nofun⟩
  | flushFailed => exact ⟨nofun, h.earlier, fun _ _ _ hi => nomatch hi⟩
  | saved => exact ⟨h.monitoringThread, h.earlier, nofun⟩
  | joined => exact ⟨nofun, h.earlier, fun _ _ _ hi => nomatch hi⟩

end Succession

theorem Orderly.succession (h : Orderly s) : Succession s where
  monitoringThread := h.monitoringThread
  earlier := h.earlier
  held hidle i t hi ht hact := h.resting hidle ((traceActive_eq i t hi ht).trans hact) i t ht

theorem Orderly.last (h : Orderly s) (i : ℕ) (t : MonitoringThread) (ht : s.threads[i]? = some t)
    (hpc : t.pc ≠ .ended) : i+1 = s.threads.length := h.succession.last i t ht hpc

theorem traceActive_of_none (h : s.monitoringThread = none) : s.traceActive = false := by
  simp [Service.traceActive, h]

/-- What is orderly beyond the succession: a thread that was let go has ended. -/
theorem orderly_of_succession (h : Succession s)
    (hnone : s.main = .idle → s.monitoringThread = none → ∀ t, s.threads.getLast? = some t →
      t.pc = .ended) :
    Orderly s := by
  refine ⟨h.monitoringThread, h.earlier, ?_⟩
  intro hidle hact
  cases hm : s.monitoringThread with
  | none => exact h.all_ended (hnone hidle hm)
  | some k => exact h.inactive hidle k hm hact

theorem Orderly.letGo (h : Orderly s) (hidle : s.main = .idle) (hm : s.monitoringThread = none)
    (t : MonitoringThread) (ht : s.threads.getLast? = some t) : t.pc = .ended := by
  rw [List.getLast?_eq_getElem?] at ht
  exact h.resting hidle (traceActive_of_none hm) _ t ht

theorem Orderly.restartable (h : Orderly s) (e : Event) : Restartable s e := by
  cases e with
  | startTracing ok => exact h.letGo
  | _ => exact trivial

theorem Orderly.transition {e : Event} (h : Orderly s) (hok : FlushSucceeds s e)
    (ht : Transition cfg s e s') : Orderly s' := by
  apply orderly_of_succession (h.succession.transition (h.restartable e) ht)
  intro hidle hm
  cases ht with
  | thread i acts s' t t' move =>
    rw [move.main] at hidle
    rw [move.monitoringThread] at hm
    exact absurd (h.resting hidle (traceActive_of_none hm) i t move.thread) move.running
  | startIgnored => exact h.letGo hidle hm
  | started => cases hm
  | handled => exact h.letGo hidle hm
  | stopIgnored => exact h.letGo hidle hm
  | stopping => cases hidle
  | ui => exact h.letGo hidle hm
  | flushed => cases hidle
  | flushFailed ok log e flushing run =>
    obtain ⟨log', hrun⟩ := hok
    rw [run] at hrun
    cases hrun
  | saved => cases hidle
  | joined i joining monitoringThread ended =>
    intro t ht
    rw [List.getLast?_eq_getElem?, ← h.monitoringThread i monitoringThread] at ht
    exact ended t ht

/-! The paths of the log belong to the session whose thread was created last. -/

structure Begun (cfg : LogConfig FileLine) (s : Service) : Prop where
  saveFilePath : s.log.saveFilePath = partPath cfg s.world.sessionNumber s.log.part
  saveSessionFilePath : s.log.saveSessionFilePath = sessionSummaryPath cfg
  current : Current s.world
  session : ∀ (i : ℕ) (t : MonitoringThread), s.threads[i]? = some t → i+1 = s.threads.length →
    t.session = s.world.sessionNumber

/-- Before the first `StartTracing` there is only the idle thread of the constructor. -/
structure Tracked (cfg : LogConfig FileLine) (s : Service) : Prop where
  threads_pos : 0 < s.threads.length
  started : s.stopped = false → 1 < s.threads.length
  active : ∀ (i : ℕ) (t : MonitoringThread), s.threads[i]? = some t →
    t.threadActive = true ∨ t.pc ≠ .ended → 1 < s.threads.length
  busy : s.main ≠ .idle → 1 < s.threads.length
  begun : 1 < s.threads.length → Begun cfg s

theorem tracked_created (world : World) (files : String → Option (List String)) :
    Tracked cfg (Service.created world files) := by
  refine ⟨Nat.one_pos, nofun, ?_, fun h => absurd rfl h, fun h => absurd h (lt_irrefl 1)⟩
  intro i t ht hact
  cases i with
  | zero =>
    cases ht
    rcases hact with hact | hact
    · cases hact
    · exact absurd rfl hact
  | succ i => cases ht

theorem Begun.threadMove {i : ℕ} {t t' : MonitoringThread} (h : Begun cfg s)
    (hm : ThreadMove i s s' t t') : Begun cfg s' := by
  refine ⟨?_, ?_, hm.world.current h.current, ?_⟩
  · rw [hm.log, hm.world.sessionNumber]
    exact h.saveFilePath
  · rw [hm.log]
    exact h.saveSessionFilePath
  · intro j u hu hj
    rw [hm.threads, List.length_set] at hj
    rw [hm.world.sessionNumber]
    by_cases hji : j = i
    · subst hji
      rw [hm.threads, List.getElem?_set_self (by omega)] at hu
      cases hu
      rw [hm.session]
      exact h.session j t hm.thread hj
    · rw [hm.threads, List.getElem?_set_ne (Ne.symm hji)] at hu
      exact h.session j u hu hj

/-- A step that changes neither the threads nor the session. -/
theorem Begun.of_frame (h : Begun cfg s) (hthreads : s'.threads = s.threads)
    (hworld : TraceStep s.world s'.world)
    (hpath : s.log.saveFilePath = partPath cfg s.world.sessionNumber s.log.part →
      s'.log.saveFilePath = partPath cfg s.world.sessionNumber s'.log.part)
    (hsummary : s'.log.saveSessionFilePath = s.log.saveSessionFilePath) : Begun cfg s' := by
  refine ⟨?_, hsummary.trans h.saveSessionFilePath, hworld.current h.current, ?_⟩
  · rw [hworld.sessionNumber]
    exact hpath h.saveFilePath
  · rw [hthreads, hworld.sessionNumber]
    exact h.session

theorem begun_started (ok : Bool) (world : World) (hcurrent : Current world)
    (hlog : s.log = (Log.started cfg world.sessionNumber s'.log.files).withFile cfg ok)
    (hthreads : s.threads = s'.threads ++ [⟨true, .checking, world.sessionNumber, 0⟩])
    (hworld : s.world = world) : Begun cfg s := by
  subst hworld
  refine ⟨?_, ?_, hcurrent, ?_⟩
  · rw [hlog, withFile_eq]
    rfl
  · rw [hlog, withFile_eq]
    rfl
  · intro i t ht hi
    rw [hthreads, List.length_append, List.length_singleton] at hi
    obtain rfl : i = s'.threads.length := by omega
    rw [hthreads, List.getElem?_concat_length] at ht
    cases ht
    rfl

theorem Tracked.threadMove {i : ℕ} {t t' : MonitoringThread} (h : Tracked cfg s)
    (hm : ThreadMove i s s' t t') : Tracked cfg s' := by
  have hlen : s'.threads.length = s.threads.length := by rw [hm.threads, List.length_set]
  refine ⟨?_, ?_, ?_, ?_, ?_⟩
  · rw [hlen]
    exact h.threads_pos
  · rw [hlen, hm.stopped]
    exact h.started
  · intro _ _ _ _
    rw [hlen]
    exact h.active i t hm.thread (.inr hm.running)
  · rw [hlen, hm.main]
    exact h.busy
  · intro hlt
    exact (h.begun (hlen ▸ hlt)).threadMove hm

/-- A step of the main thread that changes neither the threads nor the session. -/
theorem Tracked.of_frame (h : Tracked cfg s) (hthreads : s'.threads = s.threads)
    (hstopped : s'.stopped = false → s.stopped = false) (hmain : s'.main ≠ .idle → s.main ≠ .idle)
    (hworld : TraceStep s.world s'.world)
    (hpath : s.log.saveFilePath = partPath cfg s.world.sessionNumber s.log.part →
      s'.log.saveFilePath = partPath cfg s.world.sessionNumber s'.log.part)
    (hsummary : s'.log.saveSessionFilePath = s.log.saveSessionFilePath) : Tracked cfg s' := by
  refine ⟨?_, ?_, ?_, ?_, ?_⟩ <;> rw [hthreads]
  · exact h.threads_pos
  · exact h.started ∘ hstopped
  · exact h.active
  · exact h.busy ∘ hmain
  · exact fun hlt => (h.begun hlt).of_frame hthreads hworld hpath hsummary

theorem Tracked.transition {e : Event} (h : Tracked cfg s) (ht : Transition cfg s e s') :
    Tracked cfg s' := by
  have hself : TraceStep s.world s.world := Std.Refl.refl _
  cases ht with
  | thread i acts s' t t' move => exact h.threadMove move
  | startIgnored => exact h
  | started ok world idle active current =>
    have hlen : 1 <
        (s.threads ++ [MonitoringThread.mk true .checking world.sessionNumber 0]).length := by
      have hpos := h.threads_pos
      rw [List.length_append, List.length_singleton]
      omega
    exact ⟨Nat.lt_trans Nat.one_pos hlen, fun _ => hlen, fun _ _ _ _ => hlen, fun _ => hlen,
      fun _ => begun_started ok world current rfl rfl rfl⟩
  | handled writes msg rest world text idle queue step =>
    refine h.of_frame rfl id id step ?_ ?_
    · exact handleMessage_saveFilePath cfg _ writes _ s.log
    · exact handleMessage_saveSessionFilePath cfg _ writes _ s.log
  | stopIgnored => exact h.of_frame rfl nofun id hself id rfl
  | stopping source i t idle monitoringThread thread active =>
    have hlen := h.active i t thread (.inl active)
    have hb := h.begun hlen
    refine ⟨?_, nofun, ?_, ?_, ?_⟩ <;> rw [List.length_set]
    · exact h.threads_pos
    · exact fun _ _ _ _ => hlen
    · exact fun _ => hlen
    · refine fun _ => ⟨hb.saveFilePath, hb.saveSessionFilePath, hb.current, ?_⟩
      intro j u hu hj
      rw [List.length_set] at hj
      by_cases hji : j = i
      · subst hji
        rw [List.getElem?_set_self (by omega)] at hu
        cases hu
        exact hb.session j t thread hj
      · rw [List.getElem?_set_ne (Ne.symm hji)] at hu
        exact hb.session j u hu hj
  | ui op world idle step => exact h.of_frame rfl id id step id rfl
  | flushed ok log flushing run =>
    obtain ⟨h₁, h₂, h₃⟩ := saveUnsavedLogs_frame ok s.log log _ run
    refine h.of_frame rfl id (fun _ => by rw [flushing]; nofun) hself ?_ h₃
    rw [h₁, h₂]
    exact id
  | flushFailed ok log e flushing run =>
    obtain ⟨h₁, h₂, h₃⟩ := saveUnsavedLogs_frame ok s.log log _ run
    refine h.of_frame rfl id (fun hne => absurd rfl hne) hself ?_ h₃
    rw [h₁, h₂]
    exact id
  | saved ok world summary saving step session =>
    obtain ⟨files, lines, hsaved⟩ := saveSessionSummaryEntry_run ok summary s.log
    refine h.of_frame rfl id (fun _ => by rw [saving]; nofun) step ?_ ?_
    · rw [hsaved.run]
      exact id
    · rw [hsaved.run]
  | joined i joining monitoringThread ended =>
    exact h.of_frame rfl id (fun hne => absurd rfl hne) hself id rfl

/-! While a session is open the service holds on to its thread. -/

structure Watched (s : Service) : Prop where
  flag : ∀ (i : ℕ) (t : MonitoringThread), s.threads[i]? = some t → t.pc = .ended →
    t.threadActive = false
  busy : s.main ≠ .idle → s.stopped = true
  held : s.stopped = false → s.monitoringThread.isSome

theorem watched_created (world : World) (files : String → Option (List String)) :
    Watched (Service.created world files) := by
  refine ⟨?_, fun h => absurd rfl h, nofun⟩
  intro i t ht _
  cases i with
  | zero =>
    cases ht
    rfl
  | succ i => cases ht

theorem Watched.flag_set (h : Watched s) (i : ℕ) (t : MonitoringThread)
    (ht : t.pc = .ended → t.threadActive = false) (j : ℕ) (u : MonitoringThread)
    (hu : (s.threads.set i t)[j]? = some u) (hpc : u.pc = .ended) : u.threadActive = false := by
  by_cases hj : j = i
  · subst hj
    have hlt := (List.getElem?_eq_some_iff.mp hu).1
    rw [List.length_set] at hlt
    rw [List.getElem?_set_self hlt] at hu
    cases hu
    exact ht hpc
  · rw [List.getElem?_set_ne (Ne.symm hj)] at hu
    exact h.flag j u hu hpc

theorem Watched.transition {e : Event} (h : Watched s) (ht : Transition cfg s e s') :
    Watched s' := by
  cases ht with
  | thread i acts s' t t' move =>
    refine ⟨?_, ?_, ?_⟩
    · rw [move.threads]
      apply h.flag_set
      intro hended
      rcases move.active with ⟨-, hne⟩ | ⟨hfalse, -⟩
      · exact absurd hended hne
      · exact hfalse
    · rw [move.main, move.stopped]
      exact h.busy
    · rw [move.stopped, move.monitoringThread]
      exact h.held
  | startIgnored => exact h
  | started ok world idle active current =>
    refine ⟨?_, fun hne => absurd idle hne, fun _ => rfl⟩
    intro j u hu hpc
    by_cases hj : j < s.threads.length
    · rw [List.getElem?_append_left hj] at hu
      exact h.flag j u hu hpc
    · have hlt := (List.getElem?_eq_some_iff.mp hu).1
      rw [List.length_append, List.length_singleton] at hlt
      obtain rfl : j = s.threads.length := by omega
      rw [List.getElem?_concat_length] at hu
      cases hu
      cases hpc
  | handled => exact ⟨h.flag, h.busy, h.held⟩
  | stopIgnored => exact ⟨h.flag, fun _ => rfl, nofun⟩
  | stopping source i t idle monitoringThread thread active =>
    exact ⟨h.flag_set i _ fun _ => rfl, fun _ => rfl, nofun⟩
  | ui => exact ⟨h.flag, h.busy, h.held⟩
  | flushed ok log flushing run =>
    have hstopped := h.busy (by rw [flushing]; nofun)
    exact ⟨h.flag, fun _ => hstopped, h.held⟩
  | flushFailed ok log e flushing run =>
    have hstopped := h.busy (by rw [flushing]; nofun)
    refine ⟨h.flag, fun _ => hstopped, ?_⟩
    intro hopen
    rw [hstopped] at hopen
    cases hopen
  | saved ok world summary saving step session =>
    have hstopped := h.busy (by rw [saving]; nofun)
    exact ⟨h.flag, fun _ => hstopped, h.held⟩
  | joined i joining monitoringThread ended =>
    have hstopped := h.busy (by rw [joining]; nofun)
    refine ⟨h.flag, fun _ => hstopped, ?_⟩
    intro hopen
    rw [hstopped] at hopen
    cases hopen

/-- The thread of an open session is active until it leaves its loop. -/
theorem traceActive_iff_running (ho : Orderly s) (hw : Watched s) (hidle : s.main = .idle)
    (hopen : s.stopped = false) :
    s.traceActive = true ↔ ∃ t, s.threads.getLast? = some t ∧ t.pc ≠ .ended := by
  have hlast (i : ℕ) (hi : i+1 = s.threads.length) : s.threads.getLast? = s.threads[i]? := by
    rw [List.getLast?_eq_getElem?, ← hi]
    rfl
  constructor
  · intro hact
    obtain ⟨i, t, hm, ht, htrue⟩ := traceActive_eq_true hact
    refine ⟨t, (hlast i (ho.monitoringThread i hm)).trans ht, ?_⟩
    intro hended
    rw [hw.flag i t ht hended] at htrue
    cases htrue
  · rintro ⟨t, ht, hrunning⟩
    obtain ⟨i, hm⟩ := Option.isSome_iff_exists.mp (hw.held hopen)
    rw [hlast i (ho.monitoringThread i hm)] at ht
    by_contra hact
    exact hrunning (ho.resting hidle (Bool.eq_false_iff.mpr hact) i t ht)

end MmWaveTracker
