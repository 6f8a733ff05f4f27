import MmWaveTracker.InFlight

/-! Who samples, and for whom: at most one thread that can still take a step, which counts
its reports in the summary that was made together with it. -/
namespace MmWaveTracker

/-- The service, and as history the thread that the `StartTracing` call created which made
the summary in `curSession`. -/
structure Attributed where
  service : Service
  owner : Option ℕ

/-- The event is a `StartTracing` that replaces the summary. -/
def StartsSession (s : Service) : Event → Bool
  | .startTracing _ => !s.traceActive
  | _ => false

def attributedStep (A : Android) (cfg : LogConfig FileLine) (s : Attributed) (e : Event) :
    Option Attributed :=
  (step A cfg s.service e).map fun service =>
    { service, owner := if StartsSession s.service e then some s.service.threads.length
      else s.owner }

def Attributed.created (world : World) (files : String → Option (List String)) : Attributed :=
  { service := Service.created world files, owner := none }

/-- No two threads can still take a step. -/
def OneSampler (s : Service) : Prop :=
  ∀ (i j : ℕ) (t u : MonitoringThread), s.threads[i]? = some t → s.threads[j]? = some u →
    t.pc ≠ .ended → u.pc ≠ .ended → i = j

/-- Every call of `processNetworkReport` that is about to be made goes to the summary that
was created with the caller. -/
def CountsOwnReports (s : Attributed) : Prop :=
  ∀ (i : ℕ) (t : MonitoringThread) (startTime : ℤ), s.service.threads[i]? = some t →
    t.pc = .publishing startTime → s.owner = some i

variable {A : Android} {cfg : LogConfig FileLine} {s s' : Service}

theorem Succession.oneSampler (h : Succession s) : OneSampler s := by
  intro i j t u hi hj ht hu
  have hlast := h.last i t hi ht
  have hlast' := h.last j u hj hu
  omega

/-- The last thread belongs to the summary at hand. -/
structure Attribution (s : Attributed) : Prop where
  succession : Succession s.service
  owner : ∀ (i : ℕ) (t : MonitoringThread), s.service.threads[i]? = some t → t.pc ≠ .ended →
    s.owner = some i

theorem attribution_created (world : World) (files : String → Option (List String)) :
    Attribution (Attributed.created world files) where
  succession := (orderly_created world files).succession
  owner i t ht hpc := absurd (ended_created world files i t ht) hpc

theorem Attribution.countsOwnReports {s : Attributed} (h : Attribution s) : CountsOwnReports s := by
  intro i t startTime ht hpc
  exact h.owner i t ht (by simp [hpc])

/-- Outside of `StartTracing` no thread comes to life. -/
theorem live_of_transition {e : Event} (ht : Transition cfg s e s')
    (hstart : StartsSession s e = false) (i : ℕ) (t' : MonitoringThread)
    (hi : s'.threads[i]? = some t') (hpc : t'.pc ≠ .ended) :
    ∃ t, s.threads[i]? = some t ∧ t.pc ≠ .ended := by
  have hset (j : ℕ) (t u : MonitoringThread) (hj : s.threads[j]? = some t) (ht : t.pc ≠ .ended ∨
      u.pc = t.pc) (hu : (s.threads.set j u)[i]? = some t') : ∃ t, s.threads[i]? = some t ∧
        t.pc ≠ .ended := by
    by_cases hij : i = j
    · subst hij
      rw [List.getElem?_set_self (List.getElem?_eq_some_iff.mp hj).1] at hu
      cases hu
      rcases ht with ht | ht
      · exact ⟨t, hj, ht⟩
      · exact ⟨t, hj, ht ▸ hpc⟩
    · rw [List.getElem?_set_ne (Ne.symm hij)] at hu
      exact ⟨t', hu, hpc⟩
  cases ht with
  | thread j acts s' t u move =>
    rw [move.threads] at hi
    exact hset j t u move.thread (.inl move.running) hi
  | started ok world idle active current => simp [StartsSession, active] at hstart
  | stopping source j t idle monitoringThread thread active =>
      exact hset j t { t with threadActive := false } thread (.inr rfl) hi
  | _ => exact ⟨t', hi, hpc⟩

theorem Attribution.transition {s s' : Attributed} {e : Event} (h : Attribution s)
    (hok : Restartable s.service e) (hstep : attributedStep A cfg s e = some s') :
    Attribution s' := by
  obtain ⟨service, hs, rfl⟩ := Option.map_eq_some_iff.mp hstep
  have ht := transition_of_step e hs
  refine ⟨h.succession.transition hok ht, ?_⟩
  intro i t hi hpc
  dsimp only at hi ⊢
  split_ifs with hstart
  · have hlast := (h.succession.transition hok ht).last i t hi hpc
    cases ht with
    | startIgnored ok idle active => simp [StartsSession, active] at hstart
    | started ok world idle active current =>
      rw [List.length_append, List.length_singleton] at hlast
      exact congrArg some (by omega)
    | _ => cases hstart
  · obtain ⟨u, hu, hupc⟩ := live_of_transition ht (Bool.eq_false_iff.mpr hstart) i t hi hpc
    exact h.owner i u hu hupc

/-- A `StartTracing` over a thread that was let go while it still runs makes it two. -/
theorem not_oneSampler_of_start {e : Event} (ht : Transition cfg s e s') (h : ¬Restartable s e) :
    ¬OneSampler s' := by
  cases ht with
  | startIgnored ok idle active =>
    refine absurd ?_ h
    intro _ hm
    rw [traceActive_of_none hm] at active
    cases active
  | started ok world idle active current =>
    have hlive : ∃ t, s.threads.getLast? = some t ∧ t.pc ≠ .ended := by
      by_contra hnone
      push Not at hnone
      exact h fun _ _ => hnone
    obtain ⟨t, ht, hpc⟩ := hlive
    rw [List.getLast?_eq_getElem?] at ht
    have hlt := (List.getElem?_eq_some_iff.mp ht).1
    intro hone
    have heq := hone (s.threads.length-1) s.threads.length t _
      ((List.getElem?_append_left hlt).trans ht) List.getElem?_concat_length hpc nofun
    omega
  | _ => exact absurd trivial h

theorem restartable_of_flushSucceeds (events : List Event) (s : Attributed) (h : Orderly s.service)
    (hok : Along (attributedStep A cfg) (fun s e => FlushSucceeds s.service e) s events) :
    Along (attributedStep A cfg) (fun s e => Restartable s.service e) s events := by
  induction events generalizing s with
  | nil => exact trivial
  | cons e rest ih =>
    refine ⟨h.restartable e, ?_⟩
    intro s' hs
    refine ih s' ?_ (hok.2 s' hs)
    obtain ⟨service, hstep, rfl⟩ := Option.map_eq_some_iff.mp hs
    exact h.transition hok.1 (transition_of_step e hstep)

/-- In every state of a run there is one sampler at most and it counts its reports in its
own summary, exactly if no `StartTracing` of the run finds that the service has let go of a
thread which is still running. A service whose flushes succeed never lets go of one. -/
theorem one_sampler_iff_restartable (A : Android) (cfg : LogConfig FileLine) (world : World)
    (files : String → Option (List String)) (events : List Event) (s : Attributed)
    (hrun : runEvents (attributedStep A cfg) (Attributed.created world files) events = some s) :
    (Throughout (attributedStep A cfg) (fun s => OneSampler s.service ∧ CountsOwnReports s)
      (Attributed.created world files) events ↔
      Along (attributedStep A cfg) (fun s e => Restartable s.service e)
        (Attributed.created world files) events) ∧
    (Along (attributedStep A cfg) (fun s e => FlushSucceeds s.service e)
      (Attributed.created world files) events →
      Throughout (attributedStep A cfg) (fun s => OneSampler s.service ∧ CountsOwnReports s)
        (Attributed.created world files) events) := by
  have hiff := throughout_iff_along (attributedStep A cfg)
    (fun s e => Restartable s.service e) Attribution
    (fun s => OneSampler s.service ∧ CountsOwnReports s)
    (fun s e s' hok hs h => h.transition hok hs)
    (fun s h => ⟨h.succession.oneSampler, h.countsOwnReports⟩)
    (fun s e s' hno hs _ h => by
      obtain ⟨service, hstep, rfl⟩ := Option.map_eq_some_iff.mp hs
      exact not_oneSampler_of_start (transition_of_step e hstep) hno h.1)
    events _ s hrun (attribution_created world files)
  refine ⟨hiff, ?_⟩
  intro hok
  exact hiff.mpr (restartable_of_flushSucceeds events _ (orderly_created world files) hok)

theorem one_sampler_handled_in_time : ∃ s t startTime,
    runEvents (attributedStep ltePhone phoneConfig) (Attributed.created {} fun _ => none)
      (promptEvents.take 5) = some s ∧
    s.service.threads[1]? = some t ∧ t.pc = .publishing startTime ∧ s.owner = some 1 ∧
      OneSampler s.service := by
  have hok : Along (attributedStep ltePhone phoneConfig) (fun s e => FlushSucceeds s.service e)
      (Attributed.created {} fun _ => none) (promptEvents.take 5) := by
    iterate 5 refine along_cons _ _ _ _ _ _ trivial rfl ?_
    exact trivial
  have h := (one_sampler_iff_restartable ltePhone phoneConfig {} (fun _ => none)
    (promptEvents.take 5) _ rfl).2 hok
  have hlast := (((((h.2 _ rfl).2 _ rfl).2 _ rfl).2 _ rfl).2 _ rfl)
  exact ⟨_, _, _, rfl, rfl, rfl, hlast.2 1 _ _ rfl rfl, hlast.1⟩

/-- A report is handled, the flush of `StopTracing` fails, and the user starts again before
the thread has counted the report. -/
def hastyRestart : List Event :=
  [.startTracing true, .thread 1 none, .thread 1 none, .thread 1 none, .thread 1 none,
    .handleMessage ⟨true, true⟩, .stopTracing .action, .flush false, .startTracing true]

/-- Two threads can take a step, and the old one is about to count its report in the
summary of the new session. -/
theorem two_samplers_after_failed_flush : ∃ s,
    runEvents (attributedStep ltePhone phoneConfig)
      (Attributed.created {} fun _ => none) hastyRestart = some s ∧
    ¬OneSampler s.service ∧ ¬CountsOwnReports s := by
  refine ⟨_, rfl, ?_, ?_⟩
  · intro h
    exact absurd (h 1 2 _ _ rfl rfl (by decide) (by decide)) (by decide)
  · intro h
    exact absurd (h 1 _ _ rfl rfl) (by decide)

end MmWaveTracker
