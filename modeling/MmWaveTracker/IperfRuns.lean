import MmWaveTracker.Iperf
import Mathlib.Data.List.Nodup

/-! The runs of the iperf fragment: which of them a session end is counted for. -/
namespace MmWaveTracker.Iperf

/-- The body has not made its `Iperf3` object yet. -/
def Phase.before : Phase → Bool
  | .scheduled | .named | .marked => true
  | .executing | .finished => false

/-- Every session is ended once, under its own number, and no check or timer reaches into
a later run. -/
structure RunsApart (s : Fragment) : Prop where
  once : (s.ended.map Ended.object).Nodup
  number : ∀ e ∈ s.ended, s.numbers[e.object-1]? = some e.number
  ended : ∀ e ∈ s.ended, e.during = e.object
  terminations : ∀ t ∈ s.terminations, t.during = t.run

/-- A new run is switched on only when the earlier ones have left nothing behind: no object
and none still to be made, no check and no timer. -/
def NothingLeft (s : Fragment) : Event → Prop
  | .toggleOn _ => s.iperf3 = none ∧ (∀ task ∈ s.tasks, task.phase.before = false) ∧
      s.checks = [] ∧ s.countDowns = [] ∧ s.statusTimers = []
  | _ => True

instance (s : Fragment) : ∀ e, Decidable (NothingLeft s e)
  | .toggleOn _ => inferInstanceAs (Decidable (_ ∧ _ ∧ _ ∧ _ ∧ _))
  | .toggleOff | .background _ _ | .runPost _ | .tick _ _ | .timerFinish _ | .statusTimerFinish
      _ | .check _ _
  | .checkPost _ _ => .isTrue trivial

/-- What a step of a background body does: it goes on, or it makes its object. -/
theorem background_cases (env : RunEnv) (i : ℕ) (task : RunTask) (s s' : Fragment)
    (hstep : doInBackground env i task s = some s') :
    (∃ phase name state timeLeft, (phase.before = true → task.phase.before = true) ∧
      s' = { s with
        tasks := s.tasks.set i { task with phase }
        iperf_file_name := name
        iperf_termination_state := state
        iperfTimeLeft := timeLeft }) ∨
    (task.phase.before = true ∧
      s' = { s with
        tasks := s.tasks.set i { task with phase := .executing }, iperf3 := some task.run }) := by
  unfold doInBackground at hstep
  cases hphase : task.phase with
  | scheduled =>
    simp only [hphase] at hstep
    split_ifs at hstep
    · cases hstep
      exact .inl ⟨.named, _, _, _, fun _ => rfl, rfl⟩
    · cases hstep
      exact .inl ⟨.finished, _, _, _, fun _ => rfl, rfl⟩
  | named =>
    simp only [hphase] at hstep
    cases hstep
    exact .inl ⟨.marked, _, _, _, fun _ => rfl, rfl⟩
  | marked =>
    simp only [hphase] at hstep
    cases hstep
    exact .inr ⟨rfl, rfl⟩
  | executing =>
    simp only [hphase] at hstep
    split_ifs at hstep
    · cases hstep
      exact .inl ⟨.finished, _, _, _, id, rfl⟩
    · cases hstep
      exact .inl ⟨.finished, _, _, _, id, rfl⟩
  | finished =>
    simp only [hphase] at hstep
    cases hstep

/-! One object for each run. -/

structure Once (s : Fragment) : Prop where
  nodup : (s.ended.map Ended.object).Nodup
  live : ∀ k, s.iperf3 = some k → k ∉ s.ended.map Ended.object
  runs : (s.tasks.map RunTask.run).Nodup
  fresh : ∀ task ∈ s.tasks, task.phase.before = true → task.run ∉ s.ended.map Ended.object ∧
    s.iperf3 ≠ some task.run
  tasks_le : ∀ task ∈ s.tasks, task.run ≤ s.current
  ended_le : ∀ k ∈ s.ended.map Ended.object, k ≤ s.current
  iperf3_le : ∀ k, s.iperf3 = some k → k ≤ s.current

/-- The fields that say which objects there are. -/
structure SameObjects (s s' : Fragment) : Prop where
  ended : s'.ended = s.ended
  iperf3 : s'.iperf3 = s.iperf3
  tasks : s'.tasks = s.tasks
  numbers : s'.numbers = s.numbers

theorem nodup_map_concat {α β : Type} (f : α → β) (l : List α) (a : α) (h : (l.map f).Nodup)
    (ha : f a ∉ l.map f) : ((l ++ [a]).map f).Nodup := by
  rw [List.map_append, List.map_singleton, ← List.concat_eq_append]
  exact h.concat ha

section Once

variable {s s' : Fragment}

theorem Once.same (h : Once s) (hs : SameObjects s s') : Once s' := by
  obtain ⟨hended, hiperf3, htasks, hnumbers⟩ := hs
  have hcurrent : s'.current = s.current := congrArg List.length hnumbers
  obtain ⟨h₁, h₂, h₃, h₄, h₅, h₆, h₇⟩ := h
  rw [← hended] at h₁ h₂ h₄ h₆
  rw [← hiperf3] at h₂ h₄ h₇
  rw [← htasks] at h₃ h₄ h₅
  rw [← hcurrent] at h₅ h₆ h₇
  exact ⟨h₁, h₂, h₃, h₄, h₅, h₆, h₇⟩

theorem same_terminate (during : Option ℕ) (state : TerminationState) :
    SameObjects s (terminateIperfSession during state s) := ⟨rfl, rfl, rfl, rfl⟩

theorem same_switchedOff (during : Option ℕ) : SameObjects s (switchedOff during s) := by
  unfold switchedOff
  dsimp only
  split_ifs
  · exact ⟨rfl, rfl, rfl, rfl⟩
  · exact ⟨rfl, rfl, rfl, rfl⟩

theorem same_uncheck (during : ℕ) : SameObjects s (uncheck during s) := by
  unfold uncheck
  split_ifs
  · exact same_switchedOff (some during)
  · exact ⟨rfl, rfl, rfl, rfl⟩

theorem same_cancelCountDown : SameObjects s (cancelCountDown s) := by
  unfold cancelCountDown
  cases s.iperfCountDownTimer with
  | none => exact ⟨rfl, rfl, rfl, rfl⟩
  | some run => exact ⟨rfl, rfl, rfl, rfl⟩

theorem same_onPostExecute : SameObjects s (onPostExecute s) := by
  unfold onPostExecute
  split_ifs
  · exact same_terminate none _
  · exact ⟨rfl, rfl, rfl, rfl⟩

theorem same_onTick (timer : CountDown) (millisUntilFinished : ℕ) :
    SameObjects s (onTick timer millisUntilFinished s) := by
  unfold onTick
  dsimp only
  split_ifs
  · exact ⟨rfl, rfl, rfl, rfl⟩
  · exact ⟨rfl, rfl, rfl, rfl⟩

theorem same_onFinish (timer : CountDown) : SameObjects s (onFinish timer s) := by
  unfold onFinish
  dsimp only
  split_ifs
  · exact ⟨rfl, rfl, rfl, rfl⟩
  · exact ⟨rfl, rfl, rfl, rfl⟩

theorem same_onStatusTimerFinish (during : ℕ) : SameObjects s (onStatusTimerFinish during s) := by
  unfold onStatusTimerFinish
  split_ifs
  · exact same_terminate (some during) _
  · exact ⟨rfl, rfl, rfl, rfl⟩

/-- The object is counted and let go of. -/
theorem Once.letGo (h : Once s) (object : ℕ) (hobject : s.iperf3 = some object) (number : ℤ)
    (during : ℕ) :
    Once { s with ended := s.ended ++ [{ object, number, during }], iperf3 := none } := by
  have hmap : (s.ended ++ [Ended.mk object number during]).map Ended.object =
      s.ended.map Ended.object ++ [object] :=
    List.map_append
  constructor
  · exact nodup_map_concat Ended.object s.ended _ h.nodup (h.live object hobject)
  · intro k hk
    cases hk
  · exact h.runs
  · intro task htask hbefore
    obtain ⟨hnot, hne⟩ := h.fresh task htask hbefore
    refine ⟨?_, by simp⟩
    rw [hmap, List.mem_append, List.mem_singleton]
    rintro (hmem | heq)
    · exact hnot hmem
    · exact hne (heq ▸ hobject)
  · exact h.tasks_le
  · intro k hk
    rw [hmap, List.mem_append, List.mem_singleton] at hk
    rcases hk with hk | rfl
    · exact h.ended_le k hk
    · exact h.iperf3_le k hobject
  · intro k hk
    cases hk

theorem Once.endIperfSession (h : Once s) (during : ℕ) (result : TestResult) :
    Once (endIperfSession during result s) := by
  unfold Iperf.endIperfSession
  cases hobject : s.iperf3 with
  | none => exact h
  | some object =>
    have hcancelled := h.same same_cancelCountDown
    have hgone := hcancelled.letGo object (same_cancelCountDown.iperf3.trans hobject)
      (cancelCountDown s).run_number_current during
    exact (hgone.same (same_uncheck during)).same ⟨rfl, rfl, rfl, rfl⟩

theorem Once.onCheckPostExecute (h : Once s) (during : ℕ) (result : TestResult) :
    Once (onCheckPostExecute during result s) := by
  have hforce := h.same (same_terminate (some during) .terminatedForcefully)
  simp only [Iperf.onCheckPostExecute]
  split_ifs
  · exact hforce.endIperfSession during result
  · exact hforce
  · exact h.endIperfSession during result
  · exact h

theorem Once.onPreExecute (h : Once s) (iperf_duration : ℕ) :
    Once (onPreExecute iperf_duration s) := by
  have hcurrent : (Iperf.onPreExecute iperf_duration s).current = s.current+1 := List.length_append
  have hnew (k : ℕ) (hk : k ≤ s.current) : k ≤ (Iperf.onPreExecute iperf_duration s).current := by
    omega
  constructor
  · exact h.nodup
  · exact h.live
  · refine nodup_map_concat RunTask.run s.tasks _ h.runs fun hmem => ?_
    obtain ⟨task, htask, heq⟩ := List.mem_map.mp hmem
    have hle := h.tasks_le task htask
    rw [heq] at hle
    exact absurd hle (Nat.not_succ_le_self _)
  · intro task htask hbefore
    rcases List.mem_append.mp htask with htask | hnew
    · exact h.fresh task htask hbefore
    · rw [List.mem_singleton.mp hnew]
      constructor
      · intro hmem
        have hle := h.ended_le _ hmem
        exact absurd hle (Nat.not_succ_le_self _)
      · intro heq
        have hle := h.iperf3_le _ heq
        exact absurd hle (Nat.not_succ_le_self _)
  · intro task htask
    rcases List.mem_append.mp htask with htask | hlast
    · exact hnew _ (h.tasks_le task htask)
    · rw [List.mem_singleton.mp hlast, hcurrent]
  · exact fun k hk => hnew k (h.ended_le k hk)
  · exact fun k hk => hnew k (h.iperf3_le k hk)

theorem map_run_set (i : ℕ) (task : RunTask) (phase : Phase) (tasks : List RunTask)
    (htask : tasks[i]? = some task) :
    (tasks.set i { task with phase }).map RunTask.run = tasks.map RunTask.run := by
  obtain ⟨hi, rfl⟩ := List.getElem?_eq_some_iff.mp htask
  rw [List.map_set]
  apply List.ext_getElem?
  intro j
  by_cases hj : i = j
  · subst hj
    rw [List.getElem?_set_self (by rw [List.length_map]; exact hi), List.getElem?_map,
      List.getElem?_eq_getElem hi]
    rfl
  · rw [List.getElem?_set_ne hj]

/-- A background body that goes on without making its object. -/
theorem Once.moved (h : Once s) (i : ℕ) (task : RunTask) (phase : Phase)
    (htask : s.tasks[i]? = some task) (hphase : phase.before = true → task.phase.before = true) :
    Once { s with tasks := s.tasks.set i { task with phase } } := by
  have hmem : task ∈ s.tasks := List.mem_of_getElem? htask
  refine ⟨h.nodup, h.live, ?_, ?_, ?_, h.ended_le, h.iperf3_le⟩
  · change ((s.tasks.set i { task with phase }).map RunTask.run).Nodup
    rw [map_run_set i task phase s.tasks htask]
    exact h.runs
  · intro t ht hbefore
    rcases List.mem_or_eq_of_mem_set ht with ht | rfl
    · exact h.fresh t ht hbefore
    · exact h.fresh task hmem (hphase hbefore)
  · intro t ht
    rcases List.mem_or_eq_of_mem_set ht with ht | rfl
    · exact h.tasks_le t ht
    · exact h.tasks_le task hmem

/-- The body makes its object. -/
theorem Once.create (h : Once s) (i : ℕ) (task : RunTask) (htask : s.tasks[i]? = some task)
    (hphase : task.phase.before = true) :
    Once { s with
      tasks := s.tasks.set i { task with phase := .executing }, iperf3 := some task.run } := by
  have hmem : task ∈ s.tasks := List.mem_of_getElem? htask
  have hmoved := h.moved i task .executing htask (fun hb => absurd hb Bool.false_ne_true)
  refine ⟨hmoved.nodup, ?_, hmoved.runs, ?_, hmoved.tasks_le, hmoved.ended_le, ?_⟩
  · intro k hk
    cases hk
    exact (h.fresh task hmem hphase).1
  · intro t ht hbefore
    refine ⟨(hmoved.fresh t ht hbefore).1, fun heq => ?_⟩
    have hself : ({ task with phase := .executing } : RunTask) ∈
        s.tasks.set i { task with phase := .executing } :=
      List.mem_set (List.getElem?_eq_some_iff.mp htask).choose _
    have hsame := List.inj_on_of_nodup_map hmoved.runs ht hself (Option.some.inj heq).symm
    rw [hsame] at hbefore
    cases hbefore
  · intro k hk
    cases hk
    exact h.tasks_le task hmem

theorem Once.doInBackground (h : Once s) (env : RunEnv) (i : ℕ) (task : RunTask)
    (htask : s.tasks[i]? = some task) (hstep : doInBackground env i task s = some s') :
    Once s' := by
  obtain ⟨phase, name, state, timeLeft, hphase, rfl⟩ | ⟨hphase, rfl⟩ :=
    background_cases env i task s s' hstep
  · exact { h.moved i task phase htask hphase with }
  · exact h.create i task htask hphase

theorem Once.erase (h : Once s) (i : ℕ) : Once { s with tasks := s.tasks.eraseIdx i } where
  nodup := h.nodup
  live := h.live
  runs := (h.runs.sublist ((List.eraseIdx_sublist s.tasks i).map RunTask.run))
  fresh := fun task htask => h.fresh task (List.mem_of_mem_eraseIdx htask)
  tasks_le := fun task htask => h.tasks_le task (List.mem_of_mem_eraseIdx htask)
  ended_le := h.ended_le
  iperf3_le := h.iperf3_le

theorem once_step (e : Event) (hstep : step s e = some s') (h : Once s) : Once s' := by
  cases taken_of_step hstep with
  | toggleOn iperf_duration =>
    have hon : Once { s with checked := true } := h.same ⟨rfl, rfl, rfl, rfl⟩
    exact hon.onPreExecute iperf_duration
  | toggleOff => exact h.same (same_switchedOff none)
  | background i env task _ htask hbody => exact h.doInBackground env i task htask hbody
  | runPost i => exact (h.erase i).same same_onPostExecute
  | tick i millisUntilFinished timer => exact h.same (same_onTick timer millisUntilFinished)
  | timerFinish i timer =>
    have herase : Once { s with countDowns := s.countDowns.eraseIdx i } :=
      h.same ⟨rfl, rfl, rfl, rfl⟩
    exact herase.same (same_onFinish timer)
  | statusTimerFinish i during =>
    have herase : Once { s with statusTimers := s.statusTimers.eraseIdx i } :=
      h.same ⟨rfl, rfl, rfl, rfl⟩
    exact herase.same (same_onStatusTimerFinish during)
  | check i file => exact h.same ⟨rfl, rfl, rfl, rfl⟩
  | checkPost i result check =>
    have herase : Once { s with checks := s.checks.eraseIdx i } := h.same ⟨rfl, rfl, rfl, rfl⟩
    exact herase.onCheckPostExecute check.during result

end Once

/-! Everything that is scheduled belongs to the last run. -/

/-- `k` is the last run started, and `RUN_NUMBER_CURRENT` is its number. -/
def Fragment.Last (s : Fragment) (k : ℕ) : Prop :=
  k = s.current ∧ s.numbers[k-1]? = some s.run_number_current

structure Own (s : Fragment) : Prop where
  tasks : ∀ task ∈ s.tasks, task.phase.before = true → s.Last task.run
  checks : ∀ check ∈ s.checks, check.during = s.current
  countDowns : ∀ timer ∈ s.countDowns, timer.run = s.current
  statusTimers : ∀ during ∈ s.statusTimers, during = s.current
  iperf3 : ∀ k, s.iperf3 = some k → s.Last k
  number : ∀ e ∈ s.ended, s.numbers[e.object-1]? = some e.number
  ended : ∀ e ∈ s.ended, e.during = e.object
  terminations : ∀ t ∈ s.terminations, t.during = t.run

theorem forall_mem_concat {α : Type} (p : α → Prop) (l : List α) (a : α) (h : ∀ x ∈ l, p x)
    (ha : p a) : ∀ x ∈ l ++ [a], p x := by
  intro x hx
  rcases List.mem_append.mp hx with hx | hx
  · exact h x hx
  · rw [List.mem_singleton.mp hx]
    exact ha

section Own

variable {s s' : Fragment}

theorem Own.unchecked (h : Own s) : Own { s with checked := false } := { h with }

theorem Own.terminate (h : Own s) (during : Option ℕ) (state : TerminationState)
    (hduring : during.getD s.current = s.current) : Own (terminateIperfSession during state s) := by
  have hchecks := forall_mem_concat _ s.checks { during := during.getD s.current } h.checks hduring
  cases during with
  | none => exact { h with checks := hchecks }
  | some d =>
    exact { h with
      checks := hchecks
      terminations := forall_mem_concat _ s.terminations _ h.terminations hduring }

theorem Own.switchedOff (h : Own s) (during : Option ℕ)
    (hduring : during.getD s.current = s.current) :
    Own (switchedOff during s) := by
  simp only [Iperf.switchedOff]
  split_ifs
  · exact h.unchecked.terminate during _ hduring
  · exact h.unchecked

theorem Own.uncheck (h : Own s) (during : ℕ) (hduring : during = s.current) :
    Own (uncheck during s) := by
  unfold Iperf.uncheck
  split_ifs
  · exact h.switchedOff (some during) hduring
  · exact h

theorem Own.cancelCountDown (h : Own s) : Own (cancelCountDown s) := by
  unfold Iperf.cancelCountDown
  cases s.iperfCountDownTimer with
  | none => exact h
  | some run => exact { h with
      countDowns := fun timer htimer => h.countDowns timer (List.mem_of_mem_filter htimer) }

/-- The object that is let go of is that of the last run, and so is the number. -/
theorem Own.letGo (h : Own s) (object : ℕ) (hobject : s.iperf3 = some object) (during : ℕ)
    (hduring : during = s.current) :
    Own { s with
      ended := s.ended ++ [{ object, number := s.run_number_current, during }]
      iperf3 := none } := by
  obtain ⟨hlast, hnumber⟩ := h.iperf3 object hobject
  exact { h with
    iperf3 := fun k hk => by cases hk
    number := forall_mem_concat _ s.ended _ h.number hnumber
    ended := forall_mem_concat _ s.ended _ h.ended (hduring.trans hlast.symm) }

theorem Own.endIperfSession (h : Own s) (during : ℕ) (hduring : during = s.current)
    (result : TestResult) : Own (endIperfSession during result s) := by
  unfold Iperf.endIperfSession
  cases hobject : s.iperf3 with
  | none => exact h
  | some object =>
    have hsame : SameObjects s (Iperf.cancelCountDown s) := same_cancelCountDown
    have hcurrent : (Iperf.cancelCountDown s).current = s.current :=
      congrArg List.length hsame.numbers
    have hgone := h.cancelCountDown.letGo object (hsame.iperf3.trans hobject) during
      (hduring.trans hcurrent.symm)
    exact { hgone.uncheck during (hduring.trans hcurrent.symm) with }

theorem Own.onCheckPostExecute (h : Own s) (during : ℕ) (hduring : during = s.current)
    (result : TestResult) : Own (onCheckPostExecute during result s) := by
  have hforce := h.terminate (some during) .terminatedForcefully hduring
  simp only [Iperf.onCheckPostExecute]
  split_ifs
  · exact hforce.endIperfSession during hduring result
  · exact hforce
  · exact h.endIperfSession during hduring result
  · exact h

/-- The one step that needs the earlier runs to be over. -/
theorem Own.onPreExecute (h : Own s) (iperf_duration : ℕ)
    (hleft : NothingLeft s (.toggleOn iperf_duration)) :
    Own (onPreExecute iperf_duration s) := by
  obtain ⟨hiperf3, htasks, hchecks, hcountDowns, hstatusTimers⟩ := hleft
  have hcurrent : (Iperf.onPreExecute iperf_duration s).current = s.current+1 := List.length_append
  refine ⟨?_, ?_, ?_, ?_, ?_, ?_, h.ended, h.terminations⟩
  · intro task htask hbefore
    rcases List.mem_append.mp htask with htask | hnew
    · rw [htasks task htask] at hbefore
      cases hbefore
    · rw [List.mem_singleton.mp hnew]
      exact ⟨hcurrent.symm, List.getElem?_concat_length⟩
  · intro check hcheck
    change check ∈ s.checks at hcheck
    rw [hchecks] at hcheck
    cases hcheck
  · intro timer htimer
    change timer ∈ s.countDowns ++ _ at htimer
    rw [hcountDowns] at htimer
    rw [List.mem_singleton.mp htimer, hcurrent]
  · intro during hduring
    change during ∈ s.statusTimers at hduring
    rw [hstatusTimers] at hduring
    cases hduring
  · intro k hk
    change s.iperf3 = some k at hk
    rw [hiperf3] at hk
    cases hk
  · intro e he
    have hnumber := h.number e he
    obtain ⟨hlt, -⟩ := List.getElem?_eq_some_iff.mp hnumber
    exact (List.getElem?_append_left hlt).trans hnumber

theorem Own.moved (h : Own s) (i : ℕ) (task : RunTask) (phase : Phase)
    (htask : s.tasks[i]? = some task) (hphase : phase.before = true → task.phase.before = true) :
    Own { s with tasks := s.tasks.set i { task with phase } } := by
  refine { h with tasks := fun t ht hbefore => ?_ }
  rcases List.mem_or_eq_of_mem_set ht with ht | rfl
  · exact h.tasks t ht hbefore
  · exact h.tasks task (List.mem_of_getElem? htask) (hphase hbefore)

theorem Own.doInBackground (h : Own s) (env : RunEnv) (i : ℕ) (task : RunTask)
    (htask : s.tasks[i]? = some task) (hstep : doInBackground env i task s = some s') : Own s' := by
  obtain ⟨phase, name, state, timeLeft, hphase, rfl⟩ | ⟨hphase, rfl⟩ :=
    background_cases env i task s s' hstep
  · exact { h.moved i task phase htask hphase with }
  · have hlast := h.tasks task (List.mem_of_getElem? htask) hphase
    have hmoved := h.moved i task .executing htask fun hbefore => absurd hbefore Bool.false_ne_true
    refine { hmoved with iperf3 := fun k hk => ?_ }
    cases hk
    exact hlast

theorem Own.onPostExecute (h : Own s) : Own (onPostExecute s) := by
  unfold Iperf.onPostExecute
  split_ifs
  · exact h.terminate none _ rfl
  · exact h

theorem Own.onTick (h : Own s) (timer : CountDown) (htimer : timer.run = s.current)
    (millisUntilFinished : ℕ) : Own (onTick timer millisUntilFinished s) := by
  simp only [Iperf.onTick]
  split_ifs
  · exact { h with checks := forall_mem_concat _ s.checks _ h.checks htimer }
  · exact { h with }

theorem Own.onFinish (h : Own s) (timer : CountDown) (htimer : timer.run = s.current) :
    Own (onFinish timer s) := by
  simp only [Iperf.onFinish]
  split_ifs
  · exact { h with statusTimers := forall_mem_concat _ s.statusTimers _ h.statusTimers htimer }
  · exact { h with }

theorem Own.onStatusTimerFinish (h : Own s) (during : ℕ) (hduring : during = s.current) :
    Own (onStatusTimerFinish during s) := by
  unfold Iperf.onStatusTimerFinish
  split_ifs
  · exact h.terminate (some during) _ hduring
  · exact h

theorem own_step (e : Event) (hok : NothingLeft s e) (hstep : step s e = some s') (h : Own s) :
    Own s' := by
  cases taken_of_step hstep with
  | toggleOn iperf_duration =>
    have hon : Own { s with checked := true } := { h with }
    exact hon.onPreExecute iperf_duration hok
  | toggleOff => exact h.switchedOff none rfl
  | background i env task _ htask hbody => exact h.doInBackground env i task htask hbody
  | runPost i =>
    have herase : Own { s with tasks := s.tasks.eraseIdx i } :=
      { h with tasks := fun t ht => h.tasks t (List.mem_of_mem_eraseIdx ht) }
    exact herase.onPostExecute
  | tick i millisUntilFinished timer htimer =>
    exact h.onTick timer (h.countDowns timer (List.mem_of_getElem? htimer)) millisUntilFinished
  | timerFinish i timer htimer =>
    have herase : Own { s with countDowns := s.countDowns.eraseIdx i } :=
      { h with countDowns := fun t ht => h.countDowns t (List.mem_of_mem_eraseIdx ht) }
    exact herase.onFinish timer (h.countDowns timer (List.mem_of_getElem? htimer))
  | statusTimerFinish i during hduring =>
    have herase : Own { s with statusTimers := s.statusTimers.eraseIdx i } :=
      { h with statusTimers := fun d hd => h.statusTimers d (List.mem_of_mem_eraseIdx hd) }
    exact herase.onStatusTimerFinish during (h.statusTimers during (List.mem_of_getElem? hduring))
  | check i file check hcheck =>
    refine { h with checks := fun c hc => ?_ }
    rcases List.mem_or_eq_of_mem_set hc with hc | rfl
    · exact h.checks c hc
    · exact h.checks check (List.mem_of_getElem? hcheck)
  | checkPost i result check hcheck =>
    have herase : Own { s with checks := s.checks.eraseIdx i } :=
      { h with checks := fun c hc => h.checks c (List.mem_of_mem_eraseIdx hc) }
    exact herase.onCheckPostExecute check.during (h.checks check (List.mem_of_getElem? hcheck))
      result

end Own

theorem once_start (n : ℤ) : Once { run_number_current := n } where
  nodup := List.nodup_nil
  live := fun _ _ h => by cases h
  runs := List.nodup_nil
  fresh := fun _ h => by cases h
  tasks_le := fun _ h => by cases h
  ended_le := fun _ h => by cases h
  iperf3_le := fun _ h => by cases h

theorem own_start (n : ℤ) : Own { run_number_current := n } where
  tasks := fun _ h => by cases h
  checks := fun _ h => by cases h
  countDowns := fun _ h => by cases h
  statusTimers := fun _ h => by cases h
  iperf3 := fun _ h => by cases h
  number := fun _ h => by cases h
  ended := fun _ h => by cases h
  terminations := fun _ h => by cases h

/-- In every run of the fragment, a session is ended at most once for each object. If every
run is switched on after the earlier ones have left nothing behind, then it is ended under
its own number, and the checks and timers stay in their own run. -/
theorem iperf_runs_apart (n : ℤ) (events : List Event) (s : Fragment)
    (hrun : runEvents step { run_number_current := n } events = some s) :
    (s.ended.map Ended.object).Nodup ∧ (Along step NothingLeft { run_number_current := n } events →
      RunsApart s) := by
  have honce : Once s :=
    runEvents_preserves step Once (fun _ e _ hstep h => once_step e hstep h) events _ s hrun
      (once_start n)
  refine ⟨honce.nodup, fun halong => ?_⟩
  have hown : Own s :=
    runEvents_invariant step _ Own (fun _ e _ hok hstep h => own_step e hok hstep h)
      events _ s halong hrun (own_start n)
  exact ⟨honce.nodup, hown.number, hown.ended, hown.terminations⟩

/-- The body of the `i`-th task up to `runClient`. -/
def started (i : ℕ) : List Event := [.background i {}, .background i {}, .background i {}]

/-- The first run comes to its end, and the user stops the second. -/
def twoRuns : List Event :=
  .toggleOn 10 :: started 0 ++ [.background 0 {}, .runPost 0, .check 0 (some 1), .checkPost 0 {}] ++
    (.toggleOn 10 :: started 0 ++ [.toggleOff, .check 0 (some 1), .checkPost 0 {}])

theorem iperf_runs_apart_two_runs :
    ∃ s, runEvents step { run_number_current := 0 } twoRuns = some s ∧
      s.ended = [⟨1, 1, 1⟩, ⟨2, 2, 2⟩] ∧ RunsApart s := by
  have hended : (runEvents step { run_number_current := 0 } twoRuns).map Fragment.ended =
      some [⟨1, 1, 1⟩, ⟨2, 2, 2⟩] := by
    decide +kernel
  obtain ⟨s, hrun, hs⟩ := Option.map_eq_some_iff.mp hended
  have halong : Along step NothingLeft { run_number_current := 0 } twoRuns := by decide +kernel
  exact ⟨s, hrun, hs, (iperf_runs_apart 0 twoRuns s hrun).2 halong⟩

/-- The user stops the first run and starts the second while the check is on its way. -/
def restarted : List Event :=
  .toggleOn 10 :: started 0 ++ [.toggleOff, .check 0 (some 1), .toggleOn 10, .checkPost 0 {}]

/-- The check ends the first run under the number of the second, and switches the second off. -/
theorem late_check_ends_next_run :
    ∃ s, runEvents step { run_number_current := 0 } restarted = some s ∧ s.numbers = [1, 2] ∧
      s.ended = [⟨1, 2, 1⟩] ∧ s.terminations = [⟨2, 1⟩] ∧ ¬RunsApart s := by
  have hresult : (runEvents step { run_number_current := 0 } restarted).map
      (fun s => (s.numbers, s.ended, s.terminations)) = some ([1, 2], [⟨1, 2, 1⟩], [⟨2, 1⟩]) := by
    decide +kernel
  obtain ⟨s, hrun, hs⟩ := Option.map_eq_some_iff.mp hresult
  obtain ⟨hnumbers, hs⟩ := Prod.mk.inj hs
  obtain ⟨hended, hterminations⟩ := Prod.mk.inj hs
  refine ⟨s, hrun, hnumbers, hended, hterminations, fun h => ?_⟩
  have hnumber := h.number ⟨1, 2, 1⟩ (by rw [hended]; exact List.mem_singleton_self _)
  rw [hnumbers] at hnumber
  exact absurd hnumber (by decide)

end MmWaveTracker.Iperf
