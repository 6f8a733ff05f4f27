import MmWaveTracker.IperfEnds

/-! The stop of an iperf run by its user: what becomes of it when the body of a `RunIperf`
has yet to assign `IPERF_RUNNING`. -/
namespace MmWaveTracker.Iperf

/-- The body has assigned `IPERF_RUNNING`, or is over. -/
def Phase.passed : Phase → Bool
  | .scheduled | .named => false
  | .marked | .executing | .finished => true

/-- The toggle is off, and the client of the last run goes on as if it were not. -/
def StopLost (s : Fragment) : Prop :=
  s.checked = false ∧ s.iperf_termination_state = .running ∧
    ∃ task ∈ s.tasks, task.run = s.current ∧ task.phase = .executing

/-- The last run is over. -/
def RunOver (s : Fragment) : Prop := ∀ task ∈ s.tasks, task.run = s.current → task.phase = .finished

def AllPassed (s : Fragment) : Prop := ∀ task ∈ s.tasks, task.phase.passed = true

/-- A check that is posted now ends the session. -/
def EndsSession (s : Fragment) : Prop :=
  s.iperf_termination_state = .running → s.iperf_file_status = .doesNotExist ∨
    s.iperf_file_status = .stoppedUpdating

/-- Where the step switches the toggle off, the last run is over, or no body has yet to
assign `IPERF_RUNNING`. -/
def OffInTime (s : Fragment) : Event → Prop
  | .toggleOff => RunOver s ∨ AllPassed s
  | .checkPost _ _ => s.checked = true → s.iperf3 ≠ none → EndsSession s → RunOver s ∨ AllPassed s
  | _ => True

/-- The invariant: while the toggle is off, nothing can take the request back. -/
def StopKept (s : Fragment) : Prop :=
  s.checked = false → RunOver s ∨ (AllPassed s ∧ s.iperf_termination_state ≠ .running)

/-! What the callbacks do: they start no body, and none of them assigns `IPERF_RUNNING`. -/

structure Settles (s s' : Fragment) : Prop where
  tasks : ∀ task ∈ s'.tasks, task ∈ s.tasks
  numbers : s'.numbers = s.numbers
  running : s'.iperf_termination_state = .running → s.iperf_termination_state = .running

section Settles

variable {s s' s'' : Fragment}

theorem Settles.refl : Settles s s := ⟨fun _ h => h, rfl, id⟩

theorem Settles.trans (h : Settles s s') (h' : Settles s' s'') : Settles s s'' :=
  ⟨fun task ht => h.tasks task (h'.tasks task ht), h'.numbers.trans h.numbers, fun hr =>
    h.running (h'.running hr)⟩

theorem Settles.runOver (h : Settles s s') (hs : RunOver s) : RunOver s' := by
  intro task htask hcurrent
  have hsame : s'.current = s.current := congrArg List.length h.numbers
  exact hs task (h.tasks task htask) (hcurrent.trans hsame)

theorem Settles.kept (h : Settles s s')
    (hs : RunOver s ∨ (AllPassed s ∧ s.iperf_termination_state ≠ .running)) :
    RunOver s' ∨ (AllPassed s' ∧ s'.iperf_termination_state ≠ .running) := by
  rcases hs with hover | ⟨hpassed, hstate⟩
  · exact .inl (h.runOver hover)
  · exact .inr ⟨fun task ht => hpassed task (h.tasks task ht), fun hr => hstate (h.running hr)⟩

/-- The toggle was switched off in time. -/
theorem Settles.off (h : Settles s s') (hs : RunOver s ∨ AllPassed s)
    (hstate : s'.iperf_termination_state ≠ .running) :
    RunOver s' ∨ (AllPassed s' ∧ s'.iperf_termination_state ≠ .running) := by
  rcases hs with hover | hpassed
  · exact .inl (h.runOver hover)
  · exact .inr ⟨fun task ht => hpassed task (h.tasks task ht), hstate⟩

theorem settles_terminate (during : Option ℕ) (state : TerminationState)
    (hstate : state ≠ .running) :
    Settles s (terminateIperfSession during state s) :=
      ⟨fun _ h => h, rfl, fun hr => absurd hr hstate⟩

/-- Whatever the state was, the toggle leaves none that says `IPERF_RUNNING`. -/
theorem switchedOff_state (during : Option ℕ) :
    (switchedOff during s).iperf_termination_state ≠ .running := by
  unfold switchedOff
  dsimp only
  split_ifs with hstate
  · exact fun h => by cases h
  · intro hrunning
    apply hstate
    rw [hrunning]
    constructor
    · exact fun h => by cases h
    · exact fun h => by cases h

theorem settles_switchedOff (during : Option ℕ) : Settles s (switchedOff during s) := by
  have hsame : SameObjects s (switchedOff during s) := same_switchedOff during
  exact ⟨fun task ht => hsame.tasks ▸ ht, hsame.numbers, fun hr =>
    absurd hr (switchedOff_state during)⟩

theorem settles_uncheck (during : ℕ) : Settles s (uncheck during s) := by
  unfold uncheck
  split_ifs
  · exact settles_switchedOff (some during)
  · exact .refl

theorem settles_cancelCountDown : Settles s (cancelCountDown s) := by
  unfold cancelCountDown
  cases s.iperfCountDownTimer with
  | none => exact .refl
  | some run => exact ⟨fun _ h => h, rfl, id⟩

theorem settles_endIperfSession (during : ℕ) (result : TestResult) :
    Settles s (endIperfSession during result s) := by
  unfold endIperfSession
  cases s.iperf3 with
  | none => exact .refl
  | some object =>
    have hgone : Settles (cancelCountDown s) { cancelCountDown s with
        ended := (cancelCountDown s).ended ++
          [{ object, number := (cancelCountDown s).run_number_current, during }]
        iperf3 := none } := ⟨fun _ h => h, rfl, id⟩
    have huncheck := (settles_cancelCountDown.trans hgone).trans (settles_uncheck during)
    exact ⟨huncheck.tasks, huncheck.numbers, huncheck.running⟩

theorem settles_onCheckPostExecute (during : ℕ) (result : TestResult) :
    Settles s (onCheckPostExecute during result s) := by
  have hforce : Settles s (terminateIperfSession (some during) .terminatedForcefully s) :=
    settles_terminate (some during) _ (by decide)
  simp only [onCheckPostExecute]
  split_ifs
  · exact hforce.trans (settles_endIperfSession during result)
  · exact hforce
  · exact settles_endIperfSession during result
  · exact .refl

theorem settles_onPostExecute : Settles s (onPostExecute s) := by
  unfold onPostExecute
  split_ifs
  · exact settles_terminate none _ (by decide)
  · exact .refl

theorem settles_onStatusTimerFinish (during : ℕ) : Settles s (onStatusTimerFinish during s) := by
  unfold onStatusTimerFinish
  split_ifs
  · exact settles_terminate (some during) _ (by decide)
  · exact .refl

end Settles

/-! The steps. -/

section Steps

variable {s s' : Fragment}

theorem forcefully_ne_running : TerminationState.terminatedForcefully ≠ .running :=
  fun h => by cases h

theorem StopKept.settles (h : StopKept s) (hs : Settles s s') (hchecked : s'.checked = s.checked) :
    StopKept s' :=
  fun hoff => hs.kept (h (hchecked.symm.trans hoff))

theorem checked_endIperfSession (during : ℕ) (result : TestResult) :
    (endIperfSession during result s).checked = (s.checked && s.iperf3.isNone) := by
  unfold endIperfSession
  cases s.iperf3 with
  | none => rw [Option.isNone_none, Bool.and_true]
  | some object =>
    rw [Option.isNone_some, Bool.and_false]
    unfold uncheck
    dsimp only
    split_ifs with hchecked
    · unfold switchedOff
      dsimp only
      split_ifs
      · rfl
      · rfl
    · exact Bool.eq_false_iff.mpr hchecked

/-- When a posted check switches the toggle off. -/
theorem checked_onCheckPostExecute (during : ℕ) (result : TestResult) (hon : s.checked = true) :
    (onCheckPostExecute during result s).checked = false ↔ s.iperf3 ≠ none ∧ EndsSession s := by
  have hnone : (s.checked && s.iperf3.isNone) = false ↔ s.iperf3 ≠ none := by
    rw [hon, Bool.true_and, Option.isNone_eq_false_iff, Option.isSome_iff_ne_none]
  simp only [onCheckPostExecute, EndsSession]
  split_ifs with hforce hstate hstate
  · rw [checked_endIperfSession]
    exact hnone.trans (and_iff_left fun _ => hforce.1).symm
  · exact absurd forcefully_ne_running hstate
  · rw [checked_endIperfSession]
    exact hnone.trans (and_iff_left fun hrunning => absurd hrunning hstate).symm
  · rw [not_not] at hstate
    refine iff_of_false (fun hoff => ?_) fun hends => hforce ⟨hends.2 hstate, hstate⟩
    rw [hon] at hoff
    cases hoff

theorem state_onCheckPostExecute (during : ℕ) (result : TestResult) (hends : EndsSession s) :
    (onCheckPostExecute during result s).iperf_termination_state ≠ .running := by
  simp only [onCheckPostExecute]
  split_ifs with hforce hstate hstate
  · exact fun hr => hstate ((settles_endIperfSession during result).running hr)
  · exact absurd forcefully_ne_running hstate
  · exact fun hr => hstate ((settles_endIperfSession during result).running hr)
  · rw [not_not] at hstate
    exact absurd ⟨hends hstate, hstate⟩ hforce

/-- A body that goes on: one that has passed the assignment of `IPERF_RUNNING` does not
come back to it. -/
theorem StopKept.moved (h : StopKept s) (i : ℕ) (task : RunTask) (phase : Phase)
    (htask : s.tasks[i]? = some task)
    (hfinished : task.phase ≠ .finished)
    (hpassed : task.phase.passed = true →
      phase.passed = true ∧ s'.iperf_termination_state = s.iperf_termination_state)
    (htasks : s'.tasks = s.tasks.set i { task with phase }) (hnumbers : s'.numbers = s.numbers)
    (hchecked : s'.checked = s.checked) : StopKept s' := by
  have hmem := List.mem_of_getElem? htask
  intro hoff
  rcases h (hchecked.symm.trans hoff) with hover | ⟨hall, hstate⟩
  · refine .inl fun t ht hcurrent => ?_
    have hsame : s'.current = s.current := congrArg List.length hnumbers
    rw [hsame] at hcurrent
    rw [htasks] at ht
    rcases List.mem_or_eq_of_mem_set ht with ht | rfl
    · exact hover t ht hcurrent
    · exact absurd (hover task hmem hcurrent) hfinished
  · obtain ⟨hphase, hkeep⟩ := hpassed (hall task hmem)
    refine .inr ⟨fun t ht => ?_, fun hr => hstate (hkeep.symm.trans hr)⟩
    rw [htasks] at ht
    rcases List.mem_or_eq_of_mem_set ht with ht | rfl
    · exact hall t ht
    · exact hphase

theorem StopKept.doInBackground (h : StopKept s) (env : RunEnv) (i : ℕ) (task : RunTask)
    (htask : s.tasks[i]? = some task)
    (hstep : doInBackground env i task s = some s') : StopKept s' := by
  have hfinished : task.phase ≠ .finished := by
    intro hphase
    simp only [Iperf.doInBackground, hphase] at hstep
    cases hstep
  cases hphase : task.phase with
  | scheduled =>
    have hnot : task.phase.passed ≠ true := by simp [hphase, Phase.passed]
    simp only [Iperf.doInBackground, hphase] at hstep
    split_ifs at hstep
    · cases hstep
      exact h.moved i task .named htask hfinished (fun hp => absurd hp hnot) rfl rfl rfl
    · cases hstep
      exact h.moved i task .finished htask hfinished (fun hp => absurd hp hnot) rfl rfl rfl
  | named =>
    have hnot : task.phase.passed ≠ true := by simp [hphase, Phase.passed]
    simp only [Iperf.doInBackground, hphase] at hstep
    cases hstep
    exact h.moved i task .marked htask hfinished (fun hp => absurd hp hnot) rfl rfl rfl
  | marked =>
    simp only [Iperf.doInBackground, hphase] at hstep
    cases hstep
    exact h.moved i task .executing htask hfinished (fun _ => ⟨rfl, rfl⟩) rfl rfl rfl
  | executing =>
    simp only [Iperf.doInBackground, hphase] at hstep
    split_ifs at hstep
    · cases hstep
      exact h.moved i task .finished htask hfinished (fun _ => ⟨rfl, rfl⟩) rfl rfl rfl
    · cases hstep
      exact h.moved i task .finished htask hfinished (fun _ => ⟨rfl, rfl⟩) rfl rfl rfl
  | finished => exact absurd hphase hfinished

theorem stopKept_step (e : Event) (hok : OffInTime s e) (hstep : step s e = some s')
    (h : StopKept s) : StopKept s' := by
  cases taken_of_step hstep with
  | toggleOn iperf_duration => exact fun hoff => by cases hoff
  | toggleOff =>
    have hsettles : Settles s (switchedOff none s) := settles_switchedOff none
    exact fun _ => hsettles.off hok (switchedOff_state none)
  | background i env task _ htask hbody => exact h.doInBackground env i task htask hbody
  | runPost i =>
    have herase : Settles s { s with tasks := s.tasks.eraseIdx i } :=
      ⟨fun _ => List.mem_of_mem_eraseIdx, rfl, id⟩
    refine h.settles (herase.trans settles_onPostExecute) ?_
    unfold onPostExecute
    split_ifs
    · rfl
    · rfl
  | tick i millisUntilFinished timer =>
    simp only [onTick]
    split_ifs
    · exact h.settles ⟨fun _ h => h, rfl, id⟩ rfl
    · exact h.settles ⟨fun _ h => h, rfl, id⟩ rfl
  | timerFinish i timer =>
    simp only [onFinish]
    split_ifs
    · exact h.settles ⟨fun _ h => h, rfl, id⟩ rfl
    · exact h.settles ⟨fun _ h => h, rfl, id⟩ rfl
  | statusTimerFinish i during =>
    have herase : Settles s { s with statusTimers := s.statusTimers.eraseIdx i } :=
      ⟨fun _ h => h, rfl, id⟩
    refine h.settles (herase.trans (settles_onStatusTimerFinish during)) ?_
    unfold onStatusTimerFinish
    split_ifs
    · rfl
    · rfl
  | check i file => exact h.settles ⟨fun _ h => h, rfl, id⟩ rfl
  | checkPost i result check =>
    have herase : Settles s { s with checks := s.checks.eraseIdx i } := ⟨fun _ h => h, rfl, id⟩
    have hsettles := herase.trans (settles_onCheckPostExecute check.during result)
    intro hoff
    by_cases hon : s.checked = true
    · obtain ⟨hiperf3, hends⟩ :=
        (checked_onCheckPostExecute (s := { s with checks := s.checks.eraseIdx i }) check.during
        result hon).mp hoff
      exact hsettles.off (hok hon hiperf3 hends)
        (state_onCheckPostExecute check.during result hends)
    · exact hsettles.kept (h (Bool.eq_false_iff.mpr hon))

theorem StopKept.not_lost (h : StopKept s) : ¬StopLost s := by
  rintro ⟨hoff, hrunning, task, htask, hcurrent, hphase⟩
  rcases h hoff with hover | ⟨-, hstate⟩
  · have hfinished := hover task htask hcurrent
    rw [hphase] at hfinished
    cases hfinished
  · exact hstate hrunning

end Steps

/-! The other runs: from where the condition fails, background steps alone lose the stop. -/

section Loss

variable {s : Fragment}

/-- The state after background steps of the body at `i`, which end in `phase`. -/
structure Advanced (s : Fragment) (i : ℕ) (task : RunTask) (phase : Phase) (t : Fragment) :
    Prop where
  tasks : t.tasks = s.tasks.set i { task with phase }
  checked : t.checked = s.checked
  numbers : t.numbers = s.numbers

theorem Advanced.getElem {i : ℕ} {task : RunTask} {phase : Phase} {t : Fragment}
    (h : Advanced s i task phase t)
    (htask : s.tasks[i]? = some task) : t.tasks[i]? = some { task with phase } := by
  obtain ⟨hlt, -⟩ := List.getElem?_eq_some_iff.mp htask
  rw [h.tasks, List.getElem?_set_self hlt]

/-- A body that has not assigned `IPERF_RUNNING` yet can go on to do so. -/
theorem exists_marked (i : ℕ) (task : RunTask) (htask : s.tasks[i]? = some task)
    (hphase : task.phase.passed = false) :
    ∃ later t, runEvents step s later = some t ∧ Advanced s i task .marked t ∧
      t.iperf_termination_state = .running := by
  have hnamed (s : Fragment) (task : RunTask) (htask : s.tasks[i]? = some task)
      (hphase : task.phase = .named) :
      ∃ later t, runEvents step s later = some t ∧ Advanced s i task .marked t ∧
        t.iperf_termination_state = .running := by
    refine ⟨[.background i {}],
      { s with
        tasks := s.tasks.set i { task with phase := .marked },
        iperf_termination_state := .running }, ?_,
      ⟨rfl, rfl, rfl⟩, rfl⟩
    simp [runEvents, step, htask, doInBackground, hphase]
  cases hcase : task.phase with
  | scheduled =>
    let s₁ : Fragment := { s with
      tasks := s.tasks.set i { task with phase := .named }
      iperf_file_name := some (constructIperfFileName {} s.run_number_current true) }
    have hfirst : step s (.background i {}) = some s₁ := by
      simp [step, htask, doInBackground, hcase, s₁]
    have htask₁ : s₁.tasks[i]? = some { task with phase := .named } :=
      Advanced.getElem ⟨rfl, rfl, rfl⟩ htask
    obtain ⟨later, t, hrun, hadvanced, hstate⟩ := hnamed s₁ { task with phase := .named } htask₁ rfl
    refine ⟨.background i {} :: later, t, ?_, ⟨?_, hadvanced.checked, hadvanced.numbers⟩, hstate⟩
    · rw [runEvents, hfirst]
      exact hrun
    · rw [hadvanced.tasks]
      exact List.set_set _
  | named => exact hnamed s task htask hcase
  | marked =>
    rw [hcase] at hphase
    cases hphase
  | executing =>
    rw [hcase] at hphase
    cases hphase
  | finished =>
    rw [hcase] at hphase
    cases hphase

/-- A body that has just assigned it can go on to `runClient`. -/
theorem exists_executing (i : ℕ) (task : RunTask) (htask : s.tasks[i]? = some task)
    (hphase : task.phase = .marked) :
    ∃ t, runEvents step s [.background i {}] = some t ∧ Advanced s i task .executing t ∧
      t.iperf_termination_state = s.iperf_termination_state := by
  refine ⟨{ s with
    tasks := s.tasks.set i { task with phase := .executing }, iperf3 := some task.run }, ?_,
    ⟨rfl, rfl, rfl⟩, rfl⟩
  simp [runEvents, step, htask, doInBackground, hphase]

theorem exists_stopLost_own (i : ℕ) (task : RunTask) (hi : s.tasks[i]? = some task)
    (hphase : task.phase.passed = false)
    (hcurrent : task.run = s.current) (hoff : s.checked = false) :
    ∃ later t, runEvents step s later = some t ∧ StopLost t := by
  obtain ⟨later, t, hrun, ht, hstate⟩ := exists_marked i task hi hphase
  obtain ⟨u, hrun', hu, hstate'⟩ := exists_executing i _ (ht.getElem hi) rfl
  have htask := List.mem_of_getElem? (hu.getElem (ht.getElem hi))
  have hlast : task.run = u.current :=
    hcurrent.trans (congrArg List.length (hu.numbers.trans ht.numbers)).symm
  refine ⟨later ++ [.background i {}], u, (runEvents_append step s t later _ hrun).trans hrun', ?_⟩
  exact ⟨hu.checked.trans (ht.checked.trans hoff), hstate'.trans hstate, _, htask, hlast, rfl⟩

/-- While the client of the last run executes, another body assigns `IPERF_RUNNING`. -/
theorem exists_stopLost_other (i j : ℕ) (task other : RunTask) (hi : s.tasks[i]? = some task)
    (hexecuting : task.phase = .executing) (hcurrent : task.run = s.current)
    (hj : s.tasks[j]? = some other)
    (hother : other.phase.passed = false) (hoff : s.checked = false) :
    ∃ later t, runEvents step s later = some t ∧ StopLost t := by
  have hne : j ≠ i := by
    rintro rfl
    obtain rfl := Option.some.inj (hi.symm.trans hj)
    rw [hexecuting] at hother
    cases hother
  obtain ⟨later, t, hrun, ht, hstate⟩ := exists_marked j other hj hother
  have htask : t.tasks[i]? = some task := by
    rw [ht.tasks, List.getElem?_set_ne hne]
    exact hi
  have hlast : task.run = t.current := hcurrent.trans (congrArg List.length ht.numbers).symm
  exact ⟨later, t, hrun, ht.checked.trans hoff, hstate, task, List.mem_of_getElem? htask, hlast,
    hexecuting⟩

theorem exists_stopLost (hoff : s.checked = false) (hover : ¬RunOver s) (hpassed : ¬AllPassed s) :
    ∃ later t, runEvents step s later = some t ∧ StopLost t := by
  simp only [RunOver, AllPassed, not_forall, Bool.not_eq_true] at hover hpassed
  obtain ⟨task, hmem, hcurrent, hfinished⟩ := hover
  obtain ⟨other, hother, hnot⟩ := hpassed
  obtain ⟨i, hi⟩ := List.getElem?_of_mem hmem
  obtain ⟨j, hj⟩ := List.getElem?_of_mem hother
  cases hphase : task.phase with
  | finished => exact absurd hphase hfinished
  | executing => exact exists_stopLost_other i j task other hi hphase hcurrent hj hnot hoff
  | marked =>
    obtain ⟨t, hrun, ht, -⟩ := exists_executing i task hi hphase
    have hne : i ≠ j := by
      rintro rfl
      obtain rfl := Option.some.inj (hi.symm.trans hj)
      rw [hphase] at hnot
      cases hnot
    have hj' : t.tasks[j]? = some other := by
      rw [ht.tasks, List.getElem?_set_ne hne]
      exact hj
    obtain ⟨later, u, hrun', hlost⟩ := exists_stopLost_other i j _ other (ht.getElem hi) rfl
      (hcurrent.trans (congrArg List.length ht.numbers).symm) hj' hnot (ht.checked.trans hoff)
    exact ⟨[.background i {}] ++ later, u, (runEvents_append step s t _ later hrun).trans hrun',
      hlost⟩
  | scheduled => exact exists_stopLost_own i task hi (by rw [hphase]; rfl) hcurrent hoff
  | named => exact exists_stopLost_own i task hi (by rw [hphase]; rfl) hcurrent hoff

/-- After a step that breaks the condition, the toggle is off and the bodies are as before. -/
theorem off_of_not_inTime (e : Event) (s' : Fragment) (hno : ¬OffInTime s e)
    (hstep : step s e = some s') :
    s'.checked = false ∧ ¬RunOver s' ∧ ¬AllPassed s' := by
  have hback (htasks : s'.tasks = s.tasks ∧ s'.numbers = s.numbers) (hoff : s'.checked = false)
      (hnot : ¬(RunOver s ∨ AllPassed s)) : s'.checked = false ∧ ¬RunOver s' ∧ ¬AllPassed s' := by
    obtain ⟨hover, hpassed⟩ := not_or.mp hnot
    rw [RunOver, AllPassed, Fragment.current, htasks.1, htasks.2]
    exact ⟨hoff, hover, hpassed⟩
  cases taken_of_step hstep with
  | toggleOff =>
    refine hback ⟨(same_switchedOff none).tasks, (same_switchedOff none).numbers⟩ ?_ hno
    unfold switchedOff
    dsimp only
    split_ifs
    · rfl
    · rfl
  | checkPost i result check =>
    simp only [OffInTime, Classical.not_imp] at hno
    obtain ⟨hon, hiperf3, hends, hnot⟩ := hno
    have hclose := closes_onCheckPostExecute (s := { s with checks := s.checks.eraseIdx i })
      check.during result
    exact hback ⟨hclose.tasks, hclose.numbers⟩
      ((checked_onCheckPostExecute (s := { s with checks := s.checks.eraseIdx i }) check.during
        result hon).mpr ⟨hiperf3, hends⟩)
      hnot
  | _ => exact absurd trivial hno

end Loss

/-- If the toggle is only switched off when the last run is over or every body has assigned
`IPERF_RUNNING`, then no stop is lost; and any other step can be followed by the loss of one. -/
theorem iperf_stop_kept (n : ℤ) :
    (∀ events s, runEvents step { run_number_current := n } events = some s →
      Along step OffInTime { run_number_current := n } events → ¬StopLost s) ∧
    ∀ s e s', ¬OffInTime s e → step s e = some s' → ∃ later t, runEvents step s' later = some t ∧
      StopLost t := by
  constructor
  · intro events s hrun halong
    have hkept : StopKept s := runEvents_invariant step OffInTime StopKept
      (fun _ e _ hok hstep h => stopKept_step e hok hstep h) events _ s halong hrun (fun _ =>
        .inl fun _ h => by cases h)
    exact hkept.not_lost
  · intro s e s' hno hstep
    obtain ⟨hoff, hover, hpassed⟩ := off_of_not_inTime e s' hno hstep
    exact exists_stopLost hoff hover hpassed

instance (s : Fragment) : ∀ e, Decidable (OffInTime s e)
  | .toggleOff => inferInstanceAs
      (Decidable ((∀ task ∈ s.tasks, task.run = s.current → task.phase = .finished) ∨
      ∀ task ∈ s.tasks, task.phase.passed = true))
  | .checkPost _ _ =>
      inferInstanceAs (Decidable (_ = true → _ ≠ _ → (_ = TerminationState.running → _ ∨ _) →
      (∀ task ∈ s.tasks, task.run = s.current → task.phase = .finished) ∨
        ∀ task ∈ s.tasks, task.phase.passed = true))
  | .toggleOn _ | .background _ _ | .runPost _ | .tick _ _ | .timerFinish _ | .statusTimerFinish
      _ | .check _ _ =>
    .isTrue trivial

/-- The user stops a run that executes. -/
theorem iperf_stop_kept_one_run :
    ∃ s, runEvents step { run_number_current := 0 } (.toggleOn 10 :: started 0 ++ [.toggleOff]) =
      some s ∧
      s.iperf_termination_state = .terminatedByUser ∧ ¬StopLost s := by
  have hstate : (runEvents step { run_number_current := 0 } (.toggleOn 10 :: started 0 ++
      [.toggleOff])).map
      Fragment.iperf_termination_state = some .terminatedByUser := by decide +kernel
  obtain ⟨s, hrun, hs⟩ := Option.map_eq_some_iff.mp hstate
  exact ⟨s, hrun, hs, (iperf_stop_kept 0).1 _ s hrun (by decide +kernel)⟩

/-- The user stops a run before its body has begun, and the check finds `IPERF_RUNNING`. -/
def earlyStop : List Event :=
  [.toggleOn 10, .toggleOff] ++ started 0 ++ [.check 0 (some 1), .checkPost 0 {}]

/-- No check, status timer or forced termination is left that would end the run now; only its
count-down still runs. -/
theorem early_stop_lost : ∃ s, runEvents step { run_number_current := 0 } earlyStop = some s ∧
    StopLost s ∧
    s.checks = [] ∧ s.statusTimers = [] ∧ s.terminations = [] ∧ s.ended = [] := by
  have hresult : (runEvents step { run_number_current := 0 } earlyStop).map
      (fun s => (s.checked, s.iperf_termination_state, s.tasks, s.numbers)) =
      some (false, .running, [⟨1, .executing⟩], [1]) := by decide +kernel
  have hnothing : (runEvents step { run_number_current := 0 } earlyStop).map
      (fun s => (s.checks, s.statusTimers, s.terminations, s.ended)) = some ([], [], [], []) := by
        decide +kernel
  obtain ⟨s, hrun, hs⟩ := Option.map_eq_some_iff.mp hresult
  rw [hrun] at hnothing
  simp only [Option.map_some, Option.some.injEq, Prod.mk.injEq] at hs hnothing
  obtain ⟨hoff, hstate, htasks, hnumbers⟩ := hs
  refine ⟨s, hrun, ⟨hoff, hstate, ⟨1, .executing⟩, ?_, ?_, rfl⟩, hnothing⟩
  · rw [htasks]
    exact List.mem_singleton_self _
  · rw [Fragment.current, hnumbers]
    rfl

end MmWaveTracker.Iperf
