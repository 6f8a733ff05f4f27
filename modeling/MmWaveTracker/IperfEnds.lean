import MmWaveTracker.IperfRuns

/-! What the callbacks of the iperf fragment do to the runs, apart from those of their tasks:
at most the object that there is goes, and its dialog is opened. -/
namespace MmWaveTracker.Iperf

section Fragment

variable {s s' : Fragment}

/-- Neither a run is started nor one of their tasks goes on. -/
structure Idle (s s' : Fragment) : Prop where
  tasks : s'.tasks = s.tasks
  numbers : s'.numbers = s.numbers
  number : s'.run_number_current = s.run_number_current

theorem Idle.refl : Idle s s := ⟨rfl, rfl, rfl⟩

theorem Idle.trans {s'' : Fragment} (h : Idle s s') (h' : Idle s' s'') : Idle s s'' :=
  ⟨h'.tasks.trans h.tasks, h'.numbers.trans h.numbers, h'.number.trans h.number⟩

theorem idle_switchedOff (during : Option ℕ) : Idle s (switchedOff during s) := by
  unfold switchedOff
  dsimp only
  split_ifs
  · exact ⟨rfl, rfl, rfl⟩
  · exact ⟨rfl, rfl, rfl⟩

theorem idle_uncheck (during : ℕ) : Idle s (uncheck during s) := by
  unfold uncheck
  split_ifs
  · exact idle_switchedOff (some during)
  · exact .refl

theorem idle_cancelCountDown : Idle s (cancelCountDown s) := by
  unfold cancelCountDown
  split
  · exact ⟨rfl, rfl, rfl⟩
  · exact .refl

/-- The objects are left alone, or the one that there is goes, and its dialog is opened. -/
structure Closes (s s' : Fragment) : Prop extends Idle s s' where
  objects : (s'.iperf3 = s.iperf3 ∧ s'.ended = s.ended) ∨
    ∃ e, s.iperf3 = some e.object ∧ s'.iperf3 = none ∧ s'.ended = s.ended ++ [e]

theorem closes_of_same (hs : SameObjects s s')
    (hnumber : s'.run_number_current = s.run_number_current) : Closes s s' where
  tasks := hs.tasks
  numbers := hs.numbers
  number := hnumber
  objects := .inl ⟨hs.iperf3, hs.ended⟩

theorem closes_endIperfSession (during : ℕ) (result : TestResult) :
    Closes s (endIperfSession during result s) := by
  unfold endIperfSession
  cases hiperf3 : s.iperf3 with
  | none => exact closes_of_same ⟨rfl, rfl, rfl, rfl⟩ rfl
  | some object =>
    let e : Ended := { object, number := (cancelCountDown s).run_number_current, during }
    let s₁ : Fragment :=
      { cancelCountDown s with ended := (cancelCountDown s).ended ++ [e], iperf3 := none }
    have hcancel : SameObjects s (cancelCountDown s) := same_cancelCountDown
    have huncheck : SameObjects s₁ (uncheck during s₁) := same_uncheck during
    have hgone : Idle (cancelCountDown s) s₁ := ⟨rfl, rfl, rfl⟩
    have hidle : Idle s (uncheck during s₁) :=
      (idle_cancelCountDown.trans hgone).trans (idle_uncheck during)
    refine ⟨⟨hidle.tasks, hidle.numbers, hidle.number⟩, .inr ⟨e, hiperf3, huncheck.iperf3, ?_⟩⟩
    have hended : s₁.ended = s.ended ++ [e] := congrArg (· ++ [e]) hcancel.ended
    exact huncheck.ended.trans hended

theorem closes_onCheckPostExecute (during : ℕ) (result : TestResult) :
    Closes s (onCheckPostExecute during result s) := by
  unfold onCheckPostExecute
  dsimp only
  split_ifs
  · have hclose := closes_endIperfSession
      (s := terminateIperfSession (some during) .terminatedForcefully s) during result
    exact ⟨⟨hclose.tasks, hclose.numbers, hclose.number⟩, hclose.objects⟩
  · exact closes_of_same ⟨rfl, rfl, rfl, rfl⟩ rfl
  · exact closes_endIperfSession during result
  · exact closes_of_same ⟨rfl, rfl, rfl, rfl⟩ rfl

theorem number_onPostExecute : (onPostExecute s).run_number_current = s.run_number_current := by
  unfold onPostExecute
  split_ifs
  · rfl
  · rfl

/-- The events that leave the tasks alone. -/
def Event.IsIdle : Event → Prop
  | .toggleOn _ | .background _ _ | .runPost _ => False
  | _ => True

theorem closes_step (e : Event) (hidle : e.IsIdle) (hstep : step s e = some s') : Closes s s' := by
  cases taken_of_step hstep with
  | toggleOn iperf_duration => exact hidle.elim
  | background i env => exact hidle.elim
  | runPost i => exact hidle.elim
  | toggleOff => exact closes_of_same (same_switchedOff none) (idle_switchedOff none).number
  | tick i millisUntilFinished timer =>
    refine closes_of_same (same_onTick timer millisUntilFinished) ?_
    unfold onTick
    dsimp only
    split_ifs
    · rfl
    · rfl
  | timerFinish i timer =>
    have hfinish := same_onFinish (s := { s with countDowns := s.countDowns.eraseIdx i }) timer
    refine closes_of_same ⟨hfinish.ended, hfinish.iperf3, hfinish.tasks, hfinish.numbers⟩ ?_
    unfold onFinish
    dsimp only
    split_ifs
    · rfl
    · rfl
  | statusTimerFinish i during =>
    have hfinish :=
      same_onStatusTimerFinish (s := { s with statusTimers := s.statusTimers.eraseIdx i }) during
    refine closes_of_same ⟨hfinish.ended, hfinish.iperf3, hfinish.tasks, hfinish.numbers⟩ ?_
    unfold onStatusTimerFinish
    split_ifs
    · rfl
    · rfl
  | check i file => exact closes_of_same ⟨rfl, rfl, rfl, rfl⟩ rfl
  | checkPost i result check =>
    have hclose := closes_onCheckPostExecute (s := { s with checks := s.checks.eraseIdx i })
      check.during result
    exact ⟨⟨hclose.tasks, hclose.numbers, hclose.number⟩, hclose.objects⟩

end Fragment

end MmWaveTracker.Iperf
