import MmWaveTracker.Iperf
import MmWaveTracker.IperfDialog
import Mathlib.Tactic.Common

/-! A run of iperf against the clock: what the status checks make of a file that gets its
lines in time. -/
namespace MmWaveTracker.Iperf

/-- The milliseconds that the count-down of a run is given, which are computed as an `int`. -/
def countDownMillis (iperf_duration : ℕ) : ℤ := wrap32 (wrap32 (iperf_duration+1) * 1000)

/-- A run, with the milliseconds since it was started, when its file got the last line, and when the
timer of `checkIperfStatusTimer` is over. -/
structure TimedRun where
  fragment : Fragment
  now : ℕ := 0
  lastModified : Option ℕ := none
  statusDue : ℕ := 0

/-- The toggle is switched on. A count-down without time to count calls `onFinish` from `start`. -/
def TimedRun.start (iperf_duration : ℕ) (run_number_current : ℤ) : TimedRun :=
  let s := onPreExecute iperf_duration { run_number_current, checked := true }
  let timer : CountDown := { run := s.current, timer_duration := iperf_duration+1 }
  if countDownMillis iperf_duration ≤ 0 then
    { fragment := { onFinish timer { s with countDowns := [] } with
      iperfCountDownTimer := some timer.run } }
  else { fragment := s }

inductive ClockEvent where
  | advance (millis : ℕ)
  | write
  | toggleOff
  | background (i : ℕ) (env : RunEnv)
  | runPost (i : ℕ)
  | tick
  | timerFinish
  | statusTimerFinish
  | check (i : ℕ)
  | checkPost (i : ℕ) (result : TestResult)

/-- Until the count-down has finished, or while it says so. -/
def TimeRemains (s : Fragment) : Prop := s.countDowns ≠ [] ∨ s.iperfTimeLeft > 0

instance (s : Fragment) : Decidable (TimeRemains s) := inferInstanceAs (Decidable (_ ∨ _))

def TimedRun.goOn (s : TimedRun) (fragment : Option Fragment) : Option TimedRun :=
  fragment.map fun fragment => { s with fragment }

/-- The steps of the fragment, with the clock: the file is there before it is checked, and
while time remains no more than `iperf_interval` milliseconds pass without a line. -/
def clockStep (iperf_duration iperf_interval : ℕ) (s : TimedRun) : ClockEvent → Option TimedRun
  | .advance millis =>
    if TimeRemains s.fragment → s.lastModified.all fun modified =>
        s.now + millis ≤ modified + iperf_interval then
      some { s with now := s.now + millis }
    else none
  | .write => some { s with lastModified := some s.now }
  | .toggleOff => s.goOn (step s.fragment .toggleOff)
  | .background i env =>
    if env.iperf_json_flag = (IperfDialog.setIperfJSON { iperf_duration }).iperf_json_flag then
      s.goOn (step s.fragment (.background i env))
    else none
  | .runPost i => s.goOn (step s.fragment (.runPost i))
  | .tick =>
    if s.now < countDownMillis iperf_duration then
      s.goOn (step s.fragment (.tick 0 (countDownMillis iperf_duration - s.now).toNat))
    else none
  | .timerFinish =>
    if countDownMillis iperf_duration ≤ s.now then
      { s with statusDue := s.now + 1000*iperfFileCheckInterval.toNat }.goOn
        (step s.fragment (.timerFinish 0))
    else none
  | .statusTimerFinish => if s.statusDue ≤
      s.now then s.goOn (step s.fragment (.statusTimerFinish 0)) else none
  | .check i => s.lastModified.bind fun modified =>
    s.goOn (step s.fragment (.check i (some (((s.now:ℤ) - modified)/1000))))
  | .checkPost i result => s.goOn (step s.fragment (.checkPost i result))

/-- No check has found the run stalled, and it was not terminated forcefully before its time. -/
structure TimedRun.Unharmed (iperf_duration : ℕ) (s : TimedRun) : Prop where
  updating : s.fragment.iperf_file_status ≠ .stoppedUpdating
  exist : s.fragment.iperf_file_status ≠ .doesNotExist
  in_time : s.fragment.iperf_termination_state = .terminatedForcefully → iperf_duration*1000 ≤ s.now

/-! What the callbacks do: they leave the verdict of the last check alone, start neither a
count-down nor a status timer, and do not terminate by force. -/

structure Calm (s s' : Fragment) : Prop where
  status : s'.iperf_file_status = s.iperf_file_status
  remains : TimeRemains s' → TimeRemains s
  forced : s'.iperf_termination_state = .terminatedForcefully →
    s.iperf_termination_state = .terminatedForcefully
  timers : s'.statusTimers ≠ [] → s.statusTimers ≠ []

section Calm

variable {s s' s'' : Fragment}

theorem Calm.refl : Calm s s := ⟨rfl, id, id, id⟩

theorem Calm.trans (h : Calm s s') (h' : Calm s' s'') : Calm s s'' :=
  ⟨h'.status.trans h.status, fun hr => h.remains (h'.remains hr), fun hf => h.forced (h'.forced hf),
    fun ht => h.timers (h'.timers ht)⟩

theorem calm_terminate (during : Option ℕ) (state : TerminationState)
    (hstate : state ≠ .terminatedForcefully) : Calm s (terminateIperfSession during state s) :=
      ⟨rfl, id, fun hf => absurd hf hstate, id⟩

theorem calm_switchedOff (during : Option ℕ) : Calm s (switchedOff during s) := by
  have hoff : Calm s { s with checked := false } := ⟨rfl, id, id, id⟩
  unfold switchedOff
  dsimp only
  split_ifs
  · exact hoff.trans (calm_terminate during .terminatedByUser (by decide))
  · exact hoff

theorem calm_uncheck (during : ℕ) : Calm s (uncheck during s) := by
  unfold uncheck
  split_ifs
  · exact calm_switchedOff (some during)
  · exact .refl

theorem calm_cancelCountDown : Calm s (cancelCountDown s) := by
  unfold cancelCountDown
  cases s.iperfCountDownTimer with
  | none => exact .refl
  | some run =>
    refine ⟨rfl, ?_, id, id⟩
    intro hremains
    apply hremains.imp_left
    intro hne hnil
    exact hne (by rw [hnil]; rfl)

theorem calm_endIperfSession (during : ℕ) (result : TestResult) :
    Calm s (endIperfSession during result s) := by
  unfold endIperfSession
  cases s.iperf3 with
  | none => exact .refl
  | some object =>
    have hgone : Calm (cancelCountDown s) { cancelCountDown s with
        ended := (cancelCountDown s).ended ++
          [{ object, number := (cancelCountDown s).run_number_current, during }]
        iperf3 := none } := ⟨rfl, id, id, id⟩
    have huncheck := (calm_cancelCountDown.trans hgone).trans (calm_uncheck during)
    exact ⟨huncheck.status, huncheck.remains, huncheck.forced, huncheck.timers⟩

theorem calm_onCheckPostExecute (during : ℕ) (result : TestResult)
    (hexist : s.iperf_file_status ≠ .doesNotExist)
    (hupdating : s.iperf_file_status ≠ .stoppedUpdating) :
    Calm s (onCheckPostExecute during result s) := by
  have hgood : ¬((s.iperf_file_status = .doesNotExist ∨ s.iperf_file_status = .stoppedUpdating) ∧
      s.iperf_termination_state = .running) := fun h => h.1.elim hexist hupdating
  simp only [onCheckPostExecute, if_neg hgood]
  split_ifs
  · exact calm_endIperfSession during result
  · exact .refl

theorem calm_onPostExecute : Calm s (onPostExecute s) := by
  unfold onPostExecute
  split_ifs
  · exact calm_terminate none .terminatedAutomatically (by decide)
  · exact .refl

theorem calm_doInBackground (env : RunEnv) (i : ℕ) (task : RunTask)
    (hstep : doInBackground env i task s = some s') :
    Calm s s' := by
  unfold doInBackground at hstep
  cases hphase : task.phase with
  | scheduled =>
    rw [hphase] at hstep
    dsimp only at hstep
    split_ifs at hstep <;> cases hstep <;> exact ⟨rfl, id, id, id⟩
  | named =>
    rw [hphase] at hstep
    cases hstep
    refine ⟨rfl, id, ?_, id⟩
    intro hforced
    cases hforced
  | marked =>
    rw [hphase] at hstep
    cases hstep
    exact ⟨rfl, id, id, id⟩
  | executing =>
    rw [hphase] at hstep
    cases hstep
    split
    · refine ⟨rfl, ?_, id, id⟩
      intro hremains
      have hover : ¬((-1:ℤ) > 0) := by decide
      exact .inl (hremains.resolve_right hover)
    · exact ⟨rfl, id, id, id⟩
  | finished =>
    rw [hphase] at hstep
    cases hstep

theorem calm_onTick (timer : CountDown) (millisUntilFinished : ℕ) (hremains : TimeRemains s) :
    Calm s (onTick timer millisUntilFinished s) := by
  unfold onTick
  dsimp only
  split_ifs <;> exact ⟨rfl, fun _ => hremains, id, id⟩

end Calm

/-! The runs in which nothing goes wrong. -/

/-- The invariant; `safe` is what the run must fulfil if there is anything to wait for. -/
structure Kept (iperf_duration iperf_interval : ℕ) (s : TimedRun) :
    Prop extends TimedRun.Unharmed iperf_duration s where
  fresh : TimeRemains s.fragment → ∀ modified, s.lastModified = some modified →
    s.now ≤ modified + iperf_interval
  timers : s.fragment.statusTimers ≠ [] → iperf_duration*1000 ≤ s.statusDue
  safe : TimeRemains s.fragment → iperf_interval < 11000 ∧
    (iperf_duration*1000 : ℤ) ≤ countDownMillis iperf_duration + 5000

section Kept

variable {iperf_duration iperf_interval : ℕ} {s t : TimedRun}

theorem Kept.calm (h : Kept iperf_duration iperf_interval s) {fragment : Fragment}
    (hcalm : Calm s.fragment fragment) :
    Kept iperf_duration iperf_interval { s with fragment } := by
  constructor
  case toUnharmed =>
    exact ⟨hcalm.status ▸ h.updating, hcalm.status ▸ h.exist, fun hforced =>
      h.in_time (hcalm.forced hforced)⟩
  case fresh => exact fun hremains => h.fresh (hcalm.remains hremains)
  case timers => exact fun htimers => h.timers (hcalm.timers htimers)
  case safe => exact fun hremains => h.safe (hcalm.remains hremains)

theorem Kept.goOn (h : Kept iperf_duration iperf_interval s) {fragment : Option Fragment}
    (hcalm : ∀ s', fragment = some s' → Calm s.fragment s') (hstep : s.goOn fragment = some t) :
    Kept iperf_duration iperf_interval t := by
  obtain ⟨s', hs', rfl⟩ := Option.map_eq_some_iff.mp hstep
  exact h.calm (hcalm s' hs')

/-- The age of the file is under the threshold, or no time remains. -/
theorem Kept.fileStatus (h : Kept iperf_duration iperf_interval s) (modified : ℕ)
    (hmodified : s.lastModified = some modified) :
    fileStatus (some (((s.now:ℤ) - modified)/1000)) s.fragment ≠ .stoppedUpdating ∧
    fileStatus (some (((s.now:ℤ) - modified)/1000)) s.fragment ≠ .doesNotExist := by
  have hage : s.fragment.iperfTimeLeft > 0 →
      ((s.now:ℤ) - modified)/1000 < iperfFileCheckThreshold := by
    intro hleft
    have hfresh := h.fresh (.inr hleft) modified hmodified
    have hinterval := (h.safe (.inr hleft)).1
    unfold iperfFileCheckThreshold
    omega
  unfold Iperf.fileStatus
  cases hname : s.fragment.iperf_file_name with
  | none => exact ⟨h.updating, h.exist⟩
  | some name =>
    dsimp only
    split_ifs with hjson hold
    · exact ⟨by decide, by decide⟩
    · exact absurd (hage hold.2) (Int.not_lt.mpr hold.1)
    all_goals exact ⟨by decide, by decide⟩

/-- Now the count-down is over, and the status timer starts. -/
theorem Kept.onFinish (h : Kept iperf_duration iperf_interval s) (i : ℕ) (timer : CountDown)
    (htimer : s.fragment.countDowns[i]? = some timer)
    (hover : countDownMillis iperf_duration ≤ s.now) :
    Kept iperf_duration iperf_interval { s with
      statusDue := s.now + 1000*iperfFileCheckInterval.toNat
      fragment := onFinish timer
        { s.fragment with countDowns := s.fragment.countDowns.eraseIdx i } } := by
  have hremains : TimeRemains s.fragment := .inl (List.ne_nil_of_mem (List.mem_of_getElem? htimer))
  have hdue : iperf_duration*1000 ≤ s.now + 1000*iperfFileCheckInterval.toNat := by
    have hsafe := (h.safe hremains).2
    change _ ≤ s.now + 1000*5
    omega
  unfold Iperf.onFinish
  dsimp only
  split_ifs
  all_goals
    constructor
    case toUnharmed => exact ⟨h.updating, h.exist, h.in_time⟩
    case fresh => exact fun _ => h.fresh hremains
    case timers => exact fun _ => hdue
    case safe => exact fun _ => h.safe hremains

theorem Kept.onStatusTimerFinish (h : Kept iperf_duration iperf_interval s) (i during : ℕ)
    (hduring : s.fragment.statusTimers[i]? = some during) (hdue : s.statusDue ≤ s.now) :
    Kept iperf_duration iperf_interval { s with
      fragment :=
        onStatusTimerFinish during
          { s.fragment with statusTimers := s.fragment.statusTimers.eraseIdx i } } := by
  have hne : s.fragment.statusTimers ≠ [] := List.ne_nil_of_mem (List.mem_of_getElem? hduring)
  have herase (i : ℕ) : s.fragment.statusTimers.eraseIdx i ≠ [] → s.fragment.statusTimers ≠ [] :=
    fun _ => hne
  unfold Iperf.onStatusTimerFinish
  split_ifs
  all_goals
    constructor
    case toUnharmed => exact ⟨h.updating, h.exist, fun _ => (h.timers hne).trans hdue⟩
    case fresh => exact h.fresh
    case timers => exact fun htimers => h.timers (herase _ htimers)
    case safe => exact h.safe

theorem kept_step (e : ClockEvent) (hstep : clockStep iperf_duration iperf_interval s e = some t)
    (h : Kept iperf_duration iperf_interval s) : Kept iperf_duration iperf_interval t := by
  cases e with
  | advance millis =>
    obtain ⟨hwait, heq⟩ := Option.ite_none_right_eq_some.mp hstep
    cases heq
    constructor
    case toUnharmed =>
      exact ⟨h.updating, h.exist, fun hforced => (h.in_time hforced).trans (Nat.le_add_right _ _)⟩
    case fresh =>
      intro hremains modified hmodified
      have hall := hwait hremains
      rw [hmodified, Option.all_some, decide_eq_true_eq] at hall
      exact hall
    case timers => exact h.timers
    case safe => exact h.safe
  | write =>
    cases hstep
    constructor
    case toUnharmed => exact ⟨h.updating, h.exist, h.in_time⟩
    case fresh =>
      rintro - modified ⟨⟩
      exact Nat.le_add_right _ _
    case timers => exact h.timers
    case safe => exact h.safe
  | toggleOff =>
    refine h.goOn ?_ hstep
    intro s' hs'
    cases taken_of_step hs'
    exact calm_switchedOff none
  | background i env =>
    obtain ⟨-, hstep⟩ := Option.ite_none_right_eq_some.mp hstep
    refine h.goOn ?_ hstep
    intro s' hs'
    cases taken_of_step hs' with
    | background _ _ task _ _ htask => exact calm_doInBackground env i task htask
  | runPost i =>
    refine h.goOn ?_ hstep
    intro s' hs'
    cases taken_of_step hs'
    have herase : Calm s.fragment { s.fragment with tasks := s.fragment.tasks.eraseIdx i } :=
      ⟨rfl, id, id, id⟩
    exact herase.trans calm_onPostExecute
  | tick =>
    rw [clockStep] at hstep
    obtain ⟨-, hstep⟩ := Option.ite_none_right_eq_some.mp hstep
    refine h.goOn ?_ hstep
    intro s' hs'
    cases taken_of_step hs' with
    | tick _ _ timer htimer =>
        exact calm_onTick timer _ (.inl (List.ne_nil_of_mem (List.mem_of_getElem? htimer)))
  | timerFinish =>
    rw [clockStep] at hstep
    obtain ⟨hover, hstep⟩ := Option.ite_none_right_eq_some.mp hstep
    obtain ⟨s', hs', rfl⟩ := Option.map_eq_some_iff.mp hstep
    cases taken_of_step hs' with
    | timerFinish _ timer htimer => exact h.onFinish 0 timer htimer hover
  | statusTimerFinish =>
    obtain ⟨hdue, hstep⟩ := Option.ite_none_right_eq_some.mp hstep
    obtain ⟨s', hs', rfl⟩ := Option.map_eq_some_iff.mp hstep
    cases taken_of_step hs' with
    | statusTimerFinish _ during hduring => exact h.onStatusTimerFinish 0 during hduring hdue
  | check i =>
    obtain ⟨modified, hmodified, hstep⟩ := Option.bind_eq_some_iff.mp hstep
    obtain ⟨s', hs', rfl⟩ := Option.map_eq_some_iff.mp hstep
    cases taken_of_step hs'
    obtain ⟨hupdating, hexist⟩ := h.fileStatus modified hmodified
    exact ⟨⟨hupdating, hexist, h.in_time⟩, h.fresh, h.timers, h.safe⟩
  | checkPost i result =>
    refine h.goOn ?_ hstep
    intro s' hs'
    cases taken_of_step hs' with
    | checkPost _ _ check =>
      have herase : Calm s.fragment { s.fragment with checks := s.fragment.checks.eraseIdx i } :=
        ⟨rfl, id, id, id⟩
      exact herase.trans (calm_onCheckPostExecute _ result h.exist h.updating)

end Kept

theorem countDownMillis_eq (iperf_duration : ℕ) (h : iperf_duration ≤ 2147482) :
    countDownMillis iperf_duration = (iperf_duration+1)*1000 := by
  unfold countDownMillis
  rw [wrap32_of_range (iperf_duration+1) (by omega) (by omega),
    wrap32_of_range _ (by omega) (by omega)]

/-- What an overflow leaves of a longer count-down is over long before the run. -/
theorem countDownMillis_lt (iperf_duration : ℕ) (hlong : 2147482 < iperf_duration)
    (hint : iperf_duration ≤ 2147483647)
    (hpos : 0 < countDownMillis iperf_duration) :
    countDownMillis iperf_duration + 5000 < iperf_duration*1000 := by
  unfold countDownMillis wrap32 at hpos ⊢
  omega

theorem kept_start (iperf_duration iperf_interval : ℕ) (n : ℤ)
    (h : countDownMillis iperf_duration ≤ 0 ∨ iperf_interval < 11000 ∧ iperf_duration ≤ 2147482) :
    Kept iperf_duration iperf_interval (TimedRun.start iperf_duration n) := by
  unfold TimedRun.start
  dsimp only
  split_ifs with hover
  · have hnone : ¬TimeRemains { onFinish { run := 1, timer_duration := iperf_duration+1 }
        { onPreExecute iperf_duration
        { run_number_current := n, checked := true } with countDowns :=
          [] } with iperfCountDownTimer := some 1 } := by
      rintro (hne | hleft)
      · exact hne rfl
      · have hzero : ¬((0:ℤ) > 0) := by decide
        exact hzero hleft
    constructor
    case toUnharmed => constructor <;> intro hwrong <;> cases hwrong
    case fresh => exact fun hremains => absurd hremains hnone
    case timers => exact fun hne => absurd rfl hne
    case safe => exact fun hremains => absurd hremains hnone
  · obtain ⟨hinterval, hduration⟩ := h.resolve_left hover
    constructor
    case toUnharmed => constructor <;> intro hwrong <;> cases hwrong
    case fresh =>
      rintro - modified ⟨⟩
    case timers => exact fun hne => absurd rfl hne
    case safe =>
      intro _
      rw [countDownMillis_eq iperf_duration hduration]
      omega

/-! The runs in which something does. -/

/-- In text mode the client is at work, and the count-down as well. -/
structure Going (iperf_duration : ℕ) (s : TimedRun) : Prop where
  state : s.fragment.iperf_termination_state = .running
  countDowns : s.fragment.countDowns = [{ run := 1, timer_duration := iperf_duration+1 }]
  statusTimers : s.fragment.statusTimers = []
  name : ∃ name, s.fragment.iperf_file_name = some name ∧ name.endsWith jsonExtension = false

/-- The steps of the background body up to the client, and the first line. -/
def begun : List ClockEvent :=
  [.background 0 { iperf_json_flag := false }, .background 0 { iperf_json_flag := false },
    .background 0 { iperf_json_flag := false }, .write]

section Going

variable {iperf_duration iperf_interval : ℕ} {s : TimedRun}

theorem exists_going (iperf_interval : ℕ) (hduration : 200 < iperf_duration)
    (hpos : 0 < countDownMillis iperf_duration) :
    ∃ s, runEvents (clockStep iperf_duration iperf_interval) (TimedRun.start iperf_duration 0)
        begun = some s ∧
      Going iperf_duration s ∧ s.now = 0 ∧ s.lastModified = some 0 ∧ s.fragment.checks = [] := by
  have hjson : (IperfDialog.setIperfJSON { iperf_duration }).iperf_json_flag = false := by
    unfold IperfDialog.setIperfJSON
    rw [if_pos (by unfold IperfDialog.defaultIperfJsonTimeThreshold; dsimp only; omega)]
  have hstart : TimedRun.start iperf_duration 0 =
      { fragment := onPreExecute iperf_duration { run_number_current := 0, checked := true } } := by
    simp only [TimedRun.start, if_neg (Int.not_le.mpr hpos)]
  rw [hstart]
  simp only [begun, runEvents, clockStep, hjson]
  refine ⟨_, rfl, ⟨rfl, rfl, rfl, ⟨_, rfl, ?_⟩⟩, rfl, rfl, rfl⟩
  change (constructIperfFileName { iperf_json_flag := false } 1 true).endsWith jsonExtension = false
  decide +kernel

/-- A line every millisecond. -/
theorem exists_wait (hinterval : 0 < iperf_interval) (h : Going iperf_duration s)
    (hwritten : s.lastModified = some s.now) (millis : ℕ) :
    ∃ events t, runEvents (clockStep iperf_duration iperf_interval) s events = some t ∧
      Going iperf_duration t ∧ t.now = s.now + millis ∧ t.lastModified = some t.now := by
  induction millis with
  | zero => exact ⟨[], s, rfl, h, rfl, hwritten⟩
  | succ millis ih =>
    obtain ⟨events, t, hrun, hgoing, hnow, hmodified⟩ := ih
    refine ⟨events ++ [.advance 1, .write],
      { t with now := t.now + 1, lastModified := some (t.now+1) }, ?_,
        ⟨hgoing.state, hgoing.countDowns, hgoing.statusTimers, hgoing.name⟩,
      by rw [hnow, Nat.add_assoc], rfl⟩
    have hadvance : clockStep iperf_duration iperf_interval t (.advance 1) =
        some { t with now := t.now + 1 } := by
      have hline : t.lastModified.all (fun modified => t.now + 1 ≤ modified + iperf_interval) =
          true := by
        rw [hmodified, Option.all_some, decide_eq_true_eq]
        omega
      rw [clockStep, if_pos fun _ => hline]
    rw [runEvents_append _ _ _ _ _ hrun, runEvents, hadvance]
    rfl

/-- When a tick finds `left` seconds to go, a check is started. -/
def ChecksAt (iperf_duration : ℕ) (left : ℤ) : Prop :=
  left > 0 ∧ iperf_duration+1 - left ≥ iperfInitialCheckDelay ∧ left%iperfFileCheckInterval = 0

instance (left : ℤ) : Decidable (ChecksAt iperf_duration left) :=
  inferInstanceAs (Decidable (_ ∧ _))

theorem onTick_eq (millisUntilFinished : ℕ) (left : ℤ) (hleft : (millisUntilFinished:ℤ)/1000 = left)
    (s : Fragment) : onTick { run := 1, timer_duration := iperf_duration+1 } millisUntilFinished s =
      { s with
        iperfTimeLeft := left
        checks := s.checks ++ if ChecksAt iperf_duration left then [{ during := 1 }] else [] } := by
  unfold onTick
  dsimp only
  rw [hleft]
  by_cases hchecks : ChecksAt iperf_duration left
  · have hcondition := hchecks
    unfold ChecksAt at hcondition
    rw [if_pos hcondition, if_pos hchecks]
  · have hcondition := hchecks
    unfold ChecksAt at hcondition
    rw [if_neg hcondition, if_neg hchecks, List.append_nil]

theorem exists_tick (h : Going iperf_duration s) (hnow : (s.now:ℤ) < countDownMillis iperf_duration)
    (left : ℤ) (hleft : (countDownMillis iperf_duration - s.now)/1000 = left) :
    ∃ t, clockStep iperf_duration iperf_interval s .tick = some t ∧ Going iperf_duration t ∧
      t.now = s.now ∧ t.lastModified = s.lastModified ∧ t.fragment.iperfTimeLeft = left ∧
      t.fragment.checks = s.fragment.checks ++ if ChecksAt iperf_duration left
        then [{ during := 1 }] else [] := by
  rw [clockStep]
  generalize countDownMillis iperf_duration = total at hnow hleft ⊢
  have hstep : step s.fragment (.tick 0 (total - s.now).toNat) =
      some (onTick { run := 1, timer_duration := iperf_duration+1 } (total - s.now).toNat
        s.fragment) := by
    rw [step, h.countDowns]
    rfl
  have hseconds : (((total - s.now).toNat : ℕ) : ℤ)/1000 = left := by
    rw [Int.toNat_of_nonneg (by omega), hleft]
  rw [if_pos hnow, TimedRun.goOn, hstep, onTick_eq _ left hseconds]
  exact ⟨_, rfl, ⟨h.state, h.countDowns, h.statusTimers, h.name⟩, rfl, rfl, rfl, rfl⟩

/-- A tick every second and a line every millisecond. -/
theorem exists_seconds (hinterval : 0 < iperf_interval) (h : Going iperf_duration s)
    (hwritten : s.lastModified = some s.now) (n : ℕ)
    (hn : ((s.now + 1000*n : ℕ) : ℤ) ≤ countDownMillis iperf_duration) :
    ∃ events t, runEvents (clockStep iperf_duration iperf_interval) s events = some t ∧
      Going iperf_duration t ∧ t.now = s.now + 1000*n ∧ t.lastModified = some t.now := by
  induction n with
  | zero => exact ⟨[], s, rfl, h, rfl, hwritten⟩
  | succ n ih =>
    obtain ⟨events, t, hrun, hgoing, hnow, hmodified⟩ := ih (by omega)
    obtain ⟨t', htick, hgoing', hnow', hmodified', -⟩ :=
      exists_tick hgoing (by omega) ((countDownMillis iperf_duration - t.now)/1000) rfl
    obtain ⟨waiting, u, hwait, hgoing'', hnow'', hmodified''⟩ :=
      exists_wait hinterval hgoing' (by rw [hmodified', hmodified, hnow']) 1000
    have hsum : u.now = s.now + 1000*(n+1) := by
      rw [hnow'', hnow', hnow]
      omega
    refine ⟨events ++ .tick :: waiting, u, ?_, hgoing'', hsum, hmodified''⟩
    rw [runEvents_append _ _ _ _ _ hrun, runEvents, htick, Option.bind_some]
    exact hwait

/-- The count-down goes on to its end. -/
theorem exists_countedDown (hinterval : 0 < iperf_interval) (h : Going iperf_duration s)
    (hstart : s.now = 0) (hwritten : s.lastModified = some s.now)
    (hpos : 0 < countDownMillis iperf_duration) :
    ∃ events t, runEvents (clockStep iperf_duration iperf_interval) s events = some t ∧
      Going iperf_duration t ∧ (t.now:ℤ) = countDownMillis iperf_duration := by
  obtain ⟨millis, hmillis⟩ := Int.eq_ofNat_of_zero_le (Int.le_of_lt hpos)
  obtain ⟨events, t, hrun, hgoing, hnow, hmodified⟩ :=
    exists_seconds hinterval h hwritten (millis/1000) (by omega)
  obtain ⟨waiting, u, hwait, hgoing', hnow', -⟩ :=
    exists_wait hinterval hgoing hmodified (millis%1000)
  refine ⟨events ++ waiting, u, ?_, hgoing', by omega⟩
  rw [runEvents_append _ _ _ _ _ hrun]
  exact hwait

/-- Five seconds later the run is terminated by force. -/
theorem exists_forced (iperf_interval : ℕ) (h : Going iperf_duration s)
    (hover : (s.now:ℤ) = countDownMillis iperf_duration) :
    ∃ events t, runEvents (clockStep iperf_duration iperf_interval) s events = some t ∧
      t.fragment.iperf_termination_state = .terminatedForcefully ∧
      (t.now:ℤ) = countDownMillis iperf_duration + 5000 := by
  let fragment : Fragment := { s.fragment with
    countDowns := []
    iperfTimeLeft := 0
    iperfCountDownTimer := none
    statusTimers := [1] }
  let waiting : TimedRun := { s with fragment, statusDue := s.now + 5000 }
  have hfinish : clockStep iperf_duration iperf_interval s .timerFinish = some waiting := by
    have hstep : step s.fragment (.timerFinish 0) = some fragment := by
      rw [step, h.countDowns]
      change some (onFinish _ { s.fragment with countDowns := [] }) = _
      rw [onFinish, if_pos h.state, h.statusTimers]
      rfl
    rw [clockStep, if_pos (Int.le_of_eq hover.symm), TimedRun.goOn, hstep]
    rfl
  have hadvance : clockStep iperf_duration iperf_interval waiting (.advance 5000) =
      some { waiting with now := s.now + 5000 } := by
    rw [clockStep, if_pos]
    rintro (hne | hleft)
    · exact absurd rfl hne
    · have hzero : ¬((0:ℤ) > 0) := by decide
      exact absurd hleft hzero
  let final : TimedRun := { waiting with
    now := s.now + 5000
    fragment := terminateIperfSession (some 1) .terminatedForcefully
      { fragment with statusTimers := [] } }
  have hforced : clockStep iperf_duration iperf_interval { waiting with now := s.now + 5000 }
      .statusTimerFinish = some final := by
    have hstep : step fragment (.statusTimerFinish 0) =
        some (terminateIperfSession (some 1) .terminatedForcefully
          { fragment with statusTimers := [] }) := by
      change some (onStatusTimerFinish 1 { fragment with statusTimers := [] }) = _
      rw [onStatusTimerFinish, if_pos h.state]
    rw [clockStep, if_pos (Nat.le_refl _), TimedRun.goOn, hstep]
    rfl
  refine ⟨[.timerFinish, .advance 5000, .statusTimerFinish], final, ?_, rfl, ?_⟩
  · rw [runEvents, hfinish, Option.bind_some, runEvents, hadvance, Option.bind_some, runEvents,
      hforced]
    rfl
  · change ((s.now + 5000 : ℕ) : ℤ) = _
    omega

/-- Eleven seconds without a line, with the ticks on time. -/
theorem exists_silence (hinterval : 11000 ≤ iperf_interval) (hduration : 200 < iperf_duration)
    (hlast : iperf_duration ≤ 2147482) (h : Going iperf_duration s) (hstart : s.now = 0)
    (hwritten : s.lastModified = some 0) (hchecks : s.fragment.checks = []) (k : ℕ) (hk : k ≤ 11) :
    ∃ events t, runEvents (clockStep iperf_duration iperf_interval) s events = some t ∧
      Going iperf_duration t ∧ t.now = 1000*k ∧ t.lastModified = some 0 ∧
        (0 < k → t.fragment.iperfTimeLeft = iperf_duration + 2 - k) ∧
      (∀ check ∈ t.fragment.checks, check.checked = false) ∧
      (t.fragment.checks = [] → ∀ j : ℕ, j < k →
        ¬ChecksAt iperf_duration (iperf_duration + 1 - j)) := by
  have hmillis := countDownMillis_eq iperf_duration hlast
  induction k with
  | zero =>
    refine ⟨[], s, rfl, h, hstart, hwritten, fun hpos => absurd hpos (Nat.lt_irrefl 0), ?_, ?_⟩
    · rw [hchecks]
      exact fun check hcheck => absurd hcheck List.not_mem_nil
    · exact fun _ j hj => absurd hj (Nat.not_lt_zero j)
  | succ k ih =>
    obtain ⟨events, t, hrun, hgoing, hnow, hmodified, -, hunchecked, hnone⟩ := ih (by omega)
    obtain ⟨t', htick, hgoing', hnow', hmodified', hleft, hadded⟩ :=
      exists_tick hgoing (by omega) (iperf_duration + 1 - k) (by omega)
    have hadvance : clockStep iperf_duration iperf_interval t' (.advance 1000) =
        some { t' with now := t'.now + 1000 } := by
      have hline : t'.lastModified.all (fun modified => t'.now + 1000 ≤ modified + iperf_interval) =
          true := by
        rw [hmodified', hmodified, Option.all_some, decide_eq_true_eq]
        omega
      rw [clockStep, if_pos fun _ => hline]
    refine ⟨events ++ [.tick, .advance 1000], { t' with now := t'.now + 1000 }, ?_,
      ⟨hgoing'.state, hgoing'.countDowns, hgoing'.statusTimers, hgoing'.name⟩, ?_, ?_, ?_, ?_, ?_⟩
    · rw [runEvents_append _ _ _ _ _ hrun, runEvents, htick, Option.bind_some, runEvents, hadvance]
      rfl
    · change t'.now + 1000 = _
      omega
    · exact hmodified'.trans hmodified
    · intro _
      rw [hleft]
      push_cast
      omega
    · intro check hcheck
      rw [hadded, List.mem_append] at hcheck
      rcases hcheck with hold | hnew
      · exact hunchecked check hold
      · split at hnew
        · rw [List.mem_singleton.mp hnew]
        · cases hnew
    · intro hnil j hj
      rw [hadded, List.append_eq_nil_iff] at hnil
      rcases Nat.lt_succ_iff_lt_or_eq.mp hj with hlt | rfl
      · exact hnone hnil.1 j hlt
      · intro hcheck
        rw [if_pos hcheck] at hnil
        cases hnil.2

/-- The first check then finds the run stalled. -/
theorem exists_stalled (hduration : 200 < iperf_duration) (hlast : iperf_duration ≤ 2147482)
    (hinterval : 11000 ≤ iperf_interval) : ∃ events t,
    runEvents (clockStep iperf_duration iperf_interval) (TimedRun.start iperf_duration 0) events =
      some t ∧ t.fragment.iperf_file_status = .stoppedUpdating := by
  have hmillis := countDownMillis_eq iperf_duration hlast
  obtain ⟨s, hbegun, hgoing, hnow, hmodified, hchecks⟩ :=
    exists_going iperf_interval hduration (by omega)
  obtain ⟨events, t, hrun, hgoing', hnow', hmodified', hleft, hunchecked, hnone⟩ :=
    exists_silence hinterval hduration hlast hgoing hnow hmodified hchecks 11 (Nat.le_refl 11)
  have hleft' := hleft (by decide)
  obtain ⟨name, hname, htxt⟩ := hgoing'.name
  have hne : t.fragment.checks ≠ [] := by
    intro hnil
    have hno := hnone hnil
    have h₃ := hno 3 (by decide)
    have h₄ := hno 4 (by decide)
    have h₅ := hno 5 (by decide)
    have h₆ := hno 6 (by decide)
    have h₇ := hno 7 (by decide)
    unfold ChecksAt iperfInitialCheckDelay iperfFileCheckInterval at h₃ h₄ h₅ h₆ h₇
    omega
  obtain ⟨check, rest, hcons⟩ := List.exists_cons_of_ne_nil hne
  have hage : ((t.now:ℤ) - ((0:ℕ):ℤ))/1000 = 11 := by omega
  have hstatus : fileStatus (some 11) t.fragment = .stoppedUpdating := by
    have hpos : t.fragment.iperfTimeLeft > 0 := by omega
    unfold fileStatus
    rw [hname]
    dsimp only
    rw [htxt, if_neg fun hjson => Bool.false_ne_true hjson.1, if_pos ⟨Int.le_refl 11, hpos⟩]
  let stalled : TimedRun := { t with fragment := { t.fragment with
    iperf_file_status := .stoppedUpdating
    checks := t.fragment.checks.set 0 { check with checked := true } } }
  have hcheck : clockStep iperf_duration iperf_interval t (.check 0) = some stalled := by
    have hfirst : t.fragment.checks[0]? = some check := by rw [hcons]; rfl
    have hunchecked' : check.checked = false := hunchecked check (hcons ▸ List.mem_cons_self)
    have hstep : step t.fragment (.check 0 (some 11)) = some stalled.fragment := by
      rw [step, hfirst, Option.bind_some, if_neg (by rw [hunchecked']; exact Bool.false_ne_true),
        hstatus]
    rw [clockStep, hmodified', Option.bind_some, hage, TimedRun.goOn, hstep]
    rfl
  refine ⟨begun ++ (events ++ [.check 0]), stalled, ?_, rfl⟩
  rw [runEvents_append _ _ _ _ _ hbegun, runEvents_append _ _ _ _ _ hrun, runEvents, hcheck]
  rfl

end Going

/-- Ten seconds with their ticks, a check just before the next line, and the line. -/
def tenSeconds : List ClockEvent :=
  (List.replicate 10 [.advance 1000, .tick]).flatten ++ [.check 0, .checkPost 0 {}, .write]

end MmWaveTracker.Iperf
