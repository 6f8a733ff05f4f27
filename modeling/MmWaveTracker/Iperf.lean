import MmWaveTracker.JavaInt
import MmWaveTracker.EventRun

/-! The iperf fragment: the toggle, the background task `RunIperf`, the two count-down
timers and `CheckIperfStatus`, which share the fields of `FragmentAppIperf`. -/
namespace MmWaveTracker.Iperf

/-- `iperf_termination_state`; a static `int` is 0 before it is set. -/
inductive TerminationState where
  | unset
  | terminatedAutomatically
  | terminatedByUser
  | terminatedForcefully
  | running
  deriving DecidableEq, Repr

/-- `iperf_file_status`. -/
inductive FileStatus where
  | unset
  | stillUpdating
  | doesNotExist
  | jsonWrittenAtEnd
  | stoppedUpdating
  | stillUpdatingTestDone
  | successfullyWritten
  deriving DecidableEq, Repr

def iperfFileCheckThreshold : ℤ := 11
def iperfFileCheckInterval : ℤ := 5
def iperfInitialCheckDelay : ℤ := 3

/-- Where the background body of a `RunIperf` stands: before it, after the assignments of
`iperf_file_name` and of `iperf_termination_state`, in `runClient`, and behind it. -/
inductive Phase where
  | scheduled
  | named
  | marked
  | executing
  | finished
  deriving DecidableEq, Repr

/-- The task of the `run`-th run; the `Iperf3` object it makes has the same number. -/
structure RunTask where
  run : ℕ
  phase : Phase := .scheduled
  deriving DecidableEq, Repr

/-- A `CheckIperfStatus`, with the run during which it was scheduled. What a timer or a check
schedules is counted for the run of the timer or the check. -/
structure CheckTask where
  during : ℕ
  checked : Bool := false
  deriving DecidableEq, Repr

/-- The count-down timer of a run. -/
structure CountDown where
  run : ℕ
  timer_duration : ℤ
  deriving DecidableEq, Repr

/-- History: the body of `endIperfSession` was executed for `object`, by a check scheduled
during the run `during`. -/
structure Ended where
  object : ℕ
  number : ℤ
  during : ℕ
  deriving DecidableEq, Repr

/-- History: a check or timer scheduled during the run `during` has set a termination state
while `run` was the last run started. -/
structure Termination where
  run : ℕ
  during : ℕ
  deriving DecidableEq, Repr

/-- The fragment with the statics it works on and what is scheduled; as history the numbers that the
runs were given, their ends, the terminations and the dialogs. -/
structure Fragment where
  run_number_current : ℤ
  checked : Bool := false
  iperf3 : Option ℕ := none
  iperf_termination_state : TerminationState := .unset
  iperf_file_name : Option String := none
  iperf_file_status : FileStatus := .unset
  iperfTimeLeft : ℤ := 0
  iperfCountDownTimer : Option ℕ := none
  tasks : List RunTask := []
  checks : List CheckTask := []
  countDowns : List CountDown := []
  statusTimers : List ℕ := []
  numbers : List ℤ := []
  ended : List Ended := []
  terminations : List Termination := []
  dialogs : List String := []

/-- The last run started. -/
def Fragment.current (s : Fragment) : ℕ := s.numbers.length

/-- What `doInBackground` of a `RunIperf` finds; `failed` if an `IperfException` comes out of it. -/
structure RunEnv where
  running : Bool := true
  device_id : String := ""
  iperf_run_label : String := ""
  iperf_json_flag : Bool := true
  failed : Bool := false

/-- What `endIperfSession` finds. -/
structure TestResult where
  testResultMessage : Option String := none
  testResult : ℤ := 0
  fileSize : String := ""

def jsonExtension : String := ".json"
def txtExtension : String := ".txt"

def constructIperfFileName (env : RunEnv) (run_number_current : ℤ) (withExt : Bool) : String :=
  let iperfFileName := env.device_id ++ "-run" ++ valueOf run_number_current
  let iperfFileName := if env.iperf_run_label ≠ "" then iperfFileName ++ "-" ++ env.iperf_run_label
    else iperfFileName
  let iperfFileName := iperfFileName ++ "-iPerf"
  if withExt then iperfFileName ++ (if env.iperf_json_flag then jsonExtension else txtExtension)
    else iperfFileName

/-! The methods. -/

/-- Called by the user or the task of a run (`during = none`), or by a check or a timer. -/
def terminateIperfSession (during : Option ℕ) (termination_state : TerminationState)
    (s : Fragment) : Fragment :=
  { s with
    iperf_termination_state := termination_state
    checks := s.checks ++ [{ during := during.getD s.current }]
    terminations := match during with
      | some during => s.terminations ++ [{ run := s.current, during }]
      | none => s.terminations }

/-- `onCheckedChanged` with `isChecked` false. -/
def switchedOff (during : Option ℕ) (s : Fragment) : Fragment :=
  let s := { s with checked := false }
  if s.iperf_termination_state ≠ .terminatedAutomatically ∧
      s.iperf_termination_state ≠ .terminatedForcefully then
    terminateIperfSession during .terminatedByUser s
  else s

def endMessage (s : Fragment) (result : TestResult) : String :=
  let message := match result.testResultMessage with
    | some message => message ++ "!"
    | none => ""
  if s.iperf_termination_state ≠ .terminatedAutomatically ∧
      s.iperf_termination_state ≠ .terminatedForcefully ∧
      s.iperf_termination_state ≠ .running then "iPerf Session Terminated by User!" ++
        result.fileSize
  else if s.iperf_file_status = .stoppedUpdating then
    "iPerf Session Ended!" ++ message ++ " No Data is being received from the Server!" ++
      result.fileSize
  else if s.iperf_file_status = .doesNotExist then "iPerf Session Ended!" ++ message ++
    " File was deleted by User!"
  else if result.testResult ≠ 0 ∨ s.iperfTimeLeft > 0 then "iPerf Session Ended: " ++ message
  else if result.fileSize = " File is Empty!" then "iPerf Session Ended: " ++ message ++
    result.fileSize
  else "iPerf Session Ended Successfully!" ++ result.fileSize

/-- Stop the timer if it did not stop automatically. -/
def cancelCountDown (s : Fragment) : Fragment :=
  match s.iperfCountDownTimer with
  | some run => { s with
      countDowns := s.countDowns.filter fun timer => timer.run ≠ run
      iperfCountDownTimer := none }
  | none => s

/-- `setChecked(false)`, which calls the listener of the toggle before it returns. -/
def uncheck (during : ℕ) (s : Fragment) : Fragment :=
  if s.checked then switchedOff (some during) s else s

/-- Called by a check that was scheduled during the run `during`. -/
def endIperfSession (during : ℕ) (result : TestResult) (s : Fragment) : Fragment :=
  match s.iperf3 with
  | none => s
  | some object =>
    let message := endMessage s result
    let s := cancelCountDown s
    let s := { s with
      ended := s.ended ++ [{ object, number := s.run_number_current, during }]
      iperf3 := none }
    -- the listener may request a termination of what is current by now
    let s := uncheck during s
    { s with dialogs := s.dialogs ++ [message] }

/-- `onPreExecute` of a `RunIperf`, which runs before `executeOnExecutor` returns. -/
def onPreExecute (iperf_duration : ℕ) (s : Fragment) : Fragment :=
  let run_number_current := wrap32 (s.run_number_current+1)
  let run := s.current+1
  { s with
    run_number_current
    numbers := s.numbers ++ [run_number_current]
    iperfTimeLeft := iperf_duration+1
    countDowns := s.countDowns ++ [{ run, timer_duration := iperf_duration+1 }]
    iperfCountDownTimer := some run
    tasks := s.tasks ++ [{ run }] }

/-- One step of `doInBackground` of a `RunIperf`. -/
def doInBackground (env : RunEnv) (i : ℕ) (task : RunTask) (s : Fragment) : Option Fragment :=
  let moved (phase : Phase) : Fragment := { s with tasks := s.tasks.set i { task with phase } }
  match task.phase with
  | .scheduled =>
    if env.running then
      some { moved .named with
        iperf_file_name := some (constructIperfFileName env s.run_number_current true) }
    else some (moved .finished)
  | .named => some { moved .marked with iperf_termination_state := .running }
  | .marked => some { moved .executing with iperf3 := some task.run }
  -- `runClient` returns, or an `IperfException` is caught
  | .executing => some (if env.failed then { moved .finished with iperfTimeLeft := -1 }
      else moved .finished)
  | .finished => none

/-- `onPostExecute` of a `RunIperf`. -/
def onPostExecute (s : Fragment) : Fragment :=
  if s.iperf_termination_state = .running then terminateIperfSession none .terminatedAutomatically s
    else s

/-- `onTick` of a count-down timer. -/
def onTick (timer : CountDown) (millisUntilFinished : ℕ) (s : Fragment) : Fragment :=
  let iperfTimeLeft : ℤ := millisUntilFinished/1000
  let s := { s with iperfTimeLeft }
  if iperfTimeLeft > 0 ∧ timer.timer_duration - iperfTimeLeft ≥ iperfInitialCheckDelay ∧
      iperfTimeLeft%iperfFileCheckInterval = 0 then
    { s with checks := s.checks ++ [{ during := timer.run }] }
  else s

/-- `onFinish` of a count-down timer, and `checkIperfStatusTimer`. -/
def onFinish (timer : CountDown) (s : Fragment) : Fragment :=
  let s := { s with iperfTimeLeft := 0, iperfCountDownTimer := none }
  -- the server did not close the connection: wait a little, then close it forcefully
  if s.iperf_termination_state = .running then { s with statusTimers := s.statusTimers ++
    [timer.run] } else s

/-- `onFinish` of the timer that `checkIperfStatusTimer` started. -/
def onStatusTimerFinish (during : ℕ) (s : Fragment) : Fragment :=
  if s.iperf_termination_state =
    .running then terminateIperfSession (some during) .terminatedForcefully s else s

/-- The status that `doInBackground` of a `CheckIperfStatus` finds: `file` is the age of the
file in seconds, if it exists. Without a name there is an exception, which is caught. -/
def fileStatus (file : Option ℤ) (s : Fragment) : FileStatus :=
  match file, s.iperf_file_name with
  | none, _ => .doesNotExist
  | some _, none => s.iperf_file_status
  | some diffInSec, some name =>
    if name.endsWith jsonExtension ∧ s.iperfTimeLeft > 0 then .jsonWrittenAtEnd
    else if diffInSec ≥ iperfFileCheckThreshold ∧ s.iperfTimeLeft > 0 then .stoppedUpdating
    else if diffInSec ≥ iperfFileCheckThreshold ∧ s.iperfTimeLeft = 0 then .successfullyWritten
    else if diffInSec < iperfFileCheckThreshold ∧ s.iperfTimeLeft = 0 then .stillUpdatingTestDone
    else .stillUpdating

/-- `onPostExecute` of a `CheckIperfStatus`. -/
def onCheckPostExecute (during : ℕ) (result : TestResult) (s : Fragment) : Fragment :=
  -- if the file is not updated or does not exist, then end it forcefully
  let s := if (s.iperf_file_status = .doesNotExist ∨ s.iperf_file_status = .stoppedUpdating) ∧
      s.iperf_termination_state =
        .running then terminateIperfSession (some during) .terminatedForcefully s else s
  if s.iperf_termination_state ≠ .running then endIperfSession during result s else s

/-! The system. A background body takes a step at any time after it was scheduled; the
callbacks run one at a time. -/

inductive Event where
  | toggleOn (iperf_duration : ℕ)
  | toggleOff
  | background (i : ℕ) (env : RunEnv)
  | runPost (i : ℕ)
  | tick (i : ℕ) (millisUntilFinished : ℕ)
  | timerFinish (i : ℕ)
  | statusTimerFinish (i : ℕ)
  | check (i : ℕ) (file : Option ℤ)
  | checkPost (i : ℕ) (result : TestResult)

def step (s : Fragment) : Event → Option Fragment
  | .toggleOn iperf_duration =>
      if s.checked then none else some (onPreExecute iperf_duration { s with checked := true })
  | .toggleOff => if s.checked then some (switchedOff none s) else none
  | .background i env => s.tasks[i]?.bind fun task => doInBackground env i task s
  | .runPost i => s.tasks[i]?.bind fun task =>
      if task.phase = .finished then some (onPostExecute { s with tasks := s.tasks.eraseIdx i })
        else none
  | .tick i millisUntilFinished => s.countDowns[i]?.map fun timer =>
      onTick timer millisUntilFinished s
  | .timerFinish i => s.countDowns[i]?.map fun timer =>
      onFinish timer { s with countDowns := s.countDowns.eraseIdx i }
  | .statusTimerFinish i => s.statusTimers[i]?.map fun during =>
      onStatusTimerFinish during { s with statusTimers := s.statusTimers.eraseIdx i }
  | .check i file => s.checks[i]?.bind fun check =>
      if check.checked then none
      else some { s with
        iperf_file_status := fileStatus file s
        checks := s.checks.set i { check with checked := true } }
  | .checkPost i result => s.checks[i]?.bind fun check =>
      if check.checked then
        some (onCheckPostExecute check.during result { s with checks := s.checks.eraseIdx i })
      else none

/-! What a step is, event by event. -/

inductive Taken (s : Fragment) : Event → Fragment → Prop where
  | toggleOn (iperf_duration : ℕ) : s.checked = false →
      Taken s (.toggleOn iperf_duration) (onPreExecute iperf_duration { s with checked := true })
  | toggleOff : s.checked = true → Taken s .toggleOff (switchedOff none s)
  | background (i : ℕ) (env : RunEnv) (task : RunTask) (s' : Fragment) : s.tasks[i]? = some task →
      doInBackground env i task s = some s' → Taken s (.background i env) s'
  | runPost (i : ℕ) (task : RunTask) : s.tasks[i]? = some task → task.phase = .finished →
      Taken s (.runPost i) (onPostExecute { s with tasks := s.tasks.eraseIdx i })
  | tick (i millisUntilFinished : ℕ) (timer : CountDown) : s.countDowns[i]? = some timer →
      Taken s (.tick i millisUntilFinished) (onTick timer millisUntilFinished s)
  | timerFinish (i : ℕ) (timer : CountDown) : s.countDowns[i]? = some timer →
      Taken s (.timerFinish i) (onFinish timer { s with countDowns := s.countDowns.eraseIdx i })
  | statusTimerFinish (i during : ℕ) : s.statusTimers[i]? = some during →
      Taken s (.statusTimerFinish i)
        (onStatusTimerFinish during { s with statusTimers := s.statusTimers.eraseIdx i })
  | check (i : ℕ) (file : Option ℤ) (check : CheckTask) : s.checks[i]? = some check →
      Taken s (.check i file)
        { s with
          iperf_file_status := fileStatus file s,
          checks := s.checks.set i { check with checked := true } }
  | checkPost (i : ℕ) (result : TestResult) (check : CheckTask) : s.checks[i]? = some check →
      Taken s (.checkPost i result)
        (onCheckPostExecute check.during result { s with checks := s.checks.eraseIdx i })

theorem taken_of_step {s s' : Fragment} {e : Event} (hstep : step s e = some s') :
    Taken s e s' := by
  cases e with
  | toggleOn iperf_duration =>
    obtain ⟨hoff, heq⟩ := Option.ite_none_left_eq_some.mp hstep
    cases heq
    exact .toggleOn iperf_duration (Bool.eq_false_iff.mpr hoff)
  | toggleOff =>
    obtain ⟨hon, heq⟩ := Option.ite_none_right_eq_some.mp hstep
    cases heq
    exact .toggleOff hon
  | background i env =>
    obtain ⟨task, htask, hstep⟩ := Option.bind_eq_some_iff.mp hstep
    exact .background i env task s' htask hstep
  | runPost i =>
    obtain ⟨task, htask, hstep⟩ := Option.bind_eq_some_iff.mp hstep
    obtain ⟨hphase, heq⟩ := Option.ite_none_right_eq_some.mp hstep
    cases heq
    exact .runPost i task htask hphase
  | tick i millisUntilFinished =>
    obtain ⟨timer, htimer, rfl⟩ := Option.map_eq_some_iff.mp hstep
    exact .tick i millisUntilFinished timer htimer
  | timerFinish i =>
    obtain ⟨timer, htimer, rfl⟩ := Option.map_eq_some_iff.mp hstep
    exact .timerFinish i timer htimer
  | statusTimerFinish i =>
    obtain ⟨during, hduring, rfl⟩ := Option.map_eq_some_iff.mp hstep
    exact .statusTimerFinish i during hduring
  | check i file =>
    obtain ⟨check, hcheck, hstep⟩ := Option.bind_eq_some_iff.mp hstep
    obtain ⟨-, heq⟩ := Option.ite_none_left_eq_some.mp hstep
    cases heq
    exact .check i file check hcheck
  | checkPost i result =>
    obtain ⟨check, hcheck, hstep⟩ := Option.bind_eq_some_iff.mp hstep
    obtain ⟨-, heq⟩ := Option.ite_none_right_eq_some.mp hstep
    cases heq
    exact .checkPost i result check hcheck

end MmWaveTracker.Iperf
