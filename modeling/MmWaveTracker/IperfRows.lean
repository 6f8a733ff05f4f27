import MmWaveTracker.IperfEnds
import MmWaveTracker.IperfHosts
import MmWaveTracker.CsvFiles

/-! The rows of the iperf summary: the dialog at the end of a run keeps a message only, and
`saveConfirmStatus` reads the statics when `Ok` is pressed. -/
namespace MmWaveTracker.Iperf

open IperfDialog (MapActivity Screen ScreenEvent screenStep setIperfJSON)

/-- What a run has, as far as it has come. -/
structure RunFacts where
  iperf_run_label : Option String := none
  starttime : Option ℤ := none
  iperf_duration : ℤ := 0
  iperf_HostName : Option String := none
  iperf_tcp_parallel : ℤ := 0
  iperf_downlink_flag : Bool := false
  endtime : Option ℤ := none

/-- The app, with the dialogs on the screen, each by the run that it was opened for; as history the
runs by their objects, and the rows, each with the run of its dialog. -/
structure IperfApp where
  fragment : Fragment
  settings : Screen := {}
  starttime : Option ℤ := none
  endtime : Option ℤ := none
  shown : List ℕ := []
  ran : ℕ → RunFacts := fun _ => {}
  rows : List (ℕ × ConfirmStatus) := []

/-- A callback or a step of a background body, with the time on the clock; a use of the
settings dialog; `Ok` in one of the dialogs on the screen, whose spinner stands at a status. -/
inductive RowEvent where
  | fragment (e : Event) (now : ℤ)
  | settings (e : ScreenEvent)
  | ok (i : ℕ) (status comment : String) (sessionNumber : Option String)

/-- A step of the fragment finds the statics as they are. -/
def Finds (s : MapActivity) : Event → Prop
  | .toggleOn iperf_duration => s.iperf_duration = iperf_duration
  | .background _ env => env.iperf_run_label = s.iperf_run_label.getD "" ∧
      env.iperf_json_flag = (setIperfJSON s).iperf_json_flag
  | _ => True

instance (s : MapActivity) : ∀ e, Decidable (Finds s e)
  | .toggleOn _ => inferInstanceAs (Decidable (_ = _))
  | .background _ _ => inferInstanceAs (Decidable (_ ∧ _))
  | .toggleOff | .runPost _ | .tick _ _ | .timerFinish _ | .statusTimerFinish _ | .check _ _
  | .checkPost _ _ => .isTrue trivial

/-- What `doInBackground` of a `RunIperf` assigns outside the fragment. -/
def assigned (env : RunEnv) (now : ℤ) (task : RunTask) (s : IperfApp) : IperfApp :=
  match task.phase with
  | .scheduled =>
    if env.running then
      let statics := setIperfJSON s.settings.statics
      let statics := { statics with iperf_run_label := some (statics.iperf_run_label.getD "") }
      { s with
        settings := { s.settings with statics }
        ran := Function.update s.ran task.run
          { s.ran task.run with iperf_run_label := statics.iperf_run_label } }
    else s
  | .marked =>
    let statics := s.settings.statics
    let statics := if statics.iperf_udp_flag then { statics with iperf_tcp_parallel := 1 }
      else statics
    { s with
      settings := { s.settings with statics }
      starttime := some now
      ran := Function.update s.ran task.run { s.ran task.run with
        starttime := some now
        iperf_duration := statics.iperf_duration
        iperf_HostName := statics.iperf_HostName
        iperf_tcp_parallel := statics.iperf_tcp_parallel
        iperf_downlink_flag := statics.iperf_downlink_flag } }
  | .named | .executing | .finished => s

/-- `onPostExecute` of a `RunIperf` sets the time. -/
def ends (now : ℤ) (task : RunTask) (s : IperfApp) : IperfApp :=
  { s with
    endtime := some now,
    ran := Function.update s.ran task.run { s.ran task.run with endtime := some now } }

def around (now : ℤ) (e : Event) (s : IperfApp) : IperfApp :=
  match e with
  | .background i env => (s.fragment.tasks[i]?.map fun task => assigned env now task s).getD s
  | .runPost i => (s.fragment.tasks[i]?.map fun task => ends now task s).getD s
  | _ => s

section App

/-! The pattern of the dialog for the settings, and the format of `SampleDateFormat`. -/

variable (digit : Char → Option ℕ) (format : ℤ → String)

/-- What `saveConfirmStatus` reads. -/
def confirmStatus (status comment : String) (sessionNumber : Option String) (s : IperfApp) :
    ConfirmStatus where
  starttime := s.starttime.map format
  endtime := s.endtime.map format
  sessionNumber := sessionNumber
  run_number_current := s.fragment.run_number_current
  iperf_run_label := s.settings.statics.iperf_run_label
  iperf_duration := s.settings.statics.iperf_duration
  iperf_HostName := s.settings.statics.iperf_HostName
  iperf_tcp_parallel := s.settings.statics.iperf_tcp_parallel
  iperf_tcpdump_flag := s.settings.statics.iperf_tcpdump_flag
  status := some status
  iperf_downlink_flag := s.settings.statics.iperf_downlink_flag
  comment := comment

def rowStep (s : IperfApp) : RowEvent → Option IperfApp
  | .fragment e now =>
    if Finds s.settings.statics e then
      (step s.fragment e).map fun fragment =>
        let opened := (fragment.ended.drop s.fragment.ended.length).map Ended.object
        { around now e s with fragment, shown := s.shown ++ opened }
    else none
  | .settings e => (screenStep digit s.settings e).map fun settings => { s with settings }
  | .ok i status comment sessionNumber => s.shown[i]?.map fun object => { s with
      shown := s.shown.eraseIdx i
      rows := s.rows ++ [(object, confirmStatus format status comment sessionNumber s)] }

/-- The row tells of its run, which did not end before it started. -/
def RowRight (s : IperfApp) (entry : ℕ × ConfirmStatus) : Prop :=
  ∃ start finish number session tcpdump status comment,
    (s.ran entry.1).starttime = some start ∧ (s.ran entry.1).endtime = some finish ∧
      start ≤ finish ∧
    s.fragment.numbers[entry.1-1]? = some number ∧
    addedValues entry.2.values = [format start, format finish, session, valueOf number,
      orNull (s.ran entry.1).iperf_run_label, valueOf (s.ran entry.1).iperf_duration,
      orNull (s.ran entry.1).iperf_HostName, valueOf (s.ran entry.1).iperf_tcp_parallel, tcpdump,
      status, toString (s.ran entry.1).iperf_downlink_flag, comment]

end App

/-- There is the object of a run, or its dialog. -/
def IperfApp.Live (s : IperfApp) : Prop := s.fragment.iperf3 ≠ none ∨ s.shown ≠ []

/-- Something of a run is left: its task, its object or its dialog. -/
def IperfApp.Open (s : IperfApp) : Prop := s.fragment.tasks ≠ [] ∨ s.Live

instance (s : IperfApp) : Decidable s.Live := inferInstanceAs (Decidable (_ ∨ _))

instance (s : IperfApp) : Decidable s.Open := inferInstanceAs (Decidable (_ ∨ _))

/-- The settings that a row repeats. -/
def repeated (s : MapActivity) : Option String × ℤ × Option String × ℤ × Bool :=
  (s.iperf_run_label, s.iperf_duration, s.iperf_HostName, s.iperf_tcp_parallel,
    s.iperf_downlink_flag)

/-- One run at a time, up to its row: the next one is not started and the settings of a row
are not changed while something is left, the clock is not set back below the start before the
task is over, and `Ok` is pressed after that. -/
def InOrder (digit : Char → Option ℕ) (s : IperfApp) : RowEvent → Prop
  | .fragment (.toggleOn _) _ => ¬s.Open
  | .fragment (.runPost _) now => ∀ start ∈ (s.ran s.fragment.current).starttime, start ≤ now
  | .fragment _ _ => True
  | .settings e => s.Open → ∀ settings ∈ screenStep digit s.settings e, repeated settings.statics =
      repeated s.settings.statics
  | .ok _ _ _ _ => s.fragment.tasks = []

instance (digit : Char → Option ℕ) (s : IperfApp) : ∀ e, Decidable (InOrder digit s e)
  | .fragment (.toggleOn _) _ => inferInstanceAs (Decidable (¬_))
  | .fragment (.runPost _) _ =>
      inferInstanceAs (Decidable (∀ start ∈ (s.ran s.fragment.current).starttime, _))
  | .fragment .toggleOff _ | .fragment (.background _ _) _ | .fragment (.tick _ _) _ | .fragment
      (.timerFinish _) _
  | .fragment (.statusTimerFinish _) _ | .fragment (.check _ _) _ | .fragment (.checkPost _ _) _ =>
      .isTrue trivial
  | .settings e =>
      inferInstanceAs (Decidable (s.Open → ∀ settings ∈ screenStep digit s.settings e, _ = _))
  | .ok _ _ _ _ => inferInstanceAs (Decidable (_ = _))

/-! What holds as long as one run is gone through at a time. -/

/-- The settings of a row, as the run had them. -/
def RunFacts.repeated (facts : RunFacts) : Option String × ℤ × Option String × ℤ × Bool :=
  (facts.iperf_run_label, facts.iperf_duration, facts.iperf_HostName, facts.iperf_tcp_parallel,
    facts.iperf_downlink_flag)

/-- What the last run has. -/
def IperfApp.last (s : IperfApp) : RunFacts := s.ran s.fragment.current

/-- The last run was started, and the statics are still its own. -/
structure Underway (s : IperfApp) : Prop where
  started : ∃ start, s.starttime = some start ∧ s.last.starttime = some start
  settings : repeated s.settings.statics = s.last.repeated

/-- Its task is over. -/
def Over (s : IperfApp) : Prop :=
  ∃ finish, s.endtime = some finish ∧ s.last.endtime = some finish ∧
    ∀ start ∈ s.last.starttime, start ≤ finish

structure Orderly (format : ℤ → String) (s : IperfApp) : Prop where
  once : Once s.fragment
  tasks : ∀ task ∈ s.fragment.tasks, task.run = s.fragment.current
  iperf3 : ∀ k, s.fragment.iperf3 = some k → k = s.fragment.current
  shown : ∀ k ∈ s.shown, k = s.fragment.current ∧ k ∈ s.fragment.ended.map Ended.object
  number : s.Open → s.fragment.numbers[s.fragment.current-1]? = some s.fragment.run_number_current
  labelled : ∀ task ∈ s.fragment.tasks, task.phase = .named ∨ task.phase = .marked →
    s.settings.statics.iperf_run_label = s.last.iperf_run_label
  underway : s.Live → Underway s
  finished : s.Live → s.fragment.tasks = [] → Over s
  rows : ∀ entry ∈ s.rows, RowRight format s entry ∧ entry.1 ≤ s.fragment.current ∧
    (entry.1 = s.fragment.current → s.fragment.tasks = [])

section Orderly

variable {format : ℤ → String} {digit : Char → Option ℕ} {s s' : IperfApp}

theorem Underway.congr (h : Underway s) (hstarttime : s'.starttime = s.starttime)
    (hsettings : s'.settings = s.settings) (hstarted : s'.last.starttime = s.last.starttime)
    (hrepeated : s'.last.repeated = s.last.repeated) : Underway s' := by
  constructor
  · rw [hstarttime, hstarted]
    exact h.started
  · rw [hsettings, hrepeated]
    exact h.settings

/-- A row stays right while its run is left alone. -/
theorem RowRight.mono {entry : ℕ × ConfirmStatus} (h : RowRight format s entry)
    (hran : s'.ran entry.1 = s.ran entry.1)
    (hnumbers : s.fragment.numbers <+: s'.fragment.numbers) : RowRight format s' entry := by
  obtain ⟨start, finish, number, session, tcpdump, status, comment, hstart, hfinish, hle, hnumber,
    hvalues⟩ := h
  refine ⟨start, finish, number, session, tcpdump, status, comment, ?_⟩
  rw [hran]
  refine ⟨hstart, hfinish, hle, ?_, hvalues⟩
  obtain ⟨later, hlater⟩ := hnumbers
  obtain ⟨hlt, -⟩ := List.getElem?_eq_some_iff.mp hnumber
  rw [← hlater, List.getElem?_append_left hlt]
  exact hnumber

/-- There is one task at most. -/
theorem Orderly.single (h : Orderly format s) {i : ℕ} {task : RunTask}
    (htask : s.fragment.tasks[i]? = some task) : s.fragment.tasks = [task] ∧ i = 0 := by
  have hruns := h.once.runs
  have hcurrent := h.tasks
  cases htasks : s.fragment.tasks with
  | nil =>
    rw [htasks] at htask
    cases htask
  | cons first rest =>
    rw [htasks] at htask hruns hcurrent
    have hrest : rest = [] := by
      by_contra hne
      obtain ⟨second, hsecond⟩ := List.exists_mem_of_ne_nil rest hne
      have hfirst : first.run = second.run :=
        (hcurrent first List.mem_cons_self).trans
          (hcurrent second (List.mem_cons_of_mem first hsecond)).symm
      rw [List.map_cons, List.nodup_cons] at hruns
      exact hruns.1 (hfirst ▸ List.mem_map_of_mem hsecond)
    subst hrest
    cases i with
    | zero => exact ⟨by rw [Option.some.inj htask], rfl⟩
    | succ i => cases htask

/-- Before the run makes its object, there is none, and no dialog. -/
theorem Orderly.not_live (h : Orderly format s) {task : RunTask}
    (htasks : s.fragment.tasks = [task]) (hbefore : task.phase.before = true) : ¬s.Live := by
  have hmem : task ∈ s.fragment.tasks := by rw [htasks]; exact List.mem_singleton.mpr rfl
  obtain ⟨hended, hiperf3⟩ := h.once.fresh task hmem hbefore
  have hrun := h.tasks task hmem
  rintro (hsome | hshown)
  · obtain ⟨k, hk⟩ := Option.ne_none_iff_exists'.mp hsome
    exact hiperf3 (by rw [hk, h.iperf3 k hk, hrun])
  · obtain ⟨k, hk⟩ := List.exists_mem_of_ne_nil s.shown hshown
    obtain ⟨hcurrent, hmem⟩ := h.shown k hk
    rw [hcurrent, ← hrun] at hmem
    exact hended hmem

/-- While there is a task, the rows are those of earlier runs. -/
theorem Orderly.rows_of_task (h : Orderly format s) {task : RunTask}
    (htasks : s.fragment.tasks = [task]) (hran : ∀ k, k ≠ s.fragment.current → s'.ran k = s.ran k)
    (hnumbers : s.fragment.numbers <+: s'.fragment.numbers) :
    ∀ entry ∈ s.rows, RowRight format s' entry ∧ entry.1 ≤ s.fragment.current ∧
      entry.1 ≠ s.fragment.current := by
  intro entry hentry
  obtain ⟨hright, hle, hlast⟩ := h.rows entry hentry
  have hne : entry.1 ≠ s.fragment.current := by
    intro heq
    rw [hlast heq] at htasks
    cases htasks
  exact ⟨hright.mono (hran entry.1 hne) hnumbers, hle, hne⟩

/-- The task goes on. -/
theorem Orderly.moved (h : Orderly format s) {task : RunTask} {phase : Phase}
    (htasks : s.fragment.tasks = [task]) (honce : Once s'.fragment)
    (htasks' : s'.fragment.tasks = [{ task with phase }])
    (hnumbers : s'.fragment.numbers = s.fragment.numbers)
    (hnumber : s'.fragment.run_number_current = s.fragment.run_number_current)
    (hended : s'.fragment.ended = s.fragment.ended) (hshown : s'.shown = s.shown)
    (hrows : s'.rows = s.rows)
    (hran : ∀ k, k ≠ s.fragment.current → s'.ran k = s.ran k)
    (hiperf3 : ∀ k, s'.fragment.iperf3 = some k → k = s.fragment.current)
    (hlabelled : phase = .named ∨ phase = .marked →
      s'.settings.statics.iperf_run_label = s'.last.iperf_run_label)
    (hunderway : s'.Live → Underway s') : Orderly format s' := by
  have hcurrent : s'.fragment.current = s.fragment.current := congrArg List.length hnumbers
  have hopen : s.Open := .inl (by rw [htasks]; exact List.cons_ne_nil task [])
  have hrun : task.run = s.fragment.current :=
    h.tasks task (by rw [htasks]; exact List.mem_singleton.mpr rfl)
  constructor
  · exact honce
  · intro task' htask'
    rw [htasks', List.mem_singleton] at htask'
    rw [htask', hcurrent]
    exact hrun
  · intro k hk
    rw [hcurrent]
    exact hiperf3 k hk
  · rw [hshown, hcurrent, hended]
    exact h.shown
  · intro _
    rw [hcurrent, hnumbers, hnumber]
    exact h.number hopen
  · intro task' htask'
    rw [htasks', List.mem_singleton] at htask'
    rw [htask']
    exact hlabelled
  · exact hunderway
  · intro _ hnil
    rw [htasks'] at hnil
    cases hnil
  · intro entry hentry
    rw [hrows] at hentry
    have hprefix : s.fragment.numbers <+: s'.fragment.numbers := by rw [hnumbers]
    obtain ⟨hright, hle, hne⟩ := h.rows_of_task htasks hran hprefix entry hentry
    rw [hcurrent]
    exact ⟨hright, hle, fun heq => absurd heq hne⟩

theorem opened_of_same (fragment : Fragment) (hended : fragment.ended = s.fragment.ended) :
    s.shown ++ (fragment.ended.drop s.fragment.ended.length).map Ended.object = s.shown := by
  rw [hended, List.drop_length, List.map_nil, List.append_nil]

theorem labelled_of_ne {phase : Phase} (hnamed : phase ≠ .named) (hmarked : phase ≠ .marked)
    (P : Prop) (h : phase = .named ∨ phase = .marked) : P := absurd h (not_or.mpr ⟨hnamed, hmarked⟩)

/-- The task goes on without an assignment. -/
theorem Orderly.passed (h : Orderly format s) {task : RunTask} {phase : Phase}
    (htasks : s.fragment.tasks = [task]) (fragment : Fragment) (honce : Once fragment)
    (htasks' : fragment.tasks = [{ task with phase }])
    (hnumbers : fragment.numbers = s.fragment.numbers)
    (hnumber : fragment.run_number_current = s.fragment.run_number_current)
    (hended : fragment.ended = s.fragment.ended) (hiperf3 : fragment.iperf3 = s.fragment.iperf3)
    (hlabelled : phase = .named ∨ phase = .marked →
      s.settings.statics.iperf_run_label = s.last.iperf_run_label) :
    Orderly format { s with fragment } := by
  have hcurrent : fragment.current = s.fragment.current := congrArg List.length hnumbers
  have hlast : IperfApp.last { s with fragment } = s.last := congrArg s.ran hcurrent
  have hiperf3' : ∀ k, fragment.iperf3 = some k → k = s.fragment.current := by
    rw [hiperf3]
    exact h.iperf3
  refine @Orderly.moved format s { s with fragment } h task phase htasks honce htasks' hnumbers
    hnumber hended rfl rfl (fun k _ => rfl) hiperf3' ?_ ?_
  · rw [hlast]
    exact hlabelled
  · intro hlive
    have hunderway := h.underway (hlive.imp_left fun hsome => hiperf3 ▸ hsome)
    exact hunderway.congr rfl rfl (congrArg RunFacts.starttime hlast)
      (congrArg RunFacts.repeated hlast)

/-- A step of the background body, with its assignments. -/
theorem Orderly.background (h : Orderly format s) (env : RunEnv) (now : ℤ) (task : RunTask)
    (htasks : s.fragment.tasks = [task]) (fragment : Fragment)
    (hstep : Iperf.doInBackground env 0 task s.fragment = some fragment)
    (honce : Once fragment) :
    Orderly format { assigned env now task s with
      fragment, shown := s.shown ++
        (fragment.ended.drop s.fragment.ended.length).map Ended.object } := by
  have hmem : task ∈ s.fragment.tasks := by rw [htasks]; exact List.mem_singleton.mpr rfl
  have hrun : task.run = s.fragment.current := h.tasks task hmem
  have hset (task' : RunTask) : s.fragment.tasks.set 0 task' = [task'] := by
    rw [htasks]
    rfl
  unfold Iperf.doInBackground at hstep
  unfold assigned
  cases hphase : task.phase with
  | scheduled =>
    simp only [hphase] at hstep
    cases hrunning : env.running with
    | false =>
      rw [hrunning, if_neg Bool.false_ne_true] at hstep
      cases hstep
      dsimp only
      rw [if_neg Bool.false_ne_true, opened_of_same _ rfl]
      exact h.passed htasks _ honce (hset _) rfl rfl rfl rfl
        (labelled_of_ne (by decide) (by decide) _)
    | true =>
      have hdead := h.not_live htasks (by rw [hphase]; rfl)
      rw [hrunning, if_pos rfl] at hstep
      cases hstep
      dsimp only
      rw [if_pos rfl, opened_of_same _ rfl]
      refine h.moved htasks honce (hset _) rfl rfl rfl rfl rfl ?_ h.iperf3 ?_ fun hlive =>
        absurd hlive hdead
      · intro k hk
        exact Function.update_of_ne (fun heq => hk (heq.trans hrun)) _ _
      · intro _
        change _ = (Function.update s.ran task.run _ s.fragment.current).iperf_run_label
        rw [hrun, Function.update_self]
  | named =>
    simp only [hphase] at hstep
    cases hstep
    dsimp only
    rw [opened_of_same _ rfl]
    exact h.passed htasks _ honce (hset _) rfl rfl rfl rfl fun _ =>
      h.labelled task hmem (.inl hphase)
  | marked =>
    have hlabel := h.labelled task hmem (.inr hphase)
    simp only [hphase] at hstep
    cases hstep
    dsimp only
    rw [opened_of_same _ rfl]
    refine h.moved htasks honce (hset _) rfl rfl rfl rfl rfl ?_ ?_
      (labelled_of_ne (by decide) (by decide) _) ?_
    · intro k hk
      exact Function.update_of_ne (fun heq => hk (heq.trans hrun)) _ _
    · intro k hk
      rw [← Option.some.inj hk]
      exact hrun
    · intro _
      constructor
      · refine ⟨now, rfl, ?_⟩
        change (Function.update s.ran task.run _ s.fragment.current).starttime = _
        rw [hrun, Function.update_self]
      · change _ = (Function.update s.ran task.run _ s.fragment.current).repeated
        rw [hrun, Function.update_self, RunFacts.repeated, repeated]
        dsimp only
        rw [← IperfApp.last, ← hlabel]
        split_ifs
        · rfl
        · rfl
  | executing =>
    simp only [hphase] at hstep
    split_ifs at hstep
    · cases hstep
      dsimp only
      rw [opened_of_same _ rfl]
      exact h.passed htasks _ honce (hset _) rfl rfl rfl rfl
        (labelled_of_ne (by decide) (by decide) _)
    · cases hstep
      dsimp only
      rw [opened_of_same _ rfl]
      exact h.passed htasks _ honce (hset _) rfl rfl rfl rfl
        (labelled_of_ne (by decide) (by decide) _)
  | finished =>
    simp only [hphase] at hstep
    cases hstep

/-- A new run, when nothing is left. -/
theorem Orderly.toggleOn (h : Orderly format s) (hfree : ¬s.Open) (iperf_duration : ℕ)
    (fragment : Fragment)
    (hfragment : fragment = onPreExecute iperf_duration { s.fragment with checked := true })
    (honce : Once fragment) :
    Orderly format { s with fragment } := by
  obtain ⟨htasks, hdead⟩ := not_or.mp hfree
  have htasks : s.fragment.tasks = [] := not_not.mp htasks
  have hiperf3 : fragment.iperf3 = s.fragment.iperf3 := by rw [hfragment]; rfl
  have hnumbers : fragment.numbers = s.fragment.numbers ++ [fragment.run_number_current] := by
    rw [hfragment]; rfl
  have htasks' : fragment.tasks = [{ run := s.fragment.current+1 }] := by
    rw [hfragment]
    change s.fragment.tasks ++ _ = _
    rw [htasks]
    rfl
  have hcurrent : fragment.current = s.fragment.current+1 := by
    rw [Fragment.current, hnumbers]
    exact List.length_append
  have hdead' : ¬IperfApp.Live { s with fragment } := by
    rintro (hsome | hshown)
    · exact hdead (.inl (hiperf3 ▸ hsome))
    · exact hdead (.inr hshown)
  constructor
  · exact honce
  · rw [htasks', hcurrent]
    exact List.forall_mem_singleton.mpr rfl
  · exact fun k hk => absurd (.inl (hk ▸ Option.some_ne_none k)) hdead'
  · exact fun k hk => absurd (.inr (List.ne_nil_of_mem hk)) hdead
  · intro _
    rw [hcurrent, hnumbers, Nat.add_sub_cancel]
    exact List.getElem?_concat_length
  · rw [htasks']
    refine List.forall_mem_singleton.mpr ?_
    rintro (hnamed | hmarked)
    · cases hnamed
    · cases hmarked
  · exact fun hlive => absurd hlive hdead'
  · exact fun hlive => absurd hlive hdead'
  · intro entry hentry
    obtain ⟨hright, hle, -⟩ := h.rows entry hentry
    have hprefix : s.fragment.numbers <+: fragment.numbers := ⟨_, hnumbers.symm⟩
    rw [hcurrent]
    exact ⟨hright.mono rfl hprefix, by omega, fun heq => by omega⟩

/-- The end of the task. -/
theorem Orderly.runPost (h : Orderly format s) (now : ℤ) (task : RunTask)
    (htasks : s.fragment.tasks = [task]) (hclock : ∀ start ∈ s.last.starttime, start ≤ now)
    (fragment : Fragment)
    (hsame : SameObjects { s.fragment with tasks := [] } fragment)
    (hnumber : fragment.run_number_current = s.fragment.run_number_current)
    (honce : Once fragment) :
    Orderly format { ends now task s with fragment } := by
  have hrun : task.run = s.fragment.current :=
    h.tasks task (by rw [htasks]; exact List.mem_singleton.mpr rfl)
  have hopen : s.Open := .inl (by rw [htasks]; exact List.cons_ne_nil task [])
  have hcurrent : fragment.current = s.fragment.current := congrArg List.length hsame.numbers
  have hnumbers : fragment.numbers = s.fragment.numbers := hsame.numbers
  have htasks' : fragment.tasks = [] := hsame.tasks
  have hended : fragment.ended = s.fragment.ended := hsame.ended
  have hiperf3 : fragment.iperf3 = s.fragment.iperf3 := hsame.iperf3
  have hlast : IperfApp.last { ends now task s with fragment } =
      { s.last with endtime := some now } := by
    change Function.update s.ran task.run _ fragment.current = _
    rw [hcurrent, hrun, Function.update_self]
    rfl
  have hlive : IperfApp.Live { ends now task s with fragment } → s.Live :=
    Or.imp_left fun hsome => hiperf3 ▸ hsome
  constructor
  · exact honce
  · rw [htasks']
    exact fun task' h' => absurd h' List.not_mem_nil
  · rw [hiperf3, hcurrent]
    exact h.iperf3
  · rw [hcurrent, hended]
    exact h.shown
  · intro _
    rw [hcurrent, hnumbers, hnumber]
    exact h.number hopen
  · rw [htasks']
    exact fun task' h' => absurd h' List.not_mem_nil
  · intro hl
    have hstarted := congrArg RunFacts.starttime hlast
    have hrepeated := congrArg RunFacts.repeated hlast
    exact (h.underway (hlive hl)).congr rfl rfl hstarted hrepeated
  · intro _ _
    rw [Over, hlast]
    exact ⟨now, rfl, rfl, hclock⟩
  · intro entry hentry
    have hran (k : ℕ) (hk : k ≠ s.fragment.current) : (ends now task s).ran k = s.ran k :=
      Function.update_of_ne (fun heq => hk (heq.trans hrun)) _ _
    have hprefix : s.fragment.numbers <+: fragment.numbers := by rw [hnumbers]
    have hrows := @Orderly.rows_of_task format s { ends now task s with fragment } h task htasks
      hran hprefix
    obtain ⟨hright, hle, -⟩ := hrows entry hentry
    rw [hcurrent]
    exact ⟨hright, hle, fun _ => htasks'⟩

/-- The rest of the callbacks: the object that is let go has its dialog opened. -/
theorem Orderly.idle (h : Orderly format s) (fragment : Fragment)
    (hclose : Closes s.fragment fragment) (honce : Once fragment) :
    Orderly format { s with
      fragment, shown := s.shown ++
        (fragment.ended.drop s.fragment.ended.length).map Ended.object } := by
  have hcurrent : fragment.current = s.fragment.current := congrArg List.length hclose.numbers
  have hshown : ∀ k ∈ s.shown ++ (fragment.ended.drop s.fragment.ended.length).map Ended.object,
      k = s.fragment.current ∧ k ∈ fragment.ended.map Ended.object ∧ s.Live := by
    intro k hk
    rcases hclose.objects with ⟨-, hended⟩ | ⟨e, hobject, -, hended⟩
    · rw [opened_of_same fragment hended] at hk
      rw [hended]
      exact ⟨(h.shown k hk).1, (h.shown k hk).2, .inr (List.ne_nil_of_mem hk)⟩
    · have hlive : s.Live := .inl (by rw [hobject]; exact Option.some_ne_none _)
      rw [hended, List.drop_left] at hk
      rw [hended, List.map_append]
      rcases List.mem_append.mp hk with hk | hk
      · exact ⟨(h.shown k hk).1, List.mem_append_left _ (h.shown k hk).2, hlive⟩
      · rw [List.map_singleton, List.mem_singleton] at hk
        exact ⟨hk ▸ h.iperf3 _ hobject, List.mem_append_right _ (List.mem_singleton.mpr hk), hlive⟩
  have hiperf3 : ∀ k, fragment.iperf3 = some k → s.fragment.iperf3 = some k := by
    intro k hk
    rcases hclose.objects with ⟨hsame, -⟩ | ⟨e, -, hnone, -⟩
    · exact hsame.symm.trans hk
    · rw [hnone] at hk
      cases hk
  have hlive : IperfApp.Live { s with
      fragment, shown := s.shown ++
        (fragment.ended.drop s.fragment.ended.length).map Ended.object } → s.Live := by
    rintro (hsome | hsome)
    · obtain ⟨k, hk⟩ := Option.ne_none_iff_exists'.mp hsome
      exact .inl (by rw [hiperf3 k hk]; exact Option.some_ne_none k)
    · obtain ⟨k, hk⟩ := List.exists_mem_of_ne_nil _ hsome
      exact (hshown k hk).2.2
  have hlast : IperfApp.last { s with
      fragment, shown := s.shown ++
        (fragment.ended.drop s.fragment.ended.length).map Ended.object } = s.last :=
    congrArg s.ran hcurrent
  constructor
  · exact honce
  · rw [hclose.tasks, hcurrent]
    exact h.tasks
  · rw [hcurrent]
    exact fun k hk => h.iperf3 k (hiperf3 k hk)
  · rw [hcurrent]
    exact fun k hk => ⟨(hshown k hk).1, (hshown k hk).2.1⟩
  · intro hopen
    rw [hcurrent, hclose.numbers, hclose.number]
    exact h.number (hopen.imp (fun hne => hclose.tasks ▸ hne) hlive)
  · rw [hlast, hclose.tasks]
    exact h.labelled
  · intro hl
    exact (h.underway (hlive hl)).congr rfl rfl (congrArg RunFacts.starttime hlast)
      (congrArg RunFacts.repeated hlast)
  · intro hl hnil
    rw [Over, hlast]
    exact h.finished (hlive hl) (hclose.tasks ▸ hnil)
  · intro entry hentry
    obtain ⟨hright, hle, hover⟩ := h.rows entry hentry
    rw [hcurrent, hclose.tasks]
    exact ⟨hright.mono rfl (by rw [hclose.numbers]), hle, hover⟩

/-- The settings dialog. -/
theorem Orderly.settings (h : Orderly format s) (settings : Screen)
    (hkeep : s.Open → repeated settings.statics = repeated s.settings.statics) :
    Orderly format { s with settings } where
  once := h.once
  tasks := h.tasks
  iperf3 := h.iperf3
  shown := h.shown
  number := h.number
  labelled task htask hphase := by
    have hlabel : settings.statics.iperf_run_label = s.settings.statics.iperf_run_label :=
      congrArg Prod.fst (hkeep (.inl (List.ne_nil_of_mem htask)))
    exact hlabel.trans (h.labelled task htask hphase)
  underway hlive := ⟨(h.underway hlive).started,
    (hkeep (.inr hlive)).trans (h.underway hlive).settings⟩
  finished := h.finished
  rows := h.rows

/-- The row of a dialog, once the task of its run is over. -/
theorem Orderly.rowRight (h : Orderly format s) (k : ℕ) (hk : k ∈ s.shown)
    (htasks : s.fragment.tasks = []) (status comment : String) (sessionNumber : Option String) :
    RowRight format s (k, confirmStatus format status comment sessionNumber s) := by
  have hlive : s.Live := .inr (List.ne_nil_of_mem hk)
  obtain ⟨⟨start, hstart, hstarted⟩, hsettings⟩ := h.underway hlive
  obtain ⟨finish, hfinish, hended, hle⟩ := h.finished hlive htasks
  have hran : s.ran k = s.last := by rw [(h.shown k hk).1, IperfApp.last]
  have hnumber := h.number (.inr hlive)
  simp only [repeated, RunFacts.repeated, Prod.mk.injEq] at hsettings
  obtain ⟨hlabel, hduration, hhost, hparallel, hdownlink⟩ := hsettings
  refine ⟨start, finish, s.fragment.run_number_current, orNull sessionNumber,
    toString s.settings.statics.iperf_tcpdump_flag,
    status, comment, ?_⟩
  dsimp only
  rw [hran, (h.shown k hk).1]
  refine ⟨hstarted, hended, hle start hstarted, hnumber, ?_⟩
  rw [ConfirmStatus.values, confirmStatus]
  dsimp only
  rw [hstart, hfinish, hlabel, hduration, hhost, hparallel, hdownlink]
  rfl

/-- `Ok`. -/
theorem Orderly.ok (h : Orderly format s) (i k : ℕ) (hk : s.shown[i]? = some k)
    (htasks : s.fragment.tasks = []) (status comment : String) (sessionNumber : Option String) :
    Orderly format { s with
      shown := s.shown.eraseIdx i
      rows := s.rows ++ [(k, confirmStatus format status comment sessionNumber s)] } := by
  have hmem : k ∈ s.shown := List.mem_of_getElem? hk
  have hlive : s.fragment.iperf3 ≠ none ∨ s.shown.eraseIdx i ≠ [] → s.Live := by
    intro hl
    exact .inr (List.ne_nil_of_mem hmem)
  constructor
  · exact h.once
  · exact h.tasks
  · exact h.iperf3
  · exact fun k' hk' => h.shown k' (List.mem_of_mem_eraseIdx hk')
  · exact fun hopen => h.number (hopen.imp_right hlive)
  · exact h.labelled
  · exact fun hl => (h.underway (hlive hl)).congr rfl rfl rfl rfl
  · exact fun hl hnil => h.finished (hlive hl) hnil
  · intro entry hentry
    rcases List.mem_append.mp hentry with hold | hnew
    · exact h.rows entry hold
    · rw [List.mem_singleton.mp hnew]
      exact ⟨h.rowRight k hmem htasks status comment sessionNumber, (h.shown k hmem).1.le, fun _ =>
        htasks⟩

theorem orderly_step (e : RowEvent) (hok : InOrder digit s e)
    (hstep : rowStep digit format s e = some s') (h : Orderly format s) : Orderly format s' := by
  cases e with
  | settings e =>
    obtain ⟨settings, hsettings, rfl⟩ := Option.map_eq_some_iff.mp hstep
    exact h.settings settings fun hopen => hok hopen settings hsettings
  | ok i status comment sessionNumber =>
    obtain ⟨k, hk, rfl⟩ := Option.map_eq_some_iff.mp hstep
    exact h.ok i k hk hok status comment sessionNumber
  | fragment e now =>
    simp only [rowStep] at hstep
    split_ifs at hstep
    obtain ⟨fragment, hfragment, rfl⟩ := Option.map_eq_some_iff.mp hstep
    have honce := once_step e hfragment h.once
    cases taken_of_step hfragment with
    | toggleOn iperf_duration =>
      have hended : (onPreExecute iperf_duration { s.fragment with checked := true }).ended =
          s.fragment.ended := rfl
      rw [opened_of_same _ hended]
      exact h.toggleOn hok iperf_duration _ rfl honce
    | background i env task _ htask hbody =>
      obtain ⟨htasks, rfl⟩ := h.single htask
      rw [around, htask, Option.map_some, Option.getD_some]
      exact h.background env now task htasks fragment hbody honce
    | runPost i task htask =>
      obtain ⟨htasks, rfl⟩ := h.single htask
      have hrest : s.fragment.tasks.eraseIdx 0 = [] := by rw [htasks]; rfl
      rw [hrest] at honce ⊢
      have hsame : SameObjects { s.fragment with tasks := [] }
        (onPostExecute { s.fragment with tasks := [] }) := same_onPostExecute
      rw [around, htask, Option.map_some, Option.getD_some, opened_of_same _ hsame.ended]
      exact h.runPost now task htasks hok _ hsame number_onPostExecute honce
    | _ => exact h.idle _ (closes_step _ (by trivial) hfragment) honce

end Orderly

/-- Before the first run. -/
def IperfApp.begin (statics : MapActivity) (n : ℤ) : IperfApp where
  fragment := { run_number_current := n }
  settings := { statics }

theorem orderly_begin (format : ℤ → String) (statics : MapActivity) (n : ℤ) :
    Orderly format (.begin statics n) where
  once := once_start n
  tasks _ h := absurd h List.not_mem_nil
  iperf3 _ h := by cases h
  shown _ h := absurd h List.not_mem_nil
  number h := by
    rcases h with h | h | h
    · exact absurd rfl h
    · exact absurd rfl h
    · exact absurd rfl h
  labelled _ h := absurd h List.not_mem_nil
  underway h := by
    rcases h with h | h
    · exact absurd rfl h
    · exact absurd rfl h
  finished h := by
    rcases h with h | h
    · exact absurd rfl h
    · exact absurd rfl h
  rows _ h := absurd h List.not_mem_nil

/-- When one run is gone through at a time, every row tells of the run that its dialog was
opened for. -/
theorem rows_right (digit : Char → Option ℕ) (format : ℤ → String) (statics : MapActivity) (n : ℤ)
    (events : List RowEvent) (s : IperfApp)
    (hrun : runEvents (rowStep digit format) (.begin statics n) events = some s)
    (hok : Along (rowStep digit format) (InOrder digit) (.begin statics n) events) :
    ∀ entry ∈ s.rows, RowRight format s entry := by
  have hlast := runEvents_invariant (rowStep digit format) (InOrder digit) (Orderly format)
    (fun _ e _ => orderly_step e) events _ s hok hrun (orderly_begin format statics n)
  exact fun entry hentry => (hlast.rows entry hentry).1

/-- A run up to `runClient`, started one second after the toggle was switched on. -/
def launched (now : ℤ) : List RowEvent :=
  [.fragment (.toggleOn 60) now, .fragment (.background 0 {}) now, .fragment (.background 0 {}) now,
    .fragment (.background 0 {}) (now+1000)]

/-- `runClient` returns, and the task is over. -/
def returned (now : ℤ) : List RowEvent :=
  [.fragment (.background 0 {}) now, .fragment (.runPost 0) now]

/-- The check that ends the session, and `Ok` in its dialog. -/
def confirmed (now : ℤ) : List RowEvent :=
  [.fragment (.check 0 (some 1)) now, .fragment (.checkPost 0 {}) now, .ok 0 "good" "" (some "12")]

def wholeRun : List RowEvent := launched 0 ++ returned 61000 ++ confirmed 62000

theorem rows_right_whole_run :
    ∃ s, runEvents (rowStep JavaText.latinDigit valueOf) (.begin {} 4) wholeRun = some s ∧
      s.rows.map Prod.fst = [1] ∧ ∀ entry ∈ s.rows, RowRight valueOf s entry := by
  have hrows : (runEvents (rowStep JavaText.latinDigit valueOf) (.begin {} 4) wholeRun).map
      (fun s => s.rows.map Prod.fst) = some [1] := by decide +kernel
  obtain ⟨s, hs, hfst⟩ := Option.map_eq_some_iff.mp hrows
  have hok : Along (rowStep JavaText.latinDigit valueOf) (InOrder JavaText.latinDigit)
      (.begin {} 4) wholeRun := by
    decide +kernel
  exact ⟨s, hs, hfst, rows_right JavaText.latinDigit valueOf {} 4 wholeRun s hs hok⟩

/-- The toggle is switched off, and `Ok` is pressed before `runClient` returns. -/
def stoppedRun (now : ℤ) : List RowEvent :=
  launched now ++ .fragment .toggleOff (now+2000) :: confirmed (now+3000) ++ returned (now+9000)

/-- The row of the first run ends behind its start time, and that of a later one has the end
time of the run before, which lies before its start time. -/
theorem row_before_end :
    (∃ s, runEvents (rowStep JavaText.latinDigit valueOf) (.begin {} 4) (stoppedRun 0) = some s ∧
      ∃ entry ∈ s.rows, addedValues entry.2.values = ["1000"] ∧ ¬RowRight valueOf s entry) ∧
    ∃ s, runEvents (rowStep JavaText.latinDigit valueOf) (.begin {} 4) (wholeRun ++
      stoppedRun 100000) = some s ∧ ∃ entry ∈ s.rows, (addedValues entry.2.values).take 2 =
        ["101000", "61000"] ∧ ¬RowRight valueOf s entry := by
  constructor
  · have hrow : (runEvents (rowStep JavaText.latinDigit valueOf) (.begin {} 4)
        (stoppedRun 0)).bind (fun s => s.rows.getLast?.map fun entry =>
          addedValues entry.2.values) = some ["1000"] := by decide +kernel
    obtain ⟨s, hs, hlast⟩ := Option.bind_eq_some_iff.mp hrow
    obtain ⟨entry, hentry, hvalues⟩ := Option.map_eq_some_iff.mp hlast
    refine ⟨s, hs, entry, List.mem_of_getLast? hentry, hvalues, ?_⟩
    rintro ⟨start, finish, number, session, tcpdump, status, comment, -, -, -, -, hright⟩
    cases (List.cons.inj (hvalues.symm.trans hright)).2
  · have hrow : (runEvents (rowStep JavaText.latinDigit valueOf) (.begin {} 4) (wholeRun ++
        stoppedRun 100000)).bind
        (fun s => s.rows.getLast?.map fun entry => ((addedValues entry.2.values).take 2,
          (s.ran entry.1).endtime)) =
          some (["101000", "61000"], some 109000) := by decide +kernel
    obtain ⟨s, hs, hlast⟩ := Option.bind_eq_some_iff.mp hrow
    obtain ⟨entry, hentry, hpair⟩ := Option.map_eq_some_iff.mp hlast
    obtain ⟨hvalues, hendtime⟩ := Prod.mk.inj hpair
    refine ⟨s, hs, entry, List.mem_of_getLast? hentry, hvalues, ?_⟩
    rintro ⟨start, finish, number, session, tcpdump, status, comment, -, hfinish, -, -, hright⟩
    rw [hright] at hvalues
    cases Option.some.inj (hendtime.symm.trans hfinish)
    exact absurd (List.cons.inj (List.cons.inj hvalues).2).1 (by decide +kernel)

end MmWaveTracker.Iperf
