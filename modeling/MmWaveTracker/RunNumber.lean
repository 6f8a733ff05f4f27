import MmWaveTracker.JavaText
import MmWaveTracker.Iperf
import Mathlib.Data.List.Nodup

/-! The number of an iperf run, in a static of `config` and in `run_number.conf`, over the
lives of several processes. -/
namespace MmWaveTracker.RunNumber

open Iperf (RunEnv constructIperfFileName)
open JavaText (Scanner asciiScanner)

/-- The statics of `config` in a process. -/
structure Statics where
  run_number_initial_value : ℤ := 0
  run_number_current : ℤ := 0
  deriving DecidableEq

/-- How far the last `persistCurrentRunNumber` has come. -/
inductive Persist where
  | called
  | opened
  | complete
  | failed
  deriving DecidableEq

/-- It is on the stack of the main thread. -/
def Persist.running : Persist → Bool
  | .called | .opened => true
  | .complete | .failed => false

/-- The statics of the process of the app, if there is one, and `run_number.conf`; as history what
the launches have loaded, `none` for an exception, and the numbers of the runs. -/
structure Phone where
  statics : Option Statics := none
  file : String
  persist : Persist := .complete
  loaded : List (Option ℤ) := []
  given : List ℤ := []

def installed (file : String) : Phone := { file }

/-- `launch` is `MapActivity.onCreate`, where `CommonSettings.csv` can be read or not; `openFile`
and `write` are what `persistCurrentRunNumber` does, with the number of bytes where `write` does not
return; `death` is that of the process. -/
inductive Event where
  | launch (settings : Bool)
  | incrementRunNumber
  | openFile (returns : Bool)
  | write (bytes : ℕ)
  | death
  deriving DecidableEq

section Methods

variable (scanner : Scanner)

/-- `readInt`; `none` if the scanner throws. -/
def readInt (file : String) : Option ℤ := JavaText.nextInt scanner file.toList

/-- The assignments in the second half of `loadDeviceSettings` and in `getInitialRunNumber`. -/
def loadRunNumber (file : String) : Option Statics :=
  (readInt scanner file).map fun n => { run_number_initial_value := n, run_number_current := n }

/-- The run number's part of `loadDeviceSettings`, which returns early without
`CommonSettings.csv`. -/
def loadDeviceSettings (settings : Bool) (file : String) (statics : Statics) : Option Statics :=
  if settings then loadRunNumber scanner file else some statics

def getInitialRunNumber (file : String) : Option Statics := loadRunNumber scanner file

/-- `onCreate`: the two methods one after the other. -/
def onCreate (settings : Bool) (file : String) (statics : Statics) : Option Statics :=
  (loadDeviceSettings scanner settings file statics).bind fun _ => getInitialRunNumber scanner file

def incrementRunNumber (statics : Statics) : Statics :=
  { statics with run_number_current := wrap32 (statics.run_number_current+1) }

/-- The beginning of the text of the number, up to where `write` came. -/
def written (statics : Statics) (bytes : ℕ) : String :=
  String.ofList ((valueOf statics.run_number_current).toList.take bytes)

def wroteAll (statics : Statics) (bytes : ℕ) : Prop :=
  (valueOf statics.run_number_current).toList.length ≤ bytes

instance (statics : Statics) (bytes : ℕ) : Decidable (wroteAll statics bytes) :=
  inferInstanceAs (Decidable (_ ≤ _))

/-- A launch, in a new process or as another activity in the one there is. An exception that
comes out of `onCreate` is the end of the process. -/
def launched (s : Phone) (settings : Bool) : Phone :=
  let statics := onCreate scanner settings s.file (s.statics.getD {})
  { s with statics, loaded := s.loaded ++ [statics.map (·.run_number_current)] }

/-- Everything but a death takes place in the main thread. -/
def step (s : Phone) : Event → Option Phone
  | .launch settings => if s.persist.running then none else some (launched scanner s settings)
  | .incrementRunNumber =>
    if s.persist.running then none
    else s.statics.map fun statics =>
      let statics := incrementRunNumber statics
      { s with
        statics := some statics
        persist := .called
        given := s.given ++ [statics.run_number_current] }
  | .openFile returns =>
    if s.persist = .called then
      -- opening for writing leaves an empty file
      some (if returns then { s with file := "", persist := .opened }
        else { s with persist := .failed })
    else none
  | .write bytes =>
    if s.persist = .opened then
      s.statics.map fun statics =>
        { s with file := written statics bytes, persist := if wroteAll statics bytes then .complete
          else .failed }
    else none
  | .death =>
    s.statics.map fun _ => { s with statics := none, persist := if s.persist.running then .failed
      else s.persist }

end Methods

/-- Every launch has loaded a number, no two runs have the same one, and no two with the same
label the same file. -/
def NeverReused (s : Phone) : Prop :=
  none ∉ s.loaded ∧ s.given.Nodup ∧
    ∀ env env' : RunEnv, env.device_id = env'.device_id →
      env.iperf_run_label = env'.iperf_run_label → s.given.Pairwise fun m n =>
        constructIperfFileName env m true ≠ constructIperfFileName env' n true

/-- The app is launched only if the last `persistCurrentRunNumber` has written the whole number, and
the numbers have not been used up. -/
def Safe (s : Phone) : Event → Prop
  | .launch _ => s.persist = .complete
  | .incrementRunNumber => s.given.length < 4294967296
  | _ => True

instance (s : Phone) : (e : Event) → Decidable (Safe s e)
  | .launch _ => inferInstanceAs (Decidable (_ = _))
  | .incrementRunNumber => inferInstanceAs (Decidable (_ < _))
  | .openFile _ | .write _ | .death => inferInstanceAs (Decidable True)

/-! The names of the log files. -/

theorem extension_unique (name name' : String) (json json' : Bool)
    (h : name ++ (if json then Iperf.jsonExtension else Iperf.txtExtension) =
      name' ++ (if json' then Iperf.jsonExtension else Iperf.txtExtension)) : name = name' := by
  have hlast := congrArg (fun text => text.toList.getLast?) h
  simp only [String.toList_append, List.getLast?_append] at hlast
  have hjson : json = json' := by
    cases json with
    | false =>
      cases json' with
      | false => rfl
      | true => exact absurd hlast (by simp [Iperf.jsonExtension, Iperf.txtExtension])
    | true =>
      cases json' with
      | false => exact absurd hlast (by simp [Iperf.jsonExtension, Iperf.txtExtension])
      | true => rfl
  rw [hjson] at h
  exact (String.append_left_inj _).mp h

theorem constructIperfFileName_inj (env env' : RunEnv) (m n : ℤ)
    (hdevice : env.device_id = env'.device_id) (hlabel : env.iperf_run_label = env'.iperf_run_label)
    (h : constructIperfFileName env m true = constructIperfFileName env' n true) : m = n := by
  have hname := extension_unique _ _ _ _ h
  have hbody := (String.append_left_inj _).mp hname
  have hnumber : env.device_id ++ "-run" ++ valueOf m = env'.device_id ++ "-run" ++ valueOf n := by
    rw [hlabel] at hbody
    split_ifs at hbody
    · exact (String.append_left_inj _).mp ((String.append_left_inj _).mp hbody)
    · exact hbody
  rw [hdevice] at hnumber
  exact valueOf_injective m n ((String.append_right_inj _).mp hnumber)

/-! The numbers in a run of the system. -/

/-- The number of the `i`-th run. -/
def nth (n₀ : ℤ) (i : ℕ) : ℤ := wrap32 (n₀+1+i)

theorem wrap32_range (x : ℤ) : -2147483648 ≤ wrap32 x ∧ wrap32 x < 2147483648 := by
  unfold wrap32
  omega

theorem nth_injective (n₀ : ℤ) (i j : ℕ) (hi : i < 4294967296) (hj : j < 4294967296)
    (h : nth n₀ i = nth n₀ j) : i = j := by
  unfold nth wrap32 at h
  omega

theorem nodup_nth (n₀ : ℤ) (k : ℕ) (hk : k ≤ 4294967296) : ((List.range k).map (nth n₀)).Nodup := by
  refine List.Nodup.map_on ?_ List.nodup_range
  intro i hi j hj h
  rw [List.mem_range] at hi hj
  exact nth_injective n₀ i j (by omega) (by omega) h

/-- The invariant: the numbers come one after the other, the process has the last one, and so
has the file if it was written to the end. -/
structure Counted (scanner : Scanner) (n₀ : ℤ) (s : Phone) : Prop where
  given : s.given = (List.range s.given.length).map (nth n₀)
  enough : s.given.length ≤ 4294967296
  file : s.persist = .complete → readInt scanner s.file = some (wrap32 (n₀+s.given.length))
  current : ∀ statics, s.statics = some statics →
    statics.run_number_current = wrap32 (n₀+s.given.length)
  loaded : none ∉ s.loaded

section Steps

variable {scanner : Scanner} {n₀ : ℤ} {s s' : Phone}

theorem Counted.neverReused (h : Counted scanner n₀ s) : NeverReused s := by
  have hnodup : s.given.Nodup := by
    rw [h.given]
    exact nodup_nth n₀ s.given.length h.enough
  refine ⟨h.loaded, hnodup, ?_⟩
  intro env env' hdevice hlabel
  refine hnodup.imp ?_
  intro m n hne hname
  exact hne (constructIperfFileName_inj env env' m n hdevice hlabel hname)

theorem counted_installed (text : String) (h : readInt scanner text = some n₀) :
    Counted scanner n₀ (installed text) := by
  obtain ⟨hlo, hhi⟩ := JavaText.nextInt_range scanner _ n₀ h
  refine ⟨rfl, Nat.zero_le _, ?_, ?_, List.not_mem_nil⟩
  · intro _
    change readInt scanner text = some (wrap32 (n₀+0))
    rw [Int.add_zero, wrap32_of_range n₀ hlo hhi]
    exact h
  · intro statics hs
    cases hs

theorem readInt_written (statics : Statics) (bytes : ℕ) (n : ℤ)
    (hn : statics.run_number_current = wrap32 n)
    (hall : wroteAll statics bytes) :
    readInt scanner (written statics bytes) = some (wrap32 n) := by
  obtain ⟨hlo, hhi⟩ := wrap32_range n
  unfold readInt written
  rw [String.toList_ofList, List.take_of_length_le hall, hn]
  exact JavaText.nextInt_valueOf scanner _ hlo hhi

theorem onCreate_eq (settings : Bool) (file : String) (statics : Statics) (n : ℤ)
    (h : readInt scanner file = some n) : onCreate scanner settings file statics =
      some { run_number_initial_value := n, run_number_current := n } := by
  have hload : loadRunNumber scanner file = some
      { run_number_initial_value := n, run_number_current := n } := by
    rw [loadRunNumber, h, Option.map_some]
  unfold onCreate loadDeviceSettings getInitialRunNumber
  rw [hload]
  split_ifs <;> rfl

theorem Counted.launch (h : Counted scanner n₀ s) (settings : Bool)
    (hsafe : s.persist = .complete) : Counted scanner n₀ (launched scanner s settings) := by
  have hcreate := onCreate_eq settings s.file (s.statics.getD {}) _ (h.file hsafe)
  unfold launched
  rw [hcreate]
  refine ⟨h.given, h.enough, h.file, ?_, ?_⟩
  · intro statics hs
    cases hs
    rfl
  · intro hmem
    rcases List.mem_append.mp hmem with hmem | hmem
    · exact h.loaded hmem
    · simp at hmem

theorem Counted.increment (h : Counted scanner n₀ s) (statics : Statics)
    (hs : s.statics = some statics) (hlen : s.given.length < 4294967296) :
    Counted scanner n₀ { s with
      statics := some (incrementRunNumber statics)
      persist := .called
      given := s.given ++ [(incrementRunNumber statics).run_number_current] } := by
  have hnext : (incrementRunNumber statics).run_number_current = nth n₀ s.given.length := by
    change wrap32 (statics.run_number_current+1) = _
    rw [h.current statics hs, wrap32_add_wrap32, nth]
    congr 1
    omega
  have hlength : (s.given ++ [(incrementRunNumber statics).run_number_current]).length =
      s.given.length+1 :=
    List.length_append
  refine ⟨?_, ?_, ?_, ?_, h.loaded⟩
  · change s.given ++ _ = _
    rw [hlength, List.range_succ, List.map_append, ← h.given, hnext]
    rfl
  · rw [hlength]
    exact hlen
  · intro hcomplete
    cases hcomplete
  · intro statics' hs'
    cases hs'
    rw [hlength, hnext, nth]
    congr 1
    push_cast
    omega

/-- The file and the progress of `persistCurrentRunNumber` are all that a step has changed. -/
theorem Counted.store (h : Counted scanner n₀ s) (file : String) (persist : Persist)
    (hfile : persist = .complete → readInt scanner file = some (wrap32 (n₀+s.given.length))) :
    Counted scanner n₀ { s with file, persist } := ⟨h.given, h.enough, hfile, h.current, h.loaded⟩

theorem Counted.death (h : Counted scanner n₀ s) : Counted scanner n₀ { s with
    statics := none, persist := if s.persist.running then .failed else s.persist } := by
  refine ⟨h.given, h.enough, ?_, ?_, h.loaded⟩
  · intro hcomplete
    dsimp only at hcomplete
    split_ifs at hcomplete
    exact h.file hcomplete
  · intro statics hs
    cases hs

theorem counted_step (e : Event) (hsafe : Safe s e) (hstep : step scanner s e = some s')
    (h : Counted scanner n₀ s) : Counted scanner n₀ s' := by
  unfold step at hstep
  cases e with
  | launch settings =>
    dsimp only at hstep
    split_ifs at hstep
    cases hstep
    exact h.launch settings hsafe
  | incrementRunNumber =>
    dsimp only at hstep
    split_ifs at hstep
    obtain ⟨statics, hs, rfl⟩ := Option.map_eq_some_iff.mp hstep
    exact h.increment statics hs hsafe
  | openFile returns =>
    dsimp only at hstep
    split_ifs at hstep
    · cases hstep
      exact h.store "" .opened fun hcomplete => by cases hcomplete
    · cases hstep
      exact h.store s.file .failed fun hcomplete => by cases hcomplete
  | write bytes =>
    dsimp only at hstep
    split_ifs at hstep
    obtain ⟨statics, hs, rfl⟩ := Option.map_eq_some_iff.mp hstep
    refine h.store _ _ ?_
    intro hcomplete
    split_ifs at hcomplete with hall
    exact readInt_written statics bytes _ (h.current statics hs) hall
  | death =>
    obtain ⟨statics, hs, rfl⟩ := Option.map_eq_some_iff.mp hstep
    exact h.death

end Steps

end MmWaveTracker.RunNumber
