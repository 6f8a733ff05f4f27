import MmWaveTracker.IperfDialog
import MmWaveTracker.RunNumber

/-! `config.loadDeviceSettings`: the statics that are read from `CommonSettings.csv` and from
`run_number.conf` when the app comes up. -/
namespace MmWaveTracker.DeviceSettings

open IperfDialog (element)
open JavaText

structure Config where
  device_id : Option String := none
  ping_server_target : String := "cse-5g-dev-web.oit.umn.edu"
  run_number_initial_value : ℤ := 0
  run_number_current : ℤ := 0
  deriving DecidableEq

def deviceIdKey : List Char := "deviceID".toList
def pingTargetKey : List Char := "pingTarget".toList

/-- A file, if it is there and can be decoded. -/
def contents (file : Option String) : Java Config String :=
  match file with
  | some text => pure text
  | none => Java.throw .io

/-- `try { body } catch (IOException e) { return false; }`; any other exception is passed on. -/
def catchIOException (body : Java Config Unit) : Java Config Bool :=
  Java.attempt (body >>= fun _ => pure true) fun e => if e = .io then pure false else Java.throw e

/-- The body of the loop. -/
def loadSetting (setting : List Char) : Java Config Unit := do
  let vals := split ',' setting
  let key ← element vals 0
  if key = deviceIdKey then
    let value ← element vals 1
    Java.modify fun s => { s with device_id := some (String.ofList value) }
  else if key = pingTargetKey then
    let value ← element vals 1
    Java.modify fun s => { s with ping_server_target := String.ofList value }
  else pure ()

def loadSettings : List (List Char) → Java Config Unit
  | [] => pure ()
  | setting :: rest => do
    loadSetting setting
    loadSettings rest

section Methods

variable (scanner : Scanner)

/-- The scanner throws a `NoSuchElementException`, which is no `IOException`. -/
def readInt (file : String) : Java Config ℤ :=
  match RunNumber.readInt scanner file with
  | some n => pure n
  | none => Java.throw .platform

def loadRunNumber (runNumberFile : Option String) : Java Config Unit := do
  let file ← contents runNumberFile
  let n ← readInt scanner file
  Java.modify fun s => { s with run_number_initial_value := n }
  Java.modify fun s => { s with run_number_current := s.run_number_initial_value }

def loadDeviceSettings (commonSettings runNumberFile : Option String) : Java Config Bool := do
  let loaded ← catchIOException do
    let text ← contents commonSettings
    loadSettings (readAllLines text.toList)
  if loaded then catchIOException (loadRunNumber scanner runNumberFile) else return false

end Methods

/-! What the lines say, whatever the code makes of them. -/

def OnlyCommas (cs : List Char) : Prop := ∀ c ∈ cs, c = ','

instance (cs : List Char) : Decidable (OnlyCommas cs) := List.decidableBAll _ _

/-- The value that a line gives to a key. A line that goes on with nothing but commas has none. -/
def given (key line : List Char) : Option (List Char) :=
  if key ++ [','] <+: line ∧ ¬OnlyCommas (line.drop (key.length+1)) then
    some ((line.drop (key.length+1)).takeWhile (· ≠ ','))
  else none

/-- The last line that gives one counts. -/
def lastGiven (key : List Char) (lines : List (List Char)) : Option String :=
  (lines.filterMap (given key)).getLast?.map String.ofList

/-- The line is not made of commas, and no key is left without a value. -/
structure Complete (line : List Char) : Prop where
  key : trimEnd ',' line = [] → line = []
  deviceId : trimEnd ',' line ≠ deviceIdKey
  pingTarget : trimEnd ',' line ≠ pingTargetKey

instance (line : List Char) : Decidable (Complete line) :=
  decidable_of_iff (_ ∧ _ ∧ _) ⟨fun h => ⟨h.1, h.2.1, h.2.2⟩, fun h =>
    ⟨h.key, h.deviceId, h.pingTarget⟩⟩

theorem given_append (key front rest : List Char) (hkey : ',' ∉ key) (hfront : ',' ∉ front) :
    given key (front ++ ',' :: rest) =
      if key = front ∧ ¬OnlyCommas rest then some (rest.takeWhile (· ≠ ',')) else none := by
  have hbegins : key ++ [','] <+: front ++ ',' :: rest ↔ key = front := by
    constructor
    · rintro ⟨after, hafter⟩
      have hwhole : key ++ ',' :: after = front ++ ',' :: rest := by
        rw [← hafter, List.append_assoc]
        rfl
      have hbegin := congrArg (List.takeWhile (· ≠ ',')) hwhole
      rwa [takeWhile_append_cons ',' key after hkey, takeWhile_append_cons ',' front rest hfront]
        at hbegin
    · rintro rfl
      exact ⟨rest, by rw [List.append_assoc]; rfl⟩
  unfold given
  by_cases hsame : key = front
  · have hdrop : (front ++ ',' :: rest).drop (key.length+1) = rest := by
      rw [hsame, ← List.drop_drop, List.drop_left]
      rfl
    rw [hdrop]
    exact if_congr (and_congr_left' hbegins) rfl rfl
  · rw [if_neg fun h => hsame (hbegins.mp h.1), if_neg fun h => hsame h.1]

theorem given_of_not_mem (key line : List Char) (h : ',' ∉ line) : given key line = none := by
  apply if_neg
  rintro ⟨hbegins, -⟩
  exact h (hbegins.subset (List.mem_append_right key (List.mem_singleton_self ',')))

/-- What a line changes. -/
def learn (line : List Char) (s : Config) : Config :=
  { s with
    device_id := ((given deviceIdKey line).map String.ofList).or s.device_id
    ping_server_target := ((given pingTargetKey line).map String.ofList).getD s.ping_server_target }

theorem learn_of_none (line : List Char) (s : Config) (hdevice : given deviceIdKey line = none)
    (hping : given pingTargetKey line = none) : learn line s = s := by
  unfold learn
  rw [hdevice, hping]
  rfl

/-! The body of the loop, by the pieces of the line. -/

theorem loadSetting_nil (line : List Char) (s : Config) (h : split ',' line = []) :
    (loadSetting line).run s = (.error .indexOutOfBounds, s) := by
  unfold loadSetting
  rw [h]
  rfl

theorem loadSetting_single (line key : List Char) (s : Config) (h : split ',' line = [key]) :
    (loadSetting line).run s =
      if key = deviceIdKey ∨ key = pingTargetKey then (.error .indexOutOfBounds, s)
        else (.ok (), s) := by
  unfold loadSetting
  rw [h, Java.bind_ok _ _ s s key rfl]
  by_cases hdevice : key = deviceIdKey
  · rw [if_pos hdevice, if_pos (.inl hdevice)]
    rfl
  · rw [if_neg hdevice]
    by_cases hping : key = pingTargetKey
    · rw [if_pos hping, if_pos (.inr hping)]
      rfl
    · rw [if_neg hping, if_neg (not_or_intro hdevice hping)]
      rfl

theorem loadSetting_pair (line key value : List Char) (rest : List (List Char)) (s : Config)
    (h : split ',' line = key :: value :: rest) : (loadSetting line).run s = (.ok (),
      if key = deviceIdKey then { s with device_id := some (String.ofList value) }
      else if key = pingTargetKey then { s with ping_server_target := String.ofList value }
        else s) := by
  unfold loadSetting
  rw [h, Java.bind_ok _ _ s s key rfl]
  by_cases hdevice : key = deviceIdKey
  · rw [if_pos hdevice, if_pos hdevice]
    rfl
  · rw [if_neg hdevice, if_neg hdevice]
    by_cases hping : key = pingTargetKey
    · rw [if_pos hping, if_pos hping]
      rfl
    · rw [if_neg hping, if_neg hping]
      rfl

theorem comma_not_mem_keys : ',' ∉ deviceIdKey ∧ ',' ∉ pingTargetKey := by decide

/-- A line without commas. -/
theorem loadSetting_plain (line : List Char) (s : Config) (h : Complete line) (hmem : ',' ∉ line) :
    (loadSetting line).run s = (.ok (), learn line s) := by
  have htrim := trimEnd_of_not_mem ',' line hmem
  have hdevice := h.deviceId
  have hping := h.pingTarget
  rw [htrim] at hdevice hping
  rw [loadSetting_single line line s (if_neg hmem), if_neg (not_or_intro hdevice hping),
    learn_of_none line s (given_of_not_mem _ line hmem) (given_of_not_mem _ line hmem)]

theorem loadSetting_key_only (front rest : List Char) (s : Config)
    (h : Complete (front ++ ',' :: rest)) (hfront : ',' ∉ front) (hrest : trimEnd ',' rest = []) :
    (loadSetting (front ++ ',' :: rest)).run s = (.ok (), learn (front ++ ',' :: rest) s) := by
  have hne : front ++ ',' :: rest ≠ [] :=
    List.append_ne_nil_of_right_ne_nil front (List.cons_ne_nil _ _)
  obtain ⟨hkey, hdevice, hping⟩ := h
  have htrim : trimEnd ',' (front ++ ',' :: rest) = front := by
    rw [trimEnd_append_cons ',' front rest hfront, if_pos hrest]
  rw [htrim] at hkey hdevice hping
  have hsplit : split ',' (front ++ ',' :: rest) = [front] := by
    rw [split_eq _ _ hne, htrim, if_neg fun hnil => hne (hkey hnil),
      List.splitOn_eq_singleton hfront]
  have hcommas := (trimEnd_eq_nil_iff ',' rest).mp hrest
  have hgiven (key : List Char) (hcomma : ',' ∉ key) : given key (front ++ ',' :: rest) = none := by
    rw [given_append key front rest hcomma hfront, if_neg fun hand => hand.2 hcommas]
  rw [loadSetting_single _ front s hsplit, if_neg (not_or_intro hdevice hping),
    learn_of_none _ s (hgiven _ comma_not_mem_keys.1) (hgiven _ comma_not_mem_keys.2)]

theorem loadSetting_value (front rest : List Char) (s : Config) (hfront : ',' ∉ front)
    (hrest : trimEnd ',' rest ≠ []) :
    (loadSetting (front ++ ',' :: rest)).run s = (.ok (), learn (front ++ ',' :: rest) s) := by
  have hne : rest ≠ [] := by
    rintro rfl
    exact hrest rfl
  obtain ⟨parts, hparts⟩ := splitOn_head ',' (trimEnd ',' rest)
  have hsplit : split ',' (front ++ ',' :: rest) = front :: rest.takeWhile (· ≠ ',') :: parts := by
    rw [split_cons ',' front rest hfront hrest, split_eq _ _ hne, if_neg hrest, hparts,
      takeWhile_trimEnd]
  have hcommas : ¬OnlyCommas rest := mt (trimEnd_eq_nil_iff ',' rest).mpr hrest
  have hgiven (key : List Char) (hcomma : ',' ∉ key) : given key (front ++ ',' :: rest) =
      if key = front then some (rest.takeWhile (· ≠ ',')) else none := by
    rw [given_append key front rest hcomma hfront]
    by_cases hsame : key = front
    · rw [if_pos ⟨hsame, hcommas⟩, if_pos hsame]
    · rw [if_neg fun hand => hsame hand.1, if_neg hsame]
  rw [loadSetting_pair _ front _ parts s hsplit, learn, hgiven _ comma_not_mem_keys.1,
    hgiven _ comma_not_mem_keys.2]
  by_cases hdevice : front = deviceIdKey
  · rw [hdevice, if_pos rfl, if_pos rfl, if_neg (by decide)]
    rfl
  · rw [if_neg hdevice, if_neg (Ne.symm hdevice)]
    by_cases hping : front = pingTargetKey
    · rw [if_pos hping, if_pos hping.symm]
      rfl
    · rw [if_neg hping, if_neg (Ne.symm hping)]
      rfl

theorem loadSetting_complete (line : List Char) (s : Config) (h : Complete line) :
    (loadSetting line).run s = (.ok (), learn line s) := by
  by_cases hmem : ',' ∈ line
  · obtain ⟨front, rest, rfl, hfront⟩ := List.eq_append_cons_of_mem hmem
    by_cases hrest : trimEnd ',' rest = []
    · exact loadSetting_key_only front rest s h hfront hrest
    · exact loadSetting_value front rest s hfront hrest
  · exact loadSetting_plain line s h hmem

theorem loadSetting_incomplete (line : List Char) (s : Config) (h : ¬Complete line) :
    (loadSetting line).run s = (.error .indexOutOfBounds, s) := by
  have hne : line ≠ [] := by
    rintro rfl
    exact h (by decide)
  have hkey (key : List Char) (hcomma : ',' ∉ key) (hnil : key ≠ [])
      (htrim : trimEnd ',' line = key) : split ',' line = [key] := by
    rw [split_eq _ _ hne, htrim, if_neg hnil, List.splitOn_eq_singleton hcomma]
  by_cases hnil : trimEnd ',' line = []
  · apply loadSetting_nil
    rw [split_eq _ _ hne, if_pos hnil]
  · by_cases hdevice : trimEnd ',' line = deviceIdKey
    · rw [loadSetting_single line _ s (hkey _ comma_not_mem_keys.1 (by decide) hdevice),
        if_pos (.inl rfl)]
    · by_cases hping : trimEnd ',' line = pingTargetKey
      · rw [loadSetting_single line _ s (hkey _ comma_not_mem_keys.2 (by decide) hping),
          if_pos (.inr rfl)]
      · exact absurd ⟨fun h => absurd h hnil, hdevice, hping⟩ h

/-! All lines. -/

/-- What the lines change, the last one that gives a value last. -/
def learnAll (lines : List (List Char)) (s : Config) : Config :=
  { s with
    device_id := (lastGiven deviceIdKey lines).or s.device_id
    ping_server_target := (lastGiven pingTargetKey lines).getD s.ping_server_target }

theorem lastGiven_cons (key line : List Char) (lines : List (List Char)) :
    lastGiven key (line :: lines) = (lastGiven key lines).or ((given key line).map String.ofList) :=
      by
  unfold lastGiven
  cases hline : given key line with
  | none =>
    rw [List.filterMap_cons_none hline, Option.map_none, Option.or_none]
  | some value =>
    rw [List.filterMap_cons_some hline, List.getLast?_cons]
    cases (lines.filterMap (given key)).getLast? <;> rfl

theorem learnAll_cons (line : List Char) (lines : List (List Char)) (s : Config) :
    learnAll (line :: lines) s = learnAll lines (learn line s) := by
  unfold learnAll learn
  rw [lastGiven_cons, lastGiven_cons, Option.or_assoc]
  cases lastGiven pingTargetKey lines <;> rfl

theorem loadSettings_complete (lines : List (List Char)) (s : Config)
    (h : ∀ line ∈ lines, Complete line) :
    (loadSettings lines).run s = (.ok (), learnAll lines s) := by
  induction lines generalizing s with
  | nil => rfl
  | cons line lines ih =>
    have hline := loadSetting_complete line s (h line List.mem_cons_self)
    rw [loadSettings, Java.bind_ok _ _ _ _ () hline, ih _ fun l hl =>
      h l (List.mem_cons_of_mem line hl), learnAll_cons]

theorem loadSettings_incomplete (lines : List (List Char)) (s : Config)
    (h : ¬∀ line ∈ lines, Complete line) :
    ∃ t, (loadSettings lines).run s = (.error .indexOutOfBounds, t) := by
  induction lines generalizing s with
  | nil => exact absurd (fun line hline => (List.not_mem_nil hline).elim) h
  | cons line lines ih =>
    rw [loadSettings]
    by_cases hline : Complete line
    · have hrest : ¬∀ l ∈ lines, Complete l :=
        fun hall => h (List.forall_mem_cons.mpr ⟨hline, hall⟩)
      obtain ⟨t, ht⟩ := ih (learn line s) hrest
      exact ⟨t, (Java.bind_ok _ _ _ _ () (loadSetting_complete line s hline)).trans ht⟩
    · exact ⟨s, Java.bind_error _ _ _ _ _ (loadSetting_incomplete line s hline)⟩

section Outcome

variable (scanner : Scanner)

def withRunNumber (n : ℤ) (s : Config) : Config :=
  { s with run_number_initial_value := n, run_number_current := n }

theorem catchIOException_ok (body : Java Config Unit) (s t : Config)
    (h : body.run s = (.ok (), t)) : (catchIOException body).run s = (.ok true, t) := by
  unfold catchIOException
  rw [Java.run_attempt, Java.bind_ok _ _ _ _ () h]
  rfl

theorem catchIOException_io (body : Java Config Unit) (s t : Config)
    (h : body.run s = (.error .io, t)) : (catchIOException body).run s = (.ok false, t) := by
  unfold catchIOException
  rw [Java.run_attempt, Java.bind_error _ _ _ _ .io h]
  rfl

theorem catchIOException_error (body : Java Config Unit) (s t : Config) (e : Throwable)
    (he : e ≠ .io) (h : body.run s = (.error e, t)) :
    (catchIOException body).run s = (.error e, t) := by
  have hthrow : (if e = .io then pure false else Java.throw e : Java Config Bool) = Java.throw e :=
    if_neg he
  unfold catchIOException
  rw [Java.run_attempt, Java.bind_error _ _ _ _ e h]
  dsimp only
  rw [hthrow]
  rfl

/-- The second half, by what there is to read. -/
theorem loadRunNumber_run (runNumberFile : Option String) (s : Config) :
    (catchIOException (loadRunNumber scanner runNumberFile)).run s =
      match runNumberFile.map (RunNumber.readInt scanner) with
      | some (some n) => (.ok true, withRunNumber n s)
      | some none => (.error .platform, s)
      | none => (.ok false, s) := by
  cases runNumberFile with
  | none => exact catchIOException_io _ s s rfl
  | some file =>
    have hread : ∀ o, RunNumber.readInt scanner file = o →
        readInt scanner file = match o with | some n => pure n | none => Java.throw .platform := by
      rintro o rfl
      rfl
    rw [Option.map_some]
    cases hfile : RunNumber.readInt scanner file with
    | some n =>
      apply catchIOException_ok
      unfold loadRunNumber
      rw [Java.bind_ok _ _ s s file rfl, hread _ hfile, Java.bind_ok _ _ s s n rfl]
      rfl
    | none =>
      apply catchIOException_error _ _ _ _ (by decide)
      unfold loadRunNumber
      rw [Java.bind_ok _ _ s s file rfl, hread _ hfile, Java.bind_error _ _ s s .platform rfl]

theorem loadDeviceSettings_missing (runNumberFile : Option String) (s : Config) :
    (loadDeviceSettings scanner none runNumberFile).run s = (.ok false, s) := by
  have hfirst : (catchIOException (contents none >>= fun text =>
      loadSettings (readAllLines text.toList))).run s =
      (.ok false, s) := catchIOException_io _ s s rfl
  unfold loadDeviceSettings
  rw [Java.bind_ok _ _ _ _ false hfirst]
  rfl

theorem loadDeviceSettings_complete (text : String) (runNumberFile : Option String) (s : Config)
    (h : ∀ line ∈ readAllLines text.toList, Complete line) :
    (loadDeviceSettings scanner (some text) runNumberFile).run s =
      match runNumberFile.map (RunNumber.readInt scanner) with
      | some (some n) => (.ok true, withRunNumber n (learnAll (readAllLines text.toList) s))
      | some none => (.error .platform, learnAll (readAllLines text.toList) s)
      | none => (.ok false, learnAll (readAllLines text.toList) s) := by
  have hfirst : (catchIOException (contents (some text) >>= fun text =>
      loadSettings (readAllLines text.toList))).run s =
      (.ok true, learnAll (readAllLines text.toList) s) :=
    catchIOException_ok _ _ _ (loadSettings_complete _ s h)
  unfold loadDeviceSettings
  rw [Java.bind_ok _ _ _ _ true hfirst, if_pos rfl]
  exact loadRunNumber_run scanner runNumberFile _

theorem loadDeviceSettings_incomplete (text : String) (runNumberFile : Option String) (s : Config)
    (h : ¬∀ line ∈ readAllLines text.toList, Complete line) :
    ∃ t, (loadDeviceSettings scanner (some text) runNumberFile).run s =
      (.error .indexOutOfBounds, t) := by
  obtain ⟨t, ht⟩ := loadSettings_incomplete _ s h
  have hfirst : (catchIOException (contents (some text) >>= fun text =>
      loadSettings (readAllLines text.toList))).run s =
      (.error .indexOutOfBounds, t) := catchIOException_error _ _ _ _ (by decide) ht
  exact ⟨t, Java.bind_error _ _ _ _ _ hfirst⟩

/-- The method returns. With true, the values that the file gives have been loaded and the run
number is the one in its file; with false, the statics are what they were. -/
def Tolerates (commonSettings runNumberFile : Option String) (s : Config) : Prop :=
  ∃ loaded t, (loadDeviceSettings scanner commonSettings runNumberFile).run s = (.ok loaded, t) ∧
    (loaded = true → ∃ text file n, commonSettings = some text ∧ runNumberFile = some file ∧
      (∀ value, lastGiven deviceIdKey (readAllLines text.toList) = some value →
        t.device_id = some value) ∧
      (∀ value, lastGiven pingTargetKey (readAllLines text.toList) = some value →
        t.ping_server_target = value) ∧
      RunNumber.readInt scanner file = some n ∧ t.run_number_initial_value = n ∧
        t.run_number_current = n) ∧
    (loaded = false → t = s)

/-- Without a file for the run number, the lines must give nothing new. -/
def NothingNew (lines : List (List Char)) (s : Config) : Prop :=
  (∀ value ∈ lastGiven deviceIdKey lines, s.device_id = some value) ∧
  ∀ value ∈ lastGiven pingTargetKey lines, s.ping_server_target = value

/-- The lines are complete, and the run number can be read, if there is a file for it. -/
structure Readable (text : String) (runNumberFile : Option String) (s : Config) : Prop where
  lines : ∀ line ∈ readAllLines text.toList, Complete line
  number : ∀ file ∈ runNumberFile, (RunNumber.readInt scanner file).isSome
  absent : runNumberFile = none → NothingNew (readAllLines text.toList) s

theorem learnAll_eq_self_iff (lines : List (List Char)) (s : Config) :
    learnAll lines s = s ↔ NothingNew lines s := by
  obtain ⟨device_id, ping_server_target, initial, current⟩ := s
  unfold learnAll NothingNew
  rw [Config.mk.injEq]
  cases lastGiven deviceIdKey lines <;> cases lastGiven pingTargetKey lines <;> simp [eq_comm]

/-- Without the file of the run number, only what is new makes a difference. -/
theorem tolerates_absent_iff (text : String) (s : Config)
    (hlines : ∀ line ∈ readAllLines text.toList, Complete line) :
    Tolerates scanner (some text) none s ↔ NothingNew (readAllLines text.toList) s := by
  have hrun := loadDeviceSettings_complete scanner text none s hlines
  rw [← learnAll_eq_self_iff]
  constructor
  · rintro ⟨loaded, t, ht, -, hfalse⟩
    rw [hrun] at ht
    cases ht
    exact hfalse rfl
  · intro hsame
    exact ⟨false, _, hrun, fun h => absurd h Bool.false_ne_true, fun _ => hsame⟩

theorem tolerates_number_iff (text file : String) (s : Config)
    (hlines : ∀ line ∈ readAllLines text.toList, Complete line) :
    Tolerates scanner (some text) (some file) s ↔ (RunNumber.readInt scanner file).isSome := by
  have hrun := loadDeviceSettings_complete scanner text (some file) s hlines
  rw [Option.map_some] at hrun
  cases hfile : RunNumber.readInt scanner file with
  | none =>
    rw [hfile] at hrun
    refine iff_of_false ?_ Bool.false_ne_true
    rintro ⟨loaded, t, ht, -⟩
    rw [hrun] at ht
    cases ht
  | some n =>
    rw [hfile] at hrun
    refine iff_of_true ⟨true, _, hrun, fun _ => ⟨text, file, n, rfl, rfl, ?_, ?_, hfile, rfl, rfl⟩,
      fun h => ?_⟩ rfl
    · intro value hvalue
      change (lastGiven deviceIdKey (readAllLines text.toList)).or s.device_id = some value
      rw [hvalue]
      rfl
    · intro value hvalue
      change (lastGiven pingTargetKey (readAllLines text.toList)).getD s.ping_server_target = value
      rw [hvalue]
      rfl
    · cases h

theorem not_tolerates_of_incomplete (text : String) (runNumberFile : Option String) (s : Config)
    (hlines : ¬∀ line ∈ readAllLines text.toList, Complete line) :
    ¬Tolerates scanner (some text) runNumberFile s := by
  rintro ⟨loaded, t, ht, -⟩
  obtain ⟨t', ht'⟩ := loadDeviceSettings_incomplete scanner text runNumberFile s hlines
  rw [ht'] at ht
  cases ht

/-- It is so with every complete file and a number that can be read, and without the first file. -/
theorem tolerates_iff (commonSettings runNumberFile : Option String) (s : Config) :
    Tolerates scanner commonSettings runNumberFile s ↔
      ∀ text ∈ commonSettings, Readable scanner text runNumberFile s := by
  cases commonSettings with
  | none =>
    refine iff_of_true
      ⟨false, s, loadDeviceSettings_missing scanner runNumberFile s, ?_, fun _ => rfl⟩ ?_
    · exact fun h => absurd h Bool.false_ne_true
    · exact fun text h => by cases h
  | some text =>
    have hsome : (∀ text' ∈ some text, Readable scanner text' runNumberFile s) ↔
        Readable scanner text runNumberFile s :=
          ⟨fun h => h text rfl, fun h text' h' => by cases h'; exact h⟩
    rw [hsome]
    by_cases hlines : ∀ line ∈ readAllLines text.toList, Complete line
    · cases runNumberFile with
      | none =>
        rw [tolerates_absent_iff scanner text s hlines]
        exact ⟨fun hnew => ⟨hlines, fun file h => (Option.not_mem_none file h).elim, fun _ => hnew⟩,
          fun h => h.absent rfl⟩
      | some file =>
        rw [tolerates_number_iff scanner text file s hlines]
        constructor
        · intro hnumber
          refine ⟨hlines, fun file' h => ?_, fun h => absurd h (Option.some_ne_none file)⟩
          cases h
          exact hnumber
        · exact fun h => h.number file rfl
    · exact iff_of_false (not_tolerates_of_incomplete scanner text runNumberFile s hlines) fun h =>
        hlines h.lines

/-- For a file without incomplete lines, the run number fares as in the model of the launches. -/
theorem loadDeviceSettings_statics (commonSettings : Option String) (file : String) (s : Config)
    (h : ∀ text ∈ commonSettings, ∀ line ∈ readAllLines text.toList, Complete line) :
    RunNumber.loadDeviceSettings scanner commonSettings.isSome file
        ⟨s.run_number_initial_value, s.run_number_current⟩ =
      match (loadDeviceSettings scanner commonSettings (some file)).run s with
      | (.ok _, t) => some ⟨t.run_number_initial_value, t.run_number_current⟩
      | (.error _, _) => none := by
  cases commonSettings with
  | none =>
    rw [loadDeviceSettings_missing]
    rfl
  | some text =>
    rw [loadDeviceSettings_complete scanner text (some file) s (h text rfl), Option.map_some,
      RunNumber.loadDeviceSettings, Option.isSome_some, if_pos rfl, RunNumber.loadRunNumber]
    cases RunNumber.readInt scanner file <;> rfl

end Outcome

/-- A line of one comma, a key without a value, an empty file for the run number, a number that
is too large, and no such file: an exception four times, and a new name under the result false. -/
theorem settings_not_tolerated :
    ¬Tolerates asciiScanner (some ",") (some "7") {} ∧
      ¬Tolerates asciiScanner (some "deviceID,") (some "7") {} ∧
    ¬Tolerates asciiScanner (some "deviceID,pixel") (some "") {} ∧
    ¬Tolerates asciiScanner (some "deviceID,pixel") (some "2147483648") {} ∧
      ¬Tolerates asciiScanner (some "deviceID,pixel") none {} := by
  have hpixel : ∀ line ∈ readAllLines "deviceID,pixel".toList, Complete line := by decide
  have hunreadable (file : String) (h : RunNumber.readInt asciiScanner file = none) :
      ¬Tolerates asciiScanner (some "deviceID,pixel") (some file) {} := by
    rw [tolerates_number_iff asciiScanner _ file {} hpixel, h]
    exact Bool.false_ne_true
  refine ⟨not_tolerates_of_incomplete asciiScanner "," _ {} (by decide),
    not_tolerates_of_incomplete asciiScanner "deviceID," _ {} (by decide),
    hunreadable "" (by decide), hunreadable "2147483648" (by decide +kernel), ?_⟩
  rw [tolerates_absent_iff asciiScanner _ {} hpixel]
  intro hnothing
  have hgiven : (lastGiven deviceIdKey (readAllLines "deviceID,pixel".toList)).isSome = true := by
    decide
  obtain ⟨value, hvalue⟩ := Option.isSome_iff_exists.mp hgiven
  exact Option.some_ne_none value (hnothing.1 value hvalue).symm

end MmWaveTracker.DeviceSettings
