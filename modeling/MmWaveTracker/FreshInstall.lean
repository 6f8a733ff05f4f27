import MmWaveTracker.DeviceSettings
import MmWaveTracker.TrackerLog

/-! A fresh install: the files as `initializeCommonFiles` writes them and as
`loadDeviceSettings` reads them, and the paths of the logs that are made of what was read. -/
namespace MmWaveTracker.FreshInstall

open JavaText DeviceSettings

/-- Java's case mappings, which know all of Unicode. -/
structure CaseMapping where
  toLowerCase : String → String
  isUpperCase : Char → Bool
  toUpperCase : Char → Char

def capitalize (case : CaseMapping) (s : String) : String :=
  match s.toList with
  | [] => ""
  | first :: rest => if case.isUpperCase first then s
      else String.ofList (case.toUpperCase first :: rest)

def getPhoneName (case : CaseMapping) (manufacturer model : String) : String :=
  if (case.toLowerCase manufacturer).toList <+: (case.toLowerCase model).toList
    then capitalize case model
  else capitalize case manufacturer ++ " " ++ model

structure Date where
  year : ℕ
  month : ℕ
  day : ℕ
  hour : ℕ
  minute : ℕ
  second : ℕ

/-- `SimpleDateFormat("yyyy-MM-dd/HH:mm:ss")`; `number` is how the locale writes a number with
at least so many digits. -/
def format (number : ℕ → ℕ → String) (date : Date) : String :=
  number 4 date.year ++ "-" ++ number 2 date.month ++ "-" ++ number 2 date.day ++ "/" ++
    number 2 date.hour ++ ":" ++ number 2 date.minute ++ ":" ++ number 2 date.second

def pingTarget : String := "cse-5g-dev-web.oit.umn.edu"

/-- The name that is made up for a new device. -/
def deviceName (phoneName date : String) : String := phoneName ++ "_" ++ date

def device (phoneName date : String) : String := "deviceID," ++ deviceName phoneName date ++ "\n"

def commonSettings (phoneName date : String) : String :=
  "fieldName,fieldvalue\n" ++ device phoneName date ++ "pingTarget," ++ pingTarget

/-- The two files that `loadDeviceSettings` reads, as far as they are there. -/
structure ConfigFiles where
  commonSettings : Option String := none
  runNumber : Option String := none

/-- What `new Random().nextInt((max_range - min_range) + 1) + min_range` gives for the first run
number. -/
def firstRunNumber (random : Fin 70001) : ℤ := random.val+10000

/-- The parts of `initializeCommonFiles` about these files. -/
def initializeCommonFiles (phoneName date : String) (random : Fin 70001) (files : ConfigFiles)
    (s : Config) : ConfigFiles × Config :=
  let (text, s) := match files.commonSettings with
    | some text => (text, s)
    | none => (commonSettings phoneName date, { s with device_id := some (device phoneName date) })
  (⟨some text, some (files.runNumber.getD (valueOf (firstRunNumber random)))⟩, s)

/-- A phone on which the app is started for the first time. -/
def firstLaunch (scanner : Scanner) (random : Fin 70001) (phoneName date : String) :
    Except Throwable Bool × Config :=
  let (files, s) := initializeCommonFiles phoneName date random {} {}
  (loadDeviceSettings scanner files.commonSettings files.runNumber).run s

/-- `path` names a file in `dir` itself. -/
def DirectlyInside (dir path : String) : Prop :=
  ∃ name, pathNames path.toList = pathNames dir.toList ++ [name]

structure ReadBack (phoneName date : String) (outcome : Except Throwable Bool × Config) : Prop where
  returns : outcome.1 = .ok true
  device_id : outcome.2.device_id = some (deviceName phoneName date)
  ping_server_target : outcome.2.ping_server_target = pingTarget

def LogsInside {Line : Type} (cfg : LogConfig Line) : Prop :=
  (∀ sessionNumber part, DirectlyInside (getFullPath cfg "") (partPath cfg sessionNumber part)) ∧
    DirectlyInside (getFullPath cfg "") (sessionSummaryPath cfg)

/-- What is read is what was written, and the logs are in the directory that is made for them. -/
def Usable {Line : Type} (cfg : LogConfig Line) (scanner : Scanner) (random : Fin 70001)
    (phoneName date : String) : Prop :=
  ReadBack phoneName date (firstLaunch scanner random phoneName date) ∧
    LogsInside { cfg with
      deviceId := orNull (firstLaunch scanner random phoneName date).2.device_id }

/-! The paths. -/

section Paths

variable {Line : Type} (cfg : LogConfig Line)

/-- A name with a separator in it leads out of the directory. -/
theorem not_directlyInside (filename first rest : String) (c c' : Char)
    (hname : filename = first ++ "/" ++ rest) (hc : c ≠ '/') (hfirst : c ∈ first.toList)
    (hc' : c' ≠ '/') (hrest : c' ∈ rest.toList) :
    ¬DirectlyInside (getFullPath cfg "") (getFullPath cfg filename) := by
  have hdir : ∀ name : String, pathNames (getFullPath cfg name).toList =
      pathNames (cfg.documents ++ "/" ++ appName ++ "/Logs").toList ++ pathNames name.toList := by
    intro name
    rw [← pathNames_append]
    congr 1
    simp [getFullPath]
  have hparts : pathNames filename.toList = pathNames first.toList ++ pathNames rest.toList := by
    rw [← pathNames_append, hname]
    congr 1
    simp
  have hfirst' := List.length_pos_iff.mpr (pathNames_ne_nil first.toList c hc hfirst)
  have hrest' := List.length_pos_iff.mpr (pathNames_ne_nil rest.toList c' hc' hrest)
  rintro ⟨name, hinside⟩
  rw [hdir, hdir, hparts] at hinside
  have hlength := congrArg List.length hinside
  simp only [List.length_append, List.length_singleton, String.toList_empty] at hlength
  have hempty : (pathNames []).length = 0 := by rw [pathNames, List.splitOn_nil]; rfl
  omega

theorem not_directlyInside_of_device (number : ℕ → ℕ → String) (date : Date)
    (phoneName suffix : String) (c : Char) (hc : c ≠ '/') (hsuffix : c ∈ suffix.toList) :
    ¬DirectlyInside (getFullPath cfg "")
      (getFullPath cfg (deviceName phoneName (format number date) ++ suffix)) := by
  let first := phoneName ++ "_" ++ (number 4 date.year ++ "-" ++ number 2 date.month ++ "-" ++
    number 2 date.day)
  let rest := number 2 date.hour ++ ":" ++ number 2 date.minute ++ ":" ++ number 2 date.second ++
    suffix
  have hname : deviceName phoneName (format number date) ++ suffix = first ++ "/" ++ rest := by
    simp only [first, rest, deviceName, format, String.append_assoc]
  have hfirst : '_' ∈ first.toList := by simp [first]
  have hrest : c ∈ rest.toList := by
    rw [String.toList_append]
    exact List.mem_append_right _ hsuffix
  exact not_directlyInside cfg _ first rest '_' c hname (by decide) hfirst hc hrest

/-- The date has a separator in it, so no log is where it should be. -/
theorem logs_nested (number : ℕ → ℕ → String) (date : Date) (phoneName : String)
    (hdevice : cfg.deviceId = deviceName phoneName (format number date)) :
    (∀ sessionNumber part, ¬DirectlyInside (getFullPath cfg "") (partPath cfg sessionNumber part)) ∧
      ¬DirectlyInside (getFullPath cfg "") (sessionSummaryPath cfg) := by
  have hyphen : ∀ rest : String, '-' ∈ ("-" ++ rest).toList := by
    intro rest
    rw [String.toList_append]
    exact List.mem_append_left _ (by decide)
  constructor
  · intro sessionNumber part
    have hpath : partPath cfg sessionNumber part =
        getFullPath cfg (deviceName phoneName (format number date) ++
        ("-" ++ (sessionNumber ++ ("-" ++ (format02 part ++ csvExtension))))) := by
      simp only [partPath, hdevice, String.append_assoc]
    rw [hpath]
    exact not_directlyInside_of_device cfg number date phoneName _ '-' (by decide) (hyphen _)
  · have hpath : sessionSummaryPath cfg =
        getFullPath cfg (deviceName phoneName (format number date) ++
        ("-" ++ ("SessionSummary" ++ csvExtension))) := by
      have hname : ("-SessionSummary":String) = "-" ++ "SessionSummary" := by decide
      simp only [sessionSummaryPath, hdevice, String.append_assoc, hname]
    rw [hpath]
    exact not_directlyInside_of_device cfg number date phoneName _ '-' (by decide) (hyphen _)

end Paths

/-! The settings. -/

/-- A text that fits into a field of a line. -/
def Plain (text : String) : Prop := ',' ∉ text.toList ∧ Unbroken text.toList

theorem Plain.append {x y : String} (hx : Plain x) (hy : Plain y) : Plain (x ++ y) := by
  rw [Plain, String.toList_append]
  exact ⟨fun hm => (List.mem_append.mp hm).elim hx.1 hy.1, hx.2.append hy.2⟩

theorem Plain.of_append {x y : String} (h : Plain (x ++ y)) : Plain x := by
  rw [Plain, String.toList_append] at h
  exact ⟨fun hm => h.1 (List.mem_append_left _ hm), fun hm => h.2.1 (List.mem_append_left _ hm),
    fun hm => h.2.2 (List.mem_append_left _ hm)⟩

instance (text : String) : Decidable (Plain text) := inferInstanceAs (Decidable (_ ∧ _ ∧ _))

/-- What a line gives is a part of it without a comma. -/
theorem plain_of_given (key line value : List Char) (hline : Unbroken line)
    (h : given key line = some value) : Plain (String.ofList value) := by
  unfold given at h
  split_ifs at h
  have hvalue := Option.some.inj h
  have hsub : ∀ c ∈ value, c ∈ line := by
    intro c hc
    rw [← hvalue] at hc
    exact List.mem_of_mem_drop ((List.takeWhile_prefix _).subset hc)
  rw [Plain, String.toList_ofList]
  refine ⟨fun hcomma => ?_, fun hm => hline.1 (hsub _ hm), fun hm => hline.2 (hsub _ hm)⟩
  rw [← hvalue] at hcomma
  exact absurd (List.mem_takeWhile_imp hcomma) (by decide)

theorem plain_of_lastGiven (key : List Char) (lines : List (List Char)) (value : String)
    (hlines : ∀ l ∈ lines, Unbroken l) (h : lastGiven key lines = some value) : Plain value := by
  obtain ⟨cs, hlast, rfl⟩ := Option.map_eq_some_iff.mp h
  obtain ⟨line, hline, hgiven⟩ := List.mem_filterMap.mp (List.mem_of_getLast? hlast)
  exact plain_of_given key line cs (hlines line hline) hgiven

section Launch

variable (scanner : Scanner) (random : Fin 70001) (phoneName date : String)

theorem readInt_firstRunNumber :
    RunNumber.readInt scanner (valueOf (firstRunNumber random)) = some (firstRunNumber random) := by
  have hlt := random.isLt
  apply nextInt_valueOf <;> unfold firstRunNumber <;> omega

theorem firstLaunch_eq : firstLaunch scanner random phoneName date =
    (loadDeviceSettings scanner (some (commonSettings phoneName date))
      (some (valueOf (firstRunNumber random)))).run
      { device_id := some (device phoneName date) } := by
  unfold firstLaunch initializeCommonFiles
  dsimp only [Option.getD_none]

/-- The settings that the lines give, with the first run number. -/
theorem firstLaunch_complete (h : ∀ line ∈ readAllLines (commonSettings phoneName date).toList,
    Complete line) : firstLaunch scanner random phoneName date = (.ok true,
      withRunNumber (firstRunNumber random)
      (learnAll (readAllLines (commonSettings phoneName date).toList)
        { device_id := some (device phoneName date) })) := by
  have hload := loadDeviceSettings_complete scanner _ (some (valueOf (firstRunNumber random)))
    { device_id := some (device phoneName date) } h
  rw [Option.map_some, readInt_firstRunNumber] at hload
  rw [firstLaunch_eq, hload]

theorem complete_of_returns (h : (firstLaunch scanner random phoneName date).1 = .ok true) :
    ∀ line ∈ readAllLines (commonSettings phoneName date).toList, Complete line := by
  by_contra hincomplete
  obtain ⟨t, ht⟩ := loadDeviceSettings_incomplete scanner _ (some (valueOf (firstRunNumber random)))
    { device_id := some (device phoneName date) } hincomplete
  rw [firstLaunch_eq, ht] at h
  cases h

theorem plain_of_readBack
    (h : ReadBack phoneName date (firstLaunch scanner random phoneName date)) :
    Plain (deviceName phoneName date) := by
  have hlines : ∀ l ∈ readAllLines (commonSettings phoneName date).toList, Unbroken l :=
    unbroken_of_mem_linesFrom false [] _ ⟨List.not_mem_nil, List.not_mem_nil⟩
  have hdevice := h.device_id
  rw [firstLaunch_complete scanner random phoneName date
    (complete_of_returns scanner random phoneName date h.returns)] at hdevice
  change (lastGiven deviceIdKey _).or (some (device phoneName date)) =
    some (deviceName phoneName date) at hdevice
  cases hgiven : lastGiven deviceIdKey (readAllLines (commonSettings phoneName date).toList) with
  | some value =>
    rw [hgiven] at hdevice
    cases hdevice
    exact plain_of_lastGiven _ _ _ hlines hgiven
  | none =>
    rw [hgiven] at hdevice
    have hlength := congrArg String.length (Option.some.inj hdevice)
    simp only [device, String.length_append] at hlength
    have hend : 0 < ("\n":String).length := by decide
    omega

end Launch

/-- A line of a key and a value. -/
theorem complete_pair (key value : List Char) (hkey : ',' ∉ key) (hvalue : ',' ∉ value)
    (hne : value ≠ []) : Complete (key ++ ',' :: value) ∧ ∀ s, learn (key ++ ',' :: value) s =
      if key = deviceIdKey then { s with device_id := some (String.ofList value) }
      else if key = pingTargetKey then { s with ping_server_target := String.ofList value }
        else s := by
  have hrun (s : Config) :=
    loadSetting_value key value s hkey (by rwa [trimEnd_of_not_mem ',' value hvalue])
  constructor
  · by_contra hincomplete
    have herror := loadSetting_incomplete _ {} hincomplete
    rw [hrun {}] at herror
    cases herror
  · intro s
    have hpair := loadSetting_pair _ key value [] s (split_pair ',' key value hkey hvalue hne)
    exact (Prod.mk.inj ((hrun s).symm.trans hpair)).2

theorem commonSettings_toList (phoneName date : String) : (commonSettings phoneName date).toList =
    ("fieldName".toList ++ ',' :: "fieldvalue".toList) ++ '\n' ::
      (("deviceID".toList ++ ',' :: (deviceName phoneName date).toList) ++ '\n' ::
        ("pingTarget".toList ++ ',' :: pingTarget.toList)) := by
  have hheader : ("fieldName,fieldvalue\n":String).toList =
      "fieldName".toList ++ ',' :: "fieldvalue".toList ++ ['\n'] := by decide
  have hdevice : ("deviceID,":String).toList = "deviceID".toList ++ [','] := by decide
  have hping : ("pingTarget,":String).toList = "pingTarget".toList ++ [','] := by decide
  have hend : ("\n":String).toList = ['\n'] := by decide
  unfold commonSettings device
  rw [String.toList_append, String.toList_append, String.toList_append, String.toList_append,
    String.toList_append, hheader, hdevice, hping, hend]
  simp only [List.append_assoc, List.cons_append, List.nil_append]

theorem readBack_of_plain (scanner : Scanner) (random : Fin 70001) (phoneName date : String)
    (h : Plain (deviceName phoneName date)) :
    ReadBack phoneName date (firstLaunch scanner random phoneName date) := by
  have hdevice : Unbroken (deviceIdKey ++ ',' :: (deviceName phoneName date).toList) := by
    have hkey : Unbroken (deviceIdKey ++ [',']) := by decide
    have happend := hkey.append h.2
    rwa [List.append_assoc] at happend
  have hlines : readAllLines (commonSettings phoneName date).toList =
      ["fieldName".toList ++ ',' :: "fieldvalue".toList,
      deviceIdKey ++ ',' :: (deviceName phoneName date).toList,
        pingTargetKey ++ ',' :: pingTarget.toList] := by
    rw [commonSettings_toList]
    have hpair : ∀ key value : List Char, key ++ ',' :: value ≠ [] :=
      fun key value => List.append_ne_nil_of_right_ne_nil key (List.cons_ne_nil ',' value)
    exact readAllLines_three _ _ _ (by decide) hdevice (by decide) ⟨hpair _ _, hpair _ _, hpair _ _⟩
  have hne : (deviceName phoneName date).toList ≠ [] := by simp [deviceName]
  obtain ⟨hcomplete₁, hlearn₁⟩ :=
    complete_pair "fieldName".toList "fieldvalue".toList (by decide) (by decide) (by decide)
  obtain ⟨hcomplete₂, hlearn₂⟩ :=
    complete_pair deviceIdKey (deviceName phoneName date).toList (by decide) h.1 hne
  obtain ⟨hcomplete₃, hlearn₃⟩ :=
    complete_pair pingTargetKey pingTarget.toList (by decide) (by decide) (by decide)
  have hcomplete : ∀ line ∈ readAllLines (commonSettings phoneName date).toList, Complete line := by
    rw [hlines]
    simp only [List.forall_mem_cons, List.not_mem_nil, false_imp_iff, implies_true, and_true]
    exact ⟨hcomplete₁, hcomplete₂, hcomplete₃⟩
  rw [firstLaunch_complete scanner random phoneName date hcomplete, hlines, learnAll_cons,
    learnAll_cons, learnAll_cons, hlearn₁, if_neg (by decide), if_neg (by decide), hlearn₂,
    if_pos rfl, hlearn₃, if_neg (by decide), if_pos rfl, String.ofList_toList, String.ofList_toList]
  exact ⟨rfl, rfl, rfl⟩

/-- The settings survive unless the name of the phone has a comma or a line end in it. -/
theorem settings_read_back_iff (number : ℕ → ℕ → String)
    (hnumber : ∀ width n, Plain (number width n))
    (scanner : Scanner) (random : Fin 70001) (phoneName : String) (date : Date) :
    ReadBack phoneName (format number date)
      (firstLaunch scanner random phoneName (format number date)) ↔ Plain phoneName := by
  have hliteral : Plain "_" ∧ Plain "-" ∧ Plain "/" ∧ Plain ":" := by decide
  obtain ⟨hscore, hhyphen, hslash, hcolon⟩ := hliteral
  constructor
  · intro h
    exact (plain_of_readBack scanner random phoneName (format number date) h).of_append.of_append
  · intro h
    have hday : Plain (number 4 date.year ++ "-" ++ number 2 date.month ++ "-" ++
        number 2 date.day) :=
      ((((hnumber _ _).append hhyphen).append (hnumber _ _)).append hhyphen).append (hnumber _ _)
    have hdate : Plain (format number date) :=
      (((((hday.append hslash).append (hnumber _ _)).append hcolon).append (hnumber _ _)).append
        hcolon).append (hnumber _ _)
    exact readBack_of_plain scanner random phoneName (format number date)
      ((h.append hscore).append hdate)

/-- If the settings are read back as they were written, then the device has a name that no
log can be created with. -/
theorem fresh_install_not_usable {Line : Type} (cfg : LogConfig Line) (number : ℕ → ℕ → String)
    (scanner : Scanner) (random : Fin 70001) (phoneName : String) (date : Date) :
    ¬Usable cfg scanner random phoneName (format number date) := by
  rintro ⟨hread, hlogs⟩
  rw [hread.device_id, orNull, Option.getD_some] at hlogs
  have hnested := logs_nested { cfg with deviceId := deviceName phoneName (format number date) }
    number date phoneName rfl
  exact hnested.2 hlogs.2

/-- The case mappings for ASCII. -/
def ascii : CaseMapping where
  toLowerCase s := String.ofList (s.toList.map Char.toLower)
  isUpperCase := Char.isUpper
  toUpperCase := Char.toUpper

def decimal (width n : ℕ) : String :=
  String.ofList (List.replicate (width - (Nat.toDigits 10 n).length) '0' ++ Nat.toDigits 10 n)

def someConfig : LogConfig String where
  maxLinesPerBatch := 100
  maxLinesPerChunk := 10000
  documents := "/storage/emulated/0/Documents"
  deviceId := ""
  header := ""

/-- A phone whose settings are read back, and what becomes of the paths. -/
theorem galaxy_not_usable :
    getPhoneName ascii "samsung" "SM-G991U" = "Samsung SM-G991U" ∧
    firstLaunch asciiScanner 5 "Samsung SM-G991U" "2024-05-17/09:30:00" = (.ok true, {
      device_id := some "Samsung SM-G991U_2024-05-17/09:30:00"
      run_number_initial_value := 10005
      run_number_current := 10005 }) ∧
    format decimal ⟨2024, 5, 17, 9, 30, 0⟩ = "2024-05-17/09:30:00" ∧
    ¬Usable someConfig asciiScanner 5 (getPhoneName ascii "samsung" "SM-G991U")
      (format decimal ⟨2024, 5, 17, 9, 30, 0⟩) := by
  refine ⟨by decide +kernel, by decide +kernel, by decide +kernel, ?_⟩
  rintro ⟨hread, hlogs⟩
  have hdevice : orNull (firstLaunch asciiScanner 5 (getPhoneName ascii "samsung" "SM-G991U")
      (format decimal ⟨2024, 5, 17, 9, 30, 0⟩)).2.device_id =
        "Samsung SM-G991U_2024-05-17/09:30:00" := by decide +kernel
  rw [hdevice] at hlogs
  obtain ⟨name, hname⟩ := hlogs.2
  have hlength := congrArg List.length hname
  revert hlength
  rw [List.length_append, List.length_singleton]
  decide +kernel

end MmWaveTracker.FreshInstall
