import MmWaveTracker.SessionFiles

/-! The CSV files of the app and their headers: the part files and the summary of the
service, and the summary that the iperf dialog keeps. -/
namespace MmWaveTracker

/-! `saveConfirmStatus` of `UI/IperfConfirmDialog.java`. -/

/-- What the dialog reads; a value that is missing throws where it is read. -/
structure ConfirmStatus where
  starttime : Option String
  endtime : Option String
  sessionNumber : Option String
  run_number_current : ℤ
  iperf_run_label : Option String
  iperf_duration : ℤ
  iperf_HostName : Option String
  iperf_tcp_parallel : ℤ
  iperf_tcpdump_flag : Bool
  status : Option String
  iperf_downlink_flag : Bool
  comment : String

def ConfirmStatus.values (c : ConfirmStatus) : List (Option String) :=
  [c.starttime, c.endtime, some (orNull c.sessionNumber), some (valueOf c.run_number_current),
    some (orNull c.iperf_run_label), some (valueOf c.iperf_duration),
      some (orNull c.iperf_HostName),
    some (valueOf c.iperf_tcp_parallel), some (toString c.iperf_tcpdump_flag), c.status,
    some (toString c.iperf_downlink_flag), some c.comment]

/-- The values added before the first exception, which is only logged. -/
def addedValues : List (Option String) → List String
  | some value :: rest => value :: addedValues rest
  | _ => []

def ConfirmStatus.row (c : ConfirmStatus) : String :=
  String.intercalate csvDelimieter (addedValues c.values)

def iperfSummaryHeader : String := "StartTimestamp,EndTimeStamp,SessionID,RunNumber,Labels," ++
  "Duration,ServerHostName,Parallel,TCPDUMP_Client_Flag,Rating,Downlink,Comments"

inductive IperfLine where
  | header
  | row (c : ConfirmStatus)

def IperfLine.text : IperfLine → String
  | .header => iperfSummaryHeader
  | .row c => c.row

def iperfSummaryPath {Line : Type} (cfg : LogConfig Line) : String :=
  getFullPath cfg ("Iperf/" ++ cfg.deviceId ++ "-iPerfSummary" ++ csvExtension)

/-- Whether the row was saved, and the files then. -/
def saveConfirmStatus (cfg : LogConfig FileLine) (ok : Bool) (c : ConfirmStatus)
    (files : FileStore String IperfLine) : Bool × FileStore String IperfLine :=
  if (files (iperfSummaryPath cfg)).isSome then
    match ok, files.append (iperfSummaryPath cfg) [.row c] with
    | true, some files => (true, files)
    | _, _ => (false, files)
  else if ok then (true, files.create (iperfSummaryPath cfg) [.header, .row c])
  else (false, files)

/-! The app: the service, the dialog, and new processes on the same files. -/

structure App where
  cfg : LogConfig FileLine
  header_eq : cfg.header = .header
  service : Service
  iperf : FileStore String IperfLine

inductive AppEvent where
  | service (e : Event)
  | saveConfirmStatus (ok : Bool) (c : ConfirmStatus)
  | restart (maxLinesPerBatch maxLinesPerChunk : ℤ) (documents deviceId : String) (world : World)

def App.installed (maxLinesPerBatch maxLinesPerChunk : ℤ) (documents deviceId : String)
    (world : World) : App where
  cfg := traceConfig maxLinesPerBatch maxLinesPerChunk documents deviceId
  header_eq := rfl
  service := Service.created world fun _ => none
  iperf := fun _ => none

def appStep (A : Android) (a : App) : AppEvent → Option App
  | .service e => (step A a.cfg a.service e).map fun service => { a with service }
  | .saveConfirmStatus ok c => some { a with iperf := (saveConfirmStatus a.cfg ok c a.iperf).2 }
  | .restart maxLinesPerBatch maxLinesPerChunk documents deviceId world => some {
      cfg := traceConfig maxLinesPerBatch maxLinesPerChunk documents deviceId
      header_eq := rfl
      service := { Service.created world (fun _ => none) with
        log := { files := a.service.log.files } }
      iperf := a.iperf }

/-! The kinds of files. -/

def IsPartPath (p : String) : Prop :=
  ∃ (cfg : LogConfig FileLine) (number : String) (part : ℤ), p = partPath cfg number part

def IsSummaryPath (p : String) : Prop := ∃ cfg : LogConfig FileLine, p = sessionSummaryPath cfg

def IsIperfPath (p : String) : Prop := ∃ cfg : LogConfig FileLine, p = iperfSummaryPath cfg

def IsReportRow (line : FileLine) : Prop := ∃ msg text, line = .row msg text

def IsSummaryRow (line : FileLine) : Prop := ∃ summary, line = .summary summary

def IsIperfRow (line : IperfLine) : Prop := ∃ c, line = .row c

section Paths

theorem getLast_append_string (a b : String) (c : Char) (h : b.toList.getLast? = some c) :
    (a ++ b).toList.getLast? = some c := by
  rw [String.toList_append, List.getLast?_append, h]
  rfl

/-- The text of a number ends with a digit. -/
theorem getLast_valueOf (n : ℤ) : ∃ c, (valueOf n).toList.getLast? = some c ∧ c.isDigit = true := by
  have hdigits (m : ℕ) : ∃ c, (Nat.toDigits 10 m).getLast? = some c ∧ c.isDigit = true := by
    have hlast := List.getLast?_eq_some_getLast (Nat.toDigits_ne_nil (b := 10) (n := m))
    exact ⟨_, hlast, Nat.isDigit_of_mem_toDigits (by decide) (by decide)
      (List.mem_of_getLast? hlast)⟩
  rcases n with m | m
  · obtain ⟨c, hc, hdigit⟩ := hdigits m
    refine ⟨c, ?_, hdigit⟩
    change (valueOf (m:ℤ)).toList.getLast? = some c
    rw [valueOf_toList_ofNat, hc]
  · obtain ⟨c, hc, hdigit⟩ := hdigits (m+1)
    refine ⟨c, ?_, hdigit⟩
    rw [valueOf_toList_neg, List.getLast?_cons, hc]
    rfl

theorem getLast_format02 (n : ℤ) : ∃ c, (format02 n).toList.getLast? = some c ∧
    c.isDigit = true := by
  obtain ⟨c, hc, hdigit⟩ := getLast_valueOf n
  unfold format02
  split_ifs
  · exact ⟨c, getLast_append_string "0" _ c hc, hdigit⟩
  · exact ⟨c, hc, hdigit⟩

/-- The name of a part ends with a digit, and those of the two summaries with their kind. -/
theorem IsPartPath.stem {p : String} (h : IsPartPath p) :
    ∃ stem c, p = stem ++ ".csv" ∧ stem.toList.getLast? = some c ∧ c.isDigit = true := by
  obtain ⟨cfg, number, part, rfl⟩ := h
  obtain ⟨c, hc, hdigit⟩ := getLast_format02 part
  refine ⟨getFullPath cfg (cfg.deviceId ++ "-" ++ number ++ "-") ++ format02 part, c, ?_,
    getLast_append_string _ _ c hc, hdigit⟩
  simp only [partPath, getFullPath, csvExtension, String.append_assoc]

theorem IsSummaryPath.stem {p : String} (h : IsSummaryPath p) :
    ∃ stem, p = stem ++ "-Session" ++ "Summary" ++ ".csv" := by
  obtain ⟨cfg, rfl⟩ := h
  refine ⟨getFullPath cfg cfg.deviceId, ?_⟩
  have hname : ("-SessionSummary":String) = "-Session" ++ "Summary" := by decide
  simp only [sessionSummaryPath, getFullPath, csvExtension, String.append_assoc, hname]

theorem IsIperfPath.stem {p : String} (h : IsIperfPath p) :
    ∃ stem, p = stem ++ "-iPerf" ++ "Summary" ++ ".csv" := by
  obtain ⟨cfg, rfl⟩ := h
  refine ⟨getFullPath cfg ("Iperf/" ++ cfg.deviceId), ?_⟩
  have hname : ("-iPerfSummary":String) = "-iPerf" ++ "Summary" := by decide
  simp only [iperfSummaryPath, getFullPath, csvExtension, String.append_assoc, hname]

theorem IsPartPath.ne_summary {p stem : String} (h : IsPartPath p) :
    p ≠ stem ++ "Summary" ++ ".csv" := by
  intro heq
  obtain ⟨stem', c, hp, hc, hdigit⟩ := h.stem
  have hstem : stem' = stem ++ "Summary" := (String.append_left_inj _).mp (hp.symm.trans heq)
  have hy := getLast_append_string stem "Summary" 'y' (by decide)
  rw [← hstem, hc] at hy
  cases hy
  exact absurd hdigit (by decide)

theorem IsSummaryPath.not_iperf {p : String} (h : IsSummaryPath p) : ¬IsIperfPath p := by
  intro h'
  obtain ⟨stem, hp⟩ := h.stem
  obtain ⟨stem', hp'⟩ := h'.stem
  have hstem : stem ++ "-Session" = stem' ++ "-iPerf" :=
    (String.append_left_inj _).mp ((String.append_left_inj _).mp (hp.symm.trans hp'))
  have hn := getLast_append_string stem "-Session" 'n' (by decide)
  have hf := getLast_append_string stem' "-iPerf" 'f' (by decide)
  rw [hstem, hf] at hn
  exact absurd hn (by decide)

theorem IsPartPath.not_summaryPath {p : String} (h : IsPartPath p) : ¬IsSummaryPath p := by
  intro h'
  obtain ⟨stem, hp⟩ := h'.stem
  exact h.ne_summary hp

theorem IsPartPath.not_iperf {p : String} (h : IsPartPath p) : ¬IsIperfPath p := by
  intro h'
  obtain ⟨stem, hp⟩ := h'.stem
  exact h.ne_summary hp

end Paths

/-! The log of the service. -/

/-- The buffer holds rows, and every file is well headed for its kind. -/
structure Neat (log : Log FileLine) : Prop where
  buffer : ∀ line ∈ log.reportLines, IsReportRow line
  parts : FileStore.AllHeaded IsPartPath .header IsReportRow log.files
  summaries : FileStore.AllHeaded IsSummaryPath .summaryHeader IsSummaryRow log.files
  paths : FileStore.OnlyAt (fun p => IsPartPath p ∨ IsSummaryPath p) log.files

section Neat

variable {cfg : LogConfig FileLine} {log log' : Log FileLine}

theorem header_not_row : ¬IsReportRow .header := by
  rintro ⟨msg, text, h⟩
  cases h

theorem summaryHeader_not_row : ¬IsSummaryRow .summaryHeader := by
  rintro ⟨summary, h⟩
  cases h

theorem Neat.added (h : Neat log) (msg : Message) (text : String) :
    Neat (log.added (.row msg text)) := by
  refine { h with buffer := fun line hline => ?_ }
  rcases List.mem_append.mp hline with hline | hline
  · exact h.buffer line hline
  · exact ⟨msg, text, List.mem_singleton.mp hline⟩

theorem Neat.flushed (h : Neat log) (hpath : IsPartPath log.saveFilePath) (hf : Flushed log log') :
    Neat log' := by
  obtain ⟨files, ha, rfl⟩ := hf
  refine ⟨fun _ hline => absurd hline List.not_mem_nil, ?_, ?_, ?_⟩
  · exact h.parts.append header_not_row _ _ (fun _ => h.buffer) ha
  · exact h.summaries.append summaryHeader_not_row _ _ (fun hp =>
      absurd hp hpath.not_summaryPath) ha
  · exact h.paths.append _ (.inl hpath) _ ha

/-- A file that is created with its header. -/
theorem Neat.withFile (h : Neat log) (hheader : cfg.header = .header)
    (hpath : IsPartPath log.saveFilePath) (ok : Bool) :
    Neat (log.withFile cfg ok) := by
  unfold Log.withFile
  split_ifs
  · refine ⟨h.buffer, ?_, ?_, ?_⟩
    · apply h.parts.update
      intro _
      rw [hheader]
      exact ⟨[], rfl, List.not_mem_nil, fun _ hrow => by cases hrow⟩
    · apply h.summaries.update
      exact fun hp => absurd hp hpath.not_summaryPath
    · exact h.paths.update _ (.inl hpath) _
  · exact h

theorem Neat.handleMessage (h : Neat log) (hheader : cfg.header = .header)
    (hpath : IsPartPath log.saveFilePath) (sessionNumber : String) (writes : Writes) (msg : Message)
    (text : String) :
    Neat ((handleMessage cfg sessionNumber writes (.row msg text)).run log).2 := by
  obtain ⟨log₁, log₂, h₁, h₂, hrun⟩ :=
    handleMessage_cases cfg sessionNumber writes (.row msg text) log
  have hfirst : Neat log₁ := by
    rcases h₁ with rfl | hf
    · exact h.added msg text
    · exact (h.added msg text).flushed hpath hf
  rw [hrun]
  rcases h₂ with rfl | rfl
  · exact hfirst
  · have hmoved : Neat (log₁.moved cfg sessionNumber) := { hfirst with }
    exact hmoved.withFile hheader ⟨cfg, sessionNumber, _, rfl⟩ writes.header

theorem Neat.saveUnsavedLogs (h : Neat log) (hpath : IsPartPath log.saveFilePath) (ok : Bool)
    (r : Except Throwable Unit) (hrun : (saveUnsavedLogs ok).run log = (r, log')) : Neat log' := by
  rcases saveUnsavedLogs_cases ok log with ⟨-, hcase⟩ | ⟨log₁, hf, hcase⟩ | ⟨-, hcase⟩ <;>
    rw [hcase] at hrun <;> cases hrun
  · exact h
  · exact h.flushed hpath hf
  · exact h

theorem saveSessionSummaryEntry_cases (ok : Bool) (summary : SessionSummary) (log : Log FileLine) :
    ∃ files, ((saveSessionSummaryEntry ok summary).run log).2 = { log with files } ∧
      (files = log.files ∨
        log.files.append log.saveSessionFilePath [.summary summary] = some files ∨
        files = log.files.create log.saveSessionFilePath [.summaryHeader, .summary summary]) := by
  rw [run_saveSessionSummaryEntry, Java.run_attempt]
  split_ifs
  · rcases writeAppend_cases ok log.saveSessionFilePath [FileLine.summary summary] log with
      ⟨files, -, ha, hw⟩ | ⟨-, hw⟩ <;> rw [hw]
    · exact ⟨files, rfl, .inr (.inl ha)⟩
    · exact ⟨log.files, rfl, .inl rfl⟩
  · cases ok with
    | true => exact ⟨_, rfl, .inr (.inr rfl)⟩
    | false => exact ⟨log.files, rfl, .inl rfl⟩

theorem Neat.saveSessionSummaryEntry (h : Neat log) (hpath : IsSummaryPath log.saveSessionFilePath)
    (ok : Bool) (summary : SessionSummary) :
    Neat ((saveSessionSummaryEntry ok summary).run log).2 := by
  have hnot : ¬IsPartPath log.saveSessionFilePath := fun hp => hp.not_summaryPath hpath
  obtain ⟨files, hrun, rfl | ha | rfl⟩ := saveSessionSummaryEntry_cases ok summary log <;> rw [hrun]
  · exact h
  · refine ⟨h.buffer, ?_, ?_, ?_⟩
    · exact h.parts.append header_not_row _ _ (fun hp => absurd hp hnot) ha
    · refine h.summaries.append summaryHeader_not_row _ _ (fun _ row hrow => ?_) ha
      exact ⟨summary, List.mem_singleton.mp hrow⟩
    · exact h.paths.append _ (.inr hpath) _ ha
  · refine ⟨h.buffer, ?_, ?_, ?_⟩
    · exact h.parts.update _ _ fun hp => absurd hp hnot
    · apply h.summaries.update
      intro _
      refine ⟨[.summary summary], rfl, ?_, fun row hrow => ⟨summary, List.mem_singleton.mp hrow⟩⟩
      intro hmem
      cases List.mem_singleton.mp hmem
    · exact h.paths.update _ (.inr hpath) _

end Neat

/-! The app. -/

structure NeatApp (a : App) : Prop where
  tracked : Tracked a.cfg a.service
  queued : Queued a.service
  log : Neat a.service.log
  iperf : FileStore.AllHeaded IsIperfPath .header IsIperfRow a.iperf
  iperfPaths : FileStore.OnlyAt IsIperfPath a.iperf

section App

variable {A : Android} {cfg : LogConfig FileLine} {s s' : Service} {a a' : App}

theorem isPartPath_saveFilePath (h : Begun cfg s) : IsPartPath s.log.saveFilePath :=
  ⟨cfg, s.world.sessionNumber, s.log.part, h.saveFilePath⟩

/-- One step of the service; whatever is written before the first session is written nowhere. -/
theorem Neat.transition {e : Event} (h : Neat s.log) (hheader : cfg.header = .header)
    (htracked : Tracked cfg s) (hqueued : Queued s) (ht : Transition cfg s e s') : Neat s'.log := by
  cases ht with
  | thread i acts s' t t' move =>
    rw [move.log]
    exact h
  | started ok world idle active current =>
    have hstarted : Neat (Log.started cfg world.sessionNumber s.log.files) :=
      { h with buffer := fun _ hline => absurd hline List.not_mem_nil }
    exact hstarted.withFile hheader ⟨cfg, world.sessionNumber, 1, rfl⟩ ok
  | handled writes msg rest world text idle queue step =>
    have hbegun := htracked.begun (hqueued (by rw [queue]; exact List.cons_ne_nil _ _))
    exact h.handleMessage hheader (isPartPath_saveFilePath hbegun) s.world.sessionNumber writes msg
      text
  | flushed ok log flushing run =>
    have hbegun := htracked.begun (htracked.busy (by rw [flushing]; exact fun h => by cases h))
    exact h.saveUnsavedLogs (isPartPath_saveFilePath hbegun) ok _ run
  | flushFailed ok log e flushing run =>
    have hbegun := htracked.begun (htracked.busy (by rw [flushing]; exact fun h => by cases h))
    exact h.saveUnsavedLogs (isPartPath_saveFilePath hbegun) ok _ run
  | saved ok world summary saving step session =>
    have hbegun := htracked.begun (htracked.busy (by rw [saving]; exact fun h => by cases h))
    exact h.saveSessionSummaryEntry ⟨cfg, hbegun.saveSessionFilePath⟩ ok summary
  | startIgnored ok idle active => exact h
  | stopIgnored source idle active => exact h
  | stopping source i t idle monitoringThread thread active => exact h
  | ui op world idle step => exact h
  | joined i joining monitoringThread ended => exact h

theorem iperfHeader_not_row : ¬IsIperfRow .header := by
  rintro ⟨c, h⟩
  cases h

theorem NeatApp.saveConfirmStatus (h : NeatApp a) (ok : Bool) (c : ConfirmStatus) :
    NeatApp { a with iperf := (saveConfirmStatus a.cfg ok c a.iperf).2 } := by
  have hpath : IsIperfPath (iperfSummaryPath a.cfg) := ⟨a.cfg, rfl⟩
  suffices hfiles : FileStore.AllHeaded IsIperfPath .header IsIperfRow
      (MmWaveTracker.saveConfirmStatus a.cfg ok c a.iperf).2 ∧
      FileStore.OnlyAt IsIperfPath (MmWaveTracker.saveConfirmStatus a.cfg ok c a.iperf).2 by
    exact ⟨h.tracked, h.queued, h.log, hfiles.1, hfiles.2⟩
  unfold MmWaveTracker.saveConfirmStatus
  split_ifs
  · split
    case h_1 files ha =>
      refine ⟨h.iperf.append iperfHeader_not_row _ _ (fun _ row hrow => ?_) ha,
        h.iperfPaths.append _ hpath _ ha⟩
      exact ⟨c, List.mem_singleton.mp hrow⟩
    case h_2 => exact ⟨h.iperf, h.iperfPaths⟩
  · refine ⟨h.iperf.update _ _ fun _ => ?_, h.iperfPaths.update _ hpath _⟩
    refine ⟨[.row c], rfl, ?_, fun row hrow => ⟨c, List.mem_singleton.mp hrow⟩⟩
    intro hmem
    cases List.mem_singleton.mp hmem
  · exact ⟨h.iperf, h.iperfPaths⟩

theorem neatApp_step (e : AppEvent) (hstep : appStep A a e = some a') (h : NeatApp a) :
    NeatApp a' := by
  cases e with
  | service e =>
    obtain ⟨s', hs, rfl⟩ := Option.map_eq_some_iff.mp hstep
    have ht := transition_of_step e hs
    exact ⟨h.tracked.transition ht, h.queued.transition h.tracked ht,
      h.log.transition a.header_eq h.tracked h.queued ht, h.iperf, h.iperfPaths⟩
  | saveConfirmStatus ok c =>
    cases hstep
    exact h.saveConfirmStatus ok c
  | restart maxLinesPerBatch maxLinesPerChunk documents deviceId world =>
    cases hstep
    have hcreated : Tracked (traceConfig maxLinesPerBatch maxLinesPerChunk documents deviceId)
        (Service.created world fun _ => none) := tracked_created world fun _ => none
    refine ⟨{ hcreated with begun := fun hlen => absurd hlen (lt_irrefl 1) }, fun hq =>
      absurd rfl hq, ?_, h.iperf, h.iperfPaths⟩
    exact { h.log with buffer := fun _ hline => absurd hline List.not_mem_nil }

theorem neatApp_installed (maxLinesPerBatch maxLinesPerChunk : ℤ) (documents deviceId : String)
    (world : World) : NeatApp
    (App.installed maxLinesPerBatch maxLinesPerChunk documents deviceId world) where
  tracked := tracked_created world _
  queued := fun hq => absurd rfl hq
  log := by
    refine ⟨fun _ hline => absurd hline List.not_mem_nil, ?_, ?_, fun p hp => absurd rfl hp⟩
    · intro p lines _ hf
      cases hf
    · intro p lines _ hf
      cases hf
  iperf := by
    intro p lines _ hf
    cases hf
  iperfPaths := fun p hp => absurd rfl hp

end App

/-- Every file, of whatever device id and directory, is one of the three kinds and well headed for
it, and the two writers have no file in common. -/
structure CsvFilesHeaded (a : App) : Prop where
  kinds : ∀ p, a.service.log.files p ≠ none → IsPartPath p ∨ IsSummaryPath p
  parts : ∀ p lines, IsPartPath p → a.service.log.files p = some lines →
    FileStore.WellHeaded .header IsReportRow lines
  summaries : ∀ p lines, IsSummaryPath p → a.service.log.files p = some lines →
    FileStore.WellHeaded .summaryHeader IsSummaryRow lines
  iperf : ∀ p lines, a.iperf p = some lines → IsIperfPath p ∧
    FileStore.WellHeaded .header IsIperfRow lines
  apart : ∀ p, a.service.log.files p ≠ none → a.iperf p = none

/-- After any sequence of sessions, rotations, summaries and new processes, whichever writes
failed, every CSV file of the app is absent or has its header, once, before its rows. -/
theorem csv_files_headed (A : Android) (maxLinesPerBatch maxLinesPerChunk : ℤ)
    (documents deviceId : String) (world : World) (events : List AppEvent) (a : App)
    (hrun : runEvents (appStep A) (.installed maxLinesPerBatch maxLinesPerChunk documents deviceId
      world) events = some a) :
    CsvFilesHeaded a := by
  have h : NeatApp a := runEvents_preserves (appStep A) NeatApp
    (fun _ e _ hstep h => neatApp_step e hstep h) events _ a hrun
      (neatApp_installed maxLinesPerBatch maxLinesPerChunk documents deviceId world)
  refine ⟨h.log.paths, h.log.parts, h.log.summaries, fun p lines hf => ?_, ?_⟩
  · have hpath := h.iperfPaths p (by rw [hf]; exact Option.some_ne_none lines)
    exact ⟨hpath, h.iperf p lines hpath hf⟩
  · intro p hp
    by_contra hiperf
    rcases h.log.paths p hp with hpart | hsummary
    · exact hpart.not_iperf (h.iperfPaths p hiperf)
    · exact hsummary.not_iperf (h.iperfPaths p hiperf)

/-- An iperf run that ended before `onPostExecute` had set `endtime`. -/
def unfinishedRun : ConfirmStatus where
  starttime := some "1970-01-01 00:00:00.000 UTC"
  endtime := none
  sessionNumber := none
  run_number_current := 1
  iperf_run_label := some ""
  iperf_duration := 10
  iperf_HostName := some "localhost"
  iperf_tcp_parallel := 1
  iperf_tcpdump_flag := false
  status := none
  iperf_downlink_flag := true
  comment := ""

/-- The header of the tracker log cannot be written, but the two summaries are; then the app comes
up again with another device id, whose log can be created. -/
def failingHeader : List AppEvent :=
  [.service (.startTracing false), .saveConfirmStatus true unfinishedRun,
    .service (.stopTracing .action), .service (.flush true), .service (.save true),
      .saveConfirmStatus true unfinishedRun,
    .restart 60 240000 "/sdcard" "tablet" {}, .service (.startTracing true)]

theorem csv_files_headed_failing_header :
    ∃ a, runEvents (appStep ltePhone) (.installed 60 240000 "/sdcard" "phone" {})
      failingHeader = some a ∧
    (a.service.log.files "/sdcard/mmWaveCapture/Logs/phone-0-01.csv").isSome = false ∧
    (a.service.log.files "/sdcard/mmWaveCapture/Logs/phone-SessionSummary.csv").isSome = true ∧
    (a.iperf "/sdcard/mmWaveCapture/Logs/Iperf/phone-iPerfSummary.csv").isSome = true ∧
    (a.service.log.files "/sdcard/mmWaveCapture/Logs/tablet-0-01.csv").isSome = true ∧
      CsvFilesHeaded a := by
  have hfiles : (runEvents (appStep ltePhone) (.installed 60 240000 "/sdcard" "phone" {})
      failingHeader).map (fun a =>
      ((a.service.log.files "/sdcard/mmWaveCapture/Logs/phone-0-01.csv").isSome,
        (a.service.log.files "/sdcard/mmWaveCapture/Logs/phone-SessionSummary.csv").isSome,
        (a.iperf "/sdcard/mmWaveCapture/Logs/Iperf/phone-iPerfSummary.csv").isSome,
        (a.service.log.files "/sdcard/mmWaveCapture/Logs/tablet-0-01.csv").isSome)) = some (false,
          true, true, true) := by
    decide +kernel
  obtain ⟨a, hrun, ha⟩ := Option.map_eq_some_iff.mp hfiles
  simp only [Prod.mk.injEq] at ha
  exact ⟨a, hrun, ha.1, ha.2.1, ha.2.2.1, ha.2.2.2,
    csv_files_headed ltePhone 60 240000 "/sdcard" "phone" {} failingHeader a hrun⟩

end MmWaveTracker
