import MmWaveTracker.Tracing

/-! The row `SessionSummary.toString` against the header of the summary file. -/
namespace MmWaveTracker

/-- The settings at the moment a session begins. -/
structure SummaryConfig where
  samplingRateInMs : ℤ := 1000
  pingEnableFlag : Bool := true
  maxPingLinesPerBatch : ℤ := 30
  pingDelayInMs : ℤ := 1000
  maxLinesPerBatch : ℤ := 60
  screenBrightnessPosition : ℤ := 1
  rrcProbeEnabled : Bool := false

def screenBrightnessOpts : List String := ["Max", "50%", "Min", "Disable"]

/-- The summary with the fields that only its row reads. -/
structure SessionRecord extends SessionSummary where
  samplingIntervalms : ℤ
  pingEnabled : String
  nIperfRuns : ℤ := 0
  runNumbers : String := ""
  uploaded : Bool := false
  tcpDumpCommand : Option String := none
  rrcProbeFlag : Bool := false
  screenBrightnessPosition : ℤ
  trackerBatch : ℤ
  pingBatch : ℤ
  pingInterval : ℤ

namespace SessionRecord

/-- The constructor; it does not assign `rrcProbeFlag`. -/
def new (config : SummaryConfig) (sessionId : String) : SessionRecord where
  sessionId := sessionId
  samplingIntervalms := config.samplingRateInMs
  pingEnabled := if config.pingEnableFlag then "Yes" else "No"
  pingBatch := config.maxPingLinesPerBatch
  pingInterval := config.pingDelayInMs
  trackerBatch := config.maxLinesPerBatch
  screenBrightnessPosition := config.screenBrightnessPosition

def appendIperfRunNumber (s : SessionRecord) (run_number : String) : SessionRecord :=
  { s with runNumbers := s.runNumbers ++ (" " ++ run_number), nIperfRuns := increment s.nIperfRuns }

def endSession (s : SessionRecord) (endTime : String) (parts : ℤ) (tcpDumpCommand : Option String) :
    SessionRecord :=
  { s with
    toSessionSummary := MmWaveTracker.endSession s.toSessionSummary endTime parts, tcpDumpCommand }

end SessionRecord

/-- `LocalDateTime.parse(text, SampleDateFormat).atZone(ZoneId.systemDefault()).toInstant()`, or
`none` where it throws. -/
abbrev DateParser : Type := String → Option ℤ

def parseDate {σ : Type} (parse : DateParser) (text : String) : Java σ ℤ :=
  match parse text with
  | some instant => pure instant
  | none => Java.throw .platform

/-- `opts[position]`. -/
def optionAt {σ : Type} (opts : List String) (position : ℤ) : Java σ String :=
  if 0 ≤ position then
    match opts[position.toNat]? with
    | some opt => pure opt
    | none => Java.throw .indexOutOfBounds
  else Java.throw .indexOutOfBounds

/-- `Duration.between(sTime, curTime).getSeconds()`. -/
def secondsBetween (sTime curTime : ℤ) : ℤ := (curTime-sTime)/1000

/-- A value of the row, before `String.valueOf`. -/
inductive Cell where
  | text (s : Option String)
  | int (n : ℤ)
  | double (x : ℚ)
  | boolean (b : Bool)
  deriving DecidableEq

def Cell.toString (A : Android) : Cell → String
  | .text s => orNull s
  | .int n => valueOf n
  | .double x => A.showDouble x
  | .boolean b => if b then "true" else "false"

def joinAll (cells : List Cell) : Java (List Cell) Unit := Java.modify (· ++ cells)

namespace SessionRecord

variable {σ : Type}

def getPercentageOf5G (parse : DateParser) (curTime : ℤ) (s : SessionRecord) : Java σ ℚ := do
  let startTime ← Java.nonNull s.startTime
  let sTime ← parseDate parse startTime
  let diff := secondsBetween sTime curTime
  if diff ≠ 0 then
    if s.nSecondsIn5G ≥ diff ∨ s.nSecondsIn5G/diff > 99/100 then return 100
    else return s.nSecondsIn5G/diff*100
  else
    let currentNrStatus ← Java.nonNull s.currentNrStatus
    if currentNrStatus = nrConnectedKeyword then return 100
    else if s.lastTime5GSeen = none then return 0
    else return s.nSecondsIn5G

/-- In miles. -/
def getDistanceCovered (s : SessionRecord) : ℚ := s.distanceCoveredInMeters*(62137119/100000000000)

def toStringBody (parse : DateParser) (curTime : ℤ) (s : SessionRecord) : Java (List Cell) Unit :=
    do
  joinAll [.text s.startTime, .text s.endTime, .text (some s.sessionId), .int s.samplingIntervalms,
    .text (some s.pingEnabled), .int s.nTrackerParts, .int s.nHandoffs, .int s.nVerticalHandoffs,
    .int s.nHorizontalHandoffs, .double s.nSecondsIn5G, .double s.getDistanceCovered,
      .int s.nTowers]
  let percentageOf5G ← s.getPercentageOf5G parse curTime
  joinAll [.double percentageOf5G, .boolean s.uploaded, .text s.tcpDumpCommand,
    .text (some s.runNumbers)]
  let screenBrightness ← optionAt screenBrightnessOpts s.screenBrightnessPosition
  joinAll [.text (some screenBrightness), .int s.trackerBatch, .int s.pingBatch,
    .int s.pingInterval, .boolean s.rrcProbeFlag]

/-- The values joined by `toString`: an exception is logged and ends the row where it stands. -/
def row (parse : DateParser) (curTime : ℤ) (s : SessionRecord) : List Cell :=
  ((s.toStringBody parse curTime).run []).2

def toString (A : Android) (parse : DateParser) (curTime : ℤ) (s : SessionRecord) : String :=
  String.intercalate csvDelimieter ((s.row parse curTime).map (Cell.toString A))

end SessionRecord

/-! A session from `StartTracing` to the row that `StopTracing` saves. -/

/-- A call on the current summary; a report is processed in any surrounding state. -/
inductive SummaryCall where
  | processNetworkReport (world : World) (report : Report)
  | appendIperfRunNumber (run_number : String)

/-- What a session is saved with; `endInstant` is the clock of `endSession`, and `curTime` that of
`getPercentageOf5G`. -/
structure SavedSession where
  config : SummaryConfig
  sessionNumber : String
  calls : List SummaryCall
  endInstant : ℤ
  curTime : ℤ
  parts : ℤ
  tcpDumpCommand : Option String

/-- An exception keeps the assignments made before it. -/
def SessionRecord.call (A : Android) (sessionNumber : String) (s : SessionRecord) :
    SummaryCall → SessionRecord
  | .processNetworkReport world r =>
    { s with toSessionSummary :=
        ((processNetworkReport A sessionNumber r).run
          { world with curSession := some s.toSessionSummary }).2.curSession.getD
              s.toSessionSummary }
  | .appendIperfRunNumber run_number => s.appendIperfRunNumber run_number

namespace SavedSession

variable (A : Android) (parse : DateParser) (x : SavedSession)

/-- The summary that `StopTracing` finds. -/
def found : SessionRecord :=
  x.calls.foldl (SessionRecord.call A x.sessionNumber) (.new x.config x.sessionNumber)

def saved : SessionRecord :=
  (x.found A).endSession (A.sampleDateFormat x.endInstant) x.parts x.tcpDumpCommand

def savedRow : List Cell := (x.saved A).row parse x.curTime

end SavedSession

/-! What the header promises. -/

inductive SummaryColumn where
  | startTimestamp | endTimestamp | sessionId | samplingIntervalms | pingEnabled
  | totalNumberOfTrackerParts | totalHandoffs | totalVerticalHandoffs | totalHorizontalHandoffs
  | secondsIn5G | distanceCoveredMeters | totalNumberTowers | percentage5G | uploadedStatus
  | tcpdumpCommand | runNumbers | screenBrightnessSetting | trackerBatch | pingBatch | pingInterval
  | rrcProbeFlag
  deriving DecidableEq

def sessionSummaryHeader : List SummaryColumn :=
  [.startTimestamp, .endTimestamp, .sessionId, .samplingIntervalms, .pingEnabled,
    .totalNumberOfTrackerParts, .totalHandoffs, .totalVerticalHandoffs, .totalHorizontalHandoffs,
    .secondsIn5G, .distanceCoveredMeters, .totalNumberTowers, .percentage5G, .uploadedStatus,
    .tcpdumpCommand, .runNumbers, .screenBrightnessSetting, .trackerBatch, .pingBatch,
    .pingInterval, .rrcProbeFlag]

/-- The percentage of the elapsed seconds spent in 5G, to one point; within the first second it
is all or nothing. -/
structure IsPercentage (nSecondsIn5G : ℚ) (elapsed : ℤ) (connected : Prop) (percentage : ℚ) :
    Prop where
  le : percentage ≤ 100
  share : 0 < elapsed → |percentage - min 100 (nSecondsIn5G/elapsed*100)| ≤ 1
  inside : elapsed = 0 → connected → percentage = 100
  outside : elapsed = 0 → ¬ connected → percentage = 0

namespace SavedSession

variable (A : Android) (parse : DateParser) (x : SavedSession)

def reports : List Report :=
  x.calls.filterMap fun
    | .processNetworkReport _ r => some r
    | .appendIperfRunNumber _ => none

def runs : List String :=
  x.calls.filterMap fun
    | .processNetworkReport _ _ => none
    | .appendIperfRunNumber run_number => some run_number

/-- The session began with its first report. -/
def startText : Option String := x.reports.head?.map fun r => A.sampleDateFormat r.timeStamp

def sTime : Option ℤ := (x.startText A).bind parse

/-- The status of the last report. -/
def Connected : Prop := x.reports.getLast?.map Report.nrStatus = some nrConnectedKeyword

/-- The quantity that a column names, in its unit. -/
def Names : SummaryColumn → Cell → Prop
  | .startTimestamp, v => ∃ text, x.startText A = some text ∧ v = .text (some text)
  | .endTimestamp, v => v = .text (some (A.sampleDateFormat x.endInstant))
  | .sessionId, v => v = .text (some x.sessionNumber)
  | .samplingIntervalms, v => v = .int x.config.samplingRateInMs
  | .pingEnabled, v => v = .text (some (if x.config.pingEnableFlag then "Yes" else "No"))
  | .totalNumberOfTrackerParts, v => v = .int x.parts
  | .totalHandoffs, v => v = .int (x.found A).nHandoffs
  | .totalVerticalHandoffs, v => v = .int (x.found A).nVerticalHandoffs
  | .totalHorizontalHandoffs, v => v = .int (x.found A).nHorizontalHandoffs
  | .secondsIn5G, v => v = .double (x.found A).nSecondsIn5G
  | .distanceCoveredMeters, v => v = .double (x.found A).distanceCoveredInMeters
  | .totalNumberTowers, v => v = .int (x.found A).nTowers
  | .percentage5G, v => ∃ sTime percentage, x.sTime A parse = some sTime ∧ v = .double percentage ∧
      IsPercentage (x.found A).nSecondsIn5G (secondsBetween sTime x.curTime) x.Connected percentage
  | .uploadedStatus, v => v = .boolean false
  | .tcpdumpCommand, v => v = .text x.tcpDumpCommand
  | .runNumbers, v => v = .text (some (String.join (x.runs.map (" " ++ ·))))
  | .screenBrightnessSetting, v => ∃ opt, 0 ≤ x.config.screenBrightnessPosition ∧
      screenBrightnessOpts[x.config.screenBrightnessPosition.toNat]? = some opt ∧
        v = .text (some opt)
  | .trackerBatch, v => v = .int x.config.maxLinesPerBatch
  | .pingBatch, v => v = .int x.config.maxPingLinesPerBatch
  | .pingInterval, v => v = .int x.config.pingDelayInMs
  | .rrcProbeFlag, v => v = .boolean x.config.rrcProbeEnabled

/-- The row has one value for each column, the one it names. -/
def RowMatchesHeader : Prop :=
  List.Forall₂ (x.Names A parse) sessionSummaryHeader (x.savedRow A parse)

/-- When the row comes out right. -/
structure Fits : Prop where
  started : (x.sTime A parse).isSome
  brightness : 0 ≤ x.config.screenBrightnessPosition ∧ x.config.screenBrightnessPosition < 4
  still : (x.found A).distanceCoveredInMeters = 0
  not_probed : x.config.rrcProbeEnabled = false
  first_second : ∀ sTime, x.sTime A parse = some sTime → secondsBetween sTime x.curTime = 0 →
    x.Connected ∨ (x.found A).nSecondsIn5G = 0

end SavedSession

/-! The summary after any calls. -/

/-- What the reports so far have left in the summary. -/
structure ReportedSoFar (A : Android) (sessionNumber : String) (reports : List Report)
    (s : SessionSummary) : Prop where
  sessionId : s.sessionId = sessionNumber
  sessionStarted : s.sessionStarted = !reports.isEmpty
  startTime : s.startTime = reports.head?.map fun r => A.sampleDateFormat r.timeStamp
  currentNrStatus : s.currentNrStatus = reports.getLast?.map Report.nrStatus
  unseen : s.lastTime5GSeen = none → s.nSecondsIn5G = 0

theorem reportedSoFar_of_bookkeeping (A : Android) (sessionNumber : String) (reports : List Report)
    (f : SessionSummary → SessionSummary) (hf : Bookkeeping f) (s : SessionSummary) :
    ReportedSoFar A sessionNumber reports (f s) = ReportedSoFar A sessionNumber reports s := by
  rw [hf s]
  refine propext ⟨?_, ?_⟩
  · rintro ⟨h₁, h₂, h₃, h₄, h₅⟩
    exact ⟨h₁, h₂, h₃, h₄, h₅⟩
  · rintro ⟨h₁, h₂, h₃, h₄, h₅⟩
    exact ⟨h₁, h₂, h₃, h₄, h₅⟩

/-- The identity and the 5G time, up to the count of the report at hand. -/
theorem startSession_fields (sessionId startTime : String) (r : Report) (s : SessionSummary)
    (h : s.sessionId = sessionId) : (startSession s sessionId startTime r).sessionId = sessionId ∧
    (startSession s sessionId startTime r).lastTime5GSeen = s.lastTime5GSeen ∧
    (startSession s sessionId startTime r).nSecondsIn5G = s.nSecondsIn5G := by
  unfold startSession
  split_ifs
  · exact ⟨h, rfl, rfl⟩
  · exact ⟨rfl, rfl, rfl⟩

theorem countTimeIn5G_fields (rate : ℤ) (r : Report) (s : SessionSummary)
    (h : s.lastTime5GSeen = none → s.nSecondsIn5G = 0) :
    (countTimeIn5G s rate r).sessionId = s.sessionId ∧
    ((countTimeIn5G s rate r).lastTime5GSeen = none →
      (countTimeIn5G s rate r).nSecondsIn5G = 0) := by
  by_cases hconnected : r.nrStatus = nrConnectedKeyword
  · rw [countTimeIn5G, if_pos hconnected]
    exact ⟨rfl, fun hnone => absurd hnone (Option.some_ne_none _)⟩
  · rw [countTimeIn5G, if_neg hconnected]
    exact ⟨rfl, h⟩

theorem reportedSoFar_countReport (A : Android) (sessionNumber : String) (rate : ℤ)
    (reports : List Report) (r : Report) (s : SessionSummary)
    (h : ReportedSoFar A sessionNumber reports s) :
    ReportedSoFar A sessionNumber (reports ++ [r]) (countReport A sessionNumber rate r s) := by
  obtain ⟨hstarted, hstart, -, hstatus⟩ := countReport_fields A sessionNumber rate r s
  obtain ⟨hid, hseen, hseconds⟩ :=
    startSession_fields sessionNumber (A.sampleDateFormat r.timeStamp) r s h.sessionId
  obtain ⟨hcount, hunseen⟩ := countTimeIn5G_fields rate r
    (countHandoffs (startSession s sessionNumber (A.sampleDateFormat r.timeStamp) r) r)
    (fun hnone => hseconds.trans (h.unseen (hseen.symm.trans hnone)))
  constructor
  · exact hcount.trans hid
  · rw [hstarted]
    simp
  · rw [hstart, h.sessionStarted, h.startTime]
    cases reports <;> rfl
  · rw [hstatus, List.getLast?_concat]
    rfl
  · exact hunseen

/-- Whether the call completes or throws. -/
theorem reportedSoFar_processNetworkReport (A : Android) (sessionNumber : String) (w : World)
    (reports : List Report) (r : Report) (s : SessionSummary)
    (h : ReportedSoFar A sessionNumber reports s) :
    ReportedSoFar A sessionNumber (reports ++ [r])
      (((processNetworkReport A sessionNumber r).run
        { w with curSession := some s }).2.curSession.getD s) := by
  have hcount := reportedSoFar_countReport A sessionNumber w.samplingRateInMs reports r s h
  have hleaves := leaves_bookkeeping (ReportedSoFar A sessionNumber (reports ++ [r]))
    (reportedSoFar_of_bookkeeping A sessionNumber (reports ++ [r])) A
    (countReport A sessionNumber w.samplingRateInMs r s) r
    { w with curSession := some (countReport A sessionNumber w.samplingRateInMs r s) }
  rw [processNetworkReport_run A sessionNumber r _ s rfl]
  obtain ⟨s', hs', hsame⟩ := Option.map_eq_some_iff.mp hleaves
  rw [hs']
  exact cast hsame.symm hcount

/-- What the calls so far have left in the record. -/
structure RecordedSoFar (A : Android) (x : SavedSession) (s : SessionRecord) : Prop where
  summary : ReportedSoFar A x.sessionNumber x.reports s.toSessionSummary
  runNumbers : s.runNumbers = String.join (x.runs.map (" " ++ ·))
  rest : s = { SessionRecord.new x.config x.sessionNumber with
    toSessionSummary := s.toSessionSummary, runNumbers := s.runNumbers, nIperfRuns := s.nIperfRuns }

theorem recordedSoFar_found (A : Android) (x : SavedSession) : RecordedSoFar A x (x.found A) := by
  obtain ⟨config, sessionNumber, calls, endInstant, curTime, parts, tcpDumpCommand⟩ := x
  induction calls using List.reverseRecOn with
  | nil => exact ⟨⟨rfl, rfl, rfl, rfl, fun _ => rfl⟩, rfl, rfl⟩
  | append_singleton calls call ih =>
    rw [SavedSession.found, List.foldl_concat]
    change RecordedSoFar A _ (SessionRecord.call A sessionNumber
      (SavedSession.found A
        ⟨config, sessionNumber, calls, endInstant, curTime, parts, tcpDumpCommand⟩) call)
    cases call with
    | processNetworkReport w r =>
      refine ⟨?_, ?_, ?_⟩
      · rw [SavedSession.reports, List.filterMap_append]
        exact reportedSoFar_processNetworkReport A sessionNumber w _ r _ ih.summary
      · rw [SavedSession.runs, List.filterMap_append]
        exact ih.runNumbers.trans (by rw [SavedSession.runs]; simp)
      · rw [SessionRecord.call, ih.rest]
    | appendIperfRunNumber run_number =>
      refine ⟨?_, ?_, ?_⟩
      · rw [SavedSession.reports, List.filterMap_append]
        change ReportedSoFar A sessionNumber (_ ++ []) _
        rw [List.append_nil]
        exact ih.summary
      · rw [SavedSession.runs, List.filterMap_append, List.map_append, String.join_append]
        exact congrArg (· ++ (" " ++ run_number)) ih.runNumbers
      · rw [SessionRecord.call, SessionRecord.appendIperfRunNumber, ih.rest]

/-! The row of a summary. -/

/-- The percentage that `getPercentageOf5G` returns when it returns. -/
def percentageAfter (s : SessionRecord) (diff : ℤ) (currentNrStatus : String) : ℚ :=
  if diff ≠ 0 then
    if s.nSecondsIn5G ≥ diff ∨ s.nSecondsIn5G/diff > 99/100 then 100
    else s.nSecondsIn5G/diff*100
  else if currentNrStatus = nrConnectedKeyword then 100
  else if s.lastTime5GSeen = none then 0
  else s.nSecondsIn5G

section Row

variable {σ : Type} (parse : DateParser) (curTime : ℤ) (s : SessionRecord)

theorem getPercentageOf5G_ok (text currentNrStatus : String) (sTime : ℤ)
    (hstart : s.startTime = some text) (hparse : parse text = some sTime)
    (hstatus : s.currentNrStatus = some currentNrStatus) (w : σ) :
    (s.getPercentageOf5G parse curTime).run w =
    (.ok (percentageAfter s (secondsBetween sTime curTime) currentNrStatus), w) := by
  unfold SessionRecord.getPercentageOf5G parseDate percentageAfter
  rw [hstart, Java.bind_ok _ _ w w text rfl, hparse, Java.bind_ok _ _ w w sTime rfl, hstatus]
  by_cases hdiff : secondsBetween sTime curTime = 0
  · rw [if_neg (not_not.mpr hdiff), if_neg (not_not.mpr hdiff),
      Java.bind_ok _ _ w w currentNrStatus rfl]
    split_ifs <;> rfl
  · rw [if_pos hdiff, if_pos hdiff]
    split_ifs <;> rfl

theorem getPercentageOf5G_error (h : s.startTime.bind parse = none) (w : σ) :
    ∃ e, (s.getPercentageOf5G parse curTime).run w = (.error e, w) := by
  unfold SessionRecord.getPercentageOf5G parseDate
  cases hstart : s.startTime with
  | none => exact ⟨.nullPointer, rfl⟩
  | some text =>
    rw [hstart] at h
    have hparse : parse text = none := h
    rw [Java.bind_ok _ _ w w text rfl, hparse]
    exact ⟨.platform, rfl⟩

theorem optionAt_ok (opts : List String) (position : ℤ) (opt : String) (hpos : 0 ≤ position)
    (hopt : opts[position.toNat]? = some opt) (w : σ) :
    (optionAt opts position).run w = (.ok opt, w) := by
  rw [optionAt, if_pos hpos, hopt]
  rfl

theorem optionAt_error (opts : List String) (position : ℤ)
    (h : 0 ≤ position → opts.length ≤ position.toNat) (w : σ) :
    (optionAt opts position).run w = (.error .indexOutOfBounds, w) := by
  by_cases hpos : 0 ≤ position
  · rw [optionAt, if_pos hpos, List.getElem?_eq_none (h hpos)]
    rfl
  · rw [optionAt, if_neg hpos]
    rfl

/-- Without a start the row ends before the percentage. -/
theorem row_length_of_not_started (h : s.startTime.bind parse = none) :
    (s.row parse curTime).length = 12 := by
  unfold SessionRecord.row SessionRecord.toStringBody
  rw [Java.bind_ok _ _ [] _ () rfl]
  obtain ⟨e, he⟩ := getPercentageOf5G_error parse curTime s h _
  rw [Java.bind_error _ _ _ _ e he]
  rfl

variable (text currentNrStatus : String) (sTime : ℤ) (hstart : s.startTime = some text)
  (hparse : parse text = some sTime) (hstatus : s.currentNrStatus = some currentNrStatus)

include hstart hparse hstatus

/-- With a brightness that is not on the list the row ends before it. -/
theorem row_length_of_no_brightness (hdark : 0 ≤ s.screenBrightnessPosition →
    4 ≤ s.screenBrightnessPosition.toNat) : (s.row parse curTime).length = 16 := by
  unfold SessionRecord.row SessionRecord.toStringBody
  rw [Java.bind_ok _ _ [] _ () rfl,
    Java.bind_ok _ _ _ _ _ (getPercentageOf5G_ok parse curTime s text currentNrStatus sTime hstart
      hparse hstatus _),
    Java.bind_ok _ _ _ _ () rfl, Java.bind_error _ _ _ _ _ (optionAt_error _ _ hdark _)]
  rfl

theorem row_eq (opt : String) (hpos : 0 ≤ s.screenBrightnessPosition)
    (hopt : screenBrightnessOpts[s.screenBrightnessPosition.toNat]? = some opt) :
    s.row parse curTime = [.text s.startTime, .text s.endTime, .text (some s.sessionId),
      .int s.samplingIntervalms, .text (some s.pingEnabled), .int s.nTrackerParts, .int s.nHandoffs,
        .int s.nVerticalHandoffs,
      .int s.nHorizontalHandoffs, .double s.nSecondsIn5G, .double s.getDistanceCovered,
      .int s.nTowers, .double (percentageAfter s (secondsBetween sTime curTime) currentNrStatus),
        .boolean s.uploaded,
      .text s.tcpDumpCommand, .text (some s.runNumbers), .text (some opt), .int s.trackerBatch,
      .int s.pingBatch, .int s.pingInterval, .boolean s.rrcProbeFlag] := by
  unfold SessionRecord.row SessionRecord.toStringBody
  rw [Java.bind_ok _ _ [] _ () rfl,
    Java.bind_ok _ _ _ _ _ (getPercentageOf5G_ok parse curTime s text currentNrStatus sTime hstart
      hparse hstatus _),
    Java.bind_ok _ _ _ _ () rfl, Java.bind_ok _ _ _ _ _ (optionAt_ok _ _ opt hpos hopt _)]
  rfl

end Row

/-- After the first second the percentage is right, also where it is rounded up. -/
theorem isPercentage_of_elapsed (s : SessionRecord) (diff : ℤ) (currentNrStatus : String)
    (connected : Prop) (hdiff : diff ≠ 0) :
    IsPercentage s.nSecondsIn5G diff connected (percentageAfter s diff currentNrStatus) := by
  rw [percentageAfter, if_pos hdiff]
  split_ifs with h
  · refine ⟨le_rfl, fun hpos => ?_, fun hz => absurd hz hdiff, fun hz => absurd hz hdiff⟩
    have hdiffpos : (0:ℚ) < diff := by exact_mod_cast hpos
    have hratio : 99 ≤ s.nSecondsIn5G/diff*100 := by
      rcases h with h | h
      · have hone : 1 ≤ s.nSecondsIn5G/diff := (one_le_div hdiffpos).mpr h
        linarith
      · linarith
    have hmin : 99 ≤ min 100 (s.nSecondsIn5G/diff*100) := le_min (by norm_num) hratio
    have hle : min 100 (s.nSecondsIn5G/diff*100) ≤ 100 := min_le_left _ _
    rw [abs_le]
    constructor <;> linarith
  · have hratio : s.nSecondsIn5G/diff*100 ≤ 99 := by
      have hnot := not_lt.mp (not_or.mp h).2
      linarith
    refine ⟨by linarith, fun _ => ?_, fun hz => absurd hz hdiff, fun hz => absurd hz hdiff⟩
    rw [min_eq_right (by linarith), sub_self, abs_zero]
    norm_num

/-- Within the first second the seconds counted are no percentage. -/
theorem isPercentage_iff (s : SessionRecord) (diff : ℤ) (currentNrStatus : String)
    (hunseen : s.lastTime5GSeen = none → s.nSecondsIn5G = 0) :
    IsPercentage s.nSecondsIn5G diff (currentNrStatus = nrConnectedKeyword)
      (percentageAfter s diff currentNrStatus) ↔
      (diff = 0 → currentNrStatus = nrConnectedKeyword ∨ s.nSecondsIn5G = 0) := by
  by_cases hdiff : diff = 0
  · subst hdiff
    by_cases hconnected : currentNrStatus = nrConnectedKeyword
    · have hp : percentageAfter s 0 currentNrStatus = 100 := by
        rw [percentageAfter, if_neg (not_not.mpr rfl), if_pos hconnected]
      rw [hp]
      exact ⟨fun _ _ => .inl hconnected, fun _ => ⟨le_rfl, fun h => absurd h (lt_irrefl 0),
        fun _ _ => rfl, fun _ hnot => absurd hconnected hnot⟩⟩
    · have hp : percentageAfter s 0 currentNrStatus = s.nSecondsIn5G := by
        rw [percentageAfter, if_neg (not_not.mpr rfl), if_neg hconnected]
        split_ifs with hnone
        · exact (hunseen hnone).symm
        · rfl
      rw [hp]
      constructor
      · exact fun h _ => .inr (h.outside rfl hconnected)
      · intro h
        have hzero := (h rfl).resolve_left hconnected
        rw [hzero]
        exact ⟨by norm_num, fun h => absurd h (lt_irrefl 0), fun _ h => absurd h hconnected,
          fun _ _ => rfl⟩
  · exact ⟨fun _ h => absurd h hdiff, fun _ =>
      isPercentage_of_elapsed s diff currentNrStatus _ hdiff⟩

/-! The session. -/

theorem screenBrightnessOpts_some (position : ℕ) (h : position < 4) :
    ∃ opt, screenBrightnessOpts[position]? = some opt :=
  ⟨_, List.getElem?_eq_getElem (l := screenBrightnessOpts) h⟩

/-- The distance in miles is that in metres only when there is none. -/
theorem getDistanceCovered_eq_iff (s : SessionRecord) :
    s.getDistanceCovered = s.distanceCoveredInMeters ↔ s.distanceCoveredInMeters = 0 := by
  unfold SessionRecord.getDistanceCovered
  constructor
  · intro h
    linarith
  · intro h
    rw [h, zero_mul]

section Saved

variable (A : Android) (parse : DateParser) (x : SavedSession)

theorem saved_startTime : (x.saved A).startTime = x.startText A :=
  (recordedSoFar_found A x).summary.startTime

/-- A session with a start has a last report. -/
theorem saved_currentNrStatus (text : String) (h : x.startText A = some text) :
    ∃ currentNrStatus, (x.saved A).currentNrStatus = some currentNrStatus ∧
      (x.Connected ↔ currentNrStatus = nrConnectedKeyword) := by
  have hstatus : (x.saved A).currentNrStatus = x.reports.getLast?.map Report.nrStatus :=
    (recordedSoFar_found A x).summary.currentNrStatus
  obtain ⟨first, hfirst, -⟩ := Option.map_eq_some_iff.mp h
  obtain ⟨rest, hreports⟩ := List.head?_eq_some_iff.mp hfirst
  refine ⟨(x.reports.getLast (by rw [hreports]; exact List.cons_ne_nil _ _)).nrStatus, ?_, ?_⟩
  · rw [hstatus, List.getLast?_eq_getLast_of_ne_nil]
    rfl
  · rw [SavedSession.Connected, List.getLast?_eq_getLast_of_ne_nil]
    exact Option.some_inj

theorem saved_screenBrightnessPosition :
    (x.saved A).screenBrightnessPosition = x.config.screenBrightnessPosition :=
  congrArg SessionRecord.screenBrightnessPosition (recordedSoFar_found A x).rest

/-- The settings are those of the start, `rrcProbeFlag` apart. -/
theorem saved_settings : (x.saved A).samplingIntervalms = x.config.samplingRateInMs ∧
    (x.saved A).pingEnabled = (if x.config.pingEnableFlag then "Yes" else "No") ∧
    (x.saved A).uploaded = false ∧ (x.saved A).rrcProbeFlag = false ∧
    (x.saved A).trackerBatch = x.config.maxLinesPerBatch ∧
    (x.saved A).pingBatch = x.config.maxPingLinesPerBatch ∧
    (x.saved A).pingInterval = x.config.pingDelayInMs := by
  have hrest := (recordedSoFar_found A x).rest
  exact ⟨congrArg SessionRecord.samplingIntervalms hrest, congrArg SessionRecord.pingEnabled hrest,
    congrArg SessionRecord.uploaded hrest, congrArg SessionRecord.rrcProbeFlag hrest,
    congrArg SessionRecord.trackerBatch hrest, congrArg SessionRecord.pingBatch hrest,
    congrArg SessionRecord.pingInterval hrest⟩

/-- A row that the catch-all cut off is not the one of the header. -/
theorem not_rowMatchesHeader_of_length (hcut : (x.savedRow A parse).length < 21) :
    ¬ x.RowMatchesHeader A parse := by
  intro h
  have hlength : 21 = (x.savedRow A parse).length := h.length_eq
  omega

/-- A row that is not cut off. -/
theorem rowMatchesHeader_iff_of_complete (sTime : ℤ) (hs : x.sTime A parse = some sTime)
    (hpos : 0 ≤ x.config.screenBrightnessPosition) (hlt : x.config.screenBrightnessPosition < 4) :
    x.RowMatchesHeader A parse ↔ (x.found A).distanceCoveredInMeters = 0 ∧
      x.config.rrcProbeEnabled = false ∧ (secondsBetween sTime x.curTime = 0 → x.Connected ∨
        (x.found A).nSecondsIn5G = 0) := by
  have hfound := recordedSoFar_found A x
  obtain ⟨text, htext, hparse⟩ := Option.bind_eq_some_iff.mp hs
  obtain ⟨currentNrStatus, hstatus, hconnected⟩ := saved_currentNrStatus A x text htext
  obtain ⟨opt, hopt⟩ := screenBrightnessOpts_some x.config.screenBrightnessPosition.toNat (by omega)
  have hposition := saved_screenBrightnessPosition A x
  have hrow := row_eq parse x.curTime (x.saved A) text currentNrStatus sTime
    ((saved_startTime A x).trans htext) hparse hstatus opt (by rw [hposition]; exact hpos)
    (by rw [hposition]; exact hopt)
  have hdistance := getDistanceCovered_eq_iff (x.found A)
  have hpercentage := isPercentage_iff (x.found A) (secondsBetween sTime x.curTime) currentNrStatus
    hfound.summary.unseen
  rw [← hconnected] at hpercentage
  obtain ⟨hinterval, hping, huploaded, hprobe, htracker, hbatch, hdelay⟩ := saved_settings A x
  have hid : (x.saved A).sessionId = x.sessionNumber := hfound.summary.sessionId
  have hruns : (x.saved A).runNumbers = String.join (x.runs.map (" " ++ ·)) := hfound.runNumbers
  rw [SavedSession.RowMatchesHeader, SavedSession.savedRow, hrow, hinterval, hping, huploaded,
    hprobe, htracker, hbatch, hdelay, hid, hruns, saved_startTime, htext, ← hdistance,
      ← hpercentage]
  constructor
  · intro h
    simp only [sessionSummaryHeader, List.forall₂_cons] at h
    obtain ⟨-, -, -, -, -, -, -, -, -, -, hmiles, -, ⟨t, percentage, ht, hcell, hright⟩, -, -, -, -,
      -, -, -, hflag, -⟩ := h
    rw [hs] at ht
    cases ht
    cases hcell
    exact ⟨Cell.double.inj hmiles, (Cell.boolean.inj hflag).symm, hright⟩
  · rintro ⟨hmiles, hflag, hright⟩
    have hcell := congrArg Cell.double hmiles
    have hbool := congrArg Cell.boolean hflag.symm
    exact .cons ⟨text, htext, rfl⟩ <| .cons rfl <| .cons rfl <| .cons rfl <| .cons rfl <|
        .cons rfl <| .cons rfl <|
      .cons rfl <| .cons rfl <| .cons rfl <| .cons hcell <| .cons rfl <|
        .cons ⟨sTime, _, hs, rfl, hright⟩ <|
      .cons rfl <| .cons rfl <| .cons rfl <| .cons ⟨opt, hpos, hopt, rfl⟩ <| .cons rfl <|
        .cons rfl <| .cons rfl <|
      .cons hbool .nil

end Saved

/-- A phone that is a hundred metres from where it was, and its formatter. -/
def movingPhone : Android := { steady (lteMoment 7) with distanceTo := fun _ _ => 100 }

def epochParser : DateParser :=
  fun text => if text = "1970-01-01 00:00:00.000 UTC" then some 0 else none

/-- One report, and the session stopped after ten seconds. -/
def movedSession : SavedSession where
  config := {}
  sessionNumber := "0"
  calls := [.processNetworkReport {} { locationData := some origin }]
  endInstant := 10000
  curTime := 10000
  parts := 1
  tcpDumpCommand := none

/-- Stopped before the first report. -/
def emptySession : SavedSession := { movedSession with calls := [] }

end MmWaveTracker
