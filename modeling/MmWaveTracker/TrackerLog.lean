import MmWaveTracker.FileStore
import MmWaveTracker.ReportRow

/-! The tracker log of `MonitoringService`: rows are buffered, appended in batches,
and a full chunk moves on to the next part file. The handler never looks into a
row, so the log is generic in the lines of a file. -/
namespace MmWaveTracker

/-- `config` and the chunk size, which is fixed when the service class is loaded. -/
structure LogConfig (Line : Type) where
  maxLinesPerBatch : ℤ
  maxLinesPerChunk : ℤ
  documents : String
  deviceId : String
  header : Line

variable {Line : Type}

def getFullPath (cfg : LogConfig Line) (filename : String) : String :=
  cfg.documents ++ "/" ++ appName ++ "/Logs/" ++ filename

def partPath (cfg : LogConfig Line) (sessionNumber : String) (part : ℤ) : String :=
  getFullPath cfg (cfg.deviceId ++ "-" ++ sessionNumber ++ "-" ++ format02 part ++ csvExtension)

def sessionSummaryPath (cfg : LogConfig Line) : String :=
  getFullPath cfg (cfg.deviceId ++ "-SessionSummary" ++ csvExtension)

theorem partPath_injective (cfg : LogConfig Line) (sessionNumber : String) :
    Function.Injective (partPath cfg sessionNumber) := by
  intro a b h
  apply format02_injective
  have hname := (String.append_right_inj _).mp h
  exact (String.append_right_inj _).mp ((String.append_left_inj _).mp hname)

/-- A part path has one more hyphen. -/
theorem partPath_ne_sessionSummaryPath (cfg : LogConfig Line) (sessionNumber : String) (part : ℤ) :
    partPath cfg sessionNumber part ≠ sessionSummaryPath cfg := by
  intro h
  have hname := (String.append_left_inj _).mp ((String.append_right_inj _).mp h)
  have hrest : sessionNumber ++ "-" ++ format02 part = "SessionSummary" := by
    have hdash : ("-SessionSummary":String) = "-" ++ "SessionSummary" := by decide
    rw [hdash] at hname
    simp only [String.append_assoc] at hname ⊢
    exact (String.append_right_inj _).mp ((String.append_right_inj _).mp hname)
  have hmem : '-' ∈ ("SessionSummary":String).toList := by
    rw [← hrest]
    simp
  revert hmem
  decide

structure Log (Line : Type) where
  part : ℤ := 0
  counter : ℤ := 0
  saveFilePath : String := ""
  saveSessionFilePath : String := ""
  reportLines : List Line := []
  files : FileStore String Line

/-- `Files.write` with `APPEND`; `ok` is what the device makes of the call. -/
def writeAppend (ok : Bool) (path : String) (lines : List Line) : Java (Log Line) Unit where
  run log := match ok, log.files.append path lines with
    | true, some files => (.ok (), { log with files })
    | _, _ => (.error .io, log)

/-- `Files.write` with `CREATE`, used only where the file does not exist. -/
def writeCreate (ok : Bool) (path : String) (lines : List Line) : Java (Log Line) Unit where
  run log := if ok then (.ok (), { log with files := log.files.create path lines })
    else (.error .io, log)

def resetReportLogBuffer : Java (Log Line) Unit :=
  Java.modify fun log => { log with reportLines := [] }

/-- A failure to write the header is only printed. -/
def createLogFileIfNotExists (cfg : LogConfig Line) (ok : Bool) : Java (Log Line) Unit := do
  let log ← Java.get
  if (log.files log.saveFilePath).isSome then pure ()
  else Java.attempt (writeCreate ok log.saveFilePath [cfg.header]) fun _ => pure ()

/-- The assignments of `StartTracing` to the log. -/
def startLog (cfg : LogConfig Line) (sessionNumber : String) (ok : Bool) : Java (Log Line) Unit :=
    do
  Java.modify fun log => { log with
    part := 1
    counter := 0
    saveFilePath := partPath cfg sessionNumber 1
    saveSessionFilePath := sessionSummaryPath cfg }
  resetReportLogBuffer
  createLogFileIfNotExists cfg ok

def addLine (row : Line) : Java (Log Line) Unit :=
  Java.modify fun log => { log with
    reportLines := log.reportLines ++ [row]
    counter := wrap32 (log.counter+1) }

/-- Write to file if batch size is met. -/
def writeBatch (cfg : LogConfig Line) (ok : Bool) : Java (Log Line) Unit := do
  let log ← Java.get
  -- `counter % 0` throws
  if cfg.maxLinesPerBatch = 0 then Java.throw .arithmetic
  else if log.counter.tmod cfg.maxLinesPerBatch = 0 then do
    writeAppend ok log.saveFilePath log.reportLines
    resetReportLogBuffer
  else pure ()

/-- Go to next chunk file; rows still in the buffer go with it. -/
def nextChunk (cfg : LogConfig Line) (sessionNumber : String) (ok : Bool) : Java (Log Line) Unit :=
    do
  let log ← Java.get
  if log.counter > cfg.maxLinesPerChunk then do
    Java.modify fun log => { log with
      counter := 0
      part := wrap32 (log.part+1)
      saveFilePath := partPath cfg sessionNumber (wrap32 (log.part+1)) }
    createLogFileIfNotExists cfg ok
  else pure ()

/-- The outcomes of the two `Files.write` calls in `handleMessage`. -/
structure Writes where
  batch : Bool
  header : Bool

/-- `handleMessage` once the report is text; every exception is only printed. -/
def handleMessage (cfg : LogConfig Line) (sessionNumber : String) (writes : Writes) (row : Line) :
    Java (Log Line) Unit :=
  Java.attempt (do
    addLine row
    writeBatch cfg writes.batch
    nextChunk cfg sessionNumber writes.header) fun _ => pure ()

/-- Save unsaved logs: the flush of `StopTracing`. -/
def saveUnsavedLogs (ok : Bool) : Java (Log Line) Unit := do
  let log ← Java.get
  if log.reportLines.length > 0 then do
    writeAppend ok log.saveFilePath log.reportLines
    resetReportLogBuffer
  else pure ()

/-! What each of these can do to a log. -/

def Log.withFile (cfg : LogConfig Line) (ok : Bool) (log : Log Line) : Log Line :=
  if (log.files log.saveFilePath).isNone ∧ ok then
    { log with files := log.files.create log.saveFilePath [cfg.header] }
  else log

def Log.added (log : Log Line) (row : Line) : Log Line :=
  { log with reportLines := log.reportLines ++ [row], counter := wrap32 (log.counter+1) }

def Log.moved (cfg : LogConfig Line) (sessionNumber : String) (log : Log Line) : Log Line :=
  { log with
    counter := 0
    part := wrap32 (log.part+1)
    saveFilePath := partPath cfg sessionNumber (wrap32 (log.part+1)) }

/-- The buffer is now in the current file, and nowhere else. -/
def Flushed (log log' : Log Line) : Prop :=
  ∃ files, log.files.append log.saveFilePath log.reportLines = some files ∧
    log' = { log with files, reportLines := [] }

theorem createLogFileIfNotExists_run (cfg : LogConfig Line) (ok : Bool) (log : Log Line) :
    (createLogFileIfNotExists cfg ok).run log = (.ok (), log.withFile cfg ok) := by
  unfold createLogFileIfNotExists Log.withFile
  rw [Java.bind_ok _ _ log log log rfl]
  rcases hf : log.files log.saveFilePath with _ | lines
  · cases ok
    · rfl
    · rfl
  · rfl

section WithFile

variable (cfg : LogConfig Line) (ok : Bool) (fs₀ : FileStore String Line) (log : Log Line)

theorem withFile_eq : log.withFile cfg ok = { log with files := (log.withFile cfg ok).files } := by
  unfold Log.withFile
  split <;> rfl

theorem withFile_other (q : String) (hq : q ≠ log.saveFilePath) :
    (log.withFile cfg ok).files q = log.files q := by
  unfold Log.withFile
  split
  · exact FileStore.create_other _ _ _ q hq
  · rfl

/-- A new file holds its header; an old one stays, and so does a header that cannot be written. -/
theorem withFile_since (h : log.files log.saveFilePath = fs₀ log.saveFilePath) :
    FileStore.since fs₀ (log.withFile cfg ok).files log.saveFilePath = [] := by
  unfold Log.withFile
  split_ifs with hc
  · apply FileStore.since_create
    rw [← h]
    exact Option.isNone_iff_eq_none.mp hc.1
  · rw [FileStore.since_congr fs₀ fs₀ log.files _ h]
    exact FileStore.since_self fs₀ _

theorem withFile_headed (h : log.files log.saveFilePath = fs₀ log.saveFilePath) :
    FileStore.Headed fs₀ (log.withFile cfg ok).files log.saveFilePath := by
  have hh := FileStore.headed_congr fs₀ fs₀ log.files _ h (FileStore.headed_self fs₀ _)
  unfold Log.withFile
  split_ifs with hc
  · apply FileStore.headed_create _ _ _ _ _ _ hh
    rw [← h]
    exact Option.isNone_iff_eq_none.mp hc.1
  · exact hh

end WithFile

theorem writeAppend_cases (ok : Bool) (path : String) (lines : List Line) (log : Log Line) :
    (∃ files, ok = true ∧ log.files.append path lines = some files ∧
      (writeAppend ok path lines).run log = (.ok (), { log with files })) ∨
    ((ok = false ∨ log.files.append path lines = none) ∧
      (writeAppend ok path lines).run log = (.error .io, log)) := by
  unfold writeAppend
  rcases ha : log.files.append path lines with _ | files
  · exact .inr ⟨.inr rfl, by cases ok <;> simp only [ha]⟩
  · cases ok
    · exact .inr ⟨.inl rfl, rfl⟩
    · exact .inl ⟨files, rfl, rfl, by simp only [ha]⟩

theorem flush_cases (ok : Bool) (log : Log Line) :
    (∃ log', Flushed log log' ∧ ok = true ∧
      (do writeAppend ok log.saveFilePath log.reportLines; resetReportLogBuffer).run log =
        (.ok (), log')) ∨
    ((ok = false ∨ log.files log.saveFilePath = none) ∧
      (do writeAppend ok log.saveFilePath log.reportLines; resetReportLogBuffer).run log =
        (.error .io, log)) := by
  rcases writeAppend_cases ok log.saveFilePath log.reportLines log with
    ⟨files, hok, hf, hrun⟩ | ⟨hno, hrun⟩
  · exact .inl ⟨_, ⟨files, hf, rfl⟩, hok, Java.bind_ok _ _ log _ () hrun⟩
  · refine .inr ⟨?_, Java.bind_error _ _ log log _ hrun⟩
    exact hno.imp_right Option.map_eq_none_iff.mp

theorem writeBatch_cases (cfg : LogConfig Line) (ok : Bool) (log : Log Line) :
    (∃ e, (writeBatch cfg ok).run log = (.error e, log)) ∨
    (writeBatch cfg ok).run log = (.ok (), log) ∨
    (∃ log', Flushed log log' ∧ (writeBatch cfg ok).run log = (.ok (), log')) := by
  unfold writeBatch
  rw [Java.bind_ok _ _ log log log rfl]
  split_ifs
  · exact .inl ⟨_, rfl⟩
  · rcases flush_cases ok log with ⟨log', hf, -, hrun⟩ | ⟨-, hrun⟩
    · exact .inr (.inr ⟨log', hf, hrun⟩)
    · exact .inl ⟨_, hrun⟩
  · exact .inr (.inl rfl)

theorem nextChunk_run (cfg : LogConfig Line) (sessionNumber : String) (ok : Bool) (log : Log Line) :
    (nextChunk cfg sessionNumber ok).run log =
      (.ok (), if log.counter > cfg.maxLinesPerChunk then
        (log.moved cfg sessionNumber).withFile cfg ok
        else log) := by
  unfold nextChunk
  rw [Java.bind_ok _ _ log log log rfl]
  split_ifs
  · rw [Java.bind_ok _ _ log (log.moved cfg sessionNumber) () rfl]
    exact createLogFileIfNotExists_run cfg ok _
  · rfl

/-- A row enters the buffer, the buffer may be written, and the part may be finished. -/
theorem handleMessage_cases (cfg : LogConfig Line) (sessionNumber : String) (writes : Writes)
    (row : Line) (log : Log Line) :
    ∃ log₁ log₂, (log₁ = log.added row ∨ Flushed (log.added row) log₁) ∧
      (log₂ = log₁ ∨ log₂ = (log₁.moved cfg sessionNumber).withFile cfg writes.header) ∧
      (handleMessage cfg sessionNumber writes row).run log = (.ok (), log₂) := by
  have hbody (e : Throwable) (h : (writeBatch cfg writes.batch).run (log.added row) = (.error e,
      log.added row)) : (handleMessage cfg sessionNumber writes row).run log = (.ok (),
        log.added row) := by
    unfold handleMessage
    rw [Java.run_attempt, Java.bind_ok _ _ log (log.added row) () rfl, Java.bind_error _ _ _ _ e h]
    rfl
  have hrest (log₁ : Log Line) (h : (writeBatch cfg writes.batch).run (log.added row) = (.ok (),
      log₁)) : ∃ log₂,
        (log₂ = log₁ ∨ log₂ = (log₁.moved cfg sessionNumber).withFile cfg writes.header) ∧
        (handleMessage cfg sessionNumber writes row).run log = (.ok (), log₂) := by
    unfold handleMessage
    rw [Java.run_attempt, Java.bind_ok _ _ log (log.added row) () rfl, Java.bind_ok _ _ _ log₁ () h,
      nextChunk_run]
    refine ⟨_, ?_, rfl⟩
    split_ifs
    · exact .inr rfl
    · exact .inl rfl
  rcases writeBatch_cases cfg writes.batch (log.added row) with ⟨e, h⟩ | h | ⟨log₁, hf, h⟩
  · exact ⟨_, _, .inl rfl, .inl rfl, hbody e h⟩
  · obtain ⟨log₂, h₂, hrun⟩ := hrest _ h
    exact ⟨_, log₂, .inl rfl, h₂, hrun⟩
  · obtain ⟨log₂, h₂, hrun⟩ := hrest log₁ h
    exact ⟨log₁, log₂, .inr hf, h₂, hrun⟩

theorem saveUnsavedLogs_cases (ok : Bool) (log : Log Line) :
    (log.reportLines = [] ∧ (saveUnsavedLogs ok).run log = (.ok (), log)) ∨
    (∃ log', Flushed log log' ∧ (saveUnsavedLogs ok).run log = (.ok (), log')) ∨
    ((ok = false ∨ log.files log.saveFilePath = none) ∧ (saveUnsavedLogs ok).run log =
      (.error .io, log)) := by
  unfold saveUnsavedLogs
  rw [Java.bind_ok _ _ log log log rfl]
  split_ifs with h
  · rcases flush_cases ok log with ⟨log', hf, -, hrun⟩ | ⟨hno, hrun⟩
    · exact .inr (.inl ⟨log', hf, hrun⟩)
    · exact .inr (.inr ⟨hno, hrun⟩)
  · refine .inl ⟨List.eq_nil_of_length_eq_zero ?_, rfl⟩
    omega

/-! The paths only change where a part is finished. -/

theorem Flushed.frame {log log' : Log Line} (h : Flushed log log') :
    log'.saveFilePath = log.saveFilePath ∧ log'.part = log.part ∧
    log'.saveSessionFilePath = log.saveSessionFilePath ∧ log'.counter = log.counter := by
  obtain ⟨files, -, rfl⟩ := h
  exact ⟨rfl, rfl, rfl, rfl⟩

theorem handleMessage_saveFilePath (cfg : LogConfig Line) (sessionNumber : String) (writes : Writes)
    (row : Line) (log : Log Line) (h : log.saveFilePath = partPath cfg sessionNumber log.part) :
    ((handleMessage cfg sessionNumber writes row).run log).2.saveFilePath =
      partPath cfg sessionNumber ((handleMessage cfg sessionNumber writes row).run log).2.part := by
  obtain ⟨log₁, log₂, h₁, h₂, hrun⟩ := handleMessage_cases cfg sessionNumber writes row log
  rw [hrun]
  rcases h₂ with rfl | rfl
  · rcases h₁ with rfl | hf
    · exact h
    · rw [hf.frame.1, hf.frame.2.1]
      exact h
  · rw [withFile_eq]
    rfl

theorem handleMessage_saveSessionFilePath (cfg : LogConfig Line) (sessionNumber : String)
    (writes : Writes) (row : Line) (log : Log Line) :
    ((handleMessage cfg sessionNumber writes row).run log).2.saveSessionFilePath =
      log.saveSessionFilePath := by
  obtain ⟨log₁, log₂, h₁, h₂, hrun⟩ := handleMessage_cases cfg sessionNumber writes row log
  have hp : log₁.saveSessionFilePath = log.saveSessionFilePath := by
    rcases h₁ with rfl | hf
    · rfl
    · rw [hf.frame.2.2.1]
      rfl
  rw [hrun]
  rcases h₂ with rfl | rfl
  · exact hp
  · rw [withFile_eq]
    exact hp

theorem saveUnsavedLogs_frame (ok : Bool) (log log' : Log Line) (r : Except Throwable Unit)
    (h : (saveUnsavedLogs ok).run log = (r, log')) :
    log'.saveFilePath = log.saveFilePath ∧ log'.part = log.part ∧
    log'.saveSessionFilePath = log.saveSessionFilePath := by
  rcases saveUnsavedLogs_cases ok log with ⟨-, hrun⟩ | ⟨log₁, hf, hrun⟩ | ⟨-, hrun⟩ <;>
    rw [hrun] at h <;> cases h
  · exact ⟨rfl, rfl, rfl⟩
  · exact ⟨hf.frame.1, hf.frame.2.1, hf.frame.2.2.1⟩
  · exact ⟨rfl, rfl, rfl⟩

/-! A current file stays there, and a header that can be written makes one. -/

theorem Flushed.exists_file {log log' : Log Line} (h : Flushed log log') :
    (log'.files log'.saveFilePath).isSome := by
  obtain ⟨files, hf, rfl⟩ := h
  obtain ⟨old, -, rfl⟩ := FileStore.append_eq_some _ _ _ _ hf
  change (Function.update log.files log.saveFilePath _ log.saveFilePath).isSome = true
  rw [Function.update_self]
  rfl

theorem exists_file_withFile (cfg : LogConfig Line) (log : Log Line) :
    ((log.withFile cfg true).files (log.withFile cfg true).saveFilePath).isSome := by
  unfold Log.withFile
  split_ifs with h
  · change (Function.update log.files log.saveFilePath _ log.saveFilePath).isSome = true
    rw [Function.update_self]
    rfl
  · rcases hf : log.files log.saveFilePath with _ | lines
    · exact absurd ⟨by rw [hf]; rfl, rfl⟩ h
    · rfl

theorem exists_file_handleMessage (cfg : LogConfig Line) (sessionNumber : String) (writes : Writes)
    (row : Line) (log : Log Line) (hheader : writes.header = true)
    (hfile : (log.files log.saveFilePath).isSome) :
    (((handleMessage cfg sessionNumber writes row).run log).2.files
      ((handleMessage cfg sessionNumber writes row).run log).2.saveFilePath).isSome := by
  obtain ⟨log₁, log₂, h₁, h₂, hrun⟩ := handleMessage_cases cfg sessionNumber writes row log
  rw [hrun]
  rcases h₂ with rfl | rfl
  · rcases h₁ with rfl | hf
    · exact hfile
    · exact hf.exists_file
  · rw [hheader]
    exact exists_file_withFile cfg _

theorem saveUnsavedLogs_ok (log : Log Line) (hfile : (log.files log.saveFilePath).isSome) :
    ∃ log', (saveUnsavedLogs true).run log = (.ok (), log') ∧
      (log'.files log'.saveFilePath).isSome := by
  rcases saveUnsavedLogs_cases true log with ⟨-, hrun⟩ | ⟨log', hf, hrun⟩ | ⟨hno | hno, -⟩
  · exact ⟨log, hrun, hfile⟩
  · exact ⟨log', hrun, hf.exists_file⟩
  · cases hno
  · rw [hno] at hfile
    cases hfile

/-! Where lines go: `new` lines enter the buffer, and lines of the buffer may move to
the file that was current. -/

structure Delivers (cfg : LogConfig Line) (new : List Line) (log log' : Log Line) : Prop where
  kept : ∀ p line, line ∈ log.files.contents p → line ∈ log'.files.contents p
  written : ∀ p line, line ∈ log'.files.contents p → line ∈ log.files.contents p ∨
    (p = log.saveFilePath ∧ line ∈ log.reportLines ++ new) ∨ line = cfg.header
  delivered : ∀ line ∈ log.reportLines ++ new, line ∈ log'.reportLines ∨
    line ∈ log'.files.contents log.saveFilePath
  buffer : ∀ line ∈ log'.reportLines, line ∈ log.reportLines ++ new

section Delivers

variable {cfg : LogConfig Line} {new : List Line} {log log₁ log₂ : Log Line}

theorem delivers_added (row : Line) : Delivers cfg [row] log (log.added row) where
  kept _ _ h := h
  written _ _ h := .inl h
  delivered _ h := .inl h
  buffer _ h := h

theorem Delivers.flushed (h : Delivers cfg new log log₁)
    (hpath : log₁.saveFilePath = log.saveFilePath)
    (hf : Flushed log₁ log₂) : Delivers cfg new log log₂ := by
  obtain ⟨files, ha, rfl⟩ := hf
  have hmem (p : String) (line : Line) := FileStore.mem_contents_append _ _ _ _ p line ha
  refine ⟨?_, ?_, ?_, nofun⟩
  · intro p line hl
    exact (hmem p line).mpr (.inl (h.kept p line hl))
  · intro p line hl
    rcases (hmem p line).mp hl with hl | ⟨hp, hb⟩
    · exact h.written p line hl
    · exact .inr (.inl ⟨hp.trans hpath, h.buffer line hb⟩)
  · intro line hl
    rcases h.delivered line hl with hb | hd
    · exact .inr ((hmem _ line).mpr (.inr ⟨hpath.symm, hb⟩))
    · exact .inr ((hmem _ line).mpr (.inl hd))

theorem mem_contents_withFile (cfg : LogConfig Line) (ok : Bool) (log : Log Line) (p : String)
    (line : Line) : (line ∈ log.files.contents p → line ∈ (log.withFile cfg ok).files.contents p) ∧
    (line ∈ (log.withFile cfg ok).files.contents p → line ∈ log.files.contents p ∨
      line = cfg.header) := by
  unfold Log.withFile
  split_ifs with hc
  · have hmem := FileStore.mem_contents_create log.files log.saveFilePath cfg.header p line
      (Option.isNone_iff_eq_none.mp hc.1)
    refine ⟨fun hl => hmem.mpr (.inl hl), ?_⟩
    intro hl
    exact (hmem.mp hl).imp_right And.right
  · exact ⟨id, .inl⟩

theorem Delivers.moved (h : Delivers cfg new log log₁) (sessionNumber : String) (ok : Bool) :
    Delivers cfg new log ((log₁.moved cfg sessionNumber).withFile cfg ok) := by
  have hmem (p : String) (line : Line) :=
    mem_contents_withFile cfg ok (log₁.moved cfg sessionNumber) p line
  have hbuffer : ((log₁.moved cfg sessionNumber).withFile cfg ok).reportLines =
      log₁.reportLines := by
    rw [withFile_eq]
    rfl
  refine ⟨?_, ?_, ?_, ?_⟩
  · exact fun p line hl => (hmem p line).1 (h.kept p line hl)
  · intro p line hl
    rcases (hmem p line).2 hl with hl | hl
    · exact h.written p line hl
    · exact .inr (.inr hl)
  · intro line hl
    rw [hbuffer]
    exact (h.delivered line hl).imp_right fun hd => (hmem _ line).1 hd
  · rw [hbuffer]
    exact h.buffer

theorem delivers_handleMessage (cfg : LogConfig Line) (sessionNumber : String) (writes : Writes)
    (row : Line) (log : Log Line) :
    Delivers cfg [row] log ((handleMessage cfg sessionNumber writes row).run log).2 := by
  obtain ⟨log₁, log₂, h₁, h₂, hrun⟩ := handleMessage_cases cfg sessionNumber writes row log
  rw [hrun]
  have hstored : Delivers cfg [row] log log₁ := by
    rcases h₁ with rfl | hf
    · exact delivers_added row
    · exact (delivers_added row).flushed rfl hf
  rcases h₂ with rfl | rfl
  · exact hstored
  · exact hstored.moved sessionNumber writes.header

theorem delivers_saveUnsavedLogs (cfg : LogConfig Line) (ok : Bool) (log log' : Log Line)
    (r : Except Throwable Unit) (h : (saveUnsavedLogs ok).run log = (r, log')) :
    Delivers cfg [] log log' := by
  have hself : Delivers cfg [] log log :=
    ⟨fun _ _ h => h, fun _ _ h => .inl h, fun _ h => .inl (by simpa using h),
      fun _ h => by simpa using h⟩
  rcases saveUnsavedLogs_cases ok log with ⟨-, hrun⟩ | ⟨log₁, hf, hrun⟩ | ⟨-, hrun⟩ <;>
    rw [hrun] at h <;> cases h
  · exact hself
  · exact hself.flushed rfl hf
  · exact hself

end Delivers

/-! The invariant of a session's log: what is on disk, then what is in the buffer, is
what was handled, and the part files to come are as the session found them. -/

/-- The data rows of part files 1 to `part` that were added since `fs₀`. -/
def rowsOnDisk (cfg : LogConfig Line) (sessionNumber : String) (fs₀ : FileStore String Line)
    (log : Log Line) : List Line :=
  FileStore.seriesSince (partPath cfg sessionNumber) fs₀ log.files log.part.toNat

structure LogInv (cfg : LogConfig Line) (sessionNumber : String) (fs₀ : FileStore String Line)
    (log : Log Line) (rows : List Line) : Prop where
  part_pos : 1 ≤ log.part
  saveFilePath : log.saveFilePath = partPath cfg sessionNumber log.part
  headed : ∀ k, FileStore.Headed fs₀ log.files (partPath cfg sessionNumber k)
  ahead : ∀ k, log.part < k → log.files (partPath cfg sessionNumber k) =
    fs₀ (partPath cfg sessionNumber k)
  rows : rowsOnDisk cfg sessionNumber fs₀ log ++ log.reportLines = rows

section LogInv

variable {cfg : LogConfig Line} {sessionNumber : String} {fs₀ : FileStore String Line}
  {log log' : Log Line} {rows : List Line}

theorem LogInv.added (h : LogInv cfg sessionNumber fs₀ log rows) (row : Line) :
    LogInv cfg sessionNumber fs₀ (log.added row) (rows ++ [row]) where
  part_pos := h.part_pos
  saveFilePath := h.saveFilePath
  headed := h.headed
  ahead := h.ahead
  rows := by
    rw [← h.rows, List.append_assoc]
    rfl

theorem LogInv.flushed (h : LogInv cfg sessionNumber fs₀ log rows) (hf : Flushed log log') :
    LogInv cfg sessionNumber fs₀ log' rows ∧ rowsOnDisk cfg sessionNumber fs₀ log' = rows := by
  obtain ⟨files, hfiles, rfl⟩ := hf
  obtain ⟨n, hn⟩ := Int.eq_ofNat_of_zero_le (show 0 ≤ log.part-1 by have := h.part_pos; omega)
  have hpart : log.part = n+1 := by omega
  have hnat : log.part.toNat = n+1 := by omega
  rw [h.saveFilePath, hpart] at hfiles
  have hdisk : FileStore.seriesSince (partPath cfg sessionNumber) fs₀ files (n+1) = rows := by
    rw [FileStore.seriesSince_append fs₀ log.files files log.reportLines _
      (partPath_injective cfg sessionNumber) n (h.headed _) hfiles, ← h.rows, rowsOnDisk, hnat]
  refine ⟨⟨h.part_pos, h.saveFilePath, ?_, ?_, ?_⟩, ?_⟩
  · intro k
    exact FileStore.headed_append fs₀ log.files files _ _ _ (h.headed k) hfiles
  · intro k hk
    rw [← h.ahead k hk]
    apply FileStore.append_other log.files files _ log.reportLines _ _ hfiles
    intro he
    have hkn := partPath_injective cfg sessionNumber he
    change log.part < k at hk
    omega
  · rw [List.append_nil]
    change FileStore.seriesSince _ fs₀ files log.part.toNat = rows
    rw [hnat, hdisk]
  · change FileStore.seriesSince _ fs₀ files log.part.toNat = rows
    rw [hnat, hdisk]

/-- The next part begins without rows of the session, and the buffer moves on to it. -/
theorem LogInv.next (h : LogInv cfg sessionNumber fs₀ log rows) (hpart : log.part < 2147483647)
    (files : FileStore String Line)
    (hfiles : ∀ k, k ≠ log.part+1 →
      files (partPath cfg sessionNumber k) = log.files (partPath cfg sessionNumber k))
    (hnew : FileStore.since fs₀ files (partPath cfg sessionNumber (log.part+1)) = [])
    (hhead : FileStore.Headed fs₀ files (partPath cfg sessionNumber (log.part+1))) :
    LogInv cfg sessionNumber fs₀ { log.moved cfg sessionNumber with files } rows := by
  have hpos := h.part_pos
  have hwrap : wrap32 (log.part+1) = log.part+1 := wrap32_of_range _ (by omega) (by omega)
  obtain ⟨n, hn⟩ := Int.eq_ofNat_of_zero_le (show 0 ≤ log.part by omega)
  refine ⟨?_, rfl, ?_, ?_, ?_⟩
  · change 1 ≤ wrap32 (log.part+1)
    omega
  · intro k
    by_cases hk : k = log.part+1
    · subst hk
      exact hhead
    · exact FileStore.headed_congr fs₀ log.files files _ (hfiles k hk) (h.headed k)
  · intro k hk
    change wrap32 (log.part+1) < k at hk
    exact (hfiles k (by omega)).trans (h.ahead k (by omega))
  · rw [← h.rows, rowsOnDisk, rowsOnDisk]
    change FileStore.seriesSince _ fs₀ files (wrap32 (log.part+1)).toNat ++ log.reportLines = _
    have h₁ : (wrap32 (log.part+1)).toNat = n+1 := by omega
    have h₂ : log.part.toNat = n := by omega
    rw [hn] at hnew
    rw [h₁, h₂, FileStore.seriesSince_succ, hnew, List.append_nil]
    rw [FileStore.seriesSince_congr _ fs₀ log.files files n fun k hk => hfiles _ (by omega)]

theorem LogInv.moved (h : LogInv cfg sessionNumber fs₀ log rows) (ok : Bool)
    (hpart : log.part < 2147483647) :
    LogInv cfg sessionNumber fs₀ ((log.moved cfg sessionNumber).withFile cfg ok) rows := by
  have hpos := h.part_pos
  have hpath : (log.moved cfg sessionNumber).saveFilePath =
      partPath cfg sessionNumber (log.part+1) := by
    change partPath cfg sessionNumber (wrap32 (log.part+1)) = _
    rw [wrap32_of_range _ (by omega) (by omega)]
  have hahead := h.ahead (log.part+1) (by omega)
  have hsame : (log.moved cfg sessionNumber).files (log.moved cfg sessionNumber).saveFilePath =
      fs₀ (log.moved cfg sessionNumber).saveFilePath := by
    rw [hpath]
    exact hahead
  rw [withFile_eq]
  refine h.next hpart _ ?_ ?_ ?_
  · intro k hk
    apply withFile_other
    rw [hpath]
    exact fun he => hk (partPath_injective cfg sessionNumber he)
  · rw [← hpath]
    exact withFile_since cfg ok fs₀ _ hsame
  · rw [← hpath]
    exact withFile_headed cfg ok fs₀ _ hsame

theorem LogInv.handleMessage (h : LogInv cfg sessionNumber fs₀ log rows) (writes : Writes)
    (row : Line) (hrun : (handleMessage cfg sessionNumber writes row).run log = (.ok (), log'))
    (hpart : log'.part = log.part ∨ log.part < 2147483647) :
    LogInv cfg sessionNumber fs₀ log' (rows ++ [row]) := by
  obtain ⟨log₁, log₂, h₁, h₂, hrun'⟩ := handleMessage_cases cfg sessionNumber writes row log
  rw [hrun] at hrun'
  cases hrun'
  have hinv : LogInv cfg sessionNumber fs₀ log₁ (rows ++ [row]) ∧ log₁.part = log.part := by
    rcases h₁ with rfl | hf
    · exact ⟨h.added row, rfl⟩
    · exact ⟨((h.added row).flushed hf).1, hf.frame.2.1⟩
  rcases h₂ with rfl | rfl
  · exact hinv.1
  · apply hinv.1.moved
    rw [hinv.2]
    apply hpart.resolve_left
    intro he
    rw [withFile_eq] at he
    change wrap32 (log₁.part+1) = log.part at he
    rw [hinv.2] at he
    unfold wrap32 at he
    omega

end LogInv

def Log.started (cfg : LogConfig Line) (sessionNumber : String) (files : FileStore String Line) :
    Log Line where
  part := 1
  counter := 0
  saveFilePath := partPath cfg sessionNumber 1
  saveSessionFilePath := sessionSummaryPath cfg
  reportLines := []
  files := files

theorem startLog_run (cfg : LogConfig Line) (sessionNumber : String) (ok : Bool) (log : Log Line) :
    (startLog cfg sessionNumber ok).run log =
      (.ok (), (Log.started cfg sessionNumber log.files).withFile cfg ok) :=
  createLogFileIfNotExists_run cfg ok (Log.started cfg sessionNumber log.files)

theorem logInv_started (cfg : LogConfig Line) (sessionNumber : String) (ok : Bool)
    (files : FileStore String Line) :
    LogInv cfg sessionNumber files ((Log.started cfg sessionNumber files).withFile cfg ok) [] := by
  have hother := withFile_other cfg ok (Log.started cfg sessionNumber files)
  have hrows : rowsOnDisk cfg sessionNumber files
      ((Log.started cfg sessionNumber files).withFile cfg ok) = [] := by
    rw [withFile_eq]
    change FileStore.seriesSince _ files _ (0+1) = []
    rw [FileStore.seriesSince_succ]
    exact withFile_since cfg ok files (Log.started cfg sessionNumber files) rfl
  refine ⟨?_, ?_, ?_, ?_, ?_⟩
  · rw [withFile_eq]
    exact le_rfl
  · rw [withFile_eq]
    rfl
  · intro k
    by_cases hk : partPath cfg sessionNumber k = partPath cfg sessionNumber 1
    · rw [hk]
      exact withFile_headed cfg ok files (Log.started cfg sessionNumber files) rfl
    · exact FileStore.headed_congr _ files _ _ (hother _ hk) (FileStore.headed_self _ _)
  · intro k hk
    rw [withFile_eq] at hk
    change 1 < k at hk
    apply hother
    intro he
    have hk1 := partPath_injective cfg sessionNumber he
    omega
  · rw [hrows, withFile_eq]
    rfl

/-! The messages of a session. -/

def handleAll (cfg : LogConfig Line) (sessionNumber : String) (log : Log Line)
    (messages : List (Line × Writes)) : Log Line :=
  messages.foldl (fun log m => ((handleMessage cfg sessionNumber m.2 m.1).run log).2) log

/-- How many of the messages finished a part. -/
def rotations (cfg : LogConfig Line) (sessionNumber : String) : Log Line → List (Line × Writes) → ℕ
  | _, [] => 0
  | log, m :: rest =>
    let log' := ((handleMessage cfg sessionNumber m.2 m.1).run log).2
    (if log'.part = log.part then 0 else 1) + rotations cfg sessionNumber log' rest

theorem handleMessage_run_eq (cfg : LogConfig Line) (sessionNumber : String) (writes : Writes)
    (row : Line) (log : Log Line) : (handleMessage cfg sessionNumber writes row).run log =
      (.ok (), ((handleMessage cfg sessionNumber writes row).run log).2) := by
  obtain ⟨log₁, log₂, -, -, hrun⟩ := handleMessage_cases cfg sessionNumber writes row log
  rw [hrun]

theorem handleMessage_part (cfg : LogConfig Line) (sessionNumber : String) (writes : Writes)
    (row : Line) (log : Log Line) :
    ((handleMessage cfg sessionNumber writes row).run log).2.part = log.part ∨
    ((handleMessage cfg sessionNumber writes row).run log).2.part = wrap32 (log.part+1) := by
  obtain ⟨log₁, log₂, h₁, h₂, hrun⟩ := handleMessage_cases cfg sessionNumber writes row log
  have hp : log₁.part = log.part := by
    rcases h₁ with rfl | hf
    · rfl
    · exact hf.frame.2.1
  rw [hrun]
  rcases h₂ with rfl | rfl
  · exact .inl hp
  · rw [withFile_eq]
    exact .inr (congrArg (fun p => wrap32 (p+1)) hp)

theorem logInv_handleAll (cfg : LogConfig Line) (sessionNumber : String)
    (fs₀ : FileStore String Line) (messages : List (Line × Writes)) (log : Log Line)
    (rows : List Line)
    (h : LogInv cfg sessionNumber fs₀ log rows)
    (hpart : log.part + rotations cfg sessionNumber log messages ≤ 2147483647) :
    LogInv cfg sessionNumber fs₀ (handleAll cfg sessionNumber log messages)
      (rows ++ messages.map Prod.fst) := by
  induction messages generalizing log rows with
  | nil =>
    rw [List.map_nil, List.append_nil]
    exact h
  | cons m rest ih =>
    have hrun := handleMessage_run_eq cfg sessionNumber m.2 m.1 log
    have hcases := handleMessage_part cfg sessionNumber m.2 m.1 log
    have hpos := h.part_pos
    rw [rotations] at hpart
    set log' := ((handleMessage cfg sessionNumber m.2 m.1).run log).2
    have hstep : LogInv cfg sessionNumber fs₀ log' (rows ++ [m.1]) := by
      apply h.handleMessage m.2 m.1 hrun
      by_cases he : log'.part = log.part
      · exact .inl he
      · rw [if_neg he] at hpart
        push_cast at hpart
        exact .inr (by omega)
    have hrest := ih log' (rows ++ [m.1]) hstep ?_
    · rw [List.append_assoc] at hrest
      exact hrest
    by_cases he : log'.part = log.part
    · rw [if_pos he] at hpart
      push_cast at hpart
      omega
    · have hnext := hcases.resolve_left he
      rw [if_neg he] at hpart
      push_cast at hpart
      rw [wrap32_of_range _ (by omega) (by omega)] at hnext
      omega

theorem rotations_append (cfg : LogConfig Line) (sessionNumber : String) (log : Log Line)
    (first rest : List (Line × Writes)) :
    rotations cfg sessionNumber log (first ++ rest) = rotations cfg sessionNumber log first +
      rotations cfg sessionNumber (handleAll cfg sessionNumber log first) rest := by
  induction first generalizing log with
  | nil => exact (Nat.zero_add _).symm
  | cons m first ih =>
    rw [List.cons_append, rotations, rotations, ih, ← Nat.add_assoc]
    rfl

theorem rotations_le_length (cfg : LogConfig Line) (sessionNumber : String) (log : Log Line)
    (messages : List (Line × Writes)) :
    rotations cfg sessionNumber log messages ≤ messages.length := by
  induction messages generalizing log with
  | nil => exact le_rfl
  | cons m rest ih =>
    have hrest := ih ((handleMessage cfg sessionNumber m.2 m.1).run log).2
    rw [rotations, List.length_cons]
    split_ifs <;> omega

/-- A message that completes a batch writes the whole buffer. -/
theorem handleMessage_full (cfg : LogConfig Line) (sessionNumber : String) (writes : Writes)
    (row : Line) (log : Log Line) (hbatch : cfg.maxLinesPerBatch ≠ 0)
    (hfull : (wrap32 (log.counter+1)).tmod cfg.maxLinesPerBatch = 0) (hwrite : writes.batch = true)
    (hfile : (log.files log.saveFilePath).isSome) :
    ∃ log₁, Flushed (log.added row) log₁ ∧ (handleMessage cfg sessionNumber writes row).run log =
      (.ok (), if log₁.counter > cfg.maxLinesPerChunk then
        (log₁.moved cfg sessionNumber).withFile cfg writes.header else log₁) := by
  have hbatch : ∃ log₁, Flushed (log.added row) log₁ ∧
      (writeBatch cfg writes.batch).run (log.added row) = (.ok (), log₁) := by
    unfold writeBatch
    rw [Java.bind_ok _ _ _ _ _ rfl, if_neg hbatch]
    rw [if_pos (show (log.added row).counter.tmod cfg.maxLinesPerBatch = 0 from hfull)]
    rcases flush_cases writes.batch (log.added row) with ⟨log₁, hf, -, hrun⟩ | ⟨hno | hno, -⟩
    · exact ⟨log₁, hf, hrun⟩
    · rw [hwrite] at hno
      cases hno
    · change log.files log.saveFilePath = none at hno
      rw [hno] at hfile
      cases hfile
  obtain ⟨log₁, hf, hrun⟩ := hbatch
  refine ⟨log₁, hf, ?_⟩
  unfold handleMessage
  rw [Java.run_attempt, Java.bind_ok _ _ log (log.added row) () rfl,
    Java.bind_ok _ _ _ log₁ () hrun, nextChunk_run]

/-! The log of the app: rows are the texts of the reports. -/

def trackerConfig (maxLinesPerBatch maxLinesPerChunk : ℤ) (documents deviceId : String) :
    LogConfig String :=
  { maxLinesPerBatch, maxLinesPerChunk, documents, deviceId, header := headerLine }

/-- One call of the handler, on the platform as it is then. -/
structure Handled where
  world : World
  rep : Report
  writes : Writes

def rowText (A : Android) (w : World) (rep : Report) : String :=
  String.intercalate csvDelimieter ((toStringBody A rep).run { world := w }).2.values

theorem toString_eq_rowText (A : Android) (w : World) (rep : Report) :
    ((rep.toString A).run w).1 = .ok (rowText A w rep) := rfl

def Handled.row (A : Android) (m : Handled) : String := rowText A m.world m.rep

/-- The log after `StartTracing` and the given calls of the handler. -/
def sessionLog (A : Android) (cfg : LogConfig String) (sessionNumber : String) (ok : Bool)
    (log₀ : Log String) (handled : List Handled) : Log String :=
  handleAll cfg sessionNumber ((startLog cfg sessionNumber ok).run log₀).2
    (handled.map fun m => (m.row A, m.writes))

/-- No loss, no duplication, no reordering, at every moment and once the last flush succeeded. -/
structure LogExact (A : Android) (cfg : LogConfig String) (sessionNumber : String) (ok : Bool)
    (log₀ : Log String) (handled : List Handled) : Prop where
  always : ∀ k, rowsOnDisk cfg sessionNumber log₀.files
      (sessionLog A cfg sessionNumber ok log₀ (handled.take k)) ++
      (sessionLog A cfg sessionNumber ok log₀ (handled.take k)).reportLines =
    (handled.take k).map (Handled.row A)
  stopped : ∀ flush log',
    (saveUnsavedLogs flush).run (sessionLog A cfg sessionNumber ok log₀ handled) = (.ok (), log') →
    rowsOnDisk cfg sessionNumber log₀.files log' = handled.map (Handled.row A)

def sessionRotations (A : Android) (cfg : LogConfig String) (sessionNumber : String) (ok : Bool)
    (log₀ : Log String) (handled : List Handled) : ℕ :=
  rotations cfg sessionNumber ((startLog cfg sessionNumber ok).run log₀).2
    (handled.map fun m => (m.row A, m.writes))

theorem logInv_sessionLog (A : Android) (cfg : LogConfig String) (sessionNumber : String)
    (ok : Bool) (log₀ : Log String) (handled : List Handled)
    (h : sessionRotations A cfg sessionNumber ok log₀ handled < 2147483647) :
    LogInv cfg sessionNumber log₀.files (sessionLog A cfg sessionNumber ok log₀ handled)
      (handled.map (Handled.row A)) := by
  rw [sessionRotations, startLog_run] at h
  rw [sessionLog, startLog_run]
  dsimp only at h
  have hpart : ((Log.started cfg sessionNumber log₀.files).withFile cfg ok).part = 1 := by
    rw [withFile_eq]
    rfl
  have hall := logInv_handleAll cfg sessionNumber log₀.files
    (handled.map fun m => (m.row A, m.writes)) _ [] (logInv_started cfg sessionNumber ok log₀.files)
      (by rw [hpart]; omega)
  rw [List.nil_append, List.map_map] at hall
  exact hall

/-- As long as the part number does not overflow, the log is exact for every batch
size, every chunk size and every pattern of failing writes. -/
theorem tracker_log_exact (A : Android) (maxLinesPerBatch maxLinesPerChunk : ℤ)
    (documents deviceId sessionNumber : String) (ok : Bool) (log₀ : Log String)
    (handled : List Handled)
    (h : sessionRotations A (trackerConfig maxLinesPerBatch maxLinesPerChunk documents deviceId)
      sessionNumber ok log₀ handled < 2147483647) :
    LogExact A (trackerConfig maxLinesPerBatch maxLinesPerChunk documents deviceId)
      sessionNumber ok log₀ handled := by
  refine ⟨?_, ?_⟩
  · intro k
    apply (logInv_sessionLog A _ sessionNumber ok log₀ (handled.take k) _).rows
    refine lt_of_le_of_lt ?_ h
    have happ := congrArg (List.map fun m => (Handled.row A m, m.writes))
      (List.take_append_drop k handled)
    rw [List.map_append] at happ
    rw [sessionRotations, sessionRotations, ← happ, rotations_append]
    exact Nat.le_add_right _ _
  · intro flush log' hrun
    have hinv := logInv_sessionLog A _ sessionNumber ok log₀ handled h
    rcases saveUnsavedLogs_cases flush (sessionLog A _ sessionNumber ok log₀ handled) with
      ⟨hnil, h₁⟩ | ⟨log₁, hf, h₁⟩ | ⟨-, h₁⟩ <;> rw [h₁] at hrun <;> cases hrun
    · have hrows := hinv.rows
      rw [hnil, List.append_nil] at hrows
      exact hrows
    · exact (hinv.flushed hf).2

/-- Three reports in parts of one row: the batch write of the second one fails, so the part is not
closed, and the third one is written with it before the next part is begun. -/
theorem tracker_log_exact_failing_write :
    LogExact ltePhone (trackerConfig 1 1 "/sdcard" "phone") "1700000000" true
      { files := fun _ => none }
      [⟨ltePhoneStarted, {}, ⟨true, true⟩⟩, ⟨ltePhoneStarted, {}, ⟨false, true⟩⟩,
        ⟨ltePhoneStarted, {}, ⟨true, true⟩⟩] := by
  apply tracker_log_exact
  refine lt_of_le_of_lt (rotations_le_length _ _ _ _) ?_
  decide

/-! Without failures, the handler counts in chunks; the part number wraps after 2³¹-1 of them. -/

theorem handleMessage_succeeds (cfg : LogConfig Line) (sessionNumber : String) (row : Line)
    (log : Log Line) (hbatch : cfg.maxLinesPerBatch ≠ 0)
    (hfile : (log.files log.saveFilePath).isSome) :
    ∃ log₁ : Log Line, log₁.part = log.part ∧ log₁.counter = wrap32 (log.counter+1) ∧
      (log₁.files log₁.saveFilePath).isSome ∧
      (handleMessage cfg sessionNumber ⟨true, true⟩ row).run log =
        (.ok (), if log₁.counter > cfg.maxLinesPerChunk then
          (log₁.moved cfg sessionNumber).withFile cfg true else log₁) := by
  by_cases hfull : (wrap32 (log.counter+1)).tmod cfg.maxLinesPerBatch = 0
  · obtain ⟨log₁, hf, hrun⟩ :=
      handleMessage_full cfg sessionNumber ⟨true, true⟩ row log hbatch hfull rfl hfile
    exact ⟨log₁, hf.frame.2.1, hf.frame.2.2.2, hf.exists_file, hrun⟩
  · refine ⟨log.added row, rfl, rfl, hfile, ?_⟩
    have hskip : (writeBatch cfg true).run (log.added row) = (.ok (), log.added row) := by
      unfold writeBatch
      rw [Java.bind_ok _ _ _ _ _ rfl, if_neg hbatch]
      exact congrArg (fun x => Java.run x _) (if_neg hfull)
    unfold handleMessage
    rw [Java.run_attempt, Java.bind_ok _ _ log (log.added row) () rfl,
      Java.bind_ok _ _ _ _ () hskip, nextChunk_run]

/-- The default chunk of 4000 batches of 60 lines is left with line 240001. -/
theorem handleAll_default_chunks (cfg : LogConfig Line) (sessionNumber : String) (row : Line)
    (hbatch : cfg.maxLinesPerBatch = 60) (hchunk : cfg.maxLinesPerChunk = 240000) (log : Log Line)
    (hpart : log.part = 1) (hcounter : log.counter = 0)
    (hfile : (log.files log.saveFilePath).isSome) (n : ℕ) :
    (handleAll cfg sessionNumber log (List.replicate n (row, ⟨true, true⟩))).part = wrap32
    (1 + n/240001) ∧
    (handleAll cfg sessionNumber log (List.replicate n (row, ⟨true, true⟩))).counter = n%240001 ∧
    ((handleAll cfg sessionNumber log (List.replicate n (row, ⟨true, true⟩))).files
      (handleAll cfg sessionNumber log
        (List.replicate n (row, ⟨true, true⟩))).saveFilePath).isSome := by
  induction n with
  | zero => exact ⟨hpart, hcounter, hfile⟩
  | succ n ih =>
    obtain ⟨hp, hc, hf⟩ := ih
    have hstep : handleAll cfg sessionNumber log (List.replicate (n+1) (row, ⟨true, true⟩)) =
        ((handleMessage cfg sessionNumber ⟨true, true⟩ row).run
          (handleAll cfg sessionNumber log (List.replicate n (row, ⟨true, true⟩)))).2 := by
      rw [List.replicate_succ', handleAll, List.foldl_append]
      rfl
    set log' := handleAll cfg sessionNumber log (List.replicate n (row, ⟨true, true⟩))
    obtain ⟨log₁, hp₁, hc₁, hf₁, hrun⟩ :=
      handleMessage_succeeds cfg sessionNumber row log' (by omega) hf
    have hcount : log₁.counter = n%240001 + 1 := by
      rw [hc₁, hc]
      exact wrap32_of_range _ (by omega) (by omega)
    rw [hstep, hrun]
    split_ifs with hfull
    · refine ⟨?_, ?_, exists_file_withFile cfg _⟩
      · rw [withFile_eq]
        change wrap32 (log₁.part+1) = _
        rw [hp₁, hp, wrap32_add_wrap32]
        congr 1
        push_cast
        omega
      · rw [withFile_eq]
        change (0:ℤ) = _
        push_cast
        omega
    · refine ⟨?_, ?_, hf₁⟩
      · change log₁.part = _
        rw [hp₁, hp]
        congr 1
        push_cast
        omega
      · change log₁.counter = _
        push_cast
        omega

/-- With a part number below one there are no parts 1 to `part`. -/
theorem not_logExact_of_part (A : Android) (cfg : LogConfig String) (sessionNumber : String)
    (ok : Bool) (log₀ : Log String) (handled : List Handled) (hsome : handled ≠ [])
    (hpart : (sessionLog A cfg sessionNumber ok log₀ handled).part ≤ 0)
    (hfile : ((sessionLog A cfg sessionNumber ok log₀ handled).files
      (sessionLog A cfg sessionNumber ok log₀ handled).saveFilePath).isSome) :
    ¬LogExact A cfg sessionNumber ok log₀ handled := by
  intro h
  have hstop := h.stopped true
  generalize sessionLog A cfg sessionNumber ok log₀ handled = log at hstop hpart hfile
  obtain ⟨log', hrun, -⟩ := saveUnsavedLogs_ok log hfile
  have hsame := (saveUnsavedLogs_frame true log log' _ hrun).2.1
  have hrows := hstop log' hrun
  have hnone : log'.part.toNat = 0 := by omega
  rw [rowsOnDisk, hnone] at hrows
  exact hsome (List.map_eq_nil_iff.mp hrows.symm)

theorem not_logExact_default (A : Android) (w : World) (rep : Report) (cfg : LogConfig String)
    (hbatch : cfg.maxLinesPerBatch = 60) (hchunk : cfg.maxLinesPerChunk = 240000)
    (sessionNumber : String)
    (log₀ : Log String) (n : ℕ) (hn : 0 < n) (hpart : wrap32 (1 + n/240001) ≤ 0) :
    ¬LogExact A cfg sessionNumber true log₀ (List.replicate n ⟨w, rep, ⟨true, true⟩⟩) := by
  have hchunks := handleAll_default_chunks cfg sessionNumber (rowText A w rep) hbatch hchunk
    ((Log.started cfg sessionNumber log₀.files).withFile cfg true)
    (by rw [withFile_eq]; rfl) (by rw [withFile_eq]; rfl) (exists_file_withFile cfg _) n
  have hlog : sessionLog A cfg sessionNumber true log₀ (List.replicate n ⟨w, rep, ⟨true, true⟩⟩) =
      handleAll cfg sessionNumber ((Log.started cfg sessionNumber log₀.files).withFile cfg true)
        (List.replicate n (rowText A w rep, ⟨true, true⟩)) := by
    rw [sessionLog, startLog_run, List.map_replicate]
    rfl
  apply not_logExact_of_part
  · rw [Ne, List.replicate_eq_nil_iff]
    omega
  · rw [hlog, hchunks.1]
    exact hpart
  · rw [hlog]
    exact hchunks.2.2

/-- After 2³¹-1 finished parts `part` is negative. -/
theorem tracker_log_loses_overflowing_parts :
    ¬LogExact ltePhone (trackerConfig 60 240000 "/sdcard" "phone") "1700000000" true
      { files := fun _ => none }
      (List.replicate (240001*2147483647) ⟨ltePhoneStarted, {}, ⟨true, true⟩⟩) := by
  apply not_logExact_default _ _ _ _ rfl rfl
  · decide
  · decide

end MmWaveTracker
