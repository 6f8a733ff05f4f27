import MmWaveTracker.TrackerLog

/-! How many rows of a session the part files hold, when all writes succeed: a part is left
only with the line after `MAX_LINES_PER_CHUNK`, and takes what was still in the buffer. -/
namespace MmWaveTracker

variable {Line : Type}

/-- Messages whose writes all succeed. -/
def handleRows (cfg : LogConfig Line) (sessionNumber : String) (log : Log Line) (rows : List Line) :
    Log Line :=
  handleAll cfg sessionNumber log (rows.map fun row => (row, ⟨true, true⟩))

/-- The log of a session whose writes all succeed, after the flush of `StopTracing`. -/
def finishedLog (cfg : LogConfig Line) (sessionNumber : String) (log₀ : Log Line)
    (rows : List Line) : Log Line :=
  ((saveUnsavedLogs true).run
    (handleRows cfg sessionNumber ((startLog cfg sessionNumber true).run log₀).2 rows)).2

/-- The data rows of a part file that were added since `fs₀`. -/
def rowsInPart (cfg : LogConfig Line) (sessionNumber : String) (fs₀ fs : FileStore String Line)
    (part : ℤ) : ℕ :=
  (FileStore.since fs₀ fs (partPath cfg sessionNumber part)).length

/-! Files only grow. -/

/-- The files of `fs₀` are still there, with what they held. -/
structure FilesKept (fs₀ fs : FileStore String Line) : Prop where
  headed : ∀ p, FileStore.Headed fs₀ fs p
  there : ∀ p, fs p = none → fs₀ p = none

/-- A step that keeps the files, and takes no row away. -/
def Grows (fs₀ fs fs' : FileStore String Line) : Prop :=
  FilesKept fs₀ fs → FilesKept fs₀ fs' ∧
    ∀ p, (FileStore.since fs₀ fs p).length ≤ (FileStore.since fs₀ fs' p).length

section Grows

variable {fs₀ : FileStore String Line}

theorem filesKept_self : FilesKept fs₀ fs₀ := ⟨FileStore.headed_self fs₀, fun _ h => h⟩

theorem Grows.refl (fs : FileStore String Line) : Grows fs₀ fs fs := fun h => ⟨h, fun _ => le_rfl⟩

theorem Grows.trans {fs fs' fs'' : FileStore String Line} (h : Grows fs₀ fs fs')
    (h' : Grows fs₀ fs' fs'') : Grows fs₀ fs fs'' := by
  intro hkept
  obtain ⟨hkept', hle⟩ := h hkept
  obtain ⟨hkept'', hle'⟩ := h' hkept'
  exact ⟨hkept'', fun p => (hle p).trans (hle' p)⟩

theorem grows_append (fs fs' : FileStore String Line) (p : String) (lines : List Line)
    (h : fs.append p lines = some fs') : Grows fs₀ fs fs' := by
  intro hkept
  obtain ⟨old, hold, hfs'⟩ := FileStore.append_eq_some fs fs' p lines h
  refine ⟨⟨fun q => FileStore.headed_append fs₀ fs fs' p lines q (hkept.headed q) h, ?_⟩, ?_⟩
  · intro q hq
    by_cases hqp : q = p
    · rw [hqp, hfs', Function.update_self] at hq
      cases hq
    · rw [FileStore.append_other fs fs' p lines q hqp h] at hq
      exact hkept.there q hq
  · intro q
    by_cases hqp : q = p
    · rw [hqp, FileStore.since_append fs₀ fs fs' p lines (hkept.headed p) h, List.length_append]
      omega
    · rw [FileStore.since_congr fs₀ fs fs' q (FileStore.append_other fs fs' p lines q hqp h)]

theorem Flushed.grows {log log' : Log Line} (h : Flushed log log') (fs₀ : FileStore String Line) :
    Grows fs₀ log.files log'.files := by
  obtain ⟨files, hfiles, rfl⟩ := h
  exact grows_append log.files files _ _ hfiles

theorem grows_withFile (cfg : LogConfig Line) (ok : Bool) (log : Log Line) :
    Grows fs₀ log.files (log.withFile cfg ok).files := by
  unfold Log.withFile
  split_ifs with hc
  · intro hkept
    have hnone := Option.isNone_iff_eq_none.mp hc.1
    have hnone₀ := hkept.there _ hnone
    refine ⟨⟨fun q => FileStore.headed_create fs₀ log.files _ cfg.header q hnone₀ (hkept.headed q),
      ?_⟩, ?_⟩
    · intro q hq
      by_cases hqp : q = log.saveFilePath
      · exact hqp ▸ hnone₀
      · exact hkept.there q ((FileStore.create_other log.files _ cfg.header q hqp).symm.trans hq)
    · intro q
      by_cases hqp : q = log.saveFilePath
      · rw [hqp, FileStore.since, FileStore.contents, hnone]
        simp
      · rw [FileStore.since_congr fs₀ log.files _ q
          (FileStore.create_other log.files _ cfg.header q hqp)]
  · exact Grows.refl _

theorem grows_handleMessage (cfg : LogConfig Line) (sessionNumber : String) (writes : Writes)
    (row : Line) (log : Log Line) :
    Grows fs₀ log.files ((handleMessage cfg sessionNumber writes row).run log).2.files := by
  obtain ⟨log₁, log₂, h₁, h₂, hrun⟩ := handleMessage_cases cfg sessionNumber writes row log
  have hgrows : Grows fs₀ log.files log₁.files := by
    rcases h₁ with rfl | hf
    · exact Grows.refl _
    · exact hf.grows fs₀
  rw [hrun]
  rcases h₂ with rfl | rfl
  · exact hgrows
  · exact hgrows.trans (grows_withFile cfg writes.header (log₁.moved cfg sessionNumber))

theorem grows_handleAll (cfg : LogConfig Line) (sessionNumber : String)
    (messages : List (Line × Writes)) (log : Log Line) :
    Grows fs₀ log.files (handleAll cfg sessionNumber log messages).files := by
  induction messages generalizing log with
  | nil => exact Grows.refl _
  | cons m rest ih => exact (grows_handleMessage cfg sessionNumber m.2 m.1 log).trans (ih _)

theorem grows_saveUnsavedLogs (ok : Bool) (log : Log Line) :
    Grows fs₀ log.files ((saveUnsavedLogs ok).run log).2.files := by
  rcases saveUnsavedLogs_cases ok log with ⟨-, hrun⟩ | ⟨log', hf, hrun⟩ | ⟨-, hrun⟩
  · rw [hrun]
    exact Grows.refl _
  · rw [hrun]
    exact hf.grows fs₀
  · rw [hrun]
    exact Grows.refl _

end Grows

/-! One part at a time. -/

/-- Message `k` of a part file that began with no row of the session and `u` rows in the buffer. -/
structure Filling (cfg : LogConfig Line) (sessionNumber : String) (fs₀ base : FileStore String Line)
    (part : ℤ) (b u k : ℕ) (log : Log Line) : Prop where
  current : log.part = part
  path : log.saveFilePath = partPath cfg sessionNumber part
  file : (log.files log.saveFilePath).isSome
  kept : FilesKept fs₀ log.files
  counter : log.counter = k
  buffer : log.reportLines.length = if k < b then u+k else k%b
  onDisk : rowsInPart cfg sessionNumber fs₀ log.files part + log.reportLines.length = u+k
  others : ∀ q, q ≠ part → log.files (partPath cfg sessionNumber q) =
    base (partPath cfg sessionNumber q)

section Filling

variable {cfg : LogConfig Line} {sessionNumber : String} {fs₀ base : FileStore String Line}
    {part : ℤ} {b m u k : ℕ}
  {log : Log Line}

/-- A message whose writes succeed. -/
theorem handleMessage_written (cfg : LogConfig Line) (sessionNumber : String) (row : Line)
    (log : Log Line) (hb : cfg.maxLinesPerBatch ≠ 0)
    (hfile : (log.files log.saveFilePath).isSome) :
    ∃ log₁, (if (wrap32 (log.counter+1)).tmod cfg.maxLinesPerBatch = 0 then
        Flushed (log.added row) log₁ else log₁ = log.added row) ∧
      ((handleMessage cfg sessionNumber ⟨true, true⟩ row).run log).2 =
        if log₁.counter > cfg.maxLinesPerChunk then (log₁.moved cfg sessionNumber).withFile cfg true
          else log₁ := by
  by_cases hfull : (wrap32 (log.counter+1)).tmod cfg.maxLinesPerBatch = 0
  · obtain ⟨log₁, hf, hrun⟩ :=
      handleMessage_full cfg sessionNumber ⟨true, true⟩ row log hb hfull rfl hfile
    exact ⟨log₁, by rw [if_pos hfull]; exact hf, by rw [hrun]⟩
  · refine ⟨log.added row, by rw [if_neg hfull], ?_⟩
    have hskip : (writeBatch cfg true).run (log.added row) = (.ok (), log.added row) := by
      unfold writeBatch
      rw [Java.bind_ok _ _ _ _ _ rfl, if_neg hb]
      exact congrArg (fun x => Java.run x _) (if_neg hfull)
    unfold handleMessage
    rw [Java.run_attempt, Java.bind_ok _ _ log (log.added row) () rfl,
      Java.bind_ok _ _ _ _ () hskip, nextChunk_run]

/-- The buffer after one more row. -/
theorem buffer_succ (hb : 0 < b) : (if k+1 < b then u+(k+1) else (k+1)%b) =
    if (k+1)%b = 0 then 0 else (if k < b then u+k else k%b)+1 := by
  by_cases hfull : (k+1)%b = 0
  · have hge : ¬k+1 < b := by
      intro hlt
      rw [Nat.mod_eq_of_lt hlt] at hfull
      omega
    rw [if_pos hfull, if_neg hge, hfull]
  · rw [if_neg hfull]
    by_cases hlt : k+1 < b
    · rw [if_pos hlt, if_pos (by omega)]
      omega
    · have hne : k+1 ≠ b := by
        intro heq
        rw [heq, Nat.mod_self] at hfull
        exact hfull rfl
      have hmod : (k+1)%b = (k%b+1)%b := (Nat.mod_add_mod k b 1).symm
      have hlast : k%b+1 ≠ b := by
        intro heq
        rw [hmod, heq, Nat.mod_self] at hfull
        exact hfull rfl
      have hrest := Nat.mod_lt k hb
      rw [if_neg hlt, if_neg (by omega), hmod, Nat.mod_eq_of_lt (by omega)]

theorem tmod_eq_zero_iff : ((k+1 : ℕ):ℤ).tmod (b:ℤ) = 0 ↔ (k+1)%b = 0 := by
  rw [Int.tmod_eq_emod_of_nonneg (Int.natCast_nonneg _), ← Int.natCast_emod, Int.natCast_eq_zero]

/-- A flush adds the buffer to the rows of its part, and to no other file. -/
theorem Flushed.rows {log₁ : Log Line} (h : Flushed log log₁) (hkept : FilesKept fs₀ log.files)
    (hpath : log.saveFilePath = partPath cfg sessionNumber part) :
    rowsInPart cfg sessionNumber fs₀ log₁.files part =
      rowsInPart cfg sessionNumber fs₀ log.files part + log.reportLines.length ∧
    ∀ q, q ≠ part → log₁.files (partPath cfg sessionNumber q) =
      log.files (partPath cfg sessionNumber q) := by
  obtain ⟨files, hfiles, rfl⟩ := h
  rw [hpath] at hfiles
  have hsince := FileStore.since_append fs₀ log.files files _ _ (hkept.headed _) hfiles
  constructor
  · rw [rowsInPart, hsince, List.length_append]
    rfl
  · intro q hq
    exact FileStore.append_other log.files files _ _ _ (fun heq =>
      hq (partPath_injective cfg sessionNumber heq)) hfiles

/-- The flush at the end, whose write succeeds. -/
theorem saveUnsavedLogs_rows (hfile : (log.files log.saveFilePath).isSome)
    (hkept : FilesKept fs₀ log.files) (hpath : log.saveFilePath = partPath cfg sessionNumber part) :
    rowsInPart cfg sessionNumber fs₀ ((saveUnsavedLogs true).run log).2.files part =
      rowsInPart cfg sessionNumber fs₀ log.files part + log.reportLines.length ∧
    ∀ q, q ≠ part → ((saveUnsavedLogs true).run log).2.files (partPath cfg sessionNumber q) =
      log.files (partPath cfg sessionNumber q) := by
  rcases saveUnsavedLogs_cases true log with ⟨hnil, hrun⟩ | ⟨log', hf, hrun⟩ | ⟨hno | hno, -⟩
  · rw [hrun, hnil]
    exact ⟨rfl, fun _ _ => rfl⟩
  · rw [hrun]
    exact hf.rows hkept hpath
  · cases hno
  · rw [hno] at hfile
    cases hfile

/-- The row is in the buffer, or in the file with the others. -/
theorem Filling.next {log₁ : Log Line} (h : Filling cfg sessionNumber fs₀ base part b u k log)
    (row : Line) (hb : 0 < b) (hbatch : cfg.maxLinesPerBatch = b) (hk : k < 2147483647)
    (h₁ : if (wrap32 (log.counter+1)).tmod cfg.maxLinesPerBatch = 0 then
      Flushed (log.added row) log₁ else log₁ = log.added row) :
    Filling cfg sessionNumber fs₀ base part b u (k+1) log₁ := by
  have hcounter : wrap32 (log.counter+1) = (k+1 : ℕ) := by
    rw [h.counter, wrap32_of_range _ (by omega) (by omega)]
    rfl
  have hbuffer := buffer_succ (k := k) (u := u) hb
  have hrows := h.onDisk
  rw [hcounter, hbatch] at h₁
  by_cases hfull : (k+1)%b = 0
  · rw [if_pos (tmod_eq_zero_iff.mpr hfull)] at h₁
    rw [if_pos hfull] at hbuffer
    have hkept := h₁.grows fs₀ h.kept
    obtain ⟨hpath₁, hpart₁, -, hcounter₁⟩ := h₁.frame
    have hfile := h₁.exists_file
    have hpath : (log.added row).saveFilePath = partPath cfg sessionNumber part := h.path
    obtain ⟨hadded, hothers⟩ := h₁.rows h.kept hpath
    have hempty : log₁.reportLines = [] := by
      obtain ⟨files, -, rfl⟩ := h₁
      rfl
    refine ⟨hpart₁.trans h.current, hpath₁.trans h.path, hfile, hkept.1, hcounter₁.trans hcounter,
      ?_, ?_, ?_⟩
    · rw [hempty, hbuffer]
      rfl
    · rw [hadded, hempty]
      change rowsInPart cfg sessionNumber fs₀ log.files part + (log.reportLines ++ [row]).length +
        0 = _
      rw [List.length_append, List.length_singleton]
      omega
    · exact fun q hq => (hothers q hq).trans (h.others q hq)
  · rw [if_neg (fun hzero => hfull (tmod_eq_zero_iff.mp hzero))] at h₁
    rw [if_neg hfull] at hbuffer
    subst h₁
    refine ⟨h.current, h.path, h.file, h.kept, hcounter, ?_, ?_, h.others⟩
    · change (log.reportLines ++ [row]).length = _
      rw [hbuffer, List.length_append, h.buffer, List.length_singleton]
    · change _ + (log.reportLines ++ [row]).length = _
      rw [List.length_append, List.length_singleton]
      change rowsInPart cfg sessionNumber fs₀ log.files part + _ = _
      omega

theorem Filling.stay (h : Filling cfg sessionNumber fs₀ base part b u k log) (row : Line)
    (hb : 0 < b) (hbatch : cfg.maxLinesPerBatch = b) (hchunk : cfg.maxLinesPerChunk = m)
    (hk : k < m) (hm : m < 2147483647) :
    Filling cfg sessionNumber fs₀ base part b u (k+1)
      ((handleMessage cfg sessionNumber ⟨true, true⟩ row).run log).2 := by
  obtain ⟨log₁, h₁, hrun⟩ := handleMessage_written cfg sessionNumber row log (by omega) h.file
  have hnext := h.next row hb hbatch (by omega) h₁
  rw [hrun, if_neg]
  · exact hnext
  · rw [hnext.counter, hchunk]
    omega

/-- The rows in the buffer when a part file is left. -/
def carried (b m u : ℕ) : ℕ := if m+1 < b then u+(m+1) else (m+1)%b

/-- The next part begins with no row of the session, and with what is in the buffer. -/
theorem Filling.moved (h : Filling cfg sessionNumber fs₀ base part b u (m+1) log) (hb : 0 < b)
    (hpart : 0 ≤ part ∧ part < 2147483647)
    (hbase : base (partPath cfg sessionNumber (part+1)) =
      fs₀ (partPath cfg sessionNumber (part+1))) :
    Filling cfg sessionNumber fs₀ ((log.moved cfg sessionNumber).withFile cfg true).files (part+1) b
      (carried b m u) 0 ((log.moved cfg sessionNumber).withFile cfg true) ∧
    ∀ q, q ≠ part+1 → ((log.moved cfg sessionNumber).withFile cfg true).files
      (partPath cfg sessionNumber q) = log.files (partPath cfg sessionNumber q) := by
  have hwrap : wrap32 (log.part+1) = part+1 := by
    rw [h.current]
    exact wrap32_of_range _ (by omega) (by omega)
  have hpath : (log.moved cfg sessionNumber).saveFilePath =
      partPath cfg sessionNumber (part+1) := by
    change partPath cfg sessionNumber (wrap32 (log.part+1)) = _
    rw [hwrap]
  have hnone : rowsInPart cfg sessionNumber fs₀
      ((log.moved cfg sessionNumber).withFile cfg true).files (part+1) = 0 := by
    rw [rowsInPart, List.length_eq_zero_iff, ← hpath]
    apply withFile_since
    rw [hpath]
    exact (h.others (part+1) (by omega)).trans hbase
  have hbuffer : ((log.moved cfg sessionNumber).withFile cfg true).reportLines.length =
      carried b m u := by
    rw [withFile_eq]
    exact h.buffer
  constructor
  · refine ⟨?_, ?_, exists_file_withFile cfg _, ?_, ?_, ?_, ?_, fun _ _ => rfl⟩
    · rw [withFile_eq]
      exact hwrap
    · rw [withFile_eq]
      exact hpath
    · exact (grows_withFile cfg true (log.moved cfg sessionNumber) h.kept).1
    · rw [withFile_eq]
      rfl
    · rw [hbuffer, if_pos hb]
      rfl
    · rw [hnone, hbuffer, Nat.zero_add]
      rfl
  · intro q hq
    apply withFile_other
    rw [hpath]
    exact fun heq => hq (partPath_injective cfg sessionNumber heq)

/-- The message after a full chunk leaves the part, and what is in the buffer goes with it. -/
theorem Filling.rotate (h : Filling cfg sessionNumber fs₀ base part b u m log) (row : Line)
    (hb : 0 < b) (hbatch : cfg.maxLinesPerBatch = b) (hchunk : cfg.maxLinesPerChunk = m)
    (hm : m < 2147483647)
    (hpart : 0 ≤ part ∧ part < 2147483647)
    (hbase : base (partPath cfg sessionNumber (part+1)) =
      fs₀ (partPath cfg sessionNumber (part+1))) :
    ∃ log', ((handleMessage cfg sessionNumber ⟨true, true⟩ row).run log).2 = log' ∧
      Filling cfg sessionNumber fs₀ log'.files (part+1) b (carried b m u) 0 log' ∧
      rowsInPart cfg sessionNumber fs₀ log'.files part + carried b m u = u+(m+1) ∧
      ∀ q, q ≠ part → q ≠ part+1 →
        log'.files (partPath cfg sessionNumber q) = base (partPath cfg sessionNumber q) := by
  obtain ⟨log₁, h₁, hrun⟩ := handleMessage_written cfg sessionNumber row log (by omega) h.file
  have hfull := h.next row hb hbatch hm h₁
  obtain ⟨hfilling, hother⟩ := hfull.moved hb hpart hbase
  rw [if_pos (by rw [hfull.counter, hchunk]; omega)] at hrun
  refine ⟨_, hrun, hfilling, ?_, ?_⟩
  · have hdisk := hfull.onDisk
    rw [hfull.buffer] at hdisk
    rw [rowsInPart, FileStore.since_congr fs₀ log₁.files _ _ (hother part (by omega))]
    exact hdisk
  · intro q hq hq'
    exact (hother q hq').trans (hfull.others q hq)

theorem handleRows_append (log : Log Line) (first rest : List Line) :
    handleRows cfg sessionNumber log (first ++ rest) =
      handleRows cfg sessionNumber (handleRows cfg sessionNumber log first) rest := by
  rw [handleRows, List.map_append, handleAll, List.foldl_append]
  rfl

theorem Filling.handleRows (h : Filling cfg sessionNumber fs₀ base part b u k log)
    (rows : List Line) (hb : 0 < b) (hbatch : cfg.maxLinesPerBatch = b)
    (hchunk : cfg.maxLinesPerChunk = m) (hk : k+rows.length ≤ m)
    (hm : m < 2147483647) :
    Filling cfg sessionNumber fs₀ base part b u (k+rows.length)
      (handleRows cfg sessionNumber log rows) := by
  induction rows generalizing k log with
  | nil => exact h
  | cons row rest ih =>
    rw [List.length_cons] at hk
    have hstay := h.stay row hb hbatch hchunk (by omega) hm
    have hrest := ih hstay (by omega)
    rw [show k+1+rest.length = k+(row :: rest).length by rw [List.length_cons]; omega] at hrest
    exact hrest

/-- All messages of one part. -/
theorem Filling.chunk (h : Filling cfg sessionNumber fs₀ base part b u 0 log) (rows : List Line)
    (hb : 0 < b) (hbatch : cfg.maxLinesPerBatch = b) (hchunk : cfg.maxLinesPerChunk = m)
    (hrows : rows.length = m+1)
    (hm : m < 2147483647) (hpart : 0 ≤ part ∧ part < 2147483647)
    (hbase : base (partPath cfg sessionNumber (part+1)) =
      fs₀ (partPath cfg sessionNumber (part+1))) :
    ∃ log', MmWaveTracker.handleRows cfg sessionNumber log rows = log' ∧
      Filling cfg sessionNumber fs₀ log'.files (part+1) b (carried b m u) 0 log' ∧
      rowsInPart cfg sessionNumber fs₀ log'.files part + carried b m u = u+(m+1) ∧
      ∀ q, q ≠ part → q ≠ part+1 →
        log'.files (partPath cfg sessionNumber q) = base (partPath cfg sessionNumber q) := by
  rcases List.eq_nil_or_concat' rows with rfl | ⟨first, last, rfl⟩
  · cases hrows
  rw [List.length_append, List.length_singleton, Nat.add_right_cancel_iff] at hrows
  have hfirst := h.handleRows first hb hbatch hchunk (by omega) hm
  rw [Nat.zero_add, hrows] at hfirst
  rw [handleRows_append]
  exact hfirst.rotate last hb hbatch hchunk hm hpart hbase

/-- The flush at the end. -/
theorem Filling.saveUnsavedLogs (h : Filling cfg sessionNumber fs₀ base part b u k log) :
    rowsInPart cfg sessionNumber fs₀ ((saveUnsavedLogs true).run log).2.files part = u+k ∧
    ∀ q, q ≠ part → ((saveUnsavedLogs true).run log).2.files (partPath cfg sessionNumber q) =
      base (partPath cfg sessionNumber q) := by
  obtain ⟨hrows, hothers⟩ := saveUnsavedLogs_rows h.file h.kept h.path
  exact ⟨hrows.trans h.onDisk, fun q hq => (hothers q hq).trans (h.others q hq)⟩

end Filling

/-! Batches that are larger than a part. -/

/-- Nothing was written so far. -/
structure Unflushed (cfg : LogConfig Line) (sessionNumber : String) (fs₀ : FileStore String Line)
    (m n : ℕ) (log : Log Line) : Prop where
  path : log.saveFilePath = partPath cfg sessionNumber log.part
  file : (log.files log.saveFilePath).isSome
  kept : FilesKept fs₀ log.files
  counter_nonneg : 0 ≤ log.counter
  counter_le : log.counter ≤ m
  buffer : log.reportLines.length = n

section Unflushed

variable {cfg : LogConfig Line} {sessionNumber : String} {fs₀ : FileStore String Line} {b m n : ℕ}
    {log : Log Line}

theorem Unflushed.handleMessage (h : Unflushed cfg sessionNumber fs₀ m n log) (row : Line)
    (hbatch : cfg.maxLinesPerBatch = b) (hchunk : cfg.maxLinesPerChunk = m) (hlarge : m+1 < b)
    (hm : m < 2147483647) :
    Unflushed cfg sessionNumber fs₀ m (n+1)
      ((handleMessage cfg sessionNumber ⟨true, true⟩ row).run log).2 := by
  obtain ⟨log₁, h₁, hrun⟩ := handleMessage_written cfg sessionNumber row log (by omega) h.file
  have hnonneg := h.counter_nonneg
  have hle := h.counter_le
  obtain ⟨k, hk⟩ := Int.eq_ofNat_of_zero_le hnonneg
  have hcounter : wrap32 (log.counter+1) = (k+1 : ℕ) := by
    rw [hk, wrap32_of_range _ (by omega) (by omega)]
    rfl
  have hpart : ¬((k+1 : ℕ):ℤ).tmod (b:ℤ) = 0 := by
    rw [tmod_eq_zero_iff, Nat.mod_eq_of_lt (by omega)]
    omega
  rw [hcounter, hbatch, if_neg hpart] at h₁
  subst h₁
  have hkept := (grows_handleMessage cfg sessionNumber ⟨true, true⟩ row log h.kept).1
  have hpath := handleMessage_saveFilePath cfg sessionNumber ⟨true, true⟩ row log h.path
  have hfile := exists_file_handleMessage cfg sessionNumber ⟨true, true⟩ row log rfl h.file
  have hbuffer : (log.reportLines ++ [row]).length = n+1 := by
    rw [List.length_append, h.buffer, List.length_singleton]
  refine ⟨hpath, hfile, hkept, ?_, ?_, ?_⟩
  all_goals
    rw [hrun]
    split_ifs with hfull
  · rw [withFile_eq]
    exact le_rfl
  · change 0 ≤ wrap32 (log.counter+1)
    rw [hcounter]
    exact Int.natCast_nonneg (k+1)
  · rw [withFile_eq]
    exact Int.natCast_nonneg m
  · rw [hchunk] at hfull
    exact not_lt.mp hfull
  · rw [withFile_eq]
    exact hbuffer
  · exact hbuffer

theorem Unflushed.handleRows (h : Unflushed cfg sessionNumber fs₀ m n log) (rows : List Line)
    (hbatch : cfg.maxLinesPerBatch = b) (hchunk : cfg.maxLinesPerChunk = m) (hlarge : m+1 < b)
    (hm : m < 2147483647) :
    Unflushed cfg sessionNumber fs₀ m (n+rows.length) (handleRows cfg sessionNumber log rows) := by
  induction rows generalizing n log with
  | nil => exact h
  | cons row rest ih =>
    have hrest := ih (h.handleMessage row hbatch hchunk hlarge hm)
    rw [show n+1+rest.length = n+(row :: rest).length by rw [List.length_cons]; omega] at hrest
    exact hrest

/-- All rows go to the file that is current at the end. -/
theorem Unflushed.saveUnsavedLogs (h : Unflushed cfg sessionNumber fs₀ m n log) :
    n ≤ rowsInPart cfg sessionNumber fs₀ ((saveUnsavedLogs true).run log).2.files log.part := by
  have hbuffer := h.buffer
  obtain ⟨hrows, -⟩ := saveUnsavedLogs_rows h.file h.kept h.path
  omega

end Unflushed

/-! The session. -/

section Session

variable {cfg : LogConfig Line} (sessionNumber : String) (log₀ : Log Line) {b m : ℕ}

theorem filling_startLog : Filling cfg sessionNumber log₀.files log₀.files 1 b 0 0
    ((startLog cfg sessionNumber true).run log₀).2 := by
  rw [startLog_run]
  have hnone := withFile_since cfg true log₀.files (Log.started cfg sessionNumber log₀.files) rfl
  have hkept := (grows_withFile cfg true (Log.started cfg sessionNumber log₀.files)
    (filesKept_self)).1
  have hother := withFile_other cfg true (Log.started cfg sessionNumber log₀.files)
  have hbuffer : ((Log.started cfg sessionNumber log₀.files).withFile cfg true).reportLines =
      [] := by
    rw [withFile_eq]
    rfl
  refine ⟨?_, ?_, exists_file_withFile cfg _, hkept, ?_, ?_, ?_, ?_⟩
  · rw [withFile_eq]
    rfl
  · rw [withFile_eq]
    rfl
  · rw [withFile_eq]
    rfl
  · rw [hbuffer]
    split_ifs <;> simp
  · rw [hbuffer]
    exact congrArg List.length hnone
  · exact fun q hq => hother _ fun heq => hq (partPath_injective cfg sessionNumber heq)

theorem rowsInPart_untouched (fs : FileStore String Line) (q : ℤ)
    (h : fs (partPath cfg sessionNumber q) = log₀.files (partPath cfg sessionNumber q)) :
    rowsInPart cfg sessionNumber log₀.files fs q = 0 := by
  rw [rowsInPart, FileStore.since_congr log₀.files log₀.files fs _ h, FileStore.since_self]
  rfl

theorem carried_zero : carried b m 0 = (m+1)%b := by
  unfold carried
  split_ifs with hlt
  · rw [Nat.mod_eq_of_lt hlt, Nat.zero_add]
  · rfl

/-- A session that ends in its first part. -/
theorem partSize_first (rows : List Line) (hb : 0 < b) (hbatch : cfg.maxLinesPerBatch = b)
    (hchunk : cfg.maxLinesPerChunk = m) (hm : m < 2147483647) (hrows : rows.length ≤ m) (q : ℤ) :
    rowsInPart cfg sessionNumber log₀.files (finishedLog cfg sessionNumber log₀ rows).files q ≤
      m := by
  have hstart : Filling cfg sessionNumber log₀.files log₀.files 1 b 0 0 _ :=
    filling_startLog sessionNumber log₀
  obtain ⟨hone, hothers⟩ := (hstart.handleRows rows hb hbatch hchunk (by omega) hm).saveUnsavedLogs
  rw [finishedLog]
  by_cases hq : q = 1
  · rw [hq, hone]
    omega
  · rw [rowsInPart_untouched sessionNumber log₀ _ q (hothers q hq)]
    exact Nat.zero_le m

/-- A session that ends in its second part. -/
theorem partSize_second (first rest : List Line) (hb : 0 < b) (hbatch : cfg.maxLinesPerBatch = b)
    (hchunk : cfg.maxLinesPerChunk = m) (hm : m < 2147483647) (hfirst : first.length = m+1)
    (hrest : rest.length ≤ m) :
    (∀ q, rowsInPart cfg sessionNumber log₀.files (finishedLog cfg sessionNumber log₀ (first ++
      rest)).files q ≤ m) ↔ 0 < (m+1)%b ∧ (m+1)%b + rest.length ≤ m := by
  have hstart : Filling cfg sessionNumber log₀.files log₀.files 1 b 0 0 _ :=
    filling_startLog sessionNumber log₀
  obtain ⟨log', hlog', hfilling, hone, hothers⟩ :=
    hstart.chunk first hb hbatch hchunk hfirst hm (by decide) rfl
  obtain ⟨htwo, hothers'⟩ :=
    (hfilling.handleRows rest hb hbatch hchunk (by omega) hm).saveUnsavedLogs
  rw [carried_zero] at hone htwo
  rw [finishedLog, handleRows_append, hlog']
  have hone' : rowsInPart cfg sessionNumber log₀.files
      ((saveUnsavedLogs true).run (handleRows cfg sessionNumber log' rest)).2.files 1 +
        (m+1)%b = m+1 := by
    rw [rowsInPart, FileStore.since_congr _ log'.files _ _ (hothers' 1 (by decide)), ← rowsInPart,
      hone, Nat.zero_add]
  constructor
  · intro h
    have h₁ := h 1
    have h₂ := h (1+1)
    omega
  · rintro ⟨hpos, hle⟩ q
    by_cases hq : q = 1
    · rw [hq]
      omega
    · by_cases hq' : q = 1+1
      · rw [hq']
        omega
      · rw [rowsInPart_untouched sessionNumber log₀ _ q ((hothers' q hq').trans (hothers q hq hq'))]
        exact Nat.zero_le m

/-- The second part is too large when it is left. -/
theorem partSize_later (first second rest : List Line) (hb : 0 < b)
    (hbatch : cfg.maxLinesPerBatch = b) (hchunk : cfg.maxLinesPerChunk = m) (hm : m < 2147483647)
    (hfirst : first.length = m+1)
    (hsecond : second.length = m+1) (hsmall : ¬m+1 < b) :
    m < rowsInPart cfg sessionNumber log₀.files
      (finishedLog cfg sessionNumber log₀ (first ++ (second ++ rest))).files 2 := by
  have hstart : Filling cfg sessionNumber log₀.files log₀.files 1 b 0 0 _ :=
    filling_startLog sessionNumber log₀
  obtain ⟨log', hlog', hfilling, -, hothers⟩ :=
    hstart.chunk first hb hbatch hchunk hfirst hm (by decide) rfl
  obtain ⟨log'', hlog'', hfilling', htwo, -⟩ :=
    hfilling.chunk second hb hbatch hchunk hsecond hm (by decide)
      (hothers _ (by decide) (by decide))
  rw [carried_zero, carried, if_neg hsmall] at htwo
  rw [finishedLog, handleRows_append, hlog', handleRows_append, hlog'']
  have hgrows : Grows log₀.files log''.files _ :=
    (grows_handleAll cfg sessionNumber (rest.map fun row => (row, ⟨true, true⟩)) log'').trans
    (grows_saveUnsavedLogs true _)
  have hle := (hgrows hfilling'.kept).2 (partPath cfg sessionNumber 2)
  refine lt_of_lt_of_le ?_ hle
  change m < rowsInPart cfg sessionNumber log₀.files log''.files 2
  change rowsInPart cfg sessionNumber log₀.files log''.files 2 + _ = _ at htwo
  omega

theorem partSize_unflushed (rows : List Line) (hbatch : cfg.maxLinesPerBatch = b)
    (hchunk : cfg.maxLinesPerChunk = m) (hm : m < 2147483647) (hlarge : m+1 < b) :
    ∃ q, rows.length ≤ rowsInPart cfg sessionNumber log₀.files
      (finishedLog cfg sessionNumber log₀ rows).files q := by
  have hstart : Filling cfg sessionNumber log₀.files log₀.files 1 b 0 0 _ :=
    filling_startLog sessionNumber log₀
  have hnone : Unflushed cfg sessionNumber log₀.files m 0
      ((startLog cfg sessionNumber true).run log₀).2 := by
    refine ⟨?_, hstart.file, hstart.kept, ?_, ?_, ?_⟩
    · rw [hstart.path, hstart.current]
    · rw [hstart.counter]
      exact le_rfl
    · rw [hstart.counter]
      omega
    · rw [hstart.buffer, if_pos (by omega)]
  have hall := (hnone.handleRows rows hbatch hchunk hlarge hm).saveUnsavedLogs
  rw [Nat.zero_add] at hall
  exact ⟨_, hall⟩

end Session

/-- Every part file keeps to `MAX_LINES_PER_CHUNK` exactly if the session ends in its first
part, or in its second one while what that takes over from the first leaves room. -/
theorem part_size_iff (cfg : LogConfig Line) (sessionNumber : String) (log₀ : Log Line)
    (rows : List Line) (hbatch : 1 ≤ cfg.maxLinesPerBatch) (hchunk : 0 ≤ cfg.maxLinesPerChunk)
    (hint : cfg.maxLinesPerChunk < 2147483647) :
    (∀ part, (rowsInPart cfg sessionNumber log₀.files
        (finishedLog cfg sessionNumber log₀ rows).files part : ℤ) ≤
        cfg.maxLinesPerChunk) ↔
      rows.length ≤ cfg.maxLinesPerChunk ∨
      (0 < (cfg.maxLinesPerChunk+1)%cfg.maxLinesPerBatch ∧
        rows.length + (cfg.maxLinesPerChunk+1)%cfg.maxLinesPerBatch ≤ 2*cfg.maxLinesPerChunk+1) :=
          by
  obtain ⟨b, hb⟩ := Int.eq_ofNat_of_zero_le (by omega : 0 ≤ cfg.maxLinesPerBatch)
  obtain ⟨m, hm⟩ := Int.eq_ofNat_of_zero_le hchunk
  have hmod : (cfg.maxLinesPerChunk+1)%cfg.maxLinesPerBatch = ((m+1)%b : ℕ) := by
    rw [hb, hm]
    rfl
  rw [hmod]
  simp only [hm, Nat.cast_le]
  by_cases hfirst : rows.length ≤ m
  · exact iff_of_true (partSize_first sessionNumber log₀ rows (by omega) hb hm (by omega) hfirst)
      (.inl (by omega))
  · have htake : (rows.take (m+1)).length = m+1 := List.length_take_of_le (by omega)
    have hdrop : (rows.drop (m+1)).length = rows.length-(m+1) := List.length_drop
    by_cases hsecond : rows.length ≤ 2*m+1
    · have h := partSize_second sessionNumber log₀ (rows.take (m+1)) (rows.drop (m+1))
        (by omega) hb hm (by omega) htake (by omega)
      rw [List.take_append_drop] at h
      rw [h]
      omega
    · refine iff_of_false (fun h => ?_) (by omega)
      by_cases hlarge : m+1 < b
      · obtain ⟨q, hq⟩ := partSize_unflushed sessionNumber log₀ rows hb hm (by omega) hlarge
        have hle := h q
        omega
      · have htake' : ((rows.drop (m+1)).take (m+1)).length = m+1 :=
          List.length_take_of_le (by omega)
        have hlt := partSize_later sessionNumber log₀ (rows.take (m+1))
          ((rows.drop (m+1)).take (m+1)) ((rows.drop (m+1)).drop (m+1)) (by omega) hb hm
            (by omega) htake htake' hlarge
        rw [List.take_append_drop, List.take_append_drop] at hlt
        exact absurd (h 2) (not_le.mpr hlt)

/-- The chunk of the app, and the default batch. -/
def defaultLog : LogConfig String := trackerConfig 60 240000 "/sdcard" "phone"

def noFiles : Log String := { files := fun _ => none }

theorem part_size_short : defaultLog.maxLinesPerChunk = 240000 ∧
    ∀ part, (rowsInPart defaultLog "1700000000" noFiles.files
      (finishedLog defaultLog "1700000000" noFiles (List.replicate 240000 "row")).files part :
        ℤ) ≤ 240000 := by
  refine ⟨rfl, (part_size_iff defaultLog "1700000000" noFiles _ (by decide) (by decide)
    (by decide)).mpr (.inl ?_)⟩
  rw [List.length_replicate]
  decide

/-- A session of equal rows that is too long for its second part. -/
theorem partSize_exceeds (cfg : LogConfig Line) (sessionNumber : String) (log₀ : Log Line)
    (row : Line) (b m k : ℕ) (hb : 0 < b) (hbatch : cfg.maxLinesPerBatch = b)
    (hchunk : cfg.maxLinesPerChunk = m) (hm : m < 2147483647)
    (hk : k ≤ m) (h : ¬(0 < (m+1)%b ∧ (m+1)%b + k ≤ m)) :
    ¬∀ part, (rowsInPart cfg sessionNumber log₀.files
      (finishedLog cfg sessionNumber log₀ (List.replicate (m+1+k) row)).files part : ℤ) ≤ m := by
  have hiff := partSize_second sessionNumber log₀ (List.replicate (m+1) row)
    (List.replicate k row) hb hbatch hchunk hm List.length_replicate
    (by rw [List.length_replicate]; exact hk)
  rw [List.length_replicate, ← List.replicate_add] at hiff
  intro hall
  exact h (hiff.mp fun q => Int.ofNat_le.mp (hall q))

/-- With the default batch of 60 lines the second part grows to 240001, and with batches of a
single line the first one does. -/
theorem part_size_fails :
    ¬(∀ part, (rowsInPart defaultLog "1700000000" noFiles.files
      (finishedLog defaultLog "1700000000" noFiles (List.replicate 480001 "row")).files part :
        ℤ) ≤ 240000) ∧
    ¬(∀ part, (rowsInPart (trackerConfig 1 240000 "/sdcard" "phone") "1700000000" noFiles.files
      (finishedLog (trackerConfig 1 240000 "/sdcard" "phone") "1700000000" noFiles
        (List.replicate 240001 "row")).files part : ℤ) ≤ 240000) :=
  ⟨partSize_exceeds defaultLog _ noFiles "row" 60 240000 240000 (by decide) rfl rfl
    (by decide) le_rfl (by decide), partSize_exceeds
    (trackerConfig 1 240000 "/sdcard" "phone") _ noFiles "row" 1 240000 0 (by decide) rfl rfl
    (by decide)
      (Nat.zero_le _) (by decide)⟩

end MmWaveTracker
