import MmWaveTracker.SummaryLog

/-! Which part files a session writes: their names are made from the second in which it was
started, and a file that exists already is used as it is. With names of their own, sessions
whose reports are not lost on the way keep them apart. -/
namespace MmWaveTracker

/-- The numbers of the sessions started so far; the first thread was never started. -/
def Service.sessions (s : Service) : List String := (s.threads.drop 1).map MonitoringThread.session

/-- The run from `s` on changes the file at `p` while the `k`-th session is the last. -/
def WrittenBy (A : Android) (cfg : LogConfig FileLine) (k : ℕ) (p : String) :
    Service → List Event → Prop
  | _, [] => False
  | s, e :: rest => ∃ s', step A cfg s e = some s' ∧
      ((s'.threads.length = k+1 ∧ s'.log.files p ≠ s.log.files p) ∨ WrittenBy A cfg k p s' rest)

/-- No two sessions have a number or a part file in common. -/
structure SessionsApart (A : Android) (cfg : LogConfig FileLine) (s₀ : Service)
    (events : List Event) (s : Service) : Prop where
  numbers : s.sessions.Nodup
  files : ∀ (j k : ℕ) (number : String) (part : ℤ),
    WrittenBy A cfg j (partPath cfg number part) s₀ events →
    WrittenBy A cfg k (partPath cfg number part) s₀ events → j = k

/-- A session is started in a second in which none was started before. -/
def NewSecond (A : Android) (s : Service) (e : Event) : Prop :=
  StartsSession s e = true → nextSessionNumber A s.world ∉ s.sessions

/-! The names. -/

theorem digits_before_minus (m n : ℕ) (x y : List Char)
    (h : Nat.toDigits 10 m ++ '-' :: x = Nat.toDigits 10 n ++ '-' :: y) : m = n := by
  have htake (k : ℕ) (z : List Char) : (Nat.toDigits 10 k ++ '-' :: z).takeWhile (· ≠ '-') =
      Nat.toDigits 10 k := by
    rw [List.takeWhile_append_of_pos, List.takeWhile_cons_of_neg (by decide), List.append_nil]
    intro c hc
    apply decide_eq_true
    rintro rfl
    exact minus_not_mem_toDigits k hc
  apply toDigits_ten_injective
  rw [← htake m x, h, htake n y]

/-- A number ends at the first minus that is not its sign. -/
theorem valueOf_before_minus (a b : ℤ) (x y : String)
    (h : valueOf a ++ "-" ++ x = valueOf b ++ "-" ++ y) : a = b := by
  have hl := congrArg String.toList h
  simp only [String.toList_append, List.append_assoc] at hl
  change (valueOf a).toList ++ '-' :: x.toList = (valueOf b).toList ++ '-' :: y.toList at hl
  have hsign (m n : ℕ) (x y : List Char) : Nat.toDigits 10 m ++ x ≠ '-' :: y := by
    intro heq
    cases hd : Nat.toDigits 10 m with
    | nil => exact Nat.toDigits_ne_nil hd
    | cons c rest =>
      rw [hd, List.cons_append, List.cons.injEq] at heq
      exact minus_not_mem_toDigits m (by rw [hd, heq.1]; exact List.mem_cons_self)
  rcases a with m | m <;> rcases b with n | n
  · change (valueOf (m:ℤ)).toList ++ _ = (valueOf (n:ℤ)).toList ++ _ at hl
    rw [valueOf_toList_ofNat, valueOf_toList_ofNat] at hl
    rw [digits_before_minus m n _ _ hl]
  · change (valueOf (m:ℤ)).toList ++ _ = _ at hl
    rw [valueOf_toList_ofNat, valueOf_toList_neg] at hl
    exact absurd hl (hsign m n _ _)
  · change _ = (valueOf (n:ℤ)).toList ++ _ at hl
    rw [valueOf_toList_ofNat, valueOf_toList_neg] at hl
    exact absurd hl.symm (hsign n m _ _)
  · rw [valueOf_toList_neg, valueOf_toList_neg, List.cons_append, List.cons_append,
      List.cons.injEq] at hl
    have hn := digits_before_minus (m+1) (n+1) _ _ hl.2
    rw [Nat.add_right_cancel hn]

theorem partPath_session (cfg : LogConfig FileLine) (a b : ℤ) (x y : ℤ)
    (h : partPath cfg (valueOf a) x = partPath cfg (valueOf b) y) : a = b := by
  have hname := (String.append_left_inj _).mp ((String.append_right_inj _).mp h)
  have hrest : valueOf a ++ "-" ++ format02 x = valueOf b ++ "-" ++ format02 y := by
    simp only [String.append_assoc] at hname ⊢
    exact (String.append_right_inj _).mp ((String.append_right_inj _).mp hname)
  exact valueOf_before_minus a b _ _ hrest

/-! One step. -/

section Steps

variable {A : Android} {cfg : LogConfig FileLine} {s s' : Service}

theorem map_set_of_eq {α β : Type} (f : α → β) (l : List α) (i : ℕ) (a b : α) (h : l[i]? = some a)
    (hf : f b = f a) : (l.set i b).map f = l.map f := by
  apply List.ext_getElem?
  intro j
  rw [List.getElem?_map, List.getElem?_map, List.getElem?_set]
  split_ifs with hij hlt
  · rw [← hij, h, Option.map_some, Option.map_some, hf]
  · rw [List.getElem?_eq_none (by omega)]
  · rfl

/-- Only `StartTracing` adds to the numbers. -/
theorem numbers_step (e : Event) (h : step A cfg s e = some s') :
    s'.threads.map MonitoringThread.session = s.threads.map MonitoringThread.session ++
      if StartsSession s e then [nextSessionNumber A s.world] else [] := by
  cases transition_of_step e h with
  | thread i acts s' t t' move =>
    rw [move.threads, map_set_of_eq _ _ i t t' move.thread move.session]
    exact (List.append_nil _).symm
  | startIgnored ok idle active =>
    rw [StartsSession, active]
    exact (List.append_nil _).symm
  | started ok world idle active current =>
    rw [StartsSession, active]
    have hstart := h
    simp only [step, idle] at hstart
    rcases startTracing_cases ok hstart with ⟨hact, -⟩ | ⟨-, world', hseed, heq⟩
    · rw [active] at hact
      cases hact
    · obtain ⟨hnumber, -⟩ := seedTracing_session s.world world' hseed
      have hworld : world = world' := congrArg Service.world heq
      rw [hworld, List.map_append, hnumber]
      rfl
  | stopping source i t idle monitoringThread thread active =>
    have hset := map_set_of_eq MonitoringThread.session s.threads i t
      { t with threadActive := false } thread rfl
    exact hset.trans (List.append_nil _).symm
  | handled writes msg rest world text idle queue step => exact (List.append_nil _).symm
  | stopIgnored source idle active => exact (List.append_nil _).symm
  | ui op world idle step => exact (List.append_nil _).symm
  | flushed ok log flushing run => exact (List.append_nil _).symm
  | flushFailed ok log e flushing run => exact (List.append_nil _).symm
  | saved ok world summary saving step session => exact (List.append_nil _).symm
  | joined i joining monitoringThread ended => exact (List.append_nil _).symm

/-- A flush writes to the current file. -/
theorem Flushed.other {log log' : Log FileLine} (h : Flushed log log') (p : String)
    (hp : p ≠ log.saveFilePath) : log'.files p = log.files p := by
  obtain ⟨files, hf, rfl⟩ := h
  exact FileStore.append_other log.files files _ _ p hp hf

/-- A message is written to the current part, or the next part is created. -/
theorem handleMessage_other (sessionNumber : String) (writes : Writes) (row : FileLine)
    (log : Log FileLine) (hpath : log.saveFilePath = partPath cfg sessionNumber log.part)
    (p : String)
    (hp : ∀ part, p ≠ partPath cfg sessionNumber part) :
    ((handleMessage cfg sessionNumber writes row).run log).2.files p = log.files p := by
  obtain ⟨log₁, log₂, h₁, h₂, hrun⟩ := handleMessage_cases cfg sessionNumber writes row log
  have hfirst : log₁.files p = log.files p := by
    rcases h₁ with rfl | hf
    · rfl
    · rw [hf.other p (hpath ▸ hp log.part)]
      rfl
  rw [hrun]
  rcases h₂ with rfl | rfl
  · exact hfirst
  · rw [withFile_other cfg writes.header _ p (hp _)]
    exact hfirst

theorem saveUnsavedLogs_other (ok : Bool) (log log' : Log FileLine) (r : Except Throwable Unit)
    (h : (saveUnsavedLogs ok).run log = (r, log')) (p : String) (hp : p ≠ log.saveFilePath) :
    log'.files p = log.files p := by
  rcases saveUnsavedLogs_cases ok log with ⟨-, hrun⟩ | ⟨log₁, hf, hrun⟩ | ⟨-, hrun⟩ <;>
    rw [hrun] at h <;> cases h
  · rfl
  · exact hf.other p hp
  · rfl

/-- Messages come from threads that were started. -/
def Queued (s : Service) : Prop := s.queue ≠ [] → 1 < s.threads.length

theorem Queued.transition {e : Event} (h : Queued s) (ht : Tracked cfg s)
    (htr : Transition cfg s e s') : Queued s' := by
  cases htr with
  | thread i acts s' t t' move =>
    intro _
    rw [move.threads, List.length_set]
    exact ht.active i t move.thread (.inr move.running)
  | started ok world idle active current =>
    intro _
    rw [List.length_append]
    exact Nat.lt_add_of_pos_left ht.threads_pos
  | handled writes msg rest world text idle queue step =>
    exact fun _ => h (by rw [queue]; exact List.cons_ne_nil _ _)
  | stopping source i t idle monitoringThread thread active =>
    intro hq
    rw [List.length_set]
    exact h hq
  | startIgnored ok idle active => exact h
  | stopIgnored source idle active => exact h
  | ui op world idle step => exact h
  | flushed ok log flushing run => exact h
  | flushFailed ok log e flushing run => exact h
  | saved ok world summary saving step session => exact h
  | joined i joining monitoringThread ended => exact h

theorem partFile_of_flushed
    (hpath : s.log.saveFilePath = partPath cfg s.world.sessionNumber s.log.part) (ok : Bool)
    (log : Log FileLine) (r : Except Throwable Unit)
    (hrun : (saveUnsavedLogs ok).run s.log = (r, log)) (number : String)
    (part : ℤ) (hne : log.files (partPath cfg number part) ≠
      s.log.files (partPath cfg number part)) :
    partPath cfg number part = partPath cfg s.world.sessionNumber s.log.part := by
  by_contra hno
  exact hne (saveUnsavedLogs_other ok s.log log r hrun _ (by rw [hpath]; exact hno))

/-- A part file that changes is one of the session at hand. -/
theorem partFile_of_changed {e : Event} (htracked : Tracked cfg s) (hqueued : Queued s)
    (ht : Transition cfg s e s') (number : String) (part : ℤ)
    (hne : s'.log.files (partPath cfg number part) ≠ s.log.files (partPath cfg number part)) :
    1 < s'.threads.length ∧ ∃ part', partPath cfg number part =
      partPath cfg s'.world.sessionNumber part' := by
  cases ht with
  | thread i acts s' t t' move => exact absurd (by rw [move.log]) hne
  | started ok world idle active current =>
    refine ⟨?_, ?_⟩
    · rw [List.length_append]
      exact Nat.lt_add_of_pos_left htracked.threads_pos
    · by_contra hno
      simp only [not_exists] at hno
      exact hne (withFile_other cfg ok _ _ (hno 1))
  | handled writes msg rest world text idle queue step =>
    have hlen := hqueued (by rw [queue]; exact List.cons_ne_nil _ _)
    refine ⟨hlen, ?_⟩
    by_contra hno
    simp only [not_exists] at hno
    apply hne
    have hbegun := htracked.begun hlen
    apply handleMessage_other s.world.sessionNumber writes _ s.log hbegun.saveFilePath
    intro part'
    rw [← step.sessionNumber]
    exact hno part'
  | flushed ok log flushing run =>
    have hlen := htracked.busy (by rw [flushing]; exact fun h => by cases h)
    exact ⟨hlen, s.log.part,
      partFile_of_flushed (htracked.begun hlen).saveFilePath ok log _ run number part hne⟩
  | flushFailed ok log e flushing run =>
    have hlen := htracked.busy (by rw [flushing]; exact fun h => by cases h)
    exact ⟨hlen, s.log.part,
      partFile_of_flushed (htracked.begun hlen).saveFilePath ok log _ run number part hne⟩
  | saved ok world summary saving step session =>
    have hlen := htracked.busy (by rw [saving]; exact fun h => by cases h)
    obtain ⟨files, lines, hsaved⟩ := saveSessionSummaryEntry_run ok summary s.log
    refine absurd ?_ hne
    change ((saveSessionSummaryEntry ok summary).run s.log).2.files _ = _
    rw [hsaved.run]
    apply hsaved.other
    rw [(htracked.begun hlen).saveSessionFilePath]
    exact partPath_ne_sessionSummaryPath cfg number part
  | startIgnored ok idle active => exact absurd rfl hne
  | stopIgnored source idle active => exact absurd rfl hne
  | stopping source i t idle monitoringThread thread active => exact absurd rfl hne
  | ui op world idle step => exact absurd rfl hne
  | joined i joining monitoringThread ended => exact absurd rfl hne

end Steps

/-! A whole run. -/

section Runs

variable {A : Android} {cfg : LogConfig FileLine} {s t : Service}

/-- What the steps keep. -/
structure Numbered (cfg : LogConfig FileLine) (s : Service) : Prop where
  tracked : Tracked cfg s
  queued : Queued s
  valueOf : ∀ number ∈ s.sessions, ∃ n, number = valueOf n

theorem numbered_created (world : World) (files : String → Option (List String)) :
    Numbered cfg (Service.created world files) where
  tracked := tracked_created world files
  queued := fun h => absurd rfl h
  valueOf := fun _ h => by cases h

theorem sessions_eq (s : Service) : s.sessions = (s.threads.map MonitoringThread.session).drop 1 :=
  List.map_drop

theorem sessions_step (e : Event) (s' : Service) (hpos : 0 < s.threads.length)
    (h : step A cfg s e = some s') :
    s'.sessions = s.sessions ++ if StartsSession s e then [nextSessionNumber A s.world]
      else [] := by
  rw [sessions_eq, numbers_step e h, sessions_eq]
  apply List.drop_append_of_le_length
  rw [List.length_map]
  exact hpos

theorem Numbered.step {e : Event} {s' : Service} (h : Numbered cfg s)
    (hstep : step A cfg s e = some s') : Numbered cfg s' := by
  have ht := transition_of_step e hstep
  refine ⟨h.tracked.transition ht, h.queued.transition h.tracked ht, ?_⟩
  intro number hmem
  rw [sessions_step e s' h.tracked.threads_pos hstep] at hmem
  rcases List.mem_append.mp hmem with hmem | hmem
  · exact h.valueOf number hmem
  · split_ifs at hmem
    · exact ⟨_, List.mem_singleton.mp hmem⟩
    · cases hmem

theorem numbers_run (events : List Event) (h : runEvents (step A cfg) s events = some t) :
    s.threads.map MonitoringThread.session <+: t.threads.map MonitoringThread.session := by
  induction events generalizing s with
  | nil =>
    cases h
    exact List.prefix_rfl
  | cons e rest ih =>
    obtain ⟨s', hstep, hrest⟩ := runEvents_cons _ _ _ _ _ h
    refine List.IsPrefix.trans ?_ (ih hrest)
    rw [numbers_step e hstep]
    exact List.prefix_append _ _

/-- A part file that a session writes carries its number. -/
theorem writtenBy_session (events : List Event) (hnumbered : Numbered cfg s)
    (hrun : runEvents (step A cfg) s events = some t) (k : ℕ) (number : String) (part : ℤ)
    (hw : WrittenBy A cfg k (partPath cfg number part) s events) :
    1 ≤ k ∧ ∃ n part', (t.threads.map MonitoringThread.session)[k]? = some n ∧
      partPath cfg number part = partPath cfg n part' := by
  induction events generalizing s with
  | nil => cases hw
  | cons e rest ih =>
    obtain ⟨s', hstep, hrest⟩ := runEvents_cons _ _ _ _ _ hrun
    obtain ⟨s'', hstep', hw⟩ := hw
    obtain rfl : s' = s'' := Option.some.inj (hstep.symm.trans hstep')
    rcases hw with ⟨hlen, hne⟩ | hw
    · have ht := transition_of_step e hstep
      obtain ⟨hlt, part', hpath⟩ :=
        partFile_of_changed hnumbered.tracked hnumbered.queued ht number part hne
      refine ⟨by omega, s'.world.sessionNumber, part', ?_, hpath⟩
      obtain ⟨thread, hthread⟩ : ∃ thread, s'.threads[k]? = some thread :=
        ⟨_, List.getElem?_eq_getElem (by omega)⟩
      have hsession := ((hnumbered.step hstep).tracked.begun hlt).session k thread hthread hlen.symm
      have hlast : (s'.threads.map MonitoringThread.session)[k]? = some s'.world.sessionNumber := by
        rw [List.getElem?_map, hthread, Option.map_some, hsession]
      obtain ⟨later, heq⟩ := numbers_run rest hrest
      obtain ⟨hk, -⟩ := List.getElem?_eq_some_iff.mp hlast
      rw [← heq, List.getElem?_append_left hk]
      exact hlast
    · exact ih (hnumbered.step hstep) hrest hw

theorem nodup_step_iff (e : Event) (s' : Service) (hpos : 0 < s.threads.length)
    (h : step A cfg s e = some s') : s'.sessions.Nodup ↔ s.sessions.Nodup ∧ NewSecond A s e := by
  rw [sessions_step e s' hpos h, NewSecond]
  split_ifs with hstart
  · rw [List.nodup_append]
    simp only [List.nodup_singleton, List.mem_singleton, true_and, forall_eq, hstart, forall_const]
    refine and_congr_right fun _ => ⟨fun hne hmem => hne _ hmem rfl, ?_⟩
    rintro hnot number hmem rfl
    exact hnot hmem
  · rw [List.append_nil, and_iff_left]
    exact fun hyes => absurd hyes hstart

theorem nodup_run_iff (events : List Event) (hnumbered : Numbered cfg s)
    (hrun : runEvents (step A cfg) s events = some t) :
    t.sessions.Nodup ↔ s.sessions.Nodup ∧ Along (step A cfg) (NewSecond A) s events := by
  induction events generalizing s with
  | nil =>
    cases hrun
    exact (and_iff_left trivial).symm
  | cons e rest ih =>
    obtain ⟨s', hstep, hrest⟩ := runEvents_cons _ _ _ _ _ hrun
    rw [ih (hnumbered.step hstep) hrest, nodup_step_iff e s' hnumbered.tracked.threads_pos hstep,
      and_assoc, along_cons_iff _ _ s s' e rest hstep]

/-- Sessions with different numbers have no part file in common. -/
theorem files_apart (events : List Event) (hnumbered : Numbered cfg s)
    (hrun : runEvents (step A cfg) s events = some t)
    (hnodup : t.sessions.Nodup) (j k : ℕ) (number : String) (part : ℤ)
    (hj : WrittenBy A cfg j (partPath cfg number part) s events)
    (hk : WrittenBy A cfg k (partPath cfg number part) s events) : j = k := by
  have hend : Numbered cfg t :=
    runEvents_preserves (step A cfg) (Numbered cfg)
      (fun _ _ _ hstep h => h.step hstep) events s t hrun hnumbered
  obtain ⟨hjpos, n, x, hn, hpath⟩ := writtenBy_session events hnumbered hrun j number part hj
  obtain ⟨hkpos, m, y, hm, hpath'⟩ := writtenBy_session events hnumbered hrun k number part hk
  have hdrop (i : ℕ) (hi : 1 ≤ i) :
      t.sessions[i-1]? = (t.threads.map MonitoringThread.session)[i]? := by
    rw [sessions_eq, List.getElem?_drop]
    congr 1
    omega
  rw [← hdrop j hjpos] at hn
  rw [← hdrop k hkpos] at hm
  obtain ⟨a, rfl⟩ := hend.valueOf n (List.mem_of_getElem? hn)
  obtain ⟨b, rfl⟩ := hend.valueOf m (List.mem_of_getElem? hm)
  obtain rfl : a = b := partPath_session cfg a b x y (hpath.symm.trans hpath')
  obtain ⟨hlt, -⟩ := List.getElem?_eq_some_iff.mp hn
  have hindex : j-1 = k-1 := (List.getElem?_inj hlt hnodup).mp (hn.trans hm.symm)
  omega

end Runs

/-- In a run of the service, no two sessions share a number or a part file exactly if no
session is started in the second of an earlier one. -/
theorem sessions_apart_iff (A : Android) (cfg : LogConfig FileLine) (world : World)
    (files : String → Option (List String)) (events : List Event) (s : Service)
    (hrun : runEvents (step A cfg) (Service.created world files) events = some s) :
    SessionsApart A cfg (Service.created world files) events s ↔
      Along (step A cfg) (NewSecond A) (Service.created world files) events := by
  have hnumbered : Numbered cfg (Service.created world files) := numbered_created world files
  have hiff := nodup_run_iff events hnumbered hrun
  have hnone : (Service.created world files).sessions.Nodup := List.nodup_nil
  constructor
  · exact fun h => (hiff.mp h.numbers).2
  · intro halong
    have hnodup := hiff.mpr ⟨hnone, halong⟩
    exact ⟨hnodup, files_apart events hnumbered hrun hnodup⟩

instance (A : Android) (s : Service) (e : Event) : Decidable (NewSecond A s e) :=
  inferInstanceAs (Decidable (_ = true → ¬_))

/-- A session without a report, and the start of the next. -/
def twoSessions : List Event :=
  [.startTracing true, .stopTracing .action, .flush true, .save true, .thread 1 none, .join,
    .startTracing true]

/-- A phone that looks at its clock once a second. -/
def slowPhone : Android := { ltePhone with moment := fun n => { lteMoment 7 with now := 1000*n } }

theorem sessions_apart_slowly :
    ∃ s, runEvents (step slowPhone phoneConfig) (Service.created {} fun _ => none) twoSessions =
    some s ∧ s.sessions.length = 2 ∧
      SessionsApart slowPhone phoneConfig (Service.created {} fun _ => none) twoSessions s := by
  have hsessions : (runEvents (step slowPhone phoneConfig) (Service.created {} fun _ => none)
      twoSessions).map (fun s => s.sessions.length) = some 2 := by decide +kernel
  obtain ⟨s, hrun, hlength⟩ := Option.map_eq_some_iff.mp hsessions
  exact ⟨s, hrun, hlength,
    (sessions_apart_iff slowPhone phoneConfig {} _ twoSessions s hrun).mpr (by decide +kernel)⟩

/-- Within one second, the second session has the number of the first. -/
theorem sessions_not_apart :
    ∃ s, runEvents (step ltePhone phoneConfig) (Service.created {} fun _ => none) twoSessions =
    some s ∧ s.sessions = ["0", "0"] ∧ s.log.saveFilePath = partPath phoneConfig "0" 1 ∧
    ¬SessionsApart ltePhone phoneConfig (Service.created {} fun _ => none) twoSessions s := by
  have hsessions : (runEvents (step ltePhone phoneConfig) (Service.created {} fun _ => none)
      twoSessions).map (fun s => (s.sessions, s.log.saveFilePath)) =
      some (["0", "0"], partPath phoneConfig "0" 1) := by decide +kernel
  obtain ⟨s, hrun, hs⟩ := Option.map_eq_some_iff.mp hsessions
  obtain ⟨hnumbers, hpath⟩ := Prod.mk.inj hs
  refine ⟨s, hrun, hnumbers, hpath, fun h => ?_⟩
  have hnodup := h.numbers
  rw [hnumbers] at hnodup
  exact absurd hnodup (by decide)

/-! Reports in flight. -/

/-- Every row on disk is in a part file of the session whose thread sent it, and in no part
file of another session. -/
def RowsInOwnFiles (cfg : LogConfig FileLine) (s : Service) : Prop :=
  ∀ p m text, .row m text ∈ s.log.files.contents p →
    (∃ t part, s.threads[m.sender]? = some t ∧ p = partPath cfg t.session part) ∧
    ∀ (j : ℕ) (t : MonitoringThread) (part : ℤ), 0 < j → s.threads[j]? = some t →
      p = partPath cfg t.session part → j = m.sender

theorem session_at {s : Service} (i : ℕ) (t : MonitoringThread) (hi : 0 < i)
    (ht : s.threads[i]? = some t) : s.sessions[i-1]? = some t.session := by
  rw [Service.sessions, List.getElem?_map, List.getElem?_drop, show 1+(i-1) = i by omega, ht,
    Option.map_some]

/-- Sessions with numbers of their own can be told by their part files. -/
theorem RowsFiled.inOwnFiles {cfg : LogConfig FileLine} {s : Service} (h : RowsFiled cfg s)
    (hnumbered : Numbered cfg s) (hnodup : s.sessions.Nodup) : RowsInOwnFiles cfg s := by
  intro p m text hrow
  obtain ⟨hpos, u, x, hu, hp⟩ := h p m text hrow
  refine ⟨⟨u, x, hu, hp⟩, ?_⟩
  intro j t y hj ht hp'
  have hn := session_at m.sender u hpos hu
  have hm := session_at j t hj ht
  obtain ⟨a, ha⟩ := hnumbered.valueOf _ (List.mem_of_getElem? hn)
  obtain ⟨b, hb⟩ := hnumbered.valueOf _ (List.mem_of_getElem? hm)
  rw [ha] at hn hp
  rw [hb] at hm hp'
  obtain rfl : a = b := partPath_session cfg a b x y (hp.symm.trans hp')
  obtain ⟨hlt, -⟩ := List.getElem?_eq_some_iff.mp hm
  have hindex : j-1 = m.sender-1 := (List.getElem?_inj hlt hnodup).mp (hm.trans hn.symm)
  omega

/-- In every run whose steps lose no report and start no session in the second of an earlier
one: once a stopped session has nothing in the queue any more, all its reports are rows of its
own part files, and no row is ever in a file of another session. -/
theorem in_flight_reports_survive (A : Android) (maxLinesPerBatch maxLinesPerChunk : ℤ)
    (documents deviceId : String) (world : World) (files : String → Option (List String))
    (events : List Event)
    (s : Service)
    (hrun : runEvents (step A (traceConfig maxLinesPerBatch maxLinesPerChunk documents deviceId))
      (Service.created world files) events = some s)
    (hsafe : Along (step A (traceConfig maxLinesPerBatch maxLinesPerChunk documents deviceId))
      (LossFree (traceConfig maxLinesPerBatch maxLinesPerChunk documents deviceId))
      (Service.created world files) events)
    (hseconds : Along (step A (traceConfig maxLinesPerBatch maxLinesPerChunk documents deviceId))
      (NewSecond A) (Service.created world files) events) :
    (s.main = .idle → s.stopped = true → s.queue = [] → ∀ (i : ℕ) (t : MonitoringThread),
      s.threads[i]? = some t → i+1 = s.threads.length → ∀ k < t.sent,
        ReportSaved (traceConfig maxLinesPerBatch maxLinesPerChunk documents deviceId) s i k t) ∧
    RowsInOwnFiles (traceConfig maxLinesPerBatch maxLinesPerChunk documents deviceId) s := by
  set cfg := traceConfig maxLinesPerBatch maxLinesPerChunk documents deviceId
  obtain ⟨howned, hempty⟩ := owned_run world files events rfl hrun hsafe
  have hcreated : Numbered cfg (Service.created world files) := numbered_created world files
  have hnumbered := runEvents_preserves (step A cfg) (Numbered cfg)
    (fun _ _ _ hstep h => h.step hstep) events _ s hrun hcreated
  have hnodup := (nodup_run_iff events hcreated hrun).mpr ⟨List.nodup_nil, hseconds⟩
  exact ⟨fun hidle hstopped hq i t ht hi k hk =>
    howned.saved hempty hidle hstopped hq i t ht hi k hk,
    howned.filed.inOwnFiles hnumbered hnodup⟩

/-- Two sessions of a report each, in different seconds. -/
def twoPromptSessions : List Event := promptSession 1 ++ promptSession 2

theorem in_flight_reports_survive_handled_in_time : ∃ s t,
    runEvents (step slowPhone phoneConfig) (Service.created {} fun _ => none) twoPromptSessions =
      some s ∧
    s.threads[2]? = some t ∧ 0 < t.sent ∧ ReportSaved phoneConfig s 2 0 t ∧
      RowsInOwnFiles phoneConfig s := by
  have hend : ((runEvents (step slowPhone phoneConfig) (Service.created {} fun _ => none)
      twoPromptSessions).bind fun s =>
      s.threads[2]?.map fun t =>
        (s.threads.length, t.sent, decide (s.main = .idle ∧ s.stopped = true ∧ s.queue = []))) =
      some (3, 1, true) := by decide +kernel
  obtain ⟨s, hrun, ht⟩ := Option.bind_eq_some_iff.mp hend
  obtain ⟨t, ht, heq⟩ := Option.map_eq_some_iff.mp ht
  simp only [Prod.mk.injEq, decide_eq_true_eq] at heq
  obtain ⟨hlen, hsent, hidle, hstopped, hq⟩ := heq
  obtain ⟨hsaved, hown⟩ :=
    in_flight_reports_survive slowPhone 60 240000 "/sdcard" "phone" {} (fun _ => none)
    twoPromptSessions s hrun (by decide +kernel) (by decide +kernel)
  have hpos : 0 < t.sent := by rw [hsent]; exact Nat.one_pos
  exact ⟨s, t, hrun, ht, hpos, hsaved hidle hstopped hq 2 t ht hlen.symm 0 hpos, hown⟩

/-- The report stays in the buffer, and the next `StartTracing` throws the buffer away. -/
theorem report_in_flight_is_lost : ∃ s s' t,
    runEvents (step ltePhone phoneConfig) (Service.created {} fun _ => none) lateEvents = some s ∧
    s.main = .idle ∧ s.stopped = true ∧ s.queue = [] ∧
    s.threads[1]? = some t ∧ 1+1 = s.threads.length ∧ 0 < t.sent ∧
      ¬ReportSaved phoneConfig s 1 0 t ∧
    step ltePhone phoneConfig s (.startTracing true) = some s' ∧
    s'.log.reportLines = [] ∧ ¬ReportSaved phoneConfig s' 1 0 t :=
  ⟨_, _, _, rfl, rfl, rfl, rfl, rfl, rfl, Nat.one_pos, not_reportSaved_of_files 1 0 _ _ _ _ rfl,
    rfl, rfl, not_reportSaved_of_files 1 0 _ _ _ _ rfl⟩

end MmWaveTracker
