import MmWaveTracker.IperfOutput

/-! The lines that a run leaves in its text file: a test is named under the time at which it
started. -/
namespace MmWaveTracker.IperfOutput

open JavaText

/-! Lists in which one kind of element comes before another. -/

section Preceded

variable {α : Type} {p q : α → Prop}

/-- Every element that satisfies `q` satisfies `p`, or one before it does. -/
def Preceded (p q : α → Prop) (xs : List α) : Prop :=
  ∀ before x after, xs = before ++ x :: after → q x → ∃ y ∈ before ++ [x], p y

theorem preceded_nil : Preceded p q [] := fun before x after h _ =>
  absurd h.symm (List.append_ne_nil_of_right_ne_nil before (List.cons_ne_nil x after))

theorem preceded_append_iff (xs ys : List α) :
    Preceded p q (xs ++ ys) ↔ Preceded p q xs ∧ ((∃ x ∈ xs, p x) ∨ Preceded p q ys) := by
  constructor
  · intro h
    constructor
    · rintro before x after rfl hx
      exact h before x (after ++ ys) (by rw [List.append_assoc, List.cons_append]) hx
    · by_cases hxs : ∃ x ∈ xs, p x
      · exact .inl hxs
      · refine .inr ?_
        rintro before y after rfl hy
        obtain ⟨z, hz, hpz⟩ := h (xs ++ before) y after (List.append_assoc _ _ _).symm hy
        rw [List.append_assoc, List.mem_append] at hz
        exact ⟨z, hz.resolve_left fun hmem => hxs ⟨z, hmem, hpz⟩, hpz⟩
  · rintro ⟨hxs, hys⟩ before z after hsplit hz
    rcases List.append_eq_append_iff.mp hsplit with ⟨middle, rfl, rfl⟩ | ⟨middle, rfl, hmiddle⟩
    · rcases hys with ⟨x, hx, hpx⟩ | hys
      · exact ⟨x, List.mem_append_left _ (List.mem_append_left _ hx), hpx⟩
      · obtain ⟨y, hy, hpy⟩ := hys middle z after rfl hz
        refine ⟨y, ?_, hpy⟩
        rw [List.append_assoc]
        exact List.mem_append_right xs hy
    · cases middle with
      | nil =>
        rw [List.append_nil] at hys
        rcases hys with ⟨x, hx, hpx⟩ | hys
        · exact ⟨x, List.mem_append_left _ hx, hpx⟩
        · obtain ⟨y, hy, hpy⟩ := hys [] z after hmiddle.symm hz
          exact ⟨y, List.mem_append_right before hy, hpy⟩
      | cons w middle =>
        obtain ⟨rfl, -⟩ := List.cons.inj hmiddle
        exact hxs before z middle rfl hz

/-- Behind an element with `p` nothing is asked for. -/
theorem preceded_append_cons_iff (xs ys : List α) (y : α) (hy : p y) :
    Preceded p q (xs ++ y :: ys) ↔ Preceded p q xs := by
  have hhead : Preceded p q (y :: ys) := by
    intro before z after hsplit _
    refine ⟨y, ?_, hy⟩
    cases before with
    | nil =>
      obtain ⟨rfl, -⟩ := List.cons.inj hsplit
      exact List.mem_singleton.mpr rfl
    | cons x before =>
      obtain ⟨rfl, -⟩ := List.cons.inj hsplit
      exact List.mem_cons_self
  rw [preceded_append_iff]
  exact ⟨And.left, fun h => ⟨h, .inr hhead⟩⟩

theorem preceded_append_of_not (xs ys : List α) (hp : ∀ x ∈ xs, ¬p x) (hq : ∀ x ∈ xs, ¬q x) :
    Preceded p q (xs ++ ys) ↔ Preceded p q ys := by
  have hxs : Preceded p q xs := by
    rintro before x after rfl hx
    exact absurd hx (hq x (List.mem_append_right before List.mem_cons_self))
  have hnone : ¬∃ x ∈ xs, p x := fun ⟨x, hx, hpx⟩ => hp x hx hpx
  rw [preceded_append_iff]
  exact ⟨fun h => h.2.resolve_left hnone, fun h => ⟨hxs, .inr h⟩⟩

end Preceded

/-! The lines of a text. -/

/-- What is between the newlines. -/
def lines (text : Text) : List Text := text.splitOn newline

theorem lines_append_newline (a b : Text) : lines (a ++ newline :: b) = lines a ++ lines b :=
  List.splitOn_append_cons_self a b

theorem lines_of_not_mem (text : Text) (h : newline ∉ text) : lines text = [text] :=
  List.splitOn_eq_singleton h

/-- What is appended continues the last line. -/
theorem lines_append (a : Text) :
    ∃ last, newline ∉ last ∧ ∀ b, lines (a ++ b) = (lines a).dropLast ++ lines (last ++ b) := by
  induction a using List.reverseRecOn with
  | nil => exact ⟨[], List.not_mem_nil, fun b => rfl⟩
  | append_singleton a c ih =>
    obtain ⟨last, hlast, hlines⟩ := ih
    by_cases hc : c = newline
    · subst hc
      refine ⟨[], List.not_mem_nil, ?_⟩
      intro b
      have hempty : lines [] = [[]] := rfl
      rw [List.append_assoc, List.singleton_append, lines_append_newline, lines_append_newline,
        hempty, List.dropLast_concat, List.nil_append]
    · have hlast' : newline ∉ last ++ [c] := by
        rw [List.mem_append, List.mem_singleton]
        exact fun hmem => hmem.elim hlast fun h => hc h.symm
      refine ⟨last ++ [c], hlast', ?_⟩
      intro b
      rw [List.append_assoc, hlines, hlines, lines_of_not_mem _ hlast', List.dropLast_concat,
        List.append_assoc]

theorem lines_head (a b : Text) (h : newline ∉ a) :
    ∃ rest ls, lines (a ++ b) = (a ++ rest) :: ls := by
  induction a with
  | nil => exact List.exists_cons_of_ne_nil (List.splitOn_ne_nil newline b)
  | cons c a ih =>
    obtain ⟨rest, ls, hls⟩ := ih fun hmem => h (List.mem_cons_of_mem c hmem)
    have hc : (c == newline) = false := beq_false_of_ne fun heq => h (heq ▸ List.mem_cons_self)
    refine ⟨rest, ls, ?_⟩
    rw [List.cons_append, lines, List.splitOn_cons_eq_if_modifyHead, hc, if_neg Bool.false_ne_true]
    rw [lines] at hls
    rw [hls]
    rfl

theorem infix_of_mem_lines (text line : Text) (h : line ∈ lines text) : line <:+: text := by
  by_cases hmem : newline ∈ text
  · obtain ⟨a, b, hsplit, ha⟩ := List.eq_append_cons_of_mem hmem
    rw [hsplit, lines_append_newline, lines_of_not_mem a ha, List.mem_append,
      List.mem_singleton] at h
    rw [hsplit]
    rcases h with rfl | h
    · exact (List.prefix_append line (newline :: b)).isInfix
    · have hsuffix : b <:+ a ++ newline :: b :=
        (List.suffix_cons newline b).trans (List.suffix_append a _)
      exact (infix_of_mem_lines b line h).trans hsuffix.isInfix
  · rw [lines_of_not_mem text hmem, List.mem_singleton] at h
    exact h ▸ List.infix_rfl
termination_by text.length
decreasing_by
  rw [hsplit, List.length_append, List.length_cons]
  omega

/-- A line that names a test has the time, or one before it does. -/
def Timed (ls : List Text) : Prop :=
  Preceded (fun line => contains line timeLabel = true)
    (fun line => contains line startingTest = true) ls

theorem timed_unmarked_iff (text rest : Text) (htime : contains text timeLabel = false)
    (htest : contains text startingTest = false) : Timed (lines (text ++ newline :: rest)) ↔
      Timed (lines rest) := by
  have hnone (key : Text) (hkey : key ≠ []) (h : contains text key = false) : ∀ line ∈ lines text,
      ¬contains line key = true := by
    intro line hline hcontains
    have hin := contains_of_infix line text key hkey (infix_of_mem_lines text line hline) hcontains
    rw [h] at hin
    cases hin
  rw [lines_append_newline]
  exact preceded_append_of_not _ _ (hnone timeLabel (by decide) htime)
    (hnone startingTest (by decide) htest)

/-- A text with a time in it is timed if the lines that end in front of the time are. -/
theorem timed_at_time_iff (front time rest : Text) (hnewline : newline ∉ time)
    (htime : timeLabel <:+: time) : Timed (lines (front ++ (time ++ rest))) ↔
      Timed (lines front).dropLast := by
  obtain ⟨last, hlast, hlines⟩ := lines_append front
  have hunbroken : newline ∉ last ++ time := by
    rw [List.mem_append]
    exact fun h => h.elim hlast hnewline
  obtain ⟨back, ls, hls⟩ := lines_head (last ++ time) rest hunbroken
  have hinfix : timeLabel <:+: last ++ time ++ back :=
    htime.trans (List.infix_append last time back)
  rw [hlines, ← List.append_assoc, hls]
  exact preceded_append_cons_iff _ _ _ ((contains_iff_isInfix _ _ (by decide)).mpr hinfix)

/-! What a message adds to the file in text mode. -/

def timeLine (label stamp : Text) : Text := label ++ ascii ":  Time: " ++ stamp ++ [newline]

def marked (text : Text) : Bool := contains text timeLabel || contains text startingTest

section Messages

variable (convertDateTimeToLocalZone : Text → Option Text)

/-- A line with the time is written in front of the message. -/
def Inserts (s : Handler) (call : Call) : Prop :=
  ∃ text, localised convertDateTimeToLocalZone s.iperfJSON (stripNewline call.msg) = some text ∧
    (recv convertDateTimeToLocalZone s call).file =
      s.file ++ (timeLine s.iperfLabel call.currentTimeStamp ++ (text ++ [newline]))

/-- So it is for the `k`-th message of a run, counted from zero. -/
def InsertedAt (s : Handler) (calls : List Call) (k : ℕ) : Prop :=
  ∃ call, calls[k]? = some call ∧
    Inserts convertDateTimeToLocalZone (recvAll convertDateTimeToLocalZone s (calls.take k)) call

/-- Every line of the run that names a test is, or comes after, a line of the run with a time. -/
def TestsTimed (s : Handler) (calls : List Call) : Prop :=
  ∃ text, (recvAll convertDateTimeToLocalZone s calls).file = s.file ++ text ∧ Timed (lines text)

/-- The message has a time, which can be converted. -/
def Dated (msg : Text) : Prop :=
  ∃ i, lastAt timeLabel msg = some i ∧ (convertDateTimeToLocalZone (msg.drop (i+6))).isSome

/-- The message is written, and has one of the two texts in it. -/
def Marks (msg : Text) : Bool :=
  (localised convertDateTimeToLocalZone false msg).isSome && marked msg

/-- What stands in front of the time that a message is written with. -/
def beforeTime (label msg : Text) : Text :=
  match lastAt timeLabel msg with
  | some i => msg.take i
  | none => label

/-- The first message with one of the two texts names no test on a line that ends in front of
its time, unless it gives a time before. -/
def FirstTimed (label : Text) (calls : List Call) : Prop :=
  ∀ msg, (calls.map fun call => stripNewline call.msg).find? (Marks convertDateTimeToLocalZone) =
    some msg → Timed (lines (beforeTime label msg)).dropLast

/-- The whole call, around the line that may be put in front of the message. -/
theorem recv_run (s s' : Handler) (call : Call) (text : Text) (hjson : s.iperfJSON = false)
    (h : localised convertDateTimeToLocalZone false (stripNewline call.msg) = some text)
    (hadd : (addTimeStamp call.currentTimeStamp text).run
      { s with iperfTimeStampAdded := s.iperfTimeStampAdded || contains text timeLabel } =
        (.ok (), s')) :
    recv convertDateTimeToLocalZone s call = { s' with file := s'.file ++ (text ++ [newline]) } :=
      by
  have hconvert := convertTxt_flag convertDateTimeToLocalZone (stripNewline call.msg) text s h
  unfold recv recvIperfData convertTime
  rw [Java.run_attempt, Java.bind_ok _ _ s s' text]
  · rfl
  · rw [Java.bind_ok _ _ s s s rfl, hjson, if_neg Bool.false_ne_true,
      Java.bind_ok _ _ s _ text hconvert, Java.bind_ok _ _ _ _ () hadd]
    rfl

section Localised

variable {s : Handler} {call : Call} {text : Text} (hjson : s.iperfJSON = false)
  (h : localised convertDateTimeToLocalZone false (stripNewline call.msg) = some text)
include hjson h

theorem recv_inserts (hadded : s.iperfTimeStampAdded = false)
    (htime : contains text timeLabel = false) (htest : contains text startingTest = true) :
    recv convertDateTimeToLocalZone s call =
      { s with
        file := s.file ++ (timeLine s.iperfLabel call.currentTimeStamp ++ (text ++ [newline]))
        iperfTimeStampAdded := true } := by
  have hmissing : (s.iperfTimeStampAdded || contains text timeLabel) = false := by
    rw [hadded, htime]
    rfl
  rw [← List.append_assoc]
  apply recv_run convertDateTimeToLocalZone s
    { s with
      file := s.file ++ timeLine s.iperfLabel call.currentTimeStamp
      iperfTimeStampAdded := true } call text hjson h
  unfold addTimeStamp
  rw [Java.bind_ok _ _ _ _ _ rfl, if_pos ⟨htest, hmissing⟩]
  rfl

theorem recv_plain (hplain : s.iperfTimeStampAdded = true ∨ contains text timeLabel = true ∨
    contains text startingTest = false) : recv convertDateTimeToLocalZone s call =
      { s with
        file := s.file ++ (text ++ [newline])
        iperfTimeStampAdded := s.iperfTimeStampAdded || contains text timeLabel } := by
  have hkeep : ¬(contains text startingTest = true ∧
      (s.iperfTimeStampAdded || contains text timeLabel) = false) := by
    rintro ⟨htest, hadded⟩
    obtain ⟨hadded, htime⟩ := Bool.or_eq_false_iff.mp hadded
    rcases hplain with hplain | hplain | hplain
    · exact Bool.false_ne_true (hadded.symm.trans hplain)
    · exact Bool.false_ne_true (htime.symm.trans hplain)
    · exact Bool.false_ne_true (hplain.symm.trans htest)
  apply recv_run convertDateTimeToLocalZone s
    { s with iperfTimeStampAdded := s.iperfTimeStampAdded ||
      contains text timeLabel } call text hjson h
  unfold addTimeStamp
  rw [Java.bind_ok _ _ _ _ _ rfl, if_neg hkeep]
  rfl

end Localised

theorem recv_dropped (s : Handler) (call : Call) (hjson : s.iperfJSON = false)
    (h : localised convertDateTimeToLocalZone false (stripNewline call.msg) = none) :
    recv convertDateTimeToLocalZone s call = s := by
  rw [← hjson] at h
  obtain ⟨error, herror⟩ :=
    (convertTime_run convertDateTimeToLocalZone call.currentTimeStamp (stripNewline call.msg) s).2 h
  unfold recv recvIperfData
  rw [Java.run_attempt, Java.bind_error _ _ s s error herror]
  rfl

theorem marked_localised (msg text : Text)
    (h : localised convertDateTimeToLocalZone false msg = some text) :
    marked msg = (contains text timeLabel || contains text startingTest) := by
  rcases localised_txt_cases convertDateTimeToLocalZone msg text h with
    ⟨-, rfl⟩ | ⟨i, converted, hlast, -, rfl⟩
  · rfl
  · rw [marked, contains_of_lastAt msg i hlast, take_time msg converted i hlast, contains_time,
      Bool.true_or, Bool.true_or]

/-- The line is written in front of the first test if there has been no time. -/
theorem inserts_iff (s : Handler) (call : Call) (hjson : s.iperfJSON = false) :
    Inserts convertDateTimeToLocalZone s call ↔ s.iperfTimeStampAdded = false ∧
      lastAt timeLabel (stripNewline call.msg) = none ∧
        contains (stripNewline call.msg) startingTest = true := by
  constructor
  · rintro ⟨text, htext, hfile⟩
    rw [hjson] at htext
    by_cases hplain : s.iperfTimeStampAdded = true ∨ contains text timeLabel = true ∨
      contains text startingTest = false
    · rw [recv_plain convertDateTimeToLocalZone hjson htext hplain] at hfile
      have hlength := congrArg List.length (List.append_cancel_left hfile)
      rw [List.length_append, timeLine] at hlength
      simp only [List.length_append, List.length_singleton] at hlength
      omega
    · simp only [not_or, Bool.not_eq_true, Bool.not_eq_false] at hplain
      obtain ⟨hadded, htime, htest⟩ := hplain
      rcases localised_txt_cases convertDateTimeToLocalZone _ text htext with
        ⟨hlast, rfl⟩ | ⟨i, converted, hlast, -, rfl⟩
      · exact ⟨hadded, hlast, htest⟩
      · rw [take_time _ converted i hlast, contains_time] at htime
        cases htime
  · rintro ⟨hadded, hlast, htest⟩
    have htext : localised convertDateTimeToLocalZone false (stripNewline call.msg) =
        some (stripNewline call.msg) := by
      rw [localised, if_neg Bool.false_ne_true, hlast]
    refine ⟨stripNewline call.msg, by rw [hjson, htext], ?_⟩
    rw [recv_inserts convertDateTimeToLocalZone hjson htext hadded (not_contains_of_lastAt _ hlast)
      htest]

/-- The flag after a message. -/
theorem added_recv (s : Handler) (call : Call) (hjson : s.iperfJSON = false) :
    (recv convertDateTimeToLocalZone s call).iperfTimeStampAdded =
      (s.iperfTimeStampAdded || Marks convertDateTimeToLocalZone (stripNewline call.msg)) := by
  unfold Marks
  cases htext : localised convertDateTimeToLocalZone false (stripNewline call.msg) with
  | none =>
    rw [recv_dropped convertDateTimeToLocalZone s call hjson htext, Option.isSome_none,
      Bool.false_and, Bool.or_false]
  | some text =>
    rw [marked_localised convertDateTimeToLocalZone _ text htext, Option.isSome_some, Bool.true_and]
    by_cases hplain : s.iperfTimeStampAdded = true ∨ contains text timeLabel = true ∨
      contains text startingTest = false
    · rw [recv_plain convertDateTimeToLocalZone hjson htext hplain]
      rcases hplain with hplain | hplain | hplain
      · rw [hplain, Bool.true_or, Bool.true_or]
      · rw [hplain, Bool.true_or]
      · rw [hplain, Bool.or_false]
    · simp only [not_or, Bool.not_eq_true, Bool.not_eq_false] at hplain
      obtain ⟨hadded, htime, htest⟩ := hplain
      rw [recv_inserts convertDateTimeToLocalZone hjson htext hadded htime htest, htest,
        Bool.or_true, Bool.or_true]

/-! The messages of a run. -/

theorem added_recvAll (s : Handler) (calls : List Call) (hjson : s.iperfJSON = false) :
    (recvAll convertDateTimeToLocalZone s calls).iperfTimeStampAdded =
      (s.iperfTimeStampAdded || calls.any fun call =>
        Marks convertDateTimeToLocalZone (stripNewline call.msg)) := by
  induction calls generalizing s with
  | nil =>
    rw [List.any_nil, Bool.or_false]
    rfl
  | cons call rest ih =>
    have hrest := ih (recv convertDateTimeToLocalZone s call)
      ((json_recv convertDateTimeToLocalZone s call).trans hjson)
    rw [added_recv convertDateTimeToLocalZone s call hjson, Bool.or_assoc] at hrest
    rw [List.any_cons]
    exact hrest

theorem json_recvAll (s : Handler) (calls : List Call) :
    (recvAll convertDateTimeToLocalZone s calls).iperfJSON = s.iperfJSON := by
  induction calls generalizing s with
  | nil => rfl
  | cons call rest ih => exact (ih _).trans (json_recv convertDateTimeToLocalZone s call)

section Appended

variable (s : Handler) (call : Call) (rest : List Call) (text : Text)

theorem firstTimed_cons (label : Text) :
    FirstTimed convertDateTimeToLocalZone label (call :: rest) ↔
      if Marks convertDateTimeToLocalZone (stripNewline call.msg) then
        Timed (lines (beforeTime label (stripNewline call.msg))).dropLast
      else FirstTimed convertDateTimeToLocalZone label rest := by
  unfold FirstTimed
  rw [List.map_cons, List.find?_cons]
  cases hmarks : Marks convertDateTimeToLocalZone (stripNewline call.msg) with
  | true =>
    rw [if_pos rfl]
    constructor
    · intro h
      exact h _ rfl
    · intro h msg hmsg
      cases hmsg
      exact h
  | false => rw [if_neg Bool.false_ne_true]

/-- What the first message with one of the two texts adds is timed exactly if the text before its
time is. -/
theorem timed_first (hjson : s.iperfJSON = false) (hadded : s.iperfTimeStampAdded = false)
    (hmarks : Marks convertDateTimeToLocalZone (stripNewline call.msg) = true) :
    ∃ added, (recv convertDateTimeToLocalZone s call).file = s.file ++ added ∧
      ∀ rest, Timed (lines (added ++ rest)) ↔
        Timed (lines (beforeTime s.iperfLabel (stripNewline call.msg))).dropLast := by
  obtain ⟨hsome, hmarked⟩ := Bool.and_eq_true_iff.mp hmarks
  obtain ⟨text, htext⟩ := Option.isSome_iff_exists.mp hsome
  rcases localised_txt_cases convertDateTimeToLocalZone _ text htext with
    ⟨hlast, rfl⟩ | ⟨i, converted, hlast, -, rfl⟩
  · have htime := not_contains_of_lastAt _ hlast
    have htest : contains (stripNewline call.msg) startingTest = true := by
      rw [marked, htime, Bool.false_or] at hmarked
      exact hmarked
    rw [recv_inserts convertDateTimeToLocalZone hjson htext hadded htime htest, beforeTime, hlast]
    refine ⟨_, rfl, ?_⟩
    intro rest
    rw [timeLine]
    simp only [List.append_assoc]
    exact timed_at_time_iff s.iperfLabel (ascii ":  Time: ") _ (by decide) ⟨ascii ":  ", [], rfl⟩
  · have htime : contains ((stripNewline call.msg).take (i+6) ++ converted) timeLabel = true := by
      rw [take_time _ converted i hlast, contains_time]
    rw [recv_plain convertDateTimeToLocalZone hjson htext (.inr (.inl htime)), beforeTime, hlast]
    refine ⟨_, rfl, ?_⟩
    intro rest
    rw [take_time _ converted i hlast]
    simp only [List.append_assoc]
    exact timed_at_time_iff _ timeLabel _ (by decide) List.infix_rfl

/-- Before that message nothing is named. -/
theorem timed_unmarked (hjson : s.iperfJSON = false) (hadded : s.iperfTimeStampAdded = false)
    (hmarks : Marks convertDateTimeToLocalZone (stripNewline call.msg) = false) :
    ∃ added, (recv convertDateTimeToLocalZone s call).file = s.file ++ added ∧
      (recv convertDateTimeToLocalZone s call).iperfTimeStampAdded = false ∧
      ∀ rest, Timed (lines (added ++ rest)) ↔ Timed (lines rest) := by
  have hflag := added_recv convertDateTimeToLocalZone s call hjson
  rw [hadded, hmarks, Bool.false_or] at hflag
  cases htext : localised convertDateTimeToLocalZone false (stripNewline call.msg) with
  | none =>
    refine ⟨[], ?_, hflag, fun rest => Iff.rfl⟩
    rw [recv_dropped convertDateTimeToLocalZone s call hjson htext, List.append_nil]
  | some text =>
    rw [Marks, htext, Option.isSome_some, Bool.true_and,
      marked_localised convertDateTimeToLocalZone _ text htext] at hmarks
    obtain ⟨htime, htest⟩ := Bool.or_eq_false_iff.mp hmarks
    refine ⟨text ++ [newline], ?_, hflag, ?_⟩
    · rw [recv_plain convertDateTimeToLocalZone hjson htext (.inr (.inr htest))]
    · intro rest
      rw [List.append_assoc, List.singleton_append]
      exact timed_unmarked_iff text rest htime htest

theorem file_recv : ∃ added, (recv convertDateTimeToLocalZone s call).file = s.file ++ added := by
  obtain ⟨hsome, hnone⟩ := recv_file convertDateTimeToLocalZone s call
  cases htext : localised convertDateTimeToLocalZone s.iperfJSON (stripNewline call.msg) with
  | none => exact ⟨[], by rw [hnone htext, List.append_nil]⟩
  | some text =>
    obtain ⟨line, hfile, -⟩ := hsome text htext
    exact ⟨_, hfile⟩

theorem file_recvAll : ∃ added, (recvAll convertDateTimeToLocalZone s rest).file =
    s.file ++ added := by
  induction rest generalizing s with
  | nil => exact ⟨[], (List.append_nil s.file).symm⟩
  | cons call rest ih =>
    obtain ⟨added, hadded⟩ := file_recv convertDateTimeToLocalZone s call
    obtain ⟨later, hlater⟩ := ih (recv convertDateTimeToLocalZone s call)
    refine ⟨added ++ later, ?_⟩
    rw [← List.append_assoc, ← hadded]
    exact hlater

theorem testsTimed_cons (added : Text)
    (hfile : (recv convertDateTimeToLocalZone s call).file = s.file ++ added) :
    TestsTimed convertDateTimeToLocalZone s (call :: rest) ↔
      ∃ text, (recvAll convertDateTimeToLocalZone (recv convertDateTimeToLocalZone s call)
        rest).file = (recv convertDateTimeToLocalZone s call).file ++ text ∧
          Timed (lines (added ++ text)) := by
  obtain ⟨later, hlater⟩ :=
    file_recvAll convertDateTimeToLocalZone (recv convertDateTimeToLocalZone s call) rest
  have hall : (recvAll convertDateTimeToLocalZone s (call :: rest)).file =
      s.file ++ (added ++ later) := by
    rw [← List.append_assoc, ← hfile]
    exact hlater
  constructor
  · rintro ⟨text, htext, htimed⟩
    rw [List.append_cancel_left (htext.symm.trans hall)] at htimed
    exact ⟨later, hlater, htimed⟩
  · rintro ⟨text, htext, htimed⟩
    rw [List.append_cancel_left (htext.symm.trans hlater)] at htimed
    exact ⟨added ++ later, hall, htimed⟩

end Appended

theorem testsTimed_iff (s : Handler) (calls : List Call) (hjson : s.iperfJSON = false)
    (hadded : s.iperfTimeStampAdded = false) :
    TestsTimed convertDateTimeToLocalZone s calls ↔
      FirstTimed convertDateTimeToLocalZone s.iperfLabel calls := by
  induction calls generalizing s with
  | nil =>
    have hempty : Timed (lines []) := by
      refine (preceded_append_of_not [[]] [] ?_ ?_).mpr preceded_nil
      · intro line hline
        rw [List.mem_singleton.mp hline]
        decide
      · intro line hline
        rw [List.mem_singleton.mp hline]
        decide
    refine iff_of_true ⟨[], (List.append_nil s.file).symm, hempty⟩ ?_
    intro msg hmsg
    cases hmsg
  | cons call rest ih =>
    rw [firstTimed_cons]
    cases hmarks : Marks convertDateTimeToLocalZone (stripNewline call.msg) with
    | true =>
      obtain ⟨added, hfile, hfirst⟩ :=
        timed_first convertDateTimeToLocalZone s call hjson hadded hmarks
      obtain ⟨later, hlater⟩ :=
        file_recvAll convertDateTimeToLocalZone (recv convertDateTimeToLocalZone s call) rest
      rw [testsTimed_cons convertDateTimeToLocalZone s call rest added hfile, if_pos rfl]
      simp only [hfirst]
      exact ⟨fun ⟨_, _, h⟩ => h, fun h => ⟨later, hlater, h⟩⟩
    | false =>
      obtain ⟨added, hfile, hflag, hsame⟩ :=
        timed_unmarked convertDateTimeToLocalZone s call hjson hadded hmarks
      rw [testsTimed_cons convertDateTimeToLocalZone s call rest added hfile,
        if_neg Bool.false_ne_true, ← label_recv convertDateTimeToLocalZone s call,
        ← ih _ ((json_recv convertDateTimeToLocalZone s call).trans hjson) hflag]
      simp only [hsame]
      rfl

/-- A message of one line leaves nothing in front of its time. -/
theorem firstTimed_of_single (label : Text) (calls : List Call) (hlabel : newline ∉ label)
    (hcalls : ∀ call ∈ calls, newline ∉ stripNewline call.msg) :
    FirstTimed convertDateTimeToLocalZone label calls := by
  intro msg hmsg
  obtain ⟨call, hcall, rfl⟩ := List.mem_map.mp (List.mem_of_find?_eq_some hmsg)
  have hsingle : newline ∉ beforeTime label (stripNewline call.msg) := by
    unfold beforeTime
    split
    · exact fun hmem => hcalls call hcall (List.mem_of_mem_take hmem)
    · exact hlabel
  rw [lines_of_not_mem _ hsingle]
  exact preceded_nil

/-- Behind a message that is marked no line is inserted. -/
theorem not_insertedAt_after (s : Handler) (calls : List Call) (k i : ℕ) (call : Call)
    (hjson : s.iperfJSON = false) (hk : calls[k]? = some call)
    (hmarks : Marks convertDateTimeToLocalZone (stripNewline call.msg) = true) (hlt : k < i) :
    ¬InsertedAt convertDateTimeToLocalZone s calls i := by
  rintro ⟨later, -, hinserts⟩
  have hcall : call ∈ calls.take i := List.mem_of_getElem? ((List.getElem?_take_of_lt hlt).trans hk)
  have hflag := ((inserts_iff convertDateTimeToLocalZone _ later
    ((json_recvAll convertDateTimeToLocalZone s _).trans hjson)).mp hinserts).1
  rw [added_recvAll convertDateTimeToLocalZone s _ hjson] at hflag
  have hany : ((calls.take i).any fun call =>
      Marks convertDateTimeToLocalZone (stripNewline call.msg)) = true :=
    List.any_eq_true.mpr ⟨call, hcall, hmarks⟩
  rw [hany, Bool.or_true] at hflag
  cases hflag

theorem insertedAt_marks (s : Handler) (calls : List Call) (i : ℕ) (hjson : s.iperfJSON = false)
    (h : InsertedAt convertDateTimeToLocalZone s calls i) :
    ∃ call, calls[i]? = some call ∧ lastAt timeLabel (stripNewline call.msg) = none ∧
      contains (stripNewline call.msg) startingTest = true ∧
      Marks convertDateTimeToLocalZone (stripNewline call.msg) = true := by
  obtain ⟨call, hcall, hinserts⟩ := h
  obtain ⟨-, hlast, htest⟩ := (inserts_iff convertDateTimeToLocalZone _ call
    ((json_recvAll convertDateTimeToLocalZone s _).trans hjson)).mp hinserts
  refine ⟨call, hcall, hlast, htest, ?_⟩
  rw [Marks, marked, htest, Bool.or_true, Bool.and_true, localised, if_neg Bool.false_ne_true,
    hlast]
  rfl

theorem insertedAt_unique (s : Handler) (calls : List Call) (i j : ℕ) (hjson : s.iperfJSON = false)
    (hi : InsertedAt convertDateTimeToLocalZone s calls i)
    (hj : InsertedAt convertDateTimeToLocalZone s calls j) : i = j := by
  obtain ⟨first, hfirst, -, -, hmarks⟩ :=
    insertedAt_marks convertDateTimeToLocalZone s calls i hjson hi
  obtain ⟨second, hsecond, -, -, hmarks'⟩ :=
    insertedAt_marks convertDateTimeToLocalZone s calls j hjson hj
  rcases Nat.lt_trichotomy i j with hlt | heq | hgt
  · exact absurd hj
      (not_insertedAt_after convertDateTimeToLocalZone s calls i j first hjson hfirst hmarks hlt)
  · exact heq
  · exact absurd hi (not_insertedAt_after convertDateTimeToLocalZone s calls j i second hjson
      hsecond hmarks' hgt)

theorem marks_of_dated (msg : Text) (h : Dated convertDateTimeToLocalZone msg) :
    Marks convertDateTimeToLocalZone msg = true := by
  obtain ⟨i, hlast, hsome⟩ := h
  have hlocalised : (localised convertDateTimeToLocalZone false msg).isSome = true := by
    rw [localised, if_neg Bool.false_ne_true, hlast]
    dsimp only
    rw [Option.isSome_map]
    exact hsome
  rw [Marks, marked, hlocalised, contains_of_lastAt msg i hlast]
  rfl

theorem stripNewline_isPrefix (msg : Text) : stripNewline msg <+: msg := by
  unfold stripNewline
  split_ifs
  · exact List.dropLast_prefix msg
  · exact List.prefix_rfl

/-- A time that came before the first test, or with it. -/
theorem not_insertedAt_of_dated (s : Handler) (calls : List Call) (k : ℕ) (call : Call)
    (hjson : s.iperfJSON = false) (hk : calls[k]? = some call)
    (hdated : Dated convertDateTimeToLocalZone (stripNewline call.msg))
    (hbefore : ∀ earlier ∈ calls.take k, contains earlier.msg startingTest = false) (i : ℕ) :
    ¬InsertedAt convertDateTimeToLocalZone s calls i := by
  intro hinserted
  obtain ⟨first, hfirst, hlast, htest, -⟩ :=
    insertedAt_marks convertDateTimeToLocalZone s calls i hjson hinserted
  rcases Nat.lt_trichotomy i k with hlt | rfl | hgt
  · have hmem : first ∈ calls.take k :=
      List.mem_of_getElem? ((List.getElem?_take_of_lt hlt).trans hfirst)
    have hcontains := contains_of_infix _ _ startingTest (by decide)
      (stripNewline_isPrefix first.msg).isInfix htest
    rw [hbefore first hmem] at hcontains
    cases hcontains
  · cases Option.some.inj (hk.symm.trans hfirst)
    obtain ⟨j, hj, -⟩ := hdated
    rw [hlast] at hj
    cases hj
  · exact not_insertedAt_after convertDateTimeToLocalZone s calls k i call hjson hk
      (marks_of_dated convertDateTimeToLocalZone _ hdated) hgt hinserted

/-- The tests of a run are timed exactly if the first message that matters names none above its
time, as with messages of one line; a run gets one line with the time of the device at most, and
none if the server sent a time first. -/
theorem time_line_iff (file iperfTitle : Text) (calls : List Call) :
    (TestsTimed convertDateTimeToLocalZone (initializeIperfSettings file false iperfTitle) calls ↔
      FirstTimed convertDateTimeToLocalZone iperfTitle calls) ∧
    ((newline ∉ iperfTitle ∧ ∀ call ∈ calls, newline ∉ stripNewline call.msg) →
      TestsTimed convertDateTimeToLocalZone (initializeIperfSettings file false iperfTitle) calls) ∧
    (∀ k call, calls[k]? = some call → Dated convertDateTimeToLocalZone (stripNewline call.msg) →
      (∀ earlier ∈ calls.take k, contains earlier.msg startingTest = false) →
      ∀ i, ¬InsertedAt convertDateTimeToLocalZone (initializeIperfSettings file false iperfTitle)
        calls i) ∧
    ∀ i j, InsertedAt convertDateTimeToLocalZone (initializeIperfSettings file false iperfTitle)
      calls i → InsertedAt convertDateTimeToLocalZone
        (initializeIperfSettings file false iperfTitle) calls j → i = j := by
  have htimed := testsTimed_iff convertDateTimeToLocalZone
    (initializeIperfSettings file false iperfTitle) calls rfl rfl
  refine ⟨htimed, ?_, ?_, ?_⟩
  · rintro ⟨hlabel, hcalls⟩
    exact htimed.mpr
      (firstTimed_of_single convertDateTimeToLocalZone iperfTitle calls hlabel hcalls)
  · intro k call hk hdated hbefore i
    exact not_insertedAt_of_dated convertDateTimeToLocalZone _ calls k call rfl hk hdated hbefore i
  · intro i j hi hj
    exact insertedAt_unique convertDateTimeToLocalZone _ calls i j rfl hi hj

end Messages

theorem time_line_single :
    TestsTimed central (initializeIperfSettings [] false (ascii "test"))
      [⟨ascii "Starting Test: protocol: TCP\n", ascii "2023-12-31 18:00:00 CST"⟩] := by
  refine (time_line_iff central [] (ascii "test") _).2.1 ⟨by decide, ?_⟩
  intro call hcall
  rw [List.mem_singleton.mp hcall]
  decide +kernel

/-- A message of two lines with the time on the second. -/
theorem time_line_late :
    ¬TestsTimed central (initializeIperfSettings [] false (ascii "test"))
      [⟨ascii "Starting Test: protocol: TCP\nTime: Mon, 01 Jan 2024 00:00:00 GMT\n", []⟩] := by
  intro h
  have hfirst := (testsTimed_iff central _ _ rfl rfl).mp h
    (ascii "Starting Test: protocol: TCP\nTime: Mon, 01 Jan 2024 00:00:00 GMT") (by decide +kernel)
  have hlines : (lines (beforeTime (ascii "test")
      (ascii "Starting Test: protocol: TCP\nTime: Mon, 01 Jan 2024 00:00:00 GMT"))).dropLast =
        [ascii "Starting Test: protocol: TCP"] := by decide +kernel
  change Timed (lines (beforeTime (ascii "test") _)).dropLast at hfirst
  rw [hlines] at hfirst
  obtain ⟨line, hline, htime⟩ :=
    hfirst [] (ascii "Starting Test: protocol: TCP") [] rfl (by decide +kernel)
  rw [List.nil_append, List.mem_singleton] at hline
  subst hline
  exact absurd htime (by decide +kernel)

end MmWaveTracker.IperfOutput
