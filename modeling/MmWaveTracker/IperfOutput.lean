import MmWaveTracker.JavaMethod
import MmWaveTracker.JavaText
import Mathlib.Data.List.Forall2

/-! `IperfJniHandler`: the output of an iperf run on its way from the native client to the
file, where the time of the server is replaced by local time. -/
namespace MmWaveTracker.IperfOutput

open JavaText

/-- A `String`, as its UTF-16 units. -/
abbrev Text := List UInt16

/-- The units of a text in ASCII. -/
def ascii (text : String) : Text := text.toList.map fun c => UInt16.ofNat c.toNat

def newline : UInt16 := 10
def comma : UInt16 := 44
def quote : UInt16 := 34

def timeLabel : Text := ascii "Time: "
def startingTest : Text := ascii "Starting Test: "
def timeKey : Text := ascii "\"time\":"
def timesecsKey : Text := ascii "\"timesecs\":"

/-- What `recvIperfData` works on, and what the file at `iperfFilePath` holds. -/
structure Handler where
  iperfJSON : Bool
  iperfTimeStampAdded : Bool
  iperfLabel : Text
  file : Text

/-- A call of `recvIperfData`, with the current time in the format `iperfDateFormat`. -/
structure Call where
  msg : Text
  currentTimeStamp : Text

def initializeIperfSettings (file : Text) (iperfJSONFlag : Bool) (iperfTitle : Text) : Handler where
  iperfJSON := iperfJSONFlag
  iperfTimeStampAdded := false
  iperfLabel := iperfTitle
  file := file

/-- The message without one newline at its end. -/
def stripNewline (msg : Text) : Text := if msg.getLast? = some newline then msg.dropLast else msg

section Methods

/-! The conversion gives `none` if the text is not a date in the locale of the device. -/

variable (convertDateTimeToLocalZone : Text → Option Text)

def convert (iperfTimeStr : Text) : Java Handler Text :=
  match convertDateTimeToLocalZone iperfTimeStr with
  | some convertedTimeStamp => pure convertedTimeStamp
  | none => Java.throw .platform

/-- `text.substring`. -/
def cut (text : Text) (beginIndex endIndex : ℤ) : Java Handler Text :=
  match substring text beginIndex endIndex with
  | some part => pure part
  | none => Java.throw .indexOutOfBounds

/-- `Files.write` with `APPEND`, which succeeds. -/
def write (text : Text) : Java Handler Unit :=
  Java.modify fun s => { s with file := s.file ++ text }

/-- Handle iperf txt files: the time. -/
def convertTxt (msg : Text) : Java Handler Text :=
  if contains msg timeLabel then do
    let time_index := lastIndexOf msg timeLabel
    let iperfTimeStr ← cut msg (time_index+6) msg.length
    let convertedTimeStamp ← convert convertDateTimeToLocalZone iperfTimeStr
    let before ← cut msg 0 (time_index+6)
    Java.modify fun s => { s with iperfTimeStampAdded := true }
    pure (before ++ convertedTimeStamp)
  else pure msg

/-- The timestamp in front of the message in case it was never sent by the server. -/
def addTimeStamp (currentTimeStamp msg : Text) : Java Handler Unit := do
  let s ← Java.get
  if contains msg startingTest ∧ s.iperfTimeStampAdded = false then do
    write (s.iperfLabel ++ ascii ":  Time: " ++ currentTimeStamp ++ [newline])
    Java.modify fun s => { s with iperfTimeStampAdded := true }
  else pure ()

/-- Handle iperf JSON files: the time is enclosed by two keys. -/
def convertJSON (msg : Text) : Java Handler Text :=
  let indexOfTimeStart := indexOf msg timeKey
  let indexofTimeEnd := indexOf msg timesecsKey
  if indexOfTimeStart ≠ -1 ∧ indexofTimeEnd ≠ -1 then do
    let iperfTimeStr ← cut msg (indexOfTimeStart+9) (indexofTimeEnd-6)
    let convertedTimeStamp ← convert convertDateTimeToLocalZone iperfTimeStr
    let before ← cut msg 0 (indexOfTimeStart+9)
    let after ← cut msg (indexofTimeEnd-6) msg.length
    pure (before ++ convertedTimeStamp ++ after)
  else pure msg

/-- Convert the timestamp received from the server from GMT time zone to the local zone. -/
def convertTime (currentTimeStamp msg : Text) : Java Handler Text := do
  let s ← Java.get
  if s.iperfJSON then convertJSON convertDateTimeToLocalZone msg
  else do
    let msg ← convertTxt convertDateTimeToLocalZone msg
    addTimeStamp currentTimeStamp msg
    pure msg

/-- Whatever is thrown is only printed. -/
def recvIperfData (call : Call) : Java Handler Unit :=
  Java.attempt (do
    let msg ← convertTime convertDateTimeToLocalZone call.currentTimeStamp (stripNewline call.msg)
    write (msg ++ [newline])) fun _ => pure ()

def recv (s : Handler) (call : Call) : Handler :=
  ((recvIperfData convertDateTimeToLocalZone call).run s).2

def recvAll (s : Handler) (calls : List Call) : Handler :=
  calls.foldl (recv convertDateTimeToLocalZone) s

end Methods

/-! What may become of a message on the way. -/

section Entries

variable (convertDateTimeToLocalZone : Text → Option Text)

/-- The text after the last `Time: ` may be in local time. -/
def LocalTxt (msg text : Text) : Prop :=
  ∃ i converted, OccursAt timeLabel msg i ∧ (∀ j, OccursAt timeLabel msg j → j ≤ i) ∧
    convertDateTimeToLocalZone (msg.drop (i+6)) = some converted ∧
      text = msg.take (i+6) ++ converted

def blank (c : UInt16) : Prop := c = 32 ∨ c = 9 ∨ c = 10 ∨ c = 13

/-- A time inside the string value of the first key `time` may be. -/
def LocalJSON (msg text : Text) : Prop :=
  ∃ i space front value back rest converted, OccursAt timeKey msg i ∧
    (∀ j, OccursAt timeKey msg j → i ≤ j) ∧ msg.drop
    (i+7) = space ++ quote :: (front ++ value ++ back) ++ quote :: rest ∧
    (∀ c ∈ space, blank c) ∧ quote ∉ front ++ value ++ back ∧
    convertDateTimeToLocalZone value = some converted ∧
    text = msg.take (i+7) ++ (space ++ quote :: (front ++ converted ++ back) ++ quote :: rest)

/-- A line with the time in front of the message. -/
def TimeLine (label msg line : Text) : Prop :=
  contains msg startingTest = true ∧ ∃ stamp, line = label ++ ascii ":  Time: " ++ stamp ++
    [newline]

/-- `added` is the entry of a message. -/
def Entry (json : Bool) (label : Text) (call : Call) (added : Text) : Prop :=
  ∃ line text, added = line ++ text ++ [newline] ∧
    (line = [] ∨ TimeLine label (stripNewline call.msg) line) ∧
    (text = stripNewline call.msg ∨
      if json then LocalJSON convertDateTimeToLocalZone (stripNewline call.msg) text
      else LocalTxt convertDateTimeToLocalZone (stripNewline call.msg) text)

/-- The file receives one entry for each message, in order. -/
def NothingLost (s : Handler) (calls : List Call) : Prop :=
  ∃ entries, List.Forall₂ (Entry convertDateTimeToLocalZone s.iperfJSON s.iperfLabel) calls
    entries ∧ ∀ k, (recvAll convertDateTimeToLocalZone s (calls.take k)).file =
      s.file ++ (entries.take k).flatten

/-- The string value begins at one of the two characters after the key. -/
def Opens (msg : Text) (i : ℕ) : Prop :=
  (∃ c, msg[i+7]? = some c ∧ blank c ∧ msg[i+8]? = some quote) ∨
    (msg[i+7]? = some quote ∧ msg[i+8]? ≠ some quote)

/-- The time of the message, if it has one, is a date, and where it is looked for. -/
def Convertible (json : Bool) (msg : Text) : Prop :=
  if json then
    ∀ i e, firstAt timeKey msg = some i → firstAt timesecsKey msg = some e →
      i+15 ≤ e ∧ (convertDateTimeToLocalZone ((msg.take (e-6)).drop (i+9))).isSome ∧ Opens msg i
  else ∀ i, lastAt timeLabel msg = some i → (convertDateTimeToLocalZone (msg.drop (i+6))).isSome

end Entries

/-- What is known of the two date formats: a date has a comma and no quotation mark in
`E, dd MMM yyyy HH:mm:ss z`, and no comma in `yyyy-MM-dd HH:mm:ss z`. -/
structure DateFormats (convertDateTimeToLocalZone : Text → Option Text) : Prop where
  parsed : ∀ value converted, convertDateTimeToLocalZone value = some converted → comma ∈ value ∧
    quote ∉ value
  formatted : ∀ value converted, convertDateTimeToLocalZone value = some converted →
    comma ∉ converted

/-! What the methods do. -/

section Runs

variable (convertDateTimeToLocalZone : Text → Option Text)

/-- The message as it is written, if it is. -/
def localised (json : Bool) (msg : Text) : Option Text :=
  if json then
    match firstAt timeKey msg, firstAt timesecsKey msg with
    | some i, some e =>
      if i+15 ≤ e then
        (convertDateTimeToLocalZone ((msg.take (e-6)).drop (i+9))).map fun converted =>
          msg.take (i+9) ++ converted ++ msg.drop (e-6)
      else none
    | _, _ => some msg
  else
    match lastAt timeLabel msg with
    | some i => (convertDateTimeToLocalZone (msg.drop (i+6))).map fun converted =>
        msg.take (i+6) ++ converted
    | none => some msg

theorem cut_of_le (text : Text) (b e : ℕ) (s : Handler) (hbe : b ≤ e) (he : e ≤ text.length) :
    (cut text b e).run s = (.ok ((text.take e).drop b), s) := by
  rw [cut, substring_of_le text b e hbe he]
  rfl

theorem convert_some (value converted : Text) (s : Handler)
    (h : convertDateTimeToLocalZone value = some converted) :
    (convert convertDateTimeToLocalZone value).run s = (.ok converted, s) := by
  rw [convert, h]
  rfl

theorem convert_none (value : Text) (s : Handler) (h : convertDateTimeToLocalZone value = none) :
    (convert convertDateTimeToLocalZone value).run s = (.error .platform, s) := by
  rw [convert, h]
  rfl

theorem timeLabel_fits (msg : Text) (i : ℕ) (h : lastAt timeLabel msg = some i) :
    i+6 ≤ msg.length :=
  OccursAt.add_length_le (by decide) (lastAt_occurs timeLabel msg i (by decide) h).1

theorem timesecsKey_fits (msg : Text) (e : ℕ) (h : firstAt timesecsKey msg = some e) :
    e+11 ≤ msg.length :=
  OccursAt.add_length_le (by decide) (firstAt_occurs timesecsKey msg e h).1

theorem not_contains_of_lastAt (msg : Text) (h : lastAt timeLabel msg = none) :
    contains msg timeLabel = false := by
  rw [← Bool.not_eq_true, contains_iff msg timeLabel (by decide), h]
  rintro ⟨i, hi⟩
  cases hi

theorem contains_of_lastAt (msg : Text) (i : ℕ) (h : lastAt timeLabel msg = some i) :
    contains msg timeLabel = true :=
  (contains_iff msg timeLabel (by decide)).mpr ⟨i, h⟩

theorem contains_time (front back : Text) :
    contains (front ++ (timeLabel ++ back)) timeLabel = true := by
  rw [contains_iff_isInfix _ _ (by decide), ← List.append_assoc]
  exact List.infix_append front timeLabel back

theorem convertTxt_no_label (msg : Text) (h : lastAt timeLabel msg = none) :
    convertTxt convertDateTimeToLocalZone msg = pure msg := by
  rw [convertTxt, not_contains_of_lastAt msg h, if_neg Bool.false_ne_true]

section Label

variable {msg : Text} {i : ℕ} (hlast : lastAt timeLabel msg = some i)
include hlast

theorem convertTxt_label : convertTxt convertDateTimeToLocalZone msg = (do
    let iperfTimeStr ← cut msg ((i+6 : ℕ) : ℤ) msg.length
    let convertedTimeStamp ← convert convertDateTimeToLocalZone iperfTimeStr
    let before ← cut msg 0 ((i+6 : ℕ) : ℤ)
    Java.modify fun s => { s with iperfTimeStampAdded := true }
    pure (before ++ convertedTimeStamp)) := by
  have hindex : lastIndexOf msg timeLabel + 6 = ((i+6 : ℕ) : ℤ) := by
    rw [lastIndexOf, hlast]
    rfl
  rw [convertTxt, if_pos (contains_of_lastAt msg i hlast)]
  dsimp only
  rw [hindex]

theorem cut_after_label (s : Handler) :
    (cut msg ((i+6 : ℕ) : ℤ) msg.length).run s = (.ok (msg.drop (i+6)), s) := by
  rw [cut_of_le msg (i+6) msg.length s (timeLabel_fits msg i hlast) le_rfl, List.take_length]

theorem convertTxt_not_date (s : Handler)
    (hconvert : convertDateTimeToLocalZone (msg.drop (i+6)) = none) :
    (convertTxt convertDateTimeToLocalZone msg).run s = (.error .platform, s) := by
  rw [convertTxt_label convertDateTimeToLocalZone hlast,
    Java.bind_ok _ _ s s _ (cut_after_label hlast s),
    Java.bind_error _ _ s s .platform (convert_none _ _ s hconvert)]

theorem convertTxt_date (s : Handler) (converted : Text)
    (hconvert : convertDateTimeToLocalZone (msg.drop (i+6)) = some converted) :
    (convertTxt convertDateTimeToLocalZone msg).run s =
      (.ok (msg.take (i+6) ++ converted), { s with iperfTimeStampAdded := true }) := by
  have hbefore : (cut msg 0 ((i+6 : ℕ) : ℤ)).run s = (.ok (msg.take (i+6)), s) :=
    cut_of_le msg 0 (i+6) s (Nat.zero_le _) (timeLabel_fits msg i hlast)
  rw [convertTxt_label convertDateTimeToLocalZone hlast,
    Java.bind_ok _ _ s s _ (cut_after_label hlast s),
    Java.bind_ok _ _ s s converted (convert_some _ _ _ s hconvert), Java.bind_ok _ _ s s _ hbefore]
  rfl

end Label

/-- A text message is written as it is, or with its last time converted. -/
theorem localised_txt_cases (msg text : Text)
    (h : localised convertDateTimeToLocalZone false msg = some text) :
    (lastAt timeLabel msg = none ∧ text = msg) ∨
      ∃ i converted, lastAt timeLabel msg = some i ∧ convertDateTimeToLocalZone (msg.drop (i+6)) =
        some converted ∧ text = msg.take (i+6) ++ converted := by
  rw [localised, if_neg Bool.false_ne_true] at h
  cases hlast : lastAt timeLabel msg with
  | none =>
    rw [hlast] at h
    exact .inl ⟨rfl, (Option.some.inj h).symm⟩
  | some i =>
    rw [hlast] at h
    obtain ⟨converted, hconverted, rfl⟩ := Option.map_eq_some_iff.mp h
    exact .inr ⟨i, converted, rfl, hconverted, rfl⟩

theorem localised_txt_none (msg : Text)
    (h : localised convertDateTimeToLocalZone false msg = none) :
    ∃ i, lastAt timeLabel msg = some i ∧ convertDateTimeToLocalZone (msg.drop (i+6)) = none := by
  rw [localised, if_neg Bool.false_ne_true] at h
  cases hlast : lastAt timeLabel msg with
  | none =>
    rw [hlast] at h
    cases h
  | some i =>
    rw [hlast] at h
    exact ⟨i, rfl, Option.map_eq_none_iff.mp h⟩

/-- The text up to the time ends with the label. -/
theorem take_time (msg converted : Text) (i : ℕ) (hlast : lastAt timeLabel msg = some i) :
    msg.take (i+6) ++ converted = msg.take i ++ (timeLabel ++ converted) := by
  obtain ⟨rest, hrest⟩ := (lastAt_occurs timeLabel msg i (by decide) hlast).1
  rw [List.take_add, ← hrest, List.take_left' (by decide), List.append_assoc]

/-- The flag after the conversion. -/
theorem convertTxt_flag (msg text : Text) (s : Handler)
    (h : localised convertDateTimeToLocalZone false msg = some text) :
    (convertTxt convertDateTimeToLocalZone msg).run s =
      (.ok text, { s with
        iperfTimeStampAdded := s.iperfTimeStampAdded || contains text timeLabel }) := by
  rcases localised_txt_cases convertDateTimeToLocalZone msg text h with
    ⟨hlast, rfl⟩ | ⟨i, converted, hlast, hconverted, rfl⟩
  · rw [convertTxt_no_label convertDateTimeToLocalZone text hlast,
      not_contains_of_lastAt text hlast, Bool.or_false]
    rfl
  · rw [convertTxt_date convertDateTimeToLocalZone hlast s converted hconverted,
      take_time msg converted i hlast, contains_time, Bool.or_true]

theorem convertTxt_run (msg : Text) (s : Handler) :
    (∀ text, localised convertDateTimeToLocalZone false msg = some text →
      ∃ added, (convertTxt convertDateTimeToLocalZone msg).run s = (.ok text,
        { s with iperfTimeStampAdded := added }) ∧ (added = false → text = msg)) ∧
    (localised convertDateTimeToLocalZone false msg = none →
      ∃ error, (convertTxt convertDateTimeToLocalZone msg).run s = (.error error, s)) := by
  constructor
  · intro text htext
    refine ⟨_, convertTxt_flag convertDateTimeToLocalZone msg text s htext, ?_⟩
    intro hadded
    rcases localised_txt_cases convertDateTimeToLocalZone msg text htext with
      ⟨-, rfl⟩ | ⟨i, converted, hlast, -, rfl⟩
    · rfl
    · rw [take_time msg converted i hlast, contains_time, Bool.or_true] at hadded
      cases hadded
  · intro hlost
    obtain ⟨i, hlast, hconvert⟩ := localised_txt_none convertDateTimeToLocalZone msg hlost
    exact ⟨.platform, convertTxt_not_date convertDateTimeToLocalZone hlast s hconvert⟩

theorem convertJSON_no_keys (msg : Text)
    (h : ¬(indexOf msg timeKey ≠ -1 ∧ indexOf msg timesecsKey ≠ -1)) :
    convertJSON convertDateTimeToLocalZone msg = pure msg ∧
      localised convertDateTimeToLocalZone true msg = some msg := by
  refine ⟨if_neg h, ?_⟩
  rw [localised, if_pos rfl]
  cases hi : firstAt timeKey msg with
  | none => rfl
  | some i =>
    cases he : firstAt timesecsKey msg with
    | none => rfl
    | some e => exact absurd ⟨(index_ne_neg_one _).mpr ⟨i, hi⟩, (index_ne_neg_one _).mpr ⟨e, he⟩⟩ h

section Keys

variable {msg : Text} {i e : ℕ} (hi : firstAt timeKey msg = some i)
    (he : firstAt timesecsKey msg = some e)
include hi he

theorem convertJSON_keys : convertJSON convertDateTimeToLocalZone msg = (do
    let iperfTimeStr ← cut msg ((i+9 : ℕ) : ℤ) ((e:ℤ)-6)
    let convertedTimeStamp ← convert convertDateTimeToLocalZone iperfTimeStr
    let before ← cut msg 0 ((i+9 : ℕ) : ℤ)
    let after ← cut msg ((e:ℤ)-6) msg.length
    pure (before ++ convertedTimeStamp ++ after)) := by
  have hstart : indexOf msg timeKey + 9 = ((i+9 : ℕ) : ℤ) := by
    rw [indexOf, hi]
    rfl
  have hend : indexOf msg timesecsKey - 6 = (e:ℤ) - 6 := by
    rw [indexOf, he]
    rfl
  have hkeys : indexOf msg timeKey ≠ -1 ∧ indexOf msg timesecsKey ≠ -1 :=
    ⟨(index_ne_neg_one _).mpr ⟨i, hi⟩, (index_ne_neg_one _).mpr ⟨e, he⟩⟩
  rw [convertJSON, if_pos hkeys, hstart, hend]

/-- The end of the time is in front of its beginning. -/
theorem convertJSON_short (s : Handler) (hle : ¬i+15 ≤ e) :
    (convertJSON convertDateTimeToLocalZone msg).run s = (.error .indexOutOfBounds, s) := by
  have hcut : (cut msg ((i+9 : ℕ) : ℤ) ((e:ℤ)-6)).run s = (.error .indexOutOfBounds, s) := by
    have hrange : ¬(0 ≤ ((i+9 : ℕ) : ℤ) ∧ ((i+9 : ℕ) : ℤ) ≤ (e:ℤ)-6 ∧
      (e:ℤ)-6 ≤ (msg.length:ℤ)) := by omega
    rw [cut, substring, if_neg hrange]
    rfl
  rw [convertJSON_keys convertDateTimeToLocalZone hi he, Java.bind_error _ _ s s _ hcut]

theorem convertJSON_not_date (s : Handler) (hle : i+15 ≤ e)
    (hconvert : convertDateTimeToLocalZone ((msg.take (e-6)).drop (i+9)) = none) :
    (convertJSON convertDateTimeToLocalZone msg).run s = (.error .platform, s) := by
  have hlength := timesecsKey_fits msg e he
  have hsub : (e:ℤ) - 6 = ((e-6 : ℕ) : ℤ) := by omega
  have hcut := cut_of_le msg (i+9) (e-6) s (by omega) (by omega)
  rw [convertJSON_keys convertDateTimeToLocalZone hi he, hsub, Java.bind_ok _ _ s s _ hcut,
    Java.bind_error _ _ s s .platform (convert_none _ _ s hconvert)]

theorem convertJSON_date (s : Handler) (converted : Text) (hle : i+15 ≤ e)
    (hconvert : convertDateTimeToLocalZone ((msg.take (e-6)).drop (i+9)) = some converted) :
    (convertJSON convertDateTimeToLocalZone msg).run s =
      (.ok (msg.take (i+9) ++ converted ++ msg.drop (e-6)), s) := by
  have hlength := timesecsKey_fits msg e he
  have hsub : (e:ℤ) - 6 = ((e-6 : ℕ) : ℤ) := by omega
  have hcut := cut_of_le msg (i+9) (e-6) s (by omega) (by omega)
  have hbefore : (cut msg 0 ((i+9 : ℕ) : ℤ)).run s = (.ok (msg.take (i+9)), s) :=
    cut_of_le msg 0 (i+9) s (Nat.zero_le _) (by omega)
  have hafter : (cut msg ((e-6 : ℕ) : ℤ) msg.length).run s = (.ok (msg.drop (e-6)), s) := by
    rw [cut_of_le msg (e-6) msg.length s (by omega) le_rfl, List.take_length]
  rw [convertJSON_keys convertDateTimeToLocalZone hi he, hsub, Java.bind_ok _ _ s s _ hcut,
    Java.bind_ok _ _ s s converted (convert_some _ _ _ s hconvert), Java.bind_ok _ _ s s _ hbefore,
    Java.bind_ok _ _ s s _ hafter]
  rfl

end Keys

theorem convertJSON_run (msg : Text) (s : Handler) :
    (∀ text, localised convertDateTimeToLocalZone true msg = some text →
      (convertJSON convertDateTimeToLocalZone msg).run s = (.ok text, s)) ∧
    (localised convertDateTimeToLocalZone true msg = none →
      ∃ error, (convertJSON convertDateTimeToLocalZone msg).run s = (.error error, s)) := by
  by_cases hkeys : indexOf msg timeKey ≠ -1 ∧ indexOf msg timesecsKey ≠ -1
  · obtain ⟨i, hi⟩ := (index_ne_neg_one _).mp hkeys.1
    obtain ⟨e, he⟩ := (index_ne_neg_one _).mp hkeys.2
    rw [localised, if_pos rfl, hi, he]
    dsimp only
    by_cases hle : i+15 ≤ e
    · rw [if_pos hle]
      cases hconvert : convertDateTimeToLocalZone ((msg.take (e-6)).drop (i+9)) with
      | none =>
        have hrun := convertJSON_not_date convertDateTimeToLocalZone hi he s hle hconvert
        exact ⟨fun text h => absurd h (Option.some_ne_none text).symm, fun _ => ⟨.platform, hrun⟩⟩
      | some converted =>
        refine ⟨?_, fun h => by cases h⟩
        intro text htext
        cases htext
        exact convertJSON_date convertDateTimeToLocalZone hi he s converted hle hconvert
    · have hrun := convertJSON_short convertDateTimeToLocalZone hi he s hle
      rw [if_neg hle]
      exact ⟨fun text h => absurd h (Option.some_ne_none text).symm, fun _ =>
        ⟨.indexOutOfBounds, hrun⟩⟩
  · obtain ⟨hrun, hlocal⟩ := convertJSON_no_keys convertDateTimeToLocalZone msg hkeys
    rw [hrun, hlocal]
    refine ⟨?_, fun h => by cases h⟩
    intro text htext
    cases htext
    rfl

theorem addTimeStamp_run (currentTimeStamp msg : Text) (s : Handler) :
    ∃ line added, (addTimeStamp currentTimeStamp msg).run s =
      (.ok (), { s with file := s.file ++ line, iperfTimeStampAdded := added }) ∧
        (line = [] ∨ s.iperfTimeStampAdded = false ∧ TimeLine s.iperfLabel msg line) := by
  unfold addTimeStamp
  rw [Java.bind_ok _ _ s s s rfl]
  split_ifs with h
  · exact ⟨_, true, rfl, .inr ⟨h.2, h.1, currentTimeStamp, rfl⟩⟩
  · refine ⟨[], s.iperfTimeStampAdded, ?_, .inl rfl⟩
    rw [List.append_nil]
    rfl

/-- The settings of the handler. -/
def Handler.settings (s : Handler) : Bool × Text := (s.iperfJSON, s.iperfLabel)

theorem settings_cut (text : Text) (b e : ℤ) : Java.Leaves Handler.settings (cut text b e) := by
  unfold cut
  split
  · exact Java.within_pure _
  · exact Java.within_throw _

theorem settings_convert (value : Text) :
    Java.Leaves Handler.settings (convert convertDateTimeToLocalZone value) := by
  unfold convert
  split
  · exact Java.within_pure _
  · exact Java.within_throw _

theorem settings_convertTxt (msg : Text) :
    Java.Leaves Handler.settings (convertTxt convertDateTimeToLocalZone msg) := by
  unfold convertTxt
  split_ifs
  · refine Java.within_bind (settings_cut _ _ _) fun _ => ?_
    refine Java.within_bind (settings_convert _ _) fun _ => ?_
    refine Java.within_bind (settings_cut _ _ _) fun _ => ?_
    exact Java.within_bind (Java.within_modify _ fun _ => rfl) fun _ => Java.within_pure _
  · exact Java.within_pure _

theorem settings_convertJSON (msg : Text) :
    Java.Leaves Handler.settings (convertJSON convertDateTimeToLocalZone msg) := by
  unfold convertJSON
  dsimp only
  split_ifs
  · refine Java.within_bind (settings_cut _ _ _) fun _ => ?_
    refine Java.within_bind (settings_convert _ _) fun _ => ?_
    refine Java.within_bind (settings_cut _ _ _) fun _ => ?_
    exact Java.within_bind (settings_cut _ _ _) fun _ => Java.within_pure _
  · exact Java.within_pure _

theorem settings_addTimeStamp (currentTimeStamp msg : Text) :
    Java.Leaves Handler.settings (addTimeStamp currentTimeStamp msg) := by
  intro s
  obtain ⟨line, added, hrun, -⟩ := addTimeStamp_run currentTimeStamp msg s
  rw [hrun]
  rfl

theorem settings_convertTime (currentTimeStamp msg : Text) :
    Java.Leaves Handler.settings (convertTime convertDateTimeToLocalZone currentTimeStamp msg) := by
  unfold convertTime
  refine Java.within_bind Java.within_get fun s => ?_
  split_ifs
  · exact settings_convertJSON convertDateTimeToLocalZone msg
  · refine Java.within_bind (settings_convertTxt convertDateTimeToLocalZone msg) fun _ => ?_
    exact Java.within_bind (settings_addTimeStamp _ _) fun _ => Java.within_pure _

theorem settings_recv (s : Handler) (call : Call) :
    (recv convertDateTimeToLocalZone s call).settings = s.settings := by
  have hwrite : ∀ text, Java.Leaves Handler.settings (write text) :=
    fun _ => Java.within_modify _ fun _ => rfl
  have hbody := Java.within_bind
    (settings_convertTime convertDateTimeToLocalZone call.currentTimeStamp
    (stripNewline call.msg)) fun msg => hwrite (msg ++ [newline])
  exact Java.within_attempt hbody (fun _ => Java.within_pure ()) s

theorem json_recv (s : Handler) (call : Call) :
    (recv convertDateTimeToLocalZone s call).iperfJSON = s.iperfJSON :=
  congrArg Prod.fst (settings_recv convertDateTimeToLocalZone s call)

theorem label_recv (s : Handler) (call : Call) :
    (recv convertDateTimeToLocalZone s call).iperfLabel = s.iperfLabel :=
  congrArg Prod.snd (settings_recv convertDateTimeToLocalZone s call)

/-- A message is converted, with a line in front of it or none, or an exception is thrown. -/
theorem convertTime_run (currentTimeStamp msg : Text) (s : Handler) :
    (∀ text, localised convertDateTimeToLocalZone s.iperfJSON msg = some text →
      ∃ line added, (convertTime convertDateTimeToLocalZone currentTimeStamp msg).run s =
        (.ok text, { s with file := s.file ++ line, iperfTimeStampAdded := added }) ∧
          (line = [] ∨ s.iperfJSON = false ∧ TimeLine s.iperfLabel msg line)) ∧
    (localised convertDateTimeToLocalZone s.iperfJSON msg = none →
      ∃ error, (convertTime convertDateTimeToLocalZone currentTimeStamp msg).run s =
        (.error error, s)) := by
  unfold convertTime
  rw [Java.bind_ok _ _ s s s rfl]
  cases hjson : s.iperfJSON with
  | true =>
    obtain ⟨hsome, hnone⟩ := convertJSON_run convertDateTimeToLocalZone msg s
    rw [if_pos rfl]
    refine ⟨?_, hnone⟩
    intro text htext
    refine ⟨[], s.iperfTimeStampAdded, ?_, .inl rfl⟩
    rw [hsome text htext, List.append_nil, ← hjson]
  | false =>
    obtain ⟨hsome, hnone⟩ := convertTxt_run convertDateTimeToLocalZone msg s
    rw [if_neg Bool.false_ne_true]
    constructor
    · intro text htext
      obtain ⟨added, hrun, hsame⟩ := hsome text htext
      obtain ⟨line, added', hadd, hline⟩ :=
        addTimeStamp_run currentTimeStamp text { s with iperfTimeStampAdded := added }
      refine ⟨line, added', ?_, ?_⟩
      · rw [Java.bind_ok _ _ s _ text hrun, Java.bind_ok _ _ _ _ () hadd, ← hjson]
        rfl
      · rcases hline with hline | ⟨hadded, hline⟩
        · exact .inl hline
        · rw [hsame hadded] at hline
          exact .inr ⟨rfl, hline⟩
    · intro hlost
      obtain ⟨error, herror⟩ := hnone hlost
      exact ⟨error, Java.bind_error _ _ s s error herror⟩

/-- A message that can be localised is written, another one is not. -/
theorem recv_file (s : Handler) (call : Call) :
    (∀ text, localised convertDateTimeToLocalZone s.iperfJSON (stripNewline call.msg) = some text →
      ∃ line, (recv convertDateTimeToLocalZone s call).file =
        s.file ++ (line ++ text ++ [newline]) ∧
          (line = [] ∨ s.iperfJSON = false ∧ TimeLine s.iperfLabel (stripNewline call.msg) line)) ∧
    (localised convertDateTimeToLocalZone s.iperfJSON (stripNewline call.msg) = none →
      (recv convertDateTimeToLocalZone s call).file = s.file) := by
  obtain ⟨hsome, hnone⟩ :=
    convertTime_run convertDateTimeToLocalZone call.currentTimeStamp (stripNewline call.msg) s
  unfold recv recvIperfData
  rw [Java.run_attempt]
  constructor
  · intro text htext
    obtain ⟨line, added, hrun, hline⟩ := hsome text htext
    refine ⟨line, ?_, hline⟩
    rw [Java.bind_ok _ _ s _ text hrun]
    change s.file ++ line ++ (text ++ [newline]) = _
    rw [List.append_assoc, List.append_assoc]
  · intro hlost
    obtain ⟨error, herror⟩ := hnone hlost
    rw [Java.bind_error _ _ s s error herror]
    rfl

end Runs

/-! Where the time of a JSON message is. -/

section Json

variable {convertDateTimeToLocalZone : Text → Option Text} {msg : Text} {i e : ℕ}

/-- The text that is taken for the time, and what is around it. -/
theorem around_time (hle : i+15 ≤ e) (hlength : e+11 ≤ msg.length) :
    ∃ c d, msg[i+7]? = some c ∧ msg[i+8]? = some d ∧ msg.take (i+9) = msg.take (i+7) ++ [c, d] ∧
      msg.drop (i+7) = c :: d :: ((msg.take (e-6)).drop (i+9) ++ msg.drop (e-6)) := by
  have h7 : i+7 < msg.length := by omega
  have h8 : i+8 < msg.length := by omega
  have htime : msg.drop (i+9) = (msg.take (e-6)).drop (i+9) ++ msg.drop (e-6) := by
    have hsplit := congrArg (List.drop (i+9)) (List.take_append_drop (e-6) msg)
    rw [List.drop_append_of_le_length (by rw [List.length_take]; omega)] at hsplit
    exact hsplit.symm
  refine ⟨msg[i+7], msg[i+8], List.getElem?_eq_getElem h7, List.getElem?_eq_getElem h8, ?_, ?_⟩
  · rw [List.take_succ_eq_append_getElem h8, List.take_succ_eq_append_getElem h7, List.append_assoc]
    rfl
  · rw [List.drop_eq_getElem_cons h7, List.drop_eq_getElem_cons h8, htime]

/-- The key behind the time begins with a quotation mark. -/
theorem quote_after_time (h : firstAt timesecsKey msg = some e) : quote ∈ msg.drop (e-6) := by
  obtain ⟨rest, hrest⟩ := (firstAt_occurs timesecsKey msg e h).1
  have hmem : quote ∈ msg.drop e := by
    rw [← hrest]
    exact List.mem_append_left rest (by decide)
  exact (List.drop_sublist_drop_left msg (Nat.sub_le e 6)).subset hmem

theorem localJSON_of_opens (hi : firstAt timeKey msg = some i)
    (he : firstAt timesecsKey msg = some e) (hle : i+15 ≤ e)
    (hformats : DateFormats convertDateTimeToLocalZone) (converted : Text)
    (hconvert : convertDateTimeToLocalZone ((msg.take (e-6)).drop (i+9)) = some converted)
    (hopens : Opens msg i) :
    LocalJSON convertDateTimeToLocalZone msg (msg.take (i+9) ++ converted ++ msg.drop (e-6)) := by
  obtain ⟨hat, hfirst⟩ := firstAt_occurs timeKey msg i hi
  obtain ⟨c, d, hc, hd, htake, hdrop⟩ := around_time hle (timesecsKey_fits msg e he)
  obtain ⟨back, rest, htail, hback⟩ := List.eq_append_cons_of_mem (quote_after_time he)
  have hquote := (hformats.parsed _ _ hconvert).2
  rw [htail] at hdrop
  rw [htake, htail]
  rcases hopens with ⟨c', hc', hblank, hd'⟩ | ⟨hc', hd'⟩
  · cases Option.some.inj (hc.symm.trans hc')
    cases Option.some.inj (hd.symm.trans hd')
    refine ⟨i, [c], [], (msg.take (e-6)).drop (i+9), back, rest, converted, hat, hfirst, ?_, ?_, ?_,
      hconvert, ?_⟩
    · rw [hdrop]
      simp only [List.nil_append, List.cons_append, List.append_assoc]
    · intro x hx
      rw [List.mem_singleton.mp hx]
      exact hblank
    · rw [List.nil_append, List.mem_append]
      exact fun hm => hm.elim hquote hback
    · simp only [List.nil_append, List.cons_append, List.append_assoc]
  · cases Option.some.inj (hc.symm.trans hc')
    refine ⟨i, [], [d], (msg.take (e-6)).drop (i+9), back, rest, converted, hat, hfirst, ?_, ?_, ?_,
      hconvert, ?_⟩
    · rw [hdrop]
      simp only [List.nil_append, List.cons_append, List.append_assoc]
    · exact fun x hx => absurd hx List.not_mem_nil
    · rw [List.mem_append, List.mem_append, List.mem_singleton]
      rintro ((hm | hm) | hm)
      · exact hd' (hm ▸ hd)
      · exact hquote hm
      · exact hback hm
    · simp only [List.nil_append, List.cons_append, List.append_assoc]

theorem opens_of_localJSON (hi : firstAt timeKey msg = some i)
    (he : firstAt timesecsKey msg = some e) (hle : i+15 ≤ e)
    (hformats : DateFormats convertDateTimeToLocalZone) (converted text : Text)
    (hconvert : convertDateTimeToLocalZone ((msg.take (e-6)).drop (i+9)) = some converted)
    (hlocal : LocalJSON convertDateTimeToLocalZone msg text) : Opens msg i := by
  obtain ⟨i', space, front, value, back, rest, converted', hat, hfirst, hdrop', hspace, hquotes,
    hconvert', -⟩ := hlocal
  have hsame : i' = i := by
    obtain ⟨hat₀, hfirst₀⟩ := firstAt_occurs timeKey msg i hi
    exact Nat.le_antisymm (hfirst i hat₀) (hfirst₀ i' hat)
  subst hsame
  obtain ⟨c, d, hc, hd, -, hdrop⟩ := around_time hle (timesecsKey_fits msg e he)
  obtain ⟨hcomma, hquote⟩ := hformats.parsed _ _ hconvert
  have hvalue := (hformats.parsed _ _ hconvert').1
  rw [hdrop] at hdrop'
  rcases space with _ | ⟨c', _ | ⟨d', space⟩⟩
  · rw [List.nil_append, List.cons_append, List.cons.injEq] at hdrop'
    obtain ⟨rfl, hrest⟩ := hdrop'
    refine .inr ⟨hc, ?_⟩
    have hmem : comma ∈ front ++ value ++ back :=
      List.mem_append_left _ (List.mem_append_right _ hvalue)
    obtain ⟨d', content, hcontent⟩ := List.exists_cons_of_ne_nil (List.ne_nil_of_mem hmem)
    rw [hcontent, List.cons_append, List.cons.injEq] at hrest
    rw [hcontent] at hquotes
    rw [hd, hrest.1]
    exact fun heq => hquotes (Option.some.inj heq ▸ List.mem_cons_self)
  · simp only [List.cons_append, List.nil_append, List.cons.injEq] at hdrop'
    obtain ⟨rfl, rfl, -⟩ := hdrop'
    exact .inl ⟨c, hc, hspace c List.mem_cons_self, hd⟩
  · exfalso
    have hblank : ¬blank comma := by
      unfold blank
      decide
    simp only [List.cons_append, List.append_assoc, List.cons.injEq] at hdrop'
    have hnot : comma ∉ space :=
      fun hm => hblank (hspace comma (List.mem_cons_of_mem _ (List.mem_cons_of_mem _ hm)))
    rcases List.append_eq_append_iff.mp hdrop'.2.2 with
      ⟨between, hbetween, -⟩ | ⟨between, hbetween, hrest⟩
    · exact hnot (hbetween ▸ List.mem_append_left between hcomma)
    · cases between with
      | nil =>
        rw [List.append_nil] at hbetween
        exact hnot (hbetween ▸ hcomma)
      | cons x between =>
        rw [List.cons_append, List.cons.injEq] at hrest
        rw [hbetween, ← hrest.1] at hquote
        exact hquote (List.mem_append_right space List.mem_cons_self)

end Json

/-! The entry of a message. -/

section Step

variable {convertDateTimeToLocalZone : Text → Option Text} {msg text : Text}

theorem convertible_txt (h : localised convertDateTimeToLocalZone false msg = some text) :
    Convertible convertDateTimeToLocalZone false msg ∧
      (text = msg ∨ LocalTxt convertDateTimeToLocalZone msg text) := by
  rw [Convertible, if_neg Bool.false_ne_true]
  rcases localised_txt_cases convertDateTimeToLocalZone msg text h with
    ⟨hlast, rfl⟩ | ⟨i, converted, hlast, hconvert, rfl⟩
  · rw [hlast]
    exact ⟨fun i hi => absurd hi (Option.some_ne_none i).symm, .inl rfl⟩
  · obtain ⟨hat, hall⟩ := lastAt_occurs timeLabel msg i (by decide) hlast
    constructor
    · intro i' hi'
      cases Option.some.inj (hlast.symm.trans hi')
      rw [hconvert]
      rfl
    · exact .inr ⟨i, converted, hat, hall, hconvert, rfl⟩

theorem not_convertible_of_none (json : Bool)
    (h : localised convertDateTimeToLocalZone json msg = none) :
    ¬Convertible convertDateTimeToLocalZone json msg := by
  intro hconvertible
  unfold localised at h
  unfold Convertible at hconvertible
  split_ifs at h hconvertible with hjson
  · split at h
    · rename_i i e hi he
      obtain ⟨hle, hsome, -⟩ := hconvertible i e hi he
      rw [if_pos hle, Option.map_eq_none_iff] at h
      rw [h] at hsome
      cases hsome
    · cases h
  · split at h
    · rename_i i hi
      rw [Option.map_eq_none_iff] at h
      have hsome := hconvertible i hi
      rw [h] at hsome
      cases hsome
    · cases h

/-- A JSON message is as it was, or its time is converted where the code has found it. -/
theorem localised_json_cases (h : localised convertDateTimeToLocalZone true msg = some text) :
    (text = msg ∧ Convertible convertDateTimeToLocalZone true msg) ∨
    ∃ i e converted, firstAt timeKey msg = some i ∧ firstAt timesecsKey msg = some e ∧ i+15 ≤ e ∧
      convertDateTimeToLocalZone ((msg.take (e-6)).drop (i+9)) = some converted ∧
      text = msg.take (i+9) ++ converted ++ msg.drop (e-6) := by
  rw [localised, if_pos rfl] at h
  split at h
  · rename_i i e hi he
    split_ifs at h with hle
    obtain ⟨converted, hconvert, rfl⟩ := Option.map_eq_some_iff.mp h
    exact .inr ⟨i, e, converted, hi, he, hle, hconvert, rfl⟩
  · rename_i hno
    refine .inl ⟨(Option.some.inj h).symm, ?_⟩
    rw [Convertible, if_pos rfl]
    exact fun i e hi he => absurd he (hno i e hi)

/-- The conversion takes commas away, so it is not undone by a line in front of the message. -/
theorem converted_ne (i e : ℕ) (hformats : DateFormats convertDateTimeToLocalZone)
    (converted line : Text) (hle : i+15 ≤ e)
    (hconvert : convertDateTimeToLocalZone ((msg.take (e-6)).drop (i+9)) = some converted) :
    msg.take (i+9) ++ converted ++ msg.drop (e-6) ≠ line ++ msg := by
  intro heq
  have hmsg : msg = msg.take (i+9) ++ (msg.take (e-6)).drop (i+9) ++ msg.drop (e-6) := by
    have hfront : msg.take (i+9) = (msg.take (e-6)).take (i+9) := by
      rw [List.take_take, Nat.min_eq_left (by omega)]
    rw [hfront, List.take_append_drop, List.take_append_drop]
  have hcount := congrArg (List.count comma) heq
  rw [List.count_append, List.count_append, List.count_append,
    List.count_eq_zero.mpr (hformats.formatted _ _ hconvert)] at hcount
  have hsum := congrArg (List.count comma) hmsg
  rw [List.count_append, List.count_append] at hsum
  have hpos := List.count_pos_iff.mpr (hformats.parsed _ _ hconvert).1
  omega

theorem convertible_json (hformats : DateFormats convertDateTimeToLocalZone)
    (h : localised convertDateTimeToLocalZone true msg = some text) :
    (Convertible convertDateTimeToLocalZone true msg → text = msg ∨
      LocalJSON convertDateTimeToLocalZone msg text) ∧
    ∀ line text', text = line ++ text' →
      (text' = msg ∨ LocalJSON convertDateTimeToLocalZone msg text') →
      Convertible convertDateTimeToLocalZone true msg := by
  rcases localised_json_cases h with
    ⟨rfl, hconvertible⟩ | ⟨i, e, converted, hi, he, hle, hconvert, rfl⟩
  · exact ⟨fun _ => .inl rfl, fun _ _ _ _ => hconvertible⟩
  · rw [Convertible, if_pos rfl]
    constructor
    · intro hall
      exact .inr (localJSON_of_opens hi he hle hformats converted hconvert (hall i e hi he).2.2)
    · intro line text' heq htext' i' e' hi' he'
      cases Option.some.inj (hi.symm.trans hi')
      cases Option.some.inj (he.symm.trans he')
      refine ⟨hle, Option.isSome_iff_exists.mpr ⟨converted, hconvert⟩, ?_⟩
      rcases htext' with rfl | hlocal
      · exact absurd heq (converted_ne i e hformats converted line hle hconvert)
      · exact opens_of_localJSON hi he hle hformats converted text' hconvert hlocal

/-- The call adds the entry of its message. -/
def Written (convertDateTimeToLocalZone : Text → Option Text) (s : Handler) (call : Call) : Prop :=
  ∃ added, (recv convertDateTimeToLocalZone s call).file = s.file ++ added ∧
    Entry convertDateTimeToLocalZone s.iperfJSON s.iperfLabel call added

theorem not_written (s : Handler) (call : Call)
    (h : localised convertDateTimeToLocalZone s.iperfJSON (stripNewline call.msg) = none) :
    ¬Written convertDateTimeToLocalZone s call := by
  rintro ⟨added, hfile, line, text, hadded, -, -⟩
  have hsame := (recv_file convertDateTimeToLocalZone s call).2 h
  have hnothing : added = [] := List.self_eq_append_right.mp (hsame.symm.trans hfile)
  rw [hnothing] at hadded
  exact List.append_ne_nil_of_right_ne_nil _ (List.cons_ne_nil newline []) hadded.symm

theorem written_iff (hformats : DateFormats convertDateTimeToLocalZone) (s : Handler)
    (call : Call) : Written convertDateTimeToLocalZone s call ↔
      Convertible convertDateTimeToLocalZone s.iperfJSON (stripNewline call.msg) := by
  cases htext : localised convertDateTimeToLocalZone s.iperfJSON (stripNewline call.msg) with
  | none =>
    exact iff_of_false (not_written s call htext) (not_convertible_of_none s.iperfJSON htext)
  | some text =>
    obtain ⟨line, hfile, hline⟩ := (recv_file convertDateTimeToLocalZone s call).1 text htext
    unfold Written Entry
    cases hjson : s.iperfJSON with
    | false =>
      rw [hjson] at htext
      obtain ⟨hconvertible, hlocal⟩ := convertible_txt htext
      refine iff_of_true ⟨_, hfile, line, text, rfl, hline.imp_right And.right, ?_⟩ hconvertible
      rw [if_neg Bool.false_ne_true]
      exact hlocal
    | true =>
      rw [hjson] at htext hline
      have hempty : line = [] := hline.elim id fun h => absurd h.1 (by decide)
      subst hempty
      obtain ⟨hto, hfrom⟩ := convertible_json hformats htext
      constructor
      · rintro ⟨added, hadded, line, text', rfl, -, htext'⟩
        have heq := List.append_cancel_left (hfile.symm.trans hadded)
        rw [if_pos rfl] at htext'
        exact hfrom line text' (List.append_cancel_right heq) htext'
      · intro hconvertible
        refine ⟨_, hfile, [], text, rfl, .inl rfl, ?_⟩
        rw [if_pos rfl]
        exact hto hconvertible

end Step

/-! The messages of a run. -/

section Messages

variable (convertDateTimeToLocalZone : Text → Option Text)

/-- Nothing is lost of a message and of those after it. -/
theorem nothingLost_cons (s : Handler) (call : Call) (rest : List Call) :
    NothingLost convertDateTimeToLocalZone s (call :: rest) ↔
      Written convertDateTimeToLocalZone s call ∧
        NothingLost convertDateTimeToLocalZone (recv convertDateTimeToLocalZone s call) rest := by
  unfold NothingLost
  rw [json_recv, label_recv]
  constructor
  · rintro ⟨entries, hentries, hfile⟩
    obtain ⟨added, entries, hadded, hrest, rfl⟩ := List.forall₂_cons_left_iff.mp hentries
    have hfirst : (recv convertDateTimeToLocalZone s call).file = s.file ++ added := by
      have hone := hfile 1
      rw [List.take_succ_cons, List.take_zero, List.take_succ_cons, List.take_zero,
        List.flatten_singleton] at hone
      exact hone
    refine ⟨⟨added, hfirst, hadded⟩, entries, hrest, ?_⟩
    intro k
    have hk := hfile (k+1)
    rw [List.take_succ_cons, List.take_succ_cons, List.flatten_cons, ← List.append_assoc,
      ← hfirst] at hk
    exact hk
  · rintro ⟨⟨added, hfirst, hadded⟩, entries, hrest, hfile⟩
    refine ⟨added :: entries, hrest.cons hadded, ?_⟩
    intro k
    cases k with
    | zero =>
      rw [List.take_zero, List.take_zero, List.flatten_nil, List.append_nil]
      rfl
    | succ k =>
      rw [List.take_succ_cons, List.take_succ_cons, List.flatten_cons, ← List.append_assoc,
        ← hfirst]
      exact hfile k

theorem nothingLost_iff (hformats : DateFormats convertDateTimeToLocalZone) (s : Handler)
    (calls : List Call) : NothingLost convertDateTimeToLocalZone s calls ↔
      ∀ call ∈ calls, Convertible convertDateTimeToLocalZone s.iperfJSON (stripNewline call.msg) :=
        by
  induction calls generalizing s with
  | nil =>
    refine iff_of_true ⟨[], .nil, ?_⟩ fun call hcall => absurd hcall List.not_mem_nil
    intro k
    rw [List.take_nil, List.take_nil, List.flatten_nil, List.append_nil]
    rfl
  | cons call rest ih =>
    rw [nothingLost_cons, written_iff hformats, ih, json_recv, List.forall_mem_cons]

/-- The output of a run is complete exactly if the time of every message that has one is a date,
inside the string where the code looks for it. -/
theorem output_complete_iff (hformats : DateFormats convertDateTimeToLocalZone) (file : Text)
    (iperfJSONFlag : Bool) (iperfTitle : Text) (calls : List Call) :
    NothingLost convertDateTimeToLocalZone (initializeIperfSettings file iperfJSONFlag iperfTitle)
      calls ↔ ∀ call ∈ calls, Convertible convertDateTimeToLocalZone iperfJSONFlag
        (stripNewline call.msg) :=
  nothingLost_iff convertDateTimeToLocalZone hformats
    (initializeIperfSettings file iperfJSONFlag iperfTitle) calls

end Messages

/-- A zone six hours behind, on one date. -/
def central (iperfTimeStr : Text) : Option Text :=
  if iperfTimeStr = ascii "Mon, 01 Jan 2024 00:00:00 GMT"
    then some (ascii "2023-12-31 18:00:00 CST") else none

theorem dateFormats_central : DateFormats central := by
  have hcases : ∀ value converted, central value = some converted →
      value = ascii "Mon, 01 Jan 2024 00:00:00 GMT" ∧
        converted = ascii "2023-12-31 18:00:00 CST" := by
    intro value converted h
    unfold central at h
    split_ifs at h with hvalue
    exact ⟨hvalue, (Option.some.inj h).symm⟩
  constructor
  · intro value converted h
    rw [(hcases value converted h).1]
    decide
  · intro value converted h
    rw [(hcases value converted h).2]
    decide

/-- The layout that iperf prints. -/
theorem output_complete_json :
    NothingLost central (initializeIperfSettings [] true (ascii "test"))
      [⟨ascii "\"time\":\t\"Mon, 01 Jan 2024 00:00:00 GMT\",\n\t\t\t\"timesecs\":\t1704067200\n",
        []⟩] := by
  refine (output_complete_iff central dateFormats_central [] true (ascii "test") _).mpr ?_
  intro call hcall
  rw [List.mem_singleton.mp hcall]
  intro i e hi he
  have hstart : firstAt timeKey (stripNewline
      (ascii "\"time\":\t\"Mon, 01 Jan 2024 00:00:00 GMT\",\n\t\t\t\"timesecs\":\t1704067200\n")) =
        some 0 := by decide +kernel
  have hend : firstAt timesecsKey (stripNewline
      (ascii "\"time\":\t\"Mon, 01 Jan 2024 00:00:00 GMT\",\n\t\t\t\"timesecs\":\t1704067200\n")) =
        some 44 := by decide +kernel
  cases Option.some.inj (hstart.symm.trans hi)
  cases Option.some.inj (hend.symm.trans he)
  refine ⟨by decide, by decide +kernel,
    .inl ⟨9, by decide +kernel, .inr (.inl rfl), by decide +kernel⟩⟩

/-- The same date in the German locale. -/
def german (iperfTimeStr : Text) : Option Text :=
  if iperfTimeStr = ascii "Mo., 01 Jan. 2024 00:00:00 GMT"
    then some (ascii "2024-01-01 01:00:00 MEZ") else none

/-- Keys in the other order, or a date in another language: the message is gone. -/
theorem output_lost :
    ¬NothingLost central (initializeIperfSettings [] true (ascii "test"))
      [⟨ascii "\"timesecs\":\t1704067200,\n\t\t\t\"time\":\t\"Mon, 01 Jan 2024 00:00:00 GMT\"\n",
        []⟩] ∧
    ¬NothingLost german (initializeIperfSettings [] false (ascii "test"))
      [⟨ascii "test:  Time: Mon, 01 Jan 2024 00:00:00 GMT\n", []⟩] := by
  constructor
  · intro h
    exact not_written _ _ (by decide +kernel) ((nothingLost_cons central _ _ []).mp h).1
  · intro h
    exact not_written _ _ (by decide +kernel) ((nothingLost_cons german _ _ []).mp h).1

end MmWaveTracker.IperfOutput
