import MmWaveTracker.Csv
import MmWaveTracker.CsvFiles
import MmWaveTracker.JavaText

/-! The summary of the iperf dialog read back: its rows are joined without any quoting. -/
namespace MmWaveTracker

open Csv

def iperfStatusValues : List String := ["good", "average", "bad"]

/-- What is known of the texts that the user does not choose: the dates are in the format
`yyyy-MM-dd HH:mm:ss.SSS z`, and a session number is a number of seconds. -/
structure ConfirmStatus.Printed (c : ConfirmStatus) : Prop where
  starttime : ∀ text ∈ c.starttime, Plain text.toList
  endtime : ∀ text ∈ c.endtime, Plain text.toList
  sessionNumber : ∀ text ∈ c.sessionNumber, ∃ seconds, text = valueOf seconds
  status : ∀ text ∈ c.status, text ∈ iperfStatusValues

/-- The text of a line in the file. -/
def summaryLine (values : List String) : List Char :=
  (String.intercalate csvDelimieter values ++ "\n").toList

/-- The row is one record with as many columns as the header, and has the label, the host and
the comment in their columns. -/
def ConfirmStatus.ReadBack (c : ConfirmStatus) : Prop :=
  ∃ names columns, readRecord (iperfSummaryHeader ++ "\n").toList = some (names, []) ∧
    readRecord (c.row ++ "\n").toList = some (columns, []) ∧ columns.length = names.length ∧
    columns[4]? = some (orNull c.iperf_run_label).toList ∧
      columns[6]? = some (orNull c.iperf_HostName).toList ∧
    columns[11]? = some c.comment.toList

/-- No exception cuts the row short, and the texts have no comma, quote or line break. -/
structure ConfirmStatus.Readable (c : ConfirmStatus) : Prop where
  starttime : c.starttime.isSome = true
  endtime : c.endtime.isSome = true
  status : c.status.isSome = true
  label : Plain (orNull c.iperf_run_label).toList
  host : Plain (orNull c.iperf_HostName).toList
  comment : Plain c.comment.toList

theorem summaryLine_cons (value next : String) (rest : List String) :
    summaryLine (value :: next :: rest) = value.toList ++ ',' :: summaryLine (next :: rest) := by
  unfold summaryLine
  rw [String.intercalate_cons_cons, csvDelimieter]
  simp only [String.toList_append, List.append_assoc]
  rfl

theorem summaryLine_single (value : String) : summaryLine [value] = value.toList ++ ['\n'] := by
  unfold summaryLine
  rw [String.intercalate_singleton, String.toList_append]
  rfl

theorem summaryLine_separator (value : String) (values : List String) :
    ∃ c cs, IsSeparator c ∧ summaryLine (value :: values) = value.toList ++ c :: cs := by
  cases values with
  | nil => exact ⟨'\n', [], .inr (.inl rfl), summaryLine_single value⟩
  | cons next values => exact ⟨',', summaryLine (next :: values), .inl rfl,
      summaryLine_cons value next values⟩

/-- Where all other values are plain, a line with some values in their columns has all of them
in their columns. -/
theorem columns_of_summaryLine (values : List String) (hne : values ≠ [])
    (columns : List (List Char)) (rest : List Char)
    (hread : readRecord (summaryLine values) = some (columns, rest))
    (hvalues : ∀ (i : ℕ) (v : String), values[i]? = some v → Plain v.toList ∨
      columns[i]? = some v.toList) :
    (∀ v ∈ values, Plain v.toList) ∧ columns = values.map String.toList := by
  induction values generalizing columns with
  | nil => exact absurd rfl hne
  | cons value values ih =>
    have hplain : Plain value.toList := by
      rcases hvalues 0 value rfl with hplain | hcolumn
      · exact hplain
      · obtain ⟨c, cs, hc, hline⟩ := summaryLine_separator value values
        cases columns with
        | nil => cases hcolumn
        | cons column columns =>
          cases hcolumn
          rw [hline] at hread
          exact plain_of_readRecord hc hread
    cases values with
    | nil =>
      rw [summaryLine_single, readRecord_newline _ _ hplain] at hread
      cases hread
      exact ⟨fun v hv => List.mem_singleton.mp hv ▸ hplain, rfl⟩
    | cons next values =>
      rw [summaryLine_cons, readRecord_comma _ _ hplain] at hread
      obtain ⟨⟨columns', rest'⟩, hread', heq⟩ := Option.map_eq_some_iff.mp hread
      cases heq
      obtain ⟨hall, rfl⟩ := ih (List.cons_ne_nil _ _) columns' hread' fun i v hv =>
        hvalues (i+1) v hv
      refine ⟨?_, rfl⟩
      intro v hv
      rcases List.mem_cons.mp hv with rfl | hv
      · exact hplain
      · exact hall v hv

theorem readRecord_summaryLine (values : List String) (hne : values ≠ [])
    (h : ∀ v ∈ values, Plain v.toList) :
    readRecord (summaryLine values) = some (values.map String.toList, []) := by
  induction values with
  | nil => exact absurd rfl hne
  | cons value values ih =>
    have hplain := h value List.mem_cons_self
    cases values with
    | nil => rw [summaryLine_single, readRecord_newline _ _ hplain]; rfl
    | cons next values =>
      rw [summaryLine_cons, readRecord_comma _ _ hplain,
        ih (List.cons_ne_nil _ _) fun v hv => h v (List.mem_cons_of_mem value hv)]
      rfl

theorem getElem?_addedValues (values : List (Option String)) (i : ℕ) (v : String)
    (h : (addedValues values)[i]? = some v) : values[i]? = some (some v) := by
  induction values generalizing i with
  | nil => cases h
  | cons value values ih =>
    cases value with
    | none => cases h
    | some value =>
      cases i with
      | zero => exact congrArg (fun v => some v) h
      | succ i => exact ih i h

theorem addedValues_of_isSome (values : List (Option String))
    (h : ∀ value ∈ values, value.isSome = true) :
    (addedValues values).map some = values := by
  induction values with
  | nil => rfl
  | cons value values ih =>
    cases value with
    | none => exact absurd (h none List.mem_cons_self) Bool.false_ne_true
    | some value =>
      rw [addedValues, List.map_cons, ih fun v hv => h v (List.mem_cons_of_mem _ hv)]

/-- The values are all added exactly if none of them is missing. -/
theorem length_addedValues_iff (values : List (Option String)) :
    (addedValues values).length = values.length ↔ ∀ value ∈ values, value.isSome = true := by
  constructor
  · intro hlength value hvalue
    obtain ⟨i, hi, rfl⟩ := List.getElem_of_mem hvalue
    have hadded := getElem?_addedValues values i _ (List.getElem?_eq_getElem (hlength ▸ hi))
    rw [List.getElem?_eq_getElem hi] at hadded
    rw [Option.some.inj hadded]
    rfl
  · intro h
    have hmap := congrArg List.length (addedValues_of_isSome values h)
    rw [List.length_map] at hmap
    exact hmap

theorem getElem?_addedValues_of_isSome (values : List (Option String))
    (h : ∀ value ∈ values, value.isSome = true) (i : ℕ) (v : String)
    (hv : values[i]? = some (some v)) : (addedValues values)[i]? = some v := by
  rw [← addedValues_of_isSome values h, List.getElem?_map] at hv
  obtain ⟨v', hv', heq⟩ := Option.map_eq_some_iff.mp hv
  cases heq
  exact hv'

theorem plain_valueOf (n : ℤ) : Plain (valueOf n).toList := by
  intro c hc
  rcases JavaText.mem_valueOf n c hc with rfl | hdigit
  · decide
  · constructor
    · rintro (rfl | rfl | rfl) <;> exact absurd hdigit (by decide)
    · rintro rfl
      exact absurd hdigit (by decide)

theorem plain_toString (b : Bool) : Plain (toString b).toList := by
  cases b <;> decide

/-- The columns other than those of the label, the host and the comment. -/
theorem ConfirmStatus.Printed.plain {c : ConfirmStatus} (h : c.Printed) (i : ℕ) (v : String)
    (hv : c.values[i]? = some (some v)) : Plain v.toList ∨ i = 4 ∨ i = 6 ∨ i = 11 := by
  have hsession : Plain (orNull c.sessionNumber).toList := by
    cases hnumber : c.sessionNumber with
    | none => exact show Plain "null".toList by decide
    | some text =>
      obtain ⟨seconds, rfl⟩ := h.sessionNumber text hnumber
      exact plain_valueOf seconds
  have hstatus (text : String) (htext : text ∈ iperfStatusValues) : Plain text.toList := by
    have hall : ∀ text ∈ iperfStatusValues, Plain text.toList := by decide
    exact hall text htext
  match i, hv with
  | 0, hv => exact .inl (h.starttime v (Option.some.inj hv))
  | 1, hv => exact .inl (h.endtime v (Option.some.inj hv))
  | 2, hv => cases hv; exact .inl hsession
  | 3, hv => cases hv; exact .inl (plain_valueOf _)
  | 4, _ => exact .inr (.inl rfl)
  | 5, hv => cases hv; exact .inl (plain_valueOf _)
  | 6, _ => exact .inr (.inr (.inl rfl))
  | 7, hv => cases hv; exact .inl (plain_valueOf _)
  | 8, hv => cases hv; exact .inl (plain_toString _)
  | 9, hv => exact .inl (hstatus v (h.status v (Option.some.inj hv)))
  | 10, hv => cases hv; exact .inl (plain_toString _)
  | 11, _ => exact .inr (.inr (.inr rfl))
  | _+12, hv => cases hv

def summaryColumns : List (List Char) :=
    ["StartTimestamp", "EndTimeStamp", "SessionID", "RunNumber", "Labels",
  "Duration", "ServerHostName", "Parallel", "TCPDUMP_Client_Flag", "Rating", "Downlink",
    "Comments"].map String.toList

theorem readRecord_header :
    readRecord (iperfSummaryHeader ++ "\n").toList = some (summaryColumns, []) := by
  decide +kernel

theorem ConfirmStatus.values_isSome_iff (c : ConfirmStatus) :
    (∀ value ∈ c.values, value.isSome = true) ↔ c.starttime.isSome = true ∧
      c.endtime.isSome = true ∧ c.status.isSome = true := by
  simp only [values, List.forall_mem_cons, List.not_mem_nil, Option.isSome_some, true_and, and_true,
    false_imp_iff, implies_true]

/-- What holds of plain values, and of the label, the host and the comment at their places, holds
of all values that are added. -/
theorem ConfirmStatus.Printed.forall_added {c : ConfirmStatus} (h : c.Printed)
    (Q : ℕ → String → Prop) (hplain : ∀ i v, Plain v.toList → Q i v)
    (hlabel : Q 4 (orNull c.iperf_run_label)) (hhost : Q 6 (orNull c.iperf_HostName))
    (hcomment : Q 11 c.comment) (i : ℕ) (v : String) (hv : (addedValues c.values)[i]? = some v) :
    Q i v := by
  have hv' := getElem?_addedValues c.values i v hv
  rcases h.plain i v hv' with hp | rfl | rfl | rfl
  · exact hplain i v hp
  · cases hv'
    exact hlabel
  · cases hv'
    exact hhost
  · cases hv'
    exact hcomment

theorem ConfirmStatus.Printed.readable {c : ConfirmStatus} (h : c.Printed) (hback : c.ReadBack) :
    c.Readable := by
  obtain ⟨names, columns, hnames, hread, hlength, hlabel, hhost, hcomment⟩ := hback
  rw [readRecord_header] at hnames
  cases hnames
  have hne : addedValues c.values ≠ [] := by
    intro hnil
    rw [ConfirmStatus.row, hnil] at hread
    cases hread
    cases hlength
  have hvalues := h.forall_added (fun i v => Plain v.toList ∨ columns[i]? = some v.toList)
    (fun i v hp => .inl hp)
    (.inr hlabel) (.inr hhost) (.inr hcomment)
  obtain ⟨hall, hcolumns⟩ := columns_of_summaryLine _ hne columns [] hread hvalues
  have hcount : (addedValues c.values).length = c.values.length := by
    rw [hcolumns, List.length_map] at hlength
    exact hlength
  have hsome := (length_addedValues_iff c.values).mp hcount
  obtain ⟨hstart, hend, hstatus⟩ := c.values_isSome_iff.mp hsome
  have hat (i : ℕ) (value : String) (hv : c.values[i]? = some (some value)) : Plain value.toList :=
    hall value (List.mem_of_getElem? (getElem?_addedValues_of_isSome c.values hsome i value hv))
  exact ⟨hstart, hend, hstatus, hat 4 _ rfl, hat 6 _ rfl, hat 11 _ rfl⟩

theorem ConfirmStatus.Printed.readBack {c : ConfirmStatus} (h : c.Printed)
    (hreadable : c.Readable) : c.ReadBack := by
  have hsome := c.values_isSome_iff.mpr ⟨hreadable.starttime, hreadable.endtime, hreadable.status⟩
  have hcount := (length_addedValues_iff c.values).mpr hsome
  have hat := getElem?_addedValues_of_isSome c.values hsome
  have hplain : ∀ v ∈ addedValues c.values, Plain v.toList := by
    intro v hv
    obtain ⟨i, hi⟩ := List.mem_iff_getElem?.mp hv
    exact h.forall_added (fun _ v => Plain v.toList)
      (fun i v hp => hp) hreadable.label hreadable.host hreadable.comment i v hi
  have hne : addedValues c.values ≠ [] := by
    intro hnil
    rw [hnil] at hcount
    cases hcount
  have hread := readRecord_summaryLine _ hne hplain
  refine ⟨summaryColumns, _, readRecord_header, hread, ?_, ?_, ?_, ?_⟩
  · rw [List.length_map, hcount]
    rfl
  · rw [List.getElem?_map, hat 4 _ rfl, Option.map_some]
  · rw [List.getElem?_map, hat 6 _ rfl, Option.map_some]
  · rw [List.getElem?_map, hat 11 _ rfl, Option.map_some]

/-- The record can be read back exactly if the run has both times and a rating, and neither the
label nor the host nor the comment has a comma, a quote or a line break in it. -/
theorem confirmStatus_readBack_iff (c : ConfirmStatus) (hprinted : c.Printed) :
    c.ReadBack ↔ c.Readable :=
  ⟨hprinted.readable, hprinted.readBack⟩

/-- A run as it was saved with a comment. -/
def savedRun (comment : String) : ConfirmStatus where
  starttime := some "2023-05-01 10:00:00.000 GMT"
  endtime := some "2023-05-01 10:01:00.000 GMT"
  sessionNumber := some (valueOf 1682935000)
  run_number_current := 7
  iperf_run_label := some "downtown"
  iperf_duration := 60
  iperf_HostName := some "10.0.0.1"
  iperf_tcp_parallel := 8
  iperf_tcpdump_flag := false
  status := some "good"
  iperf_downlink_flag := true
  comment := comment

theorem printed_savedRun (comment : String) : (savedRun comment).Printed where
  starttime := by
    rintro text ⟨⟩
    decide
  endtime := by
    rintro text ⟨⟩
    decide
  sessionNumber := by
    rintro text ⟨⟩
    exact ⟨1682935000, rfl⟩
  status := by
    rintro text ⟨⟩
    decide

theorem savedRun_readBack : (savedRun "near the station").ReadBack :=
  (confirmStatus_readBack_iff _ (printed_savedRun _)).mpr
    ⟨rfl, rfl, rfl, by decide, by decide, by decide⟩

/-- A comment with a comma. -/
theorem savedRun_not_readBack : ¬(savedRun "good, but slow").ReadBack := by
  rintro ⟨names, columns, hnames, hread, hlength, -⟩
  rw [readRecord_header] at hnames
  cases hnames
  have hcount : (readRecord ((savedRun "good, but slow").row ++ "\n").toList).map (fun r =>
      r.1.length) = some 13 := by
    decide +kernel
  rw [hread, Option.map_some, hlength] at hcount
  exact absurd hcount (by decide)

end MmWaveTracker
