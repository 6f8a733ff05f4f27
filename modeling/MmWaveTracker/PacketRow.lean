import MmWaveTracker.AckLoop
import MmWaveTracker.CString

/-! The rows of the UDP measurement log: `string_format`, and the numbers that a reader of
the log finds in a row. -/
namespace MmWaveTracker

open CString

/-- `vsnprintf` into an array of `n` bytes: the array, and the length of the whole text. -/
def vsnprintf (text : List UInt8) (n : ℕ) : List UInt8 × ℕ := (text.take (n-1) ++ [0], text.length)

/-- The loop of `string_format`; `text` is what the arguments make of the format. -/
def stringFormat (text : List UInt8) (n : ℕ) : List UInt8 :=
  let final_n := (vsnprintf text n).2
  if n ≤ final_n then stringFormat text (n + ((final_n:ℤ) - n + 1).natAbs)
    else str (vsnprintf text n).1
termination_by text.length+1-n
decreasing_by
  rename_i hle
  change n ≤ text.length at hle
  change text.length+1-(n + ((text.length:ℤ) - n + 1).natAbs) < text.length+1-n
  omega

/-- The buffer of `string_format` grows until it holds the text. -/
theorem stringFormat_eq (text : List UInt8) (htext : ∀ b ∈ text, b ≠ 0) (n : ℕ) :
    stringFormat text n = text := by
  fun_induction stringFormat text n with
  | case1 n final_n hle ih => exact ih
  | case2 n final_n hlt =>
    have hlt : ¬n ≤ text.length := hlt
    have htake : text.take (n-1) = text := List.take_of_length_le (by omega)
    rw [vsnprintf, htake, str, List.takeWhile_append_of_pos, List.takeWhile_cons_of_neg (by simp),
      List.append_nil]
    exact fun b hb => decide_eq_true (htext b hb)

/-- The numbers of a row, separated by commas. -/
def readRow (row : List UInt8) : List ℤ := (row.splitOn 44).map strtol

/-- The numbers in a row, in the order of its columns. -/
def rowNumbers (p : Packet) (timestamp now : UInt64) : List UInt64 :=
  [p.header.sequence_number, p.header.send_timestamp, p.header.ack_sequence_number,
    p.header.ack_send_timestamp, p.header.ack_recv_timestamp, timestamp,
      p.header.ack_payload_length, now]

/-! Reading a row back. -/

theorem ascii_append (a b : String) : ascii (a ++ b) = ascii a ++ ascii b := by
  rw [ascii, String.toList_append, List.map_append, ascii, ascii]

theorem decimal_ne_comma (n : ℤ) (b : UInt8) (hb : b ∈ decimal n) : b ≠ 44 := by
  rintro rfl
  exact absurd (mem_decimal n 44 hb) (by decide)

/-- The fields of a row. -/
def fields (xs : List ℤ) : List UInt8 := ascii (", ".intercalate (xs.map valueOf))

theorem fields_singleton (x : ℤ) : fields [x] = decimal x := by
  rw [fields, List.map_singleton, String.intercalate_singleton, decimal]

theorem fields_cons (x y : ℤ) (ys : List ℤ) :
    fields (x :: y :: ys) = decimal x ++ 44 :: 32 :: fields (y :: ys) := by
  have hsep : ascii ", " = [44, 32] := by decide
  rw [fields, List.map_cons, List.map_cons, String.intercalate_cons_cons, ascii_append,
    ascii_append, hsep, List.append_assoc]
  rfl

theorem fields_ne_zero (xs : List ℤ) : ∀ b ∈ fields xs, b ≠ 0 := by
  induction xs with
  | nil => exact fun b hb => by cases hb
  | cons x xs ih =>
    cases xs with
    | nil =>
      rw [fields_singleton]
      exact decimal_ne_zero x
    | cons y ys =>
      intro b hb
      rw [fields_cons] at hb
      simp only [List.mem_append, List.mem_cons] at hb
      rcases hb with hb | rfl | rfl | hb
      · exact decimal_ne_zero x b hb
      · decide
      · decide
      · exact ih b hb

theorem strtol_field (before : List UInt8) (hbefore : ∀ b ∈ before, b = 32) (x : ℤ)
    (rest : List UInt8) (hrest : ∀ b, rest.head? = some b → isdigit b = false)
    (hrange : -9223372036854775808 ≤ x ∧ x < 9223372036854775808) :
    strtol (before ++ (decimal x ++ rest)) = x := by
  have hspace (b : UInt8) (hb : b ∈ before) : isspace b = true := by
    rw [hbefore b hb]
    decide
  rw [strtol_spaces before _ hspace]
  exact strtol_decimal x rest hrange.1 hrange.2 hrest

/-- The text of a row from its field `x` on, after what separates it from the field before. -/
theorem readRow_fields (before : List UInt8) (hbefore : ∀ b ∈ before, b = 32) (x : ℤ) (xs : List ℤ)
    (hrange : ∀ y ∈ x :: xs, -9223372036854775808 ≤ y ∧ y < 9223372036854775808) :
    readRow (before ++ (fields (x :: xs) ++ [10])) = x :: xs := by
  induction xs generalizing before x with
  | nil =>
    have hcomma : 44 ∉ before ++ (decimal x ++ [10]) := by
      intro hmem
      rcases List.mem_append.mp hmem with hmem | hmem
      · exact absurd (hbefore 44 hmem) (by decide)
      · rcases List.mem_append.mp hmem with hmem | hmem
        · exact decimal_ne_comma x 44 hmem rfl
        · exact absurd (List.mem_singleton.mp hmem) (by decide)
    rw [readRow, fields_singleton, List.splitOn_eq_singleton hcomma, List.map_singleton,
      strtol_field before hbefore x [10] _ (hrange x List.mem_cons_self)]
    exact fun b hb => by cases hb; rfl
  | cons y ys ih =>
    have hcomma : 44 ∉ before ++ decimal x := by
      intro hmem
      rcases List.mem_append.mp hmem with hmem | hmem
      · exact absurd (hbefore 44 hmem) (by decide)
      · exact decimal_ne_comma x 44 hmem rfl
    have hsplit : before ++ (fields (x :: y :: ys) ++ [10]) =
        (before ++ decimal x) ++ 44 :: ([32] ++ (fields (y :: ys) ++ [10])) := by
      rw [fields_cons]
      simp only [List.append_assoc, List.cons_append, List.nil_append]
    have hrest := ih [32] (fun b hb => List.mem_singleton.mp hb) y fun z hz =>
      hrange z (List.mem_cons_of_mem x hz)
    have hfield := strtol_field before hbefore x [] (fun b hb => by cases hb)
      (hrange x List.mem_cons_self)
    rw [List.append_nil] at hfield
    rw [readRow, hsplit, List.splitOn_append_cons_self_of_not_mem hcomma, List.map_cons, ← readRow,
      hrest, hfield]

/-- The text that the format makes of its arguments. -/
theorem ascii_packetInfo (p : Packet) (timestamp now : UInt64) :
    ascii (packetInfo p timestamp now) =
      fields ((if p.isAck then 1 else 0) :: (rowNumbers p timestamp now).map fun n =>
      wrap32 n.toNat) ++ [10] := by
  have hnewline : ascii "\n" = [10] := by decide
  have hfirst : (if p.isAck then "1" else "0") = valueOf (if p.isAck then 1 else 0) := by
    split_ifs
    · decide
    · decide
  rw [packetInfo, ascii_append, hnewline, hfirst]
  rfl

theorem wrap32_toNat_eq_iff (n : UInt64) : wrap32 n.toNat = n.toNat ↔ n.toNat < 2147483648 := by
  unfold wrap32
  omega

/-- What a reader finds in a row. -/
theorem readRow_packetInfo (p : Packet) (timestamp now : UInt64) :
    readRow (ascii (packetInfo p timestamp now)) =
      (if p.isAck then 1 else 0) :: (rowNumbers p timestamp now).map fun n => wrap32 n.toNat := by
  have hwrap (n : UInt64) : -9223372036854775808 ≤ wrap32 n.toNat ∧
      wrap32 n.toNat < 9223372036854775808 := by
    unfold wrap32
    omega
  have hfields := readRow_fields [] (fun b hb => by cases hb) (if p.isAck then 1 else 0)
    ((rowNumbers p timestamp now).map fun n => wrap32 n.toNat)
  rw [List.nil_append, ← ascii_packetInfo] at hfields
  apply hfields
  intro y hy
  rcases List.mem_cons.mp hy with rfl | hy
  · split_ifs <;> decide
  · obtain ⟨n, -, rfl⟩ := List.mem_map.mp hy
    exact hwrap n

theorem ascii_packetInfo_ne_zero (p : Packet) (timestamp now : UInt64) :
    ∀ b ∈ ascii (packetInfo p timestamp now), b ≠ 0 := by
  intro b hb
  rw [ascii_packetInfo] at hb
  rcases List.mem_append.mp hb with hb | hb
  · exact fields_ne_zero _ b hb
  · rw [List.mem_singleton.mp hb]
    decide

/-- A row says what was received exactly if all its numbers fit into 31 bits. -/
theorem row_faithful_iff (N : Native) (p : Packet) (timestamp : UInt64) (c : Client) :
    ∃ row, (logPacket N p timestamp c).log = c.log ++ [row] ∧
      ascii row = stringFormat (ascii (packetInfo p timestamp (getCurrentTimestamp N c).1)) 70 ∧
      (readRow (ascii row) = (if p.isAck then 1 else 0) ::
          (rowNumbers p timestamp (getCurrentTimestamp N c).1).map (fun n => (n.toNat : ℤ)) ↔
        ∀ n ∈ rowNumbers p timestamp (getCurrentTimestamp N c).1, n.toNat < 2147483648) := by
  refine ⟨packetInfo p timestamp (getCurrentTimestamp N c).1, rfl, ?_, ?_⟩
  · rw [stringFormat_eq _ (ascii_packetInfo_ne_zero p timestamp _)]
  · rw [readRow_packetInfo, List.cons.injEq, and_iff_right rfl, List.map_inj_left]
    exact forall₂_congr fun n _ => wrap32_toNat_eq_iff n

/-- The clock in November 2023. -/
def november2023 : Native where
  host := .little
  clock := fun _ => ⟨1700000000, 0, Timespec.zero.nsec_lt, by decide⟩
  sends := fun _ => true

def smallAck : Packet where
  header := ⟨1, 2, 3, 4, 5, 6⟩
  payload := []

/-- The current time has 41 bits, of which the row keeps 32. -/
theorem row_misstates_time : (logPacket november2023 smallAck 7 {}).log =
      [packetInfo smallAck 7 (getCurrentTimestamp november2023 {}).1] ∧
    (getCurrentTimestamp november2023 {}).1.toNat = 1700000000000 ∧
    readRow (ascii (packetInfo smallAck 7 (getCurrentTimestamp november2023 {}).1)) =
      [1, 1, 2, 3, 4, 5, 7, 6, -807049216] ∧
    readRow (ascii (packetInfo smallAck 7 (getCurrentTimestamp november2023 {}).1)) ≠
      1 :: (rowNumbers smallAck 7 (getCurrentTimestamp november2023 {}).1).map (fun n =>
        (n.toNat : ℤ)) := by
  refine ⟨rfl, by decide +kernel, by decide +kernel, by decide +kernel⟩

end MmWaveTracker
