import MmWaveTracker.RrcProbe
import Mathlib.Tactic.Ring

/-! The replies of the RRC probe as the server reads them, and the bytes of `echo` that are
written while they are built. -/
namespace MmWaveTracker

open CString

def echoSize : ℕ := 17

/-- One call of `memset` or `sprintf`, or one assignment, into `echo`. -/
structure Store where
  offset : ℕ
  bytes : List UInt8

def echoStores (n : ℕ) (seq_recv netType : ℤ) (verdict : Verdict) : List Store :=
  [⟨0, List.replicate echoSize 32⟩,
   ⟨0, decimal seq_recv ++ [0]⟩,
   ⟨n, [32]⟩,
   ⟨n+1, decimal netType ++ [0]⟩,
   ⟨n+2, [32]⟩,
   ⟨16, [0]⟩,
   ⟨n+3, ascii verdict.text ++ [0]⟩]

/-- No index written lies outside the array. -/
def InEcho (stores : List Store) : Prop :=
  ∀ store ∈ stores, store.offset + store.bytes.length ≤ echoSize

/-- The reply to a number: the number, the network type and the verdict. -/
def probeReply (number netType : ℤ) (verdict : Verdict) : List UInt8 :=
  decimal number ++ 32 :: decimal netType ++ 32 :: ascii verdict.text

/-- Every turn with the datagram, whatever `seq_str` holds behind it, sends the reply to its
number. -/
def WellAnswered (c : RrcClient) (d : NumberDatagram) : Prop :=
  ∀ r : Round, r.recv.payload = d.payload → 0 ≤ r.netType → r.netType ≤ 9 → r.sent = true →
    ∃ c' verdict, rrcStep c r = some c' ∧
      c'.replies = c.replies ++ [⟨verdict, probeReply d.number r.netType verdict⟩] ∧
      InEcho (echoStores d.payload.length (seqRecv c'.data d.payload.length r.stack) r.netType
        verdict)

/-- A number of several digits does not begin with a zero. -/
def NoLeadingZero (payload : List UInt8) : Prop := payload.head? = some 48 → payload.length = 1

/-! The text of a reply. -/

/-- The array of a reply before the verdict is written into it. -/
def echoHead (n : ℕ) (seq_recv netType : ℤ) : List UInt8 :=
  let numbered := (writeAt (List.replicate 17 32) 0 (decimal seq_recv ++ [0])).set n 32
  ((writeAt numbered (n+1) (decimal netType ++ [0])).set (n+2) 32).set 16 0

/-- A number that fills the bytes of its datagram leaves no zero in front of the verdict. -/
theorem echoHead_ne_zero (n : ℕ) (seq_recv netType : ℤ) (hn : n < 11)
    (hfill : n ≤ (decimal seq_recv).length) :
    ∀ b ∈ (echoHead n seq_recv netType).take (n+3), b ≠ 0 := by
  intro b hb
  have hlen := le_length_writeAt_zero (List.replicate 17 32) (decimal seq_recv ++ [0])
  rw [List.length_replicate] at hlen
  have hpos : 0 < (decimal netType).length := List.length_pos_iff.mpr (decimal_ne_nil netType)
  obtain ⟨i, hi⟩ := List.mem_iff_getElem?.mp hb
  have hlt : i < n+3 := by
    have h := (List.getElem?_eq_some_iff.mp hi).choose
    rw [List.length_take] at h
    omega
  rw [List.getElem?_take_of_lt hlt, echoHead, List.getElem?_set_ne (by omega)] at hi
  rcases Nat.lt_trichotomy i (n+2) with hlt' | rfl | hgt
  · rw [List.getElem?_set_ne (by omega),
      getElem?_writeAt _ _ _ _ (by rw [List.length_set]; omega)
        (by rw [List.length_append]; omega)] at hi
    split_ifs at hi with hle
    · rcases Nat.lt_or_ge i n with hlt'' | hge
      · rw [List.getElem?_set_ne (by omega), getElem?_writeAt _ _ _ _ (Nat.zero_le _)
          (by rw [List.length_append]; omega), if_neg (by omega), Nat.sub_zero,
          List.getElem?_append_left (by omega)] at hi
        exact decimal_ne_zero seq_recv b (List.mem_of_getElem? hi)
      · obtain rfl : i = n := by omega
        rw [List.getElem?_set_self (by omega)] at hi
        cases hi
        decide
    · rw [List.getElem?_append_left (by omega)] at hi
      exact decimal_ne_zero netType b (List.mem_of_getElem? hi)
  · obtain ⟨h, rfl⟩ := List.getElem?_eq_some_iff.mp hi
    rw [List.getElem_set_self]
    decide
  · omega

theorem verdict_text_ne_zero (verdict : Verdict) : ∀ b ∈ ascii verdict.text, b ≠ 0 := by
  cases verdict with
  | yep => decide +kernel
  | bad => decide +kernel

theorem echo_reads (n : ℕ) (seq_recv netType : ℤ) (verdict : Verdict) (hn : n < seqStrSize)
    (hfill : n ≤ (decimal seq_recv).length) :
    ascii verdict.text <:+ str (echo n seq_recv netType verdict) := by
  have hecho : echo n seq_recv netType verdict =
      writeAt (echoHead n seq_recv netType) (n+3) (ascii verdict.text ++ [0]) := rfl
  rw [hecho, str_writeAt_text _ _ _ (echoHead_ne_zero n seq_recv netType hn hfill)
    (verdict_text_ne_zero verdict)]
  exact List.suffix_append _ _

/-! Arrays. -/

section Arrays

variable {array bs : List UInt8} {offset : ℕ}

theorem take_writeAt (array bs : List UInt8) (h : offset ≤ array.length) :
    (writeAt array offset bs).take (offset+bs.length) = array.take offset ++ bs := by
  have hlen : (array.take offset ++ bs).length = offset+bs.length := by
    rw [List.length_append, List.length_take_of_le h]
  rw [writeAt, ← hlen, List.take_left]

/-- What stands in front of the place of writing stays. -/
theorem take_writeAt_of_le (k : ℕ) (hk : k ≤ offset) (h : offset ≤ array.length) :
    (writeAt array offset bs).take k = array.take k := by
  have htake := congrArg (List.take k) (take_writeAt array bs h)
  rw [List.take_take, min_eq_left (by omega),
    List.take_append_of_le_length (by rw [List.length_take]; omega),
    List.take_take, min_eq_left hk] at htake
  exact htake

theorem length_le_writeAt (h : offset ≤ array.length) :
    array.length ≤ (writeAt array offset bs).length := by
  rw [writeAt, List.length_append, List.length_append, List.length_take_of_le h, List.length_drop]
  omega

theorem writeAt_singleton (b : UInt8) (h : offset < array.length) :
    writeAt array offset [b] = array.set offset b := by
  rw [writeAt, List.set_eq_take_append_cons_drop, if_pos h, List.append_assoc]
  rfl

theorem str_of_take (text : List UInt8) (htext : ∀ b ∈ text, b ≠ 0)
    (h : array.take (text.length+1) = text ++ [0]) :
    str array = text := by
  rw [← List.take_append_drop (text.length+1) array, h, List.append_assoc, str,
    List.takeWhile_append_of_pos (fun b hb => decide_eq_true (htext b hb))]
  rw [List.cons_append, List.takeWhile_cons_of_neg (by simp), List.append_nil]

end Arrays

/-! The array when it is sent. -/

/-- The number in the array of spaces. -/
def numbered (seq_recv : ℤ) : List UInt8 :=
  writeAt (List.replicate 17 32) 0 (decimal seq_recv ++ [0])

/-- The network type behind the number and a space. -/
def typed (n : ℕ) (seq_recv netType : ℤ) : List UInt8 :=
  writeAt ((numbered seq_recv).set n 32) (n+1) (decimal netType ++ [0])

section Echo

variable {n : ℕ} {seq_recv netType : ℤ}

theorem length_numbered (seq_recv : ℤ) : 17 ≤ (numbered seq_recv).length := by
  have h := le_length_writeAt_zero (List.replicate 17 32) (decimal seq_recv ++ [0])
  rw [List.length_replicate] at h
  exact h

theorem length_typed (seq_recv netType : ℤ) (hn : n < seqStrSize) :
    17 ≤ (typed n seq_recv netType).length := by
  have hnumbered := length_numbered seq_recv
  have hn' : n < 11 := hn
  refine le_trans ?_ (length_le_writeAt ?_)
  · rw [List.length_set]
    exact hnumbered
  · rw [List.length_set]
    omega

theorem echoHead_eq : echoHead n seq_recv netType =
    ((typed n seq_recv netType).set (n+2) 32).set 16 0 := rfl

theorem echo_eq_stores (verdict : Verdict) (hn : n < seqStrSize) :
    echo n seq_recv netType verdict =
      (echoStores n seq_recv netType verdict).foldl (fun array store =>
        writeAt array store.offset store.bytes) [] := by
  have hn' : n < 11 := hn
  have hnumbered := length_numbered seq_recv
  have htyped := length_typed seq_recv netType hn
  have h₀ : writeAt [] 0 (List.replicate echoSize 32) = List.replicate 17 32 := by
    rw [writeAt_zero, List.drop_nil, List.append_nil]
    rfl
  have h₁ : writeAt (numbered seq_recv) n [32] = (numbered seq_recv).set n 32 :=
    writeAt_singleton 32 (by omega)
  have h₂ : writeAt (typed n seq_recv netType) (n+2) [32] =
      (typed n seq_recv netType).set (n+2) 32 :=
    writeAt_singleton 32 (by omega)
  have h₃ : writeAt ((typed n seq_recv netType).set (n+2) 32) 16 [0] =
      echoHead n seq_recv netType := by
    rw [writeAt_singleton 0 (by rw [List.length_set]; omega), echoHead_eq]
  simp only [echoStores, List.foldl_cons, List.foldl_nil, h₀]
  rw [← numbered, h₁, ← typed, h₂, h₃]
  rfl

/-- The head of the reply, where the number fills the bytes of its datagram. -/
theorem take_echoHead (b : UInt8) (hn : n < seqStrSize) (hb : decimal netType = [b])
    (hfill : n ≤ (decimal seq_recv).length) :
    (echoHead n seq_recv netType).take (n+3) = (decimal seq_recv).take n ++ [32, b, 32] := by
  have hn' : n < 11 := hn
  have hnumbered := length_numbered seq_recv
  have htyped := length_typed seq_recv netType hn
  have hnumber : (numbered seq_recv).take n = (decimal seq_recv).take n := by
    rw [numbered, writeAt_zero, List.append_assoc, List.take_append_of_le_length hfill]
  have hspace (array : List UInt8) (k : ℕ) (hk : k < array.length) : (array.set k 32).take (k+1) =
      array.take k ++ [32] := by
    rw [← writeAt_singleton 32 hk]
    exact take_writeAt array [32] hk.le
  have htype : (typed n seq_recv netType).take (n+2) = (decimal seq_recv).take n ++ [32, b] := by
    have htake := take_writeAt ((numbered seq_recv).set n 32) (decimal netType ++ [0])
      (by rw [List.length_set]; omega : n+1 ≤ _)
    rw [← typed, hspace _ _ (by omega), hnumber, hb] at htake
    have hcut := congrArg (List.take (n+2)) htake
    have hlen : ((decimal seq_recv).take n ++ [32] ++ [b]).length = n+2 := by
      rw [List.length_append, List.length_append, List.length_take_of_le hfill]
      rfl
    rw [List.take_take, min_eq_left (by simp), ← List.append_assoc, ← hlen, List.take_left] at hcut
    rw [← hlen, hcut, List.append_assoc]
    rfl
  rw [echoHead_eq, List.take_set_of_le (by omega), hspace _ _ (by omega), htype, List.append_assoc]
  rfl

/-- A number that fills the bytes of its datagram is followed by the rest of the reply. -/
theorem str_echo_of_le (b : UInt8) (verdict : Verdict) (hn : n < seqStrSize)
    (hb : decimal netType = [b]) (hfill : n ≤ (decimal seq_recv).length) :
    str (echo n seq_recv netType verdict) =
      (decimal seq_recv).take n ++ 32 :: decimal netType ++ 32 :: ascii verdict.text := by
  have hecho : echo n seq_recv netType verdict =
      writeAt (echoHead n seq_recv netType) (n+3) (ascii verdict.text ++ [0]) := rfl
  rw [hecho, str_writeAt_text _ _ _ (echoHead_ne_zero n seq_recv netType hn hfill)
    (verdict_text_ne_zero verdict), take_echoHead b hn hb hfill, hb, List.append_assoc,
      List.append_assoc]
  rfl

/-- The terminator behind a shorter number ends the reply. -/
theorem str_echo_of_lt (verdict : Verdict) (hn : n < seqStrSize)
    (hshort : (decimal seq_recv).length < n) :
    str (echo n seq_recv netType verdict) = decimal seq_recv := by
  have hn' : n < 11 := hn
  have hnumbered := length_numbered seq_recv
  have htyped := length_typed seq_recv netType hn
  have hhead : n+3 ≤ (echoHead n seq_recv netType).length := by
    rw [echoHead_eq, List.length_set, List.length_set]
    omega
  apply str_of_take _ (decimal_ne_zero seq_recv)
  calc (echo n seq_recv netType verdict).take ((decimal seq_recv).length+1)
      = (echoHead n seq_recv netType).take ((decimal seq_recv).length+1) :=
        take_writeAt_of_le _ (by omega) hhead
    _ = (typed n seq_recv netType).take ((decimal seq_recv).length+1) := by
      rw [echoHead_eq, List.take_set_of_le (by omega), List.take_set_of_le (by omega)]
    _ = (numbered seq_recv).take ((decimal seq_recv).length+1) := by
      rw [typed, take_writeAt_of_le _ (by omega) (by rw [List.length_set]; omega),
        List.take_set_of_le (by omega)]
    _ = decimal seq_recv ++ [0] := by
      have hlen : (decimal seq_recv).length+1 = (decimal seq_recv ++ [0]).length := by
        rw [List.length_append]
        rfl
      rw [numbered, writeAt_zero, hlen, List.take_left]

end Echo

/-- A good reply prints the number with as many digits as the datagram has. -/
theorem length_of_reply (n : ℕ) (seq_recv netType : ℤ) (b : UInt8) (verdict : Verdict)
    (hb : decimal netType = [b]) (hn : n < seqStrSize)
    (h : str (echo n seq_recv netType verdict) = probeReply seq_recv netType verdict) :
    (decimal seq_recv).length = n := by
  by_contra hne
  have hlen := congrArg List.length h
  rw [probeReply] at hlen
  rcases Nat.lt_or_ge (decimal seq_recv).length n with hlt | hge
  · rw [str_echo_of_lt verdict hn hlt] at hlen
    simp only [List.length_append, List.length_cons] at hlen
    omega
  · rw [str_echo_of_le b verdict hn hb hge] at hlen
    simp only [List.length_append, List.length_cons, List.length_take] at hlen
    omega

theorem inEcho_iff (n : ℕ) (seq_recv netType : ℤ) (b : UInt8) (verdict : Verdict)
    (hb : decimal netType = [b]) (hlen : (decimal seq_recv).length ≤ 11) :
    InEcho (echoStores n seq_recv netType verdict) ↔ n ≤ 9 := by
  have htext : (ascii verdict.text ++ [0]).length = 5 := by
    cases verdict with
    | yep => decide +kernel
    | bad => decide +kernel
  simp only [InEcho, echoStores, List.forall_mem_cons, htext, hb, List.length_append,
    List.length_replicate, List.length_cons, List.length_nil, echoSize]
  constructor
  · rintro ⟨-, -, -, -, -, -, h, -⟩
    omega
  · intro h
    refine ⟨by omega, by omega, by omega, by omega, by omega, by omega, by omega,
      fun _ h => by cases h⟩

/-! The digits of a number. -/

section Digits

theorem isdigit_range (b : UInt8) (h : isdigit b = true) : 48 ≤ b.toNat ∧ b.toNat ≤ 57 := by
  rw [isdigit, Bool.and_eq_true, decide_eq_true_eq, decide_eq_true_eq, UInt8.le_iff_toNat_le,
    UInt8.le_iff_toNat_le] at h
  exact h

theorem length_decimal_le_iff (v k : ℕ) (hk : 0 < k) : (decimal v).length ≤ k ↔ v < 10^k := by
  rw [decimal_ofNat, digits, List.length_map]
  exact Nat.length_toDigits_le_iff (by decide) hk

/-- An `int` is printed with eleven characters at most. -/
theorem length_decimal_int (m : ℤ) (hlo : -2147483648 ≤ m) (hhi : m < 2147483648) :
    (decimal m).length ≤ 11 := by
  cases m with
  | ofNat v =>
    change (v:ℤ) < _ at hhi
    exact (length_decimal_le_iff v 11 (by decide)).mpr (by omega)
  | negSucc v =>
    have hv := (length_decimal_le_iff (v+1) 10 (by decide)).mpr (by omega)
    rw [decimal_ofNat] at hv
    rw [decimal_negSucc, List.length_cons]
    omega

/-- The first digit has the greatest weight. -/
theorem digitsFrom_bounds (v : ℕ) (ds : List UInt8) (hds : ∀ b ∈ ds, isdigit b = true) :
    v*10^ds.length ≤ digitsFrom v ds ∧ digitsFrom v ds < (v+1)*10^ds.length := by
  induction ds generalizing v with
  | nil =>
    rw [List.length_nil, pow_zero, mul_one, mul_one]
    exact ⟨le_rfl, Nat.lt_succ_self v⟩
  | cons b ds ih =>
    obtain ⟨hlo, hhi⟩ := isdigit_range b (hds b List.mem_cons_self)
    obtain ⟨h₁, h₂⟩ := ih (10*v + (b.toNat-48)) fun x hx => hds x (List.mem_cons_of_mem b hx)
    rw [digitsFrom_cons, List.length_cons, pow_succ]
    constructor
    · calc v*(10^ds.length*10) = (10*v)*10^ds.length := by ring
        _ ≤ (10*v + (b.toNat-48))*10^ds.length := Nat.mul_le_mul_right _ (Nat.le_add_right _ _)
        _ ≤ _ := h₁
    · calc digitsFrom (10*v + (b.toNat-48)) ds < (10*v + (b.toNat-48) + 1)*10^ds.length := h₂
        _ ≤ (10*(v+1))*10^ds.length := Nat.mul_le_mul_right _ (by omega)
        _ = (v+1)*(10^ds.length*10) := by ring

/-- A number has fewer digits than were written exactly if the first of them is zero. -/
theorem digitsFrom_lt_iff (v : ℕ) (ds : List UInt8) (hds : ∀ b ∈ ds, isdigit b = true) :
    digitsFrom v ds < 10^ds.length ↔ v = 0 := by
  obtain ⟨hlo, hhi⟩ := digitsFrom_bounds v ds hds
  constructor
  · intro hlt
    by_contra hne
    have hge : 10^ds.length ≤ v*10^ds.length := Nat.le_mul_of_pos_left _ (Nat.pos_of_ne_zero hne)
    exact absurd (hge.trans hlo) (not_le.mpr hlt)
  · rintro rfl
    calc digitsFrom 0 ds < (0+1)*10^ds.length := hhi
      _ = 10^ds.length := by rw [Nat.zero_add, Nat.one_mul]

/-- A number is printed with the digits of its datagram exactly if there is no leading zero. -/
theorem length_decimal_number (d : NumberDatagram) :
    (decimal d.number).length = d.payload.length ↔ NoLeadingZero d.payload := by
  obtain ⟨b, ds, hpayload⟩ := List.exists_cons_of_ne_nil d.length_pos
  have hdigits := d.digits
  obtain ⟨hlo, hhi⟩ := isdigit_range b (hdigits b (hpayload ▸ List.mem_cons_self))
  have hds : ∀ x ∈ ds, isdigit x = true :=
    fun x hx => hdigits x (hpayload ▸ List.mem_cons_of_mem b hx)
  have hnumber : d.number = (digitsFrom (b.toNat-48) ds : ℕ) := by
    rw [NumberDatagram.number, hpayload, digitsFrom_cons, Nat.mul_zero, Nat.zero_add]
  obtain ⟨-, h₂⟩ := digitsFrom_bounds (b.toNat-48) ds hds
  have hle : (decimal d.number).length ≤ ds.length+1 := by
    rw [hnumber, length_decimal_le_iff _ _ (Nat.succ_pos _), pow_succ]
    calc _ < (b.toNat-48+1)*10^ds.length := h₂
      _ ≤ 10*10^ds.length := Nat.mul_le_mul_right _ (by omega)
      _ = _ := Nat.mul_comm _ _
  have hiff : (decimal d.number).length ≤ ds.length ↔ ds ≠ [] ∧ b = 48 := by
    cases ds with
    | nil =>
      have hpos := List.length_pos_iff.mpr (decimal_ne_nil d.number)
      exact iff_of_false (by rw [List.length_nil]; omega) fun h => h.1 rfl
    | cons b' ds =>
      have hzero : b.toNat-48 = 0 ↔ b = 48 := by
        rw [← UInt8.toNat_inj]
        change _ ↔ b.toNat = 48
        omega
      rw [hnumber, length_decimal_le_iff _ (b' :: ds).length (Nat.succ_pos _),
        digitsFrom_lt_iff _ _ hds, hzero]
      exact (and_iff_right (List.cons_ne_nil _ _)).symm
  rw [NoLeadingZero, hpayload, List.head?_cons, List.length_cons]
  constructor
  · intro heq hzero
    by_contra hne
    have hshort := hiff.mpr ⟨fun h => hne (by rw [h]; rfl), Option.some.inj hzero⟩
    omega
  · intro hnone
    refine le_antisymm hle ?_
    by_contra hlt
    obtain ⟨hne, rfl⟩ := hiff.mp (by omega)
    exact hne (List.length_eq_zero_iff.mp (Nat.succ_injective (hnone rfl)))

end Digits

/-! The turn. -/

section Turn

variable {c : RrcClient}

theorem decimal_digit (t : ℤ) (h₀ : 0 ≤ t) (h₉ : t ≤ 9) : ∃ b, decimal t = [b] := by
  obtain ⟨v, rfl⟩ := Int.eq_ofNat_of_zero_le h₀
  have hlen := (length_decimal_le_iff v 1 (by decide)).mpr (by omega)
  have hpos := List.length_pos_iff.mpr (decimal_ne_nil (v:ℤ))
  exact List.length_eq_one_iff.mp (by omega)

/-- `data` keeps its size. -/
theorem length_data (first second : List UInt8) (before : PacketCounters) (rounds : List Round)
    (hrun : runEvents rrcStep (RrcClient.start first second before) rounds = some c) :
    bufferSize ≤ c.data.length := by
  refine runEvents_preserves rrcStep (fun c => bufferSize ≤ c.data.length) ?_ rounds _ c hrun ?_
  · intro c r c' hstep hlen
    have hrunning := running_of_rrcStep c c' r hstep
    rw [rrcStep, if_pos hrunning] at hstep
    cases hrecv : r.recv with
    | failed =>
      rw [hrecv] at hstep
      cases hstep
      exact hlen
    | datagram payload hlt =>
      rw [hrecv] at hstep
      have hwritten := hlen.trans (le_length_writeAt_zero c.data payload)
      dsimp only at hstep
      split_ifs at hstep
      · cases hstep
        exact hwritten
      · cases hstep
        rw [(answer_frame _ r _ _).1]
        exact hwritten
  · have hzero : bufferSize ≤ (List.replicate bufferSize (0:UInt8)).length :=
      (List.length_replicate).ge
    exact (hzero.trans (le_length_writeAt_zero _ _)).trans (le_length_writeAt_zero _ _)

theorem answer_sent (c : RrcClient) (r : Round) (n : ℕ) (seq_recv : ℤ) (hsent : r.sent = true) :
    answer c r n seq_recv = { c with
      seqs := c.seqs ++ [seq_recv]
      replies := c.replies ++ [⟨verdictOf c seq_recv r.after,
        str (echo n seq_recv r.netType (verdictOf c seq_recv r.after))⟩]
      results := c.results ++ [(verdictOf c seq_recv r.after).result]
      before := r.next
      seq_now := if seq_recv > c.seq_now then seq_recv else c.seq_now } := by
  rw [answer, hsent]
  rfl

/-- The reply of a turn. -/
theorem rrcStep_reply (d : NumberDatagram) (r : Round) (hrunning : c.running = true)
    (hr : r.recv.payload = d.payload) (hsent : r.sent = true) :
    ∃ c' verdict, rrcStep c r = some c' ∧ c'.data = writeAt c.data 0 d.payload ∧
      c'.replies = c.replies ++ [⟨verdict, str (echo d.payload.length
        (seqRecv (writeAt c.data 0 d.payload) d.payload.length r.stack) r.netType verdict)⟩] := by
  have hstep := rrcStep_answer c r (hr ▸ d.length_pos) hrunning
  rw [answer_sent _ r _ _ hsent, hr] at hstep
  exact ⟨_, _, hstep, rfl, rfl⟩

/-- What a good answer says of the array of the turn. -/
theorem WellAnswered.turn {d : NumberDatagram} (h : WellAnswered c d) (hrunning : c.running = true)
    (stack : List UInt8) : ∃ verdict, str
    (echo d.payload.length (seqRecv (writeAt c.data 0 d.payload) d.payload.length stack) 0
        verdict) = probeReply d.number 0 verdict ∧
      InEcho (echoStores d.payload.length
        (seqRecv (writeAt c.data 0 d.payload) d.payload.length stack) 0 verdict) := by
  let r : Round := { recv := .datagram d.payload d.length_lt, stack }
  obtain ⟨c', verdict, hstep, hreplies, hstores⟩ :=
    h r rfl le_rfl (Int.le_of_lt_add_one (by decide : (0:ℤ) < 9+1)) rfl
  obtain ⟨c'', verdict', hstep', hdata, hreplies'⟩ := rrcStep_reply d r hrunning rfl rfl
  obtain rfl := Option.some.inj (hstep.symm.trans hstep')
  have hreply := List.append_cancel_left (hreplies'.symm.trans hreplies)
  obtain ⟨rfl, hbytes⟩ := Reply.mk.inj (List.cons.inj hreply).1
  rw [hdata] at hstores
  exact ⟨verdict', hbytes, hstores⟩

theorem seqRecv_bounds (data : List UInt8) (n : ℕ) (stack : List UInt8) :
    -2147483648 ≤ seqRecv data n stack ∧ seqRecv data n stack < 2147483648 := by
  unfold seqRecv atoi wrap32
  omega

/-- Behind a digit that was left, `atoi` goes on into what follows in memory: up to the end
of a `long`, which is -1 as an `int`. -/
theorem exists_seqRecv_minus_one (d : NumberDatagram) (b : UInt8)
    (hb : c.data[d.payload.length]? = some b) (hdigit : isdigit b = true) :
    ∃ stack, seqRecv (writeAt c.data 0 d.payload) d.payload.length stack = -1 := by
  let nines : List UInt8 := List.replicate 19 57
  have hnines : ∀ x ∈ nines, isdigit x = true := fun x hx => List.eq_of_mem_replicate hx ▸ rfl
  have hdigits : ∀ x ∈ d.payload ++ b :: 57 :: nines, isdigit x = true := by
    intro x hx
    rcases List.mem_append.mp hx with hx | hx
    · exact d.digits x hx
    · rcases List.mem_cons.mp hx with rfl | hx
      · exact hdigit
      · rcases List.mem_cons.mp hx with rfl | hx
        · rfl
        · exact hnines x hx
  have hread := strtol_digits (d.payload ++ b :: 57 :: nines) [0]
    (by simp) hdigits (fun _ h => by cases h; rfl)
  refine ⟨List.replicate (d.payload.length+1) 0 ++ (57 :: nines ++ [0]), ?_⟩
  rw [seqRecv_eq d _ b hb, List.drop_left' List.length_replicate, atoi]
  rw [List.append_assoc, List.cons_append] at hread
  rw [hread, digitsFrom_append, digitsFrom_cons, digitsFrom_cons]
  obtain ⟨hbig, -⟩ := digitsFrom_bounds (10*(10*digitsFrom 0 d.payload + (b.toNat-48)) +
    ((57:UInt8).toNat-48)) nines hnines
  have hnine : (57:UInt8).toNat-48 = 9 := rfl
  rw [List.length_replicate, hnine] at hbig
  rw [hnine]
  unfold clampLong wrap32
  omega

/-- The reply to -1 is not one to a number of the server. -/
theorem str_echo_minus_one (n : ℕ) (hpos : 0 < n) (hn : n < seqStrSize) (d : NumberDatagram)
    (verdict : Verdict) : str (echo n (-1) 0 verdict) ≠ probeReply d.number 0 verdict := by
  intro heq
  have hminus : decimal (-1) = [45, 49] := by decide +kernel
  have hhead : (str (echo n (-1) 0 verdict)).head? = some 45 := by
    rcases Nat.lt_or_ge (decimal (-1)).length n with hlt | hge
    · rw [str_echo_of_lt verdict hn hlt, hminus]
      rfl
    · obtain ⟨k, rfl⟩ := Nat.exists_eq_succ_of_ne_zero hpos.ne'
      rw [str_echo_of_le 48 verdict hn (by decide +kernel) hge, hminus]
      rfl
  obtain ⟨b, ds, hds⟩ := List.exists_cons_of_ne_nil (decimal_ne_nil d.number)
  rw [heq, probeReply, hds] at hhead
  obtain rfl : b = 45 := Option.some.inj hhead
  have hdigit : isdigit 45 = true := by
    apply isdigit_of_mem_digits (digitsFrom 0 d.payload)
    rw [← decimal_ofNat]
    exact hds ▸ List.mem_cons_self
  cases hdigit

end Turn

/-- In every state of the loop, a datagram is answered with its number, the type and the
verdict, and within the array, exactly if it has at most nine digits, no leading zero, and no
digit behind it in `data`. -/
theorem reply_format_iff (first second : List UInt8) (before : PacketCounters) (rounds : List Round)
    (c : RrcClient) (hrun : runEvents rrcStep (RrcClient.start first second before) rounds = some c)
    (hrunning : c.running = true)
    (d : NumberDatagram) :
    WellAnswered c d ↔ d.payload.length ≤ 9 ∧ NoLeadingZero d.payload ∧
      ∀ b, c.data[d.payload.length]? = some b → isdigit b = false := by
  have hbuffer := length_data first second before rounds hrun
  obtain ⟨b, hb⟩ : ∃ b, c.data[d.payload.length]? = some b :=
    ⟨_, List.getElem?_eq_getElem (lt_of_lt_of_le d.length_lt_buffer hbuffer)⟩
  have hzero : decimal 0 = [48] := by decide +kernel
  have hpos := List.length_pos_iff.mpr d.length_pos
  have hn := d.length_lt
  constructor
  · intro h
    have hbehind : isdigit b = false := by
      rw [← Bool.not_eq_true]
      intro hdigit
      obtain ⟨stack, hminus⟩ := exists_seqRecv_minus_one d b hb hdigit
      obtain ⟨verdict, hreply, -⟩ := h.turn hrunning stack
      rw [hminus] at hreply
      exact str_echo_minus_one _ hpos hn d verdict hreply
    obtain ⟨verdict, hreply, hstores⟩ := h.turn hrunning []
    obtain ⟨hlo, hhi⟩ := seqRecv_bounds (writeAt c.data 0 d.payload) d.payload.length []
    refine ⟨(inEcho_iff _ _ 0 48 verdict hzero (length_decimal_int _ hlo hhi)).mp hstores, ?_, ?_⟩
    · rw [seqRecv_number d [] b hb hbehind] at hreply
      exact (length_decimal_number d).mp (length_of_reply _ _ 0 48 verdict hzero hn hreply)
    · intro b' hb'
      obtain rfl := Option.some.inj (hb.symm.trans hb')
      exact hbehind
  · rintro ⟨hnine, hleading, hbehind⟩ r hr h₀ h₉ hsent
    obtain ⟨t, ht⟩ := decimal_digit r.netType h₀ h₉
    obtain ⟨c', verdict, hstep, hdata, hreplies⟩ := rrcStep_reply d r hrunning hr hsent
    have hnumber := seqRecv_number d r.stack b hb (hbehind b hb)
    have hlen := (length_decimal_number d).mpr hleading
    refine ⟨c', verdict, hstep, ?_, ?_⟩
    · rw [hreplies, hnumber, str_echo_of_le t verdict hn ht hlen.ge, List.take_of_length_le hlen.le]
      rfl
    · rw [hdata, hnumber]
      exact (inEcho_iff _ _ _ t verdict ht (by omega)).mpr hnine

/-- A single digit behind the greeting. -/
theorem reply_format_nine :
    WellAnswered (RrcClient.start (ascii "Test1") (ascii "Test2") {}) nineDatagram := by
  refine (reply_format_iff (ascii "Test1") (ascii "Test2") {} [] _ rfl rfl nineDatagram).mpr
    ⟨by decide, ?_, ?_⟩
  · intro h
    cases h
  · intro b hb
    have hleft := holds_handshake (ascii "Test1") (ascii "Test2") 1 (by decide)
    obtain rfl := Option.some.inj (hleft.symm.trans hb)
    decide +kernel

/-- The digits "07". -/
def zeroSeven : NumberDatagram where
  payload := [48, 55]
  length_pos := by decide
  length_lt := by decide
  digits := by decide +kernel
  fits := by decide

/-- The digits "1000000000". -/
def tenDigits : NumberDatagram where
  payload := 49 :: List.replicate 9 48
  length_pos := by decide
  length_lt := by decide
  digits := by decide +kernel
  fits := by decide

theorem reply_zeroSeven : (rrcStep (RrcClient.start (ascii "Test1") (ascii "Test2") {})
      { recv := .datagram zeroSeven.payload zeroSeven.length_lt }).map (fun c =>
        c.replies.map (·.bytes)) =
    some [ascii "7"] := by
  decide +kernel

/-- The number 7 is all that is sent back for "07", and for a number of ten digits the
terminator goes to index 17 of the array. -/
theorem reply_format_fails :
    ¬WellAnswered (RrcClient.start (ascii "Test1") (ascii "Test2") {}) zeroSeven ∧
    ¬WellAnswered (RrcClient.start (ascii "Test1") (ascii "Test2") {}) tenDigits := by
  constructor
  · intro h
    obtain ⟨c, hstep, hbytes⟩ := Option.map_eq_some_iff.mp reply_zeroSeven
    obtain ⟨c', verdict, hstep', hreplies, -⟩ :=
      h { recv := .datagram zeroSeven.payload zeroSeven.length_lt } rfl (by decide) (by decide) rfl
    obtain rfl := Option.some.inj (hstep.symm.trans hstep')
    rw [hreplies] at hbytes
    have hlen := congrArg List.length (List.cons.inj hbytes).1
    have hseven : (ascii "7").length = 1 := by decide +kernel
    simp only [hseven, probeReply, List.length_append, List.length_cons] at hlen
    omega
  · intro h
    obtain ⟨verdict, -, hstores⟩ := h.turn rfl []
    obtain ⟨hlo, hhi⟩ := seqRecv_bounds
      (writeAt (RrcClient.start (ascii "Test1") (ascii "Test2") {}).data 0 tenDigits.payload)
        tenDigits.payload.length []
    have hnine := (inEcho_iff _ _ 0 48 verdict (by decide +kernel)
      (length_decimal_int _ hlo hhi)).mp hstores
    exact absurd hnine (by decide)

end MmWaveTracker
