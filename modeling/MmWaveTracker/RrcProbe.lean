import MmWaveTracker.CString
import MmWaveTracker.EventRun
import Mathlib.Data.List.Basic

/-! The RRC probe of `rrclibcpp/client_udp_down.cpp`: the loop of `client`, which reads a
sequence number from each datagram and answers with a verdict on the packet counters. -/
namespace MmWaveTracker

open CString

def bufferSize : ℕ := 50000

/-- `char seq_str[11]` holds the number of a datagram and the byte after it. -/
def seqStrSize : ℕ := 11

structure NetworkInfo where
  recv_bytes : Int32 := 0
  recv_pkt : Int32 := 0
  send_bytes : Int32 := 0
  send_pkt : Int32 := 0
  deriving DecidableEq, Repr

/-- The counters at one moment: what `networkStat` leaves in its argument, and the packets
that `TrafficStats` has counted. -/
structure PacketCounters where
  stat : NetworkInfo := {}
  rx : Int64 := 0
  tx : Int64 := 0
  deriving DecidableEq, Repr

/-- A result of `recvfrom`. A longer datagram would be copied past the end of `seq_str`. -/
inductive RecvFrom where
  | failed
  | datagram (payload : List UInt8) (h : payload.length < seqStrSize)

def RecvFrom.payload : RecvFrom → List UInt8
  | .failed => []
  | .datagram payload _ => payload

/-- What one turn of the loop meets: `stack` is the memory from `seq_str` on before the copy, and
`next` are the counters after the reply. -/
structure Round where
  recv : RecvFrom
  stack : List UInt8 := []
  after : PacketCounters := {}
  netType : ℤ := 0
  sent : Bool := true
  next : PacketCounters := {}

inductive Verdict where
  | yep
  | bad
  deriving DecidableEq, Repr

def Verdict.text : Verdict → String
  | .yep => "YEP\n"
  | .bad => "BAD\n"

/-- The argument of `updateProbeResult`. -/
inductive ProbeResult where
  | bad
  | good
  | sendError
  deriving DecidableEq, Repr

structure Reply where
  verdict : Verdict
  bytes : List UInt8

/-- The probe loop, with the numbers of the datagrams so far and the replies to them. -/
structure RrcClient where
  data : List UInt8
  before : PacketCounters
  seq_now : ℤ := -1
  running : Bool := true
  results : List ProbeResult := []
  seqs : List ℤ := []
  replies : List Reply := []

/-- `data` after the two messages of the handshake. -/
def handshake (first second : List UInt8) : List UInt8 :=
  writeAt (writeAt (List.replicate bufferSize 0) 0 (first.take bufferSize)) 0
    (second.take bufferSize)

def RrcClient.start (first second : List UInt8) (before : PacketCounters) : RrcClient where
  data := handshake first second
  before := before

/-- `memcpy(seq_str, seq, n+1)` and `atoi(seq_str)`. -/
def seqRecv (data : List UInt8) (n : ℕ) (stack : List UInt8) : ℤ :=
  atoi (writeAt stack 0 (data.take (n+1)))

/-- The array `echo` when it is sent. -/
def echo (n : ℕ) (seq_recv netType : ℤ) (verdict : Verdict) : List UInt8 :=
  let echo := List.replicate 17 32
  let echo := writeAt echo 0 (decimal seq_recv ++ [0])
  let echo := echo.set n 32
  let echo := writeAt echo (n+1) (decimal netType ++ [0])
  let echo := echo.set (n+2) 32
  let echo := echo.set 16 0
  writeAt echo (n+3) (ascii verdict.text ++ [0])

/-- Only one packet came in since, and none went out. -/
def OnePacket (before after : PacketCounters) : Prop :=
  (after.stat.recv_pkt = before.stat.recv_pkt+1 ∧ after.stat.send_pkt = before.stat.send_pkt) ∨
  (after.rx = before.rx+1 ∧ after.tx = before.tx)

instance (before after : PacketCounters) : Decidable (OnePacket before after) :=
  inferInstanceAs (Decidable (_ ∨ _))

def verdictOf (c : RrcClient) (seq_recv : ℤ) (after : PacketCounters) : Verdict :=
  if OnePacket c.before after ∧ seq_recv > c.seq_now then .yep else .bad

def Verdict.result : Verdict → ProbeResult
  | .yep => .good
  | .bad => .bad

/-- The branch of the loop for a datagram of `n` bytes, with the number read from it. -/
def answer (c : RrcClient) (r : Round) (n : ℕ) (seq_recv : ℤ) : RrcClient :=
  let verdict := verdictOf c seq_recv r.after
  let c := { c with seqs := c.seqs ++ [seq_recv] }
  if r.sent then
    { c with
      replies := c.replies ++ [⟨verdict, str (echo n seq_recv r.netType verdict)⟩]
      results := c.results ++ [verdict.result]
      before := r.next
      seq_now := if seq_recv > c.seq_now then seq_recv else c.seq_now }
  else { c with running := false, results := c.results ++ [.sendError] }

/-- One turn of the loop. `nRecv` stays 0, so every datagram goes to the start of `data`. -/
def rrcStep (c : RrcClient) (r : Round) : Option RrcClient :=
  if c.running then
    match r.recv with
    | .failed => some { c with running := false }
    | .datagram payload _ =>
      let n := payload.length
      let c := { c with data := writeAt c.data 0 payload }
      if n = 0 then some { c with running := false }
      else some (answer c r n (seqRecv c.data n r.stack))
  else none

/-- A turn with a datagram that is not empty. -/
theorem rrcStep_answer (c : RrcClient) (r : Round) (hne : r.recv.payload ≠ [])
    (hrunning : c.running = true) :
    rrcStep c r = some (answer { c with data := writeAt c.data 0 r.recv.payload } r
      r.recv.payload.length
      (seqRecv (writeAt c.data 0 r.recv.payload) r.recv.payload.length r.stack)) := by
  rw [rrcStep, if_pos hrunning]
  cases hrecv : r.recv with
  | failed =>
    rw [hrecv] at hne
    exact absurd rfl hne
  | datagram payload hlt =>
    rw [hrecv] at hne
    exact if_neg fun h => hne (List.length_eq_zero_iff.mp h)

/-- What does not depend on whether the reply could be sent. -/
theorem answer_frame (c : RrcClient) (r : Round) (n : ℕ) (seq_recv : ℤ) :
    (answer c r n seq_recv).data = c.data ∧
    (answer c r n seq_recv).seqs = c.seqs ++ [seq_recv] := by
  unfold answer
  cases r.sent with
  | true => exact ⟨rfl, rfl⟩
  | false => exact ⟨rfl, rfl⟩

theorem running_of_rrcStep (c c' : RrcClient) (r : Round) (h : rrcStep c r = some c') :
    c.running = true := by
  unfold rrcStep at h
  split_ifs at h with hrunning
  exact hrunning

/-! The number of a datagram. -/

/-- A datagram of 1 to 10 digits that spell an `int`. -/
structure NumberDatagram where
  payload : List UInt8
  length_pos : payload ≠ []
  length_lt : payload.length < seqStrSize
  digits : ∀ b ∈ payload, isdigit b = true
  fits : digitsFrom 0 payload < 2147483648

/-- The number that the datagram spells. -/
def NumberDatagram.number (d : NumberDatagram) : ℤ := digitsFrom 0 d.payload

/-- The byte at `n` that the messages before have left in `data`: of the last one that is
longer than `n`. -/
def leftover (messages : List (List UInt8)) (n : ℕ) : UInt8 :=
  messages.foldl (fun b message => (message[n]?).getD b) 0

/-- `seqs` of the turns of the loop. -/
def parsed (data : List UInt8) : List Round → List ℤ
  | [] => []
  | r :: rest =>
    let data := writeAt data 0 r.recv.payload
    seqRecv data r.recv.payload.length r.stack :: parsed data rest

section Numbers

variable {data : List UInt8}

/-- The datagram is read together with the byte that was left behind it. -/
theorem seqRecv_eq (d : NumberDatagram) (stack : List UInt8) (b : UInt8)
    (hb : data[d.payload.length]? = some b) :
    seqRecv (writeAt data 0 d.payload) d.payload.length stack =
      atoi (d.payload ++ b :: stack.drop (d.payload.length+1)) := by
  rw [seqRecv, take_writeAt_zero data d.payload b hb, writeAt_zero, List.append_assoc,
    List.length_append]
  rfl

theorem seqRecv_number (d : NumberDatagram) (stack : List UInt8) (b : UInt8)
    (hb : data[d.payload.length]? = some b) (hdigit : isdigit b = false) :
    seqRecv (writeAt data 0 d.payload) d.payload.length stack = d.number := by
  have hfits := d.fits
  rw [seqRecv_eq d stack b hb, atoi, strtol_digits d.payload _ d.length_pos d.digits,
    clampLong_of_lt _ (by omega), wrap32_of_range _ (by omega) (by omega)]
  · rfl
  · intro b' hb'
    cases hb'
    exact hdigit

/-- With a digit left behind, the number depends on what else is in `seq_str`. -/
theorem exists_seqRecv_ne (d : NumberDatagram) (b : UInt8) (hb : data[d.payload.length]? = some b)
    (hdigit : isdigit b = true) :
    ∃ stack, seqRecv (writeAt data 0 d.payload) d.payload.length stack ≠ d.number := by
  let stack (e : UInt8) : List UInt8 := List.replicate (d.payload.length+1) 0 ++ [e, 0]
  have hvalue (e : UInt8) (he : isdigit e = true) :
      seqRecv (writeAt data 0 d.payload) d.payload.length (stack e) =
      wrap32 (clampLong ((10*(10*digitsFrom 0 d.payload + (b.toNat-48)) + (e.toNat-48) : ℕ))) := by
    have hdrop : (stack e).drop (d.payload.length+1) = [e, 0] :=
      List.drop_left' (List.length_replicate)
    have hdigits : ∀ b' ∈ d.payload ++ [b, e], isdigit b' = true := by
      intro b' hmem
      simp only [List.mem_append, List.mem_cons, List.not_mem_nil, or_false] at hmem
      rcases hmem with hmem | rfl | rfl
      · exact d.digits b' hmem
      · exact hdigit
      · exact he
    have hread := strtol_digits (d.payload ++ [b, e]) [0]
      (by simp) hdigits (fun _ h => by cases h; rfl)
    rw [List.append_assoc, digitsFrom_append, digitsFrom_cons, digitsFrom_cons] at hread
    rw [seqRecv_eq d (stack e) b hb, hdrop, atoi]
    exact congrArg wrap32 hread
  by_contra hall
  push Not at hall
  have heq := ((hvalue 48 rfl).symm.trans (hall (stack 48))).trans
    ((hvalue 49 rfl).symm.trans (hall (stack 49))).symm
  have hfits := d.fits
  have hbyte : b.toNat < 256 := b.toNat_lt
  have h48 : (48:UInt8).toNat = 48 := rfl
  have h49 : (49:UInt8).toNat = 49 := rfl
  rw [h48, h49, clampLong_of_lt _ (by omega), clampLong_of_lt _ (by omega)] at heq
  unfold wrap32 at heq
  omega

/-! What is left in `data`. -/

/-- The bytes of `data` are those that the messages so far have left. -/
def Holds (data : List UInt8) (messages : List (List UInt8)) : Prop :=
  ∀ n < bufferSize, data[n]? = some (leftover messages n)

theorem Holds.write {messages : List (List UInt8)} (h : Holds data messages)
    (message : List UInt8) : Holds (writeAt data 0 message) (messages ++ [message]) := by
  intro n hn
  rw [getElem?_writeAt_zero, leftover, List.foldl_append]
  split_ifs with hlt
  · rw [List.getElem?_eq_getElem hlt]
    simp [List.getElem?_eq_getElem hlt]
  · rw [h n hn]
    simp [List.getElem?_eq_none (not_lt.mp hlt), leftover]

theorem leftover_take (first second : List UInt8) (n : ℕ) (hn : n < bufferSize) :
    leftover [first.take bufferSize, second.take bufferSize] n = leftover [first, second] n := by
  simp only [leftover, List.foldl_cons, List.foldl_nil, List.getElem?_take_of_lt hn]

theorem holds_handshake (first second : List UInt8) :
    Holds (handshake first second) [first, second] := by
  have hzero : Holds (List.replicate bufferSize 0) [] := by
    intro n hn
    rw [List.getElem?_replicate_of_lt hn]
    rfl
  intro n hn
  rw [← leftover_take first second n hn]
  exact ((hzero.write (first.take bufferSize)).write (second.take bufferSize)) n hn

/-- No digit is left behind any of the datagrams. -/
def NoDigitBehind (messages : List (List UInt8)) (ds : List NumberDatagram) : Prop :=
  ∀ (i : ℕ) d, ds[i]? = some d →
    isdigit (leftover (messages ++ (ds.take i).map (·.payload)) d.payload.length) = false

theorem noDigitBehind_cons (messages : List (List UInt8)) (d : NumberDatagram)
    (ds : List NumberDatagram) : NoDigitBehind messages (d :: ds) ↔
      isdigit (leftover messages d.payload.length) = false ∧
        NoDigitBehind (messages ++ [d.payload]) ds := by
  have happend (i : ℕ) : messages ++ ((d :: ds).take (i+1)).map (·.payload) =
      messages ++ [d.payload] ++ (ds.take i).map (·.payload) := by
    rw [List.take_succ_cons, List.map_cons, List.append_assoc]
    rfl
  constructor
  · intro h
    refine ⟨?_, fun i e he => ?_⟩
    · have h0 := h 0 d rfl
      rw [List.take_zero, List.map_nil, List.append_nil] at h0
      exact h0
    · have hi := h (i+1) e he
      rw [happend] at hi
      exact hi
  · rintro ⟨h0, h⟩ i e he
    cases i with
    | zero =>
      cases he
      rw [List.take_zero, List.map_nil, List.append_nil]
      exact h0
    | succ i =>
      rw [happend]
      exact h i e he

theorem NumberDatagram.length_lt_buffer (d : NumberDatagram) : d.payload.length < bufferSize :=
  lt_trans d.length_lt (by decide)

theorem parsed_numbers (messages : List (List UInt8)) (ds : List NumberDatagram)
    (rounds : List Round) (hdata : Holds data messages) (hds : NoDigitBehind messages ds)
    (hrounds : rounds.map (·.recv.payload) = ds.map (·.payload)) :
    parsed data rounds = ds.map (·.number) := by
  induction ds generalizing data messages rounds with
  | nil =>
    obtain rfl := List.map_eq_nil_iff.mp hrounds
    rfl
  | cons d ds ih =>
    obtain ⟨r, rest, rfl, hr, hrest⟩ := List.map_eq_cons_iff.mp hrounds
    obtain ⟨hdigit, hds⟩ := (noDigitBehind_cons messages d ds).mp hds
    rw [parsed, hr, List.map_cons]
    dsimp only
    rw [seqRecv_number d r.stack _ (hdata _ d.length_lt_buffer) hdigit,
      ih _ rest (hdata.write d.payload) hds hrest]

theorem exists_parsed_ne (messages : List (List UInt8)) (ds : List NumberDatagram)
    (hdata : Holds data messages) (hds : ¬NoDigitBehind messages ds) :
    ∃ rounds : List Round, (∀ r ∈ rounds, r.sent = true) ∧
      rounds.map (·.recv.payload) = ds.map (·.payload) ∧
        parsed data rounds ≠ ds.map (·.number) := by
  induction ds generalizing data messages with
  | nil => exact absurd (fun _ _ h => by cases h) hds
  | cons d ds ih =>
    let plain (d : NumberDatagram) : Round := { recv := .datagram d.payload d.length_lt }
    by_cases hdigit : isdigit (leftover messages d.payload.length) = true
    · obtain ⟨stack, hne⟩ := exists_seqRecv_ne d _ (hdata _ d.length_lt_buffer) hdigit
      refine ⟨{ plain d with stack } :: ds.map plain, ?_, ?_, ?_⟩
      · intro r hr
        rcases List.mem_cons.mp hr with rfl | hr
        · rfl
        · obtain ⟨e, -, rfl⟩ := List.mem_map.mp hr
          rfl
      · rw [List.map_cons, List.map_map, List.map_cons]
        rfl
      · intro heq
        exact hne (List.cons.inj heq).1
    · rw [noDigitBehind_cons, not_and] at hds
      obtain ⟨rounds, hsent, hrounds, hne⟩ :=
        ih _ (hdata.write d.payload) (hds (by simpa using hdigit))
      refine ⟨plain d :: rounds, ?_, ?_, ?_⟩
      · intro r hr
        rcases List.mem_cons.mp hr with rfl | hr
        · rfl
        · exact hsent r hr
      · rw [List.map_cons, List.map_cons, hrounds]
        rfl
      · intro heq
        exact hne (List.cons.inj heq).2

/-! The turns of the loop. -/

theorem rrcStep_numbers (c c' : RrcClient) (r : Round) (hne : r.recv.payload ≠ [])
    (h : rrcStep c r = some c') : c'.data = writeAt c.data 0 r.recv.payload ∧
    c'.seqs = c.seqs ++ [seqRecv (writeAt c.data 0 r.recv.payload) r.recv.payload.length r.stack] :=
      by
  rw [rrcStep_answer c r hne (running_of_rrcStep c c' r h)] at h
  obtain rfl := Option.some.inj h
  exact answer_frame _ r _ _

theorem run_seqs (c c' : RrcClient) (rounds : List Round) (hne : ∀ r ∈ rounds, r.recv.payload ≠ [])
    (h : runEvents rrcStep c rounds = some c') : c'.seqs = c.seqs ++ parsed c.data rounds := by
  induction rounds generalizing c with
  | nil =>
    cases h
    exact (List.append_nil _).symm
  | cons r rest ih =>
    obtain ⟨c₁, hstep, hrest⟩ := runEvents_cons rrcStep c c' r rest h
    obtain ⟨hdata, hseqs⟩ := rrcStep_numbers c c₁ r (hne r List.mem_cons_self) hstep
    rw [ih c₁ (fun x hx => hne x (List.mem_cons_of_mem r hx)) hrest, hseqs, hdata,
      List.append_assoc]
    rfl

/-- As long as no send fails, the loop goes on. -/
theorem exists_run_sent (c : RrcClient) (rounds : List Round) (hrunning : c.running = true)
    (hne : ∀ r ∈ rounds, r.recv.payload ≠ []) (hsent : ∀ r ∈ rounds, r.sent = true) :
    ∃ c', runEvents rrcStep c rounds = some c' := by
  induction rounds generalizing c with
  | nil => exact ⟨c, rfl⟩
  | cons r rest ih =>
    have hstep := rrcStep_answer c r (hne r List.mem_cons_self) hrunning
    have hrunning₁ :
        (answer { c with data := writeAt c.data 0 r.recv.payload } r r.recv.payload.length
        (seqRecv (writeAt c.data 0 r.recv.payload) r.recv.payload.length r.stack)).running =
          true := by
      rw [answer, hsent r List.mem_cons_self]
      exact hrunning
    obtain ⟨c', hrun⟩ := ih _ hrunning₁ (fun x hx => hne x (List.mem_cons_of_mem r hx))
      (fun x hx => hsent x (List.mem_cons_of_mem r hx))
    exact ⟨c', by rw [runEvents, hstep]; exact hrun⟩

end Numbers

/-- Every run over the datagrams reads from each the number that it spells. -/
def OwnNumbers (first second : List UInt8) (before : PacketCounters) (ds : List NumberDatagram) :
    Prop :=
  ∀ rounds c, rounds.map (·.recv.payload) = ds.map (·.payload) →
    runEvents rrcStep (RrcClient.start first second before) rounds = some c →
      c.seqs = ds.map (·.number)

/-- The numbers are read right exactly if no longer message before has left a digit behind
a datagram. -/
theorem own_numbers_iff (first second : List UInt8) (before : PacketCounters)
    (ds : List NumberDatagram) : OwnNumbers first second before ds ↔
      NoDigitBehind [first, second] ds := by
  have hne (rounds : List Round) (hrounds : rounds.map (·.recv.payload) = ds.map (·.payload)) :
      ∀ r ∈ rounds, r.recv.payload ≠ [] := by
    intro r hr
    have hmem : r.recv.payload ∈ ds.map (·.payload) := hrounds ▸ List.mem_map_of_mem hr
    obtain ⟨d, -, hd⟩ := List.mem_map.mp hmem
    exact hd ▸ d.length_pos
  have hdata := holds_handshake first second
  constructor
  · intro hown
    by_contra hbehind
    obtain ⟨rounds, hsent, hrounds, hparsed⟩ := exists_parsed_ne _ ds hdata hbehind
    obtain ⟨c, hrun⟩ := exists_run_sent (RrcClient.start first second before) rounds rfl
      (hne rounds hrounds) hsent
    have hseqs := run_seqs _ c rounds (hne rounds hrounds) hrun
    exact hparsed (hseqs.symm.trans (hown rounds c hrounds hrun))
  · intro hbehind rounds c hrounds hrun
    have hseqs := run_seqs _ c rounds (hne rounds hrounds) hrun
    exact hseqs.trans (parsed_numbers _ ds rounds hdata hbehind hrounds)

def tenDatagram : NumberDatagram where
  payload := [49, 48]
  length_pos := by decide
  length_lt := by decide
  digits := by decide +kernel
  fits := by decide

def nineDatagram : NumberDatagram where
  payload := [57]
  length_pos := by decide
  length_lt := by decide
  digits := by decide +kernel
  fits := by decide

/-- A 9 that comes after a 10 is read as 90. -/
theorem nine_read_as_ninety :
    ∃ rounds c, rounds.map (·.recv.payload) = [tenDatagram, nineDatagram].map (·.payload) ∧
    runEvents rrcStep (RrcClient.start (ascii "Test1") (ascii "Test2") {}) rounds = some c ∧
      c.seqs = [10, 90] ∧
    ¬OwnNumbers (ascii "Test1") (ascii "Test2") {} [tenDatagram, nineDatagram] := by
  let rounds : List Round := [{ recv := .datagram tenDatagram.payload tenDatagram.length_lt },
    { recv := .datagram nineDatagram.payload nineDatagram.length_lt }]
  have hseqs : (runEvents rrcStep (RrcClient.start (ascii "Test1") (ascii "Test2") {}) rounds).map
      (·.seqs) = some [10, 90] := by
    decide +kernel
  obtain ⟨c, hrun, hc⟩ := Option.map_eq_some_iff.mp hseqs
  refine ⟨rounds, c, rfl, hrun, hc, ?_⟩
  intro hown
  have heq := hc.symm.trans (hown rounds c rfl hrun)
  revert heq
  decide

end MmWaveTracker
