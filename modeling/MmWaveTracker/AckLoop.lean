import MmWaveTracker.JavaInt
import MmWaveTracker.Timestamp
import Mathlib.Data.List.Forall2

/-! The receiving side of the UDP probe: `recv_packet` and the loop
`recv_packets_and_send_ack`, which logs and acknowledges what arrives. -/
namespace MmWaveTracker

/-- `uint64_t(-1)`. -/
def uint64Minus1 : UInt64 := UInt64.ofNat 18446744073709551615

/-- An `int` where a `uint64_t` is wanted. -/
def uint64OfInt (n : ℤ) : UInt64 := UInt64.ofNat (n%18446744073709551616).toNat

/-! Packets. -/

namespace Packet

def isAck (p : Packet) : Bool := p.header.ack_sequence_number ≠ uint64Minus1

def transformIntoAck (p : Packet) (sequence_number recv_timestamp : UInt64) : Packet :=
  let header := { p.header with ack_sequence_number := p.header.sequence_number }
  let header := { header with sequence_number }
  let header := { header with
    ack_send_timestamp := header.send_timestamp
    ack_recv_timestamp := recv_timestamp
    ack_payload_length := UInt64.ofNat p.payload.length }
  { header, payload := [] }

def setSendTimestamp (N : Native) (p : Packet) (c : Client) : Packet × Client :=
  let (send_timestamp, c) := timestampMs N c
  ({ p with header := { p.header with send_timestamp } }, c)

end Packet

/-! The socket. -/

def recvBufferLen : ℕ := 65536

/-- What `recv_packet` returns, read into a buffer of `RECV_BUFFER_LEN` bytes. -/
structure ReceivedDatagram where
  timestamp : UInt64
  payload : Bytes
  length_le : payload.length ≤ recvBufferLen

/-- How a thread of the client ends, where `exited` is `pthread_exit`, or that it waits for the next
datagram. -/
inductive Exit where
  | returned
  | waiting
  | exited
  | uncaught (what : String)
  deriving DecidableEq, Repr

/-- What `recvmsg` gives: a datagram with its flags and kernel time stamps, or -1. -/
inductive RecvMsg where
  | datagram (payload : Bytes) (msg_flags : ℕ) (stamps : List Timespec)
      (h : payload.length ≤ recvBufferLen)
  | failed (eagain : Bool)

def msgTrunc : ℕ := 32

/-- The loop over the control messages; the last stamp counts. -/
def kernelTimestamp (N : Native) : List Timespec → UInt64 → Client → UInt64 × Client
  | [], timestamp, c => (timestamp, c)
  | kernel_time :: rest, _, c =>
    let (timestamp, c) := timestampMsOf N kernel_time c
    kernelTimestamp N rest timestamp c

/-- A failure other than a timeout goes on with a length of -1, which `std::string` rejects. -/
def recvPacket (N : Native) (msg : RecvMsg) (c : Client) : Except Exit ReceivedDatagram × Client :=
  match msg with
  | .failed eagain => (.error (if eagain then .exited else .uncaught "basic_string"), c)
  | .datagram payload msg_flags stamps length_le =>
    if msg_flags &&& msgTrunc ≠ 0 then (.error .exited, c)
    else if msg_flags ≠ 0 then (.error .exited, c)
    else
      let (timestamp, c) := kernelTimestamp N stamps uint64Minus1 c
      (.ok { timestamp, payload, length_le }, c)

/-- A datagram that `recv_packet` returns as it is. -/
def arrived (d : ReceivedDatagram) (c : Client) : Except Exit ReceivedDatagram × Client :=
  (.ok d, c)

/-- Whether the datagram was sent; if not, the thread ends. -/
def sendPacket (N : Native) (payload : Bytes) (c : Client) : Bool × Client :=
  if N.sends c.sent.length then (true, { c with sent := c.sent ++ [payload] }) else (false, c)

/-! The log. -/

/-- `%d` takes the low half of a 64-bit argument. -/
def formatD (n : UInt64) : String := valueOf (wrap32 n.toNat)

/-- `string_format("%d, %d, %d, %d, %d, %d, %d, %d, %d\n", ...)`. -/
def packetInfo (p : Packet) (timestamp now : UInt64) : String :=
  String.intercalate ", " [if p.isAck then "1" else "0", formatD p.header.sequence_number,
    formatD p.header.send_timestamp, formatD p.header.ack_sequence_number,
      formatD p.header.ack_send_timestamp,
    formatD p.header.ack_recv_timestamp, formatD timestamp, formatD p.header.ack_payload_length,
      formatD now] ++ "\n"

def logPacket (N : Native) (p : Packet) (timestamp : UInt64) (c : Client) : Client :=
  let (now, c) := getCurrentTimestamp N c
  { c with log := c.log ++ [packetInfo p timestamp now] }

/-- `recv_packets_and_send_ack`, over the messages that `recv` finds at the socket. -/
def recvPacketsAndSendAck {ι : Type} (N : Native)
    (recv : ι → Client → Except Exit ReceivedDatagram × Client) :
    List ι → ℤ → Client → Exit × Client
  | [], _, c => (.waiting, c)
  | msg :: rest, client_seq_no, c =>
    match recv msg c with
    | (.error e, c) => (e, c)
    | (.ok message, c) =>
      match Packet.parse N.host message.payload with
      | .error what => (.uncaught what, c)
      | .ok packet =>
        let c := logPacket N packet message.timestamp c
        -- the terminator is logged, but not acknowledged
        if packet.header.sequence_number ≤ 0 then (.returned, c)
        else
          let packet := packet.transformIntoAck (uint64OfInt client_seq_no) message.timestamp
          let (packet, c) := packet.setSendTimestamp N c
          match sendPacket N (packet.toString N.host) c with
          | (false, c) => (.exited, c)
          | (true, c) => recvPacketsAndSendAck N recv rest (wrap32 (client_seq_no+1)) c

/-! One round of the loop. -/

theorem uint64_le_zero_iff (n : UInt64) : n ≤ 0 ↔ n = 0 := by
  rw [UInt64.le_iff_toNat_le, ← UInt64.toNat_inj]
  exact Nat.le_zero

theorem toNat_uint64OfInt (k : ℕ) (h : k < 18446744073709551616) : (uint64OfInt k).toNat = k := by
  have hk : ((k:ℤ)%18446744073709551616).toNat = k := by omega
  rw [uint64OfInt, hk, UInt64.toNat_ofNat']
  exact Nat.mod_eq_of_lt h

/-- The sequence number of a datagram. -/
def sequenceNumber (N : Native) (d : ReceivedDatagram) : UInt64 :=
  match Packet.parse N.host d.payload with
  | .ok p => p.header.sequence_number
  | .error _ => 0

/-- The row that `d` leaves in the log. -/
def IsRow (N : Native) (d : ReceivedDatagram) (row : String) : Prop :=
  ∃ p now, Packet.parse N.host d.payload = .ok p ∧ row = packetInfo p d.timestamp now

/-- The datagram `reply` acknowledges `d` under the number `k`. -/
def IsReply (N : Native) (k : ℕ) (d : ReceivedDatagram) (reply : Bytes) : Prop :=
  reply.length = 48 ∧ ∃ p q : Packet, Packet.parse N.host d.payload = .ok p ∧
    Packet.parse N.host reply = .ok q ∧ q.header.sequence_number.toNat = k ∧
    q.header.ack_sequence_number = p.header.sequence_number ∧
    q.header.ack_send_timestamp = p.header.send_timestamp ∧
    q.header.ack_recv_timestamp = d.timestamp ∧
    q.header.ack_payload_length.toNat = d.payload.length - 48

section Round

variable {N : Native} {d : ReceivedDatagram} {p : Packet}

/-- What the loop does with a packet that is not the last one. -/
def acknowledge (N : Native) (p : Packet) (timestamp : UInt64) (client_seq_no : ℤ) (c : Client) :
    Client :=
  let c := logPacket N p timestamp c
  let (packet, c) := (p.transformIntoAck (uint64OfInt client_seq_no) timestamp).setSendTimestamp N c
  (sendPacket N (packet.toString N.host) c).2

theorem recvPacketsAndSendAck_cons (hsend : ∀ n, N.sends n = true)
    (hp : Packet.parse N.host d.payload = .ok p) (rest : List ReceivedDatagram) (client_seq_no : ℤ)
    (c : Client) :
    recvPacketsAndSendAck N arrived (d :: rest) client_seq_no c =
      if p.header.sequence_number = 0 then (.returned, logPacket N p d.timestamp c)
      else recvPacketsAndSendAck N arrived rest (wrap32 (client_seq_no+1))
        (acknowledge N p d.timestamp client_seq_no c) := by
  rw [recvPacketsAndSendAck]
  simp only [arrived, hp, uint64_le_zero_iff]
  split_ifs
  · rfl
  · simp only [acknowledge, sendPacket, hsend, if_true]

/-- A log entry does not concern the socket. -/
theorem logPacket_frame (timestamp : UInt64) (c : Client) : ∃ now,
    (logPacket N p timestamp c).log = c.log ++ [packetInfo p timestamp now] ∧
    (logPacket N p timestamp c).sent = c.sent := ⟨_, rfl, rfl⟩

theorem timestampMsOf_frame (ts : Timespec) (c : Client) :
    (timestampMsOf N ts c).2.log = c.log ∧ (timestampMsOf N ts c).2.sent = c.sent ∧
    (timestampMsOf N ts c).2.senderRunning = c.senderRunning := by
  unfold timestampMsOf epochOf
  cases c.epoch <;> exact ⟨rfl, rfl, rfl⟩

theorem timestampMs_frame (c : Client) :
    (timestampMs N c).2.log = c.log ∧ (timestampMs N c).2.sent = c.sent ∧
    (timestampMs N c).2.senderRunning = c.senderRunning :=
  timestampMsOf_frame (N.clock c.readings) { c with readings := c.readings+1 }

/-- The payload of a packet is what follows the header. -/
theorem length_payload (str : Bytes) (hp : Packet.parse N.host str = .ok p) :
    48 ≤ str.length ∧ p.payload.length = str.length - 48 := by
  obtain ⟨hlen, rfl⟩ := packet_toString_parse N.host str p hp
  refine ⟨hlen, ?_⟩
  rw [Packet.toString, List.length_append, length_header_toString]
  exact (Nat.add_sub_cancel_left 48 _).symm

theorem acknowledge_frame (hsend : ∀ n, N.sends n = true)
    (hp : Packet.parse N.host d.payload = .ok p) (k : ℕ) (hk : k < 2147483648) (c : Client) :
    ∃ row reply, (acknowledge N p d.timestamp k c).log = c.log ++ [row] ∧
      (acknowledge N p d.timestamp k c).sent = c.sent ++ [reply] ∧ IsRow N d row ∧
        IsReply N k d reply := by
  obtain ⟨now, hlog, hsent⟩ := logPacket_frame (N := N) (p := p) d.timestamp c
  obtain ⟨hlog', hsent', -⟩ := timestampMs_frame (N := N) (logPacket N p d.timestamp c)
  obtain ⟨hlen, hpayload⟩ := length_payload d.payload hp
  let q : Packet := ((p.transformIntoAck (uint64OfInt k) d.timestamp).setSendTimestamp N
    (logPacket N p d.timestamp c)).1
  refine ⟨packetInfo p d.timestamp now, q.toString N.host, ?_, ?_, ⟨p, now, hp, rfl⟩, ?_, p, q, hp,
    ?_, ?_⟩
  · rw [← hlog, ← hlog']
    simp only [acknowledge, sendPacket, hsend, if_true]
    rfl
  · rw [← hsent, ← hsent']
    simp only [acknowledge, sendPacket, hsend, if_true]
    rfl
  · rw [Packet.toString, List.length_append, length_header_toString]
    rfl
  · exact packet_parse_toString N.host q
  · refine ⟨toNat_uint64OfInt k (by omega), rfl, rfl, rfl, ?_⟩
    have hle := d.length_le
    change (UInt64.ofNat p.payload.length).toNat = _
    rw [UInt64.toNat_ofNat', hpayload]
    unfold recvBufferLen at hle
    omega

end Round

/-- The datagrams before the first with sequence number 0. -/
def answered (N : Native) (ds : List ReceivedDatagram) : List ReceivedDatagram :=
  ds.takeWhile fun d => sequenceNumber N d ≠ 0

/-- The datagrams up to and including the first with sequence number 0. -/
def logged (N : Native) (ds : List ReceivedDatagram) : List ReceivedDatagram :=
  ds.take ((answered N ds).length+1)

/-- What the loop has added to the log and sent, from reply `k` on. -/
structure Transcript (N : Native) (k : ℕ) (ds : List ReceivedDatagram) (run : Exit × Client)
    (rows : List String) (replies : List Bytes) (c : Client) : Prop where
  log : run.2.log = c.log ++ rows
  sent : run.2.sent = c.sent ++ replies
  rows : List.Forall₂ (IsRow N) (logged N ds) rows
  length : replies.length = (answered N ds).length
  reply : ∀ i d reply, (answered N ds)[i]? = some d → replies[i]? = some reply →
    IsReply N (k+i) d reply
  exit : run.1 = if ∃ d ∈ ds, sequenceNumber N d = 0 then .returned else .waiting

section Transcript

variable {N : Native}

theorem transcript_nil (k : ℕ) (c : Client) : Transcript N k [] (.waiting, c) [] [] c where
  log := (List.append_nil _).symm
  sent := (List.append_nil _).symm
  rows := List.Forall₂.nil
  length := rfl
  reply := fun _ _ _ h => by cases h
  exit := (if_neg (by simp)).symm

/-- The terminator is logged, and ends the loop. -/
theorem transcript_last (k : ℕ) (d : ReceivedDatagram) (p : Packet) (rest : List ReceivedDatagram)
    (c : Client) (hp : Packet.parse N.host d.payload = .ok p) (hseq : sequenceNumber N d = 0) :
    ∃ row, Transcript N k (d :: rest) (.returned, logPacket N p d.timestamp c) [row] [] c := by
  obtain ⟨now, hlog, hsent⟩ := logPacket_frame (N := N) (p := p) d.timestamp c
  have hanswered : answered N (d :: rest) = [] := by
    rw [answered, List.takeWhile_cons_of_neg (by simp [hseq])]
  refine ⟨packetInfo p d.timestamp now, hlog, ?_, ?_, ?_, ?_, ?_⟩
  · rw [List.append_nil]
    exact hsent
  · rw [logged, hanswered]
    exact .cons ⟨p, now, hp, rfl⟩ .nil
  · rw [hanswered]
    rfl
  · rw [hanswered]
    intro i _ _ h
    cases h
  · exact (if_pos ⟨d, List.mem_cons_self, hseq⟩).symm

/-- Any other datagram is logged and answered before the rest. -/
theorem transcript_cons (k : ℕ) (d : ReceivedDatagram) (rest : List ReceivedDatagram)
    (run : Exit × Client) (row : String) (rows : List String) (reply : Bytes) (replies : List Bytes)
    (c c' : Client)
    (h : Transcript N (k+1) rest run rows replies c') (hlog : c'.log = c.log ++ [row])
    (hsent : c'.sent = c.sent ++ [reply]) (hrow : IsRow N d row) (hreply : IsReply N k d reply)
    (hseq : sequenceNumber N d ≠ 0) :
    Transcript N k (d :: rest) run (row :: rows) (reply :: replies) c := by
  have hanswered : answered N (d :: rest) = d :: answered N rest := by
    rw [answered, List.takeWhile_cons_of_pos (by simp [hseq])]
    rfl
  refine ⟨?_, ?_, ?_, ?_, ?_, ?_⟩
  · rw [h.log, hlog, List.append_assoc]
    rfl
  · rw [h.sent, hsent, List.append_assoc]
    rfl
  · rw [logged, hanswered, List.length_cons, List.take_succ_cons]
    exact .cons hrow h.rows
  · rw [hanswered, List.length_cons, List.length_cons, h.length]
  · intro i e r he hr
    rw [hanswered] at he
    cases i with
    | zero =>
      cases he
      cases hr
      exact hreply
    | succ i =>
      rw [show k+(i+1) = k+1+i by omega]
      exact h.reply i e r he hr
  · rw [h.exit]
    simp [hseq]

theorem exists_transcript (hsend : ∀ n, N.sends n = true) (ds : List ReceivedDatagram)
    (hlen : ∀ d ∈ ds, 48 ≤ d.payload.length) (k : ℕ) (client_seq_no : ℤ) (c : Client)
    (hseq : ds ≠ [] → client_seq_no = k) (hk : k + ds.length ≤ 2147483648) :
    ∃ rows replies, Transcript N k ds (recvPacketsAndSendAck N arrived ds client_seq_no c) rows
      replies c := by
  induction ds generalizing k client_seq_no c with
  | nil => exact ⟨[], [], transcript_nil k c⟩
  | cons d rest ih =>
    obtain rfl := hseq (List.cons_ne_nil d rest)
    rw [List.length_cons] at hk
    obtain ⟨p, hp⟩ : ∃ p, Packet.parse N.host d.payload = .ok p := by
      obtain ⟨p, hstr⟩ := exists_packet_toString N.host d.payload (hlen d List.mem_cons_self)
      exact ⟨p, by rw [← hstr, packet_parse_toString]⟩
    have hnumber : sequenceNumber N d = p.header.sequence_number := by rw [sequenceNumber, hp]
    rw [recvPacketsAndSendAck_cons hsend hp]
    split_ifs with hzero
    · obtain ⟨row, hrow⟩ := transcript_last k d p rest c hp (hnumber.trans hzero)
      exact ⟨[row], [], hrow⟩
    · obtain ⟨row, reply, hlog, hsent, hrow, hreply⟩ := acknowledge_frame hsend hp k (by omega) c
      have hnext : rest ≠ [] → wrap32 ((k:ℤ)+1) = (k+1 : ℕ) := by
        intro hne
        have hpos := List.length_pos_iff.mpr hne
        rw [wrap32_of_range _ (by omega) (by omega)]
        rfl
      obtain ⟨rows, replies, h⟩ := ih (fun e he => hlen e (List.mem_cons_of_mem d he)) (k+1) _
        (acknowledge N p d.timestamp k c) hnext (by omega)
      exact ⟨row :: rows, reply :: replies,
        transcript_cons k d rest _ row rows reply replies c _ h hlog hsent
        hrow hreply (by rw [hnumber]; exact hzero)⟩

end Transcript

/-- The transcript of the ack loop: a row for every datagram up to the terminator, and a
numbered reply for every datagram before it. -/
theorem ack_loop_transcript (N : Native) (ds : List ReceivedDatagram) (c : Client)
    (hsend : ∀ n, N.sends n = true) (hlen : ∀ d ∈ ds, 48 ≤ d.payload.length)
    (hcount : ds.length < 2147483648) :
    ∃ rows replies, (recvPacketsAndSendAck N arrived ds 1 c).2.log = c.log ++ rows ∧
      (recvPacketsAndSendAck N arrived ds 1 c).2.sent = c.sent ++ replies ∧
      List.Forall₂ (IsRow N) (logged N ds) rows ∧ replies.length = (answered N ds).length ∧
      (∀ i d reply, (answered N ds)[i]? = some d → replies[i]? = some reply →
        IsReply N (i+1) d reply) ∧
      (recvPacketsAndSendAck N arrived ds 1 c).1 =
        if ∃ d ∈ ds, sequenceNumber N d = 0 then .returned else .waiting := by
  obtain ⟨rows, replies, h⟩ := exists_transcript hsend ds hlen 1 1 c (fun _ => rfl) (by omega)
  refine ⟨rows, replies, h.log, h.sent, h.rows, h.length, ?_, h.exit⟩
  intro i d reply hd hr
  rw [Nat.add_comm]
  exact h.reply i d reply hd hr

theorem length_replicate_le (b : UInt8) : (List.replicate 48 b).length ≤ recvBufferLen := by
  rw [List.length_replicate]
  decide

/-- Three empty probes, of which the second ends the run. -/
def threeProbes : List ReceivedDatagram :=
  [⟨7, List.replicate 48 1, length_replicate_le 1⟩, ⟨8, List.replicate 48 0, length_replicate_le 0⟩,
    ⟨9, List.replicate 48 1, length_replicate_le 1⟩]

def stoppedClock : Native where
  host := .little
  clock := fun _ => .zero
  sends := fun _ => true

theorem ack_loop_transcript_three_probes :
    (recvPacketsAndSendAck stoppedClock arrived threeProbes 1 {}).1 = .returned ∧
    (recvPacketsAndSendAck stoppedClock arrived threeProbes 1 {}).2.sent.length = 1 := by
  have hlen : ∀ d ∈ threeProbes, 48 ≤ d.payload.length := by
    intro d hd
    simp only [threeProbes, List.mem_cons, List.not_mem_nil, or_false] at hd
    rcases hd with rfl | rfl | rfl <;> decide
  obtain ⟨rows, replies, -, hsent, -, hcount, -, hexit⟩ :=
    ack_loop_transcript stoppedClock threeProbes {} (fun _ => rfl) hlen (by decide)
  have hzero : ∃ d ∈ threeProbes, sequenceNumber stoppedClock d = 0 :=
    ⟨⟨8, List.replicate 48 0, length_replicate_le 0⟩, by simp [threeProbes], by decide +kernel⟩
  refine ⟨hexit.trans (if_pos hzero), ?_⟩
  rw [hsent, List.nil_append, hcount]
  decide +kernel

end MmWaveTracker
