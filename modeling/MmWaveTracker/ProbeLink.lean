import MmWaveTracker.Uplink
import Mathlib.Data.List.Sublists

/-! The sender of the UDP probe and the ack loop at the other end of a link that loses
datagrams and acks but keeps their order. -/
namespace MmWaveTracker

/-- A datagram made by `create_packet` under the number `seq_num`. -/
def IsProbe (host : ByteOrder) (seq_num : UInt64) (b : Bytes) : Prop :=
  ∃ p, Packet.parse host b = .ok p ∧ p.header.sequence_number = seq_num ∧ p.payload = dummyPayload

/-- Data packets, numbered from 1 by an `int`. -/
def Probes (host : ByteOrder) (data : List Bytes) : Prop :=
  ∀ (i : ℕ) (b : Bytes), data[i]? = some b → IsProbe host (uint64OfInt (wrap32 ((i:ℤ)+1))) b

/-! The packets of the sender. -/

/-- The `k` packets of the current burst come after whole bursts. -/
def InBurst (pacing : Pacing) (k n : ℕ) : Prop :=
  k ≤ n ∧ k ≤ pacing.pkts_to_send.toNat ∧ pacing.pkts_to_send.toNat ∣ n-k

/-- What `send_udp_packets` has sent when it stands at its pc. -/
def Shape (N : Native) (pacing : Pacing) (s : Sender) (sent : List Bytes) : Prop :=
  match s.pc with
  | .starting => sent = [] ∧ s.server_seq_no = 1 ∧ s.count = 0
  | .startingAt _ => sent = [] ∧ s.server_seq_no = 1 ∧ s.count = 0
  | .checking | .checkingAt _ => Probes N.host sent ∧ s.server_seq_no = wrap32 ((sent.length:ℤ)+1) ∧
      s.count = 0 ∧ InBurst pacing 0 sent.length
  | .bursting => Probes N.host sent ∧ s.server_seq_no = wrap32 ((sent.length:ℤ)+1) ∧
      ∃ k : ℕ, s.count = k ∧ InBurst pacing k sent.length
  | .creating seq_num | .creatingAt seq_num _ => Probes N.host sent ∧
      s.server_seq_no = wrap32 ((sent.length:ℤ)+2) ∧
        seq_num = uint64OfInt (wrap32 ((sent.length:ℤ)+1)) ∧
      ∃ k : ℕ, s.count = wrap32 ((k:ℤ)+1) ∧ k < pacing.pkts_to_send.toNat ∧
        InBurst pacing k sent.length
  | .sending message => Probes N.host sent ∧ s.server_seq_no = wrap32 ((sent.length:ℤ)+2) ∧
      IsProbe N.host (uint64OfInt (wrap32 ((sent.length:ℤ)+1))) message ∧
      ∃ k : ℕ, s.count = wrap32 ((k:ℤ)+1) ∧ k < pacing.pkts_to_send.toNat ∧
        InBurst pacing k sent.length
  | .sleeping _ => Probes N.host sent ∧ s.server_seq_no = wrap32 ((sent.length:ℤ)+1) ∧
      InBurst pacing 0 sent.length
  | .finishing | .finishingAt _ => Probes N.host sent ∧ InBurst pacing 0 sent.length
  | .terminating left message => ∃ data, left ≤ terminators ∧
      sent = data ++ List.replicate (terminators-left) message ∧ Probes N.host data ∧
      InBurst pacing 0 data.length ∧ IsProbe N.host 0 message
  | .returned => ∃ data message, sent = data ++ List.replicate terminators message ∧
      Probes N.host data ∧ InBurst pacing 0 data.length ∧ IsProbe N.host 0 message
  | .exited => True

section Sender

variable {N : Native} {pacing : Pacing}

theorem isProbe_createPacket (seq_num : UInt64) (ts : Timespec) (c : Client) :
    IsProbe N.host seq_num (createPacket N seq_num ts c).1 :=
      ⟨_, packet_parse_toString N.host _, rfl, rfl⟩

theorem probes_append (data : List Bytes) (message : Bytes) (h : Probes N.host data)
    (hm : IsProbe N.host (uint64OfInt (wrap32 ((data.length:ℤ)+1))) message) :
    Probes N.host (data ++ [message]) := by
  intro i b hb
  rcases Nat.lt_trichotomy i data.length with hi | rfl | hi
  · rw [List.getElem?_append_left hi] at hb
    exact h i b hb
  · rw [List.getElem?_append_right le_rfl, Nat.sub_self] at hb
    cases hb
    exact hm
  · rw [List.getElem?_eq_none (by rw [List.length_append]; exact hi)] at hb
    cases hb

theorem inBurst_whole (k n : ℕ) (h : InBurst pacing k n) (hk : pacing.pkts_to_send.toNat ≤ k) :
    InBurst pacing 0 n := by
  obtain ⟨hn, hle, hdvd⟩ := h
  obtain rfl : k = pacing.pkts_to_send.toNat := le_antisymm hle hk
  refine ⟨Nat.zero_le n, Nat.zero_le _, ?_⟩
  rw [Nat.sub_zero, ← Nat.sub_add_cancel hn]
  exact Nat.dvd_add hdvd dvd_rfl

/-- The comparison of `count++ < pkts_to_send`. -/
theorem burst_goes_on_iff (k : ℕ) (hk : k < 2147483648) :
    uint64OfInt k < pacing.pkts_to_send ↔ k < pacing.pkts_to_send.toNat := by
  rw [UInt64.lt_iff_toNat_lt, toNat_uint64OfInt k (by omega)]

theorem SenderMove.sent_mono {s s' : Sender} {c c' : Client} (h : SenderMove N pacing s c s' c') :
    c.sent.length ≤ c'.sent.length := by
  cases h with
  | started ts hpc => exact le_of_eq (congrArg _ (timestampMsOf_frame ts c).2.1.symm)
  | goOn ts hpc hrunning htime => exact le_of_eq (congrArg _ (timestampMsOf_frame ts c).2.1.symm)
  | stop ts hpc => exact le_of_eq (congrArg _ (timestampMsOf_frame ts c).2.1.symm)
  | created seq_num ts hpc => exact le_of_eq (congrArg _ (createPacket_frame seq_num ts c).2.1.symm)
  | finished ts hpc => exact le_of_eq (congrArg _ (createPacket_frame 0 ts c).2.1.symm)
  | sent message hpc => simp
  | terminated left message hpc => simp
  | _ => exact le_rfl

theorem SenderMove.shape {s s' : Sender} {c c' : Client} (h : SenderMove N pacing s c s' c')
    (hlen : c'.sent.length < 2147483648) (hs : Shape N pacing s c.sent) :
    Shape N pacing s' c'.sent := by
  cases h with
  | start hpc =>
    rw [Shape, hpc] at hs
    exact hs
  | started ts hpc =>
    rw [Shape, hpc] at hs
    obtain ⟨hsent, hseq, hcount⟩ := hs
    rw [Shape, (timestampMsOf_frame ts c).2.1, hsent]
    exact ⟨fun i b hb => (by cases hb), hseq, hcount, le_rfl, Nat.zero_le _, Nat.dvd_zero _⟩
  | check hpc =>
    rw [Shape, hpc] at hs
    exact hs
  | goOn ts hpc hrunning htime =>
    rw [Shape, hpc] at hs
    obtain ⟨hprobes, hseq, hcount, hburst⟩ := hs
    rw [Shape, (timestampMsOf_frame ts c).2.1]
    exact ⟨hprobes, hseq, 0, hcount, hburst⟩
  | stop ts hpc =>
    rw [Shape, hpc] at hs
    rw [Shape, (timestampMsOf_frame ts c).2.1]
    exact ⟨hs.1, hs.2.2.2⟩
  | next hpc hcount =>
    rw [Shape, hpc] at hs
    obtain ⟨hprobes, hseq, k, hk, hburst⟩ := hs
    have hk' : k < 2147483648 := lt_of_le_of_lt hburst.1 hlen
    rw [hk, burst_goes_on_iff k hk'] at hcount
    refine ⟨hprobes, ?_, congrArg _ hseq, k, congrArg (fun n => wrap32 (n+1)) hk, hcount, hburst⟩
    change wrap32 (s.server_seq_no+1) = _
    rw [hseq, wrap32_add_wrap32, add_assoc]
    rfl
  | sleep now hpc hcount =>
    rw [Shape, hpc] at hs
    obtain ⟨hprobes, hseq, k, hk, hburst⟩ := hs
    have hk' : k < 2147483648 := lt_of_le_of_lt hburst.1 hlen
    rw [hk, burst_goes_on_iff k hk'] at hcount
    exact ⟨hprobes, hseq, inBurst_whole k _ hburst (not_lt.mp hcount)⟩
  | create seq_num hpc =>
    rw [Shape, hpc] at hs
    exact hs
  | created seq_num ts hpc =>
    rw [Shape, hpc] at hs
    obtain ⟨hprobes, hseq, hnum, hburst⟩ := hs
    rw [Shape, (createPacket_frame seq_num ts c).2.1]
    exact ⟨hprobes, hseq, hnum ▸ isProbe_createPacket seq_num ts c, hburst⟩
  | sent message hpc =>
    rw [Shape, hpc] at hs
    obtain ⟨hprobes, hseq, hmessage, k, hk, hlt, hn, hle, hdvd⟩ := hs
    rw [List.length_append, List.length_singleton] at hlen
    refine ⟨probes_append c.sent message hprobes hmessage, ?_, k+1, ?_, ?_⟩
    · rw [List.length_append, List.length_singleton]
      exact hseq.trans (by push_cast; congr 1)
    · exact hk.trans (wrap32_of_range _ (by omega) (by omega))
    · rw [List.length_append, List.length_singleton]
      refine ⟨by omega, hlt, ?_⟩
      rw [show c.sent.length+1-(k+1) = c.sent.length-k by omega]
      exact hdvd
  | failed hpc => trivial
  | wake since hpc =>
    rw [Shape, hpc] at hs
    exact ⟨hs.1, hs.2.1, rfl, hs.2.2⟩
  | finish hpc =>
    rw [Shape, hpc] at hs
    exact hs
  | finished ts hpc =>
    rw [Shape, hpc] at hs
    rw [Shape, (createPacket_frame 0 ts c).2.1]
    exact ⟨c.sent, le_rfl, (List.append_nil _).symm, hs.1, hs.2, isProbe_createPacket 0 ts c⟩
  | terminated left message hpc =>
    rw [Shape, hpc] at hs
    obtain ⟨data, hleft, hsent, hdata⟩ := hs
    refine ⟨data, by omega, ?_, hdata⟩
    rw [hsent, List.append_assoc, ← List.replicate_succ',
      show terminators-(left+1)+1 = terminators-left by omega]
  | clear message hpc =>
    rw [Shape, hpc] at hs
    obtain ⟨data, -, hsent, hdata⟩ := hs
    exact ⟨data, message, hsent, hdata⟩

/-- What has been sent is in shape as long as an `int` can count it. -/
def InShape (N : Native) (pacing : Pacing) (u : Uplink) : Prop :=
  u.client.sent.length < 2147483648 → Shape N pacing u.sender u.client.sent

theorem inShape_step (u : Uplink) (e : UplinkEvent) (u' : Uplink)
    (h : uplinkStep N pacing u e = some u') (hu : InShape N pacing u) : InShape N pacing u' := by
  cases e with
  | sender =>
    obtain ⟨⟨s', c'⟩, hmove, rfl⟩ := Option.map_eq_some_iff.mp h
    have hmove := senderMove_of_step u.sender s' u.client c' hmove
    exact fun hlen => hmove.shape hlen (hu (lt_of_le_of_lt hmove.sent_mono hlen))
  | receiver =>
    obtain ⟨⟨r', socket', c'⟩, hmove, rfl⟩ := Option.map_eq_some_iff.mp h
    have hsent := (receiverMove_of_step u.receiver r' u.socket socket' u.client c' hmove).sent
    rw [InShape, ← hsent] at hu
    exact hu
  | deliver ack =>
    cases h
    exact hu
  | elapse ns =>
    cases h
    exact hu

/-- Whatever the receiving thread and the network do, what has been sent is in shape. -/
theorem uplink_shape (c : Client) (events : List UplinkEvent) (u : Uplink)
    (hrun : runEvents (uplinkStep N pacing) (Uplink.start c) events = some u) :
    InShape N pacing u :=
  runEvents_preserves (uplinkStep N pacing) (InShape N pacing) inShape_step events
    (Uplink.start c) u hrun fun _ => ⟨rfl, rfl, rfl⟩

end Sender

/-! The link. -/

/-- The sequence number of a datagram that has a header. -/
def number (host : ByteOrder) (b : Bytes) : Option ℕ :=
  match Packet.parse host b with
  | .ok p => some p.header.sequence_number.toNat
  | .error _ => none

/-- The number of the packet that an ack acknowledges. -/
def ackNumber (host : ByteOrder) (b : Bytes) : Option ℕ :=
  match Packet.parse host b with
  | .ok p => some p.header.ack_sequence_number.toNat
  | .error _ => none

/-- The ack `reply` tells the number, the time and the size of the packet `b`. -/
def Acknowledges (host : ByteOrder) (reply b : Bytes) : Prop :=
  ∃ p q : Packet, Packet.parse host b = .ok p ∧ Packet.parse host reply = .ok q ∧
    q.header.ack_sequence_number = p.header.sequence_number ∧
    q.header.ack_send_timestamp = p.header.send_timestamp ∧
      q.header.ack_payload_length.toNat = pktPayloadLen

section Link

variable {N M : Native} {data : List Bytes} {terminator : Bytes}

theorem number_isProbe (seq_num : UInt64) (b : Bytes) (h : IsProbe N.host seq_num b) :
    number M.host b = some seq_num.toNat := by
  obtain ⟨p, hp, hseq, -⟩ := h
  rw [number, packet_parse_host N.host M.host b p hp]
  exact congrArg (fun n : UInt64 => some n.toNat) hseq

theorem numbers_probes (h : Probes N.host data) (hlen : data.length < 2147483648) :
    data.map (number M.host) = (List.range' 1 data.length).map some := by
  apply List.ext_getElem?
  intro i
  rw [List.getElem?_map, List.getElem?_map]
  by_cases hi : i < data.length
  · rw [List.getElem?_eq_getElem hi, List.getElem?_range' hi, Option.map_some, Option.map_some,
      number_isProbe _ _ (h i _ (List.getElem?_eq_getElem hi)),
        wrap32_of_range _ (by omega) (by omega)]
    rw [show (i:ℤ)+1 = (i+1 : ℕ) from rfl, toNat_uint64OfInt (i+1) (by omega)]
    simp [Nat.add_comm]
  · rw [List.getElem?_eq_none (by omega), List.getElem?_eq_none (by rw [List.length_range']; omega)]
    rfl

/-- What arrives of data and terminators. -/
structure Arrival (data : List Bytes) (terminator : Bytes)
    (ds first second : List ReceivedDatagram) : Prop where
  split : ds = first ++ second
  first : (first.map (·.payload)).Sublist data
  second : ∀ d ∈ second, d.payload = terminator

theorem exists_arrival (ds : List ReceivedDatagram) (n : ℕ)
    (h : (ds.map (·.payload)).Sublist (data ++ List.replicate n terminator)) :
    ∃ first second, Arrival data terminator ds first second := by
  obtain ⟨l₁, l₂, hmap, h₁, h₂⟩ := List.sublist_append_iff.mp h
  obtain ⟨first, second, hsplit, rfl, rfl⟩ := List.map_eq_append_iff.mp hmap
  refine ⟨first, second, hsplit, h₁, ?_⟩
  intro d hd
  exact List.eq_of_mem_replicate (h₂.subset (List.mem_map_of_mem hd))

theorem sequenceNumber_eq (d : ReceivedDatagram) (n : UInt64) (h : IsProbe N.host n d.payload) :
    sequenceNumber M d = n := by
  obtain ⟨p, hp, hseq, -⟩ := h
  rw [sequenceNumber, packet_parse_host N.host M.host d.payload p hp]
  exact hseq

theorem sequenceNumber_data (hdata : Probes N.host data) (hlen : data.length < 2147483648)
    (d : ReceivedDatagram) (hd : d.payload ∈ data) : sequenceNumber M d ≠ 0 := by
  obtain ⟨i, hi, hb⟩ := List.mem_iff_getElem.mp hd
  rw [sequenceNumber_eq d _ (hdata i d.payload (hb ▸ List.getElem?_eq_getElem hi)),
    wrap32_of_range _ (by omega) (by omega), show (i:ℤ)+1 = (i+1 : ℕ) from rfl]
  intro hzero
  have htoNat := toNat_uint64OfInt (i+1) (by omega)
  rw [hzero] at htoNat
  exact absurd htoNat.symm (Nat.succ_ne_zero i)

/-- What arrives was made by the sender, so it has a header. -/
theorem Arrival.header {ds first second : List ReceivedDatagram}
    (h : Arrival data terminator ds first second)
    (hdata : Probes N.host data) (hterm : IsProbe N.host 0 terminator) :
    ∀ d ∈ ds, 48 ≤ d.payload.length := by
  intro d hd
  rw [h.split] at hd
  rcases List.mem_append.mp hd with hd | hd
  · obtain ⟨i, hi, hb⟩ := List.mem_iff_getElem.mp (h.first.subset (List.mem_map_of_mem hd))
    obtain ⟨p, hp, -⟩ := hdata i d.payload (hb ▸ List.getElem?_eq_getElem hi)
    exact (packet_toString_parse N.host d.payload p hp).1
  · obtain ⟨p, hp, -⟩ := h.second d hd ▸ hterm
    exact (packet_toString_parse N.host d.payload p hp).1

/-- The ack loop answers the data packets that arrive. -/
theorem Arrival.answered {ds first second : List ReceivedDatagram}
    (h : Arrival data terminator ds first second)
    (hdata : Probes N.host data) (hlen : data.length < 2147483648)
    (hterm : IsProbe N.host 0 terminator) :
    answered M ds = first ∧ answered M ds = ds.filter (fun d => sequenceNumber M d ≠ 0) := by
  have hfirst (d : ReceivedDatagram) (hd : d ∈ first) : decide (sequenceNumber M d ≠ 0) = true :=
    decide_eq_true (sequenceNumber_data hdata hlen d (h.first.subset (List.mem_map_of_mem hd)))
  have hsecond (d : ReceivedDatagram) (hd : d ∈ second) : ¬decide (sequenceNumber M d ≠ 0) =
      true := by
    rw [decide_eq_true_eq, not_not]
    exact sequenceNumber_eq d 0 (h.second d hd ▸ hterm)
  have htake : second.takeWhile (fun d => decide (sequenceNumber M d ≠ 0)) = [] := by
    cases second with
    | nil => rfl
    | cons d rest => exact List.takeWhile_cons_of_neg (hsecond d List.mem_cons_self)
  have hanswered : MmWaveTracker.answered M ds = first := by
    rw [MmWaveTracker.answered, h.split, List.takeWhile_append_of_pos hfirst, htake,
      List.append_nil]
  refine ⟨hanswered, ?_⟩
  rw [hanswered, h.split, List.filter_append, List.filter_eq_self.mpr hfirst,
    List.filter_eq_nil_iff.mpr hsecond, List.append_nil]

/-- A reply to a data packet acknowledges it. -/
theorem acknowledges_of_reply (hdata : Probes N.host data) (k : ℕ) (d : ReceivedDatagram)
    (reply : Bytes) (hd : d.payload ∈ data) (hreply : IsReply M k d reply) :
    Acknowledges N.host reply d.payload ∧ ackNumber N.host reply = number M.host d.payload := by
  obtain ⟨-, p, q, hp, hq, -, hack, hsend, -, hlength⟩ := hreply
  have hp' := packet_parse_host M.host N.host d.payload p hp
  have hq' := packet_parse_host M.host N.host reply q hq
  constructor
  · refine ⟨p, q, hp', hq', hack, hsend, ?_⟩
    obtain ⟨i, hi, hb⟩ := List.mem_iff_getElem.mp hd
    obtain ⟨p', hp'', -, hpayload⟩ := hdata i d.payload (hb ▸ List.getElem?_eq_getElem hi)
    have heq : p = p' := Except.ok.inj (hp'.symm.trans hp'')
    rw [hlength, ← (length_payload d.payload hp').2, heq, hpayload]
    exact List.length_replicate
  · rw [ackNumber, number, hq', hp]
    exact congrArg (fun n : UInt64 => some n.toNat) hack

/-- One reply to each of the data packets in `first`. -/
structure Replies (M : Native) (data : List Bytes) (first : List ReceivedDatagram)
    (replies : List Bytes) : Prop where
  data : (first.map (·.payload)).Sublist data
  length : replies.length = first.length
  reply : ∀ (i : ℕ) d reply, first[i]? = some d → replies[i]? = some reply → IsReply M (1+i) d reply

/-- The replies acknowledge the data packets that arrived, in order. -/
theorem Replies.ackNumbers {first : List ReceivedDatagram} {replies : List Bytes}
    (h : Replies M data first replies) (hdata : Probes N.host data) :
    replies.map (ackNumber N.host) = first.map fun d => number M.host d.payload := by
  apply List.ext_getElem
  · rw [List.length_map, List.length_map, h.length]
  · intro i hi hi'
    rw [List.getElem_map, List.getElem_map]
    rw [List.length_map] at hi hi'
    have hreply := h.reply i first[i] replies[i] (List.getElem?_eq_getElem hi')
      (List.getElem?_eq_getElem hi)
    have hmem := h.data.subset (List.mem_map_of_mem (List.getElem_mem hi'))
    exact (acknowledges_of_reply hdata _ _ _ hmem hreply).2

/-- The numbers of the acks that come through are some of 1, 2, ..., in order. -/
theorem Replies.increasing {first : List ReceivedDatagram} {replies acks : List Bytes}
    (h : Replies M data first replies) (hdata : Probes N.host data)
    (hlen : data.length < 2147483648) (hacks : acks.Sublist replies) :
    ∃ numbers : List ℕ, acks.map (ackNumber N.host) = numbers.map some ∧
      numbers.Pairwise (· < ·) := by
  have hfirst := h.data.map (number M.host)
  rw [List.map_map, numbers_probes hdata hlen] at hfirst
  have hsub := hacks.map (ackNumber N.host)
  rw [h.ackNumbers hdata] at hsub
  obtain ⟨numbers, hnumbers, heq⟩ := List.sublist_map_iff.mp (hsub.trans hfirst)
  exact ⟨numbers, heq, (List.pairwise_lt_range').sublist hnumbers⟩

theorem Replies.genuine {first : List ReceivedDatagram} {replies acks : List Bytes}
    (h : Replies M data first replies) (hdata : Probes N.host data) (hacks : acks.Sublist replies) :
    ∀ ack ∈ acks, ∃ b ∈ data, Acknowledges N.host ack b := by
  intro ack hack
  obtain ⟨i, hi, hreply⟩ := List.mem_iff_getElem.mp (hacks.subset hack)
  have hi' : i < first.length := h.length ▸ hi
  have hmem : first[i].payload ∈ data := h.data.subset (List.mem_map_of_mem (List.getElem_mem hi'))
  have hisreply := h.reply i first[i] ack (List.getElem?_eq_getElem hi')
    (hreply ▸ List.getElem?_eq_getElem hi)
  exact ⟨first[i].payload, hmem, (acknowledges_of_reply hdata _ _ ack hmem hisreply).1⟩

end Link

/-- Sender and ack loop agree on what was probed, whatever the link loses. -/
theorem sender_acker_agree (N M : Native) (pacing : Pacing) (c a : Client)
    (events : List UplinkEvent) (u : Uplink)
    (hrun : runEvents (uplinkStep N pacing) (Uplink.start c) events = some u)
    (hreturned : u.sender.pc = .returned)
    (hcount : u.client.sent.length < 2147483648) (hsend : ∀ n, M.sends n = true)
    (ds : List ReceivedDatagram)
    (hlink : (ds.map (·.payload)).Sublist u.client.sent)
    (hlast : ∃ d ∈ ds, sequenceNumber M d = 0) :
    ∃ data terminator rows replies,
      u.client.sent = data ++ List.replicate 5 terminator ∧
      data.map (number N.host) = (List.range' 1 data.length).map some ∧
        number N.host terminator = some 0 ∧
      pacing.pkts_to_send.toNat ∣ data.length ∧
      (recvPacketsAndSendAck M arrived ds 1 a).1 = .returned ∧
      (recvPacketsAndSendAck M arrived ds 1 a).2.log = a.log ++ rows ∧
      List.Forall₂ (IsRow M) (logged M ds) rows ∧
      (recvPacketsAndSendAck M arrived ds 1 a).2.sent = a.sent ++ replies ∧
      answered M ds = ds.filter (fun d => sequenceNumber M d ≠ 0) ∧
        replies.length = (answered M ds).length ∧
      (∀ i d reply, (answered M ds)[i]? = some d → replies[i]? = some reply →
        IsReply M (i+1) d reply) ∧
      ∀ acks : List Bytes, acks.Sublist replies →
        (∃ numbers : List ℕ, acks.map (ackNumber N.host) = numbers.map some ∧
          numbers.Pairwise (· < ·)) ∧
        ∀ ack ∈ acks, ∃ b ∈ data, Acknowledges N.host ack b := by
  have hshape := uplink_shape c events u hrun hcount
  rw [Shape, hreturned] at hshape
  obtain ⟨data, terminator, hsent, hdata, hburst, hterm⟩ := hshape
  rw [hsent, List.length_append] at hcount
  rw [hsent] at hlink
  have hdatalen : data.length < 2147483648 := lt_of_le_of_lt (Nat.le_add_right _ _) hcount
  have hdslen : ds.length < 2147483648 := by
    have hle := hlink.length_le
    rw [List.length_map, List.length_append] at hle
    exact lt_of_le_of_lt hle hcount
  obtain ⟨first, second, harrival⟩ := exists_arrival ds _ hlink
  obtain ⟨hanswered, hfilter⟩ := harrival.answered (M := M) hdata hdatalen hterm
  obtain ⟨rows, replies, h⟩ :=
    exists_transcript hsend ds (harrival.header hdata hterm) 1 1 a (fun _ => rfl) (by omega)
  have hreplies : Replies M data first replies :=
    ⟨harrival.first, hanswered ▸ h.length, hanswered ▸ h.reply⟩
  refine ⟨data, terminator, rows, replies, hsent, numbers_probes hdata hdatalen,
    number_isProbe 0 terminator hterm, hburst.2.2, h.exit.trans (if_pos hlast), h.log, h.rows,
      h.sent, hfilter, h.length, ?_, ?_⟩
  · intro i d reply hd hr
    rw [Nat.add_comm]
    exact h.reply i d reply hd hr
  · intro acks hacks
    exact ⟨hreplies.increasing hdata hdatalen hacks, hreplies.genuine hdata hacks⟩

/-- A clock that stands still until the first packet is out. -/
def startledClock : Native where
  host := .little
  clock := fun n => if n < 4 then .zero else ⟨1, 0, Timespec.zero.nsec_lt, by decide⟩
  sends := fun _ => true

/-- One packet at a time, for no time. -/
def onePacket : Pacing where
  milliseconds_to_sleep := 1
  pkts_to_send := 1
  duration := 0

def onePacketEvents : List UplinkEvent :=
  List.replicate 9 .sender ++ .elapse 1000000 :: List.replicate 11 .sender

theorem onePacketEvents_run :
    (runEvents (uplinkStep startledClock onePacket) (Uplink.start {}) onePacketEvents).isSome =
      true := by
  decide +kernel

def onePacketRun : Uplink := Option.get _ onePacketEvents_run

/-- Everything that was sent arrives. -/
def onePacketArrivals : List ReceivedDatagram :=
  onePacketRun.client.sent.pmap (fun b h => ⟨5, b, h⟩) (by decide +kernel)

theorem sender_acker_agree_one_packet : onePacketRun.client.sent.length = 6 ∧
    (recvPacketsAndSendAck stoppedClock arrived onePacketArrivals 1 {}).1 = .returned := by
  have hrun : runEvents (uplinkStep startledClock onePacket) (Uplink.start {}) onePacketEvents =
      some onePacketRun :=
    (Option.some_get _).symm
  have harrive : onePacketArrivals.map (·.payload) = onePacketRun.client.sent := by
    rw [onePacketArrivals, List.map_pmap, List.pmap_eq_map, List.map_id']
  have hlast : ∃ d ∈ onePacketArrivals, sequenceNumber stoppedClock d = 0 := by decide +kernel
  have hcount : onePacketRun.client.sent.length = 6 := by decide +kernel
  obtain ⟨data, terminator, rows, replies, -, -, -, -, hexit, -⟩ :=
    sender_acker_agree startledClock stoppedClock
    onePacket {} {} onePacketEvents onePacketRun hrun rfl (by omega)
      (fun _ => rfl) onePacketArrivals
    (harrive ▸ List.Sublist.refl _) hlast
  exact ⟨hcount, hexit⟩

end MmWaveTracker
