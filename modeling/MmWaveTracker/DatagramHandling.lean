import MmWaveTracker.RelativeTime

/-! What the network can do to the UDP client: every outcome of `recvmsg`, followed through
the two loops that read the socket, and the replies that one of them sends. -/
namespace MmWaveTracker

/-- An outcome that one of the tests in `recv_packet` is for, or a whole packet. -/
def Foreseen : RecvMsg → Prop
  | .failed eagain => eagain = true
  | .datagram payload msg_flags _ _ => msg_flags = 0 → sizeofHeader ≤ payload.length

/-- `recv_packet` and the constructor of `Packet` give a packet of exactly the bytes received,
or end the thread. -/
def Contained (N : Native) (msg : RecvMsg) (c : Client) : Prop :=
  (receive N msg c).1 = .ended .exited ∨
  ∃ payload msg_flags stamps h p timestamp, msg = .datagram payload msg_flags stamps h ∧
    (receive N msg c).1 = .logging p timestamp ∧ p.toString N.host = payload

/-! One outcome. -/

section Outcome

variable {N : Native}

/-- What the two of them can do. -/
theorem receive_cases (msg : RecvMsg) (c : Client) :
    (Foreseen msg ∧ receive N msg c = (.ended .exited, c)) ∨
    (Foreseen msg ∧ ∃ payload stamps h p, msg = .datagram payload 0 stamps h ∧
      p.toString N.host = payload ∧
        receive N msg c = (.logging p (kernelTimestamp N stamps uint64Minus1 c).1,
        (kernelTimestamp N stamps uint64Minus1 c).2)) ∨
    (¬Foreseen msg ∧ ∃ what, (receive N msg c).1 = .ended (.uncaught what)) := by
  cases msg with
  | failed eagain =>
    cases eagain with
    | true => exact .inl ⟨rfl, rfl⟩
    | false => exact .inr (.inr ⟨Bool.false_ne_true, _, rfl⟩)
  | datagram payload msg_flags stamps h =>
    by_cases hflags : msg_flags = 0
    · subst hflags
      by_cases hlen : sizeofHeader ≤ payload.length
      · obtain ⟨p, hstr⟩ := exists_packet_toString N.host payload hlen
        have hp : Packet.parse N.host payload = .ok p := by rw [← hstr, packet_parse_toString]
        refine .inr (.inl ⟨fun _ => hlen, payload, stamps, h, p, rfl, hstr, ?_⟩)
        simp [receive, recvPacket, hp]
      · refine .inr (.inr ⟨fun hforeseen => hlen (hforeseen rfl), packetTooSmall, ?_⟩)
        simp [receive, recvPacket, packet_parse_short N.host payload (not_le.mp hlen)]
    · exact .inl ⟨fun hzero => absurd hzero hflags, by simp [receive, recvPacket, hflags]⟩

theorem contained_iff (msg : RecvMsg) (c : Client) : Contained N msg c ↔ Foreseen msg := by
  rcases receive_cases (N := N) msg c with
    ⟨hforeseen, heq⟩ | ⟨hforeseen, payload, stamps, h, p, hmsg, hstr, heq⟩ | ⟨hforeseen, what, heq⟩
  · exact iff_of_true (.inl (by rw [heq])) hforeseen
  · exact iff_of_true (.inr ⟨payload, 0, stamps, h, p, _, hmsg, by rw [heq], hstr⟩) hforeseen
  · refine iff_of_false ?_ hforeseen
    rintro (hexited | ⟨_, _, _, _, _, _, -, hlogging, -⟩)
    · rw [heq] at hexited
      cases hexited
    · rw [heq] at hlogging
      cases hlogging

theorem receive_uncaught_iff (msg : RecvMsg) (c : Client) :
    (∀ what, (receive N msg c).1 ≠ .ended (.uncaught what)) ↔ Foreseen msg := by
  rcases receive_cases (N := N) msg c with
    ⟨hforeseen, heq⟩ | ⟨hforeseen, _, _, _, _, _, _, heq⟩ | ⟨hforeseen, what, heq⟩
  · exact iff_of_true (fun what h => by rw [heq] at h; cases h) hforeseen
  · exact iff_of_true (fun what h => by rw [heq] at h; cases h) hforeseen
  · exact iff_of_false (fun h => h what heq) hforeseen

end Outcome

/-! The loop `recv_packets_and_send_ack`. -/

section Downlink

variable {N : Native}

/-- A turn of the loop ends in an exception exactly if the packet cannot be made. -/
theorem turn_uncaught_iff (msg : RecvMsg) (client_seq_no : ℤ) (c : Client) :
    (∀ what, (recvPacketsAndSendAck N (recvPacket N) [msg] client_seq_no c).1 ≠ .uncaught what) ↔
      Foreseen msg := by
  rw [← receive_uncaught_iff (N := N) msg c, receive, recvPacketsAndSendAck]
  rcases recvPacket_cases (N := N) msg c with ⟨e, hrecv, -⟩ | ⟨payload, stamps, h, -, hrecv⟩
  · simp [hrecv]
  · simp only [hrecv]
    cases Packet.parse N.host payload with
    | error what => simp
    | ok p =>
      dsimp only
      refine iff_of_true (fun what => ?_) (fun what h => by cases h)
      split_ifs
      · exact fun h => by cases h
      · split
        · exact fun h => by cases h
        · exact fun h => by cases h

/-- The loop takes its messages one turn after the other, until it ends. -/
theorem recvPacketsAndSendAck_taken (msgs : List RecvMsg) (d : Downlink)
    (hwaiting : d.exit = .waiting) :
    ∃ d', runEvents (downlinkStep N) d (taken (downlinkStep N) d msgs) = some d' ∧
      recvPacketsAndSendAck N (recvPacket N) msgs d.client_seq_no d.client = (d'.exit,
        d'.client) := by
  induction msgs generalizing d with
  | nil => exact ⟨d, rfl, by rw [hwaiting]; rfl⟩
  | cons msg rest ih =>
    obtain ⟨d₁, hstep⟩ : ∃ d₁, downlinkStep N d msg = some d₁ := ⟨_, if_pos hwaiting⟩
    obtain ⟨hturn, hseq⟩ := downlinkStep_turn msg d d₁ hstep
    rw [recvPacketsAndSendAck_turn, hturn, taken, hstep]
    dsimp only
    rw [runEvents, hstep]
    dsimp only [Option.bind_some]
    split_ifs with hexit
    · rw [← hseq]
      exact ih d₁ hexit
    · refine ⟨d₁, ?_, rfl⟩
      cases rest with
      | nil => rfl
      | cons msg' rest => rw [taken, downlinkStep, if_neg hexit, runEvents]

theorem downlink_uncaught_iff (msgs : List RecvMsg) (d d' : Downlink) (hwaiting : d.exit = .waiting)
    (hrun : runEvents (downlinkStep N) d msgs = some d') :
    (∀ what, d'.exit ≠ .uncaught what) ↔ ∀ msg ∈ msgs, Foreseen msg := by
  induction msgs generalizing d with
  | nil =>
    cases hrun
    exact iff_of_true (fun what h => by rw [hwaiting] at h; cases h) (fun _ h => by cases h)
  | cons msg rest ih =>
    obtain ⟨d₁, hstep, hrest⟩ := runEvents_cons (downlinkStep N) d d' msg rest hrun
    obtain ⟨hturn, -⟩ := downlinkStep_turn msg d d₁ hstep
    have hfirst := turn_uncaught_iff (N := N) msg d.client_seq_no d.client
    rw [hturn] at hfirst
    rw [List.forall_mem_cons, ← hfirst]
    by_cases hexit : d₁.exit = .waiting
    · rw [ih d₁ hexit hrest, iff_and_self]
      intro _ what
      dsimp only
      rw [hexit]
      exact fun h => by cases h
    · cases rest with
      | nil =>
        cases hrest
        exact ⟨fun h => ⟨h, fun _ hmem => by cases hmem⟩, fun h => h.1⟩
      | cons msg' rest =>
        rw [runEvents, downlinkStep, if_neg hexit] at hrest
        cases hrest

end Downlink

/-! The loop `recv_udp_packets`, beside the thread that sends. -/

/-- The two threads of an uplink run, whatever `recvmsg` gives. -/
structure OpenUplink where
  client : Client
  sender : Sender := {}
  receiver : ReceiverPc := .starting

def OpenUplink.start (c : Client) : OpenUplink where
  client := { c with senderRunning := true }

/-- A turn of one of the threads, or a return of `recvmsg`. -/
inductive OpenUplinkEvent where
  | sender (now : ℕ)
  | receiver (now : ℕ)
  | recvmsg (msg : RecvMsg)

def openUplinkStep (N : Native) (pacing : Pacing) (u : OpenUplink) :
    OpenUplinkEvent → Option OpenUplink
  | .sender now =>
    (senderStep N pacing now u.sender u.client).map fun (sender, client) =>
    { u with sender, client }
  | .receiver now =>
    match u.receiver with
    | .starting => some { u with receiver := .testing }
    | .testing => some { u with
        receiver := if u.client.senderRunning then .receiving now else .ended .returned }
    | .receiving _ => none
    | .logging packet timestamp =>
        some { u with receiver := .testing, client := logPacket N packet timestamp u.client }
    | .ended _ => none
  | .recvmsg msg =>
    match u.receiver with
    | .receiving _ =>
      let (receiver, client) := receive N msg u.client
      some { u with receiver, client }
    | _ => none

/-- The outcome that a step gets, if it gets one, is handled. -/
def OutcomeContained (N : Native) (u : OpenUplink) : OpenUplinkEvent → Prop
  | .recvmsg msg => Contained N msg u.client
  | _ => True

def OutcomeForeseen : OpenUplinkEvent → Prop
  | .recvmsg msg => Foreseen msg
  | _ => True

/-- No exception has left the receiving thread. -/
def OpenUplink.Caught (u : OpenUplink) : Prop := ∀ what, u.receiver ≠ .ended (.uncaught what)

section OpenUplink

variable {N : Native} {pacing : Pacing}

theorem outcomeContained_iff (u : OpenUplink) (e : OpenUplinkEvent) :
    OutcomeContained N u e ↔ OutcomeForeseen e := by
  cases e with
  | recvmsg msg => exact contained_iff msg u.client
  | _ => exact Iff.rfl

theorem caught_step_iff (u u' : OpenUplink) (e : OpenUplinkEvent)
    (hstep : openUplinkStep N pacing u e = some u') (h : u.Caught) :
    u'.Caught ↔ OutcomeForeseen e := by
  cases e with
  | sender now =>
    obtain ⟨_, -, rfl⟩ := Option.map_eq_some_iff.mp hstep
    exact iff_of_true h trivial
  | receiver now =>
    refine iff_of_true (fun what huncaught => ?_) trivial
    simp only [openUplinkStep] at hstep
    cases hpc : u.receiver with
    | starting =>
      rw [hpc] at hstep
      cases hstep
      cases huncaught
    | testing =>
      rw [hpc] at hstep
      cases hstep
      dsimp only at huncaught
      split_ifs at huncaught
      cases huncaught
    | logging packet timestamp =>
      rw [hpc] at hstep
      cases hstep
      cases huncaught
    | receiving since =>
      rw [hpc] at hstep
      cases hstep
    | ended exit =>
      rw [hpc] at hstep
      cases hstep
  | recvmsg msg =>
    simp only [openUplinkStep] at hstep
    split at hstep
    · cases hstep
      exact receive_uncaught_iff msg u.client
    · cases hstep

theorem openUplink_caught_iff (events : List OpenUplinkEvent) (u u' : OpenUplink)
    (hrun : runEvents (openUplinkStep N pacing) u events = some u') (h : u.Caught) :
    Throughout (openUplinkStep N pacing) OpenUplink.Caught u events ↔
      ∀ e ∈ events, OutcomeForeseen e := by
  rw [← along_iff_forall (openUplinkStep N pacing) (fun _ => OutcomeForeseen) _
    (fun _ _ => Iff.rfl) events u u' hrun]
  apply throughout_iff_along (openUplinkStep N pacing) _ OpenUplink.Caught OpenUplink.Caught _
    (fun _ h => h) _ events u u' hrun h
  · exact fun u e u' hok hstep h => (caught_step_iff u u' e hstep h).mpr hok
  · exact fun u e u' hno hstep h hcaught => hno ((caught_step_iff u u' e hstep h).mp hcaught)

end OpenUplink

/-- In both loops, the outcomes read from the socket are handled, and no exception escapes,
exactly if each of them is foreseen. -/
theorem outcomes_handled_iff (N : Native) (c : Client) :
    (∀ msgs, (∀ what, (recvPacketsAndSendAck N (recvPacket N) msgs 1 c).1 ≠ .uncaught what) ∧
        Along (downlinkStep N) (fun d msg => Contained N msg d.client) { client := c }
          (taken (downlinkStep N) { client := c } msgs) ↔
      ∀ msg ∈ taken (downlinkStep N) { client := c } msgs, Foreseen msg) ∧
    ∀ pacing events u, runEvents (openUplinkStep N pacing) (.start c) events = some u →
      (Throughout (openUplinkStep N pacing) OpenUplink.Caught (.start c) events ∧
          Along (openUplinkStep N pacing) (OutcomeContained N) (.start c) events ↔
        ∀ e ∈ events, OutcomeForeseen e) := by
  constructor
  · intro msgs
    obtain ⟨d, hrun, hloop⟩ := recvPacketsAndSendAck_taken (N := N) msgs { client := c } rfl
    have hcaught := downlink_uncaught_iff _ { client := c } d rfl hrun
    have hcontained := along_iff_forall (downlinkStep N)
      (fun d msg => Contained N msg d.client) Foreseen (fun d msg => contained_iff msg d.client) _
        { client := c } d hrun
    rw [hloop, hcaught, hcontained, and_self_iff]
  · intro pacing events u hrun
    have hcontained := along_iff_forall (openUplinkStep N pacing)
      (OutcomeContained N) OutcomeForeseen outcomeContained_iff events _ u hrun
    rw [openUplink_caught_iff events _ u hrun (fun what h => by cases h), hcontained, and_self_iff]

theorem outcomes_handled_timeout :
    ∃ u, runEvents (openUplinkStep stoppedClock ⟨0, 0, 0⟩) (.start {}) [.receiver 0, .receiver 0,
        .recvmsg (.failed true)] = some u ∧
      Throughout (openUplinkStep stoppedClock ⟨0, 0, 0⟩) OpenUplink.Caught (.start {})
        [.receiver 0, .receiver 0, .recvmsg (.failed true)] := by
  refine ⟨_, rfl, (((outcomes_handled_iff stoppedClock {}).2 ⟨0, 0, 0⟩ _ _ rfl).mpr ?_).1⟩
  intro e he
  simp only [List.mem_cons, List.not_mem_nil, or_false] at he
  rcases he with rfl | rfl | rfl
  · exact trivial
  · exact trivial
  · exact rfl

/-- A broken connection and an empty datagram each end the client, in either loop. -/
theorem outcomes_not_handled :
    (recvPacketsAndSendAck stoppedClock (recvPacket stoppedClock) [.failed false] 1 {}).1 =
      .uncaught "basic_string" ∧
    (recvPacketsAndSendAck stoppedClock (recvPacket stoppedClock)
      [.datagram [] 0 [] (Nat.zero_le _)] 1 {}).1 = .uncaught packetTooSmall ∧
    ∀ msg ∈ [RecvMsg.failed false, .datagram [] 0 [] (Nat.zero_le _)],
      ∃ u, runEvents (openUplinkStep stoppedClock ⟨0, 0, 0⟩) (.start {}) [.receiver 0, .receiver 0,
        .recvmsg msg] = some u ∧ ¬u.Caught := by
  refine ⟨rfl, rfl, ?_⟩
  intro msg hmsg
  simp only [List.mem_cons, List.not_mem_nil, or_false] at hmsg
  rcases hmsg with rfl | rfl
  · exact ⟨_, rfl, fun hcaught => hcaught "basic_string" rfl⟩
  · exact ⟨_, rfl, fun hcaught => hcaught packetTooSmall rfl⟩

/-! The replies. -/

/-- The packet in a message, when the loop makes one of it. -/
def packetOf (N : Native) : RecvMsg → Option Packet
  | .datagram payload 0 _ _ => (Packet.parse N.host payload).toOption
  | _ => none

/-- The loop answers the packet: it is not the terminator, and `sendto` takes the reply. -/
def RepliedTo (N : Native) (d : Downlink) (msg : RecvMsg) (p : Packet) : Prop :=
  packetOf N msg = some p ∧ p.header.sequence_number ≠ 0 ∧ N.sends d.client.sent.length = true

/-- The bytes are those of a packet for which `is_ack` holds. -/
def ParsesToAck (host : ByteOrder) (b : Bytes) : Prop :=
  ∃ q, Packet.parse host b = .ok q ∧ q.isAck = true

/-- A sequence number that can stand in an ack. -/
def Acknowledgeable (N : Native) (d : Downlink) (msg : RecvMsg) : Prop :=
  ∀ p, RepliedTo N d msg p → p.header.sequence_number ≠ uint64Minus1

section Replies

variable {N : Native}

theorem parsesToAck_iff (q : Packet) : ParsesToAck N.host (q.toString N.host) ↔
    q.header.ack_sequence_number ≠ uint64Minus1 := by
  constructor
  · rintro ⟨q', hparse, hack⟩
    rw [packet_parse_toString] at hparse
    cases hparse
    exact of_decide_eq_true hack
  · exact fun h => ⟨q, packet_parse_toString N.host q, decide_eq_true h⟩

theorem packetOf_eq_some (msg : RecvMsg) (p : Packet) (h : packetOf N msg = some p) :
    ∃ payload stamps hle, msg = .datagram payload 0 stamps hle ∧
      Packet.parse N.host payload = .ok p := by
  unfold packetOf at h
  split at h
  case h_1 payload stamps hle =>
    refine ⟨payload, stamps, hle, rfl, ?_⟩
    cases hp : Packet.parse N.host payload with
    | error what =>
      rw [hp] at h
      cases h
    | ok p' =>
      rw [hp] at h
      cases h
      rfl
  case h_2 => cases h

/-- What is sent in the turn that gets the packet `p`. -/
theorem turn_sent (payload : Bytes) (stamps : List Timespec) (h : payload.length ≤ recvBufferLen)
    (client_seq_no : ℤ) (c : Client) (p : Packet) (hp : Packet.parse N.host payload = .ok p) :
    ∃ q : Packet, q.header.ack_sequence_number = p.header.sequence_number ∧
      (recvPacketsAndSendAck N (recvPacket N) [.datagram payload 0 stamps h] client_seq_no
        c).2.sent = if p.header.sequence_number ≠ 0 ∧
          N.sends c.sent.length = true then c.sent ++ [q.toString N.host] else c.sent := by
  have hrecv : recvPacket N (.datagram payload 0 stamps h) c =
      (.ok ⟨(kernelTimestamp N stamps uint64Minus1 c).1, payload, h⟩,
      (kernelTimestamp N stamps uint64Minus1 c).2) := by simp [recvPacket]
  have hframe := (kernelTimestamp_frame (N := N) stamps uint64Minus1 c).2
  generalize kernelTimestamp N stamps uint64Minus1 c = stamped at hrecv hframe
  let reply := (p.transformIntoAck (uint64OfInt client_seq_no) stamped.1).setSendTimestamp N
    (logPacket N p stamped.1 stamped.2)
  have hsent : reply.2.sent = c.sent := by
    rw [← hframe]
    exact (timestampMs_frame (logPacket N p stamped.1 stamped.2)).2.1
  refine ⟨reply.1, rfl, ?_⟩
  rw [recvPacketsAndSendAck, hrecv]
  simp only [hp, uint64_le_zero_iff]
  by_cases hseq : p.header.sequence_number = 0
  · rw [if_pos hseq, if_neg fun hand => hand.1 hseq]
    exact hframe
  · rw [if_neg hseq]
    rcases sendPacket_cases (N := N) (reply.1.toString N.host) reply.2 with hsend | hsend
    all_goals rw [show sendPacket N _ _ = _ from hsend]
    all_goals rw [sendPacket, hsent] at hsend
    · have hsends : N.sends c.sent.length = true := by
        by_contra hno
        rw [if_neg hno] at hsend
        cases hsend
      rw [if_pos ⟨hseq, hsends⟩, ← hsent]
      rfl
    · have hsends : ¬N.sends c.sent.length = true := by
        intro hyes
        rw [if_pos hyes] at hsend
        cases hsend
      rw [if_neg fun hand => hsends hand.2]
      exact hsent

/-- A turn of the loop sends the ack of the packet that it answers, and nothing else. -/
theorem downlinkStep_sent (msg : RecvMsg) (d d' : Downlink)
    (hstep : downlinkStep N d msg = some d') :
    ((∀ p, ¬RepliedTo N d msg p) ∧ d'.client.sent = d.client.sent) ∨
    ∃ p q, RepliedTo N d msg p ∧ d'.client.sent = d.client.sent ++ [Packet.toString N.host q] ∧
      q.header.ack_sequence_number = p.header.sequence_number := by
  obtain ⟨hturn, -⟩ := downlinkStep_turn msg d d' hstep
  have hclient : d'.client =
      (recvPacketsAndSendAck N (recvPacket N) [msg] d.client_seq_no d.client).2 := by rw [hturn]
  cases hpacket : packetOf N msg with
  | some p =>
    obtain ⟨payload, stamps, h, rfl, hp⟩ := packetOf_eq_some msg p hpacket
    obtain ⟨q, hack, hsent⟩ := turn_sent payload stamps h d.client_seq_no d.client p hp
    rw [hclient, hsent]
    split_ifs with hand
    · exact .inr ⟨p, q, ⟨hpacket, hand.1, hand.2⟩, rfl, hack⟩
    · refine .inl ⟨fun p' hreplied => hand ?_, rfl⟩
      obtain rfl := Option.some.inj (hpacket.symm.trans hreplied.1)
      exact hreplied.2
  | none =>
    refine .inl ⟨fun p hreplied => Option.some_ne_none p (hreplied.1.symm.trans hpacket), ?_⟩
    rw [hclient, recvPacketsAndSendAck]
    rcases recvPacket_cases (N := N) msg d.client with
      ⟨e, hrecv, -, -⟩ | ⟨payload, stamps, h, rfl, hrecv⟩
    · rw [hrecv]
    · rw [hrecv]
      dsimp only
      cases hp : Packet.parse N.host payload with
      | error what => exact (kernelTimestamp_frame stamps uint64Minus1 d.client).2
      | ok p =>
        rw [packetOf, hp] at hpacket
        cases hpacket

theorem downlink_replies (msgs : List RecvMsg) (d d' : Downlink)
    (hrun : runEvents (downlinkStep N) d msgs = some d') :
    ∃ replies, d'.client.sent = d.client.sent ++ replies ∧
      ((∀ reply ∈ replies, ParsesToAck N.host reply) ↔
        Along (downlinkStep N) (Acknowledgeable N) d msgs) := by
  induction msgs generalizing d with
  | nil =>
    cases hrun
    exact ⟨[], (List.append_nil _).symm, iff_of_true (fun _ h => by cases h) trivial⟩
  | cons msg rest ih =>
    obtain ⟨d₁, hstep, hrest⟩ := runEvents_cons (downlinkStep N) d d' msg rest hrun
    obtain ⟨replies, hsent, hiff⟩ := ih d₁ hrest
    rw [← along_cons_iff (downlinkStep N) _ d d₁ msg rest hstep, ← hiff, hsent]
    rcases downlinkStep_sent msg d d₁ hstep with ⟨hno, hsent₁⟩ | ⟨p, q, hreplied, hsent₁, hack⟩
    · rw [hsent₁]
      refine ⟨replies, rfl, (and_iff_right ?_).symm⟩
      exact fun p hp => absurd hp (hno p)
    · rw [hsent₁, List.append_assoc]
      refine ⟨q.toString N.host :: replies, rfl, ?_⟩
      rw [List.forall_mem_cons, parsesToAck_iff, hack]
      refine and_congr_left' ⟨fun hne p' hp' => ?_, fun h => h p hreplied⟩
      obtain rfl := Option.some.inj (hreplied.1.symm.trans hp'.1)
      exact hne

end Replies

/-- The replies of a run are all told from data packets exactly if none of the packets answered
has the number that stands for no ack; a packet of `create_packet` never is an ack. -/
theorem replies_are_acks_iff (N : Native) (c : Client) :
    (∀ msgs, ∃ replies, (recvPacketsAndSendAck N (recvPacket N) msgs 1 c).2.sent =
      c.sent ++ replies ∧ ((∀ reply ∈ replies, ParsesToAck N.host reply) ↔
        Along (downlinkStep N) (Acknowledgeable N)
          { client := c } (taken (downlinkStep N) { client := c } msgs))) ∧
    ∀ seq_num ts, ∃ q, Packet.parse N.host (createPacket N seq_num ts c).1 = .ok q ∧
      q.isAck = false := by
  constructor
  · intro msgs
    obtain ⟨d, hrun, hloop⟩ := recvPacketsAndSendAck_taken (N := N) msgs { client := c } rfl
    rw [hloop]
    exact downlink_replies _ { client := c } d hrun
  · intro seq_num ts
    exact ⟨_, packet_parse_toString N.host _, rfl⟩

/-- The reply to a packet with the largest number is taken for a data packet. -/
theorem reply_not_ack : (recvPacketsAndSendAck stoppedClock (recvPacket stoppedClock)
      [.datagram (List.replicate 48 255) 0 [] (length_replicate_le 255)] 1 {}).2.sent.map
        (fun reply => (Packet.parse stoppedClock.host reply).toOption.map Packet.isAck) =
          [some false] := by
  decide +kernel

end MmWaveTracker
