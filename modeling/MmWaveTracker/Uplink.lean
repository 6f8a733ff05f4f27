import MmWaveTracker.AckLoop
import MmWaveTracker.EventRun

/-! An uplink run of the UDP probe: the threads `send_udp_packets` and `recv_udp_packets`
of one client, interleaved step by step, and the acks that reach its socket. -/
namespace MmWaveTracker

/-- The globals that `run_client` sets before it starts the threads. -/
structure Pacing where
  milliseconds_to_sleep : UInt64
  pkts_to_send : UInt64
  duration : UInt64

/-! The sending thread. -/

def pktPayloadLen : ℕ := 1200

/-- `dummy_payload`: 'x' everywhere. -/
def dummyPayload : Bytes := List.replicate pktPayloadLen 120

/-- `Packet::Packet(const uint64_t, std::string)`. -/
def Packet.new (s_sequence_number : UInt64) (s_payload : Bytes) : Packet where
  header :=
    { sequence_number := s_sequence_number
      send_timestamp := uint64Minus1
      ack_sequence_number := uint64Minus1
      ack_send_timestamp := uint64Minus1
      ack_recv_timestamp := uint64Minus1
      ack_payload_length := uint64Minus1 }
  payload := s_payload

/-- `create_packet`, from where `set_send_timestamp` has read the clock. -/
def createPacket (N : Native) (seq_num : UInt64) (ts : Timespec) (c : Client) : Bytes × Client :=
  let packet := Packet.new seq_num dummyPayload
  let (send_timestamp, c) := timestampMsOf N ts c
  (Packet.toString N.host { packet with header := { packet.header with send_timestamp } }, c)

/-- Where `send_udp_packets` stands. A call of `timestamp_ms()` takes two steps: the
argument is read from the clock before `EPOCH` is looked at. -/
inductive SenderPc where
  | starting
  | startingAt (ts : Timespec)
  | checking
  | checkingAt (ts : Timespec)
  | bursting
  | creating (seq_num : UInt64)
  | creatingAt (seq_num : UInt64) (ts : Timespec)
  | sending (message : Bytes)
  | sleeping (since : ℕ)
  | finishing
  | finishingAt (ts : Timespec)
  | terminating (left : ℕ) (message : Bytes)
  | returned
  | exited

structure Sender where
  pc : SenderPc := .starting
  server_seq_no : ℤ := 1
  count : ℤ := 0
  start_time_ms : UInt64 := 0

/-- The last packet is sent a few times just in case. -/
def terminators : ℕ := 5

def senderStep (N : Native) (pacing : Pacing) (now : ℕ) (s : Sender) (c : Client) :
    Option (Sender × Client) :=
  match s.pc with
  | .starting =>
    let (ts, c) := currentTime N c
    some ({ s with pc := .startingAt ts }, c)
  | .startingAt ts =>
    let (start_time_ms, c) := timestampMsOf N ts c
    some ({ s with pc := .checking, start_time_ms }, c)
  | .checking =>
    let (ts, c) := currentTime N c
    some ({ s with pc := .checkingAt ts }, c)
  | .checkingAt ts =>
    let (timestamp, c) := timestampMsOf N ts c
    if timestamp - s.start_time_ms ≤ pacing.duration ∧
      c.senderRunning then some ({ s with pc := .bursting }, c)
    else some ({ s with pc := .finishing }, c)
  | .bursting =>
    -- count++
    let next := { s with count := wrap32 (s.count+1) }
    if uint64OfInt s.count < pacing.pkts_to_send then
      some ({ next with
        pc := .creating (uint64OfInt s.server_seq_no)
        server_seq_no := wrap32 (s.server_seq_no+1) }, c)
    else some ({ next with pc := .sleeping now }, c)
  | .creating seq_num =>
    let (ts, c) := currentTime N c
    some ({ s with pc := .creatingAt seq_num ts }, c)
  | .creatingAt seq_num ts =>
    let (message, c) := createPacket N seq_num ts c
    some ({ s with pc := .sending message }, c)
  | .sending message =>
    match sendPacket N message c with
    | (true, c) => some ({ s with pc := .bursting }, c)
    -- `send_packet` ends the thread when not all bytes are taken
    | (false, c) => some ({ s with pc := .exited }, c)
  | .sleeping since =>
    if since + pacing.milliseconds_to_sleep.toNat*1000000 ≤ now then
      some ({ s with pc := .checking, count := 0 }, c)
    else none
  | .finishing =>
    let (ts, c) := currentTime N c
    some ({ s with pc := .finishingAt ts }, c)
  | .finishingAt ts =>
    let (message, c) := createPacket N 0 ts c
    some ({ s with pc := .terminating terminators message }, c)
  | .terminating (left+1) message =>
    match sendPacket N message c with
    | (true, c) => some ({ s with pc := .terminating left message }, c)
    | (false, c) => some ({ s with pc := .exited }, c)
  | .terminating 0 _ => some ({ s with pc := .returned }, { c with senderRunning := false })
  | .returned => none
  | .exited => none

/-! The receiving thread. -/

/-- `SERVER_RECV_MSG_TIMEOUT`, in nanoseconds. -/
def serverRecvMsgTimeout : ℕ := 2*1000000000

/-- An ack as the kernel hands it over: a whole packet, with its time stamps. -/
structure Ack where
  payload : Bytes
  stamps : List Timespec
  header : sizeofHeader ≤ payload.length
  length_le : payload.length ≤ recvBufferLen

def Ack.msg (ack : Ack) : RecvMsg := .datagram ack.payload 0 ack.stamps ack.length_le

/-- Where `recv_udp_packets` stands. -/
inductive ReceiverPc where
  | starting
  | testing
  | receiving (since : ℕ)
  | logging (packet : Packet) (timestamp : UInt64)
  | ended (exit : Exit)

def ReceiverPc.hasEnded : ReceiverPc → Bool
  | .ended _ => true
  | _ => false

/-- `recv_packet`, and the `Packet` that is made of what it returns. -/
def receive (N : Native) (msg : RecvMsg) (c : Client) : ReceiverPc × Client :=
  match recvPacket N msg c with
  | (.error e, c) => (.ended e, c)
  | (.ok recv_message, c) =>
    match Packet.parse N.host recv_message.payload with
    | .error what => (.ended (.uncaught what), c)
    | .ok packet => (.logging packet recv_message.timestamp, c)

/-- The thread waits at an empty socket until the timeout that `set_socket_timeout` has set. -/
def receiverStep (N : Native) (now : ℕ) (r : ReceiverPc) (socket : List Ack) (c : Client) :
    Option (ReceiverPc × List Ack × Client) :=
  match r with
  | .starting => some (.testing, socket, c)
  | .testing =>
    if c.senderRunning then some (.receiving now, socket, c) else some (.ended .returned, socket, c)
  | .receiving since =>
    match socket with
    | ack :: socket =>
      let (r, c) := receive N ack.msg c
      some (r, socket, c)
    | [] =>
      if since + serverRecvMsgTimeout ≤ now then
        let (r, c) := receive N (.failed true) c
        some (r, [], c)
      else none
  | .logging packet timestamp => some (.testing, socket, logPacket N packet timestamp c)
  | .ended _ => none

/-! The run. -/

/-- An ack that has reached the socket, after `silence` nanoseconds without one. -/
structure Delivery where
  ack : Ack
  silence : ℕ

/-- The two threads, the acks not yet read, and all acks that have reached the socket. -/
structure Uplink where
  client : Client
  sender : Sender := {}
  receiver : ReceiverPc := .starting
  socket : List Ack := []
  now : ℕ := 0
  quietSince : ℕ := 0
  delivered : List Delivery := []

/-- The two threads are started with `SENDER_RUNNING` set and an empty log. -/
def Uplink.start (c : Client) : Uplink where
  client := { c with senderRunning := true, log := [], sent := [] }

inductive UplinkEvent where
  | sender
  | receiver
  | deliver (ack : Ack)
  | elapse (ns : ℕ)

def uplinkStep (N : Native) (pacing : Pacing) (u : Uplink) : UplinkEvent → Option Uplink
  | .sender =>
    (senderStep N pacing u.now u.sender u.client).map fun (sender, client) =>
    { u with sender, client }
  | .receiver =>
    (receiverStep N u.now u.receiver u.socket u.client).map fun (receiver, socket, client) =>
      { u with receiver, socket, client }
  | .deliver ack => some { u with
      socket := u.socket ++ [ack]
      delivered := u.delivered ++ [⟨ack, u.now - u.quietSince⟩]
      quietSince := u.now }
  | .elapse ns => some { u with now := u.now+ns }

/-! What a step leaves alone. -/

section Frame

variable {N : Native} {pacing : Pacing} {now : ℕ}

theorem createPacket_frame (seq_num : UInt64) (ts : Timespec) (c : Client) :
    (createPacket N seq_num ts c).2.log = c.log ∧ (createPacket N seq_num ts c).2.sent = c.sent ∧
    (createPacket N seq_num ts c).2.senderRunning = c.senderRunning := timestampMsOf_frame ts c

theorem kernelTimestamp_frame (stamps : List Timespec) (timestamp : UInt64) (c : Client) :
    (kernelTimestamp N stamps timestamp c).2.log = c.log ∧
    (kernelTimestamp N stamps timestamp c).2.sent = c.sent := by
  induction stamps generalizing timestamp c with
  | nil => exact ⟨rfl, rfl⟩
  | cons kernel_time rest ih =>
    obtain ⟨hlog, hsent, -⟩ := timestampMsOf_frame (N := N) kernel_time c
    obtain ⟨hlog', hsent'⟩ := ih (timestampMsOf N kernel_time c).1 (timestampMsOf N kernel_time c).2
    exact ⟨hlog'.trans hlog, hsent'.trans hsent⟩

end Frame

/-- What one step of the sender can be. -/
inductive SenderMove (N : Native) (pacing : Pacing) (s : Sender) (c : Client) :
    Sender → Client → Prop
  | start (hpc : s.pc = .starting) :
    SenderMove N pacing s c { s with pc := .startingAt (N.clock c.readings) } (currentTime N c).2
  | started (ts : Timespec) (hpc : s.pc = .startingAt ts) :
    SenderMove N pacing s c { s with pc := .checking, start_time_ms := (timestampMsOf N ts c).1 }
      (timestampMsOf N ts c).2
  | check (hpc : s.pc = .checking) :
    SenderMove N pacing s c { s with pc := .checkingAt (N.clock c.readings) } (currentTime N c).2
  | goOn (ts : Timespec) (hpc : s.pc = .checkingAt ts) (hrunning : c.senderRunning = true)
      (htime : (timestampMsOf N ts c).1 - s.start_time_ms ≤ pacing.duration) :
    SenderMove N pacing s c { s with pc := .bursting } (timestampMsOf N ts c).2
  | stop (ts : Timespec) (hpc : s.pc = .checkingAt ts) :
    SenderMove N pacing s c { s with pc := .finishing } (timestampMsOf N ts c).2
  | next (hpc : s.pc = .bursting) (hcount : uint64OfInt s.count < pacing.pkts_to_send) :
    SenderMove N pacing s c { s with pc := .creating (uint64OfInt s.server_seq_no),
                                     count := wrap32 (s.count+1), server_seq_no :=
                                       wrap32 (s.server_seq_no+1) } c
  | sleep (now : ℕ) (hpc : s.pc = .bursting) (hcount : ¬uint64OfInt s.count < pacing.pkts_to_send) :
    SenderMove N pacing s c { s with pc := .sleeping now, count := wrap32 (s.count+1) } c
  | create (seq_num : UInt64) (hpc : s.pc = .creating seq_num) :
    SenderMove N pacing s c { s with pc := .creatingAt seq_num (N.clock c.readings) }
      (currentTime N c).2
  | created (seq_num : UInt64) (ts : Timespec) (hpc : s.pc = .creatingAt seq_num ts) :
    SenderMove N pacing s c { s with pc := .sending (createPacket N seq_num ts c).1 }
      (createPacket N seq_num ts c).2
  | sent (message : Bytes) (hpc : s.pc = .sending message) :
    SenderMove N pacing s c { s with pc := .bursting } { c with sent := c.sent ++ [message] }
  | failed (hpc : (∃ message, s.pc = .sending message) ∨
      ∃ left message, s.pc = .terminating (left+1) message) :
    SenderMove N pacing s c { s with pc := .exited } c
  | wake (since : ℕ) (hpc : s.pc = .sleeping since) :
    SenderMove N pacing s c { s with pc := .checking, count := 0 } c
  | finish (hpc : s.pc = .finishing) :
    SenderMove N pacing s c { s with pc := .finishingAt (N.clock c.readings) } (currentTime N c).2
  | finished (ts : Timespec) (hpc : s.pc = .finishingAt ts) :
    SenderMove N pacing s c { s with pc := .terminating terminators (createPacket N 0 ts c).1 }
      (createPacket N 0 ts c).2
  | terminated (left : ℕ) (message : Bytes) (hpc : s.pc = .terminating (left+1) message) :
    SenderMove N pacing s c { s with pc := .terminating left message }
      { c with sent := c.sent ++ [message] }
  | clear (message : Bytes) (hpc : s.pc = .terminating 0 message) :
    SenderMove N pacing s c { s with pc := .returned } { c with senderRunning := false }

/-- What one step of the receiver can be. -/
inductive ReceiverMove (N : Native) (now : ℕ) :
    ReceiverPc → List Ack → Client → ReceiverPc → List Ack → Client → Prop
  | start {socket : List Ack} {c : Client} : ReceiverMove N now .starting socket c .testing socket c
  | goOn {socket : List Ack} {c : Client} (hrunning : c.senderRunning = true) :
    ReceiverMove N now .testing socket c (.receiving now) socket c
  | stop {socket : List Ack} {c : Client} (hrunning : c.senderRunning = false) :
    ReceiverMove N now .testing socket c (.ended .returned) socket c
  | received {c : Client} (since : ℕ) (ack : Ack) (socket : List Ack) (p : Packet)
      (hp : Packet.parse N.host ack.payload = .ok p) :
    ReceiverMove N now (.receiving since) (ack :: socket) c
      (.logging p (kernelTimestamp N ack.stamps uint64Minus1 c).1) socket
      (kernelTimestamp N ack.stamps uint64Minus1 c).2
  | timeout {c : Client} (since : ℕ) (hdue : since + serverRecvMsgTimeout ≤ now) :
    ReceiverMove N now (.receiving since) [] c (.ended .exited) [] c
  | logged {socket : List Ack} {c : Client} (packet : Packet) (timestamp : UInt64) :
    ReceiverMove N now (.logging packet timestamp) socket c .testing socket
      (logPacket N packet timestamp c)

section Steps

variable {N : Native} {pacing : Pacing} {now : ℕ}

theorem sendPacket_cases (payload : Bytes) (c : Client) :
    sendPacket N payload c = (true, { c with sent := c.sent ++ [payload] }) ∨
      sendPacket N payload c = (false, c) := by
  unfold sendPacket
  split_ifs
  · exact .inl rfl
  · exact .inr rfl

theorem senderMove_of_step (s s' : Sender) (c c' : Client)
    (h : senderStep N pacing now s c = some (s', c')) :
    SenderMove N pacing s c s' c' := by
  cases hpc : s.pc with
  | starting =>
    simp only [senderStep, hpc] at h
    cases h
    exact .start hpc
  | startingAt ts =>
    simp only [senderStep, hpc] at h
    cases h
    exact .started ts hpc
  | checking =>
    simp only [senderStep, hpc] at h
    cases h
    exact .check hpc
  | checkingAt ts =>
    have hrunning := (timestampMsOf_frame (N := N) ts c).2.2
    simp only [senderStep, hpc] at h
    split_ifs at h with hcheck
    · cases h
      exact .goOn ts hpc (hrunning.symm.trans hcheck.2) hcheck.1
    · cases h
      exact .stop ts hpc
  | bursting =>
    simp only [senderStep, hpc] at h
    split_ifs at h with hcount
    · cases h
      exact .next hpc hcount
    · cases h
      exact .sleep now hpc hcount
  | creating seq_num =>
    simp only [senderStep, hpc] at h
    cases h
    exact .create seq_num hpc
  | creatingAt seq_num ts =>
    simp only [senderStep, hpc] at h
    cases h
    exact .created seq_num ts hpc
  | sending message =>
    rcases sendPacket_cases (N := N) message c with hsend | hsend
    · simp only [senderStep, hpc, hsend] at h
      cases h
      exact .sent message hpc
    · simp only [senderStep, hpc, hsend] at h
      cases h
      exact .failed (.inl ⟨message, hpc⟩)
  | sleeping since =>
    simp only [senderStep, hpc] at h
    split_ifs at h
    cases h
    exact .wake since hpc
  | finishing =>
    simp only [senderStep, hpc] at h
    cases h
    exact .finish hpc
  | finishingAt ts =>
    simp only [senderStep, hpc] at h
    cases h
    exact .finished ts hpc
  | terminating left message =>
    cases left with
    | zero =>
      simp only [senderStep, hpc] at h
      cases h
      exact .clear message hpc
    | succ left =>
      rcases sendPacket_cases (N := N) message c with hsend | hsend
      · simp only [senderStep, hpc, hsend] at h
        cases h
        exact .terminated left message hpc
      · simp only [senderStep, hpc, hsend] at h
        cases h
        exact .failed (.inr ⟨left, message, hpc⟩)
  | returned =>
    simp only [senderStep, hpc] at h
    cases h
  | exited =>
    simp only [senderStep, hpc] at h
    cases h

/-- The sender does not write the log. -/
theorem SenderMove.log {s s' : Sender} {c c' : Client} (h : SenderMove N pacing s c s' c') :
    c'.log = c.log := by
  cases h with
  | started ts hpc => exact (timestampMsOf_frame ts c).1
  | goOn ts hpc hrunning htime => exact (timestampMsOf_frame ts c).1
  | stop ts hpc => exact (timestampMsOf_frame ts c).1
  | created seq_num ts hpc => exact (createPacket_frame seq_num ts c).1
  | finished ts hpc => exact (createPacket_frame 0 ts c).1
  | _ => rfl

theorem receive_ack (ack : Ack) (c : Client) : ∃ p, Packet.parse N.host ack.payload = .ok p ∧
    receive N ack.msg c = (.logging p (kernelTimestamp N ack.stamps uint64Minus1 c).1,
      (kernelTimestamp N ack.stamps uint64Minus1 c).2) := by
  obtain ⟨p, hstr⟩ := exists_packet_toString N.host ack.payload ack.header
  have hp : Packet.parse N.host ack.payload = .ok p := by rw [← hstr, packet_parse_toString]
  refine ⟨p, hp, ?_⟩
  simp [receive, recvPacket, Ack.msg, hp]

theorem receiverMove_of_step (r r' : ReceiverPc) (socket socket' : List Ack) (c c' : Client)
    (h : receiverStep N now r socket c = some (r', socket', c')) :
    ReceiverMove N now r socket c r' socket' c' := by
  cases r with
  | starting =>
    cases h
    exact .start
  | testing =>
    simp only [receiverStep] at h
    split_ifs at h with hrunning
    · cases h
      exact .goOn hrunning
    · cases h
      exact .stop (Bool.eq_false_iff.mpr hrunning)
  | receiving since =>
    cases socket with
    | nil =>
      simp only [receiverStep] at h
      split_ifs at h with hdue
      cases h
      exact .timeout since hdue
    | cons ack socket =>
      obtain ⟨p, hp, hreceive⟩ := receive_ack (N := N) ack c
      simp only [receiverStep, hreceive] at h
      cases h
      exact .received since ack _ p hp
  | logging packet timestamp =>
    cases h
    exact .logged packet timestamp
  | ended exit => cases h

/-- The receiver does not send. -/
theorem ReceiverMove.sent {r r' : ReceiverPc} {socket socket' : List Ack} {c c' : Client}
    (h : ReceiverMove N now r socket c r' socket' c') : c'.sent = c.sent := by
  cases h with
  | received since ack socket p hp => exact (kernelTimestamp_frame ack.stamps uint64Minus1 c).2
  | _ => rfl

end Steps

end MmWaveTracker
