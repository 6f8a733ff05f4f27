import MmWaveTracker.ProbeLink

/-! The log of an uplink run: which of the acks that reach the socket get a row. -/
namespace MmWaveTracker

/-- Less than the timeout has passed since the ack before. -/
def Delivery.inTime (d : Delivery) : Prop := d.silence < serverRecvMsgTimeout

def IsAckRow (N : Native) (d : Delivery) (row : String) : Prop :=
  ∃ p timestamp now, Packet.parse N.host d.ack.payload = .ok p ∧ row = packetInfo p timestamp now

/-- Once the receiving thread has ended, every ack that came in time has its row. -/
def AcksLogged (N : Native) (u : Uplink) : Prop :=
  u.receiver.hasEnded = true → ∀ (i : ℕ) d, u.delivered[i]? = some d → d.inTime →
    ∃ row, u.client.log[i]? = some row ∧ IsAckRow N d row

/-- The acks still in the socket. -/
def Uplink.unread (u : Uplink) : List Delivery :=
  u.delivered.drop (u.delivered.length - u.socket.length)

/-- The thread does not find `SENDER_RUNNING` cleared while an ack is unread, and no ack
comes in time once it has ended. -/
def LeavesNoAck (u : Uplink) : UplinkEvent → Prop
  | .receiver => u.receiver = .testing → u.client.senderRunning = false → ∀ d ∈ u.unread, ¬d.inTime
  | .deliver _ => u.receiver.hasEnded = true → serverRecvMsgTimeout ≤ u.now - u.quietSince
  | _ => True

/-! The acks are read in order, and logged in the order they are read. -/

/-- The deliveries `read` are logged, but for one that is being logged. -/
def ReadLogged (N : Native) (r : ReceiverPc) (read : List Delivery) (log : List String) : Prop :=
  match r with
  | .logging packet _ => ∃ before last, read = before ++ [last] ∧
      List.Forall₂ (IsAckRow N) before log ∧ Packet.parse N.host last.ack.payload = .ok packet
  | _ => List.Forall₂ (IsAckRow N) read log

structure Reading (N : Native) (u : Uplink) (read unread : List Delivery) : Prop where
  delivered : u.delivered = read ++ unread
  socket : u.socket = unread.map (·.ack)
  logged : ReadLogged N u.receiver read u.client.log

/-- The invariant: nothing that came in time is unread when the thread has ended. -/
def Kept (N : Native) (u : Uplink) : Prop :=
  ∃ read unread, Reading N u read unread ∧ (u.receiver.hasEnded = true → ∀ d ∈ unread, ¬d.inTime)

section Reading

variable {N : Native} {pacing : Pacing}

theorem Reading.unread {u : Uplink} {read unread : List Delivery} (h : Reading N u read unread) :
    u.unread = unread := by
  have hlen : u.delivered.length - u.socket.length = read.length := by
    rw [h.delivered, h.socket, List.length_append, List.length_map, Nat.add_sub_cancel]
  rw [Uplink.unread, hlen, h.delivered, List.drop_left]

theorem Reading.sender {u : Uplink} {read unread : List Delivery} (h : Reading N u read unread)
    (s' : Sender) (c' : Client) (hmove : SenderMove N pacing u.sender u.client s' c') :
    Reading N { u with sender := s', client := c' } read unread where
  delivered := h.delivered
  socket := h.socket
  logged := by
    change ReadLogged N u.receiver read c'.log
    rw [hmove.log]
    exact h.logged

/-- A step of the receiver reads an ack, logs the one it has read, or neither. -/
theorem Reading.receiver {u : Uplink} {read unread : List Delivery} (h : Reading N u read unread)
    (r' : ReceiverPc)
    (socket' : List Ack) (c' : Client)
    (hmove : ReceiverMove N u.now u.receiver u.socket u.client r' socket' c') :
    ∃ read' unread',
      Reading N { u with receiver := r', socket := socket', client := c' } read' unread' ∧
      (r'.hasEnded = true → unread' = unread ∧ (unread = [] ∨ u.receiver = .testing ∧
        u.client.senderRunning = false)) := by
  obtain ⟨hdelivered, hsocket, hlogged⟩ := h
  generalize hr : u.receiver = r at hmove hlogged
  generalize hc : u.client = c at hmove hlogged
  generalize hs : u.socket = socket at hmove hsocket
  cases hmove with
  | start => exact ⟨read, unread, ⟨hdelivered, hsocket, hlogged⟩, fun hended => by cases hended⟩
  | goOn hrunning => exact ⟨read, unread, ⟨hdelivered, hsocket, hlogged⟩,
      fun hended => by cases hended⟩
  | stop hrunning => exact ⟨read, unread, ⟨hdelivered, hsocket, hlogged⟩, fun _ =>
      ⟨rfl, .inr ⟨rfl, hrunning⟩⟩⟩
  | received since ack rest p hp =>
    obtain ⟨d, unread', rfl, hd, hrest⟩ := List.map_eq_cons_iff.mp hsocket.symm
    refine ⟨read ++ [d], unread', ⟨?_, hrest.symm, ?_⟩, fun hended => by cases hended⟩
    · rw [List.append_assoc]
      exact hdelivered
    · refine ⟨read, d, rfl, ?_, hd ▸ hp⟩
      rw [(kernelTimestamp_frame ack.stamps uint64Minus1 c).1]
      exact hlogged
  | timeout since hdue =>
    have hnil : unread = [] := List.map_eq_nil_iff.mp hsocket.symm
    exact ⟨read, unread, ⟨hdelivered, hsocket, hlogged⟩, fun _ => ⟨rfl, .inl hnil⟩⟩
  | logged packet timestamp =>
    obtain ⟨before, last, rfl, hrows, hp⟩ := hlogged
    obtain ⟨now, hlog, -⟩ := logPacket_frame (N := N) (p := packet) timestamp c
    refine ⟨before ++ [last], unread, ⟨hdelivered, hsocket, ?_⟩, fun hended => by cases hended⟩
    change List.Forall₂ (IsAckRow N) (before ++ [last]) (logPacket N packet timestamp c).log
    rw [hlog]
    exact List.rel_append hrows (.cons ⟨packet, timestamp, now, hp, rfl⟩ .nil)

theorem Reading.deliver {u : Uplink} {read unread : List Delivery} (h : Reading N u read unread)
    (ack : Ack) :
    Reading N { u with socket := u.socket ++ [ack],
                       delivered := u.delivered ++ [⟨ack, u.now - u.quietSince⟩],
                       quietSince := u.now } read (unread ++ [⟨ack, u.now - u.quietSince⟩]) where
  delivered := by
    change u.delivered ++ _ = _
    rw [h.delivered, List.append_assoc]
  socket := by
    change u.socket ++ _ = _
    rw [h.socket, List.map_append]
    rfl
  logged := h.logged

/-- The rows are those of the acks that were read. -/
theorem Reading.length_log {u : Uplink} {read unread : List Delivery}
    (h : Reading N u read unread) : u.client.log.length ≤ read.length := by
  have hlogged := h.logged
  unfold ReadLogged at hlogged
  split at hlogged
  · obtain ⟨before, last, rfl, hrows, -⟩ := hlogged
    rw [← hrows.length_eq, List.length_append]
    exact Nat.le_add_right _ _
  · exact le_of_eq hlogged.length_eq.symm

theorem kept_acksLogged {u : Uplink} (h : Kept N u) : AcksLogged N u := by
  obtain ⟨read, unread, hreading, hnone⟩ := h
  intro hended i d hd hin
  have hlogged : List.Forall₂ (IsAckRow N) read u.client.log := by
    have hlogged := hreading.logged
    generalize u.receiver = r at hended hlogged
    cases r with
    | ended exit => exact hlogged
    | _ => cases hended
  rw [hreading.delivered] at hd
  by_cases hi : i < read.length
  · rw [List.getElem?_append_left hi] at hd
    have hi' : i < u.client.log.length := hlogged.length_eq ▸ hi
    obtain rfl : read[i] = d := Option.some.inj ((List.getElem?_eq_getElem hi).symm.trans hd)
    exact ⟨u.client.log[i], List.getElem?_eq_getElem hi',
      (List.forall₂_iff_get.mp hlogged).2 i hi hi'⟩
  · rw [List.getElem?_append_right (not_lt.mp hi)] at hd
    exact absurd hin (hnone hended d (List.mem_of_getElem? hd))

/-- An ack in time that stays unread has no row. -/
theorem not_acksLogged {u : Uplink} {read unread : List Delivery} (h : Reading N u read unread)
    (hended : u.receiver.hasEnded = true) (d : Delivery) (hd : d ∈ unread) (hin : d.inTime) :
    ¬AcksLogged N u := by
  intro hlogged
  obtain ⟨i, hi, hget⟩ := List.mem_iff_getElem.mp hd
  have hat : u.delivered[read.length+i]? = some d := by
    rw [h.delivered, List.getElem?_append_right (Nat.le_add_right _ _), Nat.add_sub_cancel_left,
      ← hget]
    exact List.getElem?_eq_getElem hi
  obtain ⟨row, hrow, -⟩ := hlogged hended (read.length+i) d hat hin
  have hlt := (List.getElem?_eq_some_iff.mp hrow).choose
  have hle := h.length_log
  omega

theorem kept_step (u : Uplink) (e : UplinkEvent) (u' : Uplink) (hok : LeavesNoAck u e)
    (h : uplinkStep N pacing u e = some u') (hI : Kept N u) : Kept N u' := by
  obtain ⟨read, unread, hreading, hnone⟩ := hI
  cases e with
  | sender =>
    obtain ⟨⟨s', c'⟩, hmove, rfl⟩ := Option.map_eq_some_iff.mp h
    exact ⟨read, unread, hreading.sender s' c' (senderMove_of_step _ _ _ _ hmove), hnone⟩
  | receiver =>
    obtain ⟨⟨r', socket', c'⟩, hmove, rfl⟩ := Option.map_eq_some_iff.mp h
    obtain ⟨read', unread', hreading', hcase⟩ :=
      hreading.receiver r' socket' c' (receiverMove_of_step _ _ _ _ _ _ hmove)
    refine ⟨read', unread', hreading', fun hended => ?_⟩
    obtain ⟨rfl, rfl | ⟨htesting, hrunning⟩⟩ := hcase hended
    · exact fun d hd => by cases hd
    · rw [← hreading.unread]
      exact hok htesting hrunning
  | deliver ack =>
    cases h
    refine ⟨read, _, hreading.deliver ack, fun hended d hd => ?_⟩
    rcases List.mem_append.mp hd with hd | hd
    · exact hnone hended d hd
    · obtain rfl := List.mem_singleton.mp hd
      exact not_lt.mpr (hok hended)
  | elapse ns =>
    cases h
    exact ⟨read, unread, ⟨hreading.delivered, hreading.socket, hreading.logged⟩, hnone⟩

theorem not_acksLogged_of_step (u : Uplink) (e : UplinkEvent) (u' : Uplink) (hno : ¬LeavesNoAck u e)
    (h : uplinkStep N pacing u e = some u') (hI : Kept N u) : ¬AcksLogged N u' := by
  obtain ⟨read, unread, hreading, -⟩ := hI
  cases e with
  | sender => exact absurd trivial hno
  | receiver =>
    simp only [LeavesNoAck, hreading.unread, not_forall, not_not] at hno
    obtain ⟨htesting, hrunning, d, hd, hin⟩ := hno
    have hstop : receiverStep N u.now u.receiver u.socket u.client = some (.ended .returned,
        u.socket, u.client) := by
      rw [htesting, receiverStep, hrunning]
      rfl
    rw [uplinkStep, hstop] at h
    cases h
    have hlogged := hreading.logged
    rw [htesting] at hlogged
    exact not_acksLogged (u := { u with receiver := .ended .returned })
      ⟨hreading.delivered, hreading.socket, hlogged⟩ rfl d hd hin
  | deliver ack =>
    simp only [LeavesNoAck, Classical.not_imp, not_le] at hno
    cases h
    exact not_acksLogged (hreading.deliver ack) hno.1 _
      (List.mem_append_right _ (List.mem_singleton_self _)) hno.2
  | elapse ns => exact absurd trivial hno

end Reading

/-! The timeout. -/

/-- The receiver has waited since the last ack, for the whole timeout if it has given up. -/
structure Waiting (u : Uplink) : Prop where
  quietSince_le : u.quietSince ≤ u.now
  receiving : ∀ since, u.receiver = .receiving since → u.socket = [] → u.quietSince ≤ since
  exited : u.receiver = .ended .exited → u.socket = [] → u.quietSince + serverRecvMsgTimeout ≤ u.now

theorem waiting_step {N : Native} {pacing : Pacing} (u : Uplink) (e : UplinkEvent) (u' : Uplink)
    (h : uplinkStep N pacing u e = some u') (hw : Waiting u) : Waiting u' := by
  cases e with
  | sender =>
    obtain ⟨⟨s', c'⟩, -, rfl⟩ := Option.map_eq_some_iff.mp h
    exact ⟨hw.quietSince_le, hw.receiving, hw.exited⟩
  | receiver =>
    obtain ⟨⟨r', socket', c'⟩, hmove, rfl⟩ := Option.map_eq_some_iff.mp h
    have hmove := receiverMove_of_step _ _ _ _ _ _ hmove
    have hreceiving := hw.receiving
    generalize u.receiver = r at hmove hreceiving
    generalize u.socket = socket at hmove hreceiving
    refine ⟨hw.quietSince_le, ?_, ?_⟩
    · intro since hr hsocket
      cases hmove with
      | goOn hrunning =>
        cases hr
        exact hw.quietSince_le
      | _ => cases hr
    · intro hr hsocket
      cases hmove with
      | timeout since hdue =>
        have hquiet := hreceiving since rfl rfl
        change u.quietSince + serverRecvMsgTimeout ≤ u.now
        omega
      | _ => cases hr
  | deliver ack =>
    cases h
    exact ⟨le_rfl, fun _ _ hnil =>
      absurd hnil (List.append_ne_nil_of_right_ne_nil _ (List.cons_ne_nil _ _)),
      fun _ hnil => absurd hnil (List.append_ne_nil_of_right_ne_nil _ (List.cons_ne_nil _ _))⟩
  | elapse ns =>
    cases h
    exact ⟨le_trans hw.quietSince_le (Nat.le_add_right _ _), hw.receiving,
      fun hr hnil => le_trans (hw.exited hr hnil) (Nat.le_add_right _ _)⟩

/-- The first ack to come after the thread has timed out is late: no ack is lost to the
timeout before there has been one that came late. -/
theorem late_after_timeout (N : Native) (pacing : Pacing) (c : Client) (events : List UplinkEvent)
    (u : Uplink) (hrun : runEvents (uplinkStep N pacing) (Uplink.start c) events = some u)
    (hexited : u.receiver = .ended .exited) (hsocket : u.socket = []) :
    serverRecvMsgTimeout ≤ u.now - u.quietSince := by
  have hstart : Waiting (Uplink.start c) := ⟨le_rfl, fun _ h => (by cases h), fun h => by cases h⟩
  have hw := runEvents_preserves (uplinkStep N pacing) Waiting waiting_step events
    (Uplink.start c) u hrun hstart
  have hquiet := hw.exited hexited hsocket
  omega

/-! The log of a whole run. -/

/-- A run logs every ack that comes in time exactly if the receiving thread leaves none
behind when it finds `SENDER_RUNNING` cleared. -/
theorem acks_logged_iff (N : Native) (pacing : Pacing) (c : Client) (events : List UplinkEvent)
    (u : Uplink) (hrun : runEvents (uplinkStep N pacing) (Uplink.start c) events = some u) :
    Throughout (uplinkStep N pacing) (AcksLogged N) (Uplink.start c) events ↔
      Along (uplinkStep N pacing) LeavesNoAck (Uplink.start c) events :=
  throughout_iff_along (uplinkStep N pacing) LeavesNoAck (Kept N) (AcksLogged N) kept_step
    (fun _ => kept_acksLogged) not_acksLogged_of_step events _ u hrun ⟨[], [], ⟨rfl, rfl, .nil⟩,
      fun hended => by cases hended⟩

/-- The ack of packet `k`, as the ack loop sends it. -/
def ackOf (k : UInt64) : Ack where
  payload := ((Packet.new k dummyPayload).transformIntoAck k 0).toString .little
  stamps := []
  header := by
    rw [Packet.toString, List.length_append, length_header_toString]
    exact Nat.le_add_right _ _
  length_le := by
    rw [Packet.toString, List.length_append, length_header_toString]
    simp [Packet.transformIntoAck, sizeofHeader, sizeofUint64, recvBufferLen]

/-- One ack, and then silence until the timeout. -/
def oneAck : List UplinkEvent :=
  [.receiver, .receiver, .deliver (ackOf 1), .receiver, .receiver, .receiver,
    .elapse serverRecvMsgTimeout, .receiver]

theorem acks_logged_until_timeout :
    Throughout (uplinkStep startledClock onePacket) (AcksLogged startledClock)
      (Uplink.start {}) oneAck := by
  obtain ⟨u, hrun⟩ : ∃ u, runEvents (uplinkStep startledClock onePacket) (Uplink.start {}) oneAck =
      some u :=
    Option.isSome_iff_exists.mp (by decide +kernel)
  let waiting : Uplink := { Uplink.start {} with
    receiver := .receiving 0, socket := [ackOf 1], delivered := [⟨ackOf 1, 0⟩] }
  obtain ⟨p, -, hreceive⟩ := receive_ack (N := startledClock) (ackOf 1) waiting.client
  have hread : receiverStep startledClock waiting.now waiting.receiver waiting.socket
      waiting.client = some (.logging p uint64Minus1, [], waiting.client) := by
    simp only [waiting, receiverStep]
    rw [hreceive]
    rfl
  have hstep : uplinkStep startledClock onePacket waiting .receiver =
      some { waiting with receiver := .logging p uint64Minus1, socket := [] } := by
    rw [uplinkStep, hread]
    rfl
  refine (acks_logged_iff startledClock onePacket {} oneAck u hrun).mpr ?_
  refine along_cons _ _ _ _ _ _ (fun h => by cases h) rfl ?_
  refine along_cons _ _ _ _ _ _ (fun _ h => by cases h) rfl ?_
  refine along_cons _ _ _ waiting _ _ (fun h => by cases h) rfl ?_
  refine along_cons _ _ _ _ _ _ (fun h => by cases h) hstep ?_
  refine along_cons _ _ _ _ _ _ (fun h => by cases h) rfl ?_
  refine along_cons _ _ _ _ _ _ (fun _ h => by cases h) rfl ?_
  refine along_cons _ _ _ _ _ _ trivial rfl ?_
  exact ⟨fun h => (by cases h), fun _ _ => trivial⟩

/-- Two packets at once; their acks come after the sender has finished, and the second 10 ms
after the first. -/
def lastRoundTrip : List UplinkEvent :=
  List.flatten [[.receiver, .receiver], List.replicate 13 .sender, [.elapse 1000000],
    List.replicate 11 .sender, [.elapse 10000000, .deliver (ackOf 1), .receiver, .receiver,
      .receiver, .elapse 10000000, .deliver (ackOf 2)]]

def twoPackets : Pacing where
  milliseconds_to_sleep := 1
  pkts_to_send := 2
  duration := 0

/-- The flag is cleared, the thread has returned, and the second ack has no row. -/
theorem lastRoundTrip_run :
    (runEvents (uplinkStep startledClock twoPackets) (Uplink.start {}) lastRoundTrip).map (fun u =>
      (u.client.senderRunning, u.receiver.hasEnded, u.delivered.map (·.silence),
        u.client.log.length)) =
    some (false, true, [11000000, 10000000], 1) := by
  decide +kernel

theorem last_ack_not_logged : ∃ u,
    runEvents (uplinkStep startledClock twoPackets) (Uplink.start {}) lastRoundTrip = some u ∧
    u.delivered.length = 2 ∧ u.client.log.length = 1 ∧ ¬AcksLogged startledClock u := by
  obtain ⟨u, hrun, hu⟩ := Option.map_eq_some_iff.mp lastRoundTrip_run
  simp only [Prod.mk.injEq] at hu
  obtain ⟨-, hended, hsilence, hlog⟩ := hu
  obtain ⟨first, rest, hdelivered, -, hrest⟩ := List.map_eq_cons_iff.mp hsilence
  obtain ⟨second, rest, rfl, hsecond, hnil⟩ := List.map_eq_cons_iff.mp hrest
  obtain rfl := List.map_eq_nil_iff.mp hnil
  refine ⟨u, hrun, by rw [hdelivered]; rfl, hlog, ?_⟩
  intro h
  have hin : second.inTime := by
    rw [Delivery.inTime, hsecond]
    decide
  obtain ⟨row, hrow, -⟩ := h hended 1 second (by rw [hdelivered]; rfl) hin
  rw [List.getElem?_eq_none (le_of_eq hlog)] at hrow
  cases hrow

end MmWaveTracker
