import MmWaveTracker.Uplink

/-! The values of `timestamp_ms` over a whole run, downlink or uplink: they are differences
of unsigned numbers, and true ones only where `EPOCH` is not later than the time asked about. -/
namespace MmWaveTracker

/-- The values handed out are the milliseconds since `EPOCH`. -/
structure TrueTimes (c : Client) : Prop where
  value : ∀ call ∈ c.calls, ∃ epoch, c.epoch = some epoch ∧
    epoch.toNat ≤ call.ts.millis ∧ call.value.toNat = call.ts.millis - epoch.toNat
  marker : ∀ call ∈ c.calls, call.value ≠ uint64Minus1
  mono : ∀ a ∈ c.calls, ∀ b ∈ c.calls, a.ts.nanos ≤ b.ts.nanos → a.value ≤ b.value

/-- The millisecond of `EPOCH`, or of the reading that a call will initialise it from. -/
def epochMillis (N : Native) (c : Client) : ℕ :=
  match c.epoch with
  | some epoch => epoch.toNat
  | none => (N.clock c.readings).millis

/-! One call. -/

section Call

variable {N : Native} {c : Client}

theorem trueTimes_of_value (h : ∀ call ∈ c.calls, ∃ epoch, c.epoch = some epoch ∧
    epoch.toNat ≤ call.ts.millis ∧ call.value.toNat = call.ts.millis - epoch.toNat) :
      TrueTimes c where
  value := h
  marker := by
    intro call hcall heq
    obtain ⟨epoch, -, -, hvalue⟩ := h call hcall
    have hnanos : call.ts.nanos < 18446744073709551616 := call.ts.nanos_lt
    have hmarker : uint64Minus1.toNat = 18446744073709551615 := rfl
    rw [heq, hmarker, Timespec.millis] at hvalue
    omega
  mono := by
    intro a ha b hb hle
    obtain ⟨epoch, hepoch, -, hvalue⟩ := h a ha
    obtain ⟨epoch', hepoch', -, hvalue'⟩ := h b hb
    obtain rfl : epoch = epoch' := Option.some.inj (hepoch.symm.trans hepoch')
    have hmillis : a.ts.millis ≤ b.ts.millis := Nat.div_le_div_right hle
    rw [UInt64.le_iff_toNat_le, hvalue, hvalue']
    omega

/-- What the reading of `EPOCH` leaves: its value, and no call of `timestamp_ms` yet. -/
theorem epochOf_eq : (epochOf N c).1.toNat = epochMillis N c ∧
    (epochOf N c).2.epoch = some (epochOf N c).1 ∧
    (epochOf N c).2.calls = c.calls ∧ c.readings ≤ (epochOf N c).2.readings := by
  cases hepoch : c.epoch with
  | some epoch =>
    have heq : epochOf N c = (epoch, c) := by rw [epochOf, hepoch]
    rw [heq, epochMillis, hepoch]
    exact ⟨rfl, rfl, rfl, le_rfl⟩
  | none =>
    have heq : epochOf N c = (timestampMsRaw (N.clock c.readings),
        { c with readings := c.readings+1, epoch := some (timestampMsRaw (N.clock c.readings)) }) :=
          by
      rw [epochOf, hepoch]
      rfl
    rw [heq, epochMillis, hepoch]
    exact ⟨toNat_timestampMsRaw _, rfl, rfl, Nat.le_succ _⟩

theorem timestampMsOf_eq (ts : Timespec) : ∃ epoch, epoch.toNat = epochMillis N c ∧
    (timestampMsOf N ts c).2.epoch = some epoch ∧
    (timestampMsOf N ts c).2.calls = c.calls ++ [⟨ts, timestampMsRaw ts - epoch⟩] ∧
    c.readings ≤ (timestampMsOf N ts c).2.readings := by
  obtain ⟨hmillis, hepoch, hcalls, hreadings⟩ := epochOf_eq (N := N) (c := c)
  have heq : (timestampMsOf N ts c).2 = { (epochOf N c).2 with
      calls := (epochOf N c).2.calls ++ [⟨ts, timestampMsRaw ts - (epochOf N c).1⟩] } := rfl
  refine ⟨(epochOf N c).1, hmillis, ?_⟩
  rw [heq, hcalls]
  exact ⟨hepoch, rfl, hreadings⟩

/-- A call does not move `EPOCH`. -/
theorem epochMillis_timestampMsOf (ts : Timespec) :
    epochMillis N (timestampMsOf N ts c).2 = epochMillis N c := by
  obtain ⟨epoch, hmillis, hepoch, -⟩ := timestampMsOf_eq (N := N) (c := c) ts
  rw [epochMillis, hepoch]
  exact hmillis

theorem toNat_difference (ts : Timespec) (epoch : UInt64) (h : epoch.toNat ≤ ts.millis) :
    (timestampMsRaw ts - epoch).toNat = ts.millis - epoch.toNat := by
  have hle : epoch ≤ timestampMsRaw ts := by
    rw [UInt64.le_iff_toNat_le, toNat_timestampMsRaw]
    exact h
  rw [UInt64.toNat_sub_of_le _ _ hle, toNat_timestampMsRaw]

/-- The epochs that are set already are not after the readings still to come. -/
def EpochPast (N : Native) (c : Client) : Prop :=
  ∀ epoch, c.epoch = some epoch → ∀ n, c.readings ≤ n → epoch.toNat ≤ (N.clock n).millis

/-- The invariant of the client. -/
structure Timed (N : Native) (c : Client) : Prop where
  times : TrueTimes c
  past : EpochPast N c

/-- The clock does not go back. -/
def Forward (N : Native) : Prop := Monotone fun n => (N.clock n).nanos

theorem Forward.millis (hN : Forward N) {m n : ℕ} (h : m ≤ n) :
    (N.clock m).millis ≤ (N.clock n).millis :=
  Nat.div_le_div_right (hN h)

theorem Timed.epochMillis_le (hN : Forward N) (h : Timed N c) (n : ℕ) (hn : c.readings ≤ n) :
    epochMillis N c ≤ (N.clock n).millis := by
  unfold epochMillis
  cases hepoch : c.epoch with
  | some epoch => exact h.past epoch hepoch n hn
  | none => exact hN.millis hn

/-- A call about a time not before `EPOCH`. -/
theorem Timed.call (hN : Forward N) (h : Timed N c) (ts : Timespec)
    (hts : epochMillis N c ≤ ts.millis) : Timed N (timestampMsOf N ts c).2 := by
  obtain ⟨epoch, hmillis, hepoch, hcalls, hreadings⟩ := timestampMsOf_eq (N := N) (c := c) ts
  constructor
  · apply trueTimes_of_value
    intro call hcall
    rw [hcalls] at hcall
    refine ⟨epoch, hepoch, ?_⟩
    rcases List.mem_append.mp hcall with hold | hnew
    · obtain ⟨epoch', hepoch', hle, hvalue⟩ := h.times.value call hold
      have heq : epoch' = epoch := by
        rw [← UInt64.toNat_inj, hmillis, epochMillis, hepoch']
      exact heq ▸ ⟨hle, hvalue⟩
    · obtain rfl := List.mem_singleton.mp hnew
      exact ⟨hmillis ▸ hts, toNat_difference ts epoch (hmillis ▸ hts)⟩
  · intro epoch' hepoch' n hn
    obtain rfl : epoch = epoch' := Option.some.inj (hepoch.symm.trans hepoch')
    rw [hmillis]
    exact h.epochMillis_le hN n (le_trans hreadings hn)

/-- What later steps keep: the calls made, and `EPOCH` once it is set. -/
structure Extends (c c' : Client) : Prop where
  calls : ∀ call ∈ c.calls, call ∈ c'.calls
  epoch : ∀ epoch, c.epoch = some epoch → c'.epoch = some epoch

theorem Extends.trans {c c' c'' : Client} (h : Extends c c') (h' : Extends c' c'') :
    Extends c c'' :=
  ⟨fun call hcall => h'.calls call (h.calls call hcall), fun epoch he =>
    h'.epoch epoch (h.epoch epoch he)⟩

/-- Nothing but the clock was read. -/
structure SameTimes (c c' : Client) : Prop where
  calls : c'.calls = c.calls
  epoch : c'.epoch = c.epoch
  readings : c.readings ≤ c'.readings

theorem SameTimes.extends {c c' : Client} (h : SameTimes c c') : Extends c c' :=
  ⟨fun _ hcall => h.calls ▸ hcall, fun _ he => h.epoch.trans he⟩

theorem Timed.later (h : Timed N c) {c' : Client} (hs : SameTimes c c') : Timed N c' := by
  constructor
  · apply trueTimes_of_value
    rw [hs.calls, hs.epoch]
    exact h.times.value
  · intro epoch he n hn
    exact h.past epoch (hs.epoch.symm.trans he) n (le_trans hs.readings hn)

theorem extends_timestampMsOf (ts : Timespec) : Extends c (timestampMsOf N ts c).2 := by
  obtain ⟨epoch, hmillis, hepoch, hcalls, -⟩ := timestampMsOf_eq (N := N) (c := c) ts
  constructor
  · intro call hcall
    rw [hcalls]
    exact List.mem_append_left _ hcall
  · intro epoch' hepoch'
    have heq : epoch = epoch' := by
      rw [← UInt64.toNat_inj, hmillis, epochMillis, hepoch']
    rw [hepoch, heq]

/-- A call about an earlier time leaves a value that is no difference. -/
theorem not_trueTimes_call (ts : Timespec) (hts : ts.millis < epochMillis N c) (c' : Client)
    (hlater : Extends (timestampMsOf N ts c).2 c') : ¬TrueTimes c' := by
  intro h
  obtain ⟨epoch, hmillis, hepoch, hcalls, -⟩ := timestampMsOf_eq (N := N) (c := c) ts
  have hmem : ⟨ts, timestampMsRaw ts - epoch⟩ ∈ c'.calls := by
    apply hlater.calls
    rw [hcalls]
    exact List.mem_append_right _ (List.mem_singleton_self _)
  obtain ⟨epoch', hepoch', hle, -⟩ := h.value _ hmem
  obtain rfl : epoch = epoch' := Option.some.inj ((hlater.epoch epoch hepoch).symm.trans hepoch')
  exact absurd hle (not_le.mpr (hmillis ▸ hts))

/-- A client that has not initialised `EPOCH` does so within the millisecond of the reading
that `timestamp_ms()` passes on. -/
def FirstCallInTime (N : Native) (c : Client) : Prop :=
  c.epoch = none → (N.clock (c.readings+1)).millis ≤ (N.clock c.readings).millis

theorem timed_timestampMs (hN : Forward N) (h : Timed N c) (hfirst : FirstCallInTime N c) :
    Timed N (timestampMs N c).2 := by
  have hsame : SameTimes c (currentTime N c).2 := ⟨rfl, rfl, Nat.le_succ _⟩
  have hread := h.later hsame
  apply hread.call hN
  change epochMillis N { c with readings := c.readings+1 } ≤ (N.clock c.readings).millis
  unfold epochMillis
  cases hepoch : c.epoch with
  | some epoch => exact h.past epoch hepoch c.readings le_rfl
  | none => exact hfirst hepoch

theorem not_trueTimes_timestampMs (hfirst : ¬FirstCallInTime N c) (c' : Client)
    (hlater : Extends (timestampMs N c).2 c') : ¬TrueTimes c' := by
  obtain ⟨hepoch, hlt⟩ := Classical.not_imp.mp hfirst
  apply not_trueTimes_call (N := N) (c := { c with readings := c.readings+1 })
    (N.clock c.readings) _ c' hlater
  rw [epochMillis, hepoch]
  exact not_le.mp hlt

/-! The stamps of a datagram. -/

theorem kernelTimestamp_cons (kernel_time : Timespec) (rest : List Timespec) (timestamp : UInt64) :
    kernelTimestamp N (kernel_time :: rest) timestamp c =
      kernelTimestamp N rest (timestampMsOf N kernel_time c).1 (timestampMsOf N kernel_time c).2 :=
        rfl

theorem timed_kernelTimestamp (hN : Forward N) (stamps : List Timespec) (timestamp : UInt64)
    (h : Timed N c) (hstamps : ∀ ts ∈ stamps, epochMillis N c ≤ ts.millis) :
    Timed N (kernelTimestamp N stamps timestamp c).2 := by
  induction stamps generalizing timestamp c with
  | nil => exact h
  | cons kernel_time rest ih =>
    rw [kernelTimestamp_cons]
    apply ih
    · exact h.call hN kernel_time (hstamps kernel_time List.mem_cons_self)
    · rw [epochMillis_timestampMsOf]
      exact fun ts hts => hstamps ts (List.mem_cons_of_mem _ hts)

theorem extends_kernelTimestamp (stamps : List Timespec) (timestamp : UInt64) :
    Extends c (kernelTimestamp N stamps timestamp c).2 := by
  induction stamps generalizing timestamp c with
  | nil => exact ⟨fun _ h => h, fun _ h => h⟩
  | cons kernel_time rest ih =>
    rw [kernelTimestamp_cons]
    exact (extends_timestampMsOf kernel_time).trans (ih _)

theorem not_trueTimes_kernelTimestamp (stamps : List Timespec) (timestamp : UInt64) (ts : Timespec)
    (hts : ts ∈ stamps) (hlt : ts.millis < epochMillis N c) (c' : Client)
    (hlater : Extends (kernelTimestamp N stamps timestamp c).2 c') :
    ¬TrueTimes c' := by
  induction stamps generalizing timestamp c with
  | nil => cases hts
  | cons kernel_time rest ih =>
    rw [kernelTimestamp_cons] at hlater
    rcases List.mem_cons.mp hts with rfl | hts
    · exact not_trueTimes_call ts hlt c' ((extends_kernelTimestamp rest _).trans hlater)
    · refine ih _ hts ?_ hlater
      rw [epochMillis_timestampMsOf]
      exact hlt

/-- A stamp initialises `EPOCH`. -/
theorem epoch_kernelTimestamp (stamps : List Timespec) (timestamp : UInt64) (hne : stamps ≠ []) :
    (kernelTimestamp N stamps timestamp c).2.epoch ≠ none := by
  cases stamps with
  | nil => exact absurd rfl hne
  | cons kernel_time rest =>
    obtain ⟨epoch, -, hepoch, -⟩ := timestampMsOf_eq (N := N) (c := c) kernel_time
    have hlater := (extends_kernelTimestamp (N := N) rest (timestampMsOf N kernel_time c).1).epoch
      epoch hepoch
    rw [kernelTimestamp_cons, hlater]
    exact Option.some_ne_none epoch

end Call

/-! The downlink run, one message a step. -/

structure Downlink where
  client : Client
  client_seq_no : ℤ := 1
  exit : Exit := .waiting

/-- One turn of the loop in `recv_packets_and_send_ack`. -/
def downlinkStep (N : Native) (d : Downlink) (msg : RecvMsg) : Option Downlink :=
  if d.exit = .waiting then
    let (exit, client) := recvPacketsAndSendAck N (recvPacket N) [msg] d.client_seq_no d.client
    some { client, exit, client_seq_no := wrap32 (d.client_seq_no+1) }
  else none

/-- Whether the loop acknowledges a datagram. -/
def answers (N : Native) (payload : Bytes) : Bool :=
  match Packet.parse N.host payload with
  | .ok p => p.header.sequence_number ≠ 0
  | .error _ => false

/-- The stamps of a datagram are not before `EPOCH`, and where it has none, the reply is not
the first to ask for the time, unless it does so within a millisecond. -/
def DatagramInTime (N : Native) (d : Downlink) : RecvMsg → Prop
  | .failed _ => True
  | .datagram payload msg_flags stamps _ => msg_flags = 0 →
    (∀ ts ∈ stamps, epochMillis N d.client ≤ ts.millis) ∧
    (stamps = [] → answers N payload = true →
      FirstCallInTime N { d.client with readings := d.client.readings+1 })

section Downlink

variable {N : Native}

theorem recvPacket_cases (msg : RecvMsg) (c : Client) :
    (∃ e, recvPacket N msg c = (.error e, c) ∧ e ≠ .waiting ∧
      ∀ payload stamps h, msg ≠ .datagram payload 0 stamps h) ∨
    ∃ payload stamps h, msg = .datagram payload 0 stamps h ∧ recvPacket N msg c =
      (.ok ⟨(kernelTimestamp N stamps uint64Minus1 c).1, payload, h⟩,
        (kernelTimestamp N stamps uint64Minus1 c).2) := by
  cases msg with
  | failed eagain =>
    refine .inl ⟨_, rfl, ?_, fun _ _ _ h => by cases h⟩
    cases eagain <;> simp
  | datagram payload msg_flags stamps h =>
    by_cases hflags : msg_flags = 0
    · subst hflags
      exact .inr ⟨payload, stamps, h, rfl, by simp [recvPacket]⟩
    · refine .inl ⟨.exited, by simp [recvPacket, hflags], by simp, ?_⟩
      intro _ _ _ heq
      cases heq
      exact hflags rfl

/-- A turn of the loop, and what comes after it. -/
theorem recvPacketsAndSendAck_turn (msg : RecvMsg) (rest : List RecvMsg) (client_seq_no : ℤ)
    (c : Client) : recvPacketsAndSendAck N (recvPacket N) (msg :: rest) client_seq_no c =
      let turn := recvPacketsAndSendAck N (recvPacket N) [msg] client_seq_no c
      if turn.1 = .waiting then recvPacketsAndSendAck N (recvPacket N) rest
        (wrap32 (client_seq_no+1)) turn.2
      else turn := by
  rw [recvPacketsAndSendAck, recvPacketsAndSendAck]
  rcases recvPacket_cases (N := N) msg c with ⟨e, hrecv, he, -⟩ | ⟨payload, stamps, h, -, hrecv⟩
  · simp only [hrecv, he, if_false]
  · simp only [hrecv]
    cases Packet.parse N.host payload with
    | error what => simp
    | ok p =>
      by_cases hseq : p.header.sequence_number ≤ 0
      · simp [hseq]
      · simp only [hseq, if_false]
        split <;> simp [recvPacketsAndSendAck]

theorem downlinkStep_turn (msg : RecvMsg) (d d' : Downlink) (h : downlinkStep N d msg = some d') :
    recvPacketsAndSendAck N (recvPacket N) [msg] d.client_seq_no d.client = (d'.exit, d'.client) ∧
    d'.client_seq_no = wrap32 (d.client_seq_no+1) := by
  unfold downlinkStep at h
  split_ifs at h
  obtain rfl := Option.some.inj h
  exact ⟨rfl, rfl⟩

/-- The loop is the run of its turns. -/
theorem recvPacketsAndSendAck_run (msgs : List RecvMsg) (d d' : Downlink)
    (hwaiting : d.exit = .waiting) (h : runEvents (downlinkStep N) d msgs = some d') :
    recvPacketsAndSendAck N (recvPacket N) msgs d.client_seq_no d.client = (d'.exit,
      d'.client) := by
  induction msgs generalizing d with
  | nil =>
    cases h
    rw [hwaiting]
    rfl
  | cons msg rest ih =>
    obtain ⟨d₁, hstep, hrest⟩ := runEvents_cons (downlinkStep N) d d' msg rest h
    obtain ⟨hturn, hseq⟩ := downlinkStep_turn msg d d₁ hstep
    rw [recvPacketsAndSendAck_turn, hturn]
    dsimp only
    split_ifs with hexit
    · rw [← hseq]
      exact ih d₁ hexit hrest
    · cases rest with
      | nil =>
        cases hrest
        rfl
      | cons msg' rest =>
        rw [runEvents, downlinkStep, if_neg hexit] at hrest
        cases hrest

/-- A turn asks about the stamps, reads the clock for the log, and asks for the time if it
sends a reply. -/
theorem turn_times (payload : Bytes) (stamps : List Timespec) (h : payload.length ≤ recvBufferLen)
    (client_seq_no : ℤ) (c c' : Client) (exit : Exit)
    (hturn : recvPacketsAndSendAck N (recvPacket N) [.datagram payload 0 stamps h] client_seq_no c =
      (exit, c')) :
    (answers N payload = false ∧ SameTimes (kernelTimestamp N stamps uint64Minus1 c).2 c') ∨
    (answers N payload = true ∧ ∃ c₂, SameTimes (kernelTimestamp N stamps uint64Minus1 c).2 c₂ ∧
      c₂.readings = (kernelTimestamp N stamps uint64Minus1 c).2.readings+1 ∧
        SameTimes (timestampMs N c₂).2 c') := by
  have hrecv : recvPacket N (.datagram payload 0 stamps h) c =
      (.ok ⟨(kernelTimestamp N stamps uint64Minus1 c).1, payload, h⟩,
      (kernelTimestamp N stamps uint64Minus1 c).2) := by simp [recvPacket]
  generalize kernelTimestamp N stamps uint64Minus1 c = stamped at hrecv
  rw [recvPacketsAndSendAck, hrecv] at hturn
  dsimp only at hturn
  cases hp : Packet.parse N.host payload with
  | error what =>
    simp only [hp] at hturn
    cases hturn
    exact .inl ⟨by rw [answers, hp], rfl, rfl, le_rfl⟩
  | ok p =>
    have hlog : SameTimes stamped.2 (logPacket N p stamped.1 stamped.2) := ⟨rfl, rfl, Nat.le_succ _⟩
    simp only [hp, uint64_le_zero_iff] at hturn
    by_cases hseq : p.header.sequence_number = 0
    · rw [if_pos hseq] at hturn
      cases hturn
      exact .inl ⟨by simp [answers, hp, hseq], hlog⟩
    · rw [if_neg hseq] at hturn
      refine .inr ⟨by simp [answers, hp, hseq], logPacket N p stamped.1 stamped.2, hlog, rfl, ?_⟩
      let q := (p.transformIntoAck (uint64OfInt client_seq_no) stamped.1).setSendTimestamp N
        (logPacket N p stamped.1 stamped.2)
      rcases sendPacket_cases (N := N) (q.1.toString N.host) q.2 with hsend | hsend
      · rw [show sendPacket N _ _ = _ from hsend] at hturn
        cases hturn
        exact ⟨rfl, rfl, le_rfl⟩
      · rw [show sendPacket N _ _ = _ from hsend] at hturn
        cases hturn
        exact ⟨rfl, rfl, le_rfl⟩

theorem firstCallInTime_congr (c c' : Client) (hepoch : c'.epoch = c.epoch)
    (hreadings : c'.readings = c.readings) : FirstCallInTime N c' ↔ FirstCallInTime N c := by
  rw [FirstCallInTime, FirstCallInTime, hepoch, hreadings]

theorem downlink_timed (hN : Forward N) (d : Downlink) (msg : RecvMsg) (d' : Downlink)
    (hok : DatagramInTime N d msg) (hstep : downlinkStep N d msg = some d') (h : Timed N d.client) :
    Timed N d'.client := by
  obtain ⟨hturn, -⟩ := downlinkStep_turn msg d d' hstep
  rcases recvPacket_cases (N := N) msg d.client with ⟨e, hrecv, -⟩ | ⟨payload, stamps, hle, rfl, -⟩
  · rw [recvPacketsAndSendAck, hrecv] at hturn
    obtain ⟨-, hclient⟩ := Prod.mk.inj hturn
    exact hclient ▸ h
  · obtain ⟨hstamps, hfirst⟩ := hok rfl
    have hstamped := timed_kernelTimestamp hN stamps uint64Minus1 h hstamps
    rcases turn_times payload stamps hle d.client_seq_no d.client d'.client d'.exit hturn with
      ⟨-, hsame⟩ | ⟨hanswers, c₂, hsame, hreadings, hsame'⟩
    · exact hstamped.later hsame
    · refine (timed_timestampMs hN (hstamped.later hsame) ?_).later hsame'
      intro hnone
      have hnil : stamps = [] := by
        by_contra hne
        exact epoch_kernelTimestamp (N := N)
          (c := d.client) stamps uint64Minus1 hne (hsame.epoch.symm.trans hnone)
      subst hnil
      exact (firstCallInTime_congr { d.client with readings := d.client.readings+1 } c₂ hsame.epoch
        hreadings).mpr
        (hfirst rfl hanswers) hnone

theorem downlink_not_trueTimes (d : Downlink) (msg : RecvMsg) (d' : Downlink)
    (hno : ¬DatagramInTime N d msg) (hstep : downlinkStep N d msg = some d') :
    ¬TrueTimes d'.client := by
  obtain ⟨hturn, -⟩ := downlinkStep_turn msg d d' hstep
  rcases recvPacket_cases (N := N) msg d.client with
    ⟨e, hrecv, -, hflags⟩ | ⟨payload, stamps, hle, rfl, -⟩
  · refine absurd ?_ hno
    cases msg with
    | failed eagain => trivial
    | datagram payload msg_flags stamps h =>
      rintro rfl
      exact absurd rfl (hflags payload stamps h)
  · have hcases := turn_times payload stamps hle d.client_seq_no d.client d'.client d'.exit hturn
    have hlater : Extends (kernelTimestamp N stamps uint64Minus1 d.client).2 d'.client := by
      rcases hcases with ⟨-, hsame⟩ | ⟨-, c₂, hsame, -, hsame'⟩
      · exact hsame.extends
      · have hread : SameTimes c₂ (currentTime N c₂).2 := ⟨rfl, rfl, Nat.le_succ _⟩
        exact ((hsame.extends.trans hread.extends).trans
          (extends_timestampMsOf (N.clock c₂.readings))).trans hsame'.extends
    intro htrue
    apply hno
    intro _
    constructor
    · intro ts hts
      by_contra hlt
      exact not_trueTimes_kernelTimestamp stamps uint64Minus1 ts hts (not_le.mp hlt) d'.client
        hlater htrue
    · rintro rfl hanswers
      rcases hcases with ⟨hanswers', -⟩ | ⟨-, c₂, hsame, hreadings, hsame'⟩
      · rw [hanswers'] at hanswers
        cases hanswers
      · by_contra hfirst
        rw [← firstCallInTime_congr { d.client with readings := d.client.readings+1 } c₂ hsame.epoch
          hreadings] at hfirst
        exact not_trueTimes_timestampMs hfirst d'.client hsame'.extends htrue

end Downlink

/-! The uplink run. -/

/-- The sender's first call, and the stamps of the acks, are not before `EPOCH`. -/
def CallInTime (N : Native) (u : Uplink) : UplinkEvent → Prop
  | .sender => ∀ ts, u.sender.pc = .startingAt ts → epochMillis N u.client ≤ ts.millis
  | .receiver => ∀ since ack rest, u.receiver = .receiving since → u.socket = ack :: rest →
      ∀ ts ∈ ack.stamps, epochMillis N u.client ≤ ts.millis
  | _ => True

/-- The sender has made its first call. -/
def SenderPc.begun : SenderPc → Bool
  | .starting | .startingAt _ => false
  | _ => true

/-- The reading that the sender has taken for a later call. -/
def SenderPc.pending : SenderPc → Option Timespec
  | .checkingAt ts | .creatingAt _ ts | .finishingAt ts => some ts
  | _ => none

/-- The sender takes the readings for its later calls when `EPOCH` is set. -/
def SenderTimed (s : Sender) (c : Client) : Prop :=
  s.pc.begun = true → ∃ epoch, c.epoch = some epoch ∧ ∀ ts, s.pc.pending = some ts →
    epoch.toNat ≤ ts.millis

section Uplink

variable {N : Native} {pacing : Pacing} {s s' : Sender} {c c' : Client}

theorem SenderTimed.extends (h : SenderTimed s c) (hlater : Extends c c') : SenderTimed s c' := by
  intro hbegun
  obtain ⟨epoch, hepoch, hpending⟩ := h hbegun
  exact ⟨epoch, hlater.epoch epoch hepoch, hpending⟩

theorem SenderTimed.inTime (h : SenderTimed s c) (hbegun : s.pc.begun = true) (ts : Timespec)
    (hts : s.pc.pending = some ts) : epochMillis N c ≤ ts.millis := by
  obtain ⟨epoch, hepoch, hpending⟩ := h hbegun
  rw [epochMillis, hepoch]
  exact hpending ts hts

/-- After a call. -/
theorem senderTimed_call (ts : Timespec) (hpending : s'.pc.pending = none) :
    SenderTimed s' (timestampMsOf N ts c).2 := by
  obtain ⟨epoch, -, hepoch, -⟩ := timestampMsOf_eq (N := N) (c := c) ts
  refine fun _ => ⟨epoch, hepoch, fun ts h => ?_⟩
  rw [hpending] at h
  cases h

/-- After a reading for a later call. -/
theorem SenderTimed.read (h : SenderTimed s c) (hpast : EpochPast N c) (hbegun : s.pc.begun = true)
    (hpending : s'.pc.pending = some (N.clock c.readings)) :
    SenderTimed s' (currentTime N c).2 := by
  obtain ⟨epoch, hepoch, -⟩ := h hbegun
  refine fun _ => ⟨epoch, hepoch, fun ts hts => ?_⟩
  obtain rfl := Option.some.inj (hpending.symm.trans hts)
  exact hpast epoch hepoch c.readings le_rfl

/-- After a step without a reading. -/
theorem SenderTimed.keep (h : SenderTimed s c) (hbegun : s.pc.begun = true)
    (hpending : s'.pc.pending = none) (hepoch : c'.epoch = c.epoch) : SenderTimed s' c' := by
  obtain ⟨epoch, he, -⟩ := h hbegun
  refine fun _ => ⟨epoch, hepoch.trans he, fun ts hts => ?_⟩
  rw [hpending] at hts
  cases hts

theorem SenderMove.timed (hN : Forward N) (h : SenderMove N pacing s c s' c') (hc : Timed N c)
    (hs : SenderTimed s c) (hok : ∀ ts, s.pc = .startingAt ts → epochMillis N c ≤ ts.millis) :
    Timed N c' ∧ SenderTimed s' c' := by
  have hread : SameTimes c (currentTime N c).2 := ⟨rfl, rfl, Nat.le_succ _⟩
  cases h with
  | start hpc => exact ⟨hc.later hread, fun hbegun => absurd hbegun Bool.false_ne_true⟩
  | started ts hpc => exact ⟨hc.call hN ts (hok ts hpc), senderTimed_call ts rfl⟩
  | check hpc => exact ⟨hc.later hread, hs.read hc.past (hpc ▸ rfl) rfl⟩
  | goOn ts hpc hrunning htime =>
    exact ⟨hc.call hN ts (hs.inTime (hpc ▸ rfl) ts (hpc ▸ rfl)), senderTimed_call ts rfl⟩
  | stop ts hpc => exact ⟨hc.call hN ts (hs.inTime (hpc ▸ rfl) ts (hpc ▸ rfl)),
      senderTimed_call ts rfl⟩
  | next hpc hcount => exact ⟨hc, hs.keep (hpc ▸ rfl) rfl rfl⟩
  | sleep now hpc hcount => exact ⟨hc, hs.keep (hpc ▸ rfl) rfl rfl⟩
  | create seq_num hpc => exact ⟨hc.later hread, hs.read hc.past (hpc ▸ rfl) rfl⟩
  | created seq_num ts hpc =>
    exact ⟨hc.call hN ts (hs.inTime (hpc ▸ rfl) ts (hpc ▸ rfl)), senderTimed_call ts rfl⟩
  | sent message hpc => exact ⟨hc.later ⟨rfl, rfl, le_rfl⟩, hs.keep (hpc ▸ rfl) rfl rfl⟩
  | failed hpc =>
    refine ⟨hc, hs.keep ?_ rfl rfl⟩
    rcases hpc with ⟨message, hpc⟩ | ⟨left, message, hpc⟩
    · exact hpc ▸ rfl
    · exact hpc ▸ rfl
  | wake since hpc => exact ⟨hc, hs.keep (hpc ▸ rfl) rfl rfl⟩
  | finish hpc => exact ⟨hc.later hread, hs.read hc.past (hpc ▸ rfl) rfl⟩
  | finished ts hpc =>
    exact ⟨hc.call hN ts (hs.inTime (hpc ▸ rfl) ts (hpc ▸ rfl)), senderTimed_call ts rfl⟩
  | terminated left message hpc => exact ⟨hc.later ⟨rfl, rfl, le_rfl⟩, hs.keep (hpc ▸ rfl) rfl rfl⟩
  | clear message hpc => exact ⟨hc.later ⟨rfl, rfl, le_rfl⟩, hs.keep (hpc ▸ rfl) rfl rfl⟩

theorem ReceiverMove.timed {now : ℕ} {r r' : ReceiverPc} {socket socket' : List Ack}
    (hN : Forward N) (h : ReceiverMove N now r socket c r' socket' c') (hc : Timed N c)
    (hok : ∀ since ack rest, r = .receiving since → socket = ack :: rest →
      ∀ ts ∈ ack.stamps, epochMillis N c ≤ ts.millis) :
    Timed N c' ∧ Extends c c' := by
  cases h with
  | received since ack rest p hp =>
    exact ⟨timed_kernelTimestamp hN ack.stamps uint64Minus1 hc (hok since ack _ rfl rfl),
      extends_kernelTimestamp _ _⟩
  | logged packet timestamp =>
    have hlog : SameTimes c (logPacket N packet timestamp c) := ⟨rfl, rfl, Nat.le_succ _⟩
    exact ⟨hc.later hlog, hlog.extends⟩
  | _ => exact ⟨hc, fun _ h => h, fun _ h => h⟩

theorem uplink_timed (hN : Forward N) (u : Uplink) (e : UplinkEvent) (u' : Uplink)
    (hok : CallInTime N u e) (hstep : uplinkStep N pacing u e = some u')
    (h : Timed N u.client ∧ SenderTimed u.sender u.client) :
    Timed N u'.client ∧ SenderTimed u'.sender u'.client := by
  cases e with
  | sender =>
    obtain ⟨⟨s', c'⟩, hmove, rfl⟩ := Option.map_eq_some_iff.mp hstep
    exact (senderMove_of_step _ _ _ _ hmove).timed hN h.1 h.2 hok
  | receiver =>
    obtain ⟨⟨r', socket', c'⟩, hmove, rfl⟩ := Option.map_eq_some_iff.mp hstep
    obtain ⟨htimed, hlater⟩ := (receiverMove_of_step _ _ _ _ _ _ hmove).timed hN h.1 hok
    exact ⟨htimed, h.2.extends hlater⟩
  | deliver ack =>
    cases hstep
    exact h
  | elapse ns =>
    cases hstep
    exact h

theorem uplink_not_trueTimes (u : Uplink) (e : UplinkEvent) (u' : Uplink) (hno : ¬CallInTime N u e)
    (hstep : uplinkStep N pacing u e = some u') : ¬TrueTimes u'.client := by
  cases e with
  | sender =>
    simp only [CallInTime, not_forall, not_le] at hno
    obtain ⟨ts, hpc, hlt⟩ := hno
    obtain ⟨⟨s', c'⟩, hmove, rfl⟩ := Option.map_eq_some_iff.mp hstep
    rw [senderStep, hpc] at hmove
    cases hmove
    exact not_trueTimes_call ts hlt _ ⟨fun _ h => h, fun _ h => h⟩
  | receiver =>
    simp only [CallInTime, not_forall, not_le] at hno
    obtain ⟨since, ack, rest, hreceiving, hsocket, ts, hts, hlt⟩ := hno
    obtain ⟨⟨r', socket', c'⟩, hmove, rfl⟩ := Option.map_eq_some_iff.mp hstep
    obtain ⟨p, -, hreceive⟩ := receive_ack (N := N) ack u.client
    rw [hreceiving, hsocket, receiverStep, hreceive] at hmove
    cases hmove
    exact not_trueTimes_kernelTimestamp ack.stamps uint64Minus1 ts hts hlt _
      ⟨fun _ h => h, fun _ h => h⟩
  | deliver ack => exact absurd trivial hno
  | elapse ns => exact absurd trivial hno

end Uplink

/-- With a clock that does not go back, all the times handed out by a run are true exactly
if its stamps, and the reading for the call that initialises `EPOCH`, are not before `EPOCH`. -/
theorem relative_times_iff (N : Native) (c : Client) (hN : Forward N) (hpast : EpochPast N c)
    (hcalls : c.calls = []) : (∀ msgs d, runEvents (downlinkStep N) { client := c } msgs = some d →
      recvPacketsAndSendAck N (recvPacket N) msgs 1 c = (d.exit, d.client) ∧
      (Throughout (downlinkStep N) (fun d => TrueTimes d.client) { client := c } msgs ↔
        Along (downlinkStep N) (DatagramInTime N) { client := c } msgs)) ∧
    ∀ pacing events u, runEvents (uplinkStep N pacing) (Uplink.start c) events = some u →
      (Throughout (uplinkStep N pacing) (fun u => TrueTimes u.client) (Uplink.start c) events ↔
        Along (uplinkStep N pacing) (CallInTime N) (Uplink.start c) events) := by
  have hnone : Timed N c := by
    refine ⟨trueTimes_of_value ?_, hpast⟩
    rw [hcalls]
    exact fun call hcall => by cases hcall
  constructor
  · intro msgs d hrun
    refine ⟨recvPacketsAndSendAck_run msgs { client := c } d rfl hrun, ?_⟩
    exact throughout_iff_along (downlinkStep N) (DatagramInTime N) (fun d => Timed N d.client)
      (fun d => TrueTimes d.client) (downlink_timed hN) (fun _ h => h.times)
      (fun d msg d' hno hstep _ => downlink_not_trueTimes d msg d' hno hstep) msgs _ d hrun hnone
  · intro pacing events u hrun
    exact throughout_iff_along (uplinkStep N pacing) (CallInTime N)
      (fun u => Timed N u.client ∧ SenderTimed u.sender u.client) (fun u => TrueTimes u.client)
        (uplink_timed hN)
      (fun _ h => h.1.times)
        (fun u e u' hno hstep _ => uplink_not_trueTimes u e u' hno hstep) events _ u hrun
      ⟨hnone.later ⟨rfl, rfl, le_rfl⟩, fun hbegun => absurd hbegun Bool.false_ne_true⟩

theorem length_ones_le : (List.replicate 48 (1:UInt8)).length ≤ recvBufferLen :=
  length_replicate_le 1

/-- A probe that the kernel stamped at `ts`. -/
def stampedProbe (ts : Timespec) : RecvMsg := .datagram (List.replicate 48 1) 0 [ts] length_ones_le

theorem relative_times_stopped_clock :
    Throughout (downlinkStep stoppedClock) (fun d => TrueTimes d.client)
    { client := {} } [stampedProbe (stoppedClock.clock 0)] := by
  have hforward : Forward stoppedClock := fun _ _ _ => le_rfl
  have hpast : EpochPast stoppedClock {} := fun _ h => by cases h
  obtain ⟨d, hrun⟩ : ∃ d, runEvents (downlinkStep stoppedClock)
      { client := {} } [stampedProbe (stoppedClock.clock 0)] = some d :=
    Option.isSome_iff_exists.mp (by decide +kernel)
  refine ((relative_times_iff stoppedClock {} hforward hpast rfl).1 _ d hrun).2.mpr
    ⟨fun _ => ⟨?_, fun h => by cases h⟩, ?_⟩
  · intro ts hts
    rw [List.mem_singleton.mp hts]
    exact le_rfl
  · exact fun _ _ => trivial

/-- The clock shows two seconds when the first datagram is read. -/
def twoSeconds : Native where
  host := .little
  clock := fun _ => ⟨2, 0, Timespec.zero.nsec_lt, by decide⟩
  sends := fun _ => true

/-- Half a millisecond before that. -/
def justBefore : Timespec := ⟨1, 999500000, by decide, by decide⟩

theorem stampedProbe_calls :
    (runEvents (downlinkStep twoSeconds) { client := {} } [stampedProbe justBefore]).map (fun d =>
      d.client.calls.map (·.value)) = some [18446744073709551615, 0] := by
  decide +kernel

theorem first_stamp_wraps : Forward twoSeconds ∧ justBefore.nanos ≤ (twoSeconds.clock 0).nanos ∧
    ∃ d, runEvents (downlinkStep twoSeconds) { client := {} } [stampedProbe justBefore] = some d ∧
      (∃ call ∈ d.client.calls, call.value = uint64Minus1) ∧ ¬TrueTimes d.client := by
  obtain ⟨d, hrun, hcalls⟩ := Option.map_eq_some_iff.mp stampedProbe_calls
  obtain ⟨call, hcall, hvalue⟩ : ∃ call ∈ d.client.calls, call.value = uint64Minus1 := by
    apply List.mem_map.mp
    rw [hcalls]
    exact List.mem_cons_self
  exact ⟨fun _ _ _ => le_rfl, by decide, d, hrun, ⟨call, hcall, hvalue⟩, fun h =>
    h.marker call hcall hvalue⟩

end MmWaveTracker
