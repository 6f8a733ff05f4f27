import MmWaveTracker.RunClient
import MmWaveTracker.RelativeTime

/-! How long `send_udp_packets` sends: every test of its outer loop in an uplink run, against
the time that was asked for. -/
namespace MmWaveTracker

/-- One test of the outer loop: the reading it compares with the first one, `SENDER_RUNNING`,
and whether another burst is started. -/
structure LoopTest where
  reading : Timespec
  running : Bool
  burst : Bool

/-- An uplink run, with the first reading of the sender and the tests of its loop. -/
structure SenderRun where
  uplink : Uplink
  first : Option Timespec := none
  tests : List LoopTest := []

def SenderRun.start (c : Client) : SenderRun where
  uplink := Uplink.start c

def SenderPc.isStarting : SenderPc → Bool
  | .starting => true
  | _ => false

def SenderPc.isBursting : SenderPc → Bool
  | .bursting => true
  | _ => false

/-- The reading that the loop is about to test. -/
def SenderPc.tested : SenderPc → Option Timespec
  | .checkingAt ts => some ts
  | _ => none

/-- What a step that ends in `uplink` adds to the history. -/
def SenderRun.observe (N : Native) (r : SenderRun) (uplink : Uplink) : UplinkEvent → SenderRun
  | .sender =>
    { uplink
      first := if r.uplink.sender.pc.isStarting then some (N.clock r.uplink.client.readings)
        else r.first
      tests := r.tests ++ r.uplink.sender.pc.tested.toList.map fun reading =>
        ⟨reading, r.uplink.client.senderRunning, uplink.sender.pc.isBursting⟩ }
  | _ => { r with uplink }

def senderRunStep (N : Native) (pacing : Pacing) (r : SenderRun) (e : UplinkEvent) :
    Option SenderRun :=
  (uplinkStep N pacing r.uplink e).map fun uplink => r.observe N uplink e

/-- The milliseconds from `start` to the reading, negative if the clock was set back. -/
def LoopTest.elapsed (start : Timespec) (test : LoopTest) : ℤ := test.reading.millis - start.millis

/-- Another burst is started iff the time asked for is not over. -/
def LoopTest.Right (time_to_run : ℤ) (start : Timespec) (test : LoopTest) : Prop :=
  test.burst = true ↔ test.running = true ∧ test.elapsed start ≤ time_to_run*1000

/-- What the unsigned comparison with `duration` needs: the clock is not behind the first
reading, and what an overflow cuts off `time_to_run*1000` makes no difference. -/
def LoopTest.Comparable (time_to_run : ℤ) (start : Timespec) (test : LoopTest) : Prop :=
  test.running = true →
    if 0 ≤ wrap32 (time_to_run*1000) then
      0 ≤ test.elapsed start ∧
        (test.elapsed start ≤ wrap32 (time_to_run*1000) ∨ time_to_run*1000 < test.elapsed start)
    else
      (0 ≤ test.elapsed start ∧ test.elapsed start ≤ time_to_run*1000) ∨
        test.elapsed start ≤ wrap32 (time_to_run*1000)

/-! The comparison. -/

theorem wrap32_bounds (x : ℤ) : -2147483648 ≤ wrap32 x ∧ wrap32 x < 2147483648 := by
  unfold wrap32
  omega

theorem wrap32_le_of_nonneg (x : ℤ) (hx : 0 ≤ x) : wrap32 x ≤ x := by
  unfold wrap32
  omega

theorem millis_lt (ts : Timespec) : ts.millis < 18446744073710 := by
  have hnanos : ts.nanos < 18446744073709551616 := ts.nanos_lt
  rw [Timespec.millis]
  omega

/-- Elapsed time and duration as the unsigned numbers that the loop compares. -/
theorem difference_le_iff (reading start : Timespec) (d : ℤ)
    (hd : -2147483648 ≤ d ∧ d < 2147483648) :
    timestampMsRaw reading - timestampMsRaw start ≤ uint64OfInt d ↔
      if 0 ≤ d then 0 ≤ (reading.millis:ℤ) - start.millis ∧ (reading.millis:ℤ) - start.millis ≤ d
      else 0 ≤ (reading.millis:ℤ) - start.millis ∨ (reading.millis:ℤ) - start.millis ≤ d := by
  have hreading := millis_lt reading
  have hstart := millis_lt start
  rw [UInt64.le_iff_toNat_le, UInt64.toNat_sub, toNat_timestampMsRaw, toNat_timestampMsRaw,
    uint64OfInt, UInt64.toNat_ofNat']
  split_ifs with h <;> omega

theorem difference_of_epoch (a b epoch : UInt64) : (a - epoch) - (b - epoch) = a - b := by
  rw [← UInt64.toBitVec_inj]
  simp only [UInt64.toBitVec_sub]
  bv_omega

theorem right_iff_comparable (time_to_run : ℤ) (h₀ : 0 ≤ time_to_run) (start : Timespec)
    (test : LoopTest) (htest : test.burst = true ↔
      timestampMsRaw test.reading - timestampMsRaw start ≤ uint64OfInt (wrap32 (time_to_run*1000)) ∧
        test.running = true) :
    test.Right time_to_run start ↔ test.Comparable time_to_run start := by
  have hbounds := wrap32_bounds (time_to_run*1000)
  have hle := wrap32_le_of_nonneg (time_to_run*1000) (by omega)
  rw [LoopTest.Right, LoopTest.Comparable, htest, difference_le_iff _ _ _ hbounds]
  change _ ↔ (test.running = true → _)
  unfold LoopTest.elapsed
  cases test.running with
  | false => simp
  | true =>
    simp only [and_true, true_and, true_imp_iff]
    split_ifs <;> omega

/-! The run. -/

/-- The history agrees with what the sender holds. -/
structure SenderRun.Recorded (pacing : Pacing) (r : SenderRun) : Prop where
  starting : ∀ ts, r.uplink.sender.pc = .startingAt ts → r.first = some ts
  begun : r.uplink.sender.pc.begun = true → ∃ start epoch, r.first = some start ∧
    r.uplink.client.epoch = some epoch ∧
      r.uplink.sender.start_time_ms = timestampMsRaw start - epoch
  notBegun : r.uplink.sender.pc.begun = false → r.tests = []
  test : ∀ test ∈ r.tests, ∃ start, r.first = some start ∧ (test.burst = true ↔
    timestampMsRaw test.reading - timestampMsRaw start ≤ pacing.duration ∧ test.running = true)

section Run

variable {N : Native} {pacing : Pacing}

theorem recorded_start (c : Client) : (SenderRun.start c).Recorded pacing where
  starting := fun _ h => by cases h
  begun := fun h => by cases h
  notBegun := fun _ => rfl
  test := fun _ h => by cases h

/-- Once begun, the sender keeps its start time. -/
theorem SenderMove.begun {s s' : Sender} {c c' : Client} (h : SenderMove N pacing s c s' c')
    (hbegun : s.pc.begun = true) : s'.pc.begun = true ∧ s'.start_time_ms = s.start_time_ms ∧
      Extends c c' := by
  have hsame : Extends c c := ⟨fun _ h => h, fun _ h => h⟩
  cases h with
  | start hpc =>
    rw [hpc] at hbegun
    cases hbegun
  | started ts hpc =>
    rw [hpc] at hbegun
    cases hbegun
  | goOn ts hpc hrunning htime => exact ⟨rfl, rfl, extends_timestampMsOf ts⟩
  | stop ts hpc => exact ⟨rfl, rfl, extends_timestampMsOf ts⟩
  | created seq_num ts hpc => exact ⟨rfl, rfl, extends_timestampMsOf ts⟩
  | finished ts hpc => exact ⟨rfl, rfl, extends_timestampMsOf ts⟩
  | _ => exact ⟨rfl, rfl, hsame.calls, hsame.epoch⟩

/-- The value of a call once `EPOCH` is set. -/
theorem timestampMsOf_value (ts : Timespec) (c : Client) (epoch : UInt64)
    (hepoch : c.epoch = some epoch) : (timestampMsOf N ts c).1 = timestampMsRaw ts - epoch := by
  simp only [timestampMsOf, epochOf, hepoch]

/-- The test that the loop makes at `checkingAt`. -/
theorem isBursting_step {now : ℕ} {s s' : Sender} {c c' : Client} (ts start : Timespec)
    (epoch : UInt64) (hpc : s.pc = .checkingAt ts) (hepoch : c.epoch = some epoch)
    (hstart : s.start_time_ms = timestampMsRaw start - epoch)
    (h : senderStep N pacing now s c = some (s', c')) :
    s'.pc.isBursting = true ↔
      timestampMsRaw ts - timestampMsRaw start ≤ pacing.duration ∧ c.senderRunning = true := by
  have hrunning := (timestampMsOf_frame (N := N) ts c).2.2
  have hvalue := timestampMsOf_value (N := N) ts c epoch hepoch
  have hdiff := difference_of_epoch (timestampMsRaw ts) (timestampMsRaw start) epoch
  simp only [senderStep, hpc, hvalue, hstart, hdiff, hrunning] at h
  split_ifs at h with htest
  · cases h
    exact iff_of_true rfl htest
  · cases h
    exact iff_of_false Bool.false_ne_true htest

/-- The first two steps of the sender: it reads the clock, and takes the reading as its start. -/
theorem recorded_beginning (r : SenderRun) (s' : Sender) (c' : Client)
    (hmove : senderStep N pacing r.uplink.now r.uplink.sender r.uplink.client = some (s', c'))
    (hbegun : r.uplink.sender.pc.begun = false) (h : r.Recorded pacing) :
    (r.observe N { r.uplink with sender := s', client := c' } .sender).Recorded pacing := by
  have htests := h.notBegun hbegun
  cases hpc : r.uplink.sender.pc with
  | starting =>
    rw [senderStep, hpc] at hmove
    obtain ⟨rfl, rfl⟩ := Prod.mk.inj (Option.some.inj hmove)
    simp only [SenderRun.observe, hpc, htests]
    constructor
    · intro ts hts
      exact congrArg some (SenderPc.startingAt.inj hts)
    · exact fun hb => absurd hb Bool.false_ne_true
    · exact fun _ => rfl
    · exact fun test ht => absurd ht List.not_mem_nil
  | startingAt ts =>
    rw [senderStep, hpc] at hmove
    obtain ⟨rfl, rfl⟩ := Prod.mk.inj (Option.some.inj hmove)
    simp only [SenderRun.observe, hpc, htests]
    constructor
    · exact fun _ hts => absurd hts SenderPc.noConfusion
    · exact fun _ => ⟨ts, _, h.starting ts hpc, epochOf_eq.2.1, rfl⟩
    · exact fun _ => rfl
    · exact fun test ht => absurd ht List.not_mem_nil
  | _ =>
    rw [hpc] at hbegun
    cases hbegun

/-- The first reading is taken once. -/
theorem first_observe (r : SenderRun) (u : Uplink) (hbegun : r.uplink.sender.pc.begun = true) :
    (r.observe N u .sender).first = r.first := by
  have hnot : r.uplink.sender.pc.isStarting = false := by
    cases hpc : r.uplink.sender.pc with
    | starting =>
      rw [hpc] at hbegun
      cases hbegun
    | _ => rfl
  rw [SenderRun.observe, hnot]
  rfl

/-- Later the start time and `EPOCH` stay, so that every test compares with the first reading. -/
theorem recorded_begun (r : SenderRun) (s' : Sender) (c' : Client)
    (hmove : senderStep N pacing r.uplink.now r.uplink.sender r.uplink.client = some (s', c'))
    (hbegun : r.uplink.sender.pc.begun = true) (h : r.Recorded pacing) :
    (r.observe N { r.uplink with sender := s', client := c' } .sender).Recorded pacing := by
  obtain ⟨start, epoch, hfirst, hepoch, hstart⟩ := h.begun hbegun
  obtain ⟨hbegun', hstart', hextends⟩ := (senderMove_of_step _ _ _ _ hmove).begun hbegun
  have hfirst' :=
    (first_observe (N := N) r { r.uplink with sender := s', client := c' } hbegun).trans hfirst
  refine ⟨?_, ?_, ?_, ?_⟩
  · intro ts hts
    rw [show s'.pc = _ from hts] at hbegun'
    cases hbegun'
  · intro _
    exact ⟨start, epoch, hfirst', hextends.epoch epoch hepoch, hstart'.trans hstart⟩
  · intro hno
    rw [show s'.pc.begun = _ from hno] at hbegun'
    cases hbegun'
  · intro test htest
    refine ⟨start, hfirst', ?_⟩
    rcases List.mem_append.mp htest with hold | hnew
    · obtain ⟨start', hfirst'', htest'⟩ := h.test test hold
      obtain rfl := Option.some.inj (hfirst.symm.trans hfirst'')
      exact htest'
    · obtain ⟨reading, hreading, rfl⟩ := List.mem_map.mp hnew
      cases hpc : r.uplink.sender.pc with
      | checkingAt ts =>
        rw [hpc] at hreading
        obtain rfl := List.mem_singleton.mp hreading
        exact isBursting_step reading start epoch hpc hepoch hstart hmove
      | _ =>
        rw [hpc] at hreading
        cases hreading

theorem recorded_sender (r : SenderRun) (u : Uplink)
    (hstep : uplinkStep N pacing r.uplink .sender = some u)
    (h : r.Recorded pacing) : (r.observe N u .sender).Recorded pacing := by
  obtain ⟨⟨s', c'⟩, hmove, rfl⟩ := Option.map_eq_some_iff.mp hstep
  cases hbegun : r.uplink.sender.pc.begun with
  | false => exact recorded_beginning r s' c' hmove hbegun h
  | true => exact recorded_begun r s' c' hmove hbegun h

theorem ReceiverMove.extends {now : ℕ} {p p' : ReceiverPc} {socket socket' : List Ack}
    {c c' : Client} (h : ReceiverMove N now p socket c p' socket' c') : Extends c c' := by
  cases h with
  | received since ack rest p hp => exact extends_kernelTimestamp _ _
  | _ => exact ⟨fun _ h => h, fun _ h => h⟩

theorem recorded_step (r : SenderRun) (e : UplinkEvent) (r' : SenderRun)
    (hstep : senderRunStep N pacing r e = some r')
    (h : r.Recorded pacing) : r'.Recorded pacing := by
  obtain ⟨u, hu, rfl⟩ := Option.map_eq_some_iff.mp hstep
  cases e with
  | sender => exact recorded_sender r u hu h
  | receiver =>
    obtain ⟨⟨receiver, socket, c'⟩, hmove, rfl⟩ := Option.map_eq_some_iff.mp hu
    have hextends := (receiverMove_of_step _ _ _ _ _ _ hmove).extends
    refine ⟨h.starting, ?_, h.notBegun, h.test⟩
    intro hbegun
    obtain ⟨start, epoch, hfirst, hepoch, hstart⟩ := h.begun hbegun
    exact ⟨start, epoch, hfirst, hextends.epoch epoch hepoch, hstart⟩
  | deliver ack =>
    cases hu
    exact ⟨h.starting, h.begun, h.notBegun, h.test⟩
  | elapse ns =>
    cases hu
    exact ⟨h.starting, h.begun, h.notBegun, h.test⟩

end Run

/-- Every test of the loop is right about the time asked for exactly if the clock was not set
back behind the first reading and the overflow of `time_to_run*1000` makes no difference. -/
theorem send_duration_iff (N : Native) (sending_rate_mbps : ℚ) (time_to_run : ℤ)
    (h₀ : 0 ≤ time_to_run) (c : Client) (events : List UplinkEvent) (r : SenderRun)
    (hrun : runEvents (senderRunStep N (runtimeParameters sending_rate_mbps time_to_run))
      (SenderRun.start c) events = some r) :
    ∀ test ∈ r.tests, ∃ start, r.first = some start ∧
      (test.Right time_to_run start ↔ test.Comparable time_to_run start) := by
  intro test htest
  have hrecorded := runEvents_preserves _
    (SenderRun.Recorded (runtimeParameters sending_rate_mbps time_to_run))
    recorded_step events _ r hrun (recorded_start c)
  obtain ⟨start, hfirst, hburst⟩ := hrecorded.test test htest
  rw [runtimeParameters_duration] at hburst
  exact ⟨start, hfirst, right_iff_comparable time_to_run h₀ start test hburst⟩

def atSecond (n : Fin 1000) : Timespec := ⟨n, 0, Timespec.zero.nsec_lt, by have := n.isLt; omega⟩

/-- A clock that shows two seconds until `EPOCH` is set, and then `n` seconds. -/
def thenSecond (n : Fin 1000) : Native where
  host := .little
  clock := fun k => if k < 2 then atSecond 2 else atSecond n
  sends := fun _ => true

/-- The first reading, and the tests that the sender has made after four steps. -/
def firstTest (n : Fin 1000) (time_to_run : ℤ) : Option (Option ℕ × List (ℕ × Bool × Bool)) :=
  (runEvents (senderRunStep (thenSecond n) (runtimeParameters 1 time_to_run)) (SenderRun.start {})
    [.sender, .sender, .sender, .sender]).map fun r =>
      (r.first.map Timespec.millis,
        r.tests.map fun test => (test.reading.millis, test.running, test.burst))

theorem firstTest_run (n : Fin 1000) (time_to_run : ℤ) (first reading : ℕ) (burst : Bool)
    (h : firstTest n time_to_run = some (some first, [(reading, true, burst)])) :
    ∃ r start test, runEvents (senderRunStep (thenSecond n) (runtimeParameters 1 time_to_run))
        (SenderRun.start {}) [.sender, .sender, .sender, .sender] = some r ∧ r.first = some start ∧
          test ∈ r.tests ∧
      test.elapsed start = reading - first ∧ test.running = true ∧ test.burst = burst := by
  obtain ⟨r, hrun, hr⟩ := Option.map_eq_some_iff.mp h
  obtain ⟨hfirst, htests⟩ := Prod.mk.inj hr
  obtain ⟨start, hstart, hmillis⟩ := Option.map_eq_some_iff.mp hfirst
  obtain ⟨test, htest, hshown⟩ :=
    List.mem_map.mp (htests ▸ List.mem_singleton_self (reading, true, burst))
  obtain ⟨hreading, hshown⟩ := Prod.mk.inj hshown
  obtain ⟨hrunning, hburst⟩ := Prod.mk.inj hshown
  refine ⟨r, start, test, hrun, hstart, htest, ?_, hrunning, hburst⟩
  rw [LoopTest.elapsed, hreading, hmillis]

/-- One second into a run of ten seconds. -/
theorem send_duration_in_time : ∃ r start test,
    runEvents (senderRunStep (thenSecond 3) (runtimeParameters 1 10)) (SenderRun.start {})
      [.sender, .sender, .sender, .sender] = some r ∧ r.first = some start ∧ test ∈ r.tests ∧
        test.Right 10 start := by
  obtain ⟨r, start, test, hrun, hstart, htest, helapsed, hrunning, -⟩ :=
    firstTest_run 3 10 2000 3000 true (by decide +kernel)
  obtain ⟨start', hstart', hiff⟩ :=
    send_duration_iff (thenSecond 3) 1 10 (by decide) {} _ r hrun test htest
  obtain rfl := Option.some.inj (hstart.symm.trans hstart')
  refine ⟨r, start, test, hrun, hstart, htest, hiff.mpr ?_⟩
  intro _
  rw [helapsed]
  decide

/-- The loop makes a wrong test in its fourth step. -/
def WrongTest (n : Fin 1000) (time_to_run : ℤ) : Prop :=
  ∃ r start test, runEvents (senderRunStep (thenSecond n) (runtimeParameters 1 time_to_run))
      (SenderRun.start {}) [.sender, .sender, .sender, .sender] = some r ∧ r.first = some start ∧
        test ∈ r.tests ∧
    ¬test.Right time_to_run start

theorem wrongTest_of_firstTest (n : Fin 1000) (time_to_run : ℤ) (first reading : ℕ)
    (h : firstTest n time_to_run = some (some first, [(reading, true, false)]))
    (hle : (reading:ℤ) - first ≤ time_to_run*1000) : WrongTest n time_to_run := by
  obtain ⟨r, start, test, hrun, hstart, htest, helapsed, hrunning, hburst⟩ :=
    firstTest_run n time_to_run first reading false h
  refine ⟨r, start, test, hrun, hstart, htest, ?_⟩
  intro hright
  have hgo := hright.mpr ⟨hrunning, helapsed ▸ hle⟩
  rw [hburst] at hgo
  cases hgo

/-- The sender stops at once when the clock is set back by a second, and one second into a
run of 4294968 seconds. -/
theorem send_duration_fails : WrongTest 1 10 ∧ WrongTest 3 4294968 :=
  ⟨wrongTest_of_firstTest 1 10 2000 1000 (by decide +kernel) (by decide),
    wrongTest_of_firstTest 3 4294968 2000 3000 (by decide +kernel) (by decide)⟩

end MmWaveTracker
