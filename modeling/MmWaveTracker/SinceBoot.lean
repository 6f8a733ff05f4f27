import MmWaveTracker.SessionIsolation

/-! Two sessions that differ only in the traffic before them. Every reading of the byte
counters of one is a constant above that of the other; `StartTracing` fills the windows of
both with zeros. -/
namespace MmWaveTracker

/-- The phone with `c` more bytes on both mobile counters. -/
def Android.withEarlierTraffic (A : Android) (c : ℤ) : Android :=
  { A with moment := fun n => { A.moment n with traffic := { (A.moment n).traffic with
      mobileRxBytes := (A.moment n).traffic.mobileRxBytes + c
      mobileTxBytes := (A.moment n).traffic.mobileTxBytes + c } } }

/-- The report that the operation samples, if it does. -/
def Op.sampled (A : Android) (w : World) : Op → Option Report
  | .iterate _ => match (sampleFrom A w).1 with
    | .ok report => report
    | .error _ => none
  | _ => none

/-- The samples of a session, operation by operation. -/
def samples (A : Android) : World → List Op → List (Option Report)
  | _, [] => []
  | w, op :: rest => op.sampled A w :: samples A ((op.exec A).run w).2 rest

/-- A new session; it does not get going when `StartTracing` throws. -/
def sessionSamples (A : Android) (w : World) (ops : List Op) : Option (List (Option Report)) :=
  match (seedTracing A).run { w with tick := 0 } with
  | (.ok _, w') => some (samples A w' ops)
  | (.error _, _) => none

def speeds (r : Report) : ℤ × ℤ := (r.mobileRx_diff_Mbps, r.mobileTx_diff_Mbps)

/-- The speeds of the session are what they would be with more traffic before it. -/
def SpeedsUnaffected (A : Android) (w : World) (ops : List Op) (c : ℤ) : Prop :=
  (sessionSamples (A.withEarlierTraffic c) w ops).map (List.map (Option.map speeds)) =
    (sessionSamples A w ops).map (List.map (Option.map speeds))

/-- Megabits of so many bytes over so many seconds, rounded into the range of `int`, none of it
negative; bits are counted in a `long`. -/
def roundedRate (bytes seconds : ℤ) : ℤ :=
  max 0 (min 2147483647 ((2*Int.tdiv (wrap64 (8*bytes)) 1000000 + seconds)/(2*seconds)))

/-- Over the time since the windows were filled, `c` bytes are lost in the rounding. -/
structure Unnoticed (c prev_timestamp : ℤ) (r : Report) : Prop where
  rx : roundedRate (r.traffic.mobileRxBytes + c) (max (r.timeStamp-prev_timestamp) 1000/1000) =
    roundedRate r.traffic.mobileRxBytes (max (r.timeStamp-prev_timestamp) 1000/1000)
  tx : roundedRate (r.traffic.mobileTxBytes + c) (max (r.timeStamp-prev_timestamp) 1000/1000) =
    roundedRate r.traffic.mobileTxBytes (max (r.timeStamp-prev_timestamp) 1000/1000)

instance (c prev_timestamp : ℤ) (r : Report) : Decidable (Unnoticed c prev_timestamp r) :=
  decidable_of_iff (_ ∧ _) ⟨fun h => ⟨h.1, h.2⟩, fun h => ⟨h.rx, h.tx⟩⟩

/-- The times of the two zeros that are left in the windows. -/
def seedTimes (A : Android) : List ℤ := [(A.moment 3).now, (A.moment 4).now]

/-! The speed from a zero, and from an earlier reading. -/

theorem wrap64_mul (x y : ℤ) : wrap64 (wrap64 x*y) = wrap64 (x*y) := by
  have hx : wrap64 x = x - 18446744073709551616*((x + 9223372036854775808)/18446744073709551616) :=
      by
    unfold wrap64
    omega
  have hsum : wrap64 x*y + 9223372036854775808 =
      x*y + 9223372036854775808 +
        18446744073709551616*(-((x + 9223372036854775808)/18446744073709551616)*y) := by
    rw [hx]
    ring
  rw [wrap64, hsum, Int.add_mul_emod_self_left]
  rfl

theorem floor_add_half (m seconds : ℤ) (h : 1 ≤ seconds) :
    ⌊(m:ℚ)/seconds + 1/2⌋ = (2*m + seconds)/(2*seconds) := by
  obtain ⟨n, rfl⟩ := Int.eq_ofNat_of_zero_le (by omega : 0 ≤ seconds)
  have hn : ((n:ℤ):ℚ) ≠ 0 := by
    have hpos : (n:ℤ) ≠ 0 := by omega
    exact_mod_cast hpos
  have heq : (m:ℚ)/((n:ℤ):ℚ) + 1/2 = ((2*m + n : ℤ) : ℚ)/((2*n : ℕ) : ℚ) := by
    push_cast at hn ⊢
    field_simp
  rw [heq, Rat.floor_intCast_div_natCast]
  push_cast
  rfl

/-- Against a zero, the whole traffic since boot makes the speed. -/
theorem diffMbps_zero (bytes seconds : ℤ) (h : 1 ≤ seconds) :
    diffMbps bytes 0 seconds = roundedRate bytes seconds := by
  have hwrap : wrap64 (wrap64 (bytes-0)*8) = wrap64 (8*bytes) := by
    rw [wrap64_mul, sub_zero, mul_comm]
  unfold diffMbps roundedRate mathRound
  simp only [hwrap, floor_add_half _ seconds h]
  omega

/-- Against an earlier reading it cancels. -/
theorem speedAfter_add (bytes prevBytes c timeStamp : ℤ) (prev_timestamp : Option ℤ) (speed : ℤ) :
    speedAfter (bytes+c) (prevBytes+c) timeStamp prev_timestamp speed =
      speedAfter bytes prevBytes timeStamp prev_timestamp speed := by
  unfold speedAfter diffMbps
  rw [add_sub_add_right_eq_sub]

theorem speedAfter_zero (bytes timeStamp prev_timestamp speed : ℤ) :
    speedAfter bytes 0 timeStamp (some prev_timestamp) speed =
      roundedRate bytes (max (timeStamp-prev_timestamp) 1000/1000) := by
  unfold speedAfter
  exact diffMbps_zero _ _ (by omega)

/-! What a sample does to the windows. -/

/-- The windows of `setSpeeds`. -/
structure Windows where
  rx : List ℤ
  tx : List ℤ
  times : List ℤ

def windows (w : World) : Windows := ⟨w.rxBytes, w.txBytes, w.timestamps_rxtx_bytes_calculation⟩

def Windows.add (q : Windows) (r : Report) : Windows where
  rx := circularAdd speedCalculationWindowSize q.rx r.traffic.mobileRxBytes
  tx := circularAdd speedCalculationWindowSize q.tx r.traffic.mobileTxBytes
  times := circularAdd speedCalculationWindowSize q.times r.timeStamp

theorem windows_sessionBlind : SessionBlind windows := ⟨fun _ _ _ _ _ _ => rfl, fun _ _ => rfl⟩

theorem leaves_windows_prepareSample (A : Android) : Java.Leaves windows (prepareSample A) :=
  Java.within_mono (within_prepareSample A) fun _ _ h => h.blind windows_sessionBlind.1

theorem windows_recordHistory (A : Android) (r : Report) (w : World) :
    (∃ w', (recordHistory A r).run w = (.ok (), w') ∧ windows w' = (windows w).add r) ∨
    (∃ e w', (recordHistory A r).run w = (.error e, w') ∧ windows w' = windows w) := by
  unfold recordHistory
  cases hl : r.locationData with
  | none => exact .inr ⟨.nullPointer, w, rfl, rfl⟩
  | some l =>
    rw [Java.bind_ok _ _ w w l rfl, Java.bind_ok _ _ w (storeCell r l w) () rfl]
    have htech := deviceCall_getAccessNetworkTech.leaves (A := A) windows_sessionBlind.1
      (storeCell r l w)
    rcases ht : (getAccessNetworkTech A).run (storeCell r l w) with ⟨e | tech, w₁⟩ <;>
      rw [ht] at htech
    · exact .inr ⟨e, w₁, Java.bind_error _ _ _ _ e ht, htech⟩
    · exact .inl ⟨_, Java.bind_ok _ _ _ _ tech ht, congrArg (Windows.add · r) htech⟩

/-- The speeds of a report come from the heads of the windows. -/
def SpeedsFrom (q : Windows) (r : Report) : Prop :=
  ∃ rx tx speed speed', q.rx.head? = some rx ∧ q.tx.head? = some tx ∧
    speeds r = (speedAfter r.traffic.mobileRxBytes rx r.timeStamp q.times.head? speed,
      speedAfter r.traffic.mobileTxBytes tx r.timeStamp q.times.head? speed')

theorem speedsFrom_prepareSample (A : Android) (w w₀ : World) (r : Report)
    (h : (prepareSample A).run w = (.ok r, w₀)) : SpeedsFrom (windows w₀) r := by
  obtain ⟨-, r₁, -, -, h₂⟩ := prepareSample_ok A w w₀ r h
  obtain ⟨u, w₁, hget, h₃⟩ := Java.bind_eq_ok _ _ _ _ _ h₂
  cases hget
  obtain ⟨rx, w₂, hrx, h₄⟩ := Java.bind_eq_ok _ _ _ _ _ h₃
  obtain ⟨tx, w₃, htx, h₅⟩ := Java.bind_eq_ok _ _ _ _ _ h₄
  have hrxHead := (Java.nonNull_eq_ok _ _ _ _ hrx).1
  have htxHead := (Java.nonNull_eq_ok _ _ _ _ htx).1
  cases h₅
  exact ⟨rx, tx, r₁.mobileRx_diff_Mbps, r₁.mobileTx_diff_Mbps, hrxHead, htxHead, rfl⟩

/-- A sample that gives a report moves the windows on by it; any other leaves them. -/
theorem sampleFrom_windows (A : Android) (w : World) :
    (∃ r w', sampleFrom A w = (.ok (some r), w') ∧ windows w' = (windows w).add r ∧
      SpeedsFrom (windows w) r) ∨
    (∃ w', sampleFrom A w = (.ok none, w') ∧ windows w' = windows w) := by
  have hprepare := leaves_windows_prepareSample A { w with tick := w.tick+1 }
  unfold sampleFrom networkInfoToReport
  rw [Java.run_attempt]
  unfold sampleBody
  rcases hp : (prepareSample A).run { w with tick := w.tick+1 } with ⟨e | r, w₀⟩ <;>
    rw [hp] at hprepare
  · rw [Java.bind_error _ _ _ _ e hp]
    exact .inr ⟨w₀, rfl, hprepare⟩
  · have hspeeds := speedsFrom_prepareSample A _ w₀ r hp
    have hwindows : windows w₀ = windows w := hprepare
    rw [hwindows] at hspeeds
    rw [Java.bind_ok _ _ _ _ r hp]
    rcases windows_recordHistory A r w₀ with ⟨w', hrun, hadd⟩ | ⟨e, w', hrun, hsame⟩
    · rw [Java.bind_ok _ _ _ _ () hrun]
      exact .inl ⟨r, w', rfl, hadd.trans (by rw [hwindows]), hspeeds⟩
    · rw [Java.bind_error _ _ _ _ e hrun]
      exact .inr ⟨w', rfl, hsame.trans hwindows⟩

theorem windows_exec_of_sampled (A : Android) (op : Op) (w : World) (r : Report)
    (h : op.sampled A w = some r) : windows ((op.exec A).run w).2 = (windows w).add r ∧ SpeedsFrom
    (windows w) r := by
  cases op with
  | iterate acts =>
    rw [exec_iterate, view_iteration windows_sessionBlind]
    rcases sampleFrom_windows A w with ⟨r', w', hrun, hadd, hspeeds⟩ | ⟨w', hrun, -⟩
    · simp only [Op.sampled, hrun] at h
      cases h
      rw [hrun]
      exact ⟨hadd, hspeeds⟩
    · simp only [Op.sampled, hrun] at h
      cases h
  | _ => cases h

theorem windows_exec_of_not_sampled (A : Android) (op : Op) (w : World) (hstart : op ≠ .start)
    (h : op.sampled A w = none) : windows ((op.exec A).run w).2 = windows w := by
  cases op with
  | device => exact leaves_newDevice windows_sessionBlind.1 (fun _ _ => rfl) w
  | start => exact absurd rfl hstart
  | iterate acts =>
    rw [exec_iterate, view_iteration windows_sessionBlind]
    rcases sampleFrom_windows A w with ⟨r', w', hrun, -, -⟩ | ⟨w', hrun, hsame⟩
    · simp only [Op.sampled, hrun] at h
      cases h
    · rw [hrun]
      exact hsame
  | row r => exact leaves_row windows_sessionBlind.1 r w
  | connectType => exact leaves_connectType windows_sessionBlind.1 w
  | setRate millis => rfl

/-! The two phones side by side. -/

section Coupling

variable {A : Android} {asked : Prop} {c : ℤ}

/-- The answers differ in the bytes alone. -/
structure ReportShifted (c : ℤ) (r r' : Report) : Prop where
  alike : ReportAlike r r'
  rx : r'.traffic.mobileRxBytes = r.traffic.mobileRxBytes + c
  tx : r'.traffic.mobileTxBytes = r.traffic.mobileTxBytes + c

theorem inStep_readTrafficStats_shifted :
    InStep asked (readTrafficStats A) (readTrafficStats (A.withEarlierTraffic c))
      fun t t' => t'.mobileRxBytes = t.mobileRxBytes + c ∧
        t'.mobileTxBytes = t.mobileTxBytes + c := by
  refine inStep_bind (V := fun b b' => b' = b + c)
    (inStep_query_answers (fun m => m.traffic.mobileRxBytes)
      (fun m => m.traffic.mobileRxBytes + c) fun _ => rfl) fun rx rx' hrx => ?_
  refine inStep_bind (V := fun b b' => b' = b + c)
    (inStep_query_answers (fun m => m.traffic.mobileTxBytes)
      (fun m => m.traffic.mobileTxBytes + c) fun _ => rfl) fun tx tx' htx => ?_
  refine inStep_bind (inStep_query _) fun _ _ _ => ?_
  refine inStep_bind (inStep_query _) fun _ _ _ => ?_
  refine inStep_bind (inStep_query _) fun _ _ _ => ?_
  refine inStep_bind (inStep_query _) fun _ _ _ => ?_
  refine inStep_bind (inStep_query _) fun _ _ _ => ?_
  exact inStep_bind (inStep_query _) fun _ _ _ => inStep_pure _ _ ⟨hrx, htx⟩

theorem coupled_gatherSample_shifted :
    Java.Coupled (Alike False) (gatherSample A) (gatherSample (A.withEarlierTraffic c))
      (fun r r' w v => ReportShifted c r r' ∧ Alike True w v) (Alike False) := by
  refine inStep_then (inStep_observe _) ?_
  rintro currentTime _ rfl
  refine Java.coupled_bind (coupled_setContext {}) fun r r' => ?_
  rintro w v ⟨hr, h⟩
  have hrest : InStep True
      (do let lastLoc ← observe A Moment.lastLoc
          let traffic ← readTrafficStats A
          return { r with
            locationData := lastLoc, timeStamp := currentTime, traffic, nrStatus := "",
            mCid := setMCid A.sdkInt (r.cellInfos.getD []) r.mCid })
      (do let lastLoc ← observe A Moment.lastLoc
          let traffic ← readTrafficStats (A.withEarlierTraffic c)
          return { r' with
            locationData := lastLoc, timeStamp := currentTime, traffic, nrStatus := "",
            mCid := setMCid A.sdkInt (r'.cellInfos.getD []) r'.mCid }) (ReportShifted c) := by
    refine inStep_bind (inStep_observe _) ?_
    rintro lastLoc _ rfl
    refine inStep_bind inStep_readTrafficStats_shifted fun t t' ht =>
      inStep_pure _ _ ⟨?_, ht.1, ht.2⟩
    exact ⟨rfl, hr.cellInfos, rfl, rfl, by rw [hr.cellInfos, hr.mCid], hr.handoff⟩
  exact hrest w v h

/-- What each of two bodies returns by itself. -/
theorem inStep_returns {α : Type} {V : α → α → Prop} {p q : α → Prop} {x y : Java World α}
    (h : InStep asked x y V) (hx : Java.Returns p x) (hy : Java.Returns q y) :
    InStep asked x y fun a b => V a b ∧ p a ∧ q b := by
  intro w v hw
  have hrun := h w v hw
  have hp := hx w
  have hq := hy v
  generalize x.run w = o at hrun hp
  generalize y.run v = o' at hrun hq
  rcases o with ⟨e | a, w'⟩ <;> rcases o' with ⟨e' | b, v'⟩
  · exact hrun
  · exact hrun.elim
  · exact hrun.elim
  · exact ⟨⟨hrun.1, hp a w' rfl, hq b v' rfl⟩, hrun.2⟩

theorem returns_traffic_classifyHandoff (r : Report) :
    Java.Returns (fun s => s.traffic = r.traffic) (classifyHandoff r) := by
  refine Java.returns_bind fun w => ?_
  refine Java.returns_bind fun prevAccessNetworkTech => ?_
  exact Java.returns_bind fun accessNetworkTech => Java.returns_pure _ rfl

theorem returns_traffic_setFromHistory (r : Report) :
    Java.Returns (fun s => s.traffic = r.traffic) (setFromHistory A r) := by
  refine Java.returns_bind fun w => ?_
  refine Java.returns_bind fun rx_bytes => ?_
  exact Java.returns_bind fun tx_bytes => Java.returns_pure _ rfl

theorem reportShifted_of_traffic (r r' s s' : Report) (hr : ReportShifted c r r')
    (hs : ReportAlike s s') (h : s.traffic = r.traffic) (h' : s'.traffic = r'.traffic) :
    ReportShifted c s s' := by
  refine ⟨hs, ?_, ?_⟩
  · rw [h, h', hr.rx]
  · rw [h, h', hr.tx]

theorem inStep_prepared_shifted (r r' : Report) (hr : ReportShifted c r r') :
    InStep True (classifyHandoff r >>= setFromHistory A) (classifyHandoff r' >>= setFromHistory A)
      (ReportShifted c) := by
  refine inStep_bind (inStep_returns (inStep_classifyHandoff r r' hr.alike)
    (returns_traffic_classifyHandoff r) (returns_traffic_classifyHandoff r')) ?_
  rintro s s' ⟨hs, h, h'⟩
  have hshifted := reportShifted_of_traffic r r' s s' hr hs h h'
  have hspeeds := inStep_returns (inStep_setFromHistory (A := A) s s' hs)
    (returns_traffic_setFromHistory s) (returns_traffic_setFromHistory s')
  exact Java.coupled_weaken hspeeds (fun _ _ hw => hw) fun t t' _ _ ht =>
    ⟨reportShifted_of_traffic s s' t t' hshifted ht.1.1 ht.1.2.1 ht.1.2.2, ht.2⟩

theorem inStep_networkInfoToReport_shifted :
    InStep False (networkInfoToReport A) (networkInfoToReport (A.withEarlierTraffic c))
      (Option.Rel (ReportShifted c)) := by
  refine Java.coupled_attempt (E := Alike False) ?_ fun _ _ =>
    Java.coupled_pure none none fun _ _ h => ⟨Option.Rel.none, h⟩
  refine Java.coupled_bind (Q := fun r r' w v => ReportShifted c r r' ∧
    Alike True w v) ?_ fun r r' => ?_
  · refine Java.coupled_bind coupled_gatherSample_shifted fun r r' => ?_
    rintro w v ⟨hr, h⟩
    exact inStep_prepared_shifted r r' hr w v h
  · rintro w v ⟨hr, h⟩
    refine Java.coupled_bind (coupled_recordHistory r r' hr.alike) (fun _ _ => ?_) w v h
    exact Java.coupled_pure _ _ fun _ _ h => ⟨Option.Rel.some hr, h.forget⟩

theorem rel_reportAlike (report report' : Option Report)
    (h : Option.Rel (ReportShifted c) report report') :
    Option.Rel ReportAlike report report' := by
  cases h with
  | none => exact Option.Rel.none
  | some h => exact Option.Rel.some h.alike

theorem inStep_iteration_shifted (acts : Option (List DetectedActivity)) :
    InStep False (iteration A acts) (iteration (A.withEarlierTraffic c) acts)
      (Option.Rel ReportAlike) := by
  refine inStep_bind (inStep_observe _) fun t t' _ => ?_
  refine inStep_bind inStep_networkInfoToReport_shifted fun report report' h => ?_
  refine inStep_bind (inStep_attachActivities report report' (rel_reportAlike _ _ h) acts)
    fun report report' h => ?_
  refine inStep_bind (inStep_publish report report' h) fun _ _ _ => ?_
  exact inStep_bind (inStep_sleepUntilNext t t') fun _ _ _ => inStep_pure _ _ h

theorem rowValues_withEarlierTraffic (r : Report) :
    rowValues (A.withEarlierTraffic c) r = rowValues A r := by
  have hnets (nets : List String) :
      showNetworks (A.withEarlierTraffic c) nets = showNetworks A nets := by
    induction nets with
    | nil => rfl
    | cons net rest ih =>
      rw [showNetworks, ih]
      rfl
  have hbody : toStringBody (A.withEarlierTraffic c) r = toStringBody A r := by
    unfold toStringBody
    rw [funext hnets]
    rfl
  rw [rowValues, hbody]
  rfl

theorem inStep_exec_shifted (op : Op) :
    InStep False (op.exec A) (op.exec (A.withEarlierTraffic c)) fun _ _ => True := by
  cases op with
  | iterate acts =>
    exact inStep_bind (inStep_iteration_shifted acts) fun _ _ _ => inStep_pure _ _ trivial
  | row r =>
    have hexec : Op.exec (A.withEarlierTraffic c) (.row r) = Op.exec A (.row r) :=
      congrArg (· >>= fun _ => pure ()) (rowValues_withEarlierTraffic r)
    rw [hexec]
    exact inStep_exec A (.row r)
  | device => exact inStep_exec A .device
  | start => exact inStep_exec A .start
  | connectType => exact inStep_exec A .connectType
  | setRate millis => exact inStep_exec A (.setRate millis)

theorem alike_exec_shifted (op : Op) (w v : World) (h : Alike False w v) :
    Alike False ((op.exec A).run w).2 ((op.exec (A.withEarlierTraffic c)).run v).2 := by
  have hs := inStep_exec_shifted (A := A) (c := c) op w v h
  generalize (op.exec A).run w = o at hs
  generalize (op.exec (A.withEarlierTraffic c)).run v = p at hs
  rcases o with ⟨e | u, w'⟩ <;> rcases p with ⟨e' | u', v'⟩
  · exact hs
  · exact hs.elim
  · exact hs.elim
  · exact hs.2

theorem sampled_shifted (op : Op) (w v : World) (h : Alike False w v) :
    Option.Rel (ReportShifted c) (op.sampled A w) (op.sampled (A.withEarlierTraffic c) v) := by
  cases op with
  | iterate acts =>
    have hnext : Alike False { w with tick := w.tick+1 } { v with tick := v.tick+1 } :=
      { h with tick := congrArg (·+1) h.tick }
    have hs := inStep_networkInfoToReport_shifted (A := A) (c := c) _ _ hnext
    unfold Op.sampled sampleFrom
    generalize (networkInfoToReport A).run { w with tick := w.tick+1 } = o at hs
    generalize (networkInfoToReport (A.withEarlierTraffic c)).run { v with tick := v.tick+1 } =
      p at hs
    rcases o with ⟨e | report, w'⟩ <;> rcases p with ⟨e' | report', v'⟩
    · exact Option.Rel.none
    · exact hs.elim
    · exact hs.elim
    · exact hs.1
  | _ => exact Option.Rel.none

end Coupling

/-! The windows side by side. -/

/-- The windows of one counter, by the zeros that are left: `seeds` are their times. -/
inductive SideBySide (c : ℤ) : List ℤ → List ℤ → List ℤ → List ℤ → Prop where
  | fresh (t t' : ℤ) : SideBySide c [t, t'] [t, t'] [0, 0] [0, 0]
  | half (t t' y : ℤ) : SideBySide c [t] [t, t'] [0, y] [0, y+c]
  | full (t t' x y : ℤ) : SideBySide c [] [t, t'] [x, y] [x+c, y+c]

theorem SideBySide.add {c : ℤ} {seeds times q q' : List ℤ} (h : SideBySide c seeds times q q')
    (t b : ℤ) : SideBySide c seeds.tail (circularAdd speedCalculationWindowSize times t)
      (circularAdd speedCalculationWindowSize q b)
        (circularAdd speedCalculationWindowSize q' (b+c)) := by
  cases h with
  | fresh t₁ t₂ => exact .half t₂ t b
  | half t₁ t₂ y => exact .full t₂ t y b
  | full t₁ t₂ x y => exact .full t₂ t y b

/-- Against a zero, the two speeds of one counter agree when `c` goes unnoticed; later they agree
anyway. -/
theorem SideBySide.speed_eq_iff {c : ℤ} {seeds times q q' : List ℤ}
    (h : SideBySide c seeds times q q') (b timeStamp prev prev' speed speed' : ℤ)
    (hq : q.head? = some prev) (hq' : q'.head? = some prev') :
    speedAfter (b+c) prev' timeStamp times.head? speed' =
      speedAfter b prev timeStamp times.head? speed ↔
      ∀ t ∈ seeds.head?, roundedRate (b+c) (max (timeStamp-t) 1000/1000) =
        roundedRate b (max (timeStamp-t) 1000/1000) := by
  have hzero (t : ℤ) : speedAfter (b+c) 0 timeStamp (some t) speed' =
      speedAfter b 0 timeStamp (some t) speed ↔
        ∀ t' ∈ some t, roundedRate (b+c) (max (timeStamp-t') 1000/1000) =
        roundedRate b (max (timeStamp-t') 1000/1000) := by
    rw [speedAfter_zero, speedAfter_zero]
    exact ⟨fun h t' ht => by cases ht; exact h, fun h => h t rfl⟩
  cases h with
  | fresh t t' =>
    cases hq
    cases hq'
    exact hzero t
  | half t t' y =>
    cases hq
    cases hq'
    exact hzero t
  | full t t' x y =>
    cases hq
    cases hq'
    exact iff_of_true (speedAfter_add b prev c timeStamp (some t) speed) fun t ht => by cases ht

/-- Two worlds in step, and their windows. -/
structure Shifted (c : ℤ) (seeds : List ℤ) (w v : World) : Prop where
  alike : Alike False w v
  times : v.timestamps_rxtx_bytes_calculation = w.timestamps_rxtx_bytes_calculation
  rx : SideBySide c seeds w.timestamps_rxtx_bytes_calculation w.rxBytes v.rxBytes
  tx : SideBySide c seeds w.timestamps_rxtx_bytes_calculation w.txBytes v.txBytes

section Run

variable {A : Android} {c : ℤ} {seeds : List ℤ} {w v : World}

theorem Shifted.exec_none (h : Shifted c seeds w v) (op : Op) (hstart : op ≠ .start)
    (hw : op.sampled A w = none) (hv : op.sampled (A.withEarlierTraffic c) v = none) :
    Shifted c seeds ((op.exec A).run w).2 ((op.exec (A.withEarlierTraffic c)).run v).2 := by
  have hww := windows_exec_of_not_sampled A op w hstart hw
  have hwv := windows_exec_of_not_sampled (A.withEarlierTraffic c) op v hstart hv
  injection hww with hrx htx htimes
  injection hwv with hrx' htx' htimes'
  refine ⟨alike_exec_shifted op w v h.alike, ?_, ?_, ?_⟩
  · rw [htimes, htimes', h.times]
  · rw [htimes, hrx, hrx']
    exact h.rx
  · rw [htimes, htx, htx']
    exact h.tx

theorem Shifted.exec_some (h : Shifted c seeds w v) (op : Op) (r r' : Report)
    (hr : ReportShifted c r r') (hw : op.sampled A w = some r)
    (hv : op.sampled (A.withEarlierTraffic c) v = some r') :
    Shifted c seeds.tail ((op.exec A).run w).2 ((op.exec (A.withEarlierTraffic c)).run v).2 := by
  have hww := (windows_exec_of_sampled A op w r hw).1
  have hwv := (windows_exec_of_sampled (A.withEarlierTraffic c) op v r' hv).1
  injection hww with hrx htx htimes
  injection hwv with hrx' htx' htimes'
  refine ⟨alike_exec_shifted op w v h.alike, ?_, ?_, ?_⟩
  · rw [htimes, htimes', hr.alike.timeStamp]
    exact congrArg (circularAdd speedCalculationWindowSize · r'.timeStamp) h.times
  · rw [htimes, hrx, hrx', hr.rx]
    exact h.rx.add r.timeStamp r.traffic.mobileRxBytes
  · rw [htimes, htx, htx', hr.tx]
    exact h.tx.add r.timeStamp r.traffic.mobileTxBytes

theorem Shifted.speeds_eq_iff (h : Shifted c seeds w v) (r r' : Report) (hr : ReportShifted c r r')
    (hw : SpeedsFrom (windows w) r) (hv : SpeedsFrom (windows v) r') :
    speeds r' = speeds r ↔ ∀ t ∈ seeds.head?, Unnoticed c t r := by
  obtain ⟨rx, tx, speed₁, speed₂, hrx, htx, hspeeds⟩ := hw
  obtain ⟨rx', tx', speed₁', speed₂', hrx', htx', hspeeds'⟩ := hv
  have htimes : (windows v).times = w.timestamps_rxtx_bytes_calculation := h.times
  have hbytes := h.rx.speed_eq_iff r.traffic.mobileRxBytes r.timeStamp rx rx' speed₁ speed₁' hrx
    hrx'
  have hbytes' := h.tx.speed_eq_iff r.traffic.mobileTxBytes r.timeStamp tx tx' speed₂ speed₂' htx
    htx'
  rw [hspeeds, hspeeds', htimes, hr.rx, hr.tx, ← hr.alike.timeStamp, Prod.mk.injEq]
  refine (and_congr hbytes hbytes').trans ?_
  exact ⟨fun h t ht => ⟨h.1 t ht, h.2 t ht⟩,
    fun h => ⟨fun t ht => (h t ht).rx, fun t ht => (h t ht).tx⟩⟩

/-- The reports of a run, without the samples that failed. -/
def reportsOf (samples : List (Option Report)) : List Report := samples.filterMap id

/-- A session on, the speeds agree when `c` goes unnoticed at each zero that is still left. -/
theorem Shifted.samples_eq_iff (h : Shifted c seeds w v) (ops : List Op) (hstart : .start ∉ ops) :
    (samples (A.withEarlierTraffic c) v ops).map (Option.map speeds) = (samples A w ops).map
    (Option.map speeds) ↔
      ∀ p ∈ seeds.zip (reportsOf (samples A w ops)), Unnoticed c p.1 p.2 := by
  induction ops generalizing seeds w v with
  | nil => simp [samples, reportsOf]
  | cons op rest ih =>
    have hop : op ≠ .start := fun he => hstart (by rw [he]; exact List.mem_cons_self)
    have hrest : .start ∉ rest := fun hmem => hstart (List.mem_cons_of_mem op hmem)
    have hrel := sampled_shifted (A := A) (c := c) op w v h.alike
    rw [samples, samples, List.map_cons, List.map_cons, List.cons_eq_cons]
    cases hw : op.sampled A w with
    | none =>
      rw [hw] at hrel
      have hv : op.sampled (A.withEarlierTraffic c) v = none := by
        generalize op.sampled (A.withEarlierTraffic c) v = o at hrel
        cases hrel
        rfl
      rw [hv, ih (h.exec_none op hop hw hv) hrest]
      exact and_iff_right rfl
    | some r =>
      rw [hw] at hrel
      obtain ⟨r', hv, hr⟩ : ∃ r', op.sampled (A.withEarlierTraffic c) v = some r' ∧
          ReportShifted c r r' := by
        generalize op.sampled (A.withEarlierTraffic c) v = o at hrel
        cases hrel with
        | some hr => exact ⟨_, rfl, hr⟩
      have hspeeds := h.speeds_eq_iff r r' hr (windows_exec_of_sampled A op w r hw).2
        (windows_exec_of_sampled (A.withEarlierTraffic c) op v r' hv).2
      rw [hv, Option.map_some, Option.map_some, Option.some_inj, hspeeds,
        ih (h.exec_some op r r' hr hw hv) hrest]
      cases seeds with
      | nil => simp
      | cons t seeds =>
        change _ ↔ ∀ p ∈ (t, r) :: seeds.zip (reportsOf (samples A ((op.exec A).run w).2 rest)),
          Unnoticed c p.1 p.2
        rw [List.forall_mem_cons]
        exact and_congr_left' ⟨fun h => h t rfl, fun h t' ht => by cases ht; exact h⟩

end Run

/-! A session. -/

/-- Two entries push out everything that was there before. -/
theorem circularAdd_two (q : List ℤ) (x : ℤ) :
    circularAdd speedCalculationWindowSize q x = [x] ∨
      ∃ y, circularAdd speedCalculationWindowSize q x = [y, x] := by
  induction q using List.reverseRecOn with
  | nil => exact .inl rfl
  | append_singleton q y ih =>
    refine .inr ⟨y, ?_⟩
    have hlen : (q ++ [y]).length + 1 - speedCalculationWindowSize = q.length := by
      rw [List.length_append, List.length_singleton]
      rfl
    rw [circularAdd, hlen, List.append_assoc, List.drop_left]
    rfl

theorem circularAdd_three (q : List ℤ) (x y z : ℤ) :
    circularAdd speedCalculationWindowSize (circularAdd speedCalculationWindowSize
      (circularAdd speedCalculationWindowSize q x) y) z = [y, z] := by
  rcases circularAdd_two q x with h | ⟨u, h⟩
  · rw [h]
    rfl
  · rw [h]
    rfl

theorem shifted_seeded (A : Android) (w : World) (l : Location) (c : ℤ) (hw : Ready w) :
    Shifted c (seedTimes A) (seeded A { w with tick := 0 } l) (seeded A { w with tick := 0 } l) :=
      by
  have hzeros (q : List ℤ) :
      (fun q => circularAdd speedCalculationWindowSize q (0:ℤ))^[3] q = [0, 0] :=
    circularAdd_three q 0 0 0
  have hne (q : List ℤ) : (fun q => circularAdd speedCalculationWindowSize q (0:ℤ))^[3] q ≠ [] := by
    rw [hzeros]
    exact List.cons_ne_nil _ _
  have htimes : (seeded A { w with tick := 0 } l).timestamps_rxtx_bytes_calculation = seedTimes A :=
    circularAdd_three _ _ _ _
  have halike : Alike False (seeded A { w with tick := 0 } l) (seeded A { w with tick := 0 } l) :=
    { tick := rfl
      connected := ⟨hw.connect_type, hw.connect_type⟩
      mobile := Iff.rfl
      service := rfl
      tech := False.elim
      prevNrStatus := rfl
      prevMCid := rfl
      prevTech := rfl
      rx := ⟨hne _, hne _⟩
      tx := ⟨hne _, hne _⟩
      rate := ⟨hw.samplingRate, hw.samplingRate⟩
      session := Option.Rel.some ⟨rfl, rfl, rfl, rfl, rfl⟩ }
  have hpair (q : List ℤ) : SideBySide c (seedTimes A) (seedTimes A)
      ((fun q => circularAdd speedCalculationWindowSize q (0:ℤ))^[3] q)
      ((fun q => circularAdd speedCalculationWindowSize q (0:ℤ))^[3] q) := by
    rw [hzeros]
    exact .fresh _ _
  refine ⟨halike, rfl, ?_, ?_⟩
  · rw [htimes]
    exact hpair w.rxBytes
  · rw [htimes]
    exact hpair w.txBytes

end MmWaveTracker
