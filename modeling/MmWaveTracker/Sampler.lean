import MmWaveTracker.Device

/-! `MonitoringService.NetworkInfoToReport`: one sample of the network, cut into the
statements before `setHandoffType`, that call, and the statements after it. -/
namespace MmWaveTracker

/-- `add` of a `CircularFifoQueue`: the oldest element makes room for the new one. -/
def circularAdd {α : Type} (maxSize : ℕ) (q : List α) (x : α) : List α :=
  (q ++ [x]).drop (q.length + 1 - maxSize)

def getAccessNetworkTech (A : Android) : Java World (Option String) := do
  let tech ← getNetworkService A
  Java.modify fun w => { w with accessNetworkTech := tech }
  return tech

def setContext (A : Android) (r : Report) : Java World Report := do
  let cellInfos ← query A Moment.cellInfo
  let rawServiceState ← query A Moment.serviceState
  let signalStrength ← query A Moment.signalStrength
  let networkCapabilities ← query A Moment.capabilities
  let _ ← getIs5GNSA A
  let is5GNSA ← getIs5GNSA A
  let _ ← getAccessNetworkTech A
  let networkType ← getNetworkType A
  let cells ← Java.nonNull cellInfos
  return { r with
    cellInfos := some cells, rawServiceState, signalStrength, networkCapabilities, is5GNSA,
    networkType := some networkType, cells := getCellinfoData A.sdkInt cells }

def readTrafficStats (A : Android) : Java World TrafficStats := do
  let mobileRxBytes ← query A (·.traffic.mobileRxBytes)
  let mobileTxBytes ← query A (·.traffic.mobileTxBytes)
  let mobileRxPackets ← query A (·.traffic.mobileRxPackets)
  let mobileTxPackets ← query A (·.traffic.mobileTxPackets)
  let uidRxBytes ← query A (·.traffic.uidRxBytes)
  let uidTxBytes ← query A (·.traffic.uidTxBytes)
  let uidRxPackets ← query A (·.traffic.uidRxPackets)
  let uidTxPackets ← query A (·.traffic.uidTxPackets)
  return { mobileRxBytes, mobileTxBytes, mobileRxPackets, mobileTxPackets,
           uidRxBytes, uidTxBytes, uidRxPackets, uidTxPackets }

/-- The statements before `setHandoffType`. `setNrStatus` clears the status and
its reflective lookup assigns nothing, so it stays empty. -/
def gatherSample (A : Android) : Java World Report := do
  let currentTime ← observe A Moment.now
  let r ← setContext A {}
  let lastLoc ← observe A Moment.lastLoc
  let traffic ← readTrafficStats A
  return { r with
    locationData := lastLoc, timeStamp := currentTime, traffic, nrStatus := "",
    mCid := setMCid A.sdkInt (r.cellInfos.getD []) r.mCid }

/-- `report.setHandoffType(prevNrStatus, prevMCid, prevAccessNetworkTech)`. -/
def classifyHandoff (r : Report) : Java World Report := do
  let w ← Java.get
  let prevAccessNetworkTech ← Java.nonNull w.prevAccessNetworkTech
  let accessNetworkTech ← Java.nonNull w.accessNetworkTech
  return { r with handoff := setHandoffType w.prevNrStatus w.prevMCid prevAccessNetworkTech
                               r.nrStatus r.mCid accessNetworkTech }

/-- `setSpeeds` and the mobility label, computed from the history before this sample. -/
def setFromHistory (A : Android) (r : Report) : Java World Report := do
  let w ← Java.get
  let rx_bytes ← Java.nonNull w.rxBytes.head?
  let tx_bytes ← Java.nonNull w.txBytes.head?
  let r := setSpeeds r rx_bytes tx_bytes w.timestamps_rxtx_bytes_calculation.head?
  return setMobilityActivityv1 A r w.mobilityLabelQueue.head?

/-- The first part of the history, taken from the report. -/
def storeCell (r : Report) (location : Location) (w : World) : World :=
  { w with
    mobilityLabelQueue := circularAdd mobilitylabelQueueSize w.mobilityLabelQueue location
    prevNrStatus := r.nrStatus
    prevMCid := r.mCid }

/-- "append historical data for future use": the previous technology is asked of
the device once more, the other two values are those of the report. -/
def recordHistory (A : Android) (r : Report) : Java World Unit := do
  let location ← Java.nonNull r.locationData -- the queue rejects null
  Java.modify (storeCell r location)
  let tech ← getAccessNetworkTech A
  Java.modify fun w => { w with
    prevAccessNetworkTech := tech
    rxBytes := circularAdd speedCalculationWindowSize w.rxBytes r.traffic.mobileRxBytes
    txBytes := circularAdd speedCalculationWindowSize w.txBytes r.traffic.mobileTxBytes
    timestamps_rxtx_bytes_calculation :=
      circularAdd speedCalculationWindowSize w.timestamps_rxtx_bytes_calculation r.timeStamp }

/-- The report, before the history is brought up to date. -/
def prepareSample (A : Android) : Java World Report := do
  let r ← gatherSample A
  let r ← classifyHandoff r
  setFromHistory A r

def sampleBody (A : Android) : Java World (Option Report) := do
  let r ← prepareSample A
  recordHistory A r
  return some r

/-- Any exception is printed and turns the report into null. -/
def networkInfoToReport (A : Android) : Java World (Option Report) :=
  Java.attempt (sampleBody A) fun _ => pure none

/-- The rounds of `StartTracing` that fill the throughput windows. -/
def seedWindows (A : Android) : ℕ → Java World Unit
  | 0 => pure ()
  | n+1 => do
    let now ← observe A Moment.now
    Java.modify fun w => { w with
      rxBytes := circularAdd speedCalculationWindowSize w.rxBytes 0
      txBytes := circularAdd speedCalculationWindowSize w.txBytes 0
      timestamps_rxtx_bytes_calculation :=
        circularAdd speedCalculationWindowSize w.timestamps_rxtx_bytes_calculation now }
    seedWindows A n

/-- The loop of `StartTracing` over the queue of locations. -/
@[irreducible]
def fillMobilityLabelQueue (lastLoc : Location) (q : List Location) : List Location :=
  (fun q => circularAdd mobilitylabelQueueSize q lastLoc)^[mobilitylabelQueueSize+1] q

/-- The part of `StartTracing` that concerns the sampler: a new summary, and queues
filled by one more `add` than they hold. A missing location is rejected by the queue. -/
def seedTracing (A : Android) : Java World Unit := do
  let now ← observe A Moment.now
  let sessionNumber := valueOf (now/1000)
  Java.modify fun w => { w with sessionNumber, curSession := some { sessionId := sessionNumber } }
  let lastLoc ← observe A Moment.lastLoc
  let lastLoc ← Java.nonNull lastLoc
  Java.modify fun w =>
    { w with mobilityLabelQueue := fillMobilityLabelQueue lastLoc w.mobilityLabelQueue }
  seedWindows A (speedCalculationWindowSize+1)

theorem deviceCall_getAccessNetworkTech {A : Android} : DeviceCall A (getAccessNetworkTech A) := by
  apply deviceCall_bind deviceCall_getNetworkService
  intro tech
  exact deviceCall_of_ok _ fun _ => ⟨_, rfl, rfl, le_rfl, id⟩

/-! Until it records its history, a sample only asks the device. -/

theorem within_setContext (A : Android) (r : Report) : Java.Within DeviceStep (setContext A r) := by
  refine Java.within_bind (deviceCall_query _).within fun _ => ?_
  refine Java.within_bind (deviceCall_query _).within fun _ => ?_
  refine Java.within_bind (deviceCall_query _).within fun _ => ?_
  refine Java.within_bind (deviceCall_query _).within fun _ => ?_
  refine Java.within_bind deviceCall_getIs5GNSA.within fun _ => ?_
  refine Java.within_bind deviceCall_getIs5GNSA.within fun _ => ?_
  refine Java.within_bind deviceCall_getAccessNetworkTech.within fun _ => ?_
  refine Java.within_bind deviceCall_getNetworkType.within fun _ => ?_
  exact Java.within_bind (Java.within_nonNull _) fun _ => Java.within_pure _

theorem deviceCall_readTrafficStats {A : Android} : DeviceCall A (readTrafficStats A) := by
  refine deviceCall_bind (deviceCall_query _) fun _ => ?_
  refine deviceCall_bind (deviceCall_query _) fun _ => ?_
  refine deviceCall_bind (deviceCall_query _) fun _ => ?_
  refine deviceCall_bind (deviceCall_query _) fun _ => ?_
  refine deviceCall_bind (deviceCall_query _) fun _ => ?_
  refine deviceCall_bind (deviceCall_query _) fun _ => ?_
  refine deviceCall_bind (deviceCall_query _) fun _ => ?_
  exact deviceCall_bind (deviceCall_query _) fun _ => deviceCall_pure _

theorem within_gatherSample (A : Android) : Java.Within DeviceStep (gatherSample A) := by
  refine Java.within_bind (deviceCall_observe _).within fun _ => ?_
  refine Java.within_bind (within_setContext A {}) fun _ => ?_
  refine Java.within_bind (deviceCall_observe _).within fun _ => ?_
  exact Java.within_bind deviceCall_readTrafficStats.within fun _ => Java.within_pure _

theorem classifyHandoff_state (r : Report) (w : World) : ((classifyHandoff r).run w).2 = w := by
  have h : Java.Leaves id (classifyHandoff r) := by
    refine Java.within_bind Java.within_get fun _ => ?_
    refine Java.within_bind (Java.within_nonNull _) fun _ => ?_
    exact Java.within_bind (Java.within_nonNull _) fun _ => Java.within_pure _
  exact h w

theorem setFromHistory_state (A : Android) (r : Report) (w : World) :
    ((setFromHistory A r).run w).2 = w := by
  have h : Java.Leaves id (setFromHistory A r) := by
    refine Java.within_bind Java.within_get fun _ => ?_
    refine Java.within_bind (Java.within_nonNull _) fun _ => ?_
    exact Java.within_bind (Java.within_nonNull _) fun _ => Java.within_pure _
  exact h w

theorem within_prepareSample (A : Android) : Java.Within DeviceStep (prepareSample A) := by
  refine Java.within_bind (within_gatherSample A) fun r => ?_
  refine Java.within_bind ?_ fun r => ?_
  · intro w
    rw [classifyHandoff_state]
    exact DeviceStep.refl w
  · intro w
    rw [setFromHistory_state]
    exact DeviceStep.refl w

/-- What a sample leaves alone, whatever becomes of it. -/
structure SampleStep (w w' : World) : Prop where
  curSession : w'.curSession = w.curSession
  sessionNumber : w'.sessionNumber = w.sessionNumber
  samplingRateInMs : w'.samplingRateInMs = w.samplingRateInMs
  tick_le : w.tick ≤ w'.tick
  connect_type_isSome : w.connect_type.isSome → w'.connect_type.isSome

instance : Std.Refl SampleStep := ⟨fun _ => ⟨rfl, rfl, rfl, le_rfl, id⟩⟩

instance : IsTrans World SampleStep := ⟨fun _ _ _ h h' =>
  ⟨h'.curSession.trans h.curSession, h'.sessionNumber.trans h.sessionNumber,
    h'.samplingRateInMs.trans h.samplingRateInMs, h.tick_le.trans h'.tick_le,
    h'.connect_type_isSome ∘ h.connect_type_isSome⟩⟩

theorem DeviceStep.sampleStep (w w' : World) (h : DeviceStep w w') : SampleStep w w' where
  curSession := h.blind (f := World.curSession) fun _ _ _ _ _ _ => rfl
  sessionNumber := h.blind (f := World.sessionNumber) fun _ _ _ _ _ _ => rfl
  samplingRateInMs := h.blind (f := World.samplingRateInMs) fun _ _ _ _ _ _ => rfl
  tick_le := h.tick_le
  connect_type_isSome := h.connect_type_isSome

theorem within_recordHistory (A : Android) (r : Report) :
    Java.Within SampleStep (recordHistory A r) := by
  refine Java.within_bind (Java.within_nonNull _) fun _ => ?_
  refine Java.within_bind ?_ fun _ => ?_
  · exact Java.within_modify _ fun _ => ⟨rfl, rfl, rfl, le_rfl, id⟩
  refine Java.within_bind
    (Java.within_mono deviceCall_getAccessNetworkTech.within DeviceStep.sampleStep) fun _ => ?_
  exact Java.within_modify _ fun _ => ⟨rfl, rfl, rfl, le_rfl, id⟩

theorem within_networkInfoToReport (A : Android) :
    Java.Within SampleStep (networkInfoToReport A) := by
  refine Java.within_attempt ?_ fun _ => Java.within_pure _
  refine Java.within_bind (Java.within_mono (within_prepareSample A) DeviceStep.sampleStep) fun r =>
    ?_
  exact Java.within_bind (within_recordHistory A r) fun _ => Java.within_pure _

/-- A report only comes out of the sampler when its body completed. -/
theorem networkInfoToReport_some (A : Android) (w w' : World) (r : Report)
    (h : (networkInfoToReport A).run w = (.ok (some r), w')) :
    (sampleBody A).run w = (.ok (some r), w') := by
  unfold networkInfoToReport at h
  rw [Java.run_attempt] at h
  rcases hb : (sampleBody A).run w with ⟨_ | o, w''⟩ <;> rw [hb] at h
  · cases h
  · exact h

/-- The two stages of a sample that succeeded. -/
theorem sampleBody_some (A : Android) (w w' : World) (r : Report)
    (h : (sampleBody A).run w = (.ok (some r), w')) :
    ∃ w₀, (prepareSample A).run w = (.ok r, w₀) ∧ (recordHistory A r).run w₀ = (.ok (), w') := by
  obtain ⟨r₀, w₀, h₀, ha⟩ := Java.bind_eq_ok _ _ _ _ _ h
  obtain ⟨u, w₁, h₁, hb⟩ := Java.bind_eq_ok _ _ _ _ _ ha
  cases hb
  exact ⟨w₀, h₀, h₁⟩

/-- The stages of a prepared report: only the first one changes the state. -/
theorem prepareSample_ok (A : Android) (w w₀ : World) (r : Report)
    (h : (prepareSample A).run w = (.ok r, w₀)) :
    ∃ r₀ r₁, (gatherSample A).run w = (.ok r₀, w₀) ∧ (classifyHandoff r₀).run w₀ = (.ok r₁, w₀) ∧
      (setFromHistory A r₁).run w₀ = (.ok r, w₀) := by
  obtain ⟨r₀, w₁, h₀, ha⟩ := Java.bind_eq_ok _ _ _ _ _ h
  obtain ⟨r₁, w₂, h₁, h₂⟩ := Java.bind_eq_ok _ _ _ _ _ ha
  have e₁ : w₂ = w₁ := by
    rw [← classifyHandoff_state r₀ w₁, h₁]
  have e₂ : w₀ = w₂ := by
    rw [← setFromHistory_state A r₁ w₂, h₂]
  subst e₁ e₂
  exact ⟨r₀, r₁, h₀, h₁, h₂⟩

/-- The queue of locations accepts no null, so a sampled report has a location. -/
theorem networkInfoToReport_located (A : Android) (w w' : World) (r : Report)
    (h : (networkInfoToReport A).run w = (.ok (some r), w')) : r.locationData.isSome := by
  obtain ⟨w₀, -, h⟩ := sampleBody_some A w w' r (networkInfoToReport_some A w w' r h)
  obtain ⟨l, w₁, hl, -⟩ := Java.bind_eq_ok _ _ _ _ _ h
  cases hr : r.locationData with
  | none => simp [hr, Java.nonNull, Java.throw] at hl
  | some l => rfl

end MmWaveTracker
