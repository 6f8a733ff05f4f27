import MmWaveTracker.Sampler

/-! The tracker row `Report.toString` and the header of the tracker files. -/
namespace MmWaveTracker

def reportHeader : List String :=
  ["timestamp", "mobileDataActivity", "mobileDataState", "mobileRx", "mobileTx", "mobileRxPackets",
    "mobileTxPackets", "mobileRxUid", "mobileTxUid", "mobileRxPacketsUid", "mobileTxPacketsUid",
    "mobileRx_diff_Mbps", "mobileTx_diff_Mbps"]

def locationHeader : List String :=
  ["locationProvider", "latitude", "longitude", "locationAccuracy", "movingSpeed",
    "movingSpeedAccuracyMPS", "compassDirection", "compassAccuracy",
    "activity0", "activity1", "activity2", "activity3", "activity4", "activity5", "activity6",
    "activity7", "activity8", "activity9", "mostProbableActivityType", "mobilityLabel",
      "mobilityLabelv2"]

def signalFeature : List String :=
  ["ActiveNetwork", "NetworkService", "NetworkType", "displayNetworkState", "linkUpKbps",
    "linkDownKbps", "SignalStrLevel", "Carrier", "nrStatus",
    "ltePCIs", "lteCIs", "lteBwds", "lteSignal(rsrp,rsrq,rssi,rssnr)",
    "is5GSAMode", "is5GNSAMode", "nrPCIs", "nrCIs",
    "nrSignal(ssrsrp,ssrsrq,sssinr,csirsrp,csirsrq,csisinr)",
    "handoffType", "horizontalHandoff", "verticalHandoff"]

def reportHeaderVerboseAdditional : List String :=
  ["RawServiceState", "LengthRawCellInfos", "RawCellInfos", "RawSignalStrengths",
    "RawNetworkCapabilities", "NrCellInfos", "LteCellInfos", "NrCellIdentities",
      "LteCellIdentities",
    "HasCapabilityNETCAPABILITYNOTMETERED", "HasCapabilityNETCAPABILITYNOTCONGESTED",
    "DNSservers", "LinkAddresses", "allInterfaces"]

def reportColumns : List String :=
  reportHeader ++ locationHeader ++ signalFeature ++ reportHeaderVerboseAdditional

/-- The line written at the top of every tracker file. -/
def headerLine : String := String.intercalate csvDelimieter reportColumns

/-! The body of `toString` works on the platform state and its `StringJoiner`. -/

structure Row where
  world : World
  values : List String := []

namespace Row

def add (s : Option String) : Java Row Unit :=
  Java.modify fun row => { row with values := row.values ++ [orNull s] }

/-- A call into the platform or the device from the body. -/
def call {α : Type} (x : Java World α) : Java Row α where
  run row := ((x.run row.world).1, { row with world := (x.run row.world).2 })

def addAll : List (Option String) → Java Row Unit
  | [] => pure ()
  | s :: rest => do
    add s
    addAll rest

end Row

def quoted (s : String) : String := "\"" ++ s ++ "\""

def showBool (b : Bool) : String := if b then "true" else "false"

/-- `AbstractCollection.toString`. -/
def showList (l : List String) : String := "[" ++ String.intercalate ", " l ++ "]"

def reportValues (A : Android) (r : Report) : List (Option String) :=
  some (A.sampleDateFormat r.timeStamp) ::
  [r.dataActivity, r.dataState,
    r.traffic.mobileRxBytes, r.traffic.mobileTxBytes, r.traffic.mobileRxPackets,
    r.traffic.mobileTxPackets, r.traffic.uidRxBytes, r.traffic.uidTxBytes, r.traffic.uidRxPackets,
    r.traffic.uidTxPackets, r.mobileRx_diff_Mbps, r.mobileTx_diff_Mbps].map (some ∘ valueOf)

def locationValues (A : Android) (locationData : Option Location) : List (Option String) :=
  match locationData with
  | some l => [l.provider, some (A.showDouble l.latitude), some (A.showDouble l.longitude),
      some (A.showFloat l.accuracy), some (A.showFloat l.speed),
      some (A.showFloat l.speedAccuracyMetersPerSecond), some (A.showFloat l.bearing),
      some (A.showFloat l.bearingAccuracyDegrees)]
  | none => List.replicate 8 (some "-1")

def activityValues (r : Report) : List (Option String) :=
  r.activities.toList ++
    [r.mostProbableActivityType, some (valueOf r.mobilityLabel), some (valueOf r.mobilityLabelv2)]

/-- The eight values the body adds before it walks over `AllNets`; `nrStatus` is commented out. -/
def addSignal (A : Android) (r : Report) : Java Row Unit := do
  let activeNetwork ← Row.call (query A Moment.activeNetwork)
  let activeNetwork ← Java.nonNull activeNetwork
  Row.add (some activeNetwork)
  let networkService ← Row.call (getNetworkService A)
  Row.add networkService
  let networkType ← Row.call (getNetworkType A)
  Row.add (some networkType)
  let netDisplayType ← Row.call (observe A Moment.netDisplayType)
  Row.add (some netDisplayType)
  let networkCapabilities ← Java.nonNull r.networkCapabilities
  Row.add (some (valueOf networkCapabilities.linkUpstreamBandwidthKbps))
  Row.add (some (valueOf networkCapabilities.linkDownstreamBandwidthKbps))
  let signalStrength ← Java.nonNull r.signalStrength
  Row.add (some (valueOf signalStrength.level))
  let row ← Java.get
  Row.add row.world.carrier

/-- One round of the loop over `AllNets`. -/
def showNetwork (A : Android) (net : String) : Java Row String := do
  let netinfo ← Row.call (query A Moment.capabilities)
  let networkType ← Row.call (getNetworkType A)
  return "\"" ++ net ++ "\"" ++ networkType ++ "\"" ++ showBool netinfo.isSome ++ "\""

def showNetworks (A : Android) : List String → Java Row String
  | [] => pure ""
  | net :: rest => do
    let s ← showNetwork A net
    let t ← showNetworks A rest
    return s ++ t

/-- The cell, handoff and verbose values after the loop. -/
def addCells (r : Report) (allNetsString : String) : Java Row Unit := do
  Row.addAll [some r.cells.lte_PCIs, some r.cells.lte_CIs, r.cells.lte_bwd, some r.cells.lte_Signal,
    some r.cells.nr_PCIs, some r.cells.nr_CIs, some r.cells.nr_Signal,
    some (valueOf r.handoff.handoffType), some (valueOf r.handoff.horizontalHandoff),
    some (valueOf r.handoff.verticalHandoff)]
  let rawServiceState ← Java.nonNull r.rawServiceState
  Row.add (some (quoted rawServiceState))
  let cellInfos ← Java.nonNull r.cellInfos
  Row.add (some (valueOf cellInfos.length))
  Row.add (some (quoted (showList (cellInfos.map CellInfo.text))))
  let signalStrength ← Java.nonNull r.signalStrength
  Row.add (some (quoted signalStrength.text))
  let networkCapabilities ← Java.nonNull r.networkCapabilities
  Row.addAll [some (quoted networkCapabilities.text), some (quoted r.cells.allNrCells),
    some (quoted r.cells.allLteCells), some (quoted r.cells.allNrCellsIdentities),
    some (quoted r.cells.allLteCellIdentities), some (showBool networkCapabilities.notMetered),
    some (showBool networkCapabilities.notCongested)]
  let activeNetworkProperties ← Java.nonNull r.activeNetworkProperties
  Row.add (some (quoted activeNetworkProperties.dnsServers))
  Row.add (some (quoted activeNetworkProperties.linkAddresses))
  Row.add (some ("\"" ++ allNetsString))

def toStringBody (A : Android) (r : Report) : Java Row Unit := do
  Row.addAll (reportValues A r)
  Row.addAll (locationValues A r.locationData)
  Row.addAll (activityValues r)
  addSignal A r
  let allNets ← Java.nonNull r.allNets
  let allNetsString ← showNetworks A allNets
  addCells r allNetsString

/-- The values joined by `toString`: an exception is logged and ends the row where it stands. -/
def rowValues (A : Android) (r : Report) : Java World (List String) where
  run w :=
    let row := ((toStringBody A r).run { world := w }).2
    (.ok row.values, row.world)

def Report.toString (A : Android) (r : Report) : Java World String := do
  let values ← rowValues A r
  return String.intercalate csvDelimieter values

/-! For the rest of the app, making a row is a device query. -/

def RowStep (row row' : Row) : Prop := DeviceStep row.world row'.world

instance : Std.Refl RowStep := ⟨fun row => DeviceStep.refl row.world⟩

instance : IsTrans Row RowStep := ⟨fun _ _ _ => DeviceStep.trans⟩

section RowStep

variable {α : Type} {A : Android}

theorem rowStep_add (s : Option String) : Java.Within RowStep (Row.add s) :=
  Java.within_modify _ fun row => DeviceStep.refl row.world

theorem rowStep_call {x : Java World α} (h : DeviceCall A x) : Java.Within RowStep (Row.call x) :=
  fun row => h.within row.world

theorem rowStep_addAll (l : List (Option String)) : Java.Within RowStep (Row.addAll l) := by
  induction l with
  | nil => exact Java.within_pure _
  | cons s rest ih => exact Java.within_bind (rowStep_add s) fun _ => ih

theorem rowStep_addSignal (r : Report) : Java.Within RowStep (addSignal A r) := by
  refine Java.within_bind (rowStep_call (A := A) (deviceCall_query _)) fun _ => ?_
  refine Java.within_bind (Java.within_nonNull _) fun _ => ?_
  refine Java.within_bind (rowStep_add _) fun _ => ?_
  refine Java.within_bind (rowStep_call deviceCall_getNetworkService) fun _ => ?_
  refine Java.within_bind (rowStep_add _) fun _ => ?_
  refine Java.within_bind (rowStep_call deviceCall_getNetworkType) fun _ => ?_
  refine Java.within_bind (rowStep_add _) fun _ => ?_
  refine Java.within_bind (rowStep_call (A := A) (deviceCall_observe _)) fun _ => ?_
  refine Java.within_bind (rowStep_add _) fun _ => ?_
  refine Java.within_bind (Java.within_nonNull _) fun _ => ?_
  refine Java.within_bind (rowStep_add _) fun _ => ?_
  refine Java.within_bind (rowStep_add _) fun _ => ?_
  refine Java.within_bind (Java.within_nonNull _) fun _ => ?_
  refine Java.within_bind (rowStep_add _) fun _ => ?_
  exact Java.within_bind Java.within_get fun _ => rowStep_add _

theorem rowStep_showNetworks (nets : List String) : Java.Within RowStep (showNetworks A nets) := by
  induction nets with
  | nil => exact Java.within_pure _
  | cons net rest ih =>
    refine Java.within_bind ?_ fun _ => Java.within_bind ih fun _ => Java.within_pure _
    refine Java.within_bind (rowStep_call (A := A) (deviceCall_query _)) fun _ => ?_
    exact Java.within_bind (rowStep_call deviceCall_getNetworkType) fun _ => Java.within_pure _

theorem rowStep_addCells (r : Report) (allNetsString : String) :
    Java.Within RowStep (addCells r allNetsString) := by
  refine Java.within_bind (rowStep_addAll _) fun _ => ?_
  refine Java.within_bind (Java.within_nonNull _) fun _ => ?_
  refine Java.within_bind (rowStep_add _) fun _ => ?_
  refine Java.within_bind (Java.within_nonNull _) fun _ => ?_
  refine Java.within_bind (rowStep_add _) fun _ => ?_
  refine Java.within_bind (rowStep_add _) fun _ => ?_
  refine Java.within_bind (Java.within_nonNull _) fun _ => ?_
  refine Java.within_bind (rowStep_add _) fun _ => ?_
  refine Java.within_bind (Java.within_nonNull _) fun _ => ?_
  refine Java.within_bind (rowStep_addAll _) fun _ => ?_
  refine Java.within_bind (Java.within_nonNull _) fun _ => ?_
  refine Java.within_bind (rowStep_add _) fun _ => ?_
  exact Java.within_bind (rowStep_add _) fun _ => rowStep_add _

theorem within_rowValues (r : Report) : Java.Within DeviceStep (rowValues A r) := by
  have h : Java.Within RowStep (toStringBody A r) := by
    refine Java.within_bind (rowStep_addAll _) fun _ => ?_
    refine Java.within_bind (rowStep_addAll _) fun _ => ?_
    refine Java.within_bind (rowStep_addAll _) fun _ => ?_
    refine Java.within_bind (rowStep_addSignal r) fun _ => ?_
    refine Java.within_bind (Java.within_nonNull _) fun _ => ?_
    exact Java.within_bind (rowStep_showNetworks _) fun _ => rowStep_addCells r _
  exact fun w => h { world := w }

end RowStep

/-! How many values a piece of the body can add. -/

def AddsAtMost {α : Type} (n : ℕ) (x : Java Row α) : Prop :=
  ∀ row, (x.run row).2.values.length ≤ row.values.length + n

section AddsAtMost

variable {α β : Type}

theorem addsAtMost_pure (a : α) : AddsAtMost 0 (pure a : Java Row α) := fun _ => le_rfl

theorem addsAtMost_get : AddsAtMost 0 (Java.get : Java Row Row) := fun _ => le_rfl

theorem addsAtMost_call (x : Java World α) : AddsAtMost 0 (Row.call x) := fun _ => le_rfl

theorem addsAtMost_nonNull (a : Option α) : AddsAtMost 0 (Java.nonNull a : Java Row α) := by
  cases a
  · exact fun _ => le_rfl
  · exact addsAtMost_pure _

theorem addsAtMost_add (s : Option String) : AddsAtMost 1 (Row.add s) := by
  intro row
  exact (List.length_append).le

theorem addsAtMost_bind (n m : ℕ) {x : Java Row α} {k : α → Java Row β} (hx : AddsAtMost n x)
    (hk : ∀ a, AddsAtMost m (k a)) : AddsAtMost (n+m) (x >>= k) := by
  intro row
  have hr := hx row
  rw [Java.run_bind]
  generalize x.run row = o at hr
  rcases o with ⟨_ | a, row'⟩
  · exact hr.trans (by omega)
  · have hk' := hk a row'
    simp only at hr hk' ⊢
    omega

theorem addsAtMost_addAll (l : List (Option String)) : AddsAtMost l.length (Row.addAll l) := by
  induction l with
  | nil => exact addsAtMost_pure ()
  | cons s rest ih =>
    rw [List.length_cons, Nat.add_comm]
    exact addsAtMost_bind 1 _ (addsAtMost_add s) fun _ => ih

theorem addsAtMost_addSignal (A : Android) (r : Report) : AddsAtMost 8 (addSignal A r) := by
  apply addsAtMost_bind 0 8 (addsAtMost_call _)
  intro _
  apply addsAtMost_bind 0 8 (addsAtMost_nonNull _)
  intro _
  apply addsAtMost_bind 1 7 (addsAtMost_add _)
  intro _
  apply addsAtMost_bind 0 7 (addsAtMost_call _)
  intro _
  apply addsAtMost_bind 1 6 (addsAtMost_add _)
  intro _
  apply addsAtMost_bind 0 6 (addsAtMost_call _)
  intro _
  apply addsAtMost_bind 1 5 (addsAtMost_add _)
  intro _
  apply addsAtMost_bind 0 5 (addsAtMost_call _)
  intro _
  apply addsAtMost_bind 1 4 (addsAtMost_add _)
  intro _
  apply addsAtMost_bind 0 4 (addsAtMost_nonNull _)
  intro _
  apply addsAtMost_bind 1 3 (addsAtMost_add _)
  intro _
  apply addsAtMost_bind 1 2 (addsAtMost_add _)
  intro _
  apply addsAtMost_bind 0 2 (addsAtMost_nonNull _)
  intro _
  apply addsAtMost_bind 1 1 (addsAtMost_add _)
  intro _
  apply addsAtMost_bind 0 1 addsAtMost_get
  exact fun _ => addsAtMost_add _

end AddsAtMost

theorem locationValues_length (A : Android) (l : Option Location) :
    (locationValues A l).length = 8 := by
  cases l <;> rfl

theorem activityValues_length (r : Report) : (activityValues r).length = 13 := by
  simp [activityValues]

/-- Without `AllNets` the row ends before the cell values. -/
theorem addsAtMost_toStringBody (A : Android) (r : Report) (h : r.allNets = none) :
    AddsAtMost 42 (toStringBody A r) := by
  have hloc := addsAtMost_addAll (locationValues A r.locationData)
  have hact := addsAtMost_addAll (activityValues r)
  rw [locationValues_length] at hloc
  rw [activityValues_length] at hact
  unfold toStringBody
  rw [h]
  apply addsAtMost_bind 13 29 (addsAtMost_addAll (reportValues A r))
  intro _
  apply addsAtMost_bind 8 21 hloc
  intro _
  apply addsAtMost_bind 13 8 hact
  intro _
  apply addsAtMost_bind 8 0 (addsAtMost_addSignal A r)
  exact fun _ => fun _ => le_rfl

/-! Reports as the sampler makes them: nothing assigns `AllNets` or `ActiveNetworkProperties`. -/

def Unlisted (r : Report) : Prop := r.allNets = none ∧ r.activeNetworkProperties = none

theorem returns_unlisted_setContext (A : Android) (r : Report) (h : Unlisted r) :
    Java.Returns Unlisted (setContext A r) := by
  iterate 9
    refine Java.returns_bind ?_
    intro _
  exact Java.returns_pure _ h

theorem returns_unlisted_gatherSample (A : Android) : Java.Returns Unlisted (gatherSample A) := by
  refine Java.returns_bind ?_
  intro _
  refine Java.returns_bind_of (returns_unlisted_setContext A {} ⟨rfl, rfl⟩) ?_
  intro r hr
  refine Java.returns_bind ?_
  intro _
  refine Java.returns_bind ?_
  intro _
  exact Java.returns_pure _ hr

theorem returns_unlisted_classifyHandoff (r : Report) (h : Unlisted r) :
    Java.Returns Unlisted (classifyHandoff r) := by
  iterate 3
    refine Java.returns_bind ?_
    intro _
  exact Java.returns_pure _ h

theorem returns_unlisted_setFromHistory (A : Android) (r : Report) (h : Unlisted r) :
    Java.Returns Unlisted (setFromHistory A r) := by
  iterate 3
    refine Java.returns_bind ?_
    intro _
  exact Java.returns_pure _ h

theorem returns_unlisted_prepareSample (A : Android) : Java.Returns Unlisted (prepareSample A) := by
  refine Java.returns_bind_of (returns_unlisted_gatherSample A) ?_
  intro r hr
  refine Java.returns_bind_of (returns_unlisted_classifyHandoff r hr) ?_
  exact fun r hr => returns_unlisted_setFromHistory A r hr

/-- One value per column, in order, each the quantity that its column names. -/
def RowMatchesHeader (meaning : String → String → Prop) (values : List String) : Prop :=
  List.Forall₂ meaning reportColumns values

/-- No row of a sampled report matches the header, whatever the columns mean:
the walk over the unassigned `AllNets` ends every row after at most 42 of the 69 values. -/
theorem rowValues_never_match_header (A B : Android) (w w' v v' : World) (r : Report)
    (values : List String) (hr : (networkInfoToReport A).run w = (.ok (some r), w'))
    (hv : (rowValues B r).run v = (.ok values, v')) (meaning : String → String → Prop) :
    values.length ≤ 42 ∧ ¬RowMatchesHeader meaning values := by
  obtain ⟨w₀, hp, -⟩ := sampleBody_some A w w' r (networkInfoToReport_some A w w' r hr)
  have hu := returns_unlisted_prepareSample A w r w₀ hp
  have hlen := addsAtMost_toStringBody B r hu.1 { world := v }
  have hvals : values.length ≤ 42 := by
    cases hv
    simpa using hlen
  refine ⟨hvals, ?_⟩
  intro hm
  have hcols : reportColumns.length = 69 := by decide
  have heq := hm.length_eq
  omega

/-- An LTE phone with a location and a signal, sampled right after `StartTracing`. -/
def ltePhone : Android := steady (lteMoment 7)

def ltePhoneStarted : World := ((seedTracing ltePhone).run {}).2

theorem rowValues_never_match_header_lte_phone : ∃ r w' values v',
    (networkInfoToReport ltePhone).run ltePhoneStarted = (.ok (some r), w') ∧
    (rowValues ltePhone r).run w' = (.ok values, v') ∧
    ∀ meaning, values.length ≤ 42 ∧ ¬RowMatchesHeader meaning values :=
  ⟨_, _, _, _, rfl, rfl, fun meaning =>
    rowValues_never_match_header ltePhone ltePhone ltePhoneStarted _ _ _ _ _ rfl rfl meaning⟩

/-- Its row stops right before the missing `nrStatus`, with 27 columns to go. -/
theorem lte_phone_row_is_truncated : ∃ r w' values v',
    (networkInfoToReport ltePhone).run ltePhoneStarted = (.ok (some r), w') ∧
    (rowValues ltePhone r).run w' = (.ok values, v') ∧
    values.length = 42 ∧ reportColumns.length = 69 ∧
    ¬∃ meaning, RowMatchesHeader meaning values := by
  refine ⟨_, _, _, _, rfl, rfl, rfl, by decide, ?_⟩
  rintro ⟨meaning, hm⟩
  exact absurd hm.length_eq (by decide)

end MmWaveTracker
