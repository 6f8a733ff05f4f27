import MmWaveTracker.JavaMethod
import MmWaveTracker.SessionSummary

/-! The state the sampling code works on, and the device queries of
`core/Device.java`. The statics of `Device` and `Report` are shared by every
instance, so they are fields of one `World`. -/
namespace MmWaveTracker

/-- The statics of `Device`, `Report` and `config`, and the fields of `MonitoringService`; `tick`
counts the calls to the platform. -/
structure World where
  tick : ℕ := 0
  connect_type : Option String := none
  network_service : Option String := none
  network_type : Option String := none
  carrier : Option String := none
  accessNetworkTech : Option String := some ""
  samplingRateInMs : ℤ := 1000
  prevNrStatus : String := ""
  prevMCid : String := ""
  prevAccessNetworkTech : Option String := some ""
  mobilityLabelQueue : List Location := []
  rxBytes : List ℤ := []
  txBytes : List ℤ := []
  timestamps_rxtx_bytes_calculation : List ℤ := []
  sessionNumber : String := ""
  curSession : Option SessionSummary := none

/-- A call into Android: it sees the platform as it is now, and may throw. -/
def query {α : Type} (A : Android) (answer : Moment → α) : Java World α where
  run w := (if (A.moment w.tick).throws then .error .platform else .ok (answer (A.moment w.tick)),
    { w with tick := w.tick+1 })

/-- The clock, or a field that a callback of the platform assigns: it never throws. -/
def observe {α : Type} (A : Android) (answer : Moment → α) : Java World α where
  run w := (.ok (answer (A.moment w.tick)), { w with tick := w.tick+1 })

/-- The assignments of `getConnectType`; a network that is neither WIFI nor
cellular leaves the static as it was. -/
def connectTypeAfter (networkInfo : Option NetworkCapabilities) (connect_type : Option String) :
    Option String :=
  match networkInfo with
  | some c =>
    if c.transportWifi then some networkTypeWifi
    else if c.transportCellular then some networkTypeMobile
    else connect_type
  | none => some networkNotConnected

def getConnectType (A : Android) : Java World (Option String) := do
  let networkInfo ← query A Moment.capabilities
  Java.modify fun w => { w with connect_type := connectTypeAfter networkInfo w.connect_type }
  let w ← Java.get
  return w.connect_type

/-- The switch of `getNetworkService`: every other data network type breaks out
without an assignment. -/
def networkServiceAfter (dataNetworkType : ℤ) (network_service : Option String) : Option String :=
  if dataNetworkType = telephonyNetworkTypeNr then some networkType5GSA
  else if dataNetworkType = telephonyNetworkTypeLte then some networkTypeLte
  else network_service

def assignNetworkService (f : Option String → Option String) : Java World (Option String) := do
  Java.modify fun w => { w with network_service := f w.network_service }
  let w ← Java.get
  return w.network_service

/-- The statements `getNetworkService` and `getNetworkType` begin with. -/
def checkedConnectType (A : Android) : Java World String := do
  let connect_type ← getConnectType A
  query A (fun _ => ()) -- config.lacksPermission
  Java.nonNull connect_type

def networkServiceOf (A : Android) (connect_type : String) : Java World (Option String) := do
  if connect_type = networkTypeMobile then
    let dataNetworkType ← query A Moment.dataNetworkType
    assignNetworkService (networkServiceAfter dataNetworkType)
  else if connect_type = networkTypeWifi then assignNetworkService fun _ => some networkTypeWifi
  else assignNetworkService fun _ => some networkTypeUnknown

def getNetworkService (A : Android) : Java World (Option String) := do
  let connect_type ← checkedConnectType A
  networkServiceOf A connect_type

def assignNetworkType (s : String) : Java World String := do
  Java.modify fun w => { w with network_type := some s }
  return s

def getNetworkType (A : Android) : Java World String := do
  let connect_type ← checkedConnectType A
  if connect_type = networkTypeMobile then
    let dataNetworkType ← query A Moment.dataNetworkType
    if dataNetworkType = telephonyNetworkTypeNr then assignNetworkType networkType5GSA
    else if dataNetworkType = telephonyNetworkTypeLte then
      let netDisplayType ← observe A Moment.netDisplayType
      assignNetworkType netDisplayType
    else assignNetworkType networkTypeMobile
  else if connect_type = networkTypeWifi then assignNetworkType networkTypeWifi
  else assignNetworkType networkTypeUnknown

def getIs5GSA (A : Android) : Java World Bool := do
  let networkType ← getNetworkType A
  return networkType = networkType5GSA

/-- Each disjunct asks the platform again. -/
def getIs5GNSA (A : Android) : Java World Bool := do
  let t1 ← getNetworkType A
  if t1 = networkTypeMmwave then return true
  else
    let t2 ← getNetworkType A
    if t2 = networkType5GNSA then return true
    else
      let t3 ← getNetworkType A
      return t3 = networkTypeNrAdvanced

/-- The constructor; its phone model and name are not read by the sampler. -/
def newDevice (A : Android) : Java World Unit := do
  let carrier ← query A Moment.networkOperatorName
  Java.modify fun w => { w with carrier }
  let _ ← getNetworkType A
  let _ ← getNetworkService A

/-! Every device query changes only the platform clock and the statics, and with a
connection type at hand it fails only when a call into the platform does. -/

structure DeviceStep (w w' : World) : Prop where
  rest : w' = { w with
    tick := w'.tick
    connect_type := w'.connect_type
    network_service := w'.network_service
    network_type := w'.network_type
    accessNetworkTech := w'.accessNetworkTech }
  tick_le : w.tick ≤ w'.tick
  connect_type_isSome : w.connect_type.isSome → w'.connect_type.isSome

/-- The last call into the platform on the way from `w` to `w'` threw. -/
def Threw (A : Android) (w w' : World) : Prop :=
  w.tick < w'.tick ∧ (A.moment (w'.tick-1)).throws = true

def DeviceCallAt {α : Type} (A : Android) (x : Java World α) (w : World) : Prop :=
  DeviceStep w (x.run w).2 ∧
    (w.connect_type.isSome → ∀ e, (x.run w).1 = .error e → Threw A w (x.run w).2)

def DeviceCall {α : Type} (A : Android) (x : Java World α) : Prop := ∀ w, DeviceCallAt A x w

section DeviceCall

variable {α β : Type} {A : Android}

theorem DeviceStep.refl (w : World) : DeviceStep w w := ⟨rfl, le_rfl, id⟩

theorem DeviceStep.trans {w w' w'' : World} (h : DeviceStep w w') (h' : DeviceStep w' w'') :
    DeviceStep w w'' := by
  refine ⟨?_, h.tick_le.trans h'.tick_le, h'.connect_type_isSome ∘ h.connect_type_isSome⟩
  rw [h'.rest, h.rest]

instance : Std.Refl DeviceStep := ⟨DeviceStep.refl⟩

instance : IsTrans World DeviceStep := ⟨fun _ _ _ => DeviceStep.trans⟩

theorem deviceCall_of_ok (x : Java World α)
    (h : ∀ w, ∃ a, (x.run w).1 = .ok a ∧ DeviceStep w (x.run w).2) : DeviceCall A x := by
  intro w
  obtain ⟨a, ha, hs⟩ := h w
  refine ⟨hs, fun _ e he => ?_⟩
  rw [ha] at he
  cases he

theorem deviceCall_pure (a : α) : DeviceCall A (pure a) :=
  deviceCall_of_ok _ fun w => ⟨a, rfl, DeviceStep.refl w⟩

theorem deviceCall_observe (answer : Moment → α) : DeviceCall A (observe A answer) :=
  deviceCall_of_ok _ fun _ => ⟨_, rfl, rfl, Nat.le_succ _, id⟩

theorem deviceCall_query (answer : Moment → α) : DeviceCall A (query A answer) := by
  intro w
  refine ⟨⟨rfl, Nat.le_succ _, id⟩, fun _ e he => ⟨Nat.lt_succ_self _, ?_⟩⟩
  simp only [query] at he ⊢
  split at he
  · assumption
  · cases he

theorem deviceCallAt_bind {x : Java World α} {k : α → Java World β} {w : World}
    (hx : DeviceCallAt A x w) (hk : ∀ a w', x.run w = (.ok a, w') → DeviceCallAt A (k a) w') :
    DeviceCallAt A (x >>= k) w := by
  obtain ⟨hs, he⟩ := hx
  unfold DeviceCallAt
  rw [Java.run_bind]
  generalize x.run w = o at hs he hk
  rcases o with ⟨e | a, w'⟩
  · exact ⟨hs, fun hc e' _ => he hc e rfl⟩
  · obtain ⟨hs', he'⟩ := hk a w' rfl
    refine ⟨hs.trans hs', fun hc e hr => ?_⟩
    obtain ⟨hlt, ht⟩ := he' (hs.connect_type_isSome hc) e hr
    exact ⟨hs.tick_le.trans_lt hlt, ht⟩

theorem deviceCall_bind {x : Java World α} {k : α → Java World β} (hx : DeviceCall A x)
    (hk : ∀ a, DeviceCall A (k a)) : DeviceCall A (x >>= k) :=
  fun w => deviceCallAt_bind (hx w) fun a w' _ => hk a w'

theorem connectTypeAfter_isSome (networkInfo : Option NetworkCapabilities) (c : Option String)
    (h : c.isSome) : (connectTypeAfter networkInfo c).isSome := by
  unfold connectTypeAfter
  split
  · split_ifs
    · rfl
    · rfl
    · exact h
  · rfl

theorem deviceCall_getConnectType : DeviceCall A (getConnectType A) := by
  apply deviceCall_bind (deviceCall_query _)
  intro networkInfo
  exact deviceCall_of_ok _ fun _ => ⟨_, rfl, rfl, le_rfl, connectTypeAfter_isSome networkInfo _⟩

/-- The connection type is read back from the static that was just assigned. -/
theorem getConnectType_eq (w w' : World) (c : Option String)
    (h : (getConnectType A).run w = (.ok c, w')) : c = w'.connect_type := by
  obtain ⟨networkInfo, w₁, -, h⟩ := Java.bind_eq_ok _ _ _ _ _ h
  cases h
  rfl

theorem deviceCallAt_nonNull_connectType (w : World) :
    DeviceCallAt A (Java.nonNull w.connect_type) w := by
  cases hc : w.connect_type with
  | none => exact ⟨DeviceStep.refl w, fun h => by simp [hc] at h⟩
  | some c => exact deviceCall_pure c w

theorem deviceCall_checkedConnectType : DeviceCall A (checkedConnectType A) := by
  intro w
  apply deviceCallAt_bind (deviceCall_getConnectType w)
  intro c w' hg
  apply deviceCallAt_bind (deviceCall_query _ w')
  intro u w'' hq
  have hc : w''.connect_type = c := by
    rw [getConnectType_eq w w' c hg]
    exact congrArg (fun o => o.2.connect_type) hq.symm
  rw [← hc]
  exact deviceCallAt_nonNull_connectType w''

theorem deviceCall_assignNetworkService (g : Option String → Option String) :
    DeviceCall A (assignNetworkService g) :=
  deviceCall_of_ok _ fun _ => ⟨_, rfl, rfl, le_rfl, id⟩

theorem deviceCall_assignNetworkType (s : String) : DeviceCall A (assignNetworkType s) :=
  deviceCall_of_ok _ fun _ => ⟨_, rfl, rfl, le_rfl, id⟩

theorem deviceCall_networkServiceOf (connect_type : String) :
    DeviceCall A (networkServiceOf A connect_type) := by
  unfold networkServiceOf
  split_ifs
  · exact deviceCall_bind (deviceCall_query _) fun _ => deviceCall_assignNetworkService _
  · exact deviceCall_assignNetworkService _
  · exact deviceCall_assignNetworkService _

theorem deviceCall_getNetworkService : DeviceCall A (getNetworkService A) :=
  deviceCall_bind deviceCall_checkedConnectType deviceCall_networkServiceOf

theorem deviceCall_getNetworkType : DeviceCall A (getNetworkType A) := by
  apply deviceCall_bind deviceCall_checkedConnectType
  intro connect_type
  split_ifs
  · apply deviceCall_bind (deviceCall_query _)
    intro dataNetworkType
    split_ifs
    · exact deviceCall_assignNetworkType _
    · exact deviceCall_bind (deviceCall_observe _) fun _ => deviceCall_assignNetworkType _
    · exact deviceCall_assignNetworkType _
  · exact deviceCall_assignNetworkType _
  · exact deviceCall_assignNetworkType _

theorem deviceCall_getIs5GSA : DeviceCall A (getIs5GSA A) :=
  deviceCall_bind deviceCall_getNetworkType fun _ => deviceCall_pure _

theorem deviceCall_getIs5GNSA : DeviceCall A (getIs5GNSA A) := by
  apply deviceCall_bind deviceCall_getNetworkType
  intro t1
  split_ifs
  · exact deviceCall_pure _
  apply deviceCall_bind deviceCall_getNetworkType
  intro t2
  split_ifs
  · exact deviceCall_pure _
  · exact deviceCall_bind deviceCall_getNetworkType fun _ => deviceCall_pure _

/-- An observation that does not look at the clock or at the statics of `Device` and `Report`. -/
def Blind {γ : Type} (f : World → γ) : Prop :=
  ∀ (w : World) (tick : ℕ)
    (connect_type network_service network_type accessNetworkTech : Option String),
    f { w with tick, connect_type, network_service, network_type, accessNetworkTech } = f w

theorem DeviceStep.blind {γ : Type} {f : World → γ} {w w' : World} (h : DeviceStep w w')
    (hf : Blind f) : f w' = f w := by
  rw [h.rest]
  exact hf w _ _ _ _ _

theorem DeviceCall.within {x : Java World α} (h : DeviceCall A x) : Java.Within DeviceStep x :=
  fun w => (h w).1

theorem DeviceCall.leaves {γ : Type} {f : World → γ} {x : Java World α} (h : DeviceCall A x)
    (hf : Blind f) : Java.Leaves f x := fun w => (h w).1.blind hf

end DeviceCall

end MmWaveTracker
