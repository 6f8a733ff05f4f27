import MmWaveTracker.TechnologyReading
import MmWaveTracker.EventRun

/-! What the queries of `core/Device.java` owe to earlier ones: their results are kept in
statics, which some readings of the platform do not assign. -/
namespace MmWaveTracker

/-! The static of `core/DisplayPhoneState.java`. -/

def onDisplayInfoChanged (sdkInt overrideNetworkType : ℤ) (netDisplayType : String) : String :=
  if sdkInt ≥ versionCodeR then
    if overrideNetworkType = overrideNetworkTypeNrNsaMmwave then networkTypeMmwave
    else if overrideNetworkType = overrideNetworkTypeNrNsa then networkType5GNSA
    else if overrideNetworkType = overrideNetworkTypeLteAdvancedPro then networkTypeLtePro
    else if overrideNetworkType = overrideNetworkTypeLteCa then networkTypeLteCa
    else if overrideNetworkType = overrideNetworkTypeNrAdvanced then networkTypeNrAdvanced
    else networkTypeLte
  else netDisplayType

def netDisplayTypeAfter (sdkInt : ℤ) (callbacks : List ℤ) : String :=
  callbacks.foldl (fun netDisplayType overrideNetworkType =>
    onDisplayInfoChanged sdkInt overrideNetworkType netDisplayType) ""

/-- A platform whose display type is the one of the callbacks so far. -/
structure Phone where
  android : Android
  callbacks : ℕ → List ℤ
  grows : ∀ n, callbacks n <+: callbacks (n+1)
  display : ∀ n, (android.moment n).netDisplayType =
    netDisplayTypeAfter android.sdkInt (callbacks n)

/-! Histories. -/

inductive DeviceUse where
  | newDevice
  | getConnectType
  | getNetworkService
  | getNetworkType
  | getIs5GSA
  | getIs5GNSA

/-- The statics, and whether some `Device` was constructed. -/
structure Uses where
  world : World := {}
  made : Bool := false

/-- A method is called on an instance; whatever it throws is handled by its caller. -/
def Uses.call {α : Type} (u : Uses) (x : Java World α) : Option Uses :=
  if u.made then some { u with world := (x.run u.world).2 } else none

def useStep (A : Android) (u : Uses) : DeviceUse → Option Uses
  | .newDevice =>
    match (newDevice A).run u.world with
    | (.ok _, world) => some { world, made := true }
    | (.error _, world) => some { u with world }
  | .getConnectType => u.call (getConnectType A)
  | .getNetworkService => u.call (getNetworkService A)
  | .getNetworkType => u.call (getNetworkType A)
  | .getIs5GSA => u.call (getIs5GSA A)
  | .getIs5GNSA => u.call (getIs5GNSA A)

/-- What the platform answers to one query. -/
structure NetworkReading where
  capabilities : Option NetworkCapabilities
  dataNetworkType : ℤ

/-- A query made in `w` reads `r`. -/
structure Reads (A : Android) (w : World) (r : NetworkReading) : Prop where
  answers : ∀ n, w.tick ≤ n → n ≤ w.tick+2 → (A.moment n).throws = false
  capabilities : (A.moment w.tick).capabilities = r.capabilities
  dataNetworkType : (A.moment (w.tick+2)).dataNetworkType = r.dataNetworkType

/-- Any uses of `Device`, with the reading that a last query is to make. -/
structure History (r : NetworkReading) where
  phone : Phone
  uses : List DeviceUse
  world : World
  run : runEvents (useStep phone.android) {} uses = some { world, made := true }
  reads : Reads phone.android world r

namespace History

variable {r : NetworkReading}

/-- The results of the last query. -/
def connectType (h : History r) : Except Throwable (Option String) :=
  ((getConnectType h.phone.android).run h.world).1
def networkService (h : History r) : Except Throwable (Option String) :=
  ((getNetworkService h.phone.android).run h.world).1
def networkType (h : History r) : Except Throwable String :=
  ((getNetworkType h.phone.android).run h.world).1
def is5GSA (h : History r) : Except Throwable Bool := ((getIs5GSA h.phone.android).run h.world).1

end History

/-- A cellular connection, as `getConnectType` has it. -/
def NetworkReading.cellular (r : NetworkReading) : Bool :=
  match r.capabilities with
  | some c => !c.transportWifi && c.transportCellular
  | none => false

/-- A cellular connection with data network type NR. -/
def NetworkReading.nr (r : NetworkReading) : Bool :=
  r.cellular && decide (r.dataNetworkType = telephonyNetworkTypeNr)

/-- The last reading decides what the queries return. -/
structure HistoryFree (r : NetworkReading) : Prop where
  connectType : ∀ h h' : History r, h.connectType = h'.connectType
  networkService : ∀ h h' : History r, h.networkService = h'.networkService
  networkType : ∀ h h' : History r, h.networkType = h'.networkType
  service5GSA : ∀ h : History r, h.networkService = .ok (some networkType5GSA) ↔ r.nr = true
  is5GSA : ∀ h : History r, h.is5GSA = .ok r.nr

/-- No network, WIFI, or a cellular connection with NR: each static that is read is assigned
first. -/
def NetworkReading.Settled (r : NetworkReading) : Prop :=
  r.capabilities = none ∨ (∃ c, r.capabilities = some c ∧ c.transportWifi = true) ∨ r.nr = true

/-! The last query. -/

/-- What `getNetworkType` returns for a connection type, a data network type and a display type. -/
def networkTypeReading (connect_type : String) (dataNetworkType : ℤ) (netDisplayType : String) :
    String :=
  if connect_type = networkTypeMobile then
    if dataNetworkType = telephonyNetworkTypeNr then networkType5GSA
    else if dataNetworkType = telephonyNetworkTypeLte then netDisplayType
    else networkTypeMobile
  else if connect_type = networkTypeWifi then networkTypeWifi
  else networkTypeUnknown

section Query

variable {A : Android} {r : NetworkReading}

theorem Reads.connectTypeAt {w : World} (h : Reads A w r) :
    connectTypeAt A w = connectTypeAfter r.capabilities w.connect_type := by
  rw [MmWaveTracker.connectTypeAt, h.capabilities]

theorem Reads.first {w : World} (h : Reads A w r) : (A.moment w.tick).throws = false :=
  h.answers w.tick le_rfl (Nat.le_add_right _ _)

theorem Reads.second {w : World} (h : Reads A w r) : (A.moment (w.tick+1)).throws = false :=
  h.answers (w.tick+1) (Nat.le_add_right _ _) (Nat.le_succ _)

theorem Reads.third {w : World} (h : Reads A w r) : (A.moment (w.tick+2)).throws = false :=
  h.answers (w.tick+2) (Nat.le_add_right _ _) le_rfl

theorem getConnectType_reads (w : World) (h : Reads A w r) :
    ((getConnectType A).run w).1 = .ok (connectTypeAfter r.capabilities w.connect_type) := by
  unfold getConnectType
  rw [Java.bind_ok _ _ _ _ _ (query_run _ w h.first), ← h.capabilities]
  rfl

theorem getNetworkService_reads (w : World) (h : Reads A w r) (c : String)
    (hc : connectTypeAfter r.capabilities w.connect_type = some c) :
    ((getNetworkService A).run w).1 = .ok
    ((namedTechnology (some c) r.dataNetworkType).or w.network_service) := by
  have hcat := h.connectTypeAt.trans hc
  unfold getNetworkService
  rw [Java.bind_ok _ _ _ _ _ (checkedConnectType_run w c h.first h.second hcat)]
  obtain ⟨s, w', hrun⟩ : ∃ s w',
      (networkServiceOf A c).run { w with tick := w.tick+2, connect_type := some c } =
      (.ok s, w') := by
    unfold networkServiceOf
    split_ifs
    · rw [Java.bind_ok _ _ _ _ _ (query_run _ _ h.third)]
      exact ⟨_, _, rfl⟩
    · exact ⟨_, _, rfl⟩
    · exact ⟨_, _, rfl⟩
  obtain ⟨-, hs, -⟩ := networkServiceOf_eq_ok c _ w' s hrun
  rw [hrun, hs, ← h.dataNetworkType]

theorem getNetworkType_reads (w : World) (h : Reads A w r) (c : String)
    (hc : connectTypeAfter r.capabilities w.connect_type = some c) :
    ((getNetworkType A).run w).1 =
      .ok (networkTypeReading c r.dataNetworkType (A.moment (w.tick+3)).netDisplayType) := by
  have hcat := h.connectTypeAt.trans hc
  unfold getNetworkType
  rw [Java.bind_ok _ _ _ _ _ (checkedConnectType_run w c h.first h.second hcat)]
  unfold networkTypeReading
  split_ifs with hm hnr hlte hwifi
  all_goals try rw [Java.bind_ok _ _ _ _ _ (query_run _ _ h.third)]
  · rw [if_pos (h.dataNetworkType.trans hnr)]
    rfl
  · rw [if_neg fun ht => hnr (h.dataNetworkType.symm.trans ht),
      if_pos (h.dataNetworkType.trans hlte)]
    rfl
  · rw [if_neg fun ht => hnr (h.dataNetworkType.symm.trans ht), if_neg fun ht =>
      hlte (h.dataNetworkType.symm.trans ht)]
    rfl
  · rfl
  · rfl

theorem getIs5GSA_reads (w : World) (s : String) (h : ((getNetworkType A).run w).1 = .ok s) :
    ((getIs5GSA A).run w).1 = .ok (decide (s = networkType5GSA)) := by
  unfold getIs5GSA
  rw [Java.run_bind]
  generalize (getNetworkType A).run w = o at h
  obtain ⟨o, w'⟩ := o
  subst h
  rfl

end Query

/-! A reading that settles the connection type. -/

section Settled

variable {r : NetworkReading}

theorem connectTypeAfter_cellular (r : NetworkReading) (old : Option String)
    (h : r.cellular = true) :
    connectTypeAfter r.capabilities old = some networkTypeMobile := by
  unfold NetworkReading.cellular at h
  cases hcaps : r.capabilities with
  | none =>
    rw [hcaps] at h
    cases h
  | some caps =>
    rw [hcaps] at h
    simp only [Bool.and_eq_true, Bool.not_eq_true'] at h
    simp [connectTypeAfter, h.1, h.2]

/-- An assignment does not depend on what was there. -/
theorem connectTypeAfter_named (capabilities : Option NetworkCapabilities) (old : Option String)
    (c : String)
    (hc : connectTypeAfter capabilities none = some c) :
    connectTypeAfter capabilities old = some c := by
  unfold connectTypeAfter at hc ⊢
  cases capabilities with
  | none => exact hc
  | some caps =>
    dsimp only at hc ⊢
    split_ifs at hc ⊢
    · exact hc
    · exact hc

/-- Where the reading names a connection and a technology, and no display type is asked for,
nothing else is left to decide. -/
theorem historyFree_of_named (c tech type : String)
    (hc : connectTypeAfter r.capabilities none = some c)
    (htech : namedTechnology (some c) r.dataNetworkType = some tech)
    (htype : ∀ display, networkTypeReading c r.dataNetworkType display = type)
    (hservice5GSA : tech = networkType5GSA ↔ r.nr = true)
    (hnr : decide (type = networkType5GSA) = r.nr) :
    HistoryFree r := by
  have hconnect (h : History r) : h.connectType = .ok (some c) := by
    rw [← connectTypeAfter_named r.capabilities h.world.connect_type c hc]
    exact getConnectType_reads h.world h.reads
  have hservice (h : History r) : h.networkService = .ok (some tech) := by
    have hread := getNetworkService_reads h.world h.reads c (connectTypeAfter_named _ _ c hc)
    rw [htech] at hread
    exact hread
  have hnetwork (h : History r) : h.networkType = .ok type := by
    have hread := getNetworkType_reads h.world h.reads c (connectTypeAfter_named _ _ c hc)
    rw [htype] at hread
    exact hread
  constructor
  · exact fun h h' => (hconnect h).trans (hconnect h').symm
  · exact fun h h' => (hservice h).trans (hservice h').symm
  · exact fun h h' => (hnetwork h).trans (hnetwork h').symm
  · intro h
    rw [hservice h, Except.ok.injEq, Option.some.injEq]
    exact hservice5GSA
  · intro h
    rw [← hnr]
    exact getIs5GSA_reads h.world type (hnetwork h)

theorem historyFree_of_settled (h : r.Settled) : HistoryFree r := by
  rcases h with hnone | ⟨caps, hcaps, hwifi⟩ | hnr
  · have hnot : r.nr = false := by
      rw [NetworkReading.nr, NetworkReading.cellular, hnone, Bool.false_and]
    refine historyFree_of_named networkNotConnected networkTypeUnknown networkTypeUnknown ?_ rfl
      (fun _ => rfl) ?_ ?_
    · rw [hnone]
      rfl
    · rw [hnot]
      decide
    · rw [hnot]
      decide
  · have hnot : r.nr = false := by simp [NetworkReading.nr, NetworkReading.cellular, hcaps, hwifi]
    refine historyFree_of_named networkTypeWifi networkTypeWifi networkTypeWifi ?_ rfl
      (fun _ => rfl) ?_ ?_
    · simp [connectTypeAfter, hcaps, hwifi]
    · rw [hnot]
      decide
    · rw [hnot]
      decide
  · obtain ⟨hcellular, htype⟩ := (Bool.and_eq_true _ _).mp hnr
    have hdata : r.dataNetworkType = telephonyNetworkTypeNr := of_decide_eq_true htype
    refine historyFree_of_named networkTypeMobile networkType5GSA networkType5GSA ?_ ?_ ?_
      (iff_of_true rfl hnr) ?_
    · exact connectTypeAfter_cellular r none hcellular
    · rw [hdata]
      rfl
    · intro display
      rw [hdata]
      rfl
    · rw [hnr]
      decide

end Settled

/-! Readings that leave a static as it was. -/

def momentOf (r : NetworkReading) (netDisplayType : String) : Moment :=
  { lteMoment 0 with
    capabilities := r.capabilities, dataNetworkType := r.dataNetworkType, netDisplayType }

/-- A phone that reads `first` in the constructor of its only `Device`, and `last` ever after. -/
def phoneOf (first last : NetworkReading) (callbacks : List ℤ) : Phone where
  android := { steady (lteMoment 0) with
    moment := fun n =>
      momentOf (if n < 5 then first else last) (netDisplayTypeAfter versionCodeR callbacks) }
  callbacks _ := callbacks
  grows _ := List.prefix_rfl
  display _ := rfl

def wifiReading : NetworkReading := ⟨some { cellular with transportWifi := true }, 0⟩

def noReading : NetworkReading := ⟨none, 0⟩

def afterWifi (last : NetworkReading) (callbacks : List ℤ) : History last where
  phone := phoneOf wifiReading last callbacks
  uses := [.newDevice]
  world := {
    tick := 5
    connect_type := some networkTypeWifi
    network_service := some networkTypeWifi
    network_type := some networkTypeWifi
    carrier := some "Carrier" }
  run := rfl
  reads := ⟨fun _ _ _ => rfl, rfl, rfl⟩

def afterNone (last : NetworkReading) (callbacks : List ℤ) : History last where
  phone := phoneOf noReading last callbacks
  uses := [.newDevice]
  world := {
    tick := 5
    connect_type := some networkNotConnected
    network_service := some networkTypeUnknown
    network_type := some networkTypeUnknown
    carrier := some "Carrier" }
  run := rfl
  reads := ⟨fun _ _ _ => rfl, rfl, rfl⟩

section Stale

variable {r : NetworkReading}

/-- A transport that is neither WIFI nor cellular. -/
theorem connectType_stale (caps : NetworkCapabilities) (hcaps : r.capabilities = some caps)
    (hwifi : caps.transportWifi = false) (hcellular : r.cellular = false) :
    (afterWifi r []).connectType ≠ (afterNone r []).connectType := by
  have hnot : caps.transportCellular = false := by
    rw [NetworkReading.cellular, hcaps] at hcellular
    simp only [hwifi, Bool.not_false, Bool.true_and] at hcellular
    exact hcellular
  have hkeep (old : Option String) : connectTypeAfter r.capabilities old = old := by
    simp [connectTypeAfter, hcaps, hwifi, hnot]
  have hfirst := getConnectType_reads _ (afterWifi r []).reads
  have hsecond := getConnectType_reads _ (afterNone r []).reads
  rw [hkeep] at hfirst hsecond
  intro heq
  have hstale := hfirst.symm.trans (heq.trans hsecond)
  have hold : networkTypeWifi = networkNotConnected := Option.some.inj (Except.ok.inj hstale)
  exact absurd hold (by decide)

/-- A cellular network that is neither NR nor LTE. -/
theorem networkService_stale (hcellular : r.cellular = true)
    (hnr : r.dataNetworkType ≠ telephonyNetworkTypeNr)
    (hlte : r.dataNetworkType ≠ telephonyNetworkTypeLte) :
    (afterWifi r []).networkService ≠ (afterNone r []).networkService := by
  have hnone : namedTechnology (some networkTypeMobile) r.dataNetworkType = none := by
    simp [namedTechnology, hnr, hlte]
  have hfirst := getNetworkService_reads _ (afterWifi r []).reads _
    (connectTypeAfter_cellular r _ hcellular)
  have hsecond := getNetworkService_reads _ (afterNone r []).reads _
    (connectTypeAfter_cellular r _ hcellular)
  rw [hnone] at hfirst hsecond
  intro heq
  have hstale := hfirst.symm.trans (heq.trans hsecond)
  have hold : networkTypeWifi = networkTypeUnknown := Option.some.inj (Except.ok.inj hstale)
  exact absurd hold (by decide)

/-- With LTE, `getNetworkType` returns the display type of the last callback. -/
theorem networkType_stale (hcellular : r.cellular = true)
    (hlte : r.dataNetworkType = telephonyNetworkTypeLte) :
    (afterWifi r []).networkType ≠ (afterWifi r [0]).networkType := by
  have hfirst := getNetworkType_reads _ (afterWifi r []).reads _
    (connectTypeAfter_cellular r _ hcellular)
  have hsecond := getNetworkType_reads _ (afterWifi r [0]).reads _
    (connectTypeAfter_cellular r _ hcellular)
  rw [hlte] at hfirst hsecond
  intro heq
  have hstale := hfirst.symm.trans (heq.trans hsecond)
  have hold : netDisplayTypeAfter versionCodeR [] = netDisplayTypeAfter versionCodeR [0] :=
    Except.ok.inj hstale
  exact absurd hold (by decide)

theorem settled_of_historyFree (h : HistoryFree r) : r.Settled := by
  by_contra hno
  simp only [NetworkReading.Settled, not_or, not_exists, not_and, Bool.not_eq_true] at hno
  obtain ⟨hnone, hwifi, hnr⟩ := hno
  obtain ⟨caps, hcaps⟩ := Option.ne_none_iff_exists'.mp hnone
  cases hcellular : r.cellular with
  | false => exact connectType_stale caps hcaps (hwifi caps hcaps) hcellular (h.connectType _ _)
  | true =>
    have hdata : r.dataNetworkType ≠ telephonyNetworkTypeNr := by
      rw [NetworkReading.nr, hcellular, Bool.true_and] at hnr
      exact of_decide_eq_false hnr
    by_cases hlte : r.dataNetworkType = telephonyNetworkTypeLte
    · exact networkType_stale hcellular hlte (h.networkType _ _)
    · exact networkService_stale hcellular hdata hlte (h.networkService _ _)

/-- No callback assigns the name of standalone 5G. -/
theorem netDisplayTypeAfter_ne (sdkInt : ℤ) (callbacks : List ℤ) :
    netDisplayTypeAfter sdkInt callbacks ≠ networkType5GSA := by
  have hstep (overrideNetworkType : ℤ) (old : String) (hold : old ≠ networkType5GSA) :
      onDisplayInfoChanged sdkInt overrideNetworkType old ≠ networkType5GSA := by
    unfold onDisplayInfoChanged
    split_ifs
    all_goals first | exact hold | decide
  have hfold (old : String) (hold : old ≠ networkType5GSA) :
      callbacks.foldl (fun netDisplayType overrideNetworkType =>
      onDisplayInfoChanged sdkInt overrideNetworkType netDisplayType) old ≠ networkType5GSA := by
    induction callbacks generalizing old with
    | nil => exact hold
    | cons t rest ih => exact ih _ (hstep t old hold)
  exact hfold "" (by decide)

/-- With LTE, the other queries do not depend on the history. -/
theorem History.lte (h : History r) (hcellular : r.cellular = true)
    (hlte : r.dataNetworkType = telephonyNetworkTypeLte) :
    h.connectType = .ok (some networkTypeMobile) ∧ h.networkService = .ok (some networkTypeLte) ∧
    h.is5GSA = .ok false := by
  have hc := connectTypeAfter_cellular r h.world.connect_type hcellular
  have hconnect := getConnectType_reads h.world h.reads
  have hservice := getNetworkService_reads h.world h.reads _ hc
  have htype := getNetworkType_reads h.world h.reads _ hc
  rw [hc] at hconnect
  rw [hlte] at hservice htype
  rw [h.phone.display] at htype
  have hdisplay := netDisplayTypeAfter_ne h.phone.android.sdkInt
    (h.phone.callbacks (h.world.tick+3))
  have hsa := getIs5GSA_reads h.world _ htype
  exact ⟨hconnect, hservice, hsa.trans (congrArg Except.ok (decide_eq_false hdisplay))⟩

end Stale

/-- The queries of `Device` return what the last reading says, whatever came before, exactly
for the readings that assign every static; with LTE, only the display type is older. -/
theorem historyFree_iff_settled (r : NetworkReading) : (HistoryFree r ↔ r.Settled) ∧
    (r.cellular = true → r.dataNetworkType = telephonyNetworkTypeLte → ∀ h : History r,
      h.connectType = .ok (some networkTypeMobile) ∧ h.networkService = .ok (some networkTypeLte) ∧
      h.is5GSA = .ok r.nr) := by
  refine ⟨⟨settled_of_historyFree, historyFree_of_settled⟩, fun hcellular hlte h => ?_⟩
  have hnr : r.nr = false := by
    rw [NetworkReading.nr, hlte, hcellular]
    rfl
  rw [hnr]
  exact h.lte hcellular hlte

theorem historyFree_iff_settled_after_wifi :
    (afterWifi ⟨some cellular, telephonyNetworkTypeLte⟩ []).networkService = .ok
    (some networkTypeLte) :=
  ((historyFree_iff_settled ⟨some cellular, telephonyNetworkTypeLte⟩).2 rfl rfl
    (afterWifi _ [])).2.1

/-- `NETWORK_TYPE_UMTS`, on a cellular connection. -/
def umtsReading : NetworkReading := ⟨some cellular, 3⟩

theorem umtsReading_stale : (afterWifi umtsReading []).networkService = .ok (some networkTypeWifi) ∧
    (afterNone umtsReading []).networkService = .ok (some networkTypeUnknown) ∧
      ¬HistoryFree umtsReading := by
  have hwifi : (afterWifi umtsReading []).networkService = .ok (some networkTypeWifi) := rfl
  have hnone : (afterNone umtsReading []).networkService = .ok (some networkTypeUnknown) := rfl
  refine ⟨hwifi, hnone, fun h => ?_⟩
  have heq := hwifi.symm.trans ((h.networkService _ _).trans hnone)
  exact absurd heq (by decide)

end MmWaveTracker
