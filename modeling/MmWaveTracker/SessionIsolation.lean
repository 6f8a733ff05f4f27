import MmWaveTracker.HandoffChain
import MmWaveTracker.SessionCoupling

/-! What one session can see of the sessions before it. `StartTracing` seeds the queues
and the summary anew but not the handoff history, nor the statics of `Device`. -/
namespace MmWaveTracker

structure Counters where
  nHandoffs : ℤ
  nVerticalHandoffs : ℤ
  nHorizontalHandoffs : ℤ
  nTowers : ℤ
  deriving DecidableEq, Repr

def counters (w : World) : Option Counters :=
  w.curSession.map fun s => ⟨s.nHandoffs, s.nVerticalHandoffs, s.nHorizontalHandoffs, s.nTowers⟩

/-- The `HandoffType` of the report that the operation samples, if it does. -/
def Op.handoffType (A : Android) (w : World) : Op → Option ℤ
  | .iterate _ => match (sampleFrom A w).1 with
    | .ok (some r) => some r.handoff.handoffType
    | _ => none
  | _ => none

def sessionTrace (A : Android) : World → List Op → List (Option ℤ × Option Counters)
  | _, [] => []
  | w, op :: rest =>
    let w' := ((op.exec A).run w).2
    (op.handoffType A w, counters w') :: sessionTrace A w' rest

/-- A new session on the platform `A`, which the service meets at its first reading;
it does not get going when `StartTracing` throws. -/
def newSession (A : Android) (w : World) (ops : List Op) :
    Option (List (Option ℤ × Option Counters)) :=
  match (seedTracing A).run { w with tick := 0 } with
  | (.ok _, w') => some (sessionTrace A w' ops)
  | (.error _, _) => none

/-- No new session can tell the two histories apart. -/
def Isolated (w v : World) : Prop := ∀ A ops, newSession A w ops = newSession A v ops

/-- What is left over and still matters: the previous cell, whether the previous
technology was SA, the service on other data networks, and the last connection type. -/
structure Residue where
  prevMCid : String
  prevTech : Option Bool
  service : Option Bool
  mobile : Bool
  deriving DecidableEq, Repr

def residue (w : World) : Residue :=
  ⟨w.prevMCid, techKind w.prevAccessNetworkTech, techKind w.network_service,
    w.connect_type = some networkTypeMobile⟩

/-! Traces of worlds in step. -/

theorem Alike.counters_eq {w v : World} (h : Alike False w v) : counters w = counters v := by
  have hs := h.session
  unfold counters
  generalize w.curSession = c at hs
  generalize v.curSession = c' at hs
  cases hs with
  | none => rfl
  | some hs =>
    injection hs.view with h₁ h₂ h₃ h₄ h₅ h₆
    simp only [Option.map_some, h₂, h₃, h₄, h₅]

theorem Alike.handoffType_eq {w v : World} (h : Alike False w v) (A : Android) (op : Op) :
    op.handoffType A w = op.handoffType A v := by
  cases op with
  | iterate acts =>
    have hnext : Alike False { w with tick := w.tick+1 } { v with tick := v.tick+1 } :=
      { h with tick := congrArg (·+1) h.tick }
    have hs := inStep_networkInfoToReport (A := A) _ _ hnext
    unfold Op.handoffType sampleFrom
    generalize (networkInfoToReport A).run { w with tick := w.tick+1 } = o at hs
    generalize (networkInfoToReport A).run { v with tick := v.tick+1 } = p at hs
    rcases o with ⟨e | report, w'⟩ <;> rcases p with ⟨e' | report', v'⟩
    · rfl
    · exact hs.elim
    · exact hs.elim
    · obtain ⟨hr, -⟩ := hs
      cases hr with
      | none => rfl
      | some hr => simp only [hr.handoff]
  | _ => rfl

theorem Alike.sessionTrace_eq {w v : World} (h : Alike False w v) (A : Android) (ops : List Op) :
    sessionTrace A w ops = sessionTrace A v ops := by
  induction ops generalizing w v with
  | nil => rfl
  | cons op rest ih =>
    have hstep : Alike False ((op.exec A).run w).2 ((op.exec A).run v).2 := by
      have hs := inStep_exec A op w v h
      generalize (op.exec A).run w = o at hs
      generalize (op.exec A).run v = p at hs
      rcases o with ⟨e | u, w'⟩ <;> rcases p with ⟨e' | u', v'⟩
      · exact hs
      · exact hs.elim
      · exact hs.elim
      · exact hs.2
    unfold sessionTrace
    simp only [h.handoffType_eq A op, hstep.counters_eq, ih hstep]

/-- The state that `StartTracing` leaves when there is a location. -/
def seeded (A : Android) (w : World) (lastLoc : Location) : World :=
  { w with
    tick := w.tick+5
    sessionNumber := valueOf ((A.moment w.tick).now/1000)
    curSession := some { sessionId := valueOf ((A.moment w.tick).now/1000) }
    mobilityLabelQueue := fillMobilityLabelQueue lastLoc w.mobilityLabelQueue
    rxBytes := (fun q => circularAdd speedCalculationWindowSize q 0)^[3] w.rxBytes
    txBytes := (fun q => circularAdd speedCalculationWindowSize q 0)^[3] w.txBytes
    timestamps_rxtx_bytes_calculation :=
      circularAdd speedCalculationWindowSize (circularAdd speedCalculationWindowSize
        (circularAdd speedCalculationWindowSize w.timestamps_rxtx_bytes_calculation
          (A.moment (w.tick+2)).now) (A.moment (w.tick+3)).now) (A.moment (w.tick+4)).now }

theorem seedTracing_some (A : Android) (w : World) (l : Location)
    (hl : (A.moment (w.tick+1)).lastLoc = some l) :
    (seedTracing A).run w = (.ok (), seeded A w l) := by
  unfold seedTracing
  rw [Java.bind_ok _ _ w _ (A.moment w.tick).now rfl, Java.bind_ok _ _ _ _ () rfl,
    Java.bind_ok _ _ _ _ (A.moment (w.tick+1)).lastLoc rfl, hl, Java.bind_ok _ _ _ _ l rfl,
    Java.bind_ok _ _ _ _ () rfl]
  rfl

theorem seedTracing_none (A : Android) (w : World) (hl : (A.moment (w.tick+1)).lastLoc = none) :
    ∃ w', (seedTracing A).run w = (.error .nullPointer, w') := by
  unfold seedTracing
  rw [Java.bind_ok _ _ w _ (A.moment w.tick).now rfl, Java.bind_ok _ _ _ _ () rfl,
    Java.bind_ok _ _ _ _ (A.moment (w.tick+1)).lastLoc rfl, hl]
  exact ⟨_, rfl⟩

/-! The history a service can come to have: cell ids that a sample can see again, and
a technology that is never null. -/

/-- A cell id as a sample makes it. -/
def CellText (mCid : String) : Prop := mCid = "" ∨ ∃ n, mCid = valueOf n

structure KeyLived (key : HandoffKey) : Prop where
  nrStatus : key.nrStatus = ""
  mCid : CellText key.mCid
  tech : key.accessNetworkTech.isSome

theorem cellText_setMCid (sdkInt : ℤ) (cellInfos : List CellInfo) (mCid : String)
    (h : CellText mCid) : CellText (setMCid sdkInt cellInfos mCid) := by
  unfold setMCid
  induction cellInfos generalizing mCid with
  | nil => exact h
  | cons info rest ih =>
    refine ih _ ?_
    by_cases hr : registered info = true
    · simp only [hr, if_true]
      cases info with
      | lte cell => exact Or.inr ⟨cell.ci, rfl⟩
      | nr cell =>
        simp only
        split_ifs
        · exact Or.inr ⟨cell.nci, rfl⟩
        · exact h
      | other text => exact h
    · simpa [hr] using h

theorem keyLived_exec (A : Android) (op : Op) (w : World) (hw : KeyLived (historyKey w)) :
    KeyLived (historyKey ((op.exec A).run w).2) := by
  rw [historyKey_exec]
  rcases hrec : op.recorded A w with _ | ⟨mCid, t⟩
  · exact hw
  · have hs := op_sampleRecord op w mCid t hrec
    have hcell : CellText mCid := by
      rw [hs.cell]
      exact cellText_setMCid _ _ _ (Or.inl rfl)
    cases t with
    | error e => exact ⟨rfl, hcell, hw.tech⟩
    | ok tech =>
      refine ⟨rfl, hcell, ?_⟩
      change tech.isSome
      rw [hs.answer tech rfl, Option.isSome_or, hs.classified, Bool.or_true]

/-- What every state of a created service satisfies. -/
structure Lived (w : World) : Prop where
  ready : Ready w
  key : KeyLived (historyKey w)

theorem lived_runOps (A : Android) (w₀ : World) (ops : List Op)
    (hdev : (newDevice A).run {} = (.ok (), w₀)) : Lived (runOps A w₀ ops) := by
  refine ⟨ready_runOps ops w₀ (ready_newDevice A w₀ hdev), ?_⟩
  have h₀ : KeyLived (historyKey w₀) := by
    have hk := leaves_newDevice (A := A) historyKey_sessionBlind.1 (fun _ _ => rfl) {}
    rw [hdev] at hk
    rw [show historyKey w₀ = historyKey {} from hk]
    exact ⟨rfl, Or.inl rfl, rfl⟩
  generalize w₀ = w at h₀
  induction ops generalizing w with
  | nil => exact h₀
  | cons op rest ih => exact ih _ (keyLived_exec A op w h₀)

/-- The residue is all that a new session can see. -/
theorem isolated_of_residue (w v : World) (hw : Lived w) (hv : Lived v)
    (h : residue w = residue v) : Isolated w v := by
  intro A ops
  unfold newSession
  cases hl : (A.moment 1).lastLoc with
  | none =>
    obtain ⟨w', h₁⟩ := seedTracing_none A { w with tick := 0 } hl
    obtain ⟨v', h₂⟩ := seedTracing_none A { v with tick := 0 } hl
    rw [h₁, h₂]
  | some l =>
    rw [seedTracing_some A { w with tick := 0 } l hl, seedTracing_some A { v with tick := 0 } l hl]
    injection h with hcell htech hservice hmobile
    have hsize : 0 < speedCalculationWindowSize := by decide
    have hne (q : List ℤ) : (fun q => circularAdd speedCalculationWindowSize q (0:ℤ))^[3] q ≠ [] :=
      circularAdd_ne_nil _ _ _ hsize
    have halike : Alike False (seeded A { w with tick := 0 } l) (seeded A { v with tick := 0 } l) :=
      { tick := rfl
        connected := ⟨hw.ready.connect_type, hv.ready.connect_type⟩
        mobile := decide_eq_decide.mp hmobile
        service := hservice
        tech := False.elim
        prevNrStatus := hw.key.nrStatus.trans hv.key.nrStatus.symm
        prevMCid := hcell
        prevTech := htech
        rx := ⟨hne _, hne _⟩
        tx := ⟨hne _, hne _⟩
        rate := ⟨hw.ready.samplingRate, hv.ready.samplingRate⟩
        session := Option.Rel.some ⟨rfl, rfl, rfl, rfl, rfl⟩ }
    simp only [halike.sessionTrace_eq A ops]

/-! Conversely each part of the residue shows in the first report of some session. Since
a session sees nothing else, it is enough to look at one world for each residue. -/

def kindText : Option Bool → Option String
  | none => none
  | some true => some networkType5GSA
  | some false => some networkTypeLte

def canonical (x : Residue) : World where
  prevMCid := x.prevMCid
  prevAccessNetworkTech := kindText x.prevTech
  network_service := kindText x.service
  connect_type := some (if x.mobile then networkTypeMobile else networkNotConnected)

theorem residue_canonical (x : Residue) : residue (canonical x) = x := by
  have hkind (k : Option Bool) : techKind (kindText k) = k := by
    rcases k with _ | _ | _
    · rfl
    · decide
    · decide
  have hmobile : decide ((canonical x).connect_type = some networkTypeMobile) = x.mobile := by
    change decide (some (if x.mobile then networkTypeMobile else networkNotConnected) =
      some networkTypeMobile) = x.mobile
    generalize x.mobile = m
    revert m
    decide
  unfold residue
  rw [hmobile]
  simp only [canonical, hkind]

theorem lived_canonical (w : World) (hw : Lived w) : Lived (canonical (residue w)) where
  ready := ⟨rfl, (by decide : (0:ℤ) ≤ 1000), fun s hs => by cases hs⟩
  key := by
    refine ⟨rfl, hw.key.mCid, ?_⟩
    obtain ⟨t, ht⟩ := Option.isSome_iff_exists.mp hw.key.tech
    have hp : w.prevAccessNetworkTech = some t := ht
    change (kindText (techKind w.prevAccessNetworkTech)).isSome
    rw [hp]
    unfold techKind
    by_cases hsa : t = networkType5GSA <;> simp [hsa, kindText]

/-- A phone that stands still, to start a session on. -/
def probe (capabilities : NetworkCapabilities) (dataNetworkType : ℤ) (cells : List CellInfo) :
    Android :=
  steady { lteMoment 0 with
    capabilities := some capabilities, dataNetworkType, cellInfo := some cells }

/-- A network that is neither WIFI nor cellular. -/
def tunnel : NetworkCapabilities := { cellular with transportCellular := false }

/-- `TelephonyManager.NETWORK_TYPE_UMTS`, one of the types without a service of its own. -/
def telephonyNetworkTypeUmts : ℤ := 3

def firstHandoffType (A : Android) (w : World) : Option (Option ℤ) :=
  (newSession A w [.iterate none]).bind fun trace => trace.head?.map Prod.fst

/-- The type of the handoff from cell `p` on a technology of kind `b` to cell `q` on `tech`. -/
def typeFrom (b : Bool) (p q tech : String) : ℤ :=
  (setHandoffType "" p (if b then networkType5GSA else networkTypeLte) "" q tech).handoffType

section Probe

variable (p : String) (b : Bool) (cells : List CellInfo)

theorem probe_lte (s : Option Bool) (m : Bool) :
    firstHandoffType (probe cellular telephonyNetworkTypeLte cells) (canonical ⟨p, some b, s, m⟩) =
      some (some (typeFrom b p (setMCid versionCodeR cells "") networkTypeLte)) := by
  cases b <;> rfl

theorem probe_nr (s : Option Bool) (m : Bool) :
    firstHandoffType (probe cellular telephonyNetworkTypeNr cells) (canonical ⟨p, some b, s, m⟩) =
      some (some (typeFrom b p (setMCid versionCodeR cells "") networkType5GSA)) := by
  cases b <;> rfl

theorem probe_umts (s : Option Bool) (m : Bool) :
    firstHandoffType (probe cellular telephonyNetworkTypeUmts cells) (canonical ⟨p, some b, s, m⟩) =
      some ((kindText s).map (typeFrom b p (setMCid versionCodeR cells ""))) := by
  rcases s with _ | _ | _ <;> cases b <;> rfl

theorem probe_tunnel (s : Option Bool) (m : Bool) :
    firstHandoffType (probe tunnel telephonyNetworkTypeNr cells) (canonical ⟨p, some b, s, m⟩) =
      some (some (typeFrom b p (setMCid versionCodeR cells "")
        (if m then networkType5GSA else networkTypeUnknown))) := by
  cases m <;> cases b <;> rfl

end Probe

theorem setHandoffType_empty_lte (p q tech : String) (b : Bool) (ht : tech ≠ networkType5GSA) :
    typeFrom b p q tech = if b then (if q = p then 16 else 18) else 0 := by
  have hlte : networkTypeLte ≠ networkType5GSA := by decide
  have h₁ : "" ≠ nrNotRestrictedKeyword := by decide
  have h₂ : "" ≠ nrcNoneKeyword := by decide
  unfold typeFrom setHandoffType
  by_cases hq : q = p <;> cases b <;> simp [hq, ht, hlte, h₁, h₂]

theorem setHandoffType_empty_sa (p q : String) (b : Bool) :
    typeFrom b p q networkType5GSA =
      if b then (if q = p then 0 else 15) else (if q = p then 17 else 0) := by
  have hlte : networkTypeLte ≠ networkType5GSA := by decide
  have h₁ : "" ≠ nrNotRestrictedKeyword := by decide
  unfold typeFrom setHandoffType
  by_cases hq : q = p <;> cases b <;> simp [hq, hlte, h₁]

theorem cellText_probe (p : String) (h : CellText p) :
    ∃ cells, setMCid versionCodeR cells "" = p := by
  rcases h with rfl | ⟨n, rfl⟩
  · exact ⟨[], rfl⟩
  · have hreg : registered (lteCell n) = true := by
      change registered (lteCell 0) = true
      decide
    refine ⟨[lteCell n], ?_⟩
    simp only [setMCid, List.foldl_cons, List.foldl_nil, hreg, if_true]
    rfl

/-- Two residues that no session tells apart are the same. -/
theorem residue_eq_of_probes (x y : Residue) (hx : CellText x.prevMCid) (hxt : x.prevTech.isSome)
    (hyt : y.prevTech.isSome)
    (h : ∀ A, firstHandoffType A (canonical x) = firstHandoffType A (canonical y)) : x = y := by
  obtain ⟨p, kx, s, m⟩ := x
  obtain ⟨q, ky, s', m'⟩ := y
  obtain ⟨b, rfl⟩ := Option.isSome_iff_exists.mp hxt
  obtain ⟨b', rfl⟩ := Option.isSome_iff_exists.mp hyt
  obtain ⟨cells, hcells⟩ := cellText_probe p hx
  have hlte : networkTypeLte ≠ networkType5GSA := by decide
  have hunk : networkTypeUnknown ≠ networkType5GSA := by decide
  have h₁ := h (probe cellular telephonyNetworkTypeLte cells)
  rw [probe_lte, probe_lte, hcells, setHandoffType_empty_lte _ _ _ _ hlte,
    setHandoffType_empty_lte _ _ _ _ hlte] at h₁
  have hb : b = b' := by
    simp only [Option.some.injEq] at h₁
    cases b <;> cases b'
    · rfl
    · simp only [Bool.false_eq_true, if_false, if_true] at h₁
      split_ifs at h₁ <;> omega
    · simp only [Bool.false_eq_true, if_false, if_true] at h₁
      omega
    · rfl
  subst hb
  have h₂ := h (probe cellular telephonyNetworkTypeNr cells)
  rw [probe_nr, probe_nr, hcells, setHandoffType_empty_sa, setHandoffType_empty_sa] at h₂
  have hp : p = q := by
    by_contra hne
    cases b <;> simp [hne] at h₂
  subst hp
  have h₃ := h (probe cellular telephonyNetworkTypeUmts cells)
  rw [probe_umts, probe_umts, hcells] at h₃
  have hs : s = s' := by
    rcases s with _ | _ | _ <;> rcases s' with _ | _ | _ <;> cases b <;>
      simp_all [kindText, setHandoffType_empty_lte, setHandoffType_empty_sa]
  subst hs
  have h₄ := h (probe tunnel telephonyNetworkTypeNr cells)
  rw [probe_tunnel, probe_tunnel, hcells] at h₄
  have hm : m = m' := by
    cases m <;> cases m' <;> cases b <;>
      simp_all [setHandoffType_empty_lte, setHandoffType_empty_sa]
  subst hm
  rfl

def ltePhoneReady : World := ((newDevice ltePhone).run {}).2

def saPhone : Android := probe cellular telephonyNetworkTypeNr [lteCell 7]

def saPhoneReady : World := ((newDevice saPhone).run {}).2

end MmWaveTracker
