import MmWaveTracker.SamplingLoop

/-! Two services that run on the same platform side by side. They may differ in what
earlier sessions left behind; `Alike` says what must agree for their handoffs and
counters to stay in step, and every operation preserves it. -/
namespace MmWaveTracker

/-- A technology as the classifier sees it: null, SA, or any other. -/
def techKind (tech : Option String) : Option Bool := tech.map fun t => t = networkType5GSA

structure SessionAlike (s s' : SessionSummary) : Prop where
  sessionStarted : s.sessionStarted = s'.sessionStarted
  startTime : s.startTime = s'.startTime
  prevLocation : s.prevLocation = s'.prevLocation
  currentNrStatus : s.currentNrStatus = s'.currentNrStatus
  view : handoffView s = handoffView s'

/-- Two worlds in step; `asked` is whether the technology has been asked for in the
current sample, as the static is stale before that. -/
structure Alike (asked : Prop) (w v : World) : Prop where
  tick : w.tick = v.tick
  connected : w.connect_type.isSome ∧ v.connect_type.isSome
  mobile : w.connect_type = some networkTypeMobile ↔ v.connect_type = some networkTypeMobile
  service : techKind w.network_service = techKind v.network_service
  tech : asked → techKind w.accessNetworkTech = techKind v.accessNetworkTech
  prevNrStatus : w.prevNrStatus = v.prevNrStatus
  prevMCid : w.prevMCid = v.prevMCid
  prevTech : techKind w.prevAccessNetworkTech = techKind v.prevAccessNetworkTech
  rx : w.rxBytes ≠ [] ∧ v.rxBytes ≠ []
  tx : w.txBytes ≠ [] ∧ v.txBytes ≠ []
  rate : 0 ≤ w.samplingRateInMs ∧ 0 ≤ v.samplingRateInMs
  session : Option.Rel SessionAlike w.curSession v.curSession

theorem Alike.forget {asked : Prop} {w v : World} (h : Alike asked w v) : Alike False w v :=
  { h with tech := False.elim }

/-- Two bodies that keep two worlds in step and return related values. -/
def InStep {α : Type} (asked : Prop) (x y : Java World α) (V : α → α → Prop) : Prop :=
  Java.Coupled (Alike asked) x y (fun a b w v => V a b ∧ Alike asked w v) (Alike False)

section InStep

variable {A : Android} {asked : Prop} {α β : Type}

theorem inStep_pure {V : α → α → Prop} (a b : α) (h : V a b) : InStep asked (pure a) (pure b) V :=
  Java.coupled_pure a b fun _ _ hw => ⟨h, hw⟩

/-- Sequencing after a body that keeps the worlds in step. -/
theorem inStep_then {V : α → α → Prop} {S : β → β → World → World → Prop} {x y : Java World α}
    {f g : α → Java World β} (hx : InStep asked x y V)
    (hf : ∀ a b, V a b → Java.Coupled (Alike asked) (f a) (g b) S (Alike False)) :
    Java.Coupled (Alike asked) (x >>= f) (y >>= g) S (Alike False) :=
  Java.coupled_bind hx fun a b s t h => hf a b h.1 s t h.2

theorem inStep_bind {V : α → α → Prop} {W : β → β → Prop} {x y : Java World α}
    {f g : α → Java World β} (hx : InStep asked x y V)
    (hf : ∀ a b, V a b → InStep asked (f a) (g b) W) :
    InStep asked (x >>= f) (y >>= g) W := inStep_then hx hf

theorem inStep_modify (f g : World → World) (h : ∀ w v, Alike asked w v → Alike asked (f w) (g v)) :
    InStep asked (Java.modify f) (Java.modify g) fun _ _ => True :=
  Java.coupled_modify f g fun w v hw => ⟨trivial, h w v hw⟩

theorem inStep_nonNull {V : α → α → Prop} (a b : Option α) (h : Option.Rel V a b) :
    InStep asked (Java.nonNull a) (Java.nonNull b) V := by
  cases h with
  | none => exact Java.coupled_throw _ _ fun _ _ hw => hw.forget
  | some h => exact inStep_pure _ _ h

theorem rel_eq (c c' : Option α) (h : c = c') : Option.Rel Eq c c' := by
  subst h
  cases c
  · exact Option.Rel.none
  · exact Option.Rel.some rfl

/-- Two questions to the same platform. -/
theorem inStep_query_answers {V : α → α → Prop} (answer answer' : Moment → α)
    (hV : ∀ m, V (answer m) (answer' m)) : InStep asked (query A answer) (query A answer') V := by
  intro w v h
  have htick := h.tick
  have hnext : Alike asked { w with tick := w.tick+1 } { v with tick := v.tick+1 } :=
    { h with tick := congrArg (·+1) htick }
  unfold query
  simp only [htick]
  rw [← htick] at hnext ⊢
  by_cases ht : (A.moment w.tick).throws = true
  · simp only [ht, if_true]
    exact hnext.forget
  · simp only [ht]
    exact ⟨hV _, hnext⟩

theorem inStep_query (answer : Moment → α) : InStep asked (query A answer) (query A answer) Eq :=
  inStep_query_answers answer answer fun _ => rfl

theorem inStep_observe (answer : Moment → α) :
    InStep asked (observe A answer) (observe A answer) Eq := by
  intro w v h
  have htick := h.tick
  have hnext : Alike asked { w with tick := w.tick+1 } { v with tick := v.tick+1 } :=
    { h with tick := congrArg (·+1) htick }
  exact ⟨by rw [htick], hnext⟩

/-! The device queries. Only two things they read are left over from earlier: the
connection type on a network of neither kind, and the service on other data networks. -/

theorem connectTypeAfter_mobile (networkInfo : Option NetworkCapabilities) (c c' : Option String)
    (h : c = some networkTypeMobile ↔ c' = some networkTypeMobile) :
    connectTypeAfter networkInfo c = some networkTypeMobile ↔
      connectTypeAfter networkInfo c' = some networkTypeMobile := by
  unfold connectTypeAfter
  split
  · split_ifs
    · exact Iff.rfl
    · exact Iff.rfl
    · exact h
  · exact Iff.rfl

/-- Two connection types, both there and alike in being cellular. -/
def ConnectAlike (c c' : Option String) : Prop :=
  (c.isSome ∧ c'.isSome) ∧ (c = some networkTypeMobile ↔ c' = some networkTypeMobile)

theorem inStep_getConnectType :
    InStep asked (getConnectType A) (getConnectType A) ConnectAlike := by
  refine inStep_bind (inStep_query _) ?_
  rintro networkInfo _ rfl w v h
  have hm := connectTypeAfter_mobile networkInfo _ _ h.mobile
  have hc : (connectTypeAfter networkInfo w.connect_type).isSome ∧
      (connectTypeAfter networkInfo v.connect_type).isSome :=
    ⟨connectTypeAfter_isSome _ _ h.connected.1, connectTypeAfter_isSome _ _ h.connected.2⟩
  exact ⟨⟨hc, hm⟩, { h with connected := hc, mobile := hm }⟩

theorem inStep_checkedConnectType : InStep asked (checkedConnectType A) (checkedConnectType A)
    fun c c' => c = networkTypeMobile ↔ c' = networkTypeMobile := by
  refine inStep_bind inStep_getConnectType fun c c' hc => ?_
  refine inStep_bind (inStep_query _) fun _ _ _ => inStep_nonNull c c' ?_
  obtain ⟨⟨h, h'⟩, hm⟩ := hc
  obtain ⟨x, rfl⟩ := Option.isSome_iff_exists.mp h
  obtain ⟨x', rfl⟩ := Option.isSome_iff_exists.mp h'
  exact Option.Rel.some (by simpa using hm)

def ServiceAlike (s s' : Option String) : Prop := techKind s = techKind s'

theorem networkServiceAfter_alike (dataNetworkType : ℤ) (s s' : Option String)
    (h : ServiceAlike s s') : ServiceAlike (networkServiceAfter dataNetworkType s)
    (networkServiceAfter dataNetworkType s') := by
  unfold networkServiceAfter
  split_ifs
  · rfl
  · rfl
  · exact h

theorem inStep_assignNetworkService (f g : Option String → Option String)
    (h : ∀ s s', ServiceAlike s s' → ServiceAlike (f s) (g s')) :
    InStep asked (assignNetworkService f) (assignNetworkService g) ServiceAlike := by
  intro w v hw
  exact ⟨h _ _ hw.service, { hw with service := h _ _ hw.service }⟩

theorem inStep_networkServiceOf (c c' : String) (h : c = networkTypeMobile ↔
    c' = networkTypeMobile) :
      InStep asked (networkServiceOf A c) (networkServiceOf A c') ServiceAlike := by
  have hother (c : String) : ∃ s, ServiceAlike (some s) (some networkTypeUnknown) ∧
      (if c = networkTypeWifi then assignNetworkService fun _ => some networkTypeWifi
        else assignNetworkService fun _ => some networkTypeUnknown) = assignNetworkService fun _ =>
          some s := by
    split_ifs
    · exact ⟨networkTypeWifi, rfl, rfl⟩
    · exact ⟨networkTypeUnknown, rfl, rfl⟩
  by_cases hc : c = networkTypeMobile
  · rw [hc, h.mp hc]
    refine inStep_bind (inStep_query _) ?_
    rintro dataNetworkType _ rfl
    exact inStep_assignNetworkService _ _ (networkServiceAfter_alike dataNetworkType)
  · obtain ⟨s, hs, he⟩ := hother c
    obtain ⟨s', hs', he'⟩ := hother c'
    unfold networkServiceOf
    rw [if_neg hc, if_neg (mt h.mpr hc), he, he']
    exact inStep_assignNetworkService _ _ fun _ _ _ => hs.trans hs'.symm

theorem inStep_getNetworkService :
    InStep asked (getNetworkService A) (getNetworkService A) ServiceAlike :=
  inStep_bind inStep_checkedConnectType fun c c' h => inStep_networkServiceOf c c' h

/-- Asking for the technology brings the static of `Report` in step. -/
theorem coupled_getAccessNetworkTech : Java.Coupled (Alike asked) (getAccessNetworkTech A)
    (getAccessNetworkTech A) (fun t t' w v => ServiceAlike t t' ∧ Alike True w v)
    (Alike False) := by
  refine Java.coupled_bind inStep_getNetworkService fun t t' => ?_
  rintro w v ⟨ht, h⟩
  exact ⟨ht, { h with tech := fun _ => ht }⟩

/-- Two detailed network types that the 5G tests cannot tell apart. -/
def TypeAlike (t t' : String) : Prop :=
  (t = networkTypeMmwave ↔ t' = networkTypeMmwave) ∧ (t = networkType5GNSA ↔
    t' = networkType5GNSA) ∧ (t = networkTypeNrAdvanced ↔ t' = networkTypeNrAdvanced)

theorem inStep_assignNetworkType (s s' : String) (h : TypeAlike s s') :
    InStep asked (assignNetworkType s) (assignNetworkType s') TypeAlike := by
  intro w v hw
  exact ⟨h, { hw with }⟩

theorem typeAlike_refl (t : String) : TypeAlike t t := ⟨Iff.rfl, Iff.rfl, Iff.rfl⟩

theorem inStep_getNetworkType : InStep asked (getNetworkType A) (getNetworkType A) TypeAlike := by
  refine inStep_bind inStep_checkedConnectType fun c c' h => ?_
  have hother (c : String) : ∃ s, TypeAlike s networkTypeUnknown ∧
      (if c = networkTypeWifi then assignNetworkType networkTypeWifi
        else assignNetworkType networkTypeUnknown) = assignNetworkType s := by
    split_ifs
    · exact ⟨networkTypeWifi, ⟨by decide, by decide, by decide⟩, rfl⟩
    · exact ⟨networkTypeUnknown, typeAlike_refl _, rfl⟩
  by_cases hc : c = networkTypeMobile
  · rw [if_pos hc, if_pos (h.mp hc)]
    refine inStep_bind (inStep_query _) ?_
    rintro dataNetworkType _ rfl
    split_ifs
    · exact inStep_assignNetworkType _ _ (typeAlike_refl _)
    · refine inStep_bind (inStep_observe _) ?_
      rintro netDisplayType _ rfl
      exact inStep_assignNetworkType _ _ (typeAlike_refl _)
    · exact inStep_assignNetworkType _ _ (typeAlike_refl _)
  · obtain ⟨s, hs, he⟩ := hother c
    obtain ⟨s', hs', he'⟩ := hother c'
    rw [if_neg hc, if_neg (mt h.mpr hc), he, he']
    exact inStep_assignNetworkType _ _ ⟨hs.1.trans hs'.1.symm, hs.2.1.trans hs'.2.1.symm,
      hs.2.2.trans hs'.2.2.symm⟩

theorem inStep_getIs5GSA : InStep asked (getIs5GSA A) (getIs5GSA A) fun _ _ => True :=
  inStep_bind inStep_getNetworkType fun _ _ _ => inStep_pure _ _ trivial

theorem inStep_getIs5GNSA : InStep asked (getIs5GNSA A) (getIs5GNSA A) fun _ _ => True := by
  refine inStep_bind inStep_getNetworkType fun t t' ht => ?_
  by_cases h₁ : t = networkTypeMmwave
  · rw [if_pos h₁, if_pos (ht.1.mp h₁)]
    exact inStep_pure _ _ trivial
  rw [if_neg h₁, if_neg (mt ht.1.mpr h₁)]
  refine inStep_bind inStep_getNetworkType fun u u' hu => ?_
  by_cases h₂ : u = networkType5GNSA
  · rw [if_pos h₂, if_pos (hu.2.1.mp h₂)]
    exact inStep_pure _ _ trivial
  rw [if_neg h₂, if_neg (mt hu.2.1.mpr h₂)]
  exact inStep_bind inStep_getNetworkType fun _ _ _ => inStep_pure _ _ trivial

theorem inStep_newDevice : InStep False (newDevice A) (newDevice A) fun _ _ => True := by
  refine inStep_bind (inStep_query _) fun carrier carrier' _ => ?_
  refine inStep_bind (inStep_modify _ _ fun w v h => { h with }) fun _ _ _ => ?_
  refine inStep_bind inStep_getNetworkType fun _ _ _ => ?_
  exact inStep_bind inStep_getNetworkService fun _ _ _ => inStep_pure _ _ trivial

/-! A sample. -/

structure ReportAlike (r r' : Report) : Prop where
  timeStamp : r.timeStamp = r'.timeStamp
  cellInfos : r.cellInfos = r'.cellInfos
  locationData : r.locationData = r'.locationData
  nrStatus : r.nrStatus = r'.nrStatus
  mCid : r.mCid = r'.mCid
  handoff : r.handoff = r'.handoff

theorem coupled_setContext (r : Report) :
    Java.Coupled (Alike False) (setContext A r) (setContext A r)
    (fun r r' w v => ReportAlike r r' ∧ Alike True w v) (Alike False) := by
  refine inStep_then (inStep_query _) ?_
  rintro cellInfos _ rfl
  refine inStep_then (inStep_query _) fun _ _ _ => ?_
  refine inStep_then (inStep_query _) fun _ _ _ => ?_
  refine inStep_then (inStep_query _) fun _ _ _ => ?_
  refine inStep_then inStep_getIs5GNSA fun _ _ _ => ?_
  refine inStep_then inStep_getIs5GNSA fun _ _ _ => ?_
  refine Java.coupled_bind coupled_getAccessNetworkTech fun _ _ => ?_
  refine Java.coupled_weaken (P := Alike True) ?_ (fun _ _ h => h.2) fun _ _ _ _ h => h
  refine inStep_bind inStep_getNetworkType fun _ _ _ => ?_
  refine inStep_bind (inStep_nonNull cellInfos cellInfos (rel_eq _ _ rfl)) ?_
  rintro cells _ rfl
  exact inStep_pure _ _ ⟨rfl, rfl, rfl, rfl, rfl, rfl⟩

theorem inStep_readTrafficStats :
    InStep asked (readTrafficStats A) (readTrafficStats A) fun _ _ => True := by
  refine inStep_bind (inStep_query _) fun _ _ _ => ?_
  refine inStep_bind (inStep_query _) fun _ _ _ => ?_
  refine inStep_bind (inStep_query _) fun _ _ _ => ?_
  refine inStep_bind (inStep_query _) fun _ _ _ => ?_
  refine inStep_bind (inStep_query _) fun _ _ _ => ?_
  refine inStep_bind (inStep_query _) fun _ _ _ => ?_
  refine inStep_bind (inStep_query _) fun _ _ _ => ?_
  exact inStep_bind (inStep_query _) fun _ _ _ => inStep_pure _ _ trivial

theorem coupled_gatherSample : Java.Coupled (Alike False) (gatherSample A) (gatherSample A)
    (fun r r' w v => ReportAlike r r' ∧ Alike True w v) (Alike False) := by
  refine inStep_then (inStep_observe _) ?_
  rintro currentTime _ rfl
  refine Java.coupled_bind (coupled_setContext {}) fun r r' => ?_
  rintro w v ⟨hr, h⟩
  have hrest : InStep True
      (do let lastLoc ← observe A Moment.lastLoc
          let traffic ← readTrafficStats A
          return { r with
            locationData := lastLoc, timeStamp := currentTime, traffic, nrStatus := "",
            mCid := setMCid A.sdkInt (r.cellInfos.getD []) r.mCid })
      (do let lastLoc ← observe A Moment.lastLoc
          let traffic ← readTrafficStats A
          return { r' with
            locationData := lastLoc, timeStamp := currentTime, traffic, nrStatus := "",
            mCid := setMCid A.sdkInt (r'.cellInfos.getD []) r'.mCid }) ReportAlike := by
    refine inStep_bind (inStep_observe _) ?_
    rintro lastLoc _ rfl
    refine inStep_bind inStep_readTrafficStats fun _ _ _ => inStep_pure _ _ ?_
    exact ⟨rfl, hr.cellInfos, rfl, rfl, by rw [hr.cellInfos, hr.mCid], hr.handoff⟩
  exact hrest w v h

/-- The classifier only asks whether a technology is SA. -/
theorem setHandoffType_kind
    (prevNrStatus prevMCid prevTech prevTech' nrStatus mCid tech tech' : String)
    (hp : techKind (some prevTech) = techKind (some prevTech'))
    (ht : techKind (some tech) = techKind (some tech')) :
    setHandoffType prevNrStatus prevMCid prevTech nrStatus mCid tech =
      setHandoffType prevNrStatus prevMCid prevTech' nrStatus mCid tech' := by
  simp only [techKind, Option.map_some, Option.some.injEq, decide_eq_decide] at hp ht
  unfold setHandoffType
  simp only [hp, ht]

theorem rel_of_techKind (t t' : Option String) (h : techKind t = techKind t') :
    Option.Rel (fun x y => techKind (some x) = techKind (some y)) t t' := by
  cases t <;> cases t'
  · exact Option.Rel.none
  · cases h
  · cases h
  · exact Option.Rel.some h

/-- Reading the state first: both bodies continue with what they read. -/
theorem inStep_get {W : β → β → Prop} {f g : World → Java World β}
    (h : ∀ w v, Alike asked w v → InStep asked (f w) (g v) W) :
    InStep asked (Java.get >>= f) (Java.get >>= g) W := by
  refine Java.coupled_bind (Q := fun a b w v => (a = w ∧ b = v) ∧ Alike asked w v)
    (Java.coupled_get fun w v h => ⟨⟨rfl, rfl⟩, h⟩) fun a b => ?_
  rintro w v ⟨⟨rfl, rfl⟩, hw⟩
  exact h a b hw a b hw

theorem inStep_classifyHandoff (r r' : Report) (hr : ReportAlike r r') :
    InStep True (classifyHandoff r) (classifyHandoff r') ReportAlike := by
  refine inStep_get fun w v h => ?_
  refine inStep_bind (inStep_nonNull _ _ (rel_of_techKind _ _ h.prevTech)) fun p p' hp => ?_
  refine inStep_bind (inStep_nonNull _ _ (rel_of_techKind _ _ (h.tech trivial))) fun t t' ht => ?_
  refine inStep_pure _ _ { hr with handoff := ?_ }
  simp only [h.prevNrStatus, h.prevMCid, hr.nrStatus, hr.mCid]
  exact setHandoffType_kind _ _ _ _ _ _ _ _ hp ht

theorem inStep_setFromHistory (r r' : Report) (hr : ReportAlike r r') :
    InStep True (setFromHistory A r) (setFromHistory A r') ReportAlike := by
  have hhead {l l' : List ℤ} (h : l ≠ [] ∧ l' ≠ []) :
      Option.Rel (fun _ _ => True) l.head? l'.head? := by
    cases l <;> cases l'
    · exact Option.Rel.none
    · exact absurd rfl h.1
    · exact absurd rfl h.2
    · exact Option.Rel.some trivial
  refine inStep_get fun w v h => ?_
  refine inStep_bind (inStep_nonNull _ _ (hhead h.rx)) fun rx rx' _ => ?_
  refine inStep_bind (inStep_nonNull _ _ (hhead h.tx)) fun tx tx' _ => ?_
  exact inStep_pure _ _ { hr with }

theorem circularAdd_ne_nil {γ : Type} (n : ℕ) (q : List γ) (x : γ) (hn : 0 < n) :
    circularAdd n q x ≠ [] := by
  unfold circularAdd
  intro h
  have hlen := congrArg List.length h
  simp only [List.length_drop, List.length_append, List.length_cons, List.length_nil] at hlen
  omega

theorem coupled_recordHistory (r r' : Report) (hr : ReportAlike r r') :
    Java.Coupled (Alike True) (recordHistory A r) (recordHistory A r')
      (fun _ _ => Alike True) (Alike False) := by
  refine inStep_then (inStep_nonNull _ _ (rel_eq _ _ hr.locationData)) fun l l' _ => ?_
  refine inStep_then (inStep_modify _ _ fun w v h => ?_) fun _ _ _ => ?_
  · exact { h with prevNrStatus := hr.nrStatus, prevMCid := hr.mCid }
  refine Java.coupled_bind coupled_getAccessNetworkTech fun t t' => ?_
  refine Java.coupled_modify _ _ ?_
  rintro w v ⟨ht, h⟩
  have hsize : 0 < speedCalculationWindowSize := by decide
  exact { h with
    prevTech := ht
    rx := ⟨circularAdd_ne_nil _ _ _ hsize, circularAdd_ne_nil _ _ _ hsize⟩
    tx := ⟨circularAdd_ne_nil _ _ _ hsize, circularAdd_ne_nil _ _ _ hsize⟩ }

theorem inStep_networkInfoToReport : InStep False (networkInfoToReport A) (networkInfoToReport A)
    (Option.Rel ReportAlike) := by
  refine Java.coupled_attempt (E := Alike False) ?_ fun _ _ =>
    Java.coupled_pure none none fun _ _ h => ⟨Option.Rel.none, h⟩
  refine Java.coupled_bind (Q := fun r r' w v => ReportAlike r r' ∧ Alike True w v) ?_ fun r r' =>
    ?_
  · refine Java.coupled_bind coupled_gatherSample fun r r' => ?_
    rintro w v ⟨hr, h⟩
    exact inStep_bind (inStep_classifyHandoff r r' hr)
      (fun r r' hr => inStep_setFromHistory r r' hr) w v h
  · rintro w v ⟨hr, h⟩
    refine Java.coupled_bind (coupled_recordHistory r r' hr) (fun _ _ => ?_) w v h
    exact Java.coupled_pure _ _ fun _ _ h => ⟨Option.Rel.some hr, h.forget⟩

/-! The rest of a round. -/

theorem inStep_recordActivities (l : List DetectedActivity) (a a' : Vector (Option String) 10) :
    InStep asked (recordActivities l a) (recordActivities l a') fun _ _ => True := by
  induction l generalizing a a' with
  | nil => exact inStep_pure _ _ trivial
  | cons d rest ih =>
    unfold recordActivities
    split_ifs
    · exact ih _ _
    · exact Java.coupled_throw _ _ fun _ _ h => h.forget

theorem inStep_setActivities (r r' : Report) (hr : ReportAlike r r') (l : List DetectedActivity) :
    InStep asked (setActivities r l) (setActivities r' l) ReportAlike := by
  refine inStep_bind (inStep_recordActivities l _ _) fun _ _ _ => ?_
  cases l with
  | nil => exact Java.coupled_throw _ _ fun _ _ h => h.forget
  | cons first rest => exact inStep_pure _ _ { hr with }

theorem inStep_attachActivities (report report' : Option Report)
    (h : Option.Rel ReportAlike report report') (acts : Option (List DetectedActivity)) :
    InStep asked (attachActivities report acts) (attachActivities report' acts)
      (Option.Rel ReportAlike) := by
  cases acts with
  | none => exact inStep_pure _ _ h
  | some l =>
    refine inStep_bind (inStep_nonNull _ _ h) fun r r' hr => ?_
    exact inStep_bind (inStep_setActivities r r' hr l) fun _ _ hr =>
      inStep_pure _ _ (Option.Rel.some hr)

theorem inStep_updateSession (f g : SessionSummary → SessionSummary)
    (h : ∀ s s', SessionAlike s s' → SessionAlike (f s) (g s')) :
    InStep asked (updateSession f) (updateSession g) fun _ _ => True := by
  refine inStep_modify _ _ fun w v hw => { hw with session := ?_ }
  have hs := hw.session
  generalize w.curSession = c at hs
  generalize v.curSession = c' at hs
  cases hs with
  | none => exact Option.Rel.none
  | some hs => exact Option.Rel.some (h _ _ hs)

theorem handoffView_countHandoffs (s s' : SessionSummary) (r r' : Report)
    (hs : handoffView s = handoffView s') (hr : ReportAlike r r') :
    handoffView (countHandoffs s r) = handoffView (countHandoffs s' r') := by
  injection hs with h₁ h₂ h₃ h₄ h₅ h₆
  simp only [handoffView, countHandoffs, h₁, h₃, h₄, h₅, h₆, hr.mCid, hr.handoff]

theorem sessionAlike_countReport (sessionId sessionId' : String) (rate rate' : ℤ) (r r' : Report)
    (s s' : SessionSummary) (hs : SessionAlike s s') (hr : ReportAlike r r') :
    SessionAlike (countReport A sessionId rate r s) (countReport A sessionId' rate' r' s') := by
  have hview : handoffView (countReport A sessionId rate r s) =
      handoffView (countReport A sessionId' rate' r' s') := by
    simp only [countReport, handoffView_countTimeIn5G, handoffView_startSession]
    exact handoffView_countHandoffs s s' r r' hs.view hr
  obtain ⟨h₁, h₂, h₃, h₄⟩ := countReport_fields A sessionId rate r s
  obtain ⟨k₁, k₂, k₃, k₄⟩ := countReport_fields A sessionId' rate' r' s'
  refine ⟨h₁.trans k₁.symm, ?_, ?_, ?_, hview⟩
  · rw [h₂, k₂, hs.sessionStarted, hs.startTime, hr.timeStamp]
  · rw [h₃, k₃, hs.sessionStarted, hs.prevLocation, hr.locationData]
  · rw [h₄, k₄, hr.nrStatus]

theorem inStep_processNetworkReport (sessionId sessionId' : String) (r r' : Report)
    (hr : ReportAlike r r') :
    InStep False (processNetworkReport A sessionId r) (processNetworkReport A sessionId' r')
      fun _ _ => True := by
  refine inStep_get fun w v h => ?_
  refine inStep_bind (inStep_nonNull _ _ h.session) fun s s' hs => ?_
  have hc := sessionAlike_countReport (A := A) sessionId sessionId' w.samplingRateInMs
    v.samplingRateInMs r r' s s' hs hr
  refine inStep_bind (inStep_modify _ _ fun _ _ h => { h with session := Option.Rel.some hc })
    fun _ _ _ => ?_
  refine inStep_bind (V := fun _ _ => True) ?_ fun _ _ _ => ?_
  · refine inStep_bind (inStep_updateSession _ _ fun _ _ h => { h with }) fun _ _ _ => ?_
    refine inStep_bind (inStep_nonNull _ _ (rel_eq _ _ hc.prevLocation)) fun l l' hl => ?_
    refine inStep_bind (inStep_nonNull _ _ (rel_eq _ _ hr.locationData)) fun m m' hm => ?_
    exact inStep_updateSession _ _ fun _ _ h => { h with prevLocation := congrArg some hm }
  refine inStep_bind inStep_getIs5GNSA fun _ _ _ => ?_
  refine inStep_bind (inStep_updateSession _ _ fun _ _ h => { h with }) fun _ _ _ => ?_
  refine inStep_bind inStep_getIs5GSA fun _ _ _ => ?_
  refine inStep_bind (inStep_updateSession _ _ fun _ _ h => { h with }) fun _ _ _ => ?_
  refine inStep_bind (V := ServiceAlike) (Java.coupled_weaken coupled_getAccessNetworkTech
    (fun _ _ h => h) fun _ _ _ _ h => ⟨h.1, h.2.forget⟩) fun _ _ _ => ?_
  refine inStep_bind (inStep_updateSession _ _ fun _ _ h => { h with }) fun _ _ _ => ?_
  refine inStep_bind inStep_getNetworkType fun _ _ _ => ?_
  exact inStep_updateSession _ _ fun _ _ h => { h with }

theorem inStep_broadcast :
    InStep False (broadcastNetworkReportIntent A) (broadcastNetworkReportIntent A)
    fun _ _ => True := by
  refine inStep_get fun w v h => ?_
  refine inStep_bind (inStep_nonNull _ _ h.session) fun s s' hs => ?_
  refine inStep_bind (inStep_nonNull _ _ (rel_eq _ _ hs.currentNrStatus)) fun _ _ _ => ?_
  refine inStep_bind (inStep_nonNull _ _ (rel_eq _ _ hs.startTime)) fun _ _ _ => ?_
  exact Java.coupled_weaken (inStep_query _) (fun _ _ h => h) fun _ _ _ _ h => ⟨trivial, h.2⟩

theorem inStep_publish (report report' : Option Report)
    (h : Option.Rel ReportAlike report report') :
    InStep False (publish A report) (publish A report') fun _ _ => True := by
  cases h with
  | none => exact inStep_pure _ _ trivial
  | some hr =>
    refine inStep_get fun w v _ => ?_
    exact inStep_bind (inStep_processNetworkReport _ _ _ _ hr) fun _ _ _ => inStep_broadcast

/-- The sampling rate may differ, but neither service can be asked to sleep for less than no
time. -/
theorem inStep_sleepUntilNext (startTime startTime' : ℤ) :
    InStep False (sleepUntilNext A startTime) (sleepUntilNext A startTime') fun _ _ => True := by
  have hsleep (x y : ℤ) (hx : 0 ≤ x) (hy : 0 ≤ y) :
      InStep False (sleep x) (sleep y) fun _ _ => True := by
    unfold sleep
    rw [if_neg (not_lt.mpr hx), if_neg (not_lt.mpr hy)]
    exact inStep_pure _ _ trivial
  refine inStep_bind (inStep_observe _) fun t t' _ => ?_
  refine inStep_get fun w v h => ?_
  obtain ⟨h₁, h₂⟩ := h.rate
  refine hsleep _ _ ?_ ?_
  · split_ifs <;> omega
  · split_ifs <;> omega

theorem inStep_iteration (acts : Option (List DetectedActivity)) :
    InStep False (iteration A acts) (iteration A acts) (Option.Rel ReportAlike) := by
  refine inStep_bind (inStep_observe _) fun t t' _ => ?_
  refine inStep_bind inStep_networkInfoToReport fun report report' h => ?_
  refine inStep_bind (inStep_attachActivities report report' h acts) fun report report' h => ?_
  refine inStep_bind (inStep_publish report report' h) fun _ _ _ => ?_
  exact inStep_bind (inStep_sleepUntilNext t t') fun _ _ _ => inStep_pure _ _ h

theorem inStep_seedWindows (n : ℕ) : InStep False (seedWindows A n) (seedWindows A n) fun _ _ =>
    True := by
  have hsize : 0 < speedCalculationWindowSize := by decide
  induction n with
  | zero => exact inStep_pure _ _ trivial
  | succ n ih =>
    refine inStep_bind (inStep_observe _) fun _ _ _ => ?_
    refine inStep_bind (inStep_modify _ _ fun w v h => ?_) fun _ _ _ => ih
    exact { h with
      rx := ⟨circularAdd_ne_nil _ _ _ hsize, circularAdd_ne_nil _ _ _ hsize⟩
      tx := ⟨circularAdd_ne_nil _ _ _ hsize, circularAdd_ne_nil _ _ _ hsize⟩ }

theorem inStep_seedTracing : InStep False (seedTracing A) (seedTracing A) fun _ _ => True := by
  refine inStep_bind (inStep_observe _) ?_
  rintro now _ rfl
  refine inStep_bind (inStep_modify _ _ fun w v h => ?_) fun _ _ _ => ?_
  · exact { h with session := Option.Rel.some ⟨rfl, rfl, rfl, rfl, rfl⟩ }
  refine inStep_bind (inStep_observe _) ?_
  rintro lastLoc _ rfl
  refine inStep_bind (inStep_nonNull _ _ (rel_eq _ _ rfl)) fun _ _ _ => ?_
  refine inStep_bind (inStep_modify _ _ fun w v h => ?_) fun _ _ _ => inStep_seedWindows _
  exact { h with }

end InStep

/-! Rows: the handler asks the device the same questions in both services. -/

def RowAlike (row row' : Row) : Prop := Alike False row.world row'.world

def RowInStep {α : Type} (x y : Java Row α) (V : α → α → Prop) : Prop :=
  Java.Coupled RowAlike x y (fun a b row row' => V a b ∧ RowAlike row row') RowAlike

section RowInStep

variable {A : Android} {α β : Type}

theorem rowInStep_pure {V : α → α → Prop} (a b : α) (h : V a b) : RowInStep (pure a) (pure b) V :=
  Java.coupled_pure a b fun _ _ hw => ⟨h, hw⟩

theorem rowInStep_bind {V : α → α → Prop} {W : β → β → Prop} {x y : Java Row α}
    {f g : α → Java Row β} (hx : RowInStep x y V) (hf : ∀ a b, V a b → RowInStep (f a) (g b) W) :
    RowInStep (x >>= f) (y >>= g) W :=
  Java.coupled_bind hx fun a b s t h => hf a b h.1 s t h.2

theorem rowInStep_call {V : α → α → Prop} {x y : Java World α} (h : InStep False x y V) :
    RowInStep (Row.call x) (Row.call y) V := by
  intro row row' hr
  have hc := h row.world row'.world hr
  have hrun (x : Java World α) (row : Row) :
      (Row.call x).run row = ((x.run row.world).1, { row with world := (x.run row.world).2 }) := rfl
  rw [hrun x row, hrun y row']
  generalize x.run row.world = o at hc
  generalize y.run row'.world = p at hc
  rcases o with ⟨e | a, w⟩ <;> rcases p with ⟨e' | b, v⟩ <;> exact hc

theorem rowInStep_add (s s' : Option String) : RowInStep (Row.add s) (Row.add s') fun _ _ => True :=
  Java.coupled_modify _ _ fun _ _ h => ⟨trivial, h⟩

theorem rowInStep_nonNull (a : Option α) : RowInStep (Java.nonNull a) (Java.nonNull a) Eq := by
  cases a with
  | none => exact Java.coupled_throw _ _ fun _ _ h => h
  | some a => exact rowInStep_pure a a rfl

theorem rowInStep_addAll (l : List (Option String)) :
    RowInStep (Row.addAll l) (Row.addAll l) fun _ _ => True := by
  induction l with
  | nil => exact rowInStep_pure _ _ trivial
  | cons s rest ih => exact rowInStep_bind (rowInStep_add s s) fun _ _ _ => ih

theorem rowInStep_addSignal (r : Report) :
    RowInStep (addSignal A r) (addSignal A r) fun _ _ => True := by
  refine rowInStep_bind (rowInStep_call (inStep_query _)) ?_
  rintro activeNetwork _ rfl
  refine rowInStep_bind (rowInStep_nonNull activeNetwork) fun _ _ _ => ?_
  refine rowInStep_bind (rowInStep_add _ _) fun _ _ _ => ?_
  refine rowInStep_bind (rowInStep_call inStep_getNetworkService) fun _ _ _ => ?_
  refine rowInStep_bind (rowInStep_add _ _) fun _ _ _ => ?_
  refine rowInStep_bind (rowInStep_call inStep_getNetworkType) fun _ _ _ => ?_
  refine rowInStep_bind (rowInStep_add _ _) fun _ _ _ => ?_
  refine rowInStep_bind (rowInStep_call (inStep_observe _)) fun _ _ _ => ?_
  refine rowInStep_bind (rowInStep_add _ _) fun _ _ _ => ?_
  refine rowInStep_bind (rowInStep_nonNull _) fun _ _ _ => ?_
  refine rowInStep_bind (rowInStep_add _ _) fun _ _ _ => ?_
  refine rowInStep_bind (rowInStep_add _ _) fun _ _ _ => ?_
  refine rowInStep_bind (rowInStep_nonNull _) fun _ _ _ => ?_
  refine rowInStep_bind (rowInStep_add _ _) fun _ _ _ => ?_
  refine rowInStep_bind (V := fun _ _ => True)
    (Java.coupled_get fun _ _ h => ⟨trivial, h⟩) fun _ _ _ => ?_
  exact rowInStep_add _ _

theorem rowInStep_showNetworks (nets : List String) :
    RowInStep (showNetworks A nets) (showNetworks A nets) fun _ _ => True := by
  induction nets with
  | nil => exact rowInStep_pure _ _ trivial
  | cons net rest ih =>
    refine rowInStep_bind (V := fun _ _ => True) ?_ fun _ _ _ =>
      rowInStep_bind ih fun _ _ _ => rowInStep_pure _ _ trivial
    refine rowInStep_bind (rowInStep_call (inStep_query _)) fun _ _ _ => ?_
    exact rowInStep_bind (rowInStep_call inStep_getNetworkType) fun _ _ _ =>
      rowInStep_pure _ _ trivial

theorem rowInStep_addCells (r : Report) (s s' : String) :
    RowInStep (addCells r s) (addCells r s') fun _ _ => True := by
  refine rowInStep_bind (rowInStep_addAll _) fun _ _ _ => ?_
  refine rowInStep_bind (rowInStep_nonNull _) fun _ _ _ => ?_
  refine rowInStep_bind (rowInStep_add _ _) fun _ _ _ => ?_
  refine rowInStep_bind (rowInStep_nonNull _) fun _ _ _ => ?_
  refine rowInStep_bind (rowInStep_add _ _) fun _ _ _ => ?_
  refine rowInStep_bind (rowInStep_add _ _) fun _ _ _ => ?_
  refine rowInStep_bind (rowInStep_nonNull _) fun _ _ _ => ?_
  refine rowInStep_bind (rowInStep_add _ _) fun _ _ _ => ?_
  refine rowInStep_bind (rowInStep_nonNull _) ?_
  rintro networkCapabilities _ rfl
  refine rowInStep_bind (rowInStep_addAll _) fun _ _ _ => ?_
  refine rowInStep_bind (rowInStep_nonNull _) fun _ _ _ => ?_
  refine rowInStep_bind (rowInStep_add _ _) fun _ _ _ => ?_
  refine rowInStep_bind (rowInStep_add _ _) fun _ _ _ => ?_
  exact rowInStep_add _ _

theorem inStep_rowValues (r : Report) : InStep False (rowValues A r) (rowValues A r) fun _ _ =>
    True := by
  have hbody : RowInStep (toStringBody A r) (toStringBody A r) fun _ _ => True := by
    refine rowInStep_bind (rowInStep_addAll _) fun _ _ _ => ?_
    refine rowInStep_bind (rowInStep_addAll _) fun _ _ _ => ?_
    refine rowInStep_bind (rowInStep_addAll _) fun _ _ _ => ?_
    refine rowInStep_bind (rowInStep_addSignal r) fun _ _ _ => ?_
    refine rowInStep_bind (rowInStep_nonNull _) ?_
    rintro allNets _ rfl
    exact rowInStep_bind (rowInStep_showNetworks allNets) fun s s' _ => rowInStep_addCells r s s'
  intro w v h
  have hb := hbody { world := w } { world := v } h
  have hrun (w : World) : (rowValues A r).run w =
      (.ok ((toStringBody A r).run { world := w }).2.values,
      ((toStringBody A r).run { world := w }).2.world) := rfl
  rw [hrun w, hrun v]
  generalize (toStringBody A r).run { world := w } = o at hb
  generalize (toStringBody A r).run { world := v } = p at hb
  rcases o with ⟨e | a, row⟩ <;> rcases p with ⟨e' | b, row'⟩
  · exact ⟨trivial, hb⟩
  · exact hb.elim
  · exact hb.elim
  · exact ⟨trivial, hb.2⟩

end RowInStep

/-- Every operation of the service keeps the two worlds in step. -/
theorem inStep_exec (A : Android) (op : Op) :
    InStep False (op.exec A) (op.exec A) fun _ _ => True := by
  cases op with
  | device => exact inStep_newDevice
  | start => exact inStep_seedTracing
  | iterate acts => exact inStep_bind (inStep_iteration acts) fun _ _ _ => inStep_pure _ _ trivial
  | row r => exact inStep_bind (inStep_rowValues r) fun _ _ _ => inStep_pure _ _ trivial
  | connectType => exact inStep_bind inStep_getConnectType fun _ _ _ => inStep_pure _ _ trivial
  | setRate millis =>
    exact inStep_modify _ _ fun w v h =>
      { h with rate := ⟨Int.natCast_nonneg _, Int.natCast_nonneg _⟩ }

end MmWaveTracker
