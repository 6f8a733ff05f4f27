import MmWaveTracker.Sampler

/-! The technology of a sample, by what the platform answers. A sample asks for it twice:
in `setContext`, for the classification, and again for its history. -/
namespace MmWaveTracker

/-- The technology that a connection type and a data network type stand for. A cellular
network of any other type than NR and LTE stands for none. -/
def namedTechnology (connect_type : Option String) (dataNetworkType : ℤ) : Option String :=
  if connect_type = some networkTypeMobile then
    if dataNetworkType = telephonyNetworkTypeNr then some networkType5GSA
    else if dataNetworkType = telephonyNetworkTypeLte then some networkTypeLte
    else none
  else if connect_type = some networkTypeWifi then some networkTypeWifi
  else some networkTypeUnknown

/-- The connection type that a query made in `w` finds. -/
def connectTypeAt (A : Android) (w : World) : Option String :=
  connectTypeAfter (A.moment w.tick).capabilities w.connect_type

/-- The technology that a query made in `w` reads from the platform. -/
def technologyReading (A : Android) (w : World) : Option String :=
  namedTechnology (connectTypeAt A w) (A.moment (w.tick+2)).dataNetworkType

/-- The platform answers a query for the technology made in `w`. -/
structure AnswersTechnology (A : Android) (w : World) : Prop where
  capabilities : (A.moment w.tick).throws = false
  permission : (A.moment (w.tick+1)).throws = false
  dataNetworkType : connectTypeAt A w = some networkTypeMobile →
    (A.moment (w.tick+2)).throws = false

section Query

variable {A : Android} {α : Type}

theorem query_eq_ok (answer : Moment → α) (w w' : World) (a : α)
    (h : (query A answer).run w = (.ok a, w')) :
    (A.moment w.tick).throws = false ∧ a = answer (A.moment w.tick) ∧
      w' = { w with tick := w.tick+1 } := by
  unfold query at h
  cases ht : (A.moment w.tick).throws with
  | true =>
    simp only [ht, if_true] at h
    cases h
  | false =>
    simp only [ht] at h
    cases h
    exact ⟨rfl, rfl, rfl⟩

theorem query_run (answer : Moment → α) (w : World) (h : (A.moment w.tick).throws = false) :
    (query A answer).run w = (.ok (answer (A.moment w.tick)), { w with tick := w.tick+1 }) := by
  simp only [query, h, Bool.false_eq_true, if_false]

theorem checkedConnectType_eq_ok (w w' : World) (c : String)
    (h : (checkedConnectType A).run w = (.ok c, w')) :
    (A.moment w.tick).throws = false ∧ (A.moment (w.tick+1)).throws = false ∧
      connectTypeAt A w = some c ∧ w' = { w with tick := w.tick+2, connect_type := some c } := by
  obtain ⟨c₀, w₁, hg, h⟩ := Java.bind_eq_ok _ _ _ _ _ h
  obtain ⟨u, w₂, hp, hn⟩ := Java.bind_eq_ok _ _ _ _ _ h
  obtain ⟨caps, w₃, hq, hg⟩ := Java.bind_eq_ok _ _ _ _ _ hg
  obtain ⟨ht, rfl, rfl⟩ := query_eq_ok _ _ _ _ hq
  cases hg
  obtain ⟨ht', -, rfl⟩ := query_eq_ok _ _ _ _ hp
  obtain ⟨hc, rfl⟩ := Java.nonNull_eq_ok _ _ _ _ hn
  refine ⟨ht, ht', hc, ?_⟩
  rw [← hc]

theorem checkedConnectType_run (w : World) (c : String) (ht : (A.moment w.tick).throws = false)
    (ht' : (A.moment (w.tick+1)).throws = false) (hc : connectTypeAt A w = some c) :
    (checkedConnectType A).run w = (.ok c, { w with tick := w.tick+2, connect_type := some c }) :=
      by
  have hg : (getConnectType A).run w =
      (.ok (some c), { w with tick := w.tick+1, connect_type := some c }) := by
    unfold getConnectType
    rw [Java.bind_ok _ _ _ _ _ (query_run _ w ht), ← hc]
    rfl
  unfold checkedConnectType
  rw [Java.bind_ok _ _ _ _ _ hg, Java.bind_ok _ _ _ _ _ (query_run _ _ ht')]
  rfl

/-- The switch assigns the technology that was read, and nothing if that is none. -/
theorem networkServiceAfter_eq (dataNetworkType : ℤ) (network_service : Option String) :
    networkServiceAfter dataNetworkType network_service =
      (namedTechnology (some networkTypeMobile) dataNetworkType).or network_service := by
  unfold networkServiceAfter namedTechnology
  rw [if_pos rfl]
  split_ifs <;> rfl

theorem networkServiceOf_eq_ok (c : String) (w w' : World) (s : Option String)
    (h : (networkServiceOf A c).run w = (.ok s, w')) :
    (c = networkTypeMobile → (A.moment w.tick).throws = false) ∧
    s = (namedTechnology (some c) (A.moment w.tick).dataNetworkType).or w.network_service ∧
    w'.network_service = s := by
  unfold networkServiceOf at h
  split_ifs at h with hm hwifi
  · obtain ⟨t, w₁, hq, h⟩ := Java.bind_eq_ok _ _ _ _ _ h
    obtain ⟨ht, rfl, rfl⟩ := query_eq_ok _ _ _ _ hq
    cases h
    refine ⟨fun _ => ht, ?_, rfl⟩
    rw [hm]
    exact networkServiceAfter_eq _ _
  · cases h
    refine ⟨fun hc => absurd hc hm, ?_, rfl⟩
    rw [namedTechnology, if_neg (hm ∘ Option.some.inj), if_pos (congrArg some hwifi)]
    rfl
  · cases h
    refine ⟨fun hc => absurd hc hm, ?_, rfl⟩
    rw [namedTechnology, if_neg (hm ∘ Option.some.inj), if_neg (hwifi ∘ Option.some.inj)]
    rfl

theorem getNetworkService_eq_ok (w w' : World) (s : Option String)
    (h : (getNetworkService A).run w = (.ok s, w')) :
    AnswersTechnology A w ∧ s = (technologyReading A w).or w.network_service ∧
      w'.network_service = s := by
  obtain ⟨c, w₁, hc, hs⟩ := Java.bind_eq_ok _ _ _ _ _ h
  obtain ⟨ht, ht', hcat, rfl⟩ := checkedConnectType_eq_ok _ _ _ hc
  obtain ⟨hthrows, hs, hw'⟩ := networkServiceOf_eq_ok c _ w' s hs
  refine ⟨⟨ht, ht', ?_⟩, ?_, hw'⟩
  · intro hm
    rw [hcat] at hm
    exact hthrows (Option.some.inj hm)
  · rw [hs, technologyReading, hcat]

theorem getNetworkService_isSome (w w' : World) (s : Option String)
    (h : (getNetworkService A).run w = (.ok s, w')) : w'.connect_type.isSome := by
  obtain ⟨c, w₁, hc, hs⟩ := Java.bind_eq_ok _ _ _ _ _ h
  obtain ⟨-, -, -, rfl⟩ := checkedConnectType_eq_ok _ _ _ hc
  have hstep := (deviceCall_networkServiceOf (A := A) c).within
    { w with tick := w.tick+2, connect_type := some c }
  rw [hs] at hstep
  exact hstep.connect_type_isSome rfl

/-- With a connection type at hand, a query that the platform answers succeeds. -/
theorem getNetworkService_succeeds (w : World) (hc : w.connect_type.isSome)
    (h : AnswersTechnology A w) : ∃ s w', (getNetworkService A).run w = (.ok s, w') := by
  obtain ⟨c, hcat⟩ := Option.isSome_iff_exists.mp
    (connectTypeAfter_isSome (A.moment w.tick).capabilities w.connect_type hc)
  unfold getNetworkService
  rw [Java.bind_ok _ _ _ _ _ (checkedConnectType_run w c h.capabilities h.permission hcat)]
  unfold networkServiceOf
  split_ifs with hm hwifi
  · have ht := h.dataNetworkType (hm ▸ hcat)
    rw [Java.bind_ok _ _ _ _ _ (query_run _ _ ht)]
    exact ⟨_, _, rfl⟩
  · exact ⟨_, _, rfl⟩
  · exact ⟨_, _, rfl⟩

end Query

section Statics

variable {A : Android} {α : Type}

/-- The service of `Device` and the technology of `Report`. -/
def techStatics (w : World) : Option String × Option String :=
  (w.network_service, w.accessNetworkTech)

theorem leaves_techStatics_query (answer : Moment → α) : Java.Leaves techStatics (query A answer) :=
  fun _ => rfl

theorem leaves_techStatics_observe (answer : Moment → α) :
    Java.Leaves techStatics (observe A answer) :=
  fun _ => rfl

theorem leaves_techStatics_checkedConnectType : Java.Leaves techStatics (checkedConnectType A) := by
  refine Java.within_bind ?_ fun _ => ?_
  · refine Java.within_bind (leaves_techStatics_query _) fun _ => ?_
    refine Java.within_bind (Java.within_modify _ fun _ => rfl) fun _ => ?_
    exact Java.within_bind Java.within_get fun _ => Java.within_pure _
  · exact Java.within_bind (leaves_techStatics_query _) fun _ => Java.within_nonNull _

theorem leaves_techStatics_getNetworkType : Java.Leaves techStatics (getNetworkType A) := by
  have hassign (s : String) : Java.Leaves techStatics (assignNetworkType s) :=
    Java.within_bind (Java.within_modify _ fun _ => rfl) fun _ => Java.within_pure _
  refine Java.within_bind leaves_techStatics_checkedConnectType fun c => ?_
  split_ifs
  · refine Java.within_bind (leaves_techStatics_query _) fun t => ?_
    split_ifs
    · exact hassign _
    · exact Java.within_bind (leaves_techStatics_observe _) fun _ => hassign _
    · exact hassign _
  · exact hassign _
  · exact hassign _

theorem leaves_techStatics_readTrafficStats : Java.Leaves techStatics (readTrafficStats A) := by
  refine Java.within_bind (leaves_techStatics_query _) fun _ => ?_
  refine Java.within_bind (leaves_techStatics_query _) fun _ => ?_
  refine Java.within_bind (leaves_techStatics_query _) fun _ => ?_
  refine Java.within_bind (leaves_techStatics_query _) fun _ => ?_
  refine Java.within_bind (leaves_techStatics_query _) fun _ => ?_
  refine Java.within_bind (leaves_techStatics_query _) fun _ => ?_
  refine Java.within_bind (leaves_techStatics_query _) fun _ => ?_
  exact Java.within_bind (leaves_techStatics_query _) fun _ => Java.within_pure _

theorem leaves_techStatics_getIs5GNSA : Java.Leaves techStatics (getIs5GNSA A) := by
  refine Java.within_bind leaves_techStatics_getNetworkType fun _ => ?_
  split_ifs
  · exact Java.within_pure _
  refine Java.within_bind leaves_techStatics_getNetworkType fun _ => ?_
  split_ifs
  · exact Java.within_pure _
  · exact Java.within_bind leaves_techStatics_getNetworkType fun _ => Java.within_pure _

end Statics

/-- The calls that a sample makes before it asks for the technology. -/
def beforeTechnology (A : Android) : Java World Unit := do
  let _ ← observe A Moment.now
  let _ ← query A Moment.cellInfo
  let _ ← query A Moment.serviceState
  let _ ← query A Moment.signalStrength
  let _ ← query A Moment.capabilities
  let _ ← getIs5GNSA A
  let _ ← getIs5GNSA A

theorem leaves_techStatics_beforeTechnology (A : Android) :
    Java.Leaves techStatics (beforeTechnology A) := by
  refine Java.within_bind (leaves_techStatics_observe _) fun _ => ?_
  refine Java.within_bind (leaves_techStatics_query _) fun _ => ?_
  refine Java.within_bind (leaves_techStatics_query _) fun _ => ?_
  refine Java.within_bind (leaves_techStatics_query _) fun _ => ?_
  refine Java.within_bind (leaves_techStatics_query _) fun _ => ?_
  refine Java.within_bind leaves_techStatics_getIs5GNSA fun _ => ?_
  exact Java.within_bind leaves_techStatics_getIs5GNSA fun _ => Java.within_pure _

/-- The stages of a gathered sample: the calls before the query for the technology, the
query, and calls after it that leave the answer alone. -/
theorem gatherSample_stages (A : Android) (w w₀ : World) (r : Report)
    (h : (gatherSample A).run w = (.ok r, w₀)) : ∃ w₁ w₂ tech,
    (beforeTechnology A).run w = (.ok (), w₁) ∧ (getAccessNetworkTech A).run w₁ = (.ok tech, w₂) ∧
    techStatics w₀ = techStatics w₂ ∧ DeviceStep w₂ w₀ ∧
    r.mCid = setMCid A.sdkInt ((A.moment (w.tick+1)).cellInfo.getD []) "" := by
  obtain ⟨now, v₁, h₁, h⟩ := Java.bind_eq_ok _ _ _ _ _ h
  obtain ⟨r₁, v, hctx, h⟩ := Java.bind_eq_ok _ _ _ _ _ h
  obtain ⟨cells, v₂, h₂, hctx⟩ := Java.bind_eq_ok _ _ _ _ _ hctx
  obtain ⟨service, v₃, h₃, hctx⟩ := Java.bind_eq_ok _ _ _ _ _ hctx
  obtain ⟨signal, v₄, h₄, hctx⟩ := Java.bind_eq_ok _ _ _ _ _ hctx
  obtain ⟨capabilities, v₅, h₅, hctx⟩ := Java.bind_eq_ok _ _ _ _ _ hctx
  obtain ⟨nsa, v₆, h₆, hctx⟩ := Java.bind_eq_ok _ _ _ _ _ hctx
  obtain ⟨nsa', w₁, h₇, hctx⟩ := Java.bind_eq_ok _ _ _ _ _ hctx
  obtain ⟨tech, w₂, htech, hctx⟩ := Java.bind_eq_ok _ _ _ _ _ hctx
  obtain ⟨networkType, v₈, h₈, hctx⟩ := Java.bind_eq_ok _ _ _ _ _ hctx
  obtain ⟨cells', v₉, hcells, hctx⟩ := Java.bind_eq_ok _ _ _ _ _ hctx
  obtain ⟨rfl, rfl⟩ := Java.nonNull_eq_ok _ _ _ _ hcells
  cases hctx
  have hbefore : (beforeTechnology A).run w = (.ok (), w₁) := by
    unfold beforeTechnology
    rw [Java.bind_ok _ _ _ _ _ h₁, Java.bind_ok _ _ _ _ _ h₂, Java.bind_ok _ _ _ _ _ h₃,
      Java.bind_ok _ _ _ _ _ h₄, Java.bind_ok _ _ _ _ _ h₅, Java.bind_ok _ _ _ _ _ h₆,
      Java.bind_ok _ _ _ _ _ h₇]
    rfl
  obtain ⟨lastLoc, v₁₀, h₁₀, h⟩ := Java.bind_eq_ok _ _ _ _ _ h
  obtain ⟨traffic, v₁₁, h₁₁, h⟩ := Java.bind_eq_ok _ _ _ _ _ h
  cases h
  have hafter {R : World → World → Prop} [IsTrans World R]
      (htype : Java.Within R (getNetworkType A))
      (hloc : Java.Within R (observe A Moment.lastLoc))
        (htraffic : Java.Within R (readTrafficStats A)) :
      R w₂ w₀ := by
    have hs := htype w₂
    have hs' := hloc v
    have hs'' := htraffic v₁₀
    rw [h₈] at hs
    rw [h₁₀] at hs'
    rw [h₁₁] at hs''
    exact IsTrans.trans _ _ _ hs (IsTrans.trans _ _ _ hs' hs'')
  refine ⟨w₁, w₂, tech, hbefore, htech, ?_, ?_, ?_⟩
  · exact hafter leaves_techStatics_getNetworkType (leaves_techStatics_observe _)
      leaves_techStatics_readTrafficStats
  · exact hafter deviceCall_getNetworkType.within (deviceCall_observe (A := A) _).within
      deviceCall_readTrafficStats.within
  · cases h₁
    rw [(query_eq_ok _ _ _ _ h₂).2.1]

/-- What a sample from `w` has read by the time it is classified, in `w₀`. -/
structure Gathered (A : Android) (w w₀ : World) (r : Report) : Prop where
  technology : w₀.accessNetworkTech =
    (technologyReading A ((beforeTechnology A).run w).2).or w.network_service
  network_service : w₀.network_service = w₀.accessNetworkTech
  connected : w₀.connect_type.isSome
  mCid : r.mCid = setMCid A.sdkInt ((A.moment (w.tick+1)).cellInfo.getD []) ""

theorem gathered_of_run (A : Android) (w w₀ : World) (r : Report)
    (h : (gatherSample A).run w = (.ok r, w₀)) : Gathered A w w₀ r := by
  obtain ⟨w₁, w₂, tech, hbefore, htech, hstatics, hstep, hcell⟩ := gatherSample_stages A w w₀ r h
  obtain ⟨s, v, hs, hassign⟩ := Java.bind_eq_ok _ _ _ _ _ htech
  cases hassign
  obtain ⟨-, hread, hservice⟩ := getNetworkService_eq_ok w₁ v tech hs
  have hold : techStatics w₁ = techStatics w := by
    have hleaves := leaves_techStatics_beforeTechnology A w
    rw [hbefore] at hleaves
    exact hleaves
  have hnet : w₀.network_service = v.network_service := congrArg Prod.fst hstatics
  have hacc : w₀.accessNetworkTech = tech := congrArg Prod.snd hstatics
  refine ⟨?_, ?_, hstep.connect_type_isSome (getNetworkService_isSome w₁ v tech hs), hcell⟩
  · rw [hbefore, hacc, hread,
      show w₁.network_service = w.network_service from congrArg Prod.fst hold]
  · rw [hnet, hacc, hservice]

end MmWaveTracker
