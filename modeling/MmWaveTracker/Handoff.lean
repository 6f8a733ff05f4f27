import MmWaveTracker.Config

/-! The handoff classifier `Report.setHandoffType`, and the two-dimensional
classification (tower, technology) its counters are documented with. -/
namespace MmWaveTracker

structure Handoff where
  handoffType : ℤ := 0
  horizontalHandoff : ℤ := 0
  verticalHandoff : ℤ := 0
  deriving DecidableEq, Repr

/-- The branches of `setHandoffType`, with the fields of the report and the
static `accessNetworkTech` as arguments. -/
def setHandoffType (prevNrStatus prevMCid prevAccessNetworkTech : String)
    (nrStatus mCid accessNetworkTech : String) : Handoff :=
  let towerChanged : Bool := mCid ≠ prevMCid
  let nrStatusChanged : Bool := nrStatus ≠ prevNrStatus
  if prevAccessNetworkTech = networkType5GSA then
    if accessNetworkTech = networkType5GSA then
      if towerChanged then { handoffType := 15, horizontalHandoff := 1 } else {}
    else if towerChanged then { handoffType := 18, horizontalHandoff := 1, verticalHandoff := 1 }
    else { handoffType := 16, verticalHandoff := 1 }
  else if accessNetworkTech = networkType5GSA then
    if !towerChanged then { handoffType := 17, verticalHandoff := 1 }
    else if prevNrStatus = nrNotRestrictedKeyword then
      { handoffType := 19, verticalHandoff := 1, horizontalHandoff := 1 }
    -- a tower change on entering SA from any other status sets nothing
    else {}
  else if !towerChanged && nrStatusChanged then
    if prevNrStatus = nrConnectedKeyword ∧ nrStatus = nrNotRestrictedKeyword then
      { handoffType := 1, verticalHandoff := 1 }
    else if prevNrStatus = nrNotRestrictedKeyword ∧ nrStatus = nrConnectedKeyword then
      { handoffType := 2, verticalHandoff := 1 }
    else {}
  else if towerChanged && !nrStatusChanged then
    if nrStatus = nrNotRestrictedKeyword then { handoffType := 4, horizontalHandoff := 1 }
    else if nrStatus = nrcNoneKeyword then { handoffType := 9, horizontalHandoff := 1 }
    else {}
  else if towerChanged && nrStatusChanged then
    if prevNrStatus = nrConnectedKeyword ∧ nrStatus = nrNotRestrictedKeyword then
      { handoffType := 3, verticalHandoff := 1, horizontalHandoff := 1 }
    else if prevNrStatus = nrConnectedKeyword ∧ nrStatus = nrcNoneKeyword then
      { handoffType := 10, verticalHandoff := 1, horizontalHandoff := 1 }
    else if prevNrStatus = nrNotRestrictedKeyword ∧ nrStatus = nrConnectedKeyword then
      { handoffType := 13, verticalHandoff := 1, horizontalHandoff := 1 }
    else if prevNrStatus = nrNotRestrictedKeyword ∧ nrStatus = nrcNoneKeyword then
      { handoffType := 11, horizontalHandoff := 1 }
    else if prevNrStatus = nrcNoneKeyword ∧ nrStatus = nrNotRestrictedKeyword then
      { handoffType := 12, horizontalHandoff := 1 }
    else if prevNrStatus = nrcNoneKeyword ∧ nrStatus = nrConnectedKeyword then
      { handoffType := 14, verticalHandoff := 1, horizontalHandoff := 1 }
    else {}
  else {}

/-- The outcomes of the classifier: no handoff, or one of fifteen type codes
with its flags. -/
def handoffOutcomes : List Handoff :=
  [⟨0, 0, 0⟩, ⟨1, 0, 1⟩, ⟨2, 0, 1⟩, ⟨3, 1, 1⟩, ⟨4, 1, 0⟩, ⟨9, 1, 0⟩, ⟨10, 1, 1⟩, ⟨11, 1, 0⟩,
    ⟨12, 1, 0⟩, ⟨13, 1, 1⟩, ⟨14, 1, 1⟩, ⟨15, 1, 0⟩, ⟨16, 0, 1⟩, ⟨17, 0, 1⟩, ⟨18, 1, 1⟩, ⟨19, 1, 1⟩]

section Classifier

variable (prevNrStatus prevMCid prevAccessNetworkTech nrStatus mCid accessNetworkTech : String)

theorem setHandoffType_mem : setHandoffType prevNrStatus prevMCid prevAccessNetworkTech
    nrStatus mCid accessNetworkTech ∈ handoffOutcomes := by
  have hite (p : Prop) [Decidable p] (a b : Handoff) (ha : a ∈ handoffOutcomes)
      (hb : b ∈ handoffOutcomes) : (if p then a else b) ∈ handoffOutcomes := by
    split
    · exact ha
    · exact hb
  unfold setHandoffType
  repeat' apply hite
  all_goals decide

/-- A horizontal handoff is only reported when the serving cell changed. -/
theorem setHandoffType_horizontal (h : (setHandoffType prevNrStatus prevMCid prevAccessNetworkTech
      nrStatus mCid accessNetworkTech).horizontalHandoff = 1) : mCid ≠ prevMCid := by
  intro he
  unfold setHandoffType at h
  simp only [he, ne_eq, not_true_eq_false, decide_false, Bool.not_false, Bool.false_and,
    Bool.true_and, Bool.false_eq_true, if_false] at h
  split_ifs at h <;> simp at h

end Classifier

/-- No type code without a flag, no flag without a type code. -/
theorem handoffOutcomes_zero_iff (h : Handoff) (hm : h ∈ handoffOutcomes) :
    h.handoffType = 0 ↔ h.horizontalHandoff = 0 ∧ h.verticalHandoff = 0 := by
  revert h
  decide

theorem handoffOutcomes_flag_values (h : Handoff) (hm : h ∈ handoffOutcomes) :
    (h.horizontalHandoff = 0 ∨ h.horizontalHandoff = 1) ∧
      (h.verticalHandoff = 0 ∨ h.verticalHandoff = 1) := by
  revert h
  decide

/-- The type code determines the outcome, hence both flags. -/
theorem handoffOutcomes_type_injective (h h' : Handoff) (hm : h ∈ handoffOutcomes)
    (hm' : h' ∈ handoffOutcomes) (ht : h.handoffType = h'.handoffType) : h = h' := by
  have hall : ∀ a ∈ handoffOutcomes, ∀ b ∈ handoffOutcomes,
      a.handoffType = b.handoffType → a = b := by decide
  exact hall h hm h' hm' ht

/-- Technology of a sample: stand-alone 5G by its access technology, otherwise
non-stand-alone 5G by its NR status, otherwise LTE. -/
inductive TechClass where
  | sa
  | nsa
  | lte
  deriving DecidableEq, Repr

def techClass (accessNetworkTech nrStatus : String) : TechClass :=
  if accessNetworkTech = networkType5GSA then .sa
  else if nrStatus = nrConnectedKeyword then .nsa
  else .lte

/-- What the session counters say a handoff is: horizontal between towers,
vertical between technologies, and a type code when it is either. -/
def HandoffSound (prevNrStatus prevMCid prevAccessNetworkTech nrStatus mCid accessNetworkTech :
    String) (h : Handoff) : Prop :=
  (h.horizontalHandoff = 1 ↔ mCid ≠ prevMCid) ∧
  (h.verticalHandoff = 1 ↔
    techClass prevAccessNetworkTech prevNrStatus ≠ techClass accessNetworkTech nrStatus) ∧
  (h.handoffType = 0 ↔ h.horizontalHandoff = 0 ∧ h.verticalHandoff = 0)

/-- The NR statuses the classifier has a branch for. -/
def ListedStatus (nrStatus : String) : Prop :=
  nrStatus = nrConnectedKeyword ∨ nrStatus = nrNotRestrictedKeyword ∨ nrStatus = nrcNoneKeyword

/-- The transitions the branches of the classifier cover. Outside SA, a change of
status at the same tower is only covered between CONNECTED and NOT_RESTRICTED, a
change of tower only between listed statuses, and not from CONNECTED to CONNECTED. -/
def HandoffCovered
    (prevNrStatus prevMCid prevAccessNetworkTech nrStatus mCid accessNetworkTech : String) :
    Prop :=
  prevAccessNetworkTech = networkType5GSA ∨
  accessNetworkTech = networkType5GSA ∧ (mCid = prevMCid ∨ prevNrStatus = nrNotRestrictedKeyword) ∨
  accessNetworkTech ≠ networkType5GSA ∧
    (mCid = prevMCid ∧ ((prevNrStatus = nrConnectedKeyword ↔ nrStatus = nrConnectedKeyword) ∨
      prevNrStatus = nrConnectedKeyword ∧ nrStatus = nrNotRestrictedKeyword ∨
      prevNrStatus = nrNotRestrictedKeyword ∧ nrStatus = nrConnectedKeyword) ∨
    mCid ≠ prevMCid ∧ ListedStatus prevNrStatus ∧ ListedStatus nrStatus ∧
      ¬(prevNrStatus = nrConnectedKeyword ∧ nrStatus = nrConnectedKeyword))

theorem listedStatus_cases (nrStatus : String) :
    nrStatus = nrConnectedKeyword ∨ nrStatus = nrNotRestrictedKeyword ∨ nrStatus = nrcNoneKeyword ∨
      nrStatus ≠ nrConnectedKeyword ∧ nrStatus ≠ nrNotRestrictedKeyword ∧
        nrStatus ≠ nrcNoneKeyword := by
  by_cases hc : nrStatus = nrConnectedKeyword
  · exact .inl hc
  by_cases hr : nrStatus = nrNotRestrictedKeyword
  · exact .inr (.inl hr)
  by_cases hn : nrStatus = nrcNoneKeyword
  · exact .inr (.inr (.inl hn))
  exact .inr (.inr (.inr ⟨hc, hr, hn⟩))

theorem nr_keywords_distinct : nrConnectedKeyword ≠ nrNotRestrictedKeyword ∧
    nrConnectedKeyword ≠ nrcNoneKeyword ∧ nrNotRestrictedKeyword ≠ nrcNoneKeyword := by
  decide

section Soundness

variable (prevNrStatus prevMCid prevAccessNetworkTech nrStatus mCid accessNetworkTech : String)

theorem handoff_from_sa_sound :
    HandoffSound prevNrStatus prevMCid networkType5GSA nrStatus mCid accessNetworkTech
      (setHandoffType prevNrStatus prevMCid networkType5GSA nrStatus mCid accessNetworkTech) := by
  by_cases ht : accessNetworkTech = networkType5GSA <;> by_cases hm : mCid = prevMCid <;>
    simp [setHandoffType, HandoffSound, techClass, ht, hm]
  all_goals split <;> simp

theorem handoff_into_sa_sound_iff (hp : prevAccessNetworkTech ≠ networkType5GSA) :
    HandoffSound prevNrStatus prevMCid prevAccessNetworkTech nrStatus mCid networkType5GSA
      (setHandoffType prevNrStatus prevMCid prevAccessNetworkTech nrStatus mCid networkType5GSA) ↔
    mCid = prevMCid ∨ prevNrStatus = nrNotRestrictedKeyword := by
  by_cases hm : mCid = prevMCid <;> by_cases hn : prevNrStatus = nrNotRestrictedKeyword <;>
    simp [setHandoffType, HandoffSound, techClass, hp, hm, hn]
  all_goals split <;> simp

/-- Outside SA and at the same tower only the NR status can change. -/
theorem handoff_same_tower_sound_iff (hp : prevAccessNetworkTech ≠ networkType5GSA)
    (ht : accessNetworkTech ≠ networkType5GSA) :
    HandoffSound prevNrStatus prevMCid prevAccessNetworkTech nrStatus prevMCid accessNetworkTech
      (setHandoffType prevNrStatus prevMCid prevAccessNetworkTech nrStatus prevMCid
        accessNetworkTech) ↔
    (prevNrStatus = nrConnectedKeyword ↔ nrStatus = nrConnectedKeyword) ∨
      prevNrStatus = nrConnectedKeyword ∧ nrStatus = nrNotRestrictedKeyword ∨
      prevNrStatus = nrNotRestrictedKeyword ∧ nrStatus = nrConnectedKeyword := by
  obtain ⟨hcr, hcn, hrn⟩ := nr_keywords_distinct
  by_cases hs : nrStatus = prevNrStatus
  · simp [setHandoffType, HandoffSound, techClass, hp, ht, hs]
  rcases listedStatus_cases prevNrStatus with h | h | h | ⟨h1, h2, h3⟩ <;>
    rcases listedStatus_cases nrStatus with k | k | k | ⟨k1, k2, k3⟩ <;>
    simp_all [setHandoffType, HandoffSound, techClass, hcr.symm, hcn.symm, hrn.symm]

/-- Outside SA a change of tower is reported only between listed statuses. -/
theorem handoff_new_tower_sound_iff (hp : prevAccessNetworkTech ≠ networkType5GSA)
    (ht : accessNetworkTech ≠ networkType5GSA) (hm : mCid ≠ prevMCid) :
    HandoffSound prevNrStatus prevMCid prevAccessNetworkTech nrStatus mCid accessNetworkTech
      (setHandoffType prevNrStatus prevMCid prevAccessNetworkTech nrStatus mCid accessNetworkTech) ↔
    ListedStatus prevNrStatus ∧ ListedStatus nrStatus ∧
      ¬(prevNrStatus = nrConnectedKeyword ∧ nrStatus = nrConnectedKeyword) := by
  obtain ⟨hcr, hcn, hrn⟩ := nr_keywords_distinct
  by_cases hs : nrStatus = prevNrStatus
  · rcases listedStatus_cases prevNrStatus with h | h | h | ⟨h1, h2, h3⟩ <;>
      simp_all [setHandoffType, HandoffSound, ListedStatus, techClass, hcr.symm, hcn.symm, hrn.symm]
  rcases listedStatus_cases prevNrStatus with h | h | h | ⟨h1, h2, h3⟩ <;>
    rcases listedStatus_cases nrStatus with k | k | k | ⟨k1, k2, k3⟩ <;>
    simp_all [setHandoffType, HandoffSound, ListedStatus, techClass, hcr.symm, hcn.symm, hrn.symm]

/-- The classifier agrees with the documented meaning of the counters exactly on
the transitions its branches cover. -/
theorem setHandoffType_sound_iff_covered :
    HandoffSound prevNrStatus prevMCid prevAccessNetworkTech nrStatus mCid accessNetworkTech
      (setHandoffType prevNrStatus prevMCid prevAccessNetworkTech nrStatus mCid accessNetworkTech) ↔
    HandoffCovered prevNrStatus prevMCid prevAccessNetworkTech nrStatus mCid accessNetworkTech := by
  unfold HandoffCovered
  by_cases hp : prevAccessNetworkTech = networkType5GSA
  · subst hp
    exact ⟨fun _ => Or.inl rfl, fun _ => handoff_from_sa_sound _ _ _ _ _⟩
  by_cases ht : accessNetworkTech = networkType5GSA
  · subst ht
    rw [handoff_into_sa_sound_iff _ _ _ _ _ hp]
    simp [hp]
  by_cases hm : mCid = prevMCid
  · subst hm
    rw [handoff_same_tower_sound_iff _ _ _ _ _ hp ht]
    simp [hp, ht]
  · rw [handoff_new_tower_sound_iff _ _ _ _ _ _ hp ht hm]
    simp [hp, ht, hm]

end Soundness

/-- The sampler leaves every NR status empty, so outside SA it meets this case at
every change of tower. -/
theorem setHandoffType_misses_tower_change :
    ¬HandoffSound "" "100" "LTE" "" "200" "LTE" (setHandoffType "" "100" "LTE" "" "200" "LTE") := by
  intro h
  have hh := h.1.mpr (by decide)
  revert hh
  decide

end MmWaveTracker
