import Mathlib.Tactic.Common

/-! Systems driven by a list of events, where an event may be impossible in a
state, and invariants of their runs. -/
namespace MmWaveTracker

variable {σ ε : Type} (step : σ → ε → Option σ)

def runEvents : σ → List ε → Option σ
  | s, [] => some s
  | s, e :: rest => (step s e).bind fun s' => runEvents s' rest

/-- Every step that is taken meets `ok`. -/
def Along (ok : σ → ε → Prop) : σ → List ε → Prop
  | _, [] => True
  | s, e :: rest => ok s e ∧ ∀ s', step s e = some s' → Along ok s' rest

/-- Every state on the way is in `P`, the first and the last included. -/
def Throughout (P : σ → Prop) : σ → List ε → Prop
  | s, [] => P s
  | s, e :: rest => P s ∧ ∀ s', step s e = some s' → Throughout P s' rest

/-- The events that happen before one is impossible. -/
def taken : σ → List ε → List ε
  | _, [] => []
  | s, e :: rest =>
    match step s e with
    | none => []
    | some s' => e :: taken s' rest

theorem runEvents_cons (s t : σ) (e : ε) (rest : List ε)
    (h : runEvents step s (e :: rest) = some t) :
    ∃ s', step s e = some s' ∧ runEvents step s' rest = some t := Option.bind_eq_some_iff.mp h

theorem runEvents_append (s s' : σ) (first rest : List ε) (h : runEvents step s first = some s') :
    runEvents step s (first ++ rest) = runEvents step s' rest := by
  induction first generalizing s with
  | nil =>
    cases h
    rfl
  | cons e first ih =>
    obtain ⟨s₁, he, h₁⟩ := runEvents_cons step s s' e first h
    rw [List.cons_append, runEvents, he]
    exact ih s₁ h₁

/-- What every step that meets `ok` preserves holds after every run of such steps. -/
theorem runEvents_invariant (ok : σ → ε → Prop) (I : σ → Prop)
    (hstep : ∀ s e s', ok s e → step s e = some s' → I s → I s') (events : List ε) (s t : σ)
    (hok : Along step ok s events) (hrun : runEvents step s events = some t) (hI : I s) : I t := by
  induction events generalizing s with
  | nil =>
    cases hrun
    exact hI
  | cons e rest ih =>
    obtain ⟨s', he, hrest⟩ := runEvents_cons step s t e rest hrun
    exact ih s' (hok.2 s' he) hrest (hstep s e s' hok.1 he hI)

theorem along_of_forall (ok : ε → Prop) (events : List ε) (h : ∀ e ∈ events, ok e) (s : σ) :
    Along step (fun _ => ok) s events := by
  induction events generalizing s with
  | nil => exact trivial
  | cons e rest ih =>
    refine ⟨h e List.mem_cons_self, ?_⟩
    intro s' _
    exact ih (fun x hx => h x (List.mem_cons_of_mem e hx)) s'

/-- A condition that does not depend on the state. -/
theorem along_iff_forall (ok : σ → ε → Prop) (ok' : ε → Prop) (hok : ∀ s e, ok s e ↔ ok' e)
    (events : List ε) (s t : σ) (hrun : runEvents step s events = some t) :
    Along step ok s events ↔ ∀ e ∈ events, ok' e := by
  induction events generalizing s with
  | nil => exact iff_of_true trivial fun _ h => by cases h
  | cons e rest ih =>
    obtain ⟨s', he, hrest⟩ := runEvents_cons step s t e rest hrun
    rw [List.forall_mem_cons, ← ih s' hrest, ← hok s e, Along, he]
    exact ⟨fun h => ⟨h.1, h.2 s' rfl⟩, fun h => ⟨h.1, fun s'' heq => Option.some.inj heq ▸ h.2⟩⟩

/-- The same for a condition on the events alone. -/
theorem runEvents_of_forall (ok : ε → Prop) (I : σ → Prop)
    (hstep : ∀ s e s', ok e → step s e = some s' → I s → I s') (events : List ε) (s t : σ)
    (hok : ∀ e ∈ events, ok e) (hrun : runEvents step s events = some t) (hI : I s) : I t :=
  runEvents_invariant step (fun _ => ok) I hstep events s t
    (along_of_forall step ok events hok s) hrun hI

/-- What every step preserves holds after every run. -/
theorem runEvents_preserves (I : σ → Prop) (hstep : ∀ s e s', step s e = some s' → I s → I s')
    (events : List ε) (s t : σ) (hrun : runEvents step s events = some t) (hI : I s) : I t :=
  runEvents_of_forall step (fun _ => True) I (fun s e s' _ => hstep s e s') events s t (fun _ _ =>
    trivial) hrun hI

/-- An invariant that speaks of the events so far. -/
theorem runEvents_history (ok : ε → Prop) (I : List ε → σ → Prop)
    (hstep : ∀ done s e s', ok e → step s e = some s' → I done s → I (done ++ [e]) s')
    (done events : List ε) (s t : σ)
    (hok : ∀ e ∈ events, ok e) (hrun : runEvents step s events = some t) (hI : I done s) :
    I (done ++ events) t := by
  induction events generalizing done s with
  | nil =>
    cases hrun
    rw [List.append_nil]
    exact hI
  | cons e rest ih =>
    obtain ⟨s', he, hrest⟩ := runEvents_cons step s t e rest hrun
    have hI' := hstep done s e s' (hok e List.mem_cons_self) he hI
    have happend := ih (done ++ [e]) s' (fun x hx => hok x (List.mem_cons_of_mem e hx)) hrest hI'
    rw [List.append_assoc] at happend
    exact happend

theorem Throughout.head {P : σ → Prop} {s : σ} {events : List ε} (h : Throughout step P s events) :
    P s := by
  cases events with
  | nil => exact h
  | cons e rest => exact h.1

/-- If the steps that meet `ok` preserve an invariant which implies `P`, and any other step
leaves `P`, then a run stays in `P` exactly if all its steps meet `ok`. -/
theorem throughout_iff_along (ok : σ → ε → Prop) (I P : σ → Prop)
    (hstep : ∀ s e s', ok s e → step s e = some s' → I s → I s') (hI : ∀ s, I s → P s)
    (hleave : ∀ s e s', ¬ok s e → step s e = some s' → I s → ¬P s') (events : List ε) (s t : σ)
    (hrun : runEvents step s events = some t) (h : I s) :
    Throughout step P s events ↔ Along step ok s events := by
  induction events generalizing s with
  | nil => exact iff_of_true (hI s h) trivial
  | cons e rest ih =>
    obtain ⟨s', he, hrest⟩ := runEvents_cons step s t e rest hrun
    by_cases hok : ok s e
    · have hih := ih s' hrest (hstep s e s' hok he h)
      constructor
      · intro hP
        refine ⟨hok, fun s'' h'' => ?_⟩
        rw [he] at h''
        cases h''
        exact hih.mp (hP.2 s' he)
      · intro halong
        refine ⟨hI s h, fun s'' h'' => ?_⟩
        rw [he] at h''
        cases h''
        exact hih.mpr (halong.2 s' he)
    · exact iff_of_false (fun hP => hleave s e s' hok he h (hP.2 s' he).head) fun halong =>
        hok halong.1

/-- Two conditions that come to the same in every state with an invariant, which the steps that
meet the second condition preserve. -/
theorem along_iff_of_preserved (ok ok' : σ → ε → Prop) (I : σ → Prop)
    (hstep : ∀ s e s', ok' s e → step s e = some s' → I s → I s')
    (hok : ∀ s e s', step s e = some s' → I s → (ok s e ↔ ok' s e)) (events : List ε) (s t : σ)
    (hrun : runEvents step s events = some t) (h : I s) :
    Along step ok s events ↔ Along step ok' s events := by
  induction events generalizing s with
  | nil => exact Iff.rfl
  | cons e rest ih =>
    obtain ⟨s', he, hrest⟩ := runEvents_cons step s t e rest hrun
    by_cases hmeets : ok' s e
    · have hih := ih s' hrest (hstep s e s' hmeets he h)
      apply and_congr (hok s e s' he h)
      constructor
      · intro halong s'' h''
        rw [he] at h''
        cases h''
        exact hih.mp (halong s' he)
      · intro halong s'' h''
        rw [he] at h''
        cases h''
        exact hih.mpr (halong s' he)
    · exact iff_of_false (fun halong => hmeets ((hok s e s' he h).mp halong.1)) fun halong =>
        hmeets halong.1

/-- The same for an invariant of all steps. -/
theorem along_iff_along (ok ok' : σ → ε → Prop) (I : σ → Prop)
    (hstep : ∀ s e s', step s e = some s' → I s → I s')
    (hok : ∀ s e s', step s e = some s' → I s → (ok s e ↔ ok' s e)) (events : List ε) (s t : σ)
    (hrun : runEvents step s events = some t) (h : I s) :
    Along step ok s events ↔ Along step ok' s events :=
  along_iff_of_preserved step ok ok' I (fun s e s' _ => hstep s e s') hok events s t hrun h

theorem along_cons (ok : σ → ε → Prop) (s s' : σ) (e : ε) (rest : List ε) (hok : ok s e)
    (hstep : step s e = some s') (hrest : Along step ok s' rest) : Along step ok s (e :: rest) := by
  refine ⟨hok, ?_⟩
  intro s'' h
  rw [hstep] at h
  cases h
  exact hrest

theorem along_cons_iff (ok : σ → ε → Prop) (s s' : σ) (e : ε) (rest : List ε)
    (hstep : step s e = some s') : ok s e ∧ Along step ok s' rest ↔ Along step ok s (e :: rest) :=
  ⟨fun h => along_cons step ok s s' e rest h.1 hstep h.2, fun h => ⟨h.1, h.2 s' hstep⟩⟩

theorem along_cons_iff_none (ok : σ → ε → Prop) (s : σ) (e : ε) (rest : List ε)
    (hstep : step s e = none) : ok s e ↔ Along step ok s (e :: rest) := by
  refine ⟨fun h => ⟨h, fun s' hs => ?_⟩, fun h => h.1⟩
  rw [hstep] at hs
  cases hs

instance decidableAlong (ok : σ → ε → Prop) [∀ s e, Decidable (ok s e)] :
    ∀ s events, Decidable (Along step ok s events)
  | _, [] => .isTrue trivial
  | s, e :: rest =>
    match h : step s e with
    | none => decidable_of_iff _ (along_cons_iff_none step ok s e rest h)
    | some s' =>
      have := decidableAlong ok s' rest
      decidable_of_iff _ (along_cons_iff step ok s s' e rest h)

theorem Along.and_forall {ok : σ → ε → Prop} {P : ε → Prop} {s : σ} {events : List ε}
    (h : Along step ok s events) (hP : ∀ e ∈ events, P e) :
    Along step (fun s e => ok s e ∧ P e) s events := by
  induction events generalizing s with
  | nil => exact trivial
  | cons e rest ih =>
    refine ⟨⟨h.1, hP e List.mem_cons_self⟩, ?_⟩
    intro s' hs
    exact ih (h.2 s' hs) fun x hx => hP x (List.mem_cons_of_mem e hx)

end MmWaveTracker
