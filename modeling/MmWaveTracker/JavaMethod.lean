import Mathlib.Tactic.Common
import Mathlib.Order.Defs.Unbundled

/-! Bodies of Java methods as state transformers. A body that throws keeps the
assignments made before the throw, so the state is returned in both outcomes. -/
namespace MmWaveTracker

inductive Throwable where
  | nullPointer
  | arithmetic
  | indexOutOfBounds
  | illegalArgument
  | io
  | platform
  deriving DecidableEq, Repr

structure Java (σ α : Type) where
  run : σ → Except Throwable α × σ

namespace Java

variable {σ α β : Type}

def ret (a : α) : Java σ α := ⟨fun s => (.ok a, s)⟩

def andThen (x : Java σ α) (f : α → Java σ β) : Java σ β where
  run s := match x.run s with
    | (.ok a, s') => (f a).run s'
    | (.error e, s') => (.error e, s')

instance : Monad (Java σ) where
  pure := ret
  bind := andThen

def throw (e : Throwable) : Java σ α := ⟨fun s => (.error e, s)⟩

/-- `try { x } catch (Exception e) { h }`. -/
def attempt (x : Java σ α) (h : Throwable → Java σ α) : Java σ α where
  run s := match x.run s with
    | (.ok a, s') => (.ok a, s')
    | (.error e, s') => (h e).run s'

def get : Java σ σ := ⟨fun s => (.ok s, s)⟩

def modify (f : σ → σ) : Java σ Unit := ⟨fun s => (.ok (), f s)⟩

/-- Dereferencing a reference. -/
def nonNull (a : Option α) : Java σ α :=
  match a with
  | some a => pure a
  | none => throw .nullPointer

theorem run_bind (x : Java σ α) (f : α → Java σ β) (s : σ) :
    (x >>= f).run s = match x.run s with
      | (.ok a, s') => (f a).run s'
      | (.error e, s') => (.error e, s') := rfl

theorem run_attempt (x : Java σ α) (h : Throwable → Java σ α) (s : σ) :
    (attempt x h).run s = match x.run s with
      | (.ok a, s') => (.ok a, s')
      | (.error e, s') => (h e).run s' := rfl

theorem bind_ok (x : Java σ α) (f : α → Java σ β) (s s' : σ) (a : α) (h : x.run s = (.ok a, s')) :
    (x >>= f).run s = (f a).run s' := by
  rw [run_bind, h]

theorem bind_error (x : Java σ α) (f : α → Java σ β) (s s' : σ) (e : Throwable)
    (h : x.run s = (.error e, s')) : (x >>= f).run s = (.error e, s') := by
  rw [run_bind, h]

/-- What a sequence that completed normally did: both parts completed. -/
theorem bind_eq_ok (x : Java σ α) (f : α → Java σ β) (s t : σ) (b : β)
    (h : (x >>= f).run s = (.ok b, t)) :
    ∃ a s', x.run s = (.ok a, s') ∧ (f a).run s' = (.ok b, t) := by
  rw [run_bind] at h
  rcases hx : x.run s with ⟨_ | a, s'⟩ <;> rw [hx] at h
  · cases h
  · exact ⟨a, s', rfl, h⟩

theorem nonNull_eq_ok (a : Option α) (s s' : σ) (x : α) (h : (nonNull a).run s = (.ok x, s')) :
    a = some x ∧ s' = s := by
  cases a with
  | none => cases h
  | some y =>
    cases h
    exact ⟨rfl, rfl⟩

/-! How far a body can move the state, whether it completes or throws. -/

def Within (R : σ → σ → Prop) (x : Java σ α) : Prop := ∀ s, R s (x.run s).2

/-- An observation that stays as it was. -/
def Same {γ : Type} (f : σ → γ) (s s' : σ) : Prop := f s' = f s

def Preserves (I : σ → Prop) (s s' : σ) : Prop := I s → I s'

instance {γ : Type} (f : σ → γ) : Std.Refl (Same f) := ⟨fun _ => rfl⟩

instance {γ : Type} (f : σ → γ) : IsTrans σ (Same f) := ⟨fun _ _ _ h h' => Eq.trans h' h⟩

instance (I : σ → Prop) : Std.Refl (Preserves I) := ⟨fun _ => id⟩

instance (I : σ → Prop) : IsTrans σ (Preserves I) := ⟨fun _ _ _ h h' => h' ∘ h⟩

abbrev Leaves {γ : Type} (f : σ → γ) (x : Java σ α) : Prop := Within (Same f) x

abbrev Keeps (I : σ → Prop) (x : Java σ α) : Prop := Within (Preserves I) x

section Within

variable {R : σ → σ → Prop} [Std.Refl R]

theorem within_pure (a : α) : Within R (pure a : Java σ α) := fun s => Std.Refl.refl s

theorem within_throw (e : Throwable) : Within R (throw e : Java σ α) := fun s => Std.Refl.refl s

theorem within_get : Within R (get : Java σ σ) := fun s => Std.Refl.refl s

theorem within_nonNull (a : Option α) : Within R (nonNull a : Java σ α) := by
  cases a
  · exact within_throw _
  · exact within_pure _

omit [Std.Refl R] in
theorem within_modify (g : σ → σ) (h : ∀ s, R s (g s)) : Within R (modify g) := h

omit [Std.Refl R] in
theorem within_mono {R' : σ → σ → Prop} {x : Java σ α} (hx : Within R x)
    (h : ∀ s s', R s s' → R' s s') : Within R' x := fun s => h _ _ (hx s)

variable [IsTrans σ R]

omit [Std.Refl R] in
theorem within_bind {x : Java σ α} {k : α → Java σ β} (hx : Within R x)
    (hk : ∀ a, Within R (k a)) : Within R (x >>= k) := by
  intro s
  rw [run_bind]
  have hs := hx s
  generalize x.run s = o at hs
  rcases o with ⟨_ | a, s'⟩
  · exact hs
  · exact IsTrans.trans _ _ _ hs (hk a s')

omit [Std.Refl R] in
theorem within_attempt {x : Java σ α} {h : Throwable → Java σ α} (hx : Within R x)
    (hh : ∀ e, Within R (h e)) : Within R (attempt x h) := by
  intro s
  have hs := hx s
  rw [run_attempt]
  generalize x.run s = o at hs
  rcases o with ⟨e | a, s'⟩
  · exact IsTrans.trans _ _ _ hs (hh e s')
  · exact hs

end Within

/-! What every value returned normally satisfies. -/

def Returns (P : α → Prop) (x : Java σ α) : Prop := ∀ s a s', x.run s = (.ok a, s') → P a

section Returns

theorem returns_pure {P : α → Prop} (a : α) (h : P a) : Returns P (pure a : Java σ α) := by
  intro s a' s' hr
  cases hr
  exact h

theorem returns_bind {P : β → Prop} {x : Java σ α} {k : α → Java σ β}
    (hk : ∀ a, Returns P (k a)) : Returns P (x >>= k) := by
  intro s b t h
  obtain ⟨a, s', -, h'⟩ := bind_eq_ok x k s t b h
  exact hk a s' b t h'

theorem returns_bind_of {Q : α → Prop} {P : β → Prop} {x : Java σ α} {k : α → Java σ β}
    (hx : Returns Q x) (hk : ∀ a, Q a → Returns P (k a)) : Returns P (x >>= k) := by
  intro s b t h
  obtain ⟨a, s', hxa, h'⟩ := bind_eq_ok x k s t b h
  exact hk a (hx s a s' hxa) s' b t h'

end Returns

/-! Triples with a postcondition for each way a body can end. -/

def Triple (P : σ → Prop) (x : Java σ α) (Q : α → σ → Prop) (E : σ → Prop) : Prop :=
  ∀ s, P s → match x.run s with
    | (.ok a, s') => Q a s'
    | (.error _, s') => E s'

section Triple

variable {P : σ → Prop} {E : σ → Prop}

theorem triple_pure {Q : α → σ → Prop} (a : α) (h : ∀ s, P s → Q a s) : Triple P (pure a) Q E := h

theorem triple_get {Q : σ → σ → Prop} (h : ∀ s, P s → Q s s) : Triple P get Q E := h

theorem triple_modify {Q : Unit → σ → Prop} (f : σ → σ) (h : ∀ s, P s → Q () (f s)) :
    Triple P (modify f) Q E := h

theorem triple_nonNull {Q : α → σ → Prop} (a : Option α) (hn : ∀ s, P s → a.isSome)
    (h : ∀ s x, P s → a = some x → Q x s) : Triple P (nonNull a) Q E := by
  intro s hs
  cases a with
  | none => exact absurd (hn s hs) (by simp)
  | some x => exact h s x hs rfl

theorem triple_bind {Q : α → σ → Prop} {R : β → σ → Prop} {x : Java σ α} {k : α → Java σ β}
    (hx : Triple P x Q E) (hk : ∀ a, Triple (Q a) (k a) R E) : Triple P (x >>= k) R E := by
  intro s hs
  have h := hx s hs
  rw [run_bind]
  generalize x.run s = o at h
  rcases o with ⟨_ | a, s'⟩
  · exact h
  · exact hk a s' h

/-- Sequencing under an invariant. -/
theorem triple_seq {R : β → σ → Prop} {x : Java σ α} {k : α → Java σ β}
    (hx : Triple P x (fun _ => P) E) (hk : ∀ a, Triple P (k a) R E) : Triple P (x >>= k) R E :=
  triple_bind hx hk

theorem triple_weaken {Q Q' : α → σ → Prop} {P' : σ → Prop} {x : Java σ α} (hx : Triple P x Q E)
    (hp : ∀ s, P' s → P s) (hq : ∀ a s, Q a s → Q' a s) : Triple P' x Q' E := by
  intro s hs
  have h := hx s (hp s hs)
  generalize x.run s = o at h
  rcases o with ⟨_ | a, s'⟩
  · exact h
  · exact hq a s' h

end Triple

/-! Two runs of bodies from related states: they complete together or throw
together, with a postcondition for each way. -/

def Coupled (P : σ → σ → Prop) (x y : Java σ α) (Q : α → α → σ → σ → Prop) (E : σ → σ → Prop) :
    Prop :=
  ∀ s t, P s t → match x.run s, y.run t with
    | (.ok a, s'), (.ok b, t') => Q a b s' t'
    | (.error _, s'), (.error _, t') => E s' t'
    | _, _ => False

section Coupled

variable {P E : σ → σ → Prop}

theorem coupled_pure {Q : α → α → σ → σ → Prop} (a b : α) (h : ∀ s t, P s t → Q a b s t) :
    Coupled P (pure a) (pure b) Q E := h

theorem coupled_throw {Q : α → α → σ → σ → Prop} (e e' : Throwable) (h : ∀ s t, P s t → E s t) :
    Coupled P (throw e) (throw e') Q E := h

theorem coupled_get {Q : σ → σ → σ → σ → Prop} (h : ∀ s t, P s t → Q s t s t) :
    Coupled P get get Q E := h

theorem coupled_modify {Q : Unit → Unit → σ → σ → Prop} (f g : σ → σ)
    (h : ∀ s t, P s t → Q () () (f s) (g t)) : Coupled P (modify f) (modify g) Q E := h

theorem coupled_bind {Q : α → α → σ → σ → Prop} {S : β → β → σ → σ → Prop} {x y : Java σ α}
    {f g : α → Java σ β} (hx : Coupled P x y Q E) (hf : ∀ a b, Coupled (Q a b) (f a) (g b) S E) :
    Coupled P (x >>= f) (y >>= g) S E := by
  intro s t hp
  have h := hx s t hp
  rw [run_bind, run_bind]
  generalize x.run s = o at h
  generalize y.run t = p at h
  rcases o with ⟨_ | a, s'⟩ <;> rcases p with ⟨_ | b, t'⟩
  · exact h
  · exact h.elim
  · exact h.elim
  · exact hf a b s' t' h

theorem coupled_attempt {Q : α → α → σ → σ → Prop} {E' : σ → σ → Prop} {x y : Java σ α}
    {h k : Throwable → Java σ α} (hx : Coupled P x y Q E)
    (hh : ∀ e e', Coupled E (h e) (k e') Q E') :
    Coupled P (attempt x h) (attempt y k) Q E' := by
  intro s t hp
  have hc := hx s t hp
  rw [run_attempt, run_attempt]
  generalize x.run s = o at hc
  generalize y.run t = p at hc
  rcases o with ⟨e | a, s'⟩ <;> rcases p with ⟨e' | b, t'⟩
  · exact hh e e' s' t' hc
  · exact hc.elim
  · exact hc.elim
  · exact hc

theorem coupled_weaken {Q Q' : α → α → σ → σ → Prop} {P' : σ → σ → Prop} {x y : Java σ α}
    (hx : Coupled P x y Q E) (hp : ∀ s t, P' s t → P s t)
    (hq : ∀ a b s t, Q a b s t → Q' a b s t) : Coupled P' x y Q' E := by
  intro s t hs
  have h := hx s t (hp s t hs)
  generalize x.run s = o at h
  generalize y.run t = p at h
  rcases o with ⟨_ | a, s'⟩ <;> rcases p with ⟨_ | b, t'⟩
  · exact h
  · exact h.elim
  · exact h.elim
  · exact hq a b s' t' h

end Coupled

end Java

end MmWaveTracker
