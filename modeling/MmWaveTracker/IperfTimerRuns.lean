import MmWaveTracker.IperfTimerList
import Mathlib.Algebra.BigOperators.Group.List.Basic
import Mathlib.Tactic.Ring

/-! What holds of the timers in every run: `tmr_run` always returns, calls every timer that is due
and none before, and a periodic timer does not drift. -/
namespace MmWaveTracker

namespace IperfTimer

open LinkedCells

variable {P : Type}

section kept

/-- A timer as `tmr_create` makes it, with a time to wait of at most `longest` microseconds. -/
structure Regular (longest : ℕ) (timer : Timer P) : Prop where
  normal : Normal timer.time
  nonneg : 0 ≤ timer.usecs.toInt
  longest : timer.usecs.toInt ≤ longest
  period : timer.periodic = true → 0 < timer.usecs.toInt

/-- A moment from which every timer can still be set. -/
structure Moment (longest : ℕ) (now : IperfTime) : Prop where
  normal : Normal now
  early : micros now+longest < clockEnd

structure Kept (longest : ℕ) (s : Timers P) (xs ys : List ℕ) : Prop where
  linked : Linked s xs ys
  sorted : Sorted s.list xs
  regular : ∀ p ∈ xs, Regular longest (s.list.cell p).data

/-- By how much a call moves a timer. -/
def period (timer : Timer P) : ℕ := if timer.periodic then timer.usecs.toInt.toNat else 0

theorem toNat_usecs {longest : ℕ} {timer : Timer P} (h : Regular longest timer) :
    timer.usecs.toUInt64.toNat = timer.usecs.toInt.toNat ∧
      timer.usecs.toUInt64.toNat ≤ longest := by
  have hnat : (timer.usecs.toUInt64.toNat:ℤ) = timer.usecs.toInt := by
    have hnonneg := h.nonneg
    have htoInt : timer.usecs.toInt = timer.usecs.toUInt64.toBitVec.toInt := rfl
    have htoNat : timer.usecs.toUInt64.toNat = timer.usecs.toUInt64.toBitVec.toNat := rfl
    rw [htoInt, BitVec.toInt_eq_toNat_cond] at hnonneg ⊢
    rw [htoNat]
    have := timer.usecs.toUInt64.toBitVec.isLt
    split_ifs at hnonneg ⊢ <;> omega
  have hlongest := h.longest
  constructor <;> omega

variable {longest n : ℕ} {now : IperfTime} {s : Timers P} {t : ℕ} {ls rs xs ys : List ℕ}

/-- A timer gets a new time and with it a new place. -/
theorem kept_resort (time : IperfTime) (h : Kept longest s (ls ++ t :: rs) ys) (htime : Normal time)
    (hn : (ls ++ t :: rs).length < n) :
    ∃ c', listResort n (setTime s.list t time) t = some c' ∧
      Kept longest ⟨c', s.freeTimers⟩ (place c' t (ls ++ rs)) ys ∧
      ∀ p, (c'.cell p).data = if p = t then {(s.list.cell t).data with time := time}
        else (s.list.cell p).data := by
  obtain ⟨c', hc', hlinked, hdata⟩ := linked_resort n time h.linked hn
  have hnodup := (List.nodup_append.mp h.linked.nodup).1
  have htout : t ∉ ls ++ rs := (List.nodup_cons.mp (List.perm_middle.nodup_iff.mp hnodup)).1
  have hsub : (ls ++ rs).Sublist (ls ++ t :: rs) :=
    List.Sublist.append_left (List.sublist_cons_self t rs) ls
  have hregular : ∀ p ∈ t :: (ls ++ rs), Regular longest (c'.cell p).data := by
    intro p hp
    rw [hdata p]
    have hold := h.regular p (List.perm_middle.mem_iff.mpr hp)
    split_ifs with hpt
    · rw [hpt] at hold
      exact ⟨htime, hold.nonneg, hold.longest, hold.period⟩
    · exact hold
  refine ⟨c', hc', ⟨hlinked, sorted_place (fun p hp => (hregular p hp).normal) ?_, fun p hp => ?_⟩,
    hdata⟩
  · apply sorted_congr _ (h.sorted.sublist hsub)
    intro p hp
    have hpt : p ≠ t := by
      rintro rfl
      exact htout hp
    rw [timeOf, hdata p, if_neg hpt]
    rfl
  · exact hregular p (perm_place.mem_iff.mp hp)

theorem kept_reset (hnow : Moment longest now) (h : Kept longest s (ls ++ t :: rs) ys)
    (hn : (ls ++ t :: rs).length < n) : ∃ s', tmrReset n s now t = some s' ∧ Kept longest s'
    (place s'.list t (ls ++ rs)) ys ∧
      (∀ p, (s'.list.cell p).data =
        if p = t then {(s.list.cell t).data with
          time := addUsecs now (s.list.cell t).data.usecs.toUInt64}
        else (s.list.cell p).data) ∧
      micros (timeOf s'.list t) = micros now+(s.list.cell t).data.usecs.toInt.toNat := by
  have ht := h.regular t (List.mem_append_right ls List.mem_cons_self)
  obtain ⟨hnat, hle⟩ := toNat_usecs ht
  have hend := hnow.early
  obtain ⟨hnormal, hmicros⟩ :=
    addUsecs_spec (s.list.cell t).data.usecs.toUInt64 hnow.normal (by omega)
  obtain ⟨c', hc', hkept, hdata⟩ := kept_resort (n := n) _ h hnormal hn
  refine ⟨⟨c', s.freeTimers⟩, ?_, hkept, hdata, ?_⟩
  · rw [tmrReset, hc']
    rfl
  · rw [timeOf, hdata t, if_pos rfl, ← hnat]
    exact hmicros

theorem kept_cancel (h : Kept longest s (ls ++ t :: rs) ys) :
    Kept longest (tmrCancel s t) (ls ++ rs) (t :: ys) ∧ ∀ p, ((tmrCancel s t).list.cell p).data =
      (s.list.cell p).data := by
  obtain ⟨hlinked, hdata⟩ := linked_cancel h.linked
  have hsub : (ls ++ rs).Sublist (ls ++ t :: rs) :=
    List.Sublist.append_left (List.sublist_cons_self t rs) ls
  refine ⟨⟨hlinked, ?_, fun p hp => ?_⟩, hdata⟩
  · apply sorted_congr _ (h.sorted.sublist hsub)
    intro p _
    rw [timeOf, hdata p]
    rfl
  · rw [hdata p]
    exact h.regular p (hsub.subset hp)

end kept

section ran

/-- What a part of `tmr_run` has done: it has called `calls`, in this order, and timers that no
callback resets have only been moved by their own calls. -/
structure Ran (resets : ℕ → Prop) (now : IperfTime) (s : Timers P) (xs ys calls : List ℕ)
    (s' : Timers P) (xs' ys' : List ℕ) : Prop where
  perm : (xs' ++ ys').Perm (xs ++ ys)
  same : ∀ p, (s'.list.cell p).data.timerProc = (s.list.cell p).data.timerProc ∧
    (s'.list.cell p).data.usecs = (s.list.cell p).data.usecs ∧
    (s'.list.cell p).data.periodic = (s.list.cell p).data.periodic
  active : ∀ p, p ∈ xs' ↔ p ∈ xs ∧ (p ∈ calls → (s.list.cell p).data.periodic = true)
  called : ∀ p ∈ calls, p ∈ xs
  once : ∀ p, (s.list.cell p).data.periodic = false → calls.count p ≤ 1
  time : ∀ p, ¬resets p →
    micros (timeOf s'.list p) = micros (timeOf s.list p)+calls.count p*period (s.list.cell p).data
  due : ∀ p ∈ calls, ¬resets p →
    micros (timeOf s.list p)+(calls.count p-1)*period (s.list.cell p).data ≤ micros now
  undue : ∀ p, micros (timeOf s'.list p) ≤ micros now → micros (timeOf s.list p) ≤ micros now

variable {resets : ℕ → Prop} {now : IperfTime} {s s' s'' : Timers P}
    {xs ys xs' ys' xs'' ys'' calls calls' : List ℕ}

theorem Ran.period_eq (h : Ran resets now s xs ys calls s' xs' ys') (p : ℕ) :
    period (s'.list.cell p).data = period (s.list.cell p).data := by
  obtain ⟨-, husecs, hperiodic⟩ := h.same p
  rw [period, period, husecs, hperiodic]

theorem Ran.refl (s : Timers P) (xs ys : List ℕ) : Ran resets now s xs ys [] s xs ys where
  perm := .refl _
  same _ := ⟨rfl, rfl, rfl⟩
  active p := by simp
  called p hp := absurd hp List.not_mem_nil
  once p _ := by simp
  time p _ := by simp
  due p hp := absurd hp List.not_mem_nil
  undue p hp := hp

theorem Ran.trans (h : Ran resets now s xs ys calls s' xs' ys')
    (h' : Ran resets now s' xs' ys' calls' s'' xs'' ys'') :
    Ran resets now s xs ys (calls ++ calls') s'' xs'' ys'' where
  perm := h'.perm.trans h.perm
  same p := by
    obtain ⟨h1, h2, h3⟩ := h.same p
    obtain ⟨h1', h2', h3'⟩ := h'.same p
    exact ⟨h1'.trans h1, h2'.trans h2, h3'.trans h3⟩
  active p := by
    rw [h'.active, h.active, (h.same p).2.2, List.mem_append]
    tauto
  called p hp := by
    rcases List.mem_append.mp hp with hp | hp
    · exact h.called p hp
    · exact ((h.active p).mp (h'.called p hp)).1
  once p hp := by
    rw [List.count_append]
    have hfirst := h.once p hp
    have hsecond := h'.once p ((h.same p).2.2.trans hp)
    by_cases hmem : p ∈ calls
    · have hout : p ∉ calls' := by
        intro hmem'
        have := ((h.active p).mp (h'.called p hmem')).2 hmem
        rw [hp] at this
        cases this
      rw [List.count_eq_zero_of_not_mem hout]
      exact hfirst
    · rw [List.count_eq_zero_of_not_mem hmem, zero_add]
      exact hsecond
  time p hp := by
    rw [h'.time p hp, h.time p hp, h.period_eq p, List.count_append]
    ring
  due p hp hreset := by
    rw [List.count_append]
    by_cases hmem : p ∈ calls'
    · have hdue := h'.due p hmem hreset
      rw [h.time p hreset, h.period_eq p] at hdue
      have hpos := List.count_pos_iff.mpr hmem
      have hcount : calls.count p+calls'.count p-1 = calls.count p+(calls'.count p-1) := by omega
      rw [hcount, Nat.add_mul, ← Nat.add_assoc]
      exact hdue
    · rw [List.count_eq_zero_of_not_mem hmem, add_zero]
      exact h.due p ((List.mem_append.mp hp).resolve_right hmem) hreset
  undue p hp := h.undue p (h'.undue p hp)

end ran

section loop

/-- How far behind the timers are: every call of a timer that is due brings them nearer to `now`. -/
def work (now : IperfTime) (c : Chain ℕ (Timer P)) (xs : List ℕ) : ℕ :=
  (xs.map fun p => micros now+1-micros (timeOf c p)).sum

variable {longest n : ℕ} {now : IperfTime} {s : Timers P} {t : ℕ} {ls rs xs ys : List ℕ}

theorem work_perm {c : Chain ℕ (Timer P)} (h : xs.Perm ys) : work now c xs = work now c ys :=
  (h.map fun p => micros now+1-micros (timeOf c p)).sum_eq

theorem work_congr {c c' : Chain ℕ (Timer P)} (h : ∀ p ∈ xs, timeOf c' p = timeOf c p) :
    work now c' xs = work now c xs := by
  unfold work
  rw [List.map_congr_left fun p hp => by rw [h p hp]]

theorem work_cons (c : Chain ℕ (Timer P)) (p : ℕ) (xs : List ℕ) :
    work now c (p :: xs) = micros now+1-micros (timeOf c p)+work now c xs := by
  rw [work, List.map_cons, List.sum_cons, work]

variable (now) in
/-- Only the time of `t` has changed, and with it its place. -/
theorem work_place (c c' : Chain ℕ (Timer P)) (hnodup : (ls ++ t :: rs).Nodup)
    (hdata : ∀ p, p ≠ t → timeOf c' p = timeOf c p) :
    work now c' (place c' t (ls ++ rs))+(micros now+1-micros (timeOf c t)) =
      work now c (ls ++ t :: rs)+(micros now+1-micros (timeOf c' t)) := by
  have htout : t ∉ ls ++ rs := (List.nodup_cons.mp (List.perm_middle.nodup_iff.mp hnodup)).1
  have hrest : work now c' (ls ++ rs) = work now c (ls ++ rs) := by
    apply work_congr
    intro p hp
    apply hdata
    rintro rfl
    exact htout hp
  have hmiddle : (ls ++ t :: rs).Perm (t :: (ls ++ rs)) := List.perm_middle
  rw [work_perm perm_place, work_perm hmiddle, work_cons, work_cons, hrest]
  omega

variable {resets : ℕ → Prop}

/-- A callback may reset periodic timers other than its own. -/
structure Harmless (resets : ℕ → Prop) (s : Timers P) (xs : List ℕ) (t : ℕ) (a : Action) :
    Prop where
  intro ::
  reset : ∃ r, a = .reset r ∧ r ≠ t ∧ r ∈ xs ∧ (s.list.cell r).data.periodic = true ∧ resets r

/-- One reset by a callback. -/
theorem ran_reset (hnow : Moment longest now) (h : Kept longest s xs ys) (hn : xs.length < n)
    {r : ℕ} (hr : r ∈ xs) (hperiodic : (s.list.cell r).data.periodic = true) (hreset : resets r) :
    ∃ s' xs', tmrReset n s now r = some s' ∧ Kept longest s' xs' ys ∧
      Ran resets now s xs ys [] s' xs' ys ∧ work now s'.list xs' ≤ work now s.list xs ∧ ∀ p, p ≠ r →
        (s'.list.cell p).data = (s.list.cell p).data := by
  obtain ⟨ls, rs, rfl⟩ := List.append_of_mem hr
  obtain ⟨s', hs', hkept, hdata, hmicros⟩ := kept_reset hnow h hn
  have hother (p : ℕ) (hp : p ≠ r) : (s'.list.cell p).data = (s.list.cell p).data := by
    rw [hdata p, if_neg hp]
  have hpositive := (h.regular r hr).period hperiodic
  have hperm : (place s'.list r (ls ++ rs)).Perm (ls ++ r :: rs) :=
    perm_place.trans List.perm_middle.symm
  refine ⟨s', place s'.list r (ls ++ rs), hs', hkept, ?_, ?_, hother⟩
  · refine ⟨hperm.append_right ys, fun p => ?_, fun p => ?_, fun p hp => absurd hp List.not_mem_nil,
      fun p _ => ?_, fun p hp => ?_, fun p hp => absurd hp List.not_mem_nil, fun p hp => ?_⟩
    · rw [hdata p]
      split_ifs with hpr
      · rw [hpr]
        exact ⟨rfl, rfl, rfl⟩
      · exact ⟨rfl, rfl, rfl⟩
    · rw [hperm.mem_iff]
      simp
    · simp
    · have hpr : p ≠ r := by
        rintro rfl
        exact hp hreset
      rw [timeOf, hother p hpr]
      simp [timeOf]
    · by_cases hpr : p = r
      · rw [hpr, hmicros] at hp
        omega
      · rw [timeOf, hother p hpr] at hp
        exact hp
  · have hwork := work_place now s.list s'.list (List.nodup_append.mp h.linked.nodup).1
      fun p hp => congrArg Timer.time (hother p hp)
    omega

theorem ran_callback (hnow : Moment longest now) (actions : List Action) (h : Kept longest s xs ys)
    (hn : xs.length < n) (hactions : ∀ a ∈ actions, Harmless resets s xs t a) :
    ∃ s' xs', actions.foldlM (act n now) s = some s' ∧ Kept longest s' xs' ys ∧
      Ran resets now s xs ys [] s' xs' ys ∧ work now s'.list xs' ≤ work now s.list xs ∧
        (s'.list.cell t).data = (s.list.cell t).data := by
  induction actions generalizing s xs with
  | nil => exact ⟨s, xs, rfl, h, .refl s xs ys, le_rfl, rfl⟩
  | cons a actions ih =>
    obtain ⟨r, rfl, hrt, hr, hperiodic, hreset⟩ := (hactions a List.mem_cons_self).reset
    obtain ⟨s1, xs1, hs1, hkept1, hran1, hwork1, hother1⟩ := ran_reset hnow h hn hr hperiodic hreset
    have hmem (p : ℕ) : p ∈ xs1 ↔ p ∈ xs := by
      rw [hran1.active p]
      simp
    have hlength : xs1.length = xs.length := by
      have := hran1.perm.length_eq
      simp only [List.length_append] at this
      omega
    have hactions1 : ∀ a ∈ actions, Harmless resets s1 xs1 t a := by
      intro a ha
      obtain ⟨r', ha', hrt', hr', hperiodic', hreset'⟩ :=
        (hactions a (List.mem_cons_of_mem _ ha)).reset
      exact ⟨r', ha', hrt', (hmem r').mpr hr', (hran1.same r').2.2.trans hperiodic', hreset'⟩
    obtain ⟨s', xs', hs', hkept', hran', hwork', htime'⟩ := ih hkept1 (hlength ▸ hn) hactions1
    refine ⟨s', xs', ?_, hkept', hran1.trans hran', hwork'.trans hwork1,
      htime'.trans (hother1 t hrt.symm)⟩
    rw [List.foldlM_cons, act, hs1]
    exact hs'

/-- A timer that is not due before those of `ls` is put behind them. -/
theorem place_append {c : Chain ℕ (Timer P)} (h : ∀ l ∈ ls, ¬compare (timeOf c t) (timeOf c l) < 0)
    (rs : List ℕ) : place c t (ls ++ rs) = ls ++ place c t rs := by
  induction ls with
  | nil => rfl
  | cons l ls ih =>
    rw [List.cons_append, place, List.orderedInsert, if_neg (h l List.mem_cons_self),
      List.cons_append]
    exact congrArg (l :: ·) (ih fun x hx => h x (List.mem_cons_of_mem l hx))

/-- The timers behind the next one are still behind it when `t` has found a later place. -/
theorem place_later {c : Chain ℕ (Timer P)} (h : ∀ l ∈ ls, ¬compare (timeOf c t) (timeOf c l) < 0)
    (r : ℕ) (rs : List ℕ) : ∃ ls' rs', place c t (ls ++ r :: rs) = ls' ++ r :: rs' ∧ rs ⊆ rs' := by
  rw [place_append h, place, List.orderedInsert]
  split_ifs
  · exact ⟨ls ++ [t], rs, by rw [List.append_assoc]; rfl, List.Subset.refl rs⟩
  · exact ⟨ls, place c t rs, rfl, fun p hp => (mem_place p).mpr (Or.inr hp)⟩

variable (resets) in
/-- After its callback a timer is moved on or retired. -/
theorem ran_afterCall (hnow : Moment longest now) (h : Kept longest s (ls ++ t :: rs) ys)
    (hn : (ls ++ t :: rs).length < n) (hdue : micros (timeOf s.list t) ≤ micros now) :
    ∃ s' xs' ys', afterCall n s t = some s' ∧ Kept longest s' xs' ys' ∧
      Ran resets now s (ls ++ t :: rs) ys [t] s' xs' ys' ∧
        work now s'.list xs' < work now s.list (ls ++ t :: rs) ∧
      ∀ r rs0, rs = r :: rs0 → ∃ ls' rs', xs' = ls' ++ r :: rs' ∧ rs0 ⊆ rs' := by
  have ht : t ∈ ls ++ t :: rs := List.mem_append_right ls List.mem_cons_self
  have hnodup := (List.nodup_append.mp h.linked.nodup).1
  have htout : t ∉ ls ++ rs := (List.nodup_cons.mp (List.perm_middle.nodup_iff.mp hnodup)).1
  have hcount (p : ℕ) : [t].count p = if p = t then 1 else 0 := by
    split_ifs with hpt
    · rw [hpt, List.count_singleton_self]
    · exact List.count_eq_zero_of_not_mem fun hmem => hpt (List.mem_singleton.mp hmem)
  have hregular := h.regular t ht
  have hend := hnow.early
  unfold afterCall
  split_ifs with hperiodic
  · obtain ⟨hnat, hle⟩ := toNat_usecs hregular
    obtain ⟨hnormal, hmicros⟩ :=
        addUsecs_spec (s.list.cell t).data.usecs.toUInt64 hregular.normal (by
      unfold timeOf at hdue
      omega)
    obtain ⟨c', hc', hkept, hdata⟩ := kept_resort (n := n) _ h hnormal hn
    have hperm : (place c' t (ls ++ rs)).Perm (ls ++ t :: rs) :=
      perm_place.trans List.perm_middle.symm
    have hother (p : ℕ) (hp : p ≠ t) : (c'.cell p).data = (s.list.cell p).data := by
      rw [hdata p, if_neg hp]
    have hmoved : micros (timeOf c' t) = micros (timeOf s.list t)+period (s.list.cell t).data := by
      rw [timeOf, hdata t, if_pos rfl, period, if_pos hperiodic, ← hnat]
      exact hmicros
    have hpositive := hregular.period hperiodic
    have hperiod : 0 < period (s.list.cell t).data := by
      rw [period, if_pos hperiodic]
      omega
    refine ⟨⟨c', s.freeTimers⟩, place c' t (ls ++ rs), ys, ?_, hkept, ?_, ?_, ?_⟩
    · have hsame : (s.list.cell t).data.time = timeOf s.list t := rfl
      rw [← hsame, hc']
      rfl
    · refine ⟨hperm.append_right ys, fun p => ?_, fun p => ?_, fun p hp => ?_, fun p hp => ?_,
        fun p _ => ?_, fun p hp _ => ?_, fun p hp => ?_⟩
      · rw [hdata p]
        split_ifs with hpt
        · rw [hpt]
          exact ⟨rfl, rfl, rfl⟩
        · exact ⟨rfl, rfl, rfl⟩
      · rw [hperm.mem_iff, List.mem_singleton]
        refine ⟨fun hp => ⟨hp, ?_⟩, fun hp => hp.1⟩
        rintro rfl
        exact hperiodic
      · rw [List.mem_singleton.mp hp]
        exact ht
      · rw [hcount]
        split_ifs <;> omega
      · rw [hcount]
        split_ifs with hpt
        · rw [hpt, Nat.one_mul]
          exact hmoved
        · rw [Nat.zero_mul, Nat.add_zero, timeOf, timeOf, hother p hpt]
      · rw [List.mem_singleton.mp hp, hcount, if_pos rfl, Nat.sub_self, Nat.zero_mul, Nat.add_zero]
        exact hdue
      · by_cases hpt : p = t
        · rw [hpt]
          exact hdue
        · rw [timeOf, hother p hpt] at hp
          exact hp
    · have hwork := work_place now s.list c' hnodup
        fun p hp => congrArg Timer.time (hother p hp)
      show work now c' _ < _
      omega
    · rintro r rs0 rfl
      apply place_later
      intro l hl
      have hlt : l ≠ t := by
        rintro rfl
        exact htout (List.mem_append_left _ hl)
      have hbefore : micros (timeOf s.list l) ≤ micros (timeOf s.list t) :=
        (List.pairwise_append.mp h.sorted).2.2 l hl t List.mem_cons_self
      have hnormalt : Normal (timeOf c' t) := (hkept.regular t (hperm.mem_iff.mpr ht)).normal
      have hnormall : Normal (timeOf c' l) :=
        (hkept.regular l (hperm.mem_iff.mpr (List.mem_append_left _ hl))).normal
      have hsame : timeOf c' l = timeOf s.list l := congrArg Timer.time (hother l hlt)
      rw [compare_neg_iff hnormalt hnormall, hsame, hmoved]
      omega
  · obtain ⟨hkept, hdata⟩ := kept_cancel h
    refine ⟨tmrCancel s t, ls ++ rs, t :: ys, rfl, hkept, ?_, ?_, ?_⟩
    · have hperiod : period (s.list.cell t).data = 0 := if_neg hperiodic
      refine ⟨?_, fun p => ?_, fun p => ?_, fun p hp => ?_, fun p hp => ?_, fun p _ => ?_,
        fun p hp _ => ?_, fun p hp => ?_⟩
      · apply List.perm_middle.trans
        exact (List.perm_middle.append_right ys).symm
      · rw [hdata p]
        exact ⟨rfl, rfl, rfl⟩
      · rw [List.perm_middle.mem_iff, List.mem_cons, List.mem_singleton]
        constructor
        · intro hp
          refine ⟨Or.inr hp, ?_⟩
          rintro rfl
          exact absurd hp htout
        · rintro ⟨rfl | hp, hcalled⟩
          · exact absurd (hcalled rfl) hperiodic
          · exact hp
      · rw [List.mem_singleton.mp hp]
        exact ht
      · rw [hcount]
        split_ifs <;> omega
      · rw [timeOf, hdata p, hcount]
        split_ifs with hpt
        · rw [hpt, hperiod, Nat.mul_zero, Nat.add_zero]
          rfl
        · rw [Nat.zero_mul, Nat.add_zero]
          rfl
      · rw [List.mem_singleton.mp hp, hperiod, Nat.mul_zero, Nat.add_zero]
        exact hdue
      · rw [timeOf, hdata p] at hp
        exact hp
    · have hrest : work now (tmrCancel s t).list (ls ++ rs) = work now s.list (ls ++ rs) := by
        apply work_congr
        intro p _
        rw [timeOf, hdata p]
        rfl
      have hmiddle : (ls ++ t :: rs).Perm (t :: (ls ++ rs)) := List.perm_middle
      rw [hrest, work_perm hmiddle, work_cons]
      omega
    · rintro r rs0 rfl
      exact ⟨ls, rs0, rfl, List.Subset.refl rs0⟩

variable {actions : P → List Action}

/-- The callbacks of the timers that are due only reset periodic timers. -/
def Calm (now : IperfTime) (actions : P → List Action) (resets : ℕ → Prop) (s : Timers P)
    (xs : List ℕ) : Prop :=
  ∀ p ∈ xs, micros (timeOf s.list p) ≤ micros now → ∀ a ∈ actions (s.list.cell p).data.timerProc,
    Harmless resets s xs p a

/-- One round of the loop of `tmr_run`. -/
theorem ran_round (hnow : Moment longest now) (h : Kept longest s xs ys) (hn : xs.length < n)
    (ht : t ∈ xs) (hdue : micros (timeOf s.list t) ≤ micros now)
    (hcalm : Calm now actions resets s xs) :
    ∃ s1 s' xs' ys', (actions (s.list.cell t).data.timerProc).foldlM (act n now) s = some s1 ∧
      afterCall n s1 t = some s' ∧ Kept longest s' xs' ys' ∧ Ran resets now s xs ys [t] s' xs' ys' ∧
      work now s'.list xs' < work now s.list xs := by
  obtain ⟨s1, xs1, hs1, hkept1, hran1, hwork1, htime1⟩ := ran_callback hnow _ h hn (hcalm t ht hdue)
  have ht1 : t ∈ xs1 := by
    rw [hran1.active]
    exact ⟨ht, fun hmem => absurd hmem List.not_mem_nil⟩
  have hlength : xs1.length = xs.length := by
    have := hran1.perm.length_eq
    simp only [List.length_append] at this
    omega
  obtain ⟨ls, rs, rfl⟩ := List.append_of_mem ht1
  obtain ⟨s', xs', ys', hs', hkept', hran', hwork', -⟩ :=
      ran_afterCall resets hnow hkept1 (hlength ▸ hn) (by
    rw [timeOf, htime1]
    exact hdue)
  exact ⟨s1, s', xs', ys', hs1, hs', hkept', hran1.trans hran', lt_of_lt_of_le hwork' hwork1⟩

/-- A later part of a run finds the callbacks as calm as they were, as long as no timer that they
reset is retired. -/
theorem calm_ran {s' : Timers P} {xs' ys' calls : List ℕ}
    (h : Ran resets now s xs ys calls s' xs' ys')
    (hcalm : Calm now actions resets s xs) : Calm now actions resets s' xs' := by
  intro p hp hdue a ha
  rw [(h.same p).1] at ha
  obtain ⟨r, rfl, hrp, hr, hperiodic, hreset⟩ :=
    (hcalm p ((h.active p).mp hp).1 (h.undue p hdue) a ha).reset
  exact ⟨r, rfl, hrp, (h.active r).mpr ⟨hr, fun _ => hperiodic⟩, (h.same r).2.2.trans hperiodic,
    hreset⟩

/-- The loop returns, whatever timer it is at. -/
theorem ran_loop (hnow : Moment longest now) (k : ℕ) (next : Option ℕ) (h : Kept longest s xs ys)
    (hn : xs.length < n) (hnext : ∀ t, next = some t → t ∈ xs)
    (hcalm : Calm now actions resets s xs) (hk : work now s.list xs < k) :
    ∃ s' calls xs' ys', runLoop actions n now k next s = some (s', calls) ∧
      Kept longest s' xs' ys' ∧ Ran resets now s xs ys calls s' xs' ys' := by
  induction k generalizing s xs ys next with
  | zero => exact absurd hk (Nat.not_lt_zero _)
  | succ k ih =>
    cases next with
    | none => exact ⟨s, [], xs, ys, rfl, h, .refl s xs ys⟩
    | some t =>
      have ht := hnext t rfl
      rw [runLoop]
      split_ifs with hlate
      · exact ⟨s, [], xs, ys, rfl, h, .refl s xs ys⟩
      · have hdue : micros (timeOf s.list t) ≤ micros now := by
          have hnormal : Normal (timeOf s.list t) := (h.regular t ht).normal
          rw [compare_pos_iff hnormal hnow.normal] at hlate
          exact not_lt.mp hlate
        obtain ⟨s1, s2, xs2, ys2, hs1, hs2, hkept2, hran2, hwork2⟩ :=
          ran_round (n := n) hnow h hn ht hdue hcalm
        have hnext2 : ∀ r, (s.list.cell t).next = some r → r ∈ xs2 := by
          intro r hr
          obtain ⟨ls, rs, rfl⟩ := List.append_of_mem ht
          have hrs := (neighbours h.linked.active).2.2
          rw [hr] at hrs
          have hmem := head_mem hrs
          have hrt : r ≠ t := by
            rintro rfl
            have hnodup := (List.nodup_append.mp (List.nodup_append.mp h.linked.nodup).1).2.1
            exact (List.nodup_cons.mp hnodup).1 hmem
          refine (hran2.active r).mpr ⟨List.mem_append_right ls (List.mem_cons_of_mem t hmem),
            fun hcalled => ?_⟩
          exact absurd (List.mem_singleton.mp hcalled) hrt
        have hlength : xs2.length ≤ xs.length := by
          have hsub : xs2 ⊆ xs := fun p hp => ((hran2.active p).mp hp).1
          exact (List.subperm_of_subset (List.nodup_append.mp hkept2.linked.nodup).1 hsub).length_le
        obtain ⟨s', calls, xs', ys', hloop, hkept', hran'⟩ :=
          ih (s.list.cell t).next hkept2 (lt_of_le_of_lt hlength hn) hnext2
          (calm_ran hran2 hcalm) (by omega)
        refine ⟨s', t :: calls, xs', ys', ?_, hkept', hran2.trans hran'⟩
        simp [hs1, hs2, hloop]

/-- Where no callback of a timer that is due touches another timer, the loop calls all that are due
from where it is. -/
theorem due_called (hnow : Moment longest now) (k : ℕ) (h : Kept longest s (ls ++ t :: rs) ys)
    (hn : (ls ++ t :: rs).length < n)
    (hquiet : ∀ p ∈ ls ++ t :: rs, micros (timeOf s.list p) ≤ micros now →
      actions (s.list.cell p).data.timerProc = [])
    {s' : Timers P} {calls : List ℕ}
    (hloop : runLoop actions n now k (some t) s = some (s', calls)) :
    ∀ p ∈ t :: rs, micros (timeOf s.list p) ≤ micros now → p ∈ calls := by
  induction k generalizing s ls t rs ys calls with
  | zero => cases hloop
  | succ k ih =>
    have ht : t ∈ ls ++ t :: rs := List.mem_append_right ls List.mem_cons_self
    have hnormal : Normal (timeOf s.list t) := (h.regular t ht).normal
    have hbehind := (List.pairwise_cons.mp (List.pairwise_append.mp h.sorted).2.1).1
    rw [runLoop] at hloop
    split_ifs at hloop with hlate
    · rw [compare_pos_iff hnormal hnow.normal] at hlate
      intro p hp hdue
      rcases List.mem_cons.mp hp with rfl | hp
      · omega
      · have := hbehind p hp
        omega
    · rw [compare_pos_iff hnormal hnow.normal, not_lt] at hlate
      obtain ⟨s2, xs2, ys2, hs2, hkept2, hran2, -, hplace⟩ :=
        ran_afterCall (fun _ => False) hnow h hn hlate
      rw [hquiet t ht hlate] at hloop
      simp only [List.foldlM_nil, Option.pure_def, Option.bind_eq_bind, Option.bind_some,
        hs2] at hloop
      obtain ⟨run, hrun, hsome⟩ := Option.bind_eq_some_iff.mp hloop
      cases hsome
      intro p hp hdue
      rcases List.mem_cons.mp hp with rfl | hprs
      · exact List.mem_cons_self
      · apply List.mem_cons_of_mem
        cases rs with
        | nil => cases hprs
        | cons r rs0 =>
          obtain ⟨ls', rs', rfl, hsub⟩ := hplace r rs0 rfl
          have hnext : (s.list.cell t).next = some r := (neighbours h.linked.active).2.2.1
          rw [hnext] at hrun
          have hpt : p ≠ t := by
            rintro rfl
            have hnodup := (List.nodup_append.mp (List.nodup_append.mp h.linked.nodup).1).2.1
            exact (List.nodup_cons.mp hnodup).1 hprs
          have hcount : [t].count p = 0 :=
            List.count_eq_zero_of_not_mem fun hmem => hpt (List.mem_singleton.mp hmem)
          have htime := hran2.time p id
          rw [hcount, Nat.zero_mul, Nat.add_zero] at htime
          apply ih hkept2 _ _ hrun p _ (by rw [htime]; exact hdue)
          · have hsubset : ls' ++ r :: rs' ⊆ ls ++ t :: r :: rs0 :=
              fun x hx => ((hran2.active x).mp hx).1
            exact lt_of_le_of_lt (List.subperm_of_subset
              (List.nodup_append.mp hkept2.linked.nodup).1 hsubset).length_le hn
          · intro x hx hxdue
            rw [(hran2.same x).1]
            exact hquiet x ((hran2.active x).mp hx).1 (hran2.undue x hxdue)
          · rcases List.mem_cons.mp hprs with rfl | hprs0
            · exact List.mem_cons_self
            · exact List.mem_cons_of_mem r (hsub hprs0)

end loop

end IperfTimer

end MmWaveTracker
