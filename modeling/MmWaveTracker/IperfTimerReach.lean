import MmWaveTracker.EventRun
import MmWaveTracker.IperfTimerRuns

/-! The timers of a process: whatever is created, reset, cancelled and run, in any order, with
callbacks that do to other timers what those of a client do: they reset periodic ones. -/
namespace MmWaveTracker

namespace IperfTimer

open LinkedCells

variable {P : Type}

section enough

/-! A loop that has returned returns the same when it may take more rounds. -/

variable {n m : ℕ} {now : IperfTime}

theorem findPlace_mono (hnm : n ≤ m) {c c' : Chain ℕ (Timer P)} {t t2prev : ℕ} {t2 : Option ℕ}
    (h : findPlace c t n t2prev t2 = some c') : findPlace c t m t2prev t2 = some c' := by
  induction n generalizing m t2prev t2 with
  | zero => cases h
  | succ n ih =>
    obtain ⟨m, rfl⟩ := Nat.exists_eq_succ_of_ne_zero (by omega : m ≠ 0)
    cases t2 with
    | none =>
      rw [findPlace] at h ⊢
      exact h
    | some t2 =>
      rw [findPlace] at h ⊢
      split_ifs at h ⊢
      · exact h
      · exact ih (by omega) h

theorem listAdd_mono (hnm : n ≤ m) {c c' : Chain ℕ (Timer P)} {t : ℕ}
    (h : listAdd n c t = some c') : listAdd m c t = some c' := by
  unfold listAdd at h ⊢
  cases hfirst : c.first with
  | none =>
    rw [hfirst] at h
    exact h
  | some first =>
    simp only [hfirst] at h ⊢
    split_ifs at h ⊢
    · exact h
    · exact findPlace_mono hnm h

theorem schedule_mono (hnm : n ≤ m) {s s' : Timers P} {t : ℕ} {timerProc : P} {usecs : Int64}
    {periodic : Bool} (h : schedule n s t now timerProc usecs periodic = some s') :
    schedule m s t now timerProc usecs periodic = some s' := by
  obtain ⟨c, hc, rfl⟩ := Option.map_eq_some_iff.mp h
  rw [schedule, listAdd_mono hnm hc]
  rfl

theorem tmrReset_mono (hnm : n ≤ m) {s s' : Timers P} {t : ℕ} (h : tmrReset n s now t = some s') :
    tmrReset m s now t = some s' := by
  obtain ⟨c, hc, rfl⟩ := Option.map_eq_some_iff.mp h
  rw [tmrReset, listResort, listAdd_mono hnm hc]
  rfl

theorem tmrCreate_mono (hnm : n ≤ m) {s : Timers P} {malloc : Option ℕ} {timerProc : P}
    {usecs : Int64} {periodic : Bool} {result : Timers P × Option ℕ}
    (h : tmrCreate n s malloc now timerProc usecs periodic = some result) :
    tmrCreate m s malloc now timerProc usecs periodic = some result := by
  unfold tmrCreate at h ⊢
  cases hfree : s.freeTimers with
  | some t =>
    simp only [hfree] at h ⊢
    obtain ⟨s', hs', rfl⟩ := Option.map_eq_some_iff.mp h
    rw [schedule_mono hnm hs']
    rfl
  | none =>
    cases malloc with
    | none =>
      simp only [hfree] at h ⊢
      exact h
    | some t =>
      simp only [hfree] at h ⊢
      obtain ⟨s', hs', rfl⟩ := Option.map_eq_some_iff.mp h
      rw [schedule_mono hnm hs']
      rfl

theorem foldlM_act_mono (hnm : n ≤ m) (actions : List Action) {s s' : Timers P}
    (h : actions.foldlM (act n now) s = some s') : actions.foldlM (act m now) s = some s' := by
  induction actions generalizing s with
  | nil => exact h
  | cons a actions ih =>
    rw [List.foldlM_cons] at h ⊢
    obtain ⟨s1, hs1, hrest⟩ := Option.bind_eq_some_iff.mp h
    have hact : act m now s a = some s1 := by
      cases a with
      | reset t => exact tmrReset_mono hnm hs1
      | cancel t => exact hs1
    rw [hact]
    exact ih hrest

theorem afterCall_mono (hnm : n ≤ m) {s s' : Timers P} {t : ℕ} (h : afterCall n s t = some s') :
    afterCall m s t = some s' := by
  unfold afterCall at h ⊢
  split_ifs at h ⊢
  · obtain ⟨c, hc, rfl⟩ := Option.map_eq_some_iff.mp h
    rw [listResort, listAdd_mono hnm hc]
    rfl
  · exact h

theorem runLoop_mono (hnm : n ≤ m) {actions : P → List Action} {k l : ℕ} (hkl : k ≤ l)
    {next : Option ℕ} {s : Timers P} {result : Timers P × List ℕ}
    (h : runLoop actions n now k next s = some result) :
    runLoop actions m now l next s = some result := by
  induction k generalizing l next s result with
  | zero =>
    cases next with
    | none =>
      cases l <;> exact h
    | some t => cases h
  | succ k ih =>
    obtain ⟨l, rfl⟩ := Nat.exists_eq_succ_of_ne_zero (by omega : l ≠ 0)
    cases next with
    | none => exact h
    | some t =>
      rw [runLoop] at h ⊢
      split_ifs at h ⊢ with hlate
      · exact h
      · obtain ⟨s1, hs1, h⟩ := Option.bind_eq_some_iff.mp h
        obtain ⟨s2, hs2, h⟩ := Option.bind_eq_some_iff.mp h
        obtain ⟨run, hrun, h⟩ := Option.bind_eq_some_iff.mp h
        rw [foldlM_act_mono hnm _ hs1, Option.bind_eq_bind, Option.bind_some,
          afterCall_mono hnm hs2, Option.bind_some, ih (by omega) hrun]
        exact h

end enough

section process

/-- The timers, the cells that `malloc` has returned, and the callbacks so far. -/
structure Process (P : Type) where
  timers : Timers P
  allocated : List ℕ
  calls : List ℕ

inductive Op (P : Type) where
  | create (malloc : Option ℕ) (now : IperfTime) (timerProc : P) (usecs : Int64) (periodic : Bool)
  | reset (now : IperfTime) (t : ℕ)
  | cancel (t : ℕ)
  | run (actions : P → List Action) (now : IperfTime)

/-- `malloc` is only asked when no timer is free. -/
def takes (s : Timers P) (malloc : Option ℕ) : List ℕ :=
  if s.freeTimers.isSome then [] else malloc.toList

def step (n k : ℕ) (r : Process P) : Op P → Option (Process P)
  | .create malloc now timerProc usecs periodic =>
    (tmrCreate n r.timers malloc now timerProc usecs periodic).map fun result =>
      {r with timers := result.1, allocated := takes r.timers malloc ++ r.allocated}
  | .reset now t => (tmrReset n r.timers now t).map fun s => {r with timers := s}
  | .cancel t => some {r with timers := tmrCancel r.timers t}
  | .run actions now =>
    (tmrRun actions n k r.timers now).map fun result =>
    {r with timers := result.1, calls := r.calls ++ result.2}

def Active (s : Timers P) (t : ℕ) : Prop :=
  ∃ xs, Segment s.list.cell none s.list.first xs none ∧ t ∈ xs

/-- The operations that this development speaks of: only timers that are active are reset and
cancelled, periods are positive, and callbacks do nothing but reset periodic timers other than their
own. All callbacks of a client keep to that. Left out are `server_timer_proc`, which cancels the
timers of the streams in the middle of `tmr_run` (see `cancelled_next_loses_timer`), and a period of
0, which `--pacing-timer 0` would give. -/
def Allowed (longest : ℕ) (r : Process P) : Op P → Prop
  | .create malloc now _ usecs periodic =>
    Moment longest now ∧ (∀ t, malloc = some t → t ∉ r.allocated) ∧ 0 ≤ usecs.toInt ∧
      usecs.toInt ≤ longest ∧ (periodic = true → 0 < usecs.toInt)
  | .reset now t => Moment longest now ∧ Active r.timers t
  | .cancel t => Active r.timers t
  | .run actions now =>
    Moment longest now ∧ ∀ p, Active r.timers p → micros (timeOf r.timers.list p) ≤ micros now →
      ∀ a ∈ actions (r.timers.list.cell p).data.timerProc,
        ∃ q, a = .reset q ∧ q ≠ p ∧ Active r.timers q ∧ (r.timers.list.cell q).data.periodic = true

inductive Reached (longest : ℕ) : Process P → Prop where
  | start (cell : ℕ → Cell ℕ (Timer P)) : Reached longest ⟨noTimers cell, [], []⟩
  | step {r r' : Process P} (op : Op P) (n k : ℕ) (hr : Reached longest r)
      (hop : Allowed longest r op) (h : step n k r op = some r') : Reached longest r'

/-- Every cell is in one of the two lists. -/
structure Good (longest : ℕ) (r : Process P) (xs ys : List ℕ) : Prop where
  kept : Kept longest r.timers xs ys
  cells : (xs ++ ys).Perm r.allocated

theorem active_iff_of_segment {s : Timers P} {xs : List ℕ}
    (h : Segment s.list.cell none s.list.first xs none) (t : ℕ) :
    Active s t ↔ t ∈ xs := by
  constructor
  · rintro ⟨xs', hsegment, hmem⟩
    rw [segment_unique h hsegment]
    exact hmem
  · intro hmem
    exact ⟨xs, h, hmem⟩

theorem Good.active_iff {longest : ℕ} {r : Process P} {xs ys : List ℕ} (h : Good longest r xs ys)
    (t : ℕ) : Active r.timers t ↔ t ∈ xs := active_iff_of_segment h.kept.linked.active t

variable {longest n k : ℕ} {r r' : Process P} {xs ys : List ℕ}

theorem kept_schedule {s : Timers P} {t : ℕ} {now : IperfTime} (timerProc : P) {usecs : Int64}
    {periodic : Bool} (hnow : Moment longest now) (h : Kept longest s xs ys) (ht : t ∉ xs ++ ys)
    (hnonneg : 0 ≤ usecs.toInt)
    (hlongest : usecs.toInt ≤ longest) (hperiod : periodic = true → 0 < usecs.toInt)
    (hn : xs.length < n) :
    ∃ s', schedule n s t now timerProc usecs periodic = some s' ∧
      Kept longest s' (place s'.list t xs) ys ∧ ∀ p, p ≠ t →
        (s'.list.cell p).data = (s.list.cell p).data := by
  obtain ⟨s', hs', hlinked, hdata⟩ := linked_schedule n now timerProc usecs periodic h.linked ht hn
  have hwait : Regular longest (⟨timerProc, usecs, periodic, now⟩ : Timer P) :=
    ⟨hnow.normal, hnonneg, hlongest, hperiod⟩
  have hle := (toNat_usecs hwait).2
  have hend := hnow.early
  obtain ⟨hnormal, -⟩ := addUsecs_spec usecs.toUInt64 hnow.normal (by
    dsimp only at hle
    omega)
  have hother (p : ℕ) (hp : p ≠ t) : (s'.list.cell p).data = (s.list.cell p).data := by
    rw [hdata p, if_neg hp]
  have hne (p : ℕ) (hp : p ∈ xs) : p ≠ t := by
    rintro rfl
    exact ht (List.mem_append_left ys hp)
  have hregular : ∀ p ∈ t :: xs, Regular longest (s'.list.cell p).data := by
    intro p hp
    rcases List.mem_cons.mp hp with rfl | hp
    · rw [hdata p, if_pos rfl]
      exact ⟨hnormal, hnonneg, hlongest, hperiod⟩
    · rw [hother p (hne p hp)]
      exact h.regular p hp
  refine ⟨s', hs', ⟨hlinked, ?_, fun p hp => hregular p (perm_place.mem_iff.mp hp)⟩, hother⟩
  apply sorted_place fun p hp => (hregular p hp).normal
  apply sorted_congr _ h.sorted
  intro p hp
  rw [timeOf, hother p (hne p hp)]
  rfl

/-- `tmr_create` takes a free timer, or else one that `malloc` returns. -/
theorem good_create (malloc : Option ℕ) (now : IperfTime) (timerProc : P) (usecs : Int64)
    (periodic : Bool) (h : Good longest r xs ys)
    (hop : Allowed longest r (.create malloc now timerProc usecs periodic)) (hn : xs.length < n) :
    ∃ r' xs' ys', step n k r (.create malloc now timerProc usecs periodic) = some r' ∧
      Good longest r' xs' ys' ∧ ∀ p ∈ xs, p ∈ xs' ∧
        (r'.timers.list.cell p).data = (r.timers.list.cell p).data := by
  obtain ⟨hnow, hmalloc, hnonneg, hlongest, hperiod⟩ := hop
  have hfree := h.kept.linked.free
  have hstays {s' : Timers P} {t : ℕ} (ht : t ∉ xs) (hother : ∀ p, p ≠ t →
      (s'.list.cell p).data = (r.timers.list.cell p).data) :
      ∀ p ∈ xs, p ∈ place s'.list t xs ∧ (s'.list.cell p).data = (r.timers.list.cell p).data := by
    intro p hp
    refine ⟨(mem_place p).mpr (Or.inr hp), hother p ?_⟩
    rintro rfl
    exact ht hp
  cases ys with
  | nil =>
    have hnone : r.timers.freeTimers = none := hfree
    cases malloc with
    | none =>
      refine ⟨r, xs, [], ?_, h, fun p hp => ⟨hp, rfl⟩⟩
      simp [step, tmrCreate, hnone, takes]
    | some t =>
      have hout : t ∉ xs ++ [] := fun hmem => hmalloc t rfl (h.cells.mem_iff.mp hmem)
      obtain ⟨s', hs', hkept, hother⟩ :=
        kept_schedule timerProc hnow h.kept hout hnonneg hlongest hperiod hn
      refine ⟨⟨s', t :: r.allocated, r.calls⟩, place s'.list t xs, [], ?_, ⟨hkept, ?_⟩,
        hstays (fun hmem => hout (List.mem_append_left [] hmem)) hother⟩
      · simp [step, tmrCreate, hnone, takes, hs']
      · exact (perm_place.append_right []).trans (h.cells.cons t)
  | cons t ys =>
    obtain ⟨hsome, htail⟩ := hfree
    have hperm : (xs ++ t :: ys).Perm (t :: (xs ++ ys)) := List.perm_middle
    obtain ⟨hout, hnodup⟩ := List.nodup_cons.mp (hperm.nodup_iff.mp h.kept.linked.nodup)
    have hrest : Kept longest {r.timers with freeTimers := (r.timers.list.cell t).next} xs ys :=
      ⟨⟨h.kept.linked.active, htail, hnodup⟩, h.kept.sorted, h.kept.regular⟩
    obtain ⟨s', hs', hkept, hother⟩ :=
      kept_schedule timerProc hnow hrest hout hnonneg hlongest hperiod hn
    refine ⟨⟨s', r.allocated, r.calls⟩, place s'.list t xs, ys, ?_, ⟨hkept, ?_⟩,
      hstays (fun hmem => hout (List.mem_append_left ys hmem)) hother⟩
    · simp [step, tmrCreate, hsome, takes, hs']
    · exact ((perm_place.append_right ys).trans hperm.symm).trans h.cells

theorem good_reset (now : IperfTime) (t : ℕ) (h : Good longest r xs ys)
    (hop : Allowed longest r (.reset now t)) (hn : xs.length < n) :
    ∃ r' xs', step n k r (.reset now t) = some r' ∧ Good longest r' xs' ys ∧
      ∀ p ∈ xs, p ∈ xs' ∧ (p ≠ t → (r'.timers.list.cell p).data = (r.timers.list.cell p).data) := by
  obtain ⟨hnow, hactive⟩ := hop
  obtain ⟨ls, rs, rfl⟩ := List.append_of_mem ((h.active_iff t).mp hactive)
  obtain ⟨s', hs', hkept, hdata, -⟩ := kept_reset hnow h.kept hn
  have hperm : (place s'.list t (ls ++ rs)).Perm (ls ++ t :: rs) :=
    perm_place.trans List.perm_middle.symm
  refine ⟨⟨s', r.allocated, r.calls⟩, place s'.list t (ls ++ rs), ?_,
    ⟨hkept, (hperm.append_right ys).trans h.cells⟩, ?_⟩
  · rw [step, hs']
    rfl
  · intro p hp
    exact ⟨hperm.mem_iff.mpr hp, fun hpt => by rw [hdata p, if_neg hpt]⟩

theorem good_cancel (t : ℕ) (h : Good longest r xs ys) (hop : Allowed longest r (.cancel t)) :
    ∃ r' xs' ys', step n k r (.cancel t) = some r' ∧ Good longest r' xs' ys' ∧
      ∀ p ∈ xs, p ≠ t → p ∈ xs' ∧ (r'.timers.list.cell p).data = (r.timers.list.cell p).data := by
  obtain ⟨ls, rs, rfl⟩ := List.append_of_mem ((h.active_iff t).mp hop)
  obtain ⟨hkept, hdata⟩ := kept_cancel h.kept
  refine ⟨⟨tmrCancel r.timers t, r.allocated, r.calls⟩, ls ++ rs, t :: ys, rfl, ⟨hkept, ?_⟩, ?_⟩
  · apply List.perm_middle.trans
    exact (List.perm_middle.append_right ys).symm.trans h.cells
  · intro p hp hpt
    exact ⟨(List.mem_cons.mp (List.perm_middle.mem_iff.mp hp)).resolve_left hpt, hdata p⟩

/-- The timers that the callbacks of those that are due reset. -/
def Resets (now : IperfTime) (actions : P → List Action) (s : Timers P) (q : ℕ) : Prop :=
  ∃ p, Active s p ∧ micros (timeOf s.list p) ≤ micros now ∧
    Action.reset q ∈ actions (s.list.cell p).data.timerProc

section quiet

variable {now : IperfTime} {actions : P → List Action}
  (hquiet : ∀ t, Active r.timers t → micros (timeOf r.timers.list t) ≤ micros now →
    actions (r.timers.list.cell t).data.timerProc = [])

include hquiet

theorem allowed_of_quiet (hnow : Moment longest now) :
    Allowed longest r (.run actions now) := by
  refine ⟨hnow, fun p hp hdue a ha => ?_⟩
  rw [hquiet p hp hdue] at ha
  cases ha

theorem not_resets_of_quiet (q : ℕ) : ¬Resets now actions r.timers q := by
  rintro ⟨p, hp, hdue, hreset⟩
  rw [hquiet p hp hdue] at hreset
  cases hreset

end quiet

theorem good_run (actions : P → List Action) (now : IperfTime) (h : Good longest r xs ys)
    (hop : Allowed longest r (.run actions now)) (hn : xs.length < n)
    (hk : work now r.timers.list xs < k) :
    ∃ r' xs' ys' calls, step n k r (.run actions now) = some r' ∧ Good longest r' xs' ys' ∧
      r'.calls = r.calls ++ calls ∧
        Ran (Resets now actions r.timers) now r.timers xs ys calls r'.timers xs' ys' := by
  obtain ⟨hnow, hactions⟩ := hop
  have hcalm : Calm now actions (Resets now actions r.timers) r.timers xs := by
    intro p hp hdue a ha
    obtain ⟨q, rfl, hqp, hq, hperiodic⟩ := hactions p ((h.active_iff p).mpr hp) hdue a ha
    exact ⟨q, rfl, hqp, (h.active_iff q).mp hq, hperiodic, p, (h.active_iff p).mpr hp, hdue, ha⟩
  have hfirst : ∀ t, r.timers.list.first = some t → t ∈ xs := by
    intro t ht
    have hactive := h.kept.linked.active
    rw [ht] at hactive
    exact head_mem hactive
  obtain ⟨s', calls, xs', ys', hloop, hkept, hran⟩ :=
    ran_loop hnow k r.timers.list.first h.kept hn hfirst hcalm hk
  refine ⟨⟨s', r.allocated, r.calls ++ calls⟩, xs', ys', calls, ?_,
    ⟨hkept, hran.perm.trans h.cells⟩, rfl, hran⟩
  rw [step, tmrRun, hloop]
  rfl

/-- Every allowed operation returns and leaves two good lists. -/
theorem good_returns (op : Op P) (h : Good longest r xs ys) (hop : Allowed longest r op) :
    ∃ n k r' xs' ys', step n k r op = some r' ∧ Good longest r' xs' ys' := by
  refine ⟨xs.length+1, ?_⟩
  cases op with
  | create malloc now timerProc usecs periodic =>
    obtain ⟨r', xs', ys', hstep, hgood, -⟩ :=
      good_create (k := 0) malloc now timerProc usecs periodic h hop (Nat.lt_succ_self _)
    exact ⟨0, r', xs', ys', hstep, hgood⟩
  | reset now t =>
    obtain ⟨r', xs', hstep, hgood, -⟩ := good_reset (k := 0) now t h hop (Nat.lt_succ_self _)
    exact ⟨0, r', xs', ys, hstep, hgood⟩
  | cancel t =>
    obtain ⟨r', xs', ys', hstep, hgood, -⟩ := good_cancel (n := xs.length+1) (k := 0) t h hop
    exact ⟨0, r', xs', ys', hstep, hgood⟩
  | run actions now =>
    obtain ⟨r', xs', ys', -, hstep, hgood, -⟩ :=
      good_run actions now h hop (Nat.lt_succ_self _) (Nat.lt_succ_self _)
    exact ⟨_, r', xs', ys', hstep, hgood⟩

theorem step_mono {m l : ℕ} (hnm : n ≤ m) (hkl : k ≤ l) (op : Op P) (h : step n k r op = some r') :
    step m l r op = some r' := by
  cases op with
  | create malloc now timerProc usecs periodic =>
    obtain ⟨result, hresult, rfl⟩ := Option.map_eq_some_iff.mp h
    rw [step, tmrCreate_mono hnm hresult]
    rfl
  | reset now t =>
    obtain ⟨s, hs, rfl⟩ := Option.map_eq_some_iff.mp h
    rw [step, tmrReset_mono hnm hs]
    rfl
  | cancel t => exact h
  | run actions now =>
    obtain ⟨result, hresult, rfl⟩ := Option.map_eq_some_iff.mp h
    rw [step, tmrRun, runLoop_mono hnm hkl hresult]
    rfl

/-- However many rounds the loops may take, an operation that returns does so with the same
result. -/
theorem step_unique {m l : ℕ} {op : Op P} {r'' : Process P} (h : step n k r op = some r')
    (h' : step m l r op = some r'') : r' = r'' := by
  have hleft := step_mono (le_max_left n m) (le_max_left k l) op h
  have hright := step_mono (le_max_right n m) (le_max_right k l) op h'
  exact Option.some.inj (hleft.symm.trans hright)

theorem reached_good (h : Reached longest r) : ∃ xs ys, Good longest r xs ys := by
  induction h with
  | start cell =>
    have hnone : (noTimers cell).list.first = none := rfl
    refine ⟨[], [], ⟨⟨hnone, rfl, List.nodup_nil⟩, List.Pairwise.nil, fun p hp =>
      absurd hp List.not_mem_nil⟩, .refl _⟩
  | step op n k _ hop hstep ih =>
    obtain ⟨xs, ys, hgood⟩ := ih
    obtain ⟨m, l, r'', xs', ys', hreturns, hgood'⟩ := good_returns op hgood hop
    cases step_unique hstep hreturns
    exact ⟨xs', ys', hgood'⟩

end process

section examples

/-- The callbacks of a client; the one at the end of the omitted time resets the timers 2 and 3. -/
inductive ClientProc where
  | test
  | stats
  | reporter
  | send
  | omitted
  deriving DecidableEq

def clientProcs : ClientProc → List Action
  | .omitted => [.reset 2, .reset 3]
  | _ => []

/-- A process before its first timer. -/
def noProcess : Process ClientProc :=
  ⟨noTimers fun _ => ⟨none, none, ⟨.test, 0, false, ⟨0, 0⟩⟩⟩, [], []⟩

/-- Timers in new cells. -/
def creations (now : IperfTime) (timers : List (ℕ × P × Int64 × Bool)) : List (Op P) :=
  timers.map fun (t, timerProc, usecs, periodic) => .create (some t) now timerProc usecs periodic

/-- A test of one second after one that is omitted, with one stream. -/
def clientTimers : List (Op ClientProc) :=
  creations ⟨100, 0⟩ [(1, .test, 2000000, false), (2, .stats, 1000000, true),
    (3, .reporter, 1000000, true), (4, .send, 500000, true), (5, .omitted, 1000000, false)]

def atStart : Process ClientProc := (runEvents (step 6 20) noProcess clientTimers).getD noProcess

/-- A quarter of a second after the omitted time. -/
def afterOmitted : Process ClientProc :=
  (step 6 20 atStart (.run clientProcs ⟨101, 250000⟩)).getD noProcess

def atEnd : Process ClientProc :=
  (step 6 20 afterOmitted (.run clientProcs ⟨102, 0⟩)).getD noProcess

theorem eq_some_getD {α : Type} {o : Option α} (a : α) (h : o.isSome = true) :
    o = some (o.getD a) := by
  exact (Option.getD_of_ne_none (Option.isSome_iff_ne_none.mp h) a).symm

theorem moment_at (secs usecs : UInt32) (hsecs : secs.toNat < 1000)
    (husecs : usecs.toNat < 1000000) : Moment 10000000 ⟨secs, usecs⟩ where
  normal := husecs
  early := by
    show secs.toNat*1000000+usecs.toNat+10000000 < clockEnd
    unfold clockEnd
    omega

theorem reached_run {longest n k : ℕ} {r r' : Process P} (ops : List (Op P))
    (hr : Reached longest r) (hok : Along (step n k) (Allowed longest) r ops)
    (h : runEvents (step n k) r ops = some r') : Reached longest r' :=
  runEvents_invariant (step n k) (Allowed longest) (Reached longest)
    (fun _ op _ hop hstep hreached => hreached.step op n k hop hstep) ops r r' hok h hr

theorem along_creations {longest n k : ℕ} {r : Process P} {now : IperfTime}
    (timers : List (ℕ × P × Int64 × Bool)) (hnow : Moment longest now)
    (hnodup : (timers.map Prod.fst).Nodup) (hnew : ∀ t ∈ timers.map Prod.fst, t ∉ r.allocated)
    (hwait : ∀ timer ∈ timers, 0 ≤ timer.2.2.1.toInt ∧ timer.2.2.1.toInt ≤ longest ∧
      (timer.2.2.2 = true → 0 < timer.2.2.1.toInt)) :
    Along (step n k) (Allowed longest) r (creations now timers) := by
  induction timers generalizing r with
  | nil => exact trivial
  | cons timer timers ih =>
    obtain ⟨hout, hnodup⟩ := List.nodup_cons.mp hnodup
    refine ⟨⟨hnow, ?_, hwait timer List.mem_cons_self⟩, fun r' hstep => ?_⟩
    · rintro t ⟨rfl⟩
      exact hnew timer.1 List.mem_cons_self
    · obtain ⟨result, -, rfl⟩ := Option.map_eq_some_iff.mp hstep
      refine ih hnodup (fun t ht hmem => ?_) fun timer hmem =>
        hwait timer (List.mem_cons_of_mem _ hmem)
      rcases List.mem_append.mp hmem with hmem | hmem
      · unfold takes at hmem
        split_ifs at hmem
        · cases hmem
        · obtain rfl : t = timer.1 := List.mem_singleton.mp hmem
          exact hout ht
      · exact hnew t (List.mem_cons_of_mem _ ht) hmem

theorem step_atStart : runEvents (step 6 20) noProcess clientTimers = some atStart :=
  eq_some_getD noProcess (by decide +kernel)

theorem step_afterOmitted :
    step 6 20 atStart (.run clientProcs ⟨101, 250000⟩) = some afterOmitted :=
  eq_some_getD noProcess (by decide +kernel)

theorem step_atEnd : step 6 20 afterOmitted (.run clientProcs ⟨102, 0⟩) = some atEnd :=
  eq_some_getD noProcess (by decide +kernel)

theorem reached_atStart : Reached 10000000 atStart := by
  have hnone : Reached 10000000 noProcess := .start _
  refine reached_run clientTimers hnone ?_ step_atStart
  exact along_creations _ (moment_at 100 0 (by decide) (by decide)) (by decide)
    (fun _ _ => List.not_mem_nil) (by decide)

theorem active_atStart (t : ℕ) : Active atStart.timers t ↔ t ∈ [4, 2, 3, 5, 1] :=
  active_iff_of_segment (by decide +kernel) t

theorem active_afterOmitted (t : ℕ) : Active afterOmitted.timers t ↔ t ∈ [4, 1, 2, 3] :=
  active_iff_of_segment (by decide +kernel) t

theorem allowed_afterOmitted : Allowed 10000000 atStart (.run clientProcs ⟨101, 250000⟩) := by
  refine ⟨moment_at 101 250000 (by decide) (by decide), fun p hp _ a ha => ?_⟩
  have hquiet : ∀ p ∈ [4, 2, 3, 1], clientProcs (atStart.timers.list.cell p).data.timerProc =
      [] := by decide +kernel
  have hresets : clientProcs (atStart.timers.list.cell 5).data.timerProc =
      [.reset 2, .reset 3] := by decide +kernel
  have hperiodic : ∀ q ∈ [2, 3], (atStart.timers.list.cell q).data.periodic = true := by
    decide +kernel
  by_cases hfive : p = 5
  · rw [hfive, hresets] at ha
    obtain ⟨q, hq, rfl⟩ : ∃ q ∈ [2, 3], a = .reset q := by simpa using ha
    have hother : ∀ q ∈ [2, 3], q ≠ 5 ∧ q ∈ [4, 2, 3, 5, 1] := by decide
    obtain ⟨hne, hmem⟩ := hother q hq
    exact ⟨q, rfl, hfive ▸ hne, (active_atStart q).mpr hmem, hperiodic q hq⟩
  · have hothers : ∀ q ∈ [4, 2, 3, 5, 1], q ≠ 5 → q ∈ [4, 2, 3, 1] := by decide
    rw [hquiet p (hothers p ((active_atStart p).mp hp) hfive)] at ha
    cases ha

theorem reached_afterOmitted : Reached 10000000 afterOmitted :=
  reached_atStart.step _ 6 20 allowed_afterOmitted step_afterOmitted

/-- The callbacks that are left do nothing to timers. -/
theorem quiet_afterOmitted (t : ℕ) (ht : Active afterOmitted.timers t) :
    clientProcs (afterOmitted.timers.list.cell t).data.timerProc = [] := by
  have hquiet : ∀ p ∈ [4, 1, 2, 3], clientProcs (afterOmitted.timers.list.cell p).data.timerProc =
      [] := by decide +kernel
  exact hquiet t ((active_afterOmitted t).mp ht)

end examples

section results

variable {longest n k : ℕ} {r r' : Process P}

/-- In every run the active timers form a list that is linked both ways and sorted, the others wait
in the list of free timers, no cell is lost or in both, and whatever is done next returns. -/
theorem timers_kept (h : Reached longest r) :
    (∃ xs ys, Segment r.timers.list.cell none r.timers.list.first xs none ∧
      Forward r.timers.list.cell r.timers.freeTimers ys ∧ (xs ++ ys).Perm r.allocated ∧
        (xs ++ ys).Nodup ∧
      Sorted r.timers.list xs) ∧
    ∀ op, Allowed longest r op → ∃ n k, (step n k r op).isSome := by
  obtain ⟨xs, ys, hgood⟩ := reached_good h
  have hlinked := hgood.kept.linked
  refine ⟨⟨xs, ys, hlinked.active, hlinked.free, hgood.cells, hlinked.nodup, hgood.kept.sorted⟩,
    fun op hop => ?_⟩
  obtain ⟨n, k, r', -, -, hstep, -⟩ := good_returns op hgood hop
  exact ⟨n, k, by rw [hstep]; rfl⟩

/-- The callback that ends the omitted time resets two timers while it runs. -/
theorem timers_kept_resets :
    (∃ xs ys, Segment atStart.timers.list.cell none atStart.timers.list.first xs none ∧
      Forward atStart.timers.list.cell atStart.timers.freeTimers ys ∧
        (xs ++ ys).Perm [5, 4, 3, 2, 1] ∧ (xs ++ ys).Nodup ∧
      Sorted atStart.timers.list xs) ∧
    ∃ n k, (step n k atStart (.run clientProcs ⟨101, 250000⟩)).isSome := by
  obtain ⟨hlists, hreturns⟩ := timers_kept reached_atStart
  have hcells : atStart.allocated = [5, 4, 3, 2, 1] := by decide +kernel
  rw [hcells] at hlists
  exact ⟨hlists, hreturns _ allowed_afterOmitted⟩

/-- The callbacks of a server; the one that gives up on a client cancels the timer of its stream. -/
inductive ServerProc where
  | giveUp
  | stats
  | send
  deriving DecidableEq

def serverProcs : ServerProc → List Action
  | .giveUp => [.cancel 2]
  | _ => []

def noServer : Process ServerProc :=
  ⟨noTimers fun _ => ⟨none, none, ⟨.stats, 0, false, ⟨0, 0⟩⟩⟩, [], []⟩

def serverTimers : List (Op ServerProc) :=
  creations ⟨100, 0⟩ [(1, .giveUp, 1000000, false), (2, .send, 1000000, true),
    (3, .stats, 5000000, true)]

def serving : Process ServerProc := (runEvents (step 6 20) noServer serverTimers).getD noServer

def gaveUp : Process ServerProc :=
  (step 6 20 serving (.run serverProcs ⟨101, 250000⟩)).getD noServer

theorem reached_serving : Reached 10000000 serving := by
  have hnone : Reached 10000000 noServer := .start _
  have hrun : runEvents (step 6 20) noServer serverTimers = some serving :=
    eq_some_getD noServer (by decide +kernel)
  refine reached_run serverTimers hnone ?_ hrun
  exact along_creations _ (moment_at 100 0 (by decide) (by decide)) (by decide)
    (fun _ _ => List.not_mem_nil) (by decide)

/-- A callback cancels the timer that `tmr_run` has saved as the next one: it is called all the same
and is in both lists from then on, and the timer behind it, which nobody has cancelled, is in
neither. -/
theorem cancelled_next_loses_timer : Reached 10000000 serving ∧
    step 6 20 serving (.run serverProcs ⟨101, 250000⟩) = some gaveUp ∧ gaveUp.calls = [1, 2] ∧
    Forward gaveUp.timers.list.cell gaveUp.timers.freeTimers [1, 2] ∧
    (∀ t, Active serving.timers t ↔ t ∈ [1, 2, 3]) ∧ ∀ t, Active gaveUp.timers t ↔ t ∈ [2] :=
  ⟨reached_serving, eq_some_getD noServer (by decide +kernel), by decide +kernel, by decide +kernel,
    active_iff_of_segment (by decide +kernel), active_iff_of_segment (by decide +kernel)⟩

/-- `select` waits exactly until the first timer is due, and for ever only if there is none. -/
theorem timeout_earliest (h : Reached longest r) (now : IperfTime) (hnow : Normal now) :
    (tmrTimeout r.timers now = none ↔ ∀ t, ¬Active r.timers t) ∧
      ∀ timeout, tmrTimeout r.timers now = some timeout → timeout.2 < 1000000 ∧
        (∃ t, Active r.timers t ∧
          timeout.1*1000000+timeout.2 = micros (timeOf r.timers.list t)-micros now) ∧
        ∀ t, Active r.timers t →
          timeout.1*1000000+timeout.2 ≤ micros (timeOf r.timers.list t)-micros now := by
  obtain ⟨xs, ys, hgood⟩ := reached_good h
  have hactive := hgood.kept.linked.active
  unfold tmrTimeout
  cases xs with
  | nil =>
    have hfirst : r.timers.list.first = none := hactive
    rw [hfirst]
    constructor
    · refine ⟨fun _ t ht => ?_, fun _ => rfl⟩
      exact absurd ((hgood.active_iff t).mp ht) List.not_mem_nil
    · intro timeout htimeout
      cases htimeout
  | cons first xs =>
    have hfirst : r.timers.list.first = some first := hactive.1
    have hmem : first ∈ first :: xs := List.mem_cons_self
    have hnormal : Normal (timeOf r.timers.list first) := (hgood.kept.regular first hmem).normal
    simp only [hfirst, Option.map_some, timeDiff_spec hnormal hnow]
    constructor
    · refine ⟨fun hnone => absurd hnone (Option.some_ne_none _), fun hnone => ?_⟩
      exact absurd ((hgood.active_iff first).mpr hmem) (hnone first)
    · intro timeout htimeout
      cases htimeout
      dsimp only
      refine ⟨Nat.mod_lt _ (by decide), ⟨first, (hgood.active_iff first).mpr hmem,
        Nat.div_add_mod' _ _⟩, fun t ht => ?_⟩
      rw [Nat.div_add_mod']
      rcases List.mem_cons.mp ((hgood.active_iff t).mp ht) with rfl | ht
      · exact le_rfl
      · exact Nat.sub_le_sub_right ((List.pairwise_cons.mp hgood.kept.sorted).1 t ht) _

theorem timeout_earliest_client : tmrTimeout afterOmitted.timers ⟨101, 300000⟩ = some (0, 200000) ∧
    (∃ t, Active afterOmitted.timers t ∧
      200000 = micros (timeOf afterOmitted.timers.list t)-101300000) ∧
    ∀ t, Active afterOmitted.timers t →
      200000 ≤ micros (timeOf afterOmitted.timers.list t)-101300000 := by
  have htimeout : tmrTimeout afterOmitted.timers ⟨101, 300000⟩ = some (0, 200000) := by
    decide +kernel
  have hnow : Normal ⟨101, 300000⟩ := by
    show (300000:UInt32).toNat < 1000000
    decide
  obtain ⟨-, hearliest, hbound⟩ :=
    (timeout_earliest reached_afterOmitted ⟨101, 300000⟩ hnow).2 (0, 200000) htimeout
  exact ⟨htimeout, hearliest, hbound⟩

/-- Where the callbacks leave the timers alone, `tmr_run` calls exactly the timers that are due;
those that run once are active no more, and every other one has been moved on by a period for every
call. -/
theorem run_calls_due (h : Reached longest r) (actions : P → List Action) (now : IperfTime)
    (hnow : Moment longest now) (hquiet : ∀ t, Active r.timers t →
      micros (timeOf r.timers.list t) ≤ micros now →
      actions (r.timers.list.cell t).data.timerProc = [])
    (hstep : step n k r (.run actions now) = some r') :
    ∃ calls, r'.calls = r.calls ++ calls ∧
      (∀ t, t ∈ calls ↔ Active r.timers t ∧ micros (timeOf r.timers.list t) ≤ micros now) ∧
      ∀ t, (Active r'.timers t ↔ Active r.timers t ∧
        (t ∈ calls → (r.timers.list.cell t).data.periodic = true)) ∧
        micros (timeOf r'.timers.list t) =
          micros (timeOf r.timers.list t)+calls.count t*period (r.timers.list.cell t).data := by
  obtain ⟨xs, ys, hgood⟩ := reached_good h
  have hop : Allowed longest r (.run actions now) := allowed_of_quiet hquiet hnow
  have hresets (t : ℕ) : ¬Resets now actions r.timers t := not_resets_of_quiet hquiet t
  obtain ⟨r'', xs', ys', calls, hreturns, hgood', hcalls, hran⟩ := good_run actions now hgood hop
    (Nat.lt_succ_self _) (Nat.lt_succ_self _)
  have hsame := step_unique hreturns hstep
  subst hsame
  refine ⟨calls, hcalls, fun t => ⟨fun ht => ?_, fun ht => ?_⟩, fun t =>
    ⟨?_, hran.time t (hresets t)⟩⟩
  · have hdue := hran.due t ht (hresets t)
    exact ⟨(hgood.active_iff t).mpr (hran.called t ht), by omega⟩
  · have hmem := (hgood.active_iff t).mp ht.1
    cases xs with
    | nil => cases hmem
    | cons first xs =>
      have hfirst : r.timers.list.first = some first := hgood.kept.linked.active.1
      obtain ⟨result, hresult, hprocess⟩ := Option.map_eq_some_iff.mp hreturns
      have hresultCalls : result.2 = calls := by
        have := congrArg Process.calls hprocess
        rw [hcalls] at this
        exact List.append_cancel_left this
      rw [tmrRun, hfirst] at hresult
      rw [← hresultCalls]
      have hkept : Kept longest r.timers ([] ++ first :: xs) ys := hgood.kept
      apply due_called hnow _ hkept (Nat.lt_succ_self _) _ hresult t hmem ht.2
      intro p hp hdue
      exact hquiet p ((hgood.active_iff p).mpr hp) hdue
  · rw [hgood'.active_iff, hgood.active_iff]
    exact hran.active t

/-- At the end of the test its timer is called and two that are not due are left. -/
theorem run_calls_due_client : ∃ calls, atEnd.calls = afterOmitted.calls ++ calls ∧
    (∀ t, t ∈ calls ↔ Active afterOmitted.timers t ∧
      micros (timeOf afterOmitted.timers.list t) ≤ 102000000) ∧
    1 ∈ calls ∧ ¬Active atEnd.timers 1 ∧ 2 ∉ calls ∧ Active atEnd.timers 2 := by
  have hnow : Moment 10000000 ⟨102, 0⟩ := moment_at 102 0 (by decide) (by decide)
  obtain ⟨calls, hcalls, hdue, hafter⟩ :=
    run_calls_due reached_afterOmitted clientProcs ⟨102, 0⟩ hnow
    (fun t ht _ => quiet_afterOmitted t ht) step_atEnd
  have hone : 1 ∈ calls := (hdue 1).mpr ⟨(active_afterOmitted 1).mpr (by decide), by decide +kernel⟩
  have hlate : ¬micros (timeOf afterOmitted.timers.list 2) ≤ micros ⟨102, 0⟩ := by decide +kernel
  have htwo : 2 ∉ calls := fun hmem => hlate ((hdue 2).mp hmem).2
  refine ⟨calls, hcalls, hdue, hone, fun hactive => ?_, htwo, ?_⟩
  · have hperiodic := ((hafter 1).1.mp hactive).2 hone
    exact absurd hperiodic (by decide +kernel)
  · exact (hafter 2).1.mpr ⟨(active_afterOmitted 2).mpr (by decide), fun hmem => absurd hmem htwo⟩

/-- The operations that leave the timer `p` to itself, with a clock that does not pass `last`. -/
def Spares (p last : ℕ) (r : Process P) : Op P → Prop
  | .create _ _ _ _ _ => True
  | .reset _ t => t ≠ p
  | .cancel t => t ≠ p
  | .run actions now => micros now ≤ last ∧ ¬Resets now actions r.timers p

inductive Later (longest p last : ℕ) (r : Process P) : Process P → Prop where
  | refl : Later longest p last r r
  | step {r' r'' : Process P} (op : Op P) (n k : ℕ) (h : Later longest p last r r')
      (hop : Allowed longest r' op) (hspares : Spares p last r' op)
        (hstep : step n k r' op = some r'') : Later longest p last r r''

/-- What is known of a timer that was left to itself. -/
structure OnTime (p last : ℕ) (r r' : Process P) (calls : List ℕ) : Prop where
  called : r'.calls = r.calls ++ calls
  same : (r'.timers.list.cell p).data.usecs = (r.timers.list.cell p).data.usecs ∧
    (r'.timers.list.cell p).data.periodic = (r.timers.list.cell p).data.periodic
  time : micros (timeOf r'.timers.list p) =
    micros (timeOf r.timers.list p)+calls.count p*period (r.timers.list.cell p).data
  due : p ∈ calls → micros (timeOf r.timers.list p)+(calls.count p-1)*period
    (r.timers.list.cell p).data ≤ last

/-- An operation that calls nothing and leaves the data of `p` alone. -/
theorem OnTime.silent {p last : ℕ} {r'' : Process P} {calls : List ℕ} (h : OnTime p last r r' calls)
    (hcalls : r''.calls = r'.calls)
    (hdata : (r''.timers.list.cell p).data = (r'.timers.list.cell p).data) :
    OnTime p last r r'' calls := by
  refine ⟨hcalls.trans h.called, ?_, ?_, h.due⟩
  · rw [hdata]
    exact h.same
  · rw [timeOf, hdata]
    exact h.time

theorem onTime_step {p last : ℕ} {r'' : Process P} {calls xs ys : List ℕ} (op : Op P)
    (hgood : Good longest r' xs ys) (hmem : p ∈ xs)
    (hperiodic : (r.timers.list.cell p).data.periodic = true) (h : OnTime p last r r' calls)
    (hop : Allowed longest r' op) (hspares : Spares p last r' op)
    (hstep : step n k r' op = some r'') :
    ∃ calls' xs' ys', OnTime p last r r'' (calls ++ calls') ∧ Good longest r'' xs' ys' ∧
      p ∈ xs' := by
  cases op with
  | create malloc now timerProc usecs periodic =>
    obtain ⟨r1, xs', ys', hreturns, hgood', hkeep⟩ :=
      good_create (n := xs.length+1) (k := 0) malloc now timerProc usecs
      periodic hgood hop (Nat.lt_succ_self _)
    cases step_unique hreturns hstep
    obtain ⟨result, -, rfl⟩ := Option.map_eq_some_iff.mp hstep
    refine ⟨[], xs', ys', ?_, hgood', (hkeep p hmem).1⟩
    rw [List.append_nil]
    exact h.silent rfl (hkeep p hmem).2
  | reset now t =>
    obtain ⟨r1, xs', hreturns, hgood', hkeep⟩ :=
      good_reset (n := xs.length+1) (k := 0) now t hgood hop (Nat.lt_succ_self _)
    cases step_unique hreturns hstep
    obtain ⟨s, -, rfl⟩ := Option.map_eq_some_iff.mp hstep
    refine ⟨[], xs', ys, ?_, hgood', (hkeep p hmem).1⟩
    rw [List.append_nil]
    exact h.silent rfl ((hkeep p hmem).2 (Ne.symm hspares))
  | cancel t =>
    obtain ⟨r1, xs', ys', hreturns, hgood', hkeep⟩ := good_cancel (n := n) (k := k) t hgood hop
    cases step_unique hreturns hstep
    cases hreturns
    refine ⟨[], xs', ys', ?_, hgood', (hkeep p hmem (Ne.symm hspares)).1⟩
    rw [List.append_nil]
    exact h.silent rfl (hkeep p hmem (Ne.symm hspares)).2
  | run actions now =>
    obtain ⟨r1, xs', ys', calls', hreturns, hgood', hcalls', hran⟩ := good_run actions now hgood hop
      (Nat.lt_succ_self _) (Nat.lt_succ_self _)
    cases step_unique hreturns hstep
    obtain ⟨hlast, hreset⟩ := hspares
    have hperiod : period (r'.timers.list.cell p).data = period (r.timers.list.cell p).data := by
      rw [period, period, h.same.1, h.same.2]
    refine ⟨calls', xs', ys', ⟨?_, ?_, ?_, fun hp => ?_⟩, hgood',
      (hran.active p).mpr ⟨hmem, fun _ => ?_⟩⟩
    · rw [hcalls', h.called, List.append_assoc]
    · exact ⟨(hran.same p).2.1.trans h.same.1, (hran.same p).2.2.trans h.same.2⟩
    · rw [hran.time p hreset, h.time, hperiod, List.count_append]
      ring
    · rw [List.count_append]
      by_cases hmem' : p ∈ calls'
      · have hdue := hran.due p hmem' hreset
        rw [h.time, hperiod] at hdue
        have hpos := List.count_pos_iff.mpr hmem'
        have hcount : calls.count p+calls'.count p-1 = calls.count p+(calls'.count p-1) := by omega
        rw [hcount, Nat.add_mul, ← Nat.add_assoc]
        exact hdue.trans hlast
      · rw [List.count_eq_zero_of_not_mem hmem', Nat.add_zero]
        exact h.due ((List.mem_append.mp hp).resolve_right hmem')
    · exact h.same.2.trans hperiodic

/-- A periodic timer that nobody resets does not drift: after any number of calls, however late they
came, it is due that many periods after it was first due; and it is never called before it is
due. -/
theorem no_drift {p last : ℕ} (h : Reached longest r) (hactive : Active r.timers p)
    (hperiodic : (r.timers.list.cell p).data.periodic = true) (hlater : Later longest p last r r') :
    ∃ calls, r'.calls = r.calls ++ calls ∧ Active r'.timers p ∧
      micros (timeOf r'.timers.list p) =
        micros (timeOf r.timers.list p)+calls.count
          p*(r.timers.list.cell p).data.usecs.toInt.toNat ∧
      (p ∈ calls →
        micros (timeOf r.timers.list p)+(calls.count p-1)*(r.timers.list.cell
          p).data.usecs.toInt.toNat ≤ last) := by
  have hperiod : period (r.timers.list.cell p).data =
      (r.timers.list.cell p).data.usecs.toInt.toNat := if_pos hperiodic
  have hinv : ∃ calls xs ys, OnTime p last r r' calls ∧ Good longest r' xs ys ∧ p ∈ xs := by
    induction hlater with
    | refl =>
      obtain ⟨xs, ys, hgood⟩ := reached_good h
      refine ⟨[], xs, ys,
        ⟨(List.append_nil _).symm, ⟨rfl, rfl⟩, ?_, fun hp => absurd hp List.not_mem_nil⟩,
        hgood, (hgood.active_iff p).mp hactive⟩
      rw [List.count_nil, Nat.zero_mul, Nat.add_zero]
    | step op n k _ hop hspares hstep ih =>
      obtain ⟨calls, xs, ys, honTime, hgood, hmem⟩ := ih
      obtain ⟨calls', xs', ys', honTime', hgood', hmem'⟩ :=
        onTime_step op hgood hmem hperiodic honTime hop hspares hstep
      exact ⟨calls ++ calls', xs', ys', honTime', hgood', hmem'⟩
  obtain ⟨calls, xs, ys, honTime, hgood, hmem⟩ := hinv
  rw [← hperiod]
  exact ⟨calls, honTime.called, (hgood.active_iff p).mpr hmem, honTime.time, honTime.due⟩

/-- The timer of the stream, over two runs that are both late; in the first the callback at the end
of the omitted time resets two others. -/
theorem no_drift_stream : ∃ calls, atEnd.calls = atStart.calls ++ calls ∧ Active atEnd.timers 4 ∧
    micros (timeOf atEnd.timers.list 4) = 100500000+calls.count 4*500000 ∧
    (4 ∈ calls → 100500000+(calls.count 4-1)*500000 ≤ 102000000) := by
  have hfirst : ¬Resets ⟨101, 250000⟩ clientProcs atStart.timers 4 := by
    rintro ⟨p, hp, -, hreset⟩
    have hnone : ∀ p ∈ [4, 2, 3, 5, 1],
        Action.reset 4 ∉ clientProcs (atStart.timers.list.cell p).data.timerProc := by
      decide +kernel
    exact hnone p ((active_atStart p).mp hp) hreset
  have hsecond : ¬Resets ⟨102, 0⟩ clientProcs afterOmitted.timers 4 :=
    not_resets_of_quiet (fun t ht _ => quiet_afterOmitted t ht) 4
  have hallowed : Allowed 10000000 afterOmitted (.run clientProcs ⟨102, 0⟩) :=
    allowed_of_quiet (fun t ht _ => quiet_afterOmitted t ht)
      (moment_at 102 0 (by decide) (by decide))
  have hlater : Later 10000000 4 102000000 atStart atEnd :=
    .step _ 6 20 (.step _ 6 20 .refl allowed_afterOmitted ⟨by decide, hfirst⟩ step_afterOmitted)
      hallowed ⟨by decide, hsecond⟩ step_atEnd
  obtain ⟨calls, hcalls, hactive, htime, hdue⟩ :=
    no_drift reached_atStart ((active_atStart 4).mpr (by decide)) (by decide +kernel) hlater
  have hstart : micros (timeOf atStart.timers.list 4) = 100500000 := by decide +kernel
  have hperiod : (atStart.timers.list.cell 4).data.usecs.toInt.toNat = 500000 := by decide +kernel
  rw [hstart, hperiod] at htime hdue
  exact ⟨calls, hcalls, hactive, htime, hdue⟩

end results

end IperfTimer

end MmWaveTracker
