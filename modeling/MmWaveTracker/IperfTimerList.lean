import MmWaveTracker.IperfTimer

/-! What the operations of `timer.c` do to the two lists of timers. -/
namespace MmWaveTracker

namespace IperfTimer

open LinkedCells

section time

/-- A time as a clock returns it. -/
def Normal (time : IperfTime) : Prop := time.usecs.toNat < 1000000

def micros (time : IperfTime) : ℕ := time.secs.toNat*1000000+time.usecs.toNat

/-- The microseconds that 32 bits of seconds can count. -/
def clockEnd : ℕ := 4294967296*1000000

variable {time time1 time2 : IperfTime}

theorem compare_cases (h1 : Normal time1) (h2 : Normal time2) :
    (compare time1 time2 = -1 ∧ micros time1 < micros time2) ∨
    (compare time1 time2 = 1 ∧ micros time2 < micros time1) ∨
      (compare time1 time2 = 0 ∧ micros time1 = micros time2) := by
  unfold Normal at h1 h2
  unfold compare micros
  simp only [UInt32.lt_iff_toNat_lt, gt_iff_lt]
  split_ifs <;> simp <;> omega

theorem compare_neg_iff (h1 : Normal time1) (h2 : Normal time2) :
    compare time1 time2 < 0 ↔ micros time1 < micros time2 := by
  rcases compare_cases h1 h2 with ⟨h, hlt⟩ | ⟨h, hlt⟩ | ⟨h, heq⟩ <;> omega

theorem compare_pos_iff (h1 : Normal time1) (h2 : Normal time2) :
    compare time1 time2 > 0 ↔ micros time2 < micros time1 := by
  rcases compare_cases h1 h2 with ⟨h, hlt⟩ | ⟨h, hlt⟩ | ⟨h, heq⟩ <;> omega

theorem addUsecs_spec (usecs : UInt64) (h : Normal time)
    (hend : micros time+usecs.toNat < clockEnd) :
    Normal (addUsecs time usecs) ∧ micros (addUsecs time usecs) = micros time+usecs.toNat := by
  unfold Normal at h
  unfold micros clockEnd at hend
  have hsecs : (time.secs+(usecs/1000000).toUInt32).toNat =
      time.secs.toNat+usecs.toNat/1000000 := by
    rw [UInt32.toNat_add, UInt64.toNat_toUInt32, UInt64.toNat_div]
    simp
    omega
  have hrest : (time.usecs+(usecs%1000000).toUInt32).toNat =
      time.usecs.toNat+usecs.toNat%1000000 := by
    rw [UInt32.toNat_add, UInt64.toNat_toUInt32, UInt64.toNat_mod]
    simp
    omega
  unfold addUsecs
  simp only [ge_iff_le, UInt32.le_iff_toNat_le, hrest]
  split_ifs with hcarry
  · have hmod : ((time.usecs+(usecs%1000000).toUInt32)%1000000).toNat =
        time.usecs.toNat+usecs.toNat%1000000-1000000 := by
      rw [UInt32.toNat_mod, hrest]
      simp at hcarry ⊢
      omega
    have hdiv : ((time.usecs+(usecs%1000000).toUInt32)/1000000).toNat = 1 := by
      rw [UInt32.toNat_div, hrest]
      simp at hcarry ⊢
      omega
    simp at hcarry
    unfold Normal micros
    simp only [hmod, UInt32.toNat_add _ (_/_), hsecs, hdiv]
    constructor <;> omega
  · simp at hcarry
    unfold Normal micros
    simp only [hsecs, hrest]
    constructor <;> omega

theorem micros_timeBetween (h1 : Normal time1) (h2 : Normal time2)
    (hlt : micros time2 < micros time1) :
    (timeInUsecs (timeBetween time1 time2)).toNat = micros time1-micros time2 := by
  have hinUsecs (time : IperfTime) : (timeInUsecs time).toNat = micros time := by
    unfold timeInUsecs micros
    rw [UInt64.toNat_add, UInt64.toNat_mul, UInt32.toNat_toUInt64, UInt32.toNat_toUInt64]
    have := time.secs.toNat_lt
    have := time.usecs.toNat_lt
    simp
    omega
  unfold Normal at h1 h2
  rw [hinUsecs]
  unfold micros at hlt ⊢
  have hsecs1 := time1.secs.toNat_lt
  have hsecs2 := time2.secs.toNat_lt
  have hsecs : (time1.secs-time2.secs).toNat = time1.secs.toNat-time2.secs.toNat := by
    rw [UInt32.toNat_sub]
    omega
  unfold timeBetween
  simp only [UInt32.lt_iff_toNat_lt]
  split_ifs with hborrow
  · have hless : (time1.secs-time2.secs-1).toNat = time1.secs.toNat-time2.secs.toNat-1 := by
      rw [UInt32.toNat_sub, hsecs]
      simp
      omega
    have hrest : (time1.usecs+1000000-time2.usecs).toNat =
        time1.usecs.toNat+1000000-time2.usecs.toNat := by
      rw [UInt32.toNat_sub, UInt32.toNat_add]
      simp
      omega
    simp only [hless, hrest]
    omega
  · have hrest : (time1.usecs-time2.usecs).toNat = time1.usecs.toNat-time2.usecs.toNat := by
      rw [UInt32.toNat_sub]
      omega
    simp only [hsecs, hrest]
    omega

theorem timeDiff_spec (h1 : Normal time1) (h2 : Normal time2) :
    (if (timeDiff time1 time2).2 then 0 else (timeInUsecs (timeDiff time1 time2).1).toNat) =
      micros time1-micros time2 := by
  rcases compare_cases h1 h2 with ⟨h, hlt⟩ | ⟨h, hlt⟩ | ⟨h, heq⟩
  · have hdiff : timeDiff time1 time2 = (timeBetween time2 time1, true) := by
      rw [timeDiff, if_neg (by omega), if_neg (by omega)]
    rw [hdiff, if_pos rfl, Nat.sub_eq_zero_of_le hlt.le]
  · have hdiff : timeDiff time1 time2 = (timeBetween time1 time2, false) := by
      rw [timeDiff, if_neg (by omega), if_pos h]
    rw [hdiff, if_neg Bool.false_ne_true]
    exact micros_timeBetween h1 h2 hlt
  · have hdiff : timeDiff time1 time2 = (⟨0, 0⟩, true) := by
      rw [timeDiff, if_pos h]
    rw [hdiff, if_pos rfl, heq, Nat.sub_self]

end time

section list

variable {P : Type} {c c' : Chain ℕ (Timer P)} {t : ℕ} {ls rs xs : List ℕ}

/-- Where `list_add` puts a timer: behind those that are due at the same time. -/
def place (c : Chain ℕ (Timer P)) (t : ℕ) (xs : List ℕ) : List ℕ :=
  xs.orderedInsert (fun a b => compare (timeOf c a) (timeOf c b) < 0) t

def Sorted (c : Chain ℕ (Timer P)) (xs : List ℕ) : Prop :=
  xs.Pairwise fun a b => micros (timeOf c a) ≤ micros (timeOf c b)

theorem mem_place (p : ℕ) : p ∈ place c t xs ↔ p = t ∨ p ∈ xs := List.mem_orderedInsert _

theorem perm_place : (place c t xs).Perm (t :: xs) := List.perm_orderedInsert _ t xs

theorem place_congr (htime : ∀ p ∈ t :: xs, timeOf c' p = timeOf c p) :
    place c' t xs = place c t xs := by
  unfold place
  induction xs with
  | nil => rfl
  | cons x xs ih =>
    have ht := htime t List.mem_cons_self
    have hx := htime x (List.mem_cons_of_mem t List.mem_cons_self)
    have hxs := ih fun p hp => htime p (by
      rcases List.mem_cons.mp hp with rfl | hp
      · exact List.mem_cons_self
      · exact List.mem_cons_of_mem t (List.mem_cons_of_mem x hp))
    rw [List.orderedInsert, List.orderedInsert, ht, hx, hxs]

theorem sorted_congr (htime : ∀ p ∈ xs, timeOf c' p = timeOf c p) (h : Sorted c xs) :
    Sorted c' xs := by
  apply List.Pairwise.imp_of_mem _ h
  intro a b ha hb hab
  rw [htime a ha, htime b hb]
  exact hab

theorem sorted_place (hnormal : ∀ p ∈ t :: xs, Normal (timeOf c p)) (h : Sorted c xs) :
    Sorted c (place c t xs) := by
  unfold place
  induction xs with
  | nil => exact List.pairwise_singleton _ t
  | cons x xs ih =>
    have ht := hnormal t List.mem_cons_self
    have hx := hnormal x (List.mem_cons_of_mem t List.mem_cons_self)
    obtain ⟨hle, htail⟩ := List.pairwise_cons.mp h
    rw [List.orderedInsert]
    split_ifs with hlt
    · rw [compare_neg_iff ht hx] at hlt
      refine List.pairwise_cons.mpr ⟨fun y hy => ?_, h⟩
      rcases List.mem_cons.mp hy with rfl | hy
      · exact hlt.le
      · exact hlt.le.trans (hle y hy)
    · rw [compare_neg_iff ht hx, not_lt] at hlt
      refine List.pairwise_cons.mpr ⟨fun y hy => ?_, ih (fun p hp => hnormal p ?_) htail⟩
      · rcases (List.mem_orderedInsert _).mp hy with rfl | hy
        · exact hlt
        · exact hle y hy
      · rcases List.mem_cons.mp hp with rfl | hp
        · exact List.mem_cons_self
        · exact List.mem_cons_of_mem t (List.mem_cons_of_mem x hp)

/-- The list `xs'` is what the list `xs` has become when `t` was put into it; nothing else has
changed. -/
structure Inserted (c c' : Chain ℕ (Timer P)) (t : ℕ) (xs xs' : List ℕ) : Prop where
  active : Segment c'.cell none c'.first xs' none
  other : ∀ p ∉ t :: xs, c'.cell p = c.cell p
  data : ∀ p, (c'.cell p).data = (c.cell p).data

variable (ls rs) in
theorem inserted_between {q : Option ℕ} (hnodup : (ls ++ t :: rs).Nodup)
    (hls : Segment c.cell none c.first ls q) (hrs : Segment c.cell (last none ls) q rs none) :
    Inserted c (insertBetween c (last none ls) t q) t (ls ++ rs) (ls ++ t :: rs) where
  active := segment_insertBetween hnodup hls hrs
  other := by
    intro p hp
    obtain ⟨hpt, hprest⟩ := not_or.mp (fun h => hp (List.mem_cons.mpr h))
    obtain ⟨hpls, hprs⟩ := not_or.mp (fun h => hprest (List.mem_append.mpr h))
    have hq : q ≠ some p := by
      rintro rfl
      exact hprs (head_mem hrs)
    rw [insertBetween, cell_back, if_neg hq, cell_setNext, if_neg hpt, cell_setPrev, if_neg hpt,
      cell_link, if_neg]
    exact fun hlast => hpls (last_mem hlast)
  data := by
    intro p
    rw [insertBetween, cell_back, cell_setNext, cell_setPrev, cell_link]
    split_ifs <;> rfl

theorem findPlace_spec (n t2prev : ℕ) (t2 : Option ℕ) (ls rs : List ℕ)
    (hnodup : (ls ++ t2prev :: t :: rs).Nodup)
    (hls : Segment c.cell none c.first (ls ++ [t2prev]) t2)
    (hrs : Segment c.cell (some t2prev) t2 rs none)
    (hn : rs.length < n) :
    ∃ c', findPlace c t n t2prev t2 = some c' ∧
      Inserted c c' t (ls ++ t2prev :: rs) (ls ++ t2prev :: place c t rs) := by
  induction rs generalizing n t2prev t2 ls with
  | nil =>
    obtain ⟨n, rfl⟩ := Nat.exists_eq_add_of_lt hn
    cases hrs
    have hlast : last none (ls ++ [t2prev]) = some t2prev := last_append none ls [t2prev]
    have hinserted := inserted_between (ls ++ [t2prev]) [] (by simpa using hnodup) hls
      (by rw [hlast]; rfl)
    rw [hlast, List.append_assoc, List.append_assoc] at hinserted
    exact ⟨_, by rw [findPlace]; rfl, hinserted⟩
  | cons x rs ih =>
    obtain ⟨n, rfl⟩ := Nat.exists_eq_add_of_lt hn
    have hlast : last none (ls ++ [t2prev]) = some t2prev := last_append none ls [t2prev]
    obtain ⟨rfl, hprev, htail⟩ := id hrs
    rw [findPlace, place, List.orderedInsert]
    split_ifs with hlt
    · have hinserted := inserted_between (ls ++ [t2prev]) (x :: rs) (by simpa using hnodup) hls
        (by rw [hlast]; exact hrs)
      rw [hlast, List.append_assoc, List.append_assoc] at hinserted
      exact ⟨_, rfl, hinserted⟩
    · have hmoved : ((ls ++ [t2prev]) ++ x :: t :: rs).Nodup := by
        have hperm : (ls ++ t2prev :: t :: x :: rs).Perm ((ls ++ [t2prev]) ++ x :: t :: rs) := by
          rw [List.append_assoc, List.singleton_append]
          exact ((List.Perm.swap x t rs).cons t2prev).append_left ls
        exact hperm.nodup_iff.mp hnodup
      have hlsx : Segment c.cell none c.first ((ls ++ [t2prev]) ++ [x]) (c.cell x).next :=
        segment_append.mpr ⟨some x, hls, rfl, by rw [hlast]; exact hprev, rfl⟩
      obtain ⟨c', hc', hinserted⟩ :=
          ih ((x :: rs).length + n) x (c.cell x).next (ls ++ [t2prev]) hmoved hlsx htail (by
        rw [List.length_cons]
        omega)
      rw [List.append_assoc, List.append_assoc] at hinserted
      exact ⟨c', hc', hinserted⟩

theorem setPrev_setNext (c : Chain ℕ (Timer P)) (t : ℕ) (p q : Option ℕ) :
    setPrev (setNext c t q) t p = setNext (setPrev c t p) t q := by
  simp [setPrev, setNext]

theorem listAdd_spec (n : ℕ) (hnodup : (t :: xs).Nodup) (h : Segment c.cell none c.first xs none)
    (hn : xs.length < n) : ∃ c', listAdd n c t = some c' ∧ Inserted c c' t xs (place c t xs) := by
  unfold listAdd
  cases xs with
  | nil =>
    have hfirst : c.first = none := h
    rw [hfirst]
    refine ⟨_, rfl, ?_⟩
    rw [setPrev_setNext]
    exact inserted_between [] [] hnodup hfirst rfl
  | cons x xs =>
    obtain ⟨hfirst, hprev, htail⟩ := id h
    rw [hfirst]
    simp only [place, List.orderedInsert]
    split_ifs with hlt
    · exact ⟨_, rfl, inserted_between [] (x :: xs) hnodup hfirst (hfirst ▸ h)⟩
    · apply findPlace_spec n x (c.cell x).next [] xs _ ⟨hfirst, hprev,
        rfl⟩ htail (Nat.lt_of_succ_lt hn)
      exact (List.Perm.swap x t xs).nodup_iff.mp hnodup

theorem listRemove_eq (c : Chain ℕ (Timer P)) (t : ℕ) : listRemove c t = unlink c t := by
  cases hprev : (c.cell t).prev with
  | none =>
    simp only [listRemove, unlink, link, back, hprev]
    cases (c.cell t).next <;> rfl
  | some prev =>
    simp only [listRemove, unlink, link, back, hprev]
    cases ((setNext c prev (c.cell t).next).cell t).next <;> rfl

theorem unlink_data (c : Chain ℕ (Timer P)) (t p : ℕ) :
    ((unlink c t).cell p).data = (c.cell p).data := by
  simp only [unlink, cell_back, cell_link]
  split_ifs <;> rfl

/-- Only the neighbours of a timer notice that it leaves the list. -/
theorem unlink_other (h : Segment c.cell none c.first (ls ++ t :: rs) none) {p : ℕ}
    (hp : p ∉ ls ++ t :: rs) : (unlink c t).cell p = c.cell p := by
  obtain ⟨hprev, -, hrs⟩ := neighbours h
  have hpls : last none ls ≠ some p := fun hlast => hp (List.mem_append_left _ (last_mem hlast))
  have hpnext : (c.cell t).next ≠ some p := by
    intro hnext
    rw [hnext] at hrs
    exact hp (List.mem_append_right ls (List.mem_cons_of_mem t (head_mem hrs)))
  have hlink : ((link c (c.cell t).prev (c.cell t).next).cell t).next = (c.cell t).next := by
    rw [cell_link]
    split_ifs <;> rfl
  unfold unlink
  rw [cell_back, hlink, if_neg hpnext, cell_link, hprev, if_neg hpls]

end list

section timers

variable {P : Type} {s : Timers P} {t : ℕ} {ls rs xs ys : List ℕ}

/-- The active timers are `xs`, the free ones `ys`. -/
structure Linked (s : Timers P) (xs ys : List ℕ) : Prop where
  active : Segment s.list.cell none s.list.first xs none
  free : Forward s.list.cell s.freeTimers ys
  nodup : (xs ++ ys).Nodup

theorem Linked.not_free (h : Linked s xs ys) {p : ℕ} (hp : p ∈ xs) : p ∉ ys := fun hpys =>
  (List.nodup_append.mp h.nodup).2.2 p hp p hpys rfl

/-- Data does not move a timer in a list. -/
theorem segment_setData (c : Chain ℕ (Timer P)) (t : ℕ) (d : Timer P) {p q q' : Option ℕ}
    (h : Segment c.cell p q xs q') : Segment (setData c t d).cell p q xs q' := by
  apply segment_congr _ _ h
  all_goals
    intro x _
    rw [cell_setData]
    split_ifs <;> rfl

theorem forward_setData (c : Chain ℕ (Timer P)) (t : ℕ) (d : Timer P) {q : Option ℕ}
    (h : Forward c.cell q ys) : Forward (setData c t d).cell q ys := by
  apply forward_congr _ h
  intro x _
  rw [cell_setData]
  split_ifs <;> rfl

theorem data_setData (c : Chain ℕ (Timer P)) (t p : ℕ) (d : Timer P) :
    ((setData c t d).cell p).data = if p = t then d else (c.cell p).data := by
  rw [cell_setData]
  split_ifs <;> rfl

/-- A timer that is in no list is put among the active ones. -/
theorem linked_listAdd (n : ℕ) (c : Chain ℕ (Timer P)) (free : Option ℕ)
    (hactive : Segment c.cell none c.first xs none)
    (hfree : Forward c.cell free ys) (hnodup : (t :: (xs ++ ys)).Nodup) (hn : xs.length < n) :
    ∃ c', listAdd n c t = some c' ∧ Linked ⟨c', free⟩ (place c' t xs) ys ∧
      ∀ p, (c'.cell p).data = (c.cell p).data := by
  have hxs : (t :: xs).Nodup :=
    hnodup.sublist (List.Sublist.cons_cons t (List.sublist_append_left xs ys))
  obtain ⟨c', hc', hinserted⟩ := listAdd_spec n hxs hactive hn
  have hplace : place c' t xs = place c t xs :=
    place_congr fun p _ => congrArg Timer.time (hinserted.data p)
  refine ⟨c', hc', ⟨?_, ?_, ?_⟩, hinserted.data⟩
  · rw [hplace]
    exact hinserted.active
  · apply forward_congr _ hfree
    intro y hy
    rw [hinserted.other y]
    intro hmem
    exact (List.nodup_append.mp (show ((t :: xs) ++ ys).Nodup from hnodup)).2.2 y hmem y hy rfl
  · exact (perm_place.append_right ys).nodup_iff.mpr hnodup

theorem linked_resort (n : ℕ) (time : IperfTime) (h : Linked s (ls ++ t :: rs) ys)
    (hn : (ls ++ t :: rs).length < n) : ∃ c', listResort n (setTime s.list t time) t = some c' ∧
      Linked ⟨c', s.freeTimers⟩ (place c' t (ls ++ rs)) ys ∧
      ∀ p, (c'.cell p).data = if p = t then {(s.list.cell t).data with time := time}
        else (s.list.cell p).data := by
  have hactive := segment_setData s.list t {(s.list.cell t).data with time := time} h.active
  have hnodup : (ls ++ t :: rs).Nodup := (List.nodup_append.mp h.nodup).1
  have hperm : (ls ++ t :: rs ++ ys).Perm (t :: (ls ++ rs ++ ys)) :=
    List.perm_middle.append_right ys
  have hrest : Segment (listRemove (setTime s.list t time) t).cell none
      (listRemove (setTime s.list t time) t).first (ls ++ rs) none := by
    rw [listRemove_eq]
    exact segment_unlink hnodup hactive
  have hfree : Forward (listRemove (setTime s.list t time) t).cell s.freeTimers ys := by
    rw [listRemove_eq]
    apply forward_congr _ (forward_setData s.list t {(s.list.cell t).data with time := time} h.free)
    intro y hy
    rw [setTime, unlink_other hactive fun hmem => h.not_free hmem hy]
  have hlength : (ls ++ rs).length < n := by
    simp only [List.length_append, List.length_cons] at hn ⊢
    omega
  obtain ⟨c', hc', hlinked, hdata⟩ :=
    linked_listAdd n (listRemove (setTime s.list t time) t) s.freeTimers hrest hfree
    (hperm.nodup_iff.mp h.nodup) hlength
  refine ⟨c', hc', hlinked, fun p => ?_⟩
  rw [hdata p, listRemove_eq, unlink_data, setTime, data_setData]

theorem linked_cancel (h : Linked s (ls ++ t :: rs) ys) :
    Linked (tmrCancel s t) (ls ++ rs) (t :: ys) ∧ ∀ p, ((tmrCancel s t).list.cell p).data =
      (s.list.cell p).data := by
  have hnodup : (ls ++ t :: rs).Nodup := (List.nodup_append.mp h.nodup).1
  have hperm : (ls ++ t :: rs ++ ys).Perm (ls ++ rs ++ t :: ys) := by
    apply (List.perm_middle.append_right ys).trans
    exact List.perm_middle.symm
  have htout : t ∉ ls ++ rs := (List.nodup_cons.mp (List.perm_middle.nodup_iff.mp hnodup)).1
  have hcell (p : ℕ) (hp : p ≠ t) : (tmrCancel s t).list.cell p = (unlink s.list t).cell p := by
    unfold tmrCancel
    rw [cell_setPrev, if_neg hp, cell_setNext, if_neg hp, listRemove_eq]
  refine ⟨⟨?_, ⟨rfl, ?_⟩, hperm.nodup_iff.mp h.nodup⟩, fun p => ?_⟩
  · have hfirst : (tmrCancel s t).list.first = (unlink s.list t).first := by
      rw [← listRemove_eq]
      rfl
    rw [hfirst]
    apply segment_congr _ _ (segment_unlink hnodup h.active)
    all_goals
      intro x hx
      rw [hcell x fun heq => htout (heq ▸ hx)]
  · have hnext : ((tmrCancel s t).list.cell t).next = s.freeTimers := by
      unfold tmrCancel
      rw [cell_setPrev, if_pos rfl, cell_setNext, if_pos rfl]
    rw [hnext]
    apply forward_congr _ h.free
    intro y hy
    have hout : y ∉ ls ++ t :: rs := fun hmem => h.not_free hmem hy
    rw [hcell y fun heq => hout (heq ▸ List.mem_append_right ls List.mem_cons_self),
      unlink_other h.active hout]
  · unfold tmrCancel
    rw [cell_setPrev, cell_setNext, listRemove_eq]
    split_ifs <;> exact unlink_data s.list t p

theorem linked_schedule (n : ℕ) (now : IperfTime) (timerProc : P) (usecs : Int64) (periodic : Bool)
    (h : Linked s xs ys) (ht : t ∉ xs ++ ys) (hn : xs.length < n) :
    ∃ s', schedule n s t now timerProc usecs periodic = some s' ∧
      Linked s' (place s'.list t xs) ys ∧ ∀ p, (s'.list.cell p).data =
        if p = t then ⟨timerProc, usecs, periodic, addUsecs now usecs.toUInt64⟩
          else (s.list.cell p).data := by
  obtain ⟨c', hc', hlinked, hdata⟩ := linked_listAdd (t := t) n
    (setData s.list t ⟨timerProc, usecs, periodic, addUsecs now usecs.toUInt64⟩) s.freeTimers
    (segment_setData s.list t _ h.active) (forward_setData s.list t _ h.free)
    (List.nodup_cons.mpr ⟨ht, h.nodup⟩) hn
  refine ⟨⟨c', s.freeTimers⟩, ?_, hlinked, fun p => ?_⟩
  · rw [schedule, hc']
    rfl
  · rw [← data_setData]
    exact hdata p

end timers

end IperfTimer

end MmWaveTracker
