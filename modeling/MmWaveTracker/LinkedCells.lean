import Mathlib.Data.List.Nodup
import Mathlib.Data.List.Induction

/-! Doubly linked lists of cells in memory, as C code builds them by hand. -/
namespace MmWaveTracker

namespace LinkedCells

variable {α β : Type}

structure Cell (α β : Type) where
  prev : Option α
  next : Option α
  data : β

/-- The cells in memory and the pointer to the first one. -/
structure Chain (α β : Type) where
  cell : α → Cell α β
  first : Option α

section writes

variable [DecidableEq α]

def setPrev (c : Chain α β) (t : α) (p : Option α) : Chain α β :=
  {c with cell := Function.update c.cell t {c.cell t with prev := p}}

def setNext (c : Chain α β) (t : α) (q : Option α) : Chain α β :=
  {c with cell := Function.update c.cell t {c.cell t with next := q}}

def setData (c : Chain α β) (t : α) (d : β) : Chain α β :=
  {c with cell := Function.update c.cell t {c.cell t with data := d}}

/-- Behind `p` comes `q`; where there is no `p`, `q` is the first cell. -/
def link (c : Chain α β) (p q : Option α) : Chain α β :=
  match p with
  | none => {c with first := q}
  | some p => setNext c p q

/-- In front of `q`, where there is one, is `p`. -/
def back (c : Chain α β) (q p : Option α) : Chain α β :=
  match q with
  | none => c
  | some q => setPrev c q p

variable (c : Chain α β) (t x : α) (p q : Option α)

theorem cell_setPrev : (setPrev c t p).cell x = if x = t then {c.cell x with prev := p}
    else c.cell x := by
  simp only [setPrev, Function.update_apply]
  split_ifs with h
  · rw [h]
  · rfl

theorem cell_setNext : (setNext c t q).cell x = if x = t then {c.cell x with next := q}
    else c.cell x := by
  simp only [setNext, Function.update_apply]
  split_ifs with h
  · rw [h]
  · rfl

theorem cell_setData (d : β) : (setData c t d).cell x = if x = t then {c.cell x with data := d}
    else c.cell x := by
  simp only [setData, Function.update_apply]
  split_ifs with h
  · rw [h]
  · rfl

theorem cell_link : (link c p q).cell x = if p = some x then {c.cell x with next := q}
    else c.cell x := by
  cases p with
  | none => rfl
  | some p => simp only [link, cell_setNext, Option.some.injEq, eq_comm]

theorem cell_back : (back c q p).cell x = if q = some x then {c.cell x with prev := p}
    else c.cell x := by
  cases q with
  | none => rfl
  | some q => simp only [back, cell_setPrev, Option.some.injEq, eq_comm]

theorem first_back : (back c q p).first = c.first := by cases q <;> rfl

end writes

section segments

/-- The last cell of a list, or the one in front of it. -/
def last : Option α → List α → Option α
  | p, [] => p
  | _, x :: xs => last (some x) xs

/-- The cells from `q` on are `xs`, linked both ways, and `q'` comes behind them; in front of them
is `p`. -/
def Segment (cell : α → Cell α β) : Option α → Option α → List α → Option α → Prop
  | _, q, [], q' => q = q'
  | p, q, x :: xs, q' => q = some x ∧ (cell x).prev = p ∧ Segment cell (some x) (cell x).next xs q'

/-- The cells from `q` on are `xs`; only their way forward counts. -/
def Forward (cell : α → Cell α β) : Option α → List α → Prop
  | q, [] => q = none
  | q, x :: xs => q = some x ∧ Forward cell (cell x).next xs

instance decidableSegment [DecidableEq α] (cell : α → Cell α β) (p q : Option α) (xs : List α)
    (q' : Option α) : Decidable (Segment cell p q xs q') :=
  match xs with
  | [] => inferInstanceAs (Decidable (q = q'))
  | x :: xs =>
    have := decidableSegment cell (some x) (cell x).next xs q'
    inferInstanceAs (Decidable (_ ∧ _ ∧ _))

instance decidableForward [DecidableEq α] (cell : α → Cell α β) (q : Option α) (xs : List α) :
    Decidable (Forward cell q xs) :=
  match xs with
  | [] => inferInstanceAs (Decidable (q = none))
  | x :: xs =>
    have := decidableForward cell (cell x).next xs
    inferInstanceAs (Decidable (_ ∧ _))

variable {cell cell' : α → Cell α β} {p q q' : Option α} {xs ys : List α}

theorem last_append (p : Option α) (xs ys : List α) : last p (xs ++ ys) = last (last p xs) ys := by
  induction xs generalizing p with
  | nil => rfl
  | cons x xs ih => exact ih (some x)

theorem last_mem {x : α} (h : last none xs = some x) : x ∈ xs := by
  induction xs using List.reverseRecOn with
  | nil => cases h
  | append_singleton xs y ih =>
    rw [last_append] at h
    cases h
    exact List.mem_append_right xs List.mem_cons_self

theorem segment_append :
    Segment cell p q (xs ++ ys) q' ↔ ∃ r, Segment cell p q xs r ∧
      Segment cell (last p xs) r ys q' := by
  induction xs generalizing p q with
  | nil =>
    constructor
    · intro h
      exact ⟨q, rfl, h⟩
    · rintro ⟨r, rfl, h⟩
      exact h
  | cons x xs ih =>
    constructor
    · rintro ⟨hq, hp, h⟩
      obtain ⟨r, hxs, hys⟩ := ih.mp h
      exact ⟨r, ⟨hq, hp, hxs⟩, hys⟩
    · rintro ⟨r, ⟨hq, hp, hxs⟩, hys⟩
      exact ⟨hq, hp, ih.mpr ⟨r, hxs, hys⟩⟩

/-- A segment only depends on the links of its own cells. -/
theorem segment_congr (hprev : ∀ x ∈ xs, (cell' x).prev = (cell x).prev)
    (hnext : ∀ x ∈ xs, (cell' x).next = (cell x).next) (h : Segment cell p q xs q') :
    Segment cell' p q xs q' := by
  induction xs generalizing p q with
  | nil => exact h
  | cons x xs ih =>
    obtain ⟨hq, hp, htail⟩ := h
    refine ⟨hq, (hprev x List.mem_cons_self).trans hp, ?_⟩
    rw [hnext x List.mem_cons_self]
    exact ih (fun y hy => hprev y (List.mem_cons_of_mem x hy))
      (fun y hy => hnext y (List.mem_cons_of_mem x hy)) htail

theorem forward_congr (hnext : ∀ x ∈ xs, (cell' x).next = (cell x).next) (h : Forward cell q xs) :
    Forward cell' q xs := by
  induction xs generalizing q with
  | nil => exact h
  | cons x xs ih =>
    obtain ⟨hq, htail⟩ := h
    refine ⟨hq, ?_⟩
    rw [hnext x List.mem_cons_self]
    exact ih (fun y hy => hnext y (List.mem_cons_of_mem x hy)) htail

/-- There is one way forward. -/
theorem segment_unique {p' : Option α} (h : Segment cell p q xs none)
    (h' : Segment cell p' q ys none) : xs = ys := by
  induction xs generalizing p p' q ys with
  | nil =>
    cases ys with
    | nil => rfl
    | cons y ys =>
      obtain ⟨hq, -⟩ := h'
      cases h.symm.trans hq
  | cons x xs ih =>
    obtain ⟨rfl, -, htail⟩ := h
    cases ys with
    | nil => cases h'
    | cons y ys =>
      obtain ⟨⟨rfl⟩, -, htail'⟩ := h'
      rw [ih htail htail']

variable [DecidableEq α] {c : Chain α β}

/-- The way from the first cell through `xs` can be made to lead anywhere. -/
theorem segment_link (q : Option α) (hnodup : xs.Nodup) (h : Segment c.cell none c.first xs q') :
    Segment (link c (last none xs) q).cell none (link c (last none xs) q).first xs q := by
  induction xs using List.reverseRecOn with
  | nil => rfl
  | append_singleton xs x _ =>
    have hx : x ∉ xs := fun hmem =>
      (List.nodup_append.mp hnodup).2.2 x hmem x List.mem_cons_self rfl
    have hlast : last none (xs ++ [x]) = some x := last_append none xs [x]
    obtain ⟨r, hxs, hr, hprev, -⟩ := segment_append.mp h
    rw [hlast]
    refine segment_append.mpr ⟨r, ?_, hr, ?_, ?_⟩
    · apply segment_congr _ _ hxs
      all_goals
        intro y hy
        rw [cell_link, if_neg]
        rintro ⟨rfl⟩
        exact hx hy
    · rw [cell_link, if_pos rfl]
      exact hprev
    · rw [cell_link, if_pos rfl]
      rfl

/-- The cells `xs` can be put behind any cell. -/
theorem segment_back (p' : Option α) (hnodup : xs.Nodup) (h : Segment c.cell p q xs none) :
    Segment (back c q p').cell p' q xs none := by
  cases xs with
  | nil => exact h
  | cons x xs =>
    obtain ⟨rfl, -, htail⟩ := h
    have hx : x ∉ xs := (List.nodup_cons.mp hnodup).1
    refine ⟨rfl, ?_, ?_⟩
    · rw [cell_back, if_pos rfl]
    · rw [cell_back, if_pos rfl]
      apply segment_congr _ _ htail
      all_goals
        intro y hy
        rw [cell_back, if_neg]
        rintro ⟨rfl⟩
        exact hx hy

end segments

section lists

variable [DecidableEq α] {c : Chain α β} {t : α} {ls rs : List α}

/-- A cell is taken out of the list. -/
def unlink (c : Chain α β) (t : α) : Chain α β :=
  let c' := link c (c.cell t).prev (c.cell t).next
  back c' (c'.cell t).next (c'.cell t).prev

/-- A cell is put between `p` and `q`. -/
def insertBetween (c : Chain α β) (p : Option α) (t : α) (q : Option α) : Chain α β :=
  back (setNext (setPrev (link c p (some t)) t p) t q) q (some t)

omit [DecidableEq α] in
/-- What is known of the neighbours of a cell of a list. -/
theorem neighbours (h : Segment c.cell none c.first (ls ++ t :: rs) none) :
    (c.cell t).prev = last none ls ∧ Segment c.cell none c.first ls (some t) ∧
      Segment c.cell (some t) (c.cell t).next rs none := by
  obtain ⟨r, hls, rfl, hprev, hrs⟩ := segment_append.mp h
  exact ⟨hprev, hls, hrs⟩

omit [DecidableEq α] in
theorem head_mem {cell : α → Cell α β} {p : Option α} {x : α}
    (h : Segment cell p (some x) rs none) : x ∈ rs := by
  cases rs with
  | nil => cases h
  | cons y rs =>
    obtain ⟨⟨rfl⟩, -⟩ := h
    exact List.mem_cons_self

theorem segment_unlink (hnodup : (ls ++ t :: rs).Nodup)
    (h : Segment c.cell none c.first (ls ++ t :: rs) none) :
    Segment (unlink c t).cell none (unlink c t).first (ls ++ rs) none := by
  obtain ⟨hprev, hls, hrs⟩ := neighbours h
  obtain ⟨hnodupLs, hnodupRs, hdisjoint⟩ := List.nodup_append.mp hnodup
  have hlast (x : α) (hx : x ∈ t :: rs) : last none ls ≠ some x := fun hlast =>
    hdisjoint x (last_mem hlast) x hx rfl
  have ht : (link c (last none ls) (c.cell t).next).cell t = c.cell t := by
    rw [cell_link, if_neg (hlast t List.mem_cons_self)]
  have hunlink : unlink c t =
      back (link c (last none ls) (c.cell t).next) (c.cell t).next (last none ls) := by
    simp only [unlink, hprev, ht]
  rw [hunlink]
  refine segment_append.mpr ⟨(c.cell t).next, ?_, ?_⟩
  · have hlinked := segment_link (c.cell t).next hnodupLs hls
    rw [first_back]
    apply segment_congr _ _ hlinked
    all_goals
      intro x hx
      rw [cell_back, if_neg]
      intro hnext
      rw [hnext] at hrs
      exact hdisjoint x hx x (List.mem_cons_of_mem t (head_mem hrs)) rfl
  · apply segment_back (last none ls) (List.nodup_cons.mp hnodupRs).2 (p := some t)
    apply segment_congr _ _ hrs
    all_goals
      intro x hx
      rw [cell_link, if_neg (hlast x (List.mem_cons_of_mem t hx))]

theorem segment_insertBetween {q : Option α} (hnodup : (ls ++ t :: rs).Nodup)
    (hls : Segment c.cell none c.first ls q) (hrs : Segment c.cell (last none ls) q rs none) :
    Segment (insertBetween c (last none ls) t q).cell none
      (insertBetween c (last none ls) t q).first (ls ++ t :: rs) none := by
  obtain ⟨hnodupLs, hnodupRs, hdisjoint⟩ := List.nodup_append.mp hnodup
  obtain ⟨htrs, hnodupRs⟩ := List.nodup_cons.mp hnodupRs
  have hlast (x : α) (hx : x ∈ t :: rs) : last none ls ≠ some x := fun hlast =>
    hdisjoint x (last_mem hlast) x hx rfl
  have hq (x : α) (hx : x ∉ rs) : q ≠ some x := by
    rintro rfl
    exact hx (head_mem hrs)
  have hfirst : (insertBetween c (last none ls) t q).first =
      (link c (last none ls) (some t)).first := by
    rw [insertBetween, first_back]
    rfl
  refine segment_append.mpr ⟨some t, ?_, rfl, ?_, ?_⟩
  · rw [hfirst]
    apply segment_congr _ _ (segment_link (some t) hnodupLs hls)
    all_goals
      intro x hx
      have hxt : x ≠ t := fun heq => hdisjoint x hx t List.mem_cons_self heq
      have hxrs : x ∉ rs := fun hmem => hdisjoint x hx x (List.mem_cons_of_mem t hmem) rfl
      rw [insertBetween, cell_back, if_neg (hq x hxrs), cell_setNext, if_neg hxt, cell_setPrev,
        if_neg hxt]
  · rw [insertBetween, cell_back, if_neg (hq t htrs), cell_setNext, if_pos rfl, cell_setPrev,
      if_pos rfl]
  · have hnext : ((insertBetween c (last none ls) t q).cell t).next = q := by
      rw [insertBetween, cell_back, if_neg (hq t htrs), cell_setNext, if_pos rfl]
    rw [hnext]
    apply segment_back (some t) hnodupRs (p := last none ls)
    apply segment_congr _ _ hrs
    all_goals
      intro x hx
      have hxt : x ≠ t := fun heq => htrs (heq ▸ hx)
      rw [cell_setNext, if_neg hxt, cell_setPrev, if_neg hxt, cell_link,
        if_neg (hlast x (List.mem_cons_of_mem t hx))]

end lists

end LinkedCells

end MmWaveTracker
