import MmWaveTracker.EventRun
import Mathlib.Data.List.Induction

/-! A writer that hands over buffers in parts, a stream that keeps the order of what it carries, and
a reader that asks for blocks and gets them in parts: how the parts fall makes no difference to the
reader. -/
namespace MmWaveTracker

namespace BlockReader

variable {S α : Type}

/-- How much a reader asks for in a state, and what it makes of that much. -/
structure Reader (S α : Type) where
  need : S → ℕ
  feed : S → List α → S

/-- What the writer has left of its buffers, what is in between, the block in progress and the
reader. -/
structure Pipe (S α : Type) where
  unsent : List (List α)
  flight : List α
  got : List α
  reader : S

inductive Event where
  | write (r : ℕ)
  | read (r : ℕ)

variable (R : Reader S α)

/-- The reader goes on as soon as the block is complete. -/
def advance (reader : S) (got : List α) : S × List α :=
  if got.length = R.need reader then (R.feed reader got, []) else (reader, got)

/-- A call may hand over or get less than it was asked to, but not nothing. -/
def step (p : Pipe S α) : Event → Option (Pipe S α)
  | .write r =>
    match p.unsent with
    | [] => none
    | buf :: rest =>
      if 0 < r ∧ r ≤ buf.length then
        some {p with
          unsent := if r = buf.length then rest else buf.drop r :: rest
          flight := p.flight ++ buf.take r}
      else none
  | .read r =>
    if 0 < r ∧ r ≤ p.flight.length ∧ p.got.length+r ≤ R.need p.reader then
      let next := advance R p.reader (p.got ++ p.flight.take r)
      some {p with flight := p.flight.drop r, got := next.2, reader := next.1}
    else none

/-- The reader one element at a time. -/
def consume (start : S × List α) (elements : List α) : S × List α :=
  elements.foldl (fun at' x => advance R at'.1 (at'.2 ++ [x])) start

theorem consume_append (start : S × List α) (first rest : List α) :
    consume R start (first ++ rest) = consume R (consume R start first) rest := List.foldl_append

/-- A part of a block is taken as its elements are, one after the other. -/
theorem consume_part (reader : S) (got part : List α) (hne : part ≠ [])
    (h : got.length+part.length ≤ R.need reader) :
    consume R (reader, got) part = advance R reader (got ++ part) := by
  induction part generalizing got with
  | nil => exact absurd rfl hne
  | cons x part ih =>
    rw [List.length_cons] at h
    cases part with
    | nil => rfl
    | cons y part =>
      have hincomplete : advance R reader (got ++ [x]) = (reader, got ++ [x]) :=
        if_neg (by
          rw [List.length_append, List.length_singleton]
          rw [List.length_cons] at h
          omega)
      have hrest := ih (got ++ [x]) (List.cons_ne_nil _ _)
        (by rw [List.length_append, List.length_singleton]; omega)
      rw [List.append_assoc, List.singleton_append] at hrest
      rw [← hrest, ← hincomplete]
      rfl

/-- A whole block. -/
theorem consume_block (reader : S) (block rest : List α) (hpos : 0 < block.length)
    (h : R.need reader = block.length) :
    consume R (reader, []) (block ++ rest) = consume R (R.feed reader block, []) rest := by
  have hblock := consume_part R reader [] block (List.ne_nil_of_length_pos hpos) (by simp [h])
  rw [consume_append, hblock, List.nil_append, advance, if_pos h.symm]

/-- What was sent is what was read, what is in between and what is left, in this order; and the
reader is where it would be had it read one element at a time. -/
structure Carried (start : S) (all : List α) (consumed : List α) (p : Pipe S α) : Prop where
  order : consumed ++ (p.flight ++ p.unsent.flatten) = all
  reader : consume R (start, []) consumed = (p.reader, p.got)
  buffers : ∀ buf ∈ p.unsent, buf ≠ []

theorem carried_step (start : S) (all consumed : List α) (p p' : Pipe S α) (e : Event)
      (h : step R p e = some p')
    (hp : Carried R start all consumed p) : ∃ more, Carried R start all (consumed ++ more) p' := by
  obtain ⟨unsent, flight, got, reader⟩ := p
  cases e with
  | write r =>
    refine ⟨[], ?_⟩
    rw [List.append_nil]
    cases unsent with
    | nil => cases h
    | cons buf rest =>
      obtain ⟨⟨hpos, hle⟩, heq⟩ := Option.ite_none_right_eq_some.mp h
      cases heq
      have horder := hp.order
      refine ⟨?_, hp.reader, ?_⟩
      · rw [← horder]
        dsimp only
        split_ifs with hall
        · rw [hall, List.take_length, List.flatten_cons, List.append_assoc]
        · rw [List.flatten_cons, List.flatten_cons, List.append_assoc,
            ← List.append_assoc (buf.take r), List.take_append_drop]
      · have hrest : ∀ b ∈ rest, b ≠ [] := fun b hb => hp.buffers b (List.mem_cons_of_mem _ hb)
        intro b hb
        dsimp only at hb
        split_ifs at hb with hall
        · exact hrest b hb
        · rcases List.mem_cons.mp hb with rfl | hb
          · exact List.ne_nil_of_length_pos (by rw [List.length_drop]; omega)
          · exact hrest b hb
  | read r =>
    obtain ⟨⟨hpos, hle, hneed⟩, heq⟩ := Option.ite_none_right_eq_some.mp h
    cases heq
    have hlength : (flight.take r).length = r := List.length_take_of_le hle
    refine ⟨flight.take r, ?_, ?_, hp.buffers⟩
    · rw [← hp.order]
      dsimp only
      rw [List.append_assoc, ← List.append_assoc (flight.take r), List.take_append_drop]
    · rw [consume_append, hp.reader, consume_part R reader got (flight.take r)
        (List.ne_nil_of_length_pos (by rw [hlength]; exact hpos)) (by rw [hlength]; exact hneed)]

/-- However the parts fall, the reader is where a beginning of all that is sent takes it. -/
theorem carried_run (start : S) (bufs : List (List α)) (hbufs : ∀ buf ∈ bufs, buf ≠ [])
      (events : List Event)
    (p : Pipe S α) (h : runEvents (step R) ⟨bufs, [], [], start⟩ events = some p) :
    ∃ consumed, Carried R start bufs.flatten consumed p := by
  refine runEvents_preserves (step R)
    (fun p => ∃ consumed, Carried R start bufs.flatten consumed p) ?_ events _ p h
    ⟨[], rfl, rfl, hbufs⟩
  rintro p e p' he ⟨consumed, hp⟩
  obtain ⟨more, hp'⟩ := carried_step R start bufs.flatten consumed p p' e he hp
  exact ⟨consumed ++ more, hp'⟩

/-- Nothing more can happen only when all is sent, and all is read unless the reader asks for
nothing. -/
theorem stuck (p : Pipe S α) (hbufs : ∀ buf ∈ p.unsent, buf ≠ []) (h : ∀ e, step R p e = none) :
    p.unsent = [] ∧ (p.got.length < R.need p.reader → p.flight = []) := by
  constructor
  · cases hunsent : p.unsent with
    | nil => rfl
    | cons buf rest =>
      have hne : 0 < buf.length :=
        List.length_pos_iff.mpr (hbufs buf (hunsent ▸ List.mem_cons_self))
      have hwrite := h (.write 1)
      simp [step, hunsent, Nat.succ_le_of_lt hne] at hwrite
  · intro hneed
    by_contra hflight
    have hread := h (.read 1)
    have hlength : 0 < p.flight.length := List.length_pos_iff.mpr hflight
    rw [step, if_pos ⟨Nat.one_pos, hlength, hneed⟩] at hread
    cases hread

/-- A reader that always asks for more has never got as much as it asks for. -/
theorem consume_lt (start : S) (hstart : 0 < R.need start)
    (hfeed : ∀ s block, 0 < R.need (R.feed s block))
    (elements : List α) :
    (consume R (start, []) elements).2.length < R.need (consume R (start, []) elements).1 := by
  induction elements using List.reverseRecOn with
  | nil => exact hstart
  | append_singleton elements x ih =>
    rw [consume_append]
    generalize consume R (start, []) elements = q at ih
    change (advance R q.1 (q.2 ++ [x])).2.length < R.need (advance R q.1 (q.2 ++ [x])).1
    unfold advance
    split_ifs with hcomplete
    · exact hfeed _ _
    · rw [List.length_append, List.length_singleton] at hcomplete
      dsimp only
      rw [List.length_append, List.length_singleton]
      omega

/-- Such a reader has read all when nothing more can happen. -/
theorem finished (start : S) (hstart : 0 < R.need start)
    (hfeed : ∀ s block, 0 < R.need (R.feed s block))
    (bufs : List (List α)) (hbufs : ∀ buf ∈ bufs, buf ≠ []) (events : List Event) (p : Pipe S α)
    (h : runEvents (step R) ⟨bufs, [], [], start⟩ events = some p) (hend : ∀ e, step R p e = none) :
    consume R (start, []) bufs.flatten = (p.reader, p.got) := by
  obtain ⟨consumed, hp⟩ := carried_run R start bufs hbufs events p h
  obtain ⟨hunsent, hflight⟩ := stuck R p hp.buffers hend
  have hlt := consume_lt R start hstart hfeed consumed
  rw [hp.reader] at hlt
  have hall := hp.order
  rw [hunsent, hflight hlt, List.flatten_nil, List.append_nil, List.append_nil] at hall
  rw [← hall, hp.reader]

/-- Every call brings the end nearer. -/
def left (p : Pipe S α) : ℕ := 2*p.unsent.flatten.length + p.flight.length

theorem left_step (p p' : Pipe S α) (e : Event) (h : step R p e = some p') : left p' < left p := by
  obtain ⟨unsent, flight, got, reader⟩ := p
  cases e with
  | write r =>
    cases unsent with
    | nil => cases h
    | cons buf rest =>
      obtain ⟨⟨hpos, hle⟩, heq⟩ := Option.ite_none_right_eq_some.mp h
      cases heq
      simp only [left, List.length_append, List.length_take, List.flatten_cons]
      split_ifs with hall
      · omega
      · rw [List.flatten_cons, List.length_append, List.length_drop]
        omega
  | read r =>
    obtain ⟨⟨hpos, hle, -⟩, heq⟩ := Option.ite_none_right_eq_some.mp h
    cases heq
    simp only [left, List.length_drop]
    change r ≤ flight.length at hle
    omega

/-- There are no endless runs. -/
theorem length_events_le (events : List Event) (p p' : Pipe S α)
    (h : runEvents (step R) p events = some p') :
    events.length + left p' ≤ left p := by
  induction events generalizing p with
  | nil => cases h; simp
  | cons e rest ih =>
    obtain ⟨q, hq, hrest⟩ := runEvents_cons (step R) p p' e rest h
    have hstep := left_step R p q e hq
    have hih := ih q hrest
    rw [List.length_cons]
    omega

end BlockReader

end MmWaveTracker
