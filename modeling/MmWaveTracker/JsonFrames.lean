import MmWaveTracker.BlockReader
import MmWaveTracker.ByteOrder
import MmWaveTracker.CJsonParsed

/-! `JSON_write` and `JSON_read` over the control connection of a test: four bytes of length in
network byte order, then the text. `Nwrite` and `Nread` go on after a partial transfer. -/
namespace MmWaveTracker

namespace JsonFrames

open BlockReader CJson

variable {D : Type} (c : Numbers D)

/-- The buffers that `JSON_write` hands to `Nwrite` on a host with byte order `o`. -/
def jsonWrite [DecidableEq D] (o : ByteOrder) (json : Item D) : Option (List (List UInt8)) :=
  (print c false json).map fun str =>
    let hsize := str.length%4294967296
    [storeWord o 4 (swapToBig o 4 hsize), str.take hsize]

/-- How far the `JSON_read` calls are: the length that was read, if it was, and what the calls so
far returned. -/
structure Incoming (D : Type) where
  hsize : Option ℕ
  values : List (Option (Item D))

/-- A length that is no `int` counts as an error of `Nread`. -/
def jsonParse (str : List UInt8) : Option (Item D) :=
  if str.length < 2147483648 then parse c str else none

/-- One `JSON_read` after the other on a host with byte order `o`; an empty text is not waited
for. -/
def jsonRead (o : ByteOrder) : Reader (Incoming D) UInt8 where
  need s :=
    match s.hsize with
    | none => 4
    | some hsize => hsize
  feed s got :=
    match s.hsize with
    | none =>
      let hsize := swapToBig o 4 (loadWord o got)
      if hsize = 0 then ⟨none, s.values ++ [jsonParse c []]⟩ else ⟨some hsize, s.values⟩
    | some _ => ⟨none, s.values ++ [jsonParse c got]⟩

/-- What a reader makes of what was written. -/
def received (json : Item D) : Option (Item D) :=
  if nesting json ≤ cjsonNestingLimit then some (readBack c json) else none

theorem ntohl_htonl (o o' : ByteOrder) (n : ℕ) (h : n < 4294967296) :
    swapToBig o' 4 (loadWord o' (storeWord o 4 (swapToBig o 4 n))) = n := by
  have hlength : (storeWord .big 4 n).length = 4 := length_storeWord .big 4 n
  have hswap := swapToBig_loadWord o' (storeWord .big 4 n)
  rw [hlength] at hswap
  rw [storeWord_swapToBig, hswap, loadWord_storeWord]
  exact Nat.mod_eq_of_lt h

theorem need_pos (o : ByteOrder) (s : Incoming D) (hs : s.hsize ≠ some 0) :
    0 < (jsonRead c o).need s := by
  obtain ⟨hsize, values⟩ := s
  cases hsize with
  | none => exact Nat.zero_lt_succ 3
  | some n => exact Nat.pos_of_ne_zero fun h => hs (congrArg some h)

theorem feed_pos (o : ByteOrder) (s : Incoming D) (block : List UInt8) :
    0 < (jsonRead c o).need ((jsonRead c o).feed s block) := by
  refine need_pos c o _ ?_
  obtain ⟨hsize, values⟩ := s
  cases hsize with
  | none =>
    simp only [jsonRead]
    split_ifs with hzero
    · exact fun heq => by cases heq
    · exact fun heq => hzero (Option.some.inj heq)
  | some n => exact fun heq => by cases heq

/-- What is returned is not taken back. -/
theorem values_feed (o : ByteOrder) (s : Incoming D) (block : List UInt8) :
    s.values <+: ((jsonRead c o).feed s block).values := by
  obtain ⟨hsize, values⟩ := s
  cases hsize with
  | none =>
    simp only [jsonRead]
    split_ifs
    · exact List.prefix_append _ _
    · exact List.prefix_rfl
  | some n => exact List.prefix_append _ _

theorem values_consume (o : ByteOrder) (start : Incoming D × List UInt8) (bytes : List UInt8) :
    start.1.values <+: (consume (jsonRead c o) start bytes).1.values := by
  induction bytes generalizing start with
  | nil => exact List.prefix_rfl
  | cons b bytes ih =>
    have hfirst : start.1.values <+: (advance (jsonRead c o) start.1 (start.2 ++ [b])).1.values :=
        by
      unfold advance
      split_ifs
      · exact values_feed c o start.1 _
      · exact List.prefix_rfl
    exact hfirst.trans (ih _)

/-- A frame of a text that is not too long is read as one value. -/
theorem consume_frame (o o' : ByteOrder) (str : List UInt8) (hne : str ≠ [])
    (hshort : str.length < 2147483648) (values : List (Option (Item D))) (rest : List UInt8) :
    consume (jsonRead c o') (⟨none, values⟩, []) (storeWord o 4 (swapToBig o 4 str.length) ++
      (str ++ rest)) = consume (jsonRead c o') (⟨none, values ++ [parse c str]⟩, []) rest := by
  have hpos : 0 < str.length := List.length_pos_iff.mpr hne
  have hheader : (jsonRead c o').feed ⟨none, values⟩ (storeWord o 4 (swapToBig o 4 str.length)) =
      ⟨some str.length, values⟩ := by
    simp only [jsonRead, ntohl_htonl o o' str.length (by omega), if_neg hpos.ne']
  have hbody : (jsonRead c o').feed ⟨some str.length, values⟩ str =
      ⟨none, values ++ [parse c str]⟩ := by
    simp only [jsonRead, jsonParse, if_pos hshort]
  rw [consume_block (jsonRead c o') _ _ _ (by rw [length_storeWord]; decide)
    (by rw [length_storeWord]; rfl), hheader, consume_block (jsonRead c o') _ _ _ hpos rfl, hbody]

variable [DecidableEq D]

/-- The buffers of a frame. -/
theorem exists_jsonWrite (hc : c.Standard) (o : ByteOrder) (json : Item D) :
    ∃ str, print c false json = some str ∧
      jsonWrite c o json = some [storeWord o 4 (swapToBig o 4 (str.length%4294967296)),
      str.take (str.length%4294967296)] ∧ str ≠ [] ∧ parse c str = received c json := by
  obtain ⟨str, hprint, hne, hparse⟩ := exists_print c hc false json
  exact ⟨str, hprint, by rw [jsonWrite, hprint, Option.map_some], hne, hparse⟩

/-- The frames of a list of values, and what is read of all of them. -/
theorem consume_frames (hc : c.Standard) (o o' : ByteOrder) (jsons : List (Item D))
    (frames : List (List (List UInt8))) (h : jsons.mapM (jsonWrite c o) = some frames)
    (hshort : ∀ json ∈ jsons, ∀ str, print c false json = some str → str.length < 2147483648)
      (values : List (Option (Item D))) :
    consume (jsonRead c o') (⟨none, values⟩, []) frames.flatten.flatten =
      (⟨none, values ++ jsons.map (received c)⟩, []) ∧
      ∀ buf ∈ frames.flatten, buf ≠ [] := by
  induction jsons generalizing frames values with
  | nil =>
    cases h
    exact ⟨by rw [List.map_nil, List.append_nil]; rfl, fun buf hbuf => absurd hbuf List.not_mem_nil⟩
  | cons json jsons ih =>
    obtain ⟨str, hprint, hwrite, hne, hparse⟩ := exists_jsonWrite c hc o json
    simp only [List.mapM_cons, hwrite, Option.bind_eq_bind, Option.bind_some] at h
    obtain ⟨rest, hrest, hframes⟩ := Option.bind_eq_some_iff.mp h
    cases hframes
    obtain ⟨hconsume, hbufs⟩ := ih rest hrest (fun j hj => hshort j (List.mem_cons_of_mem _ hj))
      (values ++ [received c json])
    have hlength := hshort json List.mem_cons_self str hprint
    have hmod : str.length%4294967296 = str.length := Nat.mod_eq_of_lt (by omega)
    have hframe := consume_frame c o o' str hne hlength values rest.flatten.flatten
    simp only [hmod, List.take_length, List.flatten_cons, List.flatten_append, List.flatten_nil,
      List.append_assoc, List.nil_append] at hframe ⊢
    refine ⟨?_, fun buf hbuf => ?_⟩
    · rw [hframe, hparse, hconsume, List.map_cons, List.append_assoc, List.singleton_append]
    · simp only [List.cons_append, List.nil_append, List.mem_cons] at hbuf
      rcases hbuf with rfl | rfl | hbuf
      · exact List.ne_nil_of_length_pos (by rw [length_storeWord]; decide)
      · exact hne
      · exact hbufs buf hbuf

/-- Whatever sizes the writes and the reads come in, and however they fall, the calls of `JSON_read`
return what was written, in order; and when nothing more can happen all of it has been returned. A
text that is nested too deep comes as an error, and does not shift what follows it. -/
theorem frames_delivered (hc : c.Standard) (o o' : ByteOrder) (jsons : List (Item D))
    (frames : List (List (List UInt8))) (h : jsons.mapM (jsonWrite c o) = some frames)
    (hshort : ∀ json ∈ jsons, ∀ str, print c false json = some str → str.length < 2147483648)
      (events : List Event) (p : Pipe (Incoming D) UInt8)
    (hrun : runEvents (step (jsonRead c o')) ⟨frames.flatten, [], [], ⟨none, []⟩⟩ events = some p) :
    p.reader.values <+: jsons.map (received c) ∧
      ((∀ e, step (jsonRead c o') p e = none) → p.reader.values = jsons.map (received c)) ∧
      events.length ≤ 2*frames.flatten.flatten.length := by
  obtain ⟨hconsume, hbufs⟩ := consume_frames c hc o o' jsons frames h hshort []
  rw [List.nil_append] at hconsume
  obtain ⟨consumed, hp⟩ := carried_run _ _ _ hbufs events p hrun
  refine ⟨?_, fun hend => ?_, ?_⟩
  · have hkept := values_consume c o' (consume (jsonRead c o') (⟨none, []⟩, []) consumed)
      (p.flight ++ p.unsent.flatten)
    rw [← consume_append, hp.order, hconsume, hp.reader] at hkept
    exact hkept
  · have hall := finished _ _ (Nat.zero_lt_succ 3) (feed_pos c o') _ hbufs events p hrun hend
    rw [hconsume] at hall
    exact congrArg (fun q => q.1.values) hall.symm
  · have hlength := length_events_le _ events _ p hrun
    simp only [left, List.length_nil] at hlength
    omega

/-- The first of two values, in three parts, between hosts of different byte orders. -/
theorem frames_delivered_two : ∃ p, runEvents (step (jsonRead wholeNumbers .big))
      ⟨[[0, 0, 0, 4], [116, 114, 117, 101], [0, 0, 0, 2], [91, 93]], [], [], ⟨none, []⟩⟩
      [.write 3, .read 2, .write 1, .write 4, .write 2, .read 2, .read 4, .read 1] = some p ∧
    p.reader.values <+: [received wholeNumbers .true, received wholeNumbers (.array [])] := by
  refine ⟨_, rfl, ?_⟩
  refine (frames_delivered wholeNumbers standard_wholeNumbers .little .big [.true, .array []]
    [[[0, 0, 0, 4], [116, 114, 117, 101]], [[0, 0, 0, 2], [91, 93]]] rfl ?_
    [.write 3, .read 2, .write 1, .write 4, .write 2, .read 2, .read 4, .read 1] _ rfl).1
  intro json hjson str hstr
  simp only [List.mem_cons, List.not_mem_nil, or_false] at hjson
  rcases hjson with rfl | rfl <;> cases hstr <;> decide

end JsonFrames

end MmWaveTracker
