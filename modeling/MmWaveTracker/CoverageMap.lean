import MmWaveTracker.Config
import MmWaveTracker.IperfDialog
import Mathlib.Data.List.Chain
import Mathlib.Data.List.ModifyLast

/-! `FragmentParent.drawCoverageMap`: the map of a session, broadcast by broadcast. Two
coordinates are only ever compared, so they are of any type. -/
namespace MmWaveTracker.CoverageMap

def poorThroughputColor : String := "#FF0029"
def lteThroughputColor : String := "#FF5D00"
def ltecaThroughputColor : String := "#FFE800"
def lowThroughputColor : String := "#8AFF00"
def goodThroughputColor : String := "#00FF01"
def excellentThroughputColor : String := "#00FF8C"
def lteColor : String := "black"

def poorThroughputRange : ℤ := 50
def lteThroughputRange : ℤ := 150
def ltecaThroughputRange : ℤ := 300
def lowThroughputRange : ℤ := 750
def goodThroughputRange : ℤ := 1200

structure Location (Coordinate : Type) where
  latitude : Coordinate
  longitude : Coordinate
  deriving DecidableEq

/-- How a line is drawn. -/
structure Style where
  color : String
  width : ℤ
  zIndex : ℤ
  deriving DecidableEq

/-- A segment on the map, with the style it has been given so far. -/
structure Polyline (Coordinate : Type) where
  start : Location Coordinate
  stop : Location Coordinate
  style : Option Style := none

structure Circle (Coordinate : Type) where
  center : Location Coordinate
  radius : ℤ
  fillColor : String
  strokeColor : String := "black"
  zIndex : ℤ := 1

/-- The statics of `MapActivity`, and where the camera was sent last. -/
structure MapActivity (Coordinate : Type) where
  lastDataLocation : Option (Location Coordinate) := none
  polylines : List (Polyline Coordinate) := []
  circles : List (Circle Coordinate) := []
  camera : Option (Location Coordinate) := none

/-- What `drawCoverageMap` takes from the extras, and whether the map follows the phone, that
is whether the button `reCenter` is gone. -/
structure Broadcast (Coordinate : Type) where
  curNrStatus : String := ""
  rxSpeed : String := "0"
  curDataLocation : Location Coordinate
  curHandoffOrientation : ℤ := 0
  following : Bool := true

/-- The style by the throughput in 5G. -/
def throughputStyle (rxSpeed : ℤ) : Style :=
  if rxSpeed < poorThroughputRange then { color := poorThroughputColor, width := 10, zIndex := 7 }
  else if rxSpeed < lteThroughputRange then
    { color := lteThroughputColor, width := 13, zIndex := 6 }
  else if rxSpeed < ltecaThroughputRange then
    { color := ltecaThroughputColor, width := 16, zIndex := 5 }
  else if rxSpeed < lowThroughputRange then
    { color := lowThroughputColor, width := 19, zIndex := 4 }
  else if rxSpeed < goodThroughputRange then
    { color := goodThroughputColor, width := 22, zIndex := 3 }
  else { color := excellentThroughputColor, width := 25, zIndex := 2 }

def lteStyle : Style := { color := lteColor, width := 8, zIndex := 8 }

/-- The circle for a handoff. -/
def handoffColor (curHandoffOrientation : ℤ) : Option String :=
  if curHandoffOrientation = horizontalHandoff then some "gray"
  else if curHandoffOrientation = verticalHandoff then some "magenta"
  else if curHandoffOrientation = verticalHorizontanlHandoff then some "yellow"
  else none

section Methods

variable {Coordinate : Type} (digit : Char → Option ℕ)

namespace MapActivity

def addPolyline (start stop : Location Coordinate) (s : MapActivity Coordinate) :
    MapActivity Coordinate :=
  { s with polylines := s.polylines ++ [{ start, stop }] }

/-- `setColor`, `setWidth` and `setZIndex` of the line that was added last. -/
def setStyle (style : Style) (s : MapActivity Coordinate) : MapActivity Coordinate :=
  { s with polylines := s.polylines.modifyLast fun p => { p with style := some style } }

def addCircle (circle : Circle Coordinate) (s : MapActivity Coordinate) : MapActivity Coordinate :=
  { s with circles := s.circles ++ [circle] }

/-- The segments that can be seen. -/
def segments (s : MapActivity Coordinate) : List (Location Coordinate × Location Coordinate) :=
  s.polylines.map fun p => (p.start, p.stop)

end MapActivity

/-- The segment to the new position. -/
def drawSegment (b : Broadcast Coordinate) (last : Location Coordinate) :
    Java (MapActivity Coordinate) Unit := do
  Java.modify (MapActivity.addPolyline last b.curDataLocation)
  if b.curNrStatus = nrConnectedKeyword then
    match IperfDialog.intValue digit b.rxSpeed.toList with
    | some rxSpeed => Java.modify (MapActivity.setStyle (throughputStyle rxSpeed))
    | none => Java.throw .illegalArgument
  else Java.modify (MapActivity.setStyle lteStyle)

/-- The statements after the segment. -/
def arrive (b : Broadcast Coordinate) (s : MapActivity Coordinate) : MapActivity Coordinate :=
  let center := b.curDataLocation
  -- a circle marks the start
  let s := if s.lastDataLocation.isNone then
      s.addCircle { center, radius := 1, fillColor := "black" }
    else s
  let s := { s with lastDataLocation := some center }
  let s := if b.following then { s with camera := some center } else s
  match handoffColor b.curHandoffOrientation with
  | some fillColor => s.addCircle { center, radius := 3, fillColor, strokeColor := "transparent" }
  | none => s

variable [DecidableEq Coordinate]

/-- Both coordinates have changed. -/
def Crosses (last cur : Location Coordinate) : Prop :=
  last.latitude ≠ cur.latitude ∧ last.longitude ≠ cur.longitude

instance (last cur : Location Coordinate) : Decidable (Crosses last cur) :=
  inferInstanceAs (Decidable (_ ∧ _))

/-- The first statement of `drawCoverageMap`. -/
def drawFrom (b : Broadcast Coordinate) (lastDataLocation : Option (Location Coordinate)) :
    Java (MapActivity Coordinate) Unit :=
  match lastDataLocation with
  | some last => if Crosses last b.curDataLocation then drawSegment digit b last else pure ()
  | none => pure ()

def drawCoverageMap (b : Broadcast Coordinate) : Java (MapActivity Coordinate) Unit := do
  let s ← Java.get
  drawFrom digit b s.lastDataLocation
  Java.modify (arrive b)

/-- Broadcast after broadcast; an exception in the receiver is the end of the app. -/
def drawAll : List (Broadcast Coordinate) → Java (MapActivity Coordinate) Unit
  | [] => pure ()
  | b :: rest => do
    drawCoverageMap digit b
    drawAll rest

end Methods

/-! The path through a sequence of positions. -/

section Path

variable {α : Type} [DecidableEq α]

/-- From each position to the next, where they are different. -/
def moves (ps : List α) : List (α × α) := (ps.zip ps.tail).filter fun leg => leg.1 ≠ leg.2

theorem moves_cons_cons (p q : α) (ps : List α) :
    moves (p :: q :: ps) = (if p ≠ q then [(p, q)] else []) ++ moves (q :: ps) := by
  have hzip : (p :: q :: ps).zip (p :: q :: ps).tail = (p, q) :: (q :: ps).zip (q :: ps).tail := rfl
  unfold moves
  rw [hzip, List.filter_cons]
  by_cases hpq : p = q
  · rw [if_neg (by simp [hpq]), if_neg (by simp [hpq])]
    rfl
  · rw [if_pos (by simp [hpq]), if_pos hpq]
    rfl

theorem head_moves (p : α) (ps : List α) : ∀ leg ∈ (moves (p :: ps)).head?, leg.1 = p := by
  induction ps generalizing p with
  | nil => exact fun leg h => by cases h
  | cons q ps ih =>
    rw [moves_cons_cons]
    by_cases hpq : p = q
    · rw [if_neg (not_not.mpr hpq), List.nil_append, hpq]
      exact ih q
    · rw [if_pos hpq]
      rintro leg h
      cases h
      rfl

/-- Each move begins where the last one ended. -/
theorem isChain_moves (ps : List α) : (moves ps).IsChain fun leg next => leg.2 = next.1 := by
  induction ps with
  | nil => exact .nil
  | cons p ps ih =>
    cases ps with
    | nil => exact .nil
    | cons q ps =>
      rw [moves_cons_cons]
      by_cases hpq : p = q
      · rw [if_neg (not_not.mpr hpq)]
        exact ih
      · rw [if_pos hpq, List.singleton_append, List.isChain_cons]
        exact ⟨fun next hnext => (head_moves q ps next hnext).symm, ih⟩

/-- Every position is on the path, unless they are all the same. -/
theorem mem_moves (ps : List α) :
    ∀ p ∈ ps, (∃ leg ∈ moves ps, leg.1 = p ∨ leg.2 = p) ∨ ∀ q ∈ ps, q = p := by
  induction ps with
  | nil => exact fun p h => by cases h
  | cons p ps ih =>
    cases ps with
    | nil =>
      intro q hq
      refine .inr fun q' hq' => ?_
      rw [List.mem_singleton.mp hq, List.mem_singleton.mp hq']
    | cons q ps =>
      rw [moves_cons_cons]
      by_cases hpq : p = q
      · rw [if_neg (not_not.mpr hpq), List.nil_append]
        intro x hx
        have hx' : x ∈ q :: ps := by
          rcases List.mem_cons.mp hx with rfl | hx
          · exact hpq ▸ List.mem_cons_self
          · exact hx
        refine (ih x hx').imp_right fun hall y hy => ?_
        rcases List.mem_cons.mp hy with rfl | hy
        · exact hpq.trans (hall q List.mem_cons_self)
        · exact hall y hy
      · rw [if_pos hpq, List.singleton_append]
        intro x hx
        rcases List.mem_cons.mp hx with rfl | hx
        · exact .inl ⟨_, List.mem_cons_self, .inl rfl⟩
        · rcases ih x hx with ⟨leg, hleg, hend⟩ | hall
          · exact .inl ⟨leg, List.mem_cons_of_mem _ hleg, hend⟩
          · exact .inl ⟨_, List.mem_cons_self, .inr (hall q List.mem_cons_self)⟩

end Path

section Runs

variable {Coordinate : Type} [DecidableEq Coordinate] (digit : Char → Option ℕ)

/-- The speed is a number wherever it gives the style. -/
def Readable (b : Broadcast Coordinate) : Prop :=
  b.curNrStatus = nrConnectedKeyword → (IperfDialog.intValue digit b.rxSpeed.toList).isSome

instance (b : Broadcast Coordinate) : Decidable (Readable digit b) :=
  inferInstanceAs (Decidable (_ → _))

/-- The broadcasts, each with the position before it. -/
def legs : Option (Location Coordinate) → List (Broadcast Coordinate) →
    List (Location Coordinate × Broadcast Coordinate)
  | _, [] => []
  | last, b :: rest => last.toList.map (·, b) ++ legs (some b.curDataLocation) rest

omit [DecidableEq Coordinate] in
theorem zip_legs (bs : List (Broadcast Coordinate)) :
    (legs none bs).map (fun leg => (leg.1, leg.2.curDataLocation)) =
      (bs.map (·.curDataLocation)).zip (bs.map (·.curDataLocation)).tail := by
  have hlegs (b : Broadcast Coordinate) (bs : List (Broadcast Coordinate)) :
      (legs (some b.curDataLocation) bs).map (fun leg => (leg.1, leg.2.curDataLocation)) =
        ((b :: bs).map (·.curDataLocation)).zip (bs.map (·.curDataLocation)) := by
    induction bs generalizing b with
    | nil => rfl
    | cons next bs ih =>
      rw [legs, List.map_append, ih next]
      rfl
  cases bs with
  | nil => rfl
  | cons b bs => exact hlegs b bs

/-- What is drawn on the way. -/
def drawn (legs : List (Location Coordinate × Broadcast Coordinate)) :
    List (Location Coordinate × Location Coordinate) :=
  (legs.filter fun leg => Crosses leg.1 leg.2.curDataLocation).map fun leg =>
    (leg.1, leg.2.curDataLocation)

def AllReadable (legs : List (Location Coordinate × Broadcast Coordinate)) : Prop :=
  ∀ leg ∈ legs, Crosses leg.1 leg.2.curDataLocation → Readable digit leg.2

omit [DecidableEq Coordinate] in
theorem segments_setStyle (style : Style) (start stop : Location Coordinate)
    (s : MapActivity Coordinate) :
    ((s.addPolyline start stop).setStyle style).segments = s.segments ++ [(start, stop)] := by
  unfold MapActivity.setStyle MapActivity.addPolyline MapActivity.segments
  rw [List.modifyLast_concat, List.map_append]
  rfl

omit [DecidableEq Coordinate] in
theorem segments_arrive (b : Broadcast Coordinate) (s : MapActivity Coordinate) :
    (arrive b s).segments = s.segments ∧
    (arrive b s).lastDataLocation = some b.curDataLocation := by
  unfold arrive
  cases s.lastDataLocation <;> cases b.following <;> cases handoffColor b.curHandoffOrientation <;>
    exact ⟨rfl, rfl⟩

omit [DecidableEq Coordinate] in
theorem drawSegment_cases (b : Broadcast Coordinate) (last : Location Coordinate)
    (s : MapActivity Coordinate) :
    (Readable digit b ∧ ∃ t, (drawSegment digit b last).run s = (.ok (), t) ∧
      t.segments = s.segments ++ [(last, b.curDataLocation)]) ∨
    (¬Readable digit b ∧ ∃ e t, (drawSegment digit b last).run s = (.error e, t)) := by
  have hstyle (style : Style) := segments_setStyle style last b.curDataLocation s
  unfold drawSegment Readable
  rw [Java.bind_ok _ _ s _ () rfl]
  by_cases hconnected : b.curNrStatus = nrConnectedKeyword
  · rw [if_pos hconnected]
    cases hspeed : IperfDialog.intValue digit b.rxSpeed.toList with
    | some rxSpeed => exact .inl ⟨fun _ => rfl, _, rfl, hstyle _⟩
    | none => exact .inr ⟨fun h => Bool.false_ne_true (h hconnected), _, _, rfl⟩
  · rw [if_neg hconnected]
    exact .inl ⟨fun h => absurd h hconnected, _, rfl, hstyle _⟩

/-- One broadcast. -/
theorem drawCoverageMap_cases (b : Broadcast Coordinate) (s : MapActivity Coordinate) :
    (AllReadable digit (s.lastDataLocation.toList.map (·, b)) ∧
      ∃ t, (drawCoverageMap digit b).run s = (.ok (), t) ∧
        t.segments = s.segments ++ drawn (s.lastDataLocation.toList.map (·, b)) ∧
        t.lastDataLocation = some b.curDataLocation) ∨
    (¬AllReadable digit (s.lastDataLocation.toList.map (·, b)) ∧
      ∃ e t, (drawCoverageMap digit b).run s = (.error e, t)) := by
  unfold drawCoverageMap
  rw [Java.bind_ok _ _ s s s rfl]
  have hstill (h : drawFrom digit b s.lastDataLocation = pure ()) :
      ∃ t, (drawFrom digit b s.lastDataLocation >>= fun _ => Java.modify (arrive b)).run s =
        (.ok (), t) ∧ t.segments = s.segments ++ [] ∧
          t.lastDataLocation = some b.curDataLocation := by
    rw [h, List.append_nil]
    exact ⟨_, rfl, segments_arrive b s⟩
  cases hlast : s.lastDataLocation with
  | none =>
    rw [hlast] at hstill
    exact .inl ⟨fun leg hleg => (List.not_mem_nil hleg).elim, hstill rfl⟩
  | some last =>
    rw [hlast] at hstill
    by_cases hcross : Crosses last b.curDataLocation
    · have hall : AllReadable digit [(last, b)] ↔ Readable digit b :=
        ⟨fun h => h _ List.mem_cons_self hcross,
          fun h leg hleg _ => by rw [List.mem_singleton.mp hleg]; exact h⟩
      have hdrawn : drawn [(last, b)] = [(last, b.curDataLocation)] := by
        have hkeep : decide (Crosses last b.curDataLocation) = true := decide_eq_true hcross
        rw [drawn, List.filter_singleton, hkeep]
        rfl
      have hfrom : drawFrom digit b (some last) = drawSegment digit b last := if_pos hcross
      change (AllReadable digit [(last, b)] ∧ _) ∨ (¬AllReadable digit [(last, b)] ∧ _)
      rw [hall, hfrom]
      rcases drawSegment_cases digit b last s with ⟨hread, t, hrun, hseg⟩ | ⟨hread, e, t, hrun⟩
      · refine .inl ⟨hread, arrive b t, ?_, ?_, (segments_arrive b t).2⟩
        · rw [Java.bind_ok _ _ _ _ () hrun]
          rfl
        · rw [(segments_arrive b t).1, hseg]
          exact congrArg _ hdrawn.symm
      · exact .inr ⟨hread, e, t, Java.bind_error _ _ _ _ e hrun⟩
    · have hdrawn : drawn [(last, b)] = [] := by
        have hdrop : decide (Crosses last b.curDataLocation) = false := decide_eq_false hcross
        rw [drawn, List.filter_singleton, hdrop]
        rfl
      have hfrom : drawFrom digit b (some last) = pure () := if_neg hcross
      refine .inl ⟨fun leg hleg h => ?_, ?_⟩
      · rw [Option.toList_some, List.map_singleton, List.mem_singleton] at hleg
        rw [hleg] at h
        exact absurd h hcross
      · obtain ⟨t, hrun, hseg, hlast'⟩ := hstill hfrom
        exact ⟨t, hrun, hseg.trans (congrArg _ hdrawn.symm), hlast'⟩

/-- A sequence of broadcasts. -/
theorem drawAll_cases (bs : List (Broadcast Coordinate)) (s : MapActivity Coordinate) :
    (AllReadable digit (legs s.lastDataLocation bs) ∧ ∃ t, (drawAll digit bs).run s = (.ok (), t) ∧
      t.segments = s.segments ++ drawn (legs s.lastDataLocation bs)) ∨
    (¬AllReadable digit (legs s.lastDataLocation bs) ∧ ∃ e t, (drawAll digit bs).run s =
      (.error e, t)) := by
  induction bs generalizing s with
  | nil => exact .inl ⟨fun leg hleg => (List.not_mem_nil hleg).elim, s, rfl,
      (List.append_nil _).symm⟩
  | cons b rest ih =>
    have happend : AllReadable digit (legs s.lastDataLocation (b :: rest)) ↔
        AllReadable digit (s.lastDataLocation.toList.map (·, b)) ∧
        AllReadable digit (legs (some b.curDataLocation) rest) := List.forall_mem_append
    have hdrawn : drawn (legs s.lastDataLocation (b :: rest)) =
        drawn (s.lastDataLocation.toList.map (·, b)) ++
          drawn (legs (some b.curDataLocation) rest) := by
      rw [legs, drawn, List.filter_append, List.map_append]
      rfl
    rw [happend, hdrawn, drawAll]
    rcases drawCoverageMap_cases digit b s with ⟨hread, t, hrun, hseg, hlast⟩ | ⟨hread, e, t, hrun⟩
    · have hrest := ih t
      rw [hlast] at hrest
      rw [Java.bind_ok _ _ _ _ () hrun]
      rcases hrest with ⟨hread', t', hrun', hseg'⟩ | ⟨hread', e, t', hrun'⟩
      · refine .inl ⟨⟨hread, hread'⟩, t', hrun', ?_⟩
        rw [hseg', hseg, List.append_assoc]
      · exact .inr ⟨fun h => hread' h.2, e, t', hrun'⟩
    · exact .inr ⟨fun h => hread h.1, e, t, Java.bind_error _ _ _ _ e hrun⟩

/-- The map shows every move of the session, and so the whole path. -/
structure DrawsPath (bs : List (Broadcast Coordinate)) : Prop where
  completes : ((drawAll digit bs).run {}).1 = .ok ()
  segments : ((drawAll digit bs).run {}).2.segments = moves (bs.map (·.curDataLocation))
  connected : ((drawAll digit bs).run {}).2.segments.IsChain fun leg next => leg.2 = next.1
  through : ∀ p ∈ bs.map (·.curDataLocation),
    (∃ leg ∈ ((drawAll digit bs).run {}).2.segments, leg.1 = p ∨ leg.2 = p) ∨ ∀ q ∈ bs.map
    (·.curDataLocation), q = p

/-- From each position to the next, the phone has not moved, or it has moved in both coordinates
and the speed can be read. -/
def Followed (bs : List (Broadcast Coordinate)) : Prop :=
  ∀ leg ∈ legs none bs, leg.1 = leg.2.curDataLocation ∨ Crosses leg.1 leg.2.curDataLocation ∧
    Readable digit leg.2

instance (bs : List (Broadcast Coordinate)) : Decidable (Followed digit bs) :=
  List.decidableBAll _ _

theorem moves_legs (bs : List (Broadcast Coordinate)) : moves (bs.map (·.curDataLocation)) =
    ((legs none bs).filter fun leg => leg.1 ≠ leg.2.curDataLocation).map fun leg =>
    (leg.1, leg.2.curDataLocation) := by
  unfold moves
  rw [← zip_legs, List.filter_map]
  rfl

omit [DecidableEq Coordinate] in
theorem Crosses.ne {last cur : Location Coordinate} (h : Crosses last cur) : last ≠ cur :=
  fun heq => h.1 (heq ▸ rfl)

/-- A move that is not drawn is missed. -/
theorem drawn_eq_moves_iff (bs : List (Broadcast Coordinate)) :
    drawn (legs none bs) = moves (bs.map (·.curDataLocation)) ↔
      ∀ leg ∈ legs none bs, leg.1 = leg.2.curDataLocation ∨
        Crosses leg.1 leg.2.curDataLocation := by
  rw [moves_legs, drawn]
  constructor
  · intro h leg hleg
    by_cases heq : leg.1 = leg.2.curDataLocation
    · exact .inl heq
    · have hmem : (leg.1, leg.2.curDataLocation) ∈ (((legs none bs).filter fun leg =>
          Crosses leg.1 leg.2.curDataLocation).map fun leg => (leg.1, leg.2.curDataLocation)) := by
        rw [h]
        exact List.mem_map_of_mem (List.mem_filter.mpr ⟨hleg, decide_eq_true heq⟩)
      obtain ⟨leg', hleg', hends⟩ := List.mem_map.mp hmem
      obtain ⟨hstart, hstop⟩ := Prod.mk.inj hends
      have hcross := of_decide_eq_true (List.mem_filter.mp hleg').2
      rw [hstart, hstop] at hcross
      exact .inr hcross
  · intro h
    congr 1
    apply List.filter_congr
    intro leg hleg
    rcases h leg hleg with heq | hcross
    · have hno : ¬Crosses leg.1 leg.2.curDataLocation := fun hcross => hcross.ne heq
      rw [decide_eq_false hno, decide_eq_false (not_not.mpr heq)]
    · rw [decide_eq_true hcross, decide_eq_true hcross.ne]

/-- The path is drawn exactly when no move keeps one of the coordinates. -/
theorem draws_path_iff (bs : List (Broadcast Coordinate)) :
    DrawsPath digit bs ↔ Followed digit bs := by
  have hiff := drawn_eq_moves_iff bs
  constructor
  · intro h leg hleg
    rcases drawAll_cases digit bs {} with ⟨hread, t, hrun, hseg⟩ | ⟨-, e, t, hrun⟩
    · have hdrawn : t.segments = moves (bs.map (·.curDataLocation)) := by
        rw [← h.segments, hrun]
      have hcross := hiff.mp (hseg.symm.trans hdrawn) leg hleg
      exact hcross.imp_right fun hcross => ⟨hcross, hread leg hleg hcross⟩
    · have hcompletes := h.completes
      rw [hrun] at hcompletes
      cases hcompletes
  · intro h
    have hread : AllReadable digit (legs none bs) := fun leg hleg hcross =>
      (h leg hleg).elim (fun heq => absurd heq hcross.ne) And.right
    have hdrawn := hiff.mpr fun leg hleg => (h leg hleg).imp_right And.left
    rcases drawAll_cases digit bs {} with ⟨-, t, hrun, hseg⟩ | ⟨hnot, -⟩
    · have hsegments : t.segments = moves (bs.map (·.curDataLocation)) := hseg.trans hdrawn
      constructor
      · rw [hrun]
      · rw [hrun, hsegments]
      · rw [hrun, hsegments]
        exact isChain_moves _
      · rw [hrun, hsegments]
        exact mem_moves _
    · exact absurd hread hnot

end Runs

/-- A phone that goes due north leaves no line. -/
theorem due_north_not_drawn : ¬DrawsPath JavaText.latinDigit
    [{ curDataLocation := { latitude := (44:ℤ), longitude := -93 } },
     { curDataLocation := { latitude := 45, longitude := -93 } }] := by
  intro h
  have hsegments := h.segments
  revert hsegments
  decide

end MmWaveTracker.CoverageMap
