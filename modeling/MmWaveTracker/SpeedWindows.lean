import MmWaveTracker.SinceBoot
import Mathlib.Data.List.DropRight

/-! The three windows of `setSpeeds`. `StartTracing` and `NetworkInfoToReport` fill each of
them by itself; together they are one window over what either of them has added. -/
namespace MmWaveTracker

/-! A circular queue holds the last elements that were added. -/

theorem circularAdd_rtake {α : Type} (n : ℕ) (history : List α) (x : α) :
    circularAdd n (history.rtake n) x = (history ++ [x]).rtake n := by
  have hshift : history.drop (history.length-n) ++ [x] = (history ++ [x]).drop (history.length-n) :=
    (List.drop_append_of_le_length (Nat.sub_le _ _)).symm
  unfold circularAdd List.rtake
  rw [hshift, List.drop_drop, List.length_drop, List.length_append, List.length_singleton]
  congr 1
  omega

theorem map_rtake {α β : Type} (f : α → β) (n : ℕ) (l : List α) :
    (l.rtake n).map f = (l.map f).rtake n := by
  rw [List.rtake, List.rtake, List.map_drop, List.length_map]

theorem length_rtake_le {α : Type} (n : ℕ) (l : List α) : (l.rtake n).length ≤ n := by
  rw [List.rtake, List.length_drop]
  omega

/-- The oldest element, once enough has been added. -/
theorem head_rtake_append {α : Type} (n : ℕ) (before added : List α) (hn : n ≤ added.length) :
    ((before ++ added).rtake n).head? = added[added.length-n]? := by
  have hle : before.length ≤ (before ++ added).length-n := by
    rw [List.length_append]
    omega
  rw [List.rtake, List.head?_drop, List.getElem?_append_right hle, List.length_append]
  congr 1
  omega

/-! What the two methods add. -/

/-- What was added to all three windows at once: by a round of `StartTracing`, or by a sample. -/
inductive Entry where
  | seeding (now : ℤ)
  | sample (r : Report)

namespace Entry

def rxBytes : Entry → ℤ
  | seeding _ => 0
  | sample r => r.traffic.mobileRxBytes

def txBytes : Entry → ℤ
  | seeding _ => 0
  | sample r => r.traffic.mobileTxBytes

def timestamp : Entry → ℤ
  | seeding now => now
  | sample r => r.timeStamp

end Entry

/-- Each round of `StartTracing` asks for the time by itself. -/
def seedings (A : Android) (tick : ℕ) : ℕ → List Entry
  | 0 => []
  | n+1 => .seeding (A.moment tick).now :: seedings A (tick+1) n

/-- Without a location, `StartTracing` does not come to the windows. -/
def Op.entries (A : Android) (w : World) (op : Op) : List Entry :=
  match op with
  | .start => if (A.moment (w.tick+1)).lastLoc.isSome
      then seedings A (w.tick+2) (speedCalculationWindowSize+1) else []
  | _ => (op.sampled A w).toList.map .sample

/-- All that a run adds, in this order. -/
def windowEntries (A : Android) : World → List Op → List Entry
  | _, [] => []
  | w, op :: rest => op.entries A w ++ windowEntries A ((op.exec A).run w).2 rest

/-- A new `MonitoringService`, with the statics as they are. -/
def World.created (w : World) : World :=
  { w with
    prevNrStatus := "", prevMCid := "", prevAccessNetworkTech := some "", mobilityLabelQueue := [],
    rxBytes := [], txBytes := [], timestamps_rxtx_bytes_calculation := [], curSession := none }

/-- The windows are one window over the entries. -/
structure Aligned (w : World) (history : List Entry) : Prop where
  rx : w.rxBytes = (history.rtake speedCalculationWindowSize).map Entry.rxBytes
  tx : w.txBytes = (history.rtake speedCalculationWindowSize).map Entry.txBytes
  times : w.timestamps_rxtx_bytes_calculation =
    (history.rtake speedCalculationWindowSize).map Entry.timestamp

theorem Aligned.of_windows {w w' : World} {history : List Entry} (h : Aligned w history)
    (hsame : windows w' = windows w) : Aligned w' history := by
  injection hsame with hrx htx htimes
  exact ⟨hrx.trans h.rx, htx.trans h.tx, htimes.trans h.times⟩

theorem Aligned.add {w t : World} {history : List Entry} (h : Aligned w history) (e : Entry)
    (hrx : t.rxBytes = circularAdd speedCalculationWindowSize w.rxBytes e.rxBytes)
    (htx : t.txBytes = circularAdd speedCalculationWindowSize w.txBytes e.txBytes)
    (htimes : t.timestamps_rxtx_bytes_calculation =
      circularAdd speedCalculationWindowSize w.timestamps_rxtx_bytes_calculation e.timestamp) :
    Aligned t (history ++ [e]) := by
  have hqueue {β : Type} (f : Entry → β) :
      circularAdd speedCalculationWindowSize ((history.rtake speedCalculationWindowSize).map f)
        (f e) = ((history ++ [e]).rtake speedCalculationWindowSize).map f := by
    rw [map_rtake, circularAdd_rtake, map_rtake, List.map_append]
    rfl
  refine ⟨?_, ?_, ?_⟩
  · rw [hrx, h.rx, hqueue]
  · rw [htx, h.tx, hqueue]
  · rw [htimes, h.times, hqueue]

section Steps

variable {A : Android} {w : World} {history : List Entry}

theorem Aligned.seedWindows (h : Aligned w history) (n : ℕ) :
    Aligned ((seedWindows A n).run w).2 (history ++ seedings A w.tick n) := by
  induction n generalizing w history with
  | zero =>
    rw [seedings, List.append_nil]
    exact h
  | succ n ih =>
    have hround := h.add (t := { w with
      tick := w.tick+1
      rxBytes := circularAdd speedCalculationWindowSize w.rxBytes 0
      txBytes := circularAdd speedCalculationWindowSize w.txBytes 0
      timestamps_rxtx_bytes_calculation := circularAdd speedCalculationWindowSize
        w.timestamps_rxtx_bytes_calculation (A.moment w.tick).now })
          (.seeding (A.moment w.tick).now) rfl rfl rfl
    have hrest := ih hround
    rw [List.append_assoc] at hrest
    exact hrest

/-- `StartTracing` comes to its rounds if there is a location. -/
theorem seedTracing_rounds (A : Android) (w : World) :
    ∃ w₁, ((seedTracing A).run w).2 = (if (A.moment (w.tick+1)).lastLoc.isSome then
      ((seedWindows A (speedCalculationWindowSize+1)).run w₁).2 else w₁) ∧
    windows w₁ = windows w ∧ w₁.tick = w.tick+2 := by
  unfold seedTracing
  rw [Java.bind_ok _ _ w _ (A.moment w.tick).now rfl, Java.bind_ok _ _ _ _ () rfl,
    Java.bind_ok _ _ _ _ (A.moment (w.tick+1)).lastLoc rfl]
  cases (A.moment (w.tick+1)).lastLoc with
  | none =>
    rw [Java.bind_error (Java.nonNull none) _ _ _ .nullPointer rfl]
    exact ⟨_, rfl, rfl, rfl⟩
  | some l =>
    rw [Java.bind_ok _ _ _ _ l rfl, Java.bind_ok _ _ _ _ () rfl]
    exact ⟨_, rfl, rfl, rfl⟩

theorem Aligned.start (h : Aligned w history) :
    Aligned ((Op.start.exec A).run w).2 (history ++ Op.start.entries A w) := by
  obtain ⟨w₁, hrun, hwindows, htick⟩ := seedTracing_rounds A w
  have hstart : ((Op.start.exec A).run w).2 = ((seedTracing A).run w).2 := rfl
  rw [hstart, hrun, Op.entries, ← htick]
  split_ifs with hl
  · exact (h.of_windows hwindows).seedWindows (speedCalculationWindowSize+1)
  · rw [List.append_nil]
    exact h.of_windows hwindows

theorem aligned_exec (op : Op) (h : Aligned w history) :
    Aligned ((op.exec A).run w).2 (history ++ op.entries A w) := by
  by_cases hstart : op = .start
  · rw [hstart]
    exact h.start
  · have hentries : op.entries A w = (op.sampled A w).toList.map .sample := by
      cases op with
      | start => exact absurd rfl hstart
      | _ => rfl
    rw [hentries]
    cases hs : op.sampled A w with
    | none =>
      rw [Option.toList_none, List.map_nil, List.append_nil]
      exact h.of_windows (windows_exec_of_not_sampled A op w hstart hs)
    | some r =>
      have hadd := (windows_exec_of_sampled A op w r hs).1
      injection hadd with hrx htx htimes
      exact h.add (.sample r) hrx htx htimes

theorem aligned_runOps (ops : List Op) (h : Aligned w history) :
    Aligned (runOps A w ops) (history ++ windowEntries A w ops) := by
  induction ops generalizing w history with
  | nil =>
    rw [windowEntries, List.append_nil]
    exact h
  | cons op rest ih =>
    have hrest := ih (aligned_exec (A := A) op h)
    rw [List.append_assoc] at hrest
    exact hrest

end Steps

theorem windowEntries_append (A : Android) (w : World) (before rest : List Op) :
    windowEntries A w (before ++ rest) = windowEntries A w before ++
      windowEntries A (runOps A w before) rest := by
  induction before generalizing w with
  | nil => rfl
  | cons op before ih =>
    rw [List.cons_append, windowEntries, windowEntries, ih, List.append_assoc]
    rfl

/-- Up to the next `StartTracing` the entries are the reports. -/
theorem windowEntries_session (A : Android) (w : World) (session : List Op)
    (hstart : .start ∉ session) :
    windowEntries A w session = (reportsOf (samples A w session)).map .sample := by
  induction session generalizing w with
  | nil => rfl
  | cons op rest ih =>
    have hrest : .start ∉ rest := fun hmem => hstart (List.mem_cons_of_mem op hmem)
    have hop : op.entries A w = (op.sampled A w).toList.map .sample := by
      cases op with
      | start => exact absurd List.mem_cons_self hstart
      | _ => rfl
    rw [windowEntries, samples, hop, ih _ hrest]
    cases op.sampled A w with
    | none => rfl
    | some r => rfl

/-- The windows are empty in a new service. -/
theorem aligned_created (w : World) : Aligned w.created [] := ⟨rfl, rfl, rfl⟩

/-- The speeds of a report, against one entry. -/
def SpeedsAgainst (e : Entry) (r : Report) : Prop :=
  ∃ speed speed', speeds r =
    (speedAfter r.traffic.mobileRxBytes e.rxBytes r.timeStamp (some e.timestamp) speed,
    speedAfter r.traffic.mobileTxBytes e.txBytes r.timeStamp (some e.timestamp) speed')

theorem Aligned.speedsAgainst {w : World} {history : List Entry} (h : Aligned w history)
    (r : Report) (hr : SpeedsFrom (windows w) r) :
    ∃ e, (history.rtake speedCalculationWindowSize).head? = some e ∧ SpeedsAgainst e r := by
  obtain ⟨rx, tx, speed, speed', hrx, htx, hspeeds⟩ := hr
  have htimes : (windows w).times = _ := h.times
  have hrx' : w.rxBytes.head? = some rx := hrx
  have htx' : w.txBytes.head? = some tx := htx
  rw [h.rx, List.head?_map] at hrx'
  rw [h.tx, List.head?_map] at htx'
  obtain ⟨e, he, rfl⟩ := Option.map_eq_some_iff.mp hrx'
  rw [he, Option.map_some, Option.some_inj] at htx'
  refine ⟨e, he, speed, speed', ?_⟩
  rw [hspeeds, htimes, List.head?_map, he, htx']
  rfl

/-- The windows after a run, what each of its samples has peeked at, and that the sample which comes
next is so many samples after the one at the head. -/
structure WindowsAligned (A : Android) (w : World) (ops : List Op) : Prop where
  same_length : (runOps A w ops).rxBytes.length = (runOps A w ops).txBytes.length ∧
    (runOps A w ops).txBytes.length = (runOps A w ops).timestamps_rxtx_bytes_calculation.length
  bounded : (runOps A w ops).rxBytes.length ≤ speedCalculationWindowSize
  aligned : Aligned (runOps A w ops) (windowEntries A w ops)
  peeked : ∀ before op after r, ops = before ++ op :: after →
    op.sampled A (runOps A w before) = some r →
      ∃ e, ((windowEntries A w before).rtake speedCalculationWindowSize).head? = some e ∧
      SpeedsAgainst e r
  head : ∀ before session, ops = before ++ .start :: session → .start ∉ session →
    ∀ rs, rs = reportsOf (samples A (runOps A w (before ++ [.start])) session) →
    speedCalculationWindowSize ≤ rs.length → ∃ r, rs[rs.length-speedCalculationWindowSize]? =
      some r ∧ (runOps A w ops).rxBytes.head? = some r.traffic.mobileRxBytes ∧
      (runOps A w ops).txBytes.head? = some r.traffic.mobileTxBytes ∧
      (runOps A w ops).timestamps_rxtx_bytes_calculation.head? = some r.timeStamp

theorem Aligned.head {w : World} {history : List Entry} (h : Aligned w history)
    (before : List Entry) (rs : List Report) (hhistory : history = before ++ rs.map .sample)
    (hlen : speedCalculationWindowSize ≤ rs.length) :
    ∃ r, rs[rs.length-speedCalculationWindowSize]? = some r ∧
      w.rxBytes.head? = some r.traffic.mobileRxBytes ∧
      w.txBytes.head? = some r.traffic.mobileTxBytes ∧
      w.timestamps_rxtx_bytes_calculation.head? = some r.timeStamp := by
  have hlt : rs.length-speedCalculationWindowSize < rs.length :=
    Nat.sub_lt_of_pos_le (by decide) hlen
  have hhead : (history.rtake speedCalculationWindowSize).head? =
      some (.sample rs[rs.length-speedCalculationWindowSize]) := by
    rw [hhistory, head_rtake_append _ _ _ (by rw [List.length_map]; exact hlen), List.length_map,
      List.getElem?_map, List.getElem?_eq_getElem hlt]
    rfl
  refine ⟨_, List.getElem?_eq_getElem hlt, ?_, ?_, ?_⟩
  · rw [h.rx, List.head?_map, hhead]
    rfl
  · rw [h.tx, List.head?_map, hhead]
    rfl
  · rw [h.times, List.head?_map, hhead]
    rfl

/-- However the calls of `StartTracing` and `NetworkInfoToReport` go, what the windows hold at
one position was added together, and a session measures each sample against the one
`SPEED_CALCULATION_WINDOW_SIZE` samples before. -/
theorem windows_aligned (A : Android) (w : World) (ops : List Op) :
    WindowsAligned A w.created ops := by
  have haligned (ops : List Op) :
      Aligned (runOps A w.created ops) (windowEntries A w.created ops) :=
    aligned_runOps ops (aligned_created w)
  have h := haligned ops
  refine ⟨⟨?_, ?_⟩, ?_, h, ?_, ?_⟩
  · rw [h.rx, h.tx, List.length_map, List.length_map]
  · rw [h.tx, h.times, List.length_map, List.length_map]
  · rw [h.rx, List.length_map]
    exact length_rtake_le _ _
  · intro before op after r _ hsampled
    exact (haligned before).speedsAgainst r (windows_exec_of_sampled A op _ r hsampled).2
  · intro before session hops hstart rs hrs hlen
    refine h.head (windowEntries A w.created (before ++ [.start])) rs ?_ hlen
    have hsplit : ops = (before ++ [.start]) ++ session := by rw [hops, List.append_assoc]; rfl
    rw [hsplit, windowEntries_append, windowEntries_session A _ session hstart, hrs]

end MmWaveTracker
