import MmWaveTracker.IStream
import MmWaveTracker.JavaText
import MmWaveTracker.RrcProbe
import Mathlib.Data.List.Infix

/-! `networkStat`: the counters of the mobile interface, from the text of `/proc/net/dev`. -/
namespace MmWaveTracker

open CString IStream

def rmnetData0 : List UInt8 := ascii "rmnet_data0"

/-- The numbers of a line, up to the first that is no `int`. -/
def lineNumbers (line : List UInt8) : List Int32 := extractInts (line.length+1) (extractWord line).2

/-- The array `para` is not initialised before the numbers of the line are stored in it. -/
def networkStat (fileStat : List UInt8) (uninitialised : ℕ → Int32) (n : NetworkInfo) :
    NetworkInfo :=
  match (lines fileStat).find? fun line => rmnetData0 <:+: line with
  | none => n
  | some line =>
    let para (k : ℕ) : Int32 := ((lineNumbers line)[k]?).getD (uninitialised k)
    { recv_bytes := para 0
      recv_pkt := para 1
      send_bytes := para 8
      send_pkt := para 9 }

/-! The text that the kernel writes. -/

/-- An interface with its counters, each after one space and a gap. -/
structure Interface where
  indent : ℕ
  name : List UInt8
  counters : List (ℕ × ℕ)
  name_plain : ∀ b ∈ name, isspace b = false
  length_counters : counters.length = 16
  counters_lt : ∀ counter ∈ counters, counter.2 < 18446744073709551616

def printCounters (counters : List (ℕ × ℕ)) : List UInt8 :=
  counters.flatMap fun counter => List.replicate (counter.1+1) 32 ++ digits counter.2

namespace Interface

def line (i : Interface) : List UInt8 :=
  List.replicate i.indent 32 ++ i.name ++ 58 :: printCounters i.counters

def values (i : Interface) : List ℕ := i.counters.map (·.2)

/-- The counters from the left, the first at 0. -/
def counter (i : Interface) (k : ℕ) : ℕ := (i.values[k]?).getD 0

end Interface

/-- Some lines of explanation, and one for each interface. -/
structure ProcNetDev where
  header : List (List UInt8)
  interfaces : List Interface
  header_plain : ∀ line ∈ header, 10 ∉ line ∧ ¬rmnetData0 <:+: line

def ProcNetDev.text (t : ProcNetDev) : List UInt8 :=
  (t.header ++ t.interfaces.map Interface.line).flatMap fun line => line ++ [10]

/-- The interface whose line `networkStat` reads. -/
def ProcNetDev.found (t : ProcNetDev) : Option Interface :=
  t.interfaces.find? fun i => rmnetData0 <:+: i.name

/-- Whatever was in `para`, the fields are set from the counters of `own`, exactly where these
are an `int`. -/
def ReadsCounters (t : ProcNetDev) (own : Interface) : Prop :=
  ∀ uninitialised n, networkStat t.text uninitialised n =
    { recv_bytes := Int32.ofIntClamp (own.counter 0)
      recv_pkt := Int32.ofIntClamp (own.counter 1)
      send_bytes := Int32.ofIntClamp (own.counter 8)
      send_pkt := Int32.ofIntClamp (own.counter 9) }

/-! The numbers of a line. -/

/-- What the loop over a line stores of the numbers in it. -/
def stored : List ℕ → List Int32
  | [] => []
  | v :: vs => Int32.ofIntClamp v :: if v ≤ 2147483647 then stored vs else []

theorem head_printCounters (counters : List (ℕ × ℕ)) (b : UInt8)
    (h : (printCounters counters).head? = some b) : b = 32 := by
  cases counters with
  | nil => cases h
  | cons counter counters => exact (Option.some.inj h).symm

theorem extractInts_printCounters (counters : List (ℕ × ℕ)) (fuel : ℕ)
    (h : counters.length < fuel) : extractInts fuel (printCounters counters) = stored
    (counters.map (·.2)) := by
  induction counters generalizing fuel with
  | nil =>
    cases fuel with
    | zero => cases h
    | succ fuel => rfl
  | cons counter counters ih =>
    cases fuel with
    | zero => cases h
    | succ fuel =>
      have hprint : printCounters (counter :: counters) =
          List.replicate (counter.1+1) 32 ++ (digits counter.2 ++ printCounters counters) := by
        rw [printCounters, List.flatMap_cons, List.append_assoc]
        rfl
      have hread := extractInt_digits (counter.1+1) counter.2 (printCounters counters) (by
        intro b hb
        rw [head_printCounters counters b hb]
        rfl)
      rw [hprint, extractInts, hread, List.map_cons, stored]
      by_cases hfits : counter.2 ≤ 2147483647
      · simp only [if_pos hfits]
        rw [ih fuel (Nat.lt_of_succ_lt_succ h)]
      · simp only [if_neg hfits]

/-- A counter is stored if all before it are `int`s. -/
theorem getElem?_stored (vs : List ℕ) (k : ℕ) :
    (∀ v ∈ vs.take k, v ≤ 2147483647) → (stored vs)[k]? = (vs[k]?).map fun v => Int32.ofIntClamp
    (v:ℤ) := by
  induction vs generalizing k with
  | nil => exact fun _ => rfl
  | cons v vs ih =>
    cases k with
    | zero => exact fun _ => rfl
    | succ k =>
      intro h
      rw [List.take_succ_cons, List.forall_mem_cons] at h
      rw [stored, if_pos h.1, List.getElem?_cons_succ, List.getElem?_cons_succ]
      exact ih k h.2

theorem getElem?_stored_none (vs : List ℕ) (k : ℕ) (v : ℕ) (hv : v ∈ vs.take k)
    (hlarge : ¬v ≤ 2147483647) : (stored vs)[k]? = none := by
  induction vs generalizing k with
  | nil => rfl
  | cons w vs ih =>
    cases k with
    | zero => cases hv
    | succ k =>
      rw [stored, List.getElem?_cons_succ]
      split_ifs with hw
      · rw [List.take_succ_cons] at hv
        rcases List.mem_cons.mp hv with rfl | hv
        · exact absurd hw hlarge
        · exact ih k hv
      · rfl

section Line

variable (i : Interface)

theorem extractWord_line : (extractWord i.line).2 = printCounters i.counters := by
  have hskip : i.line.dropWhile isspace = i.name ++ 58 :: printCounters i.counters := by
    rw [Interface.line, List.append_assoc]
    apply dropWhile_spaces
    intro b hb
    cases hname : i.name with
    | nil =>
      rw [hname] at hb
      cases hb
      rfl
    | cons x name =>
      rw [hname] at hb
      cases hb
      exact i.name_plain b (hname ▸ List.mem_cons_self)
  have hword : (i.name ++ [58]) ++ printCounters i.counters =
      i.name ++ 58 :: printCounters i.counters := by
    rw [List.append_assoc]
    rfl
  have hnot : ∀ b ∈ i.name ++ [58], (!isspace b) = true := by
    intro b hb
    rcases List.mem_append.mp hb with hb | hb
    · rw [i.name_plain b hb]
      rfl
    · rw [List.mem_singleton.mp hb]
      rfl
  rw [extractWord]
  dsimp only
  rw [hskip, ← hword, List.dropWhile_append_of_pos hnot]
  cases hprint : printCounters i.counters with
  | nil => rfl
  | cons b rest =>
    have hb := head_printCounters i.counters b (by rw [hprint]; rfl)
    exact List.dropWhile_cons_of_neg (by rw [hb]; decide)

theorem length_le_printCounters (counters : List (ℕ × ℕ)) :
    counters.length ≤ (printCounters counters).length := by
  induction counters with
  | nil => exact le_rfl
  | cons counter counters ih =>
    rw [printCounters, List.flatMap_cons, List.length_append, List.length_append,
      List.length_replicate, List.length_cons]
    change _ ≤ _ + (printCounters counters).length
    omega

theorem lineNumbers_line : lineNumbers i.line = stored i.values := by
  rw [lineNumbers, extractWord_line]
  apply extractInts_printCounters
  have hprint := length_le_printCounters i.counters
  rw [Interface.line, List.length_append, List.length_cons]
  omega

theorem mem_printCounters (counters : List (ℕ × ℕ)) (b : UInt8) (hb : b ∈ printCounters counters) :
    b = 32 ∨ isdigit b = true := by
  obtain ⟨counter, -, hb⟩ := List.mem_flatMap.mp hb
  rcases List.mem_append.mp hb with hb | hb
  · exact .inl (List.eq_of_mem_replicate hb)
  · exact .inr (isdigit_of_mem_digits counter.2 b hb)

theorem newline_not_mem_line : 10 ∉ i.line := by
  intro h
  rw [Interface.line, List.append_assoc] at h
  rcases List.mem_append.mp h with h | h
  · exact absurd (List.eq_of_mem_replicate h) (by decide)
  · rcases List.mem_append.mp h with h | h
    · exact absurd (i.name_plain 10 h) (by decide)
    · rcases List.mem_cons.mp h with h | h
      · exact absurd h (by decide)
      · exact absurd (mem_printCounters i.counters 10 h) (by decide)

/-- The search over the whole line finds the key in the name only. -/
theorem infix_line_iff : rmnetData0 <:+: i.line ↔ rmnetData0 <:+: i.name := by
  have hspaces (n : ℕ) : rmnetData0 <:+: List.replicate n 32 ++ i.name ↔
      rmnetData0 <:+: i.name := by
    induction n with
    | zero => rfl
    | succ n ih =>
      rw [List.replicate_succ, List.cons_append]
      refine (JavaText.infix_append_cons_iff rmnetData0 [] _ 32 (by decide +kernel)).trans ?_
      rw [ih, or_iff_right]
      intro hnil
      exact absurd (List.infix_nil.mp hnil) (by decide +kernel)
  have hnumbers : ¬rmnetData0 <:+: printCounters i.counters := by
    intro h
    have hr : (114:UInt8) ∈ rmnetData0 := by decide +kernel
    exact absurd (mem_printCounters i.counters 114 (h.subset hr)) (by decide)
  rw [Interface.line, JavaText.infix_append_cons_iff rmnetData0 _ _ 58 (by decide +kernel), hspaces,
    or_iff_left hnumbers]

end Line

/-! The whole text. -/

section Text

variable {t : ProcNetDev}

theorem lines_text : lines t.text = t.header ++ t.interfaces.map Interface.line := by
  apply lines_flatMap
  intro line hline
  rcases List.mem_append.mp hline with hline | hline
  · exact (t.header_plain line hline).1
  · obtain ⟨i, -, rfl⟩ := List.mem_map.mp hline
    exact newline_not_mem_line i

theorem find?_text : ((lines t.text).find? fun line => rmnetData0 <:+: line) =
    t.found.map Interface.line := by
  have hheader : (t.header.find? fun line => decide (rmnetData0 <:+: line)) = none := by
    rw [List.find?_eq_none]
    intro line hline h
    exact (t.header_plain line hline).2 (of_decide_eq_true h)
  have hname : ((fun line => decide (rmnetData0 <:+: line)) ∘ Interface.line) = fun i =>
      decide (rmnetData0 <:+: i.name) := by
    funext i
    exact decide_eq_decide.mpr (infix_line_iff i)
  rw [lines_text, List.find?_append, hheader, Option.none_or, List.find?_map, hname]
  rfl

theorem networkStat_text (i : Interface) (h : t.found = some i) (uninitialised : ℕ → Int32)
    (n : NetworkInfo) : networkStat t.text uninitialised n =
      { recv_bytes := ((stored i.values)[0]?).getD (uninitialised 0)
        recv_pkt := ((stored i.values)[1]?).getD (uninitialised 1)
        send_bytes := ((stored i.values)[8]?).getD (uninitialised 8)
        send_pkt := ((stored i.values)[9]?).getD (uninitialised 9) } := by
  rw [networkStat, find?_text, h, Option.map_some]
  dsimp only
  rw [lineNumbers_line]

/-- The slot of a counter, when all counters before it are `int`s. -/
theorem getD_stored (i : Interface) (k : ℕ) (hk : k < 10) (hfit : ∀ j < 9, i.counter j ≤ 2147483647)
    (x : Int32) : ((stored i.values)[k]?).getD x = Int32.ofIntClamp (i.counter k) := by
  have hlen : i.values.length = 16 := by
    rw [Interface.values, List.length_map, i.length_counters]
  have hbefore : ∀ v ∈ i.values.take k, v ≤ 2147483647 := by
    intro v hv
    obtain ⟨j, hj⟩ := List.mem_iff_getElem?.mp hv
    have hlt : j < k := by
      have h := (List.getElem?_eq_some_iff.mp hj).choose
      rw [List.length_take] at h
      omega
    rw [List.getElem?_take_of_lt hlt] at hj
    have hcounter : i.counter j = v := by rw [Interface.counter, hj]; rfl
    exact hcounter ▸ hfit j (by omega)
  have hget : i.values[k]? = some (i.counter k) := by
    rw [Interface.counter, List.getElem?_eq_getElem (by omega)]
    rfl
  rw [getElem?_stored i.values k hbefore, hget]
  rfl

/-- Behind a counter that is no `int` the slots keep what was in them. -/
theorem getD_stored_large (i : Interface) (j : ℕ) (hj : j < 9) (hlarge : ¬i.counter j ≤ 2147483647)
    (x : Int32) : ((stored i.values)[9]?).getD x = x := by
  have hlen : i.values.length = 16 := by
    rw [Interface.values, List.length_map, i.length_counters]
  have hmem : i.counter j ∈ i.values.take 9 := by
    apply List.mem_of_getElem? (i := j)
    rw [List.getElem?_take_of_lt hj, Interface.counter, List.getElem?_eq_getElem (by omega)]
    rfl
  rw [getElem?_stored_none i.values 9 _ hmem hlarge]
  rfl

end Text

theorem ofIntClamp_natCast_inj (v w : ℕ) :
    Int32.ofIntClamp (v:ℤ) = Int32.ofIntClamp (w:ℤ) ↔ min v 2147483647 = min w 2147483647 := by
  have hvalue (v : ℕ) : (Int32.ofIntClamp (v:ℤ)).toInt = (min v 2147483647 : ℕ) := by
    have hmin : Int32.minValue.toInt = -2147483648 := rfl
    have hmax : Int32.maxValue.toInt = 2147483647 := rfl
    rcases Nat.le_total v 2147483647 with hle | hle
    · rw [Int32.toInt_ofIntClamp (by omega) (by omega), Nat.min_eq_left hle]
    · rw [Nat.min_eq_right hle]
      unfold Int32.ofIntClamp
      rw [dif_pos (by omega)]
      split_ifs with hr
      · rw [Int32.toInt_ofIntLE]
        omega
      · exact hmax
  rw [← Int32.toInt_inj, hvalue, hvalue, Int.natCast_inj]

/-- The counters of the interface are read exactly if the first nine on the first line with a
name that contains `rmnet_data0` are `int`s, and those that are used agree with its own. -/
theorem network_stat_iff (t : ProcNetDev) (own : Interface) (hown : own ∈ t.interfaces)
    (hname : own.name = rmnetData0) : ReadsCounters t own ↔ ∀ i, t.found = some i →
    (∀ j < 9, i.counter j ≤ 2147483647) ∧
      ∀ k ∈ [0, 1, 8, 9], min (i.counter k) 2147483647 = min (own.counter k) 2147483647 := by
  obtain ⟨i, hi⟩ : ∃ i, t.found = some i := by
    rw [← Option.isSome_iff_exists, ProcNetDev.found, List.find?_isSome]
    exact ⟨own, hown, decide_eq_true (hname ▸ List.infix_rfl)⟩
  constructor
  · intro h i' hi'
    obtain rfl := Option.some.inj (hi.symm.trans hi')
    have hfit : ∀ j < 9, i.counter j ≤ 2147483647 := by
      intro j hj
      by_contra hlarge
      obtain ⟨x, hx⟩ : ∃ x, x ≠ Int32.ofIntClamp (own.counter 9) := by
        by_contra hall
        push Not at hall
        exact absurd ((hall 0).trans (hall 1).symm) (by decide)
      have hfields := h (fun _ => x) {}
      rw [networkStat_text i hi, NetworkInfo.mk.injEq, getD_stored_large i j hj hlarge] at hfields
      exact hx hfields.2.2.2
    refine ⟨hfit, ?_⟩
    have hfields := h (fun _ => 0) {}
    rw [networkStat_text i hi, getD_stored i 0 (by decide) hfit, getD_stored i 1 (by decide) hfit,
      getD_stored i 8 (by decide) hfit, getD_stored i 9 (by decide) hfit,
        NetworkInfo.mk.injEq] at hfields
    simp only [ofIntClamp_natCast_inj] at hfields
    simpa only [List.forall_mem_cons, List.not_mem_nil, false_imp_iff, implies_true,
      and_true] using hfields
  · intro h uninitialised n
    obtain ⟨hfit, hagree⟩ := h i hi
    simp only [List.forall_mem_cons, ← ofIntClamp_natCast_inj] at hagree
    obtain ⟨h₀, h₁, h₈, h₉, -⟩ := hagree
    rw [networkStat_text i hi, getD_stored i 0 (by decide) hfit, getD_stored i 1 (by decide) hfit,
      getD_stored i 8 (by decide) hfit, getD_stored i 9 (by decide) hfit, h₀, h₁, h₈, h₉]

/-- An interface with the first two counters given, and the others at zero. -/
def quietInterface (name : String) (received packets : Fin 18446744073709551616)
    (hname : ∀ b ∈ ascii name, isspace b = false) : Interface where
  indent := 0
  name := ascii name
  counters := (0, received) :: (0, packets) :: List.replicate 14 (0, 0)
  name_plain := hname
  length_counters := rfl
  counters_lt := by
    intro counter h
    simp only [List.mem_cons, List.mem_replicate] at h
    rcases h with rfl | rfl | ⟨-, rfl⟩
    · exact received.isLt
    · exact packets.isLt
    · decide

def singleInterface (i : Interface) : ProcNetDev where
  header := []
  interfaces := [i]
  header_plain := fun _ h => by cases h

theorem rmnetData0_plain : ∀ b ∈ ascii "rmnet_data0", isspace b = false := by
  decide +kernel

theorem v4Rmnet_plain : ∀ b ∈ ascii "v4-rmnet_data0", isspace b = false := by
  decide +kernel

theorem network_stat_small :
    ReadsCounters (singleInterface (quietInterface "rmnet_data0" 700 5 rmnetData0_plain))
    (quietInterface "rmnet_data0" 700 5 rmnetData0_plain) := by
  refine (network_stat_iff _ _ List.mem_cons_self rfl).mpr ?_
  intro i hi
  obtain rfl := List.mem_singleton.mp (List.mem_of_find?_eq_some hi)
  exact ⟨by decide +kernel, fun _ _ => rfl⟩

/-- An interface that tunnels through the mobile one is listed in front of it. -/
def tunnelFirst : ProcNetDev where
  header := []
  interfaces := [quietInterface "v4-rmnet_data0" 0 0 v4Rmnet_plain,
    quietInterface "rmnet_data0" 700 5 rmnetData0_plain]
  header_plain := fun _ h => by cases h

/-- After three gigabytes the packets are not counted any more, and with a tunnel in front
those of the tunnel are. -/
theorem network_stat_fails :
    ¬ReadsCounters (singleInterface (quietInterface "rmnet_data0" 3000000000 5 rmnetData0_plain))
      (quietInterface "rmnet_data0" 3000000000 5 rmnetData0_plain) ∧
    ¬ReadsCounters tunnelFirst (quietInterface "rmnet_data0" 700 5 rmnetData0_plain) := by
  constructor
  · intro h
    have hpkt := congrArg NetworkInfo.recv_pkt (h (fun _ => 0) {})
    revert hpkt
    decide +kernel
  · intro h
    have hpkt := congrArg NetworkInfo.recv_pkt (h (fun _ => 0) {})
    revert hpkt
    decide +kernel

end MmWaveTracker
