import MmWaveTracker.Report

/-! The speeds of `setSpeeds` against the rate they stand for. -/
namespace MmWaveTracker

/-- The rate between two readings of a counter, in megabits per second; times are in
milliseconds. -/
def trueRate (b0 b1 t0 t1 : ℤ) : ℚ := 8*(b1-b0)/(1000*(t1-t0))

/-- Two readings of a byte counter, at least a second apart. -/
structure Readings (b0 b1 t0 t1 : ℤ) : Prop where
  nonneg : 0 ≤ b0
  le : b0 ≤ b1
  long : b1 < 9223372036854775808
  second : 1000 ≤ t1-t0
  rate : trueRate b0 b1 t0 t1 < 2147483648

def Within1 (speed : ℤ) (rate : ℚ) : Prop := |(speed:ℚ) - rate| ≤ 1

/-- Both speeds are within one megabit per second. -/
structure SpeedsAccurate (r : Report) (rx_bytes tx_bytes t0 : ℤ) : Prop where
  rx : Within1 (setSpeeds r rx_bytes tx_bytes (some t0)).mobileRx_diff_Mbps
    (trueRate rx_bytes r.traffic.mobileRxBytes t0 r.timeStamp)
  tx : Within1 (setSpeeds r rx_bytes tx_bytes (some t0)).mobileTx_diff_Mbps
    (trueRate tx_bytes r.traffic.mobileTxBytes t0 r.timeStamp)

def wholeSeconds (t0 t1 : ℤ) : ℤ := (t1-t0)/1000

/-- The milliseconds that the whole seconds leave out. -/
def millisCut (t0 t1 : ℤ) : ℤ := (t1-t0)%1000

def megabits (b0 b1 : ℤ) : ℚ := 8*(b1-b0)/1000000

/-- What is added to the rate when the window is cut to whole seconds. -/
def addedRate (b0 b1 t0 t1 : ℤ) : ℚ :=
  trueRate b0 b1 t0 t1*millisCut t0 t1/(1000*wholeSeconds t0 t1)

/-- The megabits of a number of bits that is out of the range of `long`. -/
def megabitsWrapped (b0 b1 : ℤ) : ℤ := Int.tdiv (wrap64 (8*(b1-b0))) 1000000

/-- The rate that the cut adds stays under the rounding, the result saturates where the rate itself
does, or the bits overflow in a window so long that they make no difference. -/
inductive Tolerable (b0 b1 t0 t1 : ℤ) : Prop where
  | cut (fits : b1-b0 < 1152921504606846976)
      (added : addedRate b0 b1 t0 t1 < 3/2 - Int.fract (trueRate b0 b1 t0 t1) +
        Int.fract (megabits b0 b1)/wholeSeconds t0 t1)
  | saturated (fits : b1-b0 < 1152921504606846976) (top : 2147483646 ≤ trueRate b0 b1 t0 t1)
  | wrapped (overflow : 1152921504606846976 ≤ b1-b0)
      (slow : trueRate b0 b1 t0 t1 ≤ 1 ∨
        ⌈trueRate b0 b1 t0 t1⌉ - 3/2 ≤ (megabitsWrapped b0 b1 : ℚ)/wholeSeconds t0 t1)

/-! Rounding. -/

/-- The speed is at most one too high. -/
theorem round_le_iff (q rate : ℚ) (hrate : 0 ≤ rate) :
    (max 0 (mathRound q) : ℤ) ≤ rate + 1 ↔ 2147483646 ≤ rate ∨ q < ⌊rate⌋ + 3/2 := by
  have hfloor : 0 ≤ ⌊rate⌋ := Int.floor_nonneg.mpr hrate
  have hint : ((max 0 (mathRound q) : ℤ) : ℚ) ≤ rate + 1 ↔ max 0 (mathRound q) ≤ ⌊rate⌋ + 1 := by
    rw [← Int.le_floor, Int.floor_add_one]
  have htop : (2147483646:ℚ) ≤ rate ↔ 2147483646 ≤ ⌊rate⌋ := by
    rw [Int.le_floor]
    norm_num
  have hround : q < ⌊rate⌋ + 3/2 ↔ ⌊q + 1/2⌋ < ⌊rate⌋ + 2 := by
    rw [Int.floor_lt]
    push_cast
    constructor <;> intro h <;> linarith
  rw [hint, htop, hround, mathRound]
  omega

/-- The speed is at most one too low. -/
theorem le_round_iff (q rate : ℚ) (hrate : rate < 2147483648) :
    rate - 1 ≤ (max 0 (mathRound q) : ℤ) ↔ rate ≤ 1 ∨ ⌈rate⌉ - 3/2 ≤ q := by
  have hceil : ⌈rate⌉ ≤ 2147483648 := Int.ceil_le.mpr (by push_cast; exact hrate.le)
  have hint : rate - 1 ≤ ((max 0 (mathRound q) : ℤ) : ℚ) ↔ ⌈rate⌉ - 1 ≤ max 0 (mathRound q) := by
    rw [← Int.ceil_le, Int.ceil_sub_one]
  have hone : rate ≤ 1 ↔ ⌈rate⌉ ≤ 1 := by
    rw [Int.ceil_le]
    norm_num
  have hround : (⌈rate⌉:ℚ) - 3/2 ≤ q ↔ ⌈rate⌉ - 1 ≤ ⌊q + 1/2⌋ := by
    rw [Int.le_floor]
    push_cast
    constructor <;> intro h <;> linarith
  rw [hint, hone, hround, mathRound]
  omega

theorem within1_round_iff (q rate : ℚ) (hnonneg : 0 ≤ rate) (hlt : rate < 2147483648) :
    Within1 (max 0 (mathRound q)) rate ↔
      (2147483646 ≤ rate ∨ q < ⌊rate⌋ + 3/2) ∧ (rate ≤ 1 ∨ ⌈rate⌉ - 3/2 ≤ q) := by
  rw [← round_le_iff q rate hnonneg, ← le_round_iff q rate hlt, Within1, abs_le]
  constructor
  · rintro ⟨hlow, hhigh⟩
    constructor <;> linarith
  · rintro ⟨hhigh, hlow⟩
    constructor <;> linarith

/-! One window. -/

section Readings

variable {b0 b1 t0 t1 : ℤ}

theorem wholeSeconds_pos (h : Readings b0 b1 t0 t1) : 1 ≤ wholeSeconds t0 t1 := by
  have hsecond := h.second
  unfold wholeSeconds
  omega

/-- The window is its whole seconds and the rest. -/
theorem window_eq (t0 t1 : ℤ) : t1-t0 = 1000*wholeSeconds t0 t1 + millisCut t0 t1 :=
  (Int.mul_ediv_add_emod (t1-t0) 1000).symm

theorem millisCut_bounds (t0 t1 : ℤ) : 0 ≤ millisCut t0 t1 ∧ millisCut t0 t1 < 1000 :=
  ⟨Int.emod_nonneg _ (by decide), Int.emod_lt_of_pos _ (by decide)⟩

theorem trueRate_nonneg (h : Readings b0 b1 t0 t1) : 0 ≤ trueRate b0 b1 t0 t1 := by
  have hbytes : (0:ℚ) ≤ b1-b0 := by exact_mod_cast sub_nonneg.mpr h.le
  have htime : (0:ℚ) ≤ t1-t0 := by
    have hsecond := h.second
    exact_mod_cast (show 0 ≤ t1-t0 by omega)
  unfold trueRate
  positivity

/-- The speed is the rounded quotient of megabits and whole seconds. -/
theorem speedAfter_eq (h : Readings b0 b1 t0 t1) (speed : ℤ) :
    speedAfter b1 b0 t1 (some t0) speed =
      max 0 (mathRound ((megabitsWrapped b0 b1 : ℚ)/wholeSeconds t0 t1)) := by
  obtain ⟨hnonneg, hle, hlong, hsecond, -⟩ := h
  have hmax : max (t1-t0) 1000 = t1-t0 := max_eq_left hsecond
  have hwrap : wrap64 (wrap64 (b1-b0)*8) = wrap64 (8*(b1-b0)) := by
    have hb : wrap64 (b1-b0) = b1-b0 := by
      unfold wrap64
      omega
    rw [hb, mul_comm]
  unfold speedAfter diffMbps
  simp only [hmax, hwrap]
  rfl

theorem megabitsWrapped_of_fits (h : Readings b0 b1 t0 t1) (hfits : b1-b0 < 1152921504606846976) :
    megabitsWrapped b0 b1 = ⌊megabits b0 b1⌋ := by
  have hle := h.le
  have hwrap : wrap64 (8*(b1-b0)) = 8*(b1-b0) := by
    unfold wrap64
    omega
  have hfloor : ⌊megabits b0 b1⌋ = 8*(b1-b0)/1000000 := by
    have hcast : megabits b0 b1 = ((8*(b1-b0) : ℤ) : ℚ)/((1000000:ℕ):ℚ) := by
      unfold megabits
      push_cast
      rfl
    rw [hcast, Rat.floor_intCast_div_natCast]
    rfl
  rw [megabitsWrapped, hwrap, hfloor, Int.tdiv_eq_ediv_of_nonneg (by omega)]

/-- Over the whole seconds the megabits make the true rate and what the cut adds. -/
theorem megabits_div (h : Readings b0 b1 t0 t1) :
    megabits b0 b1/wholeSeconds t0 t1 = trueRate b0 b1 t0 t1 + addedRate b0 b1 t0 t1 := by
  have hpos : (0:ℚ) < wholeSeconds t0 t1 := by exact_mod_cast wholeSeconds_pos h
  have hcut : (0:ℚ) ≤ millisCut t0 t1 := by exact_mod_cast (millisCut_bounds t0 t1).1
  have hwindow : (t1:ℚ)-t0 = 1000*wholeSeconds t0 t1 + millisCut t0 t1 := by
    exact_mod_cast window_eq t0 t1
  unfold megabits addedRate trueRate
  rw [hwindow]
  field_simp
  ring

/-- Without overflow the speed is never more than one too low. -/
theorem le_megabits_div (h : Readings b0 b1 t0 t1) :
    (⌈trueRate b0 b1 t0 t1⌉:ℚ) - 3/2 ≤ (⌊megabits b0 b1⌋:ℚ)/wholeSeconds t0 t1 := by
  have hwhole := wholeSeconds_pos h
  have hadded : 0 ≤ addedRate b0 b1 t0 t1 := by
    have hcut : (0:ℚ) ≤ millisCut t0 t1 := by exact_mod_cast (millisCut_bounds t0 t1).1
    have hpos : (0:ℚ) ≤ wholeSeconds t0 t1 := by exact_mod_cast (by omega : 0 ≤ wholeSeconds t0 t1)
    have hrate := trueRate_nonneg h
    unfold addedRate
    positivity
  have hdiv := megabits_div h
  rcases hwhole.eq_or_lt with hone | htwo
  · rw [← hone, Int.cast_one, div_one] at hdiv ⊢
    have hceil : ⌈trueRate b0 b1 t0 t1⌉ ≤ ⌈megabits b0 b1⌉ := Int.ceil_mono (by linarith)
    have hfloor : ⌈megabits b0 b1⌉ ≤ ⌊megabits b0 b1⌋ + 1 := Int.ceil_le_floor_add_one _
    have hle : (⌈trueRate b0 b1 t0 t1⌉:ℚ) ≤ ⌊megabits b0 b1⌋ + 1 := by
      exact_mod_cast hceil.trans hfloor
    linarith
  · have hpos : (2:ℚ) ≤ wholeSeconds t0 t1 := by exact_mod_cast htwo
    have hceil := Int.ceil_lt_add_one (trueRate b0 b1 t0 t1)
    have hfloor := Int.lt_floor_add_one (megabits b0 b1)
    have hlost : (megabits b0 b1 - ⌊megabits b0 b1⌋)/wholeSeconds t0 t1 ≤ 1/2 := by
      rw [div_le_div_iff₀ (by linarith) (by norm_num)]
      linarith
    rw [sub_div] at hlost
    linarith

/-- An overflow leaves at most a third of the bits. -/
theorem megabitsWrapped_le (h : Readings b0 b1 t0 t1) (hoverflow : 1152921504606846976 ≤ b1-b0) :
    3000000*megabitsWrapped b0 b1 ≤ 8*(b1-b0) := by
  obtain ⟨hnonneg, -, hlong, -, -⟩ := h
  have hwrap : 3*wrap64 (8*(b1-b0)) ≤ 8*(b1-b0) := by
    unfold wrap64
    omega
  unfold megabitsWrapped
  rcases le_total 0 (wrap64 (8*(b1-b0))) with hw | hw
  · rw [Int.tdiv_eq_ediv_of_nonneg hw]
    omega
  · have htdiv : Int.tdiv (wrap64 (8*(b1-b0))) 1000000 = -(-wrap64 (8*(b1-b0))/1000000) := by
      rw [← Int.tdiv_eq_ediv_of_nonneg (neg_nonneg.mpr hw), Int.neg_tdiv, neg_neg]
    omega

/-- So the speed is not too high. -/
theorem megabitsWrapped_div_lt (h : Readings b0 b1 t0 t1)
    (hoverflow : 1152921504606846976 ≤ b1-b0) :
    (megabitsWrapped b0 b1 : ℚ)/wholeSeconds t0 t1 < ⌊trueRate b0 b1 t0 t1⌋ + 3/2 := by
  have hbits := megabitsWrapped_le h hoverflow
  have hwhole := wholeSeconds_pos h
  have hwindow := window_eq t0 t1
  have hcut := (millisCut_bounds t0 t1).2
  have hint : megabitsWrapped b0 b1*(1000*(t1-t0)) ≤ 8*(b1-b0)*wholeSeconds t0 t1 := by
    have hpos : 0 < t1-t0 := by linarith [h.second]
    rcases le_total 0 (megabitsWrapped b0 b1) with hm | hm
    · calc
        megabitsWrapped b0 b1*(1000*(t1-t0)) ≤ megabitsWrapped b0 b1*(2000000*wholeSeconds t0 t1) :=
          mul_le_mul_of_nonneg_left (by omega) hm
        _ = 2000000*megabitsWrapped b0 b1*wholeSeconds t0 t1 := by ring
        _ ≤ 8*(b1-b0)*wholeSeconds t0 t1 := mul_le_mul_of_nonneg_right (by omega) (by omega)
    · calc
        megabitsWrapped b0 b1*(1000*(t1-t0)) ≤ 0 := mul_nonpos_of_nonpos_of_nonneg hm (by omega)
        _ ≤ 8*(b1-b0)*wholeSeconds t0 t1 := mul_nonneg (by omega) (by omega)
  have hrate : (megabitsWrapped b0 b1 : ℚ)/wholeSeconds t0 t1 ≤ trueRate b0 b1 t0 t1 := by
    unfold trueRate
    rw [div_le_div_iff₀ (by exact_mod_cast hwhole)
      (by exact_mod_cast (by linarith [h.second] : 0 < 1000*(t1-t0)))]
    exact_mod_cast hint
  have hfloor := Int.lt_floor_add_one (trueRate b0 b1 t0 t1)
  linarith

/-- One of the two speeds. -/
theorem within1_speedAfter_iff (h : Readings b0 b1 t0 t1) (speed : ℤ) :
    Within1 (speedAfter b1 b0 t1 (some t0) speed) (trueRate b0 b1 t0 t1) ↔
      Tolerable b0 b1 t0 t1 := by
  rw [speedAfter_eq h, within1_round_iff _ _ (trueRate_nonneg h) h.rate]
  by_cases hfits : b1-b0 < 1152921504606846976
  · have hlow := le_megabits_div h
    have hadded : (⌊megabits b0 b1⌋:ℚ)/wholeSeconds t0 t1 < ⌊trueRate b0 b1 t0 t1⌋ + 3/2 ↔
        addedRate b0 b1 t0 t1 < 3/2 - Int.fract (trueRate b0 b1 t0 t1) +
          Int.fract (megabits b0 b1)/wholeSeconds t0 t1 := by
      have hdiv := megabits_div h
      rw [Int.fract, Int.fract, sub_div]
      constructor <;> intro hlt <;> linarith
    rw [megabitsWrapped_of_fits h hfits, hadded]
    constructor
    · rintro ⟨htop | hcut, -⟩
      · exact .saturated hfits htop
      · exact .cut hfits hcut
    · rintro (⟨-, hcut⟩ | ⟨-, htop⟩ | ⟨hoverflow, -⟩)
      · exact ⟨.inr hcut, .inr hlow⟩
      · exact ⟨.inl htop, .inr hlow⟩
      · exact absurd hfits (not_lt.mpr hoverflow)
  · have hoverflow := not_lt.mp hfits
    have hhigh := megabitsWrapped_div_lt h hoverflow
    constructor
    · rintro ⟨-, hslow⟩
      exact .wrapped hoverflow hslow
    · rintro (⟨hlt, -⟩ | ⟨hlt, -⟩ | ⟨-, hslow⟩)
      · exact absurd hlt hfits
      · exact absurd hlt hfits
      · exact ⟨.inr hhigh, hslow⟩

end Readings

/-- Both speeds are accurate exactly when both windows are tolerable. -/
theorem throughput_accurate_iff (r : Report) (rx_bytes tx_bytes t0 : ℤ)
    (hrx : Readings rx_bytes r.traffic.mobileRxBytes t0 r.timeStamp)
    (htx : Readings tx_bytes r.traffic.mobileTxBytes t0 r.timeStamp) :
    SpeedsAccurate r rx_bytes tx_bytes t0 ↔
      Tolerable rx_bytes r.traffic.mobileRxBytes t0 r.timeStamp ∧
      Tolerable tx_bytes r.traffic.mobileTxBytes t0 r.timeStamp := by
  rw [← within1_speedAfter_iff hrx r.mobileRx_diff_Mbps,
    ← within1_speedAfter_iff htx r.mobileTx_diff_Mbps]
  constructor
  · exact fun h => ⟨h.rx, h.tx⟩
  · exact fun h => ⟨h.1, h.2⟩

/-- A report with the given counters. -/
def countersAt (bytes timeStamp : ℤ) : Report :=
  { timeStamp, traffic := ⟨bytes, bytes, 0, 0, 0, 0, 0, 0⟩ }

theorem throughput_accurate_second :
    Readings 0 1250000 0 1000 ∧ SpeedsAccurate (countersAt 1250000 1000) 0 0 0 := by
  have h : Readings 0 1250000 0 1000 :=
    ⟨by decide, by decide, by decide, by decide, by decide +kernel⟩
  have htolerable : Tolerable 0 1250000 0 1000 := .cut (by decide) (by decide +kernel)
  exact ⟨h, (throughput_accurate_iff (countersAt 1250000 1000) 0 0 0 h h).mpr
    ⟨htolerable, htolerable⟩⟩

/-- In a window of just under two seconds the speed is almost doubled. -/
theorem throughput_fails :
    Readings 0 2500000 0 1999 ∧
      (setSpeeds (countersAt 2500000 1999) 0 0 (some 0)).mobileRx_diff_Mbps = 20 ∧
    trueRate 0 2500000 0 1999 = 20000/1999 ∧ ¬ SpeedsAccurate (countersAt 2500000 1999) 0 0 0 := by
  have hspeed : (setSpeeds (countersAt 2500000 1999) 0 0 (some 0)).mobileRx_diff_Mbps = 20 := by
    decide +kernel
  have hrate : trueRate 0 2500000 0 1999 = 20000/1999 := by decide +kernel
  refine ⟨⟨by decide, by decide, by decide, by decide, by decide +kernel⟩, hspeed, hrate, ?_⟩
  intro h
  have hrx := h.rx
  rw [hspeed, Within1] at hrx
  change |((20:ℤ):ℚ) - trueRate 0 2500000 0 1999| ≤ 1 at hrx
  rw [hrate, abs_le] at hrx
  norm_num at hrx

end MmWaveTracker
