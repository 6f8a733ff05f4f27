import MmWaveTracker.Uplink
import Mathlib.Data.Rat.Floor
import Mathlib.Tactic.Linarith
import Mathlib.Tactic.NormNum

/-! The runtime parameters that `run_client` makes of the requested rate and time.
Doubles are read as exact rationals. -/
namespace MmWaveTracker

def bitsPerByte : ℚ := 8
def kilo : ℚ := 1024
def mega : ℚ := kilo*kilo

/-- `SENDING_RATE_CONST`: packets per millisecond for one megabit per second. -/
def sendingRateConst : ℚ := (mega/bitsPerByte)/((pktPayloadLen:ℚ)*1000)

/-- `std::round`: halfway cases go away from zero. -/
def stdRound (x : ℚ) : ℤ := if 0 ≤ x then ⌊x + 1/2⌋ else -⌊-x + 1/2⌋

def runtimeParameters (sending_rate_mbps : ℚ) (time_to_run : ℤ) : Pacing :=
  let duration := uint64OfInt (wrap32 (time_to_run*1000))
  let pkts_per_ms := sending_rate_mbps*sendingRateConst
  if 1/sendingRateConst > sending_rate_mbps then
    { milliseconds_to_sleep := uint64OfInt (max 1 (wrap32 (stdRound (1/pkts_per_ms))))
      pkts_to_send := 1
      duration }
  else
    { milliseconds_to_sleep := 1
      pkts_to_send := uint64OfInt (max 1 (wrap32 (stdRound pkts_per_ms)))
      duration }

theorem runtimeParameters_duration (sending_rate_mbps : ℚ) (time_to_run : ℤ) :
    (runtimeParameters sending_rate_mbps time_to_run).duration = uint64OfInt
    (wrap32 (time_to_run*1000)) := by
  unfold runtimeParameters
  split_ifs <;> rfl

/-! Rounding a number that is at least one. -/

section Rounding

variable {y : ℚ}

theorem stdRound_of_nonneg (hy : 0 ≤ y) : stdRound y = ⌊y + 1/2⌋ := if_pos hy

theorem stdRound_intCast (k : ℤ) (hk : (0:ℚ) ≤ k) : stdRound (k:ℚ) = k := by
  rw [stdRound_of_nonneg hk, Int.floor_eq_iff]
  constructor <;> linarith

theorem one_le_stdRound (hy : 1 ≤ y) : 1 ≤ stdRound y := by
  rw [stdRound_of_nonneg (by linarith), Int.le_floor]
  push_cast
  linarith

/-- The quotient of a number and its rounded value is off by less than half. -/
theorem stdRound_bounds (hy : 1 ≤ y) : 2/3*y < stdRound y ∧ (stdRound y : ℚ) < 3/2*y := by
  have hone : (1:ℚ) ≤ stdRound y := by exact_mod_cast one_le_stdRound hy
  have hle : (stdRound y : ℚ) ≤ y + 1/2 := by
    rw [stdRound_of_nonneg (by linarith)]
    exact Int.floor_le _
  have hlt : y + 1/2 < (stdRound y : ℚ) + 1 := by
    rw [stdRound_of_nonneg (by linarith)]
    exact Int.lt_floor_add_one _
  refine ⟨by linarith, ?_⟩
  rcases hy.lt_or_eq with hy | hy
  · linarith
  · have hround : stdRound y = 1 := by
      rw [← hy]
      exact_mod_cast stdRound_intCast 1 (by norm_num)
    rw [hround, ← hy]
    norm_num

theorem toNat_uint64OfInt_max (n : ℤ) (hn : 1 ≤ n) (hfit : n ≤ 2147483647) :
    ((uint64OfInt (max 1 (wrap32 n))).toNat : ℤ) = n := by
  have hwrap : wrap32 n = n := wrap32_of_range n (by omega) (by omega)
  obtain ⟨k, rfl⟩ := Int.eq_ofNat_of_zero_le (by omega : 0 ≤ n)
  rw [hwrap, max_eq_right hn, toNat_uint64OfInt k (by omega)]

end Rounding

/-! The two sides of one packet a millisecond. -/

theorem sendingRateConst_pos : 0 < sendingRateConst := by
  norm_num [sendingRateConst, mega, kilo, bitsPerByte, pktPayloadLen]

/-- The rate of packets that the rounded parameters stand for. -/
def Pacing.rate (p : Pacing) : ℚ := p.pkts_to_send.toNat/p.milliseconds_to_sleep.toNat

/-- The number that `run_client` rounds: milliseconds for one packet, or packets in one
millisecond. -/
def quotient (sending_rate_mbps : ℚ) : ℚ :=
  if 1/sendingRateConst > sending_rate_mbps then 1/(sending_rate_mbps*sendingRateConst)
  else sending_rate_mbps*sendingRateConst

section Regimes

variable {r : ℚ} (time_to_run : ℤ)

theorem one_le_quotient (hr : 0 < r) : 1 ≤ quotient r := by
  have hx : 0 < r*sendingRateConst := mul_pos hr sendingRateConst_pos
  unfold quotient
  split_ifs with hslow
  · rw [gt_iff_lt, lt_div_iff₀ sendingRateConst_pos] at hslow
    exact (one_le_div hx).mpr hslow.le
  · rw [gt_iff_lt, lt_div_iff₀ sendingRateConst_pos] at hslow
    exact not_lt.mp hslow

theorem runtimeParameters_slow (hr : 0 < r) (hslow : 1/sendingRateConst > r)
    (hfit : stdRound (quotient r) ≤ 2147483647) :
    (runtimeParameters r time_to_run).pkts_to_send = 1 ∧
      1 ≤ (runtimeParameters r time_to_run).milliseconds_to_sleep ∧
    (runtimeParameters r time_to_run).rate = 1/stdRound (1/(r*sendingRateConst)) := by
  have hone := one_le_stdRound (one_le_quotient hr)
  have hq : quotient r = 1/(r*sendingRateConst) := if_pos hslow
  rw [hq] at hone hfit
  have hms := toNat_uint64OfInt_max _ hone hfit
  rw [runtimeParameters, if_pos hslow, UInt64.le_iff_toNat_le, Pacing.rate]
  refine ⟨rfl, ?_, ?_⟩
  · change 1 ≤ (uint64OfInt _).toNat
    omega
  · have hcast : ((uint64OfInt (max 1 (wrap32 (stdRound (1/(r*sendingRateConst)))))).toNat : ℚ) =
        stdRound (1/(r*sendingRateConst)) := by exact_mod_cast hms
    rw [hcast]
    change ((1:ℕ):ℚ)/_ = _
    rw [Nat.cast_one]

theorem runtimeParameters_fast (hr : 0 < r) (hslow : ¬1/sendingRateConst > r)
    (hfit : stdRound (quotient r) ≤ 2147483647) :
    (runtimeParameters r time_to_run).milliseconds_to_sleep = 1 ∧
      1 ≤ (runtimeParameters r time_to_run).pkts_to_send ∧
    (runtimeParameters r time_to_run).rate = stdRound (r*sendingRateConst) := by
  have hone := one_le_stdRound (one_le_quotient hr)
  have hq : quotient r = r*sendingRateConst := if_neg hslow
  rw [hq] at hone hfit
  have hpkts := toNat_uint64OfInt_max _ hone hfit
  rw [runtimeParameters, if_neg hslow, UInt64.le_iff_toNat_le, Pacing.rate]
  refine ⟨rfl, ?_, ?_⟩
  · change 1 ≤ (uint64OfInt _).toNat
    omega
  · have hcast : ((uint64OfInt (max 1 (wrap32 (stdRound (r*sendingRateConst))))).toNat : ℚ) =
        stdRound (r*sendingRateConst) := by exact_mod_cast hpkts
    rw [hcast]
    change _/((1:ℕ):ℚ) = _
    rw [Nat.cast_one, div_one]

end Regimes

section Whole

variable {x : ℚ}

/-- Below one packet a millisecond only the number of milliseconds can be whole. -/
theorem slow_exact (hx : 0 < x) (hlt : x < 1) (h : (∃ k : ℤ, x = k) ∨ ∃ k : ℤ, 1/x = k) :
    1/(stdRound (1/x) : ℚ) = x := by
  rcases h with ⟨k, hk⟩ | ⟨k, hk⟩
  · have h₀ : 0 < k := by exact_mod_cast hk ▸ hx
    have h₁ : k < 1 := by exact_mod_cast hk ▸ hlt
    omega
  · have hk₀ : (0:ℚ) ≤ k := by
      rw [← hk]
      exact (one_div_pos.mpr hx).le
    rw [hk, stdRound_intCast k hk₀, ← hk, one_div_one_div]

/-- From one packet a millisecond on the number of milliseconds is whole at one only. -/
theorem fast_exact (hle : 1 ≤ x) (h : (∃ k : ℤ, x = k) ∨ ∃ k : ℤ, 1/x = k) :
    (stdRound x : ℚ) = x := by
  have hx : 0 < x := by linarith
  rcases h with ⟨k, hk⟩ | ⟨k, hk⟩
  · rw [hk, stdRound_intCast k (hk ▸ hx.le)]
  · have h₀ : 0 < k := by exact_mod_cast hk ▸ one_div_pos.mpr hx
    have h₁ : k ≤ 1 := by exact_mod_cast hk ▸ (div_le_one hx).mpr hle
    obtain rfl : k = 1 := by omega
    rw [Int.cast_one, div_eq_one_iff_eq hx.ne'] at hk
    have hround := stdRound_intCast 1 (by norm_num)
    rw [Int.cast_one] at hround
    rw [← hk, hround, Int.cast_one]

end Whole

/-- Rounding leaves the requested rate within a factor of 3/2, and keeps it where it is a
whole number of packets a millisecond or of milliseconds a packet. -/
theorem pacing_error_bounded (r : ℚ) (time_to_run : ℤ) (hr : 0 < r)
    (hfit : stdRound (quotient r) ≤ 2147483647) :
    let p := runtimeParameters r time_to_run
    let x := r*sendingRateConst
    1 ≤ p.milliseconds_to_sleep ∧ 1 ≤ p.pkts_to_send ∧
      (p.milliseconds_to_sleep = 1 ∨ p.pkts_to_send = 1) ∧
    2/3 < p.rate/x ∧ p.rate/x < 3/2 ∧ ((∃ k : ℤ, x = k) ∨ (∃ k : ℤ, 1/x = k) → p.rate = x) := by
  intro p x
  have hx : 0 < x := mul_pos hr sendingRateConst_pos
  obtain ⟨hlow, hhigh⟩ := stdRound_bounds (one_le_quotient hr)
  have hpos : (0:ℚ) < stdRound (quotient r) := by
    exact_mod_cast one_le_stdRound (one_le_quotient hr)
  by_cases hslow : 1/sendingRateConst > r
  · obtain ⟨hpkts, hms, hrate⟩ := runtimeParameters_slow time_to_run hr hslow hfit
    have hq : quotient r = 1/x := if_pos hslow
    rw [hq] at hlow hhigh hpos
    have hlt : x < 1 := by rwa [gt_iff_lt, lt_div_iff₀ sendingRateConst_pos] at hslow
    have hratio : p.rate/x = (1/x)/stdRound (1/x) := by
      rw [hrate, div_right_comm]
    refine ⟨hms, hpkts ▸ UInt64.le_refl _, .inr hpkts, ?_, ?_, fun h =>
      hrate.trans (slow_exact hx hlt h)⟩
    · rw [hratio, lt_div_iff₀ hpos]
      linarith
    · rw [hratio, div_lt_iff₀ hpos]
      linarith
  · obtain ⟨hms, hpkts, hrate⟩ := runtimeParameters_fast time_to_run hr hslow hfit
    have hq : quotient r = x := if_neg hslow
    rw [hq] at hlow hhigh
    have hle : 1 ≤ x := hq ▸ one_le_quotient hr
    refine ⟨hms ▸ UInt64.le_refl _, hpkts, .inl hms, ?_, ?_, fun h =>
      hrate.trans (fast_exact hle h)⟩
    · rw [hrate, lt_div_iff₀ hx]
      exact hlow
    · rw [hrate, div_lt_iff₀ hx]
      exact hhigh

/-- One hundred megabits per second are sent as eleven packets in each millisecond. -/
theorem pacing_error_hundred : (runtimeParameters 100 10).pkts_to_send = 11 ∧
    2/3 < (runtimeParameters 100 10).rate/(100*sendingRateConst) := by
  have hfit : stdRound (quotient 100) ≤ 2147483647 := by decide +kernel
  exact ⟨by decide +kernel, (pacing_error_bounded 100 10 (by norm_num) hfit).2.2.2.1⟩

end MmWaveTracker
