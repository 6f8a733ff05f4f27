import MmWaveTracker.Packet

/-! The clock of `udprecvlib/timestamp.cpp`, and the state of the native client that its
functions work on. -/
namespace MmWaveTracker

/-- A reading of `CLOCK_REALTIME`, which the kernel keeps as a 64-bit number of nanoseconds. -/
structure Timespec where
  tv_sec : ℕ
  tv_nsec : ℕ
  nsec_lt : tv_nsec < 1000000000
  nanos_lt : tv_sec*1000000000 + tv_nsec < 18446744073709551616

namespace Timespec

def zero : Timespec := ⟨0, 0, by decide, by decide⟩

def nanos (ts : Timespec) : ℕ := ts.tv_sec*1000000000 + ts.tv_nsec

/-- The millisecond since 1970 that the reading falls into. -/
def millis (ts : Timespec) : ℕ := ts.nanos/1000000

end Timespec

/-- What the client runs on: the byte order, the successive readings of the clock, and
whether the `n`-th `sendto` takes the whole datagram. -/
structure Native where
  host : ByteOrder
  clock : ℕ → Timespec
  sends : ℕ → Bool

/-- One call of `timestamp_ms`, with the time it was asked about. -/
structure TimestampCall where
  ts : Timespec
  value : UInt64

/-- `epoch` is the static of `timestamp_ms`, and `calls` are its calls so far. -/
structure Client where
  readings : ℕ := 0
  epoch : Option UInt64 := none
  senderRunning : Bool := true
  log : List String := []
  sent : List Bytes := []
  calls : List TimestampCall := []

def million : UInt64 := 1000000
def billion : UInt64 := 1000*million

def currentTime (N : Native) (c : Client) : Timespec × Client :=
  (N.clock c.readings, { c with readings := c.readings+1 })

def timestampMsRaw (ts : Timespec) : UInt64 :=
  (UInt64.ofNat ts.tv_sec*billion + UInt64.ofNat ts.tv_nsec)/million

/-- `const static uint64_t EPOCH`: initialised by the first call, from a reading of its own. -/
def epochOf (N : Native) (c : Client) : UInt64 × Client :=
  match c.epoch with
  | some epoch => (epoch, c)
  | none =>
    let (now, c) := currentTime N c
    (timestampMsRaw now, { c with epoch := some (timestampMsRaw now) })

/-- `timestamp_ms(const timespec &)`. -/
def timestampMsOf (N : Native) (ts : Timespec) (c : Client) : UInt64 × Client :=
  let (epoch, c) := epochOf N c
  let value := timestampMsRaw ts - epoch
  (value, { c with calls := c.calls ++ [⟨ts, value⟩] })

def timestampMs (N : Native) (c : Client) : UInt64 × Client :=
  let (ts, c) := currentTime N c
  timestampMsOf N ts c

def getCurrentTimestamp (N : Native) (c : Client) : UInt64 × Client :=
  let (ts, c) := currentTime N c
  (timestampMsRaw ts, c)

theorem toNat_timestampMsRaw (ts : Timespec) : (timestampMsRaw ts).toNat = ts.millis := by
  have hn := ts.nanos_lt
  have hsec : ts.tv_sec < 18446744073709551616 := by omega
  have hnsec : ts.tv_nsec < 18446744073709551616 := by omega
  have hbillion : billion.toNat = 1000000000 := rfl
  have hmul : (UInt64.ofNat ts.tv_sec*billion).toNat = ts.tv_sec*1000000000 := by
    rw [UInt64.toNat_mul, UInt64.toNat_ofNat', Nat.mod_eq_of_lt hsec, hbillion]
    omega
  have hadd : (UInt64.ofNat ts.tv_sec*billion + UInt64.ofNat ts.tv_nsec).toNat = ts.nanos := by
    rw [UInt64.toNat_add, hmul, UInt64.toNat_ofNat', Nat.mod_eq_of_lt hnsec]
    exact Nat.mod_eq_of_lt hn
  have hmillion : million.toNat = 1000000 := rfl
  rw [timestampMsRaw, UInt64.toNat_div, hadd, hmillion, Timespec.millis]

end MmWaveTracker
