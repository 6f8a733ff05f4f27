import Mathlib.Data.Nat.Digits.Defs
import Mathlib.Tactic.Ring

/-! Fixed-width words in memory. A word is kept as a natural number, its image
in memory as a list of bytes in the byte order of the host. -/
namespace MmWaveTracker

inductive ByteOrder where
  | little
  | big
  deriving DecidableEq, Repr

/-- The `k` low bytes of `n`, least significant first. -/
def leBytes : ℕ → ℕ → List UInt8
  | 0, _ => []
  | k+1, n => UInt8.ofNat n :: leBytes k (n/256)

def leNat : List UInt8 → ℕ
  | [] => 0
  | b :: bs => b.toNat + 256*leNat bs

@[simp] theorem length_leBytes (k n : ℕ) : (leBytes k n).length = k := by
  induction k generalizing n with
  | zero => rfl
  | succ k ih => simp only [leBytes, List.length_cons, ih]

theorem leNat_lt (bs : List UInt8) : leNat bs < 256^bs.length := by
  induction bs with
  | nil => simp [leNat]
  | cons b bs ih =>
    have hb : b.toNat < 256 := b.toNat_lt
    have hp : 256^(b :: bs).length = 256*256^bs.length := by
      rw [List.length_cons, pow_succ]; ring
    rw [hp, leNat]
    omega

theorem leNat_leBytes (k n : ℕ) : leNat (leBytes k n) = n%256^k := by
  induction k generalizing n with
  | zero => simp [leBytes, leNat, Nat.mod_one]
  | succ k ih =>
    have hp : (256:ℕ)^(k+1) = 256*256^k := by ring
    rw [leBytes, leNat, ih, UInt8.toNat_ofNat', hp, Nat.mod_mul]

/-- Every byte string is the image of the number it denotes. -/
theorem leBytes_leNat (bs : List UInt8) : leBytes bs.length (leNat bs) = bs := by
  induction bs with
  | nil => rfl
  | cons b bs ih =>
    have hb : b.toNat < 256 := b.toNat_lt
    have hlow : UInt8.ofNat (b.toNat + 256*leNat bs) = b := by
      apply UInt8.toNat_inj.mp
      rw [UInt8.toNat_ofNat']
      omega
    have hhigh : (b.toNat + 256*leNat bs)/256 = leNat bs := by omega
    simp only [List.length_cons, leNat, leBytes, hlow, hhigh, ih]

/-- The image of a `k`-byte word in the memory of a host with byte order `o`. -/
def storeWord (o : ByteOrder) (k n : ℕ) : List UInt8 :=
  match o with
  | .little => leBytes k n
  | .big => (leBytes k n).reverse

def loadWord (o : ByteOrder) (bs : List UInt8) : ℕ :=
  match o with
  | .little => leNat bs
  | .big => leNat bs.reverse

@[simp] theorem length_storeWord (o : ByteOrder) (k n : ℕ) : (storeWord o k n).length = k := by
  cases o <;> simp [storeWord]

theorem loadWord_storeWord (o : ByteOrder) (k n : ℕ) :
    loadWord o (storeWord o k n) = n%256^k := by
  cases o
  · exact leNat_leBytes k n
  · simp only [loadWord, storeWord, List.reverse_reverse, leNat_leBytes]

theorem storeWord_loadWord (o : ByteOrder) (bs : List UInt8) :
    storeWord o bs.length (loadWord o bs) = bs := by
  cases o
  · exact leBytes_leNat bs
  · have h := leBytes_leNat bs.reverse
    rw [List.length_reverse] at h
    simp only [storeWord, loadWord, h, List.reverse_reverse]

theorem loadWord_lt (o : ByteOrder) (bs : List UInt8) : loadWord o bs < 256^bs.length := by
  cases o
  · exact leNat_lt bs
  · simpa only [loadWord, List.length_reverse] using leNat_lt bs.reverse

/-- Conversion between the host's byte order and big-endian order; the same
byte permutation serves both directions. -/
def swapToBig (o : ByteOrder) (k n : ℕ) : ℕ :=
  match o with
  | .little => leNat (leBytes k n).reverse
  | .big => n

/-- Storing the converted word leaves the big-endian image, whatever the host. -/
theorem storeWord_swapToBig (o : ByteOrder) (k n : ℕ) :
    storeWord o k (swapToBig o k n) = storeWord .big k n := by
  cases o
  · have h := leBytes_leNat (leBytes k n).reverse
    rw [List.length_reverse, length_leBytes] at h
    simpa only [storeWord, swapToBig] using h
  · rfl

theorem swapToBig_loadWord (o : ByteOrder) (bs : List UInt8) :
    swapToBig o bs.length (loadWord o bs) = loadWord .big bs := by
  cases o
  · simp only [swapToBig, loadWord, leBytes_leNat]
  · rfl

end MmWaveTracker
