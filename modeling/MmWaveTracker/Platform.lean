import MmWaveTracker.Handoff
import Mathlib.Data.Rat.Floor
import Mathlib.Data.Finset.Card

/-! What Android answers to the sampler. A platform object is kept as the values
its getters return; floating-point values are read as exact rationals. -/
namespace MmWaveTracker

structure Location where
  provider : Option String
  latitude : ℚ
  longitude : ℚ
  accuracy : ℚ
  speed : ℚ
  speedAccuracyMetersPerSecond : ℚ
  bearing : ℚ
  bearingAccuracyDegrees : ℚ
  deriving DecidableEq

structure NetworkCapabilities where
  transportWifi : Bool
  transportCellular : Bool
  linkUpstreamBandwidthKbps : ℤ
  linkDownstreamBandwidthKbps : ℤ
  notMetered : Bool
  notCongested : Bool
  text : String
  deriving DecidableEq, Repr

structure SignalStrength where
  level : ℤ
  text : String
  deriving DecidableEq, Repr

structure LinkProperties where
  dnsServers : String
  linkAddresses : String
  deriving DecidableEq, Repr

structure CellInfoLte where
  text : String
  dbm : ℤ
  asuLevel : ℤ
  level : ℤ
  rsrp : ℤ
  rsrq : ℤ
  rssi : ℤ
  rssnr : ℤ
  pci : ℤ
  tac : ℤ
  bandwidth : ℤ
  ci : ℤ
  mccString : Option String
  mncString : Option String
  earfcn : ℤ
  mobileNetworkOperator : Option String
  deriving DecidableEq, Repr

structure CellInfoNr where
  text : String
  dbm : ℤ
  level : ℤ
  asuLevel : ℤ
  csiRsrp : ℤ
  csiRsrq : ℤ
  csiSinr : ℤ
  ssRsrp : ℤ
  ssRsrq : ℤ
  ssSinr : ℤ
  nci : ℤ
  nrarfcn : ℤ
  pci : ℤ
  tac : ℤ
  deriving DecidableEq, Repr

/-- A `CellInfo` by its run-time class; `other` is any class the code does not test for. -/
inductive CellInfo where
  | lte (cell : CellInfoLte)
  | nr (cell : CellInfoNr)
  | other (text : String)
  deriving DecidableEq, Repr

/-- `CellInfo.toString()`. -/
def CellInfo.text : CellInfo → String
  | .lte cell => cell.text
  | .nr cell => cell.text
  | .other text => text

/-- The eight counters of `TrafficStats` the sampler reads. -/
structure TrafficStats where
  mobileRxBytes : ℤ
  mobileTxBytes : ℤ
  mobileRxPackets : ℤ
  mobileTxPackets : ℤ
  uidRxBytes : ℤ
  uidTxBytes : ℤ
  uidRxPackets : ℤ
  uidTxPackets : ℤ
  deriving DecidableEq, Repr

/-- The platform at the moment of one call: the answer to each query, and whether
a call made at this moment ends in an exception. -/
structure Moment where
  throws : Bool
  now : ℤ
  activeNetwork : Option String
  capabilities : Option NetworkCapabilities
  dataNetworkType : ℤ
  netDisplayType : String
  cellInfo : Option (List CellInfo)
  serviceState : Option String
  signalStrength : Option SignalStrength
  lastLoc : Option Location
  traffic : TrafficStats
  networkOperatorName : Option String

/-- A device: its API level, the library functions the code calls, and the
platform's state at each successive call, free to change between any two. -/
structure Android where
  sdkInt : ℤ
  moment : ℕ → Moment
  sampleDateFormat : ℤ → String
  showDouble : ℚ → String
  showFloat : ℚ → String
  distanceTo : Location → Location → ℚ

/-- A device at rest: every call finds the platform at the same moment, at the epoch. -/
def steady (m : Moment) : Android where
  sdkInt := versionCodeR
  moment _ := m
  sampleDateFormat _ := "1970-01-01 00:00:00.000 UTC"
  showDouble _ := "0.0"
  showFloat _ := "0.0"
  distanceTo _ _ := 0

/-- A registered LTE cell and no traffic. -/
def lteCell (ci : ℤ) : CellInfo :=
  .lte { text := "CellInfoLte:\x7bmRegistered=YES\x7d", dbm := -90, asuLevel := 50, level := 3,
         rsrp := -90, rsrq := -10, rssi := -60, rssnr := 20, pci := 1, tac := 1, bandwidth := 20000,
         ci, mccString := none, mncString := none, earfcn := 1850, mobileNetworkOperator := none }

def origin : Location := ⟨some "fused", 0, 0, 0, 0, 0, 0, 0⟩

def cellular : NetworkCapabilities := ⟨false, true, 1000, 1000, false, true, "CELLULAR"⟩

/-- An LTE phone camped on one cell. -/
def lteMoment (ci : ℤ) : Moment where
  throws := false
  now := 0
  activeNetwork := some "100"
  capabilities := some cellular
  dataNetworkType := telephonyNetworkTypeLte
  netDisplayType := networkTypeLte
  cellInfo := some [lteCell ci]
  serviceState := some "IN_SERVICE"
  signalStrength := some ⟨3, "SignalStrength"⟩
  lastLoc := some origin
  traffic := ⟨0, 0, 0, 0, 0, 0, 0, 0⟩
  networkOperatorName := some "Carrier"

end MmWaveTracker
