import MmWaveTracker.Platform

/-! The report of one sample (`data/Report.java`) and the setters that only
touch the report itself. -/
namespace MmWaveTracker

/-- The text of a reference that may be null, as `append` and `StringJoiner.add` print it. -/
def orNull (s : Option String) : String := s.getD "null"

/-- The per-cell texts of a report. -/
structure CellData where
  nr_CIs : String := ""
  nr_PCIs : String := ""
  nr_Signal : String := ""
  lte_CIs : String := ""
  lte_PCIs : String := ""
  lte_Bwds : String := ""
  lte_Signal : String := ""
  allLteCells : String := ""
  allNrCells : String := ""
  allLteCellIdentities : String := ""
  allNrCellsIdentities : String := ""
  lte_bwd : Option String := none
  lte_rsrp : Option String := none
  nr_ssrsrp : Option String := none
  deriving DecidableEq, Repr

structure Report where
  timeStamp : ℤ := 0
  cellInfos : Option (List CellInfo) := none
  networkCapabilities : Option NetworkCapabilities := none
  activeNetworkProperties : Option LinkProperties := none
  allNets : Option (List String) := none
  locationData : Option Location := none
  signalStrength : Option SignalStrength := none
  rawServiceState : Option String := none
  handoff : Handoff := {}
  traffic : TrafficStats := ⟨0, 0, 0, 0, 0, 0, 0, 0⟩
  dataActivity : ℤ := -1
  dataState : ℤ := -1
  nrStatus : String := ""
  mCid : String := ""
  is5GNSA : Bool := false
  is5GSA : Bool := false
  networkType : Option String := some ""
  cells : CellData := {}
  activities : Vector (Option String) 10 := Vector.replicate 10 none
  mostProbableActivityType : Option String := none
  mostProbableActivityConfidence : ℤ := 0
  mobilityLabel : ℤ := 0
  mobilityLabelv2 : ℤ := 0
  mobileRx_diff_Mbps : ℤ := 0
  mobileTx_diff_Mbps : ℤ := 0
  deriving DecidableEq

/-! `getCellinfoData`: one pass over the cells with string builders and joiners. -/

structure CellAcc where
  data : CellData := {}
  lte_rssi : Option String := none
  allLte_Cells : List String := []
  allNr_Cells : List String := []
  allLte_CellIdentities : List String := []
  allNr_CellsIdentities : List String := []

def addLteCell (sdkInt : ℤ) (acc : CellAcc) (cell : CellInfoLte) : CellAcc :=
  -- before Q the RSSI of an earlier cell, or null, is printed again
  let lte_rssi := if versionCodeQ ≤ sdkInt then some (valueOf cell.rssi) else acc.lte_rssi
  let signal := valueOf cell.rsrp ++ "," ++ valueOf cell.rsrq ++ "," ++ orNull lte_rssi ++ "," ++
    valueOf cell.rssnr ++ ";"
  let cellGroup := String.intercalate csvDelimieter
    [cell.text, valueOf cell.rsrp, valueOf cell.rsrq, orNull lte_rssi, valueOf cell.rssnr,
      valueOf cell.level, valueOf cell.asuLevel, valueOf cell.dbm]
  let cellIdentityGroup := String.intercalate csvDelimieter
    [valueOf cell.ci, valueOf cell.pci, valueOf cell.bandwidth, valueOf cell.tac,
      valueOf cell.earfcn, orNull cell.mobileNetworkOperator, orNull cell.mccString,
        orNull cell.mncString]
  { acc with
    lte_rssi
    data := { acc.data with
      lte_PCIs := acc.data.lte_PCIs ++ valueOf cell.pci ++ ";"
      lte_Bwds := acc.data.lte_Bwds ++ valueOf cell.bandwidth ++ ";"
      lte_CIs := acc.data.lte_CIs ++ valueOf cell.ci ++ ";"
      lte_Signal := acc.data.lte_Signal ++ signal
      lte_bwd := some (valueOf cell.bandwidth)
      lte_rsrp := some (valueOf cell.rsrp) }
    allLte_Cells := acc.allLte_Cells ++ [cellGroup]
    allLte_CellIdentities := acc.allLte_CellIdentities ++ [cellIdentityGroup] }

def addNrCell (acc : CellAcc) (cell : CellInfoNr) : CellAcc :=
  -- both are read with the wrong getter in the source
  let nr_Asulevel := valueOf cell.level
  let nr_arfcn := valueOf cell.nci
  let signal := valueOf cell.ssRsrp ++ "," ++ valueOf cell.ssRsrq ++ "," ++ valueOf cell.ssSinr ++
    "," ++ valueOf cell.csiRsrp ++ "," ++ valueOf cell.csiRsrq ++ "," ++ valueOf cell.csiSinr ++ ";"
  let cellGroup := String.intercalate csvDelimieter
    [cell.text, valueOf cell.ssRsrp, valueOf cell.ssRsrq, valueOf cell.ssSinr, valueOf cell.csiRsrp,
      valueOf cell.csiRsrq, valueOf cell.csiSinr, valueOf cell.level, nr_Asulevel, valueOf cell.dbm]
  let cellIdentityGroup := String.intercalate csvDelimieter
    [valueOf cell.nci, valueOf cell.pci, valueOf cell.tac, nr_arfcn]
  { acc with
    data := { acc.data with
      nr_PCIs := acc.data.nr_PCIs ++ valueOf cell.pci ++ ";"
      nr_CIs := acc.data.nr_CIs ++ valueOf cell.nci ++ ";"
      nr_Signal := acc.data.nr_Signal ++ signal
      nr_ssrsrp := some (valueOf cell.ssRsrp) }
    allNr_Cells := acc.allNr_Cells ++ [cellGroup]
    allNr_CellsIdentities := acc.allNr_CellsIdentities ++ [cellIdentityGroup] }

def addCell (sdkInt : ℤ) (acc : CellAcc) : CellInfo → CellAcc
  | .lte cell => addLteCell sdkInt acc cell
  | .nr cell => if versionCodeQ ≤ sdkInt then addNrCell acc cell else acc
  | .other _ => acc

def getCellinfoData (sdkInt : ℤ) (cellInfos : List CellInfo) : CellData :=
  let acc := cellInfos.foldl (addCell sdkInt) {}
  { acc.data with
    allLteCells := String.intercalate "===" acc.allLte_Cells
    allNrCells := String.intercalate "===" acc.allNr_Cells
    allLteCellIdentities := String.intercalate "===" acc.allLte_CellIdentities
    allNrCellsIdentities := String.intercalate "===" acc.allNr_CellsIdentities }

/-- `cellInfoStr.contains("mRegistered=YES")`. -/
def registered (info : CellInfo) : Bool :=
  info.text.toList.tails.any (fun rest => "mRegistered=YES".toList.isPrefixOf rest)

/-- `setMCid`: the identity of the last registered LTE or NR cell. -/
def setMCid (sdkInt : ℤ) (cellInfos : List CellInfo) (mCid : String) : String :=
  cellInfos.foldl (fun mCid info =>
    if registered info then
      match info with
      | .lte cell => valueOf cell.ci
      | .nr cell => if versionCodeQ ≤ sdkInt then valueOf cell.nci else mCid
      | .other _ => mCid
    else mCid) mCid

/-- `Math.round(float)`: half up, saturating at the range of `int`. -/
def mathRound (x : ℚ) : ℤ := max (-2147483648) (min 2147483647 ⌊x + 1/2⌋)

/-- Mbit/s between two byte counters `timedif` seconds apart, never negative. -/
def diffMbps (bytes prevBytes : ℤ) (timedif : ℚ) : ℤ :=
  let mbits := Int.tdiv (wrap64 (wrap64 (bytes - prevBytes)*8)) 1000000
  max 0 (mathRound ((mbits : ℚ)/timedif))

/-- One of the two speeds; without a previous timestamp it is left as it was. -/
def speedAfter (bytes prevBytes timeStamp : ℤ) (prev_timestamp : Option ℤ) (speed : ℤ) : ℤ :=
  match prev_timestamp with
  | none => speed
  | some prev_timestamp =>
    let timedif : ℚ := (max (timeStamp - prev_timestamp) 1000/1000 : ℤ)
    diffMbps bytes prevBytes timedif

def setSpeeds (r : Report) (rx_bytes tx_bytes : ℤ) (prev_timestamp : Option ℤ) : Report :=
  { r with
    mobileRx_diff_Mbps :=
      speedAfter r.traffic.mobileRxBytes rx_bytes r.timeStamp prev_timestamp r.mobileRx_diff_Mbps
    mobileTx_diff_Mbps :=
      speedAfter r.traffic.mobileTxBytes tx_bytes r.timeStamp prev_timestamp r.mobileTx_diff_Mbps }

/-- The label for the distance to the location twenty samples ago; both
locations must be there, any exception is caught and gives the invalid label. -/
def mobilityLabelFor (A : Android) (locationData loc : Option Location) : ℤ :=
  match locationData, loc with
  | some here, some before =>
    let dist := A.distanceTo here before
    if dist ≤ mobilitylabelStationaryMaxThresholdMeters then mobilitylabelStationary
    else if dist ≤ mobilitylabelWalkingMaxThresholdMeters then mobilitylabelWalking
    else mobilitylabelDriving
  | _, _ => mobilitylabelInvalid

def setMobilityActivityv1 (A : Android) (r : Report) (loc : Option Location) : Report :=
  { r with mobilityLabel := mobilityLabelFor A r.locationData loc }

end MmWaveTracker
