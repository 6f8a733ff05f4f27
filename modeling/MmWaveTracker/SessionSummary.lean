import MmWaveTracker.Report

/-! The running summary of a session (`data/SessionSummary.java`) and the part of
`processNetworkReport` that counts towers and handoffs. -/
namespace MmWaveTracker

structure SessionSummary where
  sessionId : String
  sessionStarted : Bool := false
  startTime : Option String := none
  endTime : Option String := none
  nTrackerParts : ℤ := 0
  towers : Finset String := ∅
  nTowers : ℤ := 0
  nHandoffs : ℤ := 0
  nVerticalHandoffs : ℤ := 0
  nHorizontalHandoffs : ℤ := 0
  curHandoffOrientation : ℤ := 0
  nSecondsIn5G : ℚ := 0
  distanceCoveredInMeters : ℚ := 0
  lastTime5GSeen : Option ℤ := none
  currentNrStatus : Option String := none
  curMCid : Option String := none
  prevLocation : Option Location := none
  curLocation : Option Location := none
  isNSA5G : Bool := false
  isSA5G : Bool := false
  networkService : Option String := none
  networkType : Option String := none

def increment (n : ℤ) : ℤ := wrap32 (n+1)

/-- The first report of a session fixes its start. -/
def startSession (s : SessionSummary) (sessionId startTime : String) (r : Report) :
    SessionSummary :=
  if s.sessionStarted then s
  else { s with sessionStarted := true, sessionId, startTime := some startTime,
                prevLocation := r.locationData }

/-- The orientation for the map marker; a handoff without either flag leaves the old one. -/
def handoffOrientation (h : Handoff) (curHandoffOrientation : ℤ) : ℤ :=
  if h.handoffType = 0 then noHandoff
  else if h.verticalHandoff = 1 ∧ h.horizontalHandoff = 1 then verticalHorizontanlHandoff
  else if h.verticalHandoff = 1 then verticalHandoff
  else if h.horizontalHandoff = 1 then horizontalHandoff
  else curHandoffOrientation

/-- Towers, handoff counters and orientation. -/
def countHandoffs (s : SessionSummary) (r : Report) : SessionSummary :=
  { s with
    curMCid := some r.mCid
    towers := insert r.mCid s.towers
    nTowers := (insert r.mCid s.towers).card
    nHandoffs := if r.handoff.handoffType ≠ 0 then increment s.nHandoffs else s.nHandoffs
    nVerticalHandoffs :=
      if r.handoff.verticalHandoff = 1 then increment s.nVerticalHandoffs else s.nVerticalHandoffs
    nHorizontalHandoffs :=
      if r.handoff.horizontalHandoff = 1 then increment s.nHorizontalHandoffs
        else s.nHorizontalHandoffs
    curHandoffOrientation := handoffOrientation r.handoff s.curHandoffOrientation }

/-- The NR status and the time spent in 5G, counted in sampling intervals. -/
def countTimeIn5G (s : SessionSummary) (samplingRateInMs : ℤ) (r : Report) : SessionSummary :=
  if r.nrStatus = nrConnectedKeyword then
    { s with currentNrStatus := some r.nrStatus, lastTime5GSeen := some r.timeStamp,
             nSecondsIn5G := s.nSecondsIn5G + (samplingRateInMs : ℚ)/1000 }
  else { s with currentNrStatus := some r.nrStatus }

end MmWaveTracker
