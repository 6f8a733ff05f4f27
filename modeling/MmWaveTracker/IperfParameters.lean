import MmWaveTracker.CJsonParsed

/-! What the client of a test asks for, and what a server that has served other clients before makes
of it: `send_parameters`, `get_parameters` and `iperf_reset_test`. -/
namespace MmWaveTracker

namespace IperfParameters

open CString CJson

inductive Role where
  | client
  | server
  deriving DecidableEq

inductive Mode where
  | sender
  | receiver
  | bidirectional
  deriving DecidableEq

/-- `Ptcp` and `Pudp`; there is no SCTP in the build. -/
inductive Protocol where
  | tcp
  | udp
  deriving DecidableEq

/-- The part of `struct iperf_test`, with its settings, that the parameters are about. -/
structure Test where
  role : Role
  mode : Mode
  senderHasRetransmits : Bool
  protocol : Protocol
  omitPeriod : Int32
  duration : Int32
  serverAffinity : Int32
  noDelay : Bool
  reverse : Bool
  bidirectional : Bool
  numStreams : Int32
  title : Option Text
  extraData : Option Text
  congestion : Option Text
  congestionUsed : Option Text
  getServerOutput : Bool
  udpCounters64bit : Bool
  repeatingPayload : Bool
  bytes : UInt64
  blocks : UInt64
  mss : Int32
  socketBufsize : Int32
  blksize : Int32
  rate : UInt64
  fqrate : UInt64
  pacingTimer : Int32
  burst : Int32
  tos : Int32
  flowlabel : Int32

variable {D : Type} (c : Numbers D) (hasTcpinfoRetransmits : Bool)

def seesRetransmits (ipt : Test) : Bool :=
  decide (ipt.mode ≠ .receiver) && decide (ipt.protocol = .tcp) && hasTcpinfoRetransmits

def checkSenderHasRetransmits (ipt : Test) : Test :=
  {ipt with senderHasRetransmits := seesRetransmits hasTcpinfoRetransmits ipt}

def setProtocol (test : Test) (protocol : Protocol) : Test :=
  checkSenderHasRetransmits hasTcpinfoRetransmits {test with protocol := protocol}

def setTestReverse (ipt : Test) (reverse : Bool) : Test :=
  checkSenderHasRetransmits hasTcpinfoRetransmits {ipt with
    reverse := reverse
    mode := match reverse, ipt.role with
      | false, .client => .sender
      | false, .server => .receiver
      | true, .client => .receiver
      | true, .server => .sender}

def setTestBidirectional (ipt : Test) (bidirectional : Bool) : Test :=
  if bidirectional then {ipt with bidirectional := bidirectional, mode := .bidirectional}
  else setTestReverse hasTcpinfoRetransmits {ipt with bidirectional := bidirectional} ipt.reverse

def name (string : String) : Text := Text.of (ascii string)

section send

def number (n : Int32) : Item D := createNumber c n.toInt

/-- A setting of zero is not sent. -/
def unlessZero (n : Int32) : Option (Item D) := if n = 0 then none else some (number c n)

def unlessZero64 (n : UInt64) : Option (Item D) :=
  if n = 0 then none else some (createNumber c n.toNat)

def whenSet (flag : Bool) (item : Item D) : Option (Item D) := if flag then some item else none

/-- The children that `send_parameters` adds, in order. -/
def parameters (test : Test) : List (Text × Option (Item D)) := [
  (name "tcp", whenSet (decide (test.protocol = .tcp)) .true),
  (name "udp", whenSet (decide (test.protocol = .udp)) .true),
  (name "omit", some (number c test.omitPeriod)),
  (name "server_affinity", if test.serverAffinity = -1 then none
    else some (number c test.serverAffinity)),
  (name "time", some (number c test.duration)),
  (name "num", unlessZero64 c test.bytes),
  (name "blockcount", unlessZero64 c test.blocks),
  (name "MSS", unlessZero c test.mss),
  (name "nodelay", whenSet test.noDelay .true),
  (name "parallel", some (number c test.numStreams)),
  (name "reverse", whenSet test.reverse .true),
  (name "bidirectional", whenSet test.bidirectional .true),
  (name "window", unlessZero c test.socketBufsize),
  (name "len", unlessZero c test.blksize),
  (name "bandwidth", unlessZero64 c test.rate),
  (name "fqrate", unlessZero64 c test.fqrate),
  (name "pacing_timer", unlessZero c test.pacingTimer),
  (name "burst", unlessZero c test.burst),
  (name "TOS", unlessZero c test.tos),
  (name "flowlabel", unlessZero c test.flowlabel),
  (name "title", test.title.map .string),
  (name "extra_data", test.extraData.map .string),
  (name "congestion", test.congestion.map .string),
  (name "congestion_used", test.congestionUsed.map .string),
  (name "get_server_output", whenSet test.getServerOutput (number c 1)),
  (name "udp_counters_64bit", whenSet test.udpCounters64bit (number c 1)),
  (name "repeating_payload", whenSet test.repeatingPayload (number c 1)),
  (name "client_version", some (.string (name "3.7")))]

def child (parameter : Text × Option (Item D)) : Option (Text × Item D) :=
  parameter.2.map fun item => (parameter.1, item)

/-- The object that `send_parameters` writes. -/
def sendParameters (test : Test) : Item D := .object ((parameters c test).filterMap child)

end send

section get

/-- `get_parameters` with the object that was read. -/
def getParameters (test : Test) (j : Item D) : Test :=
  let item (string : String) := getObjectItem j (name string)
  let int (string : String) (old : Int32) :=
    ((item string).map fun jp => Int32.ofInt (valueint c jp)).getD old
  let size (string : String) (old : UInt64) :=
    ((item string).map fun jp => UInt64.ofInt (valueint c jp)).getD old
  let text (string : String) (old : Option Text) := ((item string).map valuestring).getD old
  let test := if (item "tcp").isSome then setProtocol hasTcpinfoRetransmits test .tcp else test
  let test := if (item "udp").isSome then setProtocol hasTcpinfoRetransmits test .udp else test
  let test := {test with
    omitPeriod := int "omit" test.omitPeriod
    serverAffinity := int "server_affinity" test.serverAffinity
    duration := int "time" test.duration
    bytes := size "num" test.bytes
    blocks := size "blockcount" test.blocks
    mss := int "MSS" test.mss
    noDelay := (item "nodelay").isSome || test.noDelay
    numStreams := int "parallel" test.numStreams}
  let test := if (item "reverse").isSome then setTestReverse hasTcpinfoRetransmits test true
    else test
  let test := if (item "bidirectional").isSome
    then setTestBidirectional hasTcpinfoRetransmits test true else test
  let test := {test with
    socketBufsize := int "window" test.socketBufsize
    blksize := int "len" test.blksize
    rate := size "bandwidth" test.rate
    fqrate := size "fqrate" test.fqrate
    pacingTimer := int "pacing_timer" test.pacingTimer
    burst := int "burst" test.burst
    tos := int "TOS" test.tos
    flowlabel := int "flowlabel" test.flowlabel
    title := text "title" test.title
    extraData := text "extra_data" test.extraData
    congestion := text "congestion" test.congestion
    congestionUsed := text "congestion_used" test.congestionUsed
    getServerOutput := (item "get_server_output").isSome || test.getServerOutput
    udpCounters64bit := (item "udp_counters_64bit").isSome || test.udpCounters64bit
    repeatingPayload := (item "repeating_payload").isSome || test.repeatingPayload}
  {test with senderHasRetransmits := seesRetransmits hasTcpinfoRetransmits test ||
    test.senderHasRetransmits}

end get

section server

def defaultTcpBlksize : Int32 := 131072

/-- `iperf_new_test`, `iperf_defaults` and `iperf_set_test_role(test, 's')`. -/
def iperfDefaults : Test where
  role := .server
  mode := .receiver
  senderHasRetransmits := false
  protocol := .tcp
  omitPeriod := 0
  duration := 10
  serverAffinity := -1
  noDelay := false
  reverse := false
  bidirectional := false
  numStreams := 1
  title := none
  extraData := none
  congestion := none
  congestionUsed := none
  getServerOutput := false
  udpCounters64bit := false
  repeatingPayload := false
  bytes := 0
  blocks := 0
  mss := 0
  socketBufsize := 0
  blksize := defaultTcpBlksize
  rate := 0
  fqrate := 0
  pacingTimer := 1000
  burst := 0
  tos := 0
  flowlabel := 0

/-- What `iperf_reset_test` does to these fields. -/
def resetTest (test : Test) : Test :=
  setProtocol hasTcpinfoRetransmits {test with
    role := .server
    mode := .receiver
    senderHasRetransmits := false
    omitPeriod := 0
    duration := 10
    serverAffinity := -1
    reverse := false
    bidirectional := false
    noDelay := false
    numStreams := 1
    socketBufsize := 0
    blksize := defaultTcpBlksize
    rate := 0
    burst := 0
    mss := 0
    tos := 0
    udpCounters64bit := false
    title := none
    extraData := none} .tcp

/-- One client that was served, and what the test left of the fields that `iperf_udp_listen` and
`iperf_run_server` write. -/
structure Session where
  client : Test
  socketBufsize : Int32

/-- A server before its next client: `cleanup_server` and `iperf_reset_test`. -/
def afterSession (server : Test) (session : Session) : Test :=
  resetTest hasTcpinfoRetransmits
    {getParameters c hasTcpinfoRetransmits server
        (readBack c (sendParameters c session.client)) with
      socketBufsize := session.socketBufsize
      congestionUsed := none}

def serverAfter (past : List Session) : Test :=
  past.foldl (afterSession c hasTcpinfoRetransmits) iperfDefaults

end server

end IperfParameters

end MmWaveTracker
