import MmWaveTracker.IperfNegotiation
import Mathlib.Data.List.Nodup

/-! `send_results` and `get_results`: at the end of a test each end tells the other what its streams
counted. -/
namespace MmWaveTracker

namespace IperfResults

open CString CJson IperfParameters

variable {D : Type} (c : Numbers D)

/-- What the results say of a stream: its part of `struct iperf_stream` and of
`struct iperf_stream_result`, with the seconds from its start to its end. -/
structure Stream (D : Type) where
  id : Int32
  sender : Bool
  packetCount : Int32
  peerPacketCount : Int32
  jitter : D
  cntError : Int32
  bytesReceived : UInt64
  bytesSent : UInt64
  bytesSentOmit : UInt64
  streamRetrans : Int32
  seconds : D
  senderTime : D
  receiverTime : D

structure Test (D : Type) where
  role : Role
  mode : Mode
  senderHasRetransmits : Int32
  otherSideHasRetransmits : Int32
  getServerOutput : Bool
  serverOutput : Text
  congestionUsed : Option Text
  remoteCongestionUsed : Option Text
  cpuUtil : D × D × D
  remoteCpuUtil : D × D × D
  serverOutputText : Option Text
  streams : List (Stream D)

/-- `iperf_new_stream`: nothing is counted yet. -/
def newStream (sender : Bool) : Stream D where
  id := 0
  sender := sender
  packetCount := 0
  peerPacketCount := 0
  jitter := c.ofInt 0
  cntError := 0
  bytesReceived := 0
  bytesSent := 0
  bytesSentOmit := 0
  streamRetrans := 0
  seconds := c.ofInt 0
  senderTime := c.ofInt 0
  receiverTime := c.ofInt 0

/-- The test of an end before it has heard of the other. -/
def newTest (role : Role) (mode : Mode) (streams : List (Stream D)) : Test D where
  role := role
  mode := mode
  senderHasRetransmits := 0
  otherSideHasRetransmits := 0
  getServerOutput := false
  serverOutput := name ""
  congestionUsed := none
  remoteCongestionUsed := none
  cpuUtil := (c.ofInt 0, c.ofInt 0, c.ofInt 0)
  remoteCpuUtil := (c.ofInt 0, c.ofInt 0, c.ofInt 0)
  serverOutputText := none
  streams := streams

/-- `iperf_add_stream`: the first stream is number 1, the next is number 3. -/
def addStream (streams : List (Stream D)) (sp : Stream D) : List (Stream D) :=
  streams ++ [{sp with id := if streams.isEmpty then 1 else Int32.ofNat (2+streams.length)}]

section send

def bytesTransferred (sp : Stream D) : UInt64 :=
  if sp.sender then sp.bytesSent-sp.bytesSentOmit else sp.bytesReceived

def retransmits (test : Test D) (sp : Stream D) : Int32 :=
  if sp.sender ∧ test.senderHasRetransmits ≠ 0 then sp.streamRetrans else -1

def streamResults (test : Test D) (sp : Stream D) : List (Text × Option (Item D)) := [
  (name "id", some (number c sp.id)),
  (name "bytes", some (createNumber c (bytesTransferred sp).toNat)),
  (name "retransmits", some (number c (retransmits test sp))),
  (name "jitter", some (.number sp.jitter)),
  (name "errors", some (number c sp.cntError)),
  (name "packets", some (number c sp.packetCount)),
  (name "start_time", some (createNumber c 0)),
  (name "end_time", some (.number sp.seconds))]

def sendStream (test : Test D) (sp : Stream D) : Item D :=
  .object ((streamResults c test sp).filterMap child)

/-- The children that `send_results` adds, in order; a server without JSON output adds the lines
that it printed. -/
def results (test : Test D) : List (Text × Option (Item D)) := [
  (name "cpu_util_total", some (.number test.cpuUtil.1)),
  (name "cpu_util_user", some (.number test.cpuUtil.2.1)),
  (name "cpu_util_system", some (.number test.cpuUtil.2.2)),
  (name "sender_has_retransmits",
    some (number c (if test.mode = .receiver then -1 else test.senderHasRetransmits))),
  (name "congestion_used", test.congestionUsed.map .string),
  (name "server_output_text",
    whenSet (decide (test.role = .server) && test.getServerOutput) (.string test.serverOutput)),
  (name "streams", some (.array (test.streams.map (sendStream c test))))]

def sendResults (test : Test D) : Item D := .object ((results c test).filterMap child)

end send

section get

/-- `cJSON_GetArrayItem` at each index below `cJSON_GetArraySize`. -/
def arrayItems : Item D → List (Item D)
  | .array child => child
  | .object child => child.map Prod.snd
  | _ => []

/-- What one stream of the peer tells about a stream of this end. -/
def update (sp : Stream D) (bytes : Item D) (retransmits : Item D) (jitter : Item D)
    (errors : Item D) (packets : Item D) (startTime endTime : Option (Item D)) : Stream D :=
  let time := match startTime, endTime with
    | some start, some stop => c.sub (valuedouble c stop) (valuedouble c start)
    | _, _ => c.ofInt 0
  if sp.sender then
    {sp with
      jitter := valuedouble c jitter
      cntError := Int32.ofInt (valueint c errors)
      peerPacketCount := Int32.ofInt (valueint c packets)
      bytesReceived := UInt64.ofInt (valueint c bytes)
      receiverTime := time}
  else
    {sp with
      peerPacketCount := Int32.ofInt (valueint c packets)
      bytesSent := UInt64.ofInt (valueint c bytes)
      streamRetrans := Int32.ofInt (valueint c retransmits)
      senderTime := time}

/-- The first stream with a number is replaced, if there is one. -/
def replace (sid : Int32) (f : Stream D → Stream D) : List (Stream D) → Option (List (Stream D))
  | [] => none
  | sp :: streams => if sp.id = sid then some (f sp :: streams)
      else (replace sid f streams).map (sp :: ·)

/-- One round of the loop over the streams that were received; the flag is false after an error. -/
def getStream (at' : List (Stream D) × Bool) (jStream : Item D) : List (Stream D) × Bool :=
  match getObjectItem jStream (name "id"), getObjectItem jStream (name "bytes"),
      getObjectItem jStream (name "retransmits"), getObjectItem jStream (name "jitter"),
      getObjectItem jStream (name "errors"), getObjectItem jStream (name "packets") with
  | some id, some bytes, some retransmits, some jitter, some errors, some packets =>
    match replace (Int32.ofInt (valueint c id))
        (fun sp => update c sp bytes retransmits jitter errors packets
        (getObjectItem jStream (name "start_time")) (getObjectItem jStream (name "end_time"))) at'.1
          with
    | some streams => (streams, at'.2)
    | none => (at'.1, false)
  | _, _, _, _, _, _ => (at'.1, false)

/-- What the results say of the other end as a whole. -/
def getRemote (test : Test D) (total user system retransmits : Item D) : Test D :=
  let test := {test with remoteCpuUtil := (valuedouble c total, valuedouble c user,
    valuedouble c system)}
  let resultHasRetransmits := Int32.ofInt (valueint c retransmits)
  match test.mode with
  | .receiver => {test with
      senderHasRetransmits := resultHasRetransmits, otherSideHasRetransmits := 0}
  | .bidirectional => {test with otherSideHasRetransmits := resultHasRetransmits}
  | .sender => test

def getStreams (test : Test D) (j jStreams : Item D) : Test D × Bool :=
  let got := (arrayItems jStreams).foldl (getStream c) (test.streams, true)
  let text := if test.role = .client ∧ test.getServerOutput then
      ((getObjectItem j (name "server_output_text")).map valuestring).getD test.serverOutputText
    else test.serverOutputText
  ({test with streams := got.1, serverOutputText := text}, got.2)

/-- `get_results` with the object that was read, and whether it returns without an error. -/
def getResults (test : Test D) (j : Item D) : Test D × Bool :=
  let got : Test D × Bool :=
    match getObjectItem j (name "cpu_util_total"), getObjectItem j (name "cpu_util_user"),
        getObjectItem j (name "cpu_util_system"),
          getObjectItem j (name "sender_has_retransmits") with
    | some total, some user, some system, some retransmits =>
      let test := getRemote c test total user system retransmits
      match getObjectItem j (name "streams") with
      | none => (test, false)
      | some jStreams => getStreams c test j jStreams
    | _, _, _, _ => (test, false)
  let congestionUsed := (getObjectItem j (name "congestion_used")).map valuestring
  ({got.1 with remoteCongestionUsed := congestionUsed.getD got.1.remoteCongestionUsed}, got.2)

end get

section numbers

/-- The numbers that streams get, in order. -/
def streamIds (n : ℕ) : List Int32 :=
  (List.range n).map fun k => if k = 0 then 1 else Int32.ofNat (2+k)

theorem map_id_addStream (sps : List (Stream D)) :
    (sps.foldl addStream []).map Stream.id = streamIds sps.length := by
  induction sps using List.reverseRecOn with
  | nil => rfl
  | append_singleton sps sp ih =>
    have hlength : (sps.foldl addStream []).length = sps.length := by
      have := congrArg List.length ih
      simpa [streamIds] using this
    have hempty : (sps.foldl addStream []).isEmpty = decide (sps.length = 0) := by
      rw [← hlength, Bool.eq_iff_iff]
      simp
    rw [List.foldl_append, List.foldl_cons, List.foldl_nil, addStream, List.map_append, ih,
      streamIds, streamIds, List.length_append, List.length_singleton, List.range_succ,
        List.map_append, hlength, hempty]
    simp

theorem nodup_streamIds (n : ℕ) (h : n+1 < 2147483648) : (streamIds n).Nodup := by
  refine List.Nodup.map_on (fun k hk k' hk' heq => ?_) List.nodup_range
  rw [List.mem_range] at hk hk'
  have hint (m : ℕ) (hm : m < n) : (if m = 0 then 1 else Int32.ofNat (2+m)).toInt = if m = 0 then 1
      else 2+(m:ℤ) := by
    split_ifs
    · rfl
    · exact Int32.toInt_ofNat_of_lt (by omega)
  have hval := congrArg Int32.toInt heq
  rw [hint k hk, hint k' hk'] at hval
  split_ifs at hval <;> omega

end numbers

end IperfResults

end MmWaveTracker
