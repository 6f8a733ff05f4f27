import MmWaveTracker.IperfParameters
import Mathlib.Data.List.Induction

/-! What a server takes over from the parameters of a client, and what it keeps from the clients
before. -/
namespace MmWaveTracker

namespace IperfParameters

open CString CJson

section table

variable {D : Type} (c : Numbers D)

theorem sameName_self (string : Text) : sameName string string = true := decide_eq_true rfl

/-- A child is found by its name when no other is called the same. -/
theorem getObjectItem_table (table : List (Text × Option (Item D)))
    (h : (table.map Prod.fst).Pairwise fun a b => sameName a b = false ∧ sameName b a = false)
    (i : ℕ) (string : Text)
    (item : Option (Item D)) (hi : table[i]? = some (string, item)) :
    getObjectItem (.object (table.filterMap child)) string = item := by
  rw [getObjectItem]
  induction table generalizing i with
  | nil => cases hi
  | cons entry table ih =>
    obtain ⟨string', item'⟩ := entry
    rw [List.map_cons, List.pairwise_cons] at h
    cases i with
    | zero =>
      cases hi
      cases item with
      | some item => simp [child, sameName_self]
      | none =>
        rw [List.filterMap_cons_none rfl, List.find?_eq_none.mpr, Option.map_none]
        intro m hm
        obtain ⟨entry, hentry, heq⟩ := List.mem_filterMap.mp hm
        obtain ⟨item, -, rfl⟩ := Option.map_eq_some_iff.mp heq
        rw [(h.1 entry.1 (List.mem_map_of_mem hentry)).1]
        exact Bool.false_ne_true
    | succ i =>
      have hi' : table[i]? = some (string, item) := hi
      have hother : sameName string string' = false :=
        (h.1 string (List.mem_map.mpr ⟨_, List.mem_of_getElem? hi', rfl⟩)).2
      cases item' with
      | none => rw [List.filterMap_cons_none rfl, ih h.2 i hi']
      | some item' => simpa [child, hother] using ih h.2 i hi'

/-- The names of the parameters, no two of which differ in case only. -/
theorem names_pairwise (test : Test) :
    ((parameters c test).map Prod.fst).Pairwise fun a b => sameName a b = false ∧
      sameName b a = false := by
  have hnames : (parameters c test).map Prod.fst = ["tcp", "udp", "omit", "server_affinity", "time",
      "num", "blockcount", "MSS", "nodelay", "parallel", "reverse", "bidirectional", "window",
        "len", "bandwidth", "fqrate", "pacing_timer",
      "burst", "TOS", "flowlabel", "title", "extra_data", "congestion", "congestion_used",
        "get_server_output",
      "udp_counters_64bit", "repeating_payload", "client_version"].map name := rfl
  rw [hnames]
  decide +kernel

theorem item_parameters (test : Test) (i : ℕ) {string : Text} {item : Option (Item D)}
    (hi : (parameters c test)[i]? = some (string, item)) :
    getObjectItem (sendParameters c test) string = item :=
  getObjectItem_table (parameters c test) (names_pairwise c test) i string item hi

end table

section values

variable {D : Type} [DecidableEq D] (c : Numbers D)

/-- A setting that is not sent leaves the one there was. -/
def orOld {α : Type} [DecidableEq α] (unset new old : α) : α := if new = unset then old else new

/-- A size of at most 53 bits is kept by a `double`. -/
def Exact (n : UInt64) : Prop := n.toNat ≤ 9007199254740992

theorem valueint_createNumber (hc : c.Standard) (n : ℤ) (h : n.natAbs ≤ 9007199254740992) :
    valueint c (createNumber c n) = n := by
  rw [createNumber, valueint, (hc.ofInt n h).2, clampLong]
  omega

theorem natAbs_toInt (n : Int32) : n.toInt.natAbs ≤ 9007199254740992 := by
  have hlo := n.le_toInt
  have hhi := n.toInt_lt
  omega

theorem ofInt_number (hc : c.Standard) (n : Int32) : Int32.ofInt (valueint c (number c n)) = n := by
  rw [number, valueint_createNumber c hc _ (natAbs_toInt n), Int32.ofInt_toInt]

theorem ofInt_toNat (n : UInt64) : UInt64.ofInt (n.toNat : ℤ) = n := by
  have hlt : ((n.toNat : ℤ)%2^64).toNat = n.toNat := by
    have := n.toNat_lt
    omega
  rw [UInt64.ofInt, hlt, UInt64.ofNat_toNat]

theorem getD_unlessZero (hc : c.Standard) (n old : Int32) :
    ((unlessZero c n).map fun jp => Int32.ofInt (valueint c jp)).getD old = orOld 0 n old := by
  unfold unlessZero orOld
  split_ifs
  · rfl
  · exact ofInt_number c hc n

theorem getD_serverAffinity (hc : c.Standard) (n old : Int32) :
    ((if n = -1 then none else some (number c n)).map fun jp =>
      Int32.ofInt (valueint c jp)).getD old = orOld (-1) n old := by
  unfold orOld
  split_ifs
  · rfl
  · exact ofInt_number c hc n

theorem getD_unlessZero64 (hc : c.Standard) (n old : UInt64) (h : Exact n) :
    ((unlessZero64 c n).map fun jp => UInt64.ofInt (valueint c jp)).getD old = orOld 0 n old := by
  unfold unlessZero64 orOld
  split_ifs
  · rfl
  · rw [Option.map_some, Option.getD_some, valueint_createNumber c hc n.toNat h, ofInt_toNat]

omit [DecidableEq D] in
theorem getD_string (text old : Option Text) :
    ((text.map (Item.string (D := D))).map valuestring).getD old = orOld none text old := by
  cases text with
  | none => rfl
  | some text => rfl

omit [DecidableEq D] in
theorem isSome_whenSet (flag : Bool) (item : Item D) (old : Bool) :
    ((whenSet flag item).isSome || old) = orOld false flag old := by
  cases flag <;> rfl

theorem readBack_createNumber (hc : c.Standard) (n : ℤ) (h : n.natAbs ≤ 9007199254740992) :
    readBack c (createNumber c n) = createNumber c n := by
  rw [createNumber, readBack, if_pos (hc.ofInt n h).1]

omit [DecidableEq D] in
theorem readBackMembers_eq (members : List (Text × Item D))
    (h : ∀ m ∈ members, readBack c m.2 = m.2) : readBackMembers c members = members := by
  induction members with
  | nil => rw [readBackMembers]
  | cons m members ih =>
    rw [readBackMembers, h m List.mem_cons_self, ih fun x hx => h x (List.mem_cons_of_mem m hx)]

omit [DecidableEq D] in
/-- An object is read as it is if each of its children is. -/
theorem readBack_table (table : List (Text × Option (Item D)))
    (h : ∀ entry ∈ table, ∀ item, entry.2 = some item → readBack c item = item) :
    readBack c (.object (table.filterMap child)) = .object (table.filterMap child) := by
  rw [readBack, readBackMembers_eq]
  intro m hm
  obtain ⟨entry, hentry, heq⟩ := List.mem_filterMap.mp hm
  obtain ⟨item, hitem, rfl⟩ := Option.map_eq_some_iff.mp heq
  exact h entry hentry item hitem

/-- The 64-bit sizes of a test are exact. -/
structure ExactSizes (test : Test) : Prop where
  bytes : Exact test.bytes
  blocks : Exact test.blocks
  rate : Exact test.rate
  fqrate : Exact test.fqrate

/-- The parameters are read as they were sent: each of them is a text, a flag or a number of at most
53 bits. -/
theorem readBack_sendParameters (hc : c.Standard) (test : Test) (h : ExactSizes test) :
    readBack c (sendParameters c test) = sendParameters c test := by
  have hnumber (n : Int32) : readBack c (number c n) = number c n :=
    readBack_createNumber c hc _ (natAbs_toInt n)
  have hint (n : Int32) (item : Item D) (hitem : unlessZero c n = some item) :
      readBack c item = item := by
    unfold unlessZero at hitem
    split_ifs at hitem
    cases hitem
    exact hnumber n
  have hsize (n : UInt64) (hn : Exact n) (item : Item D) (hitem : unlessZero64 c n = some item) :
      readBack c item = item := by
    unfold unlessZero64 at hitem
    split_ifs at hitem
    cases hitem
    exact readBack_createNumber c hc n.toNat hn
  have hflag (flag : Bool) (item item' : Item D) (hread : readBack c item = item)
      (hitem : whenSet flag item = some item') : readBack c item' = item' := by
    cases flag
    · cases hitem
    · cases hitem
      exact hread
  have htext (text : Option Text) (item : Item D) (hitem : text.map Item.string = some item) :
      readBack c item = item := by
    obtain ⟨string, -, rfl⟩ := Option.map_eq_some_iff.mp hitem
    rw [readBack]
  have hall : ∀ entry ∈ parameters c test, ∀ item, entry.2 = some item →
      readBack c item = item := by
    have htrue : readBack c .true = .true := by rw [readBack]
    simp only [parameters, List.forall_mem_cons]
    and_intros
    all_goals intro item hitem
    all_goals first
      | exact hint _ item hitem
      | exact htext _ item hitem
      | exact hflag _ .true item htrue hitem
      | exact hflag _ (number c 1) item (hnumber 1) hitem
      | exact hsize _ h.bytes item hitem
      | exact hsize _ h.blocks item hitem
      | exact hsize _ h.rate item hitem
      | exact hsize _ h.fqrate item hitem
      | skip
    · cases hitem
      exact hnumber test.omitPeriod
    · split_ifs at hitem
      cases hitem
      exact hnumber test.serverAffinity
    · cases hitem
      exact hnumber test.duration
    · cases hitem
      exact hnumber test.numStreams
    · cases hitem
      rw [readBack]
    · exact absurd hitem List.not_mem_nil
  exact readBack_table c (parameters c test) hall

/-- What a server makes of the parameters of a client, field by field. -/
structure Negotiated (r : Bool) (old client new : Test) : Prop where
  role : new.role = old.role
  protocol : new.protocol = client.protocol
  omitPeriod : new.omitPeriod = client.omitPeriod
  duration : new.duration = client.duration
  serverAffinity : new.serverAffinity = orOld (-1) client.serverAffinity old.serverAffinity
  noDelay : new.noDelay = orOld false client.noDelay old.noDelay
  reverse : new.reverse = orOld false client.reverse old.reverse
  bidirectional : new.bidirectional = orOld false client.bidirectional old.bidirectional
  numStreams : new.numStreams = client.numStreams
  title : new.title = orOld none client.title old.title
  extraData : new.extraData = orOld none client.extraData old.extraData
  congestion : new.congestion = orOld none client.congestion old.congestion
  congestionUsed : new.congestionUsed = orOld none client.congestionUsed old.congestionUsed
  getServerOutput : new.getServerOutput = orOld false client.getServerOutput old.getServerOutput
  udpCounters64bit : new.udpCounters64bit = orOld false client.udpCounters64bit old.udpCounters64bit
  repeatingPayload : new.repeatingPayload = orOld false client.repeatingPayload old.repeatingPayload
  bytes : new.bytes = orOld 0 client.bytes old.bytes
  blocks : new.blocks = orOld 0 client.blocks old.blocks
  mss : new.mss = orOld 0 client.mss old.mss
  socketBufsize : new.socketBufsize = orOld 0 client.socketBufsize old.socketBufsize
  blksize : new.blksize = orOld 0 client.blksize old.blksize
  rate : new.rate = orOld 0 client.rate old.rate
  fqrate : new.fqrate = orOld 0 client.fqrate old.fqrate
  pacingTimer : new.pacingTimer = orOld 0 client.pacingTimer old.pacingTimer
  burst : new.burst = orOld 0 client.burst old.burst
  tos : new.tos = orOld 0 client.tos old.tos
  flowlabel : new.flowlabel = orOld 0 client.flowlabel old.flowlabel
  mode : old.role = .server → old.mode = .receiver → new.mode =
    if client.bidirectional then .bidirectional else if client.reverse then .sender else .receiver
  senderHasRetransmits : old.role = .server → old.mode = .receiver →
    new.senderHasRetransmits = seesRetransmits r new

theorem negotiated_getParameters (hc : c.Standard) (r : Bool) (old client : Test)
    (h : ExactSizes client) :
    Negotiated r old client (getParameters c r old (readBack c (sendParameters c client))) := by
  have item (i : ℕ) {string : Text} {item : Option (Item D)}
      (hi : (parameters c client)[i]? = some (string, item)) :=
    item_parameters c client i hi
  rw [readBack_sendParameters c hc client h]
  unfold getParameters
  simp only [item 0 rfl, item 1 rfl, item 2 rfl, item 3 rfl, item 4 rfl, item 5 rfl, item 6 rfl,
    item 7 rfl, item 8 rfl, item 9 rfl, item 10 rfl, item 11 rfl, item 12 rfl, item 13 rfl,
      item 14 rfl, item 15 rfl, item 16 rfl, item 17 rfl,
    item 18 rfl, item 19 rfl, item 20 rfl, item 21 rfl, item 22 rfl, item 23 rfl, item 24 rfl,
      item 25 rfl,
    item 26 rfl, getD_unlessZero c hc, getD_serverAffinity c hc, getD_string, isSome_whenSet,
      getD_unlessZero64 c hc _ _ h.bytes,
    getD_unlessZero64 c hc _ _ h.blocks, getD_unlessZero64 c hc _ _ h.rate,
    getD_unlessZero64 c hc _ _ h.fqrate, Option.map_some, Option.getD_some, ofInt_number c hc]
  obtain ⟨role, mode, senderHasRetransmits, protocol, omitPeriod, duration, serverAffinity, noDelay,
    reverse, bidirectional, numStreams, title, extraData, congestion, congestionUsed,
      getServerOutput, udpCounters64bit, repeatingPayload, bytes,
    blocks, mss, socketBufsize, blksize, rate, fqrate, pacingTimer, burst, tos, flowlabel⟩ := client
  cases protocol <;> cases reverse <;> cases bidirectional
  all_goals constructor
  all_goals first
    | rfl
    | rintro hrole hmode
      obtain ⟨⟩ := old
      subst hrole hmode
      first
        | rfl
        | cases r <;> rfl

/-- What is left of settings that came one after the other. -/
def kept {α : Type} [DecidableEq α] (unset default : α) (settings : List α) : α :=
  settings.foldl (fun old new => orOld unset new old) default

theorem kept_append {α : Type} [DecidableEq α] (unset default : α) (settings : List α) (new : α) :
    kept unset default (settings ++ [new]) = orOld unset new (kept unset default settings) :=
      List.foldl_append

/-- The settings that `iperf_reset_test` does not reset. -/
structure Lasting (clients : List Test) (server : Test) : Prop where
  bytes : server.bytes = kept 0 0 (clients.map Test.bytes)
  blocks : server.blocks = kept 0 0 (clients.map Test.blocks)
  fqrate : server.fqrate = kept 0 0 (clients.map Test.fqrate)
  pacingTimer : server.pacingTimer = kept 0 1000 (clients.map Test.pacingTimer)
  flowlabel : server.flowlabel = kept 0 0 (clients.map Test.flowlabel)
  congestion : server.congestion = kept none none (clients.map Test.congestion)
  getServerOutput : server.getServerOutput = kept false false (clients.map Test.getServerOutput)
  repeatingPayload : server.repeatingPayload = kept false false (clients.map Test.repeatingPayload)

/-- The others, in a server that waits for a client. -/
structure Fresh (server : Test) : Prop where
  role : server.role = .server
  mode : server.mode = .receiver
  serverAffinity : server.serverAffinity = -1
  noDelay : server.noDelay = false
  reverse : server.reverse = false
  bidirectional : server.bidirectional = false
  title : server.title = none
  extraData : server.extraData = none
  congestionUsed : server.congestionUsed = none
  udpCounters64bit : server.udpCounters64bit = false
  mss : server.mss = 0
  socketBufsize : server.socketBufsize = 0
  blksize : server.blksize = defaultTcpBlksize
  rate : server.rate = 0
  burst : server.burst = 0
  tos : server.tos = 0

theorem lasting_negotiated (r : Bool) (clients : List Test) (old client new : Test)
    (hold : Lasting clients old) (h : Negotiated r old client new) :
    Lasting (clients ++ [client]) new := by
  constructor <;> rw [List.map_append, List.map_singleton, kept_append]
  · rw [← hold.bytes, h.bytes]
  · rw [← hold.blocks, h.blocks]
  · rw [← hold.fqrate, h.fqrate]
  · rw [← hold.pacingTimer, h.pacingTimer]
  · rw [← hold.flowlabel, h.flowlabel]
  · rw [← hold.congestion, h.congestion]
  · rw [← hold.getServerOutput, h.getServerOutput]
  · rw [← hold.repeatingPayload, h.repeatingPayload]

/-- A server that has served clients, and the sizes that they asked for. -/
theorem ready_serverAfter (hc : c.Standard) (r : Bool) (past : List Session)
    (hpast : ∀ session ∈ past, ExactSizes session.client) :
    Fresh (serverAfter c r past) ∧ Lasting (past.map Session.client) (serverAfter c r past) := by
  induction past using List.reverseRecOn with
  | nil => exact ⟨by constructor <;> rfl, by constructor <;> rfl⟩
  | append_singleton past session ih =>
    obtain ⟨-, hlasting⟩ := ih fun x hx => hpast x (List.mem_append_left _ hx)
    have hnew := negotiated_getParameters c hc r (serverAfter c r past) session.client
      (hpast session (List.mem_append_right _ (List.mem_singleton_self session)))
    have hnext := lasting_negotiated r _ _ _ _ hlasting hnew
    have hafter : serverAfter c r (past ++ [session]) =
        afterSession c r (serverAfter c r past) session := List.foldl_append
    rw [hafter, List.map_append, List.map_singleton]
    exact ⟨by constructor <;> rfl, ⟨hnext.bytes, hnext.blocks, hnext.fqrate, hnext.pacingTimer,
      hnext.flowlabel, hnext.congestion, hnext.getServerOutput, hnext.repeatingPayload⟩⟩

def Mode.peer : Mode → Mode
  | .sender => .receiver
  | .receiver => .sender
  | .bidirectional => .bidirectional

/-- The mode that a client's options stand for. -/
def clientMode (client : Test) : Mode :=
  if client.bidirectional then .bidirectional else if client.reverse then .receiver else .sender

/-- Both ends run the same test, in opposite directions. -/
structure Agrees (client server : Test) : Prop where
  protocol : server.protocol = client.protocol
  omitPeriod : server.omitPeriod = client.omitPeriod
  duration : server.duration = client.duration
  serverAffinity : server.serverAffinity = client.serverAffinity
  noDelay : server.noDelay = client.noDelay
  reverse : server.reverse = client.reverse
  bidirectional : server.bidirectional = client.bidirectional
  numStreams : server.numStreams = client.numStreams
  title : server.title = client.title
  extraData : server.extraData = client.extraData
  congestionUsed : server.congestionUsed = client.congestionUsed
  udpCounters64bit : server.udpCounters64bit = client.udpCounters64bit
  mss : server.mss = client.mss
  socketBufsize : server.socketBufsize = client.socketBufsize
  blksize : server.blksize = orOld 0 client.blksize defaultTcpBlksize
  rate : server.rate = client.rate
  burst : server.burst = client.burst
  tos : server.tos = client.tos
  mode : server.mode = client.mode.peer

omit [DecidableEq D] in
theorem orOld_unset {α : Type} [DecidableEq α] (unset new : α) : orOld unset new unset = new := by
  unfold orOld
  split_ifs with h
  · exact h.symm
  · rfl

theorem agrees_negotiated (r : Bool) (old client new : Test) (hold : Fresh old)
    (h : Negotiated r old client new) (hmode : client.mode = clientMode client) :
    Agrees client new where
  protocol := h.protocol
  omitPeriod := h.omitPeriod
  duration := h.duration
  serverAffinity := by rw [h.serverAffinity, hold.serverAffinity, orOld_unset]
  noDelay := by rw [h.noDelay, hold.noDelay, orOld_unset]
  reverse := by rw [h.reverse, hold.reverse, orOld_unset]
  bidirectional := by rw [h.bidirectional, hold.bidirectional, orOld_unset]
  numStreams := h.numStreams
  title := by rw [h.title, hold.title, orOld_unset]
  extraData := by rw [h.extraData, hold.extraData, orOld_unset]
  congestionUsed := by rw [h.congestionUsed, hold.congestionUsed, orOld_unset]
  udpCounters64bit := by rw [h.udpCounters64bit, hold.udpCounters64bit, orOld_unset]
  mss := by rw [h.mss, hold.mss, orOld_unset]
  socketBufsize := by rw [h.socketBufsize, hold.socketBufsize, orOld_unset]
  blksize := by rw [h.blksize, hold.blksize]
  rate := by rw [h.rate, hold.rate, orOld_unset]
  burst := by rw [h.burst, hold.burst, orOld_unset]
  tos := by rw [h.tos, hold.tos, orOld_unset]
  mode := by
    rw [h.mode hold.role hold.mode, hmode, clientMode]
    split_ifs <;> rfl

/-- Whatever clients a server has served before, it runs the test that its next client asks for: the
two ends agree on the settings that every test starts afresh with and take opposite directions. The
settings that are not reset are those of the last client that set them. -/
theorem server_agrees (hc : c.Standard) (r : Bool) (past : List Session)
    (hpast : ∀ session ∈ past, ExactSizes session.client) (client : Test)
    (hclient : ExactSizes client)
    (hmode : client.mode = clientMode client) (server : Test)
    (hserver : server = getParameters c r (serverAfter c r past)
      (readBack c (sendParameters c client))) :
    Agrees client server ∧ Lasting (past.map Session.client ++ [client]) server ∧
      server.senderHasRetransmits = seesRetransmits r server := by
  obtain ⟨hfresh, hlasting⟩ := ready_serverAfter c hc r past hpast
  have hnew := negotiated_getParameters c hc r (serverAfter c r past) client hclient
  rw [← hserver] at hnew
  exact ⟨agrees_negotiated r _ client server hfresh hnew hmode,
    lasting_negotiated r _ _ client server hlasting hnew,
    hnew.senderHasRetransmits hfresh.role hfresh.mode⟩

/-- A client that does not limit its test inherits the limit of the client before. -/
theorem server_agrees_inherited : (getParameters wholeNumbers true (serverAfter wholeNumbers true
      [⟨{iperfDefaults with role := .client, mode := .sender, bytes := 1048576}, 0⟩])
        (readBack wholeNumbers
        (sendParameters wholeNumbers {iperfDefaults with
          role := .client, mode := .receiver, reverse := true}))).bytes =
    1048576 := by
  have hexact : ∀ session ∈
      ([⟨{iperfDefaults with role := .client, mode := .sender, bytes := 1048576}, 0⟩] :
      List Session), ExactSizes session.client := by
    intro session hsession
    cases List.mem_singleton.mp hsession
    constructor <;> unfold Exact <;> decide
  have hclient : ExactSizes {iperfDefaults with
      role := .client, mode := .receiver, reverse := true} := by
    constructor <;> unfold Exact <;> decide
  exact (server_agrees wholeNumbers standard_wholeNumbers true _ hexact _ hclient rfl _
    rfl).2.1.bytes.trans rfl

end values

end IperfParameters

end MmWaveTracker
