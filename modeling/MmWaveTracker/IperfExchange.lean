import MmWaveTracker.IperfResults

/-! After the exchange of results both ends of a test hold the same numbers. -/
namespace MmWaveTracker

namespace IperfResults

open CString CJson IperfParameters

variable {D : Type} (c : Numbers D)

section lookup

theorem streamNames_pairwise (test : Test D) (sp : Stream D) :
    ((streamResults c test sp).map Prod.fst).Pairwise fun a b => sameName a b = false ∧
      sameName b a = false := by
  have hnames : (streamResults c test sp).map Prod.fst = ["id", "bytes", "retransmits", "jitter",
      "errors", "packets", "start_time", "end_time"].map name := rfl
  rw [hnames]
  decide +kernel

theorem resultNames_pairwise (test : Test D) :
    ((results c test).map Prod.fst).Pairwise fun a b => sameName a b = false ∧
      sameName b a = false := by
  have hnames : (results c test).map Prod.fst = ["cpu_util_total", "cpu_util_user",
      "cpu_util_system", "sender_has_retransmits", "congestion_used", "server_output_text",
        "streams"].map name := rfl
  rw [hnames]
  decide +kernel

theorem item_stream (test : Test D) (sp : Stream D) (i : ℕ) {string : Text} {item : Option (Item D)}
    (hi : (streamResults c test sp)[i]? = some (string, item)) :
    getObjectItem (sendStream c test sp) string = item :=
  getObjectItem_table _ (streamNames_pairwise c test sp) i string item hi

theorem item_results (test : Test D) (i : ℕ) {string : Text} {item : Option (Item D)}
    (hi : (results c test)[i]? = some (string, item)) :
    getObjectItem (sendResults c test) string = item :=
  getObjectItem_table _ (resultNames_pairwise c test) i string item hi

end lookup

section sent

/-- The numbers of a stream can be sent as they are. -/
structure Sendable (sp : Stream D) : Prop where
  jitter : c.finite sp.jitter = true
  seconds : c.finite sp.seconds = true
  bytes : Exact (bytesTransferred sp)

/-- The same of a whole test. -/
structure SendableTest (test : Test D) : Prop where
  total : c.finite test.cpuUtil.1 = true
  user : c.finite test.cpuUtil.2.1 = true
  system : c.finite test.cpuUtil.2.2 = true
  streams : ∀ sp ∈ test.streams, Sendable c sp

theorem readBack_finite (d : D) (h : c.finite d = true) : readBack c (.number d) = .number d := by
  rw [readBack, if_pos h]

theorem readBackElements_eq (items : List (Item D)) (h : ∀ item ∈ items, readBack c item = item) :
    readBackElements c items = items := by
  induction items with
  | nil => rw [readBackElements]
  | cons item items ih =>
    rw [readBackElements, h item List.mem_cons_self, ih fun x hx =>
      h x (List.mem_cons_of_mem item hx)]

variable [DecidableEq D]

theorem readBack_number (hc : c.Standard) (n : Int32) : readBack c (number c n) = number c n :=
  readBack_createNumber c hc _ (natAbs_toInt n)

theorem readBack_sendStream (hc : c.Standard) (test : Test D) (sp : Stream D) (h : Sendable c sp) :
    readBack c (sendStream c test sp) = sendStream c test sp := by
  have hzero := readBack_createNumber c hc 0 (Nat.zero_le _)
  refine readBack_table c _ ?_
  simp only [streamResults, List.forall_mem_cons, Option.some.injEq, forall_eq']
  exact ⟨readBack_number c hc _, readBack_createNumber c hc (bytesTransferred sp).toNat h.bytes,
    readBack_number c hc _, readBack_finite c _ h.jitter, readBack_number c hc _,
      readBack_number c hc _, hzero, readBack_finite c _ h.seconds,
    fun entry hentry => absurd hentry List.not_mem_nil⟩

theorem readBack_sendResults (hc : c.Standard) (test : Test D) (h : SendableTest c test) :
    readBack c (sendResults c test) = sendResults c test := by
  have hstreams : readBack c (.array (test.streams.map (sendStream c test))) =
      .array (test.streams.map (sendStream c test)) := by
    rw [readBack, readBackElements_eq]
    intro item hitem
    obtain ⟨sp, hsp, rfl⟩ := List.mem_map.mp hitem
    exact readBack_sendStream c hc test sp (h.streams sp hsp)
  refine readBack_table c _ ?_
  simp only [results, List.forall_mem_cons, Option.some.injEq, forall_eq']
  refine ⟨readBack_finite c _ h.total, readBack_finite c _ h.user, readBack_finite c _ h.system,
    readBack_number c hc _, fun item hitem => ?_, fun item hitem => ?_, hstreams,
      fun entry hentry => absurd hentry List.not_mem_nil⟩
  · obtain ⟨string, -, rfl⟩ := Option.map_eq_some_iff.mp hitem
    rw [readBack]
  · unfold whenSet at hitem
    split_ifs at hitem
    cases hitem
    rw [readBack]

end sent

section got

variable [DecidableEq D]

/-- What a stream of this end knows after the results of the peer's stream. -/
def told (peerTest : Test D) (sp peer : Stream D) : Stream D :=
  if sp.sender then
    {sp with
      jitter := peer.jitter
      cntError := peer.cntError
      peerPacketCount := peer.packetCount
      bytesReceived := bytesTransferred peer
      receiverTime := c.sub peer.seconds (c.ofInt 0)}
  else
    {sp with
      peerPacketCount := peer.packetCount
      bytesSent := bytesTransferred peer
      streamRetrans := retransmits peerTest peer
      senderTime := c.sub peer.seconds (c.ofInt 0)}

omit [DecidableEq D] in
theorem told_id (peerTest : Test D) (sp peer : Stream D) :
    (told c peerTest sp peer).id = sp.id := by
  unfold told
  split_ifs <;> rfl

omit [DecidableEq D] in
/-- The stream with a number comes behind streams with other numbers. -/
theorem replace_behind (sid : Int32) (f : Stream D → Stream D) (done rest : List (Stream D))
    (sp : Stream D) (hdone : ∀ x ∈ done, x.id ≠ sid) (hsp : sp.id = sid) :
    replace sid f (done ++ sp :: rest) = some (done ++ f sp :: rest) := by
  induction done with
  | nil => rw [List.nil_append, replace, if_pos hsp, List.nil_append]
  | cons x done ih =>
    rw [List.cons_append, replace, if_neg (hdone x List.mem_cons_self), ih fun y hy =>
      hdone y (List.mem_cons_of_mem x hy), Option.map_some, List.cons_append]

omit [DecidableEq D] in
theorem valuedouble_number (d : D) : valuedouble c (.number d) = d := rfl

omit [DecidableEq D] in
theorem valuedouble_createNumber (n : ℤ) : valuedouble c (createNumber c n) = c.ofInt n := rfl

theorem getStream_behind (hc : c.Standard) (peerTest : Test D) (done rest : List (Stream D))
    (sp peer : Stream D) (hdone : ∀ x ∈ done, x.id ≠ peer.id) (hsp : sp.id = peer.id)
    (hpeer : Sendable c peer) :
    getStream c (done ++ sp :: rest, true) (sendStream c peerTest peer) =
      (done ++ told c peerTest sp peer :: rest, true) := by
  have item (i : ℕ) {string : Text} {item : Option (Item D)}
      (hi : (streamResults c peerTest peer)[i]? = some (string, item)) :=
    item_stream c peerTest peer i hi
  have hbytes : UInt64.ofInt (valueint c (createNumber c (bytesTransferred peer).toNat)) =
      bytesTransferred peer := by
    rw [valueint_createNumber c hc (bytesTransferred peer).toNat hpeer.bytes, ofInt_toNat]
  unfold getStream
  simp only [item 0 rfl, item 1 rfl, item 2 rfl, item 3 rfl, item 4 rfl, item 5 rfl, item 6 rfl,
    item 7 rfl, ofInt_number c hc]
  rw [replace_behind peer.id _ done rest sp hdone hsp]
  simp only [update, told, hbytes, ofInt_number c hc, valuedouble_number, valuedouble_createNumber]

/-- The loop over the streams of the peer, whose numbers are those of this end. -/
theorem foldl_getStream (hc : c.Standard) (peerTest : Test D) (streams peers : List (Stream D))
    (hids : streams.map Stream.id = peers.map Stream.id) (hpeers : ∀ peer ∈ peers, Sendable c peer)
    (done : List (Stream D)) (hnodup : (done.map Stream.id ++ streams.map Stream.id).Nodup) :
    (peers.map (sendStream c peerTest)).foldl (getStream c) (done ++ streams, true) =
      (done ++ List.zipWith (told c peerTest) streams peers, true) := by
  induction peers generalizing streams done with
  | nil =>
    rw [List.map_nil, List.map_eq_nil_iff] at hids
    rw [hids, List.map_nil, List.foldl_nil, List.zipWith_nil_left]
  | cons peer peers ih =>
    obtain ⟨sp, streams, rfl, hsp, htail⟩ := List.map_eq_cons_iff.mp hids
    have hdone : ∀ x ∈ done, x.id ≠ peer.id := by
      intro x hx heq
      have hdisjoint := (List.nodup_append.mp hnodup).2.2
      exact hdisjoint x.id (List.mem_map_of_mem hx) sp.id
        (by rw [List.map_cons]; exact List.mem_cons_self) (heq.trans hsp.symm)
    have hmoved : ((done ++ [told c peerTest sp peer]).map Stream.id ++
        streams.map Stream.id).Nodup := by
      rw [List.map_append, List.map_singleton, told_id, List.append_assoc, List.singleton_append]
      rwa [List.map_cons] at hnodup
    have hnext := ih streams htail (fun p hp => hpeers p (List.mem_cons_of_mem _ hp)) _ hmoved
    rw [List.append_assoc, List.append_assoc, List.singleton_append, List.singleton_append] at hnext
    rw [List.map_cons, List.foldl_cons,
      getStream_behind c hc peerTest done streams sp peer hdone hsp
      (hpeers peer List.mem_cons_self), hnext, List.zipWith_cons_cons]

/-- The results of a peer with the same streams are taken over without an error. -/
theorem getResults_send (hc : c.Standard) (test peer : Test D)
    (hids : test.streams.map Stream.id = peer.streams.map Stream.id)
    (hnodup : (test.streams.map Stream.id).Nodup)
    (hpeer : SendableTest c peer) (got : Test D × Bool)
    (hgot : got = getResults c test (readBack c (sendResults c peer))) :
    got.2 = true ∧ got.1.cpuUtil = test.cpuUtil ∧
      got.1.streams = List.zipWith (told c peer) test.streams peer.streams := by
  have item (i : ℕ) {string : Text} {item : Option (Item D)}
      (hi : (results c peer)[i]? = some (string, item)) :=
    item_results c peer i hi
  have hstreams (test' : Test D) (h : test'.streams = test.streams) (j : Item D) :
      getStreams c test' j (.array (peer.streams.map (sendStream c peer))) =
        ({test' with
          streams := List.zipWith (told c peer) test.streams peer.streams
          serverOutputText := (getStreams c test' j
            (.array (peer.streams.map (sendStream c peer)))).1.serverOutputText}, true) := by
    have hfold := foldl_getStream c hc peer test.streams peer.streams hids hpeer.streams [] hnodup
    rw [List.nil_append, List.nil_append] at hfold
    simp only [getStreams, arrayItems, h, hfold]
  have hremote (total user system retransmits : Item D) :
      (getRemote c test total user system retransmits).streams = test.streams ∧
        (getRemote c test total user system retransmits).cpuUtil = test.cpuUtil := by
    cases hmode : test.mode <;> simp [getRemote, hmode]
  rw [readBack_sendResults c hc peer hpeer] at hgot
  unfold getResults at hgot
  simp only [item 0 rfl, item 1 rfl, item 2 rfl, item 3 rfl, item 6 rfl] at hgot
  rw [hstreams _ (hremote _ _ _ _).1] at hgot
  subst hgot
  exact ⟨rfl, (hremote _ _ _ _).2, rfl⟩

/-- What the end that sent and the end that received agree on. -/
structure Settled (sending receiving : Stream D) : Prop where
  received : sending.bytesReceived = receiving.bytesReceived
  sent : receiving.bytesSent = sending.bytesSent-sending.bytesSentOmit
  jitter : sending.jitter = receiving.jitter
  errors : sending.cntError = receiving.cntError
  packetsReceived : sending.peerPacketCount = receiving.packetCount
  packetsSent : receiving.peerPacketCount = sending.packetCount

omit [DecidableEq D] in
theorem bytesTransferred_told (peerTest : Test D) (sp peer : Stream D) :
    bytesTransferred (told c peerTest sp peer) = bytesTransferred sp := by
  cases hsender : sp.sender <;> simp [told, bytesTransferred, hsender]

omit [DecidableEq D] in
/-- A server answers after it has taken over the results of the client: its sending streams repeat
what the client said of them. -/
theorem sendable_told (peerTest : Test D) (sp peer : Stream D) (hsp : Sendable c sp)
    (hpeer : Sendable c peer) : Sendable c (told c peerTest sp peer) where
  jitter := by
    unfold told
    split_ifs
    · exact hpeer.jitter
    · exact hsp.jitter
  seconds := by
    unfold told
    split_ifs <;> exact hsp.seconds
  bytes := by
    rw [bytesTransferred_told]
    exact hsp.bytes

omit [DecidableEq D] in
/-- One pair of streams after both results. -/
theorem settled_told (client server : Test D) (sp sq : Stream D) (h : sq.sender = !sp.sender) :
    if (told c server sp (told c client sq sp)).sender then
      Settled (told c server sp (told c client sq sp)) (told c client sq sp)
    else Settled (told c client sq sp) (told c server sp (told c client sq sp)) := by
  cases hsp : sp.sender <;> rw [hsp] at h <;>
    simp only [told, h, hsp, Bool.not_true, Bool.not_false, if_true, Bool.false_eq_true, if_false]
      <;>
    constructor <;> simp [bytesTransferred, hsp]

omit [DecidableEq D] in
theorem settled_all (client server : Test D) (sps sqs : List (Stream D))
    (h : List.Forall₂ (fun sp sq => sq.sender = !sp.sender) sps sqs) :
    List.Forall₂ (fun sp sq => if sp.sender then Settled sp sq else Settled sq sp)
      (List.zipWith (told c server) sps (List.zipWith (told c client) sqs sps))
      (List.zipWith (told c client) sqs sps) := by
  induction h with
  | nil => exact .nil
  | cons hpair _ ih => exact .cons (settled_told c client server _ _ hpair) ih

omit [DecidableEq D] in
theorem map_id_told (peerTest : Test D) (sps peers : List (Stream D))
    (h : sps.length = peers.length) :
    (List.zipWith (told c peerTest) sps peers).map Stream.id = sps.map Stream.id := by
  induction sps generalizing peers with
  | nil => rfl
  | cons sp sps ih =>
    cases peers with
    | nil => cases h
    | cons peer peers => rw [List.zipWith_cons_cons, List.map_cons, List.map_cons, told_id,
        ih peers (Nat.succ.inj h)]

/-- `iperf_exchange_results` on both ends: the client tells first, the server answers. Whatever the
streams counted, neither end fails, and every pair of streams agrees on what was sent, received and
lost. -/
theorem exchange_settles (hc : c.Standard) (client server : Test D) (n : ℕ) (hn : n+1 < 2147483648)
    (hclientIds : client.streams.map Stream.id = streamIds n)
    (hserverIds : server.streams.map Stream.id = streamIds n)
    (hopposite : List.Forall₂ (fun sp sq => sq.sender = !sp.sender) client.streams server.streams)
    (hclient : SendableTest c client) (hserver : SendableTest c server)
    (server' client' : Test D × Bool)
    (hserver' : server' = getResults c server (readBack c (sendResults c client)))
    (hclient' : client' = getResults c client (readBack c (sendResults c server'.1))) :
    server'.2 = true ∧ client'.2 = true ∧
      List.Forall₂ (fun sp sq => if sp.sender then Settled sp sq
        else Settled sq sp) client'.1.streams server'.1.streams := by
  have hnodup := nodup_streamIds n hn
  obtain ⟨hok, hcpu, hstreams⟩ :=
    getResults_send c hc server client (hserverIds.trans hclientIds.symm)
    (by rw [hserverIds]; exact hnodup) hclient server' hserver'
  have hlength : server.streams.length = client.streams.length := hopposite.length_eq.symm
  have hids : client.streams.map Stream.id = server'.1.streams.map Stream.id := by
    rw [hstreams, map_id_told c client _ _ hlength, hclientIds, hserverIds]
  have hanswer : SendableTest c server'.1 := by
    refine ⟨by rw [hcpu]; exact hserver.total, by rw [hcpu]; exact hserver.user, by
      rw [hcpu]; exact hserver.system, ?_⟩
    rw [hstreams]
    intro x hx
    obtain ⟨⟨sq, sp⟩, hpair, rfl⟩ := List.mem_map.mp (List.map_uncurry_zip_eq_zipWith ▸ hx)
    obtain ⟨hsq, hsp⟩ := List.of_mem_zip hpair
    exact sendable_told c client sq sp (hserver.streams sq hsq) (hclient.streams sp hsp)
  obtain ⟨hok', -, hstreams'⟩ :=
    getResults_send c hc client server'.1 hids (by rw [hclientIds]; exact hnodup) hanswer client'
    hclient'
  refine ⟨hok, hok', ?_⟩
  rw [hstreams', hstreams]
  exact settled_all c client server'.1 _ _ hopposite

/-- A bidirectional test over UDP: what the client and the server have counted for a stream in each
direction; the server has lost one of five datagrams, and the client two of seven. -/
def clientStreams : List (Stream Whole) :=
  [{newStream wholeNumbers true with id := 1, packetCount := 5, bytesSent := 7000},
    {newStream wholeNumbers false with
      id := 3, packetCount := 7, cntError := 2, bytesReceived := 7000}]

def serverStreams : List (Stream Whole) :=
  [{newStream wholeNumbers false with
    id := 1, packetCount := 5, cntError := 1, bytesReceived := 5600},
    {newStream wholeNumbers true with id := 3, packetCount := 7, bytesSent := 9800}]

theorem sendable_all (sps : List (Stream Whole))
    (h : ∀ sp ∈ sps, (bytesTransferred sp).toNat ≤ 9007199254740992) :
    ∀ sp ∈ sps, Sendable wholeNumbers sp := fun sp hsp => ⟨rfl, rfl, h sp hsp⟩

theorem exchange_settles_two :
    let client := newTest wholeNumbers .client .bidirectional clientStreams
    let server := newTest wholeNumbers .server .bidirectional serverStreams
    let server' := getResults wholeNumbers server
      (readBack wholeNumbers (sendResults wholeNumbers client))
    let client' := getResults wholeNumbers client
      (readBack wholeNumbers (sendResults wholeNumbers server'.1))
    server'.2 = true ∧ client'.2 = true ∧
      List.Forall₂ (fun sp sq => if sp.sender then Settled sp sq
        else Settled sq sp) client'.1.streams server'.1.streams := by
  intro client server server' client'
  have hopposite :
      List.Forall₂ (fun sp sq => sq.sender = !sp.sender) client.streams server.streams :=
    .cons rfl (.cons rfl .nil)
  have hclient : SendableTest wholeNumbers client := ⟨rfl, rfl, rfl, sendable_all _ (by decide)⟩
  have hserver : SendableTest wholeNumbers server := ⟨rfl, rfl, rfl, sendable_all _ (by decide)⟩
  exact exchange_settles wholeNumbers standard_wholeNumbers client server 2
    (by decide) rfl rfl hopposite hclient hserver
    server' client' rfl rfl

end got

end IperfResults

end MmWaveTracker
