import MmWaveTracker.IperfControlServer

/-! What comes in at the listener, and where each step of the server and of its client leads. -/
namespace MmWaveTracker

namespace IperfControl

open ScriptQueue

variable {B : Type} {u : Setup B} {sys sys' : System B} {i j a d w : ℕ} {rest : List ConnId}

section accept

/-- The first client to come is served, however far it has got by now. -/
theorem Other.served {waiting : Prop} {pc : ClientPc} {toServer toClient : List (Item B)}
    (h : Other u j waiting pc toServer toClient) (hwaiting : waiting) :
    Served u j .readCookie pc toServer toClient 0 0 0 := by
  have hnothing : window (clientScript u j) 0 0 = [] := window_self _ 0
  have hsilent : window (serverScript u j) 0 0 = [] := window_self _ 0
  cases h with
  | idle hnot => exact absurd hwaiting hnot
  | dialled =>
    have hserved := Served.talking (u := u) (i := j) .dialled .readCookie le_rfl le_rfl
    rwa [hnothing, hsilent] at hserved
  | initial =>
    have hserved := Served.talking (u := u) (i := j) .initial .readCookie le_rfl (Nat.zero_le 1)
    rwa [hsilent] at hserved
  | stopped => exact .stopped .initial rfl .readCookie le_rfl (Nat.zero_le 1) []
  | refused hnot => exact absurd hwaiting hnot

theorem Inv.acceptFirst (h : Inv u sys) (hfree : Free sys)
    (hbacklog : sys.backlog = .control j :: rest) :
    Inv u {sys with
      backlog := rest
      server := {sys.server with ctrl := some (.control j), pc := .readCookie}} := by
  have hnodup := h.nodup
  rw [hbacklog] at hnodup
  obtain ⟨hout, hrest⟩ := List.nodup_cons.mp hnodup
  have hmem (x : ℕ) (hx : ConnId.control x ∈ rest) : Waiting sys x := by
    rw [Waiting, hbacklog]
    exact Or.inl (List.mem_cons_of_mem _ hx)
  have hwaiting : Waiting sys j := by
    rw [Waiting, hbacklog]
    exact Or.inl List.mem_cons_self
  have hfewer (x : ℕ) (hx : ConnId.control x ∈ rest ∨
      ServerPc.readCookie = .readStreamCookie (.control x)) :
      Waiting sys x := by
    rcases hx with hx | hx
    · exact hmem x hx
    · cases hx
  have hnobody (x : ℕ) : sys.server.ctrl ≠ some (.control x) := by
    rw [hfree.ctrl]
    exact fun heq => by cases heq
  have hnoStream : rest.filter ConnId.isStream = [] := by
    have hfilter := hfree.backlog
    rw [hbacklog] at hfilter
    exact hfilter
  refine ⟨hrest, fun x hx => (by cases hx), fun x hx => ?_, fun x hx => ?_,
    Or.inr ⟨j, 0, 0, 0, rfl, ?_, ?_, ?_⟩⟩
  · obtain ⟨hwait, -, hpc⟩ := h.lost x hx
    refine ⟨fun hin => hwait (hfewer x hin), ?_, hpc⟩
    rintro ⟨rfl⟩
    exact hwait hwaiting
  · obtain ⟨hother, hstreams⟩ := h.others x (hnobody x)
    refine ⟨hother.congr ⟨hfewer x, fun hin => ?_⟩, hstreams⟩
    rcases hin with hin | hin
    · rw [hbacklog] at hin
      rcases List.mem_cons.mp hin with heq | hin
      · exact absurd (congrArg some heq.symm) hx
      · exact Or.inl hin
    · rw [hfree.pc] at hin
      cases hin
  · exact (h.others j (hnobody j)).1.served hwaiting
  · have hnil := (h.others j (hnobody j)).2
    refine ⟨fun x k hx => (by cases hx), hnoStream, le_rfl, le_rfl, fun k => ?_, hfree.streams, ?_,
      ?_, fun hne => absurd rfl hne, fun hne => absurd rfl hne⟩
    · rw [if_neg (by omega)]
      exact hnil k
    · exact hfree.recAccepted.trans (Nat.zero_min _).symm
    · exact hfree.sendAccepted.trans (Nat.zero_sub _).symm
  · rintro (hin | hin)
    · exact hout hin
    · cases hin

/-- A connection is taken from the listener while streams are awaited; whose it is turns out
later. -/
theorem Inv.acceptStream {id : ConnId} (h : Inv u sys) (hserves : Serves u sys i a d w)
    (hpc : sys.server.pc = .select .createStreams) (hbacklog : sys.backlog = id :: rest) :
    Inv u {sys with backlog := rest, server := {sys.server with pc := .readStreamCookie id}} := by
  have hnodup := h.nodup
  rw [hbacklog] at hnodup
  obtain ⟨hout, hrest⟩ := List.nodup_cons.mp hnodup
  have hwaiting (x : ℕ) :
      (ConnId.control x ∈ rest ∨ ServerPc.readStreamCookie id = .readStreamCookie (.control x)) ↔
      Waiting sys x := by
    rw [Waiting, hbacklog, hpc, List.mem_cons, ServerPc.readStreamCookie.injEq, or_comm, eq_comm]
    simp
  have hs := hserves.streams
  have hserved := hserves.served
  obtain ⟨hcookie, hrequest⟩ := hs.informed hpc rfl
  rw [hpc] at hserved
  have hstreams := hs.backlog
  have hle := hs.le
  rw [hpc] at hstreams hle
  change a ≤ d at hle
  change _ = (List.range' a (d-a)).map (ConnId.stream i) at hstreams
  rw [hbacklog] at hstreams
  refine ⟨hrest, fun x hx => ?_, fun x hx => ?_, fun x hx => ?_,
    Or.inr ⟨i, a, d, w, hserves.ctrl, hserved.acceptStream id, ?_,
    fun hin => hserves.settled ((hwaiting i).mp hin)⟩⟩
  · rw [← ServerPc.readStreamCookie.inj hx]
    exact hout
  · obtain ⟨hwait, hctrl, hidle⟩ := h.lost x hx
    exact ⟨fun hin => hwait ((hwaiting x).mp hin), hctrl, hidle⟩
  · obtain ⟨hother, hnil⟩ := h.others x hx
    exact ⟨hother.congr (hwaiting x), hnil⟩
  · cases id with
    | control x =>
      exact ⟨fun y k hy => (by cases hy), hstreams, hle, hs.shown, hs.conn, hs.streams,
        hs.recAccepted, hs.sendAccepted, fun _ => hcookie, fun _ _ _ => hrequest⟩
    | stream x k =>
      cases hlength : d-a with
      | zero =>
        rw [hlength] at hstreams
        cases hstreams
      | succ n =>
        rw [hlength, List.range'_succ, List.map_cons] at hstreams
        obtain ⟨hhead, htail⟩ := List.cons.inj hstreams
        obtain ⟨rfl, rfl⟩ := ConnId.stream.inj hhead
        refine ⟨fun y k hy => ?_, ?_, ?_, hs.shown, hs.conn, hs.streams, hs.recAccepted,
          hs.sendAccepted, fun _ => hcookie, fun _ _ _ => hrequest⟩
        · obtain ⟨rfl, rfl⟩ := ConnId.stream.inj (ServerPc.readStreamCookie.inj hy)
          exact ⟨rfl, rfl⟩
        · have hn : d-(k+1) = n := by omega
          show rest.filter ConnId.isStream = (List.range' (k+1) (d-(k+1))).map (ConnId.stream x)
          rw [hn]
          exact htail
        · show k+1 ≤ d
          omega

/-- Whoever comes while a test runs is told so. -/
theorem Inv.acceptDenied {state : State} (h : Inv u sys) (hserves : Serves u sys i a d w)
    (hpc : sys.server.pc = .select state) (hbacklog : sys.backlog = .control j :: rest) :
    Inv u (reply {sys with backlog := rest} (.control j) (.state .accessDenied)) := by
  have hnodup := h.nodup
  rw [hbacklog] at hnodup
  obtain ⟨hout, hrest⟩ := List.nodup_cons.mp hnodup
  have hwaiting : Waiting sys j := by
    rw [Waiting, hbacklog]
    exact Or.inl List.mem_cons_self
  have hji : j ≠ i := by
    rintro rfl
    exact hserves.settled hwaiting
  have hfewer (x : ℕ) (hx : ConnId.control x ∈ rest ∨
      sys.server.pc = .readStreamCookie (.control x)) : Waiting sys x := by
    rw [Waiting, hbacklog]
    exact hx.imp_left (List.mem_cons_of_mem _)
  have hconn (id : ConnId) (hid : id ≠ .control j) :
      (reply {sys with backlog := rest} (.control j) (.state .accessDenied)).conn id =
        sys.conn id :=
    (conn_reply _ _ _ _).trans (if_neg hid)
  have hstream (x k : ℕ) := hconn (.stream x k) fun heq => by cases heq
  refine ⟨hrest, fun x hx => ?_, fun x hx => ?_, fun x hx => ⟨?_, fun k => ?_⟩,
    Or.inr ⟨i, a, d, w, hserves.ctrl, ?_, ?_, fun hin => hserves.settled (hfewer i hin)⟩⟩
  · cases hpc.symm.trans hx
  · obtain ⟨hwait, hctrl, hidle⟩ := h.lost x hx
    exact ⟨fun hin => hwait (hfewer x hin), hctrl, hidle⟩
  · have hother := (h.others x hx).1
    by_cases hxj : x = j
    · rw [hxj] at hother ⊢
      have hnot : ¬(ConnId.control j ∈ rest ∨ sys.server.pc = .readStreamCookie (.control j)) := by
        rintro (hin | hin)
        · exact hout hin
        · cases hpc.symm.trans hin
      rw [conn_reply, if_pos rfl]
      show Other u j _ (sys.client j).pc (sys.conn (.control j)).toServer
        ((sys.conn (.control j)).toClient ++ [.state .accessDenied])
      generalize (sys.client j).pc = pc at hother ⊢
      generalize (sys.conn (.control j)).toServer = toServer at hother ⊢
      generalize (sys.conn (.control j)).toClient = toClient at hother ⊢
      cases hother with
      | idle hin => exact absurd hwaiting hin
      | dialled => exact .refused hnot (Or.inl rfl) (Or.inr rfl)
      | initial => exact .refused hnot (Or.inr (Or.inl rfl)) (Or.inr rfl)
      | stopped => exact .refused hnot (Or.inr (Or.inr (Or.inl rfl))) (Or.inr rfl)
      | refused hin => exact absurd hwaiting hin
    · rw [hconn _ fun heq => hxj (ConnId.control.inj heq)]
      apply hother.congr
      refine ⟨hfewer x, fun hin => ?_⟩
      rw [Waiting, hbacklog] at hin
      refine hin.imp_left fun hin => ?_
      exact (List.mem_cons.mp hin).resolve_left fun heq => hxj (ConnId.control.inj heq)
  · rw [hstream]
    exact (h.others x hx).2 k
  · rw [hconn _ fun heq => hji.symm (ConnId.control.inj heq)]
    exact hserves.served
  · have hs := hserves.streams
    refine ⟨hs.reading, ?_, hs.le, hs.shown, fun k => by rw [hstream]; exact hs.conn k, hs.streams,
      hs.recAccepted, hs.sendAccepted, hs.cookie, hs.request⟩
    have hbefore := hs.backlog
    rw [hbacklog] at hbefore
    exact hbefore

/-- In another `select` than the one for the streams the server has all streams. -/
theorem Served.complete {state : State} {pc : ClientPc} {toServer toClient : List (Item B)}
    (h : Served u i (.select state) pc toServer toClient a d w) (hstate : state ≠ .createStreams) :
    a = (roles (u.request i)).length := by
  cases h with
  | talking _ server =>
    cases server with
    | createStreams => exact absurd rfl hstate
    | testRunning => rfl
    | displayResults => rfl
  | stopped _ _ server =>
    cases server with
    | createStreams => exact absurd rfl hstate
    | testRunning => rfl
    | displayResults => rfl

theorem Served.accepted_le {spc : ServerPc} {pc : ClientPc} {toServer toClient : List (Item B)}
    (h : Served u i spc pc toServer toClient a d w) : a ≤ (roles (u.request i)).length := by
  have hle {spc : ServerPc} {n r : ℕ} (server : ServerAt (roles (u.request i)).length spc n r a) :
      a ≤ (roles (u.request i)).length := by
    cases server <;> omega
  cases h with
  | talking _ server => exact hle server
  | stopped _ _ server => exact hle server
  | ended _ _ _ ha => exact ha
  | misread _ _ _ ha => exact ha

theorem Inv.accept (h : Inv u sys) (hstep : step u sys .accept = some sys') : Inv u sys' := by
  rw [step, IperfControl.accept] at hstep
  cases hpc : sys.server.pc with
  | select state =>
    cases hbacklog : sys.backlog with
    | nil =>
      simp only [hpc, hbacklog] at hstep
      cases hstep
    | cons id rest =>
      simp only [hpc, hbacklog] at hstep
      rcases h.server with hfree | ⟨i, a, d, w, hserves⟩
      · have hstate : state = .iperfStart := ServerPc.select.inj (hpc.symm.trans hfree.pc)
        rw [if_neg (by rw [hstate]; simp), if_pos hfree.ctrl] at hstep
        cases hstep
        have hnoStream := hfree.backlog
        rw [hbacklog] at hnoStream
        cases id with
        | control j => exact h.acceptFirst hfree hbacklog
        | stream j k => cases hnoStream
      · by_cases hstate : state = .createStreams
        · rw [if_pos hstate] at hstep
          cases hstep
          rw [hstate] at hpc
          exact h.acceptStream hserves hpc hbacklog
        · have hsome : sys.server.ctrl ≠ none := by
            rw [hserves.ctrl]
            exact Option.some_ne_none _
          rw [if_neg hstate, if_neg hsome] at hstep
          cases hstep
          cases id with
          | control j => exact h.acceptDenied hserves hpc hbacklog
          | stream j k =>
            have hserved := hserves.served
            rw [hpc] at hserved
            have hmem : ConnId.stream j k ∈ sys.backlog := by
              rw [hbacklog]
              exact List.mem_cons_self
            obtain ⟨-, hfront, hlt⟩ := mem_backlog_stream hserves.streams hmem
            rw [hpc] at hfront
            have ha : a ≤ k := hfront
            have hcomplete := hserved.complete hstate
            have hd := hserved.dialled_le
            omega
  | _ =>
    simp only [hpc] at hstep
    cases hstep

end accept

section serve

/-- Where a step of the server leads, with how many streams, and whether it has read the results of
the client. -/
inductive Goes (total : ℕ) : ServerPc → ℕ → ServerPc → ℕ → Bool → Prop where
  | cookie (a : ℕ) : Goes total .readCookie a .readParams a false
  | params (a : ℕ) : Goes total .readParams a (.select .createStreams) a false
  | noStreams (a : ℕ) : Goes total .readParams a .starting a false
  | stranger (j a : ℕ) : Goes total (.readStreamCookie (.control j)) a
      (.select .createStreams) a false
  | stream (id : ConnId) (a : ℕ) (h : a+1 < total) :
      Goes total (.readStreamCookie id) a (.select .createStreams) (a+1) false
  | lastStream (id : ConnId) (a : ℕ) (h : a+1 = total) :
      Goes total (.readStreamCookie id) a .starting (a+1) false
  | starting (a : ℕ) : Goes total .starting a (.select .testRunning) a false
  | testEnd (a : ℕ) : Goes total (.select .testRunning) a .readResults a false
  | iperfDone (state : State) (a : ℕ) : Goes total (.select state) a .done a false
  | results (a : ℕ) : Goes total .readResults a .answering a true
  | answering (a : ℕ) : Goes total .answering a (.select .displayResults) a false
  | misread (pc : ServerPc) (a : ℕ) (h : pc = .readParams ∨ pc = .readResults) :
      Goes total pc a .error a false

/-- What a step of the server leaves as it is. -/
structure Steady (sys sys' : System B) (read : Bool) (results : B) : Prop where
  client : sys'.client = sys.client
  ctrl : sys'.server.ctrl = sys.server.ctrl
  backlog : sys'.backlog = sys.backlog ∨ sys'.backlog = []
  peerResults : sys'.server.peerResults = if read then some results else sys.server.peerResults

theorem tell_same (sys : System B) (m : Item B) :
    (tell sys m).server = sys.server ∧ (tell sys m).client = sys.client ∧
    (tell sys m).backlog = sys.backlog := by
  unfold tell
  split <;> exact ⟨rfl, rfl, rfl⟩

theorem relisten_same (sys : System B) :
    (relisten sys).server = sys.server ∧ (relisten sys).client = sys.client ∧
    ((relisten sys).backlog = sys.backlog ∨ (relisten sys).backlog = []) := by
  unfold relisten
  split
  · exact ⟨rfl, rfl, Or.inr rfl⟩
  · exact ⟨rfl, rfl, Or.inl rfl⟩

/-- The server has all streams, or goes on to wait for them. -/
def streamsPc (server : Server B) : ServerPc :=
  if server.recAccepted = streamsToRec server.request ∧
    server.sendAccepted = streamsToSend server.request then .starting
  else .select .createStreams

structure Settles (sys sys' : System B) : Prop where
  client : sys'.client = sys.client
  backlog : sys'.backlog = sys.backlog ∨ sys'.backlog = []
  server : sys'.server = {sys.server with pc := streamsPc sys.server}

theorem settles_checkStreams (sys : System B) : Settles sys (checkStreams sys) := by
  unfold checkStreams
  obtain ⟨hserver, hclient, hbacklog⟩ := relisten_same sys
  obtain ⟨hserver', hclient', hbacklog'⟩ := tell_same (relisten sys) (.state .testStart)
  split_ifs with hall
  · refine ⟨hclient'.trans hclient, ?_, ?_⟩
    · rw [← hbacklog'] at hbacklog
      exact hbacklog
    · rw [streamsPc, if_pos hall, setServerPc, setServer]
      dsimp only
      rw [hserver', hserver]
  · refine ⟨rfl, Or.inl rfl, ?_⟩
    rw [streamsPc, if_neg hall]
    rfl

theorem settles_serverParams (sys : System B) (request : Request) :
    Settles {sys with server := {sys.server with request := request}}
      (serverParams sys (.params request)) := by
  show Settles {sys with server := {sys.server with request := request}}
    (checkStreams (tell (relisten {sys with server := {sys.server with request := request}})
      (.state .createStreams)))
  generalize {sys with server := {sys.server with request := request}} = sys
  obtain ⟨hserver, hclient, hbacklog⟩ := relisten_same sys
  obtain ⟨hserver', hclient', hbacklog'⟩ := tell_same (relisten sys) (.state .createStreams)
  have hs := settles_checkStreams (tell (relisten sys) (.state .createStreams))
  refine ⟨hs.client.trans (hclient'.trans hclient), ?_, ?_⟩
  · rcases hs.backlog with hsame | hnil
    · rw [hsame, hbacklog']
      exact hbacklog
    · exact Or.inr hnil
  · rw [hs.server, hserver', hserver]

theorem goes_params (hserves : Serves u sys i a d w) (hpc : sys.server.pc = .readParams)
    (hstep : readControl sys serverParams = some sys') :
    ∃ read, Goes (roles (u.request i)).length sys.server.pc sys.server.streams.length sys'.server.pc
      sys'.server.streams.length read ∧ Steady sys sys' read (u.results i) := by
  obtain ⟨m, rest, htoServer, rfl⟩ := readControl_eq_some hserves.ctrl hstep
  have hserved := hserves.served
  rw [hpc, htoServer] at hserved
  obtain ⟨-, -, -, hnext⟩ := hserved.readParams
  rcases hnext with ⟨rfl, -, -⟩ | ⟨rfl, -⟩
  · have hs := settles_serverParams (setToServer sys (.control i) rest) (u.request i)
    have hserver := hs.server
    generalize serverParams (setToServer sys (.control i) rest) (.params (u.request i)) =
      sys' at hs hserver ⊢
    refine ⟨false, ?_, hs.client, ?_, hs.backlog, ?_⟩
    · rw [hpc, hserver, streamsPc]
      dsimp only
      split_ifs
      · exact .noStreams _
      · exact .params _
    · rw [hserver]
      rfl
    · rw [hserver]
      rfl
  · rw [hpc]
    exact ⟨false, .misread _ _ (Or.inl rfl), rfl, rfl, Or.inl rfl, rfl⟩

/-- How many streams there are when the server has them all. -/
theorem streamsPc_eq {server : Server B} (hrequest : server.request = u.request i)
    (hrec : server.recAccepted = min a (streamsToRec (u.request i)))
    (hsend : server.sendAccepted = a-streamsToRec (u.request i))
    (ha : a ≤ (roles (u.request i)).length) :
    streamsPc server = if a = (roles (u.request i)).length then .starting
      else .select .createStreams := by
  have hlength := length_roles (u.request i)
  unfold streamsPc
  rw [hrequest, hrec, hsend]
  congr 1
  rw [eq_iff_iff]
  omega

theorem goes_stream (hinjective : Function.Injective u.cookie) (h : Inv u sys)
    (hserves : Serves u sys i a d w) (id : ConnId)
    (hpc : sys.server.pc = .readStreamCookie id)
    (hstep : readFrom sys id (serverStreamCookie · id) = some sys') :
    ∃ read, Goes (roles (u.request i)).length sys.server.pc sys.server.streams.length sys'.server.pc
      sys'.server.streams.length read ∧ Steady sys sys' read (u.results i) := by
  have hs := hserves.streams
  have hserved := hserves.served
  rw [hpc] at hserved
  obtain ⟨ha, -, -, -⟩ := hserved.readStreamCookie
  obtain ⟨hcookie, hrequest⟩ := hs.informed hpc rfl
  have hlength : sys.server.streams.length = a := by
    rw [hs.streams, List.length_map, List.length_range]
  cases id with
  | stream x k =>
    obtain ⟨rfl, rfl⟩ := hs.reading x k hpc
    have hconn := hs.conn k
    split_ifs at hconn
    · simp only [readFrom, hconn, serverStreamCookie] at hstep
      have hsame : (setToServer sys (.stream x k) []).server = sys.server := rfl
      rw [hsame, if_pos hcookie.symm] at hstep
      cases hstep
      have hadd := addStream_spec hs hrequest ha
      have hgo : streamsPc (addStream sys.server (.stream x k)) =
          if k+1 = (roles (u.request x)).length then .starting else .select .createStreams := by
        rw [hadd]
        exact streamsPc_eq hrequest rfl rfl ha
      have hnext := settles_checkStreams (setServer (setToServer sys (.stream x k) [])
        (addStream sys.server (.stream x k)))
      have hserver : (checkStreams (setServer (setToServer sys (.stream x k) [])
          (addStream sys.server (.stream x k)))).server =
          {addStream sys.server (.stream x k) with
            pc := streamsPc (addStream sys.server (.stream x k))} := hnext.server
      generalize checkStreams _ = sys' at hnext hserver ⊢
      rw [hgo, hadd] at hserver
      have hlength' : sys'.server.streams.length = k+1 := by
        rw [hserver, List.length_map, List.length_range]
      refine ⟨false, ?_, hnext.client, ?_, hnext.backlog, ?_⟩
      · rw [hpc, hlength, hlength', hserver]
        dsimp only
        split_ifs with hlast
        · exact .lastStream _ _ hlast
        · exact .stream _ _ (by omega)
      · rw [hserver]
      · rw [hserver]
        rfl
    · simp only [readFrom, hconn] at hstep
      cases hstep
  | control j =>
    obtain ⟨-, -, rest, rfl⟩ := stranger_eq hinjective h hserves hpc hstep
    rw [hpc]
    exact ⟨false, .stranger j _, rfl, rfl, Or.inl rfl, rfl⟩

/-- Where the server goes from the client that it serves. -/
theorem serve_goes (hinjective : Function.Injective u.cookie) (h : Inv u sys)
    (hserves : Serves u sys i a d w) (hstep : step u sys .serve = some sys') :
    ∃ read, Goes (roles (u.request i)).length sys.server.pc sys.server.streams.length sys'.server.pc
      sys'.server.streams.length read ∧ Steady sys sys' read (u.results i) := by
  rw [step, IperfControl.serve] at hstep
  have hserved := hserves.served
  cases hpc : sys.server.pc with
  | select state =>
    simp only [hpc] at hstep
    obtain ⟨m, rest, htoServer, rfl⟩ := readControl_eq_some hserves.ctrl hstep
    rw [hpc, htoServer] at hserved
    rcases hserved.select with ⟨rfl, rfl, -⟩ | ⟨rfl, -⟩
    · rw [handleMessageServer, setServerPc_tell hserves.ctrl]
      exact ⟨false, .testEnd _, rfl, rfl, Or.inl rfl, rfl⟩
    · exact ⟨false, .iperfDone _ _, rfl, rfl, Or.inl rfl, rfl⟩
  | readCookie =>
    simp only [hpc] at hstep
    obtain ⟨m, rest, htoServer, rfl⟩ := readControl_eq_some hserves.ctrl hstep
    rw [hpc, htoServer] at hserved
    obtain ⟨rfl, -, -⟩ := hserved.readCookie
    rw [serverCookie_eq hserves.ctrl]
    exact ⟨false, .cookie _, rfl, rfl, Or.inl rfl, rfl⟩
  | readParams =>
    simp only [hpc] at hstep
    rw [← hpc]
    exact goes_params hserves hpc hstep
  | readStreamCookie id =>
    simp only [hpc] at hstep
    rw [← hpc]
    exact goes_stream hinjective h hserves id hpc hstep
  | starting =>
    simp only [hpc] at hstep
    cases hstep
    rw [setServerPc_write hserves.ctrl]
    exact ⟨false, .starting _, rfl, rfl, Or.inl rfl, rfl⟩
  | readResults =>
    simp only [hpc] at hstep
    obtain ⟨m, rest, htoServer, rfl⟩ := readControl_eq_some hserves.ctrl hstep
    rw [hpc, htoServer] at hserved
    rcases hserved.readResults with ⟨rfl, -⟩ | ⟨rfl, -⟩
    · rw [serverResults_eq hserves.ctrl]
      exact ⟨true, .results _, rfl, rfl, Or.inl rfl, rfl⟩
    · exact ⟨false, .misread _ _ (Or.inr rfl), rfl, rfl, Or.inl rfl, rfl⟩
  | answering =>
    simp only [hpc] at hstep
    cases hstep
    rw [setServerPc_write hserves.ctrl]
    exact ⟨false, .answering _, rfl, rfl, Or.inl rfl, rfl⟩
  | done =>
    simp only [hpc] at hstep
    cases hstep
  | error =>
    simp only [hpc] at hstep
    cases hstep

end serve

section client

/-- What a client that is served hears next in `select`, and where it goes on. -/
inductive Hears (total : ℕ) : State → ClientPc → Prop where
  | paramExchange : Hears total .initial (.select .paramExchange)
  | create (h : 0 < total) : Hears total .paramExchange (.create 0)
  | noStreams : Hears total .paramExchange (.select .createStreams)
  | testStart : Hears total .createStreams (.select .testStart)
  | testRunning : Hears total .testStart (.select .testRunning)
  | exchangeResults : Hears total .testEnd .readResults
  | displayResults : Hears total .exchangeResults .done

theorem Served.hears {state : State} {spc : ServerPc} {toServer toClient : List (Item B)}
    {m : Item B} (h : Served u i spc (.select state) toServer (m :: toClient) a d w) :
    Hears (roles (u.request i)).length state (clientHandles u i m).1 := by
  generalize htold : m :: toClient = told at h
  cases h with
  | talking client server hr hrs =>
    obtain ⟨hm, -, hlt⟩ := window_eq_cons htold.symm
    cases client with
    | initial =>
      cases hm
      exact .paramExchange
    | paramExchange =>
      cases hm
      rw [clientHandles, createFrom]
      split_ifs with hsome
      · exact .create hsome
      · exact .noStreams
    | createStreams =>
      cases hm
      exact .testStart
    | testStart =>
      cases hm
      exact .testRunning
    | testRunning => cases server <;> omega
    | testEnd =>
      cases hm
      exact .exchangeResults
    | exchangeResults =>
      cases hm
      exact .displayResults

end client

end IperfControl

end MmWaveTracker
