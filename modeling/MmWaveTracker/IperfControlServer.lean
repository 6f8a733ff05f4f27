import MmWaveTracker.IperfControlRuns

/-! The steps of the server with the client that it serves. -/
namespace MmWaveTracker

namespace IperfControl

open ScriptQueue

variable {B : Type} {u : Setup B} {sys sys' : System B} {i a d w : ℕ}

section serve

/-- Where the server has the parameters of its client. -/
def ServerPc.informed : ServerPc → Bool
  | .readCookie => false
  | .readParams => false
  | .error => false
  | _ => true

theorem Streams.informed {pc : ServerPc} (hs : Streams u i sys a d w) (hpc : sys.server.pc = pc)
    (hinformed : pc.informed = true) :
    sys.server.cookie = u.cookie i ∧ sys.server.request = u.request i := by
  have hne (before : ServerPc) (hbefore : before.informed = false) : sys.server.pc ≠ before := by
    rw [hpc]
    rintro rfl
    rw [hinformed] at hbefore
    cases hbefore
  exact ⟨hs.cookie (hne _ rfl), hs.request (hne _ rfl) (hne _ rfl) (hne _ rfl)⟩

theorem tell_eq {id : ConnId} (hctrl : sys.server.ctrl = some id) (m : Item B) :
    tell sys m = reply sys id m := by
  rw [tell, hctrl]

/-- A step of the server that only concerns the client `i`; connections at the listener may be
lost. -/
theorem Inv.ofServer {b : ℕ} (h : Inv u sys) (hserves : Serves u sys i a d w)
    (hclient : sys'.client = sys.client) (hctrl : sys'.server.ctrl = some (.control i))
    (hconn : ∀ j, j ≠ i → sys'.conn (.control j) = sys.conn (.control j) ∧
      ∀ k, sys'.conn (.stream j k) = sys.conn (.stream j k))
    (hlisten : (sys'.backlog = sys.backlog ∧ sys'.lost = sys.lost) ∨
      (sys'.backlog = [] ∧ ∀ id ∈ sys'.lost, id ∈ sys.backlog ∨ id ∈ sys.lost))
    (hpc : ∀ j, sys.server.pc ≠ .readStreamCookie (.control j))
    (hpc' : ∀ j, sys'.server.pc ≠ .readStreamCookie (.control j))
    (hserved : Served u i sys'.server.pc (sys.client i).pc (sys'.conn (.control i)).toServer
      (sys'.conn (.control i)).toClient b d w)
    (hstreams : Streams u i sys' b d w) : Inv u sys' := by
  have hwaiting (j : ℕ) : Waiting sys' j → Waiting sys j := by
    rintro (hmem | hread)
    · rcases hlisten with ⟨hsame, -⟩ | ⟨hnil, -⟩
      · rw [hsame] at hmem
        exact Or.inl hmem
      · rw [hnil] at hmem
        cases hmem
    · exact absurd hread (hpc' j)
  have hidle (j : ℕ) (hj : sys.server.ctrl ≠ some (.control j)) (hwait : Waiting sys j) :
      (sys.client j).pc ≠ .idle := by
    have hother := (h.others j hj).1
    generalize (sys.conn (.control j)).toServer = toServer at hother
    generalize (sys.conn (.control j)).toClient = toClient at hother
    intro hidle
    rw [hidle] at hother
    cases hother with
    | idle hnot => exact hnot hwait
    | refused hnot => exact hnot hwait
  have hne (j : ℕ) : sys'.server.ctrl ≠ some (.control j) ↔
      sys.server.ctrl ≠ some (.control j) := by
    rw [hctrl, hserves.ctrl]
  refine ⟨?_, fun j hread => absurd hread (hpc' j), fun j hj => ?_, fun j hj => ?_,
    Or.inr ⟨i, b, d, w, hctrl, ?_, hstreams, fun hin => hserves.settled (hwaiting i hin)⟩⟩
  · rcases hlisten with ⟨hsame, -⟩ | ⟨hnil, -⟩
    · rw [hsame]
      exact h.nodup
    · rw [hnil]
      exact List.nodup_nil
  · rw [hclient]
    have hlost : ConnId.control j ∈ sys.lost ∨
        (sys'.backlog = [] ∧ ConnId.control j ∈ sys.backlog) := by
      rcases hlisten with ⟨-, hsame⟩ | ⟨hnil, hsub⟩
      · rw [hsame] at hj
        exact Or.inl hj
      · exact (hsub _ hj).symm.imp_right fun hmem => ⟨hnil, hmem⟩
    rcases hlost with hold | ⟨hnil, hmem⟩
    · obtain ⟨hwait, hctrlj, hpcj⟩ := h.lost j hold
      exact ⟨fun hin => hwait (hwaiting j hin), (hne j).mpr hctrlj, hpcj⟩
    · have hctrlj : sys.server.ctrl ≠ some (.control j) := by
        rw [hserves.ctrl]
        rintro ⟨rfl⟩
        exact hserves.settled (Or.inl hmem)
      refine ⟨?_, (hne j).mpr hctrlj, hidle j hctrlj (Or.inl hmem)⟩
      rintro (hin | hread)
      · rw [hnil] at hin
        cases hin
      · exact hpc' j hread
  · have hctrlj := (hne j).mp hj
    obtain ⟨hold, hstreamsj⟩ := h.others j hctrlj
    have hji : j ≠ i := by
      rintro rfl
      exact hctrlj hserves.ctrl
    obtain ⟨hcontrol, hstream⟩ := hconn j hji
    refine ⟨?_, fun k => by rw [hstream]; exact hstreamsj k⟩
    rw [hclient, hcontrol]
    by_cases hwait : Waiting sys' j
    · exact hold.congr ⟨hwaiting j, fun _ => hwait⟩
    · by_cases hbefore : Waiting sys j
      · exact hold.refuse (hidle j hctrlj hbefore) hwait
      · exact hold.congr ⟨hwaiting j, fun hin => absurd hin hbefore⟩
  · rw [hclient]
    exact hserved

/-- The streams are not concerned when the server is not about to accept any, before or after. -/
theorem Streams.keep (h : Streams u i sys a d w) (hpc : front sys.server.pc a = a)
    (hpc' : front sys'.server.pc a = a)
    (hreading : ∀ j k, sys'.server.pc ≠ .readStreamCookie (.stream j k))
    (hbacklog : sys'.backlog.filter ConnId.isStream = sys.backlog.filter ConnId.isStream)
    (hconn : ∀ k, sys'.conn (.stream i k) = sys.conn (.stream i k))
    (hstreams : sys'.server.streams = sys.server.streams)
    (hrec : sys'.server.recAccepted = sys.server.recAccepted)
    (hsend : sys'.server.sendAccepted = sys.server.sendAccepted)
    (hcookie : sys'.server.pc ≠ .readCookie → sys'.server.cookie = u.cookie i)
    (hrequest : sys'.server.pc ≠ .readCookie → sys'.server.pc ≠ .readParams →
      sys'.server.pc ≠ .error → sys'.server.request = u.request i) : Streams u i sys' a d w where
  reading j k hread := absurd hread (hreading j k)
  backlog := by rw [hbacklog, h.backlog, hpc, hpc']
  le := by
    have hle := h.le
    omega
  shown := h.shown
  conn k := by rw [hconn, h.conn]
  streams := hstreams.trans h.streams
  recAccepted := hrec.trans h.recAccepted
  sendAccepted := hsend.trans h.sendAccepted
  cookie := hcookie
  request := hrequest

/-- What most steps of the server come to: it reads an item or not, writes one or not, and goes
on. -/
theorem Inv.ofTalk (h : Inv u sys) (hserves : Serves u sys i a d w) (server : Server B)
    (conn : Conn B) (hctrl : server.ctrl = some (.control i)) (hpc : front sys.server.pc a = a)
    (hpc' : front server.pc a = a)
    (hreading : ∀ id, sys.server.pc ≠ .readStreamCookie id)
    (hreading' : ∀ id, server.pc ≠ .readStreamCookie id)
    (hstreams : server.streams = sys.server.streams)
    (hrec : server.recAccepted = sys.server.recAccepted)
    (hsend : server.sendAccepted = sys.server.sendAccepted)
    (hcookie : server.pc ≠ .readCookie → server.cookie = u.cookie i)
    (hrequest : server.pc ≠ .readCookie → server.pc ≠ .readParams → server.pc ≠ .error →
      server.request = u.request i)
    (hserved : Served u i server.pc (sys.client i).pc conn.toServer conn.toClient a d w) :
    Inv u {sys with server := server, conn := Function.update sys.conn (.control i) conn} := by
  have hcontrol (j : ℕ) (hj : j ≠ i) : Function.update sys.conn (.control i) conn (.control j) =
      sys.conn (.control j) :=
    Function.update_of_ne (fun heq => hj (ConnId.control.inj heq)) _ _
  have hstream (j k : ℕ) : Function.update sys.conn (.control i) conn (.stream j k) =
      sys.conn (.stream j k) :=
    Function.update_of_ne (fun heq => by cases heq) _ _
  refine h.ofServer (b := a) hserves rfl hctrl (fun j hj => ⟨hcontrol j hj, hstream j⟩)
    (Or.inl ⟨rfl, rfl⟩) (fun j => hreading _)
    (fun j => hreading' _) ?_ ?_
  · show Served u i server.pc (sys.client i).pc (Function.update sys.conn (.control i) conn
      (.control i)).toServer (Function.update sys.conn (.control i) conn (.control i)).toClient a d
        w
    rw [Function.update_self]
    exact hserved
  · exact hserves.streams.keep hpc hpc' (fun j k => hreading' _) rfl (fun k => hstream i k)
      hstreams hrec hsend hcookie hrequest

/-- What the server comes to when it has read an item and goes on without an answer. -/
theorem setServerPc_read (rest : List (Item B)) (pc : ServerPc) :
    setServerPc (setToServer sys (.control i) rest) pc =
    {sys with
      server := {sys.server with pc := pc}
      conn := Function.update sys.conn (.control i) ⟨rest, (sys.conn (.control i)).toClient⟩} := rfl

/-- What it comes to with an answer. -/
theorem setServerPc_tell (hctrl : sys.server.ctrl = some (.control i)) (rest : List (Item B))
    (m : Item B) (pc : ServerPc) : setServerPc (tell (setToServer sys (.control i) rest) m) pc =
      {sys with
        server := {sys.server with pc := pc}
        conn := Function.update sys.conn (.control i)
          ⟨rest, (sys.conn (.control i)).toClient ++ [m]⟩} := by
  have hctrl' : (setToServer sys (.control i) rest).server.ctrl = some (.control i) := hctrl
  rw [tell_eq hctrl']
  simp [setServerPc, setServer, reply, setToServer]

/-- The server only writes. -/
theorem setServerPc_write (hctrl : sys.server.ctrl = some (.control i)) (m : Item B)
    (pc : ServerPc) : setServerPc (tell sys m) pc =
      {sys with
        server := {sys.server with pc := pc}
        conn := Function.update sys.conn (.control i)
          ⟨(sys.conn (.control i)).toServer, (sys.conn (.control i)).toClient ++ [m]⟩} := by
  rw [tell_eq hctrl]
  rfl

theorem serverCookie_eq (hctrl : sys.server.ctrl = some (.control i)) (rest : List (Item B))
    (c : ℕ) : serverCookie (setToServer sys (.control i) rest) (.cookie c) =
      {sys with
        server := {sys.server with pc := .readParams, cookie := c}
        conn := Function.update sys.conn (.control i)
          ⟨rest, (sys.conn (.control i)).toClient ++ [.state .paramExchange]⟩} := by
  simp [serverCookie, tell, hctrl, setServerPc, setServer, reply, setToServer]

theorem serverResults_eq (hctrl : sys.server.ctrl = some (.control i)) (rest : List (Item B))
    (b : B) : serverResults u (setToServer sys (.control i) rest) (.results b) =
      {sys with
        server := {sys.server with pc := .answering, peerResults := some b}
        conn := Function.update sys.conn (.control i)
          ⟨rest, (sys.conn (.control i)).toClient ++ [.results (u.answer b)]⟩} := by
  simp [serverResults, tell, hctrl, setServerPc, setServer, reply, setToServer]

/-- The control connection is read. -/
theorem readControl_eq_some {f : System B → Item B → System B}
    (hctrl : sys.server.ctrl = some (.control i))
    (h : readControl sys f = some sys') :
    ∃ m rest, (sys.conn (.control i)).toServer = m :: rest ∧
      sys' = f (setToServer sys (.control i) rest) m := by
  simp only [readControl, hctrl, readFrom] at h
  cases htoServer : (sys.conn (.control i)).toServer with
  | nil =>
    simp only [htoServer] at h
    cases h
  | cons m rest =>
    simp only [htoServer] at h
    cases h
    exact ⟨m, rest, rfl, rfl⟩

/-- The server goes on with the same request and the same streams. -/
theorem Inv.goOn {before : ServerPc} (h : Inv u sys) (hserves : Serves u sys i a d w)
    (hbefore : sys.server.pc = before) (hinformed : before.informed = true) (pc : ServerPc)
    (conn : Conn B) (hnot : ∀ id, before ≠ .readStreamCookie id)
    (hnot' : ∀ id, pc ≠ .readStreamCookie id)
    (hserved : Served u i pc (sys.client i).pc conn.toServer conn.toClient a d w) :
    Inv u {sys with
      server := {sys.server with pc := pc}
      conn := Function.update sys.conn (.control i) conn} := by
  have hfront (spc : ServerPc) (hspc : ∀ id, spc ≠ .readStreamCookie id) : front spc a = a := by
    unfold front
    split
    · exact absurd rfl (hspc _)
    · rfl
  rw [← hbefore] at hnot
  obtain ⟨hcookie, hrequest⟩ := hserves.streams.informed hbefore hinformed
  exact h.ofTalk hserves {sys.server with pc := pc} conn hserves.ctrl (hfront _ hnot)
    (hfront _ hnot') hnot hnot' rfl rfl rfl
    (fun _ => hcookie) (fun _ _ _ => hrequest) hserved

theorem Inv.serveSelect {state : State} (h : Inv u sys) (hserves : Serves u sys i a d w)
      (hpc : sys.server.pc = .select state)
    (hstep : readControl sys handleMessageServer = some sys') : Inv u sys' := by
  obtain ⟨m, rest, htoServer, rfl⟩ := readControl_eq_some hserves.ctrl hstep
  have hserved := hserves.served
  rw [hpc, htoServer] at hserved
  rcases hserved.select with ⟨rfl, -, hnext⟩ | ⟨rfl, hnext⟩
  · rw [handleMessageServer, setServerPc_tell hserves.ctrl]
    exact h.goOn hserves hpc rfl .readResults _ (by simp) (by simp) hnext
  · rw [handleMessageServer, setServerPc_read]
    exact h.goOn hserves hpc rfl .done _ (by simp) (by simp) hnext

theorem Inv.serveResults (h : Inv u sys) (hserves : Serves u sys i a d w)
      (hpc : sys.server.pc = .readResults)
    (hstep : readControl sys (serverResults u) = some sys') : Inv u sys' := by
  obtain ⟨m, rest, htoServer, rfl⟩ := readControl_eq_some hserves.ctrl hstep
  have hserved := hserves.served
  rw [hpc, htoServer] at hserved
  rcases hserved.readResults with ⟨rfl, hnext⟩ | ⟨rfl, hnext⟩
  · have hs := hserves.streams
    obtain ⟨hcookie, hrequest⟩ := hs.informed hpc rfl
    rw [serverResults_eq hserves.ctrl]
    exact h.ofTalk hserves _ _ hserves.ctrl (by rw [hpc]; rfl) rfl (by rw [hpc]; simp)
      (by simp) rfl rfl rfl (fun _ => hcookie) (fun _ _ _ => hrequest) hnext
  · rw [serverResults, setServerPc_read]
    · exact h.goOn hserves hpc rfl .error _ (by simp) (by simp) hnext
    · exact fun b heq => by cases heq

theorem Inv.serveCookie (h : Inv u sys) (hserves : Serves u sys i a d w)
    (hpc : sys.server.pc = .readCookie) (hstep : readControl sys serverCookie = some sys') :
    Inv u sys' := by
  obtain ⟨m, rest, htoServer, rfl⟩ := readControl_eq_some hserves.ctrl hstep
  have hserved := hserves.served
  rw [hpc, htoServer] at hserved
  obtain ⟨rfl, rfl, hnext⟩ := hserved.readCookie
  rw [serverCookie_eq hserves.ctrl]
  exact h.ofTalk hserves _ _ hserves.ctrl (by rw [hpc]; rfl) rfl (by rw [hpc]; simp)
    (by simp) rfl rfl rfl (fun _ => rfl) (fun _ hparams => absurd rfl hparams) hnext

/-- What becomes of the connections at the listener when the server may listen anew. -/
theorem listen_cases (again : Bool) (backlog lost : List ConnId) :
    ((if again then [] else backlog) = backlog ∧ (if again then backlog ++ lost else lost) = lost) ∨
      ((if again then [] else backlog) = [] ∧ ∀ id ∈ (if again then backlog ++ lost else lost),
        id ∈ backlog ∨ id ∈ lost) := by
  cases again
  · exact Or.inl ⟨rfl, rfl⟩
  · exact Or.inr ⟨rfl, fun id => List.mem_append.mp⟩

/-- The server has the parameters; none of the streams is dialled yet. -/
theorem Inv.ofParams (h : Inv u sys) (hserves : Serves u sys i 0 0 0)
    (hpc : sys.server.pc = .readParams) (pc : ServerPc)
    (conn : Conn B) (backlog lost : List ConnId)
    (hpc' : pc = .starting ∨ pc = .select .createStreams)
    (hlisten : (backlog = sys.backlog ∧ lost = sys.lost) ∨
      (backlog = [] ∧ ∀ id ∈ lost, id ∈ sys.backlog ∨ id ∈ sys.lost))
    (hserved : Served u i pc (sys.client i).pc conn.toServer conn.toClient 0 0 0) :
    Inv u {sys with
      server := {sys.server with request := u.request i, pc := pc}
      conn := Function.update sys.conn (.control i) conn
      backlog := backlog
      lost := lost} := by
  have hs := hserves.streams
  have hnoStream : sys.backlog.filter ConnId.isStream = [] := by
    rw [hs.backlog, hpc]
    rfl
  have hcontrol (j : ℕ) (hj : j ≠ i) : Function.update sys.conn (.control i) conn (.control j) =
      sys.conn (.control j) :=
    Function.update_of_ne (fun heq => hj (ConnId.control.inj heq)) _ _
  have hstream (j k : ℕ) : Function.update sys.conn (.control i) conn (.stream j k) =
      sys.conn (.stream j k) :=
    Function.update_of_ne (fun heq => by cases heq) _ _
  have hnot (id : ConnId) : pc ≠ .readStreamCookie id := by
    rcases hpc' with rfl | rfl <;> exact fun heq => by cases heq
  refine h.ofServer (b := 0) hserves rfl hserves.ctrl
    (fun j hj => ⟨hcontrol j hj, hstream j⟩) hlisten (fun j => by rw [hpc]; simp)
    (fun j => hnot _) ?_ ?_
  · show Served u i pc (sys.client i).pc (Function.update sys.conn (.control i) conn
      (.control i)).toServer (Function.update sys.conn (.control i) conn (.control i)).toClient 0 0
        0
    rw [Function.update_self]
    exact hserved
  · refine hs.keep (by rw [hpc]; rfl) ?_ (fun j k => hnot _) ?_ (fun k => hstream i k) rfl rfl rfl
      (fun _ => hs.cookie (by rw [hpc]; simp)) fun _ _ _ => rfl
    · rcases hpc' with rfl | rfl <;> rfl
    · rcases hlisten with ⟨rfl, -⟩ | ⟨rfl, -⟩
      · rfl
      · exact hnoStream.symm

theorem Inv.serveParams (h : Inv u sys) (hserves : Serves u sys i a d w)
    (hpc : sys.server.pc = .readParams) (hstep : readControl sys serverParams = some sys') :
    Inv u sys' := by
  obtain ⟨m, rest, htoServer, rfl⟩ := readControl_eq_some hserves.ctrl hstep
  have hserved := hserves.served
  rw [hpc, htoServer] at hserved
  obtain ⟨rfl, rfl, rfl, hnext⟩ := hserved.readParams
  rcases hnext with ⟨rfl, hnone, hsome⟩ | ⟨rfl, hnext⟩
  · have hs := hserves.streams
    have hrec : sys.server.recAccepted = 0 := hs.recAccepted.trans (Nat.zero_min _)
    have hsend : sys.server.sendAccepted = 0 := hs.sendAccepted.trans (Nat.zero_sub _)
    have hlength := length_roles (u.request i)
    by_cases htotal : (roles (u.request i)).length = 0
    · have hnoRec : streamsToRec (u.request i) = 0 := by omega
      have hnoSend : streamsToSend (u.request i) = 0 := by omega
      have hsys : serverParams (setToServer sys (.control i) rest) (.params (u.request i)) =
          {sys with
            server := {sys.server with request := u.request i, pc := .starting}
            conn := Function.update sys.conn (.control i)
              ⟨rest, (sys.conn (.control i)).toClient ++ [.state .createStreams] ++
                [.state .testStart]⟩
            backlog := if (u.request i).relisten then [] else sys.backlog
            lost := if (u.request i).relisten then sys.backlog ++ sys.lost else sys.lost} := by
        cases hagain : (u.request i).relisten <;>
          simp [IperfControl.serverParams, checkStreams, tell, relisten, hserves.ctrl, setServerPc,
            setServer, reply, setToServer, hagain, hrec, hsend, hnoRec, hnoSend]
      rw [hsys]
      exact h.ofParams hserves hpc .starting _ _ _ (Or.inl rfl) (listen_cases _ _ _) (hnone htotal)
    · have hmissing : ¬(0 = streamsToRec (u.request i) ∧ 0 = streamsToSend (u.request i)) := by
        omega
      have hsys : serverParams (setToServer sys (.control i) rest) (.params (u.request i)) =
          {sys with
            server := {sys.server with request := u.request i, pc := .select .createStreams}
            conn := Function.update sys.conn (.control i)
              ⟨rest, (sys.conn (.control i)).toClient ++ [.state .createStreams]⟩
            backlog := if (u.request i).relisten then [] else sys.backlog
            lost := if (u.request i).relisten then sys.backlog ++ sys.lost else sys.lost} := by
        cases hagain : (u.request i).relisten <;>
          simp [IperfControl.serverParams, checkStreams, tell, relisten, hserves.ctrl, setServerPc,
            setServer, reply, setToServer, hagain, hrec, hsend, hmissing]
      rw [hsys]
      exact h.ofParams hserves hpc _ _ _ _ (Or.inr rfl) (listen_cases _ _ _)
        (hsome (Nat.pos_of_ne_zero htotal))
  · rw [IperfControl.serverParams, setServerPc_read]
    · have hcookie := hserves.streams.cookie (by rw [hpc]; simp)
      exact h.ofTalk hserves {sys.server with pc := .error} _ hserves.ctrl (by rw [hpc]; rfl) rfl
        (by rw [hpc]; simp) (by simp) rfl rfl rfl (fun _ => hcookie)
          (fun _ _ herror => absurd rfl herror) hnext
    · exact fun b heq => by cases heq

theorem Served.dialled_le {spc : ServerPc} {pc : ClientPc} {toServer toClient : List (Item B)}
    (h : Served u i spc pc toServer toClient a d w) : d ≤ (roles (u.request i)).length := by
  have hle {pc : ClientPc} {n r : ℕ} (client : ClientAt (roles (u.request i)).length pc n r d w) :
      d ≤ (roles (u.request i)).length := by
    cases client <;> omega
  cases h with
  | talking client => exact hle client
  | stopped client => exact hle client
  | ended client => exact hle client
  | misread client => exact hle client

/-- The next stream is taken to receive what the client sends on it, or to send. -/
theorem addStream_spec (hs : Streams u i sys a d w) (hrequest : sys.server.request = u.request i)
    (ha : a < (roles (u.request i)).length) :
    addStream sys.server (.stream i a) =
      {sys.server with
        streams := (List.range (a+1)).map fun k =>
          (.stream i k, !(roles (u.request i)).getD k false)
        recAccepted := min (a+1) (streamsToRec (u.request i))
        sendAccepted := a+1-streamsToRec (u.request i)} := by
  have hstreams :
      (List.range (a+1)).map (fun k => (ConnId.stream i k, !(roles (u.request i)).getD k false)) =
      sys.server.streams ++ [(.stream i a, !decide (a < streamsToRec (u.request i)))] := by
    rw [List.range_succ, List.map_append, hs.streams, List.map_singleton, getD_roles _ _ ha]
  have hlength := length_roles (u.request i)
  have hrec := hs.recAccepted
  have hsend := hs.sendAccepted
  rw [hstreams]
  unfold addStream
  rw [hrequest, hrec, hsend]
  by_cases hlt : a < streamsToRec (u.request i)
  · have hmin : min (a+1) (streamsToRec (u.request i)) = min a (streamsToRec (u.request i))+1 := by
      omega
    have hzero : a+1-streamsToRec (u.request i) = sys.server.sendAccepted := by omega
    rw [if_pos (by omega), hmin, hzero]
    simpa [hlt] using And.intro hrequest.symm hsend.symm
  · have hmin : min (a+1) (streamsToRec (u.request i)) = sys.server.recAccepted := by omega
    have hsucc : a+1-streamsToRec (u.request i) = a-streamsToRec (u.request i)+1 := by omega
    rw [if_neg (by omega), if_pos (by omega), hmin, hsucc]
    simpa [hlt] using And.intro hrequest.symm hrec.symm

/-- A connection has shown the cookie of the client. -/
theorem Inv.ofStream (h : Inv u sys) (hserves : Serves u sys i a d w)
    (hpc : sys.server.pc = .readStreamCookie (.stream i a))
    (haw : a < w) (server : Server B) (pc : ServerPc) (toClient : List (Item B))
    (backlog lost : List ConnId)
    (hserver : server = {addStream sys.server (.stream i a) with pc := pc})
    (hpc' : pc = .starting ∨ pc = .select .createStreams)
    (hlast : d ≤ a+1 ∨ backlog = sys.backlog)
    (hlisten : (backlog = sys.backlog ∧ lost = sys.lost) ∨
      (backlog = [] ∧ ∀ id ∈ lost, id ∈ sys.backlog ∨ id ∈ sys.lost))
    (hserved : Served u i pc (sys.client i).pc (sys.conn (.control i)).toServer toClient
      (a+1) d w) :
    Inv u {sys with
      server := server
      conn := Function.update (Function.update sys.conn (.stream i a) ⟨[],
        (sys.conn (.stream i a)).toClient⟩) (.control i)
        ⟨(sys.conn (.control i)).toServer, toClient⟩
      backlog := backlog
      lost := lost} := by
  have hs := hserves.streams
  have hserved' := hserves.served
  rw [hpc] at hserved'
  obtain ⟨hcookie, hrequest⟩ := hs.informed hpc rfl
  rw [addStream_spec hs hrequest hserved'.readStreamCookie.1] at hserver
  have hconn (id : ConnId) (hcontrol : id ≠ .control i) (hstream : id ≠ .stream i a) :
      Function.update (Function.update sys.conn (.stream i a) ⟨[],
        (sys.conn (.stream i a)).toClient⟩) (.control i)
        ⟨(sys.conn (.control i)).toServer, toClient⟩ id = sys.conn id := by
    rw [Function.update_of_ne hcontrol, Function.update_of_ne hstream]
  have hnot (id : ConnId) : pc ≠ .readStreamCookie id := by
    rcases hpc' with rfl | rfl <;> exact fun heq => by cases heq
  have hfront : front pc (a+1) = a+1 := by rcases hpc' with rfl | rfl <;> rfl
  have hbacklog := hs.backlog
  have hle := hs.le
  rw [hpc] at hbacklog hle
  change a+1 ≤ d at hle
  change _ = (List.range' (a+1) (d-(a+1))).map (ConnId.stream i) at hbacklog
  subst hserver
  refine h.ofServer (b := a+1) hserves rfl hserves.ctrl (fun j hj => ⟨?_, fun k => ?_⟩) ?_
    (fun j => by rw [hpc]; simp)
    (fun j => hnot _) ?_ ?_
  · exact hconn _ (fun heq => hj (ConnId.control.inj heq)) fun heq => by cases heq
  · exact hconn _ (fun heq => by cases heq) fun heq => hj (ConnId.stream.inj heq).1
  · exact hlisten
  · dsimp only
    rw [Function.update_self]
    exact hserved
  · refine ⟨fun j k hread => absurd hread (hnot _), ?_, ?_, haw, fun k => ?_, rfl, rfl, rfl,
      fun _ => hcookie, fun _ _ _ => hrequest⟩
    · dsimp only
      rw [hfront]
      rcases hlisten with ⟨rfl, -⟩ | ⟨rfl, -⟩
      · exact hbacklog
      · rcases hlast with hlast | hsame
        · rw [Nat.sub_eq_zero_of_le hlast]
          rfl
        · rw [hsame]
          exact hbacklog
    · dsimp only
      rw [hfront]
      exact hle
    · dsimp only
      by_cases hka : k = a
      · rw [hka, Function.update_of_ne (fun heq => by cases heq), Function.update_self,
          if_neg (by omega)]
      · rw [hconn _ (fun heq => by cases heq) fun heq => hka (ConnId.stream.inj heq).2, hs.conn k]
        congr 1
        rw [eq_iff_iff]
        omega

/-- The connection is a stream of the client. -/
theorem Inv.serveStream (h : Inv u sys) (hserves : Serves u sys i a d w)
    (hpc : sys.server.pc = .readStreamCookie (.stream i a))
    (hstep : readFrom sys (.stream i a) (serverStreamCookie · (.stream i a)) = some sys') :
    Inv u sys' := by
  have hs := hserves.streams
  have hserved := hserves.served
  rw [hpc] at hserved
  obtain ⟨ha, -, hmore, hlast⟩ := hserved.readStreamCookie
  obtain ⟨hcookie, hrequest⟩ := hs.informed hpc rfl
  have hlength := length_roles (u.request i)
  have htoServer := hs.conn a
  by_cases haw : a < w
  · rw [if_pos ⟨le_rfl, haw⟩] at htoServer
    simp only [readFrom, htoServer, serverStreamCookie] at hstep
    have hsame : (setToServer sys (.stream i a) []).server = sys.server := rfl
    rw [hsame, if_pos hcookie.symm] at hstep
    have hadd := addStream_spec hs hrequest ha
    by_cases htotal : a+1 = (roles (u.request i)).length
    · have hcomplete : min (a+1) (streamsToRec (u.request i)) = streamsToRec (u.request i) ∧
          a+1-streamsToRec (u.request i) = streamsToSend (u.request i) := by omega
      have hd := hserved.dialled_le
      have hsys : sys' =
          {sys with
            server := {addStream sys.server (.stream i a) with pc := .starting}
            conn := Function.update (Function.update sys.conn (.stream i a) ⟨[],
              (sys.conn (.stream i a)).toClient⟩) (.control i) ⟨(sys.conn (.control i)).toServer,
                (sys.conn (.control i)).toClient ++ [.state .testStart]⟩
            backlog := if (u.request i).relisten then [] else sys.backlog
            lost := if (u.request i).relisten then sys.backlog ++ sys.lost else sys.lost} := by
        rw [← Option.some.inj hstep]
        cases hagain : (u.request i).relisten <;>
          simp [checkStreams, setServer, setToServer, hadd, hrequest, hcomplete.1, hcomplete.2,
            relisten, hagain, tell, hserves.ctrl, reply, setServerPc]
      rw [hsys]
      exact h.ofStream hserves hpc haw _ .starting _ _ _ rfl (Or.inl rfl) (Or.inl (by omega))
        (listen_cases _ _ _) (hlast htotal)
    · have hmissing : ¬(min (a+1) (streamsToRec (u.request i)) = streamsToRec (u.request i) ∧
          a+1-streamsToRec (u.request i) = streamsToSend (u.request i)) := by omega
      have hsys : sys' =
          {sys with
            server := {addStream sys.server (.stream i a) with pc := .select .createStreams}
            conn := Function.update (Function.update sys.conn (.stream i a) ⟨[],
              (sys.conn (.stream i a)).toClient⟩) (.control i) ⟨(sys.conn (.control i)).toServer,
                (sys.conn (.control i)).toClient⟩
            backlog := sys.backlog
            lost := sys.lost} := by
        rw [← Option.some.inj hstep, checkStreams, if_neg]
        · simp [setServerPc, setServer, setToServer]
        · simpa [setServer, hadd, hrequest] using hmissing
      rw [hsys]
      exact h.ofStream hserves hpc haw _ _ _ _ _ rfl (Or.inr rfl) (Or.inr rfl) (Or.inl ⟨rfl, rfl⟩)
        (hmore (by omega))
  · rw [if_neg (by omega)] at htoServer
    simp only [readFrom, htoServer] at hstep
    cases hstep

/-- The connection is that of another client, whose cookie is not the one of the client that is
served. -/
theorem stranger_eq (hinjective : Function.Injective u.cookie) (h : Inv u sys)
    (hserves : Serves u sys i a d w) {j : ℕ} (hpc : sys.server.pc = .readStreamCookie (.control j))
    (hstep : readFrom sys (.control j) (serverStreamCookie · (.control j)) = some sys') :
    j ≠ i ∧ (sys.client j).pc ≠ .idle ∧ ∃ rest, sys' =
      {sys with
        server := {sys.server with pc := .select .createStreams}
        conn := Function.update sys.conn (.control j) ⟨rest, [.state .accessDenied]⟩} := by
  have hs := hserves.streams
  have hserved := hserves.served
  rw [hpc] at hserved
  obtain ⟨ha, -, -, -⟩ := hserved.readStreamCookie
  obtain ⟨hcookie, hrequest⟩ := hs.informed hpc rfl
  have hlength := length_roles (u.request i)
  have hji : j ≠ i := by
    rintro rfl
    exact hserves.settled (Or.inr hpc)
  have hctrlj : sys.server.ctrl ≠ some (.control j) := by
    rw [hserves.ctrl]
    rintro ⟨rfl⟩
    exact hji rfl
  have hold := (h.others j hctrlj).1
  have hread : ∃ rest, (sys.conn (.control j)).toServer = .cookie (u.cookie j) :: rest ∧
      (sys.conn (.control j)).toClient = [] ∧ (sys.client j).pc ≠ .idle := by
    unfold readFrom at hstep
    generalize (sys.conn (.control j)).toServer = toServer at hold hstep ⊢
    generalize (sys.conn (.control j)).toClient = toClient at hold ⊢
    generalize (sys.client j).pc = pc at hold ⊢
    cases hold with
    | idle hnot => exact absurd (Or.inr hpc) hnot
    | dialled => cases hstep
    | initial => exact ⟨[], rfl, rfl, by simp⟩
    | stopped => exact ⟨[.state .iperfDone], rfl, rfl, by simp⟩
    | refused hnot => exact absurd (Or.inr hpc) hnot
  obtain ⟨rest, htoServer, htoClient, hidle⟩ := hread
  have hmissing : ¬(sys.server.recAccepted = streamsToRec (u.request i) ∧
      sys.server.sendAccepted = streamsToSend (u.request i)) := by
    rw [hs.recAccepted, hs.sendAccepted]
    omega
  refine ⟨hji, hidle, rest, ?_⟩
  simp only [readFrom, htoServer, serverStreamCookie] at hstep
  have hsame : (setToServer sys (.control j) rest).server = sys.server := rfl
  rw [hsame, hcookie, if_neg fun heq => hji (hinjective heq), checkStreams, if_neg] at hstep
  · rw [← Option.some.inj hstep]
    simp [setServerPc, setServer, reply, setToServer, htoClient]
  · show ¬(sys.server.recAccepted = streamsToRec sys.server.request ∧
      sys.server.sendAccepted = streamsToSend sys.server.request)
    rw [hrequest]
    exact hmissing

theorem Inv.serveStranger (hinjective : Function.Injective u.cookie) (h : Inv u sys)
    (hserves : Serves u sys i a d w) {j : ℕ} (hpc : sys.server.pc = .readStreamCookie (.control j))
    (hstep : readFrom sys (.control j) (serverStreamCookie · (.control j)) = some sys') :
    Inv u sys' := by
  obtain ⟨hji, hidle, rest, rfl⟩ := stranger_eq hinjective h hserves hpc hstep
  have hs := hserves.streams
  have hserved := hserves.served
  rw [hpc] at hserved
  obtain ⟨-, hback, -, -⟩ := hserved.readStreamCookie
  obtain ⟨hcookie, hrequest⟩ := hs.informed hpc rfl
  have hcontrol (x : ℕ) (hx : x ≠ j) :
      Function.update sys.conn (.control j) ⟨rest, [.state .accessDenied]⟩ (.control x) =
        sys.conn (.control x) :=
    Function.update_of_ne (fun heq => hx (ConnId.control.inj heq)) _ _
  have hstream (x k : ℕ) :
      Function.update sys.conn (.control j) ⟨rest, [.state .accessDenied]⟩ (.stream x k) =
        sys.conn (.stream x k) :=
    Function.update_of_ne (fun heq => by cases heq) _ _
  have hfewer (x : ℕ) (hin : ConnId.control x ∈ sys.backlog ∨
      ServerPc.select .createStreams = .readStreamCookie (.control x)) :
      Waiting sys x := by
    rcases hin with hin | hin
    · exact Or.inl hin
    · cases hin
  refine ⟨h.nodup, fun x hx => (by cases hx), fun x hx => ?_, fun x hx => ⟨?_, fun k => ?_⟩,
    Or.inr ⟨i, a, d, w, hserves.ctrl, ?_, ?_, fun hin => hserves.settled (hfewer i hin)⟩⟩
  · obtain ⟨hwait, hctrlx, hpcx⟩ := h.lost x hx
    exact ⟨fun hin => hwait (hfewer x hin), hctrlx, hpcx⟩
  · obtain ⟨holdx, -⟩ := h.others x hx
    by_cases hxj : x = j
    · rw [hxj] at holdx ⊢
      have hnot : ¬(ConnId.control j ∈ sys.backlog ∨
          ServerPc.select .createStreams = .readStreamCookie (.control j)) := by
        rintro (hin | hin)
        · exact h.apart j hpc hin
        · cases hin
      have hrefused := holdx.refuse hidle hnot
      dsimp only
      rw [Function.update_self]
      generalize (sys.client j).pc = pc at hrefused hidle ⊢
      generalize (sys.conn (.control j)).toServer = toServer at hrefused
      generalize (sys.conn (.control j)).toClient = toClient at hrefused
      cases hrefused with
      | idle => exact absurd rfl hidle
      | dialled hin => exact absurd hin hnot
      | initial hin => exact absurd hin hnot
      | stopped hin => exact absurd hin hnot
      | refused _ hpc => exact .refused hnot hpc (Or.inr rfl)
    · dsimp only
      rw [hcontrol x hxj]
      apply holdx.congr
      refine ⟨hfewer x, fun hin => ?_⟩
      rcases hin with hin | hin
      · exact Or.inl hin
      · rw [hpc] at hin
        exact absurd (ConnId.control.inj (ServerPc.readStreamCookie.inj hin)).symm hxj
  · dsimp only
    rw [hstream]
    exact (h.others x hx).2 k
  · dsimp only
    rw [hcontrol i hji.symm]
    exact hback
  · exact hs.keep (by rw [hpc]; rfl) rfl (fun x k hx => (by cases hx)) rfl
      (fun k => hstream i k) rfl rfl rfl (fun _ => hcookie) fun _ _ _ => hrequest

theorem Inv.serve (hinjective : Function.Injective u.cookie) (h : Inv u sys)
    (hstep : step u sys .serve = some sys') : Inv u sys' := by
  rw [step, IperfControl.serve] at hstep
  rcases h.server with hfree | ⟨i, a, d, w, hserves⟩
  · simp only [hfree.pc, readControl, hfree.ctrl] at hstep
    cases hstep
  · cases hpc : sys.server.pc with
    | select state =>
      simp only [hpc] at hstep
      exact h.serveSelect hserves hpc hstep
    | readCookie =>
      simp only [hpc] at hstep
      exact h.serveCookie hserves hpc hstep
    | readParams =>
      simp only [hpc] at hstep
      exact h.serveParams hserves hpc hstep
    | readStreamCookie id =>
      simp only [hpc] at hstep
      cases id with
      | control j => exact h.serveStranger hinjective hserves hpc hstep
      | stream j k =>
        obtain ⟨rfl, rfl⟩ := hserves.streams.reading j k hpc
        exact h.serveStream hserves hpc hstep
    | starting =>
      simp only [hpc] at hstep
      cases hstep
      have hserved := hserves.served
      rw [hpc] at hserved
      rw [setServerPc_write hserves.ctrl]
      exact h.goOn hserves hpc rfl _ _ (by simp) (by simp) hserved.starting
    | readResults =>
      simp only [hpc] at hstep
      exact h.serveResults hserves hpc hstep
    | answering =>
      simp only [hpc] at hstep
      cases hstep
      have hserved := hserves.served
      rw [hpc] at hserved
      rw [setServerPc_write hserves.ctrl]
      exact h.goOn hserves hpc rfl _ _ (by simp) (by simp) hserved.answering
    | done =>
      simp only [hpc] at hstep
      cases hstep
    | error =>
      simp only [hpc] at hstep
      cases hstep

end serve

end IperfControl

end MmWaveTracker
