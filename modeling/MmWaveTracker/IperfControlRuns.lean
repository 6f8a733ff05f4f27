import MmWaveTracker.IperfConversation
import Mathlib.Data.List.Nodup

/-! What holds of a server and all its clients in every run. -/
namespace MmWaveTracker

namespace IperfControl

open ScriptQueue

variable {B : Type} {u : Setup B} {sys sys' : System B}

section writes

variable (sys) (id : ConnId) (m : Item B)

theorem conn_write (x : ConnId) : (write sys id m).conn x =
    if x = id then ⟨(sys.conn id).toServer ++ [m], (sys.conn id).toClient⟩ else sys.conn x :=
  Function.update_apply ..

theorem conn_reply (x : ConnId) : (reply sys id m).conn x =
    if x = id then ⟨(sys.conn id).toServer, (sys.conn id).toClient ++ [m]⟩ else sys.conn x :=
  Function.update_apply ..

theorem client_setClient (i j : ℕ) (c : Client B) : (setClient sys i c).client j = if j = i then c
    else sys.client j :=
  Function.update_apply ..

theorem client_setClientPc (i j : ℕ) (pc : ClientPc) : (setClientPc sys i pc).client j =
    if j = i then ⟨pc, (sys.client i).peerResults⟩ else sys.client j :=
  Function.update_apply ..

end writes

section roles

variable (request : Request)

theorem length_roles : (roles request).length = streamsToRec request+streamsToSend request := by
  unfold roles streamsToRec streamsToSend
  cases request.mode <;> simp

/-- The streams on which the client sends are those that the server takes to receive. -/
theorem getD_roles (k : ℕ) (hk : k < (roles request).length) :
    (roles request).getD k false = decide (k < streamsToRec request) := by
  unfold roles streamsToRec at *
  cases hmode : request.mode with
  | sender =>
    simp only [hmode, List.length_replicate] at hk ⊢
    simp [hk]
  | receiver =>
    simp only [hmode, List.length_replicate] at hk ⊢
    simp [List.getElem?_replicate, hk]
  | bidirectional =>
    simp only [hmode, List.length_append, List.length_replicate] at hk ⊢
    by_cases hlt : k < request.numStreams
    · simp [List.getElem?_append_left, hlt]
    · have hrest : k-request.numStreams < request.numStreams := by omega
      simp [List.getElem?_append_right, List.getElem?_replicate, not_lt.mp hlt, hlt, hrest]

end roles

section invariant

/-- A connection waits to be accepted, or its cookie is being read among those of the streams. -/
def Waiting (sys : System B) (j : ℕ) : Prop :=
  ConnId.control j ∈ sys.backlog ∨ sys.server.pc = .readStreamCookie (.control j)

/-- A client that the server does not serve: it has not come yet, it waits, or it is refused. -/
inductive Other (u : Setup B) (j : ℕ) (waiting : Prop) : ClientPc → List (Item B) → List (Item B) →
    Prop where
  | idle (h : ¬waiting) : Other u j waiting .idle [] []
  | dialled (h : waiting) : Other u j waiting .dialled [] []
  | initial (h : waiting) : Other u j waiting (.select .initial) [.cookie (u.cookie j)] []
  | stopped (h : waiting) :
    Other u j waiting (.stopped (.select .initial)) [.cookie (u.cookie j), .state .iperfDone] []
  | refused {pc : ClientPc} {toServer toClient : List (Item B)} (h : ¬waiting)
      (hpc : pc = .dialled ∨ pc = .select .initial ∨ pc = .stopped (.select .initial) ∨ pc = .error)
      (hclient : toClient = [] ∨ toClient = [.state .accessDenied]) :
        Other u j waiting pc toServer toClient

def ConnId.isStream : ConnId → Bool
  | .control _ => false
  | .stream _ _ => true

/-- The stream that is accepted next, when `a` have shown their cookies. -/
def front : ServerPc → ℕ → ℕ
  | .readStreamCookie (.stream _ _), a => a+1
  | _, a => a

/-- The streams of the client `i`: `a` are accepted, `d` dialled, and on `w` of them the cookie was
sent. -/
structure Streams (u : Setup B) (i : ℕ) (sys : System B) (a d w : ℕ) : Prop where
  reading : ∀ j k, sys.server.pc = .readStreamCookie (.stream j k) → j = i ∧ k = a
  backlog : sys.backlog.filter ConnId.isStream =
    (List.range' (front sys.server.pc a) (d-front sys.server.pc a)).map (ConnId.stream i)
  le : front sys.server.pc a ≤ d
  shown : a ≤ w
  conn : ∀ k, (sys.conn (.stream i k)).toServer = if a ≤ k ∧ k < w then [.cookie (u.cookie i)]
    else []
  streams : sys.server.streams = (List.range a).map fun k =>
    (.stream i k, !(roles (u.request i)).getD k false)
  recAccepted : sys.server.recAccepted = min a (streamsToRec (u.request i))
  sendAccepted : sys.server.sendAccepted = a-streamsToRec (u.request i)
  cookie : sys.server.pc ≠ .readCookie → sys.server.cookie = u.cookie i
  request : sys.server.pc ≠ .readCookie → sys.server.pc ≠ .readParams → sys.server.pc ≠ .error →
    sys.server.request = u.request i

/-- The server waits for its first client. -/
structure Free (sys : System B) : Prop where
  ctrl : sys.server.ctrl = none
  pc : sys.server.pc = .select .iperfStart
  backlog : sys.backlog.filter ConnId.isStream = []
  streams : sys.server.streams = []
  recAccepted : sys.server.recAccepted = 0
  sendAccepted : sys.server.sendAccepted = 0

/-- The server serves the client `i`. -/
structure Serves (u : Setup B) (sys : System B) (i a d w : ℕ) : Prop where
  ctrl : sys.server.ctrl = some (.control i)
  served : Served u i sys.server.pc (sys.client i).pc (sys.conn (.control i)).toServer
    (sys.conn (.control i)).toClient a d w
  streams : Streams u i sys a d w
  settled : ¬Waiting sys i

structure Inv (u : Setup B) (sys : System B) : Prop where
  nodup : sys.backlog.Nodup
  apart : ∀ j, sys.server.pc = .readStreamCookie (.control j) → ConnId.control j ∉ sys.backlog
  lost : ∀ j, ConnId.control j ∈ sys.lost →
    ¬Waiting sys j ∧ sys.server.ctrl ≠ some (.control j) ∧ (sys.client j).pc ≠ .idle
  others : ∀ j, sys.server.ctrl ≠ some (.control j) →
    Other u j (Waiting sys j) (sys.client j).pc (sys.conn (.control j)).toServer
      (sys.conn (.control j)).toClient ∧ ∀ k, (sys.conn (.stream j k)).toServer = []
  server : Free sys ∨ ∃ i a d w, Serves u sys i a d w

theorem inv_idle : Inv u idleSystem where
  nodup := List.nodup_nil
  apart j _ := List.not_mem_nil
  lost j hj := absurd hj List.not_mem_nil
  others j _ := by
    refine ⟨.idle ?_, fun _ => rfl⟩
    rintro (hmem | hpc)
    · exact absurd hmem List.not_mem_nil
    · cases hpc
  server := Or.inl ⟨rfl, rfl, rfl, rfl, rfl, rfl⟩

/-- Someone has come: a client that is not idle stays as it is when it stops waiting. -/
theorem Other.refuse {j : ℕ} {waiting waiting' : Prop} {pc : ClientPc}
    {toServer toClient : List (Item B)} (h : Other u j waiting pc toServer toClient)
    (hidle : pc ≠ .idle) (hwaiting : ¬waiting') :
    Other u j waiting' pc toServer toClient := by
  cases h with
  | idle => exact absurd rfl hidle
  | dialled => exact .refused hwaiting (Or.inl rfl) (Or.inl rfl)
  | initial => exact .refused hwaiting (Or.inr (Or.inl rfl)) (Or.inl rfl)
  | stopped => exact .refused hwaiting (Or.inr (Or.inr (Or.inl rfl))) (Or.inl rfl)
  | refused _ hpc hclient => exact .refused hwaiting hpc hclient

theorem Other.congr {j : ℕ} {waiting waiting' : Prop} {pc : ClientPc}
    {toServer toClient : List (Item B)} (h : Other u j waiting pc toServer toClient)
    (hiff : waiting' ↔ waiting) : Other u j waiting' pc toServer toClient := by
  rw [propext hiff]
  exact h

end invariant

section clients

variable {j : ℕ}

/-- What a step of the client `j` changes that does not concern its streams. -/
def moveClient (sys : System B) (j : ℕ) (c : Client B) (conn : Conn B) : System B :=
  {sys with
    client := Function.update sys.client j c
    conn := Function.update sys.conn (.control j) conn}

theorem Inv.ofMove (h : Inv u sys) (c : Client B) (conn : Conn B) (hidle : c.pc ≠ .idle)
    (hother : Other u j (Waiting sys j) (sys.client j).pc (sys.conn (.control j)).toServer
        (sys.conn (.control j)).toClient →
          Other u j (Waiting sys j) c.pc conn.toServer conn.toClient)
    (hserved : sys.server.ctrl = some (.control j) → ∀ a d w,
      Served u j sys.server.pc (sys.client j).pc (sys.conn (.control j)).toServer
        (sys.conn (.control j)).toClient a d w →
          Served u j sys.server.pc c.pc conn.toServer conn.toClient a d w) :
    Inv u (moveClient sys j c conn) := by
  have hclient (x : ℕ) : (moveClient sys j c conn).client x = if x = j then c else sys.client x :=
    Function.update_apply ..
  have hcontrol (x : ℕ) : (moveClient sys j c conn).conn (.control x) = if x = j then conn
      else sys.conn (.control x) := by
    refine (Function.update_apply ..).trans ?_
    simp only [ConnId.control.injEq]
  have hstream (x k : ℕ) : (moveClient sys j c conn).conn (.stream x k) =
      sys.conn (.stream x k) := by
    show Function.update sys.conn (.control j) conn (.stream x k) = _
    rw [Function.update_of_ne]
    exact fun heq => by cases heq
  refine ⟨h.nodup, h.apart, fun x hx => ?_, fun x hx => ?_, ?_⟩
  · obtain ⟨hwait, hctrl, hpc⟩ := h.lost x hx
    refine ⟨hwait, hctrl, ?_⟩
    rw [hclient]
    split_ifs with hxj
    · exact hidle
    · exact hpc
  · obtain ⟨hold, hstreams⟩ := h.others x hx
    refine ⟨?_, fun k => by rw [hstream]; exact hstreams k⟩
    rw [hclient, hcontrol]
    split_ifs with hxj
    · rw [hxj] at hold ⊢
      exact hother hold
    · exact hold
  · rcases h.server with hfree | ⟨i, a, d, w, hserves⟩
    · exact Or.inl ⟨hfree.ctrl, hfree.pc, hfree.backlog, hfree.streams, hfree.recAccepted,
        hfree.sendAccepted⟩
    · have hs := hserves.streams
      refine Or.inr ⟨i, a, d, w, hserves.ctrl, ?_, ⟨hs.reading, hs.backlog, hs.le, hs.shown,
        fun k => by rw [hstream]; exact hs.conn k, hs.streams, hs.recAccepted, hs.sendAccepted,
          hs.cookie, hs.request⟩,
        hserves.settled⟩
      rw [hclient, hcontrol]
      split_ifs with hij
      · rw [hij] at hserves ⊢
        exact hserved hserves.ctrl a d w hserves.served
      · exact hserves.served

theorem Inv.sendCookie (h : Inv u sys) (hstep : step u sys (.sendCookie j) = some sys') :
    Inv u sys' := by
  rw [step] at hstep
  split_ifs at hstep with hpc
  cases hstep
  refine h.ofMove (j := j) ⟨.select .initial, (sys.client j).peerResults⟩
    ⟨(sys.conn (.control j)).toServer ++ [.cookie (u.cookie j)], (sys.conn (.control j)).toClient⟩
      (fun heq => by cases heq)
    (fun hother => ?_) fun _ a d w hserved => ?_
  · rw [hpc] at hother
    generalize (sys.conn (.control j)).toServer = toServer at hother ⊢
    generalize (sys.conn (.control j)).toClient = toClient at hother ⊢
    cases hother with
    | dialled hwaiting => exact .initial hwaiting
    | refused hwaiting _ hdenied => exact .refused hwaiting (Or.inr (Or.inl rfl)) hdenied
  · rw [hpc] at hserved
    exact hserved.sendCookie

theorem Inv.finish (h : Inv u sys) (hstep : step u sys (.finish j) = some sys') : Inv u sys' := by
  rw [step] at hstep
  split_ifs at hstep with hpc
  cases hstep
  refine h.ofMove (j := j) ⟨.select .testEnd, (sys.client j).peerResults⟩
    ⟨(sys.conn (.control j)).toServer ++ [.state .testEnd], (sys.conn (.control j)).toClient⟩
      (fun heq => by cases heq)
    (fun hother => ?_) fun _ a d w hserved => ?_
  · rw [hpc] at hother
    cases hother with
    | refused _ hpc => rcases hpc with hpc | hpc | hpc | hpc <;> cases hpc
  · rw [hpc] at hserved
    exact hserved.finish

theorem Inv.stop (h : Inv u sys) (hstep : step u sys (.stop j) = some sys') : Inv u sys' := by
  rw [step] at hstep
  split_ifs at hstep with hstop
  cases hstep
  refine h.ofMove (j := j) ⟨.stopped (sys.client j).pc, (sys.client j).peerResults⟩
    ⟨(sys.conn (.control j)).toServer ++ [.state .iperfDone], (sys.conn (.control j)).toClient⟩
      (fun heq => by cases heq)
    (fun hother => ?_) fun _ a d w hserved => hserved.stop hstop
  generalize (sys.conn (.control j)).toServer = toServer at hother ⊢
  generalize (sys.conn (.control j)).toClient = toClient at hother ⊢
  generalize (sys.client j).pc = pc at hother hstop ⊢
  cases hother with
  | idle => cases hstop
  | dialled => cases hstop
  | initial hwaiting => exact .stopped hwaiting
  | stopped => cases hstop
  | refused hwaiting hpc hdenied =>
    rcases hpc with rfl | rfl | rfl | rfl
    · cases hstop
    · exact .refused hwaiting (Or.inr (Or.inr (Or.inl rfl))) hdenied
    · cases hstop
    · cases hstop

theorem Inv.reset (h : Inv u sys) (hstep : step u sys (.reset j) = some sys') : Inv u sys' := by
  rw [step] at hstep
  split_ifs at hstep with hlost
  cases hstep
  obtain ⟨hwaiting, hctrl, hpc⟩ := h.lost j hlost
  have hmove : setClientPc sys j .error =
      moveClient sys j ⟨.error, (sys.client j).peerResults⟩ (sys.conn (.control j)) := by
    rw [setClientPc, setClient, moveClient, Function.update_eq_self]
  rw [hmove]
  refine h.ofMove _ _ (fun heq => by cases heq) (fun hother => ?_) fun hserves =>
    absurd hserves hctrl
  generalize (sys.conn (.control j)).toServer = toServer at hother ⊢
  generalize (sys.conn (.control j)).toClient = toClient at hother ⊢
  generalize (sys.client j).pc = pc at hother hpc ⊢
  cases hother with
  | idle => exact absurd rfl hpc
  | dialled hin => exact absurd hin hwaiting
  | initial hin => exact absurd hin hwaiting
  | stopped hin => exact absurd hin hwaiting
  | refused _ _ hdenied => exact .refused hwaiting (Or.inr (Or.inr (Or.inr rfl))) hdenied

/-- `iperf_handle_message_client` in one piece. -/
theorem handleMessageClient_eq (rest : List (Item B)) (m : Item B) :
    handleMessageClient u (setToClient sys (.control j) rest) j m =
      moveClient sys j ⟨(clientHandles u j m).1, (sys.client j).peerResults⟩
        ⟨(sys.conn (.control j)).toServer ++ (clientHandles u j m).2, rest⟩ := by
  cases m with
  | state state =>
    cases state <;> simp [handleMessageClient, clientHandles, moveClient, write, setClientPc,
      setClient, setToClient]
  | _ => simp [handleMessageClient, clientHandles, moveClient, setClientPc, setClient, setToClient]

theorem clientHandles_ne_idle (m : Item B) : (clientHandles u j m).1 ≠ .idle := by
  cases m with
  | state state =>
    cases state <;> simp [clientHandles, createFrom]
    split_ifs <;> simp
  | _ => simp [clientHandles]

/-- The client that is served is the one to whom the control connection belongs. -/
theorem Inv.serves (h : Inv u sys) (hctrl : sys.server.ctrl = some (.control j)) :
    ∃ a d w, Serves u sys j a d w := by
  rcases h.server with hfree | ⟨i, a, d, w, hserves⟩
  · rw [hfree.ctrl] at hctrl
    cases hctrl
  · obtain rfl : i = j := ConnId.control.inj (Option.some.inj (hserves.ctrl.symm.trans hctrl))
    exact ⟨a, d, w, hserves⟩

/-- Where only a client that is served can be. -/
def ClientPc.talks : ClientPc → Bool
  | .idle => false
  | .dialled => false
  | .select .initial => false
  | .stopped (.select .initial) => false
  | .error => false
  | _ => true

/-- A client that has come further than its first `select` is served. -/
theorem Inv.serves_of_pc {pc : ClientPc} (h : Inv u sys) (hpc : (sys.client j).pc = pc)
    (htalks : pc.talks = true) : ∃ a d w, Serves u sys j a d w := by
  by_cases hctrl : sys.server.ctrl = some (.control j)
  · exact h.serves hctrl
  · have hother := (h.others j hctrl).1
    rw [hpc] at hother
    generalize (sys.conn (.control j)).toServer = toServer at hother
    generalize (sys.conn (.control j)).toClient = toClient at hother
    cases hother with
    | refused _ hpc => rcases hpc with rfl | rfl | rfl | rfl <;> cases htalks
    | _ => cases htalks

theorem Inv.receive (h : Inv u sys) (hstep : step u sys (.receive j) = some sys') : Inv u sys' := by
  rw [step, IperfControl.receive] at hstep
  cases htold : (sys.conn (.control j)).toClient with
  | nil =>
    rw [htold] at hstep
    cases hstep
  | cons m rest =>
    simp only [htold] at hstep
    cases hpc : (sys.client j).pc with
    | select state =>
      simp only [hpc, handleMessageClient_eq] at hstep
      cases hstep
      refine h.ofMove _ _ (clientHandles_ne_idle m) (fun hother => ?_) fun _ a d w hserved => ?_
      · rw [hpc, htold] at hother
        generalize (sys.conn (.control j)).toServer = toServer at hother ⊢
        cases hother with
        | refused hwaiting _ hdenied =>
          rcases hdenied with hdenied | hdenied
          · cases hdenied
          · cases hdenied
            exact .refused hwaiting (Or.inr (Or.inr (Or.inr rfl))) (Or.inl rfl)
      · rw [hpc, htold] at hserved
        exact hserved.receive
    | readResults =>
      simp only [hpc] at hstep
      cases hstep
      obtain ⟨a, d, w, hserves⟩ := h.serves_of_pc hpc rfl
      have hserved := hserves.served
      rw [hpc, htold] at hserved
      obtain ⟨rfl, -⟩ := hserved.getResults
      refine h.ofMove (j := j) ⟨.select .exchangeResults, some (u.answer (u.results j))⟩
        ⟨(sys.conn (.control j)).toServer, rest⟩ (fun heq => by cases heq)
          (fun hother => ?_) fun _ a d w hserved => ?_
      · rw [hpc] at hother
        cases hother with
        | refused _ hpc => rcases hpc with hpc | hpc | hpc | hpc <;> cases hpc
      · rw [hpc, htold] at hserved
        exact hserved.getResults.2
    | _ =>
      simp only [hpc] at hstep
      cases hstep

theorem Inv.dial (h : Inv u sys) (hstep : step u sys (.dial j) = some sys') : Inv u sys' := by
  rw [step] at hstep
  split_ifs at hstep with hpc
  cases hstep
  have hctrl : sys.server.ctrl ≠ some (.control j) := by
    intro hctrl
    obtain ⟨a, d, w, hserves⟩ := h.serves hctrl
    have hserved := hserves.served
    rw [hpc] at hserved
    generalize (sys.conn (.control j)).toServer = toServer at hserved
    generalize (sys.conn (.control j)).toClient = toClient at hserved
    generalize sys.server.pc = spc at hserved
    cases hserved with
    | talking client => cases client
  obtain ⟨hother, hstreams⟩ := h.others j hctrl
  rw [hpc] at hother
  have hempty : (sys.conn (.control j)).toServer = [] ∧ (sys.conn (.control j)).toClient = [] ∧
      ¬Waiting sys j := by
    generalize (sys.conn (.control j)).toServer = toServer at hother ⊢
    generalize (sys.conn (.control j)).toClient = toClient at hother ⊢
    cases hother with
    | idle hwaiting => exact ⟨rfl, rfl, hwaiting⟩
    | refused _ hpc => rcases hpc with hpc | hpc | hpc | hpc <;> cases hpc
  obtain ⟨htoServer, htoClient, hnot⟩ := hempty
  have hout : ConnId.control j ∉ sys.backlog := fun hmem => hnot (Or.inl hmem)
  have hclient (x : ℕ) (hx : x ≠ j) : (setClientPc sys j .dialled).client x = sys.client x :=
    (client_setClientPc sys j x _).trans (if_neg hx)
  have hwaiting (x : ℕ) (hx : x ≠ j) :
      Waiting {setClientPc sys j .dialled with backlog := sys.backlog ++ [.control j]} x ↔
        Waiting sys x := by
    show ConnId.control x ∈ sys.backlog ++ [.control j] ∨ _ ↔ _
    rw [List.mem_append, List.mem_singleton, ConnId.control.injEq, or_iff_left hx]
    rfl
  have hfilter : (sys.backlog ++ [ConnId.control j]).filter ConnId.isStream =
      sys.backlog.filter ConnId.isStream := by
    rw [List.filter_append]
    exact List.append_nil _
  refine ⟨?_, fun x hx hmem => ?_, fun x hx => ?_, fun x hx => ?_, ?_⟩
  · refine List.nodup_append.mpr ⟨h.nodup, List.nodup_singleton _, fun id hid id' hid' heq =>
      hout ?_⟩
    rw [← List.mem_singleton.mp hid', ← heq]
    exact hid
  · rcases List.mem_append.mp hmem with hmem | hmem
    · exact h.apart x hx hmem
    · rw [ConnId.control.inj (List.mem_singleton.mp hmem)] at hx
      exact hnot (Or.inr hx)
  · obtain ⟨hwait, hctrlx, hidle⟩ := h.lost x hx
    have hxj : x ≠ j := by
      rintro rfl
      exact hidle hpc
    refine ⟨fun hin => hwait ((hwaiting x hxj).mp hin), hctrlx, ?_⟩
    show ((setClientPc sys j .dialled).client x).pc ≠ .idle
    rw [hclient x hxj]
    exact hidle
  · obtain ⟨hold, hstreamsx⟩ := h.others x hx
    refine ⟨?_, hstreamsx⟩
    by_cases hxj : x = j
    · rw [hxj]
      show Other u j _ ((setClientPc sys j .dialled).client j).pc (sys.conn (.control j)).toServer
        (sys.conn (.control j)).toClient
      rw [client_setClientPc, if_pos rfl, htoServer, htoClient]
      exact .dialled (Or.inl (List.mem_append_right _ List.mem_cons_self))
    · apply Other.congr _ (hwaiting x hxj)
      show Other u x _ ((setClientPc sys j .dialled).client x).pc _ _
      rw [hclient x hxj]
      exact hold
  · rcases h.server with hfree | ⟨i, a, d, w, hserves⟩
    · exact Or.inl ⟨hfree.ctrl, hfree.pc, hfilter.trans hfree.backlog, hfree.streams,
        hfree.recAccepted, hfree.sendAccepted⟩
    · have hij : i ≠ j := by
        rintro rfl
        exact hctrl hserves.ctrl
      have hs := hserves.streams
      refine Or.inr ⟨i, a, d, w, hserves.ctrl, ?_, ⟨hs.reading, hfilter.trans hs.backlog, hs.le,
        hs.shown, hs.conn, hs.streams, hs.recAccepted, hs.sendAccepted, hs.cookie, hs.request⟩,
          fun hin => hserves.settled ((hwaiting i hij).mp hin)⟩
      show Served u i _ ((setClientPc sys j .dialled).client i).pc _ _ a d w
      rw [hclient i hij]
      exact hserves.served

/-- The streams of a client that wait to be accepted, in the order in which they were dialled. -/
theorem mem_backlog_stream {i a d w : ℕ} (h : Streams u i sys a d w) {x k : ℕ}
    (hmem : ConnId.stream x k ∈ sys.backlog) : x = i ∧ front sys.server.pc a ≤ k ∧ k < d := by
  have hfilter : ConnId.stream x k ∈ sys.backlog.filter ConnId.isStream :=
    List.mem_filter.mpr ⟨hmem, rfl⟩
  rw [h.backlog] at hfilter
  obtain ⟨y, hy, heq⟩ := List.mem_map.mp hfilter
  cases heq
  have hle := h.le
  obtain ⟨hfront, hlt⟩ := List.mem_range'_1.mp hy
  exact ⟨rfl, hfront, by omega⟩

theorem Inv.dialStream (h : Inv u sys) (hstep : step u sys (.dialStream j) = some sys') :
    Inv u sys' := by
  rw [step] at hstep
  cases hpc : (sys.client j).pc with
  | create k =>
    simp only [hpc] at hstep
    cases hstep
    obtain ⟨a, d, w, hserves⟩ := h.serves_of_pc hpc rfl
    have hserved := hserves.served
    rw [hpc] at hserved
    obtain ⟨rfl, rfl, hk, hserved'⟩ := hserved.dialStream
    have hs := hserves.streams
    have hclient (x : ℕ) (hx : x ≠ j) : (setClientPc sys j (.cookieDue w)).client x =
        sys.client x :=
      (client_setClientPc sys j x _).trans (if_neg hx)
    have hwaiting (x : ℕ) : Waiting {setClientPc sys j (.cookieDue w) with
        backlog := sys.backlog ++ [.stream j w]} x ↔ Waiting sys x := by
      show ConnId.control x ∈ sys.backlog ++ [.stream j w] ∨ _ ↔ _
      simp only [List.mem_append, List.mem_singleton, reduceCtorEq, or_false]
      rfl
    refine ⟨?_, fun x hx hmem => ?_, fun x hx => ?_, fun x hx => ?_,
      Or.inr ⟨j, a, w+1, w, hserves.ctrl, ?_, ?_, ?_⟩⟩
    · refine List.nodup_append.mpr ⟨h.nodup, List.nodup_singleton _, fun id hid id' hid' heq => ?_⟩
      rw [heq, List.mem_singleton.mp hid'] at hid
      exact absurd (mem_backlog_stream hs hid).2.2 (Nat.lt_irrefl w)
    · rcases List.mem_append.mp hmem with hmem | hmem
      · exact h.apart x hx hmem
      · cases List.mem_singleton.mp hmem
    · obtain ⟨hwait, hctrl, hidle⟩ := h.lost x hx
      have hxj : x ≠ j := by
        rintro rfl
        exact hctrl hserves.ctrl
      refine ⟨fun hin => hwait ((hwaiting x).mp hin), hctrl, ?_⟩
      show ((setClientPc sys j (.cookieDue w)).client x).pc ≠ .idle
      rw [hclient x hxj]
      exact hidle
    · obtain ⟨hold, hstreams⟩ := h.others x hx
      have hxj : x ≠ j := by
        rintro rfl
        exact hx hserves.ctrl
      refine ⟨?_, hstreams⟩
      apply Other.congr _ (hwaiting x)
      show Other u x _ ((setClientPc sys j (.cookieDue w)).client x).pc _ _
      rw [hclient x hxj]
      exact hold
    · show Served u j _ ((setClientPc sys j (.cookieDue w)).client j).pc _ _ a (w+1) w
      rw [client_setClientPc, if_pos rfl]
      exact hserved'
    · refine ⟨hs.reading, ?_, Nat.le_succ_of_le hs.le, hs.shown, hs.conn, hs.streams,
        hs.recAccepted, hs.sendAccepted, hs.cookie, hs.request⟩
      show (sys.backlog ++ [ConnId.stream j w]).filter ConnId.isStream = _
      have hle := hs.le
      have hlast : w+1-front sys.server.pc a = (w-front sys.server.pc a)+1 := by omega
      have hend : front sys.server.pc a+(w-front sys.server.pc a) = w := by omega
      rw [List.filter_append, hs.backlog]
      show _ = (List.range' (front sys.server.pc a) (w+1-front sys.server.pc a)).map
        (ConnId.stream j)
      rw [hlast, List.range'_1_concat, List.map_append, hend]
      rfl
    · exact fun hin => hserves.settled ((hwaiting j).mp hin)
  | _ =>
    simp only [hpc] at hstep
    cases hstep

theorem Inv.sendStreamCookie (h : Inv u sys)
    (hstep : step u sys (.sendStreamCookie j) = some sys') : Inv u sys' := by
  rw [step] at hstep
  cases hpc : (sys.client j).pc with
  | cookieDue k =>
    simp only [hpc] at hstep
    cases hstep
    obtain ⟨a, d, w, hserves⟩ := h.serves_of_pc hpc rfl
    have hserved := hserves.served
    rw [hpc] at hserved
    obtain ⟨rfl, rfl, hserved'⟩ := hserved.sendStreamCookie
    have hs := hserves.streams
    have hclient (x : ℕ) (hx : x ≠ j) :
        (setClientPc sys j (createFrom (u.request j) (w+1))).client x = sys.client x :=
      (client_setClientPc sys j x _).trans (if_neg hx)
    have hconn (id : ConnId) (hid : id ≠ .stream j w) :
        (write (setClientPc sys j (createFrom (u.request j) (w+1))) (.stream j w)
          (.cookie (u.cookie j))).conn id = sys.conn id :=
      (conn_write _ _ _ _).trans (if_neg hid)
    have hcontrol (x : ℕ) := hconn (.control x) fun heq => by cases heq
    refine ⟨h.nodup, h.apart, fun x hx => ?_, fun x hx => ?_, Or.inr ⟨j, a, w+1, w+1, hserves.ctrl,
      ?_, ?_, hserves.settled⟩⟩
    · obtain ⟨hwait, hctrl, hidle⟩ := h.lost x hx
      have hxj : x ≠ j := by
        rintro rfl
        exact hctrl hserves.ctrl
      refine ⟨hwait, hctrl, ?_⟩
      show ((setClientPc sys j (createFrom (u.request j) (w+1))).client x).pc ≠ .idle
      rw [hclient x hxj]
      exact hidle
    · obtain ⟨hold, hstreams⟩ := h.others x hx
      have hxj : x ≠ j := by
        rintro rfl
        exact hx hserves.ctrl
      refine ⟨?_, fun k => ?_⟩
      · rw [hcontrol]
        show Other u x _ ((setClientPc sys j (createFrom (u.request j) (w+1))).client x).pc _ _
        rw [hclient x hxj]
        exact hold
      · rw [hconn _ fun heq => hxj (ConnId.stream.inj heq).1]
        exact hstreams k
    · rw [hcontrol]
      show Served u j _ ((setClientPc sys j (createFrom (u.request j) (w+1))).client j).pc _ _ a
        (w+1) (w+1)
      rw [client_setClientPc, if_pos rfl]
      exact hserved'
    · refine ⟨hs.reading, hs.backlog, hs.le, Nat.le_succ_of_le hs.shown, fun k => ?_, hs.streams,
        hs.recAccepted, hs.sendAccepted, hs.cookie, hs.request⟩
      have hold := hs.conn k
      have hshown := hs.shown
      by_cases hk : k = w
      · rw [hk] at hold ⊢
        rw [if_neg (by omega)] at hold
        rw [if_pos (by omega), conn_write, if_pos rfl]
        show (sys.conn (.stream j w)).toServer ++ [.cookie (u.cookie j)] = _
        rw [hold]
        rfl
      · rw [hconn _ fun heq => hk (ConnId.stream.inj heq).2, hold]
        congr 1
        rw [eq_iff_iff]
        omega
  | _ =>
    simp only [hpc] at hstep
    cases hstep

end clients

end IperfControl

end MmWaveTracker
