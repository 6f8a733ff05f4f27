import MmWaveTracker.IperfControlSafety

/-! A test comes to its end: the steps that the server and its client have left. -/
namespace MmWaveTracker

namespace IperfControl

open ScriptQueue

variable {B : Type} {u : Setup B} {sys sys' : System B} {i a d w : ℕ}

section measure

/-- What a client has left to do; a stream that it dials is left to the server as well. -/
def clientLeft (total : ℕ) : ClientPc → ℕ
  | .dialled => 6*total+9
  | .select .initial => 6*total+8
  | .select .paramExchange => 6*total+7
  | .create k => 6*(total-k)+6
  | .cookieDue k => 6*(total-k)+1
  | .select .createStreams => 6
  | .select .testStart => 5
  | .select .testRunning => 4
  | .select .testEnd => 3
  | .readResults => 2
  | .select .exchangeResults => 1
  | _ => 0

/-- What the server has left to do when it has `a` streams. -/
def serverLeft (total a : ℕ) : ServerPc → ℕ
  | .readCookie => 2*total+10
  | .readParams => 2*total+9
  | .select .createStreams => 2*(total-a)+8
  | .readStreamCookie _ => 2*(total-a)+9
  | .starting => 7
  | .select .testRunning => 6
  | .readResults => 5
  | .answering => 4
  | .select _ => 3
  | .done => 0
  | .error => 0

/-- The server may have to wait for the cookie of a client that it does not serve. -/
def cookieLeft (sys : System B) : ℕ :=
  match sys.server.pc with
  | .readStreamCookie (.control j) => if (sys.client j).pc = .dialled then 1 else 0
  | _ => 0

def left (u : Setup B) (i : ℕ) (sys : System B) : ℕ :=
  clientLeft (roles (u.request i)).length (sys.client i).pc+
    serverLeft (roles (u.request i)).length sys.server.streams.length
      sys.server.pc+3*sys.backlog.length+cookieLeft sys

theorem left_le (u : Setup B) (i : ℕ) (sys : System B) :
    left u i sys ≤ 8*(roles (u.request i)).length+3*sys.backlog.length+20 := by
  have hclient (total : ℕ) (pc : ClientPc) : clientLeft total pc ≤ 6*total+9 := by
    unfold clientLeft
    split <;> omega
  have hserver (total a : ℕ) (pc : ServerPc) : serverLeft total a pc ≤ 2*total+10 := by
    unfold serverLeft
    split <;> omega
  have hcookie : cookieLeft sys ≤ 1 := by
    unfold cookieLeft
    split
    · split_ifs <;> omega
    · omega
  have hc := hclient (roles (u.request i)).length (sys.client i).pc
  have hs := hserver (roles (u.request i)).length sys.server.streams.length sys.server.pc
  unfold left
  omega

/-- The steps of a test: those of the server, those of the client that it serves, unless it is
stopped, and the cookie that the server waits for. -/
inductive Moves (i : ℕ) (sys : System B) : Event → Prop where
  | sendCookie : Moves i sys (.sendCookie i)
  | receive : Moves i sys (.receive i)
  | dialStream : Moves i sys (.dialStream i)
  | sendStreamCookie : Moves i sys (.sendStreamCookie i)
  | finish : Moves i sys (.finish i)
  | accept : Moves i sys .accept
  | serve : Moves i sys .serve
  | stranger (j : ℕ) (h : sys.server.pc = .readStreamCookie (.control j)) :
      Moves i sys (.sendCookie j)

end measure

section decrease

/-- A step of the client that is served. -/
theorem left_client {n : ℕ} (hserves : Serves u sys i a d w) (hserver : sys'.server = sys.server)
    (hothers : ∀ x, x ≠ i → sys'.client x = sys.client x)
    (hbacklog : sys'.backlog.length = sys.backlog.length+n)
    (hpc : clientLeft (roles (u.request i)).length (sys'.client i).pc+3*n <
      clientLeft (roles (u.request i)).length (sys.client i).pc) :
        left u i sys' < left u i sys := by
  have hcookie : cookieLeft sys' = cookieLeft sys := by
    unfold cookieLeft
    rw [hserver]
    split
    · rename_i j hread
      rw [hothers j]
      rintro rfl
      exact hserves.settled (Or.inr hread)
    · rfl
  unfold left
  rw [hserver, hbacklog, hcookie]
  omega

/-- It goes on to `pc`. -/
theorem left_setClientPc {pc : ClientPc} {n : ℕ} (hserves : Serves u sys i a d w)
    (hserver : sys'.server = sys.server) (hclient : sys'.client = (setClientPc sys i pc).client)
    (hbacklog : sys'.backlog.length = sys.backlog.length+n)
    (hpc : clientLeft (roles (u.request i)).length pc+3*n <
      clientLeft (roles (u.request i)).length (sys.client i).pc) :
    left u i sys' < left u i sys := by
  refine left_client hserves hserver (fun x hx => ?_) hbacklog ?_
  · rw [hclient, client_setClientPc, if_neg hx]
  · rw [hclient, client_setClientPc, if_pos rfl]
    exact hpc

theorem clientLeft_createFrom (request : Request) (k : ℕ) (hk : k ≤ (roles request).length) :
    clientLeft (roles request).length (createFrom request k) = 6*((roles request).length-k)+6 := by
  unfold createFrom
  split_ifs with hlt
  · rfl
  · have hzero : (roles request).length-k = 0 := by omega
    rw [hzero]
    rfl

theorem Hears.left {total : ℕ} {state : State} {pc : ClientPc} (h : Hears total state pc) :
    clientLeft total pc < clientLeft total (.select state) := by
  cases h <;> simp [clientLeft]

theorem left_receive (hserves : Serves u sys i a d w)
    (hstep : step u sys (.receive i) = some sys') :
    left u i sys' < left u i sys ∧ sys'.server.ctrl = some (.control i) := by
  rw [step, IperfControl.receive] at hstep
  have hserved := hserves.served
  cases htold : (sys.conn (.control i)).toClient with
  | nil =>
    rw [htold] at hstep
    cases hstep
  | cons m rest =>
    simp only [htold] at hstep
    cases hpc : (sys.client i).pc with
    | select state =>
      simp only [hpc, handleMessageClient_eq] at hstep
      cases hstep
      rw [hpc, htold] at hserved
      have hleft := hserved.hears.left
      have hclient (x : ℕ) : (moveClient sys i ⟨(clientHandles u i m).1, (sys.client i).peerResults⟩
          ⟨(sys.conn (.control i)).toServer ++ (clientHandles u i m).2, rest⟩).client x =
            if x = i then ⟨(clientHandles u i m).1, (sys.client i).peerResults⟩ else sys.client x :=
              Function.update_apply ..
      refine ⟨left_client (n := 0) hserves rfl (fun x hx => (hclient x).trans (if_neg hx)) rfl ?_,
        hserves.ctrl⟩
      rw [hclient, if_pos rfl, hpc]
      exact hleft
    | readResults =>
      simp only [hpc] at hstep
      cases hstep
      rw [hpc, htold] at hserved
      obtain ⟨rfl, -⟩ := hserved.getResults
      have hclient (x : ℕ) := client_setClient (setToClient sys (.control i) rest) i x
        ⟨.select .exchangeResults, some (u.answer (u.results i))⟩
      refine ⟨left_client (n := 0) hserves rfl (fun x hx => (hclient x).trans (if_neg hx)) rfl ?_,
        hserves.ctrl⟩
      rw [clientGetResults, hclient, if_pos rfl, hpc]
      simp [clientLeft]
    | _ =>
      simp only [hpc] at hstep
      cases hstep

/-- Every step of the server other than `accept` leaves it less to do. -/
theorem Goes.left {total n n' : ℕ} {pc pc' : ServerPc} {read : Bool}
    (h : Goes total pc n pc' n' read) : serverLeft total n' pc' < serverLeft total n pc ∧
      ∀ id, pc' ≠ .readStreamCookie id := by
  cases h with
  | iperfDone state =>
    refine ⟨?_, by simp⟩
    cases state <;> simp [serverLeft]
  | misread _ _ hpc =>
    refine ⟨?_, by simp⟩
    rcases hpc with rfl | rfl <;> simp [serverLeft]
  | params => exact ⟨by simp only [serverLeft]; omega, by simp⟩
  | noStreams => exact ⟨by simp only [serverLeft]; omega, by simp⟩
  | stream => exact ⟨by simp only [serverLeft]; omega, by simp⟩
  | lastStream => exact ⟨by simp only [serverLeft]; omega, by simp⟩
  | _ => exact ⟨by simp [serverLeft], by simp⟩

theorem left_serve (hinjective : Function.Injective u.cookie) (h : Inv u sys)
    (hserves : Serves u sys i a d w) (hstep : step u sys .serve = some sys') :
    left u i sys' < left u i sys ∧ sys'.server.ctrl = some (.control i) := by
  obtain ⟨read, hgoes, hsteady⟩ := serve_goes hinjective h hserves hstep
  obtain ⟨hleft, hnot⟩ := hgoes.left
  have hcookie : cookieLeft sys' = 0 := by
    unfold cookieLeft
    split
    · exact absurd ‹_› (hnot _)
    · rfl
  have hbacklog : sys'.backlog.length ≤ sys.backlog.length := by
    rcases hsteady.backlog with hsame | hnil
    · rw [hsame]
    · rw [hnil]
      exact Nat.zero_le _
  refine ⟨?_, hsteady.ctrl.trans hserves.ctrl⟩
  unfold left
  rw [hsteady.client, hcookie]
  omega

theorem left_accept (hserves : Serves u sys i a d w) (hstep : step u sys .accept = some sys') :
    left u i sys' < left u i sys ∧ sys'.server.ctrl = some (.control i) := by
  have hctrl := hserves.ctrl
  rw [step, IperfControl.accept] at hstep
  cases hpc : sys.server.pc with
  | select state =>
    cases hbacklog : sys.backlog with
    | nil =>
      simp only [hpc, hbacklog] at hstep
      cases hstep
    | cons id rest =>
      have hlength : sys.backlog.length = rest.length+1 := by
        rw [hbacklog]
        rfl
      have hnone : cookieLeft sys = 0 := by
        unfold cookieLeft
        rw [hpc]
      simp only [hpc, hbacklog] at hstep
      split_ifs at hstep with hstate hfree
      · cases hstep
        have hcookie : cookieLeft (setServerPc {sys with backlog := rest} (.readStreamCookie id)) ≤
            1 := by
          unfold cookieLeft
          split
          · split_ifs <;> omega
          · omega
        refine ⟨?_, hctrl⟩
        unfold left
        rw [hpc, hstate, hlength]
        show clientLeft _ _+serverLeft _ _ (.readStreamCookie id)+3*rest.length+_ < _
        simp only [serverLeft]
        show clientLeft _ (sys.client i).pc+(2*(_-sys.server.streams.length)+9)+3*rest.length+_ < _
        omega
      · rw [hctrl] at hfree
        cases hfree
      · cases hstep
        refine ⟨?_, hctrl⟩
        have hcookie : cookieLeft (reply {sys with backlog := rest} id (.state .accessDenied)) =
            cookieLeft sys := rfl
        unfold left
        rw [hcookie, hlength]
        show clientLeft _ (sys.client i).pc+serverLeft _ sys.server.streams.length
          sys.server.pc+3*rest.length+_ < _
        omega
  | _ =>
    simp only [hpc] at hstep
    cases hstep

/-- Every step of a test leaves less to do. -/
theorem left_move (hinjective : Function.Injective u.cookie) {e : Event} (h : Inv u sys)
    (hserves : Serves u sys i a d w) (hmove : Moves i sys e) (hstep : step u sys e = some sys') :
    left u i sys' < left u i sys ∧ sys'.server.ctrl = some (.control i) := by
  have hserved := hserves.served
  cases hmove with
  | sendCookie =>
    rw [step] at hstep
    split_ifs at hstep with hpc
    cases hstep
    refine ⟨left_setClientPc (n := 0) hserves rfl rfl rfl ?_, hserves.ctrl⟩
    rw [hpc]
    simp [clientLeft]
  | receive => exact left_receive hserves hstep
  | dialStream =>
    rw [step] at hstep
    split at hstep <;> cases hstep
    rename_i k hpc
    rw [hpc] at hserved
    obtain ⟨-, -, hk, -⟩ := hserved.dialStream
    refine ⟨left_setClientPc (n := 1) hserves rfl rfl (by simp) ?_, hserves.ctrl⟩
    rw [hpc]
    simp only [clientLeft]
    omega
  | sendStreamCookie =>
    rw [step] at hstep
    split at hstep <;> cases hstep
    rename_i k hpc
    rw [hpc] at hserved
    obtain ⟨rfl, -, -⟩ := hserved.sendStreamCookie
    refine ⟨left_setClientPc (n := 0) hserves rfl rfl rfl ?_, hserves.ctrl⟩
    have hd := hserved.dialled_le
    rw [hpc, clientLeft_createFrom _ _ hd]
    simp only [clientLeft]
    omega
  | finish =>
    rw [step] at hstep
    split_ifs at hstep with hpc
    cases hstep
    refine ⟨left_setClientPc (n := 0) hserves rfl rfl rfl ?_, hserves.ctrl⟩
    rw [hpc]
    simp [clientLeft]
  | accept => exact left_accept hserves hstep
  | serve => exact left_serve hinjective h hserves hstep
  | stranger j hread =>
    have hji : i ≠ j := by
      rintro rfl
      exact hserves.settled (Or.inr hread)
    rw [step] at hstep
    split_ifs at hstep with hpc
    cases hstep
    refine ⟨?_, hserves.ctrl⟩
    have hclient (x : ℕ) := client_setClientPc sys j x (.select .initial)
    have hcookie : cookieLeft (write (setClientPc sys j (.select .initial)) (.control j)
        (.cookie (u.cookie j))) = 0 := by
      have hread' : (write (setClientPc sys j (.select .initial)) (.control j)
        (.cookie (u.cookie j))).server.pc = .readStreamCookie (.control j) := hread
      unfold cookieLeft
      rw [hread']
      refine if_neg ?_
      show ((setClientPc sys j (.select .initial)).client j).pc ≠ .dialled
      rw [hclient, if_pos rfl]
      simp
    have hbefore : cookieLeft sys = 1 := by
      unfold cookieLeft
      rw [hread]
      exact if_pos hpc
    unfold left
    rw [hcookie, hbefore]
    show clientLeft _ ((setClientPc sys j (.select .initial)).client i).pc+serverLeft _
      sys.server.streams.length sys.server.pc+ 3*sys.backlog.length+0 < _
    rw [hclient, if_neg hji]
    omega

end decrease

section progress

/-- The reads of the server that block while its client is silent. -/
inductive Blocks (d a : ℕ) : ServerPc → Prop where
  | readCookie : Blocks d a .readCookie
  | readParams : Blocks d a .readParams
  | select (state : State) (h : state = .createStreams → d = a) : Blocks d a (.select state)
  | readResults : Blocks d a .readResults

theorem Streams.backlog_ne_nil (hs : Streams u i sys a d w)
    (hpc : sys.server.pc = .select .createStreams) (hda : d ≠ a) :
    sys.backlog ≠ [] := by
  intro hnil
  have hbacklog := hs.backlog
  have hle := hs.le
  rw [hpc] at hbacklog hle
  change a ≤ d at hle
  change _ = (List.range' a (d-a)).map (ConnId.stream i) at hbacklog
  rw [hnil] at hbacklog
  have hlength := congrArg List.length hbacklog
  rw [List.length_map, List.length_range', List.filter_nil, List.length_nil] at hlength
  omega

/-- A server that cannot go on has ended, or waits for its client. -/
theorem Inv.server_stuck (h : Inv u sys) (hserves : Serves u sys i a d w)
    (hno : ∀ e, Moves i sys e → step u sys e = none) :
    sys.server.pc = .done ∨ sys.server.pc = .error ∨
      (Blocks d a sys.server.pc ∧ (sys.conn (.control i)).toServer = []) ∨
      (sys.server.pc = .readStreamCookie (.stream i a) ∧ w ≤ a) := by
  have hserve := hno _ .serve
  have haccept := hno _ .accept
  have hs := hserves.streams
  rw [step, IperfControl.serve] at hserve
  rw [step, IperfControl.accept] at haccept
  have hread {f : System B → Item B → System B} (hnone : readControl sys f = none) :
      (sys.conn (.control i)).toServer = [] := by
    by_contra hne
    exact readControl_ne_none hserves.ctrl hne hnone
  cases hpc : sys.server.pc with
  | select state =>
    simp only [hpc] at hserve
    refine Or.inr (Or.inr (Or.inl ⟨.select state fun hstate => ?_, hread hserve⟩))
    by_contra hda
    rw [hstate] at hpc
    obtain ⟨id, rest, hbacklog⟩ := List.exists_cons_of_ne_nil (hs.backlog_ne_nil hpc hda)
    simp only [hpc, hbacklog, if_true] at haccept
    cases haccept
  | readCookie =>
    simp only [hpc] at hserve
    exact Or.inr (Or.inr (Or.inl ⟨.readCookie, hread hserve⟩))
  | readParams =>
    simp only [hpc] at hserve
    exact Or.inr (Or.inr (Or.inl ⟨.readParams, hread hserve⟩))
  | readStreamCookie id =>
    simp only [hpc] at hserve
    cases id with
    | stream j k =>
      obtain ⟨rfl, rfl⟩ := hs.reading j k hpc
      refine Or.inr (Or.inr (Or.inr ⟨rfl, ?_⟩))
      by_contra hlt
      have hconn := hs.conn k
      rw [if_pos (by omega)] at hconn
      simp only [readFrom, hconn] at hserve
      cases hserve
    | control j =>
      have hcookie := hno _ (.stranger j hpc)
      have hctrlj : sys.server.ctrl ≠ some (.control j) := by
        rw [hserves.ctrl]
        rintro ⟨rfl⟩
        exact hserves.settled (Or.inr hpc)
      have hother := (h.others j hctrlj).1
      rw [step] at hcookie
      unfold readFrom at hserve
      generalize (sys.conn (.control j)).toServer = toServer at hother hserve
      generalize (sys.conn (.control j)).toClient = toClient at hother
      generalize (sys.client j).pc = pc at hother hcookie
      cases hother with
      | idle hnot => exact absurd (Or.inr hpc) hnot
      | dialled => cases hcookie
      | initial => cases hserve
      | stopped => cases hserve
      | refused hnot => exact absurd (Or.inr hpc) hnot
  | starting =>
    simp only [hpc] at hserve
    cases hserve
  | readResults =>
    simp only [hpc] at hserve
    exact Or.inr (Or.inr (Or.inl ⟨.readResults, hread hserve⟩))
  | answering =>
    simp only [hpc] at hserve
    cases hserve
  | done => exact Or.inl rfl
  | error => exact Or.inr (Or.inl rfl)

/-- A client that does not write is done, or waits for the server. -/
theorem ClientAt.waits {total n r : ℕ} {pc : ClientPc} (client : ClientAt total pc n r d w)
    (hdialled : pc ≠ .dialled) (hcreate : ∀ k, pc ≠ .create k) (hcookieDue : ∀ k, pc ≠ .cookieDue k)
    (hrunning : pc ≠ .select .testRunning) :
    (pc = .done ∧ n = 5 ∧ r = 7) ∨
      (stoppable pc = true ∧ (n = 1 ∧ r = 0 ∨ n = 2 ∧ r = 1 ∨ n = 2 ∧ r = 2 ∧ d = total ∧
        w = total ∨ n = 2 ∧ r = 3 ∨ n = 3 ∧ r = 4 ∨ n = 4 ∧ r = 5 ∨ n = 4 ∧ r = 6)) := by
  cases client with
  | dialled => exact absurd rfl hdialled
  | create => exact absurd rfl (hcreate _)
  | cookieDue => exact absurd rfl (hcookieDue _)
  | testRunning => exact absurd rfl hrunning
  | done => exact Or.inl ⟨rfl, rfl, rfl⟩
  | _ => exact Or.inr ⟨rfl, by omega⟩

/-- Nobody goes on: the client does not write, has nothing to read, and the server cannot go on
either. -/
theorem Served.over {spc : ServerPc} {pc : ClientPc} {toServer toClient : List (Item B)}
    (h : Served u i spc pc toServer toClient a d w) (hdialled : pc ≠ .dialled)
    (hcreate : ∀ k, pc ≠ .create k)
    (hcookieDue : ∀ k, pc ≠ .cookieDue k) (hrunning : pc ≠ .select .testRunning)
    (hsilent : stoppable pc = true → toClient = [])
      (hread : spc = .readStreamCookie (.stream i a) → a < d)
    (hserver : spc = .done ∨ spc = .error ∨ (Blocks d a spc ∧ toServer = []) ∨
      (spc = .readStreamCookie (.stream i a) ∧ w ≤ a)) :
    (spc = .done ∨ spc = .error) ∧ ((∀ before, pc ≠ .stopped before) → spc = .done ∧
      pc = .done) := by
  cases h with
  | talking client server hr hrs =>
    rename_i n r ns rs
    have hwaits := client.waits hdialled hcreate hcookieDue hrunning
    have hns (hreads : stoppable pc = true) : ns ≤ r := by
      by_contra hlt
      have hlength : ns ≤ (serverScript u i).length := by
        show ns ≤ 7
        cases server <;> decide
      exact window_ne_nil (not_le.mp hlt) hlength (hsilent hreads)
    rcases hserver with rfl | rfl | ⟨hblocks, hnil⟩ | ⟨rfl, hshown⟩
    · refine ⟨Or.inl rfl, fun _ => ⟨rfl, ?_⟩⟩
      cases server
      rcases hwaits with ⟨hdone, -⟩ | ⟨-, hwaits⟩
      · exact hdone
      · omega
    · cases server
    · exfalso
      have hn := le_of_window_nil client hnil
      rcases hwaits with ⟨-, rfl, rfl⟩ | ⟨hreads, hwaits⟩
      · cases server <;> first | omega | cases hblocks
      · have hle := hns hreads
        cases hblocks with
        | readCookie =>
          cases server
          omega
        | readParams =>
          cases server
          omega
        | select state hall =>
          cases server with
          | createStreams _ ha =>
            have hda := hall rfl
            omega
          | testRunning => omega
          | displayResults => omega
        | readResults =>
          cases server
          omega
    · exfalso
      cases server
      rcases hwaits with ⟨-, rfl, rfl⟩ | ⟨hreads, hwaits⟩
      · omega
      · have hle := hns hreads
        omega
  | stopped client hpc server hr hrs =>
    rcases hserver with rfl | rfl | ⟨-, hnil⟩ | ⟨rfl, hshown⟩
    · exact ⟨Or.inl rfl, fun hgoing => absurd rfl (hgoing _)⟩
    · exact ⟨Or.inr rfl, fun hgoing => absurd rfl (hgoing _)⟩
    · exact absurd hnil (by simp)
    · have hd := hread rfl
      exfalso
      cases client <;> first | omega | cases hpc
  | ended => exact ⟨Or.inl rfl, fun hgoing => absurd rfl (hgoing _)⟩
  | misread => exact ⟨Or.inr rfl, fun hgoing => absurd rfl (hgoing _)⟩

theorem Inv.over (h : Inv u sys) (hserves : Serves u sys i a d w)
    (hno : ∀ e, Moves i sys e → step u sys e = none) :
    (sys.server.pc = .done ∨ sys.server.pc = .error) ∧
      ((∀ before, (sys.client i).pc ≠ .stopped before) → sys.server.pc = .done ∧
        (sys.client i).pc = .done) := by
  have hsendCookie := hno _ .sendCookie
  have hdialStream := hno _ .dialStream
  have hsendStreamCookie := hno _ .sendStreamCookie
  have hfinish := hno _ .finish
  have hreceive := hno _ .receive
  simp only [step] at hsendCookie hdialStream hsendStreamCookie hfinish hreceive
  refine hserves.served.over (fun hpc => ?_) (fun k hpc => ?_) (fun k hpc => ?_) (fun hpc => ?_)
    (fun hreads => ?_) (fun hread => ?_) (h.server_stuck hserves hno)
  · rw [if_pos hpc] at hsendCookie
    cases hsendCookie
  · rw [hpc] at hdialStream
    cases hdialStream
  · rw [hpc] at hsendStreamCookie
    cases hsendStreamCookie
  · rw [if_pos hpc] at hfinish
    cases hfinish
  · by_contra hne
    obtain ⟨m, rest, htold⟩ := List.exists_cons_of_ne_nil hne
    rw [IperfControl.receive, htold] at hreceive
    cases hpc : (sys.client i).pc with
    | select state =>
      simp only [hpc] at hreceive
      cases hreceive
    | readResults =>
      simp only [hpc] at hreceive
      cases hreceive
    | _ =>
      rw [hpc] at hreads
      cases hreads
  · have hle := hserves.streams.le
    rw [hread] at hle
    exact hle

/-- A test goes on for `n` steps. -/
inductive GoesOn (u : Setup B) (i : ℕ) (sys : System B) : ℕ → System B → Prop where
  | refl : GoesOn u i sys 0 sys
  | step {n : ℕ} {sys' sys'' : System B} (e : Event) (h : GoesOn u i sys n sys')
      (hmove : Moves i sys' e) (hstep : step u sys' e = some sys'') : GoesOn u i sys (n+1) sys''

end progress

end IperfControl

end MmWaveTracker
