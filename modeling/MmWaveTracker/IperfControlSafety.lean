import MmWaveTracker.IperfControlSteps

/-! What every run of the server with all its clients comes to. -/
namespace MmWaveTracker

namespace IperfControl

open ScriptQueue

variable {B : Type} {u : Setup B} {sys sys' : System B} {i j a d w : ℕ}

section results

/-- The results that the ends have of each other, once they have read them. -/
structure Told (u : Setup B) (sys : System B) : Prop where
  client : ∀ j, (sys.client j).pc = .select .exchangeResults ∨ (sys.client j).pc = .done →
    (sys.client j).peerResults = some (u.answer (u.results j))
  server : ∀ i, sys.server.ctrl = some (.control i) →
    sys.server.pc = .answering ∨ sys.server.pc = .select .displayResults ∨
        (sys.server.pc = .done ∧ (sys.client i).pc = .done) →
      sys.server.peerResults = some (u.results i)

/-- A step of a client that does not end in the states that follow the results. -/
theorem Told.ofClient (h : Told u sys) (hserver : sys'.server = sys.server)
    (hothers : ∀ x, x ≠ j → sys'.client x = sys.client x)
    (hresults : (sys'.client j).pc ≠ .select .exchangeResults)
    (hdone : (sys'.client j).pc ≠ .done) : Told u sys' where
  client x hx := by
    have hxj : x ≠ j := by
      rintro rfl
      exact hx.elim hresults hdone
    rw [hothers x hxj] at hx ⊢
    exact h.client x hx
  server i hctrl hpc := by
    rw [hserver] at hctrl hpc ⊢
    refine h.server i hctrl (hpc.imp_right fun hpc => hpc.imp_right fun hpc => ?_)
    have hij : i ≠ j := by
      rintro rfl
      exact hdone hpc.2
    rw [hothers i hij] at hpc
    exact hpc

/-- The server waits for a client that has to hear that the results are displayed. -/
theorem Served.waits {spc : ServerPc} {toServer toClient : List (Item B)}
    (h : Served u i spc (.select .exchangeResults) toServer toClient a d w) : spc ≠ .done := by
  cases h with
  | talking client server hr hrs =>
    rintro rfl
    cases client
    cases server
    omega

theorem Served.displays {state : State} {toServer toClient : List (Item B)}
    (h : Served u i (.select state) .done toServer toClient a d w) : state = .displayResults := by
  cases h with
  | talking client server hr hrs =>
    cases client
    cases server with
    | createStreams => omega
    | testRunning => omega
    | displayResults => rfl

theorem Told.receive (hinv : Inv u sys) (h : Told u sys)
    (hstep : step u sys (.receive j) = some sys') : Told u sys' := by
  rw [step, IperfControl.receive] at hstep
  cases htold : (sys.conn (.control j)).toClient with
  | nil =>
    rw [htold] at hstep
    cases hstep
  | cons m rest =>
    simp only [htold] at hstep
    cases hpc : (sys.client j).pc with
    | select state =>
      simp only [hpc, handleMessageClient_eq] at hstep
      cases hstep
      have hclient (x : ℕ) : (moveClient sys j ⟨(clientHandles u j m).1, (sys.client j).peerResults⟩
          ⟨(sys.conn (.control j)).toServer ++ (clientHandles u j m).2, rest⟩).client x =
            if x = j then ⟨(clientHandles u j m).1, (sys.client j).peerResults⟩ else sys.client x :=
              Function.update_apply ..
      have hother (x : ℕ) (hx : x ≠ j) := (hclient x).trans (if_neg hx)
      have hself := (hclient j).trans (if_pos rfl)
      have hresults : (clientHandles u j m).1 ≠ .select .exchangeResults := by
        cases m with
        | state state =>
          cases state <;> simp [clientHandles, createFrom]
          split_ifs <;> simp
        | _ => simp [clientHandles]
      by_cases hdone : (clientHandles u j m).1 = .done
      · by_cases hctrl : sys.server.ctrl = some (.control j)
        · obtain ⟨a, d, w, hserves⟩ := hinv.serves hctrl
          have hserved := hserves.served
          rw [hpc, htold] at hserved
          have hhears := hserved.hears
          rw [hdone] at hhears
          cases hhears
          have hspc := hserved.waits
          refine ⟨fun x hx => ?_, fun x hctrl' hx => ?_⟩
          · by_cases hxj : x = j
            · rw [hxj, hself]
              exact h.client j (Or.inl hpc)
            · rw [hother x hxj] at hx ⊢
              exact h.client x hx
          · obtain rfl : x = j := ConnId.control.inj (Option.some.inj (hctrl'.symm.trans hctrl))
            exact h.server x hctrl (hx.imp_right fun hx => hx.imp_right fun hx => absurd hx.1 hspc)
        · have hrefused := (hinv.others j hctrl).1
          rw [hpc, htold] at hrefused
          generalize (sys.conn (.control j)).toServer = toServer at hrefused
          cases hrefused with
          | refused _ _ hdenied =>
            rcases hdenied with hdenied | hdenied
            · cases hdenied
            · cases hdenied
              cases hdone
      · exact h.ofClient rfl hother (by rw [hself]; exact hresults) (by rw [hself]; exact hdone)
    | readResults =>
      simp only [hpc] at hstep
      cases hstep
      obtain ⟨a, d, w, hserves⟩ := hinv.serves_of_pc hpc rfl
      have hserved := hserves.served
      rw [hpc, htold] at hserved
      obtain ⟨rfl, -⟩ := hserved.getResults
      have hclient (x : ℕ) := client_setClient (setToClient sys (.control j) rest) j x
        ⟨.select .exchangeResults, some (u.answer (u.results j))⟩
      refine ⟨fun x hx => ?_, fun x hctrl hx => ?_⟩
      · rw [clientGetResults, hclient] at hx ⊢
        split_ifs at hx ⊢ with hxj
        · rw [hxj]
        · exact h.client x hx
      · refine h.server x hctrl (hx.imp_right fun hx => hx.imp_right fun hx => ⟨hx.1, ?_⟩)
        have hdone := hx.2
        rw [clientGetResults, hclient] at hdone
        split_ifs at hdone with hxj
        · exact hdone
    | _ =>
      simp only [hpc] at hstep
      cases hstep

theorem Told.accept (h : Told u sys) (hstep : step u sys .accept = some sys') : Told u sys' := by
  rw [step, IperfControl.accept] at hstep
  cases hpc : sys.server.pc with
  | select state =>
    cases hbacklog : sys.backlog with
    | nil =>
      simp only [hpc, hbacklog] at hstep
      cases hstep
    | cons id rest =>
      simp only [hpc, hbacklog] at hstep
      split_ifs at hstep
      · cases hstep
        refine ⟨h.client, fun x _ hx => ?_⟩
        rcases hx with hx | hx | ⟨hx, -⟩ <;> cases hx
      · cases hstep
        refine ⟨h.client, fun x _ hx => ?_⟩
        rcases hx with hx | hx | ⟨hx, -⟩ <;> cases hx
      · cases hstep
        exact ⟨h.client, h.server⟩
  | _ =>
    simp only [hpc] at hstep
    cases hstep

theorem Told.serve (hinjective : Function.Injective u.cookie) (hinv : Inv u sys) (h : Told u sys)
    (hstep : step u sys .serve = some sys') : Told u sys' := by
  rcases hinv.server with hfree | ⟨i, a, d, w, hserves⟩
  · rw [step, IperfControl.serve] at hstep
    simp only [hfree.pc, readControl, hfree.ctrl] at hstep
    cases hstep
  · obtain ⟨read, hgoes, hsteady⟩ := serve_goes hinjective hinv hserves hstep
    refine ⟨fun x hx => ?_, fun x hctrl hx => ?_⟩
    · rw [hsteady.client] at hx ⊢
      exact h.client x hx
    · rw [hsteady.ctrl] at hctrl
      obtain rfl : x = i := ConnId.control.inj (Option.some.inj (hctrl.symm.trans hserves.ctrl))
      have hserved := hserves.served
      have htold := h.server x hctrl
      have hpeer := hsteady.peerResults
      rw [hsteady.client] at hx
      generalize sys.server.pc = pc at *
      generalize sys'.server.pc = pc' at *
      generalize sys.server.streams.length = n at hgoes
      generalize sys'.server.streams.length = n' at hgoes
      cases hgoes with
      | results => exact hpeer
      | answering => exact hpeer.trans (htold (Or.inl rfl))
      | iperfDone state =>
        rcases hx with hx | hx | ⟨-, hx⟩
        · cases hx
        · cases hx
        · rw [hx] at hserved
          obtain rfl := hserved.displays
          exact hpeer.trans (htold (Or.inr (Or.inl rfl)))
      | _ => rcases hx with hx | hx | ⟨hx, -⟩ <;> cases hx

end results

section runs

theorem inv_step (hinjective : Function.Injective u.cookie) (e : Event) (h : Inv u sys)
    (hstep : step u sys e = some sys') : Inv u sys' := by
  cases e with
  | dial j => exact h.dial hstep
  | sendCookie j => exact h.sendCookie hstep
  | receive j => exact h.receive hstep
  | dialStream j => exact h.dialStream hstep
  | sendStreamCookie j => exact h.sendStreamCookie hstep
  | finish j => exact h.finish hstep
  | stop j => exact h.stop hstep
  | reset j => exact h.reset hstep
  | accept => exact h.accept hstep
  | serve => exact h.serve hinjective hstep

theorem told_idle : Told u (idleSystem : System B) where
  client j hj := by rcases hj with hj | hj <;> cases hj
  server i hctrl := by cases hctrl

/-- A client goes on to a state that does not follow the results. -/
theorem Told.setClientPc {pc : ClientPc} (h : Told u sys) (hserver : sys'.server = sys.server)
    (hclient : sys'.client = (setClientPc sys j pc).client)
    (hresults : pc ≠ .select .exchangeResults) (hdone : pc ≠ .done) :
    Told u sys' := by
  have hself : sys'.client j = ⟨pc, (sys.client j).peerResults⟩ := by
    rw [hclient, client_setClientPc, if_pos rfl]
  refine h.ofClient hserver (fun x hx => ?_) (by rw [hself]; exact hresults)
    (by rw [hself]; exact hdone)
  rw [hclient, client_setClientPc, if_neg hx]

theorem createFrom_ne (request : Request) (k : ℕ) :
    createFrom request k ≠ .select .exchangeResults ∧ createFrom request k ≠ .done := by
  unfold createFrom
  split_ifs <;> exact ⟨by simp, by simp⟩

theorem told_step (hinjective : Function.Injective u.cookie) (e : Event) (hinv : Inv u sys)
    (h : Told u sys) (hstep : step u sys e = some sys') : Told u sys' := by
  cases e with
  | dial j =>
    rw [step] at hstep
    split_ifs at hstep
    cases hstep
    exact h.setClientPc rfl rfl (by simp) (by simp)
  | sendCookie j =>
    rw [step] at hstep
    split_ifs at hstep
    cases hstep
    exact h.setClientPc rfl rfl (by simp) (by simp)
  | receive j => exact h.receive hinv hstep
  | dialStream j =>
    rw [step] at hstep
    split at hstep <;> cases hstep
    exact h.setClientPc rfl rfl (by simp) (by simp)
  | sendStreamCookie j =>
    rw [step] at hstep
    split at hstep <;> cases hstep
    exact h.setClientPc rfl rfl (createFrom_ne _ _).1 (createFrom_ne _ _).2
  | finish j =>
    rw [step] at hstep
    split_ifs at hstep
    cases hstep
    exact h.setClientPc rfl rfl (by simp) (by simp)
  | stop j =>
    rw [step] at hstep
    split_ifs at hstep
    cases hstep
    exact h.setClientPc rfl rfl (by simp) (by simp)
  | reset j =>
    rw [step] at hstep
    split_ifs at hstep
    cases hstep
    exact h.setClientPc rfl rfl (by simp) (by simp)
  | accept => exact h.accept hstep
  | serve => exact h.serve hinjective hinv hstep

/-- What a server comes to with any clients, in any order of their steps. -/
inductive Reached (u : Setup B) : System B → Prop where
  | idle : Reached u idleSystem
  | step {sys sys' : System B} (e : Event) (h : Reached u sys) (hstep : step u sys e = some sys') :
      Reached u sys'

/-- The state after a list of steps, when all of them are possible. -/
def run (u : Setup B) (sys : System B) : List Event → Option (System B)
  | [] => some sys
  | e :: events => (step u sys e).bind (run u · events)

theorem Reached.run (h : Reached u sys) (events : List Event)
    (hrun : run u sys events = some sys') : Reached u sys' := by
  induction events generalizing sys with
  | nil =>
    cases hrun
    exact h
  | cons e events ih =>
    obtain ⟨next, hstep, hrest⟩ := Option.bind_eq_some_iff.mp hrun
    exact ih (h.step e hstep) hrest

/-- Two clients that come at the same time and want a stream in each direction. -/
def twoClients : Setup ℕ := ⟨id, fun _ => ⟨.bidirectional, 1, true⟩, id, (·+10)⟩

/-- The first of them is served to the end; the second one loses its connection when the server
listens anew. -/
def wholeTest : List Event :=
    [.dial 0, .dial 1, .sendCookie 0, .accept, .serve, .receive 0, .sendCookie 1, .serve,
  .receive 0, .dialStream 0, .sendStreamCookie 0, .dialStream 0, .accept, .serve,
    .sendStreamCookie 0, .accept, .serve, .serve,
  .receive 0, .receive 0, .finish 0, .serve, .receive 0, .serve, .serve, .receive 0, .receive 0,
    .serve]

/-- The first of them is stopped when it has just told the server that the test is over. -/
def stoppedTest : List Event := wholeTest.take 21 ++ [.stop 0, .serve]

def afterTest (events : List Event) : System ℕ :=
  (IperfControl.run twoClients idleSystem events).getD idleSystem

theorem reached_wholeTest : Reached twoClients (afterTest wholeTest) :=
  Reached.idle.run wholeTest rfl

theorem reached_stoppedTest : Reached twoClients (afterTest stoppedTest) :=
  Reached.idle.run stoppedTest rfl

theorem reached_inv (hinjective : Function.Injective u.cookie) (h : Reached u sys) :
    Inv u sys ∧ Told u sys := by
  induction h with
  | idle => exact ⟨inv_idle, told_idle⟩
  | step e _ hstep ih => exact ⟨inv_step hinjective e ih.1 hstep,
      told_step hinjective e ih.1 ih.2 hstep⟩

/-- A client that the server does not serve is at most denied. -/
theorem Other.denied {waiting : Prop} {pc : ClientPc} {toServer toClient : List (Item B)}
    (h : Other u j waiting pc toServer toClient) :
    (pc = .idle ∨ pc = .dialled ∨ pc = .select .initial ∨ pc = .stopped (.select .initial) ∨
      pc = .error) ∧ (toClient = [] ∨ toClient = [.state .accessDenied]) := by
  cases h with
  | idle => exact ⟨Or.inl rfl, Or.inl rfl⟩
  | dialled => exact ⟨Or.inr (Or.inl rfl), Or.inl rfl⟩
  | initial => exact ⟨Or.inr (Or.inr (Or.inl rfl)), Or.inl rfl⟩
  | stopped => exact ⟨Or.inr (Or.inr (Or.inr (Or.inl rfl))), Or.inl rfl⟩
  | refused _ hpc hclient => exact ⟨Or.inr hpc, hclient⟩

theorem Served.ne_error {spc : ServerPc} {toServer toClient : List (Item B)} :
    ¬Served u i spc .error toServer toClient a d w := by
  intro h
  cases h with
  | talking client => cases client

theorem Served.ends {pc : ClientPc} {toServer toClient : List (Item B)}
    (h : Served u i .done pc toServer toClient a d w) (hgoing : ∀ before, pc ≠ .stopped before) :
    pc = .done ∧ a = (roles (u.request i)).length := by
  cases h with
  | talking client server hr hrs =>
    cases server
    refine ⟨?_, rfl⟩
    cases client <;> first | rfl | omega
  | stopped _ _ server => exact absurd rfl (hgoing _)
  | ended => exact absurd rfl (hgoing _)

/-- A client that was stopped has left a byte behind what it has written, which the server takes for
the parameters if it has not had them. -/
theorem Served.stopped_initial {spc : ServerPc} {toServer toClient : List (Item B)}
    (h : Served u i spc (.stopped (.select .initial)) toServer toClient a d w) :
    spc = .error ∨ (spc = .readCookie ∨ spc = .readParams) ∧ toServer ≠ [] := by
  cases h with
  | talking client => cases client
  | stopped client hpc server hr hrs =>
    refine Or.inr ⟨?_, List.append_ne_nil_of_right_ne_nil _ (List.cons_ne_nil _ _)⟩
    cases client
    cases server with
    | readCookie => exact Or.inl rfl
    | readParams => exact Or.inr rfl
    | _ => omega
  | ended client hpc hn =>
    cases client
    omega
  | misread => exact Or.inl rfl

/-- And for the results, if the test is over and it has not had them. -/
theorem Served.stopped_testEnd {spc : ServerPc} {toServer toClient : List (Item B)}
    (h : Served u i spc (.stopped (.select .testEnd)) toServer toClient a d w) :
    spc = .error ∨ (spc = .select .testRunning ∨ spc = .readResults) ∧ toServer ≠ [] := by
  cases h with
  | talking client => cases client
  | stopped client hpc server hr hrs =>
    refine Or.inr ⟨?_, List.append_ne_nil_of_right_ne_nil _ (List.cons_ne_nil _ _)⟩
    cases client
    cases server with
    | testRunning => exact Or.inl rfl
    | readResults => exact Or.inr rfl
    | _ => omega
  | ended client hpc hn =>
    cases client
    omega
  | misread => exact Or.inl rfl

theorem Served.stopped_of_error {pc : ClientPc} {toServer toClient : List (Item B)}
    (h : Served u i .error pc toServer toClient a d w) : ∃ before, pc = .stopped before := by
  cases h with
  | talking client server => cases server
  | stopped => exact ⟨_, rfl⟩
  | misread => exact ⟨_, rfl⟩

theorem readControl_ne_none {f : System B → Item B → System B}
    (hctrl : sys.server.ctrl = some (.control i))
    (h : (sys.conn (.control i)).toServer ≠ []) : readControl sys f ≠ none := by
  obtain ⟨m, rest, htoServer⟩ := List.exists_cons_of_ne_nil h
  simp only [readControl, hctrl, readFrom, htoServer]
  exact Option.some_ne_none _

end runs

end IperfControl

end MmWaveTracker
