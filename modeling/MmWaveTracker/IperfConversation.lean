import MmWaveTracker.IperfControl
import MmWaveTracker.ScriptQueue

/-! What the server and the client that it serves say to each other, step by step. -/
namespace MmWaveTracker

namespace IperfControl

open ScriptQueue

variable {B : Type} (u : Setup B) (i : ℕ)

section scripts

def serverScript : List (Item B) :=
  [.state .paramExchange, .state .createStreams, .state .testStart, .state .testRunning,
    .state .exchangeResults, .results (u.answer (u.results i)), .state .displayResults]

def clientScript : List (Item B) :=
  [.cookie (u.cookie i), .params (u.request i), .state .testEnd, .results (u.results i),
    .state .iperfDone]

/-- How far a client is: it has written `n` items and read `r`, has dialled `d` streams and sent the
cookie on `w` of them. -/
inductive ClientAt (total : ℕ) : ClientPc → ℕ → ℕ → ℕ → ℕ → Prop where
  | dialled : ClientAt total .dialled 0 0 0 0
  | initial : ClientAt total (.select .initial) 1 0 0 0
  | paramExchange : ClientAt total (.select .paramExchange) 2 1 0 0
  | create (k : ℕ) (h : k < total) : ClientAt total (.create k) 2 2 k k
  | cookieDue (k : ℕ) (h : k < total) : ClientAt total (.cookieDue k) 2 2 (k+1) k
  | createStreams : ClientAt total (.select .createStreams) 2 2 total total
  | testStart : ClientAt total (.select .testStart) 2 3 total total
  | testRunning : ClientAt total (.select .testRunning) 2 4 total total
  | testEnd : ClientAt total (.select .testEnd) 3 4 total total
  | readResults : ClientAt total .readResults 4 5 total total
  | exchangeResults : ClientAt total (.select .exchangeResults) 4 6 total total
  | done : ClientAt total .done 5 7 total total

/-- How far the server is with its client: it has written `n` items and read `r`, and has accepted
`a` streams. -/
inductive ServerAt (total : ℕ) : ServerPc → ℕ → ℕ → ℕ → Prop where
  | readCookie : ServerAt total .readCookie 0 0 0
  | readParams : ServerAt total .readParams 1 1 0
  | createStreams (a : ℕ) (h : a < total) : ServerAt total (.select .createStreams) 2 2 a
  | readStreamCookie (id : ConnId) (a : ℕ) (h : a < total) :
      ServerAt total (.readStreamCookie id) 2 2 a
  | starting : ServerAt total .starting 3 2 total
  | testRunning : ServerAt total (.select .testRunning) 4 2 total
  | readResults : ServerAt total .readResults 5 3 total
  | answering : ServerAt total .answering 6 4 total
  | displayResults : ServerAt total (.select .displayResults) 7 4 total
  | done : ServerAt total .done 7 5 total

/-- The conversation of the server with the client `i`: as the scripts say, or until the client was
stopped. -/
inductive Served : ServerPc → ClientPc → List (Item B) → List (Item B) → ℕ → ℕ → ℕ → Prop where
  | talking {spc : ServerPc} {pc : ClientPc} {n r d w ns rs a : ℕ}
      (client : ClientAt (roles (u.request i)).length pc n r d w)
      (server : ServerAt (roles (u.request i)).length spc ns rs a) (hr : r ≤ ns) (hrs : rs ≤ n) :
      Served spc pc (window (clientScript u i) rs n) (window (serverScript u i) r ns) a d w
  | stopped {spc : ServerPc} {pc : ClientPc} {n r d w ns rs a : ℕ}
      (client : ClientAt (roles (u.request i)).length pc n r d w) (hpc : stoppable pc = true)
      (server : ServerAt (roles (u.request i)).length spc ns rs a) (hr : r ≤ ns) (hrs : rs ≤ n)
        (toClient : List (Item B)) :
      Served spc (.stopped pc)
        (window (clientScript u i) rs n ++ [.state .iperfDone]) toClient a d w
  | ended {pc : ClientPc} {n r d w a : ℕ}
      (client : ClientAt (roles (u.request i)).length pc n r d w)
      (hpc : stoppable pc = true) (hn : n = 2 ∨ n = 4) (ha : a ≤ (roles (u.request i)).length)
        (toClient : List (Item B)) :
      Served .done (.stopped pc) [] toClient a d w
  | misread {pc : ClientPc} {n r d w a : ℕ}
      (client : ClientAt (roles (u.request i)).length pc n r d w)
      (hpc : stoppable pc = true) (hn : n = 1 ∨ n = 3) (ha : a ≤ (roles (u.request i)).length)
        (toClient : List (Item B)) :
      Served .error (.stopped pc) [] toClient a d w

end scripts

section client

variable {u i} {spc : ServerPc} {pc : ClientPc} {toServer toClient rest : List (Item B)} {a d w : ℕ}
    {m : Item B}

theorem clientAt_createFrom (request : Request) (k : ℕ) (hk : k ≤ (roles request).length) :
    ClientAt (roles request).length (createFrom request k) 2 2 k k := by
  unfold createFrom
  split_ifs with hlt
  · exact .create k hlt
  · obtain rfl : k = (roles request).length := by omega
    exact .createStreams

/-- The client sends its cookie. -/
theorem Served.sendCookie (h : Served u i spc .dialled toServer toClient a d w) :
    Served u i spc (.select .initial) (toServer ++ [.cookie (u.cookie i)]) toClient a d w := by
  cases h with
  | talking client server hr hrs =>
    cases client
    rw [window_append hrs rfl]
    exact .talking .initial server hr (Nat.le_succ_of_le hrs)

/-- What `iperf_handle_message_client` makes of an item: where the client goes on and what it
writes. -/
def clientHandles (u : Setup B) (i : ℕ) : Item B → ClientPc × List (Item B)
  | .state .paramExchange => (.select .paramExchange, [.params (u.request i)])
  | .state .createStreams => (createFrom (u.request i) 0, [])
  | .state .testStart => (.select .testStart, [])
  | .state .testRunning => (.select .testRunning, [])
  | .state .exchangeResults => (.readResults, [.results (u.results i)])
  | .state .displayResults => (.done, [.state .iperfDone])
  | .state .iperfDone => (.done, [])
  | _ => (.error, [])

/-- A client that is served is only told what it can handle. -/
theorem Served.receive {state : State}
    (h : Served u i spc (.select state) toServer (m :: rest) a d w) :
    Served u i spc (clientHandles u i m).1 (toServer ++ (clientHandles u i m).2) rest a d w := by
  generalize htold : m :: rest = told at h
  cases h with
  | talking client server hr hrs =>
    obtain ⟨hm, rfl, hlt⟩ := window_eq_cons htold.symm
    cases client with
    | initial =>
      cases hm
      rw [clientHandles, window_append hrs rfl]
      exact .talking .paramExchange server hlt (Nat.le_succ_of_le hrs)
    | paramExchange =>
      cases hm
      rw [clientHandles, List.append_nil]
      exact .talking (clientAt_createFrom (u.request i) 0 (Nat.zero_le _)) server hlt hrs
    | createStreams =>
      cases hm
      rw [clientHandles, List.append_nil]
      exact .talking .testStart server hlt hrs
    | testStart =>
      cases hm
      rw [clientHandles, List.append_nil]
      exact .talking .testRunning server hlt hrs
    | testRunning =>
      cases server <;> omega
    | testEnd =>
      cases hm
      rw [clientHandles, window_append hrs rfl]
      exact .talking .readResults server hlt (Nat.le_succ_of_le hrs)
    | exchangeResults =>
      cases hm
      rw [clientHandles, window_append hrs rfl]
      exact .talking .done server hlt (Nat.le_succ_of_le hrs)

theorem Served.getResults (h : Served u i spc .readResults toServer (m :: rest) a d w) :
    m = .results (u.answer (u.results i)) ∧
      Served u i spc (.select .exchangeResults) toServer rest a d w := by
  generalize htold : m :: rest = told at h
  cases h with
  | talking client server hr hrs =>
    obtain ⟨hm, rfl, hlt⟩ := window_eq_cons htold.symm
    cases client
    cases hm
    exact ⟨rfl, .talking .exchangeResults server hlt hrs⟩

theorem Served.finish (h : Served u i spc (.select .testRunning) toServer toClient a d w) :
    Served u i spc (.select .testEnd) (toServer ++ [.state .testEnd]) toClient a d w := by
  cases h with
  | talking client server hr hrs =>
    cases client
    rw [window_append hrs rfl]
    exact .talking .testEnd server hr (Nat.le_succ_of_le hrs)

theorem Served.dialStream {k : ℕ} (h : Served u i spc (.create k) toServer toClient a d w) :
    d = k ∧ w = k ∧ k < (roles (u.request i)).length ∧
      Served u i spc (.cookieDue k) toServer toClient a (k+1) k := by
  cases h with
  | talking client server hr hrs =>
    cases client with
    | create _ hk => exact ⟨rfl, rfl, hk, .talking (.cookieDue _ hk) server hr hrs⟩

theorem Served.sendStreamCookie {k : ℕ}
    (h : Served u i spc (.cookieDue k) toServer toClient a d w) :
    d = k+1 ∧ w = k ∧ Served u i spc (createFrom (u.request i) (k+1)) toServer toClient a (k+1)
      (k+1) := by
  cases h with
  | talking client server hr hrs =>
    cases client with
    | cookieDue _ hk => exact ⟨rfl, rfl, .talking (clientAt_createFrom _ _ hk) server hr hrs⟩

theorem Served.stop (h : Served u i spc pc toServer toClient a d w) (hpc : stoppable pc = true) :
    Served u i spc (.stopped pc) (toServer ++ [.state .iperfDone]) toClient a d w := by
  cases h with
  | talking client server hr hrs => exact .stopped client hpc server hr hrs _
  | stopped => cases hpc
  | ended => cases hpc
  | misread => cases hpc

end client

section server

variable {u i} {spc : ServerPc} {pc : ClientPc} {toServer toClient rest : List (Item B)} {a d w : ℕ}
    {m : Item B}

/-- What is read of a client that was stopped: the rest of its script, and then that it is done. -/
theorem window_stopped {n rs : ℕ} {x : Item B}
    (h : m :: rest = window (clientScript u i) rs n ++ [x]) :
    ((clientScript u i)[rs]? = some m ∧ rest = window (clientScript u i) (rs+1) n ++ [x] ∧ rs < n) ∨
      (window (clientScript u i) rs n = [] ∧ m = x ∧ rest = []) := by
  cases hwindow : window (clientScript u i) rs n with
  | nil =>
    rw [hwindow] at h
    cases h
    exact Or.inr ⟨rfl, rfl, rfl⟩
  | cons y ys =>
    rw [hwindow] at h
    cases h
    obtain ⟨hm, hrest, hlt⟩ := window_eq_cons hwindow
    exact Or.inl ⟨hm, by rw [hrest]; rfl, hlt⟩

/-- A client that has written `n` items and of which all but the last were read has nothing left. -/
theorem le_of_window_nil {total n r rs : ℕ} (client : ClientAt total pc n r d w)
    (h : window (clientScript u i) rs n = []) : n ≤ rs := by
  by_contra hlt
  have hn : n ≤ (clientScript u i).length := by
    show n ≤ 5
    cases client <;> decide
  exact window_ne_nil (not_le.mp hlt) hn h

theorem Served.readCookie (h : Served u i .readCookie pc (m :: rest) toClient a d w) :
    m = .cookie (u.cookie i) ∧ a = 0 ∧
      Served u i .readParams pc rest (toClient ++ [.state .paramExchange]) 0 d w := by
  generalize hwritten : m :: rest = written at h
  cases h with
  | talking client server hr hrs =>
    cases server
    obtain ⟨hm, rfl, hlt⟩ := window_eq_cons hwritten.symm
    cases hm
    rw [window_append hr rfl]
    exact ⟨rfl, rfl, .talking client .readParams (Nat.le_succ_of_le hr) hlt⟩
  | stopped client hpc server hr hrs =>
    cases server
    rcases window_stopped hwritten with ⟨hm, rfl, hlt⟩ | ⟨hnil, -, -⟩
    · cases hm
      exact ⟨rfl, rfl, .stopped client hpc .readParams (Nat.le_succ_of_le hr) hlt _⟩
    · have := le_of_window_nil client hnil
      cases client <;> first | omega | cases hpc

/-- The server reads the parameters, or the end of a client that was stopped before it had written
them. -/
theorem Served.readParams (h : Served u i .readParams pc (m :: rest) toClient a d w) :
    a = 0 ∧ d = 0 ∧ w = 0 ∧
      ((m = .params (u.request i) ∧
          ((roles (u.request i)).length = 0 →
            Served u i .starting pc rest (toClient ++ [.state .createStreams] ++
              [.state .testStart]) 0 d w) ∧
          (0 < (roles (u.request i)).length →
            Served u i (.select .createStreams) pc rest (toClient ++
              [.state .createStreams]) 0 d w)) ∨
        (m = .state .iperfDone ∧ Served u i .error pc rest toClient a d w)) := by
  generalize hwritten : m :: rest = written at h
  cases h with
  | talking client server hr hrs =>
    cases server
    have hstreams : d = 0 ∧ w = 0 := by cases client <;> first | exact ⟨rfl, rfl⟩ | omega
    obtain ⟨hm, rfl, hlt⟩ := window_eq_cons hwritten.symm
    cases hm
    refine ⟨rfl, hstreams.1, hstreams.2, Or.inl ⟨rfl, fun htotal => ?_, fun htotal => ?_⟩⟩
    · rw [window_append hr rfl, window_append (Nat.le_succ_of_le hr) rfl]
      have hserver : ServerAt (roles (u.request i)).length .starting 3 2
          (roles (u.request i)).length := .starting
      rw [htotal] at hserver
      exact .talking client (by rw [htotal]; exact hserver) (by omega) hlt
    · rw [window_append hr rfl]
      exact .talking client (.createStreams 0 htotal) (by omega) hlt
  | stopped client hpc server hr hrs =>
    cases server
    have hstreams : d = 0 ∧ w = 0 := by cases client <;> first | exact ⟨rfl, rfl⟩ | omega
    refine ⟨rfl, hstreams.1, hstreams.2, ?_⟩
    rcases window_stopped hwritten with ⟨hm, rfl, hlt⟩ | ⟨hnil, rfl, rfl⟩
    · cases hm
      refine Or.inl ⟨rfl, fun htotal => ?_, fun htotal => ?_⟩
      · have hserver : ServerAt (roles (u.request i)).length .starting 3 2
            (roles (u.request i)).length := .starting
        rw [htotal] at hserver
        exact .stopped client hpc (by rw [htotal]; exact hserver) (by omega) hlt _
      · exact .stopped client hpc (.createStreams 0 htotal) (by omega) hlt _
    · have hn := le_of_window_nil client hnil
      exact Or.inr ⟨rfl, .misread client hpc (Or.inl (by omega)) (Nat.zero_le _) _⟩

theorem Served.acceptStream (id : ConnId)
    (h : Served u i (.select .createStreams) pc toServer toClient a d w) :
    Served u i (.readStreamCookie id) pc toServer toClient a d w := by
  cases h with
  | talking client server hr hrs =>
    cases server with
    | createStreams a ha => exact .talking client (.readStreamCookie id a ha) hr hrs
  | stopped client hpc server hr hrs =>
    cases server with
    | createStreams a ha => exact .stopped client hpc (.readStreamCookie id a ha) hr hrs _

/-- The connection turns out to be a stream of the client, perhaps the last one, or to be someone
else's. -/
theorem Served.readStreamCookie {id : ConnId}
    (h : Served u i (.readStreamCookie id) pc toServer toClient a d w) :
    a < (roles (u.request i)).length ∧
      Served u i (.select .createStreams) pc toServer toClient a d w ∧
      (a+1 < (roles (u.request i)).length →
        Served u i (.select .createStreams) pc toServer toClient (a+1) d w) ∧
      (a+1 = (roles (u.request i)).length →
        Served u i .starting pc toServer (toClient ++ [.state .testStart]) (a+1) d w) := by
  cases h with
  | talking client server hr hrs =>
    cases server with
    | readStreamCookie _ a ha =>
      refine ⟨ha, .talking client (.createStreams a ha) hr hrs, fun hnext =>
        .talking client (.createStreams (a+1) hnext) hr hrs,
        fun htotal => ?_⟩
      rw [window_append hr rfl, htotal]
      exact .talking client .starting (Nat.le_succ_of_le hr) hrs
  | stopped client hpc server hr hrs =>
    cases server with
    | readStreamCookie _ a ha =>
      refine ⟨ha, .stopped client hpc (.createStreams a ha) hr hrs _,
        fun hnext => .stopped client hpc (.createStreams (a+1) hnext) hr hrs _, fun htotal => ?_⟩
      rw [htotal]
      exact .stopped client hpc .starting (Nat.le_succ_of_le hr) hrs _

theorem Served.starting (h : Served u i .starting pc toServer toClient a d w) :
    Served u i (.select .testRunning) pc toServer (toClient ++ [.state .testRunning]) a d w := by
  cases h with
  | talking client server hr hrs =>
    cases server
    rw [window_append hr rfl]
    exact .talking client .testRunning (Nat.le_succ_of_le hr) hrs
  | stopped client hpc server hr hrs =>
    cases server
    exact .stopped client hpc .testRunning (Nat.le_succ_of_le hr) hrs _

/-- In `select` the server only reads that the test is over, while it runs, or that the client is
done. -/
theorem Served.select {state : State}
    (h : Served u i (.select state) pc (m :: rest) toClient a d w) :
    (m = .state .testEnd ∧ state = .testRunning ∧
        Served u i .readResults pc rest (toClient ++ [.state .exchangeResults]) a d w) ∨
      (m = .state .iperfDone ∧ Served u i .done pc rest toClient a d w) := by
  generalize hwritten : m :: rest = written at h
  cases h with
  | talking client server hr hrs =>
    obtain ⟨hm, rfl, hlt⟩ := window_eq_cons hwritten.symm
    cases server with
    | createStreams a ha =>
      cases client <;> omega
    | testRunning =>
      cases hm
      rw [window_append hr rfl]
      exact Or.inl ⟨rfl, rfl, .talking client .readResults (Nat.le_succ_of_le hr) hlt⟩
    | displayResults =>
      cases hm
      exact Or.inr ⟨rfl, .talking client .done hr hlt⟩
  | stopped client hpc server hr hrs =>
    rcases window_stopped hwritten with ⟨hm, rfl, hlt⟩ | ⟨hnil, rfl, rfl⟩
    · cases server with
      | createStreams a ha => cases client <;> omega
      | testRunning =>
        cases hm
        exact Or.inl ⟨rfl, rfl, .stopped client hpc .readResults (Nat.le_succ_of_le hr) hlt _⟩
      | displayResults => cases client <;> first | omega | cases hpc
    · have hn := le_of_window_nil client hnil
      refine Or.inr ⟨rfl, ?_⟩
      cases server with
      | createStreams a ha => exact .ended client hpc (Or.inl (by omega)) ha.le _
      | testRunning => exact .ended client hpc (Or.inl (by omega)) le_rfl _
      | displayResults => exact .ended client hpc (Or.inr (by omega)) le_rfl _

/-- The server reads the results, or the end of a client that was stopped before it had written
them. -/
theorem Served.readResults (h : Served u i .readResults pc (m :: rest) toClient a d w) :
    (m = .results (u.results i) ∧
        Served u i .answering pc rest (toClient ++ [.results (u.answer (u.results i))]) a d w) ∨
      (m = .state .iperfDone ∧ Served u i .error pc rest toClient a d w) := by
  generalize hwritten : m :: rest = written at h
  cases h with
  | talking client server hr hrs =>
    cases server
    obtain ⟨hm, rfl, hlt⟩ := window_eq_cons hwritten.symm
    cases hm
    rw [window_append hr rfl]
    exact Or.inl ⟨rfl, .talking client .answering (Nat.le_succ_of_le hr) hlt⟩
  | stopped client hpc server hr hrs =>
    cases server
    rcases window_stopped hwritten with ⟨hm, rfl, hlt⟩ | ⟨hnil, rfl, rfl⟩
    · cases hm
      exact Or.inl ⟨rfl, .stopped client hpc .answering (Nat.le_succ_of_le hr) hlt _⟩
    · have hn := le_of_window_nil client hnil
      exact Or.inr ⟨rfl, .misread client hpc (Or.inr (by omega)) le_rfl _⟩

theorem Served.answering (h : Served u i .answering pc toServer toClient a d w) :
    Served u i (.select .displayResults) pc toServer (toClient ++ [.state .displayResults]) a d w :=
      by
  cases h with
  | talking client server hr hrs =>
    cases server
    rw [window_append hr rfl]
    exact .talking client .displayResults (Nat.le_succ_of_le hr) hrs
  | stopped client hpc server hr hrs =>
    cases server
    exact .stopped client hpc .displayResults (Nat.le_succ_of_le hr) hrs _

end server

end IperfControl

end MmWaveTracker
