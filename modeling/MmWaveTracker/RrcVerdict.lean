import MmWaveTracker.RrcReply
import Mathlib.Data.Int.Order.Basic
import Mathlib.Order.MinMax

/-! The verdicts of the RRC probe over a whole run, as the bytes of its replies say them. -/
namespace MmWaveTracker

open CString

/-- The datagrams that are not empty. -/
def nonempty (rounds : List Round) : List Round := rounds.filter fun r => r.recv.payload ≠ []

/-- The counters before each turn: those after the reply before. -/
def baselines (start : PacketCounters) (rounds : List Round) : List PacketCounters :=
  start :: rounds.map (·.next)

/-- A verdict on the number `s`, after the numbers `earlier`. -/
def GoodVerdict (earlier : List ℤ) (s : ℤ) (before after : PacketCounters) : Prop :=
  (-1 < s ∧ ∀ t ∈ earlier, t < s) ∧ OnePacket before after

/-- The invariant: one number and one reply for each datagram that is not empty. -/
structure Answered (start : PacketCounters) (rounds : List Round) (c : RrcClient) : Prop where
  seqs : c.seqs.length = (nonempty rounds).length
  replies : c.replies.length = (nonempty rounds).length
  seq_now : c.seq_now = c.seqs.foldl max (-1)
  baseline : (baselines start (nonempty rounds))[(nonempty rounds).length]? = some c.before
  verdict : ∀ (k : ℕ) r s before reply, (nonempty rounds)[k]? = some r → c.seqs[k]? = some s →
    (baselines start (nonempty rounds))[k]? = some before → c.replies[k]? = some reply →
    (reply.verdict = .yep ↔ GoodVerdict (c.seqs.take k) s before r.after) ∧
    reply.bytes = str (echo r.recv.payload.length s r.netType reply.verdict)

section Answered

variable {start : PacketCounters} {c c' : RrcClient}

/-- Greater than the running maximum is greater than all before. -/
theorem foldl_max_lt_iff (l : List ℤ) (a s : ℤ) : l.foldl max a < s ↔ a < s ∧ ∀ t ∈ l, t < s := by
  induction l generalizing a with
  | nil => simp
  | cons t l ih =>
    rw [List.foldl_cons, ih, max_lt_iff, List.forall_mem_cons, and_assoc]

theorem verdictOf_eq_yep_iff (seq_recv : ℤ) (after : PacketCounters)
    (h : c.seq_now = c.seqs.foldl max (-1)) : verdictOf c seq_recv after = .yep ↔
      GoodVerdict c.seqs seq_recv c.before after := by
  rw [GoodVerdict, ← foldl_max_lt_iff, ← h, verdictOf]
  split_ifs with hgood
  · exact iff_of_true rfl ⟨hgood.2, hgood.1⟩
  · exact iff_of_false (by simp) fun h => hgood ⟨h.2, h.1⟩

theorem baselines_append (rounds : List Round) (r : Round) :
    baselines start (rounds ++ [r]) = baselines start rounds ++ [r.next] := by
  rw [baselines, List.map_append, ← List.cons_append]
  rfl

theorem length_baselines (rounds : List Round) :
    (baselines start rounds).length = rounds.length+1 := by
  rw [baselines, List.length_cons, List.length_map]

/-- A turn with a reply. -/
theorem Answered.extend {rounds : List Round} (h : Answered start rounds c) (r : Round)
    (hne : r.recv.payload ≠ []) (seq_recv : ℤ) (reply : Reply)
    (hseqs : c'.seqs = c.seqs ++ [seq_recv]) (hreplies : c'.replies = c.replies ++ [reply])
    (hnow : c'.seq_now = max c.seq_now seq_recv) (hbefore : c'.before = r.next)
    (hverdict : reply.verdict = .yep ↔ GoodVerdict c.seqs seq_recv c.before r.after)
    (hbytes : reply.bytes = str (echo r.recv.payload.length seq_recv r.netType reply.verdict)) :
    Answered start (rounds ++ [r]) c' := by
  have hnonempty : nonempty (rounds ++ [r]) = nonempty rounds ++ [r] := by
    rw [nonempty, List.filter_append, List.filter_cons_of_pos (by simpa using hne)]
    rfl
  have hcount := h.seqs
  have hcount' := h.replies
  constructor
  · rw [hnonempty, hseqs, List.length_append, List.length_append, hcount]
    rfl
  · rw [hnonempty, hreplies, List.length_append, List.length_append, hcount']
    rfl
  · rw [hnow, hseqs, List.foldl_append, ← h.seq_now]
    rfl
  · rw [hnonempty, baselines_append, List.length_append,
      List.getElem?_append_right (by rw [length_baselines]; rfl),
      length_baselines, hbefore]
    simp
  · intro k r' s before reply' hr hs hb hreply
    rw [hnonempty] at hr hb
    rw [baselines_append] at hb
    rw [hseqs] at hs ⊢
    rw [hreplies] at hreply
    by_cases hk : k < (nonempty rounds).length
    · rw [List.getElem?_append_left hk] at hr
      rw [List.getElem?_append_left (by omega)] at hs
      rw [List.getElem?_append_left (by rw [length_baselines]; omega)] at hb
      rw [List.getElem?_append_left (by omega)] at hreply
      rw [List.take_append_of_le_length (by omega)]
      exact h.verdict k r' s before reply' hr hs hb hreply
    · have hk' : k = (nonempty rounds).length := by
        have hlt := (List.getElem?_eq_some_iff.mp hr).choose
        rw [List.length_append, List.length_singleton] at hlt
        omega
      subst hk'
      rw [List.getElem?_append_right le_rfl, Nat.sub_self] at hr
      rw [List.getElem?_append_right (le_of_eq hcount), hcount, Nat.sub_self] at hs
      rw [List.getElem?_append_left (by rw [length_baselines]; omega), h.baseline] at hb
      rw [List.getElem?_append_right (le_of_eq hcount'), hcount', Nat.sub_self] at hreply
      obtain rfl : r = r' := Option.some.inj hr
      obtain rfl : seq_recv = s := Option.some.inj hs
      obtain rfl : c.before = before := Option.some.inj hb
      obtain rfl : reply = reply' := Option.some.inj hreply
      rw [List.take_append_of_le_length (le_of_eq hcount.symm),
        List.take_of_length_le (le_of_eq hcount)]
      exact ⟨hverdict, hbytes⟩

/-- A turn that ends the loop without a reply. -/
theorem Answered.skip {rounds : List Round} (h : Answered start rounds c) (r : Round)
    (hempty : r.recv.payload = []) (hseqs : c'.seqs = c.seqs) (hreplies : c'.replies = c.replies)
    (hnow : c'.seq_now = c.seq_now)
    (hbefore : c'.before = c.before) : Answered start (rounds ++ [r]) c' := by
  have hnonempty : nonempty (rounds ++ [r]) = nonempty rounds := by
    rw [nonempty, List.filter_append, List.filter_cons_of_neg (by simpa using hempty),
      List.filter_nil, List.append_nil]
    rfl
  obtain ⟨h₁, h₂, h₃, h₄, h₅⟩ := h
  rw [← hnonempty, ← hseqs] at h₁
  rw [← hnonempty, ← hreplies] at h₂
  rw [← hseqs, ← hnow] at h₃
  rw [← hnonempty, ← hbefore] at h₄
  rw [← hnonempty, ← hseqs, ← hreplies] at h₅
  exact ⟨h₁, h₂, h₃, h₄, h₅⟩

theorem answered_step (rounds : List Round) (r : Round) (hsent : r.sent = true)
    (hstep : rrcStep c r = some c') (h : Answered start rounds c) :
    Answered start (rounds ++ [r]) c' := by
  have hrunning := running_of_rrcStep c c' r hstep
  by_cases hempty : r.recv.payload = []
  · rw [rrcStep, if_pos hrunning] at hstep
    cases hrecv : r.recv with
    | failed =>
      rw [hrecv] at hstep
      cases hstep
      exact h.skip r hempty rfl rfl rfl rfl
    | datagram payload hlt =>
      rw [hrecv] at hstep hempty
      have hlen : payload.length = 0 := List.length_eq_zero_iff.mpr hempty
      simp only [hlen, if_true] at hstep
      cases hstep
      exact h.skip r (by rw [hrecv]; exact hempty) rfl rfl rfl rfl
  · rw [rrcStep_answer c r hempty hrunning] at hstep
    rw [answer_sent _ r _ _ hsent] at hstep
    obtain rfl := Option.some.inj hstep
    refine h.extend r hempty _ _ rfl rfl ?_ rfl ?_ (by dsimp only)
    · dsimp only
      split_ifs with hgt
      · exact (max_eq_right (le_of_lt hgt)).symm
      · exact (max_eq_left (not_lt.mp hgt)).symm
    · exact verdictOf_eq_yep_iff _ r.after h.seq_now

end Answered

/-- What the reply says of its datagram. -/
def Reply.reads (reply : Reply) (verdict : Verdict) : Prop := ascii verdict.text <:+ reply.bytes

/-- The numbers and the replies of a run: the number kept is the greatest so far, every datagram
that is not empty has one reply, which says YEP exactly for a new maximum that came alone, and
no number gets YEP twice. -/
structure RightVerdicts (start : PacketCounters) (rounds : List Round) (c : RrcClient) : Prop where
  seq_now : c.seq_now = c.seqs.foldl max (-1)
  seqs : c.seqs.length = (nonempty rounds).length
  replies : c.replies.length = (nonempty rounds).length
  verdict : ∀ (k : ℕ) r s before reply, (nonempty rounds)[k]? = some r → c.seqs[k]? = some s →
    (baselines start (nonempty rounds))[k]? = some before → c.replies[k]? = some reply →
    (reply.reads .yep ↔ GoodVerdict (c.seqs.take k) s before r.after)
  once : ∀ (i j : ℕ) s first second, i < j → c.seqs[i]? = some s → c.seqs[j]? = some s →
    c.replies[i]? = some first → c.replies[j]? = some second →
    ¬(first.reads .yep ∧ second.reads .yep)

/-- Every datagram that deserves YEP is filled by its number, as `sprintf` prints it. -/
def MaximaFilled (first second : List UInt8) (start : PacketCounters) (rounds : List Round) :
    Prop :=
  ∀ (k : ℕ) r s before, (nonempty rounds)[k]? = some r →
    (parsed (handshake first second) (nonempty rounds))[k]? = some s →
    (baselines start (nonempty rounds))[k]? = some before →
    GoodVerdict ((parsed (handshake first second) (nonempty rounds)).take k) s before r.after →
    r.recv.payload.length ≤ (decimal s).length

theorem length_payload_lt (r : Round) : r.recv.payload.length < seqStrSize := by
  cases r.recv with
  | failed => decide
  | datagram payload hlt => exact hlt

/-- The numbers of a run, whether or not its last turn is one without a reply. -/
theorem seqs_of_run (c c' : RrcClient) (rounds : List Round)
    (h : runEvents rrcStep c rounds = some c') :
    c'.seqs = c.seqs ++ parsed c.data (nonempty rounds) := by
  induction rounds generalizing c with
  | nil =>
    cases h
    exact (List.append_nil _).symm
  | cons r rest ih =>
    obtain ⟨c₁, hstep, hrest⟩ := runEvents_cons rrcStep c c' r rest h
    by_cases hempty : r.recv.payload = []
    · have hframe : c₁.data = c.data ∧ c₁.seqs = c.seqs := by
        rw [rrcStep, if_pos (running_of_rrcStep c c₁ r hstep)] at hstep
        cases hrecv : r.recv with
        | failed =>
          rw [hrecv] at hstep
          cases hstep
          exact ⟨rfl, rfl⟩
        | datagram payload hlt =>
          rw [hrecv] at hstep hempty
          obtain rfl : payload = [] := hempty
          cases hstep
          exact ⟨writeAt_zero c.data [], rfl⟩
      have hnonempty : nonempty (r :: rest) = nonempty rest :=
        List.filter_cons_of_neg (by simpa using hempty)
      rw [ih c₁ hrest, hnonempty, hframe.1, hframe.2]
    · obtain ⟨hdata, hseqs⟩ := rrcStep_numbers c c₁ r hempty hstep
      have hnonempty : nonempty (r :: rest) = r :: nonempty rest :=
        List.filter_cons_of_pos (by simpa using hempty)
      rw [ih c₁ hrest, hnonempty, hseqs, hdata, List.append_assoc]
      rfl

section Says

variable {n : ℕ} {seq_recv netType : ℤ}

theorem verdict_eq_of_suffix (bytes : List UInt8) (verdict verdict' : Verdict)
    (h : ascii verdict.text <:+ bytes) (h' : ascii verdict'.text <:+ bytes) :
    verdict = verdict' := by
  have hlen (verdict : Verdict) : (ascii verdict.text).length = 4 := by
    cases verdict with
    | yep => decide +kernel
    | bad => decide +kernel
  have heq := (List.suffix_of_suffix_length_le h h'
    ((hlen verdict).trans (hlen verdict').symm).le).eq_of_length
    ((hlen verdict).trans (hlen verdict').symm)
  revert heq
  cases verdict <;> cases verdict'
  · exact fun _ => rfl
  · decide +kernel
  · decide +kernel
  · exact fun _ => rfl

/-- A printed number says nothing. -/
theorem not_says_decimal (v : ℤ) (verdict : Verdict) : ¬ascii verdict.text <:+ decimal v := by
  intro h
  have hlast : (10:UInt8) ∈ ascii verdict.text := by
    cases verdict with
    | yep => decide +kernel
    | bad => decide +kernel
  rcases mem_decimal v 10 (h.subset hlast) with h | h
  · revert h
    decide +kernel
  · cases h

/-- The bytes sent say YEP if the verdict is good and the number fills its datagram. -/
theorem reads_yep_iff (verdict : Verdict) (hn : n < seqStrSize) :
    ascii Verdict.yep.text <:+ str (echo n seq_recv netType verdict) ↔
      verdict = .yep ∧ n ≤ (decimal seq_recv).length := by
  rcases Nat.lt_or_ge (decimal seq_recv).length n with hlt | hge
  · rw [str_echo_of_lt verdict hn hlt]
    exact iff_of_false (not_says_decimal seq_recv .yep) fun h => absurd h.2 (not_le.mpr hlt)
  · have hreads := echo_reads n seq_recv netType verdict hn hge
    constructor
    · exact fun hyep => ⟨verdict_eq_of_suffix _ _ _ hreads hyep, hge⟩
    · rintro ⟨rfl, -⟩
      exact hreads

end Says

/-- In a run in which no send fails, all the replies say what they should exactly if every
datagram that deserves YEP is filled by its number. -/
theorem rrc_verdicts_iff (first second : List UInt8) (start : PacketCounters) (rounds : List Round)
    (c : RrcClient) (hsent : ∀ r ∈ rounds, r.sent = true)
    (hrun : runEvents rrcStep (RrcClient.start first second start) rounds = some c) :
    RightVerdicts start rounds c ↔ MaximaFilled first second start rounds := by
  have hstart : Answered start [] (RrcClient.start first second start) :=
    ⟨rfl, rfl, rfl, rfl, fun _ _ _ _ _ h => by cases h⟩
  have h := runEvents_history rrcStep (fun r => r.sent = true) (Answered start)
    (fun done s r s' => answered_step done r) [] rounds _ c hsent hrun hstart
  rw [List.nil_append] at h
  have hseqs : c.seqs = parsed (handshake first second) (nonempty rounds) :=
    (seqs_of_run _ c rounds hrun).trans (List.nil_append _)
  have hreads (k : ℕ) r s before reply (hr : (nonempty rounds)[k]? = some r)
      (hs : c.seqs[k]? = some s) (hb : (baselines start (nonempty rounds))[k]? = some before)
      (hreply : c.replies[k]? = some reply) :
      reply.reads .yep ↔ GoodVerdict (c.seqs.take k) s before r.after ∧
        r.recv.payload.length ≤ (decimal s).length := by
    obtain ⟨hverdict, hbytes⟩ := h.verdict k r s before reply hr hs hb hreply
    rw [Reply.reads, hbytes, reads_yep_iff reply.verdict (length_payload_lt r), hverdict]
  constructor
  · intro hright k r s before hr hs hb hgood
    rw [← hseqs] at hs hgood
    have hlt : k < c.replies.length := by
      rw [h.replies, ← h.seqs]
      exact (List.getElem?_eq_some_iff.mp hs).choose
    have hreply := List.getElem?_eq_getElem hlt
    exact ((hreads k r s before _ hr hs hb hreply).mp
      ((hright.verdict k r s before _ hr hs hb hreply).mpr hgood)).2
  · intro hfilled
    refine ⟨h.seq_now, h.seqs, h.replies, ?_, ?_⟩
    · intro k r s before reply hr hs hb hreply
      rw [hreads k r s before reply hr hs hb hreply]
      refine and_iff_left_of_imp fun hgood =>
        hfilled k r s before hr (hseqs ▸ hs) hb (hseqs ▸ hgood)
    · rintro i j s first second hij hi hj - hsecond ⟨-, hyep⟩
      have hlt : j < (nonempty rounds).length := h.seqs ▸ (List.getElem?_eq_some_iff.mp hj).choose
      have hlt' : j < (baselines start (nonempty rounds)).length := by
        rw [length_baselines]
        omega
      obtain ⟨hgood, -⟩ := (hreads j _ s _ second (List.getElem?_eq_getElem hlt) hj
        (List.getElem?_eq_getElem hlt') hsecond).mp hyep
      have hearlier : s ∈ c.seqs.take j := by
        apply List.mem_of_getElem?
        rw [List.getElem?_take_of_lt hij]
        exact hi
      exact lt_irrefl s (hgood.1.2 s hearlier)

/-- The number 12 twice, each time as the only packet, and the end of the socket. -/
def repeatedProbe : List Round :=
  [{ recv := .datagram [49, 50] (by decide), after := { rx := 1 }, next := { rx := 1, tx := 1 } },
   { recv := .datagram [49, 50] (by decide), after := { rx := 2, tx := 1 },
     next := { rx := 2, tx := 2 } },
   { recv := .datagram [] (by decide) }]

theorem rrc_verdicts_repeated_probe : ∃ c,
    runEvents rrcStep (RrcClient.start (ascii "Test1") (ascii "Test2") {}) repeatedProbe = some c ∧
    c.seqs = [12, 12] ∧ c.replies.map (·.bytes) = [ascii "12 0 YEP\n", ascii "12 0 BAD\n"] ∧
    RightVerdicts {} repeatedProbe c := by
  have hrun : (runEvents rrcStep (RrcClient.start (ascii "Test1") (ascii "Test2") {})
      repeatedProbe).map (fun c => (c.seqs, c.replies.map (·.bytes))) =
      some ([12, 12], [ascii "12 0 YEP\n", ascii "12 0 BAD\n"]) := by
    decide +kernel
  obtain ⟨c, hrun, hc⟩ := Option.map_eq_some_iff.mp hrun
  obtain ⟨hseqs, hreplies⟩ := Prod.mk.inj hc
  have hsent : ∀ r ∈ repeatedProbe, r.sent = true := by decide
  have hparsed : parsed (handshake (ascii "Test1") (ascii "Test2")) (nonempty repeatedProbe) =
      [12, 12] := by
    decide +kernel
  have hlengths : ∀ r ∈ nonempty repeatedProbe, r.recv.payload.length = 2 := by decide
  refine ⟨c, hrun, hseqs, hreplies,
    (rrc_verdicts_iff (ascii "Test1") (ascii "Test2") {} repeatedProbe c hsent hrun).mpr ?_⟩
  intro k r s before hr hs _ _
  rw [hparsed] at hs
  have hs : s = 12 := by simpa using List.mem_of_getElem? hs
  rw [hlengths r (List.mem_of_getElem? hr), hs]
  decide +kernel

/-- The digits "07" as the only packet. -/
def zeroSevenProbe : List Round :=
  [{ recv := .datagram zeroSeven.payload zeroSeven.length_lt, after := { rx := 1 },
      next := { rx := 1, tx := 1 } }]

/-- The reply to a new maximum that came alone is the single character 7. -/
theorem rrc_verdict_cut_off : ∃ c,
    runEvents rrcStep (RrcClient.start (ascii "Test1") (ascii "Test2") {}) zeroSevenProbe = some c ∧
    c.seqs = [7] ∧ c.replies.map (·.bytes) = [ascii "7"] ∧ ¬RightVerdicts {} zeroSevenProbe c := by
  have hrun : (runEvents rrcStep (RrcClient.start (ascii "Test1") (ascii "Test2") {})
      zeroSevenProbe).map
      (fun c => (c.seqs, c.replies.map (·.bytes))) = some ([7], [ascii "7"]) := by
    decide +kernel
  obtain ⟨c, hrun, hc⟩ := Option.map_eq_some_iff.mp hrun
  obtain ⟨hseqs, hreplies⟩ := Prod.mk.inj hc
  obtain ⟨reply, hreply, hbytes⟩ := List.map_eq_singleton_iff.mp hreplies
  refine ⟨c, hrun, hseqs, hreplies, fun hright => ?_⟩
  have hgood : GoodVerdict (c.seqs.take 0) 7 {} { rx := 1 } :=
    ⟨⟨by decide, fun t ht => absurd ht (by rw [List.take_zero]; exact List.not_mem_nil)⟩, by decide⟩
  have hyep := (hright.verdict 0 _ 7 {} reply rfl (by rw [hseqs]; rfl) rfl
      (by rw [hreply]; rfl)).mpr hgood
  rw [Reply.reads, hbytes] at hyep
  exact absurd hyep.length_le (by decide +kernel)

end MmWaveTracker
