import MmWaveTracker.Iperf
import Mathlib.Data.List.Basic
import Mathlib.Tactic.Common

/-! `Iperf3`: the handle of a native test, which a call of `newTestImpl` returns and a call
of `freeTestImpl` is to give back. -/
namespace MmWaveTracker

/-- A call into the native library. -/
inductive NativeCall where
  | newTestImpl (result : ℤ)
  | freeTestImpl (ref : ℤ)
  | endTestImpl (ref : ℤ)
  | runClientImpl (ref : ℤ)
  | getTestResultImpl (ref : ℤ)
  deriving DecidableEq, Repr

/-- The handle that is passed to it. -/
def NativeCall.ref : NativeCall → Option ℤ
  | .newTestImpl _ => none
  | .freeTestImpl ref | .endTestImpl ref | .runClientImpl ref | .getTestResultImpl ref => some ref

/-- A call that neither makes a handle nor frees one. -/
def NativeCall.IsUse (call : NativeCall) : Prop :=
  ∀ ref, call ≠ .newTestImpl ref ∧ call ≠ .freeTestImpl ref

/-- The fields of `Iperf3`, and its native calls so far. -/
structure Iperf3 where
  testRef : ℤ := 0
  testResult : ℤ := 0
  testResultMessage : String := ""
  calls : List NativeCall := []

namespace Iperf3

def called (call : NativeCall) (s : Iperf3) : Iperf3 := { s with calls := s.calls ++ [call] }

def freeTest (s : Iperf3) : Iperf3 :=
  if s.testRef ≠ 0 then { s.called (.freeTestImpl s.testRef) with testRef := 0 } else s

def endTest (s : Iperf3) : Iperf3 :=
  if s.testRef ≠ 0 then { s.called (.endTestImpl s.testRef) with testRef := 0 } else s

/-- With `result` 0 there is an `IperfException` behind the assignment. -/
def newTest (result : ℤ) (s : Iperf3) : Iperf3 :=
  let s := if s.testRef ≠ 0 then s.freeTest else s
  { s.called (.newTestImpl result) with testRef := result }

def runClient (result : ℤ) (s : Iperf3) : Iperf3 :=
  { s.called (.runClientImpl s.testRef) with testResult := result }

def getTestResultMessage (message : String) (s : Iperf3) : Iperf3 :=
  if s.testRef ≠ 0 then
    { s.called (.getTestResultImpl s.testRef) with testResultMessage := message } else s

/-- What `endIperfSession` calls on the object. -/
def endSession (iperf_termination_state : Iperf.TerminationState) (message : String) (s : Iperf3) :
    Iperf3 :=
  let s := s.getTestResultMessage message
  let s := if iperf_termination_state ≠ .terminatedAutomatically then s.endTest else s
  s.freeTest

/-- The calls on the object, with what the native library returns. -/
inductive Event where
  | newTest (result : ℤ)
  | endTest
  | freeTest
  | runClient (result : ℤ)
  | getTestResultMessage (message : String)
  deriving DecidableEq

/-- `newTestImpl` returns fresh handles. -/
def step (s : Iperf3) : Event → Option Iperf3
  | .newTest result => if result ≠ 0 ∧ .newTestImpl result ∉ s.calls then some (s.newTest result)
      else none
  | .endTest => some s.endTest
  | .freeTest => some s.freeTest
  | .runClient result => some (s.runClient result)
  | .getTestResultMessage message => some (s.getTestResultMessage message)

/-- No call is made with a handle that was freed before. -/
def NoUseAfterFree (calls : List NativeCall) : Prop :=
  calls.Pairwise fun call later => ∀ ref, call = .freeTestImpl ref → later.ref ≠ some ref

/-- Every handle that the object no longer holds was freed, once, and the one it holds was
not. -/
structure Released (s : Iperf3) : Prop where
  free_once : ∀ ref, .newTestImpl ref ∈ s.calls →
    s.calls.count (.freeTestImpl ref) = if ref = s.testRef then 0 else 1
  no_use_after_free : NoUseAfterFree s.calls

/-- What holds after any calls. -/
structure Sound (s : Iperf3) : Prop where
  zero_not_issued : .newTestImpl 0 ∉ s.calls
  issued : s.testRef ≠ 0 → .newTestImpl s.testRef ∈ s.calls
  not_freed : s.testRef ≠ 0 → .freeTestImpl s.testRef ∉ s.calls
  issued_of_freed : ∀ ref, .freeTestImpl ref ∈ s.calls → .newTestImpl ref ∈ s.calls
  no_use_after_free : NoUseAfterFree s.calls

structure Tidy (s : Iperf3) : Prop extends Sound s where
  freed : ∀ ref, .newTestImpl ref ∈ s.calls → ref ≠ s.testRef →
    s.calls.count (.freeTestImpl ref) = 1

theorem noUseAfterFree_append (calls : List NativeCall) (call : NativeCall)
    (h : NoUseAfterFree calls) (hcall : ∀ ref, call.ref = some ref → .freeTestImpl ref ∉ calls) :
    NoUseAfterFree (calls ++ [call]) := by
  apply List.pairwise_append.mpr
  refine ⟨h, List.pairwise_singleton _ call, ?_⟩
  intro earlier hearlier later hlater ref hfree huse
  rw [List.mem_singleton.mp hlater] at huse
  rw [hfree] at hearlier
  exact hcall ref huse hearlier

/-- The handle that the object passes on was not freed. -/
theorem Sound.testRef_not_freed {s : Iperf3} (h : Sound s) : .freeTestImpl s.testRef ∉ s.calls := by
  by_cases hzero : s.testRef = 0
  · intro hfree
    rw [hzero] at hfree
    exact h.zero_not_issued (h.issued_of_freed 0 hfree)
  · exact h.not_freed hzero

theorem Released.of_tidy {s : Iperf3} (h : Tidy s) : Released s := by
  refine ⟨?_, h.no_use_after_free⟩
  intro ref hissued
  split
  · next heq =>
    rw [heq]
    exact List.count_eq_zero.mpr h.testRef_not_freed
  · next hne => exact h.freed ref hissued hne

/-! What the calls preserve. -/

section Calls

variable {s t : Iperf3} {call : NativeCall}

theorem issued_iff_of_isUse (huse : call.IsUse) (hcalls : t.calls = s.calls ++ [call]) (ref : ℤ) :
    .newTestImpl ref ∈ t.calls ↔ .newTestImpl ref ∈ s.calls := by
  rw [hcalls, List.mem_append, List.mem_singleton]
  exact or_iff_left fun heq => (huse ref).1 heq.symm

theorem freed_iff_of_isUse (huse : call.IsUse) (hcalls : t.calls = s.calls ++ [call]) (ref : ℤ) :
    .freeTestImpl ref ∈ t.calls ↔ .freeTestImpl ref ∈ s.calls := by
  rw [hcalls, List.mem_append, List.mem_singleton]
  exact or_iff_left fun heq => (huse ref).2 heq.symm

theorem count_eq_of_isUse (huse : call.IsUse) (hcalls : t.calls = s.calls ++ [call]) (ref : ℤ) :
    t.calls.count (.freeTestImpl ref) = s.calls.count (.freeTestImpl ref) := by
  rw [hcalls, List.count_append, List.count_singleton]
  have hne : (call == NativeCall.freeTestImpl ref) = false := beq_false_of_ne (huse ref).2
  rw [hne]
  exact Nat.add_zero _

/-- The object makes a call with its handle, and keeps it or forgets it. -/
theorem Sound.use (h : Sound s) (huse : call.IsUse) (href : call.ref = some s.testRef)
    (hcalls : t.calls = s.calls ++ [call]) (htestRef : t.testRef = s.testRef ∨ t.testRef = 0) :
    Sound t := by
  constructor
  case zero_not_issued => rw [issued_iff_of_isUse huse hcalls]; exact h.zero_not_issued
  case issued =>
    intro hne
    have hkept : t.testRef = s.testRef := htestRef.resolve_right hne
    rw [issued_iff_of_isUse huse hcalls, hkept]
    exact h.issued (hkept ▸ hne)
  case not_freed =>
    intro hne
    have hkept : t.testRef = s.testRef := htestRef.resolve_right hne
    rw [freed_iff_of_isUse huse hcalls, hkept]
    exact h.testRef_not_freed
  case issued_of_freed =>
    intro ref
    rw [issued_iff_of_isUse huse hcalls, freed_iff_of_isUse huse hcalls]
    exact h.issued_of_freed ref
  case no_use_after_free =>
    rw [hcalls]
    apply noUseAfterFree_append _ _ h.no_use_after_free
    intro ref heq
    rw [href, Option.some.injEq] at heq
    rw [← heq]
    exact h.testRef_not_freed

/-- A handle that is kept after the call need not be freed yet. -/
theorem Tidy.use (h : Tidy s) (huse : call.IsUse) (href : call.ref = some s.testRef)
    (hcalls : t.calls = s.calls ++ [call]) (htestRef : t.testRef = s.testRef) : Tidy t := by
  refine ⟨h.toSound.use huse href hcalls (.inl htestRef), ?_⟩
  intro ref hissued hne
  rw [issued_iff_of_isUse huse hcalls] at hissued
  rw [count_eq_of_isUse huse hcalls]
  exact h.freed ref hissued (htestRef ▸ hne)

/-- The object frees its handle and forgets it. -/
theorem Sound.free (h : Sound s) (hne : s.testRef ≠ 0)
    (hcalls : t.calls = s.calls ++ [.freeTestImpl s.testRef])
    (htestRef : t.testRef = 0) : Sound t := by
  have hissued (ref : ℤ) : .newTestImpl ref ∈ t.calls ↔ .newTestImpl ref ∈ s.calls := by
    rw [hcalls, List.mem_append, List.mem_singleton]
    exact or_iff_left fun heq => by cases heq
  constructor
  case zero_not_issued => rw [hissued]; exact h.zero_not_issued
  case issued => exact fun hne => absurd htestRef hne
  case not_freed => exact fun hne => absurd htestRef hne
  case issued_of_freed =>
    intro ref hfreed
    rw [hissued]
    rw [hcalls, List.mem_append, List.mem_singleton] at hfreed
    rcases hfreed with hbefore | hnow
    · exact h.issued_of_freed ref hbefore
    · cases hnow
      exact h.issued hne
  case no_use_after_free =>
    rw [hcalls]
    apply noUseAfterFree_append _ _ h.no_use_after_free
    intro ref heq
    cases heq
    exact h.testRef_not_freed

theorem Tidy.free (h : Tidy s) (hne : s.testRef ≠ 0)
    (hcalls : t.calls = s.calls ++ [.freeTestImpl s.testRef])
    (htestRef : t.testRef = 0) : Tidy t := by
  refine ⟨h.toSound.free hne hcalls htestRef, ?_⟩
  intro ref hissued _
  rw [hcalls, List.mem_append, List.mem_singleton] at hissued
  have hissued : NativeCall.newTestImpl ref ∈ s.calls :=
    hissued.resolve_right fun heq => by cases heq
  rw [hcalls, List.count_append]
  by_cases heq : ref = s.testRef
  · have hnone : s.calls.count (.freeTestImpl ref) = 0 :=
      heq ▸ List.count_eq_zero.mpr h.testRef_not_freed
    rw [hnone, heq, List.count_singleton_self]
  · have hother : [NativeCall.freeTestImpl s.testRef].count (.freeTestImpl ref) = 0 := by
      apply List.count_eq_zero.mpr
      rw [List.mem_singleton]
      exact fun hfree => heq (NativeCall.freeTestImpl.inj hfree)
    rw [hother, h.freed ref hissued heq]

/-- The object takes a fresh handle while it holds none. -/
theorem Sound.issue (h : Sound s) {fresh : ℤ} (hfresh : .newTestImpl fresh ∉ s.calls)
    (hzero : fresh ≠ 0) (hcalls : t.calls = s.calls ++ [.newTestImpl fresh])
    (htestRef : t.testRef = fresh) : Sound t := by
  have hfreed (ref : ℤ) : .freeTestImpl ref ∈ t.calls ↔ .freeTestImpl ref ∈ s.calls := by
    rw [hcalls, List.mem_append, List.mem_singleton]
    exact or_iff_left fun heq => by cases heq
  constructor
  case zero_not_issued =>
    rw [hcalls, List.mem_append, List.mem_singleton, not_or]
    exact ⟨h.zero_not_issued, fun heq => hzero (NativeCall.newTestImpl.inj heq).symm⟩
  case issued =>
    intro _
    rw [hcalls, htestRef]
    exact List.mem_append_right _ (List.mem_singleton_self _)
  case not_freed =>
    intro _ hfree
    rw [hfreed, htestRef] at hfree
    exact hfresh (h.issued_of_freed fresh hfree)
  case issued_of_freed =>
    intro ref hfree
    rw [hfreed] at hfree
    rw [hcalls]
    exact List.mem_append_left _ (h.issued_of_freed ref hfree)
  case no_use_after_free =>
    rw [hcalls]
    apply noUseAfterFree_append _ _ h.no_use_after_free
    intro ref heq
    cases heq

theorem Tidy.issue (h : Tidy s) (hnone : s.testRef = 0) {fresh : ℤ}
    (hfresh : .newTestImpl fresh ∉ s.calls) (hzero : fresh ≠ 0)
    (hcalls : t.calls = s.calls ++ [.newTestImpl fresh]) (htestRef : t.testRef = fresh) :
    Tidy t := by
  refine ⟨h.toSound.issue hfresh hzero hcalls htestRef, ?_⟩
  intro ref hissued hne
  rw [hcalls, List.mem_append, List.mem_singleton] at hissued
  have hissued : NativeCall.newTestImpl ref ∈ s.calls :=
    hissued.resolve_right fun heq => hne (htestRef ▸ NativeCall.newTestImpl.inj heq)
  have hold : ref ≠ s.testRef := by
    intro heq
    rw [hnone] at heq
    exact h.zero_not_issued (heq ▸ hissued)
  rw [hcalls, List.count_append, h.freed ref hissued hold]
  rfl

end Calls

theorem isUse_endTestImpl (ref : ℤ) : NativeCall.IsUse (.endTestImpl ref) := by
  intro ref'
  constructor <;> intro h <;> cases h

theorem isUse_runClientImpl (ref : ℤ) : NativeCall.IsUse (.runClientImpl ref) := by
  intro ref'
  constructor <;> intro h <;> cases h

theorem isUse_getTestResultImpl (ref : ℤ) : NativeCall.IsUse (.getTestResultImpl ref) := by
  intro ref'
  constructor <;> intro h <;> cases h

section Methods

variable {s : Iperf3}

theorem freeTest_of_zero (h : s.testRef = 0) : s.freeTest = s := by
  unfold freeTest
  exact if_neg (not_not_intro h)

theorem testRef_freeTest (s : Iperf3) : s.freeTest.testRef = 0 := by
  unfold freeTest
  split
  · rfl
  · next h => exact not_not.mp h

theorem endTest_of_zero (h : s.testRef = 0) : s.endTest = s := by
  unfold endTest
  exact if_neg (not_not_intro h)

theorem endTest_of_ne (h : s.testRef ≠ 0) :
    s.endTest = { s.called (.endTestImpl s.testRef) with testRef := 0 } := by
  unfold endTest
  exact if_pos h

theorem Sound.endTest (h : Sound s) : Sound s.endTest := by
  by_cases hzero : s.testRef = 0
  · rw [endTest_of_zero hzero]
    exact h
  · rw [endTest_of_ne hzero]
    exact h.use (isUse_endTestImpl s.testRef) rfl rfl (.inr rfl)

theorem Tidy.freeTest (h : Tidy s) : Tidy s.freeTest := by
  unfold Iperf3.freeTest
  split
  · next hne => exact h.free hne rfl rfl
  · exact h

theorem newTest_eq (result : ℤ) (s : Iperf3) :
    s.newTest result = { s.freeTest.called (.newTestImpl result) with testRef := result } := by
  unfold newTest
  by_cases h : s.testRef = 0
  · rw [if_neg (not_not_intro h), freeTest_of_zero h]
  · rw [if_pos h]

theorem issued_freeTest (s : Iperf3) (ref : ℤ) : .newTestImpl ref ∈ s.freeTest.calls ↔
    .newTestImpl ref ∈ s.calls := by
  unfold freeTest
  split
  · change .newTestImpl ref ∈ s.calls ++ [.freeTestImpl s.testRef] ↔ _
    rw [List.mem_append, List.mem_singleton]
    exact or_iff_left fun heq => by cases heq
  · exact Iff.rfl

theorem Tidy.newTest (h : Tidy s) (result : ℤ) (hne : result ≠ 0)
    (hfresh : .newTestImpl result ∉ s.calls) : Tidy (s.newTest result) := by
  rw [newTest_eq]
  have hfresh' : .newTestImpl result ∉ s.freeTest.calls := by
    rw [issued_freeTest]
    exact hfresh
  exact h.freeTest.issue (testRef_freeTest s) hfresh' hne rfl rfl

theorem Tidy.runClient (h : Tidy s) (result : ℤ) : Tidy (s.runClient result) :=
  h.use (isUse_runClientImpl s.testRef) rfl rfl rfl

theorem Tidy.getTestResultMessage (h : Tidy s) (message : String) :
    Tidy (s.getTestResultMessage message) := by
  unfold Iperf3.getTestResultMessage
  split
  · exact h.use (isUse_getTestResultImpl s.testRef) rfl rfl rfl
  · exact h

end Methods

/-- `endTest` is not called while the object holds a handle. -/
def EndsNothing (s : Iperf3) (e : Event) : Prop := e = .endTest → s.testRef = 0

instance (s : Iperf3) (e : Event) : Decidable (EndsNothing s e) := by
  unfold EndsNothing; infer_instance

theorem tidy_step (s : Iperf3) (e : Event) (s' : Iperf3) (hends : EndsNothing s e)
    (hstep : step s e = some s') (h : Tidy s) : Tidy s' := by
  cases e with
  | newTest result =>
    obtain ⟨⟨hne, hfresh⟩, heq⟩ := Option.ite_none_right_eq_some.mp hstep
    cases heq
    exact h.newTest result hne hfresh
  | endTest =>
    cases hstep
    rw [endTest_of_zero (hends rfl)]
    exact h
  | freeTest =>
    cases hstep
    exact h.freeTest
  | runClient result =>
    cases hstep
    exact h.runClient result
  | getTestResultMessage message =>
    cases hstep
    exact h.getTestResultMessage message

/-- The handle is forgotten, and no later call of `freeTest` finds it. -/
theorem not_released_endTest {s : Iperf3} (h : Sound s) (hne : s.testRef ≠ 0) :
    ¬Released s.endTest := by
  intro hreleased
  have huse := isUse_endTestImpl s.testRef
  have hcalls : s.endTest.calls = s.calls ++ [.endTestImpl s.testRef] := by
    rw [endTest_of_ne hne]; rfl
  have htestRef : s.endTest.testRef = 0 := by rw [endTest_of_ne hne]
  have hissued : .newTestImpl s.testRef ∈ s.endTest.calls :=
    (issued_iff_of_isUse huse hcalls _).mpr (h.issued hne)
  have honce := hreleased.free_once s.testRef hissued
  rw [count_eq_of_isUse huse hcalls, List.count_eq_zero.mpr h.testRef_not_freed, htestRef,
    if_neg hne] at honce
  exact absurd honce (by decide)

theorem getTestResultMessage_testRef (s : Iperf3) (message : String) :
    (s.getTestResultMessage message).testRef = s.testRef := by
  unfold getTestResultMessage
  split <;> rfl

theorem released_endSession_iff {s : Iperf3} (h : Tidy s) (hne : s.testRef ≠ 0)
    (iperf_termination_state : Iperf.TerminationState) (message : String) :
    Released (s.endSession iperf_termination_state message) ↔
      iperf_termination_state = .terminatedAutomatically := by
  have hasked := h.getTestResultMessage message
  unfold endSession
  by_cases hauto : iperf_termination_state = .terminatedAutomatically
  · apply iff_of_true _ hauto
    simp only [ne_eq, hauto, not_true_eq_false, if_false]
    exact .of_tidy hasked.freeTest
  · apply iff_of_false _ hauto
    have hne' : (s.getTestResultMessage message).testRef ≠ 0 := by
      rw [getTestResultMessage_testRef]; exact hne
    have hzero : (s.getTestResultMessage message).endTest.testRef = 0 := by rw [endTest_of_ne hne']
    simp only [ne_eq, hauto, not_false_eq_true, if_true]
    rw [freeTest_of_zero hzero]
    exact not_released_endTest hasked.toSound hne'

theorem tidy_new : Tidy {} where
  zero_not_issued := List.not_mem_nil
  issued := fun h => absurd rfl h
  not_freed := fun h => absurd rfl h
  issued_of_freed := fun _ h => absurd h List.not_mem_nil
  no_use_after_free := List.Pairwise.nil
  freed := fun _ h => absurd h List.not_mem_nil

/-- The handles are released in every state of a run exactly if `endTest` never finds one. Of
the ways in which a session ends only the automatic one gives the handle back. -/
theorem handles_released_iff (events : List Event) (t : Iperf3)
    (hrun : runEvents step {} events = some t) :
    (Throughout step Released {} events ↔ Along step EndsNothing {} events) ∧
    (Throughout step Released {} events → t.testRef ≠ 0 → ∀ iperf_termination_state message,
      Released (t.endSession iperf_termination_state message) ↔
        iperf_termination_state = .terminatedAutomatically) := by
  have hleave : ∀ s e s', ¬EndsNothing s e → step s e = some s' → Tidy s → ¬Released s' := by
    intro s e s' hends hstep h
    obtain ⟨he, hne⟩ := Classical.not_imp.mp hends
    subst he
    cases hstep
    exact not_released_endTest h.toSound hne
  have hiff := throughout_iff_along step EndsNothing Tidy Released tidy_step
    (fun _ => .of_tidy) hleave events {} t hrun tidy_new
  refine ⟨hiff, ?_⟩
  intro hreleased hne
  have htidy : Tidy t := runEvents_invariant step EndsNothing Tidy tidy_step events {} t
    (hiff.mp hreleased) hrun tidy_new
  exact released_endSession_iff htidy hne

/-- Two runs on one object, the second of which ends by itself. -/
theorem handles_released_twice :
    ∃ t, runEvents step {} [.newTest 7, .runClient 0, .newTest 8, .runClient 0] = some t ∧
    Throughout step Released {} [.newTest 7, .runClient 0, .newTest 8, .runClient 0] ∧
    Released (t.endSession .terminatedAutomatically "") := by
  have hboth := handles_released_iff [.newTest 7, .runClient 0, .newTest 8, .runClient 0] _ rfl
  have hreleased := hboth.1.mpr (by decide)
  exact ⟨_, rfl, hreleased, (hboth.2 hreleased (by decide) .terminatedAutomatically "").mpr rfl⟩

/-- A run that the user stops. -/
theorem handles_released_fails :
    ¬Throughout step Released {} [.newTest 7, .runClient 0, .getTestResultMessage "", .endTest,
      .freeTest] := by
  intro h
  have hend := (((((h.2 _ rfl).2 _ rfl).2 _ rfl).2 _ rfl).2 _ rfl).free_once 7 (by decide)
  exact absurd hend (by decide)

end Iperf3

end MmWaveTracker
