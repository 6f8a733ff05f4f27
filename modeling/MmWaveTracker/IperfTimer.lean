import MmWaveTracker.LinkedCells
import Mathlib.Data.List.Sort

/-! `timer.c` and `iperf_time.c`: the timers of a test, in a list that is sorted by the time at
which they are due. -/
namespace MmWaveTracker

namespace IperfTimer

open LinkedCells

section time

/-- `struct iperf_time`. -/
structure IperfTime where
  secs : UInt32
  usecs : UInt32
  deriving DecidableEq

/-- `iperf_time_add_usecs`. -/
def addUsecs (time : IperfTime) (usecs : UInt64) : IperfTime :=
  let secs := time.secs+(usecs/1000000).toUInt32
  let rest := time.usecs+(usecs%1000000).toUInt32
  if rest ≥ 1000000 then ⟨secs+rest/1000000, rest%1000000⟩ else ⟨secs, rest⟩

/-- `iperf_time_in_usecs`. -/
def timeInUsecs (time : IperfTime) : UInt64 := time.secs.toUInt64*1000000+time.usecs.toUInt64

/-- `iperf_time_compare`. -/
def compare (time1 time2 : IperfTime) : ℤ :=
  if time1.secs < time2.secs then -1
  else if time1.secs > time2.secs then 1
  else if time1.usecs < time2.usecs then -1
  else if time1.usecs > time2.usecs then 1
  else 0

/-- The difference of an earlier time from a later one, as both branches of `iperf_time_diff`
compute it. -/
def timeBetween (later earlier : IperfTime) : IperfTime :=
  let secs := later.secs-earlier.secs
  if later.usecs < earlier.usecs then ⟨secs-1, later.usecs+1000000-earlier.usecs⟩
  else ⟨secs, later.usecs-earlier.usecs⟩

/-- `iperf_time_diff`, with whether `time1` is past at `time2`. -/
def timeDiff (time1 time2 : IperfTime) : IperfTime × Bool :=
  if compare time1 time2 = 0 then (⟨0, 0⟩, true)
  else if compare time1 time2 = 1 then (timeBetween time1 time2, false)
  else (timeBetween time2 time1, true)

end time

section timers

variable {P : Type}

/-- What a timer is besides its place in a list; `timerProc` is its callback together with the
client's data. -/
structure Timer (P : Type) where
  timerProc : P
  usecs : Int64
  periodic : Bool
  time : IperfTime

/-- The active timers, sorted, and the first of the free ones. -/
structure Timers (P : Type) where
  list : Chain ℕ (Timer P)
  freeTimers : Option ℕ

/-- `timers` and `free_timers` are empty at first, whatever is in memory. -/
def noTimers (cell : ℕ → Cell ℕ (Timer P)) : Timers P := ⟨⟨cell, none⟩, none⟩

def timeOf (c : Chain ℕ (Timer P)) (t : ℕ) : IperfTime := (c.cell t).data.time

/-- The loop of `list_add` that looks for the place of a timer, in at most `n` rounds. -/
def findPlace (c : Chain ℕ (Timer P)) (t : ℕ) : ℕ → ℕ → Option ℕ → Option (Chain ℕ (Timer P))
  | 0, _, _ => none
  | _ + 1, t2prev, none =>
      some (setNext (setPrev (setNext c t2prev (some t)) t (some t2prev)) t none)
  | n + 1, t2prev, some t2 =>
    if compare (timeOf c t) (timeOf c t2) < 0 then
      some (setPrev
        (setNext (setPrev (setNext c t2prev (some t)) t (some t2prev)) t (some t2)) t2 (some t))
    else findPlace c t n t2 (c.cell t2).next

/-- `list_add`. -/
def listAdd (n : ℕ) (c : Chain ℕ (Timer P)) (t : ℕ) : Option (Chain ℕ (Timer P)) :=
  match c.first with
  | none => some (setPrev (setNext {c with first := some t} t none) t none)
  | some first =>
    if compare (timeOf c t) (timeOf c first) < 0 then
      some {setPrev (setNext (setPrev c t none) t (some first)) first (some t) with first := some t}
    else findPlace c t n first (c.cell first).next

/-- `list_remove`. -/
def listRemove (c : Chain ℕ (Timer P)) (t : ℕ) : Chain ℕ (Timer P) :=
  let c := match (c.cell t).prev with
    | none => {c with first := (c.cell t).next}
    | some prev => setNext c prev (c.cell t).next
  match (c.cell t).next with
  | none => c
  | some next => setPrev c next (c.cell t).prev

/-- `list_resort`. -/
def listResort (n : ℕ) (c : Chain ℕ (Timer P)) (t : ℕ) : Option (Chain ℕ (Timer P)) :=
  listAdd n (listRemove c t) t

def setTime (c : Chain ℕ (Timer P)) (t : ℕ) (time : IperfTime) : Chain ℕ (Timer P) :=
  setData c t {(c.cell t).data with time := time}

/-- `tmr_create` fills a cell that was free or that `malloc` has returned. -/
def schedule (n : ℕ) (s : Timers P) (t : ℕ) (now : IperfTime) (timerProc : P) (usecs : Int64)
    (periodic : Bool) : Option (Timers P) :=
  (listAdd n (setData s.list t ⟨timerProc, usecs, periodic, addUsecs now usecs.toUInt64⟩) t).map
      fun c =>
    {s with list := c}

/-- `tmr_create`, with the cell that `malloc` would return and the timer that is returned. -/
def tmrCreate (n : ℕ) (s : Timers P) (malloc : Option ℕ) (now : IperfTime) (timerProc : P)
    (usecs : Int64) (periodic : Bool) : Option (Timers P × Option ℕ) :=
  match s.freeTimers with
  | some t =>
    (schedule n {s with freeTimers := (s.list.cell t).next} t now timerProc usecs periodic).map
      fun s => (s, some t)
  | none =>
    match malloc with
    | none => some (s, none)
    | some t => (schedule n s t now timerProc usecs periodic).map fun s => (s, some t)

/-- `tmr_timeout`: seconds and microseconds to the first timer, or nothing if there is none. -/
def tmrTimeout (s : Timers P) (now : IperfTime) : Option (ℕ × ℕ) :=
  s.list.first.map fun t =>
    let diff := timeDiff (timeOf s.list t) now
    let usecs := if diff.2 then 0 else (timeInUsecs diff.1).toNat
    (usecs/1000000, usecs%1000000)

/-- `tmr_reset`. -/
def tmrReset (n : ℕ) (s : Timers P) (now : IperfTime) (t : ℕ) : Option (Timers P) :=
  (listResort n (setTime s.list t (addUsecs now (s.list.cell t).data.usecs.toUInt64)) t).map
    fun c => {s with list := c}

/-- `tmr_cancel`. -/
def tmrCancel (s : Timers P) (t : ℕ) : Timers P where
  list := setPrev (setNext (listRemove s.list t) t s.freeTimers) t none
  freeTimers := some t

/-- What a callback does to timers: the one at the end of the omitted time resets others, the one
that gives up on a client cancels those that send. -/
inductive Action where
  | reset (t : ℕ)
  | cancel (t : ℕ)
  deriving DecidableEq

def act (n : ℕ) (now : IperfTime) (s : Timers P) : Action → Option (Timers P)
  | .reset t => tmrReset n s now t
  | .cancel t => some (tmrCancel s t)

/-- What `tmr_run` does with a timer after its callback. -/
def afterCall (n : ℕ) (s : Timers P) (t : ℕ) : Option (Timers P) :=
  if (s.list.cell t).data.periodic then
    (listResort n (setTime s.list t
        (addUsecs (timeOf s.list t) (s.list.cell t).data.usecs.toUInt64)) t).map fun c =>
      {s with list := c}
  else some (tmrCancel s t)

/-- The loop of `tmr_run`, in at most `k` rounds, with the timers that it has called. -/
def runLoop (actions : P → List Action) (n : ℕ) (now : IperfTime) :
    ℕ → Option ℕ → Timers P → Option (Timers P × List ℕ)
  | _, none, s => some (s, [])
  | 0, some _, _ => none
  | k + 1, some t, s =>
    let next := (s.list.cell t).next
    if compare (timeOf s.list t) now > 0 then some (s, [])
    else do
      let s ← (actions (s.list.cell t).data.timerProc).foldlM (act n now) s
      let s ← afterCall n s t
      let run ← runLoop actions n now k next s
      return (run.1, t :: run.2)

/-- `tmr_run`. -/
def tmrRun (actions : P → List Action) (n k : ℕ) (s : Timers P) (now : IperfTime) :
    Option (Timers P × List ℕ) :=
  runLoop actions n now k s.list.first s

end timers

end IperfTimer

end MmWaveTracker
