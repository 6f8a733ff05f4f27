import Mathlib.Data.List.Basic

/-! A queue whose writer follows a script: it holds the items of the script between the one that is
read next and the one that is written next. -/
namespace MmWaveTracker

namespace ScriptQueue

variable {α : Type} {script : List α} {r n : ℕ} {m : α} {rest : List α}

/-- The items that were written but not read, when `n` were written and `r` read. -/
def window (script : List α) (r n : ℕ) : List α := (script.take n).drop r

theorem window_self (script : List α) (n : ℕ) : window script n n = [] :=
  List.drop_eq_nil_of_le (List.length_take_le n script)

/-- The next item to be read is the next one of the script. -/
theorem window_eq_cons (h : window script r n = m :: rest) :
    script[r]? = some m ∧ rest = window script (r+1) n ∧ r < n := by
  have hlt : r < n := by
    by_contra hle
    rw [window, List.drop_eq_nil_of_le (Nat.le_trans (List.length_take_le n script) (by omega))]
      at h
    cases h
  have hhead : (script.take n)[r]? = some m := by
    rw [← List.head?_drop]
    exact congrArg List.head? h
  have htail : (script.take n).drop (r+1) = rest := by
    rw [← List.tail_drop]
    exact congrArg List.tail h
  rw [List.getElem?_take_of_lt hlt] at hhead
  exact ⟨hhead, htail.symm, hlt⟩

theorem window_append (hr : r ≤ n) (hm : script[n]? = some m) :
    window script r n ++ [m] = window script r (n+1) := by
  obtain ⟨hlt, rfl⟩ := List.getElem?_eq_some_iff.mp hm
  have hlength : r ≤ (script.take n).length := by
    rw [List.length_take]
    omega
  rw [window, window, List.take_add_one, hm, List.drop_append_of_le_length hlength]
  rfl

theorem window_ne_nil (h : r < n) (hn : n ≤ script.length) : window script r n ≠ [] := by
  intro hnil
  have hlength := congrArg List.length hnil
  rw [window, List.length_drop, List.length_take, List.length_nil] at hlength
  omega

end ScriptQueue

end MmWaveTracker
