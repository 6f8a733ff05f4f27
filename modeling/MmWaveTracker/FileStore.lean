import Mathlib.Data.Int.Basic
import Mathlib.Data.List.Basic
import Mathlib.Logic.Function.Basic
import Mathlib.Tactic.Common

/-! Text files as lists of lines, and what was added to a numbered series of them
since an earlier moment. The first line of a file created since then is its header. -/
namespace MmWaveTracker

abbrev FileStore (Path Line : Type) := Path → Option (List Line)

namespace FileStore

variable {Path Line : Type}

def contents (fs : FileStore Path Line) (p : Path) : List Line := (fs p).getD []

/-- The lines of a file that were there before, or its header if it was not. -/
def skipped (fs₀ : FileStore Path Line) (p : Path) : ℕ :=
  match fs₀ p with
  | some old => old.length
  | none => 1

/-- The data lines of `p` that were added since `fs₀`. -/
def since (fs₀ fs : FileStore Path Line) (p : Path) : List Line :=
  (fs.contents p).drop (skipped fs₀ p)

/-- A file has kept what was there, or has its header. -/
def Headed (fs₀ fs : FileStore Path Line) (p : Path) : Prop :=
  ∀ lines, fs p = some lines → skipped fs₀ p ≤ lines.length

/-- Files 1 to `n` of a series, in order. -/
def seriesSince (path : ℤ → Path) (fs₀ fs : FileStore Path Line) (n : ℕ) : List Line :=
  (List.range n).flatMap fun (k : ℕ) => since fs₀ fs (path (k+1))

theorem since_congr (fs₀ fs fs' : FileStore Path Line) (p : Path) (h : fs' p = fs p) :
    since fs₀ fs' p = since fs₀ fs p := by
  rw [since, since, contents, contents, h]

theorem since_self (fs : FileStore Path Line) (p : Path) : since fs fs p = [] := by
  rw [since, contents, skipped]
  rcases fs p with _ | old
  · rfl
  · exact List.drop_length

theorem headed_self (fs : FileStore Path Line) (p : Path) : Headed fs fs p := by
  intro lines h
  simp only [skipped, h]
  omega

theorem headed_congr (fs₀ fs fs' : FileStore Path Line) (p : Path) (h : fs' p = fs p)
    (hh : Headed fs₀ fs p) : Headed fs₀ fs' p := by
  intro lines hl
  exact hh lines (h ▸ hl)

theorem seriesSince_succ (path : ℤ → Path) (fs₀ fs : FileStore Path Line) (n : ℕ) :
    seriesSince path fs₀ fs (n+1) = seriesSince path fs₀ fs n ++ since fs₀ fs (path (n+1)) := by
  rw [seriesSince, List.range_succ, List.flatMap_append, seriesSince]
  simp

theorem seriesSince_congr (path : ℤ → Path) (fs₀ fs fs' : FileStore Path Line) (n : ℕ)
    (h : ∀ k : ℕ, k < n → fs' (path (k+1)) = fs (path (k+1))) :
    seriesSince path fs₀ fs' n = seriesSince path fs₀ fs n := by
  induction n with
  | zero => rfl
  | succ n ih =>
    have hlast := since_congr fs₀ fs fs' _ (h n n.lt_succ_self)
    rw [seriesSince_succ, seriesSince_succ, ih fun k hk => h k (Nat.lt_succ_of_lt hk), hlast]

variable [DecidableEq Path]

/-- A file that begins with its header, which is followed by rows only. -/
def WellHeaded (header : Line) (IsRow : Line → Prop) (lines : List Line) : Prop :=
  ∃ rows, lines = header :: rows ∧ header ∉ rows ∧ ∀ row ∈ rows, IsRow row

/-- The files of one kind are absent or well headed. -/
def AllHeaded (kind : Path → Prop) (header : Line) (IsRow : Line → Prop)
    (fs : FileStore Path Line) : Prop :=
  ∀ p lines, kind p → fs p = some lines → WellHeaded header IsRow lines

/-- There are files of one kind only. -/
def OnlyAt (kind : Path → Prop) (fs : FileStore Path Line) : Prop := ∀ p, fs p ≠ none → kind p

/-- `APPEND` without `CREATE`: the file must exist. -/
def append (fs : FileStore Path Line) (p : Path) (lines : List Line) :
    Option (FileStore Path Line) :=
  (fs p).map fun old => Function.update fs p (some (old ++ lines))

/-- `CREATE` for a file that is not there. -/
def create (fs : FileStore Path Line) (p : Path) (lines : List Line) : FileStore Path Line :=
  Function.update fs p (some lines)

section Append

variable (fs₀ fs fs' : FileStore Path Line) (p : Path) (lines : List Line)

theorem append_eq_some (h : fs.append p lines = some fs') :
    ∃ old, fs p = some old ∧ fs' = Function.update fs p (some (old ++ lines)) := by
  obtain ⟨old, hold, heq⟩ := Option.map_eq_some_iff.mp h
  exact ⟨old, hold, heq.symm⟩

theorem append_other (q : Path) (hq : q ≠ p) (h : fs.append p lines = some fs') : fs' q = fs q := by
  obtain ⟨old, -, rfl⟩ := append_eq_some fs fs' p lines h
  exact Function.update_of_ne hq _ _

theorem contents_append (h : fs.append p lines = some fs') :
    fs'.contents p = fs.contents p ++ lines := by
  obtain ⟨old, hold, rfl⟩ := append_eq_some fs fs' p lines h
  rw [contents, contents, Function.update_self, hold]
  rfl

theorem mem_contents_append (q : Path) (line : Line) (h : fs.append p lines = some fs') :
    line ∈ fs'.contents q ↔ line ∈ fs.contents q ∨ q = p ∧ line ∈ lines := by
  by_cases hq : q = p
  · subst hq
    rw [contents_append fs fs' q lines h, List.mem_append]
    simp
  · rw [contents, append_other fs fs' p lines q hq h, ← contents]
    simp [hq]

theorem since_append (hh : Headed fs₀ fs p) (h : fs.append p lines = some fs') :
    since fs₀ fs' p = since fs₀ fs p ++ lines := by
  obtain ⟨old, hold, -⟩ := append_eq_some fs fs' p lines h
  rw [since, contents_append fs fs' p lines h, since]
  apply List.drop_append_of_le_length
  rw [contents, hold]
  exact hh old hold

theorem headed_append (q : Path) (hh : Headed fs₀ fs q) (h : fs.append p lines = some fs') :
    Headed fs₀ fs' q := by
  by_cases hq : q = p
  · subst hq
    obtain ⟨old, hold, rfl⟩ := append_eq_some fs fs' q lines h
    intro lines' h'
    rw [Function.update_self] at h'
    cases h'
    have hle := hh old hold
    rw [List.length_append]
    omega
  · exact headed_congr fs₀ fs fs' q (append_other fs fs' p lines q hq h) hh

/-- A series grows at its last file. -/
theorem seriesSince_append (path : ℤ → Path) (hpath : Function.Injective path) (n : ℕ)
    (hh : Headed fs₀ fs (path (n+1))) (h : fs.append (path (n+1)) lines = some fs') :
    seriesSince path fs₀ fs' (n+1) = seriesSince path fs₀ fs (n+1) ++ lines := by
  have hold : seriesSince path fs₀ fs' n = seriesSince path fs₀ fs n := by
    apply seriesSince_congr
    intro k hk
    apply append_other fs fs' _ lines _ _ h
    intro he
    have hkn : (k:ℤ)+1 = n+1 := hpath he
    omega
  rw [seriesSince_succ, seriesSince_succ, hold, since_append fs₀ fs fs' _ lines hh h,
    List.append_assoc]

end Append

section Create

variable (fs₀ fs : FileStore Path Line) (p : Path) (header : Line)

theorem since_create (h₀ : fs₀ p = none) : since fs₀ (fs.create p [header]) p = [] := by
  rw [since, contents, create, Function.update_self, skipped, h₀]
  rfl

theorem create_other (q : Path) (hq : q ≠ p) : fs.create p [header] q = fs q :=
  Function.update_of_ne hq _ _

theorem mem_contents_create (q : Path) (line : Line) (h : fs p = none) :
    line ∈ (fs.create p [header]).contents q ↔ line ∈ fs.contents q ∨ q = p ∧ line = header := by
  by_cases hq : q = p
  · subst hq
    rw [contents, create, Function.update_self, contents, h]
    simp
  · rw [contents, create_other fs p header q hq, ← contents]
    simp [hq]

theorem headed_create (q : Path) (h₀ : fs₀ p = none) (hh : Headed fs₀ fs q) :
    Headed fs₀ (fs.create p [header]) q := by
  by_cases hq : q = p
  · subst hq
    intro lines h
    rw [create, Function.update_self] at h
    cases h
    simp [skipped, h₀]
  · exact headed_congr fs₀ fs _ q (create_other fs p header q hq) hh

end Create

section AllHeaded

variable {kind : Path → Prop} {header : Line} {IsRow : Line → Prop} {fs fs' : FileStore Path Line}

theorem wellHeaded_append (lines rows : List Line) (hheader : ¬IsRow header)
    (h : WellHeaded header IsRow lines) (hrows : ∀ row ∈ rows, IsRow row) :
    WellHeaded header IsRow (lines ++ rows) := by
  obtain ⟨old, rfl, hnot, hold⟩ := h
  refine ⟨old ++ rows, rfl, ?_, ?_⟩
  · rw [List.mem_append]
    rintro (hmem | hmem)
    · exact hnot hmem
    · exact hheader (hrows header hmem)
  · intro row hrow
    exact (List.mem_append.mp hrow).elim (hold row) (hrows row)

/-- A file gets its lines; the others stay. -/
theorem AllHeaded.update (h : AllHeaded kind header IsRow fs) (p : Path) (lines : List Line)
    (hlines : kind p → WellHeaded header IsRow lines) :
    AllHeaded kind header IsRow (Function.update fs p (some lines)) := by
  intro q lines' hq hf
  by_cases hqp : q = p
  · subst hqp
    rw [Function.update_self] at hf
    cases hf
    exact hlines hq
  · rw [Function.update_of_ne hqp] at hf
    exact h q lines' hq hf

theorem AllHeaded.append (h : AllHeaded kind header IsRow fs) (hheader : ¬IsRow header) (p : Path)
    (rows : List Line) (hrows : kind p → ∀ row ∈ rows, IsRow row)
    (ha : fs.append p rows = some fs') : AllHeaded kind header IsRow fs' := by
  obtain ⟨old, hold, rfl⟩ := append_eq_some fs fs' p rows ha
  apply h.update
  exact fun hp => wellHeaded_append old rows hheader (h p old hp hold) (hrows hp)

theorem OnlyAt.update (h : OnlyAt kind fs) (p : Path) (hp : kind p) (lines : List Line) :
    OnlyAt kind (Function.update fs p (some lines)) := by
  intro q hq
  by_cases hqp : q = p
  · exact hqp ▸ hp
  · rw [Function.update_of_ne hqp] at hq
    exact h q hq

theorem OnlyAt.append (h : OnlyAt kind fs) (p : Path) (hp : kind p) (rows : List Line)
    (ha : fs.append p rows = some fs') : OnlyAt kind fs' := by
  obtain ⟨old, -, rfl⟩ := append_eq_some fs fs' p rows ha
  exact h.update p hp _

end AllHeaded

end FileStore

end MmWaveTracker
