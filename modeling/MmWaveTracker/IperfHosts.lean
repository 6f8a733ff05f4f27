import MmWaveTracker.IperfDialog

/-! The list of hosts of `IperfDialog` over several openings: the spinner shows the lines of
the file, and a save looks its position up in a static list. -/
namespace MmWaveTracker.IperfDialog

open JavaText

/-- A line of `hostnames.csv`. -/
@[ext]
structure HostLine where
  label : String
  address : String
  label_unsplit : ',' ∉ label.toList
  address_unsplit : ',' ∉ address.toList
  address_ne_empty : address ≠ ""
  deriving DecidableEq

def HostLine.text (line : HostLine) : String := line.label ++ "," ++ line.address

def HostLine.host (line : HostLine) : String × String := (line.label, line.address)

/-- The loop of `onCreateDialog` over the lines of the file: the items of the spinner, and the
position that it starts with. -/
def loadHosts (i position : ℕ) : List String → Java MapActivity (List String × ℕ)
  | [] => pure ([], position)
  | iperf_host :: rest => do
    let vals := split ',' iperf_host.toList
    let label ← element vals 0
    let address ← element vals 1
    Java.modify fun s => { s with
      iperf_HostNames_all := s.iperf_HostNames_all ++
        [(String.ofList label, String.ofList address)] }
    let s ← Java.get
    let found := s.iperf_HostName = some (String.ofList address) ∧
      s.iperf_HostName_label = some (String.ofList label)
    let (mItems, position) ← loadHosts (i+1) (if found then i else position) rest
    pure (String.ofList label :: mItems, position)

/-- The app, with the lines that the dialog on the screen has read, and those that were read at all
openings, one opening after the other. -/
structure Screen where
  statics : MapActivity := {}
  shown : Option (List HostLine) := none
  read : List HostLine := []

/-- The dialog is opened, with `none` if the file cannot be read, cancelled or saved. -/
inductive ScreenEvent where
  | openDialog (file : Option (List HostLine))
  | cancel
  | save (form : Form)

section Screen

variable (digit : Char → Option ℕ)

/-- The spinner stands at one of its items. What a method throws ends the app. -/
def screenStep (s : Screen) : ScreenEvent → Option Screen
  | .openDialog none => some { s with shown := some [] }
  | .openDialog (some lines) =>
    match (loadHosts 0 0 (lines.map HostLine.text)).run s.statics with
    | (.ok _, statics) => some { s with statics, shown := some lines, read := s.read ++ lines }
    | (.error _, _) => none
  | .cancel => s.shown.map fun _ => { s with shown := none }
  | .save form => s.shown.bind fun lines =>
    if form.spinnerHostName < lines.length then
      match (save digit form).run s.statics with
      | (.ok _, statics) => some { s with statics, shown := none }
      | (.error _, _) => none
    else none

/-- A save takes the host from the line of the file at the spinner's position. -/
def SavesShown (s : Screen) : ScreenEvent → Prop
  | .save form => ∀ lines s', s.shown = some lines → screenStep digit s (.save form) = some s' →
    ∃ line, lines[form.spinnerHostName.toNat]? = some line ∧
      s'.statics.iperf_HostName_label = some line.label ∧
      s'.statics.iperf_HostName = some line.address
  | _ => True

/-- At the spinner's position the file has the same line as all that was read since the start. -/
def ReadAgrees (s : Screen) : ScreenEvent → Prop
  | .save form => s.shown.all fun lines =>
    s.read[form.spinnerHostName.toNat]? = lines[form.spinnerHostName.toNat]?
  | _ => True

instance (s : Screen) (e : ScreenEvent) : Decidable (ReadAgrees s e) := by
  cases e
  all_goals
    unfold ReadAgrees
    infer_instance

def Screen.Listed (s : Screen) : Prop := s.statics.iperf_HostNames_all = s.read.map HostLine.host

theorem split_text (line : HostLine) :
    split ',' line.text.toList = [line.label.toList, line.address.toList] := by
  have hne : line.address.toList ≠ [] := by
    rw [ne_eq, String.toList_eq_nil_iff]
    exact line.address_ne_empty
  have htext : line.text.toList = line.label.toList ++ ',' :: line.address.toList := by
    rw [HostLine.text, String.toList_append, String.toList_append, List.append_assoc]
    rfl
  rw [htext]
  exact split_pair ',' _ _ line.label_unsplit line.address_unsplit hne

/-- Every opening appends its lines to the static list. -/
theorem loadHosts_run (i position : ℕ) (lines : List HostLine) (s : MapActivity) :
    ∃ position', (loadHosts i position (lines.map HostLine.text)).run s =
      (.ok (lines.map HostLine.label, position'),
        { s with iperf_HostNames_all := s.iperf_HostNames_all ++ lines.map HostLine.host }) := by
  induction lines generalizing i position s with
  | nil =>
    refine ⟨position, ?_⟩
    rw [List.map_nil, List.map_nil, List.map_nil, List.append_nil]
    rfl
  | cons line lines ih =>
    let s₁ : MapActivity := { s with iperf_HostNames_all := s.iperf_HostNames_all ++ [line.host] }
    let found := s₁.iperf_HostName = some line.address ∧ s₁.iperf_HostName_label = some line.label
    obtain ⟨position', hrest⟩ := ih (i+1) (if found then i else position) s₁
    refine ⟨position', ?_⟩
    rw [List.map_cons, loadHosts]
    dsimp only
    rw [split_text, Java.bind_ok _ _ s s line.label.toList rfl,
      Java.bind_ok _ _ s s line.address.toList rfl]
    simp only [String.ofList_toList]
    rw [Java.bind_ok _ _ s s₁ () rfl, Java.bind_ok _ _ s₁ s₁ s₁ rfl, Java.bind_ok _ _ _ _ _ hrest]
    change (Except.ok (line.label :: lines.map HostLine.label, position'), _) = (_, _)
    have hhosts : s.iperf_HostNames_all ++ (line :: lines).map HostLine.host =
        s₁.iperf_HostNames_all ++ lines.map HostLine.host := by
      rw [List.map_cons, List.append_cons]
    rw [hhosts]
    rfl

variable {digit}

theorem listed_step (s : Screen) (e : ScreenEvent) (s' : Screen)
    (hstep : screenStep digit s e = some s') (h : s.Listed) : s'.Listed := by
  cases e with
  | openDialog file =>
    cases file with
    | none =>
      cases hstep
      exact h
    | some lines =>
      obtain ⟨position, hrun⟩ := loadHosts_run 0 0 lines s.statics
      rw [screenStep, hrun] at hstep
      cases hstep
      unfold Screen.Listed at h ⊢
      rw [List.map_append, ← h]
  | cancel =>
    obtain ⟨lines, -, rfl⟩ := Option.map_eq_some_iff.mp hstep
    exact h
  | save form =>
    obtain ⟨lines, -, hsave⟩ := Option.bind_eq_some_iff.mp hstep
    split at hsave
    · split at hsave
      · next statics hrun =>
        cases hsave
        exact (saved_of_save hrun).hosts.trans h
      · cases hsave
    · cases hsave

/-- The host comes from the static list. -/
theorem saved_host {s s' : Screen} {form : Form} (hstep : screenStep digit s (.save form) = some s')
    (h : s.Listed) : ∃ lines line listed, s.shown = some lines ∧
      lines[form.spinnerHostName.toNat]? = some line ∧
      s.read[form.spinnerHostName.toNat]? = some listed ∧
        s'.statics.iperf_HostName_label = some listed.label ∧
      s'.statics.iperf_HostName = some listed.address := by
  obtain ⟨lines, hshown, hsave⟩ := Option.bind_eq_some_iff.mp hstep
  split at hsave
  · next hlt =>
    split at hsave
    · next statics hrun =>
      cases hsave
      obtain ⟨host, hpos, hhost, hname, hlabel⟩ := (saved_of_save hrun).host
      rw [h, List.getElem?_map] at hhost
      obtain ⟨listed, hlisted, rfl⟩ := Option.map_eq_some_iff.mp hhost
      have hbound : form.spinnerHostName.toNat < lines.length := by omega
      exact ⟨lines, lines[form.spinnerHostName.toNat], listed, hshown,
        List.getElem?_eq_getElem hbound, hlisted, hlabel,
        hname⟩
    · cases hsave
  · cases hsave

theorem savesShown_iff (s : Screen) (e : ScreenEvent) (s' : Screen)
    (hstep : screenStep digit s e = some s') (h : s.Listed) :
    SavesShown digit s e ↔ ReadAgrees s e := by
  cases e with
  | openDialog file => exact Iff.rfl
  | cancel => exact Iff.rfl
  | save form =>
    obtain ⟨lines, line, listed, hshown, hline, hlisted, hlabel, hname⟩ := saved_host hstep h
    have hagrees : ReadAgrees s (.save form) ↔ listed = line := by
      simp only [ReadAgrees, hshown, Option.all_some, decide_eq_true_eq, hlisted, hline,
        Option.some.injEq]
    rw [hagrees]
    constructor
    · intro hshows
      obtain ⟨line', hline', hlabel', hname'⟩ := hshows lines s' hshown hstep
      rw [hline] at hline'
      cases hline'
      rw [hlabel] at hlabel'
      rw [hname] at hname'
      exact HostLine.ext (Option.some.inj hlabel') (Option.some.inj hname')
    · rintro rfl lines' s'' hshown' hstep'
      rw [hshown] at hshown'
      rw [hstep] at hstep'
      cases hshown'
      cases hstep'
      exact ⟨listed, hline, hlabel, hname⟩

/-- In a run all saves store what the spinner shows exactly if at each of them the file has,
at the spinner's position, the line that stands there among all lines read since the start. -/
theorem host_saved_iff (digit : Char → Option ℕ) (events : List ScreenEvent) (t : Screen)
    (hrun : runEvents (screenStep digit) {} events = some t) :
    Along (screenStep digit) (SavesShown digit) {} events ↔
      Along (screenStep digit) ReadAgrees {} events :=
  along_iff_along (screenStep digit) _ _ Screen.Listed listed_step savesShown_iff events {} t hrun
    rfl

end Screen

def newYork : HostLine := ⟨"New York", "10.0.0.1", by decide, by decide, by decide⟩

def chicago : HostLine := ⟨"Chicago", "10.0.0.2", by decide, by decide, by decide⟩

/-- The file is the same at both openings. -/
theorem host_saved_unchanged : Along (screenStep latinDigit) (SavesShown latinDigit) {}
    [.openDialog (some [newYork, chicago]), .cancel, .openDialog (some [newYork, chicago]),
      .save { spinnerHostName := 1 }] :=
  (host_saved_iff latinDigit _ _ rfl).mpr (by decide)

/-- The file is another one at the second opening. -/
theorem host_saved_fails : ¬Along (screenStep latinDigit) (SavesShown latinDigit) {}
    [.openDialog (some [newYork]), .cancel, .openDialog (some [chicago]), .save {}] := by
  intro h
  obtain ⟨line, hline, hlabel, -⟩ := (((h.2 _ rfl).2 _ rfl).2 _ rfl).1 [chicago] _ rfl rfl
  cases hline
  exact absurd hlabel (by decide)

end MmWaveTracker.IperfDialog
