import MmWaveTracker.Config
import MmWaveTracker.EventRun
import MmWaveTracker.IperfDialog
import Mathlib.Data.Finset.Card

/-! `PermissionsActivity`: the list of permissions, the answers that come back for them, and
the number "perms-left" in its preferences. -/
namespace MmWaveTracker.Permissions

open IperfDialog (element)

def numPermissionsNeeded : ℕ := 11

def permissionNamesFull : List String :=
  ["ACCESS_FINE_LOCATION", "ACCESS_COARSE_LOCATION", "ACCESS_BACKGROUND_LOCATION",
    "ACCESS_LOCATION_EXTRA_COMMANDS", "WRITE_EXTERNAL_STORAGE", "READ_EXTERNAL_STORAGE",
      "READ_PHONE_STATE", "ACTIVITY_RECOGNITION", "WRITE_SETTINGS",
    "USAGE_ACCESS_SETTINGS", "INTERNET"]

def permissionNames : List String :=
  ["Fine Location", "Coarse Location", "Background Location", "Location Extra", "Write External",
    "Read External", "Read Phone State", "Activity Recognition", "Write Settings",
      "Usage Access Settings", "Internet"]

/-- `PackageManager.PERMISSION_GRANTED`. -/
def permissionGranted : ℤ := 0

abbrev View := ℕ

/-- The activity on the screen, which runs until an exception ends the process, and what it leaves
behind: the views with a blue background, the permissions that the platform has been asked for, and
the values that were put under "perms-left", the last of which is there now. -/
structure Phone where
  running : Bool := false
  permsLeft : ℤ := 0
  permsSet : String → Option Bool := fun _ => none
  lvElements : List (Option View) := []
  permBt : Bool := true
  blue : List View := []
  asked : List String := []
  intents : List String := []
  toasts : List String := []
  stored : List ℤ := []

def Phone.perms_left (s : Phone) : ℤ := s.stored.getLast?.getD numPermissionsNeeded

def startActivity (intent : String) : Java Phone Unit :=
  Java.modify fun s => { s with intents := s.intents ++ [intent] }

def makeText (text : String) : Java Phone Unit :=
  Java.modify fun s => { s with toasts := s.toasts ++ [text] }

def requestPermissions (permission : String) : Java Phone Unit :=
  Java.modify fun s => { s with asked := s.asked ++ [permission] }

def onCreate : Java Phone Unit := do
  let s ← Java.get
  -- all permissions were set before; the activity goes on all the same
  if s.perms_left = 0 then startActivity "DeviceActivity"
  Java.modify fun s =>
    { s with
      running := true
      permsLeft := numPermissionsNeeded
      permsSet := fun name => if name ∈ permissionNamesFull then some false else none
      lvElements := List.replicate numPermissionsNeeded none
      permBt := true
      blue := [] }

def indexOfPerm (permName : String) : ℤ :=
  JavaText.index (permissionNamesFull.findIdx? (· = permName))

/-- The permission has just been set for the first time. -/
def Phone.set (s : Phone) (permName : String) (view : View) : Phone :=
  { s with
    blue := s.blue ++ [view]
    permsSet := Function.update s.permsSet permName (some true)
    permsLeft := s.permsLeft-1 }

/-- Keep the preferences consistent with `permsLeft`. -/
def Phone.settle (s : Phone) : Phone :=
  if s.permsLeft ≤ 0 then { s with stored := s.stored ++ [0], permBt := true } else s

def handlePermGrant (permName : String) : Java Phone Unit := do
  let s ← Java.get
  -- the tables are taken to be in the same order
  let view ← element s.lvElements (indexOfPerm permName)
  if s.permsSet permName = some false then
    let view ← Java.nonNull view
    Java.modify fun s => s.set permName view
  Java.modify Phone.settle

/-- What an element of the list leads to: a dialog of the platform, or a screen of the
settings with a check right behind. -/
inductive Request where
  | dialog (permission : String)
  | settings (intent permission permName : String)
  | nothing
  deriving DecidableEq

/-- The cases of `requestPermission`. -/
def request (sdkInt : ℤ) : String → Request
  | "Coarse Location" => .dialog "android.permission.ACCESS_COARSE_LOCATION"
  | "Fine Location" => .dialog "android.permission.ACCESS_FINE_LOCATION"
  | "Location Extra" => .dialog "android.permission.ACCESS_LOCATION_EXTRA_COMMANDS"
  | "Background Location" =>
    if sdkInt ≥ versionCodeQ then .dialog "android.permission.ACCESS_BACKGROUND_LOCATION"
      else .nothing
  | "Write External" => .dialog "android.permission.WRITE_EXTERNAL_STORAGE"
  | "Read External" => .dialog "android.permission.READ_EXTERNAL_STORAGE"
  | "Read Phone State" => .dialog "android.permission.READ_PHONE_STATE"
  | "Internet" => .dialog "android.permission.INTERNET"
  | "Activity Recognition" =>
      if sdkInt ≥ versionCodeQ then .dialog "android.permission.ACTIVITY_RECOGNITION" else .nothing
  | "Write Settings" => .settings "ACTION_MANAGE_WRITE_SETTINGS" "android.permission.WRITE_SETTINGS"
      "WRITE_SETTINGS"
  | "Usage Access Settings" =>
    .settings "ACTION_USAGE_ACCESS_SETTINGS" "android.permission.PACKAGE_USAGE_STATS"
      "USAGE_ACCESS_SETTINGS"
  | _ => .nothing

/-- `checkSelfPermission` is what the platform answers at this moment. -/
def requestPermission (sdkInt : ℤ) (checkSelfPermission : String → ℤ) (perm : String) :
    Java Phone Unit :=
  match request sdkInt perm with
  | .dialog permission => requestPermissions permission
  | .settings intent permission permName => do
    startActivity intent
    -- what is not granted is handled as granted
    if checkSelfPermission permission ≠ permissionGranted then handlePermGrant permName
    else makeText "Permission was not granted"
  | .nothing => pure ()

def onItemClick (sdkInt : ℤ) (checkSelfPermission : String → ℤ) (view : View) (i : ℕ) :
    Java Phone Unit := do
  let perm ← element permissionNames i
  let s ← Java.get
  let _ ← element s.lvElements i
  Java.modify fun s => { s with lvElements := s.lvElements.set i (some view) }
  requestPermission sdkInt checkSelfPermission perm

def onRequestPermissionsResult (permissions : List String) (grantResults : List ℤ) :
    Java Phone Unit := do
  -- a cancelled request has no first result
  let grantResult ← element grantResults 0
  if grantResult ≠ permissionGranted then makeText "Permission was not granted"
  else
    let permission ← element permissions 0
    let parts := JavaText.splitLimit '.' 3 permission.toList
    let part ← element parts 2
    handlePermGrant (String.ofList part)

/-! What can happen to the activity. -/

inductive Event where
  /-- It is created, also once more after an exception. -/
  | create
  | click (i : ℕ) (view : View) (checkSelfPermission : String → ℤ)
  | result (permission : String) (grantResult : ℤ)
  /-- A request that was cancelled comes back with empty arrays. -/
  | cancelled

section Events

variable (sdkInt : ℤ)

def Event.handler : Event → Java Phone Unit
  | .create => onCreate
  | .click i view checkSelfPermission => onItemClick sdkInt checkSelfPermission view i
  | .result permission grantResult => onRequestPermissionsResult [permission] [grantResult]
  | .cancelled => onRequestPermissionsResult [] []

/-- An element of the list is clicked, or an answer comes for a permission that the app asks
for at some time, whether or not it has been asked for yet. -/
def Event.Possible (s : Phone) : Event → Prop
  | .create => True
  | .click i _ _ => s.running = true ∧ i < permissionNames.length
  | .result permission _ =>
      s.running = true ∧ ∃ perm ∈ permissionNames, request sdkInt perm = .dialog permission
  | .cancelled => s.running = true

instance (s : Phone) : (e : Event) → Decidable (e.Possible sdkInt s)
  | .create => .isTrue trivial
  | .click _ _ _ => inferInstanceAs (Decidable (_ ∧ _))
  | .result _ _ => inferInstanceAs (Decidable (_ ∧ _))
  | .cancelled => inferInstanceAs (Decidable (_ = _))

/-- An exception that is not caught ends the process. -/
def after (s : Phone) (e : Event) : Phone :=
  match (e.handler sdkInt).run s with
  | (.ok _, t) => t
  | (.error _, t) => { t with running := false }

def step (s : Phone) (e : Event) : Option Phone :=
  if e.Possible sdkInt s then some (after sdkInt s e) else none

end Events

/-- The names that are still false. -/
def Phone.missing (s : Phone) : Finset String :=
  permissionNamesFull.toFinset.filter fun name => s.permsSet name = some false

/-- The permission that belongs to a name. -/
def permissionOf (permName : String) : String :=
  if permName = "USAGE_ACCESS_SETTINGS" then "android.permission.PACKAGE_USAGE_STATS"
  else "android.permission." ++ permName

/-- The platform says that the permission is granted. -/
def Event.Grants (permName : String) : Event → Prop
  | .click _ _ checkSelfPermission =>
      checkSelfPermission (permissionOf permName) = permissionGranted
  | .result permission grantResult =>
      permission = permissionOf permName ∧ grantResult = permissionGranted
  | _ => False

/-- What is expected of one step. -/
structure Fits (sdkInt : ℤ) (s : Phone) (e : Event) : Prop where
  no_index_error : ((e.handler sdkInt).run s).1 ≠ .error .indexOutOfBounds
  counted : (after sdkInt s e).permsLeft = (after sdkInt s e).missing.card
  granted : ∀ permName, s.permsSet permName ≠ some true →
    (after sdkInt s e).permsSet permName = some true → e.Grants permName
  stored : (after sdkInt s e).stored ≠ s.stored →
    ∀ permName ∈ permissionNamesFull, (after sdkInt s e).permsSet permName = some true

/-- No request is cancelled, and a special setting is clicked only when it is granted. -/
def Event.Answered (sdkInt : ℤ) : Event → Prop
  | .click i _ checkSelfPermission => ∀ perm ∈ permissionNames[i]?, ∀ intent permission permName,
      request sdkInt perm = .settings intent permission permName →
        checkSelfPermission permission = permissionGranted
  | .cancelled => False
  | _ => True

/-! The names. -/

theorem element_of_lt {σ α : Type} (values : List α) (i : ℕ) (h : i < values.length) :
    (element values i : Java σ α) = pure values[i] := by
  unfold element
  rw [if_neg (by omega), Int.toNat_natCast, List.getElem?_eq_getElem h]

def settingsNames : List String := ["WRITE_SETTINGS", "USAGE_ACCESS_SETTINGS"]

/-- A request is about the name at the same place, which a dialog says in its permission. -/
def Request.Matches (permName : String) : Request → Prop
  | .dialog permission => permName ∉ settingsNames ∧ permission = permissionOf permName ∧
      JavaText.splitLimit '.' 3 permission.toList = ["android".toList, "permission".toList,
        permName.toList]
  | .settings _ permission name =>
      name = permName ∧ permName ∈ settingsNames ∧ permission = permissionOf permName
  | .nothing => True

instance (permName : String) : (r : Request) → Decidable (r.Matches permName)
  | .dialog _ => inferInstanceAs (Decidable (_ ∧ _))
  | .settings _ _ _ => inferInstanceAs (Decidable (_ ∧ _))
  | .nothing => .isTrue trivial

/-- Only the version Q makes a difference. -/
theorem request_eq (sdkInt : ℤ) (perm : String) : request sdkInt perm = request versionCodeQ perm ∨
    request sdkInt perm = request 0 perm := by
  by_cases hQ : sdkInt ≥ versionCodeQ
  · left
    simp only [request, if_pos hQ, if_pos le_rfl]
  · right
    simp only [request, if_neg hQ, if_neg (show ¬0 ≥ versionCodeQ by decide)]

/-- The two tables of names are in the same order. -/
theorem request_matches (sdkInt : ℤ) : ∀ names ∈ permissionNames.zip permissionNamesFull,
    (request sdkInt names.1).Matches names.2 := by
  have hboth : ∀ names ∈ permissionNames.zip permissionNamesFull,
      (request versionCodeQ names.1).Matches names.2 ∧ (request 0 names.1).Matches names.2 := by
    decide +kernel
  intro names hnames
  rcases request_eq sdkInt names.1 with heq | heq <;> rw [heq]
  · exact (hboth names hnames).1
  · exact (hboth names hnames).2

theorem exists_name (i : ℕ) (perm : String) (h : permissionNames[i]? = some perm) :
    ∃ permName, permissionNamesFull[i]? = some permName ∧
      (perm, permName) ∈ permissionNames.zip permissionNamesFull := by
  obtain ⟨hlt, -⟩ := List.getElem?_eq_some_iff.mp h
  have hfull : i < permissionNamesFull.length := hlt
  have hsome := List.getElem?_eq_getElem hfull
  exact ⟨_, hsome, List.mem_of_getElem? (List.getElem?_zip_eq_some.mpr ⟨h, hsome⟩)⟩

theorem indexOfPerm_getElem (i : ℕ) (permName : String)
    (h : permissionNamesFull[i]? = some permName) :
    indexOfPerm permName = i := by
  obtain ⟨hlt, hget⟩ := List.getElem?_eq_some_iff.mp h
  have hnodup : permissionNamesFull.Nodup := by decide
  have hfirst : permissionNamesFull.findIdx? (· = permName) = some i := by
    refine List.findIdx?_eq_some_iff_getElem.mpr ⟨hlt, decide_eq_true hget, fun j hj => ?_⟩
    intro heq
    have hsame := (of_decide_eq_true heq).trans hget.symm
    exact hj.ne (hnodup.getElem_inj_iff.mp hsame)
  rw [indexOfPerm, hfirst]
  rfl

/-! The names that are missing. -/

/-- The activity has a number, a value for each name and a place for each view. -/
structure Wellformed (s : Phone) : Prop where
  counted : s.permsLeft = s.missing.card
  keys : s.running = true → ∀ permName ∈ permissionNamesFull, s.permsSet permName ≠ none
  elements : s.running = true → s.lvElements.length = numPermissionsNeeded

theorem mem_missing (s : Phone) (permName : String) :
    permName ∈ s.missing ↔ permName ∈ permissionNamesFull ∧ s.permsSet permName = some false := by
  rw [Phone.missing, Finset.mem_filter, List.mem_toFinset]

/-- A name that is set is missing no more. -/
theorem missing_set (s : Phone) (permName : String) (view : View) :
    (s.set permName view).missing = s.missing.erase permName := by
  ext name
  rw [Finset.mem_erase, mem_missing, mem_missing]
  by_cases hname : name = permName
  · subst hname
    have hset : (s.set name view).permsSet name = some true := Function.update_self _ _ _
    simp [hset]
  · have hother : (s.set permName view).permsSet name = s.permsSet name :=
      Function.update_of_ne hname _ _
    rw [hother, and_iff_right hname]

theorem counted_set (s : Phone) (permName : String) (view : View) (h : s.permsLeft = s.missing.card)
    (hmem : permName ∈ s.missing) :
    (s.set permName view).permsLeft = (s.set permName view).missing.card := by
  have hpos := Finset.card_pos.mpr ⟨permName, hmem⟩
  rw [missing_set, Finset.card_erase_of_mem hmem]
  change s.permsLeft-1 = _
  omega

theorem settle_cases (s : Phone) : 0 < s.permsLeft ∧ s.settle = s ∨
    s.permsLeft ≤ 0 ∧ s.settle = { s with stored := s.stored ++ [0], permBt := true } := by
  by_cases hleft : s.permsLeft ≤ 0
  · exact .inr ⟨hleft, if_pos hleft⟩
  · exact .inl ⟨not_le.mp hleft, if_neg hleft⟩

/-- A name that is not true is missing. -/
theorem mem_missing_of_ne (s : Phone) (h : Wellformed s) (hrunning : s.running = true)
    (permName : String) (hmem : permName ∈ permissionNamesFull)
    (hne : s.permsSet permName ≠ some true) : permName ∈ s.missing := by
  refine (mem_missing s permName).mpr ⟨hmem, ?_⟩
  cases hvalue : s.permsSet permName with
  | none => exact absurd hvalue (h.keys hrunning permName hmem)
  | some value =>
    cases value with
    | true => exact absurd hvalue hne
    | false => rfl

/-- Nothing is missing when the number is 0. -/
theorem all_set (s : Phone) (h : Wellformed s) (hrunning : s.running = true)
    (hleft : s.permsLeft ≤ 0) :
    ∀ permName ∈ permissionNamesFull, s.permsSet permName = some true := by
  have hempty : s.missing = ∅ := by
    have hcounted := h.counted
    exact Finset.card_eq_zero.mp (by omega)
  intro permName hmem
  by_contra hne
  have hmissing := mem_missing_of_ne s h hrunning permName hmem hne
  rw [hempty] at hmissing
  exact Finset.notMem_empty permName hmissing

/-! What a step does. -/

/-- No more than these names are set, and the number is stored at the right time. -/
structure Marked (names : List String) (s t : Phone) : Prop where
  wellformed : Wellformed t
  others : ∀ name ∉ names, t.permsSet name = s.permsSet name
  stored : t.stored ≠ s.stored → ∀ name ∈ permissionNamesFull, t.permsSet name = some true

theorem marked_of_same (names : List String) {s t : Phone} (ht : Wellformed t)
    (hpermsSet : t.permsSet = s.permsSet) (hstored : t.stored = s.stored) : Marked names s t :=
  ⟨ht, fun name _ => congrFun hpermsSet name, fun hne => absurd hstored hne⟩

theorem ok_ne_error {e : Throwable} : (Except.ok () : Except Throwable Unit) ≠ .error e := by
  intro h
  cases h

theorem marked_settle (names : List String) (s t : Phone) (ht : Wellformed t)
    (hrunning : t.running = true) (hothers : ∀ name ∉ names, t.permsSet name = s.permsSet name)
    (hstored : t.stored = s.stored) :
    Marked names s t.settle := by
  rcases settle_cases t with ⟨-, heq⟩ | ⟨hleft, heq⟩
  · rw [heq]
    exact ⟨ht, hothers, fun hne => absurd hstored hne⟩
  · rw [heq]
    exact ⟨⟨ht.counted, ht.keys, ht.elements⟩, hothers, fun _ => all_set t ht hrunning hleft⟩

theorem settle_permsSet (s : Phone) : s.settle.permsSet = s.permsSet := by
  rcases settle_cases s with ⟨-, heq⟩ | ⟨-, heq⟩ <;> rw [heq]

theorem handlePermGrant_run (permName : String) (s : Phone) (hs : Wellformed s)
    (hrunning : s.running = true) (hmem : permName ∈ permissionNamesFull) :
    ∃ view, s.lvElements[(indexOfPerm permName).toNat]? = some view ∧
    (handlePermGrant permName).run s =
      if s.permsSet permName = some false then
        match view with
        | none => (.error .nullPointer, s)
        | some view => (.ok (), (s.set permName view).settle)
      else (.ok (), s.settle) := by
  obtain ⟨i, hi⟩ := List.mem_iff_getElem?.mp hmem
  have hlt : i < s.lvElements.length := by
    rw [hs.elements hrunning]
    exact (List.getElem?_eq_some_iff.mp hi).1
  have helement : (element s.lvElements i : Java Phone (Option View)) = pure s.lvElements[i] :=
    element_of_lt _ i hlt
  refine ⟨s.lvElements[i], ?_, ?_⟩
  · rw [indexOfPerm_getElem i permName hi, Int.toNat_natCast]
    exact List.getElem?_eq_getElem hlt
  · unfold handlePermGrant
    rw [indexOfPerm_getElem i permName hi]
    change (element s.lvElements (i:ℤ) >>= _).run s = _
    rw [helement]
    generalize s.lvElements[i] = view
    by_cases hfalse : s.permsSet permName = some false
    · rw [if_pos hfalse, Java.bind_ok _ _ s s view rfl, if_pos hfalse]
      cases view <;> rfl
    · rw [if_neg hfalse, Java.bind_ok _ _ s s view rfl, if_neg hfalse]
      rfl

theorem Wellformed.set {s : Phone} (hs : Wellformed s) (permName : String) (view : View)
    (hmem : permName ∈ s.missing) : Wellformed (s.set permName view) := by
  refine ⟨counted_set s permName view hs.counted hmem, fun hrunning name hname => ?_, hs.elements⟩
  change Function.update s.permsSet permName (some true) name ≠ none
  rcases eq_or_ne name permName with rfl | hne
  · rw [Function.update_self]
    exact Option.some_ne_none true
  · rw [Function.update_of_ne hne]
    exact hs.keys hrunning name hname

/-- A name of the table makes no index wrong. -/
theorem handlePermGrant_marked (permName : String) (s : Phone) (hs : Wellformed s)
    (hrunning : s.running = true) (hmem : permName ∈ permissionNamesFull) :
    ((handlePermGrant permName).run s).1 ≠ .error .indexOutOfBounds ∧
      Marked [permName] s ((handlePermGrant permName).run s).2 := by
  obtain ⟨view, -, hrun⟩ := handlePermGrant_run permName s hs hrunning hmem
  rw [hrun]
  by_cases hfalse : s.permsSet permName = some false
  · rw [if_pos hfalse]
    cases view with
    | none =>
      refine ⟨?_, marked_of_same _ hs rfl rfl⟩
      intro h
      cases h
    | some view =>
      have hset := hs.set permName view ((mem_missing s permName).mpr ⟨hmem, hfalse⟩)
      refine ⟨ok_ne_error, marked_settle _ s _ hset hrunning (fun name hname => ?_) rfl⟩
      exact Function.update_of_ne (List.ne_of_not_mem_cons hname) _ _
  · rw [if_neg hfalse]
    exact ⟨ok_ne_error, marked_settle _ s s hs hrunning (fun _ _ => rfl) rfl⟩

/-- A name whose view has been clicked is set. -/
theorem handlePermGrant_sets (permName : String) (s : Phone) (hs : Wellformed s)
    (hrunning : s.running = true) (i : ℕ) (view : View)
    (hname : permissionNamesFull[i]? = some permName)
    (hview : s.lvElements[i]? = some (some view)) :
    (handlePermGrant permName).run s =
      (.ok (), if s.permsSet permName = some false then (s.set permName view).settle
        else s.settle) := by
  obtain ⟨view', hview', hrun⟩ :=
    handlePermGrant_run permName s hs hrunning (List.mem_of_getElem? hname)
  rw [indexOfPerm_getElem i permName hname, Int.toNat_natCast, hview] at hview'
  cases hview'
  rw [hrun]
  by_cases hfalse : s.permsSet permName = some false
  · rw [if_pos hfalse, if_pos hfalse]
  · rw [if_neg hfalse, if_neg hfalse]

section Steps

variable (sdkInt : ℤ)

theorem onItemClick_run (checkSelfPermission : String → ℤ) (view : View) (i : ℕ) (perm : String)
    (s : Phone) (hs : Wellformed s) (hrunning : s.running = true)
    (hperm : permissionNames[i]? = some perm) :
    (onItemClick sdkInt checkSelfPermission view i).run s =
      (requestPermission sdkInt checkSelfPermission perm).run
        { s with lvElements := s.lvElements.set i (some view) } := by
  obtain ⟨hlt, hget⟩ := List.getElem?_eq_some_iff.mp hperm
  have hview : i < s.lvElements.length := by
    rw [hs.elements hrunning]
    exact hlt
  have hitem : (element permissionNames i : Java Phone String) = pure perm :=
    (element_of_lt permissionNames i hlt).trans (congrArg pure hget)
  have helement : (element s.lvElements i : Java Phone (Option View)) = pure s.lvElements[i] :=
    element_of_lt _ i hview
  unfold onItemClick
  rw [hitem, Java.bind_ok _ _ s s perm rfl, Java.bind_ok _ _ s s s rfl, helement,
    Java.bind_ok _ _ s s _ rfl]
  rfl

/-- An answer is about the name in the permission. -/
theorem onRequestPermissionsResult_run (permission permName : String) (grantResult : ℤ) (s : Phone)
    (hparts : JavaText.splitLimit '.' 3 permission.toList =
      ["android".toList, "permission".toList, permName.toList]) :
    (onRequestPermissionsResult [permission] [grantResult]).run s =
      if grantResult ≠ permissionGranted then (makeText "Permission was not granted").run s
      else (handlePermGrant permName).run s := by
  unfold onRequestPermissionsResult
  rw [Java.bind_ok _ _ s s grantResult rfl]
  by_cases hdenied : grantResult ≠ permissionGranted
  · rw [if_pos hdenied, if_pos hdenied]
  · have hpart : (element [permission] 0 : Java Phone String).run s = (.ok permission, s) := rfl
    rw [if_neg hdenied, if_neg hdenied, Java.bind_ok _ _ s s permission hpart, hparts,
      Java.bind_ok _ _ s s permName.toList rfl, String.ofList_toList]

/-- A new activity, with every name false. -/
theorem onCreate_run (s : Phone) : ∃ intents, onCreate.run s = (.ok (),
    { s with
      running := true
      permsLeft := numPermissionsNeeded
      permsSet := fun name => if name ∈ permissionNamesFull then some false else none
      lvElements := List.replicate numPermissionsNeeded none
      permBt := true
      blue := []
      intents }) := by
  unfold onCreate
  rw [Java.bind_ok _ _ s s s rfl]
  by_cases hleft : s.perms_left = 0
  · rw [if_pos hleft]
    exact ⟨_, rfl⟩
  · rw [if_neg hleft]
    exact ⟨_, rfl⟩

theorem onCreate_marked (s : Phone) :
    Wellformed (onCreate.run s).2 ∧ (onCreate.run s).2.stored = s.stored ∧
    ∀ name, (onCreate.run s).2.permsSet name ≠ some true := by
  obtain ⟨intents, hrun⟩ := onCreate_run s
  rw [hrun]
  refine ⟨⟨?_, fun _ name hname => ?_, fun _ => List.length_replicate⟩, rfl, fun name => ?_⟩
  · have hmissing : permissionNamesFull.toFinset.filter (fun name =>
        (if name ∈ permissionNamesFull then some false else none) = some false) =
          permissionNamesFull.toFinset := by
      refine Finset.filter_true_of_mem fun name hname => ?_
      rw [if_pos (List.mem_toFinset.mp hname)]
    have hcard : permissionNamesFull.toFinset.card = numPermissionsNeeded :=
      List.toFinset_card_of_nodup (by decide)
    change (numPermissionsNeeded:ℤ) = (Finset.card (permissionNamesFull.toFinset.filter _) : ℤ)
    rw [hmissing, hcard]
  · change (if name ∈ permissionNamesFull then some false else none) ≠ none
    rw [if_pos hname]
    exact Option.some_ne_none false
  · change (if name ∈ permissionNamesFull then some false else none) ≠ some true
    split
    · decide
    · exact (Option.some_ne_none true).symm

/-- The list element `i` has been clicked, and a screen of the settings comes up. -/
def Phone.clicked (s : Phone) (i : ℕ) (view : View) (intent : String) : Phone :=
  { s with lvElements := s.lvElements.set i (some view), intents := s.intents ++ [intent] }

theorem Wellformed.clicked {s : Phone} (hs : Wellformed s) (i : ℕ) (view : View) (intent : String) :
    Wellformed (s.clicked i view intent) :=
  ⟨hs.counted, hs.keys, fun hrunning => List.length_set.trans (hs.elements hrunning)⟩

theorem onItemClick_settings (checkSelfPermission : String → ℤ) (view : View) (i : ℕ)
    (perm intent permission permName : String) (s : Phone) (hs : Wellformed s)
    (hrunning : s.running = true)
    (hperm : permissionNames[i]? = some perm)
    (h : request sdkInt perm = .settings intent permission permName) :
    (onItemClick sdkInt checkSelfPermission view i).run s =
      if checkSelfPermission permission ≠ permissionGranted
        then (handlePermGrant permName).run (s.clicked i view intent)
      else (makeText "Permission was not granted").run (s.clicked i view intent) := by
  rw [onItemClick_run sdkInt checkSelfPermission view i perm s hs hrunning hperm, requestPermission,
    h]
  change (startActivity intent >>= _).run _ = _
  rw [Java.bind_ok _ _ _ (s.clicked i view intent) () rfl]
  by_cases hcheck : checkSelfPermission permission ≠ permissionGranted
  · rw [if_pos hcheck, if_pos hcheck]
  · rw [if_neg hcheck, if_neg hcheck]

theorem click_marked (checkSelfPermission : String → ℤ) (view : View) (i : ℕ) (s : Phone)
    (hs : Wellformed s) (hrunning : s.running = true) (hi : i < permissionNames.length) : ∃ names,
      ((onItemClick sdkInt checkSelfPermission view i).run s).1 ≠ .error .indexOutOfBounds ∧
      Marked names s ((onItemClick sdkInt checkSelfPermission view i).run s).2 ∧
      (names ≠ [] → ¬(Event.click i view checkSelfPermission).Answered sdkInt) := by
  have hperm := List.getElem?_eq_getElem hi
  generalize permissionNames[i] = perm at hperm
  obtain ⟨permName, hname, hzip⟩ := exists_name i perm hperm
  have hmatches := request_matches sdkInt _ hzip
  have hstay {t : Phone} (hshown : (onItemClick sdkInt checkSelfPermission view i).run s = (.ok (),
      t)) (ht : Wellformed t) (hpermsSet : t.permsSet = s.permsSet)
        (hstored : t.stored = s.stored) : ∃ names,
      ((onItemClick sdkInt checkSelfPermission view i).run s).1 ≠ .error .indexOutOfBounds ∧
      Marked names s ((onItemClick sdkInt checkSelfPermission view i).run s).2 ∧
      (names ≠ [] → ¬(Event.click i view checkSelfPermission).Answered sdkInt) := by
    rw [hshown]
    exact ⟨[], ok_ne_error, marked_of_same [] ht hpermsSet hstored, fun hne => absurd rfl hne⟩
  cases hrequest : request sdkInt perm with
  | dialog permission =>
    refine hstay (t := { s with
      lvElements := s.lvElements.set i (some view), asked :=
        s.asked ++ [permission] }) ?_ ?_ rfl rfl
    · rw [onItemClick_run sdkInt checkSelfPermission view i perm s hs hrunning hperm,
        requestPermission, hrequest]
      rfl
    · have hclicked := hs.clicked i view ""
      exact ⟨hclicked.counted, hclicked.keys, hclicked.elements⟩
  | nothing =>
    refine hstay (t := { s with lvElements := s.lvElements.set i (some view) }) ?_ ?_ rfl rfl
    · rw [onItemClick_run sdkInt checkSelfPermission view i perm s hs hrunning hperm,
        requestPermission, hrequest]
      rfl
    · have hclicked := hs.clicked i view ""
      exact ⟨hclicked.counted, hclicked.keys, hclicked.elements⟩
  | settings intent permission name =>
    rw [hrequest] at hmatches
    obtain ⟨rfl, -, -⟩ := hmatches
    have hclicked := hs.clicked i view intent
    have hrun := onItemClick_settings sdkInt checkSelfPermission view i perm intent permission name
      s hs hrunning hperm hrequest
    by_cases hcheck : checkSelfPermission permission ≠ permissionGranted
    · rw [if_pos hcheck] at hrun
      obtain ⟨hindex, hmarked⟩ :=
        handlePermGrant_marked name (s.clicked i view intent) hclicked hrunning
          (List.mem_of_getElem? hname)
      rw [hrun]
      exact ⟨[name], hindex, ⟨hmarked.wellformed, hmarked.others, hmarked.stored⟩,
        fun _ h => hcheck (h perm hperm intent permission name hrequest)⟩
    · rw [if_neg hcheck] at hrun
      exact hstay hrun ⟨hclicked.counted, hclicked.keys, hclicked.elements⟩ rfl rfl

/-- A special setting that is not granted counts as granted. -/
theorem click_unanswered (checkSelfPermission : String → ℤ) (view : View) (i : ℕ) (s : Phone)
    (hs : Wellformed s) (hrunning : s.running = true) (hi : i < permissionNames.length)
    (hset : ∀ name ∈ settingsNames, s.permsSet name ≠ some true)
    (h : ¬(Event.click i view checkSelfPermission).Answered sdkInt) :
    ¬Fits sdkInt s (.click i view checkSelfPermission) := by
  have hperm := List.getElem?_eq_getElem hi
  generalize permissionNames[i] = perm at hperm
  obtain ⟨permName, hname, hzip⟩ := exists_name i perm hperm
  have hmatches := request_matches sdkInt _ hzip
  simp only [Event.Answered, not_forall] at h
  obtain ⟨perm', hperm', intent, permission, name, hrequest, hcheck⟩ := h
  obtain rfl : perm = perm' := Option.some_inj.mp (hperm.symm.trans hperm')
  rw [hrequest] at hmatches
  obtain ⟨rfl, hsettings, rfl⟩ := hmatches
  have hmissing := mem_missing_of_ne s hs hrunning name (List.mem_of_getElem? hname)
    (hset name hsettings)
  have hview : i < s.lvElements.length := by
    rw [hs.elements hrunning]
    exact hi
  have hrun := onItemClick_settings sdkInt checkSelfPermission view i perm intent _ name s hs
    hrunning hperm hrequest
  have hclicked : (s.clicked i view intent).permsSet name = some false :=
    ((mem_missing s name).mp hmissing).2
  rw [if_pos hcheck, handlePermGrant_sets name (s.clicked i view intent) (hs.clicked i view intent)
    hrunning i view hname (List.getElem?_set_self hview), if_pos hclicked] at hrun
  have hafter : (after sdkInt s (.click i view checkSelfPermission)).permsSet name = some true := by
    unfold after Event.handler
    rw [hrun]
    change (Phone.settle _).permsSet name = some true
    rw [settle_permsSet]
    exact Function.update_self _ _ _
  rintro ⟨-, -, hgranted, -⟩
  exact hcheck (hgranted name (hset name hsettings) hafter)

theorem result_marked (permission : String) (grantResult : ℤ) (s : Phone) (hs : Wellformed s)
    (hrunning : s.running = true)
    (hpermission : ∃ perm ∈ permissionNames, request sdkInt perm = .dialog permission) :
    ∃ names, ((onRequestPermissionsResult [permission] [grantResult]).run s).1 ≠
      .error .indexOutOfBounds ∧
        Marked names s ((onRequestPermissionsResult [permission] [grantResult]).run s).2 ∧
      ∀ name ∈ names, name ∉ settingsNames ∧ (Event.result permission grantResult).Grants name := by
  obtain ⟨perm, hmem, hrequest⟩ := hpermission
  obtain ⟨i, hperm⟩ := List.mem_iff_getElem?.mp hmem
  obtain ⟨permName, hname, hzip⟩ := exists_name i perm hperm
  have hmatches := request_matches sdkInt _ hzip
  rw [hrequest] at hmatches
  obtain ⟨hsettings, hpermission, hparts⟩ := hmatches
  rw [onRequestPermissionsResult_run permission permName grantResult s hparts]
  by_cases hdenied : grantResult ≠ permissionGranted
  · rw [if_pos hdenied]
    exact ⟨[], ok_ne_error, marked_of_same [] ⟨hs.counted, hs.keys, hs.elements⟩ rfl rfl,
      fun name hmem => (List.not_mem_nil hmem).elim⟩
  · rw [if_neg hdenied]
    have hmarked := handlePermGrant_marked permName s hs hrunning (List.mem_of_getElem? hname)
    refine ⟨[permName], hmarked.1, hmarked.2, fun name hmem => ?_⟩
    rw [List.mem_singleton.mp hmem]
    exact ⟨hsettings, hpermission, not_ne_iff.mp hdenied⟩

/-- An exception changes nothing more than that the activity is gone. -/
theorem marked_after (names : List String) (s : Phone) (e : Event)
    (h : Marked names s ((e.handler sdkInt).run s).2) : Marked names s (after sdkInt s e) := by
  unfold after
  generalize (e.handler sdkInt).run s = r at h ⊢
  obtain ⟨_ | _, t⟩ := r
  · refine ⟨⟨h.wellformed.counted, fun hrunning => ?_, fun hrunning => ?_⟩, h.others, h.stored⟩
    · cases hrunning
    · cases hrunning
  · exact h

theorem fits_of_marked (names : List String) (s : Phone) (e : Event)
    (hindex : ((e.handler sdkInt).run s).1 ≠ .error .indexOutOfBounds)
    (h : Marked names s ((e.handler sdkInt).run s).2) (hgrants : ∀ name ∈ names, e.Grants name) :
    Fits sdkInt s e := by
  have hafter := marked_after sdkInt names s e h
  refine ⟨hindex, hafter.wellformed.counted, fun permName hnot hset => ?_, hafter.stored⟩
  by_cases hmem : permName ∈ names
  · exact hgrants permName hmem
  · rw [hafter.others permName hmem] at hset
    exact absurd hset hnot

end Steps

/-! Runs. -/

/-- No special setting counts as granted. -/
def Phone.Unset (s : Phone) : Prop := ∀ name ∈ settingsNames, s.permsSet name ≠ some true

section Runs

variable (sdkInt : ℤ)

theorem after_create (s : Phone) : after sdkInt s .create = (onCreate.run s).2 := by
  obtain ⟨intents, hrun⟩ := onCreate_run s
  unfold after Event.handler
  rw [hrun]

/-- What a step does that is no creation. -/
theorem step_marked (s : Phone) (e : Event) (hs : Wellformed s) (hpossible : e.Possible sdkInt s) :
    e = .create ∨ ∃ names, Marked names s ((e.handler sdkInt).run s).2 ∧
      (e.Answered sdkInt → ((e.handler sdkInt).run s).1 ≠ .error .indexOutOfBounds ∧
        ∀ name ∈ names, name ∉ settingsNames ∧ e.Grants name) := by
  cases e with
  | create => exact .inl rfl
  | click i view checkSelfPermission =>
    obtain ⟨hrunning, hi⟩ := hpossible
    obtain ⟨names, hindex, hmarked, hanswered⟩ :=
      click_marked sdkInt checkSelfPermission view i s hs hrunning hi
    refine .inr ⟨names, hmarked, fun h => ⟨hindex, fun name hmem => ?_⟩⟩
    exact absurd h (hanswered (List.ne_nil_of_mem hmem))
  | result permission grantResult =>
    obtain ⟨hrunning, hpermission⟩ := hpossible
    obtain ⟨names, hindex, hmarked, hnames⟩ :=
      result_marked sdkInt permission grantResult s hs hrunning hpermission
    exact .inr ⟨names, hmarked, fun _ => ⟨hindex, hnames⟩⟩
  | cancelled =>
    exact .inr ⟨[], marked_of_same [] hs rfl rfl, fun h => h.elim⟩

theorem step_eq_some (s t : Phone) (e : Event) (h : step sdkInt s e = some t) :
    e.Possible sdkInt s ∧ t = after sdkInt s e := by
  obtain ⟨hpossible, hafter⟩ := Option.ite_none_right_eq_some.mp h
  exact ⟨hpossible, (Option.some_inj.mp hafter).symm⟩

theorem step_wellformed (s t : Phone) (e : Event) (h : step sdkInt s e = some t)
    (hs : Wellformed s) : Wellformed t := by
  obtain ⟨hpossible, rfl⟩ := step_eq_some sdkInt s t e h
  rcases step_marked sdkInt s e hs hpossible with rfl | ⟨names, hmarked, -⟩
  · rw [after_create]
    exact (onCreate_marked s).1
  · exact (marked_after sdkInt names s e hmarked).wellformed

theorem wellformed_start : Wellformed {} where
  counted := rfl
  keys h := by cases h
  elements h := by cases h

/-- Whatever comes, the number is that of the names that are false. -/
theorem counted_run (events : List Event) (t : Phone)
    (hrun : runEvents (step sdkInt) {} events = some t) :
    t.permsLeft = t.missing.card :=
  (runEvents_preserves (step sdkInt) Wellformed
    (fun s e t => step_wellformed sdkInt s t e) events {} t hrun
    wellformed_start).counted

theorem step_unset (s t : Phone) (e : Event) (hok : e.Answered sdkInt)
    (h : step sdkInt s e = some t) (hs : Wellformed s) (hunset : s.Unset) : t.Unset := by
  obtain ⟨hpossible, rfl⟩ := step_eq_some sdkInt s t e h
  intro name hname
  rcases step_marked sdkInt s e hs hpossible with rfl | ⟨names, hmarked, hanswered⟩
  · rw [after_create]
    exact (onCreate_marked s).2.2 name
  · have hnot : name ∉ names := fun hmem => ((hanswered hok).2 name hmem).1 hname
    rw [(marked_after sdkInt names s e hmarked).others name hnot]
    exact hunset name hname

theorem fits_create (s : Phone) : Fits sdkInt s .create := by
  obtain ⟨hwellformed, hstored, hnot⟩ := onCreate_marked s
  obtain ⟨intents, hrun⟩ := onCreate_run s
  have hindex : (onCreate.run s).1 ≠ .error .indexOutOfBounds := by
    rw [hrun]
    exact ok_ne_error
  have hafter := after_create sdkInt s
  exact ⟨hindex, hafter ▸ hwellformed.counted, fun permName _ hset =>
    absurd (hafter ▸ hset) (hnot permName), fun hne => absurd (hafter ▸ hstored) hne⟩

theorem fits_iff (s : Phone) (e : Event) (hs : Wellformed s) (hunset : s.Unset)
    (hpossible : e.Possible sdkInt s) : Fits sdkInt s e ↔ e.Answered sdkInt := by
  constructor
  · intro hfits
    cases e with
    | create => exact trivial
    | click i view checkSelfPermission =>
      obtain ⟨hrunning, hi⟩ := hpossible
      by_contra hnot
      exact click_unanswered sdkInt checkSelfPermission view i s hs hrunning hi hunset hnot hfits
    | result => exact trivial
    | cancelled => exact hfits.no_index_error rfl
  · intro hok
    rcases step_marked sdkInt s e hs hpossible with rfl | ⟨names, hmarked, hanswered⟩
    · exact fits_create sdkInt s
    · obtain ⟨hindex, hnames⟩ := hanswered hok
      exact fits_of_marked sdkInt names s e hindex hmarked fun name hmem => (hnames name hmem).2

theorem unset_start : Phone.Unset {} := fun _ _ => (Option.some_ne_none true).symm

/-- In a run without cancelled requests and without special settings that are not granted, the
number is never stored: the special settings stay false for ever. -/
theorem never_stored (events : List Event) (t : Phone)
    (hrun : runEvents (step sdkInt) {} events = some t)
    (hok : ∀ e ∈ events, e.Answered sdkInt) : t.stored = [] := by
  have hstep (s : Phone) (e : Event) (t : Phone) (hanswered : e.Answered sdkInt)
      (h : step sdkInt s e = some t) (hs : (Wellformed s ∧ s.Unset) ∧ s.stored = []) :
      (Wellformed t ∧ t.Unset) ∧ t.stored = [] := by
    obtain ⟨⟨hwellformed, hunset⟩, hstored⟩ := hs
    have hunset' := step_unset sdkInt s t e hanswered h hwellformed hunset
    refine ⟨⟨step_wellformed sdkInt s t e h hwellformed, hunset'⟩, ?_⟩
    obtain ⟨hpossible, rfl⟩ := step_eq_some sdkInt s t e h
    have hfits := (fits_iff sdkInt s e hwellformed hunset hpossible).mpr hanswered
    by_contra hne
    have hall := hfits.stored fun heq => hne (heq.trans hstored)
    exact hunset' "WRITE_SETTINGS" (by decide) (hall "WRITE_SETTINGS" (by decide))
  exact (runEvents_of_forall (step sdkInt) _ _ hstep events {} t hok hrun
    ⟨⟨wellformed_start, unset_start⟩, rfl⟩).2

/-- A run goes as expected exactly if no request is cancelled and no special setting is clicked
that is not granted. -/
theorem gate_iff (events : List Event) (t : Phone)
    (hrun : runEvents (step sdkInt) {} events = some t) :
    Along (step sdkInt) (Fits sdkInt) {} events ↔ ∀ e ∈ events, e.Answered sdkInt := by
  have halong := along_iff_of_preserved (step sdkInt) (Fits sdkInt) (fun _ e => e.Answered sdkInt)
    (fun s => Wellformed s ∧ s.Unset) (fun s e t hok hstep hs =>
      ⟨step_wellformed sdkInt s t e hstep hs.1, step_unset sdkInt s t e hok hstep hs.1 hs.2⟩)
    (fun s e t hstep hs => fits_iff sdkInt s e hs.1 hs.2 (step_eq_some sdkInt s t e hstep).1) events
    {} t hrun
    ⟨wellformed_start, unset_start⟩
  rw [halong]
  exact along_iff_forall (step sdkInt) (fun _ e => e.Answered sdkInt) (fun e => e.Answered sdkInt)
    (fun _ _ => Iff.rfl) events {} t hrun

end Runs

theorem answered_location (view : View) (checkSelfPermission : String → ℤ) :
    (Event.click 0 view checkSelfPermission).Answered 33 := by
  intro perm hperm intent permission permName hrequest
  cases hperm
  cases hrequest

/-- The location is asked for, clicked twice, denied once and then granted. -/
theorem gate_location : Along (step 33) (Fits 33) {} [.create, .click 0 1 fun _ => -1,
    .result "android.permission.ACCESS_FINE_LOCATION" (-1), .click 0 1 fun _ => -1,
    .result "android.permission.ACCESS_FINE_LOCATION" 0] := by
  refine (gate_iff 33 _ _ rfl).mpr fun e he => ?_
  simp only [List.mem_cons, List.not_mem_nil, or_false] at he
  rcases he with rfl | rfl | rfl | rfl | rfl
  · exact trivial
  · exact answered_location _ _
  · exact trivial
  · exact answered_location _ _
  · exact trivial

theorem not_along_create (sdkInt : ℤ) (e : Event)
    (hpossible : e.Possible sdkInt (after sdkInt {} .create))
    (h : ¬e.Answered sdkInt) : ¬Along (step sdkInt) (Fits sdkInt) {} [.create, e] := by
  intro halong
  have hstep : step sdkInt {} .create = some (after sdkInt {} .create) := if_pos trivial
  have hfits := (halong.2 _ hstep).1
  have hs := step_wellformed sdkInt {} _ .create hstep wellformed_start
  have hunset := step_unset sdkInt {} _ .create trivial hstep wellformed_start unset_start
  exact h ((fits_iff sdkInt _ e hs hunset hpossible).mp hfits)

/-- A cancelled request ends the process, and a setting that is not granted is taken for granted. -/
theorem gate_fails : ¬Along (step 33) (Fits 33) {} [.create, .cancelled] ∧
    ¬Along (step 33) (Fits 33) {} [.create, .click 8 1 fun _ => -1] := by
  refine ⟨not_along_create 33 .cancelled rfl fun h => h,
    not_along_create 33 _ ⟨rfl, by decide⟩ fun h => ?_⟩
  exact absurd (h "Write Settings" rfl _ _ _ rfl) (by decide)

end MmWaveTracker.Permissions
