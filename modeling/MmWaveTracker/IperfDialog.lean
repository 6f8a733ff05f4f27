import MmWaveTracker.EventRun
import MmWaveTracker.JavaMethod
import MmWaveTracker.JavaText
import Mathlib.Data.List.Lex
import Mathlib.Logic.Function.Basic

/-! `IperfDialog`: the settings of iperf, which live in statics of `MapActivity`, their copy
in the preferences, and the list of hosts. -/
namespace MmWaveTracker.IperfDialog

open JavaText

def defaultIperfJsonTimeThreshold : ℤ := 200
def defaultIperfPort : ℤ := 5201
def defaultIperfDuration : ℤ := 60
def defaultIperfInterval : ℤ := 1000
def defaultIperfParallel : ℤ := 8
def defaultIperfDownlink : Bool := true
def defaultIperfUdpBandwidth : String := "3000M"
def iperfParallelValues : List ℤ := [8, 1, 4]
def defaultIperfTcpdumpSnapInterval : ℤ := 96
def defaultIperfTcpdumpFilesize : ℤ := 100

inductive Preference where
  | int (value : ℤ)
  | boolean (value : Bool)
  | string (value : String)
  deriving DecidableEq

/-- `SharedPreferences`, by key. -/
abbrev Preferences := String → Option Preference

def putInt (key : String) (value : ℤ) (p : Preferences) : Preferences :=
  Function.update p key (some (.int value))

def putBoolean (key : String) (value : Bool) (p : Preferences) : Preferences :=
  Function.update p key (some (.boolean value))

/-- A null value removes the key. -/
def putString (key : String) (value : Option String) (p : Preferences) : Preferences :=
  Function.update p key (value.map .string)

/-- The statics of `MapActivity` that the dialog uses, the flag `LOG_VERBOSE_FLAG` of
`config`, and the preferences. -/
structure MapActivity where
  iperf_HostNames_all : List (String × String) := []
  iperf_HostName : Option String := none
  iperf_HostName_label : Option String := none
  iperf_port : ℤ := defaultIperfPort
  iperf_duration : ℤ := defaultIperfDuration
  iperf_tcp_parallel : ℤ := defaultIperfParallel
  iperf_downlink_flag : Bool := defaultIperfDownlink
  iperf_udp_flag : Bool := false
  iperf_interval : ℤ := 0
  iperf_udp_bandwidth : Option String := none
  iperf_json_flag : Bool := false
  iperf_verbose_flag : ℤ := 0
  iperf_run_label : Option String := none
  iperf_tcpdump_flag : Bool := false
  iperf_tcpdump_interval : ℤ := defaultIperfTcpdumpSnapInterval
  iperf_tcpdump_filesize : ℤ := defaultIperfTcpdumpFilesize
  logVerboseFlag : Bool := false
  app_shared_pref : Preferences := fun _ => none

/-- What the views of the dialog hold when `save` is pressed. -/
structure Form where
  udpSw : Bool := false
  etUDPBandwidth : String := ""
  downlinkSw : Bool := true
  verboseSw : Bool := false
  tcpdumpSw : Bool := false
  etTcpDumpSvalue : String := "96"
  etTcpDumpCvalue : String := "100"
  mactv : String := ""
  spinnerHostName : ℤ := 0
  spinnerParallel : ℤ := 0
  etIperfInterval : String := "1000"
  etIperfPort : String := "5201"
  etIperfDuration : String := "60"

/-- `get` of a list and `[]` of an array. -/
def element {σ α : Type} (values : List α) (i : ℤ) : Java σ α :=
  if i < 0 then Java.throw .indexOutOfBounds
  else match values[i.toNat]? with
    | some value => pure value
    | none => Java.throw .indexOutOfBounds

/-- The UTF-16 units of a text, by which Java compares texts. -/
def units (text : List Char) : List ℕ :=
  text.flatMap fun c => if c.toNat < 65536 then [c.toNat]
    else [55296 + (c.toNat - 65536)/1024, 56320 + (c.toNat - 65536)%1024]

/-- Take the label, split it, sort the pieces and reassemble it. -/
def correctLabel (label : String) : Option String :=
  if label = "" then none
  else
    let labelPieces := (split '_' label.toList).mergeSort fun a b => decide (units a ≤ units b)
    some (String.ofList (List.intercalate ['_'] labelPieces))

section Save

/-! `digit` is `Character.digit`, and also what `\d` stands for in a pattern. -/

variable (digit : Char → Option ℕ)

/-- The value of a number, with or without a sign. -/
def signedValue : List Char → Option ℤ
  | '-' :: cs => (unsignedValue digit cs).map fun n : ℕ => -(n:ℤ)
  | '+' :: cs => (unsignedValue digit cs).map fun n : ℕ => (n:ℤ)
  | cs => (unsignedValue digit cs).map fun n : ℕ => (n:ℤ)

/-- The number in a text, if it has one that is an `int`. -/
def intValue (cs : List Char) : Option ℤ := (signedValue digit cs).bind intInRange

/-- `Integer.parseInt`. -/
def parseInt (text : String) : Java MapActivity ℤ :=
  match (signedValue digit text.toList).bind intInRange with
  | some n => pure n
  | none => Java.throw .illegalArgument

def parseOr (text : String) (default : ℤ) : Java MapActivity ℤ :=
  if text.length = 0 then pure default else parseInt digit text

/-- `Pattern.matches("^[\\d]+[M|K]$", text)`: the bar is one of the characters of its class. -/
def matchesBandwidth (text : String) : Bool :=
  match text.toList.getLast? with
  | some c => (c = 'M' ∨ c = '|' ∨ c = 'K') ∧ text.toList.dropLast ≠ [] ∧
      text.toList.dropLast.all fun d => (digit d).isSome
  | none => false

/-- Check if UDP, validate the bandwidth. -/
def saveProtocol (form : Form) (s : MapActivity) : MapActivity :=
  if form.udpSw then
    if form.etUDPBandwidth.length > 0 ∧ ¬matchesBandwidth digit form.etUDPBandwidth then
      { s with iperf_udp_bandwidth := some defaultIperfUdpBandwidth }
    else if matchesBandwidth digit form.etUDPBandwidth then
      { s with iperf_udp_flag := true, iperf_udp_bandwidth := some form.etUDPBandwidth }
    else s
  else { s with iperf_udp_flag := false }

def setIperfJSON (s : MapActivity) : MapActivity :=
  if s.iperf_duration > defaultIperfJsonTimeThreshold then
    { s with iperf_json_flag := false, iperf_verbose_flag := 1 }
  else { s with iperf_json_flag := true, iperf_verbose_flag := 0 }

/-- What the editor of the preferences is given. -/
def storeIperfSetup (s : MapActivity) : Preferences → Preferences :=
  putInt "iperf_tcpdump_interval" s.iperf_tcpdump_interval ∘
  putInt "iperf_tcpdump_filesize" s.iperf_tcpdump_filesize ∘
  putBoolean "iperf_tcpdump" s.iperf_tcpdump_flag ∘
  putInt "iperf_port" s.iperf_port ∘
  putString "iperf_run_label" s.iperf_run_label ∘
  putInt "iperf_interval" s.iperf_interval ∘
  putString "iperf_udp_bandwidth" s.iperf_udp_bandwidth ∘
  putBoolean "iperf_udp_enabled" s.iperf_udp_flag ∘
  putInt "iperf_parallel" s.iperf_tcp_parallel ∘
  putString "iperf_HostName_Label" s.iperf_HostName_label ∘
  putString "iperf_HostName" s.iperf_HostName ∘
  putInt "iperf_duration" s.iperf_duration

/-- `onClick` of the save button behind the protocol. -/
def saveRest (form : Form) : Java MapActivity Unit := do
  Java.modify fun s => { s with
    iperf_downlink_flag := form.downlinkSw
    logVerboseFlag := form.verboseSw
    iperf_tcpdump_flag := form.tcpdumpSw }
  let iperf_tcpdump_interval ← parseOr digit form.etTcpDumpSvalue defaultIperfTcpdumpSnapInterval
  Java.modify fun s => { s with iperf_tcpdump_interval }
  let iperf_tcpdump_filesize ← parseOr digit form.etTcpDumpCvalue defaultIperfTcpdumpFilesize
  Java.modify fun s => { s with iperf_tcpdump_filesize }
  Java.modify fun s =>
    { s with iperf_run_label := if form.mactv.length = 0 then some "" else correctLabel form.mactv }
  let s ← Java.get
  let host ← element s.iperf_HostNames_all form.spinnerHostName
  Java.modify fun s => { s with iperf_HostName := some host.2, iperf_HostName_label := some host.1 }
  let iperf_tcp_parallel ← element iperfParallelValues form.spinnerParallel
  Java.modify fun s => { s with iperf_tcp_parallel }
  let iperf_interval ← parseInt digit form.etIperfInterval
  Java.modify fun s => { s with iperf_interval }
  let iperf_port ← parseOr digit form.etIperfPort defaultIperfPort
  Java.modify fun s => { s with iperf_port }
  let iperf_duration ← parseOr digit form.etIperfDuration defaultIperfDuration
  Java.modify fun s => setIperfJSON { s with iperf_duration }
  Java.modify fun s => { s with app_shared_pref := storeIperfSetup s s.app_shared_pref }

/-- `onClick` of the save button. -/
def save (form : Form) : Java MapActivity Unit := do
  Java.modify (saveProtocol digit form)
  saveRest digit form

end Save

/-! Reading the preferences: a value of another type than asked for is a `ClassCastException`. -/

def getInt (key : String) (default : ℤ) : Java MapActivity ℤ := do
  match (← Java.get).app_shared_pref key with
  | none => pure default
  | some (.int value) => pure value
  | some _ => Java.throw .platform

def getBoolean (key : String) (default : Bool) : Java MapActivity Bool := do
  match (← Java.get).app_shared_pref key with
  | none => pure default
  | some (.boolean value) => pure value
  | some _ => Java.throw .platform

def getString (key : String) (default : String) : Java MapActivity String := do
  match (← Java.get).app_shared_pref key with
  | none => pure default
  | some (.string value) => pure value
  | some _ => Java.throw .platform

def restoreIperfSetup : Java MapActivity Unit := do
  let iperf_duration ← getInt "iperf_duration" defaultIperfDuration
  Java.modify fun s => { s with iperf_duration }
  let iperf_HostName ← getString "iperf_HostName" ""
  Java.modify fun s => { s with iperf_HostName := some iperf_HostName }
  let iperf_HostName_label ← getString "iperf_HostName_Label" ""
  Java.modify fun s => { s with iperf_HostName_label := some iperf_HostName_label }
  let iperf_port ← getInt "iperf_port" defaultIperfPort
  Java.modify fun s => { s with iperf_port }
  let iperf_run_label ← getString "iperf_run_label" ""
  Java.modify fun s => { s with iperf_run_label := some iperf_run_label }
  let iperf_tcp_parallel ← getInt "iperf_parallel" defaultIperfParallel
  Java.modify fun s => { s with iperf_tcp_parallel }
  let iperf_udp_bandwidth ← getString "iperf_udp_bandwidth" defaultIperfUdpBandwidth
  Java.modify fun s => { s with iperf_udp_bandwidth := some iperf_udp_bandwidth }
  let iperf_udp_flag ← getBoolean "iperf_udp_enabled" false
  Java.modify fun s => { s with iperf_udp_flag }
  let iperf_interval ← getInt "iperf_interval" defaultIperfInterval
  Java.modify fun s => { s with iperf_interval }
  let iperf_tcpdump_flag ← getBoolean "iperf_tcpdump" false
  Java.modify fun s => { s with iperf_tcpdump_flag }
  let iperf_tcpdump_filesize ← getInt "iperf_tcpdump_filesize" defaultIperfTcpdumpFilesize
  Java.modify fun s => { s with iperf_tcpdump_filesize }
  let iperf_tcpdump_interval ← getInt "iperf_tcpdump_interval" defaultIperfTcpdumpSnapInterval
  Java.modify fun s => { s with iperf_tcpdump_interval }

/-! The protocol. -/

section Protocol

variable (digit : Char → Option ℕ)

/-- A run of digits and one unit. -/
def IsBandwidth (text : String) : Prop :=
  ∃ ds unit, text.toList = ds ++ [unit] ∧ ds ≠ [] ∧ (∀ d ∈ ds, (digit d).isSome) ∧
    (unit = 'M' ∨ unit = 'K')

/-- A run of digits and a bar. -/
def IsBarred (text : String) : Prop :=
  ∃ ds, text.toList = ds ++ ['|'] ∧ ds ≠ [] ∧ ∀ d ∈ ds, (digit d).isSome

theorem matchesBandwidth_iff (text : String) :
    matchesBandwidth digit text = true ↔ IsBandwidth digit text ∨ IsBarred digit text := by
  unfold matchesBandwidth IsBandwidth IsBarred
  rcases List.eq_nil_or_concat text.toList with hnil | ⟨front, last, hconcat⟩
  · rw [hnil]
    apply iff_of_false Bool.false_ne_true
    rintro (⟨ds, unit, heq, -⟩ | ⟨ds, heq, -⟩)
    · exact List.append_ne_nil_of_right_ne_nil ds (List.cons_ne_nil unit []) heq.symm
    · exact List.append_ne_nil_of_right_ne_nil ds (List.cons_ne_nil '|' []) heq.symm
  · rw [List.concat_eq_append] at hconcat
    have hlast : text.toList.getLast? = some last := by rw [hconcat, List.getLast?_concat]
    have hfront : text.toList.dropLast = front := by rw [hconcat, List.dropLast_concat]
    rw [hlast, hfront, hconcat]
    simp only [decide_eq_true_eq, List.all_eq_true, List.append_singleton_inj]
    constructor
    · rintro ⟨hunit | hbar | hunit, hne, hdigits⟩
      · exact .inl ⟨front, last, ⟨rfl, rfl⟩, hne, hdigits, .inl hunit⟩
      · exact .inr ⟨front, ⟨rfl, hbar⟩, hne, hdigits⟩
      · exact .inl ⟨front, last, ⟨rfl, rfl⟩, hne, hdigits, .inr hunit⟩
    · rintro (⟨ds, unit, ⟨rfl, rfl⟩, hne, hdigits, hunit⟩ | ⟨ds, ⟨rfl, hbar⟩, hne, hdigits⟩)
      · exact ⟨hunit.imp_right .inr, hne, hdigits⟩
      · exact ⟨.inr (.inl hbar), hne, hdigits⟩

theorem IsBarred.not_isBandwidth {text : String} (h : IsBarred digit text) :
    ¬IsBandwidth digit text := by
  obtain ⟨ds, hds, -⟩ := h
  rintro ⟨ds', unit, hds', -, -, hunit⟩
  have hlast := (List.append_singleton_inj.mp (hds.symm.trans hds')).2
  rcases hunit with rfl | rfl <;> cases hlast

/-- The flag says where the switch is, and with UDP the bandwidth is the text if it is one and
else the default. -/
structure ProtocolStored (form : Form) (s : MapActivity) : Prop where
  flag : s.iperf_udp_flag = form.udpSw
  typed : s.iperf_udp_flag = true → IsBandwidth digit form.etUDPBandwidth →
    s.iperf_udp_bandwidth = some form.etUDPBandwidth
  default : s.iperf_udp_flag = true → ¬IsBandwidth digit form.etUDPBandwidth →
    s.iperf_udp_bandwidth = some defaultIperfUdpBandwidth
  well_formed : s.iperf_udp_flag = true → ∃ bandwidth, s.iperf_udp_bandwidth = some bandwidth ∧
    IsBandwidth digit bandwidth

/-- What the switch and the text must be, given the flag and the bandwidth from before. -/
def ProtocolFits (form : Form) (s : MapActivity) : Prop :=
  form.udpSw = false ∨ IsBandwidth digit form.etUDPBandwidth ∨
  s.iperf_udp_flag = true ∧ form.etUDPBandwidth ≠ "" ∧ ¬IsBarred digit form.etUDPBandwidth ∨
  s.iperf_udp_flag = true ∧ form.etUDPBandwidth = "" ∧
    s.iperf_udp_bandwidth = some defaultIperfUdpBandwidth

theorem saveProtocol_of_off {form : Form} (h : form.udpSw = false) (s : MapActivity) :
    saveProtocol digit form s = { s with iperf_udp_flag := false } := by
  unfold saveProtocol
  rw [h]
  exact if_neg Bool.false_ne_true

theorem saveProtocol_of_matches {form : Form} (h : form.udpSw = true)
    (hmatches : matchesBandwidth digit form.etUDPBandwidth = true) (s : MapActivity) :
    saveProtocol digit form s =
      { s with iperf_udp_flag := true, iperf_udp_bandwidth := some form.etUDPBandwidth } := by
  unfold saveProtocol
  rw [if_pos h, if_neg fun hinvalid => hinvalid.2 hmatches, if_pos hmatches]

theorem saveProtocol_of_invalid {form : Form} (h : form.udpSw = true)
    (hmatches : ¬matchesBandwidth digit form.etUDPBandwidth = true) (hne : form.etUDPBandwidth ≠ "")
    (s : MapActivity) :
    saveProtocol digit form s = { s with iperf_udp_bandwidth := some defaultIperfUdpBandwidth } :=
      by
  have hlength : form.etUDPBandwidth.length > 0 := by
    rw [gt_iff_lt, Nat.pos_iff_ne_zero, ne_eq, String.length_eq_zero_iff]
    exact hne
  unfold saveProtocol
  rw [if_pos h, if_pos ⟨hlength, hmatches⟩]

theorem saveProtocol_of_empty {form : Form} (h : form.udpSw = true)
    (hempty : form.etUDPBandwidth = "") (s : MapActivity) : saveProtocol digit form s = s := by
  have hmatches : ¬matchesBandwidth digit form.etUDPBandwidth = true := by
    rw [hempty]; exact Bool.false_ne_true
  unfold saveProtocol
  rw [if_pos h, if_neg, if_neg hmatches]
  rintro ⟨hlength, -⟩
  rw [hempty] at hlength
  exact absurd hlength (by decide)

theorem IsBandwidth.ne_empty {text : String} (h : IsBandwidth digit text) : text ≠ "" := by
  rintro rfl
  obtain ⟨ds, unit, hds, -⟩ := h
  exact List.append_ne_nil_of_right_ne_nil ds (List.cons_ne_nil unit []) hds.symm

theorem IsBarred.ne_empty {text : String} (h : IsBarred digit text) : text ≠ "" := by
  rintro rfl
  obtain ⟨ds, hds, -⟩ := h
  exact List.append_ne_nil_of_right_ne_nil ds (List.cons_ne_nil '|' []) hds.symm

section Reads

variable {σ : Type} {R : σ → σ → Prop} [Std.Refl R]

theorem within_element {α : Type} (values : List α) (i : ℤ) :
    Java.Within R (element values i : Java σ α) := by
  unfold element
  split
  · exact Java.within_throw _
  · split
    · exact Java.within_pure _
    · exact Java.within_throw _

end Reads

section Reads

variable {R : MapActivity → MapActivity → Prop} [Std.Refl R]

theorem within_parseInt (text : String) : Java.Within R (parseInt digit text) := by
  unfold parseInt
  split
  · exact Java.within_pure _
  · exact Java.within_throw _

theorem within_parseOr (text : String) (default : ℤ) :
    Java.Within R (parseOr digit text default) := by
  unfold parseOr
  split
  · exact Java.within_pure _
  · exact within_parseInt digit text

end Reads

def MapActivity.protocol (s : MapActivity) : Bool × Option String :=
  (s.iperf_udp_flag, s.iperf_udp_bandwidth)

theorem protocol_setIperfJSON (s : MapActivity) : (setIperfJSON s).protocol = s.protocol := by
  unfold setIperfJSON
  split <;> rfl

/-- What the save button does behind the protocol changes neither the flag nor the bandwidth. -/
theorem leaves_protocol_saveRest (form : Form) :
    Java.Leaves MapActivity.protocol (saveRest digit form) := by
  have hmodify (f : MapActivity → MapActivity) (h : ∀ s, (f s).protocol = s.protocol) :
      Java.Leaves MapActivity.protocol (Java.modify f) := Java.within_modify f h
  unfold saveRest
  refine Java.within_bind (hmodify _ fun _ => rfl) fun _ => ?_
  refine Java.within_bind (within_parseOr digit _ _) fun iperf_tcpdump_interval => ?_
  refine Java.within_bind (hmodify _ fun _ => rfl) fun _ => ?_
  refine Java.within_bind (within_parseOr digit _ _) fun iperf_tcpdump_filesize => ?_
  refine Java.within_bind (hmodify _ fun _ => rfl) fun _ => ?_
  refine Java.within_bind (hmodify _ fun _ => rfl) fun _ => ?_
  refine Java.within_bind Java.within_get fun s => ?_
  refine Java.within_bind (within_element _ _) fun host => ?_
  refine Java.within_bind (hmodify _ fun _ => rfl) fun _ => ?_
  refine Java.within_bind (within_element _ _) fun iperf_tcp_parallel => ?_
  refine Java.within_bind (hmodify _ fun _ => rfl) fun _ => ?_
  refine Java.within_bind (within_parseInt digit _) fun iperf_interval => ?_
  refine Java.within_bind (hmodify _ fun _ => rfl) fun _ => ?_
  refine Java.within_bind (within_parseOr digit _ _) fun iperf_port => ?_
  refine Java.within_bind (hmodify _ fun _ => rfl) fun _ => ?_
  refine Java.within_bind (within_parseOr digit _ _) fun iperf_duration => ?_
  refine Java.within_bind (hmodify _ fun _ => protocol_setIperfJSON _) fun _ => ?_
  exact hmodify _ fun _ => rfl

theorem protocol_save (form : Form) (s : MapActivity) :
    ((save digit form).run s).2.protocol = (saveProtocol digit form s).protocol :=
  leaves_protocol_saveRest digit form (saveProtocol digit form s)

theorem protocolStored_congr {form : Form} {s t : MapActivity} (h : s.protocol = t.protocol) :
    ProtocolStored digit form s ↔ ProtocolStored digit form t := by
  obtain ⟨hflag, hbandwidth⟩ := Prod.mk.inj h
  constructor
  · intro hs
    exact ⟨hflag ▸ hs.flag, hflag ▸ hbandwidth ▸ hs.typed, hflag ▸ hbandwidth ▸ hs.default,
      hflag ▸ hbandwidth ▸ hs.well_formed⟩
  · intro ht
    exact ⟨hflag ▸ ht.flag, hflag ▸ hbandwidth ▸ ht.typed, hflag ▸ hbandwidth ▸ ht.default,
      hflag ▸ hbandwidth ▸ ht.well_formed⟩

section Stored

variable {digit}

variable (hdigit : ∀ c : Char, c.isDigit = true → (digit c).isSome = true)

include hdigit

theorem isBandwidth_default : IsBandwidth digit defaultIperfUdpBandwidth := by
  refine ⟨['3', '0', '0', '0'], 'M', by decide, by decide, ?_, .inl rfl⟩
  intro d hd
  have hall : ['3', '0', '0', '0'].all Char.isDigit = true := by decide
  exact hdigit d (List.all_eq_true.mp hall d hd)

theorem stored_default_iff (form : Form) (s : MapActivity)
    (hbandwidth : s.iperf_udp_bandwidth = some defaultIperfUdpBandwidth)
    (hswitch : form.udpSw = true) (htext : ¬IsBandwidth digit form.etUDPBandwidth) :
    ProtocolStored digit form s ↔ s.iperf_udp_flag = true := by
  constructor
  · intro h
    rw [h.flag, hswitch]
  · intro hflag
    constructor
    case flag => rw [hflag, hswitch]
    case typed => exact fun _ h => absurd h htext
    case default => exact fun _ _ => hbandwidth
    case well_formed => exact fun _ => ⟨_, hbandwidth, isBandwidth_default hdigit⟩

theorem stored_saveProtocol_iff (form : Form) (s : MapActivity) :
    ProtocolStored digit form (saveProtocol digit form s) ↔ ProtocolFits digit form s := by
  unfold ProtocolFits
  cases hswitch : form.udpSw with
  | false =>
    apply iff_of_true _ (.inl rfl)
    rw [saveProtocol_of_off digit hswitch]
    constructor
    case flag => exact hswitch.symm
    all_goals exact fun h => absurd h Bool.false_ne_true
  | true =>
    by_cases hempty : form.etUDPBandwidth = ""
    · have htext : ¬IsBandwidth digit form.etUDPBandwidth := fun h => h.ne_empty digit hempty
      rw [saveProtocol_of_empty digit hswitch hempty]
      constructor
      · intro h
        have hflag : s.iperf_udp_flag = true := h.flag.trans hswitch
        exact .inr (.inr (.inr ⟨hflag, hempty, h.default hflag htext⟩))
      · rintro (h | h | ⟨-, hne, -⟩ | ⟨hflag, -, hbandwidth⟩)
        · cases h
        · exact absurd h htext
        · exact absurd hempty hne
        · exact (stored_default_iff hdigit form s hbandwidth hswitch htext).mpr hflag
    · by_cases hmatches : matchesBandwidth digit form.etUDPBandwidth = true
      · rw [saveProtocol_of_matches digit hswitch hmatches]
        rcases (matchesBandwidth_iff digit _).mp hmatches with htext | hbarred
        · apply iff_of_true _ (.inr (.inl htext))
          constructor
          case flag => exact hswitch.symm
          case typed => exact fun _ _ => rfl
          case default => exact fun _ h => absurd htext h
          case well_formed => exact fun _ => ⟨_, rfl, htext⟩
        · have htext := hbarred.not_isBandwidth digit
          apply iff_of_false
          · intro h
            obtain ⟨bandwidth, heq, hform⟩ := h.well_formed rfl
            cases heq
            exact htext hform
          · rintro (h | h | ⟨-, -, h⟩ | ⟨-, h, -⟩)
            · cases h
            · exact htext h
            · exact h hbarred
            · exact hempty h
      · have hneither := fun h => hmatches ((matchesBandwidth_iff digit _).mpr h)
        have htext : ¬IsBandwidth digit form.etUDPBandwidth := fun h => hneither (.inl h)
        have hbarred : ¬IsBarred digit form.etUDPBandwidth := fun h => hneither (.inr h)
        rw [saveProtocol_of_invalid digit hswitch hmatches hempty,
          stored_default_iff hdigit form _ rfl hswitch htext]
        constructor
        · intro hflag
          exact .inr (.inr (.inl ⟨hflag, hempty, hbarred⟩))
        · rintro (h | h | ⟨hflag, -⟩ | ⟨-, h, -⟩)
          · cases h
          · exact absurd h htext
          · exact hflag
          · exact absurd h hempty

/-- With the switch off the protocol is stored right, and with the switch on if the text is a
bandwidth. Any other text needs the flag from before, and has to be either neither empty nor
digits before a bar, or empty with the default stored before. -/
theorem protocol_stored_iff (form : Form) (s : MapActivity) :
    ProtocolStored digit form ((save digit form).run s).2 ↔ ProtocolFits digit form s := by
  rw [protocolStored_congr digit (protocol_save digit form s)]
  exact stored_saveProtocol_iff hdigit form s

end Stored

end Protocol

theorem latinDigit_isSome (c : Char) (h : c.isDigit = true) : (latinDigit c).isSome = true := by
  rw [latinDigit_of_isDigit c h]
  rfl

/-- A text that is not a bandwidth, typed when UDP was on. -/
theorem protocol_stored_invalid :
    ProtocolStored latinDigit { udpSw := true, etUDPBandwidth := "fast" }
    ((save latinDigit { udpSw := true, etUDPBandwidth := "fast" }).run
      { iperf_udp_flag := true }).2 := by
  have hbarred : ¬IsBarred latinDigit "fast" := fun h =>
    absurd ((matchesBandwidth_iff latinDigit "fast").mpr (.inr h)) (by decide)
  exact (protocol_stored_iff latinDigit_isSome _ _).mpr
    (.inr (.inr (.inl ⟨rfl, by decide, hbarred⟩)))

/-- The switch is turned on for the first time and the text is left empty. -/
theorem protocol_stored_fails : ¬ProtocolStored latinDigit { udpSw := true }
    ((save latinDigit { udpSw := true }).run { iperf_HostNames_all := [("Host", "10.0.0.1")] }).2 :=
      by
  intro h
  exact absurd h.flag (by decide)

/-! What a save that completes has done. -/

structure Saved (form : Form) (s t : MapActivity) : Prop where
  stored : ∃ p, t.app_shared_pref = storeIperfSetup t p
  host : ∃ host, 0 ≤ form.spinnerHostName ∧ s.iperf_HostNames_all[form.spinnerHostName.toNat]? =
    some host ∧ t.iperf_HostName = some host.2 ∧ t.iperf_HostName_label = some host.1
  hosts : t.iperf_HostNames_all = s.iperf_HostNames_all
  run_label : t.iperf_run_label.isSome = true
  downlink : t.iperf_downlink_flag = form.downlinkSw

section Saved

variable {digit : Char → Option ℕ} {form : Form} {s t : MapActivity}

theorem parseInt_eq_ok {text : String} {n : ℤ} (h : (parseInt digit text).run s = (.ok n, t)) :
    t = s := by
  have hleaves : Java.Leaves id (parseInt digit text) := within_parseInt digit text
  have hsame := hleaves s
  rw [h] at hsame
  exact hsame

theorem parseOr_eq_ok {text : String} {default n : ℤ}
    (h : (parseOr digit text default).run s = (.ok n, t)) : t = s := by
  have hleaves : Java.Leaves id (parseOr digit text default) := within_parseOr digit text default
  have hsame := hleaves s
  rw [h] at hsame
  exact hsame

theorem element_eq_ok {σ α : Type} {u u' : σ} {values : List α} {i : ℤ} {value : α}
    (h : (element values i).run u = (.ok value, u')) :
    u' = u ∧ 0 ≤ i ∧ values[i.toNat]? = some value := by
  unfold element at h
  split at h
  · cases h
  · next hpos =>
    split at h
    · next heq =>
      cases h
      exact ⟨rfl, Int.not_lt.mp hpos, heq⟩
    · cases h

theorem setIperfJSON_eq (s : MapActivity) :
    ∃ json verbose,
      setIperfJSON s = { s with iperf_json_flag := json, iperf_verbose_flag := verbose } := by
  unfold setIperfJSON
  split
  · exact ⟨_, _, rfl⟩
  · exact ⟨_, _, rfl⟩

theorem correctLabel_isSome {label : String} (h : label.length ≠ 0) :
    (correctLabel label).isSome = true := by
  have hne : label ≠ "" := by
    rintro rfl
    exact h rfl
  unfold correctLabel
  rw [if_neg hne]
  rfl

theorem saved_of_saveRest (h : (saveRest digit form).run s = (.ok (), t)) : Saved form s t := by
  unfold saveRest at h
  obtain ⟨_, s₁, h₁, h⟩ := Java.bind_eq_ok _ _ _ _ _ h
  cases h₁
  obtain ⟨iperf_tcpdump_interval, s₂, h₂, h⟩ := Java.bind_eq_ok _ _ _ _ _ h
  obtain rfl := parseOr_eq_ok h₂
  obtain ⟨_, s₃, h₃, h⟩ := Java.bind_eq_ok _ _ _ _ _ h
  cases h₃
  obtain ⟨iperf_tcpdump_filesize, s₄, h₄, h⟩ := Java.bind_eq_ok _ _ _ _ _ h
  obtain rfl := parseOr_eq_ok h₄
  obtain ⟨_, s₅, h₅, h⟩ := Java.bind_eq_ok _ _ _ _ _ h
  cases h₅
  obtain ⟨_, s₆, h₆, h⟩ := Java.bind_eq_ok _ _ _ _ _ h
  cases h₆
  obtain ⟨_, s₇, h₇, h⟩ := Java.bind_eq_ok _ _ _ _ _ h
  cases h₇
  obtain ⟨host, s₈, h₈, h⟩ := Java.bind_eq_ok _ _ _ _ _ h
  obtain ⟨rfl, hpos, hhost⟩ := element_eq_ok h₈
  obtain ⟨_, s₉, h₉, h⟩ := Java.bind_eq_ok _ _ _ _ _ h
  cases h₉
  obtain ⟨iperf_tcp_parallel, s₁₀, h₁₀, h⟩ := Java.bind_eq_ok _ _ _ _ _ h
  obtain ⟨rfl, -, -⟩ := element_eq_ok h₁₀
  obtain ⟨_, s₁₁, h₁₁, h⟩ := Java.bind_eq_ok _ _ _ _ _ h
  cases h₁₁
  obtain ⟨iperf_interval, s₁₂, h₁₂, h⟩ := Java.bind_eq_ok _ _ _ _ _ h
  obtain rfl := parseInt_eq_ok h₁₂
  obtain ⟨_, s₁₃, h₁₃, h⟩ := Java.bind_eq_ok _ _ _ _ _ h
  cases h₁₃
  obtain ⟨iperf_port, s₁₄, h₁₄, h⟩ := Java.bind_eq_ok _ _ _ _ _ h
  obtain rfl := parseOr_eq_ok h₁₄
  obtain ⟨_, s₁₅, h₁₅, h⟩ := Java.bind_eq_ok _ _ _ _ _ h
  cases h₁₅
  obtain ⟨iperf_duration, s₁₆, h₁₆, h⟩ := Java.bind_eq_ok _ _ _ _ _ h
  obtain rfl := parseOr_eq_ok h₁₆
  obtain ⟨_, s₁₇, h₁₇, h⟩ := Java.bind_eq_ok _ _ _ _ _ h
  cases h₁₇
  cases h
  choose json verbose hjson using setIperfJSON_eq
  dsimp only
  rw [hjson]
  constructor
  case stored => exact ⟨_, rfl⟩
  case host => exact ⟨host, hpos, hhost, rfl, rfl⟩
  case hosts => rfl
  case run_label =>
    change (if form.mactv.length = 0 then some "" else correctLabel form.mactv).isSome = true
    split
    · rfl
    · next hne => exact correctLabel_isSome hne
  case downlink => rfl

theorem hosts_saveProtocol (digit : Char → Option ℕ) (form : Form) (s : MapActivity) :
    (saveProtocol digit form s).iperf_HostNames_all = s.iperf_HostNames_all := by
  unfold saveProtocol
  split_ifs <;> rfl

theorem saved_of_save (h : (save digit form).run s = (.ok (), t)) : Saved form s t := by
  have hrest : Saved form (saveProtocol digit form s) t := saved_of_saveRest h
  have hhosts := hosts_saveProtocol digit form s
  exact ⟨hrest.stored, hhosts ▸ hrest.host, hrest.hosts.trans hhosts, hrest.run_label,
    hrest.downlink⟩

end Saved

/-! What is read back. -/

section Restore

variable {s : MapActivity} {key : String}

theorem getInt_stored {value : ℤ} (default : ℤ) (h : s.app_shared_pref key = some (.int value)) :
    (getInt key default).run s = (.ok value, s) := by
  unfold getInt
  rw [Java.bind_ok Java.get _ s s s rfl, h]
  rfl

theorem getBoolean_stored {value : Bool} (default : Bool)
    (h : s.app_shared_pref key = some (.boolean value)) :
    (getBoolean key default).run s = (.ok value, s) := by
  unfold getBoolean
  rw [Java.bind_ok Java.get _ s s s rfl, h]
  rfl

theorem getString_stored {value : Option String} (default : String)
    (h : s.app_shared_pref key = value.map Preference.string) :
    (getString key default).run s = (.ok (value.getD default), s) := by
  unfold getString
  rw [Java.bind_ok Java.get _ s s s rfl, h]
  cases value <;> rfl

/-- `restoreIperfSetup` reads twelve settings, and each under the key it was stored with. -/
theorem restoreIperfSetup_stored (s o : MapActivity) (p : Preferences)
    (h : o.app_shared_pref = storeIperfSetup s p) :
    restoreIperfSetup.run o = (.ok (), { o with
      iperf_duration := s.iperf_duration
      iperf_HostName := some (s.iperf_HostName.getD "")
      iperf_HostName_label := some (s.iperf_HostName_label.getD "")
      iperf_port := s.iperf_port
      iperf_run_label := some (s.iperf_run_label.getD "")
      iperf_tcp_parallel := s.iperf_tcp_parallel
      iperf_udp_bandwidth := some (s.iperf_udp_bandwidth.getD defaultIperfUdpBandwidth)
      iperf_udp_flag := s.iperf_udp_flag
      iperf_interval := s.iperf_interval
      iperf_tcpdump_flag := s.iperf_tcpdump_flag
      iperf_tcpdump_filesize := s.iperf_tcpdump_filesize
      iperf_tcpdump_interval := s.iperf_tcpdump_interval }) := by
  have hint (key : String) (value default : ℤ) (u : MapActivity)
      (hu : u.app_shared_pref = o.app_shared_pref)
      (hkey : storeIperfSetup s p key = some (.int value)) :
      (getInt key default).run u = (.ok value, u) := by
    apply getInt_stored
    rw [hu, h, hkey]
  have hboolean (key : String) (value default : Bool) (u : MapActivity)
      (hu : u.app_shared_pref = o.app_shared_pref)
      (hkey : storeIperfSetup s p key = some (.boolean value)) :
      (getBoolean key default).run u = (.ok value, u) := by
    apply getBoolean_stored
    rw [hu, h, hkey]
  have hstring (key : String) (value : Option String) (default : String) (u : MapActivity)
      (hu : u.app_shared_pref = o.app_shared_pref)
      (hkey : storeIperfSetup s p key = value.map .string) :
      (getString key default).run u = (.ok (value.getD default), u) := by
    apply getString_stored
    rw [hu, h, hkey]
  have hmodify (f : MapActivity → MapActivity) (k : Unit → Java MapActivity Unit)
      (u : MapActivity) : (Java.modify f >>= k).run u = (k ()).run (f u) :=
        rfl
  unfold restoreIperfSetup
  refine (Java.bind_ok _ _ _ _ _ (hint "iperf_duration" s.iperf_duration _ _ (by rfl) rfl)).trans ?_
  rw [hmodify]
  refine (Java.bind_ok _ _ _ _ _ (hstring "iperf_HostName" s.iperf_HostName _ _ (by rfl) rfl)).trans
    ?_
  rw [hmodify]
  refine (Java.bind_ok _ _ _ _ _ (hstring "iperf_HostName_Label" s.iperf_HostName_label _ _
    (by rfl) rfl)).trans ?_
  rw [hmodify]
  refine (Java.bind_ok _ _ _ _ _ (hint "iperf_port" s.iperf_port _ _ (by rfl) rfl)).trans ?_
  rw [hmodify]
  refine (Java.bind_ok _ _ _ _ _ (hstring "iperf_run_label" s.iperf_run_label _ _
    (by rfl) rfl)).trans ?_
  rw [hmodify]
  refine (Java.bind_ok _ _ _ _ _ (hint "iperf_parallel" s.iperf_tcp_parallel _ _
    (by rfl) rfl)).trans ?_
  rw [hmodify]
  refine (Java.bind_ok _ _ _ _ _ (hstring "iperf_udp_bandwidth" s.iperf_udp_bandwidth _ _
    (by rfl) rfl)).trans ?_
  rw [hmodify]
  refine (Java.bind_ok _ _ _ _ _ (hboolean "iperf_udp_enabled" s.iperf_udp_flag _ _
    (by rfl) rfl)).trans ?_
  rw [hmodify]
  refine (Java.bind_ok _ _ _ _ _ (hint "iperf_interval" s.iperf_interval _ _ (by rfl) rfl)).trans ?_
  rw [hmodify]
  refine (Java.bind_ok _ _ _ _ _ (hboolean "iperf_tcpdump" s.iperf_tcpdump_flag _ _
    (by rfl) rfl)).trans ?_
  rw [hmodify]
  refine (Java.bind_ok _ _ _ _ _ (hint "iperf_tcpdump_filesize" s.iperf_tcpdump_filesize _ _
    (by rfl) rfl)).trans ?_
  rw [hmodify]
  refine (Java.bind_ok _ _ _ _ _ (hint "iperf_tcpdump_interval" s.iperf_tcpdump_interval _ _
    (by rfl) rfl)).trans ?_
  rfl

end Restore

/-- The settings of iperf that a run uses. -/
structure SameSettings (s t : MapActivity) : Prop where
  duration : s.iperf_duration = t.iperf_duration
  hostName : s.iperf_HostName = t.iperf_HostName
  hostName_label : s.iperf_HostName_label = t.iperf_HostName_label
  port : s.iperf_port = t.iperf_port
  run_label : s.iperf_run_label = t.iperf_run_label
  tcp_parallel : s.iperf_tcp_parallel = t.iperf_tcp_parallel
  udp_flag : s.iperf_udp_flag = t.iperf_udp_flag
  udp_bandwidth : s.iperf_udp_bandwidth = t.iperf_udp_bandwidth
  interval : s.iperf_interval = t.iperf_interval
  downlink_flag : s.iperf_downlink_flag = t.iperf_downlink_flag
  tcpdump_flag : s.iperf_tcpdump_flag = t.iperf_tcpdump_flag
  tcpdump_filesize : s.iperf_tcpdump_filesize = t.iperf_tcpdump_filesize
  tcpdump_interval : s.iperf_tcpdump_interval = t.iperf_tcpdump_interval

/-- The preferences of `t`, read while the statics are those of `o`, give the settings of `t`. -/
def Restored (o t : MapActivity) : Prop :=
  ∃ r, restoreIperfSetup.run { o with app_shared_pref := t.app_shared_pref } = (.ok (), r) ∧
    SameSettings r t

theorem some_getD_eq_iff {α : Type} (value : Option α) (default : α) :
    some (value.getD default) = value ↔ value.isSome = true := by
  cases value with
  | none => exact iff_of_false (Option.some_ne_none default) Bool.false_ne_true
  | some value => exact iff_of_true rfl rfl

theorem restored_iff (o t : MapActivity) (p : Preferences)
    (h : t.app_shared_pref = storeIperfSetup t p)
    (hhost : t.iperf_HostName.isSome = true) (hhost_label : t.iperf_HostName_label.isSome = true)
    (hlabel : t.iperf_run_label.isSome = true) :
    Restored o t ↔ o.iperf_downlink_flag = t.iperf_downlink_flag ∧
      t.iperf_udp_bandwidth.isSome = true := by
  have hrun := restoreIperfSetup_stored t { o with app_shared_pref := t.app_shared_pref } p h
  unfold Restored
  constructor
  · rintro ⟨r, hr, hsame⟩
    rw [hrun] at hr
    cases hr
    exact ⟨hsame.downlink_flag, (some_getD_eq_iff _ _).mp hsame.udp_bandwidth⟩
  · rintro ⟨hdownlink, hbandwidth⟩
    refine ⟨_, hrun, ?_⟩
    constructor
    case hostName => exact (some_getD_eq_iff _ _).mpr hhost
    case hostName_label => exact (some_getD_eq_iff _ _).mpr hhost_label
    case run_label => exact (some_getD_eq_iff _ _).mpr hlabel
    case udp_bandwidth => exact (some_getD_eq_iff _ _).mpr hbandwidth
    case downlink_flag => exact hdownlink
    all_goals rfl

/-- The bandwidth is set as soon as a text is saved with the switch on. -/
theorem bandwidth_isSome_iff (digit : Char → Option ℕ) (form : Form) (s : MapActivity) :
    (saveProtocol digit form s).iperf_udp_bandwidth.isSome = true ↔
      s.iperf_udp_bandwidth.isSome = true ∨ form.udpSw = true ∧ form.etUDPBandwidth ≠ "" := by
  cases hswitch : form.udpSw with
  | false =>
    rw [saveProtocol_of_off digit hswitch]
    exact (or_iff_left fun h => Bool.false_ne_true h.1).symm
  | true =>
    by_cases hempty : form.etUDPBandwidth = ""
    · rw [saveProtocol_of_empty digit hswitch hempty]
      exact (or_iff_left fun h => h.2 hempty).symm
    · apply iff_of_true _ (.inr ⟨rfl, hempty⟩)
      by_cases hmatches : matchesBandwidth digit form.etUDPBandwidth = true
      · rw [saveProtocol_of_matches digit hswitch hmatches]
        rfl
      · rw [saveProtocol_of_invalid digit hswitch hmatches hempty]
        rfl

/-- The direction is neither stored nor read, and a bandwidth that was never set comes back as
the default; everything else comes back as it was. -/
theorem settings_restored_iff (digit : Char → Option ℕ) (form : Form) (s t o : MapActivity)
    (hsave : (save digit form).run s = (.ok (), t)) :
    Restored o t ↔ o.iperf_downlink_flag = form.downlinkSw ∧
      (s.iperf_udp_bandwidth.isSome = true ∨ form.udpSw = true ∧ form.etUDPBandwidth ≠ "") := by
  have hsaved := saved_of_save hsave
  obtain ⟨p, hstored⟩ := hsaved.stored
  obtain ⟨host, -, -, hhost, hhost_label⟩ := hsaved.host
  have hprotocol := protocol_save digit form s
  rw [hsave] at hprotocol
  have hbandwidth : t.iperf_udp_bandwidth = (saveProtocol digit form s).iperf_udp_bandwidth :=
    congrArg Prod.snd hprotocol
  rw [restored_iff o t p hstored (hhost ▸ rfl) (hhost_label ▸ rfl) hsaved.run_label,
    hsaved.downlink, hbandwidth, bandwidth_isSome_iff]

/-- A save with UDP, read when the statics have their first values. -/
theorem settings_restored_downlink : ∃ t,
    (save latinDigit { udpSw := true, etUDPBandwidth := "50M" }).run
    { iperf_HostNames_all := [("Host", "10.0.0.1")] } =
      (.ok (), t) ∧ Restored {} t := by
  have hiff := settings_restored_iff latinDigit { udpSw := true, etUDPBandwidth := "50M" }
    { iperf_HostNames_all := [("Host", "10.0.0.1")] } _ {} rfl
  exact ⟨_, rfl, hiff.mpr ⟨rfl, .inr ⟨rfl, by decide⟩⟩⟩

/-- The direction was saved as uplink. -/
theorem settings_restored_fails : ∃ t,
    (save latinDigit { udpSw := true, etUDPBandwidth := "50M", downlinkSw := false }).run
      { iperf_HostNames_all := [("Host", "10.0.0.1")] } = (.ok (), t) ∧ ¬Restored {} t := by
  refine ⟨_, rfl, ?_⟩
  rintro ⟨r, hr, hsame⟩
  cases hr
  exact absurd hsame.downlink_flag (by decide)

end MmWaveTracker.IperfDialog
