import MmWaveTracker.IperfDialog

/-! `PingReport`: the lines of `ping`, read piece by piece, and the row that is made of them. -/
namespace MmWaveTracker

open JavaText

/-- What the report needs of Java's library; `digit` is `Character.digit`. The date format has no
comma in its pattern, and no number is written with one. -/
structure PingLibrary (Float : Type) where
  sampleDateFormat : ℤ → List Char
  parseFloat : List Char → Option Float
  valueOfFloat : Float → List Char
  minusOne : Float
  digit : Char → Option ℕ
  sampleDateFormat_plain : ∀ timestamp, ',' ∉ sampleDateFormat timestamp
  valueOfFloat_plain : ∀ x, ',' ∉ valueOfFloat x
  digit_of_isDigit : ∀ c, c.isDigit = true → digit c = some (c.toNat - 48)

structure PingReport (Float : Type) where
  timestamp : ℤ
  payload : ℤ := -1
  targetIP : Option (List Char) := none
  targetHost : Option (List Char) := none
  rtt : Float
  destinationIP : List Char := []
  destinationHost : List Char := []
  rawHeader : Option (List Char) := none
  rawData : Option (List Char) := none

namespace PingReport

abbrev Text := List Char

section Methods

variable {Float : Type} (L : PingLibrary Float)

/-- `text.replace("x", "")` for each of the characters, one after the other. -/
def without (cs : List Char) (text : Text) : Text := text.filter fun c => c ∉ cs

/-- The statements on the header; `none` if one of them throws. -/
def parseHeader (rawHeader : Text) (r : PingReport Float) : Option (PingReport Float) := do
  let headerPieces := split ' ' rawHeader
  let targetHost ← headerPieces[1]?
  let targetIP ← headerPieces[2]?
  let payload ← headerPieces[3]?
  let payload ← substring payload 0 (indexOf payload ['('])
  let payload ← IperfDialog.intValue L.digit payload
  return { r with
    targetHost := some targetHost, targetIP := some (without ['(', ')'] targetIP), payload }

/-- The statements on a line with "from"; the time comes first. -/
def parseReply (dataPieces : List Text) (r : PingReport Float) : Option (PingReport Float) := do
  -- a reply without a host has the time one place before
  let time ← dataPieces[7]?
  let time ← (split '=' time)[1]?
  let rtt ← L.parseFloat time
  let destinationIP ← dataPieces[4]?
  let destinationHost ← dataPieces[3]?
  return { r with rtt, destinationIP := without ['(', ')', ':'] destinationIP, destinationHost }

/-- Is the target responding? -/
def parseData (rawData : Text) (r : PingReport Float) : Option (PingReport Float) :=
  let dataPieces := split ' ' rawData
  -- the third piece is read behind a check for two
  if dataPieces.length ≥ 2 then do
    let third ← dataPieces[2]?
    if contains third "from".toList then parseReply L dataPieces r else return r
  else return r

def parse (r : PingReport Float) : Option (PingReport Float) :=
  match r.rawHeader with
  | none => return r
  | some rawHeader => do
    let r ← parseHeader L rawHeader r
    let rawData ← r.rawData
    parseData L rawData r

/-- The values in the order of the columns; a null is joined as "null". -/
def row (r : PingReport Float) : Text :=
  [','].intercalate [L.sampleDateFormat r.timestamp, (valueOf r.payload).toList,
    r.targetIP.getD "null".toList,
    r.targetHost.getD "null".toList, L.valueOfFloat r.rtt, r.destinationIP, r.destinationHost]

/-- `toString`; any exception is printed and makes it null. -/
def toString (r : PingReport Float) : Option Text := (parse L r).map (row L)

end Methods

/-! The output of `ping`. -/

/-- A header "PING host (ip) size(total) ...". -/
structure Header where
  host : Text
  ip : Text
  size : ℕ
  total : Text
  rest : Text
  host_plain : ' ' ∉ host ∧ ',' ∉ host
  ip_plain : ' ' ∉ ip ∧ ',' ∉ ip ∧ '(' ∉ ip ∧ ')' ∉ ip
  size_lt : size < 2147483648
  total_plain : ' ' ∉ total
  rest_begins : rest = [] ∨ ∃ text, rest = ' ' :: text

namespace Header

def address (h : Header) : Text := '(' :: (h.ip ++ [')'])

def payload (h : Header) : Text := Nat.toDigits 10 h.size ++ '(' :: (h.total ++ [')'])

def line (h : Header) : Text :=
  "PING".toList ++ ' ' :: (h.host ++ ' ' :: (h.address ++ ' ' :: (h.payload ++ h.rest)))

end Header

/-- A line "n bytes from host (ip): icmp_seq=a ttl=b time=c ms", or without a host
"n bytes from ip: icmp_seq=a ttl=b time=c ms". -/
structure Reply {Float : Type} (L : PingLibrary Float) where
  n : Text
  host : Option Text
  ip : Text
  a : Text
  b : Text
  c : Text
  rtt : Float
  numbers : ∀ number ∈ [n, a, b], number ≠ [] ∧ ∀ d ∈ number, d.isDigit = true
  host_plain : ∀ name ∈ host, name ≠ [] ∧ ' ' ∉ name ∧ ',' ∉ name
  ip_plain : ip ≠ [] ∧ ' ' ∉ ip ∧ ',' ∉ ip ∧ '(' ∉ ip ∧ ')' ∉ ip
  c_plain : c ≠ [] ∧ ' ' ∉ c ∧ '=' ∉ c
  parsed : L.parseFloat c = some rtt

namespace Reply

variable {Float : Type} {L : PingLibrary Float}

/-- Who has answered. -/
def source (r : Reply L) : List Text :=
  match r.host with
  | some host => [host, '(' :: (r.ip ++ "):".toList)]
  | none => [r.ip ++ [':']]

def front (r : Reply L) : List Text :=
  [r.n, "bytes".toList, "from".toList] ++ r.source ++
    ["icmp_seq=".toList ++ r.a, "ttl=".toList ++ r.b, "time=".toList ++ r.c]

def line (r : Reply L) : Text := [' '].intercalate (r.front ++ ["ms".toList])

end Reply

section Property

variable {Float : Type} (L : PingLibrary Float)

def created (h : Header) (timestamp : ℤ) (data : Text) : PingReport Float where
  timestamp := timestamp
  rtt := L.minusOne
  rawHeader := some h.line
  rawData := some data

/-- The row has the seven columns, with this round trip and this destination. -/
def RowIs (h : Header) (timestamp : ℤ) (data : Text) (rtt : Float)
    (destinationIP destinationHost : Text) : Prop :=
  ∃ text, toString L (created L h timestamp data) = some text ∧ text.splitOn ',' =
    [L.sampleDateFormat timestamp, (valueOf h.size).toList, h.ip, h.host, L.valueOfFloat rtt,
      destinationIP, destinationHost]

/-- A reply gives its time and address, any other line none. -/
structure RowFits (h : Header) (timestamp : ℤ) (data : Text) : Prop where
  reply : ∀ r : Reply L, data = r.line →
    ∃ destinationHost, RowIs L h timestamp data r.rtt r.ip destinationHost
  other : (¬∃ r : Reply L, data = r.line) → RowIs L h timestamp data L.minusOne [] []

/-- The third piece is no "from", and is not asked for in vain. -/
def Passed (data : Text) : Prop :=
  (split ' ' data).length ≠ 2 ∧ ∀ third ∈ (split ' ' data)[2]?, contains third "from".toList = false

/-- A line that is read as a reply, and yet gives -1 and no destination. -/
def Blank (data : Text) : Prop :=
  ∃ third source time text rtt, (split ' ' data)[2]? = some third ∧
    contains third "from".toList = true ∧
    (split ' ' data)[3]? = some [] ∧ (split ' ' data)[4]? = some source ∧
    (∀ c ∈ source, c ∈ ['(', ')', ':']) ∧
    (split ' ' data)[7]? = some time ∧ (split '=' time)[1]? = some text ∧
      L.parseFloat text = some rtt ∧
    L.valueOfFloat rtt = L.valueOfFloat L.minusOne

end Property

/-! The header. -/

theorem without_eq_self (cs : List Char) (text : Text) (h : ∀ c ∈ cs, c ∉ text) :
    without cs text = text := by
  rw [without, List.filter_eq_self]
  intro c hc
  exact decide_eq_true fun hmem => h c hmem hc

section Parsing

variable {Float : Type} (L : PingLibrary Float)

theorem intValue_toDigits (n : ℕ) (hn : n < 2147483648) :
    IperfDialog.intValue L.digit (Nat.toDigits 10 n) = some (n:ℤ) := by
  have hdigit : ∀ c ∈ Nat.toDigits 10 n, c.isDigit = true :=
    fun c hc => Nat.isDigit_of_mem_toDigits (by decide) (by decide) hc
  have hvalue := unsignedValue_of_isDigit L.digit L.digit_of_isDigit _ Nat.toDigits_ne_nil hdigit
  rw [Nat.ofDigitChars_ten_toDigits] at hvalue
  have hsigned : IperfDialog.signedValue L.digit (Nat.toDigits 10 n) = some (n:ℤ) := by
    generalize Nat.toDigits 10 n = cs at hdigit hvalue
    unfold IperfDialog.signedValue
    split
    · exact absurd (hdigit '-' List.mem_cons_self) (by decide)
    · exact absurd (hdigit '+' List.mem_cons_self) (by decide)
    · rw [hvalue]
      rfl
  rw [IperfDialog.intValue, hsigned, Option.bind_some]
  exact intInRange_eq n (by omega) (by omega)

theorem not_mem_toDigits (n : ℕ) (c : Char) (hc : c.isDigit = false) : c ∉ Nat.toDigits 10 n := by
  intro hmem
  have hdigit := Nat.isDigit_of_mem_toDigits (by decide) (by decide) hmem
  rw [hc] at hdigit
  cases hdigit

namespace Header

theorem without_address (h : Header) : without ['(', ')'] h.address = h.ip := by
  have hip : without ['(', ')'] h.ip = h.ip := without_eq_self _ _ (by simp [h.ip_plain])
  unfold without at hip ⊢
  rw [address, List.filter_cons_of_neg (by decide), List.filter_append, hip]
  exact List.append_nil h.ip

theorem size_payload (h : Header) :
    substring h.payload 0 (indexOf h.payload ['(']) = some (Nat.toDigits 10 h.size) := by
  have hindex : indexOf h.payload ['('] = ((Nat.toDigits 10 h.size).length : ℕ) := by
    rw [indexOf, payload, firstAt_append_cons '(' _ _ (not_mem_toDigits h.size '(' (by decide))]
    rfl
  have hle : (Nat.toDigits 10 h.size).length ≤ h.payload.length := by
    rw [payload, List.length_append]
    exact Nat.le_add_right _ _
  have htext := substring_of_le h.payload 0 _ (Nat.zero_le _) hle
  rw [hindex]
  refine htext.trans (congrArg some ?_)
  rw [List.drop_zero, payload, List.take_left]

theorem split_line (h : Header) :
    ∃ parts, split ' ' h.line = "PING".toList :: h.host :: h.address :: h.payload :: parts := by
  have hpayload : ' ' ∉ h.payload := by
    have hsize := not_mem_toDigits h.size ' ' (by decide)
    simp [payload, hsize, h.total_plain]
  have haddress : ' ' ∉ h.address := by simp [address, h.ip_plain]
  have hparen : '(' ∈ h.payload ++ h.rest := by simp [payload]
  have hhost : '(' ∈ h.address ++ ' ' :: (h.payload ++ h.rest) := by simp [address]
  have hbegin : '(' ∈ h.host ++ ' ' :: (h.address ++ ' ' :: (h.payload ++ h.rest)) := by
    simp [address]
  obtain ⟨parts, hparts⟩ := split_first ' ' h.payload h.rest hpayload
    (List.append_ne_nil_of_right_ne_nil _ (List.cons_ne_nil _ _)) h.rest_begins
  refine ⟨parts, ?_⟩
  rw [line, split_cons ' ' _ _ (by decide) (trimEnd_ne_nil ' ' '(' _ (by decide) hbegin),
    split_cons ' ' _ _ h.host_plain.1 (trimEnd_ne_nil ' ' '(' _ (by decide) hhost),
    split_cons ' ' _ _ haddress (trimEnd_ne_nil ' ' '(' _ (by decide) hparen), hparts]

end Header

/-- The report when the header has been read. -/
def headed (h : Header) (timestamp : ℤ) (data : Text) : PingReport Float :=
  { created L h timestamp data with
    targetHost := some h.host, targetIP := some h.ip, payload := h.size }

theorem parseHeader_line (h : Header) (timestamp : ℤ) (data : Text) :
    parseHeader L h.line (created L h timestamp data) = some (headed L h timestamp data) := by
  obtain ⟨parts, hparts⟩ := h.split_line
  unfold parseHeader
  rw [hparts]
  simp only [List.getElem?_cons_succ, List.getElem?_cons_zero, Option.bind_eq_bind,
    Option.bind_some, h.size_payload,
    intValue_toDigits L h.size h.size_lt, h.without_address]
  rfl

theorem toString_created (h : Header) (timestamp : ℤ) (data : Text) :
    toString L (created L h timestamp data) =
    (parseData L data (headed L h timestamp data)).map (row L) := by
  have hparse : parse L (created L h timestamp data) =
      parseData L data (headed L h timestamp data) := by
    change (do
      let r ← parseHeader L h.line (created L h timestamp data)
      let rawData ← r.rawData
      parseData L rawData r) = _
    rw [parseHeader_line]
    rfl
  rw [toString, hparse]

/-! The columns of a row. -/

/-- Two texts that are joined are two columns if neither has a comma. -/
theorem splitOn_append_eq_pair (xs ys x y : Text) : xs.splitOn ',' ++ ys.splitOn ',' = [x, y] ↔
    xs = x ∧ ys = y ∧ ',' ∉ x ∧ ',' ∉ y := by
  constructor
  · intro h
    cases hxs : xs.splitOn ',' with
    | nil => exact absurd hxs (List.splitOn_ne_nil _ _)
    | cons x' xs' =>
      cases hys : ys.splitOn ',' with
      | nil => exact absurd hys (List.splitOn_ne_nil _ _)
      | cons y' ys' =>
        rw [hxs, hys] at h
        have hlength := congrArg List.length h
        simp only [List.length_append, List.length_cons, List.length_nil] at hlength
        have hxs' : xs' = [] := List.length_eq_zero_iff.mp (by omega)
        have hys' : ys' = [] := List.length_eq_zero_iff.mp (by omega)
        subst hxs' hys'
        cases h
        have hx : [','].intercalate (xs.splitOn ',') = xs := List.intercalate_splitOn ','
        have hy : [','].intercalate (ys.splitOn ',') = ys := List.intercalate_splitOn ','
        rw [hxs, List.intercalate_singleton] at hx
        rw [hys, List.intercalate_singleton] at hy
        have hxmem : x ∈ xs.splitOn ',' := hxs ▸ List.mem_cons_self
        have hymem : y ∈ ys.splitOn ',' := hys ▸ List.mem_cons_self
        exact ⟨hx.symm, hy.symm, (not_mem_of_mem_splitOn ',' xs x hxmem).1,
          (not_mem_of_mem_splitOn ',' ys y hymem).1⟩
  · rintro ⟨rfl, rfl, hxs, hys⟩
    rw [List.splitOn_eq_singleton hxs, List.splitOn_eq_singleton hys]
    rfl

theorem splitOn_row (r : PingReport Float) (ip host : Text) (hip : r.targetIP = some ip)
    (hhost : r.targetHost = some host)
    (hip_plain : ',' ∉ ip) (hhost_plain : ',' ∉ host) : (row L r).splitOn ',' =
      [L.sampleDateFormat r.timestamp, (valueOf r.payload).toList, ip, host,
        L.valueOfFloat r.rtt] ++
        (r.destinationIP.splitOn ',' ++ r.destinationHost.splitOn ',') := by
  have hpayload : ',' ∉ (valueOf r.payload).toList :=
    not_mem_valueOf r.payload ',' (by decide) (by decide)
  have hcons (x y : Text) (l : List Text) : [','].intercalate (x :: y :: l) =
      x ++ ',' :: [','].intercalate (y :: l) := by
    rw [List.intercalate_cons_cons, List.append_assoc]
    rfl
  unfold row
  rw [hip, hhost, Option.getD_some, Option.getD_some, hcons, hcons, hcons, hcons, hcons, hcons,
    List.intercalate_singleton,
    List.splitOn_append_cons_self_of_not_mem (L.sampleDateFormat_plain _),
    List.splitOn_append_cons_self_of_not_mem hpayload,
      List.splitOn_append_cons_self_of_not_mem hip_plain,
    List.splitOn_append_cons_self_of_not_mem hhost_plain,
    List.splitOn_append_cons_self_of_not_mem (L.valueOfFloat_plain _),
      List.splitOn_append_cons_self]
  rfl

section Row

variable {L} {h : Header} {timestamp : ℤ} {data : Text}

theorem not_rowIs (hparse : parseData L data (headed L h timestamp data) = none) (rtt : Float)
    (destinationIP destinationHost : Text) :
    ¬RowIs L h timestamp data rtt destinationIP destinationHost := by
  rintro ⟨text, htext, -⟩
  rw [toString_created, hparse] at htext
  cases htext

theorem rowIs_iff {x : Float} {source name : Text}
    (hparse : parseData L data (headed L h timestamp data) =
      some { headed L h timestamp data with
        rtt := x, destinationIP := source, destinationHost := name })
    (rtt : Float) (destinationIP destinationHost : Text) :
    RowIs L h timestamp data rtt destinationIP destinationHost ↔
      L.valueOfFloat x = L.valueOfFloat rtt ∧ source = destinationIP ∧ name = destinationHost ∧
        ',' ∉ destinationIP ∧ ',' ∉ destinationHost := by
  have hrow := splitOn_row L { headed L h timestamp data with
    rtt := x, destinationIP := source, destinationHost := name }
    h.ip h.host rfl rfl h.ip_plain.2.1 h.host_plain.2
  have hcolumns : RowIs L h timestamp data rtt destinationIP destinationHost ↔
      L.valueOfFloat x = L.valueOfFloat rtt ∧
        source.splitOn ',' ++ name.splitOn ',' = [destinationIP, destinationHost] := by
    unfold RowIs
    rw [toString_created, hparse, Option.map_some]
    simp only [Option.some_inj, exists_eq_left', hrow, List.cons_append, List.nil_append,
      List.cons.injEq, true_and]
    exact (and_iff_right rfl).trans (and_iff_right rfl)
  rw [hcolumns, splitOn_append_eq_pair]

end Row

section Data

variable {data : Text} {s : PingReport Float}

theorem parseData_passed (h : Passed data) : parseData L data s = some s := by
  obtain ⟨hlength, hthird⟩ := h
  unfold parseData
  by_cases hge : (split ' ' data).length ≥ 2
  · have hlt : 2 < (split ' ' data).length := by omega
    have hsome := List.getElem?_eq_getElem hlt
    simp only [if_pos hge, hsome, Option.bind_eq_bind, Option.bind_some, hthird _ hsome,
      Bool.false_eq_true, if_false]
    rfl
  · exact if_neg hge

/-- Two pieces pass the check of the length, and there is no third one. -/
theorem parseData_pair (h : (split ' ' data).length = 2) : parseData L data s = none := by
  have hnone : (split ' ' data)[2]? = none := List.getElem?_eq_none (le_of_eq h)
  unfold parseData
  simp only [if_pos (le_of_eq h.symm), hnone, Option.bind_eq_bind, Option.bind_none]

theorem parseData_from (third : Text) (hthird : (split ' ' data)[2]? = some third)
    (hfrom : contains third "from".toList = true) :
    parseData L data s = parseReply L (split ' ' data) s := by
  have hlt : 2 < (split ' ' data).length := (List.getElem?_eq_some_iff.mp hthird).1
  unfold parseData
  simp only [if_pos hlt.le, hthird, Option.bind_eq_bind, Option.bind_some, hfrom, if_true]

theorem parseReply_eq_some (pieces : List Text) (t : PingReport Float) :
    parseReply L pieces s = some t ↔
    ∃ time text rtt source name, pieces[7]? = some time ∧ (split '=' time)[1]? = some text ∧
      L.parseFloat text = some rtt ∧ pieces[4]? = some source ∧ pieces[3]? = some name ∧
      t = { s with
        rtt, destinationIP := without ['(', ')', ':'] source, destinationHost := name } := by
  unfold parseReply
  simp only [Option.bind_eq_bind, Option.bind_eq_some_iff, Option.pure_def, Option.some_inj]
  constructor
  · rintro ⟨time, htime, text, htext, rtt, hrtt, source, hsource, name, hname, rfl⟩
    exact ⟨time, text, rtt, source, name, htime, htext, hrtt, hsource, hname, rfl⟩
  · rintro ⟨time, text, rtt, source, name, htime, htext, hrtt, hsource, hname, rfl⟩
    exact ⟨time, htime, text, htext, rtt, hrtt, source, hsource, name, hname, rfl⟩

end Data

end Parsing

/-! The replies. -/

namespace Reply

variable {Float : Type} {L : PingLibrary Float} (r : Reply L)

theorem source_plain : ∀ part ∈ r.source, ' ' ∉ part := by
  unfold source
  cases hhost : r.host with
  | none => simp [r.ip_plain]
  | some host => simp [r.ip_plain, r.host_plain host hhost]

theorem number_plain (number : Text) (h : number ∈ [r.n, r.a, r.b]) (c : Char)
    (hc : c.isDigit = false) : c ∉ number := by
  intro hmem
  rw [(r.numbers number h).2 c hmem] at hc
  cases hc

theorem split_line : split ' ' r.line = r.front ++ ["ms".toList] := by
  refine split_intercalate ' ' r.front "ms".toList (fun part hpart => ?_) (by decide)
  have hn := r.number_plain r.n (by simp) ' ' (by decide)
  have ha := r.number_plain r.a (by simp) ' ' (by decide)
  have hb := r.number_plain r.b (by simp) ' ' (by decide)
  have hc := r.c_plain.2.1
  simp only [front, List.mem_append] at hpart
  rcases hpart with ((hpart | hpart) | hpart) | hpart
  · revert part
    simp [hn]
  · exact r.source_plain part hpart
  · revert part
    simp [ha, hb, hc]
  · revert part
    simp

/-- A line says who has answered and after what time. -/
theorem line_injective (r r' : Reply L) (h : r.line = r'.line) :
    r.host = r'.host ∧ r.ip = r'.ip ∧ r.rtt = r'.rtt := by
  have hfront : r.front = r'.front := by
    have hsplit := r.split_line
    rw [h, r'.split_line] at hsplit
    exact (List.append_singleton_inj.mp hsplit).1.symm
  have hrtt (hc : r.c = r'.c) : r.rtt = r'.rtt := by
    have hparsed := r.parsed
    rw [hc, r'.parsed] at hparsed
    exact (Option.some_inj.mp hparsed).symm
  unfold front source at hfront
  cases hhost : r.host <;> cases hhost' : r'.host <;> rw [hhost, hhost'] at hfront <;>
    simp at hfront
  · exact ⟨rfl, hfront.2.1, hrtt hfront.2.2.2.2⟩
  · exact ⟨congrArg some hfront.2.1, hfront.2.2.1, hrtt hfront.2.2.2.2.2⟩

theorem pieces_none (hhost : r.host = none) :
    split ' ' r.line = [r.n, "bytes".toList, "from".toList, r.ip ++ [':'],
      "icmp_seq=".toList ++ r.a,
      "ttl=".toList ++ r.b, "time=".toList ++ r.c, "ms".toList] := by
  rw [split_line, front, source, hhost]
  rfl

theorem pieces_some (host : Text) (hhost : r.host = some host) :
    split ' ' r.line = [r.n, "bytes".toList, "from".toList, host, '(' :: (r.ip ++ "):".toList),
      "icmp_seq=".toList ++ r.a, "ttl=".toList ++ r.b, "time=".toList ++ r.c, "ms".toList] := by
  rw [split_line, front, source, hhost]
  rfl

/-- Without a host the eighth piece is the unit of the time. -/
theorem parseData_none (hhost : r.host = none) (s : PingReport Float) :
    parseData L r.line s = none := by
  have hunit : (split '=' "ms".toList)[1]? = none := by decide
  rw [parseData_from L "from".toList (by rw [r.pieces_none hhost]; rfl) (by decide),
    r.pieces_none hhost]
  unfold parseReply
  simp only [List.getElem?_cons_succ, List.getElem?_cons_zero, Option.bind_eq_bind,
    Option.bind_some, hunit,
    Option.bind_none]

theorem without_source (ip : Text) (h : '(' ∉ ip ∧ ')' ∉ ip) :
    without ['(', ')', ':'] ('(' :: (ip ++ "):".toList)) = without [':'] ip := by
  have hip : without ['(', ')', ':'] ip = without [':'] ip := by
    refine List.filter_congr fun c hc => decide_eq_decide.mpr ?_
    have hopen : c ≠ '(' := fun heq => h.1 (heq ▸ hc)
    have hclose : c ≠ ')' := fun heq => h.2 (heq ▸ hc)
    simp [hopen, hclose]
  unfold without at hip ⊢
  rw [List.filter_cons_of_neg (by decide), List.filter_append, hip]
  exact List.append_nil _

theorem parseData_some (host : Text) (hhost : r.host = some host) (s : PingReport Float) :
    parseData L r.line s =
    some { s with rtt := r.rtt, destinationIP := without [':'] r.ip, destinationHost := host } := by
  have htime : split '=' ("time=".toList ++ r.c) = ["time".toList, r.c] :=
    split_pair '=' "time".toList r.c (by decide) r.c_plain.2.2 r.c_plain.1
  have hsource := without_source r.ip r.ip_plain.2.2.2
  rw [parseData_from L "from".toList (by rw [r.pieces_some host hhost]; rfl) (by decide),
    r.pieces_some host hhost]
  unfold parseReply
  simp only [List.getElem?_cons_succ, List.getElem?_cons_zero, Option.bind_eq_bind,
    Option.bind_some, htime, r.parsed,
    hsource]
  rfl

end Reply

section Outcome

variable {Float : Type} {L : PingLibrary Float} (h : Header) (timestamp : ℤ) {data : Text}

theorem rowIs_of_passed (hpassed : Passed data) : RowIs L h timestamp data L.minusOne [] [] :=
  (rowIs_iff (parseData_passed L hpassed) L.minusOne [] []).mpr
    ⟨rfl, rfl, rfl, List.not_mem_nil, List.not_mem_nil⟩

/-- A line that is read as a reply gives -1 and no destination only by what it holds. -/
theorem rowIs_iff_blank (hpassed : ¬Passed data) : RowIs L h timestamp data L.minusOne [] [] ↔
    Blank L data := by
  cases hthird : (split ' ' data)[2]? with
  | none =>
    have hpair : (split ' ' data).length = 2 := by
      by_contra hlength
      exact hpassed ⟨hlength, fun third hmem =>
        absurd (hthird.symm.trans hmem) (Option.some_ne_none third).symm⟩
    refine iff_of_false (not_rowIs (parseData_pair L hpair) _ _ _) ?_
    rintro ⟨third, source, time, text, rtt, hsome, -⟩
    rw [hthird] at hsome
    cases hsome
  | some third =>
    have hfrom : contains third "from".toList = true := by
      by_contra hnot
      have hlt := (List.getElem?_eq_some_iff.mp hthird).1
      refine hpassed ⟨hlt.ne', fun third' hmem => ?_⟩
      obtain rfl : third = third' := Option.some_inj.mp (hthird.symm.trans hmem)
      exact eq_false_of_ne_true hnot
    have hblank (source : Text) : without ['(', ')', ':'] source = [] ↔
        ∀ c ∈ source, c ∈ ['(', ')', ':'] := by
      rw [without, List.filter_eq_nil_iff]
      simp only [decide_eq_true_eq, not_not]
    have hdata := parseData_from L (s := headed L h timestamp data) third hthird hfrom
    cases hreply : parseReply L (split ' ' data) (headed L h timestamp data) with
    | none =>
      refine iff_of_false (not_rowIs (hdata.trans hreply) _ _ _) ?_
      rintro ⟨third', source, time, text, rtt, -, -, hname, hsource, -, htime, htext, hrtt, -⟩
      have hsome := (parseReply_eq_some L (s := headed L h timestamp data) _ _).mpr
        ⟨time, text, rtt, source, [], htime, htext, hrtt, hsource, hname, rfl⟩
      rw [hreply] at hsome
      cases hsome
    | some t =>
      have hparse := hdata.trans hreply
      obtain ⟨time, text, rtt, source, name, htime, htext, hrtt, hsource, hname, rfl⟩ :=
        (parseReply_eq_some L _ _).mp hreply
      rw [rowIs_iff hparse]
      constructor
      · rintro ⟨hvalue, hnone, hempty, -⟩
        exact ⟨third, source, time, text, rtt, hthird, hfrom, hempty ▸ hname, hsource,
          (hblank source).mp hnone, htime,
          htext, hrtt, hvalue⟩
      · rintro ⟨_, source', time', text', rtt', -, -, hempty, hsource', hnone, htime', htext',
          hrtt', hvalue⟩
        rw [hname] at hempty
        rw [hsource] at hsource'
        rw [htime] at htime'
        cases hempty
        cases hsource'
        cases htime'
        rw [htext] at htext'
        cases htext'
        rw [hrtt] at hrtt'
        cases hrtt'
        exact ⟨hvalue, (hblank source).mpr hnone, rfl, List.not_mem_nil, List.not_mem_nil⟩

/-- The address of a host loses its colons. -/
theorem rowFits_host_iff (r : Reply L) (host : Text) (hhost : r.host = some host) :
    RowFits L h timestamp r.line ↔ ':' ∉ r.ip := by
  have hparse := r.parseData_some host hhost (headed L h timestamp r.line)
  constructor
  · rintro ⟨hreply, -⟩ hmem
    obtain ⟨destinationHost, hrow⟩ := hreply r rfl
    have hip := ((rowIs_iff hparse _ _ _).mp hrow).2.1
    rw [← hip] at hmem
    exact absurd (List.mem_filter.mp hmem).2 (by decide)
  · intro hcolon
    refine ⟨fun r' hline => ⟨host, ?_⟩, fun hnot => absurd ⟨r, rfl⟩ hnot⟩
    obtain ⟨-, hip, hrtt⟩ := r.line_injective r' hline
    have hsame : without [':'] r.ip = r.ip :=
      without_eq_self _ _ fun c hc => List.mem_singleton.mp hc ▸ hcolon
    rw [← hip, ← hrtt]
    exact (rowIs_iff hparse _ _ _).mpr ⟨rfl, hsame, rfl, r.ip_plain.2.2.1,
      (r.host_plain host hhost).2.2⟩

theorem not_rowFits_numeric (r : Reply L) (hhost : r.host = none) :
    ¬RowFits L h timestamp r.line := by
  rintro ⟨hreply, -⟩
  obtain ⟨destinationHost, hrow⟩ := hreply r rfl
  exact not_rowIs (r.parseData_none hhost _) _ _ _ hrow

theorem rowFits_other_iff (hother : ¬∃ r : Reply L, data = r.line) :
    RowFits L h timestamp data ↔ Passed data ∨ Blank L data := by
  have hrow : RowFits L h timestamp data ↔ RowIs L h timestamp data L.minusOne [] [] :=
    ⟨fun hfits => hfits.other hother,
      fun hrow => ⟨fun r hline => absurd ⟨r, hline⟩ hother, fun _ => hrow⟩⟩
  rw [hrow]
  by_cases hpassed : Passed data
  · exact iff_of_true (rowIs_of_passed h timestamp hpassed) (.inl hpassed)
  · rw [rowIs_iff_blank h timestamp hpassed, or_iff_right hpassed]

/-- A line fits exactly if it is a reply of a host whose address has no colons, or no reply at
all and not read as one (or read as one that reports nothing). -/
theorem rowFits_iff : RowFits L h timestamp data ↔
    (∃ r : Reply L, data = r.line ∧ r.host.isSome ∧ ':' ∉ r.ip) ∨
      (¬∃ r : Reply L, data = r.line) ∧ (Passed data ∨ Blank L data) := by
  by_cases hreply : ∃ r : Reply L, data = r.line
  · rw [or_iff_left fun hnot => hnot.1 hreply]
    obtain ⟨r, rfl⟩ := hreply
    cases hhost : r.host with
    | none =>
      refine iff_of_false (not_rowFits_numeric h timestamp r hhost) ?_
      rintro ⟨r', hline, hsome, -⟩
      rw [← (r.line_injective r' hline).1, hhost] at hsome
      cases hsome
    | some host =>
      rw [rowFits_host_iff h timestamp r host hhost]
      constructor
      · intro hcolon
        exact ⟨r, rfl, hhost ▸ rfl, hcolon⟩
      · rintro ⟨r', hline, -, hcolon⟩
        rw [(r.line_injective r' hline).2.1]
        exact hcolon
  · have hhosted : ¬∃ r : Reply L, data = r.line ∧ r.host.isSome ∧ ':' ∉ r.ip :=
      fun ⟨r, hline, _⟩ => hreply ⟨r, hline⟩
    rw [rowFits_other_iff h timestamp hreply, or_iff_right hhosted, and_iff_right hreply]

end Outcome

/-- Times in whole milliseconds, and a number for the date. -/
def wholeTimes : PingLibrary ℤ where
  sampleDateFormat timestamp := (valueOf timestamp).toList
  parseFloat := parseDecimal
  valueOfFloat x := (valueOf x).toList ++ ".0".toList
  minusOne := -1
  digit := latinDigit
  sampleDateFormat_plain timestamp := not_mem_valueOf timestamp ',' (by decide) (by decide)
  valueOfFloat_plain x h :=
    (List.mem_append.mp h).elim (not_mem_valueOf x ',' (by decide) (by decide)) (by decide)
  digit_of_isDigit := latinDigit_of_isDigit

def pingHeader : Header where
  host := "mit.edu".toList
  ip := "23.1.2.3".toList
  size := 56
  total := "84".toList
  rest := " bytes of data.".toList
  host_plain := by decide
  ip_plain := by decide
  size_lt := by decide
  total_plain := by decide
  rest_begins := .inr ⟨"bytes of data.".toList, rfl⟩

def numericReply : Reply wholeTimes where
  n := "64".toList
  host := none
  ip := "23.1.2.3".toList
  a := "1".toList
  b := "56".toList
  c := "12".toList
  rtt := 12
  numbers := by
    have hdigits : ∀ number ∈ ["64".toList, "1".toList, "56".toList], number ≠ [] ∧
        number.all Char.isDigit = true := by
      decide
    intro number hmem
    exact ⟨(hdigits number hmem).1, List.all_eq_true.mp (hdigits number hmem).2⟩
  host_plain name h := absurd h (Option.not_mem_none name)
  ip_plain := by decide
  c_plain := by decide
  parsed := by decide

def colonReply : Reply wholeTimes :=
  { numericReply with
    host := some "mit.edu".toList
    ip := "fe80::1".toList
    host_plain := by decide
    ip_plain := by decide }

/-- A reply without a host and a line of two pieces give no row, and an address loses its colons. -/
theorem ping_lines_not_fit :
    ¬RowFits wholeTimes pingHeader 0 "64 bytes from 23.1.2.3: icmp_seq=1 ttl=56 time=12 ms".toList ∧
    ¬RowFits wholeTimes pingHeader 0 "no answer".toList ∧
    ¬RowFits wholeTimes pingHeader 0
      "64 bytes from mit.edu (fe80::1): icmp_seq=1 ttl=56 time=12 ms".toList := by
  refine ⟨not_rowFits_numeric pingHeader 0 numericReply rfl, ?_, ?_⟩
  · rintro ⟨-, hother⟩
    refine not_rowIs (parseData_pair wholeTimes (by decide)) _ _ _ (hother ?_)
    rintro ⟨r, hline⟩
    have hlength : (split ' ' "no answer".toList).length = 2 := by decide
    rw [hline, r.split_line, Reply.front] at hlength
    simp only [List.length_append, List.length_cons, List.length_nil] at hlength
    omega
  · exact fun hfits => (rowFits_host_iff pingHeader 0 colonReply _ rfl).mp hfits (by decide)

end PingReport

end MmWaveTracker
