import MmWaveTracker.ByteOrder

/-! The UDP probe packet of `udprecvlib/packet.cpp`: six 64-bit header fields in
network byte order followed by the payload. The byte order of the host is a
parameter; the wire format does not depend on it. -/
namespace MmWaveTracker

abbrev Bytes := List UInt8

def sizeofUint64 : ℕ := 8

def htobe64 (host : ByteOrder) (n : UInt64) : UInt64 :=
  UInt64.ofNat (swapToBig host sizeofUint64 n.toNat)

def be64toh (host : ByteOrder) (n : UInt64) : UInt64 :=
  UInt64.ofNat (swapToBig host sizeofUint64 n.toNat)

/-- `*(reinterpret_cast<const uint64_t*>(str.data()) + n)`. -/
def readUint64 (host : ByteOrder) (n : ℕ) (str : Bytes) : UInt64 :=
  UInt64.ofNat (loadWord host ((str.drop (n*sizeofUint64)).take sizeofUint64))

def packetTooSmall : String := "packet too small to contain header"

def getHeaderField (host : ByteOrder) (n : ℕ) (str : Bytes) : Except String UInt64 :=
  if str.length < (n+1)*sizeofUint64 then throw packetTooSmall
  else return be64toh host (readUint64 host n str)

def putHeaderFiled (host : ByteOrder) (n : UInt64) : Bytes :=
  storeWord host sizeofUint64 (htobe64 host n).toNat

structure Header where
  sequence_number : UInt64
  send_timestamp : UInt64
  ack_sequence_number : UInt64
  ack_send_timestamp : UInt64
  ack_recv_timestamp : UInt64
  ack_payload_length : UInt64
  deriving DecidableEq, Repr

def sizeofHeader : ℕ := 6*sizeofUint64

/-- `Packet::Header::Header(const std::string &)`: the members are initialised
in declaration order, so the first short field throws. -/
def Header.parse (host : ByteOrder) (str : Bytes) : Except String Header := do
  let sequence_number ← getHeaderField host 0 str
  let send_timestamp ← getHeaderField host 1 str
  let ack_sequence_number ← getHeaderField host 2 str
  let ack_send_timestamp ← getHeaderField host 3 str
  let ack_recv_timestamp ← getHeaderField host 4 str
  let ack_payload_length ← getHeaderField host 5 str
  return { sequence_number, send_timestamp, ack_sequence_number, ack_send_timestamp,
           ack_recv_timestamp, ack_payload_length }

def Header.toString (host : ByteOrder) (h : Header) : Bytes :=
  putHeaderFiled host h.sequence_number ++ putHeaderFiled host h.send_timestamp ++
    putHeaderFiled host h.ack_sequence_number ++ putHeaderFiled host h.ack_send_timestamp ++
    putHeaderFiled host h.ack_recv_timestamp ++ putHeaderFiled host h.ack_payload_length

structure Packet where
  header : Header
  payload : Bytes
  deriving DecidableEq, Repr

def Packet.parse (host : ByteOrder) (str : Bytes) : Except String Packet := do
  let header ← Header.parse host str
  return { header, payload := str.drop sizeofHeader }

def Packet.toString (host : ByteOrder) (p : Packet) : Bytes :=
  p.header.toString host ++ p.payload

@[simp] theorem length_putHeaderFiled (host : ByteOrder) (n : UInt64) :
    (putHeaderFiled host n).length = sizeofUint64 := length_storeWord _ _ _

theorem header_word_roundtrip (m : ℕ) (hm : m < 256^sizeofUint64) :
    (UInt64.ofNat m).toNat = m := by
  rw [UInt64.toNat_ofNat']
  exact Nat.mod_eq_of_lt (by simpa [sizeofUint64] using hm)

/-- The eight bytes a field occupies on the wire are its big-endian image. -/
theorem putHeaderFiled_eq_big (host : ByteOrder) (n : UInt64) :
    putHeaderFiled host n = storeWord .big sizeofUint64 n.toNat := by
  have hlt : swapToBig host sizeofUint64 n.toNat < 256^sizeofUint64 := by
    cases host
    · have h := leNat_lt (leBytes sizeofUint64 n.toNat).reverse
      simpa only [swapToBig, List.length_reverse, length_leBytes] using h
    · simpa [swapToBig, sizeofUint64] using n.toNat_lt
  rw [putHeaderFiled, htobe64, header_word_roundtrip _ hlt, storeWord_swapToBig]

theorem be64toh_load (host : ByteOrder) (bs : Bytes) (hb : bs.length = sizeofUint64) :
    be64toh host (UInt64.ofNat (loadWord host bs)) = UInt64.ofNat (loadWord .big bs) := by
  have hlt : loadWord host bs < 256^sizeofUint64 := hb ▸ loadWord_lt host bs
  rw [be64toh, header_word_roundtrip _ hlt, ← hb, swapToBig_loadWord]

theorem getHeaderField_short (host : ByteOrder) (n : ℕ) (str : Bytes)
    (h : str.length < (n+1)*sizeofUint64) :
    getHeaderField host n str = .error packetTooSmall := by
  simp [getHeaderField, h, throw, throwThe, MonadExceptOf.throw]

/-- A field that is there is read as the big-endian number its eight bytes denote. -/
theorem getHeaderField_ok (host : ByteOrder) (pre field post : Bytes) (n : ℕ)
    (hpre : pre.length = n*sizeofUint64) (hf : field.length = sizeofUint64) :
    getHeaderField host n (pre ++ field ++ post) = .ok (UInt64.ofNat (loadWord .big field)) := by
  have hlen : ¬(pre ++ field ++ post).length < (n+1)*sizeofUint64 := by
    simp only [List.length_append, hpre, hf, Nat.add_mul]
    omega
  have hread : ((pre ++ field ++ post).drop (n*sizeofUint64)).take sizeofUint64 = field := by
    rw [← hpre, List.append_assoc, List.drop_left, ← hf, List.take_left]
  rw [getHeaderField, if_neg hlen, readUint64, hread, be64toh_load host field hf]
  rfl

theorem getHeaderField_put (host : ByteOrder) (pre post : Bytes) (n : ℕ) (v : UInt64)
    (hpre : pre.length = n*sizeofUint64) :
    getHeaderField host n (pre ++ putHeaderFiled host v ++ post) = .ok v := by
  rw [getHeaderField_ok host pre _ post n hpre (length_putHeaderFiled host v),
    putHeaderFiled_eq_big, loadWord_storeWord]
  have hv : v.toNat%256^sizeofUint64 = v.toNat :=
    Nat.mod_eq_of_lt (by simpa [sizeofUint64] using v.toNat_lt)
  rw [hv, UInt64.ofNat_toNat]

/-- Every eight bytes are the wire image of the number they denote. -/
theorem putHeaderFiled_load (host : ByteOrder) (field : Bytes) (hf : field.length = sizeofUint64) :
    putHeaderFiled host (UInt64.ofNat (loadWord .big field)) = field := by
  have hlt : loadWord .big field < 256^sizeofUint64 := hf ▸ loadWord_lt .big field
  rw [putHeaderFiled_eq_big, header_word_roundtrip _ hlt, ← hf, storeWord_loadWord]

@[simp] theorem length_header_toString (host : ByteOrder) (h : Header) :
    (h.toString host).length = sizeofHeader := by
  simp only [Header.toString, List.length_append, length_putHeaderFiled, sizeofHeader]
  omega

theorem header_parse_toString (host : ByteOrder) (h : Header) (payload : Bytes) :
    Header.parse host (h.toString host ++ payload) = .ok h := by
  let w (v : UInt64) := putHeaderFiled host v
  have hw (v : UInt64) : (w v).length = sizeofUint64 := length_putHeaderFiled host v
  have field (n : ℕ) (pre : Bytes) (v : UInt64) (post : Bytes)
      (hpre : pre.length = n*sizeofUint64)
      (hs : h.toString host ++ payload = pre ++ w v ++ post) :
      getHeaderField host n (h.toString host ++ payload) = .ok v := by
    rw [hs]
    exact getHeaderField_put host pre post n v hpre
  have h0 := field 0 [] h.sequence_number
    (w h.send_timestamp ++ w h.ack_sequence_number ++ w h.ack_send_timestamp ++
      w h.ack_recv_timestamp ++ w h.ack_payload_length ++ payload)
    (by simp) (by simp [Header.toString, w])
  have h1 := field 1 (w h.sequence_number) h.send_timestamp
    (w h.ack_sequence_number ++ w h.ack_send_timestamp ++ w h.ack_recv_timestamp ++
      w h.ack_payload_length ++ payload)
    (by simp only [hw]; omega) (by simp [Header.toString, w])
  have h2 := field 2 (w h.sequence_number ++ w h.send_timestamp) h.ack_sequence_number
    (w h.ack_send_timestamp ++ w h.ack_recv_timestamp ++ w h.ack_payload_length ++ payload)
    (by simp only [List.length_append, hw]; omega) (by simp [Header.toString, w])
  have h3 := field 3 (w h.sequence_number ++ w h.send_timestamp ++ w h.ack_sequence_number)
    h.ack_send_timestamp (w h.ack_recv_timestamp ++ w h.ack_payload_length ++ payload)
    (by simp only [List.length_append, hw]; omega) (by simp [Header.toString, w])
  have h4 := field 4 (w h.sequence_number ++ w h.send_timestamp ++ w h.ack_sequence_number ++
      w h.ack_send_timestamp) h.ack_recv_timestamp (w h.ack_payload_length ++ payload)
    (by simp only [List.length_append, hw]; omega) (by simp [Header.toString, w])
  have h5 := field 5 (w h.sequence_number ++ w h.send_timestamp ++ w h.ack_sequence_number ++
      w h.ack_send_timestamp ++ w h.ack_recv_timestamp) h.ack_payload_length payload
    (by simp only [List.length_append, hw]; omega) (by simp [Header.toString, w])
  simp only [Header.parse, h0, h1, h2, h3, h4, h5]
  rfl

theorem packet_parse_toString (host : ByteOrder) (p : Packet) :
    Packet.parse host (p.toString host) = .ok p := by
  have hd : (p.toString host).drop sizeofHeader = p.payload := by
    rw [Packet.toString, ← length_header_toString host p.header, List.drop_left]
  have hh : Header.parse host (p.toString host) = .ok p.header :=
    header_parse_toString host p.header p.payload
  simp only [Packet.parse, hh, hd]
  rfl

theorem packet_parse_short (host : ByteOrder) (str : Bytes) (h : str.length < sizeofHeader) :
    Packet.parse host str = .error packetTooSmall := by
  have hlast := getHeaderField_short host 5 str (by simpa [sizeofHeader] using h)
  have hcase (n : ℕ) : getHeaderField host n str = .error packetTooSmall ∨
      ∃ v, getHeaderField host n str = .ok v := by
    by_cases hn : str.length < (n+1)*sizeofUint64
    · exact Or.inl (getHeaderField_short host n str hn)
    · exact Or.inr ⟨be64toh host (readUint64 host n str), by rw [getHeaderField, if_neg hn]; rfl⟩
  have hparse : Header.parse host str = .error packetTooSmall := by
    unfold Header.parse
    rcases hcase 0 with h0 | ⟨v0, h0⟩ <;> rw [h0] <;> try rfl
    rcases hcase 1 with h1 | ⟨v1, h1⟩ <;> rw [h1] <;> try rfl
    rcases hcase 2 with h2 | ⟨v2, h2⟩ <;> rw [h2] <;> try rfl
    rcases hcase 3 with h3 | ⟨v3, h3⟩ <;> rw [h3] <;> try rfl
    rcases hcase 4 with h4 | ⟨v4, h4⟩ <;> rw [h4] <;> try rfl
    rw [hlast]
    rfl
  rw [Packet.parse, hparse]
  rfl

/-- A datagram of at least the header's size is the image of some packet. -/
theorem exists_packet_toString (host : ByteOrder) (str : Bytes) (h : sizeofHeader ≤ str.length) :
    ∃ p : Packet, p.toString host = str := by
  let field (n : ℕ) := (str.drop (n*sizeofUint64)).take sizeofUint64
  let value (n : ℕ) := UInt64.ofNat (loadWord .big (field n))
  have hput (n : ℕ) (hn : n < 6) : putHeaderFiled host (value n) = field n := by
    apply putHeaderFiled_load
    have hlen : n*sizeofUint64 + sizeofUint64 ≤ str.length := by
      simp only [sizeofHeader, sizeofUint64] at h ⊢
      omega
    simp only [field, List.length_take, List.length_drop]
    omega
  have hsplit (n : ℕ) : str.drop (n*sizeofUint64) = field n ++ str.drop ((n+1)*sizeofUint64) := by
    rw [show (n+1)*sizeofUint64 = n*sizeofUint64 + sizeofUint64 by ring, ← List.drop_drop]
    exact (List.take_append_drop sizeofUint64 (str.drop (n*sizeofUint64))).symm
  refine ⟨⟨⟨value 0, value 1, value 2, value 3, value 4, value 5⟩, str.drop sizeofHeader⟩, ?_⟩
  simp only [Packet.toString, Header.toString, hput 0 (by decide), hput 1 (by decide),
    hput 2 (by decide), hput 3 (by decide), hput 4 (by decide), hput 5 (by decide),
    sizeofHeader, List.append_assoc]
  rw [← hsplit 5, ← hsplit 4, ← hsplit 3, ← hsplit 2, ← hsplit 1, ← hsplit 0]
  simp

/-- What a datagram is read as is written as the datagram again. -/
theorem packet_toString_parse (host : ByteOrder) (str : Bytes) (p : Packet)
    (h : Packet.parse host str = .ok p) : sizeofHeader ≤ str.length ∧ p.toString host = str := by
  by_cases hlen : str.length < sizeofHeader
  · rw [packet_parse_short host str hlen] at h
    cases h
  · obtain ⟨q, rfl⟩ := exists_packet_toString host str (not_lt.mp hlen)
    rw [packet_parse_toString] at h
    cases h
    exact ⟨not_lt.mp hlen, rfl⟩

/-- Both byte orders write the same bytes. -/
theorem packet_toString_host (host host' : ByteOrder) (p : Packet) :
    p.toString host = p.toString host' := by
  simp only [Packet.toString, Header.toString, putHeaderFiled_eq_big]

theorem packet_parse_host (host host' : ByteOrder) (str : Bytes) (p : Packet)
    (h : Packet.parse host str = .ok p) : Packet.parse host' str = .ok p := by
  rw [← (packet_toString_parse host str p h).2, packet_toString_host host host',
    packet_parse_toString]

/-- The wire codec loses nothing in either direction: every packet is read back
from its image, and a byte string is rejected exactly when it is shorter than
the 48-byte header and is otherwise the image of the packet read from it. -/
theorem packet_codec (host : ByteOrder) :
    (∀ p : Packet, Packet.parse host (p.toString host) = .ok p) ∧
    ∀ str : Bytes, match Packet.parse host str with
      | .error e => str.length < 48 ∧ e = "packet too small to contain header"
      | .ok p => 48 ≤ str.length ∧ p.toString host = str := by
  refine ⟨packet_parse_toString host, ?_⟩
  intro str
  by_cases hlen : str.length < sizeofHeader
  · rw [packet_parse_short host str hlen]
    exact ⟨hlen, rfl⟩
  · obtain ⟨p, rfl⟩ := exists_packet_toString host str (not_lt.mp hlen)
    rw [packet_parse_toString]
    exact ⟨not_lt.mp hlen, rfl⟩

end MmWaveTracker
