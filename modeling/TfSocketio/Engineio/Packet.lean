/-
# Engineio.Packet — the engine.io packet and payload codecs.

A packet is one id byte followed by its data; a `MessageBinary` packet is the letter `b` followed by
the base64 text of its data.  A payload is a chain of packets joined by the separator `0x1e`.

The `base64` crate is not part of the repository.  `Base64Engine` is the interface the codec relies
on: `STANDARD` decoding inverts encoding, accepts nothing but canonical encodings, and its alphabet
leaves the payload separator out.  `Base64Engine.standard` instantiates it at RFC 4648.
-/
import TfSocketio.Lib.Split
import TfSocketio.Lib.Base64

namespace TfSocketio.Engineio

/-- A byte buffer (`bytes::Bytes`). -/
abbrev Bytes := List UInt8

/-- The errors of base64 decoding. -/
inductive DecodeError where
  | invalidByte (offset : Nat) (byte : UInt8)
  | invalidLength (length : Nat)
  | invalidLastSymbol (offset : Nat) (byte : UInt8)
  | invalidPadding
  deriving DecidableEq, Repr

/-- The engine.io errors the modelled functions return.  Errors that wrap a foreign error value
carry no payload here: nothing in the code looks inside. -/
inductive Error where
  | invalidPacketId (byte : UInt8)
  | incompletePacket
  | invalidPacket
  | invalidBase64 (error : DecodeError)
  | incompleteResponseFromReqwest
  | websocketError
  | incompleteHttp (status : Nat)
  | httpErrorWithBody (status : Nat) (body : String)
  | websocketClosed (code : Nat) (reason : String)
  | illegalActionBeforeOpen
  | incompleteIo
  | pingTimeout
  deriving DecidableEq, Repr

/-- What the codec relies on of `base64::engine::general_purpose::STANDARD`. -/
structure Base64Engine where
  encode : Bytes → Bytes
  decode : Bytes → Except DecodeError Bytes
  decode_encode : ∀ data, decode (encode data) = .ok data
  /-- Padding is required and trailing bits are rejected, so only encodings are accepted. -/
  encode_of_decode : ∀ {text data}, decode text = .ok data → encode data = text
  separator_notMem : ∀ data, (0x1e : UInt8) ∉ encode data

/-- The strict RFC 4648 codec as a `Base64Engine`. -/
def Base64Engine.standard : Base64Engine where
  encode := Base64.encode
  decode text :=
    match Base64.decode text with
    | some data => .ok data
    | none => .error (.invalidLength text.length)
  decode_encode data := by rw [Base64.decode_encode]
  encode_of_decode {text data} h := by
    split at h
    · rename_i d hd
      obtain rfl := Except.ok.inj h
      exact Base64.encode_of_decode hd
    · simp at h
  separator_notMem := Base64.notMem_encode (by decide) (by decide)

/-! ## Packet ids -/

/-- The `engine.io` packet types. -/
inductive PacketId where
  | «open»
  | close
  | ping
  | pong
  | message
  | messageBinary
  | upgrade
  | noop
  deriving DecidableEq, Repr

/-- The cast of a packet id to a byte (`From<PacketId> for u8`). -/
def PacketId.toU8 : PacketId → UInt8
  | .«open» => 0
  | .close => 1
  | .ping => 2
  | .pong => 3
  | .message => 4
  | .messageBinary => 4
  | .upgrade => 5
  | .noop => 6

/-- The byte that represents the id on the wire. -/
def PacketId.toStringByte : PacketId → UInt8
  | .messageBinary => 98
  | id => id.toU8 + 48

/-- Converts a byte, raw or as an ASCII digit, into the corresponding packet id. -/
def PacketId.tryFrom (b : UInt8) : Except Error PacketId :=
  if b = 0 ∨ b = 48 then .ok .«open»
  else if b = 1 ∨ b = 49 then .ok .close
  else if b = 2 ∨ b = 50 then .ok .ping
  else if b = 3 ∨ b = 51 then .ok .pong
  else if b = 4 ∨ b = 52 then .ok .message
  else if b = 5 ∨ b = 53 then .ok .upgrade
  else if b = 6 ∨ b = 54 then .ok .noop
  else .error (.invalidPacketId b)

/-! ## Packets -/

/-- A packet sent via the `engine.io` protocol. -/
structure Packet where
  packetId : PacketId
  data : Bytes
  deriving DecidableEq, Repr

/-- The letter that opens a base64 packet. -/
def base64Prefix : UInt8 := 98

/-- Decodes a single packet from a byte buffer (`TryFrom<Bytes> for Packet`). -/
def Packet.tryFrom (b64 : Base64Engine) : Bytes → Except Error Packet
  | [] => .error .incompletePacket
  | first :: rest =>
      if first = base64Prefix then
        match b64.decode rest with
        | .ok data => .ok ⟨.messageBinary, data⟩
        | .error e => .error (.invalidBase64 e)
      else
        match PacketId.tryFrom first with
        | .error e => .error e
        | .ok packetId =>
            -- a lone message id: `bytes.len() == 1 && packet_id == PacketId::Message`
            if rest = [] ∧ packetId = .message then .error .incompletePacket
            else .ok ⟨packetId, rest⟩

/-- Encodes a packet into a byte buffer (`From<Packet> for Bytes`). -/
def Packet.toBytes (b64 : Base64Engine) (packet : Packet) : Bytes :=
  if packet.packetId = .messageBinary then
    packet.packetId.toStringByte :: b64.encode packet.data
  else
    packet.packetId.toStringByte :: packet.data

@[simp] theorem Packet.tryFrom_nil (b64 : Base64Engine) :
    Packet.tryFrom b64 [] = .error .incompletePacket := rfl

@[simp] theorem Packet.tryFrom_base64 (b64 : Base64Engine) (data : Bytes) :
    Packet.tryFrom b64 (base64Prefix :: b64.encode data) = .ok ⟨.messageBinary, data⟩ := by
  simp [Packet.tryFrom, b64.decode_encode]

/-- Decoding with a raw id byte, away from the base64 letter: the data is the rest. -/
theorem Packet.data_of_tryFrom {b64 : Base64Engine} {first : UInt8} {rest : Bytes} {p : Packet}
    (hfirst : first ≠ base64Prefix) (h : Packet.tryFrom b64 (first :: rest) = .ok p) :
    p.data = rest := by
  simp only [Packet.tryFrom, hfirst, if_false] at h
  split at h
  · simp at h
  · split at h
    · simp at h
    · obtain rfl := Except.ok.inj h
      rfl

/-- Two texts that open with the same byte and decode to the same packet are the same text.  (The
first byte matters: `0x00` and `'0'` name the same packet id.) -/
theorem Packet.tryFrom_inj {b64 : Base64Engine} {first : UInt8} {rest rest' : Bytes} {p : Packet}
    (h : Packet.tryFrom b64 (first :: rest) = .ok p)
    (h' : Packet.tryFrom b64 (first :: rest') = .ok p) : rest = rest' := by
  by_cases hfirst : first = base64Prefix
  · simp only [Packet.tryFrom, hfirst, if_true] at h h'
    split at h
    · rename_i data hd
      split at h'
      · rename_i data' hd'
        obtain rfl := Except.ok.inj h
        obtain rfl : data' = data := by simpa using h'
        rw [← b64.encode_of_decode hd, ← b64.encode_of_decode hd']
      · simp at h'
    · simp at h
  · rw [← Packet.data_of_tryFrom hfirst h, Packet.data_of_tryFrom hfirst h']

/-! ## Payloads -/

/-- The byte between the packets of a payload (`Payload::SEPARATOR`). -/
def separator : UInt8 := 0x1e

/-- A chain of packets. -/
abbrev Payload := List Packet

/-- Decodes a payload: every cell between separators is one packet, and the first cell that is not
rejects the whole payload. -/
def Payload.tryFrom (b64 : Base64Engine) (payload : Bytes) : Except Error Payload :=
  (payload.splitOn separator).mapM (Packet.tryFrom b64)

/-- Encodes a payload: each packet followed by a separator, the last separator removed. -/
def Payload.toBytes (b64 : Base64Engine) (packets : Payload) : Bytes :=
  (packets.flatMap fun packet => packet.toBytes b64 ++ [separator]).dropLast

section Collect

variable {α β ε : Type} {f : α → Except ε β}

theorem mapM_cons_ok {x : α} {xs : List α} {y : β} {ys : List β}
    (hx : f x = .ok y) (hxs : xs.mapM f = .ok ys) : (x :: xs).mapM f = .ok (y :: ys) := by
  simp [List.mapM_cons, hx, hxs, bind, Except.bind, pure, Except.pure]

theorem mapM_cons_error {x : α} {xs : List α} {e : ε} (hx : f x = .error e) :
    (x :: xs).mapM f = .error e := by
  simp [List.mapM_cons, hx, bind, Except.bind]

theorem mapM_cons_eq_ok {x : α} {xs : List α} {zs : List β} (h : (x :: xs).mapM f = .ok zs) :
    ∃ y ys, zs = y :: ys ∧ f x = .ok y ∧ xs.mapM f = .ok ys := by
  cases hx : f x with
  | error e => rw [mapM_cons_error hx] at h; simp at h
  | ok y =>
      cases hxs : xs.mapM f with
      | error e => simp [List.mapM_cons, hx, hxs, bind, Except.bind] at h
      | ok ys =>
          rw [mapM_cons_ok hx hxs] at h
          exact ⟨y, ys, (Except.ok.inj h).symm, rfl, rfl⟩

theorem mapM_append_eq_ok {xs xs' : List α} :
    ∀ {zs : List β}, (xs ++ xs').mapM f = .ok zs →
      ∃ ys ys', zs = ys ++ ys' ∧ xs.mapM f = .ok ys ∧ xs'.mapM f = .ok ys' := by
  induction xs with
  | nil => intro zs h; exact ⟨[], zs, rfl, rfl, h⟩
  | cons x xs ih =>
      intro zs h
      obtain ⟨y, ys, rfl, hx, hxs⟩ := mapM_cons_eq_ok h
      obtain ⟨ys₁, ys₂, rfl, h₁, h₂⟩ := ih hxs
      exact ⟨y :: ys₁, ys₂, rfl, mapM_cons_ok hx h₁, h₂⟩

end Collect

/-- A payload without a separator is one packet. -/
theorem Payload.tryFrom_single {b64 : Base64Engine} {cell : Bytes} {p : Packet}
    (hsep : separator ∉ cell) (h : Packet.tryFrom b64 cell = .ok p) :
    Payload.tryFrom b64 cell = .ok [p] := by
  rw [Payload.tryFrom, Split.splitOn_of_notMem hsep]
  exact mapM_cons_ok h rfl

/-- A cell, a separator and a payload: the cell's packet comes first. -/
theorem Payload.tryFrom_cons {b64 : Base64Engine} {cell rest : Bytes} {p : Packet} {ps : Payload}
    (hsep : separator ∉ cell) (h : Packet.tryFrom b64 cell = .ok p)
    (hrest : Payload.tryFrom b64 rest = .ok ps) :
    Payload.tryFrom b64 (cell ++ separator :: rest) = .ok (p :: ps) := by
  rw [Payload.tryFrom, List.splitOn_append_cons_self_of_not_mem hsep]
  exact mapM_cons_ok h hrest

/-- A payload that opens with a separator is rejected: its first cell is empty. -/
theorem Payload.tryFrom_separator_cons (b64 : Base64Engine) (rest : Bytes) :
    Payload.tryFrom b64 (separator :: rest) = .error .incompletePacket := by
  rw [Payload.tryFrom, Split.splitOn_sep_cons]
  exact mapM_cons_error rfl

/-- An accepted payload holds at least one packet. -/
theorem Payload.ne_nil_of_tryFrom {b64 : Base64Engine} {payload : Bytes} {ps : Payload}
    (h : Payload.tryFrom b64 payload = .ok ps) : ps ≠ [] := by
  obtain ⟨cell, cells, hcells⟩ :=
    List.exists_cons_of_ne_nil (List.splitOn_ne_nil separator payload)
  rw [Payload.tryFrom, hcells] at h
  obtain ⟨p, rest, rfl, -⟩ := mapM_cons_eq_ok h
  exact List.cons_ne_nil p rest

/-! ## Round trips -/

/-- Encodes a payload with the buffer arithmetic of the code: `none` is the underflow of
`buf.len() - 1` on an empty buffer (`TryFrom<Payload> for Bytes`). -/
def Payload.encode (b64 : Base64Engine) (packets : Payload) : Option Bytes :=
  let buf := packets.flatMap fun packet => packet.toBytes b64 ++ [separator]
  if buf.length < 1 then none else some (buf.take (buf.length - 1))

/-- The packets the text form of a payload can carry: raw data holds no separator, and a `Message`
packet has data. -/
def Packet.Encodable (packet : Packet) : Prop :=
  (packet.packetId ≠ .messageBinary → separator ∉ packet.data) ∧
    (packet.packetId = .message → packet.data ≠ [])

instance (packet : Packet) : Decidable packet.Encodable :=
  inferInstanceAs (Decidable (_ ∧ _))

section RoundTrip

variable {b64 : Base64Engine}

/-- A payload with a packet in it fills the buffer, so the last separator is there to remove. -/
theorem Payload.encode_eq {ps : Payload} (hne : ps ≠ []) :
    Payload.encode b64 ps = some (Payload.toBytes b64 ps) := by
  obtain ⟨p, rest, rfl⟩ := List.exists_cons_of_ne_nil hne
  have hfull : ¬((p :: rest).flatMap fun packet =>
      packet.toBytes b64 ++ [separator]).length < 1 := by simp
  rw [Payload.encode, Payload.toBytes, if_neg hfull, List.dropLast_eq_take]

/-- The payload of one packet is the packet. -/
@[simp] theorem Payload.toBytes_single (p : Packet) :
    Payload.toBytes b64 [p] = p.toBytes b64 := by
  simp [Payload.toBytes]

/-- A payload puts one separator behind its first packet. -/
theorem Payload.toBytes_cons (p : Packet) {ps : Payload} (hne : ps ≠ []) :
    Payload.toBytes b64 (p :: ps) = p.toBytes b64 ++ separator :: Payload.toBytes b64 ps := by
  have hbuf : (ps.flatMap fun packet => packet.toBytes b64 ++ [separator]) ≠ [] := by
    obtain ⟨q, rest, rfl⟩ := List.exists_cons_of_ne_nil hne
    simp
  rw [Payload.toBytes, List.flatMap_cons, List.dropLast_append_of_ne_nil hbuf, List.append_assoc]
  rfl

/-- Every id but the binary one has its own ASCII digit, none of which opens a base64 packet. -/
theorem PacketId.tryFrom_toStringByte {id : PacketId} (h : id ≠ .messageBinary) :
    id.toStringByte ≠ base64Prefix ∧ id.toStringByte ≠ separator ∧
      PacketId.tryFrom id.toStringByte = .ok id := by
  cases id <;> first | exact absurd rfl h | decide

/-- An encodable packet decodes to itself. -/
theorem Packet.tryFrom_toBytes {p : Packet} (hp : p.Encodable) :
    Packet.tryFrom b64 (p.toBytes b64) = .ok p := by
  obtain ⟨id, data⟩ := p
  by_cases hid : id = .messageBinary
  · subst hid
    exact Packet.tryFrom_base64 b64 data
  · obtain ⟨hmarker, -, hbyte⟩ := PacketId.tryFrom_toStringByte hid
    have hfull : ¬(data = [] ∧ id = .message) := fun h => hp.2 h.2 h.1
    simp [Packet.toBytes, Packet.tryFrom, hid, hmarker, hbyte, hfull]

/-- The encoding of an encodable packet is one cell. -/
theorem Packet.separator_notMem_toBytes {p : Packet} (hp : p.Encodable) :
    separator ∉ p.toBytes b64 := by
  obtain ⟨id, data⟩ := p
  by_cases hid : id = .messageBinary
  · subst hid
    have hletter : separator ≠ PacketId.messageBinary.toStringByte := by decide
    have halphabet : separator ∉ b64.encode data := b64.separator_notMem data
    simp [Packet.toBytes, hletter, halphabet]
  · have hbyte := (PacketId.tryFrom_toStringByte hid).2.1
    have hdata : separator ∉ data := hp.1 hid
    simp [Packet.toBytes, hid, Ne.symm hbyte, hdata]

/-- A cell that is accepted holds an encodable packet, whatever form its id byte has. -/
theorem Packet.encodable_of_tryFrom {cell : Bytes} {p : Packet} (hsep : separator ∉ cell)
    (h : Packet.tryFrom b64 cell = .ok p) : p.Encodable := by
  cases cell with
  | nil => simp at h
  | cons first rest =>
      simp only [Packet.tryFrom] at h
      split at h
      · -- base64: the data is arbitrary
        split at h
        · obtain rfl := Except.ok.inj h
          exact ⟨fun hid => absurd rfl hid, fun hid => by simp at hid⟩
        · simp at h
      · split at h
        · simp at h
        · split at h
          · simp at h
          · rename_i hfull
            obtain rfl := Except.ok.inj h
            have hrest : separator ∉ rest := fun hmem => hsep (List.mem_cons_of_mem _ hmem)
            exact ⟨fun _ => hrest, fun hid hnil => hfull ⟨hnil, hid⟩⟩

/-- Encodable packets come back from their payload. -/
theorem Payload.tryFrom_toBytes {ps : Payload} (hne : ps ≠ []) (hps : ∀ p ∈ ps, p.Encodable) :
    Payload.tryFrom b64 (Payload.toBytes b64 ps) = .ok ps := by
  induction ps with
  | nil => exact absurd rfl hne
  | cons p ps ih =>
      have hp : p.Encodable := hps p List.mem_cons_self
      have hcell : separator ∉ p.toBytes b64 := Packet.separator_notMem_toBytes hp
      have hpacket : Packet.tryFrom b64 (p.toBytes b64) = .ok p := Packet.tryFrom_toBytes hp
      by_cases hps' : ps = []
      · subst hps'
        rw [Payload.toBytes_single]
        exact Payload.tryFrom_single hcell hpacket
      · have hrest := ih hps' fun q hq => hps q (List.mem_cons_of_mem _ hq)
        rw [Payload.toBytes_cons p hps']
        exact Payload.tryFrom_cons hcell hpacket hrest

/-- Whatever is accepted is encodable: the cells of a payload hold no separator. -/
theorem Payload.encodable_of_tryFrom {payload : Bytes} {ps : Payload}
    (h : Payload.tryFrom b64 payload = .ok ps) : ∀ p ∈ ps, p.Encodable := by
  have hcells : ∀ cell ∈ payload.splitOn separator, separator ∉ cell := fun cell hcell =>
    Split.notMem_of_mem_splitOn hcell
  rw [Payload.tryFrom] at h
  generalize payload.splitOn separator = cells at h hcells
  induction cells generalizing ps with
  | nil =>
      obtain rfl : [] = ps := by simpa [List.mapM_nil, pure, Except.pure] using h
      simp
  | cons cell cells ih =>
      obtain ⟨p, ps, rfl, hcell, hrest⟩ := mapM_cons_eq_ok h
      have hp := Packet.encodable_of_tryFrom (hcells cell List.mem_cons_self) hcell
      have hps := ih hrest fun cell' h' => hcells cell' (List.mem_cons_of_mem _ h')
      simpa using ⟨hp, hps⟩

end RoundTrip

/-- **The payload codec.**  Encodable packets come back from their encoding; and a payload that is
accepted is a nonempty list whose encoding stays inside the buffer and decodes to the same list. -/
theorem Payload.roundTrips (b64 : Base64Engine) :
    (∀ ps : Payload, ps ≠ [] → (∀ p ∈ ps, p.Encodable) →
      ∃ bytes, Payload.encode b64 ps = some bytes ∧ Payload.tryFrom b64 bytes = .ok ps) ∧
    (∀ (payload : Bytes) (ps : Payload), Payload.tryFrom b64 payload = .ok ps →
      ps ≠ [] ∧
        ∃ bytes, Payload.encode b64 ps = some bytes ∧ Payload.tryFrom b64 bytes = .ok ps) := by
  constructor
  · intro ps hne hps
    exact ⟨_, Payload.encode_eq hne, Payload.tryFrom_toBytes hne hps⟩
  · intro payload ps h
    have hne := Payload.ne_nil_of_tryFrom h
    have hps := Payload.encodable_of_tryFrom h
    exact ⟨hne, _, Payload.encode_eq hne, Payload.tryFrom_toBytes hne hps⟩

/-- Both halves on a payload that mixes the two id forms and base64: `2`, `4hi` and `b`. -/
theorem Payload.roundTrips_ping_message_binary :
    (∃ bytes, Payload.encode .standard [⟨.ping, []⟩, ⟨.message, [104, 105]⟩, ⟨.messageBinary, []⟩] =
        some bytes ∧
      Payload.tryFrom .standard bytes =
        .ok [⟨.ping, []⟩, ⟨.message, [104, 105]⟩, ⟨.messageBinary, []⟩]) ∧
    ∃ bytes, Payload.encode .standard [⟨.ping, []⟩, ⟨.noop, []⟩] = some bytes ∧
      Payload.tryFrom .standard bytes = .ok [⟨.ping, []⟩, ⟨.noop, []⟩] := by
  constructor
  · exact (Payload.roundTrips .standard).1 _ (by decide) (by decide)
  · exact ((Payload.roundTrips .standard).2 [2, 0x1e, 54] _ rfl).2

end TfSocketio.Engineio
