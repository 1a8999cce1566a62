/-
# Socketio.Decoder — what the packet decoder accepts, and what it returns.

`Reads` is the grammar the decoder is written for, for the types without attachments: a type digit,
a namespace with its comma or none, the longest run of digits, and JSON data, where every character
belongs to one field of the packet.

The decoder reads that grammar on every text but one kind.  `decodeIdAndData` looks for the first
character that is no digit and returns at once when there is none, so an id with no data behind it
is accepted, whatever its size, and dropped (`Packet.tryFrom_idOnly`).
`Packet.tryFrom_iff_reads` says that this is the only difference.
-/
import TfSocketio.Socketio.Codec

namespace TfSocketio.Socketio

open Text (Str)

/-! ## The grammar -/

/-- The namespace at the head of a text, and the text behind it. -/
inductive NspText : Str → Str → Str → Prop
  | default {rest : Str} (h : rest.head? ≠ some '/') : NspText rest ['/'] rest
  | named {nsp rest : Str} (h : IsNamespace nsp) : NspText (nsp ++ ',' :: rest) nsp rest

/-- The value of a run of digits; an empty run has value 0. -/
abbrev decimal (digits : Str) : Nat := Nat.ofDigitChars 10 digits 0

/-- The fields of a text. -/
structure Parts where
  packetType : PacketId
  nsp : Str
  digits : Str
  data : Str

/-- A text falls into its parts.  The run of digits is the longest one. -/
structure Parts.Of (json : SerdeJson) (parts : Parts) (s : Str) : Prop where
  text : ∃ payload, s = parts.packetType.toChar :: payload ∧
    NspText payload parts.nsp (parts.digits ++ parts.data)
  digits : ∀ c ∈ parts.digits, c.isDigit
  longest : ∀ c ∈ parts.data.head?, c.isDigit = false
  id_lt : decimal parts.digits < 2 ^ 31
  isJson : parts.data ≠ [] → json.isJson parts.data

/-- The packet with these parts: an absent part is an absent field. -/
def Parts.packet (parts : Parts) : Packet where
  packetType := parts.packetType
  nsp := parts.nsp
  data := if parts.data = [] then none else some parts.data
  id := if parts.digits = [] then none else some (decimal parts.digits)
  attachmentCount := 0
  attachments := none

/-- A text reads as a packet. -/
def Reads (json : SerdeJson) (s : Str) (packet : Packet) : Prop :=
  ∃ parts : Parts, parts.Of json s ∧ parts.packet = packet

/-- Behind its type and its namespace, the text is an id and nothing else. -/
def IdOnly (s : Str) : Prop :=
  ∃ (t : PacketId) (payload nsp digits : Str), s = t.toChar :: payload ∧
    NspText payload nsp digits ∧ digits ≠ [] ∧ ∀ c ∈ digits, c.isDigit

/-! ## One field after the other -/

/-- The type digits are the seven that name a type. -/
theorem PacketId.tryFrom_eq_ok {c : Char} {t : PacketId} (h : PacketId.tryFrom c = .ok t) :
    c = t.toChar := by
  unfold PacketId.tryFrom at h
  repeat' split at h
  all_goals first | (obtain rfl := Except.ok.inj h; assumption) | simp at h

theorem decodeNsp_eq_ok {payload nsp rest : Str} :
    decodeNsp payload = .ok (nsp, rest) ↔ NspText payload nsp rest := by
  constructor
  · intro h
    by_cases hslash : payload.head? = some '/'
    · rw [decodeNsp, if_pos hslash] at h
      split at h
      · simp at h
      · rename_i nsp' rest' hsplit
        obtain ⟨rfl, rfl⟩ : nsp' = nsp ∧ rest' = rest := by simpa using h
        obtain ⟨rfl, hcomma⟩ := Text.splitOnce_eq_some hsplit
        -- the slash is not the comma, so the namespace is not empty
        have hhead : nsp'.head? = some '/' := by
          cases nsp' with
          | nil => simp at hslash
          | cons c cs => simpa using hslash
        exact .named ⟨hhead, hcomma⟩
    · rw [decodeNsp, if_neg hslash] at h
      obtain ⟨rfl, rfl⟩ : ['/'] = nsp ∧ payload = rest := by simpa using h
      exact .default hslash
  · intro h
    cases h with
    | default h => rw [decodeNsp, if_neg h]
    | named h =>
        have hhead : (nsp ++ ',' :: rest).head? = some '/' := by
          rw [List.head?_append, h.slash]
          rfl
        rw [decodeNsp, if_pos hhead, Text.splitOnce_append h.no_comma]

/-- A text opens with at most one namespace. -/
theorem NspText.unique {payload nsp nsp' rest rest' : Str} (h : NspText payload nsp rest)
    (h' : NspText payload nsp' rest') : nsp = nsp' ∧ rest = rest' := by
  have heq := (decodeNsp_eq_ok.mpr h).symm.trans (decodeNsp_eq_ok.mpr h')
  simpa using heq

/-- A run of digits is an id if it fits. -/
theorem parseI32_digits {digits : Str} (hne : digits ≠ []) (hd : ∀ c ∈ digits, c.isDigit) :
    parseI32 digits = if decimal digits < 2 ^ 31 then some (decimal digits : Int) else none := by
  have hall : digits.all Char.isDigit = true := List.all_eq_true.mpr hd
  have hparse : Text.parseDigits digits = some (decimal digits) := by
    rw [Text.parseDigits, if_pos ⟨hne, hall⟩]
  rw [parseI32]
  · rw [hparse, Option.bind_some]
  all_goals
    rintro rest rfl
    exact absurd (hd _ List.mem_cons_self) (by decide)

section Fields

variable {json : SerdeJson} {packet p : Packet}

/-- A run of digits with nothing behind it leaves the packet as it is. -/
theorem decodeIdAndData_digits {digits : Str} (hd : ∀ c ∈ digits, c.isDigit) :
    decodeIdAndData json packet digits = .ok packet := by
  have hspan : Text.leadingDigits (digits ++ []) = (digits, []) :=
    Text.leadingDigits_append hd (by simp)
  rw [List.append_nil] at hspan
  rw [decodeIdAndData, hspan]
  rfl

/-- An id, if there is one, and data behind it. -/
theorem decodeIdAndData_data {digits data : Str} (hd : ∀ c ∈ digits, c.isDigit)
    (hlongest : ∀ c ∈ data.head?, c.isDigit = false) (hne : data ≠ []) :
    decodeIdAndData json packet (digits ++ data) = .ok p ↔
      decimal digits < 2 ^ 31 ∧ json.isJson data ∧
        { packet with
          id := if digits = [] then none else some (decimal digits)
          data := if packet.packetType.isBinary then binaryData data else some data } = p := by
  rw [decodeIdAndData, Text.leadingDigits_append hd hlongest]
  by_cases hnil : digits = []
  · subst hnil
    by_cases hjson : json.isJson data <;> simp [hne, hjson, decimal]
  · by_cases hfit : decimal digits < 2 ^ 31
    · have hparse : parseI32 digits = some (decimal digits : Int) := by
        rw [parseI32_digits hnil hd, if_pos hfit]
      by_cases hjson : json.isJson data <;> simp only [hne, hnil, hparse, hfit, hjson] <;> simp
    · -- an id that does not fit is an error, whatever follows
      have hparse : parseI32 digits = none := by rw [parseI32_digits hnil hd, if_neg hfit]
      simp only [hne, hnil, hparse, hfit]
      simp

/-- The decoder, stage by stage, on a type without attachments. -/
theorem Packet.ofText_eq_ok {t : PacketId} (ht : t.isBinary = false) {payload : Str} :
    Packet.ofText json (t.toChar :: payload) = .ok p ↔
      ∃ nsp rest, NspText payload nsp rest ∧
        decodeIdAndData json { Packet.default with packetType := t, nsp } rest = .ok p := by
  have hcount : decodeCount t payload = .ok (0, payload) := by
    rw [decodeCount, ht]
    rfl
  simp only [Packet.ofText, PacketId.tryFrom_toChar, hcount, bind, Except.bind]
  cases hnsp : decodeNsp payload with
  | error e =>
      simp only [reduceCtorEq, false_iff]
      rintro ⟨nsp, rest, h, -⟩
      rw [decodeNsp_eq_ok.mpr h] at hnsp
      simp at hnsp
  | ok read =>
      obtain ⟨nsp, rest⟩ := read
      have hread := decodeNsp_eq_ok.mp hnsp
      constructor
      · intro h
        exact ⟨nsp, rest, hread, h⟩
      · rintro ⟨nsp', rest', hread', h⟩
        obtain ⟨rfl, rfl⟩ := hread.unique hread'
        exact h

/-- The decoder on a type with attachments: the count, the namespace, the id and the data. -/
theorem Packet.tryFrom_binary {t : PacketId} (ht : t.isBinary = true) {n : Nat}
    {payload nsp digits data : Str} (hnsp : NspText payload nsp (digits ++ data))
    (hd : ∀ c ∈ digits, c.isDigit) (hlongest : ∀ c ∈ data.head?, c.isDigit = false)
    (hne : data ≠ []) :
    Packet.tryFrom json (Text.utf8 (t.toChar :: (Nat.toDigits 10 n ++ '-' :: payload))) = .ok p ↔
      n < 256 ∧ decimal digits < 2 ^ 31 ∧ json.isJson data ∧
        (⟨t, nsp, binaryData data, if digits = [] then none else some (decimal digits),
          UInt8.ofNat n, none⟩ : Packet) = p := by
  have hdash : '-' ∉ Nat.toDigits 10 n := fun hm =>
    absurd (Text.isDigit_of_mem_toDigits hm) (by decide)
  have hcount : decodeCount t (Nat.toDigits 10 n ++ '-' :: payload) =
      if n < 256 then .ok (UInt8.ofNat n, payload) else .error .invalidPacket := by
    by_cases hn : n < 256 <;>
      simp [decodeCount, ht, Text.splitOnce_append hdash, parseU8_toDigits, hn]
  rw [Packet.tryFrom, Text.fromUtf8_utf8]
  simp only [Packet.ofText, PacketId.tryFrom_toChar, hcount, bind, Except.bind]
  by_cases hn : n < 256
  · simp only [hn, if_true, decodeNsp_eq_ok.mpr hnsp, true_and]
    rw [decodeIdAndData_data hd hlongest hne]
    simp [ht, Packet.default]
  · simp [hn]

end Fields

/-! ## What is accepted -/

section Accepted

variable {json : SerdeJson}

/-- An id with no data behind it, of any size, is accepted and dropped. -/
theorem Packet.tryFrom_idOnly {t : PacketId} (ht : t.isBinary = false)
    {payload nsp digits : Str} (hnsp : NspText payload nsp digits)
    (hd : ∀ c ∈ digits, c.isDigit) :
    Packet.tryFrom json (Text.utf8 (t.toChar :: payload)) =
      .ok { Packet.default with packetType := t, nsp } := by
  rw [Packet.tryFrom, Text.fromUtf8_utf8]
  exact (Packet.ofText_eq_ok ht).mpr ⟨nsp, digits, hnsp, decodeIdAndData_digits hd⟩

/-- A type that announces no attachments has a digit other than 5 and 6. -/
theorem PacketId.not_binary {t : PacketId} {payload : Str}
    (h5 : (t.toChar :: payload).head? ≠ some '5') (h6 : (t.toChar :: payload).head? ≠ some '6') :
    t.isBinary = false := by
  cases t <;> first | rfl | exact absurd rfl h5 | exact absurd rfl h6

/-- An accepted text opens with a type digit. -/
theorem Packet.type_of_tryFrom {s : Str} {p : Packet}
    (h : Packet.tryFrom json (Text.utf8 s) = .ok p) :
    ∃ (t : PacketId) (payload : Str), s = t.toChar :: payload := by
  rw [Packet.tryFrom, Text.fromUtf8_utf8] at h
  cases s with
  | nil => simp [Packet.ofText] at h
  | cons c payload =>
      cases htype : PacketId.tryFrom c with
      | error e => simp [Packet.ofText, htype, bind, Except.bind] at h
      | ok t => exact ⟨t, payload, by rw [PacketId.tryFrom_eq_ok htype]⟩

variable {s : Str}

/-- A text that is an id alone is read otherwise: its id is dropped. -/
theorem Packet.not_reads_idOnly (h5 : s.head? ≠ some '5') (h6 : s.head? ≠ some '6')
    (hidOnly : IdOnly s) :
    ∃ p, Packet.tryFrom json (Text.utf8 s) = .ok p ∧ ¬ Reads json s p := by
  obtain ⟨t, payload, nsp, digits, rfl, hnsp, hne, hd⟩ := hidOnly
  have ht := PacketId.not_binary h5 h6
  refine ⟨_, Packet.tryFrom_idOnly ht hnsp hd, ?_⟩
  rintro ⟨parts, hparts, hpacket⟩
  -- the packet has no id and no data, so the grammar left no text for them
  have hnoid : parts.digits = [] := by
    by_contra hsome
    simpa [Parts.packet, hsome, Packet.default] using congrArg Packet.id hpacket
  have hnodata : parts.data = [] := by
    by_contra hsome
    simpa [Parts.packet, hsome, Packet.default] using congrArg Packet.data hpacket
  obtain ⟨payload', hs, hnsp'⟩ := hparts.text
  obtain rfl : payload = payload' := (List.cons.inj hs).2
  rw [hnoid, hnodata] at hnsp'
  exact hne (hnsp.unique hnsp').2

/-- What the decoder accepts is in the grammar. -/
theorem Packet.reads_of_tryFrom (h5 : s.head? ≠ some '5') (h6 : s.head? ≠ some '6')
    (hidOnly : ¬ IdOnly s) {p : Packet} (h : Packet.tryFrom json (Text.utf8 s) = .ok p) :
    Reads json s p := by
  obtain ⟨t, payload, rfl⟩ := Packet.type_of_tryFrom h
  have ht := PacketId.not_binary h5 h6
  rw [Packet.tryFrom, Text.fromUtf8_utf8] at h
  obtain ⟨nsp, rest, hnsp, hrest⟩ := (Packet.ofText_eq_ok ht).mp h
  obtain ⟨hspan, hd, hlongest⟩ := Text.leadingDigits_spec rest
  generalize (Text.leadingDigits rest).1 = digits at hspan hd
  generalize (Text.leadingDigits rest).2 = data at hspan hlongest
  subst hspan
  refine ⟨⟨t, nsp, digits, data⟩, ?_⟩
  by_cases hdata : data = []
  · subst hdata
    rw [List.append_nil] at hnsp hrest
    -- not an id alone: no id at all
    obtain rfl : digits = [] := by
      by_contra hne
      exact hidOnly ⟨t, payload, nsp, digits, rfl, hnsp, hne, hd⟩
    rw [decodeIdAndData_digits hd] at hrest
    have hzero : decimal [] < 2 ^ 31 := by decide
    exact ⟨⟨⟨payload, rfl, hnsp⟩, hd, hlongest, hzero, fun hne => absurd rfl hne⟩,
      Except.ok.inj hrest⟩
  · obtain ⟨hfit, hjson, rfl⟩ := (decodeIdAndData_data hd hlongest hdata).mp hrest
    refine ⟨⟨⟨payload, rfl, hnsp⟩, hd, hlongest, hfit, fun _ => hjson⟩, ?_⟩
    simp [Parts.packet, hdata, ht, Packet.default]

/-- What is in the grammar is accepted. -/
theorem Packet.tryFrom_of_reads (h5 : s.head? ≠ some '5') (h6 : s.head? ≠ some '6')
    (hidOnly : ¬ IdOnly s) {p : Packet} (h : Reads json s p) :
    Packet.tryFrom json (Text.utf8 s) = .ok p := by
  obtain ⟨⟨t, nsp, digits, data⟩, hparts, rfl⟩ := h
  obtain ⟨payload, rfl, hnsp⟩ := hparts.text
  have ht : t.isBinary = false := PacketId.not_binary h5 h6
  rw [Packet.tryFrom, Text.fromUtf8_utf8]
  refine (Packet.ofText_eq_ok ht).mpr ⟨nsp, digits ++ data, hnsp, ?_⟩
  by_cases hdata : data = []
  · subst hdata
    rw [List.append_nil] at hnsp ⊢
    obtain rfl : digits = [] := by
      by_contra hne
      exact hidOnly ⟨t, payload, nsp, digits, rfl, hnsp, hne, hparts.digits⟩
    rw [decodeIdAndData_digits hparts.digits]
    rfl
  · refine (decodeIdAndData_data hparts.digits hparts.longest hdata).mpr
      ⟨hparts.id_lt, hparts.isJson hdata, ?_⟩
    simp [Parts.packet, hdata, ht, Packet.default]

/-- **What the decoder accepts.**  On a text whose type announces no attachments the decoder agrees
with the grammar, on acceptance and on every field, exactly when the text is not an id alone. -/
theorem Packet.tryFrom_iff_reads {s : Str} (h5 : s.head? ≠ some '5') (h6 : s.head? ≠ some '6') :
    (∀ p, Packet.tryFrom json (Text.utf8 s) = .ok p ↔ Reads json s p) ↔ ¬ IdOnly s := by
  constructor
  · intro hall hidOnly
    obtain ⟨p, haccepted, hother⟩ := Packet.not_reads_idOnly h5 h6 hidOnly
    exact hother ((hall p).mp haccepted)
  · intro hidOnly p
    constructor
    · exact Packet.reads_of_tryFrom h5 h6 hidOnly
    · exact Packet.tryFrom_of_reads h5 h6 hidOnly

end Accepted

/-- An event with a namespace, an id and data. -/
theorem Packet.tryFrom_iff_reads_event :
    Packet.tryFrom .integers (Text.utf8 "2/a,7[1]".toList) =
        .ok ⟨.event, "/a".toList, some "[1]".toList, some 7, 0, none⟩ ↔
      Reads .integers "2/a,7[1]".toList
        ⟨.event, "/a".toList, some "[1]".toList, some 7, 0, none⟩ := by
  have hdata : ¬ IdOnly "2/a,7[1]".toList := by
    rintro ⟨t, payload, nsp, digits, hs, hnsp, -, hd⟩
    obtain rfl : payload = "/a,7[1]".toList := (List.cons.inj hs).2.symm
    have hnamed : IsNamespace "/a".toList := ⟨by decide, by decide⟩
    have hread : NspText "/a,7[1]".toList "/a".toList "7[1]".toList := NspText.named hnamed
    obtain rfl := (hnsp.unique hread).2
    exact absurd (hd '[' (by decide)) (by decide)
  exact (Packet.tryFrom_iff_reads (by decide) (by decide)).mpr hdata _

/-- The ack `312` reads as an ack with id 12; the decoder returns one without an id. -/
theorem Packet.tryFrom_ack_id_dropped :
    ¬ ∀ (json : SerdeJson) (s : Str), s.head? ≠ some '5' → s.head? ≠ some '6' →
      ∀ p, Packet.tryFrom json (Text.utf8 s) = .ok p ↔ Reads json s p := by
  intro hall
  have hnsp : NspText "12".toList ['/'] "12".toList := .default (by decide)
  have hdigits : ∀ c ∈ "12".toList, c.isDigit := List.all_eq_true.mp (by decide)
  have hreads : Reads .integers "312".toList ⟨.ack, ['/'], none, some 12, 0, none⟩ :=
    ⟨⟨.ack, ['/'], "12".toList, []⟩,
      ⟨⟨"12".toList, rfl, hnsp⟩, hdigits, by simp, by decide, fun hne => absurd rfl hne⟩, rfl⟩
  have hdecode : Packet.tryFrom .integers (Text.utf8 "312".toList) =
      .ok { Packet.default with packetType := .ack, nsp := ['/'] } :=
    Packet.tryFrom_idOnly (t := .ack) rfl hnsp hdigits
  rw [(hall .integers _ (by decide) (by decide) _).mpr hreads] at hdecode
  simp [Packet.default] at hdecode

end TfSocketio.Socketio
