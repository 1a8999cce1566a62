/-
# Socketio.Codec — every packet the client builds is decoded as itself.

`Built` lists the packets that the constructors make from text and binary payloads, and the
disconnect packet.  `tryFrom_toBytes` says that the decoder returns such a packet, less the
attachments, from its text.

The textual removal of placeholders is where it could go wrong, as an event name may hold anything.
The reason it does not is `removeAll_escape`: a placeholder opens with a brace and a quote, and
inside a JSON string a quote is always escaped.
-/
import TfSocketio.Socketio.Packet

namespace TfSocketio.Socketio

open Text (Str)

/-! ## The packets a client builds -/

/-- A namespace opens with a slash and holds no comma. -/
structure IsNamespace (nsp : Str) : Prop where
  slash : nsp.head? = some '/'
  no_comma : ',' ∉ nsp

/-- No ack id, or a nonnegative `i32`. -/
def IsAckId (id : Option Int) : Prop := ∀ i ∈ id, 0 ≤ i ∧ i < 2 ^ 31

/-- A payload of one of the two forms in use; the third, `Payload::String`, is deprecated. -/
inductive Payload.Supported {json : SerdeJson} : Payload json → Prop
  | binary (data : Engineio.Bytes) (ackId : Option Int) : Supported (.binary data ackId)
  | text (data : List json.Value) (ackId : Option Int) : Supported (.text data ackId)

/-- The packets made from text and binary payloads, and the disconnect packet. -/
inductive Built (json : SerdeJson) : Packet → Prop
  | event {payload : Payload json} {event : Event} {nsp : Str} {id : Option Int} {packet : Packet}
      (hp : payload.Supported) (hn : IsNamespace nsp) (hid : IsAckId id)
      (h : Packet.newFromPayload json payload event nsp id = .ok packet) : Built json packet
  | ack {payload : Payload json} {nsp : Str} {id : Option Int} {packet : Packet}
      (hp : payload.Supported) (hn : IsNamespace nsp) (hid : IsAckId id)
      (h : Packet.ackFromPayload json payload nsp id = .ok packet) : Built json packet
  | disconnect {nsp : Str} (hn : IsNamespace nsp) : Built json (Packet.disconnect nsp)

/-! ## The fields in front of the data -/

theorem parseU8_toDigits (n : Nat) :
    parseU8 (Nat.toDigits 10 n) = if n < 256 then some (UInt8.ofNat n) else none := by
  obtain ⟨c, cs, hc, hd⟩ := Text.toDigits_start n
  have hplus : c ≠ '+' := by
    rintro rfl
    exact absurd hd (by decide)
  have hparse := Text.parseDigits_toDigits n
  rw [hc] at hparse ⊢
  simp [parseU8, hplus, hparse]

theorem parseI32_toDigits {n : Nat} (h : n < 2 ^ 31) :
    parseI32 (Nat.toDigits 10 n) = some (n : Int) := by
  obtain ⟨c, cs, hc, hd⟩ := Text.toDigits_start n
  have hne : ∀ d : Char, d.isDigit = false → c ≠ d := by
    rintro d hd' rfl
    rw [hd] at hd'
    exact absurd hd' (by decide)
  have hparse := Text.parseDigits_toDigits n
  rw [hc] at hparse ⊢
  rw [parseI32]
  · simp only [hparse, Option.bind_some, h, if_true]
  all_goals
    rintro digits heq
    simp only [List.cons.injEq] at heq
    exact absurd heq.1 (hne _ (by decide))

/-- The attachment count is read back; a packet of another type announces none. -/
theorem decodeCount_countText {packet : Packet}
    (h : packet.packetType.isBinary = false → packet.attachmentCount = 0) (rest : Str) :
    decodeCount packet.packetType (packet.countText ++ rest) =
      .ok (packet.attachmentCount, rest) := by
  cases hb : packet.packetType.isBinary with
  | false => simp [decodeCount, Packet.countText, hb, h hb]
  | true =>
      have hminus : '-' ∉ Nat.toDigits 10 packet.attachmentCount.toNat := fun hm =>
        absurd (Text.isDigit_of_mem_toDigits hm) (by decide)
      have hlt : packet.attachmentCount.toNat < 256 := packet.attachmentCount.toNat_lt
      simp [decodeCount, Packet.countText, hb, Text.splitOnce_append hminus, parseU8_toDigits, hlt]

/-- The namespace is read back, in front of a text that does not look like one. -/
theorem decodeNsp_nspText {packet : Packet} (hn : IsNamespace packet.nsp) {rest : Str}
    (hrest : rest.head? ≠ some '/') :
    decodeNsp (packet.nspText ++ rest) = .ok (packet.nsp, rest) := by
  by_cases hd : packet.nsp = ['/']
  · simp [decodeNsp, Packet.nspText, hd, hrest]
  · obtain ⟨c, cs, hc⟩ : ∃ c cs, packet.nsp = c :: cs := by
      cases hp : packet.nsp with
      | nil => simpa [hp] using hn.slash
      | cons c cs => exact ⟨c, cs, rfl⟩
    have hhead : (packet.nsp ++ ',' :: rest).head? = some '/' := by
      have := hn.slash
      rw [hc] at this ⊢
      exact this
    have htext : packet.nspText ++ rest = packet.nsp ++ ',' :: rest := by
      simp [Packet.nspText, hd]
    rw [decodeNsp, htext, if_pos hhead, Text.splitOnce_append hn.no_comma]

/-! ## The data -/

/-- An array's text opens with its bracket, which is neither a digit nor a slash. -/
structure IsArrayText (json : SerdeJson) (s : Str) : Prop where
  bracket : s.head? = some '['
  isJson : json.isJson s = true

theorem isArrayText_print (json : SerdeJson) (values : List json.Value) :
    IsArrayText json (json.toString (.array values)) := by
  obtain ⟨inner, h⟩ := Json.print_array json.printNumber values
  refine ⟨?_, json.isJson_print _⟩
  rw [SerdeJson.toString, h]
  rfl

/-- The text of an object with two fields whose keys need no escapes. -/
theorem toString_object_two {json : SerdeJson} {key key' : Str} {value value' : json.Value}
    (hkey : Json.escape key = key) (hkey' : Json.escape key' = key') :
    json.toString (.object [(key, value), (key', value')]) =
      '{' :: '"' :: (key ++ '"' :: ':' :: (json.toString value ++
        ',' :: '"' :: (key' ++ '"' :: ':' :: (json.toString value' ++ ['}'])))) := by
  simp [SerdeJson.toString, Json.print, Json.printMoreFields, Json.printString, hkey, hkey']

/-- A placeholder object, as a JSON value. -/
def placeholderValue (json : SerdeJson) (num : Nat) : json.Value :=
  .object [("_placeholder".toList, .bool true), ("num".toList, .number (json.fromNat num))]

theorem toString_placeholderValue (json : SerdeJson) (num : Nat) :
    json.toString (placeholderValue json num) = placeholder num := by
  have hkey : Json.escape "_placeholder".toList = "_placeholder".toList :=
    Json.escape_of_plain rfl
  have hnum : Json.escape "num".toList = "num".toList := Json.escape_of_plain rfl
  have htrue : json.toString (.bool true) = "true".toList := by
    rw [SerdeJson.toString, Json.print]
    rfl
  have hnumber : json.toString (.number (json.fromNat num)) = Nat.toDigits 10 num := by
    rw [SerdeJson.toString, Json.print, json.printNumber_fromNat]
  rw [placeholderValue, toString_object_two hkey hnum, htrue, hnumber, placeholder]
  simp

/-- The text of a binary event is the array of its name and a placeholder. -/
theorem toString_binaryEvent (json : SerdeJson) (e : Str) (num : Nat) :
    json.toString (.array [.string e, placeholderValue json num]) =
      '[' :: (json.toString (.string e) ++ ',' :: (placeholder num ++ [']'])) := by
  rw [← toString_placeholderValue json num]
  simp [SerdeJson.toString, Json.print, Json.printMore]

theorem toString_binaryAck (json : SerdeJson) (num : Nat) :
    json.toString (.array [placeholderValue json num]) = '[' :: (placeholder num ++ [']']) := by
  rw [← toString_placeholderValue json num]
  simp [SerdeJson.toString, Json.print, Json.printMore]

theorem placeholder_zero : placeholder 0 = '{' :: '"' :: '_' :: (placeholder 0).drop 3 := by decide

/-- A placeholder does not begin at a brace, unless a quote and an underscore follow. -/
theorem not_placeholder_prefix_quote {t : Str} (h : t.head? ≠ some '_') :
    ¬ placeholder 0 <+: '{' :: '"' :: t := by
  rw [placeholder_zero]
  rintro ⟨u, hu⟩
  simp only [List.cons_append, List.cons.injEq, true_and] at hu
  rw [← hu] at h
  simp at h

theorem not_placeholder_prefix_of_ne {c d : Char} {t : Str} (h : c ≠ '{' ∨ d ≠ '"') :
    ¬ placeholder 0 <+: c :: d :: t := by
  rw [placeholder_zero]
  rintro ⟨u, hu⟩
  simp only [List.cons_append, List.cons.injEq] at hu
  rcases h with h | h
  · exact h hu.1.symm
  · exact h hu.2.1.symm

/-- A text without a brace is kept. -/
theorem removeAll_kept (kept : Str) (h : '{' ∉ kept) (s : Str) :
    Text.removeAll (placeholder 0) (kept ++ s) = kept ++ Text.removeAll (placeholder 0) s := by
  rw [placeholder_zero]
  exact Text.removeAll_append_of_notMem h s

theorem removeAll_placeholder (s : Str) :
    Text.removeAll (placeholder 0) (placeholder 0 ++ s) = Text.removeAll (placeholder 0) s := by
  rw [placeholder_zero]
  exact Text.removeAll_append_self s

/-- Only a brace is escaped to a text with a brace. -/
theorem brace_notMem_escapeChar {c : Char} (h : c ≠ '{') : '{' ∉ Json.escapeChar c := by
  have hhex : ∀ n, n < 16 → '{' ≠ Json.hexDigit n := by decide
  have hescaped := Json.escapeChar_cases c
  generalize Json.escapeChar c = text at hescaped ⊢
  cases hescaped with
  | short hshort => cases hshort <;> decide
  | control hlt =>
      have hhigh := hhex (c.toNat / 16) (by omega)
      have hlow := hhex (c.toNat % 16) (by omega)
      simp [hhigh, hlow]
  | plain => simpa using Ne.symm h

/-- **No placeholder is found inside a JSON string**, nor across its closing quote. -/
theorem removeAll_escape (e : Str) {rest : Str} (h : rest.head? ≠ some '_') :
    Text.removeAll (placeholder 0) (Json.escape e ++ '"' :: rest) =
      Json.escape e ++ '"' :: Text.removeAll (placeholder 0) rest := by
  induction e with
  | nil => exact removeAll_kept ['"'] (by decide) rest
  | cons c e ih =>
      rw [Json.escape_cons, List.append_assoc]
      by_cases hc : c = '{'
      · subst hc
        -- what follows the brace is the next character's text, or the closing quote
        have hprefix : ¬ placeholder 0 <+: '{' :: (Json.escape e ++ '"' :: rest) := by
          cases e with
          | nil => exact not_placeholder_prefix_quote h
          | cons c' e =>
              obtain ⟨d, ds, hd, hquote⟩ := Json.quote_escaped c'
              rw [Json.escape_cons, hd]
              exact not_placeholder_prefix_of_ne (.inr hquote)
        have hbrace : Json.escapeChar '{' = ['{'] :=
          Json.escapeChar_of_plain (by decide)
        rw [hbrace, List.singleton_append, Text.removeAll_cons_of_mismatch hprefix, ih]
        rfl
      · rw [removeAll_kept _ (brace_notMem_escapeChar hc), ih, List.append_assoc]

/-- A string is kept. -/
theorem removeAll_printString (x : Str) {s : Str} (hs : s.head? ≠ some '_') :
    Text.removeAll (placeholder 0) (Json.printString x ++ s) =
      Json.printString x ++ Text.removeAll (placeholder 0) s := by
  have hstring : Json.printString x ++ s = ['"'] ++ (Json.escape x ++ '"' :: s) := by
    simp [Json.printString]
  rw [hstring, removeAll_kept ['"'] (by decide), removeAll_escape x hs]
  simp [Json.printString]

/-- A binary event's data reads back as the text of its name. -/
theorem binaryData_event (json : SerdeJson) (e : Str) :
    binaryData ('[' :: (json.toString (.string e) ++ ',' :: (placeholder 0 ++ [']']))) =
      some (json.toString (.string e)) := by
  have hname : json.toString (.string e) = '"' :: (Json.escape e ++ ['"']) := by
    simp [SerdeJson.toString, Json.print, Json.printString]
  have hprint : json.toString (.string e) = Json.printString e := by
    rw [SerdeJson.toString, Json.print]
  have hremove :
      Text.removeAll (placeholder 0) (json.toString (.string e) ++ ',' :: placeholder 0) =
        json.toString (.string e) ++ [','] := by
    have hcomma := removeAll_kept [','] (by decide) (placeholder 0)
    have hplaceholder := removeAll_placeholder []
    rw [List.append_nil] at hplaceholder
    rw [hprint, removeAll_printString e (by simp), ← List.singleton_append, hcomma, hplaceholder]
    rfl
  have hlast : ('[' :: ((json.toString (.string e) ++ ',' :: placeholder 0) ++ [']'])).getLast? =
      some ']' :=
    List.getLast?_concat (l := '[' :: (json.toString (.string e) ++ ',' :: placeholder 0))
  have hne : json.toString (.string e) ≠ [] := by simp [hname]
  have htext : json.toString (.string e) ++ ',' :: (placeholder 0 ++ [']']) =
      (json.toString (.string e) ++ ',' :: placeholder 0) ++ [']'] := by
    simp
  rw [htext]
  simp only [binaryData, List.head?_cons, hlast, and_self, if_true, List.tail_cons,
    List.dropLast_concat, hremove, List.getLast?_concat, hne, if_false]

/-- A binary ack without data reads back as one without data. -/
theorem binaryData_ack : binaryData ('[' :: (placeholder 0 ++ [']'])) = none := by decide

/-! ## The whole text -/

/-- What the decoder needs of a packet to return it: fields it can read, and data that its last
stage restores. -/
structure Packet.Readable (json : SerdeJson) (packet : Packet) : Prop where
  nsp : IsNamespace packet.nsp
  id : IsAckId packet.id
  count : packet.packetType.isBinary = false → packet.attachmentCount = 0
  data : (packet.dataText = [] ∧ packet.id = none ∧ packet.data = none) ∨
    (IsArrayText json packet.dataText ∧
      (if packet.packetType.isBinary then binaryData packet.dataText else some packet.dataText) =
        packet.data)

/-- The id and the data are read back. -/
theorem decodeIdAndData_text {json : SerdeJson} {packet : Packet} (h : packet.Readable json) :
    decodeIdAndData json { packet with id := none, data := none, attachments := none }
      (packet.idText ++ packet.dataText) = .ok { packet with attachments := none } := by
  rcases h.data with ⟨hempty, hid, hdata⟩ | ⟨harray, hdata⟩
  · simp [decodeIdAndData, Packet.idText, hempty, hid, hdata, Text.leadingDigits]
  · obtain ⟨rest, hrest⟩ : ∃ rest, packet.dataText = '[' :: rest := by
      have hb := harray.bracket
      cases hp : packet.dataText with
      | nil => simp [hp] at hb
      | cons c rest =>
          simp only [hp, List.head?_cons, Option.some.injEq] at hb
          exact ⟨rest, by rw [hb]⟩
    have hne : packet.dataText ≠ [] := by simp [hrest]
    have hhead : ∀ c ∈ packet.dataText.head?, c.isDigit = false := by
      intro c hc
      rw [harray.bracket] at hc
      obtain rfl := Option.some.inj hc
      decide
    obtain ⟨packetType, nsp, data, id, attachmentCount, attachments⟩ := packet
    cases id with
    | none =>
        have hnil : ∀ c ∈ ([] : Str), c.isDigit := by simp
        have hspan := Text.leadingDigits_append hnil hhead
        simp only [List.nil_append] at hspan
        simp [decodeIdAndData, Packet.idText, hspan, hne, harray.isJson, hdata]
    | some i =>
        obtain ⟨hi0, hi⟩ := h.id i rfl
        have hspan := Text.leadingDigits_append
          (fun c hc => Text.isDigit_of_mem_toDigits (n := i.natAbs) hc) hhead
        have hparse : parseI32 (Nat.toDigits 10 i.natAbs) = some i := by
          rw [parseI32_toDigits (by omega)]
          simp [Int.natAbs_of_nonneg hi0]
        simp [decodeIdAndData, Packet.idText, Text.printInt_of_nonneg hi0, hspan, hne, hparse,
          Nat.toDigits_ne_nil, harray.isJson, hdata]

/-- The text in front of the data does not go on with a slash. -/
theorem Packet.Readable.head_ne_slash {json : SerdeJson} {packet : Packet}
    (h : packet.Readable json) : (packet.idText ++ packet.dataText).head? ≠ some '/' := by
  have hdigit : ∀ i ∈ packet.id, ∃ c cs, packet.idText = c :: cs ∧ c ≠ '/' := by
    intro i hi
    obtain ⟨c, cs, hc, hd⟩ := Text.toDigits_start i.natAbs
    refine ⟨c, cs, ?_, ?_⟩
    · simp [Packet.idText, Option.mem_def.mp hi, Text.printInt_of_nonneg (h.id i hi).1, hc]
    · rintro rfl
      exact absurd hd (by decide)
  cases hid : packet.id with
  | some i =>
      obtain ⟨c, cs, hc, hne⟩ := hdigit i hid
      simpa [hc] using hne
  | none =>
      rcases h.data with ⟨hempty, -, -⟩ | ⟨harray, -⟩
      · simp [Packet.idText, hid, hempty]
      · simp [Packet.idText, hid, harray.bracket]

/-- The decoder returns a readable packet from its text, less the attachments. -/
theorem Packet.Readable.tryFrom_toBytes {json : SerdeJson} {packet : Packet}
    (h : packet.Readable json) :
    Packet.tryFrom json packet.toBytes = .ok { packet with attachments := none } := by
  have hcount := decodeCount_countText h.count
    (packet.nspText ++ (packet.idText ++ packet.dataText))
  have hnsp := decodeNsp_nspText h.nsp h.head_ne_slash
  have hrest := decodeIdAndData_text h
  simp only [Packet.tryFrom, Packet.toBytes, Text.fromUtf8_utf8, Packet.text, Packet.ofText,
    PacketId.tryFrom_toChar, bind, Except.bind, hcount, hnsp]
  exact hrest

section Built

variable {json : SerdeJson}

/-- A packet without attachments whose data is the text of an array. -/
theorem Packet.Readable.of_array {packetType : PacketId} {nsp : Str} {id : Option Int}
    (ht : packetType.isBinary = false) (hn : IsNamespace nsp) (hid : IsAckId id)
    (values : List json.Value) :
    Packet.Readable json ⟨packetType, nsp, some (json.toString (.array values)), id, 0, none⟩ where
  nsp := hn
  id := hid
  count _ := rfl
  data := .inr ⟨isArrayText_print json values, by simp [ht, Packet.dataText]⟩

/-- A packet with one attachment and, as its data, the text of a name. -/
theorem Packet.Readable.of_binaryEvent {packetType : PacketId} {nsp : Str} {id : Option Int}
    {binData : Engineio.Bytes} (ht : packetType.isBinary = true) (hn : IsNamespace nsp)
    (hid : IsAckId id) (name : Str) :
    Packet.Readable json
      ⟨packetType, nsp, some (json.toString (.string name)), id, 1, some [binData]⟩ where
  nsp := hn
  id := hid
  count h := by simp [ht] at h
  data := by
    have hnum : ((1 : UInt8) - 1).toNat = 0 := by decide
    simp only [Packet.dataText, Option.isSome_some, ht, if_true, hnum]
    refine .inr ⟨?_, binaryData_event json name⟩
    rw [← toString_binaryEvent]
    exact isArrayText_print json _

/-- A packet with one attachment and no data. -/
theorem Packet.Readable.of_binaryAck {nsp : Str} {id : Option Int} {binData : Engineio.Bytes}
    (hn : IsNamespace nsp) (hid : IsAckId id) :
    Packet.Readable json ⟨.binaryAck, nsp, none, id, 1, some [binData]⟩ where
  nsp := hn
  id := hid
  count h := by simp [PacketId.isBinary] at h
  data := by
    have hnum : ((1 : UInt8) - 1).toNat = 0 := by decide
    simp only [Packet.dataText, Option.isSome_some, PacketId.isBinary, if_true, hnum]
    refine .inr ⟨?_, binaryData_ack⟩
    rw [← toString_binaryAck json]
    exact isArrayText_print json _

/-- **What the client builds, the decoder can read.** -/
theorem Built.readable {packet : Packet} (h : Built json packet) : packet.Readable json := by
  cases h with
  | @event payload event nsp id _ hp hn hid h =>
      cases hp with
      | binary data ackId =>
          obtain rfl := Except.ok.inj h
          exact .of_binaryEvent (by cases id <;> rfl) hn hid _
      | text data ackId =>
          obtain rfl := Except.ok.inj h
          exact .of_array rfl hn hid _
  | @ack payload nsp id _ hp hn hid h =>
      cases hp with
      | binary data ackId =>
          obtain rfl := Except.ok.inj h
          exact .of_binaryAck hn hid
      | text data ackId =>
          obtain rfl := Except.ok.inj h
          exact .of_array rfl hn hid _
  | disconnect hn =>
      exact {
        nsp := hn
        id := by intro i hi; cases hi
        count := fun _ => rfl
        data := .inl ⟨rfl, rfl, rfl⟩ }

/-- A built packet announces exactly the attachments it has. -/
theorem Built.attachments {packet : Packet} (h : Built json packet) :
    (packet.attachmentCount = 0 ∧ packet.attachments = none) ∨
      ∃ data, packet.attachmentCount = 1 ∧ packet.attachments = some [data] := by
  cases h with
  | event hp hn hid h =>
      cases hp with
      | binary data ackId =>
          obtain rfl := Except.ok.inj h
          exact .inr ⟨data, rfl, rfl⟩
      | text data ackId =>
          obtain rfl := Except.ok.inj h
          exact .inl ⟨rfl, rfl⟩
  | ack hp hn hid h =>
      cases hp with
      | binary data ackId =>
          obtain rfl := Except.ok.inj h
          exact .inr ⟨data, rfl, rfl⟩
      | text data ackId =>
          obtain rfl := Except.ok.inj h
          exact .inl ⟨rfl, rfl⟩
  | disconnect hn => exact .inl ⟨rfl, rfl⟩

end Built

end TfSocketio.Socketio
