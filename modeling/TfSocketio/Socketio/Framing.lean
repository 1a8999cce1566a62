/-
# Socketio.Framing — whether a packet stays one packet in a polling body.

A polling body is cut at every `0x1e`, and nothing escapes that byte on the way into it.  JSON
printing escapes it, so it does not come from a text or a binary payload.  It does come from what is
pasted as it is: the namespace, and, with the deprecated `Payload::String`, the payload and the
event's name.  `framedAlone_iff` says that these are all the ways.
-/
import TfSocketio.Lib.JsonGrammar
import TfSocketio.Socketio.Builder
import TfSocketio.Socketio.Packet

namespace TfSocketio.Socketio

open Text (Str)
open Json (Visible)

/-! ## The separator in a body -/

/-- The separator of a polling body, as a character. -/
def separatorChar : Char := '\x1e'

/-- The polling body of a packet's text is decoded as one `Message` packet with that text. -/
def FramedAlone (b64 : Engineio.Base64Engine) (packet : Packet) : Prop :=
  Engineio.Payload.tryFrom b64 (Engineio.Packet.toBytes b64 ⟨.message, packet.toBytes⟩) =
    .ok [⟨.message, packet.toBytes⟩]

theorem mapM_length {α β ε : Type} {f : α → Except ε β} {xs : List α} {ys : List β}
    (h : xs.mapM f = .ok ys) : ys.length = xs.length := by
  induction xs generalizing ys with
  | nil =>
      cases h
      rfl
  | cons x xs ih =>
      obtain ⟨z, zs, rfl, -, hzs⟩ := Engineio.mapM_cons_eq_ok h
      rw [List.length_cons, List.length_cons, ih hzs]

/-- A body is one packet exactly when it has no separator. -/
theorem tryFrom_single_iff {b64 : Engineio.Base64Engine} {body : Engineio.Bytes}
    {packet : Engineio.Packet} (h : Engineio.Packet.tryFrom b64 body = .ok packet) :
    Engineio.Payload.tryFrom b64 body = .ok [packet] ↔ Engineio.separator ∉ body := by
  constructor
  · intro hbody hsep
    obtain ⟨cell, rest, -, -, hsplit⟩ := Split.splitOn_of_mem hsep
    have hlength := mapM_length hbody
    rw [hsplit] at hlength
    have hne := List.length_pos_of_ne_nil (List.splitOn_ne_nil Engineio.separator rest)
    simp only [List.length_cons, List.length_nil] at hlength
    omega
  · intro hsep
    exact Engineio.Payload.tryFrom_single hsep h

/-- A text of characters that are no controls has no separator. -/
theorem notMem_of_visible {s : Str} (h : Visible s) : separatorChar ∉ s := by
  intro hmem
  have hle := h separatorChar hmem
  exact absurd hle (by decide)

theorem framedAlone_iff_text (b64 : Engineio.Base64Engine) (packet : Packet) :
    FramedAlone b64 packet ↔ separatorChar ∉ packet.text := by
  have hne : packet.toBytes ≠ [] := by
    have hbyte := Text.mem_utf8 (c := packet.packetType.toChar)
      (by cases packet.packetType <;> decide) packet.text
    have hmem := hbyte.mpr List.mem_cons_self
    exact List.ne_nil_of_mem hmem
  have hbytes : Engineio.Packet.toBytes b64 ⟨.message, packet.toBytes⟩ = 52 :: packet.toBytes := rfl
  have hdecode : Engineio.Packet.tryFrom b64 (52 :: packet.toBytes) =
      .ok ⟨.message, packet.toBytes⟩ := by
    have hbase64 : (52 : UInt8) ≠ Engineio.base64Prefix := by decide
    have hid : Engineio.PacketId.tryFrom 52 = .ok .message := rfl
    simp [Engineio.Packet.tryFrom, hbase64, hid, hne]
  have hsep : (52 : UInt8) ≠ Engineio.separator := by decide
  have hutf8 : Engineio.separator ∈ packet.toBytes ↔ separatorChar ∈ packet.text :=
    Text.mem_utf8 (c := separatorChar) (by decide) packet.text
  rw [FramedAlone, hbytes, tryFrom_single_iff hdecode, List.mem_cons, hutf8]
  simp [Ne.symm hsep]

/-! ## The separator in a packet's text -/

theorem visible_toDigits (n : Nat) : Visible (Nat.toDigits 10 n) := by
  intro c hc
  have hdigit := Text.isDigit_of_mem_toDigits hc
  simp only [Char.isDigit, Bool.and_eq_true, decide_eq_true_eq] at hdigit
  have hle : (48 : UInt32).toNat ≤ c.val.toNat := UInt32.le_iff_toNat_le.mp hdigit.1
  exact Nat.le_trans (by decide) hle

theorem visible_idText (packet : Packet) : Visible packet.idText := by
  unfold Packet.idText
  split
  · rw [Text.printInt]
    split
    · exact (visible_toDigits _).cons (by decide)
    · exact visible_toDigits _
  · simp [Visible]

theorem visible_placeholder (num : Nat) : Visible (placeholder num) := by
  have hdigits := (visible_toDigits num).append (t := ['}']) (by simp [Visible])
  have hkeys : Visible "\"_placeholder\":true,\"num\":".toList := by simp [Visible]
  exact (hkeys.append hdigits).cons (by decide)

/-- The separator comes with the namespace or with the data. -/
theorem mem_text_iff (packet : Packet) :
    separatorChar ∈ packet.text ↔ separatorChar ∈ packet.nsp ∨ separatorChar ∈ packet.dataText := by
  have htype : separatorChar ≠ packet.packetType.toChar := by
    cases packet.packetType <;> decide
  have hcount : separatorChar ∉ packet.countText := by
    apply notMem_of_visible
    unfold Packet.countText
    split
    · exact (visible_toDigits _).append (by simp [Visible])
    · simp [Visible]
  have hid := notMem_of_visible (visible_idText packet)
  have hnsp : separatorChar ∈ packet.nspText ↔ separatorChar ∈ packet.nsp := by
    have hcomma : separatorChar ≠ ',' := by decide
    have hslash : separatorChar ≠ '/' := by decide
    unfold Packet.nspText
    split
    · rename_i hdefault
      simp [hdefault, hslash]
    · simp [hcomma]
  simp [Packet.text, htype, hcount, hid, hnsp]

/-! ## The packets of the operations -/

/-- What a client pastes into the text of a packet as it is: the payload of the deprecated form, and
in front of it the event's name. -/
def Payload.pasted {json : SerdeJson} (name : Str) : Payload json → Str
  | .string strData _ => name ++ strData
  | .binary _ _ => []
  | .text _ _ => []

section Data

variable {json : SerdeJson} (hnumber : ∀ n, Json.IsNumber (json.printNumber n))
include hnumber

theorem visible_toString (value : json.Value) : Visible (json.toString value) := by
  apply Json.visible_print
  intro n c hc
  have hchar := (hnumber n).chars.2 c hc
  simp only [Json.isNumberChar, Bool.or_eq_true, decide_eq_true_eq, Char.isDigit,
    Bool.and_eq_true] at hchar
  rcases hchar with ((((hdigit | rfl) | rfl) | rfl) | rfl) | rfl
  · have hle : (48 : UInt32).toNat ≤ c.val.toNat := UInt32.le_iff_toNat_le.mp hdigit.1
    exact Nat.le_trans (by decide) hle
  all_goals decide

/-- The separator in the text of an event. -/
theorem mem_newFromPayload {payload : Payload json} {event : Event} {nsp : Str} {id : Option Int}
    {packet : Packet} (h : Packet.newFromPayload json payload event nsp id = .ok packet) :
    separatorChar ∈ packet.text ↔
      separatorChar ∈ nsp ∨ separatorChar ∈ payload.pasted event.asStr := by
  rw [mem_text_iff]
  cases payload with
  | binary binData ackId =>
      cases h
      have hdata := notMem_of_visible (visible_toString hnumber (.string event.intoString))
      have hplaceholder := notMem_of_visible (visible_placeholder 0)
      have hnum : ((1 : UInt8) - 1).toNat = 0 := rfl
      have hne : separatorChar ∉ ['[', ',', ']'] := by decide
      simp_all [Packet.dataText, Payload.pasted]
  | text data ackId =>
      cases h
      have hdata := notMem_of_visible
        (visible_toString hnumber (.array (.string event.asStr :: data)))
      simp [Packet.dataText, Payload.pasted, hdata]
  | string strData ackId =>
      cases h
      have hne : separatorChar ∉ ['[', '"', ',', ']'] := by decide
      simp only [List.mem_cons, List.not_mem_nil, or_false, not_or] at hne
      obtain ⟨hopen, hquote, hcomma, hclose⟩ := hne
      cases hjson : json.isJson strData with
      | true => simp [Packet.dataText, Payload.pasted, hopen, hquote, hcomma, hclose]
      | false => simp [Packet.dataText, Payload.pasted, hopen, hquote, hcomma, hclose]

/-- The separator in the text of an ack. -/
theorem mem_ackFromPayload {payload : Payload json} {nsp : Str} {ackId : Option Int}
    {packet : Packet} (h : Packet.ackFromPayload json payload nsp ackId = .ok packet) :
    separatorChar ∈ packet.text ↔ separatorChar ∈ nsp ∨ separatorChar ∈ payload.pasted [] := by
  rw [mem_text_iff]
  cases payload with
  | binary binData ackId =>
      cases h
      have hplaceholder := notMem_of_visible (visible_placeholder 0)
      have hnum : ((1 : UInt8) - 1).toNat = 0 := rfl
      have hne : separatorChar ∉ ['[', ']'] := by decide
      simp_all [Packet.dataText, Payload.pasted]
  | text data ackId =>
      cases h
      have hdata := notMem_of_visible (visible_toString hnumber (.array data))
      simp [Packet.dataText, Payload.pasted, hdata]
  | string strData ackId =>
      cases h
      have hne : separatorChar ∉ ['[', '"', ']'] := by decide
      simp only [List.mem_cons, List.not_mem_nil, or_false, not_or] at hne
      obtain ⟨hopen, hquote, hclose⟩ := hne
      cases hjson : json.isJson strData with
      | true => simp [Packet.dataText, Payload.pasted, hopen, hclose]
      | false => simp [Packet.dataText, Payload.pasted, hopen, hquote, hclose]

/-- **Which content opens a packet of its own.**  An event, with or without an ack id, stays alone
in its polling body exactly when there is no separator in the namespace's name and, for the payload
of the deprecated form, neither in the payload nor in the event's name; and an ack when there is
none in the namespace's name and the payload of that form. -/
theorem framedAlone_iff (b64 : Engineio.Base64Engine) (cfg : Config) (name : Str)
    (payload : Payload json) (id : Option Int) :
    (∀ event, (∃ packet,
        Packet.newFromPayload json payload event (cfg.setNamespace name).nsp id = .ok packet ∧
        FramedAlone b64 packet) ↔
      separatorChar ∉ name ∧ separatorChar ∉ payload.pasted event.asStr) ∧
    ((∃ packet,
        Packet.ackFromPayload json payload (cfg.setNamespace name).nsp id = .ok packet ∧
        FramedAlone b64 packet) ↔
      separatorChar ∉ name ∧ separatorChar ∉ payload.pasted []) := by
  have hname : separatorChar ∈ (cfg.setNamespace name).nsp ↔ separatorChar ∈ name := by
    have hslash : separatorChar ≠ '/' := by decide
    rw [Config.setNamespace]
    split
    · rfl
    · simp [hslash]
  constructor
  · intro event
    obtain ⟨sent, hsent⟩ : ∃ sent,
        Packet.newFromPayload json payload event (cfg.setNamespace name).nsp id = .ok sent := by
      cases payload <;> exact ⟨_, rfl⟩
    have hmem := mem_newFromPayload hnumber hsent
    rw [hname] at hmem
    rw [hsent]
    simp only [Except.ok.injEq, exists_eq_left', framedAlone_iff_text, hmem, not_or]
  · obtain ⟨sent, hsent⟩ : ∃ sent,
        Packet.ackFromPayload json payload (cfg.setNamespace name).nsp id = .ok sent := by
      cases payload <;> exact ⟨_, rfl⟩
    have hmem := mem_ackFromPayload hnumber hsent
    rw [hname] at hmem
    rw [hsent]
    simp only [Except.ok.injEq, exists_eq_left', framedAlone_iff_text, hmem, not_or]

end Data

/-- A text payload, and the name of an event, may hold the separator. -/
theorem framedAlone_text :
    ∃ packet, Packet.newFromPayload .integers (.text [.string [separatorChar]] none)
        (.custom [separatorChar]) (Config.new.setNamespace "chat".toList).nsp (some 7) =
          .ok packet ∧
      FramedAlone .standard packet :=
  ((@framedAlone_iff .integers Json.isNumber_printInt .standard Config.new "chat".toList
    (.text [.string [separatorChar]] none) (some 7)).1 (.custom [separatorChar])).mpr
      ⟨by decide, by decide⟩

/-- A namespace that closes the connection of the other side with every event: the rest of the text
is read as a `Close` packet. -/
theorem namespace_opens_close :
    ∃ packet, Packet.newFromPayload .integers (.text [] none) (.custom ['e'])
        (Config.new.setNamespace ['a', separatorChar, '1']).nsp none = .ok packet ∧
      ¬ FramedAlone .standard packet ∧
      Engineio.Payload.tryFrom .standard
          (Engineio.Packet.toBytes .standard ⟨.message, packet.toBytes⟩) =
        .ok [⟨.message, Text.utf8 "2/a".toList⟩, ⟨.close, Text.utf8 ",[\"e\"]".toList⟩] := by
  refine ⟨_, rfl, ?_, ?_⟩
  · rw [framedAlone_iff_text]
    decide
  · decide

end TfSocketio.Socketio
