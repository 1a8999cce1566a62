/-
# Socketio.EventIdentity — whether an event is dispatched as the event that was emitted.

The name of an event becomes text in two ways: a text payload displays it inside a JSON array, a
binary payload converts it and prints it as a JSON string.  The receiver parses the array of the
one, and deletes the quotes of the other without reading its escapes.

`keepsIdentity_iff` finds three exceptions: `connect` is displayed under a name that is not
converted back, a name with a character that JSON escapes is not itself without its quotes, and an
argument may be printed that is not read.
-/
import TfSocketio.Socketio.BinaryDelivery
import TfSocketio.Socketio.Dispatch
import TfSocketio.Socketio.StringPayload

namespace TfSocketio.Socketio

open Engineio (Bytes)
open Text (Str)

/-! ## From emit to the callbacks -/

section Emit

variable {json : SerdeJson} (reader : FromStr json)

/-- The callbacks that the handlers of event packets invoke. -/
def dispatchEvent (nsp : Str) (callbacks : Callbacks) (packet : Packet) : List (Call json) :=
  match handlerOf nsp packet with
  | some .event =>
      match handleEvent reader callbacks packet with
      | .ok calls => calls
      | .error _ => []
  | some .binaryEvent => handleBinaryEvent callbacks packet
  | _ => []

/-- What `emit` sends is polled by the receiver, and selects the callbacks of the event. -/
def Selects (nsp : Str) (event : Event) (payload : Payload json) : Prop :=
  ∃ sent received, Packet.newFromPayload json payload event nsp none = .ok sent ∧
    (pollIncoming json (arriving sent.enginePackets)).1 = .ok received ∧
    ∃ payload', ∀ callbacks, dispatchEvent reader nsp callbacks received =
      callback callbacks event payload' none

/-- **The event keeps its identity** with the one payload and with the other. -/
def KeepsIdentity (nsp : Str) (event : Event) (text binary : Payload json) : Prop :=
  Selects reader nsp event text ∧ Selects reader nsp event binary

end Emit

/-! ## Names -/

/-- A letter is not made of a character that is escaped. -/
theorem isPlain_of_toLower {c : Char} (h : Json.isPlain c.toLower = true) :
    Json.isPlain c = true := by
  unfold Char.toLower at h
  split at h
  · rename_i hupper
    have hlow : 65 ≤ c.toNat := hupper.1
    have hhigh : c.toNat ≤ 90 := hupper.2
    refine Json.isPlain_of_not ?_ ?_ (by omega)
    · rintro rfl
      exact absurd hlow (by decide)
    · rintro rfl
      exact absurd hhigh (by decide)
  · exact h

theorem plain_of_lowercase {s name : Str} (h : lowercase s = name)
    (hname : name.all Json.isPlain = true) : s.all Json.isPlain = true := by
  rw [List.all_eq_true] at hname ⊢
  intro c hc
  apply isPlain_of_toLower
  apply hname
  rw [← h]
  exact List.mem_map_of_mem hc

theorem Event.eq_of_ofString_custom {s string : Str} (h : Event.ofString s = .custom string) :
    string = s := by
  unfold Event.ofString at h
  split_ifs at h
  exact (Event.custom.inj h).symm

/-- What an event converts into is converted back. -/
theorem Event.ofString_intoString (s : Str) :
    Event.ofString (Event.ofString s).intoString = Event.ofString s := by
  cases h : Event.ofString s with
  | custom string =>
      obtain rfl := Event.eq_of_ofString_custom h
      exact h
  | _ => rfl

/-- What an event is displayed as is converted back, unless it is `Connect`. -/
theorem Event.ofString_asStr (s : Str) :
    Event.ofString (Event.ofString s).asStr = Event.ofString s ↔ Event.ofString s ≠ .connect := by
  cases h : Event.ofString s with
  | custom string =>
      obtain rfl := Event.eq_of_ofString_custom h
      exact iff_of_true h (by simp)
  | connect => exact iff_of_false (by decide) (by simp)
  | _ => exact iff_of_true rfl (by simp)

theorem Event.ofString_eq_connect {s : Str} :
    Event.ofString s = .connect ↔ lowercase s = "open".toList := by
  constructor
  · intro h
    unfold Event.ofString at h
    split_ifs at h
    assumption
  · intro h
    rw [Event.ofString, h, if_neg (by decide), if_neg (by decide), if_pos rfl]

/-- The reserved names have nothing to escape. -/
theorem Event.intoString_plain (s : Str) :
    (Event.ofString s).intoString.all Json.isPlain = true ↔ s.all Json.isPlain = true := by
  have hreserved : ∀ name : Str, name.all Json.isPlain = true → lowercase s = name →
      s.all Json.isPlain = true := fun name hname h => plain_of_lowercase h hname
  unfold Event.ofString
  split_ifs with hmessage herror hopen hclose
  · exact iff_of_true rfl (hreserved _ rfl hmessage)
  · exact iff_of_true rfl (hreserved _ rfl herror)
  · exact iff_of_true rfl (hreserved _ rfl hopen)
  · exact iff_of_true rfl (hreserved _ rfl hclose)
  · exact Iff.rfl

/-! ## The two dispatchers -/

/-- A printed name without its quotes names the same event exactly if nothing in it is escaped. -/
theorem ofString_deleteQuotes {name : Str} :
    Event.ofString (deleteQuotes (Json.printString name)) = Event.ofString name ↔
      name.all Json.isPlain = true := by
  have hquotes : deleteQuotes (Json.printString name) = deleteQuotes (Json.escape name) := by
    have hprint : Json.printString name = ['"'] ++ (Json.escape name ++ ['"']) := rfl
    have hquote : deleteQuotes ['"'] = [] := rfl
    rw [hprint, deleteQuotes_append, deleteQuotes_append, hquote, List.nil_append, List.append_nil]
  rw [hquotes]
  constructor
  · intro h
    obtain ⟨raw, htext, -, hraw⟩ := rawName_of_chars (Json.Chars.of_string name [])
    obtain rfl : Json.escape name = raw := List.append_cancel_right htext
    exact (hraw.plain (lowercase_eq_of_ofString h)).2
  · intro h
    have hno : '"' ∉ name := by
      intro hmem
      exact absurd (List.all_eq_true.mp h '"' hmem) (by decide)
    rw [Json.escape_of_plain h, deleteQuotes_of_notMem hno]

section Dispatch

variable {json : SerdeJson} {nsp : Str} {event : Event} {payload : Payload json}

/-- A packet that is polled in a namespace with a comma is of another namespace. -/
theorem Selects.no_comma {reader : FromStr json} (h : Selects reader nsp event payload) :
    ',' ∉ nsp := by
  obtain ⟨sent, received, -, hpoll, payload', hcalls⟩ := h
  have hnsp : received.nsp = nsp := by
    by_contra hne
    have hnone : handlerOf nsp received = none := if_neg hne
    have hcall := hcalls ⟨fun _ => true, true⟩
    simp [dispatchEvent, hnone, callback] at hcall
  rw [← hnsp]
  exact (fields_of_pollIncoming hpoll).2

/-- What is sent is polled as it is, and the question is what it selects. -/
theorem selects_iff {reader : FromStr json} {sent : Packet} (hbuilt : Built json sent)
    (hsent : Packet.newFromPayload json payload event nsp none = .ok sent) :
    Selects reader nsp event payload ↔
      ∃ payload', ∀ callbacks, dispatchEvent reader nsp callbacks sent =
        callback callbacks event payload' none := by
  have hpoll := pollIncoming_enginePackets hbuilt []
  rw [List.append_nil] at hpoll
  constructor
  · rintro ⟨other, received, hother, hreceived, hcalls⟩
    obtain rfl := Except.ok.inj (hsent.symm.trans hother)
    rw [hpoll] at hreceived
    cases hreceived
    exact hcalls
  · intro hcalls
    exact ⟨sent, sent, hsent, congrArg Prod.fst hpoll, hcalls⟩

theorem dispatchEvent_text {reader : FromStr json} {packet : Packet} (hnsp : packet.nsp = nsp)
    (htype : packet.packetType = .event) {callbacks : Callbacks} {calls : List (Call json)}
    (h : handleEvent reader callbacks packet = .ok calls) :
    dispatchEvent reader nsp callbacks packet = calls := by
  simp only [dispatchEvent, handlerOf, if_pos hnsp, htype, PacketId.handler, h]

theorem dispatchEvent_binary {reader : FromStr json} {packet : Packet} (hnsp : packet.nsp = nsp)
    (htype : packet.packetType = .binaryEvent) (callbacks : Callbacks) :
    dispatchEvent reader nsp callbacks packet = handleBinaryEvent callbacks packet := by
  simp only [dispatchEvent, handlerOf, if_pos hnsp, htype, PacketId.handler]

/-- A text payload selects the event whose name is displayed, if its arguments are read. -/
theorem selects_text (reader : SerdeReader json) (hnsp : IsNamespace nsp)
    {args : List json.Value} (hne : args ≠ []) (ackId : Option Int) :
    Selects reader.fromStr nsp event (.text args ackId) ↔
      Event.ofString event.asStr = event ∧ ∀ v ∈ args, reader.Readable v := by
  have hid : IsAckId none := fun i hi => by cases hi
  rw [selects_iff (.event (.text args ackId) hnsp hid rfl) rfl, ← SerdeReader.exists_forall₂_iff]
  constructor
  · rintro ⟨payload', hcalls⟩
    have hall := hcalls ⟨fun _ => true, true⟩
    cases hread : reader.fromStr (json.toString (.array (.string event.asStr :: args))) with
    | none =>
        -- what cannot be read is ignored
        have hnone : dispatchEvent reader.fromStr nsp ⟨fun _ => true, true⟩ ⟨.event, nsp,
            some (json.toString (.array (.string event.asStr :: args))), none, 0, none⟩ = [] :=
          dispatchEvent_text rfl rfl (by simp only [handleEvent, hread])
        simp [hnone, callback] at hall
    | some V =>
        obtain ⟨us, rfl, hargs⟩ := SerdeReader.fromStr_named.mp hread
        have hus : us ≠ [] := by
          rintro rfl
          exact hne (List.forall₂_nil_right_iff.mp hargs)
        have hevent := handleEvent_named _ ⟨.event, nsp, _, none, 0, none⟩ rfl hread hus
        have hselected := (dispatchEvent_text rfl rfl (hevent _)).symm.trans hall
        exact ⟨callback_inj hselected, us, hargs⟩
  · rintro ⟨hevent, us, hargs⟩
    have hus : us ≠ [] := by
      rintro rfl
      exact hne (List.forall₂_nil_right_iff.mp hargs)
    have hread : reader.fromStr (json.toString (.array (.string event.asStr :: args))) =
        some (.array (.string event.asStr :: us)) :=
      SerdeReader.fromStr_named.mpr ⟨us, rfl, hargs⟩
    refine ⟨.text us none, fun callbacks => ?_⟩
    have hcalls := handleEvent_named _ ⟨.event, nsp, _, none, 0, none⟩ rfl hread hus
    rw [hevent] at hcalls
    exact dispatchEvent_text rfl rfl (hcalls callbacks)

/-- A binary payload selects the event whose name is left when the quotes are deleted. -/
theorem selects_binary (reader : FromStr json) (hnsp : IsNamespace nsp) (bytes : Bytes)
    (ackId : Option Int) :
    Selects reader nsp event (.binary bytes ackId) ↔
      Event.ofString (deleteQuotes (json.toString (.string event.intoString))) = event := by
  have hid : IsAckId none := fun i hi => by cases hi
  rw [selects_iff (.event (.binary bytes ackId) hnsp hid rfl) rfl]
  constructor
  · rintro ⟨payload', hcalls⟩
    have hselected := (dispatchEvent_binary rfl rfl _).symm.trans (hcalls ⟨fun _ => true, true⟩)
    exact callback_inj hselected
  · intro hevent
    refine ⟨.binary bytes none, fun callbacks => ?_⟩
    refine (dispatchEvent_binary rfl rfl callbacks).trans ?_
    exact congrArg (fun event => callback callbacks event (.binary bytes none) none) hevent

end Dispatch

section Identity

variable {json : SerdeJson}

/-- **When an event keeps its identity.**  In a namespace of the builder without a comma, exactly
the names do that are not `open` in any case and that have no character which JSON escapes: no
quote, no backslash and no control character; and with exactly the arguments whose texts are read
inside an array. -/
theorem keepsIdentity_iff (reader : SerdeReader json) (cfg : Config) (name s : Str)
    (arg : json.Value) (args : List json.Value) (bytes : Bytes) (ackId ackId' : Option Int) :
    KeepsIdentity reader.fromStr (cfg.setNamespace name).nsp (Event.ofString s)
        (.text (arg :: args) ackId) (.binary bytes ackId') ↔
      ',' ∉ (cfg.setNamespace name).nsp ∧ lowercase s ≠ "open".toList ∧
        s.all Json.isPlain = true ∧ ∀ v ∈ arg :: args, reader.Readable v := by
  have hslash := cfg.setNamespace_head name
  have hprint : json.toString (.string (Event.ofString s).intoString) =
      Json.printString (Event.ofString s).intoString := by rw [SerdeJson.toString, Json.print]
  have hopen : Event.ofString (Event.ofString s).asStr = Event.ofString s ↔
      lowercase s ≠ "open".toList :=
    (Event.ofString_asStr s).trans (not_congr Event.ofString_eq_connect)
  -- the binary payload, in a namespace that can be read
  have hbinary : ∀ hnsp : IsNamespace (cfg.setNamespace name).nsp,
      Selects reader.fromStr (cfg.setNamespace name).nsp (Event.ofString s)
        (.binary bytes ackId') ↔ s.all Json.isPlain = true := by
    intro hnsp
    rw [selects_binary _ hnsp, hprint, ← Event.intoString_plain s, ← ofString_deleteQuotes,
      Event.ofString_intoString]
  constructor
  · rintro ⟨htext, hbytes⟩
    have hnsp : IsNamespace (cfg.setNamespace name).nsp := ⟨hslash, htext.no_comma⟩
    obtain ⟨hname, hargs⟩ := (selects_text reader hnsp (List.cons_ne_nil _ _) ackId).mp htext
    exact ⟨htext.no_comma, hopen.mp hname, (hbinary hnsp).mp hbytes, hargs⟩
  · rintro ⟨hcomma, hname, hplain, hargs⟩
    have hnsp : IsNamespace (cfg.setNamespace name).nsp := ⟨hslash, hcomma⟩
    exact ⟨(selects_text reader hnsp (List.cons_ne_nil _ _) ackId).mpr ⟨hopen.mpr hname, hargs⟩,
      (hbinary hnsp).mpr hplain⟩

/-- `Open` becomes `connect` in a text payload, and a quote becomes a backslash in a binary one. -/
theorem not_keepsIdentity :
    ¬ ∀ (s : Str) (arg : SerdeJson.texts.Value) (args : List SerdeJson.texts.Value)
        (bytes : Bytes),
      KeepsIdentity SerdeReader.texts.fromStr ['/'] (Event.ofString s) (.text (arg :: args) none)
        (.binary bytes none) := by
  intro h
  have hnsp : IsNamespace ['/'] := ⟨rfl, by decide⟩
  have htext := (selects_text SerdeReader.texts hnsp (by simp) none).mp
    (h "Open".toList .null [] []).1
  exact absurd htext.1 (by decide)

end Identity

end TfSocketio.Socketio
