/-
# Socketio.StringPayload — the deprecated string payload and its replacement.

A string payload is pasted into the data of a packet, in quotes unless it is JSON; the payload that
a string converts into holds a value, and the data are its printed array.

`stringPayload_iff` says when the two packets carry the same value.  Where the text is pasted,
nothing escapes the name of the event and the string; and a reader of the array has one level of
nesting less for what is in it.
-/
import TfSocketio.Lib.JsonUnique
import TfSocketio.Socketio.Handlers

namespace TfSocketio.Socketio

open Text (Str)

/-! ## Reading texts of any spelling -/

/-- What the crate relies on of `serde_json::from_str::<Value>` for a text that nobody printed.  A
value is built from the tree of a JSON text, arrays and objects to a bounded depth, and may be
refused; the text of what is read counts as JSON. -/
structure SerdeReader (json : SerdeJson) where
  /-- The depth to which the items of an array are read. -/
  limit : Nat
  /-- The value of a tree, if it nests no deeper than the first argument. -/
  value : Nat → Json.Value Str → Option json.Value
  fromStr : Str → Option json.Value
  fromStr_eq_some : ∀ {s v},
    fromStr s = some v ↔ ∃ w, Json.IsText s w ∧ value (limit + 1) w = some v
  value_string : ∀ d x, value d (.string x) = some (.string x)
  value_array : ∀ d ws, value (d + 1) (.array ws) = (ws.mapM (value d)).map .array
  value_succ : ∀ {d w v}, value d w = some v → value (d + 1) w = some v
  string_of_value : ∀ {d w x}, value d w = some (.string x) → w = .string x
  array_of_value : ∀ {d w vs}, value d w = some (.array vs) → ∃ ws, w = .array ws
  isNumber : ∀ n, Json.IsNumber (json.printNumber n)
  isJson_of_fromStr : ∀ {s v}, fromStr s = some v → json.isJson s = true

theorem mapM_eq_some {α β : Type} {f : α → Option β} {xs : List α} {ys : List β} :
    xs.mapM f = some ys ↔ List.Forall₂ (fun x y => f x = some y) xs ys := by
  induction xs generalizing ys with
  | nil => simp [eq_comm]
  | cons x xs ih =>
      cases ys with
      | nil => simp [Option.bind_eq_some_iff]
      | cons y ys => simp [Option.bind_eq_some_iff, ih]

namespace SerdeReader

variable {json : SerdeJson} (reader : SerdeReader json)

/-- A text that is no JSON is a value as a string (`Payload::string_to_value`). -/
def stringToValue (string : Str) : json.Value := (reader.fromStr string).getD (.string string)

/-- `From<String> for Payload`. -/
def payload (string : Str) : Payload json := .text [reader.stringToValue string] none

/-- The reader converts strings as the handlers do. -/
theorem payload_eq (string : Str) :
    reader.payload string = Payload.ofString reader.fromStr string :=
  rfl

/-- A text is read within a depth. -/
def Reads (d : Nat) (s : Str) (v : json.Value) : Prop :=
  ∃ w, Json.IsText s w ∧ reader.value d w = some v

variable {reader}

theorem Reads.unique {d : Nat} {s : Str} {v v' : json.Value} (h : reader.Reads d s v)
    (h' : reader.Reads d s v') : v = v' := by
  obtain ⟨w, htext, hv⟩ := h
  obtain ⟨w', htext', hv'⟩ := h'
  obtain rfl := htext.unique htext'
  exact Option.some.inj (hv.symm.trans hv')

theorem Reads.fromStr {s : Str} {v : json.Value} (h : reader.Reads reader.limit s v) :
    reader.fromStr s = some v := by
  obtain ⟨w, htext, hv⟩ := h
  exact reader.fromStr_eq_some.mpr ⟨w, htext, reader.value_succ hv⟩

/-- The tree of a printed value. -/
theorem reads_toString {d : Nat} {v u : json.Value} :
    reader.Reads d (json.toString v) u ↔
      reader.value d (v.mapNumber json.printNumber) = some u := by
  have hprint := Json.IsText.of_print reader.isNumber v
  constructor
  · rintro ⟨w, htext, hu⟩
    rwa [hprint.unique htext]
  · intro hu
    exact ⟨_, hprint, hu⟩

theorem reads_string {d : Nat} {x : Str} {u : json.Value} :
    reader.Reads d (json.toString (.string x)) u ↔ u = .string x := by
  rw [reads_toString, Json.Value.mapNumber, reader.value_string, Option.some.injEq]
  exact eq_comm

/-- What an array is read as, and from what. -/
theorem value_eq_array {d : Nat} {w : Json.Value Str} {vs : List json.Value} :
    reader.value (d + 1) w = some (.array vs) ↔
      ∃ ws, w = .array ws ∧ List.Forall₂ (fun w v => reader.value d w = some v) ws vs := by
  constructor
  · intro h
    obtain ⟨ws, rfl⟩ := reader.array_of_value h
    rw [reader.value_array, Option.map_eq_some_iff] at h
    obtain ⟨vs', hws, hvs⟩ := h
    obtain rfl := Json.Value.array.inj hvs
    exact ⟨ws, rfl, mapM_eq_some.mp hws⟩
  · rintro ⟨ws, rfl, hws⟩
    rw [reader.value_array, mapM_eq_some.mpr hws, Option.map_some]

/-- An array of one item is read if its text is, to the depth that is left. -/
theorem fromStr_singleton {text : Str} {v : json.Value} :
    reader.fromStr ('[' :: (text ++ [']'])) = some (.array [v]) ↔
      reader.Reads reader.limit text v := by
  rw [reader.fromStr_eq_some]
  constructor
  · rintro ⟨w, htext, hw⟩
    obtain ⟨ws, rfl, hitems⟩ := value_eq_array.mp hw
    obtain ⟨w, ws, hv, hnil, rfl⟩ := List.forall₂_cons_right_iff.mp hitems
    obtain rfl := List.forall₂_nil_right_iff.mp hnil
    exact ⟨w, Json.isText_singleton.mp htext, hv⟩
  · rintro ⟨w, htext, hw⟩
    exact ⟨_, Json.isText_singleton.mpr htext, value_eq_array.mpr ⟨_, rfl, .cons hw .nil⟩⟩

/-- **A name that is pasted in front of a text is read as itself exactly if nothing in it is to be
escaped.** -/
theorem fromStr_pair {name text : Str} {v : json.Value} :
    reader.fromStr ('[' :: '"' :: (name ++ '"' :: ',' :: (text ++ [']']))) =
        some (.array [.string name, v]) ↔
      name.all Json.isPlain = true ∧ reader.Reads reader.limit text v := by
  rw [reader.fromStr_eq_some]
  constructor
  · rintro ⟨w, htext, hw⟩
    obtain ⟨ws, rfl, hitems⟩ := value_eq_array.mp hw
    obtain ⟨w, ws, hname, hws, rfl⟩ := List.forall₂_cons_right_iff.mp hitems
    obtain ⟨w', ws, hv, hnil, rfl⟩ := List.forall₂_cons_right_iff.mp hws
    obtain rfl := List.forall₂_nil_right_iff.mp hnil
    obtain rfl := reader.string_of_value hname
    obtain ⟨hplain, htext⟩ := Json.isText_pair.mp htext
    exact ⟨hplain, w', htext, hv⟩
  · rintro ⟨hplain, w, htext, hw⟩
    have hitems : List.Forall₂ (fun w v => reader.value reader.limit w = some v)
        [.string name, w] [.string name, v] := .cons (reader.value_string _ _) (.cons hw .nil)
    exact ⟨_, Json.isText_pair.mpr ⟨hplain, htext⟩, value_eq_array.mpr ⟨_, rfl, hitems⟩⟩

/-- The items of a printed array are read each from its own text. -/
theorem fromStr_print {vs : List json.Value} {V : json.Value} :
    reader.fromStr (json.toString (.array vs)) = some V ↔
      ∃ us, V = .array us ∧
        List.Forall₂ (fun v u => reader.Reads reader.limit (json.toString v) u) vs us := by
  have hreads : reader.fromStr (json.toString (.array vs)) = some V ↔
      reader.Reads (reader.limit + 1) (json.toString (.array vs)) V := reader.fromStr_eq_some
  simp only [hreads, reads_toString, Json.Value.mapNumber, Json.Value.mapItems_eq_map,
    reader.value_array, Option.map_eq_some_iff, mapM_eq_some, List.forall₂_map_left_iff]
  constructor
  · rintro ⟨us, hus, rfl⟩
    exact ⟨us, rfl, hus⟩
  · rintro ⟨us, rfl, hus⟩
    exact ⟨us, hus, rfl⟩

/-- The array of a name and arguments is read as one of that name. -/
theorem fromStr_named {name : Str} {args : List json.Value} {V : json.Value} :
    reader.fromStr (json.toString (.array (.string name :: args))) = some V ↔
      ∃ us, V = .array (.string name :: us) ∧
        List.Forall₂ (fun v u => reader.Reads reader.limit (json.toString v) u) args us := by
  rw [fromStr_print]
  constructor
  · rintro ⟨us, rfl, hus⟩
    obtain ⟨u, us, hu, hargs, rfl⟩ := List.forall₂_cons_left_iff.mp hus
    obtain rfl := reads_string.mp hu
    exact ⟨us, rfl, hargs⟩
  · rintro ⟨us, rfl, hargs⟩
    exact ⟨_, rfl, .cons (reads_string.mpr rfl) hargs⟩

/-- The text of a value is read, with a level of nesting to spare. -/
def Readable (reader : SerdeReader json) (v : json.Value) : Prop :=
  ∃ u, reader.Reads reader.limit (json.toString v) u

/-- It is read as that value. -/
def Faithful (reader : SerdeReader json) (v : json.Value) : Prop :=
  reader.Reads reader.limit (json.toString v) v

theorem exists_forall₂_iff {args : List json.Value} :
    (∃ us, List.Forall₂ (fun v u => reader.Reads reader.limit (json.toString v) u) args us) ↔
      ∀ v ∈ args, reader.Readable v := by
  induction args with
  | nil => exact iff_of_true ⟨[], .nil⟩ (by simp)
  | cons v args ih =>
      rw [List.forall_mem_cons, ← ih]
      constructor
      · rintro ⟨us, hus⟩
        obtain ⟨u, us, hu, hargs, rfl⟩ := List.forall₂_cons_left_iff.mp hus
        exact ⟨⟨u, hu⟩, us, hargs⟩
      · rintro ⟨⟨u, hu⟩, us, hargs⟩
        exact ⟨u :: us, .cons hu hargs⟩

/-- The printed array of values is read back exactly if each of them is. -/
theorem readsBack_iff {vs : List json.Value} :
    FromStr.ReadsBack reader.fromStr (.array vs) ↔ ∀ v ∈ vs, reader.Faithful v := by
  have hsame : List.Forall₂ (fun v u => reader.Reads reader.limit (json.toString v) u) vs vs ↔
      ∀ v ∈ vs, reader.Faithful v := List.forall₂_same
  rw [FromStr.ReadsBack, fromStr_print, ← hsame]
  constructor
  · rintro ⟨us, heq, hvs⟩
    obtain rfl := Json.Value.array.inj heq
    exact hvs
  · exact fun hvs => ⟨vs, rfl, hvs⟩

theorem readsBack_named_iff {name : Str} {args : List json.Value} :
    FromStr.ReadsBack reader.fromStr (.array (.string name :: args)) ↔
      ∀ v ∈ args, reader.Faithful v := by
  have hname : reader.Faithful (.string name) := reads_string.mpr rfl
  rw [readsBack_iff, List.forall_mem_cons, and_iff_right hname]

end SerdeReader

/-! ## The two packets -/

section Packets

variable {json : SerdeJson} (reader : SerdeReader json)

/-- Two data are JSON texts of the same value. -/
def SameValue (data data' : Option Str) : Prop :=
  ∃ text text' v, data = some text ∧ data' = some text' ∧
    json.isJson text = true ∧ json.isJson text' = true ∧
    reader.fromStr text = some v ∧ reader.fromStr text' = some v

/-- Both are packets, alike in type, namespace and id, with data of the same value. -/
def SamePacket (result result' : Except Error Packet) : Prop :=
  ∃ packet packet', result = .ok packet ∧ result' = .ok packet' ∧
    packet.packetType = packet'.packetType ∧ packet.nsp = packet'.nsp ∧ packet.id = packet'.id ∧
    SameValue reader packet.data packet'.data

/-- The event packet of a string payload is that of its replacement. -/
def SameEvent (s : Str) (ackId : Option Int) (event : Event) (nsp : Str) (id : Option Int) :
    Prop :=
  SamePacket reader (Packet.newFromPayload json (.string s ackId) event nsp id)
    (Packet.newFromPayload json (reader.payload s) event nsp id)

/-- The ack packet of a string payload is that of its replacement. -/
def SameAck (s : Str) (ackId : Option Int) (nsp : Str) (id : Option Int) : Prop :=
  SamePacket reader (Packet.ackFromPayload json (.string s ackId) nsp id)
    (Packet.ackFromPayload json (reader.payload s) nsp id)

/-- The string is read, with a level of nesting to spare, as a value whose own text is read as that
value; or it is no JSON, and nothing in it is to be escaped. -/
def Pasteable (s : Str) : Prop :=
  (∃ v, reader.Reads reader.limit s v ∧ reader.Reads reader.limit (json.toString v) v) ∨
    json.isJson s = false ∧ s.all Json.isPlain = true

/-- What is pasted into the data. -/
def pasted (json : SerdeJson) (s : Str) : Str :=
  if json.isJson s then s else '"' :: (s ++ ['"'])

theorem newFromPayload_string (s : Str) (ackId : Option Int) (event : Event) (nsp : Str)
    (id : Option Int) :
    Packet.newFromPayload json (.string s ackId) event nsp id = .ok {
      packetType := .event
      nsp
      data := some ('[' :: '"' :: (event.asStr ++ '"' :: ',' :: (pasted json s ++ [']'])))
      id
      attachmentCount := 0
      attachments := none } := by
  by_cases hjson : json.isJson s = true
  · simp [Packet.newFromPayload, pasted, hjson]
  · simp [Packet.newFromPayload, pasted, hjson]

theorem ackFromPayload_string (s : Str) (ackId : Option Int) (nsp : Str) (id : Option Int) :
    Packet.ackFromPayload json (.string s ackId) nsp id = .ok {
      packetType := .ack
      nsp
      data := some ('[' :: (pasted json s ++ [']']))
      id
      attachmentCount := 0
      attachments := none } := by
  by_cases hjson : json.isJson s = true
  · simp [Packet.ackFromPayload, pasted, hjson]
  · simp [Packet.ackFromPayload, pasted, hjson]

variable {reader}

theorem samePacket_iff {packet packet' : Packet} :
    SamePacket reader (.ok packet) (.ok packet') ↔
      packet.packetType = packet'.packetType ∧ packet.nsp = packet'.nsp ∧
        packet.id = packet'.id ∧ SameValue reader packet.data packet'.data := by
  constructor
  · rintro ⟨p, p', hp, hp', h⟩
    obtain rfl := Except.ok.inj hp
    obtain rfl := Except.ok.inj hp'
    exact h
  · intro h
    exact ⟨packet, packet', rfl, rfl, h⟩

theorem sameValue_iff {text text' : Str} :
    SameValue reader (some text) (some text') ↔
      ∃ v, reader.fromStr text = some v ∧ reader.fromStr text' = some v := by
  constructor
  · rintro ⟨_, _, v, htext, htext', -, -, hv, hv'⟩
    obtain rfl := Option.some.inj htext
    obtain rfl := Option.some.inj htext'
    exact ⟨v, hv, hv'⟩
  · rintro ⟨v, hv, hv'⟩
    exact ⟨text, text', v, rfl, rfl, reader.isJson_of_fromStr hv, reader.isJson_of_fromStr hv',
      hv, hv'⟩

/-- What is pasted is read as the value that the string converts into. -/
theorem pasted_iff {s : Str} :
    (∃ u, reader.Reads reader.limit (pasted json s) u ∧
      reader.Reads reader.limit (json.toString (reader.stringToValue s)) u) ↔
      Pasteable reader s := by
  unfold Pasteable pasted SerdeReader.stringToValue
  cases hread : reader.fromStr s with
  | some v =>
      have hjson := reader.isJson_of_fromStr hread
      rw [if_pos hjson, Option.getD_some]
      constructor
      · rintro ⟨u, hu, hv⟩
        obtain rfl : v = u := Option.some.inj (hread.symm.trans hu.fromStr)
        exact .inl ⟨v, hu, hv⟩
      · rintro (⟨u, hu, hv⟩ | ⟨hnot, -⟩)
        · obtain rfl : v = u := Option.some.inj (hread.symm.trans hu.fromStr)
          exact ⟨v, hu, hv⟩
        · rw [hjson] at hnot
          exact absurd hnot (by decide)
  | none =>
      have hnone : ∀ v, ¬ reader.Reads reader.limit s v := by
        intro v hv
        rw [hv.fromStr] at hread
        exact absurd hread (by simp)
      have hquoted : reader.Reads reader.limit ('"' :: (s ++ ['"'])) (.string s) ↔
          s.all Json.isPlain = true := by
        constructor
        · rintro ⟨w, htext, hw⟩
          obtain rfl := reader.string_of_value hw
          exact Json.isText_quoted.mp htext
        · intro hplain
          exact ⟨_, Json.isText_quoted.mpr hplain, reader.value_string _ _⟩
      simp only [Option.getD_none, SerdeReader.reads_string, exists_eq_right]
      split
      · rename_i hjson
        simp [hnone, hjson]
      · rename_i hjson
        simp [hnone, hjson, hquoted]

theorem sameEvent_iff {s : Str} {ackId : Option Int} {event : Event} {nsp : Str}
    {id : Option Int} :
    SameEvent reader s ackId event nsp id ↔
      event.asStr.all Json.isPlain = true ∧ Pasteable reader s := by
  have hvalue : SameEvent reader s ackId event nsp id ↔
      SameValue reader
        (some ('[' :: '"' :: (event.asStr ++ '"' :: ',' :: (pasted json s ++ [']']))))
        (some (json.toString (.array [.string event.asStr, reader.stringToValue s]))) := by
    rw [SameEvent, newFromPayload_string, SerdeReader.payload, Packet.newFromPayload,
      samePacket_iff]
    simp
  rw [hvalue, sameValue_iff, ← pasted_iff]
  constructor
  · rintro ⟨v, hv, hv'⟩
    obtain ⟨us, rfl, hus⟩ := SerdeReader.fromStr_print.mp hv'
    obtain ⟨name, us, hname, hrest, rfl⟩ := List.forall₂_cons_left_iff.mp hus
    obtain ⟨u, us, hu, hnil, rfl⟩ := List.forall₂_cons_left_iff.mp hrest
    obtain rfl := List.forall₂_nil_left_iff.mp hnil
    obtain rfl := SerdeReader.reads_string.mp hname
    obtain ⟨hplain, hpasted⟩ := SerdeReader.fromStr_pair.mp hv
    exact ⟨hplain, u, hpasted, hu⟩
  · rintro ⟨hplain, u, hpasted, hu⟩
    refine ⟨_, SerdeReader.fromStr_pair.mpr ⟨hplain, hpasted⟩, ?_⟩
    exact SerdeReader.fromStr_print.mpr
      ⟨_, rfl, .cons (SerdeReader.reads_string.mpr rfl) (.cons hu .nil)⟩

theorem sameAck_iff {s : Str} {ackId : Option Int} {nsp : Str} {id : Option Int} :
    SameAck reader s ackId nsp id ↔ Pasteable reader s := by
  have hvalue : SameAck reader s ackId nsp id ↔
      SameValue reader (some ('[' :: (pasted json s ++ [']'])))
        (some (json.toString (.array [reader.stringToValue s]))) := by
    rw [SameAck, ackFromPayload_string, SerdeReader.payload, Packet.ackFromPayload,
      samePacket_iff]
    simp
  rw [hvalue, sameValue_iff, ← pasted_iff]
  constructor
  · rintro ⟨v, hv, hv'⟩
    obtain ⟨us, rfl, hus⟩ := SerdeReader.fromStr_print.mp hv'
    obtain ⟨u, us, hu, hnil, rfl⟩ := List.forall₂_cons_left_iff.mp hus
    obtain rfl := List.forall₂_nil_left_iff.mp hnil
    exact ⟨u, SerdeReader.fromStr_singleton.mp hv, hu⟩
  · rintro ⟨u, hpasted, hu⟩
    exact ⟨_, SerdeReader.fromStr_singleton.mpr hpasted,
      SerdeReader.fromStr_print.mpr ⟨_, rfl, .cons hu .nil⟩⟩

/-- **When the string payload is equivalent to its replacement.**  In an event packet, neither the
name of the event may have a quote, a backslash or a control character, nor may the string, unless
it is JSON that can be read inside an array and printed without loss; in an ack packet, there is no
name. -/
theorem samePackets_iff (reader : SerdeReader json) (s : Str) (ackId : Option Int) :
    (∀ event nsp id, SameEvent reader s ackId event nsp id ↔
      event.asStr.all Json.isPlain = true ∧ Pasteable reader s) ∧
    ∀ nsp id, SameAck reader s ackId nsp id ↔ Pasteable reader s :=
  ⟨fun _ _ _ => sameEvent_iff, fun _ _ => sameAck_iff⟩

end Packets

/-! ## A reader of all JSON texts -/

section Texts

open Classical

/-- JSON whose numbers are their texts. -/
noncomputable def SerdeJson.texts : SerdeJson where
  Number := { text : Str // Json.IsNumber text }
  printNumber text := text
  fromNat n := ⟨Nat.toDigits 10 n, Json.isNumber_int (.inl rfl) (Json.isInt_toDigits n)⟩
  printNumber_fromNat _ := rfl
  isJson s := decide (∃ w, Json.IsText s w)
  isJson_print v := decide_eq_true ⟨_, Json.IsText.of_print (fun n => n.2) v⟩

/-- The value of a tree, arrays and objects to a depth. -/
noncomputable def textValue : Nat → Json.Value Str → Option SerdeJson.texts.Value
  | _, .null => some .null
  | _, .bool b => some (.bool b)
  | _, .number text => if h : Json.IsNumber text then some (.number ⟨text, h⟩) else none
  | _, .string x => some (.string x)
  | 0, .array _ => none
  | 0, .object _ => none
  | d + 1, .array ws => (ws.mapM (textValue d)).map .array
  | d + 1, .object fields =>
      (fields.mapM fun field => (textValue d field.2).map fun v => (field.1, v)).map .object

theorem textValue_succ {d : Nat} {w : Json.Value Str} {v : SerdeJson.texts.Value}
    (h : textValue d w = some v) : textValue (d + 1) w = some v := by
  induction d generalizing w v with
  | zero =>
      cases w with
      | array ws => simp [textValue] at h
      | object fields => simp [textValue] at h
      | _ => exact h
  | succ d ih =>
      cases w with
      | array ws =>
          rw [textValue, Option.map_eq_some_iff] at h ⊢
          obtain ⟨vs, hvs, rfl⟩ := h
          exact ⟨vs, mapM_eq_some.mpr ((mapM_eq_some.mp hvs).imp fun _ _ => ih), rfl⟩
      | object fields =>
          rw [textValue, Option.map_eq_some_iff] at h ⊢
          obtain ⟨vs, hvs, rfl⟩ := h
          refine ⟨vs, mapM_eq_some.mpr ((mapM_eq_some.mp hvs).imp ?_), rfl⟩
          rintro field v hv
          rw [Option.map_eq_some_iff] at hv ⊢
          obtain ⟨v, hv, rfl⟩ := hv
          exact ⟨v, ih hv, rfl⟩
      | _ => exact h

theorem textValue_string {d : Nat} {w : Json.Value Str} {x : Str}
    (h : textValue d w = some (.string x)) : w = .string x := by
  cases w with
  | string y =>
      obtain rfl : y = x := by simpa [textValue] using h
      rfl
  | number text =>
      rw [textValue] at h
      split at h <;> simp at h
  | array ws => cases d <;> simp [textValue] at h
  | object fields => cases d <;> simp [textValue] at h
  | _ => simp [textValue] at h

theorem textValue_array {d : Nat} {w : Json.Value Str} {vs : List SerdeJson.texts.Value}
    (h : textValue d w = some (.array vs)) : ∃ ws, w = .array ws := by
  cases w with
  | array ws => exact ⟨ws, rfl⟩
  | number text =>
      rw [textValue] at h
      split at h <;> simp at h
  | object fields => cases d <;> simp [textValue] at h
  | _ => simp [textValue] at h

/-- The reader of all JSON texts that nest at most 127 deep. -/
noncomputable def SerdeReader.texts : SerdeReader .texts where
  limit := 126
  value := textValue
  fromStr s := if h : ∃ w, Json.IsText s w then textValue 127 h.choose else none
  fromStr_eq_some := by
    intro s v
    constructor
    · intro h
      split at h
      · rename_i htext
        exact ⟨_, htext.choose_spec, h⟩
      · exact absurd h (by simp)
    · rintro ⟨w, htext, hw⟩
      have hex : ∃ w, Json.IsText s w := ⟨w, htext⟩
      rw [dif_pos hex, ← htext.unique hex.choose_spec]
      exact hw
  value_string d x := by cases d <;> rfl
  value_array d ws := rfl
  value_succ := textValue_succ
  string_of_value := textValue_string
  array_of_value := textValue_array
  isNumber n := n.2
  isJson_of_fromStr := by
    intro s v h
    split at h
    · rename_i htext
      exact decide_eq_true htext
    · exact absurd h (by simp)

/-- The quotes of a sentence are pasted as they are, and what is sent is no JSON. -/
theorem not_samePackets :
    ¬ ∀ (s : Str) (ackId : Option Int) (event : Event) (nsp : Str) (id : Option Int),
      SameEvent SerdeReader.texts s ackId event nsp id ∧
        SameAck SerdeReader.texts s ackId nsp id := by
  intro h
  have hpaste := sameAck_iff.mp (h "say \"hi\"".toList none (.custom "test".toList) ['/'] none).2
  rcases hpaste with ⟨v, ⟨w, ⟨s, rest, hs, hw, -⟩, -⟩, -⟩ | ⟨-, hplain⟩
  · obtain rfl := hs.eq_of_head (by decide)
    obtain ⟨text, -, htext, hsplit⟩ := hw.at_other (by decide)
    exact absurd (htext.head hsplit) (by decide)
  · exact absurd hplain (by decide)

end Texts

end TfSocketio.Socketio
