/-
# Socketio.BinaryDelivery — what becomes of the name and the arguments of a binary packet.

The decoder has no use for the JSON of a binary packet.  It strips the brackets, deletes the text of
placeholder 0 and drops a trailing comma; the handler deletes the quotes from what is left, takes
that for the event's name, and passes on the first attachment.  So there is one spelling of one
shape of array that works, `["name",{"_placeholder":true,"num":0}]` with nothing to escape in the
name (`Literal`).

That no other array works is a matter of length.  Between its quotes a name takes at least as many
characters as it has, and more if one of them is escaped (`RawName`).  Whatever else is left of the
array, a bracket, a space, a comma with something behind it, only adds to them.
-/
import TfSocketio.Lib.JsonGrammar
import TfSocketio.Socketio.Assembly
import TfSocketio.Socketio.Decoder
import TfSocketio.Socketio.Handlers

namespace TfSocketio.Socketio

open Engineio (Bytes)
open Text (Str)

/-! ## Placeholders -/

/-- An object with exactly the two fields of a placeholder, in either order. -/
def isPlaceholder {N : Type} : List (Str × Json.Value N) → Bool
  | [(key, .bool true), (key', .number _)] => key = "_placeholder".toList && key' = "num".toList
  | [(key, .number _), (key', .bool true)] => key = "num".toList && key' = "_placeholder".toList
  | _ => false

mutual

/-- How many placeholders a value has, at any depth. -/
def placeholders {N : Type} : Json.Value N → Nat
  | .array items => placeholdersIn items
  | .object fields => if isPlaceholder fields then 1 else placeholdersOf fields
  | _ => 0

def placeholdersIn {N : Type} : List (Json.Value N) → Nat
  | [] => 0
  | v :: vs => placeholders v + placeholdersIn vs

def placeholdersOf {N : Type} : List (Str × Json.Value N) → Nat
  | [] => 0
  | (_, v) :: fields => placeholders v + placeholdersOf fields

end

/-- The spelling the client understands. -/
def Literal (array name : Str) : Prop :=
  name.all Json.isPlain = true ∧
    array = '[' :: '"' :: (name ++ '"' :: ',' :: (placeholder 0 ++ [']']))

instance (array name : Str) : Decidable (Literal array name) :=
  inferInstanceAs (Decidable (_ ∧ _))

/-! ## Names -/

theorem lowercase_length (s : Str) : (lowercase s).length = s.length := List.length_map _

/-- Names of the same event differ at most in case. -/
theorem lowercase_eq_of_ofString {x y : Str} (h : Event.ofString x = Event.ofString y) :
    lowercase x = lowercase y := by
  simp only [Event.ofString] at h
  split_ifs at h <;> simp_all

theorem deleteQuotes_append (s t : Str) :
    deleteQuotes (s ++ t) = deleteQuotes s ++ deleteQuotes t := List.filter_append _ _

theorem deleteQuotes_of_notMem {s : Str} (h : '"' ∉ s) : deleteQuotes s = s := by
  rw [deleteQuotes, List.filter_eq_self]
  intro c hc
  simpa using ne_of_mem_of_not_mem hc h

/-- What a name is like between its quotes: it takes no fewer characters than it has, it survives
without its quotes only if nothing in it is escaped, and no placeholder is found in it or across its
closing quote. -/
structure RawName (raw name : Str) : Prop where
  length : name.length ≤ (deleteQuotes raw).length
  plain : lowercase (deleteQuotes raw) = lowercase name →
    raw = name ∧ name.all Json.isPlain = true
  kept : ∀ t : Str, t.head? ≠ some '_' →
    Text.removeAll (placeholder 0) (raw ++ '"' :: t) =
      raw ++ '"' :: Text.removeAll (placeholder 0) t

theorem RawName.nil : RawName [] [] where
  length := Nat.le_refl _
  plain _ := ⟨rfl, rfl⟩
  kept t ht := by
    exact removeAll_kept ['"'] (by decide) t

/-- A character that is written as it is. -/
theorem RawName.cons {c : Char} {raw name : Str} (hc : Json.isPlain c = true)
    (h : RawName raw name) (hraw : raw.head? ≠ some '"') : RawName (c :: raw) (c :: name) where
  length := by
    have hquote : c ≠ '"' := (Json.isPlain_ne hc).1
    have hlen := h.length
    simpa [deleteQuotes, hquote] using hlen
  plain heq := by
    have hquote : c ≠ '"' := (Json.isPlain_ne hc).1
    have htail : lowercase (deleteQuotes raw) = lowercase name := by
      simpa [deleteQuotes, lowercase, hquote] using heq
    obtain ⟨rfl, hplain⟩ := h.plain htail
    exact ⟨rfl, by simp [hc, hplain]⟩
  kept t ht := by
    have hprefix : ¬ placeholder 0 <+: c :: (raw ++ '"' :: t) := by
      cases raw with
      | nil =>
          by_cases hbrace : c = '{'
          · subst hbrace
            exact not_placeholder_prefix_quote ht
          · exact not_placeholder_prefix_of_ne (.inl hbrace)
      | cons d raw =>
          have hd : d ≠ '"' := by simpa using hraw
          exact not_placeholder_prefix_of_ne (.inr hd)
    rw [List.cons_append, Text.removeAll_cons_of_mismatch hprefix, h.kept t ht]
    rfl

/-- A character that is escaped without a quote: its escape is longer than it. -/
theorem RawName.append {escape : Str} {y : Char} {raw name : Str} (hbrace : '{' ∉ escape)
    (hquote : '"' ∉ escape) (hlong : 2 ≤ escape.length) (h : RawName raw name) :
    RawName (escape ++ raw) (y :: name) where
  length := by
    have hlen := h.length
    rw [deleteQuotes_append, deleteQuotes_of_notMem hquote, List.length_append, List.length_cons]
    omega
  plain heq := by
    have hlen := congrArg List.length heq
    have hraw := h.length
    rw [lowercase_length, lowercase_length, deleteQuotes_append, deleteQuotes_of_notMem hquote,
      List.length_append, List.length_cons] at hlen
    omega
  kept t ht := by
    rw [List.append_assoc, removeAll_kept _ hbrace, h.kept t ht, List.append_assoc]

/-- An escaped quote: what is left of it is the backslash. -/
theorem RawName.quote {raw name : Str} (h : RawName raw name) :
    RawName ('\\' :: '"' :: raw) ('"' :: name) where
  length := by
    have hlen := h.length
    simpa [deleteQuotes] using hlen
  plain heq := by
    have hhead := congrArg List.head? heq
    simp [deleteQuotes, lowercase] at hhead
  kept t ht := by
    rw [show '\\' :: '"' :: raw = ['\\', '"'] ++ raw from rfl, List.append_assoc,
      removeAll_kept ['\\', '"'] (by decide), h.kept t ht, List.append_assoc]

/-- Neither a quote nor a brace is a hexadecimal digit. -/
theorem notMem_of_hex {digits : Str} (h : ∀ c ∈ digits, (Json.hexValue? c).isSome) :
    '"' ∉ digits ∧ '{' ∉ digits := by
  constructor
  · intro hmem
    exact absurd (h _ hmem) (by decide)
  · intro hmem
    exact absurd (h _ hmem) (by decide)

/-- The text between the quotes of a string, and what it is like. -/
theorem rawName_of_chars {s name rest : Str} (h : Json.Chars s name rest) :
    ∃ raw, s = raw ++ '"' :: rest ∧ raw.head? ≠ some '"' ∧ RawName raw name := by
  induction h with
  | close rest => exact ⟨[], rfl, by simp, .nil⟩
  | @plain c s x rest hc h ih =>
      obtain ⟨raw, rfl, hhead, hraw⟩ := ih
      have hquote : c ≠ '"' := (Json.isPlain_ne hc).1
      exact ⟨c :: raw, rfl, by simpa using hquote, hraw.cons hc hhead⟩
  | @escape e y s x rest he h ih =>
      obtain ⟨raw, rfl, -, hraw⟩ := ih
      refine ⟨'\\' :: e :: raw, rfl, by simp, ?_⟩
      by_cases hquote : e = '"'
      · subst hquote
        obtain rfl : '"' = y := by simpa [Json.unescape?] using he
        exact hraw.quote
      · have hbrace : e ≠ '{' := by
          rintro rfl
          simp [Json.unescape?] at he
        have hescape : RawName (['\\', e] ++ raw) (y :: x) :=
          hraw.append (by simp [Ne.symm hbrace]) (by simp [Ne.symm hquote]) (by simp)
        exact hescape
  | @unicode a b c d y s x rest hy h ih =>
      obtain ⟨raw, rfl, -, hraw⟩ := ih
      obtain ⟨hquote, hbrace⟩ := notMem_of_hex (Json.hex_of_unicode hy)
      have hescape : RawName ('\\' :: 'u' :: [a, b, c, d] ++ raw) (y :: x) :=
        hraw.append (by simpa using hbrace) (by simpa using hquote) (by simp)
      exact ⟨_, rfl, by simp, hescape⟩
  | @surrogates a b c d e f g i y s x rest hy h ih =>
      obtain ⟨raw, rfl, -, hraw⟩ := ih
      obtain ⟨hquote, hbrace⟩ := notMem_of_hex (Json.hex_of_surrogates hy)
      have hescape : RawName
          ('\\' :: 'u' :: a :: b :: c :: d :: '\\' :: 'u' :: [e, f, g, i] ++ raw) (y :: x) :=
        hraw.append (by simpa using hbrace) (by simpa using hquote) (by simp)
      exact ⟨_, rfl, by simp, hescape⟩

/-! ## The array -/

/-- A value read from the text of placeholder 0 is that placeholder. -/
theorem derives_placeholder {v : Json.Value Str} {t rest : Str}
    (h : Json.Derives (.value v) (placeholder 0 ++ t) rest) :
    rest = t ∧
      v = .object [("_placeholder".toList, .bool true), ("num".toList, .number ['0'])] := by
  have htext : placeholder 0 ++ t = '{' :: '"' :: ("_placeholder".toList ++ '"' :: ':' :: 't' ::
      ('r' :: 'u' :: 'e' :: ',' :: '"' :: ("num".toList ++ '"' :: ':' :: '0' :: '}' :: t))) := by
    have hnum : Nat.toDigits 10 0 = ['0'] := rfl
    simp [placeholder, hnum]
  rw [htext] at h
  rcases h.at_brace with ⟨-, hempty⟩ | ⟨key, value, fields, s, rfl, hfield, hfields⟩
  · exact absurd (hempty.eq_of_head (by decide)) (by simp)
  · obtain ⟨rfl, hvalue⟩ := hfield.field_input rfl (by decide)
    obtain ⟨rfl, hs⟩ := hvalue.at_t
    obtain rfl := (by simpa using hs : _ = s)
    obtain ⟨key, value, fields, s, rfl, hfield, hfields⟩ := hfields.moreFields_comma
    have hzero : Json.isSpace '0' = false := by decide
    have hplain : "num".toList.all Json.isPlain = true := rfl
    obtain ⟨rfl, hvalue⟩ := hfield.field_input hplain hzero
    obtain ⟨rfl, rfl⟩ := hvalue.at_digit (by decide) (by decide)
    obtain ⟨rfl, rfl⟩ := hfields.moreFields_brace
    exact ⟨rfl, rfl⟩

/-- The items behind the name, where nothing but placeholders 0 is written up to the bracket: there
is one. -/
theorem tail_eq_placeholder {tail s s' : Str} {v : Json.Value Str} {vs : List (Json.Value Str)}
    (hs : Json.Spaces (tail ++ [']']) s) (hv : Json.Derives (.value v) s s')
    (hvs : Json.Derives (.more vs) s' []) (hnone : Text.removeAll (placeholder 0) tail = []) :
    tail = placeholder 0 ∧ vs = [] ∧
      v = .object [("_placeholder".toList, .bool true), ("num".toList, .number ['0'])] := by
  have hbrace : placeholder 0 = '{' :: (placeholder 0).tail := by decide
  rw [hbrace] at hnone
  rcases Text.removeAll_eq_nil hnone with rfl | ⟨more, rfl, hmore⟩
  · -- no item at all
    obtain rfl := hs.eq_of_head (by decide)
    exact absurd hv Json.Derives.not_bracket
  · rw [← hbrace, List.append_assoc] at hs
    obtain rfl : s = placeholder 0 ++ (more ++ [']']) := by
      rw [hbrace] at hs ⊢
      exact hs.eq_of_head (by decide)
    obtain ⟨rfl, hvalue⟩ := derives_placeholder hv
    rcases Text.removeAll_eq_nil hmore with rfl | ⟨more', rfl, -⟩
    · obtain ⟨-, hvs⟩ | hcomma := hvs.more_head (by decide)
      · exact ⟨by rw [← hbrace, List.append_nil], hvs, hvalue⟩
      · exact absurd hcomma (by decide)
    · -- a second placeholder, with no comma in between
      rcases hvs.more_head (by decide) with ⟨hbracket, -⟩ | hcomma
      · exact absurd hbracket (by decide)
      · exact absurd hcomma (by decide)

/-- An array of a name and more, character by character.  `lead`, `open`, `gap` and `trail` are the
spaces around the bracket, behind the name and at the end. -/
structure Layout (array name : Str) (items : List (Json.Value Str)) where
  lead : Str
  inside : Str
  raw : Str
  gap : Str
  tail : Str
  trail : Str
  text : array =
    lead ++ '[' :: (inside ++ '"' :: (raw ++ '"' :: (gap ++ ',' :: (tail ++ ']' :: trail))))
  spaces : ∀ c ∈ lead ++ (inside ++ (gap ++ trail)), Json.isSpace c = true
  name : RawName raw name
  items : ∃ v vs s s', items = v :: vs ∧ Json.Spaces (tail ++ ']' :: trail) s ∧
    Json.Derives (.value v) s s' ∧ Json.Derives (.more vs) s' trail

theorem exists_layout {array name : Str} {items : List (Json.Value Str)}
    (h : Json.IsText array (.array (.string name :: items))) (hpos : 1 ≤ placeholdersIn items) :
    Nonempty (Layout array name items) := by
  obtain ⟨s, rest, hlead, harray, htrail⟩ := h
  obtain ⟨lead, rfl, hleadSpaces⟩ := hlead.input
  obtain ⟨trail, hrest, htrailSpaces⟩ := htrail.input
  obtain rfl : rest = trail := by simpa using hrest
  cases harray with
  | array hinside hname hitems =>
      obtain ⟨inside, rfl, hinsideSpaces⟩ := hinside.input
      obtain ⟨chars, rfl, hchars⟩ := hname.string_input
      obtain ⟨raw, rfl, -, hraw⟩ := rawName_of_chars hchars
      cases hitems with
      | close => exact absurd hpos (by decide)
      | item hcomma hs hv hvs =>
          obtain ⟨gap, rfl, hgapSpaces⟩ := hcomma.input
          obtain ⟨spaces, rfl, -⟩ := id hs.input
          obtain ⟨used, rfl⟩ := id hv.input
          obtain ⟨used', rfl⟩ := id hvs.more_input
          refine ⟨⟨lead, inside, raw, gap, spaces ++ (used ++ used'), rest, by simp, ?_, hraw, ?_⟩⟩
          · intro c hc
            simp only [List.mem_append] at hc
            rcases hc with hc | hc | hc | hc
            · exact hleadSpaces c hc
            · exact hinsideSpaces c hc
            · exact hgapSpaces c hc
            · exact htrailSpaces c hc
          · refine ⟨_, _, _, _, rfl, ?_, hv, hvs⟩
            simpa using hs

/-! ## What is left of the array -/

/-- The text without its brackets, if it has both. -/
def innerText (payload : Str) : Str :=
  if payload.head? = some '[' ∧ payload.getLast? = some ']' then payload.tail.dropLast else payload

/-- The text without a comma at its end. -/
def trimComma (str : Str) : Str := if str.getLast? = some ',' then str.dropLast else str

theorem binaryData_trim (payload : Str) :
    binaryData payload =
      if trimComma (Text.removeAll (placeholder 0) (innerText payload)) = [] then none
      else some (trimComma (Text.removeAll (placeholder 0) (innerText payload))) := rfl

/-- A comma is dropped with nothing behind it, and kept with something behind it. -/
theorem trimComma_append (front back : Str) :
    ∃ kept, trimComma (front ++ ',' :: back) = front ++ kept ∧ (kept = [] → back = []) ∧
      (kept ≠ [] → kept.head? = some ',') := by
  cases hback : back.reverse with
  | nil =>
      obtain rfl : back = [] := by simpa using hback
      have hlast : (front ++ [',']).getLast? = some ',' := List.getLast?_concat
      exact ⟨[], by rw [trimComma, if_pos hlast, List.dropLast_concat, List.append_nil], by simp,
        by simp⟩
  | cons c init =>
      obtain rfl : back = init.reverse ++ [c] := by
        simpa using congrArg List.reverse hback
      have htext : front ++ ',' :: (init.reverse ++ [c]) =
          (front ++ ',' :: init.reverse) ++ [c] := by simp
      by_cases hc : c = ','
      · refine ⟨',' :: init.reverse, ?_, by simp, by simp⟩
        have hlast : ((front ++ ',' :: init.reverse) ++ [c]).getLast? = some ',' := by
          rw [List.getLast?_concat, hc]
        rw [htext, trimComma, if_pos hlast, List.dropLast_concat]
      · refine ⟨',' :: (init.reverse ++ [c]), ?_, by simp, by simp⟩
        have hlast : ((front ++ ',' :: init.reverse) ++ [c]).getLast? ≠ some ',' := by
          rw [List.getLast?_concat]
          simpa using hc
        rw [htext, trimComma, if_neg hlast]

theorem innerText_brackets (s : Str) : innerText ('[' :: (s ++ [']'])) = s := by
  have hlast : ('[' :: (s ++ [']'])).getLast? = some ']' := by
    rw [← List.cons_append]
    exact List.getLast?_concat
  rw [innerText, if_pos ⟨rfl, hlast⟩, List.tail_cons, List.dropLast_concat]

section Left

variable {array name : Str} {items : List (Json.Value Str)}

/-- Spaces are neither quotes nor braces. -/
theorem notMem_of_spaces {s : Str} (h : ∀ c ∈ s, Json.isSpace c = true) :
    '"' ∉ s ∧ '{' ∉ s ∧ s.head? ≠ some '_' := by
  refine ⟨fun hm => absurd (h _ hm) (by decide), fun hm => absurd (h _ hm) (by decide), ?_⟩
  intro hhead
  exact absurd (h _ (List.mem_of_mem_head? hhead)) (by decide)

/-- Without its brackets the text opens with the spaces in front of the name; with them, it opens
with more. -/
theorem Layout.innerText_eq (l : Layout array name items) :
    ∃ front back, innerText array = front ++ '"' :: (l.raw ++ '"' :: (l.gap ++ ',' :: back)) ∧
      '"' ∉ front ∧ '{' ∉ front ∧
      (front = [] → l.lead = [] ∧ l.inside = [] ∧ l.trail = [] ∧ back = l.tail) := by
  have hlead := notMem_of_spaces (s := l.lead) fun c hc => l.spaces c (by simp [hc])
  have hinside := notMem_of_spaces (s := l.inside) fun c hc => l.spaces c (by simp [hc])
  by_cases hboth : l.lead = [] ∧ l.trail = []
  · -- both brackets are stripped
    obtain ⟨hleadNil, htrailNil⟩ := hboth
    have htext : array =
        '[' :: ((l.inside ++ '"' :: (l.raw ++ '"' :: (l.gap ++ ',' :: l.tail))) ++ [']']) := by
      have htext := l.text
      simpa [hleadNil, htrailNil] using htext
    have hinner := (congrArg innerText htext).trans (innerText_brackets _)
    exact ⟨l.inside, l.tail, hinner, hinside.1, hinside.2.1, fun h => ⟨hleadNil, h, htrailNil, rfl⟩⟩
  · -- a space in front of the first bracket or behind the last: none is stripped
    have hnot : ¬ (array.head? = some '[' ∧ array.getLast? = some ']') := by
      rintro ⟨hhead, hlast⟩
      apply hboth
      have hfirst := (congrArg List.head? l.text).symm.trans hhead
      have hfinal := (congrArg List.getLast? l.text).symm.trans hlast
      constructor
      · by_contra hsome
        obtain ⟨c, cs, hl⟩ := List.exists_cons_of_ne_nil hsome
        have hc := l.spaces c (by simp [hl])
        obtain rfl : c = '[' := by simpa [hl] using hfirst
        exact absurd hc (by decide)
      · by_contra hsome
        have hc := l.spaces (l.trail.getLast hsome) (by simp [List.getLast_mem hsome])
        have hclose : l.trail.getLast hsome = ']' := by
          simpa [List.getLast?_append, List.getLast?_cons, List.getLast?_eq_some_getLast hsome]
            using hfinal
        rw [hclose] at hc
        exact absurd hc (by decide)
    have hinner : innerText array = array := by rw [innerText, if_neg hnot]
    refine ⟨l.lead ++ '[' :: l.inside, l.tail ++ ']' :: l.trail, ?_, ?_, ?_, ?_⟩
    · rw [hinner]
      simpa using l.text
    · simp [hlead.1, hinside.1]
    · simp [hlead.2.1, hinside.2.1]
    · intro hnil
      simp at hnil

/-- What the decoder leaves of the array: the name with its quotes, and more. -/
theorem Layout.binaryData_eq (l : Layout array name items) :
    ∃ front kept, binaryData array =
        some (front ++ '"' :: (l.raw ++ '"' :: (l.gap ++ kept))) ∧ '"' ∉ front ∧
      (front = [] → deleteQuotes kept = [] → l.lead = [] ∧ l.inside = [] ∧ l.trail = [] ∧
        Text.removeAll (placeholder 0) l.tail = []) := by
  obtain ⟨front, back, hinner, hquote, hbrace, hfront⟩ := l.innerText_eq
  have hgap := notMem_of_spaces (s := l.gap) fun c hc => l.spaces c (by simp [hc])
  have hhead : (l.gap ++ ',' :: back).head? ≠ some '_' := by
    rw [List.head?_append]
    cases hg : l.gap.head? with
    | none => simp
    | some c => simpa [hg] using hgap.2.2
  have hremove : Text.removeAll (placeholder 0) (innerText array) =
      (front ++ '"' :: (l.raw ++ '"' :: l.gap)) ++
        ',' :: Text.removeAll (placeholder 0) back := by
    have hfrontKept : '{' ∉ front ++ ['"'] := by simp [hbrace]
    have hgapKept : '{' ∉ l.gap ++ [','] := by simp [hgap.2.1]
    have hname := l.name.kept _ hhead
    rw [hinner]
    rw [show front ++ '"' :: (l.raw ++ '"' :: (l.gap ++ ',' :: back)) =
      (front ++ ['"']) ++ (l.raw ++ '"' :: ((l.gap ++ [',']) ++ back)) by simp]
    rw [show l.gap ++ ',' :: back = (l.gap ++ [',']) ++ back by simp] at hname
    rw [removeAll_kept _ hfrontKept, hname, removeAll_kept _ hgapKept]
    simp
  obtain ⟨kept, htrim, hnone, hcomma⟩ :=
    trimComma_append (front ++ '"' :: (l.raw ++ '"' :: l.gap))
      (Text.removeAll (placeholder 0) back)
  rw [← hremove] at htrim
  have hne : trimComma (Text.removeAll (placeholder 0) (innerText array)) ≠ [] := by
    rw [htrim]
    simp
  refine ⟨front, kept, ?_, hquote, ?_⟩
  · rw [binaryData_trim, if_neg hne, htrim]
    simp
  · intro hfrontNil hkept
    obtain ⟨hlead, hinside, htrail, rfl⟩ := hfront hfrontNil
    have hkeptNil : kept = [] := by
      by_contra hsome
      obtain ⟨c, cs, rfl⟩ := List.exists_cons_of_ne_nil hsome
      obtain rfl : c = ',' := by simpa using hcomma hsome
      simp [deleteQuotes] at hkept
    exact ⟨hlead, hinside, htrail, hnone hkeptNil⟩

/-- The event's own name is what is left only of the one spelling. -/
theorem Layout.literal (l : Layout array name items) {packet : Packet}
    (hdata : packet.data = binaryData array) (hevent : binaryEventOf packet = Event.ofString name) :
    Literal array name ∧ ∃ v, items = [v] ∧ placeholders v = 1 := by
  obtain ⟨front, kept, hleft, hfront, hnone⟩ := l.binaryData_eq
  have hgap := notMem_of_spaces (s := l.gap) fun c hc => l.spaces c (by simp [hc])
  have hname : lowercase (deleteQuotes (front ++ '"' :: (l.raw ++ '"' :: (l.gap ++ kept)))) =
      lowercase name := by
    rw [hleft] at hdata
    simp only [binaryEventOf, hdata] at hevent
    exact lowercase_eq_of_ofString hevent
  have hquotes : deleteQuotes (front ++ '"' :: (l.raw ++ '"' :: (l.gap ++ kept))) =
      front ++ (deleteQuotes l.raw ++ (l.gap ++ deleteQuotes kept)) := by
    have hcons : ∀ s : Str, deleteQuotes ('"' :: s) = deleteQuotes s := fun s => rfl
    simp only [deleteQuotes_append, hcons, deleteQuotes_of_notMem hfront,
      deleteQuotes_of_notMem hgap.1]
  rw [hquotes] at hname
  -- the name is at least as long without the rest
  have hlength : front.length + (l.gap.length + (deleteQuotes kept).length) = 0 := by
    have hlen := congrArg List.length hname
    have hraw := l.name.length
    simp only [lowercase_length, List.length_append] at hlen
    omega
  have hfrontNil : front = [] := List.eq_nil_of_length_eq_zero (by omega)
  have hgapNil : l.gap = [] := List.eq_nil_of_length_eq_zero (by omega)
  have hkeptNil : deleteQuotes kept = [] := List.eq_nil_of_length_eq_zero (by omega)
  obtain ⟨hlead, hinside, htrail, htail⟩ := hnone hfrontNil hkeptNil
  rw [hfrontNil, hgapNil, hkeptNil] at hname
  simp only [List.nil_append, List.append_nil] at hname
  obtain ⟨hraw, hplain⟩ := l.name.plain hname
  obtain ⟨v, vs, s, s', hitems, hs, hv, hvs⟩ := l.items
  rw [htrail] at hs hvs
  obtain ⟨htailText, hvsNil, hvalue⟩ := tail_eq_placeholder hs hv hvs htail
  have htext := l.text
  rw [hlead, hinside, hgapNil, htrail, htailText, hraw] at htext
  exact ⟨⟨hplain, htext⟩, v, by rw [hitems, hvsNil], by rw [hvalue]; rfl⟩

end Left

/-- Of that spelling the name is left. -/
theorem binaryEventOf_literal (json : SerdeJson) {array name : Str} (h : Literal array name)
    {packet : Packet} (hdata : packet.data = binaryData array) :
    binaryEventOf packet = Event.ofString name := by
  obtain ⟨hplain, rfl⟩ := h
  have hname : json.toString (.string name) = '"' :: (name ++ ['"']) := by
    simp [SerdeJson.toString, Json.print, Json.printString, Json.escape_of_plain hplain]
  have hquote : '"' ∉ name := by
    intro hmem
    exact absurd (List.all_eq_true.mp hplain _ hmem) (by decide)
  have hleft : packet.data = some ('"' :: (name ++ ['"'])) := by
    have hevent := binaryData_event json name
    rw [hname] at hevent
    rw [hdata, ← hevent]
    simp
  have hdelete : deleteQuotes ('"' :: (name ++ ['"'])) = name := by
    show deleteQuotes (name ++ ['"']) = name
    rw [deleteQuotes_append, deleteQuotes_of_notMem hquote]
    exact List.append_nil name
  rw [binaryEventOf, hleft]
  show Event.ofString (deleteQuotes ('"' :: (name ++ ['"']))) = Event.ofString name
  rw [hdelete]

/-! ## Reception -/

/-- The text of a binary packet with `n` attachments: its type, the count, a namespace or none, an
id or none, and an array. -/
structure BinaryText (t : PacketId) (n : Nat) (nsp digits array text : Str) : Prop where
  text : ∃ payload, text = t.toChar :: (Nat.toDigits 10 n ++ '-' :: payload) ∧
    NspText payload nsp (digits ++ array)
  digits : ∀ c ∈ digits, c.isDigit

/-- What the socket of either client hands out for a text and the attachments behind it. -/
def received (json : SerdeJson) (flavour : Flavour) (text : Str) (attachments : List Bytes) :
    Async.Streamed Packet :=
  let header : Engineio.Packet := ⟨.message, Text.utf8 text⟩
  let arrivals := attachments.map fun data => Arrival.packet ⟨.messageBinary, data⟩
  match flavour with
  | .sync => .returned (handleEngineioPacket json header (arrivals.map Arrival.polled)).1
  | .async => (Async.handleEngineioPacket json header (arrivals.map Arrival.streamed)).1

section Received

variable {json : SerdeJson} {t : PacketId} {nsp digits array text : Str}
  {attachments : List Bytes} {packet : Packet}

/-- Nothing ends while the attachments arrive, so the sockets agree. -/
theorem received_async (text : Str) (attachments : List Bytes) :
    received json .async text attachments = received json .sync text attachments := by
  have hopen : Arrival.ended ∉
      attachments.map fun data => Arrival.packet ⟨.messageBinary, data⟩ := by simp
  obtain ⟨outcome, rest, -, hsync, hasync⟩ :=
    @handleEngineioPacket_streamed json ⟨.message, Text.utf8 text⟩ _ fun _ _ =>
      not_endsInside hopen
  simp only [received, hsync, hasync]

/-- The packet either socket hands out has all its attachments. -/
theorem received_iff (htext : BinaryText t attachments.length nsp digits array text)
    (ht : t.isBinary = true) (harray : ∃ c cs, array = c :: cs ∧ c.isDigit = false)
    (hne : attachments ≠ []) (flavour : Flavour) :
    received json flavour text attachments = .returned (.ok packet) ↔
      attachments.length < 256 ∧ decimal digits < 2 ^ 31 ∧ json.isJson array ∧
        (⟨t, nsp, binaryData array, if digits = [] then none else some (decimal digits),
          UInt8.ofNat attachments.length, some attachments⟩ : Packet) = packet := by
  obtain ⟨payload, rfl, hnsp⟩ := htext.text
  obtain ⟨c, cs, rfl, hc⟩ := harray
  have hlongest : ∀ d ∈ (c :: cs).head?, d.isDigit = false := by
    rintro d hd
    obtain rfl := Option.some.inj hd
    exact hc
  have hdecode : ∀ p, Packet.tryFrom json (Text.utf8 _) = .ok p ↔ _ := fun p =>
    @Packet.tryFrom_binary json p t ht attachments.length payload nsp digits (c :: cs) hnsp
      htext.digits hlongest (by simp)
  have hsync : received json flavour
        (t.toChar :: (Nat.toDigits 10 attachments.length ++ '-' :: payload)) attachments =
      received json .sync
        (t.toChar :: (Nat.toDigits 10 attachments.length ++ '-' :: payload)) attachments := by
    cases flavour with
    | sync => rfl
    | async => exact received_async _ _
  rw [hsync]
  simp only [received, handleEngineioPacket]
  cases htry : Packet.tryFrom json
      (Text.utf8 (t.toChar :: (Nat.toDigits 10 attachments.length ++ '-' :: payload))) with
  | error e =>
      simp only [Async.Streamed.returned.injEq, reduceCtorEq, false_iff]
      rintro ⟨hn, hfit, hjson, -⟩
      rw [(hdecode _).mpr ⟨hn, hfit, hjson, rfl⟩] at htry
      simp at htry
  | ok decoded =>
      obtain ⟨hn, hfit, hjson, rfl⟩ := (hdecode decoded).mp htry
      have hcount : (UInt8.ofNat attachments.length).toNat = attachments.length := by
        rw [UInt8.toNat_ofNat']
        omega
      have hpos : 0 < UInt8.ofNat attachments.length := by
        rw [UInt8.lt_iff_toNat_lt, hcount]
        exact List.length_pos_of_ne_nil hne
      have harrive : (attachments.map fun data => Arrival.packet ⟨.messageBinary, data⟩).map
          Arrival.polled = arriving (attachments.map fun data => ⟨.messageBinary, data⟩) ++ [] := by
        simp [arriving, Arrival.polled]
      simp only [hpos, if_true, hcount, harrive, collectAttachments_arriving, Polled.map_ok,
        Async.Streamed.returned.injEq, Polled.ok.injEq, hn, hfit, hjson, true_and]

/-- The handler takes the first attachment. -/
theorem handleBinaryEvent_eq {first : Bytes} {rest : List Bytes}
    (h : packet.attachments = some (first :: rest)) (callbacks : Callbacks) :
    handleBinaryEvent callbacks packet =
      (callback callbacks (binaryEventOf packet) (.binary first packet.id) packet.id :
        List (Call json)) := by
  rw [handleBinaryEvent, h]

/-- An array opens with a bracket or with a space. -/
theorem Layout.head {name : Str} {items : List (Json.Value Str)} (l : Layout array name items) :
    ∃ c cs, array = c :: cs ∧ c.isDigit = false := by
  cases hlead : l.lead with
  | nil => exact ⟨'[', _, by rw [← List.nil_append ('[' :: _), ← hlead]; exact l.text, by decide⟩
  | cons c cs =>
      refine ⟨c, _, by rw [← List.cons_append, ← hlead]; exact l.text, ?_⟩
      have hspace := l.spaces c (by simp [hlead])
      simp only [Json.isSpace, Bool.or_eq_true, decide_eq_true_eq] at hspace
      rcases hspace with ((rfl | rfl) | rfl) | rfl <;> decide

/-- Either client receives the text with any `n` attachments, and invokes the callbacks of the
event. -/
def DispatchedAs (json : SerdeJson) (text nsp : Str) (n : Nat) (event : Event) : Prop :=
  ∀ (flavour : Flavour) (attachments : List Bytes), attachments.length = n →
    ∃ packet, received json flavour text attachments = .returned (.ok packet) ∧
      packet.nsp = nsp ∧ ∀ callbacks : Callbacks, ∃ payload : Payload json,
        handleBinaryEvent callbacks packet = callback callbacks event payload packet.id

/-- The callbacks that are invoked are those of one event only. -/
theorem callback_inj {event event' : Event} {payload payload' : Payload json} {id : Option Int}
    (h : callback ⟨fun _ => true, true⟩ event payload id =
      callback ⟨fun _ => true, true⟩ event' payload' id) : event = event' := by
  have hhead := congrArg List.head? h
  simp only [callback, if_true, List.singleton_append, List.head?_cons, Option.some.injEq,
    Call.on.injEq] at hhead
  exact hhead.1

end Received

section Dispatched

variable {json : SerdeJson} {n : Nat} {nsp digits array name text : Str}
  {items : List (Json.Value Str)}

/-- The spelling is the compact text of a name and a placeholder. -/
theorem Literal.isJson (h : Literal array name) : json.isJson array = true := by
  obtain ⟨hplain, rfl⟩ := h
  have hprint := json.isJson_print (.array [.string name, placeholderValue json 0])
  have htext := toString_binaryEvent json name 0
  have hname : json.toString (.string name) = '"' :: (name ++ ['"']) := by
    simp [SerdeJson.toString, Json.print, Json.printString, Json.escape_of_plain hplain]
  rw [hname] at htext
  rw [SerdeJson.toString] at htext
  rw [htext] at hprint
  simpa using hprint

/-- Only the one spelling is dispatched under its own name. -/
theorem DispatchedAs.literal (h : DispatchedAs json text nsp n (Event.ofString name))
    (htext : BinaryText .binaryEvent n nsp digits array text)
    (harray : Json.IsText array (.array (.string name :: items))) (hn : placeholdersIn items = n)
    (hpos : 1 ≤ n) : decimal digits < 2 ^ 31 ∧ Literal array name := by
  obtain ⟨l⟩ := exists_layout harray (hn ▸ hpos)
  obtain ⟨m, rfl⟩ := Nat.exists_eq_add_of_le' hpos
  obtain ⟨packet, hreceived, -, hcalls⟩ := h .sync (List.replicate (m + 1) []) (by simp)
  rw [received_iff (by simpa using htext) rfl l.head (by simp)] at hreceived
  obtain ⟨-, hfit, -, rfl⟩ := hreceived
  obtain ⟨payload, hcall⟩ := hcalls ⟨fun _ => true, true⟩
  rw [handleBinaryEvent_eq rfl] at hcall
  exact ⟨hfit, (l.literal rfl (callback_inj hcall)).1⟩

/-- The one spelling has one attachment, and either client receives it. -/
theorem Literal.received (json : SerdeJson) (hliteral : Literal array name)
    (hfit : decimal digits < 2 ^ 31)
    (htext : BinaryText .binaryEvent n nsp digits array text)
    (harray : Json.IsText array (.array (.string name :: items))) (hn : placeholdersIn items = n)
    (hpos : 1 ≤ n) :
    (∃ v, items = [v] ∧ placeholders v = 1) ∧
      ∀ (flavour : Flavour) (attachments : List Bytes), attachments.length = n →
        ∃ first, attachments = [first] ∧ ∃ packet : Packet,
          Socketio.received json flavour text attachments = .returned (.ok packet) ∧
          packet.nsp = nsp ∧ packet.attachments = some [first] ∧
          binaryEventOf packet = Event.ofString name := by
  have hevent := fun packet => @binaryEventOf_literal json array name hliteral packet
  obtain ⟨l⟩ := exists_layout harray (hn ▸ hpos)
  let packet : Packet := ⟨.binaryEvent, nsp, binaryData array, none, 0, none⟩
  have hdata : packet.data = binaryData array := rfl
  obtain ⟨-, v, rfl, hv⟩ := l.literal hdata (hevent packet hdata)
  refine ⟨⟨v, rfl, hv⟩, ?_⟩
  rintro flavour attachments rfl
  have hone : attachments.length = 1 := by
    rw [← hn, placeholdersIn, placeholdersIn, hv]
  obtain ⟨first, rfl⟩ := List.length_eq_one_iff.mp hone
  exact ⟨first, rfl, _, (received_iff htext rfl l.head (by simp) flavour).mpr
    ⟨by simp, hfit, hliteral.isJson, rfl⟩, rfl, rfl, hevent _ rfl⟩

/-- **Under its own name.**  A binary event is dispatched under its own name exactly when its id is
an `i32` and its array is the one spelling: the name without escapes, and placeholder 0. -/
theorem dispatchedAs_iff (htext : BinaryText .binaryEvent n nsp digits array text)
    (harray : Json.IsText array (.array (.string name :: items))) (hn : placeholdersIn items = n)
    (hpos : 1 ≤ n) :
    DispatchedAs json text nsp n (Event.ofString name) ↔
      decimal digits < 2 ^ 31 ∧ Literal array name := by
  constructor
  · intro h
    exact h.literal htext harray hn hpos
  · rintro ⟨hfit, hliteral⟩ flavour attachments hlength
    have hall := (hliteral.received json hfit htext harray hn hpos).2 flavour attachments hlength
    obtain ⟨first, rfl, packet, hreceived, hnsp, hfirst, hevent⟩ := hall
    refine ⟨packet, hreceived, hnsp, ?_⟩
    intro callbacks
    refine ⟨.binary first packet.id, ?_⟩
    rw [handleBinaryEvent_eq hfirst, hevent]

end Dispatched

/-- The text of an event in the one spelling, and one with a further argument. -/
def plainText : Str := "51-[\"a\",".toList ++ (placeholder 0 ++ [']'])

def furtherText : Str := "51-[\"a\",1,".toList ++ (placeholder 0 ++ [']'])

/-- A text of the default namespace. -/
theorem binaryText_of_default {t : PacketId} {n : Nat} {digits array : Str}
    (hd : digits.all Char.isDigit = true) (hhead : (digits ++ array).head? ≠ some '/') :
    BinaryText t n ['/'] digits array
      (t.toChar :: (Nat.toDigits 10 n ++ '-' :: (digits ++ array))) where
  text := ⟨digits ++ array, rfl, .default hhead⟩
  digits := List.all_eq_true.mp hd

theorem plainText_reads :
    BinaryText .binaryEvent 1 ['/'] [] (plainText.drop 3) plainText ∧
      Json.IsText (plainText.drop 3)
        (.array [.string ['a'], (placeholderValue .integers 0).mapNumber Text.printInt]) := by
  constructor
  · exact binaryText_of_default (by decide) (by decide)
  · have hprint : Json.print Text.printInt (.array [.string ['a'], placeholderValue .integers 0]) =
        plainText.drop 3 := toString_binaryEvent .integers ['a'] 0
    rw [← hprint]
    exact Json.IsText.of_print Json.isNumber_printInt _

theorem furtherText_reads :
    BinaryText .binaryEvent 1 ['/'] [] (furtherText.drop 3) furtherText ∧
      Json.IsText (furtherText.drop 3)
        (.array [.string ['a'], .number ['1'],
          (placeholderValue .integers 0).mapNumber Text.printInt]) := by
  constructor
  · exact binaryText_of_default (by decide) (by decide)
  · have hprint : Json.print Text.printInt
        (.array [.string ['a'], .number 1, placeholderValue .integers 0]) = furtherText.drop 3 := by
      decide
    rw [← hprint]
    exact Json.IsText.of_print Json.isNumber_printInt _

theorem dispatchedAs_plain : DispatchedAs .integers plainText ['/'] 1 (Event.ofString ['a']) := by
  obtain ⟨htext, harray⟩ := plainText_reads
  exact (dispatchedAs_iff htext harray rfl (by decide)).mpr ⟨by decide, by decide⟩

/-- With a further argument behind its name, the event is dispatched as `a,1`. -/
theorem not_dispatchedAs_further :
    ¬ ∀ (json : SerdeJson) (n : Nat) (nsp digits array name text : Str)
      (items : List (Json.Value Str)), BinaryText .binaryEvent n nsp digits array text →
      Json.IsText array (.array (.string name :: items)) → placeholdersIn items = n → 1 ≤ n →
      DispatchedAs json text nsp n (Event.ofString name) := by
  intro hall
  obtain ⟨htext, harray⟩ := furtherText_reads
  have hdispatched := hall .integers _ _ _ _ _ _ _ htext harray rfl (by decide)
  exact absurd (hdispatched.literal htext harray rfl (by decide)).2 (by decide)

end TfSocketio.Socketio
