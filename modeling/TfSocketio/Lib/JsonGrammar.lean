/-
# JSON texts as a grammar.

`Derives` is the grammar of JSON, white space and every form of escape included, as a relation
between a part of a value, the text it is read from and the text behind it; the value of a number is
its text.  A text in its compact spelling is one of many that derive a value.

The facts below say where a derivation can go at a given character.  They serve a reader who looks
at a text character by character: `Derives.cut` cuts off what a part was read from, `Chars.raw` what
a string was read from, and `Chars.plain_input`, `Derives.at_quote` and the like follow a known text
through the grammar.
-/
import TfSocketio.Lib.Json

namespace Json

open Text

/-! ## Spaces, strings and numbers -/

/-- White space, and the text behind it. -/
inductive Spaces : Str → Str → Prop
  | nil (s : Str) : Spaces s s
  | cons {c : Char} {s rest : Str} (hc : isSpace c) (h : Spaces s rest) : Spaces (c :: s) rest

/-- The character of a pair of surrogate escapes. -/
def surrogates? (a b c d e f g h : Char) : Option Char :=
  match hexValue? a, hexValue? b, hexValue? c, hexValue? d,
      hexValue? e, hexValue? f, hexValue? g, hexValue? h with
  | some a, some b, some c, some d, some e, some f, some g, some h =>
      let high := a * 4096 + b * 256 + c * 16 + d
      let low := e * 4096 + f * 256 + g * 16 + h
      if 0xD800 ≤ high ∧ high < 0xDC00 ∧ 0xDC00 ≤ low ∧ low < 0xE000 then
        some (Char.ofNat (0x10000 + (high - 0xD800) * 0x400 + (low - 0xDC00)))
      else none
  | _, _, _, _, _, _, _, _ => none

/-- The text behind the opening quote of a string, its characters, and the text behind its closing
quote. -/
inductive Chars : Str → Str → Str → Prop
  | close (rest : Str) : Chars ('"' :: rest) [] rest
  | plain {c : Char} {s x rest : Str} (hc : isPlain c) (h : Chars s x rest) :
      Chars (c :: s) (c :: x) rest
  | escape {e y : Char} {s x rest : Str} (he : unescape? e = some y) (h : Chars s x rest) :
      Chars ('\\' :: e :: s) (y :: x) rest
  | unicode {a b c d y : Char} {s x rest : Str} (hy : unicode? a b c d = some y)
      (h : Chars s x rest) : Chars ('\\' :: 'u' :: a :: b :: c :: d :: s) (y :: x) rest
  | surrogates {a b c d e f g i y : Char} {s x rest : Str}
      (hy : surrogates? a b c d e f g i = some y) (h : Chars s x rest) :
      Chars ('\\' :: 'u' :: a :: b :: c :: d :: '\\' :: 'u' :: e :: f :: g :: i :: s) (y :: x) rest

def IsDigits (s : Str) : Prop := s ≠ [] ∧ ∀ c ∈ s, c.isDigit

/-- The integer part of a number: `0`, or digits without a leading zero. -/
def IsInt (s : Str) : Prop :=
  s = ['0'] ∨ ∃ d ds, s = d :: ds ∧ d.isDigit ∧ d ≠ '0' ∧ ∀ c ∈ ds, c.isDigit

def IsFraction (s : Str) : Prop := s = [] ∨ ∃ ds, s = '.' :: ds ∧ IsDigits ds

def IsExponent (s : Str) : Prop :=
  s = [] ∨ ∃ e sign ds, s = e :: (sign ++ ds) ∧ (e = 'e' ∨ e = 'E') ∧
    (sign = [] ∨ sign = ['+'] ∨ sign = ['-']) ∧ IsDigits ds

def IsNumber (s : Str) : Prop :=
  ∃ sign int fraction exponent, s = sign ++ (int ++ (fraction ++ exponent)) ∧
    (sign = [] ∨ sign = ['-']) ∧ IsInt int ∧ IsFraction fraction ∧ IsExponent exponent

/-! ## Values -/

/-- A part of a value: the whole, the items of an array behind one of them, a field of an object, or
the fields behind one of them. -/
inductive Part where
  | value (v : Value Str)
  | more (items : List (Value Str))
  | field (key : Str) (v : Value Str)
  | moreFields (fields : List (Str × Value Str))

/-- A part, the text it is read from, and the text behind it. -/
inductive Derives : Part → Str → Str → Prop
  | null (rest : Str) : Derives (.value .null) ('n' :: 'u' :: 'l' :: 'l' :: rest) rest
  | boolTrue (rest : Str) : Derives (.value (.bool true)) ('t' :: 'r' :: 'u' :: 'e' :: rest) rest
  | boolFalse (rest : Str) :
      Derives (.value (.bool false)) ('f' :: 'a' :: 'l' :: 's' :: 'e' :: rest) rest
  | number {text : Str} (h : IsNumber text) (rest : Str) :
      Derives (.value (.number text)) (text ++ rest) rest
  | string {s x rest : Str} (h : Chars s x rest) : Derives (.value (.string x)) ('"' :: s) rest
  | emptyArray {s rest : Str} (h : Spaces s (']' :: rest)) :
      Derives (.value (.array [])) ('[' :: s) rest
  | array {s s' s'' rest : Str} {v : Value Str} {vs : List (Value Str)} (hs : Spaces s s')
      (hv : Derives (.value v) s' s'') (hvs : Derives (.more vs) s'' rest) :
      Derives (.value (.array (v :: vs))) ('[' :: s) rest
  | close {s rest : Str} (h : Spaces s (']' :: rest)) : Derives (.more []) s rest
  | item {s s' s'' s''' rest : Str} {v : Value Str} {vs : List (Value Str)}
      (hcomma : Spaces s (',' :: s')) (hs : Spaces s' s'') (hv : Derives (.value v) s'' s''')
      (hvs : Derives (.more vs) s''' rest) : Derives (.more (v :: vs)) s rest
  | emptyObject {s rest : Str} (h : Spaces s ('}' :: rest)) :
      Derives (.value (.object [])) ('{' :: s) rest
  | object {s s' rest key : Str} {v : Value Str} {fields : List (Str × Value Str)}
      (hfield : Derives (.field key v) s s') (hfields : Derives (.moreFields fields) s' rest) :
      Derives (.value (.object ((key, v) :: fields))) ('{' :: s) rest
  | field {s s₁ s₂ s₃ s₄ rest key : Str} {v : Value Str} (hquote : Spaces s ('"' :: s₁))
      (hkey : Chars s₁ key s₂) (hcolon : Spaces s₂ (':' :: s₃)) (hs : Spaces s₃ s₄)
      (hv : Derives (.value v) s₄ rest) : Derives (.field key v) s rest
  | closeObject {s rest : Str} (h : Spaces s ('}' :: rest)) : Derives (.moreFields []) s rest
  | moreField {s s' s'' rest key : Str} {v : Value Str} {fields : List (Str × Value Str)}
      (hcomma : Spaces s (',' :: s')) (hfield : Derives (.field key v) s' s'')
      (hfields : Derives (.moreFields fields) s'' rest) :
      Derives (.moreFields ((key, v) :: fields)) s rest

/-- A text is a JSON text of a value. -/
def IsText (text : Str) (v : Value Str) : Prop :=
  ∃ s rest, Spaces text s ∧ Derives (.value v) s rest ∧ Spaces rest []

/-! ## What stands in front of the rest -/

theorem Spaces.input {s rest : Str} (h : Spaces s rest) :
    ∃ spaces, s = spaces ++ rest ∧ ∀ c ∈ spaces, isSpace c = true := by
  induction h with
  | nil s => exact ⟨[], rfl, by simp⟩
  | @cons c s rest hc h ih =>
      obtain ⟨spaces, rfl, hspaces⟩ := ih
      exact ⟨c :: spaces, rfl, by simpa using ⟨hc, hspaces⟩⟩

/-- At a character that is no space, there is no space. -/
theorem Spaces.eq_of_head {c : Char} {s rest : Str} (hc : isSpace c = false)
    (h : Spaces (c :: s) rest) : rest = c :: s := by
  cases h with
  | nil => rfl
  | cons hc' h => simp [hc] at hc'

theorem Spaces.cut {s rest : Str} (h : Spaces s rest) :
    ∃ used, s = used ++ rest ∧ ∀ t, Spaces (used ++ t) t := by
  induction h with
  | nil s => exact ⟨[], rfl, .nil⟩
  | cons hc h ih =>
      obtain ⟨used, rfl, hused⟩ := ih
      exact ⟨_ :: used, rfl, fun t => .cons hc (hused t)⟩

theorem Spaces.trans {s s' s'' : Str} (h : Spaces s s') (h' : Spaces s' s'') : Spaces s s'' := by
  induction h with
  | nil => exact h'
  | cons hc h ih => exact .cons hc (ih h')

theorem isPlain_ne {c : Char} (h : isPlain c = true) : c ≠ '"' ∧ c ≠ '\\' := by
  constructor
  · rintro rfl
    exact absurd h (by decide)
  · rintro rfl
    exact absurd h (by decide)

/-- The text of a string without escapes is read to its closing quote. -/
theorem Chars.plain_input {w t x rest : Str} (hw : w.all isPlain = true)
    (h : Chars (w ++ '"' :: t) x rest) : x = w ∧ rest = t := by
  induction w generalizing x with
  | nil =>
      cases h with
      | close => exact ⟨rfl, rfl⟩
      | plain hc => exact absurd hc (by decide)
  | cons c w ih =>
      rw [List.all_cons, Bool.and_eq_true] at hw
      obtain ⟨hquote, hslash⟩ := isPlain_ne hw.1
      rw [List.cons_append] at h
      generalize htail : w ++ '"' :: t = tail at h
      cases h with
      | close => exact absurd rfl hquote
      | plain hc h =>
          subst htail
          obtain ⟨rfl, rfl⟩ := ih hw.2 h
          exact ⟨rfl, rfl⟩
      | escape => exact absurd rfl hslash
      | unicode => exact absurd rfl hslash
      | surrogates => exact absurd rfl hslash

/-! ## The text of a string -/

theorem hex_inside {c : Char} (h : (hexValue? c).isSome) : c ≠ '"' ∧ c ≠ '\\' := by
  constructor
  · rintro rfl
    exact absurd h (by decide)
  · rintro rfl
    exact absurd h (by decide)

theorem hex_of_unicode {a b c d y : Char} (h : unicode? a b c d = some y) :
    ∀ x ∈ [a, b, c, d], (hexValue? x).isSome := by
  unfold unicode? at h
  split at h
  · simp_all
  · simp at h

theorem hex_of_surrogates {a b c d e f g i y : Char}
    (h : surrogates? a b c d e f g i = some y) :
    ∀ x ∈ [a, b, c, d, e, f, g, i], (hexValue? x).isSome := by
  unfold surrogates? at h
  split at h
  · simp_all
  · simp at h

/-- A text between the quotes of a string, and the characters that it stands for.  A quote in it is
escaped and stands for a quote, and it is longer than what it stands for unless nothing is
escaped. -/
structure Raw (raw x : Str) : Prop where
  reads : ∀ t, Chars (raw ++ '"' :: t) x t
  quotes : raw.count '"' ≤ x.count '"'
  length : x.length ≤ raw.length
  plain : x.length = raw.length → raw = x ∧ x.all isPlain = true

theorem Raw.nil : Raw [] [] where
  reads t := .close t
  quotes := Nat.le_refl 0
  length := Nat.le_refl 0
  plain _ := ⟨rfl, rfl⟩

theorem Raw.cons {c : Char} {raw x : Str} (h : Raw raw x) (hc : isPlain c = true) :
    Raw (c :: raw) (c :: x) where
  reads t := .plain hc (h.reads t)
  quotes := by
    have hquotes := h.quotes
    simp only [List.count_cons]
    omega
  length := by simpa using h.length
  plain heq := by
    obtain ⟨rfl, hplain⟩ := h.plain (by simpa using heq)
    exact ⟨rfl, by simp [hc, hplain]⟩

/-- An escape is longer than the character it stands for, and has no quote except for a quote. -/
theorem Raw.escape {chunk raw x : Str} {y : Char} (h : Raw raw x)
    (hreads : ∀ {s x rest}, Chars s x rest → Chars (chunk ++ s) (y :: x) rest)
    (hquotes : chunk.count '"' ≤ [y].count '"') (hlength : 2 ≤ chunk.length) :
    Raw (chunk ++ raw) (y :: x) where
  reads t := by
    rw [List.append_assoc]
    exact hreads (h.reads t)
  quotes := by
    have hrest := h.quotes
    have hsplit : (y :: x).count '"' = [y].count '"' + x.count '"' := by
      rw [← List.count_append, List.singleton_append]
    rw [List.count_append, hsplit]
    omega
  length := by
    have hrest := h.length
    rw [List.length_cons, List.length_append]
    omega
  plain heq := by
    have hrest := h.length
    rw [List.length_cons, List.length_append] at heq
    omega

/-- The digits of the one surrogate and of the other. -/
theorem hex_of_pair {a b c d e f g i y : Char} (h : surrogates? a b c d e f g i = some y) :
    (∀ x ∈ [a, b, c, d], (hexValue? x).isSome) ∧ ∀ x ∈ [e, f, g, i], (hexValue? x).isSome := by
  have hall := hex_of_surrogates h
  constructor
  · intro x hx
    exact hall x (List.mem_append_left [e, f, g, i] hx)
  · intro x hx
    exact hall x (List.mem_append_right [a, b, c, d] hx)

theorem count_hex {digits : Str} (h : ∀ c ∈ digits, (hexValue? c).isSome) :
    digits.count '"' = 0 := by
  rw [List.count_eq_zero]
  intro hmem
  exact absurd rfl (hex_inside (h _ hmem)).1

/-- The text of a string, and the text behind its closing quote. -/
theorem Chars.raw {s x rest : Str} (h : Chars s x rest) :
    ∃ raw, s = raw ++ '"' :: rest ∧ Raw raw x := by
  induction h with
  | close rest => exact ⟨[], rfl, .nil⟩
  | plain hc h ih =>
      obtain ⟨raw, rfl, hraw⟩ := ih
      exact ⟨_ :: raw, rfl, hraw.cons hc⟩
  | @escape e y s x rest he h ih =>
      obtain ⟨raw, rfl, hraw⟩ := ih
      refine ⟨['\\', e] ++ raw, rfl, hraw.escape (.escape he) ?_ (Nat.le_refl 2)⟩
      by_cases hquote : e = '"'
      · subst hquote
        obtain rfl : '"' = y := by simpa [unescape?] using he
        decide
      · have hzero : ['\\', e].count '"' = 0 := by simp [hquote]
        omega
  | @unicode a b c d y s x rest hy h ih =>
      obtain ⟨raw, rfl, hraw⟩ := ih
      have hhex : [a, b, c, d].count '"' = 0 := count_hex (hex_of_unicode hy)
      refine ⟨['\\', 'u', a, b, c, d] ++ raw, rfl, hraw.escape (.unicode hy) ?_ (by simp)⟩
      rw [List.count_cons_of_ne (by decide), List.count_cons_of_ne (by decide), hhex]
      exact Nat.zero_le _
  | @surrogates a b c d e f g i y s x rest hy h ih =>
      obtain ⟨raw, rfl, hraw⟩ := ih
      obtain ⟨hfirst, hsecond⟩ := hex_of_pair hy
      have hhigh := count_hex hfirst
      have hlow := count_hex hsecond
      refine ⟨['\\', 'u', a, b, c, d, '\\', 'u', e, f, g, i] ++ raw, rfl,
        hraw.escape (.surrogates hy) ?_ (by simp)⟩
      have hsplit : ['\\', 'u', a, b, c, d, '\\', 'u', e, f, g, i] =
          ['\\', 'u'] ++ [a, b, c, d] ++ (['\\', 'u'] ++ [e, f, g, i]) := rfl
      have hletters : ['\\', 'u'].count '"' = 0 := by decide
      rw [hsplit, List.count_append, List.count_append, List.count_append, hletters, hhigh, hlow]
      exact Nat.zero_le _

/-! ## The characters of a number -/

/-- The characters numbers are made of. -/
def isNumberChar (c : Char) : Bool :=
  c.isDigit || c = '-' || c = '+' || c = '.' || c = 'e' || c = 'E'

theorem isNumberChar_of_isDigit {c : Char} (h : c.isDigit = true) : isNumberChar c = true := by
  simp [isNumberChar, h]

theorem IsNumber.chars {s : Str} (h : IsNumber s) : s ≠ [] ∧ ∀ c ∈ s, isNumberChar c = true := by
  obtain ⟨sign, int, fraction, exponent, rfl, hsign, hint, hfraction, hexponent⟩ := h
  have hdigits : ∀ ds : Str, (∀ c ∈ ds, c.isDigit = true) → ∀ c ∈ ds, isNumberChar c = true :=
    fun ds hds c hc => isNumberChar_of_isDigit (hds c hc)
  have hsign' : ∀ c ∈ sign, isNumberChar c = true := by
    rcases hsign with rfl | rfl <;> simp [isNumberChar]
  have hint' : int ≠ [] ∧ ∀ c ∈ int, isNumberChar c = true := by
    rcases hint with rfl | ⟨d, ds, rfl, hd, -, hds⟩
    · simp [isNumberChar]
    · simpa [isNumberChar_of_isDigit hd] using hdigits ds hds
  have hfraction' : ∀ c ∈ fraction, isNumberChar c = true := by
    rcases hfraction with rfl | ⟨ds, rfl, -, hds⟩
    · simp
    · simpa [isNumberChar] using hdigits ds hds
  have hexponent' : ∀ c ∈ exponent, isNumberChar c = true := by
    rcases hexponent with rfl | ⟨e, sign, ds, rfl, he, hsign, -, hds⟩
    · simp
    · have he' : isNumberChar e = true := by rcases he with rfl | rfl <;> rfl
      have hs' : ∀ c ∈ sign, isNumberChar c = true := by
        rcases hsign with rfl | rfl | rfl <;> simp [isNumberChar]
      intro c hc
      rcases List.mem_cons.mp hc with rfl | hc
      · exact he'
      · rcases List.mem_append.mp hc with hc | hc
        · exact hs' c hc
        · exact hdigits ds hds c hc
  refine ⟨by simp [hint'.1], ?_⟩
  intro c hc
  simp only [List.mem_append] at hc
  rcases hc with hc | hc | hc | hc
  · exact hsign' c hc
  · exact hint'.2 c hc
  · exact hfraction' c hc
  · exact hexponent' c hc

/-- A number in a text ends where a character that no number has comes second. -/
theorem number_of_second {number rest t : Str} {d c : Char} (hne : number ≠ [])
    (hnumber : ∀ n ∈ number, isNumberChar n = true) (hc : isNumberChar c = false)
    (h : number ++ rest = d :: c :: t) : number = [d] ∧ rest = c :: t := by
  obtain ⟨n, ns, rfl⟩ := List.exists_cons_of_ne_nil hne
  rw [List.cons_append, List.cons.injEq] at h
  obtain ⟨rfl, htail⟩ := h
  cases ns with
  | nil => exact ⟨rfl, htail⟩
  | cons n' ns =>
      rw [List.cons_append, List.cons.injEq] at htail
      obtain ⟨rfl, -⟩ := htail
      have hn := hnumber n' (by simp)
      rw [hc] at hn
      simp at hn

/-! ## Following a text through the grammar -/

/-- A part is read from a text of its own, whatever stands behind it. -/
theorem Derives.cut {part : Part} {s rest : Str} (h : Derives part s rest) :
    ∃ used, s = used ++ rest ∧ ∀ t, Derives part (used ++ t) t := by
  induction h with
  | null rest => exact ⟨['n', 'u', 'l', 'l'], rfl, .null⟩
  | boolTrue rest => exact ⟨['t', 'r', 'u', 'e'], rfl, .boolTrue⟩
  | boolFalse rest => exact ⟨['f', 'a', 'l', 's', 'e'], rfl, .boolFalse⟩
  | number htext rest => exact ⟨_, rfl, .number htext⟩
  | string h =>
      obtain ⟨raw, rfl, hraw⟩ := h.raw
      refine ⟨'"' :: (raw ++ ['"']), by simp, fun t => ?_⟩
      simpa using Derives.string (hraw.reads t)
  | emptyArray h =>
      obtain ⟨used, rfl, hused⟩ := h.cut
      refine ⟨'[' :: (used ++ [']']), by simp, fun t => ?_⟩
      simpa using Derives.emptyArray (hused (']' :: t))
  | array hs hv hvs ihv ihvs =>
      obtain ⟨spaces, rfl, hspaces⟩ := hs.cut
      obtain ⟨used, rfl, hused⟩ := ihv
      obtain ⟨used', rfl, hused'⟩ := ihvs
      refine ⟨'[' :: (spaces ++ (used ++ used')), by simp, fun t => ?_⟩
      simpa using Derives.array (hspaces _) (hused _) (hused' t)
  | close h =>
      obtain ⟨used, rfl, hused⟩ := h.cut
      refine ⟨used ++ [']'], by simp, fun t => ?_⟩
      simpa using Derives.close (hused (']' :: t))
  | item hcomma hs hv hvs ihv ihvs =>
      obtain ⟨spaces, rfl, hspaces⟩ := hcomma.cut
      obtain ⟨spaces', rfl, hspaces'⟩ := hs.cut
      obtain ⟨used, rfl, hused⟩ := ihv
      obtain ⟨used', rfl, hused'⟩ := ihvs
      refine ⟨spaces ++ ',' :: (spaces' ++ (used ++ used')), by simp, fun t => ?_⟩
      simpa using Derives.item (hspaces _) (hspaces' _) (hused _) (hused' t)
  | emptyObject h =>
      obtain ⟨used, rfl, hused⟩ := h.cut
      refine ⟨'{' :: (used ++ ['}']), by simp, fun t => ?_⟩
      simpa using Derives.emptyObject (hused ('}' :: t))
  | object hfield hfields ihfield ihfields =>
      obtain ⟨used, rfl, hused⟩ := ihfield
      obtain ⟨used', rfl, hused'⟩ := ihfields
      refine ⟨'{' :: (used ++ used'), by simp, fun t => ?_⟩
      simpa using Derives.object (hused _) (hused' t)
  | field hquote hkey hcolon hs hv ihv =>
      obtain ⟨spaces, rfl, hspaces⟩ := hquote.cut
      obtain ⟨raw, rfl, hraw⟩ := hkey.raw
      obtain ⟨spaces', rfl, hspaces'⟩ := hcolon.cut
      obtain ⟨spaces'', rfl, hspaces''⟩ := hs.cut
      obtain ⟨used, rfl, hused⟩ := ihv
      refine ⟨spaces ++ '"' :: (raw ++ '"' :: (spaces' ++ ':' :: (spaces'' ++ used))), by simp,
        fun t => ?_⟩
      simpa using Derives.field (hspaces _) (hraw.reads _) (hspaces' _) (hspaces'' _) (hused t)
  | closeObject h =>
      obtain ⟨used, rfl, hused⟩ := h.cut
      refine ⟨used ++ ['}'], by simp, fun t => ?_⟩
      simpa using Derives.closeObject (hused ('}' :: t))
  | moreField hcomma hfield hfields ihfield ihfields =>
      obtain ⟨spaces, rfl, hspaces⟩ := hcomma.cut
      obtain ⟨used, rfl, hused⟩ := ihfield
      obtain ⟨used', rfl, hused'⟩ := ihfields
      refine ⟨spaces ++ ',' :: (used ++ used'), by simp, fun t => ?_⟩
      simpa using Derives.moreField (hspaces _) (hused _) (hused' t)

/-- The text a part is read from stands in front of the rest. -/
theorem Derives.input {part : Part} {s rest : Str} (h : Derives part s rest) :
    ∃ used, s = used ++ rest := by
  obtain ⟨used, hused, -⟩ := h.cut
  exact ⟨used, hused⟩

/-- The items behind one of an array end with its bracket. -/
theorem Derives.more_input {items : List (Value Str)} {s rest : Str}
    (h : Derives (.more items) s rest) : ∃ used, s = used ++ ']' :: rest := by
  generalize hpart : Part.more items = part at h
  induction h generalizing items with
  | @close s rest h =>
      obtain ⟨spaces, rfl, -⟩ := h.input
      exact ⟨spaces, rfl⟩
  | @item s s' s'' s''' rest v vs hcomma hs hv hvs ihv ihvs =>
      obtain ⟨spaces, rfl, -⟩ := hcomma.input
      obtain ⟨spaces', rfl, -⟩ := hs.input
      obtain ⟨used, rfl⟩ := hv.input
      obtain ⟨used', rfl⟩ := ihvs rfl
      exact ⟨spaces ++ ',' :: (spaces' ++ (used ++ used')), by simp⟩
  | _ => exact absurd hpart (by simp)

/-- A string is read from its opening quote on. -/
theorem Derives.string_input {x s rest : Str} (h : Derives (.value (.string x)) s rest) :
    ∃ chars, s = '"' :: chars ∧ Chars chars x rest := by
  cases h with
  | string h => exact ⟨_, rfl, h⟩

/-- A number opens with one of its characters. -/
theorem IsNumber.head {text rest input : Str} {c : Char} (h : IsNumber text)
    (hinput : c :: input = text ++ rest) : isNumberChar c = true := by
  obtain ⟨hne, hchars⟩ := h.chars
  obtain ⟨d, ds, rfl⟩ := List.exists_cons_of_ne_nil hne
  obtain rfl : c = d := (List.cons.inj hinput).1
  exact hchars c List.mem_cons_self

section Heads

variable {v : Value Str} {s rest : Str}

/-- No value opens with a closing bracket. -/
theorem Derives.not_bracket : ¬ Derives (.value v) (']' :: s) rest := by
  generalize hs : ']' :: s = input
  intro h
  cases h with
  | number htext => exact absurd (htext.head hs) (by decide)
  | _ => exact absurd hs (by simp)

theorem Derives.at_bracket (h : Derives (.value v) ('[' :: s) rest) :
    v = .array [] ∧ Spaces s (']' :: rest) ∨ ∃ item items s' s'', v = .array (item :: items) ∧
      Spaces s s' ∧ Derives (.value item) s' s'' ∧ Derives (.more items) s'' rest := by
  generalize hs : '[' :: s = input at h
  cases h with
  | number htext => exact absurd (htext.head hs) (by decide)
  | emptyArray h =>
      obtain rfl := (List.cons.inj hs).2
      exact .inl ⟨rfl, h⟩
  | array hspaces hitem hitems =>
      obtain rfl := (List.cons.inj hs).2
      exact .inr ⟨_, _, _, _, rfl, hspaces, hitem, hitems⟩
  | _ => exact absurd hs (by simp)

theorem Derives.at_brace (h : Derives (.value v) ('{' :: s) rest) :
    v = .object [] ∧ Spaces s ('}' :: rest) ∨ ∃ key value fields s',
      v = .object ((key, value) :: fields) ∧ Derives (.field key value) s s' ∧
        Derives (.moreFields fields) s' rest := by
  generalize hs : '{' :: s = input at h
  cases h with
  | number htext => exact absurd (htext.head hs) (by decide)
  | emptyObject h =>
      obtain rfl := (List.cons.inj hs).2
      exact .inl ⟨rfl, h⟩
  | object hfield hfields =>
      obtain rfl := (List.cons.inj hs).2
      exact .inr ⟨_, _, _, _, rfl, hfield, hfields⟩
  | _ => exact absurd hs (by simp)

theorem Derives.at_quote (h : Derives (.value v) ('"' :: s) rest) :
    ∃ x, v = .string x ∧ Chars s x rest := by
  generalize hs : '"' :: s = input at h
  cases h with
  | number htext => exact absurd (htext.head hs) (by decide)
  | string h =>
      obtain rfl := (List.cons.inj hs).2
      exact ⟨_, rfl, h⟩
  | _ => exact absurd hs (by simp)

theorem Derives.at_n (h : Derives (.value v) ('n' :: s) rest) :
    v = .null ∧ s = 'u' :: 'l' :: 'l' :: rest := by
  generalize hs : 'n' :: s = input at h
  cases h with
  | number htext => exact absurd (htext.head hs) (by decide)
  | null => exact ⟨rfl, (List.cons.inj hs).2⟩
  | _ => exact absurd hs (by simp)

theorem Derives.at_t (h : Derives (.value v) ('t' :: s) rest) :
    v = .bool true ∧ s = 'r' :: 'u' :: 'e' :: rest := by
  generalize hs : 't' :: s = input at h
  cases h with
  | number htext => exact absurd (htext.head hs) (by decide)
  | boolTrue => exact ⟨rfl, (List.cons.inj hs).2⟩
  | _ => exact absurd hs (by simp)

theorem Derives.at_f (h : Derives (.value v) ('f' :: s) rest) :
    v = .bool false ∧ s = 'a' :: 'l' :: 's' :: 'e' :: rest := by
  generalize hs : 'f' :: s = input at h
  cases h with
  | number htext => exact absurd (htext.head hs) (by decide)
  | boolFalse => exact ⟨rfl, (List.cons.inj hs).2⟩
  | _ => exact absurd hs (by simp)

/-- Any other value is a number. -/
theorem Derives.at_other {c : Char} (hc : c ∉ ['n', 't', 'f', '"', '[', '{'])
    (h : Derives (.value v) (c :: s) rest) :
    ∃ text, v = .number text ∧ IsNumber text ∧ c :: s = text ++ rest := by
  simp only [List.mem_cons, List.not_mem_nil, or_false, not_or] at hc
  generalize hs : c :: s = input at h
  cases h with
  | number htext => exact ⟨_, rfl, htext, rfl⟩
  | _ => exact absurd (List.cons.inj hs).1 (by simp [hc])

/-- A digit in front of a character that no number has is a number. -/
theorem Derives.at_digit {d c : Char} (hd : d.isDigit = true) (hc : isNumberChar c = false)
    (h : Derives (.value v) (d :: c :: s) rest) : v = .number [d] ∧ rest = c :: s := by
  have hne : ∀ e : Char, e.isDigit = false → d ≠ e := by
    rintro e he rfl
    rw [hd] at he
    simp at he
  generalize hs : d :: c :: s = input at h
  cases h with
  | number htext =>
      obtain ⟨hnil, hchars⟩ := htext.chars
      obtain ⟨rfl, rfl⟩ := number_of_second hnil hchars hc hs.symm
      exact ⟨rfl, rfl⟩
  | _ => exact absurd (List.cons.inj hs).1 (hne _ (by decide))

/-- A field whose key is written without escapes and whose value follows its colon. -/
theorem Derives.field_input {key w t : Str} {c : Char} (hw : w.all isPlain = true)
    (hc : isSpace c = false)
    (h : Derives (.field key v) ('"' :: (w ++ '"' :: ':' :: c :: t)) rest) :
    key = w ∧ Derives (.value v) (c :: t) rest := by
  cases h with
  | field hquote hkey hcolon hs hv =>
      obtain rfl := (List.cons.inj (hquote.eq_of_head (by decide))).2
      obtain ⟨rfl, rfl⟩ := hkey.plain_input hw
      obtain rfl := (List.cons.inj (hcolon.eq_of_head (by decide))).2
      obtain rfl := hs.eq_of_head hc
      exact ⟨rfl, hv⟩

theorem Derives.moreFields_comma {fields : List (Str × Value Str)}
    (h : Derives (.moreFields fields) (',' :: s) rest) :
    ∃ key value fields' s', fields = (key, value) :: fields' ∧
      Derives (.field key value) s s' ∧ Derives (.moreFields fields') s' rest := by
  cases h with
  | closeObject h => exact absurd (h.eq_of_head (by decide)) (by simp)
  | moreField hcomma hfield hfields =>
      obtain rfl := (List.cons.inj (hcomma.eq_of_head (by decide))).2
      exact ⟨_, _, _, _, rfl, hfield, hfields⟩

theorem Derives.moreFields_brace {fields : List (Str × Value Str)}
    (h : Derives (.moreFields fields) ('}' :: s) rest) : fields = [] ∧ rest = s := by
  cases h with
  | closeObject h => exact ⟨rfl, (List.cons.inj (h.eq_of_head (by decide))).2⟩
  | moreField hcomma => exact absurd (hcomma.eq_of_head (by decide)) (by simp)

/-- Behind an item of an array stands its bracket or a comma. -/
theorem Derives.more_head {items : List (Value Str)} {c : Char} (hc : isSpace c = false)
    (h : Derives (.more items) (c :: s) rest) : c = ']' ∧ items = [] ∨ c = ',' := by
  cases h with
  | close h => exact .inl ⟨(List.cons.inj (h.eq_of_head hc)).1.symm, rfl⟩
  | item hcomma => exact .inr (List.cons.inj (hcomma.eq_of_head hc)).1.symm

end Heads

/-! ## Compact texts -/

mutual

/-- The value with another number in place of each. -/
def Value.mapNumber {N M : Type} (f : N → M) : Value N → Value M
  | .null => .null
  | .bool b => .bool b
  | .number n => .number (f n)
  | .string s => .string s
  | .array items => .array (Value.mapItems f items)
  | .object fields => .object (Value.mapFields f fields)

def Value.mapItems {N M : Type} (f : N → M) : List (Value N) → List (Value M)
  | [] => []
  | v :: vs => v.mapNumber f :: Value.mapItems f vs

def Value.mapFields {N M : Type} (f : N → M) : List (Str × Value N) → List (Str × Value M)
  | [] => []
  | (key, v) :: fields => (key, v.mapNumber f) :: Value.mapFields f fields

end

mutual

/-- How deep arrays and objects nest in a value. -/
def Value.nesting {N : Type} : Value N → Nat
  | .array items => Value.nestingItems items + 1
  | .object fields => Value.nestingFields fields + 1
  | _ => 0

def Value.nestingItems {N : Type} : List (Value N) → Nat
  | [] => 0
  | v :: vs => max v.nesting (Value.nestingItems vs)

def Value.nestingFields {N : Type} : List (Str × Value N) → Nat
  | [] => 0
  | (_, v) :: fields => max v.nesting (Value.nestingFields fields)

end

mutual

/-- The numbers do not matter for it. -/
@[simp] theorem Value.nesting_mapNumber {N M : Type} (f : N → M) :
    ∀ v : Value N, (v.mapNumber f).nesting = v.nesting
  | .null => rfl
  | .bool _ => rfl
  | .number _ => rfl
  | .string _ => rfl
  | .array items => congrArg (· + 1) (Value.nesting_mapItems f items)
  | .object fields => congrArg (· + 1) (Value.nesting_mapFields f fields)

theorem Value.nesting_mapItems {N M : Type} (f : N → M) :
    ∀ vs : List (Value N), Value.nestingItems (Value.mapItems f vs) = Value.nestingItems vs
  | [] => rfl
  | v :: vs => congrArg₂ max (Value.nesting_mapNumber f v) (Value.nesting_mapItems f vs)

theorem Value.nesting_mapFields {N M : Type} (f : N → M) :
    ∀ fields : List (Str × Value N),
      Value.nestingFields (Value.mapFields f fields) = Value.nestingFields fields
  | [] => rfl
  | (_, v) :: fields =>
      congrArg₂ max (Value.nesting_mapNumber f v) (Value.nesting_mapFields f fields)

end

theorem Value.mapItems_eq_map {N M : Type} (f : N → M) (vs : List (Value N)) :
    Value.mapItems f vs = vs.map fun v => v.mapNumber f := by
  induction vs with
  | nil => rfl
  | cons v vs ih => rw [Value.mapItems, ih, List.map_cons]

/-- The text of one character is read as that character. -/
theorem Chars.of_escapeChar (c : Char) {s x rest : Str} (h : Chars s x rest) :
    Chars (escapeChar c ++ s) (c :: x) rest := by
  have hescaped := escapeChar_cases c
  generalize escapeChar c = text at hescaped ⊢
  cases hescaped with
  | short hshort => cases hshort <;> exact .escape rfl h
  | control hlt => exact .unicode (unicode_control hlt) h
  | plain hquote hslash hge => exact .plain (isPlain_of_not hquote hslash hge) h

theorem Chars.of_string (x rest : Str) : Chars (Json.escape x ++ '"' :: rest) x rest := by
  induction x with
  | nil => exact .close rest
  | cons c x ih =>
      rw [escape_cons, List.append_assoc]
      exact ih.of_escapeChar c

section Print

variable {N : Type} {printNumber : N → Str}

mutual

/-- The compact text of a value is read as that value. -/
theorem Derives.of_print (hnumber : ∀ n, IsNumber (printNumber n)) : ∀ (v : Value N) (rest : Str),
    Derives (.value (v.mapNumber printNumber)) (print printNumber v ++ rest) rest
  | .null, rest => .null rest
  | .bool true, rest => .boolTrue rest
  | .bool false, rest => .boolFalse rest
  | .number n, rest => .number (hnumber n) rest
  | .string x, rest => by
      have hchars := Chars.of_string x rest
      simpa [print, printString, Value.mapNumber] using Derives.string hchars
  | .array [], rest => .emptyArray (.nil _)
  | .array (v :: vs), rest => by
      have hvs := Derives.of_printMore hnumber vs rest
      have hv := Derives.of_print hnumber v (printMore printNumber vs ++ rest)
      simpa [print, Value.mapNumber, Value.mapItems] using Derives.array (.nil _) hv hvs
  | .object [], rest => .emptyObject (.nil _)
  | .object ((key, v) :: fields), rest => by
      have hfields := Derives.of_printMoreFields hnumber fields rest
      have hv := Derives.of_print hnumber v (printMoreFields printNumber fields ++ rest)
      have hkey := Chars.of_string key
        (':' :: (print printNumber v ++ (printMoreFields printNumber fields ++ rest)))
      have hfield := Derives.field (.nil _) hkey (.nil _) (.nil _) hv
      simpa [print, printString, Value.mapNumber, Value.mapFields] using
        Derives.object hfield hfields

theorem Derives.of_printMore (hnumber : ∀ n, IsNumber (printNumber n)) :
    ∀ (vs : List (Value N)) (rest : Str),
    Derives (.more (Value.mapItems printNumber vs)) (printMore printNumber vs ++ rest) rest
  | [], rest => .close (.nil _)
  | v :: vs, rest => by
      have hvs := Derives.of_printMore hnumber vs rest
      have hv := Derives.of_print hnumber v (printMore printNumber vs ++ rest)
      simpa [printMore, Value.mapItems] using Derives.item (.nil _) (.nil _) hv hvs

theorem Derives.of_printMoreFields (hnumber : ∀ n, IsNumber (printNumber n)) :
    ∀ (fields : List (Str × Value N)) (rest : Str),
    Derives (.moreFields (Value.mapFields printNumber fields))
      (printMoreFields printNumber fields ++ rest) rest
  | [], rest => .closeObject (.nil _)
  | (key, v) :: fields, rest => by
      have hfields := Derives.of_printMoreFields hnumber fields rest
      have hv := Derives.of_print hnumber v (printMoreFields printNumber fields ++ rest)
      have hkey := Chars.of_string key
        (':' :: (print printNumber v ++ (printMoreFields printNumber fields ++ rest)))
      have hfield := Derives.field (.nil _) hkey (.nil _) (.nil _) hv
      simpa [printMoreFields, printString, Value.mapFields] using
        Derives.moreField (.nil _) hfield hfields

end

theorem IsText.of_print (hnumber : ∀ n, IsNumber (printNumber n)) (v : Value N) :
    IsText (print printNumber v) (v.mapNumber printNumber) := by
  have h := Derives.of_print hnumber v []
  rw [List.append_nil] at h
  exact ⟨_, _, .nil _, h, .nil _⟩

end Print

/-! ## What the parser reads -/

theorem Spaces.skip (s : Str) : Spaces s (skipSpace s) := by
  induction s with
  | nil => exact .nil []
  | cons c s ih =>
      by_cases hc : isSpace c = true
      · have hskip : skipSpace (c :: s) = skipSpace s := by simp [skipSpace, hc]
        rw [hskip]
        exact .cons hc ih
      · rw [skipSpace_cons (by simpa using hc)]
        exact .nil _

section Parse

variable {N : Type} {f : NumberFormat N} {rest : Str}

end Parse

theorem toDigits_head {n : Nat} (h : 0 < n) : ∃ d ds, Nat.toDigits 10 n = d :: ds ∧ d ≠ '0' := by
  induction n using Nat.strongRecOn with
  | ind n ih =>
      by_cases hsmall : n < 10
      · rw [Nat.toDigits_of_lt_base hsmall]
        refine ⟨_, [], rfl, ?_⟩
        interval_cases n <;> decide
      · obtain ⟨d, ds, hd, hne⟩ := ih (n / 10) (by omega) (by omega)
        rw [Nat.toDigits_of_base_le (by decide) (by omega), hd]
        exact ⟨d, _, rfl, hne⟩

theorem isInt_toDigits (n : Nat) : IsInt (Nat.toDigits 10 n) := by
  rcases Nat.eq_zero_or_pos n with rfl | hpos
  · exact .inl (Nat.toDigits_zero 10)
  · obtain ⟨d, ds, hd, hne⟩ := toDigits_head hpos
    have hdigits : ∀ c ∈ d :: ds, c.isDigit := by
      intro c hc
      rw [← hd] at hc
      exact isDigit_of_mem_toDigits hc
    exact .inr ⟨d, ds, hd, hdigits d List.mem_cons_self, hne,
      fun c hc => hdigits c (List.mem_cons_of_mem _ hc)⟩

theorem isNumber_int {sign int : Str} (hsign : sign = [] ∨ sign = ['-']) (h : IsInt int) :
    IsNumber (sign ++ int) :=
  ⟨sign, int, [], [], by simp, hsign, h, .inl rfl, .inl rfl⟩

theorem isNumber_printInt (n : Int) : IsNumber (printInt n) := by
  unfold printInt
  split
  · exact isNumber_int (.inr rfl) (isInt_toDigits _)
  · exact isNumber_int (.inl rfl) (isInt_toDigits _)

/-- The number of commas outside brackets and strings.  The depth is the number of brackets that
are open, and `quoted` says whether a string is. -/
def commas (depth : Nat) (quoted : Bool) : Str → Nat
  | [] => 0
  | '\\' :: _ :: s => commas depth quoted s
  | c :: s =>
      if c = '"' then commas depth (!quoted) s
      else if quoted then commas depth true s
      else if c = '[' ∨ c = '{' then commas (depth + 1) false s
      else if c = ']' ∨ c = '}' then commas (depth - 1) false s
      else if c = ',' ∧ depth = 0 then commas depth false s + 1
      else commas depth false s

section Commas

variable {s t rest : Str} (d : Nat)

theorem commas_cons {c : Char} (hc : c ≠ '\\') (q : Bool) (s : Str) :
    commas d q (c :: s) =
      if c = '"' then commas d (!q) s
      else if q then commas d true s
      else if c = '[' ∨ c = '{' then commas (d + 1) false s
      else if c = ']' ∨ c = '}' then commas (d - 1) false s
      else if c = ',' ∧ d = 0 then commas d false s + 1
      else commas d false s := by
  rw [commas]
  rintro _ _ rfl rfl
  exact hc rfl

@[simp] theorem commas_quote (q : Bool) : commas d q ('"' :: s) = commas d (!q) s := by
  rw [commas_cons d (by decide)]
  rfl

@[simp] theorem commas_bracket : commas d false ('[' :: s) = commas (d + 1) false s := by
  rw [commas_cons d (by decide)]
  rfl

@[simp] theorem commas_brace : commas d false ('{' :: s) = commas (d + 1) false s := by
  rw [commas_cons d (by decide)]
  rfl

@[simp] theorem commas_closeBracket : commas (d + 1) false (']' :: s) = commas d false s := by
  rw [commas_cons (d + 1) (by decide)]
  rfl

@[simp] theorem commas_closeBrace : commas (d + 1) false ('}' :: s) = commas d false s := by
  rw [commas_cons (d + 1) (by decide)]
  rfl

/-- A comma inside brackets is not counted. -/
@[simp] theorem commas_comma_inside :
    commas (d + 1) false (',' :: s) = commas (d + 1) false s := by
  rw [commas_cons (d + 1) (by decide)]
  simp

/-- A character that neither opens nor closes anything and separates no items. -/
def isOrdinary (c : Char) : Bool := c ∉ ['"', '\\', '[', '{', ']', '}', ',']

theorem commas_ordinary (s : Str) (hs : s.all isOrdinary = true) :
    commas d false (s ++ t) = commas d false t := by
  induction s with
  | nil => rfl
  | cons c s ih =>
      obtain ⟨hc, hs⟩ : isOrdinary c = true ∧ s.all isOrdinary = true := by simpa using hs
      simp only [isOrdinary, List.mem_cons, List.not_mem_nil, or_false, not_or,
        decide_eq_true_eq] at hc
      rw [List.cons_append, commas_cons d hc.2.1]
      simp [hc, ih hs]

theorem all_isOrdinary {p : Char → Bool}
    (hp : ['"', '\\', '[', '{', ']', '}', ','].any p = false) (h : ∀ c ∈ s, p c = true) :
    s.all isOrdinary = true := by
  rw [List.all_eq_true]
  intro c hc
  have hnot : c ∉ ['"', '\\', '[', '{', ']', '}', ','] := by
    intro hmem
    exact List.any_eq_false.mp hp c hmem (h c hc)
  simpa [isOrdinary] using hnot

theorem Spaces.commas_eq (h : Spaces s rest) : commas d false s = commas d false rest := by
  obtain ⟨spaces, rfl, hspaces⟩ := h.input
  exact commas_ordinary d spaces (all_isOrdinary (by decide) hspaces)

theorem IsNumber.commas_eq {text : Str} (h : IsNumber text) :
    commas d false (text ++ rest) = commas d false rest :=
  commas_ordinary d text (all_isOrdinary (by decide) h.chars.2)

/-- A character inside a string that does not end it. -/
theorem commas_inside {c : Char} (hquote : c ≠ '"') (hslash : c ≠ '\\') :
    commas d true (c :: s) = commas d true s := by
  rw [commas_cons d hslash, if_neg hquote]
  rfl

theorem commas_hex {digits : Str} (h : ∀ c ∈ digits, (hexValue? c).isSome) :
    commas d true (digits ++ t) = commas d true t := by
  induction digits with
  | nil => rfl
  | cons c digits ih =>
      obtain ⟨hquote, hslash⟩ := hex_inside (h c List.mem_cons_self)
      rw [List.cons_append, commas_inside d hquote hslash,
        ih fun c' hc' => h c' (List.mem_cons_of_mem _ hc')]

theorem Chars.commas_eq {x : Str} (h : Chars s x rest) :
    commas d true s = commas d false rest := by
  induction h with
  | close rest => exact commas_quote d true
  | @plain c s x rest hc h ih =>
      obtain ⟨hquote, hslash⟩ := isPlain_ne hc
      rw [commas_inside d hquote hslash, ih]
  | escape he h ih => exact ih
  | @unicode a b c e y s x rest hy h ih =>
      show commas d true ([a, b, c, e] ++ s) = _
      rw [commas_hex d (hex_of_unicode hy), ih]
  | @surrogates a b c e f g i j y s x rest hy h ih =>
      obtain ⟨hfirst, hsecond⟩ := hex_of_pair hy
      show commas d true ([a, b, c, e] ++ '\\' :: 'u' :: ([f, g, i, j] ++ s)) = _
      rw [commas_hex d hfirst]
      show commas d true ([f, g, i, j] ++ s) = _
      rw [commas_hex d hsecond, ih]

/-- The commas of a value and of a field are inside its brackets and strings; behind an item, the
bracket that is open closes. -/
def Part.depth : Part → Nat
  | .value _ => 0
  | .field _ _ => 0
  | .more _ => 1
  | .moreFields _ => 1

theorem Derives.commas_eq {part : Part} (h : Derives part s rest) :
    commas (d + part.depth) false s = commas d false rest := by
  induction h generalizing d with
  | null rest => exact commas_ordinary d ['n', 'u', 'l', 'l'] (by decide)
  | boolTrue rest => exact commas_ordinary d ['t', 'r', 'u', 'e'] (by decide)
  | boolFalse rest => exact commas_ordinary d ['f', 'a', 'l', 's', 'e'] (by decide)
  | number h rest => exact h.commas_eq d
  | string h =>
      show commas d false ('"' :: _) = _
      rw [commas_quote]
      exact h.commas_eq d
  | emptyArray h =>
      show commas d false ('[' :: _) = _
      rw [commas_bracket, h.commas_eq, commas_closeBracket]
  | array hs hv hvs ihv ihvs =>
      show commas d false ('[' :: _) = _
      rw [commas_bracket, hs.commas_eq]
      exact (ihv (d + 1)).trans (ihvs d)
  | close h =>
      show commas (d + 1) false _ = _
      rw [h.commas_eq, commas_closeBracket]
  | item hcomma hs hv hvs ihv ihvs =>
      show commas (d + 1) false _ = _
      rw [hcomma.commas_eq, commas_comma_inside, hs.commas_eq]
      exact (ihv (d + 1)).trans (ihvs d)
  | emptyObject h =>
      show commas d false ('{' :: _) = _
      rw [commas_brace, h.commas_eq, commas_closeBrace]
  | object hfield hfields ihfield ihfields =>
      show commas d false ('{' :: _) = _
      rw [commas_brace]
      exact (ihfield (d + 1)).trans (ihfields d)
  | field hquote hkey hcolon hs hv ihv =>
      show commas d false _ = _
      rw [hquote.commas_eq, commas_quote]
      show commas d true _ = _
      rw [hkey.commas_eq, hcolon.commas_eq]
      show commas d false ([':'] ++ _) = _
      rw [commas_ordinary d [':'] (by decide), hs.commas_eq]
      exact ihv d
  | closeObject h =>
      show commas (d + 1) false _ = _
      rw [h.commas_eq, commas_closeBrace]
  | moreField hcomma hfield hfields ihfield ihfields =>
      show commas (d + 1) false _ = _
      rw [hcomma.commas_eq, commas_comma_inside]
      exact (ihfield (d + 1)).trans (ihfields d)

end Commas

/-- A JSON text has no comma outside brackets and strings. -/
theorem IsText.commas_eq {text : Str} {v : Value Str} (h : IsText text v) :
    commas 0 false text = 0 := by
  obtain ⟨s, rest, hs, hv, hrest⟩ := h
  have hvalue : commas 0 false s = commas 0 false rest := hv.commas_eq 0
  rw [hs.commas_eq, hvalue, hrest.commas_eq]
  rfl

end Json
