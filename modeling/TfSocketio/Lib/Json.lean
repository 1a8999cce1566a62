/-
# JSON text: values, the compact printer, a parser, and the round trip between them.

Strings are lists of characters.  The number type is a parameter: a `NumberFormat` prints and parses
numbers, and all the rest of the grammar is here.  `parse_print` says that the parser reads every
printed value back; `printString` escapes the quote, the backslash and the control characters, and
`quote_escaped` states what that means for a reader who looks for a quote in the text.
-/
import TfSocketio.Lib.Text
import Mathlib.Tactic.IntervalCases

namespace Json

open Text

/-! ## Values -/

/-- A JSON value over a number type. -/
inductive Value (N : Type) where
  | null
  | bool (b : Bool)
  | number (n : N)
  | string (s : Str)
  | array (items : List (Value N))
  | object (fields : List (Str × Value N))

/-! ## Printing -/

/-- A hexadecimal digit in lower case. -/
def hexDigit (n : Nat) : Char := if n < 10 then Char.ofNat (48 + n) else Char.ofNat (87 + n)

/-- The text of one character inside a string. -/
def escapeChar (c : Char) : Str :=
  if c = '"' then ['\\', '"']
  else if c = '\\' then ['\\', '\\']
  else if c = '\x08' then ['\\', 'b']
  else if c = '\x0c' then ['\\', 'f']
  else if c = '\n' then ['\\', 'n']
  else if c = '\r' then ['\\', 'r']
  else if c = '\t' then ['\\', 't']
  else if c.toNat < 32 then ['\\', 'u', '0', '0', hexDigit (c.toNat / 16), hexDigit (c.toNat % 16)]
  else [c]

/-- The text between the quotes of a string. -/
def escape (s : Str) : Str := s.flatMap escapeChar

def printString (s : Str) : Str := '"' :: (escape s ++ ['"'])

mutual

/-- The compact text of a value. -/
def print {N : Type} (printNumber : N → Str) : Value N → Str
  | .null => ['n', 'u', 'l', 'l']
  | .bool true => ['t', 'r', 'u', 'e']
  | .bool false => ['f', 'a', 'l', 's', 'e']
  | .number n => printNumber n
  | .string s => printString s
  | .array [] => ['[', ']']
  | .array (v :: vs) => '[' :: (print printNumber v ++ printMore printNumber vs)
  | .object [] => ['{', '}']
  | .object ((k, v) :: fields) =>
      '{' :: (printString k ++ ':' :: (print printNumber v ++ printMoreFields printNumber fields))

/-- The items of an array after the first, and its closing bracket. -/
def printMore {N : Type} (printNumber : N → Str) : List (Value N) → Str
  | [] => [']']
  | v :: vs => ',' :: (print printNumber v ++ printMore printNumber vs)

/-- The fields of an object after the first, and its closing brace. -/
def printMoreFields {N : Type} (printNumber : N → Str) :
    List (Str × Value N) → Str
  | [] => ['}']
  | (k, v) :: fields =>
      ',' :: (printString k ++ ':' :: (print printNumber v ++ printMoreFields printNumber fields))

end

/-- The items of an array after the first, without the closing bracket. -/
theorem printMore_eq {N : Type} (printNumber : N → Str) (vs : List (Value N)) :
    printMore printNumber vs = (vs.flatMap fun v => ',' :: print printNumber v) ++ [']'] := by
  induction vs with
  | nil => rfl
  | cons v vs ih => simp [printMore, ih]

/-- An array's text opens with `[` and closes with `]`. -/
theorem print_array {N : Type} (printNumber : N → Str) (vs : List (Value N)) :
    ∃ inner, print printNumber (.array vs) = '[' :: (inner ++ [']']) := by
  cases vs with
  | nil => exact ⟨[], rfl⟩
  | cons v vs =>
      refine ⟨print printNumber v ++ vs.flatMap fun v => ',' :: print printNumber v, ?_⟩
      simp [print, printMore_eq]

theorem escape_cons (c : Char) (s : Str) : escape (c :: s) = escapeChar c ++ escape s := rfl

/-- A character that needs no escape: not the quote, the backslash or a control. -/
def isPlain (c : Char) : Bool := c != '"' && c != '\\' && Nat.ble 32 c.toNat

theorem escapeChar_of_plain {c : Char} (h : isPlain c = true) : escapeChar c = [c] := by
  simp only [isPlain, Bool.and_eq_true, bne_iff_ne, ne_eq, Nat.ble_eq] at h
  obtain ⟨⟨hq, hb⟩, hc⟩ := h
  have hne : ∀ d : Char, d.toNat < 32 → c ≠ d := by
    rintro d hd rfl
    omega
  have h8 := hne '\x08' (by decide)
  have h12 := hne '\x0c' (by decide)
  have h10 := hne '\n' (by decide)
  have h13 := hne '\r' (by decide)
  have h9 := hne '\t' (by decide)
  have hlt : ¬ c.toNat < 32 := by omega
  simp only [escapeChar, hq, hb, h8, h12, h10, h13, h9, hlt, if_false]

theorem escape_of_plain {s : Str} (h : s.all isPlain = true) : escape s = s := by
  induction s with
  | nil => rfl
  | cons c s ih =>
      rw [List.all_cons, Bool.and_eq_true] at h
      rw [escape_cons, escapeChar_of_plain h.1, ih h.2]
      rfl

theorem isPlain_of_not {c : Char} (hquote : c ≠ '"') (hslash : c ≠ '\\')
    (hcontrol : ¬ c.toNat < 32) : isPlain c = true := by
  simp only [isPlain, Bool.and_eq_true, bne_iff_ne, ne_eq, Nat.ble_eq]
  exact ⟨⟨hquote, hslash⟩, by omega⟩

/-- The characters that are escaped by a letter of their own. -/
inductive ShortEscape : Char → Char → Prop
  | quote : ShortEscape '"' '"'
  | backslash : ShortEscape '\\' '\\'
  | backspace : ShortEscape '\x08' 'b'
  | formFeed : ShortEscape '\x0c' 'f'
  | newline : ShortEscape '\n' 'n'
  | carriageReturn : ShortEscape '\r' 'r'
  | tab : ShortEscape '\t' 't'

/-- **Everything the text of a character can be.** -/
inductive Escaped (c : Char) : Str → Prop
  | short {letter : Char} (h : ShortEscape c letter) : Escaped c ['\\', letter]
  | control (hlt : c.toNat < 32) :
      Escaped c ['\\', 'u', '0', '0', hexDigit (c.toNat / 16), hexDigit (c.toNat % 16)]
  | plain (hquote : c ≠ '"') (hslash : c ≠ '\\') (hge : ¬ c.toNat < 32) : Escaped c [c]

theorem escapeChar_cases (c : Char) : Escaped c (escapeChar c) := by
  by_cases hquote : c = '"'
  · subst hquote
    exact .short .quote
  by_cases hslash : c = '\\'
  · subst hslash
    exact .short .backslash
  by_cases hbackspace : c = '\x08'
  · subst hbackspace
    exact .short .backspace
  by_cases hformFeed : c = '\x0c'
  · subst hformFeed
    exact .short .formFeed
  by_cases hnewline : c = '\n'
  · subst hnewline
    exact .short .newline
  by_cases hreturn : c = '\r'
  · subst hreturn
    exact .short .carriageReturn
  by_cases htab : c = '\t'
  · subst htab
    exact .short .tab
  by_cases hlt : c.toNat < 32
  · rw [escapeChar, if_neg hquote, if_neg hslash, if_neg hbackspace, if_neg hformFeed,
      if_neg hnewline, if_neg hreturn, if_neg htab, if_pos hlt]
    exact .control hlt
  · rw [escapeChar_of_plain (isPlain_of_not hquote hslash hlt)]
    exact .plain hquote hslash hlt

/-- The text of a character does not open with a quote: a quote inside a string is escaped. -/
theorem quote_escaped (c : Char) : ∃ d ds, escapeChar c = d :: ds ∧ d ≠ '"' := by
  have hescaped := escapeChar_cases c
  generalize escapeChar c = text at hescaped ⊢
  cases hescaped with
  | short h => exact ⟨'\\', _, rfl, by decide⟩
  | control hlt => exact ⟨'\\', _, rfl, by decide⟩
  | plain hquote hslash hge => exact ⟨c, [], rfl, hquote⟩

/-! ## Control characters -/

/-- A text without control characters. -/
def Visible (s : Str) : Prop := ∀ c ∈ s, 32 ≤ c.toNat

theorem Visible.nil : Visible [] := List.forall_mem_nil _

theorem Visible.cons {c : Char} {s : Str} (hc : 32 ≤ c.toNat) (hs : Visible s) :
    Visible (c :: s) := List.forall_mem_cons.mpr ⟨hc, hs⟩

theorem Visible.append {s t : Str} (hs : Visible s) (ht : Visible t) : Visible (s ++ t) :=
  List.forall_mem_append.mpr ⟨hs, ht⟩

theorem visible_hexDigit {n : Nat} (h : n < 16) : 32 ≤ (hexDigit n).toNat := by
  have hall : ∀ n < 16, 32 ≤ (hexDigit n).toNat := by decide
  exact hall n h

/-- Control characters are escaped. -/
theorem visible_escapeChar (c : Char) : Visible (escapeChar c) := by
  have hslash : 32 ≤ '\\'.toNat := by decide
  have hescaped := escapeChar_cases c
  generalize escapeChar c = text at hescaped ⊢
  cases hescaped with
  | @short letter h =>
      have hletter : 32 ≤ letter.toNat := by cases h <;> decide
      exact .cons hslash (.cons hletter .nil)
  | control hlt =>
      have hhigh := visible_hexDigit (n := c.toNat / 16) (by omega)
      have hlow := visible_hexDigit (n := c.toNat % 16) (by omega)
      exact .cons hslash (.cons (by decide) (.cons (by decide) (.cons (by decide)
        (.cons hhigh (.cons hlow .nil)))))
  | plain hquote hslash hge => exact .cons (by omega) .nil

theorem visible_printString (s : Str) : Visible (printString s) := by
  have hescape : Visible (escape s) := by
    intro c hc
    obtain ⟨d, -, hd⟩ := List.mem_flatMap.mp hc
    exact visible_escapeChar d c hd
  exact (hescape.append (.cons (by decide) (by simp [Visible]))).cons (by decide)

section Visible

variable {N : Type} {printNumber : N → Str}

mutual

/-- **The text of a value has no control characters**, if that of a number has none. -/
theorem visible_print (hnumber : ∀ n, Visible (printNumber n)) :
    ∀ v : Value N, Visible (print printNumber v)
  | .null => by simp [print, Visible]
  | .bool b => by cases b <;> simp [print, Visible]
  | .number n => by simpa [print] using hnumber n
  | .string s => by simpa [print] using visible_printString s
  | .array [] => by simp [print, Visible]
  | .array (v :: vs) => by
      rw [print]
      exact ((visible_print hnumber v).append (visible_printMore hnumber vs)).cons (by decide)
  | .object [] => by simp [print, Visible]
  | .object ((k, v) :: fields) => by
      have hfields := (visible_print hnumber v).append (visible_printMoreFields hnumber fields)
      rw [print]
      exact ((visible_printString k).append (hfields.cons (by decide))).cons (by decide)

theorem visible_printMore (hnumber : ∀ n, Visible (printNumber n)) :
    ∀ vs : List (Value N), Visible (printMore printNumber vs)
  | [] => by simp [printMore, Visible]
  | v :: vs => by
      rw [printMore]
      exact ((visible_print hnumber v).append (visible_printMore hnumber vs)).cons (by decide)

theorem visible_printMoreFields (hnumber : ∀ n, Visible (printNumber n)) :
    ∀ fields : List (Str × Value N), Visible (printMoreFields printNumber fields)
  | [] => by simp [printMoreFields, Visible]
  | (k, v) :: fields => by
      have hfields := (visible_print hnumber v).append (visible_printMoreFields hnumber fields)
      rw [printMoreFields]
      exact ((visible_printString k).append (hfields.cons (by decide))).cons (by decide)

end

end Visible

/-! ## Parsing -/

/-- The value of a hexadecimal digit. -/
def hexValue? (c : Char) : Option Nat :=
  let n := c.toNat
  if 48 ≤ n ∧ n < 58 then some (n - 48)
  else if 97 ≤ n ∧ n < 103 then some (n - 87)
  else if 65 ≤ n ∧ n < 71 then some (n - 55)
  else none

/-- The character a one-letter escape stands for. -/
def unescape? (c : Char) : Option Char :=
  if c = '"' then some '"'
  else if c = '\\' then some '\\'
  else if c = '/' then some '/'
  else if c = 'b' then some '\x08'
  else if c = 'f' then some '\x0c'
  else if c = 'n' then some '\n'
  else if c = 'r' then some '\r'
  else if c = 't' then some '\t'
  else none

/-- The character of a four-digit escape; the escapes of surrogates are rejected. -/
def unicode? (a b c d : Char) : Option Char :=
  match hexValue? a, hexValue? b, hexValue? c, hexValue? d with
  | some a, some b, some c, some d =>
      let n := a * 4096 + b * 256 + c * 16 + d
      if 0xD800 ≤ n ∧ n < 0xE000 then none else some (Char.ofNat n)
  | _, _, _, _ => none

/-- The rest of a string after its opening quote. -/
def parseChars : Str → Option (Str × Str)
  | [] => none
  | '"' :: rest => some ([], rest)
  | '\\' :: 'u' :: a :: b :: c :: d :: rest =>
      (unicode? a b c d).bind fun x => (parseChars rest).map fun p => (x :: p.1, p.2)
  | '\\' :: e :: rest =>
      (unescape? e).bind fun x => (parseChars rest).map fun p => (x :: p.1, p.2)
  | c :: rest =>
      if c.toNat < 32 then none else (parseChars rest).map fun p => (c :: p.1, p.2)

/-- Insignificant whitespace. -/
def isSpace (c : Char) : Bool := c = ' ' || c = '\n' || c = '\r' || c = '\t'

def skipSpace (s : Str) : Str := s.dropWhile isSpace

/-- What may follow a value inside a text: nothing, or a delimiter. -/
def Delimited (rest : Str) : Prop :=
  ∀ c ∈ rest.head?, c = ',' ∨ c = ']' ∨ c = '}'

/-- How numbers are printed and parsed. -/
structure NumberFormat (N : Type) where
  print : N → Str
  parse : Str → Option (N × Str)
  parse_print : ∀ n rest, Delimited rest → parse (print n ++ rest) = some (n, rest)
  /-- The text of a number opens with a digit or a minus sign. -/
  print_start : ∀ n, ∃ c cs, print n = c :: cs ∧ (c.isDigit ∨ c = '-')

mutual

/-- Parses one value off the front of a text.  The first argument bounds the recursion. -/
def parseValue {N : Type} (f : NumberFormat N) : Nat → Str → Option (Value N × Str)
  | 0, _ => none
  | k + 1, s =>
      match skipSpace s with
      | 'n' :: 'u' :: 'l' :: 'l' :: rest => some (.null, rest)
      | 't' :: 'r' :: 'u' :: 'e' :: rest => some (.bool true, rest)
      | 'f' :: 'a' :: 'l' :: 's' :: 'e' :: rest => some (.bool false, rest)
      | '"' :: rest => (parseChars rest).map fun p => (.string p.1, p.2)
      | '[' :: rest =>
          match skipSpace rest with
          | ']' :: rest => some (.array [], rest)
          | rest =>
              (parseValue f k rest).bind fun p =>
                (parseMore f k p.2).map fun q => (.array (p.1 :: q.1), q.2)
      | '{' :: rest =>
          match skipSpace rest with
          | '}' :: rest => some (.object [], rest)
          | rest =>
              (parseField f k rest).bind fun p =>
                (parseMoreFields f k p.2).map fun q => (.object (p.1 :: q.1), q.2)
      | rest => (f.parse rest).map fun p => (.number p.1, p.2)

/-- Parses the items of an array after one item. -/
def parseMore {N : Type} (f : NumberFormat N) :
    Nat → Str → Option (List (Value N) × Str)
  | 0, _ => none
  | k + 1, s =>
      match skipSpace s with
      | ']' :: rest => some ([], rest)
      | ',' :: rest =>
          (parseValue f k rest).bind fun p =>
            (parseMore f k p.2).map fun q => (p.1 :: q.1, q.2)
      | _ => none

/-- Parses one field of an object. -/
def parseField {N : Type} (f : NumberFormat N) :
    Nat → Str → Option ((Str × Value N) × Str)
  | 0, _ => none
  | k + 1, s =>
      match skipSpace s with
      | '"' :: rest =>
          (parseChars rest).bind fun p =>
            match skipSpace p.2 with
            | ':' :: rest => (parseValue f k rest).map fun q => ((p.1, q.1), q.2)
            | _ => none
      | _ => none

/-- Parses the fields of an object after one field. -/
def parseMoreFields {N : Type} (f : NumberFormat N) :
    Nat → Str → Option (List (Str × Value N) × Str)
  | 0, _ => none
  | k + 1, s =>
      match skipSpace s with
      | '}' :: rest => some ([], rest)
      | ',' :: rest =>
          (parseField f k rest).bind fun p =>
            (parseMoreFields f k p.2).map fun q => (p.1 :: q.1, q.2)
      | _ => none

end

/-- Parses a whole text. -/
def parse {N : Type} (f : NumberFormat N) (s : Str) : Option (Value N) :=
  match parseValue f (s.length + 1) s with
  | some (v, rest) => if skipSpace rest = [] then some v else none
  | none => none

/-! ## The round trip -/

theorem hexValue_hexDigit {n : Nat} (h : n < 16) : hexValue? (hexDigit n) = some n := by
  interval_cases n <;> rfl

theorem unicode_control {c : Char} (h : c.toNat < 32) :
    unicode? '0' '0' (hexDigit (c.toNat / 16)) (hexDigit (c.toNat % 16)) = some c := by
  have h0 : hexValue? '0' = some 0 := rfl
  have hhigh := hexValue_hexDigit (n := c.toNat / 16) (by omega)
  have hlow := hexValue_hexDigit (n := c.toNat % 16) (by omega)
  have hn : 0 * 4096 + 0 * 256 + c.toNat / 16 * 16 + c.toNat % 16 = c.toNat := by omega
  have hs : ¬ (0xD800 ≤ c.toNat ∧ c.toNat < 0xE000) := by omega
  simp only [unicode?, h0, hhigh, hlow, hn, hs, if_false, Char.ofNat_toNat]

/-- The text of one character reads back as that character. -/
theorem parseChars_escapeChar (c : Char) (rest : Str) :
    parseChars (escapeChar c ++ rest) = (parseChars rest).map fun p => (c :: p.1, p.2) := by
  have hescaped := escapeChar_cases c
  generalize escapeChar c = text at hescaped ⊢
  cases hescaped with
  | short h => cases h <;> rfl
  | control hlt => simp [parseChars, unicode_control hlt]
  | plain hquote hslash hge =>
      rw [List.singleton_append, parseChars]
      · simp [hge]
      all_goals simp_all

/-- A string reads back up to its closing quote. -/
theorem parseChars_escape (s rest : Str) :
    parseChars (escape s ++ '"' :: rest) = some (s, rest) := by
  induction s with
  | nil => rfl
  | cons c s ih =>
      rw [escape_cons, List.append_assoc, parseChars_escapeChar, ih]
      rfl

theorem parseChars_printString (s rest : Str) :
    ∃ tail, printString s ++ rest = '"' :: tail ∧ parseChars tail = some (s, rest) := by
  refine ⟨escape s ++ '"' :: rest, by simp [printString], parseChars_escape s rest⟩

theorem skipSpace_cons {c : Char} (h : isSpace c = false) (rest : Str) :
    skipSpace (c :: rest) = c :: rest := by
  simp [skipSpace, h]

theorem delimited_comma (rest : Str) : Delimited (',' :: rest) := by simp [Delimited]
theorem delimited_bracket (rest : Str) : Delimited (']' :: rest) := by simp [Delimited]
theorem delimited_brace (rest : Str) : Delimited ('}' :: rest) := by simp [Delimited]
theorem delimited_nil : Delimited [] := by simp [Delimited]

theorem delimited_printMore {N : Type} (p : N → Str) (vs : List (Value N))
    (rest : Str) : Delimited (printMore p vs ++ rest) := by
  cases vs with
  | nil => exact delimited_bracket rest
  | cons v vs => exact delimited_comma _

theorem delimited_printMoreFields {N : Type} (p : N → Str)
    (fields : List (Str × Value N)) (rest : Str) :
    Delimited (printMoreFields p fields ++ rest) := by
  rcases fields with _ | ⟨⟨k, v⟩, fields⟩
  · exact delimited_brace rest
  · exact delimited_comma _

/-- A value's text opens with a character that is neither a space nor a closing bracket. -/
theorem print_head {N : Type} (f : NumberFormat N) (v : Value N) :
    ∃ c cs, print f.print v = c :: cs ∧ isSpace c = false ∧ c ≠ ']' := by
  cases v with
  | null => exact ⟨_, _, rfl, by decide, by decide⟩
  | bool b => cases b <;> exact ⟨_, _, rfl, by decide, by decide⟩
  | number n =>
      obtain ⟨c, cs, h, hc⟩ := f.print_start n
      refine ⟨c, cs, h, ?_, ?_⟩
      · rcases hc with hc | rfl
        · by_contra hs
          simp only [isSpace, Bool.not_eq_false, Bool.or_eq_true, decide_eq_true_eq] at hs
          rcases hs with ((rfl | rfl) | rfl) | rfl <;> exact absurd hc (by decide)
        · decide
      · rintro rfl
        rcases hc with hc | hc
        · exact absurd hc (by decide)
        · exact absurd hc (by decide)
  | string s => exact ⟨_, _, rfl, by decide, by decide⟩
  | array vs =>
      obtain ⟨inner, h⟩ := print_array f.print vs
      exact ⟨_, _, h, by decide, by decide⟩
  | object fields =>
      rcases fields with _ | ⟨⟨k, v⟩, fields⟩ <;> exact ⟨_, _, by rw [print], by decide, by decide⟩

theorem print_length_pos {N : Type} (f : NumberFormat N) (v : Value N) :
    0 < (print f.print v).length := by
  obtain ⟨c, cs, h, -, -⟩ := print_head f v
  rw [h]
  simp

theorem printMore_length_pos {N : Type} (p : N → Str) (vs : List (Value N)) :
    0 < (printMore p vs).length := by
  rw [printMore_eq]
  simp

theorem parseValue_number {N : Type} (f : NumberFormat N) (n : N) (k : Nat) (rest : Str)
    (h : Delimited rest) :
    parseValue f (k + 1) (f.print n ++ rest) = some (.number n, rest) := by
  obtain ⟨c, cs, hp, hc⟩ := f.print_start n
  have hparse := f.parse_print n rest h
  have hspace : isSpace c = false := by
    obtain ⟨c', cs', hp', hs, -⟩ := print_head f (.number n)
    rw [print, hp] at hp'
    simp only [List.cons.injEq] at hp'
    rw [hp'.1]; exact hs
  rw [hp] at hparse ⊢
  rw [List.cons_append] at hparse ⊢
  have hne : ∀ d : Char, d.isDigit = false → d ≠ '-' → c ≠ d := by
    rintro d hd hm rfl
    rcases hc with hc | hc
    · rw [hc] at hd; exact absurd hd (by decide)
    · exact hm hc
  rw [parseValue, skipSpace_cons hspace]
  split
  all_goals try (rename_i heq; simp only [List.cons.injEq] at heq;
                 exact absurd heq.1 (hne _ (by decide) (by decide)))
  rw [hparse]
  rfl

mutual

theorem parseValue_print {N : Type} (f : NumberFormat N) :
    ∀ (v : Value N) (k : Nat) (rest : Str), (print f.print v).length ≤ k → Delimited rest →
      parseValue f (k + 1) (print f.print v ++ rest) = some (v, rest)
  | .null, k, rest, _, _ => rfl
  | .bool true, k, rest, _, _ => rfl
  | .bool false, k, rest, _, _ => rfl
  | .number n, k, rest, _, hd => by
      rw [print]
      exact parseValue_number f n k rest hd
  | .string s, k, rest, _, _ => by
      obtain ⟨tail, ht, hp⟩ := parseChars_printString s rest
      rw [print, ht, parseValue, skipSpace_cons (by decide)]
      simp [hp]
  | .array [], k, rest, _, _ => rfl
  | .array (v :: vs), k, rest, hk, _ => by
      rw [print] at hk ⊢
      obtain ⟨c, cs, hc, hs, hne⟩ := print_head f v
      have hlen : 0 < (print f.print v).length := print_length_pos f v
      simp only [List.length_cons, List.length_append] at hk
      obtain ⟨k, rfl⟩ : ∃ j, k = j + 1 := ⟨k - 1, by omega⟩
      have hv := parseValue_print f v k (printMore f.print vs ++ rest) (by omega)
        (delimited_printMore _ _ _)
      have hvs := parseMore_print f vs k rest (by omega)
      rw [List.cons_append, parseValue, skipSpace_cons (by decide)]
      simp only [List.append_assoc]
      rw [hc] at hv ⊢
      rw [List.cons_append] at hv ⊢
      simp only [skipSpace_cons hs]
      split
      · rename_i heq
        simp only [List.cons.injEq] at heq
        exact absurd heq.1 hne
      · rw [hv]
        simp [hvs]
  | .object [], k, rest, _, _ => rfl
  | .object ((key, v) :: fields), k, rest, hk, _ => by
      rw [print] at hk ⊢
      simp only [List.length_cons, List.length_append] at hk
      obtain ⟨k, rfl⟩ : ∃ j, k = j + 1 := ⟨k - 1, by omega⟩
      have hv := parseField_print f key v k (printMoreFields f.print fields ++ rest)
        (by simp only [List.length_cons, List.length_append]; omega)
        (delimited_printMoreFields _ _ _)
      have hvs := parseMoreFields_print f fields k rest (by omega)
      rw [List.cons_append, parseValue, skipSpace_cons (by decide)]
      simp only [List.append_assoc, List.cons_append] at hv ⊢
      simp only [printString, List.cons_append] at hv ⊢
      simp only [skipSpace_cons (c := '"') (by decide)]
      split
      · rename_i heq
        simp only [List.cons.injEq] at heq
        exact absurd heq.1 (by decide)
      · rw [hv]
        simp [hvs]

theorem parseMore_print {N : Type} (f : NumberFormat N) :
    ∀ (vs : List (Value N)) (k : Nat) (rest : Str), (printMore f.print vs).length ≤ k + 1 →
      parseMore f (k + 1) (printMore f.print vs ++ rest) = some (vs, rest)
  | [], k, rest, _ => rfl
  | v :: vs, k, rest, hk => by
      rw [printMore] at hk ⊢
      have hlen : 0 < (print f.print v).length := print_length_pos f v
      have hmore : 0 < (printMore f.print vs).length := printMore_length_pos f.print vs
      simp only [List.length_cons, List.length_append] at hk
      obtain ⟨k, rfl⟩ : ∃ j, k = j + 1 := ⟨k - 1, by omega⟩
      have hv := parseValue_print f v k (printMore f.print vs ++ rest) (by omega)
        (delimited_printMore _ _ _)
      have hvs := parseMore_print f vs k rest (by omega)
      rw [List.cons_append, parseMore, skipSpace_cons (by decide)]
      simp only [List.append_assoc]
      rw [hv]
      simp [hvs]

theorem parseField_print {N : Type} (f : NumberFormat N) :
    ∀ (key : Str) (v : Value N) (k : Nat) (rest : Str),
      (printString key ++ ':' :: print f.print v).length ≤ k + 1 → Delimited rest →
      parseField f (k + 1) (printString key ++ ':' :: (print f.print v ++ rest)) =
        some ((key, v), rest)
  | key, v, k, rest, hk, hd => by
      simp only [List.length_cons, List.length_append] at hk
      have hlen : 1 < (printString key).length := by simp [printString]
      obtain ⟨k, rfl⟩ : ∃ j, k = j + 1 := ⟨k - 1, by omega⟩
      have hv := parseValue_print f v k rest (by omega) hd
      obtain ⟨tail, ht, hp⟩ := parseChars_printString key (':' :: (print f.print v ++ rest))
      rw [ht, parseField, skipSpace_cons (by decide)]
      simp only [hp, Option.bind_some, skipSpace_cons (c := ':') (by decide), hv, Option.map_some]

theorem parseMoreFields_print {N : Type} (f : NumberFormat N) :
    ∀ (fields : List (Str × Value N)) (k : Nat) (rest : Str),
      (printMoreFields f.print fields).length ≤ k + 1 →
      parseMoreFields f (k + 1) (printMoreFields f.print fields ++ rest) = some (fields, rest)
  | [], k, rest, _ => rfl
  | (key, v) :: fields, k, rest, hk => by
      rw [printMoreFields] at hk ⊢
      simp only [List.length_cons, List.length_append] at hk
      obtain ⟨k, rfl⟩ : ∃ j, k = j + 1 := ⟨k - 1, by omega⟩
      have hv := parseField_print f key v k (printMoreFields f.print fields ++ rest)
        (by simp only [List.length_cons, List.length_append]; omega)
        (delimited_printMoreFields _ _ _)
      have hvs := parseMoreFields_print f fields k rest (by omega)
      rw [List.cons_append, parseMoreFields, skipSpace_cons (by decide)]
      simp only [List.append_assoc, List.cons_append]
      rw [hv]
      simp [hvs]

end

/-- The parser reads every printed value back. -/
theorem parse_print {N : Type} (f : NumberFormat N) (v : Value N) :
    parse f (print f.print v) = some v := by
  have h := parseValue_print f v (print f.print v).length [] (Nat.le_refl _) delimited_nil
  rw [List.append_nil] at h
  simp [parse, h, skipSpace]

/-! ## The integers as numbers -/

/-- Parses a decimal without leading zeros off the front of a text. -/
def parseDecimal (s : Str) : Option (Nat × Str) :=
  let (digits, rest) := leadingDigits s
  match parseDigits digits with
  | some n => if Nat.toDigits 10 n = digits then some (n, rest) else none
  | none => none

theorem parseDecimal_toDigits (n : Nat) {rest : Str} (h : Delimited rest) :
    parseDecimal (Nat.toDigits 10 n ++ rest) = some (n, rest) := by
  have hrest : ∀ c ∈ rest.head?, c.isDigit = false := by
    intro c hc
    rcases h c hc with rfl | rfl | rfl <;> decide
  simp [parseDecimal, leadingDigits_append (fun _ hc => isDigit_of_mem_toDigits hc) hrest]

def parseInt : Str → Option (Int × Str)
  | '-' :: s => (parseDecimal s).map fun p => (-(p.1 : Int), p.2)
  | s => (parseDecimal s).map fun p => ((p.1 : Int), p.2)

theorem parseInt_printInt (n : Int) (rest : Str) (h : Delimited rest) :
    parseInt (printInt n ++ rest) = some (n, rest) := by
  by_cases hn : n < 0
  · rw [printInt, if_pos hn, List.cons_append, parseInt, parseDecimal_toDigits _ h]
    simp only [Option.map_some, Option.some.injEq, Prod.mk.injEq, and_true]
    omega
  · obtain ⟨c, cs, hc, hd⟩ := toDigits_start n.natAbs
    have hparse := parseDecimal_toDigits n.natAbs h
    rw [printInt, if_neg hn]
    rw [hc, List.cons_append] at hparse ⊢
    rw [parseInt, hparse]
    · simp only [Option.map_some, Option.some.injEq, Prod.mk.injEq, and_true]
      omega
    · rintro s heq
      simp only [List.cons.injEq] at heq
      rw [heq.1] at hd
      exact absurd hd (by decide)

/-- JSON with integers for numbers. -/
def intFormat : NumberFormat Int where
  print := printInt
  parse := parseInt
  parse_print := parseInt_printInt
  print_start n := by
    obtain ⟨c, cs, h, hd⟩ := toDigits_start n.natAbs
    by_cases hn : n < 0
    · exact ⟨'-', Nat.toDigits 10 n.natAbs, by rw [printInt, if_pos hn], .inr rfl⟩
    · exact ⟨c, cs, by rw [printInt, if_neg hn, h], .inl hd⟩

end Json
