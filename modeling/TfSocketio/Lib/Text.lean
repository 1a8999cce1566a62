/-
# Text: UTF-8, decimals, and the string searches of a hand-written parser.

A text is a list of characters.  `fromUtf8_utf8` is the round trip through bytes,
`parseInt_printInt` the one through decimal digits, `splitOnce_append` and `leadingDigits_append`
cut a text at its first separator and after its leading digits, and `removeAll` deletes the
occurrences of a pattern from left to right.
-/
import Mathlib.Data.List.Basic

namespace Text

/-- A text. -/
abbrev Str := List Char

/-! ## UTF-8 -/

def utf8 (s : Str) : List UInt8 := s.flatMap String.utf8EncodeChar

/-- Decodes a byte string, if it is UTF-8. -/
def fromUtf8 (bytes : List UInt8) : Option Str :=
  (bytes.toByteArray.utf8Decode?).map Array.toList

@[simp] theorem fromUtf8_utf8 (s : Str) : fromUtf8 (utf8 s) = some s := by
  have h : s.utf8Encode.utf8Decode? = some s.toArray := List.utf8Decode?_utf8Encode
  simp only [List.utf8Encode] at h
  rw [fromUtf8, utf8, h]
  rfl

/-- The encoding of a character outside ASCII has no ASCII byte. -/
theorem le_of_mem_utf8EncodeChar {c : Char} (hc : 128 ≤ c.toNat) {b : UInt8}
    (hb : b ∈ String.utf8EncodeChar c) : 128 ≤ b.toNat := by
  have hvalue : c.val.toNat = c.toNat := rfl
  have hlarge : ∀ n, n < 128 → 128 ≤ (UInt8.ofNat (n + 0x80)).toNat := by
    intro n hn
    rw [UInt8.toNat_ofNat']
    omega
  have hall : ∀ ns : List Nat, (∀ n ∈ ns, n < 128) →
      ∀ b ∈ ns.map fun n => UInt8.ofNat (n + 0x80), 128 ≤ b.toNat := by
    intro ns hns b hb
    obtain ⟨n, hn, rfl⟩ := List.mem_map.mp hb
    exact hlarge n (hns n hn)
  simp only [String.utf8EncodeChar, hvalue] at hb
  split at hb
  · omega
  · split at hb
    · refine hall [c.toNat / 64 % 32 + 64, c.toNat % 64] ?_ b hb
      simp only [List.forall_mem_cons]
      refine ⟨by omega, by omega, by simp⟩
    · split at hb
      · refine hall [c.toNat / 4096 % 16 + 96, c.toNat / 64 % 64, c.toNat % 64] ?_ b hb
        simp only [List.forall_mem_cons]
        refine ⟨by omega, by omega, by omega, by simp⟩
      · refine hall [c.toNat / 262144 % 8 + 112, c.toNat / 4096 % 64, c.toNat / 64 % 64,
          c.toNat % 64] ?_ b hb
        simp only [List.forall_mem_cons]
        refine ⟨by omega, by omega, by omega, by omega, by simp⟩

theorem utf8EncodeChar_ascii {c : Char} (hc : c.toNat < 128) :
    String.utf8EncodeChar c = [UInt8.ofNat c.toNat] := by
  unfold String.utf8EncodeChar
  exact if_pos (Nat.le_of_lt_succ hc)

/-- An ASCII byte is in the encoding of a text exactly where its character is in the text. -/
theorem mem_utf8 {c : Char} (hc : c.toNat < 128) (s : Str) :
    UInt8.ofNat c.toNat ∈ utf8 s ↔ c ∈ s := by
  have hbyte : ∀ d : Char, d.toNat < 128 → (UInt8.ofNat d.toNat).toNat = d.toNat := by
    intro d hd
    rw [UInt8.toNat_ofNat']
    omega
  rw [utf8, List.mem_flatMap]
  constructor
  · rintro ⟨d, hd, hmem⟩
    by_cases hascii : d.toNat < 128
    · rw [utf8EncodeChar_ascii hascii, List.mem_singleton] at hmem
      have heq : c.toNat = d.toNat := by rw [← hbyte c hc, ← hbyte d hascii, hmem]
      obtain rfl : c = d := Char.toNat_inj.mp heq
      exact hd
    · have hle := le_of_mem_utf8EncodeChar (by omega) hmem
      rw [hbyte c hc] at hle
      omega
  · intro hmem
    exact ⟨c, hmem, by rw [utf8EncodeChar_ascii hc]; exact List.mem_singleton_self _⟩

/-- The byte strings that decode are the encodings of texts. -/
theorem isSome_fromUtf8_iff {bytes : List UInt8} :
    (fromUtf8 bytes).isSome ↔ ∃ s, utf8 s = bytes := by
  rw [fromUtf8, Option.isSome_map, ByteArray.isSome_utf8Decode?_iff]
  constructor
  · rintro ⟨s, hs⟩
    refine ⟨s, ?_⟩
    have hlist := congrArg (fun b : ByteArray => b.data.toList) hs
    simpa [List.utf8Encode, utf8] using hlist.symm
  · rintro ⟨s, rfl⟩
    exact ⟨s, rfl⟩

/-- An ASCII byte in front of a byte string does not decide whether it decodes. -/
theorem isSome_fromUtf8_cons {b : UInt8} (hb : b.toNat < 128) (bytes : List UInt8) :
    (fromUtf8 (b :: bytes)).isSome ↔ (fromUtf8 bytes).isSome := by
  simp only [isSome_fromUtf8_iff]
  constructor
  · rintro ⟨s, hs⟩
    cases s with
    | nil => simp [utf8] at hs
    | cons c s =>
        rw [utf8, List.flatMap_cons] at hs
        by_cases hascii : c.toNat < 128
        · rw [utf8EncodeChar_ascii hascii] at hs
          exact ⟨s, (List.cons.inj hs).2⟩
        · -- the first byte of a longer encoding is no ASCII byte
          obtain ⟨first, more, hfirst⟩ : ∃ first more, String.utf8EncodeChar c = first :: more :=
            List.exists_cons_of_ne_nil (String.utf8EncodeChar_ne_nil)
          have hle := le_of_mem_utf8EncodeChar (by omega)
            (hfirst ▸ List.mem_cons_self : first ∈ String.utf8EncodeChar c)
          rw [hfirst] at hs
          obtain rfl : first = b := (List.cons.inj hs).1
          omega
  · rintro ⟨s, rfl⟩
    refine ⟨Char.ofNat b.toNat :: s, ?_⟩
    have hchar : (Char.ofNat b.toNat).toNat = b.toNat := by
      have hvalid : Nat.isValidChar b.toNat := Or.inl (by omega)
      rw [Char.ofNat, dif_pos hvalid]
      rfl
    rw [utf8, List.flatMap_cons, utf8EncodeChar_ascii (by omega), hchar, UInt8.ofNat_toNat]
    rfl

/-! ## Decimals -/

/-- The value of a nonempty run of digits. -/
def parseDigits (s : Str) : Option Nat :=
  if s ≠ [] ∧ s.all Char.isDigit then some (Nat.ofDigitChars 10 s 0) else none

def printInt (n : Int) : Str :=
  if n < 0 then '-' :: Nat.toDigits 10 n.natAbs else Nat.toDigits 10 n.natAbs

theorem isDigit_of_mem_toDigits {n : Nat} {c : Char} (h : c ∈ Nat.toDigits 10 n) : c.isDigit :=
  Nat.isDigit_of_mem_toDigits (by decide) (by decide) h

theorem toDigits_start (n : Nat) : ∃ c cs, Nat.toDigits 10 n = c :: cs ∧ c.isDigit := by
  rcases h : Nat.toDigits 10 n with _ | ⟨c, cs⟩
  · exact absurd h Nat.toDigits_ne_nil
  · exact ⟨c, cs, rfl, isDigit_of_mem_toDigits (n := n) (by simp [h])⟩

@[simp] theorem parseDigits_toDigits (n : Nat) : parseDigits (Nat.toDigits 10 n) = some n := by
  have hdigits : (Nat.toDigits 10 n).all Char.isDigit = true :=
    List.all_eq_true.mpr fun c hc => isDigit_of_mem_toDigits hc
  simp only [parseDigits, hdigits, ne_eq, Nat.toDigits_ne_nil, not_false_eq_true, and_self, if_true,
    Nat.ofDigitChars_ten_toDigits]

theorem printInt_of_nonneg {n : Int} (h : 0 ≤ n) : printInt n = Nat.toDigits 10 n.natAbs := by
  rw [printInt, if_neg (by omega)]

/-- The leading digits of a text, and the rest. -/
def leadingDigits (s : Str) : Str × Str := (s.takeWhile Char.isDigit, s.dropWhile Char.isDigit)

theorem leadingDigits_append {digits rest : Str} (h : ∀ c ∈ digits, c.isDigit)
    (hrest : ∀ c ∈ rest.head?, c.isDigit = false) :
    leadingDigits (digits ++ rest) = (digits, rest) := by
  have hnone : rest.takeWhile Char.isDigit = [] ∧ rest.dropWhile Char.isDigit = rest := by
    rcases rest with _ | ⟨c, rest⟩
    · exact ⟨rfl, rfl⟩
    · simp [hrest c rfl]
  rw [leadingDigits, List.takeWhile_append_of_pos h,
    List.dropWhile_append_of_pos h, hnone.1, hnone.2, List.append_nil]

theorem leadingDigits_spec (s : Str) :
    s = (leadingDigits s).1 ++ (leadingDigits s).2 ∧ (∀ c ∈ (leadingDigits s).1, c.isDigit) ∧
      ∀ c ∈ (leadingDigits s).2.head?, c.isDigit = false := by
  refine ⟨List.takeWhile_append_dropWhile.symm, List.all_eq_true.mp List.all_takeWhile, ?_⟩
  intro c hc
  have hhead : (s.dropWhile Char.isDigit).head? = some c := hc
  have hnot := List.head?_dropWhile_not Char.isDigit s
  rw [hhead] at hnot
  exact hnot

/-! ## Searches -/

/-- The text before and after the first occurrence of a character. -/
def splitOnce (sep : Char) : Str → Option (Str × Str)
  | [] => none
  | c :: s =>
      if c = sep then some ([], s) else (splitOnce sep s).map fun p => (c :: p.1, p.2)

theorem splitOnce_append {sep : Char} {before : Str} (h : sep ∉ before) (after : Str) :
    splitOnce sep (before ++ sep :: after) = some (before, after) := by
  induction before with
  | nil => simp [splitOnce]
  | cons c before ih =>
      have hc : c ≠ sep := fun e => h (by simp [e])
      have hrest := ih fun hm => h (List.mem_cons_of_mem _ hm)
      simp [splitOnce, hc, hrest]

theorem splitOnce_eq_some {sep : Char} {s before after : Str}
    (h : splitOnce sep s = some (before, after)) : s = before ++ sep :: after ∧ sep ∉ before := by
  induction s generalizing before with
  | nil => simp [splitOnce] at h
  | cons c s ih =>
      by_cases hc : c = sep
      · obtain ⟨rfl, rfl⟩ : [] = before ∧ s = after := by simpa [splitOnce, hc] using h
        simp [hc]
      · obtain ⟨before', hrest, rfl⟩ :
            ∃ before', splitOnce sep s = some (before', after) ∧ c :: before' = before := by
          simpa [splitOnce, hc] using h
        obtain ⟨rfl, hnot⟩ := ih hrest
        simp [hnot, Ne.symm hc]

/-- Removes every occurrence of a pattern, from left to right.  The first argument counts the
characters of a found occurrence that are still to be dropped. -/
def removeFrom (pattern : Str) : Nat → Str → Str
  | _, [] => []
  | k + 1, _ :: s => removeFrom pattern k s
  | 0, c :: s =>
      if pattern.isPrefixOf (c :: s) then removeFrom pattern (pattern.length - 1) s
      else c :: removeFrom pattern 0 s

def removeAll (pattern s : Str) : Str := removeFrom pattern 0 s

/-- A character where no occurrence starts is kept. -/
theorem removeAll_cons_of_mismatch {pattern : Str} {c : Char} {s : Str}
    (h : ¬ pattern <+: c :: s) : removeAll pattern (c :: s) = c :: removeAll pattern s := by
  have hprefix : ¬ pattern.isPrefixOf (c :: s) := fun hp => h (List.isPrefixOf_iff_prefix.mp hp)
  rw [removeAll, removeFrom, if_neg hprefix]
  rfl

/-- A text in which the pattern's first character does not occur is kept. -/
theorem removeAll_append_of_notMem {p : Char} {ps : Str} {kept : Str} (h : p ∉ kept) (s : Str) :
    removeAll (p :: ps) (kept ++ s) = kept ++ removeAll (p :: ps) s := by
  induction kept with
  | nil => rfl
  | cons c kept ih =>
      have hc : ¬ (p :: ps) <+: c :: (kept ++ s) := by
        rintro ⟨t, ht⟩
        simp only [List.cons_append, List.cons.injEq] at ht
        exact h (by simp [ht.1])
      rw [List.cons_append, removeAll_cons_of_mismatch hc,
        ih fun hm => h (List.mem_cons_of_mem _ hm), List.cons_append]

/-- The characters of a found occurrence are dropped. -/
theorem removeFrom_length (pattern dropped s : Str) :
    removeFrom pattern dropped.length (dropped ++ s) = removeAll pattern s := by
  induction dropped with
  | nil => rfl
  | cons c dropped ih => exact ih

/-- An occurrence at the head is removed. -/
theorem removeAll_append_self {p : Char} {ps : Str} (s : Str) :
    removeAll (p :: ps) (p :: ps ++ s) = removeAll (p :: ps) s := by
  have hprefix : (p :: ps).isPrefixOf (p :: (ps ++ s)) = true :=
    List.isPrefixOf_iff_prefix.mpr (List.prefix_append (p :: ps) s)
  rw [removeAll, List.cons_append, removeFrom, if_pos hprefix]
  exact removeFrom_length (p :: ps) ps s

/-- A text of which nothing is left is empty or opens with the pattern. -/
theorem removeAll_eq_nil {p : Char} {ps s : Str} (h : removeAll (p :: ps) s = []) :
    s = [] ∨ ∃ s', s = p :: ps ++ s' ∧ removeAll (p :: ps) s' = [] := by
  cases s with
  | nil => exact .inl rfl
  | cons c s =>
      by_cases hprefix : p :: ps <+: c :: s
      · obtain ⟨s', hs'⟩ := hprefix
        rw [← hs', removeAll_append_self] at h
        exact .inr ⟨s', hs'.symm, h⟩
      · rw [removeAll_cons_of_mismatch hprefix] at h
        simp at h

end Text
