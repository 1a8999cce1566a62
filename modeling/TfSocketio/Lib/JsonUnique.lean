/-
# A text is a JSON text in one way.

`IsText.unique` says that the grammar derives at most one value from a text: at every character one
rule applies, and a number goes on to the first character that no number has.

`isText_quoted`, `isText_singleton` and `isText_pair` answer what a text becomes that is pasted into
a larger one without being escaped.
-/
import TfSocketio.Lib.JsonGrammar

namespace Json

open Text

/-! ## Spaces and the ends of numbers -/

/-- White space goes on to the first character that is none. -/
theorem Spaces.skip_eq {c : Char} {s t : Str} (hc : isSpace c = false) (h : Spaces s (c :: t)) :
    skipSpace s = c :: t := by
  generalize hrest : c :: t = rest at h
  induction h with
  | nil s =>
      subst hrest
      exact skipSpace_cons hc t
  | @cons d s rest hd h ih =>
      have hskip : skipSpace (d :: s) = skipSpace s := by simp [skipSpace, hd]
      rw [hskip]
      exact ih hrest

theorem Spaces.unique {c d : Char} {s t u : Str} (hc : isSpace c = false) (hd : isSpace d = false)
    (h : Spaces s (c :: t)) (h' : Spaces s (d :: u)) : c = d ∧ t = u := by
  have heq := (h.skip_eq hc).symm.trans (h'.skip_eq hd)
  exact List.cons.inj heq

/-- A character that no number has, or the end of the text. -/
def Ends (rest : Str) : Prop := ∀ c ∈ rest.head?, isNumberChar c = false

theorem ends_nil : Ends [] := by
  intro c hc
  cases hc

theorem ends_cons {c : Char} (hc : isNumberChar c = false) (s : Str) : Ends (c :: s) := by
  intro d hd
  obtain rfl : c = d := by simpa using hd
  exact hc

/-- A number has no spaces. -/
theorem not_isSpace {c : Char} (h : isNumberChar c = true) : isSpace c = false := by
  by_contra hspace
  simp only [isSpace, Bool.not_eq_false, Bool.or_eq_true, decide_eq_true_eq] at hspace
  rcases hspace with ((rfl | rfl) | rfl) | rfl <;> exact absurd h (by decide)

theorem Spaces.ends {s rest : Str} (h : Spaces s rest) (hrest : Ends rest) : Ends s := by
  cases h with
  | nil => exact hrest
  | @cons c s rest hc h =>
      refine ends_cons ?_ s
      by_contra hnumber
      rw [not_isSpace (by simpa using hnumber)] at hc
      exact absurd hc (by decide)

theorem Derives.more_ends {items : List (Value Str)} {s rest : Str}
    (h : Derives (.more items) s rest) : Ends s := by
  cases h with
  | close h => exact h.ends (ends_cons (by decide) _)
  | item hcomma => exact hcomma.ends (ends_cons (by decide) _)

theorem Derives.moreFields_ends {fields : List (Str × Value Str)} {s rest : Str}
    (h : Derives (.moreFields fields) s rest) : Ends s := by
  cases h with
  | closeObject h => exact h.ends (ends_cons (by decide) _)
  | moreField hcomma => exact hcomma.ends (ends_cons (by decide) _)

/-- A run of characters that ends at a character of another kind is cut off in one way. -/
theorem run_unique {p : Char → Bool} {run run' rest rest' : Str} (hrun : ∀ c ∈ run, p c = true)
    (hrun' : ∀ c ∈ run', p c = true) (hrest : ∀ c ∈ rest.head?, p c = false)
    (hrest' : ∀ c ∈ rest'.head?, p c = false) (h : run ++ rest = run' ++ rest') :
    run = run' ∧ rest = rest' := by
  have htake : ∀ {run rest : Str}, (∀ c ∈ run, p c = true) → (∀ c ∈ rest.head?, p c = false) →
      (run ++ rest).takeWhile p = run := by
    intro run rest hrun hrest
    rw [List.takeWhile_append_of_pos hrun]
    cases rest with
    | nil => simp
    | cons c rest =>
        have hc : p c = false := hrest c (by simp)
        simp [hc]
  have heq : run = run' := by rw [← htake hrun hrest, h, htake hrun' hrest']
  subst heq
  exact ⟨rfl, List.append_cancel_left h⟩

/-! ## The characters of a string -/

/-- The letter of a four-digit escape is no escape by itself. -/
theorem unescape_u : unescape? 'u' = none := by decide

/-- A surrogate has an escape of its own kind only. -/
theorem surrogates_of_unicode {a b c d e f g i y : Char} (h : unicode? a b c d = some y) :
    surrogates? a b c d e f g i = none := by
  unfold unicode? at h
  split at h
  · rename_i ha hb hc hd
    dsimp only at h
    split at h
    · simp at h
    · rename_i hnot
      unfold surrogates?
      simp only [ha, hb, hc, hd]
      split
      · rename_i ha' hb' hc' hd' he hf hg hi
        obtain rfl := Option.some.inj ha'
        obtain rfl := Option.some.inj hb'
        obtain rfl := Option.some.inj hc'
        obtain rfl := Option.some.inj hd'
        simp only [ite_eq_right_iff, reduceCtorEq, imp_false]
        rintro ⟨hlow, hhigh, -⟩
        exact hnot ⟨hlow, hhigh.trans (by norm_num)⟩
      · rfl
  · simp at h

theorem Chars.unique {s x x' rest rest' : Str} (h : Chars s x rest) (h' : Chars s x' rest') :
    x = x' ∧ rest = rest' := by
  induction h generalizing x' with
  | close rest =>
      cases h' with
      | close => exact ⟨rfl, rfl⟩
      | plain hc => exact absurd hc (by decide)
  | plain hc h ih =>
      cases h' with
      | close => exact absurd hc (by decide)
      | plain hc' h' =>
          obtain ⟨rfl, rfl⟩ := ih h'
          exact ⟨rfl, rfl⟩
      | escape => exact absurd hc (by decide)
      | unicode => exact absurd hc (by decide)
      | surrogates => exact absurd hc (by decide)
  | escape he h ih =>
      cases h' with
      | plain hc => exact absurd hc (by decide)
      | escape he' h' =>
          obtain ⟨rfl, rfl⟩ := ih h'
          rw [he] at he'
          exact ⟨by rw [Option.some.inj he'], rfl⟩
      | unicode => simp [unescape_u] at he
      | surrogates => simp [unescape_u] at he
  | unicode hy h ih =>
      cases h' with
      | plain hc => exact absurd hc (by decide)
      | escape he => simp [unescape_u] at he
      | unicode hy' h' =>
          obtain ⟨rfl, rfl⟩ := ih h'
          rw [hy] at hy'
          exact ⟨by rw [Option.some.inj hy'], rfl⟩
      | surrogates hy' => simp [surrogates_of_unicode hy] at hy'
  | surrogates hy h ih =>
      cases h' with
      | plain hc => exact absurd hc (by decide)
      | escape he => simp [unescape_u] at he
      | unicode hy' => simp [surrogates_of_unicode hy'] at hy
      | surrogates hy' h' =>
          obtain ⟨rfl, rfl⟩ := ih h'
          rw [hy] at hy'
          exact ⟨by rw [Option.some.inj hy'], rfl⟩

/-! ## One value from a text -/

/-- No value opens with a space. -/
theorem Derives.value_head {v : Value Str} {s rest : Str} (h : Derives (.value v) s rest) :
    ∃ c t, s = c :: t ∧ isSpace c = false ∧ c ≠ ']' := by
  cases h with
  | number htext =>
      obtain ⟨hne, hchars⟩ := htext.chars
      obtain ⟨c, text, rfl⟩ := List.exists_cons_of_ne_nil hne
      have hc : isNumberChar c = true := hchars c List.mem_cons_self
      refine ⟨c, _, rfl, not_isSpace hc, ?_⟩
      rintro rfl
      exact absurd hc (by decide)
  | _ => exact ⟨_, _, rfl, by decide, by decide⟩

/-- Where a number stands, nothing else is read, and it is read to its end. -/
theorem IsNumber.onlyReading {text rest rest' : Str} {w : Value Str} (htext : IsNumber text)
    (h : Derives (.value w) (text ++ rest) rest') (hends : Ends rest) (hends' : Ends rest') :
    .number text = w ∧ rest = rest' := by
  obtain ⟨hne, hchars⟩ := htext.chars
  obtain ⟨c, tail, rfl⟩ := List.exists_cons_of_ne_nil hne
  have hc : isNumberChar c = true := hchars c List.mem_cons_self
  have hother : c ∉ ['n', 't', 'f', '"', '[', '{'] := by
    intro hmem
    simp only [List.mem_cons, List.not_mem_nil, or_false] at hmem
    rcases hmem with rfl | rfl | rfl | rfl | rfl | rfl <;> exact absurd hc (by decide)
  obtain ⟨text', rfl, htext', hsame⟩ := h.at_other hother
  obtain ⟨htexts, hrests⟩ := run_unique hchars htext'.chars.2 hends hends' hsame
  exact ⟨congrArg Value.number htexts, hrests⟩

/-- Nothing else is read where a part is read.  A value or a field can end with a number, and then
the character behind it matters. -/
def Part.OnlyReading (s rest : Str) : Part → Prop
  | .value v => ∀ {w rest'}, Derives (.value w) s rest' → Ends rest → Ends rest' →
      v = w ∧ rest = rest'
  | .more vs => ∀ {ws rest'}, Derives (.more ws) s rest' → vs = ws ∧ rest = rest'
  | .field key v => ∀ {name w rest'}, Derives (.field name w) s rest' → Ends rest → Ends rest' →
      key = name ∧ v = w ∧ rest = rest'
  | .moreFields fields => ∀ {fields' rest'}, Derives (.moreFields fields') s rest' →
      fields = fields' ∧ rest = rest'

/-- **A part is read in one way.** -/
theorem Derives.onlyReading {part : Part} {s rest : Str} (h : Derives part s rest) :
    part.OnlyReading s rest := by
  induction h with
  | null rest =>
      intro w rest' h' _ _
      obtain ⟨rfl, hrest⟩ := h'.at_n
      exact ⟨rfl, by simpa using hrest⟩
  | boolTrue rest =>
      intro w rest' h' _ _
      obtain ⟨rfl, hrest⟩ := h'.at_t
      exact ⟨rfl, by simpa using hrest⟩
  | boolFalse rest =>
      intro w rest' h' _ _
      obtain ⟨rfl, hrest⟩ := h'.at_f
      exact ⟨rfl, by simpa using hrest⟩
  | number htext rest =>
      intro w rest' h' hends hends'
      exact htext.onlyReading h' hends hends'
  | string h =>
      intro w rest' h' _ _
      obtain ⟨x, rfl, hx⟩ := h'.at_quote
      obtain ⟨rfl, rfl⟩ := h.unique hx
      exact ⟨rfl, rfl⟩
  | emptyArray h =>
      intro w rest' h' _ _
      rcases h'.at_bracket with ⟨rfl, hclose⟩ | ⟨item, items, s', s'', rfl, hs, hitem, -⟩
      · exact ⟨rfl, (h.unique (by decide) (by decide) hclose).2⟩
      · obtain ⟨c, t, rfl, hc, hne⟩ := hitem.value_head
        exact absurd (h.unique (by decide) hc hs).1.symm hne
  | array hs hv hvs ihv ihvs =>
      intro w rest' h' _ _
      obtain ⟨c, t, rfl, hc, hne⟩ := hv.value_head
      rcases h'.at_bracket with ⟨rfl, hclose⟩ | ⟨item, items, s', s'', rfl, hs', hitem, hitems⟩
      · exact absurd (hs.unique hc (by decide) hclose).1 hne
      · obtain ⟨d, u, rfl, hd, -⟩ := hitem.value_head
        obtain ⟨rfl, rfl⟩ := hs.unique hc hd hs'
        obtain ⟨rfl, rfl⟩ := ihv hitem hvs.more_ends hitems.more_ends
        obtain ⟨rfl, rfl⟩ := ihvs hitems
        exact ⟨rfl, rfl⟩
  | close h =>
      intro ws rest' h'
      cases h' with
      | close h' => exact ⟨rfl, (h.unique (by decide) (by decide) h').2⟩
      | item hcomma => exact absurd (h.unique (by decide) (by decide) hcomma).1 (by decide)
  | item hcomma hs hv hvs ihv ihvs =>
      intro ws rest' h'
      cases h' with
      | close h' => exact absurd (hcomma.unique (by decide) (by decide) h').1 (by decide)
      | item hcomma' hs' hv' hvs' =>
          obtain ⟨-, rfl⟩ := hcomma.unique (by decide) (by decide) hcomma'
          obtain ⟨c, t, rfl, hc, -⟩ := hv.value_head
          obtain ⟨d, u, rfl, hd, -⟩ := hv'.value_head
          obtain ⟨rfl, rfl⟩ := hs.unique hc hd hs'
          obtain ⟨rfl, rfl⟩ := ihv hv' hvs.more_ends hvs'.more_ends
          obtain ⟨rfl, rfl⟩ := ihvs hvs'
          exact ⟨rfl, rfl⟩
  | emptyObject h =>
      intro w rest' h' _ _
      rcases h'.at_brace with ⟨rfl, hclose⟩ | ⟨name, value, fields, s', rfl, hfield, -⟩
      · exact ⟨rfl, (h.unique (by decide) (by decide) hclose).2⟩
      · cases hfield with
        | field hquote => exact absurd (h.unique (by decide) (by decide) hquote).1 (by decide)
  | object hfield hfields ihfield ihfields =>
      intro w rest' h' _ _
      rcases h'.at_brace with ⟨rfl, hclose⟩ | ⟨name, value, fields, s', rfl, hfield', hfields'⟩
      · cases hfield with
        | field hquote => exact absurd (hquote.unique (by decide) (by decide) hclose).1 (by decide)
      · obtain ⟨rfl, rfl, rfl⟩ := ihfield hfield' hfields.moreFields_ends hfields'.moreFields_ends
        obtain ⟨rfl, rfl⟩ := ihfields hfields'
        exact ⟨rfl, rfl⟩
  | field hquote hkey hcolon hs hv ihv =>
      intro name w rest' h' hends hends'
      cases h' with
      | field hquote' hkey' hcolon' hs' hv' =>
          obtain ⟨-, rfl⟩ := hquote.unique (by decide) (by decide) hquote'
          obtain ⟨rfl, rfl⟩ := hkey.unique hkey'
          obtain ⟨-, rfl⟩ := hcolon.unique (by decide) (by decide) hcolon'
          obtain ⟨c, t, rfl, hc, -⟩ := hv.value_head
          obtain ⟨d, u, rfl, hd, -⟩ := hv'.value_head
          obtain ⟨rfl, rfl⟩ := hs.unique hc hd hs'
          obtain ⟨rfl, rfl⟩ := ihv hv' hends hends'
          exact ⟨rfl, rfl, rfl⟩
  | closeObject h =>
      intro fields' rest' h'
      cases h' with
      | closeObject h' => exact ⟨rfl, (h.unique (by decide) (by decide) h').2⟩
      | moreField hcomma => exact absurd (h.unique (by decide) (by decide) hcomma).1 (by decide)
  | moreField hcomma hfield hfields ihfield ihfields =>
      intro fields' rest' h'
      cases h' with
      | closeObject h' => exact absurd (hcomma.unique (by decide) (by decide) h').1 (by decide)
      | moreField hcomma' hfield' hfields' =>
          obtain ⟨-, rfl⟩ := hcomma.unique (by decide) (by decide) hcomma'
          obtain ⟨rfl, rfl, rfl⟩ :=
            ihfield hfield' hfields.moreFields_ends hfields'.moreFields_ends
          obtain ⟨rfl, rfl⟩ := ihfields hfields'
          exact ⟨rfl, rfl⟩

/-- **The grammar is unambiguous.** -/
theorem IsText.unique {text : Str} {v w : Value Str} (hv : IsText text v) (hw : IsText text w) :
    v = w := by
  obtain ⟨s, rest, hs, hvalue, hrest⟩ := hv
  obtain ⟨s', rest', hs', hvalue', hrest'⟩ := hw
  obtain ⟨c, t, rfl, hc, -⟩ := hvalue.value_head
  obtain ⟨d, u, rfl, hd, -⟩ := hvalue'.value_head
  obtain ⟨rfl, rfl⟩ := hs.unique hc hd hs'
  exact (hvalue.onlyReading hvalue' (hrest.ends ends_nil) (hrest'.ends ends_nil)).1

/-! ## Pasted text -/

/-- **A text that is pasted between quotes stands for itself only if nothing in it is to be
escaped.**  A quote in it would have to be escaped by the text, and stand for a quote more. -/
theorem Chars.plain_of_self {x t rest : Str} (h : Chars (x ++ '"' :: t) x rest) :
    x.all isPlain = true := by
  obtain ⟨raw, hsplit, hraw⟩ := h.raw
  have hlength := hraw.length
  rcases List.append_eq_append_iff.mp hsplit with ⟨more, rfl, hquote⟩ | ⟨more, hx, -⟩
  · cases more with
    | nil => exact (hraw.plain (by simp)).2
    | cons c more =>
        obtain rfl : '"' = c := (List.cons.inj hquote).1
        have hquotes := hraw.quotes
        rw [List.count_append, List.count_cons_self] at hquotes
        omega
  · have hnil : more = [] := by
      have hlengths := congrArg List.length hx
      rw [List.length_append] at hlengths
      exact List.eq_nil_of_length_eq_zero (by omega)
    subst hnil
    exact (hraw.plain (by simp [hx])).2

/-! ## Text between brackets -/

/-- A value, the closing bracket of its array and the end of the text. -/
def LastItem (s : Str) (v : Value Str) : Prop :=
  ∃ s' rest trail, Spaces s s' ∧ Derives (.value v) s' rest ∧ Derives (.more []) rest trail ∧
    Spaces trail []

/-- **What stands in front of the closing bracket is a text of its own.** -/
theorem lastItem_iff {text : Str} {v : Value Str} :
    LastItem (text ++ [']']) v ↔ IsText text v := by
  constructor
  · rintro ⟨s, rest, trail, hs, hv, hmore, htrail⟩
    obtain ⟨spaces, htext, hspaces⟩ := hs.cut
    obtain ⟨used, rfl, hused⟩ := hv.cut
    cases hmore with
    | close hclose =>
        obtain ⟨spaces', rfl, hspaces'⟩ := hclose.cut
        -- the bracket is the last character, and the text ends with spaces
        have hnil : trail = [] := by
          rcases List.eq_nil_or_concat trail with hnil | ⟨front, c, rfl⟩
          · exact hnil
          · obtain ⟨all, hall, hspace⟩ := htrail.input
            rw [List.append_nil] at hall
            have hc : isSpace c = true := hspace c (by simp [← hall])
            have hlast := congrArg List.getLast? htext
            simp only [← List.cons_append, ← List.append_assoc, List.concat_eq_append,
              List.getLast?_concat, Option.some.injEq] at hlast
            rw [← hlast] at hc
            exact absurd hc (by decide)
        subst hnil
        have hfront : text ++ [']'] = spaces ++ (used ++ spaces') ++ [']'] := by
          simpa using htext
        obtain rfl := List.append_cancel_right hfront
        refine ⟨_, _, hspaces _, hused _, ?_⟩
        simpa using hspaces' []
  · rintro ⟨s, rest, hs, hv, hrest⟩
    obtain ⟨spaces, rfl, hspaces⟩ := hs.cut
    obtain ⟨used, rfl, hused⟩ := hv.cut
    obtain ⟨spaces', rfl, hspaces'⟩ := hrest.cut
    refine ⟨used ++ (spaces' ++ [']']), spaces' ++ [']'], [], ?_, hused _, ?_, .nil []⟩
    · simpa using hspaces (used ++ (spaces' ++ [']']))
    · exact .close (hspaces' [']'])

/-- A text between brackets is an array of one item. -/
theorem isText_singleton {text : Str} {v : Value Str} :
    IsText ('[' :: (text ++ [']'])) (.array [v]) ↔ IsText text v := by
  have hlast : LastItem (text ++ [']']) v ↔ IsText text v := lastItem_iff
  rw [← hlast]
  constructor
  · rintro ⟨s, trail, hs, harray, htrail⟩
    obtain rfl := hs.eq_of_head (by decide)
    cases harray with
    | array hspaces hitem hmore => exact ⟨_, _, _, hspaces, hitem, hmore, htrail⟩
  · rintro ⟨s, rest, trail, hs, hv, hmore, htrail⟩
    exact ⟨_, _, .nil _, .array hs hv hmore, htrail⟩

/-- **A name is pasted in front of a text without harm exactly if nothing in it is to be
escaped.** -/
theorem isText_pair {name text : Str} {v : Value Str} :
    IsText ('[' :: '"' :: (name ++ '"' :: ',' :: (text ++ [']']))) (.array [.string name, v]) ↔
      name.all isPlain = true ∧ IsText text v := by
  have hlast : LastItem (text ++ [']']) v ↔ IsText text v := lastItem_iff
  rw [← hlast]
  constructor
  · rintro ⟨s, trail, hs, harray, htrail⟩
    obtain rfl := hs.eq_of_head (by decide)
    cases harray with
    | array hspaces hname hmore =>
        obtain rfl := hspaces.eq_of_head (by decide)
        obtain ⟨chars, hquote, hchars⟩ := hname.string_input
        obtain rfl := (List.cons.inj hquote).2
        have hplain := hchars.plain_of_self
        obtain ⟨-, rfl⟩ := hchars.plain_input hplain
        cases hmore with
        | item hcomma hs hv hmore =>
            obtain rfl := (List.cons.inj (hcomma.eq_of_head (by decide))).2
            exact ⟨hplain, _, _, _, hs, hv, hmore, htrail⟩
  · rintro ⟨hplain, s, rest, trail, hs, hv, hmore, htrail⟩
    have hchars := Chars.of_string name (',' :: (text ++ [']']))
    rw [escape_of_plain hplain] at hchars
    exact ⟨_, _, .nil _, .array (.nil _) (.string hchars) (.item (.nil _) hs hv hmore), htrail⟩

/-- A text between quotes is itself as a string exactly if nothing in it is to be escaped. -/
theorem isText_quoted {text : Str} :
    IsText ('"' :: (text ++ ['"'])) (.string text) ↔ text.all isPlain = true := by
  constructor
  · rintro ⟨s, trail, hs, hstring, -⟩
    obtain rfl := hs.eq_of_head (by decide)
    obtain ⟨chars, hquote, hchars⟩ := hstring.string_input
    obtain rfl := (List.cons.inj hquote).2
    exact hchars.plain_of_self
  · intro hplain
    have hchars := Chars.of_string text []
    rw [escape_of_plain hplain] at hchars
    exact ⟨_, [], .nil _, .string hchars, .nil _⟩

end Json
