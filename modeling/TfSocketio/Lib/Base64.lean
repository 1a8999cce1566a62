/-
# Base64 with the standard alphabet and canonical padding.

Three bytes become four symbols of the 64-letter alphabet; a last group of one or two bytes is
padded with `=`.  The decoder is the strict one: it wants full groups, padding only at the end, and
zero trailing bits, so that it accepts exactly the encoder's outputs.  Both directions are proved:
`decode_encode` (nothing is lost) and `encode_of_decode` (nothing else is accepted).
-/
import Mathlib.Data.List.Basic
import Mathlib.Tactic.IntervalCases

namespace Base64

/-- The padding symbol `=`. -/
def pad : UInt8 := 61

/-- The symbol of a six-bit value (`A`-`Z`, `a`-`z`, `0`-`9`, `+`, `/`). -/
def symbol (n : Nat) : UInt8 :=
  if n < 26 then UInt8.ofNat (65 + n)
  else if n < 52 then UInt8.ofNat (71 + n)
  else if n < 62 then UInt8.ofNat (n - 4)
  else if n = 62 then 43
  else 47

/-- The six-bit value of a symbol. -/
def sextet? (c : UInt8) : Option Nat :=
  let n := c.toNat
  if 65 ≤ n ∧ n < 91 then some (n - 65)
  else if 97 ≤ n ∧ n < 123 then some (n - 71)
  else if 48 ≤ n ∧ n < 58 then some (n + 4)
  else if n = 43 then some 62
  else if n = 47 then some 63
  else none

theorem sextet_symbol {n : Nat} (h : n < 64) : sextet? (symbol n) = some n := by
  interval_cases n <;> rfl

theorem sextet_lt {c : UInt8} {n : Nat} (h : sextet? c = some n) : n < 64 := by
  unfold sextet? at h
  have hc := c.toNat_lt
  grind

theorem symbol_sextet {c : UInt8} {n : Nat} (h : sextet? c = some n) : symbol n = c := by
  have hn := sextet_lt h
  have hc := c.toNat_lt
  apply UInt8.toNat_inj.mp
  unfold sextet? at h
  simp only at h
  split at h
  · obtain rfl := Option.some.inj h
    rw [symbol, if_pos (by omega)]
    simp; omega
  split at h
  · obtain rfl := Option.some.inj h
    rw [symbol, if_neg (by omega), if_pos (by omega)]
    simp; omega
  split at h
  · obtain rfl := Option.some.inj h
    rw [symbol, if_neg (by omega), if_neg (by omega), if_pos (by omega)]
    simp
  split at h
  · obtain rfl := Option.some.inj h
    simp_all [symbol]
  split at h
  · obtain rfl := Option.some.inj h
    simp_all [symbol]
  · simp at h

theorem sextet_pad : sextet? pad = none := rfl

theorem symbol_ne_pad {n : Nat} (h : n < 64) : symbol n ≠ pad := by
  intro e
  have hs := sextet_symbol h
  rw [e, sextet_pad] at hs
  simp at hs

/-- The encoder: groups of three bytes, a short last group padded. -/
def encode : List UInt8 → List UInt8
  | [] => []
  | [a] => [symbol (a.toNat / 4), symbol (a.toNat % 4 * 16), pad, pad]
  | [a, b] =>
      [symbol (a.toNat / 4), symbol (a.toNat % 4 * 16 + b.toNat / 16),
        symbol (b.toNat % 16 * 4), pad]
  | a :: b :: c :: rest =>
      symbol (a.toNat / 4) :: symbol (a.toNat % 4 * 16 + b.toNat / 16) ::
        symbol (b.toNat % 16 * 4 + c.toNat / 64) :: symbol (c.toNat % 64) :: encode rest

/-- A full group of four symbols. -/
def quad? (w x y z : UInt8) : Option (List UInt8) :=
  match sextet? w, sextet? x, sextet? y, sextet? z with
  | some i, some j, some k, some l =>
      some [UInt8.ofNat (i * 4 + j / 16), UInt8.ofNat (j % 16 * 16 + k / 4),
        UInt8.ofNat (k % 4 * 64 + l)]
  | _, _, _, _ => none

/-- A last group with one padding symbol: the two low bits of the third symbol must be zero. -/
def triple? (w x y : UInt8) : Option (List UInt8) :=
  match sextet? w, sextet? x, sextet? y with
  | some i, some j, some k =>
      if k % 4 = 0 then some [UInt8.ofNat (i * 4 + j / 16), UInt8.ofNat (j % 16 * 16 + k / 4)]
      else none
  | _, _, _ => none

/-- A last group with two padding symbols: the four low bits of the second symbol must be zero. -/
def pair? (w x : UInt8) : Option (List UInt8) :=
  match sextet? w, sextet? x with
  | some i, some j => if j % 16 = 0 then some [UInt8.ofNat (i * 4 + j / 16)] else none
  | _, _ => none

/-- The last group of four symbols, the only one that may be padded. -/
def lastGroup? (w x y z : UInt8) : Option (List UInt8) :=
  if z = pad then (if y = pad then pair? w x else triple? w x y) else quad? w x y z

/-- The strict decoder. -/
def decode : List UInt8 → Option (List UInt8)
  | [] => some []
  | [w, x, y, z] => lastGroup? w x y z
  | w :: x :: y :: z :: rest =>
      (quad? w x y z).bind fun group => (decode rest).map (group ++ ·)
  | _ => none

theorem quad_symbol (a b c : UInt8) :
    quad? (symbol (a.toNat / 4)) (symbol (a.toNat % 4 * 16 + b.toNat / 16))
      (symbol (b.toNat % 16 * 4 + c.toNat / 64)) (symbol (c.toNat % 64)) = some [a, b, c] := by
  have ha := a.toNat_lt; have hb := b.toNat_lt; have hc := c.toNat_lt
  have h1 : sextet? (symbol (a.toNat / 4)) = some (a.toNat / 4) := sextet_symbol (by omega)
  have h2 : sextet? (symbol (a.toNat % 4 * 16 + b.toNat / 16)) =
      some (a.toNat % 4 * 16 + b.toNat / 16) := sextet_symbol (by omega)
  have h3 : sextet? (symbol (b.toNat % 16 * 4 + c.toNat / 64)) =
      some (b.toNat % 16 * 4 + c.toNat / 64) := sextet_symbol (by omega)
  have h4 : sextet? (symbol (c.toNat % 64)) = some (c.toNat % 64) := sextet_symbol (by omega)
  have e1 : UInt8.ofNat (a.toNat / 4 * 4 + (a.toNat % 4 * 16 + b.toNat / 16) / 16) = a := by
    apply UInt8.toNat_inj.mp; simp; omega
  have e2 : UInt8.ofNat ((a.toNat % 4 * 16 + b.toNat / 16) % 16 * 16 +
      (b.toNat % 16 * 4 + c.toNat / 64) / 4) = b := by
    apply UInt8.toNat_inj.mp; simp; omega
  have e3 : UInt8.ofNat ((b.toNat % 16 * 4 + c.toNat / 64) % 4 * 64 + c.toNat % 64) = c := by
    apply UInt8.toNat_inj.mp; simp; omega
  simp only [quad?, h1, h2, h3, h4, e1, e2, e3]

theorem triple_symbol (a b : UInt8) :
    triple? (symbol (a.toNat / 4)) (symbol (a.toNat % 4 * 16 + b.toNat / 16))
      (symbol (b.toNat % 16 * 4)) = some [a, b] := by
  have ha := a.toNat_lt; have hb := b.toNat_lt
  have h1 : sextet? (symbol (a.toNat / 4)) = some (a.toNat / 4) := sextet_symbol (by omega)
  have h2 : sextet? (symbol (a.toNat % 4 * 16 + b.toNat / 16)) =
      some (a.toNat % 4 * 16 + b.toNat / 16) := sextet_symbol (by omega)
  have h3 : sextet? (symbol (b.toNat % 16 * 4)) = some (b.toNat % 16 * 4) :=
    sextet_symbol (by omega)
  have e1 : UInt8.ofNat (a.toNat / 4 * 4 + (a.toNat % 4 * 16 + b.toNat / 16) / 16) = a := by
    apply UInt8.toNat_inj.mp; simp; omega
  have e2 :
      UInt8.ofNat ((a.toNat % 4 * 16 + b.toNat / 16) % 16 * 16 + b.toNat % 16 * 4 / 4) = b := by
    apply UInt8.toNat_inj.mp; simp; omega
  have hk : b.toNat % 16 * 4 % 4 = 0 := by omega
  simp only [triple?, h1, h2, h3, e1, e2, hk, if_true]

theorem pair_symbol (a : UInt8) :
    pair? (symbol (a.toNat / 4)) (symbol (a.toNat % 4 * 16)) = some [a] := by
  have ha := a.toNat_lt
  have h1 : sextet? (symbol (a.toNat / 4)) = some (a.toNat / 4) := sextet_symbol (by omega)
  have h2 : sextet? (symbol (a.toNat % 4 * 16)) = some (a.toNat % 4 * 16) :=
    sextet_symbol (by omega)
  have e1 : UInt8.ofNat (a.toNat / 4 * 4 + a.toNat % 4 * 16 / 16) = a := by
    apply UInt8.toNat_inj.mp; simp; omega
  have hk : a.toNat % 4 * 16 % 16 = 0 := by omega
  simp only [pair?, h1, h2, e1, hk, if_true]

/-- Where there are bytes there are symbols. -/
theorem encode_cons_ne_nil {a : UInt8} {l : List UInt8} : encode (a :: l) ≠ [] := by
  rcases l with _ | ⟨b, _ | ⟨c, rest⟩⟩ <;> simp [encode]

/-- Decoding an encoding gives the bytes back. -/
theorem decode_encode (data : List UInt8) : decode (encode data) = some data := by
  induction data using encode.induct with
  | case1 => rfl
  | case2 a => simp [encode, decode, lastGroup?, pair_symbol]
  | case3 a b =>
      have hy : symbol (b.toNat % 16 * 4) ≠ pad :=
        symbol_ne_pad (by have := b.toNat_lt; omega)
      simp [encode, decode, lastGroup?, triple_symbol, hy]
  | case4 a b c rest ih =>
      have hz : symbol (c.toNat % 64) ≠ pad := symbol_ne_pad (by omega)
      cases rest with
      | nil => simp [encode, decode, lastGroup?, quad_symbol, hz]
      | cons d ds =>
          obtain ⟨s, ss, hs⟩ :=
            List.exists_cons_of_ne_nil (encode_cons_ne_nil (a := d) (l := ds))
          rw [encode, hs, decode, quad_symbol, ← hs, ih]
          · rfl
          · simp

theorem symbols_of_quad {w x y z : UInt8} {group : List UInt8} (h : quad? w x y z = some group) :
    ∃ a b c, group = [a, b, c] ∧ symbol (a.toNat / 4) = w ∧
      symbol (a.toNat % 4 * 16 + b.toNat / 16) = x ∧
      symbol (b.toNat % 16 * 4 + c.toNat / 64) = y ∧ symbol (c.toNat % 64) = z := by
  unfold quad? at h
  split at h
  · rename_i i j k l hi hj hk hl
    have bi := sextet_lt hi; have bj := sextet_lt hj
    have bk := sextet_lt hk; have bl := sextet_lt hl
    refine ⟨_, _, _, (Option.some.inj h).symm, ?_, ?_, ?_, ?_⟩
    · rw [← symbol_sextet hi]; congr 1; simp; omega
    · rw [← symbol_sextet hj]; congr 1; simp; omega
    · rw [← symbol_sextet hk]; congr 1; simp; omega
    · rw [← symbol_sextet hl]; congr 1; simp; omega
  · simp at h

theorem symbols_of_triple {w x y : UInt8} {group : List UInt8} (h : triple? w x y = some group) :
    ∃ a b, group = [a, b] ∧ symbol (a.toNat / 4) = w ∧
      symbol (a.toNat % 4 * 16 + b.toNat / 16) = x ∧ symbol (b.toNat % 16 * 4) = y := by
  unfold triple? at h
  split at h
  · rename_i i j k hi hj hk
    have bi := sextet_lt hi; have bj := sextet_lt hj; have bk := sextet_lt hk
    split at h
    · refine ⟨_, _, (Option.some.inj h).symm, ?_, ?_, ?_⟩
      · rw [← symbol_sextet hi]; congr 1; simp; omega
      · rw [← symbol_sextet hj]; congr 1; simp; omega
      · rw [← symbol_sextet hk]; congr 1; simp; omega
    · simp at h
  · simp at h

theorem symbols_of_pair {w x : UInt8} {group : List UInt8} (h : pair? w x = some group) :
    ∃ a, group = [a] ∧ symbol (a.toNat / 4) = w ∧ symbol (a.toNat % 4 * 16) = x := by
  unfold pair? at h
  split at h
  · rename_i i j hi hj
    have bi := sextet_lt hi; have bj := sextet_lt hj
    split at h
    · refine ⟨_, (Option.some.inj h).symm, ?_, ?_⟩
      · rw [← symbol_sextet hi]; congr 1; simp; omega
      · rw [← symbol_sextet hj]; congr 1; simp; omega
    · simp at h
  · simp at h

/-- Only encodings are accepted. -/
theorem encode_of_decode {text : List UInt8} :
    ∀ {data : List UInt8}, decode text = some data → encode data = text := by
  induction text using decode.induct with
  | case1 => intro data h; simp [decode] at h; subst h; rfl
  | case2 w x y z =>
      intro data h
      rw [decode, lastGroup?] at h
      split at h
      · rename_i hz
        split at h
        · rename_i hy
          obtain ⟨a, rfl, hw, hx⟩ := symbols_of_pair h
          simp [encode, hw, hx, hy, hz]
        · obtain ⟨a, b, rfl, hw, hx, hy⟩ := symbols_of_triple h
          simp [encode, hw, hx, hy, hz]
      · obtain ⟨a, b, c, rfl, hw, hx, hy, hz⟩ := symbols_of_quad h
        simp [encode, hw, hx, hy, hz]
  | case3 w x y z rest hrest ih =>
      intro data h
      rw [decode] at h
      · obtain ⟨group, hg, h⟩ := Option.bind_eq_some_iff.mp h
        obtain ⟨tail, ht, rfl⟩ := Option.map_eq_some_iff.mp h
        obtain ⟨a, b, c, rfl, hw, hx, hy, hz⟩ := symbols_of_quad hg
        simp [encode, hw, hx, hy, hz, ih ht]
      · exact hrest
  | case4 text h1 h2 h3 =>
      intro data h
      rw [decode] at h
      · simp at h
      all_goals assumption

/-- Every symbol the encoder writes is a letter of the alphabet or the padding symbol. -/
theorem mem_encode {data : List UInt8} :
    ∀ {c : UInt8}, c ∈ encode data → c = pad ∨ ∃ n < 64, c = symbol n := by
  have sym : ∀ n, n < 64 → symbol n = pad ∨ ∃ m < 64, symbol n = symbol m :=
    fun n hn => Or.inr ⟨n, hn, rfl⟩
  induction data using encode.induct with
  | case1 => intro c h; simp [encode] at h
  | case2 a =>
      intro c h
      have ha := a.toNat_lt
      simp only [encode, List.mem_cons, List.not_mem_nil, or_false] at h
      rcases h with rfl | rfl | rfl | rfl
      · exact sym _ (by omega)
      · exact sym _ (by omega)
      · exact Or.inl rfl
      · exact Or.inl rfl
  | case3 a b =>
      intro c h
      have ha := a.toNat_lt; have hb := b.toNat_lt
      simp only [encode, List.mem_cons, List.not_mem_nil, or_false] at h
      rcases h with rfl | rfl | rfl | rfl
      · exact sym _ (by omega)
      · exact sym _ (by omega)
      · exact sym _ (by omega)
      · exact Or.inl rfl
  | case4 a b d rest ih =>
      intro c h
      have ha := a.toNat_lt; have hb := b.toNat_lt; have hd := d.toNat_lt
      simp only [encode, List.mem_cons] at h
      rcases h with rfl | rfl | rfl | rfl | h
      · exact sym _ (by omega)
      · exact sym _ (by omega)
      · exact sym _ (by omega)
      · exact sym _ (by omega)
      · exact ih h

/-- A byte outside the alphabet never occurs in an encoding. -/
theorem notMem_encode {c : UInt8} (hpad : c ≠ pad) (hc : sextet? c = none) (data : List UInt8) :
    c ∉ encode data := by
  intro h
  rcases mem_encode h with rfl | ⟨n, hn, rfl⟩
  · exact hpad rfl
  · rw [sextet_symbol hn] at hc
    simp at hc

example : encode [72, 101, 108, 108, 111] = [83, 71, 86, 115, 98, 71, 56, 61] := by decide

end Base64
