/-
# Socketio.AckDrain — how the two clients take the matching entries out.

The asynchronous `handle_ack` walks an index over the outstanding acks and removes at the index as
it goes, the synchronous one removes at the position of the first match.  Here both are written with
the accesses of the source, which panic out of range.

`Drain.turns` is the invariant of the loop: after any number of turns, the entries looked at have
been split, and the rest has moved up behind those that stay.
-/
import TfSocketio.Socketio.Acks
import Mathlib.Logic.Function.Iterate

namespace TfSocketio.Socketio

/-- `Vec::remove`; nothing if it panics. -/
def remove? (outstanding : List Ack) (index : Nat) : Option (Ack × List Ack) :=
  outstanding[index]?.map fun ack => (ack, outstanding.eraseIdx index)

/-- The loop, between two looks at its condition. -/
inductive Drain where
  | looping (index : Nat) (outstanding matched : List Ack)
  | done (matched outstanding : List Ack)
  | panicked
  deriving DecidableEq, Repr

namespace Drain

/-- One turn of the loop of the asynchronous `handle_ack`. -/
def turn (id : Int) : Drain → Drain
  | .looping index outstanding matched =>
      if index < outstanding.length then
        match outstanding[index]? with
        | none => .panicked
        | some ack =>
            if ack.id = id then
              match remove? outstanding index with
              | none => .panicked
              | some (ack, outstanding) => .looping index outstanding (matched ++ [ack])
            else .looping (index + 1) outstanding matched
      else .done matched outstanding
  | .done matched outstanding => .done matched outstanding
  | .panicked => .panicked

/-- The loop after a number of turns. -/
def after (id : Int) (turns : Nat) (outstanding : List Ack) : Drain :=
  (turn id)^[turns] (.looping 0 outstanding [])

theorem after_succ (id : Int) (turns : Nat) (outstanding : List Ack) :
    after id (turns + 1) outstanding = turn id (after id turns outstanding) :=
  Function.iterate_succ_apply' _ _ _

/-- A turn at an entry: the index stands behind the entries that stay. -/
theorem turn_cons (id : Int) (kept rest matched : List Ack) (ack : Ack) :
    turn id (.looping kept.length (kept ++ ack :: rest) matched) =
      if ack.id = id then .looping kept.length (kept ++ rest) (matched ++ [ack])
      else .looping (kept.length + 1) (kept ++ ack :: rest) matched := by
  have hlt : kept.length < (kept ++ ack :: rest).length := by simp
  have hget : (kept ++ ack :: rest)[kept.length]? = some ack := by simp
  have herase : (kept ++ ack :: rest).eraseIdx kept.length = kept ++ rest := by
    rw [List.eraseIdx_append_of_length_le (Nat.le_refl _)]
    simp
  have hremove : remove? (kept ++ ack :: rest) kept.length = some (ack, kept ++ rest) := by
    rw [remove?, hget, herase]
    rfl
  simp only [turn, if_pos hlt, hget, hremove]

/-- **The invariant of the loop.** -/
theorem turns (id : Int) (outstanding : List Ack) (n : Nat) (hn : n ≤ outstanding.length) :
    after id n outstanding =
      .looping ((outstanding.take n).filter fun ack => ack.id ≠ id).length
        (((outstanding.take n).filter fun ack => ack.id ≠ id) ++ outstanding.drop n)
        ((outstanding.take n).filter fun ack => ack.id = id) := by
  induction n with
  | zero => rfl
  | succ n ih =>
      have hlt : n < outstanding.length := by omega
      have htake : outstanding.take (n + 1) = outstanding.take n ++ [outstanding[n]] :=
        (List.take_concat_get' outstanding n hlt).symm
      rw [after_succ, ih (by omega), List.drop_eq_getElem_cons hlt, turn_cons, htake,
        List.filter_append, List.filter_append]
      generalize outstanding.take n = looked
      by_cases hid : outstanding[n].id = id
      · simp [hid]
      · simp [hid]

/-- The turn at the end of the list is the last one. -/
theorem after_length (id : Int) (outstanding : List Ack) :
    after id (outstanding.length + 1) outstanding =
      .done (outstanding.filter fun ack => ack.id = id)
        (outstanding.filter fun ack => ack.id ≠ id) := by
  rw [after_succ, turns id outstanding outstanding.length (Nat.le_refl _), List.take_length,
    List.drop_length, List.append_nil]
  simp [turn]

theorem after_done {id : Int} {outstanding matched rest : List Ack} {n : Nat}
    (h : after id n outstanding = .done matched rest) (more : Nat) :
    after id (n + more) outstanding = .done matched rest := by
  induction more with
  | zero => exact h
  | succ more ih => rw [← Nat.add_assoc, after_succ, ih, turn]

/-- No turn accesses anything out of range. -/
theorem after_ne_panicked (id : Int) (outstanding : List Ack) (n : Nat) :
    after id n outstanding ≠ .panicked := by
  by_cases hn : n ≤ outstanding.length
  · rw [turns id outstanding n hn]
    simp
  · have hdone := after_done (after_length id outstanding) (n - (outstanding.length + 1))
    rw [show outstanding.length + 1 + (n - (outstanding.length + 1)) = n by omega] at hdone
    rw [hdone]
    simp

end Drain

/-! ## The synchronous client -/

/-- `position`, then `remove` at that position: the entry taken out, if there is one, and the
others; nothing if it panics. -/
def takeFirst (id : Int) (outstanding : List Ack) : Option (Option Ack × List Ack) :=
  match outstanding.findIdx? fun ack => ack.id = id with
  | none => some (none, outstanding)
  | some pos => (remove? outstanding pos).map fun (ack, outstanding) => (some ack, outstanding)

/-- The position of the first match is in range. -/
theorem takeFirst_eq (id : Int) (outstanding : List Ack) :
    takeFirst id outstanding = some (outstanding.find? fun ack => ack.id = id,
      outstanding.eraseP fun ack => ack.id = id) := by
  induction outstanding with
  | nil => rfl
  | cons ack rest ih =>
      unfold takeFirst at ih ⊢
      by_cases hid : ack.id = id
      · simp [List.findIdx?_cons, remove?, hid]
      · rw [List.findIdx?_cons, if_neg (by simpa using hid),
          List.find?_cons_of_neg (by simpa using hid),
          List.eraseP_cons_of_neg (by simpa using hid)]
        generalize rest.findIdx? (fun ack => ack.id = id) = position at ih ⊢
        cases position with
        | none =>
            obtain ⟨hfind, herase⟩ := Prod.mk.inj (Option.some.inj ih)
            show some (none, ack :: rest) = _
            rw [← hfind, ← herase]
        | some pos =>
            obtain ⟨⟨taken, others⟩, htaken, heq⟩ := Option.map_eq_some_iff.mp ih
            obtain ⟨hfind, herase⟩ := Prod.mk.inj heq
            obtain ⟨taken', hget, hpair⟩ := Option.map_eq_some_iff.mp htaken
            obtain ⟨rfl, rfl⟩ := Prod.mk.inj hpair
            rw [← hfind, ← herase]
            simp [remove?, hget]

/-! ## Both clients -/

/-- The loop computes `takeMatching`. -/
theorem Drain.after_takeMatching (id : Int) (outstanding : List Ack) :
    after id (outstanding.length + 1) outstanding =
      .done (takeMatching .async id outstanding).1 (takeMatching .async id outstanding).2 := by
  rw [after_length, takeMatching_async]

/-- So do `position` and `remove`. -/
theorem takeFirst_takeMatching (id : Int) (outstanding : List Ack) : ∃ matched,
    takeFirst id outstanding = some (matched, (takeMatching .sync id outstanding).2) ∧
      matched.toList = (takeMatching .sync id outstanding).1 :=
  ⟨_, takeFirst_eq id outstanding, rfl⟩

/-- **The drain takes out the matching entries and no others.**  The loop ends, and never accesses
the list out of range; what is matched are the entries with the id, what stays are the others, both
in order.  Another ack with the id finds nothing.  If no two entries have the same id, the
synchronous client takes out the same entry and leaves the same list. -/
theorem drains (id : Int) (outstanding : List Ack) :
    (∃ turns, Drain.after id turns outstanding =
      .done (outstanding.filter fun ack => ack.id = id)
        (outstanding.filter fun ack => ack.id ≠ id)) ∧
    (∀ turns, Drain.after id turns outstanding ≠ .panicked) ∧
    (∃ turns, Drain.after id turns (outstanding.filter fun ack => ack.id ≠ id) =
      .done [] (outstanding.filter fun ack => ack.id ≠ id)) ∧
    ((outstanding.map Ack.id).Nodup → ∃ matched,
      takeFirst id outstanding =
        some (matched, outstanding.filter fun ack => ack.id ≠ id) ∧
      matched.toList = outstanding.filter fun ack => ack.id = id) := by
  refine ⟨⟨_, Drain.after_length id outstanding⟩, Drain.after_ne_panicked id outstanding, ?_, ?_⟩
  · refine ⟨_, (Drain.after_length id _).trans ?_⟩
    simp [List.filter_filter]
  · intro hnodup
    obtain ⟨matched, htake, hmatched⟩ := takeFirst_takeMatching id outstanding
    rw [takeMatching_of_nodup .sync id hnodup] at htake hmatched
    exact ⟨matched, htake, hmatched⟩

/-- Three entries with ids of their own, and an ack for the second. -/
theorem drains_distinct : ∃ matched,
    takeFirst 5 [⟨0, 4, 0, 10⟩, ⟨1, 5, 0, 10⟩, ⟨2, 6, 0, 1⟩] =
      some (matched, [⟨0, 4, 0, 10⟩, ⟨2, 6, 0, 1⟩]) ∧ matched.toList = [⟨1, 5, 0, 10⟩] :=
  (drains 5 [⟨0, 4, 0, 10⟩, ⟨1, 5, 0, 10⟩, ⟨2, 6, 0, 1⟩]).2.2.2 (by decide)

end TfSocketio.Socketio
