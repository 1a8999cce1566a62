/-
# Socketio.Acks — which callback an incoming ack invokes.

`emit_with_ack` draws an id below 999, pushes an entry with that id and the caller's callback onto
the outstanding acks, and sends the request; `handle_ack` looks the id of an incoming ack up there.
The synchronous client takes the first entry with the id, the asynchronous one all of them, and the
asynchronous one keeps the entries over a reconnect.

A step is one of these, in any interleaving; any ack may come at any time.  `Routed` is what the
callers rely on, `Apart` the exact condition on the draws and the acks that gives it, and `Orderly`
what a server can do for its part.
-/
import TfSocketio.Lib.Lts
import TfSocketio.Socketio.Packet
import Mathlib.Data.List.Nodup

namespace TfSocketio.Socketio

/-- An entry of `outstanding_acks`.  The serial number stands for the callback: it tells which
request registered it. -/
structure Ack where
  serial : Nat
  id : Int
  timeStarted : Nat
  timeout : Nat
  deriving DecidableEq, Repr

/-- `ack.time_started.elapsed() < ack.timeout`. -/
def Ack.inTime (ack : Ack) (now : Nat) : Bool := now - ack.timeStarted < ack.timeout

/-! ## Taking entries out -/

/-- The index loop of the asynchronous `handle_ack`: the matched entries and the others. -/
def drainLoop (id : Int) (index : Nat) (outstanding matched : List Ack) : List Ack × List Ack :=
  if h : index < outstanding.length then
    if outstanding[index].id = id then
      drainLoop id index (outstanding.eraseIdx index) (matched ++ [outstanding[index]])
    else drainLoop id (index + 1) outstanding matched
  else (matched, outstanding)
termination_by outstanding.length - index
decreasing_by
  · rw [List.length_eraseIdx_of_lt h]
    omega
  · omega

/-- The loop leaves what is before the index alone and splits the rest. -/
theorem drainLoop_append (id : Int) (kept rest matched : List Ack) :
    drainLoop id kept.length (kept ++ rest) matched =
      (matched ++ rest.filter fun ack => ack.id = id,
        kept ++ rest.filter fun ack => ack.id ≠ id) := by
  induction rest generalizing kept matched with
  | nil =>
      rw [drainLoop]
      simp
  | cons ack rest ih =>
      rw [drainLoop]
      have hlt : kept.length < (kept ++ ack :: rest).length := by simp
      have hget : (kept ++ ack :: rest)[kept.length] = ack := by simp
      have herase : (kept ++ ack :: rest).eraseIdx kept.length = kept ++ rest := by
        rw [List.eraseIdx_append_of_length_le (Nat.le_refl _)]
        simp
      simp only [hlt, dite_true, hget]
      split
      · -- the entry is taken out, and the index now points at the next one
        rename_i hid
        rw [herase, ih]
        simp [hid]
      · -- the entry is kept: it joins what is before the index
        rename_i hid
        have hnext := ih (kept ++ [ack]) matched
        simp only [List.length_append, List.length_singleton, List.append_assoc,
          List.singleton_append] at hnext
        rw [hnext]
        simp [hid]

/-- The two clients. -/
inductive Flavour where
  | sync
  | async
  deriving DecidableEq, Repr

/-- The entries an ack with the given id takes out of the outstanding ones, and what stays. -/
def takeMatching (flavour : Flavour) (id : Int) (outstanding : List Ack) : List Ack × List Ack :=
  match flavour with
  | .sync =>
      -- `position`, then `remove` at that index
      ((outstanding.find? fun ack => ack.id = id).toList,
        outstanding.eraseP fun ack => ack.id = id)
  | .async => drainLoop id 0 outstanding []

theorem takeMatching_async (id : Int) (outstanding : List Ack) :
    takeMatching .async id outstanding =
      (outstanding.filter fun ack => ack.id = id, outstanding.filter fun ack => ack.id ≠ id) :=
  drainLoop_append id [] outstanding []

/-- With pairwise distinct ids, the first entry with an id is all entries with that id. -/
theorem takeMatching_of_nodup (flavour : Flavour) (id : Int) {outstanding : List Ack}
    (h : (outstanding.map Ack.id).Nodup) :
    takeMatching flavour id outstanding =
      (outstanding.filter fun ack => ack.id = id, outstanding.filter fun ack => ack.id ≠ id) := by
  cases flavour with
  | async => exact takeMatching_async id outstanding
  | sync =>
      simp only [takeMatching, Prod.mk.injEq]
      induction outstanding with
      | nil => exact ⟨rfl, rfl⟩
      | cons ack rest ih =>
          obtain ⟨hack, hrest⟩ := List.nodup_cons.mp h
          by_cases hid : ack.id = id
          · -- this is the entry, and no later one has its id
            have hother : ∀ other ∈ rest, other.id ≠ id := fun other ho he =>
              hack (List.mem_map.mpr ⟨other, ho, he.trans hid.symm⟩)
            have hnone : (rest.filter fun ack => ack.id = id) = [] := by
              rw [List.filter_eq_nil_iff]
              intro other ho
              simpa using hother other ho
            have hall : (rest.filter fun ack => ack.id ≠ id) = rest := by
              rw [List.filter_eq_self]
              intro other ho
              simpa using hother other ho
            constructor
            · simp [hid, hnone]
            · rw [List.eraseP_cons_of_pos (by simpa using hid),
                List.filter_cons_of_neg (by simpa using hid), hall]
          · obtain ⟨hfind, herase⟩ := ih hrest
            constructor
            · rw [List.find?_cons_of_neg (by simpa using hid), hfind,
                List.filter_cons_of_neg (by simpa using hid)]
            · rw [List.eraseP_cons_of_neg (by simpa using hid), herase,
                List.filter_cons_of_pos (by simpa using hid)]

/-- With pairwise distinct ids, the only entry with the id of an entry is that entry. -/
theorem filter_id_of_nodup {outstanding : List Ack} (h : (outstanding.map Ack.id).Nodup)
    {request : Ack} (hm : request ∈ outstanding) :
    (outstanding.filter fun ack => ack.id = request.id) = [request] := by
  induction outstanding with
  | nil => simp at hm
  | cons ack rest ih =>
      obtain ⟨hack, hrest⟩ := List.nodup_cons.mp h
      rcases List.mem_cons.mp hm with rfl | hm
      · have hnone : (rest.filter fun ack => ack.id = request.id) = [] := by
          rw [List.filter_eq_nil_iff]
          intro other ho
          simp only [decide_eq_true_eq]
          exact fun he => hack (List.mem_map.mpr ⟨other, ho, he⟩)
        simp [hnone]
      · have hne : ack.id ≠ request.id := fun he =>
          hack (List.mem_map.mpr ⟨request, hm, he.symm⟩)
        rw [List.filter_cons_of_neg (by simpa using hne)]
        exact ih hrest hm

/-- How often `handle_ack` invokes a callback: once for the data, once for the first attachment. -/
def payloadCount (packet : Packet) : Nat :=
  packet.data.toList.length + ((packet.attachments.getD []).take 1).length

/-- The callbacks an ack invokes, and the entries that stay outstanding (`handle_ack`). -/
def handleAck (flavour : Flavour) (packet : Packet) (now : Nat) (outstanding : List Ack) :
    List Ack × List Ack :=
  match packet.id with
  | none => ([], outstanding)
  | some id =>
      let (matched, outstanding) := takeMatching flavour id outstanding
      -- an entry that is too late leaves the list without its callback being invoked
      ((matched.filter fun ack => ack.inTime now).flatMap (List.replicate (payloadCount packet)),
        outstanding)

/-! ## The steps -/

/-- An ack that was handled: the request it answers, if any, whether it is the first answer to it,
and the callbacks it invoked. -/
structure Handled where
  packet : Packet
  answers : Option Ack
  first : Bool
  now : Nat
  invoked : List Ack

structure AckState where
  outstanding : List Ack
  /-- The requests that `emit_with_ack` has registered and is about to send. -/
  unsent : List Ack
  /-- The requests that the server has received. -/
  received : List Ack
  /-- Those of them that it has not answered yet. -/
  awaiting : List Ack
  started : Nat
  now : Nat
  handled : List Handled

namespace AckState

def init : AckState where
  outstanding := []
  unsent := []
  received := []
  awaiting := []
  started := 0
  now := 0
  handled := []

inductive Label where
  /-- `emit_with_ack` has drawn an id and pushed its entry. -/
  | emitWithAck (id : Fin 999) (timeout : Nat)
  /-- Its send went through. -/
  | deliver (request : Ack)
  /-- Its send failed; the entry stays. -/
  | fail (request : Ack)
  /-- An incoming ack is handled, whatever it is, and the request it is meant for. -/
  | ack (packet : Packet) (request : Option Ack)
  | wait (duration : Nat)
  | reconnect

/-- The request that an ack answers: the server has received it, and the ack has its id.  What is
meant for no such request answers none. -/
def answered (s : AckState) (packet : Packet) (request : Option Ack) : Option Ack :=
  request.filter fun request => request ∈ s.received && packet.id = some request.id

def step (flavour : Flavour) (s : AckState) : Label → Option AckState
  | .emitWithAck id timeout =>
      let ack : Ack := ⟨s.started, id.val, s.now, timeout⟩
      some { s with
        outstanding := s.outstanding ++ [ack]
        unsent := s.unsent ++ [ack]
        started := s.started + 1 }
  | .deliver request =>
      if request ∈ s.unsent then
        some { s with
          unsent := s.unsent.filter fun ack => ack ≠ request
          received := s.received ++ [request]
          awaiting := s.awaiting ++ [request] }
      else none
  | .fail request => some { s with unsent := s.unsent.filter fun ack => ack ≠ request }
  | .ack packet request =>
      let (invoked, outstanding) := handleAck flavour packet s.now s.outstanding
      let answers := s.answered packet request
      some { s with
        outstanding
        awaiting := s.awaiting.filter fun ack => some ack ≠ answers
        handled := s.handled ++
          [⟨packet, answers, answers.any fun request => request ∈ s.awaiting, s.now, invoked⟩] }
  | .wait duration => some { s with now := s.now + duration }
  | .reconnect =>
      match flavour with
      -- a fresh `RawClient`, with its own list, takes over
      | .sync => some { s with outstanding := [], unsent := [], awaiting := [] }
      | .async => some s

/-- **Everything a step can do.** -/
inductive Transition (flavour : Flavour) (s : AckState) : Label → AckState → Prop
  | emitWithAck (id : Fin 999) (timeout : Nat) :
      Transition flavour s (.emitWithAck id timeout) { s with
        outstanding := s.outstanding ++ [⟨s.started, id.val, s.now, timeout⟩]
        unsent := s.unsent ++ [⟨s.started, id.val, s.now, timeout⟩]
        started := s.started + 1 }
  | deliver (request : Ack) (hreq : request ∈ s.unsent) :
      Transition flavour s (.deliver request) { s with
        unsent := s.unsent.filter fun ack => ack ≠ request
        received := s.received ++ [request]
        awaiting := s.awaiting ++ [request] }
  | fail (request : Ack) :
      Transition flavour s (.fail request) { s with
        unsent := s.unsent.filter fun ack => ack ≠ request }
  | ack (packet : Packet) (request : Option Ack) :
      Transition flavour s (.ack packet request) { s with
        outstanding := (handleAck flavour packet s.now s.outstanding).2
        awaiting := s.awaiting.filter fun ack => some ack ≠ s.answered packet request
        handled := s.handled ++
          [⟨packet, s.answered packet request,
            (s.answered packet request).any fun request => request ∈ s.awaiting, s.now,
            (handleAck flavour packet s.now s.outstanding).1⟩] }
  | wait (duration : Nat) :
      Transition flavour s (.wait duration) { s with now := s.now + duration }
  | renew (hf : flavour = .sync) :
      Transition flavour s .reconnect { s with outstanding := [], unsent := [], awaiting := [] }
  | keep (hf : flavour = .async) : Transition flavour s .reconnect s

theorem step_cases {flavour : Flavour} {s s' : AckState} {a : Label}
    (h : step flavour s a = some s') : Transition flavour s a s' := by
  cases a with
  | emitWithAck id timeout =>
      cases h
      exact .emitWithAck id timeout
  | deliver request =>
      obtain ⟨hreq, hs⟩ := Option.ite_none_right_eq_some.mp h
      obtain rfl := Option.some.inj hs
      exact .deliver request hreq
  | fail request =>
      cases h
      exact .fail request
  | ack packet request =>
      cases h
      exact .ack packet request
  | wait duration =>
      cases h
      exact .wait duration
  | reconnect =>
      cases flavour with
      | sync =>
          cases h
          exact .renew rfl
      | async =>
          cases h
          exact .keep rfl

/-- An ack that answers a request invoked the callback of that request with every payload it
carries, if it is the first answer and in time, and no other callback. -/
def Handled.Routed (handled : Handled) : Prop :=
  ∀ request ∈ handled.answers, handled.invoked =
    if handled.first ∧ request.inTime handled.now then
      List.replicate (payloadCount handled.packet) request
    else []

/-- The outstanding ids are pairwise distinct. -/
def Distinct (s : AckState) : Prop := (s.outstanding.map Ack.id).Nodup

/-- They are, and every ack so far reached its request. -/
structure Routed (s : AckState) : Prop where
  distinct : s.Distinct
  routed : ∀ handled ∈ s.handled, Handled.Routed handled

/-- A drawn id is not the id of an outstanding entry. -/
def Fresh (s : AckState) : Label → Prop
  | .emitWithAck id _ => (id.val : Int) ∉ s.outstanding.map Ack.id
  | _ => True

/-- And if an ack that carries something answers a request, then what is outstanding with its id
and in time is the request that it answers for the first time. -/
def Apart (s : AckState) : Label → Prop
  | .ack packet request => ∀ answers ∈ s.answered packet request, payloadCount packet ≠ 0 →
      ∀ ack, ack ∈ s.outstanding ∧ ack.id = answers.id ∧ ack.inTime s.now ↔
        ack = answers ∧ answers ∈ s.awaiting ∧ answers.inTime s.now
  | a => s.Fresh a

/-! ## Routing -/

/-- What an ack leaves outstanding, with pairwise distinct ids. -/
theorem handleAck_outstanding (flavour : Flavour) (packet : Packet) (now : Nat)
    {outstanding : List Ack} (h : (outstanding.map Ack.id).Nodup) :
    (handleAck flavour packet now outstanding).2 =
      outstanding.filter fun ack => packet.id ≠ some ack.id := by
  unfold handleAck
  cases packet.id with
  | none => simp
  | some id =>
      simp only [takeMatching_of_nodup flavour id h, ne_eq, Option.some.injEq, eq_comm]

/-- Whom an ack invokes, with pairwise distinct ids. -/
theorem mem_handleAck (flavour : Flavour) {packet : Packet} (now : Nat) {outstanding : List Ack}
    (h : (outstanding.map Ack.id).Nodup) {id : Int} (hid : packet.id = some id) (ack : Ack) :
    ack ∈ (handleAck flavour packet now outstanding).1 ↔
      (ack ∈ outstanding ∧ ack.id = id ∧ ack.inTime now) ∧ payloadCount packet ≠ 0 := by
  simp only [handleAck, hid, takeMatching_of_nodup flavour id h, List.mem_flatMap,
    List.mem_filter, List.mem_replicate, decide_eq_true_eq]
  constructor
  · rintro ⟨other, ⟨⟨hm, hother⟩, htime⟩, hcount, rfl⟩
    exact ⟨⟨hm, hother, htime⟩, hcount⟩
  · rintro ⟨⟨hm, hother, htime⟩, hcount⟩
    exact ⟨ack, ⟨⟨hm, hother⟩, htime⟩, hcount, rfl⟩

/-- The entry of a request is all that an ack with its id can reach. -/
theorem handleAck_of_mem (flavour : Flavour) {packet : Packet} (now : Nat)
    {outstanding : List Ack} (h : (outstanding.map Ack.id).Nodup) {request : Ack}
    (hid : packet.id = some request.id) (hm : request ∈ outstanding) :
    (handleAck flavour packet now outstanding).1 =
      if request.inTime now then List.replicate (payloadCount packet) request else [] := by
  have hmatched := filter_id_of_nodup h hm
  simp only [handleAck, hid, takeMatching_of_nodup flavour request.id h, hmatched]
  by_cases htime : request.inTime now <;> simp [htime]

theorem answered_eq_some {s : AckState} {packet : Packet} {request : Option Ack} {answers : Ack}
    (h : answers ∈ s.answered packet request) :
    answers ∈ s.received ∧ packet.id = some answers.id := by
  have hfilter := (Option.filter_eq_some_iff.mp h).2
  simpa using hfilter

/-- An ack reaches the request it answers exactly if the entries keep it apart from the others. -/
theorem routed_iff_apart_ack (flavour : Flavour) {s : AckState} (hn : s.Distinct)
    {packet : Packet} {request : Option Ack} :
    Handled.Routed ⟨packet, s.answered packet request,
        (s.answered packet request).any fun request => request ∈ s.awaiting, s.now,
        (handleAck flavour packet s.now s.outstanding).1⟩ ↔
      s.Apart (.ack packet request) := by
  have hfirst : ∀ answers ∈ s.answered packet request,
      ((s.answered packet request).any fun request => request ∈ s.awaiting) =
        decide (answers ∈ s.awaiting) := by
    intro answers hanswers
    rw [Option.mem_def.mp hanswers]
    rfl
  constructor
  · intro hrouted answers hanswers hcount ack
    have hid := (answered_eq_some hanswers).2
    have hinvoked := hrouted answers hanswers
    simp only [hfirst answers hanswers, decide_eq_true_eq] at hinvoked
    have hmem := mem_handleAck flavour s.now hn hid ack
    rw [hinvoked] at hmem
    rw [← and_iff_left hcount (a := ack ∈ s.outstanding ∧ _), ← hmem]
    by_cases hdue : answers ∈ s.awaiting ∧ answers.inTime s.now
    · simp [hdue, hcount]
    · simp [hdue]
  · intro hapart answers hanswers
    have hid := (answered_eq_some hanswers).2
    simp only [hfirst answers hanswers, decide_eq_true_eq]
    by_cases hcount : payloadCount packet = 0
    · -- it carries nothing, and invokes nobody
      have hnone : (handleAck flavour packet s.now s.outstanding).1 = [] := by
        refine List.eq_nil_iff_forall_not_mem.mpr fun ack hack => ?_
        exact ((mem_handleAck flavour s.now hn hid ack).mp hack).2 hcount
      simp [hnone, hcount]
    · have hentries := hapart answers hanswers hcount
      by_cases hdue : answers ∈ s.awaiting ∧ answers.inTime s.now
      · have hm := ((hentries answers).mpr ⟨rfl, hdue⟩).1
        rw [if_pos hdue, handleAck_of_mem flavour s.now hn hid hm, if_pos hdue.2]
      · rw [if_neg hdue]
        refine List.eq_nil_iff_forall_not_mem.mpr fun ack hack => hdue ?_
        exact ((hentries ack).mp ((mem_handleAck flavour s.now hn hid ack).mp hack).1).2

/-- A step keeps the ids distinct exactly when a draw it makes is fresh. -/
theorem distinct_step_iff {flavour : Flavour} {s : AckState} {a : Label} {s' : AckState}
    (hn : s.Distinct) (h : step flavour s a = some s') : s'.Distinct ↔ s.Fresh a := by
  cases step_cases h with
  | emitWithAck id timeout =>
      -- the only step that brings an id in
      show (List.map Ack.id (s.outstanding ++ [_])).Nodup ↔ _
      rw [List.map_append, List.nodup_append]
      constructor
      · rintro ⟨-, -, hne⟩ hm
        exact hne _ hm _ (by simp) rfl
      · intro hm
        refine ⟨hn, by simp, ?_⟩
        rintro a ha b hb rfl
        simp only [List.map_cons, List.map_nil, List.mem_singleton] at hb
        exact hm (hb ▸ ha)
  | ack packet request =>
      refine iff_of_true ?_ trivial
      show (List.map Ack.id _).Nodup
      rw [handleAck_outstanding flavour packet s.now hn]
      exact hn.sublist (List.filter_sublist.map Ack.id)
  | renew hf => exact iff_of_true List.nodup_nil trivial
  | _ => exact iff_of_true hn trivial

/-- And it keeps the acks routed too exactly when it keeps the requests apart. -/
theorem routed_step_iff {flavour : Flavour} (s : AckState) (a : Label) (s' : AckState)
    (hr : s.Routed) (h : step flavour s a = some s') : s'.Routed ↔ s.Apart a := by
  have hdistinct := distinct_step_iff hr.distinct h
  cases step_cases h with
  | ack packet request =>
      rw [← routed_iff_apart_ack flavour hr.distinct]
      constructor
      · exact fun h' => h'.routed _ (List.mem_append_right _ (List.mem_singleton_self _))
      · intro hrouted
        refine ⟨hdistinct.mpr trivial, ?_⟩
        intro handled hm
        rcases List.mem_append.mp hm with hm | hm
        · exact hr.routed handled hm
        · obtain rfl := List.mem_singleton.mp hm
          exact hrouted
  | _ => exact ⟨fun h' => hdistinct.mp h'.distinct, fun ha => ⟨hdistinct.mpr ha, hr.routed⟩⟩

theorem routed_init : init.Routed := ⟨List.nodup_nil, by simp [init]⟩

/-- **Acks are routed to their requests exactly as long as every drawn id is fresh and the entries
keep the requests apart when an ack comes**, in both clients. -/
theorem routed_iff_apart (flavour : Flavour) (labels : List Label) :
    Lts.Throughout (step flavour) Routed init labels ↔
      Lts.Along (step flavour) Apart init labels :=
  Lts.throughout_iff_along (I := fun _ => True) (fun _ _ _ _ _ _ => trivial)
    (fun s a s' _ hr h => routed_step_iff s a s' hr h) trivial routed_init labels

/-- Two requests draw the same id, and the server answers the second one. -/
def equalDraws : List Label :=
  [.emitWithAck 7 10, .deliver ⟨0, 7, 0, 10⟩, .emitWithAck 7 10, .deliver ⟨1, 7, 0, 10⟩,
    .ack ⟨.ack, ['/'], some "[]".toList, some 7, 0, none⟩ (some ⟨1, 7, 0, 10⟩)]

/-- The synchronous client invokes the callback of the first request instead; in both clients two
outstanding entries share an id. -/
theorem not_routed_equalDraws :
    ¬ Lts.Throughout (step .sync) Routed init equalDraws ∧
      ¬ Lts.Throughout (step .async) Routed init equalDraws := by
  constructor
  · intro h
    obtain ⟨t, ht, hhandled⟩ : ∃ t, Lts.run (step .sync) init equalDraws = some t ∧
        t.handled = [⟨⟨.ack, ['/'], some "[]".toList, some 7, 0, none⟩, some ⟨1, 7, 0, 10⟩, true,
          0, [⟨0, 7, 0, 10⟩]⟩] := ⟨_, rfl, rfl⟩
    have hall := (h _ [] t (List.append_nil _).symm ht).routed
    rw [hhandled] at hall
    have hrouted := hall _ (List.mem_singleton_self _) _ rfl
    exact absurd hrouted (by decide)
  · intro h
    obtain ⟨t, ht, hids⟩ : ∃ t, Lts.run (step .async) init (equalDraws.take 3) = some t ∧
        t.outstanding.map Ack.id = [7, 7] := ⟨_, rfl, rfl⟩
    have hnodup := (h _ (equalDraws.drop 3) t (List.take_append_drop 3 _).symm ht).distinct
    rw [Distinct, hids] at hnodup
    exact absurd hnodup (by decide)

/-! ## An orderly server -/

/-- The draws are fresh, and the server answers a request once and otherwise sends no ack with the
id of an outstanding entry. -/
def Orderly (s : AckState) : Label → Prop
  | .ack packet request => (∃ answers ∈ s.answered packet request, answers ∈ s.awaiting) ∨
      ∀ ack ∈ s.outstanding, packet.id ≠ some ack.id
  | a => s.Fresh a

/-- What such a run keeps: a request in progress has its entry. -/
structure Invariant (s : AckState) : Prop where
  lt : ∀ ack ∈ s.outstanding, ack.serial < s.started
  unsent : ∀ ack ∈ s.unsent, ack ∈ s.outstanding
  awaiting : ∀ ack ∈ s.awaiting, ack ∈ s.outstanding
  disjoint : ∀ ack ∈ s.unsent, ack ∉ s.awaiting

theorem invariant_init : init.Invariant :=
  ⟨by simp [init], by simp [init], by simp [init], by simp [init]⟩

/-- An orderly ack leaves the other requests in progress their entries. -/
theorem Invariant.kept {s : AckState} (hs : s.Invariant) (hn : s.Distinct) {packet : Packet}
    {request : Option Ack} (ho : s.Orderly (.ack packet request)) {ack : Ack}
    (hm : ack ∈ s.outstanding)
    (hp : ack ∈ s.unsent ∨ ack ∈ s.awaiting ∧ some ack ≠ s.answered packet request) :
    packet.id ≠ some ack.id := by
  rcases ho with ⟨answers, hanswers, hawaiting⟩ | ho
  · have hne : ack ≠ answers := by
      rintro rfl
      rcases hp with hp | ⟨-, hp⟩
      · exact hs.disjoint ack hp hawaiting
      · exact hp hanswers.symm
    rw [(answered_eq_some hanswers).2]
    intro heq
    exact hne (List.inj_on_of_nodup_map hn (hs.awaiting answers hawaiting) hm
      (Option.some.inj heq)).symm
  · exact ho ack hm

theorem Invariant.step {flavour : Flavour} {s : AckState} {a : Label} {s' : AckState}
    (hs : s.Invariant) (hn : s.Distinct) (ho : s.Orderly a) (h : step flavour s a = some s') :
    s'.Invariant := by
  cases step_cases h with
  | emitWithAck id timeout =>
      refine ⟨?_, ?_, ?_, ?_⟩
      · intro ack hm
        rcases List.mem_append.mp hm with hm | hm
        · exact Nat.lt_succ_of_lt (hs.lt ack hm)
        · obtain rfl := List.mem_singleton.mp hm
          exact Nat.lt_succ_self _
      · intro ack hm
        rcases List.mem_append.mp hm with hm | hm
        · exact List.mem_append_left _ (hs.unsent ack hm)
        · exact List.mem_append_right _ hm
      · exact fun ack hm => List.mem_append_left _ (hs.awaiting ack hm)
      · intro ack hm ha
        rcases List.mem_append.mp hm with hm | hm
        · exact hs.disjoint ack hm ha
        · -- the new entry's serial number is above all others
          obtain rfl := List.mem_singleton.mp hm
          have hlt := hs.lt _ (hs.awaiting _ ha)
          exact absurd hlt (Nat.lt_irrefl _)
  | deliver request hreq =>
      refine ⟨hs.lt, ?_, ?_, ?_⟩
      · exact fun ack hm => hs.unsent ack (List.mem_filter.mp hm).1
      · intro ack hm
        rcases List.mem_append.mp hm with hm | hm
        · exact hs.awaiting ack hm
        · obtain rfl := List.mem_singleton.mp hm
          exact hs.unsent ack hreq
      · intro ack hm ha
        obtain ⟨hu, hne⟩ := List.mem_filter.mp hm
        rcases List.mem_append.mp ha with ha | ha
        · exact hs.disjoint ack hu ha
        · exact (of_decide_eq_true hne) (List.mem_singleton.mp ha)
  | fail request =>
      exact ⟨hs.lt, fun ack hm => hs.unsent ack (List.mem_filter.mp hm).1, hs.awaiting,
        fun ack hm => hs.disjoint ack (List.mem_filter.mp hm).1⟩
  | ack packet request =>
      have hout := handleAck_outstanding flavour packet s.now hn
      refine ⟨?_, ?_, ?_, ?_⟩
      · intro ack hm
        simp only [hout] at hm
        exact hs.lt ack (List.mem_filter.mp hm).1
      · intro ack hm
        have hmo := hs.unsent ack hm
        simp only [hout]
        exact List.mem_filter.mpr ⟨hmo, decide_eq_true (hs.kept hn ho hmo (.inl hm))⟩
      · intro ack hm
        obtain ⟨ha, hne⟩ := List.mem_filter.mp hm
        have hmo := hs.awaiting ack ha
        have hkept := hs.kept hn ho hmo (.inr ⟨ha, of_decide_eq_true hne⟩)
        simp only [hout]
        exact List.mem_filter.mpr ⟨hmo, decide_eq_true hkept⟩
      · exact fun ack hm ha => hs.disjoint ack hm (List.mem_filter.mp ha).1
  | wait duration => exact ⟨hs.lt, hs.unsent, hs.awaiting, hs.disjoint⟩
  | renew hf => exact ⟨by simp, by simp, by simp, by simp⟩
  | keep hf => exact hs

/-- An orderly step keeps the requests apart. -/
theorem Invariant.apart {s : AckState} (hs : s.Invariant) (hn : s.Distinct) {a : Label}
    (ho : s.Orderly a) : s.Apart a := by
  cases a with
  | ack packet request =>
      intro answers hanswers _ ack
      have hid := (answered_eq_some hanswers).2
      rcases ho with ⟨first, hfirst, hawaiting⟩ | ho
      · obtain rfl : first = answers := Option.some.inj (hfirst.symm.trans hanswers)
        have hentry := hs.awaiting first hawaiting
        constructor
        · rintro ⟨hm, hsame, htime⟩
          obtain rfl := List.inj_on_of_nodup_map hn hm hentry hsame
          exact ⟨rfl, hawaiting, htime⟩
        · rintro ⟨rfl, -, htime⟩
          exact ⟨hentry, rfl, htime⟩
      · -- an answer given again, to a request that has no entry any more
        have hnone : ∀ other ∈ s.outstanding, other.id ≠ answers.id := fun other hm hsame =>
          ho other hm (hid.trans (congrArg some hsame.symm))
        constructor
        · rintro ⟨hm, hsame, -⟩
          exact absurd hsame (hnone ack hm)
        · rintro ⟨-, hawaiting, -⟩
          exact absurd rfl (hnone answers (hs.awaiting answers hawaiting))
  | _ => exact ho

/-- **With fresh draws and an orderly server, every ack reaches its request.** -/
theorem routed_of_orderly {flavour : Flavour} {labels : List Label}
    (h : Lts.Along (step flavour) Orderly init labels) :
    Lts.Throughout (step flavour) Routed init labels := by
  rintro before after t rfl ht
  have hboth : t.Invariant ∧ t.Routed := by
    refine Lts.invariant_along (P := fun s => s.Invariant ∧ s.Routed) ?_
      ⟨invariant_init, routed_init⟩ h.before ht
    rintro s a s' ⟨hs, hr⟩ ho hstep
    exact ⟨hs.step hr.distinct ho hstep,
      (routed_step_iff s a s' hr hstep).mpr (hs.apart hr.distinct ho)⟩
  exact hboth.2

end AckState

end TfSocketio.Socketio
