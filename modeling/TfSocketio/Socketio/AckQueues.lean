/-
# Socketio.AckQueues — requests that draw the same id.

Nothing but an ack with its id takes an entry out of `outstanding_acks`, a timeout least of all, and
the draws of `emit_with_ack` do not look at the ids in use.  So the entries with one id are a queue:
`invoked_iff` says when the callback of the n-th request with an id is invoked, in any run and
whatever the draws, and `capacity` how many requests may stay without an answer before no draws at
all keep the acks apart.
-/
import TfSocketio.Socketio.Acks
import Mathlib.Data.List.Perm.Subperm

namespace TfSocketio.Socketio

/-! ## The entries with one id -/

/-- The entries with an id, in the order of the list. -/
def line (id : Int) (acks : List Ack) : List Ack := acks.filter fun ack => ack.id = id

theorem mem_line {id : Int} {acks : List Ack} {ack : Ack} :
    ack ∈ line id acks ↔ ack ∈ acks ∧ ack.id = id := by
  simp [line]

theorem line_cons (id : Int) (ack : Ack) (acks : List Ack) :
    line id (ack :: acks) = if ack.id = id then ack :: line id acks else line id acks := by
  simp only [line, List.filter_cons, decide_eq_true_eq]

/-- The first entry with the id, and what stays in its line without it. -/
theorem find_line (id : Int) (acks : List Ack) :
    (acks.find? fun ack => ack.id = id).toList = (line id acks).take 1 ∧
      line id (acks.eraseP fun ack => ack.id = id) = (line id acks).drop 1 := by
  induction acks with
  | nil => exact ⟨rfl, rfl⟩
  | cons ack rest ih =>
      rw [line_cons]
      by_cases hid : ack.id = id
      · rw [if_pos hid, List.find?_cons_of_pos (by simpa using hid),
          List.eraseP_cons_of_pos (by simpa using hid)]
        exact ⟨rfl, rfl⟩
      · rw [if_neg hid, List.find?_cons_of_neg (by simpa using hid),
          List.eraseP_cons_of_neg (by simpa using hid), line_cons, if_neg hid]
        exact ih

/-- The lines of the other ids stay as they are. -/
theorem line_eraseP {id other : Int} (h : other ≠ id) (acks : List Ack) :
    line other (acks.eraseP fun ack => ack.id = id) = line other acks := by
  induction acks with
  | nil => rfl
  | cons ack rest ih =>
      by_cases hid : ack.id = id
      · have hne : ack.id ≠ other := fun he => h (he.symm.trans hid)
        rw [List.eraseP_cons_of_pos (by simpa using hid), line_cons, if_neg hne]
      · rw [List.eraseP_cons_of_neg (by simpa using hid), line_cons, line_cons, ih]

/-- How many entries of its line an ack takes. -/
def Flavour.served : Flavour → List Ack → Nat
  | .sync, _ => 1
  | .async, waiting => waiting.length

/-- **An ack takes the front of the line of its id.** -/
theorem takeMatching_line (flavour : Flavour) (id : Int) (acks : List Ack) :
    (takeMatching flavour id acks).1 =
        (line id acks).take (flavour.served (line id acks)) ∧
      line id (takeMatching flavour id acks).2 =
        (line id acks).drop (flavour.served (line id acks)) := by
  cases flavour with
  | sync => exact find_line id acks
  | async =>
      rw [takeMatching_async]
      constructor
      · exact (List.take_length ..).symm
      · show List.filter _ (List.filter _ _) = List.drop (line id acks).length _
        rw [List.drop_length, List.filter_filter, List.filter_eq_nil_iff]
        intro ack _
        simp

/-- It takes nothing from the other lines. -/
theorem takeMatching_other (flavour : Flavour) {id other : Int} (h : other ≠ id)
    (acks : List Ack) :
    line other (takeMatching flavour id acks).1 = [] ∧
      line other (takeMatching flavour id acks).2 = line other acks := by
  constructor
  · rw [(takeMatching_line flavour id acks).1, line, List.filter_eq_nil_iff]
    intro ack hack
    have hid := (mem_line.mp (List.mem_of_mem_take hack)).2
    simp only [decide_eq_true_eq]
    exact fun he => h (he.symm.trans hid)
  · cases flavour with
    | sync => exact line_eraseP h acks
    | async =>
        rw [takeMatching_async]
        show List.filter _ (List.filter _ _) = List.filter _ _
        rw [List.filter_filter]
        refine List.filter_congr fun ack _ => ?_
        by_cases he : ack.id = other <;> simp [he, h]

namespace AckState

/-! ## What enters and what leaves -/

/-- The entry that a step pushes. -/
def registered (s : AckState) : Label → List Ack
  | .emitWithAck id timeout => [⟨s.started, id.val, s.now, timeout⟩]
  | _ => []

/-- The entries that a step takes out of the list. -/
def removed (flavour : Flavour) (s : AckState) : Label → List Ack
  | .ack packet _ =>
      match packet.id with
      | none => []
      | some id => (takeMatching flavour id s.outstanding).1
  | .reconnect =>
      match flavour with
      | .sync => s.outstanding
      | .async => []
  | _ => []

/-- The entries with an id that a run has pushed. -/
def pushed (flavour : Flavour) (id : Int) (labels : List Label) : List Ack :=
  line id (Lts.outputs (step flavour) registered init labels)

/-- The entries with an id that have left the list in a run. -/
def gone (flavour : Flavour) (id : Int) (labels : List Label) : List Ack :=
  line id (Lts.outputs (step flavour) (removed flavour) init labels)

/-- What an ack takes and what stays are, line by line, what was outstanding. -/
theorem line_handleAck (flavour : Flavour) (id : Int) (packet : Packet) (request : Option Ack)
    (s : AckState) :
    line id (s.removed flavour (.ack packet request)) ++
      line id (handleAck flavour packet s.now s.outstanding).2 = line id s.outstanding := by
  cases hid : packet.id with
  | none => simp [removed, handleAck, hid, line]
  | some key =>
      simp only [removed, handleAck, hid]
      by_cases hkey : id = key
      · obtain ⟨htaken, hkept⟩ := takeMatching_line flavour key s.outstanding
        rw [hkey, hkept, htaken]
        have hfront : line key ((line key s.outstanding).take
            (flavour.served (line key s.outstanding))) =
            (line key s.outstanding).take (flavour.served (line key s.outstanding)) := by
          rw [line, List.filter_eq_self]
          intro ack hack
          simpa using (mem_line.mp (List.mem_of_mem_take hack)).2
        rw [hfront, List.take_append_drop]
      · obtain ⟨hnone, hsame⟩ := takeMatching_other flavour hkey s.outstanding
        rw [hnone, hsame, List.nil_append]

/-- The entries with an id are a queue in every step. -/
theorem line_step (flavour : Flavour) (id : Int) (s : AckState) (a : Label) (s' : AckState)
    (h : step flavour s a = some s') :
    line id (s.removed flavour a) ++ line id s'.outstanding =
      line id s.outstanding ++ line id (s.registered a) := by
  cases step_cases h with
  | ack packet request =>
      show _ ++ line id (handleAck flavour packet s.now s.outstanding).2 = _ ++ line id []
      rw [line_handleAck]
      simp [line]
  | renew hf =>
      subst hf
      simp [removed, registered, line]
  | keep hf =>
      subst hf
      simp [removed, registered, line]
  | _ => simp [removed, registered, line]

/-- **The entries with an id are a queue in every run**: they leave in the order in which their
requests were made. -/
theorem gone_append_outstanding {flavour : Flavour} {labels : List Label} {s : AckState}
    (h : Lts.run (step flavour) init labels = some s) (id : Int) :
    gone flavour id labels ++ line id s.outstanding = pushed flavour id labels := by
  have hledger := Lts.ledger (line_step flavour id) h
  simp only [line, Lts.outputs_filter] at hledger
  exact hledger

/-- The serial numbers of what a run pushes are the numbers from where it starts. -/
theorem serials_pushed {flavour : Flavour} {labels : List Label} {s s' : AckState}
    (h : Lts.run (step flavour) s labels = some s') :
    List.range s.started ++
        (Lts.outputs (step flavour) registered s labels).map Ack.serial =
      List.range s'.started := by
  induction labels generalizing s with
  | nil =>
      obtain rfl := Option.some.inj h
      simp [Lts.outputs]
  | cons a labels ih =>
      rw [Lts.run_cons] at h
      obtain ⟨t, ht, h⟩ := Option.bind_eq_some_iff.mp h
      have hstep : List.range s.started ++ (s.registered a).map Ack.serial =
          List.range t.started := by
        cases step_cases ht with
        | emitWithAck drawn timeout => exact List.range_succ.symm
        | _ => exact List.append_nil _
      rw [Lts.outputs_cons ht, List.map_append, ← List.append_assoc, hstep]
      exact ih h

/-- No request is pushed twice. -/
theorem nodup_pushed {flavour : Flavour} {labels : List Label} {s : AckState}
    (h : Lts.run (step flavour) init labels = some s) (id : Int) :
    (pushed flavour id labels).Nodup := by
  have hserials := serials_pushed h
  have hnodup : ((Lts.outputs (step flavour) registered init labels).map Ack.serial).Nodup := by
    have hrange : (List.range s.started).Nodup := List.nodup_range
    rw [← hserials] at hrange
    exact (List.nodup_append.mp hrange).2.1
  exact hnodup.of_map.filter _

/-! ## Whose turn it is -/

/-- An ack reaches the n-th entry of a line of which some have left. -/
def Turn (left n : Nat) : Flavour → Prop
  | .sync => left = n
  | .async => left ≤ n

/-- An entry of the line is among its first ones exactly if its place is. -/
theorem mem_take_iff {acks : List Ack} (h : acks.Nodup) {n k : Nat} {ack : Ack}
    (hn : acks[n]? = some ack) : ack ∈ acks.take k ↔ n < k := by
  rw [List.mem_take_iff_getElem]
  obtain ⟨hlt, rfl⟩ := List.getElem?_eq_some_iff.mp hn
  constructor
  · rintro ⟨m, hm, he⟩
    have hsame : m = n := (List.Nodup.getElem_inj_iff h).mp he
    omega
  · intro hk
    exact ⟨n, by omega, rfl⟩

/-- **When the callback of a request is invoked, whatever the draws.**  In any run, an ack with an
id invokes the callback of the n-th request with that id exactly if the request is in time, the ack
carries something, and it is that request's turn: in the synchronous client, that all earlier
requests with the id have left the list and itself has not; in the asynchronous one, that itself has
not. -/
theorem invoked_iff {flavour : Flavour} {labels : List Label} {s : AckState}
    (h : Lts.run (step flavour) init labels = some s) {id : Int} {n : Nat} {request : Ack}
    (hn : (pushed flavour id labels)[n]? = some request) {packet : Packet}
    (hid : packet.id = some id) (now : Nat) :
    request ∈ (handleAck flavour packet now s.outstanding).1 ↔
      request.inTime now ∧ payloadCount packet ≠ 0 ∧
        Turn (gone flavour id labels).length n flavour := by
  have hqueue := gone_append_outstanding h id
  have hnodup := nodup_pushed h id
  rw [← hqueue] at hn hnodup
  have htaken := (takeMatching_line flavour id s.outstanding).1
  have hmem : request ∈ (handleAck flavour packet now s.outstanding).1 ↔
      request ∈ (line id s.outstanding).take (flavour.served (line id s.outstanding)) ∧
        request.inTime now ∧ payloadCount packet ≠ 0 := by
    simp only [handleAck, hid, htaken, List.mem_flatMap, List.mem_filter, List.mem_replicate]
    constructor
    · rintro ⟨ack, ⟨hack, htime⟩, hcount, rfl⟩
      exact ⟨hack, htime, hcount⟩
    · rintro ⟨hrequest, htime, hcount⟩
      exact ⟨request, ⟨hrequest, htime⟩, hcount, rfl⟩
  have hturn : request ∈ (line id s.outstanding).take (flavour.served (line id s.outstanding)) ↔
      Turn (gone flavour id labels).length n flavour := by
    by_cases hlt : n < (gone flavour id labels).length
    · -- the request has left, and none comes twice
      rw [List.getElem?_append_left hlt] at hn
      have hgone := List.mem_of_getElem? hn
      have hnot : request ∉ line id s.outstanding := fun hline =>
        (List.nodup_append.mp hnodup).2.2 request hgone request hline rfl
      refine iff_of_false (fun hm => hnot (List.mem_of_mem_take hm)) ?_
      cases flavour with
      | sync => exact Nat.ne_of_gt hlt
      | async => exact Nat.not_le.mpr hlt
    · rw [List.getElem?_append_right (by omega)] at hn
      rw [mem_take_iff (List.nodup_append.mp hnodup).2.1 hn]
      have hplace := (List.getElem?_eq_some_iff.mp hn).1
      cases flavour with
      | sync =>
          show n - (gone .sync id labels).length < 1 ↔ (gone .sync id labels).length = n
          omega
      | async =>
          show n - (gone .async id labels).length < (line id s.outstanding).length ↔
            (gone .async id labels).length ≤ n
          omega
  rw [hmem, hturn, and_comm, and_assoc]

/-- An ack without anything in it but the id of both requests. -/
def emptyAck : Packet := ⟨.ack, ['/'], some "[]".toList, some 7, 0, none⟩

/-- It is not the second request's turn in the synchronous client; in the asynchronous one it is
everybody's. -/
theorem invoked_iff_equalDraws :
    (∃ s, Lts.run (step .sync) init (equalDraws.take 4) = some s ∧
      (⟨1, 7, 0, 10⟩ : Ack) ∉ (handleAck .sync emptyAck 5 s.outstanding).1) ∧
    ∃ s, Lts.run (step .async) init (equalDraws.take 4) = some s ∧
      (⟨1, 7, 0, 10⟩ : Ack) ∈ (handleAck .async emptyAck 5 s.outstanding).1 := by
  constructor
  · refine ⟨_, rfl, fun hm => ?_⟩
    have hturn := ((@invoked_iff .sync (equalDraws.take 4) _ rfl 7 1 _ rfl emptyAck rfl 5).mp
      hm).2.2
    exact absurd hturn (show ¬ 0 = 1 by omega)
  · refine ⟨_, rfl, ?_⟩
    apply (@invoked_iff .async (equalDraws.take 4) _ rfl 7 1 _ rfl emptyAck rfl 5).mpr
    exact ⟨rfl, by decide, show 0 ≤ 1 by omega⟩

/-! ## How many requests the ids tell apart -/

def Label.isRequest : Label → Bool
  | .emitWithAck _ _ => true
  | _ => false

def Label.isAck : Label → Bool
  | .ack packet _ => packet.id.isSome
  | _ => false

/-- The ids are below 999, so distinct ones are no more. -/
theorem length_le_of_nodup {flavour : Flavour} {labels : List Label} {s : AckState}
    (h : Lts.run (step flavour) init labels = some s) (hn : (s.outstanding.map Ack.id).Nodup) :
    s.outstanding.length ≤ 999 := by
  have hids : s.outstanding.map Ack.id ⊆ (List.range 999).map Int.ofNat := by
    intro id hid
    obtain ⟨ack, hack, rfl⟩ := List.mem_map.mp hid
    have hpushed : ack ∈ pushed flavour ack.id labels := by
      rw [← gone_append_outstanding h]
      exact List.mem_append_right _ (mem_line.mpr ⟨hack, rfl⟩)
    obtain ⟨t, a, -, hout⟩ := Lts.mem_outputs (mem_line.mp hpushed).1
    cases a with
    | emitWithAck drawn timeout =>
        obtain rfl := List.mem_singleton.mp hout
        exact List.mem_map.mpr ⟨drawn.val, List.mem_range.mpr drawn.isLt, rfl⟩
    | _ => exact absurd hout List.not_mem_nil
  have hle := (hn.subperm hids).length_le
  simpa using hle

/-- With distinct ids an ack takes no more than one entry. -/
theorem length_handleAck (flavour : Flavour) (packet : Packet) (now : Nat)
    {outstanding : List Ack} (h : (outstanding.map Ack.id).Nodup) :
    outstanding.length ≤ (handleAck flavour packet now outstanding).2.length +
      if packet.id.isSome then 1 else 0 := by
  rw [handleAck_outstanding flavour packet now h]
  cases hid : packet.id with
  | none => simp
  | some id =>
      have hline : (line id outstanding).length ≤ 1 := by
        have hall : (line id outstanding).map Ack.id =
            List.replicate (line id outstanding).length id := by
          rw [List.eq_replicate_iff]
          refine ⟨List.length_map .., ?_⟩
          intro other hother
          obtain ⟨ack, hack, rfl⟩ := List.mem_map.mp hother
          exact (mem_line.mp hack).2
        have hnodup : ((line id outstanding).map Ack.id).Nodup :=
          h.sublist (List.filter_sublist.map Ack.id)
        rw [hall] at hnodup
        exact List.nodup_replicate.mp hnodup
      have hsplit := List.length_eq_length_filter_add (l := outstanding) fun ack => ack.id = id
      have hrest : (outstanding.filter fun ack => !decide (ack.id = id)) =
          outstanding.filter fun ack => some id ≠ some ack.id := by
        refine List.filter_congr fun ack _ => ?_
        by_cases he : ack.id = id
        · simp [he]
        · have hne : ¬ id = ack.id := fun hh => he hh.symm
          simp [he, hne]
      rw [hrest] at hsplit
      simp only [Option.isSome_some, if_true]
      show outstanding.length ≤ _ + 1
      rw [hsplit]
      simp only [line] at hline
      omega

/-- With distinct ids, a step that takes an entry out is an ack. -/
theorem length_step {flavour : Flavour} {s s' : AckState} {a : Label}
    (hn : (s.outstanding.map Ack.id).Nodup) (ha : flavour = .sync → a ≠ .reconnect)
    (h : step flavour s a = some s') :
    s.outstanding.length + [a].countP Label.isRequest ≤
      s'.outstanding.length + [a].countP Label.isAck := by
  cases step_cases h with
  | emitWithAck drawn timeout => simp [Label.isRequest, Label.isAck]
  | ack packet request =>
      have hone : [Label.ack packet request].countP Label.isAck =
          if packet.id.isSome then 1 else 0 := by
        cases hid : packet.id <;> simp [Label.isAck, hid]
      rw [hone]
      exact length_handleAck flavour packet s.now hn
  | renew hf => exact absurd rfl (ha hf)
  | _ => simp [Label.isRequest, Label.isAck]

/-- Requests without an ack stay outstanding as long as the ids are distinct. -/
theorem length_run {flavour : Flavour} {labels : List Label} {s s' : AckState}
    (h : Lts.run (step flavour) s labels = some s')
    (hstay : flavour = .sync → Label.reconnect ∉ labels)
    (hdistinct : Lts.Throughout (step flavour) Distinct s labels) :
    s.outstanding.length + labels.countP Label.isRequest ≤
      s'.outstanding.length + labels.countP Label.isAck := by
  induction labels generalizing s with
  | nil =>
      obtain rfl := Option.some.inj h
      exact Nat.le_refl _
  | cons a labels ih =>
      rw [Lts.run_cons] at h
      obtain ⟨t, ht, h⟩ := Option.bind_eq_some_iff.mp h
      have hnodup := hdistinct [] (a :: labels) s rfl rfl
      have hstep := length_step hnodup
        (fun hf he => hstay hf (he ▸ List.mem_cons_self)) ht
      have hrest := ih h (fun hf hm => hstay hf (List.mem_cons_of_mem _ hm)) (hdistinct.tail ht)
      rw [← List.singleton_append, List.countP_append, List.countP_append]
      omega

/-- **The ids wear out.**  As long as the outstanding ids are distinct, at most 999 requests are
without an ack, however long ago they timed out.  The asynchronous client takes them along when it
reconnects. -/
theorem capacity {flavour : Flavour} {labels : List Label} {s : AckState}
    (h : Lts.run (step flavour) init labels = some s)
    (hstay : flavour = .sync → Label.reconnect ∉ labels)
    (hdistinct : Lts.Throughout (step flavour) Distinct init labels) :
    labels.countP Label.isRequest ≤ 999 + labels.countP Label.isAck := by
  have hnodup := hdistinct labels [] s (List.append_nil _).symm h
  have houtstanding := length_le_of_nodup h hnodup
  have hcount := length_run h hstay hdistinct
  have hnone : init.outstanding.length = 0 := rfl
  omega

/-- A request that times out before a reconnect. -/
def timedOut : List Label := equalDraws.take 1 ++ [.wait 20, .reconnect]

/-- It still counts. -/
theorem capacity_timedOut :
    timedOut.countP Label.isRequest ≤ 999 + timedOut.countP Label.isAck := by
  have halong : Lts.Along (step .async) Fresh init timedOut :=
    .cons rfl (by simp [Fresh, init]) (.cons rfl trivial (.cons rfl trivial (.nil _)))
  have hdistinct : Lts.Throughout (step .async) Distinct init timedOut :=
    (Lts.throughout_iff_along (I := fun _ => True) (fun _ _ _ _ _ _ => trivial)
      (fun _ _ _ _ hn h => distinct_step_iff hn h) trivial
      (show init.Distinct from List.nodup_nil) _).mpr halong
  have hasync : Flavour.async ≠ .sync := by simp
  exact @capacity .async timedOut _ rfl (fun hf => absurd hf hasync) hdistinct

end AckState

end TfSocketio.Socketio
