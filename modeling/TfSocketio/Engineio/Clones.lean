/-
# Engineio.Clones — clones of the blocking client that poll at the same time.

All clones of a client share one socket.  `Socket::poll` takes a packet out of the buffered payload
in one critical section and stores the rest of a new payload in another, with a blocking poll of the
transport in between; so two clones that found the buffer used up both ask the transport, and the
one that stores last overwrites what the other one has stored.

A step is one of those sections in any of the calls, and any number of clones take part.  Every
packet decoded carries its position among all of them; the code has no such number.
`delivered_iff_undisturbed` says which steps lose packets.
-/
import TfSocketio.Engineio.Socket
import TfSocketio.Lib.Lts
import Mathlib.Data.List.Nodup
import Mathlib.Logic.Function.Basic

namespace TfSocketio.Engineio

/-! ## The steps -/

/-- A decoded packet with its position among all packets decoded. -/
abbrev Entry := Packet × Nat

/-- Where a call of `Socket::poll` stands. -/
inductive Caller where
  /-- No call. -/
  | idle
  /-- At the top of the loop. -/
  | top
  /-- About to look whether there is a buffered payload. -/
  | looking
  /-- About to advance the buffered payload. -/
  | advancing
  /-- Polling the transport. -/
  | asking
  /-- About to store the rest of a payload, and then to return its first packet. -/
  | storing (packet : Entry) (iter : List Entry)
  deriving DecidableEq, Repr

/-- The packets a call has taken from the transport and not made accessible yet. -/
def Caller.held : Caller → List Entry
  | .storing packet iter => packet :: iter
  | _ => []

/-- The packets a call returns. -/
def Polled.packets : Polled → List Packet
  | .packet p => [p]
  | _ => []

structure Clones where
  connected : Bool
  remainingPackets : Option (List Entry)
  callers : Nat → Caller
  /-- The packets decoded so far. -/
  decoded : List Packet
  /-- The packets the calls have returned. -/
  returned : List Entry

namespace Clones

/-- A socket that has read nothing yet. -/
def init (connected : Bool) : Clones where
  connected
  remainingPackets := none
  callers _ := .idle
  decoded := []
  returned := []

/-- The packets in the buffered payload. -/
def buffered (s : Clones) : List Entry := s.remainingPackets.getD []

/-- A clone's call goes on elsewhere. -/
def goto (s : Clones) (i : Nat) (caller : Caller) : Clones :=
  { s with callers := Function.update s.callers i caller }

/-- A call has returned a packet and left the rest of its payload. -/
def afterReturn (s : Clones) (i : Nat) (packet : Entry) (iter : List Entry) : Clones :=
  { s.goto i .idle with remainingPackets := some iter, returned := s.returned ++ [packet] }

/-- A call has decoded a payload. -/
def afterDecode (s : Clones) (i : Nat) (packet : Packet) (packets : List Packet) : Clones :=
  { s.goto i (.storing (packet, s.decoded.length) (packets.zipIdx (s.decoded.length + 1))) with
    decoded := s.decoded ++ packet :: packets }

inductive Label where
  /-- A clone calls `poll`. -/
  | call (i : Nat)
  /-- A call goes on to its next critical section, or returns. -/
  | advance (i : Nat)
  /-- The transport answers the poll of a call. -/
  | answer (i : Nat) (data : Except Error Bytes)
  /-- The flag of the socket changes. -/
  | connect
  | disconnect

def step (b64 : Base64Engine) (s : Clones) : Label → Option Clones
  | .call i =>
      match s.callers i with
      | .idle => some (s.goto i .top)
      | _ => none
  | .advance i =>
      match s.callers i with
      | .top =>
          -- `Ok(None)` if the socket is not connected
          some (s.goto i (if s.connected then .looking else .idle))
      | .looking => some (s.goto i (if s.remainingPackets.isSome then .advancing else .asking))
      | .advancing =>
          match s.remainingPackets with
          | some (packet :: iter) => some (s.afterReturn i packet iter)
          | some [] => some (s.goto i .asking)
          -- `unwrap` on a payload that the look before has found
          | none => none
      | .storing packet iter => some (s.afterReturn i packet iter)
      | _ => none
  | .answer i data =>
      match s.callers i with
      | .asking =>
          match data with
          | .error _ => some (s.goto i .idle)
          | .ok data =>
              if data = [] then some (s.goto i .top)
              else
                match Payload.tryFrom b64 data with
                | .error _ => some (s.goto i .idle)
                | .ok [] => some (s.goto i .top)
                | .ok (packet :: packets) => some (s.afterDecode i packet packets)
      | _ => none
  | .connect => some { s with connected := true }
  | .disconnect => some { s with connected := false }

/-- **Everything a step can do** to the packets: a call moves without touching any, or it takes one
out of the buffer, or it decodes a payload, or it stores what it has decoded. -/
inductive Transition (b64 : Base64Engine) (s : Clones) : Label → Clones → Prop
  | move {label : Label} {s' : Clones} (hheld : ∀ i, (s'.callers i).held = (s.callers i).held)
      (hbuffered : s'.buffered = s.buffered) (hdecoded : s'.decoded = s.decoded)
      (hreturned : s'.returned = s.returned)
      (hlabel : ∀ i packet iter, label = .advance i → s.callers i ≠ .storing packet iter) :
      Transition b64 s label s'
  | take (i : Nat) {packet : Entry} {iter : List Entry} (hi : s.callers i = .advancing)
      (hbuffered : s.remainingPackets = some (packet :: iter)) :
      Transition b64 s (.advance i) (s.afterReturn i packet iter)
  | decode (i : Nat) {data : Bytes} {packet : Packet} {packets : List Packet}
      (hi : s.callers i = .asking) (hdata : Payload.tryFrom b64 data = .ok (packet :: packets)) :
      Transition b64 s (.answer i (.ok data)) (s.afterDecode i packet packets)
  | store (i : Nat) {packet : Entry} {iter : List Entry} (hi : s.callers i = .storing packet iter) :
      Transition b64 s (.advance i) (s.afterReturn i packet iter)

/-- What the calls hold after one of them went on. -/
theorem held_goto (s : Clones) (i : Nat) (caller : Caller) (j : Nat) :
    ((s.goto i caller).callers j).held = if j = i then caller.held else (s.callers j).held := by
  by_cases hj : j = i
  · subst hj
    simp [goto]
  · simp [goto, hj]

theorem Transition.goto {b64 : Base64Engine} {s : Clones} {label : Label} {i : Nat}
    {caller : Caller} (hi : (s.callers i).held = []) (hcaller : caller.held = [])
    (hlabel : ∀ j, label = .advance j → j = i) :
    Transition b64 s label (s.goto i caller) := by
  refine .move ?_ rfl rfl rfl ?_
  · intro j
    rw [held_goto]
    split
    · rename_i hj
      rw [hj, hi, hcaller]
    · rfl
  · intro j packet iter hj hstoring
    rw [hlabel j hj] at hstoring
    rw [hstoring] at hi
    cases hi

theorem step_cases {b64 : Base64Engine} {s s' : Clones} {label : Label}
    (h : step b64 s label = some s') : Transition b64 s label s' := by
  have hself : ∀ {i j : Nat}, Label.advance i = .advance j → j = i := by
    intro i j hij
    cases hij
    rfl
  cases label with
  | call i =>
      simp only [step] at h
      split at h
      · rename_i hi
        cases h
        exact .goto (by rw [hi]; rfl) rfl (by simp)
      · simp at h
  | advance i =>
      simp only [step] at h
      split at h
      · rename_i hi
        cases h
        refine .goto (by rw [hi]; rfl) ?_ fun _ => hself
        split <;> rfl
      · rename_i hi
        cases h
        refine .goto (by rw [hi]; rfl) ?_ fun _ => hself
        split <;> rfl
      · rename_i hi
        split at h
        · rename_i packet iter hbuffered
          cases h
          exact .take i hi hbuffered
        · cases h
          exact .goto (by rw [hi]; rfl) rfl fun _ => hself
        · simp at h
      · rename_i packet iter hi
        cases h
        exact .store i hi
      · simp at h
  | answer i data =>
      simp only [step] at h
      split at h
      · rename_i hi
        have hheld : (s.callers i).held = [] := by rw [hi]; rfl
        split at h
        · cases h
          exact .goto hheld rfl (by simp)
        · split at h
          · cases h
            exact .goto hheld rfl (by simp)
          · split at h
            · cases h
              exact .goto hheld rfl (by simp)
            · cases h
              exact .goto hheld rfl (by simp)
            · rename_i packet packets hdata
              cases h
              exact .decode i hi hdata
      · simp at h
  | connect =>
      cases h
      exact .move (fun _ => rfl) rfl rfl rfl (by simp)
  | disconnect =>
      cases h
      exact .move (fun _ => rfl) rfl rfl rfl (by simp)

/-! ## What every run keeps -/

/-- A packet is still on its way to a caller. -/
def Pending (s : Clones) (entry : Entry) : Prop :=
  entry ∈ s.buffered ∨ ∃ i, entry ∈ (s.callers i).held

/-- **Every packet is delivered.**  No packet has been returned twice, and every packet decoded so
far has been returned or is still on its way. -/
structure Delivered (s : Clones) : Prop where
  once : s.returned.Nodup
  kept : ∀ entry : Entry, s.decoded[entry.2]? = some entry.1 →
    entry ∈ s.returned ∨ s.Pending entry

/-- A call that stores the rest of a payload finds the buffered one used up. -/
def Undisturbed (s : Clones) : Label → Prop
  | .advance i =>
      match s.callers i with
      | .storing _ _ => s.buffered = []
      | _ => True
  | _ => True

/-- What the calls have returned, and the buffer behind it. -/
def shared (s : Clones) : List Entry := s.returned ++ s.buffered

/-- What has been returned or is on its way was decoded, and is in one place only. -/
structure Invariant (s : Clones) : Prop where
  shared_known : ∀ entry ∈ s.shared, s.decoded[entry.2]? = some entry.1
  held_known : ∀ i, ∀ entry ∈ (s.callers i).held, s.decoded[entry.2]? = some entry.1
  shared_nodup : s.shared.Nodup
  held_nodup : ∀ i, (s.callers i).held.Nodup
  unshared : ∀ i, ∀ entry ∈ (s.callers i).held, entry ∉ s.shared
  apart : ∀ i j, i ≠ j → ∀ entry ∈ (s.callers i).held, entry ∉ (s.callers j).held

theorem invariant_init (connected : Bool) : (init connected).Invariant where
  shared_known := by simp [init, shared, buffered]
  held_known := by simp [init, Caller.held]
  shared_nodup := by simp [init, shared, buffered]
  held_nodup := by simp [init, Caller.held]
  unshared := by simp [init, Caller.held]
  apart := by simp [init, Caller.held]

/-- The invariant speaks of nothing but the packets and where they are. -/
theorem Invariant.congr {s s' : Clones} (hs : s.Invariant)
    (hheld : ∀ i, (s'.callers i).held = (s.callers i).held) (hshared : s'.shared = s.shared)
    (hdecoded : s'.decoded = s.decoded) : s'.Invariant where
  shared_known := by
    rw [hshared, hdecoded]
    exact hs.shared_known
  held_known i := by
    rw [hheld, hdecoded]
    exact hs.held_known i
  shared_nodup := by
    rw [hshared]
    exact hs.shared_nodup
  held_nodup i := by
    rw [hheld]
    exact hs.held_nodup i
  unshared i := by
    rw [hheld, hshared]
    exact hs.unshared i
  apart i j := by
    rw [hheld, hheld]
    exact hs.apart i j

/-- A call that holds nothing goes on to hold nothing. -/
theorem held_goto_nil {s : Clones} {i : Nat} {caller : Caller} (hi : (s.callers i).held = [])
    (hcaller : caller.held = []) (j : Nat) :
    ((s.goto i caller).callers j).held = (s.callers j).held := by
  rw [held_goto]
  split
  · rename_i hj
    rw [hj, hi, hcaller]
  · rfl

/-- New packets are in no place yet. -/
theorem Invariant.fresh {s : Clones} (hs : s.Invariant) {entry : Entry}
    (h : s.decoded.length ≤ entry.2) :
    entry ∉ s.shared ∧ ∀ i, entry ∉ (s.callers i).held := by
  have hnone : s.decoded[entry.2]? = none := List.getElem?_eq_none h
  constructor
  · intro hentry
    have hsome := hs.shared_known entry hentry
    rw [hnone] at hsome
    simp at hsome
  · intro i hentry
    have hsome := hs.held_known i entry hentry
    rw [hnone] at hsome
    simp at hsome

/-- The packets of a new payload, with their positions. -/
theorem mem_decoded {packets packets' : List Packet} {entry : Entry} :
    entry ∈ packets'.zipIdx packets.length ↔
      packets.length ≤ entry.2 ∧ (packets ++ packets')[entry.2]? = some entry.1 := by
  obtain ⟨packet, n⟩ := entry
  rw [List.mk_mem_zipIdx_iff_le_and_getElem?_sub]
  constructor
  · rintro ⟨hle, hget⟩
    exact ⟨hle, by rw [List.getElem?_append_right hle, hget]⟩
  · rintro ⟨hle, hget⟩
    rw [List.getElem?_append_right hle] at hget
    exact ⟨hle, hget⟩

theorem nodup_zipIdx (packets : List Packet) (n : Nat) : (packets.zipIdx n).Nodup := by
  apply List.Nodup.of_map Prod.snd
  rw [List.zipIdx_map_snd]
  exact List.nodup_range'

/-- A call that has decoded a payload holds all of it. -/
theorem held_afterDecode (s : Clones) (i : Nat) (packet : Packet) (packets : List Packet)
    (j : Nat) : ((s.afterDecode i packet packets).callers j).held =
      if j = i then (packet :: packets).zipIdx s.decoded.length else (s.callers j).held :=
  held_goto s i _ j

/-- A call that has returned holds nothing. -/
theorem held_afterReturn (s : Clones) (i : Nat) (packet : Entry) (iter : List Entry) (j : Nat) :
    ((s.afterReturn i packet iter).callers j).held =
      if j = i then [] else (s.callers j).held :=
  held_goto s i .idle j

/-- Taking a packet out of the buffer and returning it keeps it in the same line. -/
theorem shared_take {s : Clones} {i : Nat} {packet : Entry} {iter : List Entry}
    (h : s.remainingPackets = some (packet :: iter)) :
    (s.afterReturn i packet iter).shared = s.shared := by
  simp [shared, buffered, afterReturn, h]

theorem known_append {s : Clones} {entry : Entry} {packets : List Packet}
    (h : s.decoded[entry.2]? = some entry.1) :
    (s.decoded ++ packets)[entry.2]? = some entry.1 := by
  obtain ⟨hlt, -⟩ := List.getElem?_eq_some_iff.mp h
  rw [List.getElem?_append_left hlt, h]

theorem Invariant.decode {s : Clones} (hs : s.Invariant) (i : Nat) (packet : Packet)
    (packets : List Packet) : (s.afterDecode i packet packets).Invariant := by
  have hheld := held_afterDecode s i packet packets
  have hfresh : ∀ entry ∈ (packet :: packets).zipIdx s.decoded.length,
      entry ∉ s.shared ∧ ∀ j, entry ∉ (s.callers j).held :=
    fun entry hentry => hs.fresh (mem_decoded.mp hentry).1
  refine {
    shared_known := fun entry hentry => known_append (hs.shared_known entry hentry)
    held_known := ?_
    shared_nodup := hs.shared_nodup
    held_nodup := ?_
    unshared := ?_
    apart := ?_ }
  · intro j entry hentry
    rw [hheld] at hentry
    split at hentry
    · exact (mem_decoded.mp hentry).2
    · exact known_append (hs.held_known j entry hentry)
  · intro j
    rw [hheld]
    split
    · exact nodup_zipIdx _ _
    · exact hs.held_nodup j
  · intro j entry hentry
    rw [hheld] at hentry
    split at hentry
    · exact (hfresh entry hentry).1
    · exact hs.unshared j entry hentry
  · intro j k hjk entry hj hk
    rw [hheld] at hj hk
    split at hj <;> split at hk
    · rename_i hji hki
      exact hjk (hji.trans hki.symm)
    · exact (hfresh entry hj).2 k hk
    · exact (hfresh entry hk).2 j hj
    · exact hs.apart j k hjk entry hj hk

theorem Invariant.store {s : Clones} (hs : s.Invariant) {i : Nat} {packet : Entry}
    {iter : List Entry} (hi : s.callers i = .storing packet iter) :
    (s.afterReturn i packet iter).Invariant := by
  have hstored : (s.callers i).held = packet :: iter := by rw [hi]; rfl
  have hheld := held_afterReturn s i packet iter
  -- what is shared now was shared before, or the call held it
  have hshared : ∀ entry, entry ∈ s.returned ++ [packet] ++ iter →
      entry ∈ s.shared ∨ entry ∈ (s.callers i).held := by
    intro entry hentry
    rw [List.append_assoc, List.mem_append] at hentry
    rcases hentry with hreturned | hentry
    · exact .inl (List.mem_append_left _ hreturned)
    · exact .inr (by rwa [hstored])
  refine {
    shared_known := ?_
    held_known := ?_
    shared_nodup := ?_
    held_nodup := ?_
    unshared := ?_
    apart := ?_ }
  · intro entry hentry
    rcases hshared entry hentry with hentry | hentry
    · exact hs.shared_known entry hentry
    · exact hs.held_known i entry hentry
  · intro j entry hentry
    rw [hheld] at hentry
    split at hentry
    · simp at hentry
    · exact hs.held_known j entry hentry
  · show (s.returned ++ [packet] ++ iter).Nodup
    rw [List.append_assoc, List.singleton_append, ← hstored]
    have hreturned : s.returned.Nodup := hs.shared_nodup.of_append_left
    refine hreturned.append (hs.held_nodup i) ?_
    intro entry hreturned hentry
    exact hs.unshared i entry hentry (List.mem_append_left _ hreturned)
  · intro j
    rw [hheld]
    split
    · exact List.nodup_nil
    · exact hs.held_nodup j
  · intro j entry hentry hnew
    rw [hheld] at hentry
    split at hentry
    · simp at hentry
    · rename_i hji
      rcases hshared entry hnew with hold | hold
      · exact hs.unshared j entry hentry hold
      · exact hs.apart j i hji entry hentry hold
  · intro j k hjk entry hj hk
    rw [hheld] at hj hk
    split at hj
    · simp at hj
    · split at hk
      · simp at hk
      · exact hs.apart j k hjk entry hj hk

theorem Invariant.step {b64 : Base64Engine} {s s' : Clones} {label : Label} (hs : s.Invariant)
    (h : step b64 s label = some s') : s'.Invariant := by
  cases step_cases h with
  | move hheld hbuffered hdecoded hreturned hlabel =>
      exact hs.congr hheld (by rw [shared, shared, hbuffered, hreturned]) hdecoded
  | @take i packet iter hi hbuffered =>
      exact hs.congr (held_goto_nil (by rw [hi]; rfl) rfl) (shared_take hbuffered) rfl
  | decode i hi hdata => exact hs.decode i _ _
  | store i hi => exact hs.store hi

/-! ## Which steps lose packets -/

/-- Where a packet is, in the terms of the invariant. -/
theorem returned_or_pending {s : Clones} {entry : Entry} :
    entry ∈ s.returned ∨ s.Pending entry ↔
      entry ∈ s.shared ∨ ∃ i, entry ∈ (s.callers i).held := by
  rw [shared, List.mem_append, Pending, or_assoc]

theorem Delivered.congr {s s' : Clones} (hs : s.Delivered) (hi : s'.Invariant)
    (hheld : ∀ i, (s'.callers i).held = (s.callers i).held) (hshared : s'.shared = s.shared)
    (hdecoded : s'.decoded = s.decoded) : s'.Delivered where
  once := hi.shared_nodup.of_append_left
  kept entry hentry := by
    rw [hdecoded] at hentry
    have hplace := returned_or_pending.mp (hs.kept entry hentry)
    apply returned_or_pending.mpr
    simpa only [hshared, hheld] using hplace

theorem Delivered.decode {s : Clones} (hs : s.Delivered) {i : Nat} (hi : s.callers i = .asking)
    (packet : Packet) (packets : List Packet) : (s.afterDecode i packet packets).Delivered where
  once := hs.once
  kept entry hentry := by
    by_cases hnew : s.decoded.length ≤ entry.2
    · -- the call holds it
      refine .inr (.inr ⟨i, ?_⟩)
      rw [held_afterDecode, if_pos rfl]
      exact mem_decoded.mpr ⟨hnew, hentry⟩
    · have hold : s.decoded[entry.2]? = some entry.1 := by
        rw [afterDecode, List.getElem?_append_left (by omega)] at hentry
        exact hentry
      rcases hs.kept entry hold with hreturned | hbuffered | ⟨j, hj⟩
      · exact .inl hreturned
      · exact .inr (.inl hbuffered)
      · refine .inr (.inr ⟨j, ?_⟩)
        have hji : j ≠ i := by
          rintro rfl
          rw [hi] at hj
          simp [Caller.held] at hj
        rw [held_afterDecode, if_neg hji]
        exact hj

/-- **Storing the rest of a payload loses exactly what is buffered.** -/
theorem Delivered.store {s : Clones} (hinv : s.Invariant) (hs : s.Delivered) {i : Nat}
    {packet : Entry} {iter : List Entry} (hi : s.callers i = .storing packet iter) :
    (s.afterReturn i packet iter).Delivered ↔ s.buffered = [] := by
  have hstored : (s.callers i).held = packet :: iter := by rw [hi]; rfl
  have hheld := held_afterReturn s i packet iter
  constructor
  · intro h
    apply List.eq_nil_iff_forall_not_mem.mpr
    intro entry hentry
    have hshared : entry ∈ s.shared := List.mem_append_right _ hentry
    have hdisjoint : entry ∉ s.returned := fun hreturned =>
      (List.disjoint_of_nodup_append hinv.shared_nodup) hreturned hentry
    rcases h.kept entry (hinv.shared_known entry hshared) with hreturned | hiter | ⟨j, hj⟩
    · -- it would be the packet that was returned, but a call held that one
      rcases List.mem_append.mp hreturned with hreturned | hpacket
      · exact hdisjoint hreturned
      · obtain rfl := List.mem_singleton.mp hpacket
        exact hinv.unshared i entry (by rw [hstored]; exact List.mem_cons_self) hshared
    · exact hinv.unshared i entry (by rw [hstored]; exact List.mem_cons_of_mem _ hiter) hshared
    · rw [hheld] at hj
      split at hj
      · simp at hj
      · exact hinv.unshared j entry hj hshared
  · intro hempty
    refine { once := (hinv.store hi).shared_nodup.of_append_left, kept := ?_ }
    intro entry hentry
    rcases hs.kept entry hentry with hreturned | hbuffered | ⟨j, hj⟩
    · exact .inl (List.mem_append_left _ hreturned)
    · rw [hempty] at hbuffered
      simp at hbuffered
    · by_cases hji : j = i
      · subst hji
        rw [hstored] at hj
        rcases List.mem_cons.mp hj with rfl | hj
        · exact .inl (List.mem_append_right _ (List.mem_singleton_self _))
        · exact .inr (.inl hj)
      · exact .inr (.inr ⟨j, by rw [hheld, if_neg hji]; exact hj⟩)

theorem delivered_step_iff {b64 : Base64Engine} {s s' : Clones} {label : Label} (hinv : s.Invariant)
    (hs : s.Delivered) (h : step b64 s label = some s') : s'.Delivered ↔ s.Undisturbed label := by
  have hinv' := hinv.step h
  cases step_cases h with
  | move hheld hbuffered hdecoded hreturned hlabel =>
      have hshared : s'.shared = s.shared := by rw [shared, shared, hbuffered, hreturned]
      have hundisturbed : s.Undisturbed label := by
        unfold Undisturbed
        split
        · rename_i i
          split
          · rename_i packet iter hi
            exact absurd hi (hlabel i packet iter rfl)
          · trivial
        · trivial
      exact iff_of_true (hs.congr hinv' hheld hshared hdecoded) hundisturbed
  | @take i packet iter hi hbuffered =>
      have hundisturbed : s.Undisturbed (.advance i) := by
        rw [Undisturbed, hi]
        trivial
      have hdelivered := hs.congr hinv' (held_goto_nil (by rw [hi]; rfl) rfl)
        (shared_take hbuffered) rfl
      exact iff_of_true hdelivered hundisturbed
  | decode i hi hdata => exact iff_of_true (hs.decode hi _ _) trivial
  | store i hi =>
      rw [Undisturbed, hi]
      exact Delivered.store hinv hs hi

/-! ## Polling on -/

/-- The clones have polled until nothing was left: no call holds a packet, and none is buffered. -/
structure Settled (s : Clones) : Prop where
  buffered : s.buffered = []
  held : ∀ i, (s.callers i).held = []

/-- Once the clones have polled until nothing is left, the packets returned are those decoded, each
of them once. -/
theorem Delivered.settled {s : Clones} (hinv : s.Invariant) (hs : s.Delivered) (h : s.Settled) :
    s.returned.Perm s.decoded.zipIdx := by
  rw [List.perm_ext_iff_of_nodup hs.once (nodup_zipIdx _ 0)]
  intro entry
  rw [List.mem_zipIdx_iff_getElem?]
  constructor
  · intro hreturned
    exact hinv.shared_known entry (List.mem_append_left _ hreturned)
  · intro hentry
    rcases hs.kept entry hentry with hreturned | hbuffered | ⟨i, hi⟩
    · exact hreturned
    · rw [h.buffered] at hbuffered
      simp at hbuffered
    · rw [h.held i] at hi
      simp at hi

/-- A clone of a connected socket that keeps polling gets what is buffered, in order. -/
theorem drain (b64 : Base64Engine) (i : Nat) (s : Clones) (hc : s.connected = true)
    (hi : s.callers i = .idle) :
    ∃ polls s', Lts.run (step b64) s polls = some s' ∧ s'.buffered = [] ∧
      s'.returned = s.returned ++ s.buffered := by
  rcases hremaining : s.remainingPackets with _ | iter
  · exact ⟨[], s, rfl, by simp [buffered, hremaining], by simp [buffered, hremaining]⟩
  · induction iter generalizing s with
    | nil => exact ⟨[], s, rfl, by simp [buffered, hremaining], by simp [buffered, hremaining]⟩
    | cons packet iter ih =>
        have hpoll : Lts.run (step b64) s [.call i, .advance i, .advance i, .advance i] =
            some (s.afterReturn i packet iter) := by
          simp [Lts.run, step, goto, afterReturn, hi, hc, hremaining]
        obtain ⟨polls, s', hrun, hbuffered, hreturned⟩ :=
          ih (s.afterReturn i packet iter) hc (by simp [afterReturn, goto]) rfl
        refine ⟨[.call i, .advance i, .advance i, .advance i] ++ polls, s', ?_, hbuffered, ?_⟩
        · rw [Lts.run_append, hpoll, Option.bind_some]
          exact hrun
        · simp [hreturned, afterReturn, buffered, hremaining]

/-! ## One clone alone -/

/-- The socket of the clones, as `Socket.poll` reads it. -/
def socket (s : Clones) (incoming : List (Except Error Bytes)) : Socket where
  connected := s.connected
  remainingPackets := s.remainingPackets.map (List.map Prod.fst)
  incoming

/-- A call has done what `Socket.poll` does: it has returned what that returns, or waits for the
transport, and leaves the same socket. -/
structure Polls (i : Nat) (s : Clones) (polled : Polled × Socket) (s' : Clones) : Prop where
  returned : s'.returned.map Prod.fst = s.returned.map Prod.fst ++ polled.1.packets
  place : s'.callers i = if polled.1 = .pending then .asking else .idle
  socket : s'.socket polled.2.incoming = polled.2

theorem goto_goto (s : Clones) (i : Nat) (caller caller' : Caller) :
    (s.goto i caller).goto i caller' = s.goto i caller' := by
  simp [goto]

/-- From the top of the loop, with nothing buffered, a call asks the transport. -/
theorem ask (b64 : Base64Engine) {s : Clones} (i : Nat) (hc : s.connected = true)
    (hbuffered : s.buffered = []) :
    ∃ labels, Lts.run (step b64) (s.goto i .top) labels = some (s.goto i .asking) := by
  rcases hremaining : s.remainingPackets with _ | iter
  · refine ⟨[.advance i, .advance i], ?_⟩
    simp [Lts.run, step, goto, hc, hremaining]
  · obtain rfl : iter = [] := by simpa [buffered, hremaining] using hbuffered
    refine ⟨[.advance i, .advance i, .advance i], ?_⟩
    simp [Lts.run, step, goto, hc, hremaining]

/-- A call that asks the transport does what `Socket.fetch` does. -/
theorem fetch_alone (b64 : Base64Engine) {s : Clones} (i : Nat) (hc : s.connected = true)
    (hbuffered : s.buffered = []) (all incoming : List (Except Error Bytes)) :
    ∃ labels s', Lts.run (step b64) (s.goto i .asking) labels = some s' ∧
      Polls i s ((s.socket all).fetch b64 incoming) s' := by
  induction incoming with
  | nil =>
      refine ⟨[], _, rfl, ?_, ?_, rfl⟩
      · simp [Socket.fetch, Polled.packets, goto]
      · simp [Socket.fetch, goto]
  | cons item incoming ih =>
      -- back to the top of the loop, and from there to the transport again
      have hagain : ∀ data, step b64 (s.goto i .asking) (.answer i (.ok data)) =
          some (s.goto i .top) → ∃ labels s', Lts.run (step b64) (s.goto i .asking) labels =
            some s' ∧ Polls i s ((s.socket all).fetch b64 incoming) s' := by
        intro data htop
        obtain ⟨asked, hasked⟩ := ask b64 i hc hbuffered
        obtain ⟨labels, s', hrun, hpolls⟩ := ih
        refine ⟨.answer i (.ok data) :: (asked ++ labels), s', ?_, hpolls⟩
        rw [Lts.run_cons, htop, Option.bind_some, Lts.run_append, hasked, Option.bind_some, hrun]
      cases item with
      | error e =>
          refine ⟨[.answer i (.error e)], s.goto i .idle, ?_, ?_, ?_, rfl⟩
          · simp [Lts.run, step, goto]
          · simp [Socket.fetch, Polled.packets, goto]
          · simp [Socket.fetch, goto]
      | ok data =>
          by_cases hdata : data = []
          · rw [Socket.fetch, if_pos hdata]
            exact hagain data (by simp [step, goto, hdata])
          · rcases hpayload : Payload.tryFrom b64 data with e | _ | ⟨packet, packets⟩
            · refine ⟨[.answer i (.ok data)], s.goto i .idle, ?_, ?_, ?_, ?_⟩
              · simp [Lts.run, step, goto, hdata, hpayload]
              · simp [Socket.fetch, Polled.packets, goto, hdata, hpayload]
              · simp [Socket.fetch, goto, hdata, hpayload]
              · simp [Socket.fetch, goto, hdata, hpayload, socket]
            · rw [Socket.fetch, if_neg hdata, hpayload]
              exact hagain data (by simp [step, goto, hdata, hpayload])
            · refine ⟨[.answer i (.ok data), .advance i],
                ((s.goto i .asking).afterDecode i packet packets).afterReturn i
                  (packet, s.decoded.length) (packets.zipIdx (s.decoded.length + 1)),
                ?_, ?_, ?_, ?_⟩
              · simp [Lts.run, step, goto, afterDecode, hdata, hpayload]
              · simp [Socket.fetch, Polled.packets, afterReturn, afterDecode, goto, hdata, hpayload]
              · simp [Socket.fetch, afterReturn, goto, hdata, hpayload]
              · simp [Socket.fetch, afterReturn, afterDecode, goto, hdata, hpayload, socket]

/-- **A call that is not disturbed is `Socket.poll`.** -/
theorem poll_alone (b64 : Base64Engine) {s : Clones} (i : Nat) (hi : s.callers i = .idle)
    (incoming : List (Except Error Bytes)) :
    ∃ labels s', Lts.run (step b64) s labels = some s' ∧
      Polls i s ((s.socket incoming).poll b64) s' := by
  have htop : step b64 s (.call i) = some (s.goto i .top) := by simp [step, hi]
  cases hc : s.connected with
  | false =>
      refine ⟨[.call i, .advance i], s.goto i .idle, ?_, ?_, ?_, ?_⟩
      · simp [Lts.run, step, goto, hi, hc]
      · simp [Socket.poll, socket, hc, Polled.packets, goto]
      · simp [Socket.poll, socket, hc, goto]
      · simp [Socket.poll, socket, hc, goto]
  | true =>
      -- with nothing buffered, `Socket.poll` is `Socket.fetch`
      have hfetch : s.buffered = [] → (s.socket incoming).poll b64 =
          (s.socket incoming).fetch b64 incoming → ∃ labels s',
            Lts.run (step b64) s labels = some s' ∧
              Polls i s ((s.socket incoming).poll b64) s' := by
        intro hbuffered hpoll
        obtain ⟨asked, hasked⟩ := ask b64 i hc hbuffered
        obtain ⟨labels, s', hrun, hpolls⟩ := fetch_alone b64 i hc hbuffered incoming incoming
        refine ⟨.call i :: (asked ++ labels), s', ?_, by rwa [hpoll]⟩
        rw [Lts.run_cons, htop, Option.bind_some, Lts.run_append, hasked, Option.bind_some, hrun]
      rcases hremaining : s.remainingPackets with _ | _ | ⟨packet, iter⟩
      · apply hfetch
        · simp [buffered, hremaining]
        · simp [Socket.poll, socket, hc, hremaining]
      · apply hfetch
        · simp [buffered, hremaining]
        · simp [Socket.poll, socket, hc, hremaining]
      · refine ⟨[.call i, .advance i, .advance i, .advance i], s.afterReturn i packet iter, ?_, ?_,
          ?_, ?_⟩
        · simp [Lts.run, step, goto, afterReturn, hi, hc, hremaining]
        · simp [Socket.poll, socket, hc, hremaining, Polled.packets, afterReturn, goto]
        · simp [Socket.poll, socket, hc, hremaining, afterReturn, goto]
        · simp [Socket.poll, socket, hc, hremaining, afterReturn, goto]

/-- **When concurrent polls lose no packet.**  Every packet is delivered throughout a run exactly
when every call that stores the rest of a payload finds the buffered one used up.  In a state where
every packet is delivered, the packets returned are those decoded, each of them once, as soon as the
clones have polled until nothing is left; and a clone that keeps polling a connected socket gets
what is buffered. -/
theorem delivered_iff_undisturbed (b64 : Base64Engine) (connected : Bool) (labels : List Label) :
    (Lts.Throughout (step b64) Delivered (init connected) labels ↔
      Lts.Along (step b64) Undisturbed (init connected) labels) ∧
    ∀ s, Lts.run (step b64) (init connected) labels = some s →
      (s.Delivered → s.Settled → s.returned.Perm s.decoded.zipIdx) ∧
      ∀ i, s.connected = true → s.callers i = .idle →
        ∃ polls s', Lts.run (step b64) s polls = some s' ∧ s'.buffered = [] ∧
          s'.returned = s.returned ++ s.buffered := by
  have hinv : ∀ s label s', Invariant s → step b64 s label = some s' → s'.Invariant :=
    fun s label s' hs h => hs.step h
  constructor
  · refine Lts.throughout_iff_along (I := Invariant) ?_ ?_ (invariant_init connected) ?_ labels
    · intro s label s' hs _ h
      exact hs.step h
    · intro s label s' hs hd h
      exact delivered_step_iff hs hd h
    · exact { once := by simp [init], kept := by simp [init] }
  · intro s hrun
    have hs := Lts.invariant hinv (invariant_init connected) hrun
    exact ⟨fun hd => hd.settled hs, fun i hc hi => drain b64 i s hc hi⟩

/-- Two clones find nothing buffered and ask the transport; it answers each of them with a payload
of two packets. -/
def overlap : List Label :=
  [.call 0, .advance 0, .advance 0, .call 1, .advance 1, .advance 1,
    .answer 0 (.ok [52, 97, 0x1e, 52, 98]), .answer 1 (.ok [52, 99, 0x1e, 52, 100]),
    .advance 0, .advance 1]

/-- The second packet of the first payload is lost. -/
theorem overlap_loses :
    ∃ s, Lts.run (step .standard) (init true) overlap = some s ∧
      s.decoded = [⟨.message, [97]⟩, ⟨.message, [98]⟩, ⟨.message, [99]⟩, ⟨.message, [100]⟩] ∧
      s.returned = [(⟨.message, [97]⟩, 0), (⟨.message, [99]⟩, 2)] ∧
      s.buffered = [(⟨.message, [100]⟩, 3)] ∧ s.callers 0 = .idle ∧ s.callers 1 = .idle ∧
      ¬ s.Delivered := by
  refine ⟨_, rfl, rfl, rfl, rfl, rfl, rfl, ?_⟩
  intro h
  rcases h.kept (⟨.message, [98]⟩, 1) rfl with hreturned | hbuffered | ⟨i, hi⟩
  · exact absurd hreturned (by decide)
  · exact absurd hbuffered (by decide)
  · -- no call holds anything any more
    rcases i with _ | _ | i
    · exact absurd hi List.not_mem_nil
    · exact absurd hi List.not_mem_nil
    · exact absurd hi List.not_mem_nil

end Clones

end TfSocketio.Engineio
