/-
# Socketio.Teardown — explicit disconnects of the asynchronous client.

Every `disconnect` call spawns a teardown task of its own.  The teardowns take turns on
`disconnect_operation`; the first one takes the reader's handle, aborts the reader and joins it, and
each of them then sends the disconnect packet, closes engine.io and aborts the dispatch tasks.

Here the reader, any number of teardowns and the dispatch tasks interleave at their await points.
`Step` says, once, everything a step of them can do.  `Frozen` is what no step changes once the
reader has finished, and `Invariant` says what the place of each teardown means for the rest of the
system.
-/
import TfSocketio.Socketio.Reader
import Mathlib.Logic.Function.Basic

namespace TfSocketio.Socketio.Async

/-! ## The steps -/

/-- How the send of the disconnect packet ended. -/
inductive SendResult where
  | ok
  | illegalActionBeforeOpen
  /-- An engine.io error, or the timeout. -/
  | error
  deriving DecidableEq, Repr

/-- Where a `disconnect` call stands. -/
inductive Teardown where
  /-- Not called. -/
  | idle
  /-- At `disconnect_operation.lock().await`. -/
  | waiting
  /-- At `disconnect_reason.write().await`. -/
  | locked
  /-- At the lock of `reader_task`. -/
  | taking
  /-- At `reader.await`, after the abort. -/
  | joining
  /-- Sending the disconnect packet. -/
  | sending
  /-- In `Socket::disconnect`, at `generator.close().await`. -/
  | closing (send : SendResult)
  /-- In the engine.io `disconnect`, about to take the transport out of its slot. -/
  | disconnecting (send : SendResult)
  /-- Emitting the engine.io Close packet. -/
  | emittingClose (send : SendResult)
  /-- Returned `Ok` or `Err`. -/
  | done (ok : Bool)
  deriving DecidableEq, Repr

/-- The slot that holds the reader's handle.  `poll_stream` spawns the reader under the slot's lock,
so the reader may run before its handle is registered. -/
inductive ReaderHandle where
  | unregistered
  | stored
  | taken
  deriving DecidableEq, Repr

structure System where
  client : Client
  handle : ReaderHandle
  /-- The reader was told to stop; it does so at an await point. -/
  aborted : Bool
  /-- The call that holds `disconnect_operation`. -/
  operation : Option Nat
  teardowns : Nat → Teardown

namespace System

def init (onReconnect : Bool) : System where
  client := .init onReconnect
  handle := .unregistered
  aborted := false
  operation := none
  teardowns _ := .idle

inductive Label where
  | reader (label : ReaderLabel)
  /-- `poll_stream` stores the reader's handle. -/
  | register
  /-- The reader is cancelled at the await point where it stands. -/
  | cancel
  /-- Somebody calls `disconnect`. -/
  | disconnect (i : Nat)
  /-- A teardown goes on; `ok` is what the network answers, if it is asked. -/
  | advance (i : Nat) (ok : Bool)

def set (s : System) (i : Nat) (teardown : Teardown) : System :=
  { s with teardowns := Function.update s.teardowns i teardown }

/-- The end of a teardown.  A closed connection is no reason to fail. -/
def finish (s : System) (i : Nat) (send : SendResult) (closed : Bool) : System :=
  let client : Client := { s.client with socket := { s.client.socket with connected := false } }
  { s with client := client.abortDispatch true, operation := none }.set i
    (.done (closed && send ≠ SendResult.error))

def advance (s : System) (i : Nat) (ok : Bool) : Option System :=
  match s.teardowns i with
  | .idle => none
  | .waiting =>
      if s.operation = none then some ({ s with operation := some i }.set i .locked) else none
  | .locked => some ({ s with client := { s.client with reason := .manual } }.set i .taking)
  | .taking =>
      match s.handle with
      | .unregistered => none
      | .stored => some ({ s with handle := .taken, aborted := true }.set i .joining)
      | .taken => some (s.set i .sending)
  -- a reader that panicked has ended too; the error of the join is only logged
  | .joining => if s.client.reader.finished then some (s.set i .sending) else none
  | .sending =>
      let send : SendResult :=
        if s.client.socket.sends then if ok then .ok else .error else .illegalActionBeforeOpen
      -- `Socket::disconnect` begins by clearing the flag
      some ({ s with client := { s.client with
        socket := { s.client.socket with connected := false } } }.set i (.closing send))
  | .closing send => some ({ s with client := s.client.exhaust }.set i (.disconnecting send))
  | .disconnecting send =>
      let client : Client := { s.client with
        socket := { s.client.socket with engineConnected := false, transport := false } }
      if s.client.socket.transport then some ({ s with client }.set i (.emittingClose send))
      else some ({ s with client }.finish i send true)
  | .emittingClose send => some (s.finish i send ok)
  | .done _ => none

def step (cfg : Config) (s : System) : Label → Option System
  | .reader label => (readerStep cfg s.client label).map fun client => { s with client }
  | .register => if s.handle = .unregistered then some { s with handle := .stored } else none
  | .cancel =>
      if s.aborted ∧ s.client.reader.finished = false then
        -- dropping the task drops the stream, if it holds one
        let client := if s.client.reader.holdsStream then s.client.abortDispatch false else s.client
        some { s with client := { client with reader := .cancelled } }
      else none
  | .disconnect i => if s.teardowns i = .idle then some (s.set i .waiting) else none
  | .advance i ok => s.advance i ok

/-- **Everything a teardown can do**, with the place it comes to. -/
inductive Advance (s : System) (i : Nat) (ok : Bool) : Teardown → System → Prop
  | lock (hw : s.teardowns i = .waiting) (hfree : s.operation = none) :
      Advance s i ok .locked ({ s with operation := some i }.set i .locked)
  | announce (hw : s.teardowns i = .locked) :
      Advance s i ok .taking
        ({ s with client := { s.client with reason := .manual } }.set i .taking)
  | take (hw : s.teardowns i = .taking) (hstored : s.handle = .stored) :
      Advance s i ok .joining ({ s with handle := .taken, aborted := true }.set i .joining)
  | findTaken (hw : s.teardowns i = .taking) (htaken : s.handle = .taken) :
      Advance s i ok .sending (s.set i .sending)
  | join (hw : s.teardowns i = .joining) (hfin : s.client.reader.finished = true) :
      Advance s i ok .sending (s.set i .sending)
  | send (send : SendResult) (hw : s.teardowns i = .sending)
      (hrefused : s.client.socket.sends = false → send = .illegalActionBeforeOpen) :
      Advance s i ok (.closing send) ({ s with client := { s.client with
        socket := { s.client.socket with connected := false } } }.set i (.closing send))
  | close (send : SendResult) (hw : s.teardowns i = .closing send) :
      Advance s i ok (.disconnecting send)
        ({ s with client := s.client.exhaust }.set i (.disconnecting send))
  | retire (send : SendResult) (hw : s.teardowns i = .disconnecting send)
      (ht : s.client.socket.transport = true) :
      Advance s i ok (.emittingClose send) ({ s with client := { s.client with
        socket := { s.client.socket with engineConnected := false, transport := false } } }.set i
          (.emittingClose send))
  | findRetired (send : SendResult) (hw : s.teardowns i = .disconnecting send)
      (ht : s.client.socket.transport = false) :
      Advance s i ok (.done (true && send ≠ SendResult.error)) ({ s with client := { s.client with
        socket := { s.client.socket with engineConnected := false, transport := false } } }.finish i
          send true)
  | emitClose (send : SendResult) (hw : s.teardowns i = .emittingClose send) :
      Advance s i ok (.done (ok && send ≠ SendResult.error)) (s.finish i send ok)

/-- **Everything a step can do.** -/
inductive Step (cfg : Config) (s : System) : Label → System → Prop
  | reader (label : ReaderLabel) (client : Client) (h : Transition cfg s.client label client) :
      Step cfg s (.reader label) { s with client }
  | register (hr : s.handle = .unregistered) : Step cfg s .register { s with handle := .stored }
  | cancel (haborted : s.aborted = true) (hrun : s.client.reader.finished = false) :
      Step cfg s .cancel { s with client := {
        (if s.client.reader.holdsStream then s.client.abortDispatch false else s.client) with
        reader := .cancelled } }
  | disconnect (i : Nat) (hidle : s.teardowns i = .idle) :
      Step cfg s (.disconnect i) (s.set i .waiting)
  | advance (i : Nat) (ok : Bool) (place : Teardown) (s' : System)
      (h : Advance s i ok place s') : Step cfg s (.advance i ok) s'

theorem advance_cases {s s' : System} {i : Nat} {ok : Bool} (h : s.advance i ok = some s') :
    ∃ place, Advance s i ok place s' := by
  cases hw : s.teardowns i with
  | idle => simp [System.advance, hw] at h
  | waiting =>
      simp only [System.advance, hw] at h
      obtain ⟨hfree, hs⟩ := Option.ite_none_right_eq_some.mp h
      obtain rfl := Option.some.inj hs
      exact ⟨_, .lock hw hfree⟩
  | locked =>
      simp only [System.advance, hw] at h
      cases h
      exact ⟨_, .announce hw⟩
  | taking =>
      simp only [System.advance, hw] at h
      split at h
      · simp at h
      · rename_i hstored
        cases h
        exact ⟨_, .take hw hstored⟩
      · rename_i htaken
        cases h
        exact ⟨_, .findTaken hw htaken⟩
  | joining =>
      simp only [System.advance, hw] at h
      obtain ⟨hfin, hs⟩ := Option.ite_none_right_eq_some.mp h
      obtain rfl := Option.some.inj hs
      exact ⟨_, .join hw hfin⟩
  | sending =>
      simp only [System.advance, hw] at h
      cases h
      exact ⟨_, .send _ hw fun hrefused => by simp [hrefused]⟩
  | closing send =>
      simp only [System.advance, hw] at h
      cases h
      exact ⟨_, .close send hw⟩
  | disconnecting send =>
      simp only [System.advance, hw] at h
      split at h
      · rename_i ht
        cases h
        exact ⟨_, .retire send hw ht⟩
      · rename_i ht
        cases h
        exact ⟨_, .findRetired send hw (Bool.eq_false_iff.mpr ht)⟩
  | emittingClose send =>
      simp only [System.advance, hw] at h
      cases h
      exact ⟨_, .emitClose send hw⟩
  | done ok => simp [System.advance, hw] at h

theorem step_cases {cfg : Config} {s s' : System} {label : Label} (h : step cfg s label = some s') :
    Step cfg s label s' := by
  cases label with
  | reader label =>
      obtain ⟨client, hc, rfl⟩ := Option.map_eq_some_iff.mp h
      exact .reader label client (readerStep_cases hc)
  | register =>
      obtain ⟨hr, hs⟩ := Option.ite_none_right_eq_some.mp h
      obtain rfl := Option.some.inj hs
      exact .register hr
  | cancel =>
      obtain ⟨hrun, hs⟩ := Option.ite_none_right_eq_some.mp h
      obtain rfl := Option.some.inj hs
      exact .cancel hrun.1 hrun.2
  | disconnect i =>
      obtain ⟨hidle, hs⟩ := Option.ite_none_right_eq_some.mp h
      obtain rfl := Option.some.inj hs
      exact .disconnect i hidle
  | advance i ok =>
      obtain ⟨place, hadvance⟩ := advance_cases h
      exact .advance i ok place s' hadvance

end System

/-- The teardown has passed the join of the reader. -/
def Teardown.joined : Teardown → Bool
  | .sending => true
  | .closing _ => true
  | .disconnecting _ => true
  | .emittingClose _ => true
  | .done _ => true
  | _ => false

/-- The teardown has cleared the flag of the inner socket. -/
def Teardown.closes : Teardown → Bool
  | .closing _ => true
  | .disconnecting _ => true
  | .emittingClose _ => true
  | .done _ => true
  | _ => false

/-- The teardown has closed the generator. -/
def Teardown.exhausts : Teardown → Bool
  | .disconnecting _ => true
  | .emittingClose _ => true
  | .done _ => true
  | _ => false

/-- The teardown has retired the transport. -/
def Teardown.retires : Teardown → Bool
  | .emittingClose _ => true
  | .done _ => true
  | _ => false

/-- What the teardown has seen is a client that was torn down before. -/
def Teardown.findsClosed : Teardown → Bool
  | .closing send => send = .illegalActionBeforeOpen
  | .disconnecting send => send = .illegalActionBeforeOpen
  | .emittingClose _ => false
  | _ => true

/-- The teardown holds `disconnect_operation`. -/
def Teardown.holdsLock : Teardown → Bool
  | .idle => false
  | .waiting => false
  | .done _ => false
  | _ => true

/-! ## Once the reader has finished -/

/-- What a step after the reader's end leaves of a client: everything but `disconnect_reason`,
except that flags may be cleared and dispatch tasks may end. -/
structure Frozen (c c' : Client) : Prop where
  history : c'.history = c.history
  epoch : c'.epoch = c.epoch
  reader : c'.reader = c.reader
  onReconnect : c'.onReconnect = c.onReconnect
  connected : c.socket.connected = false → c'.socket.connected = false
  streaming : c.socket.streaming = false → c'.socket.streaming = false
  engineConnected : c.socket.engineConnected = false → c'.socket.engineConnected = false
  transport : c.socket.transport = false → c'.socket.transport = false
  dispatch : c.dispatch = [] → c'.dispatch = []

theorem Frozen.refl (c : Client) : Frozen c c where
  history := rfl
  epoch := rfl
  reader := rfl
  onReconnect := rfl
  connected := id
  streaming := id
  engineConnected := id
  transport := id
  dispatch := id

theorem Frozen.trans {a b c : Client} (h : Frozen a b) (h' : Frozen b c) : Frozen a c where
  history := h'.history.trans h.history
  epoch := h'.epoch.trans h.epoch
  reader := h'.reader.trans h.reader
  onReconnect := h'.onReconnect.trans h.onReconnect
  connected hc := h'.connected (h.connected hc)
  streaming hc := h'.streaming (h.streaming hc)
  engineConnected hc := h'.engineConnected (h.engineConnected hc)
  transport hc := h'.transport (h.transport hc)
  dispatch hc := h'.dispatch (h.dispatch hc)

/-- A finished reader takes no step; only dispatch tasks still end. -/
theorem Transition.of_finished {cfg : Config} {c c' : Client} {label : ReaderLabel}
    (h : Transition cfg c label c') (hf : c.reader.finished = true) :
    ∃ index, c' = { c with
      dispatch := c.dispatch.modify index fun t => { t with finished := true } } := by
  cases h with
  | taskFinished index => exact ⟨index, rfl⟩
  | stopStream hr _ =>
      rw [Reader.holdsStream_of_finished hf] at hr
      exact absurd hr (by decide)
  | reconnecting _ _ _ _ _ _ hr _ =>
      rw [Reader.reconnecting_of_finished hf] at hr
      exact absurd hr (by simp)
  | _ => simp_all [Reader.finished]

/-! ## What every run keeps -/

/-- What the place of a teardown says about the rest of the system. -/
structure Consistent (s : System) (i : Nat) (t : Teardown) : Prop where
  lock : t.holdsLock = true → s.operation = some i
  joining : t = .joining → s.handle = .taken
  joined : t.joined = true → s.handle = .taken ∧ s.client.reader.finished = true
  closes : t.closes = true → s.client.socket.connected = false
  exhausts : t.exhausts = true → s.client.socket.streaming = false
  retires : t.retires = true →
    s.client.socket.engineConnected = false ∧ s.client.socket.transport = false
  done : ∀ ok, t = .done ok → s.client.dispatch = []

theorem Consistent.of_frozen {s : System} {i : Nat} {t : Teardown} {c : Client}
    (h : Consistent s i t) (hf : Frozen s.client c) : Consistent { s with client := c } i t where
  lock := h.lock
  joining := h.joining
  joined ht := by
    obtain ⟨htaken, hfin⟩ := h.joined ht
    exact ⟨htaken, by rw [hf.reader]; exact hfin⟩
  closes ht := hf.connected (h.closes ht)
  exhausts ht := hf.streaming (h.exhausts ht)
  retires ht := ⟨hf.engineConnected (h.retires ht).1, hf.transport (h.retires ht).2⟩
  done ok ht := hf.dispatch (h.done ok ht)

/-- What a place says does not mention the places of the teardowns. -/
theorem Consistent.set {s : System} {i : Nat} {t : Teardown} (h : Consistent s i t) (k : Nat)
    (u : Teardown) : Consistent (s.set k u) i t where
  lock := h.lock
  joining := h.joining
  joined := h.joined
  closes := h.closes
  exhausts := h.exhausts
  retires := h.retires
  done := h.done

/-- A place that says nothing yet. -/
theorem Consistent.of_early {s : System} {i : Nat} {t : Teardown}
    (hl : t.holdsLock = true → s.operation = some i) (hj : t ≠ .joining) (ht : t.joined = false) :
    Consistent s i t where
  lock := hl
  joining h := absurd h hj
  joined h := by simp [ht] at h
  closes h := by cases t <;> simp_all [Teardown.closes, Teardown.joined]
  exhausts h := by cases t <;> simp_all [Teardown.exhausts, Teardown.joined]
  retires h := by cases t <;> simp_all [Teardown.retires, Teardown.joined]
  done ok h := by simp [h, Teardown.joined] at ht

structure Invariant (s : System) : Prop where
  each : ∀ i, Consistent s i (s.teardowns i)
  /-- Whoever took the reader's handle has joined it, or is about to. -/
  taken : s.handle = .taken → s.client.reader.finished = true ∨ ∃ i, s.teardowns i = .joining
  /-- After the first teardown, the others find the client closed. -/
  again : ∀ i ok, s.teardowns i = .done ok → ∀ j, (s.teardowns j).findsClosed = true

theorem invariant_init (onReconnect : Bool) : Invariant (System.init onReconnect) where
  each i := .of_early (by simp [System.init, Teardown.holdsLock]) (by simp [System.init]) rfl
  taken h := by simp [System.init] at h
  again i ok h := by simp [System.init] at h

/-- The client changes under the teardowns: in any way while the reader runs, and only as `Frozen`
allows after that. -/
theorem Invariant.client {s : System} (hs : Invariant s) {c : Client}
    (hf : s.client.reader.finished = true → Frozen s.client c) :
    Invariant { s with client := c } := by
  cases hfin : s.client.reader.finished with
  | true =>
      have hfrozen := hf hfin
      refine ⟨fun i => (hs.each i).of_frozen hfrozen, fun _ => .inl ?_, hs.again⟩
      rw [hfrozen.reader]
      exact hfin
  | false =>
      have hearly : ∀ i, (s.teardowns i).joined = false := by
        intro i
        cases hj : (s.teardowns i).joined with
        | false => rfl
        | true => exact absurd ((hs.each i).joined hj).2 (by simp [hfin])
      refine ⟨fun i => ?_, fun htaken => ?_, hs.again⟩
      · refine ⟨(hs.each i).lock, (hs.each i).joining, fun h => ?_, fun h => ?_, fun h => ?_,
          fun h => ?_, fun ok h => ?_⟩
        · simp [hearly i] at h
        · have := hearly i
          cases ht : s.teardowns i <;> simp_all [Teardown.closes, Teardown.joined]
        · have := hearly i
          cases ht : s.teardowns i <;> simp_all [Teardown.exhausts, Teardown.joined]
        · have := hearly i
          cases ht : s.teardowns i <;> simp_all [Teardown.retires, Teardown.joined]
        · have hplace : s.teardowns i = .done ok := h
          have hjoined := hearly i
          simp [hplace, Teardown.joined] at hjoined
      · rcases hs.taken htaken with h | h
        · simp [hfin] at h
        · exact .inr h

/-- One teardown moves, and what it changes is consistent with the places of the others. -/
theorem Invariant.move {s t : System} (hs : Invariant s) (i : Nat) (place : Teardown)
    (hteardowns : t.teardowns = Function.update s.teardowns i place)
    (hothers : ∀ j, j ≠ i → Consistent s j (s.teardowns j) → Consistent t j (s.teardowns j))
    (hplace : Consistent t i place)
    (htaken : t.handle = .taken → t.client.reader.finished = true ∨ place = .joining ∨
      ∃ j, j ≠ i ∧ s.teardowns j = .joining)
    (hfinds : (∃ j ok, j ≠ i ∧ s.teardowns j = .done ok) → place.findsClosed = true)
    (hdone : ∀ ok, place = .done ok → ∀ j, j ≠ i → (s.teardowns j).findsClosed = true) :
    Invariant t where
  each j := by
    by_cases hj : j = i
    · subst hj
      simpa [hteardowns] using hplace
    · simpa [hteardowns, hj] using hothers j hj (hs.each j)
  taken h := by
    rcases htaken h with hfin | rfl | ⟨j, hj, hjoin⟩
    · exact .inl hfin
    · exact .inr ⟨i, by simp [hteardowns]⟩
    · exact .inr ⟨j, by simpa [hteardowns, hj] using hjoin⟩
  again j ok h k := by
    by_cases hj : j = i
    · subst hj
      have hplaceDone : place = .done ok := by simpa [hteardowns] using h
      by_cases hk : k = j
      · subst hk
        simp [hteardowns, hplaceDone, Teardown.findsClosed]
      · simpa [hteardowns, hk] using hdone ok hplaceDone k hk
    · have hold : s.teardowns j = .done ok := by simpa [hteardowns, hj] using h
      by_cases hk : k = i
      · subst hk
        simpa [hteardowns] using hfinds ⟨j, ok, hj, hold⟩
      · simpa [hteardowns, hk] using hs.again j ok hold k

/-- The lock belongs to at most one teardown. -/
theorem Invariant.alone {s : System} (hs : Invariant s) {i j : Nat} (hi : s.operation = some i)
    (hj : (s.teardowns j).holdsLock = true) : j = i := by
  have := (hs.each j).lock hj
  rw [hi] at this
  exact (Option.some.inj this).symm

/-- While a teardown holds the lock, the others are in places that say little. -/
theorem Invariant.findsClosed_of_ne {s : System} (hs : Invariant s) {i j : Nat}
    (hi : s.operation = some i) (hj : j ≠ i) : (s.teardowns j).findsClosed = true := by
  cases hl : (s.teardowns j).holdsLock with
  | true => exact absurd (hs.alone hi hl) hj
  | false => cases ht : s.teardowns j <;> simp_all [Teardown.holdsLock, Teardown.findsClosed]

/-- The end of a teardown that has retired the transport. -/
theorem Invariant.finish {s : System} (hs : Invariant s) {i : Nat} {send : SendResult}
    {closed : Bool} (hop : s.operation = some i) (htaken : s.handle = .taken)
    (hfin : s.client.reader.finished = true) (hx : s.client.socket.streaming = false)
    (he : s.client.socket.engineConnected = false)
    (ht : s.client.socket.transport = false) : Invariant (s.finish i send closed) := by
  have hfrozen : Frozen s.client ((({ s.client with
      socket := { s.client.socket with connected := false } } : Client)).abortDispatch true) :=
    { Frozen.refl s.client with
      connected := fun _ => rfl
      dispatch := fun h => by simp [Client.abortDispatch, h] }
  refine hs.move i _ rfl ?_ ?_ ?_ ?_ ?_
  · intro j hj hc
    have hold := hc.of_frozen hfrozen
    exact { hold with lock := fun hl => absurd (hs.alone hop hl) hj }
  · exact {
      lock := fun h => by simp [Teardown.holdsLock] at h
      joining := fun h => by simp at h
      joined := fun _ => ⟨htaken, hfin⟩
      closes := fun _ => rfl
      exhausts := fun _ => hx
      retires := fun _ => ⟨he, ht⟩
      done := fun ok _ => by simp [System.finish, System.set, Client.abortDispatch] }
  · exact fun _ => .inl hfin
  · exact fun _ => rfl
  · exact fun ok _ j hj => hs.findsClosed_of_ne hop hj

/-- A teardown that is not joining leaves whoever is. -/
theorem Invariant.taken_of_ne {s : System} (hs : Invariant s) {i : Nat}
    (hi : s.teardowns i ≠ .joining) (htaken : s.handle = .taken) :
    s.client.reader.finished = true ∨ ∃ j, j ≠ i ∧ s.teardowns j = .joining := by
  rcases hs.taken htaken with hfin | ⟨j, hj⟩
  · exact .inl hfin
  · refine .inr ⟨j, ?_, hj⟩
    rintro rfl
    exact hi hj

/-- Past the join, with what the place has cleared so far. -/
theorem Consistent.of_joined {s : System} {i : Nat} {t : Teardown} (hop : s.operation = some i)
    (htaken : s.handle = .taken) (hfin : s.client.reader.finished = true)
    (hplace : t ≠ .joining ∧ ∀ ok, t ≠ .done ok)
    (hcloses : t.closes = true → s.client.socket.connected = false)
    (hexhausts : t.exhausts = true → s.client.socket.streaming = false)
    (hretires : t.retires = true →
      s.client.socket.engineConnected = false ∧ s.client.socket.transport = false) :
    Consistent s i t where
  lock _ := hop
  joining h := absurd h hplace.1
  joined _ := ⟨htaken, hfin⟩
  closes := hcloses
  exhausts := hexhausts
  retires := hretires
  done ok h := absurd h (hplace.2 ok)

theorem Invariant.lock {s : System} (hs : Invariant s) {i : Nat} (hw : s.teardowns i = .waiting)
    (hfree : s.operation = none) : Invariant ({ s with operation := some i }.set i .locked) := by
  refine hs.move i .locked rfl ?_ (.of_early (fun _ => rfl) (by simp) rfl) ?_ (fun _ => rfl)
    (by simp)
  · -- the lock was free, so no other teardown is past it
    intro j hj hc
    refine { hc with lock := fun hl => ?_ }
    have := hc.lock hl
    simp [hfree] at this
  · intro htaken
    exact (hs.taken_of_ne (by simp [hw]) htaken).imp_right .inr

theorem Invariant.announce {s : System} (hs : Invariant s) {i : Nat}
    (hw : s.teardowns i = .locked) :
    Invariant ({ s with client := { s.client with reason := .manual } }.set i .taking) := by
  have hop := (hs.each i).lock (by rw [hw]; rfl)
  -- `Frozen` leaves out the flag that is written here
  have hfrozen : Frozen s.client { s.client with reason := .manual } :=
    { Frozen.refl s.client with }
  apply hs.move i .taking rfl (fun j _ hc => (hc.of_frozen hfrozen).set _ _)
    (.of_early (fun _ => hop) (by simp) rfl)
  · intro htaken
    exact (hs.taken_of_ne (by simp [hw]) htaken).imp_right .inr
  · exact fun _ => rfl
  · simp

theorem Invariant.take {s : System} (hs : Invariant s) {i : Nat} (hw : s.teardowns i = .taking)
    (hstored : s.handle = .stored) :
    Invariant ({ s with handle := .taken, aborted := true }.set i .joining) := by
  have hop := (hs.each i).lock (by rw [hw]; rfl)
  refine hs.move i .joining rfl ?_ ?_ (fun _ => .inr (.inl rfl)) (fun _ => rfl) (by simp)
  · -- the handle was still there, so nobody has joined the reader
    intro j hj hc
    have hjoined : (s.teardowns j).joined = false := by
      cases hjj : (s.teardowns j).joined with
      | false => rfl
      | true => simpa [hstored] using (hc.joined hjj).1
    exact { hc with
      joining := fun _ => rfl
      joined := fun hjj => by simp [hjoined] at hjj }
  · exact {
      lock := fun _ => hop
      joining := fun _ => rfl
      joined := fun hj => by simp [Teardown.joined] at hj
      closes := fun hj => by simp [Teardown.closes] at hj
      exhausts := fun hj => by simp [Teardown.exhausts] at hj
      retires := fun hj => by simp [Teardown.retires] at hj
      done := fun ok hj => by simp at hj }

/-- A teardown goes on to the send, behind the fence. -/
theorem Invariant.pass {s : System} (hs : Invariant s) {i : Nat} (hop : s.operation = some i)
    (htaken : s.handle = .taken) (hfin : s.client.reader.finished = true) :
    Invariant (s.set i .sending) := by
  apply hs.move i .sending rfl (fun j _ hc => hc.set _ _)
  · exact .of_joined hop htaken hfin (by simp) (by simp [Teardown.closes])
      (by simp [Teardown.exhausts]) (by simp [Teardown.retires])
  · exact fun _ => .inl hfin
  · exact fun _ => rfl
  · simp

theorem Invariant.findTaken {s : System} (hs : Invariant s) {i : Nat}
    (hw : s.teardowns i = .taking) (htaken : s.handle = .taken) :
    Invariant (s.set i .sending) := by
  have hop := (hs.each i).lock (by rw [hw]; rfl)
  -- another teardown took the handle before; it is done, so the reader is
  have hfin : s.client.reader.finished = true := by
    rcases hs.taken htaken with hfin | ⟨j, hj⟩
    · exact hfin
    · have hji : j = i := hs.alone hop (by rw [hj]; rfl)
      rw [hji, hw] at hj
      simp at hj
  exact hs.pass hop htaken hfin

theorem Invariant.send {s : System} (hs : Invariant s) {i : Nat} {send : SendResult}
    (hw : s.teardowns i = .sending)
    (hrefused : s.client.socket.sends = false → send = .illegalActionBeforeOpen) :
    Invariant ({ s with client := { s.client with
      socket := { s.client.socket with connected := false } } }.set i (.closing send)) := by
  have hop := (hs.each i).lock (by rw [hw]; rfl)
  obtain ⟨htaken, hfin⟩ := (hs.each i).joined (by rw [hw]; rfl)
  have hfrozen : Frozen s.client { s.client with
      socket := { s.client.socket with connected := false } } :=
    { Frozen.refl s.client with connected := fun _ => rfl }
  apply hs.move i _ rfl (fun j _ hc => (hc.of_frozen hfrozen).set _ _)
  · exact .of_joined hop htaken hfin (by simp) (fun _ => rfl) (by simp [Teardown.exhausts])
      (by simp [Teardown.retires])
  · exact fun _ => .inl hfin
  · -- after a teardown has returned, the send is refused
    rintro ⟨j, ok, -, hdone⟩
    have hconnected := (hs.each j).closes (by rw [hdone]; rfl)
    have hsend := hrefused (by simp [InnerSocket.sends, hconnected])
    simp [Teardown.findsClosed, hsend]
  · simp

theorem Invariant.close {s : System} (hs : Invariant s) {i : Nat} {send : SendResult}
    (hw : s.teardowns i = .closing send) :
    Invariant ({ s with client := s.client.exhaust }.set i (.disconnecting send)) := by
  have hop := (hs.each i).lock (by rw [hw]; rfl)
  obtain ⟨htaken, hfin⟩ := (hs.each i).joined (by rw [hw]; rfl)
  have hcloses := (hs.each i).closes (by rw [hw]; rfl)
  have hfrozen : Frozen s.client s.client.exhaust :=
    { Frozen.refl s.client with streaming := fun _ => rfl }
  apply hs.move i _ rfl (fun j _ hc => (hc.of_frozen hfrozen).set _ _)
  · exact .of_joined hop htaken hfin (by simp) (fun _ => hcloses) (fun _ => rfl)
      (by simp [Teardown.retires])
  · exact fun _ => .inl hfin
  · rintro ⟨j, ok, -, hdone⟩
    have hfinds := hs.again j ok hdone i
    rw [hw] at hfinds
    exact hfinds
  · simp

theorem Frozen.of_retired (c : Client) : Frozen c { c with
    socket := { c.socket with engineConnected := false, transport := false } } :=
  { Frozen.refl c with engineConnected := fun _ => rfl, transport := fun _ => rfl }

theorem Invariant.retire {s : System} (hs : Invariant s) {i : Nat} {send : SendResult}
    (hw : s.teardowns i = .disconnecting send) (ht : s.client.socket.transport = true) :
    Invariant ({ s with client := { s.client with
      socket := { s.client.socket with engineConnected := false, transport := false } } }.set i
        (.emittingClose send)) := by
  have hop := (hs.each i).lock (by rw [hw]; rfl)
  obtain ⟨htaken, hfin⟩ := (hs.each i).joined (by rw [hw]; rfl)
  have hcloses := (hs.each i).closes (by rw [hw]; rfl)
  have hexhausts := (hs.each i).exhausts (by rw [hw]; rfl)
  apply hs.move i _ rfl (fun j _ hc => (hc.of_frozen (.of_retired s.client)).set _ _)
  · exact .of_joined hop htaken hfin (by simp) (fun _ => hcloses) (fun _ => hexhausts)
      (fun _ => ⟨rfl, rfl⟩)
  · exact fun _ => .inl hfin
  · -- a teardown that has returned left the slot empty
    rintro ⟨j, ok, -, hdone⟩
    have hretired := ((hs.each j).retires (by rw [hdone]; rfl)).2
    simp [hretired] at ht
  · simp

theorem Invariant.findRetired {s : System} (hs : Invariant s) {i : Nat} {send : SendResult}
    (hw : s.teardowns i = .disconnecting send) :
    Invariant ({ s with client := { s.client with
      socket := { s.client.socket with engineConnected := false, transport := false } } }.finish i
        send true) := by
  have hop := (hs.each i).lock (by rw [hw]; rfl)
  obtain ⟨htaken, hfin⟩ := (hs.each i).joined (by rw [hw]; rfl)
  have hexhausts := (hs.each i).exhausts (by rw [hw]; rfl)
  have hretired := hs.client fun _ => Frozen.of_retired s.client
  exact hretired.finish hop htaken hfin hexhausts rfl rfl

theorem Invariant.emitClose {s : System} (hs : Invariant s) {i : Nat} {send : SendResult}
    (hw : s.teardowns i = .emittingClose send) (ok : Bool) : Invariant (s.finish i send ok) := by
  have hop := (hs.each i).lock (by rw [hw]; rfl)
  obtain ⟨htaken, hfin⟩ := (hs.each i).joined (by rw [hw]; rfl)
  have hexhausts := (hs.each i).exhausts (by rw [hw]; rfl)
  obtain ⟨he, ht⟩ := (hs.each i).retires (by rw [hw]; rfl)
  exact hs.finish hop htaken hfin hexhausts he ht

/-- A step of a teardown. -/
theorem Invariant.advance {s s' : System} (hs : Invariant s) {i : Nat} {ok : Bool}
    {place : Teardown} (h : System.Advance s i ok place s') : Invariant s' := by
  cases h with
  | lock hw hfree => exact hs.lock hw hfree
  | announce hw => exact hs.announce hw
  | take hw hstored => exact hs.take hw hstored
  | findTaken hw htaken => exact hs.findTaken hw htaken
  | join hw hfin => exact hs.pass ((hs.each i).lock (by rw [hw]; rfl)) ((hs.each i).joining hw) hfin
  | send send hw hrefused => exact hs.send hw hrefused
  | close send hw => exact hs.close hw
  | retire send hw ht => exact hs.retire hw ht
  | findRetired send hw ht => exact hs.findRetired hw
  | emitClose send hw => exact hs.emitClose hw ok

/-- `poll_stream` stores the handle, which nobody can have taken yet. -/
theorem Invariant.register {s : System} (hs : Invariant s) (hr : s.handle = .unregistered) :
    Invariant { s with handle := .stored } := by
  refine ⟨fun i => { hs.each i with joining := fun hj => ?_, joined := fun hj => ?_ },
    fun htaken => by simp at htaken, hs.again⟩
  · have htaken := (hs.each i).joining hj
    simp [hr] at htaken
  · have htaken := ((hs.each i).joined hj).1
    simp [hr] at htaken

/-- A label of the reader changes the client only, and a finished reader's client hardly at all. -/
theorem Transition.frozen {cfg : Config} {c c' : Client} {label : ReaderLabel}
    (h : Transition cfg c label c') (hf : c.reader.finished = true) : Frozen c c' := by
  obtain ⟨index, rfl⟩ := h.of_finished hf
  exact { Frozen.refl c with dispatch := fun hc => by simp [hc] }

theorem invariant_step {cfg : Config} {s s' : System} {label : System.Label} (hs : Invariant s)
    (h : System.step cfg s label = some s') : Invariant s' := by
  cases System.step_cases h with
  | reader label client htrans => exact hs.client fun hfin => htrans.frozen hfin
  | register hr => exact hs.register hr
  | cancel haborted hrun => exact hs.client fun hfin => by simp [hrun] at hfin
  | disconnect i hidle =>
      apply hs.move i .waiting rfl (fun j _ hc => hc.set _ _)
        (.of_early (by simp [Teardown.holdsLock]) (by simp) rfl)
      · intro htaken
        exact (hs.taken_of_ne (by simp [hidle]) htaken).imp_right .inr
      · exact fun _ => rfl
      · simp
  | advance i ok place s' hadvance => exact hs.advance hadvance

theorem invariant_run {cfg : Config} {onReconnect : Bool} {labels : List System.Label} {s : System}
    (h : Lts.run (System.step cfg) (.init onReconnect) labels = some s) : Invariant s :=
  Lts.invariant (fun _ _ _ hs hstep => invariant_step hs hstep) (invariant_init onReconnect) h

end TfSocketio.Socketio.Async
