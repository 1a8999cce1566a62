/-
# Socketio.Disconnect — a disconnect of the asynchronous client is final.

Once a teardown has joined the reader, nothing is installed, counted, called or spawned any more,
and once a teardown has returned, every other one finds a closed client and returns `Ok`.
-/
import TfSocketio.Socketio.Teardown

namespace TfSocketio.Socketio.Async

/-! ## Steps after the reader's end -/

theorem finish_frozen (s : System) (i : Nat) (send : SendResult) (closed : Bool) :
    Frozen s.client (s.finish i send closed).client :=
  { Frozen.refl s.client with
    connected := fun _ => rfl
    dispatch := fun h => by simp [System.finish, System.set, Client.abortDispatch] }

theorem advance_frozen {s s' : System} {i : Nat} {ok : Bool} {place : Teardown}
    (h : System.Advance s i ok place s') : Frozen s.client s'.client := by
  cases h with
  | announce hw => exact { Frozen.refl s.client with }
  | send send hw _ => exact { Frozen.refl s.client with connected := fun _ => rfl }
  | close send hw => exact { Frozen.refl s.client with streaming := fun _ => rfl }
  | retire send hw ht => exact .of_retired s.client
  | findRetired send hw ht =>
      have hfinish := finish_frozen { s with client := { s.client with
        socket := { s.client.socket with engineConnected := false, transport := false } } } i send
          true
      exact (Frozen.of_retired s.client).trans hfinish
  | emitClose send hw => exact finish_frozen s i send ok
  -- the others leave the client as it is
  | _ => exact .refl _

/-- Once the reader has finished, no teardown, no reader and no dispatch task changes what `Frozen`
keeps. -/
theorem step_frozen {cfg : Config} {s s' : System} {label : System.Label}
    (hf : s.client.reader.finished = true) (h : System.step cfg s label = some s') :
    Frozen s.client s'.client := by
  cases System.step_cases h with
  | reader label client htrans => exact htrans.frozen hf
  | register hr => exact .refl _
  | cancel haborted hrun => simp [hf] at hrun
  | disconnect i hidle => exact .refl _
  | advance i ok place s' hadvance => exact advance_frozen hadvance

theorem run_frozen {cfg : Config} {s s' : System} {labels : List System.Label}
    (hf : s.client.reader.finished = true) (h : Lts.run (System.step cfg) s labels = some s') :
    Frozen s.client s'.client := by
  have hboth : Frozen s.client s'.client ∧ s'.client.reader.finished = true := by
    refine Lts.invariant (P := fun t : System =>
      Frozen s.client t.client ∧ t.client.reader.finished = true) ?_ ⟨.refl _, hf⟩ h
    rintro t label u ⟨hfrozen, hfin⟩ hstep
    have hnext := step_frozen hfin hstep
    exact ⟨hfrozen.trans hnext, by rw [hnext.reader]; exact hfin⟩
  exact hboth.1

/-! ## The places of the teardowns -/

/-- What a call returns when it goes from its last await point to its end. -/
def Teardown.returns : Teardown → Bool → Bool
  | .disconnecting send, ok => ok = (send ≠ SendResult.error)
  | .emittingClose _, _ => true
  | _, _ => false

/-- One teardown moves to a place; the others stay where they are. -/
structure Moved (s s' : System) (i : Nat) (place : Teardown) : Prop where
  teardowns : s'.teardowns = Function.update s.teardowns i place
  running : ∀ ok, s.teardowns i ≠ .done ok
  returns : ∀ ok, place = .done ok → (s.teardowns i).returns ok = true
  lock : s'.operation = none ∨
    s'.operation = s.operation ∧ (s.teardowns i).holdsLock = false ∨
    (s'.operation = s.operation ∨ s'.operation = some i) ∧ place.holdsLock = true

theorem advance_moved {s s' : System} {i : Nat} {ok : Bool} {place : Teardown}
    (h : System.Advance s i ok place s') : Moved s s' i place := by
  cases h with
  | lock hw hfree => exact ⟨rfl, by simp [hw], by simp, .inr (.inr ⟨.inr rfl, rfl⟩)⟩
  | announce hw => exact ⟨rfl, by simp [hw], by simp, .inr (.inr ⟨.inl rfl, rfl⟩)⟩
  | take hw hstored => exact ⟨rfl, by simp [hw], by simp, .inr (.inr ⟨.inl rfl, rfl⟩)⟩
  | findTaken hw htaken => exact ⟨rfl, by simp [hw], by simp, .inr (.inr ⟨.inl rfl, rfl⟩)⟩
  | join hw hfin => exact ⟨rfl, by simp [hw], by simp, .inr (.inr ⟨.inl rfl, rfl⟩)⟩
  | send send hw _ => exact ⟨rfl, by simp [hw], by simp, .inr (.inr ⟨.inl rfl, rfl⟩)⟩
  | close send hw => exact ⟨rfl, by simp [hw], by simp, .inr (.inr ⟨.inl rfl, rfl⟩)⟩
  | retire send hw ht => exact ⟨rfl, by simp [hw], by simp, .inr (.inr ⟨.inl rfl, rfl⟩)⟩
  | findRetired send hw ht =>
      -- another teardown has retired the transport: the close succeeds, the send decides
      refine ⟨rfl, by simp [hw], fun ok' hplace => ?_, .inl rfl⟩
      have hok : decide (send ≠ .error) = ok' := by simpa using hplace
      rw [hw, ← hok]
      simp [Teardown.returns]
  | emitClose send hw =>
      refine ⟨rfl, by simp [hw], fun _ _ => ?_, .inl rfl⟩
      rw [hw]
      rfl

/-- A step moves at most one teardown, and none that has returned. -/
theorem step_moved {cfg : Config} {s s' : System} {label : System.Label}
    (h : System.step cfg s label = some s') :
    s'.teardowns = s.teardowns ∧ s'.operation = s.operation ∨ ∃ i place, Moved s s' i place := by
  cases System.step_cases h with
  | reader label client htrans => exact .inl ⟨rfl, rfl⟩
  | register hr => exact .inl ⟨rfl, rfl⟩
  | cancel haborted hrun => exact .inl ⟨rfl, rfl⟩
  | disconnect i hidle =>
      have hfree : (s.teardowns i).holdsLock = false := by rw [hidle]; rfl
      exact .inr ⟨i, .waiting, rfl, by simp [hidle], by simp, .inr (.inl ⟨rfl, hfree⟩)⟩
  | advance i ok place s' hadvance => exact .inr ⟨i, place, advance_moved hadvance⟩

theorem step_done {cfg : Config} {s s' : System} {label : System.Label} {i : Nat} {ok : Bool}
    (hd : s.teardowns i = .done ok) (h : System.step cfg s label = some s') :
    s'.teardowns i = .done ok := by
  rcases step_moved h with ⟨hsame, -⟩ | ⟨k, place, hmove⟩
  · rw [hsame, hd]
  · have hik : i ≠ k := by
      rintro rfl
      exact hmove.running ok hd
    rw [hmove.teardowns, Function.update_of_ne hik, hd]

/-- Whoever returns after another one has returned, returns `Ok`. -/
theorem Invariant.step_ok {cfg : Config} {s s' : System} {label : System.Label} {i j : Nat}
    {b ok : Bool} (hs : Invariant s) (hd : s.teardowns i = .done b)
    (h : System.step cfg s label = some s') (hj : s'.teardowns j = .done ok) :
    s.teardowns j = .done ok ∨ ok = true := by
  rcases step_moved h with ⟨hsame, -⟩ | ⟨k, place, hmove⟩
  · exact .inl (by rw [← hsame, hj])
  · by_cases hjk : j = k
    · subst hjk
      have hret := hmove.returns ok (by simpa [hmove.teardowns] using hj)
      have hfinds := hs.again i b hd j
      right
      cases hplace : s.teardowns j <;> simp_all [Teardown.returns, Teardown.findsClosed]
    · left
      simpa [hmove.teardowns, hjk] using hj

theorem run_ok {cfg : Config} {s s' : System} {labels : List System.Label} {i j : Nat}
    {b ok : Bool} (hs : Invariant s) (hd : s.teardowns i = .done b)
    (h : Lts.run (System.step cfg) s labels = some s')
    (hrunning : ∀ ok, s.teardowns j ≠ .done ok) (hj : s'.teardowns j = .done ok) : ok = true := by
  have hall : Invariant s' ∧ s'.teardowns i = .done b ∧
      ∀ ok, s'.teardowns j = .done ok → ok = true := by
    refine Lts.invariant (P := fun t : System => Invariant t ∧ t.teardowns i = .done b ∧
      ∀ ok, t.teardowns j = .done ok → ok = true) ?_
      ⟨hs, hd, fun ok hj => absurd hj (hrunning ok)⟩ h
    rintro t label u ⟨ht, htd, htj⟩ hstep
    refine ⟨invariant_step ht hstep, step_done htd hstep, fun ok huj => ?_⟩
    rcases ht.step_ok htd hstep huj with hold | hok
    · exact htj ok hold
    · exact hok
  exact hall.2.2 ok hj

/-! ## Every later call returns -/

/-- How many steps a teardown that holds the lock has left, at most. -/
def Teardown.remaining : Teardown → Nat
  | .locked => 6
  | .taking => 5
  | .joining => 4
  | .sending => 3
  | .closing _ => 2
  | .disconnecting _ => 1
  | _ => 0

/-- After the first teardown, the one that holds the lock waits for nobody. -/
theorem Invariant.advance_enabled {s : System} {i k : Nat} {b : Bool} (hs : Invariant s)
    (hd : s.teardowns i = .done b) (hk : (s.teardowns k).holdsLock = true) :
    ∃ s', s.advance k true = some s' ∧
      ((∃ ok, s'.teardowns k = .done ok) ∧ s'.operation = none ∨
        (s'.teardowns k).holdsLock = true ∧
          (s'.teardowns k).remaining < (s.teardowns k).remaining) := by
  obtain ⟨htaken, hfin⟩ := (hs.each i).joined (by rw [hd]; rfl)
  have htransport := ((hs.each i).retires (by rw [hd]; rfl)).2
  unfold System.advance
  cases hplace : s.teardowns k with
  | idle => simp [hplace, Teardown.holdsLock] at hk
  | waiting => simp [hplace, Teardown.holdsLock] at hk
  | done ok => simp [hplace, Teardown.holdsLock] at hk
  | locked => exact ⟨_, rfl, .inr (by simp [System.set, Teardown.holdsLock, Teardown.remaining])⟩
  | taking =>
      refine ⟨s.set k .sending, by simp [htaken], .inr ?_⟩
      simp [System.set, Teardown.holdsLock, Teardown.remaining]
  | joining =>
      refine ⟨s.set k .sending, by simp [hfin], .inr ?_⟩
      simp [System.set, Teardown.holdsLock, Teardown.remaining]
  | sending => exact ⟨_, rfl, .inr (by simp [System.set, Teardown.holdsLock, Teardown.remaining])⟩
  | closing send =>
      exact ⟨_, rfl, .inr (by simp [System.set, Teardown.holdsLock, Teardown.remaining])⟩
  | disconnecting send =>
      simp only [htransport]
      exact ⟨_, rfl, .inl ⟨⟨_, Function.update_self _ _ _⟩, rfl⟩⟩
  | emittingClose send => exact ⟨_, rfl, .inl ⟨⟨_, Function.update_self _ _ _⟩, rfl⟩⟩

/-- The teardown that holds the lock gets to its end, and gives the lock back. -/
theorem Invariant.drive (cfg : Config) {s : System} {i k : Nat} {b : Bool} (hs : Invariant s)
    (hd : s.teardowns i = .done b) (hk : (s.teardowns k).holdsLock = true) :
    ∃ labels s', Lts.run (System.step cfg) s labels = some s' ∧
      (∃ ok, s'.teardowns k = .done ok) ∧ s'.operation = none := by
  induction hn : (s.teardowns k).remaining using Nat.strongRecOn generalizing s with
  | _ n ih =>
      obtain ⟨t, ht, hend | ⟨hlock, hless⟩⟩ := hs.advance_enabled hd hk
      · have hstep : System.step cfg s (.advance k true) = some t := ht
        exact ⟨[.advance k true], t, by rw [Lts.run_cons, hstep]; rfl, hend⟩
      · have hstep : System.step cfg s (.advance k true) = some t := ht
        obtain ⟨labels, s', hrun, hend⟩ := ih _ (by rw [← hn]; exact hless)
          (invariant_step hs hstep) (step_done hd hstep) hlock rfl
        exact ⟨.advance k true :: labels, s', by rw [Lts.run_cons, hstep]; exact hrun, hend⟩

/-- With the lock free, a call that has not returned can be driven to its end. -/
theorem Invariant.drive_free (cfg : Config) {s : System} {i j : Nat} {b : Bool} (hs : Invariant s)
    (hd : s.teardowns i = .done b) (hfree : s.operation = none) :
    ∃ labels s', Lts.run (System.step cfg) s labels = some s' ∧
      ∃ ok, s'.teardowns j = .done ok := by
  have hwaiting : ∀ t : System, Invariant t → t.teardowns i = .done b → t.operation = none →
      t.teardowns j = .waiting → ∃ labels s', Lts.run (System.step cfg) t labels = some s' ∧
        ∃ ok, s'.teardowns j = .done ok := by
    intro t ht htd htfree hplace
    have hstep : System.step cfg t (.advance j true) =
        some ({ t with operation := some j }.set j .locked) := by
      show t.advance j true = _
      unfold System.advance
      rw [hplace]
      simp [htfree]
    obtain ⟨labels, s', hrun, hend, -⟩ := (invariant_step ht hstep).drive cfg
      (step_done htd hstep) (k := j) (by simp [System.set, Teardown.holdsLock])
    exact ⟨.advance j true :: labels, s', by rw [Lts.run_cons, hstep]; exact hrun, hend⟩
  cases hlock : (s.teardowns j).holdsLock with
  | true =>
      have := (hs.each j).lock hlock
      simp [hfree] at this
  | false =>
      cases hplace : s.teardowns j with
      | idle =>
          have hstep : System.step cfg s (.disconnect j) = some (s.set j .waiting) := by
            simp [System.step, hplace]
          obtain ⟨labels, s', hrun, hend⟩ := hwaiting _ (invariant_step hs hstep)
            (step_done hd hstep) hfree (by simp [System.set])
          exact ⟨.disconnect j :: labels, s', by rw [Lts.run_cons, hstep]; exact hrun, hend⟩
      | waiting => exact hwaiting s hs hd hfree hplace
      | done ok => exact ⟨[], s, rfl, ok, hplace⟩
      | _ => simp [hplace, Teardown.holdsLock] at hlock

/-- The lock is held by a call that is between taking it and giving it back. -/
def Owned (s : System) : Prop := ∀ k, s.operation = some k → (s.teardowns k).holdsLock = true

theorem owned_step {cfg : Config} {s s' : System} {label : System.Label} (hs : Owned s)
    (h : System.step cfg s label = some s') : Owned s' := by
  intro k hk
  rcases step_moved h with ⟨hsame, hop⟩ | ⟨i, place, hmove⟩
  · rw [hsame]
    exact hs k (by rw [← hop, hk])
  · rw [hmove.teardowns]
    rcases hmove.lock with hnone | ⟨hop, hfree⟩ | ⟨hop, hplace⟩
    · simp [hnone] at hk
    · have hold := hs k (by rw [← hop, hk])
      have hki : k ≠ i := by
        rintro rfl
        simp [hold] at hfree
      rw [Function.update_of_ne hki]
      exact hold
    · by_cases hki : k = i
      · rw [hki, Function.update_self]
        exact hplace
      · rw [Function.update_of_ne hki]
        rcases hop with hop | hop
        · exact hs k (by rw [← hop, hk])
        · rw [hk] at hop
          exact absurd (Option.some.inj hop) hki

/-- After the first teardown has returned, every call can be driven to its end. -/
theorem Invariant.drive_any (cfg : Config) {s : System} {i : Nat} {b : Bool} (hs : Invariant s)
    (ho : Owned s) (hd : s.teardowns i = .done b) (j : Nat) :
    ∃ labels s', Lts.run (System.step cfg) s labels = some s' ∧
      ∃ ok, s'.teardowns j = .done ok := by
  cases hop : s.operation with
  | none => exact hs.drive_free cfg hd hop
  | some k =>
      -- first the call that holds the lock, then the one in question
      obtain ⟨labels, t, hrun, -, hfree⟩ := hs.drive cfg hd (ho k hop)
      have ht : Invariant t ∧ t.teardowns i = .done b :=
        Lts.invariant (P := fun t : System => Invariant t ∧ t.teardowns i = .done b)
          (fun _ _ _ hu hstep => ⟨invariant_step hu.1 hstep, step_done hu.2 hstep⟩) ⟨hs, hd⟩ hrun
      obtain ⟨more, s', hmore, hend⟩ := ht.1.drive_free cfg (j := j) ht.2 hfree
      refine ⟨labels ++ more, s', ?_, hend⟩
      rw [Lts.run_append, hrun]
      exact hmore

/-! ## A disconnect is final -/

/-- The client as a teardown leaves it: no dispatch task, no transport, and nothing is sent any
more. -/
structure TornDown (c : Client) : Prop where
  dispatch : c.dispatch = []
  transport : c.socket.transport = false
  rejects : ∀ (engineClient : EngineClient) (packet : Packet),
    engineClient.connected = c.socket.engineConnected →
      ((Socketio.Socket.mk engineClient c.socket.connected).send packet).1 =
        .error .illegalActionBeforeOpen

theorem Invariant.tornDown {s : System} {i : Nat} {ok : Bool} (hs : Invariant s)
    (hd : s.teardowns i = .done ok) : TornDown s.client where
  dispatch := (hs.each i).done ok hd
  transport := ((hs.each i).retires (by rw [hd]; rfl)).2
  rejects engineClient packet he := by
    have hengine := ((hs.each i).retires (by rw [hd]; rfl)).1
    exact InnerSocket.send_of_not_sends (by simp [InnerSocket.sends, hengine]) he packet

/-- A torn down client stays as it is, but for `disconnect_reason`, which a later teardown writes
again. -/
theorem Frozen.eq_of_tornDown {c c' : Client} (h : Frozen c c') (hc : TornDown c)
    (hconnected : c.socket.connected = false) (hstreaming : c.socket.streaming = false)
    (hengine : c.socket.engineConnected = false) :
    { c' with reason := c.reason } = c := by
  have hsocket : c'.socket = c.socket := by
    apply InnerSocket.ext
    · rw [hconnected, h.connected hconnected]
    · rw [hstreaming, h.streaming hstreaming]
    · rw [hengine, h.engineConnected hengine]
    · rw [hc.transport, h.transport hc.transport]
  have hdispatch : c'.dispatch = c.dispatch := by rw [h.dispatch hc.dispatch, hc.dispatch]
  exact Client.ext rfl h.epoch hsocket h.onReconnect hdispatch h.reader h.history

/-- **A disconnect is final and idempotent.**  In every interleaving of the reader, the dispatch
tasks and any number of disconnects: once one of them has joined the reader, nothing is installed,
counted, called or spawned any more; and once it has returned, the client is torn down, stays so,
and every other disconnect returns `Ok`. -/
theorem disconnect_final {cfg : Config} {onReconnect : Bool} {before after : List System.Label}
    {s s' : System} {i : Nat} (hs : Lts.run (System.step cfg) (.init onReconnect) before = some s)
    (hi : (s.teardowns i).joined = true)
    (hs' : Lts.run (System.step cfg) s after = some s') :
    s'.client.history = s.client.history ∧ s'.client.epoch = s.client.epoch ∧
      ∀ ok, s.teardowns i = .done ok →
        TornDown s.client ∧ { s'.client with reason := s.client.reason } = s.client ∧
          ∀ j, (∀ ok', s.teardowns j ≠ .done ok') →
            (∀ ok', s'.teardowns j = .done ok' → ok' = true) ∧
              ∃ labels t, Lts.run (System.step cfg) s' labels = some t ∧
                t.teardowns j = .done true := by
  have hinv : Invariant s := invariant_run hs
  have hfrozen : Frozen s.client s'.client := run_frozen ((hinv.each i).joined hi).2 hs'
  refine ⟨hfrozen.history, hfrozen.epoch, fun ok hd => ?_⟩
  have htorn : TornDown s.client := hinv.tornDown hd
  refine ⟨htorn, ?_, fun j hj => ⟨fun ok' hd' => run_ok hinv hd hs' hj hd', ?_⟩⟩
  · exact hfrozen.eq_of_tornDown htorn ((hinv.each i).closes (by rw [hd]; rfl))
      ((hinv.each i).exhausts (by rw [hd]; rfl)) ((hinv.each i).retires (by rw [hd]; rfl)).1
  · have howned : Owned s' := by
      have hinit : Owned (System.init onReconnect) := by
        intro k hk
        simp [System.init] at hk
      refine Lts.invariant (P := Owned) (fun _ _ _ hu hstep => owned_step hu hstep) ?_ hs'
      exact Lts.invariant (P := Owned) (fun _ _ _ hu hstep => owned_step hu hstep) hinit hs
    have hlater : Invariant s' ∧ s'.teardowns i = .done ok :=
      Lts.invariant (P := fun t : System => Invariant t ∧ t.teardowns i = .done ok)
        (fun _ _ _ hu hstep => ⟨invariant_step hu.1 hstep, step_done hu.2 hstep⟩) ⟨hinv, hd⟩ hs'
    obtain ⟨labels, t, hrun, ok', hend⟩ := hlater.1.drive_any cfg howned hlater.2 j
    refine ⟨labels, t, hrun, ?_⟩
    have hall : Lts.run (System.step cfg) s (after ++ labels) = some t := by
      rw [Lts.run_append, hs']
      exact hrun
    rw [hend, run_ok hinv hd hall hj hend]

/-- The first session is lost, the first attempt to reconnect fails, and a disconnect cancels the
reader in its backoff. -/
def disconnectInBackoff : List System.Label :=
  [.register, .reader .proceed, .reader .streamEnd, .reader .proceed, .reader .proceed,
    .reader .proceed, .reader .proceed, .reader .proceed, .reader (.result false), .disconnect 0,
    .advance 0 true, .advance 0 true, .advance 0 true, .cancel, .advance 0 true, .advance 0 true,
    .advance 0 true, .advance 0 true, .advance 0 false]

/-- A second call, on the closed client. -/
def disconnectAgain : List System.Label :=
  .disconnect 1 :: List.replicate 6 (.advance 1 true)

theorem disconnect_final_inBackoff :
    ∃ s s', Lts.run (System.step .new) (.init true) disconnectInBackoff = some s ∧
      Lts.run (System.step .new) s disconnectAgain = some s' ∧
      s.teardowns 0 = .done false ∧ s'.teardowns 1 = .done true ∧
      s'.client.history = s.client.history ∧ TornDown s.client := by
  have hfirst : ∃ s, Lts.run (System.step .new) (.init true) disconnectInBackoff = some s ∧
      s.teardowns 0 = .done false ∧ ∃ s', Lts.run (System.step .new) s disconnectAgain = some s' ∧
        s'.teardowns 1 = .done true := ⟨_, rfl, rfl, _, rfl, rfl⟩
  obtain ⟨s, hs, hd, s', hs', hd'⟩ := hfirst
  have hfinal := disconnect_final hs (i := 0) (by rw [hd]; rfl) hs'
  exact ⟨s, s', hs, hs', hd, hd', hfinal.1, (hfinal.2.2 false hd).1⟩

end TfSocketio.Socketio.Async
