/-
# Socketio.PollLoop — whether the poll thread of the synchronous client ends.

The loop of `poll_callback` is over an iterator, and `Iter::next` makes an item of everything: of a
closed engine.io socket it makes `StoppedEngineIoSocket`, on which the loop does nothing.  So a
thread that comes back to `Iter::next` while the socket stays closed turns for ever.

`loopEnds_iff` says from which places of the poll thread it does not come back.
-/
import TfSocketio.Socketio.ReconnectLoop
import TfSocketio.Socketio.SyncDisconnect

namespace TfSocketio.Socketio.Sync

/-- The step takes an item of `Iter` through the body of the loop. -/
def Client.iterates (s : Client) : Label → Bool
  | .proceed =>
      match s.poller with
      | .deciding _ => true
      | _ => false
  | _ => false

/-- **The loop over `Iter` ends.**  As long as no new client is installed, the number of iterations
that may follow is bounded. -/
def LoopEnds (cfg : Config) (s : Client) : Prop :=
  ∃ bound, ∀ labels s', Lts.run (step cfg) s labels = some s' →
    installs s'.history = installs s.history →
    Lts.taken (step cfg) Client.iterates s labels ≤ bound

/-- The loop of `reconnect` is left only by a success or a panic: there is no maximum, or the
largest one. -/
def endless (cfg : Config) : Bool :=
  cfg.maxReconnectAttempts = none || cfg.maxReconnectAttempts = some 255

/-- From this place the poll thread comes back to `Iter::next` only with a new client, though the
flag of the engine.io socket is cleared. -/
def Poller.staysAway (cfg : Config) : Poller → Bool
  | .next => false
  | .polling _ => false
  | .polled _ => false
  -- the Pong cannot be sent
  | .pinged _ => cfg.reconnect && endless cfg
  | .handling packet => shouldReconnect cfg (.packet packet) && (cfg.reconnect && endless cfg)
  | .deciding result => shouldReconnect cfg result && (cfg.reconnect && endless cfg)
  | .disconnecting _ => cfg.reconnect && endless cfg
  | .attempt _ => endless cfg
  | .sleeping _ => endless cfg
  | .connecting _ => endless cfg
  | .installing => true
  | .panicked => true

/-! ## A thread that stays away -/

section StaysAway

variable {cfg : Config} {s s' : Client} {label : Label}

/-- The flag is cleared and the poll thread does not come back. -/
structure Away (cfg : Config) (s : Client) : Prop where
  engineConnected : s.engineConnected = false
  poller : s.poller.staysAway cfg = true

/-- How many items there may still be. -/
def Poller.items : Poller → Nat
  | .pinged _ => 1
  | .handling _ => 1
  | .deciding _ => 1
  | _ => 0

theorem staysAway_nextAttempt {attempts : UInt8} (hc : endless cfg = true) :
    (nextAttempt cfg attempts).staysAway cfg = true ∧ (nextAttempt cfg attempts).items = 0 := by
  unfold nextAttempt
  cases hmax : cfg.maxReconnectAttempts with
  | none => exact ⟨hc, rfl⟩
  | some max =>
      obtain rfl : max = 255 := by simpa [endless, hmax] using hc
      dsimp only
      split
      · exact ⟨rfl, rfl⟩
      · have hle : ¬ (255 : UInt8) < attempts + 1 := by
          have hbound := (attempts + 1).toNat_lt
          have h255 : (255 : UInt8).toNat = 255 := rfl
          rw [UInt8.lt_iff_toNat_lt]
          omega
        rw [if_neg hle]
        exact ⟨hc, rfl⟩

theorem handle_poller (s : Client) (packet : Packet) (ok : Bool) :
    ∃ result, (s.handle packet ok).poller = .deciding result ∧
      (packet.packetType = .disconnect → result = .packet packet) ∧
      (packet.packetType ≠ .disconnect → shouldReconnect cfg result = false) := by
  unfold Client.handle
  cases hp : packet.packetType <;> cases ok <;>
    exact ⟨_, rfl, by simp, by simp [shouldReconnect, hp]⟩

/-- Only an install ends the absence, and an item is worth one. -/
theorem Away.step (hs : Away cfg s) (h : Transition cfg s label s') :
    installs s.history < installs s'.history ∨
      Away cfg s' ∧ (if s.iterates label then 1 else 0) + s'.poller.items ≤ s.poller.items := by
  have he := hs.engineConnected
  have hp := hs.poller
  cases h with
  | startPoll hr => simp [hr, Poller.staysAway] at hp
  | findsOpen header hr hopen => simp [he] at hopen
  | findsClosed header hr hclosed => simp [hr, Poller.staysAway] at hp
  | failPoll label header hl hr =>
      rcases hr with hr | hr
      · simp [hr, Poller.staysAway] at hp
      · rw [hr] at hp
        refine .inr ⟨⟨he, hp⟩, ?_⟩
        have hlabel : s.iterates label = false := by
          rcases hl with rfl | ⟨ok, rfl, -⟩ <;> rfl
        simp [hlabel, Client.failPoll, hr, Poller.items]
  | pollAgain header hr => simp [hr, Poller.staysAway] at hp
  | receive header packetId decoded hr => simp [hr, Poller.staysAway] at hp
  | answerPing ok header hr hok => simp [he] at hok
  | handle packet ok hr =>
      rw [hr] at hp
      obtain ⟨hs, hc⟩ := Bool.and_eq_true_iff.mp hp
      have hd : packet.packetType = .disconnect := by
        simp only [shouldReconnect, Bool.and_eq_true, decide_eq_true_eq] at hs
        exact hs.1
      obtain ⟨result, hresult, hdisconnect, -⟩ := @handle_poller cfg s packet ok
      obtain rfl := hdisconnect hd
      obtain ⟨-, -, -, hengine⟩ := handle_keeps s packet ok
      refine .inr ⟨⟨by rw [hengine, he], ?_⟩, ?_⟩
      · rw [hresult]
        exact hp
      · rw [hresult, hr]
        exact Nat.le_refl _
  | decide result hr =>
      rw [hr] at hp
      obtain ⟨hs, hc⟩ := Bool.and_eq_true_iff.mp hp
      refine .inr ⟨⟨he, ?_⟩, ?_⟩
      · dsimp only
        rw [if_pos hs]
        exact hc
      · simp [Client.iterates, hr, hs, Poller.items]
  | disconnecting place next t hr hstep =>
      rw [hr] at hp
      obtain ⟨-, -, -, -, hengine⟩ := Client.disconnectStep_keeps hstep
      exact .inr ⟨⟨hengine he, hp⟩, by simp [Client.iterates, hr, Poller.items]⟩
  | disconnected hr =>
      rw [hr] at hp
      obtain ⟨hreconnect, hc⟩ := Bool.and_eq_true_iff.mp hp
      refine .inr ⟨⟨he, ?_⟩, ?_⟩
      · dsimp only
        rw [if_pos hreconnect]
        exact hc
      · simp [Client.iterates, hr, hreconnect, Poller.items]
  | nextAttempt attempts hr =>
      rw [hr] at hp
      obtain ⟨haway, hitems⟩ := @staysAway_nextAttempt cfg attempts hp
      refine .inr ⟨⟨he, haway⟩, ?_⟩
      simp [Client.iterates, hr, hitems]
  | wakeUp attempts hr =>
      rw [hr] at hp
      exact .inr ⟨⟨he, hp⟩, by simp [Client.iterates, hr, Poller.items]⟩
  | connected attempts hr => exact .inr ⟨⟨he, rfl⟩, by simp [Client.iterates, Poller.items]⟩
  | connectFailed attempts hr =>
      rw [hr] at hp
      exact .inr ⟨⟨he, hp⟩, by simp [Client.iterates, Poller.items]⟩
  | install hr hu => exact .inl (by simp [installs])
  | callDisconnect hu => exact .inr ⟨⟨he, hp⟩, by simp [Client.iterates]⟩
  | userDisconnecting place next t hu hstep =>
      obtain ⟨-, hpoller, -, -, hengine⟩ := Client.disconnectStep_keeps hstep
      refine .inr ⟨⟨hengine he, ?_⟩, ?_⟩
      · show t.poller.staysAway cfg = true
        rw [hpoller]
        exact hp
      · show (if s.iterates .user then 1 else 0) + t.poller.items ≤ s.poller.items
        rw [hpoller]
        simp [Client.iterates]
  | userReturns hu => exact .inr ⟨⟨he, hp⟩, by simp [Client.iterates]⟩

theorem installs_step (h : Transition cfg s label s') :
    installs s.history ≤ installs s'.history := by
  cases h with
  | receive header packetId decoded hr =>
      obtain ⟨-, -, hhistory, -⟩ := receive_keeps cfg s header packetId decoded
      rw [hhistory]
  | handle packet ok hr =>
      obtain ⟨-, -, hinstalls, -⟩ := handle_keeps s packet ok
      rw [hinstalls]
  | disconnecting place next t hr hstep =>
      obtain ⟨-, -, -, hhistory, -⟩ := Client.disconnectStep_keeps hstep
      exact Nat.le_of_eq (congrArg installs hhistory.symm)
  | userDisconnecting place next t hu hstep =>
      obtain ⟨-, -, -, hhistory, -⟩ := Client.disconnectStep_keeps hstep
      exact Nat.le_of_eq (congrArg installs hhistory.symm)
  | _ => simp [installs, Client.failPoll]

theorem Away.loopEnds (hs : Away cfg s) : LoopEnds cfg s := by
  refine ⟨s.poller.items, fun labels s' h hinstalls => ?_⟩
  -- no step of the run installs
  have halong : Lts.Along (Sync.step cfg)
      (fun t label => ∀ u, Sync.step cfg t label = some u →
        installs u.history = installs t.history) s labels := by
    refine Lts.along_of_eq (f := fun t => installs t.history)
      (fun t label u hu => installs_step (step_cases hu)) ?_ h hinstalls
    intro t label u hu heq v hv
    rw [hu] at hv
    obtain rfl := Option.some.inj hv
    exact heq
  refine Lts.taken_le (P := Away cfg) (r := fun t => t.poller.items) ?_ hs halong h
  intro t label u ht hkeeps hu
  rcases ht.step (step_cases hu) with hmore | haway
  · rw [hkeeps u hu] at hmore
    exact absurd hmore (Nat.lt_irrefl _)
  · exact haway

end StaysAway

/-! ## A thread that comes back -/

section ComesBack

variable {cfg : Config} {s t : Client} {label : Label}

/-- Some continuation without a new client brings the thread back to `Iter::next`, with the flag
cleared. -/
def ComesBack (cfg : Config) (s : Client) : Prop :=
  ∃ labels s', Lts.run (step cfg) s labels = some s' ∧
    installs s'.history = installs s.history ∧ s'.poller = .next ∧ s'.engineConnected = false

/-- From `Iter::next` over the flag to the body of the loop and back. -/
def turn : List Label := [.proceed, .proceed, .proceed]

theorem run_turn (hr : s.poller = .next) (he : s.engineConnected = false) :
    Lts.run (step cfg) s turn = some s ∧
      Lts.taken (step cfg) Client.iterates s turn = 1 := by
  have hnext : step cfg s .proceed = some { s with poller := .polling none } := by
    simp [step, Client.proceed, hr]
  have hclosed : step cfg { s with poller := .polling none } .proceed =
      some { s with poller := .deciding .error } := by
    simp [step, Client.proceed, he]
  have hdecide : step cfg { s with poller := .deciding .error } .proceed = some s := by
    simp [step, Client.proceed, shouldReconnect, ← hr]
  constructor
  · rw [turn, Lts.run_cons, hnext, Option.bind_some, Lts.run_cons, hclosed, Option.bind_some,
      Lts.run_cons, hdecide]
    rfl
  · rw [turn, Lts.taken_cons hnext, Lts.taken_cons hclosed, Lts.taken_cons hdecide]
    simp [Client.iterates, hr, Lts.taken]

/-- There is no bound on the turns. -/
theorem ComesBack.not_loopEnds (h : ComesBack cfg s) : ¬ LoopEnds cfg s := by
  rintro ⟨bound, hbound⟩
  obtain ⟨labels, s', hrun, hinstalls, hr, he⟩ := h
  obtain ⟨hturn, hone⟩ := @run_turn cfg s' hr he
  obtain ⟨hturns, hcount⟩ :=
    @Lts.taken_cycle _ _ _ Client.iterates _ _ hturn (bound + 1)
  have hmany := hbound (labels ++ (List.replicate (bound + 1) turn).flatten) s'
    (by rw [Lts.run_append, hrun]; exact hturns) hinstalls
  rw [Lts.taken_append hrun, hcount, hone] at hmany
  omega

/-- A step that installs nothing. -/
theorem ComesBack.of_step (h : step cfg s label = some t)
    (hinstalls : installs t.history = installs s.history) (ht : ComesBack cfg t) :
    ComesBack cfg s := by
  obtain ⟨labels, s', hrun, hsame, hend⟩ := ht
  refine ⟨label :: labels, s', ?_, hsame.trans hinstalls, hend⟩
  rw [Lts.run_cons, h]
  exact hrun

theorem comesBack_next (hr : s.poller = .next) (he : s.engineConnected = false) :
    ComesBack cfg s := ⟨[], s, rfl, rfl, hr, he⟩

theorem comesBack_deciding {result : PollResult} (hr : s.poller = .deciding result)
    (hno : shouldReconnect cfg result = false) (he : s.engineConnected = false) :
    ComesBack cfg s := by
  have hstep : step cfg s .proceed = some { s with poller := .next } := by
    simp [step, Client.proceed, hr, hno]
  exact .of_step hstep rfl (comesBack_next rfl he)

theorem comesBack_polling {header : Header} (hr : s.poller = .polling header)
    (he : s.engineConnected = false) : ComesBack cfg s := by
  have hstep : step cfg s .proceed = some { s with poller := .deciding .error } := by
    simp [step, Client.proceed, hr, he]
  exact .of_step hstep rfl (comesBack_deciding rfl rfl he)

/-- The allowed attempts are used up. -/
theorem comesBack_attempt {max : UInt8} (hmax : cfg.maxReconnectAttempts = some max)
    (hne : max ≠ 255) {left : Nat} {attempts : UInt8} (hleft : attempts.toNat + left = max.toNat)
    (hr : s.poller = .attempt attempts) (he : s.engineConnected = false) : ComesBack cfg s := by
  induction left generalizing s attempts with
  | zero =>
      obtain rfl : attempts = max := UInt8.toNat_inj.mp (by omega)
      have hstep := @step_attempt cfg s attempts hr
      rw [nextAttempt_max hmax hne] at hstep
      exact .of_step hstep rfl (comesBack_next rfl he)
  | succ left ih =>
      have hcounter : counter cfg attempts.toNat = attempts := by simp [counter, hmax]
      have hallowed : ∀ m ∈ cfg.maxReconnectAttempts, attempts.toNat < m.toNat := by
        intro m hm
        rw [hmax] at hm
        obtain rfl := Option.some.inj hm
        omega
      obtain ⟨hnext, -⟩ := nextAttempt_counter hallowed
      rw [hcounter] at hnext
      have hsucc : (counter cfg (attempts.toNat + 1)).toNat = attempts.toNat + 1 := by
        have hbound := max.toNat_lt
        simp only [counter, hmax, Option.isSome_some, if_true]
        exact UInt8.toNat_ofNat_of_lt' (show attempts.toNat + 1 < 256 by omega)
      have hattempt := @step_attempt cfg s attempts hr
      rw [hnext] at hattempt
      -- the backoff, and a connect that fails
      refine .of_step hattempt rfl ?_
      have hsleep : step cfg { s with poller := .sleeping (counter cfg (attempts.toNat + 1)) }
          .proceed = some { s with
            poller := .connecting (counter cfg (attempts.toNat + 1))
            history := .calledDoReconnect :: s.history } := by
        simp [step, Client.proceed]
      refine .of_step hsleep (by simp [installs]) ?_
      have hfail : step cfg { s with
            poller := .connecting (counter cfg (attempts.toNat + 1))
            history := .calledDoReconnect :: s.history } (.connectRaw false) = some { s with
            poller := .attempt (counter cfg (attempts.toNat + 1))
            history := .calledDoReconnect :: s.history } := by
        simp [step]
      exact .of_step hfail rfl (ih (by omega) rfl he)

/-- The loop of `reconnect` counts up to a maximum that it can exceed. -/
theorem exists_max (hc : endless cfg = false) :
    ∃ max, cfg.maxReconnectAttempts = some max ∧ max ≠ 255 := by
  cases hmax : cfg.maxReconnectAttempts with
  | none => simp [endless, hmax] at hc
  | some max =>
      refine ⟨max, rfl, ?_⟩
      rintro rfl
      simp [endless, hmax] at hc

theorem comesBack_reconnect (hc : (cfg.reconnect && endless cfg) = false)
    (hr : s.poller = .disconnecting .notifying) (he : s.engineConnected = false) :
    ComesBack cfg s := by
  have hstep : step cfg s .proceed = some { s with
      poller := if cfg.reconnect then .attempt 0 else .next
      history := .closed .ioClientDisconnect s.epoch :: s.history } := by
    simp only [step, Client.proceed, hr, Client.disconnectStep]
  refine .of_step hstep (by simp [installs]) ?_
  cases hreconnect : cfg.reconnect with
  | false => exact comesBack_next (by simp) he
  | true =>
      rw [hreconnect, Bool.true_and] at hc
      obtain ⟨max, hmax, hne⟩ := exists_max hc
      exact comesBack_attempt hmax hne (show (0 : UInt8).toNat + max.toNat = max.toNat by simp)
        (by simp) he

theorem comesBack_disconnecting {place : Disconnecting}
    (hc : (cfg.reconnect && endless cfg) = false) (hr : s.poller = .disconnecting place)
    (he : s.engineConnected = false) : ComesBack cfg s := by
  -- from the last step of the disconnect backwards
  have hclearing : ∀ t : Client, t.poller = .disconnecting .clearing →
      t.engineConnected = false → ComesBack cfg t := by
    intro t ht hclosed
    have hstep : step cfg t .proceed = some { t with
        connected := false, poller := .disconnecting .notifying } := by
      simp [step, Client.proceed, ht, Client.disconnectStep]
    exact .of_step hstep rfl (comesBack_reconnect hc rfl hclosed)
  have hclosing : ∀ t : Client, t.poller = .disconnecting .closing → ComesBack cfg t := by
    intro t ht
    have hstep : step cfg t .proceed = some { t with
        engineConnected := false, poller := .disconnecting .clearing } := by
      simp [step, Client.proceed, ht, Client.disconnectStep]
    exact .of_step hstep rfl (hclearing _ rfl rfl)
  cases place with
  | notifying => exact comesBack_reconnect hc hr he
  | clearing => exact hclearing s hr he
  | closing => exact hclosing s hr
  | sending =>
      have hstep : step cfg s .proceed = some { s with poller := .disconnecting .closing } := by
        simp [step, Client.proceed, hr, Client.disconnectStep]
      exact .of_step hstep rfl (hclosing _ rfl)

theorem comesBack_result {result : PollResult}
    (hc : (shouldReconnect cfg result && (cfg.reconnect && endless cfg)) = false)
    (hr : s.poller = .deciding result) (he : s.engineConnected = false) : ComesBack cfg s := by
  cases hs : shouldReconnect cfg result with
  | false => exact comesBack_deciding hr hs he
  | true =>
      rw [hs, Bool.true_and] at hc
      have hstep : step cfg s .proceed = some { s with poller := .disconnecting .sending } := by
        simp [step, Client.proceed, hr, hs]
      exact .of_step hstep rfl (comesBack_disconnecting hc rfl he)

/-- The counter of the loop of `reconnect` does not exceed the maximum. -/
def Poller.Counts (cfg : Config) : Poller → Prop
  | .attempt attempts => ∀ max ∈ cfg.maxReconnectAttempts, attempts.toNat ≤ max.toNat
  | .sleeping attempts => ∀ max ∈ cfg.maxReconnectAttempts, attempts.toNat ≤ max.toNat
  | .connecting attempts => ∀ max ∈ cfg.maxReconnectAttempts, attempts.toNat ≤ max.toNat
  | _ => True

theorem comesBack_of_not_staysAway (hs : s.poller.Counts cfg) (he : s.engineConnected = false)
    (h : s.poller.staysAway cfg = false) : ComesBack cfg s := by
  -- a call of `connect_raw` that fails leads to the next attempt
  have hattempt : ∀ (u : Client) (attempts : UInt8), u.poller = .attempt attempts →
      u.engineConnected = false → endless cfg = false →
      (∀ max ∈ cfg.maxReconnectAttempts, attempts.toNat ≤ max.toNat) → ComesBack cfg u := by
    intro u attempts hu hclosed hc hcounts
    obtain ⟨max, hmax, hne⟩ := exists_max hc
    have hle := hcounts max hmax
    exact comesBack_attempt hmax hne (Nat.add_sub_cancel' hle) hu hclosed
  have hconnecting : ∀ (u : Client) (attempts : UInt8), u.poller = .connecting attempts →
      u.engineConnected = false → endless cfg = false →
      (∀ max ∈ cfg.maxReconnectAttempts, attempts.toNat ≤ max.toNat) → ComesBack cfg u := by
    intro u attempts hu hclosed hc hcounts
    have hstep : step cfg u (.connectRaw false) = some { u with poller := .attempt attempts } := by
      simp [step, hu]
    exact .of_step hstep rfl (hattempt _ attempts rfl hclosed hc hcounts)
  cases hr : s.poller with
  | next => exact comesBack_next hr he
  | polling header => exact comesBack_polling hr he
  | polled header =>
      have hstep : step cfg s .emptyPayload = some { s with poller := .polling header } := by
        simp [step, hr]
      exact .of_step hstep rfl (comesBack_polling rfl he)
  | pinged header =>
      rw [hr] at h
      have hstep : step cfg s (.pong false) = some s.failPoll := by simp [step, hr]
      exact .of_step hstep (by simp [Client.failPoll, installs])
        (@comesBack_result cfg s.failPoll .engineError h rfl he)
  | handling packet =>
      rw [hr] at h
      have hstep : step cfg s (.handled true) = some (s.handle packet true) := by simp [step, hr]
      obtain ⟨-, -, hinstalls, hengine⟩ := handle_keeps s packet true
      obtain ⟨result, hresult, hdisconnect, hother⟩ := @handle_poller cfg s packet true
      refine .of_step hstep hinstalls (comesBack_result ?_ hresult (by rw [hengine, he]))
      by_cases hd : packet.packetType = .disconnect
      · rw [hdisconnect hd]
        exact h
      · rw [hother hd, Bool.false_and]
  | deciding result =>
      rw [hr] at h
      exact comesBack_result h hr he
  | disconnecting place =>
      rw [hr] at h
      exact comesBack_disconnecting h hr he
  | attempt attempts =>
      rw [hr] at h hs
      exact hattempt s attempts hr he h hs
  | sleeping attempts =>
      rw [hr] at h hs
      have hstep : step cfg s .proceed = some { s with
          poller := .connecting attempts, history := .calledDoReconnect :: s.history } := by
        simp [step, Client.proceed, hr]
      exact .of_step hstep (by simp [installs]) (hconnecting _ attempts rfl he h hs)
  | connecting attempts =>
      rw [hr] at h hs
      exact hconnecting s attempts hr he h hs
  | installing => simp [hr, Poller.staysAway] at h
  | panicked => simp [hr, Poller.staysAway] at h

end ComesBack

/-! ## When the loop ends -/

section Ends

variable {cfg : Config} {s s' : Client} {label : Label}

theorem counts_nextAttempt (cfg : Config) (attempts : UInt8) :
    (nextAttempt cfg attempts).Counts cfg := by
  unfold nextAttempt
  cases hmax : cfg.maxReconnectAttempts with
  | none =>
      intro max hm
      simp [hmax] at hm
  | some max =>
      dsimp only
      split
      · trivial
      · split
        · trivial
        · rename_i hle
          intro m hm
          rw [hmax] at hm
          obtain rfl := Option.some.inj hm
          rw [UInt8.lt_iff_toNat_lt] at hle
          omega

theorem counts_receive (cfg : Config) (s : Client) (header : Header)
    (packetId : Engineio.PacketId) (decoded : Option Packet) :
    (s.receive cfg header packetId decoded).poller.Counts cfg := by
  have hskip : ∀ header : Header, (skipPacket header).Counts cfg := by
    intro header
    cases header <;> trivial
  have hdeliver : ∀ packet, (s.deliver cfg packet).poller.Counts cfg := by
    intro packet
    unfold Client.deliver
    dsimp only
    split <;> trivial
  have hmessage : (s.receiveMessage cfg header decoded).poller.Counts cfg := by
    unfold Client.receiveMessage
    split
    · split
      · exact hdeliver _
      · trivial
    · split
      · trivial
      · split
        · trivial
        · exact hdeliver _
  cases packetId with
  | message => exact hmessage
  | messageBinary => exact hmessage
  | close => exact hskip header
  | upgrade => exact hskip header
  | noop => exact hskip header
  | _ => trivial

theorem counts_step (hs : s.poller.Counts cfg) (h : Transition cfg s label s') :
    s'.poller.Counts cfg := by
  cases h with
  | receive header packetId decoded hr => exact counts_receive cfg s header packetId decoded
  | answerPing ok header hr hok => cases header <;> trivial
  | handle packet ok hr =>
      obtain ⟨result, hresult, -, -⟩ := @handle_poller cfg s packet ok
      rw [hresult]
      trivial
  | decide result hr =>
      dsimp only
      split <;> trivial
  | disconnected hr =>
      dsimp only
      split
      · intro max _
        exact Nat.zero_le _
      · trivial
  | nextAttempt attempts hr => exact counts_nextAttempt cfg attempts
  | wakeUp attempts hr =>
      rw [hr] at hs
      exact hs
  | connectFailed attempts hr =>
      rw [hr] at hs
      exact hs
  | callDisconnect hu => exact hs
  | userDisconnecting place next t hu hstep =>
      obtain ⟨-, hpoller, -⟩ := Client.disconnectStep_keeps hstep
      show t.poller.Counts cfg
      rw [hpoller]
      exact hs
  | userReturns hu => exact hs
  | _ => trivial

/-- **When the loop ends.**  With the engine.io socket closed and no new client, the iterations are
bounded exactly if the poll thread does not come back to `Iter::next`. -/
theorem loopEnds_iff {labels : List Label} (hs : Lts.run (step cfg) .init labels = some s)
    (he : s.engineConnected = false) : LoopEnds cfg s ↔ s.poller.staysAway cfg = true := by
  constructor
  · intro hends
    have hcounts : s.poller.Counts cfg :=
      Lts.invariant (P := fun u => u.poller.Counts cfg)
        (fun _ _ _ hu hstep => counts_step hu (step_cases hstep)) trivial hs
    by_contra hno
    exact (comesBack_of_not_staysAway hcounts he (by simpa using hno)).not_loopEnds hends
  · intro haway
    exact Away.loopEnds ⟨he, haway⟩

end Ends

/-- The user disconnects while the poll thread is in the transport, and it is an Open packet that
ends the wait. -/
theorem loopEnds_open :
    ∃ s, Lts.run (step .new) .init
        ([.proceed, .proceed] ++ userCall ++ [.user, .receive .open none]) = some s ∧
      s.engineConnected = false ∧ LoopEnds .new s := by
  refine ⟨_, rfl, rfl, ?_⟩
  exact (@loopEnds_iff .new _ ([.proceed, .proceed] ++ userCall ++ [.user, .receive .open none])
    rfl rfl).mpr rfl

/-- The user disconnects before the poll thread looks at the flag: it turns for ever. -/
theorem not_loopEnds :
    ¬ ∀ (cfg : Config) (labels : List Label) (s : Client),
      Lts.run (step cfg) .init labels = some s → s.engineConnected = false → LoopEnds cfg s := by
  intro h
  have hends := h .new (userCall ++ [.user]) _ rfl rfl
  exact (comesBack_next rfl rfl : ComesBack .new _).not_loopEnds hends

end TfSocketio.Socketio.Sync
