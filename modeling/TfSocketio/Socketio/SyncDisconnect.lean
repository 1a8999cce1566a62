/-
# Socketio.SyncDisconnect — when a disconnect of the synchronous client is final.

The user's `disconnect` clears the flags of the installed `RawClient` and tells nobody.  A poll
thread that looks at the flag afterwards stops by itself; one that has looked before, or that is
reconnecting, goes on.  `final_iff` says for which places of the poll thread a disconnect that has
returned is final.
-/
import TfSocketio.Socketio.PollThread

namespace TfSocketio.Socketio.Sync

/-- How many clients were installed. -/
def installs (history : List Occurrence) : Nat := history.count .installed

/-- **No later step installs a client or begins a session.** -/
def Final (cfg : Config) (s : Client) : Prop :=
  ∀ labels s', Lts.run (step cfg) s labels = some s' →
    s'.epoch = s.epoch ∧ installs s'.history = installs s.history

/-! ## Where the poll thread may still reconnect -/

/-- The loop of `reconnect` makes another attempt. -/
def attemptsLeft (cfg : Config) (attempts : UInt8) : Bool :=
  match cfg.maxReconnectAttempts with
  | none => true
  | some max => !(attempts = 255 && cfg.overflowChecks) && !decide (max < attempts + 1)

/-- The settings allow `reconnect` at least one attempt. -/
def reconnects (cfg : Config) : Bool := cfg.reconnect && attemptsLeft cfg 0

/-- From this place the poll thread may reach `connect_raw` or the write guard, though the flag of
the engine.io socket is cleared. -/
def Poller.mayReconnect (cfg : Config) : Poller → Bool
  | .next => false
  | .polling _ => false
  | .polled _ => reconnects cfg
  | .pinged _ => reconnects cfg
  | .handling packet => shouldReconnect cfg (.packet packet) && reconnects cfg
  | .deciding result => shouldReconnect cfg result && reconnects cfg
  | .disconnecting _ => reconnects cfg
  | .attempt attempts => attemptsLeft cfg attempts
  | .sleeping _ => true
  | .connecting _ => true
  | .installing => true
  | .panicked => false

theorem nextAttempt_of_attemptsLeft {cfg : Config} {attempts : UInt8}
    (h : attemptsLeft cfg attempts = true) : ∃ next, nextAttempt cfg attempts = .sleeping next := by
  unfold attemptsLeft at h
  unfold nextAttempt
  cases hm : cfg.maxReconnectAttempts with
  | none => exact ⟨attempts, rfl⟩
  | some max =>
      simp only [hm, Bool.and_eq_true, Bool.not_eq_true', decide_eq_false_iff_not,
        Bool.and_eq_false_iff] at h
      obtain ⟨hlimit, hmax⟩ := h
      have hno : ¬ (attempts = 255 ∧ cfg.overflowChecks = true) := by
        rintro ⟨h255, hchecks⟩
        rcases hlimit with hlimit | hlimit
        · exact hlimit h255
        · simp [hchecks] at hlimit
      exact ⟨attempts + 1, by simp only [if_neg hno, if_neg hmax]⟩

theorem mayReconnect_nextAttempt {cfg : Config} {attempts : UInt8}
    (h : attemptsLeft cfg attempts = false) :
    (nextAttempt cfg attempts).mayReconnect cfg = false := by
  unfold attemptsLeft at h
  unfold nextAttempt
  cases hm : cfg.maxReconnectAttempts with
  | none => simp [hm] at h
  | some max =>
      simp only [hm] at h ⊢
      split
      · rfl
      · split
        · rfl
        · simp_all

/-! ## A client that is left alone -/

/-- The engine.io flag is cleared and the poll thread is past no look at it. -/
structure Dead (cfg : Config) (s : Client) : Prop where
  engineConnected : s.engineConnected = false
  poller : s.poller.mayReconnect cfg = false

theorem Client.disconnectStep_keeps {s s' : Client} {place next : Disconnecting}
    (h : s.disconnectStep place = (s', some next)) :
    s'.epoch = s.epoch ∧ s'.poller = s.poller ∧ s'.user = s.user ∧ s'.history = s.history ∧
      (s.engineConnected = false → s'.engineConnected = false) := by
  cases place with
  | sending =>
      obtain ⟨rfl, -⟩ := Prod.mk.inj h
      exact ⟨rfl, rfl, rfl, rfl, id⟩
  | closing =>
      obtain ⟨rfl, -⟩ := Prod.mk.inj h
      exact ⟨rfl, rfl, rfl, rfl, fun _ => rfl⟩
  | clearing =>
      obtain ⟨rfl, -⟩ := Prod.mk.inj h
      exact ⟨rfl, rfl, rfl, rfl, id⟩
  | notifying => simp [Client.disconnectStep] at h

theorem mayReconnect_skipPacket (cfg : Config) (header : Header) :
    (skipPacket header).mayReconnect cfg = false := by
  cases header <;> rfl

/-- Without a reconnect in the settings, nothing that is received leads to one. -/
theorem mayReconnect_deliver {cfg : Config} (hc : reconnects cfg = false) (s : Client)
    (packet : Packet) : (s.deliver cfg packet).poller.mayReconnect cfg = false := by
  unfold Client.deliver
  dsimp only
  split
  · simp [Poller.mayReconnect, hc]
  · rfl

theorem mayReconnect_receive {cfg : Config} (hc : reconnects cfg = false) (s : Client)
    (header : Header) (packetId : Engineio.PacketId) (decoded : Option Packet) :
    (s.receive cfg header packetId decoded).poller.mayReconnect cfg = false := by
  have hmessage : (s.receiveMessage cfg header decoded).poller.mayReconnect cfg = false := by
    unfold Client.receiveMessage
    split
    · split
      · exact mayReconnect_deliver hc s _
      · rfl
    · split
      · rfl
      · split
        · rfl
        · exact mayReconnect_deliver hc s _
  cases packetId with
  | message => exact hmessage
  | messageBinary => exact hmessage
  | close => exact mayReconnect_skipPacket cfg header
  | ping => exact hc
  | upgrade => exact mayReconnect_skipPacket cfg header
  | noop => exact mayReconnect_skipPacket cfg header
  | «open» => rfl
  | pong => rfl

/-- What receiving leaves alone. -/
theorem receive_keeps (cfg : Config) (s : Client) (header : Header)
    (packetId : Engineio.PacketId) (decoded : Option Packet) :
    let s' := s.receive cfg header packetId decoded
    s'.epoch = s.epoch ∧ s'.user = s.user ∧ s'.history = s.history ∧
      (s.engineConnected = false → s'.engineConnected = false) := by
  have hmessage : let s' := s.receiveMessage cfg header decoded
      s'.epoch = s.epoch ∧ s'.user = s.user ∧ s'.history = s.history ∧
        (s.engineConnected = false → s'.engineConnected = false) := by
    unfold Client.receiveMessage
    split
    · split <;> exact ⟨rfl, rfl, rfl, id⟩
    · split
      · exact ⟨rfl, rfl, rfl, id⟩
      · split <;> exact ⟨rfl, rfl, rfl, id⟩
  cases packetId with
  | message => exact hmessage
  | messageBinary => exact hmessage
  | close => exact ⟨rfl, rfl, rfl, fun _ => rfl⟩
  | _ => exact ⟨rfl, rfl, rfl, id⟩

theorem handle_keeps (s : Client) (packet : Packet) (ok : Bool) :
    let s' := s.handle packet ok
    s'.epoch = s.epoch ∧ s'.user = s.user ∧ installs s'.history = installs s.history ∧
      s'.engineConnected = s.engineConnected := by
  unfold Client.handle
  cases packet.packetType <;> exact ⟨rfl, rfl, by simp [installs], rfl⟩

theorem mayReconnect_handle {cfg : Config} {s : Client} {packet : Packet} {ok : Bool}
    (h : (Poller.handling packet).mayReconnect cfg = false) :
    (s.handle packet ok).poller.mayReconnect cfg = false := by
  unfold Client.handle
  cases hp : packet.packetType <;> cases ok <;>
    simp_all [Poller.mayReconnect, shouldReconnect]

/-- A step leaves a dead client dead, and neither installs nor begins anything. -/
theorem Dead.step {cfg : Config} {s s' : Client} {label : Label} (hs : Dead cfg s)
    (h : Transition cfg s label s') :
    Dead cfg s' ∧ s'.epoch = s.epoch ∧ installs s'.history = installs s.history := by
  have he := hs.engineConnected
  have hp := hs.poller
  cases h with
  | startPoll hr => exact ⟨⟨he, rfl⟩, rfl, rfl⟩
  | findsOpen header hr hopen => simp [he] at hopen
  | findsClosed header hr hclosed => exact ⟨⟨he, rfl⟩, rfl, rfl⟩
  | failPoll label header hl hr =>
      -- the engine.io error asks for a reconnect, which the settings refuse
      have hc : reconnects cfg = false := by
        rcases hr with hr | hr <;> rw [hr] at hp <;> exact hp
      refine ⟨⟨he, ?_⟩, rfl, by simp [Client.failPoll, installs]⟩
      simp [Client.failPoll, Poller.mayReconnect, hc]
  | pollAgain header hr => exact ⟨⟨he, rfl⟩, rfl, rfl⟩
  | receive header packetId decoded hr =>
      rw [hr] at hp
      obtain ⟨hepoch, -, hhistory, hengine⟩ := receive_keeps cfg s header packetId decoded
      exact ⟨⟨hengine he, mayReconnect_receive hp s header packetId decoded⟩, hepoch,
        by rw [hhistory]⟩
  | answerPing ok header hr hok => exact ⟨⟨he, mayReconnect_skipPacket cfg header⟩, rfl, rfl⟩
  | handle packet ok hr =>
      rw [hr] at hp
      obtain ⟨hepoch, -, hinstalls, hengine⟩ := handle_keeps s packet ok
      exact ⟨⟨by rw [hengine, he], mayReconnect_handle hp⟩, hepoch, hinstalls⟩
  | decide result hr =>
      rw [hr] at hp
      refine ⟨⟨he, ?_⟩, rfl, rfl⟩
      show (if shouldReconnect cfg result then Poller.disconnecting .sending
        else .next).mayReconnect cfg = false
      split
      · rename_i hreconnect
        simpa [Poller.mayReconnect, hreconnect] using hp
      · rfl
  | disconnecting place next t hr hstep =>
      rw [hr] at hp
      obtain ⟨hepoch, -, -, hhistory, hengine⟩ := Client.disconnectStep_keeps hstep
      exact ⟨⟨hengine he, hp⟩, hepoch, by rw [hhistory]⟩
  | disconnected hr =>
      rw [hr] at hp
      refine ⟨⟨he, ?_⟩, rfl, by simp [installs]⟩
      show (if cfg.reconnect then Poller.attempt 0 else .next).mayReconnect cfg = false
      split
      · rename_i hreconnect
        simpa [Poller.mayReconnect, reconnects, hreconnect] using hp
      · rfl
  | nextAttempt attempts hr =>
      rw [hr] at hp
      exact ⟨⟨he, mayReconnect_nextAttempt hp⟩, rfl, rfl⟩
  | wakeUp attempts hr => simp [hr, Poller.mayReconnect] at hp
  | connected attempts hr => simp [hr, Poller.mayReconnect] at hp
  | connectFailed attempts hr => simp [hr, Poller.mayReconnect] at hp
  | install hr hu => simp [hr, Poller.mayReconnect] at hp
  | callDisconnect hu => exact ⟨⟨he, hp⟩, rfl, by simp [installs]⟩
  | userDisconnecting place next t hu hstep =>
      obtain ⟨hepoch, hpoller, -, hhistory, hengine⟩ := Client.disconnectStep_keeps hstep
      exact ⟨⟨hengine he, by rw [← hp]; exact congrArg (Poller.mayReconnect cfg) hpoller⟩, hepoch,
        by rw [hhistory]⟩
  | userReturns hu => exact ⟨⟨he, hp⟩, rfl, by simp [installs]⟩

theorem Dead.final {cfg : Config} {s : Client} (hs : Dead cfg s) : Final cfg s := by
  intro labels s' h
  have hall : Dead cfg s' ∧ s'.epoch = s.epoch ∧ installs s'.history = installs s.history := by
    refine Lts.invariant (P := fun t => Dead cfg t ∧ t.epoch = s.epoch ∧
      installs t.history = installs s.history) ?_ ⟨hs, rfl, rfl⟩ h
    rintro t label u ⟨ht, hepoch, hinstalls⟩ hstep
    obtain ⟨hu, hepoch', hinstalls'⟩ := ht.step (step_cases hstep)
    exact ⟨hu, hepoch'.trans hepoch, hinstalls'.trans hinstalls⟩
  exact hall.2

/-! ## A client that is not -/

/-- Some continuation begins a session, or installs a client. -/
def Revives (cfg : Config) (s : Client) : Prop :=
  ∃ labels s', Lts.run (step cfg) s labels = some s' ∧
    (s.epoch < s'.epoch ∨ installs s.history < installs s'.history)

theorem Revives.not_final {cfg : Config} {s : Client} (h : Revives cfg s) : ¬ Final cfg s := by
  intro hfinal
  obtain ⟨labels, s', hrun, hmore⟩ := h
  obtain ⟨hepoch, hinstalls⟩ := hfinal labels s' hrun
  omega

/-- A step that begins and installs nothing. -/
theorem Revives.of_step {cfg : Config} {s t : Client} {label : Label}
    (h : step cfg s label = some t) (hepoch : t.epoch = s.epoch)
    (hinstalls : installs t.history = installs s.history) (ht : Revives cfg t) :
    Revives cfg s := by
  obtain ⟨labels, s', hrun, hmore⟩ := ht
  refine ⟨label :: labels, s', ?_, ?_⟩
  · rw [Lts.run_cons, h]
    exact hrun
  · rw [← hepoch, ← hinstalls]
    exact hmore

theorem revives_connecting {cfg : Config} {s : Client} {attempts : UInt8}
    (hr : s.poller = .connecting attempts) : Revives cfg s := by
  refine ⟨[.connectRaw true], { s with
    epoch := s.epoch + 1
    poller := .installing
    history := .connected (s.epoch + 1) :: s.history }, ?_, .inl (Nat.lt_succ_self _)⟩
  rw [Lts.run_cons]
  simp [step, hr]

theorem revives_sleeping {cfg : Config} {s : Client} {attempts : UInt8}
    (hr : s.poller = .sleeping attempts) : Revives cfg s := by
  have hstep : step cfg s .proceed = some { s with
      poller := .connecting attempts, history := .calledDoReconnect :: s.history } := by
    simp [step, Client.proceed, hr]
  exact .of_step hstep rfl (by simp [installs]) (revives_connecting rfl)

theorem revives_attempt {cfg : Config} {s : Client} {attempts : UInt8}
    (hr : s.poller = .attempt attempts) (hleft : attemptsLeft cfg attempts = true) :
    Revives cfg s := by
  obtain ⟨next, hnext⟩ := nextAttempt_of_attemptsLeft hleft
  have hstep : step cfg s .proceed = some { s with poller := .sleeping next } := by
    simp [step, Client.proceed, hr, hnext]
  exact .of_step hstep rfl rfl (revives_sleeping rfl)

theorem revives_disconnecting {cfg : Config} {s : Client} {place : Disconnecting}
    (hr : s.poller = .disconnecting place) (hc : reconnects cfg = true) : Revives cfg s := by
  obtain ⟨hreconnect, hleft⟩ := Bool.and_eq_true_iff.mp hc
  -- from the last step of the disconnect backwards
  have hnotifying : ∀ t : Client, t.poller = .disconnecting .notifying → Revives cfg t := by
    intro t ht
    have hstep : step cfg t .proceed = some { t with
        poller := .attempt 0
        history := .closed .ioClientDisconnect t.epoch :: t.history } := by
      simp [step, Client.proceed, ht, Client.disconnectStep, hreconnect]
    exact .of_step hstep rfl (by simp [installs]) (revives_attempt rfl hleft)
  have hclearing : ∀ t : Client, t.poller = .disconnecting .clearing → Revives cfg t := by
    intro t ht
    have hstep : step cfg t .proceed = some { t with
        connected := false, poller := .disconnecting .notifying } := by
      simp [step, Client.proceed, ht, Client.disconnectStep]
    exact .of_step hstep rfl rfl (hnotifying _ rfl)
  have hclosing : ∀ t : Client, t.poller = .disconnecting .closing → Revives cfg t := by
    intro t ht
    have hstep : step cfg t .proceed = some { t with
        engineConnected := false, poller := .disconnecting .clearing } := by
      simp [step, Client.proceed, ht, Client.disconnectStep]
    exact .of_step hstep rfl rfl (hclearing _ rfl)
  cases place with
  | notifying => exact hnotifying s hr
  | clearing => exact hclearing s hr
  | closing => exact hclosing s hr
  | sending =>
      have hstep : step cfg s .proceed = some { s with poller := .disconnecting .closing } := by
        simp [step, Client.proceed, hr, Client.disconnectStep]
      exact .of_step hstep rfl rfl (hclosing _ rfl)

theorem revives_deciding {cfg : Config} {s : Client} {result : PollResult}
    (hr : s.poller = .deciding result) (hs : shouldReconnect cfg result = true)
    (hc : reconnects cfg = true) : Revives cfg s := by
  have hstep : step cfg s .proceed = some { s with poller := .disconnecting .sending } := by
    simp [step, Client.proceed, hr, hs]
  exact .of_step hstep rfl rfl (revives_disconnecting rfl hc)

/-- A poll that is past the look at the flag may fail. -/
theorem revives_failPoll {cfg : Config} {s : Client} {label : Label}
    (h : step cfg s label = some s.failPoll) (hc : reconnects cfg = true) : Revives cfg s :=
  .of_step h rfl (by simp [Client.failPoll, installs]) (revives_deciding rfl rfl hc)

theorem revives_of_mayReconnect {cfg : Config} {s : Client}
    (h : s.poller.mayReconnect cfg = true) (hu : s.user = none) : Revives cfg s := by
  cases hr : s.poller with
  | next => simp [hr, Poller.mayReconnect] at h
  | polling header => simp [hr, Poller.mayReconnect] at h
  | panicked => simp [hr, Poller.mayReconnect] at h
  | polled header =>
      rw [hr] at h
      have hstep : step cfg s .transportError = some s.failPoll := by simp [step, hr]
      exact revives_failPoll hstep h
  | pinged header =>
      rw [hr] at h
      have hstep : step cfg s (.pong false) = some s.failPoll := by simp [step, hr]
      exact revives_failPoll hstep h
  | handling packet =>
      rw [hr] at h
      obtain ⟨hs, hc⟩ := Bool.and_eq_true_iff.mp h
      have hd : packet.packetType = .disconnect := by
        simp only [shouldReconnect, Bool.and_eq_true, decide_eq_true_eq] at hs
        exact hs.1
      have hstep : step cfg s (.handled true) = some (s.handle packet true) := by simp [step, hr]
      obtain ⟨hepoch, -, hinstalls, -⟩ := handle_keeps s packet true
      have hdecides : (s.handle packet true).poller = .deciding (.packet packet) := by
        simp [Client.handle, hd]
      exact .of_step hstep hepoch hinstalls (revives_deciding hdecides hs hc)
  | deciding result =>
      rw [hr] at h
      obtain ⟨hs, hc⟩ := Bool.and_eq_true_iff.mp h
      exact revives_deciding hr hs hc
  | disconnecting place =>
      rw [hr] at h
      exact revives_disconnecting hr h
  | attempt attempts =>
      rw [hr] at h
      exact revives_attempt hr h
  | sleeping attempts => exact revives_sleeping hr
  | connecting attempts => exact revives_connecting hr
  | installing =>
      refine ⟨[.proceed], { s with
        connected := true
        engineConnected := true
        poller := .next
        history := .installed :: s.history }, ?_, .inr (by simp [installs])⟩
      rw [Lts.run_cons]
      simp [step, Client.proceed, hr, hu]

/-! ## When a disconnect is final -/

/-- The user's call has closed the engine.io socket. -/
def Disconnecting.closed : Disconnecting → Bool
  | .sending => false
  | .closing => false
  | .clearing => true
  | .notifying => true

/-- The read guard keeps a closed client in place until the call returns. -/
def Guarded (s : Client) : Prop :=
  ∀ place, s.user = some place → place.closed = true → s.engineConnected = false

theorem guarded_step {cfg : Config} {s s' : Client} {label : Label} (hs : Guarded s)
    (h : Transition cfg s label s') : Guarded s' := by
  cases h with
  | receive header packetId decoded hr =>
      obtain ⟨-, huser, -, hengine⟩ := receive_keeps cfg s header packetId decoded
      intro place hp hclosed
      exact hengine (hs place (by rw [← huser, hp]) hclosed)
  | handle packet ok hr =>
      obtain ⟨-, huser, -, hengine⟩ := handle_keeps s packet ok
      intro place hp hclosed
      rw [hengine]
      exact hs place (by rw [← huser, hp]) hclosed
  | disconnecting place next t hr hstep =>
      obtain ⟨-, -, huser, -, hengine⟩ := Client.disconnectStep_keeps hstep
      intro p hp hclosed
      exact hengine (hs p (by rw [← huser]; exact hp) hclosed)
  | install hr hu =>
      intro place hp
      simp [hu] at hp
  | callDisconnect hu =>
      intro place hp hclosed
      obtain rfl : Disconnecting.sending = place := by simpa using hp
      simp [Disconnecting.closed] at hclosed
  | userDisconnecting place next t hu hstep =>
      intro p hp hclosed
      obtain rfl : next = p := by simpa using hp
      have hold := hs place hu
      cases place with
      | sending =>
          obtain ⟨rfl, hn⟩ := Prod.mk.inj hstep
          obtain rfl := Option.some.inj hn
          simp [Disconnecting.closed] at hclosed
      | closing =>
          obtain ⟨rfl, -⟩ := Prod.mk.inj hstep
          rfl
      | clearing =>
          obtain ⟨rfl, -⟩ := Prod.mk.inj hstep
          exact hold rfl
      | notifying => simp [Client.disconnectStep] at hstep
  | userReturns hu =>
      intro place hp
      simp at hp
  | _ => exact hs

/-- **A disconnect that has just returned is final exactly if the poll thread may not reconnect from
where it stands.** -/
theorem final_iff {cfg : Config} {labels : List Label} {s t : Client}
    (hs : Lts.run (step cfg) .init labels = some s) (h : step cfg s .user = some t)
    (hreturn : t.user = none) : Final cfg t ↔ t.poller.mayReconnect cfg = false := by
  have hguarded : Guarded s :=
    Lts.invariant (P := Guarded) (fun _ _ _ hu hstep => guarded_step hu (step_cases hstep))
      (by intro place hp; simp [Client.init] at hp) hs
  have hclosed : t.engineConnected = false := by
    cases step_cases h with
    | failPoll label header hl hr => simp at hl
    | userDisconnecting place next t' hu hstep => simp at hreturn
    | userReturns hu => exact hguarded .notifying hu rfl
  constructor
  · intro hfinal
    cases hmay : t.poller.mayReconnect cfg with
    | false => rfl
    | true => exact absurd hfinal (revives_of_mayReconnect hmay hreturn).not_final
  · intro hmay
    exact Dead.final ⟨hclosed, hmay⟩

/-- The user's call, from the read guard to its last step. -/
def userCall : List Label := [.disconnect, .user, .user, .user]

theorem final_beforePoll :
    ∃ s t, Lts.run (step .new) .init userCall = some s ∧ step .new s .user = some t ∧
      Final .new t := by
  have hrun : ∃ s, Lts.run (step .new) .init userCall = some s ∧ ∃ t, step .new s .user = some t ∧
      t.user = none ∧ t.poller.mayReconnect .new = false := ⟨_, rfl, _, rfl, rfl, rfl⟩
  obtain ⟨s, hs, t, ht, hreturn, hmay⟩ := hrun
  exact ⟨s, t, hs, ht, (final_iff hs ht hreturn).mpr hmay⟩

/-- The transport in which the poll thread is blocked fails, and the thread reconnects. -/
def blockedPollFails : List Label :=
  [.transportError, .proceed, .proceed, .proceed, .proceed, .proceed, .proceed, .proceed,
    .connectRaw true, .proceed]

theorem not_final_blockedPoll :
    ∃ s t, Lts.run (step .new) .init ([.proceed, .proceed] ++ userCall ++ [.user]) = some s ∧
      s.user = none ∧ Lts.run (step .new) s blockedPollFails = some t ∧ s.epoch = 1 ∧ t.epoch = 2 ∧
      installs t.history = 1 ∧ ¬ Final .new s := by
  have hrun :
      ∃ s, Lts.run (step .new) .init ([.proceed, .proceed] ++ userCall ++ [.user]) = some s ∧
        s.user = none ∧ s.epoch = 1 ∧ ∃ t, Lts.run (step .new) s blockedPollFails = some t ∧
          t.epoch = 2 ∧ installs t.history = 1 := ⟨_, rfl, rfl, rfl, _, rfl, rfl, rfl⟩
  obtain ⟨s, hs, hu, he, t, ht, he', hi⟩ := hrun
  refine ⟨s, t, hs, hu, ht, he, he', hi, fun hfinal => ?_⟩
  have := (hfinal blockedPollFails t ht).1
  omega

end TfSocketio.Socketio.Sync
