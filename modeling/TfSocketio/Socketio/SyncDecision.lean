/-
# Socketio.SyncDecision — when the poll thread starts to reconnect.

The poll thread decides after every item it polls, from the item alone: an engine.io error, or a
Disconnect packet with `reconnect_on_disconnect`.  A Close packet only clears the flag, and every
poll after it is an error that is no engine.io error.  `leads` follows the thread through what it
reads, and `startsReconnect_iff` says that it starts to reconnect exactly where `leads` says so.
-/
import TfSocketio.Socketio.PollThread

namespace TfSocketio.Socketio.Sync

/-! ## What is read -/

/-- What the poll thread reads. -/
inductive Feed where
  | frame (packetId : Engineio.PacketId) (decoded : Option Packet)
  /-- The transport fails, by a missed ping or otherwise. -/
  | error
  /-- The user disconnects. -/
  | user

def Label.input : Label → Option Feed
  | .receive packetId decoded => some (.frame packetId decoded)
  | .transportError => some .error
  -- a pong that cannot be sent
  | .pong ok => if ok then none else some .error
  | .disconnect => some .user
  | .user => some .user
  | .proceed => none
  | .emptyPayload => none
  | .handled _ => none
  | .connectRaw _ => none

/-- With this to read, the poll thread comes to the attempts loop of `reconnect`. -/
def StartsReconnect (cfg : Config) (s : Client) (inputs : List Feed) : Prop :=
  ∃ s' rest, Lts.Reads (step cfg) Label.input s inputs s' rest ∧ s'.poller = .attempt 0

/-- `poll_callback` reconnects after this packet, if `RawClient::poll` returns it. -/
def reacts (cfg : Config) (packet : Packet) : Bool :=
  packet.nsp = cfg.nsp && shouldReconnect cfg (.packet packet)

/-- What is read leads to a reconnect, if it is read with these attachments to come. -/
def leads (cfg : Config) : Header → List Feed → Bool
  | _, [] => false
  | _, .error :: _ => true
  | _, .user :: _ => false
  | header, .frame packetId decoded :: rest =>
      match packetId with
      | .message | .messageBinary =>
          match header, decoded with
          | some (packet, left), _ =>
              if left ≤ 1 then reacts cfg packet || leads cfg none rest
              else leads cfg (some (packet, left - 1)) rest
          | none, none => leads cfg none rest
          | none, some packet =>
              if 0 < packet.attachmentCount then
                leads cfg (some (packet, packet.attachmentCount.toNat)) rest
              else reacts cfg packet || leads cfg none rest
      | .ping | .upgrade | .noop => leads cfg none rest
      -- after a Close nothing is read any more
      | .close => false
      | .open | .pong => false

/-- The same, from the place where the thread stands. -/
def Client.leads (cfg : Config) (s : Client) (rest : List Feed) : Bool :=
  match s.poller with
  | .next => s.engineConnected && Sync.leads cfg none rest
  | .polling header => s.engineConnected && Sync.leads cfg header rest
  -- with the flag off, a pong fails
  | .polled header => !s.engineConnected || Sync.leads cfg header rest
  | .pinged _ => !s.engineConnected || Sync.leads cfg none rest
  | .handling packet =>
      shouldReconnect cfg (.packet packet) || s.engineConnected && Sync.leads cfg none rest
  | .deciding result =>
      shouldReconnect cfg result || s.engineConnected && Sync.leads cfg none rest
  | .panicked => false
  | _ => true

/-- Nothing that is read from here on leads to a reconnect. -/
structure Client.Stays (cfg : Config) (s : Client) (rest : List Feed) : Prop where
  user : s.user = none
  noUser : .user ∉ rest
  stays : s.leads cfg rest = false

theorem Client.Stays.goto {cfg : Config} {s s' : Client} {inputs rest : List Feed}
    (h : s.Stays cfg inputs) (hrest : rest ⊆ inputs) (huser : s'.user = s.user)
    (hleads : s'.leads cfg rest = false) : s'.Stays cfg rest where
  user := huser.trans h.user
  noUser hmem := h.noUser (hrest hmem)
  stays := hleads

/-- A packet that is delivered, if neither it nor what follows leads to a reconnect. -/
theorem Client.leads_deliver {cfg : Config} {s : Client} {packet : Packet} {rest : List Feed}
    (hreacts : reacts cfg packet = false) (hrest : Sync.leads cfg none rest = false) :
    (s.deliver cfg packet).leads cfg rest = false := by
  by_cases hnsp : packet.nsp = cfg.nsp
  · have hreact : shouldReconnect cfg (.packet packet) = false := by
      simpa [reacts, hnsp] using hreacts
    simp [Client.deliver, Client.leads, hnsp, hreact, hrest]
  · simp [Client.deliver, Client.leads, hnsp, hrest]

theorem Client.leads_receiveMessage {cfg : Config} {s : Client} {header : Header}
    {packetId : Engineio.PacketId} {decoded : Option Packet} {rest : List Feed}
    (hid : packetId = .message ∨ packetId = .messageBinary)
    (h : Sync.leads cfg header (.frame packetId decoded :: rest) = false) :
    (s.receiveMessage cfg header decoded).leads cfg rest = false := by
  have hmessage : Sync.leads cfg header (.frame .message decoded :: rest) = false := by
    rcases hid with rfl | rfl
    · exact h
    · exact h
  cases header with
  | some pending =>
      obtain ⟨packet, left⟩ := pending
      simp only [Sync.leads] at hmessage
      simp only [Client.receiveMessage]
      split at hmessage
      · rename_i hlast
        rw [Bool.or_eq_false_iff] at hmessage
        rw [if_pos hlast]
        exact Client.leads_deliver hmessage.1 hmessage.2
      · rename_i hmore
        rw [if_neg hmore]
        simp [Client.leads, hmessage]
  | none =>
      cases decoded with
      | none =>
          simp only [Sync.leads] at hmessage
          simp [Client.receiveMessage, Client.leads, shouldReconnect, hmessage]
      | some packet =>
          simp only [Sync.leads] at hmessage
          simp only [Client.receiveMessage]
          split at hmessage
          · rename_i hcount
            rw [if_pos hcount]
            simp [Client.leads, hmessage]
          · rename_i hcount
            rw [Bool.or_eq_false_iff] at hmessage
            rw [if_neg hcount]
            exact Client.leads_deliver hmessage.1 hmessage.2

theorem Client.leads_skip {cfg : Config} {s : Client} {header : Header} {rest : List Feed}
    (h : (s.engineConnected && Sync.leads cfg none rest) = false) :
    ({ s with poller := skipPacket header } : Client).leads cfg rest = false := by
  cases header with
  | some pending => simpa [skipPacket, Client.leads, shouldReconnect] using h
  | none => simpa [skipPacket, Client.leads] using h

theorem Client.receive_user (cfg : Config) (s : Client) (header : Header)
    (packetId : Engineio.PacketId) (decoded : Option Packet) :
    (s.receive cfg header packetId decoded).user = s.user := by
  have hmessage : (s.receiveMessage cfg header decoded).user = s.user := by
    unfold Client.receiveMessage
    split
    · split <;> rfl
    · split
      · rfl
      · split <;> rfl
  cases packetId with
  | message => exact hmessage
  | messageBinary => exact hmessage
  | _ => rfl

theorem Client.leads_receive {cfg : Config} {s : Client} {header : Header}
    {packetId : Engineio.PacketId} {decoded : Option Packet} {rest : List Feed}
    (hopen : s.engineConnected = true)
    (h : Sync.leads cfg header (.frame packetId decoded :: rest) = false) :
    (s.receive cfg header packetId decoded).leads cfg rest = false := by
  cases packetId with
  | message => exact Client.leads_receiveMessage (.inl rfl) h
  | messageBinary => exact Client.leads_receiveMessage (.inr rfl) h
  | close =>
      let closed : Client := { s with engineConnected := false }
      show ({ closed with poller := skipPacket header } : Client).leads cfg rest = false
      exact Client.leads_skip rfl
  | ping =>
      have hrest : Sync.leads cfg none rest = false := by simpa [Sync.leads] using h
      simp [Client.receive, Client.leads, hopen, hrest]
  | upgrade => exact Client.leads_skip (by simpa [Sync.leads, hopen] using h)
  | noop => exact Client.leads_skip (by simpa [Sync.leads, hopen] using h)
  | «open» => rfl
  | pong => rfl

/-- What is left of a packet after its handler. -/
theorem Client.handle_cases (s : Client) (packet : Packet) (ok : Bool) :
    ∃ result history, s.handle packet ok = { s with poller := .deciding result, history } ∧
      (result = .packet packet ∨ result = .error ∧ ok = false) := by
  unfold Client.handle
  cases packet.packetType <;> cases ok <;>
    first
    | exact ⟨_, _, rfl, .inl rfl⟩
    | exact ⟨_, _, rfl, .inr ⟨rfl, rfl⟩⟩

theorem Client.Stays.step {cfg : Config} {s s' : Client} {label : Label} {rest : List Feed}
    (h : s.Stays cfg (label.input.toList ++ rest)) (hstep : step cfg s label = some s') :
    s'.Stays cfg rest := by
  have hstays := h.stays
  have hrest : rest ⊆ label.input.toList ++ rest := List.subset_append_right _ _
  cases step_cases hstep with
  | startPoll hr =>
      refine h.goto hrest rfl ?_
      simpa [Client.leads, hr, Label.input] using hstays
  | findsOpen header hr he =>
      refine h.goto hrest rfl ?_
      simpa [Client.leads, hr, he, Label.input] using hstays
  | findsClosed header hr he =>
      refine h.goto hrest rfl ?_
      simp [Client.leads, shouldReconnect, he]
  | failPoll label header hl hr =>
      -- the error is read, or the flag is off
      have hopen : s.engineConnected = true := by
        rcases hr with hr | hr
        · simp only [Client.leads, hr, Bool.or_eq_false_iff] at hstays
          simpa using hstays.1
        · simp only [Client.leads, hr, Bool.or_eq_false_iff] at hstays
          simpa using hstays.1
      have hinput : label.input = some .error := by
        rcases hl with rfl | ⟨ok, rfl, hok⟩
        · rfl
        · obtain rfl : ok = false := by simpa [hopen] using hok
          rfl
      rcases hr with hr | hr
      · simp [Client.leads, hr, hinput, hopen, Sync.leads] at hstays
      · simp [Client.leads, hr, hinput, hopen, Sync.leads] at hstays
  | pollAgain header hr =>
      refine h.goto hrest rfl ?_
      simp only [Client.leads, hr, Bool.or_eq_false_iff] at hstays
      have hleads : Sync.leads cfg header rest = false := hstays.2
      simp [Client.leads, hleads]
  | receive header packetId decoded hr =>
      refine h.goto hrest (Client.receive_user cfg s header packetId decoded) ?_
      simp only [Client.leads, hr, Bool.or_eq_false_iff] at hstays
      exact Client.leads_receive (by simpa using hstays.1) hstays.2
  | answerPing ok header hr hok =>
      refine h.goto hrest rfl (Client.leads_skip ?_)
      simp only [Bool.and_eq_true] at hok
      simp only [Client.leads, hr, Bool.or_eq_false_iff, Label.input, hok.2] at hstays
      have hleads : Sync.leads cfg none rest = false := hstays.2
      simp [hleads]
  | handle packet ok hr =>
      simp only [Client.leads, hr, Bool.or_eq_false_iff] at hstays
      obtain ⟨result, history, hhandle, hresult⟩ := s.handle_cases packet ok
      rw [hhandle]
      refine h.goto hrest rfl ?_
      have hstay : shouldReconnect cfg result = false := by
        rcases hresult with rfl | ⟨rfl, -⟩
        · exact hstays.1
        · rfl
      simpa [Client.leads, hstay, Label.input] using hstays.2
  | decide result hr =>
      simp only [Client.leads, hr, Bool.or_eq_false_iff] at hstays
      refine h.goto hrest rfl ?_
      simpa [Client.leads, hstays.1, Label.input] using hstays.2
  | callDisconnect hu => exact absurd (by simp [Label.input]) h.noUser
  | userDisconnecting place next s' hu _ =>
      rw [h.user] at hu
      cases hu
  | userReturns hu =>
      rw [h.user] at hu
      cases hu
  | disconnecting place next s' hr _ => simp [Client.leads, hr] at hstays
  | disconnected hr => simp [Client.leads, hr] at hstays
  | nextAttempt attempts hr => simp [Client.leads, hr] at hstays
  | wakeUp attempts hr => simp [Client.leads, hr] at hstays
  | connected attempts hr => simp [Client.leads, hr] at hstays
  | connectFailed attempts hr => simp [Client.leads, hr] at hstays
  | install hr _ => simp [Client.leads, hr] at hstays

theorem StartsReconnect.silent {cfg : Config} {s t : Client} {inputs : List Feed} (label : Label)
    (h : StartsReconnect cfg t inputs) (hi : label.input = none) (ha : step cfg s label = some t) :
    StartsReconnect cfg s inputs := by
  obtain ⟨s', rest, hreads, hplace⟩ := h
  exact ⟨s', rest, .silent hi ha hreads, hplace⟩

theorem StartsReconnect.take {cfg : Config} {s t : Client} {input : Feed} {inputs : List Feed}
    (label : Label) (h : StartsReconnect cfg t inputs) (hi : label.input = some input)
    (ha : step cfg s label = some t) : StartsReconnect cfg s (input :: inputs) := by
  obtain ⟨s', rest, hreads, hplace⟩ := h
  exact ⟨s', rest, .take hi ha hreads, hplace⟩

/-- A result that is decided for a reconnect: the thread disconnects first. -/
theorem startsReconnect_of_deciding {cfg : Config} (hcfg : cfg.reconnect = true) {s : Client}
    {result : PollResult} (hr : s.poller = .deciding result)
    (hresult : shouldReconnect cfg result = true) (inputs : List Feed) :
    StartsReconnect cfg s inputs := by
  let t : Client := { s with
    engineConnected := false
    connected := false
    poller := .attempt 0
    history := .closed .ioClientDisconnect s.epoch :: s.history }
  refine ⟨t, inputs, ⟨[.proceed, .proceed, .proceed, .proceed, .proceed], ?_, rfl⟩, rfl⟩
  simp [t, Lts.run, step, Client.proceed, Client.disconnectStep, hr, hresult, hcfg]

/-- A result that is decided against one: the thread polls on. -/
theorem startsReconnect_of_next {cfg : Config} {s : Client} {result : PollResult}
    {inputs : List Feed} (hr : s.poller = .deciding result)
    (hresult : shouldReconnect cfg result = false)
    (h : StartsReconnect cfg { s with poller := .polling none } inputs) :
    StartsReconnect cfg s inputs := by
  have hnext : step cfg s .proceed = some { s with poller := .next } := by
    simp [step, Client.proceed, hr, hresult]
  exact .silent .proceed (.silent .proceed h rfl rfl) rfl hnext

theorem startsReconnect_of_decided {cfg : Config} (hcfg : cfg.reconnect = true) {s : Client}
    {result : PollResult} {inputs : List Feed} (hr : s.poller = .deciding result)
    (hleads : shouldReconnect cfg result = true ∨
      StartsReconnect cfg { s with poller := .polling none } inputs) :
    StartsReconnect cfg s inputs := by
  cases hresult : shouldReconnect cfg result with
  | true => exact startsReconnect_of_deciding hcfg hr hresult inputs
  | false =>
      rcases hleads with hleads | hleads
      · rw [hresult] at hleads
        cases hleads
      · exact startsReconnect_of_next hr hresult hleads

theorem startsReconnect_of_deliver {cfg : Config} (hcfg : cfg.reconnect = true) {s : Client}
    {packet : Packet} {inputs : List Feed} (hleads : reacts cfg packet = true ∨
      ∀ t : Client, t.poller = .polling none → t.engineConnected = s.engineConnected →
        StartsReconnect cfg t inputs) :
    StartsReconnect cfg (s.deliver cfg packet) inputs := by
  by_cases hnsp : packet.nsp = cfg.nsp
  · obtain ⟨result, history, hhandle, hresult⟩ := (s.deliver cfg packet).handle_cases packet true
    obtain rfl : result = .packet packet := by simpa using hresult
    have hstep : step cfg (s.deliver cfg packet) (.handled true) =
        some ((s.deliver cfg packet).handle packet true) := by
      simp [step, Client.deliver, hnsp]
    refine .silent (.handled true) ?_ rfl hstep
    rw [hhandle]
    apply startsReconnect_of_decided hcfg rfl
    rcases hleads with hreacts | hrest
    · simp only [reacts, Bool.and_eq_true] at hreacts
      exact .inl hreacts.2
    · exact .inr (hrest _ rfl rfl)
  · rcases hleads with hreacts | hrest
    · simp [reacts, hnsp] at hreacts
    · exact hrest _ (by simp [Client.deliver, hnsp]) rfl

/-- At the end of an engine.io packet that carries no data. -/
theorem startsReconnect_of_skip {cfg : Config} {s : Client} {header : Header} {inputs : List Feed}
    (h : ∀ t : Client, t.poller = .polling none → t.engineConnected = s.engineConnected →
      StartsReconnect cfg t inputs) :
    StartsReconnect cfg { s with poller := skipPacket header } inputs := by
  cases header with
  | none => exact h _ rfl rfl
  | some pending => exact startsReconnect_of_next rfl rfl (h _ rfl rfl)

/-- A packet, or an attachment of one, is read; what follows it comes about. -/
theorem startsReconnect_of_message {cfg : Config} (hcfg : cfg.reconnect = true)
    {inputs : List Feed} (ih : ∀ {header : Header} {s : Client}, s.poller = .polling header →
      s.engineConnected = true → leads cfg header inputs = true → StartsReconnect cfg s inputs)
    {header : Header} {s : Client} (hopen : s.engineConnected = true)
    {packetId : Engineio.PacketId} {decoded : Option Packet}
    (hid : packetId = .message ∨ packetId = .messageBinary)
    (hleads : leads cfg header (.frame packetId decoded :: inputs) = true) :
    StartsReconnect cfg (s.receiveMessage cfg header decoded) inputs := by
  have hmessage : leads cfg header (.frame .message decoded :: inputs) = true := by
    rcases hid with rfl | rfl
    · exact hleads
    · exact hleads
  have hdeliver : ∀ packet, (reacts cfg packet || leads cfg none inputs) = true →
      StartsReconnect cfg (s.deliver cfg packet) inputs := by
    intro packet hpacket
    apply startsReconnect_of_deliver hcfg
    rcases Bool.or_eq_true_iff.mp hpacket with hreacts | hrest
    · exact .inl hreacts
    · exact .inr fun t ht htopen => ih ht (htopen.trans hopen) hrest
  cases header with
  | some pending =>
      obtain ⟨packet, left⟩ := pending
      simp only [leads] at hmessage
      simp only [Client.receiveMessage]
      split at hmessage
      · rename_i hlast
        rw [if_pos hlast]
        exact hdeliver packet hmessage
      · rename_i hmore
        rw [if_neg hmore]
        exact ih rfl hopen hmessage
  | none =>
      cases decoded with
      | none =>
          simp only [leads] at hmessage
          exact startsReconnect_of_next rfl rfl (ih rfl hopen hmessage)
      | some packet =>
          simp only [leads] at hmessage
          simp only [Client.receiveMessage]
          split at hmessage
          · rename_i hcount
            rw [if_pos hcount]
            exact ih rfl hopen hmessage
          · rename_i hcount
            rw [if_neg hcount]
            exact hdeliver packet hmessage

/-- What `leads` says comes about. -/
theorem startsReconnect_of_leads {cfg : Config} (hcfg : cfg.reconnect = true) {inputs : List Feed} :
    ∀ {header : Header} {s : Client}, s.poller = .polling header → s.engineConnected = true →
      leads cfg header inputs = true → StartsReconnect cfg s inputs := by
  induction inputs with
  | nil =>
      intro header s hr hopen hleads
      cases header <;> simp [leads] at hleads
  | cons input inputs ih =>
      intro header s hr hopen hleads
      have hpoll : step cfg s .proceed = some { s with poller := .polled header } := by
        simp [step, Client.proceed, hr, hopen]
      refine .silent .proceed ?_ rfl hpoll
      have hnone : leads cfg none inputs = true → ∀ t : Client, t.poller = .polling none →
          t.engineConnected = s.engineConnected → StartsReconnect cfg t inputs :=
        fun hrest t ht htopen => ih ht (htopen.trans hopen) hrest
      cases input with
      | error =>
          refine .take .transportError ?_ rfl rfl
          exact startsReconnect_of_deciding hcfg rfl rfl inputs
      | user => simp [leads] at hleads
      | frame packetId decoded =>
          refine .take (.receive packetId decoded) ?_ rfl rfl
          cases packetId with
          | message => exact startsReconnect_of_message hcfg ih hopen (.inl rfl) hleads
          | messageBinary => exact startsReconnect_of_message hcfg ih hopen (.inr rfl) hleads
          | ping =>
              have hpong : step cfg { s with poller := .pinged header } (.pong true) =
                  some { s with poller := skipPacket header } := by
                simp [step, hopen]
              exact .silent (.pong true) (startsReconnect_of_skip (hnone hleads)) rfl hpong
          | upgrade => exact startsReconnect_of_skip (hnone hleads)
          | noop => exact startsReconnect_of_skip (hnone hleads)
          | close => simp [leads] at hleads
          | «open» => simp [leads] at hleads
          | pong => simp [leads] at hleads

/-- A session begins: the poll thread is about to poll. -/
structure Client.Opened (s : Client) : Prop where
  poller : s.poller = .next
  engineConnected : s.engineConnected = true
  user : s.user = none

theorem Client.Stays.not_startsReconnect {cfg : Config} {s : Client} {inputs : List Feed}
    (h : s.Stays cfg inputs) : ¬ StartsReconnect cfg s inputs := by
  rintro ⟨s', rest, hreads, hplace⟩
  have hstays : s'.Stays cfg rest :=
    Lts.Reads.invariant (P := fun t left => Client.Stays cfg t left)
      (fun t label t' left ht hstep => ht.step hstep) h hreads
  have hleads := hstays.stays
  simp [Client.leads, hplace] at hleads

/-- **When the poll thread starts to reconnect**, whatever it reads. -/
theorem startsReconnect_iff {cfg : Config} (hcfg : cfg.reconnect = true) {s : Client}
    (hs : s.Opened) {inputs : List Feed} (hinputs : .user ∉ inputs) :
    StartsReconnect cfg s inputs ↔ leads cfg none inputs = true := by
  constructor
  · intro hstarts
    by_contra hleads
    have hstays : s.Stays cfg inputs := by
      refine ⟨hs.user, hinputs, ?_⟩
      simpa [Client.leads, hs.poller, hs.engineConnected] using hleads
    exact hstays.not_startsReconnect hstarts
  · intro hleads
    have hpoll : step cfg s .proceed = some { s with poller := .polling none } := by
      simp [step, Client.proceed, hs.poller]
    have hstarts : StartsReconnect cfg { s with poller := .polling none } inputs :=
      startsReconnect_of_leads hcfg rfl hs.engineConnected hleads
    exact .silent .proceed hstarts rfl hpoll

end TfSocketio.Socketio.Sync
