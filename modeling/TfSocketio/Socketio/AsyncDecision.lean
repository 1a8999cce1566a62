/-
# Socketio.AsyncDecision — when the reader starts to reconnect.

The reader decides when its stream has ended, from `disconnect_reason`, which the last `Connect` or
`Disconnect` packet of its namespace has set.  `leads` follows it through what it reads, and
`startsReconnect_iff` says that it starts to reconnect exactly where `leads` says so.
-/
import TfSocketio.Socketio.Reader

namespace TfSocketio.Socketio.Async

/-! ## What is read -/

/-- What the reader reads of a stream. -/
inductive Feed where
  | packet (packet : Packet)
  | error
  | streamEnd
  /-- The engine.io stream has processed a Close packet. -/
  | engineClose
  | pingTimeout
  /-- The stream ends between the attachments of a packet. -/
  | streamPanic

def ReaderLabel.input : ReaderLabel → Option Feed
  | .packet p => some (.packet p)
  | .error => some .error
  | .streamEnd => some .streamEnd
  | .engineClose => some .engineClose
  | .pingTimeout => some .pingTimeout
  | .streamPanic => some .streamPanic
  | .proceed => none
  | .result _ => none
  | .taskFinished _ => none

/-- With this to read, the reader comes to the attempts loop. -/
def StartsReconnect (cfg : Config) (s : Client) (inputs : List Feed) : Prop :=
  ∃ s' rest, Lts.Reads (readerStep cfg) ReaderLabel.input s inputs s' rest ∧
    s'.reader = .attempt 0

/-- `disconnect_reason` after a packet. -/
def reasonAfter (cfg : Config) (reason : DisconnectReason) (packet : Packet) : DisconnectReason :=
  if packet.nsp = cfg.nsp then
    match packet.packetType with
    | .connect => .unknown
    | .disconnect => .server
    | _ => reason
  else reason

/-- What is read leads to a reconnect, from a reason and a stream that may have more packets. -/
def leads (cfg : Config) : DisconnectReason → Bool → List Feed → Bool
  | _, _, [] => false
  | reason, streaming, .packet packet :: rest =>
      streaming && leads cfg (reasonAfter cfg reason packet) streaming rest
  | reason, streaming, .error :: rest => streaming && leads cfg reason false rest
  | reason, streaming, .engineClose :: rest => streaming && leads cfg reason streaming rest
  | reason, streaming, .pingTimeout :: rest => streaming && leads cfg reason streaming rest
  | reason, _, .streamEnd :: _ => shouldReconnect cfg reason
  | _, _, .streamPanic :: _ => false

/-- The same, from the place where the reader stands. -/
def Client.leads (cfg : Config) (s : Client) (rest : List Feed) : Bool :=
  match s.reader with
  | .asStream => Async.leads cfg s.reason s.socket.streaming rest
  | .reading => Async.leads cfg s.reason s.socket.streaming rest
  | .received packet => Async.leads cfg (reasonAfter cfg s.reason packet) s.socket.streaming rest
  | .receivedError => Async.leads cfg s.reason s.socket.streaming rest
  | .handling packet =>
      Async.leads cfg (if packet.packetType = .disconnect then .server else .unknown)
        s.socket.streaming rest
  | .streamEnded => shouldReconnect cfg s.reason
  | .exited => false
  | .cancelled => false
  | .panicked => false
  | _ => true

/-- Nothing that is read from here on leads to a reconnect. -/
structure Client.Stays (cfg : Config) (s : Client) (rest : List Feed) : Prop where
  reason : s.reason ≠ .manual
  stays : s.leads cfg rest = false

theorem reasonAfter_ne_manual {cfg : Config} {reason : DisconnectReason} (h : reason ≠ .manual)
    (packet : Packet) : reasonAfter cfg reason packet ≠ .manual := by
  unfold reasonAfter
  split
  · split
    · simp
    · simp
    · exact h
  · exact h

/-- A packet is dispatched, or at the write lock of the reason that it sets. -/
theorem Client.dispatchPacket_cases (cfg : Config) (s : Client) (packet : Packet) :
    (s.dispatchPacket cfg packet).reader = .reading ∧ reasonAfter cfg s.reason packet = s.reason ∨
      (s.dispatchPacket cfg packet).reader = .handling packet ∧
        reasonAfter cfg s.reason packet =
          if packet.packetType = .disconnect then .server else .unknown := by
  unfold Client.dispatchPacket reasonAfter
  split
  · cases htype : packet.packetType <;> simp [dispatchTask]
  · exact .inl ⟨rfl, rfl⟩

theorem Client.dispatchPacket_same (cfg : Config) (s : Client) (packet : Packet) :
    (s.dispatchPacket cfg packet).reason = s.reason ∧
      (s.dispatchPacket cfg packet).socket = s.socket := by
  unfold Client.dispatchPacket
  split
  · split <;> exact ⟨rfl, rfl⟩
  · exact ⟨rfl, rfl⟩

theorem Client.leads_dispatchPacket {cfg : Config} {s : Client} {packet : Packet}
    {rest : List Feed} : (s.dispatchPacket cfg packet).leads cfg rest =
      Async.leads cfg (reasonAfter cfg s.reason packet) s.socket.streaming rest := by
  obtain ⟨hreason, hsocket⟩ := s.dispatchPacket_same cfg packet
  rcases s.dispatchPacket_cases cfg packet with ⟨hreader, hafter⟩ | ⟨hreader, hafter⟩
  · rw [Client.leads, hreader, hafter]
    simp only [hreason, hsocket]
  · rw [Client.leads, hreader, hafter]
    simp only [hsocket]

theorem Client.handlePacket_socket (s : Client) (packet : Packet) :
    (s.handlePacket packet).socket = s.socket := by
  unfold Client.handlePacket
  split <;> rfl

theorem Client.Stays.step {cfg : Config} {s s' : Client} {label : ReaderLabel} {rest : List Feed}
    (h : s.Stays cfg (label.input.toList ++ rest)) (hstep : readerStep cfg s label = some s') :
    s'.Stays cfg rest := by
  have hstays := h.stays
  cases readerStep_cases hstep with
  | openStream hr =>
      refine ⟨h.reason, ?_⟩
      simpa [Client.leads, hr, ReaderLabel.input] using hstays
  | readPacket packet hr hs =>
      refine ⟨h.reason, ?_⟩
      simpa [Client.leads, hr, hs, ReaderLabel.input, Async.leads] using hstays
  | readError hr hs =>
      refine ⟨h.reason, ?_⟩
      simpa [Client.leads, Client.exhaust, hr, hs, ReaderLabel.input, Async.leads] using hstays
  | closeEngine label keepTransport hl hr hs =>
      refine ⟨h.reason, ?_⟩
      show ({ s with socket := s.socket.closed keepTransport } : Client).leads cfg rest = false
      simp only [Client.leads, hr] at hstays ⊢
      rcases hl with rfl | rfl
      · simpa [InnerSocket.closed, hs, ReaderLabel.input, Async.leads] using hstays
      · simpa [InnerSocket.closed, hs, ReaderLabel.input, Async.leads] using hstays
  | endStream hr =>
      refine ⟨h.reason, ?_⟩
      have hreason : shouldReconnect cfg s.reason = false := by
        simpa [Client.leads, hr, ReaderLabel.input, Async.leads] using hstays
      exact hreason
  | stopStream _ hm => exact absurd hm h.reason
  | panicStream hr hs => exact ⟨h.reason, rfl⟩
  | dispatch packet hr hm =>
      refine ⟨by rw [(s.dispatchPacket_same cfg packet).1]; exact h.reason, ?_⟩
      rw [Client.leads_dispatchPacket]
      simpa [Client.leads, hr, ReaderLabel.input] using hstays
  | spawnError hr hm =>
      refine ⟨h.reason, ?_⟩
      simpa [Client.leads, Client.spawnDispatch, hr, ReaderLabel.input] using hstays
  | handle packet hr =>
      refine ⟨?_, ?_⟩
      · rw [Client.handlePacket_reason]
        split <;> simp
      · rw [Client.leads, Client.handlePacket_reader]
        simp only [Client.handlePacket_reason, Client.handlePacket_socket]
        simpa [Client.leads, hr, ReaderLabel.input] using hstays
  | afterStream hr =>
      have hreason : shouldReconnect cfg s.reason = false := by
        simpa [Client.leads, hr, ReaderLabel.input] using hstays
      refine ⟨by rw [Client.afterStream_reason]; exact h.reason, ?_⟩
      rw [Client.leads, Client.afterStream_reader, hreason]
      rfl
  | taskFinished index =>
      refine ⟨h.reason, ?_⟩
      simpa [Client.leads, ReaderLabel.input] using hstays
  | reconnecting label next onReconnect socket attempts hl hr hn =>
      refine absurd hstays ?_
      cases hplace : s.reader <;> rw [hplace] at hr <;> simp [Reader.reconnecting] at hr <;>
        simp [Client.leads, hplace]
  | nextAttempt attempts hr => simp [Client.leads, hr] at hstays
  | callOnReconnect attempts hr => simp [Client.leads, hr] at hstays
  | install attempts hr => simp [Client.leads, hr] at hstays
  | reconnected attempts hr => simp [Client.leads, hr] at hstays
  | tryAgain attempts hr => simp [Client.leads, hr] at hstays

theorem StartsReconnect.silent {cfg : Config} {s t : Client} {inputs : List Feed}
    (label : ReaderLabel) (h : StartsReconnect cfg t inputs) (hi : label.input = none)
    (ha : readerStep cfg s label = some t) : StartsReconnect cfg s inputs := by
  obtain ⟨s', rest, hreads, hplace⟩ := h
  exact ⟨s', rest, .silent hi ha hreads, hplace⟩

theorem StartsReconnect.take {cfg : Config} {s t : Client} {input : Feed} {inputs : List Feed}
    (label : ReaderLabel) (h : StartsReconnect cfg t inputs) (hi : label.input = some input)
    (ha : readerStep cfg s label = some t) : StartsReconnect cfg s (input :: inputs) := by
  obtain ⟨s', rest, hreads, hplace⟩ := h
  exact ⟨s', rest, .take hi ha hreads, hplace⟩

/-- A packet that was read is dispatched; what follows it comes about. -/
theorem startsReconnect_of_received {cfg : Config} {s : Client} {packet : Packet}
    {inputs : List Feed} (hr : s.reader = .received packet) (hm : s.reason ≠ .manual)
    (h : ∀ t : Client, t.reader = .reading → t.reason = reasonAfter cfg s.reason packet →
      t.socket = s.socket → StartsReconnect cfg t inputs) : StartsReconnect cfg s inputs := by
  have hdispatch : readerStep cfg s .proceed = some (s.dispatchPacket cfg packet) := by
    simp [readerStep, Client.proceed, hr, hm]
  refine .silent .proceed ?_ rfl hdispatch
  obtain ⟨hreason, hsocket⟩ := s.dispatchPacket_same cfg packet
  rcases s.dispatchPacket_cases cfg packet with ⟨hreader, hafter⟩ | ⟨hreader, hafter⟩
  · exact h _ hreader (hreason.trans hafter.symm) hsocket
  · have hhandle : readerStep cfg (s.dispatchPacket cfg packet) .proceed =
        some ((s.dispatchPacket cfg packet).handlePacket packet) := by
      simp [readerStep, Client.proceed, hreader]
    refine .silent .proceed (h _ ?_ ?_ ?_) rfl hhandle
    · exact Client.handlePacket_reader _ _
    · rw [Client.handlePacket_reason, hafter]
    · rw [Client.handlePacket_socket, hsocket]

/-- What `leads` says comes about. -/
theorem startsReconnect_of_leads {cfg : Config} {inputs : List Feed} :
    ∀ {s : Client}, s.reader = .reading → s.reason ≠ .manual →
      leads cfg s.reason s.socket.streaming inputs = true → StartsReconnect cfg s inputs := by
  induction inputs with
  | nil =>
      intro s hr hm hleads
      simp [leads] at hleads
  | cons input inputs ih =>
      intro s hr hm hleads
      cases input with
      | packet packet =>
          obtain ⟨hstreaming, hrest⟩ := Bool.and_eq_true_iff.mp hleads
          rw [hstreaming] at hrest
          refine .take (.packet packet) ?_ rfl (by simp only [readerStep, hr, hstreaming]; rfl)
          refine startsReconnect_of_received rfl hm fun t ht hreason hsocket => ih ht ?_ ?_
          · rw [hreason]
            exact reasonAfter_ne_manual hm packet
          · rw [hreason, hsocket]
            exact hrest
      | error =>
          obtain ⟨hstreaming, hrest⟩ := Bool.and_eq_true_iff.mp hleads
          refine .take .error ?_ rfl (by simp only [readerStep, hr, hstreaming]; rfl)
          let t : Client := { s.exhaust with reader := .receivedError }
          have hspawn : readerStep cfg t .proceed =
              some { t.spawnDispatch .error with reader := .reading } := by
            simp only [readerStep, Client.proceed, t]
            exact if_neg hm
          refine .silent .proceed ?_ rfl hspawn
          exact ih rfl hm hrest
      | engineClose =>
          obtain ⟨hstreaming, hrest⟩ := Bool.and_eq_true_iff.mp hleads
          rw [hstreaming] at hrest
          refine .take .engineClose ?_ rfl (by simp only [readerStep, hr, hstreaming]; rfl)
          exact ih rfl hm hrest
      | pingTimeout =>
          obtain ⟨hstreaming, hrest⟩ := Bool.and_eq_true_iff.mp hleads
          rw [hstreaming] at hrest
          refine .take .pingTimeout ?_ rfl (by simp only [readerStep, hr, hstreaming]; rfl)
          exact ih rfl hm hrest
      | streamEnd =>
          simp only [leads] at hleads
          refine .take .streamEnd ?_ rfl (by simp only [readerStep, hr]; rfl)
          have hplace : (s.exhaust.endStream.afterStream cfg).reader = .attempt 0 := by
            rw [Client.afterStream_reader]
            exact if_pos hleads
          exact .silent .proceed ⟨_, inputs, .refl _ _, hplace⟩ rfl rfl
      | streamPanic => simp [leads] at hleads

/-- A session begins: the reader is about to open its stream.  A session that follows one that the
server has ended was started for `reconnect_on_disconnect`. -/
structure Client.Opened (cfg : Config) (s : Client) : Prop where
  reader : s.reader = .asStream
  streaming : s.socket.streaming = true
  reason : s.reason = .unknown ∨ s.reason = .server ∧ cfg.reconnectOnDisconnect = true

/-- **When the reader starts to reconnect**, whatever it reads. -/
theorem startsReconnect_iff {cfg : Config} {s : Client} (hs : s.Opened cfg) (inputs : List Feed) :
    StartsReconnect cfg s inputs ↔ leads cfg s.reason true inputs = true := by
  have hm : s.reason ≠ .manual := by
    rcases hs.reason with hreason | ⟨hreason, -⟩ <;> simp [hreason]
  constructor
  · rintro ⟨s', rest, hreads, hplace⟩
    by_contra hleads
    have hstays : s.Stays cfg inputs := by
      refine ⟨hm, ?_⟩
      simpa [Client.leads, hs.reader, hs.streaming] using hleads
    have hend : s'.Stays cfg rest :=
      Lts.Reads.invariant (P := fun t left => Client.Stays cfg t left)
        (fun t label t' left ht hstep => ht.step hstep) hstays hreads
    have hleads' := hend.stays
    simp [Client.leads, hplace] at hleads'
  · intro hleads
    have hopen : readerStep cfg s .proceed = some { s with reader := .reading } := by
      simp [readerStep, Client.proceed, hs.reader]
    rw [← hs.streaming] at hleads
    have hstarts : StartsReconnect cfg { s with reader := .reading } inputs :=
      startsReconnect_of_leads rfl hm (hleads.trans hs.streaming)
    exact .silent .proceed hstarts rfl hopen

/-- The reader is between two streams. -/
def Reader.between : Reader → Bool
  | .asStream => true
  | .attempt _ => true
  | reader => reader.reconnecting.isSome

/-- Between two streams, a reason `Server` means that the server's disconnects are reconnected. -/
structure Client.Between (cfg : Config) (s : Client) : Prop where
  manual : s.reason ≠ .manual
  server : s.reader.between = true → s.reason = .server → cfg.reconnectOnDisconnect = true

/-- From a place between two streams, with the same reason. -/
theorem Client.Between.goto {cfg : Config} {s s' : Client} (h : s.Between cfg)
    (hreason : s'.reason = s.reason) (hr : s.reader.between = true) : s'.Between cfg where
  manual := by
    rw [hreason]
    exact h.manual
  server _ hserver := h.server hr (hreason.symm.trans hserver)

/-- To a place at a stream. -/
theorem Client.Between.of_stream {cfg : Config} {s : Client} (hm : s.reason ≠ .manual)
    (hr : s.reader.between = false) : s.Between cfg where
  manual := hm
  server hbetween := by
    rw [hr] at hbetween
    cases hbetween

theorem Client.Between.step {cfg : Config} {s s' : Client} {label : ReaderLabel}
    (h : s.Between cfg) (hstep : readerStep cfg s label = some s') : s'.Between cfg := by
  cases readerStep_cases hstep with
  | openStream hr => exact .of_stream h.manual rfl
  | readPacket packet hr hs => exact .of_stream h.manual rfl
  | readError hr hs => exact .of_stream h.manual rfl
  | closeEngine label keepTransport hl hr hs => exact .of_stream h.manual (by rw [hr]; rfl)
  | endStream hr => exact .of_stream h.manual rfl
  | stopStream _ hm => exact absurd hm h.manual
  | panicStream hr hs => exact .of_stream h.manual rfl
  | dispatch packet hr hm =>
      refine .of_stream (by rw [(s.dispatchPacket_same cfg packet).1]; exact h.manual) ?_
      rcases s.dispatchPacket_cases cfg packet with ⟨hreader, -⟩ | ⟨hreader, -⟩
      · rw [hreader]
        rfl
      · rw [hreader]
        rfl
  | spawnError hr hm => exact .of_stream h.manual rfl
  | handle packet hr =>
      refine .of_stream ?_ (by rw [Client.handlePacket_reader]; rfl)
      rw [Client.handlePacket_reason]
      split <;> simp
  | afterStream hr =>
      refine ⟨by rw [Client.afterStream_reason]; exact h.manual, ?_⟩
      rw [Client.afterStream_reader, Client.afterStream_reason]
      intro hbetween hserver
      by_contra hdisconnect
      simp [hserver, shouldReconnect, hdisconnect, Reader.between, Reader.reconnecting] at hbetween
  | nextAttempt attempts hr => exact h.goto (s.nextAttempt_same cfg attempts).1 (by rw [hr]; rfl)
  | callOnReconnect attempts hr => exact h.goto rfl (by rw [hr]; rfl)
  | reconnecting label next onReconnect socket attempts hl hr hn =>
      refine h.goto rfl ?_
      cases hplace : s.reader <;> rw [hplace] at hr <;> simp [Reader.reconnecting] at hr <;> rfl
  | install attempts hr => exact h.goto rfl (by rw [hr]; rfl)
  | reconnected attempts hr => exact h.goto rfl (by rw [hr]; rfl)
  | tryAgain attempts hr => exact h.goto rfl (by rw [hr]; rfl)
  | taskFinished index => exact ⟨h.manual, h.server⟩

/-- Every session of a run without an explicit disconnect begins so. -/
theorem opened_of_run {cfg : Config} {onReconnect : Bool} {labels : List ReaderLabel} {s : Client}
    (h : Lts.run (readerStep cfg) (.init onReconnect) labels = some s)
    (hr : s.reader = .asStream) (hs : s.socket.streaming = true) : s.Opened cfg := by
  have hinit : (Client.init onReconnect).Between cfg := by
    constructor <;> simp [Client.init]
  have hbetween : s.Between cfg :=
    Lts.invariant (P := fun t => Client.Between cfg t) (fun t label t' ht hstep => ht.step hstep)
      hinit h
  refine ⟨hr, hs, ?_⟩
  have hserver := hbetween.server (by rw [hr]; rfl)
  cases hreason : s.reason with
  | unknown => exact .inl rfl
  | manual => exact absurd hreason hbetween.manual
  | server => exact .inr ⟨rfl, hserver hreason⟩

end TfSocketio.Socketio.Async
