/-
# Socketio.CloseSource — where the invocations of the Close callback come from.

`callback_close` invokes the callback of `Event::Close` with the text of a close reason.  But the
name of an event is converted with the same function that knows the reserved names, and the handlers
look the callback up under what it returns; so an event that the server calls `close`, in any case,
invokes it as well.

`NamesClose` says which packets do.  The runs are those of `Traffic`, for both clients.
-/
import TfSocketio.Socketio.Traffic

namespace TfSocketio.Socketio

open Engineio (Bytes)
open Text (Str)

variable {json : SerdeJson} (flavour : Flavour) (reader : FromStr json)
  (registrations : Registrations)

/-! ## Names -/

/-- An event packet whose name is `close` in some case.  In a text packet it is the first of at
least two elements; in a binary one it is what is left of the data without its quotes. -/
inductive NamesClose (packet : Packet) : Prop
  | text (data ev : Str) (payload : json.Value) (payloads : List json.Value)
      (htype : packet.packetType = .event) (hdata : packet.data = some data)
      (hread : reader data = some (.array (.string ev :: payload :: payloads)))
      (hname : lowercase ev = "close".toList)
  | binary (data : Str) (attachment : Bytes) (attachments : List Bytes)
      (htype : packet.packetType = .binaryEvent) (hdata : packet.data = some data)
      (hattachments : packet.attachments = some (attachment :: attachments))
      (hname : lowercase (deleteQuotes data) = "close".toList)

theorem Event.ofString_eq_close {s : Str} :
    Event.ofString s = .close ↔ lowercase s = "close".toList := by
  unfold Event.ofString
  constructor
  · intro h
    split at h
    · cases h
    · split at h
      · cases h
      · split at h
        · cases h
        · split at h
          · assumption
          · cases h
  · intro h
    rw [h, if_neg (by decide), if_neg (by decide), if_neg (by decide), if_pos rfl]

/-! ## What is asked of a run -/

/-- No event packet that is handled names Close. -/
def Unnamed (s : Traffic json) (label : Traffic.Label json) : Prop :=
  ∀ packet, label = .packet packet → packet.nsp = s.client.nsp → s.quits flavour = false →
    ¬ NamesClose reader packet

/-- **The Close callback is invoked by the close chain only.**  A thread that invokes it is at the
first step of `callback_close`, and hands it the text of the reason. -/
def FromCloseChain (s : Traffic json) (label : Traffic.Label json) : Prop :=
  ∀ i now thread payload rest, label = .work i now → s.threads[i]? = some thread →
    thread.work = .invoke (.callback (.on .close payload)) :: rest →
    ∃ reason epoch, thread.work = closeWork reader registrations reason epoch ∧
      payload = .text [.string reason.asStr] none

/-! ## The threads -/

/-- An invocation of the Close callback. -/
def Work.closes : Work json → Bool
  | .invoke (.callback (.on .close _)) => true
  | _ => false

/-- The thread is at the start of `callback_close`, or will not invoke the Close callback. -/
def Thread.Sourced (thread : Thread json) : Prop :=
  (∃ reason epoch, thread.work = closeWork reader registrations reason epoch) ∨
    ∀ work ∈ thread.work, work.closes = false

theorem closes_callback (callbacks : Callbacks) {event : Event} (h : event ≠ .close)
    (payload : Payload json) (ackId : Option Int) :
    ∀ call ∈ callback callbacks event payload ackId,
      (Work.invoke (.callback call)).closes = false := by
  intro call hcall
  rcases List.mem_append.mp hcall with hon | hany
  · split at hon
    · obtain rfl := List.mem_singleton.mp hon
      cases event with
      | close => exact absurd rfl h
      | _ => rfl
    · cases hon
  · split at hany
    · obtain rfl := List.mem_singleton.mp hany
      rfl
    · cases hany

theorem closes_calls {calls : List (Call json)}
    (h : ∀ call ∈ calls, (Work.invoke (.callback call)).closes = false) :
    ∀ work ∈ calls.map fun call => Work.invoke (.callback call), work.closes = false := by
  intro work hwork
  obtain ⟨call, hcall, rfl⟩ := List.mem_map.mp hwork
  exact h call hcall

/-- What is left of `callback_close` after its first step. -/
theorem closes_tail {reason : CloseReason} {epoch : Nat} {work : Work json}
    {rest : List (Work json)} (h : closeWork reader registrations reason epoch = work :: rest) :
    ∀ work ∈ rest, work.closes = false := by
  have hclose : closeWork reader registrations reason epoch =
      (if registrations.on .close then
        [.invoke (.callback (.on .close ((Payload.ofString reader reason.asStr).setAckId none)))]
      else []) ++ [.takeClose reason epoch] := by
    simp only [closeWork, callbackWork, callback, Event.isCommon]
    split <;> simp
  rw [hclose] at h
  split at h
  · obtain ⟨-, rfl⟩ := List.cons.inj h
    intro work hwork
    obtain rfl := List.mem_singleton.mp hwork
    rfl
  · obtain ⟨-, rfl⟩ := List.cons.inj h
    intro work hwork
    cases hwork

theorem eventOf_close {contents : List json.Value} (h : (eventOf contents).1 = .close) :
    ∃ ev payload payloads, contents = .string ev :: payload :: payloads ∧
      lowercase ev = "close".toList := by
  unfold eventOf at h
  split at h
  · rename_i ev payload payloads
    exact ⟨ev, payload, payloads, rfl, Event.ofString_eq_close.mp h⟩
  · cases h

/-- A text event that does not name Close does not lead to it. -/
theorem closes_handleEvent (callbacks : Callbacks) {packet : Packet}
    (htype : packet.packetType = .event) (h : ¬ NamesClose reader packet) {calls : List (Call json)}
    (hcalls : handleEvent reader callbacks packet = .ok calls) :
    ∀ call ∈ calls, (Work.invoke (.callback call)).closes = false := by
  unfold handleEvent at hcalls
  split at hcalls
  · obtain rfl := Except.ok.inj hcalls
    intro call hcall
    cases hcall
  · rename_i data hdata
    split at hcalls
    · cases hcalls
    · rename_i contents _ hread
      obtain rfl := Except.ok.inj hcalls
      apply closes_callback
      intro hclose
      obtain ⟨ev, payload, payloads, rfl, hname⟩ := eventOf_close hclose
      exact h (.text data ev payload payloads htype hdata hread hname)
    · obtain rfl := Except.ok.inj hcalls
      intro call hcall
      cases hcall

theorem closes_handleBinaryEvent (callbacks : Callbacks) {packet : Packet}
    (htype : packet.packetType = .binaryEvent) (h : ¬ NamesClose reader packet) :
    ∀ call ∈ handleBinaryEvent callbacks packet,
      (Work.invoke (.callback call) : Work json).closes = false := by
  unfold handleBinaryEvent
  split
  · rename_i attachment attachments hattachments
    apply closes_callback
    unfold binaryEventOf
    split
    · rename_i data hdata
      exact fun hclose => h (.binary data attachment attachments htype hdata hattachments
        (Event.ofString_eq_close.mp hclose))
    · exact fun hclose => Event.noConfusion hclose
  · intro call hcall
    cases hcall

theorem sourced_callbackWork {event : Event} (h : event ≠ .close) (payload : Payload json)
    (ackId : Option Int) (inline terminal : Bool) :
    Thread.Sourced reader registrations
      ⟨callbackWork registrations event payload ackId, inline, terminal⟩ :=
  .inr (closes_calls (closes_callback registrations.toCallbacks h payload ackId))

theorem sourced_handlerWork {packet : Packet} (h : ¬ NamesClose reader packet) (epoch : Nat)
    (inline terminal : Bool) : Thread.Sourced reader registrations
      ⟨handlerWork reader registrations epoch packet packet.packetType.handler, inline,
        terminal⟩ := by
  cases htype : packet.packetType with
  | ack => exact .inr fun work hwork => by obtain rfl := List.mem_singleton.mp hwork; rfl
  | binaryAck => exact .inr fun work hwork => by obtain rfl := List.mem_singleton.mp hwork; rfl
  | binaryEvent =>
      exact .inr (closes_calls (closes_handleBinaryEvent reader registrations.toCallbacks htype h))
  | connect => exact sourced_callbackWork reader registrations (by simp) _ _ inline terminal
  | disconnect => exact .inl ⟨.ioServerDisconnect, epoch, rfl⟩
  | connectError => exact sourced_callbackWork reader registrations (by simp) _ _ inline terminal
  | event =>
      show Thread.Sourced reader registrations
        ⟨handlerWork reader registrations epoch packet .event, inline, terminal⟩
      rw [handlerWork]
      split
      · rename_i calls hcalls
        exact .inr (closes_calls
          (closes_handleEvent reader registrations.toCallbacks htype h hcalls))
      · exact sourced_callbackWork reader registrations (by simp) _ _ inline terminal

namespace Traffic

/-- What a piece of work leads to does not invoke the Close callback. -/
theorem closes_perform (s : Traffic json) (now : Nat) (work : Work json) :
    ∀ next ∈ (s.perform flavour reader now work).1, next.closes = false := by
  cases work with
  | takeAcks packet =>
      simp only [perform]
      split
      · intro next hnext
        cases hnext
      · intro next hnext
        obtain ⟨ack, -, rfl⟩ := List.mem_map.mp hnext
        rfl
  | check ack packet =>
      simp only [perform]
      split
      · intro next hnext
        obtain ⟨payload, -, rfl⟩ := List.mem_map.mp hnext
        rfl
      · intro next hnext
        cases hnext
  | takeClose reason epoch =>
      simp only [perform]
      split
      · cases flavour with
        | sync =>
            intro next hnext
            rcases List.mem_cons.mp hnext with rfl | hnext
            · rfl
            · obtain rfl := List.mem_singleton.mp hnext
              rfl
        | async =>
            intro next hnext
            obtain rfl := List.mem_singleton.mp hnext
            rfl
      · intro next hnext
        cases hnext
  | putClose =>
      intro next hnext
      cases hnext
  | invoke invocation =>
      intro next hnext
      cases hnext

/-- Every thread is at the start of `callback_close`, or will not invoke the Close callback. -/
def Sourced (s : Traffic json) : Prop :=
  ∀ thread ∈ s.threads, thread.Sourced reader registrations

theorem Sourced.spawn {s : Traffic json} (hs : s.Sourced reader registrations)
    {work : List (Work json)} {inline terminal : Bool}
    (h : Thread.Sourced reader registrations ⟨work, inline, terminal⟩) :
    (s.spawn work inline terminal).Sourced reader registrations := by
  intro thread hthread
  rcases List.mem_append.mp hthread with hthread | hthread
  · exact hs thread hthread
  · obtain rfl := List.mem_singleton.mp hthread
    exact h

theorem Sourced.abort {s : Traffic json} (hs : s.Sourced reader registrations)
    (includeTerminal : Bool) : (s.abort includeTerminal).Sourced reader registrations := by
  intro thread hthread
  obtain ⟨old, hold, rfl⟩ := List.mem_map.mp hthread
  unfold Thread.abort
  split
  · exact .inr fun work hwork => by cases hwork
  · exact hs old hold

theorem Sourced.handlePacket {s : Traffic json} (hs : s.Sourced reader registrations)
    {packet : Packet} (h : packet.nsp = s.client.nsp → ¬ NamesClose reader packet) :
    (s.handlePacket flavour reader registrations packet).Sourced reader registrations := by
  unfold Traffic.handlePacket
  split
  · rename_i handler hhandler
    obtain ⟨hnsp, rfl⟩ := nsp_of_handlerOf hhandler
    have hentered : (s.enterHandler flavour packet.packetType.handler).Sourced reader
        registrations := by
      cases flavour with
      | sync => exact hs
      | async =>
          cases packet.packetType with
          | disconnect =>
              exact Sourced.abort reader registrations (s := { s with reason := .server }) hs false
          | _ => exact hs
    exact hentered.spawn reader registrations
      (sourced_handlerWork reader registrations (h hnsp) s.epoch _ _)
  · exact hs

theorem sourced_step {s s' : Traffic json} {label : Label json}
    (hs : s.Sourced reader registrations) (hlabel : Unnamed flavour reader s label)
    (h : s.Transition flavour reader registrations label s') :
    s'.Sourced reader registrations := by
  cases h with
  | packet packet hread =>
      unfold readPacket
      dsimp only
      split
      · exact Sourced.abort reader registrations hs false
      · rename_i hquits
        have hno : s.quits flavour = false := Bool.eq_false_iff.mpr hquits
        exact Sourced.handlePacket flavour reader registrations
          (s := s.setConnected (handleSocketioPacket s.client.socket.connected packet)) hs
          fun hnsp => hlabel packet rfl hnsp hno
  | pollError text hread =>
      unfold readError
      split
      · exact Sourced.abort reader registrations hs false
      · exact hs.spawn reader registrations
          (sourced_callbackWork reader registrations (by simp) _ _ _ _)
  | streamEnd hasync hreading =>
      unfold endStream
      split
      · exact Sourced.spawn reader registrations (Sourced.abort reader registrations hs false)
          (.inl ⟨.transportClose, s.epoch, rfl⟩)
      · exact Sourced.abort reader registrations hs false
      · exact Sourced.abort reader registrations hs false
  | work i now thread work rest hi hwork =>
      intro other hother
      rcases List.mem_or_eq_of_mem_set hother with hother | rfl
      · exact hs other hother
      · -- the thread is no longer at the start of anything
        have hrest : ∀ next ∈ rest, next.closes = false := by
          rcases hs thread (List.mem_of_getElem? hi) with ⟨reason, epoch, hclose⟩ | hnone
          · exact closes_tail reader registrations (hclose.symm.trans hwork)
          · intro next hnext
            apply hnone
            rw [hwork]
            exact List.mem_cons_of_mem _ hnext
        refine .inr fun next hnext => ?_
        rcases List.mem_append.mp hnext with hnext | hnext
        · exact closes_perform flavour reader s now work next hnext
        · exact hrest next hnext
  | stopReader hasync hreading => exact Sourced.abort reader registrations hs false
  | disconnectSync failures hsync =>
      exact Sourced.spawn (s := { s with client := _ }) reader registrations hs
        (.inl ⟨.ioClientDisconnect, s.epoch, rfl⟩)
  | abortTasks hasync => exact hs.abort reader registrations true
  | _ => exact hs

end Traffic

/-! ## Runs -/

namespace Traffic

variable {flavour reader registrations}

/-- A thread at the start of `callback_close` hands on the text of its reason. -/
theorem Sourced.fromCloseChain
    (hreader : ∀ reason : CloseReason, reader reason.asStr = none)
    {s : Traffic json} (hs : s.Sourced reader registrations) (label : Label json) :
    FromCloseChain reader registrations s label := by
  intro i now thread payload rest _ hi hwork
  rcases hs thread (List.mem_of_getElem? hi) with ⟨reason, epoch, hclose⟩ | hnone
  · refine ⟨reason, epoch, hclose, ?_⟩
    rw [hclose, closeWork, callbackWork, callback] at hwork
    split at hwork
    · simp only [Event.isCommon, Bool.false_and, Bool.false_eq_true, if_false, List.append_nil,
        List.map_cons, List.map_nil, List.cons_append, List.cons.injEq, Work.invoke.injEq,
        Invocation.callback.injEq, Call.on.injEq, true_and] at hwork
      rw [← hwork.1, Payload.ofString, stringToValue, hreader]
      rfl
    · simp [Event.isCommon] at hwork
  · have hfirst := hnone _ (by rw [hwork]; exact List.mem_cons_self)
    simp [Work.closes] at hfirst

/-- The handler of a packet that names Close does nothing but invoke its callback. -/
theorem handlerWork_of_namesClose (hon : registrations.on .close = true) {packet : Packet}
    (h : NamesClose reader packet) (epoch : Nat) :
    ∃ payload, handlerWork reader registrations epoch packet packet.packetType.handler =
      [.invoke (.callback (.on .close payload))] := by
  cases h with
  | text data ev payload payloads htype hdata hread hname =>
      refine ⟨.text (payload :: payloads) packet.id, ?_⟩
      have hevent := Event.ofString_eq_close.mpr hname
      simp [htype, PacketId.handler, handlerWork, handleEvent, hdata, hread, eventOf, hevent,
        callback, hon, Event.isCommon, Payload.setAckId]
  | binary data attachment attachments htype hdata hattachments hname =>
      refine ⟨.binary attachment packet.id, ?_⟩
      have hevent := Event.ofString_eq_close.mpr hname
      simp [htype, PacketId.handler, handlerWork, handleBinaryEvent, hattachments, binaryEventOf,
        hdata, hevent, callback, hon, Event.isCommon, Payload.setAckId]

theorem namesClose_enterHandler {packet : Packet} (h : NamesClose reader packet)
    (s : Traffic json) : s.enterHandler flavour packet.packetType.handler = s := by
  cases h with
  | text data ev payload payloads htype hdata hread hname =>
      rw [htype]
      cases flavour <;> rfl
  | binary data attachment attachments htype hdata hattachments hname =>
      rw [htype]
      cases flavour <;> rfl

/-- When such a packet is handled, the new thread can invoke the callback right away, and is not at
the start of `callback_close`. -/
theorem not_fromCloseChain (hon : registrations.on .close = true) {s : Traffic json}
    {packet : Packet} (hread : s.canRead = true) (h : ¬ Unnamed flavour reader s (.packet packet)) :
    ∃ s', s.step flavour reader registrations (.packet packet) = some s' ∧
      ∃ s'', s'.step flavour reader registrations (.work s.threads.length 0) = some s'' ∧
        ¬ FromCloseChain reader registrations s' (.work s.threads.length 0) := by
  obtain ⟨hnsp, hquits, hnames⟩ : packet.nsp = s.client.nsp ∧ s.quits flavour = false ∧
      NamesClose reader packet := by
    by_contra hno
    refine h fun p hp hnsp hquits hnames => hno ?_
    obtain rfl := Label.packet.inj hp
    exact ⟨hnsp, hquits, hnames⟩
  obtain ⟨payload, hwork⟩ := handlerWork_of_namesClose hon hnames s.epoch
  have hhandler : handlerOf s.client.nsp packet = some packet.packetType.handler := by
    rw [← hnsp]
    exact handlerOf_nsp packet
  let t := s.setConnected (handleSocketioPacket s.client.socket.connected packet)
  have hpacket : s.readPacket flavour reader registrations packet =
      t.spawn [.invoke (.callback (.on .close payload))] (flavour = .sync)
        packet.packetType.handler.terminal := by
    have hhandled : s.readPacket flavour reader registrations packet =
        t.handlePacket flavour reader registrations packet :=
      if_neg (Bool.eq_false_iff.mp hquits)
    rw [hhandled, Traffic.handlePacket, show t.client.nsp = s.client.nsp from rfl, hhandler]
    dsimp only
    rw [namesClose_enterHandler hnames, show t.epoch = s.epoch from rfl, hwork]
  let thread : Thread json := ⟨[.invoke (.callback (.on .close payload))], flavour = .sync,
    packet.packetType.handler.terminal⟩
  let s' := t.spawn thread.work thread.inline thread.terminal
  have hthread : s'.threads[s.threads.length]? = some thread := by
    show (s.threads ++ [thread])[s.threads.length]? = some thread
    simp
  refine ⟨s', ?_, _, (proceed_eq_some flavour reader).mpr ⟨thread, _, [], hthread, rfl, rfl⟩, ?_⟩
  · rw [step, if_pos hread, hpacket]
  · intro hchain
    obtain ⟨reason, epoch, hclose, -⟩ :=
      hchain s.threads.length 0 thread payload [] rfl hthread rfl
    have hlast : Work.takeClose reason epoch ∈ thread.work := by
      rw [hclose, closeWork]
      simp
    cases List.mem_singleton.mp hlast

/-- **Where the Close callback is invoked from.**  In every run whose handled event packets do not
name Close, each invocation is a step of `callback_close` with the text of a close reason.  As soon
as a packet that does is handled, the next step may be an invocation that is not. -/
theorem closes_fromChain (hreader : ∀ reason : CloseReason, reader reason.asStr = none)
    (hon : registrations.on .close = true) (nsp : Str) :
    (∀ labels, Lts.Along (step flavour reader registrations) (Unnamed flavour reader)
        (init json registrations nsp) labels →
      Lts.Along (step flavour reader registrations) (FromCloseChain reader registrations)
        (init json registrations nsp) labels) ∧
    ∀ labels packet s s', Lts.run (step flavour reader registrations)
        (init json registrations nsp) labels = some s →
      s.step flavour reader registrations (.packet packet) = some s' →
      ¬ Unnamed flavour reader s (.packet packet) →
      ∃ i, ¬ Lts.Along (step flavour reader registrations) (FromCloseChain reader registrations)
        (init json registrations nsp) (labels ++ [.packet packet, .work i 0]) := by
  constructor
  · rintro labels hunnamed before label after s s' rfl hs -
    have hsourced : s.Sourced reader registrations := by
      refine Lts.invariant_along (P := Sourced reader registrations) ?_ ?_ hunnamed.before hs
      · intro t label u ht hlabel hu
        exact sourced_step flavour reader registrations ht hlabel (step_cases hu)
      · intro thread hthread
        cases hthread
    exact hsourced.fromCloseChain hreader label
  · intro labels packet s s' hs hstep hnames
    have hread : s.canRead = true := by
      by_contra hno
      simp [step, hno] at hstep
    obtain ⟨t, ht, u, hu, hchain⟩ := not_fromCloseChain hon hread hnames
    refine ⟨s.threads.length, fun halong => hchain ?_⟩
    refine halong (labels ++ [.packet packet]) (.work s.threads.length 0) [] t u (by simp) ?_ hu
    exact Lts.run_concat hs ht

/-- The texts of the reasons are no JSON. -/
theorem integers_reason (reason : CloseReason) :
    FromStr.integers reason.asStr = none := by
  cases reason <;> rfl

/-- The server disconnects the asynchronous client, whose task then calls the close chain. -/
theorem closes_fromChain_disconnect :
    Lts.Along (step .async .integers .all) (FromCloseChain .integers .all)
      (init .integers .all ['/']) [.packet (Packet.disconnect ['/']), .work 0 0] := by
  refine (@closes_fromChain .integers .async .integers .all integers_reason rfl ['/']).1 _ ?_
  refine Lts.Along.cons rfl ?_ (Lts.Along.cons rfl ?_ (Lts.Along.nil _))
  · intro packet hp _ _ hnames
    obtain rfl := Label.packet.inj hp
    cases hnames with
    | text data ev payload payloads htype => cases htype
    | binary data attachment attachments htype => cases htype
  · intro packet hp
    cases hp

/-- The event that the server sends, with the text of a reason for its argument. -/
def closeEvent : Packet where
  packetType := .event
  nsp := ['/']
  data := some (SerdeJson.integers.toString
    (.array [.string "CLOSE".toList, .string "io server disconnect".toList]))
  id := none
  attachmentCount := 0
  attachments := none

theorem not_closes_fromChain :
    ¬ ∀ (flavour : Flavour) (labels : List (Label .integers)),
      Lts.Along (step flavour .integers .all) (FromCloseChain .integers .all)
        (init .integers .all ['/']) labels := by
  intro h
  have hnames : ¬ Unnamed .sync .integers (init .integers .all ['/']) (.packet closeEvent) := by
    intro hunnamed
    refine hunnamed closeEvent rfl rfl rfl ?_
    exact .text _ "CLOSE".toList (.string "io server disconnect".toList) [] rfl rfl
      (FromStr.integers_readsBack _) rfl
  obtain ⟨t, ht, u, hu, hchain⟩ := @not_fromCloseChain _ .sync .integers .all rfl
    (init .integers .all ['/']) closeEvent rfl hnames
  refine hchain (h .sync [.packet closeEvent, .work 0 0] [.packet closeEvent] _ [] t u rfl ?_ hu)
  rw [Lts.run_cons, ht]
  rfl

end Traffic

end TfSocketio.Socketio
