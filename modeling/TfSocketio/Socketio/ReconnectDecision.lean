/-
# Socketio.ReconnectDecision — whether the two clients reconnect after the same session.

A `Session` is what the transport delivers and how it ends.  The poll thread of the synchronous
client reads it as engine.io packets, the reader of the asynchronous client as the items of its
stream, which is over after the first error.  `sync_startsReconnect_iff` and
`async_startsReconnect_iff` say when each of them starts to reconnect, and `decisions_agree_iff`
when they decide alike.
-/
import TfSocketio.Socketio.AsyncDecision
import TfSocketio.Socketio.SyncDecision

namespace TfSocketio.Socketio

/-! ## A session -/

/-- What the transport delivers. -/
inductive Sent where
  /-- An engine.io packet; `decoded` is what its data reads as, if it is a socket.io packet. -/
  | frame (packetId : Engineio.PacketId) (decoded : Option Packet)
  /-- An empty websocket message. -/
  | empty

/-- How a session ends. -/
inductive Ending where
  /-- It does not: the connection stays up. -/
  | «open»
  /-- The transport has no more to deliver. -/
  | finished
  /-- The transport fails, or delivers what is no engine.io payload, or a ping is missed. -/
  | failed (ping : Bool)
  deriving DecidableEq

structure Session where
  sent : List Sent
  ending : Ending

/-- What a message, or an attachment, is to a socket that waits for these attachments. -/
inductive Message where
  | packet (packet : Packet)
  /-- There are attachments to come. -/
  | part (packet : Packet) (left : Nat)
  | undecodable

def readMessage (header : Sync.Header) (decoded : Option Packet) : Message :=
  match header, decoded with
  | some (packet, left), _ => if left ≤ 1 then .packet packet else .part packet (left - 1)
  | none, none => .undecodable
  | none, some packet =>
      if 0 < packet.attachmentCount then .part packet packet.attachmentCount.toNat
      else .packet packet

namespace Session

def sentFeeds : Sent → List Sync.Feed
  | .frame packetId decoded => [.frame packetId decoded]
  -- the loop of the engine.io socket goes on
  | .empty => []

/-- That a websocket has no more to deliver is an error as well. -/
def endingFeeds : Ending → List Sync.Feed
  | .open => []
  | .finished => [.error]
  | .failed _ => [.error]

/-- The session, as the poll thread reads it. -/
def syncFeeds (session : Session) : List Sync.Feed :=
  session.sent.flatMap sentFeeds ++ endingFeeds session.ending

/-- The packets that the poll thread reads.  What cannot be read is skipped, and so is a packet
among whose attachments another engine.io packet stands. -/
def polled : Sync.Header → List Sent → List Packet
  | _, [] => []
  | header, .empty :: rest => polled header rest
  | header, .frame packetId decoded :: rest =>
      match packetId with
      | .message | .messageBinary =>
          match readMessage header decoded with
          | .packet packet => packet :: polled none rest
          | .part packet left => polled (some (packet, left)) rest
          | .undecodable => polled none rest
      | .ping | .upgrade | .noop => polled none rest
      -- nothing is read any more
      | .close | .open | .pong => []

/-- What the stream yields when the transport is at its end. -/
def endingItems (header : Sync.Header) : Ending → List Async.Feed
  | .open => []
  | .finished => if header.isSome then [.streamPanic] else [.streamEnd]
  | .failed ping => if ping then [.pingTimeout, .error, .streamEnd] else [.error, .streamEnd]

/-- An engine.io packet that carries no data: in the place of an attachment it is an error. -/
def skipItem (header : Sync.Header) (rest : List Async.Feed) : List Async.Feed :=
  if header.isSome then [.error, .streamEnd] else rest

/-- What the stream of the asynchronous client yields, as long as it waits for these attachments and
engine.io is connected or not. -/
def items (ending : Ending) : Sync.Header → Bool → List Sent → List Async.Feed
  | header, _, [] => endingItems header ending
  | _, _, .empty :: _ => [.error, .streamEnd]
  | header, engineConnected, .frame packetId decoded :: rest =>
      match packetId with
      | .message | .messageBinary =>
          match readMessage header decoded with
          | .packet packet => .packet packet :: items ending none engineConnected rest
          | .part packet left => items ending (some (packet, left)) engineConnected rest
          | .undecodable => [.error, .streamEnd]
      | .close => .engineClose :: skipItem header (items ending none false rest)
      -- behind a Close no pong can be sent
      | .ping =>
          if engineConnected then skipItem header (items ending none engineConnected rest)
          else [.error, .streamEnd]
      | .upgrade | .noop => skipItem header (items ending none engineConnected rest)
      | .open | .pong => [.error, .streamEnd]

/-- The session, as the reader of the asynchronous client reads it. -/
def asyncFeeds (session : Session) : List Async.Feed := items session.ending none true session.sent

/-- The packets that the stream yields. -/
def streamed (feeds : List Async.Feed) : List Packet :=
  feeds.filterMap fun
    | .packet packet => some packet
    | _ => none

/-- One of the packets disconnects the client's namespace. -/
def Disconnects (cfg : Config) (packets : List Packet) : Prop :=
  ∃ packet ∈ packets, packet.nsp = cfg.nsp ∧ packet.packetType = .disconnect

/-- The poll thread gets to the end of the connection: no engine.io packet stops it before. -/
def Fails (session : Session) : Prop :=
  session.ending ≠ .open ∧ ∀ decoded, ∀ packetId ∈ [.close, .open, .pong],
    .frame packetId decoded ∉ session.sent

/-- `disconnect_reason` after the packets: `Server` if the last `Connect` or `Disconnect` of the
namespace is a `Disconnect`. -/
def lastReason (cfg : Config) (reason : Async.DisconnectReason) (packets : List Packet) :
    Async.DisconnectReason :=
  packets.foldl (Async.reasonAfter cfg) reason

/-! ## What the two clients make of it -/

section Sync

open Sync

/-- The poll thread gets to the end of the connection, through these. -/
def Unstopped (ending : Ending) (sent : List Sent) : Prop := Fails ⟨sent, ending⟩

theorem unstopped_empty {ending : Ending} {sent : List Sent} :
    Unstopped ending (.empty :: sent) ↔ Unstopped ending sent := by
  simp [Unstopped, Fails]

theorem unstopped_frame {ending : Ending} {sent : List Sent} {packetId : Engineio.PacketId}
    {decoded : Option Packet} (h : packetId ∉ [.close, .open, .pong]) :
    Unstopped ending (.frame packetId decoded :: sent) ↔ Unstopped ending sent := by
  simp only [Unstopped, Fails, List.mem_cons, not_or, Sent.frame.injEq]
  refine and_congr_right fun _ => ⟨fun hall decoded' packetId' hmem => ?_,
    fun hall decoded' packetId' hmem => ?_⟩
  · exact (hall decoded' packetId' hmem).2
  · refine ⟨?_, hall decoded' packetId' hmem⟩
    rintro ⟨rfl, -⟩
    exact h (by simpa using hmem)

theorem not_unstopped {ending : Ending} {sent : List Sent} {packetId : Engineio.PacketId}
    {decoded : Option Packet} (h : packetId ∈ [.close, .open, .pong]) :
    ¬ Unstopped ending (.frame packetId decoded :: sent) := by
  rintro ⟨-, hall⟩
  exact hall decoded packetId h List.mem_cons_self

/-- A message, to the poll thread. -/
theorem leads_message (cfg : Config) (header : Header) {packetId : Engineio.PacketId}
    (hid : packetId = .message ∨ packetId = .messageBinary) (decoded : Option Packet)
    (rest : List Feed) : leads cfg header (.frame packetId decoded :: rest) =
      match readMessage header decoded with
      | .packet packet => reacts cfg packet || leads cfg none rest
      | .part packet left => leads cfg (some (packet, left)) rest
      | .undecodable => leads cfg none rest := by
  have hmessage : leads cfg header (.frame packetId decoded :: rest) =
      leads cfg header (.frame .message decoded :: rest) := by
    rcases hid with rfl | rfl <;> rfl
  rw [hmessage]
  cases header with
  | some pending =>
      obtain ⟨packet, left⟩ := pending
      simp only [leads, readMessage]
      split <;> rfl
  | none =>
      cases decoded with
      | none => rfl
      | some packet =>
          simp only [leads, readMessage]
          split <;> rfl

theorem polled_message (header : Header) {packetId : Engineio.PacketId}
    (hid : packetId = .message ∨ packetId = .messageBinary) (decoded : Option Packet)
    (rest : List Sent) : polled header (.frame packetId decoded :: rest) =
      match readMessage header decoded with
      | .packet packet => packet :: polled none rest
      | .part packet left => polled (some (packet, left)) rest
      | .undecodable => polled none rest := by
  rcases hid with rfl | rfl <;> rfl

/-- What the poll thread reads leads to a reconnect at a packet, or at the end. -/
theorem leads_iff (cfg : Config) (ending : Ending) (header : Header) (sent : List Sent) :
    leads cfg header (sent.flatMap sentFeeds ++ endingFeeds ending) = true ↔
      (∃ packet ∈ polled header sent, reacts cfg packet = true) ∨ Unstopped ending sent := by
  induction sent generalizing header with
  | nil => cases ending <;> simp [endingFeeds, leads, polled, Unstopped, Fails]
  | cons item sent ih =>
      cases item with
      | empty =>
          rw [unstopped_empty]
          exact ih header
      | frame packetId decoded =>
          have hmessage : packetId = .message ∨ packetId = .messageBinary →
              (leads cfg header (.frame packetId decoded ::
                  (sent.flatMap sentFeeds ++ endingFeeds ending)) = true ↔
                (∃ packet ∈ polled header (.frame packetId decoded :: sent),
                    reacts cfg packet = true) ∨
                  Unstopped ending (.frame packetId decoded :: sent)) := by
            intro hid
            have hgoesOn : packetId ∉ [.close, .open, .pong] := by
              rcases hid with rfl | rfl <;> simp
            rw [leads_message cfg header hid, polled_message header hid, unstopped_frame hgoesOn]
            cases readMessage header decoded with
            | packet packet =>
                simp only [Bool.or_eq_true, ih, List.mem_cons, exists_eq_or_imp, or_assoc]
            | part packet left => exact ih _
            | undecodable => exact ih none
          show leads cfg header (.frame packetId decoded ::
            (sent.flatMap sentFeeds ++ endingFeeds ending)) = true ↔ _
          cases packetId with
          | message => exact hmessage (.inl rfl)
          | messageBinary => exact hmessage (.inr rfl)
          | ping =>
              rw [unstopped_frame (by simp)]
              exact ih none
          | upgrade =>
              rw [unstopped_frame (by simp)]
              exact ih none
          | noop =>
              rw [unstopped_frame (by simp)]
              exact ih none
          | close =>
              have hstopped : ¬ Unstopped ending (.frame .close decoded :: sent) :=
                not_unstopped (by simp)
              simp [leads, polled, hstopped]
          | «open» =>
              have hstopped : ¬ Unstopped ending (.frame .open decoded :: sent) :=
                not_unstopped (by simp)
              simp [leads, polled, hstopped]
          | pong =>
              have hstopped : ¬ Unstopped ending (.frame .pong decoded :: sent) :=
                not_unstopped (by simp)
              simp [leads, polled, hstopped]

theorem noUser_syncFeeds (session : Session) : .user ∉ session.syncFeeds := by
  intro hmem
  simp only [syncFeeds, List.mem_append, List.mem_flatMap] at hmem
  rcases hmem with ⟨item, -, hmem⟩ | hmem
  · cases item <;> simp [sentFeeds] at hmem
  · cases hending : session.ending <;> simp [hending, endingFeeds] at hmem

/-- **The synchronous client** reconnects at a Disconnect packet, or after an engine.io error. -/
theorem sync_startsReconnect_iff {cfg : Config} (hcfg : cfg.reconnect = true) {s : Sync.Client}
    (hs : s.Opened) (session : Session) : Sync.StartsReconnect cfg s session.syncFeeds ↔
      cfg.reconnectOnDisconnect = true ∧ Disconnects cfg (polled none session.sent) ∨
        session.Fails := by
  rw [Sync.startsReconnect_iff hcfg hs session.noUser_syncFeeds, syncFeeds, leads_iff]
  refine or_congr ?_ Iff.rfl
  simp only [Sync.reacts, Sync.shouldReconnect, Bool.and_eq_true, decide_eq_true_eq, Disconnects]
  constructor
  · rintro ⟨packet, hpacket, hnsp, htype, hcfg⟩
    exact ⟨hcfg, packet, hpacket, hnsp, htype⟩
  · rintro ⟨hcfg, packet, hpacket, hnsp, htype⟩
    exact ⟨packet, hpacket, hnsp, htype, hcfg⟩

end Sync

section Async

open Async

/-- What the reader makes of these items: it decides at the end of the stream. -/
def DecidesAtEnd (cfg : Config) (feeds : List Feed) : Prop :=
  ∀ reason, leads cfg reason true feeds = true ↔
    .streamEnd ∈ feeds ∧ shouldReconnect cfg (lastReason cfg reason (streamed feeds)) = true

theorem DecidesAtEnd.packet {cfg : Config} {feeds : List Feed} (h : DecidesAtEnd cfg feeds)
    (packet : Packet) : DecidesAtEnd cfg (.packet packet :: feeds) := by
  intro reason
  have hrest := h (reasonAfter cfg reason packet)
  simpa [leads, streamed, lastReason] using hrest

theorem DecidesAtEnd.engineClose {cfg : Config} {feeds : List Feed} (h : DecidesAtEnd cfg feeds) :
    DecidesAtEnd cfg (.engineClose :: feeds) := by
  intro reason
  simpa [leads, streamed] using h reason

theorem decidesAtEnd_error (cfg : Config) : DecidesAtEnd cfg [.error, .streamEnd] := by
  intro reason
  simp [leads, streamed, lastReason]

theorem decidesAtEnd_endingItems (cfg : Config) (header : Sync.Header) (ending : Ending) :
    DecidesAtEnd cfg (endingItems header ending) := by
  intro reason
  cases ending with
  | «open» => simp [endingItems, leads]
  | finished => cases header <;> simp [endingItems, leads, streamed, lastReason]
  | failed ping => cases ping <;> simp [endingItems, leads, streamed, lastReason]

theorem DecidesAtEnd.skip {cfg : Config} {feeds : List Feed} (h : DecidesAtEnd cfg feeds)
    (header : Sync.Header) : DecidesAtEnd cfg (skipItem header feeds) := by
  cases header with
  | none => exact h
  | some pending => exact decidesAtEnd_error cfg

theorem items_message (ending : Ending) (header : Sync.Header) (engineConnected : Bool)
    {packetId : Engineio.PacketId} (hid : packetId = .message ∨ packetId = .messageBinary)
    (decoded : Option Packet) (rest : List Sent) :
    items ending header engineConnected (.frame packetId decoded :: rest) =
      match readMessage header decoded with
      | .packet packet => .packet packet :: items ending none engineConnected rest
      | .part packet left => items ending (some (packet, left)) engineConnected rest
      | .undecodable => [.error, .streamEnd] := by
  rcases hid with rfl | rfl <;> rfl

theorem decidesAtEnd_items (cfg : Config) (ending : Ending) (header : Sync.Header)
    (engineConnected : Bool) (sent : List Sent) :
    DecidesAtEnd cfg (items ending header engineConnected sent) := by
  induction sent generalizing header engineConnected with
  | nil => exact decidesAtEnd_endingItems cfg header ending
  | cons item sent ih =>
      cases item with
      | empty => exact decidesAtEnd_error cfg
      | frame packetId decoded =>
          have hmessage : packetId = .message ∨ packetId = .messageBinary →
              DecidesAtEnd cfg
                (items ending header engineConnected (.frame packetId decoded :: sent)) := by
            intro hid
            rw [items_message ending header engineConnected hid]
            cases readMessage header decoded with
            | packet packet => exact (ih none engineConnected).packet packet
            | part packet left => exact ih _ engineConnected
            | undecodable => exact decidesAtEnd_error cfg
          cases packetId with
          | message => exact hmessage (.inl rfl)
          | messageBinary => exact hmessage (.inr rfl)
          | close => exact ((ih none false).skip header).engineClose
          | ping =>
              cases engineConnected with
              | true => exact (ih none true).skip header
              | false => exact decidesAtEnd_error cfg
          | upgrade => exact (ih none engineConnected).skip header
          | noop => exact (ih none engineConnected).skip header
          | «open» => exact decidesAtEnd_error cfg
          | pong => exact decidesAtEnd_error cfg

theorem lastReason_ne_manual {cfg : Config} {reason : DisconnectReason} (h : reason ≠ .manual)
    (packets : List Packet) : lastReason cfg reason packets ≠ .manual := by
  unfold lastReason
  induction packets generalizing reason with
  | nil => exact h
  | cons packet packets ih => exact ih (reasonAfter_ne_manual h packet)

/-- **The asynchronous client** reconnects at the end of the stream, unless the last it heard is
that the server disconnects, and it does not reconnect on that. -/
theorem async_startsReconnect_iff {cfg : Config} (hcfg : cfg.reconnect = true) {c : Async.Client}
    (hc : c.Opened cfg) (session : Session) : Async.StartsReconnect cfg c session.asyncFeeds ↔
      .streamEnd ∈ session.asyncFeeds ∧
        (lastReason cfg c.reason (streamed session.asyncFeeds) = .server →
          cfg.reconnectOnDisconnect = true) := by
  have hm : lastReason cfg c.reason (streamed session.asyncFeeds) ≠ .manual := by
    apply lastReason_ne_manual
    rcases hc.reason with hreason | ⟨hreason, -⟩ <;> simp [hreason]
  have hshould : Async.shouldReconnect cfg
      (lastReason cfg c.reason (streamed session.asyncFeeds)) = true ↔
        (lastReason cfg c.reason (streamed session.asyncFeeds) = .server →
          cfg.reconnectOnDisconnect = true) := by
    cases hlast : lastReason cfg c.reason (streamed session.asyncFeeds) with
    | unknown => simp [Async.shouldReconnect, hcfg]
    | manual => exact absurd hlast hm
    | server => simp [Async.shouldReconnect]
  rw [Async.startsReconnect_iff hc, ← hshould]
  exact decidesAtEnd_items cfg session.ending none true session.sent c.reason

end Async

/-- The sessions on which the clients agree.  As long as its stream goes on, or if its reader dies,
only the synchronous client reconnects.  Once the stream is over, the synchronous one has to see a
failure or a Disconnect, and with `reconnect_on_disconnect` off, the failure only if the
asynchronous one has not heard last that the server disconnects. -/
def Agreed (cfg : Config) (reason : Async.DisconnectReason) (session : Session) : Prop :=
  (.streamEnd ∈ session.asyncFeeds →
    if cfg.reconnectOnDisconnect = true then
      session.Fails ∨ Disconnects cfg (polled none session.sent)
    else session.Fails ↔ lastReason cfg reason (streamed session.asyncFeeds) ≠ .server) ∧
  (.streamEnd ∉ session.asyncFeeds →
    ¬ session.Fails ∧
      ¬ (cfg.reconnectOnDisconnect = true ∧ Disconnects cfg (polled none session.sent)))

/-- **When the two clients decide alike.** -/
theorem decisions_agree_iff {cfg : Config} (hcfg : cfg.reconnect = true) {s : Sync.Client}
    (hs : s.Opened) {c : Async.Client} (hc : c.Opened cfg) (session : Session) :
    (Sync.StartsReconnect cfg s session.syncFeeds ↔
        Async.StartsReconnect cfg c session.asyncFeeds) ↔ session.Agreed cfg c.reason := by
  rw [sync_startsReconnect_iff hcfg hs, async_startsReconnect_iff hcfg hc, Agreed]
  by_cases hend : .streamEnd ∈ session.asyncFeeds
  · cases hd : cfg.reconnectOnDisconnect with
    | true => simp [hend, or_comm]
    | false => simp [hend]
  · simp [hend, and_comm]

theorem opened_init : Sync.Client.init.Opened ∧
    ∀ cfg onReconnect, (Async.Client.init onReconnect).Opened cfg :=
  ⟨⟨rfl, rfl, rfl⟩, fun _ _ => ⟨rfl, rfl, .inl rfl⟩⟩

/-- A message and a ping, and the connection fails. -/
def failing : Session :=
  ⟨[.frame .message (some ⟨.event, ['/'], none, none, 0, none⟩), .frame .ping none], .failed false⟩

/-- Both clients reconnect. -/
theorem decisions_agree_failing :
    Sync.StartsReconnect Config.new .init failing.syncFeeds ↔
      Async.StartsReconnect Config.new (.init false) failing.asyncFeeds := by
  refine (decisions_agree_iff rfl opened_init.1 (opened_init.2 Config.new false) failing).mpr ?_
  have hfails : failing.Fails := ⟨by simp [failing], by simp [failing]⟩
  have hends : .streamEnd ∈ failing.asyncFeeds := .tail _ (.tail _ (.head _))
  exact ⟨fun _ => iff_of_true hfails (by decide), fun hgoesOn => absurd hends hgoesOn⟩

/-- A Close packet, and the end of the connection. -/
def closing : Session := ⟨[.frame .close none], .finished⟩

/-- Only the asynchronous client reconnects. -/
theorem close_disagrees :
    ¬ Sync.StartsReconnect Config.new .init closing.syncFeeds ∧
      Async.StartsReconnect Config.new (.init false) closing.asyncFeeds := by
  constructor
  · rw [sync_startsReconnect_iff rfl opened_init.1]
    rintro (⟨-, packet, hpacket, -⟩ | ⟨-, hall⟩)
    · simp [closing, polled] at hpacket
    · exact hall none .close (by simp) (by simp [closing])
  · rw [async_startsReconnect_iff rfl (opened_init.2 Config.new false)]
    exact ⟨.tail _ (.head _), fun _ => by contradiction⟩

end Session

end TfSocketio.Socketio
