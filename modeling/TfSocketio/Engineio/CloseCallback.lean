/-
# Engineio.CloseCallback — how often the asynchronous socket calls `on_close`.

Three places notice the end of a connection.  `handle_incoming_packet` spawns the callback for every
Close packet it is given; `disconnect` spawns it if the transport is still in its slot; and a missed
ping calls `disconnect`.  The handler leaves the transport where it is, so neither knows of the
other.

The machine is that of the clones of a socket, with any number of tasks in any order, together with
what they spawn; the socket has all its callbacks registered.
-/
import TfSocketio.Engineio.Retirement

namespace TfSocketio.Engineio.Async

/-- A callback that is spawned. -/
inductive Spawn where
  | onOpen
  | onPacket (packet : Packet)
  | onData (data : Bytes)
  | onClose
  deriving DecidableEq, Repr

/-- What a packet spawns: `handle_packet`, and then `handle_data` or `handle_close`. -/
def spawnedBy (packet : Packet) : List Spawn :=
  .onPacket packet ::
    match packet.packetId with
    | .messageBinary => [.onData packet.data]
    | .message => [.onData packet.data]
    | .close => [.onClose]
    | _ => []

/-- The socket, and what its tasks have spawned. -/
structure Notifying where
  socket : AsyncSocket
  spawned : List Spawn

namespace Notifying

open AsyncSocket (Label)

def init : Notifying where
  socket := .init
  spawned := []

/-- What a step spawns. -/
def spawns (socket : AsyncSocket) : Label → List Spawn
  | .connect _ => if socket.transport then [.onOpen] else []
  | .incoming _ packet => spawnedBy packet
  -- `disconnect` returns early if it finds no transport
  | .disconnect _ _ => if socket.transport then [.onClose] else []
  | _ => []

def step (s : Notifying) (label : Label) : Option Notifying :=
  (s.socket.step label).map fun socket =>
    { socket, spawned := s.spawned ++ spawns s.socket label }

/-- How often `on_close` has been spawned. -/
def onCloses (s : Notifying) : Nat := s.spawned.count .onClose

/-- A Close packet is handled. -/
def isClosePacket : Label → Bool
  | .incoming _ packet => packet.packetId = .close
  | _ => false

/-- `disconnect` is called, by a user or after a missed ping. -/
def isDisconnect : Label → Bool
  | .disconnect _ _ => true
  | _ => false

/-- The number of Close packets handled in a run. -/
def closePackets (labels : List Label) : Nat := labels.countP isClosePacket

/-- **One notification.**  `on_close` is spawned at most once, and once if a Close packet was
handled or `disconnect` was called. -/
def NotifiedOnce (labels : List Label) (s : Notifying) : Prop :=
  s.onCloses ≤ 1 ∧ (labels.any isClosePacket ∨ labels.any isDisconnect → s.onCloses = 1)

/-! ## The account of the notifications -/

theorem step_eq_some {s s' : Notifying} {label : Label} (h : step s label = some s') :
    s.socket.step label = some s'.socket ∧
      s'.spawned = s.spawned ++ spawns s.socket label := by
  obtain ⟨socket, hsocket, rfl⟩ := Option.map_eq_some_iff.mp h
  exact ⟨hsocket, rfl⟩

/-- The slot after a step. -/
theorem step_transport {s s' : AsyncSocket} {label : Label} (h : s.step label = some s') :
    s'.transport = (s.transport && !isDisconnect label) := by
  cases label with
  | disconnect i granted =>
      show s'.transport = (s.transport && false)
      rw [Bool.and_false]
      exact AsyncSocket.disconnect_empties h
  | _ =>
      show s'.transport = (s.transport && true)
      rw [Bool.and_true]
      simpa using AsyncSocket.step_slot h

/-- The slot is full until the first `disconnect`. -/
theorem run_transport {labels : List Label} {s s' : Notifying}
    (h : Lts.run step s labels = some s') :
    s'.socket.transport = (s.socket.transport && !labels.any isDisconnect) := by
  induction labels generalizing s with
  | nil =>
      obtain rfl := Option.some.inj h
      simp
  | cons label labels ih =>
      rw [Lts.run_cons] at h
      obtain ⟨t, ht, h⟩ := Option.bind_eq_some_iff.mp h
      rw [ih h, step_transport (step_eq_some ht).1, List.any_cons, Bool.not_or, Bool.and_assoc]

/-- The notifications still to come of the transport in the slot. -/
def owed (s : Notifying) : Nat := if s.socket.transport then 1 else 0

theorem count_spawnedBy (packet : Packet) :
    (spawnedBy packet).count .onClose = if packet.packetId = .close then 1 else 0 := by
  unfold spawnedBy
  cases packet.packetId <;> rfl

/-- A Close packet adds a notification; a `disconnect` gives the one that the transport owes. -/
theorem account_step {s s' : Notifying} {label : Label} (h : step s label = some s') :
    s'.onCloses + s'.owed = s.onCloses + s.owed + if isClosePacket label then 1 else 0 := by
  obtain ⟨hsocket, hspawned⟩ := step_eq_some h
  have htransport := step_transport hsocket
  unfold onCloses owed
  rw [hspawned, htransport, List.count_append]
  cases label with
  | connect i =>
      unfold spawns
      cases s.socket.transport <;> simp [isDisconnect, isClosePacket]
  | incoming i packet =>
      show _ + (spawnedBy packet).count .onClose + _ = _
      rw [count_spawnedBy]
      simp only [isDisconnect, isClosePacket, Bool.not_false, Bool.and_true, decide_eq_true_eq]
      omega
  | disconnect i granted =>
      unfold spawns
      cases s.socket.transport <;> simp [isDisconnect, isClosePacket]
  | _ => simp [spawns, isDisconnect, isClosePacket]

/-- A run spawns `on_close` once for each Close packet, and once if `disconnect` was called. -/
theorem onCloses_run {labels : List Label} {s : Notifying}
    (h : Lts.run step init labels = some s) :
    s.onCloses = closePackets labels + if labels.any isDisconnect then 1 else 0 := by
  have haccount : s.onCloses + s.owed = init.onCloses + init.owed + closePackets labels :=
    @Lts.account _ _ step (fun s => s.onCloses + s.owed) isClosePacket
      (fun _ _ _ hstep => account_step hstep) _ _ _ h
  have howed : s.owed = if labels.any isDisconnect then 0 else 1 := by
    unfold owed
    rw [run_transport h]
    show (if (true && !labels.any isDisconnect) = true then 1 else 0) = _
    cases labels.any isDisconnect <;> rfl
  have hstart : init.onCloses + init.owed = 1 := rfl
  rw [howed, hstart] at haccount
  split at haccount
  · rename_i hdisconnect
    rw [if_pos hdisconnect]
    omega
  · rename_i hdisconnect
    rw [if_neg hdisconnect]
    omega

/-- **When `on_close` is spawned once.**  No Close packet is handled; or one is, and nobody calls
`disconnect`. -/
theorem notifiedOnce_iff {labels : List Label} {s : Notifying}
    (h : Lts.run step init labels = some s) :
    NotifiedOnce labels s ↔
      closePackets labels = 0 ∨ closePackets labels = 1 ∧ labels.any isDisconnect = false := by
  have hcount := onCloses_run h
  have hclose : labels.any isClosePacket = true ↔ 0 < closePackets labels := by
    rw [closePackets, List.countP_pos_iff, List.any_eq_true]
  unfold NotifiedOnce
  rw [hcount, hclose]
  cases labels.any isDisconnect with
  | true =>
      simp only [if_true, or_true, true_imp_iff, Bool.true_eq_false, and_false, or_false]
      omega
  | false =>
      simp only [Bool.false_eq_true, if_false, or_false, and_true]
      omega

/-- A connection: the first pong goes out. -/
def connecting : List Label := [.connect 0, .poll 0 true, .sent 0 (.ok ())]

/-- The server closes the connection. -/
theorem notifiedOnce_closed : ∃ s,
    Lts.run step init (connecting ++ [.incoming 0 closePacket]) = some s ∧
      NotifiedOnce (connecting ++ [.incoming 0 closePacket]) s :=
  ⟨_, rfl, (@notifiedOnce_iff (connecting ++ [.incoming 0 closePacket]) _ rfl).mpr (by decide)⟩

/-- The server closes the connection, and then the user disconnects. -/
theorem notified_twice :
    ¬ ∀ (labels : List Label) (s : Notifying), Lts.run step init labels = some s →
      NotifiedOnce labels s := by
  intro h
  have honce := h (connecting ++ [.incoming 0 closePacket, .disconnect 0 true]) _ rfl
  exact absurd honce.1 (by decide)

end Notifying

end TfSocketio.Engineio.Async
