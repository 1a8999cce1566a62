/-
# Engineio.PingTimeout — when the asynchronous client gives a connection up.

`as_stream` waits for the next packet as long as `time_to_next_ping` allows at the moment it is
asked, and then disconnects and reports that the pings have stopped.  A ping counts from the moment
it is handled, and other packets do not count.  `watch` is a run of the stream against the clock:
packets with the instants at which they arrive, and a user who asks for them at a pace of its own.

`watch_detects` says that the clock shows in nothing else: what is handed out are the turns of
`react`, and a server whose pings come in time is never given up, however slow the user is.

Emits succeed, as in `react`, and the milliseconds of an instant fit into 64 bits.
-/
import TfSocketio.Engineio.Client
import TfSocketio.Engineio.Heartbeat

namespace TfSocketio.Engineio

/-! ## Waiting for a packet -/

/-- The later of two instants. -/
def Instant.later (a b : Instant) : Instant := if a.nanos ≤ b.nanos then b else a

/-- The milliseconds of the instant fit into a `u64`. -/
def Instant.Early (t : Instant) : Prop := t.nanos < 2 ^ 64 * 1000000

/-- When a wait that begins now is over, in nanoseconds. -/
def Heartbeat.deadline (s : Heartbeat) (now : Instant) : Nat :=
  now.nanos + (Heartbeat.Async.timeToNextPing s now).toNat * 1000000

/-- What the bound allows, in nanoseconds. -/
def Heartbeat.bound (s : Heartbeat) : Nat := s.maxPingTimeout.toNat * 1000000

/-- The heartbeat behind a packet: only a ping counts. -/
def Heartbeat.heard (s : Heartbeat) (packet : Packet) (now : Instant) : Heartbeat :=
  if packet.packetId = .ping then s.pinged now else s

/-- A packet, or an error, with the instant at which the transport's stream has it. -/
abbrev Arrivals := List (Instant × Except Error Packet)

/-- A run of the stream: the turns with their instants, the heartbeat and the instant of the last
call, and when that call gave the connection up, if it did. -/
structure Watched where
  turns : List (Turn × Instant)
  heartbeat : Heartbeat
  asked : Instant
  gaveUp : Option Nat

/-- The run behind one more turn. -/
def Watched.behind (turn : Turn) (time : Instant) (w : Watched) : Watched :=
  { w with turns := (turn, time) :: w.turns }

def Report.isPing : Report → Bool
  | .packet received => received.packetId = .ping
  | _ => false

def isPing : Except Error Packet → Bool
  | .ok packet => packet.packetId = .ping
  | .error _ => false

/-- The instants at which pings were handled. -/
def pingTimes (turns : List (Turn × Instant)) : List Instant :=
  (turns.filter fun turn => turn.1.report.isPing).map Prod.snd

/-- Each item arrives within the bound of the latest ping in front of it. -/
def Alive (bound : Nat) : Nat → Arrivals → Prop
  | _, [] => True
  | lastPing, (arrival, item) :: arrivals =>
      arrival.nanos ≤ lastPing + bound ∧
        Alive bound (if isPing item then arrival.nanos else lastPing) arrivals

/-- **The stream gives up dead connections and no others.** -/
structure Detects (s : Heartbeat) (arrivals : Arrivals) (w : Watched) : Prop where
  /-- What is handed out is as without a clock, and nothing of it is lost. -/
  turns : w.turns.map Prod.fst <+: react (.error .invalidPacket) (arrivals.map Prod.snd)
  ended : w.gaveUp = none →
    w.turns.map Prod.fst = react (.error .invalidPacket) (arrivals.map Prod.snd)
  /-- The heartbeat knows the pings that were handled. -/
  heartbeat : w.heartbeat = s.afterPings (pingTimes w.turns)
  /-- When the connection is given up there is nothing to read, -/
  silent : ∀ time, w.gaveUp = some time →
    ∀ next ∈ arrivals[w.turns.length]?, time < next.1.nanos
  /-- the last ping is too long ago, -/
  late : ∀ time, w.gaveUp = some time →
    w.heartbeat.lastPing.nanos + w.heartbeat.bound ≤ time
  /-- and it is found out within a millisecond, or as soon as the user asks. -/
  soon : ∀ time, w.gaveUp = some time → time ≤ w.asked.nanos ∨
    time < w.heartbeat.lastPing.nanos + w.heartbeat.bound + 1000000
  /-- If all pings come in time, everything is read before. -/
  alive : Alive s.bound s.lastPing.nanos arrivals → w.gaveUp ≠ none →
    w.turns.length = arrivals.length

/-! ## One wait -/

section Wait

variable {s : Heartbeat} {now : Instant}

/-- A wait is over when the bound is, give or take a millisecond, or at once if that has passed. -/
theorem Heartbeat.deadline_spec (hping : s.lastPing.nanos ≤ now.nanos) (hnow : now.Early) :
    now.nanos ≤ s.deadline now ∧ s.lastPing.nanos + s.bound ≤ s.deadline now ∧
      (s.deadline now ≤ now.nanos ∨ s.deadline now < s.lastPing.nanos + s.bound + 1000000) := by
  have hearly : now.nanos < 2 ^ 64 * 1000000 := hnow
  have hleft : (Heartbeat.Async.timeToNextPing s now).toNat =
      s.maxPingTimeout.toNat - (now.nanos - s.lastPing.nanos) / 1000000 := by
    rw [Heartbeat.timeToNextPing_async, Heartbeat.toNat_timeToNextPing s now hping,
      Instant.millisSince, Nat.mod_eq_of_lt (by omega)]
  unfold Heartbeat.deadline Heartbeat.bound
  rw [hleft]
  omega

theorem Heartbeat.heard_bound (packet : Packet) (time : Instant) :
    (s.heard packet time).bound = s.bound := by
  unfold Heartbeat.heard
  split
  · rfl
  · rfl

theorem Heartbeat.heard_lastPing (packet : Packet) (time : Instant) :
    (s.heard packet time).lastPing =
      if packet.packetId = .ping then time else s.lastPing := by
  unfold Heartbeat.heard
  split
  · rfl
  · rfl

theorem Heartbeat.afterPings_cons (s : Heartbeat) (ping : Instant) (pings : List Instant) :
    s.afterPings (ping :: pings) = (s.pinged ping).afterPings pings := rfl

/-- A turn that goes on has reported the packet. -/
theorem Connection.report_of_goesOn {packet : Packet} {e : Error}
    (h : (Connection.handle (.error e) ⟨true, []⟩ packet).1.goesOn = true) :
    (Connection.handle (.error e) ⟨true, []⟩ packet).1.report = .packet packet := by
  obtain ⟨packetId, data⟩ := packet
  cases packetId <;> first | rfl | simp [Connection.handle, Turn.goesOn] at h

end Wait

/-! ## Whole runs -/

section Run

variable {asks : Nat → Instant}

theorem Alive.mono {bound lastPing lastPing' : Nat} {arrivals : Arrivals}
    (h : Alive bound lastPing arrivals) (hle : lastPing ≤ lastPing') :
    Alive bound lastPing' arrivals := by
  induction arrivals generalizing lastPing lastPing' with
  | nil => exact trivial
  | cons arrival arrivals ih =>
      obtain ⟨hfirst, hrest⟩ := h
      refine ⟨by omega, ?_⟩
      split
      · rename_i hping
        rwa [if_pos hping] at hrest
      · rename_i hping
        rw [if_neg hping] at hrest
        exact ih hrest hle

/-- The first packet is read, and the others are read behind it. -/
theorem Detects.behind {s : Heartbeat} {packet : Packet} {arrival time : Instant}
    {arrivals : Arrivals} {w : Watched}
    (hgo : (Connection.handle (.error .invalidPacket) ⟨true, []⟩ packet).1.goesOn = true)
    (htime : arrival.nanos ≤ time.nanos) (h : Detects (s.heard packet time) arrivals w) :
    Detects s ((arrival, .ok packet) :: arrivals)
      (w.behind (Connection.handle (.error .invalidPacket) ⟨true, []⟩ packet).1 time) := by
  have hreport := Connection.report_of_goesOn hgo
  have hreact : react (.error .invalidPacket) (((arrival, .ok packet) :: arrivals).map Prod.snd) =
      (Connection.handle (.error .invalidPacket) ⟨true, []⟩ packet).1 ::
        react (.error .invalidPacket) (arrivals.map Prod.snd) := by
    rw [List.map_cons, react]
    exact if_pos hgo
  have hbound := @Heartbeat.heard_bound s packet time
  constructor
  · rw [hreact]
    exact List.cons_prefix_cons.mpr ⟨rfl, h.turns⟩
  · intro hended
    rw [hreact]
    exact congrArg _ (h.ended hended)
  · have hheartbeat := h.heartbeat
    rw [Heartbeat.heard] at hheartbeat
    have hping : (Connection.handle (.error .invalidPacket) ⟨true, []⟩ packet).1.report.isPing =
        decide (packet.packetId = .ping) := by
      rw [hreport]
      rfl
    by_cases hid : packet.packetId = .ping
    · rw [if_pos hid] at hheartbeat
      simpa [Watched.behind, pingTimes, hping, hid, Heartbeat.afterPings_cons] using hheartbeat
    · rw [if_neg hid] at hheartbeat
      simpa [Watched.behind, pingTimes, hping, hid] using hheartbeat
  · intro last hgave
    simpa [Watched.behind] using h.silent last hgave
  · exact h.late
  · exact h.soon
  · intro halive hgave
    have hrest : Alive (s.heard packet time).bound (s.heard packet time).lastPing.nanos
        arrivals := by
      rw [hbound, Heartbeat.heard_lastPing]
      apply halive.2.mono
      -- a ping counts from when it is handled, and that is no sooner than it arrived
      by_cases hid : packet.packetId = .ping
      · simp [isPing, hid, htime]
      · simp [isPing, hid]
    exact congrArg (· + 1) (h.alive hrest hgave)

/-- A turn that is no ping and ends the run. -/
theorem Detects.last {s : Heartbeat} {turn : Turn} {arrivals : Arrivals}
    (hreact : react (.error .invalidPacket) (arrivals.map Prod.snd) = [turn])
    (hping : turn.report.isPing = false) (time asked : Instant) :
    Detects s arrivals ⟨[(turn, time)], s, asked, none⟩ := by
  constructor
  · rw [hreact]
    exact List.prefix_rfl
  · intro _
    exact hreact.symm
  · simp [pingTimes, hping, Heartbeat.afterPings]
  · intro _ hgave
    cases hgave
  · intro _ hgave
    cases hgave
  · intro _ hgave
    cases hgave
  · intro _ hgave
    exact absurd rfl hgave

/-- A wait that is over with nothing read. -/
theorem Detects.timeout {s : Heartbeat} {asked : Instant} {arrivals : Arrivals}
    (hping : s.lastPing.nanos ≤ asked.nanos) (hasked : asked.Early)
    (hsilent : ∀ next ∈ arrivals[0]?, s.deadline asked < next.1.nanos) :
    Detects s arrivals ⟨[], s, asked, some (s.deadline asked)⟩ := by
  obtain ⟨-, hlate, hsoon⟩ := Heartbeat.deadline_spec hping hasked
  constructor
  · exact List.nil_prefix
  · intro hended
    cases hended
  · rfl
  · intro time htime
    obtain rfl := Option.some.inj htime
    exact hsilent
  · intro time htime
    obtain rfl := Option.some.inj htime
    exact hlate
  · intro time htime
    obtain rfl := Option.some.inj htime
    exact hsoon
  · intro halive _
    cases arrivals with
    | nil => rfl
    | cons next arrivals =>
        have hnext := hsilent next rfl
        have hin := halive.1
        omega

end Run

end TfSocketio.Engineio
