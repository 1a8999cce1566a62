/-
# Engineio.Heartbeat — how long the sockets wait for the next ping.

The server sends the interval of its pings and a timeout in the handshake, both any `u64`.  A socket
adds the two once, when it is made, and from then on waits for the sum minus the time since the last
ping.  The blocking socket compares before it subtracts, the asynchronous one subtracts with
saturation; both cut the time since the last ping down to 64 bits first.

`deadline_iff` says for which handshakes and which times the wait is the one the integers give.
-/
import Mathlib.Algebra.Group.Nat.Defs
import TfSocketio.Lib.Text

namespace TfSocketio.Engineio

open Text (Str)

/-! ## Time -/

/-- A point in time (`std::time::Instant`), in nanoseconds from some origin; whole seconds fit into
64 bits. -/
structure Instant where
  nanos : Nat
  nanos_lt : nanos < 2 ^ 64 * 1000000000

/-- A span of time (`std::time::Duration`): whole seconds, and nanoseconds below a second. -/
structure Duration where
  secs : UInt64
  subsecNanos : Nat
  subsecNanos_lt : subsecNanos < 1000000000

/-- `Duration::as_millis`, which is a `u128`. -/
def Duration.asMillis (duration : Duration) : Nat :=
  duration.secs.toNat * 1000 + duration.subsecNanos / 1000000

/-- `Instant::checked_duration_since`: nothing if the other instant is later. -/
def Instant.checkedDurationSince (now earlier : Instant) : Option Duration :=
  if earlier.nanos ≤ now.nanos then
    some {
      secs := UInt64.ofNat ((now.nanos - earlier.nanos) / 1000000000)
      subsecNanos := (now.nanos - earlier.nanos) % 1000000000
      subsecNanos_lt := Nat.mod_lt _ (by decide) }
  else none

/-- The milliseconds between two instants, over the integers. -/
def Instant.millisSince (now earlier : Instant) : Nat := (now.nanos - earlier.nanos) / 1000000

/-- The span between two instants has their milliseconds. -/
theorem Instant.checkedDurationSince_of_le {now earlier : Instant}
    (h : earlier.nanos ≤ now.nanos) : ∃ duration,
      now.checkedDurationSince earlier = some duration ∧
        duration.asMillis = now.millisSince earlier := by
  have hbound := now.nanos_lt
  have hsecs : (now.nanos - earlier.nanos) / 1000000000 < 2 ^ 64 := by omega
  refine ⟨_, if_pos h, ?_⟩
  show (UInt64.ofNat ((now.nanos - earlier.nanos) / 1000000000)).toNat * 1000 +
    (now.nanos - earlier.nanos) % 1000000000 / 1000000 = (now.nanos - earlier.nanos) / 1000000
  rw [UInt64.toNat_ofNat_of_lt' hsecs]
  omega

/-! ## The heartbeat of a socket -/

/-- What the server sends in the handshake. -/
structure HandshakePacket where
  sid : Str
  upgrades : List Str
  pingInterval : UInt64
  pingTimeout : UInt64

/-- What a socket keeps for the detection of a dead connection. -/
structure Heartbeat where
  connectionData : HandshakePacket
  maxPingTimeout : UInt64
  lastPing : Instant

/-- `a + b` for `u64`.  An overflow panics if the crate was compiled with overflow checks, and
otherwise the sum wraps. -/
def addU64 (overflowChecks : Bool) (a b : UInt64) : Option UInt64 :=
  if overflowChecks && decide (2 ^ 64 ≤ a.toNat + b.toNat) then none else some (a + b)

theorem addU64_of_lt (overflowChecks : Bool) {a b : UInt64} (h : a.toNat + b.toNat < 2 ^ 64) :
    addU64 overflowChecks a b = some (a + b) := by
  have hno : decide (2 ^ 64 ≤ a.toNat + b.toNat) = false := decide_eq_false (by omega)
  rw [addU64, hno, Bool.and_false]
  rfl

namespace Heartbeat

/-- `Socket::new` of either socket; nothing if it panics. -/
def new (overflowChecks : Bool) (handshake : HandshakePacket) (now : Instant) :
    Option Heartbeat :=
  (addU64 overflowChecks handshake.pingInterval handshake.pingTimeout).map fun maxPingTimeout =>
    { connectionData := handshake, maxPingTimeout, lastPing := now }

/-- `pinged`, and what `connect` does to the heartbeat. -/
def pinged (s : Heartbeat) (now : Instant) : Heartbeat := { s with lastPing := now }

/-- The socket after a sequence of pings. -/
def afterPings (s : Heartbeat) (pings : List Instant) : Heartbeat := pings.foldl pinged s

/-- `time_to_next_ping` of the blocking socket. -/
def timeToNextPing (s : Heartbeat) (now : Instant) : UInt64 :=
  match now.checkedDurationSince s.lastPing with
  | some sinceLastPing =>
      let sinceLastPing := UInt64.ofNat sinceLastPing.asMillis
      if s.maxPingTimeout < sinceLastPing then 0 else s.maxPingTimeout - sinceLastPing
  | none => 0

end Heartbeat

/-- `u64::saturating_sub`. -/
def saturatingSub (a b : UInt64) : UInt64 := if a < b then 0 else a - b

theorem toNat_saturatingSub (a b : UInt64) :
    (saturatingSub a b).toNat = a.toNat - b.toNat := by
  unfold saturatingSub
  split
  · rename_i h
    have hlt : a.toNat < b.toNat := UInt64.lt_iff_toNat_lt.mp h
    show 0 = a.toNat - b.toNat
    omega
  · rename_i h
    have hle : b ≤ a := UInt64.not_lt.mp h
    exact UInt64.toNat_sub_of_le _ _ hle

namespace Heartbeat

/-- `time_to_next_ping` of the asynchronous socket. -/
def Async.timeToNextPing (s : Heartbeat) (now : Instant) : UInt64 :=
  match now.checkedDurationSince s.lastPing with
  | some sinceLastPing =>
      saturatingSub s.maxPingTimeout (UInt64.ofNat sinceLastPing.asMillis)
  | none => 0

section Lemmas

variable (s : Heartbeat) (now : Instant)

/-- The two subtractions are one: the comparison of the blocking socket keeps it from
underflowing. -/
theorem timeToNextPing_async : Async.timeToNextPing s now = s.timeToNextPing now := rfl

/-- Pings change the time of the last ping and nothing else. -/
theorem afterPings_maxPingTimeout (pings : List Instant) :
    (s.afterPings pings).maxPingTimeout = s.maxPingTimeout := by
  induction pings generalizing s with
  | nil => rfl
  | cons ping pings ih => exact ih (s.pinged ping)

theorem afterPings_lastPing (pings : List Instant) :
    (s.afterPings pings).lastPing = pings.getLast?.getD s.lastPing := by
  induction pings generalizing s with
  | nil => rfl
  | cons ping pings ih =>
      show ((s.pinged ping).afterPings pings).lastPing = _
      rw [ih]
      cases pings with
      | nil => rfl
      | cons ping' pings => simp [List.getLast?_cons]

/-- What is left of the bound, with the time since the last ping cut down to 64 bits. -/
theorem toNat_timeToNextPing (h : s.lastPing.nanos ≤ now.nanos) :
    (s.timeToNextPing now).toNat =
      s.maxPingTimeout.toNat - now.millisSince s.lastPing % 2 ^ 64 := by
  obtain ⟨duration, hduration, hmillis⟩ := Instant.checkedDurationSince_of_le h
  rw [← timeToNextPing_async, Async.timeToNextPing, hduration]
  show (saturatingSub s.maxPingTimeout (UInt64.ofNat duration.asMillis)).toNat = _
  rw [toNat_saturatingSub, hmillis]
  rfl

end Lemmas

end Heartbeat

/-! ## When the wait is the right one -/

/-- **The deadline is exact.**  The socket can be made, its bound is the sum of the two numbers, and
after any pings both sockets wait for what is left of the bound. -/
def Deadline (overflowChecks : Bool) (handshake : HandshakePacket) (created : Instant)
    (pings : List Instant) (now : Instant) : Prop :=
  ∃ s, Heartbeat.new overflowChecks handshake created = some s ∧
    s.maxPingTimeout.toNat = handshake.pingInterval.toNat + handshake.pingTimeout.toNat ∧
    let s := s.afterPings pings
    let left := handshake.pingInterval.toNat + handshake.pingTimeout.toNat -
      now.millisSince s.lastPing
    (s.timeToNextPing now).toNat = left ∧ (Heartbeat.Async.timeToNextPing s now).toNat = left

section Deadline

variable (overflowChecks : Bool) (handshake : HandshakePacket) (created now : Instant)
  (pings : List Instant)

/-- A socket keeps a `u64`. -/
theorem Deadline.sum_lt {overflowChecks : Bool} {handshake : HandshakePacket}
    {created now : Instant} {pings : List Instant}
    (h : Deadline overflowChecks handshake created pings now) :
    handshake.pingInterval.toNat + handshake.pingTimeout.toNat < 2 ^ 64 := by
  obtain ⟨s, -, hbound, -⟩ := h
  rw [← hbound]
  exact s.maxPingTimeout.toNat_lt

/-- **When the deadline is exact.**  The numbers of the handshake add up to a `u64`, and if the
milliseconds since the last ping do not fit into a `u64`, then what they are cut down to is no less
than the sum. -/
theorem deadline_iff (h : (pings.getLast?.getD created).nanos ≤ now.nanos) :
    Deadline overflowChecks handshake created pings now ↔
      handshake.pingInterval.toNat + handshake.pingTimeout.toNat < 2 ^ 64 ∧
        (now.millisSince (pings.getLast?.getD created) < 2 ^ 64 ∨
          handshake.pingInterval.toNat + handshake.pingTimeout.toNat ≤
            now.millisSince (pings.getLast?.getD created) % 2 ^ 64) := by
  constructor
  · intro hdeadline
    have hsum := hdeadline.sum_lt
    obtain ⟨s, hnew, hbound, htime, -⟩ := hdeadline
    obtain ⟨sum, -, rfl⟩ := Option.map_eq_some_iff.mp hnew
    refine ⟨hsum, ?_⟩
    rw [Heartbeat.toNat_timeToNextPing _ _ (by rwa [Heartbeat.afterPings_lastPing]),
      Heartbeat.afterPings_maxPingTimeout, Heartbeat.afterPings_lastPing, hbound] at htime
    dsimp only at htime
    omega
  · rintro ⟨hsum, hmillis⟩
    have hadd := addU64_of_lt overflowChecks hsum
    have hbound : (handshake.pingInterval + handshake.pingTimeout).toNat =
        handshake.pingInterval.toNat + handshake.pingTimeout.toNat := by
      rw [UInt64.toNat_add, Nat.mod_eq_of_lt hsum]
    refine ⟨_, by rw [Heartbeat.new, hadd]; rfl, hbound, ?_⟩
    dsimp only
    rw [Heartbeat.timeToNextPing_async,
      Heartbeat.toNat_timeToNextPing _ _ (by rwa [Heartbeat.afterPings_lastPing]),
      Heartbeat.afterPings_maxPingTimeout, Heartbeat.afterPings_lastPing]
    dsimp only
    rw [hbound]
    omega

end Deadline

/-- The numbers a server sends by default, a ping after 25 seconds, and a look a second later. -/
theorem deadline_default :
    Deadline true ⟨['a'], [], 25000, 20000⟩ ⟨0, by decide⟩ [⟨25000000000, by decide⟩]
      ⟨26000000000, by decide⟩ :=
  (deadline_iff true ⟨['a'], [], 25000, 20000⟩ ⟨0, by decide⟩ ⟨26000000000, by decide⟩
    [⟨25000000000, by decide⟩] (by decide)).mpr (by decide)

/-- A server that asks for no pings: its interval is the largest number there is. -/
theorem not_deadline :
    ¬ ∀ (overflowChecks : Bool) (handshake : HandshakePacket) (created now : Instant)
      (pings : List Instant), (pings.getLast?.getD created).nanos ≤ now.nanos →
      Deadline overflowChecks handshake created pings now := by
  intro h
  have hdeadline := h true ⟨['a'], [], 18446744073709551615, 20000⟩ ⟨0, by decide⟩
    ⟨0, by decide⟩ [] (by decide)
  exact absurd hdeadline.sum_lt (by decide)

end TfSocketio.Engineio
