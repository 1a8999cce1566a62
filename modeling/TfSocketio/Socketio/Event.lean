/-
# Socketio.Event — event names, close reasons and payloads.
-/
import TfSocketio.Engineio.Packet
import TfSocketio.Lib.Json

namespace TfSocketio.Socketio

open Engineio (Bytes)
open Text (Str)

/-- An event is one of the reserved ones or custom. -/
inductive Event where
  | message
  | error
  | custom (string : Str)
  | connect
  | close
  deriving DecidableEq, Repr

/-- The name under which an event is displayed (`Event::as_str`, `Display for Event`). -/
def Event.asStr : Event → Str
  | .message => "message".toList
  | .error => "error".toList
  | .connect => "connect".toList
  | .close => "close".toList
  | .custom string => string

/-- The name an event converts into (`From<Event> for String`): `connect` becomes `open` here. -/
def Event.intoString : Event → Str
  | .message => "message".toList
  | .connect => "open".toList
  | .close => "close".toList
  | .error => "error".toList
  | .custom string => string

/-- Why a session's close was fired. -/
inductive CloseReason where
  | ioServerDisconnect
  | ioClientDisconnect
  | transportClose
  deriving DecidableEq, Repr

/-- What the crate relies on of `serde_json`: a printed value is its compact JSON text, a small
natural number prints as its decimal digits, and `from_str::<IgnoredAny>` accepts what was
printed. -/
structure SerdeJson where
  Number : Type
  printNumber : Number → Str
  fromNat : Nat → Number
  printNumber_fromNat : ∀ n, printNumber (fromNat n) = Nat.toDigits 10 n
  /-- Whether `from_str::<IgnoredAny>` accepts the text. -/
  isJson : Str → Bool
  isJson_print : ∀ v : Json.Value Number, isJson (Json.print printNumber v)

/-- A JSON value (`serde_json::Value`). -/
abbrev SerdeJson.Value (json : SerdeJson) := Json.Value json.Number

/-- The compact text of a value (`Value::to_string`). -/
abbrev SerdeJson.toString (json : SerdeJson) (value : json.Value) : Str :=
  Json.print json.printNumber value

/-- JSON with integers for numbers, as a `SerdeJson`. -/
def SerdeJson.integers : SerdeJson where
  Number := Int
  printNumber := Text.printInt
  fromNat n := n
  printNumber_fromNat n := Text.printInt_of_nonneg (by omega)
  isJson s := (Json.parse Json.intFormat s).isSome
  isJson_print v := by
    have h := Json.parse_print Json.intFormat v
    simp only [Json.intFormat] at h ⊢
    rw [h]
    rfl

/-- A payload, sent or received, with the id of the ack it asks for. -/
inductive Payload (json : SerdeJson) where
  | binary (data : Bytes) (ackId : Option Int)
  | text (data : List json.Value) (ackId : Option Int)
  | string (data : Str) (ackId : Option Int)

end TfSocketio.Socketio
