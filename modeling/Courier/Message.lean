import Courier.Metadata
import Courier.Acknowledgement

/-!
Messages: a payload and metadata. Between the library and a provider a message also carries the
provider's own token for acknowledging it and the provider's own view of it.
-/

namespace Courier

/-- Payloads are equal if their octets are. -/
instance octetsDecidableEq : DecidableEq ByteArray := fun a b =>
  decidable_of_iff (a.data = b.data) ⟨ByteArray.ext, congrArg ByteArray.data⟩

/-- A provider's token for one delivered message; only the provider knows what it holds. -/
inductive AckId
  | number (n : Nat)
  | text (s : String)
  deriving DecidableEq, Repr

/-- A value of the provider's own that a handle or a message exposes. -/
inductive Native
  | number (n : Nat)
  | text (s : String)
  /-- One delivery of the in-memory broker: its acknowledgement number and how many times the
  message has been delivered. -/
  | delivery (ackId count : Nat)
  deriving DecidableEq, Repr

structure Message where
  body : ByteArray
  metadata : Metadata
  deriving DecidableEq

/-- A message as a provider sees it. -/
structure Parcel where
  body : ByteArray
  metadata : Metadata
  ackId : Option AckId
  native : Option Native
  deriving DecidableEq

namespace AckId

def number? : AckId → Option Nat
  | number n => some n
  | text _ => none

def text? : AckId → Option String
  | number _ => none
  | text s => some s

def render : AckId → String := fun _ => "AckId(..)"

end AckId

namespace Native

def number? : Native → Option Nat
  | number n => some n
  | _ => none

def text? : Native → Option String
  | text s => some s
  | _ => none

end Native

namespace Message

/-- Nothing but payload and metadata crosses to the provider. -/
def toParcel (m : Message) : Parcel := ⟨m.body, m.metadata, none, none⟩

def render (m : Message) : String :=
  "Message \x7b body_len: " ++ toString m.body.size ++ ", metadata: " ++ m.metadata.render ++
    ", .. \x7d"

/-- What an acknowledgement that is refused says. -/
def refusalText {κ : Type} (m : Message) : AckAnswer κ → Option String
  | .ran .. => none
  | .twice => some ("ack called twice on message: " ++ m.render)
  | .notReceived => some "ack called on a message that was not obtained from receive"

end Message

namespace Parcel

/-- Only payload and metadata, as on the way to a provider. -/
def bare (p : Parcel) : Bool := p.ackId.isNone && p.native.isNone

def message (p : Parcel) : Message := ⟨p.body, p.metadata⟩

def render (p : Parcel) : String :=
  "DriverMessage \x7b body_len: " ++ toString p.body.size ++ ", metadata: " ++ p.metadata.render ++
    ", ack_id: " ++ (match p.ackId with | none => "None" | some a => "Some(" ++ a.render ++ ")") ++
    ", has_native: " ++ toString p.native.isSome ++ " \x7d"

end Parcel

end Courier
