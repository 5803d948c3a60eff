import WebSocket.Text.Utf8

/-!
Close codes and the content of a Close frame. Codes without a name of their own
are `other`; `isValid` tells which codes may travel on the wire.
-/

namespace WebSocket

inductive CloseCode where
  | normal
  | goingAway
  | protocolError
  | unsupportedData
  | noStatus
  | abnormal
  | invalidPayload
  | policyViolation
  | messageTooBig
  | mandatoryExtension
  | internalError
  | other (number : UInt16)
  deriving DecidableEq, Repr

namespace CloseCode

def ofNumber : UInt16 → CloseCode
  | 1000 => normal
  | 1001 => goingAway
  | 1002 => protocolError
  | 1003 => unsupportedData
  | 1005 => noStatus
  | 1006 => abnormal
  | 1007 => invalidPayload
  | 1008 => policyViolation
  | 1009 => messageTooBig
  | 1010 => mandatoryExtension
  | 1011 => internalError
  | number => other number

def number : CloseCode → UInt16
  | normal => 1000
  | goingAway => 1001
  | protocolError => 1002
  | unsupportedData => 1003
  | noStatus => 1005
  | abnormal => 1006
  | invalidPayload => 1007
  | policyViolation => 1008
  | messageTooBig => 1009
  | mandatoryExtension => 1010
  | internalError => 1011
  | other number => number

def name : CloseCode → String
  | normal => "Normal"
  | goingAway => "GoingAway"
  | protocolError => "ProtocolError"
  | unsupportedData => "UnsupportedData"
  | noStatus => "NoStatus"
  | abnormal => "Abnormal"
  | invalidPayload => "InvalidPayload"
  | policyViolation => "PolicyViolation"
  | messageTooBig => "MessageTooBig"
  | mandatoryExtension => "MandatoryExtension"
  | internalError => "InternalError"
  | other number => s!"Other({number})"

def Sendable (number : Nat) : Prop :=
  (1000 ≤ number ∧ number ≤ 1003) ∨ (1007 ≤ number ∧ number ≤ 1014) ∨
    (3000 ≤ number ∧ number ≤ 4999)

instance (number : Nat) : Decidable (Sendable number) := by
  unfold Sendable; infer_instance

def isValid (code : CloseCode) : Bool := decide (Sendable code.number.toNat)

instance : Inhabited CloseCode := ⟨normal⟩

theorem number_of_number (number : UInt16) : (ofNumber number).number = number := by
  unfold ofNumber
  split <;> rfl

end CloseCode

/-- What a peer said when it closed the connection. -/
structure CloseFrame where
  code : CloseCode
  reason : String
  deriving DecidableEq, Repr

end WebSocket
