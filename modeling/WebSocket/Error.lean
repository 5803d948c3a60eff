/-!
What can go wrong on a connection, one constructor per cause. `message` is the
text shown to a user and `closeCode` the number told to the peer.
-/

namespace WebSocket

inductive Error where
  | invalidUrl (reason : String)
  | resolution (host : String)
  | connect (address reason : String)
  | tls (reason : String)
  | invalidFrame (reason : String)
  | protocolViolation (reason : String)
  | invalidUtf8
  | frameTooLarge (size max : Nat)
  | messageTooLarge (size max : Nat)
  | tooManyFragments (count max : Nat)
  | payloadTooLargeForPlatform (size max : Nat)
  | connectionClosed (code : Option UInt16)
  | cancelled
  | invalidHandshake (reason : String)
  | handshakeTooLarge (size max : Nat)
  | handshakeTimeout (milliseconds : Nat)
  | invalidHeaderValue (header reason : String)
  | authentication (reason : String)
  | io (reason : String)
  | invalidCloseCode (code : UInt16)
  | fragmentedControlFrame
  | controlFrameTooLarge (size : Nat)
  | unmaskedFrame
  | maskedServerFrame
  | reservedBitsSet
  deriving DecidableEq, Repr

namespace Error

def name : Error → String
  | invalidUrl _ => "InvalidUrl"
  | resolution _ => "Resolution"
  | connect .. => "Connect"
  | tls _ => "Tls"
  | invalidFrame _ => "InvalidFrame"
  | protocolViolation _ => "ProtocolViolation"
  | invalidUtf8 => "InvalidUtf8"
  | frameTooLarge .. => "FrameTooLarge"
  | messageTooLarge .. => "MessageTooLarge"
  | tooManyFragments .. => "TooManyFragments"
  | payloadTooLargeForPlatform .. => "PayloadTooLargeForPlatform"
  | connectionClosed _ => "ConnectionClosed"
  | cancelled => "Cancelled"
  | invalidHandshake _ => "InvalidHandshake"
  | handshakeTooLarge .. => "HandshakeTooLarge"
  | handshakeTimeout _ => "HandshakeTimeout"
  | invalidHeaderValue .. => "InvalidHeaderValue"
  | authentication _ => "Authentication"
  | io _ => "Io"
  | invalidCloseCode _ => "InvalidCloseCode"
  | fragmentedControlFrame => "FragmentedControlFrame"
  | controlFrameTooLarge _ => "ControlFrameTooLarge"
  | unmaskedFrame => "UnmaskedFrame"
  | maskedServerFrame => "MaskedServerFrame"
  | reservedBitsSet => "ReservedBitsSet"

def message : Error → String
  | invalidUrl reason => s!"Invalid URL: {reason}"
  | resolution host => s!"Could not resolve host: {host}"
  | connect address reason => s!"Connect to {address} failed: {reason}"
  | tls reason => s!"TLS error: {reason}"
  | invalidFrame reason => s!"Invalid frame: {reason}"
  | protocolViolation reason => s!"Protocol violation: {reason}"
  | invalidUtf8 => "Invalid UTF-8 in text payload"
  | frameTooLarge size max => s!"Frame too large: {size} bytes (max: {max})"
  | messageTooLarge size max => s!"Message too large: {size} bytes (max: {max})"
  | tooManyFragments count max => s!"Too many fragments: {count} (max: {max})"
  | payloadTooLargeForPlatform size max =>
      s!"Payload too large for platform: {size} bytes (max: {max})"
  | connectionClosed none => "Connection closed: None"
  | connectionClosed (some code) => s!"Connection closed: Some({code})"
  | cancelled => "Connect cancelled"
  | invalidHandshake reason => s!"Invalid handshake: {reason}"
  | handshakeTooLarge size max => s!"Handshake too large: {size} bytes (max: {max})"
  | handshakeTimeout milliseconds => s!"Handshake timed out after {milliseconds} ms"
  | invalidHeaderValue header reason => s!"Invalid value for header {header}: {reason}"
  | authentication reason => s!"Authentication error: {reason}"
  | io reason => s!"I/O error: {reason}"
  | invalidCloseCode code => s!"Invalid close code: {code}"
  | fragmentedControlFrame => "Control frames cannot be fragmented"
  | controlFrameTooLarge size => s!"Control frame payload too large: {size} bytes (max: 125)"
  | unmaskedFrame => "Frame must be masked"
  | maskedServerFrame => "Server frame must not be masked"
  | reservedBitsSet => "Reserved bits set without negotiated extension"

/-- Text that is not UTF-8 and input that is too large have codes of their own;
all else is a protocol error. -/
def closeCode : Error → UInt16
  | invalidUtf8 => 1007
  | frameTooLarge .. | messageTooLarge .. | tooManyFragments ..
  | payloadTooLargeForPlatform .. => 1009
  | _ => 1002

end Error

theorem ok_of_bind {Failure First Second : Type} {first : Except Failure First}
    {next : First → Except Failure Second} {result : Second} (done : (first >>= next) = .ok result) :
    ∃ value, first = .ok value ∧ next value = .ok result := by
  cases first with
  | error failure => cases done
  | ok value => exact ⟨value, rfl, done⟩

theorem eq_ok_of_to_option {Failure Value : Type} {result : Except Failure Value} {value : Value}
    (found : result.toOption = some value) : result = .ok value := by
  cases result with
  | error failure => cases found
  | ok value => exact congrArg Except.ok (Option.some.inj found)

end WebSocket
