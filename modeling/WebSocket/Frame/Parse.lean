import WebSocket.Frame.Basic
import WebSocket.Limits

/-!
Reading one frame from the front of a buffer. A buffer that ends too early is
answered with the number of bytes that are certainly still missing; a frame of
a reserved kind is measured, so that a reader can step over it.
-/

namespace WebSocket

inductive MaskPolicy where
  | forbidden
  | required
  | either
  deriving DecidableEq, Repr

def MaskPolicy.check : MaskPolicy → (masked : Bool) → Except Error Unit
  | .forbidden, true => .error .maskedServerFrame
  | .required, false => .error .unmaskedFrame
  | _, _ => .ok ()

structure ParseOptions where
  maxFrameSize : Nat := 16777216
  maskPolicy : MaskPolicy := .either
  deriving DecidableEq, Repr

def ParseOptions.serverFrames (limits : Limits) : ParseOptions :=
  ⟨limits.frameSize, .forbidden⟩

namespace Frame

/-- A frame's first bytes. `size` counts them, with the mask key if there is one. -/
structure Header where
  fin : Bool
  rsv1 : Bool
  rsv2 : Bool
  rsv3 : Bool
  opcode : Byte
  mask : Option MaskKey
  payloadSize : Nat
  size : Nat
  deriving DecidableEq, Repr

namespace Header

def extendedWidth (short : Nat) : Nat :=
  if short ≤ 125 then 0 else if short = 126 then 2 else 8

def announcedSize (second : Byte) : Nat :=
  2 + extendedWidth (second &&& 0x7F).toNat + if second &&& 0x80 != 0 then 4 else 0

/-- The header at the front of the buffer, or how many bytes it still lacks. The
key is asked for only once the payload size is there. -/
def parse (buffer : Bytes) : Except Nat Header :=
  match buffer with
  | first :: second :: rest =>
      let short := (second &&& 0x7F).toNat
      let width := extendedWidth short
      if isShorter (2 + width) buffer then .error (2 + width - buffer.length)
      else if isShorter (announcedSize second) buffer then
        .error (announcedSize second - buffer.length)
      else
        .ok
          { fin := first &&& 0x80 != 0
            rsv1 := first &&& 0x40 != 0
            rsv2 := first &&& 0x20 != 0
            rsv3 := first &&& 0x10 != 0
            opcode := first &&& 0x0F
            mask := if second &&& 0x80 != 0 then MaskKey.ofBytes? (rest.drop width) else none
            payloadSize := if width = 0 then short else BigEndian.decode (rest.take width)
            size := announcedSize second }
  | _ => .error (2 - buffer.length)

end Header

inductive Parsed where
  | frame (frame : Frame) (consumed : Nat)
  | unexpected (opcode : Byte) (consumed : Nat)
  | incomplete (needed : Nat)
  deriving DecidableEq, Repr

namespace Header

/-- The verdict on a frame that its header alone decides. -/
def check (header : Header) (options : ParseOptions) : Except Error Unit :=
  match options.maskPolicy.check header.mask.isSome with
  | .error failure => .error failure
  | .ok () =>
      if header.payloadSize > options.maxFrameSize then
        .error (.frameTooLarge header.payloadSize options.maxFrameSize)
      else if header.size + header.payloadSize ≥ sizeBound then
        .error (.payloadTooLargeForPlatform header.payloadSize (sizeBound - 1))
      else .ok ()

/-- The frame's payload in the clear, from a buffer that holds all of it. -/
def payload (header : Header) (buffer : Bytes) : Bytes :=
  let carried := (buffer.drop header.size).take header.payloadSize
  match header.mask with
  | some key => key.applyWords .little carried
  | none => carried

/-- The whole frame behind a header that has passed its check. -/
def read (header : Header) (buffer : Bytes) : Parsed :=
  if isShorter (header.size + header.payloadSize) buffer then
    .incomplete (header.size + header.payloadSize - buffer.length)
  else
    match Opcode.ofByte? header.opcode with
    | none => .unexpected header.opcode (header.size + header.payloadSize)
    | some opcode =>
        .frame
          ⟨header.fin, header.rsv1, header.rsv2, header.rsv3, opcode, header.mask,
            header.payload buffer⟩
          (header.size + header.payloadSize)

end Header

/-- One frame from the front of the buffer. The header decides first, so a frame
that will be refused is refused before its payload has arrived. -/
def parse (options : ParseOptions) (buffer : Bytes) : Except Error Parsed :=
  match Header.parse buffer with
  | .error needed => .ok (.incomplete needed)
  | .ok header =>
      match header.check options with
      | .error failure => .error failure
      | .ok () => .ok (header.read buffer)

def Parsed.consumed : Parsed → Nat
  | frame _ consumed => consumed
  | unexpected _ consumed => consumed
  | incomplete _ => 0

theorem Header.two_le_size {buffer : Bytes} {header : Header}
    (parsed : Header.parse buffer = .ok header) : 2 ≤ header.size := by
  cases buffer with
  | nil => cases parsed
  | cons first tail =>
    cases tail with
    | nil => cases parsed
    | cons second rest =>
        simp only [Header.parse] at parsed
        split at parsed
        · cases parsed
        · split at parsed
          · cases parsed
          · cases parsed
            simp only [announcedSize]
            omega

/-- Whatever is complete takes at least its two header bytes and lies in the buffer. -/
theorem parse_consumed {options : ParseOptions} {buffer : Bytes} {parsed : Parsed}
    (result : parse options buffer = .ok parsed) :
    (∃ needed, parsed = .incomplete needed) ∨
      2 ≤ parsed.consumed ∧ parsed.consumed ≤ buffer.length := by
  unfold parse at result
  split at result
  · cases result
    exact .inl ⟨_, rfl⟩
  · rename_i header headerRead
    have atLeast := Header.two_le_size headerRead
    split at result
    · cases result
    · cases result
      unfold Header.read
      split
      · exact .inl ⟨_, rfl⟩
      · rename_i whole
        rw [is_shorter_iff] at whole
        right
        split
        · exact ⟨by simp only [Parsed.consumed]; omega, by simp only [Parsed.consumed]; omega⟩
        · exact ⟨by simp only [Parsed.consumed]; omega, by simp only [Parsed.consumed]; omega⟩

/-- What a buffer yields until it ends inside a frame or at an error. -/
structure Drained where
  parsed : List Parsed
  failure : Option Error
  pending : Bytes
  deriving DecidableEq, Repr

/-- Parses and drops the bytes of one frame after the other. -/
def drain (options : ParseOptions) (buffer : Bytes) : Drained :=
  match _result : parse options buffer with
  | .error failure => ⟨[], some failure, buffer⟩
  | .ok parsed =>
      if _complete : 0 < parsed.consumed then
        let rest := drain options (buffer.drop parsed.consumed)
        ⟨parsed :: rest.parsed, rest.failure, rest.pending⟩
      else ⟨[], none, buffer⟩
termination_by buffer.length
decreasing_by
  rcases parse_consumed _result with ⟨needed, rfl⟩ | bounds
  · simp [Parsed.consumed] at _complete
  · simp only [List.length_drop]
    omega

end Frame

end WebSocket
