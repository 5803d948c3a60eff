import WebSocket.Connection.Timers
import WebSocket.Connection.World
import WebSocket.Proofs.Frame.Layout
import WebSocket.Proofs.Text.Encoding

/-!
What a connection sends and tells, but for its random digits. A frame is known up to the key that
it is masked with, and a keepalive Ping up to the digits in its payload as well; whatever source
the keys come from, its form on the wire has the same length and is cut at the same places.
-/

namespace WebSocket

abbrev KeySource := Nat → MaskKey

/-- A frame before its random digits are known. -/
inductive Wording where
  | plain (frame : Frame)
  /-- A keepalive Ping with the digits of two keys, given by their numbers. -/
  | keepalive (count high low : Nat)

namespace Wording

def frame (keys : KeySource) : Wording → Frame
  | plain frame => frame
  | keepalive count high low =>
      .ping (Connection.keepalivePayload count (BigEndian.decode (keys high).toBytes)
        (BigEndian.decode (keys low).toBytes))

end Wording

/-- What is offered to the wire at once: bytes without anything random in them, or a part of a
frame under the key of some number. -/
inductive Stretch where
  | plain (bytes : Bytes)
  | masked (wording : Wording) (key skipped count : Nat)

namespace Stretch

def bytes (keys : KeySource) : Stretch → Bytes
  | plain bytes => bytes
  | masked wording key skipped count =>
      (((wording.frame keys).serialize (some (keys key))).drop skipped).take count

def drop (dropped : Nat) : Stretch → Stretch
  | plain bytes => plain (bytes.drop dropped)
  | masked wording key skipped count => masked wording key (skipped + dropped) (count - dropped)

def take (taken : Nat) : Stretch → Stretch
  | plain bytes => plain (bytes.take taken)
  | masked wording key skipped count => masked wording key skipped (min taken count)

end Stretch

/-- What the observers are told, before the random digits of a sent frame are known. -/
inductive Notice where
  | plain (event : Event)
  | frameSent (wording : Wording)

def Notice.event (keys : KeySource) : Notice → Event
  | plain event => event
  | frameSent wording => .frameSent (wording.frame keys)

/-- An entry of the journal, before the random digits of a sent frame are known. -/
inductive Note where
  | told (observer : Nat) (notice : Notice) (phase : Phase)
  | reported (id : Nat) (report : Report) (phase : Phase)

namespace Note

def entry (keys : KeySource) : Note → Entry
  | told observer notice phase => .told observer (notice.event keys) phase
  | reported id report phase => .reported id report phase

def telling? : Note → Option (Nat × Notice)
  | told observer notice _ => some (observer, notice)
  | reported .. => none

end Note

/-! ### What does not depend on the keys -/

theorem Text.utf8_size_hex_digit (value : Nat) : (hexDigit (value % 16)).utf8Size = 1 := by
  have digits : ∀ digit : Fin 16, (hexDigit digit.val).utf8Size = 1 := by decide
  exact digits ⟨value % 16, Nat.mod_lt value (by decide)⟩

theorem Text.utf8_size_hex_word (width value : Nat) :
    ∀ digit ∈ hexWord width value, digit.utf8Size = 1 := by
  induction width generalizing value with
  | zero => nofun
  | succ width induction =>
      intro digit member
      rcases List.mem_append.mp member with member | member
      · exact induction (value / 16) digit member
      · obtain rfl := List.mem_singleton.mp member
        exact utf8_size_hex_digit value

theorem Utf8.encode_length_of_ascii {text : List Char} (ascii : ∀ character ∈ text, character.utf8Size = 1) :
    (encode (String.ofList text)).length = text.length := by
  rw [encode_eq_flat_map, String.toList_ofList]
  induction text with
  | nil => rfl
  | cons character rest induction =>
      rw [List.flatMap_cons, List.length_append, String.length_utf8EncodeChar,
        ascii character List.mem_cons_self,
        induction fun other member => ascii other (List.mem_cons_of_mem character member),
        List.length_cons, Nat.add_comm]

theorem Connection.keepalive_payload_length (count high low : Nat) :
    (keepalivePayload count high low).length = (Utf8.encode (toString count ++ ":")).length + 16 := by
  have ascii : ∀ digit ∈ Text.hexWord 8 high ++ Text.hexWord 8 low, digit.utf8Size = 1 := by
    intro digit member
    rcases List.mem_append.mp member with member | member
    · exact Text.utf8_size_hex_word 8 high digit member
    · exact Text.utf8_size_hex_word 8 low digit member
  rw [keepalivePayload, Utf8.encode_append, List.length_append, Utf8.encode_length_of_ascii ascii,
    List.length_append, Text.hex_word_length, Text.hex_word_length]

namespace Wording

variable (wording : Wording) (mine yours : KeySource)

theorem opcode_eq : (wording.frame yours).opcode = (wording.frame mine).opcode := by
  cases wording with
  | plain frame => rfl
  | keepalive count high low =>
      calc (frame yours (keepalive count high low)).opcode = .ping := rfl
        _ = (frame mine (keepalive count high low)).opcode := rfl

theorem payload_length_eq :
    (wording.frame yours).payload.length = (wording.frame mine).payload.length := by
  cases wording with
  | plain frame => rfl
  | keepalive count high low =>
      have length (keys : KeySource) : (frame keys (keepalive count high low)).payload.length =
          (Utf8.encode (toString count ++ ":")).length + 16 :=
        Connection.keepalive_payload_length count _ _
      rw [length, length]

theorem validate_eq : (wording.frame yours).validate = (wording.frame mine).validate := by
  have length := wording.payload_length_eq mine yours
  cases wording with
  | plain frame => rfl
  | keepalive count high low =>
      have validate (keys : KeySource) : (frame keys (keepalive count high low)).validate =
          if (frame keys (keepalive count high low)).payload.length > Frame.maxControlPayload then
            .error (.controlFrameTooLarge (frame keys (keepalive count high low)).payload.length)
          else .ok () := rfl
      rw [validate, validate, length]

theorem wire_size_eq (masked : Bool) :
    (wording.frame yours).wireSize masked = (wording.frame mine).wireSize masked := by
  rw [Frame.wireSize, Frame.wireSize, wording.payload_length_eq mine yours]

theorem close_frame_eq (isClose : (wording.frame mine).opcode = .close) :
    (wording.frame yours).closeFrame = (wording.frame mine).closeFrame := by
  cases wording with
  | plain frame => rfl
  | keepalive count high low => cases isClose

end Wording

namespace Stretch

variable (stretch : Stretch) (mine yours : KeySource)

theorem bytes_drop (keys : KeySource) (dropped : Nat) :
    (stretch.drop dropped).bytes keys = (stretch.bytes keys).drop dropped := by
  cases stretch with
  | plain bytes => rfl
  | masked wording key skipped count => rw [drop, bytes, bytes, List.drop_take, List.drop_drop]

theorem bytes_take (keys : KeySource) (taken : Nat) :
    (stretch.take taken).bytes keys = (stretch.bytes keys).take taken := by
  cases stretch with
  | plain bytes => rfl
  | masked wording key skipped count => rw [take, bytes, bytes, List.take_take]

theorem bytes_length_eq : (stretch.bytes yours).length = (stretch.bytes mine).length := by
  cases stretch with
  | plain bytes => rfl
  | masked wording key skipped count =>
      have size : ((wording.frame yours).serialize (some (yours key))).length =
          ((wording.frame mine).serialize (some (mine key))).length := by
        rw [Frame.serialize_length, Frame.serialize_length]
        exact wording.wire_size_eq mine yours true
      rw [bytes, bytes, List.length_take, List.length_take, List.length_drop, List.length_drop, size]

theorem bytes_whole (wording : Wording) (key : Nat) (keys : KeySource) {size : Nat}
    (whole : size = (wording.frame keys).wireSize true) :
    (masked wording key 0 size).bytes keys = (wording.frame keys).serialize (some (keys key)) := by
  have length : size = ((wording.frame keys).serialize (some (keys key))).length := by
    rw [Frame.serialize_length, whole]
    rfl
  rw [bytes, List.drop_zero, length, List.take_length]

/-- Induction over the bytes of a stretch under two sources of keys at once. What is left behind its
first byte is a stretch again. -/
theorem induction {motive : Bytes → Bytes → Prop} (nil : motive [] [])
    (cons : ∀ (stretch : Stretch) (byte other : Byte) (rest others : Bytes),
      stretch.bytes mine = byte :: rest → stretch.bytes yours = other :: others →
      motive rest others → motive (byte :: rest) (other :: others))
    (stretch : Stretch) : motive (stretch.bytes mine) (stretch.bytes yours) := by
  generalize size : (stretch.bytes mine).length = count
  have sizeToo := (stretch.bytes_length_eq mine yours).trans size
  induction count generalizing stretch with
  | zero =>
      rw [List.eq_nil_of_length_eq_zero size, List.eq_nil_of_length_eq_zero sizeToo]
      exact nil
  | succ count induction =>
      obtain ⟨byte, rest, first⟩ := List.exists_cons_of_length_eq_add_one size
      obtain ⟨other, others, firstToo⟩ := List.exists_cons_of_length_eq_add_one sizeToo
      have behind := induction (stretch.drop 1)
      rw [bytes_drop, bytes_drop, first, firstToo] at behind
      rw [first] at size
      rw [firstToo] at sizeToo
      rw [first, firstToo]
      exact cons stretch byte other rest others first firstToo
        (behind (Nat.succ_inj.mp size) (Nat.succ_inj.mp sizeToo))

end Stretch

end WebSocket
