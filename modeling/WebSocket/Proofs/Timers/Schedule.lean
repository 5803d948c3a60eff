import Mathlib.Data.Nat.Digits.Defs
import WebSocket.Proofs.Connection.Outline

/-!
When the ticks of a timer are due, and what a keepalive Ping says. Missed ticks are left out, but
the ticks never leave the schedule.
-/

namespace WebSocket

namespace Connection

theorem next_tick_on_schedule {period due now : Nat} (positive : 0 < period) (late : due ≤ now) :
    ∃ passed, 0 < passed ∧ nextTick period due now = due + passed * period := by
  unfold nextTick
  split
  · exact ⟨1, Nat.one_pos, by rw [Nat.one_mul]⟩
  · have split := Nat.div_add_mod (now - due) period
    have below := Nat.mod_lt (now - due) positive
    refine ⟨(now - due) / period + 1, Nat.succ_pos _, ?_⟩
    rw [Nat.add_mul, Nat.one_mul, Nat.mul_comm]
    omega

end Connection

namespace Text

def hexDigits : List Char := "0123456789abcdef".toList

theorem hex_digit_mem (value : Nat) : hexDigit (value % 16) ∈ hexDigits := by
  have digits : ∀ digit : Fin 16, hexDigit digit.val ∈ hexDigits := by decide
  exact digits ⟨value % 16, Nat.mod_lt value (by decide)⟩

theorem hex_word_digits (width value : Nat) : ∀ digit ∈ hexWord width value, digit ∈ hexDigits := by
  induction width generalizing value with
  | zero => nofun
  | succ width induction =>
      intro digit member
      rcases List.mem_append.mp member with member | member
      · exact induction (value / 16) digit member
      · obtain rfl := List.mem_singleton.mp member
        exact hex_digit_mem value

end Text

theorem Utf8.encode_length_le (text : String) : (encode text).length ≤ 4 * text.length := by
  rw [encode_eq_flat_map, ← String.length_toList]
  induction text.toList with
  | nil => simp
  | cons character rest induction =>
      have size := character.utf8Size_le_four
      rw [List.flatMap_cons, List.length_append, String.length_utf8EncodeChar, List.length_cons]
      omega

namespace Connection

theorem keepalive_payload_form (count high low : Nat) :
    ∃ token : List Char, token.length = 16 ∧ (∀ digit ∈ token, digit ∈ Text.hexDigits) ∧
      keepalivePayload count high low =
        Utf8.encode (toString count ++ ":" ++ String.ofList token) := by
  refine ⟨_, ?_, ?_, rfl⟩
  · rw [List.length_append, Text.hex_word_length, Text.hex_word_length]
  · intro digit member
    rcases List.mem_append.mp member with member | member
    · exact Text.hex_word_digits 8 high digit member
    · exact Text.hex_word_digits 8 low digit member

theorem keepalive_payload_valid {count : Nat} (bounded : count < 2 ^ 64) (high low : Nat) :
    (Frame.ping (keepalivePayload count high low)).validate = .ok () := by
  have digits : (toString count).length ≤ 20 :=
    Nat.repr_length count 20 (by decide) (Nat.lt_trans bounded (by decide))
  have short : (keepalivePayload count high low).length ≤ Frame.maxControlPayload := by
    have bytes := Utf8.encode_length_le (toString count ++ ":")
    have colon : (":" : String).length = 1 := rfl
    rw [String.length_append, colon] at bytes
    rw [keepalive_payload_length, Frame.maxControlPayload]
    omega
  simpa [Frame.validate, Frame.ping, Frame.of, Opcode.isControl] using short

end Connection

end WebSocket
