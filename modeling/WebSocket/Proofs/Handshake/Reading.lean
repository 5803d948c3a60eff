import WebSocket.Proofs.Handshake.Boundary

/-!
What a head comes to whose bytes arrive piece by piece: what is judged on the first pieces
is what would be judged on all of them.
-/

namespace WebSocket.Head

/-- What becomes of a head that is read out of all that arrives, of which `unread` is left. -/
structure Judged (limits : Limits) (arrives unread : Bytes)
    (result : Except Error (Response × Bytes)) : Prop where
  whole : ∀ size, FirstEndsAt arrives size → size ≤ limits.handshakeSize →
    match Response.parse (arrives.take size) with
    | .ok response =>
        ∃ leftover, result = .ok (response, leftover) ∧ leftover ++ unread = arrives.drop size
    | .error failure => result = .error failure
  large : (∀ size ≤ limits.handshakeSize, ¬EndsAt arrives size) →
    limits.handshakeSize < arrives.length →
      ∃ size, limits.handshakeSize < size ∧
        result = .error (.handshakeTooLarge size limits.handshakeSize)
  cut : (∀ size, ¬EndsAt arrives size) → arrives.length ≤ limits.handshakeSize →
    result = .error (.connectionClosed none)

variable {limits : Limits} {arrives buffer unread : Bytes}

theorem check_size_of_le {size : Nat} (fits : size ≤ limits.handshakeSize) :
    limits.checkHandshakeSize size = .ok () := by
  rw [Limits.checkHandshakeSize, if_neg (Nat.not_lt.mpr fits)]

theorem check_size_of_gt {size : Nat} (exceeds : limits.handshakeSize < size) :
    limits.checkHandshakeSize size =
      .error (.handshakeTooLarge size limits.handshakeSize) := by
  rw [Limits.checkHandshakeSize, if_pos exceeds]

theorem judged_of_whole {size : Nat} {result : Except Error (Response × Bytes)}
    (isFirst : FirstEndsAt arrives size) (fits : size ≤ limits.handshakeSize)
    (parsed : match Response.parse (arrives.take size) with
      | .ok response =>
          ∃ leftover, result = .ok (response, leftover) ∧ leftover ++ unread = arrives.drop size
      | .error failure => result = .error failure) :
    Judged limits arrives unread result := by
  constructor
  · intro other isFirstToo _
    obtain rfl := isFirst.unique isFirstToo
    exact parsed
  · intro nowhere
    exact absurd isFirst.ends (nowhere size fits)
  · intro nowhere
    exact absurd isFirst.ends (nowhere size)

theorem judged_of_large {size : Nat} (late : ∀ position, EndsAt arrives position →
      limits.handshakeSize < position) (longer : limits.handshakeSize < arrives.length)
    (exceeds : limits.handshakeSize < size) :
    Judged limits arrives unread (.error (.handshakeTooLarge size limits.handshakeSize)) := by
  constructor
  · intro position isFirst fits
    exact absurd (late position isFirst.ends) (Nat.not_lt.mpr fits)
  · intro _ _
    exact ⟨size, exceeds, rfl⟩
  · intro _ short
    exact absurd longer (Nat.not_lt.mpr short)

theorem judged_of_cut (missing : Head.end? arrives = none)
    (short : arrives.length ≤ limits.handshakeSize) :
    Judged limits arrives unread (.error (.connectionClosed none)) := by
  have nowhere := end_eq_none_iff.mp missing
  constructor
  · intro position isFirst
    exact absurd isFirst.ends (nowhere position)
  · intro _ longer
    exact absurd longer (Nat.not_lt.mpr short)
  · intro _ _
    rfl

theorem judged_of_split (limits : Limits) (buffer unread : Bytes) :
    match split limits buffer with
    | .ok (some found) => Judged limits (buffer ++ unread) unread (.ok found)
    | .error failure => Judged limits (buffer ++ unread) unread (.error failure)
    | .ok none => Head.end? buffer = none ∧ buffer.length ≤ limits.handshakeSize := by
  unfold split
  cases found : Head.end? buffer with
  | none =>
      dsimp only
      by_cases fits : buffer.length ≤ limits.handshakeSize
      · rw [check_size_of_le fits]
        exact ⟨rfl, fits⟩
      · have exceeds := Nat.not_le.mp fits
        rw [check_size_of_gt exceeds]
        apply judged_of_large
        · intro position ends
          exact Nat.lt_trans exceeds (length_lt_of_ends_at found ends)
        · rw [List.length_append]
          omega
        · exact exceeds
  | some size =>
      have isFirst := (end_eq_some_iff.mp found).append unread
      have within := (length_of_ends_at (end_eq_some_iff.mp found).ends).2
      have head : (buffer ++ unread).take size = buffer.take size :=
        List.take_append_of_le_length within
      have rest : (buffer ++ unread).drop size = buffer.drop size ++ unread :=
        List.drop_append_of_le_length within
      dsimp only
      by_cases fits : size ≤ limits.handshakeSize
      · rw [check_size_of_le fits]
        dsimp only
        cases parsed : Response.parse (buffer.take size) with
        | error failure =>
            apply judged_of_whole isFirst fits
            rw [head, parsed]
        | ok response =>
            apply judged_of_whole isFirst fits
            rw [head, parsed]
            exact ⟨buffer.drop size, rfl, rest.symm⟩
      · have exceeds := Nat.not_le.mp fits
        rw [check_size_of_gt exceeds]
        apply judged_of_large
        · intro position ends
          exact Nat.lt_of_lt_of_le exceeds (isFirst.least position ends)
        · exact Nat.lt_of_lt_of_le exceeds (length_of_ends_at isFirst.ends).2
        · exact exceeds

end WebSocket.Head
