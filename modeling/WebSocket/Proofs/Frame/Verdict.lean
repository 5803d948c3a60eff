import WebSocket.Proofs.Frame.Chunks

/-!
What the parser says about a buffer that grows. As long as the frame is not whole, it says how many
bytes are missing to the next point at which more is known: the two fixed bytes, the size, the key,
the payload. Every other verdict is final.
-/

namespace WebSocket.Frame

namespace Header

theorem parse_missing {buffer : Bytes} {needed : Nat} (lacks : parse buffer = .error needed) :
    1 ≤ needed ∧ ∀ more : Bytes, more.length < needed →
      parse (buffer ++ more) = .error (needed - more.length) := by
  match buffer, lacks with
  | [], lacks =>
      cases lacks
      refine ⟨by decide, fun more short => ?_⟩
      match more, short with
      | [], _ => rfl
      | [_], _ => rfl
  | [_], lacks =>
      cases lacks
      refine ⟨Nat.le_refl 1, fun more short => ?_⟩
      obtain rfl : more = [] := List.length_eq_zero_iff.mp (Nat.lt_one_iff.mp short)
      rfl
  | first :: second :: rest, lacks =>
      have longer (more : Bytes) : (first :: second :: (rest ++ more)).length =
          (first :: second :: rest).length + more.length := by
        simp only [List.length_cons, List.length_append]
        omega
      simp only [parse, List.cons_append] at lacks ⊢
      split at lacks
      · rename_i sized
        cases lacks
        rw [is_shorter_iff] at sized
        refine ⟨by omega, fun more short => ?_⟩
        have stillShort := longer more
        rw [if_pos (by rw [is_shorter_iff]; omega), stillShort, Nat.sub_add_eq]
      · rename_i sized
        split at lacks
        · rename_i keyed
          cases lacks
          rw [is_shorter_iff] at sized keyed
          refine ⟨by omega, fun more short => ?_⟩
          have stillShort := longer more
          rw [if_neg (by rw [is_shorter_iff]; omega), if_pos (by rw [is_shorter_iff]; omega),
            stillShort, Nat.sub_add_eq]
        · cases lacks

theorem read_missing {header : Header} {buffer : Bytes} {needed : Nat}
    (lacks : header.read buffer = .incomplete needed) :
    needed = header.size + header.payloadSize - buffer.length ∧
      buffer.length < header.size + header.payloadSize := by
  unfold read at lacks
  split at lacks
  · rename_i short
    cases lacks
    exact ⟨rfl, is_shorter_iff.mp short⟩
  · split at lacks <;> cases lacks

theorem read_of_short {header : Header} {buffer : Bytes}
    (short : buffer.length < header.size + header.payloadSize) :
    header.read buffer = .incomplete (header.size + header.payloadSize - buffer.length) := by
  rw [read, if_pos (is_shorter_iff.mpr short)]

end Header

theorem incomplete_cases {options : ParseOptions} {buffer : Bytes} {needed : Nat}
    (lacks : parse options buffer = .ok (.incomplete needed)) :
    Header.parse buffer = .error needed ∨
      ∃ header, Header.parse buffer = .ok header ∧ header.check options = .ok () ∧
        header.read buffer = .incomplete needed := by
  unfold parse at lacks
  split at lacks
  · rename_i missing
    cases lacks
    exact .inl missing
  · rename_i header headerRead
    split at lacks
    · cases lacks
    · rename_i passed
      exact .inr ⟨header, headerRead, passed, Except.ok.inj lacks⟩

theorem parse_of_missing {buffer : Bytes} {needed : Nat} (options : ParseOptions)
    (missing : Header.parse buffer = .error needed) :
    parse options buffer = .ok (.incomplete needed) := by
  rw [parse, missing]

theorem parse_of_header {options : ParseOptions} {buffer : Bytes} {header : Header}
    (headerRead : Header.parse buffer = .ok header) (passed : header.check options = .ok ()) :
    parse options buffer = .ok (header.read buffer) := by
  rw [parse, headerRead]
  dsimp only
  rw [passed]

theorem parse_incomplete {options : ParseOptions} {buffer : Bytes} {needed : Nat}
    (lacks : parse options buffer = .ok (.incomplete needed)) :
    1 ≤ needed ∧ ∀ more : Bytes, more.length < needed →
      parse options (buffer ++ more) = .ok (.incomplete (needed - more.length)) := by
  rcases incomplete_cases lacks with missing | ⟨header, headerRead, passed, unread⟩
  · obtain ⟨some, less⟩ := Header.parse_missing missing
    exact ⟨some, fun more short => parse_of_missing options (less more short)⟩
  · obtain ⟨rfl, short⟩ := Header.read_missing unread
    refine ⟨by omega, fun more fewer => ?_⟩
    have stillShort : (buffer ++ more).length < header.size + header.payloadSize := by
      rw [List.length_append]
      omega
    rw [parse_of_header (Header.parse_append headerRead more) passed,
      Header.read_of_short stillShort, List.length_append, Nat.sub_add_eq]

/-- Every verdict that does not ask for more bytes stays when more bytes come. -/
theorem parse_final {options : ParseOptions} {buffer : Bytes} {verdict : Except Error Parsed}
    (result : parse options buffer = verdict) (decided : ∀ needed, verdict ≠ .ok (.incomplete needed))
    (more : Bytes) : parse options (buffer ++ more) = verdict := by
  cases verdict with
  | error failure => exact parse_append_error result more
  | ok parsed =>
      rcases parse_consumed result with ⟨needed, rfl⟩ | bounds
      · exact absurd rfl (decided needed)
      · exact parse_append_complete result (by omega) more

/-- A reader that asks how many bytes are missing, fetches exactly so many, and asks again. -/
inductive Fetches (options : ParseOptions) : Bytes → List Bytes → Prop where
  | done (buffer : Bytes) : Fetches options buffer []
  | fetch {buffer piece : Bytes} {rest : List Bytes}
      (lacks : parse options buffer = .ok (.incomplete piece.length))
      (later : Fetches options (buffer ++ piece) rest) : Fetches options buffer (piece :: rest)

namespace Fetches

variable {options : ParseOptions} {buffer : Bytes} {pieces : List Bytes}

theorem of_header {header : Header} (headerRead : Header.parse buffer = .ok header)
    (fetches : Fetches options buffer pieces) : pieces.length ≤ 1 := by
  cases fetches with
  | done => exact Nat.zero_le 1
  | @fetch _ piece rest lacks later =>
      rcases incomplete_cases lacks with missing | ⟨found, again, passed, unread⟩
      · cases headerRead.symm.trans missing
      · cases headerRead.symm.trans again
        obtain ⟨exact, short⟩ := Header.read_missing unread
        have whole : header.size + header.payloadSize ≤ (buffer ++ piece).length := by
          rw [List.length_append]
          omega
        cases later with
        | done => exact Nat.le_refl 1
        | fetch lacks _ =>
            rw [parse_of_header (Header.parse_append headerRead piece) passed] at lacks
            have still := (Header.read_missing (Except.ok.inj lacks)).2
            omega

theorem of_size {first second : Byte} {rest : Bytes}
    (sized : 2 + Header.extendedWidth (second &&& 0x7F).toNat ≤ (first :: second :: rest).length)
    (fetches : Fetches options (first :: second :: rest) pieces) : pieces.length ≤ 2 := by
  cases fetches with
  | done => exact Nat.zero_le 2
  | @fetch _ piece pieces lacks later =>
      rcases incomplete_cases lacks with missing | ⟨header, headerRead, -⟩
      · simp only [Header.parse] at missing
        rw [if_neg (by rw [is_shorter_iff]; omega)] at missing
        split at missing
        · have exact : _ = piece.length := Except.error.inj missing
          have whole : Header.announcedSize second ≤ (first :: second :: (rest ++ piece)).length := by
            simp only [List.length_cons, List.length_append] at exact ⊢
            omega
          obtain ⟨header, headerRead⟩ := Header.parse_of_announced first whole
          exact Nat.succ_le_succ (of_header headerRead later)
        · cases missing
      · have last := of_header (Header.parse_append headerRead piece) later
        exact Nat.succ_le_succ last

theorem of_two {first second : Byte} {rest : Bytes}
    (fetches : Fetches options (first :: second :: rest) pieces) : pieces.length ≤ 3 := by
  by_cases sized : 2 + Header.extendedWidth (second &&& 0x7F).toNat ≤
      (first :: second :: rest).length
  · exact Nat.le_succ_of_le (of_size sized fetches)
  · cases fetches with
    | done => exact Nat.zero_le 3
    | @fetch _ piece pieces lacks later =>
        have missing : Header.parse (first :: second :: rest) =
            .error (2 + Header.extendedWidth (second &&& 0x7F).toNat -
              (first :: second :: rest).length) := by
          simp only [Header.parse]
          rw [if_pos (by rw [is_shorter_iff]; omega)]
        have exact := (parse_of_missing options missing).symm.trans lacks
        have exact : _ = piece.length := Parsed.incomplete.inj (Except.ok.inj exact)
        have whole : 2 + Header.extendedWidth (second &&& 0x7F).toNat ≤
            (first :: second :: (rest ++ piece)).length := by
          simp only [List.length_cons, List.length_append] at exact sized ⊢
          omega
        exact Nat.succ_le_succ (of_size whole later)

theorem at_most_four (fetches : Fetches options buffer pieces) : pieces.length ≤ 4 := by
  match buffer, fetches with
  | first :: second :: rest, fetches => exact Nat.le_succ_of_le (of_two fetches)
  | _, .done _ => exact Nat.zero_le 4
  | [], @fetch _ _ piece _ lacks later =>
      have exact : 2 = piece.length := Parsed.incomplete.inj (Except.ok.inj lacks)
      match piece, exact, later with
      | [_, _], _, later => exact Nat.succ_le_succ (of_two later)
  | [_], @fetch _ _ piece _ lacks later =>
      have exact : 1 = piece.length := Parsed.incomplete.inj (Except.ok.inj lacks)
      match piece, exact, later with
      | [_], _, later => exact Nat.succ_le_succ (of_two later)

end Fetches

/-- How many bytes are said to be missing is exact, and a verdict is final: fewer bytes than are
missing leave the rest of them missing, and once there is a frame, a frame of a reserved kind or an
error, no bytes behind it change that. A reader that fetches exactly what is missing has its verdict
after at most four times. -/
theorem missing_exact_verdict_final (options : ParseOptions) (buffer : Bytes) :
    (∀ needed, parse options buffer = .ok (.incomplete needed) →
      1 ≤ needed ∧ ∀ more : Bytes, more.length < needed →
        parse options (buffer ++ more) = .ok (.incomplete (needed - more.length))) ∧
    (∀ frame consumed, parse options buffer = .ok (.frame frame consumed) →
      ∀ more, parse options (buffer ++ more) = .ok (.frame frame consumed)) ∧
    (∀ opcode consumed, parse options buffer = .ok (.unexpected opcode consumed) →
      ∀ more, parse options (buffer ++ more) = .ok (.unexpected opcode consumed)) ∧
    (∀ failure, parse options buffer = .error failure →
      ∀ more, parse options (buffer ++ more) = .error failure) ∧
    ∀ pieces, Fetches options buffer pieces → pieces.length ≤ 4 := by
  refine ⟨fun needed lacks => parse_incomplete lacks, ?_, ?_, ?_, fun pieces => ?_⟩
  · intro frame consumed result more
    exact parse_final result nofun more
  · intro opcode consumed result more
    exact parse_final result nofun more
  · intro failure result more
    exact parse_final result nofun more
  · exact Fetches.at_most_four

/-- A size in two bytes of which none or one is there, a frame of a reserved kind, and a frame that
is refused by its size alone. -/
theorem missing_exact_verdict_final_of_size_field :
    parse {} [0x81, 0x7E] = .ok (.incomplete 2) ∧
      parse {} [0x81, 0x7E, 0x00] = .ok (.incomplete 1) ∧
      parse {} [0x83, 0x01, 0x61, 0x81] = .ok (.unexpected 3 3) ∧
      parse ⟨5, .either⟩ [0x81, 0x06, 0x61] = .error (.frameTooLarge 6 5) := by
  have waits : parse {} [0x81, 0x7E] = .ok (.incomplete 2) := rfl
  have reserved : parse {} [0x83, 0x01, 0x61] = .ok (.unexpected 3 3) := rfl
  have refused : parse ⟨5, .either⟩ [0x81, 0x06] = .error (.frameTooLarge 6 5) := rfl
  obtain ⟨missing, -⟩ := missing_exact_verdict_final {} [0x81, 0x7E]
  obtain ⟨-, -, skipped, -⟩ := missing_exact_verdict_final {} [0x83, 0x01, 0x61]
  obtain ⟨-, -, -, failed, -⟩ := missing_exact_verdict_final ⟨5, .either⟩ [0x81, 0x06]
  refine ⟨waits, (missing 2 waits).2 [0x00] (by decide), ?_, ?_⟩
  · exact skipped 3 3 reserved [0x81]
  · exact failed _ refused [0x61]

end WebSocket.Frame
