import Mathlib.Data.List.Forall2
import WebSocket.Frame.Parse

/-!
A buffer that grows in chunks. Once the parser has decided, by a frame or by an
error, more bytes do not change its mind. So a reader that drops whole frames
and waits for the rest finds the same frames however the stream is cut.
-/

namespace WebSocket

theorem MaskKey.of_bytes_append {bytes : Bytes} (enough : 4 ≤ bytes.length) (more : Bytes) :
    ofBytes? (bytes ++ more) = ofBytes? bytes := by
  match bytes, enough with
  | _ :: _ :: _ :: _ :: _, _ => rfl

namespace Frame

namespace Header

theorem parse_of_announced (first : Byte) {second : Byte} {rest : Bytes}
    (whole : announcedSize second ≤ (first :: second :: rest).length) :
    ∃ header, parse (first :: second :: rest) = .ok header := by
  have sized : 2 + extendedWidth (second &&& 0x7F).toNat ≤ announcedSize second :=
    Nat.le_add_right _ _
  simp only [parse]
  rw [if_neg (by rw [is_shorter_iff]; omega), if_neg (by rw [is_shorter_iff]; omega)]
  exact ⟨_, rfl⟩

theorem size_of_parse {first second : Byte} {rest : Bytes} {header : Header}
    (parsed : parse (first :: second :: rest) = .ok header) :
    header.size = announcedSize second ∧ header.size ≤ (first :: second :: rest).length := by
  simp only [parse] at parsed
  split at parsed
  · cases parsed
  · split at parsed
    · cases parsed
    · rename_i whole
      cases parsed
      rw [is_shorter_iff] at whole
      exact ⟨rfl, Nat.le_of_not_lt whole⟩

theorem parse_append {buffer : Bytes} {header : Header} (parsed : parse buffer = .ok header)
    (more : Bytes) : parse (buffer ++ more) = .ok header := by
  match buffer, parsed with
  | first :: second :: rest, parsed =>
      simp only [parse, List.cons_append] at parsed ⊢
      have longer : (first :: second :: (rest ++ more)).length =
          (first :: second :: rest).length + more.length := by
        simp only [List.length_cons, List.length_append]
        omega
      split at parsed
      · cases parsed
      · rename_i sized
        split at parsed
        · cases parsed
        · rename_i whole
          rw [is_shorter_iff] at sized whole
          rw [if_neg (by rw [is_shorter_iff]; omega), if_neg (by rw [is_shorter_iff]; omega)]
          rw [← parsed]
          simp only [List.length_cons] at sized whole
          congr 2
          · split
            · rename_i masked
              rw [announcedSize, if_pos masked] at whole
              rw [List.drop_append_of_le_length (by omega)]
              exact MaskKey.of_bytes_append (by rw [List.length_drop]; omega) more
            · rfl
          · rw [List.take_append_of_le_length (by omega)]

theorem parse_of_append {slice more : Bytes} {header : Header}
    (parsed : parse (slice ++ more) = .ok header) (whole : header.size ≤ slice.length) :
    parse slice = .ok header := by
  have atLeast := two_le_size parsed
  match slice, whole, parsed with
  | [], whole, _ => exact absurd whole (by simp only [List.length_nil]; omega)
  | [_], whole, _ => exact absurd whole (by simp only [List.length_singleton]; omega)
  | first :: second :: rest, whole, parsed =>
      have announced := (size_of_parse parsed).1
      obtain ⟨found, alone⟩ := parse_of_announced first (announced ▸ whole)
      have again := parse_append alone more
      rw [parsed] at again
      rw [alone, again]

theorem payload_append (header : Header) {buffer : Bytes}
    (whole : header.size + header.payloadSize ≤ buffer.length) (more : Bytes) :
    header.payload (buffer ++ more) = header.payload buffer := by
  have carried : ((buffer ++ more).drop header.size).take header.payloadSize =
      (buffer.drop header.size).take header.payloadSize := by
    rw [List.drop_append_of_le_length (by omega),
      List.take_append_of_le_length (by rw [List.length_drop]; omega)]
  rw [payload, payload, carried]

theorem consumed_of_whole (header : Header) {buffer : Bytes}
    (whole : header.size + header.payloadSize ≤ buffer.length) :
    (header.read buffer).consumed = header.size + header.payloadSize := by
  rw [read, if_neg (by rw [is_shorter_iff]; omega)]
  split <;> rfl

theorem whole_of_complete (header : Header) {buffer : Bytes}
    (complete : 0 < (header.read buffer).consumed) :
    header.size + header.payloadSize ≤ buffer.length := by
  unfold read at complete
  split at complete
  · exact absurd complete (Nat.lt_irrefl 0)
  · rename_i whole
    rw [is_shorter_iff] at whole
    exact Nat.le_of_not_lt whole

theorem read_append (header : Header) {buffer : Bytes}
    (complete : 0 < (header.read buffer).consumed) (more : Bytes) :
    header.read (buffer ++ more) = header.read buffer := by
  have whole := header.whole_of_complete complete
  rw [read, if_neg (by rw [is_shorter_iff, List.length_append]; omega), read,
    if_neg (by rw [is_shorter_iff]; omega), header.payload_append whole]

end Header

theorem parse_append_error {options : ParseOptions} {buffer : Bytes} {failure : Error}
    (result : parse options buffer = .error failure) (more : Bytes) :
    parse options (buffer ++ more) = .error failure := by
  unfold parse at result ⊢
  split at result
  · cases result
  · rename_i header headerRead
    rw [Header.parse_append headerRead]
    split at result
    · rename_i refused
      dsimp only
      rw [refused]
      exact result
    · cases result

theorem parse_append_complete {options : ParseOptions} {buffer : Bytes} {parsed : Parsed}
    (result : parse options buffer = .ok parsed) (complete : 0 < parsed.consumed) (more : Bytes) :
    parse options (buffer ++ more) = .ok parsed := by
  unfold parse at result ⊢
  split at result
  · cases result
    exact absurd complete (Nat.lt_irrefl 0)
  · rename_i header headerRead
    rw [Header.parse_append headerRead]
    split at result
    · cases result
    · rename_i passed
      cases result
      dsimp only
      rw [passed]
      dsimp only
      rw [header.read_append complete]

theorem parse_slice {options : ParseOptions} {buffer : Bytes} {parsed : Parsed}
    (result : parse options buffer = .ok parsed) (complete : 0 < parsed.consumed) :
    parse options (buffer.take parsed.consumed) = .ok parsed := by
  have rejoined := List.take_append_drop parsed.consumed buffer
  unfold parse at result ⊢
  split at result
  · cases result
    exact absurd complete (Nat.lt_irrefl 0)
  · rename_i header headerRead
    split at result
    · cases result
    · rename_i passed
      cases result
      have whole := header.whole_of_complete complete
      have consumed := header.consumed_of_whole whole
      have sliceLength : (buffer.take (header.read buffer).consumed).length =
          header.size + header.payloadSize := by
        rw [List.length_take, consumed]
        omega
      have atLeast := Header.two_le_size headerRead
      rw [← rejoined] at headerRead
      have alone := Header.parse_of_append headerRead (by omega)
      have still : 0 < (header.read (buffer.take (header.read buffer).consumed)).consumed := by
        rw [header.consumed_of_whole (by omega)]
        omega
      rw [alone]
      dsimp only
      rw [passed]
      dsimp only
      rw [← header.read_append still (buffer.drop (header.read buffer).consumed), rejoined]

theorem drain_error {options : ParseOptions} {buffer : Bytes} {failure : Error}
    (result : parse options buffer = .error failure) :
    drain options buffer = ⟨[], some failure, buffer⟩ := by
  rw [drain]
  split
  · rename_i found seen
    rw [result] at seen
    cases seen
    rfl
  · rename_i parsed seen
    rw [result] at seen
    cases seen

theorem drain_incomplete {options : ParseOptions} {buffer : Bytes} {parsed : Parsed}
    (result : parse options buffer = .ok parsed) (incomplete : ¬0 < parsed.consumed) :
    drain options buffer = ⟨[], none, buffer⟩ := by
  rw [drain]
  split
  · rename_i found seen
    rw [result] at seen
    cases seen
  · rename_i found seen
    rw [result] at seen
    cases seen
    rw [dif_neg incomplete]

theorem drain_complete {options : ParseOptions} {buffer : Bytes} {parsed : Parsed}
    (result : parse options buffer = .ok parsed) (complete : 0 < parsed.consumed) :
    drain options buffer =
      let rest := drain options (buffer.drop parsed.consumed)
      ⟨parsed :: rest.parsed, rest.failure, rest.pending⟩ := by
  rw [drain]
  split
  · rename_i found seen
    rw [result] at seen
    cases seen
  · rename_i found seen
    rw [result] at seen
    cases seen
    rw [dif_pos complete]

def Waits (options : ParseOptions) (buffer : Bytes) : Prop :=
  ∃ needed, parse options buffer = .ok (.incomplete needed)

/-- What is left over is either refused with the error that was found, or has to
wait for more bytes. -/
def Stops (options : ParseOptions) (drained : Drained) : Prop :=
  match drained.failure with
  | some failure => parse options drained.pending = .error failure
  | none => Waits options drained.pending

theorem drain_waits {options : ParseOptions} {buffer : Bytes} (waits : Waits options buffer) :
    drain options buffer = ⟨[], none, buffer⟩ := by
  obtain ⟨needed, result⟩ := waits
  exact drain_incomplete result (Nat.lt_irrefl 0)

theorem drain_stops (options : ParseOptions) (buffer : Bytes) :
    Stops options (drain options buffer) := by
  induction buffer using drain.induct options with
  | case1 buffer failure result =>
      rw [drain_error result]
      exact result
  | case2 buffer parsed result complete induction =>
      rw [drain_complete result complete]
      exact induction
  | case3 buffer parsed result incomplete =>
      rw [drain_incomplete result incomplete]
      rcases parse_consumed result with ⟨needed, rfl⟩ | bounds
      · exact ⟨needed, result⟩
      · omega

theorem waits_of_drain {options : ParseOptions} {buffer : Bytes}
    (fine : (drain options buffer).failure = none) :
    Waits options (drain options buffer).pending := by
  have stops := drain_stops options buffer
  rw [Stops, fine] at stops
  exact stops

theorem drain_append_failed {options : ParseOptions} {buffer : Bytes} {failure : Error}
    (failed : (drain options buffer).failure = some failure) (more : Bytes) :
    drain options (buffer ++ more) =
      ⟨(drain options buffer).parsed, some failure, (drain options buffer).pending ++ more⟩ := by
  induction buffer using drain.induct options with
  | case1 buffer found result =>
      rw [drain_error result] at failed ⊢
      cases failed
      exact drain_error (parse_append_error result more)
  | case2 buffer parsed result complete induction =>
      rw [drain_complete result complete] at failed ⊢
      have inside : parsed.consumed ≤ buffer.length := by
        rcases parse_consumed result with ⟨needed, rfl⟩ | bounds
        · exact absurd complete (Nat.lt_irrefl 0)
        · exact bounds.2
      rw [drain_complete (parse_append_complete result complete more) complete,
        List.drop_append_of_le_length inside]
      dsimp only at failed ⊢
      rw [induction failed]
  | case3 buffer parsed result incomplete =>
      rw [drain_incomplete result incomplete] at failed
      cases failed

theorem drain_append_fine {options : ParseOptions} {buffer : Bytes}
    (fine : (drain options buffer).failure = none) (more : Bytes) :
    drain options (buffer ++ more) =
      let later := drain options ((drain options buffer).pending ++ more)
      ⟨(drain options buffer).parsed ++ later.parsed, later.failure, later.pending⟩ := by
  induction buffer using drain.induct options with
  | case1 buffer found result =>
      rw [drain_error result] at fine
      cases fine
  | case2 buffer parsed result complete induction =>
      rw [drain_complete result complete] at fine ⊢
      have inside : parsed.consumed ≤ buffer.length := by
        rcases parse_consumed result with ⟨needed, rfl⟩ | bounds
        · exact absurd complete (Nat.lt_irrefl 0)
        · exact bounds.2
      rw [drain_complete (parse_append_complete result complete more) complete,
        List.drop_append_of_le_length inside]
      dsimp only at fine ⊢
      rw [induction fine]
      rfl
  | case3 buffer parsed result incomplete =>
      rw [drain_incomplete result incomplete]
      rfl

/-- The slices of a stream that were read as frames, one for each result. -/
def Slices (options : ParseOptions) (slices : List Bytes) (results : List Parsed) : Prop :=
  List.Forall₂
    (fun slice parsed => parse options slice = .ok parsed ∧ parsed.consumed = slice.length ∧
      2 ≤ slice.length)
    slices results

theorem drain_slices (options : ParseOptions) (buffer : Bytes) :
    ∃ slices, Slices options slices (drain options buffer).parsed ∧
      slices.flatten ++ (drain options buffer).pending = buffer := by
  induction buffer using drain.induct options with
  | case1 buffer failure result =>
      rw [drain_error result]
      exact ⟨[], .nil, rfl⟩
  | case2 buffer parsed result complete induction =>
      rw [drain_complete result complete]
      obtain ⟨slices, sliced, joined⟩ := induction
      rcases parse_consumed result with ⟨needed, rfl⟩ | ⟨atLeast, inside⟩
      · exact absurd complete (Nat.lt_irrefl 0)
      · have sliceLength : (buffer.take parsed.consumed).length = parsed.consumed := by
          rw [List.length_take]
          omega
        refine ⟨buffer.take parsed.consumed :: slices, ?_, ?_⟩
        · refine .cons ⟨parse_slice result complete, sliceLength.symm, ?_⟩ sliced
          rw [sliceLength]
          exact atLeast
        · rw [List.flatten_cons, List.append_assoc, joined, List.take_append_drop]
  | case3 buffer parsed result incomplete =>
      rw [drain_incomplete result incomplete]
      exact ⟨[], .nil, rfl⟩

theorem slices_length {options : ParseOptions} {slices : List Bytes} {results : List Parsed}
    (sliced : Slices options slices results) : 2 * results.length ≤ slices.flatten.length := by
  induction sliced with
  | nil => simp
  | cons head _ induction =>
      have atLeast := head.2.2
      simp only [List.length_cons, List.flatten_cons, List.length_append]
      omega

/-- Takes the chunks of a stream as they come: each is put behind what is left
over, and the buffer is drained. After an error nothing more is taken. -/
def drainChunks (options : ParseOptions) : (pending : Bytes) → List Bytes → Drained
  | pending, [] => ⟨[], none, pending⟩
  | pending, chunk :: rest =>
      let now := drain options (pending ++ chunk)
      match now.failure with
      | some _ => now
      | none =>
          let later := drainChunks options now.pending rest
          ⟨now.parsed ++ later.parsed, later.failure, later.pending⟩

theorem drain_chunks_stops {options : ParseOptions} (chunks : List Bytes) {pending : Bytes}
    (waits : Waits options pending) : Stops options (drainChunks options pending chunks) := by
  induction chunks generalizing pending with
  | nil => exact waits
  | cons chunk rest induction =>
      rw [drainChunks]
      cases now : (drain options (pending ++ chunk)).failure with
      | some failure => exact drain_stops options _
      | none => exact induction (waits_of_drain now)

/-- Draining chunk by chunk is draining them all at once, up to the chunks that
an error leaves unread. -/
theorem drain_chunks_eq_drain {options : ParseOptions} (chunks : List Bytes) {pending : Bytes}
    (waits : Waits options pending) :
    ∃ unread, unread <:+ chunks ∧
      ((drainChunks options pending chunks).failure = none → unread = []) ∧
      drain options (pending ++ chunks.flatten) =
        { drainChunks options pending chunks with
          pending := (drainChunks options pending chunks).pending ++ unread.flatten } := by
  induction chunks generalizing pending with
  | nil =>
      refine ⟨[], List.suffix_refl _, fun _ => rfl, ?_⟩
      simp only [List.flatten_nil, List.append_nil, drainChunks, drain_waits waits]
  | cons chunk rest induction =>
      rw [List.flatten_cons, ← List.append_assoc, drainChunks]
      cases now : (drain options (pending ++ chunk)).failure with
      | some failure =>
          refine ⟨rest, List.suffix_cons _ _, ?_, ?_⟩
          · dsimp only
            rw [now]
            intro absent
            exact nomatch absent
          · rw [drain_append_failed now]
            dsimp only
            rw [now]
      | none =>
          obtain ⟨unread, suffix, whole, joined⟩ := induction (waits_of_drain now)
          refine ⟨unread, suffix.trans (List.suffix_cons _ _), whole, ?_⟩
          rw [drain_append_fine now, joined]

theorem waits_nil (options : ParseOptions) : Waits options [] := ⟨2, rfl⟩

/-- However a stream is cut, its chunks yield the same frames, the same error if
there is one, and otherwise the same bytes to wait with. The frames' slices, the
bytes left over and the chunks behind an error are the whole stream, and every
frame takes at least two of its bytes, so that each chunk is done with. -/
theorem drain_chunks_independent (options : ParseOptions) (input : Bytes)
    (chunks others : List Bytes) (cut : chunks.flatten = input)
    (cutOtherwise : others.flatten = input) :
    let drained := drainChunks options [] chunks
    let again := drainChunks options [] others
    again.parsed = drained.parsed ∧ again.failure = drained.failure ∧
      (drained.failure = none → again.pending = drained.pending) ∧ Stops options drained ∧
      2 * drained.parsed.length ≤ input.length ∧
      ∃ slices unread, Slices options slices drained.parsed ∧ unread <:+ chunks ∧
        (drained.failure = none → unread = []) ∧
        slices.flatten ++ drained.pending ++ unread.flatten = input := by
  intro drained again
  obtain ⟨unread, suffix, whole, joined⟩ := drain_chunks_eq_drain chunks (waits_nil options)
  obtain ⟨others', _, wholeToo, joinedToo⟩ := drain_chunks_eq_drain others (waits_nil options)
  rw [List.nil_append, cut] at joined
  rw [List.nil_append, cutOtherwise, joined] at joinedToo
  obtain ⟨slices, sliced, complete⟩ := drain_slices options input
  rw [joined] at sliced complete
  rw [← List.append_assoc] at complete
  have same := Drained.mk.inj joinedToo
  refine ⟨same.1.symm, same.2.1.symm, ?_, drain_chunks_stops chunks (waits_nil options), ?_,
    slices, unread, sliced, suffix, whole, complete⟩
  · intro fine
    have pending := same.2.2
    rw [whole fine, wholeToo (same.2.1 ▸ fine)] at pending
    simpa using pending.symm
  · have bound := slices_length sliced
    rw [← complete, List.length_append, List.length_append]
    exact Nat.le_trans bound (by omega)

/-- A text frame and a Ping. One way of cutting them splits both headers, the
other one has an empty chunk. -/
theorem drain_chunks_independent_of_header_cut :
    let chunks : List Bytes := [[0x81], [0x01, 0x61, 0x89], [0x00, 0x83]]
    let others : List Bytes := [[0x81, 0x01, 0x61], [], [0x89, 0x00, 0x83]]
    (drainChunks {} [] others).parsed = (drainChunks {} [] chunks).parsed ∧
      (drainChunks {} [] others).failure = (drainChunks {} [] chunks).failure := by
  intro chunks others
  have independent := drain_chunks_independent {} chunks.flatten chunks others rfl rfl
  exact ⟨independent.1, independent.2.1⟩

end Frame

end WebSocket
