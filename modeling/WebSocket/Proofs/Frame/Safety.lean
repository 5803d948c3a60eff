import WebSocket.Proofs.Frame.Shortest

/-!
The parser step by step, on a machine that reads its buffer by index and counts in words of 64 bits:
an index beyond the end, a sum that does not fit and a difference below zero are faults there. No
buffer and no limits lead to one, and what the front of a frame decides, it decides without the rest.
-/

namespace WebSocket

namespace Checked

inductive Fault where
  | outside
  | overflow
  | underflow
  deriving DecidableEq, Repr

def add (first second : Nat) : Except Fault Nat :=
  if first + second < sizeBound then .ok (first + second) else .error .overflow

def subtract (first second : Nat) : Except Fault Nat :=
  if second ≤ first then .ok (first - second) else .error .underflow

def byteAt (bytes : Bytes) (index : Nat) : Except Fault Byte :=
  match bytes[index]? with
  | some byte => .ok byte
  | none => .error .outside

def bytesAt (bytes : Bytes) (indices : List Nat) : Except Fault Bytes := indices.mapM (byteAt bytes)

def slice (bytes : Bytes) (start stop : Nat) : Except Fault Bytes :=
  if start ≤ stop ∧ stop ≤ bytes.length then .ok ((bytes.drop start).take (stop - start))
  else .error .outside

def missing {Result : Type} (size : Nat) (buffer : Bytes) : Except Fault (Except Nat Result) := do
  let needed ← subtract size buffer.length
  return .error needed

def readSize (buffer : Bytes) (short : Nat) : Except Fault (Except Nat (Nat × Nat)) :=
  if short ≤ 125 then return .ok (short, 2)
  else if short = 126 then
    if buffer.length < 4 then missing 4 buffer
    else do
      let spelled ← bytesAt buffer [2, 3]
      return .ok (BigEndian.decode spelled, 4)
  else if buffer.length < 10 then missing 10 buffer
  else do
    let spelled ← bytesAt buffer [2, 3, 4, 5, 6, 7, 8, 9]
    return .ok (BigEndian.decode spelled, 10)

def readKey (buffer : Bytes) (start : Nat) : Except Fault MaskKey := do
  let first ← byteAt buffer start
  let second ← byteAt buffer (← add start 1)
  let third ← byteAt buffer (← add start 2)
  let fourth ← byteAt buffer (← add start 3)
  return ⟨first, second, third, fourth⟩

def headerSize (isMasked : Bool) (start : Nat) : Except Fault Nat :=
  if isMasked then add start 4 else return start

def readMask (isMasked : Bool) (buffer : Bytes) (start : Nat) : Except Fault (Option MaskKey) :=
  if isMasked then some <$> readKey buffer start else return none

def readHeader (buffer : Bytes) : Except Fault (Except Nat Frame.Header) :=
  if buffer.length < 2 then missing 2 buffer
  else do
    let first ← byteAt buffer 0
    let second ← byteAt buffer 1
    let isMasked := second &&& 0x80 != 0
    match ← readSize buffer (second &&& 0x7F).toNat with
    | .error needed => return .error needed
    | .ok (payloadSize, start) =>
        let size ← headerSize isMasked start
        if buffer.length < size then missing size buffer
        else do
          let mask ← readMask isMasked buffer start
          return .ok
            { fin := first &&& 0x80 != 0
              rsv1 := first &&& 0x40 != 0
              rsv2 := first &&& 0x20 != 0
              rsv3 := first &&& 0x10 != 0
              opcode := first &&& 0x0F
              mask, payloadSize, size }

def unmask (key : MaskKey) : Bytes → Except Fault Bytes
  | a :: b :: c :: d :: rest => do
      let word := ByteOrder.little.pack a b c d ^^^
        ByteOrder.little.pack key.first key.second key.third key.fourth
      return ByteOrder.little.unpack word ++ (← unmask key rest)
  | remainder =>
      remainder.zipIdx.mapM fun (byte, index) => do
        let keyByte ← byteAt key.toBytes index
        return byte ^^^ keyByte

/-- The whole frame behind a header that is admitted and within its limits, if its total size, which
a word can hold, has arrived. -/
def readFrame (header : Frame.Header) (total : Nat) (buffer : Bytes) : Except Fault Frame.Parsed :=
  if buffer.length < total then do
    let needed ← subtract total buffer.length
    return .incomplete needed
  else
    match Opcode.ofByte? header.opcode with
    | none => return .unexpected header.opcode total
    | some opcode => do
        let carried ← slice buffer header.size total
        let payload ← match header.mask with
          | some key => unmask key carried
          | none => pure carried
        return .frame
          ⟨header.fin, header.rsv1, header.rsv2, header.rsv3, opcode, header.mask, payload⟩ total

/-- One frame from the front of the buffer. The total size is the one sum that may not fit, and it is
tried before it is used. -/
def parse (options : ParseOptions) (buffer : Bytes) : Except Fault (Except Error Frame.Parsed) := do
  match ← readHeader buffer with
  | .error needed => return .ok (.incomplete needed)
  | .ok header =>
      match options.maskPolicy.check header.mask.isSome with
      | .error failure => return .error failure
      | .ok () =>
          if header.payloadSize > options.maxFrameSize then
            return .error (.frameTooLarge header.payloadSize options.maxFrameSize)
          else
            match add header.size header.payloadSize with
            | .error _ =>
                return .error (.payloadTooLargeForPlatform header.payloadSize (sizeBound - 1))
            | .ok total => do
                let parsed ← readFrame header total buffer
                return .ok parsed

theorem missing_eq {Result : Type} {size : Nat} {buffer : Bytes} (short : buffer.length < size) :
    (missing size buffer : Except Fault (Except Nat Result)) = .ok (.error (size - buffer.length)) := by
  rw [missing, subtract, if_pos (Nat.le_of_lt short)]
  rfl

theorem read_size_eq (first second : Byte) (rest : Bytes) {short width : Nat}
    (announced : width = Frame.Header.extendedWidth short) :
    readSize (first :: second :: rest) short =
      if rest.length < width then .ok (.error (width - rest.length))
      else .ok (.ok (if width = 0 then short else BigEndian.decode (rest.take width), 2 + width)) := by
  have length : (first :: second :: rest).length = rest.length + 2 := rfl
  unfold readSize
  unfold Frame.Header.extendedWidth at announced
  by_cases small : short ≤ 125
  · rw [if_pos small] at announced ⊢
    subst announced
    rfl
  · rw [if_neg small] at announced ⊢
    by_cases medium : short = 126
    · rw [if_pos medium] at announced ⊢
      subst announced
      by_cases lacks : rest.length < 2
      · rw [if_pos lacks, if_pos (by omega), missing_eq (by omega), length]
        congr 2
        omega
      · rw [if_neg lacks, if_neg (by omega)]
        match rest, lacks with
        | _ :: _ :: _, _ => rfl
        | [_], lacks => exact absurd (Nat.lt_succ_self 1) lacks
        | [], lacks => exact absurd Nat.zero_lt_two lacks
    · rw [if_neg medium] at announced ⊢
      subst announced
      by_cases lacks : rest.length < 8
      · rw [if_pos lacks, if_pos (by omega), missing_eq (by omega), length]
        congr 2
        omega
      · rw [if_neg lacks, if_neg (by omega)]
        obtain ⟨spelled, behind, rfl, eight⟩ :
            ∃ spelled behind, rest = spelled ++ behind ∧ spelled.length = 8 :=
          ⟨rest.take 8, rest.drop 8, (List.take_append_drop 8 rest).symm, by
            rw [List.length_take]
            omega⟩
        match spelled, eight with
        | [_, _, _, _, _, _, _, _], _ => rfl

theorem byte_at_eq {buffer : Bytes} {index : Nat} {byte : Byte} (found : buffer[index]? = some byte) :
    byteAt buffer index = .ok byte := by
  rw [byteAt, found]

theorem read_key_eq {buffer : Bytes} {start : Nat} {first second third fourth : Byte} {rest : Bytes}
    (low : start ≤ 10) (found : buffer.drop start = first :: second :: third :: fourth :: rest) :
    readKey buffer start = .ok ⟨first, second, third, fourth⟩ := by
  have behind (index : Nat) : buffer[start + index]? =
      (first :: second :: third :: fourth :: rest)[index]? := by
    rw [← found, List.getElem?_drop]
  have here : buffer[start]? = some first := behind 0
  have sum (index : Nat) (bound : index < 4) : add start index = .ok (start + index) := by
    rw [add, if_pos]
    unfold sizeBound
    omega
  rw [readKey, byte_at_eq here, sum 1 (by decide), sum 2 (by decide), sum 3 (by decide)]
  simp only [bind, Except.bind]
  rw [byte_at_eq (behind 1), byte_at_eq (behind 2), byte_at_eq (behind 3)]
  rfl

theorem header_size_eq (isMasked : Bool) {start : Nat} (low : start ≤ 10) :
    headerSize isMasked start = .ok (start + if isMasked then 4 else 0) := by
  cases isMasked with
  | false => rfl
  | true =>
      rw [headerSize, if_pos rfl, add, if_pos]
      · rfl
      · unfold sizeBound
        omega

theorem read_mask_eq {isMasked : Bool} {buffer : Bytes} {start : Nat} (low : start ≤ 10)
    (enough : isMasked = true → start + 4 ≤ buffer.length) :
    readMask isMasked buffer start =
      .ok (if isMasked then MaskKey.ofBytes? (buffer.drop start) else none) := by
  cases isMasked with
  | false => rfl
  | true =>
      have length : 4 ≤ (buffer.drop start).length := by
        have whole := enough rfl
        rw [List.length_drop]
        omega
      match found : buffer.drop start, length with
      | first :: second :: third :: fourth :: rest, _ =>
          rw [readMask, if_pos rfl, read_key_eq low found]
          rfl

theorem read_header_eq (buffer : Bytes) : readHeader buffer = .ok (Frame.Header.parse buffer) := by
  match buffer with
  | [] => rfl
  | [_] => rfl
  | first :: second :: rest =>
      let width := Frame.Header.extendedWidth (second &&& 0x7F).toNat
      have low : width ≤ 8 := by
        simp only [width, Frame.Header.extendedWidth]
        split
        · decide
        · split <;> decide
      have length : (first :: second :: rest).length = rest.length + 2 := rfl
      have announced : Frame.Header.announcedSize second =
          2 + width + if second &&& 0x80 != 0 then 4 else 0 := rfl
      have notShort : ¬(first :: second :: rest).length < 2 := by
        rw [length]
        omega
      unfold readHeader
      rw [if_neg notShort]
      change (readSize (first :: second :: rest) (second &&& 0x7F).toNat >>= _) = _
      rw [read_size_eq first second rest rfl]
      simp only [Frame.Header.parse, is_shorter_iff]
      by_cases unsized : rest.length < width
      · rw [if_pos unsized, if_pos (by omega), length, Nat.add_comm 2, Nat.add_sub_add_right]
        rfl
      · have sized : ¬(first :: second :: rest).length < 2 + width := by
          rw [length]
          omega
        rw [if_neg unsized, if_neg sized]
        simp only [bind, Except.bind]
        rw [header_size_eq _ (by omega)]
        dsimp only
        rw [← announced]
        by_cases unkeyed : (first :: second :: rest).length < Frame.Header.announcedSize second
        · rw [if_pos unkeyed, if_pos unkeyed, missing_eq unkeyed]
        · have keyed : (second &&& 0x80 != 0) = true → 2 + width + 4 ≤ rest.length + 2 := by
            intro masked
            rw [announced, if_pos masked] at unkeyed
            omega
          have drop : (first :: second :: rest).drop (2 + width) = rest.drop width := by
            rw [Nat.add_comm]
            rfl
          rw [if_neg unkeyed, if_neg unkeyed, read_mask_eq (by omega) keyed, drop]
          rfl

theorem unmask_eq (key : MaskKey) (carried : Bytes) :
    unmask key carried = .ok (key.applyWords .little carried) := by
  induction carried using MaskKey.applyWords.induct with
  | case1 a b c d rest induction =>
      rw [unmask, induction, MaskKey.applyWords]
      rfl
  | case2 remainder short =>
      rcases remainder with _ | ⟨a, _ | ⟨b, _ | ⟨c, _ | ⟨d, rest⟩⟩⟩⟩
      · rfl
      · rfl
      · rfl
      · rfl
      · exact absurd rfl (short a b c d rest)

theorem read_frame_eq (header : Frame.Header) (buffer : Bytes) :
    readFrame header (header.size + header.payloadSize) buffer = .ok (header.read buffer) := by
  unfold readFrame Frame.Header.read
  simp only [is_shorter_iff]
  by_cases short : buffer.length < header.size + header.payloadSize
  · rw [if_pos short, if_pos short, subtract, if_pos (Nat.le_of_lt short)]
    rfl
  · rw [if_neg short, if_neg short]
    cases Opcode.ofByte? header.opcode with
    | none => rfl
    | some opcode =>
        have inside : header.size ≤ header.size + header.payloadSize ∧
            header.size + header.payloadSize ≤ buffer.length :=
          ⟨Nat.le_add_right _ _, Nat.le_of_not_lt short⟩
        dsimp only
        rw [slice, if_pos inside, Nat.add_sub_cancel_left]
        simp only [Frame.Header.payload]
        cases header.mask with
        | none => rfl
        | some key =>
            simp only [bind, Except.bind]
            rw [unmask_eq]
            rfl

/-- No step of the machine runs into a fault, and it comes to the verdict of the parser. -/
theorem parse_eq (options : ParseOptions) (buffer : Bytes) :
    parse options buffer = .ok (Frame.parse options buffer) := by
  unfold parse Frame.parse
  rw [read_header_eq]
  simp only [bind, Except.bind]
  cases Frame.Header.parse buffer with
  | error needed => rfl
  | ok header =>
      dsimp only [Frame.Header.check]
      cases options.maskPolicy.check header.mask.isSome with
      | error failure => rfl
      | ok _ =>
          dsimp only
          by_cases large : header.payloadSize > options.maxFrameSize
          · rw [if_pos large, if_pos large]
            rfl
          · rw [if_neg large, if_neg large, add]
            by_cases total : header.size + header.payloadSize < sizeBound
            · rw [if_pos total, if_neg (Nat.not_le_of_lt total)]
              dsimp only
              rw [read_frame_eq]
              rfl
            · rw [if_neg total, if_pos (Nat.le_of_not_lt total)]
              rfl

end Checked

theorem MaskPolicy.check_error_iff {policy : MaskPolicy} {isMasked : Bool} {failure : Error} :
    policy.check isMasked = .error failure ↔
      policy = .forbidden ∧ isMasked = true ∧ failure = .maskedServerFrame ∨
        policy = .required ∧ isMasked = false ∧ failure = .unmaskedFrame := by
  cases policy <;> cases isMasked <;> simp [check, eq_comm]

namespace Frame

/-- Why the front of a frame is refused; the first reason decides. Nothing behind the front and no
bit for the kind of the frame takes part in it. -/
inductive Refuses (options : ParseOptions) (front : Front) : Error → Prop where
  | masked (policy : options.maskPolicy = .forbidden) (masked : front.isMasked = true) :
      Refuses options front .maskedServerFrame
  | unmasked (policy : options.maskPolicy = .required) (unmasked : front.isMasked = false) :
      Refuses options front .unmaskedFrame
  | large (admitted : options.maskPolicy.check front.isMasked = .ok ())
      (exceeds : options.maxFrameSize < front.declared) :
      Refuses options front (.frameTooLarge front.declared options.maxFrameSize)
  | uncountable (admitted : options.maskPolicy.check front.isMasked = .ok ())
      (within : front.declared ≤ options.maxFrameSize)
      (reaches : 2 ^ 64 ≤ front.bytes.length + front.declared) :
      Refuses options front (.payloadTooLargeForPlatform front.declared (2 ^ 64 - 1))

theorem check_error_iff {options : ParseOptions} {front : Front} {failure : Error} :
    front.header.check options = .error failure ↔ Refuses options front failure := by
  have declared : front.header.payloadSize = front.declared := rfl
  have size : front.header.size = front.bytes.length := rfl
  have isMasked : front.header.mask.isSome = front.isMasked := front.key_is_some
  have bound : sizeBound = 2 ^ 64 := by decide
  rw [Header.check, isMasked, declared, size, bound]
  cases policy : options.maskPolicy.check front.isMasked with
  | error found =>
      dsimp only
      constructor
      · intro same
        cases same
        rcases MaskPolicy.check_error_iff.mp policy with ⟨forbids, masked, rfl⟩ | ⟨requires, unmasked, rfl⟩
        · exact .masked forbids masked
        · exact .unmasked requires unmasked
      · intro refused
        cases refused with
        | masked forbids masked =>
            rw [forbids, masked] at policy
            cases policy
            rfl
        | unmasked requires unmasked =>
            rw [requires, unmasked] at policy
            cases policy
            rfl
        | large admitted _ => cases admitted.symm.trans policy
        | uncountable admitted _ _ => cases admitted.symm.trans policy
  | ok _ =>
      dsimp only
      constructor
      · intro same
        split at same
        · rename_i exceeds
          cases same
          exact .large policy exceeds
        · rename_i within
          split at same
          · rename_i reaches
            cases same
            exact .uncountable policy (Nat.le_of_not_lt within) reaches
          · cases same
      · intro refused
        cases refused with
        | masked forbids masked =>
            rw [forbids, masked] at policy
            cases policy
        | unmasked requires unmasked =>
            rw [requires, unmasked] at policy
            cases policy
        | large _ exceeds => rw [if_pos exceeds]
        | uncountable _ within reaches =>
            rw [if_neg (Nat.not_lt_of_le within), if_pos reaches]

theorem parse_front (options : ParseOptions) (front : Front) (behind : Bytes) :
    parse options (front.bytes ++ behind) =
      (front.header.check options).map fun _ => front.header.read (front.bytes ++ behind) := by
  rw [parse, front.parse_bytes]
  dsimp only
  cases front.header.check options <;> rfl

theorem parse_front_error_iff {options : ParseOptions} {front : Front} {behind : Bytes}
    {failure : Error} :
    parse options (front.bytes ++ behind) = .error failure ↔ Refuses options front failure := by
  rw [parse_front, ← check_error_iff]
  cases front.header.check options with
  | error found => simp [Except.map]
  | ok _ => exact ⟨nofun, nofun⟩

theorem parse_without_front {options : ParseOptions} {buffer : Bytes}
    (without : ∀ (front : Front) (behind : Bytes), buffer ≠ front.bytes ++ behind) :
    ∃ needed, parse options buffer = .ok (.incomplete needed) := by
  cases headerRead : Header.parse buffer with
  | error needed => exact ⟨needed, parse_of_missing options headerRead⟩
  | ok header =>
      obtain ⟨front, behind, same, -⟩ := Front.of_parse headerRead
      exact absurd same (without front behind)

theorem skipped_of_parse {options : ParseOptions} {buffer : Bytes} {opcode : Byte} {consumed : Nat}
    (result : parse options buffer = .ok (.unexpected opcode consumed)) :
    ∃ (front : Front) (behind : Bytes), buffer = front.bytes ++ behind ∧
      consumed = front.bytes.length + front.declared ∧ front.header.check options = .ok () := by
  unfold parse at result
  split at result
  · cases result
  · rename_i header headerRead
    obtain ⟨front, behind, rfl, rfl⟩ := Front.of_parse headerRead
    split at result
    · cases result
    · rename_i passed
      unfold Header.read at result
      split at result
      · cases result
      · split at result
        · cases result
          exact ⟨front, behind, rfl, rfl, passed⟩
        · cases result

/-- Reading a frame is safe and keeps to the limits, whatever the buffer and the limits are. On a
machine of 64-bit words it never looks beyond the end of the buffer, and no sum or difference leaves
the words. Once the front of a frame is there, it alone decides whether and why the frame is refused,
and before that nothing is. So neither a frame that is given back nor one that is stepped over has a
payload above the limit. -/
theorem parse_safe (options : ParseOptions) (buffer : Bytes) :
    Checked.parse options buffer = .ok (parse options buffer) ∧
      (∀ (front : Front) (behind : Bytes), buffer = front.bytes ++ behind →
        ∀ failure, parse options buffer = .error failure ↔ Refuses options front failure) ∧
      ((∀ (front : Front) (behind : Bytes), buffer ≠ front.bytes ++ behind) →
        ∃ needed, parse options buffer = .ok (.incomplete needed)) ∧
      (∀ frame consumed, parse options buffer = .ok (.frame frame consumed) →
        frame.payload.length ≤ options.maxFrameSize) ∧
      ∀ opcode consumed, parse options buffer = .ok (.unexpected opcode consumed) →
        ∃ (front : Front) (behind : Bytes), buffer = front.bytes ++ behind ∧
          consumed = front.bytes.length + front.declared ∧ front.declared ≤ options.maxFrameSize := by
  refine ⟨Checked.parse_eq options buffer, ?_, parse_without_front, ?_, ?_⟩
  · rintro front behind rfl failure
    exact parse_front_error_iff
  · intro frame consumed result
    obtain ⟨front, behind, -, -, passed, -, payload, -⟩ := origin_of_parse result
    rw [payload]
    exact ((front.header.check_ok_iff options).mp passed).2.1
  · intro opcode consumed result
    obtain ⟨front, behind, same, total, passed⟩ := skipped_of_parse result
    exact ⟨front, behind, same, total, ((front.header.check_ok_iff options).mp passed).2.1⟩

/-- The front of a frame of a reserved kind that declares the largest size there is. -/
def largest : Front where
  first := 0x83
  second := 0x7F
  sizeField := List.replicate 8 0xFF
  keyField := []
  size_field_length := rfl
  key_field_length := rfl

/-- Without a limit, a frame of the largest size is refused before any of its payload is there. -/
theorem parse_safe_of_largest :
    largest.declared = 2 ^ 64 - 1 ∧
      parse ⟨2 ^ 64 - 1, .forbidden⟩ largest.bytes =
        .error (.payloadTooLargeForPlatform (2 ^ 64 - 1) (2 ^ 64 - 1)) ∧
      Checked.parse ⟨2 ^ 64 - 1, .forbidden⟩ largest.bytes =
        .ok (.error (.payloadTooLargeForPlatform (2 ^ 64 - 1) (2 ^ 64 - 1))) := by
  have declared : largest.declared = 2 ^ 64 - 1 := by decide +kernel
  obtain ⟨safe, decides, -⟩ := parse_safe ⟨2 ^ 64 - 1, .forbidden⟩ largest.bytes
  have refuses : Refuses ⟨2 ^ 64 - 1, .forbidden⟩ largest
      (.payloadTooLargeForPlatform largest.declared (2 ^ 64 - 1)) :=
    .uncountable rfl (Nat.le_of_eq declared) (by decide +kernel)
  have refused := (decides largest [] (List.append_nil _).symm _).mpr refuses
  rw [declared] at refused
  exact ⟨declared, refused, safe.trans (congrArg Except.ok refused)⟩

end Frame

end WebSocket
