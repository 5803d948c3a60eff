import WebSocket.Connection.Event
import WebSocket.Message
import WebSocket.Proofs.Frame.RoundTrip

/-!
What a server may send without breaking a rule: messages cut into fragments,
with control frames and frames of reserved kinds before, between and behind the
fragments. An assembler that is fed their pieces in order puts every message
together again.
-/

namespace WebSocket

inductive Piece where
  | frame (frame : Frame)
  | reserved (first : Byte) (isReserved : Opcode.ofByte? (first &&& 0x0F) = none) (payload : Bytes)

namespace Piece

def payload : Piece → Bytes
  | frame content => content.payload
  | reserved _ _ payload => payload

def wire : Piece → Bytes
  | frame content => content.serialize none
  | reserved first _ payload => Frame.bytesOf first payload

/-- The piece is not masked, and no larger than an endpoint is ready to take. -/
structure Fits (limits : Limits) (piece : Piece) : Prop where
  clear : ∀ frame, piece = .frame frame → frame.mask = none
  bounded : piece.payload.length ≤ Frame.Header.payloadBound
  within : piece.payload.length ≤ limits.frameSize

def parsed : Piece → Frame.Parsed
  | frame content => .frame content (content.wireSize false)
  | reserved first _ payload =>
      .unexpected (first &&& 0x0F) (Frame.bytesOf first payload).length

theorem consumed_eq (piece : Piece) : piece.parsed.consumed = piece.wire.length := by
  cases piece with
  | frame content => exact (content.serialize_length none).symm
  | reserved first isReserved payload => rfl

theorem parse_wire {limits : Limits} {piece : Piece} (fits : piece.Fits limits) (rest : Bytes) :
    Frame.parse (.serverFrames limits) (piece.wire ++ rest) = .ok piece.parsed := by
  cases piece with
  | frame content =>
      have same : { content with mask := none } = content := by
        rw [← fits.clear content rfl]
      have parsed := content.parse_encode none (.serverFrames limits) rest fits.bounded
        fits.within rfl
      rw [wire, Frame.serialize_eq_encode, parsed, same]
      rfl
  | reserved first isReserved payload =>
      exact Frame.parse_bytes_of isReserved rest fits.bounded fits.within rfl

end Piece

inductive Aside where
  | ping (payload : Bytes)
  | pong (payload : Bytes)
  | reserved (first : Byte) (isReserved : Opcode.ofByte? (first &&& 0x0F) = none) (payload : Bytes)

namespace Aside

def piece : Aside → Piece
  | ping payload => .frame (.ping payload)
  | pong payload => .frame (.pong payload)
  | reserved first isReserved payload => .reserved first isReserved payload

def event : Aside → Event
  | ping payload => .ping payload
  | pong payload => .pong payload
  | reserved first _ _ => .unexpected (first &&& 0x0F)

def isShort : Aside → Prop
  | ping payload | pong payload => payload.length ≤ Frame.maxControlPayload
  | reserved .. => True

structure Fits (limits : Limits) (aside : Aside) : Prop where
  bounded : aside.piece.payload.length ≤ Frame.Header.payloadBound
  within : aside.piece.payload.length ≤ limits.frameSize
  short : aside.isShort

end Aside

inductive Content where
  | text (content : String)
  | binary (content : Bytes)

namespace Content

def opcode : Content → Opcode
  | text _ => .text
  | binary _ => .binary

def bytes : Content → Bytes
  | text content => Utf8.encode content
  | binary content => content

def event : Content → Event
  | text content => .text content
  | binary content => .binary content

end Content

/-- A message cut into its first fragment and the others, each of these behind
whatever comes in between. A fragment may be empty. -/
structure Letter where
  content : Content
  first : Bytes
  rest : List (List Aside × Bytes)
  whole : first ++ (rest.map Prod.snd).flatten = content.bytes

namespace Letter

def following : List (List Aside × Bytes) → List Piece
  | [] => []
  | (asides, fragment) :: more =>
      asides.map Aside.piece ++ .frame (.of more.isEmpty .continuation fragment) :: following more

def between (rest : List (List Aside × Bytes)) : List Event :=
  rest.flatMap fun part => part.1.map Aside.event

def pieces (letter : Letter) : List Piece :=
  .frame (.of letter.rest.isEmpty letter.content.opcode letter.first) :: following letter.rest

def events (letter : Letter) : List Event := between letter.rest ++ [letter.content.event]

structure Fits (limits : Limits) (letter : Letter) : Prop where
  bounded : ∀ fragment ∈ letter.first :: letter.rest.map Prod.snd,
    fragment.length ≤ Frame.Header.payloadBound
  within : ∀ fragment ∈ letter.first :: letter.rest.map Prod.snd, fragment.length ≤ limits.frameSize
  few : letter.rest.length + 1 ≤ limits.fragmentCount
  small : letter.content.bytes.length ≤ limits.messageSize
  asides : ∀ part ∈ letter.rest, ∀ aside ∈ part.1, aside.Fits limits

end Letter

inductive Item where
  | aside (single : Aside)
  | letter (written : Letter)

namespace Item

def pieces : Item → List Piece
  | aside single => [single.piece]
  | letter written => written.pieces

def events : Item → List Event
  | aside single => [single.event]
  | letter written => written.events

def Fits (limits : Limits) : Item → Prop
  | aside single => single.Fits limits
  | letter written => written.Fits limits

def wire (item : Item) : Bytes := item.pieces.flatMap Piece.wire

end Item

theorem Aside.piece_fits {limits : Limits} {aside : Aside} (fits : aside.Fits limits) :
    aside.piece.Fits limits := by
  refine ⟨fun frame same => ?_, fits.bounded, fits.within⟩
  cases aside <;> cases same <;> rfl

theorem Piece.fragment_fits {limits : Limits} {fragment : Bytes} (fin : Bool) (opcode : Opcode)
    (bounded : fragment.length ≤ Frame.Header.payloadBound)
    (within : fragment.length ≤ limits.frameSize) :
    (Piece.frame (.of fin opcode fragment)).Fits limits := by
  refine ⟨fun frame same => ?_, bounded, within⟩
  cases same
  rfl

theorem Letter.pieces_fit {limits : Limits} {letter : Letter} (fits : letter.Fits limits) :
    ∀ piece ∈ letter.pieces, piece.Fits limits := by
  have following : ∀ rest : List (List Aside × Bytes),
      (∀ fragment ∈ rest.map Prod.snd,
        fragment.length ≤ Frame.Header.payloadBound ∧ fragment.length ≤ limits.frameSize) →
      (∀ part ∈ rest, ∀ aside ∈ part.1, aside.Fits limits) →
      ∀ piece ∈ Letter.following rest, piece.Fits limits := by
    intro rest sized asides
    induction rest with
    | nil => exact fun piece absent => nomatch absent
    | cons part more induction =>
        intro piece member
        simp only [Letter.following, List.mem_append, List.mem_map, List.mem_cons] at member
        rcases member with ⟨aside, inside, rfl⟩ | rfl | member
        · exact Aside.piece_fits (asides part List.mem_cons_self aside inside)
        · have fragment := sized part.2 List.mem_cons_self
          exact Piece.fragment_fits _ _ fragment.1 fragment.2
        · exact induction (fun fragment found => sized fragment (List.mem_cons_of_mem _ found))
            (fun part found => asides part (List.mem_cons_of_mem _ found)) piece member
  intro piece member
  rcases List.mem_cons.mp member with rfl | member
  · exact Piece.fragment_fits _ _ (fits.bounded _ List.mem_cons_self)
      (fits.within _ List.mem_cons_self)
  · refine following letter.rest (fun fragment found => ?_) fits.asides piece member
    exact ⟨fits.bounded _ (List.mem_cons_of_mem _ found),
      fits.within _ (List.mem_cons_of_mem _ found)⟩

theorem Item.pieces_fit {limits : Limits} {item : Item} (fits : item.Fits limits) :
    ∀ piece ∈ item.pieces, piece.Fits limits := by
  cases item with
  | aside single =>
      intro piece member
      obtain rfl := List.mem_singleton.mp member
      exact Aside.piece_fits fits
  | letter written => exact Letter.pieces_fit fits

/-- What an assembler makes of a piece: the events to tell, and the assembler
afterwards. -/
inductive Assembler.Takes : Assembler → Piece → List Event → Assembler → Prop where
  | ping {assembler : Assembler} {payload : Bytes} (short : payload.length ≤ Frame.maxControlPayload) :
      Takes assembler (.frame (.ping payload)) [.ping payload] assembler
  | pong {assembler : Assembler} {payload : Bytes} (short : payload.length ≤ Frame.maxControlPayload) :
      Takes assembler (.frame (.pong payload)) [.pong payload] assembler
  | reserved {assembler : Assembler} {first : Byte}
      (isReserved : Opcode.ofByte? (first &&& 0x0F) = none) (payload : Bytes) :
      Takes assembler (.reserved first isReserved payload) [.unexpected (first &&& 0x0F)] assembler
  | part {assembler next : Assembler} {fin : Bool} {opcode : Opcode} {payload : Bytes}
      (isData : opcode.isControl = false)
      (pushed : assembler.push (.of fin opcode payload) = (.ok none, next)) :
      Takes assembler (.frame (.of fin opcode payload)) [] next
  | whole {assembler next : Assembler} {fin : Bool} {opcode : Opcode} {payload : Bytes}
      {content : Content}
      (isData : opcode.isControl = false)
      (pushed : assembler.push (.of fin opcode payload) =
        (.ok (some ⟨content.opcode, content.bytes⟩), next)) :
      Takes assembler (.frame (.of fin opcode payload)) [content.event] next

inductive Assembler.TakesAll : Assembler → List Piece → List Event → Assembler → Prop where
  | nil (assembler : Assembler) : TakesAll assembler [] [] assembler
  | cons {assembler next last : Assembler} {piece : Piece} {pieces : List Piece}
      {events more : List Event} (first : assembler.Takes piece events next)
      (rest : TakesAll next pieces more last) :
      TakesAll assembler (piece :: pieces) (events ++ more) last

namespace Assembler

theorem TakesAll.append {assembler next last : Assembler} {pieces others : List Piece}
    {events more : List Event} (first : assembler.TakesAll pieces events next)
    (rest : next.TakesAll others more last) :
    assembler.TakesAll (pieces ++ others) (events ++ more) last := by
  induction first with
  | nil => exact rest
  | cons taken _ induction =>
      rw [List.cons_append, List.append_assoc]
      exact .cons taken (induction rest)

theorem TakesAll.single {assembler next : Assembler} {piece : Piece} {events : List Event}
    (taken : assembler.Takes piece events next) : assembler.TakesAll [piece] events next := by
  have all := TakesAll.cons taken (.nil next)
  rwa [List.append_nil] at all

theorem takes_aside (assembler : Assembler) {aside : Aside} (short : aside.isShort) :
    assembler.Takes aside.piece [aside.event] assembler := by
  cases aside with
  | ping payload => exact .ping short
  | pong payload => exact .pong short
  | reserved first isReserved payload => exact .reserved isReserved payload

theorem takes_asides (assembler : Assembler) (asides : List Aside)
    (short : ∀ aside ∈ asides, aside.isShort) :
    assembler.TakesAll (asides.map Aside.piece) (asides.map Aside.event) assembler := by
  induction asides with
  | nil => exact .nil assembler
  | cons aside rest induction =>
      have first := takes_aside assembler (short aside List.mem_cons_self)
      exact .cons first (induction fun other member => short other (List.mem_cons_of_mem _ member))

def amid (limits : Limits) (content : Content) (buffer : Bytes) (count : Nat) : Assembler :=
  ⟨limits, some content.opcode, buffer, count⟩

variable {limits : Limits} {content : Content} {buffer fragment : Bytes} {count : Nat}

theorem extend_amid (fin : Bool) (opcode : Opcode) (few : count + 1 ≤ limits.fragmentCount)
    (small : (buffer ++ fragment).length ≤ limits.messageSize)
    (whole : fin = true → buffer ++ fragment = content.bytes) :
    (amid limits content buffer count).extend (.of fin opcode fragment) =
      if fin then (.ok (some ⟨content.opcode, content.bytes⟩), { limits })
      else (.ok none, amid limits content (buffer ++ fragment) (count + 1)) := by
  rw [List.length_append] at small
  have counted : limits.checkFragmentCount (count + 1) = .ok () := by
    rw [Limits.checkFragmentCount, if_neg (by omega)]
  have sized : limits.checkMessageSize (buffer.length + fragment.length) = .ok () := by
    rw [Limits.checkMessageSize, if_neg (by omega)]
  cases fin with
  | false => simp only [extend, amid, Frame.of, counted, sized]; rfl
  | true =>
      have joined := whole rfl
      have valid : ¬(content.opcode = .text ∧ ¬Utf8.isValid content.bytes) := by
        cases content with
        | binary content => exact fun invalid => nomatch invalid.1
        | text content =>
            have decoded : Utf8.decode (Utf8.encode content) = some content :=
              Utf8.decode_eq_some_iff.mpr rfl
            simp [Content.bytes, Utf8.isValid, decoded]
      simp only [extend, amid, Frame.of, counted, sized, joined, Bool.not_true, Bool.false_eq_true,
        if_false, if_true]
      rw [if_neg valid]

theorem push_continuation (fin : Bool) (few : count + 1 ≤ limits.fragmentCount)
    (small : (buffer ++ fragment).length ≤ limits.messageSize)
    (whole : fin = true → buffer ++ fragment = content.bytes) :
    (amid limits content buffer count).push (.of fin .continuation fragment) =
      if fin then (.ok (some ⟨content.opcode, content.bytes⟩), { limits })
      else (.ok none, amid limits content (buffer ++ fragment) (count + 1)) := by
  rw [← extend_amid fin .continuation few small whole]
  rfl

theorem push_first (fin : Bool) (few : 1 ≤ limits.fragmentCount)
    (small : fragment.length ≤ limits.messageSize) (whole : fin = true → fragment = content.bytes) :
    push { limits } (.of fin content.opcode fragment) =
      if fin then (.ok (some ⟨content.opcode, content.bytes⟩), { limits })
      else (.ok none, amid limits content fragment 1) := by
  have begun : (amid limits content [] 0).extend (.of fin content.opcode fragment) =
      if fin then (.ok (some ⟨content.opcode, content.bytes⟩), { limits })
      else (.ok none, amid limits content ([] ++ fragment) (0 + 1)) :=
    extend_amid fin content.opcode few small whole
  rw [List.nil_append, Nat.zero_add] at begun
  rw [← begun]
  cases content <;> rfl

theorem takes_following (rest : List (List Aside × Bytes)) (unfinished : rest ≠ [])
    (whole : buffer ++ (rest.map Prod.snd).flatten = content.bytes)
    (few : count + rest.length ≤ limits.fragmentCount)
    (small : content.bytes.length ≤ limits.messageSize)
    (short : ∀ part ∈ rest, ∀ aside ∈ part.1, aside.isShort) :
    (amid limits content buffer count).TakesAll (Letter.following rest)
      (Letter.between rest ++ [content.event]) { limits } := by
  induction rest generalizing buffer count with
  | nil => exact absurd rfl unfinished
  | cons part more induction =>
      obtain ⟨asides, fragment⟩ := part
      have besides := takes_asides (amid limits content buffer count) asides
        (short (asides, fragment) List.mem_cons_self)
      rw [List.map_cons, List.flatten_cons, ← List.append_assoc] at whole
      rw [List.length_cons] at few
      dsimp only at whole
      have counted : count + 1 ≤ limits.fragmentCount := by omega
      have sized : (buffer ++ fragment).length ≤ limits.messageSize := by
        rw [← whole, List.length_append] at small
        omega
      have last : more.isEmpty = true → buffer ++ fragment = content.bytes := by
        intro empty
        rw [List.isEmpty_iff.mp empty] at whole
        simpa using whole
      have pushed := push_continuation more.isEmpty counted sized last
      rw [Letter.following, Letter.between, List.flatMap_cons, List.append_assoc]
      apply besides.append
      cases more with
      | nil =>
          rw [List.isEmpty_nil, if_pos rfl] at pushed
          exact .single (.whole rfl pushed)
      | cons next others =>
          rw [List.isEmpty_cons, if_neg (by decide)] at pushed
          have counted : count + 1 + (next :: others).length ≤ limits.fragmentCount := by omega
          have later := induction (List.cons_ne_nil _ _) whole counted
            fun part member => short part (List.mem_cons_of_mem _ member)
          have all := TakesAll.cons (.part rfl pushed) later
          exact all

theorem takes_letter {letter : Letter} (fits : letter.Fits limits) :
    Assembler.TakesAll { limits } letter.pieces letter.events { limits } := by
  obtain ⟨content, first, rest, whole⟩ := letter
  have few := fits.few
  have small := fits.small
  have short : ∀ part ∈ rest, ∀ aside ∈ part.1, aside.isShort :=
    fun part member aside inside => (fits.asides part member aside inside).short
  dsimp only at few small
  have sized : first.length ≤ limits.messageSize := by
    rw [← whole, List.length_append] at small
    omega
  have last : rest.isEmpty = true → first = content.bytes := by
    intro empty
    rw [List.isEmpty_iff.mp empty] at whole
    simpa using whole
  have isData : content.opcode.isControl = false := by
    cases content <;> rfl
  have pushed := push_first rest.isEmpty (by omega) sized last
  dsimp only [Letter.pieces, Letter.events]
  cases rest with
  | nil =>
      rw [List.isEmpty_nil, if_pos rfl] at pushed
      exact .single (.whole isData pushed)
  | cons next others =>
      rw [List.isEmpty_cons, if_neg (by decide)] at pushed
      have counted : 1 + (next :: others).length ≤ limits.fragmentCount := by omega
      have later := takes_following (next :: others) (List.cons_ne_nil _ _) whole counted small short
      have all := TakesAll.cons (.part isData pushed) later
      exact all

theorem takes_items {items : List Item} (fits : ∀ item ∈ items, item.Fits limits) :
    Assembler.TakesAll { limits } (items.flatMap Item.pieces) (items.flatMap Item.events)
      { limits } := by
  induction items with
  | nil => exact .nil _
  | cons item rest induction =>
      have others := induction fun other member => fits other (List.mem_cons_of_mem _ member)
      have fitting := fits item List.mem_cons_self
      rw [List.flatMap_cons, List.flatMap_cons]
      refine TakesAll.append ?_ others
      cases item with
      | aside single => exact .single (takes_aside _ fitting.short)
      | letter written => exact takes_letter fitting

end Assembler

end WebSocket
