import WebSocket.Connection.Event
import WebSocket.Message
import WebSocket.Proofs.Frame.Chunks

/-!
The course that a session takes, told from the bytes of the peer alone. Every frame is
looked over for faults in a fixed order. The first frame with a fault and the first
Close frame end the session; of every frame before them something comes, and the
session goes on.
-/

namespace WebSocket

inductive Fault where
  | masked
  | frameTooLarge
  | beyondPlatform
  | reservedBits
  | fragmentedControl
  | longControl
  | strayContinuation
  | interruptedMessage
  | tooManyFragments
  | messageTooLarge
  | notText
  | closeOfOneByte
  | closeCode
  | closeReason
  deriving DecidableEq, Repr

namespace Fault

def code : Fault → UInt16
  | notText | closeReason => 1007
  | frameTooLarge | beyondPlatform | tooManyFragments | messageTooLarge => 1009
  | _ => 1002

/-- The first of the faults that is found. -/
def first (checks : List (Fault × Bool)) : Option Fault :=
  (checks.find? fun check => check.2).map fun check => check.1

theorem first_append (checks others : List (Fault × Bool)) :
    first (checks ++ others) = (first checks).or (first others) := by
  rw [first, List.find?_append]
  unfold first
  cases checks.find? fun check => check.2 <;> rfl

@[simp]
theorem first_passed (fault : Fault) (rest : List (Fault × Bool)) :
    first ((fault, false) :: rest) = first rest := rfl

theorem not_found {checks : List (Fault × Bool)} (passed : first checks = none)
    {check : Fault × Bool} (member : check ∈ checks) : check.2 = false := by
  have absent := List.find?_eq_none.mp (Option.map_eq_none_iff.mp passed)
  simpa using absent check member

/-- A check fails with the code of the fault, or it passes where there is none. -/
def Explains {Result : Type} (fault : Option Fault) : Except Error Result → Prop
  | .error failure => ∃ found, fault = some found ∧ found.code = failure.closeCode
  | .ok _ => fault = none

end Fault

structure Draft where
  isText : Bool
  fragments : List Bytes
  deriving DecidableEq, Repr

namespace Draft

def content (draft : Draft) : Bytes := draft.fragments.flatten

def opcode (draft : Draft) : Opcode := if draft.isText then .text else .binary

def message (draft : Draft) : Message := ⟨draft.opcode, draft.content⟩

/-- What is told of the message once it is complete. A text that is not UTF-8 is not told. -/
def event? (draft : Draft) : Option Event :=
  if draft.isText then (Utf8.decode draft.content).map .text else some (.binary draft.content)

end Draft

def Assembler.holding (limits : Limits) : Option Draft → Assembler
  | none => { limits }
  | some draft => ⟨limits, some draft.opcode, draft.content, draft.fragments.length⟩

/-- What a connection does on its own: it tells its observers, or it sends a frame. -/
inductive Deed where
  | tells (event : Event)
  | sends (frame : Frame)
  deriving DecidableEq

def Deed.sent? : Deed → Option Frame
  | tells _ => none
  | sends frame => some frame

/-- How a session ends: with a fault of the peer's, or with the peer's Close frame. -/
inductive Finale where
  | fault (found : Fault)
  | close (content : Option CloseFrame)
  deriving DecidableEq, Repr

namespace Finale

/-- The Close frame that ends the session from this side. The peer's own code comes
back without a reason. -/
def answer : Finale → Frame
  | fault found => .close (some found.code) "protocol error"
  | close content => .close (content.map fun close => close.code.number) ""

def deeds (ending : Finale) : List Deed :=
  match ending with
  | fault _ => [.sends ending.answer, .tells .closed]
  | close content => [.tells (.close content), .sends ending.answer, .tells .closed]

/-- The peer's Close as it is known afterwards. -/
def peerClose (before : Option CloseFrame) : Finale → Option CloseFrame
  | fault _ => before
  | close content => content

end Finale

namespace Frame

def ruleChecks (frame : Frame) : List (Fault × Bool) :=
  [(.reservedBits, frame.rsv1 || frame.rsv2 || frame.rsv3),
    (.fragmentedControl, frame.opcode.isControl && !frame.fin),
    (.longControl, frame.opcode.isControl && decide (125 < frame.payload.length))]

def draft (begun : Option Draft) (frame : Frame) : Draft :=
  match begun with
  | some message => { message with fragments := message.fragments ++ [frame.payload] }
  | none => ⟨frame.opcode == .text, [frame.payload]⟩

def messageChecks (limits : Limits) (begun : Option Draft) (frame : Frame) : List (Fault × Bool) :=
  let message := frame.draft begun
  [(.strayContinuation, frame.opcode == .continuation && begun.isNone),
    (.interruptedMessage, frame.opcode != .continuation && begun.isSome),
    (.tooManyFragments, decide (limits.fragmentCount < message.fragments.length)),
    (.messageTooLarge, decide (limits.messageSize < message.content.length)),
    (.notText, frame.fin && message.isText && !Utf8.isValid message.content)]

/-- A Close frame has no payload, or a code that may travel and a reason in UTF-8. -/
def closeChecks (frame : Frame) : List (Fault × Bool) :=
  [(.closeOfOneByte, frame.payload.length == 1),
    (.closeCode, decide (2 ≤ frame.payload.length) &&
      !decide (CloseCode.Sendable (BigEndian.decode (frame.payload.take 2)))),
    (.closeReason, !Utf8.isValid (frame.payload.drop 2))]

def checks (limits : Limits) (begun : Option Draft) (frame : Frame) : List (Fault × Bool) :=
  frame.ruleChecks ++
    if frame.opcode = .close then frame.closeChecks
    else if frame.opcode.isControl then []
    else frame.messageChecks limits begun

def farewell (frame : Frame) : Option CloseFrame :=
  match frame.payload with
  | high :: low :: reason =>
      some ⟨.ofNumber (UInt16.ofNat (BigEndian.decode [high, low])), (Utf8.decode reason).getD ""⟩
  | _ => none

def ending? (limits : Limits) (begun : Option Draft) (frame : Frame) : Option Finale :=
  match Fault.first (frame.checks limits begun) with
  | some fault => some (.fault fault)
  | none => if frame.opcode = .close then some (.close frame.farewell) else none

def deeds (begun : Option Draft) (frame : Frame) : List Deed :=
  match frame.opcode with
  | .ping => [.tells (.ping frame.payload), .sends (.pong frame.payload)]
  | .pong => [.tells (.pong frame.payload)]
  | .close => []
  | _ => if frame.fin then (frame.draft begun).event?.toList.map .tells else []

/-- The message in progress after the frame. Control frames leave it as it is. -/
def remains (begun : Option Draft) (frame : Frame) : Option Draft :=
  if frame.opcode.isControl then begun
  else if frame.fin then none
  else some (frame.draft begun)

def Header.checks (limits : Limits) (header : Header) : List (Fault × Bool) :=
  [(.masked, header.mask.isSome),
    (.frameTooLarge, decide (limits.frameSize < header.payloadSize)),
    (.beyondPlatform, decide (sizeBound ≤ header.size + header.payloadSize))]

def refusal? (limits : Limits) (bytes : Bytes) : Option Fault :=
  match Header.parse bytes with
  | .ok header => Fault.first (header.checks limits)
  | .error _ => none

namespace Parsed

def ending? (limits : Limits) (begun : Option Draft) : Parsed → Option Finale
  | frame content _ => content.ending? limits begun
  | _ => none

def deeds (begun : Option Draft) : Parsed → List Deed
  | frame content _ => content.deeds begun
  | unexpected opcode _ => [.tells (.unexpected opcode)]
  | incomplete _ => []

def remains (begun : Option Draft) : Parsed → Option Draft
  | frame content _ => content.remains begun
  | _ => begun

def ping? : Parsed → Option Bytes
  | frame content _ => if content.opcode = .ping then some content.payload else none
  | _ => none

def isSoundPing : Parsed → Bool
  | frame content _ => content.opcode == .ping && (Fault.first content.ruleChecks).isNone
  | _ => false

end Parsed

end Frame

/-- The frames before the ending, each with what comes of it, and the ending if there
is one. -/
structure Course where
  handled : List (Frame.Parsed × List Deed)
  ending : Option Finale
  deriving DecidableEq

namespace Course

open WebSocket.Frame

def along (limits : Limits) (refusal : Option Fault) : Option Draft → List Parsed → Course
  | _, [] => ⟨[], refusal.map .fault⟩
  | begun, parsed :: rest =>
      match parsed.ending? limits begun with
      | some ending => ⟨[], some ending⟩
      | none =>
          let later := along limits refusal (parsed.remains begun) rest
          ⟨(parsed, parsed.deeds begun) :: later.handled, later.ending⟩

/-- The course of a session in which these bytes come in. -/
def ofBytes (limits : Limits) (begun : Option Draft) (bytes : Bytes) : Course :=
  let drained := drain (.serverFrames limits) bytes
  along limits (refusal? limits drained.pending) begun drained.parsed

/-- All that the connection does. Without an ending frame it ends with the stream. -/
def deeds (course : Course) (streamEnds : Bool) : List Deed :=
  course.handled.flatMap Prod.snd ++
    match course.ending with
    | some ending => ending.deeds
    | none => if streamEnds then [.tells .closed] else []

end Course

namespace Frame

theorem Header.explains_check (limits : Limits) (header : Header) :
    Fault.Explains (Fault.first (header.checks limits)) (header.check (.serverFrames limits)) := by
  unfold Header.check
  cases masked : header.mask.isSome with
  | true => exact ⟨.masked, by simp [Header.checks, masked, Fault.first], rfl⟩
  | false =>
      have allowed : (ParseOptions.serverFrames limits).maskPolicy.check false = .ok () := rfl
      rw [allowed]
      dsimp only
      by_cases large : header.payloadSize > (ParseOptions.serverFrames limits).maxFrameSize
      · rw [if_pos large]
        replace large : limits.frameSize < header.payloadSize := large
        exact ⟨.frameTooLarge, by simp [Header.checks, masked, large, Fault.first], rfl⟩
      · rw [if_neg large]
        replace large : ¬limits.frameSize < header.payloadSize := large
        by_cases beyond : sizeBound ≤ header.size + header.payloadSize
        · rw [if_pos beyond]
          exact ⟨.beyondPlatform, by simp [Header.checks, masked, large, beyond, Fault.first], rfl⟩
        · rw [if_neg beyond]
          simp [Fault.Explains, Header.checks, masked, large, beyond, Fault.first]

theorem explains_validate (frame : Frame) :
    Fault.Explains (Fault.first frame.ruleChecks) frame.validate := by
  unfold validate ruleChecks
  cases reserved : frame.rsv1 || frame.rsv2 || frame.rsv3 with
  | true => exact ⟨.reservedBits, rfl, rfl⟩
  | false =>
      cases control : frame.opcode.isControl with
      | false => exact rfl
      | true =>
          cases fin : frame.fin with
          | false => exact ⟨.fragmentedControl, rfl, rfl⟩
          | true =>
              simp only [Bool.true_and, Bool.not_true, Bool.false_eq_true, if_false, if_true]
              by_cases long : frame.payload.length > maxControlPayload
              · rw [if_pos long]
                exact ⟨.longControl, by simp [show 125 < _ from long, Fault.first], rfl⟩
              · rw [if_neg long]
                simp [Fault.Explains, show ¬125 < _ from long, Fault.first]

section

variable {limits : Limits} {begun : Option Draft} {frame : Frame}

theorem ending_of_broken {fault : Fault} (broken : Fault.first frame.ruleChecks = some fault) :
    frame.ending? limits begun = some (.fault fault) := by
  rw [ending?, checks, Fault.first_append, broken]
  rfl

theorem ending_of_kept (kept : Fault.first frame.ruleChecks = none) :
    frame.ending? limits begun =
      match Fault.first (if frame.opcode = .close then frame.closeChecks
        else if frame.opcode.isControl then [] else frame.messageChecks limits begun) with
      | some fault => some (.fault fault)
      | none => if frame.opcode = .close then some (.close frame.farewell) else none := by
  rw [ending?, checks, Fault.first_append, kept]
  rfl

theorem ending_of_data (kept : Fault.first frame.ruleChecks = none)
    (isData : frame.opcode.isControl = false) :
    frame.ending? limits begun = (Fault.first (frame.messageChecks limits begun)).map .fault := by
  have notClose : frame.opcode ≠ .close := by
    intro isClose
    rw [isClose] at isData
    cases isData
  simp only [ending_of_kept kept, if_neg notClose, isData, Bool.false_eq_true, if_false]
  cases Fault.first (frame.messageChecks limits begun) <;> rfl

theorem ending_of_close (kept : Fault.first frame.ruleChecks = none) (isClose : frame.opcode = .close) :
    frame.ending? limits begun =
      some ((Fault.first frame.closeChecks).elim (.close frame.farewell) .fault) := by
  simp only [ending_of_kept kept, if_pos isClose]
  cases Fault.first frame.closeChecks <;> rfl

theorem ending_of_other (kept : Fault.first frame.ruleChecks = none)
    (other : frame.opcode = .ping ∨ frame.opcode = .pong) : frame.ending? limits begun = none := by
  rw [ending_of_kept kept]
  rcases other with opcode | opcode <;> rw [opcode] <;> rfl

end

theorem deeds_of_data (begun : Option Draft) {frame : Frame} (isData : frame.opcode.isControl = false) :
    frame.deeds begun =
      if frame.fin then (frame.draft begun).event?.toList.map Deed.tells else [] := by
  unfold deeds
  cases opcode : frame.opcode with
  | continuation | text | binary => rfl
  | _ => rw [opcode] at isData; cases isData

theorem remains_of_data (begun : Option Draft) {frame : Frame}
    (isData : frame.opcode.isControl = false) :
    frame.remains begun = if frame.fin then none else some (frame.draft begun) := by
  rw [remains, isData]
  rfl

theorem remains_of_control (begun : Option Draft) {frame : Frame}
    (isControl : frame.opcode.isControl = true) : frame.remains begun = begun := by
  rw [remains, if_pos isControl]

theorem valid_of_passed {limits : Limits} {begun : Option Draft} {frame : Frame}
    (passed : Fault.first (frame.messageChecks limits begun) = none) (fin : frame.fin = true)
    (isText : (frame.draft begun).isText = true) :
    Utf8.isValid (frame.draft begun).content = true := by
  have check : (.notText, frame.fin && (frame.draft begun).isText &&
      !Utf8.isValid (frame.draft begun).content) ∈ frame.messageChecks limits begun := by
    simp [messageChecks]
  have absent := Fault.not_found passed check
  simpa [fin, isText] using absent

theorem decode_pair (high low : Byte) : BigEndian.decode [high, low] < 65536 := by
  have first := high.toNat_lt
  have second := low.toNat_lt
  simp only [BigEndian.decode, List.foldl_cons, List.foldl_nil]
  omega

section

variable {frame : Frame} {high low : Byte} {reason : Bytes}

theorem close_code_of_pair (isClose : frame.opcode = .close)
    (payload : frame.payload = high :: low :: reason) :
    frame.closeCode = some (.ofNumber (UInt16.ofNat (BigEndian.decode [high, low]))) := by
  rw [closeCode, isClose, payload]

theorem is_valid_of_pair (high low : Byte) :
    (CloseCode.ofNumber (UInt16.ofNat (BigEndian.decode [high, low]))).isValid =
      decide (CloseCode.Sendable (BigEndian.decode [high, low])) := by
  rw [CloseCode.isValid, CloseCode.number_of_number, UInt16.toNat_ofNat',
    Nat.mod_eq_of_lt (decode_pair high low)]

theorem close_reason_of_pair (isClose : frame.opcode = .close)
    (payload : frame.payload = high :: low :: reason) :
    frame.closeReason = (Utf8.decode reason).elim (.error .invalidUtf8) .ok := by
  unfold closeReason
  rw [isClose, payload]
  cases reason with
  | nil =>
      have empty : Utf8.decode [] = some "" := Utf8.decode_eq_some_iff.mpr rfl
      rw [empty]
      rfl
  | cons first more =>
      rw [if_neg (by simp)]
      dsimp only [List.drop]
      cases Utf8.decode (first :: more) <;> rfl

theorem explains_close (isClose : frame.opcode = .close) :
    Fault.Explains (Fault.first frame.closeChecks) frame.closeFrame ∧
      ∀ content, frame.closeFrame = .ok content → content = frame.farewell := by
  unfold closeFrame farewell closeChecks
  cases payload : frame.payload with
  | nil => exact ⟨rfl, fun content read => (Except.ok.inj read).symm⟩
  | cons high more =>
      cases more with
      | nil => exact ⟨⟨.closeOfOneByte, rfl, rfl⟩, nofun⟩
      | cons low reason =>
          have long : (decide (2 ≤ (high :: low :: reason).length)) = true := by simp
          have notOne : ((high :: low :: reason).length == 1) = false := by simp
          dsimp only [List.take, List.drop]
          rw [close_code_of_pair isClose payload, close_reason_of_pair isClose payload, long, notOne]
          simp only [Option.getD_some, is_valid_of_pair, Utf8.isValid]
          by_cases sendable : CloseCode.Sendable (BigEndian.decode [high, low])
          · simp only [sendable, decide_true, Bool.not_true, Bool.false_eq_true, if_false]
            cases Utf8.decode reason with
            | none => exact ⟨⟨.closeReason, rfl, rfl⟩, nofun⟩
            | some text => exact ⟨rfl, fun content read => (Except.ok.inj read).symm⟩
          · simp only [sendable, decide_false, Bool.not_false, if_true]
            exact ⟨⟨.closeCode, rfl, rfl⟩, nofun⟩

end

end Frame

/-- What an assembler answers to the fragment that makes the draft what it is. -/
def Draft.Answers (limits : Limits) (draft : Draft) (fin : Bool) (fault : Option Fault)
    (answer : Except Error (Option Message) × Assembler) : Prop :=
  Fault.Explains fault answer.1 ∧ (fault = none →
    answer = (.ok (if fin then some draft.message else none),
      .holding limits (if fin then none else some draft)))

namespace Assembler

theorem extend_answers (limits : Limits) (isText : Bool) (before : List Bytes) (frame : Frame) :
    let draft : Draft := ⟨isText, before ++ [frame.payload]⟩
    draft.Answers limits frame.fin
      (Fault.first
        [(.tooManyFragments, decide (limits.fragmentCount < draft.fragments.length)),
          (.messageTooLarge, decide (limits.messageSize < draft.content.length)),
          (.notText, frame.fin && draft.isText && !Utf8.isValid draft.content)])
      (extend ⟨limits, some draft.opcode, before.flatten, before.length⟩ frame) := by
  intro draft
  have counted : before.length + 1 = draft.fragments.length := by simp [draft]
  have joined : before.flatten ++ frame.payload = draft.content := by simp [draft, Draft.content]
  have sized : before.flatten.length + frame.payload.length = draft.content.length := by
    rw [← joined, List.length_append]
  unfold extend
  dsimp only
  rw [counted, sized, joined]
  by_cases many : limits.fragmentCount < draft.fragments.length
  · rw [Limits.checkFragmentCount, if_pos many]
    exact ⟨⟨.tooManyFragments, by simp [many, Fault.first], rfl⟩, by simp [many, Fault.first]⟩
  rw [Limits.checkFragmentCount, if_neg many]
  by_cases large : limits.messageSize < draft.content.length
  · rw [Limits.checkMessageSize, if_pos large]
    exact ⟨⟨.messageTooLarge, by simp [many, large, Fault.first], rfl⟩, by simp [many, large, Fault.first]⟩
  rw [Limits.checkMessageSize, if_neg large]
  simp only [many, large, decide_false, Fault.first_passed]
  cases fin : frame.fin with
  | false => exact ⟨rfl, fun _ => rfl⟩
  | true =>
      have kind : draft.opcode = .text ↔ draft.isText = true := by
        cases text : draft.isText <;> simp [Draft.opcode, text]
      simp only [Bool.not_true, Bool.false_eq_true, if_false, Bool.true_and, kind]
      by_cases broken : draft.isText = true ∧ ¬Utf8.isValid draft.content = true
      · rw [if_pos broken]
        exact ⟨⟨.notText, by simp [broken, Fault.first], rfl⟩, by simp [broken, Fault.first]⟩
      · rw [if_neg broken]
        have fine : (draft.isText && !Utf8.isValid draft.content) = false := by simpa using broken
        exact ⟨by simp [fine, Fault.Explains, Fault.first], fun _ => rfl⟩

/-- A data frame is refused for the first fault that is found, or it is taken. -/
theorem push_answers (limits : Limits) (begun : Option Draft) {frame : Frame}
    (isData : frame.opcode.isControl = false) :
    (frame.draft begun).Answers limits frame.fin (Fault.first (frame.messageChecks limits begun))
      ((holding limits begun).push frame) := by
  unfold push Frame.messageChecks
  rw [isData]
  cases begun with
  | none =>
      have first : frame.draft none = ⟨frame.opcode == .text, [frame.payload]⟩ := rfl
      rw [first]
      cases opcode : frame.opcode with
      | continuation => exact ⟨⟨.strayContinuation, rfl, rfl⟩, nofun⟩
      | text => exact extend_answers limits true [] frame
      | binary => exact extend_answers limits false [] frame
      | _ => rw [opcode] at isData; cases isData
  | some message =>
      cases opcode : frame.opcode with
      | continuation => exact extend_answers limits message.isText message.fragments frame
      | text | binary => exact ⟨⟨.interruptedMessage, rfl, rfl⟩, nofun⟩
      | _ => rw [opcode] at isData; cases isData

end Assembler

namespace Frame

variable {limits : Limits} {bytes : Bytes}

theorem refusal_of_error {failure : Error}
    (refused : parse (.serverFrames limits) bytes = .error failure) :
    ∃ fault, refusal? limits bytes = some fault ∧ fault.code = failure.closeCode := by
  unfold parse at refused
  split at refused
  · cases refused
  · rename_i header headerRead
    have explains := header.explains_check limits
    split at refused
    · rename_i found check
      cases refused
      rw [check] at explains
      rw [refusal?, headerRead]
      exact explains
    · cases refused

theorem refusal_of_waits (waits : Waits (.serverFrames limits) bytes) : refusal? limits bytes = none := by
  obtain ⟨needed, result⟩ := waits
  unfold refusal?
  unfold parse at result
  split at result
  · rename_i headerRead
    rw [headerRead]
  · rename_i header headerRead
    have explains := header.explains_check limits
    rw [headerRead]
    split at result
    · cases result
    · rename_i check
      rw [check] at explains
      exact explains

end Frame

namespace Course

open WebSocket.Frame

variable {limits : Limits} {pending : Bytes} {parsed : Parsed}

theorem of_refused (begun : Option Draft) {failure : Error}
    (refused : parse (.serverFrames limits) pending = .error failure) (more : Bytes) :
    ∃ fault, ofBytes limits begun (pending ++ more) = ⟨[], some (.fault fault)⟩ ∧
      fault.code = failure.closeCode := by
  have still := parse_append_error refused more
  obtain ⟨fault, found, code⟩ := refusal_of_error still
  refine ⟨fault, ?_, code⟩
  rw [ofBytes, drain_error still]
  dsimp only [along]
  rw [found]
  rfl

theorem of_waits (begun : Option Draft) (waits : Waits (.serverFrames limits) pending) :
    ofBytes limits begun pending = ⟨[], none⟩ := by
  rw [ofBytes, drain_waits waits]
  dsimp only [along]
  rw [refusal_of_waits waits]
  rfl

variable {begun : Option Draft}

theorem drain_whole (result : parse (.serverFrames limits) pending = .ok parsed)
    (complete : 0 < parsed.consumed) (more : Bytes) :
    drain (.serverFrames limits) (pending ++ more) =
      let rest := drain (.serverFrames limits) (pending.drop parsed.consumed ++ more)
      ⟨parsed :: rest.parsed, rest.failure, rest.pending⟩ := by
  have inside : parsed.consumed ≤ pending.length := by
    rcases parse_consumed result with ⟨needed, rfl⟩ | bounds
    · exact absurd complete (Nat.lt_irrefl 0)
    · exact bounds.2
  rw [drain_complete (parse_append_complete result complete more) complete,
    List.drop_append_of_le_length inside]

theorem of_ending (result : parse (.serverFrames limits) pending = .ok parsed)
    (complete : 0 < parsed.consumed) {ending : Finale}
    (ends : parsed.ending? limits begun = some ending) (more : Bytes) :
    ofBytes limits begun (pending ++ more) = ⟨[], some ending⟩ := by
  rw [ofBytes, drain_whole result complete]
  dsimp only [along]
  rw [ends]

theorem of_handled (result : parse (.serverFrames limits) pending = .ok parsed)
    (complete : 0 < parsed.consumed) (goesOn : parsed.ending? limits begun = none) (more : Bytes) :
    ofBytes limits begun (pending ++ more) =
      let later := ofBytes limits (parsed.remains begun) (pending.drop parsed.consumed ++ more)
      ⟨(parsed, parsed.deeds begun) :: later.handled, later.ending⟩ := by
  rw [ofBytes, drain_whole result complete]
  dsimp only [along]
  rw [goesOn]
  rfl

theorem handled_of_along (refusal : Option Fault) (begun : Option Draft) (frames : List Parsed)
    {entry : Parsed × List Deed} (member : entry ∈ (along limits refusal begun frames).handled) :
    ∃ begun, entry.2 = entry.1.deeds begun ∧ entry.1.ending? limits begun = none := by
  induction frames generalizing begun with
  | nil => cases member
  | cons parsed rest induction =>
      unfold along at member
      cases ending : parsed.ending? limits begun with
      | some ending' =>
          rw [ending] at member
          cases member
      | none =>
          rw [ending] at member
          rcases List.mem_cons.mp member with rfl | later
          · exact ⟨begun, rfl, ending⟩
          · exact induction _ later

theorem take_of_along (refusal : Option Fault) (begun : Option Draft) (frames : List Parsed) :
    let handled := (along limits refusal begun frames).handled
    handled.map Prod.fst = frames.take handled.length := by
  induction frames generalizing begun with
  | nil => rfl
  | cons parsed rest induction =>
      unfold along
      cases parsed.ending? limits begun with
      | some ending => rfl
      | none => exact congrArg (parsed :: ·) (induction _)

theorem deeds_of_ping {payload : Bytes} (begun : Option Draft) (isPing : parsed.ping? = some payload) :
    parsed.deeds begun = [.tells (.ping payload), .sends (.pong payload)] := by
  cases parsed with
  | frame frame consumed =>
      rw [Parsed.ping?, Option.ite_none_right_eq_some] at isPing
      obtain ⟨opcode, same⟩ := isPing
      obtain rfl := Option.some.inj same
      rw [Parsed.deeds, Frame.deeds, opcode]
  | _ => cases isPing

theorem sent_by_frame (begun : Option Draft) (parsed : Parsed) :
    (parsed.deeds begun).filterMap Deed.sent? = parsed.ping?.toList.map Frame.pong := by
  cases parsed with
  | frame frame consumed =>
      have silent : ∀ events : List Event, (events.map Deed.tells).filterMap Deed.sent? = [] := by
        intro events
        simp [List.filterMap_map, Function.comp_def, Deed.sent?]
      simp only [Parsed.deeds, Parsed.ping?, Frame.deeds]
      cases opcode : frame.opcode with
      | ping | pong | close => rfl
      | text | binary | continuation =>
          dsimp only
          split
          · exact silent _
          · rfl
  | _ => rfl

theorem sent_of_handled {handled : List (Parsed × List Deed)}
    (own : ∀ entry ∈ handled, ∃ begun, entry.2 = entry.1.deeds begun) :
    (handled.flatMap Prod.snd).filterMap Deed.sent? =
      (handled.filterMap fun entry => entry.1.ping?).map Frame.pong := by
  induction handled with
  | nil => rfl
  | cons entry rest induction =>
      obtain ⟨begun, deeds⟩ := own entry List.mem_cons_self
      have later := induction fun other member => own other (List.mem_cons_of_mem _ member)
      rw [List.flatMap_cons, List.filterMap_append, later, deeds, sent_by_frame, List.filterMap_cons]
      cases entry.1.ping? <;> rfl

theorem sent_of_deeds (limits : Limits) (begun : Option Draft) (bytes : Bytes) (streamEnds : Bool) :
    let course := ofBytes limits begun bytes
    (course.deeds streamEnds).filterMap Deed.sent? =
      (course.handled.filterMap fun entry => entry.1.ping?).map Frame.pong ++
        course.ending.toList.map Finale.answer := by
  intro course
  have pongs : (course.handled.flatMap Prod.snd).filterMap Deed.sent? =
      (course.handled.filterMap fun entry => entry.1.ping?).map Frame.pong := by
    apply sent_of_handled
    intro entry member
    obtain ⟨begun, deeds, -⟩ := handled_of_along _ _ _ member
    exact ⟨begun, deeds⟩
  rw [deeds, List.filterMap_append, pongs]
  congr 1
  cases course.ending with
  | none => cases streamEnds <;> rfl
  | some ending => cases ending <;> rfl

theorem closes_of_deeds (limits : Limits) (begun : Option Draft) (bytes : Bytes) (streamEnds : Bool) :
    let course := ofBytes limits begun bytes
    ((course.deeds streamEnds).filterMap Deed.sent?).filter (fun frame => frame.opcode = .close) =
      course.ending.toList.map Finale.answer := by
  intro course
  have pongs : ∀ payloads : List Bytes,
      (payloads.map Frame.pong).filter (fun frame => frame.opcode = .close) = [] := by
    intro payloads
    simp [Frame.pong, Frame.of]
  rw [sent_of_deeds, List.filter_append, pongs, List.nil_append]
  cases course.ending with
  | none => rfl
  | some ending => cases ending <;> rfl

theorem passes_of_sound_ping {parsed : Parsed} (limits : Limits) (begun : Option Draft)
    (sound : parsed.isSoundPing = true) :
    parsed.ending? limits begun = none ∧ parsed.remains begun = begun ∧ parsed.ping?.isNone = false := by
  cases parsed with
  | frame frame consumed =>
      simp only [Parsed.isSoundPing, Bool.and_eq_true, beq_iff_eq, Option.isNone_iff_eq_none] at sound
      obtain ⟨isPing, kept⟩ := sound
      have isControl : frame.opcode.isControl = true := by rw [isPing]; rfl
      refine ⟨ending_of_other kept (.inl isPing), remains_of_control begun isControl, ?_⟩
      rw [Parsed.ping?, if_pos isPing]
      rfl
  | _ => cases sound

theorem sound_of_ping {parsed : Parsed} (goesOn : parsed.ending? limits begun = none) :
    parsed.isSoundPing = parsed.ping?.isSome := by
  cases parsed with
  | frame frame consumed =>
      have kept : Fault.first frame.ruleChecks = none := by
        cases rules : Fault.first frame.ruleChecks with
        | none => rfl
        | some fault =>
            have broken : frame.ending? limits begun = none := goesOn
            rw [ending_of_broken rules] at broken
            cases broken
      rw [Parsed.isSoundPing, kept, Parsed.ping?]
      cases frame.opcode <;> rfl
  | _ => rfl

theorem pings_of_along (refusal : Option Fault) (begun : Option Draft) (frames : List Parsed) :
    let handled := (along limits refusal begun frames).handled
    handled.filterMap (fun entry => entry.1.ping?) =
      ((frames.take handled.length).filter Parsed.isSoundPing).filterMap Parsed.ping? := by
  intro handled
  have sound : ∀ parsed ∈ handled.map Prod.fst, parsed.isSoundPing = parsed.ping?.isSome := by
    intro parsed member
    obtain ⟨entry, among, rfl⟩ := List.mem_map.mp member
    obtain ⟨begun, -, goesOn⟩ := handled_of_along _ _ _ among
    exact sound_of_ping goesOn
  rw [← take_of_along, List.filter_congr sound, List.filterMap_filter, List.filterMap_map]
  congr 1
  funext entry
  dsimp only [Function.comp]
  cases entry.1.ping? <;> rfl

theorem along_ending {parsed : Parsed} {ending : Finale} (refusal : Option Fault) (rest : List Parsed)
    (ends : parsed.ending? limits begun = some ending) :
    along limits refusal begun (parsed :: rest) = ⟨[], some ending⟩ := by
  rw [along, ends]

theorem along_handled {parsed : Parsed} (refusal : Option Fault) (rest : List Parsed)
    (goesOn : parsed.ending? limits begun = none) :
    along limits refusal begun (parsed :: rest) =
      let later := along limits refusal (parsed.remains begun) rest
      ⟨(parsed, parsed.deeds begun) :: later.handled, later.ending⟩ := by
  rw [along, goesOn]

theorem along_without_pings (refusal : Option Fault) (begun : Option Draft) (frames : List Parsed) :
    along limits refusal begun (frames.filter fun parsed => !parsed.isSoundPing) =
      ⟨(along limits refusal begun frames).handled.filter fun entry => entry.1.ping?.isNone,
        (along limits refusal begun frames).ending⟩ := by
  induction frames generalizing begun with
  | nil => rfl
  | cons parsed rest induction =>
      cases sound : parsed.isSoundPing with
      | true =>
          obtain ⟨goesOn, same, isPing⟩ := passes_of_sound_ping limits begun sound
          rw [List.filter_cons_of_neg (by simp [sound]), induction, along_handled refusal rest goesOn, same]
          simp only [List.filter_cons, isPing, Bool.false_eq_true, if_false]
      | false =>
          rw [List.filter_cons_of_pos (by simp [sound])]
          cases ending : parsed.ending? limits begun with
          | some ending' =>
              rw [along_ending refusal _ ending, along_ending refusal _ ending]
              rfl
          | none =>
              have other : parsed.ping?.isNone = true := by
                rw [sound_of_ping ending] at sound
                simpa using sound
              rw [along_handled refusal _ ending, along_handled refusal _ ending, induction]
              simp only [List.filter_cons, other, if_true]

end Course

end WebSocket
