import HostCall.Frame

/-!
# Results

What a callable returns is pushed as slots: none for the unit, one for a value,
and one for each component of a tuple, in order, up to the first that does not fit
(`Frame.pushResult`).  A fallible result that failed, at any depth, becomes the
failure of the call, and then nothing is pushed.

The slots of a result are known before any of them is pushed
(`ResultType.encode`), and pushing a result is pushing these
(`Frame.pushResult_eq_pushAll`).
-/

set_option autoImplicit false

namespace HostCall

/-- The values of one result slot. -/
@[reducible] def ResultPart.Val (H : Host) : ResultPart → Type
  | value type => type.Val H
  | hostText => String

/-- The slot that a result part is written to. -/
def ResultPart.encode {H : Host} : (part : ResultPart) → part.Val H → Slot H
  | value type, content => type.encode content
  | hostText, content => .text content

/-- The values of the components of a tuple: the last one stands by itself. -/
@[reducible] def ResultPart.Tuple (H : Host) : List ResultPart → Type
  | [] => Unit
  | [part] => part.Val H
  | part :: parts => part.Val H × Tuple H parts

namespace ResultType

/-- The values of a result type; a failure is its text. -/
@[reducible] def Val (H : Host) : ResultType → Type
  | unit => Unit
  | one part => part.Val H
  | tuple parts => ResultPart.Tuple H parts
  | fallible success _ => Except String (Val H success)

end ResultType

/-! ## Pushing -/

namespace Frame

variable {H : Host}

/-- One slot pushed as a result, which counts as one. -/
def pushPart (frame : Frame H) (part : ResultPart) (content : part.Val H) :
    Except CallError Nat × Frame H :=
  match frame.push (part.encode content) with
  | .error error => (.error error, frame)
  | .ok frame => (.ok 1, frame)

/-- The components of a tuple pushed one after another, and counted on. -/
def pushTuple (frame : Frame H) (count : Nat) :
    (parts : List ResultPart) → ResultPart.Tuple H parts → Except CallError Nat × Frame H
  | [], _ => (.ok count, frame)
  | [part], content =>
      match frame.pushPart part content with
      | (.error error, frame) => (.error error, frame)
      | (.ok pushed, frame) => (.ok (count + pushed), frame)
  | part :: next :: parts, (content, rest) =>
      match frame.pushPart part content with
      | (.error error, frame) => (.error error, frame)
      | (.ok pushed, frame) => frame.pushTuple (count + pushed) (next :: parts) rest

/-- A result pushed on a frame: the number of its slots, or why they could not be
pushed, and the frame afterwards. -/
def pushResult (frame : Frame H) :
    (type : ResultType) → type.Val H → Except CallError Nat × Frame H
  | .unit, _ => (.ok 0, frame)
  | .one part, content => frame.pushPart part content
  | .tuple parts, content => frame.pushTuple 0 parts content
  | .fallible _ _, .error text => (.error (.raised text), frame)
  | .fallible success _, .ok content => frame.pushResult success content

end Frame

/-! ## The slots of a result -/

/-- The slots of a tuple, in order. -/
def ResultPart.encodeTuple {H : Host} :
    (parts : List ResultPart) → ResultPart.Tuple H parts → List (Slot H)
  | [], _ => []
  | [part], content => [part.encode content]
  | part :: next :: parts, (content, rest) =>
      part.encode content :: encodeTuple (next :: parts) rest

namespace ResultType

/-- The slots of a result, or the text of its failure. -/
def encode {H : Host} : (type : ResultType) → type.Val H → Except String (List (Slot H))
  | unit, _ => .ok []
  | one part, content => .ok [part.encode content]
  | tuple parts, content => .ok (ResultPart.encodeTuple parts content)
  | fallible _ _, .error text => .error text
  | fallible success _, .ok content => encode success content

end ResultType

namespace Frame

variable {H : Host}

theorem pushTuple_eq_pushAll (frame : Frame H) (count : Nat) (parts : List ResultPart)
    (content : ResultPart.Tuple H parts) :
    frame.pushTuple count parts content =
      let slots := ResultPart.encodeTuple parts content
      let (outcome, frame) := frame.pushAll slots
      (outcome.map fun _ => count + slots.length, frame) := by
  induction parts generalizing frame count with
  | nil => rfl
  | cons part parts inductionHypothesis =>
      cases parts with
      | nil =>
          rw [pushTuple, pushPart, ResultPart.encodeTuple]
          dsimp only
          rw [pushAll]
          cases frame.push (part.encode content) <;> rfl
      | cons next parts =>
          obtain ⟨first, rest⟩ := content
          rw [pushTuple, pushPart, ResultPart.encodeTuple]
          dsimp only
          rw [pushAll]
          cases frame.push (part.encode first) with
          | error error => rfl
          | ok pushed =>
              dsimp only
              rw [inductionHypothesis]
              simp only [List.length_cons, Nat.add_assoc, Nat.add_comm 1]

/-- Pushing a result is pushing its slots and reporting their number. -/
theorem pushResult_eq_pushAll (frame : Frame H) (type : ResultType) (content : type.Val H) :
    frame.pushResult type content =
      match type.encode content with
      | .error text => (.error (.raised text), frame)
      | .ok slots =>
          let (outcome, frame) := frame.pushAll slots
          (outcome.map fun _ => slots.length, frame) := by
  induction type with
  | unit => rfl
  | one part =>
      rw [pushResult, pushPart, ResultType.encode]
      dsimp only
      rw [pushAll]
      cases frame.push (part.encode content) <;> rfl
  | tuple parts =>
      rw [pushResult, pushTuple_eq_pushAll, ResultType.encode]
      simp only [Nat.zero_add]
  | fallible success owner inductionHypothesis =>
      cases content with
      | error text => rfl
      | ok content => exact inductionHypothesis content

end Frame

end HostCall
