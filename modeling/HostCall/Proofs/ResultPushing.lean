import HostCall.Proofs.FrameSteps

/-!
# Pushing a result

A result is written to slots by its shape: the unit to none, a single value to its own, and a tuple
to as many as it has components, each at its place (`ResultType.WrittenTo`,
`ResultType.encode_eq_ok_iff`).  Or it holds a failure, at some depth of fallible results, and is
written to none (`ResultType.encode_eq_error_iff`).

Its slots are pushed one after another until the stack is at its limit.  So either all of them are
on the stack afterwards, in order, or exactly as many of the first as there was room for
(`Frame.pushAll_eq`, `Frame.pushResult_eq`).
-/

set_option autoImplicit false

namespace HostCall

variable {H : Host}

/-! ## The slots of a result -/

namespace ResultPart

/-- A part of a result is written to this slot: a value to the one that holds it, a text of the
host to that text. -/
inductive WrittenTo : (part : ResultPart) → part.Val H → Slot H → Prop
  | value (type : SlotType) (content : type.Val H) :
      WrittenTo (.value type) content (type.encode content)
  | hostText (text : String) : WrittenTo .hostText text (.text text)

/-- The component of a tuple at a place. -/
def component? : (parts : List ResultPart) → Tuple H parts → Nat →
    Option ((part : ResultPart) × part.Val H)
  | [], _, _ => none
  | [part], content, 0 => some ⟨part, content⟩
  | [_], _, _ + 1 => none
  | part :: _ :: _, (content, _), 0 => some ⟨part, content⟩
  | _ :: next :: parts, (_, rest), place + 1 => component? (next :: parts) rest place

theorem writtenTo_iff {part : ResultPart} {content : part.Val H} {slot : Slot H} :
    part.WrittenTo content slot ↔ part.encode content = slot := by
  constructor
  · intro written
    cases written <;> rfl
  · rintro rfl
    cases part with
    | value type => exact .value type content
    | hostText => exact .hostText content

/-- A tuple is encoded component by component. -/
theorem getElem?_encodeTuple (parts : List ResultPart) (content : Tuple H parts) (place : Nat) :
    (encodeTuple parts content)[place]? =
      (component? parts content place).map fun component => component.1.encode component.2 := by
  induction parts generalizing place with
  | nil => rfl
  | cons part parts ih =>
      cases parts with
      | nil => cases place <;> rfl
      | cons next parts =>
          cases place with
          | zero => rfl
          | succ place => exact ih content.2 place

theorem length_encodeTuple (parts : List ResultPart) (content : Tuple H parts) :
    (encodeTuple parts content).length = parts.length := by
  induction parts with
  | nil => rfl
  | cons part parts ih =>
      cases parts with
      | nil => rfl
      | cons next parts => exact congrArg (· + 1) (ih content.2)

end ResultPart

namespace ResultType

/-- The number of slots that a result of the type is written to, unless it failed. -/
def width : ResultType → Nat
  | unit => 0
  | one _ => 1
  | tuple parts => parts.length
  | fallible success _ => success.width

/-- The text of the failure in a result, if there is one. -/
def failure? : (type : ResultType) → type.Val H → Option String
  | fallible _ _, .error text => some text
  | fallible success _, .ok content => success.failure? content
  | unit, _ | one _, _ | tuple _, _ => none

/-- A result is written to these slots: the unit to none, a single value to its own, a tuple to as
many as it has components, each of them at its place, and a fallible result that did not fail to
those of what it holds. -/
inductive WrittenTo : (type : ResultType) → type.Val H → List (Slot H) → Prop
  | unit : WrittenTo .unit () []
  | one {part : ResultPart} {content : part.Val H} {slot : Slot H}
      (written : part.WrittenTo content slot) : WrittenTo (.one part) content [slot]
  | tuple {parts : List ResultPart} {content : ResultPart.Tuple H parts} {slots : List (Slot H)}
      (length : slots.length = parts.length)
      (each : ∀ place component, ResultPart.component? parts content place = some component →
        ∃ slot, slots[place]? = some slot ∧ component.1.WrittenTo component.2 slot) :
      WrittenTo (.tuple parts) content slots
  | fallible {success : ResultType} {owner : TextOwner} {content : success.Val H}
      {slots : List (Slot H)} (written : WrittenTo success content slots) :
      WrittenTo (.fallible success owner) (.ok content) slots

/-- A result is written to slots exactly if there is no failure in it. -/
theorem encode_eq_error_iff {type : ResultType} {content : type.Val H} {text : String} :
    type.encode content = .error text ↔ type.failure? content = some text := by
  induction type with
  | unit | one part | tuple parts => simp [encode, failure?]
  | fallible success owner ih =>
      cases content with
      | error inner => simp [encode, failure?]
      | ok content =>
          rw [encode, failure?]
          exact ih

/-- A tuple is written to the slots that its components are encoded to. -/
theorem writtenTo_tuple_iff {parts : List ResultPart} {content : ResultPart.Tuple H parts}
    {slots : List (Slot H)} :
    (tuple parts).WrittenTo content slots ↔ ResultPart.encodeTuple parts content = slots := by
  constructor
  · intro written
    cases written with
    | tuple length each =>
        refine List.ext_getElem? fun place => ?_
        have encoded := ResultPart.getElem?_encodeTuple parts content place
        cases found : ResultPart.component? parts content place with
        | none =>
            rw [found, Option.map_none] at encoded
            have outside := List.getElem?_eq_none_iff.mp encoded
            rw [ResultPart.length_encodeTuple, ← length] at outside
            rw [encoded, List.getElem?_eq_none_iff.mpr outside]
        | some component =>
            obtain ⟨slot, there, written⟩ := each place component found
            rw [encoded, found, there, ← ResultPart.writtenTo_iff.mp written, Option.map_some]
  · rintro rfl
    refine .tuple (ResultPart.length_encodeTuple parts content) fun place component found => ?_
    refine ⟨component.1.encode component.2, ?_, ResultPart.writtenTo_iff.mpr rfl⟩
    rw [ResultPart.getElem?_encodeTuple, found]
    rfl

/-- The slots of a result are those that it is written to. -/
theorem encode_eq_ok_iff {type : ResultType} {content : type.Val H} {slots : List (Slot H)} :
    type.encode content = .ok slots ↔ type.WrittenTo content slots := by
  induction type with
  | unit =>
      rw [encode, Except.ok.injEq]
      constructor
      · rintro rfl
        exact .unit
      · intro written
        cases written
        rfl
  | one part =>
      rw [encode, Except.ok.injEq]
      constructor
      · rintro rfl
        exact .one (ResultPart.writtenTo_iff.mpr rfl)
      · intro written
        cases written with
        | one written => rw [ResultPart.writtenTo_iff.mp written]
  | tuple parts => rw [encode, Except.ok.injEq, writtenTo_tuple_iff]
  | fallible success owner ih =>
      cases content with
      | error text =>
          refine iff_of_false (fun encoded => ?_) fun written => ?_
          · cases encoded
          · cases written
      | ok content =>
          rw [encode, ih]
          constructor
          · exact .fallible
          · intro written
            cases written with
            | fallible written => exact written

/-- The number of slots is that of the type. -/
theorem WrittenTo.length {type : ResultType} {content : type.Val H} {slots : List (Slot H)}
    (written : type.WrittenTo content slots) : slots.length = type.width := by
  induction written with
  | unit | one => rfl
  | tuple length => exact length
  | fallible _ ih => exact ih

end ResultType

namespace Frame

/-! ## The room on the stack -/

/-- The number of slots that can still be pushed. -/
def room (frame : Frame H) : Nat := frame.policy.stackLimit - frame.stack.size

/-- The frame with slots above those on its stack. -/
def extend (frame : Frame H) (slots : List (Slot H)) : Frame H :=
  { frame with
    stack := frame.stack ++ slots.toArray
    top_le_size := by
      rw [Array.size_append]
      exact Nat.le_trans frame.top_le_size (Nat.le_add_right _ _) }

theorem size_extend (frame : Frame H) (slots : List (Slot H)) :
    (frame.extend slots).stack.size = frame.stack.size + slots.length := by
  exact Array.size_append

/-- What a push fails with that finds the stack at its limit. -/
def overflow (frame : Frame H) : CallError :=
  .stackOverflow (max frame.policy.stackLimit frame.stack.size + 1) frame.policy.stackLimit

@[simp] theorem extend_nil (frame : Frame H) : frame.extend [] = frame := by
  simp only [extend, Array.append_empty]

theorem extend_extend (frame : Frame H) (slots later : List (Slot H)) :
    (frame.extend slots).extend later = frame.extend (slots ++ later) := by
  simp only [extend, Array.append_assoc, List.append_toArray]

theorem pushedSlots_extend (frame : Frame H) (slots : List (Slot H)) :
    (frame.extend slots).pushedSlots = frame.pushedSlots ++ slots := by
  rw [pushedSlots, pushedSlots, extend, Array.toList_append,
    List.drop_append_of_le_length frame.top_le_size]

theorem room_extend (frame : Frame H) (slots : List (Slot H)) :
    (frame.extend slots).room = frame.room - slots.length := by
  rw [room, room, size_extend, Nat.sub_add_eq]
  rfl

/-- As long as there is room, the same overflow lies ahead. -/
theorem overflow_extend {frame : Frame H} {slots : List (Slot H)}
    (enough : slots.length ≤ frame.room) : (frame.extend slots).overflow = frame.overflow := by
  rw [room] at enough
  have height : max frame.policy.stackLimit (frame.stack.size + slots.length) =
      max frame.policy.stackLimit frame.stack.size := by omega
  rw [overflow, overflow, size_extend, ← height]
  rfl

theorem push_eq (frame : Frame H) (slot : Slot H) :
    frame.push slot =
      if 0 < frame.room then .ok (frame.extend [slot]) else .error frame.overflow := by
  rw [push]
  by_cases full : frame.policy.stackLimit ≤ frame.stack.size
  · have none : ¬ 0 < frame.room := by
      rw [room]
      omega
    rw [if_pos full, if_neg none, overflow, Nat.max_eq_right full]
  · have some : 0 < frame.room := by
      rw [room]
      omega
    rw [if_neg full, if_pos some]
    rfl

/-! ## Pushing slots and results -/

/-- Slots for which there is room are pushed; of others as many as there is room for. -/
theorem pushAll_eq (frame : Frame H) (slots : List (Slot H)) :
    frame.pushAll slots =
      if slots.length ≤ frame.room then (.ok (), frame.extend slots)
      else (.error frame.overflow, frame.extend (slots.take frame.room)) := by
  induction slots generalizing frame with
  | nil => simp [pushAll]
  | cons slot slots ih =>
      rw [pushAll, push_eq]
      by_cases some : 0 < frame.room
      · obtain ⟨rest, more⟩ := Nat.exists_eq_succ_of_ne_zero (Nat.ne_of_gt some)
        have one : [slot].length ≤ frame.room := some
        have left : frame.room - [slot].length = rest := by
          rw [more]
          rfl
        rw [if_pos some]
        dsimp only
        rw [ih, room_extend, overflow_extend one, extend_extend, extend_extend, left, more]
        simp only [Nat.succ_eq_add_one, List.length_cons, Nat.add_le_add_iff_right,
          List.take_succ_cons, List.singleton_append]
      · have none : frame.room = 0 := Nat.eq_zero_of_not_pos some
        have crowded : ¬ (slot :: slots).length ≤ 0 := Nat.not_succ_le_zero _
        rw [if_neg some, none, if_neg crowded, List.take_zero, extend_nil]

/-- A failure is pushed as no slot at all; a result without one is pushed as its slots, or as many
of the first as there is room for. -/
theorem pushResult_eq (frame : Frame H) (type : ResultType) (content : type.Val H) :
    frame.pushResult type content =
      match type.encode content with
      | .error text => (.error (.raised text), frame)
      | .ok slots =>
          if slots.length ≤ frame.room then (.ok slots.length, frame.extend slots)
          else (.error frame.overflow, frame.extend (slots.take frame.room)) := by
  rw [pushResult_eq_pushAll]
  cases type.encode content with
  | error text => rfl
  | ok slots =>
      dsimp only
      rw [pushAll_eq]
      split <;> rfl

end Frame

end HostCall
