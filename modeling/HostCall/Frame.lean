import HostCall.Policy
import HostCall.Conversion
import HostCall.Heap

/-!
# Call frames

A call sees the value stack through a frame.  The slots from the frame's base up
to the height the stack had when the call started are the arguments; whatever is
pushed while the call runs lands above them and counts as a result.

A frame reads an argument as a type, leaving out an optional one that is missing
(`Frame.argument`); it finds the receiver of a member in argument 0, either in
the slot itself or behind a handle, once to read it (`Frame.receiver`) and once to
overwrite it (`Frame.receiverMut`); and it pushes a slot as long as the stack stays
within its limit (`Frame.push`).  Reading never changes a frame, and only the
payload of a receiver can ever be overwritten.

The arguments of a frame always lie on its stack: a frame carries the proof, and
each operation that makes a frame has to give it again.
-/

set_option autoImplicit false

namespace HostCall

/-- What a running call sees: the value stack, where its arguments begin and end,
the object heap and the policy. -/
structure Frame (H : Host) where
  stack : Array (Slot H)
  base : Nat
  top : Nat
  heap : Heap H
  policy : Policy
  base_le_top : base ≤ top
  top_le_size : top ≤ stack.size

namespace Frame

variable {H : Host}

/-- The frame whose arguments are the slots of a stack from `base` on; a base above
the stack's height means no arguments. -/
def enter (stack : Array (Slot H)) (base : Nat) (heap : Heap H) (policy : Policy) : Frame H where
  stack := stack
  base := min base stack.size
  top := stack.size
  heap := heap
  policy := policy
  base_le_top := Nat.min_le_right _ _
  top_le_size := Nat.le_refl _

/-! ## Arguments -/

/-- The number of arguments, the receiver among them. -/
def argumentCount (frame : Frame H) : Nat := frame.top - frame.base

/-- One argument as it lies on the stack, if there is one at the index. -/
def argument? (frame : Frame H) (index : Nat) : Option (Slot H) :=
  if index < frame.argumentCount then frame.stack[frame.base + index]? else none

/-- One argument as it lies on the stack, or the index that is out of bounds. -/
def rawArgument (frame : Frame H) (index : Nat) : Except CallError (Slot H) :=
  match frame.argument? index with
  | some slot => .ok slot
  | none => .error (.noArgument index frame.argumentCount)

/-- One argument read as a type; a missing one reads as `void` if it is optional. -/
def argument (frame : Frame H) (type : SlotType) (index : Nat) :
    Except CallError (type.Val H) :=
  if frame.argumentCount ≤ index && type.isOptional then
    (type.decode .void).mapError .conversion
  else
    match frame.rawArgument index with
    | .error error => .error error
    | .ok slot => (type.decode slot).mapError .conversion

/-- One argument could be read as a type, or may be missing. -/
def argumentAccepts (frame : Frame H) (type : SlotType) (index : Nat) : Bool :=
  match frame.argument? index with
  | some slot => type.accepts slot
  | none => type.isOptional

/-- The number of arguments is one that the policy lets a callback of this range
take: surplus arguments may be ignored, missing ones never. -/
def takesCount (frame : Frame H) (expected : Arity) : Bool :=
  match frame.policy.surplus with
  | .ignore => expected.least ≤ frame.argumentCount
  | .reject => expected.admits frame.argumentCount

/-- The check of the number of arguments. -/
def checkCount (frame : Frame H) (expected : Arity) : Except CallError Unit :=
  if frame.takesCount expected then .ok ()
  else .error (.wrongCount expected frame.argumentCount)

/-! ## The receiver -/

/-- The slot of the receiver, argument 0. -/
def receiverSlot (frame : Frame H) : Except CallError (Slot H) :=
  match frame.argument? 0 with
  | some slot => .ok slot
  | none => .error (.invalidReceiver "no receiver argument")

/-- The receiver's value: the object in the slot, or the one its handle reaches. -/
def receiver (frame : Frame H) (type : H.Receiver) : Except CallError (H.Value type) :=
  match frame.receiverSlot with
  | .error error => .error error
  | .ok (.native object) =>
      match object.as? type with
      | some value => .ok value
      | none => .error (.invalidReceiver ("native value is not a " ++ H.receiverName type))
  | .ok (.object handle) => frame.heap.get handle type
  | .ok other =>
      .error (.invalidReceiver
        ("expected " ++ H.receiverName type ++ ", got " ++ other.typeName))

/-- Argument 0 holds a reachable receiver of the type. -/
def receiverAccepts (frame : Frame H) (type : H.Receiver) : Bool := (frame.receiver type).isOk

/-- A reference to a slot of the stack. -/
def slotMut (frame : Frame H) (place : Nat) (inside : place < frame.stack.size) :
    Mutable (Slot H) (Frame H) :=
  ⟨frame.stack[place], fun slot =>
    { frame with
      stack := frame.stack.setIfInBounds place slot
      top_le_size := by simpa using frame.top_le_size }⟩

/-- A frame with an argument has a slot at its base. -/
theorem base_lt_size {frame : Frame H} (present : ¬ frame.argumentCount = 0) :
    frame.base < frame.stack.size := by
  have top_le_size := frame.top_le_size
  rw [argumentCount] at present
  omega

/-- A reference to the receiver's value: into the heap if argument 0 is a handle, and
else into the slot of argument 0. -/
def receiverMut (frame : Frame H) (type : H.Receiver) :
    Except CallError (Mutable (H.Value type) (Frame H)) :=
  if missing : frame.argumentCount = 0 then .error (.invalidReceiver "no receiver argument")
  else
    let first := frame.slotMut frame.base (base_lt_size missing)
    match first.value with
    | .object handle => (frame.heap.getMut handle type).map (·.within ({ frame with heap := · }))
    | .native object =>
        match Mutable.as? ⟨object, fun next => first.put (.native next)⟩ type with
        | some reached => .ok reached
        | none => .error (.invalidReceiver ("native value is not a " ++ H.receiverName type))
    | other =>
        .error (.invalidReceiver
          ("expected " ++ H.receiverName type ++ ", got " ++ other.typeName))

/-- The frame with the receiver's value overwritten, wherever it lives. -/
def setReceiver (frame : Frame H) (type : H.Receiver) (value : H.Value type) :
    Except CallError (Frame H) :=
  (frame.receiverMut type).map (·.put value)

/-! ## Results -/

/-- The number of slots pushed since the call started. -/
def pushed (frame : Frame H) : Nat := frame.stack.size - frame.top

/-- The frame with one slot pushed, or the overflow if the stack is at its limit. -/
def push (frame : Frame H) (slot : Slot H) : Except CallError (Frame H) :=
  if frame.policy.stackLimit ≤ frame.stack.size then
    .error (.stackOverflow (frame.stack.size + 1) frame.policy.stackLimit)
  else
    .ok { frame with
      stack := frame.stack.push slot
      top_le_size := by simpa using Nat.le_succ_of_le frame.top_le_size }

/-- The frame with slots pushed one after another, up to the first that does not
fit. -/
def pushAll (frame : Frame H) : List (Slot H) → Except CallError Unit × Frame H
  | [] => (.ok (), frame)
  | slot :: slots =>
      match frame.push slot with
      | .error error => (.error error, frame)
      | .ok frame => frame.pushAll slots

/-- The record form of a frame. -/
def debug (frame : Frame H) : String :=
  "CallContext \x7b arg_count: " ++ toString frame.argumentCount ++ ", base: " ++
    toString frame.base ++ ", pushed: " ++ toString frame.pushed ++ " \x7d"

/-! ## Small facts -/

@[simp] theorem argumentCount_enter (stack : Array (Slot H)) (base : Nat) (heap : Heap H)
    (policy : Policy) : (enter stack base heap policy).argumentCount = stack.size - base := by
  simp only [argumentCount, enter]
  omega

/-- An argument is missing exactly when its index is the number of arguments or more. -/
theorem argument?_eq_none_iff {frame : Frame H} {index : Nat} :
    frame.argument? index = none ↔ frame.argumentCount ≤ index := by
  have base_le_top := frame.base_le_top
  have top_le_size := frame.top_le_size
  unfold argument?
  split
  · rename_i present
    rw [Array.getElem?_eq_none_iff]
    simp only [argumentCount] at present ⊢
    omega
  · rename_i absent
    exact iff_of_true rfl (Nat.le_of_not_lt absent)

section Reading

variable {frame : Frame H} {index : Nat} {type : SlotType}

/-- An argument that is there is decoded. -/
theorem argument_of_some {slot : Slot H} (there : frame.argument? index = some slot) :
    frame.argument type index = (type.decode slot).mapError .conversion := by
  have inside : ¬ frame.argumentCount ≤ index := fun outside => by
    rw [argument?_eq_none_iff.mpr outside] at there
    cases there
  rw [argument, decide_eq_false inside, rawArgument, there]
  rfl

/-- A missing argument of an optional type is read as `void`. -/
theorem argument_of_optional (missing : frame.argument? index = none)
    (optional : type.isOptional = true) :
    frame.argument type index = (type.decode .void).mapError .conversion := by
  rw [argument, decide_eq_true (argument?_eq_none_iff.mp missing), optional]
  rfl

/-- A missing argument of any other type is out of bounds. -/
theorem argument_of_required (missing : frame.argument? index = none)
    (required : type.isOptional = false) :
    frame.argument type index = .error (.noArgument index frame.argumentCount) := by
  rw [argument, required, Bool.and_false, rawArgument, missing]
  rfl

end Reading

/-! ## Looking up the receiver to overwrite it -/

/-- The frame with another object in the slot of argument 0. -/
def putSlot (frame : Frame H) (object : Object H) : Frame H :=
  { frame with
    stack := frame.stack.setIfInBounds frame.base (.native object)
    top_le_size := by simpa using frame.top_le_size }

theorem receiverSlot_of_missing {frame : Frame H} (missing : frame.argumentCount = 0) :
    frame.receiverSlot = .error (.invalidReceiver "no receiver argument") := by
  rw [receiverSlot, argument?_eq_none_iff.mpr (Nat.le_of_eq missing)]

theorem receiverSlot_of_present {frame : Frame H} (present : ¬ frame.argumentCount = 0) :
    frame.receiverSlot = .ok (frame.slotMut frame.base (base_lt_size present)).value := by
  have first : frame.argument? 0 =
      some (frame.slotMut frame.base (base_lt_size present)).value := by
    rw [argument?, if_pos (Nat.pos_of_ne_zero present), Nat.add_zero]
    exact Array.getElem?_eq_getElem _
  rw [receiverSlot, first]

/-- The lookup of a receiver to overwrite it, by what is in argument 0. -/
theorem receiverMut_eq (frame : Frame H) (type : H.Receiver) :
    frame.receiverMut type =
      match frame.receiverSlot with
      | .error error => .error error
      | .ok (.native object) =>
          match object.as? type with
          | some value => .ok ⟨value, fun next => frame.putSlot ⟨type, next⟩⟩
          | none => .error (.invalidReceiver ("native value is not a " ++ H.receiverName type))
      | .ok (.object handle) =>
          (frame.heap.getMut handle type).map (·.within ({ frame with heap := · }))
      | .ok other =>
          .error (.invalidReceiver
            ("expected " ++ H.receiverName type ++ ", got " ++ other.typeName)) := by
  rw [receiverMut]
  by_cases missing : frame.argumentCount = 0
  · rw [dif_pos missing, receiverSlot_of_missing missing]
  · rw [dif_neg missing, receiverSlot_of_present missing]
    dsimp only
    cases (frame.slotMut frame.base (base_lt_size missing)).value with
    | native object =>
        dsimp only [Mutable.as?]
        cases object.as? type <;> rfl
    | _ => rfl

/-- What overwriting the receiver leaves, by what is in argument 0. -/
theorem setReceiver_eq (frame : Frame H) (type : H.Receiver) (value : H.Value type) :
    frame.setReceiver type value =
      match frame.receiverSlot with
      | .error error => .error error
      | .ok (.native object) =>
          match object.as? type with
          | some _ => .ok (frame.putSlot ⟨type, value⟩)
          | none => .error (.invalidReceiver ("native value is not a " ++ H.receiverName type))
      | .ok (.object handle) => (frame.heap.set handle type value).map ({ frame with heap := · })
      | .ok other =>
          .error (.invalidReceiver
            ("expected " ++ H.receiverName type ++ ", got " ++ other.typeName)) := by
  rw [setReceiver, receiverMut_eq]
  cases frame.receiverSlot with
  | error error => rfl
  | ok slot =>
      cases slot with
      | native object =>
          dsimp only
          cases object.as? type <;> rfl
      | object handle =>
          dsimp only [Heap.set]
          cases frame.heap.getMut handle type <;> rfl
      | _ => rfl

/-- The two lookups of the receiver succeed together, find the same value, and fail
with the same error. -/
theorem value_receiverMut (frame : Frame H) (type : H.Receiver) :
    (frame.receiverMut type).map (·.value) = frame.receiver type := by
  rw [receiverMut_eq, receiver]
  cases frame.receiverSlot with
  | error error => rfl
  | ok slot =>
      cases slot with
      | native object =>
          dsimp only
          cases object.as? type <;> rfl
      | object handle =>
          dsimp only
          rw [Heap.getMut_eq]
          cases frame.heap.get handle type <;> rfl
      | _ => rfl

/-- The frame with the receiver's value overwritten where there is one. -/
def putReceiver (frame : Frame H) (type : H.Receiver) (value : H.Value type) : Frame H :=
  match frame.setReceiver type value with
  | .ok frame => frame
  | .error _ => frame

/-- A receiver that is read can be overwritten. -/
theorem receiverMut_of_receiver {frame : Frame H} {type : H.Receiver} {old : H.Value type}
    (read : frame.receiver type = .ok old) :
    frame.receiverMut type = .ok ⟨old, frame.putReceiver type⟩ := by
  rw [← value_receiverMut] at read
  cases reached : frame.receiverMut type with
  | error error =>
      rw [reached] at read
      cases read
  | ok reference =>
      have put : frame.putReceiver type = reference.put := by
        funext value
        rw [putReceiver, setReceiver, reached]
        rfl
      rw [reached] at read
      cases read
      rw [put]

end Frame

end HostCall
