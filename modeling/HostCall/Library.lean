import HostCall.Parameters
import HostCall.Program
import HostCall.Results
import HostCall.World

/-!
# What the names mean

A `Library` gives each name of a host's vocabulary its meaning: a free function
with its parameters and its result, a method of a receiver, a field as a way to
read it and a way to write it, a constructor of a receiver, or a callable that
works on frames itself.
-/

set_option autoImplicit false

namespace HostCall

variable {H : Host}

/-- How a free callable is held: as a function with nothing captured, as a pointer
to one, or with state of its own. -/
inductive CallableForm
  | function
  | pointer
  | stateful
deriving DecidableEq, Repr

/-- The form decides the origin. -/
def CallableForm.origin : CallableForm → Origin
  | function => .freeFunction
  | pointer => .functionPointer
  | stateful => .functor

/-- A free function. -/
structure FreeFunction (H : Host) where
  form : CallableForm
  parameters : List SlotType
  result : ResultType
  run : Parameters H parameters → HostProgram H (result.Val H)

/-- What a method does to its receiver: it reads it, or it also changes it. -/
inductive MethodBody (H : Host) (receiver : H.Receiver) (parameters : List SlotType)
    (result : ResultType)
  | shared (run : H.Value receiver → Parameters H parameters → HostProgram H (result.Val H))
  | exclusive (run : H.Value receiver → Parameters H parameters →
      HostProgram H (result.Val H × H.Value receiver))

/-- A function of a receiver. -/
structure Method (H : Host) where
  receiver : H.Receiver
  parameters : List SlotType
  result : ResultType
  body : MethodBody H receiver parameters result

/-- What a method needs of its receiver. -/
def Method.access (method : Method H) : Access :=
  match method.body with
  | .shared _ => .shared
  | .exclusive _ => .exclusive

/-- A field of a receiver: how it is read, and how it is written. -/
structure Field (H : Host) where
  name : String
  receiver : H.Receiver
  type : SlotType
  get : H.Value receiver → type.Val H
  set : type.Val H → H.Value receiver → H.Value receiver

/-- A function that makes a receiver object. -/
structure Constructor (H : Host) where
  form : CallableForm
  receiver : H.Receiver
  parameters : List SlotType
  run : Parameters H parameters → HostProgram H (H.Value receiver)

/-- A callable that works on frames: unless told otherwise it takes any number of
arguments of any types. -/
structure CustomCallable (H : Host) where
  arity : Arity := .variadic
  accepts : Frame H → Bool := fun _ => true
  run : FrameProgram H (Except CallError Nat)

/-- The meaning of every name. -/
structure Library (H : Host) where
  function : H.Function → FreeFunction H
  method : H.Method → Method H
  field : H.Field → Field H
  constructor : H.Constructor → Constructor H
  raw : H.Raw → FrameProgram H (Except CallError Nat)
  custom : H.Custom → CustomCallable H

/-! ## Accessor methods -/

/-- The method that reads a field. -/
def Field.reader (field : Field H) : Method H where
  receiver := field.receiver
  parameters := []
  result := .one (.value field.type)
  body := .shared fun value _ => .done (field.get value)

/-- The method that writes a field. -/
def Field.writer (field : Field H) : Method H where
  receiver := field.receiver
  parameters := [field.type]
  result := .unit
  body := .exclusive fun value (content, _) => .done ((), field.set content value)

end HostCall
