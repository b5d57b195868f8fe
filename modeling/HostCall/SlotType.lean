import HostCall.Arity

/-!
# The types of parameters and results

A stack slot holds an integer of 64 bits, a double, a text or one of a few other
things.  A host callable declares narrower types; this module names them.

A `SlotType` is a type that one slot can be read as and written from.  Only an
`option` may be left out by a caller, and only at the end of the parameters, so
a list of parameter types determines how many arguments it takes
(`Arity.ofParameters`).  A `ResultType` is what a callable returns: it becomes no
slot, one slot, or one slot for each component, and a fallible one may become a
failure instead.
-/

set_option autoImplicit false

namespace HostCall

/-- What one slot can be read as. -/
inductive SlotType
  | int8
  | int16
  | int32
  | int64
  | uint8
  | uint16
  | uint32
  | uint64
  | size
  | float32
  | float64
  | bool
  | text
  | object
  | function
  | slot
  | option (inner : SlotType)
deriving DecidableEq, Repr

namespace SlotType

/-- A caller may leave out a trailing parameter of this type. -/
def isOptional : SlotType → Bool
  | option _ => true
  | _ => false

/-- The name under which a slot that cannot be read as the type is reported; an
option reports what it is an option of. -/
def name : SlotType → String
  | int8 => "int8"
  | int16 => "int16"
  | int32 => "int"
  | int64 => "int64"
  | uint8 => "uint8"
  | uint16 => "uint16"
  | uint32 => "uint"
  | uint64 => "uint64"
  | size => "usize"
  | float32 => "float"
  | float64 => "double"
  | bool => "bool"
  | text => "string"
  | object => "object"
  | function => "function"
  | slot => "slot"
  | option inner => inner.name

end SlotType

/-- The counts that a list of parameters takes: each of them, or fewer as long as
only optional ones at the end are missing. -/
def Arity.ofParameters (types : List SlotType) : Arity :=
  .range (types.reverse.dropWhile SlotType.isOptional).length types.length

/-- Who holds a text that a callable returns. -/
inductive TextOwner
  | host
  | caller
deriving DecidableEq, Repr

/-- What one result slot is written from: a slot type, or a text that the host
keeps, which can be written and never read. -/
inductive ResultPart
  | value (type : SlotType)
  | hostText
deriving DecidableEq, Repr

/-- What a callable returns. -/
inductive ResultType
  | unit
  | one (part : ResultPart)
  | tuple (parts : List ResultPart)
  | fallible (success : ResultType) (failure : TextOwner)
deriving Repr

end HostCall
