import HostCall.Frame

/-!
# Parameter lists

The values of a list of parameter types are read from consecutive arguments, left
to right, and the first that cannot be read decides the failure
(`Parameters.extract`).  Whether all of them can be read is answered without
making any value (`Parameters.accepts`).
-/

set_option autoImplicit false

namespace HostCall

/-- One value for each parameter type. -/
@[reducible] def Parameters (H : Host) : List SlotType → Type
  | [] => Unit
  | type :: types => type.Val H × Parameters H types

namespace Parameters

variable {H : Host}

/-- The parameters read from the arguments that start at an offset. -/
def extract (frame : Frame H) :
    (types : List SlotType) → (offset : Nat) → Except CallError (Parameters H types)
  | [], _ => .ok ()
  | type :: types, offset =>
      match frame.argument type offset with
      | .error error => .error error
      | .ok value => (extract frame types (offset + 1)).map (value, ·)

/-- Every parameter could be read from the arguments that start at an offset. -/
def accepts (frame : Frame H) : (types : List SlotType) → (offset : Nat) → Bool
  | [], _ => true
  | type :: types, offset =>
      frame.argumentAccepts type offset && accepts frame types (offset + 1)

/-- The slots that the values are written to, in order. -/
def encode : (types : List SlotType) → Parameters H types → List (Slot H)
  | [], _ => []
  | type :: types, (value, values) => type.encode value :: encode types values

end Parameters

end HostCall
