import HostCall.Fault
import HostCall.Precision
import HostCall.Slot

/-!
# Reading and writing slots

`SlotType.decode` reads a slot as a type and says why it cannot; `SlotType.encode`
writes a value into a slot.  `SlotType.accepts` answers whether a slot can be read
by looking at the slot alone, without making the value; `accepts_eq_isOk` says
that the two never disagree.

Integers of fewer than 64 bits are read only from their own range.  An unsigned
integer of 64 bits shares the bits of the signed one in the slot, so every one of
them travels.  A single-precision number is read by rounding, unless a finite
double would become infinite.  An option reads an empty slot as absent and passes
every other slot to what it is an option of.
-/

set_option autoImplicit false

namespace HostCall

namespace SlotType

/-- The values of a type. -/
@[reducible] def Val (H : Host) : SlotType → Type
  | int8 => Int8
  | int16 => Int16
  | int32 => Int32
  | int64 => Int64
  | uint8 => UInt8
  | uint16 => UInt16
  | uint32 => UInt32
  | uint64 => UInt64
  | size => UInt64
  | float32 => Float32
  | float64 => Float
  | bool => Bool
  | text => String
  | object => Handle H.toVocabulary
  | function => Callback H.toVocabulary
  | slot => Slot H
  | option inner => Option (Val H inner)

variable {H : Host}

/-! ## Reading -/

/-- The slot holds something else than the type asked for. -/
def mismatch (type : SlotType) (slot : Slot H) : ConversionError :=
  .typeMismatch type.name slot.typeName

/-- An integer from its own range, or the overflow that reports it. -/
def narrow {α : Type} (type : SlotType) (low high : Int) (make : Int → α) (value : Int64) :
    Except ConversionError α :=
  if low ≤ value.toInt ∧ value.toInt ≤ high then .ok (make value.toInt)
  else .error (.integerOverflow value type.name)

/-- A double rounded to single precision; a finite one must stay finite. -/
def narrowFloat (value : Float) : Except ConversionError Float32 :=
  if value.isFinite && (Precision.narrow value).isInf then
    .error (.floatOverflow value float32.name)
  else .ok (Precision.narrow value)

/-- A slot read as a type. -/
def decode : (type : SlotType) → Slot H → Except ConversionError (type.Val H)
  | int8, .int value => narrow int8 (-128) 127 Int8.ofInt value
  | int16, .int value => narrow int16 (-32768) 32767 Int16.ofInt value
  | int32, .int value => narrow int32 (-2147483648) 2147483647 Int32.ofInt value
  | int64, .int value => .ok value
  | uint8, .int value => narrow uint8 0 255 (fun number => UInt8.ofNat number.toNat) value
  | uint16, .int value => narrow uint16 0 65535 (fun number => UInt16.ofNat number.toNat) value
  | uint32, .int value =>
      narrow uint32 0 4294967295 (fun number => UInt32.ofNat number.toNat) value
  | uint64, .int value => .ok value.toUInt64
  | size, .int value => .ok value.toUInt64
  | float32, .float value => narrowFloat value
  | float64, .float value => .ok value
  | bool, .bool value => .ok value
  | text, .text value => .ok value
  | object, .object handle => .ok handle
  | object, .null => .error (.nullHandle object.name)
  | function, .function callback => .ok callback
  | slot, any =>
      match any.copy? with
      | some copy => .ok copy
      | none => .error (.notCopyable any.typeName)
  | option _, .void => .ok none
  | option _, .null => .ok none
  | option inner, other => (inner.decode other).map some
  | type, other => .error (type.mismatch other)

/-! ## Writing -/

/-- The slot that holds a value. -/
def encode : (type : SlotType) → type.Val H → Slot H
  | int8, value => .int value.toInt64
  | int16, value => .int value.toInt64
  | int32, value => .int value.toInt64
  | int64, value => .int value
  | uint8, value => .int (Int64.ofNat value.toNat)
  | uint16, value => .int (Int64.ofNat value.toNat)
  | uint32, value => .int (Int64.ofNat value.toNat)
  | uint64, value => .int value.toInt64
  | size, value => .int value.toInt64
  | float32, value => .float (Precision.widen value)
  | float64, value => .float value
  | bool, value => .bool value
  | text, value => .text value
  | object, value => .object value
  | function, value => .function value
  | slot, value => value
  | option _, none => .void
  | option inner, some value => inner.encode value

/-! ## Which slots can be read -/

/-- The integer lies between two bounds. -/
def within (low high : Int) (value : Int64) : Bool := low ≤ value.toInt && value.toInt ≤ high

/-- The slot can be read as the type, decided by its shape and range. -/
def accepts : SlotType → Slot H → Bool
  | int8, .int value => within (-128) 127 value
  | int16, .int value => within (-32768) 32767 value
  | int32, .int value => within (-2147483648) 2147483647 value
  | uint8, .int value => within 0 255 value
  | uint16, .int value => within 0 65535 value
  | uint32, .int value => within 0 4294967295 value
  | int64, .int _ | uint64, .int _ | size, .int _ => true
  | float32, .float value => !(value.isFinite && (Precision.narrow value).isInf)
  | float64, .float _ => true
  | bool, .bool _ => true
  | text, .text _ => true
  | object, .object _ => true
  | function, .function _ => true
  | slot, .native _ => false
  | slot, _ => true
  | option inner, other => other.isNil || inner.accepts other
  | _, _ => false

theorem narrow_isOk {α : Type} (type : SlotType) (low high : Int) (make : Int → α)
    (value : Int64) : (narrow type low high make value).isOk = within low high value := by
  simp only [narrow, within]
  split <;> simp_all [Except.isOk, Except.toBool]

theorem narrowFloat_isOk (value : Float) :
    (narrowFloat value).isOk = !(value.isFinite && (Precision.narrow value).isInf) := by
  simp only [narrowFloat]
  cases value.isFinite && (Precision.narrow value).isInf <;> rfl

/-- Reading succeeds exactly on the slots that are accepted. -/
theorem accepts_eq_isOk (type : SlotType) (slot : Slot H) :
    type.accepts slot = (type.decode slot).isOk := by
  induction type generalizing slot with
  | option inner inductionHypothesis =>
      cases slot <;>
        simp only [accepts, decode, Slot.isNil, Bool.true_or, Bool.false_or,
          inductionHypothesis] <;>
        first
          | rfl
          | (cases inner.decode _ <;> rfl)
  | _ => cases slot <;> simp only [accepts, decode, narrow_isOk, narrowFloat_isOk] <;> rfl

end SlotType

end HostCall
