import HostCall.Conversion
import HostCall.Proofs.Precision

/-!
# Writing a slot and reading it back

Writing a value and reading the slot as the same type gives the value again, and so
does reading a slot and writing what was read, with the exceptions the types force:

* a slot with a receiver object is never copied, so nothing reads it;
* an option has one slot for the absent value, and whatever the option holds that is
  itself written as an empty slot comes back absent (`SlotType.settled`);
* both empty slots read as absent, and absent is written as `void`; a double read at
  single precision is written rounded (`SlotType.rewritten`).

Integers of fewer than 64 bits are treated once, by what their reading and writing have
in common (`Narrowing`).  The laws of an option follow by induction on what it is an
option of.
-/

set_option autoImplicit false

namespace HostCall

namespace SlotType

variable {H : Host}

/-! ## What the laws except -/

/-- The value holds a slot with a receiver object. -/
def holdsObject : (type : SlotType) → type.Val H → Bool
  | slot, .native _ => true
  | option inner, some value => inner.holdsObject value
  | _, _ => false

/-- What a value reads back as: an option is absent if what it holds is written as an
empty slot. -/
def settled : (type : SlotType) → type.Val H → type.Val H
  | option inner, some value => if (inner.encode value).isNil then none else some value
  | _, value => value

/-- What a slot is written back as, if it can be read. -/
def rewritten : SlotType → Slot H → Slot H
  | option _, .null => .void
  | option inner, other => inner.rewritten other
  | float32, .float value => .float (Precision.widen (Precision.narrow value))
  | _, other => other

/-- The least and the greatest integer of a type of fewer than 64 bits. -/
def range? : SlotType → Option (Int × Int)
  | int8 => some (-128, 127)
  | int16 => some (-32768, 32767)
  | int32 => some (-2147483648, 2147483647)
  | uint8 => some (0, 255)
  | uint16 => some (0, 65535)
  | uint32 => some (0, 4294967295)
  | _ => none

/-! ## Numbers of single precision -/

/-- A number of single precision is read from the double it is written as, which is
finite when the number is. -/
theorem narrowFloat_widen (value : Float32) : narrowFloat (Precision.widen value) = .ok value := by
  rw [narrowFloat, Precision.narrow_widen]
  cases finite : (Precision.widen value).isFinite with
  | false => rfl
  | true => rw [Precision.isInf_eq_false_of_isFinite_widen finite]; rfl

/-- What was read at single precision is the double rounded. -/
theorem eq_narrow_of_narrowFloat {number : Float} {value : Float32}
    (read : narrowFloat number = .ok value) : value = Precision.narrow number := by
  rw [narrowFloat] at read
  split at read <;> cases read
  rfl

/-! ## Narrow integers -/

/-- Reading succeeds on the integers in range and names the type on every other. -/
theorem narrow_spec {α : Type} (type : SlotType) (low high : Int) (make : Int → α)
    (integer : Int64) :
    ((∃ value, narrow type low high make integer = .ok value)
      ↔ low ≤ integer.toInt ∧ integer.toInt ≤ high) ∧
    (¬(low ≤ integer.toInt ∧ integer.toInt ≤ high) →
      narrow type low high make integer = .error (.integerOverflow integer type.name)) := by
  rw [narrow]
  split
  · rename_i within
    exact ⟨⟨fun _ => within, fun _ => ⟨_, rfl⟩⟩, fun outside => absurd within outside⟩
  · rename_i outside
    refine ⟨⟨?_, fun within => absurd within outside⟩, fun _ => rfl⟩
    rintro ⟨value, read⟩
    cases read

/-- A type of integers from `low` to `high`, with the integer of each value and the
value of each integer. -/
structure Narrowing {α : Type} (low high : Int) (make : Int → α) (number : α → Int) : Prop where
  make_number : ∀ value, make (number value) = value
  number_make : ∀ integer, low ≤ integer → integer ≤ high → number (make integer) = integer
  low_le : ∀ value, low ≤ number value
  le_high : ∀ value, number value ≤ high
  fits_low : -2 ^ 63 ≤ low
  fits_high : high < 2 ^ 63

namespace Narrowing

variable {α : Type} {low high : Int} {make : Int → α} {number : α → Int}

/-- A value is read from the integer it is written as. -/
theorem narrow_written (narrowing : Narrowing low high make number) (type : SlotType)
    (value : α) : narrow type low high make (Int64.ofInt (number value)) = .ok value := by
  have above := narrowing.low_le value
  have below := narrowing.le_high value
  have fitsLow := narrowing.fits_low
  have fitsHigh := narrowing.fits_high
  have integer : (Int64.ofInt (number value)).toInt = number value :=
    Int64.toInt_ofInt_of_le (by omega) (by omega)
  rw [narrow, integer, if_pos ⟨above, below⟩, narrowing.make_number]

/-- What was read from an integer is written as that integer. -/
theorem written_of_narrow (narrowing : Narrowing low high make number) {type : SlotType}
    {integer : Int64} {value : α} (read : narrow type low high make integer = .ok value) :
    Int64.ofInt (number value) = integer := by
  rw [narrow] at read
  split at read
  · rename_i within
    injection read with read
    rw [← read, narrowing.number_make _ within.1 within.2, Int64.ofInt_toInt]
  · cases read

end Narrowing

theorem narrowing_int8 : Narrowing (-128) 127 Int8.ofInt Int8.toInt where
  make_number := Int8.ofInt_toInt
  number_make _ above below := Int8.toInt_ofInt_of_le above (Int.lt_add_one_of_le below)
  low_le := Int8.le_toInt
  le_high := Int8.toInt_le
  fits_low := by decide
  fits_high := by decide

theorem narrowing_int16 : Narrowing (-32768) 32767 Int16.ofInt Int16.toInt where
  make_number := Int16.ofInt_toInt
  number_make _ above below := Int16.toInt_ofInt_of_le above (Int.lt_add_one_of_le below)
  low_le := Int16.le_toInt
  le_high := Int16.toInt_le
  fits_low := by decide
  fits_high := by decide

theorem narrowing_int32 : Narrowing (-2147483648) 2147483647 Int32.ofInt Int32.toInt where
  make_number := Int32.ofInt_toInt
  number_make _ above below := Int32.toInt_ofInt_of_le above (Int.lt_add_one_of_le below)
  low_le := Int32.le_toInt
  le_high := Int32.toInt_le
  fits_low := by decide
  fits_high := by decide

/-- Unsigned integers: a type whose values are the naturals up to `high`. -/
theorem narrowing_unsigned {α : Type} (high : Nat) {make : Nat → α} {number : α → Nat}
    (make_number : ∀ value, make (number value) = value)
    (number_make : ∀ natural, natural ≤ high → number (make natural) = natural)
    (le_high : ∀ value, number value ≤ high) (fits : high < 2 ^ 63) :
    Narrowing 0 high (fun integer => make integer.toNat) (fun value => (number value : Int)) where
  make_number value := make_number value
  number_make integer above below := by
    rw [number_make _ (by omega)]
    omega
  low_le value := by omega
  le_high value := by exact_mod_cast le_high value
  fits_low := by decide
  fits_high := by exact_mod_cast fits

theorem narrowing_uint8 :
    Narrowing 0 255 (fun integer => UInt8.ofNat integer.toNat) (fun value => (value.toNat : Int)) :=
  narrowing_unsigned 255 (fun _ => UInt8.ofNat_toNat)
    (fun _ small => UInt8.toNat_ofNat_of_lt' (Nat.lt_succ_of_le small))
    (fun value => Nat.le_of_lt_succ value.toNat_lt) (by decide)

theorem narrowing_uint16 :
    Narrowing 0 65535 (fun integer => UInt16.ofNat integer.toNat)
      (fun value => (value.toNat : Int)) :=
  narrowing_unsigned 65535 (fun _ => UInt16.ofNat_toNat)
    (fun _ small => UInt16.toNat_ofNat_of_lt' (Nat.lt_succ_of_le small))
    (fun value => Nat.le_of_lt_succ value.toNat_lt) (by decide)

theorem narrowing_uint32 :
    Narrowing 0 4294967295 (fun integer => UInt32.ofNat integer.toNat)
      (fun value => (value.toNat : Int)) :=
  narrowing_unsigned 4294967295 (fun _ => UInt32.ofNat_toNat)
    (fun _ small => UInt32.toNat_ofNat_of_lt' (Nat.lt_succ_of_le small))
    (fun value => Nat.le_of_lt_succ value.toNat_lt) (by decide)

/-! ## Options -/

/-- An option reads an empty slot as absent and passes on every other. -/
theorem decode_option (inner : SlotType) (slot : Slot H) :
    (option inner).decode slot
      = if slot.isNil then .ok none else (inner.decode slot).map some := by
  cases slot <;> rfl

/-- An option writes an empty slot back as `void`. -/
theorem rewritten_option_of_isNil {inner : SlotType} {slot : Slot H} (empty : slot.isNil = true) :
    (option inner).rewritten slot = .void := by
  cases slot with
  | null => rfl
  | void => induction inner with
    | option inner inductionHypothesis => exact inductionHypothesis
    | _ => rfl
  | _ => cases empty

/-- An option writes back every other slot as what it is an option of does. -/
theorem rewritten_option {inner : SlotType} {slot : Slot H} (filled : slot.isNil = false) :
    (option inner).rewritten slot = inner.rewritten slot := by
  cases slot <;> first | rfl | cases filled

/-- A value that holds a receiver object is written as that object. -/
theorem isNil_encode_of_holdsObject {type : SlotType} {value : type.Val H}
    (holds : type.holdsObject value = true) : (type.encode value).isNil = false := by
  induction type with
  | slot => cases value <;> simp_all [holdsObject, encode, Slot.isNil]
  | option inner inductionHypothesis =>
      cases value with
      | none => simp [holdsObject] at holds
      | some value => exact inductionHypothesis holds
  | _ => simp [holdsObject] at holds

/-- A value that is not written as an empty slot is read back as it was. -/
theorem settled_of_not_isNil {type : SlotType} {value : type.Val H}
    (written : (type.encode value).isNil = false) : type.settled value = value := by
  cases type with
  | option inner =>
      cases value with
      | none => rfl
      | some value =>
          have written : (inner.encode value).isNil = false := written
          simp [settled, written]
  | _ => rfl

/-! ## The laws -/

/-- **Writing and reading.** -/
theorem decode_encode (type : SlotType) (value : type.Val H) :
    type.decode (type.encode value)
      = if type.holdsObject value then .error (.notCopyable "native")
        else .ok (type.settled value) := by
  induction type with
  | int8 =>
      simp only [encode, ← Int64.ofInt_int8ToInt]
      exact narrowing_int8.narrow_written int8 value
  | int16 =>
      simp only [encode, ← Int64.ofInt_int16ToInt]
      exact narrowing_int16.narrow_written int16 value
  | int32 =>
      simp only [encode, ← Int64.ofInt_int32ToInt]
      exact narrowing_int32.narrow_written int32 value
  | uint8 =>
      simp only [encode, ← Int64.ofInt_eq_ofNat]
      exact narrowing_uint8.narrow_written uint8 value
  | uint16 =>
      simp only [encode, ← Int64.ofInt_eq_ofNat]
      exact narrowing_uint16.narrow_written uint16 value
  | uint32 =>
      simp only [encode, ← Int64.ofInt_eq_ofNat]
      exact narrowing_uint32.narrow_written uint32 value
  | uint64 => simp [encode, decode, holdsObject, settled]
  | size => simp [encode, decode, holdsObject, settled]
  | float32 => exact narrowFloat_widen value
  | slot => cases value <;> rfl
  | option inner inductionHypothesis =>
      cases value with
      | none => rfl
      | some value =>
          rw [decode_option, encode]
          cases written : (inner.encode value).isNil with
          | true =>
              have holdsNone : inner.holdsObject value = false := by
                by_contra holds
                simp [isNil_encode_of_holdsObject (Bool.eq_true_of_not_eq_false holds)] at written
              simp [holdsObject, holdsNone, settled, written]
          | false =>
              rw [inductionHypothesis, settled_of_not_isNil written]
              simp only [holdsObject, settled, written]
              cases inner.holdsObject value <;> rfl
  | _ => rfl

/-- **Reading and writing.** -/
theorem encode_of_decode {type : SlotType} {slot : Slot H} {value : type.Val H}
    (read : type.decode slot = .ok value) : type.encode value = type.rewritten slot := by
  induction type with
  | int8 =>
      cases slot with
      | int integer =>
          rw [encode, ← Int64.ofInt_int8ToInt, narrowing_int8.written_of_narrow read]
          rfl
      | _ => cases read
  | int16 =>
      cases slot with
      | int integer =>
          rw [encode, ← Int64.ofInt_int16ToInt, narrowing_int16.written_of_narrow read]
          rfl
      | _ => cases read
  | int32 =>
      cases slot with
      | int integer =>
          rw [encode, ← Int64.ofInt_int32ToInt, narrowing_int32.written_of_narrow read]
          rfl
      | _ => cases read
  | uint8 =>
      cases slot with
      | int integer =>
          rw [encode, ← Int64.ofInt_eq_ofNat, narrowing_uint8.written_of_narrow read]
          rfl
      | _ => cases read
  | uint16 =>
      cases slot with
      | int integer =>
          rw [encode, ← Int64.ofInt_eq_ofNat, narrowing_uint16.written_of_narrow read]
          rfl
      | _ => cases read
  | uint32 =>
      cases slot with
      | int integer =>
          rw [encode, ← Int64.ofInt_eq_ofNat, narrowing_uint32.written_of_narrow read]
          rfl
      | _ => cases read
  | uint64 | size =>
      cases slot with
      | int integer =>
          cases read
          exact congrArg Slot.int integer.toInt64_toUInt64
      | _ => cases read
  | float32 =>
      cases slot with
      | float number =>
          rw [encode, (eq_narrow_of_narrowFloat read)]
          rfl
      | _ => cases read
  | slot =>
      rw [decode] at read
      split at read
      · rename_i copied
        cases read
        cases Slot.eq_of_copy? copied
        rfl
      · cases read
  | option inner inductionHypothesis =>
      rw [decode_option] at read
      cases empty : slot.isNil with
      | true =>
          rw [empty] at read
          cases read
          rw [encode, rewritten_option_of_isNil empty]
      | false =>
          rw [empty] at read
          cases inside : inner.decode slot with
          | error _ => rw [inside] at read; cases read
          | ok content =>
              rw [inside] at read
              cases read
              rw [encode, rewritten_option empty, inductionHypothesis inside]
  | _ => cases slot <;> cases read; rfl

/-- A type of fewer than 64 bits reads the integers of its range and reports every other. -/
theorem decode_int {type : SlotType} {low high : Int} (range : type.range? = some (low, high))
    (integer : Int64) :
    ((∃ value, type.decode (.int integer : Slot H) = .ok value)
      ↔ low ≤ integer.toInt ∧ integer.toInt ≤ high) ∧
    (¬(low ≤ integer.toInt ∧ integer.toInt ≤ high) →
      type.decode (.int integer : Slot H) = .error (.integerOverflow integer type.name)) := by
  cases type <;> cases range <;> exact narrow_spec _ _ _ _ integer

/-- **Slot conversions round-trip.**  A value comes back from the slot it is written to,
unless it holds a receiver object, which is not copied, or an option holds something
that is written as an empty slot, which comes back absent.  A slot that can be read is
written back as it was, but for `null` read as absent and a double read at single
precision.  Integers of fewer than 64 bits are read in their range and reported by
overflow outside it, and an unsigned integer of 64 bits shares its bits with the signed
one in the slot. -/
theorem conversions_roundTrip (type : SlotType) :
    (∀ value : type.Val H, type.decode (type.encode value)
      = if type.holdsObject value then .error (.notCopyable "native")
        else .ok (type.settled value)) ∧
    (∀ (given : Slot H) (value : type.Val H), type.decode given = .ok value →
      type.encode value = type.rewritten given) ∧
    (∀ low high, type.range? = some (low, high) → ∀ integer : Int64,
      ((∃ value, type.decode (.int integer : Slot H) = .ok value)
        ↔ low ≤ integer.toInt ∧ integer.toInt ≤ high) ∧
      (¬(low ≤ integer.toInt ∧ integer.toInt ≤ high) →
        type.decode (.int integer : Slot H) = .error (.integerOverflow integer type.name))) ∧
    (∀ word : UInt64, word.toInt64.toBitVec = word.toBitVec ∧
      uint64.encode word = (.int word.toInt64 : Slot H) ∧
      uint64.decode (.int word.toInt64 : Slot H) = .ok word ∧
      size.encode word = (.int word.toInt64 : Slot H) ∧
      size.decode (.int word.toInt64 : Slot H) = .ok word) := by
  refine ⟨decode_encode type, fun _ _ => encode_of_decode, ?_, ?_⟩
  · intro low high range integer
    exact decode_int range integer
  · intro word
    have unsigned := word.toUInt64_toInt64
    exact ⟨word.toBitVec_toInt64, rfl, congrArg Except.ok unsigned, rfl,
      congrArg Except.ok unsigned⟩

example : (option (option bool)).decode ((option (option bool)).encode (some none) : Slot H)
    = .ok none := rfl

end SlotType

end HostCall
