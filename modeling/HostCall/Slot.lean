import HostCall.Callback
import HostCall.Decimal.Layout
import HostCall.Text.Quoted

/-!
# Slots of the value stack

A host gives each receiver type its values, and has a memory of its own that its
callables share.  A slot of the value stack holds a number, a truth value, a
text, a handle of a heap object, a whole receiver object, a callback, or
nothing: `void` for what was left out and `null` for a handle to no object.

A slot that holds a receiver object owns it and cannot be copied
(`Slot.copy?`), and such a slot equals no slot, itself included (`Slot.same`).
-/

set_option autoImplicit false

namespace HostCall

/-- A vocabulary with what its receiver types hold, what the host remembers, and
how receiver types are spelled. -/
structure Host extends Vocabulary where
  Value : Receiver → Type
  Memory : Type
  receiverName : Receiver → String

/-- A receiver value together with its type. -/
structure Object (H : Host) where
  receiver : H.Receiver
  value : H.Value receiver

namespace Object

variable {H : Host}

/-- The value, if the object is of the type asked for. -/
def as? (object : Object H) (receiver : H.Receiver) : Option (H.Value receiver) :=
  if same : object.receiver = receiver then some (same ▸ object.value) else none

@[simp] theorem as?_self (receiver : H.Receiver) (value : H.Value receiver) :
    (Object.mk receiver value).as? receiver = some value := by
  simp [as?]

theorem as?_of_ne {object : Object H} {receiver : H.Receiver}
    (other : object.receiver ≠ receiver) : object.as? receiver = none := by
  simp [as?, other]

/-- An object read at a type is the object of that type with the value read. -/
theorem eq_mk_of_as? {object : Object H} {receiver : H.Receiver} {value : H.Value receiver}
    (found : object.as? receiver = some value) : object = ⟨receiver, value⟩ := by
  unfold as? at found
  split at found
  · rename_i same
    obtain ⟨type, content⟩ := object
    subst same
    simp_all
  · simp at found

end Object

/-- One slot of the value stack. -/
inductive Slot (H : Host)
  | void
  | int (value : Int64)
  | float (value : Float)
  | bool (value : Bool)
  | text (value : String)
  | object (handle : Handle H.toVocabulary)
  | native (object : Object H)
  | null
  | function (callback : Callback H.toVocabulary)

namespace Slot

variable {H : Host}

instance : Inhabited (Slot H) := ⟨void⟩

/-- The name of what the slot holds, as messages give it. -/
def typeName : Slot H → String
  | void => "void"
  | int _ => "int"
  | float _ => "float"
  | bool _ => "bool"
  | text _ => "string"
  | object _ => "object"
  | native _ => "native"
  | null => "null"
  | function _ => "function"

/-- The slot reads as the absent value of an optional parameter. -/
def isNil : Slot H → Bool
  | void | null => true
  | _ => false

/-- The callback in the slot. -/
def callback? : Slot H → Option (Callback H.toVocabulary)
  | function callback => some callback
  | _ => none

/-- A copy of the slot; a receiver object stays where it is. -/
def copy? : Slot H → Option (Slot H)
  | native _ => none
  | slot => some slot

/-- Two slots hold the same thing.  Callbacks are compared as records, numbers as
numbers, and receiver objects not at all. -/
def same : Slot H → Slot H → Bool
  | void, void | null, null => true
  | int left, int right => left == right
  | float left, float right => left == right
  | bool left, bool right => left == right
  | text left, text right => left == right
  | object left, object right => left == right
  | function left, function right => left.same right
  | _, _ => false

/-- The record form of a slot. -/
def debug : Slot H → String
  | void => "Void"
  | int value => "Int(" ++ toString value.toInt ++ ")"
  | float value => "Float(" ++ Decimal.Layout.record.float value ++ ")"
  | bool value => "Bool(" ++ toString value ++ ")"
  | text value => "String(" ++ Text.quoted value ++ ")"
  | object handle =>
      "Object(" ++ toString handle.index.toNat ++ ", " ++ toString handle.generation.toNat ++ ")"
  | native _ => "Native(..)"
  | null => "NullHandle"
  | function callback => "Function(" ++ callback.shape.name ++ ")"

/-- A copy is the slot itself. -/
theorem eq_of_copy? {slot copy : Slot H} (copied : slot.copy? = some copy) : copy = slot := by
  cases slot <;> simp_all [copy?]

end Slot

end HostCall
