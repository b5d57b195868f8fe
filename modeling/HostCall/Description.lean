import HostCall.Library

/-!
# Descriptions of callables

A callable can be described before it is wrapped: what it is, the types of its
parameters and of its result, its receiver, and the numbers of arguments it
takes.  How types are spelled is a matter of the host, and a `Spelling` holds it.
-/

set_option autoImplicit false

namespace HostCall

/-- How types are spelled. -/
structure Spelling where
  /-- A type that is no option. -/
  plain : SlotType → String
  /-- An option of a spelled type. -/
  option : String → String
  /-- No result. -/
  unit : String
  /-- Several results. -/
  tuple : List String → String
  /-- A result that may fail. -/
  fallible : (success failure : String) → String
  /-- A text by its owner. -/
  ownedText : TextOwner → String

namespace Spelling

/-- A slot type in full. -/
def slotType (spelling : Spelling) : SlotType → String
  | .option inner => spelling.option (spelling.slotType inner)
  | other => spelling.plain other

/-- One part of a result in full. -/
def part (spelling : Spelling) : ResultPart → String
  | .value type => spelling.slotType type
  | .hostText => spelling.ownedText .host

/-- A result type in full. -/
def result (spelling : Spelling) : ResultType → String
  | .unit => spelling.unit
  | .one part => spelling.part part
  | .tuple parts => spelling.tuple (parts.map spelling.part)
  | .fallible success failure =>
      spelling.fallible (spelling.result success) (spelling.ownedText failure)

end Spelling

/-- A description of a callable. -/
structure Description (H : Host) where
  origin : Origin
  parameters : List SlotType
  result : ResultType
  receiver : Option H.Receiver
  arity : Arity

variable {H : Host}

/-- A free function is described by its parameters and its result. -/
def FreeFunction.description (function : FreeFunction H) : Description H where
  origin := function.form.origin
  parameters := function.parameters
  result := function.result
  receiver := none
  arity := .ofParameters function.parameters

/-- A method also has a receiver, which comes before its parameters. -/
def Method.description (method : Method H) : Description H where
  origin := .memberFunction
  parameters := method.parameters
  result := method.result
  receiver := some method.receiver
  arity := (Arity.ofParameters method.parameters).shift 1

/-- A field is read with its receiver alone and written with a value behind it. -/
def Field.description (field : Field H) : Description H where
  origin := .memberVariable
  parameters := [field.type]
  result := .one (.value field.type)
  receiver := some field.receiver
  arity := .range 1 2

namespace Description

/-- A member has a receiver. -/
def isMember (description : Description H) : Bool := description.receiver.isSome

/-- The description in one line. -/
def text (description : Description H) (spelling : Spelling) : String :=
  let receiver := match description.receiver with
    | some receiver => H.receiverName receiver ++ "::"
    | none => ""
  description.origin.name ++ " " ++ receiver ++ "(" ++
    commaSeparated (description.parameters.map spelling.slotType) ++ ") -> " ++
    spelling.result description.result

end Description

/-- The record form of a field. -/
def Field.debug (field : Field H) (spelling : Spelling) : String :=
  "Field(" ++ H.receiverName field.receiver ++ "::" ++ field.name ++ ": " ++
    spelling.slotType field.type ++ ")"

end HostCall
