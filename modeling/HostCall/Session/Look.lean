import HostCall.Dispatch
import HostCall.Session.Spec

/-!
# Looking at values in a session

What a session shows of ranges of counts, slots, conversions, parameters,
descriptions and fields.  Nothing here changes the session.
-/

set_option autoImplicit false

namespace HostCall.Session

open Sample

/-! ## Showing -/

/-- A success. -/
def success (content : Report) : Report := .one "ok" content

variable (session : Session)

/-- What can be seen of a callback, asked by an onlooker. -/
def inspect (callback : Callback vocabulary) : Id Profile :=
  session.meanings.profile callback

/-- A callback. -/
def showCallback (callback : Callback vocabulary) : Report :=
  Id.run (callbackReport session.inspect callback)

/-- A slot. -/
def showSlot (slot : Slot host) : Report := Id.run (slotReport session.inspect slot)

/-- A receiver object. -/
def showObject (object : Object host) : Report := Id.run (objectReport session.inspect object)

/-- Slots, in order. -/
def showSlots (slots : List (Slot host)) : Report := .list (slots.map session.showSlot)

/-! ## Pure values -/

/-- The step that looks at a range of counts. -/
def arityReport (declared : Arity) (counts : List Nat) (shift : Option Nat)
    (other : Option Arity) : Report :=
  let looked : List (String × Report) :=
    [("min", .natural declared.least),
      ("max", .optional .natural declared.greatest),
      ("exact", .truth declared.isExact),
      ("text", .text declared.text),
      ("admits", .list (counts.map fun count => .truth (declared.admits count)))]
  let shifted := match shift with
    | some offset => [("shifted", Report.arity (declared.shift offset))]
    | none => []
  let joined := match other with
    | some other =>
        let union := declared.union other
        [("union", Report.arity union), ("union_text", .text union.text),
          ("equal", .truth (declared == other))]
    | none => []
  .parts (looked ++ shifted ++ joined)

/-- The step that reads a slot as a type and writes the value back. -/
def convertReport (type : SlotType) (slot : Slot host) : Report :=
  .parts
    [("value", .outcome Report.conversionFailure (fun value => session.showSlot (type.encode value))
        (type.decode slot)),
      ("accepts", .truth (type.accepts slot)),
      ("optional", .truth type.isOptional)]

/-- The step that looks at a slot, and compares it with another one. -/
def slotLook (first : Slot host) (second : Option (Slot host)) : Report :=
  let copy := match first.copy? with
    | some copy =>
        .parts [("slot", session.showSlot copy), ("equal", .truth (copy.same first))]
    | none => .nothing
  let looked : List (String × Report) :=
    [("type", .text first.typeName),
      ("nil", .truth first.isNil),
      ("debug", .text first.debug),
      ("slot", session.showSlot first),
      ("clone", copy),
      ("function", .truth first.callback?.isSome)]
  let compared := match second with
    | some second => [("equal", Report.truth (first.same second))]
    | none => []
  .parts (looked ++ compared)

/-- The step that reads parameters from a frame. -/
def parametersReport (types : List SlotType) (slots : List (Slot host)) (base offset : Nat) :
    Report :=
  let frame := Frame.enter slots.toArray base session.interpreter.heap session.interpreter.policy
  .parts
    [("len", .natural types.length),
      ("arity", .arity (.ofParameters types)),
      ("types", .list (types.map fun type => .text (spelling.slotType type))),
      ("accepts", .truth (Parameters.accepts frame types offset)),
      ("extract", .outcome Report.callFailure
        (fun values => session.showSlots (Parameters.encode types values))
        (Parameters.extract frame types offset))]

/-- A description of a callable. -/
def descriptionReport (description : Description host) : List (String × Report) :=
  [("kind", .text description.origin.name),
    ("params", .list (description.parameters.map fun type => .text (spelling.slotType type))),
    ("ret", .text (spelling.result description.result)),
    ("receiver", .optional (fun receiver => .text receiver.fullName) description.receiver),
    ("arity", .arity description.arity),
    ("member", .truth description.isMember),
    ("text", .text (description.text spelling))]

/-- The step that reads and writes a field of an object. -/
def fieldReport (field : FieldName) (object : Object host) (value : Option (Slot host)) :
    Report :=
  let meaning := field.meaning
  match object.as? meaning.receiver with
  | none => .nothing
  | some content =>
      let (written, after) := match value with
        | none => (Report.nothing, content)
        | some slot =>
            match meaning.type.decode slot with
            | .error error => (Report.conversionFailure error, content)
            | .ok value => (.text "written", meaning.set value content)
      .parts
        [("name", .text meaning.name),
          ("before", session.showSlot (meaning.type.encode (meaning.get content))),
          ("write", written),
          ("after", session.showObject ⟨meaning.receiver, after⟩)]

end HostCall.Session
