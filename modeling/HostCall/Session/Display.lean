import HostCall.Sample.Host

/-!
# How a session shows values

A callback is shown by what can be seen of it, so showing a value may need to ask
about callbacks; the asking is a parameter, and the same functions serve a running
callable, which asks by an operation, and an onlooker, who asks the library.
-/

set_option autoImplicit false

namespace HostCall.Session

open Sample

/-! ## Parts -/

/-- What can be seen of a callback. -/
def profileReport (raw : Bool) (profile : Profile) : Report :=
  .one "fn" (.parts
    [("shape", .text profile.shape.name),
      ("kind", .optional (.text ·.name) profile.origin),
      ("binding", .text profile.binding.name),
      ("arity", .arity profile.arity),
      ("upvalues", .natural profile.upvalues),
      ("raw", .truth raw)])

/-- A handle by its place, its generation and the type it was issued for. -/
def handleReport (handle : Handle vocabulary) : Report :=
  .one "obj" (.list
    [.natural handle.index.toNat, .natural handle.generation.toNat,
      .text handle.receiver.written])

/-- A policy, setting by setting and in numeric form. -/
def policyReport (policy : Policy) : Report :=
  .parts
    [("extra", .text (match policy.surplus with
        | .ignore => "Ignore"
        | .reject => "Reject")),
      ("type_check", .truth policy.checksTypes),
      ("depth", .natural policy.stackLimit),
      ("props", .list
        ([.surplus, .checksTypes, .stackLimit].map fun setting =>
          .natural (policy.get setting)))]

/-! ## Values that may hold callbacks -/

variable {m : Type → Type} [Monad m] (inspect : Callback vocabulary → m Profile)

/-- A callback. -/
def callbackReport (callback : Callback vocabulary) : m Report :=
  return profileReport callback.raw?.isSome (← inspect callback)

/-- Something that may be missing. -/
def optionalReport {α : Type} (shown : α → m Report) : Option α → m Report
  | some value => shown value
  | none => pure .nothing

/-- A record, part by part. -/
def recordReport (record : Record) : m Report :=
  return .parts
    [("i", .number record.int.toInt),
      ("small", .natural record.small.toNat),
      ("big", .natural record.big.toNat),
      ("f", .float record.float),
      ("g", .float (Precision.widen record.single)),
      ("b", .truth record.bool),
      ("s", .text record.text),
      ("opt", .optional (.number ·.toInt) record.option),
      ("cb", ← optionalReport (callbackReport inspect) record.callback),
      ("link", .optional handleReport record.link)]

/-- A receiver value, without its type. -/
def valueReport : (receiver : Receiver) → host.Value receiver → m Report
  | .counter, counter => pure (.number counter.count.toInt)
  | .point, point => pure (.list [.float point.x, .float point.y])
  | .record, record => recordReport inspect record
  | .text, text => pure (.text text)
  | .int32, number => pure (.number number.toInt)
  | .unit, _ => pure .nothing

/-- A receiver object, under the name of its type. -/
def objectReport (object : Object host) : m Report :=
  return .one object.receiver.written (← valueReport inspect object.receiver object.value)

/-- A slot. -/
def slotReport : Slot host → m Report
  | .void => pure (.text "void")
  | .null => pure (.text "null")
  | .bool value => pure (.truth value)
  | .int value => pure (.one "i" (.number value.toInt))
  | .float value => pure (.one "f" (.float value))
  | .text value => pure (.one "s" (.text value))
  | .object handle => pure (handleReport handle)
  | .native object => return .one "native" (← objectReport inspect object)
  | .function callback => callbackReport inspect callback

end HostCall.Session
