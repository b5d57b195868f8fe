import HostCall.Dispatch

/-!
# From a name to a callback

Each name of the vocabulary becomes a callback in one step: a closure with a block
that remembers the name, or, for a name that has the shape of a callback already,
a direct callback without a closure around it.  What is fixed here is how the
callback was put together and where its receiver is; the number of arguments it
declares follows from the name.

A bound receiver is made from a value, which is copied into a cell of the
closure's own, or from a handle of a shared cell, of which only a reference is
kept.

Every closure built gets an identity of its own, so two callbacks built alike are
still told apart (`closure_ne_closure`).  A router built in front of coherent
candidates is coherent (`coherent_route`).
-/

set_option autoImplicit false

namespace HostCall

variable {H : Host}

/-- A step that builds something in the world of the host. -/
abbrev Building (H : Host) : Type → Type := StateM (World H)

/-- What a receiver is bound from. -/
inductive ReceiverSource (H : Host)
  /-- A value, to be copied. -/
  | value (content : Object H)
  /-- A shared handle of a cell. -/
  | handle (cell : CellId)
  /-- A reference to a cell, or to none. -/
  | reference (cell : Option CellId)
  /-- A receiver that is bound already. -/
  | bound (receiver : FixedReceiver)

/-- The receiver bound from a source. -/
def ReceiverSource.bind : ReceiverSource H → Building H FixedReceiver
  | value content => fun world =>
      let (world, cell) := world.newCell content
      (.owned cell, world)
  | handle cell => pure (.referenced (some cell))
  | reference cell => pure (.referenced cell)
  | bound receiver => pure receiver

/-- The receiver that a source stands for, unless it is a value yet to be copied. -/
def ReceiverSource.fixed? : ReceiverSource H → Option FixedReceiver
  | value _ => none
  | handle cell => some (.referenced (some cell))
  | reference cell => some (.referenced cell)
  | bound receiver => some receiver

/-- Binding such a source leaves the world as it is. -/
theorem ReceiverSource.bind_of_fixed? {source : ReceiverSource H} {receiver : FixedReceiver}
    (fixed : source.fixed? = some receiver) (world : World H) :
    source.bind world = (receiver, world) := by
  cases source <;> cases fixed <;> rfl

namespace Callback

/-- A new closure around a block. -/
def wrap (block : Block H.toVocabulary) : Building H (Callback H.toVocabulary) := fun world =>
  let (world, id) := world.newClosure
  (.closure id block, world)

/-- A free function as a callback. -/
def function (name : H.Function) : Building H (Callback H.toVocabulary) := wrap (.function name)

/-- A method as a callback whose receiver is argument 0. -/
def method (name : H.Method) : Building H (Callback H.toVocabulary) := wrap (.method name)

/-- A method as a callback with its receiver fixed now. -/
def methodBound (name : H.Method) (source : ReceiverSource H) :
    Building H (Callback H.toVocabulary) := do
  let receiver ← source.bind
  wrap (.boundMethod name receiver)

/-- A field as a callback whose receiver is argument 0. -/
def field (name : H.Field) : Building H (Callback H.toVocabulary) := wrap (.field name)

/-- A field as a callback with its receiver fixed now. -/
def fieldBound (name : H.Field) (source : ReceiverSource H) :
    Building H (Callback H.toVocabulary) := do
  let receiver ← source.bind
  wrap (.boundField name receiver)

/-- A constructor as a callback. -/
def construct (name : H.Constructor) : Building H (Callback H.toVocabulary) :=
  wrap (.construct name)

/-- A callable that works on frames, with what it declares about itself. -/
def custom (label : Label) (name : H.Custom) : Building H (Callback H.toVocabulary) :=
  wrap (.custom label name)

/-- A member bound without a copy is a closure that remembers the receiver. -/
theorem methodBound_of_fixed? {source : ReceiverSource H} {receiver : FixedReceiver}
    (fixed : source.fixed? = some receiver) (name : H.Method) :
    methodBound name source = wrap (.boundMethod name receiver) := by
  funext world
  change wrap (.boundMethod name (source.bind world).1) (source.bind world).2 = _
  rw [source.bind_of_fixed? fixed]

theorem fieldBound_of_fixed? {source : ReceiverSource H} {receiver : FixedReceiver}
    (fixed : source.fixed? = some receiver) (name : H.Field) :
    fieldBound name source = wrap (.boundField name receiver) := by
  funext world
  change wrap (.boundField name (source.bind world).1) (source.bind world).2 = _
  rw [source.bind_of_fixed? fixed]

/-- A new router in front of candidates, which declares what they declare together. -/
def route (library : Library H) (shape : Shape) (candidates : List (Callback H.toVocabulary)) :
    Building H (Callback H.toVocabulary) := fun world =>
  let (world, id) := world.newClosure
  (.router id shape (library.covering candidates) candidates, world)

/-- Two closures built one after the other are different records, also when their
blocks are the same. -/
theorem closure_ne_closure (first second : Block H.toVocabulary) (world : World H) :
    let (left, next) := wrap first world
    let (right, _) := wrap second next
    left.same right = false := by
  simp [wrap, World.newClosure, same, id?]

/-- A router in front of coherent candidates is coherent. -/
theorem coherent_route {library : Library H} {candidates : List (Callback H.toVocabulary)}
    (each : ∀ candidate ∈ candidates, library.Coherent candidate) (shape : Shape)
    (world : World H) : library.Coherent (route library shape candidates world).1 :=
  .router each

end Callback

end HostCall
