import HostCall.SlotType

/-!
# Callbacks

A callback is the record that an interpreter can hold in a slot and call.  It is
made of names only: the vocabulary of a host says which functions, methods,
fields, constructors and custom callables there are, and a `Callback` says which
of them stands behind the slot.  What the names mean is given elsewhere, so two
slots can hold the same callback and a callback can travel through the stack it
is called on.

There are three forms.  A direct callback is a bare name of a callable that
already works on frames.  A closure holds one block of captured state.  A router
holds candidates in order, and the range of counts that it declares, which is
worked out once, when it is built.  There may be routers among the candidates, so a
callback is a finite tree whose leaves are direct callbacks and closures.  Branches
may be shared: however often a router stands in a tree, its range is at hand
without a walk through it.

Closures and routers carry an identity, which their copies share.
-/

set_option autoImplicit false

namespace HostCall

/-! ## Names -/

/-- The names that a host exposes. -/
structure Vocabulary where
  /-- Types of receiver objects. -/
  Receiver : Type
  /-- Free functions. -/
  Function : Type
  /-- Functions of a receiver. -/
  Method : Type
  /-- Fields of a receiver. -/
  Field : Type
  /-- Functions that make a receiver object. -/
  Constructor : Type
  /-- Callables that already have the shape of a callback and capture nothing. -/
  Raw : Type
  /-- Callables that have the shape of a callback and state of their own. -/
  Custom : Type
  [decideReceiver : DecidableEq Receiver]
  [decideRaw : DecidableEq Raw]

attribute [instance] Vocabulary.decideReceiver Vocabulary.decideRaw

/-- A reference to an object in a heap: a place, the generation of the object that
the reference was issued for, and the type of that object. -/
structure Handle (V : Vocabulary) where
  index : UInt32
  generation : UInt32
  receiver : V.Receiver
deriving DecidableEq

/-! ## Classification -/

/-- What a callback was made from. -/
inductive Origin
  | freeFunction
  | functionPointer
  | memberFunction
  | memberVariable
  | functor
deriving DecidableEq, Repr

/-- How a callback was put together. -/
inductive Shape
  | direct
  | freeFunction
  | memberFunction
  | memberVariable
  | overloaded
  | property
  | constructor
deriving DecidableEq, Repr

/-- Where a member callback finds its receiver. -/
inductive Binding
  | unbound
  | owned
  | referenced
deriving DecidableEq, Repr

/-- The written name of an origin. -/
def Origin.name : Origin → String
  | freeFunction => "FreeFunction"
  | functionPointer => "FunctionPointer"
  | memberFunction => "MemberFunction"
  | memberVariable => "MemberVariable"
  | functor => "Functor"

/-- The written name of a shape. -/
def Shape.name : Shape → String
  | direct => "Direct"
  | freeFunction => "FreeFunction"
  | memberFunction => "MemberFunction"
  | memberVariable => "MemberVariable"
  | overloaded => "Overloaded"
  | property => "Property"
  | constructor => "Constructor"

/-- The written name of a binding. -/
def Binding.name : Binding → String
  | unbound => "Unbound"
  | owned => "Owned"
  | referenced => "Referenced"

/-! ## The callback tree -/

/-- A place in the host's table of receiver cells. -/
abbrev CellId := Nat

/-- What tells one closure or router from another one built alike. -/
abbrev ClosureId := Nat

/-- A receiver fixed when a callback is built: a cell that the closure alone owns,
or a reference that keeps nothing alive and may never have had a target. -/
inductive FixedReceiver
  | owned (cell : CellId)
  | referenced (cell : Option CellId)
deriving DecidableEq, Repr

/-- Where a bound receiver lives. -/
def FixedReceiver.binding : FixedReceiver → Binding
  | owned _ => .owned
  | referenced _ => .referenced

/-- What a custom callable declares about itself. -/
structure Label where
  shape : Shape
  origin : Option Origin
  binding : Binding
deriving DecidableEq, Repr

/-- A closure over a callback-shaped callable is labelled as a functor installed
as it is. -/
def Label.callable : Label := ⟨.direct, some .functor, .unbound⟩

/-- The state that a closure captures. -/
inductive Block (V : Vocabulary)
  | function (name : V.Function)
  | method (name : V.Method)
  | boundMethod (name : V.Method) (receiver : FixedReceiver)
  | field (name : V.Field)
  | boundField (name : V.Field) (receiver : FixedReceiver)
  | construct (name : V.Constructor)
  | custom (label : Label) (name : V.Custom)

/-- How the callback around a block is put together. -/
def Block.shape {V : Vocabulary} : Block V → Shape
  | function _ => .freeFunction
  | method _ | boundMethod _ _ => .memberFunction
  | field _ | boundField _ _ => .memberVariable
  | construct _ => .constructor
  | custom label _ => label.shape

/-- Where the callback around a block finds its receiver. -/
def Block.binding {V : Vocabulary} : Block V → Binding
  | boundMethod _ receiver | boundField _ receiver => receiver.binding
  | custom label _ => label.binding
  | function _ | method _ | field _ | construct _ => .unbound

/-- A callback, with its candidates in order when it is a router. -/
inductive Callback (V : Vocabulary)
  | direct (name : V.Raw)
  | closure (id : ClosureId) (block : Block V)
  | router (id : ClosureId) (shape : Shape) (declared : Arity) (candidates : List (Callback V))

namespace Callback

variable {V : Vocabulary}

/-- How the callback was put together. -/
def shape : Callback V → Shape
  | direct _ => .direct
  | closure _ block => block.shape
  | router _ shape _ _ => shape

/-- Where the callback finds its receiver. -/
def binding : Callback V → Binding
  | direct _ | router _ _ _ _ => .unbound
  | closure _ block => block.binding

/-- The number of captured blocks. -/
def upvalues : Callback V → Nat
  | direct _ => 0
  | closure _ _ | router _ _ _ _ => 1

/-- The name behind a direct callback. -/
def raw? : Callback V → Option V.Raw
  | direct name => some name
  | closure _ _ | router _ _ _ _ => none

/-- The identity of a closure or router. -/
def id? : Callback V → Option ClosureId
  | direct _ => none
  | closure id _ | router id _ _ _ => some id

/-- Two callbacks are the same record: the same direct name, or copies of one
closure or router. -/
def same : Callback V → Callback V → Bool
  | direct left, direct right => left == right
  | direct _, _ | _, direct _ => false
  | left, right => left.id? == right.id?

/-- Proof by induction on the tree: a statement holds of every callback if it holds
of direct callbacks and closures, and of a router whenever it holds of all its
candidates. -/
theorem inductionOn {motive : Callback V → Prop} (callback : Callback V)
    (direct : ∀ name, motive (.direct name))
    (closure : ∀ id block, motive (.closure id block))
    (router : ∀ id shape declared candidates, (∀ candidate ∈ candidates, motive candidate) →
      motive (.router id shape declared candidates)) : motive callback := by
  refine Callback.rec (motive_1 := motive)
    (motive_2 := fun candidates => ∀ candidate ∈ candidates, motive candidate)
    direct closure (fun id shape declared candidates all => router id shape declared candidates all)
    (by simp) (fun head tail first rest => by
      intro candidate member
      cases member with
      | head => exact first
      | tail _ member => exact rest candidate member) callback

end Callback

end HostCall
