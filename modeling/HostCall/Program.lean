import HostCall.Interpreter

/-!
# What callables do

A callable is a program: a sequence of operations, each of which gets an answer
that the rest of the program may use.  The type of programs is free, so it says
what is done and in which order, and leaves open what the operations mean.

There are two sets of operations.  A wrapped callable (`HostOperation`) sees no
frame: it reads and writes the host's memory, looks at callbacks, and calls them
in interpreters of its own.  A callable that already has the shape of a callback
(`FrameOperation`) works on the frame of its call as well: it looks at it, pushes
slots, overwrites the receiver, uses the heap, and calls other callbacks on the
same frame.

Neither set has an operation on a shared cell of the host.  A callable takes no
ownership of a cell and gives none up, and it reads and writes one only by calling a
callback that has the cell as its bound receiver.
-/

set_option autoImplicit false

namespace HostCall

/-- A program over operations with typed answers. -/
inductive Program (Operation : Type) (Answer : Operation → Type) (α : Type)
  | done (value : α)
  | step (operation : Operation) (next : Answer operation → Program Operation Answer α)

namespace Program

variable {Operation : Type} {Answer : Operation → Type} {α β : Type}

/-- The second program after the first. -/
def bind : Program Operation Answer α → (α → Program Operation Answer β) →
    Program Operation Answer β
  | done value, rest => rest value
  | step operation next, rest => step operation fun answer => (next answer).bind rest

instance : Monad (Program Operation Answer) where
  pure := done
  bind := bind

/-- The program of one operation. -/
def perform (operation : Operation) : Program Operation Answer (Answer operation) :=
  step operation done

end Program

/-- What can be seen of a callback without calling it. -/
structure Profile where
  shape : Shape
  origin : Option Origin
  binding : Binding
  arity : Arity
  upvalues : Nat
deriving DecidableEq, Repr

/-- The record form of a callback. -/
def Profile.debug (profile : Profile) : String :=
  "NativeFn \x7b shape: " ++ profile.shape.name ++ ", binding: " ++ profile.binding.name ++
    ", arity: " ++ profile.arity.debug ++ ", upvalues: " ++ toString profile.upvalues ++ " \x7d"

/-! ## Operations of the host -/

/-- What a callable can do without a frame. -/
inductive HostOperation (H : Host)
  /-- Read the host's memory. -/
  | readMemory
  /-- Replace the host's memory. -/
  | writeMemory (memory : H.Memory)
  /-- Look at a callback. -/
  | inspect (callback : Callback H.toVocabulary)
  /-- Call a callback in an interpreter. -/
  | call (interpreter : Interpreter H) (callback : Callback H.toVocabulary)
      (arguments : List (Slot H))

/-- The answers to the operations of the host. -/
@[reducible] def HostOperation.Answer {H : Host} : HostOperation H → Type
  | readMemory => H.Memory
  | writeMemory _ => Unit
  | inspect _ => Profile
  | call _ _ _ => Except CallError (List (Slot H)) × Interpreter H

/-- A program of a wrapped callable. -/
abbrev HostProgram (H : Host) : Type → Type := Program (HostOperation H) HostOperation.Answer

/-! ## Operations on a frame -/

/-- What a callable can do with the frame of its call. -/
inductive FrameOperation (H : Host)
  /-- Do what needs no frame. -/
  | host (operation : HostOperation H)
  /-- Look at the frame as it is now. -/
  | look
  /-- Push a slot. -/
  | push (slot : Slot H)
  /-- Overwrite the receiver. -/
  | setReceiver (object : Object H)
  /-- Put a new object into the heap. -/
  | allocate (object : Object H)
  /-- Free an object of the heap. -/
  | free (handle : Handle H.toVocabulary)
  /-- Overwrite an object of the heap. -/
  | setObject (handle : Handle H.toVocabulary) (object : Object H)
  /-- Ask whether a callback takes the types of the arguments. -/
  | accepts (callback : Callback H.toVocabulary)
  /-- Ask which of several callbacks a router would choose. -/
  | select (candidates : List (Callback H.toVocabulary))
  /-- Call a callback on this frame. -/
  | invoke (callback : Callback H.toVocabulary)

/-- The answers to the operations on a frame. -/
@[reducible] def FrameOperation.Answer {H : Host} : FrameOperation H → Type
  | host operation => operation.Answer
  | look => Frame H
  | push _ => Except CallError Unit
  | setReceiver _ => Except CallError Unit
  | allocate _ => Handle H.toVocabulary
  | free _ => Bool
  | setObject _ _ => Except CallError Unit
  | accepts _ => Bool
  | select _ => Except Mismatch Nat
  | invoke _ => Except CallError Nat

/-- A program of a callable that has the shape of a callback. -/
abbrev FrameProgram (H : Host) : Type → Type := Program (FrameOperation H) FrameOperation.Answer

/-- A program that needs no frame, done with a frame at hand. -/
def Program.onFrame {H : Host} {α : Type} : HostProgram H α → FrameProgram H α
  | .done value => .done value
  | .step operation next => .step (.host operation) fun answer => (next answer).onFrame

/-- A program on a frame that may fail the call. -/
abbrev FrameAction (H : Host) : Type → Type := ExceptT CallError (FrameProgram H)

end HostCall
