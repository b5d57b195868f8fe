import HostCall.Frame
import HostCall.Table

/-!
# Interpreters

An interpreter holds a value stack, an object heap, named global slots and the
policy it calls under.  The value stack is empty between calls.
-/

set_option autoImplicit false

namespace HostCall

/-- One interpreter. -/
structure Interpreter (H : Host) where
  stack : Array (Slot H) := #[]
  heap : Heap H := {}
  globals : Table (Slot H) := {}
  policy : Policy := {}

namespace Interpreter

variable {H : Host}

/-- A new interpreter under a policy. -/
def new (policy : Policy) : Interpreter H := { policy }

/-- The interpreter with a new object in its heap, and a slot that refers to it. -/
def allocate (interpreter : Interpreter H) (object : Object H) : Interpreter H × Slot H :=
  let (heap, handle) := interpreter.heap.allocate object
  ({ interpreter with heap }, .object handle)

/-- The slot under a name. -/
def global? (interpreter : Interpreter H) (name : String) : Option (Slot H) :=
  interpreter.globals.get? name

/-- The interpreter with a slot under a name. -/
def setGlobal (interpreter : Interpreter H) (name : String) (slot : Slot H) : Interpreter H :=
  { interpreter with globals := interpreter.globals.set name slot }

/-- The interpreter with no slot under a name. -/
def removeGlobal (interpreter : Interpreter H) (name : String) : Interpreter H :=
  { interpreter with globals := interpreter.globals.erase name }

/-- The record form of an interpreter. -/
def debug (interpreter : Interpreter H) : String :=
  "State \x7b stack_depth: " ++ toString interpreter.stack.size ++ ", globals: " ++
    toString interpreter.globals.size ++ ", heap: " ++ interpreter.heap.debug ++ " \x7d"

end Interpreter

end HostCall
