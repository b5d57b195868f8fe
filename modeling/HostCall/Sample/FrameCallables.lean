import HostCall.Sample.Functions

/-!
# A sample host: callables that work on frames

These callables read the arguments of their frame, push slots and report how many
results they pushed, truthfully or not.  They note nothing.
-/

set_option autoImplicit false

namespace HostCall.Sample

/-! ## What a callable does with its frame -/

/-- A program on a frame of the sample host that may fail the call. -/
abbrev OnFrame : Type → Type := FrameAction host

/-- One operation on the frame. -/
def ask (operation : FrameOperation host) : OnFrame operation.Answer :=
  ExceptT.lift (Program.perform operation)

/-- One operation on the frame that may fail the call. -/
def attempt {α : Type} (program : FrameProgram host (Except CallError α)) : OnFrame α :=
  ExceptT.mk program

/-- What a check of the frame as it is now finds. -/
def check {α : Type} (test : Frame host → Except CallError α) : OnFrame α := do
  let frame ← ask .look
  ExceptT.mk (pure (test frame))

/-- One argument read as a type. -/
def argument (type : SlotType) (index : Nat) : OnFrame (type.Val host) :=
  check (·.argument type index)

/-- One slot pushed. -/
def push (slot : Slot host) : OnFrame Unit :=
  attempt (Program.perform (FrameOperation.push slot))

/-- A new object in the heap. -/
def allocate (object : Object host) : OnFrame (Handle vocabulary) := ask (.allocate object)

/-! ## Meanings -/

/-- The sum of the arguments from an index on. -/
def sumFrom : (remaining index : Nat) → (sum : Int64) → OnFrame Int64
  | 0, _, sum => pure sum
  | remaining + 1, index, sum => do
      let value ← argument .int64 index
      sumFrom remaining (index + 1) (sum + value)

/-- The arguments from an index on, each pushed before the next is read. -/
def echoFrom : (remaining index : Nat) → OnFrame Unit
  | 0, _ => pure ()
  | remaining + 1, index => do
      let slot ← argument .slot index
      push slot
      echoFrom remaining (index + 1)

/-- The meaning of a callable that has the shape of a callback. -/
def RawName.program : RawName → OnFrame Nat
  | sumArguments => do
      let frame ← ask .look
      let sum ← sumFrom frame.argumentCount 0 0
      push (.int sum)
      return 1
  | echo => do
      let slot ← argument .slot 0
      push slot
      return 1
  | echoAll => do
      let frame ← ask .look
      echoFrom frame.argumentCount 0
      return frame.argumentCount
  | pushThenFail => do
      push (.int 1)
      push (.text "two")
      throw (.other "failed after pushing")
  | overclaim => do
      push (.int 1)
      return 2
  | underclaim => do
      push (.int 1)
      push (.int 2)
      push (.int 3)
      return 1
  | nothing => return 0
  | newCounter => do
      let handle ← allocate ⟨.counter, ⟨77⟩⟩
      push (.object handle)
      return 1

end HostCall.Sample
