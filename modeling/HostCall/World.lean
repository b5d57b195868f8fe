import HostCall.Fault
import HostCall.Slot

/-!
# The host's side of a session

Beside the interpreter there is the host program.  It has a memory of its own,
cells that hold receiver objects, and a count of the closures it has built.

A cell is borrowed while its object is in use: by any number of readers, or by
one writer and nobody else.  A closure that owns its receiver reaches it always; a
reference reaches it only while somebody owns the cell, and never counts as an
owner itself.  `World.acquire` borrows a bound receiver or says why it cannot be
borrowed, and `World.release` gives it back.

Between calls the host program takes and gives up ownership of its cells and reads
and writes them as it likes.  While a callable runs it does none of this: a cell is
reached from inside a call only through a bound receiver.  A reference in use makes
its user an owner for as long as the use lasts, and that owner is not counted here.
As nobody can give up the last of the others meanwhile, the count would be the same
at the end of the use, and at no moment of it would a reference be found dead that is
found live.
-/

set_option autoImplicit false

namespace HostCall

/-- How the object in a cell is being used. -/
inductive Borrow
  | shared (readers : Nat)
  | exclusive
deriving DecidableEq, Repr

/-- What a use of a receiver needs: to read it, or to change it. -/
inductive Access
  | shared
  | exclusive
deriving DecidableEq, Repr

/-- One more use, if it is compatible with the present ones. -/
def Borrow.acquire : Borrow → Access → Option Borrow
  | shared readers, .shared => some (shared (readers + 1))
  | shared 0, .exclusive => some exclusive
  | shared (_ + 1), .exclusive => none
  | exclusive, _ => none

/-- One use less. -/
def Borrow.release : Borrow → Borrow
  | shared readers => shared (readers - 1)
  | exclusive => shared 0

/-- A use to change is granted exactly when there is no other use. -/
theorem Borrow.acquire_exclusive (borrow : Borrow) :
    (borrow.acquire .exclusive).isSome = true ↔ borrow = .shared 0 := by
  rcases borrow with (_ | readers) | _ <;> simp [acquire]

/-- Giving a use back restores the uses there were. -/
theorem Borrow.release_acquire {borrow granted : Borrow} {access : Access}
    (acquired : borrow.acquire access = some granted) : granted.release = borrow := by
  rcases borrow with (_ | readers) | _ <;> cases access <;>
    simp_all [acquire] <;> subst acquired <;> rfl

/-- A cell with its object, the uses of it, and the number of its owners. -/
structure Cell (H : Host) where
  content : Object H
  borrow : Borrow := .shared 0
  owners : Nat := 1

/-- The host program's memory, its cells, and the number of closures it has built. -/
structure World (H : Host) where
  memory : H.Memory
  cells : Array (Cell H) := #[]
  closures : Nat := 0

namespace World

variable {H : Host}

/-! ## Making -/

/-- The world with one more closure, and the identity of that closure. -/
def newClosure (world : World H) : World H × ClosureId :=
  ({ world with closures := world.closures + 1 }, world.closures)

/-- The world with one more cell, which its maker owns. -/
def newCell (world : World H) (content : Object H) : World H × CellId :=
  ({ world with cells := world.cells.push { content } }, world.cells.size)

/-! ## Owners -/

/-- The world with one cell changed. -/
def modifyCell (world : World H) (cell : CellId) (change : Cell H → Cell H) : World H :=
  { world with cells := world.cells.modify cell change }

/-- The object in a cell, as its owner sees it. -/
def content? (world : World H) (cell : CellId) : Option (Object H) :=
  world.cells[cell]?.map Cell.content

/-- The world after an owner has overwritten a cell. -/
def setContent (world : World H) (cell : CellId) (content : Object H) : World H :=
  world.modifyCell cell fun entry => { entry with content }

/-- The world with one owner more of a cell. -/
def retain (world : World H) (cell : CellId) : World H :=
  world.modifyCell cell fun entry => { entry with owners := entry.owners + 1 }

/-- The world with one owner less of a cell. -/
def discard (world : World H) (cell : CellId) : World H :=
  world.modifyCell cell fun entry => { entry with owners := entry.owners - 1 }

/-! ## Bound receivers -/

/-- The cell that a bound receiver reaches: its own, or a target that still has an
owner. -/
def target? (world : World H) : FixedReceiver → Option CellId
  | .owned cell => some cell
  | .referenced none => none
  | .referenced (some cell) =>
      match world.cells[cell]? with
      | some entry => if entry.owners = 0 then none else some cell
      | none => none

/-- The bound receiver can still be reached. -/
def isLive (world : World H) (receiver : FixedReceiver) : Bool := (world.target? receiver).isSome

/-- The world with one more use of a cell, if the present uses allow it. -/
def lock? (world : World H) (cell : CellId) (access : Access) : Option (World H) := do
  let entry ← world.cells[cell]?
  let borrow ← entry.borrow.acquire access
  return world.modifyCell cell fun entry => { entry with borrow }

/-- The world with one use less of a cell. -/
def unlock (world : World H) (cell : CellId) : World H :=
  world.modifyCell cell fun entry => { entry with borrow := entry.borrow.release }

/-- A bound receiver in use: its cell and the value it held when it was borrowed. -/
structure Loan (H : Host) (type : H.Receiver) where
  cell : CellId
  value : H.Value type

/-- A use of a bound receiver: the receiver must be reachable before it can be found
borrowed. -/
def acquire (world : World H) (receiver : FixedReceiver) (type : H.Receiver)
    (access : Access) : Except CallError (Loan H type × World H) :=
  match world.target? receiver with
  | none => .error (.danglingReceiver (H.receiverName type))
  | some cell =>
      match (world.content? cell).bind (·.as? type) with
      | none => .error (.danglingReceiver (H.receiverName type))
      | some value =>
          match world.lock? cell access with
          | none => .error (.receiverBorrowed (H.receiverName type))
          | some locked => .ok (⟨cell, value⟩, locked)

/-- The end of a use that only read. -/
def release {type : H.Receiver} (world : World H) (loan : Loan H type) : World H :=
  world.unlock loan.cell

/-- The end of a use that changed the value. -/
def releaseWith {type : H.Receiver} (world : World H) (loan : Loan H type)
    (value : H.Value type) : World H :=
  (world.setContent loan.cell ⟨type, value⟩).unlock loan.cell

/-! ## Small facts -/

/-- An owned receiver is always reachable. -/
@[simp] theorem isLive_owned (world : World H) (cell : CellId) :
    world.isLive (.owned cell) = true := rfl

/-- A reference that never had a target reaches nothing. -/
@[simp] theorem isLive_untargeted (world : World H) :
    world.isLive (.referenced none) = false := rfl

end World

end HostCall
