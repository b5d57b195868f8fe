import HostCall.Proofs.WorldLaws

/-!
# Calls never own a cell

Whatever a call does, and however many members on the same cell are nested in it, it leaves
every cell with the owners it had, with the uses it had, and with an object of the type it
had; and a cell that was in use before the call still holds the same object
(`World.KeepsCells`).  A member that is nested in the use of a cell can only read the cell
again, and gives back what it borrowed.

So a member on a bound receiver finds its cell, when its body is done, as it was when the
body started, and the cell then holds what the body has left (`World.cell_giveBack`).
-/

set_option autoImplicit false

namespace HostCall

variable {H : Host}

/-! ## What is kept -/

/-- A use that was granted shows. -/
theorem Borrow.ne_of_acquire {borrow granted : Borrow} {access : Access}
    (acquired : borrow.acquire access = some granted) : granted ≠ .shared 0 := by
  rintro rfl
  rcases borrow with (_ | readers) | _ <;> cases access <;> cases acquired

/-- What calls keep of a cell. -/
structure Cell.Kept (before after : Cell H) : Prop where
  owners : after.owners = before.owners
  borrow : after.borrow = before.borrow
  type : after.content.receiver = before.content.receiver
  inUse : before.borrow ≠ .shared 0 → after.content = before.content

theorem Cell.Kept.refl (entry : Cell H) : entry.Kept entry := ⟨rfl, rfl, rfl, fun _ => rfl⟩

theorem Cell.Kept.trans {first middle last : Cell H} (left : first.Kept middle)
    (right : middle.Kept last) : first.Kept last where
  owners := right.owners.trans left.owners
  borrow := right.borrow.trans left.borrow
  type := right.type.trans left.type
  inUse used := (right.inUse (left.borrow ▸ used)).trans (left.inUse used)

/-- A cell in use is kept as it is. -/
theorem Cell.Kept.eq_of_inUse {before after : Cell H} (kept : before.Kept after)
    (used : before.borrow ≠ .shared 0) : after = before := by
  obtain ⟨content, borrow, owners⟩ := after
  have sameContent := kept.inUse used
  have sameBorrow := kept.borrow
  have sameOwners := kept.owners
  subst sameContent sameBorrow sameOwners
  rfl

namespace World

/-- Every cell is still there and kept. -/
def KeepsCells (before after : World H) : Prop :=
  ∀ (id : CellId) (entry : Cell H), before.cells[id]? = some entry →
    ∃ later, after.cells[id]? = some later ∧ entry.Kept later

theorem getElem?_modifyCell_of_ne (world : World H) {cell other : CellId} (different : other ≠ cell)
    (change : Cell H → Cell H) :
    (world.modifyCell cell change).cells[other]? = world.cells[other]? := by
  rw [modifyCell, Array.getElem?_modify, if_neg different.symm]

/-! ## One use of a cell -/

/-- A use is granted of a cell that is there, if its present uses allow it. -/
theorem lock?_eq_some {world locked : World H} {cell : CellId} {access : Access}
    (granting : world.lock? cell access = some locked) :
    ∃ entry granted, world.cells[cell]? = some entry ∧
      entry.borrow.acquire access = some granted ∧
      locked = world.modifyCell cell fun entry => { entry with borrow := granted } := by
  rw [lock?] at granting
  obtain ⟨entry, there, granting⟩ := Option.bind_eq_some_iff.mp granting
  obtain ⟨granted, grants, same⟩ := Option.bind_eq_some_iff.mp granting
  cases same
  exact ⟨entry, granted, there, grants, rfl⟩

/-- What is borrowed: a cell with an owner if it is referenced, with an object of the type, and
with room for one more use. -/
theorem acquire_eq_ok {world borrowed : World H} {receiver : FixedReceiver} {type : H.Receiver}
    {access : Access} {loan : Loan H type}
    (acquired : world.acquire receiver type access = .ok (loan, borrowed)) :
    ∃ entry granted, world.target? receiver = some loan.cell ∧
      world.cells[loan.cell]? = some entry ∧ entry.content = ⟨type, loan.value⟩ ∧
      entry.borrow.acquire access = some granted ∧
      borrowed = world.modifyCell loan.cell fun entry => { entry with borrow := granted } := by
  rw [acquire] at acquired
  split at acquired
  · cases acquired
  · rename_i cell target
    split at acquired
    · cases acquired
    · rename_i value found
      obtain ⟨object, seen, typed⟩ := Option.bind_eq_some_iff.mp found
      obtain ⟨entry, there, rfl⟩ := Option.map_eq_some_iff.mp seen
      split at acquired
      · cases acquired
      · rename_i locked granting
        obtain ⟨found, granted, foundThere, grants, rfl⟩ := lock?_eq_some granting
        cases there.symm.trans foundThere
        cases acquired
        exact ⟨entry, granted, target, there, Object.eq_mk_of_as? typed, grants, rfl⟩

/-- After its use a cell holds what the method left, and is owned and used as before. -/
theorem cell_giveBack {world borrowed after : World H} {receiver : FixedReceiver}
    {method : Method H} {loan : Loan H method.receiver} {entry : Cell H}
    (acquired : world.acquire receiver method.receiver method.access = .ok (loan, borrowed))
    (there : world.cells[loan.cell]? = some entry) (kept : borrowed.KeepsCells after)
    (changed : H.Value method.receiver) :
    (method.giveBack loan after changed).cells[loan.cell]? =
      some (match method.access with
        | .shared => entry
        | .exclusive => { entry with content := ⟨method.receiver, changed⟩ }) := by
  obtain ⟨found, granted, _, foundThere, _, grants, rfl⟩ := acquire_eq_ok acquired
  cases there.symm.trans foundThere
  -- the cell is in use while the body runs, so it is kept as it was borrowed
  have lent : (world.modifyCell loan.cell fun entry => { entry with borrow := granted }).cells[
      loan.cell]? = some { entry with borrow := granted } := by
    rw [getElem?_modifyCell, there]
    rfl
  obtain ⟨later, thereLater, keptLater⟩ := kept _ _ lent
  cases keptLater.eq_of_inUse (Borrow.ne_of_acquire grants)
  rw [Method.giveBack]
  cases access : method.access with
  | shared =>
      simp only [release, unlock, getElem?_modifyCell, thereLater, Option.map_some,
        Borrow.release_acquire grants]
  | exclusive =>
      simp only [releaseWith, unlock, setContent, getElem?_modifyCell, thereLater,
        Option.map_some, Borrow.release_acquire grants]

theorem cell_giveBack_of_ne {method : Method H} {loan : Loan H method.receiver} {id : CellId}
    (different : id ≠ loan.cell) (world : World H) (changed : H.Value method.receiver) :
    (method.giveBack loan world changed).cells[id]? = world.cells[id]? := by
  rw [Method.giveBack]
  cases method.access with
  | shared => exact getElem?_modifyCell_of_ne _ different _
  | exclusive =>
      exact (getElem?_modifyCell_of_ne _ different _).trans
        (getElem?_modifyCell_of_ne _ different _)

/-- **Calls keep cells**: to write the memory, and to borrow a cell and give it back, keeps
them. -/
theorem worldLaw_keepsCells : WorldLaw (KeepsCells (H := H)) where
  refl world id entry there := ⟨entry, there, .refl entry⟩
  trans := by
    intro first middle last left right id entry there
    obtain ⟨middle, thereMiddle, keptMiddle⟩ := left id entry there
    obtain ⟨last, thereLast, keptLast⟩ := right id middle thereMiddle
    exact ⟨last, thereLast, keptMiddle.trans keptLast⟩
  memory world memory id entry there := ⟨entry, there, .refl entry⟩
  lent := by
    intro method receiver world borrowed after loan changed acquired kept id entry there
    by_cases here : id = loan.cell
    · subst here
      refine ⟨_, cell_giveBack acquired there kept changed, ?_⟩
      obtain ⟨found, granted, _, foundThere, content, grants, _⟩ := acquire_eq_ok acquired
      cases there.symm.trans foundThere
      cases access : method.access with
      | shared => exact .refl entry
      | exclusive =>
          -- only a cell that nobody uses is lent to be changed
          rw [access] at grants
          have unused := (Borrow.acquire_exclusive entry.borrow).mp (by rw [grants]; rfl)
          exact ⟨rfl, rfl, by rw [content], fun used => absurd unused used⟩
    · obtain ⟨_, granted, _, _, _, _, rfl⟩ := acquire_eq_ok acquired
      rw [cell_giveBack_of_ne here]
      exact kept id entry ((getElem?_modifyCell_of_ne world here _).trans there)

end World

end HostCall
