import HostCall.Proofs.RegistrationOutcome
import HostCall.Proofs.UntouchedCells

/-!
# Records

Closures and routers are records.  A record is built once, numbered with the count of the records
before it, and all its copies are one record.  A bound member remembers its receiver, and if that
is a value of its own, the record has a cell to itself.

What a registration builds (`Registration.yields_of_build`) is a new record, or a bare name, or
one of the callbacks that the registration is made of: a finished callback is installed as it
is, and a bundle of one is that one callback, with no router in front of it.
-/

set_option autoImplicit false

namespace HostCall

variable {H : Host}

/-! ## Records and their cells -/

/-- The cell that a receiver has to itself. -/
def FixedReceiver.ownedCell? : FixedReceiver → Option CellId
  | owned cell => some cell
  | referenced _ => none

/-- The cell of the receiver that a callback owns. -/
def Callback.ownedCell? {V : Vocabulary} : Callback V → Option CellId
  | closure _ block => block.receiver?.bind FixedReceiver.ownedCell?
  | direct _ | router _ _ _ _ => none

/-- Two records are the same exactly when they have the same number. -/
theorem Callback.same_iff_of_id? {V : Vocabulary} {left right : Callback V}
    {first second : ClosureId} (leftId : left.id? = some first)
    (rightId : right.id? = some second) : left.same right = true ↔ first = second := by
  cases left with
  | direct name => cases leftId
  | closure id block | router id shape declared candidates =>
      cases right with
      | direct name => cases rightId
      | closure other block | router other shape declared candidates =>
          cases leftId
          cases rightId
          simp [same, id?]

/-- The records are two, and do not own the same cell. -/
structure Callback.Apart {V : Vocabulary} (left right : Callback V) : Prop where
  id : left.id? ≠ right.id?
  cell : ∀ cell, left.ownedCell? = some cell → right.ownedCell? ≠ some cell

theorem Callback.Apart.symm {V : Vocabulary} {left right : Callback V}
    (apart : left.Apart right) : right.Apart left where
  id := apart.id.symm
  cell cell owned other := apart.cell cell other owned

/-- In a list of records that are all apart, those at two places are. -/
theorem Callback.apart_of_ne {V : Vocabulary} {records : List (Callback V)}
    (all : records.Pairwise Callback.Apart) {i j : Nat} {left right : Callback V}
    (atLeft : records[i]? = some left) (atRight : records[j]? = some right)
    (different : i ≠ j) : left.Apart right := by
  obtain ⟨inLeft, rfl⟩ := List.getElem?_eq_some_iff.mp atLeft
  obtain ⟨inRight, rfl⟩ := List.getElem?_eq_some_iff.mp atRight
  rcases Nat.lt_or_gt_of_ne different with before | behind
  · exact List.pairwise_iff_getElem.mp all i j inLeft inRight before
  · exact (List.pairwise_iff_getElem.mp all j i inRight inLeft behind).symm

/-- A bound block remembers the receiver that it is bound to. -/
theorem Block.BoundTo.receiver? {library : Library H} {type : H.Receiver}
    {receiver : FixedReceiver} {block : Block H.toVocabulary}
    (bound : block.BoundTo library type receiver) : block.receiver? = some receiver := by
  cases bound <;> rfl

/-- A record that owns a cell is a closure, and its block remembers the cell. -/
theorem Callback.ownedCell?_eq_some {V : Vocabulary} {callback : Callback V} {cell : CellId}
    (owned : callback.ownedCell? = some cell) :
    ∃ id block, callback = .closure id block ∧ block.receiver? = some (.owned cell) := by
  cases callback with
  | direct name | router id shape declared candidates => cases owned
  | closure id block =>
      obtain ⟨receiver, bound, reaches⟩ := Option.bind_eq_some_iff.mp owned
      cases receiver with
      | owned own =>
          cases reaches
          exact ⟨id, block, rfl, bound⟩
      | referenced target => cases reaches

/-! ## What registrations are made of -/

/-- The callbacks that an item is made of. -/
def Installable.callbacks (item : Installable H) : List (Callback H.toVocabulary) :=
  match item.core with
  | .callback finished => [finished]
  | .overloads set => set.candidates
  | .property pair => pair.read.toList ++ pair.write.toList
  | .constructors list => list.candidates
  | _ => []

/-- The method that an item is, with a receiver that is bound already. -/
def Installable.boundMethod? (item : Installable H) : Option (H.Method × FixedReceiver) :=
  match item.core with
  | .boundMethod name receiver => some (name, receiver)
  | _ => none

namespace Registration

/-- The callbacks that a registration is made of. -/
def callbacks : Registration H → List (Callback H.toVocabulary)
  | install finished => [finished]
  | registration => (registration.item?.map Installable.callbacks).getD []

/-- The type of the receiver that a registration binds to a member, and what the receiver is bound
from. -/
def binds? (library : Library H) : Registration H → Option (H.Receiver × ReceiverSource H)
  | methodBound name source => some ((library.method name).receiver, source)
  | fieldBound name source => some ((library.field name).receiver, source)
  | registration => (registration.item?.bind Installable.boundMethod?).map
      fun (name, receiver) => ((library.method name).receiver, .bound receiver)

end Registration

/-! ## What registrations yield -/

/-- The callback that is built in a world from some callbacks and perhaps a bound receiver, and the
world when it is. -/
inductive Yields (library : Library H) (world : World H)
    (callbacks : List (Callback H.toVocabulary))
    (binds : Option (H.Receiver × ReceiverSource H)) : Callback H.toVocabulary → World H → Prop
  /-- One of the callbacks that there were. -/
  | given {callback : Callback H.toVocabulary} (member : callback ∈ callbacks) :
      Yields library world callbacks binds callback world
  | direct (name : H.Raw) : Yields library world callbacks binds (.direct name) world
  /-- A new record without a bound receiver. -/
  | unbound {callback : Callback H.toVocabulary} (numbered : callback.id? = some world.closures)
      (free : callback.ownedCell? = none) (nothing : binds = none) :
      Yields library world callbacks binds callback world.newClosure.1
  /-- A new record around a member, whose receiver has been bound. -/
  | bound {type : H.Receiver} {source : ReceiverSource H} {block : Block H.toVocabulary}
      (asked : binds = some (type, source))
      (typed : block.BoundTo library type (source.bind world).1) :
      Yields library world callbacks binds (.closure (source.bind world).2.closures block)
        (source.bind world).2.newClosure.1

/-- A block without a bound receiver makes a new record. -/
theorem Yields.wrap {library : Library H} {world : World H} {block : Block H.toVocabulary}
    (free : block.receiver? = none) :
    Yields library world [] none (Callback.wrap block world).1 (Callback.wrap block world).2 := by
  refine .unbound rfl ?_ rfl
  change block.receiver?.bind FixedReceiver.ownedCell? = none
  rw [free]
  rfl

/-- Binding a receiver counts no record. -/
theorem ReceiverSource.closures_bind (source : ReceiverSource H) (world : World H) :
    (source.bind world).2.closures = world.closures := by
  cases source <;> rfl

section Building

variable {library : Library H} {world after : World H} {slot : String}
  {callback : Callback H.toVocabulary}

/-- What was built under the name of a slot was built. -/
theorem ok_of_mapError_named {built : Except RegistrationError (Callback H.toVocabulary)}
    (named : built.mapError (·.named slot) = .ok callback) : built = .ok callback := by
  cases built with
  | error error => cases named
  | ok other =>
      cases named
      rfl

theorem Overloads.yields {set : Overloads H}
    (built : set.build library world = (.ok callback, after)) :
    Yields library world set.candidates none callback after := by
  obtain ⟨_ | ⟨first, _ | ⟨second, rest⟩⟩⟩ := set
  · cases built
  · cases built
    exact .given List.mem_cons_self
  · cases built
    exact .unbound rfl rfl rfl

theorem Accessors.yields {pair : Accessors H}
    (built : pair.build library world = (.ok callback, after)) :
    Yields library world (pair.read.toList ++ pair.write.toList) none callback after := by
  obtain ⟨_ | read, _ | write⟩ := pair
  · cases built
  · cases built
    exact .given List.mem_cons_self
  · cases built
    exact .given List.mem_cons_self
  · cases built
    exact .unbound rfl rfl rfl

theorem Makers.yields {list : Makers H}
    (built : list.build library world = (.ok callback, after)) :
    Yields library world list.candidates none callback after := by
  obtain ⟨receiver, _ | ⟨first, _ | ⟨second, rest⟩⟩⟩ := list
  · cases built
  · cases built
    exact .given List.mem_cons_self
  · cases built
    exact .unbound rfl rfl rfl

/-- An item yields what its core does, however often it was deferred. -/
theorem Installable.yields {item : Installable H}
    (built : item.synthesize library world = (.ok callback, after)) :
    Yields library world item.callbacks
      (item.boundMethod?.map fun (name, receiver) =>
        ((library.method name).receiver, .bound receiver)) callback after := by
  induction item with
  | callback finished =>
      cases built
      exact .given List.mem_cons_self
  | function name | method name | field name =>
      cases built
      exact .unbound rfl rfl rfl
  | boundMethod name receiver =>
      cases built
      exact .bound rfl (.method rfl)
  | overloads set => exact set.yields built
  | property pair => exact pair.yields built
  | constructors list => exact list.yields built
  | deferred description content ih => exact ih built

/-- **What a registration builds** is one of the callbacks that it is made of, a bare name, or a
new record. -/
theorem Registration.yields_of_build {registration : Registration H}
    (built : registration.build library slot world = (.ok callback, after)) :
    Yields library world registration.callbacks (registration.binds? library) callback after := by
  have named {made : Except RegistrationError (Callback H.toVocabulary) × World H}
      (built : (made.1.mapError (·.named slot), made.2) = (.ok callback, after)) :
      made = (.ok callback, after) :=
    Prod.ext (ok_of_mapError_named (congrArg Prod.fst built)) (Prod.ext_iff.mp built).2
  cases registration with
  | install finished =>
      cases built
      exact .given List.mem_cons_self
  | raw name =>
      cases built
      exact .direct name
  | function name | method name | field name =>
      cases built
      exact .unbound rfl rfl rfl
  | methodBound name source =>
      have made : (Except.ok (Callback.closure (source.bind world).2.closures
          (.boundMethod name (source.bind world).1)), (source.bind world).2.newClosure.1) =
        (Except.ok callback, after) := built
      cases made
      exact .bound rfl (.method rfl)
  | fieldBound name source =>
      have made : (Except.ok (Callback.closure (source.bind world).2.closures
          (.boundField name (source.bind world).1)), (source.bind world).2.newClosure.1) =
        (Except.ok callback, after) := built
      cases made
      exact .bound rfl (.field rfl)
  | set item => exact item.yields (named built)
  | overloads bundle => exact bundle.yields (named built)
  | property pair => exact pair.yields (named built)
  | constructors list => exact list.yields built
  | deferred content => exact content.content.yields (named built)

end Building

/-! ## What becomes of the world -/

namespace World

/-- Building leaves every cell that there was as it was. -/
theorem BuiltFrom.getElem?_cells {before after : World H} (built : before.BuiltFrom after)
    {cell : CellId} {entry : Cell H} (there : before.cells[cell]? = some entry) :
    after.cells[cell]? = some entry := by
  obtain ⟨closures, copies, rfl⟩ := built
  obtain ⟨inside, _⟩ := Array.getElem?_eq_some_iff.mp there
  exact (Array.getElem?_append_left inside).trans there

theorem BuiltFrom.keepsCells {before after : World H} (built : before.BuiltFrom after) :
    before.KeepsCells after :=
  fun _ entry there => ⟨entry, built.getElem?_cells there, .refl entry⟩

theorem BuiltFrom.newCell (world : World H) (content : Object H) :
    world.BuiltFrom (world.newCell content).1 :=
  ⟨world.closures, #[{ content }], by rw [← Array.push_eq_append]; rfl⟩

/-- A new cell holds its object, and nobody uses it. -/
theorem getElem?_newCell (world : World H) (content : Object H) :
    (world.newCell content).1.cells[world.cells.size]? = some { content } :=
  Array.getElem?_push_size

/-- Calls count no records. -/
theorem worldLaw_closures :
    WorldLaw (fun before after : World H => after.closures = before.closures) where
  refl world := rfl
  trans left right := right.trans left
  memory world memory := rfl
  lent := by
    intro method receiver world borrowed after loan changed acquired counted
    obtain ⟨_, _, _, _, _, _, rfl⟩ := acquire_eq_ok acquired
    rw [Method.giveBack]
    cases method.access with
    | shared => exact counted
    | exclusive => exact counted

end World

end HostCall
