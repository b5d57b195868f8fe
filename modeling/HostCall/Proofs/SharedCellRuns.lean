import HostCall.Installable
import HostCall.Proofs.ReceiverModes
import HostCall.Proofs.SharedCells
import Mathlib.Algebra.Ring.Int.Defs

/-!
# What happens to a shared cell

A shared cell belongs to the host program, which holds handles of it, reads and writes what is
in it, keeps borrows of it outstanding, and lets its handles go.  Callbacks bound to the cell by
reference are built, routed and called in between, and so are callbacks that have nothing to
do with it.  A `CellRun` is any sequence of such events.

The events tell what becomes of the cell (`Cell.after`): only the handles of the host program
count as owners, only its outstanding borrows are uses of the cell between calls, and what
is in the cell is what was last written there, by the host program or by a body.  At each
point of a run the cell decides what a call through a bound callback comes to (`UsesCell`),
and a cell that nobody owns is never owned again (`sharedCell_run`).
-/

set_option autoImplicit false

namespace HostCall

variable {H : Host}

/-! ## Events -/

/-- What happens around a shared cell. -/
inductive CellEvent (H : Host)
  /-- A callback is built or captured.  A handle that is moved into it is let go, which is an
  event of its own. -/
  | built
  /-- A call comes to a member on the cell, and leaves an object there if a body ran. -/
  | called (left : Option (Object H))
  /-- Any other callback is called, and whatever it does leaves an object in the cell. -/
  | calledElsewhere (left : Object H)
  /-- The host program reads the cell. -/
  | read (seen : Object H)
  /-- The host program writes the cell. -/
  | wrote (content : Object H)
  /-- The host program borrows the cell and keeps the borrow. -/
  | borrowed (access : Access)
  /-- The host program gives a borrow back. -/
  | returned
  /-- The host program makes one more handle. -/
  | cloned
  /-- The host program lets one of its handles go. -/
  | dropped
  /-- Something happens that does not touch the cell. -/
  | other

/-- The cell after an event. -/
def Cell.after (entry : Cell H) : CellEvent H → Cell H
  | .built | .read _ | .other => entry
  | .called left => { entry with content := left.getD entry.content }
  | .calledElsewhere content | .wrote content => { entry with content }
  | .borrowed access => { entry with borrow := (entry.borrow.acquire access).getD entry.borrow }
  | .returned => { entry with borrow := entry.borrow.release }
  | .cloned => { entry with owners := entry.owners + 1 }
  | .dropped => { entry with owners := entry.owners - 1 }

/-- How many owners the cell gains by an event. -/
def CellEvent.owners : CellEvent H → Int
  | cloned => 1
  | dropped => -1
  | _ => 0

/-- The object that an event puts in the cell. -/
def CellEvent.left? : CellEvent H → Option (Object H)
  | called left => left
  | calledElsewhere content | wrote content => some content
  | _ => none

theorem Cell.content_after (entry : Cell H) (event : CellEvent H) :
    (entry.after event).content = event.left?.getD entry.content := by
  cases event <;> rfl

/-! ## Building by reference -/

/-- Ways to build a callback that is bound to a cell by reference. -/
inductive BuildsReference (library : Library H) (type : H.Receiver) (cell : CellId) :
    Building H (Except RegistrationError (Callback H.toVocabulary)) → Prop
  | method {name : H.Method} {source : ReceiverSource H}
      (typed : (library.method name).receiver = type)
      (fixed : source.fixed? = some (.referenced (some cell))) :
      BuildsReference library type cell (Except.ok <$> Callback.methodBound name source)
  | field {name : H.Field} {source : ReceiverSource H}
      (typed : (library.field name).receiver = type)
      (fixed : source.fixed? = some (.referenced (some cell))) :
      BuildsReference library type cell (Except.ok <$> Callback.fieldBound name source)
  | deferred (description : String) {name : H.Method}
      (typed : (library.method name).receiver = type) :
      BuildsReference library type cell
        (Deferred.synthesize library ⟨description, .boundMethod name (.referenced (some cell))⟩)
  | overloads {set : Overloads H}
      (each : ∀ candidate ∈ set.candidates,
        candidate.BoundTo library type (.referenced (some cell))) :
      BuildsReference library type cell (set.build library)
  | accessors {pair : Accessors H}
      (reads : ∀ read ∈ pair.read, read.BoundTo library type (.referenced (some cell)))
      (writes : ∀ write ∈ pair.write, write.BoundTo library type (.referenced (some cell))) :
      BuildsReference library type cell (pair.build library)

/-- Capturing a method with a reference changes nothing. -/
theorem Deferred.bound_of_fixed? {source : ReceiverSource H} {receiver : FixedReceiver}
    (fixed : source.fixed? = some receiver) (description : String) (name : H.Method) :
    Deferred.bound description name source = pure ⟨description, .boundMethod name receiver⟩ := by
  funext world
  change (Deferred.mk description (.boundMethod name (source.bind world).1),
    (source.bind world).2) = _
  rw [source.bind_of_fixed? fixed]
  rfl

namespace BuildsReference

variable {library : Library H} {type : H.Receiver} {cell : CellId}
  {building : Building H (Except RegistrationError (Callback H.toVocabulary))}

/-- Building by reference counts closures and does nothing else to the world. -/
theorem world_eq (builds : BuildsReference library type cell building) (world : World H) :
    ∃ closures, (building world).2 = { world with closures } := by
  cases builds with
  | method typed fixed =>
      rw [Callback.methodBound_of_fixed? fixed]
      exact ⟨_, rfl⟩
  | field typed fixed =>
      rw [Callback.fieldBound_of_fixed? fixed]
      exact ⟨_, rfl⟩
  | deferred description typed => exact ⟨_, rfl⟩
  | @overloads set each =>
      obtain ⟨_ | ⟨first, _ | ⟨second, rest⟩⟩⟩ := set
      · exact ⟨_, rfl⟩
      · exact ⟨_, rfl⟩
      · exact ⟨_, rfl⟩
  | @accessors pair reads writes =>
      obtain ⟨_ | read, _ | write⟩ := pair
      · exact ⟨_, rfl⟩
      · exact ⟨_, rfl⟩
      · exact ⟨_, rfl⟩
      · exact ⟨_, rfl⟩

/-- What is built is bound to the cell. -/
theorem boundTo (builds : BuildsReference library type cell building) {world : World H}
    {callback : Callback H.toVocabulary} (built : (building world).1 = .ok callback) :
    callback.BoundTo library type (.referenced (some cell)) := by
  cases builds with
  | method typed fixed =>
      rw [Callback.methodBound_of_fixed? fixed] at built
      cases built
      exact .closure _ (.method typed)
  | field typed fixed =>
      rw [Callback.fieldBound_of_fixed? fixed] at built
      cases built
      exact .closure _ (.field typed)
  | deferred description typed =>
      cases built
      exact .closure _ (.method typed)
  | @overloads set each =>
      obtain ⟨_ | ⟨first, _ | ⟨second, rest⟩⟩⟩ := set
      · cases built
      · cases built
        exact each callback List.mem_cons_self
      · cases built
        exact .router _ _ _ each
  | @accessors pair reads writes =>
      obtain ⟨_ | read, _ | write⟩ := pair
      · cases built
      · cases built
        exact writes callback rfl
      · cases built
        exact reads callback rfl
      · cases built
        refine .router _ _ _ fun candidate member => ?_
        rcases List.mem_cons.mp member with rfl | member
        · exact reads _ rfl
        · cases List.mem_singleton.mp member
          exact writes _ rfl

end BuildsReference

/-! ## What a call leaves in the cell -/

/-- The object that a body leaves in its bound receiver, if the call of the callback comes to
run one. -/
def Library.leaves (library : Library H) (depth : Nat) (callback : Callback H.toVocabulary)
    (scene : Scene H) : Option (Object H) := do
  let (receiver, method) ← library.member? scene.frame callback
  let parameters ←
    (scene.frame.prepare (.ofParameters method.parameters) method.parameters).toOption
  let (loan, lent) ← (scene.world.acquire receiver method.receiver method.access).toOption
  let ((_, changed), _) ← method.runBody (library.handler depth) loan.value parameters lent
  return ⟨method.receiver, changed⟩

/-- The same for a call in an interpreter, whose arguments must fit on the stack. -/
def Interpreter.leaves (interpreter : Interpreter H) (library : Library H) (depth : Nat)
    (callback : Callback H.toVocabulary) (arguments : List (Slot H)) (world : World H) :
    Option (Object H) :=
  if interpreter.policy.stackLimit < interpreter.stack.size + arguments.length then none
  else library.leaves depth callback ⟨interpreter.entry arguments, world⟩

/-- A cell of the world has the entry, with an object of the type. -/
structure World.HasCell (world : World H) (cell : CellId) (type : H.Receiver) (entry : Cell H) :
    Prop where
  there : world.cells[cell]? = some entry
  typed : entry.content.receiver = type

/-- A reference reaches the cell that it refers to, or nothing. -/
theorem World.eq_of_target?_referenced {world : World H} {cell target : CellId}
    (reached : world.target? (.referenced (some cell)) = some target) : cell = target := by
  rw [target?] at reached
  split at reached
  · split at reached
    · cases reached
    · exact Option.some.inj reached
  · cases reached

section Calls

variable {library : Library H} {type : H.Receiver} {cell : CellId}
  {callback : Callback H.toVocabulary} {entry : Cell H} {method : Method H}

/-- A call that fails before any body runs leaves the scene as it was. -/
theorem Library.FailsBeforeBody.scene_eq {depth : Nat} {scene after : Scene H}
    {error : CallError} {outcome : Except CallError Nat}
    (fails : library.FailsBeforeBody callback scene error)
    (called : library.call depth callback scene = some (outcome, after)) : after = scene := by
  rw [Library.call_eq_callWith_nested, fails.callWith_eq] at called
  cases called
  rfl

/-- When the arguments or the receiver fail, no body runs that could leave anything. -/
theorem Library.leaves_of_refused {depth : Nat} {scene : Scene H} {receiver : FixedReceiver}
    {error : CallError}
    (member : library.member? scene.frame callback = some (receiver, method))
    (refused : (failureOf (scene.frame.prepare (.ofParameters method.parameters)
        method.parameters)).or
      (failureOf (scene.world.acquire receiver method.receiver method.access)) = some error) :
    library.leaves depth callback scene = none := by
  cases prepared : scene.frame.prepare (.ofParameters method.parameters) method.parameters with
  | error _ => simp [leaves, member, prepared, Except.toOption]
  | ok _ =>
      cases acquired : scene.world.acquire receiver method.receiver method.access with
      | error _ => simp [leaves, member, prepared, acquired, Except.toOption]
      | ok _ =>
          rw [prepared, acquired] at refused
          cases refused

/-- Otherwise the body runs on the value that the receiver held. -/
theorem Library.leaves_of_acquire {depth : Nat} {scene : Scene H} {receiver : FixedReceiver}
    {parameters : Parameters H method.parameters} {loan : World.Loan H method.receiver}
    {lent : World H}
    (member : library.member? scene.frame callback = some (receiver, method))
    (prepared : scene.frame.prepare (.ofParameters method.parameters) method.parameters =
      .ok parameters)
    (acquired : scene.world.acquire receiver method.receiver method.access = .ok (loan, lent)) :
    library.leaves depth callback scene =
      (method.runBody (library.handler depth) loan.value parameters lent).map
        fun ran => ⟨method.receiver, ran.1.2⟩ := by
  rw [leaves, member]
  simp only [Option.bind_eq_bind, Option.bind_some, prepared, acquired, Except.toOption]
  cases method.runBody (library.handler depth) loan.value parameters lent <;> rfl

/-- After a call that comes to a member on the cell, the cell holds what the body left, if one
ran. -/
theorem Library.hasCell_of_call {depth : Nat} (scene : Scene H) {after : Scene H}
    {outcome : Except CallError Nat}
    (member : library.member? scene.frame callback = some (.referenced (some cell), method))
    (typed : method.receiver = type) (held : scene.world.HasCell cell type entry)
    (called : library.call depth callback scene = some (outcome, after)) :
    after.world.HasCell cell type (entry.after
      (.called (library.leaves depth callback scene))) := by
  have stands := standsFor_of_member member
  -- a call that is refused leaves nothing and changes nothing
  have unchanged {error : CallError} (refused : (failureOf (scene.frame.prepare
        (.ofParameters method.parameters) method.parameters)).or
      (failureOf (scene.world.acquire (.referenced (some cell)) method.receiver
        method.access)) = some error) :
      after.world.HasCell cell type (entry.after
        (.called (library.leaves depth callback scene))) := by
    rw [leaves_of_refused member refused, (stands.failing error refused).scene_eq called]
    exact held
  cases prepared : scene.frame.prepare (.ofParameters method.parameters) method.parameters with
  | error error => exact unchanged (by rw [prepared]; rfl)
  | ok parameters =>
  cases acquired : scene.world.acquire (.referenced (some cell)) method.receiver
      method.access with
  | error error => exact unchanged (by rw [prepared, acquired]; rfl)
  | ok loaned =>
  obtain ⟨⟨reached, value⟩, lent⟩ := loaned
  obtain ⟨found, _, target, there, holds, _, _⟩ := World.acquire_eq_ok acquired
  obtain rfl : cell = reached := World.eq_of_target?_referenced target
  cases held.there.symm.trans there
  have runs := runs_of_acquire stands prepared acquired held.there holds depth
  rw [leaves_of_acquire member prepared acquired]
  cases ran : method.runBody (library.handler depth) value parameters lent with
  | none =>
      rw [ran] at runs
      cases called.symm.trans runs
  | some ended =>
      rw [ran] at runs
      cases called.symm.trans runs.1
      exact ⟨runs.2, typed⟩

/-- The same for a call in an interpreter. -/
theorem Interpreter.hasCell_of_call {interpreter : Interpreter H} {depth : Nat}
    {arguments : List (Slot H)} {world after : World H}
    {results : Except CallError (List (Slot H)) × Interpreter H}
    (member : library.member? (interpreter.entry arguments) callback =
      some (.referenced (some cell), method))
    (typed : method.receiver = type) (held : world.HasCell cell type entry)
    (called : interpreter.call library depth callback arguments world = some (results, after)) :
    after.HasCell cell type
      (entry.after (.called (interpreter.leaves library depth callback arguments world))) := by
  obtain ⟨outcome, later⟩ := results
  rcases callWith_cases (library.goesBySteps_call depth) called with
    ⟨crowded, _, _⟩ | ⟨fits, reported, frame, _, ran, _⟩
  · rw [call, callWith_of_not_fits crowded] at called
    cases called
    rw [leaves, if_pos (Nat.lt_of_not_le crowded)]
    exact held
  · rw [leaves, if_neg (Nat.not_lt_of_le fits)]
    exact Library.hasCell_of_call ⟨interpreter.entry arguments, world⟩ member typed held ran

/-- A call that keeps cells keeps the entry, whatever it leaves in it. -/
theorem World.HasCell.of_keepsCells {world after : World H} (held : world.HasCell cell type entry)
    (kept : world.KeepsCells after) {left : Object H} (seen : after.content? cell = some left) :
    after.HasCell cell type (entry.after (.calledElsewhere left)) := by
  obtain ⟨⟨content, borrow, owners⟩, there, keptEntry⟩ := kept cell entry held.there
  rw [content?, there] at seen
  cases seen
  have sameBorrow := keptEntry.borrow
  have sameOwners := keptEntry.owners
  subst sameBorrow sameOwners
  exact ⟨there, keptEntry.type.trans held.typed⟩

end Calls

/-! ## Runs -/

/-- One event around a shared cell, with the worlds before and after.  The host program reads,
writes, borrows and hands on a cell only while it owns a handle of it, and writes it only when
nobody reads it. -/
inductive CellStep (library : Library H) (type : H.Receiver) (cell : CellId) :
    World H → CellEvent H → World H → Prop
  | build {world : World H}
      {building : Building H (Except RegistrationError (Callback H.toVocabulary))}
      (builds : BuildsReference library type cell building) :
      CellStep library type cell world .built (building world).2
  | capture {world : World H} {source : ReceiverSource H}
      (fixed : source.fixed? = some (.referenced (some cell))) (description : String)
      (name : H.Method) :
      CellStep library type cell world .built (Deferred.bound description name source world).2
  | call {world after : World H} {interpreter : Interpreter H} {depth : Nat}
      {callback : Callback H.toVocabulary} {arguments : List (Slot H)} {method : Method H}
      {results : Except CallError (List (Slot H)) × Interpreter H}
      (member : library.member? (interpreter.entry arguments) callback =
        some (.referenced (some cell), method))
      (typed : method.receiver = type)
      (called : interpreter.call library depth callback arguments world = some (results, after)) :
      CellStep library type cell world
        (.called (interpreter.leaves library depth callback arguments world)) after
  | callElsewhere {world after : World H} {interpreter : Interpreter H} {depth : Nat}
      {callback : Callback H.toVocabulary} {arguments : List (Slot H)}
      {results : Except CallError (List (Slot H)) × Interpreter H} {left : Object H}
      (called : interpreter.call library depth callback arguments world = some (results, after))
      (seen : after.content? cell = some left) :
      CellStep library type cell world (.calledElsewhere left) after
  | read {world : World H} {content : Object H}
      (owned : world.isLive (.referenced (some cell)) = true)
      (seen : world.content? cell = some content) :
      CellStep library type cell world (.read content) world
  | write {world : World H} (owned : world.isLive (.referenced (some cell)) = true)
      (unread : ∀ entry, world.cells[cell]? = some entry →
        entry.borrow = .shared 0 ∨ entry.borrow = .exclusive) (value : H.Value type) :
      CellStep library type cell world (.wrote ⟨type, value⟩)
        (world.setContent cell ⟨type, value⟩)
  | borrow {world lent : World H} {access : Access}
      (owned : world.isLive (.referenced (some cell)) = true)
      (granted : world.lock? cell access = some lent) :
      CellStep library type cell world (.borrowed access) lent
  | giveBack {world : World H} (outstanding : ∀ entry, world.cells[cell]? = some entry →
        entry.borrow ≠ .shared 0) :
      CellStep library type cell world .returned (world.unlock cell)
  | clone {world : World H} (owned : world.isLive (.referenced (some cell)) = true) :
      CellStep library type cell world .cloned (world.retain cell)
  | drop {world : World H} (owned : world.isLive (.referenced (some cell)) = true) :
      CellStep library type cell world .dropped (world.discard cell)
  | other {world after : World H} (same : after.cells[cell]? = world.cells[cell]?) :
      CellStep library type cell world .other after

/-- Events one after another. -/
inductive CellRun (library : Library H) (type : H.Receiver) (cell : CellId) :
    World H → List (CellEvent H) → World H → Prop
  | nil (world : World H) : CellRun library type cell world [] world
  | cons {first middle last : World H} {event : CellEvent H} {events : List (CellEvent H)}
      (step : CellStep library type cell first event middle)
      (rest : CellRun library type cell middle events last) :
      CellRun library type cell first (event :: events) last

section Runs

variable {library : Library H} {type : H.Receiver} {cell : CellId} {entry : Cell H}
  {start last : World H}

theorem World.HasCell.modifyCell {world : World H} (held : world.HasCell cell type entry)
    (change : Cell H → Cell H) (typed : (change entry).content.receiver = type) :
    (world.modifyCell cell change).HasCell cell type (change entry) where
  there := by rw [getElem?_modifyCell, held.there]; rfl
  typed := typed

/-- A cell can be owned exactly when its entry has owners. -/
theorem World.HasCell.isLive_iff {world : World H} (held : world.HasCell cell type entry) :
    world.isLive (.referenced (some cell)) = true ↔ entry.owners ≠ 0 := by
  rw [isLive, target?, held.there]
  by_cases gone : entry.owners = 0 <;> simp [gone]

/-- One event changes the cell as it says. -/
theorem CellStep.hasCell {world after : World H} {event : CellEvent H}
    (step : CellStep library type cell world event after) (held : world.HasCell cell type entry) :
    after.HasCell cell type (entry.after event) := by
  cases step with
  | build builds =>
      obtain ⟨closures, same⟩ := builds.world_eq world
      rw [same]
      exact ⟨held.there, held.typed⟩
  | capture fixed description name =>
      rw [Deferred.bound_of_fixed? fixed]
      exact held
  | call member typed called => exact Interpreter.hasCell_of_call member typed held called
  | callElsewhere called seen =>
      exact held.of_keepsCells (World.worldLaw_keepsCells.interpreterCall called) seen
  | read owned seen => exact held
  | write owned unread value => exact held.modifyCell _ rfl
  | borrow owned granted =>
      obtain ⟨found, use, there, grants, rfl⟩ := World.lock?_eq_some granted
      cases held.there.symm.trans there
      have lent := held.modifyCell (fun entry => { entry with borrow := use }) held.typed
      rwa [Cell.after, grants]
  | giveBack outstanding => exact held.modifyCell _ held.typed
  | clone owned => exact held.modifyCell _ held.typed
  | drop owned => exact held.modifyCell _ held.typed
  | other same => exact ⟨same.trans held.there, held.typed⟩

/-- One event gains the cell the owners that it says: only an owner can let a handle go. -/
theorem CellStep.owners_after {world after : World H} {event : CellEvent H}
    (step : CellStep library type cell world event after) (held : world.HasCell cell type entry) :
    ((entry.after event).owners : Int) = entry.owners + event.owners := by
  cases step with
  | drop owned =>
      have owners := held.isLive_iff.mp owned
      simp only [Cell.after, CellEvent.owners]
      omega
  | _ => simp [Cell.after, CellEvent.owners]

/-- Nobody can become an owner of a cell that nobody owns. -/
theorem CellStep.unowned_after {world after : World H} {event : CellEvent H}
    (step : CellStep library type cell world event after) (held : world.HasCell cell type entry)
    (gone : entry.owners = 0) : (entry.after event).owners = 0 := by
  cases step with
  | clone owned => exact absurd gone (held.isLive_iff.mp owned)
  | drop owned => exact absurd gone (held.isLive_iff.mp owned)
  | _ => exact gone

namespace CellRun

variable {events : List (CellEvent H)}

/-- A run changes the cell as its events say, one after another. -/
theorem hasCell (run : CellRun library type cell start events last)
    (held : start.HasCell cell type entry) :
    last.HasCell cell type (events.foldl Cell.after entry) := by
  induction run generalizing entry with
  | nil world => exact held
  | cons step rest ih => exact ih (step.hasCell held)

/-- The owners are those at the start, and what the events have gained and lost. -/
theorem owners_foldl (run : CellRun library type cell start events last)
    (held : start.HasCell cell type entry) :
    ((events.foldl Cell.after entry).owners : Int) =
      entry.owners + (events.map CellEvent.owners).sum := by
  induction run generalizing entry with
  | nil world => simp
  | cons step rest ih =>
      rw [List.foldl_cons, ih (step.hasCell held), step.owners_after held, List.map_cons,
        List.sum_cons, Int.add_assoc]

theorem unowned_foldl (run : CellRun library type cell start events last)
    (held : start.HasCell cell type entry) (gone : entry.owners = 0) :
    (events.foldl Cell.after entry).owners = 0 := by
  induction run generalizing entry with
  | nil world => exact gone
  | cons step rest ih => exact ih (step.hasCell held) (step.unowned_after held gone)

end CellRun

/-- In the cell is what was put there last. -/
theorem Cell.content_foldl (entry : Cell H) (events : List (CellEvent H)) :
    (events.foldl Cell.after entry).content =
      (events.filterMap CellEvent.left?).getLast?.getD entry.content := by
  induction events generalizing entry with
  | nil => rfl
  | cons event events ih =>
      rw [List.foldl_cons, ih, content_after]
      cases left : event.left? with
      | none => rw [List.filterMap_cons_none left]; rfl
      | some content => rw [List.filterMap_cons_some left, List.getLast?_cons]; rfl

/-- What a shared cell means to those around it. -/
structure Library.SharesCell (library : Library H) (type : H.Receiver) (cell : CellId)
    (world : World H) (entry : Cell H) : Prop where
  /-- This is what the cell holds, who uses it, and how many own it. -/
  held : world.HasCell cell type entry
  /-- Whoever reads the cell sees what it holds. -/
  reads : ∀ content after, CellStep library type cell world (.read content) after →
    content = entry.content
  /-- What is built by reference is bound to the cell. -/
  builds : ∀ building, BuildsReference library type cell building →
    ∀ callback, (building world).1 = .ok callback →
      callback.BoundTo library type (.referenced (some cell))
  /-- The cell decides what a call comes to that runs a member on it, when its arguments have
  passed. -/
  decides : ∀ callback (frame : Frame H) method,
    library.member? frame callback = some (.referenced (some cell), method) →
      method.receiver = type → ∀ parameters,
        frame.prepare (.ofParameters method.parameters) method.parameters = .ok parameters →
          ∀ depth, library.UsesCell depth callback ⟨frame, world⟩ method parameters cell entry
  /-- A call of a callback that is bound to the cell is such a call, or fails before any body
  runs and changes nothing. -/
  bound : ∀ callback, callback.BoundTo library type (.referenced (some cell)) →
    ∀ frame : Frame H,
      (∃ method parameters,
        library.member? frame callback = some (.referenced (some cell), method) ∧
          method.receiver = type ∧
          frame.prepare (.ofParameters method.parameters) method.parameters = .ok parameters) ∨
        ∃ error, library.FailsBeforeBody callback ⟨frame, world⟩ error
  /-- When nobody owns the cell, nobody ever will. -/
  unowned : entry.owners = 0 → ∀ events last, CellRun library type cell world events last →
    ∃ later, last.HasCell cell type later ∧ later.owners = 0

/-- The cell decides in any world that has it. -/
theorem World.HasCell.sharesCell {world : World H} (held : world.HasCell cell type entry) :
    library.SharesCell type cell world entry where
  held := held
  reads := by
    rintro content after (_ | _ | _ | _ | ⟨owned, seen⟩)
    rw [World.content?, held.there] at seen
    exact (Option.some.inj seen).symm
  builds building builds callback built := builds.boundTo built
  decides callback frame method member sameType parameters prepared depth :=
    Library.usesCell_of_prepare ⟨frame, world⟩ held.there
      (held.typed.trans sameType.symm) member prepared depth
  bound callback bound frame := by
    rcases Library.member_cases bound ⟨frame, world⟩ with ⟨method, member, sameType⟩ | ⟨_, fails⟩
    · cases prepared : frame.prepare (.ofParameters method.parameters) method.parameters with
      | ok parameters => exact .inl ⟨method, parameters, member, sameType, prepared⟩
      | error error =>
          have stands : library.StandsFor ⟨frame, world⟩ callback method _ :=
            Library.standsFor_of_member member
          exact .inr ⟨error, stands.failing error (by rw [prepared]; rfl)⟩
    · exact .inr ⟨_, fails⟩
  unowned gone events last run := ⟨_, run.hasCell held, run.unowned_foldl held gone⟩

/-- **A shared cell.**  Whatever sequence of calls, accesses, borrows and handles a shared cell
goes through, its owners are the handles of the host program, in it is what was put there last,
and it decides what happens next. -/
theorem sharedCell_run {events : List (CellEvent H)} (held : start.HasCell cell type entry)
    (run : CellRun library type cell start events last) :
    let reached := events.foldl Cell.after entry
    library.SharesCell type cell last reached ∧
      (reached.owners : Int) = entry.owners + (events.map CellEvent.owners).sum ∧
      reached.content = (events.filterMap CellEvent.left?).getLast?.getD entry.content :=
  ⟨(run.hasCell held).sharesCell, run.owners_foldl held, entry.content_foldl events⟩

end Runs

namespace Sample

/-- Adds to the shared counter. -/
def addsToCell : Callback vocabulary := .closure 0 (.boundMethod .counterAdd (.referenced (some 0)))

/-- The counter holds five.  Three is added; while the host program reads it, nothing can be
added; the host program sets it to one and lets go of its only handle; nothing can be added. -/
def sharedEvents : List (CellEvent host) :=
  [.built, .called (some ⟨.counter, ⟨8⟩⟩), .borrowed .shared, .called none, .returned,
    .wrote ⟨.counter, ⟨1⟩⟩, .dropped, .called none]

/-- One call that adds to the shared counter. -/
theorem cellStep_add (amount : Int64) (world after : World host) {left : Option (Object host)}
    {results : Except CallError (List (Slot host)) × Interpreter host}
    (called : Interpreter.call {} (Session.library #[]) 0 addsToCell [.int amount] world =
      some (results, after))
    (leaves : Interpreter.leaves {} (Session.library #[]) 0 addsToCell [.int amount] world =
      left) :
    CellStep (Session.library #[]) .counter 0 world (.called left) after := by
  have member : (Session.library #[]).member?
      (Interpreter.entry ({} : Interpreter host) [.int amount]) addsToCell =
        some (.referenced (some 0), MethodName.meaning .counterAdd) := rfl
  rw [← leaves]
  exact .call member rfl called

/-- The world after the one call that adds, with the cell as it may be then. -/
def sharedWorld (entry : Cell host) : World host where
  memory := { transcript := #[.text (MethodName.written .counterAdd)] }
  cells := #[entry]
  closures := 1

theorem cellRun_shared :
    CellRun (Session.library #[]) .counter 0 counterCell sharedEvents
      (sharedWorld { content := ⟨.counter, ⟨1⟩⟩, owners := 0 }) := by
  have builds : BuildsReference (Session.library #[]) .counter 0
      (Except.ok <$> Callback.methodBound MethodName.counterAdd (.handle 0)) := .method rfl rfl
  let eight : Cell host := { content := ⟨.counter, ⟨8⟩⟩ }
  let one : Cell host := { content := ⟨.counter, ⟨1⟩⟩ }
  have added := cellStep_add 3 { counterCell with closures := 1 } (sharedWorld eight) rfl rfl
  have borrowed : CellStep (Session.library #[]) .counter 0 (sharedWorld eight)
      (.borrowed .shared) (sharedWorld { eight with borrow := .shared 1 }) := .borrow rfl rfl
  have refused := cellStep_add 1 (sharedWorld { eight with borrow := .shared 1 }) _ rfl rfl
  have returned : CellStep (Session.library #[]) .counter 0
      (sharedWorld { eight with borrow := .shared 1 }) .returned (sharedWorld eight) :=
    .giveBack fun _ there idle => by cases there; cases idle
  have unread (entry : Cell host) (there : (sharedWorld eight).cells[0]? = some entry) :
      entry.borrow = .shared 0 ∨ entry.borrow = .exclusive := by
    cases there
    exact .inl rfl
  have wrote : CellStep (Session.library #[]) .counter 0 (sharedWorld eight)
      (.wrote ⟨.counter, ⟨1⟩⟩) (sharedWorld one) :=
    .write rfl unread (show host.Value Receiver.counter from Counter.mk 1)
  have dropped : CellStep (Session.library #[]) .counter 0 (sharedWorld one) .dropped
      (sharedWorld { one with owners := 0 }) := .drop rfl
  have dangled := cellStep_add 1 (sharedWorld { one with owners := 0 }) _ rfl rfl
  exact .cons (.build builds) <| .cons added <| .cons borrowed <| .cons refused <|
    .cons returned <| .cons wrote <| .cons dropped <| .cons dangled <| .nil _

theorem sharedCell_run_counter :
    counterCell.HasCell 0 .counter { content := ⟨.counter, ⟨5⟩⟩ } ∧
      CellRun (Session.library #[]) .counter 0 counterCell sharedEvents
        (sharedWorld { content := ⟨.counter, ⟨1⟩⟩, owners := 0 }) ∧
      (Session.library #[]).SharesCell .counter 0
        (sharedWorld { content := ⟨.counter, ⟨1⟩⟩, owners := 0 })
        { content := ⟨.counter, ⟨1⟩⟩, owners := 0 } := by
  have held : counterCell.HasCell 0 .counter { content := ⟨.counter, ⟨5⟩⟩ } := ⟨rfl, rfl⟩
  exact ⟨held, cellRun_shared, (sharedCell_run held cellRun_shared).1⟩

end Sample

end HostCall
