import HostCall.Proofs.Aliases
import HostCall.Proofs.Records
import HostCall.Proofs.SharedCellRuns
import HostCall.Session.Script

/-!
# Receivers that callbacks own

A member that is bound to a value is a record with a receiver of its own.  The host program builds
any number of them, at once or from receivers that it has bound before, puts copies of them under
names, into overload sets and into properties, and calls them in any order (`Holdings.Step`).

At every point of such a session each of these records has one cell, and no two of them have the
same (`Holdings.Sound`).  A call leads down to a record through any of its aliases and comes to
what a call of the record comes to: a method runs on what is in the cell, and the cell then holds
what the method has left (`Library.UsesOwnCell`).  The cells of the other records stay as they are,
unless the method itself calls one of those (`ownedReceivers_apart`).
-/

set_option autoImplicit false

namespace HostCall

open Relation (ReflTransGen)

variable {H : Host}

/-! ## Sessions -/

/-- What the host program has in a session. -/
structure Holdings (H : Host) where
  interpreter : Interpreter H
  world : World H
  /-- The records that were built, each once. -/
  records : List (Callback H.toVocabulary)
  /-- The cells of the receivers that were bound to a value. -/
  cells : List CellId

namespace Holdings

/-- A session begins with nothing built. -/
def new (policy : Policy) (memory : H.Memory) : Holdings H where
  interpreter := .new policy
  world := { memory }
  records := []
  cells := []

/-- The host program has the callback: it is a copy of a record, or a bare name. -/
def Holds (holdings : Holdings H) (callback : Callback H.toVocabulary) : Prop :=
  callback.raw?.isSome = true ∨ callback ∈ holdings.records

/-- A member can be bound from the source, whose receiver is of the type. -/
inductive Provides (holdings : Holdings H) (type : H.Receiver) : ReceiverSource H → Prop
  | value (value : H.Value type) : Provides holdings type (.value ⟨type, value⟩)
  /-- The receiver was bound to a value before, and no callback has taken it yet. -/
  | bound {cell : CellId} {entry : Cell H} (bound : cell ∈ holdings.cells)
      (free : ∀ record ∈ holdings.records, record.ownedCell? ≠ some cell)
      (held : holdings.world.HasCell cell type entry) :
      Provides holdings type (.bound (.owned cell))
  | reference {source : ReceiverSource H} {target : Option CellId}
      (fixed : source.fixed? = some (.referenced target)) : Provides holdings type source

/-- The host program has what the registration is made of. -/
structure Supplies (library : Library H) (holdings : Holdings H) (registration : Registration H) :
    Prop where
  callbacks : ∀ callback ∈ registration.callbacks, holdings.Holds callback
  receiver : ∀ type source, registration.binds? library = some (type, source) →
    holdings.Provides type source

/-- The holdings with a callback that was built.  It is a new record if records were counted. -/
def keep (holdings : Holdings H) (callback : Callback H.toVocabulary) (after : World H) :
    Holdings H where
  interpreter := holdings.interpreter
  world := after
  records := if after.closures = holdings.world.closures then holdings.records
    else holdings.records ++ [callback]
  cells := callback.ownedCell?.toList ++ holdings.cells

/-- What the host program does between calls. -/
inductive Act (library : Library H) : Holdings H → Holdings H → Prop
  /-- A receiver is bound to a value. -/
  | bind (first : Holdings H) {type : H.Receiver} (value : H.Value type) :
      Act library first { first with
        world := ((ReceiverSource.value ⟨type, value⟩).bind first.world).2
        cells := first.world.cells.size :: first.cells }
  /-- A method is captured with a value, to be built later. -/
  | capture (first : Holdings H) (description : String) {name : H.Method}
      (value : H.Value (library.method name).receiver) :
      Act library first { first with
        world := (Deferred.bound description name (.value ⟨_, value⟩) first.world).2
        cells := first.world.cells.size :: first.cells }
  | build {first : Holdings H} {registration : Registration H} {slot : String}
      {callback : Callback H.toVocabulary} {after : World H}
      (supplied : first.Supplies library registration)
      (built : registration.build library slot first.world = (.ok callback, after)) :
      Act library first (first.keep callback after)
  | construct (first : Holdings H) (name : H.Constructor) :
      Act library first (first.keep (Callback.construct name first.world).1
        (Callback.construct name first.world).2)
  | custom (first : Holdings H) (label : Label) (name : H.Custom) :
      Act library first (first.keep (Callback.custom label name first.world).1
        (Callback.custom label name first.world).2)
  | install {first : Holdings H} {name : String} {callback : Callback H.toVocabulary}
      {installed : Interpreter H} (held : first.Holds callback)
      (done : first.interpreter.install name callback = (.ok (), installed)) :
      Act library first { first with interpreter := installed }
  /-- The host program removes names, changes the policy or the heap, or turns to another
  interpreter, where it has put only callbacks under names that it has. -/
  | turn {first : Holdings H} {interpreter : Interpreter H}
      (held : ∀ name callback, interpreter.callable name = .ok callback → first.Holds callback) :
      Act library first { first with interpreter }
  /-- The host program uses its memory, shared cells, and receivers that no callback has taken. -/
  | host {first : Holdings H} {after : World H}
      (counted : first.world.closures ≤ after.closures)
      (kept : ∀ cell ∈ first.cells, ∀ entry, first.world.cells[cell]? = some entry →
        ∃ later, after.cells[cell]? = some later ∧ entry.Kept later)
      (hidden : ∀ record ∈ first.records, ∀ cell, record.ownedCell? = some cell →
        after.cells[cell]? = first.world.cells[cell]?) :
      Act library first { first with world := after }

/-- One step of a session: an act between calls, or a call of any callback. -/
inductive Step (library : Library H) : Holdings H → Holdings H → Prop
  | act {first next : Holdings H} (act : Act library first next) : Step library first next
  | call {first : Holdings H} {route : Route H} {depth : Nat} {arguments : List (Slot H)}
      {outcome : Except CallError (List (Slot H))} {after : Interpreter H} {reached : World H}
      (called : route.call library depth arguments first.interpreter first.world =
        some ((outcome, after), reached)) :
      Step library first { first with interpreter := after, world := reached }

/-- A session that has begun with nothing leads here. -/
def Reachable (library : Library H) (holdings : Holdings H) : Prop :=
  ∃ policy memory, ReflTransGen (Step library) (new policy memory) holdings

/-! ## One cell for each record -/

/-- What holds at every point of a session. -/
structure Sound (library : Library H) (holdings : Holdings H) : Prop where
  /-- The records are numbered. -/
  numbered : ∀ record ∈ holdings.records, ∃ id, record.id? = some id ∧ id < holdings.world.closures
  /-- No two have the same number, and no two own the same cell. -/
  apart : holdings.records.Pairwise Callback.Apart
  /-- A record that owns a receiver is bound to a cell with a receiver of the type. -/
  owned : ∀ record ∈ holdings.records, ∀ cell, record.ownedCell? = some cell →
    cell ∈ holdings.cells ∧ ∃ type entry,
      record.BoundTo library type (.owned cell) ∧ holdings.world.HasCell cell type entry
  /-- Nobody uses the cells between calls. -/
  idle : ∀ cell ∈ holdings.cells, ∃ entry, holdings.world.Idle (.owned cell) cell entry
  /-- Under names are callbacks that the host program has. -/
  named : ∀ name callback, holdings.interpreter.callable name = .ok callback →
    holdings.Holds callback

variable {library : Library H} {holdings first next : Holdings H}

theorem sound_new (policy : Policy) (memory : H.Memory) : (new policy memory).Sound library where
  numbered record member := by cases member
  apart := .nil
  owned record member := by cases member
  idle cell member := by cases member
  named name callback stored := by cases stored

namespace Sound

/-- The world may go on as long as it keeps the cells. -/
theorem advance (sound : holdings.Sound library) {after : World H}
    (counted : holdings.world.closures ≤ after.closures)
    (kept : ∀ cell ∈ holdings.cells, ∀ entry, holdings.world.cells[cell]? = some entry →
      ∃ later, after.cells[cell]? = some later ∧ entry.Kept later) :
    Sound library { holdings with world := after } where
  numbered record member := by
    obtain ⟨id, numbered, below⟩ := sound.numbered record member
    exact ⟨id, numbered, Nat.lt_of_lt_of_le below counted⟩
  apart := sound.apart
  owned record member cell owned := by
    obtain ⟨bound, type, entry, typed, held⟩ := sound.owned record member cell owned
    obtain ⟨later, there, keptEntry⟩ := kept cell bound entry held.there
    exact ⟨bound, type, later, typed, there, keptEntry.type.trans held.typed⟩
  idle cell bound := by
    obtain ⟨entry, idle⟩ := sound.idle cell bound
    obtain ⟨later, there, keptEntry⟩ := kept cell bound entry idle.there
    exact ⟨later, rfl, there, keptEntry.borrow.trans idle.unused⟩
  named := sound.named

/-- More cells may be bound, if nobody uses them. -/
theorem bind (sound : holdings.Sound library) {cells : List CellId}
    (idle : ∀ cell ∈ cells, ∃ entry, holdings.world.Idle (.owned cell) cell entry) :
    Sound library { holdings with cells := cells ++ holdings.cells } where
  numbered := sound.numbered
  apart := sound.apart
  owned record member cell owned := by
    obtain ⟨bound, typed⟩ := sound.owned record member cell owned
    exact ⟨List.mem_append_right cells bound, typed⟩
  idle cell bound := by
    rcases List.mem_append.mp bound with new | old
    · exact idle cell new
    · exact sound.idle cell old
  named := sound.named

/-- A new record may be added that is apart from the others. -/
theorem record (sound : holdings.Sound library) {callback : Callback H.toVocabulary}
    {id : ClosureId} (numbered : callback.id? = some id) (below : id < holdings.world.closures)
    (apart : ∀ record ∈ holdings.records, record.Apart callback)
    (owned : ∀ cell, callback.ownedCell? = some cell → cell ∈ holdings.cells ∧
      ∃ type entry, callback.BoundTo library type (.owned cell) ∧
        holdings.world.HasCell cell type entry) :
    Sound library { holdings with records := holdings.records ++ [callback] } where
  numbered record member := by
    rcases List.mem_append.mp member with old | new
    · exact sound.numbered record old
    · cases List.mem_singleton.mp new
      exact ⟨id, numbered, below⟩
  apart := by
    refine List.pairwise_append.mpr ⟨sound.apart, List.pairwise_singleton _ _, ?_⟩
    intro record member other new
    cases List.mem_singleton.mp new
    exact apart record member
  owned record member cell has := by
    rcases List.mem_append.mp member with old | new
    · exact sound.owned record old cell has
    · cases List.mem_singleton.mp new
      exact owned cell has
  idle := sound.idle
  named name callback stored := (sound.named name callback stored).imp_right
    (List.mem_append_left _)

/-- Other callbacks may be put under names. -/
theorem turn (sound : holdings.Sound library) {interpreter : Interpreter H}
    (held : ∀ name callback, interpreter.callable name = .ok callback → holdings.Holds callback) :
    Sound library { holdings with interpreter } where
  numbered := sound.numbered
  apart := sound.apart
  owned := sound.owned
  idle := sound.idle
  named := held

/-- A cell may be made for one more value. -/
theorem newCell (sound : holdings.Sound library) (content : Object H) :
    Sound library { holdings with
      world := (holdings.world.newCell content).1
      cells := holdings.world.cells.size :: holdings.cells } := by
  have built := World.BuiltFrom.newCell holdings.world content
  have grown : Sound library { holdings with world := (holdings.world.newCell content).1 } :=
    sound.advance (Nat.le_refl _) fun cell _ => built.keepsCells cell
  refine grown.bind (fun cell member => ?_ : ∀ cell ∈ [holdings.world.cells.size], _)
  cases List.mem_singleton.mp member
  exact ⟨_, rfl, holdings.world.getElem?_newCell content, rfl⟩

/-- A receiver that is bound now, and not by reference, has a cell that no record owns. -/
theorem unowned_of_provides (sound : holdings.Sound library) {type : H.Receiver}
    {source : ReceiverSource H} (provides : holdings.Provides type source) {cell : CellId}
    (own : (source.bind holdings.world).1.ownedCell? = some cell) :
    (∃ entry, (source.bind holdings.world).2.Idle (.owned cell) cell entry ∧
      (source.bind holdings.world).2.HasCell cell type entry) ∧
      ∀ record ∈ holdings.records, record.ownedCell? ≠ some cell := by
  cases provides with
  | value value =>
      cases own
      have there := holdings.world.getElem?_newCell ⟨type, value⟩
      refine ⟨⟨_, ⟨rfl, there, rfl⟩, there, rfl⟩, ?_⟩
      intro record member taken
      obtain ⟨_, _, entry, _, held⟩ := sound.owned record member _ taken
      obtain ⟨inside, _⟩ := Array.getElem?_eq_some_iff.mp held.there
      exact absurd inside (Nat.lt_irrefl _)
  | bound bound free held =>
      cases own
      obtain ⟨entry, idle⟩ := sound.idle cell bound
      cases idle.there.symm.trans held.there
      exact ⟨⟨_, idle, held⟩, free⟩
  | reference fixed =>
      rw [source.bind_of_fixed? fixed] at own
      cases own

/-- A record with the next number is none of those that there are. -/
theorem id_ne (sound : holdings.Sound library) {callback record : Callback H.toVocabulary}
    (numbered : callback.id? = some holdings.world.closures) (member : record ∈ holdings.records) :
    record.id? ≠ callback.id? := by
  obtain ⟨id, other, below⟩ := sound.numbered record member
  rw [numbered, other]
  intro same
  cases same
  exact Nat.lt_irrefl _ below

/-- A member that was bound now may be kept, if the host program had its receiver. -/
theorem keep_bound (sound : holdings.Sound library) {type : H.Receiver}
    {source : ReceiverSource H} {block : Block H.toVocabulary}
    (provides : holdings.Provides type source)
    (typed : block.BoundTo library type (source.bind holdings.world).1) :
    (holdings.keep (.closure (source.bind holdings.world).2.closures block)
      (source.bind holdings.world).2.newClosure.1).Sound library := by
  have built := World.BuiltFrom.bind source holdings.world
  have counted := source.closures_bind holdings.world
  have next : (source.bind holdings.world).2.newClosure.1.closures =
      holdings.world.closures + 1 := congrArg (· + 1) counted
  have new : (source.bind holdings.world).2.newClosure.1.closures ≠ holdings.world.closures := by
    rw [next]
    exact Nat.succ_ne_self _
  have own (cell : CellId) (owned : Callback.ownedCell?
      (.closure (source.bind holdings.world).2.closures block) = some cell) :=
    sound.unowned_of_provides provides (by rwa [Callback.ownedCell?, typed.receiver?] at owned)
  have grown : Sound library
      { holdings with world := (source.bind holdings.world).2.newClosure.1 } := by
    refine sound.advance ?_ fun cell _ => built.keepsCells cell
    rw [next]
    exact Nat.le_succ _
  rw [Holdings.keep, if_neg new]
  -- first the cell is among those that are bound, and then the record owns it
  refine (grown.bind ?_).record rfl (Nat.lt_succ_self _) ?_ ?_
  · intro cell owned
    obtain ⟨⟨entry, idle, _⟩, _⟩ := own cell (Option.mem_toList.mp owned)
    exact ⟨entry, rfl, idle.there, idle.unused⟩
  · intro record member
    refine ⟨sound.id_ne (congrArg some counted) member, ?_⟩
    intro cell taken owned
    exact (own cell owned).2 record member taken
  · intro cell owned
    obtain ⟨⟨entry, _, held⟩, _⟩ := own cell owned
    refine ⟨List.mem_append_left _ (Option.mem_toList.mpr owned), type, entry, ?_,
      held.there, held.typed⟩
    obtain ⟨_, _, same, remembers⟩ := Callback.ownedCell?_eq_some owned
    cases same
    have same := Option.some.inj (typed.receiver?.symm.trans remembers)
    rw [same] at typed
    exact .closure _ typed

/-- What was built may be kept, if the host program had what it was built from. -/
theorem keep (sound : holdings.Sound library) {callbacks : List (Callback H.toVocabulary)}
    {binds : Option (H.Receiver × ReceiverSource H)} {callback : Callback H.toVocabulary}
    {after : World H} (yields : Yields library holdings.world callbacks binds callback after)
    (held : ∀ callback ∈ callbacks, holdings.Holds callback)
    (receiver : ∀ type source, binds = some (type, source) → holdings.Provides type source) :
    (holdings.keep callback after).Sound library := by
  cases yields with
  | given member =>
      rw [Holdings.keep, if_pos rfl]
      refine sound.bind ?_
      intro cell own
      rw [Option.mem_toList] at own
      rcases held callback member with raw | member
      · obtain ⟨id, block, rfl, _⟩ := Callback.ownedCell?_eq_some own
        cases raw
      · exact sound.idle cell (sound.owned callback member cell own).1
  | direct name =>
      rw [Holdings.keep, if_pos rfl]
      exact sound
  | unbound numbered free nothing =>
      have new : holdings.world.newClosure.1.closures ≠ holdings.world.closures :=
        Nat.succ_ne_self _
      have counted : Sound library { holdings with world := holdings.world.newClosure.1 } :=
        sound.advance (Nat.le_succ _) fun cell _ entry there => ⟨entry, there, .refl entry⟩
      rw [Holdings.keep, if_neg new, free]
      refine counted.record numbered (Nat.lt_succ_self _) ?_ ?_
      · intro record member
        refine ⟨sound.id_ne numbered member, ?_⟩
        intro cell _ own
        cases free.symm.trans own
      · intro cell own
        cases free.symm.trans own
  | bound asked typed => exact sound.keep_bound (receiver _ _ asked) typed

end Sound

/-- What the host program does between calls. -/
theorem Act.sound (act : Act library first next) (sound : first.Sound library) :
    next.Sound library := by
  cases act with
  | bind value | capture description value => exact sound.newCell _
  | build supplied built =>
      exact sound.keep (Registration.yields_of_build built) supplied.callbacks supplied.receiver
  | construct name | custom label name =>
      exact sound.keep (.wrap rfl) (by simp) (by simp)
  | @install slot _ _ held done =>
      refine sound.turn ?_
      intro name callback stored
      rw [Interpreter.callable_eq_ok_iff] at stored
      by_cases here : name = slot
      · rw [here, Interpreter.global?_install done] at stored
        cases stored
        exact held
      · rw [Interpreter.global?_install_of_ne done here, ← Interpreter.callable_eq_ok_iff] at stored
        exact sound.named name callback stored
  | turn held => exact sound.turn held
  | host counted kept hidden => exact sound.advance counted kept

/-- **One step keeps what holds at every point of a session.** -/
theorem Step.sound (step : Step library first next) (sound : first.Sound library) :
    next.Sound library := by
  cases step with
  | act act => exact act.sound sound
  | call called =>
      rcases Route.call_cases called with ⟨rfl, rfl⟩ | ⟨callback, _, called⟩
      · exact sound
      · have counted := World.worldLaw_closures.interpreterCall called
        have kept := World.worldLaw_keepsCells.interpreterCall called
        have reached := sound.advance (Nat.le_of_eq counted.symm) fun cell _ => kept cell
        refine reached.turn fun name stored found => sound.named name stored ?_
        rw [Interpreter.callable_eq_ok_iff] at found ⊢
        rwa [Interpreter.global?, Interpreter.globals_of_call called] at found

theorem Reachable.sound (reachable : Reachable library holdings) : holdings.Sound library := by
  obtain ⟨policy, memory, steps⟩ := reachable
  induction steps with
  | refl => exact sound_new policy memory
  | tail _ step ih => exact step.sound ih

end Holdings

/-! ## What a call does to its own cell -/

/-- A call of a member on a cell of its own.  When its arguments pass, a method runs on the value in
the cell, and the cell then holds what the method has left; when they do not, no method runs. -/
structure Library.UsesOwnCell (library : Library H) (callback : Callback H.toVocabulary)
    (cell : CellId) (scene : Scene H) : Prop where
  runs : ∀ method, library.member? scene.frame callback = some (.owned cell, method) →
    ∀ parameters,
      scene.frame.prepare (.ofParameters method.parameters) method.parameters = .ok parameters →
        ∃ entry value lent, scene.world.cells[cell]? = some entry ∧
          entry.content = ⟨method.receiver, value⟩ ∧
          scene.world.lock? cell method.access = some lent ∧
          ∀ depth,
            match method.runBody (library.handler depth) value parameters lent with
            | none => library.call depth callback scene = none
            | some ((content, changed), after) =>
                let world := method.giveBack ⟨cell, value⟩ after changed
                library.call depth callback scene =
                    some (scene.frame.deliver world method.result content) ∧
                  world.cells[cell]? = some { entry with content := ⟨method.receiver, changed⟩ }
  refused : (∀ method, library.member? scene.frame callback = some (.owned cell, method) →
      ∀ parameters, scene.frame.prepare (.ofParameters method.parameters) method.parameters ≠
        .ok parameters) →
    ∃ error, library.FailsBeforeBody callback scene error

/-- A cell of its own that nobody uses can always be borrowed. -/
theorem World.Idle.acquire_owned {world : World H} {cell : CellId} {entry : Cell H}
    (idle : world.Idle (.owned cell) cell entry) {type : H.Receiver} {value : H.Value type}
    (holds : entry.content = ⟨type, value⟩) (access : Access) :
    ∃ lent, world.lock? cell access = some lent ∧
      world.acquire (.owned cell) type access = .ok (⟨cell, value⟩, lent) := by
  have granted : ∃ borrow, entry.borrow.acquire access = some borrow := by
    rw [idle.unused]
    cases access <;> exact ⟨_, rfl⟩
  obtain ⟨borrow, granted⟩ := granted
  have locked : world.lock? cell access =
      some (world.modifyCell cell fun entry => { entry with borrow }) := by
    rw [lock?, idle.there]
    simp only [Option.bind_eq_bind, Option.bind_some, granted, Option.pure_def]
  refine ⟨_, locked, ?_⟩
  simp only [World.acquire, target?, content?, idle.there, Option.map_some, Option.bind_some, holds,
    Object.as?_self, locked]

section Calls

variable {library : Library H} {record : Callback H.toVocabulary} {cell : CellId}

theorem Library.usesOwnCell {type : H.Receiver} {scene : Scene H} {entry : Cell H}
    (bound : record.BoundTo library type (.owned cell))
    (idle : scene.world.Idle (.owned cell) cell entry)
    (held : scene.world.HasCell cell type entry) : library.UsesOwnCell record cell scene where
  runs method member parameters prepared := by
    have typed := typed_of_member bound member
    obtain ⟨value, holds⟩ : ∃ value, entry.content = ⟨method.receiver, value⟩ := by
      obtain ⟨⟨kind, value⟩, _, _⟩ := entry
      cases held.typed.trans typed.symm
      exact ⟨value, rfl⟩
    obtain ⟨lent, locked, acquired⟩ := idle.acquire_owned holds method.access
    exact ⟨entry, value, lent, idle.there, holds, locked,
      runs_of_acquire (standsFor_of_member member) prepared acquired idle.there holds⟩
  refused missing := by
    rcases member_cases bound scene with ⟨method, member, _⟩ | ⟨mismatch, fails⟩
    · cases prepared : scene.frame.prepare (.ofParameters method.parameters)
          method.parameters with
      | ok parameters => exact absurd prepared (missing method member parameters)
      | error error =>
          exact ⟨error, (standsFor_of_member member).failing error (by rw [prepared]; rfl)⟩
    · exact ⟨_, fails⟩

end Calls

/-! ## What a call does to everything else -/

namespace Frame

/-- Pushing slots leaves the heap alone. -/
theorem heap_pushAll (frame : Frame H) (slots : List (Slot H)) :
    (frame.pushAll slots).2.heap = frame.heap := by
  induction slots generalizing frame with
  | nil => rfl
  | cons slot slots ih =>
      rw [pushAll]
      cases pushed : frame.push slot with
      | error error => rfl
      | ok next =>
          rw [push] at pushed
          split at pushed
          · cases pushed
          · cases pushed
            exact ih _

theorem heap_deliver (frame : Frame H) (world : World H) (type : ResultType)
    (content : type.Val H) : (frame.deliver world type content).2.frame.heap = frame.heap := by
  simp only [deliver, pushResult_eq_pushAll]
  cases type.encode content with
  | error text => rfl
  | ok slots => exact frame.heap_pushAll slots

end Frame

namespace Method

variable {method : Method H} {receiver : FixedReceiver} {library : Library H}
  {invoke : Invoker H} {scene after : Scene H} {outcome : Except CallError Nat}

/-- A call of a method on a bound receiver changes nothing, or runs the body on what was borrowed,
gives it back and delivers the result. -/
theorem callBound_cases
    (called : method.callBound receiver (HostOperation.run library invoke) scene =
      some (outcome, after)) :
    after = scene ∨
      ∃ parameters loan lent content changed reached,
        scene.world.acquire receiver method.receiver method.access = .ok (loan, lent) ∧
        method.runBody (HostOperation.run library invoke) loan.value parameters lent =
          some ((content, changed), reached) ∧
        scene.frame.deliver (method.giveBack loan reached changed) method.result content =
          (outcome, after) := by
  rw [callBound_eq] at called
  split at called
  · cases called
    exact .inl rfl
  · split at called
    · cases called
      exact .inl rfl
    · rename_i parameters _ _ loan lent acquired
      obtain ⟨⟨⟨content, changed⟩, reached⟩, ran, delivered⟩ := Option.map_eq_some_iff.mp called
      exact .inr ⟨parameters, loan, lent, content, changed, reached, acquired, ran, delivered⟩

/-- A method on a bound receiver leaves the heap alone that it is called on. -/
theorem heap_of_callBound
    (called : method.callBound receiver (HostOperation.run library invoke) scene =
      some (outcome, after)) : after.frame.heap = scene.frame.heap := by
  rcases callBound_cases called with
    rfl | ⟨_, loan, _, content, changed, reached, _, _, delivered⟩
  · rfl
  · have kept := scene.frame.heap_deliver (method.giveBack loan reached changed) method.result
      content
    rwa [delivered] at kept

/-- If it makes no calls, it changes no cell but its own. -/
theorem MakesNoCalls.cells_eq (noCalls : method.MakesNoCalls) {cell : CellId}
    (apart : scene.world.target? receiver ≠ some cell)
    (called : method.callBound receiver (HostOperation.run library invoke) scene =
      some (outcome, after)) :
    after.world.cells[cell]? = scene.world.cells[cell]? := by
  rcases callBound_cases called with
    rfl | ⟨parameters, loan, lent, content, changed, reached, acquired, ran, delivered⟩
  · rfl
  · obtain ⟨_, _, target, _, _, _, lends⟩ := World.acquire_eq_ok acquired
    have different : cell ≠ loan.cell := by
      rintro rfl
      exact apart target
    cases delivered
    have ignores := noCalls.ignoresUse library invoke loan.value parameters cell .shared lent
    calc (method.giveBack loan reached changed).cells[cell]?
        = reached.cells[cell]? := World.cell_giveBack_of_ne different _ _
      _ = lent.cells[cell]? := ignores.kept _ _ ran
      _ = scene.world.cells[cell]? := by
          rw [lends]
          exact World.getElem?_modifyCell_of_ne _ different _

end Method

/-! ## Owned receivers -/

namespace Holdings

/-- What a session has made of the records that own a receiver. -/
structure OwnedApart (library : Library H) (holdings : Holdings H) : Prop where
  /-- Records are the same exactly when they are copies of one that was built. -/
  same : ∀ (i j : Nat) (left right : Callback H.toVocabulary),
    holdings.records[i]? = some left → holdings.records[j]? = some right →
      (left.same right = true ↔ i = j)
  /-- Under a name is a copy of a record, or a bare name. -/
  named : ∀ name callback, holdings.interpreter.callable name = .ok callback →
    holdings.Holds callback
  /-- What is built next is what it is made of, if that is one callback.  Otherwise it is a new
  record, and if it binds a receiver that is not a reference, it has a cell that is no other's. -/
  built : ∀ registration slot callback after, holdings.Supplies library registration →
    registration.build library slot holdings.world = (.ok callback, after) →
      (callback ∈ registration.callbacks ∨ callback.raw?.isSome = true) ∧
          after = holdings.world ∨
        (∀ record ∈ holdings.records, record.same callback = false) ∧
          ∀ type source, registration.binds? library = some (type, source) →
            (∀ target, source.fixed? ≠ some (.referenced target)) →
              ∃ cell, callback.ownedCell? = some cell ∧
                (∀ record ∈ holdings.records, record.ownedCell? ≠ some cell) ∧
                ∀ content, source = .value content → after.content? cell = some content
  /-- A record that owns a receiver has one cell.  Nobody uses it between calls, a call of the
  record uses it, and no other record has it. -/
  cell : ∀ (i : Nat) (record : Callback H.toVocabulary) (cell : CellId),
    holdings.records[i]? = some record → record.ownedCell? = some cell →
      (∃ entry, holdings.world.Idle (.owned cell) cell entry) ∧
        (∀ frame, library.UsesOwnCell record cell ⟨frame, holdings.world⟩) ∧
        ∀ (j : Nat) (other : Callback H.toVocabulary), holdings.records[j]? = some other →
          other.ownedCell? = some cell → i = j
  /-- Calls through aliases come to what the calls of the records come to. -/
  aliases : ∀ depth calls,
    Interpreter.AllLeadTo library depth calls holdings.interpreter holdings.world →
      Interpreter.callAll library depth (calls.map Prod.fst) holdings.interpreter holdings.world =
        Interpreter.callAll library depth
          (calls.map fun ((_, arguments), original) => (.held original, arguments))
          holdings.interpreter holdings.world
  /-- A call of any callback changes a cell only if at some moment of it a member on that cell is
  called. -/
  calls : ∀ depth callback arguments outcome after reached,
    holdings.interpreter.call library depth callback arguments holdings.world =
        some ((outcome, after), reached) →
      ∀ cell, reached.cells[cell]? = holdings.world.cells[cell]? ∨
        ∃ moment, ReflTransGen library.Follows
          (.calling callback ⟨holdings.interpreter.entry arguments, holdings.world⟩) moment ∧
            moment.Uses cell
  /-- A call of a record that owns a receiver leaves the interpreter as it was, with all its
  objects, and if its method makes no calls, every other cell. -/
  own : ∀ record ∈ holdings.records, ∀ cell, record.ownedCell? = some cell →
    ∀ depth arguments outcome after reached,
      holdings.interpreter.call library depth record arguments holdings.world =
          some ((outcome, after), reached) →
        after = holdings.interpreter ∧
          ∀ method, library.member? (holdings.interpreter.entry arguments) record =
              some (.owned cell, method) → method.MakesNoCalls →
            ∀ other, other ≠ cell → reached.cells[other]? = holdings.world.cells[other]?
  /-- What the host program does between calls changes no cell that a record owns. -/
  acts : ∀ next, Act library holdings next → ∀ record ∈ holdings.records, ∀ cell,
    record.ownedCell? = some cell → next.world.cells[cell]? = holdings.world.cells[cell]?

namespace Sound

variable {library : Library H} {holdings : Holdings H}

theorem same_iff (sound : holdings.Sound library) {i j : Nat}
    {left right : Callback H.toVocabulary} (atLeft : holdings.records[i]? = some left)
    (atRight : holdings.records[j]? = some right) : left.same right = true ↔ i = j := by
  obtain ⟨first, leftId, _⟩ := sound.numbered left (List.mem_of_getElem? atLeft)
  obtain ⟨second, rightId, _⟩ := sound.numbered right (List.mem_of_getElem? atRight)
  rw [Callback.same_iff_of_id? leftId rightId]
  constructor
  · rintro rfl
    by_contra different
    exact (Callback.apart_of_ne sound.apart atLeft atRight different).id
      (leftId.trans rightId.symm)
  · rintro rfl
    cases atLeft.symm.trans atRight
    exact Option.some.inj (leftId.symm.trans rightId)

/-- What is built next. -/
theorem built (sound : holdings.Sound library) {registration : Registration H} {slot : String}
    {callback : Callback H.toVocabulary} {after : World H}
    (supplied : holdings.Supplies library registration)
    (built : registration.build library slot holdings.world = (.ok callback, after)) :
    (callback ∈ registration.callbacks ∨ callback.raw?.isSome = true) ∧
        after = holdings.world ∨
      (∀ record ∈ holdings.records, record.same callback = false) ∧
        ∀ type source, registration.binds? library = some (type, source) →
          (∀ target, source.fixed? ≠ some (.referenced target)) →
            ∃ cell, callback.ownedCell? = some cell ∧
              (∀ record ∈ holdings.records, record.ownedCell? ≠ some cell) ∧
              ∀ content, source = .value content → after.content? cell = some content := by
  have new (numbered : callback.id? = some holdings.world.closures)
      (record : Callback H.toVocabulary) (member : record ∈ holdings.records) :
      record.same callback = false := by
    obtain ⟨id, other, _⟩ := sound.numbered record member
    rw [Bool.eq_false_iff, ne_eq, Callback.same_iff_of_id? other numbered]
    rintro rfl
    exact sound.id_ne numbered member (other.trans numbered.symm)
  cases Registration.yields_of_build built with
  | given member => exact .inl ⟨.inl member, rfl⟩
  | direct name => exact .inl ⟨.inr rfl, rfl⟩
  | unbound numbered free nothing =>
      refine .inr ⟨new numbered, ?_⟩
      intro type source asked
      cases nothing.symm.trans asked
  | @bound type source block asked typed =>
      refine .inr ⟨new (congrArg some (source.closures_bind _)), ?_⟩
      rintro _ _ binds notReferenced
      cases asked.symm.trans binds
      have provides := supplied.receiver type source asked
      obtain ⟨cell, own⟩ : ∃ cell, (source.bind holdings.world).1.ownedCell? = some cell := by
        cases provides with
        | value value => exact ⟨_, rfl⟩
        | bound bound free held => exact ⟨_, rfl⟩
        | reference fixed => exact absurd fixed (notReferenced _)
      refine ⟨cell, ?_, (sound.unowned_of_provides provides own).2, ?_⟩
      · rw [Callback.ownedCell?, typed.receiver?]
        exact own
      · rintro content rfl
        cases own
        exact congrArg (Option.map Cell.content) (holdings.world.getElem?_newCell content)

/-- A call of a record that owns a receiver. -/
theorem own (sound : holdings.Sound library) {record : Callback H.toVocabulary}
    (member : record ∈ holdings.records) {cell : CellId} (owned : record.ownedCell? = some cell)
    {depth : Nat} {arguments : List (Slot H)} {outcome : Except CallError (List (Slot H))}
    {after : Interpreter H} {reached : World H}
    (called : holdings.interpreter.call library depth record arguments holdings.world =
      some ((outcome, after), reached)) :
    after = holdings.interpreter ∧
      ∀ method, library.member? (holdings.interpreter.entry arguments) record =
          some (.owned cell, method) → method.MakesNoCalls →
        ∀ other, other ≠ cell → reached.cells[other]? = holdings.world.cells[other]? := by
  obtain ⟨_, type, entry, typed, _⟩ := sound.owned record member cell owned
  rcases Interpreter.callWith_cases (library.goesBySteps_call depth) called with
    ⟨crowded, _, _⟩ | ⟨_, reported, frame, _, ran, _, _, rfl⟩
  · rw [Interpreter.call, Interpreter.callWith_of_not_fits crowded] at called
    cases called
    exact ⟨rfl, fun _ _ _ _ _ => rfl⟩
  rcases Library.member_cases typed ⟨holdings.interpreter.entry arguments, holdings.world⟩ with
    ⟨method, found, _⟩ | ⟨mismatch, fails⟩
  · rw [Library.call_eq_callWith_nested, (Library.standsFor_of_member found).called] at ran
    have sameHeap : frame.heap = holdings.interpreter.heap := Method.heap_of_callBound ran
    refine ⟨by rw [sameHeap], ?_⟩
    intro other again noCalls elsewhere different
    cases found.symm.trans again
    refine noCalls.cells_eq ?_ ran
    rintro ⟨⟩
    exact different rfl
  · cases fails.scene_eq ran
    exact ⟨rfl, fun _ _ _ _ _ => rfl⟩

end Sound

/-- Between calls nothing touches a cell that a record owns. -/
theorem Act.cells_eq {library : Library H} {first next : Holdings H} (act : Act library first next)
    (sound : first.Sound library) {record : Callback H.toVocabulary}
    (member : record ∈ first.records) {cell : CellId} (owned : record.ownedCell? = some cell) :
    next.world.cells[cell]? = first.world.cells[cell]? := by
  obtain ⟨_, _, entry, _, held⟩ := sound.owned record member cell owned
  have kept {after : World H} (built : first.world.BuiltFrom after) :
      after.cells[cell]? = first.world.cells[cell]? :=
    (built.getElem?_cells held.there).trans held.there.symm
  cases act with
  | bind value | capture description value => exact kept (.newCell first.world _)
  | @build registration slot callback after supplied built =>
      have same : first.world.BuiltFrom (registration.build library slot first.world).2 :=
        .build registration slot
      rw [built] at same
      exact kept same
  | construct name | custom label name => exact kept (.newClosure first.world)
  | install | turn => rfl
  | host counted keeps hidden => exact hidden record member cell owned

/-- **Owned receivers are apart.**  At every point of a session, whatever was built, bound, put under
names and called, each record that owns a receiver has one cell, which all its aliases use, and
nothing else does. -/
theorem ownedReceivers_apart {library : Library H} {holdings : Holdings H}
    (reachable : Reachable library holdings) : holdings.OwnedApart library := by
  have sound := reachable.sound
  refine ⟨fun i j left right => sound.same_iff, sound.named, ?_, ?_, ?_, ?_, ?_, ?_⟩
  · intro registration slot callback after supplied built
    exact sound.built supplied built
  · intro i record cell atRecord owned
    have member := List.mem_of_getElem? atRecord
    obtain ⟨bound, type, entry, typed, held⟩ := sound.owned record member cell owned
    obtain ⟨found, idle⟩ := sound.idle cell bound
    cases idle.there.symm.trans held.there
    refine ⟨⟨entry, idle⟩, fun frame => Library.usesOwnCell typed idle held, ?_⟩
    intro j other atOther taken
    by_contra different
    exact (Callback.apart_of_ne sound.apart atRecord atOther different).cell cell owned taken
  · intro depth calls
    exact Interpreter.callAll_eq_of_originals calls _ _
  · intro depth callback arguments outcome after reached called cell
    exact Interpreter.cells_eq_of_call called cell
  · intro record member cell owned depth arguments outcome after reached called
    exact sound.own member owned called
  · intro next act record member cell owned
    exact act.cells_eq sound member owned

end Holdings

namespace Sample

open Holdings

/-- Adds to a counter of its own. -/
def ownAdder (id : ClosureId) (cell : CellId) : Callback vocabulary :=
  .closure id (.boundMethod .counterAdd (.owned cell))

/-- Two callbacks were built from counters that hold five, and the first was put under a name, out
of an overload set in which it was alone.  Three was added under that name. -/
def twoAdders : Holdings host where
  interpreter := { globals := ⟨[("add", .function (ownAdder 0 0))]⟩ }
  world :=
    { memory := { transcript := #[.text (MethodName.written .counterAdd)] }
      cells := #[{ content := ⟨.counter, ⟨8⟩⟩ }, { content := ⟨.counter, ⟨5⟩⟩ }]
      closures := 2 }
  records := [ownAdder 0 0, ownAdder 1 1]
  cells := [0, 1, 0]

/-- A counter that holds a number, in a cell of its own. -/
def counterAt (count : Int64) : Cell host := { content := ⟨.counter, ⟨count⟩⟩ }

/-- One more adder is built from a counter that holds five. -/
theorem act_build_adder {holdings : Holdings host} {callback : Callback vocabulary}
    {after : World host}
    (built : Registration.build (Session.library #[])
      (.methodBound MethodName.counterAdd (.value ⟨Receiver.counter, Counter.mk 5⟩)) "add"
      holdings.world = (.ok callback, after)) :
    Act (Session.library #[]) holdings (holdings.keep callback after) := by
  refine .build ⟨?_, ?_⟩ built
  · intro callback member
    cases member
  · intro type source asked
    cases asked
    exact .value (show host.Value Receiver.counter from Counter.mk 5)

theorem reachable_twoAdders : Reachable (Session.library #[]) twoAdders := by
  let start : Holdings host := new {} {}
  let one : Holdings host := start.keep (ownAdder 0 0)
    { memory := {}, cells := #[counterAt 5], closures := 1 }
  let two : Holdings host := one.keep (ownAdder 1 1)
    { memory := {}, cells := #[counterAt 5, counterAt 5], closures := 2 }
  let alone : Holdings host := two.keep (ownAdder 0 0) two.world
  let stored : Holdings host :=
    { alone with interpreter := { globals := ⟨[("add", .function (ownAdder 0 0))]⟩ } }
  have first : Act (Session.library #[]) start one := act_build_adder rfl
  have second : Act (Session.library #[]) one two := act_build_adder rfl
  have third : Act (Session.library #[]) two alone := by
    have built : Registration.build (Session.library #[]) (.overloads ⟨[ownAdder 0 0]⟩) "add"
        two.world = (.ok (ownAdder 0 0), two.world) := rfl
    refine .build ⟨?_, ?_⟩ built
    · intro callback member
      cases List.mem_singleton.mp member
      exact .inr List.mem_cons_self
    · intro type source asked
      cases asked
  have fourth : Act (Session.library #[]) alone stored := by
    have done : alone.interpreter.install "add" (ownAdder 0 0) = (.ok (), stored.interpreter) :=
      rfl
    exact .install (.inr List.mem_cons_self) done
  have added : (Route.named "add").call (Session.library #[]) 0 [.int 3] stored.interpreter
      stored.world = some ((.ok [.int 8], stored.interpreter), twoAdders.world) := rfl
  exact ⟨{}, {}, ((((ReflTransGen.refl.tail (.act first)).tail (.act second)).tail
    (.act third)).tail (.act fourth)).tail (.call added)⟩

/-- Adding to the one has left the other as it was. -/
theorem ownedReceivers_apart_adders :
    Reachable (Session.library #[]) twoAdders ∧ twoAdders.OwnedApart (Session.library #[]) ∧
      twoAdders.world.content? 0 = some ⟨.counter, ⟨8⟩⟩ ∧
      twoAdders.world.content? 1 = some ⟨.counter, ⟨5⟩⟩ :=
  ⟨reachable_twoAdders, ownedReceivers_apart reachable_twoAdders, rfl, rfl⟩

end Sample

end HostCall
