import HostCall.Proofs.IdleReceivers
import HostCall.Proofs.ReceiverArgument
import HostCall.Session.Script

/-!
# Where the receiver is makes no difference

A method can be called in three modes: with its receiver in argument 0, on a copy of a value
that the callback owns, and on a shared cell.  In each of them a sequence of calls comes to the
method applied directly, one time after another, each time to the value that the time before
left behind (`Interpreter.receiverModes_agree`).  That includes calls that fail: when the
arguments are wrong the value stays, and when the method itself fails the value is what the
method has made of it by then.

With the receiver in argument 0 this holds of every method.  On a cell the method must not
notice that its own receiver is in use while it runs, for instance because it makes no calls
(`Method.MakesNoCalls.ignoresUses`).  A method that changes its receiver and calls a callback
on the same cell in between finds the cell borrowed (`Sample.run_readsOwnCell`).
-/

set_option autoImplicit false

namespace HostCall

variable {H : Host}

/-! ## Calls one after another -/

/-- Calls of a callback one after another: what each of them comes to, and what is then seen of
the interpreter and the world. -/
def Interpreter.callEach {α : Type} (library : Library H) (depth : Nat)
    (callback : Callback H.toVocabulary) (see : Interpreter H → World H → α) :
    List (List (Slot H)) → Interpreter H → World H →
      Option (List (Except CallError (List (Slot H)) × α))
  | [], _, _ => some []
  | arguments :: later, interpreter, world =>
      match interpreter.call library depth callback arguments world with
      | none => none
      | some ((outcome, interpreter), world) =>
          (callEach library depth callback see later interpreter world).map
            ((outcome, see interpreter world) :: ·)

namespace Method

/-- Applications of a method one after another, each to the value that the one before it left:
what each of them comes to, and the value that it leaves. -/
def applyEach (method : Method H) (handle : HostHandler H) (policy : Policy) (height : Nat) :
    List (List (Slot H)) → H.Value method.receiver → World H →
      Option (List (Except CallError (List (Slot H)) × Option (H.Value method.receiver)))
  | [], _, _ => some []
  | arguments :: later, value, world =>
      match method.apply handle policy height arguments value world with
      | none => none
      | some ((outcome, changed), world) =>
          (applyEach method handle policy height later changed world).map
            ((outcome, some changed) :: ·)

/-- While a method is applied one time after another, its body does not notice that a cell is
used for it. -/
def IgnoresUses (method : Method H) (handle : HostHandler H) (policy : Policy) (height : Nat)
    (cell : CellId) : List (List (Slot H)) → H.Value method.receiver → World H → Prop
  | [], _, _ => True
  | arguments :: later, value, world =>
      (∀ parameters, Parameters.read policy method.parameters arguments = .ok parameters →
          IgnoresUse (method.runBody handle value parameters) cell method.access world) ∧
        ∀ outcome changed after,
          method.apply handle policy height arguments value world =
              some ((outcome, changed), after) →
            IgnoresUses method handle policy height cell later changed after

end Method

section Sequences

variable {library : Library H} {name : H.Method} {value : H.Value (library.method name).receiver}

/-- Through a live handle the calls come to the applications, with failures counted one
higher. -/
theorem Interpreter.callEach_handle {interpreter : Interpreter H} {handle : Handle H.toVocabulary}
    (reached : interpreter.heap.get? handle (library.method name).receiver = some value)
    (depth : Nat) (id : ClosureId) (calls : List (List (Slot H))) (world : World H) :
    callEach library depth (.closure id (.method name))
        (fun interpreter _ => interpreter.heap.get? handle (library.method name).receiver)
        (calls.map (.object handle :: ·)) interpreter.deepened world =
      ((library.method name).applyEach (library.handler depth) interpreter.policy
          interpreter.stack.size calls value world).map
        (List.map fun (outcome, left) => (outcome.mapError .withReceiver, left)) := by
  induction calls generalizing interpreter value world with
  | nil => rfl
  | cons arguments later ih =>
      rw [List.map_cons, callEach, Method.applyEach, call_method_handle reached]
      cases (library.method name).apply (library.handler depth) interpreter.policy
          interpreter.stack.size arguments value world with
      | none => rfl
      | some ended =>
          obtain ⟨⟨outcome, changed⟩, after⟩ := ended
          have written := Heap.get?_replace_self reached changed
          let wrote : Interpreter H :=
            { interpreter with heap := interpreter.heap.replace handle ⟨_, changed⟩ }
          have next := @ih changed wrote written after
          refine (congrArg (Option.map _) next).trans ?_
          rw [Option.map_map, Option.map_map]
          refine congrArg (Option.map · _) (funext fun rest => ?_)
          exact congrArg
            (fun left => (outcome.mapError CallError.withReceiver, left) :: List.map _ rest) written

/-- Through an idle receiver the calls come to the applications, if the body of the method does
not notice that the receiver is used. -/
theorem Interpreter.callEach_bound {receiver : FixedReceiver} {cell : CellId} {entry : Cell H}
    {world : World H} (idle : world.Idle receiver cell entry)
    (holds : (library.method name).access = .shared → entry.content = ⟨_, value⟩) {depth : Nat}
    {interpreter : Interpreter H} {calls : List (List (Slot H))}
    (ignored : (library.method name).IgnoresUses (library.handler depth) interpreter.policy
      interpreter.stack.size cell calls value world) (id : ClosureId) :
    callEach library depth (.closure id (.boundMethod name receiver))
        (fun _ world => world.held? receiver (library.method name).receiver)
        calls interpreter (world.setContent cell ⟨(library.method name).receiver, value⟩) =
      (library.method name).applyEach (library.handler depth) interpreter.policy
        interpreter.stack.size calls value world := by
  induction calls generalizing value world with
  | nil => rfl
  | cons arguments later ih =>
      obtain ⟨ignores, ignoresLater⟩ := ignored
      rw [callEach, Method.applyEach, call_boundMethod idle holds ignores]
      cases applied : (library.method name).apply (library.handler depth) interpreter.policy
          interpreter.stack.size arguments value world with
      | none => rfl
      | some ended =>
          obtain ⟨⟨outcome, changed⟩, after⟩ := ended
          have kept : after.cells[cell]? = world.cells[cell]? := by
            rcases Method.apply_cases applied with ⟨_, rfl⟩ | ⟨parameters, _, read, ran⟩
            · rfl
            · exact (ignores parameters read).kept _ _ ran
          have stillHolds (reads : (library.method name).access = .shared) :
              entry.content = ⟨_, changed⟩ := by
            rcases Method.apply_cases applied with ⟨rfl, _⟩ | ⟨_, _, _, ran⟩
            · exact holds reads
            · rw [Method.eq_of_runBody_shared reads ran]
              exact holds reads
          have still := idle.of_kept kept
          have next := ih still stillHolds (ignoresLater _ _ _ applied)
          have held := still.held?_setContent changed
          dsimp only [Option.map_some]
          rw [next, held]

/-- It is enough that the body does not notice the use of the cell in any world and on any
value. -/
theorem Method.ignoresUses_of_forall {method : Method H} {handle : HostHandler H} {policy : Policy}
    {cell : CellId} {calls : List (List (Slot H))}
    (ignores : ∀ arguments ∈ calls, ∀ parameters,
      Parameters.read policy method.parameters arguments = .ok parameters → ∀ value world,
        IgnoresUse (method.runBody handle value parameters) cell method.access world)
    (height : Nat) (value : H.Value method.receiver) (world : World H) :
    method.IgnoresUses handle policy height cell calls value world := by
  induction calls generalizing value world with
  | nil => trivial
  | cons arguments later ih =>
      constructor
      · intro parameters read
        exact ignores arguments List.mem_cons_self parameters read value world
      · intro outcome changed after applied
        exact ih (fun others member => ignores others (List.mem_cons_of_mem _ member)) changed after

/-- A method that makes no calls never notices. -/
theorem Method.MakesNoCalls.ignoresUses {method : Method H} (noCalls : method.MakesNoCalls)
    (library : Library H) (depth : Nat) (policy : Policy) (height : Nat) (cell : CellId)
    (calls : List (List (Slot H))) (value : H.Value method.receiver) (world : World H) :
    method.IgnoresUses (library.handler depth) policy height cell calls value world :=
  ignoresUses_of_forall (fun _ _ parameters _ value world =>
    noCalls.ignoresUse library _ value parameters cell _ world) height value world

end Sequences

/-! ## The modes of one method -/

/-- One method as three callbacks: its receiver is argument 0, or a copy of an object, or in a
shared cell. -/
structure ReceiverModes (H : Host) where
  argument : Callback H.toVocabulary
  owned : Callback H.toVocabulary
  referenced : Callback H.toVocabulary

/-- A method as three callbacks. -/
def Callback.receiverModes (name : H.Method) (object : Object H) (shared : CellId) :
    Building H (ReceiverModes H) := do
  return ⟨← method name, ← methodBound name (.value object), ← methodBound name (.handle shared)⟩

/-- The cell that holds the copy, and the shared cell, are idle when the callbacks are made. -/
theorem World.Idle.receiverModes {world built : World H} {shared : CellId} {entry : Cell H}
    (idle : world.Idle (.referenced (some shared)) shared entry) {name : H.Method}
    {object : Object H} {modes : ReceiverModes H}
    (made : Callback.receiverModes name object shared world = (modes, built)) :
    built.Idle (.owned world.cells.size) world.cells.size { content := object } ∧
      built.Idle (.referenced (some shared)) shared entry := by
  cases made
  constructor
  · exact ⟨rfl, Array.getElem?_push_size, rfl⟩
  · have inside : shared < world.cells.size := (Array.getElem?_eq_some_iff.mp idle.there).1
    refine idle.of_kept ?_
    exact (Array.getElem?_push_lt inside).trans (Array.getElem?_eq_getElem inside).symm

/-- **Where the receiver is makes no difference.**  Take a method, a value, a shared cell that
holds the value and is not in use, and a live handle of the value in the heap of an
interpreter, and call the method a number of times.  Through the handle, with the limit of the
stack one higher, the calls come to what the method does to the value when it is applied
directly, call by call, with failures counted one higher; and the handle reaches what each
application left.  Through a copy of the value, and through the shared cell, they come to the
same, as long as the body of the method does not notice that its own receiver is in use.  One
call on the value itself comes to the same as well. -/
theorem Interpreter.receiverModes_agree (library : Library H) (name : H.Method)
    (value : H.Value (library.method name).receiver) {world built : World H} {shared : CellId}
    {owners : Nat}
    (holds : world.Idle (.referenced (some shared)) shared { content := ⟨_, value⟩, owners })
    {modes : ReceiverModes H}
    (made : Callback.receiverModes name ⟨_, value⟩ shared world = (modes, built))
    {interpreter : Interpreter H} {handle : Handle H.toVocabulary}
    (reached : interpreter.heap.get? handle (library.method name).receiver = some value)
    (depth : Nat) (calls : List (List (Slot H))) :
    let method := library.method name
    let policy := interpreter.policy
    let height := interpreter.stack.size
    let applied := method.applyEach (library.handler depth) policy height calls value built
    let owned := world.cells.size
    callEach library depth modes.argument
        (fun interpreter _ => interpreter.heap.get? handle method.receiver)
        (calls.map (.object handle :: ·)) interpreter.deepened built =
      applied.map (List.map fun (outcome, left) => (outcome.mapError .withReceiver, left)) ∧
    (method.IgnoresUses (library.handler depth) policy height owned calls value built →
      callEach library depth modes.owned (fun _ world => world.held? (.owned owned) method.receiver)
        calls interpreter built = applied) ∧
    (method.IgnoresUses (library.handler depth) policy height shared calls value built →
      callEach library depth modes.referenced
        (fun _ world => world.held? (.referenced (some shared)) method.receiver)
        calls interpreter built = applied) ∧
    ∀ arguments,
      interpreter.deepened.call library depth modes.argument
          (.native ⟨method.receiver, value⟩ :: arguments) built =
        (method.apply (library.handler depth) policy height arguments value built).map
          fun ((outcome, _), after) =>
            ((outcome.mapError .withReceiver, interpreter.deepened), after) := by
  obtain ⟨ownedIdle, sharedIdle⟩ := holds.receiverModes made
  have ownedSame := ownedIdle.setContent_self
  have sharedSame := sharedIdle.setContent_self
  have blocks : modes = ⟨.closure world.closures (.method name),
      .closure (world.closures + 1) (.boundMethod name (.owned world.cells.size)),
      .closure (world.closures + 2) (.boundMethod name (.referenced (some shared)))⟩ := by
    cases made
    rfl
  subst blocks
  intro method policy height applied owned
  refine ⟨?_, fun ignored => ?_, fun ignored => ?_, fun arguments => ?_⟩
  · exact callEach_handle reached depth _ calls built
  · have bound := callEach_bound ownedIdle (fun _ => rfl) ignored (world.closures + 1)
    rw [ownedSame] at bound
    exact bound
  · have bound := callEach_bound sharedIdle (fun _ => rfl) ignored (world.closures + 2)
    rw [sharedSame] at bound
    exact bound
  · exact interpreter.call_method_native value depth _ arguments built

namespace Sample

/-- A shared counter that nobody is using. -/
def counterCell : World host := { memory := {}, cells := #[{ content := ⟨.counter, ⟨5⟩⟩ }] }

/-- An interpreter with a counter in its heap. -/
def counterHeap : Interpreter host :=
  { heap := (({} : Heap host).allocate ⟨.counter, ⟨5⟩⟩).1 }

/-- The handle of that counter. -/
def counterHandle : Handle vocabulary := ⟨0, 0, .counter⟩

/-- A method that changes a counter and then calls a callback, in the three modes. -/
def runModes : ReceiverModes host × World host :=
  Callback.receiverModes (H := host) .counterRunExclusive ⟨.counter, ⟨5⟩⟩ 0 counterCell

/-- A call that succeeds, one without an argument, and one that fails when the counter has been
changed, because the callback needs an argument. -/
def runCalls : List (List (Slot host)) :=
  [[.function (.closure 8 (.function (.plain .zero .function)))], [],
    [.function (.closure 9 (.function (.plain .neg .function)))]]

/-- The method does not notice the use of a cell if its callback is a function that makes no
calls. -/
theorem ignoresUse_run {name : FunctionName}
    (noCalls : ∀ parameters, ((name.meaning).run parameters).MakesNoCalls) (id : ClosureId)
    (value : Counter) (cell : CellId) (access : Access) (world : World host) :
    IgnoresUse ((MethodName.meaning .counterRunExclusive).runBody
      ((Session.library #[]).handler 1) value (.closure id (.function name), ())) cell access
      world := by
  -- the note in the transcript, then the call, then the answer
  refine .step (.ofMemory (fun memory => memory) (fun memory => memory) cell access world) ?_
  intro memory read _
  refine .step (.ofMemory (fun _ => ()) (fun _ => _) cell access read) ?_
  intro _ noted _
  refine .step (Interpreter.ignoresUse_call_function noCalls {} 0 id [] cell access noted) ?_
  intro answer called _
  dsimp only [Program.bind, pure]
  split
  · exact .done _ _ cell access called
  · exact .done _ _ cell access called

theorem ignoresUses_runCalls (cell : CellId) (world : World host) :
    (MethodName.meaning .counterRunExclusive).IgnoresUses ((Session.library #[]).handler 1) {} 0
      cell runCalls ⟨5⟩ world := by
  refine Method.ignoresUses_of_forall (fun arguments member parameters read value world => ?_) 0 _
    world
  have zeroQuiet : ∀ parameters, ((FunctionName.plain .zero .function).meaning.run
      parameters).MakesNoCalls := fun _ => .readMemory fun _ => .writeMemory _ (.done _)
  have negQuiet : ∀ parameters, ((FunctionName.plain .neg .function).meaning.run
      parameters).MakesNoCalls := fun _ => .readMemory fun _ => .writeMemory _ (.done _)
  simp only [runCalls, List.mem_cons, List.not_mem_nil, or_false] at member
  rcases member with rfl | rfl | rfl
  · obtain rfl := Except.ok.inj read
    exact ignoresUse_run zeroQuiet 8 value cell _ world
  · cases read
  · obtain rfl := Except.ok.inj read
    exact ignoresUse_run negQuiet 9 value cell _ world

/-- Six after the first call, still six after the second, and seven after the third, which fails:
the counter in all three places. -/
theorem receiverModes_run :
    counterCell.Idle (.referenced (some 0)) 0 { content := ⟨.counter, ⟨5⟩⟩, owners := 1 } ∧
      counterHeap.heap.get? counterHandle .counter = some ⟨5⟩ ∧
      ∃ applied : List (Except CallError (List (Slot host)) × Option Counter),
        applied.map (fun (outcome, left) => (outcome.isOk, left)) =
            [(true, some ⟨6⟩), (false, some ⟨6⟩), (false, some ⟨7⟩)] ∧
          Interpreter.callEach (Session.library #[]) 1 runModes.1.argument
              (fun interpreter _ => interpreter.heap.get? counterHandle .counter)
              (runCalls.map (.object counterHandle :: ·)) counterHeap.deepened runModes.2 =
            some (applied.map fun (outcome, left) => (outcome.mapError .withReceiver, left)) ∧
          Interpreter.callEach (Session.library #[]) 1 runModes.1.owned
              (fun _ world => world.held? (.owned 1) .counter) runCalls counterHeap runModes.2 =
            some applied ∧
          Interpreter.callEach (Session.library #[]) 1 runModes.1.referenced
              (fun _ world => world.held? (.referenced (some 0)) .counter) runCalls counterHeap
              runModes.2 =
            some applied := by
  have holds : counterCell.Idle (.referenced (some 0)) 0
      { content := ⟨.counter, ⟨5⟩⟩, owners := 1 } := ⟨rfl, rfl, rfl⟩
  have reached : counterHeap.heap.get? counterHandle .counter = some ⟨5⟩ := rfl
  obtain ⟨throughHandle, throughCopy, throughCell, _⟩ :=
    Interpreter.receiverModes_agree (Session.library #[]) .counterRunExclusive ⟨5⟩ holds rfl
      reached 1 runCalls
  obtain ⟨applied, ends, shows⟩ : ∃ applied,
      (MethodName.meaning .counterRunExclusive).applyEach ((Session.library #[]).handler 1) {} 0
          runCalls ⟨5⟩ runModes.2 = some applied ∧
        applied.map (fun (outcome, left) => (outcome.isOk, left)) =
          [(true, some ⟨6⟩), (false, some ⟨6⟩), (false, some ⟨7⟩)] := ⟨_, rfl, rfl⟩
  refine ⟨holds, reached, applied, shows, ?_, ?_, ?_⟩
  · exact throughHandle.trans (congrArg (Option.map _) ends)
  · exact (throughCopy (ignoresUses_runCalls 1 runModes.2)).trans ends
  · exact (throughCell (ignoresUses_runCalls 0 runModes.2)).trans ends

/-- A callback that reads the shared counter. -/
def readsCell : Callback vocabulary := .closure 9 (.boundMethod .counterGet (.referenced (some 0)))

/-- If the callback reads the shared counter, the method succeeds on the counter in the heap, and
fails on the shared counter, which is in use. -/
theorem run_readsOwnCell :
    ∃ counter heap world after shared,
      counterHeap.deepened.call (Session.library #[]) 2 runModes.1.argument
          [.object counterHandle, .function readsCell] runModes.2 =
        some ((.ok [.int 11], heap), world) ∧
      heap.heap.get? counterHandle .counter = some counter ∧ counter.count = 11 ∧
      counterHeap.call (Session.library #[]) 2 runModes.1.referenced [.function readsCell]
          runModes.2 =
        some ((.error (.raised
          "bound receiver of type oracle::catalog::Counter is already borrowed"), counterHeap),
          after) ∧
      after.held? (.referenced (some 0)) .counter = some shared ∧ shared.count = 6 :=
  ⟨_, _, _, _, _, rfl, rfl, rfl, rfl, rfl, rfl⟩

end Sample

end HostCall
