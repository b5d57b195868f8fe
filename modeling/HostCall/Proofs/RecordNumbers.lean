import HostCall.Proofs.Records

/-!
# Numbers of records

A record gets a number when it is built, the count of the records before it, and the number tells
copies of one record from copies of another.  It does nothing else.  Under another number a
callback declares the same, takes the same frames and does the same (`Library.alike_numbered`).
And however many records were counted before a call, the call comes to the same
(`Interpreter.call_counted`).

So nothing but numbers depends on whether a record was built earlier or later.
-/

set_option autoImplicit false

namespace HostCall

variable {H : Host}

/-! ## Under another number -/

/-- The callback under another number.  A bare name has none. -/
def Callback.numbered {V : Vocabulary} (number : ClosureId) : Callback V → Callback V
  | direct name => direct name
  | closure _ block => closure number block
  | router _ shape declared candidates => router number shape declared candidates

/-- The callbacks look alike, and whatever is done with the one comes to the same with the
other. -/
structure Library.Alike (library : Library H) (left right : Callback H.toVocabulary) : Prop where
  profile : library.profile left = library.profile right
  accepts : ∀ frame, library.accepts frame left = library.accepts frame right
  call : ∀ depth scene, library.call depth left scene = library.call depth right scene

namespace Library

variable {library : Library H}

theorem Alike.refl (callback : Callback H.toVocabulary) : library.Alike callback callback where
  profile := rfl
  accepts _ := rfl
  call _ _ := rfl

theorem callWith_numbered (invoke : Invoker H) (number : ClosureId)
    (callback : Callback H.toVocabulary) (scene : Scene H) :
    library.callWith invoke (callback.numbered number) scene =
      library.callWith invoke callback scene := by
  cases callback with
  | direct name => rfl
  | closure id block => rw [Callback.numbered, callWith, callWith]
  | router id shape declared candidates => rw [Callback.numbered, callWith, callWith]

/-- **A number is a name only.** -/
theorem alike_numbered (number : ClosureId) (callback : Callback H.toVocabulary) :
    library.Alike (callback.numbered number) callback where
  profile := by cases callback <;> rfl
  accepts frame := by
    cases callback with
    | direct name => rfl
    | closure id block => rw [Callback.numbered, accepts, accepts]
    | router id shape declared candidates => rw [Callback.numbered, accepts, accepts]
  call depth scene := by
    rw [call_eq_callWith_nested, call_eq_callWith_nested, callWith_numbered]

theorem alike_closure (first second : ClosureId) (block : Block H.toVocabulary) :
    library.Alike (.closure first block) (.closure second block) :=
  alike_numbered first (.closure second block)

theorem alike_router (first second : ClosureId) (shape : Shape) (declared : Arity)
    (candidates : List (Callback H.toVocabulary)) :
    library.Alike (.router first shape declared candidates)
      (.router second shape declared candidates) :=
  alike_numbered first (.router second shape declared candidates)

end Library

/-! ## One record more -/

/-- The world when one record more was counted. -/
def World.counted (world : World H) : World H := { world with closures := world.closures + 1 }

/-- The scene when one record more was counted. -/
def Scene.counted (scene : Scene H) : Scene H := { scene with world := scene.world.counted }

theorem Scene.attempt_counted (scene : Scene H) (outcome : Except CallError (Frame H)) :
    scene.counted.attempt outcome =
      ((scene.attempt outcome).1, (scene.attempt outcome).2.counted) := by
  cases outcome <;> rfl

@[simp] theorem Scene.frame_counted (scene : Scene H) : scene.counted.frame = scene.frame := rfl

@[simp] theorem Scene.world_counted (scene : Scene H) :
    scene.counted.world = scene.world.counted := rfl

namespace World

theorem target?_counted (world : World H) (receiver : FixedReceiver) :
    world.counted.target? receiver = world.target? receiver := by
  rcases receiver with _ | _ | _ <;> rfl

theorem content?_counted (world : World H) (cell : CellId) :
    world.counted.content? cell = world.content? cell := rfl

theorem lock?_counted (world : World H) (cell : CellId) (access : Access) :
    world.counted.lock? cell access = (world.lock? cell access).map counted := by
  simp only [lock?, counted]
  cases world.cells[cell]? with
  | none => rfl
  | some entry =>
      simp only [Option.bind_eq_bind, Option.bind_some]
      cases entry.borrow.acquire access <;> rfl

/-- A receiver is borrowed in the same way. -/
theorem acquire_counted (world : World H) (receiver : FixedReceiver) (type : H.Receiver)
    (access : Access) :
    world.counted.acquire receiver type access =
      (world.acquire receiver type access).map fun lent => (lent.1, lent.2.counted) := by
  simp only [acquire, target?_counted, content?_counted, lock?_counted]
  cases world.target? receiver with
  | none => rfl
  | some cell =>
      dsimp only
      cases (world.content? cell).bind (·.as? type) with
      | none => rfl
      | some value => cases world.lock? cell access <;> rfl

end World

/-- A receiver is given back in the same way. -/
theorem Method.giveBack_counted (method : Method H) (loan : World.Loan H method.receiver)
    (world : World H) (changed : H.Value method.receiver) :
    method.giveBack loan world.counted changed = (method.giveBack loan world changed).counted := by
  rw [giveBack, giveBack]
  cases method.access <;> rfl

/-- What runs comes to the same from a state and from the state that this one is moved to, and
leaves the one moved as it leaves the other. -/
def Commutes {State α : Type} (move : State → State) (run : State → Option (α × State)) : Prop :=
  ∀ state, run (move state) = (run state).map fun ended => (ended.1, move ended.2)

namespace Commutes

variable {State α β : Type} {move : State → State}

theorem map {run : State → Option (α × State)} (commutes : Commutes move run) (change : α → β) :
    Commutes move fun state => (run state).map fun ended => (change ended.1, ended.2) := by
  intro state
  simp only [commutes state, Option.map_map]
  rfl

/-- A program commutes if all its operations do. -/
theorem program {Operation : Type} {Answer : Operation → Type}
    {handle : (operation : Operation) → State → Option (Answer operation × State)}
    (each : ∀ operation, Commutes move (handle operation)) (program : Program Operation Answer α) :
    Commutes move (program.run handle) := by
  induction program with
  | done value => exact fun _ => rfl
  | step operation next ih =>
      intro state
      rw [Program.run, Program.run, each operation state]
      cases handle operation state with
      | none => rfl
      | some answered => exact ih answered.1 answered.2

/-- What is made of the end of a run commutes if the run does. -/
theorem finish {run : World H → Option (α × World H)} (commutes : Commutes World.counted run)
    {ending : α × World H → Except CallError Nat × Scene H}
    (same : ∀ value world, ending (value, world.counted) =
      ((ending (value, world)).1, (ending (value, world)).2.counted))
    (world : World H) :
    (run world.counted).map ending =
      ((run world).map ending).map fun ended => (ended.1, ended.2.counted) := by
  rw [commutes world, Option.map_map, Option.map_map]
  exact congrArg (Option.map · (run world)) (funext fun ended => same ended.1 ended.2)

end Commutes

/-- Calls come to the same when one record more was counted. -/
def Invoker.IgnoresCount (invoke : Invoker H) : Prop :=
  ∀ callback, Commutes Scene.counted (invoke callback)

namespace Invoker.IgnoresCount

variable {invoke : Invoker H}

/-! ### Programs -/

theorem interpreterCall (ignores : invoke.IgnoresCount) (interpreter : Interpreter H)
    (callback : Callback H.toVocabulary) (arguments : List (Slot H)) :
    Commutes World.counted (interpreter.callWith invoke callback arguments) := by
  intro world
  by_cases crowded : interpreter.policy.stackLimit < interpreter.stack.size + arguments.length
  · simp only [Interpreter.callWith, if_pos crowded]
    rfl
  · let frame := Frame.enter (interpreter.stack ++ arguments) interpreter.stack.size
      interpreter.heap interpreter.policy
    have counted : invoke callback ⟨frame, world.counted⟩ =
        (invoke callback ⟨frame, world⟩).map fun ended => (ended.1, ended.2.counted) :=
      ignores callback ⟨frame, world⟩
    simp only [Interpreter.callWith, if_neg crowded]
    rw [counted]
    cases invoke callback ⟨frame, world⟩ <;> rfl

theorem hostOperation (ignores : invoke.IgnoresCount) (library : Library H)
    (operation : HostOperation H) :
    Commutes World.counted (operation.run library invoke) := by
  cases operation with
  | readMemory | writeMemory memory | inspect callback => exact fun _ => rfl
  | call interpreter callback arguments =>
      exact ignores.interpreterCall interpreter callback arguments

theorem frameOperation (ignores : invoke.IgnoresCount) (library : Library H)
    (operation : FrameOperation H) :
    Commutes Scene.counted (operation.run library invoke) := by
  cases operation with
  | host operation =>
      intro scene
      have counted := ignores.hostOperation library operation scene.world
      rw [FrameOperation.run, FrameOperation.run]
      change (operation.run library invoke scene.world.counted).map _ = _
      rw [counted, Option.map_map, Option.map_map]
      rfl
  | invoke callback => exact ignores callback
  | push slot => exact fun scene => congrArg some (scene.attempt_counted _)
  | setReceiver object => exact fun scene => congrArg some (scene.attempt_counted _)
  | setObject handle object => exact fun scene => congrArg some (scene.attempt_counted _)
  | _ => exact fun _ => rfl

theorem hostProgram (ignores : invoke.IgnoresCount) (library : Library H) {α : Type}
    (program : HostProgram H α) :
    Commutes World.counted (program.run (HostOperation.run library invoke)) :=
  .program (ignores.hostOperation library) program

theorem methodBody (ignores : invoke.IgnoresCount) (library : Library H) (method : Method H)
    (value : H.Value method.receiver) (parameters : Parameters H method.parameters) :
    Commutes World.counted
      (method.runBody (HostOperation.run library invoke) value parameters) := by
  obtain ⟨receiver, types, result, body⟩ := method
  cases body with
  | shared run => exact (ignores.hostProgram library (run value parameters)).map (·, value)
  | exclusive run => exact ignores.hostProgram library (run value parameters)

theorem frameProgram (ignores : invoke.IgnoresCount) (library : Library H) {α : Type}
    (program : FrameProgram H α) :
    Commutes Scene.counted (program.run (FrameOperation.run library invoke)) :=
  .program (ignores.frameOperation library) program

/-! ### Calls -/

variable (library : Library H)

theorem functionCall (ignores : invoke.IgnoresCount) (function : FreeFunction H) :
    Commutes Scene.counted (function.call (HostOperation.run library invoke)) := by
  intro scene
  simp only [FreeFunction.call, Scene.frame_counted, Scene.world_counted]
  cases scene.frame.prepare (.ofParameters function.parameters) function.parameters with
  | error error => rfl
  | ok parameters => exact (ignores.hostProgram library _).finish (fun _ _ => rfl) scene.world

theorem constructorCall (ignores : invoke.IgnoresCount) (constructor : Constructor H) :
    Commutes Scene.counted (constructor.call (HostOperation.run library invoke)) := by
  intro scene
  simp only [Constructor.call, Scene.frame_counted, Scene.world_counted]
  cases scene.frame.prepare (.ofParameters constructor.parameters) constructor.parameters with
  | error error => rfl
  | ok parameters => exact (ignores.hostProgram library _).finish (fun _ _ => rfl) scene.world

theorem methodCall (ignores : invoke.IgnoresCount) (method : Method H) :
    Commutes Scene.counted (method.call (HostOperation.run library invoke)) := by
  intro scene
  simp only [Method.call_eq, Scene.frame_counted, Scene.world_counted]
  cases scene.frame.prepareMember ((Arity.ofParameters method.parameters).shift 1)
      method.receiver method.parameters with
  | error error => rfl
  | ok read =>
      exact (ignores.methodBody library method read.1 read.2).finish (fun _ _ => rfl) scene.world

theorem boundMethodCall (ignores : invoke.IgnoresCount) (method : Method H)
    (receiver : FixedReceiver) :
    Commutes Scene.counted (method.callBound receiver (HostOperation.run library invoke)) := by
  intro scene
  simp only [Method.callBound_eq, Scene.frame_counted, Scene.world_counted, World.acquire_counted]
  cases scene.frame.prepare (.ofParameters method.parameters) method.parameters with
  | error error => rfl
  | ok parameters =>
      cases scene.world.acquire receiver method.receiver method.access with
      | error error => rfl
      | ok loaned =>
          refine (ignores.methodBody library method loaned.1.value parameters).finish ?_ loaned.2
          intro ended world
          rw [method.giveBack_counted]
          rfl

theorem fieldCall (field : Field H) :
    Commutes Scene.counted fun scene => some (field.call scene) := by
  intro scene
  simp only [Field.call, Scene.frame_counted, Scene.world_counted]
  split
  · cases scene.frame.receiver field.receiver <;> rfl
  · cases scene.frame.receiver field.receiver with
    | error error => rfl
    | ok value =>
        cases scene.frame.argument field.type 1 with
        | error error => rfl
        | ok content => cases scene.frame.receiverMut field.receiver <;> rfl
  · rfl

theorem boundFieldCall (field : Field H) (receiver : FixedReceiver) :
    Commutes Scene.counted fun scene => some (field.callBound receiver scene) := by
  intro scene
  simp only [Field.callBound, Scene.frame_counted, Scene.world_counted, World.acquire_counted]
  split
  · cases scene.world.acquire receiver field.receiver .shared <;> rfl
  · cases scene.frame.argument field.type 0 with
    | error error => rfl
    | ok content => cases scene.world.acquire receiver field.receiver .exclusive <;> rfl
  · rfl

variable {library} in
/-- Each block: one case for each way in which a call is written. -/
theorem callBlock (ignores : invoke.IgnoresCount) (block : Block H.toVocabulary) :
    Commutes Scene.counted (library.callBlock invoke block) := by
  cases block with
  | function name => exact ignores.functionCall library (library.function name)
  | method name => exact ignores.methodCall library (library.method name)
  | boundMethod name receiver =>
      exact ignores.boundMethodCall library (library.method name) receiver
  | field name => exact fieldCall (library.field name)
  | boundField name receiver => exact boundFieldCall (library.field name) receiver
  | construct name => exact ignores.constructorCall library (library.constructor name)
  | custom label name => exact ignores.frameProgram library (library.custom name).run

/-- A callback, down its tree of routers. -/
theorem callWith (ignores : invoke.IgnoresCount) :
    Invoker.IgnoresCount (library.callWith invoke) := by
  intro callback
  induction callback using Callback.inductionOn with
  | direct name =>
      intro scene
      rw [Library.callWith, Library.callWith]
      exact ignores.frameProgram library (library.raw name) scene
  | closure id block =>
      intro scene
      rw [Library.callWith, Library.callWith]
      exact ignores.callBlock block scene
  | router id shape declared candidates ih =>
      intro scene
      cases found : candidates.find? (library.takes scene.frame) with
      | none =>
          obtain ⟨mismatch, failed, _⟩ := Library.select_of_find?_eq_none found
          have moved : library.callWith invoke (.router id shape declared candidates)
              scene.counted = some (.error (.noCandidate mismatch), scene.counted) :=
            Library.callWith_router_of_mismatch failed
          rw [moved, Library.callWith_router_of_mismatch failed]
          rfl
      | some candidate =>
          obtain ⟨place, chosen, atPlace⟩ := Library.select_of_find?_eq_some found
          have moved : library.callWith invoke (.router id shape declared candidates)
              scene.counted = library.callWith invoke candidate scene.counted :=
            Library.callWith_router_of_select chosen atPlace
          rw [moved, Library.callWith_router_of_select chosen atPlace]
          exact ih candidate (List.mem_of_find?_eq_some found) scene

end Invoker.IgnoresCount

/-- **However many records were counted, a call comes to the same**, at any depth. -/
theorem Library.call_counted (library : Library H) (depth : Nat) :
    Invoker.IgnoresCount (library.call depth) := by
  induction depth with
  | zero => exact Invoker.IgnoresCount.callWith library fun _ _ => rfl
  | succ depth ih => exact ih.callWith library

/-- The same for a call in an interpreter. -/
theorem Interpreter.call_counted (interpreter : Interpreter H) (library : Library H) (depth : Nat)
    (callback : Callback H.toVocabulary) (arguments : List (Slot H)) :
    Commutes World.counted (interpreter.call library depth callback arguments) :=
  (library.call_counted depth).interpreterCall interpreter callback arguments

/-! ## Building -/

/-- What was built in two worlds failed for the same reason, or is alike. -/
inductive Library.BuiltAlike (library : Library H) :
    Except RegistrationError (Callback H.toVocabulary) →
      Except RegistrationError (Callback H.toVocabulary) → Prop
  | error (error : RegistrationError) : BuiltAlike library (.error error) (.error error)
  | ok {left right : Callback H.toVocabulary} (alike : library.Alike left right) :
      BuiltAlike library (.ok left) (.ok right)

section Building

variable {library : Library H}

/-- Callbacks that were built in any two worlds from one item are the same but for their
numbers. -/
theorem Installable.builtAlike (item : Installable H) (first second : World H) :
    library.BuiltAlike (item.synthesize library first).1 (item.synthesize library second).1 := by
  induction item with
  | callback finished => exact .ok (.refl finished)
  | function name | method name | boundMethod name receiver | field name =>
      exact .ok (Library.alike_closure _ _ _)
  | overloads set =>
      obtain ⟨_ | ⟨candidate, _ | ⟨other, rest⟩⟩⟩ := set
      · exact .error _
      · exact .ok (.refl candidate)
      · exact .ok (Library.alike_router _ _ _ _ _)
  | property pair =>
      obtain ⟨_ | read, _ | write⟩ := pair
      · exact .error _
      · exact .ok (.refl write)
      · exact .ok (.refl read)
      · exact .ok (Library.alike_router _ _ _ _ _)
  | constructors list =>
      obtain ⟨receiver, _ | ⟨candidate, _ | ⟨other, rest⟩⟩⟩ := list
      · exact .error _
      · exact .ok (.refl candidate)
      · exact .ok (Library.alike_router _ _ _ _ _)
  | deferred description content ih => exact ih

/-- What an item does to the world when it is synthesized does not depend on the count. -/
theorem Installable.synthesize_counted (item : Installable H) (world : World H) :
    (item.synthesize library world.counted).2 = (item.synthesize library world).2.counted := by
  induction item with
  | callback finished | function name | method name | boundMethod name receiver | field name => rfl
  | overloads set =>
      obtain ⟨_ | ⟨candidate, _ | ⟨other, rest⟩⟩⟩ := set <;> rfl
  | property pair =>
      obtain ⟨_ | read, _ | write⟩ := pair <;> rfl
  | constructors list =>
      obtain ⟨receiver, _ | ⟨candidate, _ | ⟨other, rest⟩⟩⟩ := list <;> rfl
  | deferred description content ih => exact ih

theorem ReceiverSource.bind_counted (source : ReceiverSource H) (world : World H) :
    source.bind world.counted = ((source.bind world).1, (source.bind world).2.counted) := by
  cases source <;> rfl

/-- The same for a registration. -/
theorem Registration.build_counted (registration : Registration H) (slot : String)
    (world : World H) :
    (registration.build library slot world.counted).2 =
      (registration.build library slot world).2.counted := by
  cases registration with
  | install finished | raw name | function name | method name | field name => rfl
  | methodBound name source | fieldBound name source =>
      exact congrArg (fun bound : FixedReceiver × World H => bound.2.newClosure.1)
        (source.bind_counted world)
  | set item => exact item.synthesize_counted world
  | overloads bundle => exact (Installable.overloads bundle).synthesize_counted world
  | property pair => exact (Installable.property pair).synthesize_counted world
  | constructors list => exact (Installable.constructors list).synthesize_counted world
  | deferred content => exact content.content.synthesize_counted world

end Building

end HostCall
