import HostCall.Dispatch

/-!
# Calling

A call runs on a `Scene`: the frame it sees and the world of the host around it.
A wrapped callable is called in two parts.  First everything is checked and
converted, which changes nothing; only then the callable itself runs, and its
result is pushed.  A method on a bound receiver borrows the receiver between the
two.

A router calls the candidate it chooses, so a call runs down the tree of a
callback to one leaf.  A callable may call other callbacks, on its own frame or in
an interpreter of its own, and nothing bounds how deep such calls nest; so
`Library.callWith` takes the calls that callables make as a parameter, and
`Library.call` allows them up to a depth.  A call that nests deeper has no outcome
(`none`).
-/

set_option autoImplicit false

namespace HostCall

variable {H : Host}

/-! ## Running programs -/

/-- The frame of a running call and the world around it. -/
structure Scene (H : Host) where
  frame : Frame H
  world : World H

/-- What a call of a callback does: it reports a number of results or a failure, and
leaves a scene. -/
abbrev Invoker (H : Host) : Type :=
  Callback H.toVocabulary → Scene H → Option (Except CallError Nat × Scene H)

/-- A program run from a state, given the answer to each operation and the state
after it. -/
def Program.run {Operation : Type} {Answer : Operation → Type} {State α : Type}
    (handle : (operation : Operation) → State → Option (Answer operation × State)) :
    Program Operation Answer α → State → Option (α × State)
  | .done value, state => some (value, state)
  | .step operation next, state =>
      match handle operation state with
      | none => none
      | some (answer, state) => (next answer).run handle state

/-- A call in an interpreter: the arguments are put on the stack if they fit, the
last slots pushed are the results, and the stack goes back to what it was. -/
def Interpreter.callWith (invoke : Invoker H) (interpreter : Interpreter H)
    (callback : Callback H.toVocabulary) (arguments : List (Slot H)) (world : World H) :
    Option ((Except CallError (List (Slot H)) × Interpreter H) × World H) :=
  let base := interpreter.stack.size
  let depth := base + arguments.length
  if interpreter.policy.stackLimit < depth then
    some ((.error (.stackOverflow depth interpreter.policy.stackLimit), interpreter), world)
  else
    let frame := Frame.enter (interpreter.stack ++ arguments) base interpreter.heap
      interpreter.policy
    match invoke callback ⟨frame, world⟩ with
    | none => none
    | some (outcome, ⟨frame, world⟩) =>
        let results := match outcome with
          | .error error => .error error
          | .ok count =>
              if count ≤ frame.pushed then
                .ok (frame.stack.toList.drop (frame.stack.size - count))
              else .error (.overclaim count frame.pushed)
        some ((results,
          { interpreter with stack := frame.stack.take base, heap := frame.heap }), world)

/-- The answer to an operation of the host. -/
def HostOperation.run (library : Library H) (invoke : Invoker H) :
    (operation : HostOperation H) → World H → Option (operation.Answer × World H)
  | .readMemory, world => some (world.memory, world)
  | .writeMemory memory, world => some ((), { world with memory })
  | .inspect callback, world => some (library.profile callback, world)
  | .call interpreter callback arguments, world =>
      interpreter.callWith invoke callback arguments world

/-- An outcome that replaces the frame, or a failure that leaves it. -/
def Scene.attempt (scene : Scene H) (outcome : Except CallError (Frame H)) :
    Except CallError Unit × Scene H :=
  match outcome with
  | .error error => (.error error, scene)
  | .ok frame => (.ok (), { scene with frame })

/-- The answer to an operation on a frame. -/
def FrameOperation.run (library : Library H) (invoke : Invoker H) :
    (operation : FrameOperation H) → Scene H → Option (operation.Answer × Scene H)
  | .host operation, scene =>
      (operation.run library invoke scene.world).map fun (answer, world) =>
        (answer, { scene with world })
  | .look, scene => some (scene.frame, scene)
  | .push slot, scene => some (scene.attempt (scene.frame.push slot))
  | .setReceiver object, scene =>
      some (scene.attempt (scene.frame.setReceiver object.receiver object.value))
  | .allocate object, scene =>
      let (heap, handle) := scene.frame.heap.allocate object
      some (handle, { scene with frame := { scene.frame with heap } })
  | .free handle, scene =>
      let (heap, freed) := scene.frame.heap.free handle
      some (freed, { scene with frame := { scene.frame with heap } })
  | .setObject handle object, scene =>
      some (scene.attempt
        ((scene.frame.heap.set handle object.receiver object.value).map
          ({ scene.frame with heap := · })))
  | .accepts callback, scene => some (library.accepts scene.frame callback, scene)
  | .select candidates, scene => some (library.select scene.frame candidates, scene)
  | .invoke callback, scene => invoke callback scene

/-! ## Wrapped callables -/

/-- How the operations of a wrapped callable are answered. -/
abbrev HostHandler (H : Host) : Type :=
  (operation : HostOperation H) → World H → Option (operation.Answer × World H)

/-- The end of a wrapped call: its result is pushed. -/
def Frame.deliver (frame : Frame H) (world : World H) (type : ResultType)
    (content : type.Val H) : Except CallError Nat × Scene H :=
  let (outcome, frame) := frame.pushResult type content
  (outcome, ⟨frame, world⟩)

/-- The number of arguments is checked first, then the parameters are read. -/
def Frame.prepare (frame : Frame H) (declared : Arity) (parameters : List SlotType) :
    Except CallError (Parameters H parameters) :=
  match frame.checkCount declared with
  | .error error => .error error
  | .ok () => Parameters.extract frame parameters 0

/-- The number of arguments is checked first, then the receiver, then the
parameters are read. -/
def Frame.prepareMember (frame : Frame H) (declared : Arity) (receiver : H.Receiver)
    (parameters : List SlotType) :
    Except CallError (H.Value receiver × Parameters H parameters) :=
  match frame.checkCount declared with
  | .error error => .error error
  | .ok () =>
      match frame.receiver receiver with
      | .error error => .error error
      | .ok value => (Parameters.extract frame parameters 1).map (value, ·)

/-- A call of a free function. -/
def FreeFunction.call (function : FreeFunction H) (handle : HostHandler H) (scene : Scene H) :
    Option (Except CallError Nat × Scene H) :=
  match scene.frame.prepare (.ofParameters function.parameters) function.parameters with
  | .error error => some (.error error, scene)
  | .ok parameters =>
      ((function.run parameters).run handle scene.world).map fun (content, world) =>
        scene.frame.deliver world function.result content

/-- A call of a method whose receiver is argument 0.  A method that changes its
receiver looks it up once more, to overwrite it, when everything was checked. -/
def Method.call (method : Method H) (handle : HostHandler H) (scene : Scene H) :
    Option (Except CallError Nat × Scene H) :=
  match scene.frame.prepareMember ((Arity.ofParameters method.parameters).shift 1)
    method.receiver method.parameters with
  | .error error => some (.error error, scene)
  | .ok (value, parameters) =>
      match method.body with
      | .shared run =>
          ((run value parameters).run handle scene.world).map fun (content, world) =>
            scene.frame.deliver world method.result content
      | .exclusive run =>
          match scene.frame.receiverMut method.receiver with
          | .error error => some (.error error, scene)
          | .ok reached =>
              ((run reached.value parameters).run handle scene.world).map
                fun ((content, value), world) =>
                  (reached.put value).deliver world method.result content

/-- A call of a method on a bound receiver, which is borrowed while the method runs. -/
def Method.callBound (method : Method H) (receiver : FixedReceiver) (handle : HostHandler H)
    (scene : Scene H) : Option (Except CallError Nat × Scene H) :=
  match scene.frame.prepare (.ofParameters method.parameters) method.parameters with
  | .error error => some (.error error, scene)
  | .ok parameters =>
      match scene.world.acquire receiver method.receiver method.access with
      | .error error => some (.error error, scene)
      | .ok (loan, world) =>
          match method.body with
          | .shared run =>
              ((run loan.value parameters).run handle world).map fun (content, world) =>
                scene.frame.deliver (world.release loan) method.result content
          | .exclusive run =>
              ((run loan.value parameters).run handle world).map fun ((content, value), world) =>
                scene.frame.deliver (world.releaseWith loan value) method.result content

/-- A call of a field whose receiver is argument 0: alone it is read, with a value
behind it the field is written. -/
def Field.call (field : Field H) (scene : Scene H) : Except CallError Nat × Scene H :=
  match scene.frame.argumentCount with
  | 1 =>
      match scene.frame.receiver field.receiver with
      | .error error => (.error error, scene)
      | .ok value =>
          scene.frame.deliver scene.world (.one (.value field.type)) (field.get value)
  | 2 =>
      match scene.frame.receiver field.receiver with
      | .error error => (.error error, scene)
      | .ok _ =>
          match scene.frame.argument field.type 1 with
          | .error error => (.error error, scene)
          | .ok content =>
              match scene.frame.receiverMut field.receiver with
              | .error error => (.error error, scene)
              | .ok reached =>
                  (.ok 0, { scene with frame := reached.put (field.set content reached.value) })
  | count => (.error (.noCandidate ⟨count, [.exact 1, .exact 2], []⟩), scene)

/-- A call of a field of a bound receiver: without arguments it is read, with a
value the field is written. -/
def Field.callBound (field : Field H) (receiver : FixedReceiver) (scene : Scene H) :
    Except CallError Nat × Scene H :=
  match scene.frame.argumentCount with
  | 0 =>
      match scene.world.acquire receiver field.receiver .shared with
      | .error error => (.error error, scene)
      | .ok (loan, world) =>
          scene.frame.deliver (world.release loan) (.one (.value field.type))
            (field.get loan.value)
  | 1 =>
      match scene.frame.argument field.type 0 with
      | .error error => (.error error, scene)
      | .ok content =>
          match scene.world.acquire receiver field.receiver .exclusive with
          | .error error => (.error error, scene)
          | .ok (loan, world) =>
              (.ok 0, { scene with
                world := world.releaseWith loan (field.set content loan.value) })
  | count => (.error (.noCandidate ⟨count, [.exact 0, .exact 1], []⟩), scene)

/-- A call of a constructor: the object it makes goes into the heap, and then its
handle is pushed. -/
def Constructor.call (constructor : Constructor H) (handle : HostHandler H) (scene : Scene H) :
    Option (Except CallError Nat × Scene H) :=
  match scene.frame.prepare (.ofParameters constructor.parameters) constructor.parameters with
  | .error error => some (.error error, scene)
  | .ok parameters =>
      ((constructor.run parameters).run handle scene.world).map fun (value, world) =>
        let (heap, issued) := scene.frame.heap.allocate ⟨constructor.receiver, value⟩
        { scene.frame with heap }.deliver world (.one (.value .object)) issued

namespace Library

/-! ## Callbacks -/

/-- A call of a closure: its block says what runs. -/
def callBlock (library : Library H) (invoke : Invoker H) (block : Block H.toVocabulary)
    (scene : Scene H) : Option (Except CallError Nat × Scene H) :=
  let handle := HostOperation.run library invoke
  match block with
  | .function name => (library.function name).call handle scene
  | .method name => (library.method name).call handle scene
  | .boundMethod name receiver => (library.method name).callBound receiver handle scene
  | .field name => some ((library.field name).call scene)
  | .boundField name receiver => some ((library.field name).callBound receiver scene)
  | .construct name => (library.constructor name).call handle scene
  | .custom _ name => (library.custom name).run.run (FrameOperation.run library invoke) scene

mutual
/-- A call of a callback, given what the calls that its callables make do. -/
def callWith (library : Library H) (invoke : Invoker H) :
    Callback H.toVocabulary → Scene H → Option (Except CallError Nat × Scene H)
  | .direct name, scene => (library.raw name).run (FrameOperation.run library invoke) scene
  | .closure _ block, scene => library.callBlock invoke block scene
  | .router _ _ _ candidates, scene =>
      match library.select scene.frame candidates with
      | .error mismatch => some (.error (.noCandidate mismatch), scene)
      | .ok place => library.callNth invoke candidates place scene

/-- A call of the candidate at a place. -/
def callNth (library : Library H) (invoke : Invoker H) :
    List (Callback H.toVocabulary) → Nat → Scene H → Option (Except CallError Nat × Scene H)
  | [], _, _ => none
  | candidate :: _, 0, scene => library.callWith invoke candidate scene
  | _ :: candidates, place + 1, scene => library.callNth invoke candidates place scene
end

/-- A call of a callback whose callables may make calls nested up to a depth. -/
def call (library : Library H) : (depth : Nat) → Invoker H
  | 0, callback, scene => library.callWith (fun _ _ => none) callback scene
  | depth + 1, callback, scene => library.callWith (library.call depth) callback scene

/-- The candidate at a place is called as it would be on its own. -/
theorem callNth_eq {library : Library H} {invoke : Invoker H}
    {candidates : List (Callback H.toVocabulary)} {place : Nat}
    {candidate : Callback H.toVocabulary} (found : candidates[place]? = some candidate)
    (scene : Scene H) :
    library.callNth invoke candidates place scene = library.callWith invoke candidate scene := by
  induction candidates generalizing place with
  | nil => simp at found
  | cons first candidates inductionHypothesis =>
      cases place with
      | zero =>
          simp only [List.getElem?_cons_zero, Option.some.injEq] at found
          subst found
          rw [callNth]
      | succ place =>
          rw [callNth]
          exact inductionHypothesis (by simpa using found)

/-- A router calls the candidate it chooses. -/
theorem callWith_router_of_select {library : Library H} {invoke : Invoker H} {id : ClosureId}
    {shape : Shape} {declared : Arity} {candidates : List (Callback H.toVocabulary)}
    {scene : Scene H} {place : Nat} {candidate : Callback H.toVocabulary}
    (chosen : library.select scene.frame candidates = .ok place)
    (found : candidates[place]? = some candidate) :
    library.callWith invoke (.router id shape declared candidates) scene =
      library.callWith invoke candidate scene := by
  rw [callWith, chosen]
  exact callNth_eq found scene

/-- A router that finds no candidate fails and changes nothing. -/
theorem callWith_router_of_mismatch {library : Library H} {invoke : Invoker H}
    {id : ClosureId} {shape : Shape} {declared : Arity}
    {candidates : List (Callback H.toVocabulary)} {scene : Scene H} {mismatch : Mismatch}
    (failed : library.select scene.frame candidates = .error mismatch) :
    library.callWith invoke (.router id shape declared candidates) scene =
      some (.error (.noCandidate mismatch), scene) := by
  rw [callWith, failed]

end Library

namespace Interpreter

/-- A call of a callback in an interpreter. -/
def call (interpreter : Interpreter H) (library : Library H) (depth : Nat)
    (callback : Callback H.toVocabulary) (arguments : List (Slot H)) (world : World H) :
    Option ((Except CallError (List (Slot H)) × Interpreter H) × World H) :=
  interpreter.callWith (library.call depth) callback arguments world

/-- The callback in a global slot, or why there is none. -/
def callable (interpreter : Interpreter H) (name : String) :
    Except CallError (Callback H.toVocabulary) :=
  match interpreter.global? name with
  | none => .error (.unknownGlobal name)
  | some (.function callback) => .ok callback
  | some other => .error (.notCallable name other.typeName)

/-- A call of the callback in a global slot. -/
def callGlobal (interpreter : Interpreter H) (library : Library H) (depth : Nat)
    (name : String) (arguments : List (Slot H)) (world : World H) :
    Option ((Except CallError (List (Slot H)) × Interpreter H) × World H) :=
  match interpreter.callable name with
  | .error error => some ((.error error, interpreter), world)
  | .ok callback => interpreter.call library depth callback arguments world

end Interpreter

end HostCall
