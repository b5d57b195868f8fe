import HostCall.Proofs.IdleReceivers
import HostCall.Proofs.ReceiverArgument

/-!
# The course of a call

A wrapped callable counts its arguments, reads its receiver and its parameters, and runs.  All
this happens before anything is pushed, so it takes the same course on a stack of any height: it
fails, or a body runs and leaves a result, a heap and a world (`Course`).  Only then the height
matters, since the stack must have room for the result (`Course.outcome`).

So the arguments of a call take part in two ways.  The course depends on what is read from them:
arguments from which a callable reads the same receiver and the same parameters, and whose number
the policy lets it take, have the same course (`Library.Reads.course_congr`).  And with more of
them the stack is taller: the outcome of a course is the same at every height, until the stack
overflows (`Course.outcome_of_le`).
-/

set_option autoImplicit false

namespace HostCall

variable {H : Host}

/-! ## Courses and their outcomes -/

/-- What a call does, whatever the height of the stack: it fails and changes nothing, or a body
runs.  A body that comes to an end leaves a result of a type, a heap and a world. -/
structure Course (H : Host) where
  type : ResultType
  ended : Except CallError (Option ((type.Val H × Heap H) × World H))

/-- What comes of the course in an interpreter whose stack the arguments have filled to a height:
its result is written, if there is room. -/
def Course.outcome (course : Course H) (interpreter : Interpreter H) (world : World H)
    (top : Nat) : Option ((Except CallError (List (Slot H)) × Interpreter H) × World H) :=
  if interpreter.policy.stackLimit < top then
    some ((.error (.stackOverflow top interpreter.policy.stackLimit), interpreter), world)
  else
    match course.ended with
    | .error error => some ((.error error, interpreter), world)
    | .ok ended => ended.map fun ((content, heap), reached) =>
        ((interpreter.policy.written top course.type content, { interpreter with heap }), reached)

/-- The call ended because the stack was at its limit. -/
def Overflows (called : Option ((Except CallError (List (Slot H)) × Interpreter H) × World H)) :
    Prop :=
  ∃ depth limit after reached,
    called = some ((.error (.stackOverflow depth limit), after), reached)

/-- A result written above a greater height is written as above a smaller one, unless the stack
overflows. -/
theorem Policy.written_of_le (policy : Policy) {low high : Nat} (le : low ≤ high)
    (type : ResultType) (content : type.Val H) :
    policy.written high type content = policy.written low type content ∨
      ∃ depth limit, policy.written high type content = .error (.stackOverflow depth limit) := by
  rw [Policy.written, Policy.written]
  cases type.encode content with
  | error text => exact .inl rfl
  | ok slots =>
      by_cases fits : high + slots.length ≤ policy.stackLimit
      · have fitsLow : low + slots.length ≤ policy.stackLimit := by omega
        exact .inl ((if_pos fits).trans (if_pos fitsLow).symm)
      · exact .inr ⟨_, _, if_neg fits⟩

/-- On a taller stack the same course has the same outcome, unless the stack overflows. -/
theorem Course.outcome_of_le (course : Course H) (interpreter : Interpreter H) (world : World H)
    {low high : Nat} (le : low ≤ high) :
    course.outcome interpreter world high = course.outcome interpreter world low ∨
      Overflows (course.outcome interpreter world high) := by
  by_cases crowded : interpreter.policy.stackLimit < high
  · exact .inr ⟨_, _, _, _, if_pos crowded⟩
  have roomy : ¬ interpreter.policy.stackLimit < low := by omega
  rw [Course.outcome, Course.outcome, if_neg crowded, if_neg roomy]
  cases course.ended with
  | error error => exact .inl rfl
  | ok ended =>
      cases ended with
      | none => exact .inl rfl
      | some left =>
          obtain ⟨⟨content, heap⟩, reached⟩ := left
          rcases interpreter.policy.written_of_le le course.type content with
            same | ⟨depth, limit, overflowed⟩
          · exact .inl (by simp only [Option.map_some, same])
          · exact .inr ⟨depth, limit, _, _, by simp only [Option.map_some, overflowed]; rfl⟩

/-! ## Courses of callables -/

/-- A free function reads its parameters and runs. -/
def FreeFunction.course (function : FreeFunction H) (handle : HostHandler H) (scene : Scene H) :
    Course H where
  type := function.result
  ended :=
    (scene.frame.prepare (.ofParameters function.parameters) function.parameters).map
      fun parameters => ((function.run parameters).run handle scene.world).map
        fun (content, reached) => ((content, scene.frame.heap), reached)

/-- A method reads its receiver and its parameters, runs, and leaves the receiver as it is
then. -/
def Method.course (method : Method H) (handle : HostHandler H) (scene : Scene H) : Course H where
  type := method.result
  ended :=
    (scene.frame.prepareMember ((Arity.ofParameters method.parameters).shift 1) method.receiver
      method.parameters).map
      fun (value, parameters) => (method.runBody handle value parameters scene.world).map
        fun ((content, changed), reached) =>
          ((content, (method.leave scene.frame changed).heap), reached)

/-- A method on a bound receiver reads its parameters, and then it borrows the receiver. -/
def Method.prepareBound (method : Method H) (receiver : FixedReceiver) (scene : Scene H) :
    Except CallError (Parameters H method.parameters × World.Loan H method.receiver × World H) := do
  let parameters ← scene.frame.prepare (.ofParameters method.parameters) method.parameters
  let lent ← scene.world.acquire receiver method.receiver method.access
  return (parameters, lent)

/-- A method on a bound receiver reads its parameters, borrows the receiver, runs, and gives the
receiver back. -/
def Method.boundCourse (method : Method H) (receiver : FixedReceiver) (handle : HostHandler H)
    (scene : Scene H) : Course H where
  type := method.result
  ended := (method.prepareBound receiver scene).map fun (parameters, loan, borrowed) =>
    (method.runBody handle loan.value parameters borrowed).map
      fun ((content, changed), after) =>
        ((content, scene.frame.heap), method.giveBack loan after changed)

theorem Method.callBound_eq_prepared (method : Method H) (receiver : FixedReceiver)
    (handle : HostHandler H) (scene : Scene H) :
    method.callBound receiver handle scene =
      match method.prepareBound receiver scene with
      | .error error => some (.error error, scene)
      | .ok (parameters, loan, borrowed) =>
          (method.runBody handle loan.value parameters borrowed).map
            fun ((content, changed), world) =>
              scene.frame.deliver (method.giveBack loan world changed) method.result content := by
  rw [callBound_eq, prepareBound]
  cases scene.frame.prepare (.ofParameters method.parameters) method.parameters with
  | error error => rfl
  | ok parameters =>
      dsimp only
      cases scene.world.acquire receiver method.receiver method.access <;> rfl

/-- A constructor reads its parameters, runs, and puts the object into the heap. -/
def Constructor.course (constructor : Constructor H) (handle : HostHandler H) (scene : Scene H) :
    Course H where
  type := .one (.value .object)
  ended :=
    (scene.frame.prepare (.ofParameters constructor.parameters) constructor.parameters).map
      fun parameters => ((constructor.run parameters).run handle scene.world).map
        fun (value, reached) =>
          let (heap, issued) := scene.frame.heap.allocate ⟨constructor.receiver, value⟩
          ((issued, heap), reached)

namespace Library

/-- The block reads parameters of these types, behind a number of arguments that hold its
receiver. -/
inductive Reads (library : Library H) : Block H.toVocabulary → Nat → List SlotType → Prop
  | function (name : H.Function) :
      library.Reads (.function name) 0 (library.function name).parameters
  | method (name : H.Method) : library.Reads (.method name) 1 (library.method name).parameters
  | boundMethod (name : H.Method) (receiver : FixedReceiver) :
      library.Reads (.boundMethod name receiver) 0 (library.method name).parameters
  | construct (name : H.Constructor) :
      library.Reads (.construct name) 0 (library.constructor name).parameters

/-- The course of a block that reads parameters; the others look at their arguments
themselves. -/
def course (library : Library H) (depth : Nat) (scene : Scene H) :
    Block H.toVocabulary → Option (Course H)
  | .function name => some ((library.function name).course (library.handler depth) scene)
  | .method name => some ((library.method name).course (library.handler depth) scene)
  | .boundMethod name receiver =>
      some ((library.method name).boundCourse receiver (library.handler depth) scene)
  | .construct name => some ((library.constructor name).course (library.handler depth) scene)
  | .field _ | .boundField _ _ | .custom _ _ => none

variable {library : Library H} {block : Block H.toVocabulary} {leading : Nat}
  {types : List SlotType}

namespace Reads

/-- A block that reads parameters declares as many as there are, and its receiver. -/
theorem blockArity_eq (reads : library.Reads block leading types) :
    library.blockArity block = (Arity.ofParameters types).shift leading := by
  cases reads <;> rfl

/-- A block that reads parameters has a course. -/
theorem exists_course (reads : library.Reads block leading types) (depth : Nat)
    (scene : Scene H) : ∃ course, library.course depth scene block = some course := by
  cases reads <;> exact ⟨_, rfl⟩

end Reads

end Library

namespace Interpreter

variable {library : Library H} {block : Block H.toVocabulary} {leading : Nat}
  {types : List SlotType} {depth : Nat} {interpreter : Interpreter H} {world : World H}
  {arguments : List (Slot H)}

/-- A block that checks and reads first, then runs a body, and then delivers its result is called
with the outcome of the course that these make. -/
theorem call_eq_outcome_of_prepared (id : ClosureId) {Prepared Ended : Type}
    (prepared : Except CallError Prepared) (body : Prepared → Option Ended)
    (left : Ended → Frame H) (reached : Ended → World H) {type : ResultType}
    (content : Ended → type.Val H)
    (refused : ∀ error, prepared = .error error →
      library.callBlock (library.nested depth) block ⟨interpreter.entry arguments, world⟩ =
        some (.error error, ⟨interpreter.entry arguments, world⟩))
    (ran : ∀ read, prepared = .ok read →
      library.callBlock (library.nested depth) block ⟨interpreter.entry arguments, world⟩ =
        (body read).map fun ended => (left ended).deliver (reached ended) type (content ended))
    (steps : ∀ ended, FrameRun (interpreter.entry arguments) [] (left ended)) :
    interpreter.call library depth (.closure id block) arguments world =
      Course.outcome ⟨type, prepared.map fun read => (body read).map fun ended =>
          ((content ended, (left ended).heap), reached ended)⟩
        interpreter world (interpreter.stack.size + arguments.length) := by
  rw [call_of_prepared id prepared body left reached content refused ran steps, Course.outcome]
  dsimp only
  split
  · rfl
  · cases prepared with
    | error error => rfl
    | ok read =>
        simp only [Except.map, Option.map_map]
        rfl

theorem call_function_eq_outcome (id : ClosureId) (name : H.Function) :
    interpreter.call library depth (.closure id (.function name)) arguments world =
      ((library.function name).course (library.handler depth)
        ⟨interpreter.entry arguments, world⟩).outcome interpreter world
          (interpreter.stack.size + arguments.length) := by
  have ran : library.callBlock (library.nested depth) (.function name)
        ⟨interpreter.entry arguments, world⟩ =
      (library.function name).call (library.handler depth)
        ⟨interpreter.entry arguments, world⟩ := rfl
  rw [FreeFunction.call] at ran
  refine call_eq_outcome_of_prepared id _ _ (fun _ => interpreter.entry arguments) Prod.snd
    Prod.fst (fun error read => ?_) (fun parameters read => ?_) (fun _ => .refl _)
  · rw [ran, read]
  · rw [ran, read]

theorem call_method_eq_outcome (id : ClosureId) (name : H.Method) :
    interpreter.call library depth (.closure id (.method name)) arguments world =
      ((library.method name).course (library.handler depth)
        ⟨interpreter.entry arguments, world⟩).outcome interpreter world
          (interpreter.stack.size + arguments.length) := by
  have ran : library.callBlock (library.nested depth) (.method name)
        ⟨interpreter.entry arguments, world⟩ =
      (library.method name).call (library.handler depth)
        ⟨interpreter.entry arguments, world⟩ := rfl
  rw [Method.call_eq] at ran
  refine call_eq_outcome_of_prepared id
    ((interpreter.entry arguments).prepareMember
      ((Arity.ofParameters (library.method name).parameters).shift 1)
      (library.method name).receiver (library.method name).parameters)
    (fun read => (library.method name).runBody (library.handler depth) read.1 read.2 world)
    (fun ended => (library.method name).leave (interpreter.entry arguments) ended.1.2) Prod.snd
    (fun ended => ended.1.1) (fun error read => ?_) (fun parameters read => ?_)
    (fun ended => (library.method name).run_leave _ ended.1.2)
  · rw [ran, read]
  · rw [ran, read]

theorem call_boundMethod_eq_outcome (id : ClosureId) (name : H.Method)
    (receiver : FixedReceiver) :
    interpreter.call library depth (.closure id (.boundMethod name receiver)) arguments world =
      ((library.method name).boundCourse receiver (library.handler depth)
        ⟨interpreter.entry arguments, world⟩).outcome interpreter world
          (interpreter.stack.size + arguments.length) := by
  have ran : library.callBlock (library.nested depth) (.boundMethod name receiver)
        ⟨interpreter.entry arguments, world⟩ =
      (library.method name).callBound receiver (library.handler depth)
        ⟨interpreter.entry arguments, world⟩ := rfl
  rw [Method.callBound_eq_prepared] at ran
  refine (call_eq_outcome_of_prepared id
    ((library.method name).prepareBound receiver ⟨interpreter.entry arguments, world⟩)
    (fun read => ((library.method name).runBody (library.handler depth) read.2.1.value read.1
      read.2.2).map fun ended =>
        (ended.1.1, (library.method name).giveBack read.2.1 ended.2 ended.1.2))
    (fun _ => interpreter.entry arguments) Prod.snd Prod.fst (fun error read => ?_)
    (fun parameters read => ?_) (fun _ => .refl _)).trans ?_
  · rw [ran, read]
  · rw [ran, read, Option.map_map]
    rfl
  · rw [Method.boundCourse]
    cases (library.method name).prepareBound receiver ⟨interpreter.entry arguments, world⟩ with
    | error error => rfl
    | ok read =>
        simp only [Except.map, Option.map_map]
        rfl

theorem call_construct_eq_outcome (id : ClosureId) (name : H.Constructor) :
    interpreter.call library depth (.closure id (.construct name)) arguments world =
      ((library.constructor name).course (library.handler depth)
        ⟨interpreter.entry arguments, world⟩).outcome interpreter world
          (interpreter.stack.size + arguments.length) := by
  have ran : library.callBlock (library.nested depth) (.construct name)
        ⟨interpreter.entry arguments, world⟩ =
      (library.constructor name).call (library.handler depth)
        ⟨interpreter.entry arguments, world⟩ := rfl
  rw [Constructor.call] at ran
  refine call_eq_outcome_of_prepared id _ _
    (fun ended => { interpreter.entry arguments with
      heap := (interpreter.heap.allocate ⟨(library.constructor name).receiver, ended.1⟩).1 })
    Prod.snd (fun ended => show ResultType.Val H (.one (.value .object)) from
      (interpreter.heap.allocate ⟨(library.constructor name).receiver, ended.1⟩).2)
    (fun error read => ?_) (fun parameters read => ?_)
    (fun ended => (FrameStep.allocate (interpreter.entry arguments) _).run)
  · rw [ran, read]
  · rw [ran, read]
    rfl

/-- A call of a block that reads parameters is the outcome of its course. -/
theorem call_eq_outcome {course : Course H} (id : ClosureId)
    (found : library.course depth ⟨interpreter.entry arguments, world⟩ block = some course) :
    interpreter.call library depth (.closure id block) arguments world =
      course.outcome interpreter world (interpreter.stack.size + arguments.length) := by
  cases block with
  | function name =>
      cases found
      exact call_function_eq_outcome id name
  | method name =>
      cases found
      exact call_method_eq_outcome id name
  | boundMethod name receiver =>
      cases found
      exact call_boundMethod_eq_outcome id name receiver
  | construct name =>
      cases found
      exact call_construct_eq_outcome id name
  | field name => cases found
  | boundField name receiver => cases found
  | custom label name => cases found

/-! ## Arguments from which the same is read -/

/-- The parameters behind the receiver are read from the arguments behind its slot. -/
theorem extract_entry_drop (interpreter : Interpreter H) {arguments : List (Slot H)}
    (enough : (Arity.ofParameters types).least + leading ≤ arguments.length) :
    Parameters.extract (interpreter.entry arguments) types leading =
      (Parameters.decode types (arguments.drop leading)).mapError .conversion := by
  have behind : (Arity.ofParameters types).least ≤ (arguments.drop leading).length := by
    rw [List.length_drop]
    omega
  have extracted := interpreter.extract_entry (arguments.take leading) behind
  rw [List.take_append_drop, List.length_take_of_le (by omega)] at extracted
  exact extracted

theorem receiverSlot_entry_congr (interpreter : Interpreter H) {left right : List (Slot H)}
    (front : left.take 1 = right.take 1) :
    (interpreter.entry left).receiverSlot = (interpreter.entry right).receiverSlot := by
  have first : left[0]? = right[0]? := by
    rw [← List.getElem?_take_of_lt Nat.one_pos, front, List.getElem?_take_of_lt Nat.one_pos]
  rw [Frame.receiverSlot, Frame.receiverSlot, argument?_entry, argument?_entry, first]

/-- The receiver is the same where the first argument is. -/
theorem receiver_entry_congr (interpreter : Interpreter H) {left right : List (Slot H)}
    (front : left.take 1 = right.take 1) (type : H.Receiver) :
    (interpreter.entry left).receiver type = (interpreter.entry right).receiver type := by
  rw [Frame.receiver, Frame.receiver, interpreter.receiverSlot_entry_congr front]
  rfl

/-- A frame is prepared for a callable without a receiver as the parameters are read from all of
its arguments. -/
theorem prepare_of_takes
    (taken : interpreter.policy.takes (.ofParameters types) arguments.length = true) :
    (interpreter.entry arguments).prepare (.ofParameters types) types =
      (Parameters.decode types arguments).mapError .conversion := by
  rw [prepare_entry, Parameters.read]
  exact if_pos taken

/-- A frame is prepared for a callable with a receiver as the parameters are read from the
arguments behind it. -/
theorem prepareMember_of_takes (receiver : H.Receiver)
    (taken : interpreter.policy.takes ((Arity.ofParameters types).shift 1) arguments.length =
      true) :
    (interpreter.entry arguments).prepareMember ((Arity.ofParameters types).shift 1) receiver
        types =
      match (interpreter.entry arguments).receiver receiver with
      | .error error => .error error
      | .ok value =>
          ((Parameters.decode types (arguments.drop 1)).mapError .conversion).map (value, ·) := by
  have counted : (interpreter.entry arguments).checkCount ((Arity.ofParameters types).shift 1) =
      .ok () := by
    rw [Frame.checkCount, takesCount_entry, if_pos taken]
  have extracted := interpreter.extract_entry_drop (Policy.least_le_of_takes taken)
  cases found : (interpreter.entry arguments).receiver receiver with
  | error error => simp only [Frame.prepareMember, counted, found]
  | ok value => simp only [Frame.prepareMember, counted, found, extracted]

end Interpreter

/-- Frames with the same receiver and the same heap are left with the same heap. -/
theorem Method.heap_leave_congr (method : Method H) {first second : Frame H}
    (slot : first.receiverSlot = second.receiverSlot) (heap : first.heap = second.heap)
    (changed : H.Value method.receiver) :
    (method.leave first changed).heap = (method.leave second changed).heap := by
  rw [leave, leave]
  cases method.access with
  | shared => exact heap
  | exclusive =>
      simp only [Frame.putReceiver, Frame.setReceiver_eq, slot, heap]
      cases second.receiverSlot with
      | error error => exact heap
      | ok receiver =>
          cases receiver with
          | native object =>
              dsimp only
              cases object.as? method.receiver <;> exact heap
          | object handle =>
              dsimp only
              cases second.heap.set handle method.receiver changed with
              | error error => exact heap
              | ok written => rfl
          | _ => exact heap

/-- Arguments from which a block reads the same receiver and the same parameters, and whose numbers
the policy lets it take, have the same course. -/
theorem Library.Reads.course_congr {library : Library H} {block : Block H.toVocabulary}
    {leading : Nat} {types : List SlotType} (reads : library.Reads block leading types)
    (interpreter : Interpreter H) {left right : List (Slot H)}
    (leftTaken : interpreter.policy.takes (library.blockArity block) left.length = true)
    (rightTaken : interpreter.policy.takes (library.blockArity block) right.length = true)
    (front : left.take leading = right.take leading)
    (decoded : Parameters.decode types (left.drop leading) =
      (Parameters.decode types (right.drop leading) : Except _ (Parameters H types)))
    (depth : Nat) (world : World H) :
    library.course depth ⟨interpreter.entry left, world⟩ block =
      library.course depth ⟨interpreter.entry right, world⟩ block := by
  have prepared (same : library.blockArity block = .ofParameters types) (none : leading = 0) :
      (interpreter.entry left).prepare (.ofParameters types) types =
        (interpreter.entry right).prepare (.ofParameters types) types := by
    subst none
    rw [same] at leftTaken rightTaken
    rw [List.drop_zero, List.drop_zero] at decoded
    rw [Interpreter.prepare_of_takes leftTaken, Interpreter.prepare_of_takes rightTaken, decoded]
  cases reads with
  | function name =>
      simp only [course, FreeFunction.course, prepared rfl rfl]
      rfl
  | method name =>
      have slot := interpreter.receiverSlot_entry_congr front
      have found := interpreter.receiver_entry_congr front (library.method name).receiver
      have leftRead := Interpreter.prepareMember_of_takes (library.method name).receiver leftTaken
      have rightRead := Interpreter.prepareMember_of_takes (library.method name).receiver rightTaken
      rw [found, decoded, ← rightRead] at leftRead
      simp only [course, Method.course, leftRead, Method.heap_leave_congr _ slot rfl]
  | boundMethod name receiver =>
      simp only [course, Method.boundCourse, Method.prepareBound, prepared rfl rfl]
      rfl
  | construct name =>
      simp only [course, Constructor.course, prepared rfl rfl]
      rfl

end HostCall
