import HostCall.Proofs.CallCourse
import HostCall.Proofs.Filter
import HostCall.Proofs.ResultPushing
import HostCall.Proofs.SharedCells

/-!
# The answers of callables

A wrapped callable looks at its arguments and fails, or its body comes to an answer: a value of its
result type, and the scene that the body leaves (`Library.answer`).  Only then something is pushed,
and it is the answer and nothing else (`Library.callBlock_eq_conclude`).  A router has the answer of
the candidate that it calls (`Library.Answered`).

So whatever is called, behind any number of routers, reports as many results as it has pushed, and
these are the slots of its answer.  A call in an interpreter hands out all of them or none, and it
never finds that more were reported than pushed (`resultPushing_exact`).
-/

set_option autoImplicit false

namespace HostCall

variable {H : Host}

/-! ## Answers -/

/-- What the body of a callable comes to: a value of a result type, and the scene that it leaves
when nothing of the value is pushed yet. -/
structure Answer (H : Host) where
  type : ResultType
  content : type.Val H
  left : Scene H

/-- The value of an answer is pushed on the frame that the body left. -/
def Answer.deliver (answer : Answer H) : Except CallError Nat × Scene H :=
  answer.left.frame.deliver answer.left.world answer.type answer.content

/-- A call that is refused changes nothing; another one delivers its answer. -/
def Scene.conclude (scene : Scene H) : Except CallError (Answer H) → Except CallError Nat × Scene H
  | .error error => (.error error, scene)
  | .ok answer => answer.deliver

/-- A free function answers with what its body returns. -/
def FreeFunction.answer (function : FreeFunction H) (handle : HostHandler H) (scene : Scene H) :
    Option (Except CallError (Answer H)) :=
  match scene.frame.prepare (.ofParameters function.parameters) function.parameters with
  | .error error => some (.error error)
  | .ok parameters =>
      ((function.run parameters).run handle scene.world).map fun (content, world) =>
        .ok ⟨function.result, content, { scene with world }⟩

/-- So does a method, and it leaves the receiver as it is then. -/
def Method.answer (method : Method H) (handle : HostHandler H) (scene : Scene H) :
    Option (Except CallError (Answer H)) :=
  match scene.frame.prepareMember ((Arity.ofParameters method.parameters).shift 1) method.receiver
      method.parameters with
  | .error error => some (.error error)
  | .ok (value, parameters) =>
      (method.runBody handle value parameters scene.world).map fun ((content, changed), world) =>
        .ok ⟨method.result, content, ⟨method.leave scene.frame changed, world⟩⟩

/-- So does a method on a bound receiver, which it gives back. -/
def Method.boundAnswer (method : Method H) (receiver : FixedReceiver) (handle : HostHandler H)
    (scene : Scene H) : Option (Except CallError (Answer H)) :=
  match method.prepareBound receiver scene with
  | .error error => some (.error error)
  | .ok (parameters, loan, borrowed) =>
      (method.runBody handle loan.value parameters borrowed).map
        fun ((content, changed), world) =>
          .ok ⟨method.result, content, { scene with world := method.giveBack loan world changed }⟩

/-- A field answers with its value when it is read, and with nothing when it is written. -/
def Field.answer (field : Field H) (scene : Scene H) : Except CallError (Answer H) :=
  match scene.frame.argumentCount with
  | 1 => do
      let value ← scene.frame.receiver field.receiver
      return ⟨.one (.value field.type), field.get value, scene⟩
  | 2 => do
      let value ← scene.frame.receiver field.receiver
      let content ← scene.frame.argument field.type 1
      return ⟨.unit, (), { scene with
        frame := scene.frame.putReceiver field.receiver (field.set content value) }⟩
  | count => .error (.noCandidate ⟨count, [.exact 1, .exact 2], []⟩)

/-- So does a field of a bound receiver. -/
def Field.boundAnswer (field : Field H) (receiver : FixedReceiver) (scene : Scene H) :
    Except CallError (Answer H) :=
  match scene.frame.argumentCount with
  | 0 => do
      let (loan, borrowed) ← scene.world.acquire receiver field.receiver .shared
      return ⟨.one (.value field.type), field.get loan.value, { scene with
        world := borrowed.release loan }⟩
  | 1 => do
      let content ← scene.frame.argument field.type 0
      let (loan, borrowed) ← scene.world.acquire receiver field.receiver .exclusive
      return ⟨.unit, (), { scene with
        world := borrowed.releaseWith loan (field.set content loan.value) }⟩
  | count => .error (.noCandidate ⟨count, [.exact 0, .exact 1], []⟩)

/-- A constructor answers with the handle of the object that it has put into the heap. -/
def Constructor.answer (constructor : Constructor H) (handle : HostHandler H) (scene : Scene H) :
    Option (Except CallError (Answer H)) :=
  match scene.frame.prepare (.ofParameters constructor.parameters) constructor.parameters with
  | .error error => some (.error error)
  | .ok parameters =>
      ((constructor.run parameters).run handle scene.world).map fun (value, world) =>
        let (heap, issued) := scene.frame.heap.allocate ⟨constructor.receiver, value⟩
        .ok ⟨.one (.value .object), issued, ⟨{ scene.frame with heap }, world⟩⟩

namespace Library

/-- The answer of a block, or why it has none; a custom callable pushes what it likes. -/
def answer (library : Library H) (invoke : Invoker H) (scene : Scene H)
    (block : Block H.toVocabulary) : Option (Except CallError (Answer H)) :=
  let handle := HostOperation.run library invoke
  match block with
  | .function name => (library.function name).answer handle scene
  | .method name => (library.method name).answer handle scene
  | .boundMethod name receiver => (library.method name).boundAnswer receiver handle scene
  | .field name => some ((library.field name).answer scene)
  | .boundField name receiver => some ((library.field name).boundAnswer receiver scene)
  | .construct name => (library.constructor name).answer handle scene
  | .custom _ _ => none

/-- A wrapped callable has the answer of its block, and a router that of the candidate that it
calls. -/
inductive Answered (library : Library H) (invoke : Invoker H) (scene : Scene H) :
    Callback H.toVocabulary → Answer H → Prop
  | closure (id : ClosureId) {block : Block H.toVocabulary} {answer : Answer H}
      (given : library.answer invoke scene block = some (.ok answer)) :
      Answered library invoke scene (.closure id block) answer
  | router (id : ClosureId) (shape : Shape) (declared : Arity)
      {candidates : List (Callback H.toVocabulary)} {candidate : Callback H.toVocabulary}
      {place : Nat} {answer : Answer H}
      (chosen : library.select scene.frame candidates = .ok place)
      (atPlace : candidates[place]? = some candidate)
      (given : Answered library invoke scene candidate answer) :
      Answered library invoke scene (.router id shape declared candidates) answer

end Library

/-! ## A call is its answer, delivered -/

section Concluded

variable {handle : HostHandler H} {scene : Scene H}

theorem FreeFunction.call_eq_conclude (function : FreeFunction H) :
    function.call handle scene = (function.answer handle scene).map scene.conclude := by
  rw [call, answer]
  cases scene.frame.prepare (.ofParameters function.parameters) function.parameters with
  | error error => rfl
  | ok parameters =>
      rw [Option.map_map]
      rfl

theorem Constructor.call_eq_conclude (constructor : Constructor H) :
    constructor.call handle scene = (constructor.answer handle scene).map scene.conclude := by
  rw [call, answer]
  cases scene.frame.prepare (.ofParameters constructor.parameters) constructor.parameters with
  | error error => rfl
  | ok parameters =>
      rw [Option.map_map]
      rfl

theorem Method.call_eq_conclude (method : Method H) :
    method.call handle scene = (method.answer handle scene).map scene.conclude := by
  rw [call_eq, answer]
  cases scene.frame.prepareMember ((Arity.ofParameters method.parameters).shift 1)
      method.receiver method.parameters with
  | error error => rfl
  | ok read =>
      rw [Option.map_map]
      rfl

theorem Method.callBound_eq_conclude (method : Method H) (receiver : FixedReceiver) :
    method.callBound receiver handle scene =
      (method.boundAnswer receiver handle scene).map scene.conclude := by
  rw [callBound_eq_prepared, boundAnswer]
  cases method.prepareBound receiver scene with
  | error error => rfl
  | ok read =>
      rw [Option.map_map]
      rfl

theorem Field.call_eq_conclude (field : Field H) :
    field.call scene = scene.conclude (field.answer scene) := by
  rw [call, answer]
  generalize scene.frame.argumentCount = count
  rcases count with _ | _ | _ | count
  · rfl
  · cases scene.frame.receiver field.receiver <;> rfl
  · cases read : scene.frame.receiver field.receiver with
    | error error => rfl
    | ok value =>
        rw [Frame.receiverMut_of_receiver read]
        cases scene.frame.argument field.type 1 <;> rfl
  · rfl

theorem Field.callBound_eq_conclude (field : Field H) (receiver : FixedReceiver) :
    field.callBound receiver scene = scene.conclude (field.boundAnswer receiver scene) := by
  rw [callBound, boundAnswer]
  generalize scene.frame.argumentCount = count
  rcases count with _ | _ | count
  · cases scene.world.acquire receiver field.receiver .shared <;> rfl
  · cases scene.frame.argument field.type 0 with
    | error error => rfl
    | ok content => cases scene.world.acquire receiver field.receiver .exclusive <;> rfl
  · rfl

/-! ## Nothing is pushed before an answer -/

variable {answer : Answer H}

theorem FreeFunction.run_of_answer {function : FreeFunction H}
    (given : function.answer handle scene = some (.ok answer)) :
    FrameRun scene.frame [] answer.left.frame := by
  rw [FreeFunction.answer] at given
  split at given
  · cases given
  · obtain ⟨_, _, same⟩ := Option.map_eq_some_iff.mp given
    cases same
    exact .refl _

theorem Constructor.run_of_answer {constructor : Constructor H}
    (given : constructor.answer handle scene = some (.ok answer)) :
    FrameRun scene.frame [] answer.left.frame := by
  rw [Constructor.answer] at given
  split at given
  · cases given
  · obtain ⟨_, _, same⟩ := Option.map_eq_some_iff.mp given
    cases same
    exact (FrameStep.allocate scene.frame _).run

theorem Method.run_of_answer {method : Method H}
    (given : method.answer handle scene = some (.ok answer)) :
    FrameRun scene.frame [] answer.left.frame := by
  rw [Method.answer] at given
  split at given
  · cases given
  · obtain ⟨⟨⟨_, changed⟩, _⟩, _, same⟩ := Option.map_eq_some_iff.mp given
    cases same
    exact method.run_leave scene.frame changed

theorem Method.run_of_boundAnswer {method : Method H} {receiver : FixedReceiver}
    (given : method.boundAnswer receiver handle scene = some (.ok answer)) :
    FrameRun scene.frame [] answer.left.frame := by
  rw [Method.boundAnswer] at given
  split at given
  · cases given
  · obtain ⟨_, _, same⟩ := Option.map_eq_some_iff.mp given
    cases same
    exact .refl _

theorem Frame.run_putReceiver (frame : Frame H) (type : H.Receiver) (value : H.Value type) :
    FrameRun frame [] (frame.putReceiver type value) := by
  rw [putReceiver]
  cases written : frame.setReceiver type value with
  | error error => exact .refl frame
  | ok next => exact (FrameStep.setReceiver type value written).run

/-- Of two steps that succeed together, the first succeeds, and the second with what it gave. -/
theorem exists_ok_of_bind {α β : Type} {first : Except CallError α}
    {second : α → Except CallError β} {value : β} (both : first >>= second = .ok value) :
    ∃ between, first = .ok between ∧ second between = .ok value := by
  cases first with
  | error error => cases both
  | ok between => exact ⟨between, rfl, both⟩

theorem Field.run_of_answer {field : Field H} (given : field.answer scene = .ok answer) :
    FrameRun scene.frame [] answer.left.frame := by
  rw [Field.answer] at given
  split at given
  · obtain ⟨value, -, returned⟩ := exists_ok_of_bind given
    cases returned
    exact .refl _
  · obtain ⟨value, -, given⟩ := exists_ok_of_bind given
    obtain ⟨content, -, returned⟩ := exists_ok_of_bind given
    cases returned
    exact scene.frame.run_putReceiver _ _
  · cases given

theorem Field.run_of_boundAnswer {field : Field H} {receiver : FixedReceiver}
    (given : field.boundAnswer receiver scene = .ok answer) :
    FrameRun scene.frame [] answer.left.frame := by
  rw [Field.boundAnswer] at given
  split at given
  · obtain ⟨lent, -, returned⟩ := exists_ok_of_bind given
    cases returned
    exact .refl _
  · obtain ⟨content, -, given⟩ := exists_ok_of_bind given
    obtain ⟨lent, -, returned⟩ := exists_ok_of_bind given
    cases returned
    exact .refl _
  · cases given

end Concluded

namespace Library

variable {library : Library H} {invoke : Invoker H} {scene : Scene H}

/-- A call of a wrapped block ends with its answer, delivered, or is refused. -/
theorem callBlock_eq_conclude {block : Block H.toVocabulary} (wrapped : block.isWrapped = true) :
    library.callBlock invoke block scene =
      (library.answer invoke scene block).map scene.conclude := by
  cases block with
  | function name => exact (library.function name).call_eq_conclude
  | method name => exact (library.method name).call_eq_conclude
  | boundMethod name receiver => exact (library.method name).callBound_eq_conclude receiver
  | field name => exact congrArg some (library.field name).call_eq_conclude
  | boundField name receiver =>
      exact congrArg some ((library.field name).callBound_eq_conclude receiver)
  | construct name => exact (library.constructor name).call_eq_conclude
  | custom label name => cases wrapped

/-- Only wrapped blocks have answers. -/
theorem isWrapped_of_answer {block : Block H.toVocabulary} {given : Except CallError (Answer H)}
    (answered : library.answer invoke scene block = some given) : block.isWrapped = true := by
  cases block with
  | custom label name => cases answered
  | _ => rfl

theorem Answered.callWith_eq {callback : Callback H.toVocabulary} {answer : Answer H}
    (answered : library.Answered invoke scene callback answer) :
    library.callWith invoke callback scene = some answer.deliver := by
  induction answered with
  | closure id given =>
      rw [callWith, callBlock_eq_conclude (isWrapped_of_answer given), given]
      rfl
  | router id shape declared chosen atPlace _ ih =>
      rw [callWith_router_of_select chosen atPlace]
      exact ih

/-- A call of a wrapped callback is refused and changes nothing, or it ends with its answer. -/
theorem Wrapped.refused_or_answered {callback : Callback H.toVocabulary}
    (wrapped : library.Wrapped callback) {result : Except CallError Nat × Scene H}
    (called : library.callWith invoke callback scene = some result) :
    (∃ error, result = (.error error, scene)) ∨
      ∃ answer, library.Answered invoke scene callback answer ∧ result = answer.deliver := by
  induction wrapped with
  | closure id wrapped =>
      rw [callWith, callBlock_eq_conclude wrapped] at called
      obtain ⟨given, answered, rfl⟩ := Option.map_eq_some_iff.mp called
      cases given with
      | error error => exact .inl ⟨error, rfl⟩
      | ok answer => exact .inr ⟨answer, .closure id answered, rfl⟩
  | @router id shape candidates each ih =>
      cases found : candidates.find? (library.takes scene.frame) with
      | none =>
          obtain ⟨mismatch, failed, -⟩ := select_of_find?_eq_none found
          rw [callWith_router_of_mismatch failed] at called
          cases called
          exact .inl ⟨_, rfl⟩
      | some candidate =>
          obtain ⟨place, chosen, atPlace⟩ := select_of_find?_eq_some found
          rw [callWith_router_of_select chosen atPlace] at called
          rcases ih candidate (List.mem_of_find?_eq_some found) called with
            refused | ⟨answer, answered, ended⟩
          · exact .inl refused
          · exact .inr ⟨answer, .router id shape _ chosen atPlace answered, ended⟩

/-! ## What is pushed -/

/-- The body of a callable pushes nothing before its answer is there. -/
theorem run_of_answer {block : Block H.toVocabulary} {answer : Answer H}
    (given : library.answer invoke scene block = some (.ok answer)) :
    FrameRun scene.frame [] answer.left.frame := by
  cases block with
  | function name => exact FreeFunction.run_of_answer given
  | method name => exact Method.run_of_answer given
  | boundMethod name receiver => exact Method.run_of_boundAnswer given
  | field name => exact Field.run_of_answer (Option.some.inj given)
  | boundField name receiver => exact Field.run_of_boundAnswer (Option.some.inj given)
  | construct name => exact Constructor.run_of_answer given
  | custom label name => cases given

theorem Answered.run {callback : Callback H.toVocabulary} {answer : Answer H}
    (answered : library.Answered invoke scene callback answer) :
    FrameRun scene.frame [] answer.left.frame := by
  induction answered with
  | closure id given => exact run_of_answer given
  | router id shape declared chosen atPlace _ ih => exact ih

/-- What is reported is the number of slots of the answer, and these are what was pushed. -/
theorem Answered.pushedSlots_eq {callback : Callback H.toVocabulary} {answer : Answer H}
    (answered : library.Answered invoke scene callback answer) {count : Nat} {after : Scene H}
    (delivered : answer.deliver = (.ok count, after)) :
    ∃ slots, answer.type.encode answer.content = .ok slots ∧ slots.length = count ∧
      after.frame.pushedSlots = scene.frame.pushedSlots ++ slots := by
  have kept := answered.run.pushedSlots_eq
  rw [List.append_nil] at kept
  rw [Answer.deliver, Frame.deliver, Frame.pushResult_eq] at delivered
  cases encoded : answer.type.encode answer.content with
  | error text =>
      rw [encoded] at delivered
      cases delivered
  | ok slots =>
      rw [encoded] at delivered
      dsimp only at delivered
      split at delivered
      · cases delivered
        refine ⟨slots, rfl, rfl, ?_⟩
        rw [Frame.pushedSlots_extend, kept]
      · cases delivered

/-! ## How calls fail -/

/-- What a wrapped callback fails with is blamed on its arguments, or comes after them. -/
theorem Wrapped.error_cases {callback : Callback H.toVocabulary}
    (wrapped : library.Wrapped callback) {error : CallError} {after : Scene H}
    (failed : library.callWith invoke callback scene = some (.error error, after)) :
    error.blamesArguments = true ∨ error.comesLater = true := by
  induction wrapped with
  | @closure id block wrapped =>
      cases decided : firstFailure scene (library.checks scene.frame.argumentCount block) with
      | some first =>
          rw [(failsBeforeBody_closure decided id).callWith_eq] at failed
          cases failed
          obtain ⟨check, _, failure⟩ := List.exists_of_findSome?_eq_some decided
          cases asks : check.asksArguments with
          | true => exact .inl (Check.blamesArguments_of_failure asks failure)
          | false => exact .inr (Check.comesLater_of_failure asks failure)
      | none =>
          have runs := runsBody_closure decided id invoke
          rw [failed] at runs
          exact .inr (comesLater_of_bodyEnd (bodyEnd_of_runsBody wrapped runs) rfl)
  | @router id shape candidates each ih =>
      cases found : candidates.find? (library.takes scene.frame) with
      | none =>
          obtain ⟨mismatch, mismatched, -⟩ := select_of_find?_eq_none found
          rw [callWith_router_of_mismatch mismatched] at failed
          cases failed
          exact .inl rfl
      | some candidate =>
          rw [callWith_router_of_find?_eq_some found] at failed
          exact ih candidate (List.mem_of_find?_eq_some found) failed

end Library

/-- A result is written exactly if it did not fail and there is room for its slots. -/
theorem Policy.written_eq_ok_iff {policy : Policy} {height : Nat} {type : ResultType}
    {content : type.Val H} {results : List (Slot H)} :
    policy.written height type content = .ok results ↔
      type.encode content = .ok results ∧ height + results.length ≤ policy.stackLimit := by
  rw [Policy.written]
  cases type.encode content with
  | error text => simp
  | ok slots =>
      by_cases fits : height + slots.length ≤ policy.stackLimit
      · simp only [if_pos fits, Except.ok.injEq]
        constructor
        · rintro rfl
          exact ⟨rfl, fits⟩
        · exact And.left
      · simp only [if_neg fits, Except.ok.injEq, reduceCtorEq, false_iff, not_and]
        rintro rfl
        exact fits

theorem Policy.written_ne_overclaim (policy : Policy) (height : Nat) (type : ResultType)
    (content : type.Val H) (reported pushed : Nat) :
    policy.written height type content ≠ .error (.overclaim reported pushed) := by
  rw [Policy.written]
  split
  · simp
  · split <;> simp

namespace Interpreter

variable {library : Library H} {interpreter : Interpreter H} {depth : Nat}
  {callback : Callback H.toVocabulary} {arguments : List (Slot H)} {world : World H}

/-- A call with an answer hands out the slots that it is written to, and keeps what it left. -/
theorem call_of_answered (fits : interpreter.Fits arguments) {answer : Answer H}
    (answered : library.Answered (library.nested depth) ⟨interpreter.entry arguments, world⟩
      callback answer) :
    interpreter.call library depth callback arguments world =
      some ((interpreter.policy.written (interpreter.stack.size + arguments.length) answer.type
        answer.content, { interpreter with heap := answer.left.frame.heap }),
          answer.left.world) := by
  refine callWith_of_deliver fits answered.run ?_
  rw [Library.call_eq_callWith_nested]
  exact answered.callWith_eq

/-- A call of a wrapped callback that ends is refused or has an answer. -/
theorem refused_or_answered (wrapped : library.Wrapped callback)
    {outcome : Except CallError (List (Slot H))} {after : Interpreter H} {reached : World H}
    (called : interpreter.call library depth callback arguments world =
      some ((outcome, after), reached)) :
    (∃ error, outcome = .error error ∧ (∀ reported pushed, error ≠ .overclaim reported pushed) ∧
        after = interpreter ∧ reached = world) ∨
      ∃ answer, library.Answered (library.nested depth) ⟨interpreter.entry arguments, world⟩
          callback answer ∧
        interpreter.call library depth callback arguments world =
          some ((interpreter.policy.written (interpreter.stack.size + arguments.length)
            answer.type answer.content, { interpreter with heap := answer.left.frame.heap }),
              answer.left.world) := by
  by_cases fits : interpreter.Fits arguments
  · cases ran : library.call depth callback ⟨interpreter.entry arguments, world⟩ with
    | none =>
        rw [call, callWith_of_none fits ran] at called
        cases called
    | some result =>
        have concluded := ran
        rw [Library.call_eq_callWith_nested] at concluded
        rcases wrapped.refused_or_answered concluded with ⟨error, rfl⟩ | ⟨answer, answered, -⟩
        · rw [call, callWith_of_error fits ran] at called
          cases called
          refine .inl ⟨error, rfl, ?_, rfl, rfl⟩
          rintro reported pushed rfl
          rcases wrapped.error_cases concluded with blamed | later
          · cases blamed
          · cases later
        · exact .inr ⟨answer, answered, call_of_answered fits answered⟩
  · rw [call, callWith_of_not_fits fits] at called
    cases called
    refine .inl ⟨_, rfl, ?_, rfl, rfl⟩
    intro reported pushed same
    cases same

end Interpreter

/-! ## Results are pushed exactly -/

/-- **Pushing a result is exact.**  A result with a failure in it is pushed as no slot at all, and
fails with the text of that failure.  Any other is written to slots by its shape, as many as its
type says, and all of them are pushed, or exactly as many of the first as there is room for.

So take any callable that is wrapped, behind any number of routers.

* A call of it that succeeds reports as many results as it pushed, and they are the slots of its
  answer.
* Where it has an answer, a call in an interpreter hands out what that is written to.
* A call in an interpreter restores the stack, never finds that more results were reported than
  pushed, and hands out nothing but all the slots of an answer. -/
theorem resultPushing_exact {library : Library H} {callback : Callback H.toVocabulary}
    (wrapped : library.Wrapped callback) :
    (∀ (frame : Frame H) (type : ResultType) (content : type.Val H),
      match type.failure? content with
      | some text => frame.pushResult type content = (.error (.raised text), frame)
      | none => ∃ slots, type.WrittenTo content slots ∧ slots.length = type.width ∧
          frame.pushResult type content =
            if slots.length ≤ frame.room then (.ok slots.length, frame.extend slots)
            else (.error frame.overflow, frame.extend (slots.take frame.room))) ∧
    (∀ (invoke : Invoker H) (scene after : Scene H) (count : Nat),
      library.callWith invoke callback scene = some (.ok count, after) →
        ∃ answer slots, library.Answered invoke scene callback answer ∧
          answer.type.WrittenTo answer.content slots ∧ slots.length = count ∧
          after.frame.pushedSlots = scene.frame.pushedSlots ++ slots) ∧
    (∀ (interpreter : Interpreter H) (depth : Nat) (arguments : List (Slot H)) (world : World H),
      let call := interpreter.call library depth callback arguments world
      let top := interpreter.stack.size + arguments.length
      let answered :=
        library.Answered (library.nested depth) ⟨interpreter.entry arguments, world⟩ callback
      (∀ answer, interpreter.Fits arguments → answered answer →
        call = some ((interpreter.policy.written top answer.type answer.content,
          { interpreter with heap := answer.left.frame.heap }), answer.left.world)) ∧
      ∀ outcome after reached, call = some ((outcome, after), reached) →
        after.stack = interpreter.stack ∧
        (∀ reported pushed, outcome ≠ .error (.overclaim reported pushed)) ∧
        ∀ results, outcome = .ok results →
          ∃ answer, answered answer ∧ answer.type.WrittenTo answer.content results) := by
  refine ⟨fun frame type content => ?_, fun invoke scene after count succeeded => ?_,
    fun interpreter depth arguments world => ⟨fun answer fits answered =>
      Interpreter.call_of_answered fits answered, fun outcome after reached called => ?_⟩⟩
  · rw [Frame.pushResult_eq]
    cases encoded : type.encode content with
    | error text => rw [ResultType.encode_eq_error_iff.mp encoded]
    | ok slots =>
        have sound : type.failure? content = none := by
          cases failed : type.failure? content with
          | none => rfl
          | some text =>
              rw [ResultType.encode_eq_error_iff.mpr failed] at encoded
              cases encoded
        rw [sound]
        have written := ResultType.encode_eq_ok_iff.mp encoded
        exact ⟨slots, written, written.length, rfl⟩
  · rcases wrapped.refused_or_answered succeeded with ⟨error, refused⟩ | ⟨answer, answered, ended⟩
    · cases refused
    · obtain ⟨slots, encoded, counted, pushed⟩ := answered.pushedSlots_eq ended.symm
      exact ⟨answer, slots, answered, ResultType.encode_eq_ok_iff.mp encoded, counted, pushed⟩
  · have restored := Interpreter.stack_of_call called
    refine ⟨restored, ?_⟩
    rcases Interpreter.refused_or_answered wrapped called with
      ⟨error, rfl, other, -, -⟩ | ⟨answer, answered, given⟩
    · refine ⟨fun reported pushed same => other reported pushed (Except.error.inj same), ?_⟩
      intro results succeeded
      cases succeeded
    · cases called.symm.trans given
      refine ⟨Policy.written_ne_overclaim _ _ _ _, fun results succeeded => ?_⟩
      have encoded := (Policy.written_eq_ok_iff.mp succeeded).1
      exact ⟨answer, answered, ResultType.encode_eq_ok_iff.mp encoded⟩

namespace Sample

/-- A division with its rest, which fails when it is by zero. -/
def division : Callback vocabulary := .closure 0 (.function (.plain .divideWithRest .function))

/-- Its result: two numbers, or a text of its own. -/
abbrev quotientAndRest : ResultType := .fallible (.tuple [.value .int64, .value .int64]) .caller

/-- A frame on a stack that has room for one slot. -/
def narrow : Frame host := .enter #[] 0 {} { stackLimit := 1 }

/-- A frame on an empty stack. -/
def roomy : Frame host := .enter #[] 0 {} {}

/-- A single number is pushed as itself, and a number, a truth value and a text as three slots in
this order.  A quotient and a rest do not fit where there is room for one slot, a failed division
pushes nothing, and a call hands out both numbers. -/
theorem division_pushed :
    (Session.library #[]).Wrapped division ∧
      roomy.pushResult (.one (.value .int64)) 5 = (.ok 1, roomy.extend [.int 5]) ∧
      roomy.pushResult (.tuple [.value .int64, .value .bool, .hostText]) (1, true, "rest") =
        (.ok 3, roomy.extend [.int 1, .bool true, .text "rest"]) ∧
      narrow.pushResult quotientAndRest (.error "by zero") =
        (.error (.raised "by zero"), narrow) ∧
      narrow.pushResult quotientAndRest (.ok (3, 2)) =
        (.error (.stackOverflow 2 1), narrow.extend [.int 3]) ∧
      ∃ after reached, ({} : Interpreter host).call (Session.library #[]) 0 division
          [.int 17, .int 5] { memory := {} } = some ((.ok [.int 3, .int 2], after), reached) ∧
        after.stack = #[] := by
  have wrapped : (Session.library #[]).Wrapped division := .closure 0 rfl
  obtain ⟨pushed, -, calls⟩ := resultPushing_exact wrapped
  obtain ⟨one, oneWritten, -, onePushed⟩ := pushed roomy (.one (.value .int64)) 5
  obtain ⟨three, threeWritten, -, threePushed⟩ :=
    pushed roomy (.tuple [.value .int64, .value .bool, .hostText]) (1, true, "rest")
  obtain ⟨both, bothWritten, -, overflowed⟩ := pushed narrow quotientAndRest (.ok (3, 2))
  cases ResultType.encode_eq_ok_iff.mpr oneWritten
  cases ResultType.encode_eq_ok_iff.mpr threeWritten
  cases ResultType.encode_eq_ok_iff.mpr bothWritten
  obtain ⟨answers, ends⟩ := calls {} 0 [.int 17, .int 5] { memory := {} }
  have called := answers _ (show 0 + 2 ≤ 10000 by decide) (.closure 0 rfl)
  exact ⟨wrapped, onePushed, threePushed, pushed narrow quotientAndRest (.error "by zero"),
    overflowed, _, _, called, (ends _ _ _ called).1⟩

end Sample

end HostCall
