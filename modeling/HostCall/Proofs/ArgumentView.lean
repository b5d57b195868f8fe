import HostCall.Proofs.FrameSteps
import HostCall.Session.Script
import Mathlib.Logic.Relation

/-!
# The arguments of a call

The stack under a frame has three parts: the slots below the frame, the arguments, and the slots
pushed since the call started (`Frame.layout`).  Nothing that a callable does with its frame, and
no call that it makes on the same frame, moves the borders between the first two.  The slots below
stay as they are, the pushed slots only become more, and of the arguments only the receiver in
argument 0 can be given another value of its type (`ReceiverKept`).

What a frame answers about its arguments depends on the arguments, the heap and the policy, and on
nothing else.  Frames that agree on these, up to the value of a receiver in the slot itself
(`Frame.Alike`), take the same number of arguments of the same types and read the same values from
them, and routers choose the same candidates on them (`Library.AnswersAlike`).  A custom callable
says itself which arguments it takes, and is expected to look at nothing else than the arguments
(`Library.JudgesByArguments`); it could look at what was pushed, and then a router that has it as a
candidate would not always choose the same (`Library.not_judgesByArguments_of_pushed`).

So the arguments that a callable sees are frozen, whatever it has pushed already and whatever lies
below its frame (`argumentView_frozen`).
-/

set_option autoImplicit false

namespace HostCall

variable {H : Host}

/-! ## The parts of the stack -/

/-- The arguments stay as they are, or a receiver in the first slot has another value of its
type. -/
inductive ReceiverKept : List (Slot H) → List (Slot H) → Prop
  | same (arguments : List (Slot H)) : ReceiverKept arguments arguments
  | rewritten (type : H.Receiver) (old new : H.Value type) (rest : List (Slot H)) :
      ReceiverKept (.native ⟨type, old⟩ :: rest) (.native ⟨type, new⟩ :: rest)

namespace ReceiverKept

variable {first middle last : List (Slot H)}

theorem trans (left : ReceiverKept first middle) (right : ReceiverKept middle last) :
    ReceiverKept first last := by
  cases left with
  | same => exact right
  | rewritten type old new rest =>
      cases right with
      | same => exact .rewritten type old new rest
      | rewritten _ _ newer _ => exact .rewritten type old newer rest

theorem length_eq (kept : ReceiverKept first last) : last.length = first.length := by
  cases kept <;> rfl

/-- Each argument is the same, or it is a receiver of the same type. -/
theorem getElem?_cases (kept : ReceiverKept first last) (index : Nat) :
    last[index]? = first[index]? ∨
      ∃ type old new, first[index]? = some (.native ⟨type, old⟩) ∧
        last[index]? = some (.native ⟨type, new⟩) := by
  cases kept with
  | same => exact .inl rfl
  | rewritten type old new rest =>
      cases index with
      | zero => exact .inr ⟨type, old, new, rfl, rfl⟩
      | succ index => exact .inl rfl

end ReceiverKept

namespace Frame

/-- The arguments as they lie on the stack. -/
def arguments (frame : Frame H) : List (Slot H) :=
  (frame.stack.toList.drop frame.base).take frame.argumentCount

theorem top_eq (frame : Frame H) : frame.top = frame.base + frame.argumentCount := by
  have ordered := frame.base_le_top
  rw [argumentCount]
  omega

/-- The stack is what lies below, the arguments, and what was pushed. -/
theorem layout (frame : Frame H) :
    frame.stack.toList = frame.below ++ (frame.arguments ++ frame.pushedSlots) := by
  rw [below, arguments, pushedSlots, top_eq, ← List.drop_drop, List.take_append_drop,
    List.take_append_drop]

theorem length_arguments (frame : Frame H) : frame.arguments.length = frame.argumentCount := by
  have inside := frame.top_le_size
  rw [top_eq] at inside
  rw [arguments, List.length_take, List.length_drop, Array.length_toList]
  omega

theorem argument?_eq_getElem? (frame : Frame H) (index : Nat) :
    frame.argument? index = frame.arguments[index]? := by
  rw [argument?, arguments, List.getElem?_take, List.getElem?_drop, Array.getElem?_toList]

theorem arguments_enter (stack : Array (Slot H)) (base : Nat) (heap : Heap H) (policy : Policy) :
    (enter stack base heap policy).arguments = stack.toList.drop base := by
  rw [arguments, argumentCount_enter]
  rcases Nat.le_total base stack.size with inside | above
  · simp only [enter, Nat.min_eq_left inside]
    exact List.take_of_length_le (Nat.le_of_eq (by rw [List.length_drop, Array.length_toList]))
  · rw [Nat.sub_eq_zero_of_le above, List.take_zero, List.drop_eq_nil_of_le]
    rwa [Array.length_toList]

theorem below_enter (stack : Array (Slot H)) (base : Nat) (heap : Heap H) (policy : Policy) :
    (enter stack base heap policy).below = stack.toList.take base := by
  change stack.toList.take (min base stack.size) = _
  rw [← Array.length_toList, ← List.take_eq_take_min]

theorem pushedSlots_enter (stack : Array (Slot H)) (base : Nat) (heap : Heap H)
    (policy : Policy) : (enter stack base heap policy).pushedSlots = [] := by
  rw [pushedSlots, List.drop_eq_nil_iff, Array.length_toList]
  exact Nat.le_refl _

/-! ## What operations keep -/

/-- A pushed slot lies above the arguments. -/
theorem arguments_push {frame next : Frame H} {slot : Slot H}
    (done : frame.push slot = .ok next) : next.arguments = frame.arguments := by
  have inside := frame.top_le_size
  rw [top_eq] at inside
  rw [push] at done
  split at done
  · cases done
  · cases done
    change ((frame.stack.push slot).toList.drop frame.base).take frame.argumentCount = _
    rw [Array.toList_push, List.drop_append_of_le_length, List.take_append_of_le_length, arguments]
    · rw [List.length_drop, Array.length_toList]
      omega
    · rw [Array.length_toList]
      omega

/-- Overwriting the receiver gives it another value of its type, in the slot or in the heap. -/
theorem receiverKept_setReceiver {frame next : Frame H} {type : H.Receiver}
    {value : H.Value type} (done : frame.setReceiver type value = .ok next) :
    ReceiverKept frame.arguments next.arguments := by
  rw [setReceiver_eq] at done
  split at done
  · cases done
  · rename_i object found
    split at done
    · rename_i old typed
      cases done
      have first : frame.arguments[0]? = some (.native ⟨type, old⟩) := by
        rw [← Object.eq_mk_of_as? typed, ← argument?_eq_getElem?]
        rw [receiverSlot] at found
        split at found
        · rename_i slot present
          cases found
          exact present
        · cases found
      have written : (frame.putSlot ⟨type, value⟩).arguments =
          frame.arguments.set 0 (.native ⟨type, value⟩) := by
        simp only [arguments, argumentCount, putSlot, Array.toList_setIfInBounds]
        rw [List.drop_set, if_neg (Nat.lt_irrefl _), Nat.sub_self, List.take_set]
      rw [written]
      cases listed : frame.arguments with
      | nil =>
          rw [listed] at first
          cases first
      | cons receiver rest =>
          rw [listed] at first
          cases first
          exact .rewritten type old value rest
    · cases done
  · rename_i handle found
    cases changed : frame.heap.set handle type value with
    | error error =>
        rw [changed] at done
        cases done
    | ok heap =>
        rw [changed] at done
        cases done
        exact .same _
  · cases done

end Frame

theorem FrameStep.receiverKept {first last : Frame H} {slots : List (Slot H)}
    (step : FrameStep first slots last) : ReceiverKept first.arguments last.arguments := by
  cases step with
  | push slot done =>
      rw [Frame.arguments_push done]
      exact .same _
  | setReceiver type value done => exact Frame.receiverKept_setReceiver done
  | allocate object => exact .same _
  | free handle => exact .same _
  | setObject handle type value done => exact .same _

theorem FrameRun.receiverKept {first last : Frame H} {slots : List (Slot H)}
    (run : FrameRun first slots last) : ReceiverKept first.arguments last.arguments := by
  induction run with
  | refl frame => exact .same _
  | step step _ ih => exact step.receiverKept.trans ih

/-- A callable performs one operation on its frame, which succeeds or fails, or pushes results.
A call on the same frame is one operation, however deep the calls nest in it. -/
inductive Library.Performs (library : Library H) : Scene H → Scene H → Prop
  | operation {operation : FrameOperation H} {depth : Nat} {scene after : Scene H}
      {answer : operation.Answer}
      (ran : operation.run library (library.call depth) scene = some (answer, after)) :
      Performs library scene after
  | results (scene : Scene H) (type : ResultType) (content : type.Val H) :
      Performs library scene (scene.frame.deliver scene.world type content).2

theorem Library.Performs.reaches {library : Library H} {scene after : Scene H}
    (performs : library.Performs scene after) : scene.frame.Reaches after.frame := by
  cases performs with
  | operation ran => exact FrameOperation.reaches_of_run (library.goesBySteps_call _) ran
  | results _ type content => exact scene.frame.reaches_deliver scene.world type content

/-- Any operations one after another. -/
theorem Library.reaches_of_performs {library : Library H} {scene after : Scene H}
    (performs : Relation.ReflTransGen library.Performs scene after) :
    scene.frame.Reaches after.frame := by
  induction performs with
  | refl => exact .refl scene.frame
  | tail _ last ih => exact ih.trans last.reaches

/-! ## Frames with the same arguments -/

namespace Frame

/-- The frames have the same arguments, up to the value of a receiver in the slot itself, the same
heap and the same policy. -/
structure Alike (first last : Frame H) : Prop where
  arguments : ReceiverKept first.arguments last.arguments
  heap : last.heap = first.heap
  policy : last.policy = first.policy

/-- Steps lead to a frame like the one before, but for the heap. -/
theorem Reaches.alike {first last : Frame H} (reached : first.Reaches last) :
    { first with heap := last.heap }.Alike last := by
  obtain ⟨_, run⟩ := reached
  exact ⟨run.receiverKept, rfl, run.sameFooting.policy⟩

namespace Alike

variable {first last : Frame H}

theorem argumentCount_eq (alike : first.Alike last) :
    last.argumentCount = first.argumentCount := by
  rw [← length_arguments, alike.arguments.length_eq, length_arguments]

theorem argument?_cases (alike : first.Alike last) (index : Nat) :
    last.argument? index = first.argument? index ∨
      ∃ type old new, first.argument? index = some (.native ⟨type, old⟩) ∧
        last.argument? index = some (.native ⟨type, new⟩) := by
  rw [argument?_eq_getElem?, argument?_eq_getElem?]
  exact alike.arguments.getElem?_cases index

theorem checkCount_eq (alike : first.Alike last) (declared : Arity) :
    last.checkCount declared = first.checkCount declared := by
  rw [checkCount, checkCount, takesCount, takesCount, alike.argumentCount_eq, alike.policy]

/-- No type can tell two receivers apart. -/
theorem accepts_native (type : SlotType) (left right : Object H) :
    type.accepts (.native left) = type.accepts (.native right) := by
  induction type with
  | option inner ih => simp only [SlotType.accepts, Slot.isNil, ih]
  | _ => rfl

theorem argumentAccepts_eq (alike : first.Alike last) (type : SlotType) (index : Nat) :
    last.argumentAccepts type index = first.argumentAccepts type index := by
  rw [argumentAccepts, argumentAccepts]
  rcases alike.argument?_cases index with same | ⟨receiver, old, new, before, after⟩
  · rw [same]
  · rw [before, after]
    exact accepts_native type _ _

theorem parametersAccepts_eq (alike : first.Alike last) (types : List SlotType) (offset : Nat) :
    Parameters.accepts last types offset = Parameters.accepts first types offset := by
  induction types generalizing offset with
  | nil => rfl
  | cons type types ih =>
      rw [Parameters.accepts, Parameters.accepts, alike.argumentAccepts_eq, ih]

/-- A receiver is found by its type, and behind a handle in the same heap. -/
theorem receiverAccepts_eq (alike : first.Alike last) (type : H.Receiver) :
    last.receiverAccepts type = first.receiverAccepts type := by
  rw [receiverAccepts, receiverAccepts, receiver, receiver, receiverSlot, receiverSlot,
    alike.heap]
  rcases alike.argument?_cases 0 with same | ⟨held, old, new, before, after⟩
  · rw [same]
  · rw [before, after]
    by_cases typed : held = type
    · subst typed
      simp only [Object.as?_self]
      rfl
    · have other (value : H.Value held) : (Object.mk held value).as? type = none :=
        Object.as?_of_ne typed
      simp only [other]

/-- A receiver in a slot is never read as an argument, and the refusal names its type alone. -/
theorem decode_native (type : SlotType) {receiver : H.Receiver} (old new : H.Value receiver) :
    type.decode (.native ⟨receiver, new⟩) = type.decode (.native ⟨receiver, old⟩) := by
  induction type with
  | option inner ih => rw [SlotType.decode, SlotType.decode, ih] <;> simp
  | _ => rfl

theorem argument_eq (alike : first.Alike last) (type : SlotType) (index : Nat) :
    last.argument type index = first.argument type index := by
  rw [argument, argument, rawArgument, rawArgument, alike.argumentCount_eq]
  rcases alike.argument?_cases index with same | ⟨receiver, old, new, before, after⟩
  · rw [same]
  · simp only [before, after, decode_native type old new]

theorem extract_eq (alike : first.Alike last) (types : List SlotType) (offset : Nat) :
    Parameters.extract last types offset = Parameters.extract first types offset := by
  induction types generalizing offset with
  | nil => rfl
  | cons type types ih =>
      rw [Parameters.extract, Parameters.extract, alike.argument_eq type offset, ih]

end Alike

end Frame

/-! ## Which candidate takes a call -/

namespace Library

/-- Whether the callback takes a frame depends on its arguments alone.  A wrapped callable goes by
the types of its parameters; a custom callable answers for itself. -/
inductive JudgesByArguments (library : Library H) : Callback H.toVocabulary → Prop
  | direct (name : H.Raw) : JudgesByArguments library (.direct name)
  | wrapped (id : ClosureId) {block : Block H.toVocabulary} (wrapped : block.isWrapped = true) :
      JudgesByArguments library (.closure id block)
  | custom (id : ClosureId) (label : Label) {name : H.Custom}
      (judges : ∀ {first last : Frame H}, first.Alike last →
        (library.custom name).accepts last = (library.custom name).accepts first) :
      JudgesByArguments library (.closure id (.custom label name))
  | router (id : ClosureId) (shape : Shape) (declared : Arity)
      {candidates : List (Callback H.toVocabulary)}
      (each : ∀ candidate ∈ candidates, JudgesByArguments library candidate) :
      JudgesByArguments library (.router id shape declared candidates)

/-- A custom callable is free to judge otherwise: one that takes a call only until a slot was
pushed gives another answer after a push, when the arguments are the same. -/
theorem not_judgesByArguments_of_pushed {library : Library H} {name : H.Custom}
    (asks : (library.custom name).accepts = fun frame => frame.pushed == 0) (id : ClosureId)
    (label : Label) : ¬ library.JudgesByArguments (.closure id (.custom label name)) := by
  intro judges
  obtain ⟨last, done⟩ : ∃ last, (Frame.enter #[] 0 {} {} : Frame H).push .void = .ok last :=
    ⟨_, rfl⟩
  have alike := (Frame.reaches_of_step (.push .void done)).alike
  cases done
  cases judges with
  | wrapped _ wrapped => cases wrapped
  | custom _ _ judges =>
      have same := judges alike
      rw [asks] at same
      cases same

section Selection

variable {library : Library H} {first last : Frame H}

theorem blockAccepts_of_alike (alike : first.Alike last) {block : Block H.toVocabulary}
    (wrapped : block.isWrapped = true) :
    library.blockAccepts last block = library.blockAccepts first block := by
  cases block with
  | function name | boundMethod name _ | construct name => exact alike.parametersAccepts_eq _ _
  | method name =>
      rw [blockAccepts, blockAccepts, alike.receiverAccepts_eq, alike.parametersAccepts_eq]
  | field name =>
      simp only [blockAccepts, alike.argumentCount_eq, alike.receiverAccepts_eq,
        alike.argumentAccepts_eq]
  | boundField name receiver =>
      simp only [blockAccepts, alike.argumentCount_eq, alike.argumentAccepts_eq]
  | custom label name => cases wrapped

theorem scan_of_alike (alike : first.Alike last) {candidates : List (Callback H.toVocabulary)}
    (each : ∀ candidate ∈ candidates,
      library.accepts last candidate = library.accepts first candidate)
    (place : Nat) (rejected : List Nat) :
    library.scan last candidates place rejected = library.scan first candidates place rejected := by
  induction candidates generalizing place rejected with
  | nil => rw [scan, scan]
  | cons candidate candidates ih =>
      have rest := ih fun later member => each later (List.mem_cons_of_mem _ member)
      rw [scan, scan, alike.argumentCount_eq, alike.policy, each candidate List.mem_cons_self,
        rest, rest]

theorem accepts_of_alike (alike : first.Alike last) {callback : Callback H.toVocabulary}
    (judges : library.JudgesByArguments callback) :
    library.accepts last callback = library.accepts first callback := by
  induction judges with
  | direct name => rw [accepts, accepts]
  | wrapped id wrapped => rw [accepts, accepts, blockAccepts_of_alike alike wrapped]
  | custom id label judges =>
      rw [accepts, accepts]
      exact judges alike
  | router id shape declared each ih => rw [accepts, accepts, scan_of_alike alike ih]

theorem select_of_alike (alike : first.Alike last) {candidates : List (Callback H.toVocabulary)}
    (judge : ∀ candidate ∈ candidates, library.JudgesByArguments candidate) :
    library.select last candidates = library.select first candidates := by
  rw [select, select, alike.argumentCount_eq,
    scan_of_alike alike fun candidate member => accepts_of_alike alike (judge candidate member)]

end Selection

/-- The frames give the same answers about their arguments. -/
structure AnswersAlike (library : Library H) (first last : Frame H) : Prop where
  count : last.argumentCount = first.argumentCount
  checkCount : ∀ declared, last.checkCount declared = first.checkCount declared
  argumentAccepts : ∀ type index,
    last.argumentAccepts type index = first.argumentAccepts type index
  receiverAccepts : ∀ type, last.receiverAccepts type = first.receiverAccepts type
  parametersAccept : ∀ types offset,
    Parameters.accepts last types offset = Parameters.accepts first types offset
  accepts : ∀ callback, library.JudgesByArguments callback →
    library.accepts last callback = library.accepts first callback
  select : ∀ candidates, (∀ candidate ∈ candidates, library.JudgesByArguments candidate) →
    library.select last candidates = library.select first candidates
  argument : ∀ type index, last.argument type index = first.argument type index
  extract : ∀ types offset,
    Parameters.extract last types offset = Parameters.extract first types offset

theorem answersAlike (library : Library H) {first last : Frame H} (alike : first.Alike last) :
    library.AnswersAlike first last where
  count := alike.argumentCount_eq
  checkCount := alike.checkCount_eq
  argumentAccepts := alike.argumentAccepts_eq
  receiverAccepts := alike.receiverAccepts_eq
  parametersAccept := alike.parametersAccepts_eq
  accepts _ := accepts_of_alike alike
  select _ := select_of_alike alike
  argument := alike.argument_eq
  extract := alike.extract_eq

end Library

/-! ## The frozen view -/

section View

open Relation (ReflTransGen)

variable {library : Library H} {stack : Array (Slot H)} {base : Nat} {heap : Heap H}
  {policy : Policy} {world : World H} {middle last : Scene H}

/-- **The arguments of a call are frozen.**  A frame that is entered on a stack, at a base that may
be too high, keeps its borders and the number of its arguments through any operations, whether
they succeed or fail.  On the stack there are always the slots that lay below, the arguments, of
which only a receiver in the first slot can have another value of its type, and the slots pushed so
far; and further operations only append to these.  What the frame answers about its arguments is
what any frame answers with the same arguments, heap and policy, whatever it has pushed and
whatever lies below it. -/
theorem argumentView_frozen
    (earlier : ReflTransGen library.Performs ⟨.enter stack base heap policy, world⟩ middle)
    (later : ReflTransGen library.Performs middle last) :
    let frame := last.frame
    (frame.base = min base stack.size ∧ frame.top = stack.size ∧
        frame.base ≤ frame.top ∧ frame.top ≤ frame.stack.size ∧
        frame.argumentCount = stack.size - base) ∧
      (∃ seen seenLater pushed appended : List (Slot H),
        middle.frame.stack.toList = stack.toList.take base ++ (seen ++ pushed) ∧
          frame.stack.toList = stack.toList.take base ++ (seenLater ++ (pushed ++ appended)) ∧
          ReceiverKept (stack.toList.drop base) seen ∧ ReceiverKept seen seenLater ∧
          middle.frame.pushed = pushed.length ∧
          frame.pushed = pushed.length + appended.length) ∧
      library.AnswersAlike (.enter stack base frame.heap policy) frame ∧
      ∀ other : Frame H, other.Alike frame → library.AnswersAlike other frame := by
  intro frame
  obtain ⟨pushed, before⟩ := Library.reaches_of_performs earlier
  obtain ⟨appended, after⟩ := Library.reaches_of_performs later
  have whole := before.trans after
  have footing := whole.sameFooting
  have pushedThere : middle.frame.pushedSlots = pushed := by
    rw [before.pushedSlots_eq, Frame.pushedSlots_enter, List.nil_append]
  have pushedLater : frame.pushedSlots = pushed ++ appended := by
    rw [after.pushedSlots_eq, pushedThere]
  have alike := Frame.Reaches.alike ⟨_, whole⟩
  refine ⟨⟨footing.base, footing.top, frame.base_le_top, frame.top_le_size, ?_⟩,
    ⟨middle.frame.arguments, frame.arguments, pushed, appended, ?_, ?_, ?_, after.receiverKept,
      ?_, ?_⟩,
    library.answersAlike alike, fun other => library.answersAlike⟩
  · rw [alike.argumentCount_eq]
    exact Frame.argumentCount_enter stack base heap policy
  · rw [middle.frame.layout, pushedThere, before.sameFooting.below, Frame.below_enter]
  · rw [frame.layout, pushedLater, footing.below, Frame.below_enter]
  · rw [← Frame.arguments_enter stack base heap policy]
    exact before.receiverKept
  · rw [← Frame.length_pushedSlots, pushedThere]
  · rw [← Frame.length_pushedSlots, pushedLater, List.length_append]

end View

/-! ## The sample host -/

/-- The scripts of the sample host declare which receiver or which arguments they take, so all
its callbacks judge by the arguments. -/
theorem Session.judgesByArguments_library (scripts : Array Session.Script)
    (callback : Callback Sample.host.toVocabulary) :
    (Session.library scripts).JudgesByArguments callback := by
  induction callback using Callback.inductionOn with
  | direct name => exact .direct name
  | closure id block =>
      cases block with
      | custom label name =>
          refine .custom id label fun {first last} alike => ?_
          simp only [Session.library]
          cases scripts[name]? with
          | none => rfl
          | some script =>
              change script.acceptance.test last = script.acceptance.test first
              cases script.acceptance with
              | always answer => rfl
              | receiver type => exact alike.receiverAccepts_eq type
              | arguments types => exact alike.parametersAccepts_eq types 0
      | _ => exact .wrapped id rfl
  | router id shape declared candidates each => exact .router id shape declared each

namespace Sample

/-- A frame with a counter and a number, on a stack with room for one slot more. -/
def viewedFrame : Frame host :=
  .enter #[.text "below", .native ⟨.counter, ⟨5⟩⟩, .int 3] 1 {} { stackLimit := 4 }

/-- The frame when a slot has been pushed and the counter has another value. -/
def viewedFrameLater (count : Int64) : Frame host where
  stack := #[.text "below", .native ⟨.counter, ⟨count⟩⟩, .int 3, .int 1]
  base := 1
  top := 3
  heap := {}
  policy := { stackLimit := 4 }
  base_le_top := by decide
  top_le_size := Nat.le_succ 3

/-- A slot is pushed.  Then a method adds the number to the counter, and its result does not
fit. -/
theorem argumentView_frozen_counter :
    Relation.ReflTransGen (Session.library #[]).Performs ⟨viewedFrame, { memory := {} }⟩
        ⟨viewedFrameLater 5, { memory := {} }⟩ ∧
      Relation.ReflTransGen (Session.library #[]).Performs
        ⟨viewedFrameLater 5, { memory := {} }⟩
        ⟨viewedFrameLater 8, { memory := { transcript := #[.text "Counter.add"] } }⟩ ∧
      (Session.library #[]).AnswersAlike viewedFrame (viewedFrameLater 8) ∧
      ∀ candidates, (Session.library #[]).select (viewedFrameLater 8) candidates =
        (Session.library #[]).select viewedFrame candidates := by
  have pushed : (FrameOperation.push (.int 1)).run (Session.library #[])
      ((Session.library #[]).call 0) ⟨viewedFrame, { memory := {} }⟩ =
        some (.ok (), ⟨viewedFrameLater 5, { memory := {} }⟩) := rfl
  have invoked : (FrameOperation.invoke (.closure 0 (.method MethodName.counterAdd))).run
      (Session.library #[]) ((Session.library #[]).call 0)
      ⟨viewedFrameLater 5, { memory := {} }⟩ =
        some (.error (.stackOverflow 5 4),
          ⟨viewedFrameLater 8, { memory := { transcript := #[.text "Counter.add"] } }⟩) := rfl
  have earlier := Relation.ReflTransGen.single (Library.Performs.operation pushed)
  have later := Relation.ReflTransGen.single (Library.Performs.operation invoked)
  have answers := (argumentView_frozen earlier later).2.2.1
  exact ⟨earlier, later, answers, fun candidates => answers.select candidates fun candidate _ =>
    Session.judgesByArguments_library #[] candidate⟩

end Sample

end HostCall
