import HostCall.Proofs.StackDiscipline

/-!
# Functions and methods applied directly

`FreeFunction.apply` is what a function does to a list of arguments when nothing is wrapped
around it, and `Method.apply` what a method does to a value and a list of arguments: the
arguments are counted, read as the parameters, the body runs, and its result is written to
slots.  The stack takes part only as a limit, for the arguments and for the results.

A call in an interpreter does the same by other means.  Its frame is the list of its arguments
(`Interpreter.argument?_entry`), so reading the parameters from the frame is reading them from
the list (`Interpreter.extract_entry`), and a body that delivers its result on the frame ends a
call with the slots that its result is written to (`Interpreter.callWith_of_deliver`).  The
operations of a body are answered alike in both (`Library.handler`).
-/

set_option autoImplicit false

namespace HostCall

variable {H : Host}

/-! ## Application -/

/-- The policy lets a callable of a range take a number of arguments. -/
def Policy.takes (policy : Policy) (expected : Arity) (count : Nat) : Bool :=
  match policy.surplus with
  | .ignore => expected.least ≤ count
  | .reject => expected.admits count

/-- The slots that a result is written to, if it did not fail and the stack has room for them
above a height. -/
def Policy.written (policy : Policy) (height : Nat) (type : ResultType) (content : type.Val H) :
    Except CallError (List (Slot H)) :=
  match type.encode content with
  | .error text => .error (.raised text)
  | .ok slots =>
      if height + slots.length ≤ policy.stackLimit then .ok slots
      else .error (.stackOverflow (policy.stackLimit + 1) policy.stackLimit)

/-- The parameters read from a list of slots; missing ones are read as `void`. -/
def Parameters.decode : (types : List SlotType) → List (Slot H) →
    Except ConversionError (Parameters H types)
  | [], _ => .ok ()
  | type :: types, slots =>
      match type.decode (slots.headD .void) with
      | .error cause => .error cause
      | .ok value => (decode types slots.tail).map (value, ·)

/-- The parameters read from a list of arguments, if the policy lets a callable take so many. -/
def Parameters.read (policy : Policy) (types : List SlotType) (arguments : List (Slot H)) :
    Except CallError (Parameters H types) :=
  let declared := Arity.ofParameters types
  if policy.takes declared arguments.length then
    (decode types arguments).mapError .conversion
  else .error (.wrongCount declared arguments.length)

/-- What a free function does, given arguments that lie above a height of the stack. -/
def FreeFunction.apply (function : FreeFunction H) (handle : HostHandler H) (policy : Policy)
    (height : Nat) (arguments : List (Slot H)) (world : World H) :
    Option (Except CallError (List (Slot H)) × World H) :=
  let top := height + arguments.length
  if policy.stackLimit < top then
    some (.error (.stackOverflow top policy.stackLimit), world)
  else
    match Parameters.read policy function.parameters arguments with
    | .error error => some (.error error, world)
    | .ok parameters =>
        ((function.run parameters).run handle world).map fun (content, world) =>
          (policy.written top function.result content, world)

namespace Method

/-- What the body of a method does: it answers with its result and with the value that the
receiver then has. -/
def runBody (method : Method H) (handle : HostHandler H) (value : H.Value method.receiver)
    (parameters : Parameters H method.parameters) (world : World H) :
    Option ((method.result.Val H × H.Value method.receiver) × World H) :=
  match method.body with
  | .shared run =>
      ((run value parameters).run handle world).map fun (content, world) =>
        ((content, value), world)
  | .exclusive run => (run value parameters).run handle world

/-- What a method does to a value, given arguments that lie above a height of the stack: the
outcome, and the value that the receiver then has. -/
def apply (method : Method H) (handle : HostHandler H) (policy : Policy) (height : Nat)
    (arguments : List (Slot H)) (value : H.Value method.receiver) (world : World H) :
    Option ((Except CallError (List (Slot H)) × H.Value method.receiver) × World H) :=
  let top := height + arguments.length
  if policy.stackLimit < top then
    some ((.error (.stackOverflow top policy.stackLimit), value), world)
  else
    match Parameters.read policy method.parameters arguments with
    | .error error => some ((.error error, value), world)
    | .ok parameters =>
        (method.runBody handle value parameters world).map fun ((content, changed), world) =>
          ((policy.written top method.result content, changed), world)

/-- A method that only reads its receiver leaves the value that it was given. -/
theorem eq_of_runBody_shared {method : Method H} {handle : HostHandler H}
    {value changed : H.Value method.receiver} {parameters : Parameters H method.parameters}
    {world after : World H} {content : method.result.Val H} (reads : method.access = .shared)
    (ran : method.runBody handle value parameters world = some ((content, changed), after)) :
    changed = value := by
  obtain ⟨receiver, types, result, body⟩ := method
  cases body with
  | shared run =>
      obtain ⟨_, _, same⟩ := Option.map_eq_some_iff.mp ran
      cases same
      rfl
  | exclusive run => cases reads

/-- An application fails before the body runs, and then nothing has changed, or it ends as the
body does. -/
theorem apply_cases {method : Method H} {handle : HostHandler H} {policy : Policy} {height : Nat}
    {arguments : List (Slot H)} {value changed : H.Value method.receiver} {world after : World H}
    {outcome : Except CallError (List (Slot H))}
    (applied : method.apply handle policy height arguments value world =
      some ((outcome, changed), after)) :
    (changed = value ∧ after = world) ∨
      ∃ parameters content,
        Parameters.read policy method.parameters arguments = .ok parameters ∧
          method.runBody handle value parameters world = some ((content, changed), after) := by
  rw [apply] at applied
  split at applied
  · cases applied
    exact .inl ⟨rfl, rfl⟩
  · split at applied
    · cases applied
      exact .inl ⟨rfl, rfl⟩
    · rename_i parameters read
      obtain ⟨⟨⟨content, left⟩, reached⟩, ran, same⟩ := Option.map_eq_some_iff.mp applied
      cases same
      exact .inr ⟨parameters, content, read, ran⟩

end Method

/-! ## The frame of a call as a list of arguments -/

theorem Policy.least_le_of_takes {policy : Policy} {declared : Arity} {count : Nat}
    (taken : policy.takes declared count = true) : declared.least ≤ count := by
  rw [Policy.takes] at taken
  split at taken
  · exact of_decide_eq_true taken
  · exact ((Arity.admits_iff _ _).mp taken).1

/-- Behind the least number of arguments stand only types that may be left out. -/
theorem Arity.isOptional_of_least_le {types : List SlotType} {index : Nat} {type : SlotType}
    (found : types[index]? = some type) (beyond : (ofParameters types).least ≤ index) :
    type.isOptional = true := by
  have split := congrArg List.reverse
    (List.takeWhile_append_dropWhile (p := SlotType.isOptional) (l := types.reverse))
  rw [List.reverse_append, List.reverse_reverse] at split
  rw [← split, List.getElem?_append_right (by rwa [List.length_reverse])] at found
  exact List.all_eq_true.mp List.all_takeWhile type
    (List.mem_reverse.mp (List.mem_of_getElem? found))

/-- Reading parameters from a frame is reading them from the list of its arguments, if only
such are missing as may be left out. -/
theorem Parameters.extract_eq_decode {frame : Frame H} {types : List SlotType} {offset : Nat}
    {slots : List (Slot H)}
    (holds : ∀ index, frame.argument? (offset + index) = slots[index]?)
    (enough : ∀ index type, types[index]? = some type → slots.length ≤ index →
      type.isOptional = true) :
    extract frame types offset = (decode types slots).mapError .conversion := by
  induction types generalizing offset slots with
  | nil => rfl
  | cons type types ih =>
      have first : frame.argument type offset =
          (type.decode (slots.headD .void)).mapError .conversion := by
        have there := holds 0
        rw [Nat.add_zero] at there
        cases slots with
        | nil => exact Frame.argument_of_optional there (enough 0 type rfl (Nat.le_refl 0))
        | cons slot slots => exact Frame.argument_of_some there
      have rest : extract frame types (offset + 1) =
          (decode types slots.tail).mapError .conversion := by
        refine ih (fun index => ?_) fun index other found beyond => ?_
        · rw [Nat.add_assoc, Nat.add_comm 1, holds, List.getElem?_tail]
        · refine enough (index + 1) other found ?_
          rw [List.length_tail] at beyond
          omega
      rw [extract, decode, first, rest]
      cases type.decode (slots.headD .void) with
      | error cause => rfl
      | ok value => cases decode types slots.tail <;> rfl

namespace Interpreter

theorem argumentCount_entry (interpreter : Interpreter H) (arguments : List (Slot H)) :
    (interpreter.entry arguments).argumentCount = arguments.length := by
  have height := congrArg List.length (interpreter.toList_entry arguments)
  rw [Frame.argumentCount, base_entry]
  simp only [entry, Frame.enter, Array.length_toList, List.length_append] at height ⊢
  omega

/-- The arguments of a call lie in its frame. -/
theorem argument?_entry (interpreter : Interpreter H) (arguments : List (Slot H)) (index : Nat) :
    (interpreter.entry arguments).argument? index = arguments[index]? := by
  rw [Frame.argument?, argumentCount_entry]
  split
  · rw [base_entry, ← Array.getElem?_toList, toList_entry, ← Array.length_toList,
      List.getElem?_append_right (Nat.le_add_right _ _), Nat.add_sub_cancel_left]
  · rename_i outside
    rw [List.getElem?_eq_none (Nat.le_of_not_lt outside)]

/-- The parameters of a call are read from the arguments behind those that come first. -/
theorem extract_entry (interpreter : Interpreter H) (leading : List (Slot H))
    {arguments : List (Slot H)} {types : List SlotType}
    (enough : (Arity.ofParameters types).least ≤ arguments.length) :
    Parameters.extract (interpreter.entry (leading ++ arguments)) types leading.length =
      (Parameters.decode types arguments).mapError .conversion := by
  refine Parameters.extract_eq_decode (fun index => ?_) fun index type found beyond =>
    Arity.isOptional_of_least_le found (Nat.le_trans enough beyond)
  rw [argument?_entry, List.getElem?_append_right (Nat.le_add_right _ _),
    Nat.add_sub_cancel_left]

theorem takesCount_entry (interpreter : Interpreter H) (arguments : List (Slot H))
    (declared : Arity) :
    (interpreter.entry arguments).takesCount declared =
      interpreter.policy.takes declared arguments.length := by
  rw [Frame.takesCount, argumentCount_entry]
  rfl

/-- A call reads its parameters as from the list of its arguments. -/
theorem prepare_entry (interpreter : Interpreter H) (types : List SlotType)
    (arguments : List (Slot H)) :
    (interpreter.entry arguments).prepare (.ofParameters types) types =
      Parameters.read interpreter.policy types arguments := by
  rw [Frame.prepare, Frame.checkCount, takesCount_entry, argumentCount_entry, Parameters.read]
  cases taken : interpreter.policy.takes (.ofParameters types) arguments.length with
  | false => rfl
  | true => exact interpreter.extract_entry [] (Policy.least_le_of_takes taken)

end Interpreter

/-! ## Pushing a result -/

namespace Frame

theorem push_of_room {frame : Frame H} (room : frame.stack.size < frame.policy.stackLimit)
    (slot : Slot H) :
    ∃ next, frame.push slot = .ok next ∧ next.stack.size = frame.stack.size + 1 ∧
      next.heap = frame.heap ∧ next.policy = frame.policy := by
  rw [push, if_neg (Nat.not_le_of_lt room)]
  exact ⟨_, rfl, Array.size_push _, rfl, rfl⟩

/-- Slots are pushed if there is room for all of them; else the first for which there is none
finds the stack at its limit. -/
theorem pushAll_cases {frame : Frame H} (room : frame.stack.size ≤ frame.policy.stackLimit)
    (slots : List (Slot H)) :
    ∃ next pushes, FrameRun frame pushes next ∧ next.heap = frame.heap ∧
      ((frame.stack.size + slots.length ≤ frame.policy.stackLimit ∧ pushes = slots ∧
          frame.pushAll slots = (.ok (), next)) ∨
        (frame.policy.stackLimit < frame.stack.size + slots.length ∧
          frame.pushAll slots = (.error (.stackOverflow (frame.policy.stackLimit + 1)
            frame.policy.stackLimit), next))) := by
  induction slots generalizing frame with
  | nil => exact ⟨frame, [], .refl frame, rfl, .inl ⟨room, rfl, rfl⟩⟩
  | cons slot slots ih =>
      rw [List.length_cons]
      by_cases full : frame.policy.stackLimit ≤ frame.stack.size
      · have atLimit : frame.stack.size = frame.policy.stackLimit := Nat.le_antisymm room full
        refine ⟨frame, [], .refl frame, rfl, .inr ⟨by omega, ?_⟩⟩
        rw [pushAll, push, if_pos full, atLimit]
      · obtain ⟨middle, pushed, height, sameHeap, samePolicy⟩ :=
          push_of_room (Nat.lt_of_not_le full) slot
        have stillRoom : middle.stack.size ≤ middle.policy.stackLimit := by
          rw [height, samePolicy]
          exact Nat.lt_of_not_le full
        rw [pushAll, pushed]
        obtain ⟨next, pushes, run, heap, ended⟩ := ih stillRoom
        rw [height, samePolicy, Nat.add_assoc, Nat.add_comm 1] at ended
        refine ⟨next, slot :: pushes, .step (.push slot pushed) run, heap.trans sameHeap, ?_⟩
        rcases ended with ⟨fits, rfl, done⟩ | ended
        · exact .inl ⟨fits, rfl, done⟩
        · exact .inr ended

/-- A result is delivered as the slots that it is written to, or fails as they do. -/
theorem deliver_cases {frame : Frame H} (room : frame.stack.size ≤ frame.policy.stackLimit)
    (world : World H) (type : ResultType) (content : type.Val H) :
    ∃ reported next pushes, frame.deliver world type content = (reported, ⟨next, world⟩) ∧
      FrameRun frame pushes next ∧ next.heap = frame.heap ∧
      resultsOf pushes reported = frame.policy.written frame.stack.size type content := by
  rw [deliver, pushResult_eq_pushAll, Policy.written]
  cases type.encode content with
  | error text => exact ⟨_, frame, [], rfl, .refl frame, rfl, rfl⟩
  | ok slots =>
      obtain ⟨next, pushes, run, heap, ⟨fits, rfl, pushed⟩ | ⟨crowded, pushed⟩⟩ :=
        pushAll_cases room slots
      · refine ⟨.ok pushes.length, next, pushes, by simp only [pushed]; rfl, run, heap, ?_⟩
        simp only [if_pos fits, resultsOf, Nat.le_refl, if_true, Nat.sub_self, List.drop_zero]
      · refine ⟨_, next, pushes, by simp only [pushed]; rfl, run, heap, ?_⟩
        simp only [if_neg (Nat.not_le_of_lt crowded)]
        rfl

/-- Steps that push nothing leave the stack as tall as it was. -/
theorem size_of_run_nil {first last : Frame H} (run : FrameRun first [] last) :
    last.stack.size = first.stack.size := by
  have pushed := congrArg List.length run.pushedSlots_eq
  rw [List.append_nil, length_pushedSlots, length_pushedSlots, Frame.pushed, Frame.pushed,
    run.sameFooting.top] at pushed
  have firstTop := first.top_le_size
  have lastTop := last.top_le_size
  rw [run.sameFooting.top] at lastTop
  omega

end Frame

/-! ## How a call ends -/

namespace Library

/-- What the calls do that callables make when they are called at a depth. -/
def nested (library : Library H) : Nat → Invoker H
  | 0 => fun _ _ => none
  | depth + 1 => library.call depth

/-- How the operations of a callable are answered that is called at a depth. -/
def handler (library : Library H) (depth : Nat) : HostHandler H :=
  HostOperation.run library (library.nested depth)

theorem call_closure (library : Library H) (depth : Nat) (id : ClosureId)
    (block : Block H.toVocabulary) (scene : Scene H) :
    library.call depth (.closure id block) scene =
      library.callBlock (library.nested depth) block scene := by
  cases depth <;> rw [call, callWith] <;> rfl

end Library

namespace Interpreter

variable {interpreter : Interpreter H} {arguments : List (Slot H)} {invoke : Invoker H}
  {callback : Callback H.toVocabulary} {world reached : World H}

theorem size_entry (interpreter : Interpreter H) (arguments : List (Slot H)) :
    (interpreter.entry arguments).stack.size = interpreter.stack.size + arguments.length := by
  rw [← Array.length_toList, toList_entry, List.length_append, Array.length_toList]

/-- A callback that comes to no end leaves the call without one. -/
theorem callWith_of_none (fits : interpreter.Fits arguments)
    (ran : invoke callback ⟨interpreter.entry arguments, world⟩ = none) :
    interpreter.callWith invoke callback arguments world = none := by
  rw [callWith]
  simp only [if_neg (Nat.not_lt_of_le fits)]
  rw [← entry, ran]

/-- A callback that fails at once fails the call and changes nothing. -/
theorem callWith_of_error (fits : interpreter.Fits arguments) {error : CallError}
    (ran : invoke callback ⟨interpreter.entry arguments, world⟩ =
      some (.error error, ⟨interpreter.entry arguments, world⟩)) :
    interpreter.callWith invoke callback arguments world =
      some ((.error error, interpreter), world) :=
  callWith_of_run fits ran (.refl _)

/-- A callback that ends by delivering a result ends the call with the slots that the result is
written to. -/
theorem callWith_of_deliver (fits : interpreter.Fits arguments) {frame : Frame H}
    (run : FrameRun (interpreter.entry arguments) [] frame) {type : ResultType}
    {content : type.Val H}
    (ran : invoke callback ⟨interpreter.entry arguments, world⟩ =
      some (frame.deliver reached type content)) :
    interpreter.callWith invoke callback arguments world =
      some ((interpreter.policy.written (interpreter.stack.size + arguments.length) type content,
        { interpreter with heap := frame.heap }), reached) := by
  have policy : frame.policy = interpreter.policy := run.sameFooting.policy
  have height : frame.stack.size = interpreter.stack.size + arguments.length :=
    (Frame.size_of_run_nil run).trans (interpreter.size_entry arguments)
  have room : frame.stack.size ≤ frame.policy.stackLimit := by
    rw [policy, height]
    exact fits
  obtain ⟨reported, next, pushes, delivered, rest, heap, results⟩ :=
    Frame.deliver_cases room reached type content
  rw [delivered] at ran
  have called := callWith_of_run fits ran (run.trans rest)
  rw [List.nil_append, results, policy, height, heap] at called
  exact called

/-- A block that checks and reads first, then runs a body, and then delivers its result ends the
call as the body ends, unless the arguments do not fit or the check fails. -/
theorem call_of_prepared {library : Library H} {depth : Nat} {block : Block H.toVocabulary}
    (id : ClosureId) {Prepared Ended : Type} (prepared : Except CallError Prepared)
    (body : Prepared → Option Ended) (left : Ended → Frame H) (reached : Ended → World H)
    {type : ResultType} (content : Ended → type.Val H)
    (refused : ∀ error, prepared = .error error →
      library.callBlock (library.nested depth) block ⟨interpreter.entry arguments, world⟩ =
        some (.error error, ⟨interpreter.entry arguments, world⟩))
    (ran : ∀ read, prepared = .ok read →
      library.callBlock (library.nested depth) block ⟨interpreter.entry arguments, world⟩ =
        (body read).map fun ended => (left ended).deliver (reached ended) type (content ended))
    (steps : ∀ ended, FrameRun (interpreter.entry arguments) [] (left ended)) :
    interpreter.call library depth (.closure id block) arguments world =
      let top := interpreter.stack.size + arguments.length
      if interpreter.policy.stackLimit < top then
        some ((.error (.stackOverflow top interpreter.policy.stackLimit), interpreter), world)
      else
        match prepared with
        | .error error => some ((.error error, interpreter), world)
        | .ok read => (body read).map fun ended =>
            ((interpreter.policy.written top type (content ended),
              { interpreter with heap := (left ended).heap }), reached ended) := by
  have called := library.call_closure depth id block ⟨interpreter.entry arguments, world⟩
  rw [call]
  by_cases crowded : interpreter.policy.stackLimit < interpreter.stack.size + arguments.length
  · rw [callWith_of_not_fits (Nat.not_le_of_lt crowded)]
    exact (if_pos crowded).symm
  · have fits : interpreter.Fits arguments := Nat.le_of_not_lt crowded
    refine Eq.trans ?_ (if_neg crowded).symm
    cases prepared with
    | error error => exact callWith_of_error fits (called.trans (refused error rfl))
    | ok read =>
        have delivers := called.trans (ran read rfl)
        dsimp only
        cases reports : body read with
        | none =>
            rw [reports] at delivers
            exact callWith_of_none fits delivers
        | some ended =>
            rw [reports] at delivers
            exact callWith_of_deliver fits (steps ended) delivers

/-- A call of a free function comes to its application. -/
theorem call_function (library : Library H) (depth : Nat) (id : ClosureId) (name : H.Function)
    (arguments : List (Slot H)) (world : World H) :
    interpreter.call library depth (.closure id (.function name)) arguments world =
      ((library.function name).apply (library.handler depth) interpreter.policy
          interpreter.stack.size arguments world).map fun (outcome, after) =>
        ((outcome, interpreter), after) := by
  have ran : library.callBlock (library.nested depth) (.function name)
        ⟨interpreter.entry arguments, world⟩ =
      (library.function name).call (library.handler depth)
        ⟨interpreter.entry arguments, world⟩ := rfl
  rw [FreeFunction.call, prepare_entry] at ran
  refine (call_of_prepared id (Parameters.read interpreter.policy
    (library.function name).parameters arguments)
    (fun parameters => ((library.function name).run parameters).run (library.handler depth) world)
    (fun _ => interpreter.entry arguments) Prod.snd Prod.fst
    (fun error read => ?_) (fun parameters read => ?_) (fun _ => .refl _)).trans ?_
  · rw [ran, read]
  · rw [ran, read]
  · rw [FreeFunction.apply]
    dsimp only
    split
    · rfl
    · cases Parameters.read interpreter.policy (library.function name).parameters arguments with
      | error error => rfl
      | ok parameters =>
          dsimp only
          rw [Option.map_map]
          rfl

end Interpreter

end HostCall
