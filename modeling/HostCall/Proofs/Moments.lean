import HostCall.Proofs.ReceiverArgument
import HostCall.Proofs.SharedCells
import Mathlib.Logic.Relation

/-!
# The moments of a run

A call is defined by what it comes to.  Here it is taken apart into the moments that it passes
through: a callback is called, a program performs one operation after another, and the slots of
a result are pushed one by one.

`Library.Proceeds` leads from one moment to the next on the frame of one call, also into the
callbacks that are called on the same frame, and `Library.Enters` leads into a call in another
interpreter.  Both say nothing about how a call ends, so the moments of a call are there even if
it never ends.  If it does, they lead to its end (`Library.proceeds_of_call`).

Whatever comes next, the frame is stepped to from the frame before
(`Library.Proceeds.reaches`), and a call in another interpreter starts from the frame of its own
arguments.
-/

set_option autoImplicit false

namespace HostCall

variable {H : Host}

/-! ## Programs with another end -/

namespace Program

variable {Operation State α β : Type} {Answer : Operation → Type}

/-- The program that ends with something made of the value. -/
def map (change : α → β) : Program Operation Answer α → Program Operation Answer β
  | done value => done (change value)
  | step operation next => step operation fun answer => (next answer).map change

theorem run_map (handle : (operation : Operation) → State → Option (Answer operation × State))
    (change : α → β) (program : Program Operation Answer α) (state : State) :
    (program.map change).run handle state =
      (program.run handle state).map fun ended => (change ended.1, ended.2) := by
  induction program generalizing state with
  | done value => rfl
  | step operation next ih =>
      rw [map, run, run]
      cases handle operation state with
      | none => rfl
      | some answered => exact ih answered.1 answered.2

/-- A program that needs no frame leaves the frame at hand alone. -/
theorem run_onFrame (library : Library H) (invoke : Invoker H) (program : HostProgram H α)
    (scene : Scene H) :
    program.onFrame.run (FrameOperation.run library invoke) scene =
      (program.run (HostOperation.run library invoke) scene.world).map fun ended =>
        (ended.1, { scene with world := ended.2 }) := by
  induction program generalizing scene with
  | done value => rfl
  | step operation next ih =>
      rw [onFrame, run, run, FrameOperation.run]
      cases operation.run library invoke scene.world with
      | none => rfl
      | some answered => exact ih answered.1 { scene with world := answered.2 }

end Program

/-! ## How calls end -/

/-- The end of a call: the slots that are still to be pushed, and what the call reports when
they are. -/
structure Closing (H : Host) where
  scene : Scene H
  slots : List (Slot H)
  outcome : Except CallError Nat

/-- What the call comes to: a slot that does not fit fails it. -/
def Closing.result (closing : Closing H) : Except CallError Nat × Scene H :=
  let (pushed, frame) := closing.scene.frame.pushAll closing.slots
  (pushed.bind fun _ => closing.outcome, { closing.scene with frame })

/-- A call that has nothing left to push. -/
def Scene.reporting (scene : Scene H) (outcome : Except CallError Nat) : Closing H :=
  ⟨scene, [], outcome⟩

/-- A call that has its result left to push. -/
def Scene.delivering (scene : Scene H) (type : ResultType) (content : type.Val H) : Closing H :=
  match type.encode content with
  | .error text => scene.reporting (.error (.raised text))
  | .ok slots => ⟨scene, slots, .ok slots.length⟩

theorem Scene.result_delivering (scene : Scene H) (type : ResultType) (content : type.Val H) :
    (scene.delivering type content).result = scene.frame.deliver scene.world type content := by
  rw [delivering, Frame.deliver, Frame.pushResult_eq_pushAll]
  cases type.encode content with
  | error text => rfl
  | ok slots =>
      simp only [Closing.result]
      cases (scene.frame.pushAll slots).1 <;> rfl

theorem Scene.scene_delivering (scene : Scene H) (type : ResultType) (content : type.Val H) :
    (scene.delivering type content).scene = scene := by
  rw [delivering]
  cases type.encode content <;> rfl

/-- How a program goes over into the end of its call.  The frame may be stepped before anything
is pushed. -/
structure Ending (H : Host) where
  close : Scene H → Closing H
  reaches : ∀ scene : Scene H, scene.frame.Reaches (close scene).scene.frame

namespace Ending

/-- The end of a program that has reported an outcome itself. -/
def report (outcome : Except CallError Nat) : Ending H where
  close scene := scene.reporting outcome
  reaches scene := .refl scene.frame

/-- The end of a function: its result is pushed. -/
def ofFunction (function : FreeFunction H) (content : function.result.Val H) : Ending H where
  close scene := scene.delivering function.result content
  reaches scene := by
    rw [scene.scene_delivering]
    exact .refl scene.frame

/-- The end of a method on a receiver in argument 0: the receiver is left there. -/
def ofMethod (method : Method H) (ended : method.result.Val H × H.Value method.receiver) :
    Ending H where
  close scene :=
    { scene with frame := method.leave scene.frame ended.2 }.delivering method.result ended.1
  reaches scene := by
    rw [Scene.scene_delivering]
    exact ⟨_, method.run_leave scene.frame ended.2⟩

/-- The end of a method on a borrowed receiver: the receiver is given back. -/
def ofLoan (method : Method H) (loan : World.Loan H method.receiver)
    (ended : method.result.Val H × H.Value method.receiver) : Ending H where
  close scene :=
    { scene with world := method.giveBack loan scene.world ended.2 }.delivering method.result
      ended.1
  reaches scene := by
    rw [Scene.scene_delivering]
    exact .refl scene.frame

/-- The end of a constructor: the object goes into the heap, and its handle is pushed. -/
def ofConstructor (constructor : Constructor H) (value : H.Value constructor.receiver) :
    Ending H where
  close scene :=
    let (heap, issued) := scene.frame.heap.allocate ⟨constructor.receiver, value⟩
    { scene with frame := { scene.frame with heap } }.delivering (.one (.value .object)) issued
  reaches scene := by
    rw [Scene.scene_delivering]
    exact Frame.reaches_of_step (.allocate scene.frame _)

end Ending

/-! ## Moments -/

/-- What is going on at a moment of a run. -/
inductive Moment (H : Host)
  /-- A callback is called. -/
  | calling (callback : Callback H.toVocabulary) (scene : Scene H)
  /-- A program goes on. -/
  | working (program : FrameProgram H (Ending H)) (scene : Scene H)
  /-- A call ends. -/
  | closing (last : Closing H)

namespace Moment

/-- The frame of the call that is going on, and the world around it. -/
def scene : Moment H → Scene H
  | calling _ scene | working _ scene => scene
  | closing last => last.scene

/-- A call that fails at once. -/
def refused (error : CallError) (scene : Scene H) : Moment H :=
  closing (scene.reporting (.error error))

/-- What is left of the call comes to this, given what the calls that its callables make do. -/
def result? (library : Library H) (invoke : Invoker H) :
    Moment H → Option (Except CallError Nat × Scene H)
  | calling callback scene => library.callWith invoke callback scene
  | working program scene =>
      (program.run (FrameOperation.run library invoke) scene).map fun ended =>
        (ended.1.close ended.2).result
  | closing last => some last.result

/-- How a body may begin. -/
inductive Begins (scene : Scene H) : Moment H → Prop
  | refused (error : CallError) : Begins scene (refused error scene)
  | working (program : FrameProgram H (Ending H)) (world : World H) :
      Begins scene (working program { scene with world })

/-- No body has stepped the frame when it begins. -/
theorem Begins.frame_eq {scene : Scene H} {moment : Moment H} (begins : moment.Begins scene) :
    moment.scene.frame = scene.frame := by
  cases begins <;> rfl

variable (library : Library H) (invoke : Invoker H)

/-- A program that needs no frame, and what is made of its value, in the midst of a call. -/
theorem result?_onFrame {α : Type} (program : HostProgram H α) (ending : α → Ending H)
    (scene : Scene H) :
    (working (program.onFrame.map ending) scene).result? library invoke =
      (program.run (HostOperation.run library invoke) scene.world).map fun ended =>
        ((ending ended.1).close { scene with world := ended.2 }).result := by
  simp only [result?, Program.run_map, Program.run_onFrame, Option.map_map]
  rfl

end Moment

/-! ## How bodies begin -/

/-- A function begins when its arguments have been read. -/
def FreeFunction.opening (function : FreeFunction H) (scene : Scene H) : Moment H :=
  match scene.frame.prepare (.ofParameters function.parameters) function.parameters with
  | .error error => .refused error scene
  | .ok parameters =>
      .working ((function.run parameters).onFrame.map (.ofFunction function)) scene

theorem FreeFunction.begins_opening (function : FreeFunction H) (scene : Scene H) :
    (function.opening scene).Begins scene := by
  rw [opening]
  split
  · exact .refused _
  · exact .working _ scene.world

/-- So does a constructor. -/
def Constructor.opening (constructor : Constructor H) (scene : Scene H) : Moment H :=
  match scene.frame.prepare (.ofParameters constructor.parameters) constructor.parameters with
  | .error error => .refused error scene
  | .ok parameters =>
      .working ((constructor.run parameters).onFrame.map (.ofConstructor constructor)) scene

theorem Constructor.begins_opening (constructor : Constructor H) (scene : Scene H) :
    (constructor.opening scene).Begins scene := by
  rw [opening]
  split
  · exact .refused _
  · exact .working _ scene.world

namespace Method

/-- The body of a method as a program that ends with the value that the receiver then has. -/
def program (method : Method H) (value : H.Value method.receiver)
    (parameters : Parameters H method.parameters) :
    HostProgram H (method.result.Val H × H.Value method.receiver) :=
  match method.body with
  | .shared run => (run value parameters).map (·, value)
  | .exclusive run => run value parameters

theorem run_program (method : Method H) (handle : HostHandler H)
    (value : H.Value method.receiver) (parameters : Parameters H method.parameters)
    (world : World H) :
    (method.program value parameters).run handle world =
      method.runBody handle value parameters world := by
  rw [program, runBody]
  cases method.body with
  | shared run => exact Program.run_map handle _ _ _
  | exclusive run => rfl

/-- A method on argument 0 begins when its receiver and its arguments have been read. -/
def opening (method : Method H) (scene : Scene H) : Moment H :=
  match scene.frame.prepareMember ((Arity.ofParameters method.parameters).shift 1)
    method.receiver method.parameters with
  | .error error => .refused error scene
  | .ok (value, parameters) =>
      .working ((method.program value parameters).onFrame.map (.ofMethod method)) scene

/-- A method on a bound receiver begins when its arguments have been read and the receiver has
been borrowed. -/
def openingBound (method : Method H) (receiver : FixedReceiver) (scene : Scene H) : Moment H :=
  match scene.frame.prepare (.ofParameters method.parameters) method.parameters with
  | .error error => .refused error scene
  | .ok parameters =>
      match scene.world.acquire receiver method.receiver method.access with
      | .error error => .refused error scene
      | .ok (loan, lent) =>
          .working ((method.program loan.value parameters).onFrame.map (.ofLoan method loan))
            { scene with world := lent }

theorem begins_opening (method : Method H) (scene : Scene H) :
    (method.opening scene).Begins scene := by
  rw [opening]
  split
  · exact .refused _
  · exact .working _ scene.world

theorem begins_openingBound (method : Method H) (receiver : FixedReceiver) (scene : Scene H) :
    (method.openingBound receiver scene).Begins scene := by
  rw [openingBound]
  split
  · exact .refused _
  · split
    · exact .refused _
    · exact .working _ _

variable (method : Method H) (library : Library H) (invoke : Invoker H) (scene : Scene H)

theorem result?_opening :
    (method.opening scene).result? library invoke =
      method.call (HostOperation.run library invoke) scene := by
  rw [opening, call_eq]
  cases scene.frame.prepareMember ((Arity.ofParameters method.parameters).shift 1)
      method.receiver method.parameters with
  | error error => rfl
  | ok read =>
      simp only [Moment.result?_onFrame, run_program, Ending.ofMethod, Scene.result_delivering]

theorem result?_openingBound (receiver : FixedReceiver) :
    (method.openingBound receiver scene).result? library invoke =
      method.callBound receiver (HostOperation.run library invoke) scene := by
  rw [openingBound, callBound_eq]
  cases scene.frame.prepare (.ofParameters method.parameters) method.parameters with
  | error error => rfl
  | ok parameters =>
      cases acquired : scene.world.acquire receiver method.receiver method.access with
      | error error => rfl
      | ok loaned =>
          simp only [Moment.result?_onFrame, run_program, Ending.ofLoan, Scene.result_delivering]

end Method

namespace Library

/-- How the call of a closure begins: a wrapped callable checks everything first, and a field is
one of its accessor methods. -/
def opening (library : Library H) (scene : Scene H) : Block H.toVocabulary → Moment H
  | .function name => (library.function name).opening scene
  | .method name => (library.method name).opening scene
  | .boundMethod name receiver => (library.method name).openingBound receiver scene
  | .field name =>
      match scene.frame.argumentCount with
      | 1 => (library.field name).reader.opening scene
      | 2 => (library.field name).writer.opening scene
      | count => .refused (.noCandidate ⟨count, [.exact 1, .exact 2], []⟩) scene
  | .boundField name receiver =>
      match scene.frame.argumentCount with
      | 0 => (library.field name).reader.openingBound receiver scene
      | 1 => (library.field name).writer.openingBound receiver scene
      | count => .refused (.noCandidate ⟨count, [.exact 0, .exact 1], []⟩) scene
  | .construct name => (library.constructor name).opening scene
  | .custom _ name => .working ((library.custom name).run.map .report) scene

variable {library : Library H} {invoke : Invoker H}

/-- A program that has reported an outcome itself comes to that. -/
theorem result?_report (program : FrameProgram H (Except CallError Nat)) (scene : Scene H) :
    (Moment.working (program.map .report) scene).result? library invoke =
      program.run (FrameOperation.run library invoke) scene := by
  rw [Moment.result?, Program.run_map, Option.map_map]
  exact Option.map_id_apply

/-- **The call of a closure is what its beginning comes to.** -/
theorem result?_opening (scene : Scene H) (block : Block H.toVocabulary) :
    (library.opening scene block).result? library invoke =
      library.callBlock invoke block scene := by
  cases block with
  | function name =>
      rw [opening, callBlock, FreeFunction.opening, FreeFunction.call]
      cases scene.frame.prepare (.ofParameters (library.function name).parameters)
          (library.function name).parameters with
      | error error => rfl
      | ok parameters =>
          simp only [Moment.result?_onFrame, Ending.ofFunction, Scene.result_delivering]
  | method name => exact (library.method name).result?_opening library invoke scene
  | boundMethod name receiver =>
      exact (library.method name).result?_openingBound library invoke scene receiver
  | field name =>
      rw [opening, callBlock]
      split
      · rename_i one
        exact (Method.result?_opening _ _ _ _).trans (Field.call_reader _ one)
      · rename_i two
        exact (Method.result?_opening _ _ _ _).trans (Field.call_writer _ two)
      · rename_i notOne notTwo
        have listed : scene.frame.argumentCount ∉ [1, 2] := by
          simpa using And.intro notOne notTwo
        rw [Field.call_of_other listed]
        rfl
  | boundField name receiver =>
      rw [opening, callBlock]
      split
      · rename_i zero
        exact (Method.result?_openingBound _ _ _ _ _).trans (Field.callBound_reader _ zero)
      · rename_i one
        exact (Method.result?_openingBound _ _ _ _ _).trans (Field.callBound_writer _ one)
      · rename_i notZero notOne
        have listed : scene.frame.argumentCount ∉ [0, 1] := by
          simpa using And.intro notZero notOne
        rw [Field.callBound_of_other listed]
        rfl
  | construct name =>
      rw [opening, callBlock, Constructor.opening, Constructor.call]
      cases scene.frame.prepare (.ofParameters (library.constructor name).parameters)
          (library.constructor name).parameters with
      | error error => rfl
      | ok parameters =>
          simp only [Moment.result?_onFrame, Ending.ofConstructor, Scene.result_delivering]
  | custom label name => exact result?_report _ scene

/-- A body is refused, or its program begins, perhaps in a world where its receiver is lent. -/
theorem begins_opening (library : Library H) (scene : Scene H) (block : Block H.toVocabulary) :
    (library.opening scene block).Begins scene := by
  cases block with
  | function name => exact (library.function name).begins_opening scene
  | method name => exact (library.method name).begins_opening scene
  | boundMethod name receiver => exact (library.method name).begins_openingBound receiver scene
  | field name =>
      rw [opening]
      split
      · exact (library.field name).reader.begins_opening scene
      · exact (library.field name).writer.begins_opening scene
      · exact .refused _
  | boundField name receiver =>
      rw [opening]
      split
      · exact (library.field name).reader.begins_openingBound receiver scene
      · exact (library.field name).writer.begins_openingBound receiver scene
      · exact .refused _
  | construct name => exact (library.constructor name).begins_opening scene
  | custom label name => exact .working _ scene.world

/-! ## From one moment to the next -/

/-- The next moment on the frame of the same call, or of a call on the same frame. -/
inductive Proceeds (library : Library H) : Moment H → Moment H → Prop
  | direct (name : H.Raw) (scene : Scene H) :
      Proceeds library (.calling (.direct name) scene)
        (.working ((library.raw name).map .report) scene)
  | closure (id : ClosureId) (block : Block H.toVocabulary) (scene : Scene H) :
      Proceeds library (.calling (.closure id block) scene) (library.opening scene block)
  | router {candidates : List (Callback H.toVocabulary)} {scene : Scene H} {place : Nat}
      {candidate : Callback H.toVocabulary}
      (chosen : library.select scene.frame candidates = .ok place)
      (found : candidates[place]? = some candidate) (id : ClosureId) (shape : Shape)
      (declared : Arity) :
      Proceeds library (.calling (.router id shape declared candidates) scene)
        (.calling candidate scene)
  | mismatch {candidates : List (Callback H.toVocabulary)} {scene : Scene H}
      {mismatch : Mismatch} (failed : library.select scene.frame candidates = .error mismatch)
      (id : ClosureId) (shape : Shape) (declared : Arity) :
      Proceeds library (.calling (.router id shape declared candidates) scene)
        (.refused (.noCandidate mismatch) scene)
  /-- A callback is called on the frame that the program works on. -/
  | invoke (callback : Callback H.toVocabulary)
      (next : Except CallError Nat → FrameProgram H (Ending H)) (scene : Scene H) :
      Proceeds library (.working (.step (.invoke callback) next) scene) (.calling callback scene)
  /-- An operation has been answered, after whatever calls it has made. -/
  | answered {operation : FrameOperation H} {scene after : Scene H} {answer : operation.Answer}
      {depth : Nat}
      (ran : operation.run library (library.nested depth) scene = some (answer, after))
      (next : operation.Answer → FrameProgram H (Ending H)) :
      Proceeds library (.working (.step operation next) scene) (.working (next answer) after)
  | finished (ending : Ending H) (scene : Scene H) :
      Proceeds library (.working (.done ending) scene) (.closing (ending.close scene))
  | pushed {scene : Scene H} {slot : Slot H} {frame : Frame H}
      (done : scene.frame.push slot = .ok frame) (slots : List (Slot H))
      (outcome : Except CallError Nat) :
      Proceeds library (.closing ⟨scene, slot :: slots, outcome⟩)
        (.closing ⟨{ scene with frame }, slots, outcome⟩)
  | overflowed {scene : Scene H} {slot : Slot H} {error : CallError}
      (full : scene.frame.push slot = .error error) (slots : List (Slot H))
      (outcome : Except CallError Nat) :
      Proceeds library (.closing ⟨scene, slot :: slots, outcome⟩) (.refused error scene)

/-- A program calls a callback in an interpreter, and the arguments fit there. -/
inductive Enters : Moment H → Moment H → Prop
  | call {interpreter : Interpreter H} {arguments : List (Slot H)}
      (fits : interpreter.Fits arguments) (callback : Callback H.toVocabulary)
      (next : Except CallError (List (Slot H)) × Interpreter H → FrameProgram H (Ending H))
      (scene : Scene H) :
      Enters (.working (.step (.host (.call interpreter callback arguments)) next) scene)
        (.calling callback ⟨interpreter.entry arguments, scene.world⟩)

/-- One moment comes after another, in the same call or in one that it makes. -/
def Follows (library : Library H) (first next : Moment H) : Prop :=
  library.Proceeds first next ∨ Enters first next

/-- The calls that callables make go by steps as well. -/
theorem goesBySteps_nested (library : Library H) (depth : Nat) :
    (library.nested depth).GoesBySteps := by
  cases depth with
  | zero =>
      intro callback scene outcome after called
      cases called
  | succ depth => exact library.goesBySteps_call depth

/-- **What comes next is on a frame that steps lead to.** -/
theorem Proceeds.reaches {first next : Moment H} (proceeds : library.Proceeds first next) :
    first.scene.frame.Reaches next.scene.frame := by
  cases proceeds with
  | direct name scene | router chosen found id shape declared | mismatch failed id shape declared
  | invoke callback next scene | overflowed full slots outcome => exact .refl _
  | closure id block scene =>
      rw [(library.begins_opening scene block).frame_eq]
      exact .refl scene.frame
  | answered ran next => exact FrameOperation.reaches_of_run (goesBySteps_nested library _) ran
  | finished ending scene => exact ending.reaches scene
  | pushed done slots outcome => exact Frame.reaches_of_step (.push _ done)

/-! ## To the end of a call -/

section Ends

open Relation (ReflTransGen)

/-- The slots of a result are pushed one by one, up to the first that does not fit. -/
theorem proceeds_of_closing (library : Library H) (last : Closing H) :
    ReflTransGen library.Proceeds (.closing last)
      (.closing (last.result.2.reporting last.result.1)) := by
  obtain ⟨scene, slots, outcome⟩ := last
  induction slots generalizing scene with
  | nil => exact .refl
  | cons slot slots ih =>
      cases pushed : scene.frame.push slot with
      | error error =>
          have ended : Closing.result ⟨scene, slot :: slots, outcome⟩ = (.error error, scene) := by
            simp only [Closing.result, Frame.pushAll, pushed]
            rfl
          rw [ended]
          exact .single (.overflowed pushed slots outcome)
      | ok frame =>
          have ended : Closing.result ⟨scene, slot :: slots, outcome⟩ =
              Closing.result ⟨{ scene with frame }, slots, outcome⟩ := by
            simp only [Closing.result, Frame.pushAll, pushed]
          rw [ended]
          exact .head (.pushed pushed slots outcome) (ih { scene with frame })

/-- A program performs its operations one by one, and then its call ends. -/
theorem proceeds_of_working {depth : Nat} {program : FrameProgram H (Ending H)}
    {scene after : Scene H} {outcome : Except CallError Nat}
    (ended : (Moment.working program scene).result? library (library.nested depth) =
      some (outcome, after)) :
    ReflTransGen library.Proceeds (.working program scene)
      (.closing (after.reporting outcome)) := by
  induction program generalizing scene with
  | done ending =>
      have same : (ending.close scene).result = (outcome, after) := Option.some.inj ended
      have closes := proceeds_of_closing library (ending.close scene)
      rw [same] at closes
      exact .head (.finished ending scene) closes
  | step operation next ih =>
      rw [Moment.result?, Program.run] at ended
      cases answered : operation.run library (library.nested depth) scene with
      | none =>
          rw [answered] at ended
          cases ended
      | some result =>
          obtain ⟨answer, middle⟩ := result
          rw [answered] at ended
          exact .head (.answered answered next) (ih answer ended)

/-- The beginning of a body leads to its end. -/
theorem proceeds_of_opening {depth : Nat} {block : Block H.toVocabulary} {scene after : Scene H}
    {outcome : Except CallError Nat}
    (called : library.callBlock (library.nested depth) block scene = some (outcome, after)) :
    ReflTransGen library.Proceeds (library.opening scene block)
      (.closing (after.reporting outcome)) := by
  rw [← result?_opening] at called
  have begins := library.begins_opening scene block
  generalize library.opening scene block = moment at called begins
  cases begins with
  | refused error =>
      cases called
      exact .refl
  | working program world => exact proceeds_of_working called

/-- **The moments of a call lead to its end**, if it has one. -/
theorem proceeds_of_call {depth : Nat} {callback : Callback H.toVocabulary}
    {scene after : Scene H} {outcome : Except CallError Nat}
    (called : library.call depth callback scene = some (outcome, after)) :
    ReflTransGen library.Proceeds (.calling callback scene)
      (.closing (after.reporting outcome)) := by
  rw [call_eq_callWith_nested] at called
  induction callback using Callback.inductionOn with
  | direct name =>
      rw [callWith, ← result?_report] at called
      exact .head (.direct name scene) (proceeds_of_working called)
  | closure id block =>
      rw [callWith] at called
      exact .head (.closure id block scene) (proceeds_of_opening called)
  | router id shape declared candidates ih =>
      cases found : candidates.find? (library.takes scene.frame) with
      | none =>
          obtain ⟨mismatch, failed, _⟩ := select_of_find?_eq_none found
          rw [callWith_router_of_mismatch failed] at called
          cases called
          exact .single (.mismatch failed id shape declared)
      | some candidate =>
          obtain ⟨place, chosen, atPlace⟩ := select_of_find?_eq_some found
          rw [callWith_router_of_select chosen atPlace] at called
          exact .head (.router chosen atPlace id shape declared)
            (ih candidate (List.mem_of_find?_eq_some found) called)

end Ends

end Library

end HostCall
