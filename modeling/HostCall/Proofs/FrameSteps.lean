import HostCall.Proofs.Checks
import HostCall.Proofs.Selection

/-!
# What a call does to its frame

Whatever a callable does with the frame of its call, it comes to a few kinds of steps:
a slot is pushed, the receiver in argument 0 is overwritten, or an object of the heap is
allocated, freed or overwritten.  A `FrameRun` is a sequence of them, with the slots that
were pushed on the way, in order.

Every call is a run of such steps, whether its callable is wrapped or works on frames
itself, and however deep the calls nest that it makes on the same frame
(`Library.goesBySteps_call`).  So what every step keeps, every call keeps: the frame stays
where it is, the slots below it stay as they are (`FrameRun.sameFooting`), and the pushed
slots lie above its arguments in the order in which they were pushed
(`FrameRun.pushedSlots_eq`).
-/

set_option autoImplicit false

namespace HostCall

variable {H : Host}

/-! ## Steps -/

/-- One step of a callable on its frame, and the slots it pushes. -/
inductive FrameStep : Frame H → List (Slot H) → Frame H → Prop
  | push {frame next : Frame H} (slot : Slot H) (done : frame.push slot = .ok next) :
      FrameStep frame [slot] next
  | setReceiver {frame next : Frame H} (type : H.Receiver) (value : H.Value type)
      (done : frame.setReceiver type value = .ok next) : FrameStep frame [] next
  | allocate (frame : Frame H) (object : Object H) :
      FrameStep frame [] { frame with heap := (frame.heap.allocate object).1 }
  | free (frame : Frame H) (handle : Handle H.toVocabulary) :
      FrameStep frame [] { frame with heap := (frame.heap.free handle).1 }
  | setObject {frame : Frame H} {heap : Heap H} (handle : Handle H.toVocabulary)
      (type : H.Receiver) (value : H.Value type)
      (done : frame.heap.set handle type value = .ok heap) :
      FrameStep frame [] { frame with heap }

/-- Some steps one after another, and the slots they push in order. -/
inductive FrameRun : Frame H → List (Slot H) → Frame H → Prop
  | refl (frame : Frame H) : FrameRun frame [] frame
  | step {first middle last : Frame H} {slots later : List (Slot H)}
      (step : FrameStep first slots middle) (rest : FrameRun middle later last) :
      FrameRun first (slots ++ later) last

theorem FrameStep.run {first last : Frame H} {slots : List (Slot H)}
    (step : FrameStep first slots last) : FrameRun first slots last := by
  simpa only [List.append_nil] using FrameRun.step step (.refl last)

theorem FrameRun.trans {first middle last : Frame H} {slots later : List (Slot H)}
    (run : FrameRun first slots middle) (rest : FrameRun middle later last) :
    FrameRun first (slots ++ later) last := by
  induction run with
  | refl frame => exact rest
  | step step _ ih =>
      rw [List.append_assoc]
      exact .step step (ih rest)

/-! ## What a step keeps -/

namespace Frame

/-- The slots pushed since the call started, in order. -/
def pushedSlots (frame : Frame H) : List (Slot H) := frame.stack.toList.drop frame.top

theorem length_pushedSlots (frame : Frame H) : frame.pushedSlots.length = frame.pushed := by
  rw [pushedSlots, List.length_drop, Array.length_toList, pushed]

/-- The slots below the frame. -/
def below (frame : Frame H) : List (Slot H) := frame.stack.toList.take frame.base

/-- A receiver is only ever written where there is an argument 0. -/
theorem base_lt_top_of_receiverSlot {frame : Frame H} {slot : Slot H}
    (found : frame.receiverSlot = .ok slot) : frame.base < frame.top := by
  have present : frame.argument? 0 ≠ none := by
    intro missing
    rw [receiverSlot, missing] at found
    cases found
  rw [ne_eq, argument?_eq_none_iff, argumentCount] at present
  omega

/-- Overwriting the receiver changes the slot of argument 0 or the heap, and nothing else. -/
theorem setReceiver_cases {frame next : Frame H} {type : H.Receiver} {value : H.Value type}
    (done : frame.setReceiver type value = .ok next) :
    (frame.base < frame.top ∧ next.base = frame.base ∧ next.top = frame.top ∧
        next.policy = frame.policy ∧ next.heap = frame.heap ∧
        next.stack = frame.stack.setIfInBounds frame.base (.native ⟨type, value⟩)) ∨
      ∃ handle heap, frame.receiverSlot = .ok (.object handle) ∧
        frame.heap.set handle type value = .ok heap ∧ next = { frame with heap } := by
  rw [setReceiver_eq] at done
  split at done
  · cases done
  · rename_i found
    split at done
    · cases done
      exact .inl ⟨base_lt_top_of_receiverSlot found, rfl, rfl, rfl, rfl, rfl⟩
    · cases done
  · rename_i handle found
    cases changed : frame.heap.set handle type value with
    | error error =>
        rw [changed] at done
        cases done
    | ok heap =>
        rw [changed] at done
        cases done
        exact .inr ⟨handle, heap, found, changed, rfl⟩
  · cases done

end Frame

/-- What a step never changes: where the frame is, its policy and the slots below it. -/
structure SameFooting (first last : Frame H) : Prop where
  base : last.base = first.base
  top : last.top = first.top
  policy : last.policy = first.policy
  below : last.below = first.below

theorem SameFooting.refl (frame : Frame H) : SameFooting frame frame := ⟨rfl, rfl, rfl, rfl⟩

theorem SameFooting.trans {first middle last : Frame H} (left : SameFooting first middle)
    (right : SameFooting middle last) : SameFooting first last :=
  ⟨right.base.trans left.base, right.top.trans left.top, right.policy.trans left.policy,
    right.below.trans left.below⟩

theorem FrameStep.sameFooting {first last : Frame H} {slots : List (Slot H)}
    (step : FrameStep first slots last) : SameFooting first last := by
  cases step with
  | push slot done =>
      rw [Frame.push] at done
      split at done
      · cases done
      · cases done
        have inside := Nat.le_trans first.base_le_top first.top_le_size
        refine ⟨rfl, rfl, rfl, ?_⟩
        simp only [Frame.below, Array.toList_push]
        rw [List.take_append_of_le_length (by simpa using inside)]
  | setReceiver type value done =>
      rcases Frame.setReceiver_cases done with
        ⟨_, base, top, policy, _, stack⟩ | ⟨_, _, _, _, rfl⟩
      · refine ⟨base, top, policy, ?_⟩
        rw [Frame.below, Frame.below, stack, base, Array.toList_setIfInBounds,
          List.take_set_of_le (Nat.le_refl _)]
      · exact ⟨rfl, rfl, rfl, rfl⟩
  | allocate object => exact ⟨rfl, rfl, rfl, rfl⟩
  | free handle => exact ⟨rfl, rfl, rfl, rfl⟩
  | setObject handle type value done => exact ⟨rfl, rfl, rfl, rfl⟩

/-- A step adds the slots it pushes above those pushed before. -/
theorem FrameStep.pushedSlots_eq {first last : Frame H} {slots : List (Slot H)}
    (step : FrameStep first slots last) : last.pushedSlots = first.pushedSlots ++ slots := by
  cases step with
  | push slot done =>
      rw [Frame.push] at done
      split at done
      · cases done
      · cases done
        simp only [Frame.pushedSlots, Array.toList_push]
        rw [List.drop_append_of_le_length (by simpa using first.top_le_size)]
  | setReceiver type value done =>
      rw [List.append_nil]
      rcases Frame.setReceiver_cases done with
        ⟨inside, _, top, _, _, stack⟩ | ⟨_, _, _, _, rfl⟩
      · rw [Frame.pushedSlots, Frame.pushedSlots, stack, top, Array.toList_setIfInBounds,
          List.drop_set_of_lt inside]
      · rfl
  | allocate object => exact (List.append_nil _).symm
  | free handle => exact (List.append_nil _).symm
  | setObject handle type value done => exact (List.append_nil _).symm

theorem FrameRun.sameFooting {first last : Frame H} {slots : List (Slot H)}
    (run : FrameRun first slots last) : SameFooting first last := by
  induction run with
  | refl frame => exact .refl frame
  | step step _ ih => exact step.sameFooting.trans ih

theorem FrameRun.pushedSlots_eq {first last : Frame H} {slots : List (Slot H)}
    (run : FrameRun first slots last) : last.pushedSlots = first.pushedSlots ++ slots := by
  induction run with
  | refl frame => exact (List.append_nil _).symm
  | step step _ ih => rw [ih, step.pushedSlots_eq, List.append_assoc]

/-! ## Frames that steps lead to -/

namespace Frame

/-- Some steps lead from the one frame to the other. -/
def Reaches (first last : Frame H) : Prop := ∃ slots, FrameRun first slots last

theorem Reaches.refl (frame : Frame H) : frame.Reaches frame := ⟨[], .refl frame⟩

theorem Reaches.trans {first middle last : Frame H} (left : first.Reaches middle)
    (right : middle.Reaches last) : first.Reaches last := by
  obtain ⟨slots, run⟩ := left
  obtain ⟨later, rest⟩ := right
  exact ⟨slots ++ later, run.trans rest⟩

theorem reaches_of_step {first last : Frame H} {slots : List (Slot H)}
    (step : FrameStep first slots last) : first.Reaches last :=
  ⟨slots, step.run⟩

/-- Pushing slots stops at the first that does not fit; those before it were pushed. -/
theorem reaches_pushAll (frame : Frame H) (slots : List (Slot H)) :
    frame.Reaches (frame.pushAll slots).2 := by
  induction slots generalizing frame with
  | nil => exact .refl frame
  | cons slot slots ih =>
      rw [pushAll]
      cases pushed : frame.push slot with
      | error error => exact .refl frame
      | ok next => exact (reaches_of_step (.push slot pushed)).trans (ih next)

theorem reaches_deliver (frame : Frame H) (world : World H) (type : ResultType)
    (content : type.Val H) : frame.Reaches (frame.deliver world type content).2.frame := by
  rw [deliver, pushResult_eq_pushAll]
  cases type.encode content with
  | error text => exact .refl frame
  | ok slots => exact reaches_pushAll frame slots

theorem reaches_putReceiver (frame : Frame H) (type : H.Receiver) (value : H.Value type) :
    frame.Reaches (frame.putReceiver type value) := by
  rw [putReceiver]
  cases written : frame.setReceiver type value with
  | error error => exact .refl frame
  | ok next => exact reaches_of_step (.setReceiver type value written)

end Frame

/-- An operation that replaces the frame or fails takes a step if it succeeds. -/
theorem Scene.reaches_of_attempt {scene after : Scene H} {outcome : Except CallError (Frame H)}
    {answer : Except CallError Unit}
    (ran : some (scene.attempt outcome) = some (answer, after))
    (steps : ∀ next, outcome = .ok next → scene.frame.Reaches next) :
    scene.frame.Reaches after.frame := by
  cases outcome with
  | error error =>
      cases ran
      exact .refl scene.frame
  | ok next =>
      cases ran
      exact steps next rfl

/-! ## Callables go by steps -/

/-- Whatever a call does, it leaves a frame that steps lead to. -/
def Invoker.GoesBySteps (invoke : Invoker H) : Prop :=
  ∀ callback scene outcome after, invoke callback scene = some (outcome, after) →
    scene.frame.Reaches after.frame

section Runs

variable {library : Library H} {invoke : Invoker H}

/-- Each operation takes a step, leaves the frame alone, or is a call on the frame. -/
theorem FrameOperation.reaches_of_run (nested : invoke.GoesBySteps)
    {operation : FrameOperation H} {scene after : Scene H} {answer : operation.Answer}
    (ran : operation.run library invoke scene = some (answer, after)) :
    scene.frame.Reaches after.frame := by
  cases operation with
  | host operation =>
      obtain ⟨reached, _, same⟩ := Option.map_eq_some_iff.mp ran
      cases same
      exact .refl scene.frame
  | look | accepts callback | select candidates =>
      cases ran
      exact .refl scene.frame
  | push slot =>
      exact Scene.reaches_of_attempt ran fun next pushed =>
        Frame.reaches_of_step (.push slot pushed)
  | setReceiver object =>
      exact Scene.reaches_of_attempt ran fun next written =>
        Frame.reaches_of_step (.setReceiver object.receiver object.value written)
  | allocate object =>
      cases ran
      exact Frame.reaches_of_step (.allocate scene.frame object)
  | free handle =>
      cases ran
      exact Frame.reaches_of_step (.free scene.frame handle)
  | setObject handle object =>
      refine Scene.reaches_of_attempt ran fun next written => ?_
      cases changed : scene.frame.heap.set handle object.receiver object.value with
      | error error =>
          rw [changed] at written
          cases written
      | ok heap =>
          rw [changed] at written
          cases written
          exact Frame.reaches_of_step
            (.setObject handle object.receiver object.value changed)
  | invoke callback => exact nested callback scene answer after ran

/-- A program on a frame goes by steps, whatever it makes of the answers. -/
theorem Program.reaches_of_run (nested : invoke.GoesBySteps) {α : Type}
    {program : FrameProgram H α} {scene after : Scene H} {value : α}
    (ran : program.run (FrameOperation.run library invoke) scene = some (value, after)) :
    scene.frame.Reaches after.frame := by
  induction program generalizing scene with
  | done value =>
      cases ran
      exact .refl after.frame
  | step operation next ih =>
      rw [Program.run] at ran
      cases answered : operation.run library invoke scene with
      | none =>
          rw [answered] at ran
          cases ran
      | some result =>
          obtain ⟨answer, middle⟩ := result
          rw [answered] at ran
          exact (FrameOperation.reaches_of_run nested answered).trans (ih answer ran)

/-! ## Bodies -/

/-- The block stands for a wrapped callable, not for one that works on frames itself. -/
def Block.isWrapped {V : Vocabulary} : Block V → Bool
  | .custom _ _ => false
  | _ => true

/-- How the body of a wrapped callable ends: a result is delivered on the frame, or there is
none to deliver.  The frame may have been stepped to before. -/
inductive BodyEnd (frame : Frame H) : Except CallError Nat × Scene H → Prop
  | delivered {next : Frame H} (reached : frame.Reaches next) (world : World H)
      (type : ResultType) (content : type.Val H) :
      BodyEnd frame (next.deliver world type content)
  | silent {next : Frame H} (reached : frame.Reaches next) (world : World H) :
      BodyEnd frame (.ok 0, ⟨next, world⟩)

theorem BodyEnd.reaches {frame : Frame H} {result : Except CallError Nat × Scene H}
    (ended : BodyEnd frame result) : frame.Reaches result.2.frame := by
  cases ended with
  | delivered reached world type content =>
      exact reached.trans (Frame.reaches_deliver _ world type content)
  | silent reached world => exact reached

/-- A program whose runs all end so ends so. -/
theorem BodyEnd.of_map {α : Type} {frame : Frame H} {ran : Option (α × World H)}
    {finish : α × World H → Except CallError Nat × Scene H}
    {result : Except CallError Nat × Scene H} (ended : some result = ran.map finish)
    (ends : ∀ reached, BodyEnd frame (finish reached)) : BodyEnd frame result := by
  obtain ⟨reached, _, rfl⟩ := Option.map_eq_some_iff.mp ended.symm
  exact ends reached

/-- The body of each wrapped callable ends in one of the two ways. -/
theorem Library.bodyEnd_of_runsBody {scene : Scene H}
    {result : Except CallError Nat × Scene H} {block : Block H.toVocabulary}
    (wrapped : block.isWrapped = true)
    (runs : library.RunsBody invoke scene (some result) block) :
    BodyEnd scene.frame result := by
  cases block with
  | function name =>
      obtain ⟨parameters, _, ended⟩ := runs
      exact .of_map ended fun (content, world) => .delivered (.refl _) world _ content
  | method name =>
      obtain ⟨value, parameters, _, _, ended⟩ := runs
      cases body : (library.method name).body with
      | shared run =>
          rw [body] at ended
          exact .of_map ended fun (content, world) => .delivered (.refl _) world _ content
      | exclusive run =>
          rw [body] at ended
          exact .of_map ended fun ((content, changed), world) =>
            .delivered (scene.frame.reaches_putReceiver _ changed) world _ content
  | boundMethod name receiver =>
      obtain ⟨parameters, loan, borrowed, _, _, ended⟩ := runs
      cases body : (library.method name).body with
      | shared run =>
          rw [body] at ended
          exact .of_map ended fun (content, world) =>
            .delivered (.refl _) (world.release loan) _ content
      | exclusive run =>
          rw [body] at ended
          exact .of_map ended fun ((content, changed), world) =>
            .delivered (.refl _) (world.releaseWith loan changed) _ content
  | field name =>
      obtain ⟨value, _, ⟨_, ended⟩ | ⟨_, content, _, ended⟩⟩ := runs
      · cases ended
        exact .delivered (.refl _) scene.world _ _
      · cases ended
        exact .silent (scene.frame.reaches_putReceiver _ _) scene.world
  | boundField name receiver =>
      obtain ⟨_, loan, borrowed, _, ended⟩ | ⟨_, content, loan, borrowed, _, _, ended⟩ := runs
      · cases ended
        exact .delivered (.refl _) (borrowed.release loan) _ _
      · cases ended
        exact .silent (.refl _) _
  | construct name =>
      obtain ⟨parameters, _, ended⟩ := runs
      exact .of_map ended fun (value, world) =>
        .delivered (Frame.reaches_of_step (.allocate scene.frame _)) world _ _
  | custom label name => cases wrapped

/-! ## Calls -/

namespace Library

/-- A failed check leaves the frame alone, and a body goes by steps. -/
theorem reaches_of_callBlock (nested : invoke.GoesBySteps) {block : Block H.toVocabulary}
    {scene after : Scene H} {outcome : Except CallError Nat}
    (called : library.callBlock invoke block scene = some (outcome, after)) :
    scene.frame.Reaches after.frame := by
  have checked := checked_block library invoke scene block
  rw [Checked, called] at checked
  cases failed : firstFailure scene (library.checks scene.frame.argumentCount block) with
  | some error =>
      rw [failed] at checked
      cases checked
      exact .refl scene.frame
  | none =>
      rw [failed] at checked
      cases wrapped : block.isWrapped with
      | true => exact (bodyEnd_of_runsBody wrapped checked).reaches
      | false =>
          cases block with
          | custom label name => exact Program.reaches_of_run nested called
          | _ => cases wrapped

/-- So does the call of a callback, down its tree of routers. -/
theorem goesBySteps_callWith (nested : invoke.GoesBySteps) :
    Invoker.GoesBySteps (library.callWith invoke) := by
  intro callback
  induction callback using Callback.inductionOn with
  | direct name =>
      intro scene outcome after called
      rw [callWith] at called
      exact Program.reaches_of_run nested called
  | closure id block =>
      intro scene outcome after called
      rw [callWith] at called
      exact reaches_of_callBlock nested called
  | router id shape declared candidates ih =>
      intro scene outcome after called
      cases found : candidates.find? (library.takes scene.frame) with
      | none =>
          obtain ⟨mismatch, _, fails⟩ := failsBeforeBody_of_find?_eq_none found id shape declared
          rw [fails.callWith_eq] at called
          cases called
          exact .refl scene.frame
      | some candidate =>
          rw [callWith_router_of_find?_eq_some found] at called
          exact ih candidate (List.mem_of_find?_eq_some found) scene outcome after called

/-- **Every call goes by steps**, however deep the calls nest that its callables make. -/
theorem goesBySteps_call (library : Library H) (depth : Nat) :
    Invoker.GoesBySteps (library.call depth) := by
  induction depth with
  | zero =>
      intro callback
      exact goesBySteps_callWith (fun _ _ _ _ called => by cases called) callback
  | succ depth ih => exact goesBySteps_callWith ih

end Library

end Runs

end HostCall
