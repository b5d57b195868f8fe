import HostCall.Proofs.FrameSteps
import HostCall.Registration

/-!
# The stack of an interpreter

A call in an interpreter puts its arguments on the value stack, lets the callback run on the
frame above what was there, and takes the frame down again.  Since a callback goes by steps
(`Library.goesBySteps_call`), it never touches the slots below its frame, and the slots
above its arguments are those that were pushed, in order.

So the stack after a call is the stack before it, whatever the outcome; the results are the
last of the pushed slots, as many as the callback reported; and a callback that reports more
than were pushed fails the call (`Interpreter.call_restores_stack`).  Nothing else that can
be done with an interpreter touches its stack, and therefore it is empty between calls.
-/

set_option autoImplicit false

namespace HostCall

variable {H : Host}

namespace Interpreter

/-! ## The frame of a call -/

/-- The frame that a call enters: its arguments, on top of what was on the stack. -/
def entry (interpreter : Interpreter H) (arguments : List (Slot H)) : Frame H :=
  .enter (interpreter.stack ++ arguments) interpreter.stack.size interpreter.heap
    interpreter.policy

theorem toList_entry (interpreter : Interpreter H) (arguments : List (Slot H)) :
    (interpreter.entry arguments).stack.toList = interpreter.stack.toList ++ arguments :=
  Array.toList_appendList

theorem base_entry (interpreter : Interpreter H) (arguments : List (Slot H)) :
    (interpreter.entry arguments).base = interpreter.stack.size := by
  have height := congrArg List.length (interpreter.toList_entry arguments)
  simp only [entry, Frame.enter, Array.length_toList, List.length_append] at height ⊢
  omega

/-- At its start a call has pushed nothing. -/
theorem pushedSlots_entry (interpreter : Interpreter H) (arguments : List (Slot H)) :
    (interpreter.entry arguments).pushedSlots = [] := by
  rw [Frame.pushedSlots, List.drop_eq_nil_iff, Array.length_toList]
  exact Nat.le_refl _

/-- Below the frame of a call lies what was on the stack. -/
theorem below_entry (interpreter : Interpreter H) (arguments : List (Slot H)) :
    (interpreter.entry arguments).below = interpreter.stack.toList := by
  rw [Frame.below, base_entry, toList_entry, ← Array.length_toList, List.take_left]

variable {interpreter : Interpreter H} {arguments : List (Slot H)} {frame : Frame H}

/-- The slots that a run pushes on the frame of a call are there when it ends, and no
others. -/
theorem pushedSlots_of_run {slots : List (Slot H)}
    (run : FrameRun (interpreter.entry arguments) slots frame) : frame.pushedSlots = slots := by
  rw [run.pushedSlots_eq, pushedSlots_entry, List.nil_append]

/-- After any steps, what lies below the frame of a call is the stack as it was. -/
theorem take_of_sameFooting (same : SameFooting (interpreter.entry arguments) frame) :
    frame.stack.take interpreter.stack.size = interpreter.stack := by
  have kept : frame.below = interpreter.stack.toList := by
    rw [same.below, below_entry]
  rw [Frame.below, same.base, base_entry] at kept
  apply Array.toList_inj.mp
  rw [← kept]
  simp

end Interpreter

/-! ## Results -/

/-- The last slots of a stack, no more than were pushed, are the last pushed slots. -/
theorem Frame.drop_of_le_pushed {frame : Frame H} {count : Nat} (few : count ≤ frame.pushed) :
    frame.stack.toList.drop (frame.stack.size - count) =
      frame.pushedSlots.drop (frame.pushedSlots.length - count) := by
  have inside := frame.top_le_size
  rw [length_pushedSlots, pushedSlots, List.drop_drop]
  rw [pushed] at few ⊢
  congr 1
  omega

/-- The results of a call whose callback pushed some slots and reported an outcome. -/
def resultsOf (slots : List (Slot H)) : Except CallError Nat → Except CallError (List (Slot H))
  | .error error => .error error
  | .ok count =>
      if count ≤ slots.length then .ok (slots.drop (slots.length - count))
      else .error (.overclaim count slots.length)

theorem resultsOf_eq_ok_iff {slots results : List (Slot H)} {reported : Except CallError Nat} :
    resultsOf slots reported = .ok results ↔
      ∃ count, reported = .ok count ∧ count ≤ slots.length ∧
        results = slots.drop (slots.length - count) := by
  cases reported with
  | error error => simp [resultsOf]
  | ok count =>
      rw [resultsOf]
      by_cases few : count ≤ slots.length
      · rw [if_pos few]
        constructor
        · intro same
          exact ⟨count, rfl, few, (Except.ok.inj same).symm⟩
        · rintro ⟨_, same, _, rfl⟩
          cases same
          rfl
      · rw [if_neg few]
        constructor
        · intro same
          cases same
        · rintro ⟨_, same, enough, _⟩
          cases same
          exact absurd enough few

namespace Interpreter

/-! ## Calls -/

/-- The arguments of a call leave the stack within its limit. -/
def Fits (interpreter : Interpreter H) (arguments : List (Slot H)) : Prop :=
  interpreter.stack.size + arguments.length ≤ interpreter.policy.stackLimit

section Calls

variable {invoke : Invoker H} {interpreter : Interpreter H} {arguments : List (Slot H)}

theorem callWith_of_not_fits (crowded : ¬ interpreter.Fits arguments)
    (callback : Callback H.toVocabulary) (world : World H) :
    interpreter.callWith invoke callback arguments world =
      some ((.error (.stackOverflow (interpreter.stack.size + arguments.length)
        interpreter.policy.stackLimit), interpreter), world) := by
  rw [callWith]
  exact if_pos (Nat.lt_of_not_le crowded)

/-- When the arguments fit and the callback went by steps, the results are among the slots
pushed on the way, and what is left of the frame is its heap. -/
theorem callWith_of_run {callback : Callback H.toVocabulary} {world reached : World H}
    {reported : Except CallError Nat} {frame : Frame H} {pushes : List (Slot H)}
    (fits : interpreter.Fits arguments)
    (ran : invoke callback ⟨interpreter.entry arguments, world⟩ =
      some (reported, ⟨frame, reached⟩))
    (run : FrameRun (interpreter.entry arguments) pushes frame) :
    interpreter.callWith invoke callback arguments world =
      some ((resultsOf pushes reported, { interpreter with heap := frame.heap }), reached) := by
  have restored := take_of_sameFooting run.sameFooting
  have pushed := pushedSlots_of_run run
  rw [callWith]
  simp only [if_neg (Nat.not_lt_of_le fits)]
  rw [← entry]
  simp only [ran, restored]
  cases reported with
  | error error => rfl
  | ok count =>
      rw [← pushed]
      simp only [resultsOf, Frame.length_pushedSlots]
      by_cases few : count ≤ frame.pushed
      · simp only [if_pos few, Frame.drop_of_le_pushed few, Frame.length_pushedSlots]
      · simp only [if_neg few]

/-- The two ways a call can go, when callbacks go by steps. -/
theorem callWith_cases (steps : invoke.GoesBySteps) {callback : Callback H.toVocabulary}
    {world reached : World H} {outcome : Except CallError (List (Slot H))}
    {after : Interpreter H}
    (called : interpreter.callWith invoke callback arguments world =
      some ((outcome, after), reached)) :
    (¬ interpreter.Fits arguments ∧ after = interpreter ∧
        outcome = .error (.stackOverflow (interpreter.stack.size + arguments.length)
          interpreter.policy.stackLimit)) ∨
      (interpreter.Fits arguments ∧ ∃ reported frame pushes,
        invoke callback ⟨interpreter.entry arguments, world⟩ =
            some (reported, ⟨frame, reached⟩) ∧
          FrameRun (interpreter.entry arguments) pushes frame ∧
          outcome = resultsOf pushes reported ∧
          after = { interpreter with heap := frame.heap }) := by
  by_cases fits : interpreter.Fits arguments
  · cases ran : invoke callback ⟨interpreter.entry arguments, world⟩ with
    | none =>
        rw [callWith] at called
        simp only [if_neg (Nat.not_lt_of_le fits)] at called
        rw [← entry] at called
        simp only [ran] at called
        cases called
    | some result =>
        obtain ⟨reported, ⟨frame, last⟩⟩ := result
        obtain ⟨pushes, run⟩ := steps callback _ reported _ ran
        rw [callWith_of_run fits ran run] at called
        cases called
        exact .inr ⟨fits, reported, frame, pushes, rfl, run, rfl, rfl⟩
  · rw [callWith_of_not_fits fits] at called
    cases called
    exact .inl ⟨fits, rfl, rfl⟩

end Calls

/-- Callbacks that do the same on the frame of a call do the same when they are called. -/
theorem call_congr {library : Library H} {depth : Nat} {interpreter : Interpreter H}
    {arguments : List (Slot H)} {world : World H} {callback other : Callback H.toVocabulary}
    (same : library.call depth callback ⟨interpreter.entry arguments, world⟩ =
      library.call depth other ⟨interpreter.entry arguments, world⟩) :
    interpreter.call library depth callback arguments world =
      interpreter.call library depth other arguments world := by
  rw [entry] at same
  simp only [call, callWith, same]

/-- A call changes nothing of an interpreter but its heap. -/
theorem exists_heap_of_call {library : Library H} {depth : Nat} {interpreter : Interpreter H}
    {callback : Callback H.toVocabulary} {arguments : List (Slot H)} {world reached : World H}
    {outcome : Except CallError (List (Slot H))} {after : Interpreter H}
    (called : interpreter.call library depth callback arguments world =
      some ((outcome, after), reached)) : ∃ heap, after = { interpreter with heap } := by
  rcases callWith_cases (library.goesBySteps_call depth) called with
    ⟨_, rfl, _⟩ | ⟨_, _, frame, _, _, _, _, rfl⟩
  · exact ⟨after.heap, rfl⟩
  · exact ⟨frame.heap, rfl⟩

theorem stack_of_call {library : Library H} {depth : Nat} {interpreter : Interpreter H}
    {callback : Callback H.toVocabulary} {arguments : List (Slot H)} {world reached : World H}
    {outcome : Except CallError (List (Slot H))} {after : Interpreter H}
    (called : interpreter.call library depth callback arguments world =
      some ((outcome, after), reached)) : after.stack = interpreter.stack := by
  obtain ⟨heap, rfl⟩ := exists_heap_of_call called
  rfl

theorem stack_of_callGlobal {library : Library H} {depth : Nat} {interpreter : Interpreter H}
    {name : String} {arguments : List (Slot H)} {world reached : World H}
    {outcome : Except CallError (List (Slot H))} {after : Interpreter H}
    (called : interpreter.callGlobal library depth name arguments world =
      some ((outcome, after), reached)) : after.stack = interpreter.stack := by
  rw [callGlobal] at called
  split at called
  · cases called
    rfl
  · exact stack_of_call called

theorem stack_of_install (interpreter : Interpreter H) (slot : String)
    (callback : Callback H.toVocabulary) :
    (interpreter.install slot callback).2.stack = interpreter.stack := by
  rw [install]
  split <;> rfl

/-- A registration installs the callback that it builds, or leaves the interpreter alone. -/
theorem stack_of_register {library : Library H} {interpreter after : Interpreter H}
    {slot : String} {registration : Registration H} {world reached : World H}
    {outcome : Except RegistrationError Unit}
    (tried : interpreter.register library slot registration world =
      ((outcome, after), reached)) : after.stack = interpreter.stack := by
  rw [register, bind, Monad.toBind] at tried
  simp only [StateT.instMonad, StateT.bind] at tried
  cases built : registration.build library slot world with
  | mk made passed =>
      rw [built] at tried
      cases made with
      | error error =>
          cases tried
          rfl
      | ok callback =>
          have left := congrArg (fun ended => ended.1.2.stack) tried
          exact left.symm.trans (interpreter.stack_of_install slot callback)

/-! ## Interpreters between calls -/

/-- The interpreters that there can be between calls: a new one, and what becomes of one
when its policy, its heap or its global slots are changed or a callback is called in it. -/
inductive Reachable : Interpreter H → Prop
  | new (policy : Policy) : Reachable (new policy)
  | setPolicy {interpreter : Interpreter H} (reachable : Reachable interpreter)
      (policy : Policy) : Reachable { interpreter with policy }
  | setHeap {interpreter : Interpreter H} (reachable : Reachable interpreter)
      (heap : Heap H) : Reachable { interpreter with heap }
  | allocate {interpreter : Interpreter H} (reachable : Reachable interpreter)
      (object : Object H) : Reachable (interpreter.allocate object).1
  | setGlobal {interpreter : Interpreter H} (reachable : Reachable interpreter)
      (name : String) (slot : Slot H) : Reachable (interpreter.setGlobal name slot)
  | removeGlobal {interpreter : Interpreter H} (reachable : Reachable interpreter)
      (name : String) : Reachable (interpreter.removeGlobal name)
  | register {interpreter after : Interpreter H} (reachable : Reachable interpreter)
      {library : Library H} {slot : String} {registration : Registration H}
      {world reached : World H} {outcome : Except RegistrationError Unit}
      (tried : interpreter.register library slot registration world =
        ((outcome, after), reached)) : Reachable after
  | call {interpreter after : Interpreter H} (reachable : Reachable interpreter)
      {library : Library H} {depth : Nat} {callback : Callback H.toVocabulary}
      {arguments : List (Slot H)} {world reached : World H}
      {outcome : Except CallError (List (Slot H))}
      (called : interpreter.call library depth callback arguments world =
        some ((outcome, after), reached)) : Reachable after
  | callGlobal {interpreter after : Interpreter H} (reachable : Reachable interpreter)
      {library : Library H} {depth : Nat} {name : String}
      {arguments : List (Slot H)} {world reached : World H}
      {outcome : Except CallError (List (Slot H))}
      (called : interpreter.callGlobal library depth name arguments world =
        some ((outcome, after), reached)) : Reachable after

/-- Between calls the stack is empty: nothing that is done with an interpreter touches it. -/
theorem Reachable.stack_eq_empty {interpreter : Interpreter H}
    (reachable : interpreter.Reachable) : interpreter.stack = #[] := by
  induction reachable with
  | new policy => rfl
  | setPolicy _ policy ih => exact ih
  | setHeap _ heap ih => exact ih
  | allocate _ object ih => exact ih
  | setGlobal _ name slot ih => exact ih
  | removeGlobal _ name ih => exact ih
  | register _ tried ih => exact (stack_of_register tried).trans ih
  | call _ called ih => exact (stack_of_call called).trans ih
  | callGlobal _ called ih => exact (stack_of_callGlobal called).trans ih

/-- **A call takes down what it puts on the stack.**  Whatever the callback does, the stack
after a call is the stack before it, so the stack is empty between calls.  Arguments that do
not fit fail the call at once.  Otherwise the callback steps from the frame of its arguments
to another frame and pushes some slots on the way, and the call comes to the last of these,
as many as the callback reported: it has results exactly when the callback reported no more
than it pushed, it fails when more were reported, and a failure of the callback is the
failure of the call. -/
theorem call_restores_stack (library : Library H) (depth : Nat) (interpreter : Interpreter H)
    (callback : Callback H.toVocabulary) (arguments : List (Slot H)) (world : World H) :
    let limit := interpreter.policy.stackLimit
    let height := interpreter.stack.size + arguments.length
    let entry := interpreter.entry arguments
    let called := interpreter.call library depth callback arguments world
    let ran := library.call depth callback ⟨entry, world⟩
    (∀ outcome after reached, called = some ((outcome, after), reached) →
        after.stack = interpreter.stack) ∧
      (interpreter.Reachable → interpreter.stack = #[]) ∧
      (limit < height →
        called = some ((.error (.stackOverflow height limit), interpreter), world)) ∧
      (∀ results after reached, called = some ((.ok results, after), reached) ↔
        height ≤ limit ∧
          ∃ count frame pushes, ran = some (.ok count, ⟨frame, reached⟩) ∧
            FrameRun entry pushes frame ∧ count ≤ pushes.length ∧
            results = pushes.drop (pushes.length - count) ∧
            after = { interpreter with heap := frame.heap }) ∧
      (height ≤ limit → ∀ reported frame reached, ran = some (reported, ⟨frame, reached⟩) →
        ∃ pushes, FrameRun entry pushes frame ∧
          called = some ((match reported with
            | .error error => .error error
            | .ok count =>
                if count ≤ pushes.length then .ok (pushes.drop (pushes.length - count))
                else .error (.overclaim count pushes.length),
            { interpreter with heap := frame.heap }), reached)) := by
  intro limit height entry called ran
  have steps := library.goesBySteps_call depth
  refine ⟨fun outcome after reached => stack_of_call, Reachable.stack_eq_empty,
    fun crowded => callWith_of_not_fits (Nat.not_le_of_lt crowded) callback world, ?_, ?_⟩
  · intro results after reached
    constructor
    · intro succeeded
      rcases callWith_cases steps succeeded with
        ⟨_, _, overflow⟩ | ⟨fits, reported, frame, pushes, finished, run, gave, rfl⟩
      · cases overflow
      · obtain ⟨count, rfl, enough, rfl⟩ := resultsOf_eq_ok_iff.mp gave.symm
        exact ⟨fits, count, frame, pushes, finished, run, enough, rfl, rfl⟩
    · rintro ⟨fits, count, frame, pushes, finished, run, enough, rfl, rfl⟩
      have gave : resultsOf pushes (.ok count) = .ok (pushes.drop (pushes.length - count)) :=
        resultsOf_eq_ok_iff.mpr ⟨count, rfl, enough, rfl⟩
      rw [← gave]
      exact callWith_of_run fits finished run
  · intro fits reported frame reached finished
    obtain ⟨pushes, run⟩ := steps callback _ reported _ finished
    refine ⟨pushes, run, (callWith_of_run fits finished run).trans ?_⟩
    cases reported <;> rfl

end Interpreter

end HostCall
