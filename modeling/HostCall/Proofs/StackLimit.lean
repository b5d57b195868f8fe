import HostCall.Proofs.Moments

/-!
# The limit of the stack

The policy of an interpreter limits the height of its stack.  Arguments that do not fit fail a
call before anything runs, and a slot that does not fit is not pushed.  Nothing else makes the
stack higher, so at every moment of a call it holds no more slots than the limit allows
(`Interpreter.stackLimit_respected`).  That is so for the calls in other interpreters as well
that the callables on the way make, each with its own stack and its own limit, and it does not
depend on whether the call ever ends.

The limit may be raised and lowered between calls.  Then the stack is empty, and whether a call
fails before it runs depends on the number of its arguments alone.
-/

set_option autoImplicit false

namespace HostCall

variable {H : Host}

/-! ## Frames within the limit -/

namespace Frame

/-- The stack is not higher than the policy allows. -/
def WithinLimit (frame : Frame H) : Prop := frame.stack.size ≤ frame.policy.stackLimit

theorem push_eq_error_iff {frame : Frame H} {slot : Slot H} {error : CallError} :
    frame.push slot = .error error ↔
      frame.policy.stackLimit ≤ frame.stack.size ∧
        error = .stackOverflow (frame.stack.size + 1) frame.policy.stackLimit := by
  rw [push]
  by_cases full : frame.policy.stackLimit ≤ frame.stack.size
  · simp [full, eq_comm]
  · simp [full]

end Frame

/-- Only a push makes the stack higher, and it needs room. -/
theorem FrameStep.withinLimit {first last : Frame H} {slots : List (Slot H)}
    (step : FrameStep first slots last) (within : first.WithinLimit) : last.WithinLimit := by
  cases step with
  | push slot done =>
      rw [Frame.push] at done
      split at done
      · cases done
      · rename_i room
        cases done
        rw [Frame.WithinLimit, Array.size_push]
        exact Nat.lt_of_not_le room
  | setReceiver type value done =>
      rcases Frame.setReceiver_cases done with ⟨_, _, _, policy, _, stack⟩ | ⟨_, _, _, _, rfl⟩
      · rw [Frame.WithinLimit, stack, policy, Array.size_setIfInBounds]
        exact within
      · exact within
  | allocate object => exact within
  | free handle => exact within
  | setObject handle type value done => exact within

theorem FrameRun.withinLimit {first last : Frame H} {slots : List (Slot H)}
    (run : FrameRun first slots last) (within : first.WithinLimit) : last.WithinLimit := by
  induction run with
  | refl frame => exact within
  | step step _ ih => exact ih (step.withinLimit within)

/-- The frame of a call whose arguments fit. -/
theorem Interpreter.withinLimit_entry {interpreter : Interpreter H} {arguments : List (Slot H)}
    (fits : interpreter.Fits arguments) : (interpreter.entry arguments).WithinLimit := by
  rw [Frame.WithinLimit, size_entry]
  exact fits

/-! ## Moments within the limit -/

namespace Library

variable {library : Library H} {first next : Moment H}

theorem Proceeds.withinLimit (proceeds : library.Proceeds first next)
    (within : first.scene.frame.WithinLimit) : next.scene.frame.WithinLimit := by
  obtain ⟨_, run⟩ := proceeds.reaches
  exact run.withinLimit within

theorem Proceeds.policy_eq (proceeds : library.Proceeds first next) :
    next.scene.frame.policy = first.scene.frame.policy := by
  obtain ⟨_, run⟩ := proceeds.reaches
  exact run.sameFooting.policy

/-- One step of a run, into another interpreter or not, leads to a frame within its limit. -/
theorem Follows.withinLimit (follows : library.Follows first next)
    (within : first.scene.frame.WithinLimit) : next.scene.frame.WithinLimit := by
  rcases follows with proceeds | ⟨fits, _, _, _⟩
  · exact proceeds.withinLimit within
  · exact Interpreter.withinLimit_entry fits

section Runs

open Relation (ReflTransGen)

/-- So does a whole run. -/
theorem withinLimit_of_follows (follows : ReflTransGen library.Follows first next)
    (within : first.scene.frame.WithinLimit) : next.scene.frame.WithinLimit := by
  induction follows with
  | refl => exact within
  | tail _ last ih => exact last.withinLimit ih

theorem policy_of_proceeds (proceeds : ReflTransGen library.Proceeds first next) :
    next.scene.frame.policy = first.scene.frame.policy := by
  induction proceeds with
  | refl => rfl
  | tail _ last ih => exact last.policy_eq.trans ih

theorem follows_of_proceeds (proceeds : ReflTransGen library.Proceeds first next) :
    ReflTransGen library.Follows first next :=
  ReflTransGen.mono (fun _ _ => Or.inl) _ _ proceeds

end Runs

/-- On a scene the stack respects a limit: it holds no more slots than that, and a push fails
exactly when it holds as many. -/
structure RespectsLimit (library : Library H) (scene : Scene H) (limit : Nat) : Prop where
  within : scene.frame.stack.size ≤ limit
  /-- The limit alone decides whether a slot can be pushed, also when it belongs to a result. -/
  push : ∀ slot error, scene.frame.push slot = .error error ↔
    scene.frame.stack.size = limit ∧ error = .stackOverflow (limit + 1) limit
  /-- A callable whose push fails is told of a depth greater than the limit, and nothing is
  added. -/
  overflow : ∀ invoke slot error after,
    (FrameOperation.push slot).run library invoke scene = some (.error error, after) ↔
      scene.frame.stack.size = limit ∧ error = .stackOverflow (limit + 1) limit ∧ after = scene
  /-- Otherwise the slot is added on top. -/
  room : ∀ invoke slot, scene.frame.stack.size < limit →
    ∃ frame, (FrameOperation.push slot).run library invoke scene =
        some (.ok (), { scene with frame }) ∧
      frame.stack = scene.frame.stack.push slot

theorem respectsLimit (library : Library H) {scene : Scene H}
    (within : scene.frame.WithinLimit) :
    library.RespectsLimit scene scene.frame.policy.stackLimit := by
  have decided (slot : Slot H) (error : CallError) : scene.frame.push slot = .error error ↔
      scene.frame.stack.size = scene.frame.policy.stackLimit ∧
        error = .stackOverflow (scene.frame.policy.stackLimit + 1)
          scene.frame.policy.stackLimit := by
    rw [Frame.push_eq_error_iff]
    constructor
    · rintro ⟨full, rfl⟩
      have height := Nat.le_antisymm within full
      exact ⟨height, by rw [height]⟩
    · rintro ⟨height, rfl⟩
      exact ⟨Nat.le_of_eq height.symm, by rw [height]⟩
  refine ⟨within, decided, ?_, ?_⟩
  · intro invoke slot error after
    rw [FrameOperation.run, ← and_assoc, ← decided slot error]
    cases scene.frame.push slot with
    | error other => simp [Scene.attempt, eq_comm]
    | ok frame => simp [Scene.attempt]
  · intro invoke slot below
    rw [FrameOperation.run, Frame.push, if_neg (Nat.not_le_of_lt below)]
    exact ⟨_, rfl, rfl⟩

end Library

/-! ## Calls within the limit -/

namespace Interpreter

open Relation (ReflTransGen)

/-- A call fails on its arguments, whatever its callback would do, exactly when they do not
fit. -/
theorem callWith_eq_overflow_iff {interpreter : Interpreter H} {arguments : List (Slot H)}
    (callback : Callback H.toVocabulary) (world : World H) :
    (∀ invoke, interpreter.callWith invoke callback arguments world =
        some ((.error (.stackOverflow (interpreter.stack.size + arguments.length)
          interpreter.policy.stackLimit), interpreter), world)) ↔
      interpreter.policy.stackLimit < interpreter.stack.size + arguments.length := by
  constructor
  · intro fails
    by_contra fits
    -- a callback that never ends is never called
    have ended := fails fun _ _ => none
    rw [callWith_of_none (Nat.le_of_not_lt fits) rfl] at ended
    cases ended
  · intro crowded invoke
    exact callWith_of_not_fits (Nat.not_le_of_lt crowded) callback world

/-- A call whose arguments fit runs its callback on the frame of its arguments.  It ends if that
run ends, and comes to the results that were pushed on the way. -/
theorem call_of_run (library : Library H) {interpreter : Interpreter H}
    {arguments : List (Slot H)} (fits : interpreter.Fits arguments) (depth : Nat)
    (callback : Callback H.toVocabulary) (world : World H) :
    match library.call depth callback ⟨interpreter.entry arguments, world⟩ with
    | none => interpreter.call library depth callback arguments world = none
    | some (outcome, after) => ∃ pushes, FrameRun (interpreter.entry arguments) pushes after.frame ∧
        interpreter.call library depth callback arguments world =
          some ((resultsOf pushes outcome, { interpreter with heap := after.frame.heap }),
            after.world) := by
  split
  · rename_i endless
    exact callWith_of_none fits endless
  · rename_i outcome after ran
    obtain ⟨pushes, run⟩ := library.goesBySteps_call depth _ _ _ _ ran
    exact ⟨pushes, run, callWith_of_run fits ran run⟩

/-- **The limit of the stack is never exceeded.**  When the arguments of a call fit, the call runs
its callback on the frame of its arguments.  Then the stack holds no more slots than the limit at
every moment of the run, down to its end, and at every moment of the calls in other interpreters
that it makes, where their limits hold; and a push fails exactly at the limit.  When they do not
fit, and only then, the call fails before its callback is called, and the interpreter and the world
are left as they were.  Between calls the stack is empty, so whether the arguments fit depends on
their number alone. -/
theorem stackLimit_respected (library : Library H) (interpreter : Interpreter H)
    (callback : Callback H.toVocabulary) (arguments : List (Slot H)) (world : World H) :
    let limit := interpreter.policy.stackLimit
    let height := interpreter.stack.size + arguments.length
    let start : Scene H := ⟨interpreter.entry arguments, world⟩
    (height ≤ limit →
        (∀ depth, match library.call depth callback start with
          | none => interpreter.call library depth callback arguments world = none
          | some (outcome, after) => ∃ pushes, FrameRun start.frame pushes after.frame ∧
              interpreter.call library depth callback arguments world =
                some ((resultsOf pushes outcome, { interpreter with heap := after.frame.heap }),
                  after.world)) ∧
        (∀ moment, ReflTransGen library.Proceeds (.calling callback start) moment →
          library.RespectsLimit moment.scene limit) ∧
        (∀ moment, ReflTransGen library.Follows (.calling callback start) moment →
          library.RespectsLimit moment.scene moment.scene.frame.policy.stackLimit) ∧
        ∀ depth outcome after, library.call depth callback start = some (outcome, after) →
          ReflTransGen library.Proceeds (.calling callback start)
            (.closing (after.reporting outcome))) ∧
      ((∀ invoke, interpreter.callWith invoke callback arguments world =
          some ((.error (.stackOverflow height limit), interpreter), world)) ↔
        limit < height) ∧
      (interpreter.Reachable → height = arguments.length) := by
  intro limit height start
  refine ⟨fun fits => ?_, callWith_eq_overflow_iff callback world, ?_⟩
  · have everywhere {moment : Moment H}
        (follows : ReflTransGen library.Follows (.calling callback start) moment) :
        library.RespectsLimit moment.scene moment.scene.frame.policy.stackLimit :=
      library.respectsLimit (Library.withinLimit_of_follows follows (withinLimit_entry fits))
    refine ⟨fun depth => call_of_run library fits depth callback world, ?_,
      fun moment => everywhere, fun depth outcome after => Library.proceeds_of_call⟩
    intro moment proceeds
    have samePolicy : moment.scene.frame.policy = interpreter.policy :=
      Library.policy_of_proceeds proceeds
    have respects := everywhere (Library.follows_of_proceeds proceeds)
    rwa [samePolicy] at respects
  · intro reachable
    have empty := reachable.stack_eq_empty
    simp only [height, empty, List.size_toArray, List.length_nil, Nat.zero_add]

end Interpreter

end HostCall
