import HostCall.Bundle
import HostCall.Proofs.FrameSteps

/-!
# The filter of a router is exact

A router asks a candidate for its range and for its acceptance before it calls it.
The candidates that a library wraps answer truly, at every depth of routers in front
of them (`Wrapped`, `call_matches_filter`).  A candidate that the filter lets through never fails
on its arguments, under either policy for surplus ones; what can still go wrong is a
bound receiver that is gone or in use, the body itself, and the stack.  When surplus
arguments are refused, a candidate that the filter holds back fails on its arguments,
before any body runs.

So a router in front of one candidate and that candidate alone succeed alike, which is
why a bundle of one needs no router.
-/

set_option autoImplicit false

namespace HostCall

variable {H : Host}

/-! ## Two kinds of failures -/

/-- The failure lies in the arguments of the call. -/
def CallError.blamesArguments : CallError → Bool
  | conversion _ | wrongCount _ _ | noArgument _ _ | noCandidate _ | invalidReceiver _
  | staleHandle _ => true
  | _ => false

/-- The failure comes when the arguments have passed: from a bound receiver, from the body,
or from a full stack. -/
def CallError.comesLater : CallError → Bool
  | danglingReceiver _ | receiverBorrowed _ | raised _ | stackOverflow _ _ => true
  | _ => false

theorem CallError.not_blamesArguments_of_comesLater {error : CallError}
    (later : error.comesLater = true) : error.blamesArguments = false := by
  cases error <;> first | rfl | cases later

/-- A heap says of a handle only that it is stale or of another type. -/
theorem Heap.stale_or_invalid_of_get {heap : Heap H} {handle : Handle H.toVocabulary}
    {type : H.Receiver} {error : CallError} (failed : heap.get handle type = .error error) :
    (∃ index, error = .staleHandle index) ∨ ∃ text, error = .invalidReceiver text := by
  rw [Heap.get] at failed
  split at failed
  · cases failed
    exact .inl ⟨_, rfl⟩
  · split at failed
    · cases failed
    · cases failed
      exact .inr ⟨_, rfl⟩

/-- A receiver is missing, not one of the type, or behind a stale handle. -/
theorem Frame.stale_or_invalid_of_receiver {frame : Frame H} {type : H.Receiver}
    {error : CallError} (failed : frame.receiver type = .error error) :
    (∃ index, error = .staleHandle index) ∨ ∃ text, error = .invalidReceiver text := by
  rw [Frame.receiver] at failed
  split at failed
  · rename_i missing
    rw [Frame.receiverSlot] at missing
    split at missing
    · cases missing
    · cases missing
      cases failed
      exact .inr ⟨_, rfl⟩
  · split at failed
    · cases failed
    · cases failed
      exact .inr ⟨_, rfl⟩
  · exact Heap.stale_or_invalid_of_get failed
  · cases failed
    exact .inr ⟨_, rfl⟩

/-- A receiver that cannot be found lies in the arguments. -/
theorem Frame.blamesArguments_of_receiver {frame : Frame H} {type : H.Receiver}
    {error : CallError} (failed : frame.receiver type = .error error) :
    error.blamesArguments = true := by
  rcases stale_or_invalid_of_receiver failed with ⟨_, rfl⟩ | ⟨_, rfl⟩
  · rfl
  · rfl

/-- Slots that do not fit are the only failure of pushing slots. -/
theorem Frame.stackOverflow_of_pushAll {frame : Frame H} {slots : List (Slot H)}
    {error : CallError} (failed : (frame.pushAll slots).1 = .error error) :
    ∃ depth limit, error = .stackOverflow depth limit := by
  induction slots generalizing frame with
  | nil => cases failed
  | cons slot slots ih =>
      rw [Frame.pushAll, Frame.push] at failed
      split at failed
      · rename_i full
        split at full
        · cases full
          cases failed
          exact ⟨_, _, rfl⟩
        · cases full
      · exact ih failed

/-- Delivering a result fails with the text of the body, or for want of room. -/
theorem Frame.raised_or_stackOverflow_of_deliver {frame : Frame H} {world : World H}
    {type : ResultType} {content : type.Val H} {error : CallError}
    (failed : (frame.deliver world type content).1 = .error error) :
    (∃ text, error = .raised text) ∨ ∃ depth limit, error = .stackOverflow depth limit := by
  rw [Frame.deliver, Frame.pushResult_eq_pushAll] at failed
  cases encoded : type.encode content with
  | error text =>
      simp only [encoded] at failed
      cases failed
      exact .inl ⟨text, rfl⟩
  | ok slots =>
      simp only [encoded] at failed
      cases pushed : (frame.pushAll slots).1 with
      | error overflow =>
          rw [pushed] at failed
          cases failed
          exact .inr (Frame.stackOverflow_of_pushAll pushed)
      | ok _ =>
          rw [pushed] at failed
          cases failed

theorem Frame.comesLater_of_deliver {frame : Frame H} {world : World H} {type : ResultType}
    {content : type.Val H} {error : CallError}
    (failed : (frame.deliver world type content).1 = .error error) :
    error.comesLater = true := by
  rcases Frame.raised_or_stackOverflow_of_deliver failed with ⟨_, rfl⟩ | ⟨_, _, rfl⟩
  · rfl
  · rfl

/-! ## The number of arguments under a policy -/

theorem Frame.takesCount_of_reject {frame : Frame H} (refused : frame.policy.surplus = .reject)
    (declared : Arity) : frame.takesCount declared = declared.admits frame.argumentCount := by
  rw [Frame.takesCount, refused]

/-- What a range admits is taken under either policy. -/
theorem Frame.takesCount_of_admits {frame : Frame H} {declared : Arity}
    (admitted : declared.admits frame.argumentCount = true) :
    frame.takesCount declared = true := by
  rw [Frame.takesCount]
  split
  · exact decide_eq_true ((Arity.admits_iff _ _).mp admitted).1
  · exact admitted

/-! ## Which checks blame what -/

/-- The check looks at the arguments, and not at a bound receiver. -/
def Check.asksArguments : Check H → Bool
  | reachable _ _ | borrowable _ _ _ => false
  | _ => true

theorem Check.blamesArguments_of_failure {scene : Scene H} {check : Check H} {error : CallError}
    (asks : check.asksArguments = true) (failed : check.failure? scene = some error) :
    error.blamesArguments = true := by
  cases check with
  | count declared =>
      rw [Check.failure?] at failed
      split at failed
      · cases failed
      · cases failed
        rfl
  | accessorCount counts =>
      rw [Check.failure?] at failed
      split at failed
      · cases failed
      · cases failed
        rfl
  | receiver type => exact Frame.blamesArguments_of_receiver (failureOf_eq_some_iff.mp failed)
  | parameter type index =>
      rw [Check.failure?] at failed
      split at failed
      · split at failed
        · cases failed
          rfl
        · cases failed
      · split at failed
        · cases failed
        · cases failed
          rfl
  | reachable bound type => cases asks
  | borrowable bound type access => cases asks

theorem Check.comesLater_of_failure {scene : Scene H} {check : Check H} {error : CallError}
    (asks : check.asksArguments = false) (failed : check.failure? scene = some error) :
    error.comesLater = true := by
  cases check with
  | reachable bound type =>
      rw [Check.failure?] at failed
      split at failed
      · cases failed
      · cases failed
        rfl
  | borrowable bound type access =>
      rw [Check.failure?] at failed
      split at failed
      · cases failed
      · cases failed
        rfl
  | _ => cases asks

theorem asksArguments_parameterChecks {types : List SlotType} {offset : Nat} {check : Check H}
    (member : check ∈ parameterChecks H types offset) : check.asksArguments = true := by
  induction types generalizing offset with
  | nil => cases member
  | cons type types ih =>
      rw [parameterChecks] at member
      rcases List.mem_cons.mp member with rfl | later
      · rfl
      · exact ih later

namespace Library

variable {library : Library H}

theorem asksArguments_argumentChecks {count : Nat} {block : Block H.toVocabulary}
    {check : Check H} (member : check ∈ library.argumentChecks count block) :
    check.asksArguments = true := by
  cases block with
  | function name | boundMethod name _ | construct name =>
      rcases List.mem_cons.mp member with rfl | later
      · rfl
      · exact asksArguments_parameterChecks later
  | method name =>
      rcases List.mem_cons.mp member with rfl | member
      · rfl
      · rcases List.mem_cons.mp member with rfl | later
        · rfl
        · exact asksArguments_parameterChecks later
  | field name =>
      rw [argumentChecks] at member
      rcases List.mem_cons.mp member with rfl | member
      · rfl
      · rcases List.mem_cons.mp member with rfl | later
        · rfl
        · split at later
          · rw [List.mem_singleton.mp later]
            rfl
          · cases later
  | boundField name _ =>
      rw [argumentChecks] at member
      rcases List.mem_cons.mp member with rfl | later
      · rfl
      · split at later
        · rw [List.mem_singleton.mp later]
          rfl
        · cases later
  | custom label name => cases member

theorem not_asksArguments_boundChecks {count : Nat} {block : Block H.toVocabulary}
    {check : Check H} (member : check ∈ library.boundChecks count block) :
    check.asksArguments = false := by
  have pair {receiver : FixedReceiver} {type : H.Receiver} {access : Access}
      (member : check ∈ receiverChecks receiver type access) : check.asksArguments = false := by
    rcases List.mem_cons.mp member with rfl | last
    · rfl
    · rw [List.mem_singleton.mp last]
      rfl
  cases block with
  | boundMethod name receiver | boundField name receiver => exact pair member
  | _ => cases member

/-- A failed check of the arguments blames them. -/
theorem blamesArguments_of_firstFailure {scene : Scene H} {count : Nat}
    {block : Block H.toVocabulary} {error : CallError}
    (failed : firstFailure scene (library.argumentChecks count block) = some error) :
    error.blamesArguments = true := by
  obtain ⟨check, member, failure⟩ := List.exists_of_findSome?_eq_some failed
  exact Check.blamesArguments_of_failure (asksArguments_argumentChecks member) failure

/-- A failed check of a bound receiver does not. -/
theorem comesLater_of_firstFailure {scene : Scene H} {count : Nat}
    {block : Block H.toVocabulary} {error : CallError}
    (failed : firstFailure scene (library.boundChecks count block) = some error) :
    error.comesLater = true := by
  obtain ⟨check, member, failure⟩ := List.exists_of_findSome?_eq_some failed
  exact Check.comesLater_of_failure (not_asksArguments_boundChecks member) failure

/-! ## Failures of a body -/

/-- A body fails when it says so, or when its result does not fit on the stack. -/
theorem comesLater_of_bodyEnd {frame : Frame H} {result : Except CallError Nat × Scene H}
    {error : CallError} (ended : BodyEnd frame result) (failed : result.1 = .error error) :
    error.comesLater = true := by
  cases ended with
  | delivered reached world type content => exact Frame.comesLater_of_deliver failed
  | silent reached world => cases failed

/-! ## Acceptance and the checks of the arguments -/

/-- A parameter is accepted exactly when its check passes. -/
theorem parameter_passes_iff {scene : Scene H} {type : SlotType} {index : Nat} :
    (Check.parameter type index).failure? scene = none ↔
      scene.frame.argumentAccepts type index = true := by
  rw [Check.failure?, Frame.argumentAccepts]
  cases scene.frame.argument? index with
  | none => cases type <;> simp [SlotType.isOptional]
  | some slot =>
      simp only [SlotType.accepts_eq_isOk]
      cases type.decode slot <;> simp [Except.isOk, Except.toBool]

/-- Parameters are accepted exactly when all their checks pass. -/
theorem parameters_pass_iff {scene : Scene H} {types : List SlotType} {offset : Nat} :
    firstFailure scene (parameterChecks H types offset) = none ↔
      Parameters.accepts scene.frame types offset = true := by
  induction types generalizing offset with
  | nil => exact iff_of_true rfl rfl
  | cons type types ih =>
      rw [parameterChecks, firstFailure_cons, Option.or_eq_none_iff, parameter_passes_iff, ih,
        Parameters.accepts, Bool.and_eq_true]

/-- A receiver is accepted exactly when its check passes. -/
theorem receiver_passes_iff {scene : Scene H} {type : H.Receiver} :
    (Check.receiver type).failure? scene = none ↔ scene.frame.receiverAccepts type = true := by
  rw [Check.failure?, Frame.receiverAccepts]
  cases scene.frame.receiver type <;> simp [failureOf, Except.isOk, Except.toBool]

/-- The check of the number of arguments that a block begins with. -/
def countCheck (library : Library H) : Block H.toVocabulary → Check H
  | .field _ => .accessorCount [1, 2]
  | .boundField _ _ => .accessorCount [0, 1]
  | block => .count (library.blockArity block)

theorem count_passes_iff {scene : Scene H} {declared : Arity} :
    (Check.count declared).failure? scene = none ↔ scene.frame.takesCount declared = true := by
  rw [Check.failure?]
  split <;> simp_all

theorem accessorCount_passes_iff {scene : Scene H} {fewer more : Nat} :
    (Check.accessorCount [fewer, more]).failure? scene = none ↔
      scene.frame.argumentCount = fewer ∨ scene.frame.argumentCount = more := by
  rw [Check.failure?]
  split <;> simp_all

/-- The arguments of a wrapped block pass exactly when their number does and the block
accepts their types. -/
theorem arguments_pass_iff {scene : Scene H} {block : Block H.toVocabulary}
    (wrapped : block.isWrapped = true) :
    firstFailure scene (library.argumentChecks scene.frame.argumentCount block) = none ↔
      (library.countCheck block).failure? scene = none ∧
        library.blockAccepts scene.frame block = true := by
  cases block with
  | function name | boundMethod name _ | construct name =>
      rw [argumentChecks, firstFailure_cons, Option.or_eq_none_iff, parameters_pass_iff]
      rfl
  | method name =>
      rw [argumentChecks, firstFailure_cons, Option.or_eq_none_iff, firstFailure_cons,
        Option.or_eq_none_iff, receiver_passes_iff, parameters_pass_iff, blockAccepts,
        Bool.and_eq_true]
      rfl
  | field name =>
      rw [argumentChecks, firstFailure_cons, Option.or_eq_none_iff, countCheck]
      refine and_congr_right fun counted => ?_
      rw [accessorCount_passes_iff] at counted
      rw [firstFailure_cons, Option.or_eq_none_iff, receiver_passes_iff, blockAccepts]
      rcases counted with one | two
      · rw [one]
        simp
      · rw [two, if_pos rfl, firstFailure_cons, Option.or_eq_none_iff, parameter_passes_iff]
        simp
  | boundField name _ =>
      rw [argumentChecks, firstFailure_cons, Option.or_eq_none_iff, countCheck]
      refine and_congr_right fun counted => ?_
      rw [accessorCount_passes_iff] at counted
      rw [blockAccepts]
      rcases counted with zero | one
      · rw [zero]
        simp
      · rw [one, if_pos rfl, firstFailure_cons, Option.or_eq_none_iff, parameter_passes_iff]
        simp
  | custom label name => cases wrapped

/-- The number of arguments passes where the range admits it. -/
theorem count_passes_of_admits {scene : Scene H} {block : Block H.toVocabulary}
    (admitted : (library.blockArity block).admits scene.frame.argumentCount = true) :
    (library.countCheck block).failure? scene = none := by
  obtain ⟨least, greatest⟩ := (Arity.admits_iff _ _).mp admitted
  cases block with
  | field name =>
      rw [countCheck, accessorCount_passes_iff]
      have atMost := greatest 2 rfl
      simp only [blockArity, Arity.range] at least
      omega
  | boundField name receiver =>
      rw [countCheck, accessorCount_passes_iff]
      have atMost := greatest 1 rfl
      omega
  | _ => exact count_passes_iff.mpr (Frame.takesCount_of_admits admitted)

/-- Where surplus arguments are refused, the number of arguments passes only there. -/
theorem admits_of_count_passes {scene : Scene H} {block : Block H.toVocabulary}
    (refused : scene.frame.policy.surplus = .reject)
    (passed : (library.countCheck block).failure? scene = none) :
    (library.blockArity block).admits scene.frame.argumentCount = true := by
  cases block with
  | field name | boundField name receiver =>
      rw [countCheck, accessorCount_passes_iff] at passed
      rcases passed with fewer | more
      · rw [fewer]
        rfl
      · rw [more]
        rfl
  | _ =>
      rw [← Frame.takesCount_of_reject refused]
      exact count_passes_iff.mp passed

/-! ## Wrapped callbacks -/

/-- A wrapped callable behind any number of routers, each of which declares what its
candidates declare together. -/
inductive Wrapped (library : Library H) : Callback H.toVocabulary → Prop
  | closure (id : ClosureId) {block : Block H.toVocabulary} (wrapped : block.isWrapped = true) :
      Wrapped library (.closure id block)
  | router (id : ClosureId) (shape : Shape) {candidates : List (Callback H.toVocabulary)}
      (each : ∀ candidate ∈ candidates, Wrapped library candidate) :
      Wrapped library (.router id shape (library.covering candidates) candidates)

/-- A router in front of wrapped callbacks is wrapped. -/
theorem Wrapped.route {candidates : List (Callback H.toVocabulary)}
    (each : ∀ candidate ∈ candidates, library.Wrapped candidate) (shape : Shape)
    (world : World H) : library.Wrapped (Callback.route library shape candidates world).1 :=
  .router _ shape each

/-- So is a bundle of them, with a router in front or as the only one. -/
theorem Wrapped.overloads {set : Overloads H} {callback : Callback H.toVocabulary}
    {world : World H} (each : ∀ candidate ∈ set.candidates, library.Wrapped candidate)
    (built : (set.build library world).1 = .ok callback) : library.Wrapped callback := by
  obtain ⟨candidates⟩ := set
  rcases candidates with _ | ⟨first, _ | ⟨second, rest⟩⟩
  · cases built
  · cases built
    exact each callback List.mem_cons_self
  · cases built
    exact .route each .overloaded world

theorem Wrapped.accessors {pair : Accessors H} {callback : Callback H.toVocabulary}
    {world : World H} (reads : ∀ read ∈ pair.read, library.Wrapped read)
    (writes : ∀ write ∈ pair.write, library.Wrapped write)
    (built : (pair.build library world).1 = .ok callback) : library.Wrapped callback := by
  obtain ⟨_ | read, _ | write⟩ := pair
  · cases built
  · cases built
    exact writes callback rfl
  · cases built
    exact reads callback rfl
  · cases built
    refine .route (fun candidate member => ?_) .property world
    rcases List.mem_cons.mp member with rfl | member
    · exact reads _ rfl
    · cases List.mem_singleton.mp member
      exact writes _ rfl

theorem Wrapped.makers {list : Makers H} {callback : Callback H.toVocabulary}
    {world : World H} (each : ∀ candidate ∈ list.candidates, library.Wrapped candidate)
    (built : (list.build library world).1 = .ok callback) : library.Wrapped callback := by
  obtain ⟨receiver, candidates⟩ := list
  rcases candidates with _ | ⟨first, _ | ⟨second, rest⟩⟩
  · cases built
  · cases built
    exact each callback List.mem_cons_self
  · cases built
    exact .route each .constructor world

/-- A closure that the filter lets through does not fail on its arguments. -/
theorem comesLater_of_closure {id : ClosureId} {block : Block H.toVocabulary}
    {invoke : Invoker H} {scene after : Scene H} {error : CallError}
    (wrapped : block.isWrapped = true)
    (admitted : (library.blockArity block).admits scene.frame.argumentCount = true)
    (accepted : library.blockAccepts scene.frame block = true)
    (failed : library.callWith invoke (.closure id block) scene = some (.error error, after)) :
    error.comesLater = true := by
  have arguments := (arguments_pass_iff wrapped).mpr ⟨count_passes_of_admits admitted, accepted⟩
  have split : firstFailure scene (library.checks scene.frame.argumentCount block) =
      firstFailure scene (library.boundChecks scene.frame.argumentCount block) := by
    rw [checks, firstFailure_append, arguments, Option.none_or]
  cases decided : firstFailure scene (library.checks scene.frame.argumentCount block) with
  | some first =>
      rw [(failsBeforeBody_closure decided id).callWith_eq] at failed
      cases failed
      exact comesLater_of_firstFailure (split ▸ decided)
  | none =>
      have runs := runsBody_closure decided id invoke
      rw [failed] at runs
      exact comesLater_of_bodyEnd (bodyEnd_of_runsBody wrapped runs) rfl

/-- Where surplus arguments are refused, a closure that the filter holds back fails on its
arguments. -/
theorem blamesArguments_of_closure {block : Block H.toVocabulary} {scene : Scene H}
    (wrapped : block.isWrapped = true) (refused : scene.frame.policy.surplus = .reject)
    (heldBack : ((library.blockArity block).admits scene.frame.argumentCount &&
      library.blockAccepts scene.frame block) = false) (id : ClosureId) :
    ∃ error : CallError, error.blamesArguments = true ∧
      library.FailsBeforeBody (.closure id block) scene error := by
  cases decided : firstFailure scene
      (library.argumentChecks scene.frame.argumentCount block) with
  | some error =>
      exact ⟨error, blamesArguments_of_firstFailure decided,
        failsBeforeBody_of_argumentChecks decided id⟩
  | none =>
      obtain ⟨counted, accepted⟩ := (arguments_pass_iff wrapped).mp decided
      rw [admits_of_count_passes refused counted, accepted] at heldBack
      cases heldBack

/-- When types are checked, a wrapped callback that the filter lets through does not fail on
its arguments: a router commits to a candidate that it lets through in turn. -/
theorem Wrapped.comesLater_of_takes {callback : Callback H.toVocabulary}
    (wrapped : library.Wrapped callback) {invoke : Invoker H} {scene after : Scene H}
    {error : CallError} (checked : scene.frame.policy.checksTypes = true)
    (taken : library.takes scene.frame callback = true)
    (failed : library.callWith invoke callback scene = some (.error error, after)) :
    error.comesLater = true := by
  induction wrapped with
  | closure id wrapped =>
      rw [takes_of_checksTypes checked, Bool.and_eq_true, accepts] at taken
      exact comesLater_of_closure wrapped taken.1 taken.2 failed
  | router id shape each ih =>
      rw [takes_router checked] at taken
      obtain ⟨candidate, found⟩ := Option.isSome_iff_exists.mp taken
      rw [callWith_router_of_find?_eq_some found] at failed
      exact ih candidate (List.mem_of_find?_eq_some found) (List.find?_some found) failed

/-- When types are checked and surplus arguments are refused, a wrapped callback that the
filter holds back fails on its arguments before any body runs. -/
theorem Wrapped.blamesArguments_of_not_takes {callback : Callback H.toVocabulary}
    (wrapped : library.Wrapped callback) {scene : Scene H}
    (checked : scene.frame.policy.checksTypes = true)
    (refused : scene.frame.policy.surplus = .reject)
    (heldBack : library.takes scene.frame callback = false) :
    ∃ error : CallError, error.blamesArguments = true ∧
      library.FailsBeforeBody callback scene error := by
  cases wrapped with
  | closure id wrapped =>
      rw [takes_of_checksTypes checked, accepts] at heldBack
      exact blamesArguments_of_closure wrapped refused heldBack id
  | router id shape each =>
      rw [takes_router checked, Option.isSome_eq_false_iff, Option.isNone_iff_eq_none]
        at heldBack
      obtain ⟨mismatch, _, fails⟩ := failsBeforeBody_of_find?_eq_none heldBack id shape _
      exact ⟨.noCandidate mismatch, rfl, fails⟩

/-- **The filter of a router is exact.**  Let types be checked, and let the filter ask a
wrapped callback for its range and its acceptance on a frame.  A callback that it lets
through never fails on its arguments, but only with what comes later.  Where surplus
arguments are refused, a callback that it holds back fails on its arguments before any body
runs, and the callback and a router in front of it alone succeed on the same frames, with
the same results and effects. -/
theorem call_matches_filter (library : Library H) {callback : Callback H.toVocabulary}
    (wrapped : library.Wrapped callback) (scene : Scene H)
    (checked : scene.frame.policy.checksTypes = true) :
    let letThrough := (library.arity callback).admits scene.frame.argumentCount &&
      library.accepts scene.frame callback
    (letThrough = true → ∀ (invoke : Invoker H) (error : CallError) (after : Scene H),
        library.callWith invoke callback scene = some (.error error, after) →
          error.blamesArguments = false ∧ error.comesLater = true) ∧
      (scene.frame.policy.surplus = .reject →
        (letThrough = false → ∃ error : CallError, error.blamesArguments = true ∧
          library.FailsBeforeBody callback scene error) ∧
        ∀ (id : ClosureId) (shape : Shape) (invoke : Invoker H) (count : Nat)
          (after : Scene H),
          library.callWith invoke callback scene = some (.ok count, after) ↔
            library.callWith invoke
                (.router id shape (library.covering [callback]) [callback]) scene =
              some (.ok count, after)) := by
  intro letThrough
  have sameFilter : library.takes scene.frame callback = letThrough :=
    takes_of_checksTypes checked callback
  refine ⟨fun passed invoke error after failed => ?_, fun refused => ⟨fun heldBack => ?_, ?_⟩⟩
  · have later := wrapped.comesLater_of_takes checked (sameFilter.trans passed) failed
    exact ⟨CallError.not_blamesArguments_of_comesLater later, later⟩
  · exact wrapped.blamesArguments_of_not_takes checked refused (sameFilter.trans heldBack)
  · intro id shape invoke count after
    cases taken : library.takes scene.frame callback with
    | true =>
        have found : [callback].find? (library.takes scene.frame) = some callback := by
          rw [List.find?_cons, taken]
        rw [callWith_router_of_find?_eq_some found]
    | false =>
        have noneFound : [callback].find? (library.takes scene.frame) = none := by
          rw [List.find?_cons, taken, List.find?_nil]
        obtain ⟨error, _, alone⟩ := wrapped.blamesArguments_of_not_takes checked refused taken
        obtain ⟨mismatch, _, routed⟩ := failsBeforeBody_of_find?_eq_none noneFound id shape
          (library.covering [callback])
        rw [alone.callWith_eq, routed.callWith_eq]
        simp

end Library

namespace Sample

/-- Given an integer, the function that takes a text is held back, and fails. -/
theorem call_matches_filter_textTag :
    (Session.library #[]).Wrapped (.closure 0 (.function (.tag .text 1))) ∧
      integerScene.frame.policy.checksTypes = true ∧
      integerScene.frame.policy.surplus = .reject ∧
      ∃ error : CallError, error.blamesArguments = true ∧
        (Session.library #[]).FailsBeforeBody (.closure 0 (.function (.tag .text 1)))
          integerScene error := by
  have wrapped : (Session.library #[]).Wrapped (.closure 0 (.function (.tag .text 1))) :=
    .closure 0 rfl
  have checked : integerScene.frame.policy.checksTypes = true := rfl
  have refused : integerScene.frame.policy.surplus = .reject := rfl
  obtain ⟨_, converse⟩ :=
    Library.call_matches_filter (Session.library #[]) wrapped integerScene checked
  exact ⟨wrapped, checked, refused, (converse refused).1 rfl⟩

end Sample

end HostCall
