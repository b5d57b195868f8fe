import HostCall.Proofs.Filter
import HostCall.Proofs.StackDiscipline
import Mathlib.Data.List.Find

/-!
# Success under a wider policy

A policy can be widened: surplus arguments are ignored that were refused, routers look at
types that they did not look at, and the stack may grow further.  A call of a wrapped callback
that succeeds under a policy succeeds under every wider one, with the same results, and leaves
the same heap and the same world behind (`Interpreter.call_of_widensTo`).

A wrapped callable meets the policy only in the check of the number of arguments and when its
result is pushed, and there a wider policy lets more through.  A router meets it when it
chooses, and one that begins to look at types holds back candidates that it took before.  Not
the one that a successful call went to, though: its checks passed, so it accepts the types.
And a candidate in front of it that was passed over is still passed over
(`Library.Wrapped.takes_of_takes_under`), so every router on the way makes the choice that it
made before.
-/

set_option autoImplicit false

namespace HostCall

variable {H : Host}

/-- The second policy is at least as wide as the first in every setting. -/
structure Policy.WidensTo (policy wide : Policy) : Prop where
  surplus : policy.surplus = .ignore → wide.surplus = .ignore
  checksTypes : policy.checksTypes = true → wide.checksTypes = true
  stackLimit : policy.stackLimit ≤ wide.stackLimit

/-! ## Frames under another policy -/

namespace Frame

/-- The frame under another policy. -/
def under (frame : Frame H) (policy : Policy) : Frame H := { frame with policy }

variable {frame next : Frame H} {wide : Policy}

theorem extract_under (frame : Frame H) (wide : Policy) (types : List SlotType) (offset : Nat) :
    Parameters.extract (frame.under wide) types offset =
      Parameters.extract frame types offset := by
  induction types generalizing offset with
  | nil => rfl
  | cons type types ih =>
      rw [Parameters.extract, Parameters.extract, ih]
      rfl

theorem accepts_under (frame : Frame H) (wide : Policy) (types : List SlotType) (offset : Nat) :
    Parameters.accepts (frame.under wide) types offset =
      Parameters.accepts frame types offset := by
  induction types generalizing offset with
  | nil => rfl
  | cons type types ih =>
      rw [Parameters.accepts, Parameters.accepts, ih]
      rfl

/-- A number of arguments that was taken is taken. -/
theorem takesCount_under (widens : frame.policy.WidensTo wide) {declared : Arity}
    (taken : frame.takesCount declared = true) :
    (frame.under wide).takesCount declared = true := by
  rw [takesCount] at taken ⊢
  cases surplus : frame.policy.surplus with
  | ignore =>
      rw [surplus] at taken
      rw [under, widens.surplus surplus]
      exact taken
  | reject =>
      rw [surplus] at taken
      exact takesCount_of_admits taken

theorem setReceiver_under (frame : Frame H) (wide : Policy) (type : H.Receiver)
    (value : H.Value type) :
    (frame.under wide).setReceiver type value =
      (frame.setReceiver type value).map (·.under wide) := by
  have same : (frame.under wide).receiverSlot = frame.receiverSlot := rfl
  have sameHeap : (frame.under wide).heap = frame.heap := rfl
  rw [setReceiver_eq, setReceiver_eq, same, sameHeap]
  cases frame.receiverSlot with
  | error error => rfl
  | ok slot =>
      cases slot with
      | native object =>
          dsimp only
          cases object.as? type <;> rfl
      | object handle =>
          dsimp only
          cases frame.heap.set handle type value <;> rfl
      | _ => rfl

theorem putReceiver_under (frame : Frame H) (wide : Policy) (type : H.Receiver)
    (value : H.Value type) :
    (frame.under wide).putReceiver type value = (frame.putReceiver type value).under wide := by
  rw [putReceiver, putReceiver, setReceiver_under]
  cases frame.setReceiver type value <;> rfl

theorem policy_putReceiver (frame : Frame H) (type : H.Receiver) (value : H.Value type) :
    (frame.putReceiver type value).policy = frame.policy := by
  obtain ⟨_, run⟩ := frame.reaches_putReceiver type value
  exact run.sameFooting.policy

/-- A slot that was pushed is pushed. -/
theorem push_under (widens : frame.policy.WidensTo wide) {slot : Slot H}
    (pushed : frame.push slot = .ok next) :
    (frame.under wide).push slot = .ok (next.under wide) := by
  rw [push] at pushed ⊢
  split at pushed
  · cases pushed
  · rename_i room
    cases pushed
    have limit := widens.stackLimit
    exact if_neg fun full => room (Nat.le_trans limit full)

/-- So are several. -/
theorem pushAll_under (widens : frame.policy.WidensTo wide) {slots : List (Slot H)}
    (pushed : frame.pushAll slots = (.ok (), next)) :
    (frame.under wide).pushAll slots = (.ok (), next.under wide) := by
  induction slots generalizing frame with
  | nil =>
      cases pushed
      rfl
  | cons slot slots ih =>
      rw [pushAll] at pushed ⊢
      cases first : frame.push slot with
      | error error =>
          rw [first] at pushed
          cases pushed
      | ok middle =>
          rw [first] at pushed
          rw [push_under widens first]
          have same : middle.policy = frame.policy :=
            (FrameStep.push slot first).sameFooting.policy
          exact ih (same ▸ widens) pushed

end Frame

/-- The scene under another policy. -/
def Scene.under (scene : Scene H) (policy : Policy) : Scene H :=
  { scene with frame := scene.frame.under policy }

theorem Scene.frame_under (scene : Scene H) (policy : Policy) :
    (scene.under policy).frame = scene.frame.under policy := rfl

/-- A result that was delivered is delivered. -/
theorem Frame.deliver_under {frame : Frame H} {wide : Policy}
    (widens : frame.policy.WidensTo wide) {world : World H} {type : ResultType}
    {content : type.Val H} {count : Nat} {after : Scene H}
    (delivered : frame.deliver world type content = (.ok count, after)) :
    (frame.under wide).deliver world type content = (.ok count, after.under wide) := by
  rw [deliver, pushResult_eq_pushAll] at delivered ⊢
  cases encoded : type.encode content with
  | error text =>
      rw [encoded] at delivered
      cases delivered
  | ok slots =>
      cases pushed : frame.pushAll slots with
      | mk outcome next =>
          simp only [encoded, pushed] at delivered
          cases outcome with
          | error error => cases delivered
          | ok _ =>
              cases delivered
              simp only [pushAll_under widens pushed]
              rfl

/-! ## Closures -/

section Closures

variable {library : Library H} {invoke : Invoker H} {scene after : Scene H} {wide : Policy}

theorem Check.passes_under (widens : scene.frame.policy.WidensTo wide) {check : Check H}
    (passed : check.failure? scene = none) : check.failure? (scene.under wide) = none := by
  cases check with
  | count declared =>
      rw [Library.count_passes_iff] at passed ⊢
      exact Frame.takesCount_under widens passed
  | _ => exact passed

/-- Checks that all passed all pass. -/
theorem firstFailure_under (widens : scene.frame.policy.WidensTo wide) {checks : List (Check H)}
    (passed : firstFailure scene checks = none) :
    firstFailure (scene.under wide) checks = none := by
  rw [firstFailure, List.findSome?_eq_none_iff] at passed ⊢
  exact fun check member => Check.passes_under widens (passed check member)

/-- A run of a body ends alike under both policies, if its end does. -/
theorem map_under {α : Type} {ran : Option (α × World H)}
    {finish wideFinish : α × World H → Except CallError Nat × Scene H} {count : Nat}
    (succeeded : ran.map finish = some (.ok count, after))
    (alike : ∀ reached, finish reached = (.ok count, after) →
      wideFinish reached = (.ok count, after.under wide)) :
    ran.map wideFinish = some (.ok count, after.under wide) := by
  obtain ⟨reached, ended, finished⟩ := Option.map_eq_some_iff.mp succeeded
  rw [ended, Option.map_some, alike reached finished]

/-- A body that succeeds succeeds, on the same receiver and the same parameters. -/
theorem Library.RunsBody.under (widens : scene.frame.policy.WidensTo wide)
    {block : Block H.toVocabulary} (wrapped : block.isWrapped = true) {count : Nat}
    {outcome : Option (Except CallError Nat × Scene H)}
    (runs : library.RunsBody invoke scene (some (.ok count, after)) block)
    (wideRuns : library.RunsBody invoke (scene.under wide) outcome block) :
    outcome = some (.ok count, after.under wide) := by
  have sameRead (types : List SlotType) (offset : Nat) :
      Parameters.extract (scene.under wide).frame types offset =
        Parameters.extract scene.frame types offset :=
    Frame.extract_under scene.frame wide types offset
  cases block with
  | function name =>
      obtain ⟨parameters, read, ended⟩ := runs
      obtain ⟨wideParameters, wideRead, wideEnded⟩ := wideRuns
      cases read.symm.trans ((sameRead _ _).symm.trans wideRead)
      rw [wideEnded]
      exact map_under ended.symm fun reached => Frame.deliver_under widens
  | method name =>
      obtain ⟨value, parameters, found, read, ended⟩ := runs
      obtain ⟨wideValue, wideParameters, wideFound, wideRead, wideEnded⟩ := wideRuns
      cases read.symm.trans ((sameRead _ _).symm.trans wideRead)
      cases found.symm.trans wideFound
      cases body : (library.method name).body with
      | shared run =>
          rw [body] at ended wideEnded
          rw [wideEnded]
          exact map_under ended.symm fun reached => Frame.deliver_under widens
      | exclusive run =>
          rw [body] at ended wideEnded
          rw [wideEnded]
          refine map_under ended.symm fun ((content, changed), world) delivered => ?_
          have kept := scene.frame.policy_putReceiver (library.method name).receiver changed
          simp only [Scene.frame_under, Frame.putReceiver_under]
          exact Frame.deliver_under (kept ▸ widens) delivered
  | boundMethod name receiver =>
      obtain ⟨parameters, loan, borrowed, read, acquired, ended⟩ := runs
      obtain ⟨wideParameters, wideLoan, wideBorrowed, wideRead, wideAcquired, wideEnded⟩ :=
        wideRuns
      cases read.symm.trans ((sameRead _ _).symm.trans wideRead)
      cases acquired.symm.trans wideAcquired
      cases body : (library.method name).body with
      | shared run =>
          rw [body] at ended wideEnded
          rw [wideEnded]
          exact map_under ended.symm fun reached => Frame.deliver_under widens
      | exclusive run =>
          rw [body] at ended wideEnded
          rw [wideEnded]
          exact map_under ended.symm fun reached => Frame.deliver_under widens
  | field name =>
      obtain ⟨value, found, ended⟩ := runs
      obtain ⟨wideValue, wideFound, wideEnded⟩ := wideRuns
      cases found.symm.trans wideFound
      rcases ended with ⟨one, ended⟩ | ⟨two, content, read, ended⟩
      · rcases wideEnded with ⟨_, wideEnded⟩ | ⟨wideTwo, _⟩
        · rw [wideEnded]
          exact congrArg some (Frame.deliver_under widens (Option.some.inj ended).symm)
        · exact absurd (one.symm.trans wideTwo) (by decide)
      · rcases wideEnded with ⟨wideOne, _⟩ | ⟨_, wideContent, wideRead, wideEnded⟩
        · exact absurd (two.symm.trans wideOne) (by decide)
        · cases read.symm.trans wideRead
          cases ended
          rw [wideEnded, Scene.frame_under, Frame.putReceiver_under]
          rfl
  | boundField name receiver =>
      rcases runs with ⟨zero, loan, borrowed, acquired, ended⟩ |
        ⟨one, content, loan, borrowed, read, acquired, ended⟩
      · rcases wideRuns with ⟨_, wideLoan, wideBorrowed, wideAcquired, wideEnded⟩ | ⟨wideOne, _⟩
        · cases acquired.symm.trans wideAcquired
          rw [wideEnded]
          exact congrArg some (Frame.deliver_under widens (Option.some.inj ended).symm)
        · exact absurd (zero.symm.trans wideOne) (by decide)
      · rcases wideRuns with ⟨wideZero, _⟩ |
          ⟨_, wideContent, wideLoan, wideBorrowed, wideRead, wideAcquired, wideEnded⟩
        · exact absurd (one.symm.trans wideZero) (by decide)
        · cases read.symm.trans wideRead
          cases acquired.symm.trans wideAcquired
          cases ended
          exact wideEnded
  | construct name =>
      obtain ⟨parameters, read, ended⟩ := runs
      obtain ⟨wideParameters, wideRead, wideEnded⟩ := wideRuns
      cases read.symm.trans ((sameRead _ _).symm.trans wideRead)
      rw [wideEnded]
      refine map_under ended.symm fun (value, world) delivered => ?_
      let placed : Frame H := { scene.frame with
        heap := (scene.frame.heap.allocate ⟨(library.constructor name).receiver, value⟩).1 }
      have placedWidens : placed.policy.WidensTo wide := widens
      exact Frame.deliver_under placedWidens delivered
  | custom label name => cases wrapped

namespace Library

/-- The checks before the body of a call that succeeds all pass. -/
theorem checks_pass_of_ok {id : ClosureId} {block : Block H.toVocabulary} {count : Nat}
    (succeeded : library.callWith invoke (.closure id block) scene = some (.ok count, after)) :
    firstFailure scene (library.checks scene.frame.argumentCount block) = none := by
  cases decided : firstFailure scene (library.checks scene.frame.argumentCount block) with
  | none => rfl
  | some error =>
      rw [(failsBeforeBody_closure decided id).callWith_eq] at succeeded
      cases succeeded

/-- A closure that succeeds succeeds under a wider policy, -/
theorem callWith_closure_under (widens : scene.frame.policy.WidensTo wide) {id : ClosureId}
    {block : Block H.toVocabulary} (wrapped : block.isWrapped = true) {count : Nat}
    (succeeded : library.callWith invoke (.closure id block) scene = some (.ok count, after)) :
    library.callWith invoke (.closure id block) (scene.under wide) =
      some (.ok count, after.under wide) := by
  have passed := checks_pass_of_ok succeeded
  have runs := runsBody_closure passed id invoke
  rw [succeeded] at runs
  exact runs.under widens wrapped
    (runsBody_closure (firstFailure_under widens passed) id invoke)

/-- and accepts the types of its arguments there. -/
theorem blockAccepts_under_of_ok (widens : scene.frame.policy.WidensTo wide) {id : ClosureId}
    {block : Block H.toVocabulary} (wrapped : block.isWrapped = true) {count : Nat}
    (succeeded : library.callWith invoke (.closure id block) scene = some (.ok count, after)) :
    library.blockAccepts (scene.frame.under wide) block = true := by
  have passed := firstFailure_under widens (checks_pass_of_ok succeeded)
  rw [checks, firstFailure_append, Option.or_eq_none_iff] at passed
  exact ((arguments_pass_iff wrapped).mp passed.1).2

end Library

end Closures

/-! ## Routers -/

namespace Library

variable {library : Library H} {frame : Frame H} {wide : Policy}

theorem blockAccepts_under (frame : Frame H) (wide : Policy) {block : Block H.toVocabulary}
    (wrapped : block.isWrapped = true) :
    library.blockAccepts (frame.under wide) block = library.blockAccepts frame block := by
  cases block with
  | function name | boundMethod name receiver | construct name =>
      rw [blockAccepts, blockAccepts, Frame.accepts_under]
  | method name =>
      rw [blockAccepts, blockAccepts, Frame.accepts_under]
      rfl
  | field name | boundField name receiver => rfl
  | custom label name => cases wrapped

/-- Where types are checked, no other setting decides which callbacks are taken. -/
theorem Wrapped.takes_under {callback : Callback H.toVocabulary}
    (wrapped : library.Wrapped callback) (checked : frame.policy.checksTypes = true)
    (wideChecked : wide.checksTypes = true) :
    library.takes (frame.under wide) callback = library.takes frame callback := by
  have checkedUnder : (frame.under wide).policy.checksTypes = true := wideChecked
  induction wrapped with
  | closure id wrapped =>
      rw [takes_of_checksTypes checked, takes_of_checksTypes checkedUnder, accepts, accepts,
        blockAccepts_under frame wide wrapped]
      rfl
  | router id shape each ih =>
      rw [takes_router checked, takes_router checkedUnder, List.find?_congr ih]

/-- A candidate that is passed over is passed over under a wider policy. -/
theorem Wrapped.takes_of_takes_under {callback : Callback H.toVocabulary}
    (wrapped : library.Wrapped callback) (widens : frame.policy.WidensTo wide)
    (taken : library.takes (frame.under wide) callback = true) :
    library.takes frame callback = true := by
  cases checked : frame.policy.checksTypes with
  | true => rwa [wrapped.takes_under checked (widens.checksTypes checked)] at taken
  | false =>
      rw [takes, Bool.and_eq_true] at taken ⊢
      exact ⟨taken.1, by rw [checked]; rfl⟩

/-- So a router that goes on to take what it took chooses as it chose. -/
theorem find?_under {candidates : List (Callback H.toVocabulary)}
    {candidate : Callback H.toVocabulary} (each : ∀ other ∈ candidates, library.Wrapped other)
    (widens : frame.policy.WidensTo wide)
    (found : candidates.find? (library.takes frame) = some candidate)
    (taken : library.takes (frame.under wide) candidate = true) :
    candidates.find? (library.takes (frame.under wide)) = some candidate := by
  obtain ⟨_, earlier, later, rfl, passedOver⟩ := List.find?_eq_some_iff_append.mp found
  refine List.find?_eq_some_iff_append.mpr ⟨taken, earlier, later, rfl, fun other member => ?_⟩
  have passed := passedOver other member
  rw [Bool.not_eq_true'] at passed ⊢
  rw [Bool.eq_false_iff] at passed ⊢
  exact fun wideTaken => passed
    ((each other (List.mem_append_left _ member)).takes_of_takes_under widens wideTaken)

/-- A wrapped callback that succeeds succeeds under a wider policy, and a router in front of it
takes it there if it admits the number of arguments. -/
theorem Wrapped.callWith_under {callback : Callback H.toVocabulary}
    (wrapped : library.Wrapped callback) {invoke : Invoker H} {scene after : Scene H}
    (widens : scene.frame.policy.WidensTo wide) {count : Nat}
    (succeeded : library.callWith invoke callback scene = some (.ok count, after)) :
    library.callWith invoke callback (scene.under wide) = some (.ok count, after.under wide) ∧
      ((library.arity callback).admits scene.frame.argumentCount = true →
        library.takes (scene.frame.under wide) callback = true) := by
  induction wrapped with
  | closure id wrapped =>
      refine ⟨callWith_closure_under widens wrapped succeeded, fun admitted => ?_⟩
      have accepted := blockAccepts_under_of_ok widens wrapped succeeded
      rw [takes, accepts, accepted, Bool.or_true, Bool.and_true]
      exact admitted
  | @router id shape candidates each ih =>
      cases found : candidates.find? (library.takes scene.frame) with
      | none =>
          obtain ⟨mismatch, _, fails⟩ := failsBeforeBody_of_find?_eq_none found id shape
            (library.covering candidates)
          rw [fails.callWith_eq] at succeeded
          cases succeeded
      | some candidate =>
          rw [callWith_router_of_find?_eq_some found] at succeeded
          have chosen := List.find?_some found
          rw [takes, Bool.and_eq_true] at chosen
          obtain ⟨called, takenThere⟩ := ih candidate (List.mem_of_find?_eq_some found) succeeded
          have wideFound : candidates.find? (library.takes (scene.under wide).frame) =
              some candidate := find?_under each widens found (takenThere chosen.1)
          refine ⟨?_, fun admitted => ?_⟩
          · rw [callWith_router_of_find?_eq_some wideFound, called]
          · cases wideChecked : wide.checksTypes with
            | true =>
                rw [← Scene.frame_under, takes_router wideChecked, wideFound]
                rfl
            | false =>
                rw [takes, Bool.and_eq_true, Frame.under, wideChecked]
                exact ⟨admitted, rfl⟩

end Library

namespace Interpreter

/-- **What succeeds under a policy succeeds under every wider one.**  Let a wrapped callback,
behind any number of routers, be called in an interpreter, with any arguments and in any world.
If the call succeeds, then it succeeds when surplus arguments are ignored that were refused,
when types are checked that were not, and when the stack may grow further: with the same
results, the same heap afterwards and the same world. -/
theorem call_of_widensTo (library : Library H) {callback : Callback H.toVocabulary}
    (wrapped : library.Wrapped callback) (depth : Nat) {interpreter after : Interpreter H}
    {wide : Policy} (widens : interpreter.policy.WidensTo wide) {arguments : List (Slot H)}
    {world reached : World H} {results : List (Slot H)}
    (succeeded : interpreter.call library depth callback arguments world =
      some ((.ok results, after), reached)) :
    { interpreter with policy := wide }.call library depth callback arguments world =
      some ((.ok results, { after with policy := wide }), reached) := by
  have steps := library.goesBySteps_call depth
  rcases callWith_cases steps succeeded with
    ⟨_, _, overflow⟩ | ⟨fits, reported, frame, pushes, ran, run, gave, rfl⟩
  · cases overflow
  · obtain ⟨count, rfl, _, _⟩ := resultsOf_eq_ok_iff.mp gave.symm
    let widened : Interpreter H := { interpreter with policy := wide }
    have wideFits : widened.Fits arguments := Nat.le_trans fits widens.stackLimit
    have wideRan : library.call depth callback ⟨widened.entry arguments, world⟩ =
        some (.ok count, ⟨frame.under wide, reached⟩) := by
      cases depth with
      | zero => exact (wrapped.callWith_under widens ran).1
      | succ depth => exact (wrapped.callWith_under widens ran).1
    obtain ⟨widePushes, wideRun⟩ := steps callback _ _ _ wideRan
    -- the same slots were pushed on the way
    have pushed : frame.pushedSlots = pushes := pushedSlots_of_run run
    have widePushed : (frame.under wide).pushedSlots = widePushes := pushedSlots_of_run wideRun
    have same : pushes = widePushes := pushed.symm.trans widePushed
    have called := callWith_of_run wideFits wideRan wideRun
    rw [gave, same]
    exact called

end Interpreter

namespace Sample

/-- A policy that refuses surplus arguments, looks at no types and has room for two slots. -/
def narrowPolicy : Policy := { checksTypes := false, stackLimit := 2 }

/-- A tagging function for an integer, and one for a text. -/
def integerOrTextTags : List (Callback vocabulary) :=
  [.closure 0 (.function (.tag .int 3)), .closure 1 (.function (.tag .text 1))]

/-- A router in front of the two. -/
def integerOrText : Callback vocabulary :=
  (Callback.route (Session.library #[]) .overloaded integerOrTextTags { memory := {} }).1

/-- The interpreter of a call with an integer. -/
def narrowInterpreter : Interpreter host := { policy := narrowPolicy }

/-- An integer goes to the first function under either policy. -/
theorem call_integerOrText :
    (Session.library #[]).Wrapped integerOrText ∧
      narrowPolicy.WidensTo { surplus := .ignore } ∧
      ∃ after reached,
        narrowInterpreter.call (Session.library #[]) 0 integerOrText [.int 5] { memory := {} } =
          some ((.ok [.int 3], after), reached) ∧
        Interpreter.call { policy := { surplus := .ignore } } (Session.library #[]) 0
            integerOrText [.int 5] { memory := {} } =
          some ((.ok [.int 3], { after with policy := { surplus := .ignore } }), reached) := by
  have each : ∀ candidate ∈ integerOrTextTags, (Session.library #[]).Wrapped candidate := by
    intro candidate member
    rcases List.mem_cons.mp member with rfl | member
    · exact .closure 0 rfl
    · cases List.mem_singleton.mp member
      exact .closure 1 rfl
  have wrapped : (Session.library #[]).Wrapped integerOrText := .route each .overloaded _
  have widens : narrowPolicy.WidensTo { surplus := .ignore } :=
    ⟨fun _ => rfl, fun _ => rfl, by decide⟩
  let entered : Scene host := ⟨narrowInterpreter.entry [.int 5], { memory := {} }⟩
  have found : integerOrTextTags.find? ((Session.library #[]).takes entered.frame) =
      some (.closure 0 (.function (.tag .int 3))) := rfl
  have routed : (Session.library #[]).call 0 integerOrText entered =
      (Session.library #[]).callBlock (fun _ _ => none) (.function (.tag .int 3)) entered := by
    rw [Library.call, integerOrText, Callback.route,
      Library.callWith_router_of_find?_eq_some found, Library.callWith]
  obtain ⟨reached, frame, pushed, ran⟩ : ∃ reached frame,
      entered.frame.push (.int 3) = .ok frame ∧
        (Session.library #[]).callBlock (fun _ _ => none) (.function (.tag .int 3)) entered =
          some (.ok 1, ⟨frame, reached⟩) := ⟨_, _, rfl, rfl⟩
  have fits : narrowInterpreter.Fits [.int 5] := Nat.le_succ 1
  have succeeded :=
    Interpreter.callWith_of_run fits (routed.trans ran) (FrameStep.push (.int 3) pushed).run
  exact ⟨wrapped, widens, _, reached, succeeded,
    Interpreter.call_of_widensTo (Session.library #[]) wrapped 0 widens succeeded⟩

end Sample

end HostCall
