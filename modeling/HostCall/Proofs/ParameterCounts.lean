import HostCall.Proofs.Aliases
import HostCall.Proofs.Filter
import HostCall.Proofs.ParameterReading
import Mathlib.Data.List.Induction

/-!
# How many arguments a list of parameters takes

The range of a list of parameters is found by going back from its end past all that may be left out
(`Arity.least_ofParameters_concat`).  It admits a number of arguments exactly when there are no more
of them than parameters and every parameter behind them may be left out
(`Arity.admits_ofParameters_iff`).

So once the number of arguments has passed, under either policy for surplus ones, no parameter is
out of bounds (`Parameters.extract_ne_noArgument`): a parameter that needs an argument has one.  A
wrapped callable checks the number first, and a call that fails with an index out of bounds comes
from a callable that works on frames itself (`ofParameters_omissionRule`).
-/

set_option autoImplicit false

namespace HostCall

variable {H : Host}

/-! ## The range of a list of parameters -/

namespace Arity

/-- One parameter more at the end is needed together with all before it, or may be left out. -/
theorem least_ofParameters_concat (types : List SlotType) (type : SlotType) :
    (ofParameters (types ++ [type])).least =
      if type.isOptional then (ofParameters types).least else types.length + 1 := by
  rw [ofParameters, ofParameters, List.reverse_append, List.reverse_singleton,
    List.singleton_append, List.dropWhile_cons]
  cases type.isOptional with
  | true => rfl
  | false => simp [range]

/-- The last argument that is needed is for a parameter that may not be left out. -/
theorem exists_required_of_least_pos {types : List SlotType}
    (positive : 0 < (ofParameters types).least) :
    ∃ type, types[(ofParameters types).least - 1]? = some type ∧
      type.isOptional = false := by
  induction types using List.reverseRecOn with
  | nil => cases positive
  | append_singleton types type ih =>
      rw [least_ofParameters_concat] at positive ⊢
      cases optional : type.isOptional with
      | false => exact ⟨type, by simp, optional⟩
      | true =>
          rw [optional, if_pos rfl] at positive
          obtain ⟨last, found, required⟩ := ih positive
          have inside := (List.getElem?_eq_some_iff.mp found).1
          rw [if_pos rfl, List.getElem?_append_left inside]
          exact ⟨last, found, required⟩

/-- **The range is the rule of omission.**  A number of arguments is admitted when no parameter is
without a place for it and every parameter without an argument may be left out. -/
theorem admits_ofParameters_iff {types : List SlotType} {count : Nat} :
    (ofParameters types).admits count = true ↔
      count ≤ types.length ∧
        ∀ (index : Nat) (type : SlotType), types[index]? = some type → count ≤ index →
          type.isOptional = true := by
  rw [admits_iff]
  constructor
  · rintro ⟨lower, upper⟩
    exact ⟨upper types.length rfl, fun index type found beyond =>
      isOptional_of_least_le found (Nat.le_trans lower beyond)⟩
  · rintro ⟨upper, optional⟩
    refine ⟨Nat.le_of_not_lt fun fewer => ?_, ?_⟩
    · obtain ⟨type, found, required⟩ :=
        exists_required_of_least_pos (Nat.lt_of_le_of_lt (Nat.zero_le count) fewer)
      have leftOut := optional _ type found (Nat.le_sub_one_of_lt fewer)
      rw [required] at leftOut
      cases leftOut
    · rintro _ ⟨⟩
      exact upper

end Arity

/-! ## No parameter is out of bounds -/

theorem Frame.takesCount_of_checkCount {frame : Frame H} {declared : Arity}
    (counted : frame.checkCount declared = .ok ()) : frame.takesCount declared = true := by
  rw [checkCount] at counted
  split at counted
  · assumption
  · cases counted

/-- Reading a parameter is out of bounds where its argument is missing and needed. -/
theorem Frame.missing_of_noArgument {frame : Frame H} {type : SlotType} {index place count : Nat}
    (outOfBounds : frame.argument type index = .error (.noArgument place count)) :
    frame.argument? index = none ∧ type.isOptional = false := by
  cases reading_iff.mpr outOfBounds with
  | needed missing required => exact ⟨missing, required⟩

/-- **Parameters are in bounds once their number has been checked**, behind any number of leading
arguments and under either policy: a parameter that needs an argument has one. -/
theorem Parameters.extract_ne_noArgument {frame : Frame H} {types : List SlotType} {offset : Nat}
    (taken : frame.takesCount ((Arity.ofParameters types).shift offset) = true)
    (index count : Nat) :
    extract frame types offset ≠ .error (.noArgument index count) := by
  intro failed
  obtain ⟨place, outOfBounds, _⟩ := extract_eq_error_iff.mp failed
  obtain ⟨missing, required⟩ := Frame.missing_of_noArgument outOfBounds
  have enough : (Arity.ofParameters types).least + offset ≤ frame.argumentCount :=
    Policy.least_le_of_takes (show frame.policy.takes _ frame.argumentCount = true from taken)
  have beyond := Frame.argument?_eq_none_iff.mp missing
  have optional := Arity.isOptional_of_least_le (List.getElem?_eq_getElem place.isLt)
    (by omega : (Arity.ofParameters types).least ≤ place)
  exact Bool.false_ne_true (required.symm.trans optional)

/-! ## Wrapped callables -/

section Checks

variable {scene : Scene H} {index count : Nat}

/-- The check reads a parameter. -/
def Check.readsParameter : Check H → Bool
  | parameter _ _ => true
  | _ => false

/-- Only such a check finds an index out of bounds. -/
theorem Check.readsParameter_of_noArgument {check : Check H}
    (failed : check.failure? scene = some (.noArgument index count)) :
    check.readsParameter = true := by
  cases check with
  | count declared | accessorCount counts | reachable bound type | borrowable bound type access =>
      rw [Check.failure?] at failed
      split at failed <;> cases failed
  | receiver type =>
      rcases Frame.stale_or_invalid_of_receiver (failureOf_eq_some_iff.mp failed) with
        ⟨_, same⟩ | ⟨_, same⟩
      · cases same
      · cases same
  | parameter type place => rfl

/-- Any other check in front has passed when an index is found out of bounds. -/
theorem firstFailure_cons_noArgument {check : Check H} {checks : List (Check H)}
    (other : check.readsParameter = false)
    (failed : firstFailure scene (check :: checks) = some (.noArgument index count)) :
    check.failure? scene = none ∧ firstFailure scene checks = some (.noArgument index count) := by
  rw [firstFailure_cons] at failed
  cases first : check.failure? scene with
  | none => exact ⟨rfl, by rwa [first, Option.none_or] at failed⟩
  | some error =>
      rw [first, Option.some_or] at failed
      cases failed
      exact absurd (Check.readsParameter_of_noArgument first) (Bool.eq_false_iff.mp other)

end Checks

namespace Library

variable {library : Library H} {scene : Scene H} {index count : Nat}

/-- A number that passes keeps the parameters behind it in bounds. -/
theorem firstFailure_parameterChecks_ne_noArgument {types : List SlotType} {offset : Nat}
    (passed : (Check.count ((Arity.ofParameters types).shift offset)).failure? scene = none) :
    firstFailure scene (parameterChecks H types offset) ≠ some (.noArgument index count) := by
  intro failed
  rw [← failureOf_extract] at failed
  exact Parameters.extract_ne_noArgument (count_passes_iff.mp passed) index count
    (failureOf_eq_some_iff.mp failed)

/-- The one parameter of a field is in bounds where there is an argument for it. -/
theorem firstFailure_accessor_ne_noArgument {type : SlotType} {place : Nat}
    (there : place < scene.frame.argumentCount) :
    firstFailure scene [.parameter type place] ≠ some (.noArgument index count) := by
  intro failed
  rw [firstFailure_cons, firstFailure_nil, Option.or_none, ← failureOf_argument] at failed
  obtain ⟨missing, _⟩ := Frame.missing_of_noArgument (failureOf_eq_some_iff.mp failed)
  exact absurd there (Nat.not_lt_of_le (Frame.argument?_eq_none_iff.mp missing))

/-- No argument that a block asks for is out of bounds: the number of arguments, which is checked
first, has seen to it. -/
theorem argumentChecks_ne_noArgument {block : Block H.toVocabulary} :
    firstFailure scene (library.argumentChecks scene.frame.argumentCount block) ≠
      some (.noArgument index count) := by
  intro failed
  cases block with
  | function name | boundMethod name _ | construct name =>
      obtain ⟨passed, failed⟩ := firstFailure_cons_noArgument rfl failed
      exact firstFailure_parameterChecks_ne_noArgument passed failed
  | method name =>
      obtain ⟨passed, failed⟩ := firstFailure_cons_noArgument rfl failed
      obtain ⟨-, failed⟩ := firstFailure_cons_noArgument rfl failed
      exact firstFailure_parameterChecks_ne_noArgument passed failed
  | field name =>
      obtain ⟨-, failed⟩ := firstFailure_cons_noArgument rfl failed
      obtain ⟨-, failed⟩ := firstFailure_cons_noArgument rfl failed
      split at failed
      · rename_i two
        exact firstFailure_accessor_ne_noArgument (by omega) failed
      · cases failed
  | boundField name receiver =>
      obtain ⟨-, failed⟩ := firstFailure_cons_noArgument rfl failed
      split at failed
      · rename_i one
        exact firstFailure_accessor_ne_noArgument (by omega) failed
      · cases failed
  | custom label name => cases failed

/-- A wrapped callable never finds an index out of bounds: its checks do not, and its body fails
in ways of its own. -/
theorem callBlock_ne_noArgument {invoke : Invoker H} {block : Block H.toVocabulary}
    (wrapped : block.isWrapped = true) (after : Scene H) :
    library.callBlock invoke block scene ≠ some (.error (.noArgument index count), after) := by
  intro called
  have checked := checked_block library invoke scene block
  rw [Checked, called] at checked
  cases decided : firstFailure scene (library.checks scene.frame.argumentCount block) with
  | none =>
      rw [decided] at checked
      cases comesLater_of_bodyEnd (bodyEnd_of_runsBody wrapped checked) rfl
  | some error =>
      rw [decided] at checked
      cases checked
      rw [checks, firstFailure_append] at decided
      cases arguments : firstFailure scene
          (library.argumentChecks scene.frame.argumentCount block) with
      | some error =>
          rw [arguments, Option.some_or] at decided
          cases decided
          exact argumentChecks_ne_noArgument arguments
      | none =>
          rw [arguments, Option.none_or] at decided
          cases comesLater_of_firstFailure decided

end Library

/-- The callback runs a callable that works on frames itself, and reads them as it likes. -/
def Callback.worksOnFrames {V : Vocabulary} : Callback V → Bool
  | direct _ => true
  | closure _ block => !block.isWrapped
  | router _ _ _ _ => false

/-- An index is out of bounds only where a call leads to a callable that works on frames itself. -/
theorem Library.exists_worksOnFrames_of_noArgument {library : Library H} {invoke : Invoker H}
    {callback : Callback H.toVocabulary} {scene after : Scene H} {index count : Nat}
    (failed : library.callWith invoke callback scene =
      some (.error (.noArgument index count), after)) :
    ∃ source, library.LeadsTo scene.frame source callback ∧ source.worksOnFrames = true := by
  induction callback using Callback.inductionOn with
  | direct name => exact ⟨.direct name, .itself, rfl⟩
  | closure id block =>
      refine ⟨.closure id block, .itself, ?_⟩
      rw [callWith] at failed
      cases wrapped : block.isWrapped with
      | true => exact absurd failed (callBlock_ne_noArgument wrapped after)
      | false => simp [Callback.worksOnFrames, wrapped]
  | router id shape declared candidates ih =>
      cases taken : candidates.find? (library.takes scene.frame) with
      | none =>
          obtain ⟨mismatch, refused, _⟩ := select_of_find?_eq_none taken
          rw [callWith_router_of_mismatch refused] at failed
          cases failed
      | some candidate =>
          obtain ⟨place, chosen, found⟩ := select_of_find?_eq_some taken
          rw [callWith_router_of_select chosen found] at failed
          obtain ⟨source, leads, works⟩ := ih candidate (List.mem_of_getElem? found) failed
          exact ⟨source, .router chosen found leads id shape declared, works⟩

/-- The same in an interpreter: nothing else that may go wrong with a call is an index out of
bounds. -/
theorem Interpreter.exists_worksOnFrames_of_noArgument {library : Library H}
    {interpreter after : Interpreter H} {depth : Nat} {callback : Callback H.toVocabulary}
    {arguments : List (Slot H)} {world reached : World H} {index count : Nat}
    (failed : interpreter.call library depth callback arguments world =
      some ((.error (.noArgument index count), after), reached)) :
    ∃ source, library.LeadsTo (interpreter.entry arguments) source callback ∧
      source.worksOnFrames = true := by
  rcases callWith_cases (library.goesBySteps_call depth) failed with
    ⟨_, _, crowded⟩ | ⟨_, reported, frame, pushes, ran, _, results, _⟩
  · cases crowded
  · rw [Library.call_eq_callWith_nested] at ran
    cases reported with
    | error error =>
        cases results
        exact Library.exists_worksOnFrames_of_noArgument ran
    | ok claimed =>
        rw [resultsOf] at results
        split at results <;> cases results

/-- So is nothing that may go wrong with looking for a callback under a name. -/
theorem Route.exists_worksOnFrames_of_noArgument {library : Library H} {route : Route H}
    {interpreter after : Interpreter H} {depth : Nat} {arguments : List (Slot H)}
    {world reached : World H} {index count : Nat}
    (failed : route.call library depth arguments interpreter world =
      some ((.error (.noArgument index count), after), reached)) :
    ∃ source, route.LeadsTo library interpreter arguments source ∧
      source.worksOnFrames = true := by
  cases route with
  | held callback =>
      obtain ⟨source, leads, works⟩ := Interpreter.exists_worksOnFrames_of_noArgument failed
      exact ⟨source, ⟨callback, rfl, leads⟩, works⟩
  | named name =>
      rw [call, Interpreter.callGlobal] at failed
      cases stored : interpreter.callable name with
      | ok callback =>
          rw [stored] at failed
          obtain ⟨source, leads, works⟩ := Interpreter.exists_worksOnFrames_of_noArgument failed
          exact ⟨source, ⟨callback, by rw [callback?, stored]; rfl, leads⟩, works⟩
      | error error =>
          rw [stored] at failed
          cases failed
          rw [Interpreter.callable] at stored
          split at stored <;> cases stored

/-- **The range of a list of parameters is the rule of omission, and rules out an index out of
bounds.**

* The range admits a number of arguments exactly when there are no more of them than parameters
  and every parameter without one is optional.
* Where a function, a method, a bound method or a constructor is given a number of arguments that
  passes, under either policy, its parameters do not fail with an index out of bounds.
* A call that fails so, on a frame or in an interpreter, of a callback at hand or of one under a
  name, leads to a callable that works on frames itself. -/
theorem ofParameters_omissionRule (library : Library H) :
    (∀ (types : List SlotType) (count : Nat),
      (Arity.ofParameters types).admits count = true ↔
        count ≤ types.length ∧
          ∀ (index : Nat) (type : SlotType), types[index]? = some type → count ≤ index →
            type.isOptional = true) ∧
    (∀ (block : Block H.toVocabulary) (leading : Nat) (types : List SlotType),
      library.Reads block leading types →
        ∀ frame : Frame H, frame.checkCount (library.blockArity block) = .ok () →
          ∀ index count, Parameters.extract frame types leading ≠
            .error (.noArgument index count)) ∧
    (∀ (invoke : Invoker H) (callback : Callback H.toVocabulary) (scene after : Scene H)
        (index count : Nat),
      library.callWith invoke callback scene =
          some (.error (.noArgument index count), after) →
        ∃ source, library.LeadsTo scene.frame source callback ∧ source.worksOnFrames = true) ∧
    ∀ (depth : Nat) (route : Route H) (arguments : List (Slot H))
        (interpreter after : Interpreter H) (world reached : World H) (index count : Nat),
      route.call library depth arguments interpreter world =
          some ((.error (.noArgument index count), after), reached) →
        ∃ source, route.LeadsTo library interpreter arguments source ∧
          source.worksOnFrames = true := by
  refine ⟨fun types count => Arity.admits_ofParameters_iff, ?_, ?_, ?_⟩
  · intro block leading types reads frame counted
    rw [reads.blockArity_eq] at counted
    exact Parameters.extract_ne_noArgument (Frame.takesCount_of_checkCount counted)
  · intro invoke callback scene after index count
    exact Library.exists_worksOnFrames_of_noArgument
  · intro depth route arguments interpreter after world reached index count
    exact Route.exists_worksOnFrames_of_noArgument

namespace Sample

/-- A copy of a callback that pushes its first argument. -/
def echoRoute : Route host := .held (.direct RawName.echo)

/-- With a number alone all three parameters of `trailingOptions` are in bounds, where `echoRoute`
without arguments is not. -/
theorem trailingOptions_inBounds :
    ((Frame.enter #[.int 5] 0 {} {} : Frame host).checkCount
        ((Session.library #[]).blockArity trailingOptions) = .ok () ∧
      ∀ index count, Parameters.extract (Frame.enter #[.int 5] 0 {} {} : Frame host)
        [.int64, .option .float64, .option .bool] 0 ≠ .error (.noArgument index count)) ∧
    ∃ after reached,
      echoRoute.call (Session.library #[]) 0 [] {} { memory := {} } =
          some ((.error (.noArgument 0 0), after), reached) ∧
        ∃ source, echoRoute.LeadsTo (Session.library #[]) {} [] source ∧
          source.worksOnFrames = true := by
  obtain ⟨-, inBounds, -, leads⟩ := ofParameters_omissionRule (Session.library #[])
  have reads : (Session.library #[]).Reads trailingOptions 0
      [.int64, .option .float64, .option .bool] := .function _
  have failed : echoRoute.call (Session.library #[]) 0 [] {} { memory := {} } =
      some ((.error (.noArgument 0 0), {}), { memory := {} }) := rfl
  exact ⟨⟨rfl, inBounds trailingOptions 0 _ reads _ rfl⟩, {}, { memory := {} }, failed,
    leads 0 _ [] _ _ _ _ 0 0 failed⟩

end Sample

end HostCall
