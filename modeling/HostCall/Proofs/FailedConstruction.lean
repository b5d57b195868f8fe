import HostCall.Proofs.HeapMap
import HostCall.Proofs.SharedCellRuns
import HostCall.Session.Script

/-!
# Constructions that fail

A constructor makes a value, puts it into the heap, and only then pushes the handle of the new
object.  Everything that can go wrong before the value is made leaves the heap as it was: arguments
that do not fit on the stack, a router that finds no candidate, a wrong number of arguments, an
argument that cannot be read.

What is left to go wrong is the push of the handle.  It fails exactly when the arguments have
filled the stack to its limit, and by then the object is in the heap.  The call fails, the handle
is lost, and the object stays (`failedConstruction_heap`).
-/

set_option autoImplicit false

namespace HostCall

variable {H : Host}

/-! ## Lists of constructors -/

/-- The callback of a list that is made of constructors only. -/
def Makers.buildFrom (library : Library H) (receiver : H.Receiver) (names : List H.Constructor) :
    Building H (Except RegistrationError (Callback H.toVocabulary)) := do
  let list ← names.foldlM Makers.push { receiver }
  list.build library

/-- Every leaf of the callback is one of the constructors. -/
inductive Callback.Constructs (names : List H.Constructor) : Callback H.toVocabulary → Prop
  | closure (id : ClosureId) {name : H.Constructor} (member : name ∈ names) :
      Constructs names (.closure id (.construct name))
  | router (id : ClosureId) (shape : Shape) (declared : Arity)
      {candidates : List (Callback H.toVocabulary)}
      (each : ∀ candidate ∈ candidates, Constructs names candidate) :
      Constructs names (.router id shape declared candidates)

/-- Adding constructors to a list of them makes a list of constructors. -/
theorem Makers.constructs_foldlM {names later : List H.Constructor} (listed : later ⊆ names)
    (list : Makers H) (each : ∀ candidate ∈ list.candidates, candidate.Constructs names)
    (world : World H) :
    ∀ candidate ∈ (later.foldlM Makers.push list world).1.candidates,
      candidate.Constructs names := by
  induction later generalizing list world with
  | nil => exact each
  | cons name later ih =>
      obtain ⟨member, rest⟩ := List.cons_subset.mp listed
      refine ih rest (list.push name world).1 ?_ (list.push name world).2
      intro candidate added
      rcases List.mem_append.mp added with before | new
      · exact each candidate before
      · cases List.mem_singleton.mp new
        exact .closure _ member

theorem Makers.constructs_of_buildFrom {library : Library H} {receiver : H.Receiver}
    {names : List H.Constructor} {world built : World H} {callback : Callback H.toVocabulary}
    (made : Makers.buildFrom library receiver names world = (.ok callback, built)) :
    callback.Constructs names := by
  have each := constructs_foldlM (List.Subset.refl names) { receiver } (by simp) world
  change ((names.foldlM Makers.push { receiver } world).1.build library _) = _ at made
  generalize (names.foldlM Makers.push { receiver } world).1 = list at made each
  obtain ⟨_, _ | ⟨first, _ | ⟨second, rest⟩⟩⟩ := list
  · cases made
  · cases made
    exact each callback List.mem_cons_self
  · cases made
    exact .router _ _ _ each

/-! ## What a construction comes to -/

namespace Interpreter

variable {library : Library H} {interpreter : Interpreter H} {arguments : List (Slot H)}
  {depth : Nat} {world : World H}

/-- A construction reads its arguments, makes the value, puts it into the heap, and pushes the
handle if there is room for it. -/
theorem call_construct (library : Library H) (interpreter : Interpreter H) (depth : Nat)
    (id : ClosureId) (name : H.Constructor) (arguments : List (Slot H)) (world : World H) :
    interpreter.call library depth (.closure id (.construct name)) arguments world =
      let constructor := library.constructor name
      let top := interpreter.stack.size + arguments.length
      if interpreter.policy.stackLimit < top then
        some ((.error (.stackOverflow top interpreter.policy.stackLimit), interpreter), world)
      else
        match Parameters.read interpreter.policy constructor.parameters arguments with
        | .error error => some ((.error error, interpreter), world)
        | .ok parameters =>
            ((constructor.run parameters).run (library.handler depth) world).map
              fun (value, reached) =>
                let allocated := interpreter.heap.allocate ⟨constructor.receiver, value⟩
                ((interpreter.policy.written top (.one (.value .object)) allocated.2,
                  { interpreter with heap := allocated.1 }), reached) := by
  let constructor := library.constructor name
  have ran : library.callBlock (library.nested depth) (.construct name)
        ⟨interpreter.entry arguments, world⟩ =
      constructor.call (library.handler depth) ⟨interpreter.entry arguments, world⟩ := rfl
  rw [Constructor.call, prepare_entry] at ran
  refine (call_of_prepared id
    (Parameters.read interpreter.policy constructor.parameters arguments)
    (fun parameters => (constructor.run parameters).run (library.handler depth) world)
    (fun ended => { interpreter.entry arguments with
      heap := (interpreter.heap.allocate ⟨constructor.receiver, ended.1⟩).1 })
    Prod.snd (fun ended => show ResultType.Val H (.one (.value .object)) from
      (interpreter.heap.allocate ⟨constructor.receiver, ended.1⟩).2)
    ?_ ?_ ?_).trans ?_
  · intro error read
    rw [ran, read]
  · intro parameters read
    rw [ran, read]
    rfl
  · intro ended
    exact (FrameStep.allocate (interpreter.entry arguments) _).run
  · dsimp only
    split
    · rfl
    · cases Parameters.read interpreter.policy constructor.parameters arguments <;> rfl

end Interpreter

namespace Library

variable {library : Library H}

/-- A constructor whose arguments cannot be read fails before it runs. -/
theorem failsBeforeBody_construct {scene : Scene H} {name : H.Constructor} {error : CallError}
    (refused : scene.frame.prepare (.ofParameters (library.constructor name).parameters)
      (library.constructor name).parameters = .error error) (id : ClosureId) :
    library.FailsBeforeBody (.closure id (.construct name)) scene error := by
  refine failsBeforeBody_closure ?_ id
  have reading := failureOf_prepare scene (.ofParameters (library.constructor name).parameters)
    (library.constructor name).parameters
  rw [refused] at reading
  simp only [checks, argumentChecks, boundChecks, List.append_nil, ← reading]
  rfl

/-- Down any routers, a call fails before any body runs or comes to one of the constructors, whose
arguments are read. -/
theorem construct_cases {names : List H.Constructor} {callback : Callback H.toVocabulary}
    (constructs : callback.Constructs names) (scene : Scene H) (depth : Nat) :
    (∃ error, library.FailsBeforeBody callback scene error) ∨
      ∃ name ∈ names, ∃ id parameters,
        scene.frame.prepare (.ofParameters (library.constructor name).parameters)
            (library.constructor name).parameters = .ok parameters ∧
          library.call depth callback scene =
            library.call depth (.closure id (.construct name)) scene := by
  induction constructs with
  | @closure id name member =>
      cases prepared : scene.frame.prepare (.ofParameters (library.constructor name).parameters)
          (library.constructor name).parameters with
      | error error => exact .inl ⟨error, failsBeforeBody_construct prepared id⟩
      | ok parameters => exact .inr ⟨name, member, id, parameters, prepared, rfl⟩
  | @router id shape declared candidates each ih =>
      cases found : candidates.find? (library.takes scene.frame) with
      | none =>
          obtain ⟨mismatch, _, fails⟩ := failsBeforeBody_of_find?_eq_none found id shape declared
          exact .inl ⟨_, fails⟩
      | some candidate =>
          obtain ⟨place, chosen, atPlace⟩ := select_of_find?_eq_some found
          rcases ih candidate (List.mem_of_find?_eq_some found) with
            ⟨error, fails⟩ | ⟨name, member, leaf, parameters, prepared, same⟩
          · exact .inl ⟨error, fails.router chosen atPlace id shape declared⟩
          · refine .inr ⟨name, member, leaf, parameters, prepared, ?_⟩
            rw [← same, call_eq_callWith_nested, call_eq_callWith_nested]
            exact callWith_router_of_select chosen atPlace

end Library

/-! ## What a failed construction leaves -/

/-- A new object is one live object more. -/
theorem Heap.Consistent.size_allocate {heap : Heap H} (consistent : heap.Consistent)
    (object : Object H) : (heap.allocate object).1.size = heap.size + 1 := by
  have enough := consistent.length_vacant_le
  rcases consistent.allocate_cases object with
    ⟨full, grown⟩ | ⟨index, generation, rest, next, _, refilled⟩
  · rw [grown, size, size, full, Array.size_push]
    rfl
  · rw [next, List.length_cons] at enough
    rw [refilled, size, size, next, Array.size_setIfInBounds, List.length_cons]
    dsimp only
    omega

/-- **What a failed construction leaves in the heap.**  When a slot with a list of constructors is
called and the call fails, the heap is as it was before, unless the arguments have filled the stack
to its limit and a constructor has run.  Then the failure is that of pushing the handle, and the
heap holds one object more. -/
theorem failedConstruction_heap {library : Library H} {receiver : H.Receiver}
    {names : List H.Constructor} {before built : World H} {callback : Callback H.toVocabulary}
    (made : Makers.buildFrom library receiver names before = (.ok callback, built))
    {interpreter after : Interpreter H} {depth : Nat} {arguments : List (Slot H)}
    {world reached : World H} {error : CallError}
    (failed : interpreter.call library depth callback arguments world =
      some ((.error error, after), reached)) :
    let limit := interpreter.policy.stackLimit
    let filled := interpreter.stack.size + arguments.length = limit
    let refused := ∃ error,
      library.FailsBeforeBody callback ⟨interpreter.entry arguments, world⟩ error
    (¬ filled ∨ refused → after.heap = interpreter.heap) ∧
      (filled → ¬ refused →
        error = .stackOverflow (limit + 1) limit ∧
          ∃ name ∈ names, ∃ value : H.Value (library.constructor name).receiver,
            after.heap = (interpreter.heap.allocate ⟨_, value⟩).1 ∧
              (interpreter.heap.Consistent →
                after.heap.size = interpreter.heap.size + 1)) := by
  intro limit filled refused
  have unchanged (fails : refused) : after.heap = interpreter.heap := by
    obtain ⟨_, fails⟩ := fails
    rcases Interpreter.callWith_cases (library.goesBySteps_call depth) failed with
      ⟨_, rfl, _⟩ | ⟨_, _, frame, _, ran, _, _, rfl⟩
    · rfl
    · have same := fails.scene_eq ran
      exact congrArg (fun scene : Scene H => scene.frame.heap) same
  rcases Library.construct_cases (Makers.constructs_of_buildFrom made)
    ⟨interpreter.entry arguments, world⟩ depth with
    fails | ⟨name, member, id, parameters, prepared, same⟩
  · exact ⟨fun _ => unchanged fails, fun _ passed => absurd fails passed⟩
  rw [Interpreter.prepare_entry] at prepared
  rw [Interpreter.call_congr same, Interpreter.call_construct] at failed
  simp only [prepared] at failed
  split at failed
  · rename_i crowded
    cases failed
    exact ⟨fun _ => rfl, fun full => absurd full (Nat.ne_of_gt crowded)⟩
  · rename_i fits
    obtain ⟨⟨value, last⟩, _, ended⟩ := Option.map_eq_some_iff.mp failed
    simp only [Policy.written, ResultType.encode, List.length_singleton] at ended
    by_cases room : interpreter.stack.size + arguments.length + 1 ≤ limit
    · -- with room for the handle the call does not fail
      rw [if_pos room] at ended
      cases ended
    · rw [if_neg room] at ended
      cases ended
      have full : filled := Nat.le_antisymm (Nat.le_of_not_lt fits) (Nat.le_of_not_lt room)
      constructor
      · rintro (spare | fails)
        · exact absurd full spare
        · exact unchanged fails
      · intro _ _
        exact ⟨rfl, name, member, value, rfl, fun consistent => consistent.size_allocate _⟩

namespace Sample

/-- An interpreter with room for one slot, after the construction of a counter has failed. -/
def filledInterpreter : Interpreter host :=
  { heap := (({} : Heap host).allocate ⟨.counter, ⟨4⟩⟩).1, policy := { stackLimit := 1 } }

/-- One argument fills the stack, and the counter that it makes stays in the heap. -/
theorem failedConstruction_heap_filled :
    Makers.buildFrom (Session.library #[]) Receiver.counter [.counterInt] { memory := {} } =
        (.ok (.closure 0 (.construct .counterInt)), { memory := {}, closures := 1 }) ∧
      Interpreter.call { policy := { stackLimit := 1 } } (Session.library #[]) 0
          (.closure 0 (.construct .counterInt)) [.int 4] { memory := {} } =
        some ((.error (.stackOverflow 2 1), filledInterpreter),
          { memory := { transcript := #[.text "new int"] } }) ∧
      ∃ name ∈ [ConstructorName.counterInt],
        ∃ value : host.Value (ConstructorName.meaning name).receiver,
          filledInterpreter.heap = (({} : Heap host).allocate ⟨_, value⟩).1 ∧
            (Heap.Consistent ({} : Heap host) → filledInterpreter.heap.size = 1) := by
  have made : Makers.buildFrom (Session.library #[]) Receiver.counter [.counterInt]
      { memory := {} } =
        (.ok (.closure 0 (.construct .counterInt)), { memory := {}, closures := 1 }) := rfl
  have failed : Interpreter.call { policy := { stackLimit := 1 } } (Session.library #[]) 0
      (.closure 0 (.construct .counterInt)) [.int 4] { memory := {} } =
        some ((.error (.stackOverflow 2 1), filledInterpreter),
          { memory := { transcript := #[.text "new int"] } }) := rfl
  obtain ⟨kept, lost⟩ := failedConstruction_heap made failed
  refine ⟨made, failed, (lost rfl ?_).2⟩
  -- a refused call would have left the heap empty
  intro refused
  have empty := congrArg Heap.size (kept (.inr refused))
  cases empty

end Sample

end HostCall
