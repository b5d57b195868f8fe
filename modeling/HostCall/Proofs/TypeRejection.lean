import HostCall.Proofs.CountRouting
import HostCall.Proofs.Filter

/-!
# Which candidates a mismatch blames for their types

A router that finds no candidate to take reports those whose range admits the number of arguments
as rejected for the types.  Of a single callable that is the truth: it takes the number and does
not accept the types.  Of a nested router it need not be.  Its range covers the ranges of its
candidates, so it may admit a number between two of them that no callable in it takes.  Such a
hollow router is reported as well, although the types of the arguments were never looked at.

`RouterTree.rejected_iff` says which candidates are reported, at every depth of routers: those
that hold a callable whose own range admits the number, none of which accepts the types, and the
hollow ones.  So the report is true where no candidate is hollow at the number.
-/

set_option autoImplicit false

namespace HostCall

variable {H : Host}

namespace Library

variable {library : Library H} {scene : Scene H}

/-- A candidate that is not taken, though its range admits the number of arguments, is refused. -/
theorem refuses_of_not_takes (checked : scene.frame.policy.checksTypes = true)
    {callback : Callback H.toVocabulary}
    (passed : library.takes scene.frame callback = false) :
    library.refuses scene.frame callback =
      (library.arity callback).admits scene.frame.argumentCount := by
  rw [takes_of_checksTypes checked] at passed
  rw [refuses, checked, Bool.true_and]
  cases admitted : (library.arity callback).admits scene.frame.argumentCount with
  | false => rfl
  | true =>
      rw [admitted, Bool.true_and] at passed
      rw [passed]
      rfl

/-- A wrapped router that fails for want of a candidate fails by its own choice: it takes none of
its candidates, and the report and the scene are those of that choice. -/
theorem Wrapped.report_of_noCandidate {id : ClosureId} {shape : Shape} {declared : Arity}
    {candidates : List (Callback H.toVocabulary)} {invoke : Invoker H} {mismatch : Mismatch}
    {after : Scene H} (wrapped : library.Wrapped (.router id shape declared candidates))
    (checked : scene.frame.policy.checksTypes = true)
    (failed : library.callWith invoke (.router id shape declared candidates) scene =
      some (.error (.noCandidate mismatch), after)) :
    candidates.find? (library.takes scene.frame) = none ∧
      mismatch = ⟨scene.frame.argumentCount, candidates.map library.arity,
        candidates.findIdxs (library.refuses scene.frame)⟩ ∧
      after = scene := by
  cases wrapped with
  | router _ _ each =>
      cases found : candidates.find? (library.takes scene.frame) with
      | some candidate =>
          -- what it takes never fails for want of a candidate
          rw [callWith_router_of_find?_eq_some found] at failed
          have later := (each candidate (List.mem_of_find?_eq_some found)).comesLater_of_takes
            checked (List.find?_some found) failed
          cases later
      | none =>
          have report := failsBeforeBody_router_report found id shape
            (library.covering candidates)
          rw [report.callWith_eq] at failed
          cases failed
          exact ⟨rfl, rfl, rfl⟩

end Library

namespace RouterTree

section Report

variable {library : Library H} {scene : Scene H}

/-- A tree over wrapped callables is wrapped. -/
theorem wrapped_callback {tree : RouterTree H.toVocabulary}
    (each : ∀ leaf ∈ tree.leaves, library.Wrapped leaf) :
    library.Wrapped (tree.callback library) := by
  induction tree using RouterTree.inductionOn with
  | leaf callback =>
      rw [RouterTree.callback]
      refine each callback ?_
      rw [leaves]
      exact List.mem_singleton_self callback
  | router id shape branches ih =>
      rw [RouterTree.callback]
      refine .router id shape fun candidate member => ?_
      obtain ⟨branch, isBranch, rfl⟩ := List.mem_map.mp member
      refine ih branch isBranch fun leaf inside => each leaf ?_
      rw [leaves]
      exact List.mem_flatMap.mpr ⟨branch, isBranch, inside⟩

/-- A tree admits a number when one of its leaves does, or when it is hollow there. -/
theorem admits_callback_iff (count : Nat) (tree : RouterTree H.toVocabulary) :
    (library.arity (tree.callback library)).admits count = true ↔
      (∃ leaf ∈ tree.leaves, (library.arity leaf).admits count = true) ∨
        hollow library count tree = true := by
  rw [hollow, Bool.and_eq_true, Bool.not_eq_true', List.any_eq_false]
  constructor
  · intro admitted
    by_cases some : ∃ leaf ∈ tree.leaves, (library.arity leaf).admits count = true
    · exact .inl some
    · exact .inr ⟨admitted, fun leaf member admits => some ⟨leaf, member, admits⟩⟩
  · rintro (⟨leaf, member, admits⟩ | ⟨admitted, _⟩)
    · exact (admits_iff_stops tree).mpr ⟨.leaf leaf, leaf_mem_nodes.mpr member, admits⟩
    · exact admitted

/-- A tree that is not taken has no leaf that is. -/
theorem not_takes_leaf (checked : scene.frame.policy.checksTypes = true)
    {tree : RouterTree H.toVocabulary}
    (passed : library.takes scene.frame (tree.callback library) = false)
    {leaf : Callback H.toVocabulary} (member : leaf ∈ tree.leaves) :
    library.takes scene.frame leaf = false := by
  cases found : tree.leaves.find? (library.takes scene.frame) with
  | none => exact Bool.eq_false_iff.mpr (List.find?_eq_none.mp found leaf member)
  | some first =>
      have taken := ((standsForFirstLeaf checked tree).found first found).1
      rw [passed] at taken
      cases taken

/-- **What a mismatch says of the types.**  Let types be checked, and let a call of a router over
wrapped callables, behind routers of any depth, fail for want of a candidate.  Then nothing has
happened, and the mismatch counts the arguments and lists the ranges of all candidates.  It names
as rejected for the types exactly the candidates that hold a callable whose own range admits the
number of arguments, and the hollow ones, whose range admits the number while that of none of
their callables does.  No callable of a candidate takes the number and accepts the types. -/
theorem rejected_iff (library : Library H) (scene : Scene H)
    (checked : scene.frame.policy.checksTypes = true) (id : ClosureId) (shape : Shape)
    (branches : List (RouterTree H.toVocabulary))
    (callables : ∀ leaf ∈ (router id shape branches).leaves, ∃ own block,
      leaf = Callback.closure own block ∧ block.isWrapped = true)
    (invoke : Invoker H) (mismatch : Mismatch) (after : Scene H)
    (failed : library.callWith invoke ((router id shape branches).callback library) scene =
      some (.error (.noCandidate mismatch), after)) :
    let count := scene.frame.argumentCount
    after = scene ∧ mismatch.attempted = count ∧
      mismatch.candidates = branches.map (fun branch => library.arity (branch.callback library)) ∧
      mismatch.rejected.Pairwise (· < ·) ∧
      (∀ index ∈ mismatch.rejected, index < branches.length) ∧
      ∀ index branch, branches[index]? = some branch →
        (index ∈ mismatch.rejected ↔
          (∃ leaf ∈ branch.leaves, (library.arity leaf).admits count = true) ∨
            hollow library count branch = true) ∧
        ∀ leaf ∈ branch.leaves, (library.arity leaf).admits count = true →
          library.accepts scene.frame leaf = false := by
  intro count
  have wrapped : library.Wrapped ((router id shape branches).callback library) := by
    refine wrapped_callback fun leaf member => ?_
    obtain ⟨own, block, rfl, isWrapped⟩ := callables leaf member
    exact .closure own isWrapped
  rw [RouterTree.callback] at wrapped failed
  obtain ⟨noneTaken, rfl, same⟩ := wrapped.report_of_noCandidate checked failed
  have passed : ∀ branch ∈ branches,
      library.takes scene.frame (branch.callback library) = false := by
    intro branch member
    exact Bool.eq_false_iff.mpr
      (List.find?_eq_none.mp noneTaken _ (List.mem_map_of_mem member))
  refine ⟨same, rfl, ?_, List.pairwise_findIdxs, ?_, ?_⟩
  · rw [List.map_map]
    rfl
  · intro index listed
    obtain ⟨inside, _⟩ := List.mem_findIdxs_iff_exists_getElem_pos.mp listed
    rwa [List.length_map] at inside
  · intro index branch atIndex
    have member := List.mem_of_getElem? atIndex
    constructor
    · rw [← admits_callback_iff, ← Library.refuses_of_not_takes checked (passed branch member),
        List.mem_findIdxs_iff_exists_getElem_pos]
      obtain ⟨inside, rfl⟩ := List.getElem?_eq_some_iff.mp atIndex
      simp only [List.getElem_map, List.length_map, inside, exists_true_left]
    · intro leaf isLeaf admits
      have notTaken := not_takes_leaf checked (passed branch member) isLeaf
      rwa [Library.takes_of_checksTypes checked, admits, Bool.true_and] at notTaken

end Report

end RouterTree

namespace Sample

open RouterTree

/-- A router over a function of no arguments and one of two. -/
def hollowPair : RouterTree vocabulary :=
  .router 3 .overloaded
    [.leaf (.closure 0 (.function (.tag .none 1))),
      .leaf (.closure 1 (.function (.tag .twoInts 2)))]

/-- The router and beside it a function that takes a text. -/
def pairOrText : List (RouterTree vocabulary) :=
  [hollowPair, .leaf (.closure 2 (.function (.tag .text 3)))]

theorem leaves_pairOrText : (router 4 .overloaded pairOrText).leaves =
    [.closure 0 (.function (.tag .none 1)), .closure 1 (.function (.tag .twoInts 2)),
      .closure 2 (.function (.tag .text 3))] := by
  simp only [pairOrText, hollowPair, leaves, List.flatMap_cons, List.flatMap_nil]
  rfl

/-- Given one integer, the mismatch names both candidates as rejected for the types.  Of the
second this is true, a function of one argument that does not accept an integer.  The first is
hollow: no function in it takes one argument. -/
theorem pairOrText_rejected :
    integerScene.frame.policy.checksTypes = true ∧
      (∀ leaf ∈ (router 4 .overloaded pairOrText).leaves, ∃ own block,
        leaf = Callback.closure own block ∧ block.isWrapped = true) ∧
      ∃ mismatch : Mismatch,
        (Session.library #[]).callWith (fun _ _ => none)
            ((router 4 .overloaded pairOrText).callback (Session.library #[])) integerScene =
          some (.error (.noCandidate mismatch), integerScene) ∧
        (0 ∈ mismatch.rejected ∧ hollow (Session.library #[]) 1 hollowPair = true) ∧
        1 ∈ mismatch.rejected ∧ (Session.library #[]).accepts integerScene.frame
          (.closure 2 (.function (.tag .text 3))) = false := by
  have checked : integerScene.frame.policy.checksTypes = true := rfl
  have callables : ∀ leaf ∈ (router 4 .overloaded pairOrText).leaves, ∃ own block,
      leaf = Callback.closure own block ∧ block.isWrapped = true := by
    rw [leaves_pairOrText]
    simp only [List.forall_mem_cons]
    exact ⟨⟨0, _, rfl, rfl⟩, ⟨1, _, rfl, rfl⟩, ⟨2, _, rfl, rfl⟩, List.forall_mem_nil _⟩
  have failed : (Session.library #[]).callWith (fun _ _ => none)
      ((router 4 .overloaded pairOrText).callback (Session.library #[])) integerScene =
      some (.error (.noCandidate ⟨1, [.range 0 2, .exact 1], [0, 1]⟩), integerScene) := by
    simp only [pairOrText, hollowPair, RouterTree.callback, List.map_cons, List.map_nil]
    rfl
  have isHollow : hollow (Session.library #[]) 1 hollowPair = true := by
    simp only [hollow, hollowPair, leaves, RouterTree.callback, List.map_cons, List.map_nil,
      List.flatMap_cons, List.flatMap_nil]
    rfl
  have isLeaf (callback : Callback vocabulary) : callback ∈ (leaf callback).leaves := by
    rw [leaves]
    exact List.mem_singleton_self callback
  obtain ⟨_, _, _, _, _, said⟩ := rejected_iff (Session.library #[]) integerScene checked 4
    .overloaded pairOrText callables _ _ _ failed
  exact ⟨checked, callables, _, failed, ⟨(said 0 _ rfl).1.mpr (.inr isHollow), isHollow⟩,
    (said 1 _ rfl).1.mpr (.inl ⟨_, isLeaf _, rfl⟩), (said 1 _ rfl).2 _ (isLeaf _) rfl⟩

end Sample

end HostCall
