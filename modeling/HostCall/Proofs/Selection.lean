import HostCall.Proofs.Interface
import HostCall.Session.Script
import HostCall.Wrapping
import Mathlib.Data.List.Basic

/-!
# Which leaf of a tree of routers is called

A router takes a candidate whose range admits the number of arguments and, when the
policy asks for it, that accepts their types (`Library.takes`).  The walk of a router
finds the first candidate it takes (`select_of_find?_eq_some`), so calling the router
is calling that candidate.

Routers stand in front of routers.  A `RouterTree` has routers as inner nodes and any
callbacks as leaves, routers among them.  A nested router is asked twice, for the
union of its ranges and for its acceptance, before it chooses once more; when types
are checked, it is taken exactly when it has a candidate to take (`takes_router`).  So
a tree stands for the first of its leaves that is taken (`standsForFirstLeaf`), and
dispatches as one flat router in front of its leaves (`callWith_tree_eq_first_leaf`).
-/

set_option autoImplicit false

namespace HostCall

variable {H : Host}

namespace Library

/-! ## The walk of a router -/

/-- A router on a frame takes the callback, if it comes to it. -/
def takes (library : Library H) (frame : Frame H) (callback : Callback H.toVocabulary) : Bool :=
  (library.arity callback).admits frame.argumentCount &&
    (!frame.policy.checksTypes || library.accepts frame callback)

/-- A router on a frame passes over the callback for the types of the arguments alone. -/
def refuses (library : Library H) (frame : Frame H) (callback : Callback H.toVocabulary) : Bool :=
  (library.arity callback).admits frame.argumentCount &&
    (frame.policy.checksTypes && !library.accepts frame callback)

/-- When types are checked, a router takes what admits the count and accepts the types. -/
theorem takes_of_checksTypes {library : Library H} {frame : Frame H}
    (checked : frame.policy.checksTypes = true) (callback : Callback H.toVocabulary) :
    library.takes frame callback =
      ((library.arity callback).admits frame.argumentCount &&
        library.accepts frame callback) := by
  simp only [takes, checked, Bool.not_true, Bool.false_or]

/-- One step of the walk: a candidate that is taken ends it, any other is passed over, and if it is
refused its place is remembered. -/
theorem scan_cons (library : Library H) (frame : Frame H) (candidate : Callback H.toVocabulary)
    (candidates : List (Callback H.toVocabulary)) (place : Nat) (rejected : List Nat) :
    library.scan frame (candidate :: candidates) place rejected =
      if library.takes frame candidate then .ok place
      else library.scan frame candidates (place + 1)
        (if library.refuses frame candidate then rejected ++ [place] else rejected) := by
  rw [scan, takes, refuses]
  cases (library.arity candidate).admits frame.argumentCount with
  | false => rfl
  | true => cases frame.policy.checksTypes <;> cases library.accepts frame candidate <;> rfl

/-- The walk ends at the first candidate that is taken. -/
theorem scan_of_find?_eq_some {library : Library H} {frame : Frame H}
    {candidates : List (Callback H.toVocabulary)} {candidate : Callback H.toVocabulary}
    (found : candidates.find? (library.takes frame) = some candidate)
    (place : Nat) (rejected : List Nat) :
    ∃ offset, library.scan frame candidates place rejected = .ok (place + offset) ∧
      candidates[offset]? = some candidate := by
  induction candidates generalizing place rejected with
  | nil => simp at found
  | cons first candidates ih =>
      rw [scan_cons]
      cases taken : library.takes frame first with
      | true =>
          rw [List.find?_cons, taken] at found
          exact ⟨0, rfl, found⟩
      | false =>
          rw [List.find?_cons, taken] at found
          obtain ⟨offset, chosen, atOffset⟩ := ih found (place + 1) _
          refine ⟨offset + 1, ?_, by simpa using atOffset⟩
          rw [if_neg Bool.false_ne_true, chosen, Nat.add_right_comm, Nat.add_assoc]

/-- The walk over candidates none of which is taken ends with the places of those that are
refused, behind the places that were refused before. -/
theorem scan_of_find?_eq_none {library : Library H} {frame : Frame H}
    {candidates : List (Callback H.toVocabulary)}
    (noneFound : candidates.find? (library.takes frame) = none) (place : Nat)
    (rejected : List Nat) :
    library.scan frame candidates place rejected =
      .error (rejected ++ candidates.findIdxs (library.refuses frame) place) := by
  induction candidates generalizing place rejected with
  | nil => rw [scan, List.findIdxs_nil, List.append_nil]
  | cons first candidates ih =>
      have passed : library.takes frame first = false :=
        Bool.eq_false_iff.mpr (List.find?_eq_none.mp noneFound first List.mem_cons_self)
      have rest : candidates.find? (library.takes frame) = none := by
        rwa [List.find?_cons, passed] at noneFound
      rw [scan_cons, passed, if_neg Bool.false_ne_true, ih rest, List.findIdxs_cons]
      cases library.refuses frame first with
      | false => rfl
      | true =>
          rw [if_pos rfl, if_pos rfl, List.append_assoc]
          rfl

/-- A router chooses the first candidate that it takes. -/
theorem select_of_find?_eq_some {library : Library H} {frame : Frame H}
    {candidates : List (Callback H.toVocabulary)} {candidate : Callback H.toVocabulary}
    (found : candidates.find? (library.takes frame) = some candidate) :
    ∃ place, library.select frame candidates = .ok place ∧
      candidates[place]? = some candidate := by
  obtain ⟨place, chosen, atPlace⟩ := scan_of_find?_eq_some found 0 []
  refine ⟨place, ?_, atPlace⟩
  rw [select, chosen, Nat.zero_add]
  rfl

/-- Without a match a router reports the number of arguments, the range of every candidate, and
the places of those that were refused. -/
theorem select_of_find?_eq_none_report {library : Library H} {frame : Frame H}
    {candidates : List (Callback H.toVocabulary)}
    (noneFound : candidates.find? (library.takes frame) = none) :
    library.select frame candidates = .error ⟨frame.argumentCount, candidates.map library.arity,
      candidates.findIdxs (library.refuses frame)⟩ := by
  rw [select, scan_of_find?_eq_none noneFound 0 [], List.nil_append]
  rfl

/-- A router that takes no candidate says how many arguments it was tried with. -/
theorem select_of_find?_eq_none {library : Library H} {frame : Frame H}
    {candidates : List (Callback H.toVocabulary)}
    (noneFound : candidates.find? (library.takes frame) = none) :
    ∃ mismatch, library.select frame candidates = .error mismatch ∧
      mismatch.attempted = frame.argumentCount :=
  ⟨_, select_of_find?_eq_none_report noneFound, rfl⟩

/-- Calling a router is calling the first candidate that it takes. -/
theorem callWith_router_of_find?_eq_some {library : Library H} {scene : Scene H}
    {candidates : List (Callback H.toVocabulary)} {candidate : Callback H.toVocabulary}
    (found : candidates.find? (library.takes scene.frame) = some candidate)
    (invoke : Invoker H) (id : ClosureId) (shape : Shape) (declared : Arity) :
    library.callWith invoke (.router id shape declared candidates) scene =
      library.callWith invoke candidate scene := by
  obtain ⟨place, chosen, atPlace⟩ := select_of_find?_eq_some found
  exact callWith_router_of_select chosen atPlace

/-- Without a match a call of a router fails with that report, before any body runs. -/
theorem failsBeforeBody_router_report {library : Library H} {scene : Scene H}
    {candidates : List (Callback H.toVocabulary)}
    (noneFound : candidates.find? (library.takes scene.frame) = none) (id : ClosureId)
    (shape : Shape) (declared : Arity) :
    library.FailsBeforeBody (.router id shape declared candidates) scene (.noCandidate
      ⟨scene.frame.argumentCount, candidates.map library.arity,
        candidates.findIdxs (library.refuses scene.frame)⟩) :=
  failsBeforeBody_router (select_of_find?_eq_none_report noneFound)

/-- A router that takes no candidate fails before any body runs. -/
theorem failsBeforeBody_of_find?_eq_none {library : Library H} {scene : Scene H}
    {candidates : List (Callback H.toVocabulary)}
    (noneFound : candidates.find? (library.takes scene.frame) = none)
    (id : ClosureId) (shape : Shape) (declared : Arity) :
    ∃ mismatch, mismatch.attempted = scene.frame.argumentCount ∧
      library.FailsBeforeBody (.router id shape declared candidates) scene
        (.noCandidate mismatch) :=
  ⟨_, rfl, failsBeforeBody_router_report noneFound id shape declared⟩

/-- When types are checked, a router is taken where one of its candidates is: its range
covers theirs, and it accepts what it can choose for. -/
theorem takes_router {library : Library H} {frame : Frame H}
    (checked : frame.policy.checksTypes = true) (id : ClosureId) (shape : Shape)
    (candidates : List (Callback H.toVocabulary)) :
    library.takes frame (.router id shape (library.covering candidates) candidates) =
      (candidates.find? (library.takes frame)).isSome := by
  rw [takes_of_checksTypes checked, accepts_router]
  cases found : candidates.find? (library.takes frame) with
  | none =>
      obtain ⟨mismatch, failed, _⟩ := select_of_find?_eq_none found
      rw [failed]
      exact Bool.and_false _
  | some candidate =>
      obtain ⟨place, chosen, _⟩ := select_of_find?_eq_some found
      have taken := List.find?_some found
      rw [takes, Bool.and_eq_true] at taken
      have member := List.mem_map_of_mem (f := library.arity) (List.mem_of_find?_eq_some found)
      have admitted : (library.covering candidates).admits frame.argumentCount = true :=
        Arity.admits_covering member taken.1
      rw [chosen]
      exact Bool.and_eq_true _ _ ▸ ⟨admitted, rfl⟩

end Library

/-! ## Trees of routers -/

/-- Routers in front of routers, down to leaves that may be any callbacks. -/
inductive RouterTree (V : Vocabulary)
  | leaf (callback : Callback V)
  | router (id : ClosureId) (shape : Shape) (branches : List (RouterTree V))

namespace RouterTree

/-- The leaves from left to right. -/
def leaves {V : Vocabulary} : RouterTree V → List (Callback V)
  | leaf callback => [callback]
  | router _ _ branches => branches.flatMap leaves

/-- The callback at the root: each router declares what its branches declare together. -/
def callback (library : Library H) : RouterTree H.toVocabulary → Callback H.toVocabulary
  | leaf callback => callback
  | router id shape branches =>
      .router id shape (library.covering (branches.map (callback library)))
        (branches.map (callback library))

/-- Proof by induction on the tree, with the statement at hand for all branches. -/
theorem inductionOn {V : Vocabulary} {motive : RouterTree V → Prop} (tree : RouterTree V)
    (leaf : ∀ callback, motive (.leaf callback))
    (router : ∀ id shape branches, (∀ branch ∈ branches, motive branch) →
      motive (.router id shape branches)) : motive tree := by
  refine RouterTree.rec (motive_1 := motive)
    (motive_2 := fun branches => ∀ branch ∈ branches, motive branch)
    leaf (fun id shape branches all => router id shape branches all) (by simp)
    (fun head tail first rest => ?_) tree
  intro branch member
  cases member with
  | head => exact first
  | tail _ member => exact rest branch member

/-! ## The first leaf that is taken -/

section FirstLeaf

variable {library : Library H} {scene : Scene H}

/-- At a scene, the tree stands for the first of its leaves that is taken: it is taken
when there is one, and then calling it is calling that leaf. -/
structure StandsForFirstLeaf (library : Library H) (scene : Scene H)
    (tree : RouterTree H.toVocabulary) : Prop where
  found : ∀ leaf, tree.leaves.find? (library.takes scene.frame) = some leaf →
    library.takes scene.frame (tree.callback library) = true ∧
      ∀ invoke : Invoker H, library.callWith invoke (tree.callback library) scene =
        library.callWith invoke leaf scene
  missed : tree.leaves.find? (library.takes scene.frame) = none →
    library.takes scene.frame (tree.callback library) = false

/-- Of some trees, the first one taken holds the first leaf taken. -/
theorem find?_branches_of_some {branches : List (RouterTree H.toVocabulary)}
    {leaf : Callback H.toVocabulary}
    (each : ∀ branch ∈ branches, StandsForFirstLeaf library scene branch)
    (found : (branches.flatMap leaves).find? (library.takes scene.frame) = some leaf) :
    ∃ candidate, (branches.map (callback library)).find? (library.takes scene.frame) =
        some candidate ∧
      ∀ invoke : Invoker H,
        library.callWith invoke candidate scene = library.callWith invoke leaf scene := by
  induction branches with
  | nil => simp at found
  | cons branch branches ih =>
      have first := each branch List.mem_cons_self
      rw [List.flatMap_cons, List.find?_append] at found
      rw [List.map_cons, List.find?_cons]
      cases inBranch : branch.leaves.find? (library.takes scene.frame) with
      | some earlier =>
          rw [inBranch, Option.some_or, Option.some.injEq] at found
          subst found
          obtain ⟨taken, called⟩ := first.found earlier inBranch
          rw [taken]
          exact ⟨_, rfl, called⟩
      | none =>
          rw [inBranch, Option.none_or] at found
          rw [first.missed inBranch]
          exact ih (fun later member => each later (List.mem_cons_of_mem _ member)) found

/-- Of trees without a leaf that is taken, none is taken. -/
theorem find?_branches_of_none {branches : List (RouterTree H.toVocabulary)}
    (each : ∀ branch ∈ branches, StandsForFirstLeaf library scene branch)
    (missed : (branches.flatMap leaves).find? (library.takes scene.frame) = none) :
    (branches.map (callback library)).find? (library.takes scene.frame) = none := by
  induction branches with
  | nil => rfl
  | cons branch branches ih =>
      rw [List.flatMap_cons, List.find?_append, Option.or_eq_none_iff] at missed
      rw [List.map_cons, List.find?_cons,
        (each branch List.mem_cons_self).missed missed.1]
      exact ih (fun later member => each later (List.mem_cons_of_mem _ member)) missed.2

/-- When types are checked, every tree stands for the first of its leaves that is taken. -/
theorem standsForFirstLeaf (checked : scene.frame.policy.checksTypes = true)
    (tree : RouterTree H.toVocabulary) : StandsForFirstLeaf library scene tree := by
  induction tree using RouterTree.inductionOn with
  | leaf callback =>
      constructor
      · intro leaf found
        rw [leaves, List.find?_singleton] at found
        rw [RouterTree.callback]
        split at found
        · rename_i taken
          cases found
          exact ⟨taken, fun _ => rfl⟩
        · cases found
      · intro missed
        rw [leaves, List.find?_singleton] at missed
        rw [RouterTree.callback]
        split at missed
        · cases missed
        · rename_i passed
          exact Bool.eq_false_iff.mpr passed
  | router id shape branches ih =>
      constructor
      · intro leaf found
        rw [leaves] at found
        rw [RouterTree.callback, Library.takes_router checked]
        obtain ⟨candidate, first, called⟩ := find?_branches_of_some ih found
        refine ⟨by rw [first]; rfl, fun invoke => ?_⟩
        rw [Library.callWith_router_of_find?_eq_some first, called]
      · intro missed
        rw [leaves] at missed
        rw [RouterTree.callback, Library.takes_router checked, find?_branches_of_none ih missed]
        rfl

/-- **A tree of routers dispatches as one flat router.**  When types are checked, a call
of its root commits to the first leaf, from left to right, whose own range admits the
number of arguments and that accepts their types: it is the call of that leaf, as with
one router in front of all leaves.  Without such a leaf the tree and the flat router
both fail for want of a candidate, having counted the same arguments, and no body
runs. -/
theorem callWith_tree_eq_first_leaf (library : Library H) (invoke : Invoker H)
    (scene : Scene H) (checked : scene.frame.policy.checksTypes = true)
    (id flatId : ClosureId) (shape flatShape : Shape)
    (branches : List (RouterTree H.toVocabulary)) :
    let tree := RouterTree.router id shape branches
    let root := tree.callback library
    let flat := Callback.router flatId flatShape (library.covering tree.leaves) tree.leaves
    let first := tree.leaves.find? fun leaf =>
      (library.arity leaf).admits scene.frame.argumentCount && library.accepts scene.frame leaf
    match first with
    | some chosen =>
        library.callWith invoke root scene = library.callWith invoke chosen scene ∧
          library.callWith invoke flat scene = library.callWith invoke chosen scene
    | none =>
        ∃ mismatch flatMismatch : Mismatch,
          mismatch.attempted = scene.frame.argumentCount ∧
            flatMismatch.attempted = scene.frame.argumentCount ∧
            library.FailsBeforeBody root scene (.noCandidate mismatch) ∧
            library.FailsBeforeBody flat scene (.noCandidate flatMismatch) := by
  intro tree root flat first
  have stands : StandsForFirstLeaf library scene tree := standsForFirstLeaf checked tree
  have firstTaken : first = tree.leaves.find? (library.takes scene.frame) := by
    simp only [first, funext (Library.takes_of_checksTypes checked)]
  rw [firstTaken]
  cases found : tree.leaves.find? (library.takes scene.frame) with
  | some chosen =>
      exact ⟨(stands.found chosen found).2 invoke,
        Library.callWith_router_of_find?_eq_some found invoke flatId flatShape _⟩
  | none =>
      have candidates : (branches.map (callback library)).find?
          (library.takes scene.frame) = none :=
        find?_branches_of_none (fun branch _ => standsForFirstLeaf checked branch)
          (by simpa only [tree, leaves] using found)
      have atRoot : root = .router id shape
          (library.covering (branches.map (callback library)))
          (branches.map (callback library)) := by
        simp only [root, tree, callback]
      obtain ⟨mismatch, attempted, fails⟩ :=
        Library.failsBeforeBody_of_find?_eq_none candidates id shape
          (library.covering (branches.map (callback library)))
      obtain ⟨flatMismatch, flatAttempted, flatFails⟩ :=
        Library.failsBeforeBody_of_find?_eq_none found flatId flatShape
          (library.covering tree.leaves)
      exact ⟨mismatch, flatMismatch, attempted, flatAttempted, atRoot ▸ fails, flatFails⟩

end FirstLeaf

end RouterTree

namespace Sample

open RouterTree

/-- A tagging function, and behind a router two more. -/
def nestedTags : List (RouterTree vocabulary) :=
  [.leaf (.closure 0 (.function (.tag .text 1))),
    .router 3 .property
      [.leaf (.closure 1 (.function (.tag .twoInts 2))),
        .leaf (.closure 2 (.function (.tag .int 3)))]]

/-- A call with one integer, under a policy made without choices. -/
def integerScene : Scene host := ⟨.enter #[.int 5] 0 {} {}, { memory := {} }⟩

/-- With one integer the call goes through two routers to the function that takes one. -/
theorem callWith_nestedTags :
    integerScene.frame.policy.checksTypes = true ∧
      (Session.library #[]).callWith (fun _ _ => none)
          ((router 4 .overloaded nestedTags).callback (Session.library #[])) integerScene =
        (Session.library #[]).callWith (fun _ _ => none)
          (.closure 2 (.function (.tag .int 3))) integerScene := by
  have checked : integerScene.frame.policy.checksTypes = true := rfl
  have dispatched := callWith_tree_eq_first_leaf (Session.library #[]) (fun _ _ => none)
    integerScene checked 4 5 .overloaded .overloaded nestedTags
  have first : (router 4 .overloaded nestedTags).leaves.find? (fun leaf =>
      ((Session.library #[]).arity leaf).admits integerScene.frame.argumentCount &&
        (Session.library #[]).accepts integerScene.frame leaf) =
      some (.closure 2 (.function (.tag .int 3))) := by
    simp only [nestedTags, leaves, List.flatMap_cons, List.flatMap_nil]
    rfl
  simp only [first] at dispatched
  exact ⟨checked, dispatched.1⟩

end Sample

end HostCall
