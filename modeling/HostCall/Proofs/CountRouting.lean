import HostCall.Proofs.FirstMatch

/-!
# Trees of routers without type checks

When types are not checked, a router takes a candidate for its range alone.  The range of a nested
router covers the ranges of its candidates, and so it may admit a number that none of them admits,
one between two of their ranges.  Such a router is hollow at that number (`RouterTree.hollow`).  A
router in front that comes to it commits to it, and it has no candidate to choose.

So a call with a number of arguments ends at the first node, in reading order, that is a leaf
whose own range admits the number or a hollow router (`RouterTree.stops`).  A leaf is called, and
a hollow router fails (`callWith_tree_by_count`), even where a leaf behind it would have admitted
the number (`hollowTags_fail`).
-/

set_option autoImplicit false

namespace HostCall

variable {H : Host}

namespace Library

/-- When types are not checked, a router takes what admits the number of arguments. -/
theorem takes_of_not_checksTypes {library : Library H} {frame : Frame H}
    (unchecked : frame.policy.checksTypes = false) (callback : Callback H.toVocabulary) :
    library.takes frame callback = (library.arity callback).admits frame.argumentCount := by
  rw [takes, unchecked, Bool.not_false, Bool.true_or, Bool.and_true]

end Library

namespace RouterTree

/-! ## Reading order -/

/-- The nodes in reading order: a router comes before its branches, and these from left to
right. -/
def nodes {V : Vocabulary} : RouterTree V → List (RouterTree V)
  | leaf callback => [leaf callback]
  | router id shape branches => router id shape branches :: branches.flatMap nodes

/-- The callback of a node that is a leaf. -/
def leaf? {V : Vocabulary} : RouterTree V → Option (Callback V)
  | leaf callback => some callback
  | router _ _ _ => none

/-- The leaves stand among the nodes in the same order. -/
theorem filterMap_leaf?_nodes {V : Vocabulary} (tree : RouterTree V) :
    tree.nodes.filterMap leaf? = tree.leaves := by
  induction tree using RouterTree.inductionOn with
  | leaf callback => rw [nodes, leaves]; rfl
  | router id shape branches ih =>
      rw [nodes, leaves, List.filterMap_cons, leaf?, List.filterMap_flatMap]
      exact List.flatMap_congr ih

theorem leaf_mem_nodes {V : Vocabulary} {tree : RouterTree V} {callback : Callback V} :
    leaf callback ∈ tree.nodes ↔ callback ∈ tree.leaves := by
  rw [← filterMap_leaf?_nodes, List.mem_filterMap]
  constructor
  · exact fun member => ⟨_, member, rfl⟩
  · rintro ⟨node, member, isLeaf⟩
    cases node with
    | leaf other =>
        cases isLeaf
        exact member
    | router id shape branches => cases isLeaf

/-! ## Where a call ends -/

section Stops

variable (library : Library H) (count : Nat)

/-- The router declares a range that admits the number, and no leaf of it does. -/
def hollow (tree : RouterTree H.toVocabulary) : Bool :=
  (library.arity (tree.callback library)).admits count &&
    !tree.leaves.any fun leaf => (library.arity leaf).admits count

/-- The walk goes no further than this node: it is a leaf that admits the number, or a hollow
router. -/
def stops : RouterTree H.toVocabulary → Bool
  | leaf callback => (library.arity callback).admits count
  | router id shape branches => hollow library count (router id shape branches)

variable {library count}

/-- A tree admits a number exactly when the walk has a node to stop at. -/
theorem admits_iff_stops (tree : RouterTree H.toVocabulary) :
    (library.arity (tree.callback library)).admits count = true ↔
      ∃ node ∈ tree.nodes, stops library count node = true := by
  induction tree using RouterTree.inductionOn with
  | leaf callback => simp [RouterTree.callback, nodes, stops]
  | router id shape branches ih =>
      constructor
      · intro admitted
        cases inside : hollow library count (router id shape branches) with
        | true =>
            refine ⟨router id shape branches, ?_, inside⟩
            rw [nodes]
            exact List.mem_cons_self
        | false =>
            -- a router that is not hollow has a leaf that admits the number
            rw [hollow, admitted, Bool.true_and, Bool.not_eq_false', List.any_eq_true] at inside
            obtain ⟨callback, member, admits⟩ := inside
            exact ⟨leaf callback, leaf_mem_nodes.mpr member, admits⟩
      · rintro ⟨node, member, stopped⟩
        rw [nodes, List.mem_cons, List.mem_flatMap] at member
        rcases member with rfl | ⟨branch, isBranch, below⟩
        · rw [stops, hollow, Bool.and_eq_true] at stopped
          exact stopped.1
        · have admitted := (ih branch isBranch).mpr ⟨node, below, stopped⟩
          rw [RouterTree.callback]
          exact Arity.admits_covering
            (List.mem_map_of_mem (List.mem_map_of_mem isBranch)) admitted

/-- The first stop, if it is a leaf, is the first leaf that admits the number. -/
theorem find?_leaves_of_firstStop {tree : RouterTree H.toVocabulary}
    {chosen : Callback H.toVocabulary}
    (first : tree.nodes.find? (stops library count) = some (leaf chosen)) :
    tree.leaves.find? (fun leaf => (library.arity leaf).admits count) = some chosen := by
  obtain ⟨admitted, before, after, split, passed⟩ := List.find?_eq_some_iff_append.mp first
  rw [← filterMap_leaf?_nodes, split, List.filterMap_append, List.find?_append]
  have noneBefore : (before.filterMap leaf?).find?
      (fun leaf => (library.arity leaf).admits count) = none := by
    rw [List.find?_eq_none]
    intro callback member
    obtain ⟨node, inFront, isLeaf⟩ := List.mem_filterMap.mp member
    cases node with
    | leaf other =>
        cases isLeaf
        simpa [stops] using passed _ inFront
    | router id shape branches => cases isLeaf
  rw [noneBefore, Option.none_or, List.filterMap_cons, leaf?]
  exact List.find?_cons_of_pos admitted

/-- Without a stop no leaf admits the number. -/
theorem find?_leaves_of_noStop {tree : RouterTree H.toVocabulary}
    (none : tree.nodes.find? (stops library count) = none) :
    tree.leaves.find? (fun leaf => (library.arity leaf).admits count) = Option.none := by
  rw [List.find?_eq_none] at none ⊢
  intro callback member
  exact none (leaf callback) (leaf_mem_nodes.mpr member)

end Stops

/-! ## What a call comes to -/

section Call

variable {library : Library H} {scene : Scene H}

/-- What a call comes to that ends at the node: the call of a leaf, and at a router the failure
for want of a candidate, before any body runs. -/
def EndsAt (library : Library H) (scene : Scene H) (callback : Callback H.toVocabulary) :
    RouterTree H.toVocabulary → Prop
  | leaf chosen => ∀ other : Library H, library.SameInterface other → ∀ invoke : Invoker H,
      other.callWith invoke callback scene = other.callWith invoke chosen scene
  | router _ _ _ => ∃ mismatch : Mismatch, mismatch.attempted = scene.frame.argumentCount ∧
      library.FailsBeforeBody callback scene (.noCandidate mismatch)

/-- Calls that are alike under every library with the same declarations end at the same node. -/
theorem EndsAt.of_alike {callback other : Callback H.toVocabulary}
    {node : RouterTree H.toVocabulary} (ends : EndsAt library scene callback node)
    (alike : ∀ others : Library H, library.SameInterface others → ∀ invoke : Invoker H,
      others.callWith invoke other scene = others.callWith invoke callback scene) :
    EndsAt library scene other node := by
  cases node with
  | leaf chosen =>
      exact fun others same invoke => (alike others same invoke).trans (ends others same invoke)
  | router id shape branches =>
      obtain ⟨mismatch, attempted, fails⟩ := ends
      exact ⟨mismatch, attempted, fun others same invoke =>
        (alike others same invoke).trans (fails others same invoke)⟩

variable (unchecked : scene.frame.policy.checksTypes = false)

include unchecked

/-- A router takes the callback of a tree that holds a stop, and of no other. -/
theorem takes_callback (tree : RouterTree H.toVocabulary) :
    library.takes scene.frame (tree.callback library) =
      (tree.nodes.find? (stops library scene.frame.argumentCount)).isSome := by
  rw [Library.takes_of_not_checksTypes unchecked, Bool.eq_iff_iff, admits_iff_stops,
    List.find?_isSome]

variable (library) in
/-- Of some trees, the first that is taken holds the first stop. -/
theorem find?_branches_by_count (branches : List (RouterTree H.toVocabulary)) :
    match (branches.flatMap nodes).find? (stops library scene.frame.argumentCount) with
    | some node => ∃ branch ∈ branches,
        branch.nodes.find? (stops library scene.frame.argumentCount) = some node ∧
          (branches.map (callback library)).find? (library.takes scene.frame) =
            some (branch.callback library)
    | none => (branches.map (callback library)).find? (library.takes scene.frame) = none := by
  induction branches with
  | nil => rfl
  | cons branch branches ih =>
      rw [List.flatMap_cons, List.find?_append, List.map_cons, List.find?_cons,
        takes_callback unchecked]
      cases inBranch : branch.nodes.find? (stops library scene.frame.argumentCount) with
      | some node => exact ⟨branch, List.mem_cons_self, inBranch, rfl⟩
      | none =>
          rw [Option.none_or]
          split at ih
          · obtain ⟨later, member, first, taken⟩ := ih
            exact ⟨later, List.mem_cons_of_mem _ member, first, taken⟩
          · exact ih

/-- A call of a router ends where the call of its first branch with a stop does. -/
theorem endsAt_router {branches : List (RouterTree H.toVocabulary)}
    {node : RouterTree H.toVocabulary} (id : ClosureId) (shape : Shape)
    (each : ∀ branch ∈ branches,
      branch.nodes.find? (stops library scene.frame.argumentCount) = some node →
        EndsAt library scene (branch.callback library) node)
    (first : (branches.flatMap nodes).find? (stops library scene.frame.argumentCount) =
      some node) :
    EndsAt library scene ((router id shape branches).callback library) node := by
  have chosen := find?_branches_by_count library unchecked branches
  rw [first] at chosen
  obtain ⟨branch, member, inBranch, taken⟩ := chosen
  refine (each branch member inBranch).of_alike fun other same invoke => ?_
  rw [RouterTree.callback]
  exact same.callWith_router taken invoke id shape _

/-- A router none of whose branches holds a stop has no candidate to choose. -/
theorem failsBeforeBody_router_by_count {branches : List (RouterTree H.toVocabulary)}
    (id : ClosureId) (shape : Shape)
    (noStop : (branches.flatMap nodes).find? (stops library scene.frame.argumentCount) = none) :
    ∃ mismatch : Mismatch, mismatch.attempted = scene.frame.argumentCount ∧
      library.FailsBeforeBody ((router id shape branches).callback library) scene
        (.noCandidate mismatch) := by
  have noneTaken := find?_branches_by_count library unchecked branches
  rw [noStop] at noneTaken
  rw [RouterTree.callback]
  exact Library.failsBeforeBody_of_find?_eq_none noneTaken id shape _

/-- A call of a tree ends at its first stop. -/
theorem endsAt_firstStop (tree : RouterTree H.toVocabulary) {node : RouterTree H.toVocabulary}
    (first : tree.nodes.find? (stops library scene.frame.argumentCount) = some node) :
    EndsAt library scene (tree.callback library) node := by
  induction tree using RouterTree.inductionOn generalizing node with
  | leaf callback =>
      rw [nodes] at first
      obtain rfl := List.mem_singleton.mp (List.mem_of_find?_eq_some first)
      rw [RouterTree.callback]
      exact fun _ _ _ => rfl
  | router id shape branches ih =>
      have stopped := List.find?_some first
      rw [nodes, List.find?_cons] at first
      cases atRoot : stops library scene.frame.argumentCount (router id shape branches) with
      | false =>
          rw [atRoot] at first
          exact endsAt_router unchecked id shape (fun branch member => ih branch member) first
      | true =>
          rw [atRoot, Option.some.injEq] at first
          subst first
          -- the root is hollow, so whatever its branches come to is not a leaf that admits
          cases below : (branches.flatMap nodes).find?
              (stops library scene.frame.argumentCount) with
          | none => exact failsBeforeBody_router_by_count unchecked id shape below
          | some node =>
              have ends := endsAt_router unchecked id shape (fun branch member => ih branch member)
                below
              cases node with
              | router _ _ _ => exact ends
              | leaf chosen =>
                  have admitted := List.find?_some below
                  have member : chosen ∈ (router id shape branches).leaves := by
                    rw [← leaf_mem_nodes, nodes]
                    exact List.mem_cons_of_mem _ (List.mem_of_find?_eq_some below)
                  rw [stops, hollow, Bool.and_eq_true, Bool.not_eq_true', List.any_eq_false]
                    at stopped
                  exact absurd admitted (stopped.2 chosen member)

end Call

/-- **Without type checks a tree of routers dispatches on ranges alone.**  A call of its root goes
through the nodes in reading order and ends at the first that is a leaf whose own range admits the
number of arguments, or a hollow router, one whose range admits the number while the range of none
of its leaves does.  If it is a leaf, it is the first of all leaves whose range admits the number,
and the call is the call of that leaf, whatever bodies there are.  If it is a hollow router, or if
there is no such node, and so no leaf that admits the number, the call fails for want of a
candidate and no body runs. -/
theorem callWith_tree_by_count (library : Library H) (scene : Scene H)
    (unchecked : scene.frame.policy.checksTypes = false) (id : ClosureId) (shape : Shape)
    (branches : List (RouterTree H.toVocabulary)) :
    let count := scene.frame.argumentCount
    let tree := RouterTree.router id shape branches
    let root := tree.callback library
    let firstLeaf := tree.leaves.find? fun leaf => (library.arity leaf).admits count
    let fails := ∃ mismatch : Mismatch, mismatch.attempted = count ∧
      library.FailsBeforeBody root scene (.noCandidate mismatch)
    match tree.nodes.find? (stops library count) with
    | some (.leaf chosen) => firstLeaf = some chosen ∧
        ∀ other : Library H, library.SameInterface other → ∀ invoke : Invoker H,
          other.callWith invoke root scene = other.callWith invoke chosen scene
    | some (.router _ _ _) => fails
    | none => firstLeaf = none ∧ fails := by
  intro count tree root firstLeaf fails
  cases first : tree.nodes.find? (stops library count) with
  | some node =>
      have ends := endsAt_firstStop unchecked tree first
      cases node with
      | leaf chosen => exact ⟨find?_leaves_of_firstStop first, ends⟩
      | router _ _ _ => exact ends
  | none =>
      have below : (branches.flatMap nodes).find? (stops library count) = none := by
        rw [List.find?_eq_none] at first ⊢
        intro node member
        refine first node ?_
        rw [nodes]
        exact List.mem_cons_of_mem _ member
      exact ⟨find?_leaves_of_noStop first, failsBeforeBody_router_by_count unchecked id shape below⟩

end RouterTree

namespace Sample

open RouterTree

/-- A function of one argument, behind a router whose functions take none and two. -/
def hollowTags : List (RouterTree vocabulary) :=
  [.router 3 .overloaded
      [.leaf (.closure 0 (.function (.tag .none 1))),
        .leaf (.closure 1 (.function (.tag .twoInts 2)))],
    .leaf (.closure 2 (.function (.tag .int 3)))]

/-- A call under a policy without type checks. -/
def uncheckedScene (arguments : Array (Slot host)) : Scene host :=
  ⟨.enter arguments 0 {} { checksTypes := false }, { memory := {} }⟩

/-- With two integers the call goes through two routers to the function that takes two. -/
theorem callWith_hollowTags_two :
    (uncheckedScene #[.int 5, .int 6]).frame.policy.checksTypes = false ∧
      (Session.library #[]).callWith (fun _ _ => none)
          ((router 4 .overloaded hollowTags).callback (Session.library #[]))
          (uncheckedScene #[.int 5, .int 6]) =
        (Session.library #[]).callWith (fun _ _ => none)
          (.closure 1 (.function (.tag .twoInts 2))) (uncheckedScene #[.int 5, .int 6]) := by
  have unchecked : (uncheckedScene #[.int 5, .int 6]).frame.policy.checksTypes = false := rfl
  have dispatched := callWith_tree_by_count (Session.library #[])
    (uncheckedScene #[.int 5, .int 6]) unchecked 4 .overloaded hollowTags
  have first : (router 4 .overloaded hollowTags).nodes.find?
      (stops (Session.library #[]) (uncheckedScene #[.int 5, .int 6]).frame.argumentCount) =
      some (.leaf (.closure 1 (.function (.tag .twoInts 2)))) := by
    simp only [hollowTags, nodes, List.flatMap_cons, List.flatMap_nil, List.find?_cons,
      List.cons_append, List.nil_append, stops, hollow, leaves, RouterTree.callback, List.map_cons,
      List.map_nil]
    rfl
  simp only [first] at dispatched
  exact ⟨unchecked, dispatched.2 _ (.refl _) _⟩

/-- With one integer the call of the same tree fails for want of a candidate, although the range
of its last leaf admits one argument and a call of that leaf succeeds. -/
theorem hollowTags_fail :
    (uncheckedScene #[.int 5]).frame.policy.checksTypes = false ∧
      (router 4 .overloaded hollowTags).leaves.find? (fun leaf =>
          ((Session.library #[]).arity leaf).admits
            (uncheckedScene #[.int 5]).frame.argumentCount) =
        some (.closure 2 (.function (.tag .int 3))) ∧
      ((Session.library #[]).callWith (fun _ _ => none)
          (.closure 2 (.function (.tag .int 3))) (uncheckedScene #[.int 5])).map (·.1) =
        some (.ok 1) ∧
      (Session.library #[]).callWith (fun _ _ => none)
          ((router 4 .overloaded hollowTags).callback (Session.library #[]))
          (uncheckedScene #[.int 5]) =
        some (.error (.noCandidate ⟨1, [.exact 0, .exact 2], []⟩), uncheckedScene #[.int 5]) := by
  refine ⟨rfl, ?_, ?_, ?_⟩
  · simp only [hollowTags, leaves, List.flatMap_cons, List.flatMap_nil]
    rfl
  · rfl
  · simp only [hollowTags, RouterTree.callback, List.map_cons, List.map_nil]
    rfl

end Sample

end HostCall
