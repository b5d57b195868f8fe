import HostCall.Proofs.Selection

/-!
# The first match, and what is reported without one

A router asks two things of a candidate: that its range admits the number of arguments and, when
the policy has types checked, that it accepts them.  A candidate that fails the first is passed
over in silence.  One that fails the second is refused (`Library.refuses`), and the walk remembers
its place.

So the walk ends at the least place of a candidate that is taken, or with the places of all that
were refused, in ascending order (`scan_of_find?_eq_none`).  The choice rests on what the
candidates declare.  Bodies have no part in it, and candidates behind the first match have none
either (`router_calls_firstMatch`).
-/

set_option autoImplicit false

namespace HostCall

variable {H : Host}

namespace Library

/-- Only what is declared decides what is taken. -/
theorem SameInterface.takes_eq {left right : Library H} (same : SameInterface left right)
    (frame : Frame H) : left.takes frame = right.takes frame := by
  funext callback
  rw [takes, takes, same.arity_eq, same.accepts_eq]

/-- The choice is the same under every library with the same declarations, so whatever bodies
there are, a call of the router is the call of the first candidate that is taken. -/
theorem SameInterface.callWith_router {library other : Library H}
    (same : SameInterface library other) {scene : Scene H}
    {candidates : List (Callback H.toVocabulary)} {chosen : Callback H.toVocabulary}
    (found : candidates.find? (library.takes scene.frame) = some chosen) (invoke : Invoker H)
    (id : ClosureId) (shape : Shape) (declared : Arity) :
    other.callWith invoke (.router id shape declared candidates) scene =
      other.callWith invoke chosen scene := by
  rw [same.takes_eq] at found
  exact callWith_router_of_find?_eq_some found invoke id shape declared

/-- Routers that come to the same match make the same call. -/
theorem callWith_router_congr {library : Library H} {scene : Scene H}
    {candidates others : List (Callback H.toVocabulary)} {chosen : Callback H.toVocabulary}
    (found : candidates.find? (library.takes scene.frame) = some chosen)
    (alsoFound : others.find? (library.takes scene.frame) = some chosen) (invoke : Invoker H)
    (id otherId : ClosureId) (shape otherShape : Shape) (declared otherDeclared : Arity) :
    library.callWith invoke (.router otherId otherShape otherDeclared others) scene =
      library.callWith invoke (.router id shape declared candidates) scene :=
  (callWith_router_of_find?_eq_some alsoFound invoke otherId otherShape otherDeclared).trans
    (callWith_router_of_find?_eq_some found invoke id shape declared).symm

/-- Where only one element passes a test, the order of the elements does not matter to which is
found. -/
theorem find?_eq_of_perm_of_countP_eq_one {α : Type} {test : α → Bool} {first second : List α}
    (permuted : first.Perm second) (one : first.countP test = 1) :
    second.find? test = first.find? test := by
  have kept : (first.filter test).length = 1 := by rw [← List.countP_eq_length_filter, one]
  obtain ⟨only, alone⟩ := List.length_eq_one_iff.mp kept
  have alike : second.filter test = [only] := by
    have moved := (permuted.filter test).symm
    rw [alone] at moved
    exact List.perm_singleton.mp moved
  rw [← List.head?_filter, ← List.head?_filter, alone, alike]

/-- **The first match wins, and the report without one is exact.**  Let `place` be the least place
of a candidate that admits the number of arguments and, where types are checked, accepts them.
Then the call of the router is the call of that candidate, whatever bodies there are behind the
names.  If there is no such place, the call fails before any body runs, and the mismatch holds the
number of arguments, the ranges of all candidates in order, and in ascending order the places of
those that admit the number and do not accept the types.  So more candidates behind a match change
nothing, and neither does another order where there is one candidate to match. -/
theorem router_calls_firstMatch (library : Library H) (scene : Scene H)
    (candidates : List (Callback H.toVocabulary)) (id : ClosureId) (shape : Shape)
    (declared : Arity) :
    let count := scene.frame.argumentCount
    let checked := scene.frame.policy.checksTypes
    let router := Callback.router id shape declared candidates
    let eligible candidate := (library.arity candidate).admits count &&
      (!checked || library.accepts scene.frame candidate)
    let refused candidate := (library.arity candidate).admits count &&
      (checked && !library.accepts scene.frame candidate)
    (match candidates.findIdx? eligible with
      | some place => ∃ chosen, candidates[place]? = some chosen ∧
          ∀ other : Library H, library.SameInterface other → ∀ invoke : Invoker H,
            other.callWith invoke router scene = other.callWith invoke chosen scene
      | none => library.FailsBeforeBody router scene (.noCandidate
          ⟨count, candidates.map library.arity, candidates.findIdxs refused⟩)) ∧
      (∀ more, candidates.any eligible = true →
        ∀ (invoke : Invoker H) (newId : ClosureId) (newShape : Shape) (newDeclared : Arity),
          library.callWith invoke (.router newId newShape newDeclared (candidates ++ more)) scene =
            library.callWith invoke router scene) ∧
      (∀ permuted, candidates.Perm permuted → candidates.countP eligible = 1 →
        ∀ (invoke : Invoker H) (newId : ClosureId) (newShape : Shape) (newDeclared : Arity),
          library.callWith invoke (.router newId newShape newDeclared permuted) scene =
            library.callWith invoke router scene) := by
  intro count checked router eligible refused
  have eligible_eq : eligible = library.takes scene.frame := rfl
  refine ⟨?_, ?_, ?_⟩
  · cases least : candidates.findIdx? eligible with
    | some place =>
        obtain ⟨inside, taken, _⟩ := List.findIdx?_eq_some_iff_getElem.mp least
        have found : candidates.find? eligible = some candidates[place] := by
          rw [List.find?_eq_bind_findIdx?_getElem?, least, Option.bind_some,
            List.getElem?_eq_getElem inside]
        refine ⟨candidates[place], List.getElem?_eq_getElem inside, fun other same invoke => ?_⟩
        exact same.callWith_router found invoke id shape declared
    | none =>
        have noneFound : candidates.find? (library.takes scene.frame) = none := by
          rw [← eligible_eq, List.find?_eq_bind_findIdx?_getElem?, least]
          rfl
        exact failsBeforeBody_router_report noneFound id shape declared
  · intro more matched invoke newId newShape newDeclared
    obtain ⟨chosen, found⟩ := Option.isSome_iff_exists.mp
      (List.find?_isSome.mpr (List.any_eq_true.mp matched))
    refine callWith_router_congr found ?_ invoke _ _ _ _ _ _
    rw [List.find?_append, ← eligible_eq, found, Option.some_or]
  · intro permuted moved one invoke newId newShape newDeclared
    have matched : 0 < candidates.countP eligible := by omega
    obtain ⟨chosen, found⟩ := Option.isSome_iff_exists.mp
      (List.find?_isSome.mpr (List.countP_pos_iff.mp matched))
    refine callWith_router_congr found ?_ invoke _ _ _ _ _ _
    rw [← eligible_eq, find?_eq_of_perm_of_countP_eq_one moved one, found]

end Library

namespace Sample

/-- A function of a number and one of a text. -/
def numberOrText : List (Callback vocabulary) :=
  [.closure 0 (.function (.tag .int 1)), .closure 1 (.function (.tag .text 2))]

/-- A call with a text. -/
def textScene : Scene host := ⟨.enter #[.text "a"] 0 {} {}, { memory := {} }⟩

/-- Given a text, a router of the two calls the second, also with a function behind it that takes
anything, and also the other way round. -/
theorem callWith_numberOrText :
    let eligible candidate := ((Session.library #[]).arity candidate).admits 1 &&
      (!true || (Session.library #[]).accepts textScene.frame candidate)
    numberOrText.any eligible = true ∧ numberOrText.countP eligible = 1 ∧
      ∀ candidates ∈ [numberOrText, numberOrText ++ [.closure 2 (.function (.tag .slot 3))],
          numberOrText.reverse],
        (Session.library #[]).callWith (fun _ _ => none)
            (.router 3 .overloaded .variadic candidates) textScene =
          (Session.library #[]).callWith (fun _ _ => none)
            (.closure 1 (.function (.tag .text 2))) textScene := by
  intro eligible
  obtain ⟨calls, appended, permuted⟩ := Library.router_calls_firstMatch (Session.library #[])
    textScene numberOrText 3 .overloaded .variadic
  obtain ⟨chosen, atPlace, called⟩ := calls
  cases atPlace
  have matched : numberOrText.any eligible = true := rfl
  have one : numberOrText.countP eligible = 1 := rfl
  refine ⟨matched, one, ?_⟩
  simp only [List.forall_mem_cons]
  refine ⟨called _ (.refl _) _, ?_, ?_, by simp⟩
  · exact (appended _ matched _ _ _ _).trans (called _ (.refl _) _)
  · exact (permuted _ (List.reverse_perm _).symm one _ _ _ _).trans (called _ (.refl _) _)

end Sample

end HostCall
