import HostCall.Bundle
import HostCall.Proofs.FirstMatch
import HostCall.Session.Script

/-!
# Which half of a property is called

A property in front of two accessors is a router of two candidates, first the one that reads and
then the one that writes.  It does not count the arguments itself.  It calls the half that is
taken first, and what is taken follows from the ranges that the halves declare.

So one argument reads and two write where the range of the reading half admits no other number
than one, and that of the writing half no other than two (`property_routes_by_range`).  A field is
a callable that takes one argument or two.  As the reading half it takes two as well, and the
writing half behind it is never called (`field_shadows_write`).
-/

set_option autoImplicit false

namespace HostCall

variable {H : Host}

/-- What a router takes has a range that admits the number of arguments. -/
theorem Library.admits_of_takes {library : Library H} {frame : Frame H}
    {callback : Callback H.toVocabulary} (taken : library.takes frame callback = true) :
    (library.arity callback).admits frame.argumentCount = true := by
  rw [takes, Bool.and_eq_true] at taken
  exact taken.1

namespace Accessors

/-- **A property calls the half whose range comes first.**  The property of two accessors is
built.  A call of it is the call of the reading half if that is taken, its range admitting the
number of arguments and, where types are checked, its test accepting them; else of the writing
half if that is taken, whatever bodies there are; else it fails before any body runs, and the
mismatch holds the number, both ranges, and the places of the halves that were refused for the
types.  So if the range of the reading half admits the number of arguments only where that is one,
and the range of the writing half only where it is two, then the number decides: one argument
reads or fails so, two write or fail so, and any other number fails so. -/
theorem property_routes_by_range (library : Library H) (scene : Scene H)
    (read write : Callback H.toVocabulary) (world : World H) :
    let count := scene.frame.argumentCount
    ∃ property, (Accessors.build library ⟨some read, some write⟩ world).1 = .ok property ∧
      let calls half := ∀ other : Library H, library.SameInterface other → ∀ invoke : Invoker H,
        other.callWith invoke property scene = other.callWith invoke half scene
      let fails := library.FailsBeforeBody property scene (.noCandidate
        ⟨count, [library.arity read, library.arity write],
          [read, write].findIdxs (library.refuses scene.frame)⟩)
      (if library.takes scene.frame read then calls read
        else if library.takes scene.frame write then calls write
        else fails) ∧
      (((library.arity read).admits count = true → count = 1) →
        ((library.arity write).admits count = true → count = 2) →
        match count with
        | 1 => calls read ∨ fails
        | 2 => calls write ∨ fails
        | _ => fails) := by
  intro count
  refine ⟨_, rfl, ?_⟩
  intro calls fails
  have routed : if library.takes scene.frame read then calls read
      else if library.takes scene.frame write then calls write
      else fails := by
    split
    · rename_i reads
      exact fun other same invoke =>
        same.callWith_router (List.find?_cons_of_pos reads) invoke _ _ _
    · rename_i passed
      have found := List.find?_cons_of_neg (l := [write]) passed
      rw [List.find?_singleton] at found
      split
      · rename_i writes
        rw [if_pos writes] at found
        exact fun other same invoke => same.callWith_router found invoke _ _ _
      · rename_i refused
        rw [if_neg refused] at found
        exact Library.failsBeforeBody_router_report found _ _ _
  refine ⟨routed, fun readsOne writesTwo => ?_⟩
  -- which half can be taken follows from the number alone
  split at routed
  · rename_i reads
    rw [readsOne (Library.admits_of_takes reads)]
    exact .inl routed
  · split at routed
    · rename_i writes
      rw [writesTwo (Library.admits_of_takes writes)]
      exact .inl routed
    · clear_value fails calls count
      split
      · exact .inr routed
      · exact .inr routed
      · exact routed

/-- A field as the reading half takes two arguments too: where their types are accepted, or not
checked, the property writes the field, and the writing half is not called, whatever it is. -/
theorem field_shadows_write (library : Library H) (scene : Scene H) (id : ClosureId)
    (name : H.Field) (write : Callback H.toVocabulary) (world : World H)
    (two : scene.frame.argumentCount = 2)
    (accepted : scene.frame.policy.checksTypes = false ∨
      library.accepts scene.frame (.closure id (.field name)) = true) :
    ∃ property,
      (Accessors.build library ⟨some (.closure id (.field name)), some write⟩ world).1 =
        .ok property ∧
      ∀ other : Library H, library.SameInterface other → ∀ invoke : Invoker H,
        other.callWith invoke property scene =
          other.callWith invoke (.closure id (.field name)) scene := by
  have taken : library.takes scene.frame (.closure id (.field name)) = true := by
    rw [Library.takes, two, Bool.and_eq_true, Bool.or_eq_true, Bool.not_eq_true']
    exact ⟨rfl, accepted⟩
  exact ⟨_, rfl, fun other same invoke =>
    same.callWith_router (List.find?_cons_of_pos taken) invoke _ _ _⟩

end Accessors

namespace Sample

/-- A call with a counter at five and the number seven. -/
def counterAndNumber : Scene host :=
  ⟨.enter #[.native ⟨.counter, ⟨5⟩⟩, .int 7] 0 {} {}, { memory := {} }⟩

/-- The property of the method that gets the count and the one that adds to it: with two
arguments the number decides, and the call adds. -/
theorem counterProperty_adds :
    (((Session.library #[]).arity (.closure 0 (.method .counterGet))).admits 2 = true → 2 = 1) ∧
      (((Session.library #[]).arity (.closure 1 (.method .counterAdd))).admits 2 = true → 2 = 2) ∧
      ∃ property, (Accessors.build (Session.library #[]) ⟨some (.closure 0 (.method .counterGet)),
          some (.closure 1 (.method .counterAdd))⟩ counterAndNumber.world).1 = .ok property ∧
        (Session.library #[]).callWith (fun _ _ => none) property counterAndNumber =
          (Session.library #[]).callWith (fun _ _ => none) (.closure 1 (.method .counterAdd))
            counterAndNumber := by
  have getsOne : ((Session.library #[]).arity (.closure 0 (.method .counterGet))).admits 2 =
      true → 2 = 1 := by decide
  obtain ⟨property, built, -, byNumber⟩ := Accessors.property_routes_by_range
    (Session.library #[]) counterAndNumber (.closure 0 (.method .counterGet))
    (.closure 1 (.method .counterAdd)) counterAndNumber.world
  refine ⟨getsOne, fun _ => rfl, property, built, ?_⟩
  rcases byNumber getsOne (fun _ => rfl) with adds | fails
  · exact adds _ (.refl _) _
  · cases built
    cases congrArg (Option.map Prod.fst) (fails.callWith_eq fun _ _ => none)

/-- With the field in the place of the method that gets, the same call sets the count to seven,
and nothing is added. -/
theorem fieldProperty_sets :
    ∃ property, (Accessors.build (Session.library #[]) ⟨some (.closure 0 (.field .counterCount)),
        some (.closure 1 (.method .counterAdd))⟩ counterAndNumber.world).1 = .ok property ∧
      ((Session.library #[]).callWith (fun _ _ => none) property counterAndNumber).map
          (fun (result, after) => (result, after.frame.stack)) =
        some (.ok 0, #[.native ⟨.counter, ⟨7⟩⟩, .int 7]) ∧
      ((Session.library #[]).callWith (fun _ _ => none) (.closure 1 (.method .counterAdd))
          counterAndNumber).map (fun (result, after) => (result, after.frame.stack)) =
        some (.ok 1, #[.native ⟨.counter, ⟨12⟩⟩, .int 7, .int 12]) := by
  obtain ⟨property, built, sets⟩ := Accessors.field_shadows_write (Session.library #[])
    counterAndNumber 0 .counterCount (.closure 1 (.method .counterAdd)) counterAndNumber.world rfl
    (.inr rfl)
  refine ⟨property, built, ?_, rfl⟩
  rw [sets _ (.refl _)]
  rfl

end Sample

end HostCall
