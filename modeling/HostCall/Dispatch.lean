import HostCall.Library

/-!
# Which candidate takes a call

Before a callback is called it can be asked how many arguments it declares
(`Library.arity`) and whether it takes the types of the arguments on a frame
(`Library.accepts`).  Both look and do nothing: no argument is converted for a
candidate that is passed over, and nothing is pushed.

A router walks its candidates in order and chooses the first whose range admits
the number of arguments and, when the policy asks for it, takes their types
(`Library.select`).  A router declares a range of its own and takes the types of a
frame when it would choose a candidate on it, so a router may itself be a candidate.

The range of a router is the one it was built with.  In a coherent callback
(`Library.Coherent`) it is, for every router in it, the union of the ranges of the
candidates, and then no router hides a candidate that admits the number of
arguments (`Coherent.admits`).
-/

set_option autoImplicit false

namespace HostCall

variable {H : Host}

namespace Library

/-! ## Declared ranges -/

/-- The numbers of arguments that a block declares; an unbound member counts its
receiver as argument 0. -/
def blockArity (library : Library H) : Block H.toVocabulary → Arity
  | .function name => .ofParameters (library.function name).parameters
  | .method name => (Arity.ofParameters (library.method name).parameters).shift 1
  | .boundMethod name _ => .ofParameters (library.method name).parameters
  | .field _ => .range 1 2
  | .boundField _ _ => .range 0 1
  | .construct name => .ofParameters (library.constructor name).parameters
  | .custom _ name => (library.custom name).arity

/-- The numbers of arguments that a callback declares. -/
def arity (library : Library H) : Callback H.toVocabulary → Arity
  | .direct _ => .variadic
  | .closure _ block => library.blockArity block
  | .router _ _ declared _ => declared

/-- The numbers of arguments that candidates declare together. -/
def covering (library : Library H) (candidates : List (Callback H.toVocabulary)) : Arity :=
  .covering (candidates.map library.arity)

/-- Every router in a callback declares what its candidates declare together. -/
inductive Coherent (library : Library H) : Callback H.toVocabulary → Prop
  | direct (name : H.Raw) : Coherent library (.direct name)
  | closure (id : ClosureId) (block : Block H.toVocabulary) :
      Coherent library (.closure id block)
  | router {id : ClosureId} {shape : Shape} {candidates : List (Callback H.toVocabulary)}
      (each : ∀ candidate ∈ candidates, Coherent library candidate) :
      Coherent library (.router id shape (library.covering candidates) candidates)

/-- What a block was made from. -/
def blockOrigin (library : Library H) : Block H.toVocabulary → Option Origin
  | .function name => some (library.function name).form.origin
  | .method _ | .boundMethod _ _ => some .memberFunction
  | .field _ | .boundField _ _ => some .memberVariable
  | .construct name => some (library.constructor name).form.origin
  | .custom label _ => label.origin

/-- What a callback was made from; a router was made from callbacks. -/
def origin (library : Library H) : Callback H.toVocabulary → Option Origin
  | .direct _ => some .functionPointer
  | .closure _ block => library.blockOrigin block
  | .router _ _ _ _ => none

/-- What can be seen of a callback without calling it. -/
def profile (library : Library H) (callback : Callback H.toVocabulary) : Profile where
  shape := callback.shape
  origin := library.origin callback
  binding := callback.binding
  arity := library.arity callback
  upvalues := callback.upvalues

/-! ## Acceptable arguments -/

/-- A block takes the types of the arguments on a frame. -/
def blockAccepts (library : Library H) (frame : Frame H) : Block H.toVocabulary → Bool
  | .function name => Parameters.accepts frame (library.function name).parameters 0
  | .method name =>
      frame.receiverAccepts (library.method name).receiver &&
        Parameters.accepts frame (library.method name).parameters 1
  | .boundMethod name _ => Parameters.accepts frame (library.method name).parameters 0
  | .field name =>
      match frame.argumentCount with
      | 1 => frame.receiverAccepts (library.field name).receiver
      | 2 =>
          frame.receiverAccepts (library.field name).receiver &&
            frame.argumentAccepts (library.field name).type 1
      | _ => false
  | .boundField name _ =>
      match frame.argumentCount with
      | 0 => true
      | 1 => frame.argumentAccepts (library.field name).type 0
      | _ => false
  | .construct name => Parameters.accepts frame (library.constructor name).parameters 0
  | .custom _ name => (library.custom name).accepts frame

mutual
/-- A callback takes the types of the arguments on a frame. -/
def accepts (library : Library H) (frame : Frame H) : Callback H.toVocabulary → Bool
  | .direct _ => true
  | .closure _ block => library.blockAccepts frame block
  | .router _ _ _ candidates => (library.scan frame candidates 0 []).isOk

/-- The walk of a router over its candidates: the place of the first that takes the
arguments, or the places of those that declare their number and do not take their
types. -/
def scan (library : Library H) (frame : Frame H) :
    List (Callback H.toVocabulary) → (place : Nat) → (rejected : List Nat) →
      Except (List Nat) Nat
  | [], _, rejected => .error rejected
  | candidate :: candidates, place, rejected =>
      if (library.arity candidate).admits frame.argumentCount then
        if frame.policy.checksTypes && !library.accepts frame candidate then
          library.scan frame candidates (place + 1) (rejected ++ [place])
        else .ok place
      else library.scan frame candidates (place + 1) rejected
end

/-- The place of the candidate that a router chooses, or why there is none. -/
def select (library : Library H) (frame : Frame H)
    (candidates : List (Callback H.toVocabulary)) : Except Mismatch Nat :=
  (library.scan frame candidates 0 []).mapError fun rejected =>
    ⟨frame.argumentCount, candidates.map library.arity, rejected⟩

/-! ## Small facts -/

/-- A coherent router admits every number of arguments that a candidate admits. -/
theorem Coherent.admits {library : Library H} {id : ClosureId} {shape : Shape}
    {declared : Arity} {candidates : List (Callback H.toVocabulary)}
    (coherent : library.Coherent (.router id shape declared candidates))
    {candidate : Callback H.toVocabulary} (member : candidate ∈ candidates) {count : Nat}
    (admitted : (library.arity candidate).admits count = true) :
    declared.admits count = true := by
  cases coherent
  exact Arity.admits_covering (List.mem_map_of_mem member) admitted

/-- A router takes the types of a frame when it would choose a candidate on it. -/
theorem accepts_router (library : Library H) (frame : Frame H) (id : ClosureId)
    (shape : Shape) (declared : Arity) (candidates : List (Callback H.toVocabulary)) :
    library.accepts frame (.router id shape declared candidates) =
      (library.select frame candidates).isOk := by
  rw [accepts, select]
  cases library.scan frame candidates 0 [] <;> rfl

end Library

end HostCall
