import HostCall.Proofs.GlobalSlots
import HostCall.Proofs.SharedCells

/-!
# Calls through aliases

A callback is called in many ways: the host program holds copies of it, it is stored under
names, and it stands behind routers, one in front of another.  On a given frame a call leads down
to one callback in the end (`Library.LeadsTo`), and what it comes to is what the call of that
callback comes to.

The same holds of calls one after another (`Interpreter.callAll_eq_of_originals`).  Each of them may
take a way of its own, and where a way leads may depend on what the calls before it have done.
-/

set_option autoImplicit false

namespace HostCall

variable {H : Host}

namespace Library

variable {library : Library H} {original asked : Callback H.toVocabulary}

/-- On a frame the alias leads to the original: it is the original, or a router that takes a
candidate which leads there. -/
inductive LeadsTo (library : Library H) (frame : Frame H) (original : Callback H.toVocabulary) :
    Callback H.toVocabulary → Prop
  | itself : LeadsTo library frame original original
  | router {candidates : List (Callback H.toVocabulary)} {place : Nat}
      {candidate : Callback H.toVocabulary}
      (chosen : library.select frame candidates = .ok place)
      (found : candidates[place]? = some candidate)
      (leads : LeadsTo library frame original candidate) (id : ClosureId) (shape : Shape)
      (declared : Arity) :
      LeadsTo library frame original (.router id shape declared candidates)

theorem LeadsTo.callWith_eq {scene : Scene H} (leads : library.LeadsTo scene.frame original asked)
    (invoke : Invoker H) :
    library.callWith invoke asked scene = library.callWith invoke original scene := by
  induction leads with
  | itself => rfl
  | router chosen found _ id shape declared ih =>
      rw [callWith_router_of_select chosen found]
      exact ih

/-- **A call of an alias comes to what a call of the original comes to.** -/
theorem LeadsTo.call_eq {scene : Scene H} (leads : library.LeadsTo scene.frame original asked)
    (depth : Nat) : library.call depth asked scene = library.call depth original scene := by
  rw [call_eq_callWith_nested, call_eq_callWith_nested]
  exact leads.callWith_eq _

end Library

/-! ## Ways to call -/

/-- A way to find the callback of a call: the host program has a copy of it, or an interpreter
has it under a name. -/
inductive Route (H : Host)
  | held (callback : Callback H.toVocabulary)
  | named (name : String)

namespace Route

/-- A call by a route. -/
def call (library : Library H) (depth : Nat) (route : Route H) (arguments : List (Slot H))
    (interpreter : Interpreter H) (world : World H) :
    Option ((Except CallError (List (Slot H)) × Interpreter H) × World H) :=
  match route with
  | held callback => interpreter.call library depth callback arguments world
  | named name => interpreter.callGlobal library depth name arguments world

/-- The callback that a route finds in an interpreter. -/
def callback? (interpreter : Interpreter H) : Route H → Option (Callback H.toVocabulary)
  | held callback => some callback
  | named name => (interpreter.callable name).toOption

/-- With these arguments the route leads to the original. -/
def LeadsTo (library : Library H) (interpreter : Interpreter H) (arguments : List (Slot H))
    (original : Callback H.toVocabulary) (route : Route H) : Prop :=
  ∃ asked, route.callback? interpreter = some asked ∧
    library.LeadsTo (interpreter.entry arguments) original asked

variable {library : Library H} {interpreter : Interpreter H} {route : Route H}
  {callback : Callback H.toVocabulary}

/-- A call by a route is a call of the callback that it finds. -/
theorem call_of_callback (found : route.callback? interpreter = some callback) (depth : Nat)
    (arguments : List (Slot H)) (world : World H) :
    route.call library depth arguments interpreter world =
      interpreter.call library depth callback arguments world := by
  cases route with
  | held other =>
      cases found
      rfl
  | named name =>
      rw [callback?] at found
      rw [call, Interpreter.callGlobal]
      cases stored : interpreter.callable name with
      | error error =>
          rw [stored] at found
          cases found
      | ok other =>
          rw [stored] at found
          cases found
          rfl

/-- A name under which there is no callback fails the call. -/
theorem call_of_none (missing : route.callback? interpreter = none) (depth : Nat)
    (arguments : List (Slot H)) (world : World H) :
    ∃ error, route.call library depth arguments interpreter world =
      some ((.error error, interpreter), world) := by
  cases route with
  | held other => cases missing
  | named name =>
      rw [callback?] at missing
      rw [call, Interpreter.callGlobal]
      cases stored : interpreter.callable name with
      | error error => exact ⟨error, rfl⟩
      | ok other =>
          rw [stored] at missing
          cases missing

/-- A call by a route finds nothing and changes nothing, or is a call of what it finds. -/
theorem call_cases {depth : Nat} {arguments : List (Slot H)} {after : Interpreter H}
    {world reached : World H} {outcome : Except CallError (List (Slot H))}
    (called : route.call library depth arguments interpreter world =
      some ((outcome, after), reached)) :
    after = interpreter ∧ reached = world ∨
      ∃ callback, route.callback? interpreter = some callback ∧
        interpreter.call library depth callback arguments world =
          some ((outcome, after), reached) := by
  cases found : route.callback? interpreter with
  | none =>
      obtain ⟨error, failed⟩ := call_of_none found depth arguments world
      cases failed.symm.trans called
      exact .inl ⟨rfl, rfl⟩
  | some callback =>
      rw [call_of_callback found] at called
      exact .inr ⟨callback, rfl, called⟩

/-- A call by a route is a call of the callback that the route leads to. -/
theorem LeadsTo.call_eq {arguments : List (Slot H)} {original : Callback H.toVocabulary}
    (leads : route.LeadsTo library interpreter arguments original) (depth : Nat)
    (world : World H) :
    route.call library depth arguments interpreter world =
      interpreter.call library depth original arguments world := by
  obtain ⟨asked, found, leads⟩ := leads
  have same : library.LeadsTo
      (⟨interpreter.entry arguments, world⟩ : Scene H).frame original asked := leads
  rw [call_of_callback found]
  exact Interpreter.call_congr (same.call_eq depth)

end Route

/-! ## Calls one after another -/

namespace Interpreter

variable {library : Library H} {depth : Nat}

/-- Calls one after another: what each of them comes to, and what they leave. -/
def callAll (library : Library H) (depth : Nat) :
    List (Route H × List (Slot H)) → Interpreter H → World H →
      Option (List (Except CallError (List (Slot H))) × Interpreter H × World H)
  | [], interpreter, world => some ([], interpreter, world)
  | (route, arguments) :: later, interpreter, world =>
      match route.call library depth arguments interpreter world with
      | none => none
      | some ((outcome, interpreter), world) =>
          (callAll library depth later interpreter world).map
            fun (outcomes, left) => (outcome :: outcomes, left)

/-- When its turn comes, each call leads to its original. -/
def AllLeadTo (library : Library H) (depth : Nat) :
    List ((Route H × List (Slot H)) × Callback H.toVocabulary) → Interpreter H → World H → Prop
  | [], _, _ => True
  | ((route, arguments), original) :: later, interpreter, world =>
      route.LeadsTo library interpreter arguments original ∧
        ∀ outcome after reached, route.call library depth arguments interpreter world =
            some ((outcome, after), reached) →
          AllLeadTo library depth later after reached

/-- **Calls through aliases come to what the calls of the originals come to**, one after another,
and leave the same interpreter and the same world. -/
theorem callAll_eq_of_originals
    (calls : List ((Route H × List (Slot H)) × Callback H.toVocabulary))
    (interpreter : Interpreter H) (world : World H)
    (lead : AllLeadTo library depth calls interpreter world) :
    callAll library depth (calls.map Prod.fst) interpreter world =
      callAll library depth
        (calls.map fun ((_, arguments), original) => (.held original, arguments))
        interpreter world := by
  induction calls generalizing interpreter world with
  | nil => rfl
  | cons first later ih =>
      obtain ⟨⟨route, arguments⟩, original⟩ := first
      obtain ⟨leads, rest⟩ := lead
      have straight : route.call library depth arguments interpreter world =
          (Route.held original).call library depth arguments interpreter world :=
        leads.call_eq depth world
      rw [List.map_cons, List.map_cons, callAll, callAll, ← straight]
      cases called : route.call library depth arguments interpreter world with
      | none => rfl
      | some ended =>
          obtain ⟨⟨outcome, after⟩, reached⟩ := ended
          simp only [ih after reached (rest outcome after reached called)]

end Interpreter

end HostCall
