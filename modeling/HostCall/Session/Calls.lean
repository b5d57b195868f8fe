import HostCall.Call
import HostCall.Session.Look

/-!
# Calls and registrations in a session

A call makes its arguments first, then a named cell may be held, and only then the
callback is built and called.  A frame can also be made by hand, and acts done on it
one after another, whatever comes of each.
-/

set_option autoImplicit false

namespace HostCall.Session

open Sample

/-! ## Calls -/

/-- A call: its arguments, the cell that is held while it runs, and the name that its
results are stored under. -/
structure CallSpec where
  arguments : List SlotSpec
  hold : Option (String × Access) := none
  results : Option String := none

/-- How deep the calls that callables make may nest. -/
def nesting : Nat := 100000

/-- The outcome of a call with the state of the interpreter after it. -/
def callReport (session : Session) (outcome : Report) : Report :=
  outcome.extend
    [("live", .natural session.interpreter.heap.size),
      ("depth", .natural session.interpreter.stack.size)]

/-- The session after a call, and what came of the call. -/
def finishCall (session : Session) (results : Option String)
    (done : Option ((Except CallError (List (Slot host)) × Interpreter host) × World host)) :
    Report × Session :=
  match done with
  | none => (.failure "Unfinished" "calls nest too deep", session)
  | some ((outcome, interpreter), world) =>
      let session := { session with interpreter, world }
      let stored := match outcome, results with
        | .ok slots, some name =>
            { session with slots := session.slots.set name slots.toArray }
        | _, _ => session
      (.outcome Report.callFailure session.showSlots outcome, stored)

/-- A step while a named cell is held. -/
def holding {α : Type} (hold : Option (String × Access)) (step : Session → α × Session)
    (session : Session) : α × Session :=
  let held : Option (CellId × World host) := do
    let (name, access) ← hold
    let cell ← session.storedCell name
    let world ← session.world.lock? cell access
    return (cell, world)
  match held with
  | none => step session
  | some (cell, world) =>
      let (outcome, session) := step { session with world }
      (outcome, { session with world := session.world.unlock cell })

/-- The step that calls a callback. -/
def callStep (spec : Spec) (call : CallSpec) (session : Session) : Report × Session :=
  match (makeSlots call.arguments).run session with
  | (.error error, session) => (.registrationFailure error, session)
  | (.ok arguments, session) =>
      holding call.hold (fun session =>
        match (makeCallback spec).run session with
        | (.error error, session) => (.registrationFailure error, session)
        | (.ok callback, session) =>
            session.finishCall call.results
              (session.interpreter.call session.meanings nesting callback arguments
                session.world)) session

/-- The step that calls the callback in a global slot. -/
def callGlobalStep (name : String) (call : CallSpec) (session : Session) : Report × Session :=
  match (makeSlots call.arguments).run session with
  | (.error error, session) => (.registrationFailure error, session)
  | (.ok arguments, session) =>
      holding call.hold (fun session =>
        session.finishCall call.results
          (session.interpreter.callGlobal session.meanings nesting name arguments
            session.world)) session

/-- Acts done on a scene one after another, whatever comes of each. -/
def performOn (library : Library host) : List Act → Scene host → List Report × Scene host
  | [], scene => ([], scene)
  | act :: acts, scene =>
      match (perform act).run.run (FrameOperation.run library (library.call nesting)) scene with
      | none => ([.failure "Unfinished" "calls nest too deep"], scene)
      | some (outcome, scene) =>
          let (reports, scene) := performOn library acts scene
          (.outcome Report.callFailure id outcome :: reports, scene)

/-- The step that does acts on a frame of its own. -/
def frameStep (slots : List (Slot host)) (base : Nat) (acts : List Act) (session : Session) :
    Report × Session :=
  let frame := Frame.enter slots.toArray base session.interpreter.heap session.interpreter.policy
  let (reports, scene) := performOn session.meanings acts ⟨frame, session.world⟩
  let session :=
    { session with interpreter.heap := scene.frame.heap, world := scene.world }
  (success (.parts
    [("acts", .list reports), ("slots", session.showSlots scene.frame.stack.toList)]), session)

/-! ## Registration -/

/-- How a registration is made. -/
inductive RegistrationWay
  | own
  | set
  | install
deriving DecidableEq, Repr

/-- A registration under a name: the session keeps the interpreter that it leaves. -/
def registerAs (name : String) (registration : Registration host) : Making Unit := do
  let session ← get
  let (outcome, interpreter) ←
    inWorld (session.interpreter.register session.meanings name registration)
  modify ({ · with interpreter })
  MonadExcept.ofExcept outcome

/-- A callback is registered in one of three ways. -/
def registerStep (name : String) (spec : Spec) (way : RegistrationWay) : Making Unit := do
  let own ← registration spec
  match way with
  | .own => registerAs name own
  | .set => do
      let item ← installable own
      registerAs name (.set item)
  | .install => do
      let callback ← built own
      registerAs name (.install callback)

/-- The record form of what a spec stands for. -/
def debugText (spec : Spec) : Making String := do
  match spec with
  | .field field none => return field.meaning.debug spelling
  | spec => do
      let own ← registration spec
      let session ← get
      let written (callback : Callback vocabulary) : String := (session.inspect callback).debug
      match own with
      | .overloads bundle => return bundle.debug written
      | .property pair => return pair.debug written
      | .deferred content => return content.debug
      | other => do
          let callback ← built other
          return ((← get).inspect callback).debug

/-- The description of an unbound callable. -/
def describeReport : Spec → Making Report
  | .function function => do
      let name ← functionName function
      return .parts (descriptionReport name.meaning.description)
  | .method method _ =>
      let meaning := method.meaning
      return .parts (descriptionReport meaning.description ++
        [("mutable", .truth (meaning.access == .exclusive))])
  | .field field _ => return .parts (descriptionReport field.meaning.description)
  | _ => return .nothing

end HostCall.Session
