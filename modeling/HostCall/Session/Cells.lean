import HostCall.Session.Look

/-!
# Shared cells and the object heap in a session

A named cell is owned by the session alone, so dropping the name drops the cell, and
sharing another object under the name drops the old cell first.  A bound counter can
be used while it is in use already, to show which uses exclude each other.
-/

set_option autoImplicit false

namespace HostCall.Session

open Sample

/-! ## Shared cells -/

/-- What is done to a bound receiver. -/
inductive ReceiverUse
  | live
  | read
  | add (number : Int64)
  | readInRead
  | addInRead
  | readInAdd
  | addInAdd
  | drop (cell : String)

/-- The session without a named cell, and whether there was one. -/
def dropCell (name : String) (session : Session) : Bool × Session :=
  match session.storedCell name with
  | none => (false, session)
  | some cell =>
      (true, { session with
        cells := session.cells.erase name, world := session.world.discard cell })

/-- The session with a new named cell, in the place of the one that was there. -/
def shareCell (name : String) (object : Object host) (session : Session) : Session :=
  let (_, session) := session.dropCell name
  let (world, cell) := session.world.newCell object
  { session with cells := session.cells.set name cell, world }

/-- A use of a bound counter that reads it. -/
def readCounter {α : Type} (receiver : FixedReceiver) (body : Int64 → Session → α × Session)
    (session : Session) : Except CallError α × Session :=
  match session.world.acquire receiver .counter .shared with
  | .error error => (.error error, session)
  | .ok (loan, world) =>
      let (found, session) := body loan.value.count { session with world }
      (.ok found, { session with world := session.world.release loan })

/-- A use of a bound counter that adds to it before anything else is done. -/
def addToCounter {α : Type} (receiver : FixedReceiver) (number : Int64)
    (body : Int64 → Session → α × Session) (session : Session) :
    Except CallError α × Session :=
  match session.world.acquire receiver .counter .exclusive with
  | .error error => (.error error, session)
  | .ok (loan, world) =>
      let count := loan.value.count + number
      let (found, session) := body count { session with world }
      (.ok found, { session with world := session.world.releaseWith loan ⟨count⟩ })

/-- A count, inside a use of a counter. -/
def countReport (count : Int64) (session : Session) : Report × Session :=
  (.number count.toInt, session)

/-- An outcome of a use of a counter. -/
def useOutcome (used : Except CallError Report × Session) : Report × Session :=
  (.outcome Report.callFailure id used.1, used.2)

/-- One use of a bound counter. -/
def useReceiver (receiver : FixedReceiver) (use : ReceiverUse) (session : Session) :
    Report × Session :=
  match use with
  | .live => (.truth (session.world.isLive receiver), session)
  | .read => useOutcome (readCounter receiver countReport session)
  | .add number => useOutcome (addToCounter receiver number countReport session)
  | .readInRead =>
      useOutcome (readCounter receiver (fun outer session =>
        useOutcome (readCounter receiver (fun inner => countReport (outer + inner)) session))
        session)
  | .addInRead =>
      useOutcome (readCounter receiver (fun _ session =>
        useOutcome (addToCounter receiver 1 countReport session)) session)
  | .readInAdd =>
      useOutcome (addToCounter receiver 10 (fun _ session =>
        useOutcome (readCounter receiver countReport session)) session)
  | .addInAdd =>
      useOutcome (addToCounter receiver 100 (fun _ session =>
        useOutcome (addToCounter receiver 1 countReport session)) session)
  | .drop cell =>
      let (existed, session) := session.dropCell cell
      (.truth existed, session)

/-- Uses of a bound counter, one after another. -/
def useAll (receiver : FixedReceiver) : List ReceiverUse → Session → List Report × Session
  | [], session => ([], session)
  | use :: uses, session =>
      let (report, session) := useReceiver receiver use session
      let (reports, session) := useAll receiver uses session
      (report :: reports, session)

/-! ## The object heap -/

/-- The handle that begins a named list of slots. -/
def storedHandle (session : Session) (name : String) : Option (Handle vocabulary) :=
  match session.storedSlot name 0 with
  | .object handle => some handle
  | _ => none

/-- The step that looks at an object of the heap, and may overwrite it. -/
def heapStep (handle : Handle vocabulary) (type : Receiver) (value : Option (Object host))
    (session : Session) : Report × Session :=
  let heap := session.interpreter.heap
  let shown (content : Option (host.Value type)) : Report :=
    .optional (fun value => session.showObject ⟨type, value⟩) content
  let (written, after) := match value with
    | none => (Report.nothing, heap)
    | some object =>
        match object.as? type with
        | none => (.nothing, heap)
        | some value =>
            match heap.set handle type value with
            | .error error => (Report.callFailure error, heap)
            | .ok heap => (.text "written", heap)
  (.parts
    [("contains", .truth (heap.contains handle)),
      ("is", .truth (handle.receiver == type)),
      ("get", shown (heap.get? handle type)),
      ("try_get", .outcome Report.callFailure
        (fun value => session.showObject ⟨type, value⟩) (heap.get handle type)),
      ("write", written),
      ("get_mut", shown ((after.getMut? handle type).map (·.value))),
      ("len", .natural after.size),
      ("empty", .truth after.isEmpty),
      ("debug", .text after.debug)],
    { session with interpreter.heap := after })

end HostCall.Session
