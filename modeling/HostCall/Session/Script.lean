import HostCall.Sample.Constructors
import HostCall.Sample.FrameCallables
import HostCall.Sample.Members
import HostCall.Session.Display

/-!
# Scripts

A script is a callable made of acts that are done on the frame of its call, one
after another.  Each act has an outcome that is noted in the transcript; an act
that fails ends the call, unless it is tried, and then its failure is noted and
the script goes on.  A script reports as many results as it pushed, or the number
that it says, and with that number it ends, whatever follows.

Scripts have no names of their own: the host keeps them in a table, and a callback
holds the place of its script.
-/

set_option autoImplicit false

namespace HostCall.Session

open Sample

/-- One thing that a script does. -/
inductive Act
  | count
  | pushed
  | debug
  | live
  | depthLimit
  | receiverSlot
  | slot (index : Nat)
  | argument (index : Nat) (type : SlotType)
  | accepts (index : Nat) (type : SlotType)
  | check (declared : Arity)
  | receiver (type : Receiver)
  | receiverAccepts (type : Receiver)
  | overwrite (object : Object host)
  | overwriteAndShow (object : Object host)
  | push (slot : Slot host)
  | pushAs (type : SlotType) (slot : Slot host)
  | results (slots : List (Slot host))
  | resultFailure (text : String)
  | allocate (object : Object host)
  | free (index : Nat)
  | invoke (callback : Callback vocabulary)
  | invokeArgument (index : Nat)
  | callbackAccepts (callback : Callback vocabulary)
  | select (candidates : List (Callback vocabulary))
  | fail (error : CallError)
  | finish (count : Nat)
  | attempt (act : Act)

/-! ## Doing an act -/

/-- What can be seen of a callback, asked by a running callable. -/
def inspectOnFrame (callback : Callback vocabulary) : OnFrame Profile :=
  ask (.host (.inspect callback))

/-- A slot, shown by a running callable. -/
def shownSlot (slot : Slot host) : OnFrame Report := slotReport inspectOnFrame slot

/-- A note in the transcript, made by a running callable. -/
def noteOnFrame (entry : Report) : OnFrame Unit := ExceptT.lift (note entry).onFrame

/-- The number of slots pushed on the frame so far. -/
def pushedSoFar : OnFrame Nat := do
  let frame ← ask .look
  return frame.pushed

/-- What an act finds or does. -/
def perform : Act → OnFrame Report
  | .count => return .natural (← ask .look).argumentCount
  | .pushed => return .natural (← pushedSoFar)
  | .debug => return .text (← ask .look).debug
  | .live => do
      let frame ← ask .look
      return .list [.natural frame.heap.size, .truth frame.heap.isEmpty]
  | .depthLimit => return .natural (← ask .look).policy.stackLimit
  | .receiverSlot => do shownSlot (← check (·.receiverSlot))
  | .slot index => do shownSlot (← check (·.rawArgument index))
  | .argument index type => do shownSlot (type.encode (← argument type index))
  | .accepts index type => return .truth ((← ask .look).argumentAccepts type index)
  | .check declared => do
      check (·.checkCount declared)
      return .text "ok"
  | .receiver type => do
      let value ← check (·.receiver type)
      objectReport inspectOnFrame ⟨type, value⟩
  | .receiverAccepts type => return .truth ((← ask .look).receiverAccepts type)
  | .overwrite object => do
      attempt (Program.perform (FrameOperation.setReceiver object))
      return .text "written"
  | .overwriteAndShow object => do
      attempt (Program.perform (FrameOperation.setReceiver object))
      objectReport inspectOnFrame object
  | .push slot => do
      push slot
      return .natural 1
  | .pushAs type slot => do
      let value ← ExceptT.mk (pure ((type.decode slot).mapError .conversion))
      push (type.encode value)
      return .natural 1
  | .results slots => do
      slots.forM push
      return .natural slots.length
  | .resultFailure text => throw (.raised text)
  | .allocate object => do
      let handle ← allocate object
      push (.object handle)
      return .list [.natural 1, handleReport handle]
  | .free index => do
      let handle ← argument .object index
      return .truth (← ask (.free handle))
  | .invoke callback => do
      return .natural (← attempt (Program.perform (FrameOperation.invoke callback)))
  | .invokeArgument index => do
      let callback ← argument .function index
      return .natural (← attempt (Program.perform (FrameOperation.invoke callback)))
  | .callbackAccepts callback => return .truth (← ask (.accepts callback))
  | .select candidates => do
      match ← ask (.select candidates) with
      | .error mismatch => throw (.noCandidate mismatch)
      | .ok place =>
          let profiles ← candidates.mapM inspectOnFrame
          let declared := Arity.covering (profiles.map Profile.arity)
          let router : Callback vocabulary := .router 0 .overloaded declared candidates
          return .parts
            [("index", .natural place),
              ("accepts", .truth (← ask (.accepts router))),
              ("arity", .arity declared)]
  | .fail error => throw error
  | .finish count => return .natural count
  | .attempt act => perform act

/-! ## Running a script -/

/-- The number of results that an act ends its script with, if it does; trying such an
act makes no difference. -/
def Act.finishing? : Act → Option Nat
  | .finish number => some number
  | .attempt act => act.finishing?
  | _ => none

/-- An act that is done and noted.  A failure is noted too if the act is tried, and
else it ends the call. -/
def performNoted : Act → OnFrame Unit
  | .attempt act => do
      let outcome ← ExceptT.lift (perform act)
      noteOnFrame (.outcome .callFailure id outcome)
  | act => do
      let found ← perform act
      noteOnFrame (.one "ok" found)

/-- The acts of a script from one on, and the number of results that it reports. -/
def performAll (start : Nat) : List Act → OnFrame Nat
  | [] => return (← pushedSoFar) - start
  | act :: acts =>
      match act.finishing? with
      | some count => return count
      | none => do
          performNoted act
          performAll start acts

/-- Which arguments a script says it takes. -/
inductive Acceptance
  | always (answer : Bool)
  | receiver (type : Receiver)
  | arguments (types : List SlotType)

/-- The answer of an acceptance on a frame. -/
def Acceptance.test (frame : Frame host) : Acceptance → Bool
  | always answer => answer
  | receiver type => frame.receiverAccepts type
  | arguments types => Parameters.accepts frame types 0

/-- A script with what it declares about its arguments. -/
structure Script where
  acts : List Act
  arity : Arity := .variadic
  acceptance : Acceptance := .always true

/-- The acts of a script from the first one on. -/
def Script.program (script : Script) : OnFrame Nat := do
  let start ← pushedSoFar
  performAll start script.acts

/-- The meaning of a script. -/
def Script.meaning (script : Script) : CustomCallable host where
  arity := script.arity
  accepts frame := script.acceptance.test frame
  run := script.program

/-- The meaning of every name of the sample host, given the table of scripts. -/
def library (scripts : Array Script) : Library host where
  function := FunctionName.meaning
  method := MethodName.meaning
  field := FieldName.meaning
  constructor := ConstructorName.meaning
  raw := RawName.program
  custom id := ((scripts[id]?).map Script.meaning).getD { run := .done (.ok 0) }

end HostCall.Session
