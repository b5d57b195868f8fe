import HostCall.Session.Calls
import HostCall.Session.Cells

/-!
# The steps of a session

A step does one thing to a session and shows what came of it: it looks at pure
values, builds and registers callbacks, calls them, and works with globals, shared
cells and the object heap.  What ran during a step is noted in a transcript, which
is shown with the step and then forgotten.
-/

set_option autoImplicit false

namespace HostCall.Session

open Sample

/-- One step. -/
inductive Step
  | arity (declared : Arity) (counts : List Nat) (shift : Option Nat) (other : Option Arity)
  | convert (type : SlotType) (slot : SlotSpec)
  | slot (first : SlotSpec) (second : Option SlotSpec)
  | callError (error : CallError)
  | conversionError (error : ConversionError)
  | registrationError (error : RegistrationError) (names : List String)
  | parameters (types : List SlotType) (slots : List SlotSpec) (base offset : Nat)
  | newInterpreter (policy : Policy)
  | configure (settings : List (Setting × Nat))
  | defaults (setting : Setting)
  | define (name : String) (spec : Spec)
  | forget (name : String)
  | describe (spec : Spec)
  | debug (spec : Spec)
  | field (field : FieldName) (object : Object host) (value : Option SlotSpec)
  | access (read write : Option Spec)
  | sameCallback (first second : Spec)
  | register (name : String) (spec : Spec) (way : RegistrationWay)
  | call (spec : Spec) (call : CallSpec)
  | callGlobal (name : String) (call : CallSpec)
  | frame (slots : List SlotSpec) (base : Nat) (acts : List ActSpec)
  | setGlobal (name : String) (slot : SlotSpec)
  | global (name : String) (define : Option String)
  | removeGlobal (name : String)
  | debugInterpreter
  | share (name : String) (object : Object host)
  | peek (name : String) (type : Receiver)
  | poke (name : String) (object : Object host)
  | drop (name : String)
  | receiver (receiver : ReceiverSpec) (uses : List ReceiverUse)
  | allocate (object : Object host) (name : String)
  | free (name : String)
  | sameHandle (first second : String)
  | heap (name : String) (type : Receiver) (value : Option (Object host))

/-! ## Doing a step -/

/-- What a step that builds something shows, or why it could not be built. -/
def making (program : Making Report) (session : Session) : Report × Session :=
  match program.run session with
  | (.ok report, session) => (success report, session)
  | (.error error, session) => (.registrationFailure error, session)

/-- What a step shows, before what ran during it, and the session after it. -/
def performStep (step : Step) (session : Session) : Report × Session :=
  match step with
  | .arity declared counts shift other =>
      (success (arityReport declared counts shift other), session)
  | .convert type slot =>
      making (do
        let slot ← makeSlot slot
        return (← get).convertReport type slot) session
  | .slot first second =>
      making (do
        let first ← makeSlot first
        let second ← second.mapM makeSlot
        return (← get).slotLook first second) session
  | .callError error => (.callFailure error, session)
  | .conversionError error => (.conversionFailure error, session)
  | .registrationError error names =>
      (.registrationFailure (names.foldl RegistrationError.named error), session)
  | .parameters types slots base offset =>
      making (do
        let slots ← makeSlots slots
        return (← get).parametersReport types slots base offset) session
  | .newInterpreter policy =>
      (success (policyReport policy), { session with interpreter := .new policy })
  | .configure settings =>
      let policy := settings.foldl (fun policy (setting, value) => policy.set setting value)
        session.interpreter.policy
      (success (policyReport policy), { session with interpreter.policy := policy })
  | .defaults setting =>
      (success (.list [.natural setting.default, policyReport {}]), session)
  | .define name spec =>
      making (do
        let callback ← makeCallback spec
        modify fun session => { session with callbacks := session.callbacks.set name callback }
        return (← get).showCallback callback) session
  | .forget name =>
      (success (.truth (session.callbacks.get? name).isSome),
        { session with callbacks := session.callbacks.erase name })
  | .describe spec => making (describeReport spec) session
  | .debug spec => making (.text <$> debugText spec) session
  | .field field object value =>
      making (do
        let value ← value.mapM makeSlot
        return (← get).fieldReport field object value) session
  | .access read write =>
      making (do
        let read ← half read
        let write ← half write
        let pair : Accessors host := ⟨read, write⟩
        let session ← get
        return .parts
          [("access", .optional (.text ·.name) pair.halves),
            ("read", .optional session.showCallback pair.read),
            ("write", .optional session.showCallback pair.write)]) session
  | .sameCallback first second =>
      making (do
        let first ← makeCallback first
        let second ← makeCallback second
        return .truth (first.same second)) session
  | .register name spec way =>
      making (do
        registerStep name spec way
        let session ← get
        return .optional session.showSlot (session.interpreter.global? name)) session
  | .call spec call =>
      let (outcome, session) := callStep spec call session
      (callReport session outcome, session)
  | .callGlobal name call =>
      let (outcome, session) := callGlobalStep name call session
      (callReport session outcome, session)
  | .frame slots base acts =>
      let building : Making (List (Slot host) × List Act) := do
        let slots ← makeSlots slots
        let acts ← scriptActs acts
        return (slots, acts)
      let (shown, session) := match building.run session with
        | (.error error, session) => (Report.registrationFailure error, session)
        | (.ok (slots, acts), session) => frameStep slots base acts session
      (shown.extend [("live", .natural session.interpreter.heap.size)], session)
  | .setGlobal name slot =>
      making (do
        let slot ← makeSlot slot
        let session ← get
        set { session with interpreter := session.interpreter.setGlobal name slot }
        return .optional session.showSlot (session.interpreter.global? name)) session
  | .global name define =>
      let found := session.interpreter.global? name
      let stored := match found.bind Slot.callback?, define with
        | some callback, some key =>
            { session with callbacks := session.callbacks.set key callback }
        | _, _ => session
      (success (.parts
        [("has", .truth found.isSome), ("value", .optional session.showSlot found)]), stored)
  | .removeGlobal name =>
      (success (.optional session.showSlot (session.interpreter.global? name)),
        { session with interpreter := session.interpreter.removeGlobal name })
  | .debugInterpreter => (success (.text session.interpreter.debug), session)
  | .share name object => (success .nothing, session.shareCell name object)
  | .peek name type =>
      let found : Option (host.Value type) := do
        let cell ← session.storedCell name
        let object ← session.world.content? cell
        object.as? type
      (success (.optional (fun value => session.showObject ⟨type, value⟩) found), session)
  | .poke name object =>
      let world := match session.storedCell name with
        | some cell => session.world.setContent cell object
        | none => session.world
      (success .nothing, { session with world })
  | .drop name =>
      let (existed, session) := session.dropCell name
      (success (.truth existed), session)
  | .receiver receiver uses =>
      let (bound, world) := (session.receiverSource receiver).bind session.world
      let (reports, session) := useAll bound uses { session with world }
      (success (.list (.text bound.binding.name :: reports)), session)
  | .allocate object name =>
      let (interpreter, slot) := session.interpreter.allocate object
      let session :=
        { session with interpreter, slots := session.slots.set name #[slot] }
      (success (session.showSlot slot), session)
  | .free name =>
      match session.storedHandle name with
      | none => (success .nothing, session)
      | some handle =>
          let (heap, freed) := session.interpreter.heap.free handle
          (success (.truth freed), { session with interpreter.heap := heap })
  | .sameHandle first second =>
      (success (.truth (session.storedHandle first == session.storedHandle second)), session)
  | .heap name type value =>
      match session.storedHandle name with
      | none => (success .nothing, session)
      | some handle =>
          let (report, session) := heapStep handle type value session
          (success report, session)

/-- One step: what it shows, with what ran during it, and the session after it. -/
def step (session : Session) (step : Step) : Report × Session :=
  let (report, session) := performStep step { session with world.memory.transcript := #[] }
  let ran := session.world.memory.transcript.toList
  (if ran.isEmpty then report else report.extend [("ran", .list ran)], session)

/-- Steps from a session on, one after another. -/
def steps : List Step → Session → List Report
  | [], _ => []
  | next :: rest, session =>
      let (report, session) := session.step next
      report :: steps rest session

end HostCall.Session
