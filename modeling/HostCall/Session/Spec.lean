import HostCall.Registration
import HostCall.Sample.Spelling
import HostCall.Session.Script

/-!
# Building callbacks and slots in a session

A session has an interpreter, the host's world around it, a table of scripts, and
three tables of its own: callbacks, lists of slots and shared cells, each under
names.  A `Spec` says which callback to build and a `SlotSpec` which slot to make;
what they mention by name is looked up in the tables.

Nested specs are built first, in order, so an error of an inner bundle comes before
one of an outer bundle.
-/

set_option autoImplicit false

namespace HostCall.Session

open Sample

/-! ## Specs -/

/-- A free function to be wrapped. -/
inductive FunctionSpec
  | plain (function : PlainFunction) (form : CallableForm)
  | adder (captured : Int64)
  | ticker (start : Int64)
  | tag (tagged : Tagged) (captured : Int64)

/-- In which form a shared cell is handed over as a receiver. -/
inductive CellForm
  | handle
  | weak
  | bound
  | dead
deriving DecidableEq, Repr

/-- A receiver to be bound. -/
inductive ReceiverSpec
  | own (object : Object host)
  | shared (cell : String) (form : CellForm)

mutual
/-- A slot to be made. -/
inductive SlotSpec
  | given (slot : Slot host)
  | function (spec : Spec)
  | copied (name : String) (index : Nat)
  | taken (name : String) (index : Nat)

/-- A callback to be built. -/
inductive Spec
  | stored (name : String)
  | function (function : FunctionSpec)
  | method (method : MethodName) (receiver : Option ReceiverSpec)
  | field (field : FieldName) (receiver : Option ReceiverSpec)
  | raw (name : RawName)
  | script (acts : List ActSpec) (arity : Arity) (acceptance : Acceptance) (label : Label)
  | overload (candidates : List Spec)
  | property (read write : Option Spec)
  | constructors (receiver : Receiver) (items : List MakerSpec)
  | deferred (inner : Spec)

/-- An item of a constructor list. -/
inductive MakerSpec
  | constructor (name : ConstructorName)
  | factory (spec : Spec)

/-- An act to be put into a script. -/
inductive ActSpec
  | plain (act : Act)
  | push (slot : SlotSpec)
  | pushAs (type : SlotType) (slot : SlotSpec)
  | results (slots : List SlotSpec)
  | invoke (spec : Spec)
  | callbackAccepts (spec : Spec)
  | select (candidates : List Spec)
  | attempt (act : ActSpec)
end

/-! ## Sessions -/

end HostCall.Session

namespace HostCall

/-- A session: an interpreter, the world of its host, and named things. -/
structure Session where
  interpreter : Interpreter Sample.host := {}
  world : World Sample.host := ⟨{}, #[], 0⟩
  scripts : Array Session.Script := #[]
  callbacks : Table (Callback Sample.vocabulary) := {}
  slots : Table (Array (Slot Sample.host)) := {}
  cells : Table CellId := {}

namespace Session

open Sample

/-- The meaning of every name at this point of the session. -/
def meanings (session : Session) : Library host := library session.scripts

/-- A step of building that may fail. -/
abbrev Making : Type → Type := ExceptT RegistrationError (StateM Session)

/-- A step in the world of the host. -/
def inWorld {α : Type} (building : Building host α) : Making α := do
  let session ← get
  let (value, world) := building session.world
  set { session with world }
  return value

/-- A step in the world of the host that may fail. -/
def inWorldOrFail {α : Type} (building : Building host (Except RegistrationError α)) :
    Making α := do
  MonadExcept.ofExcept (← inWorld building)

/-- A note in the transcript. -/
def noteInSession (entry : Report) : Making Unit :=
  modify fun session =>
    { session with
      world.memory.transcript := session.world.memory.transcript.push entry }

/-- A slot of a named list; there is none where the list ends. -/
def storedSlot (session : Session) (name : String) (index : Nat) : Slot host :=
  ((session.slots.get? name).bind (·[index]?)).getD .void

/-- A named shared cell. -/
def storedCell (session : Session) (name : String) : Option CellId := session.cells.get? name

/-- The source that a receiver is bound from. -/
def receiverSource (session : Session) : ReceiverSpec → ReceiverSource host
  | .own object => .value object
  | .shared cell .handle =>
      match session.storedCell cell with
      | some id => .handle id
      | none => .reference none
  | .shared cell .weak => .reference (session.storedCell cell)
  | .shared cell .bound => .bound (.referenced (session.storedCell cell))
  | .shared _ .dead => .reference none

/-! ## Building -/

/-- The name of a free function, with a new counter for one that counts. -/
def functionName : FunctionSpec → Making FunctionName
  | .plain function form => pure (.plain function form)
  | .adder captured => pure (.adder captured)
  | .tag tagged captured => pure (.tag tagged captured)
  | .ticker start => do
      let session ← get
      let tickers := session.world.memory.tickers
      set { session with world.memory.tickers := tickers.push start }
      return .ticker tickers.size

/-- A new place in the table of scripts. -/
def newScript (script : Script) : Making ScriptId := do
  let session ← get
  set { session with scripts := session.scripts.push script }
  return session.scripts.size

/-- The callback that a registration builds, for a slot without a name. -/
def built (registration : Registration host) : Making (Callback vocabulary) := do
  inWorldOrFail (registration.build (← get).meanings "")

/-- What is installed when a registration is deferred or set. -/
def installable : Registration host → Making (Installable host)
  | .set item => pure item
  | .install callback => pure (.callback callback)
  | .raw name => pure (.callback (.direct name))
  | .function name => pure (.function name)
  | .method name => pure (.method name)
  | .methodBound name source => do
      return .boundMethod name (← inWorld source.bind)
  | .field name => pure (.field name)
  | .fieldBound name source => do
      return .callback (← built (.fieldBound name source))
  | .overloads bundle => pure (.overloads bundle)
  | .property pair => pure (.property pair)
  | .constructors list => pure (.constructors list)
  | .deferred content => pure content.toInstallable

mutual
/-- The registration that a spec stands for; what it contains is built now. -/
def registration : Spec → Making (Registration host)
  | .stored name => do
      match (← get).callbacks.get? name with
      | some callback => return .install callback
      | none => throw .emptyName
  | .function function => return .function (← functionName function)
  | .method method none => return .method method
  | .method method (some receiver) => do
      return .methodBound method ((← get).receiverSource receiver)
  | .field field none => return .field field
  | .field field (some receiver) => do
      return .fieldBound field ((← get).receiverSource receiver)
  | .raw name => return .raw name
  | .script acts arity acceptance label => do
      let acts ← scriptActs acts
      let id ← newScript { acts, arity, acceptance }
      return .install (← inWorld (Callback.custom label id))
  | .overload candidates => return .overloads ⟨← makeCallbacks candidates⟩
  | .property read write => do
      let read ← half read
      let write ← half write
      return .property ⟨read, write⟩
  | .constructors receiver items => do
      let list ← makers ⟨receiver, []⟩ items
      noteInSession (.parts
        [("ctors", .natural list.candidates.length),
          ("empty", .truth list.candidates.isEmpty)])
      return .constructors list
  | .deferred inner => do
      let own ← registration inner
      let content ← installable own
      return .deferred ⟨deferredName own, content⟩

/-- The callback of a spec. -/
def makeCallback (spec : Spec) : Making (Callback vocabulary) := do
  built (← registration spec)

/-- The callbacks of specs, in order. -/
def makeCallbacks : List Spec → Making (List (Callback vocabulary))
  | [] => pure []
  | spec :: specs => do
      let first ← makeCallback spec
      let rest ← makeCallbacks specs
      return first :: rest

/-- The callback of half a property. -/
def half : Option Spec → Making (Option (Callback vocabulary))
  | none => pure none
  | some spec => some <$> makeCallback spec

/-- The constructor list with further items. -/
def makers (list : Makers host) : List MakerSpec → Making (Makers host)
  | [] => pure list
  | .constructor name :: items => do
      makers (← inWorld (list.push name)) items
  | .factory spec :: items => do
      makers (list.pushFactory (← makeCallback spec)) items

/-- The slot of a spec. -/
def makeSlot : SlotSpec → Making (Slot host)
  | .given slot => pure slot
  | .function spec => .function <$> makeCallback spec
  | .copied name index => do
      return (((← get).storedSlot name index).copy?).getD .void
  | .taken name index => do
      let session ← get
      let taken := session.storedSlot name index
      match session.slots.get? name with
      | none => pure ()
      | some list =>
          set { session with slots := session.slots.set name (list.setIfInBounds index .void) }
      return taken

/-- The slots of specs, in order. -/
def makeSlots : List SlotSpec → Making (List (Slot host))
  | [] => pure []
  | spec :: specs => do
      let first ← makeSlot spec
      let rest ← makeSlots specs
      return first :: rest

/-- The act of a spec. -/
def scriptAct : ActSpec → Making Act
  | .plain act => pure act
  | .push spec => .push <$> makeSlot spec
  | .pushAs type spec => .pushAs type <$> makeSlot spec
  | .results specs => .results <$> makeSlots specs
  | .invoke spec => .invoke <$> makeCallback spec
  | .callbackAccepts spec => .callbackAccepts <$> makeCallback spec
  | .select specs => .select <$> makeCallbacks specs
  | .attempt act => .attempt <$> scriptAct act

/-- The acts of specs, in order. -/
def scriptActs : List ActSpec → Making (List Act)
  | [] => pure []
  | spec :: specs => do
      let first ← scriptAct spec
      let rest ← scriptActs specs
      return first :: rest
end

end Session

end HostCall
