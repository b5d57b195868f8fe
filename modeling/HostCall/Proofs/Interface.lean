import HostCall.Call

/-!
# What a library declares

The interface of a library is what can be asked of its names without running
anything: the parameters and receivers that they declare, and the range and the
test of a callable that works on frames.  Bodies, results and projections are not
part of it.

Ranges, acceptance and the choice of a router are settled by the interface alone
(`SameInterface.arity_eq`, `accepts_eq`, `select_eq`).  So a call whose outcome the
interface settles is a call that no body takes part in, and
`Library.FailsBeforeBody` says so: whatever bodies stand behind the names, the call
fails in the same way and leaves the scene as it was.  A body that ran could tell,
since it may write to the host's memory, fail, or never end.
-/

set_option autoImplicit false

namespace HostCall

variable {H : Host}

namespace Library

/-! ## The same declarations -/

/-- Two libraries that declare the same of every name. -/
structure SameInterface (left right : Library H) : Prop where
  functionParameters : ∀ name, (left.function name).parameters = (right.function name).parameters
  methodReceiver : ∀ name, (left.method name).receiver = (right.method name).receiver
  methodParameters : ∀ name, (left.method name).parameters = (right.method name).parameters
  methodAccess : ∀ name, (left.method name).access = (right.method name).access
  fieldReceiver : ∀ name, (left.field name).receiver = (right.field name).receiver
  fieldType : ∀ name, (left.field name).type = (right.field name).type
  constructorParameters :
    ∀ name, (left.constructor name).parameters = (right.constructor name).parameters
  customArity : ∀ name, (left.custom name).arity = (right.custom name).arity
  customAccepts : ∀ name, (left.custom name).accepts = (right.custom name).accepts

namespace SameInterface

theorem refl (library : Library H) : SameInterface library library := by
  constructor <;> exact fun _ => rfl

variable {left right : Library H}

theorem blockArity_eq (same : SameInterface left right) (block : Block H.toVocabulary) :
    left.blockArity block = right.blockArity block := by
  cases block with
  | function name => simp only [blockArity, same.functionParameters]
  | method name => simp only [blockArity, same.methodParameters]
  | boundMethod name receiver => simp only [blockArity, same.methodParameters]
  | field name => rfl
  | boundField name receiver => rfl
  | construct name => simp only [blockArity, same.constructorParameters]
  | custom label name => exact same.customArity name

theorem arity_eq (same : SameInterface left right) (callback : Callback H.toVocabulary) :
    left.arity callback = right.arity callback := by
  cases callback with
  | direct name => rfl
  | closure id block => exact same.blockArity_eq block
  | router id shape declared candidates => rfl

theorem blockAccepts_eq (same : SameInterface left right) (frame : Frame H)
    (block : Block H.toVocabulary) :
    left.blockAccepts frame block = right.blockAccepts frame block := by
  cases block with
  | function name => simp only [blockAccepts, same.functionParameters]
  | method name => simp only [blockAccepts, same.methodReceiver, same.methodParameters]
  | boundMethod name receiver => simp only [blockAccepts, same.methodParameters]
  | field name => simp only [blockAccepts, same.fieldReceiver, same.fieldType]
  | boundField name receiver => simp only [blockAccepts, same.fieldType]
  | construct name => simp only [blockAccepts, same.constructorParameters]
  | custom label name => simp only [blockAccepts, same.customAccepts]

/-- The walk of a router asks only for ranges and acceptance. -/
theorem scan_eq_of_accepts_eq (same : SameInterface left right) {frame : Frame H}
    {candidates : List (Callback H.toVocabulary)}
    (each : ∀ candidate ∈ candidates,
      left.accepts frame candidate = right.accepts frame candidate)
    (place : Nat) (rejected : List Nat) :
    left.scan frame candidates place rejected = right.scan frame candidates place rejected := by
  induction candidates generalizing place rejected with
  | nil => rw [scan, scan]
  | cons candidate candidates ih =>
      have rest := ih fun later member => each later (List.mem_cons_of_mem _ member)
      rw [scan, scan, same.arity_eq candidate, each candidate List.mem_cons_self, rest, rest]

theorem accepts_eq (same : SameInterface left right) (frame : Frame H)
    (callback : Callback H.toVocabulary) :
    left.accepts frame callback = right.accepts frame callback := by
  induction callback using Callback.inductionOn with
  | direct name => rw [accepts, accepts]
  | closure id block => rw [accepts, accepts, same.blockAccepts_eq]
  | router id shape declared candidates ih =>
      rw [accepts, accepts, same.scan_eq_of_accepts_eq ih]

theorem select_eq (same : SameInterface left right) (frame : Frame H)
    (candidates : List (Callback H.toVocabulary)) :
    left.select frame candidates = right.select frame candidates := by
  rw [select, select, funext same.arity_eq,
    same.scan_eq_of_accepts_eq fun candidate _ => same.accepts_eq frame candidate]

end SameInterface

/-! ## Calls that no body takes part in -/

/-- The call fails before any body runs: with any other bodies, and whatever the calls
that they would make do, it fails in the same way and changes nothing. -/
def FailsBeforeBody (library : Library H) (callback : Callback H.toVocabulary)
    (scene : Scene H) (error : CallError) : Prop :=
  ∀ other : Library H, library.SameInterface other → ∀ invoke : Invoker H,
    other.callWith invoke callback scene = some (.error error, scene)

theorem FailsBeforeBody.callWith_eq {library : Library H} {callback : Callback H.toVocabulary}
    {scene : Scene H} {error : CallError} (fails : library.FailsBeforeBody callback scene error)
    (invoke : Invoker H) : library.callWith invoke callback scene = some (.error error, scene) :=
  fails library (.refl library) invoke

/-- A router that finds no candidate fails before any body runs. -/
theorem failsBeforeBody_router {library : Library H} {id : ClosureId} {shape : Shape}
    {declared : Arity} {candidates : List (Callback H.toVocabulary)} {scene : Scene H}
    {mismatch : Mismatch} (failed : library.select scene.frame candidates = .error mismatch) :
    library.FailsBeforeBody (.router id shape declared candidates) scene
      (.noCandidate mismatch) := by
  intro other same invoke
  rw [same.select_eq] at failed
  exact callWith_router_of_mismatch failed

end Library

end HostCall
