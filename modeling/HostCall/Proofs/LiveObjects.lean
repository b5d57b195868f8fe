import HostCall.Proofs.MemberVariables

/-!
# Objects stay until they are freed

Between calls the host may do with an interpreter what it likes: it works on the heap, changes
names and policies, and calls callbacks, which work on the heap in turn (`Deed`).  Every heap that
this leads to is consistent.

An object in it stays, with its handle and its type, until something frees it: a deed of the host
does, or a program does at some moment of a call (`Deed.Frees`).  So long its handle is the
receiver of every method and every field of its type (`Interpreter.Receives`): whether a call is
accepted is a matter of the other arguments.

That an object of a type is there can be read as a content that all objects of the type show
(`Field.presence`), and then the only way to spoil that content is to free the object.  So the
moments of a call are treated as for any field.
-/

set_option autoImplicit false

namespace HostCall

open Relation (ReflTransGen)

variable {H : Host}

/-! ## Being there -/

/-- That an object of a type is there, as a content that every such object shows. -/
def Field.presence (type : H.Receiver) : Field H where
  name := ""
  receiver := type
  type := .bool
  get _ := true
  set _ value := value

theorem Field.of?_presence_eq_some {type : H.Receiver} {object : Object H} {content : Bool}
    (shown : (Field.presence type).of? object = some content) :
    content = true ∧ ∃ value, object = ⟨type, value⟩ := by
  obtain ⟨value, typed, rfl⟩ := Option.map_eq_some_iff.mp shown
  exact ⟨rfl, value, Object.eq_mk_of_as? typed⟩

/-- The presence shows in a heap where an object of the type is. -/
theorem Home.shows_presence {heap : Heap H} {key : Key} {type : H.Receiver}
    {value : H.Value type} (consistent : heap.Consistent)
    (there : heap.objects key = some ⟨type, value⟩) (world : World H) :
    (Home.heap key).Shows (.presence type) true heap world where
  consistent _ _ := consistent
  shown := by
    have typed : (Object.mk type value).as? (Field.presence type).receiver = some value :=
      Object.as?_self type value
    rw [object?, there, Option.bind_some, Field.of?, typed]
    rfl

theorem Home.Shows.objects_eq_some {heap : Heap H} {world : World H} {key : Key}
    {type : H.Receiver} (shows : (Home.heap key).Shows (.presence type) true heap world) :
    ∃ value, heap.objects key = some ⟨type, value⟩ := by
  obtain ⟨object, found, shown⟩ := Option.bind_eq_some_iff.mp shows.shown
  obtain ⟨_, value, rfl⟩ := Field.of?_presence_eq_some shown
  exact ⟨value, found⟩

/-! ## Moments at which an object is freed -/

/-- At this moment a program frees what is under the key. -/
inductive Moment.Frees (key : Key) : Moment H → Prop
  | free {handle : Handle H.toVocabulary} (here : handle.key = key)
      (next : Bool → FrameProgram H (Ending H)) (scene : Scene H) :
      Frees key (.working (.step (.free handle) next) scene)

/-- Some moment from this one on frees what is under the key. -/
def Library.Frees (library : Library H) (key : Key) (moment : Moment H) : Prop :=
  ∃ later, ReflTransGen library.Proceeds moment later ∧ later.Frees key

/-- An operation on a heap that frees nothing leaves the presence of an object alone. -/
theorem Heap.Operation.frees_of_spoils {key : Key} {type : H.Receiver}
    {operation : Heap.Operation H} (spoils : operation.Spoils key (.presence type) true) :
    operation.Frees key := by
  cases operation with
  | allocate object => cases spoils
  | free handle => exact ⟨handle, rfl, spoils⟩
  | write handle object | tryWrite handle object =>
      obtain ⟨_, content, shown, other⟩ := spoils
      exact absurd (Field.of?_presence_eq_some shown).1 other

/-- To take an object away is to free it: a method leaves an object in the place of another. -/
theorem Moment.Spoils.frees {key : Key} {type : H.Receiver} {moment : Moment H}
    (spoils : moment.Spoils (.presence type) true (.heap key)) : moment.Frees key := by
  cases spoils with
  | @operation operation change _ scene next _ asks spoils =>
      obtain ⟨handle, rfl, here⟩ := Heap.Operation.frees_of_spoils spoils
      cases operation with
      | free other =>
          cases asks
          exact .free here next scene
      | setReceiver object =>
          rw [FrameOperation.heapOperation?, Frame.receiverWrite?] at asks
          split at asks <;> cases asks
      | _ => cases asks
  | left _ _ writes spoils =>
      obtain ⟨handle, rfl, _⟩ := Heap.Operation.frees_of_spoils spoils
      rw [Frame.receiverWrite?] at writes
      split at writes <;> cases writes

/-! ## Calls and heaps -/

/-- What a step does to the heap of its frame, an operation could do. -/
theorem FrameStep.exists_operations {first last : Frame H} {slots : List (Slot H)}
    (step : FrameStep first slots last) : ∃ operations, last.heap = first.heap.run operations := by
  cases step with
  | push slot done =>
      rw [Frame.push] at done
      split at done <;> cases done
      exact ⟨[], rfl⟩
  | setReceiver type value done =>
      rcases Frame.setReceiver_cases done with
        ⟨_, _, _, _, heap, _⟩ | ⟨handle, heap, _, written, rfl⟩
      · exact ⟨[], heap⟩
      · refine ⟨[.tryWrite handle ⟨type, value⟩], ?_⟩
        simp only [Heap.run_cons, Heap.run_nil, Heap.step, written]
        rfl
  | allocate object => exact ⟨[.allocate object], rfl⟩
  | free handle => exact ⟨[.free handle], rfl⟩
  | setObject handle type value done =>
      refine ⟨[.tryWrite handle ⟨type, value⟩], ?_⟩
      simp only [Heap.run_cons, Heap.run_nil, Heap.step, done]
      rfl

theorem FrameRun.exists_operations {first last : Frame H} {slots : List (Slot H)}
    (run : FrameRun first slots last) : ∃ operations, last.heap = first.heap.run operations := by
  induction run with
  | refl frame => exact ⟨[], rfl⟩
  | step step _ ih =>
      obtain ⟨earlier, reached⟩ := step.exists_operations
      obtain ⟨later, ended⟩ := ih
      exact ⟨earlier ++ later, by rw [ended, reached, Heap.run_append]⟩

namespace Interpreter

variable {library : Library H} {depth : Nat} {interpreter after : Interpreter H}
  {callback : Callback H.toVocabulary} {arguments : List (Slot H)} {world reached : World H}
  {outcome : Except CallError (List (Slot H))}

/-- Whatever a callback does, it leaves a consistent heap. -/
theorem consistent_of_call (consistent : interpreter.heap.Consistent)
    (called : interpreter.call library depth callback arguments world =
      some ((outcome, after), reached)) : after.heap.Consistent := by
  rcases callWith_cases (library.goesBySteps_call depth) called with
    ⟨_, rfl, _⟩ | ⟨_, _, frame, _, _, run, _, rfl⟩
  · exact consistent
  · obtain ⟨operations, ended⟩ := run.exists_operations
    exact ended ▸ consistent.run operations

/-- An object that no moment of a call frees is there after it, with its type. -/
theorem present_of_call {key : Key} {type : H.Receiver} {value : H.Value type}
    (consistent : interpreter.heap.Consistent)
    (there : interpreter.heap.objects key = some ⟨type, value⟩)
    (spares : interpreter.Fits arguments →
      ¬ library.Frees key (.calling callback ⟨interpreter.entry arguments, world⟩))
    (called : interpreter.call library depth callback arguments world =
      some ((outcome, after), reached)) :
    ∃ later, after.heap.objects key = some ⟨type, later⟩ := by
  refine Home.Shows.objects_eq_some (shows_of_call (fun fits later follows spoils => ?_)
    (Home.shows_presence consistent there world) called)
  exact spares fits ⟨later, follows, spoils.frees⟩

/-! ## Receivers -/

/-- The handle is the receiver of every method and every field of a type.  It reaches a value, and
whether the types of the arguments behind it are accepted does not depend on it. -/
structure Receives (interpreter : Interpreter H) (library : Library H)
    (handle : Handle H.toVocabulary) (type : H.Receiver) : Prop where
  reaches : ∀ arguments, ∃ value,
    (interpreter.entry (.object handle :: arguments)).receiver type = .ok value
  method : ∀ name, (library.method name).receiver = type → ∀ arguments,
    library.blockAccepts (interpreter.entry (.object handle :: arguments)) (.method name) =
      Parameters.accepts (interpreter.entry (.object handle :: arguments))
        (library.method name).parameters 1
  read : ∀ name, (library.field name).receiver = type →
    library.blockAccepts (interpreter.entry [.object handle]) (.field name) = true
  write : ∀ name, (library.field name).receiver = type → ∀ slot,
    library.blockAccepts (interpreter.entry [.object handle, slot]) (.field name) =
      (library.field name).type.accepts slot

/-- So it is where it reaches an object of the type. -/
theorem receives_of_get? {handle : Handle H.toVocabulary} {type : H.Receiver}
    {value : H.Value type} (reached : interpreter.heap.get? handle type = some value) :
    interpreter.Receives library handle type := by
  have accepted (arguments : List (Slot H)) :
      (interpreter.entry (.object handle :: arguments)).receiverAccepts type = true := by
    rw [Frame.receiverAccepts, receiver_entry reached]
    rfl
  constructor
  case reaches => exact fun arguments => ⟨value, receiver_entry reached arguments⟩
  case method =>
    rintro name rfl arguments
    rw [Library.blockAccepts, accepted, Bool.true_and]
  case read =>
    rintro name rfl
    simp only [Library.blockAccepts, argumentCount_entry, List.length_singleton]
    exact accepted []
  case write =>
    rintro name rfl slot
    simp only [Library.blockAccepts, argumentCount_entry, List.length_cons, List.length_nil,
      accepted, Bool.true_and, Frame.argumentAccepts, argument?_entry]
    rfl

end Interpreter

/-! ## Deeds -/

/-- What the host may do with an interpreter between calls, and to the world around it. -/
inductive Deed (H : Host)
  /-- A callback is called. -/
  | call (depth : Nat) (callback : Callback H.toVocabulary) (arguments : List (Slot H))
  /-- The heap is worked on. -/
  | operate (operation : Heap.Operation H)
  /-- Names, policy and world become others. -/
  | other (globals : Table (Slot H)) (policy : Policy) (world : World H)

namespace Deed

/-- The situation that a deed leads to; a call need not come to an end. -/
def result? (library : Library H) (situation : Situation H) : Deed H → Option (Situation H)
  | call depth callback arguments =>
      (situation.call library depth callback arguments).map (·.2)
  | operate operation =>
      some { situation with interpreter := { situation.interpreter with
        heap := situation.interpreter.heap.step operation } }
  | other globals policy world =>
      some ⟨{ situation.interpreter with globals, policy }, world⟩

/-- The deed frees what is under the key, or a program does at some moment of the call. -/
def Frees (library : Library H) (situation : Situation H) (key : Key) : Deed H → Prop
  | call _ callback arguments => situation.interpreter.Fits arguments ∧ library.Frees key
      (.calling callback ⟨situation.interpreter.entry arguments, situation.world⟩)
  | operate operation => operation.Frees key
  | other _ _ _ => False

variable {library : Library H} {situation after : Situation H} {deed : Deed H}

theorem consistent (before : situation.interpreter.heap.Consistent)
    (done : deed.result? library situation = some after) : after.interpreter.heap.Consistent := by
  cases deed with
  | call depth callback arguments =>
      obtain ⟨⟨outcome, _⟩, called, rfl⟩ := Option.map_eq_some_iff.mp done
      exact Interpreter.consistent_of_call before (Situation.call_eq_some called)
  | operate operation =>
      cases done
      exact before.step operation
  | other globals policy world =>
      cases done
      exact before

/-- **An object stays until it is freed.** -/
theorem present {key : Key} {type : H.Receiver} {value : H.Value type}
    (before : situation.interpreter.heap.Consistent)
    (there : situation.interpreter.heap.objects key = some ⟨type, value⟩)
    (done : deed.result? library situation = some after)
    (spares : ¬ deed.Frees library situation key) :
    ∃ later, after.interpreter.heap.objects key = some ⟨type, later⟩ := by
  cases deed with
  | call depth callback arguments =>
      obtain ⟨⟨outcome, _⟩, called, rfl⟩ := Option.map_eq_some_iff.mp done
      exact Interpreter.present_of_call before there (fun fits frees => spares ⟨fits, frees⟩)
        (Situation.call_eq_some called)
  | operate operation =>
      cases done
      exact before.type_step there spares
  | other globals policy world =>
      cases done
      exact ⟨value, there⟩

end Deed

/-- Deeds that do not free what is under the key lead from one situation to the other. -/
def Situation.Spares (library : Library H) (key : Key) : Situation H → Situation H → Prop :=
  ReflTransGen fun situation after =>
    ∃ deed : Deed H, deed.result? library situation = some after ∧
      ¬ deed.Frees library situation key

/-- So an object stays over all of them. -/
theorem Situation.Spares.present {library : Library H} {key : Key} {situation after : Situation H}
    (spares : Situation.Spares library key situation after) {type : H.Receiver}
    {value : H.Value type} (before : situation.interpreter.heap.Consistent)
    (there : situation.interpreter.heap.objects key = some ⟨type, value⟩) :
    after.interpreter.heap.Consistent ∧
      ∃ later, after.interpreter.heap.objects key = some ⟨type, later⟩ := by
  induction spares with
  | refl => exact ⟨before, value, there⟩
  | tail _ last ih =>
      obtain ⟨consistent, middle, present⟩ := ih
      obtain ⟨deed, done, kept⟩ := last
      exact ⟨deed.consistent consistent done, deed.present consistent present done kept⟩

end HostCall
