import HostCall.Proofs.RegistrationOutcome
import HostCall.Proofs.StackDiscipline
import HostCall.Session.Script

/-!
# What is stored under a name

Callbacks are registered under names, names are removed, and callbacks are called in between,
on their own or by name.  A registration either stores the callback that it builds, or fails
and changes nothing.

So under a name is what was registered last, unless the name was removed since
(`globalSlots_run`).  Nothing else touches a slot: registrations under other names do not, and
calls do not.
-/

set_option autoImplicit false

namespace HostCall

variable {H : Host}

/-! ## Events -/

/-- What happens to the slots of an interpreter. -/
inductive SlotEvent (H : Host)
  /-- A callback was registered under a name. -/
  | registered (name : String) (callback : Callback H.toVocabulary)
  /-- A registration under a name failed. -/
  | refused (name : String) (error : RegistrationError)
  /-- A name was removed. -/
  | removed (name : String)
  /-- A callback was called, on its own or by name. -/
  | called (outcome : Except CallError (List (Slot H)))
  /-- The host program did something of its own. -/
  | hosted

/-- The event fills or empties the slot of a name. -/
def SlotEvent.Concerns (name : String) (event : SlotEvent H) : Prop :=
  (∃ callback, event = .registered name callback) ∨ event = .removed name

/-- The callback was registered under the name, and since then nothing was, nor was the name
removed. -/
def RegisteredLast (events : List (SlotEvent H)) (name : String)
    (callback : Callback H.toVocabulary) : Prop :=
  ∃ earlier later, events = earlier ++ .registered name callback :: later ∧
    ∀ event ∈ later, ¬ event.Concerns name

/-- One event, with the interpreter and the world before and after it. -/
inductive SlotStep (library : Library H) :
    Interpreter H → World H → SlotEvent H → Interpreter H → World H → Prop
  | register {interpreter after : Interpreter H} {world reached : World H} {name : String}
      {registration : Registration H} {callback : Callback H.toVocabulary}
      (done : interpreter.register library name registration world = ((.ok (), after), reached))
      (built : (registration.build library name world).1 = .ok callback) :
      SlotStep library interpreter world (.registered name callback) after reached
  | refuse {interpreter after : Interpreter H} {world reached : World H} {name : String}
      {registration : Registration H} {error : RegistrationError}
      (failed : interpreter.register library name registration world =
        ((.error error, after), reached)) :
      SlotStep library interpreter world (.refused name error) after reached
  | remove (interpreter : Interpreter H) (world : World H) (name : String) :
      SlotStep library interpreter world (.removed name) (interpreter.removeGlobal name) world
  | call {interpreter after : Interpreter H} {world reached : World H} {depth : Nat}
      {callback : Callback H.toVocabulary} {arguments : List (Slot H)}
      {outcome : Except CallError (List (Slot H))}
      (called : interpreter.call library depth callback arguments world =
        some ((outcome, after), reached)) :
      SlotStep library interpreter world (.called outcome) after reached
  | callGlobal {interpreter after : Interpreter H} {world reached : World H} {depth : Nat}
      {name : String} {arguments : List (Slot H)} {outcome : Except CallError (List (Slot H))}
      (called : interpreter.callGlobal library depth name arguments world =
        some ((outcome, after), reached)) :
      SlotStep library interpreter world (.called outcome) after reached
  | host (interpreter : Interpreter H) (world : World H) (act : World H → World H) :
      SlotStep library interpreter world .hosted interpreter (act world)

/-- Events one after another. -/
inductive SlotRun (library : Library H) :
    Interpreter H → World H → List (SlotEvent H) → Interpreter H → World H → Prop
  | nil (interpreter : Interpreter H) (world : World H) :
      SlotRun library interpreter world [] interpreter world
  | cons {first middle last : Interpreter H} {world passed reached : World H}
      {event : SlotEvent H} {events : List (SlotEvent H)}
      (step : SlotStep library first world event middle passed)
      (rest : SlotRun library middle passed events last reached) :
      SlotRun library first world (event :: events) last reached

/-! ## Calls -/

namespace Interpreter

variable {library : Library H} {depth : Nat} {interpreter after : Interpreter H}
  {arguments : List (Slot H)} {world reached : World H}
  {outcome : Except CallError (List (Slot H))}

/-- A call changes no slot. -/
theorem globals_of_call {callback : Callback H.toVocabulary}
    (called : interpreter.call library depth callback arguments world =
      some ((outcome, after), reached)) : after.globals = interpreter.globals := by
  obtain ⟨heap, rfl⟩ := exists_heap_of_call called
  rfl

theorem globals_of_callGlobal {name : String}
    (called : interpreter.callGlobal library depth name arguments world =
      some ((outcome, after), reached)) : after.globals = interpreter.globals := by
  rw [callGlobal] at called
  split at called
  · cases called
    rfl
  · exact globals_of_call called

/-- A name can be called exactly when its slot holds a callback. -/
theorem callable_eq_ok_iff {name : String} {callback : Callback H.toVocabulary} :
    interpreter.callable name = .ok callback ↔
      interpreter.global? name = some (.function callback) := by
  rw [callable]
  split <;> simp_all

/-- A call by name is a call of the callback under the name. -/
theorem callGlobal_of_function {name : String} {callback : Callback H.toVocabulary}
    (stored : interpreter.global? name = some (.function callback)) :
    interpreter.callGlobal library depth name arguments world =
      interpreter.call library depth callback arguments world := by
  rw [callGlobal, callable, stored]

theorem callGlobal_of_none {name : String} (missing : interpreter.global? name = none) :
    interpreter.callGlobal library depth name arguments world =
      some ((.error (.unknownGlobal name), interpreter), world) := by
  rw [callGlobal, callable, missing]

end Interpreter

/-! ## What is stored -/

section Stored

variable {library : Library H} {first last : Interpreter H} {world reached : World H}
  {event : SlotEvent H} {events : List (SlotEvent H)} {name : String}

/-- What is stored under a name after an event. -/
def SlotEvent.stored (name : String) (held : Option (Slot H)) : SlotEvent H → Option (Slot H)
  | registered slot callback => if slot = name then some (.function callback) else held
  | removed slot => if slot = name then none else held
  | _ => held

/-- One event stores what it says, and nothing else. -/
theorem SlotStep.global?_eq (step : SlotStep library first world event last reached)
    (name : String) : last.global? name = event.stored name (first.global? name) := by
  cases step with
  | @register _ _ _ slot registration callback done built =>
      obtain ⟨_, stored, same, rfl⟩ := Interpreter.register_ok_iff.mp (congrArg Prod.fst done)
      cases built.symm.trans same
      rw [SlotEvent.stored]
      split
      · rename_i here
        rw [here]
        exact Table.get?_set_self _ _ _
      · rename_i elsewhere
        exact Table.get?_set_of_ne (Ne.symm elsewhere)
  | refuse failed =>
      rw [Interpreter.eq_of_register_error (congrArg Prod.fst failed)]
      rfl
  | remove slot =>
      rw [SlotEvent.stored]
      split
      · rename_i here
        rw [here]
        exact Table.get?_erase_self _ _
      · rename_i elsewhere
        exact Table.get?_erase_of_ne (Ne.symm elsewhere)
  | call called => exact congrArg (·.get? name) (Interpreter.globals_of_call called)
  | callGlobal called => exact congrArg (·.get? name) (Interpreter.globals_of_callGlobal called)
  | host act => rfl

/-- A run stores what its events say, one after another. -/
theorem SlotRun.global?_eq (run : SlotRun library first world events last reached)
    (name : String) :
    last.global? name = events.foldl (SlotEvent.stored name) (first.global? name) := by
  induction run with
  | nil interpreter world => rfl
  | cons step rest ih => rw [ih, List.foldl_cons, step.global?_eq name]

/-- Events that do not concern a name leave what is stored there. -/
theorem SlotEvent.stored_of_not_concerns (elsewhere : ¬ event.Concerns name)
    (held : Option (Slot H)) : event.stored name held = held := by
  cases event with
  | registered slot callback =>
      refine if_neg fun here => elsewhere (.inl ⟨callback, by rw [here]⟩)
  | removed slot => exact if_neg fun here => elsewhere (.inr (by rw [here]))
  | _ => rfl

theorem foldl_stored_of_not_concerns (elsewhere : ∀ event ∈ events, ¬ event.Concerns name)
    (held : Option (Slot H)) : events.foldl (SlotEvent.stored name) held = held := by
  induction events with
  | nil => rfl
  | cons event events ih =>
      rw [List.foldl_cons, SlotEvent.stored_of_not_concerns (elsewhere event List.mem_cons_self)]
      exact ih fun event member => elsewhere event (List.mem_cons_of_mem _ member)

/-- The callback registered last is stored. -/
theorem foldl_stored_of_registeredLast {callback : Callback H.toVocabulary}
    (latest : RegisteredLast events name callback) (held : Option (Slot H)) :
    events.foldl (SlotEvent.stored name) held = some (.function callback) := by
  obtain ⟨earlier, later, rfl, elsewhere⟩ := latest
  rw [List.foldl_append, List.foldl_cons, foldl_stored_of_not_concerns elsewhere]
  exact if_pos rfl

/-- When the last event that concerns a name removed it, nothing is stored. -/
theorem foldl_stored_of_removed (concerned : ∃ event ∈ events, event.Concerns name)
    (removed : ∀ callback, ¬ RegisteredLast events name callback) (held : Option (Slot H)) :
    events.foldl (SlotEvent.stored name) held = none := by
  induction events generalizing held with
  | nil => simp at concerned
  | cons event events ih =>
      by_cases concernedLater : ∃ event ∈ events, event.Concerns name
      · refine ih concernedLater (fun callback ⟨earlier, later, same, elsewhere⟩ => ?_) _
        exact removed callback ⟨event :: earlier, later, by rw [same]; rfl, elsewhere⟩
      · -- the first event is the last that concerns the name
        have elsewhere : ∀ event ∈ events, ¬ event.Concerns name :=
          fun event member concerns => concernedLater ⟨event, member, concerns⟩
        rw [List.foldl_cons, foldl_stored_of_not_concerns elsewhere]
        obtain ⟨found, member, concerns⟩ := concerned
        rcases List.mem_cons.mp member with rfl | member
        · rcases concerns with ⟨callback, rfl⟩ | rfl
          · exact absurd ⟨[], events, rfl, elsewhere⟩ (removed callback)
          · exact if_pos rfl
        · exact absurd concerns (elsewhere found member)

end Stored

/-- What holds of the slots of an interpreter after some events. -/
structure SlotsAfter (library : Library H) (start : Interpreter H) (events : List (SlotEvent H))
    (last : Interpreter H) (world : World H) : Prop where
  /-- Under a name is the callback that was registered last, and this is what a call by name
  calls. -/
  latest : ∀ name callback, RegisteredLast events name callback →
    last.global? name = some (.function callback) ∧
      ∀ depth arguments, last.callGlobal library depth name arguments world =
        last.call library depth callback arguments world
  /-- Under a name that was removed since is nothing. -/
  removed : ∀ name, (∃ event ∈ events, event.Concerns name) →
    (∀ callback, ¬ RegisteredLast events name callback) → last.global? name = none
  /-- Under every other name is what was there at the start. -/
  untouched : ∀ name, (∀ event ∈ events, ¬ event.Concerns name) →
    last.global? name = start.global? name
  /-- A call by a name with nothing under it fails. -/
  unknown : ∀ name, last.global? name = none → ∀ depth arguments,
    last.callGlobal library depth name arguments world =
      some ((.error (.unknownGlobal name), last), world)
  /-- Calls change no slot. -/
  calls : ∀ outcome after reached, SlotStep library last world (.called outcome) after reached →
    after.globals = last.globals
  /-- A registration stores its callback or is refused. -/
  answers : ∀ name (registration : Registration H), ∃ event after,
    SlotStep library last world event after (registration.build library name world).2 ∧
      ((∃ callback, (registration.build library name world).1 = .ok callback ∧
        event = .registered name callback) ∨ ∃ error, event = .refused name error)
  /-- When it stores its callback, it changes the slot of that name and nothing else. -/
  registers : ∀ name callback after reached,
    SlotStep library last world (.registered name callback) after reached →
      after = { last with globals := after.globals } ∧
        after.global? name = some (.function callback) ∧
        (∀ other, other ≠ name → after.global? other = last.global? other) ∧
        world.BuiltFrom reached
  /-- When it is refused, it changes nothing. -/
  refuses : ∀ name error after reached,
    SlotStep library last world (.refused name error) after reached →
      after = last ∧ world.BuiltFrom reached
  /-- It is refused with an error that names the slot when its bundle is empty, however often it
  was deferred. -/
  empty : ∀ name (registration : Registration H) item, registration.item? = some item →
    (item.core = .overloads {} → (last.register library name registration world).1 =
        (.error (.emptyOverloads name), last)) ∧
      (item.core = .property {} → (last.register library name registration world).1 =
        (.error (.emptyAccessors name), last))
  /-- It is refused for want of a name exactly when the name is empty and its callback can be
  built. -/
  unnamed : ∀ name (registration : Registration H),
    (last.register library name registration world).1.1 = .error .emptyName ↔
      name = "" ∧ ∃ callback, (registration.build library name world).1 = .ok callback

/-- Every registration can be tried. -/
theorem SlotStep.exists_register (library : Library H) (interpreter : Interpreter H)
    (world : World H) (name : String) (registration : Registration H) :
    ∃ event after, SlotStep library interpreter world event after
      (registration.build library name world).2 ∧
        ((∃ callback, (registration.build library name world).1 = .ok callback ∧
          event = .registered name callback) ∨ ∃ error, event = .refused name error) := by
  have world_eq : (interpreter.register library name registration world).2 =
      (registration.build library name world).2 := by
    rw [Interpreter.register_eq]
  cases tried : (interpreter.register library name registration world).1 with
  | mk outcome after =>
      cases outcome with
      | ok done =>
          obtain ⟨_, callback, built, _⟩ := Interpreter.register_ok_iff.mp tried
          exact ⟨_, after, .register (Prod.ext tried world_eq) built, .inl ⟨callback, built, rfl⟩⟩
      | error error => exact ⟨_, after, .refuse (Prod.ext tried world_eq), .inr ⟨error, rfl⟩⟩

/-- **The last writer wins.**  After any sequence of registrations, removals and calls, under
each name is the callback that was registered there last and not removed since; a registration
that fails has changed nothing, and tells what was empty or missing. -/
theorem globalSlots_run {library : Library H} {start last : Interpreter H} {world reached : World H}
    {events : List (SlotEvent H)} (run : SlotRun library start world events last reached) :
    SlotsAfter library start events last reached where
  latest name callback latest := by
    have stored : last.global? name = some (.function callback) := by
      rw [run.global?_eq, foldl_stored_of_registeredLast latest]
    exact ⟨stored, fun depth arguments => Interpreter.callGlobal_of_function stored⟩
  removed name concerned removed := by
    rw [run.global?_eq, foldl_stored_of_removed concerned removed]
  untouched name elsewhere := by
    rw [run.global?_eq, foldl_stored_of_not_concerns elsewhere]
  unknown name missing depth arguments := Interpreter.callGlobal_of_none missing
  calls outcome after later step := by
    cases step with
    | call called => exact Interpreter.globals_of_call called
    | callGlobal called => exact Interpreter.globals_of_callGlobal called
  answers name registration := SlotStep.exists_register library last reached name registration
  registers name callback after later step := by
    have stored := step.global?_eq
    obtain ⟨same, builds⟩ : after = { last with globals := after.globals } ∧
        reached.BuiltFrom later := by
      cases step with
      | register done built =>
          obtain ⟨_, _, _, rfl⟩ := Interpreter.register_ok_iff.mp (congrArg Prod.fst done)
          exact ⟨rfl, Interpreter.builtFrom_of_register done⟩
    refine ⟨same, ?_, fun other different => ?_, builds⟩
    · rw [stored]
      exact if_pos rfl
    · rw [stored]
      exact if_neg different.symm
  refuses name error after later step := by
    cases step with
    | refuse failed =>
        exact ⟨Interpreter.eq_of_register_error (congrArg Prod.fst failed),
          Interpreter.builtFrom_of_register failed⟩
  empty name registration item asked := by
    constructor
    · intro core
      exact Interpreter.register_empty asked (by rw [Installable.failure?, core]) last reached
    · intro core
      exact Interpreter.register_empty asked (by rw [Installable.failure?, core]) last reached
  unnamed name registration := Interpreter.register_emptyName_iff

namespace Sample

/-- A callback as it is built in a world with some closures. -/
def tagged (closures : Nat) (tag : Tagged) : Callback vocabulary :=
  .closure closures (.function (.tag tag 1))

/-- Its registration. -/
def tagging (tag : Tagged) : Registration host := .function (FunctionName.tag tag 1)

/-- An empty overload set that was deferred twice. -/
def deferredTwice : Registration host :=
  .deferred ⟨"FunctionArgs", .deferred "OverloadSet" (.overloads {})⟩

/-- Two names are filled, the first of them again; an empty set that was deferred twice and a
callback for no name are refused; and the second name is removed. -/
def slotEvents : List (SlotEvent host) :=
  [.registered "first" (tagged 0 .int), .registered "second" (tagged 1 .int),
    .registered "first" (tagged 2 .text), .refused "third" (.emptyOverloads "third"),
    .refused "" .emptyName, .removed "second"]

/-- The interpreter with callbacks under names. -/
def slotsOf (entries : List (String × Callback vocabulary)) : Interpreter host :=
  { globals := ⟨entries.map fun (name, callback) => (name, .function callback)⟩ }

/-- The world with some closures. -/
def closed (closures : Nat) : World host := { memory := {}, closures }

theorem slotRun_events :
    SlotRun (Session.library #[]) {} (closed 0) slotEvents (slotsOf [("first", tagged 2 .text)])
      (closed 4) := by
  have first : Interpreter.register {} (Session.library #[]) "first" (tagging .int) (closed 0) =
      ((.ok (), slotsOf [("first", tagged 0 .int)]), closed 1) := rfl
  have second : Interpreter.register (slotsOf [("first", tagged 0 .int)]) (Session.library #[])
      "second" (tagging .int) (closed 1) =
      ((.ok (), slotsOf [("first", tagged 0 .int), ("second", tagged 1 .int)]), closed 2) := rfl
  let both := slotsOf [("first", tagged 2 .text), ("second", tagged 1 .int)]
  have again : Interpreter.register (slotsOf [("first", tagged 0 .int), ("second", tagged 1 .int)])
      (Session.library #[]) "first" (tagging .text) (closed 2) = ((.ok (), both), closed 3) := rfl
  have empty : both.register (Session.library #[]) "third" deferredTwice (closed 3) =
      ((.error (.emptyOverloads "third"), both), closed 3) := rfl
  have unnamed : both.register (Session.library #[]) "" (tagging .int) (closed 3) =
      ((.error .emptyName, both), closed 4) := rfl
  exact .cons (.register first rfl) <| .cons (.register second rfl) <|
    .cons (.register again rfl) <| .cons (.refuse empty) <| .cons (.refuse unnamed) <|
    .cons (.remove both (closed 4) "second") <| .nil _ _

theorem globalSlots_run_events :
    SlotRun (Session.library #[]) {} (closed 0) slotEvents (slotsOf [("first", tagged 2 .text)])
        (closed 4) ∧
      SlotsAfter (Session.library #[]) {} slotEvents (slotsOf [("first", tagged 2 .text)])
        (closed 4) :=
  ⟨slotRun_events, globalSlots_run slotRun_events⟩

end Sample

end HostCall
