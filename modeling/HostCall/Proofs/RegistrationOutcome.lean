import HostCall.Registration

/-!
# What a registration comes to

A registration builds one callback for a slot.  It cannot be built when a bundle in it is
empty, however often the bundle was deferred, and then the error names the slot
(`Registration.build_error_iff`).  Whether or not it can be built, building counts closures,
copies receivers, and does nothing else to the world (`World.BuiltFrom.build`).

What was built is stored if the slot has a name, and the registration fails for want of a name
only when nothing else was wrong (`Interpreter.register_error_iff`).  A registration that fails
leaves the interpreter as it was (`Interpreter.eq_of_register_error`).
-/

set_option autoImplicit false

namespace HostCall

variable {H : Host}

/-! ## What cannot be built -/

/-- What is to be synthesized, when nothing is deferred any more. -/
def Installable.core : Installable H → Installable H
  | deferred _ content => content.core
  | item => item

/-- Why a callback cannot be built for a slot: what it is to be built from is empty. -/
def Installable.failure? (slot : String) (item : Installable H) : Option RegistrationError :=
  match item.core with
  | .overloads ⟨[]⟩ => some (.emptyOverloads slot)
  | .property ⟨none, none⟩ => some (.emptyAccessors slot)
  | .constructors ⟨receiver, []⟩ => some (.emptyMakers (H.receiverName receiver))
  | _ => none

namespace Registration

/-- What a registration synthesizes, unless it wraps a callable. -/
def item? : Registration H → Option (Installable H)
  | set item => some item
  | overloads bundle => some (.overloads bundle)
  | property pair => some (.property pair)
  | constructors list => some (.constructors list)
  | deferred content => some content.content
  | _ => none

/-- Why the callback of a registration cannot be built. -/
def failure? (slot : String) (registration : Registration H) : Option RegistrationError :=
  registration.item?.bind (·.failure? slot)

end Registration

section Building

variable {library : Library H} {slot : String} {world : World H} {error : RegistrationError}

/-- Something that was built failed with nothing. -/
theorem Registration.ok_eq_error_iff {Built : Type} {built : Built} :
    (Except.ok built : Except RegistrationError Built) = .error error ↔ none = some error := by
  simp only [reduceCtorEq]

/-- Something that was not built failed with the reason it was not. -/
theorem Registration.error_eq_error_iff {Built : Type} {reason : RegistrationError} :
    (Except.error reason : Except RegistrationError Built) = .error error ↔
      some reason = some error := by
  rw [Except.error.injEq, Option.some.injEq]

open Registration (ok_eq_error_iff error_eq_error_iff)

/-- An item cannot be synthesized exactly when its core is an empty bundle, and then the error
names the slot. -/
theorem Installable.synthesize_error_iff (item : Installable H) :
    (item.synthesize library world).1.mapError (·.named slot) = .error error ↔
      item.failure? slot = some error := by
  induction item with
  | deferred description content ih => exact ih
  | overloads set =>
      obtain ⟨_ | ⟨first, _ | ⟨second, rest⟩⟩⟩ := set
      · exact error_eq_error_iff
      all_goals exact ok_eq_error_iff
  | property pair =>
      obtain ⟨_ | read, _ | write⟩ := pair
      · exact error_eq_error_iff
      all_goals exact ok_eq_error_iff
  | constructors list =>
      obtain ⟨receiver, _ | ⟨first, _ | ⟨second, rest⟩⟩⟩ := list
      · exact error_eq_error_iff
      all_goals exact ok_eq_error_iff
  | _ => exact ok_eq_error_iff

/-- The callback of a registration cannot be built exactly when an item in it cannot. -/
theorem Registration.build_error_iff {registration : Registration H} :
    (registration.build library slot world).1 = .error error ↔
      registration.failure? slot = some error := by
  cases registration with
  | set item => exact item.synthesize_error_iff
  | overloads bundle => exact (Installable.overloads bundle).synthesize_error_iff
  | property pair => exact (Installable.property pair).synthesize_error_iff
  | deferred content => exact content.content.synthesize_error_iff
  | constructors list =>
      obtain ⟨receiver, _ | ⟨first, _ | ⟨second, rest⟩⟩⟩ := list
      · exact error_eq_error_iff
      all_goals exact ok_eq_error_iff
  | _ => exact ok_eq_error_iff

/-- It can be built exactly when nothing in it is empty. -/
theorem Registration.build_ok_iff {registration : Registration H} :
    (∃ callback, (registration.build library slot world).1 = .ok callback) ↔
      registration.failure? slot = none := by
  cases built : (registration.build library slot world).1 with
  | error error =>
      rw [Registration.build_error_iff.mp built]
      simp
  | ok callback =>
      refine iff_of_true ⟨callback, rfl⟩ ?_
      rw [Option.eq_none_iff_forall_ne_some]
      intro error failed
      cases built.symm.trans (Registration.build_error_iff.mpr failed)

/-- Nothing that cannot be built is blamed on a missing name. -/
theorem Registration.failure_ne_emptyName (registration : Registration H) (slot : String) :
    registration.failure? slot ≠ some .emptyName := by
  intro failed
  obtain ⟨item, _, failed⟩ := Option.bind_eq_some_iff.mp failed
  rw [Installable.failure?] at failed
  split at failed <;> cases failed

end Building

/-! ## What building does to the world -/

/-- More closures were counted and more receivers copied, and nothing else was done. -/
def World.BuiltFrom (before after : World H) : Prop :=
  ∃ closures copies, after = { before with closures, cells := before.cells ++ copies }

namespace World.BuiltFrom

variable {library : Library H} {world : World H}

theorem refl (world : World H) : world.BuiltFrom world :=
  ⟨world.closures, #[], by rw [Array.append_empty]⟩

theorem newClosure (world : World H) : world.BuiltFrom world.newClosure.1 :=
  ⟨world.closures + 1, #[], by rw [Array.append_empty]; rfl⟩

/-- A member is bound to a copy of a value, or to what the source refers to. -/
theorem bind (source : ReceiverSource H) (world : World H) :
    world.BuiltFrom (source.bind world).2.newClosure.1 := by
  cases source with
  | value content =>
      refine ⟨world.closures + 1, #[{ content }], ?_⟩
      rw [← Array.push_eq_append]
      rfl
  | _ => exact newClosure world

theorem overloads (set : Overloads H) : world.BuiltFrom (set.build library world).2 := by
  obtain ⟨_ | ⟨first, _ | ⟨second, rest⟩⟩⟩ := set
  · exact refl world
  · exact refl world
  · exact newClosure world

theorem accessors (pair : Accessors H) : world.BuiltFrom (pair.build library world).2 := by
  obtain ⟨_ | read, _ | write⟩ := pair
  · exact refl world
  · exact refl world
  · exact refl world
  · exact newClosure world

theorem makers (list : Makers H) : world.BuiltFrom (list.build library world).2 := by
  obtain ⟨receiver, _ | ⟨first, _ | ⟨second, rest⟩⟩⟩ := list
  · exact refl world
  · exact refl world
  · exact newClosure world

theorem synthesize (item : Installable H) :
    world.BuiltFrom (item.synthesize library world).2 := by
  induction item with
  | callback finished => exact refl world
  | function name | method name | field name => exact newClosure world
  | boundMethod name receiver => exact bind (.bound receiver) world
  | overloads set => exact overloads set
  | property pair => exact accessors pair
  | constructors list => exact makers list
  | deferred description content ih => exact ih

/-- Whether or not a registration can build its callback, it does no more than that. -/
theorem build (registration : Registration H) (slot : String) :
    world.BuiltFrom (registration.build library slot world).2 := by
  cases registration with
  | install finished | raw name => exact refl world
  | function name | method name | field name => exact newClosure world
  | methodBound name source => exact bind source world
  | fieldBound name source => exact bind source world
  | set item => exact synthesize item
  | overloads bundle => exact overloads bundle
  | property pair => exact accessors pair
  | constructors list => exact makers list
  | deferred content => exact synthesize content.content

end World.BuiltFrom

/-! ## What a registration does -/

namespace Interpreter

section Registering

variable {library : Library H} {interpreter after : Interpreter H} {slot : String}
  {registration : Registration H} {world : World H} {error : RegistrationError}

/-- A registration builds, and then installs what it has built. -/
theorem register_eq (interpreter : Interpreter H) (library : Library H) (slot : String)
    (registration : Registration H) (world : World H) :
    interpreter.register library slot registration world =
      (match (registration.build library slot world).1 with
        | .error error => (.error error, interpreter)
        | .ok callback => interpreter.install slot callback,
        (registration.build library slot world).2) := by
  rw [register, bind, Monad.toBind]
  simp only [StateT.instMonad, StateT.bind]
  rcases registration.build library slot world with ⟨_ | _, _⟩ <;> rfl

/-- A registration succeeds exactly when the slot has a name and its callback can be built, and
then stores the callback in the slot. -/
theorem register_ok_iff :
    (interpreter.register library slot registration world).1 = (.ok (), after) ↔
      slot ≠ "" ∧ ∃ callback, (registration.build library slot world).1 = .ok callback ∧
        after = interpreter.setGlobal slot (.function callback) := by
  rw [register_eq]
  cases (registration.build library slot world).1 with
  | error error => simp
  | ok callback =>
      dsimp only
      rw [install_eq_ok_iff]
      simp

/-- A registration fails because something in it is empty, or else for want of a name, and the
interpreter that it leaves is the one it found. -/
theorem register_error_iff :
    (interpreter.register library slot registration world).1 = (.error error, after) ↔
      (registration.failure? slot = some error ∨
        registration.failure? slot = none ∧ slot = "" ∧ error = .emptyName) ∧
      after = interpreter := by
  rw [register_eq]
  cases built : (registration.build library slot world).1 with
  | error found =>
      rw [Registration.build_error_iff.mp built]
      simp [eq_comm]
  | ok callback =>
      rw [Registration.build_ok_iff.mp ⟨callback, built⟩]
      dsimp only
      rw [install_eq_error_iff]
      simp [and_assoc]

/-- **A registration that fails changes nothing.** -/
theorem eq_of_register_error
    (failed : (interpreter.register library slot registration world).1 = (.error error, after)) :
    after = interpreter :=
  (register_error_iff.mp failed).2

/-- Why a registration fails does not depend on the interpreter or the world. -/
theorem outcome_register_error_iff :
    (interpreter.register library slot registration world).1.1 = .error error ↔
      registration.failure? slot = some error ∨
        registration.failure? slot = none ∧ slot = "" ∧ error = .emptyName := by
  constructor
  · intro failed
    exact (register_error_iff.mp (Prod.ext failed rfl)).1
  · intro reason
    rw [register_error_iff.mpr ⟨reason, rfl⟩]

/-- To the world a registration does what building does. -/
theorem builtFrom_of_register {reached : World H}
    {tried : Except RegistrationError Unit × Interpreter H}
    (done : interpreter.register library slot registration world = (tried, reached)) :
    world.BuiltFrom reached := by
  rw [register_eq] at done
  cases done
  exact .build registration slot

/-- The error of a missing name is given exactly for the empty name, when all else is well. -/
theorem register_emptyName_iff :
    (interpreter.register library slot registration world).1.1 = .error .emptyName ↔
      slot = "" ∧ ∃ callback, (registration.build library slot world).1 = .ok callback := by
  rw [outcome_register_error_iff, Registration.build_ok_iff]
  simp [registration.failure_ne_emptyName slot, and_comm]

/-- An empty bundle is reported under the name of the slot. -/
theorem register_empty {item : Installable H} (asked : registration.item? = some item)
    (failed : item.failure? slot = some error) (interpreter : Interpreter H) (world : World H) :
    (interpreter.register library slot registration world).1 = (.error error, interpreter) := by
  refine register_error_iff.mpr ⟨.inl ?_, rfl⟩
  rw [Registration.failure?, asked]
  exact failed

end Registering

end Interpreter

end HostCall
