import HostCall.Installable
import HostCall.Interpreter

/-!
# Registration

A registration builds one callback and stores it in a named global slot of an
interpreter, in the place of what was there.  Nothing is stored when the callback
cannot be built or the slot has no name; either way the registration says how it
went and returns the interpreter that it leaves.

An error about an empty bundle is raised before the slot's name is known; a
registration fills the name in.  Installing a finished callback can only fail for
want of a name.
-/

set_option autoImplicit false

namespace HostCall

variable {H : Host}

/-- The ways to fill a slot. -/
inductive Registration (H : Host)
  /-- A finished callback. -/
  | install (callback : Callback H.toVocabulary)
  /-- Anything installable. -/
  | set (item : Installable H)
  | raw (name : H.Raw)
  | function (name : H.Function)
  | method (name : H.Method)
  | methodBound (name : H.Method) (source : ReceiverSource H)
  | field (name : H.Field)
  | fieldBound (name : H.Field) (source : ReceiverSource H)
  | overloads (set : Overloads H)
  | property (pair : Accessors H)
  | constructors (list : Makers H)
  | deferred (content : Deferred H)

/-- The callback that a registration builds for a slot. -/
def Registration.build (library : Library H) (registration : Registration H) (slot : String) :
    Building H (Except RegistrationError (Callback H.toVocabulary)) :=
  let naming (built : Building H (Except RegistrationError (Callback H.toVocabulary))) :=
    (·.mapError (·.named slot)) <$> built
  match registration with
  | .install callback => pure (.ok callback)
  | .set item => naming (item.synthesize library)
  | .raw name => pure (.ok (.direct name))
  | .function name => Except.ok <$> Callback.function name
  | .method name => Except.ok <$> Callback.method name
  | .methodBound name source => Except.ok <$> Callback.methodBound name source
  | .field name => Except.ok <$> Callback.field name
  | .fieldBound name source => Except.ok <$> Callback.fieldBound name source
  | .overloads bundle => naming (bundle.build library)
  | .property pair => naming (pair.build library)
  | .constructors list => list.build library
  | .deferred content => naming (content.synthesize library)

namespace Interpreter

/-- A callback is put in a slot, which must have a name.  The interpreter is returned
beside the outcome, as it is after a failure too. -/
def install (interpreter : Interpreter H) (slot : String) (callback : Callback H.toVocabulary) :
    Except RegistrationError Unit × Interpreter H :=
  if slot = "" then (.error .emptyName, interpreter)
  else (.ok (), interpreter.setGlobal slot (.function callback))

/-- A registration builds its callback and installs it.  The interpreter is returned
beside the outcome. -/
def register (interpreter : Interpreter H) (library : Library H) (slot : String)
    (registration : Registration H) :
    Building H (Except RegistrationError Unit × Interpreter H) := do
  match ← registration.build library slot with
  | .error error => return (.error error, interpreter)
  | .ok callback => return interpreter.install slot callback

/-- Installing succeeds exactly when the slot has a name, and then the callback is in
it. -/
theorem install_eq_ok_iff {interpreter after : Interpreter H} {slot : String}
    {callback : Callback H.toVocabulary} :
    interpreter.install slot callback = (.ok (), after) ↔
      slot ≠ "" ∧ after = interpreter.setGlobal slot (.function callback) := by
  unfold install
  split
  · rename_i unnamed
    simp [unnamed]
  · rename_i named
    simp [named, eq_comm]

/-- Installing fails only for want of a name, and then it changes nothing. -/
theorem install_eq_error_iff {interpreter after : Interpreter H} {slot : String}
    {callback : Callback H.toVocabulary} {error : RegistrationError} :
    interpreter.install slot callback = (.error error, after) ↔
      slot = "" ∧ error = .emptyName ∧ after = interpreter := by
  unfold install
  split
  · rename_i unnamed
    simp [unnamed, eq_comm]
  · rename_i named
    simp [named]

/-- A callback that was installed is found in its slot. -/
theorem global?_install {interpreter installed : Interpreter H} {slot : String}
    {callback : Callback H.toVocabulary}
    (done : interpreter.install slot callback = (.ok (), installed)) :
    installed.global? slot = some (.function callback) := by
  obtain ⟨_, rfl⟩ := install_eq_ok_iff.mp done
  exact Table.get?_set_self _ _ _

/-- Installing a callback changes no other slot. -/
theorem global?_install_of_ne {interpreter installed : Interpreter H} {slot other : String}
    {callback : Callback H.toVocabulary}
    (done : interpreter.install slot callback = (.ok (), installed)) (different : other ≠ slot) :
    installed.global? other = interpreter.global? other := by
  obtain ⟨_, rfl⟩ := install_eq_ok_iff.mp done
  exact Table.get?_set_of_ne different

end Interpreter

end HostCall
