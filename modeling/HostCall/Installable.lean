import HostCall.Bundle

/-!
# Whatever a slot can be filled with

Anything that can become one callback can be installed: a finished callback, a
name of the vocabulary, a bundle, or a deferred callable.  Making the callback is
synthesis (`Installable.synthesize`).

A deferred callable is captured now and synthesized when it is installed.  A
method that is deferred with a receiver has its receiver bound at once, so a
reference keeps the target it had when it was captured.
-/

set_option autoImplicit false

namespace HostCall

variable {H : Host}

/-- What can become a callback. -/
inductive Installable (H : Host)
  | callback (finished : Callback H.toVocabulary)
  | function (name : H.Function)
  | method (name : H.Method)
  | boundMethod (name : H.Method) (receiver : FixedReceiver)
  | field (name : H.Field)
  | overloads (set : Overloads H)
  | property (pair : Accessors H)
  | constructors (list : Makers H)
  | deferred (description : String) (content : Installable H)

/-- The callback of an installable. -/
def Installable.synthesize (library : Library H) :
    Installable H → Building H (Except RegistrationError (Callback H.toVocabulary))
  | callback finished => pure (.ok finished)
  | function name => Except.ok <$> Callback.function name
  | method name => Except.ok <$> Callback.method name
  | boundMethod name receiver => Except.ok <$> Callback.methodBound name (.bound receiver)
  | field name => Except.ok <$> Callback.field name
  | overloads set => set.build library
  | property pair => pair.build library
  | constructors list => list.build library
  | deferred _ content => content.synthesize library

/-- A callable captured now and synthesized later. -/
structure Deferred (H : Host) where
  /-- The name of what was captured. -/
  description : String
  content : Installable H

namespace Deferred

/-- A method deferred with its receiver, which is bound now. -/
def bound (description : String) (name : H.Method) (source : ReceiverSource H) :
    Building H (Deferred H) := do
  let receiver ← source.bind
  return ⟨description, .boundMethod name receiver⟩

/-- The callback of a deferred callable. -/
def synthesize (library : Library H) (deferred : Deferred H) :
    Building H (Except RegistrationError (Callback H.toVocabulary)) :=
  deferred.content.synthesize library

/-- A deferred callable is installable in turn. -/
def toInstallable (deferred : Deferred H) : Installable H :=
  .deferred deferred.description deferred.content

/-- The record form of a deferred callable. -/
def debug (deferred : Deferred H) : String :=
  "FunctionArgs \x7b callable: " ++ Text.quoted deferred.description ++ " \x7d"

end Deferred

/-- The overload set with whatever an installable becomes, after the others. -/
def Overloads.add (library : Library H) (set : Overloads H) (item : Installable H) :
    Building H (Except RegistrationError (Overloads H)) := do
  return (← item.synthesize library).map set.push

end HostCall
