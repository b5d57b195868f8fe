import HostCall.Fault
import HostCall.Wrapping

/-!
# Several callbacks behind one slot

An overload set is a list of candidates, a property a way to read and a way to
write, and a constructor list a list of ways to make a receiver object.  Each
becomes one callback.  A bundle of several gets a router in front of them; a bundle
of one is that callback itself, with no router; and an empty bundle cannot be
built.
-/

set_option autoImplicit false

namespace HostCall

variable {H : Host}

/-! ## Overload sets -/

/-- Candidates for one slot, the earlier ones first. -/
structure Overloads (H : Host) where
  candidates : List (Callback H.toVocabulary) := []

namespace Overloads

/-- The set with one more candidate, after the others. -/
def push (set : Overloads H) (candidate : Callback H.toVocabulary) : Overloads H :=
  ⟨set.candidates ++ [candidate]⟩

/-- The set with more candidates, after the others. -/
def extend (set : Overloads H) (candidates : List (Callback H.toVocabulary)) :
    Overloads H :=
  ⟨set.candidates ++ candidates⟩

/-- The callback of the set, whose candidates mean what a library says. -/
def build (library : Library H) (set : Overloads H) :
    Building H (Except RegistrationError (Callback H.toVocabulary)) :=
  match set.candidates with
  | [] => pure (.error (.emptyOverloads ""))
  | [candidate] => pure (.ok candidate)
  | candidates => Except.ok <$> Callback.route library .overloaded candidates

end Overloads

/-! ## Properties -/

/-- Which halves of a property there are. -/
inductive Halves
  | readOnly
  | writeOnly
  | readWrite
deriving DecidableEq, Repr

/-- The written name of the halves. -/
def Halves.name : Halves → String
  | readOnly => "ReadOnly"
  | writeOnly => "WriteOnly"
  | readWrite => "ReadWrite"

/-- A way to read and a way to write. -/
structure Accessors (H : Host) where
  read : Option (Callback H.toVocabulary) := none
  write : Option (Callback H.toVocabulary) := none

namespace Accessors

/-- Which halves the pair has, if it has any. -/
def halves (pair : Accessors H) : Option Halves :=
  match pair.read, pair.write with
  | some _, some _ => some .readWrite
  | some _, none => some .readOnly
  | none, some _ => some .writeOnly
  | none, none => none

/-- The callback of the pair, whose halves mean what a library says. -/
def build (library : Library H) (pair : Accessors H) :
    Building H (Except RegistrationError (Callback H.toVocabulary)) :=
  match pair.read, pair.write with
  | some read, some write => Except.ok <$> Callback.route library .property [read, write]
  | some accessor, none | none, some accessor => pure (.ok accessor)
  | none, none => pure (.error (.emptyAccessors ""))

end Accessors

/-! ## Constructor lists -/

/-- Ways to make an object of one receiver type, the earlier ones first. -/
structure Makers (H : Host) where
  receiver : H.Receiver
  candidates : List (Callback H.toVocabulary) := []

namespace Makers

/-- The list with one more constructor, after the others. -/
def push (list : Makers H) (name : H.Constructor) : Building H (Makers H) := do
  let candidate ← Callback.construct name
  return { list with candidates := list.candidates ++ [candidate] }

/-- The list with a callback that pushes the new object itself, after the others. -/
def pushFactory (list : Makers H) (factory : Callback H.toVocabulary) :
    Makers H :=
  { list with candidates := list.candidates ++ [factory] }

/-- The callback of the list, whose candidates mean what a library says. -/
def build (library : Library H) (list : Makers H) :
    Building H (Except RegistrationError (Callback H.toVocabulary)) :=
  match list.candidates with
  | [] => pure (.error (.emptyMakers (H.receiverName list.receiver)))
  | [candidate] => pure (.ok candidate)
  | candidates => Except.ok <$> Callback.route library .constructor candidates

end Makers

/-! ## Record forms -/

/-- The record form of an overload set, given that of a callback. -/
def Overloads.debug (set : Overloads H) (written : Callback H.toVocabulary → String) : String :=
  "OverloadSet \x7b candidates: [" ++ commaSeparated (set.candidates.map written) ++ "] \x7d"

/-- The record form of a property, given that of a callback. -/
def Accessors.debug (pair : Accessors H) (written : Callback H.toVocabulary → String) :
    String :=
  let half : Option (Callback H.toVocabulary) → String
    | some callback => "Some(" ++ written callback ++ ")"
    | none => "None"
  "PropertyPair \x7b read: " ++ half pair.read ++ ", write: " ++ half pair.write ++ " \x7d"

end HostCall
