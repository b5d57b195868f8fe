import HostCall.Arity
import HostCall.Decimal.Layout

/-!
# What can go wrong

Three kinds of failure, each a cause with its data and a message in words.

* `ConversionError`: one slot does not hold what was asked of it.
* `CallError`: a call failed; a conversion failure passes through unchanged, and
  a `Mismatch` says that no candidate of a router took the arguments.
* `RegistrationError`: a callback could not be built or installed.  A record that
  turns out empty does not know the slot it was meant for, and
  `RegistrationError.named` fills that name in once, never over another.
-/

set_option autoImplicit false

namespace HostCall

/-! ## Conversions -/

/-- Why a slot could not be read as a type. -/
inductive ConversionError
  | typeMismatch (expected actual : String)
  | nullHandle (target : String)
  | integerOverflow (value : Int64) (target : String)
  | floatOverflow (value : Float) (target : String)
  | notCopyable (actual : String)

/-- The failure in words. -/
def ConversionError.message : ConversionError → String
  | .typeMismatch expected actual => "type mismatch: expected " ++ expected ++ ", got " ++ actual
  | .nullHandle target => "null handle cannot be converted to " ++ target
  | .integerOverflow value target =>
      "integer overflow: value " ++ toString value.toInt ++ " does not fit in " ++ target
  | .floatOverflow value target =>
      "float conversion error: value " ++ Decimal.Layout.plain.float value ++
        " cannot be represented as " ++ target
  | .notCopyable actual => actual ++ " value cannot be copied out of its slot"

/-! ## Calls -/

/-- No candidate took the arguments: how many there were, the range that each
candidate declares, and which candidates took the count but not the types. -/
structure Mismatch where
  attempted : Nat
  candidates : List Arity
  rejected : List Nat
deriving DecidableEq, Repr

/-- The elements one after another, with a comma between neighbours. -/
def commaSeparated (elements : List String) : String := ", ".intercalate elements

/-- The mismatch in words; candidates rejected by type are named only when there
are some. -/
def Mismatch.message (mismatch : Mismatch) : String :=
  "no matching overload for " ++ toString mismatch.attempted ++
    " argument(s); candidate arities: [" ++
    commaSeparated (mismatch.candidates.map Arity.text) ++ "]" ++
    match mismatch.rejected with
    | [] => ""
    | rejected =>
        "; candidates [" ++ commaSeparated (rejected.map toString) ++
          "] matched the count but rejected the argument types"

/-- Why a call failed. -/
inductive CallError
  | conversion (cause : ConversionError)
  | wrongCount (expected : Arity) (actual : Nat)
  | noArgument (index count : Nat)
  | noCandidate (mismatch : Mismatch)
  | invalidReceiver (reason : String)
  | danglingReceiver (type : String)
  | receiverBorrowed (type : String)
  | staleHandle (index : UInt32)
  | overclaim (reported pushed : Nat)
  | stackOverflow (depth limit : Nat)
  | unknownGlobal (name : String)
  | notCallable (name actual : String)
  | raised (text : String)
  | other (text : String)

/-- The failure in words. -/
def CallError.message : CallError → String
  | .conversion cause => "conversion error: " ++ cause.message
  | .wrongCount expected actual =>
      "wrong number of arguments: expected " ++ expected.text ++ ", got " ++ toString actual
  | .noArgument index count =>
      "argument index " ++ toString index ++ " out of bounds (function has " ++
        toString count ++ " arguments)"
  | .noCandidate mismatch => mismatch.message
  | .invalidReceiver reason => "invalid receiver: " ++ reason
  | .danglingReceiver type => "bound receiver of type " ++ type ++ " has been dropped"
  | .receiverBorrowed type => "bound receiver of type " ++ type ++ " is already borrowed"
  | .staleHandle index =>
      "stale object handle: object at index " ++ toString index.toNat ++ " has been freed"
  | .overclaim reported pushed =>
      "callback reported " ++ toString reported ++ " result(s) but pushed " ++ toString pushed
  | .stackOverflow depth limit =>
      "stack overflow: depth " ++ toString depth ++ " exceeds limit " ++ toString limit
  | .unknownGlobal name => "no global named '" ++ name ++ "'"
  | .notCallable name actual => "global '" ++ name ++ "' is a " ++ actual ++ ", not a function"
  | .raised text => text
  | .other text => "native error: " ++ text

/-! ## Registration -/

/-- Why a callback could not be built or installed. -/
inductive RegistrationError
  | emptyAccessors (name : String)
  | emptyOverloads (name : String)
  | emptyMakers (type : String)
  | emptyName
deriving DecidableEq, Repr

namespace RegistrationError

/-- The failure in words. -/
def message : RegistrationError → String
  | .emptyAccessors name => "property '" ++ name ++ "' has neither a read nor a write accessor"
  | .emptyOverloads name => "overload set '" ++ name ++ "' has no candidates"
  | .emptyMakers type => "constructor list for " ++ type ++ " is empty"
  | .emptyName => "slot name cannot be empty"

/-- The failure with the slot's name filled in where a name is still missing. -/
def named (error : RegistrationError) (slot : String) : RegistrationError :=
  match error with
  | .emptyAccessors name => .emptyAccessors (if name = "" then slot else name)
  | .emptyOverloads name => .emptyOverloads (if name = "" then slot else name)
  | other => other

/-- A name once filled in stays. -/
theorem named_named {error : RegistrationError} {slot later : String} (filled : slot ≠ "") :
    (error.named slot).named later = error.named slot := by
  cases error <;> simp only [named]
  all_goals split <;> simp_all

end RegistrationError

end HostCall
