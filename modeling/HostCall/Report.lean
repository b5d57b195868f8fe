import HostCall.Fault

/-!
# Reports

What a session shows is a report: a tree of numbers, texts, truth values, lists
and named parts.  A double is shown by its bits, so that nothing is rounded, and
every value that is not a number by one word.
-/

set_option autoImplicit false

namespace HostCall

/-- Something shown. -/
inductive Report
  | nothing
  | truth (value : Bool)
  | number (value : Int)
  | text (value : String)
  | list (items : List Report)
  | parts (fields : List (String × Report))

namespace Report

instance : Inhabited Report := ⟨nothing⟩

/-- A natural number. -/
def natural (value : Nat) : Report := number value

/-- A part with its name. -/
def one (name : String) (content : Report) : Report := parts [(name, content)]

/-- Something that may be missing. -/
def optional {α : Type} (content : α → Report) : Option α → Report
  | some value => content value
  | none => nothing

/-- The report with further parts, after its own. -/
def extend (report : Report) (more : List (String × Report)) : Report :=
  match report with
  | parts fields => parts (fields ++ more)
  | other => other

/-- Sixteen hexadecimal digits of a word. -/
def hexadecimal (word : UInt64) : String :=
  let digits := Nat.toDigits 16 word.toNat
  String.ofList (List.replicate (16 - digits.length) '0' ++ digits)

/-- A double by its bits. -/
def float (value : Float) : Report :=
  text (if value.isNaN then "nan" else hexadecimal value.toBits)

/-- A range by its bounds. -/
def arity (range : Arity) : Report :=
  list [natural range.least, optional natural range.greatest]

/-! ## Failures -/

/-- The name of a conversion failure. -/
def conversionKind : ConversionError → String
  | .typeMismatch _ _ => "TypeMismatch"
  | .nullHandle _ => "NullHandle"
  | .integerOverflow _ _ => "IntegerOverflow"
  | .floatOverflow _ _ => "FloatConversion"
  | .notCopyable _ => "NotCloneable"

/-- The name of a call failure; a conversion failure adds its own. -/
def callKind : CallError → String
  | .conversion cause => "Conversion." ++ conversionKind cause
  | .wrongCount _ _ => "ArgumentCount"
  | .noArgument _ _ => "ArgumentIndexOutOfBounds"
  | .noCandidate _ => "Dispatch"
  | .invalidReceiver _ => "InvalidThis"
  | .danglingReceiver _ => "DanglingReceiver"
  | .receiverBorrowed _ => "ReceiverBorrowed"
  | .staleHandle _ => "StaleHandle"
  | .overclaim _ _ => "ResultCount"
  | .stackOverflow _ _ => "StackOverflow"
  | .unknownGlobal _ => "UnknownGlobal"
  | .notCallable _ _ => "NotCallable"
  | .raised _ => "Callback"
  | .other _ => "Other"

/-- The name of a registration failure. -/
def registrationKind : RegistrationError → String
  | .emptyAccessors _ => "EmptyProperty"
  | .emptyOverloads _ => "EmptyOverloadSet"
  | .emptyMakers _ => "EmptyConstructorList"
  | .emptyName => "EmptyName"

/-- A failure by its name and its words. -/
def failure (kind message : String) : Report :=
  parts [("error", text kind), ("message", text message)]

/-- A conversion failure. -/
def conversionFailure (error : ConversionError) : Report :=
  failure (conversionKind error) error.message

/-- A call failure; a mismatch also shows its counts and places. -/
def callFailure (error : CallError) : Report :=
  let shown := failure (callKind error) error.message
  match error with
  | .noCandidate mismatch =>
      shown.extend
        [("attempted", natural mismatch.attempted),
          ("candidates", list (mismatch.candidates.map arity)),
          ("rejected", list (mismatch.rejected.map natural))]
  | _ => shown

/-- A registration failure. -/
def registrationFailure (error : RegistrationError) : Report :=
  failure (registrationKind error) error.message

/-- An outcome: what succeeded under `ok`, or the failure. -/
def outcome {ε α : Type} (failed : ε → Report) (succeeded : α → Report) : Except ε α → Report
  | .ok value => one "ok" (succeeded value)
  | .error error => failed error

end Report

end HostCall
