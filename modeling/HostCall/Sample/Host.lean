import HostCall.Library
import HostCall.Report

/-!
# A sample host: what is called what

The sample host has six receiver types, some fifty free functions, methods and
fields of its receivers, constructors and a few callables that work on frames
themselves.  This module names them and says what a receiver holds; the modules
beside it say what the names mean.

Each name has a written form, and `ofText?` finds the name that is written so.
-/

set_option autoImplicit false

namespace HostCall.Sample

/-- The name whose written form is a text. -/
def ofText? {α : Type} (all : List α) (written : α → String) (text : String) : Option α :=
  all.find? (written · == text)

/-! ## Receiver types -/

/-- The receiver types. -/
inductive Receiver
  | counter | point | record | text | int32 | unit
deriving DecidableEq, Repr

/-- All receiver types. -/
def Receiver.all : List Receiver :=
  [.counter, .point, .record, .text, .int32, .unit]

/-- The written form of a receiver type. -/
def Receiver.written : Receiver → String
  | .counter => "Counter"
  | .point => "Point"
  | .record => "Record"
  | .text => "String"
  | .int32 => "i32"
  | .unit => "Unit"

/-- The full name of a receiver type. -/
def Receiver.fullName : Receiver → String
  | .text => "alloc::string::String"
  | .int32 => "i32"
  | other => "oracle::catalog::" ++ other.written

/-! ## Free functions -/

/-- The functions that capture nothing. -/
inductive PlainFunction
  | zero | unit | eat | neg | add | addThree | weightedSum | mix | sumSmall | describe | concat
  | length | greet | twoOptions | leadingOption | trailingOptions | divide | divideWithRest
  | positive | nested | three | four | sameInt8 | sameInt16 | sameInt32 | sameUInt8
  | sameUInt16 | sameUInt32 | sameUInt64 | sameSize | sameFloat32 | sameFloat | sameBool
  | sameText | sameHandle | sameFunction | sameSlot | sameOptionalUInt8 | sameOptionalSlot
  | sameOptionalHandle | largestUInt64 | textOfUInt64 | textOfSize | hostText | half
  | addFloat32 | slotTypeName | equalSlots | equalFunctions | functionInfo | runWith | runAlone
deriving DecidableEq, Repr

/-- All functions that capture nothing. -/
def PlainFunction.all : List PlainFunction :=
  [.zero, .unit, .eat, .neg, .add, .addThree, .weightedSum, .mix, .sumSmall, .describe,
    .concat, .length, .greet, .twoOptions, .leadingOption, .trailingOptions, .divide,
    .divideWithRest, .positive, .nested, .three, .four, .sameInt8, .sameInt16, .sameInt32,
    .sameUInt8, .sameUInt16, .sameUInt32, .sameUInt64, .sameSize, .sameFloat32, .sameFloat,
    .sameBool, .sameText, .sameHandle, .sameFunction, .sameSlot, .sameOptionalUInt8,
    .sameOptionalSlot, .sameOptionalHandle, .largestUInt64, .textOfUInt64, .textOfSize,
    .hostText, .half, .addFloat32, .slotTypeName, .equalSlots, .equalFunctions, .functionInfo,
    .runWith, .runAlone]

/-- The written form of a function. -/
def PlainFunction.written : PlainFunction → String
  | .zero => "zero"
  | .unit => "unit"
  | .eat => "eat"
  | .neg => "neg"
  | .add => "add"
  | .addThree => "add3"
  | .weightedSum => "sum8"
  | .mix => "mix5"
  | .sumSmall => "six"
  | .describe => "seven"
  | .concat => "concat"
  | .length => "len"
  | .greet => "greet"
  | .twoOptions => "opt2"
  | .leadingOption => "opt_mid"
  | .trailingOptions => "opt_tail"
  | .divide => "checked_div"
  | .divideWithRest => "divmod"
  | .positive => "positive"
  | .nested => "nested"
  | .three => "three"
  | .four => "four"
  | .sameInt8 => "id_i8"
  | .sameInt16 => "id_i16"
  | .sameInt32 => "id_i32"
  | .sameUInt8 => "id_u8"
  | .sameUInt16 => "id_u16"
  | .sameUInt32 => "id_u32"
  | .sameUInt64 => "id_u64"
  | .sameSize => "id_usize"
  | .sameFloat32 => "id_f32"
  | .sameFloat => "id_f64"
  | .sameBool => "id_bool"
  | .sameText => "id_string"
  | .sameHandle => "id_handle"
  | .sameFunction => "id_fn"
  | .sameSlot => "id_dynamic"
  | .sameOptionalUInt8 => "id_opt_u8"
  | .sameOptionalSlot => "id_opt_dynamic"
  | .sameOptionalHandle => "id_opt_handle"
  | .largestUInt64 => "u64_max"
  | .textOfUInt64 => "u64_text"
  | .textOfSize => "usize_text"
  | .hostText => "static_str"
  | .half => "half"
  | .addFloat32 => "fadd32"
  | .slotTypeName => "type_of"
  | .equalSlots => "same"
  | .equalFunctions => "same_fn"
  | .functionInfo => "fn_info"
  | .runWith => "run"
  | .runAlone => "run0"

/-- The parameters that a tagging function takes before it answers with its tag. -/
inductive Tagged
  | none | int | byte | float | single | text | bool | object | function | slot | optionalInt
  | twoInts | intText | intOptionalInt | twoSlots | threeInts
deriving DecidableEq, Repr

/-- All tagging functions. -/
def Tagged.all : List Tagged :=
  [.none, .int, .byte, .float, .single, .text, .bool, .object, .function, .slot, .optionalInt,
    .twoInts, .intText, .intOptionalInt, .twoSlots, .threeInts]

/-- The written form of a tagging function. -/
def Tagged.written : Tagged → String
  | .none => "tag0"
  | .int => "tag_i"
  | .byte => "tag_u8"
  | .float => "tag_f"
  | .single => "tag_f32"
  | .text => "tag_s"
  | .bool => "tag_b"
  | .object => "tag_o"
  | .function => "tag_fn"
  | .slot => "tag_d"
  | .optionalInt => "tag_oi"
  | .twoInts => "tag_ii"
  | .intText => "tag_is"
  | .intOptionalInt => "tag_ioi"
  | .twoSlots => "tag_dd"
  | .threeInts => "tag_iii"

/-- The types of the parameters that a tagging function takes. -/
def Tagged.parameters : Tagged → List SlotType
  | .none => []
  | .int => [.int64]
  | .byte => [.uint8]
  | .float => [.float64]
  | .single => [.float32]
  | .text => [.text]
  | .bool => [.bool]
  | .object => [.object]
  | .function => [.function]
  | .slot => [.slot]
  | .optionalInt => [.option .int64]
  | .twoInts => [.int64, .int64]
  | .intText => [.int64, .text]
  | .intOptionalInt => [.int64, .option .int64]
  | .twoSlots => [.slot, .slot]
  | .threeInts => [.int64, .int64, .int64]

/-- A free function: one that captures nothing, held in one of three forms, or one
that captures a number. -/
inductive FunctionName
  | plain (function : PlainFunction) (form : CallableForm)
  | adder (captured : Int64)
  | ticker (counter : Nat)
  | tag (tagged : Tagged) (captured : Int64)

/-! ## Members -/

/-- The methods. -/
inductive MethodName
  | counterGet | counterPair | counterLabel | counterWeigh | counterRunShared | counterAdd
  | counterSet | counterReset | counterScale | counterTakeAway | counterSetSmall
  | counterRunExclusive | pointNorm | pointCoordinates | pointShift | textSize | textAppend
  | int32Value | int32Bump | unitPing
deriving DecidableEq, Repr

/-- All methods. -/
def MethodName.all : List MethodName :=
  [.counterGet, .counterPair, .counterLabel, .counterWeigh, .counterRunShared, .counterAdd,
    .counterSet, .counterReset, .counterScale, .counterTakeAway, .counterSetSmall,
    .counterRunExclusive, .pointNorm, .pointCoordinates, .pointShift, .textSize, .textAppend,
    .int32Value, .int32Bump, .unitPing]

/-- The written form of a method. -/
def MethodName.written : MethodName → String
  | .counterGet => "Counter.get"
  | .counterPair => "Counter.pair"
  | .counterLabel => "Counter.label"
  | .counterWeigh => "Counter.weigh8"
  | .counterRunShared => "Counter.run_ref"
  | .counterAdd => "Counter.add"
  | .counterSet => "Counter.set"
  | .counterReset => "Counter.reset"
  | .counterScale => "Counter.scale"
  | .counterTakeAway => "Counter.try_sub"
  | .counterSetSmall => "Counter.set_small"
  | .counterRunExclusive => "Counter.run_mut"
  | .pointNorm => "Point.norm2"
  | .pointCoordinates => "Point.xy"
  | .pointShift => "Point.shift"
  | .textSize => "String.size"
  | .textAppend => "String.append"
  | .int32Value => "i32.value"
  | .int32Bump => "i32.bump"
  | .unitPing => "Unit.ping"

/-- The fields. -/
inductive FieldName
  | counterCount | pointX | pointY | recordInt | recordSmall | recordBig | recordFloat
  | recordSingle | recordBool | recordText | recordOption | recordCallback | recordLink
deriving DecidableEq, Repr

/-- All fields. -/
def FieldName.all : List FieldName :=
  [.counterCount, .pointX, .pointY, .recordInt, .recordSmall, .recordBig, .recordFloat,
    .recordSingle, .recordBool, .recordText, .recordOption, .recordCallback, .recordLink]

/-- The written form of a field. -/
def FieldName.written : FieldName → String
  | .counterCount => "Counter.count"
  | .pointX => "Point.x"
  | .pointY => "Point.y"
  | .recordInt => "Record.i"
  | .recordSmall => "Record.small"
  | .recordBig => "Record.big"
  | .recordFloat => "Record.f"
  | .recordSingle => "Record.g"
  | .recordBool => "Record.b"
  | .recordText => "Record.s"
  | .recordOption => "Record.opt"
  | .recordCallback => "Record.cb"
  | .recordLink => "Record.link"

/-! ## Constructors -/

/-- The constructors; one of them captures a number. -/
inductive ConstructorName
  | counterDefault | counterNone | counterInt | counterSmall | counterText | counterPair
  | counterOptional | counterScaled (factor : Int64)
  | pointDefault | pointX | pointXY
  | recordDefault | recordNamed
  | textDefault | textCopy
  | unitDefault

/-- The constructor of a receiver type with a written form, given the number that it
captures if it captures one. -/
def ConstructorName.ofText? (receiver : Receiver) (text : String) (captured : Int64) :
    Option ConstructorName :=
  match receiver, text with
  | .counter, "default" => some .counterDefault
  | .counter, "none" => some .counterNone
  | .counter, "int" => some .counterInt
  | .counter, "small" => some .counterSmall
  | .counter, "text" => some .counterText
  | .counter, "pair" => some .counterPair
  | .counter, "opt" => some .counterOptional
  | .counter, "scaled" => some (.counterScaled captured)
  | .point, "default" => some .pointDefault
  | .point, "x" => some .pointX
  | .point, "xy" => some .pointXY
  | .record, "default" => some .recordDefault
  | .record, "named" => some .recordNamed
  | .text, "default" => some .textDefault
  | .text, "copy" => some .textCopy
  | .unit, "default" => some .unitDefault
  | _, _ => none

/-! ## Callables on frames -/

/-- The callables that have the shape of a callback. -/
inductive RawName
  | sumArguments | echo | echoAll | pushThenFail | overclaim | underclaim | nothing
  | newCounter
deriving DecidableEq, Repr

/-- All callables that have the shape of a callback. -/
def RawName.all : List RawName :=
  [.sumArguments, .echo, .echoAll, .pushThenFail, .overclaim, .underclaim, .nothing,
    .newCounter]

/-- The written form of a callable that has the shape of a callback. -/
def RawName.written : RawName → String
  | .sumArguments => "sum_args"
  | .echo => "echo"
  | .echoAll => "echo_all"
  | .pushThenFail => "push_then_fail"
  | .overclaim => "overclaim"
  | .underclaim => "underclaim"
  | .nothing => "nothing"
  | .newCounter => "new_counter"

/-- A place in the table of scripts. -/
abbrev ScriptId := Nat

/-! ## The host -/

/-- The vocabulary of the sample host. -/
abbrev vocabulary : Vocabulary where
  Receiver := Receiver
  Function := FunctionName
  Method := MethodName
  Field := FieldName
  Constructor := ConstructorName
  Raw := RawName
  Custom := ScriptId

/-- A counter. -/
structure Counter where
  count : Int64 := 0

/-- A point of the plane. -/
structure Point where
  x : Float := 0
  y : Float := 0

/-- A record with a field of each kind. -/
structure Record where
  int : Int64 := 0
  small : UInt8 := 0
  big : UInt64 := 0
  float : Float := 0
  single : Float32 := 0
  bool : Bool := false
  text : String := ""
  option : Option Int64 := none
  callback : Option (Callback vocabulary) := none
  link : Option (Handle vocabulary) := none

/-- What a receiver holds. -/
@[reducible] def Receiver.Value : Receiver → Type
  | counter => Counter
  | point => Point
  | record => Record
  | text => String
  | int32 => Int32
  | unit => Unit

/-- What the host remembers: the transcript of what ran, and the counters of the
functions that count. -/
structure Memory where
  transcript : Array Report := #[]
  tickers : Array Int64 := #[]

/-- The sample host. -/
abbrev host : Host where
  toVocabulary := vocabulary
  Value := Receiver.Value
  Memory := Memory
  receiverName := Receiver.fullName

end HostCall.Sample
