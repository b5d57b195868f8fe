import HostCall.Sample.Host

/-!
# A sample host: free functions

Every function notes in the host's transcript that it ran, and then answers.  Most
of them answer with a plain expression of their parameters; a few call a callback
that they were given, in a new interpreter of their own (`callAside`).
-/

set_option autoImplicit false

namespace HostCall.Sample

/-! ## What functions can do -/

/-- A program of a sample callable. -/
abbrev Action : Type → Type := HostProgram host

/-- A note in the transcript. -/
def note (entry : Report) : Action Unit := do
  let memory ← Program.perform HostOperation.readMemory
  Program.perform (HostOperation.writeMemory
    { memory with transcript := memory.transcript.push entry })

/-- The next number of a counting function. -/
def nextTick (counter : Nat) : Action Int64 := do
  let memory ← Program.perform HostOperation.readMemory
  let count := memory.tickers.getD counter 0 + 1
  Program.perform (HostOperation.writeMemory
    { memory with tickers := memory.tickers.setIfInBounds counter count })
  return count

/-- A call of a callback in a new interpreter: its first result if that is an
integer, minus one if there is none, and otherwise what went wrong. -/
def callAside (callback : Callback vocabulary) (arguments : List (Slot host)) :
    Action (Except String Int64) := do
  let (outcome, _) ← Program.perform (HostOperation.call {} callback arguments)
  return match outcome with
    | .error error => .error error.message
    | .ok [] => .ok (-1)
    | .ok (.int value :: _) => .ok value
    | .ok (other :: _) => .error ("got " ++ other.typeName)

/-! ## Shorthands for result types -/

/-- One slot of a type. -/
abbrev one (type : SlotType) : ResultType := .one (.value type)

/-- One slot for each type. -/
abbrev several (types : List SlotType) : ResultType := .tuple (types.map .value)

/-- A result that may fail with a text of its own. -/
abbrev failing (success : ResultType) : ResultType := .fallible success .caller

/-! ## Meanings -/

/-- The sum of numbers, the first once, the second twice, and so on. -/
def weighted (start : Int64) (numbers : List Int64) : Int64 :=
  (numbers.zipIdx 1).foldl (fun sum (number, weight) => sum + number * Int64.ofNat weight) start

/-- An optional value in words. -/
def optionText {α : Type} (text : α → String) : Option α → String
  | some value => "Some(" ++ text value ++ ")"
  | none => "None"

/-- An integer in words. -/
def integer (value : Int64) : String := toString value.toInt

/-- A function that captures nothing and answers with an expression. -/
def plain (function : PlainFunction) (form : CallableForm) (parameters : List SlotType)
    (result : ResultType) (answer : Parameters host parameters → result.Val host) :
    FreeFunction host where
  form := form
  parameters := parameters
  result := result
  run values := do
    note (.text function.written)
    return answer values

/-- A function that captures nothing and answers with a program. -/
def active (function : PlainFunction) (form : CallableForm) (parameters : List SlotType)
    (result : ResultType) (answer : Parameters host parameters → Action (result.Val host)) :
    FreeFunction host where
  form := form
  parameters := parameters
  result := result
  run values := do
    note (.text function.written)
    answer values

/-- A function that answers with its one parameter. -/
def echoing (function : PlainFunction) (form : CallableForm) (type : SlotType) :
    FreeFunction host :=
  plain function form [type] (one type) fun (value, _) => value

/-- The meaning of a function that captures nothing. -/
def PlainFunction.meaning (function : PlainFunction) (form : CallableForm) :
    FreeFunction host :=
  match function with
  | .zero => plain function form [] (one .int64) fun _ => 0
  | .unit => plain function form [] .unit fun _ => ()
  | .eat => plain function form [.int64] .unit fun _ => ()
  | .neg => plain function form [.int64] (one .int64) fun (a, _) => -a
  | .add => plain function form [.int64, .int64] (one .int64) fun (a, b, _) => a + b
  | .addThree =>
      plain function form [.int64, .int64, .int64] (one .int64) fun (a, b, c, _) => a + b + c
  | .weightedSum =>
      plain function form (List.replicate 8 .int64) (one .int64)
        fun (a, b, c, d, e, f, g, h, _) => weighted 0 [a, b, c, d, e, f, g, h]
  | .mix =>
      plain function form [.int64, .bool, .text, .float64, .option .uint8]
        (several [.text, .bool, .int64, .float64])
        fun (a, b, c, d, e, _) => (c, b, a + Int64.ofNat (e.getD 100).toNat, d)
  | .sumSmall =>
      plain function form [.uint8, .int8, .uint16, .int16, .uint32, .int32] (one .int64)
        fun (a, b, c, d, e, f, _) =>
          Int64.ofNat a.toNat + b.toInt64 + Int64.ofNat c.toNat + d.toInt64 +
            Int64.ofNat e.toNat + f.toInt64
  | .describe =>
      plain function form
        [.option .int64, .option .int64, .int64, .option .int64, .option .int64, .option .bool,
          .option .text]
        (one .text)
        fun (a, b, c, d, e, f, g, _) =>
          " ".intercalate
            [optionText integer a, optionText integer b, integer c, optionText integer d,
              optionText integer e, optionText toString f, g.getD "-"]
  | .concat => plain function form [.text, .text] (one .text) fun (a, b, _) => a ++ b
  | .length =>
      plain function form [.text] (one .size) fun (text, _) => UInt64.ofNat text.utf8ByteSize
  | .greet =>
      plain function form [.text, .option .text] (one .text) fun (name, title, _) =>
        match title with
        | some title => title ++ " " ++ name
        | none => name
  | .twoOptions =>
      plain function form [.option .int64, .option .int64]
        (several [.option .int64, .option .int64]) fun (a, b, _) => (a, b)
  | .leadingOption =>
      plain function form [.option .int64, .int64] (one .int64) fun (a, b, _) =>
        a.getD 1000 + b
  | .trailingOptions =>
      plain function form [.int64, .option .float64, .option .bool]
        (several [.int64, .option .float64, .option .bool]) fun (a, b, c, _) => (a, b, c)
  | .divide =>
      plain function form [.int64, .int64] (.fallible (one .int64) .host) fun (a, b, _) =>
        if b = 0 then .error "division by zero" else .ok (a / b)
  | .divideWithRest =>
      plain function form [.int64, .int64] (failing (several [.int64, .int64]))
        fun (a, b, _) =>
          if b = 0 then .error ("cannot divide " ++ integer a ++ " by zero")
          else .ok (a / b, a % b)
  | .positive =>
      plain function form [.int64] (failing .unit) fun (a, _) =>
        if 0 < a then .ok () else .error ""
  | .nested =>
      plain function form [.int64] (failing (failing (one .int64))) fun (a, _) =>
        if a < 0 then .error "outer" else if a = 0 then .ok (.error "inner") else .ok (.ok a)
  | .three =>
      plain function form [.int64] (.tuple [.value .int64, .hostText, .value .float64])
        fun (a, _) => (a, "two", 3)
  | .four =>
      plain function form [.int64] (several [.int64, .bool, .text, .option .int64])
        fun (a, _) => (a, decide (0 < a), integer a, if 0 < a then some a else none)
  | .sameInt8 => echoing function form .int8
  | .sameInt16 => echoing function form .int16
  | .sameInt32 => echoing function form .int32
  | .sameUInt8 => echoing function form .uint8
  | .sameUInt16 => echoing function form .uint16
  | .sameUInt32 => echoing function form .uint32
  | .sameUInt64 => echoing function form .uint64
  | .sameSize => echoing function form .size
  | .sameFloat32 => echoing function form .float32
  | .sameFloat => echoing function form .float64
  | .sameBool => echoing function form .bool
  | .sameText => echoing function form .text
  | .sameHandle => echoing function form .object
  | .sameFunction => echoing function form .function
  | .sameSlot => echoing function form .slot
  | .sameOptionalUInt8 => echoing function form (.option .uint8)
  | .sameOptionalSlot => echoing function form (.option .slot)
  | .sameOptionalHandle => echoing function form (.option .object)
  | .largestUInt64 =>
      plain function form [] (one .uint64) fun _ => 18446744073709551615
  | .textOfUInt64 =>
      plain function form [.uint64] (one .text) fun (a, _) => toString a.toNat
  | .textOfSize => plain function form [.size] (one .text) fun (a, _) => toString a.toNat
  | .hostText => plain function form [] (.one .hostText) fun _ => "static"
  | .half => plain function form [.float64] (one .float64) fun (a, _) => a / 2
  | .addFloat32 =>
      plain function form [.float32, .float32] (one .float32) fun (a, b, _) => a + b
  | .slotTypeName =>
      plain function form [.slot] (.one .hostText) fun (a, _) => a.typeName
  | .equalSlots => plain function form [.slot, .slot] (one .bool) fun (a, b, _) => a.same b
  | .equalFunctions =>
      plain function form [.function, .function] (one .bool) fun (a, b, _) => a.same b
  | .functionInfo =>
      active function form [.function] (one .text) fun (callback, _) => do
        let profile ← Program.perform (HostOperation.inspect callback)
        return profile.debug
  | .runWith =>
      active function form [.function, .int64] (failing (one .int64)) fun (callback, a, _) =>
        callAside callback [.int a]
  | .runAlone =>
      active function form [.function] (failing (one .int64)) fun (callback, _) =>
        callAside callback []

/-- The meaning of a free function. -/
def FunctionName.meaning : FunctionName → FreeFunction host
  | plain function form => function.meaning form
  | adder captured =>
      { form := .stateful
        parameters := [.int64]
        result := one .int64
        run := fun (value, _) => do
          note (.list [.text "adder", .number captured.toInt])
          return value + captured }
  | ticker counter =>
      { form := .stateful
        parameters := []
        result := one .int64
        run := fun _ => do
          note (.text "ticker")
          nextTick counter }
  | tag tagged captured =>
      { form := .stateful
        parameters := tagged.parameters
        result := one .int64
        run := fun _ => do
          note (.list [.text tagged.written, .number captured.toInt])
          return captured }

end HostCall.Sample
