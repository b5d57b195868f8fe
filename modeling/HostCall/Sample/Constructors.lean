import HostCall.Sample.Functions

/-!
# A sample host: constructors

A constructor notes that it ran, except the one that makes a receiver of its
default value.
-/

set_option autoImplicit false

namespace HostCall.Sample

/-- A constructor that notes that it ran. -/
def making (entry : Report) (form : CallableForm) (receiver : Receiver)
    (parameters : List SlotType) (make : Parameters host parameters → host.Value receiver) :
    Constructor host where
  form := form
  receiver := receiver
  parameters := parameters
  run values := do
    note entry
    return make values

/-- The constructor of a default value. -/
def makingDefault (receiver : Receiver) (value : host.Value receiver) :
    Constructor host where
  form := .function
  receiver := receiver
  parameters := []
  run _ := pure value

/-- The meaning of a constructor. -/
def ConstructorName.meaning : ConstructorName → Constructor host
  | counterDefault => makingDefault .counter {}
  | counterNone => making (.text "new none") .function .counter [] fun _ => ⟨-1⟩
  | counterInt =>
      making (.text "new int") .function .counter [.int64] fun (number, _) => ⟨number⟩
  | counterSmall =>
      making (.text "new small") .function .counter [.uint8] fun (number, _) =>
        ⟨Int64.ofNat number.toNat⟩
  | counterText =>
      making (.text "new text") .function .counter [.text] fun (text, _) =>
        ⟨Int64.ofNat text.utf8ByteSize⟩
  | counterPair =>
      making (.text "new pair") .function .counter [.int64, .int64] fun (a, b, _) => ⟨a - b⟩
  | counterOptional =>
      making (.text "new opt") .function .counter [.int64, .option .int64] fun (a, b, _) =>
        ⟨a + b.getD 500⟩
  | counterScaled factor =>
      making (.list [.text "new scaled", .number factor.toInt]) .stateful .counter [.int64]
        fun (number, _) => ⟨number * factor⟩
  | pointDefault => makingDefault .point {}
  | pointX => making (.text "new x") .function .point [.float64] fun (x, _) => ⟨x, 0⟩
  | pointXY =>
      making (.text "new xy") .function .point [.float64, .float64] fun (x, y, _) => ⟨x, y⟩
  | recordDefault => makingDefault .record {}
  | recordNamed =>
      making (.text "new named") .function .record [.text, .option .int64]
        fun (text, number, _) => { text, int := number.getD 7 }
  | textDefault => makingDefault .text ""
  | textCopy => making (.text "new copy") .function .text [.text] fun (text, _) => text
  | unitDefault => makingDefault .unit ()

end HostCall.Sample
