import HostCall.Description
import HostCall.Registration
import HostCall.Sample.Members

/-!
# A sample host: how types are spelled

The full names of the types that the sample host's callables mention, and of what
can be deferred.
-/

set_option autoImplicit false

namespace HostCall.Sample

/-- The spelling of types in the sample host. -/
def spelling : Spelling where
  plain
    | .int8 => "i8"
    | .int16 => "i16"
    | .int32 => "i32"
    | .int64 => "i64"
    | .uint8 => "u8"
    | .uint16 => "u16"
    | .uint32 => "u32"
    | .uint64 => "u64"
    | .size => "usize"
    | .float32 => "f32"
    | .float64 => "f64"
    | .bool => "bool"
    | .text => "alloc::string::String"
    | .object => "stackbind_core::runtime::object_heap::ObjectHandle"
    | .function => "stackbind_core::runtime::native_fn::NativeFn"
    | .slot => "stackbind_core::runtime::dynamic::Dynamic"
    | .option inner => inner.name
  option inner := "core::option::Option<" ++ inner ++ ">"
  unit := "()"
  tuple types := "(" ++ commaSeparated types ++ ")"
  fallible success failure := "core::result::Result<" ++ success ++ ", " ++ failure ++ ">"
  ownedText
    | .caller => "alloc::string::String"
    | .host => "&str"

/-- A list of parameters with a result behind it, if there is one. -/
def arrow (parameters : List SlotType) (result : ResultType) : String :=
  let taken := "(" ++ commaSeparated (parameters.map spelling.slotType) ++ ")"
  match result with
  | .unit => taken
  | other => taken ++ " -> " ++ spelling.result other

/-- The full name of a free function. -/
def FunctionName.fullName : FunctionName → String
  | plain function .function => "oracle::catalog::" ++ function.written
  | plain function .pointer =>
      let meaning := function.meaning .pointer
      "fn" ++ arrow meaning.parameters meaning.result
  | plain function .stateful =>
      let meaning := function.meaning .stateful
      "alloc::boxed::Box<dyn core::ops::function::Fn" ++
        arrow meaning.parameters meaning.result ++ ">"
  | adder _ => "oracle::catalog::adder::\x7b\x7bclosure\x7d\x7d"
  | ticker _ => "oracle::catalog::ticker::\x7b\x7bclosure\x7d\x7d"
  | tag tagged _ => "oracle::catalog::" ++ tagged.written ++ "::\x7b\x7bclosure\x7d\x7d"

/-- The full name of what a registration defers; a finished callback has that of its
type. -/
def deferredName : Registration host → String
  | .function name => name.fullName
  | .method name | .methodBound name _ => "oracle::catalog::" ++ name.written
  | .field name =>
      let meaning := name.meaning
      "stackbind::member::Field<" ++ meaning.receiver.fullName ++ ", " ++
        spelling.slotType meaning.type ++ ">"
  | .overloads _ => "stackbind::overload::OverloadSet"
  | .property _ => "stackbind::property::PropertyPair"
  | .constructors list =>
      "stackbind::constructor::ConstructorList<" ++ list.receiver.fullName ++ ">"
  | .deferred _ => "stackbind::deferred::FunctionArgs"
  | .install _ | .set _ | .raw _ | .fieldBound _ _ => spelling.slotType .function

end HostCall.Sample
