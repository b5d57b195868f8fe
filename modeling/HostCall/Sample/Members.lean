import HostCall.Sample.Functions

/-!
# A sample host: methods and fields

A method notes that it ran; a field does not.  A method that changes its receiver
may fail after the change, and the change stays.
-/

set_option autoImplicit false

namespace HostCall.Sample

/-! ## Methods -/

/-- A method that reads its receiver. -/
def reading (method : MethodName) (receiver : Receiver) (parameters : List SlotType)
    (result : ResultType)
    (answer : host.Value receiver → Parameters host parameters → Action (result.Val host)) :
    Method host where
  receiver := receiver
  parameters := parameters
  result := result
  body := .shared fun this values => do
    note (.text method.written)
    answer this values

/-- A method that changes its receiver: it answers with its result and with the
receiver's new value. -/
def changing (method : MethodName) (receiver : Receiver) (parameters : List SlotType)
    (result : ResultType)
    (answer : host.Value receiver → Parameters host parameters →
      Action (result.Val host × host.Value receiver)) :
    Method host where
  receiver := receiver
  parameters := parameters
  result := result
  body := .exclusive fun this values => do
    note (.text method.written)
    answer this values

/-- A counter that was set, as a result and as the receiver's new value. -/
def counted (count : Int64) : Int64 × Counter := (count, ⟨count⟩)

/-- The meaning of a method. -/
def MethodName.meaning (method : MethodName) : Method host :=
  match method with
  | .counterGet => reading method .counter [] (one .int64) fun this _ => pure this.count
  | .counterPair =>
      reading method .counter [] (several [.int64, .int64]) fun this _ =>
        pure (this.count, this.count * 2)
  | .counterLabel =>
      reading method .counter [.text] (one .text) fun this (text, _) =>
        pure (text ++ "=" ++ integer this.count)
  | .counterWeigh =>
      reading method .counter (List.replicate 8 .int64) (one .int64)
        fun this (a, b, c, d, e, f, g, h, _) =>
          pure (weighted this.count [a, b, c, d, e, f, g, h])
  | .counterRunShared =>
      reading method .counter [.function] (failing (one .int64)) fun this (callback, _) => do
        return (← callAside callback []).map (· + this.count)
  | .counterAdd =>
      changing method .counter [.int64] (one .int64) fun this (number, _) =>
        pure (counted (this.count + number))
  | .counterSet =>
      changing method .counter [.int64] .unit fun _ (number, _) => pure ((), ⟨number⟩)
  | .counterReset => changing method .counter [] .unit fun _ _ => pure ((), ⟨0⟩)
  | .counterScale =>
      changing method .counter [.int64, .option .int64] (one .int64)
        fun this (number, factor, _) =>
          pure (counted ((this.count + number) * factor.getD 1))
  | .counterTakeAway =>
      changing method .counter [.int64] (failing (one .int64)) fun this (number, _) =>
        if this.count < number then
          pure (.error (integer this.count ++ " is less than " ++ integer number), this)
        else
          let count := this.count - number
          pure (.ok count, ⟨count⟩)
  | .counterSetSmall =>
      changing method .counter [.uint8] .unit fun _ (number, _) =>
        pure ((), ⟨Int64.ofNat number.toNat⟩)
  | .counterRunExclusive =>
      changing method .counter [.function] (failing (one .int64)) fun this (callback, _) => do
        let begun := this.count + 1
        match ← callAside callback [] with
        | .error text => return (.error text, ⟨begun⟩)
        | .ok value => return (.ok (begun + value), ⟨begun + value⟩)
  | .pointNorm =>
      reading method .point [] (one .float64) fun this _ =>
        pure (this.x * this.x + this.y * this.y)
  | .pointCoordinates =>
      reading method .point [] (several [.float64, .float64]) fun this _ =>
        pure (this.x, this.y)
  | .pointShift =>
      changing method .point [.float64, .option .float64] .unit fun this (right, up, _) =>
        pure ((), ⟨this.x + right, this.y + up.getD 0⟩)
  | .textSize =>
      reading method .text [] (one .size) fun this _ => pure (UInt64.ofNat this.utf8ByteSize)
  | .textAppend =>
      changing method .text [.text] (one .text) fun this (tail, _) =>
        pure (this ++ tail, this ++ tail)
  | .int32Value => reading method .int32 [] (one .int32) fun this _ => pure this
  | .int32Bump =>
      changing method .int32 [.int32] (one .int32) fun this (number, _) =>
        pure (this + number, this + number)
  | .unitPing => reading method .unit [] (.one .hostText) fun _ _ => pure "pong"

/-! ## Fields -/

/-- The meaning of a field. -/
def FieldName.meaning : FieldName → Field host
  | counterCount => ⟨"count", .counter, .int64, (·.count), fun count _ => ⟨count⟩⟩
  | pointX => ⟨"x", .point, .float64, (·.x), fun x this => { this with x }⟩
  | pointY => ⟨"y", .point, .float64, (·.y), fun y this => { this with y }⟩
  | recordInt => ⟨"i", .record, .int64, (·.int), fun int this => { this with int }⟩
  | recordSmall => ⟨"small", .record, .uint8, (·.small), fun small this => { this with small }⟩
  | recordBig => ⟨"big", .record, .uint64, (·.big), fun big this => { this with big }⟩
  | recordFloat => ⟨"f", .record, .float64, (·.float), fun float this => { this with float }⟩
  | recordSingle =>
      ⟨"g", .record, .float32, (·.single), fun single this => { this with single }⟩
  | recordBool => ⟨"b", .record, .bool, (·.bool), fun bool this => { this with bool }⟩
  | recordText => ⟨"s", .record, .text, (·.text), fun text this => { this with text }⟩
  | recordOption =>
      ⟨"opt", .record, .option .int64, (·.option), fun option this => { this with option }⟩
  | recordCallback =>
      ⟨"cb", .record, .option .function, (·.callback),
        fun callback this => { this with callback }⟩
  | recordLink =>
      ⟨"link", .record, .option .object, (·.link), fun link this => { this with link }⟩

end HostCall.Sample
