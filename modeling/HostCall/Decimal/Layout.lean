import HostCall.Decimal.Shortest

/-!
# Writing a double

A double is written with its shortest digits, either positionally or with a
power of ten behind the first digit.  A `Layout` states the choices of one
format; there are two formats here, `Layout.plain` for the values quoted in
messages and `Layout.record` for the record form of a slot.
-/

set_option autoImplicit false

namespace HostCall.Decimal

/-- The choices of one decimal format. -/
structure Layout where
  /-- Whether a number whose first digit stands for `10 ^ leading` is written with a
  power of ten. -/
  exponential : (leading : Int) → Bool
  /-- What a whole number in positional form ends with. -/
  wholeTail : String

/-- Always positional, and whole numbers without a point. -/
def Layout.plain : Layout := ⟨fun _ => false, ""⟩

/-- Positional from one ten-thousandth up to below ten to the sixteenth, and whole
numbers end in a point and a zero. -/
def Layout.record : Layout := ⟨fun leading => leading < -4 || 16 ≤ leading, ".0"⟩

namespace Numeral

/-- The digits with a point, or with zeros where the point lies outside them. -/
def positional (numeral : Numeral) (wholeTail : String) : String :=
  let digits := Nat.toDigits 10 numeral.digits
  if 0 ≤ numeral.exponent then
    String.ofList (digits ++ List.replicate numeral.exponent.toNat '0') ++ wholeTail
  else
    let places := (-numeral.exponent).toNat
    let padded := List.replicate (places + 1 - digits.length) '0' ++ digits
    let whole := padded.length - places
    String.ofList (padded.take whole) ++ "." ++ String.ofList (padded.drop whole)

/-- The exponent of ten that the first digit stands for. -/
def leading (numeral : Numeral) : Int :=
  numeral.exponent + ((Nat.toDigits 10 numeral.digits).length - 1 : Nat)

/-- One digit, the others behind a point, and the power of ten. -/
def scientific (numeral : Numeral) : String :=
  match Nat.toDigits 10 numeral.digits with
  | [] => ""
  | first :: rest =>
      let fraction := if rest.isEmpty then "" else "." ++ String.ofList rest
      first.toString ++ fraction ++ "e" ++ toString numeral.leading

end Numeral

/-- A positive numeral in a format. -/
def Layout.numeral (layout : Layout) (numeral : Numeral) : String :=
  if layout.exponential numeral.leading then numeral.scientific
  else numeral.positional layout.wholeTail

/-- A double taken apart, in a format. -/
def Layout.parts (layout : Layout) : Parts → String
  | .notANumber => "NaN"
  | .infinite negative => (if negative then "-" else "") ++ "inf"
  | .zero negative => (if negative then "-" else "") ++ "0" ++ layout.wholeTail
  | .finite negative interval =>
      (if negative then "-" else "") ++ layout.numeral interval.shortest

/-- A double in a format. -/
def Layout.float (layout : Layout) (value : Float) : String :=
  layout.parts (Parts.ofBits value.toBits)

end HostCall.Decimal
