/-!
# Changing the precision of a number

A parameter of single precision reads a double by rounding it, and a result of
single precision is written as the double of the same value.  Both are the
rounding of a number to the format it is going to: take the number apart, round
its mantissa to what the format can hold, and pack it again.  Zeros, infinities
and the undefined number keep their kind in any format.
-/

set_option autoImplicit false

namespace HostCall

namespace Precision

open Float.Model (Format UnpackedFloat)

/-- A number rounded to what a format can hold, ties going to the even mantissa. -/
def rounded (format : Format) : UnpackedFloat → UnpackedFloat
  | .finite sign mantissa exponent _ => .round format sign mantissa exponent
  | other => other

/-- The double of the same value. -/
def widen (value : Float32) : Float :=
  .ofModel (.pack (rounded .binary64 value.toModel.unpack))

/-- The number of single precision nearest to a double. -/
def narrow (value : Float) : Float32 :=
  .ofModel (.pack (rounded .binary32 value.toModel.unpack))

end Precision

end HostCall
