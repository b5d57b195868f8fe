/-!
# The shortest decimal that reads back

A finite double stands for every real number that rounds to it.  Among the
decimals in that interval this module picks one with the fewest digits, and
among those the one nearest to the double.

The search walks decimal grids from coarse to fine.  On the grid of step
`10 ^ s` only the two neighbours of the double can be the nearest grid point in
its interval, so a grid is tried by testing these two in exact arithmetic.  The
first grid with a hit has the fewest digits; of two hits the nearer wins, and the
upper one when both are equally near.

`candidate_reads_back` says that whatever a grid yields lies in the interval.
-/

set_option autoImplicit false

namespace HostCall.Decimal

/-- The interval of reals that round to one positive double. -/
structure Interval where
  /-- The double is `significand * 2 ^ exponent`. -/
  significand : Nat
  exponent : Int
  /-- The double below is only half as far away as the double above. -/
  narrowBelow : Bool
deriving DecidableEq, Repr

/-- A decimal numeral, worth `digits * 10 ^ exponent`. -/
structure Numeral where
  digits : Nat
  exponent : Int
deriving DecidableEq, Repr

namespace Interval

/-! ## The interval on a decimal grid

Everything is measured in quarters of the double's last binary place, so that
the middle and both ends are natural numbers. -/

/-- The double itself, in quarters of its last place. -/
def middle (interval : Interval) : Nat := 4 * interval.significand

/-- The lower end, in quarters of the last place. -/
def lower (interval : Interval) : Nat :=
  4 * interval.significand - (if interval.narrowBelow then 1 else 2)

/-- The upper end, in quarters of the last place. -/
def upper (interval : Interval) : Nat := 4 * interval.significand + 2

/-- The factor that a multiple of the grid step `10 ^ step` takes when it is
compared with quarters of the last place. -/
def gridFactor (interval : Interval) (step : Int) : Nat :=
  Nat.pow 10 step.toNat * Nat.pow 2 (2 - interval.exponent).toNat

/-- The factor that a number of quarters takes in the same comparison. -/
def quarterFactor (interval : Interval) (step : Int) : Nat :=
  Nat.pow 2 (interval.exponent - 2).toNat * Nat.pow 10 (-step).toNat

/-- The `multiple`-th point of the grid rounds to the double; the ends of the
interval do so exactly when the significand is even. -/
def Holds (interval : Interval) (step : Int) (multiple : Nat) : Prop :=
  let point := multiple * interval.gridFactor step
  let low := interval.lower * interval.quarterFactor step
  let high := interval.upper * interval.quarterFactor step
  if interval.significand % 2 = 0 then low ≤ point ∧ point ≤ high
  else low < point ∧ point < high

instance (interval : Interval) (step : Int) (multiple : Nat) :
    Decidable (interval.Holds step multiple) := by
  unfold Holds
  exact inferInstance

/-- The grid point in the interval that is nearest to the double, the upper one
of two equally near ones. -/
def candidate (interval : Interval) (step : Int) : Option Nat :=
  let target := interval.middle * interval.quarterFactor step
  let factor := interval.gridFactor step
  let below := target / factor
  let above := below + 1
  if interval.Holds step below then
    if interval.Holds step above ∧ above * factor - target ≤ target - below * factor then
      some above
    else some below
  else if interval.Holds step above then some above
  else none

/-- A grid yields only points that read back as the double. -/
theorem candidate_reads_back {interval : Interval} {step : Int} {multiple : Nat}
    (found : interval.candidate step = some multiple) : interval.Holds step multiple := by
  simp only [candidate] at found
  split at found
  · split at found <;> simp_all
  · split at found <;> simp_all

/-! ## The search -/

/-- An exponent no smaller than that of the double's first decimal digit: binary
digits are worth a little less than `30103 / 100000` decimal ones. -/
def coarsest (interval : Interval) : Int :=
  (interval.significand.log2 + interval.exponent) * 30103 / 100000 + 1

/-- The first grid with a hit, of the twenty that reach past the seventeenth
significant digit, where every double has one. -/
def shortest (interval : Interval) : Numeral :=
  let steps := (List.range 20).map fun (finer : Nat) => interval.coarsest - finer
  (steps.findSome? fun step => (interval.candidate step).map (⟨·, step⟩)).getD ⟨0, 0⟩

end Interval

/-! ## Doubles -/

/-- A double taken apart: its sign and what its bits stand for. -/
inductive Parts
  | notANumber
  | infinite (negative : Bool)
  | zero (negative : Bool)
  | finite (negative : Bool) (interval : Interval)
deriving DecidableEq, Repr

/-- The fields of the 64 bits: a sign, eleven bits of exponent and fifty-two of
fraction, with a hidden leading one unless the exponent field is zero. -/
def Parts.ofBits (bits : UInt64) : Parts :=
  let word := bits.toNat
  let negative := word / Nat.pow 2 63 == 1
  let field : Nat := word / Nat.pow 2 52 % Nat.pow 2 11
  let fraction : Nat := word % Nat.pow 2 52
  if field = 2047 then
    if fraction = 0 then .infinite negative else .notANumber
  else if field = 0 then
    if fraction = 0 then .zero negative
    else .finite negative ⟨fraction, -1074, false⟩
  else
    .finite negative ⟨Nat.pow 2 52 + fraction, field - 1075, fraction == 0 && field != 1⟩

end HostCall.Decimal
