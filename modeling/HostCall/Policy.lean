/-!
# Call policy

The policy an interpreter calls under: what happens to surplus arguments,
whether a router looks at argument types, and how tall the value stack may
grow.  Each setting also has a numeric form, in which it can be written and
read back.
-/

set_option autoImplicit false

namespace HostCall

/-- What a single callback does with arguments past its declared parameters. -/
inductive Surplus
  | ignore
  | reject
deriving DecidableEq, Repr, Inhabited

/-- The settings a policy is made of. -/
inductive Setting
  | surplus
  | checksTypes
  | stackLimit
deriving DecidableEq, Repr

/-- The policy of one interpreter. -/
structure Policy where
  /-- Surplus arguments are refused unless told otherwise. -/
  surplus : Surplus := .reject
  /-- A router asks for acceptable argument types unless told otherwise. -/
  checksTypes : Bool := true
  /-- The greatest number of slots on the value stack. -/
  stackLimit : Nat := 10000
deriving DecidableEq, Repr, Inhabited

/-- The numeric form of a setting's default. -/
def Setting.default : Setting → Nat
  | .surplus => 1
  | .checksTypes => 1
  | .stackLimit => 10000

namespace Policy

/-- The policy with one setting written in its numeric form: zero ignores surplus
arguments and turns the type check off, anything else does the opposite. -/
def set (policy : Policy) : Setting → Nat → Policy
  | .surplus, value =>
      { policy with surplus := if value = 0 then .ignore else .reject }
  | .checksTypes, value => { policy with checksTypes := value != 0 }
  | .stackLimit, value => { policy with stackLimit := value }

/-- One setting in its numeric form. -/
def get (policy : Policy) : Setting → Nat
  | .surplus =>
      match policy.surplus with
      | .ignore => 0
      | .reject => 1
  | .checksTypes => policy.checksTypes.toNat
  | .stackLimit => policy.stackLimit

end Policy

end HostCall
