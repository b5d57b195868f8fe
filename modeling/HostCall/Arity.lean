/-!
# Argument-count ranges

A callback declares how many arguments it takes as a range of counts: a least
count and, unless the range is open-ended, a greatest one.  A router in front
of several callbacks declares the union of their ranges, and a member whose
receiver travels as argument 0 declares its own range shifted by one.

The range is an interval of counts, so `union` may cover counts that neither
side admits; `admits_union_left`, `admits_union_right` and `admits_covering` say
that it never loses one, and `admits_shift` says what a shift does.  A range may be written
with its bounds crossed, and then it admits nothing.
-/

set_option autoImplicit false

namespace HostCall

/-- A range of argument counts, open-ended when `greatest` is absent. -/
structure Arity where
  least : Nat
  greatest : Option Nat
deriving DecidableEq, Repr, Inhabited

namespace Arity

/-! ## Ranges -/

/-- Exactly `count` arguments. -/
def exact (count : Nat) : Arity := ⟨count, some count⟩

/-- From `least` to `greatest` arguments, both included. -/
def range (least greatest : Nat) : Arity := ⟨least, some greatest⟩

/-- `least` arguments or more. -/
def atLeast (least : Nat) : Arity := ⟨least, none⟩

/-- Any number of arguments. -/
def variadic : Arity := atLeast 0

/-- One single count is admitted. -/
def isExact (arity : Arity) : Bool := arity.greatest == some arity.least

/-- The count lies inside the range. -/
def admits (arity : Arity) (count : Nat) : Bool :=
  arity.least ≤ count && arity.greatest.all (count ≤ ·)

/-- The whole range moved up, for arguments that come before the declared ones. -/
def shift (arity : Arity) (offset : Nat) : Arity :=
  ⟨arity.least + offset, arity.greatest.map (· + offset)⟩

/-- The least range that covers both. -/
def union (left right : Arity) : Arity :=
  ⟨min left.least right.least,
    match left.greatest, right.greatest with
    | some a, some b => some (max a b)
    | _, _ => none⟩

/-- The least range that covers all of several; of none, no arguments at all. -/
def covering : List Arity → Arity
  | [] => exact 0
  | first :: rest => rest.foldl union first

/-- The range in words: one count, two bounds, or a lower bound alone. -/
def text (arity : Arity) : String :=
  match arity.greatest with
  | some greatest =>
      if greatest = arity.least then toString arity.least
      else toString arity.least ++ "..=" ++ toString greatest
  | none => toString arity.least ++ ".."

/-- The record form of a range, bound by bound. -/
def debug (arity : Arity) : String :=
  let greatest := match arity.greatest with
    | some greatest => "Some(" ++ toString greatest ++ ")"
    | none => "None"
  "Arity \x7b min: " ++ toString arity.least ++ ", max: " ++ greatest ++ " \x7d"

/-! ## Which counts are admitted -/

theorem admits_iff (arity : Arity) (count : Nat) :
    arity.admits count = true ↔
      arity.least ≤ count ∧ ∀ greatest ∈ arity.greatest, count ≤ greatest := by
  cases h : arity.greatest <;> simp [admits, h]

@[simp] theorem admits_exact (count actual : Nat) :
    (exact count).admits actual = true ↔ actual = count := by
  simp only [admits_iff, exact, Option.mem_some_iff]
  constructor
  · rintro ⟨lower, upper⟩
    exact Nat.le_antisymm (upper count rfl) lower
  · rintro rfl
    exact ⟨Nat.le_refl _, by rintro _ rfl; exact Nat.le_refl _⟩

@[simp] theorem admits_variadic (count : Nat) : variadic.admits count = true := by
  simp [admits_iff, variadic, atLeast]

/-- A union admits what its left side admits. -/
theorem admits_union_left {left right : Arity} {count : Nat}
    (admitted : left.admits count = true) : (left.union right).admits count = true := by
  rw [admits_iff] at admitted ⊢
  obtain ⟨lower, upper⟩ := admitted
  refine ⟨Nat.le_trans (Nat.min_le_left _ _) lower, ?_⟩
  intro greatest found
  cases hl : left.greatest <;> cases hr : right.greatest <;>
    simp only [union, hl, hr, Option.mem_def, Option.some.injEq, reduceCtorEq] at found
  subst found
  exact Nat.le_trans (upper _ hl) (Nat.le_max_left _ _)

/-- A union admits what its right side admits. -/
theorem admits_union_right {left right : Arity} {count : Nat}
    (admitted : right.admits count = true) : (left.union right).admits count = true := by
  rw [admits_iff] at admitted ⊢
  obtain ⟨lower, upper⟩ := admitted
  refine ⟨Nat.le_trans (Nat.min_le_right _ _) lower, ?_⟩
  intro greatest found
  cases hl : left.greatest <;> cases hr : right.greatest <;>
    simp only [union, hl, hr, Option.mem_def, Option.some.injEq, reduceCtorEq] at found
  subst found
  exact Nat.le_trans (upper _ hr) (Nat.le_max_right _ _)

/-- A union taken in turn admits what its start or a later range admits. -/
theorem admits_foldl_union {ranges : List Arity} {start : Arity} {count : Nat}
    (admitted : start.admits count = true ∨ ∃ range ∈ ranges, range.admits count = true) :
    (ranges.foldl union start).admits count = true := by
  induction ranges generalizing start with
  | nil =>
      rcases admitted with admitted | ⟨_, member, _⟩
      · exact admitted
      · cases member
  | cons first rest inductionHypothesis =>
      refine inductionHypothesis ?_
      rcases admitted with admitted | ⟨range, member, admitted⟩
      · exact .inl (admits_union_left admitted)
      · cases member with
        | head => exact .inl (admits_union_right admitted)
        | tail _ member => exact .inr ⟨range, member, admitted⟩

/-- The covering range admits what one of the ranges admits. -/
theorem admits_covering {ranges : List Arity} {range : Arity} {count : Nat}
    (member : range ∈ ranges) (admitted : range.admits count = true) :
    (covering ranges).admits count = true := by
  cases member with
  | head => exact admits_foldl_union (.inl admitted)
  | tail _ member => exact admits_foldl_union (.inr ⟨range, member, admitted⟩)

/-- A shifted range admits a count exactly when the range admits what is left of
it after the leading arguments. -/
theorem admits_shift (arity : Arity) (offset count : Nat) :
    (arity.shift offset).admits count = true ↔
      offset ≤ count ∧ arity.admits (count - offset) = true := by
  rw [admits_iff, admits_iff]
  cases h : arity.greatest <;> simp [shift, h] <;> omega

end Arity

end HostCall
