import HostCall.Proofs.Filter
import Mathlib.Data.List.Perm.Basic
import Mathlib.Order.MinMax

/-!
# Ranges and their unions

A union of two ranges is the least range that covers both.  It admits the numbers that have the
lower end of one of the two at or below them and the upper end of one of the two at or above
(`Arity.admits_union_iff`), and so also the numbers between two ranges that do not touch.

Unions may be taken in any order and any grouping.  They are least among all ranges, as long as no
bounds are crossed (`Arity.Ordered.covers_union`): a range with crossed bounds admits nothing, and
still its bounds go into the union.  The ranges that callables are given are ordered, and so are
the ranges of routers in front of them (`Library.Wrapped.ordered_arity`).

The numbers of arguments may have a limit, as those that fit into a machine word have.  What a range
says beyond it does not matter then: a range up to the limit covers an open-ended one.
-/

set_option autoImplicit false

namespace HostCall

variable {H : Host}

namespace Arity

/-! ## Unions in any order and grouping -/

theorem union_comm (left right : Arity) : left.union right = right.union left := by
  obtain ⟨_, _ | _⟩ := left <;> obtain ⟨_, _ | _⟩ := right <;>
    simp [union, Nat.min_comm, Nat.max_comm]

theorem union_assoc (left middle right : Arity) :
    (left.union middle).union right = left.union (middle.union right) := by
  obtain ⟨_, _ | _⟩ := left <;> obtain ⟨_, _ | _⟩ := middle <;> obtain ⟨_, _ | _⟩ := right <;>
    simp [union, Nat.min_assoc, Nat.max_assoc]

theorem union_self (arity : Arity) : arity.union arity = arity := by
  obtain ⟨_, _ | _⟩ := arity <;> simp [union]

instance : Std.Commutative union := ⟨union_comm⟩

instance : Std.Associative union := ⟨union_assoc⟩

/-- What covers several ranges covers them in every order. -/
theorem covering_perm {first second : List Arity} (permuted : first.Perm second) :
    covering first = covering second := by
  induction permuted with
  | nil => rfl
  | cons range tails ih => exact tails.foldl_op_eq
  | swap left right rest => rw [covering, covering, List.foldl_cons, List.foldl_cons, union_comm]
  | trans _ _ before after => exact before.trans after

/-- What covers two groups of ranges is the union of what covers each of them. -/
theorem covering_append {first second : List Arity} (members : first ≠ []) (others : second ≠ []) :
    covering (first ++ second) = (covering first).union (covering second) := by
  cases first with
  | nil => exact absurd rfl members
  | cons left lefts =>
      cases second with
      | nil => exact absurd rfl others
      | cons right rights =>
          rw [List.cons_append, covering, covering, covering, List.foldl_append, List.foldl_cons,
            List.foldl_assoc]

/-- Ranges united two at a time, in some order and grouping. -/
inductive Grouping
  | one (range : Arity)
  | both (left right : Grouping)

namespace Grouping

/-- The ranges that are united, from left to right. -/
def ranges : Grouping → List Arity
  | one range => [range]
  | both left right => left.ranges ++ right.ranges

/-- The range that the unions come to. -/
def union : Grouping → Arity
  | one range => range
  | both left right => left.union.union right.union

theorem ranges_ne_nil (grouping : Grouping) : grouping.ranges ≠ [] := by
  induction grouping with
  | one range => exact List.cons_ne_nil _ _
  | both left right ih _ => exact List.append_ne_nil_of_left_ne_nil ih _

/-- **The order and the grouping of unions make no difference.** -/
theorem union_eq_covering (grouping : Grouping) : grouping.union = covering grouping.ranges := by
  induction grouping with
  | one range => rfl
  | both left right first second =>
      rw [union, ranges, covering_append left.ranges_ne_nil right.ranges_ne_nil, first, second]

end Grouping

/-! ## Ordered ranges -/

/-- The bounds are not crossed. -/
def Ordered (arity : Arity) : Prop := ∀ greatest ∈ arity.greatest, arity.least ≤ greatest

/-- The bounds lie within the limit, if there is one. -/
def Within (limit : Option Nat) (arity : Arity) : Prop :=
  ∀ most ∈ limit, arity.least ≤ most ∧ ∀ greatest ∈ arity.greatest, greatest ≤ most

/-- The outer range admits what the inner one admits, of the numbers up to the limit if there is
one. -/
def Covers (limit : Option Nat) (outer inner : Arity) : Prop :=
  ∀ count, (∀ most ∈ limit, count ≤ most) → inner.admits count = true → outer.admits count = true

/-- A union has come as far down as one of its sides. -/
theorem least_union_le_iff {left right : Arity} {count : Nat} :
    (left.union right).least ≤ count ↔ left.least ≤ count ∨ right.least ≤ count :=
  min_le_iff

/-- A union goes as far up as one of its sides. -/
theorem le_greatest_union_iff {left right : Arity} {count : Nat} :
    (∀ greatest ∈ (left.union right).greatest, count ≤ greatest) ↔
      (∀ greatest ∈ left.greatest, count ≤ greatest) ∨
        ∀ greatest ∈ right.greatest, count ≤ greatest := by
  obtain ⟨_, _ | _⟩ := left <;> obtain ⟨_, _ | _⟩ := right <;> simp [union]

/-- A union admits what lies between the lower end of one side and the upper end of one side. -/
theorem admits_union_iff {left right : Arity} {count : Nat} :
    (left.union right).admits count = true ↔
      (left.least ≤ count ∨ right.least ≤ count) ∧
        ((∀ greatest ∈ left.greatest, count ≤ greatest) ∨
          ∀ greatest ∈ right.greatest, count ≤ greatest) := by
  rw [admits_iff, least_union_le_iff, le_greatest_union_iff]

/-- Whatever lies between two numbers of a range is in the range. -/
theorem admits_between {arity : Arity} {low count high : Nat} (lower : arity.admits low = true)
    (upper : arity.admits high = true) (above : low ≤ count) (below : count ≤ high) :
    arity.admits count = true := by
  rw [admits_iff] at lower upper ⊢
  exact ⟨Nat.le_trans lower.1 above,
    fun greatest found => Nat.le_trans below (upper.2 greatest found)⟩

namespace Ordered

variable {arity left right : Arity} {limit : Option Nat}

theorem exact (count : Nat) : (Arity.exact count).Ordered := by
  rintro _ ⟨⟩
  exact Nat.le_refl count

theorem shift (ordered : arity.Ordered) (offset : Nat) : (arity.shift offset).Ordered := by
  intro greatest found
  obtain ⟨bound, isBound, rfl⟩ := Option.map_eq_some_iff.mp found
  exact Nat.add_le_add_right (ordered bound isBound) offset

theorem union (first : left.Ordered) (second : right.Ordered) : (left.union right).Ordered := by
  rw [Ordered, le_greatest_union_iff]
  rcases Nat.le_total left.least right.least with le | le
  · exact .inl fun greatest found => Nat.le_trans (Nat.min_le_left _ _) (first greatest found)
  · exact .inr fun greatest found => Nat.le_trans (Nat.min_le_right _ _) (second greatest found)

/-- The lower end of an ordered range is in it. -/
theorem admits_least (ordered : arity.Ordered) : arity.admits arity.least = true :=
  (admits_iff _ _).mpr ⟨Nat.le_refl _, ordered⟩

/-- An ordered range that goes as far up as a number admits one that is not smaller. -/
theorem exists_admits_of_le_greatest (ordered : arity.Ordered) (within : arity.Within limit)
    {count : Nat} (allowed : ∀ most ∈ limit, count ≤ most)
    (reached : ∀ greatest ∈ arity.greatest, count ≤ greatest) :
    ∃ high, count ≤ high ∧ (∀ most ∈ limit, high ≤ most) ∧ arity.admits high = true := by
  cases ends : arity.greatest with
  | some greatest =>
      refine ⟨greatest, reached greatest ends,
        fun most found => (within most found).2 greatest ends, (admits_iff _ _).mpr ?_⟩
      refine ⟨ordered greatest ends, fun other same => ?_⟩
      cases ends.symm.trans same
      exact Nat.le_refl greatest
  | none =>
      refine ⟨max count arity.least, Nat.le_max_left _ _,
        fun most found => Nat.max_le.mpr ⟨allowed most found, (within most found).1⟩,
        (admits_iff _ _).mpr ⟨Nat.le_max_right _ _, fun greatest found => ?_⟩⟩
      cases ends.symm.trans found

/-- **A union is the least range that covers both sides**: any range, be its bounds crossed or
not, that covers them covers the union. -/
theorem covers_union {outer : Arity} (first : left.Ordered) (second : right.Ordered)
    (firstWithin : left.Within limit) (secondWithin : right.Within limit)
    (coversLeft : outer.Covers limit left) (coversRight : outer.Covers limit right) :
    outer.Covers limit (left.union right) := by
  intro count allowed admitted
  obtain ⟨lower, upper⟩ := admits_union_iff.mp admitted
  -- the outer range admits a number at or below this one, and one at or above
  obtain ⟨low, below, outerLow⟩ : ∃ low, low ≤ count ∧ outer.admits low = true := by
    rcases lower with le | le
    · exact ⟨_, le, coversLeft _ (fun most found => (firstWithin most found).1)
        first.admits_least⟩
    · exact ⟨_, le, coversRight _ (fun most found => (secondWithin most found).1)
        second.admits_least⟩
  obtain ⟨high, above, outerHigh⟩ : ∃ high, count ≤ high ∧ outer.admits high = true := by
    rcases upper with reached | reached
    · obtain ⟨high, above, inside, admits⟩ :=
        first.exists_admits_of_le_greatest firstWithin allowed reached
      exact ⟨high, above, coversLeft high inside admits⟩
    · obtain ⟨high, above, inside, admits⟩ :=
        second.exists_admits_of_le_greatest secondWithin allowed reached
      exact ⟨high, above, coversRight high inside admits⟩
  exact admits_between outerLow outerHigh below above

end Ordered

theorem Within.union {limit : Option Nat} {left right : Arity} (first : left.Within limit)
    (second : right.Within limit) : (left.union right).Within limit := by
  intro most found
  obtain ⟨firstLow, firstHigh⟩ := first most found
  obtain ⟨_, secondHigh⟩ := second most found
  refine ⟨Nat.le_trans (Nat.min_le_left _ _) firstLow, fun greatest ends => ?_⟩
  cases leftEnds : left.greatest with
  | none => simp [Arity.union, leftEnds] at ends
  | some a =>
      cases rightEnds : right.greatest with
      | none => simp [Arity.union, leftEnds, rightEnds] at ends
      | some b =>
          simp only [Arity.union, leftEnds, rightEnds, Option.mem_some_iff] at ends
          subst ends
          exact Nat.max_le.mpr ⟨firstHigh a leftEnds, secondHigh b rightEnds⟩

/-! ## Several ranges -/

section Covering

variable {limit : Option Nat} {outer start : Arity} {ranges : List Arity}

theorem Ordered.foldl_union (first : start.Ordered) (each : ∀ range ∈ ranges, range.Ordered) :
    (ranges.foldl Arity.union start).Ordered := by
  induction ranges generalizing start with
  | nil => exact first
  | cons range rest ih =>
      exact ih (first.union (each range List.mem_cons_self))
        fun other member => each other (List.mem_cons_of_mem _ member)

/-- What covers ordered ranges is ordered. -/
theorem Ordered.covering (each : ∀ range ∈ ranges, range.Ordered) :
    (Arity.covering ranges).Ordered := by
  cases ranges with
  | nil => exact .exact 0
  | cons first rest =>
      exact .foldl_union (each first List.mem_cons_self)
        fun range member => each range (List.mem_cons_of_mem _ member)

theorem covers_foldl_union
    (first : start.Ordered ∧ start.Within limit ∧ outer.Covers limit start)
    (each : ∀ range ∈ ranges, range.Ordered ∧ range.Within limit ∧ outer.Covers limit range) :
    outer.Covers limit (ranges.foldl union start) := by
  induction ranges generalizing start with
  | nil => exact first.2.2
  | cons range rest ih =>
      obtain ⟨ordered, within, covers⟩ := first
      obtain ⟨nextOrdered, nextWithin, nextCovers⟩ := each range List.mem_cons_self
      refine ih ⟨ordered.union nextOrdered, within.union nextWithin, ?_⟩
        fun other member => each other (List.mem_cons_of_mem _ member)
      exact ordered.covers_union nextOrdered within nextWithin covers nextCovers

/-- A range that covers all of several ordered ranges covers the least range that does.  Of no
ranges at all there is no union, and no arguments are what stands for it. -/
theorem covers_covering
    (each : ∀ range ∈ ranges, range.Ordered ∧ range.Within limit ∧ outer.Covers limit range) :
    ranges = [] ∧ covering ranges = exact 0 ∨ outer.Covers limit (covering ranges) := by
  cases ranges with
  | nil => exact .inl ⟨rfl, rfl⟩
  | cons first rest =>
      exact .inr (covers_foldl_union (each first List.mem_cons_self)
        fun range member => each range (List.mem_cons_of_mem _ member))

end Covering

/-! ## Shifts -/

/-- Shifting two ranges shifts their union. -/
theorem shift_union (left right : Arity) (offset : Nat) :
    (left.union right).shift offset = (left.shift offset).union (right.shift offset) := by
  obtain ⟨_, _ | _⟩ := left <;> obtain ⟨_, _ | _⟩ := right <;>
    simp [union, shift, Nat.add_min_add_right, Nat.add_max_add_right]

/-- A list of parameters never needs more arguments than there are parameters. -/
theorem ordered_ofParameters (types : List SlotType) : (ofParameters types).Ordered := by
  rintro _ ⟨⟩
  have dropped : (types.reverse.dropWhile SlotType.isOptional).length ≤ types.reverse.length :=
    (List.dropWhile_sublist _).length_le
  rwa [List.length_reverse] at dropped

end Arity

/-! ## The ranges of callables -/

namespace Library

/-- A wrapped callable declares an ordered range. -/
theorem ordered_blockArity (library : Library H) {block : Block H.toVocabulary}
    (wrapped : block.isWrapped = true) : (library.blockArity block).Ordered := by
  cases block with
  | function name | boundMethod name _ | construct name => exact Arity.ordered_ofParameters _
  | method name => exact (Arity.ordered_ofParameters _).shift 1
  | field name | boundField name _ =>
      rintro _ ⟨⟩
      exact Nat.le_succ _
  | custom label name => cases wrapped

/-- So does a router in front of wrapped callables, at every depth. -/
theorem Wrapped.ordered_arity {library : Library H} {callback : Callback H.toVocabulary}
    (wrapped : library.Wrapped callback) : (library.arity callback).Ordered := by
  induction wrapped with
  | closure id wrapped => exact library.ordered_blockArity wrapped
  | router id shape each ih =>
      refine .covering fun range member => ?_
      obtain ⟨candidate, isCandidate, rfl⟩ := List.mem_map.mp member
      exact ih candidate isCandidate

/-- **Ranges are a join-semilattice, and joins fit what is admitted.**  Unions commute, associate
and are idempotent, and admit what either side admits.  Of two ordered ranges the union is the
least range that covers both, whether all numbers count or those up to a limit within which the
bounds lie.  A shift takes its offset off the number, and goes through unions.  Parameters, shifts
and fields have ordered ranges, and so has every wrapped callback.  And a router declares the
union of the ranges of its candidates, taken in any order and grouping: it admits what one of them
admits, and when they are ordered, it is ordered too and admits nothing outside a range that covers
all of them, a router without candidates apart. -/
theorem countRanges_joinSemilattice (library : Library H) :
    (∀ left middle right : Arity, left.union right = right.union left ∧
      (left.union middle).union right = left.union (middle.union right) ∧
      left.union left = left) ∧
    (∀ (left right : Arity) (count : Nat),
      left.admits count = true ∨ right.admits count = true →
        (left.union right).admits count = true) ∧
    (∀ (limit : Option Nat) (left right outer : Arity), left.Ordered → right.Ordered →
      left.Within limit → right.Within limit → outer.Covers limit left →
        outer.Covers limit right → outer.Covers limit (left.union right)) ∧
    (∀ (arity : Arity) (offset count : Nat), (arity.shift offset).admits count = true ↔
      offset ≤ count ∧ arity.admits (count - offset) = true) ∧
    (∀ (left right : Arity) (offset : Nat),
      (left.union right).shift offset = (left.shift offset).union (right.shift offset)) ∧
    ((∀ types, (Arity.ofParameters types).Ordered) ∧
      (∀ (arity : Arity) (offset : Nat), arity.Ordered → (arity.shift offset).Ordered) ∧
      (∀ name, (library.blockArity (.field name)).Ordered) ∧
      (∀ name receiver, (library.blockArity (.boundField name receiver)).Ordered) ∧
      ∀ callback, library.Wrapped callback → (library.arity callback).Ordered) ∧
    ∀ (candidates : List (Callback H.toVocabulary)) (shape : Shape) (world : World H),
      let ranges := candidates.map library.arity
      let declared := library.arity (Callback.route library shape candidates world).1
      (∀ grouping : Arity.Grouping, grouping.ranges.Perm ranges → grouping.union = declared) ∧
        (∀ count, (∃ range ∈ ranges, range.admits count = true) →
          declared.admits count = true) ∧
        ((∀ range ∈ ranges, range.Ordered) → declared.Ordered) ∧
        ∀ (limit : Option Nat) (outer : Arity),
          (∀ range ∈ ranges, range.Ordered ∧ range.Within limit ∧ outer.Covers limit range) →
            candidates = [] ∧ declared = .exact 0 ∨ outer.Covers limit declared := by
  refine ⟨fun left middle right =>
      ⟨left.union_comm right, left.union_assoc middle right, left.union_self⟩, ?_, ?_,
    Arity.admits_shift, Arity.shift_union, ⟨Arity.ordered_ofParameters, ?_, ?_, ?_, ?_⟩, ?_⟩
  · rintro left right count (admitted | admitted)
    · exact Arity.admits_union_left admitted
    · exact Arity.admits_union_right admitted
  · intro limit left right outer first second firstWithin secondWithin
    exact first.covers_union second firstWithin secondWithin
  · exact fun arity offset ordered => ordered.shift offset
  · exact fun name => library.ordered_blockArity rfl
  · exact fun name receiver => library.ordered_blockArity rfl
  · exact fun callback wrapped => wrapped.ordered_arity
  · intro candidates shape world ranges declared
    have isCovering : declared = Arity.covering ranges := rfl
    rw [isCovering]
    refine ⟨fun grouping permuted => ?_, ?_, fun each => .covering each,
      fun limit outer each => ?_⟩
    · rw [grouping.union_eq_covering, Arity.covering_perm permuted]
    · rintro count ⟨range, member, admitted⟩
      exact Arity.admits_covering member admitted
    · rcases Arity.covers_covering each with ⟨none, noArguments⟩ | covers
      · exact .inl ⟨List.map_eq_nil_iff.mp none, noArguments⟩
      · exact .inr covers

end Library

namespace Sample

/-- Where there are no more than ten arguments, the range from one to ten covers one argument and
three arguments or more, and so it covers the union of the two.  And a router over a function of no
arguments and one of two declares their union, also when it is taken the other way round. -/
theorem declaredRanges_united :
    (Arity.exact 1).Ordered ∧ (Arity.atLeast 3).Ordered ∧ (Arity.exact 1).Within (some 10) ∧
      (Arity.atLeast 3).Within (some 10) ∧ (Arity.range 1 10).Covers (some 10) (.exact 1) ∧
      (Arity.range 1 10).Covers (some 10) (.atLeast 3) ∧
      (Arity.range 1 10).Covers (some 10) (.union (.exact 1) (.atLeast 3)) ∧
      (Arity.exact 2).union (.exact 0) =
        (Session.library #[]).arity (Callback.route (Session.library #[]) .overloaded
          [.closure 0 (.function (.tag .none 1)), .closure 1 (.function (.tag .twoInts 2))]
          { memory := {} }).1 := by
  have first : (Arity.exact 1).Ordered := .exact 1
  have second : (Arity.atLeast 3).Ordered := by simp [Arity.Ordered, Arity.atLeast]
  have firstWithin : (Arity.exact 1).Within (some 10) := by simp [Arity.Within, Arity.exact]
  have secondWithin : (Arity.atLeast 3).Within (some 10) := by simp [Arity.Within, Arity.atLeast]
  have coversFirst : (Arity.range 1 10).Covers (some 10) (.exact 1) := by
    intro count _ admitted
    rw [(Arity.admits_exact 1 count).mp admitted]
    rfl
  have coversSecond : (Arity.range 1 10).Covers (some 10) (.atLeast 3) := by
    intro count allowed admitted
    have above : 3 ≤ count := ((Arity.admits_iff _ _).mp admitted).1
    refine (Arity.admits_iff _ _).mpr ⟨Nat.le_trans (by decide) above, ?_⟩
    rintro _ ⟨⟩
    exact allowed 10 rfl
  obtain ⟨_, _, least, _, _, _, routed⟩ := Library.countRanges_joinSemilattice (Session.library #[])
  refine ⟨first, second, firstWithin, secondWithin, coversFirst, coversSecond,
    least _ _ _ _ first second firstWithin secondWithin coversFirst coversSecond, ?_⟩
  have turned : [Arity.exact 2, .exact 0].Perm [.exact 0, .exact 2] := .swap _ _ []
  exact (routed _ .overloaded { memory := {} }).1 (.both (.one (.exact 2)) (.one (.exact 0))) turned

end Sample

end HostCall
