import HostCall.Heap
import Mathlib.Algebra.Group.Nat.Defs
import Mathlib.Logic.Function.Basic

/-!
# The heap as a map

An object of a heap has a key: the index of its place and the generation that the place has.
`Heap.objects` is the map from keys to objects that a heap stands for, and a handle is a key
together with the type that it was issued for.

A heap is consistent when its list of vacant indices names each vacant place once and no other
place.  Allocating, freeing and replacing keep a heap consistent, whatever handle they are
given: a stale one, one that was freed before, or one that another heap issued.  What each of
them does to the map is what its name says (`Consistent.objects_allocate`, `objects_free`,
`objects_replace`): all of them change a single place, and the map under its key
(`objects_put`).
-/

set_option autoImplicit false

namespace HostCall

variable {H : Host}

/-! ## Keys and objects -/

/-- What tells an object of a heap from every other one: its place, and the generation under
which it was put there. -/
structure Key where
  index : UInt32
  generation : UInt32
deriving DecidableEq

/-- The key of a handle, whatever type it was issued for. -/
def Handle.key {V : Vocabulary} (handle : Handle V) : Key := ⟨handle.index, handle.generation⟩

namespace Place

/-- The place is in use. -/
def isOccupied : Place H → Bool
  | occupied _ _ => true
  | vacant _ => false

/-- What the place holds under a generation. -/
def object? : Place H → (generation : UInt32) → Option (Object H)
  | occupied generation object, asked => if asked = generation then some object else none
  | vacant _, _ => none

/-- A place holds nothing under a generation that it does not have. -/
theorem object?_of_ne {place : Place H} {asked : UInt32} (other : asked ≠ place.generation) :
    place.object? asked = none := by
  cases place with
  | occupied generation object => exact if_neg other
  | vacant generation => rfl

end Place

namespace Heap

/-- The map that a heap stands for: the objects in its occupied places, each under its key. -/
def objects (heap : Heap H) (key : Key) : Option (Object H) :=
  heap.places[key.index.toNat]?.bind (·.object? key.generation)

/-- A handle reaches what lies under its key. -/
theorem object?_eq_objects (heap : Heap H) (handle : Handle H.toVocabulary) :
    heap.object? handle = heap.objects handle.key := by
  rw [object?, objects, Handle.key]
  cases heap.places[handle.index.toNat]? with
  | none => rfl
  | some place =>
      cases place with
      | occupied generation object => simp only [Option.bind_some, Place.object?, eq_comm]
      | vacant generation => rfl

theorem contains_iff_isSome {heap : Heap H} {handle : Handle H.toVocabulary} :
    heap.contains handle = true ↔ (heap.objects handle.key).isSome = true := by
  rw [contains, object?_eq_objects]

theorem objects_eq_some_iff {heap : Heap H} {key : Key} {object : Object H} :
    heap.objects key = some object ↔
      heap.places[key.index.toNat]? = some (.occupied key.generation object) := by
  -- a key is the key of some handle, of any type
  let handle : Handle H.toVocabulary := ⟨key.index, key.generation, object.receiver⟩
  have reached : heap.object? handle = some object ↔ _ := object?_eq_some_iff
  rwa [object?_eq_objects] at reached

/-- Where the object of a live handle lies. -/
theorem occupied_of_contains {heap : Heap H} {handle : Handle H.toVocabulary}
    (present : heap.contains handle = true) :
    ∃ object, heap.places[handle.index.toNat]? = some (.occupied handle.generation object) := by
  obtain ⟨object, reached⟩ := contains_iff.mp present
  exact ⟨object, object?_eq_some_iff.mp reached⟩

/-! ## One place changed -/

section Put

variable {places : Array (Place H)} {index : UInt32} {former : Place H}

theorem getElem?_put_self (found : places[index.toNat]? = some former) (place : Place H) :
    (places.setIfInBounds index.toNat place)[index.toNat]? = some place := by
  obtain ⟨inside, _⟩ := Array.getElem?_eq_some_iff.mp found
  rw [Array.getElem?_setIfInBounds, if_pos rfl, if_pos inside]

theorem getElem?_put_of_ne {asked : UInt32} (other : asked ≠ index) (place : Place H) :
    (places.setIfInBounds index.toNat place)[asked.toNat]? = places[asked.toNat]? := by
  have apart : index.toNat ≠ asked.toNat := fun same => other (UInt32.toNat_inj.mp same).symm
  rw [Array.getElem?_setIfInBounds, if_neg apart]

/-- The number of occupied places after one was changed. -/
theorem countP_put (found : places[index.toNat]? = some former) (place : Place H) :
    (places.setIfInBounds index.toNat place).countP Place.isOccupied + former.isOccupied.toNat =
      places.countP Place.isOccupied + place.isOccupied.toNat := by
  obtain ⟨inside, there⟩ := Array.getElem?_eq_some_iff.mp found
  rw [Array.setIfInBounds, dif_pos inside, Array.countP_set, there]
  cases occupied : former.isOccupied with
  | false => cases place.isOccupied <;> simp
  | true =>
      have counted : 0 < places.countP Place.isOccupied :=
        Array.countP_pos_iff.mpr ⟨former, Array.mem_of_getElem? found, occupied⟩
      cases place.isOccupied <;> simp <;> omega

/-- A heap in which one place is changed stands for a map that is changed under the key which
that place had, provided that the place now holds nothing under any other key. -/
theorem objects_put {heap : Heap H} (found : heap.places[index.toNat]? = some former)
    {place : Place H} {content : Option (Object H)}
    (held : ∀ asked, place.object? asked = if asked = former.generation then content else none)
    (vacant : List UInt32) :
    objects ⟨heap.places.setIfInBounds index.toNat place, vacant⟩ =
      Function.update heap.objects ⟨index, former.generation⟩ content := by
  funext asked
  obtain ⟨there, generation⟩ := asked
  by_cases here : there = index
  · subst here
    simp only [objects, getElem?_put_self found, Option.bind_some]
    rw [held]
    by_cases current : generation = former.generation
    · subst current
      rw [if_pos rfl, Function.update_self]
    · have other : (⟨there, generation⟩ : Key) ≠ ⟨there, former.generation⟩ := by
        simp [current]
      rw [if_neg current, Function.update_of_ne other, objects, found]
      exact (Place.object?_of_ne current).symm
  · have other : (⟨there, generation⟩ : Key) ≠ ⟨index, former.generation⟩ := by
      simp [here]
    rw [Function.update_of_ne other]
    simp only [objects, getElem?_put_of_ne here]

end Put

/-! ## What each operation does to the places -/

section Operations

variable {heap : Heap H} {handle : Handle H.toVocabulary}

/-- A heap without vacant places grows. -/
theorem allocate_of_nil (full : heap.vacant = []) (object : Object H) :
    heap.allocate object =
      (⟨heap.places.push (.occupied 0 object), []⟩,
        ⟨UInt32.ofNat heap.places.size, 0, object.receiver⟩) := by
  rw [allocate, full]

/-- Otherwise the place that was vacated last is used again, under the generation it has. -/
theorem allocate_of_cons {index generation : UInt32} {rest : List UInt32}
    (next : heap.vacant = index :: rest)
    (found : heap.places[index.toNat]? = some (.vacant generation)) (object : Object H) :
    heap.allocate object =
      (⟨heap.places.setIfInBounds index.toNat (.occupied generation object), rest⟩,
        ⟨index, generation, object.receiver⟩) := by
  rw [allocate, next]
  simp only [found, Option.map_some, Option.getD_some, Place.generation]

theorem free_of_contains (present : heap.contains handle = true) :
    heap.free handle =
      (⟨heap.places.setIfInBounds handle.index.toNat (.vacant (handle.generation + 1)),
        handle.index :: heap.vacant⟩, true) :=
  if_pos present

theorem replace_of_contains (present : heap.contains handle = true) (object : Object H) :
    heap.replace handle object =
      ⟨heap.places.setIfInBounds handle.index.toNat (.occupied handle.generation object),
        heap.vacant⟩ :=
  if_pos present

theorem replace_of_not_contains (absent : heap.contains handle = false) (object : Object H) :
    heap.replace handle object = heap :=
  if_neg (by simp [absent])

end Operations

/-! ## Consistency -/

/-- The list of vacant indices is that of the vacant places, each named once. -/
structure Consistent (heap : Heap H) : Prop where
  nodup : heap.vacant.Nodup
  mem_vacant_iff : ∀ index : UInt32, index ∈ heap.vacant ↔
    ∃ generation, heap.places[index.toNat]? = some (.vacant generation)
  balanced : heap.places.countP Place.isOccupied + heap.vacant.length = heap.places.size

namespace Consistent

theorem empty : Consistent ({} : Heap H) where
  nodup := List.nodup_nil
  mem_vacant_iff := by simp
  balanced := rfl

variable {heap : Heap H}

/-- The two ways in which a consistent heap makes room. -/
theorem allocate_cases (consistent : heap.Consistent) (object : Object H) :
    (heap.vacant = [] ∧ heap.allocate object =
        (⟨heap.places.push (.occupied 0 object), []⟩,
          ⟨UInt32.ofNat heap.places.size, 0, object.receiver⟩)) ∨
      ∃ index generation rest, heap.vacant = index :: rest ∧
        heap.places[index.toNat]? = some (.vacant generation) ∧
        heap.allocate object =
          (⟨heap.places.setIfInBounds index.toNat (.occupied generation object), rest⟩,
            ⟨index, generation, object.receiver⟩) := by
  cases next : heap.vacant with
  | nil => exact .inl ⟨rfl, allocate_of_nil next object⟩
  | cons index rest =>
      obtain ⟨generation, found⟩ :=
        (consistent.mem_vacant_iff index).mp (next ▸ List.mem_cons_self)
      exact .inr ⟨index, generation, rest, rfl, found, allocate_of_cons next found object⟩

/-- The number of live objects is that of the occupied places. -/
theorem size_eq (consistent : heap.Consistent) :
    heap.size = heap.places.countP Place.isOccupied := by
  have balanced := consistent.balanced
  rw [size]
  omega

/-- There are no more vacant indices than places. -/
theorem length_vacant_le (consistent : heap.Consistent) :
    heap.vacant.length ≤ heap.places.size := by
  have balanced := consistent.balanced
  omega

/-- Growing keeps the list of vacant indices, which is empty. -/
theorem grow (consistent : heap.Consistent) (full : heap.vacant = []) (object : Object H) :
    Consistent ⟨heap.places.push (.occupied 0 object), []⟩ := by
  refine ⟨List.nodup_nil, fun asked => ?_, ?_⟩
  · have unlisted := consistent.mem_vacant_iff asked
    rw [full] at unlisted
    rw [Array.getElem?_push]
    split
    · simp
    · exact unlisted
  · have balanced := consistent.balanced
    rw [full, List.length_nil, Nat.add_zero] at balanced
    rw [Array.countP_push, Array.size_push, balanced]
    rfl

/-- Occupying the first vacant place takes its index off the list. -/
theorem refill (consistent : heap.Consistent) {index generation : UInt32} {rest : List UInt32}
    (next : heap.vacant = index :: rest)
    (found : heap.places[index.toNat]? = some (.vacant generation)) (object : Object H) :
    Consistent ⟨heap.places.setIfInBounds index.toNat (.occupied generation object), rest⟩ := by
  have nodup := List.nodup_cons.mp (next ▸ consistent.nodup)
  refine ⟨nodup.2, fun asked => ?_, ?_⟩
  · by_cases same : asked = index
    · subst same
      simp [getElem?_put_self found, nodup.1]
    · have listed := consistent.mem_vacant_iff asked
      rw [next, List.mem_cons, or_iff_right same] at listed
      simp only [getElem?_put_of_ne same, listed]
  · have counted := countP_put found (.occupied generation object)
    have balanced := consistent.balanced
    simp only [next, List.length_cons, Place.isOccupied, Bool.toNat_true, Bool.toNat_false,
      Array.size_setIfInBounds] at counted balanced ⊢
    omega

theorem allocate (consistent : heap.Consistent) (object : Object H) :
    Consistent (heap.allocate object).1 := by
  rcases consistent.allocate_cases object with
    ⟨full, grown⟩ | ⟨index, generation, rest, next, found, refilled⟩
  · rw [grown]
    exact consistent.grow full object
  · rw [refilled]
    exact consistent.refill next found object

theorem free (consistent : heap.Consistent) (handle : Handle H.toVocabulary) :
    Consistent (heap.free handle).1 := by
  cases present : heap.contains handle with
  | false => rwa [free_of_not_contains present]
  | true =>
      obtain ⟨object, found⟩ := occupied_of_contains present
      have unlisted : handle.index ∉ heap.vacant := by
        rw [consistent.mem_vacant_iff, found]
        simp
      rw [free_of_contains present]
      refine ⟨List.nodup_cons.mpr ⟨unlisted, consistent.nodup⟩, fun asked => ?_, ?_⟩
      · by_cases same : asked = handle.index
        · subst same
          simp [getElem?_put_self found]
        · simp only [List.mem_cons, or_iff_right same, getElem?_put_of_ne same,
            consistent.mem_vacant_iff]
      · have counted := countP_put found (.vacant (handle.generation + 1))
        have balanced := consistent.balanced
        simp only [List.length_cons, Place.isOccupied, Bool.toNat_true, Bool.toNat_false,
          Array.size_setIfInBounds] at counted balanced ⊢
        omega

theorem replace (consistent : heap.Consistent) (handle : Handle H.toVocabulary)
    (object : Object H) : Consistent (heap.replace handle object) := by
  cases present : heap.contains handle with
  | false => rwa [replace_of_not_contains present]
  | true =>
      obtain ⟨former, found⟩ := occupied_of_contains present
      rw [replace_of_contains present]
      refine ⟨consistent.nodup, fun asked => ?_, ?_⟩
      · rw [consistent.mem_vacant_iff]
        by_cases same : asked = handle.index
        · subst same
          simp only [getElem?_put_self found, found, Option.some.injEq, reduceCtorEq]
        · simp only [getElem?_put_of_ne same]
      · have counted := countP_put found (.occupied handle.generation object)
        have balanced := consistent.balanced
        simp only [Place.isOccupied, Bool.toNat_true, Array.size_setIfInBounds]
          at counted balanced ⊢
        omega

end Consistent

/-! ## What each operation does to the map -/

section Map

variable {heap : Heap H} {handle : Handle H.toVocabulary}

/-- The key of a new object is new, as long as there are places that a handle can name, and
the object lies under it. -/
theorem Consistent.objects_allocate (consistent : heap.Consistent)
    (few : heap.places.size < 2 ^ 32) (object : Object H) :
    heap.objects (heap.allocate object).2.key = none ∧
      (heap.allocate object).1.objects =
        Function.update heap.objects (heap.allocate object).2.key (some object) := by
  rcases consistent.allocate_cases object with
    ⟨_, grown⟩ | ⟨index, generation, rest, _, found, refilled⟩
  · rw [grown]
    have top : (UInt32.ofNat heap.places.size).toNat = heap.places.size :=
      UInt32.toNat_ofNat_of_lt' few
    have absent (asked : UInt32) :
        heap.objects ⟨UInt32.ofNat heap.places.size, asked⟩ = none := by
      rw [objects, top, Array.getElem?_eq_none_iff.mpr (Nat.le_refl _)]
      rfl
    refine ⟨absent 0, funext fun asked => ?_⟩
    obtain ⟨index, generation⟩ := asked
    by_cases last : index = UInt32.ofNat heap.places.size
    · subst last
      simp only [objects, top, Array.getElem?_push, if_true, Option.bind_some, Place.object?]
      by_cases first : generation = 0
      · subst first
        exact (Function.update_self _ _ heap.objects).symm
      · have other : (⟨UInt32.ofNat heap.places.size, generation⟩ : Key) ≠
            ⟨UInt32.ofNat heap.places.size, 0⟩ := by simp [first]
        rw [if_neg first]
        exact ((Function.update_of_ne other _ heap.objects).trans (absent generation)).symm
    · have other : (⟨index, generation⟩ : Key) ≠ ⟨UInt32.ofNat heap.places.size, 0⟩ := by
        simp [last]
      have earlier : index.toNat ≠ heap.places.size := fun same =>
        last (UInt32.toNat_inj.mp (same.trans top.symm))
      refine Eq.trans ?_ (Function.update_of_ne other _ heap.objects).symm
      simp only [objects, Array.getElem?_push, if_neg earlier]
  · rw [refilled]
    refine ⟨?_, objects_put found (fun asked => rfl) rest⟩
    simp only [objects, Handle.key, found, Option.bind_some, Place.object?]

/-- A new object never disturbs a live one, however many places there are. -/
theorem Consistent.objects_allocate_of_live (consistent : heap.Consistent) {key : Key}
    {live : Object H} (found : heap.objects key = some live) (object : Object H) :
    (heap.allocate object).1.objects key = some live := by
  rw [objects_eq_some_iff] at found ⊢
  rcases consistent.allocate_cases object with
    ⟨_, grown⟩ | ⟨index, generation, rest, _, vacant, refilled⟩
  · obtain ⟨inside, _⟩ := Array.getElem?_eq_some_iff.mp found
    rw [grown, Array.getElem?_push, if_neg (Nat.ne_of_lt inside), found]
  · have other : key.index ≠ index := by
      rintro rfl
      rw [found] at vacant
      cases vacant
    rw [refilled, getElem?_put_of_ne other, found]

/-- Freeing removes the key of a live handle, and nothing else. -/
theorem objects_free (present : heap.contains handle = true) :
    (heap.free handle).1.objects = Function.update heap.objects handle.key none := by
  obtain ⟨object, found⟩ := occupied_of_contains present
  rw [free_of_contains present]
  refine objects_put found (fun asked => ?_) _
  rw [ite_self]
  rfl

/-- Overwriting changes what lies under the key of a live handle, and nothing else. -/
theorem objects_replace (present : heap.contains handle = true) (object : Object H) :
    (heap.replace handle object).objects =
      Function.update heap.objects handle.key (some object) := by
  obtain ⟨former, found⟩ := occupied_of_contains present
  rw [replace_of_contains present]
  exact objects_put found (fun asked => rfl) _

end Map

end Heap

end HostCall
