import HostCall.Proofs.HeapMap
import HostCall.Sample.Host

/-!
# Runs of heap operations

A run allocates, frees and writes in any order, with any handles.  Every heap that a run leads
to is consistent, so each operation on it does to the map what its name says: allocation adds
a new key, freeing removes one, writing changes the object under one without changing its type,
and nothing happens under any other key (`reached_refinesMap`).  In particular a handle reaches
an object of the type it was issued for until its key is freed.
-/

set_option autoImplicit false

namespace HostCall

variable {H : Host}

namespace Heap

/-! ## Operations and runs -/

/-- What can be done with a heap, with any handle and any object. -/
inductive Operation (H : Host)
  | allocate (object : Object H)
  | free (handle : Handle H.toVocabulary)
  /-- Write a new object in the place of the one behind a handle, if it is of that type. -/
  | write (handle : Handle H.toVocabulary) (object : Object H)
  /-- The same, asking why when it cannot be done. -/
  | tryWrite (handle : Handle H.toVocabulary) (object : Object H)

namespace Operation

/-- The key that an operation is asked to work on. -/
def target? : Operation H → Option Key
  | allocate _ => none
  | free handle | write handle _ | tryWrite handle _ => some handle.key

/-- The operation frees the key. -/
def Frees (operation : Operation H) (key : Key) : Prop :=
  ∃ handle, operation = free handle ∧ handle.key = key

end Operation

/-- The heap after an operation. -/
def step (heap : Heap H) : Operation H → Heap H
  | .allocate object => (heap.allocate object).1
  | .free handle => (heap.free handle).1
  | .write handle object => (heap.set? handle object.receiver object.value).getD heap
  | .tryWrite handle object => (heap.set handle object.receiver object.value).toOption.getD heap

/-- The heap after some operations, one after another. -/
def run (heap : Heap H) (operations : List (Operation H)) : Heap H := operations.foldl step heap

@[simp] theorem run_nil (heap : Heap H) : heap.run [] = heap := rfl

@[simp] theorem run_cons (heap : Heap H) (operation : Operation H)
    (operations : List (Operation H)) :
    heap.run (operation :: operations) = (heap.step operation).run operations := rfl

theorem run_append (heap : Heap H) (earlier later : List (Operation H)) :
    heap.run (earlier ++ later) = (heap.run earlier).run later :=
  List.foldl_append

section Writing

variable {heap : Heap H} {handle : Handle H.toVocabulary} {type : H.Receiver}

theorem get?_eq_some_iff {value : H.Value type} :
    heap.get? handle type = some value ↔ heap.objects handle.key = some ⟨type, value⟩ := by
  rw [get?, object?_eq_objects]
  cases heap.objects handle.key with
  | none => simp
  | some object =>
      simp only [Option.bind_some, Option.some.injEq]
      constructor
      · exact Object.eq_mk_of_as?
      · rintro rfl
        exact Object.as?_self type value

/-- Asking why makes no difference to what is reached. -/
theorem toOption_get (heap : Heap H) (handle : Handle H.toVocabulary) (type : H.Receiver) :
    (heap.get handle type).toOption = heap.get? handle type := by
  rw [get, get?]
  cases heap.object? handle with
  | none => rfl
  | some object =>
      simp only [Option.bind_some]
      cases object.as? type <;> rfl

/-- Nor to what is written. -/
theorem toOption_set (heap : Heap H) (handle : Handle H.toVocabulary) (type : H.Receiver)
    (value : H.Value type) :
    (heap.set handle type value).toOption = heap.set? handle type value := by
  rw [set_eq, set?_eq, ← toOption_get]
  cases heap.get handle type <;> rfl

theorem step_tryWrite (heap : Heap H) (handle : Handle H.toVocabulary) (object : Object H) :
    heap.step (.tryWrite handle object) = heap.step (.write handle object) := by
  rw [step, step, toOption_set]

/-- A write succeeds where an object of the type is reached. -/
theorem set?_of_objects {former : H.Value type}
    (found : heap.objects handle.key = some ⟨type, former⟩) (value : H.Value type) :
    heap.set? handle type value = some (heap.replace handle ⟨type, value⟩) := by
  rw [set?_eq, get?_eq_some_iff.mpr found]
  rfl

theorem set?_of_not_objects
    (absent : ∀ former, heap.objects handle.key ≠ some ⟨type, former⟩) (value : H.Value type) :
    heap.set? handle type value = none := by
  cases reached : heap.get? handle type with
  | none =>
      rw [set?_eq, reached]
      rfl
  | some former => exact absurd (get?_eq_some_iff.mp reached) (absent former)

/-- What is reached is reached, asking why. -/
theorem get_of_get? {value : H.Value type} (reached : heap.get? handle type = some value) :
    heap.get handle type = .ok value := by
  rw [← toOption_get] at reached
  cases asked : heap.get handle type with
  | error error =>
      rw [asked] at reached
      cases reached
  | ok found =>
      rw [asked] at reached
      exact congrArg Except.ok (Option.some.inj reached)

theorem contains_of_objects {object : Object H} (found : heap.objects handle.key = some object) :
    heap.contains handle = true := by
  rw [contains_iff_isSome, found]
  rfl

/-- What was written is reached. -/
theorem get?_replace_self {former : H.Value type} (reached : heap.get? handle type = some former)
    (value : H.Value type) : (heap.replace handle ⟨type, value⟩).get? handle type = some value := by
  rw [get?, object?_replace_self (contains_of_objects (get?_eq_some_iff.mp reached))]
  exact Object.as?_self type value

/-- Replacing an object by itself changes nothing. -/
theorem replace_self {object : Object H} (found : heap.objects handle.key = some object) :
    heap.replace handle object = heap := by
  have there := objects_eq_some_iff.mp found
  have inside : handle.index.toNat < heap.places.size :=
    (Array.getElem?_eq_some_iff.mp there).1
  rw [replace_of_contains (contains_of_objects found)]
  refine congrArg (Heap.mk · heap.vacant) (Array.ext_getElem? fun index => ?_)
  rw [Array.getElem?_setIfInBounds]
  by_cases same : handle.index.toNat = index
  · subst same
    rw [if_pos rfl, if_pos inside]
    exact there.symm
  · rw [if_neg same]

/-- A write replaces an object by another one of its type, or does nothing. -/
theorem step_write_cases (heap : Heap H) (handle : Handle H.toVocabulary) (object : Object H) :
    (∃ former, heap.objects handle.key = some ⟨object.receiver, former⟩ ∧
        heap.step (.write handle object) = heap.replace handle object) ∨
      heap.step (.write handle object) = heap := by
  by_cases reached : ∃ former, heap.objects handle.key = some ⟨object.receiver, former⟩
  · obtain ⟨former, found⟩ := reached
    refine .inl ⟨former, found, ?_⟩
    rw [step, set?_of_objects found]
    rfl
  · rw [not_exists] at reached
    refine .inr ?_
    rw [step, set?_of_not_objects reached]
    rfl

end Writing

/-! ## What an operation keeps -/

namespace Consistent

variable {heap : Heap H}

theorem step (consistent : heap.Consistent) (operation : Operation H) :
    Consistent (heap.step operation) := by
  have written (handle : Handle H.toVocabulary) (object : Object H) :
      Consistent (heap.step (.write handle object)) := by
    rcases step_write_cases heap handle object with ⟨_, _, replaced⟩ | kept
    · rw [replaced]
      exact consistent.replace handle object
    · rwa [kept]
  cases operation with
  | allocate object => exact consistent.allocate object
  | free handle => exact consistent.free handle
  | write handle object => exact written handle object
  | tryWrite handle object =>
      rw [step_tryWrite]
      exact written handle object

theorem run (consistent : heap.Consistent) (operations : List (Operation H)) :
    Consistent (heap.run operations) := by
  induction operations generalizing heap with
  | nil => exact consistent
  | cons operation operations ih => exact ih (consistent.step operation)

/-- An operation leaves every live object alone but the one that it is asked to work on. -/
theorem objects_step_of_ne (consistent : heap.Consistent) {operation : Operation H} {key : Key}
    {live : Object H} (found : heap.objects key = some live)
    (other : operation.target? ≠ some key) : (heap.step operation).objects key = some live := by
  have written (handle : Handle H.toVocabulary) (object : Object H) (apart : key ≠ handle.key) :
      (heap.step (.write handle object)).objects key = some live := by
    rcases step_write_cases heap handle object with ⟨former, reached, replaced⟩ | kept
    · rw [replaced, objects_replace (contains_of_objects reached),
        Function.update_of_ne apart, found]
    · rw [kept, found]
  cases operation with
  | allocate object => exact consistent.objects_allocate_of_live found object
  | free handle =>
      have apart : key ≠ handle.key := fun same => other (congrArg some same.symm)
      rw [Heap.step]
      cases present : heap.contains handle with
      | true => rw [objects_free present, Function.update_of_ne apart, found]
      | false => rw [free_of_not_contains present, found]
  | write handle object => exact written handle object fun same => other (congrArg some same.symm)
  | tryWrite handle object =>
      rw [step_tryWrite]
      exact written handle object fun same => other (congrArg some same.symm)

/-- Unless it is freed, a live object stays live, and of the same type. -/
theorem type_step (consistent : heap.Consistent) {operation : Operation H} {key : Key}
    {live : Object H} (found : heap.objects key = some live) (kept : ¬ operation.Frees key) :
    ∃ value, (heap.step operation).objects key = some ⟨live.receiver, value⟩ := by
  have written (handle : Handle H.toVocabulary) (object : Object H)
      (same : handle.key = key) : ∃ value,
        (heap.step (.write handle object)).objects key = some ⟨live.receiver, value⟩ := by
    subst same
    rcases step_write_cases heap handle object with ⟨former, reached, replaced⟩ | kept
    · -- what was written is of the type of what was there
      cases reached.symm.trans found
      exact ⟨object.value, by
        rw [replaced, objects_replace (contains_of_objects reached), Function.update_self]⟩
    · exact ⟨live.value, by rw [kept, found]⟩
  by_cases elsewhere : operation.target? = some key
  · cases operation with
    | allocate object => cases elsewhere
    | free handle => exact absurd ⟨handle, rfl, Option.some.inj elsewhere⟩ kept
    | write handle object => exact written handle object (Option.some.inj elsewhere)
    | tryWrite handle object =>
        rw [step_tryWrite]
        exact written handle object (Option.some.inj elsewhere)
  · exact ⟨live.value, consistent.objects_step_of_ne found elsewhere⟩

/-- So a live object stays live, and of the same type, over any run that does not free it. -/
theorem type_run (consistent : heap.Consistent) {operations : List (Operation H)} {key : Key}
    {live : Object H} (found : heap.objects key = some live)
    (kept : ∀ operation ∈ operations, ¬ operation.Frees key) :
    ∃ value, (heap.run operations).objects key = some ⟨live.receiver, value⟩ := by
  induction operations generalizing heap live with
  | nil => exact ⟨live.value, found⟩
  | cons operation operations ih =>
      obtain ⟨value, there⟩ := consistent.type_step found (kept operation List.mem_cons_self)
      have rest := ih (consistent.step operation) there
        fun later member => kept later (List.mem_cons_of_mem _ member)
      exact rest

end Consistent

/-! ## Refinement -/

/-- A heap behaves as the map that it stands for. -/
structure RefinesMap (heap : Heap H) : Prop where
  /-- The list of vacant indices names each vacant place once, -/
  vacant_nodup : heap.vacant.Nodup
  /-- and no other place. -/
  mem_vacant_iff : ∀ index : UInt32, index ∈ heap.vacant ↔
    ∃ generation, heap.places[index.toNat]? = some (.vacant generation)
  /-- The number of live objects is no difference below zero: it counts the occupied places. -/
  size_eq : heap.vacant.length ≤ heap.places.size ∧
    heap.size = heap.places.countP Place.isOccupied
  /-- Reading is looking a key up. -/
  contains_iff : ∀ handle : Handle H.toVocabulary,
    heap.contains handle = true ↔ (heap.objects handle.key).isSome = true
  get?_eq : ∀ (handle : Handle H.toVocabulary) (type : H.Receiver),
    heap.get? handle type = (heap.objects handle.key).bind (·.as? type)
  get_eq : ∀ (handle : Handle H.toVocabulary) (type : H.Receiver),
    heap.get handle type =
      match heap.objects handle.key with
      | none => .error (.staleHandle handle.index)
      | some object =>
          match object.as? type with
          | some value => .ok value
          | none => .error (.invalidReceiver ("object is not a " ++ H.receiverName type))
  /-- Allocation adds a key that was not there, of the type that its handle says. -/
  allocate : ∀ object : Object H,
    heap.objects (heap.allocate object).2.key = none ∧
      (heap.allocate object).1.objects =
        Function.update heap.objects (heap.allocate object).2.key (some object) ∧
      (heap.allocate object).2.receiver = object.receiver
  /-- Freeing removes a key that is there, and says so; else it does nothing. -/
  free : ∀ handle : Handle H.toVocabulary,
    ((heap.free handle).2 = true ↔ (heap.objects handle.key).isSome = true) ∧
      ((heap.free handle).2 = true →
        (heap.free handle).1.objects = Function.update heap.objects handle.key none) ∧
      ((heap.free handle).2 = false → (heap.free handle).1 = heap)
  /-- Writing changes the object under a key, if it is of the type that is written. -/
  set? : ∀ (handle : Handle H.toVocabulary) (type : H.Receiver) (value : H.Value type),
    match heap.set? handle type value with
    | some next =>
        (∃ former, heap.objects handle.key = some ⟨type, former⟩) ∧
          next.objects = Function.update heap.objects handle.key (some ⟨type, value⟩)
    | none => ¬ ∃ former, heap.objects handle.key = some ⟨type, former⟩
  set_eq : ∀ (handle : Handle H.toVocabulary) (type : H.Receiver) (value : H.Value type),
    (heap.set handle type value).toOption = heap.set? handle type value
  /-- No operation touches a live object that it is not asked to work on. -/
  others_kept : ∀ (operation : Operation H) (key : Key) (live : Object H),
    heap.objects key = some live → operation.target? ≠ some key →
      (heap.step operation).objects key = some live
  /-- A handle reaches an object of its type until its key is freed. -/
  issued_kept : ∀ (object : Object H) (later : List (Operation H)),
    (∀ operation ∈ later, ¬ operation.Frees (heap.allocate object).2.key) →
      ∃ value, ((heap.allocate object).1.run later).get? (heap.allocate object).2
        object.receiver = some value

theorem receiver_allocate (heap : Heap H) (object : Object H) :
    (heap.allocate object).2.receiver = object.receiver := by
  rw [allocate]
  split <;> rfl

/-- A consistent heap behaves as its map, while there are places that a handle can name. -/
theorem Consistent.refinesMap {heap : Heap H} (consistent : heap.Consistent)
    (few : heap.places.size < 2 ^ 32) : heap.RefinesMap where
  vacant_nodup := consistent.nodup
  mem_vacant_iff := consistent.mem_vacant_iff
  size_eq := ⟨consistent.length_vacant_le, consistent.size_eq⟩
  contains_iff := fun _ => contains_iff_isSome
  get?_eq := fun handle type => by rw [get?, object?_eq_objects]
  get_eq := fun handle type => by
    rw [← object?_eq_objects]
    rfl
  allocate := fun object =>
    ⟨(consistent.objects_allocate few object).1, (consistent.objects_allocate few object).2,
      receiver_allocate heap object⟩
  free := fun handle => by
    rw [free_snd]
    exact ⟨contains_iff_isSome, objects_free,
      fun absent => congrArg Prod.fst (free_of_not_contains absent)⟩
  set? := fun handle type value => by
    by_cases reached : ∃ former, heap.objects handle.key = some ⟨type, former⟩
    · obtain ⟨former, found⟩ := reached
      rw [set?_of_objects found]
      exact ⟨⟨former, found⟩, objects_replace (contains_of_objects found) _⟩
    · rw [set?_of_not_objects (not_exists.mp reached)]
      exact reached
  set_eq := toOption_set heap
  others_kept := fun _ _ _ found other => consistent.objects_step_of_ne found other
  issued_kept := fun object later kept => by
    have there : (heap.allocate object).1.objects (heap.allocate object).2.key = some object := by
      rw [(consistent.objects_allocate few object).2, Function.update_self]
    obtain ⟨value, reached⟩ := (consistent.allocate object).type_run there kept
    exact ⟨value, get?_eq_some_iff.mpr reached⟩

/-- **A heap refines a finite map.**  Start from an empty heap and allocate, free and write in
any order, with any handles.  As long as there are fewer than 2³² places, the heap behaves as
the map from the keys of its occupied places to the objects in them. -/
theorem reached_refinesMap (operations : List (Operation H))
    (few : (({} : Heap H).run operations).places.size < 2 ^ 32) :
    RefinesMap (({} : Heap H).run operations) :=
  (Consistent.empty.run operations).refinesMap few

end Heap

namespace Sample

open Heap

/-- Two counters, the first of which is freed and freed once more. -/
def freedTwice : List (Heap.Operation host) :=
  [.allocate ⟨.counter, ⟨3⟩⟩, .allocate ⟨.counter, ⟨5⟩⟩, .free ⟨0, 0, .counter⟩,
    .free ⟨0, 0, .counter⟩]

/-- Freeing twice gives the place back once, and the next counter takes it under another
key. -/
theorem refinesMap_freedTwice :
    (({} : Heap host).run freedTwice).places.size < 2 ^ 32 ∧
      (({} : Heap host).run freedTwice).RefinesMap ∧
      (({} : Heap host).run freedTwice).vacant = [0] ∧
      ((({} : Heap host).run freedTwice).allocate ⟨.counter, ⟨7⟩⟩).2.key = ⟨0, 1⟩ := by
  have few : (({} : Heap host).run freedTwice).places.size < 2 ^ 32 := by decide
  exact ⟨few, reached_refinesMap freedTwice few, rfl, rfl⟩

end Sample

end HostCall
