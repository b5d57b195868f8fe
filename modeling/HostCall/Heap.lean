import HostCall.Fault
import HostCall.Slot

/-!
# The object heap

Receiver objects that outlive a call live in a heap and are reached by handles.
A place of the heap is occupied or vacant, and in both cases it has a generation;
a handle reaches an object only while its place still has the generation that the
handle was issued under.  Freeing an object raises the generation of its place,
so the handle goes stale and stays so when the place is used again, until the
32-bit count comes round.

Vacant places are used again, the one vacated last before the others, and the
heap grows only when there is none.

An object is looked up to be read (`Heap.object?`, `Heap.get?`, `Heap.get`) or to
be overwritten (`Heap.objectMut?`, `Heap.getMut?`, `Heap.getMut`).  The latter
lookups give a `Mutable` reference: the value, and the heap that is left when
another value is put in its place.

The view of a heap is `Heap.object?`, from handles to objects; the lemmas say
what each operation does to it, and that a lookup to overwrite finds what a lookup
to read finds.
-/

set_option autoImplicit false

namespace HostCall

/-! ## Mutable references -/

/-- A mutable reference to a value inside a whole: the value, and the whole that is
left when another value is put in its place. -/
structure Mutable (Value Whole : Type) where
  value : Value
  put : Value → Whole

namespace Mutable

variable {H : Host} {Value Inner Outer : Type}

/-- The reference as one to a value of the type asked for, if the object is of that
type. -/
def as? (reached : Mutable (Object H) Outer) (receiver : H.Receiver) :
    Option (Mutable (H.Value receiver) Outer) :=
  (reached.value.as? receiver).map fun value => ⟨value, fun next => reached.put ⟨receiver, next⟩⟩

/-- A reference into a part, as one into the whole that has the part. -/
def within (reached : Mutable Value Inner) (embed : Inner → Outer) : Mutable Value Outer :=
  ⟨reached.value, fun next => embed (reached.put next)⟩

end Mutable

/-! ## Heaps -/

/-- One place of a heap. -/
inductive Place (H : Host)
  | occupied (generation : UInt32) (object : Object H)
  | vacant (generation : UInt32)

/-- The generation of a place. -/
def Place.generation {H : Host} : Place H → UInt32
  | occupied generation _ => generation
  | vacant generation => generation

/-- The places of a heap, and the indices of the vacant ones, the last vacated
first. -/
structure Heap (H : Host) where
  places : Array (Place H) := #[]
  vacant : List UInt32 := []

namespace Heap

variable {H : Host}

instance : Inhabited (Heap H) := ⟨{}⟩

/-! ## Reading -/

/-- The object that a handle reaches. -/
def object? (heap : Heap H) (handle : Handle H.toVocabulary) : Option (Object H) :=
  match heap.places[handle.index.toNat]? with
  | some (.occupied generation object) =>
      if generation = handle.generation then some object else none
  | _ => none

/-- The handle reaches an object. -/
def contains (heap : Heap H) (handle : Handle H.toVocabulary) : Bool :=
  (heap.object? handle).isSome

/-- The value that a handle reaches, if it is of the type asked for. -/
def get? (heap : Heap H) (handle : Handle H.toVocabulary) (receiver : H.Receiver) :
    Option (H.Value receiver) :=
  (heap.object? handle).bind (·.as? receiver)

/-- The value that a handle reaches, or why it cannot be reached. -/
def get (heap : Heap H) (handle : Handle H.toVocabulary) (receiver : H.Receiver) :
    Except CallError (H.Value receiver) :=
  match heap.object? handle with
  | none => .error (.staleHandle handle.index)
  | some object =>
      match object.as? receiver with
      | some value => .ok value
      | none => .error (.invalidReceiver ("object is not a " ++ H.receiverName receiver))

/-- The number of live objects. -/
def size (heap : Heap H) : Nat := heap.places.size - heap.vacant.length

/-- There is no live object. -/
def isEmpty (heap : Heap H) : Bool := heap.size == 0

/-- The record form of a heap. -/
def debug (heap : Heap H) : String :=
  "ObjectHeap \x7b live: " ++ toString heap.size ++ ", vacant: " ++
    toString heap.vacant.length ++ " \x7d"

/-! ## Writing -/

/-- The heap with a new object in it, and the handle issued for that object. -/
def allocate (heap : Heap H) (object : Object H) : Heap H × Handle H.toVocabulary :=
  match heap.vacant with
  | index :: vacant =>
      let generation := (heap.places[index.toNat]?.map Place.generation).getD 0
      (⟨heap.places.setIfInBounds index.toNat (.occupied generation object), vacant⟩,
        ⟨index, generation, object.receiver⟩)
  | [] =>
      (⟨heap.places.push (.occupied 0 object), []⟩,
        ⟨UInt32.ofNat heap.places.size, 0, object.receiver⟩)

/-- The heap without the object that a handle reaches, and whether there was one. -/
def free (heap : Heap H) (handle : Handle H.toVocabulary) : Heap H × Bool :=
  if heap.contains handle then
    (⟨heap.places.setIfInBounds handle.index.toNat (.vacant (handle.generation + 1)),
      handle.index :: heap.vacant⟩, true)
  else (heap, false)

/-- A reference to the object that a handle reaches. -/
def objectMut? (heap : Heap H) (handle : Handle H.toVocabulary) :
    Option (Mutable (Object H) (Heap H)) :=
  match heap.places[handle.index.toNat]? with
  | some (.occupied generation object) =>
      if generation = handle.generation then
        some ⟨object, fun next =>
          ⟨heap.places.setIfInBounds handle.index.toNat (.occupied generation next),
            heap.vacant⟩⟩
      else none
  | _ => none

/-- A reference to the value that a handle reaches, if it is of the type asked for. -/
def getMut? (heap : Heap H) (handle : Handle H.toVocabulary) (receiver : H.Receiver) :
    Option (Mutable (H.Value receiver) (Heap H)) :=
  (heap.objectMut? handle).bind (·.as? receiver)

/-- A reference to the value that a handle reaches, or why it cannot be reached. -/
def getMut (heap : Heap H) (handle : Handle H.toVocabulary) (receiver : H.Receiver) :
    Except CallError (Mutable (H.Value receiver) (Heap H)) :=
  match heap.objectMut? handle with
  | none => .error (.staleHandle handle.index)
  | some reached =>
      match reached.as? receiver with
      | some value => .ok value
      | none => .error (.invalidReceiver ("object is not a " ++ H.receiverName receiver))

/-- The heap with the value that a handle reaches overwritten, if it is of that type. -/
def set? (heap : Heap H) (handle : Handle H.toVocabulary) (receiver : H.Receiver)
    (value : H.Value receiver) : Option (Heap H) :=
  (heap.getMut? handle receiver).map (·.put value)

/-- The heap with the value that a handle reaches overwritten, or why it cannot be
reached. -/
def set (heap : Heap H) (handle : Handle H.toVocabulary) (receiver : H.Receiver)
    (value : H.Value receiver) : Except CallError (Heap H) :=
  (heap.getMut handle receiver).map (·.put value)

/-! ## What the operations do to the view -/

/-- The heap with the object behind a handle replaced by another one, if the handle
reaches any. -/
def replace (heap : Heap H) (handle : Handle H.toVocabulary) (object : Object H) : Heap H :=
  if heap.contains handle then
    ⟨heap.places.setIfInBounds handle.index.toNat (.occupied handle.generation object),
      heap.vacant⟩
  else heap

theorem contains_iff {heap : Heap H} {handle : Handle H.toVocabulary} :
    heap.contains handle = true ↔ ∃ object, heap.object? handle = some object := by
  simp [contains, Option.isSome_iff_exists]

/-- A handle reaches what lies in its place, under its generation. -/
theorem object?_eq_some_iff {heap : Heap H} {handle : Handle H.toVocabulary}
    {object : Object H} :
    heap.object? handle = some object ↔
      heap.places[handle.index.toNat]? = some (.occupied handle.generation object) := by
  unfold object?
  split
  · rename_i generation content found
    rw [found]
    by_cases same : generation = handle.generation <;> simp [same]
  · rename_i unoccupied
    constructor
    · intro reached
      simp at reached
    · intro found
      exact absurd found (unoccupied _ _)

/-- Freeing what is not there changes nothing. -/
theorem free_of_not_contains {heap : Heap H} {handle : Handle H.toVocabulary}
    (absent : heap.contains handle = false) : heap.free handle = (heap, false) := by
  simp [free, absent]

/-- Freeing says whether there was an object. -/
@[simp] theorem free_snd (heap : Heap H) (handle : Handle H.toVocabulary) :
    (heap.free handle).2 = heap.contains handle := by
  unfold free
  split <;> simp_all

/-- A handle that says an object is there keeps saying so after a replacement, and
reaches the new object. -/
theorem object?_replace_self {heap : Heap H} {handle : Handle H.toVocabulary}
    {object : Object H} (present : heap.contains handle = true) :
    (heap.replace handle object).object? handle = some object := by
  obtain ⟨content, reached⟩ := contains_iff.mp present
  have found := object?_eq_some_iff.mp reached
  rw [object?_eq_some_iff]
  simp only [replace, present, if_true]
  obtain ⟨inBounds, _⟩ := Array.getElem?_eq_some_iff.mp found
  simp [inBounds]

/-! ## Looking up to overwrite -/

/-- The two lookups of an object find the same one, and putting another in its place
replaces it. -/
theorem objectMut?_eq (heap : Heap H) (handle : Handle H.toVocabulary) :
    heap.objectMut? handle =
      (heap.object? handle).map fun object => ⟨object, heap.replace handle⟩ := by
  unfold objectMut? object?
  split
  · rename_i generation object found
    by_cases same : generation = handle.generation
    · have present : heap.contains handle = true :=
        contains_iff.mpr ⟨object, object?_eq_some_iff.mpr (same ▸ found)⟩
      rw [if_pos same, if_pos same, Option.map_some, same]
      congr 2
      funext next
      rw [replace, if_pos present]
    · rw [if_neg same, if_neg same, Option.map_none]
  · rfl

/-- So do the two lookups of a value. -/
theorem getMut?_eq (heap : Heap H) (handle : Handle H.toVocabulary) (receiver : H.Receiver) :
    heap.getMut? handle receiver =
      (heap.get? handle receiver).map fun value =>
        ⟨value, fun next => heap.replace handle ⟨receiver, next⟩⟩ := by
  rw [getMut?, objectMut?_eq, get?]
  cases heap.object? handle <;> rfl

/-- So they do when they say why, and they give the same reason. -/
theorem getMut_eq (heap : Heap H) (handle : Handle H.toVocabulary) (receiver : H.Receiver) :
    heap.getMut handle receiver =
      (heap.get handle receiver).map fun value =>
        ⟨value, fun next => heap.replace handle ⟨receiver, next⟩⟩ := by
  rw [getMut, objectMut?_eq, get]
  cases heap.object? handle with
  | none => rfl
  | some object =>
      dsimp only [Option.map_some, Mutable.as?]
      cases object.as? receiver <;> rfl

/-- A value is overwritten where it is read. -/
theorem set?_eq (heap : Heap H) (handle : Handle H.toVocabulary) (receiver : H.Receiver)
    (value : H.Value receiver) :
    heap.set? handle receiver value =
      (heap.get? handle receiver).map fun _ => heap.replace handle ⟨receiver, value⟩ := by
  rw [set?, getMut?_eq, Option.map_map]
  rfl

theorem set_eq (heap : Heap H) (handle : Handle H.toVocabulary) (receiver : H.Receiver)
    (value : H.Value receiver) :
    heap.set handle receiver value =
      (heap.get handle receiver).map fun _ => heap.replace handle ⟨receiver, value⟩ := by
  rw [set, getMut_eq]
  cases heap.get handle receiver <;> rfl

end Heap

end HostCall
