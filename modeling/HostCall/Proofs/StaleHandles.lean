import HostCall.Proofs.HeapRuns

/-!
# Freed handles

Freeing an object raises the generation of its place, and nothing else does.  So the generation
of a place counts how often the place was vacated, in 32 bits, and a handle that was freed is
stale in every later heap until that count comes round: it reaches an object again exactly when
its place is occupied and was vacated a multiple of 2³² times since (`stale_iff_of_freed`).
The count does come round (`Sample.freed_comesBack`), but not within fewer than 2³² operations
(`stale_of_length_lt`).
-/

set_option autoImplicit false

namespace HostCall

variable {H : Host}

namespace Heap

/-! ## Generations -/

/-- The generation of the place with an index. -/
def generationAt (heap : Heap H) (index : UInt32) : Option UInt32 :=
  heap.places[index.toNat]?.map Place.generation

/-- There is an object in the place with an index. -/
def isOccupiedAt (heap : Heap H) (index : UInt32) : Bool :=
  heap.places[index.toNat]?.any Place.isOccupied

/-- An operation vacates the place with an index: it frees the object there. -/
def vacates (heap : Heap H) (index : UInt32) : Operation H → Bool
  | .free handle => handle.index == index && heap.contains handle
  | _ => false

/-- How many of some operations, done one after another, vacate the place with an index. -/
def timesVacated (index : UInt32) (heap : Heap H) : List (Operation H) → Nat
  | [] => 0
  | operation :: later =>
      (heap.vacates index operation).toNat + timesVacated index (heap.step operation) later

theorem timesVacated_le_length (index : UInt32) (heap : Heap H)
    (operations : List (Operation H)) :
    timesVacated index heap operations ≤ operations.length := by
  induction operations generalizing heap with
  | nil => exact Nat.le_refl 0
  | cons operation later ih =>
      have rest := ih (heap.step operation)
      have once := Bool.toNat_le (heap.vacates index operation)
      rw [timesVacated, List.length_cons]
      omega

/-- A handle reaches an object when its place is occupied under its generation. -/
theorem contains_iff_generationAt {heap : Heap H} {handle : Handle H.toVocabulary} :
    heap.contains handle = true ↔
      heap.generationAt handle.index = some handle.generation ∧
        heap.isOccupiedAt handle.index = true := by
  rw [contains_iff_isSome, objects, generationAt, isOccupiedAt, Handle.key]
  cases heap.places[handle.index.toNat]? with
  | none => simp
  | some place =>
      cases place with
      | occupied generation object =>
          by_cases current : handle.generation = generation
          · simp [Place.object?, Place.generation, Place.isOccupied, current]
          · simp [Place.object?, Place.generation, Place.isOccupied, current, Ne.symm current]
      | vacant generation => simp [Place.object?, Place.isOccupied]

/-! ## The generation of a place counts how often it was vacated -/

section Put

variable {places : Array (Place H)} {vacant : List UInt32} {index generation : UInt32}

/-- A place that is changed under its generation keeps it. -/
theorem generationAt_put {changed : UInt32} {place : Place H} {rest : List UInt32}
    (found : generationAt ⟨places, vacant⟩ index = some generation)
    (same : generationAt ⟨places, vacant⟩ changed = some place.generation) :
    generationAt ⟨places.setIfInBounds changed.toNat place, rest⟩ index = some generation := by
  by_cases here : index = changed
  · subst here
    obtain ⟨former, there, _⟩ := Option.map_eq_some_iff.mp same
    rw [generationAt, getElem?_put_self there, Option.map_some, ← same, found]
  · rw [generationAt, getElem?_put_of_ne here]
    exact found

end Put

section Steps

variable {heap : Heap H} {index generation : UInt32}

theorem generationAt_allocate (found : heap.generationAt index = some generation)
    (object : Object H) : (heap.allocate object).1.generationAt index = some generation := by
  rw [allocate]
  split
  · rename_i reused rest _
    cases there : heap.generationAt reused with
    | some former =>
        refine generationAt_put found ?_
        rw [Place.generation, ← generationAt, there, Option.getD_some]
    | none =>
        -- an index without a place, where nothing is put
        have outside : heap.places.size ≤ reused.toNat := by
          rwa [generationAt, Option.map_eq_none_iff, Array.getElem?_eq_none_iff] at there
        simp only [Array.setIfInBounds_eq_of_size_le outside]
        exact found
  · obtain ⟨place, there, _⟩ := Option.map_eq_some_iff.mp found
    obtain ⟨inside, _⟩ := Array.getElem?_eq_some_iff.mp there
    rw [generationAt, Array.getElem?_push, if_neg (Nat.ne_of_lt inside)]
    exact found

theorem generationAt_replace (found : heap.generationAt index = some generation)
    (handle : Handle H.toVocabulary) (object : Object H) :
    (heap.replace handle object).generationAt index = some generation := by
  cases present : heap.contains handle with
  | false => rwa [replace_of_not_contains present]
  | true =>
      rw [replace_of_contains present]
      exact generationAt_put found (contains_iff_generationAt.mp present).1

/-- Freeing raises the generation of the place that it vacates, and of no other. -/
theorem generationAt_free (found : heap.generationAt index = some generation)
    (handle : Handle H.toVocabulary) :
    (heap.free handle).1.generationAt index =
      some (generation + UInt32.ofNat (heap.vacates index (.free handle)).toNat) := by
  cases present : heap.contains handle with
  | false =>
      rw [free_of_not_contains present, found, vacates, present, Bool.and_false]
      exact congrArg some (UInt32.add_zero generation).symm
  | true =>
      rw [free_of_contains present, vacates, present, Bool.and_true]
      by_cases here : index = handle.index
      · subst here
        obtain ⟨object, there⟩ := occupied_of_contains present
        have current : generation = handle.generation :=
          Option.some.inj (found.symm.trans (contains_iff_generationAt.mp present).1)
        rw [generationAt, getElem?_put_self there, beq_self_eq_true, current]
        rfl
      · rw [generationAt, getElem?_put_of_ne here, beq_false_of_ne (Ne.symm here)]
        exact found.trans (congrArg some (UInt32.add_zero generation).symm)

/-- An operation raises the generation of a place by one if it vacates the place. -/
theorem generationAt_step (found : heap.generationAt index = some generation)
    (operation : Operation H) :
    (heap.step operation).generationAt index =
      some (generation + UInt32.ofNat (heap.vacates index operation).toNat) := by
  have written (handle : Handle H.toVocabulary) (object : Object H) :
      (heap.step (.write handle object)).generationAt index = some (generation + 0) := by
    rw [UInt32.add_zero]
    rcases step_write_cases heap handle object with ⟨_, _, replaced⟩ | kept
    · rw [replaced]
      exact generationAt_replace found handle object
    · rw [kept, found]
  cases operation with
  | allocate object =>
      exact (generationAt_allocate found object).trans
        (congrArg some (UInt32.add_zero generation).symm)
  | free handle => exact generationAt_free found handle
  | write handle object => exact written handle object
  | tryWrite handle object =>
      rw [step_tryWrite]
      exact written handle object

/-- So a run raises it by the number of times that it vacates the place. -/
theorem generationAt_run (found : heap.generationAt index = some generation)
    (operations : List (Operation H)) :
    (heap.run operations).generationAt index =
      some (generation + UInt32.ofNat (timesVacated index heap operations)) := by
  induction operations generalizing heap generation with
  | nil => exact found.trans (congrArg some (UInt32.add_zero generation).symm)
  | cons operation later ih =>
      rw [run_cons, ih (generationAt_step found operation), timesVacated, UInt32.ofNat_add,
        UInt32.add_assoc]

end Steps

/-! ## Stale handles -/

/-- A handle reaches nothing, by any way of asking, and freeing it does nothing. -/
structure Stale (heap : Heap H) (handle : Handle H.toVocabulary) : Prop where
  contains_eq : heap.contains handle = false
  get?_eq : ∀ type : H.Receiver, heap.get? handle type = none
  getMut?_eq : ∀ type : H.Receiver, heap.getMut? handle type = none
  set?_eq : ∀ (type : H.Receiver) (value : H.Value type), heap.set? handle type value = none
  get_eq : ∀ type : H.Receiver, heap.get handle type = .error (.staleHandle handle.index)
  getMut_eq : ∀ type : H.Receiver, heap.getMut handle type = .error (.staleHandle handle.index)
  set_eq : ∀ (type : H.Receiver) (value : H.Value type),
    heap.set handle type value = .error (.staleHandle handle.index)
  free_eq : heap.free handle = (heap, false)

theorem stale_iff {heap : Heap H} {handle : Handle H.toVocabulary} :
    heap.Stale handle ↔ heap.contains handle = false := by
  refine ⟨Stale.contains_eq, fun absent => ?_⟩
  have nothing : heap.object? handle = none := by
    rwa [contains, Option.isSome_eq_false_iff, Option.isNone_iff_eq_none] at absent
  have unread (type : H.Receiver) : heap.get? handle type = none := by
    rw [get?, nothing, Option.bind_none]
  have unreached (type : H.Receiver) : heap.getMut? handle type = none := by
    rw [Heap.getMut?_eq, unread, Option.map_none]
  have refused (type : H.Receiver) :
      heap.getMut handle type = .error (.staleHandle handle.index) := by
    rw [getMut, objectMut?_eq, nothing, Option.map_none]
  exact
    { contains_eq := absent
      get?_eq := unread
      getMut?_eq := unreached
      set?_eq := fun type value => by rw [set?, unreached, Option.map_none]
      get_eq := fun type => by rw [get, nothing]
      getMut_eq := refused
      set_eq := fun type value => by
        rw [set, refused]
        rfl
      free_eq := free_of_not_contains absent }

/-- A generation comes round after 2³² steps, and not before. -/
theorem add_ofNat_eq_self_iff (generation : UInt32) (count : Nat) :
    generation + UInt32.ofNat count = generation ↔ 2 ^ 32 ∣ count := by
  have bounded := generation.toNat_lt
  rw [← UInt32.toNat_inj, UInt32.toNat_add, UInt32.toNat_ofNat']
  omega

/-- A freed handle reaches an object again when its generation has come round. -/
theorem contains_run_free_iff {heap : Heap H} {handle : Handle H.toVocabulary}
    (freed : (heap.free handle).2 = true) (later : List (Operation H)) :
    (heap.run (.free handle :: later)).contains handle = true ↔
      2 ^ 32 ∣ timesVacated handle.index heap (.free handle :: later) ∧
        (heap.run (.free handle :: later)).isOccupiedAt handle.index = true := by
  rw [free_snd] at freed
  have reached := generationAt_run (contains_iff_generationAt.mp freed).1 (.free handle :: later)
  rw [contains_iff_generationAt, reached, Option.some.injEq, add_ofNat_eq_self_iff]

/-- **A freed handle is stale until the generation of its place comes round.**  Free the object
behind a handle, and then do anything.  The handle is stale, unless its place is occupied and
was vacated a multiple of 2³² times from that first time on; and then it is not. -/
theorem stale_iff_of_freed {heap : Heap H} {handle : Handle H.toVocabulary}
    (freed : (heap.free handle).2 = true) (later : List (Operation H)) :
    (heap.run (.free handle :: later)).Stale handle ↔
      ¬ (2 ^ 32 ∣ timesVacated handle.index heap (.free handle :: later) ∧
        (heap.run (.free handle :: later)).isOccupiedAt handle.index = true) := by
  rw [stale_iff, ← Bool.not_eq_true, contains_run_free_iff freed]

/-- A freed handle is stale for fewer than 2³² operations, the one that freed it among them. -/
theorem stale_of_length_lt {heap : Heap H} {handle : Handle H.toVocabulary}
    (freed : (heap.free handle).2 = true) {later : List (Operation H)}
    (few : later.length + 1 < 2 ^ 32) : (heap.run (.free handle :: later)).Stale handle := by
  rw [stale_iff, ← Bool.not_eq_true, contains_run_free_iff freed]
  rintro ⟨round, _⟩
  -- one vacating was counted, and too few others are left
  have counted : timesVacated handle.index heap (.free handle :: later) =
      1 + timesVacated handle.index (heap.free handle).1 later := by
    rw [timesVacated, vacates, beq_self_eq_true, Bool.true_and, ← free_snd, freed]
    rfl
  have most := timesVacated_le_length handle.index (heap.free handle).1 later
  rw [counted] at round
  have least := Nat.le_of_dvd (by omega) round
  omega

end Heap

namespace Sample

open Heap

/-- The handle of the first counter that a heap is given. -/
def firstCounter : Handle host.toVocabulary := ⟨0, 0, .counter⟩

/-- A heap with one counter in it. -/
def oneCounter : Heap host := ({} : Heap host).step (.allocate ⟨.counter, ⟨3⟩⟩)

/-- A freed counter is out of reach when its place is used again. -/
theorem stale_placeUsedAgain :
    (oneCounter.free firstCounter).2 = true ∧
      (oneCounter.run [.free firstCounter, .allocate ⟨.counter, ⟨5⟩⟩]).Stale firstCounter := by
  have freed : (oneCounter.free firstCounter).2 = true := rfl
  have once : timesVacated firstCounter.index oneCounter
      [.free firstCounter, .allocate ⟨.counter, ⟨5⟩⟩] = 1 := rfl
  refine ⟨freed, (stale_iff_of_freed freed _).mpr fun ⟨round, _⟩ => ?_⟩
  rw [once] at round
  exact absurd round (by decide)

/-- A counter that comes under some generation of the first place, and goes. -/
def comeAndGo (generation : UInt32) : List (Heap.Operation host) :=
  [.allocate ⟨.counter, ⟨5⟩⟩, .free ⟨0, generation, .counter⟩]

theorem run_comeAndGo (generation : UInt32) :
    run ⟨#[.vacant generation], [0]⟩ (comeAndGo generation) =
      ⟨#[.vacant (generation + 1)], [0]⟩ := by
  have come : step (⟨#[.vacant generation], [0]⟩ : Heap host) (.allocate ⟨.counter, ⟨5⟩⟩) =
      ⟨#[.occupied generation ⟨.counter, ⟨5⟩⟩], []⟩ := rfl
  have present : contains (⟨#[.occupied generation ⟨.counter, ⟨5⟩⟩], []⟩ : Heap host)
      ⟨0, generation, .counter⟩ = true := contains_iff_generationAt.mpr ⟨rfl, rfl⟩
  rw [comeAndGo, run_cons, come, run_cons, step, free_of_contains present, run_nil]
  rfl

/-- Counters that come and go under one generation after another, from the second one on. -/
def comingAndGoing : Nat → List (Heap.Operation host)
  | 0 => []
  | times + 1 => comingAndGoing times ++ comeAndGo (UInt32.ofNat (times + 1))

theorem run_comingAndGoing (times : Nat) :
    (oneCounter.free firstCounter).1.run (comingAndGoing times) =
      ⟨#[.vacant (UInt32.ofNat (times + 1))], [0]⟩ := by
  induction times with
  | zero => rfl
  | succ times ih =>
      rw [comingAndGoing, run_append, ih, run_comeAndGo, UInt32.ofNat_add (times + 1) 1]
      rfl

/-- The counter that comes after 2³² frees of the first place is reached through the handle
that was freed first. -/
theorem freed_comesBack :
    (oneCounter.free firstCounter).2 = true ∧
      (((oneCounter.free firstCounter).1.run (comingAndGoing (2 ^ 32 - 1))).run
        [.allocate ⟨.counter, ⟨5⟩⟩]).contains firstCounter = true := by
  refine ⟨rfl, ?_⟩
  rw [run_comingAndGoing]
  rfl

end Sample

end HostCall
