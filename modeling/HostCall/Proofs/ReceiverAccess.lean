import HostCall.Proofs.ArgumentView
import HostCall.Proofs.HeapRuns

/-!
# Reading and overwriting the receiver

The receiver of a call is looked up in two ways: to be read (`Frame.receiver`) and to be
overwritten (`Frame.receiverMut`).  The one goes through the arguments, the other asks for their
number and takes the slot at the base, and behind a handle each has its own lookup in the heap.
They find the same value all the same, or fail with the same error.

Argument 0 decides where the receiver is, in the slot itself or under a key of the heap
(`ReceiverPlace`).  An overwritten receiver is another object in that place, and nothing else
changes (`Frame.OverwrittenAt`): no other argument, no pushed slot, no other object of the heap, and
no handle comes to life or goes stale (`receiverAccess_agrees`).  A receiver under a key is shared by
all the handles with that key, and all of them reach the new value.
-/

set_option autoImplicit false

namespace HostCall

variable {H : Host}

/-! ## Places of receivers -/

/-- Where a receiver can be: in the slot of argument 0, or in the heap. -/
inductive ReceiverPlace
  | slot
  | heap (key : Key)
deriving DecidableEq

namespace Frame

/-- The place that argument 0 designates, if it can be a receiver at all. -/
def receiverPlace? (frame : Frame H) : Option ReceiverPlace :=
  match frame.receiverSlot with
  | .ok (.native _) => some .slot
  | .ok (.object handle) => some (.heap handle.key)
  | _ => none

/-- The object in a place. -/
def objectAt (frame : Frame H) : ReceiverPlace → Option (Object H)
  | .slot =>
      match frame.receiverSlot with
      | .ok (.native object) => some object
      | _ => none
  | .heap key => frame.heap.objects key

/-- The frame with another object in one place, and otherwise as it was. -/
structure OverwrittenAt (frame : Frame H) (place : ReceiverPlace) (object : Object H)
    (next : Frame H) : Prop where
  footing : SameFooting frame next
  /-- Argument 0 designates the same place, -/
  place? : next.receiverPlace? = frame.receiverPlace?
  /-- and there the object is. -/
  here : next.objectAt place = some object
  elsewhere : ∀ other, other ≠ place → next.objectAt other = frame.objectAt other
  /-- An argument changes only if it is that place. -/
  argument : ∀ index, index ≠ 0 ∨ place ≠ .slot → next.argument? index = frame.argument? index
  pushed : next.pushedSlots = frame.pushedSlots
  /-- The same handles are live. -/
  live : ∀ handle, next.heap.contains handle = frame.heap.contains handle

variable {frame : Frame H} {type : H.Receiver}

/-! ## The two lookups -/

theorem argument?_zero_of_receiverSlot {slot : Slot H} (found : frame.receiverSlot = .ok slot) :
    frame.argument? 0 = some slot := by
  rw [receiverSlot] at found
  cases present : frame.argument? 0 with
  | none =>
      rw [present] at found
      cases found
  | some first =>
      rw [present] at found
      cases found
      rfl

/-- A receiver that is found is an object of its type in the slot, and is overwritten there, or
one that a handle reaches, and is replaced in the heap. -/
theorem receiverMut_eq_ok_cases {reached : Mutable (H.Value type) (Frame H)}
    (found : frame.receiverMut type = .ok reached) :
    (frame.receiverSlot = .ok (.native ⟨type, reached.value⟩) ∧
        reached.put = fun value => frame.putSlot ⟨type, value⟩) ∨
      ∃ handle, frame.receiverSlot = .ok (.object handle) ∧
        frame.heap.objects handle.key = some ⟨type, reached.value⟩ ∧
        reached.put = fun value =>
          { frame with heap := frame.heap.replace handle ⟨type, value⟩ } := by
  rw [receiverMut_eq] at found
  split at found
  · cases found
  · rename_i object slot
    split at found
    · rename_i typed
      cases found
      rw [Object.eq_mk_of_as? typed] at slot
      exact .inl ⟨slot, rfl⟩
    · cases found
  · rename_i handle slot
    rw [Heap.getMut_eq] at found
    cases read : frame.heap.get handle type with
    | error error =>
        rw [read] at found
        cases found
    | ok value =>
        rw [read] at found
        cases found
        refine .inr ⟨handle, slot, Heap.get?_eq_some_iff.mp ?_, rfl⟩
        rw [← Heap.toOption_get, read]
        rfl
  · cases found

/-! ## Overwriting in the slot -/

theorem argument?_putSlot {slot : Slot H} (found : frame.receiverSlot = .ok slot)
    (object : Object H) (index : Nat) :
    (frame.putSlot object).argument? index =
      if index = 0 then some (.native object) else frame.argument? index := by
  have inside : frame.base < frame.stack.size :=
    Nat.lt_of_lt_of_le (base_lt_top_of_receiverSlot found) frame.top_le_size
  have present : 0 < frame.argumentCount := Nat.sub_pos_of_lt (base_lt_top_of_receiverSlot found)
  change (if index < frame.argumentCount then
    (frame.stack.setIfInBounds frame.base (.native object))[frame.base + index]? else none) = _
  rw [Array.getElem?_setIfInBounds]
  by_cases first : index = 0
  · subst first
    rw [if_pos present, Nat.add_zero, if_pos rfl, if_pos inside, if_pos rfl]
  · have apart : frame.base ≠ frame.base + index := by omega
    rw [if_neg apart, if_neg first, argument?]

theorem receiverSlot_putSlot {slot : Slot H} (found : frame.receiverSlot = .ok slot)
    (object : Object H) : (frame.putSlot object).receiverSlot = .ok (.native object) := by
  rw [receiverSlot, argument?_putSlot found, if_pos rfl]

/-- What is in the slot already can be put there. -/
theorem putSlot_self {object : Object H} (found : frame.receiverSlot = .ok (.native object)) :
    frame.putSlot object = frame := by
  have there : frame.stack[frame.base]? = some (.native object) := by
    have first := argument?_zero_of_receiverSlot found
    rw [argument?] at first
    split at first
    · exact first
    · cases first
  have same : frame.stack.setIfInBounds frame.base (.native object) = frame.stack := by
    refine Array.ext_getElem? fun index => ?_
    rw [Array.getElem?_setIfInBounds]
    by_cases here : frame.base = index
    · subst here
      rw [if_pos rfl, if_pos (Array.getElem?_eq_some_iff.mp there).1, there]
    · rw [if_neg here]
  simp only [putSlot, same]

theorem overwrittenAt_slot {object : Object H} {value : H.Value type}
    (found : frame.receiverSlot = .ok (.native object))
    (written : frame.setReceiver type value = .ok (frame.putSlot ⟨type, value⟩)) :
    frame.OverwrittenAt .slot ⟨type, value⟩ (frame.putSlot ⟨type, value⟩) := by
  have step := FrameStep.setReceiver type value written
  have slot := receiverSlot_putSlot found ⟨type, value⟩
  exact {
    footing := step.sameFooting
    place? := by rw [receiverPlace?, receiverPlace?, slot, found]
    here := by rw [objectAt, slot]
    elsewhere := by
      intro other away
      cases other with
      | slot => exact absurd rfl away
      | heap key => rfl
    argument := by
      intro index away
      have later : index ≠ 0 := away.resolve_right (fun other => other rfl)
      rw [argument?_putSlot found, if_neg later]
    pushed := step.pushedSlots_eq.trans (List.append_nil _)
    live := fun _ => rfl }

/-! ## Overwriting in the heap -/

theorem overwrittenAt_heap {handle : Handle H.toVocabulary} {old : H.Value type}
    (reached : frame.heap.objects handle.key = some ⟨type, old⟩) (value : H.Value type) :
    frame.OverwrittenAt (.heap handle.key) ⟨type, value⟩
      { frame with heap := frame.heap.replace handle ⟨type, value⟩ } := by
  have objects := Heap.objects_replace (Heap.contains_of_objects reached) ⟨type, value⟩
  exact {
    footing := ⟨rfl, rfl, rfl, rfl⟩
    place? := rfl
    here := by rw [objectAt, objects, Function.update_self]
    elsewhere := by
      intro other away
      cases other with
      | slot => rfl
      | heap key =>
          have apart : key ≠ handle.key := fun same => away (congrArg _ same)
          rw [objectAt, objectAt, objects, Function.update_of_ne apart]
    argument := fun _ _ => rfl
    pushed := rfl
    live := by
      intro other
      rw [Bool.eq_iff_iff, Heap.contains_iff_isSome, Heap.contains_iff_isSome, objects]
      by_cases same : other.key = handle.key
      · rw [same, Function.update_self, reached]
        exact Iff.rfl
      · rw [Function.update_of_ne same] }

/-- What is there already can be written. -/
theorem put_value_of_receiverMut {reached : Mutable (H.Value type) (Frame H)}
    (found : frame.receiverMut type = .ok reached) : reached.put reached.value = frame := by
  rcases receiverMut_eq_ok_cases found with ⟨slot, put⟩ | ⟨handle, _, there, put⟩
  · rw [put]
    exact putSlot_self slot
  · rw [put]
    dsimp only
    rw [Heap.replace_self there]

/-- A receiver that is found can be overwritten in its place. -/
theorem exists_overwrittenAt {reached : Mutable (H.Value type) (Frame H)}
    (found : frame.receiverMut type = .ok reached) :
    ∃ place, frame.receiverPlace? = some place ∧
      frame.objectAt place = some ⟨type, reached.value⟩ ∧
      ∀ value, frame.OverwrittenAt place ⟨type, value⟩ (reached.put value) := by
  rcases receiverMut_eq_ok_cases found with ⟨slot, put⟩ | ⟨handle, slot, there, put⟩
  · refine ⟨.slot, ?_, ?_, fun value => ?_⟩
    · rw [receiverPlace?, slot]
    · rw [objectAt, slot]
    · have written : frame.setReceiver type value = .ok (frame.putSlot ⟨type, value⟩) := by
        rw [setReceiver, found, ← congrFun put value]
        rfl
      rw [put]
      exact overwrittenAt_slot slot written
  · refine ⟨.heap handle.key, ?_, there, fun value => ?_⟩
    · rw [receiverPlace?, slot]
    · rw [put]
      exact overwrittenAt_heap there value

/-- The object in the place that argument 0 designates is the receiver. -/
theorem receiver_of_objectAt {place : ReceiverPlace} {value : H.Value type}
    (designated : frame.receiverPlace? = some place)
    (there : frame.objectAt place = some ⟨type, value⟩) : frame.receiver type = .ok value := by
  rw [receiverPlace?] at designated
  rw [receiver]
  split at designated
  · rename_i object found
    cases designated
    rw [objectAt, found] at there
    cases there
    rw [found]
    dsimp only
    rw [Object.as?_self]
  · rename_i handle found
    cases designated
    rw [found]
    exact Heap.get_of_get? (Heap.get?_eq_some_iff.mpr there)
  · cases designated

end Frame

/-! ## Agreement -/

/-- **Reading and overwriting a receiver agree.**  On every frame and for every type, the lookup
to overwrite the receiver finds the value that the lookup to read it finds, or fails with the same
error.  Where it finds one, argument 0 designates a place with that value in it, and

* writing the value that was found changes nothing,
* after another value was written, that value is read, and the frame has it in that place and is
  otherwise as it was, and
* if the place is in the heap, every handle of its key reaches that value. -/
theorem receiverAccess_agrees (frame : Frame H) (type : H.Receiver) :
    (frame.receiverMut type).map (·.value) = frame.receiver type ∧
      ∀ reached, frame.receiverMut type = .ok reached →
        reached.put reached.value = frame ∧
        ∃ place, frame.receiverPlace? = some place ∧
          frame.objectAt place = some ⟨type, reached.value⟩ ∧
          ∀ value,
            frame.setReceiver type value = .ok (reached.put value) ∧
            (reached.put value).receiver type = .ok value ∧
            frame.OverwrittenAt place ⟨type, value⟩ (reached.put value) ∧
            ∀ handle : Handle H.toVocabulary, place = .heap handle.key →
              (reached.put value).heap.get handle type = .ok value := by
  refine ⟨frame.value_receiverMut type, fun reached found => ?_⟩
  obtain ⟨place, designated, there, overwritten⟩ := Frame.exists_overwrittenAt found
  refine ⟨Frame.put_value_of_receiverMut found, place, designated, there, fun value => ?_⟩
  have here := (overwritten value).here
  have reread : (reached.put value).receiver type = .ok value :=
    Frame.receiver_of_objectAt ((overwritten value).place?.trans designated) here
  refine ⟨?_, reread, overwritten value, ?_⟩
  · rw [Frame.setReceiver, found]
    rfl
  · rintro handle rfl
    exact Heap.get_of_get? (Heap.get?_eq_some_iff.mpr here)

namespace Sample

/-- A call with two arguments that are handles of the same counter. -/
def counterTwice : Frame host :=
  .enter #[.object ⟨0, 0, .counter⟩, .object ⟨0, 0, .counter⟩] 0
    (({} : Heap host).allocate ⟨.counter, ⟨5⟩⟩).1 {}

/-- A counter written through the first is read through the second. -/
theorem counterTwice_written :
    ∃ reached, counterTwice.receiverMut .counter = .ok reached ∧
      counterTwice.receiver .counter = .ok ⟨5⟩ ∧ reached.value = ⟨5⟩ ∧
      (reached.put ⟨7⟩).receiver .counter = .ok ⟨7⟩ ∧
      (reached.put ⟨7⟩).argument? 1 = some (.object ⟨0, 0, .counter⟩) ∧
      (reached.put ⟨7⟩).heap.get ⟨0, 0, .counter⟩ .counter = .ok ⟨7⟩ := by
  have found : counterTwice.receiverMut .counter =
      .ok ⟨⟨5⟩, counterTwice.putReceiver .counter⟩ := Frame.receiverMut_of_receiver rfl
  obtain ⟨same, agrees⟩ := receiverAccess_agrees counterTwice .counter
  obtain ⟨-, place, designated, -, written⟩ := agrees _ found
  obtain ⟨-, reread, overwritten, shared⟩ := written ⟨7⟩
  have inHeap : place = .heap ⟨0, 0⟩ := (Option.some.inj designated).symm
  refine ⟨_, found, ?_, rfl, reread, ?_, shared ⟨0, 0, .counter⟩ inHeap⟩
  · rw [← same, found]
    rfl
  · rw [overwritten.argument 1 (.inl Nat.one_ne_zero)]
    rfl

end Sample

end HostCall
