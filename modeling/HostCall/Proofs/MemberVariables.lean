import HostCall.Proofs.Answers
import HostCall.Proofs.FieldContents
import HostCall.Proofs.OwnedReceivers
import HostCall.Proofs.ReceiverModes

/-!
# The laws of a field

A field is read with its receiver as the only argument and written with a value behind it; a field
of a bound receiver takes one argument less (`Subject`).  If the way it is read and the way it is
written are lawful (`Field.Lawful`), then so are the calls (`Library.FieldLaws`): a write changes
the field of that object and nothing else, what was written is read until it is written again or
the object goes, the later of two writes wins, and to write what was read changes nothing.

Between a write and a read anything may be called, here or in another interpreter, that does not
spoil the content (`Library.SparingCall`).  A slot that is read into the type of the field and
written again need not be the same slot, so what is read later is what the content is written to.
-/

set_option autoImplicit false

namespace HostCall

open Relation (ReflTransGen)

variable {H : Host}

/-! ## Lawful fields -/

/-- A field is a part of its receiver: what was set is got, to set what was got changes nothing,
and what was set before is forgotten. -/
structure Field.Lawful (field : Field H) : Prop where
  get_set : ∀ content value, field.get (field.set content value) = content
  set_get : ∀ value, field.set (field.get value) value = value
  set_set : ∀ first second value,
    field.set second (field.set first value) = field.set second value

/-! ## Between calls -/

/-- An interpreter and the world around it, between calls. -/
structure Situation (H : Host) where
  interpreter : Interpreter H
  world : World H

/-- A call leads from one situation to another one. -/
def Situation.call (situation : Situation H) (library : Library H) (depth : Nat)
    (callback : Callback H.toVocabulary) (arguments : List (Slot H)) :
    Option (Except CallError (List (Slot H)) × Situation H) :=
  (situation.interpreter.call library depth callback arguments situation.world).map
    fun ((outcome, interpreter), world) => (outcome, ⟨interpreter, world⟩)

theorem Situation.call_eq_some {situation after : Situation H} {library : Library H} {depth : Nat}
    {callback : Callback H.toVocabulary} {arguments : List (Slot H)}
    {outcome : Except CallError (List (Slot H))}
    (called : situation.call library depth callback arguments = some (outcome, after)) :
    situation.interpreter.call library depth callback arguments situation.world =
      some ((outcome, after.interpreter), after.world) := by
  obtain ⟨⟨⟨_, _⟩, _⟩, ended, same⟩ := Option.map_eq_some_iff.mp called
  cases same
  exact ended

/-! ## Subjects -/

/-- What a field is a field of: an object in the heap, whose handle is argument 0, or the object in
a cell, to which the field is bound. -/
inductive Subject (H : Host)
  | argument (handle : Handle H.toVocabulary)
  | bound (receiver : FixedReceiver) (cell : CellId)

namespace Subject

/-- Where the object lives. -/
def home : Subject H → Home
  | argument handle => .heap handle.key
  | bound _ cell => .cell cell

/-- The arguments in front of a value. -/
def leading : Subject H → List (Slot H)
  | argument handle => [.object handle]
  | bound _ _ => []

/-- The field as a block. -/
def block (name : H.Field) : Subject H → Block H.toVocabulary
  | argument _ => .field name
  | bound receiver _ => .boundField name receiver

/-- The object can be reached, nobody is using it, and it is a value of the type. -/
def Has (type : H.Receiver) (value : H.Value type) (situation : Situation H) : Subject H → Prop
  | argument handle => situation.interpreter.heap.get? handle type = some value
  | bound receiver cell => ∃ entry, situation.world.Idle receiver cell entry ∧
      entry.content = ⟨type, value⟩

/-- The stack may hold one slot more than the arguments in front of a value. -/
def HasRoom (situation : Situation H) (subject : Subject H) : Prop :=
  situation.interpreter.stack.size + subject.leading.length + 1 ≤
    situation.interpreter.policy.stackLimit

/-- The field is called without a value, -/
def read (subject : Subject H) (library : Library H) (name : H.Field) (depth : Nat)
    (id : ClosureId) (situation : Situation H) :
    Option (Except CallError (List (Slot H)) × Situation H) :=
  situation.call library depth (.closure id (subject.block name)) subject.leading

/-- or with one. -/
def write (subject : Subject H) (library : Library H) (name : H.Field) (depth : Nat)
    (id : ClosureId) (slot : Slot H) (situation : Situation H) :
    Option (Except CallError (List (Slot H)) × Situation H) :=
  situation.call library depth (.closure id (subject.block name)) (subject.leading ++ [slot])

/-- The situation with another object in its place. -/
def put (object : Object H) (situation : Situation H) : Subject H → Situation H
  | argument handle => { situation with interpreter := { situation.interpreter with
      heap := situation.interpreter.heap.replace handle object } }
  | bound _ cell => { situation with world := situation.world.setContent cell object }

end Subject

/-! ## One object in the place of another -/

theorem Heap.replace_replace (heap : Heap H) (handle : Handle H.toVocabulary)
    (first second : Object H) :
    (heap.replace handle first).replace handle second = heap.replace handle second := by
  cases present : heap.contains handle with
  | false => rw [replace_of_not_contains present]
  | true =>
      have still : (heap.replace handle first).contains handle = true := by
        rw [contains, object?_replace_self present]
        rfl
      rw [replace_of_contains still, replace_of_contains present, replace_of_contains present]
      simp only [Array.setIfInBounds_setIfInBounds]

/-- A call that keeps cells leaves an idle one idle. -/
theorem World.Idle.of_keepsCells {world after : World H} {receiver : FixedReceiver} {cell : CellId}
    {entry : Cell H} (idle : world.Idle receiver cell entry) (kept : world.KeepsCells after) :
    ∃ later, after.Idle receiver cell later := by
  obtain ⟨later, there, keptEntry⟩ := kept cell entry idle.there
  refine ⟨later, ?_, there, keptEntry.borrow.trans idle.unused⟩
  have target := idle.target
  cases receiver with
  | owned own => exact target
  | referenced reference =>
      cases reference with
      | none => cases target
      | some asked =>
          obtain rfl : asked = cell := eq_of_target?_referenced target
          rw [target?, idle.there] at target
          rw [target?, there]
          dsimp only at target ⊢
          rw [keptEntry.owners]
          exact target

namespace Subject

variable {subject : Subject H} {situation : Situation H} {type : H.Receiver}
  {value : H.Value type}

/-- Of two objects that are put in one place the second stays. -/
theorem put_put (subject : Subject H) (first second : Object H) (situation : Situation H) :
    subject.put second (subject.put first situation) = subject.put second situation := by
  cases subject with
  | argument handle =>
      simp only [put]
      rw [Heap.replace_replace]
  | bound receiver cell =>
      simp only [put, World.setContent, World.modifyCell_modifyCell]

/-- To put there what is there changes nothing. -/
theorem Has.put_self (has : subject.Has type value situation) :
    subject.put ⟨type, value⟩ situation = situation := by
  cases subject with
  | argument handle =>
      have same := Heap.replace_self (Heap.get?_eq_some_iff.mp has)
      simp only [Subject.put]
      rw [same]
  | bound receiver cell =>
      obtain ⟨entry, idle, holds⟩ := has
      have same := idle.setContent_self
      rw [holds] at same
      simp only [Subject.put]
      rw [same]

/-- There is room for as much as before. -/
theorem HasRoom.put (room : subject.HasRoom situation) (object : Object H) :
    subject.HasRoom (subject.put object situation) := by
  cases subject <;> exact room

/-- What is put there is there. -/
theorem Has.put (has : subject.Has type value situation) (next : H.Value type) :
    subject.Has type next (subject.put ⟨type, next⟩ situation) := by
  cases subject with
  | argument handle => exact Heap.get?_replace_self has next
  | bound receiver cell =>
      obtain ⟨entry, idle, _⟩ := has
      exact ⟨_, idle.setContent ⟨type, next⟩, rfl⟩

/-- Nothing is put in any other place. -/
theorem Has.object?_put (has : subject.Has type value situation) (object : Object H)
    (place : Home) :
    place.object? (subject.put object situation).interpreter.heap
        (subject.put object situation).world =
      if place = subject.home then some object
      else place.object? situation.interpreter.heap situation.world := by
  cases subject with
  | argument handle =>
      cases place with
      | cell id => rw [if_neg (by rintro ⟨⟩)]; rfl
      | heap key =>
          have there := Heap.contains_of_objects (Heap.get?_eq_some_iff.mp has)
          simp only [Home.object?, Subject.put, home, Home.heap.injEq]
          rw [Heap.objects_replace there, Function.update_apply]
  | bound receiver cell =>
      obtain ⟨entry, idle, _⟩ := has
      cases place with
      | heap key => rw [if_neg (by rintro ⟨⟩)]; rfl
      | cell id =>
          simp only [Home.object?, Subject.put, home, Home.cell.injEq, World.content?,
            World.setContent]
          by_cases here : id = cell
          · subst here
            rw [if_pos rfl, World.getElem?_modifyCell, idle.there]
            rfl
          · rw [if_neg here, World.getElem?_modifyCell_of_ne _ here]

end Subject

/-! ## Uses of an idle cell -/

namespace World.Idle

variable {world : World H} {receiver : FixedReceiver} {cell : CellId} {entry : Cell H}
  {type : H.Receiver} {value : H.Value type}

/-- Overwriting a cell with the value that it holds changes nothing. -/
theorem setContent_held (idle : world.Idle receiver cell entry)
    (holds : entry.content = ⟨type, value⟩) : world.setContent cell ⟨type, value⟩ = world := by
  rw [← holds]
  exact idle.setContent_self

/-- A use finds what the cell holds. -/
theorem acquire_held (idle : world.Idle receiver cell entry)
    (holds : entry.content = ⟨type, value⟩) (access : Access) :
    world.acquire receiver type access = .ok (⟨cell, value⟩, world.modifyCell cell fun entry =>
      { entry with content := ⟨type, value⟩, borrow := access.alone }) := by
  rw [← idle.acquire value access, idle.setContent_held holds]

/-- A use that only read leaves nothing behind, -/
theorem release_held (idle : world.Idle receiver cell entry)
    (holds : entry.content = ⟨type, value⟩) :
    (world.modifyCell cell fun entry =>
        { entry with content := ⟨type, value⟩, borrow := .shared 1 }).release
        (⟨cell, value⟩ : Loan H type) = world := by
  rw [release, unlock, modifyCell_modifyCell]
  refine Eq.trans ?_ (idle.setContent_held holds)
  exact modifyCell_congr idle.there (by rw [idle.unused]; rfl)

/-- and one that changed the value leaves that one. -/
theorem releaseWith_eq (idle : world.Idle receiver cell entry) (value next : H.Value type) :
    (world.modifyCell cell fun entry =>
        { entry with content := ⟨type, value⟩, borrow := .exclusive }).releaseWith
        (⟨cell, value⟩ : Loan H type) next = world.setContent cell ⟨type, next⟩ := by
  rw [releaseWith, unlock, World.setContent, World.setContent, modifyCell_modifyCell,
    modifyCell_modifyCell]
  exact modifyCell_congr idle.there (by rw [idle.unused]; rfl)

end World.Idle

/-! ## Calls of a field -/

section Calls

variable {library : Library H} {depth : Nat} {interpreter : Interpreter H}
  {arguments : List (Slot H)} {world : World H}

/-- A call that has no answer fails and changes nothing. -/
theorem Interpreter.call_of_refused {block : Block H.toVocabulary} {error : CallError}
    (fits : interpreter.Fits arguments)
    (given : library.answer (library.nested depth) ⟨interpreter.entry arguments, world⟩ block =
      some (.error error)) (id : ClosureId) :
    interpreter.call library depth (.closure id block) arguments world =
      some ((.error error, interpreter), world) := by
  refine callWith_of_error fits ?_
  rw [Library.call_closure, Library.callBlock_eq_conclude (Library.isWrapped_of_answer given),
    given]
  rfl

/-- An argument of a call is read from its slot. -/
theorem Interpreter.argument_entry (interpreter : Interpreter H) {index : Nat} {slot : Slot H}
    (found : arguments[index]? = some slot) (type : SlotType) :
    (interpreter.entry arguments).argument type index =
      (type.decode slot).mapError .conversion := by
  refine Frame.argument_of_some ?_
  rw [argument?_entry, found]

/-- The object that a handle in front reaches is the receiver. -/
theorem Interpreter.receiver_entry {handle : Handle H.toVocabulary} {type : H.Receiver}
    {value : H.Value type} (reached : interpreter.heap.get? handle type = some value)
    (arguments : List (Slot H)) :
    (interpreter.entry (.object handle :: arguments)).receiver type = .ok value := by
  rw [Frame.receiver, receiverSlot_entry]
  exact Heap.get_of_get? reached

/-- Writing the receiver replaces that object. -/
theorem Interpreter.heap_putReceiver_entry {handle : Handle H.toVocabulary} {type : H.Receiver}
    {value : H.Value type} (reached : interpreter.heap.get? handle type = some value)
    (next : H.Value type) (arguments : List (Slot H)) :
    ((interpreter.entry (.object handle :: arguments)).putReceiver type next).heap =
      interpreter.heap.replace handle ⟨type, next⟩ := by
  have written : (interpreter.entry (.object handle :: arguments)).heap.set handle type next =
      .ok (interpreter.heap.replace handle ⟨type, next⟩) := by
    change interpreter.heap.set handle type next = _
    rw [Heap.set_eq, Heap.get_of_get? reached]
    rfl
  simp only [Frame.putReceiver, Frame.setReceiver_eq, receiverSlot_entry, written]
  rfl

end Calls

namespace Subject

variable {library : Library H} {name : H.Field} {subject : Subject H} {situation : Situation H}
  {value : H.Value (library.field name).receiver}

/-- Without a value the field is read: its content is handed out, and nothing changes. -/
theorem Has.read_eq (has : subject.Has (library.field name).receiver value situation)
    (room : subject.HasRoom situation) (depth : Nat) (id : ClosureId) :
    subject.read library name depth id situation =
      some (.ok [(library.field name).type.encode ((library.field name).get value)],
        situation) := by
  have fits : situation.interpreter.Fits subject.leading := Nat.le_of_succ_le room
  have written : situation.interpreter.policy.written
      (situation.interpreter.stack.size + subject.leading.length)
      (.one (.value (library.field name).type)) ((library.field name).get value) =
        .ok [(library.field name).type.encode ((library.field name).get value)] :=
    Policy.written_eq_ok_iff.mpr ⟨rfl, room⟩
  have given : library.answer (library.nested depth)
      ⟨situation.interpreter.entry subject.leading, situation.world⟩ (subject.block name) =
        some (.ok ⟨.one (.value (library.field name).type), (library.field name).get value,
          ⟨situation.interpreter.entry subject.leading, situation.world⟩⟩) := by
    cases subject with
    | argument handle =>
        have receiver := Interpreter.receiver_entry has []
        simp only [block, leading, Library.answer, Field.answer, Interpreter.argumentCount_entry,
          List.length_cons, List.length_nil, receiver]
        rfl
    | bound receiver cell =>
        obtain ⟨entry, idle, holds⟩ := has
        have released := idle.release_held holds
        simp only [block, leading, Library.answer, Field.boundAnswer,
          Interpreter.argumentCount_entry, List.length_nil, idle.acquire_held holds]
        exact congrArg (fun world => some (Except.ok (Answer.mk _ _ ⟨_, world⟩))) released
  rw [read, Situation.call, Interpreter.call_of_answered fits (.closure id given)]
  dsimp only [Option.map_some]
  rw [written]
  rfl

/-- With a value behind the subject a field answers with nothing, if the value can be read as its
type, and puts the changed object in the place of the other. -/
theorem Has.answer_write (has : subject.Has (library.field name).receiver value situation)
    (invoke : Invoker H) (slot : Slot H) :
    ∃ left : (library.field name).type.Val H → Scene H,
      library.answer invoke
          ⟨situation.interpreter.entry (subject.leading ++ [slot]), situation.world⟩
          (subject.block name) =
        some ((((library.field name).type.decode slot).mapError .conversion).map fun content =>
          ⟨.unit, (), left content⟩) ∧
      ∀ content, Situation.mk { situation.interpreter with heap := (left content).frame.heap }
          (left content).world =
        subject.put ⟨_, (library.field name).set content value⟩ situation := by
  cases subject with
  | argument handle =>
      have receiver := Interpreter.receiver_entry has [slot]
      have found : [.object handle, slot][1]? = some slot := rfl
      have argument := situation.interpreter.argument_entry found (library.field name).type
      let entry := situation.interpreter.entry [.object handle, slot]
      refine ⟨fun content => ⟨entry.putReceiver _ ((library.field name).set content value),
        situation.world⟩, ?_, fun content => ?_⟩
      · simp only [block, leading, List.singleton_append, Library.answer, Field.answer,
          Interpreter.argumentCount_entry, List.length_cons, List.length_nil, receiver, argument]
        cases (library.field name).type.decode slot <;> rfl
      · rw [Interpreter.heap_putReceiver_entry has]
        rfl
  | bound receiver cell =>
      obtain ⟨entry, idle, holds⟩ := has
      have found : [slot][0]? = some slot := rfl
      have argument := situation.interpreter.argument_entry found (library.field name).type
      refine ⟨fun content => ⟨situation.interpreter.entry [slot],
        situation.world.setContent cell ⟨_, (library.field name).set content value⟩⟩, ?_,
        fun content => rfl⟩
      simp only [block, leading, List.nil_append, Library.answer, Field.boundAnswer,
        Interpreter.argumentCount_entry, List.length_cons, List.length_nil, argument,
        idle.acquire_held holds]
      cases (library.field name).type.decode slot with
      | error cause => rfl
      | ok content =>
          have released := idle.releaseWith_eq value ((library.field name).set content value)
          exact congrArg (fun world => some (Except.ok (Answer.mk .unit () ⟨_, world⟩))) released

/-- With a value behind its subject the field is written, if the value can be read as its type. -/
theorem Has.write_eq (has : subject.Has (library.field name).receiver value situation)
    (room : subject.HasRoom situation) (depth : Nat) (id : ClosureId) (slot : Slot H) :
    subject.write library name depth id slot situation =
      match (library.field name).type.decode slot with
      | .error cause => some (.error (.conversion cause), situation)
      | .ok content =>
          some (.ok [], subject.put ⟨_, (library.field name).set content value⟩ situation) := by
  have fits : situation.interpreter.Fits (subject.leading ++ [slot]) := by
    rw [Interpreter.Fits, List.length_append]
    exact room
  obtain ⟨left, given, puts⟩ := has.answer_write (library.nested depth) slot
  rw [write, Situation.call]
  cases decoded : (library.field name).type.decode slot with
  | error cause =>
      rw [decoded] at given
      rw [Interpreter.call_of_refused fits given id]
      rfl
  | ok content =>
      have written : situation.interpreter.policy.written
          (situation.interpreter.stack.size + (subject.leading ++ [slot]).length) .unit () =
            .ok [] := (Policy.written_eq_ok_iff (H := H)).mpr ⟨rfl, fits⟩
      rw [decoded] at given
      rw [Interpreter.call_of_answered fits (.closure id given)]
      dsimp only [Option.map_some]
      rw [written, ← puts content]

end Subject

/-! ## Calls in between -/

/-- A call that spares the content of a field, in this interpreter or in another one.  What another
interpreter does to its own heap does not matter. -/
inductive Library.SparingCall (library : Library H) (home : Home) (field : Field H)
    (content : field.type.Val H) (first : Situation H) : Situation H → Prop
  | here {depth : Nat} {callback : Callback H.toVocabulary} {arguments : List (Slot H)}
      {outcome : Except CallError (List (Slot H))} {next : Situation H}
      (spares : first.interpreter.Fits arguments → library.SparesContent home field content
        (.calling callback ⟨first.interpreter.entry arguments, first.world⟩))
      (called : first.call library depth callback arguments = some (outcome, next)) :
      SparingCall library home field content first next
  | elsewhere {other : Interpreter H} {depth : Nat} {callback : Callback H.toVocabulary}
      {arguments : List (Slot H)} {outcome : Except CallError (List (Slot H))}
      {next : Situation H}
      (spares : ∀ cell, home = .cell cell → other.Fits arguments →
        library.SparesContent home field content
          (.calling callback ⟨other.entry arguments, first.world⟩))
      (called : Situation.call ⟨other, first.world⟩ library depth callback arguments =
        some (outcome, next)) :
      SparingCall library home field content first { first with world := next.world }

namespace Subject

/-- Nobody is using the object; one in a heap can always be used. -/
def Free (situation : Situation H) : Subject H → Prop
  | argument _ => True
  | bound receiver cell => ∃ entry, situation.world.Idle receiver cell entry

/-- The content of a field can be read. -/
structure Shows (subject : Subject H) (field : Field H) (content : field.type.Val H)
    (situation : Situation H) : Prop where
  shows : subject.home.Shows field content situation.interpreter.heap situation.world
  free : subject.Free situation
  room : subject.HasRoom situation

variable {library : Library H} {subject : Subject H} {field : Field H}
  {content : field.type.Val H} {situation later : Situation H}

theorem Has.shows {value : H.Value field.receiver}
    (has : subject.Has field.receiver value situation)
    (consistent : situation.interpreter.heap.Consistent)
    (room : subject.HasRoom situation) :
    subject.Shows field (field.get value) situation := by
  have shown : field.of? ⟨field.receiver, value⟩ = some (field.get value) := by
    rw [Field.of?, Object.as?_self]
    rfl
  cases subject with
  | argument handle =>
      refine ⟨⟨fun _ _ => consistent, ?_⟩, trivial, room⟩
      change (situation.interpreter.heap.objects handle.key).bind field.of? = _
      rw [Heap.get?_eq_some_iff.mp has]
      exact shown
  | bound receiver cell =>
      obtain ⟨entry, idle, holds⟩ := has
      refine ⟨.of_cell ?_, ⟨entry, idle⟩, room⟩
      rw [World.content?, idle.there, Option.map_some, holds]
      exact shown

/-- What is shown is the content of the value that the object has. -/
theorem Shows.exists_has (shows : subject.Shows field content situation) :
    ∃ value, subject.Has field.receiver value situation ∧ field.get value = content := by
  obtain ⟨object, found, shown⟩ := Option.bind_eq_some_iff.mp shows.shows.shown
  obtain ⟨value, typed, same⟩ := Option.map_eq_some_iff.mp shown
  have eq := Object.eq_mk_of_as? typed
  subst eq
  refine ⟨value, ?_, same⟩
  cases subject with
  | argument handle => exact Heap.get?_eq_some_iff.mpr found
  | bound receiver cell =>
      obtain ⟨entry, idle⟩ := shows.free
      change situation.world.content? cell = _ at found
      rw [World.content?, idle.there] at found
      exact ⟨entry, idle, Option.some.inj found⟩

/-- A call leaves the object free. -/
theorem Free.of_keepsCells (free : subject.Free situation) {after : Situation H}
    (kept : situation.world.KeepsCells after.world) : subject.Free after := by
  cases subject with
  | argument handle => trivial
  | bound receiver cell =>
      obtain ⟨entry, idle⟩ := free
      exact idle.of_keepsCells kept

/-- A sparing call leaves the content to be read, -/
theorem Shows.step (shows : subject.Shows field content situation) {next : Situation H}
    (call : library.SparingCall subject.home field content situation next) :
    subject.Shows field content next := by
  cases call with
  | here spares called =>
      have ended := Situation.call_eq_some called
      obtain ⟨heap, same⟩ := Interpreter.exists_heap_of_call ended
      refine ⟨Interpreter.shows_of_call spares shows.shows ended,
        shows.free.of_keepsCells (World.worldLaw_keepsCells.interpreterCall ended), ?_⟩
      rw [HasRoom, same]
      exact shows.room
  | @elsewhere other depth callback arguments outcome after spares called =>
      have ended := Situation.call_eq_some called
      refine ⟨?_, shows.free.of_keepsCells (World.worldLaw_keepsCells.interpreterCall ended),
        shows.room⟩
      cases subject with
      | argument handle => exact shows.shows.of_world after.world
      | bound receiver cell =>
          have entered : (Home.cell cell).Shows field content other.heap situation.world :=
            shows.shows.of_content other.heap rfl
          have left := Interpreter.shows_of_call (spares cell rfl) entered ended
          exact left.of_content situation.interpreter.heap rfl

/-- and so does any number of them. -/
theorem Shows.run (shows : subject.Shows field content situation)
    (calls : ReflTransGen (library.SparingCall subject.home field content) situation later) :
    subject.Shows field content later := by
  induction calls with
  | refl => exact shows
  | tail _ call ih => exact ih.step call

end Subject

/-! ## The laws -/

/-- What holds of the calls of a field on a subject that has a value. -/
structure Library.FieldLaws (library : Library H) (name : H.Field) (subject : Subject H)
    (value : H.Value (library.field name).receiver) (situation : Situation H) : Prop where
  /-- A read hands out the content and changes nothing. -/
  read : ∀ depth id, subject.read library name depth id situation =
    some (.ok [(library.field name).type.encode ((library.field name).get value)], situation)
  /-- A write succeeds exactly if its slot can be read as the type of the field.  Then it hands out
  nothing and sets the field, and otherwise it changes nothing. -/
  write : ∀ depth id slot, subject.write library name depth id slot situation =
    match (library.field name).type.decode slot with
    | .error cause => some (.error (.conversion cause), situation)
    | .ok content =>
        some (.ok [], subject.put ⟨_, (library.field name).set content value⟩ situation)
  /-- That changes no other object, in the heap or in a cell, -/
  others_kept : ∀ content place,
    let after := subject.put ⟨_, (library.field name).set content value⟩ situation
    place.object? after.interpreter.heap after.world =
      if place = subject.home then some ⟨_, (library.field name).set content value⟩
      else place.object? situation.interpreter.heap situation.world
  /-- and nothing else in that object, which is as before when the field is set back. -/
  rest_kept : ∀ content, (library.field name).set ((library.field name).get value)
    ((library.field name).set content value) = value
  /-- What was written is read, after any calls in between that spare it. -/
  read_later : ∀ depth id slot content after later,
    (library.field name).type.decode slot = .ok content →
    subject.write library name depth id slot situation = some (.ok [], after) →
    ReflTransGen (library.SparingCall subject.home (library.field name) content) after later →
    ∀ depth id, subject.read library name depth id later =
      some (.ok [(library.field name).type.encode content], later)
  /-- Two writes come to what the second one comes to alone. -/
  write_write : ∀ depth id first second middle last,
    subject.write library name depth id first situation = some (.ok [], middle) →
    subject.write library name depth id second middle = some (.ok [], last) →
    subject.write library name depth id second situation = some (.ok [], last)
  /-- To write the slot that was read changes nothing, if it can be read as the content that it was
  made from. -/
  write_back : ∀ depth id slot,
    subject.read library name depth id situation = some (.ok [slot], situation) →
    (library.field name).type.decode slot = .ok ((library.field name).get value) →
    subject.write library name depth id slot situation = some (.ok [], situation)

namespace Subject.Has

variable {library : Library H} {name : H.Field} {subject : Subject H} {situation : Situation H}
  {value : H.Value (library.field name).receiver}

/-- A write that succeeds has read its slot, and has set the field. -/
theorem put_of_write (has : subject.Has (library.field name).receiver value situation)
    (room : subject.HasRoom situation) {depth : Nat} {id : ClosureId} {slot : Slot H}
    {after : Situation H}
    (written : subject.write library name depth id slot situation = some (.ok [], after)) :
    ∃ content, (library.field name).type.decode slot = .ok content ∧
      after = subject.put ⟨_, (library.field name).set content value⟩ situation := by
  rw [has.write_eq room] at written
  cases decoded : (library.field name).type.decode slot with
  | error cause =>
      rw [decoded] at written
      cases written
  | ok content =>
      rw [decoded] at written
      cases written
      exact ⟨content, rfl, rfl⟩

/-- What was written is shown by the subject. -/
theorem shows_put (lawful : (library.field name).Lawful)
    (has : subject.Has (library.field name).receiver value situation)
    (consistent : situation.interpreter.heap.Consistent) (room : subject.HasRoom situation)
    (content : (library.field name).type.Val H) :
    subject.Shows (library.field name) content
      (subject.put ⟨_, (library.field name).set content value⟩ situation) := by
  have still : (subject.put ⟨_, (library.field name).set content value⟩
      situation).interpreter.heap.Consistent := by
    cases subject with
    | argument handle => exact consistent.replace handle _
    | bound receiver cell => exact consistent
  have written := (has.put ((library.field name).set content value)).shows still (room.put _)
  rwa [lawful.get_set] at written

/-- **A lawful field has lawful calls.** -/
theorem fieldLaws (lawful : (library.field name).Lawful)
    (has : subject.Has (library.field name).receiver value situation)
    (consistent : situation.interpreter.heap.Consistent) (room : subject.HasRoom situation) :
    library.FieldLaws name subject value situation where
  read := has.read_eq room
  write := has.write_eq room
  others_kept content place := has.object?_put _ place
  rest_kept content := (lawful.set_set content _ value).trans (lawful.set_get value)
  read_later depth id slot content after later decoded written calls := by
    obtain ⟨_, found, rfl⟩ := has.put_of_write room written
    cases decoded.symm.trans found
    have shows := (has.shows_put lawful consistent room content).run calls
    obtain ⟨_, hasLater, same⟩ := shows.exists_has
    rw [← same]
    exact hasLater.read_eq shows.room
  write_write depth id first second middle last once twice := by
    obtain ⟨early, _, rfl⟩ := has.put_of_write room once
    obtain ⟨late, found, rfl⟩ := (has.put _).put_of_write (room.put _) twice
    rw [has.write_eq room, found, put_put, lawful.set_set]
  write_back depth id slot _ decoded := by
    rw [has.write_eq room, decoded]
    dsimp only
    rw [lawful.set_get, has.put_self]

end Subject.Has

/-- At every point of a session, a receiver that a field owns can be used. -/
theorem Holdings.Reachable.has_of_owned {library : Library H} {holdings : Holdings H}
    (reachable : holdings.Reachable library) {id : ClosureId} {name : H.Field} {cell : CellId}
    (member : .closure id (.boundField name (.owned cell)) ∈ holdings.records) :
    ∃ value, (Subject.bound (.owned cell) cell).Has (library.field name).receiver value
      ⟨holdings.interpreter, holdings.world⟩ := by
  obtain ⟨bound, type, entry, typed, held⟩ := reachable.sound.owned _ member cell rfl
  obtain ⟨_, idle⟩ := reachable.sound.idle cell bound
  cases idle.there.symm.trans held.there
  obtain ⟨⟨_, value⟩, _, _⟩ := entry
  have same := held.typed
  cases typed with
  | closure _ typed =>
      cases typed with
      | field typed =>
          subst typed
          subst same
          exact ⟨value, _, idle, rfl⟩

/-- **A field obeys the laws of reading and writing through the stack.**  Take a field that is
lawful as a part of its receiver, an interpreter between calls, and an object of the type of the
receiver: behind a live handle that is argument 0, or in a cell that the field is bound to and that
nobody is using.  If the stack may hold one slot more than the handle, all the laws hold.

A cell that the field owns is never in use at any point of a session, so there they hold always. -/
theorem memberVariables_lawful {library : Library H} {name : H.Field}
    (lawful : (library.field name).Lawful) :
    (∀ (situation : Situation H) (operations : List (Heap.Operation H)) (subject : Subject H)
      (value : H.Value (library.field name).receiver),
      situation.interpreter.Reachable →
      situation.interpreter.heap = ({} : Heap H).run operations →
      subject.Has (library.field name).receiver value situation →
      subject.leading.length + 1 ≤ situation.interpreter.policy.stackLimit →
        library.FieldLaws name subject value situation) ∧
    ∀ holdings : Holdings H, holdings.Reachable library → ∀ id cell,
      .closure id (.boundField name (.owned cell)) ∈ holdings.records →
        ∃ value, (Subject.bound (.owned cell) cell).Has (library.field name).receiver value
          ⟨holdings.interpreter, holdings.world⟩ := by
  refine ⟨fun situation operations subject value reachable built has room => ?_,
    fun holdings reachable id cell member => reachable.has_of_owned member⟩
  have consistent : situation.interpreter.heap.Consistent := by
    rw [built]
    exact Heap.Consistent.empty.run operations
  refine has.fieldLaws lawful consistent ?_
  rw [Subject.HasRoom, reachable.stack_eq_empty, Array.size_empty, Nat.zero_add]
  exact room

namespace Sample

/-- An interpreter with a record in its heap, and a stack for two slots. -/
def recordHeap : Situation host where
  interpreter :=
    { heap := ({} : Heap host).run [.allocate ⟨.record, {}⟩], policy := { stackLimit := 2 } }
  world := { memory := {} }

/-- The same with other content in the record. -/
def recordWith (record : Record) : Situation host where
  interpreter := { heap := ⟨#[.occupied 0 ⟨.record, record⟩], []⟩, policy := { stackLimit := 2 } }
  world := { memory := {} }

/-- That record, behind its handle. -/
def recordSubject : Subject host := .argument ⟨0, 0, .record⟩

/-- A session with nothing built. -/
def emptySession : Holdings host := .new {} {}

/-- A session in which the field was bound to a record of its own. -/
def ownedRecord : Holdings host :=
  emptySession.keep (.closure 0 (.boundField .recordSmall (.owned 0)))
    { memory := {}, cells := #[{ content := ⟨.record, {}⟩ }], closures := 1 }

theorem reachable_ownedRecord : ownedRecord.Reachable (Session.library #[]) := by
  have built :
      (Registration.fieldBound FieldName.recordSmall
        (.value ⟨Receiver.record, ({} : Record)⟩)).build (Session.library #[]) "small"
          emptySession.world =
      (.ok (.closure 0 (.boundField .recordSmall (.owned 0))), ownedRecord.world) := rfl
  refine ⟨{}, {}, .single (.act (.build ⟨?_, ?_⟩ built))⟩
  · intro callback member
    cases member
  · intro type source asked
    cases asked
    exact .value (show host.Value Receiver.record from {})

/-- A small number is written, then another field is set, then a number is refused that is too
large, and the small number is read.  The record that the field owns can be used as well. -/
theorem recordSmall_written :
    ((Session.library #[]).field FieldName.recordSmall).Lawful ∧
      ownedRecord.Reachable (Session.library #[]) ∧
      (∃ value, (Subject.bound (.owned 0) 0).Has Receiver.record value
        ⟨ownedRecord.interpreter, ownedRecord.world⟩) ∧ ∃ first second third,
      recordSubject.write (Session.library #[]) FieldName.recordSmall 0 0 (.int 7) recordHeap =
        some (.ok [], first) ∧
      recordSubject.write (Session.library #[]) FieldName.recordInt 0 1 (.int 5) first =
        some (.ok [], second) ∧
      recordSubject.write (Session.library #[]) FieldName.recordSmall 0 0 (.int 300) second =
        some (.error (.conversion (.integerOverflow 300 "uint8")), third) ∧
      recordSubject.read (Session.library #[]) FieldName.recordSmall 0 0 third =
        some (.ok [.int 7], third) := by
  have lawful : ((Session.library #[]).field FieldName.recordSmall).Lawful :=
    ⟨fun _ _ => rfl, fun _ => rfl, fun _ _ _ => rfl⟩
  have reachable : recordHeap.interpreter.Reachable := .setHeap (.new { stackLimit := 2 }) _
  obtain ⟨laws, ready⟩ := memberVariables_lawful lawful
  have usable := ready ownedRecord reachable_ownedRecord 0 0 List.mem_cons_self
  have obeys := laws recordHeap _ recordSubject {} reachable rfl rfl (by decide)
  have written : recordSubject.write (Session.library #[]) FieldName.recordSmall 0 0 (.int 7)
      recordHeap = some (.ok [], recordWith { small := 7 }) := rfl
  have set : recordSubject.write (Session.library #[]) FieldName.recordInt 0 1 (.int 5)
      (recordWith { small := 7 }) = some (.ok [], recordWith { small := 7, int := 5 }) := rfl
  have refused : recordSubject.write (Session.library #[]) FieldName.recordSmall 0 0 (.int 300)
      (recordWith { small := 7, int := 5 }) =
        some (.error (.conversion (.integerOverflow 300 "uint8")),
          recordWith { small := 7, int := 5 }) := rfl
  refine ⟨lawful, reachable_ownedRecord, usable, _, _, _, written, set, refused, ?_⟩
  refine obeys.read_later 0 0 (.int 7) (7 : UInt8) _ _ rfl written ?_ 0 0
  refine .tail (.single (.here (fun _ => ?_) set)) (.here (fun _ => ?_) refused)
  · -- the small number is still there when the record with the other field set is written
    refine Library.sparesContent_closure (Library.sparesContent_done _ fun shows => ?_)
    have after := (shows.consistent _ rfl).step
      (.tryWrite ⟨0, 0, .record⟩ ⟨.record, { small := 7, int := 5 }⟩)
    exact ⟨fun _ _ => after, rfl⟩
  · -- nothing happens in a call that is refused
    exact Library.sparesContent_closure (Library.sparesContent_closing _ _)

end Sample

end HostCall
