import HostCall.Proofs.Moments
import HostCall.Proofs.ResultPushing

/-!
# What calls leave in a field

An object that outlasts a call lives under a key of a heap or in a cell (`Home`).  A field of it
shows a content, and there are few ways to change that content: a program frees the object or
writes another one in its place, or a method that may change its receiver ends and writes it back
with another content (`Moment.Spoils`).

These are all.  Whatever else happens while a callback runs, however deep its calls nest, the field
shows what it showed before (`Library.shows_of_call`): objects are allocated, other objects are
freed and written, the same object is read or has other fields changed, and slots are pushed.

The proof follows the moments of a call, for both kinds of homes at once.  What happens to a heap
happens on the frames of one interpreter, so for a home in a heap the moments of calls in other
interpreters do not count (`Home.Follows`).
-/

set_option autoImplicit false

namespace HostCall

open Relation (ReflTransGen)

variable {H : Host}

/-! ## Homes of objects -/

/-- Where an object lives that outlasts a call. -/
inductive Home
  | heap (key : Key)
  | cell (id : CellId)
deriving DecidableEq

/-- The object that lives there. -/
def Home.object? (heap : Heap H) (world : World H) : Home → Option (Object H)
  | .heap key => heap.objects key
  | .cell id => world.content? id

/-- The content of a field in an object, if the object is of its type. -/
def Field.of? (field : Field H) (object : Object H) : Option (field.type.Val H) :=
  (object.as? field.receiver).map field.get

/-- The object that lives there shows a content in a field.  A heap is consistent, so that it keeps
to its keys. -/
structure Home.Shows (home : Home) (field : Field H) (content : field.type.Val H)
    (heap : Heap H) (world : World H) : Prop where
  consistent : ∀ key, home = .heap key → heap.Consistent
  shown : (home.object? heap world).bind field.of? = some content

/-- So it does in the midst of a call. -/
def Scene.Shows (scene : Scene H) (home : Home) (field : Field H)
    (content : field.type.Val H) : Prop :=
  home.Shows field content scene.frame.heap scene.world

variable {home : Home} {field : Field H} {content : field.type.Val H}

/-- An object of the same type has the field as well. -/
theorem Field.exists_of? {object other : Object H} (shown : field.of? object = some content)
    (same : other.receiver = object.receiver) : ∃ written, field.of? other = some written := by
  obtain ⟨value, typed, -⟩ := Option.map_eq_some_iff.mp shown
  cases Object.eq_mk_of_as? typed
  obtain ⟨type, value⟩ := other
  dsimp only at same
  subst same
  exact ⟨field.get value, by rw [of?, Object.as?_self]; rfl⟩

namespace Home.Shows

variable {heap next : Heap H} {world after : World H}

/-- What lives in a heap does not depend on the world. -/
theorem of_world {key : Key} (shows : (Home.heap key).Shows field content heap world)
    (after : World H) : (Home.heap key).Shows field content heap after :=
  ⟨shows.consistent, shows.shown⟩

/-- What a cell shows is a matter of what it holds. -/
theorem of_cell {id : CellId} (shown : (world.content? id).bind field.of? = some content) :
    (Home.cell id).Shows field content heap world where
  consistent key same := by cases same
  shown := shown

/-- What lives in a cell depends on that cell alone. -/
theorem of_content {id : CellId} (shows : (Home.cell id).Shows field content heap world)
    (next : Heap H) (kept : after.content? id = world.content? id) :
    (Home.cell id).Shows field content next after :=
  of_cell (by rw [kept]; exact shows.shown)

/-- To count the uses of a cell changes nothing in it. -/
theorem modifyCell (shows : home.Shows field content heap world) (cell : CellId)
    {change : Cell H → Cell H} (kept : ∀ entry, (change entry).content = entry.content) :
    home.Shows field content heap (world.modifyCell cell change) := by
  cases home with
  | heap key => exact shows.of_world _
  | cell id =>
      refine shows.of_content heap ?_
      rw [World.content?, World.content?]
      by_cases here : id = cell
      · subst here
        rw [World.getElem?_modifyCell, Option.map_map]
        exact congrArg (Option.map · world.cells[id]?) (funext kept)
      · rw [World.getElem?_modifyCell_of_ne _ here]

end Home.Shows

/-! ## Operations on a heap -/

/-- The operation takes the object under a key away, or writes another content in its field. -/
def Heap.Operation.Spoils (key : Key) (field : Field H) (content : field.type.Val H) :
    Heap.Operation H → Prop
  | allocate _ => False
  | free handle => handle.key = key
  | write handle object | tryWrite handle object =>
      handle.key = key ∧ ∃ written, field.of? object = some written ∧ written ≠ content

/-- No other operation does anything to the content. -/
theorem Home.Shows.step {heap : Heap H} {world : World H} {key : Key}
    (shows : (Home.heap key).Shows field content heap world) {operation : Heap.Operation H}
    (spares : ¬ operation.Spoils key field content) :
    (Home.heap key).Shows field content (heap.step operation) world := by
  have consistent := shows.consistent key rfl
  refine ⟨fun _ _ => consistent.step operation, ?_⟩
  obtain ⟨live, found, shown⟩ := Option.bind_eq_some_iff.mp shows.shown
  change heap.objects key = some live at found
  -- an object that is written has the type of the one that was there
  have written (handle : Handle H.toVocabulary) (object : Object H) (here : handle.key = key)
      (spares : ¬ (Heap.Operation.write handle object).Spoils key field content) :
      ((heap.step (.write handle object)).objects key).bind field.of? = some content := by
    subst here
    rcases heap.step_write_cases handle object with ⟨former, reached, replaced⟩ | kept
    · cases found.symm.trans reached
      have sameType : ∃ other, field.of? object = some other := Field.exists_of? shown rfl
      obtain ⟨other, has⟩ := sameType
      have same : other = content := by
        by_contra different
        exact spares ⟨rfl, other, has, different⟩
      rw [replaced, Heap.objects_replace (Heap.contains_of_objects reached), Function.update_self,
        Option.bind_some, has, same]
    · rw [kept, found, Option.bind_some, shown]
  by_cases here : operation.target? = some key
  · cases operation with
    | allocate object => cases here
    | free handle => exact absurd (Option.some.inj here) spares
    | write handle object => exact written handle object (Option.some.inj here) spares
    | tryWrite handle object =>
        rw [Heap.step_tryWrite]
        exact written handle object (Option.some.inj here) spares
  · rw [Home.object?, consistent.objects_step_of_ne found here, Option.bind_some, shown]

/-- A content that is spoiled is there no more. -/
theorem Home.Shows.not_shows_step {heap : Heap H} {world : World H} {key : Key}
    (shows : (Home.heap key).Shows field content heap world) {operation : Heap.Operation H}
    (spoils : operation.Spoils key field content) :
    ¬ (Home.heap key).Shows field content (heap.step operation) world := by
  obtain ⟨live, found, shown⟩ := Option.bind_eq_some_iff.mp shows.shown
  change heap.objects key = some live at found
  have overwritten (handle : Handle H.toVocabulary) (object : Object H)
      (spoils : (Heap.Operation.write handle object).Spoils key field content) :
      ¬ (Home.heap key).Shows field content (heap.step (.write handle object)) world := by
    obtain ⟨rfl, written, has, different⟩ := spoils
    intro still
    -- both objects have the field, so they are of one type and the write is done
    obtain ⟨former, typed, _⟩ := Option.map_eq_some_iff.mp shown
    obtain ⟨next, retyped, _⟩ := Option.map_eq_some_iff.mp has
    cases Object.eq_mk_of_as? typed
    cases Object.eq_mk_of_as? retyped
    have replaced : heap.step (.write handle ⟨field.receiver, next⟩) =
        heap.replace handle ⟨field.receiver, next⟩ := by
      rw [Heap.step, Heap.set?_of_objects found]
      rfl
    have now := still.shown
    rw [replaced, Home.object?, Heap.objects_replace (Heap.contains_of_objects found),
      Function.update_self, Option.bind_some, has] at now
    exact different (Option.some.inj now)
  cases operation with
  | allocate object => exact spoils.elim
  | free handle =>
      obtain rfl : handle.key = key := spoils
      intro still
      have now := still.shown
      rw [Heap.step, Home.object?, Heap.objects_free (Heap.contains_of_objects found),
        Function.update_self] at now
      cases now
  | write handle object => exact overwritten handle object spoils
  | tryWrite handle object =>
      rw [Heap.step_tryWrite]
      exact overwritten handle object spoils

/-! ## Operations on a frame -/

/-- Overwriting the receiver is an operation on the heap if argument 0 is a handle. -/
def Frame.receiverWrite? (frame : Frame H) (object : Object H) : Option (Heap.Operation H) :=
  match frame.receiverSlot with
  | .ok (.object handle) => some (.tryWrite handle object)
  | _ => none

/-- What a program does to the heap of its frame, if anything. -/
def FrameOperation.heapOperation? (frame : Frame H) : FrameOperation H → Option (Heap.Operation H)
  | .setReceiver object => frame.receiverWrite? object
  | .allocate object => some (.allocate object)
  | .free handle => some (.free handle)
  | .setObject handle object => some (.tryWrite handle object)
  | .host _ | .look | .push _ | .accepts _ | .select _ | .invoke _ => none

/-- The heap after an operation, if there is one. -/
def Heap.stepBy (heap : Heap H) (operation? : Option (Heap.Operation H)) : Heap H :=
  operation?.elim heap heap.step

theorem Frame.heap_putReceiver (frame : Frame H) (object : Object H) :
    (frame.putReceiver object.receiver object.value).heap =
      frame.heap.stepBy (frame.receiverWrite? object) := by
  rw [putReceiver, setReceiver_eq, receiverWrite?]
  cases frame.receiverSlot with
  | error error => rfl
  | ok slot =>
      cases slot with
      | native there =>
          dsimp only
          cases there.as? object.receiver <;> rfl
      | object handle =>
          change _ = (frame.heap.set handle object.receiver object.value).toOption.getD frame.heap
          dsimp only
          cases frame.heap.set handle object.receiver object.value <;> rfl
      | _ => rfl

/-- The operation works on the frame itself. -/
def FrameOperation.isOwn : FrameOperation H → Bool
  | .host _ | .invoke _ => false
  | _ => true

/-- An operation on the frame itself does to the heap what it says, and nothing to the world. -/
theorem FrameOperation.own_of_run {library : Library H} {invoke : Invoker H}
    {operation : FrameOperation H} {scene after : Scene H} {answer : operation.Answer}
    (own : operation.isOwn = true)
    (ran : operation.run library invoke scene = some (answer, after)) :
    after.frame.heap = scene.frame.heap.stepBy (operation.heapOperation? scene.frame) ∧
      after.world = scene.world := by
  cases operation with
  | host operation => cases own
  | invoke callback => cases own
  | push slot =>
      rw [run, Frame.push_eq] at ran
      split at ran <;> cases ran <;> exact ⟨rfl, rfl⟩
  | setReceiver object =>
      rw [heapOperation?, ← Frame.heap_putReceiver, Frame.putReceiver]
      rw [run] at ran
      cases written : scene.frame.setReceiver object.receiver object.value <;>
        rw [written] at ran <;> cases ran <;> exact ⟨rfl, rfl⟩
  | setObject handle object =>
      change _ = (scene.frame.heap.set handle object.receiver object.value).toOption.getD
        scene.frame.heap ∧ _
      rw [run] at ran
      cases written : scene.frame.heap.set handle object.receiver object.value <;>
        rw [written] at ran <;> cases ran <;> exact ⟨rfl, rfl⟩
  | _ =>
      cases ran
      exact ⟨rfl, rfl⟩

/-! ## Moments at which a content is spoiled -/

/-- At this moment the content of a field is there, and gets lost or changes. -/
inductive Moment.Spoils (field : Field H) (content : field.type.Val H) : Home → Moment H → Prop
  /-- A program frees the object or writes another one in its place, -/
  | operation {operation : FrameOperation H} {change : Heap.Operation H} {key : Key}
      {scene : Scene H} {next : operation.Answer → FrameProgram H (Ending H)}
      (shows : scene.Shows (.heap key) field content)
      (asks : operation.heapOperation? scene.frame = some change)
      (spoils : change.Spoils key field content) :
      Spoils field content (.heap key) (.working (.step operation next) scene)
  /-- or a method that may change its receiver writes it, behind a handle of that key, with another
  content, -/
  | left {method : Method H} {ended : method.result.Val H × H.Value method.receiver}
      {change : Heap.Operation H} {key : Key} {scene : Scene H}
      (changes : method.access = .exclusive)
      (shows : scene.Shows (.heap key) field content)
      (writes : scene.frame.receiverWrite? ⟨method.receiver, ended.2⟩ = some change)
      (spoils : change.Spoils key field content) :
      Spoils field content (.heap key) (.working (.done (.ofMethod method ended)) scene)
  /-- or gives it back to that cell without the content. -/
  | givenBack {method : Method H} {ended : method.result.Val H × H.Value method.receiver}
      {loan : World.Loan H method.receiver} {scene : Scene H}
      (changes : method.access = .exclusive)
      (shows : scene.Shows (.cell loan.cell) field content)
      (other : field.of? ⟨method.receiver, ended.2⟩ ≠ some content) :
      Spoils field content (.cell loan.cell) (.working (.done (.ofLoan method loan ended)) scene)

/-- A method that may change its receiver does to the heap what overwriting the receiver does. -/
theorem Method.heap_leave {method : Method H} (changes : method.access = .exclusive)
    (frame : Frame H) (changed : H.Value method.receiver) :
    (method.leave frame changed).heap =
      frame.heap.stepBy (frame.receiverWrite? ⟨method.receiver, changed⟩) := by
  rw [leave, changes]
  exact frame.heap_putReceiver ⟨method.receiver, changed⟩

/-- Where it has borrowed its receiver, the cell holds what it leaves. -/
theorem Method.content?_giveBack {method : Method H} (changes : method.access = .exclusive)
    (loan : World.Loan H method.receiver) (world : World H) (changed : H.Value method.receiver) :
    (method.giveBack loan world changed).content? loan.cell =
      (world.content? loan.cell).map fun _ => ⟨method.receiver, changed⟩ := by
  rw [giveBack, changes]
  simp only [World.releaseWith, World.unlock, World.setContent, World.modifyCell_modifyCell,
    World.content?, World.getElem?_modifyCell, Option.map_map]
  rfl

/-- And no other cell is touched. -/
theorem Method.content?_giveBack_of_ne {method : Method H} (changes : method.access = .exclusive)
    (loan : World.Loan H method.receiver) (world : World H) (changed : H.Value method.receiver)
    {id : CellId} (apart : id ≠ loan.cell) :
    (method.giveBack loan world changed).content? id = world.content? id := by
  rw [giveBack, changes]
  simp only [World.releaseWith, World.unlock, World.setContent, World.modifyCell_modifyCell,
    World.content?, World.getElem?_modifyCell_of_ne _ apart]

/-- A content that is spoiled when a body ends was there before and is not there afterwards. -/
theorem Moment.Spoils.lost {ending : Ending H} {scene : Scene H}
    (spoils : (Moment.working (.done ending) scene).Spoils field content home) :
    scene.Shows home field content ∧ ¬ (ending.close scene).scene.Shows home field content := by
  cases spoils with
  | @left method ended change key _ changes shows writes spoils =>
      refine ⟨shows, ?_⟩
      rw [Ending.ofMethod, Scene.scene_delivering, Scene.Shows]
      dsimp only
      rw [Method.heap_leave changes, writes]
      exact shows.not_shows_step spoils
  | @givenBack method ended loan _ changes shows other =>
      refine ⟨shows, fun still => ?_⟩
      rw [Ending.ofLoan, Scene.scene_delivering] at still
      obtain ⟨live, found, _⟩ := Option.bind_eq_some_iff.mp shows.shown
      have now := still.shown
      rw [Home.object?, Method.content?_giveBack changes] at now
      change scene.world.content? loan.cell = some live at found
      rw [found, Option.map_some, Option.bind_some] at now
      exact other now

/-- The moments that matter to a home: those on the frames of one interpreter if it is in a heap,
and those of all calls if it is a cell. -/
def Home.Follows (library : Library H) (first next : Moment H) : Home → Prop
  | .heap _ => library.Proceeds first next
  | .cell _ => library.Follows first next

theorem Home.Follows.follows {library : Library H} {first next : Moment H} {home : Home}
    (follows : home.Follows library first next) : library.Follows first next := by
  cases home with
  | heap key => exact .inl follows
  | cell id => exact follows

theorem Library.Proceeds.matters {library : Library H} {first next : Moment H}
    (proceeds : library.Proceeds first next) (home : Home) : home.Follows library first next := by
  cases home with
  | heap key => exact proceeds
  | cell id => exact .inl proceeds

namespace Library

variable {library : Library H}

/-- From this moment on the content is not spoiled. -/
def SparesContent (library : Library H) (home : Home) (field : Field H)
    (content : field.type.Val H) (moment : Moment H) : Prop :=
  ∀ later, ReflTransGen (fun first next => home.Follows library first next) moment later →
    ¬ later.Spoils field content home

theorem SparesContent.after {first next : Moment H}
    (spares : library.SparesContent home field content first)
    (follows : home.Follows library first next) :
    library.SparesContent home field content next := by
  intro later reached
  exact spares later (.head follows reached)

theorem SparesContent.next {first next : Moment H}
    (spares : library.SparesContent home field content first)
    (proceeds : library.Proceeds first next) : library.SparesContent home field content next :=
  spares.after (proceeds.matters home)

/-- A call that ends has nothing left that could spoil a content. -/
theorem sparesContent_closing (library : Library H) (last : Closing H) :
    library.SparesContent home field content (.closing last) := by
  intro later reached
  have closes : ∃ last, later = .closing last := by
    induction reached with
    | refl => exact ⟨last, rfl⟩
    | tail _ follows ih =>
        obtain ⟨_, rfl⟩ := ih
        rcases follows.follows with proceeds | enters
        · cases proceeds <;> exact ⟨_, rfl⟩
        · cases enters
  obtain ⟨_, rfl⟩ := closes
  rintro ⟨⟩

/-- A body that has ended spares what its ending keeps. -/
theorem sparesContent_done (library : Library H) {ending : Ending H} {scene : Scene H}
    (keeps : scene.Shows home field content →
      (ending.close scene).scene.Shows home field content) :
    library.SparesContent home field content (.working (.done ending) scene) := by
  intro later reached
  rcases reached.cases_head with rfl | ⟨next, follows, rest⟩
  · intro spoils
    obtain ⟨shows, lost⟩ := spoils.lost
    exact lost (keeps shows)
  · rcases follows.follows with proceeds | enters
    · cases proceeds
      exact library.sparesContent_closing _ later rest
    · cases enters

/-- The call of a closure spares what its body spares. -/
theorem sparesContent_closure {id : ClosureId} {block : Block H.toVocabulary} {scene : Scene H}
    (spares : library.SparesContent home field content (library.opening scene block)) :
    library.SparesContent home field content (.calling (.closure id block) scene) := by
  intro later reached
  rcases reached.cases_head with rfl | ⟨next, follows, rest⟩
  · rintro ⟨⟩
  · rcases follows.follows with proceeds | enters
    · cases proceeds
      exact spares later rest
    · cases enters

/-- A call keeps the content if nothing spoils it from the call on. -/
def KeepsContent (library : Library H) (home : Home) (field : Field H)
    (content : field.type.Val H) (invoke : Invoker H) : Prop :=
  ∀ callback scene outcome after,
    library.SparesContent home field content (.calling callback scene) →
    scene.Shows home field content → invoke callback scene = some (outcome, after) →
      after.Shows home field content

/-! ## Operations and programs -/

section Programs

variable {depth : Nat}

/-- A call in another interpreter does not reach the heap, and the cells it keeps. -/
theorem KeepsContent.interpreterCall
    (keeps : library.KeepsContent home field content (library.nested depth))
    {interpreter : Interpreter H} {callback : Callback H.toVocabulary}
    {arguments : List (Slot H)} {scene : Scene H} {after : World H}
    {results : Except CallError (List (Slot H)) × Interpreter H}
    {next : Except CallError (List (Slot H)) × Interpreter H → FrameProgram H (Ending H)}
    (spares : library.SparesContent home field content
      (.working (.step (.host (.call interpreter callback arguments)) next) scene))
    (shows : scene.Shows home field content)
    (called : interpreter.callWith (library.nested depth) callback arguments scene.world =
      some (results, after)) :
    home.Shows field content scene.frame.heap after := by
  cases home with
  | heap key => exact shows.of_world after
  | cell id =>
      obtain ⟨outcome, last⟩ := results
      rcases Interpreter.callWith_cases (goesBySteps_nested library depth) called with
        ⟨crowded, _, _⟩ | ⟨fits, reported, frame, _, ran, _, _, _⟩
      · rw [Interpreter.callWith_of_not_fits crowded] at called
        cases called
        exact shows
      · have entered : Home.Shows (.cell id) field content (interpreter.entry arguments).heap
            scene.world := shows.of_content _ rfl
        have left := keeps callback ⟨interpreter.entry arguments, scene.world⟩ reported _
          (spares.after (.inr (.call fits callback next scene))) entered ran
        exact Home.Shows.of_content left _ rfl

/-- An operation of a program. -/
theorem KeepsContent.operation
    (keeps : library.KeepsContent home field content (library.nested depth))
    {operation : FrameOperation H} {scene after : Scene H} {answer : operation.Answer}
    {next : operation.Answer → FrameProgram H (Ending H)}
    (spares : library.SparesContent home field content (.working (.step operation next) scene))
    (shows : scene.Shows home field content)
    (ran : operation.run library (library.nested depth) scene = some (answer, after)) :
    after.Shows home field content := by
  have byItself (own : operation.isOwn = true) : after.Shows home field content := by
    obtain ⟨heap, world⟩ := FrameOperation.own_of_run own ran
    rw [Scene.Shows, heap, world]
    cases home with
    | cell id => exact shows.of_content _ rfl
    | heap key =>
        cases asks : operation.heapOperation? scene.frame with
        | none => exact shows
        | some change =>
            exact shows.step fun spoils => spares _ .refl (.operation shows asks spoils)
  cases operation with
  | host operation =>
      obtain ⟨⟨_, world⟩, ended, same⟩ := Option.map_eq_some_iff.mp ran
      cases same
      cases operation with
      | call interpreter callback arguments =>
          have left := keeps.interpreterCall spares shows ended
          exact left
      | readMemory | inspect callback =>
          cases ended
          exact shows
      | writeMemory memory =>
          cases ended
          exact ⟨shows.consistent, shows.shown⟩
  | invoke callback => exact keeps callback scene answer after (spares.next (.invoke ..)) shows ran
  | _ => exact byItself rfl

/-- A program, whatever its call ends with. -/
theorem KeepsContent.program
    (keeps : library.KeepsContent home field content (library.nested depth)) {α : Type}
    {program : FrameProgram H α} {ending : α → Ending H} {scene after : Scene H} {value : α}
    (spares : library.SparesContent home field content (.working (program.map ending) scene))
    (shows : scene.Shows home field content)
    (ran : program.run (FrameOperation.run library (library.nested depth)) scene =
      some (value, after)) :
    library.SparesContent home field content (.working (.done (ending value)) after) ∧
      after.Shows home field content := by
  induction program generalizing scene with
  | done value =>
      cases ran
      exact ⟨spares, shows⟩
  | step operation next ih =>
      rw [Program.run] at ran
      cases answered : operation.run library (library.nested depth) scene with
      | none =>
          rw [answered] at ran
          cases ran
      | some result =>
          obtain ⟨answer, middle⟩ := result
          rw [answered] at ran
          exact ih answer (spares.next (.answered answered _))
            (keeps.operation spares shows answered) ran

end Programs

end Library

/-! ## Endings -/

/-- The content is still there when a body has ended, unless that moment spoils it. -/
def Ending.KeepsContent (ending : Ending H) (home : Home) (field : Field H)
    (content : field.type.Val H) : Prop :=
  ∀ scene, scene.Shows home field content →
    ¬ (Moment.working (.done ending) scene).Spoils field content home →
      (ending.close scene).scene.Shows home field content

namespace Ending

theorem keepsContent_report (outcome : Except CallError Nat) :
    (report outcome : Ending H).KeepsContent home field content :=
  fun _ shows _ => shows

theorem keepsContent_ofFunction (function : FreeFunction H) (value : function.result.Val H) :
    (ofFunction function value).KeepsContent home field content := by
  intro scene shows _
  simp only [ofFunction, Scene.scene_delivering]
  exact shows

theorem keepsContent_ofConstructor (constructor : Constructor H)
    (value : H.Value constructor.receiver) :
    (ofConstructor constructor value).KeepsContent home field content := by
  intro scene shows _
  simp only [ofConstructor, Scene.scene_delivering]
  cases home with
  | cell id => exact shows.of_content _ rfl
  | heap key =>
      have spares : ¬ (Heap.Operation.allocate ⟨constructor.receiver, value⟩).Spoils key field
          content := id
      exact shows.step spares

/-- A method that only reads its receiver leaves the frame alone. -/
theorem keepsContent_ofMethod (method : Method H)
    (ended : method.result.Val H × H.Value method.receiver) :
    (ofMethod method ended).KeepsContent home field content := by
  intro scene shows spares
  cases changes : method.access with
  | exclusive =>
      simp only [ofMethod, Scene.scene_delivering]
      cases home with
      | cell id => exact shows.of_content _ rfl
      | heap key =>
          rw [Scene.Shows]
          dsimp only
          rw [Method.heap_leave changes]
          cases writes : scene.frame.receiverWrite? ⟨method.receiver, ended.2⟩ with
          | none => exact shows
          | some change => exact shows.step fun spoils => spares (.left changes shows writes spoils)
  | shared =>
      have leaves : method.leave scene.frame ended.2 = scene.frame := by rw [Method.leave, changes]
      simp only [ofMethod, Scene.scene_delivering, leaves]
      exact shows

/-- If it has borrowed its receiver, it has one use less to count. -/
theorem keepsContent_ofLoan (method : Method H) (loan : World.Loan H method.receiver)
    (ended : method.result.Val H × H.Value method.receiver) :
    (ofLoan method loan ended).KeepsContent home field content := by
  intro scene shows spares
  cases changes : method.access with
  | exclusive =>
      simp only [ofLoan, Scene.scene_delivering]
      cases home with
      | heap key => exact shows.of_world _
      | cell id =>
          by_cases here : id = loan.cell
          · subst here
            obtain ⟨live, found, _⟩ := Option.bind_eq_some_iff.mp shows.shown
            change scene.world.content? loan.cell = some live at found
            have left : field.of? ⟨method.receiver, ended.2⟩ = some content := by
              by_contra other
              exact spares (.givenBack changes shows other)
            refine .of_cell ?_
            rw [Method.content?_giveBack changes, found, Option.map_some, Option.bind_some, left]
          · exact shows.of_content _ (Method.content?_giveBack_of_ne changes loan _ _ here)
  | shared =>
      have given : method.giveBack loan scene.world ended.2 = scene.world.unlock loan.cell := by
        rw [Method.giveBack, changes]
        rfl
      simp only [ofLoan, Scene.scene_delivering, given]
      exact shows.modifyCell loan.cell fun _ => rfl

end Ending

/-! ## Bodies -/

namespace Library

variable {library : Library H} {depth : Nat}

/-- What is left of a call keeps the content if nothing spoils it any more. -/
def KeepsFrom (library : Library H) (depth : Nat) (home : Home) (field : Field H)
    (content : field.type.Val H) (moment : Moment H) : Prop :=
  library.SparesContent home field content moment →
    ∀ outcome after, moment.result? library (library.nested depth) = some (outcome, after) →
      after.Shows home field content

theorem keepsFrom_refused {scene : Scene H} (shows : scene.Shows home field content)
    (error : CallError) : library.KeepsFrom depth home field content (.refused error scene) := by
  intro _ outcome after ended
  cases ended
  exact shows

/-- A body keeps the content if its program and its ending do. -/
theorem KeepsContent.working
    (keeps : library.KeepsContent home field content (library.nested depth)) {α : Type}
    (program : FrameProgram H α) {ending : α → Ending H} {scene : Scene H}
    (shows : scene.Shows home field content)
    (ends : ∀ value, (ending value).KeepsContent home field content) :
    library.KeepsFrom depth home field content (.working (program.map ending) scene) := by
  intro spares outcome after ended
  rw [Moment.result?, Program.run_map] at ended
  simp only [Option.map_map] at ended
  obtain ⟨⟨value, middle⟩, ran, closed⟩ := Option.map_eq_some_iff.mp ended
  obtain ⟨left, showsMiddle⟩ := keeps.program spares shows ran
  have closing := ends value middle showsMiddle (left _ .refl)
  cases closed
  rw [Scene.Shows] at closing ⊢
  simp only [Frame.pushAll_eq]
  split <;> exact closing

section Openings

variable (keeps : library.KeepsContent home field content (library.nested depth))
  {scene : Scene H} (shows : scene.Shows home field content)
include keeps shows

theorem KeepsContent.function (function : FreeFunction H) :
    library.KeepsFrom depth home field content (function.opening scene) := by
  rw [FreeFunction.opening]
  split
  · exact keepsFrom_refused shows _
  · exact keeps.working _ shows (Ending.keepsContent_ofFunction function)

theorem KeepsContent.constructor (constructor : Constructor H) :
    library.KeepsFrom depth home field content (constructor.opening scene) := by
  rw [Constructor.opening]
  split
  · exact keepsFrom_refused shows _
  · exact keeps.working _ shows (Ending.keepsContent_ofConstructor constructor)

theorem KeepsContent.method (method : Method H) :
    library.KeepsFrom depth home field content (method.opening scene) := by
  rw [Method.opening]
  split
  · exact keepsFrom_refused shows _
  · exact keeps.working _ shows (Ending.keepsContent_ofMethod method)

/-- To borrow a cell changes nothing in it. -/
theorem KeepsContent.boundMethod (method : Method H) (receiver : FixedReceiver) :
    library.KeepsFrom depth home field content (method.openingBound receiver scene) := by
  rw [Method.openingBound]
  split
  · exact keepsFrom_refused shows _
  · split
    · exact keepsFrom_refused shows _
    · rename_i loan lent acquired
      obtain ⟨_, granted, _, _, _, _, rfl⟩ := World.acquire_eq_ok acquired
      let lent := scene.world.modifyCell loan.cell fun entry => { entry with borrow := granted }
      have borrowed : Scene.Shows { scene with world := lent } home field content :=
        shows.modifyCell loan.cell fun _ => rfl
      exact keeps.working _ borrowed (Ending.keepsContent_ofLoan method loan)

/-- A field is one of its accessor methods, or takes no such call. -/
theorem KeepsContent.opening (block : Block H.toVocabulary) :
    library.KeepsFrom depth home field content (library.opening scene block) := by
  cases block with
  | function name => exact keeps.function shows (library.function name)
  | method name => exact keeps.method shows (library.method name)
  | boundMethod name receiver => exact keeps.boundMethod shows (library.method name) receiver
  | field name =>
      rw [Library.opening]
      split
      · exact keeps.method shows (library.field name).reader
      · exact keeps.method shows (library.field name).writer
      · exact keepsFrom_refused shows _
  | boundField name receiver =>
      rw [Library.opening]
      split
      · exact keeps.boundMethod shows (library.field name).reader receiver
      · exact keeps.boundMethod shows (library.field name).writer receiver
      · exact keepsFrom_refused shows _
  | construct name => exact keeps.constructor shows (library.constructor name)
  | custom label name => exact keeps.working _ shows Ending.keepsContent_report

end Openings

/-! ## Calls -/

/-- A call keeps the content if the calls do that it makes. -/
theorem KeepsContent.callWith
    (keeps : library.KeepsContent home field content (library.nested depth)) :
    library.KeepsContent home field content (library.callWith (library.nested depth)) := by
  intro callback scene outcome after spares shows called
  induction callback using Callback.inductionOn with
  | direct name =>
      rw [Library.callWith, ← result?_report] at called
      have begun := spares.next (.direct name scene)
      exact keeps.working _ shows Ending.keepsContent_report begun outcome after called
  | closure id block =>
      rw [Library.callWith, ← result?_opening] at called
      exact keeps.opening shows block (spares.next (.closure id block scene)) outcome after called
  | router id shape declared candidates ih =>
      cases found : candidates.find? (library.takes scene.frame) with
      | none =>
          obtain ⟨mismatch, failed, _⟩ := select_of_find?_eq_none found
          rw [callWith_router_of_mismatch failed] at called
          cases called
          exact shows
      | some candidate =>
          obtain ⟨place, chosen, atPlace⟩ := select_of_find?_eq_some found
          rw [callWith_router_of_select chosen atPlace] at called
          exact ih candidate (List.mem_of_find?_eq_some found)
            (spares.next (.router chosen atPlace id shape declared)) called

theorem keepsContent_nested (library : Library H) (home : Home) (field : Field H)
    (content : field.type.Val H) (depth : Nat) :
    library.KeepsContent home field content (library.nested depth) := by
  induction depth with
  | zero =>
      intro callback scene outcome after _ _ called
      cases called
  | succ depth ih =>
      intro callback scene outcome after spares shows called
      rw [nested, call_eq_callWith_nested] at called
      exact ih.callWith callback scene outcome after spares shows called

/-- **A field keeps its content** over any call in which no moment spoils it, however deep calls
nest and whether or not they fail. -/
theorem shows_of_call {callback : Callback H.toVocabulary} {scene after : Scene H}
    {outcome : Except CallError Nat}
    (spares : library.SparesContent home field content (.calling callback scene))
    (shows : scene.Shows home field content)
    (called : library.call depth callback scene = some (outcome, after)) :
    after.Shows home field content := by
  rw [call_eq_callWith_nested] at called
  exact (library.keepsContent_nested home field content depth).callWith callback scene outcome
    after spares shows called

end Library

/-- So it does over a call in an interpreter.  If the arguments do not fit there, nothing happens
at all. -/
theorem Interpreter.shows_of_call {library : Library H} {depth : Nat}
    {interpreter after : Interpreter H} {callback : Callback H.toVocabulary}
    {arguments : List (Slot H)} {world reached : World H}
    {outcome : Except CallError (List (Slot H))}
    (spares : interpreter.Fits arguments → library.SparesContent home field content
      (.calling callback ⟨interpreter.entry arguments, world⟩))
    (shows : home.Shows field content interpreter.heap world)
    (called : interpreter.call library depth callback arguments world =
      some ((outcome, after), reached)) :
    home.Shows field content after.heap reached := by
  rcases callWith_cases (library.goesBySteps_call depth) called with
    ⟨crowded, _, _⟩ | ⟨fits, reported, frame, _, ran, _, _, rfl⟩
  · rw [call, callWith_of_not_fits crowded] at called
    cases called
    exact shows
  · have entered : Scene.Shows ⟨interpreter.entry arguments, world⟩ home field content := shows
    exact Library.shows_of_call (spares fits) entered ran

end HostCall
