import HostCall.Proofs.Moments

/-!
# Cells that a call leaves alone

A cell is borrowed and given back by the members whose receivers reach it, and by nobody else.
So the cell is the same after a call as before unless such a member was called at some moment of
the call: by the host program itself, through a router, or by a body on the way, in the same
interpreter or in another (`Library.cells_eq_of_call`).

The proof follows the moments of a call.  A cell that nothing uses from a moment on
(`Library.Avoids`) is used by nothing from the next moment on, so each operation of a program,
and each body, leaves it alone if what comes before does.
-/

set_option autoImplicit false

namespace HostCall

open Relation (ReflTransGen)

variable {H : Host}

/-! ## Moments at which a cell is used -/

/-- The bound receiver that a block remembers. -/
def Block.receiver? {V : Vocabulary} : Block V → Option FixedReceiver
  | boundMethod _ receiver | boundField _ receiver => some receiver
  | function _ | method _ | field _ | construct _ | custom _ _ => none

/-- At this moment a member is called whose receiver reaches the cell. -/
inductive Moment.Uses (cell : CellId) : Moment H → Prop
  | member (id : ClosureId) {block : Block H.toVocabulary} {receiver : FixedReceiver}
      {scene : Scene H} (bound : block.receiver? = some receiver)
      (reaches : scene.world.target? receiver = some cell) :
      Uses cell (.calling (.closure id block) scene)

namespace Library

variable {library : Library H} {cell : CellId}

/-- From this moment on nothing uses the cell. -/
def Avoids (library : Library H) (cell : CellId) (moment : Moment H) : Prop :=
  ∀ later, ReflTransGen library.Follows moment later → ¬ later.Uses cell

theorem Avoids.after {first next : Moment H} (avoids : library.Avoids cell first)
    (follows : library.Follows first next) : library.Avoids cell next := by
  intro later reached
  exact avoids later (.head follows reached)

theorem Avoids.next {first next : Moment H} (avoids : library.Avoids cell first)
    (proceeds : library.Proceeds first next) : library.Avoids cell next :=
  avoids.after (.inl proceeds)

/-- A call leaves the cell alone if nothing uses it from the call on. -/
def Spares (library : Library H) (cell : CellId) (invoke : Invoker H) : Prop :=
  ∀ callback scene outcome after, library.Avoids cell (.calling callback scene) →
    invoke callback scene = some (outcome, after) →
      after.world.cells[cell]? = scene.world.cells[cell]?

/-! ## Operations and programs -/

section Programs

variable {depth : Nat}

/-- A call in an interpreter starts on the frame of its arguments, if these fit. -/
theorem Spares.interpreterCall (spares : library.Spares cell (library.nested depth))
    {interpreter : Interpreter H} {callback : Callback H.toVocabulary}
    {arguments : List (Slot H)} {scene : Scene H} {after : World H}
    {results : Except CallError (List (Slot H)) × Interpreter H}
    {next : Except CallError (List (Slot H)) × Interpreter H → FrameProgram H (Ending H)}
    (avoids : library.Avoids cell
      (.working (.step (.host (.call interpreter callback arguments)) next) scene))
    (called : interpreter.callWith (library.nested depth) callback arguments scene.world =
      some (results, after)) :
    after.cells[cell]? = scene.world.cells[cell]? := by
  obtain ⟨outcome, last⟩ := results
  rcases Interpreter.callWith_cases (goesBySteps_nested library depth) called with
    ⟨crowded, _, _⟩ | ⟨fits, reported, frame, _, ran, _, _, _⟩
  · rw [Interpreter.callWith_of_not_fits crowded] at called
    cases called
    rfl
  · exact spares callback _ reported _ (avoids.after (.inr (.call fits callback next scene))) ran

/-- An operation of a program. -/
theorem Spares.operation (spares : library.Spares cell (library.nested depth))
    {operation : FrameOperation H} {scene after : Scene H} {answer : operation.Answer}
    {next : operation.Answer → FrameProgram H (Ending H)}
    (avoids : library.Avoids cell (.working (.step operation next) scene))
    (ran : operation.run library (library.nested depth) scene = some (answer, after)) :
    after.world.cells[cell]? = scene.world.cells[cell]? := by
  cases operation with
  | host operation =>
      obtain ⟨⟨_, world⟩, ended, same⟩ := Option.map_eq_some_iff.mp ran
      cases same
      cases operation with
      | call interpreter callback arguments => exact spares.interpreterCall avoids ended
      | readMemory | writeMemory memory | inspect callback =>
          cases ended
          rfl
  | invoke callback => exact spares callback scene answer after (avoids.next (.invoke ..)) ran
  | push slot =>
      revert ran
      rw [FrameOperation.run]
      cases scene.frame.push slot <;> rintro ⟨⟩ <;> rfl
  | setReceiver object =>
      revert ran
      rw [FrameOperation.run]
      cases scene.frame.setReceiver object.receiver object.value <;> rintro ⟨⟩ <;> rfl
  | setObject handle object =>
      revert ran
      rw [FrameOperation.run]
      cases scene.frame.heap.set handle object.receiver object.value <;> rintro ⟨⟩ <;> rfl
  | _ =>
      cases ran
      rfl

/-- A program, whatever its call ends with. -/
theorem Spares.program (spares : library.Spares cell (library.nested depth)) {α : Type}
    {program : FrameProgram H α} {ending : α → Ending H} {scene after : Scene H} {value : α}
    (avoids : library.Avoids cell (.working (program.map ending) scene))
    (ran : program.run (FrameOperation.run library (library.nested depth)) scene =
      some (value, after)) :
    after.world.cells[cell]? = scene.world.cells[cell]? := by
  induction program generalizing scene with
  | done value =>
      cases ran
      rfl
  | step operation next ih =>
      rw [Program.run] at ran
      cases answered : operation.run library (library.nested depth) scene with
      | none =>
          rw [answered] at ran
          cases ran
      | some result =>
          obtain ⟨answer, middle⟩ := result
          rw [answered] at ran
          exact (ih answer (avoids.next (.answered answered _)) ran).trans
            (spares.operation avoids answered)

end Programs

end Library

/-! ## Bodies -/

/-- However the program ends, what comes then leaves the cell alone. -/
def Ending.Spares (cell : CellId) (ending : Ending H) : Prop :=
  ∀ scene, (ending.close scene).scene.world.cells[cell]? = scene.world.cells[cell]?

/-- A body begins and leaves the cell alone: before its program runs, and when it ends. -/
inductive Moment.BeginsApart (cell : CellId) (scene : Scene H) : Moment H → Prop
  | refused (error : CallError) : BeginsApart cell scene (.refused error scene)
  | working {α : Type} (program : FrameProgram H α) {ending : α → Ending H}
      (spares : ∀ value, (ending value).Spares cell) {world : World H}
      (same : world.cells[cell]? = scene.world.cells[cell]?) :
      BeginsApart cell scene (.working (program.map ending) { scene with world })

section Bodies

variable {cell : CellId}

theorem FreeFunction.beginsApart (function : FreeFunction H) (scene : Scene H) :
    (function.opening scene).BeginsApart cell scene := by
  rw [opening]
  split
  · exact .refused _
  · refine .working _ ?_ rfl
    intro content middle
    simp only [Ending.ofFunction, Scene.scene_delivering]

theorem Constructor.beginsApart (constructor : Constructor H) (scene : Scene H) :
    (constructor.opening scene).BeginsApart cell scene := by
  rw [opening]
  split
  · exact .refused _
  · refine .working _ ?_ rfl
    intro value middle
    simp only [Ending.ofConstructor, Scene.scene_delivering]

theorem Method.beginsApart (method : Method H) (scene : Scene H) :
    (method.opening scene).BeginsApart cell scene := by
  rw [opening]
  split
  · exact .refused _
  · refine .working _ ?_ rfl
    intro ended middle
    simp only [Ending.ofMethod, Scene.scene_delivering]

/-- A member on a bound receiver borrows its own cell and gives that back, and no other. -/
theorem Method.beginsApart_bound (method : Method H) {receiver : FixedReceiver}
    {scene : Scene H} (apart : scene.world.target? receiver ≠ some cell) :
    (method.openingBound receiver scene).BeginsApart cell scene := by
  rw [openingBound]
  split
  · exact .refused _
  · split
    · exact .refused _
    · rename_i loan lent acquired
      obtain ⟨_, _, target, _, _, _, rfl⟩ := World.acquire_eq_ok acquired
      have different : cell ≠ loan.cell := by
        rintro rfl
        exact apart target
      refine .working _ ?_ (World.getElem?_modifyCell_of_ne _ different _)
      intro ended middle
      simp only [Ending.ofLoan, Scene.scene_delivering]
      exact World.cell_giveBack_of_ne different _ _

/-- A body whose bound receiver, if it has one, does not reach the cell. -/
theorem Library.beginsApart_opening (library : Library H) {scene : Scene H}
    {block : Block H.toVocabulary}
    (apart : ∀ receiver, block.receiver? = some receiver →
      scene.world.target? receiver ≠ some cell) :
    (library.opening scene block).BeginsApart cell scene := by
  cases block with
  | function name => exact (library.function name).beginsApart scene
  | method name => exact (library.method name).beginsApart scene
  | boundMethod name receiver =>
      exact (library.method name).beginsApart_bound (apart receiver rfl)
  | field name =>
      rw [opening]
      split
      · exact (library.field name).reader.beginsApart scene
      · exact (library.field name).writer.beginsApart scene
      · exact .refused _
  | boundField name receiver =>
      rw [opening]
      split
      · exact (library.field name).reader.beginsApart_bound (apart receiver rfl)
      · exact (library.field name).writer.beginsApart_bound (apart receiver rfl)
      · exact .refused _
  | construct name => exact (library.constructor name).beginsApart scene
  | custom label name =>
      exact .working _ (fun _ _ => rfl) (rfl : scene.world.cells[cell]? = _)

end Bodies

/-! ## Calls -/

namespace Library

variable {library : Library H} {cell : CellId}

/-- The call of a closure. -/
theorem Spares.closure {depth : Nat} (spares : library.Spares cell (library.nested depth))
    {id : ClosureId} {block : Block H.toVocabulary} {scene after : Scene H}
    {outcome : Except CallError Nat}
    (avoids : library.Avoids cell (.calling (.closure id block) scene))
    (called : library.callBlock (library.nested depth) block scene = some (outcome, after)) :
    after.world.cells[cell]? = scene.world.cells[cell]? := by
  have begins : (library.opening scene block).BeginsApart cell scene :=
    library.beginsApart_opening fun receiver bound reaches =>
      avoids _ .refl (.member id bound reaches)
  have later := avoids.next (.closure id block scene)
  rw [← result?_opening] at called
  generalize library.opening scene block = moment at begins later called
  cases begins with
  | refused error =>
      cases called
      rfl
  | @working _ program ending ends world same =>
      rw [Moment.result?, Program.run_map] at called
      simp only [Option.map_map] at called
      obtain ⟨⟨value, middle⟩, ran, closed⟩ := Option.map_eq_some_iff.mp called
      cases closed
      calc ((ending value).close middle).scene.world.cells[cell]?
          = middle.world.cells[cell]? := ends value middle
        _ = world.cells[cell]? := spares.program later ran
        _ = scene.world.cells[cell]? := same

/-- The call of a callback, down its tree of routers. -/
theorem Spares.callWith {depth : Nat} (spares : library.Spares cell (library.nested depth)) :
    library.Spares cell (library.callWith (library.nested depth)) := by
  intro callback
  induction callback using Callback.inductionOn with
  | direct name =>
      intro scene outcome after avoids called
      rw [Library.callWith] at called
      exact spares.program (avoids.next (.direct name scene)) called
  | closure id block =>
      intro scene outcome after avoids called
      rw [Library.callWith] at called
      exact spares.closure avoids called
  | router id shape declared candidates ih =>
      intro scene outcome after avoids called
      cases found : candidates.find? (library.takes scene.frame) with
      | none =>
          obtain ⟨mismatch, failed, _⟩ := select_of_find?_eq_none found
          rw [callWith_router_of_mismatch failed] at called
          cases called
          rfl
      | some candidate =>
          obtain ⟨place, chosen, atPlace⟩ := select_of_find?_eq_some found
          rw [callWith_router_of_select chosen atPlace] at called
          exact ih candidate (List.mem_of_find?_eq_some found) scene outcome after
            (avoids.next (.router chosen atPlace id shape declared)) called

/-- At any depth, calls leave a cell alone that nothing uses. -/
theorem spares_nested (library : Library H) (cell : CellId) (depth : Nat) :
    library.Spares cell (library.nested depth) := by
  induction depth with
  | zero =>
      intro callback scene outcome after _ called
      cases called
  | succ depth ih =>
      intro callback scene outcome after avoids called
      rw [nested, call_eq_callWith_nested] at called
      exact ih.callWith callback scene outcome after avoids called

/-- **A call changes no cell but those of the members it calls.**  If a cell is not the same after
a call, then at some moment of the call a member was called whose receiver reached it. -/
theorem cells_eq_of_call {depth : Nat} {callback : Callback H.toVocabulary}
    {scene after : Scene H} {outcome : Except CallError Nat}
    (called : library.call depth callback scene = some (outcome, after)) :
    after.world.cells[cell]? = scene.world.cells[cell]? ∨
      ∃ moment, ReflTransGen library.Follows (.calling callback scene) moment ∧
        moment.Uses cell := by
  by_cases used : ∃ moment, ReflTransGen library.Follows (.calling callback scene) moment ∧
      moment.Uses cell
  · exact .inr used
  · have avoids : library.Avoids cell (.calling callback scene) :=
      fun later follows uses => used ⟨later, follows, uses⟩
    exact .inl (library.spares_nested cell (depth + 1) callback scene outcome after avoids called)

end Library

/-- The same for a call in an interpreter. -/
theorem Interpreter.cells_eq_of_call {library : Library H} {depth : Nat}
    {interpreter after : Interpreter H} {callback : Callback H.toVocabulary}
    {arguments : List (Slot H)} {world reached : World H}
    {outcome : Except CallError (List (Slot H))}
    (called : interpreter.call library depth callback arguments world =
      some ((outcome, after), reached)) (cell : CellId) :
    reached.cells[cell]? = world.cells[cell]? ∨
      ∃ moment, ReflTransGen library.Follows
          (.calling callback ⟨interpreter.entry arguments, world⟩) moment ∧
        moment.Uses cell := by
  rcases callWith_cases (library.goesBySteps_call depth) called with
    ⟨crowded, _, _⟩ | ⟨_, _, _, _, ran, _, _, _⟩
  · rw [call, callWith_of_not_fits crowded] at called
    cases called
    exact .inl rfl
  · exact Library.cells_eq_of_call ran

end HostCall
