import HostCall.Proofs.OwnedReceivers
import HostCall.Proofs.RecordNumbers

/-!
# Deferring

A deferred callable is captured now and synthesized later.  Whatever was deferred, and however
often, its synthesis builds what is built without deferring (`Installable.synthesize_deferrals`).

A method that is deferred with a receiver is bound when it is captured.  Between the capture and the
synthesis the host program may do anything (`Activity`): it registers callbacks and calls them,
writes its memory, binds other receivers, and reads, writes, borrows, hands on and lets go of cells.
All of this comes to what it would come to if the callback had been built at once, and when the
callback is synthesized, the world is the one that there would be (`Activity.runAll_counted`).

What a later call finds depends on what the receiver was captured from (`Library.FindsReceiver`).  A
value is as it was captured, since nothing else has its cell.  A reference reaches its cell with
what is in it at the call, and reaches nothing when the last owner has let the cell go.
-/

set_option autoImplicit false

namespace HostCall

variable {H : Host}

/-! ## Activities -/

/-- What the host program does to a cell that it has a handle of. -/
inductive Handling (H : Host)
  | read
  | write (content : Object H)
  | borrow (access : Access)
  | giveBack
  | clone
  | drop

/-- The cell when it has been handled, if somebody owns it and its uses allow it.  What is written
is of the type of what was there. -/
def Cell.handled? (entry : Cell H) (handling : Handling H) : Option (Cell H) :=
  if entry.owners = 0 then none
  else
    match handling with
    | .read => some entry
    | .write content =>
        if content.receiver = entry.content.receiver ∧
            (entry.borrow = .shared 0 ∨ entry.borrow = .exclusive) then
          some { entry with content }
        else none
    | .borrow access => (entry.borrow.acquire access).map fun borrow => { entry with borrow }
    | .giveBack =>
        if entry.borrow = .shared 0 then none
        else some { entry with borrow := entry.borrow.release }
    | .clone => some { entry with owners := entry.owners + 1 }
    | .drop => some { entry with owners := entry.owners - 1 }

/-- What a cell may become: it keeps its type, and nobody becomes an owner of a cell that nobody
owns. -/
structure Cell.Becomes (before after : Cell H) : Prop where
  type : after.content.receiver = before.content.receiver
  unowned : before.owners = 0 → after.owners = 0

theorem Cell.Becomes.refl (entry : Cell H) : entry.Becomes entry := ⟨rfl, id⟩

theorem Cell.Becomes.trans {first middle last : Cell H} (left : first.Becomes middle)
    (right : middle.Becomes last) : first.Becomes last where
  type := right.type.trans left.type
  unowned gone := right.unowned (left.unowned gone)

theorem Cell.becomes_of_handled {entry changed : Cell H} {handling : Handling H}
    (handled : entry.handled? handling = some changed) : entry.Becomes changed := by
  unfold handled? at handled
  split at handled
  · cases handled
  · rename_i owned
    refine ⟨?_, fun gone => absurd gone owned⟩
    cases handling with
    | read | clone | drop =>
        cases handled
        rfl
    | write content =>
        obtain ⟨⟨typed, _⟩, same⟩ := Option.ite_none_right_eq_some.mp handled
        cases same
        exact typed
    | borrow access =>
        obtain ⟨_, _, rfl⟩ := Option.map_eq_some_iff.mp handled
        rfl
    | giveBack =>
        obtain ⟨_, same⟩ := Option.ite_none_left_eq_some.mp handled
        cases same
        rfl

/-- What the host program does between the capture of a method and its synthesis, and after it. -/
inductive Activity (H : Host)
  /-- A callback is built, and put under a name if it has one. -/
  | register (interpreter : Interpreter H) (slot : String) (registration : Registration H)
  /-- A closure is built. -/
  | wrap (block : Block H.toVocabulary)
  /-- A receiver is bound. -/
  | bind (source : ReceiverSource H)
  /-- A callback is called in an interpreter. -/
  | call (interpreter : Interpreter H) (depth : Nat) (callback : Callback H.toVocabulary)
      (arguments : List (Slot H))
  /-- The memory is overwritten. -/
  | remember (memory : H.Memory)
  /-- An object is put in a new cell. -/
  | share (content : Object H)
  /-- A cell is handled. -/
  | handle (cell : CellId) (handling : Handling H)

/-- What the host program sees of an activity.  It does not see the numbers of records. -/
inductive Sight (H : Host)
  | done
  | refused (error : RegistrationError)
  | returned (outcome : Except CallError (List (Slot H))) (after : Interpreter H)
  | cell (entry : Cell H)

/-- What is seen of a registration. -/
def Sight.ofRegistration : Except RegistrationError Unit → Sight H
  | .ok _ => .done
  | .error error => .refused error

namespace Activity

/-- What is seen of an activity, and the world that it leaves, if it is possible and ends. -/
def run (library : Library H) : Activity H → World H → Option (Sight H × World H)
  | register interpreter slot registration, world =>
      let tried := interpreter.register library slot registration world
      some (.ofRegistration tried.1.1, tried.2)
  | wrap block, world => some (.done, (Callback.wrap block world).2)
  | bind source, world => some (.done, (source.bind world).2)
  | call interpreter depth callback arguments, world =>
      (interpreter.call library depth callback arguments world).map
        fun ended => (.returned ended.1.1 ended.1.2, ended.2)
  | remember memory, world => some (.done, { world with memory })
  | share content, world => some (.done, (world.newCell content).1)
  | handle cell handling, world =>
      (world.cells[cell]?.bind (·.handled? handling)).map
        fun entry => (.cell entry, world.modifyCell cell fun _ => entry)

/-- What is seen of activities one after another, and the world that they leave. -/
def runAll (library : Library H) :
    List (Activity H) → World H → Option (List (Sight H) × World H)
  | [], world => some ([], world)
  | activity :: later, world =>
      match activity.run library world with
      | none => none
      | some (sight, world) =>
          (runAll library later world).map fun ended => (sight :: ended.1, ended.2)

/-- The cell that is handled. -/
def handles? : Activity H → Option CellId
  | handle cell _ => some cell
  | _ => none

/-- The activity does not touch the cell: it does not handle it, and calls no member on it. -/
def Spares (library : Library H) (cell : CellId) (world : World H) : Activity H → Prop
  | call interpreter _ callback arguments => interpreter.Fits arguments →
      library.Avoids cell (.calling callback ⟨interpreter.entry arguments, world⟩)
  | handle other _ => other ≠ cell
  | _ => True

/-- Activities one after another do not touch the cell. -/
def AllSpare (library : Library H) (cell : CellId) : List (Activity H) → World H → Prop
  | [], _ => True
  | activity :: later, world => activity.Spares library cell world ∧
      ∀ sight after, activity.run library world = some (sight, after) →
        AllSpare library cell later after

variable {library : Library H}

theorem runAll_cons {activity : Activity H} {later : List (Activity H)} {sights : List (Sight H)}
    {world last : World H}
    (ran : runAll library (activity :: later) world = some (sights, last)) :
    ∃ sight rest middle, activity.run library world = some (sight, middle) ∧
      runAll library later middle = some (rest, last) ∧ sights = sight :: rest := by
  rw [runAll] at ran
  cases first : activity.run library world with
  | none =>
      rw [first] at ran
      cases ran
  | some ended =>
      obtain ⟨sight, middle⟩ := ended
      rw [first] at ran
      obtain ⟨⟨rest, _⟩, second, same⟩ := Option.map_eq_some_iff.mp ran
      cases same
      exact ⟨sight, rest, middle, rfl, second, rfl⟩

/-- Once the first activities have been, the others are still to come. -/
theorem runAll_of_append {first second : List (Activity H)} {sights early : List (Sight H)}
    {world middle last : World H}
    (ran : runAll library (first ++ second) world = some (sights, last))
    (ahead : runAll library first world = some (early, middle)) :
    ∃ rest, runAll library second middle = some (rest, last) := by
  induction first generalizing world sights early with
  | nil =>
      cases ahead
      exact ⟨sights, ran⟩
  | cons activity later ih =>
      obtain ⟨_, _, _, done, ran, _⟩ := runAll_cons ran
      obtain ⟨_, _, _, again, ahead, _⟩ := runAll_cons ahead
      cases done.symm.trans again
      exact ih ran ahead

/-! ## The number of records -/

/-- Whether a registration succeeds does not depend on the world. -/
theorem ofRegistration_register (interpreter : Interpreter H) (slot : String)
    (registration : Registration H) (first second : World H) :
    (Sight.ofRegistration (interpreter.register library slot registration first).1.1 : Sight H) =
      Sight.ofRegistration (interpreter.register library slot registration second).1.1 := by
  cases tried : (interpreter.register library slot registration first).1.1 with
  | error error =>
      have reason := Interpreter.outcome_register_error_iff.mp tried
      rw [Interpreter.outcome_register_error_iff.mpr reason]
  | ok done =>
      cases again : (interpreter.register library slot registration second).1.1 with
      | ok _ => rfl
      | error error =>
          have reason := Interpreter.outcome_register_error_iff.mp again
          cases tried.symm.trans (Interpreter.outcome_register_error_iff.mpr reason)

/-- An activity comes to the same when one record more was counted before it. -/
theorem run_counted (activity : Activity H) : Commutes World.counted (activity.run library) := by
  intro world
  cases activity with
  | register interpreter slot registration =>
      have left : (interpreter.register library slot registration world.counted).2 =
          (interpreter.register library slot registration world).2.counted := by
        rw [Interpreter.register_eq, Interpreter.register_eq]
        exact registration.build_counted slot world
      exact congrArg some (Prod.ext (ofRegistration_register _ _ _ _ _) left)
  | wrap block | remember memory | share content => rfl
  | bind source => simp only [run, source.bind_counted, Option.map_some]
  | call interpreter depth callback arguments =>
      simp only [run, interpreter.call_counted library depth callback arguments world,
        Option.map_map]
      rfl
  | handle cell handling =>
      simp only [run, Option.map_map]
      rfl

/-- **Activities come to the same** when one record more was counted before them, and one record
more is counted when they end. -/
theorem runAll_counted (activities : List (Activity H)) :
    Commutes World.counted (runAll library activities) := by
  induction activities with
  | nil => exact fun _ => rfl
  | cons activity later ih =>
      intro world
      rw [runAll, runAll, activity.run_counted world]
      cases activity.run library world with
      | none => rfl
      | some ended =>
          simp only [Option.map_some, ih ended.2, Option.map_map]
          rfl

/-! ## What becomes of a cell -/

section Cells

variable {activity : Activity H} {activities : List (Activity H)} {sight : Sight H}
  {sights : List (Sight H)} {cell : CellId} {entry : Cell H} {world after : World H}

/-- A call in an interpreter leaves a cell alone that it does not touch. -/
theorem cells_eq_of_call {interpreter later : Interpreter H} {depth : Nat}
    {callback : Callback H.toVocabulary} {arguments : List (Slot H)}
    {outcome : Except CallError (List (Slot H))}
    (called : interpreter.call library depth callback arguments world =
      some ((outcome, later), after))
    (spares : interpreter.Fits arguments →
      library.Avoids cell (.calling callback ⟨interpreter.entry arguments, world⟩)) :
    after.cells[cell]? = world.cells[cell]? := by
  by_cases fits : interpreter.Fits arguments
  · rcases Interpreter.cells_eq_of_call called cell with same | ⟨moment, follows, uses⟩
    · exact same
    · exact absurd uses (spares fits moment follows)
  · rw [Interpreter.call, Interpreter.callWith_of_not_fits fits] at called
    cases called
    rfl

/-- An activity that handles cells handles one that is there. -/
theorem handle_eq_some {handling : Handling H}
    (ran : (handle cell handling).run library world = some (sight, after)) :
    ∃ entry changed, world.cells[cell]? = some entry ∧ entry.handled? handling = some changed ∧
      after = world.modifyCell cell fun _ => changed := by
  obtain ⟨changed, handled, same⟩ := Option.map_eq_some_iff.mp ran
  obtain ⟨entry, there, allowed⟩ := Option.bind_eq_some_iff.mp handled
  cases same
  exact ⟨entry, changed, there, allowed, rfl⟩

/-- What spares the cell leaves it as it is. -/
theorem cells_eq_of_run (ran : activity.run library world = some (sight, after))
    (spares : activity.Spares library cell world) (there : world.cells[cell]? = some entry) :
    after.cells[cell]? = some entry := by
  cases activity with
  | register interpreter slot registration =>
      cases ran
      exact (Interpreter.builtFrom_of_register rfl).getElem?_cells there
  | wrap block | remember memory =>
      cases ran
      exact there
  | bind source =>
      cases ran
      exact (World.BuiltFrom.bind source world).getElem?_cells there
  | share content =>
      cases ran
      exact (World.BuiltFrom.newCell world content).getElem?_cells there
  | call interpreter depth callback arguments =>
      obtain ⟨ended, called, same⟩ := Option.map_eq_some_iff.mp ran
      cases same
      exact (cells_eq_of_call called spares).trans there
  | handle other handling =>
      obtain ⟨_, changed, _, _, rfl⟩ := handle_eq_some ran
      exact (World.getElem?_modifyCell_of_ne _ (Ne.symm spares) _).trans there

/-- What does not handle the cell keeps it as calls do. -/
theorem kept_of_run (ran : activity.run library world = some (sight, after))
    (untouched : activity.handles? ≠ some cell) (there : world.cells[cell]? = some entry) :
    ∃ later, after.cells[cell]? = some later ∧ entry.Kept later := by
  cases activity with
  | call interpreter depth callback arguments =>
      obtain ⟨ended, called, same⟩ := Option.map_eq_some_iff.mp ran
      cases same
      exact World.worldLaw_keepsCells.interpreterCall called cell entry there
  | handle other handling =>
      have elsewhere : other ≠ cell := fun same => untouched (congrArg some same)
      exact ⟨entry, cells_eq_of_run ran elsewhere there, .refl entry⟩
  | _ => exact ⟨entry, cells_eq_of_run ran trivial there, .refl entry⟩

/-- Whatever is done, the cell keeps its type, and nobody becomes an owner who has no handle. -/
theorem becomes_of_run (ran : activity.run library world = some (sight, after))
    (there : world.cells[cell]? = some entry) :
    ∃ later, after.cells[cell]? = some later ∧ entry.Becomes later := by
  by_cases handled : activity.handles? = some cell
  · cases activity with
    | handle other handling =>
        cases handled
        obtain ⟨found, changed, foundThere, allowed, rfl⟩ := handle_eq_some ran
        cases there.symm.trans foundThere
        refine ⟨changed, ?_, Cell.becomes_of_handled allowed⟩
        rw [World.getElem?_modifyCell, there, Option.map_some]
    | _ => cases handled
  · obtain ⟨later, thereLater, kept⟩ := kept_of_run ran handled there
    exact ⟨later, thereLater, kept.type, fun unowned => kept.owners.trans unowned⟩

/-! ### After all activities -/

theorem cells_eq_of_runAll (ran : runAll library activities world = some (sights, after))
    (spare : AllSpare library cell activities world) (there : world.cells[cell]? = some entry) :
    after.cells[cell]? = some entry := by
  induction activities generalizing world sights with
  | nil =>
      cases ran
      exact there
  | cons activity later ih =>
      obtain ⟨sight, rest, middle, first, ran, _⟩ := runAll_cons ran
      exact ih ran (spare.2 sight middle first) (cells_eq_of_run first spare.1 there)

/-- What each activity does to the cell, all of them do. -/
theorem related_of_runAll {Related : Cell H → Cell H → Prop} (refl : ∀ entry, Related entry entry)
    (trans : ∀ {first middle last}, Related first middle → Related middle last →
      Related first last)
    (each : ∀ activity ∈ activities, ∀ sight before after entry,
      activity.run library before = some (sight, after) → before.cells[cell]? = some entry →
        ∃ later, after.cells[cell]? = some later ∧ Related entry later)
    (ran : runAll library activities world = some (sights, after))
    (there : world.cells[cell]? = some entry) :
    ∃ later, after.cells[cell]? = some later ∧ Related entry later := by
  induction activities generalizing world sights entry with
  | nil =>
      cases ran
      exact ⟨entry, there, refl entry⟩
  | cons activity later ih =>
      obtain ⟨sight, rest, middle, first, ran, _⟩ := runAll_cons ran
      obtain ⟨between, thereBetween, related⟩ :=
        each activity List.mem_cons_self _ _ _ _ first there
      obtain ⟨last, thereLast, relatedLast⟩ :=
        ih (fun other member => each other (List.mem_cons_of_mem _ member)) ran thereBetween
      exact ⟨last, thereLast, trans related relatedLast⟩

theorem kept_of_runAll (ran : runAll library activities world = some (sights, after))
    (untouched : ∀ activity ∈ activities, activity.handles? ≠ some cell)
    (there : world.cells[cell]? = some entry) :
    ∃ later, after.cells[cell]? = some later ∧ entry.Kept later :=
  related_of_runAll Cell.Kept.refl .trans
    (fun activity member _ _ _ _ first => kept_of_run first (untouched activity member)) ran there

theorem becomes_of_runAll (ran : runAll library activities world = some (sights, after))
    (there : world.cells[cell]? = some entry) :
    ∃ later, after.cells[cell]? = some later ∧ entry.Becomes later :=
  related_of_runAll Cell.Becomes.refl .trans
    (fun _ _ _ _ _ _ first => becomes_of_run first) ran there

end Cells

end Activity

/-! ## Captured receivers -/

/-- A call of the method through the callback reaches no receiver: when its arguments have passed,
it fails, and nothing changes. -/
def Library.Dangles (library : Library H) (callback : Callback H.toVocabulary)
    (method : Method H) (world : World H) : Prop :=
  ∀ (frame : Frame H) parameters,
    frame.prepare (.ofParameters method.parameters) method.parameters = .ok parameters →
      ∀ depth, library.call depth callback ⟨frame, world⟩ =
        some (.error (.danglingReceiver (H.receiverName method.receiver)), ⟨frame, world⟩)

/-- What calls of a callback find that was built from a captured method.  The receiver was captured
in the first world, some activities led on from there, and then the callback was built. -/
structure Library.FindsReceiver (library : Library H) (callback : Callback H.toVocabulary)
    (method : Method H) (receiver : FixedReceiver) (first : World H)
    (between : List (Activity H)) (built : World H) : Prop where
  /-- A receiver of its own is as it was captured, if nothing has touched it since. -/
  asCaptured : ∀ cell entry, receiver = .owned cell → first.cells[cell]? = some entry →
    Activity.AllSpare library cell between first → built.cells[cell]? = some entry
  /-- Whatever happens after that, the method runs on what is in the cell, and the cell then holds
  what the method has left. -/
  own : ∀ cell entry, receiver = .owned cell → first.HasCell cell method.receiver entry →
    entry.borrow = .shared 0 →
      ∀ afterwards sights later, Activity.runAll library afterwards built = some (sights, later) →
        (∀ activity ∈ between ++ afterwards, activity.handles? ≠ some cell) →
          ∀ frame, library.UsesOwnCell callback cell ⟨frame, later⟩
  /-- A shared cell is as it is when it is called, and decides what the call comes to. -/
  current : ∀ cell entry, receiver = .referenced (some cell) →
    first.HasCell cell method.receiver entry →
      ∀ afterwards sights later, Activity.runAll library afterwards built = some (sights, later) →
        ∃ current, later.HasCell cell method.receiver current ∧
          ∀ (frame : Frame H) parameters,
            frame.prepare (.ofParameters method.parameters) method.parameters = .ok parameters →
              ∀ depth,
                library.UsesCell depth callback ⟨frame, later⟩ method parameters cell current
  /-- A cell is gone when its last owner has let it go in between. -/
  dropped : ∀ cell early late sights middle entry, receiver = .referenced (some cell) →
    between = early ++ late → Activity.runAll library early first = some (sights, middle) →
      middle.cells[cell]? = some entry → entry.owners = 0 →
        ∀ afterwards sights later, Activity.runAll library afterwards built = some (sights, later) →
          library.Dangles callback method later
  /-- A reference that never had a target reaches nothing. -/
  untargeted : receiver = .referenced none → ∀ world, library.Dangles callback method world

section Receivers

variable {library : Library H} {name : H.Method} {receiver : FixedReceiver} {id : ClosureId}

theorem Library.member?_boundMethod (frame : Frame H) :
    library.member? frame (.closure id (.boundMethod name receiver)) =
      some (receiver, library.method name) := by
  rw [member?]
  rfl

/-- A receiver that reaches no cell cannot be borrowed. -/
theorem Library.dangles_of_target? {world : World H} (lost : world.target? receiver = none) :
    library.Dangles (.closure id (.boundMethod name receiver)) (library.method name) world := by
  intro frame parameters prepared depth
  have refused : world.acquire receiver (library.method name).receiver
      (library.method name).access =
        .error (.danglingReceiver (H.receiverName (library.method name).receiver)) := by
    rw [World.acquire, lost]
  have stands : library.StandsFor ⟨frame, world⟩ (.closure id (.boundMethod name receiver))
      (library.method name) receiver := standsFor_of_member (member?_boundMethod frame)
  rw [call_eq_callWith_nested]
  exact (stands.failing _ (by rw [prepared, refused]; rfl)).callWith_eq _

theorem World.target?_of_unowned {world : World H} {cell : CellId} {entry : Cell H}
    (there : world.cells[cell]? = some entry) (gone : entry.owners = 0) :
    world.target? (.referenced (some cell)) = none := by
  rw [target?, there]
  exact if_pos gone

/-- **What becomes of a captured receiver** until it is used. -/
theorem Library.findsReceiver {first reached : World H} {between : List (Activity H)}
    {sights : List (Sight H)}
    (ran : Activity.runAll library between first = some (sights, reached)) :
    library.FindsReceiver (.closure id (.boundMethod name receiver)) (library.method name)
      receiver first between reached.counted where
  asCaptured := by
    intro cell entry _ there spare
    change reached.cells[cell]? = some entry
    exact Activity.cells_eq_of_runAll ran spare there
  own := by
    rintro cell entry rfl held unused afterwards sights later after untouched frame
    obtain ⟨middle, thereMiddle, kept⟩ := Activity.kept_of_runAll ran
      (fun activity member => untouched activity (List.mem_append_left _ member)) held.there
    obtain ⟨last, thereLast, keptLast⟩ := Activity.kept_of_runAll after
      (fun activity member => untouched activity (List.mem_append_right _ member)) thereMiddle
    have keeps := kept.trans keptLast
    exact Library.usesOwnCell (.closure id (.method rfl))
      ⟨rfl, thereLast, keeps.borrow.trans unused⟩ ⟨thereLast, keeps.type.trans held.typed⟩
  current := by
    rintro cell entry rfl held afterwards sights later after
    obtain ⟨middle, thereMiddle, becomes⟩ := Activity.becomes_of_runAll ran held.there
    obtain ⟨last, thereLast, becomesLast⟩ := Activity.becomes_of_runAll after thereMiddle
    have typed := (becomes.trans becomesLast).type.trans held.typed
    refine ⟨last, ⟨thereLast, typed⟩, ?_⟩
    intro frame parameters prepared depth
    exact usesCell_of_prepare ⟨frame, later⟩ thereLast typed (member?_boundMethod frame)
      prepared depth
  dropped := by
    rintro cell early late sights middle entry rfl rfl ahead there gone afterwards seen later after
    obtain ⟨_, rest⟩ := Activity.runAll_of_append ran ahead
    obtain ⟨lost, thereLost, becomes⟩ := Activity.becomes_of_runAll rest there
    obtain ⟨last, thereLast, becomesLast⟩ := Activity.becomes_of_runAll after thereLost
    exact dangles_of_target?
      (World.target?_of_unowned thereLast ((becomes.trans becomesLast).unowned gone))
  untargeted := by
    rintro rfl world
    exact dangles_of_target? rfl

end Receivers

/-! ## Deferring -/

/-- An item that is deferred under a description, and then under another one, and so on. -/
def Installable.deferrals (item : Installable H) : List String → Installable H
  | [] => item
  | description :: descriptions => .deferred description (item.deferrals descriptions)

theorem Installable.synthesize_deferrals (library : Library H) (item : Installable H)
    (descriptions : List String) :
    (item.deferrals descriptions).synthesize library = item.synthesize library := by
  induction descriptions with
  | nil => rfl
  | cons description descriptions ih => exact ih

/-- **Deferring is transparent.**  What is deferred, however often, is built as it is without that:
the same but for its number, or not for the same reason.  A method that is deferred with a receiver
is, when it is built after any activities, the method that would have been bound at once: these come
to the same and lead to the same world, the two callbacks are alike, and calls find the receiver
as the way in which it was captured says. -/
theorem deferral_transparent (library : Library H) :
    (∀ (item : Installable H) (description : String) (descriptions : List String),
      let deferred : Deferred H := ⟨description, item.deferrals descriptions⟩
      deferred.synthesize library = item.synthesize library ∧
        ∀ now later, library.BuiltAlike (deferred.synthesize library later).1
          (item.synthesize library now).1) ∧
    ∀ (description : String) (name : H.Method) (source : ReceiverSource H) (start : World H),
      let captured := Deferred.bound description name source start
      let original := Callback.methodBound name source start
      (∀ content, source = .value content → ∃ cell, (source.bind start).1 = .owned cell ∧
        captured.2.cells[cell]? = some { content }) ∧
      ∀ between sights reached,
        Activity.runAll library between captured.2 = some (sights, reached) →
          ∃ callback twin, captured.1.synthesize library reached = (.ok callback, twin) ∧
            Activity.runAll library between original.2 = some (sights, twin) ∧
            library.Alike callback original.1 ∧
            library.FindsReceiver callback (library.method name) (source.bind start).1 captured.2
              between twin := by
  constructor
  · intro item description descriptions
    have same := item.synthesize_deferrals library (description :: descriptions)
    refine ⟨same, ?_⟩
    intro now later
    change library.BuiltAlike
      ((item.deferrals (description :: descriptions)).synthesize library later).1 _
    rw [same]
    exact item.builtAlike later now
  · intro description name source start
    constructor
    · rintro content rfl
      exact ⟨_, rfl, start.getElem?_newCell content⟩
    · intro between sights reached ran
      refine ⟨_, reached.counted, rfl, ?_, Library.alike_closure _ _ _,
        Library.findsReceiver ran⟩
      have twin : Activity.runAll library between (source.bind start).2.counted = _ :=
        Activity.runAll_counted between (source.bind start).2
      rw [show Activity.runAll library between (source.bind start).2 = _ from ran] at twin
      exact twin

namespace Sample

/-- While a method on it is deferred, a shared counter is set to ten, a callback on it is built and
one is added through it, and another counter is bound. -/
def meanwhile : List (Activity host) :=
  [.handle 0 (.write ⟨.counter, ⟨10⟩⟩),
    .register {} "add" (.methodBound MethodName.counterAdd (.handle 0)),
    .call {} 0 addsToCell [.int 1], .bind (.value ⟨.counter, ⟨1⟩⟩)]

/-- The method is synthesized after that, and three is added to what is in the counter then. -/
theorem deferral_transparent_counter :
    ∃ sights reached callback twin,
      Activity.runAll (Session.library #[]) meanwhile
          (Deferred.bound "add" MethodName.counterAdd (.handle 0) counterCell).2 =
        some (sights, reached) ∧
      (Deferred.bound "add" MethodName.counterAdd (.handle 0) counterCell).1.synthesize
          (Session.library #[]) reached = (.ok callback, twin) ∧
      (Session.library #[]).Alike callback
        (Callback.methodBound MethodName.counterAdd (.handle 0) counterCell).1 ∧
      (Interpreter.call {} (Session.library #[]) 0 callback [.int 3] twin).map (·.1.1) =
        some (.ok [.int 14]) := by
  obtain ⟨callback, twin, built, _, alike, _⟩ :=
    ((deferral_transparent (Session.library #[])).2 "add" .counterAdd (.handle 0) counterCell).2
      meanwhile _ _ rfl
  refine ⟨_, _, callback, twin, rfl, built, alike, ?_⟩
  cases built
  rfl

end Sample

end HostCall
