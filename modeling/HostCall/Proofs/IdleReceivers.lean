import HostCall.Proofs.DirectApplication

/-!
# Methods on idle receivers

A cell is idle when it can be reached and nobody is using it (`World.Idle`).  A method that is
bound to an idle cell does what it does when it is applied to the value in the cell directly,
and the cell then holds what the method has left (`Interpreter.call_boundMethod`).

While the method runs the cell is borrowed, and it still holds the value that the method
started from.  So the body of the method must not notice (`IgnoresUse`).  For a method that
changes its receiver that means not to look at the cell at all; a method that only reads its
receiver may read the cell on the way.  What calls nothing notices nothing
(`Program.MakesNoCalls.ignoresUse`), and neither does the call of a function that calls nothing
(`Interpreter.ignoresUse_call_function`).
-/

set_option autoImplicit false

namespace HostCall

variable {H : Host}

/-! ## Changes of one cell -/

namespace World

/-- Worlds that differ in their cells at most are equal if they agree on each cell. -/
theorem ext_cells {memory : H.Memory} {first second : Array (Cell H)} {closures : Nat}
    (same : ∀ index : Nat, first[index]? = second[index]?) :
    World.mk memory first closures = World.mk memory second closures :=
  congrArg (World.mk memory · closures) (Array.ext_getElem? same)

theorem getElem?_modifyCell (world : World H) (cell : CellId) (change : Cell H → Cell H) :
    (world.modifyCell cell change).cells[cell]? = world.cells[cell]?.map change := by
  rw [modifyCell, Array.getElem?_modify, if_pos rfl]

/-- Two changes of one cell are one. -/
theorem modifyCell_modifyCell (world : World H) (cell : CellId) (first second : Cell H → Cell H) :
    (world.modifyCell cell first).modifyCell cell second =
      world.modifyCell cell fun entry => second (first entry) := by
  refine ext_cells fun index => ?_
  rw [modifyCell, Array.getElem?_modify, Array.getElem?_modify, Array.getElem?_modify]
  by_cases same : cell = index
  · rw [if_pos same, if_pos same, if_pos same, Option.map_map]
    rfl
  · rw [if_neg same, if_neg same, if_neg same]

theorem modifyCell_id (world : World H) (cell : CellId) : world.modifyCell cell id = world := by
  refine ext_cells fun index => ?_
  rw [Array.getElem?_modify]
  split
  · exact Option.map_id_apply
  · rfl

/-- It matters only what a change does to the entry that is there. -/
theorem modifyCell_congr {world : World H} {cell : CellId} {entry : Cell H}
    (there : world.cells[cell]? = some entry) {first second : Cell H → Cell H}
    (same : first entry = second entry) :
    world.modifyCell cell first = world.modifyCell cell second := by
  refine ext_cells fun index => ?_
  rw [Array.getElem?_modify, Array.getElem?_modify]
  by_cases here : cell = index
  · subst here
    rw [if_pos rfl, if_pos rfl, there, Option.map_some, Option.map_some, same]
  · rw [if_neg here, if_neg here]

end World

/-! ## Idle cells -/

/-- The use of a cell by one call alone. -/
def Access.alone : Access → Borrow
  | shared => .shared 1
  | exclusive => .exclusive

/-- A bound receiver reaches a cell that nobody is using. -/
structure World.Idle (world : World H) (receiver : FixedReceiver) (cell : CellId)
    (entry : Cell H) : Prop where
  target : world.target? receiver = some cell
  there : world.cells[cell]? = some entry
  unused : entry.borrow = .shared 0

namespace World

variable {world : World H} {receiver : FixedReceiver} {cell : CellId} {entry : Cell H}
  {type : H.Receiver}

/-- Writing a cell changes nothing about who owns it. -/
theorem target?_setContent (world : World H) (cell : CellId) (content : Object H)
    (receiver : FixedReceiver) :
    (world.setContent cell content).target? receiver = world.target? receiver := by
  cases receiver with
  | owned _ => rfl
  | referenced reference =>
      cases reference with
      | none => rfl
      | some target =>
          rw [target?, target?, setContent, modifyCell, Array.getElem?_modify]
          by_cases here : cell = target
          · rw [if_pos here]
            cases world.cells[target]? <;> rfl
          · rw [if_neg here]

/-- What a receiver reaches depends on the cell that it reaches alone. -/
theorem Idle.of_kept (idle : world.Idle receiver cell entry) {after : World H}
    (kept : after.cells[cell]? = world.cells[cell]?) : after.Idle receiver cell entry where
  target := by
    have target := idle.target
    cases receiver with
    | owned _ => exact target
    | referenced reference =>
        cases reference with
        | none => cases target
        | some asked =>
            have same : asked = cell := by
              rw [target?] at target
              split at target
              · split at target
                · cases target
                · exact Option.some.inj target
              · cases target
            rw [same] at target ⊢
            rw [target?] at target ⊢
            rw [kept]
            exact target
  there := kept.trans idle.there
  unused := idle.unused

/-- Overwriting an idle cell leaves it idle. -/
theorem Idle.setContent (idle : world.Idle receiver cell entry) (content : Object H) :
    (world.setContent cell content).Idle receiver cell { entry with content } where
  target := (world.target?_setContent cell content receiver).trans idle.target
  there := by
    rw [World.setContent, getElem?_modifyCell, idle.there]
    rfl
  unused := idle.unused

/-- Overwriting a cell with what it holds changes nothing. -/
theorem Idle.setContent_self (idle : world.Idle receiver cell entry) :
    world.setContent cell entry.content = world := by
  have same : world.setContent cell entry.content = world.modifyCell cell id :=
    modifyCell_congr idle.there rfl
  exact same.trans (world.modifyCell_id cell)

/-- The value that a bound receiver reaches, if it is of the type asked for. -/
def held? (world : World H) (receiver : FixedReceiver) (type : H.Receiver) :
    Option (H.Value type) :=
  ((world.target? receiver).bind world.content?).bind (·.as? type)

/-- What was written to a cell is what the receiver reaches. -/
theorem Idle.held?_setContent (idle : world.Idle receiver cell entry) (value : H.Value type) :
    (world.setContent cell ⟨type, value⟩).held? receiver type = some value := by
  have written := idle.setContent ⟨type, value⟩
  rw [held?, written.target, Option.bind_some, content?, written.there]
  exact Object.as?_self type value

/-- An idle cell is borrowed with what it holds. -/
theorem Idle.acquire (idle : world.Idle receiver cell entry) (value : H.Value type)
    (access : Access) :
    (world.setContent cell ⟨type, value⟩).acquire receiver type access =
      .ok (⟨cell, value⟩, world.modifyCell cell fun entry =>
        { entry with content := ⟨type, value⟩, borrow := access.alone }) := by
  have written := idle.setContent ⟨type, value⟩
  have granted : entry.borrow.acquire access = some access.alone := by
    rw [idle.unused]
    cases access <;> rfl
  have locked : (world.setContent cell ⟨type, value⟩).lock? cell access =
      some (world.modifyCell cell fun entry =>
        { entry with content := ⟨type, value⟩, borrow := access.alone }) := by
    rw [lock?, written.there]
    simp only [Option.bind_eq_bind, Option.bind_some, granted, World.setContent,
      modifyCell_modifyCell]
    rfl
  rw [World.acquire, written.target]
  simp only [content?, written.there, Option.map_some, Option.bind_some, Object.as?_self, locked]

end World

/-! ## Uses that go unnoticed -/

/-- What may happen to a cell while it is used: readers are counted, a writer may change all
of it. -/
def Access.Allows : Access → (Cell H → Cell H) → Prop
  | shared, change => ∃ readers, ∀ entry, change entry = { entry with borrow := .shared readers }
  | exclusive, _ => True

/-- What runs in a world does not notice that a cell is used, and does not change the cell. -/
structure IgnoresUse {α : Type} (run : World H → Option (α × World H)) (cell : CellId)
    (access : Access) (world : World H) : Prop where
  /-- Whatever the use does to the cell, it does the same. -/
  blind : ∀ change, access.Allows change → run (world.modifyCell cell change) =
    (run world).map fun (answer, after) => (answer, after.modifyCell cell change)
  /-- The cell stays as it was. -/
  kept : ∀ answer after, run world = some (answer, after) → after.cells[cell]? = world.cells[cell]?

namespace IgnoresUse

variable {α : Type} {cell : CellId} {access : Access} {world : World H}

/-- What does not notice a use does not notice that a method borrows the cell.  A method that
reads finds in it what was there. -/
theorem lend {run : World H → Option (α × World H)} (ignores : IgnoresUse run cell access world)
    {entry : Cell H} (there : world.cells[cell]? = some entry) {object : Object H}
    (holds : access = .shared → entry.content = object) :
    run (world.modifyCell cell fun entry =>
        { entry with content := object, borrow := access.alone }) =
      (run world).map fun (answer, after) => (answer, after.modifyCell cell fun entry =>
        { entry with content := object, borrow := access.alone }) := by
  cases access with
  | exclusive => exact ignores.blind _ trivial
  | shared =>
      have counted {world : World H} (there : world.cells[cell]? = some entry) :
          (world.modifyCell cell fun entry =>
              { entry with content := object, borrow := Access.shared.alone }) =
            world.modifyCell cell fun entry => { entry with borrow := .shared 1 } :=
        World.modifyCell_congr there (by rw [← holds rfl]; rfl)
      rw [counted there, ignores.blind _ ⟨1, fun _ => rfl⟩]
      refine Option.map_congr fun ended ran => ?_
      obtain ⟨answer, after⟩ := ended
      exact congrArg (answer, ·) (counted ((ignores.kept _ _ ran).trans there)).symm

/-- What reads and writes the memory alone does not notice the use of a cell. -/
theorem ofMemory (answer : H.Memory → α) (next : H.Memory → H.Memory) (cell : CellId)
    (access : Access) (world : World H) :
    IgnoresUse (fun world => some (answer world.memory,
      { world with memory := next world.memory })) cell access world where
  blind _ _ := rfl
  kept _ _ ran := by
    cases ran
    rfl

theorem done (value : α) (handle : HostHandler H) (cell : CellId) (access : Access)
    (world : World H) : IgnoresUse ((Program.done value).run handle) cell access world :=
  .ofMemory (fun _ => value) id cell access world

/-- A program ignores a use if its first operation does and then the rest does. -/
theorem step {handle : HostHandler H} {operation : HostOperation H}
    {next : operation.Answer → HostProgram H α}
    (first : IgnoresUse (handle operation) cell access world)
    (rest : ∀ answer after, handle operation world = some (answer, after) →
      IgnoresUse ((next answer).run handle) cell access after) :
    IgnoresUse ((Program.step operation next).run handle) cell access world where
  blind change allowed := by
    rw [Program.run, Program.run, first.blind change allowed]
    cases asked : handle operation world with
    | none => rfl
    | some ended =>
        obtain ⟨answer, after⟩ := ended
        exact (rest answer after asked).blind change allowed
  kept final reached ran := by
    rw [Program.run] at ran
    cases asked : handle operation world with
    | none =>
        rw [asked] at ran
        cases ran
    | some ended =>
        obtain ⟨answer, after⟩ := ended
        rw [asked] at ran
        exact ((rest answer after asked).kept _ _ ran).trans (first.kept _ _ asked)

/-- What ignores the use of a cell still does when the answer is put in other words. -/
theorem map {β : Type} {run : World H → Option (α × World H)}
    (ignores : IgnoresUse run cell access world) (change : α → β) :
    IgnoresUse (fun world => (run world).map fun (answer, after) => (change answer, after))
      cell access world where
  blind edit allowed := by
    rw [ignores.blind edit allowed, Option.map_map, Option.map_map]
    rfl
  kept answer after ran := by
    obtain ⟨⟨_, reached⟩, ended, same⟩ := Option.map_eq_some_iff.mp ran
    cases same
    exact ignores.kept _ _ ended

end IgnoresUse

/-- The program calls no callback. -/
inductive Program.MakesNoCalls {α : Type} : HostProgram H α → Prop
  | done (value : α) : MakesNoCalls (.done value)
  | readMemory {next : H.Memory → HostProgram H α} (later : ∀ memory, MakesNoCalls (next memory)) :
      MakesNoCalls (.step .readMemory next)
  | writeMemory (memory : H.Memory) {next : Unit → HostProgram H α}
      (later : MakesNoCalls (next ())) : MakesNoCalls (.step (.writeMemory memory) next)
  | inspect (callback : Callback H.toVocabulary) {next : Profile → HostProgram H α}
      (later : ∀ profile, MakesNoCalls (next profile)) :
      MakesNoCalls (.step (.inspect callback) next)

/-- Only a call can reach a cell. -/
theorem Program.MakesNoCalls.ignoresUse {α : Type} {program : HostProgram H α}
    (noCalls : program.MakesNoCalls) (library : Library H) (invoke : Invoker H) (cell : CellId)
    (access : Access) (world : World H) :
    IgnoresUse (program.run (HostOperation.run library invoke)) cell access world := by
  -- an operation that is not a call reads and writes nothing but the memory
  induction noCalls generalizing world with
  | done value => exact .done value _ cell access world
  | readMemory later ih =>
      refine .step (.ofMemory id id cell access world) ?_
      exact fun memory after _ => ih memory after
  | writeMemory memory later ih =>
      refine .step (.ofMemory (fun _ => ()) (fun _ => memory) cell access world) ?_
      exact fun _ after _ => ih after
  | inspect callback later ih =>
      refine .step (.ofMemory (fun _ => library.profile callback) id cell access world) ?_
      exact fun profile after _ => ih profile after

/-- The body of the method calls no callback, whatever it is given. -/
def Method.MakesNoCalls (method : Method H) : Prop :=
  match method.body with
  | .shared run => ∀ value parameters, (run value parameters).MakesNoCalls
  | .exclusive run => ∀ value parameters, (run value parameters).MakesNoCalls

theorem Method.MakesNoCalls.ignoresUse {method : Method H} (noCalls : method.MakesNoCalls)
    (library : Library H) (invoke : Invoker H) (value : H.Value method.receiver)
    (parameters : Parameters H method.parameters) (cell : CellId) (access : Access)
    (world : World H) :
    IgnoresUse (method.runBody (HostOperation.run library invoke) value parameters) cell access
      world := by
  obtain ⟨receiver, types, result, body⟩ := method
  cases body with
  | shared run =>
      exact ((noCalls value parameters).ignoresUse library invoke cell access world).map (·, value)
  | exclusive run => exact (noCalls value parameters).ignoresUse library invoke cell access world

/-- Calling a function that makes no calls does not notice the use of a cell either. -/
theorem Interpreter.ignoresUse_call_function {library : Library H} {name : H.Function}
    (noCalls : ∀ parameters, ((library.function name).run parameters).MakesNoCalls)
    (interpreter : Interpreter H) (depth : Nat) (id : ClosureId) (arguments : List (Slot H))
    (cell : CellId) (access : Access) (world : World H) :
    IgnoresUse (interpreter.call library depth (.closure id (.function name)) arguments) cell
      access world := by
  have applied := funext (interpreter.call_function library depth id name arguments)
  rw [applied]
  refine IgnoresUse.map ?_ (·, interpreter)
  unfold FreeFunction.apply
  dsimp only
  by_cases crowded : interpreter.policy.stackLimit < interpreter.stack.size + arguments.length
  · simp only [if_pos crowded]
    exact .ofMemory (fun _ => _) (fun memory => memory) cell access world
  · simp only [if_neg crowded]
    cases Parameters.read interpreter.policy (library.function name).parameters arguments with
    | error error => exact .ofMemory (fun _ => _) (fun memory => memory) cell access world
    | ok parameters =>
        exact ((noCalls parameters).ignoresUse library _ cell access world).map _

/-! ## Methods on idle receivers -/

namespace Method

/-- The world when a borrowed receiver is given back: it is written if the method changes it. -/
def giveBack (method : Method H) (loan : World.Loan H method.receiver) (world : World H)
    (changed : H.Value method.receiver) : World H :=
  match method.access with
  | .shared => world.release loan
  | .exclusive => world.releaseWith loan changed

/-- A call of a bound method reads its parameters, borrows the receiver, runs the body, gives
the receiver back, and delivers the result. -/
theorem callBound_eq (method : Method H) (receiver : FixedReceiver) (handle : HostHandler H)
    (scene : Scene H) :
    method.callBound receiver handle scene =
      match scene.frame.prepare (.ofParameters method.parameters) method.parameters with
      | .error error => some (.error error, scene)
      | .ok parameters =>
          match scene.world.acquire receiver method.receiver method.access with
          | .error error => some (.error error, scene)
          | .ok (loan, borrowed) =>
              (method.runBody handle loan.value parameters borrowed).map
                fun ((content, changed), world) =>
                  scene.frame.deliver (method.giveBack loan world changed) method.result
                    content := by
  obtain ⟨type, types, result, body⟩ := method
  rw [callBound]
  cases scene.frame.prepare (.ofParameters types) types with
  | error error => rfl
  | ok parameters =>
      dsimp only
      cases body with
      | shared run =>
          simp only [access]
          cases scene.world.acquire receiver type .shared with
          | error error => rfl
          | ok loaned =>
              simp only [runBody, Option.map_map]
              rfl
      | exclusive run =>
          simp only [access]
          cases scene.world.acquire receiver type .exclusive <;> rfl

end Method

namespace World

variable {world : World H} {receiver : FixedReceiver} {cell : CellId} {entry : Cell H}
  {type : H.Receiver}

/-- After the use of an idle cell it holds what the method left, and nobody is using it. -/
theorem giveBack_eq {method : Method H} {after : World H}
    (there : after.cells[cell]? = some entry) (unused : entry.borrow = .shared 0)
    {value changed : H.Value method.receiver}
    (reads : method.access = .shared → changed = value) :
    method.giveBack ⟨cell, value⟩ (after.modifyCell cell fun entry =>
        { entry with content := ⟨method.receiver, value⟩, borrow := method.access.alone })
        changed =
      after.setContent cell ⟨method.receiver, changed⟩ := by
  rw [Method.giveBack]
  cases access : method.access with
  | shared =>
      rw [reads access]
      simp only [release, unlock, setContent, modifyCell_modifyCell]
      exact modifyCell_congr there (by rw [unused]; rfl)
  | exclusive =>
      simp only [releaseWith, unlock, setContent, modifyCell_modifyCell]
      exact modifyCell_congr there (by rw [unused]; rfl)

end World

/-- A call of a method on an idle receiver comes to the application of the method, and leaves
the receiver as it is left. -/
theorem Interpreter.call_boundMethod {library : Library H} {name : H.Method}
    {interpreter : Interpreter H} {arguments : List (Slot H)}
    {value : H.Value (library.method name).receiver} {world : World H}
    {receiver : FixedReceiver} {cell : CellId} {entry : Cell H}
    (idle : world.Idle receiver cell entry) {depth : Nat}
    (holds : (library.method name).access = .shared → entry.content = ⟨_, value⟩)
    (ignores : ∀ parameters,
      Parameters.read interpreter.policy (library.method name).parameters arguments =
          .ok parameters →
        IgnoresUse ((library.method name).runBody (library.handler depth) value parameters) cell
          (library.method name).access world)
    (id : ClosureId) :
    interpreter.call library depth (.closure id (.boundMethod name receiver)) arguments
        (world.setContent cell ⟨(library.method name).receiver, value⟩) =
      ((library.method name).apply (library.handler depth) interpreter.policy
          interpreter.stack.size arguments value world).map fun ((outcome, changed), after) =>
        ((outcome, interpreter),
          after.setContent cell ⟨(library.method name).receiver, changed⟩) := by
  have ran : library.callBlock (library.nested depth) (.boundMethod name receiver)
        ⟨interpreter.entry arguments,
          world.setContent cell ⟨(library.method name).receiver, value⟩⟩ =
      (library.method name).callBound receiver (library.handler depth)
        ⟨interpreter.entry arguments,
          world.setContent cell ⟨(library.method name).receiver, value⟩⟩ := rfl
  rw [Method.callBound_eq, prepare_entry, idle.acquire] at ran
  refine (call_of_prepared id (Parameters.read interpreter.policy
    (library.method name).parameters arguments)
    (fun parameters =>
      (library.method name).runBody (library.handler depth) value parameters world)
    (fun _ => interpreter.entry arguments)
    (fun ended => ended.2.setContent cell ⟨(library.method name).receiver, ended.1.2⟩)
    (fun ended => ended.1.1) (fun error read => ?_) (fun parameters read => ?_)
    (fun _ => .refl _)).trans ?_
  · rw [ran, read]
  · have ignored := ignores parameters read
    rw [ran, read]
    dsimp only
    rw [ignored.lend idle.there holds, Option.map_map]
    refine Option.map_congr ?_
    intro ended body
    obtain ⟨⟨content, changed⟩, after⟩ := ended
    exact congrArg (fun world =>
      (interpreter.entry arguments).deliver world (library.method name).result content)
      (World.giveBack_eq ((ignored.kept _ _ body).trans idle.there) idle.unused
        fun reads => Method.eq_of_runBody_shared reads body)
  · rw [Method.apply]
    dsimp only
    split
    · rfl
    · cases Parameters.read interpreter.policy (library.method name).parameters arguments with
      | error error => rfl
      | ok parameters =>
          dsimp only
          rw [Option.map_map]
          rfl

end HostCall
