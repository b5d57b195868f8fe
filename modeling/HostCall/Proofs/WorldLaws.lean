import HostCall.Proofs.FieldAccessors
import HostCall.Proofs.IdleReceivers

/-!
# What calls do to the world

A call changes the world around it in two ways only: a body writes the host's memory, and a
member on a bound receiver borrows a cell, runs, and gives the cell back.  A relation between
the worlds before and after that allows for both (`WorldLaw`) therefore holds of every
program, of every call of a callback, down to any depth of nested calls, and of every call in
an interpreter (`WorldLaw.interpreterCall`).
-/

set_option autoImplicit false

namespace HostCall

variable {H : Host}

/-- A relation between the worlds before and after something was run, which holds of the two
ways in which calls change a world and of what comes one after another. -/
structure WorldLaw (law : World H → World H → Prop) : Prop where
  refl : ∀ world, law world world
  trans : ∀ {first middle last}, law first middle → law middle last → law first last
  memory : ∀ (world : World H) (memory : H.Memory), law world { world with memory }
  /-- A receiver is borrowed, something is run that keeps the law, and the receiver is given
  back. -/
  lent : ∀ (method : Method H) {receiver : FixedReceiver} {world borrowed after : World H}
    {loan : World.Loan H method.receiver} (changed : H.Value method.receiver),
    world.acquire receiver method.receiver method.access = .ok (loan, borrowed) →
      law borrowed after → law world (method.giveBack loan after changed)

/-- Whatever a call does, it keeps the law. -/
def Invoker.Keeps (invoke : Invoker H) (law : World H → World H → Prop) : Prop :=
  ∀ callback scene outcome after, invoke callback scene = some (outcome, after) →
    law scene.world after.world

namespace WorldLaw

variable {law : World H → World H → Prop} {library : Library H} {invoke : Invoker H}

section Programs

/-! ## Operations and programs -/

/-- A call in an interpreter fails before anything is run, or comes to one call on a frame. -/
theorem interpreterCallWith (keeps : WorldLaw law) (nested : invoke.Keeps law)
    {interpreter : Interpreter H} {callback : Callback H.toVocabulary}
    {arguments : List (Slot H)} {world after : World H}
    {results : Except CallError (List (Slot H)) × Interpreter H}
    (called : interpreter.callWith invoke callback arguments world = some (results, after)) :
    law world after := by
  rw [Interpreter.callWith] at called
  dsimp only at called
  split at called
  · cases called
    exact keeps.refl _
  · split at called
    · cases called
    · rename_i outcome frame reached ran
      cases called
      exact nested callback _ outcome _ ran

theorem hostOperation (keeps : WorldLaw law) (nested : invoke.Keeps law)
    {operation : HostOperation H} {world after : World H} {answer : operation.Answer}
    (ran : operation.run library invoke world = some (answer, after)) : law world after := by
  cases operation with
  | readMemory | inspect callback =>
      cases ran
      exact keeps.refl _
  | writeMemory memory =>
      cases ran
      exact keeps.memory _ memory
  | call interpreter callback arguments => exact keeps.interpreterCallWith nested ran

theorem hostProgram (keeps : WorldLaw law) (nested : invoke.Keeps law) {α : Type}
    {program : HostProgram H α} {world after : World H} {value : α}
    (ran : program.run (HostOperation.run library invoke) world = some (value, after)) :
    law world after := by
  induction program generalizing world with
  | done value =>
      cases ran
      exact keeps.refl _
  | step operation next ih =>
      rw [Program.run] at ran
      cases answered : operation.run library invoke world with
      | none =>
          rw [answered] at ran
          cases ran
      | some ended =>
          obtain ⟨answer, middle⟩ := ended
          rw [answered] at ran
          exact keeps.trans (keeps.hostOperation nested answered) (ih answer ran)

/-- An operation that only replaces the frame leaves the world alone. -/
theorem attempt (keeps : WorldLaw law) {scene after : Scene H}
    {outcome : Except CallError (Frame H)} {answer : Except CallError Unit}
    (ran : some (scene.attempt outcome) = some (answer, after)) :
    law scene.world after.world := by
  cases outcome <;> cases ran <;> exact keeps.refl _

theorem frameOperation (keeps : WorldLaw law) (nested : invoke.Keeps law)
    {operation : FrameOperation H} {scene after : Scene H} {answer : operation.Answer}
    (ran : operation.run library invoke scene = some (answer, after)) :
    law scene.world after.world := by
  cases operation with
  | host operation =>
      obtain ⟨⟨_, reached⟩, ended, same⟩ := Option.map_eq_some_iff.mp ran
      cases same
      exact keeps.hostOperation nested ended
  | push slot | setReceiver object | setObject handle object => exact keeps.attempt ran
  | invoke callback => exact nested callback scene answer after ran
  | _ =>
      cases ran
      exact keeps.refl _

theorem frameProgram (keeps : WorldLaw law) (nested : invoke.Keeps law) {α : Type}
    {program : FrameProgram H α} {scene after : Scene H} {value : α}
    (ran : program.run (FrameOperation.run library invoke) scene = some (value, after)) :
    law scene.world after.world := by
  induction program generalizing scene with
  | done value =>
      cases ran
      exact keeps.refl _
  | step operation next ih =>
      rw [Program.run] at ran
      cases answered : operation.run library invoke scene with
      | none =>
          rw [answered] at ran
          cases ran
      | some ended =>
          obtain ⟨answer, middle⟩ := ended
          rw [answered] at ran
          exact keeps.trans (keeps.frameOperation nested answered) (ih answer ran)

theorem methodBody (keeps : WorldLaw law) (nested : invoke.Keeps law) {method : Method H}
    {value : H.Value method.receiver} {parameters : Parameters H method.parameters}
    {world after : World H} {ended : method.result.Val H × H.Value method.receiver}
    (ran : method.runBody (HostOperation.run library invoke) value parameters world =
      some (ended, after)) : law world after := by
  obtain ⟨receiver, types, result, body⟩ := method
  cases body with
  | shared run =>
      obtain ⟨⟨_, reached⟩, done, same⟩ := Option.map_eq_some_iff.mp ran
      cases same
      exact keeps.hostProgram nested done
  | exclusive run => exact keeps.hostProgram nested ran

end Programs

section Calls

/-! ## Calls -/

/-- A program whose result is delivered keeps the law when the program does. -/
theorem deliveredProgram (keeps : WorldLaw law) (nested : invoke.Keeps law) {α : Type}
    {program : HostProgram H α} {world : World H}
    {finish : α × World H → Except CallError Nat × Scene H}
    {outcome : Except CallError Nat} {after : Scene H}
    (same : ∀ ended, (finish ended).2.world = ended.2)
    (ran : (program.run (HostOperation.run library invoke) world).map finish =
      some (outcome, after)) : law world after.world := by
  obtain ⟨⟨value, reached⟩, done, finished⟩ := Option.map_eq_some_iff.mp ran
  have there := same (value, reached)
  rw [finished] at there
  rw [there]
  exact keeps.hostProgram nested done

theorem methodCall (keeps : WorldLaw law) (nested : invoke.Keeps law) {method : Method H}
    {scene after : Scene H} {outcome : Except CallError Nat}
    (called : method.call (HostOperation.run library invoke) scene = some (outcome, after)) :
    law scene.world after.world := by
  rw [Method.call_eq_putReceiver] at called
  split at called
  · cases called
    exact keeps.refl _
  · split at called
    · exact keeps.deliveredProgram nested (fun _ => rfl) called
    · exact keeps.deliveredProgram nested (fun _ => rfl) called

theorem boundMethodCall (keeps : WorldLaw law) (nested : invoke.Keeps law) {method : Method H}
    {receiver : FixedReceiver} {scene after : Scene H} {outcome : Except CallError Nat}
    (called : method.callBound receiver (HostOperation.run library invoke) scene =
      some (outcome, after)) : law scene.world after.world := by
  rw [Method.callBound_eq] at called
  split at called
  · cases called
    exact keeps.refl _
  · split at called
    · cases called
      exact keeps.refl _
    · rename_i loan borrowed acquired
      obtain ⟨⟨⟨content, changed⟩, reached⟩, ran, finished⟩ := Option.map_eq_some_iff.mp called
      cases finished
      exact keeps.lent method changed acquired (keeps.methodBody nested ran)

/-- A bound field is one of its accessor methods, or takes no part in the call. -/
theorem boundFieldCall (keeps : WorldLaw law) (nested : invoke.Keeps law) (library : Library H)
    {field : Field H} {receiver : FixedReceiver} {scene after : Scene H}
    {outcome : Except CallError Nat}
    (called : some (field.callBound receiver scene) = some (outcome, after)) :
    law scene.world after.world := by
  by_cases listed : scene.frame.argumentCount ∈ [0, 1]
  · simp only [List.mem_cons, List.not_mem_nil, or_false] at listed
    rcases listed with zero | one
    · rw [← Field.callBound_reader (HostOperation.run library invoke) zero] at called
      exact keeps.boundMethodCall nested called
    · rw [← Field.callBound_writer (HostOperation.run library invoke) one] at called
      exact keeps.boundMethodCall nested called
  · rw [Field.callBound_of_other listed] at called
    cases called
    exact keeps.refl _

/-- So is a field whose receiver is argument 0. -/
theorem fieldCall (keeps : WorldLaw law) (nested : invoke.Keeps law) (library : Library H)
    {field : Field H} {scene after : Scene H} {outcome : Except CallError Nat}
    (called : some (field.call scene) = some (outcome, after)) :
    law scene.world after.world := by
  by_cases listed : scene.frame.argumentCount ∈ [1, 2]
  · simp only [List.mem_cons, List.not_mem_nil, or_false] at listed
    rcases listed with one | two
    · rw [← Field.call_reader (HostOperation.run library invoke) one] at called
      exact keeps.methodCall nested called
    · rw [← Field.call_writer (HostOperation.run library invoke) two] at called
      exact keeps.methodCall nested called
  · rw [Field.call_of_other listed] at called
    cases called
    exact keeps.refl _

/-- Each block: one case for each way in which a call is written. -/
theorem callBlock (keeps : WorldLaw law) (nested : invoke.Keeps law)
    {block : Block H.toVocabulary} {scene after : Scene H} {outcome : Except CallError Nat}
    (called : library.callBlock invoke block scene = some (outcome, after)) :
    law scene.world after.world := by
  cases block with
  | function name =>
      rw [Library.callBlock, FreeFunction.call] at called
      split at called
      · cases called
        exact keeps.refl _
      · exact keeps.deliveredProgram nested (fun _ => rfl) called
  | method name => exact keeps.methodCall nested called
  | boundMethod name receiver => exact keeps.boundMethodCall nested called
  | field name => exact keeps.fieldCall nested library called
  | boundField name receiver => exact keeps.boundFieldCall nested library called
  | construct name =>
      rw [Library.callBlock, Constructor.call] at called
      split at called
      · cases called
        exact keeps.refl _
      · exact keeps.deliveredProgram nested (fun _ => rfl) called
  | custom label name => exact keeps.frameProgram nested called

/-- A callback, down its tree of routers. -/
theorem callWith (keeps : WorldLaw law) (nested : invoke.Keeps law) :
    Invoker.Keeps (library.callWith invoke) law := by
  intro callback
  induction callback using Callback.inductionOn with
  | direct name =>
      intro scene outcome after called
      rw [Library.callWith] at called
      exact keeps.frameProgram nested called
  | closure id block =>
      intro scene outcome after called
      rw [Library.callWith] at called
      exact keeps.callBlock nested called
  | router id shape declared candidates ih =>
      intro scene outcome after called
      cases found : candidates.find? (library.takes scene.frame) with
      | none =>
          obtain ⟨mismatch, _, fails⟩ :=
            Library.failsBeforeBody_of_find?_eq_none found id shape declared
          rw [fails.callWith_eq] at called
          cases called
          exact keeps.refl _
      | some candidate =>
          rw [Library.callWith_router_of_find?_eq_some found] at called
          exact ih candidate (List.mem_of_find?_eq_some found) scene outcome after called

/-- **Every call keeps the law**, however deep the calls nest that its callables make. -/
theorem call (keeps : WorldLaw law) (library : Library H) (depth : Nat) :
    Invoker.Keeps (library.call depth) law := by
  induction depth with
  | zero =>
      intro callback
      exact keeps.callWith (fun _ _ _ _ called => by cases called) callback
  | succ depth ih => exact keeps.callWith ih

/-- So do the calls that callables make at a depth. -/
theorem nested (keeps : WorldLaw law) (library : Library H) (depth : Nat) :
    Invoker.Keeps (library.nested depth) law := by
  cases depth with
  | zero => exact fun _ _ _ _ called => by cases called
  | succ depth => exact keeps.call library depth

theorem interpreterCall (keeps : WorldLaw law) {library : Library H} {depth : Nat}
    {interpreter : Interpreter H} {callback : Callback H.toVocabulary}
    {arguments : List (Slot H)} {world after : World H}
    {results : Except CallError (List (Slot H)) × Interpreter H}
    (called : interpreter.call library depth callback arguments world = some (results, after)) :
    law world after :=
  keeps.interpreterCallWith (keeps.call library depth) called

end Calls

end WorldLaw

end HostCall
