import HostCall.Proofs.CellsKept

/-!
# Members on a shared cell

A member that is bound by reference reaches a cell that somebody else owns.  A callback may
have several of them behind routers, on one cell (`Callback.BoundTo`) or on many; on a given
frame a call comes to one of them, or to something else (`Library.member?`), and a field is run
as the one of its accessor methods that the number of arguments asks for.

When its arguments have passed, what such a call comes to is decided by the cell alone
(`Library.UsesCell`): nobody owns it, and the call fails; it is in use in a way that leaves no
room, and the call fails; or the body runs on the value that the cell holds, and what the body
leaves is what the cell then holds.  A call that fails in one of the first two ways changes
nothing.
-/

set_option autoImplicit false

namespace HostCall

variable {H : Host}

/-! ## Which member runs -/

/-- The accessor method of a bound field that a number of arguments asks for. -/
def Field.accessor? (field : Field H) : (count : Nat) → Option (Method H)
  | 0 => some field.reader
  | 1 => some field.writer
  | _ => none

theorem Field.accessor?_eq_some {field : Field H} {count : Nat} {method : Method H}
    (found : field.accessor? count = some method) :
    count = 0 ∧ method = field.reader ∨ count = 1 ∧ method = field.writer := by
  rcases count with _ | _ | count
  · exact .inl ⟨rfl, (Option.some.inj found).symm⟩
  · exact .inr ⟨rfl, (Option.some.inj found).symm⟩
  · cases found

theorem Field.accessor?_eq_none {field : Field H} {count : Nat}
    (missing : field.accessor? count = none) : count ∉ [0, 1] := by
  rcases count with _ | _ | count
  · cases missing
  · cases missing
  · simp

/-- The block is a member of a type of receiver, on a bound receiver. -/
inductive Block.BoundTo (library : Library H) (type : H.Receiver) (receiver : FixedReceiver) :
    Block H.toVocabulary → Prop
  | method {name : H.Method} (typed : (library.method name).receiver = type) :
      BoundTo library type receiver (.boundMethod name receiver)
  | field {name : H.Field} (typed : (library.field name).receiver = type) :
      BoundTo library type receiver (.boundField name receiver)

/-- Every leaf of the callback is a member of the type of receiver, on the same bound
receiver. -/
inductive Callback.BoundTo (library : Library H) (type : H.Receiver) (receiver : FixedReceiver) :
    Callback H.toVocabulary → Prop
  | closure (id : ClosureId) {block : Block H.toVocabulary}
      (bound : block.BoundTo library type receiver) :
      BoundTo library type receiver (.closure id block)
  | router (id : ClosureId) (shape : Shape) (declared : Arity)
      {candidates : List (Callback H.toVocabulary)}
      (each : ∀ candidate ∈ candidates, BoundTo library type receiver candidate) :
      BoundTo library type receiver (.router id shape declared candidates)

namespace Library

/-- The method that a bound block runs, given a number of arguments, and its receiver. -/
def blockMember? (library : Library H) (count : Nat) :
    Block H.toVocabulary → Option (FixedReceiver × Method H)
  | .boundMethod name receiver => some (receiver, library.method name)
  | .boundField name receiver => ((library.field name).accessor? count).map (receiver, ·)
  | _ => none

mutual
/-- The bound method that a callback runs on a frame, if that is what it comes to. -/
def member? (library : Library H) (frame : Frame H) :
    Callback H.toVocabulary → Option (FixedReceiver × Method H)
  | .direct _ => none
  | .closure _ block => library.blockMember? frame.argumentCount block
  | .router _ _ _ candidates =>
      match library.select frame candidates with
      | .error _ => none
      | .ok place => library.memberNth? frame candidates place

/-- The bound method that the candidate at a place runs. -/
def memberNth? (library : Library H) (frame : Frame H) :
    List (Callback H.toVocabulary) → Nat → Option (FixedReceiver × Method H)
  | [], _ => none
  | candidate :: _, 0 => library.member? frame candidate
  | _ :: candidates, place + 1 => library.memberNth? frame candidates place
end

variable {library : Library H}

theorem memberNth?_eq {frame : Frame H} {candidates : List (Callback H.toVocabulary)}
    {place : Nat} {candidate : Callback H.toVocabulary}
    (found : candidates[place]? = some candidate) :
    library.memberNth? frame candidates place = library.member? frame candidate := by
  induction candidates generalizing place with
  | nil => simp at found
  | cons first candidates ih =>
      cases place with
      | zero =>
          cases found
          rw [memberNth?]
      | succ place =>
          rw [memberNth?]
          exact ih (by simpa using found)

theorem member?_router_of_select {frame : Frame H} {candidates : List (Callback H.toVocabulary)}
    {place : Nat} {candidate : Callback H.toVocabulary}
    (chosen : library.select frame candidates = .ok place)
    (found : candidates[place]? = some candidate) (id : ClosureId) (shape : Shape)
    (declared : Arity) :
    library.member? frame (.router id shape declared candidates) =
      library.member? frame candidate := by
  rw [member?, chosen]
  exact memberNth?_eq found

theorem member?_router_of_mismatch {frame : Frame H} {candidates : List (Callback H.toVocabulary)}
    {mismatch : Mismatch} (failed : library.select frame candidates = .error mismatch)
    (id : ClosureId) (shape : Shape) (declared : Arity) :
    library.member? frame (.router id shape declared candidates) = none := by
  rw [member?, failed]

/-! ## Bound blocks -/

section Blocks

variable {scene : Scene H} {block : Block H.toVocabulary} {method : Method H}
  {type : H.Receiver} {receiver : FixedReceiver}

/-- A bound block does what its method does. -/
theorem callBlock_of_member
    (member : library.blockMember? scene.frame.argumentCount block = some (receiver, method))
    (invoke : Invoker H) :
    library.callBlock invoke block scene =
      method.callBound receiver (HostOperation.run library invoke) scene := by
  cases block with
  | boundMethod name _ =>
      cases member
      rfl
  | boundField name _ =>
      obtain ⟨_, accessor, same⟩ := Option.map_eq_some_iff.mp member
      cases same
      rcases Field.accessor?_eq_some accessor with ⟨zero, rfl⟩ | ⟨one, rfl⟩
      · exact (Field.callBound_reader _ zero).symm
      · exact (Field.callBound_writer _ one).symm
  | _ => cases member

/-- A bound block checks what its method reads, and then what it borrows. -/
theorem firstFailure_checks_of_member
    (member : library.blockMember? scene.frame.argumentCount block = some (receiver, method)) :
    firstFailure scene (library.checks scene.frame.argumentCount block) =
      (failureOf (scene.frame.prepare (.ofParameters method.parameters) method.parameters)).or
        (failureOf (scene.world.acquire receiver method.receiver method.access)) := by
  cases block with
  | boundMethod name _ =>
      cases member
      rw [checks, firstFailure_append, failureOf_prepare, failureOf_acquire]
      rfl
  | boundField name _ =>
      obtain ⟨_, accessor, same⟩ := Option.map_eq_some_iff.mp member
      cases same
      rw [checks, firstFailure_append, failureOf_prepare, failureOf_acquire, argumentChecks,
        boundChecks, firstFailure_cons, firstFailure_cons]
      rcases Field.accessor?_eq_some accessor with ⟨zero, rfl⟩ | ⟨one, rfl⟩
      · have counted : (Check.count (.ofParameters (library.field name).reader.parameters)).failure?
            scene = none :=
          count_passes_iff.mpr (Frame.takesCount_of_admits (by rw [zero]; rfl))
        rw [counted, accessorCount_of_mem (by rw [zero]; decide), zero]
        rfl
      · have counted : (Check.count (.ofParameters (library.field name).writer.parameters)).failure?
            scene = none :=
          count_passes_iff.mpr (Frame.takesCount_of_admits
            (by rw [one]; exact Arity.admits_ofParameters_singleton _))
        rw [counted, accessorCount_of_mem (by rw [one]; decide), one]
        rfl
  | _ => cases member

/-- A block that is bound runs a method of its type on its receiver, or is a field that takes no
such number of arguments. -/
theorem blockMember_cases (bound : block.BoundTo library type receiver) :
    (∃ method, library.blockMember? scene.frame.argumentCount block = some (receiver, method) ∧
        method.receiver = type) ∨
      ∃ mismatch, firstFailure scene (library.checks scene.frame.argumentCount block) =
        some (.noCandidate mismatch) := by
  cases bound with
  | @method name typed => exact .inl ⟨library.method name, rfl, typed⟩
  | @field name typed =>
      cases accessor : (library.field name).accessor? scene.frame.argumentCount with
      | none =>
          rw [checks, firstFailure_append, argumentChecks, firstFailure_cons,
            accessorCount_of_not_mem (Field.accessor?_eq_none accessor)]
          exact .inr ⟨_, rfl⟩
      | some method =>
          refine .inl ⟨method, by rw [blockMember?, accessor]; rfl, ?_⟩
          rcases Field.accessor?_eq_some accessor with ⟨_, rfl⟩ | ⟨_, rfl⟩
          · exact typed
          · exact typed

end Blocks

/-! ## Bound callbacks -/

section Callbacks

variable {type : H.Receiver} {receiver : FixedReceiver} {callback : Callback H.toVocabulary}
  {scene : Scene H} {method : Method H}

/-- At a scene, a callback stands for a method on a bound receiver: calling it is calling the
method, and it fails before the method runs as the method does. -/
structure StandsFor (library : Library H) (scene : Scene H) (callback : Callback H.toVocabulary)
    (method : Method H) (receiver : FixedReceiver) : Prop where
  called : ∀ invoke : Invoker H, library.callWith invoke callback scene =
    method.callBound receiver (HostOperation.run library invoke) scene
  failing : ∀ error,
    (failureOf (scene.frame.prepare (.ofParameters method.parameters) method.parameters)).or
        (failureOf (scene.world.acquire receiver method.receiver method.access)) = some error →
      library.FailsBeforeBody callback scene error

/-- A router fails before any body runs as the candidate does that it takes. -/
theorem FailsBeforeBody.router {candidate : Callback H.toVocabulary}
    {candidates : List (Callback H.toVocabulary)} {place : Nat} {error : CallError}
    (chosen : library.select scene.frame candidates = .ok place)
    (found : candidates[place]? = some candidate)
    (fails : library.FailsBeforeBody candidate scene error) (id : ClosureId) (shape : Shape)
    (declared : Arity) :
    library.FailsBeforeBody (.router id shape declared candidates) scene error := by
  intro other same invoke
  rw [same.select_eq] at chosen
  rw [callWith_router_of_select chosen found]
  exact fails other same invoke

/-- Down any tree of routers, a callback stands for the bound method that it runs. -/
theorem standsFor_of_member
    (member : library.member? scene.frame callback = some (receiver, method)) :
    library.StandsFor scene callback method receiver := by
  induction callback using Callback.inductionOn with
  | direct name =>
      rw [member?] at member
      cases member
  | closure id block =>
      rw [member?] at member
      constructor
      · intro invoke
        rw [callWith]
        exact callBlock_of_member member invoke
      · intro error failed
        rw [← firstFailure_checks_of_member member] at failed
        exact failsBeforeBody_closure failed id
  | router id shape declared candidates ih =>
      cases found : candidates.find? (library.takes scene.frame) with
      | none =>
          obtain ⟨mismatch, failed, _⟩ := select_of_find?_eq_none found
          rw [member?_router_of_mismatch failed] at member
          cases member
      | some candidate =>
          obtain ⟨place, chosen, atPlace⟩ := select_of_find?_eq_some found
          rw [member?_router_of_select chosen atPlace] at member
          obtain ⟨called, failing⟩ := ih candidate (List.mem_of_find?_eq_some found) member
          constructor
          · intro invoke
            rw [callWith_router_of_select chosen atPlace, called]
          · intro error failed
            exact (failing error failed).router chosen atPlace id shape declared

/-- A callback that is bound in all its leaves runs a method of its type on its receiver, or
takes no such call. -/
theorem member_cases (bound : callback.BoundTo library type receiver) (scene : Scene H) :
    (∃ method, library.member? scene.frame callback = some (receiver, method) ∧
        method.receiver = type) ∨
      ∃ mismatch, library.FailsBeforeBody callback scene (.noCandidate mismatch) := by
  induction bound with
  | closure id bound =>
      rcases blockMember_cases bound with ⟨method, member, typed⟩ | ⟨mismatch, failed⟩
      · exact .inl ⟨method, by rw [member?]; exact member, typed⟩
      · exact .inr ⟨mismatch, failsBeforeBody_closure failed id⟩
  | @router id shape declared candidates each ih =>
      cases found : candidates.find? (library.takes scene.frame) with
      | none =>
          obtain ⟨mismatch, failed, _⟩ := select_of_find?_eq_none found
          exact .inr ⟨mismatch, failsBeforeBody_router failed⟩
      | some candidate =>
          obtain ⟨place, chosen, atPlace⟩ := select_of_find?_eq_some found
          rw [member?_router_of_select chosen atPlace]
          rcases ih candidate (List.mem_of_find?_eq_some found) with member | ⟨mismatch, fails⟩
          · exact .inl member
          · exact .inr ⟨mismatch, fails.router chosen atPlace id shape declared⟩

/-- The member that it runs is of that type. -/
theorem typed_of_member (bound : callback.BoundTo library type receiver) {frame : Frame H}
    {other : FixedReceiver} (member : library.member? frame callback = some (other, method)) :
    method.receiver = type := by
  induction bound with
  | closure id bound =>
      rw [member?] at member
      cases bound with
      | method typed =>
          cases member
          exact typed
      | field typed =>
          obtain ⟨_, accessor, same⟩ := Option.map_eq_some_iff.mp member
          cases same
          rcases Field.accessor?_eq_some accessor with ⟨_, rfl⟩ | ⟨_, rfl⟩
          · exact typed
          · exact typed
  | @router id shape declared candidates each ih =>
      cases found : candidates.find? (library.takes frame) with
      | none =>
          obtain ⟨mismatch, failed, _⟩ := select_of_find?_eq_none found
          rw [member?_router_of_mismatch failed] at member
          cases member
      | some candidate =>
          obtain ⟨place, chosen, atPlace⟩ := select_of_find?_eq_some found
          rw [member?_router_of_select chosen atPlace] at member
          exact ih candidate (List.mem_of_find?_eq_some found) member

end Callbacks

end Library

/-! ## What the cell decides -/

/-- The uses of a cell leave no room for one more: it is being changed, or it is in use at
all and is to be changed. -/
def Borrow.Blocks (borrow : Borrow) (access : Access) : Prop :=
  borrow = .exclusive ∨ borrow ≠ .shared 0 ∧ access = .exclusive

theorem Borrow.acquire_eq_none_iff {borrow : Borrow} {access : Access} :
    borrow.acquire access = none ↔ borrow.Blocks access := by
  rcases borrow with (_ | readers) | _ <;> cases access <;> simp [acquire, Blocks]

/-- A reference is borrowed as its cell allows: somebody must own it, and its uses must leave
room. -/
theorem World.acquire_referenced {world : World H} {cell : CellId} {entry : Cell H}
    {type : H.Receiver} {value : H.Value type} (there : world.cells[cell]? = some entry)
    (holds : entry.content = ⟨type, value⟩) (access : Access) :
    world.acquire (.referenced (some cell)) type access =
      if entry.owners = 0 then .error (.danglingReceiver (H.receiverName type))
      else
        match world.lock? cell access with
        | none => .error (.receiverBorrowed (H.receiverName type))
        | some lent => .ok (⟨cell, value⟩, lent) := by
  rw [acquire, target?, there]
  by_cases gone : entry.owners = 0
  · simp only [if_pos gone]
  · cases granting : world.lock? cell access <;>
      simp only [if_neg gone, content?, there, Option.map_some, Option.bind_some, holds,
        Object.as?_self, granting]

theorem World.lock?_eq_none_iff {world : World H} {cell : CellId} {entry : Cell H}
    (there : world.cells[cell]? = some entry) {access : Access} :
    world.lock? cell access = none ↔ entry.borrow.Blocks access := by
  rw [← Borrow.acquire_eq_none_iff, lock?, there]
  cases granted : entry.borrow.acquire access <;> simp [granted]

/-- The failure is about a bound receiver. -/
def CallError.blamesReceiver : CallError → Bool
  | danglingReceiver _ | receiverBorrowed _ => true
  | _ => false

/-- A result that cannot be delivered is no fault of a bound receiver. -/
theorem Frame.not_blamesReceiver_of_deliver {frame : Frame H} {world : World H}
    {type : ResultType} {content : type.Val H} {error : CallError}
    (failed : (frame.deliver world type content).1 = .error error) :
    error.blamesReceiver = false := by
  rcases Frame.raised_or_stackOverflow_of_deliver failed with ⟨_, rfl⟩ | ⟨_, _, rfl⟩
  · rfl
  · rfl

namespace Library

/-- What a call comes to that runs a method on a shared cell, when its arguments have passed. -/
structure UsesCell (library : Library H) (depth : Nat) (callback : Callback H.toVocabulary)
    (scene : Scene H) (method : Method H) (parameters : Parameters H method.parameters)
    (cell : CellId) (entry : Cell H) : Prop where
  /-- The receiver is reported gone exactly when nobody owns the cell. -/
  dangling : (∃ name after, library.call depth callback scene =
      some (.error (.danglingReceiver name), after)) ↔ entry.owners = 0
  /-- Otherwise it is reported in use exactly when its uses leave no room. -/
  borrowed : (∃ name after, library.call depth callback scene =
      some (.error (.receiverBorrowed name), after)) ↔
    entry.owners ≠ 0 ∧ entry.borrow.Blocks method.access
  /-- In both cases no body runs and nothing changes. -/
  untouched : entry.owners = 0 ∨ entry.borrow.Blocks method.access →
    ∃ error, library.FailsBeforeBody callback scene error
  /-- In all other cases the body runs on the value in the cell, and the cell then holds what
  the body has left. -/
  runs : entry.owners ≠ 0 → ¬ entry.borrow.Blocks method.access →
    ∃ value lent, entry.content = ⟨method.receiver, value⟩ ∧
      scene.world.lock? cell method.access = some lent ∧
      match method.runBody (library.handler depth) value parameters lent with
      | none => library.call depth callback scene = none
      | some ((content, changed), after) =>
          let world := method.giveBack ⟨cell, value⟩ after changed
          library.call depth callback scene =
              some (scene.frame.deliver world method.result content) ∧
            world.cells[cell]? = some { entry with content := ⟨method.receiver, changed⟩ }

theorem call_eq_callWith_nested (library : Library H) (depth : Nat)
    (callback : Callback H.toVocabulary) (scene : Scene H) :
    library.call depth callback scene = library.callWith (library.nested depth) callback scene := by
  cases depth <;> rfl

/-- When a call stands for a method whose receiver has been borrowed, the method runs on the value
that its cell held, and the cell then holds what the method has left. -/
theorem runs_of_acquire {library : Library H} {callback : Callback H.toVocabulary}
    {scene : Scene H} {method : Method H} {receiver : FixedReceiver} {cell : CellId}
    {parameters : Parameters H method.parameters} {value : H.Value method.receiver}
    {lent : World H} {entry : Cell H} (stands : library.StandsFor scene callback method receiver)
    (prepared : scene.frame.prepare (.ofParameters method.parameters) method.parameters =
      .ok parameters)
    (acquired : scene.world.acquire receiver method.receiver method.access =
      .ok (⟨cell, value⟩, lent))
    (there : scene.world.cells[cell]? = some entry)
    (holds : entry.content = ⟨method.receiver, value⟩) (depth : Nat) :
    match method.runBody (library.handler depth) value parameters lent with
    | none => library.call depth callback scene = none
    | some ((content, changed), after) =>
        let world := method.giveBack ⟨cell, value⟩ after changed
        library.call depth callback scene =
            some (scene.frame.deliver world method.result content) ∧
          world.cells[cell]? = some { entry with content := ⟨method.receiver, changed⟩ } := by
  have called := (library.call_eq_callWith_nested depth callback scene).trans
    (stands.called (library.nested depth))
  rw [Method.callBound_eq, prepared] at called
  simp only [acquired] at called
  change library.call depth callback scene =
    (method.runBody (library.handler depth) value parameters lent).map _ at called
  cases ran : method.runBody (library.handler depth) value parameters lent with
  | none =>
      rw [ran] at called
      exact called
  | some ended =>
      obtain ⟨⟨content, changed⟩, after⟩ := ended
      rw [ran] at called
      have kept := World.worldLaw_keepsCells.methodBody
        (World.worldLaw_keepsCells.nested library depth) ran
      refine ⟨called, (World.cell_giveBack acquired there kept changed).trans ?_⟩
      cases access : method.access with
      | shared => rw [Method.eq_of_runBody_shared access ran, ← holds]
      | exclusive => rfl

/-- **The cell decides.**  Whoever owns the cell and whoever uses it settle what a call comes to
whose arguments have passed, through any routers and at any depth of nested calls. -/
theorem usesCell_of_prepare {library : Library H} {cell : CellId}
    {callback : Callback H.toVocabulary} (scene : Scene H) {method : Method H}
    {parameters : Parameters H method.parameters} {entry : Cell H}
    (there : scene.world.cells[cell]? = some entry)
    (typed : entry.content.receiver = method.receiver)
    (member : library.member? scene.frame callback = some (.referenced (some cell), method))
    (prepared : scene.frame.prepare (.ofParameters method.parameters) method.parameters =
      .ok parameters) (depth : Nat) :
    library.UsesCell depth callback scene method parameters cell entry := by
  have stands := standsFor_of_member member
  obtain ⟨value, holds⟩ : ∃ value, entry.content = ⟨method.receiver, value⟩ := by
    obtain ⟨⟨held, value⟩, _, _⟩ := entry
    cases typed
    exact ⟨value, rfl⟩
  have acquired := World.acquire_referenced there holds method.access
  have fails {error : CallError} (refused : scene.world.acquire (.referenced (some cell))
      method.receiver method.access = .error error) :
      library.FailsBeforeBody callback scene error :=
    stands.failing error (by rw [prepared, refused]; rfl)
  have called := (library.call_eq_callWith_nested depth callback scene).trans
    (stands.called (library.nested depth))
  rw [Method.callBound_eq, prepared] at called
  dsimp only at called
  by_cases gone : entry.owners = 0
  · rw [if_pos gone] at acquired
    rw [acquired] at called
    refine ⟨⟨fun _ => gone, fun _ => ⟨_, _, called⟩⟩, ⟨?_, fun other => absurd gone other.1⟩,
      fun _ => ⟨_, fails acquired⟩, fun owned => absurd gone owned⟩
    rintro ⟨_, _, other⟩
    cases called.symm.trans other
  rw [if_neg gone] at acquired
  cases granting : scene.world.lock? cell method.access with
  | none =>
      have blocks := (World.lock?_eq_none_iff there).mp granting
      rw [granting] at acquired
      rw [acquired] at called
      refine ⟨⟨?_, fun free => absurd free gone⟩,
        ⟨fun _ => ⟨gone, blocks⟩, fun _ => ⟨_, _, called⟩⟩, fun _ => ⟨_, fails acquired⟩,
        fun _ room => absurd blocks room⟩
      rintro ⟨_, _, other⟩
      cases called.symm.trans other
  | some lent =>
      have room : ¬ entry.borrow.Blocks method.access := fun blocks => by
        cases granting.symm.trans ((World.lock?_eq_none_iff there).mpr blocks)
      rw [granting] at acquired
      rw [acquired] at called
      -- the body ran, so no failure is a fault of the receiver
      have blameless {error : CallError} {after : Scene H}
          (failed : library.call depth callback scene = some (.error error, after)) :
          error.blamesReceiver = false := by
        obtain ⟨_, _, delivered⟩ := Option.map_eq_some_iff.mp (called.symm.trans failed)
        exact Frame.not_blamesReceiver_of_deliver (congrArg Prod.fst delivered)
      refine ⟨⟨?_, fun free => absurd free gone⟩, ⟨?_, fun other => absurd other.2 room⟩,
        fun refused => refused.elim (absurd · gone) (absurd · room), fun _ _ => ?_⟩
      · rintro ⟨_, _, failed⟩
        cases blameless failed
      · rintro ⟨_, _, failed⟩
        cases blameless failed
      · exact ⟨value, lent, holds, granting,
          runs_of_acquire stands prepared acquired there holds depth⟩

end Library

end HostCall
