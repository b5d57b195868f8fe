import HostCall.Proofs.OmittedArguments

/-!
# Surplus arguments

A call may carry more arguments than a callable has parameters.  A policy that ignores them lets
the callable be called as if they were not there: its parameters are read in front of them, so its
call takes the same course, and only the height of the stack tells the two calls apart.  A policy
that rejects them fails the call before anything is read, whatever they hold
(`surplusArguments_ignored`).
-/

set_option autoImplicit false

namespace HostCall

variable {H : Host}

/-! ## What is read in front of the surplus -/

/-- Slots behind one for each parameter are not read. -/
theorem Parameters.decode_append_of_length_le {types : List SlotType}
    {slots extras : List (Slot H)} (enough : types.length ≤ slots.length) :
    Parameters.decode types (slots ++ extras) = Parameters.decode types slots := by
  refine decode_congr fun index type found => ?_
  have declared : index < types.length := (List.getElem?_eq_some_iff.mp found).1
  rw [List.getElem?_append_left (Nat.lt_of_lt_of_le declared enough)]

/-- No list of parameters asks for more arguments than there are parameters. -/
theorem Arity.least_ofParameters_le (types : List SlotType) :
    (ofParameters types).least ≤ types.length := by
  have shorter := (List.dropWhile_suffix (l := types.reverse) SlotType.isOptional).length_le
  rwa [List.length_reverse] at shorter

/-! ## What the policy makes of the surplus -/

/-- A policy that ignores surplus arguments takes any number of them. -/
theorem Policy.takes_of_ignore {policy : Policy} {declared : Arity} {count : Nat}
    (ignores : policy.surplus = .ignore) (enough : declared.least ≤ count) :
    policy.takes declared count = true := by
  rw [Policy.takes, ignores]
  exact decide_eq_true enough

/-- A policy that rejects surplus arguments takes no number above the greatest. -/
theorem Policy.not_takes_of_reject {policy : Policy} {declared : Arity} {count greatest : Nat}
    (rejects : policy.surplus = .reject) (bounded : declared.greatest = some greatest)
    (beyond : greatest < count) : policy.takes declared count = false := by
  rw [Policy.takes, rejects, ← Bool.not_eq_true]
  intro admitted
  have within := ((Arity.admits_iff declared count).mp admitted).2 greatest bounded
  exact Nat.not_le_of_lt beyond within

namespace Library.Reads

variable {library : Library H} {block : Block H.toVocabulary} {leading : Nat}
  {types : List SlotType}

/-- A block that reads parameters counts its arguments before anything else. -/
theorem failsBeforeBody_of_not_takes (reads : library.Reads block leading types)
    (scene : Scene H) (refused : scene.frame.takesCount (library.blockArity block) = false)
    (id : ClosureId) :
    library.FailsBeforeBody (.closure id block) scene
      (.wrongCount (library.blockArity block) scene.frame.argumentCount) := by
  have counted : (Check.count (library.blockArity block)).failure? scene =
      some (.wrongCount (library.blockArity block) scene.frame.argumentCount) := by
    rw [Check.failure?, refused]
    rfl
  refine failsBeforeBody_of_argumentChecks ?_ id
  cases reads <;> exact (firstFailure_cons ..).trans (congrArg (Option.or · _) counted)

/-- On a taller stack a call of a block that reads the same receiver and the same parameters does
the same, unless the stack overflows. -/
theorem call_congr (reads : library.Reads block leading types) (interpreter : Interpreter H)
    {low high : List (Slot H)} (le : low.length ≤ high.length)
    (lowTaken : interpreter.policy.takes (library.blockArity block) low.length = true)
    (highTaken : interpreter.policy.takes (library.blockArity block) high.length = true)
    (front : high.take leading = low.take leading)
    (decoded : Parameters.decode types (high.drop leading) =
      (Parameters.decode types (low.drop leading) : Except _ (Parameters H types)))
    (depth : Nat) (id : ClosureId) (world : World H) :
    let call arguments := interpreter.call library depth (.closure id block) arguments world
    call high = call low ∨ Overflows (call high) := by
  intro call
  have sameCourse := reads.course_congr interpreter highTaken lowTaken front decoded depth world
  obtain ⟨course, found⟩ := reads.exists_course depth ⟨interpreter.entry low, world⟩
  have short := Interpreter.call_eq_outcome id found
  have long := Interpreter.call_eq_outcome id (sameCourse.trans found)
  simp only [call, short, long]
  exact course.outcome_of_le interpreter world (Nat.add_le_add_left le _)

end Library.Reads

/-! ## Calls -/

/-- **Surplus arguments do not take part in a call.**  Let a block read parameters, and let it be
called with as many arguments as its range has at most, and again with any slots behind them.
Both frames give the same parameters, or the same failure to read them, and both are accepted or
neither is.

* Where the policy ignores surplus arguments, the second call does what the first does, with the
  same results or failure, heap and world, or it overflows the stack.
* Where the policy rejects them, the second call fails for the number of its arguments before any
  body runs, and changes nothing. -/
theorem surplusArguments_ignored {library : Library H} {block : Block H.toVocabulary}
    {leading : Nat} {types : List SlotType} (reads : library.Reads block leading types)
    (arguments extras : List (Slot H))
    (full : (library.blockArity block).greatest = some arguments.length)
    (interpreter : Interpreter H) (depth : Nat) (id : ClosureId) (world : World H) :
    let call arguments := interpreter.call library depth (.closure id block) arguments world
    let miscounted := CallError.wrongCount (library.blockArity block) (arguments ++ extras).length
    Parameters.extract (interpreter.entry (arguments ++ extras)) types leading =
        Parameters.extract (interpreter.entry arguments) types leading ∧
      library.blockAccepts (interpreter.entry (arguments ++ extras)) block =
        library.blockAccepts (interpreter.entry arguments) block ∧
      (interpreter.policy.surplus = .ignore →
        call (arguments ++ extras) = call arguments ∨ Overflows (call (arguments ++ extras))) ∧
      (interpreter.policy.surplus = .reject → extras ≠ [] →
        library.FailsBeforeBody (.closure id block)
            ⟨interpreter.entry (arguments ++ extras), world⟩ miscounted ∧
          (interpreter.Fits (arguments ++ extras) →
            call (arguments ++ extras) = some ((.error miscounted, interpreter), world))) := by
  intro call miscounted
  have count : types.length + leading = arguments.length := by
    rw [reads.blockArity_eq] at full
    exact Option.some.inj full
  have least : (library.blockArity block).least ≤ arguments.length := by
    rw [reads.blockArity_eq, ← count]
    exact Nat.add_le_add_right (Arity.least_ofParameters_le types) leading
  have enough : (Arity.ofParameters types).least + leading ≤ arguments.length := by
    rw [reads.blockArity_eq] at least
    exact least
  have inFront : leading ≤ arguments.length := by omega
  have taller : arguments.length ≤ (arguments ++ extras).length := by
    rw [List.length_append]
    exact Nat.le_add_right _ _
  have front : (arguments ++ extras).take leading = arguments.take leading :=
    List.take_append_of_le_length inFront
  have decoded : Parameters.decode types ((arguments ++ extras).drop leading) =
      Parameters.decode types (arguments.drop leading) := by
    rw [List.drop_append_of_le_length inFront]
    exact Parameters.decode_append_of_length_le (by rw [List.length_drop]; omega)
  have extracted : Parameters.extract (interpreter.entry (arguments ++ extras)) types leading =
      Parameters.extract (interpreter.entry arguments) types leading := by
    rw [interpreter.extract_entry_drop enough,
      interpreter.extract_entry_drop (Nat.le_trans enough taller), decoded]
  have accepted := reads.blockAccepts_congr
    (fun one type => interpreter.receiver_entry_congr (by rw [← one]; exact front) type) extracted
  refine ⟨extracted, accepted, fun ignores => ?_, fun rejects surplus => ?_⟩
  · exact reads.call_congr interpreter taller (Policy.takes_of_ignore ignores least)
      (Policy.takes_of_ignore ignores (Nat.le_trans least taller)) front decoded depth id world
  · have beyond : arguments.length < (arguments ++ extras).length := by
      rw [List.length_append]
      exact Nat.lt_add_of_pos_right (List.length_pos_iff.mpr surplus)
    have refused := (interpreter.takesCount_entry (arguments ++ extras) _).trans
      (Policy.not_takes_of_reject rejects full beyond)
    have fails := reads.failsBeforeBody_of_not_takes
      ⟨interpreter.entry (arguments ++ extras), world⟩ refused id
    rw [Interpreter.argumentCount_entry] at fails
    refine ⟨fails, fun fits => Interpreter.callWith_of_error fits ?_⟩
    rw [Library.call_closure, ← fails.callWith_eq (library.nested depth), Library.callWith]

namespace Sample

/-- An object, a handle that reaches none, and a function, behind a full list of arguments. -/
def surplus : List (Slot host) :=
  [.native ⟨.counter, ⟨3⟩⟩, .object ⟨0, 0, .counter⟩, .function (.closure 0 trailingOptions)]

/-- An interpreter that ignores surplus arguments. -/
def ignoring : Interpreter host := { policy := { surplus := .ignore } }

/-- Behind a number and two empty slots they are ignored, or they are three arguments too many. -/
theorem trailingOptions_surplus :
    (Session.library #[]).Reads trailingOptions 0 [.int64, .option .float64, .option .bool] ∧
      ((Session.library #[]).blockArity trailingOptions).greatest = some 3 ∧
      ignoring.call (Session.library #[]) 0 (.closure 0 trailingOptions)
          ([.int 5, .null, .void] ++ surplus) { memory := {} } =
        ignoring.call (Session.library #[]) 0 (.closure 0 trailingOptions) [.int 5, .null, .void]
          { memory := {} } ∧
      ({} : Interpreter host).call (Session.library #[]) 0 (.closure 0 trailingOptions)
          ([.int 5, .null, .void] ++ surplus) { memory := {} } =
        some ((.error (.wrongCount (.range 1 3) 6), {}), { memory := {} }) := by
  have reads : (Session.library #[]).Reads trailingOptions 0
      [.int64, .option .float64, .option .bool] := .function _
  have ignored := surplusArguments_ignored reads [.int 5, .null, .void] surplus rfl
    ignoring 0 0 { memory := {} }
  have rejected := surplusArguments_ignored reads [.int 5, .null, .void] surplus rfl
    {} 0 0 { memory := {} }
  have roomy : ({} : Interpreter host).Fits ([.int 5, .null, .void] ++ surplus) :=
    show 0 + 6 ≤ 10000 by decide
  refine ⟨reads, rfl, ?_, (rejected.2.2.2 rfl (List.cons_ne_nil _ _)).2 roomy⟩
  rcases ignored.2.2.1 rfl with same | overflowed
  · exact same
  · obtain ⟨_, _, _, _, ended⟩ := overflowed
    cases congrArg (Option.map fun called => called.1.1) ended

end Sample

end HostCall
