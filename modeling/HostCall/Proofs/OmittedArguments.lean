import HostCall.Proofs.CallCourse
import HostCall.Session.Script

/-!
# Arguments left out

A parameter of an optional type may be left out if only such parameters are behind it.  What is
read for it then is what is read from an empty slot, and every optional type reads the two empty
slots, `void` and `null`, in the same way (`SlotType.decode_of_isNil`).

So empty slots may stand where arguments are left out, as many as the range has room for, and a
callable with parameters reads the same from both lists.  Its call takes the same course, and the
two differ at most in that the taller stack overflows (`omittedArguments_asNil`).
-/

set_option autoImplicit false

namespace HostCall

variable {H : Host}

/-! ## What is read for a missing argument -/

/-- An optional type reads every empty slot as `void`. -/
theorem SlotType.decode_of_isNil {type : SlotType} {slot : Slot H}
    (optional : type.isOptional = true) (empty : slot.isNil = true) :
    type.decode slot = type.decode .void := by
  cases type with
  | option inner =>
      cases slot with
      | void => rfl
      | null => rfl
      | _ => cases empty
  | _ => cases optional

/-- Lists of slots that agree at every parameter are read as the same parameters. -/
theorem Parameters.decode_congr {types : List SlotType} {left right : List (Slot H)}
    (agree : ∀ (index : Nat) (type : SlotType), types[index]? = some type →
      type.decode (left[index]?.getD .void) = type.decode (right[index]?.getD .void)) :
    Parameters.decode types left = Parameters.decode types right := by
  induction types generalizing left right with
  | nil => rfl
  | cons type types ih =>
      have first := agree 0 type rfl
      have rest : Parameters.decode types left.tail = Parameters.decode types right.tail :=
        ih fun index other found => by
          rw [List.getElem?_tail, List.getElem?_tail]
          exact agree (index + 1) other found
      rw [← List.head?_eq_getElem?, ← List.head?_eq_getElem?, ← List.headD_eq_head?_getD,
        ← List.headD_eq_head?_getD] at first
      rw [decode, decode, first, rest]

/-- Empty slots behind the arguments are read as what is left out. -/
theorem Parameters.decode_append_nil {types : List SlotType} {slots nils : List (Slot H)}
    (enough : (Arity.ofParameters types).least ≤ slots.length)
    (empty : ∀ slot ∈ nils, slot.isNil = true) :
    Parameters.decode types (slots ++ nils) = Parameters.decode types slots := by
  refine decode_congr fun index type found => ?_
  by_cases given : index < slots.length
  · rw [List.getElem?_append_left given]
  · have missing : slots.length ≤ index := Nat.le_of_not_lt given
    have optional := Arity.isOptional_of_least_le found (Nat.le_trans enough missing)
    rw [List.getElem?_append_right missing, List.getElem?_eq_none missing]
    cases atPlace : nils[index - slots.length]? with
    | none => rfl
    | some slot =>
        exact SlotType.decode_of_isNil optional (empty slot (List.mem_of_getElem? atPlace))

/-! ## What is accepted -/

/-- An argument is accepted, or may be missing, exactly where it can be read. -/
theorem Frame.argumentAccepts_eq_isOk (frame : Frame H) (type : SlotType) (index : Nat) :
    frame.argumentAccepts type index = (frame.argument type index).isOk := by
  rw [argumentAccepts]
  cases there : frame.argument? index with
  | some slot =>
      dsimp only
      rw [argument_of_some there, SlotType.accepts_eq_isOk]
      cases type.decode slot <;> rfl
  | none =>
      cases optional : type.isOptional with
      | false =>
          rw [argument_of_required there optional]
          rfl
      | true =>
          rw [argument_of_optional there optional]
          cases type with
          | option inner => rfl
          | _ => cases optional

/-- Parameters are accepted exactly where they can be read. -/
theorem Parameters.accepts_eq_isOk (frame : Frame H) (types : List SlotType) (offset : Nat) :
    accepts frame types offset = (extract frame types offset).isOk := by
  induction types generalizing offset with
  | nil => rfl
  | cons type types ih =>
      rw [accepts, extract, Frame.argumentAccepts_eq_isOk, ih]
      cases frame.argument type offset with
      | error error => rfl
      | ok value => cases extract frame types (offset + 1) <;> rfl

/-- Frames from which the same receiver and the same parameters are read are accepted alike. -/
theorem Library.Reads.blockAccepts_congr {library : Library H} {block : Block H.toVocabulary}
    {leading : Nat} {types : List SlotType} (reads : library.Reads block leading types)
    {first last : Frame H}
    (receiver : leading = 1 → ∀ type, first.receiver type = last.receiver type)
    (extracted : Parameters.extract first types leading = Parameters.extract last types leading) :
    library.blockAccepts first block = library.blockAccepts last block := by
  cases reads with
  | method name =>
      simp only [blockAccepts, Frame.receiverAccepts, receiver rfl, Parameters.accepts_eq_isOk,
        extracted]
  | _ => simp only [blockAccepts, Parameters.accepts_eq_isOk, extracted]

/-! ## Calls -/

theorem Policy.takes_of_admits {policy : Policy} {declared : Arity} {count : Nat}
    (admitted : declared.admits count = true) : policy.takes declared count = true := by
  rw [Policy.takes]
  cases policy.surplus with
  | ignore => exact decide_eq_true ((Arity.admits_iff _ _).mp admitted).1
  | reject => exact admitted

/-- **Leaving arguments out is passing empty slots.**  Let a block read parameters, and let it be
called with as many arguments as its range admits, and again with empty slots behind them, any mix
of `void` and `null`, again as many as the range admits.  Then both frames give the same
parameters, or the same failure to read them, and both are accepted or neither is.  And whatever
the interpreter, the depth and the world, the second call does what the first does, with the same
results or failure, heap and world, or it overflows the stack. -/
theorem omittedArguments_asNil {library : Library H} {block : Block H.toVocabulary}
    {leading : Nat} {types : List SlotType} (reads : library.Reads block leading types)
    (arguments nils : List (Slot H)) (empty : ∀ slot ∈ nils, slot.isNil = true)
    (admitted : (library.blockArity block).admits arguments.length = true)
    (stillAdmitted : (library.blockArity block).admits (arguments ++ nils).length = true)
    (interpreter : Interpreter H) (depth : Nat) (id : ClosureId) (world : World H) :
    let call arguments := interpreter.call library depth (.closure id block) arguments world
    Parameters.extract (interpreter.entry (arguments ++ nils)) types leading =
        Parameters.extract (interpreter.entry arguments) types leading ∧
      library.blockAccepts (interpreter.entry (arguments ++ nils)) block =
        library.blockAccepts (interpreter.entry arguments) block ∧
      (call (arguments ++ nils) = call arguments ∨ Overflows (call (arguments ++ nils))) := by
  intro call
  have enough : (Arity.ofParameters types).least + leading ≤ arguments.length := by
    rw [reads.blockArity_eq] at admitted
    exact ((Arity.admits_iff _ _).mp admitted).1
  have inFront : leading ≤ arguments.length := by omega
  have taller : arguments.length ≤ (arguments ++ nils).length := by
    rw [List.length_append]
    exact Nat.le_add_right _ _
  have front : (arguments ++ nils).take leading = arguments.take leading :=
    List.take_append_of_le_length inFront
  have decoded : Parameters.decode types ((arguments ++ nils).drop leading) =
      Parameters.decode types (arguments.drop leading) := by
    rw [List.drop_append_of_le_length inFront]
    exact Parameters.decode_append_nil (by rw [List.length_drop]; omega) empty
  have extracted : Parameters.extract (interpreter.entry (arguments ++ nils)) types leading =
      Parameters.extract (interpreter.entry arguments) types leading := by
    rw [interpreter.extract_entry_drop enough,
      interpreter.extract_entry_drop (Nat.le_trans enough taller), decoded]
  have accepted := reads.blockAccepts_congr
    (fun one type => interpreter.receiver_entry_congr (by rw [← one]; exact front) type) extracted
  refine ⟨extracted, accepted, ?_⟩
  -- the two calls have one course, at two heights of the stack
  have sameCourse := reads.course_congr interpreter (Policy.takes_of_admits stillAdmitted)
    (Policy.takes_of_admits admitted) front decoded depth world
  obtain ⟨course, found⟩ := reads.exists_course depth ⟨interpreter.entry arguments, world⟩
  have short := Interpreter.call_eq_outcome id found
  have long := Interpreter.call_eq_outcome id (sameCourse.trans found)
  simp only [call, short, long]
  exact course.outcome_of_le interpreter world (Nat.add_le_add_left taller _)

namespace Sample

/-- A function of a number, an optional number and an optional truth value, which answers with
what it was given. -/
def trailingOptions : Block vocabulary := .function (.plain .trailingOptions .stateful)

/-- Given the number alone, it answers as with two empty slots of both kinds behind it. -/
theorem trailingOptions_asNil :
    (Session.library #[]).Reads trailingOptions 0 [.int64, .option .float64, .option .bool] ∧
      (∀ slot ∈ ([.null, .void] : List (Slot host)), slot.isNil = true) ∧
      ((Session.library #[]).blockArity trailingOptions).admits 1 = true ∧
      ((Session.library #[]).blockArity trailingOptions).admits 3 = true ∧
      ({} : Interpreter host).call (Session.library #[]) 0 (.closure 0 trailingOptions)
          [.int 5, .null, .void] { memory := {} } =
        ({} : Interpreter host).call (Session.library #[]) 0 (.closure 0 trailingOptions)
          [.int 5] { memory := {} } := by
  have reads : (Session.library #[]).Reads trailingOptions 0
      [.int64, .option .float64, .option .bool] := .function _
  have empty : ∀ slot ∈ ([.null, .void] : List (Slot host)), slot.isNil = true := by
    simp [Slot.isNil]
  obtain ⟨-, -, same | overflowed⟩ := omittedArguments_asNil reads [.int 5] [.null, .void] empty rfl
    rfl {} 0 0 { memory := {} }
  · exact ⟨reads, empty, rfl, rfl, same⟩
  · obtain ⟨_, _, _, _, ended⟩ := overflowed
    cases congrArg (Option.map fun called => called.1.1) ended

end Sample

end HostCall
