import HostCall.Proofs.OmittedArguments

/-!
# Reading parameters

What becomes of one parameter is decided by the slot at its place.  It is what the slot is decoded
as, or why the slot cannot be decoded; if there is no argument, an optional parameter is absent and
any other one fails (`Frame.Reading`).

A list of parameters is read from left to right.  It is read when every one of them can be, and its
components are then what each of them is read as.  Otherwise it fails as the first one that cannot
be read.  The test that looks at the slots without making values lets exactly those arguments pass
that can be read, at every offset and whatever the number of arguments
(`parameters_read_leftToRight`).
-/

set_option autoImplicit false

namespace HostCall

variable {H : Host}

/-! ## One parameter -/

/-- What becomes of a parameter of a type that is read from the argument at an index. -/
inductive Frame.Reading (frame : Frame H) (index : Nat) :
    (type : SlotType) → Except CallError (type.Val H) → Prop
  /-- The argument is there and is decoded. -/
  | decoded {type : SlotType} {slot : Slot H} {value : type.Val H}
      (there : frame.argument? index = some slot) (read : type.decode slot = .ok value) :
      frame.Reading index type (.ok value)
  /-- The argument is there and cannot be decoded; the failure is passed on unchanged. -/
  | refused {type : SlotType} {slot : Slot H} {cause : ConversionError}
      (there : frame.argument? index = some slot) (failed : type.decode slot = .error cause) :
      frame.Reading index type (.error (.conversion cause))
  /-- The argument is missing, and the parameter is absent. -/
  | absent {inner : SlotType} (missing : frame.argument? index = none) :
      frame.Reading index (.option inner) (.ok none)
  /-- The argument is missing, and the parameter needs it. -/
  | needed {type : SlotType} (missing : frame.argument? index = none)
      (required : type.isOptional = false) :
      frame.Reading index type (.error (.noArgument index frame.argumentCount))

namespace Frame

variable {frame : Frame H} {index : Nat} {type : SlotType}

/-- An argument is read as its slot decides. -/
theorem reading_argument (frame : Frame H) (index : Nat) (type : SlotType) :
    frame.Reading index type (frame.argument type index) := by
  cases there : frame.argument? index with
  | some slot =>
      rw [argument_of_some there]
      cases read : type.decode slot with
      | error cause => exact .refused there read
      | ok value => exact .decoded there read
  | none =>
      cases optional : type.isOptional with
      | false =>
          rw [argument_of_required there optional]
          exact .needed there optional
      | true =>
          rw [argument_of_optional there optional]
          cases type with
          | option inner => exact .absent there
          | _ => cases optional

/-- The slot leaves no choice. -/
theorem Reading.argument_eq {outcome : Except CallError (type.Val H)}
    (reading : frame.Reading index type outcome) : frame.argument type index = outcome := by
  cases reading with
  | decoded there read => rw [argument_of_some there, read]; rfl
  | refused there failed => rw [argument_of_some there, failed]; rfl
  | absent missing => rw [argument_of_optional missing rfl]; rfl
  | needed missing required => exact argument_of_required missing required

theorem reading_iff {outcome : Except CallError (type.Val H)} :
    frame.Reading index type outcome ↔ frame.argument type index = outcome :=
  ⟨Reading.argument_eq, fun same => same ▸ reading_argument frame index type⟩

end Frame

/-! ## A list of parameters -/

namespace Parameters

/-- One of the values. -/
def get : (types : List SlotType) → Parameters H types → (place : Fin types.length) →
    (types.get place).Val H
  | _ :: _, (value, _), ⟨0, _⟩ => value
  | _ :: types, (_, values), ⟨place + 1, inside⟩ =>
      get types values ⟨place, Nat.lt_of_succ_lt_succ inside⟩

variable {frame : Frame H} {offset : Nat}

/-- A list is read as its first parameter and the rest are. -/
theorem extract_cons_eq_ok_iff {type : SlotType} {types : List SlotType} {value : type.Val H}
    {values : Parameters H types} :
    extract frame (type :: types) offset = .ok (value, values) ↔
      frame.argument type offset = .ok value ∧
        extract frame types (offset + 1) = .ok values := by
  rw [extract]
  cases frame.argument type offset with
  | error error => simp
  | ok first => cases extract frame types (offset + 1) <;> simp [Except.map]

/-- A list fails as its first parameter does, or as the rest does behind a first one that is
read. -/
theorem extract_cons_eq_error_iff {type : SlotType} {types : List SlotType} {error : CallError} :
    extract frame (type :: types) offset = .error error ↔
      frame.argument type offset = .error error ∨
        (∃ value, frame.argument type offset = .ok value) ∧
          extract frame types (offset + 1) = .error error := by
  rw [extract]
  cases frame.argument type offset with
  | error error => simp
  | ok first => cases extract frame types (offset + 1) <;> simp [Except.map]

/-- A list is read as some values exactly when each parameter is read as its value. -/
theorem extract_eq_ok_iff {types : List SlotType} {values : Parameters H types} :
    extract frame types offset = .ok values ↔
      ∀ place : Fin types.length,
        frame.argument (types.get place) (offset + place) = .ok (get types values place) := by
  induction types generalizing offset with
  | nil => exact iff_of_true rfl fun place => place.elim0
  | cons type types ih =>
      obtain ⟨value, values⟩ := values
      rw [extract_cons_eq_ok_iff, ih]
      constructor
      · rintro ⟨first, rest⟩ ⟨_ | place, inside⟩
        · exact first
        · have there := rest ⟨place, Nat.lt_of_succ_lt_succ inside⟩
          rwa [Nat.add_assoc, Nat.add_comm 1] at there
      · refine fun each => ⟨each ⟨0, Nat.zero_lt_succ _⟩, fun place => ?_⟩
        rw [Nat.add_assoc, Nat.add_comm 1]
        exact each place.succ

/-- A list fails exactly as the first of its parameters that cannot be read. -/
theorem extract_eq_error_iff {types : List SlotType} {error : CallError} :
    extract frame types offset = .error error ↔
      ∃ place : Fin types.length,
        frame.argument (types.get place) (offset + place) = .error error ∧
          ∀ earlier < place, ∃ value,
            frame.argument (types.get earlier) (offset + earlier) = .ok value := by
  induction types generalizing offset with
  | nil => exact iff_of_false (by rintro ⟨⟩) fun ⟨place, _⟩ => place.elim0
  | cons type types ih =>
      rw [extract_cons_eq_error_iff, ih]
      constructor
      · rintro (first | ⟨read, place, failed, before⟩)
        · exact ⟨⟨0, Nat.zero_lt_succ _⟩, first,
            fun earlier less => absurd less (Nat.not_lt_zero _)⟩
        · rw [Nat.add_assoc, Nat.add_comm 1] at failed
          refine ⟨place.succ, failed, ?_⟩
          rintro ⟨_ | earlier, inside⟩ less
          · exact read
          · have there := before ⟨earlier, Nat.lt_of_succ_lt_succ inside⟩
              (Nat.lt_of_succ_lt_succ less)
            rwa [Nat.add_assoc, Nat.add_comm 1] at there
      · rintro ⟨⟨_ | place, inside⟩, failed, before⟩
        · exact .inl failed
        · refine .inr ⟨before ⟨0, Nat.zero_lt_succ _⟩ (Nat.zero_lt_succ _),
            ⟨place, Nat.lt_of_succ_lt_succ inside⟩, ?_, fun earlier less => ?_⟩
          · rw [Nat.add_assoc, Nat.add_comm 1]
            exact failed
          · rw [Nat.add_assoc, Nat.add_comm 1]
            exact before earlier.succ (Nat.succ_lt_succ less)

end Parameters

/-- **Parameters are read from left to right, and accepted where they can be read.**  At every
frame and every offset, a list of parameters is accepted exactly when it can be read.  When it is
read, each component is what the argument at its place is decoded as, or absent if that argument is
missing; and when it fails, it fails as the first parameter that cannot be read: a required one
whose argument is missing is out of bounds, and any other one fails with what went wrong when its
slot was decoded. -/
theorem parameters_read_leftToRight (frame : Frame H) (types : List SlotType) (offset : Nat) :
    (Parameters.accepts frame types offset = true ↔
      ∃ values, Parameters.extract frame types offset = .ok values) ∧
    (∀ values, Parameters.extract frame types offset = .ok values ↔
      ∀ place : Fin types.length, frame.Reading (offset + place) (types.get place)
        (.ok (Parameters.get types values place))) ∧
    ∀ error, Parameters.extract frame types offset = .error error ↔
      ∃ place : Fin types.length,
        frame.Reading (offset + place) (types.get place) (.error error) ∧
          ∀ earlier < place, ∃ value,
            frame.Reading (offset + earlier) (types.get earlier) (.ok value) := by
  refine ⟨?_, fun values => ?_, fun error => ?_⟩
  · rw [Parameters.accepts_eq_isOk]
    cases Parameters.extract frame types offset <;> simp [Except.isOk, Except.toBool]
  · simp only [Frame.reading_iff]
    exact Parameters.extract_eq_ok_iff
  · simp only [Frame.reading_iff]
    exact Parameters.extract_eq_error_iff

namespace Sample

/-- Given a number and a text, a list of a number, an optional number and another number fails on
the text, though the last of the three has no argument at all. -/
theorem optionalNumber_refused :
    Parameters.extract (Frame.enter (#[.int 5, .text "a"] : Array (Slot host)) 0 {} {})
        [.int64, .option .int64, .int64] 0 =
      .error (.conversion (.typeMismatch "int64" "string")) := by
  obtain ⟨-, -, fails⟩ := parameters_read_leftToRight
    (Frame.enter (#[.int 5, .text "a"] : Array (Slot host)) 0 {} {})
    [.int64, .option .int64, .int64] 0
  refine (fails _).mpr ⟨⟨1, by decide⟩, .refused rfl rfl, ?_⟩
  rintro ⟨_ | earlier, inside⟩ less
  · exact ⟨(5 : Int64), .decoded rfl rfl⟩
  · exact absurd (Nat.lt_of_succ_lt_succ less) (Nat.not_lt_zero earlier)

end Sample

end HostCall
