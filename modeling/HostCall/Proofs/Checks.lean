import HostCall.Proofs.Interface

/-!
# What is checked before a body runs

A call of a wrapped callable looks at several things before it runs a body: the
number of arguments, the receiver in argument 0, each parameter from left to right,
and whether a bound receiver can be reached and borrowed.  `Library.checks` lists
them for each block, in their order, and `Check.failure?` says what the failure of
one of them is.

The calls are written differently for each block, and all of them come to the same:
the first check that fails decides the failure, no body runs, and the scene stays as
it was; when none fails, the body is run once, on the receiver and the parameters
that were read (`call_eq_first_failure_or_body`).
-/

set_option autoImplicit false

namespace HostCall

variable {H : Host}

/-! ## Failures -/

/-- The failure of an outcome, if it failed. -/
def failureOf {α : Type} : Except CallError α → Option CallError
  | .error error => some error
  | .ok _ => none

theorem failureOf_eq_some_iff {α : Type} {outcome : Except CallError α} {error : CallError} :
    failureOf outcome = some error ↔ outcome = .error error := by
  cases outcome <;> simp [failureOf]

theorem failureOf_map {α β : Type} (change : α → β) (outcome : Except CallError α) :
    failureOf (outcome.map change) = failureOf outcome := by
  cases outcome <;> rfl

/-! ## Single checks -/

/-- The value of a bound receiver that is still there. -/
def World.reached? (world : World H) (receiver : FixedReceiver) (type : H.Receiver) :
    Option (H.Value type) :=
  (world.target? receiver).bind fun cell => (world.content? cell).bind (·.as? type)

/-- The uses of a bound receiver leave room for one more. -/
def World.grants (world : World H) (receiver : FixedReceiver) (access : Access) : Bool :=
  ((world.target? receiver).bind (world.lock? · access)).isSome

/-- One thing that a call looks at before a body runs. -/
inductive Check (H : Host)
  /-- The policy lets a callable of this range take the number of arguments. -/
  | count (declared : Arity)
  /-- The number of arguments is one that reads or writes a field. -/
  | accessorCount (counts : List Nat)
  /-- Argument 0 is a receiver of the type. -/
  | receiver (type : H.Receiver)
  /-- An argument can be read as the type, or may be missing. -/
  | parameter (type : SlotType) (index : Nat)
  /-- A bound receiver is still there. -/
  | reachable (receiver : FixedReceiver) (type : H.Receiver)
  /-- A bound receiver can be used now. -/
  | borrowable (receiver : FixedReceiver) (type : H.Receiver) (access : Access)

/-- Why a check fails at a scene, if it does. -/
def Check.failure? (scene : Scene H) : Check H → Option CallError
  | count declared =>
      if scene.frame.takesCount declared then none
      else some (.wrongCount declared scene.frame.argumentCount)
  | accessorCount counts =>
      if scene.frame.argumentCount ∈ counts then none
      else some (.noCandidate ⟨scene.frame.argumentCount, counts.map .exact, []⟩)
  | receiver type => failureOf (scene.frame.receiver type)
  | parameter type index =>
      match scene.frame.argument? index with
      | some slot =>
          match type.decode slot with
          | .error cause => some (.conversion cause)
          | .ok _ => none
      | none =>
          if type.isOptional then none
          else some (.noArgument index scene.frame.argumentCount)
  | reachable bound type =>
      if (scene.world.reached? bound type).isSome then none
      else some (.danglingReceiver (H.receiverName type))
  | borrowable bound type access =>
      if scene.world.grants bound access then none
      else some (.receiverBorrowed (H.receiverName type))

/-- The failure of the first check that fails. -/
def firstFailure (scene : Scene H) (checks : List (Check H)) : Option CallError :=
  checks.findSome? (Check.failure? scene)

@[simp] theorem firstFailure_nil (scene : Scene H) : firstFailure scene [] = none := rfl

@[simp] theorem firstFailure_cons (scene : Scene H) (check : Check H) (checks : List (Check H)) :
    firstFailure scene (check :: checks) =
      (check.failure? scene).or (firstFailure scene checks) := by
  rw [firstFailure, List.findSome?_cons]
  cases check.failure? scene <;> rfl

@[simp] theorem firstFailure_append (scene : Scene H) (earlier later : List (Check H)) :
    firstFailure scene (earlier ++ later) =
      (firstFailure scene earlier).or (firstFailure scene later) :=
  List.findSome?_append

/-- The checks of parameters that are read from the offset on. -/
def parameterChecks (H : Host) : List SlotType → (offset : Nat) → List (Check H)
  | [], _ => []
  | type :: types, offset => .parameter type offset :: parameterChecks H types (offset + 1)

/-- The checks of a bound receiver. -/
def receiverChecks (receiver : FixedReceiver) (type : H.Receiver) (access : Access) :
    List (Check H) :=
  [.reachable receiver type, .borrowable receiver type access]

/-! ## What the checks stand for -/

theorem failureOf_checkCount (scene : Scene H) (declared : Arity) :
    failureOf (scene.frame.checkCount declared) = (Check.count declared).failure? scene := by
  rw [Frame.checkCount, Check.failure?]
  split <;> rfl

theorem accessorCount_of_mem {scene : Scene H} {counts : List Nat}
    (listed : scene.frame.argumentCount ∈ counts) :
    (Check.accessorCount counts).failure? scene = none :=
  if_pos listed

theorem accessorCount_of_not_mem {scene : Scene H} {counts : List Nat}
    (unlisted : scene.frame.argumentCount ∉ counts) :
    (Check.accessorCount counts).failure? scene =
      some (.noCandidate ⟨scene.frame.argumentCount, counts.map .exact, []⟩) :=
  if_neg unlisted

/-- Reading an argument fails as its check does. -/
theorem failureOf_argument (scene : Scene H) (type : SlotType) (index : Nat) :
    failureOf (scene.frame.argument type index) =
      (Check.parameter type index).failure? scene := by
  rw [Check.failure?]
  cases there : scene.frame.argument? index with
  | some slot =>
      dsimp only
      rw [Frame.argument_of_some there]
      cases type.decode slot <;> rfl
  | none =>
      cases optional : type.isOptional with
      | false =>
          rw [Frame.argument_of_required there optional]
          rfl
      | true =>
          rw [Frame.argument_of_optional there optional]
          cases type with
          | option inner => rfl
          | _ => cases optional

/-- Reading parameters fails as the first of their checks that fails. -/
theorem failureOf_extract (scene : Scene H) (types : List SlotType) (offset : Nat) :
    failureOf (Parameters.extract scene.frame types offset) =
      firstFailure scene (parameterChecks H types offset) := by
  induction types generalizing offset with
  | nil => rfl
  | cons type types ih =>
      rw [Parameters.extract, parameterChecks, firstFailure_cons, ← failureOf_argument, ← ih]
      cases scene.frame.argument type offset with
      | error error => rfl
      | ok value => exact failureOf_map _ _

theorem failureOf_prepare (scene : Scene H) (declared : Arity) (types : List SlotType) :
    failureOf (scene.frame.prepare declared types) =
      firstFailure scene (.count declared :: parameterChecks H types 0) := by
  rw [Frame.prepare, firstFailure_cons, ← failureOf_checkCount, ← failureOf_extract]
  cases scene.frame.checkCount declared <;> rfl

theorem failureOf_prepareMember (scene : Scene H) (declared : Arity) (receiver : H.Receiver)
    (types : List SlotType) :
    failureOf (scene.frame.prepareMember declared receiver types) =
      firstFailure scene (.count declared :: .receiver receiver :: parameterChecks H types 1) := by
  rw [Frame.prepareMember, firstFailure_cons, firstFailure_cons, ← failureOf_checkCount,
    ← failureOf_extract, Check.failure?]
  cases scene.frame.checkCount declared with
  | error error => rfl
  | ok _ =>
      cases scene.frame.receiver receiver with
      | error error => rfl
      | ok value => exact failureOf_map _ _

/-- Borrowing a bound receiver fails as the first of its two checks that fails. -/
theorem failureOf_acquire (scene : Scene H) (receiver : FixedReceiver) (type : H.Receiver)
    (access : Access) :
    failureOf (scene.world.acquire receiver type access) =
      firstFailure scene (receiverChecks receiver type access) := by
  rw [receiverChecks, firstFailure_cons, firstFailure_cons, firstFailure_nil, Option.or_none,
    World.acquire]
  cases target : scene.world.target? receiver with
  | none => simp [Check.failure?, World.reached?, target, failureOf]
  | some cell =>
      cases content : (scene.world.content? cell).bind (·.as? type) with
      | none => simp [Check.failure?, World.reached?, target, content, failureOf]
      | some value =>
          cases locked : scene.world.lock? cell access <;>
            simp [Check.failure?, World.reached?, World.grants, target, content, locked, failureOf]

/-! ## Members that overwrite their receiver -/

/-- A member that was prepared has its receiver in argument 0 and its parameters behind. -/
theorem Frame.read_of_prepareMember {frame : Frame H} {declared : Arity} {receiver : H.Receiver}
    {types : List SlotType} {value : H.Value receiver} {parameters : Parameters H types}
    (prepared : frame.prepareMember declared receiver types = .ok (value, parameters)) :
    frame.receiver receiver = .ok value ∧ Parameters.extract frame types 1 = .ok parameters := by
  rw [prepareMember] at prepared
  split at prepared
  · cases prepared
  · split at prepared
    · cases prepared
    · rename_i found
      cases extracted : Parameters.extract frame types 1 with
      | error error => simp [extracted, Except.map] at prepared
      | ok read =>
          simp only [extracted, Except.map, Except.ok.injEq, Prod.mk.injEq] at prepared
          obtain ⟨rfl, rfl⟩ := prepared
          exact ⟨found, rfl⟩

/-- A receiver that the checks have read is found again to be overwritten. -/
theorem Method.call_eq_putReceiver (method : Method H) (handle : HostHandler H)
    (scene : Scene H) :
    method.call handle scene =
      match scene.frame.prepareMember ((Arity.ofParameters method.parameters).shift 1)
        method.receiver method.parameters with
      | .error error => some (.error error, scene)
      | .ok (value, parameters) =>
          match method.body with
          | .shared run =>
              ((run value parameters).run handle scene.world).map fun (content, world) =>
                scene.frame.deliver world method.result content
          | .exclusive run =>
              ((run value parameters).run handle scene.world).map fun ((content, value), world) =>
                (scene.frame.putReceiver method.receiver value).deliver world method.result
                  content := by
  rw [call]
  cases prepared : scene.frame.prepareMember ((Arity.ofParameters method.parameters).shift 1)
      method.receiver method.parameters with
  | error error => rfl
  | ok ready =>
      obtain ⟨value, parameters⟩ := ready
      obtain ⟨read, _⟩ := Frame.read_of_prepareMember prepared
      cases method.body with
      | shared run => rfl
      | exclusive run =>
          dsimp only
          rw [Frame.receiverMut_of_receiver read]

/-! ## Fields by the number of arguments -/

section FieldCalls

variable {field : Field H} {scene : Scene H}

theorem Field.call_of_one (one : scene.frame.argumentCount = 1) :
    field.call scene =
      match scene.frame.receiver field.receiver with
      | .error error => (.error error, scene)
      | .ok value =>
          scene.frame.deliver scene.world (.one (.value field.type)) (field.get value) := by
  rw [Field.call, one]
  rfl

theorem Field.call_of_two (two : scene.frame.argumentCount = 2) :
    field.call scene =
      match scene.frame.receiver field.receiver with
      | .error error => (.error error, scene)
      | .ok value =>
          match scene.frame.argument field.type 1 with
          | .error error => (.error error, scene)
          | .ok content =>
              (.ok 0, { scene with
                frame := scene.frame.putReceiver field.receiver (field.set content value) }) := by
  rw [Field.call, two]
  cases read : scene.frame.receiver field.receiver with
  | error error => rfl
  | ok value =>
      rw [Frame.receiverMut_of_receiver read]
      rfl

theorem Field.call_of_other (other : scene.frame.argumentCount ∉ [1, 2]) :
    field.call scene =
      (.error (.noCandidate ⟨scene.frame.argumentCount, [.exact 1, .exact 2], []⟩), scene) := by
  simp only [List.mem_cons, List.not_mem_nil, or_false, not_or] at other
  rw [Field.call]
  split
  · exact absurd ‹_› other.1
  · exact absurd ‹_› other.2
  · rfl

variable {receiver : FixedReceiver}

theorem Field.callBound_of_zero (zero : scene.frame.argumentCount = 0) :
    field.callBound receiver scene =
      match scene.world.acquire receiver field.receiver .shared with
      | .error error => (.error error, scene)
      | .ok (loan, world) =>
          scene.frame.deliver (world.release loan) (.one (.value field.type))
            (field.get loan.value) := by
  rw [Field.callBound, zero]
  rfl

theorem Field.callBound_of_one (one : scene.frame.argumentCount = 1) :
    field.callBound receiver scene =
      match scene.frame.argument field.type 0 with
      | .error error => (.error error, scene)
      | .ok content =>
          match scene.world.acquire receiver field.receiver .exclusive with
          | .error error => (.error error, scene)
          | .ok (loan, world) =>
              (.ok 0, { scene with
                world := world.releaseWith loan (field.set content loan.value) }) := by
  rw [Field.callBound, one]
  rfl

theorem Field.callBound_of_other (other : scene.frame.argumentCount ∉ [0, 1]) :
    field.callBound receiver scene =
      (.error (.noCandidate ⟨scene.frame.argumentCount, [.exact 0, .exact 1], []⟩), scene) := by
  simp only [List.mem_cons, List.not_mem_nil, or_false, not_or] at other
  rw [Field.callBound]
  split
  · exact absurd ‹_› other.1
  · exact absurd ‹_› other.2
  · rfl

end FieldCalls

namespace Library

/-! ## The checks of a block -/

/-- What a call of the block asks of its arguments, in order.  A field asks for a value
only where it is written. -/
def argumentChecks (library : Library H) (count : Nat) : Block H.toVocabulary → List (Check H)
  | .function name =>
      let parameters := (library.function name).parameters
      .count (.ofParameters parameters) :: parameterChecks H parameters 0
  | .method name =>
      let parameters := (library.method name).parameters
      .count ((Arity.ofParameters parameters).shift 1) ::
        .receiver (library.method name).receiver :: parameterChecks H parameters 1
  | .boundMethod name _ =>
      let parameters := (library.method name).parameters
      .count (.ofParameters parameters) :: parameterChecks H parameters 0
  | .field name =>
      .accessorCount [1, 2] :: .receiver (library.field name).receiver ::
        if count = 2 then [.parameter (library.field name).type 1] else []
  | .boundField name _ =>
      .accessorCount [0, 1] ::
        if count = 1 then [.parameter (library.field name).type 0] else []
  | .construct name =>
      let parameters := (library.constructor name).parameters
      .count (.ofParameters parameters) :: parameterChecks H parameters 0
  | .custom _ _ => []

/-- What a call of the block asks of its bound receiver, after its arguments.  A field is
borrowed to be written when it is given a value. -/
def boundChecks (library : Library H) (count : Nat) : Block H.toVocabulary → List (Check H)
  | .boundMethod name receiver =>
      receiverChecks receiver (library.method name).receiver (library.method name).access
  | .boundField name receiver =>
      receiverChecks receiver (library.field name).receiver
        (if count = 1 then .exclusive else .shared)
  | _ => []

/-- All that a call of the block checks before a body runs, in order. -/
def checks (library : Library H) (count : Nat) (block : Block H.toVocabulary) : List (Check H) :=
  library.argumentChecks count block ++ library.boundChecks count block

theorem SameInterface.checks_eq {left right : Library H} (same : SameInterface left right)
    (count : Nat) (block : Block H.toVocabulary) :
    left.checks count block = right.checks count block := by
  cases block <;>
    simp only [checks, argumentChecks, boundChecks, same.functionParameters,
      same.methodReceiver, same.methodParameters, same.methodAccess, same.fieldReceiver,
      same.fieldType, same.constructorParameters]

/-! ## The body of a block -/

/-- The outcome is that of one run of the block's body, on a receiver and parameters that
were read from the frame, with the receiver borrowed meanwhile if it is bound. -/
def RunsBody (library : Library H) (invoke : Invoker H) (scene : Scene H)
    (outcome : Option (Except CallError Nat × Scene H)) : Block H.toVocabulary → Prop
  | .function name =>
      ∃ parameters,
        Parameters.extract scene.frame (library.function name).parameters 0 = .ok parameters ∧
        outcome = (((library.function name).run parameters).run
            (HostOperation.run library invoke) scene.world).map fun (content, world) =>
          scene.frame.deliver world (library.function name).result content
  | .method name =>
      ∃ value parameters,
        scene.frame.receiver (library.method name).receiver = .ok value ∧
        Parameters.extract scene.frame (library.method name).parameters 1 = .ok parameters ∧
        match (library.method name).body with
        | .shared run =>
            outcome = ((run value parameters).run (HostOperation.run library invoke)
                scene.world).map fun (content, world) =>
              scene.frame.deliver world (library.method name).result content
        | .exclusive run =>
            outcome = ((run value parameters).run (HostOperation.run library invoke)
                scene.world).map fun ((content, changed), world) =>
              (scene.frame.putReceiver (library.method name).receiver changed).deliver world
                (library.method name).result content
  | .boundMethod name receiver =>
      ∃ parameters loan borrowed,
        Parameters.extract scene.frame (library.method name).parameters 0 = .ok parameters ∧
        scene.world.acquire receiver (library.method name).receiver
          (library.method name).access = .ok (loan, borrowed) ∧
        match (library.method name).body with
        | .shared run =>
            outcome = ((run loan.value parameters).run (HostOperation.run library invoke)
                borrowed).map fun (content, world) =>
              scene.frame.deliver (world.release loan) (library.method name).result content
        | .exclusive run =>
            outcome = ((run loan.value parameters).run (HostOperation.run library invoke)
                borrowed).map fun ((content, changed), world) =>
              scene.frame.deliver (world.releaseWith loan changed)
                (library.method name).result content
  | .field name =>
      let field := library.field name
      ∃ value, scene.frame.receiver field.receiver = .ok value ∧
        ((scene.frame.argumentCount = 1 ∧
            outcome = some (scene.frame.deliver scene.world (.one (.value field.type))
              (field.get value))) ∨
          (scene.frame.argumentCount = 2 ∧
            ∃ content, scene.frame.argument field.type 1 = .ok content ∧
              outcome = some (.ok 0, { scene with
                frame := scene.frame.putReceiver field.receiver (field.set content value) })))
  | .boundField name receiver =>
      let field := library.field name
      (scene.frame.argumentCount = 0 ∧
          ∃ loan borrowed,
            scene.world.acquire receiver field.receiver .shared = .ok (loan, borrowed) ∧
            outcome = some (scene.frame.deliver (borrowed.release loan)
              (.one (.value field.type)) (field.get loan.value))) ∨
        (scene.frame.argumentCount = 1 ∧
          ∃ content loan borrowed,
            scene.frame.argument field.type 0 = .ok content ∧
            scene.world.acquire receiver field.receiver .exclusive = .ok (loan, borrowed) ∧
            outcome = some (.ok 0, { scene with
              world := borrowed.releaseWith loan (field.set content loan.value) }))
  | .construct name =>
      ∃ parameters,
        Parameters.extract scene.frame (library.constructor name).parameters 0 =
          .ok parameters ∧
        outcome = (((library.constructor name).run parameters).run
            (HostOperation.run library invoke) scene.world).map fun (value, world) =>
          let (heap, issued) := scene.frame.heap.allocate
            ⟨(library.constructor name).receiver, value⟩
          { scene.frame with heap }.deliver world (.one (.value .object)) issued
  | .custom _ name =>
      outcome = (library.custom name).run.run (FrameOperation.run library invoke) scene

/-! ## The first failure decides -/

/-- Parameters that were prepared were read from the first argument on. -/
theorem extract_of_prepare {frame : Frame H} {declared : Arity} {types : List SlotType}
    {parameters : Parameters H types} (prepared : frame.prepare declared types = .ok parameters) :
    Parameters.extract frame types 0 = .ok parameters := by
  rw [Frame.prepare] at prepared
  split at prepared
  · cases prepared
  · exact prepared

/-- The call of a block ends with the first failure of its checks, the scene untouched, or
comes to one run of its body. -/
def Checked (library : Library H) (invoke : Invoker H) (scene : Scene H)
    (block : Block H.toVocabulary) : Prop :=
  match firstFailure scene (library.checks scene.frame.argumentCount block) with
  | some error => library.callBlock invoke block scene = some (.error error, scene)
  | none => library.RunsBody invoke scene (library.callBlock invoke block scene) block

section Blocks

variable (library : Library H) (invoke : Invoker H) (scene : Scene H)

theorem checked_function (name : H.Function) : library.Checked invoke scene (.function name) := by
  have reading := failureOf_prepare scene (.ofParameters (library.function name).parameters)
    (library.function name).parameters
  simp only [Checked, checks, argumentChecks, boundChecks, List.append_nil, ← reading]
  rw [callBlock, FreeFunction.call]
  cases prepared : scene.frame.prepare (.ofParameters (library.function name).parameters)
      (library.function name).parameters with
  | error error => rfl
  | ok parameters => exact ⟨parameters, extract_of_prepare prepared, rfl⟩

theorem checked_construct (name : H.Constructor) :
    library.Checked invoke scene (.construct name) := by
  have reading := failureOf_prepare scene (.ofParameters (library.constructor name).parameters)
    (library.constructor name).parameters
  simp only [Checked, checks, argumentChecks, boundChecks, List.append_nil, ← reading]
  rw [callBlock, Constructor.call]
  cases prepared : scene.frame.prepare (.ofParameters (library.constructor name).parameters)
      (library.constructor name).parameters with
  | error error => rfl
  | ok parameters => exact ⟨parameters, extract_of_prepare prepared, rfl⟩

theorem checked_method (name : H.Method) : library.Checked invoke scene (.method name) := by
  have reading := failureOf_prepareMember scene
    ((Arity.ofParameters (library.method name).parameters).shift 1)
    (library.method name).receiver (library.method name).parameters
  simp only [Checked, checks, argumentChecks, boundChecks, List.append_nil, ← reading]
  rw [callBlock, Method.call_eq_putReceiver]
  cases prepared : scene.frame.prepareMember
      ((Arity.ofParameters (library.method name).parameters).shift 1)
      (library.method name).receiver (library.method name).parameters with
  | error error => rfl
  | ok read =>
      obtain ⟨value, parameters⟩ := read
      obtain ⟨found, extracted⟩ := Frame.read_of_prepareMember prepared
      refine ⟨value, parameters, found, extracted, ?_⟩
      cases (library.method name).body <;> rfl

theorem checked_boundMethod (name : H.Method) (receiver : FixedReceiver) :
    library.Checked invoke scene (.boundMethod name receiver) := by
  have reading := failureOf_prepare scene (.ofParameters (library.method name).parameters)
    (library.method name).parameters
  have borrowing := failureOf_acquire scene receiver (library.method name).receiver
    (library.method name).access
  simp only [Checked, checks, argumentChecks, boundChecks, firstFailure_append, ← reading,
    ← borrowing]
  rw [callBlock, Method.callBound]
  cases prepared : scene.frame.prepare (.ofParameters (library.method name).parameters)
      (library.method name).parameters with
  | error error => rfl
  | ok parameters =>
      cases acquired : scene.world.acquire receiver (library.method name).receiver
          (library.method name).access with
      | error error => rfl
      | ok loaned =>
          obtain ⟨loan, borrowed⟩ := loaned
          refine ⟨parameters, loan, borrowed, extract_of_prepare prepared, acquired, ?_⟩
          cases (library.method name).body <;> rfl

theorem checked_field (name : H.Field) : library.Checked invoke scene (.field name) := by
  simp only [Checked, checks, argumentChecks, boundChecks, List.append_nil, firstFailure_cons,
    callBlock]
  by_cases listed : scene.frame.argumentCount ∈ [1, 2]
  · have reading : (Check.receiver (library.field name).receiver).failure? scene =
        failureOf (scene.frame.receiver (library.field name).receiver) := rfl
    rw [accessorCount_of_mem listed, Option.none_or, reading]
    simp only [List.mem_cons, List.not_mem_nil, or_false] at listed
    rcases listed with one | two
    · rw [Field.call_of_one one, one]
      cases found : scene.frame.receiver (library.field name).receiver with
      | error error => rfl
      | ok value => exact ⟨value, found, .inl ⟨one, rfl⟩⟩
    · rw [Field.call_of_two two, two, if_pos rfl, firstFailure_cons, firstFailure_nil,
        Option.or_none, ← failureOf_argument]
      cases found : scene.frame.receiver (library.field name).receiver with
      | error error => rfl
      | ok value =>
          cases read : scene.frame.argument (library.field name).type 1 with
          | error error => rfl
          | ok content => exact ⟨value, found, .inr ⟨two, content, read, rfl⟩⟩
  · rw [accessorCount_of_not_mem listed, Option.some_or, Field.call_of_other listed]
    rfl

theorem checked_boundField (name : H.Field) (receiver : FixedReceiver) :
    library.Checked invoke scene (.boundField name receiver) := by
  simp only [Checked, checks, argumentChecks, boundChecks, firstFailure_append,
    firstFailure_cons, ← failureOf_acquire, callBlock]
  by_cases listed : scene.frame.argumentCount ∈ [0, 1]
  · rw [accessorCount_of_mem listed, Option.none_or]
    simp only [List.mem_cons, List.not_mem_nil, or_false] at listed
    rcases listed with zero | one
    · rw [Field.callBound_of_zero zero, zero, if_neg Nat.zero_ne_one, if_neg Nat.zero_ne_one,
        firstFailure_nil, Option.none_or]
      cases acquired : scene.world.acquire receiver (library.field name).receiver .shared with
      | error error => rfl
      | ok loaned =>
          obtain ⟨loan, borrowed⟩ := loaned
          exact .inl ⟨zero, loan, borrowed, acquired, rfl⟩
    · rw [Field.callBound_of_one one, one, if_pos rfl, if_pos rfl, firstFailure_cons,
        firstFailure_nil, Option.or_none, ← failureOf_argument]
      cases read : scene.frame.argument (library.field name).type 0 with
      | error error => rfl
      | ok content =>
          cases acquired : scene.world.acquire receiver (library.field name).receiver
              .exclusive with
          | error error => rfl
          | ok loaned =>
              obtain ⟨loan, borrowed⟩ := loaned
              exact .inr ⟨one, content, loan, borrowed, read, acquired, rfl⟩
  · rw [accessorCount_of_not_mem listed, Option.some_or, Option.some_or,
      Field.callBound_of_other listed]
    rfl

/-- Every block is checked: one case for each way in which a call is written. -/
theorem checked_block (block : Block H.toVocabulary) : library.Checked invoke scene block := by
  cases block with
  | function name => exact checked_function library invoke scene name
  | method name => exact checked_method library invoke scene name
  | boundMethod name receiver => exact checked_boundMethod library invoke scene name receiver
  | field name => exact checked_field library invoke scene name
  | boundField name receiver => exact checked_boundField library invoke scene name receiver
  | construct name => exact checked_construct library invoke scene name
  | custom label name =>
      simp only [Checked, checks, argumentChecks, boundChecks, List.append_nil, firstFailure_nil,
        callBlock, RunsBody]

end Blocks

/-- A closure whose checks do not all pass fails before any body runs. -/
theorem failsBeforeBody_closure {library : Library H} {scene : Scene H}
    {block : Block H.toVocabulary} {error : CallError}
    (failed : firstFailure scene (library.checks scene.frame.argumentCount block) = some error)
    (id : ClosureId) : library.FailsBeforeBody (.closure id block) scene error := by
  intro other same invoke
  have checked := checked_block other invoke scene block
  rw [Checked, ← same.checks_eq, failed] at checked
  rw [callWith, checked]

/-- So does one whose arguments do not pass, since they are checked first. -/
theorem failsBeforeBody_of_argumentChecks {library : Library H} {scene : Scene H}
    {block : Block H.toVocabulary} {error : CallError}
    (failed : firstFailure scene (library.argumentChecks scene.frame.argumentCount block) =
      some error) (id : ClosureId) : library.FailsBeforeBody (.closure id block) scene error := by
  refine failsBeforeBody_closure ?_ id
  rw [checks, firstFailure_append, failed, Option.some_or]

/-- A closure whose checks all pass runs its body. -/
theorem runsBody_closure {library : Library H} {scene : Scene H}
    {block : Block H.toVocabulary}
    (passed : firstFailure scene (library.checks scene.frame.argumentCount block) = none)
    (id : ClosureId) (invoke : Invoker H) :
    library.RunsBody invoke scene (library.callWith invoke (.closure id block) scene) block := by
  have checked := checked_block library invoke scene block
  rw [Checked, passed] at checked
  rw [callWith]
  exact checked

/-- **Checks come first, in order, and leave no trace.**  If a check of the block fails, the
call fails with the failure of the first such check, no body runs, and the frame, the heap,
the bound receivers and the shared cells stay as they were.  If none fails, the call is one
run of the body on what was read. -/
theorem call_eq_first_failure_or_body (library : Library H) (id : ClosureId)
    (block : Block H.toVocabulary) (scene : Scene H) :
    match firstFailure scene (library.checks scene.frame.argumentCount block) with
    | some error => library.FailsBeforeBody (.closure id block) scene error
    | none => ∀ invoke : Invoker H,
        library.RunsBody invoke scene (library.callWith invoke (.closure id block) scene)
          block := by
  cases decided : firstFailure scene (library.checks scene.frame.argumentCount block) with
  | some error => exact failsBeforeBody_closure decided id
  | none => exact runsBody_closure decided id

end Library

end HostCall
