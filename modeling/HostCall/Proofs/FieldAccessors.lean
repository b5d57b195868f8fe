import HostCall.Proofs.Filter

/-!
# A property made of a field's accessors

A field is one callable that reads or writes by the number of its arguments.  A property
in front of the method that reads the field and the method that writes it offers the same
calls: the router of the property picks the half by the number of arguments, and the half
does what the field does with that number (`Library.Halves`).

So the two agree in every call that succeeds and in every failure that comes after the
arguments have passed.  They differ in one place: when types are checked, bad arguments
never reach a half, so the property reports that no candidate took them where the field
reports what was wrong with them.  Nothing is asked of the way the field is read and
written, since both go through the same two functions.
-/

set_option autoImplicit false

namespace HostCall

variable {H : Host}

/-! ## The accessor methods are the halves of the field -/

theorem Frame.checkCount_of_admits {frame : Frame H} {declared : Arity}
    (admitted : declared.admits frame.argumentCount = true) : frame.checkCount declared = .ok () :=
  if_pos (Frame.takesCount_of_admits admitted)

/-- A parameter that cannot be left out takes exactly one argument. -/
theorem Arity.ofParameters_singleton {type : SlotType} (required : type.isOptional = false) :
    Arity.ofParameters [type] = .exact 1 := by
  simp [Arity.ofParameters, required, Arity.range, Arity.exact]

/-- One parameter takes one argument, whether or not it can be left out. -/
theorem Arity.admits_ofParameters_singleton (type : SlotType) :
    (Arity.ofParameters [type]).admits 1 = true := by
  cases optional : type.isOptional <;>
    simp [Arity.ofParameters, optional, Arity.range, Arity.admits]

section AccessorCalls

variable {field : Field H} {scene : Scene H} (handle : HostHandler H)

/-- With the receiver alone, the reading method does what the field does. -/
theorem Field.call_reader (one : scene.frame.argumentCount = 1) :
    field.reader.call handle scene = some (field.call scene) := by
  have counted : scene.frame.checkCount ((Arity.ofParameters []).shift 1) = .ok () :=
    Frame.checkCount_of_admits (by rw [one]; rfl)
  simp only [Method.call_eq_putReceiver, Field.reader, Frame.prepareMember, counted,
    Field.call_of_one one]
  cases scene.frame.receiver field.receiver with
  | error error => rfl
  | ok value => rfl

/-- With a value behind the receiver, the writing method does what the field does. -/
theorem Field.call_writer (two : scene.frame.argumentCount = 2) :
    field.writer.call handle scene = some (field.call scene) := by
  have counted : scene.frame.checkCount ((Arity.ofParameters [field.type]).shift 1) = .ok () := by
    refine Frame.checkCount_of_admits ((Arity.admits_shift _ _ _).mpr ?_)
    rw [two]
    exact ⟨by decide, Arity.admits_ofParameters_singleton field.type⟩
  simp only [Method.call_eq_putReceiver, Field.writer, Frame.prepareMember, counted,
    Field.call_of_two two, Parameters.extract]
  cases scene.frame.receiver field.receiver with
  | error error => rfl
  | ok value =>
      cases scene.frame.argument field.type 1 with
      | error error => rfl
      | ok content => rfl

variable {receiver : FixedReceiver}

/-- Without arguments, the bound reading method does what the bound field does. -/
theorem Field.callBound_reader (zero : scene.frame.argumentCount = 0) :
    field.reader.callBound receiver handle scene = some (field.callBound receiver scene) := by
  have counted : scene.frame.checkCount (.ofParameters []) = .ok () :=
    Frame.checkCount_of_admits (by rw [zero]; rfl)
  simp only [Method.callBound, Field.reader, Method.access, Frame.prepare, counted,
    Field.callBound_of_zero zero, Parameters.extract]
  cases scene.world.acquire receiver field.receiver .shared with
  | error error => rfl
  | ok loaned => rfl

/-- With a value, the bound writing method does what the bound field does. -/
theorem Field.callBound_writer (one : scene.frame.argumentCount = 1) :
    field.writer.callBound receiver handle scene = some (field.callBound receiver scene) := by
  have counted : scene.frame.checkCount (.ofParameters [field.type]) = .ok () :=
    Frame.checkCount_of_admits (by rw [one]; exact Arity.admits_ofParameters_singleton field.type)
  simp only [Method.callBound, Field.writer, Method.access, Frame.prepare, counted,
    Field.callBound_of_one one, Parameters.extract]
  cases scene.frame.argument field.type 0 with
  | error error => rfl
  | ok content =>
      cases scene.world.acquire receiver field.receiver .exclusive with
      | error error => rfl
      | ok loaned => rfl

end AccessorCalls

namespace Library

variable {library : Library H}

/-! ## A router in front of two -/

section Pairs

variable {frame : Frame H} {read write : Callback H.toVocabulary} {fewer more : Nat}

/-- The walk over two candidates with a number of arguments each. -/
theorem select_pair (apart : fewer ≠ more) (readArity : library.arity read = .exact fewer)
    (writeArity : library.arity write = .exact more) :
    library.select frame [read, write] =
      let count := frame.argumentCount
      let refused rejected :=
        Except.error (Mismatch.mk count [.exact fewer, .exact more] rejected)
      if count = fewer then
        if frame.policy.checksTypes && !library.accepts frame read then refused [0] else .ok 0
      else if count = more then
        if frame.policy.checksTypes && !library.accepts frame write then refused [1] else .ok 1
      else refused [] := by
  simp only [select, scan, List.map_cons, List.map_nil, readArity, writeArity,
    Arity.admits_exact, List.nil_append]
  by_cases isFewer : frame.argumentCount = fewer
  · have notMore : frame.argumentCount ≠ more := isFewer ▸ apart
    simp only [if_pos isFewer, if_neg notMore]
    cases frame.policy.checksTypes && !library.accepts frame read <;> rfl
  · by_cases isMore : frame.argumentCount = more
    · simp only [if_neg isFewer, if_pos isMore]
      cases frame.policy.checksTypes && !library.accepts frame write <;> rfl
    · simp only [if_neg isFewer, if_neg isMore]
      rfl

end Pairs

/-! ## Halves of a block -/

/-- With `fewer` arguments the block does what one block does, with `more` what another
does, and it takes no other number of arguments. -/
structure Halves (library : Library H) (fewer more : Nat)
    (whole read write : Block H.toVocabulary) : Prop where
  apart : fewer ≠ more
  wrapped : whole.isWrapped = true
  counted : library.countCheck whole = .accessorCount [fewer, more]
  readArity : library.blockArity read = .exact fewer
  writeArity : library.blockArity write = .exact more
  readAccepts : ∀ frame : Frame H, frame.argumentCount = fewer →
    library.blockAccepts frame read = library.blockAccepts frame whole
  writeAccepts : ∀ frame : Frame H, frame.argumentCount = more →
    library.blockAccepts frame write = library.blockAccepts frame whole
  readCall : ∀ (invoke : Invoker H) (scene : Scene H), scene.frame.argumentCount = fewer →
    library.callBlock invoke read scene = library.callBlock invoke whole scene
  writeCall : ∀ (invoke : Invoker H) (scene : Scene H), scene.frame.argumentCount = more →
    library.callBlock invoke write scene = library.callBlock invoke whole scene
  otherCall : ∀ (invoke : Invoker H) (scene : Scene H),
    scene.frame.argumentCount ∉ [fewer, more] → library.callBlock invoke whole scene =
      some (.error (.noCandidate
        ⟨scene.frame.argumentCount, [.exact fewer, .exact more], []⟩), scene)

/-- The reading and the writing method of a field are its halves. -/
theorem halves_field {reader writer : H.Method} {name : H.Field}
    (reads : library.method reader = (library.field name).reader)
    (writes : library.method writer = (library.field name).writer)
    (required : (library.field name).type.isOptional = false) :
    library.Halves 1 2 (.field name) (.method reader) (.method writer) where
  apart := by decide
  wrapped := rfl
  counted := rfl
  readArity := by
    rw [blockArity, reads]
    rfl
  writeArity := by
    rw [blockArity, writes, Field.writer, Arity.ofParameters_singleton required]
    rfl
  readAccepts frame one := by
    simp only [blockAccepts, reads, one]
    exact Bool.and_true _
  writeAccepts frame two := by
    simp only [blockAccepts, writes, two]
    exact congrArg (_ && ·) (Bool.and_true _)
  readCall invoke scene one := by
    simp only [callBlock, reads, Field.call_reader _ one]
  writeCall invoke scene two := by
    simp only [callBlock, writes, Field.call_writer _ two]
  otherCall invoke scene other := congrArg some (Field.call_of_other other)

/-- The reading and the writing method on a bound receiver are the halves of the field of
that receiver. -/
theorem halves_boundField {reader writer : H.Method} {name : H.Field}
    (reads : library.method reader = (library.field name).reader)
    (writes : library.method writer = (library.field name).writer)
    (required : (library.field name).type.isOptional = false) (receiver : FixedReceiver) :
    library.Halves 0 1 (.boundField name receiver) (.boundMethod reader receiver)
      (.boundMethod writer receiver) where
  apart := by decide
  wrapped := rfl
  counted := rfl
  readArity := by
    rw [blockArity, reads]
    rfl
  writeArity := by
    rw [blockArity, writes, Field.writer, Arity.ofParameters_singleton required]
  readAccepts frame zero := by
    simp only [blockAccepts, reads, zero]
    rfl
  writeAccepts frame one := by
    simp only [blockAccepts, writes, one]
    exact Bool.and_true _
  readCall invoke scene zero := by
    simp only [callBlock, reads, Field.callBound_reader _ zero]
  writeCall invoke scene one := by
    simp only [callBlock, writes, Field.callBound_writer _ one]
  otherCall invoke scene other := congrArg some (Field.callBound_of_other other)

/-! ## A property presents a block -/

/-- At a scene, a property in front of two halves presents the same calls as a closure
around the whole. -/
structure Presents (library : Library H) (fewer more : Nat) (invoke : Invoker H)
    (scene : Scene H) (property whole : Callback H.toVocabulary)
    (argumentFailure : Option CallError) : Prop where
  /-- Where types are not checked, the calls are the same. -/
  unchecked : scene.frame.policy.checksTypes = false →
    library.callWith invoke property scene = library.callWith invoke whole scene
  /-- The calls succeed alike, with the same results and effects. -/
  succeeds : ∀ (count : Nat) (after : Scene H),
    library.callWith invoke property scene = some (.ok count, after) ↔
      library.callWith invoke whole scene = some (.ok count, after)
  /-- Both refuse another number of arguments in the same words. -/
  otherCount : scene.frame.argumentCount ∉ [fewer, more] →
    ∀ callback ∈ [property, whole], library.callWith invoke callback scene =
      some (.error (.noCandidate
        ⟨scene.frame.argumentCount, [.exact fewer, .exact more], []⟩), scene)
  /-- Where types are checked and the number of arguments is right, bad arguments make
  both fail and change nothing; the property names the half that the number picked. -/
  badArguments : scene.frame.policy.checksTypes = true →
    scene.frame.argumentCount ∈ [fewer, more] → ∀ error, argumentFailure = some error →
      library.callWith invoke whole scene = some (.error error, scene) ∧
      library.callWith invoke property scene =
        some (.error (.noCandidate ⟨scene.frame.argumentCount, [.exact fewer, .exact more],
          [if scene.frame.argumentCount = fewer then 0 else 1]⟩), scene)
  /-- Good arguments make the calls the same, whatever becomes of them. -/
  goodArguments : scene.frame.argumentCount ∈ [fewer, more] → argumentFailure = none →
    library.callWith invoke property scene = library.callWith invoke whole scene

section HalvesCalls

variable {fewer more : Nat} {whole read write : Block H.toVocabulary} {scene : Scene H}

/-- With a number of arguments that picks a half, the property refuses what the whole does
not accept, if types are checked, and otherwise does what the whole does. -/
theorem Halves.callWith_property (halves : library.Halves fewer more whole read write)
    (listed : scene.frame.argumentCount ∈ [fewer, more]) (invoke : Invoker H)
    (id readId writeId wholeId : ClosureId) (shape : Shape) (declared : Arity) :
    library.callWith invoke
        (.router id shape declared [.closure readId read, .closure writeId write]) scene =
      if scene.frame.policy.checksTypes && !library.blockAccepts scene.frame whole then
        some (.error (.noCandidate ⟨scene.frame.argumentCount, [.exact fewer, .exact more],
          [if scene.frame.argumentCount = fewer then 0 else 1]⟩), scene)
      else library.callWith invoke (.closure wholeId whole) scene := by
  have chosen :
      library.select scene.frame [.closure readId read, .closure writeId write] = _ :=
    select_pair halves.apart halves.readArity halves.writeArity
  simp only [accepts] at chosen
  simp only [List.mem_cons, List.not_mem_nil, or_false] at listed
  rcases listed with isFewer | isMore
  · simp only [if_pos isFewer, halves.readAccepts _ isFewer] at chosen ⊢
    split
    · rename_i refused
      rw [if_pos refused] at chosen
      exact callWith_router_of_mismatch chosen
    · rename_i kept
      rw [if_neg kept] at chosen
      rw [callWith_router_of_select chosen rfl, callWith, callWith,
        halves.readCall invoke scene isFewer]
  · have notFewer : scene.frame.argumentCount ≠ fewer := isMore ▸ halves.apart.symm
    simp only [if_neg notFewer, if_pos isMore, halves.writeAccepts _ isMore] at chosen ⊢
    split
    · rename_i refused
      rw [if_pos refused] at chosen
      exact callWith_router_of_mismatch chosen
    · rename_i kept
      rw [if_neg kept] at chosen
      rw [callWith_router_of_select chosen rfl, callWith, callWith,
        halves.writeCall invoke scene isMore]

/-- With another number of arguments, the property finds no candidate. -/
theorem Halves.callWith_property_of_other (halves : library.Halves fewer more whole read write)
    (unlisted : scene.frame.argumentCount ∉ [fewer, more]) (invoke : Invoker H)
    (id readId writeId : ClosureId) (shape : Shape) (declared : Arity) :
    library.callWith invoke
        (.router id shape declared [.closure readId read, .closure writeId write]) scene =
      some (.error (.noCandidate
        ⟨scene.frame.argumentCount, [.exact fewer, .exact more], []⟩), scene) := by
  have chosen :
      library.select scene.frame [.closure readId read, .closure writeId write] = _ :=
    select_pair halves.apart halves.readArity halves.writeArity
  simp only [List.mem_cons, List.not_mem_nil, or_false, not_or] at unlisted
  simp only [if_neg unlisted.1, if_neg unlisted.2] at chosen
  exact callWith_router_of_mismatch chosen

/-- The whole accepts the arguments exactly when their checks pass. -/
theorem Halves.accepts_iff (halves : library.Halves fewer more whole read write)
    (listed : scene.frame.argumentCount ∈ [fewer, more]) :
    firstFailure scene (library.argumentChecks scene.frame.argumentCount whole) = none ↔
      library.blockAccepts scene.frame whole = true := by
  rw [arguments_pass_iff halves.wrapped, halves.counted, accessorCount_of_mem listed]
  exact and_iff_right rfl

theorem Halves.presents (halves : library.Halves fewer more whole read write)
    (invoke : Invoker H) (scene : Scene H) (id readId writeId wholeId : ClosureId)
    (shape : Shape) (declared : Arity) :
    library.Presents fewer more invoke scene
      (.router id shape declared [.closure readId read, .closure writeId write])
      (.closure wholeId whole)
      (firstFailure scene (library.argumentChecks scene.frame.argumentCount whole)) := by
  have routed (listed : scene.frame.argumentCount ∈ [fewer, more]) :=
    halves.callWith_property listed invoke id readId writeId wholeId shape declared
  have routedOther (unlisted : scene.frame.argumentCount ∉ [fewer, more]) :=
    halves.callWith_property_of_other unlisted invoke id readId writeId shape declared
  have wholeOther (unlisted : scene.frame.argumentCount ∉ [fewer, more]) :
      library.callWith invoke (.closure wholeId whole) scene = some (.error (.noCandidate
        ⟨scene.frame.argumentCount, [.exact fewer, .exact more], []⟩), scene) := by
    rw [callWith, halves.otherCall invoke scene unlisted]
  have wholeFails {error : CallError} (failed : firstFailure scene
      (library.argumentChecks scene.frame.argumentCount whole) = some error) :=
    (failsBeforeBody_of_argumentChecks failed wholeId).callWith_eq invoke
  have refuses {error : CallError} (listed : scene.frame.argumentCount ∈ [fewer, more])
      (failed : firstFailure scene (library.argumentChecks scene.frame.argumentCount whole) =
        some error) : library.blockAccepts scene.frame whole = false := by
    rw [← Bool.not_eq_true, ← halves.accepts_iff listed, failed]
    exact Option.some_ne_none error
  have good (listed : scene.frame.argumentCount ∈ [fewer, more])
      (passed : firstFailure scene (library.argumentChecks scene.frame.argumentCount whole) =
        none) := by
    have same := routed listed
    rwa [(halves.accepts_iff listed).mp passed, Bool.not_true, Bool.and_false, if_neg Bool.false_ne_true]
      at same
  have bad (checked : scene.frame.policy.checksTypes = true)
      (listed : scene.frame.argumentCount ∈ [fewer, more]) {error : CallError}
      (failed : firstFailure scene (library.argumentChecks scene.frame.argumentCount whole) =
        some error) := by
    have refused := routed listed
    rwa [checked, refuses listed failed, Bool.not_false, Bool.and_true, if_pos rfl] at refused
  refine ⟨?_, ?_, ?_, ?_, good⟩
  · intro unchecked
    by_cases listed : scene.frame.argumentCount ∈ [fewer, more]
    · rw [routed listed, unchecked, Bool.false_and, if_neg Bool.false_ne_true]
    · rw [routedOther listed, wholeOther listed]
  · intro count after
    by_cases listed : scene.frame.argumentCount ∈ [fewer, more]
    · cases decided : firstFailure scene
          (library.argumentChecks scene.frame.argumentCount whole) with
      | none => rw [good listed decided]
      | some error =>
          rw [routed listed, wholeFails decided]
          split <;> simp
    · rw [routedOther listed, wholeOther listed]
  · intro unlisted callback member
    simp only [List.mem_cons, List.not_mem_nil, or_false] at member
    rcases member with rfl | rfl
    · exact routedOther unlisted
    · exact wholeOther unlisted
  · intro checked listed error failed
    exact ⟨wholeFails failed, bad checked listed failed⟩

end HalvesCalls

end Library

/-! ## Properties of methods -/

namespace Accessors

/-- The property of a method that reads and a method that writes. -/
def ofMethods (library : Library H) (reader writer : H.Method) :
    Building H (Except RegistrationError (Callback H.toVocabulary)) := do
  let read ← Callback.method reader
  let write ← Callback.method writer
  build library ⟨some read, some write⟩

/-- The property of a method that reads and a method that writes, both with their receiver
fixed now. -/
def ofMethodsBound (library : Library H) (reader writer : H.Method)
    (source : ReceiverSource H) :
    Building H (Except RegistrationError (Callback H.toVocabulary)) := do
  let read ← Callback.methodBound reader source
  let write ← Callback.methodBound writer source
  build library ⟨some read, some write⟩

end Accessors

/-- **A property presents the field it is made of.**  Let one method read a field and one
write it.  Their property is built, and on every frame it presents the same calls as the
field: one argument reads and two write.  So do the property of the two methods on a
receiver that is bound without a copy and the field of that receiver, where no argument
reads and one writes. -/
theorem property_presents_field (library : Library H) {reader writer : H.Method}
    {name : H.Field} (reads : library.method reader = (library.field name).reader)
    (writes : library.method writer = (library.field name).writer)
    (required : (library.field name).type.isOptional = false) (world elsewhere : World H) :
    (∃ property, (Accessors.ofMethods library reader writer world).1 = .ok property ∧
      ∀ (invoke : Invoker H) (scene : Scene H),
        library.Presents 1 2 invoke scene property (Callback.field name elsewhere).1
          (firstFailure scene
            (library.argumentChecks scene.frame.argumentCount (.field name)))) ∧
    ∀ (source : ReceiverSource H) (receiver : FixedReceiver), source.fixed? = some receiver →
      ∃ property, (Accessors.ofMethodsBound library reader writer source world).1 =
          .ok property ∧
        ∀ (invoke : Invoker H) (scene : Scene H),
          library.Presents 0 1 invoke scene property (Callback.fieldBound name source elsewhere).1
            (firstFailure scene
              (library.argumentChecks scene.frame.argumentCount (.boundField name receiver))) := by
  constructor
  · have halves := Library.halves_field reads writes required
    exact ⟨_, rfl, fun invoke scene => halves.presents invoke scene _ _ _ _ _ _⟩
  · intro source receiver fixed
    have halves := Library.halves_boundField reads writes required receiver
    simp only [Accessors.ofMethodsBound, Callback.methodBound_of_fixed? fixed,
      Callback.fieldBound_of_fixed? fixed]
    exact ⟨_, rfl, fun invoke scene => halves.presents invoke scene _ _ _ _ _ _⟩

namespace Sample

/-- A session where two methods do nothing but read and write the count of a counter. -/
def accessorLibrary : Library host :=
  { Session.library #[] with
    method := fun
      | .counterGet => FieldName.counterCount.meaning.reader
      | .counterSet => FieldName.counterCount.meaning.writer
      | other => other.meaning }

/-- A call with a counter and, for its count, a truth value. -/
def misusedCounter : Scene host :=
  ⟨.enter #[.native ⟨.counter, ⟨5⟩⟩, .bool true] 0 {} {}, { memory := {} }⟩

/-- Given a truth value for the count, the property refuses its writing half, and the field
says what is wrong with the value. -/
theorem property_presents_counterCount :
    accessorLibrary.method .counterGet = (accessorLibrary.field .counterCount).reader ∧
      accessorLibrary.method .counterSet = (accessorLibrary.field .counterCount).writer ∧
      (accessorLibrary.field .counterCount).type.isOptional = false ∧
      ∃ property, (Accessors.ofMethods accessorLibrary .counterGet .counterSet
          misusedCounter.world).1 = .ok property ∧
        accessorLibrary.callWith (fun _ _ => none) property misusedCounter =
          some (.error (.noCandidate ⟨2, [.exact 1, .exact 2], [1]⟩), misusedCounter) ∧
        accessorLibrary.callWith (fun _ _ => none) (.closure 0 (.field .counterCount))
            misusedCounter =
          some (.error (.conversion (.typeMismatch "int64" "bool")), misusedCounter) := by
  have reads : accessorLibrary.method .counterGet =
      (accessorLibrary.field .counterCount).reader := rfl
  have writes : accessorLibrary.method .counterSet =
      (accessorLibrary.field .counterCount).writer := rfl
  obtain ⟨⟨property, built, presents⟩, -⟩ := property_presents_field accessorLibrary reads writes
    rfl misusedCounter.world misusedCounter.world
  obtain ⟨whole, routed⟩ := (presents (fun _ _ => none) misusedCounter).badArguments rfl
    (by decide) (.conversion (.typeMismatch "int64" "bool")) rfl
  exact ⟨reads, writes, rfl, property, built, routed, whole⟩

end Sample

end HostCall
