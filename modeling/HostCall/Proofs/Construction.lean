import HostCall.Proofs.FailedConstruction
import HostCall.Proofs.LiveObjects
import Mathlib.Data.List.Forall2

/-!
# Constructions

A slot with a list of constructors chooses one of them (`Makers.chosen?`): the only one, or else
the first that takes the arguments.  If the call succeeds, its result is the handle of one new
object, and nothing else in the heap has changed (`Interpreter.construction_cases`).

The handle is new in the sense that it reached nothing before.  A place of the heap is used again
when its object has been freed, under another generation, and a generation comes round after 2³²
uses.  So over a whole history a handle may be issued twice, but not while the object is there that
it was issued for.  `Ledger` keeps the handles that were issued by constructions and not freed
since: over any history of constructions, frees and other deeds their keys are distinct, and each
of them is a receiver of its type (`Ledger.construction_fresh`).
-/

set_option autoImplicit false

namespace HostCall

variable {H : Host}

/-! ## Which constructor is chosen -/

/-- A constructor takes the number of the arguments on a frame and, if the policy asks for it,
their types. -/
def Library.constructs (library : Library H) (frame : Frame H) (name : H.Constructor) : Bool :=
  let parameters := (library.constructor name).parameters
  (Arity.ofParameters parameters).admits frame.argumentCount &&
    (!frame.policy.checksTypes || Parameters.accepts frame parameters 0)

namespace Makers

/-- The constructor that a list of them chooses: the only one, or else the first that takes the
arguments. -/
def chosen? (library : Library H) (frame : Frame H) : List H.Constructor → Option H.Constructor
  | [name] => some name
  | names => names.find? (library.constructs frame)

/-- It chooses one of its own. -/
theorem mem_of_chosen? {library : Library H} {frame : Frame H} {names : List H.Constructor}
    {name : H.Constructor} (chosen : chosen? library frame names = some name) : name ∈ names := by
  rcases names with _ | ⟨only, _ | ⟨second, rest⟩⟩
  · cases chosen
  · cases chosen
    exact List.mem_singleton_self name
  · exact List.mem_of_find?_eq_some chosen

/-- The callback is the closure of the constructor. -/
def IsClosureOf (name : H.Constructor) (callback : Callback H.toVocabulary) : Prop :=
  ∃ id, callback = .closure id (.construct name)

/-- Constructors are added to a list in order. -/
theorem isClosureOf_foldlM {earlier later : List H.Constructor} (list : Makers H)
    (each : List.Forall₂ IsClosureOf earlier list.candidates) (world : World H) :
    List.Forall₂ IsClosureOf (earlier ++ later)
      (later.foldlM Makers.push list world).1.candidates := by
  induction later generalizing earlier list world with
  | nil =>
      rw [List.append_nil]
      exact each
  | cons name later ih =>
      have first : List.Forall₂ IsClosureOf (earlier ++ [name])
          (list.push name world).1.candidates :=
        List.rel_append each (.cons ⟨_, rfl⟩ .nil)
      have added := ih (list.push name world).1 first (list.push name world).2
      rw [List.append_assoc] at added
      exact added

/-- The first candidate that a router takes is the closure of the first constructor that takes the
arguments. -/
theorem find?_of_isClosureOf (library : Library H) (frame : Frame H) {names : List H.Constructor}
    {candidates : List (Callback H.toVocabulary)}
    (each : List.Forall₂ IsClosureOf names candidates) :
    match names.find? (library.constructs frame) with
    | some name => ∃ id, candidates.find? (library.takes frame) =
        some (.closure id (.construct name))
    | none => candidates.find? (library.takes frame) = none := by
  induction each with
  | nil => rfl
  | @cons name candidate names candidates closure _ ih =>
      obtain ⟨id, rfl⟩ := closure
      have asked : library.takes frame (.closure id (.construct name)) =
          library.constructs frame name := by
        rw [Library.takes, Library.constructs, Library.arity, Library.blockArity,
          Library.accepts, Library.blockAccepts]
      rw [List.find?_cons, List.find?_cons, asked]
      cases library.constructs frame name with
      | true => exact ⟨id, rfl⟩
      | false => exact ih

section Built

variable {library : Library H} {receiver : H.Receiver} {names : List H.Constructor}
  {before built : World H} {callback : Callback H.toVocabulary}

/-- What a list of constructors builds: the closure of the only one, or a router in front of their
closures. -/
theorem buildFrom_cases
    (made : buildFrom library receiver names before = (.ok callback, built)) :
    (∃ name, names = [name] ∧ IsClosureOf name callback) ∨
      names.length ≠ 1 ∧ ∃ id shape declared candidates,
        callback = .router id shape declared candidates ∧
          List.Forall₂ IsClosureOf names candidates := by
  have each : List.Forall₂ IsClosureOf ([] ++ names)
      (names.foldlM push { receiver } before).1.candidates :=
    isClosureOf_foldlM { receiver } .nil before
  rw [List.nil_append] at each
  change ((names.foldlM push { receiver } before).1.build library _) = _ at made
  generalize (names.foldlM push { receiver } before).1 = list at made each
  obtain ⟨_, candidates⟩ := list
  rcases each with _ | @⟨name, first, _, _, closure, _ | ⟨again, rest⟩⟩
  · cases made
  · cases made
    exact .inl ⟨name, rfl, closure⟩
  · cases made
    refine .inr ⟨?_, _, _, _, _, rfl, .cons closure (.cons again rest)⟩
    simp

/-- A call of the list is a call of the closure of the constructor that it chooses, and fails
before any body runs if it chooses none. -/
theorem call_buildFrom
    (made : buildFrom library receiver names before = (.ok callback, built)) (scene : Scene H) :
    match chosen? library scene.frame names with
    | some name => ∃ id, ∀ depth, library.call depth callback scene =
        library.call depth (.closure id (.construct name)) scene
    | none => ∃ error, library.FailsBeforeBody callback scene error := by
  rcases buildFrom_cases made with
    ⟨name, rfl, id, rfl⟩ | ⟨several, id, shape, declared, candidates, rfl, each⟩
  · exact ⟨id, fun _ => rfl⟩
  · have chooses : chosen? library scene.frame names =
        names.find? (library.constructs scene.frame) := by
      rw [chosen?]
      rintro name rfl
      exact several rfl
    have first := find?_of_isClosureOf library scene.frame each
    rw [chooses]
    cases found : names.find? (library.constructs scene.frame) with
    | some name =>
        rw [found] at first
        obtain ⟨leaf, taken⟩ := first
        refine ⟨leaf, fun depth => ?_⟩
        rw [Library.call_eq_callWith_nested, Library.call_eq_callWith_nested]
        exact Library.callWith_router_of_find?_eq_some taken _ id shape declared
    | none =>
        rw [found] at first
        exact ⟨_, Library.failsBeforeBody_router_report first id shape declared⟩

end Built

end Makers

/-! ## What a construction does -/

/-- The constructor has read the arguments on the frame and come to a value, leaving a world. -/
structure Library.Makes (library : Library H) (depth : Nat) (frame : Frame H) (world : World H)
    (name : H.Constructor) (value : H.Value (library.constructor name).receiver)
    (reached : World H) : Prop where
  made : ∃ parameters, Parameters.extract frame (library.constructor name).parameters 0 =
      .ok parameters ∧
    ((library.constructor name).run parameters).run (library.handler depth) world =
      some (value, reached)

namespace Interpreter

variable {library : Library H} {receiver : H.Receiver} {names : List H.Constructor}
  {before built : World H} {callback : Callback H.toVocabulary}
  {interpreter after : Interpreter H} {depth : Nat} {arguments : List (Slot H)}
  {world reached : World H} {outcome : Except CallError (List (Slot H))}

/-- A construction fails with the heap as it was, or the chosen constructor makes a value, which
goes into the heap.  Then the result is its handle, unless that does not fit on the stack. -/
theorem construction_cases
    (made : Makers.buildFrom library receiver names before = (.ok callback, built))
    (called : interpreter.call library depth callback arguments world =
      some ((outcome, after), reached)) :
    ((∃ error, outcome = .error error) ∧ after = interpreter) ∨
      ∃ name value,
        Makers.chosen? library (interpreter.entry arguments) names = some name ∧
        library.Makes depth (interpreter.entry arguments) world name value reached ∧
        after = { interpreter with heap := (interpreter.heap.allocate ⟨_, value⟩).1 } ∧
        ((∃ error, outcome = .error error) ∨
          outcome = .ok [.object (interpreter.heap.allocate ⟨_, value⟩).2]) := by
  have choice := Makers.call_buildFrom made ⟨interpreter.entry arguments, world⟩
  cases chosen : Makers.chosen? library (interpreter.entry arguments) names with
  | none =>
      simp only [chosen] at choice
      obtain ⟨error, fails⟩ := choice
      refine .inl ?_
      rcases callWith_cases (library.goesBySteps_call depth) called with
        ⟨_, rfl, refused⟩ | ⟨_, _, frame, pushes, ran, _, rfl, rfl⟩
      · exact ⟨⟨_, refused⟩, rfl⟩
      · rw [Library.call_eq_callWith_nested, fails.callWith_eq] at ran
        cases ran
        exact ⟨⟨error, rfl⟩, rfl⟩
  | some name =>
      simp only [chosen] at choice
      obtain ⟨id, same⟩ := choice
      rw [call_congr (same depth), call_construct] at called
      dsimp only at called
      split at called
      · cases called
        exact .inl ⟨⟨_, rfl⟩, rfl⟩
      · cases read : Parameters.read interpreter.policy (library.constructor name).parameters
            arguments with
        | error error =>
            simp only [read] at called
            cases called
            exact .inl ⟨⟨_, rfl⟩, rfl⟩
        | ok parameters =>
            simp only [read] at called
            obtain ⟨⟨value, last⟩, ran, ended⟩ := Option.map_eq_some_iff.mp called
            simp only [Prod.mk.injEq] at ended
            obtain ⟨⟨written, rfl⟩, rfl⟩ := ended
            rw [← prepare_entry] at read
            refine .inr ⟨name, value, rfl, ⟨parameters, Library.extract_of_prepare read, ran⟩, rfl,
              ?_⟩
            cases outcome with
            | error error => exact .inl ⟨error, rfl⟩
            | ok results =>
                have encoded := (Policy.written_eq_ok_iff.mp written).1
                exact .inr (congrArg Except.ok (Except.ok.inj encoded).symm)

end Interpreter

/-! ## Handles of live objects -/

/-- Each of the handles reaches an object of its type in the heap, and no two the same. -/
structure Heap.Holds (heap : Heap H) (live : List (Handle H.toVocabulary)) : Prop where
  consistent : heap.Consistent
  distinct : (live.map Handle.key).Nodup
  reached : ∀ handle ∈ live, ∃ object, heap.objects handle.key = some object ∧
    object.receiver = handle.receiver

namespace Heap.Holds

variable {heap : Heap H} {live : List (Handle H.toVocabulary)}

theorem empty : Holds ({} : Heap H) [] where
  consistent := .empty
  distinct := List.nodup_nil
  reached := by simp

/-- A new object leaves the others where they are. -/
theorem allocate (holds : heap.Holds live) (object : Object H) :
    (heap.allocate object).1.Holds live where
  consistent := holds.consistent.allocate object
  distinct := holds.distinct
  reached handle member := by
    obtain ⟨live, there, typed⟩ := holds.reached handle member
    exact ⟨live, holds.consistent.objects_allocate_of_live there object, typed⟩

/-- A handle that reaches an object is none that reaches nothing. -/
theorem key_not_mem (holds : heap.Holds live) {key : Key} (absent : heap.objects key = none) :
    key ∉ live.map Handle.key := by
  intro member
  obtain ⟨handle, listed, rfl⟩ := List.mem_map.mp member
  obtain ⟨object, there, _⟩ := holds.reached handle listed
  rw [absent] at there
  cases there

/-- Its handle is one more, and another one. -/
theorem issue (holds : heap.Holds live) (few : heap.places.size < 2 ^ 32) (object : Object H) :
    (heap.allocate object).1.Holds ((heap.allocate object).2 :: live) where
  consistent := holds.consistent.allocate object
  distinct := by
    rw [List.map_cons, List.nodup_cons]
    exact ⟨holds.key_not_mem (holds.consistent.objects_allocate few object).1, holds.distinct⟩
  reached handle member := by
    rcases List.mem_cons.mp member with rfl | before
    · refine ⟨object, ?_, (receiver_allocate heap object).symm⟩
      rw [(holds.consistent.objects_allocate few object).2, Function.update_self]
    · exact (holds.allocate object).reached handle before

/-- Handles that a deed does not free stay. -/
theorem deed {library : Library H} {situation after : Situation H} {kept : List _} {deed : Deed H}
    (holds : situation.interpreter.heap.Holds live)
    (done : deed.result? library situation = some after) (sublist : kept.Sublist live)
    (spared : ∀ handle ∈ kept, ¬ deed.Frees library situation handle.key) :
    after.interpreter.heap.Holds kept where
  consistent := deed.consistent holds.consistent done
  distinct := holds.distinct.sublist (sublist.map Handle.key)
  reached handle member := by
    obtain ⟨⟨type, value⟩, there, typed⟩ := holds.reached handle (sublist.subset member)
    obtain ⟨later, present⟩ := deed.present holds.consistent there done (spared handle member)
    exact ⟨⟨type, later⟩, present, typed⟩

/-- So each of them is a receiver of its type. -/
theorem receives {interpreter : Interpreter H} (holds : interpreter.heap.Holds live)
    (library : Library H) {handle : Handle H.toVocabulary} (member : handle ∈ live) :
    interpreter.Receives library handle handle.receiver := by
  obtain ⟨⟨type, value⟩, there, typed⟩ := holds.reached handle member
  dsimp only at typed
  subst typed
  exact Interpreter.receives_of_get? (Heap.get?_eq_some_iff.mpr there)

end Heap.Holds

/-! ## Histories -/

/-- The handles among the results of a call. -/
def issued : Except CallError (List (Slot H)) → List (Handle H.toVocabulary)
  | .error _ => []
  | .ok results => results.filterMap fun slot =>
      match slot with
      | .object handle => some handle
      | _ => none

/-- A history of an interpreter from its beginning, with the handles that constructions have issued
and that have not been freed since.  Every situation has a history. -/
inductive Ledger (library : Library H) : List (Handle H.toVocabulary) → Situation H → Prop
  | start (policy : Policy) (world : World H) : Ledger library [] ⟨.new policy, world⟩
  /-- Whatever is done, the handles stay that it does not free. -/
  | deed {live kept : List (Handle H.toVocabulary)} {situation after : Situation H} {deed : Deed H}
      (before : Ledger library live situation)
      (done : deed.result? library situation = some after) (sublist : kept.Sublist live)
      (spared : ∀ handle ∈ kept, ¬ deed.Frees library situation handle.key) :
      Ledger library kept after
  /-- A list of constructors is called, and issues a handle or fails. -/
  | construct {live : List (Handle H.toVocabulary)} {situation after : Situation H}
      {receiver : H.Receiver} {names : List H.Constructor} {world built : World H}
      {callback : Callback H.toVocabulary} {depth : Nat} {arguments : List (Slot H)}
      {outcome : Except CallError (List (Slot H))} (before : Ledger library live situation)
      (made : Makers.buildFrom library receiver names world = (.ok callback, built))
      (few : situation.interpreter.heap.places.size < 2 ^ 32)
      (called : situation.call library depth callback arguments = some (outcome, after)) :
      Ledger library (issued outcome ++ live) after

namespace Ledger

variable {library : Library H} {live : List (Handle H.toVocabulary)} {situation : Situation H}

/-- At every time the handles reach objects of their types, and no two the same. -/
theorem holds (ledger : Ledger library live situation) :
    situation.interpreter.heap.Holds live := by
  induction ledger with
  | start policy world => exact .empty
  | deed _ done sublist spared ih => exact ih.deed done sublist spared
  | construct _ made few called ih =>
      rcases Interpreter.construction_cases made (Situation.call_eq_some called) with
        ⟨⟨error, rfl⟩, same⟩ | ⟨name, value, _, _, same, ⟨error, rfl⟩ | rfl⟩
      · rw [same]
        exact ih
      · rw [same]
        exact ih.allocate _
      · rw [same]
        exact ih.issue few _

/-- **A construction makes one new object.**  Take any history of an interpreter.  The handles that
constructions have issued and that have not been freed since are distinct, and each is a receiver
of every method and every field of its type.

If there are fewer than 2³² places in the heap, take a list of constructors of one type and a call
of it that succeeds.  The result is one handle, issued for the type, that reached nothing before.
It stands for the value that the chosen constructor has made of the arguments it has read.  There
is one live object more, and nothing has changed under any other key.  Until something frees it,
the handle is a receiver of every method and every field of the type. -/
theorem construction_fresh (ledger : Ledger library live situation) :
    (live.map Handle.key).Nodup ∧
    (∀ handle ∈ live, situation.interpreter.Receives library handle handle.receiver) ∧
    ∀ {receiver : H.Receiver} {names : List H.Constructor} {world built : World H}
      {callback : Callback H.toVocabulary},
      Makers.buildFrom library receiver names world = (.ok callback, built) →
      (∀ name ∈ names, (library.constructor name).receiver = receiver) →
      situation.interpreter.heap.places.size < 2 ^ 32 →
      ∀ {depth : Nat} {arguments results : List (Slot H)} {after : Situation H},
        situation.call library depth callback arguments = some (.ok results, after) →
        let frame := situation.interpreter.entry arguments
        let heap := situation.interpreter.heap
        ∃ handle name value,
          results = [.object handle] ∧ handle.receiver = receiver ∧
          heap.contains handle = false ∧
          Makers.chosen? library frame names = some name ∧
          library.Makes depth frame situation.world name value after.world ∧
          after.interpreter.heap.objects =
            Function.update heap.objects handle.key (some ⟨_, value⟩) ∧
          after.interpreter.heap.size = heap.size + 1 ∧
          Ledger library (handle :: live) after ∧
          ∀ later, Situation.Spares library handle.key after later →
            later.interpreter.Receives library handle receiver := by
  have holds := ledger.holds
  refine ⟨holds.distinct, fun handle member => holds.receives library member, ?_⟩
  intro receiver names world built callback made typed few depth arguments results after called
    frame heap
  rcases Interpreter.construction_cases made (Situation.call_eq_some called) with
    ⟨⟨_, failed⟩, _⟩ | ⟨name, value, chosen, makes, same, ⟨_, failed⟩ | issues⟩
  · cases failed
  · cases failed
  obtain rfl := Except.ok.inj issues
  obtain ⟨absent, stands⟩ := holds.consistent.objects_allocate few ⟨_, value⟩
  have there : (heap.allocate ⟨_, value⟩).1.objects (heap.allocate ⟨_, value⟩).2.key =
      some ⟨(library.constructor name).receiver, value⟩ := by
    rw [stands, Function.update_self]
  have ofType := typed name (Makers.mem_of_chosen? chosen)
  refine ⟨(heap.allocate ⟨_, value⟩).2, name, value, rfl, ?_, ?_, chosen, makes, ?_, ?_, ?_, ?_⟩
  · exact (Heap.receiver_allocate heap _).trans ofType
  · rw [← Bool.not_eq_true, Heap.contains_iff_isSome, absent]
    simp
  · rw [same]
    exact stands
  · rw [same]
    exact holds.consistent.size_allocate _
  · exact .construct ledger made few called
  · intro later spares
    obtain ⟨_, last, present⟩ := spares.present (by
      rw [same]
      exact holds.consistent.allocate _) (by
      rw [same]
      exact there)
    rw [← ofType]
    exact Interpreter.receives_of_get? (Heap.get?_eq_some_iff.mpr present)

end Ledger

namespace Sample

/-- A slot with two ways to make a counter: of nothing, and of a number. -/
def counterMakers : Callback vocabulary :=
  .router 2 .constructor (.range 0 1)
    [.closure 0 (.construct .counterDefault), .closure 1 (.construct .counterInt)]

/-- An interpreter that has nothing but a heap, after some counters were made of numbers. -/
def afterCounters (heap : Heap host) (transcript : Array Report) : Situation host :=
  ⟨{ heap }, { memory := { transcript } }⟩

/-- The place of a counter that was freed. -/
def freedPlace : Heap host := ⟨#[.vacant 1], [0]⟩

theorem counterMakers_built :
    Makers.buildFrom (Session.library #[]) Receiver.counter [.counterDefault, .counterInt]
      { memory := {} } = (.ok counterMakers, { memory := {}, closures := 3 }) := rfl

/-- A counter is made and freed. -/
theorem ledger_freed :
    Ledger (Session.library #[]) [] (afterCounters freedPlace #[.text "new int"]) := by
  have made : (afterCounters {} #[]).call (Session.library #[]) 0 counterMakers [.int 4] =
      some (.ok [.object ⟨0, 0, .counter⟩],
        afterCounters ⟨#[.occupied 0 ⟨.counter, ⟨4⟩⟩], []⟩ #[.text "new int"]) := rfl
  have start : Ledger (Session.library #[]) [] (afterCounters {} #[]) := .start _ _
  have first : Ledger (Session.library #[]) [⟨0, 0, .counter⟩]
      (afterCounters ⟨#[.occupied 0 ⟨.counter, ⟨4⟩⟩], []⟩ #[.text "new int"]) :=
    .construct start counterMakers_built (by decide) made
  let free : Deed host := .operate (.free ⟨0, 0, .counter⟩)
  have freed : free.result? (Session.library #[])
      (afterCounters ⟨#[.occupied 0 ⟨.counter, ⟨4⟩⟩], []⟩ #[.text "new int"]) =
        some (afterCounters freedPlace #[.text "new int"]) := rfl
  exact .deed first freed (List.nil_sublist _) (by simp)

/-- The next counter takes the place of the freed one, under a handle that reached nothing
before, and that is a receiver of every method and field of counters. -/
theorem construction_fresh_again :
    Ledger (Session.library #[]) [] (afterCounters freedPlace #[.text "new int"]) ∧
      ∃ after : Situation host,
        (afterCounters freedPlace #[.text "new int"]).call (Session.library #[]) 0 counterMakers
            [.int 7] = some (.ok [.object ⟨0, 1, .counter⟩], after) ∧
          freedPlace.contains ⟨0, 1, .counter⟩ = false ∧ after.interpreter.heap.size = 1 ∧
          after.interpreter.Receives (Session.library #[]) ⟨0, 1, .counter⟩ .counter := by
  have called : (afterCounters freedPlace #[.text "new int"]).call (Session.library #[]) 0
      counterMakers [.int 7] = some (.ok [.object ⟨0, 1, .counter⟩],
        afterCounters ⟨#[.occupied 1 ⟨.counter, ⟨7⟩⟩], []⟩
          #[.text "new int", .text "new int"]) := rfl
  have typed : ∀ name ∈ [ConstructorName.counterDefault, .counterInt],
      ((Session.library #[]).constructor name).receiver = Receiver.counter := by
    simp only [List.forall_mem_cons]
    exact ⟨rfl, rfl, List.forall_mem_nil _⟩
  obtain ⟨_, _, constructs⟩ := Ledger.construction_fresh ledger_freed
  obtain ⟨handle, name, value, same, _, absent, _, _, _, size, _, receives⟩ :=
    constructs counterMakers_built typed (by decide) called
  cases same
  exact ⟨ledger_freed, _, called, absent, size, receives _ .refl⟩

end Sample

end HostCall
