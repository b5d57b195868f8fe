import HostCall.Proofs.Aliases
import HostCall.Proofs.RecordNumbers
import Mathlib.Data.List.Forall2

/-!
# Direct installation is a closure written by hand

A callable that has the shape of a callback can be installed as its bare name, or a closure can be
written that runs it.  The two are different records: a bare name declares its range and what it
takes by itself, and a closure is asked for them.

Take a tree of callbacks and one in which some occurrences of the bare name are written by hand
(`Callback.HandWritten`).  Every node of the one declares the range of the node at the same place of
the other, every router makes the same choice, and so a call goes the same way and comes to the
same (`HandWritten.at?`, `HandWritten.way_eq`, `HandWritten.callWith_eq`).

Such trees are what is built from one plan for a bundle of bundles when the spots for the callable
are filled in the one way or in the other (`Assembly`, `directInstallation_observably_handWritten`).
-/

set_option autoImplicit false

namespace HostCall

variable {H : Host}

/-! ## Places in a tree -/

/-- The node of a tree that is reached by the places of candidates. -/
def Callback.at? {V : Vocabulary} : List Nat → Callback V → Option (Callback V)
  | [], callback => some callback
  | place :: places, router _ _ _ candidates => candidates[place]?.bind (at? places)
  | _ :: _, direct _ | _ :: _, closure _ _ => none

namespace Library

variable {library : Library H}

mutual
/-- The way that a call goes down a tree: the place that each router on it chooses. -/
def way (library : Library H) (frame : Frame H) : Callback H.toVocabulary → List Nat
  | .direct _ | .closure _ _ => []
  | .router _ _ _ candidates =>
      match library.select frame candidates with
      | .error _ => []
      | .ok place => place :: library.wayNth frame candidates place

/-- The way on from the candidate at a place. -/
def wayNth (library : Library H) (frame : Frame H) :
    List (Callback H.toVocabulary) → Nat → List Nat
  | [], _ => []
  | candidate :: _, 0 => library.way frame candidate
  | _ :: candidates, place + 1 => library.wayNth frame candidates place
end

theorem wayNth_eq {frame : Frame H} {candidates : List (Callback H.toVocabulary)} {place : Nat}
    {candidate : Callback H.toVocabulary} (found : candidates[place]? = some candidate) :
    library.wayNth frame candidates place = library.way frame candidate := by
  induction candidates generalizing place with
  | nil => cases found
  | cons first candidates ih =>
      cases place with
      | zero =>
          cases found
          rw [wayNth]
      | succ place =>
          rw [wayNth]
          exact ih (by simpa using found)

theorem way_router_of_select {frame : Frame H} {candidates : List (Callback H.toVocabulary)}
    {place : Nat} {candidate : Callback H.toVocabulary}
    (chosen : library.select frame candidates = .ok place)
    (found : candidates[place]? = some candidate) (id : ClosureId) (shape : Shape)
    (declared : Arity) :
    library.way frame (.router id shape declared candidates) =
      place :: library.way frame candidate := by
  rw [way, chosen]
  exact congrArg (place :: ·) (wayNth_eq found)

theorem way_router_of_mismatch {frame : Frame H} {candidates : List (Callback H.toVocabulary)}
    {mismatch : Mismatch} (failed : library.select frame candidates = .error mismatch)
    (id : ClosureId) (shape : Shape) (declared : Arity) :
    library.way frame (.router id shape declared candidates) = [] := by
  rw [way, failed]

/-- A call leads to the node at the end of its way, and from there no further. -/
theorem leadsTo_way (frame : Frame H) (callback : Callback H.toVocabulary) :
    ∃ node, callback.at? (library.way frame callback) = some node ∧
      library.LeadsTo frame node callback ∧ library.way frame node = [] := by
  induction callback using Callback.inductionOn with
  | direct name => exact ⟨.direct name, by rw [way]; rfl, .itself, by rw [way]⟩
  | closure id block => exact ⟨.closure id block, by rw [way]; rfl, .itself, by rw [way]⟩
  | router id shape declared candidates ih =>
      cases taken : candidates.find? (library.takes frame) with
      | none =>
          obtain ⟨mismatch, failed, _⟩ := select_of_find?_eq_none taken
          have stops := way_router_of_mismatch failed id shape declared
          exact ⟨_, by rw [stops]; rfl, .itself, stops⟩
      | some candidate =>
          obtain ⟨place, chosen, found⟩ := select_of_find?_eq_some taken
          obtain ⟨node, there, leads, stops⟩ := ih candidate (List.mem_of_getElem? found)
          refine ⟨node, ?_, .router chosen found leads id shape declared, stops⟩
          rw [way_router_of_select chosen found, Callback.at?, found]
          exact there

/-! ## Candidates that routers do not tell apart -/

/-- Nothing that a router asks a candidate is answered differently. -/
def JudgedAlike (library : Library H) (frame : Frame H) (left right : Callback H.toVocabulary) :
    Prop :=
  library.arity left = library.arity right ∧
    library.accepts frame left = library.accepts frame right

theorem scan_congr {frame : Frame H} {left right : List (Callback H.toVocabulary)}
    (alike : List.Forall₂ (library.JudgedAlike frame) left right) (place : Nat)
    (rejected : List Nat) :
    library.scan frame left place rejected = library.scan frame right place rejected := by
  induction alike generalizing place rejected with
  | nil => rfl
  | cons first _ ih => rw [scan, scan, first.1, first.2, ih, ih]

theorem arities_congr {left right : List (Callback H.toVocabulary)}
    (same : List.Forall₂ (fun first second => library.arity first = library.arity second)
      left right) : left.map library.arity = right.map library.arity := by
  induction same with
  | nil => rfl
  | cons first _ ih => rw [List.map_cons, List.map_cons, first, ih]

/-- A router makes the same choice among them. -/
theorem select_congr {frame : Frame H} {left right : List (Callback H.toVocabulary)}
    (alike : List.Forall₂ (library.JudgedAlike frame) left right) :
    library.select frame left = library.select frame right := by
  rw [select, select, scan_congr alike, arities_congr (alike.imp fun _ _ same => same.1)]

end Library

/-! ## Bare names written by hand -/

/-- The custom callable is a closure that runs the raw one and declares nothing about itself. -/
abbrev Library.RunsRaw (library : Library H) (wrapper : H.Custom) (name : H.Raw) : Prop :=
  library.custom wrapper = { run := library.raw name }

namespace Callback

/-- The trees are the same but for numbers of records, and for a bare name around which a closure
is written in the second. -/
inductive HandWritten {V : Vocabulary} (name : V.Raw) (wrapper : V.Custom) :
    Callback V → Callback V → Prop
  | spot (id : ClosureId) :
      HandWritten name wrapper (.direct name) (.closure id (.custom .callable wrapper))
  | direct (other : V.Raw) : HandWritten name wrapper (.direct other) (.direct other)
  | closure (first second : ClosureId) (block : Block V) :
      HandWritten name wrapper (.closure first block) (.closure second block)
  | router (first second : ClosureId) (shape : Shape) (declared : Arity)
      {left right : List (Callback V)} (long : left.length = right.length)
      (each : ∀ place inLeft inRight,
        HandWritten name wrapper (left.get ⟨place, inLeft⟩) (right.get ⟨place, inRight⟩)) :
      HandWritten name wrapper (.router first shape declared left)
        (.router second shape declared right)

namespace HandWritten

section Trees

variable {V : Vocabulary} {name : V.Raw} {wrapper : V.Custom}

theorem refl (callback : Callback V) : HandWritten name wrapper callback callback := by
  induction callback using inductionOn with
  | direct other => exact .direct other
  | closure id block => exact .closure id id block
  | router id shape declared candidates ih =>
      exact .router id id shape declared rfl fun place inside _ => ih _ (List.get_mem _ _)

/-- The nodes at each place are written by hand in the same way. -/
theorem at? {left right : Callback V} (written : HandWritten name wrapper left right)
    (places : List Nat) :
    Option.Rel (HandWritten name wrapper) (left.at? places) (right.at? places) := by
  induction places generalizing left right with
  | nil => exact .some written
  | cons place places ih =>
      cases written with
      | spot id | direct other | closure first second block => exact .none
      | @router first second shape declared left right long each =>
          rw [Callback.at?, Callback.at?]
          by_cases inside : place < left.length
          · rw [List.getElem?_eq_getElem inside, List.getElem?_eq_getElem (long ▸ inside)]
            exact ih (each place inside (long ▸ inside))
          · rw [List.getElem?_eq_none (Nat.le_of_not_lt inside),
              List.getElem?_eq_none (long ▸ Nat.le_of_not_lt inside)]
            exact .none

end Trees

section Calls

variable {library : Library H} {name : H.Raw} {wrapper : H.Custom}
  {left right : Callback H.toVocabulary}

/-- A bare name declares what a closure around it declares, and a router its own range. -/
theorem arity_eq (runs : library.RunsRaw wrapper name)
    (written : HandWritten name wrapper left right) :
    library.arity left = library.arity right := by
  cases written with
  | spot id =>
      rw [Library.arity, Library.arity, Library.blockArity, runs]
  | direct other | closure first second block | router first second shape declared long each => rfl

theorem accepts_eq (runs : library.RunsRaw wrapper name)
    (written : HandWritten name wrapper left right) (frame : Frame H) :
    library.accepts frame left = library.accepts frame right := by
  induction written with
  | spot id => rw [Library.accepts, Library.accepts, Library.blockAccepts, runs]
  | direct other => rfl
  | closure first second block => rw [Library.accepts, Library.accepts]
  | router first second shape declared long each ih =>
      have alike : List.Forall₂ (library.JudgedAlike frame) _ _ :=
        List.forall₂_iff_get.mpr ⟨long, fun place inLeft inRight =>
          ⟨(each place inLeft inRight).arity_eq runs, ih place inLeft inRight⟩⟩
      rw [Library.accepts_router, Library.accepts_router, Library.select_congr alike]

/-- Routers in front of such candidates fail in the same way or choose the same place. -/
theorem select_cases {left right : List (Callback H.toVocabulary)}
    (runs : library.RunsRaw wrapper name) (long : left.length = right.length)
    (each : ∀ place inLeft inRight,
      HandWritten name wrapper (left.get ⟨place, inLeft⟩) (right.get ⟨place, inRight⟩))
    (frame : Frame H) :
    (∃ mismatch, library.select frame left = .error mismatch ∧
        library.select frame right = .error mismatch) ∨
      ∃ place, place < left.length ∧ place < right.length ∧
        library.select frame left = .ok place ∧ library.select frame right = .ok place := by
  have alike : List.Forall₂ (library.JudgedAlike frame) left right := by
    refine List.forall₂_iff_get.mpr ⟨long, fun place inLeft inRight => ?_⟩
    have node := each place inLeft inRight
    exact ⟨node.arity_eq runs, node.accepts_eq runs frame⟩
  have same := Library.select_congr alike
  cases taken : left.find? (library.takes frame) with
  | none =>
      obtain ⟨mismatch, failed, _⟩ := Library.select_of_find?_eq_none taken
      exact .inl ⟨mismatch, failed, same ▸ failed⟩
  | some candidate =>
      obtain ⟨place, chosen, found⟩ := Library.select_of_find?_eq_some taken
      have inside : place < left.length := (List.getElem?_eq_some_iff.mp found).1
      exact .inr ⟨place, inside, long ▸ inside, chosen, same ▸ chosen⟩

/-- A call takes the same way. -/
theorem way_eq (runs : library.RunsRaw wrapper name)
    (written : HandWritten name wrapper left right) (frame : Frame H) :
    library.way frame left = library.way frame right := by
  induction written with
  | direct other => rfl
  | spot id | closure first second block => rw [Library.way, Library.way]
  | router first second shape declared long each ih =>
      obtain ⟨mismatch, first, second⟩ | ⟨place, inLeft, inRight, first, second⟩ :=
        select_cases runs long each frame
      · rw [Library.way_router_of_mismatch first, Library.way_router_of_mismatch second]
      · rw [Library.way_router_of_select first (List.getElem?_eq_getElem inLeft),
          Library.way_router_of_select second (List.getElem?_eq_getElem inRight)]
        exact congrArg (place :: ·) (ih place inLeft inRight)

/-- Nodes at the same place declare the same range. -/
theorem arity_at?_eq (runs : library.RunsRaw wrapper name)
    (written : HandWritten name wrapper left right) (places : List Nat) :
    (left.at? places).map library.arity = (right.at? places).map library.arity := by
  have node := written.at? places
  generalize left.at? places = first at node ⊢
  generalize right.at? places = second at node ⊢
  cases node with
  | none => rfl
  | some same => exact congrArg some (same.arity_eq runs)

/-- The calls end at nodes at the same place. -/
theorem exists_called (runs : library.RunsRaw wrapper name)
    (written : HandWritten name wrapper left right) (frame : Frame H) :
    ∃ first second,
      left.at? (library.way frame left) = some first ∧
        right.at? (library.way frame right) = some second ∧
          library.LeadsTo frame first left ∧ library.LeadsTo frame second right ∧
            library.way frame first = [] ∧ HandWritten name wrapper first second := by
  obtain ⟨first, inLeft, leadsLeft, stops⟩ := library.leadsTo_way frame left
  obtain ⟨second, inRight, leadsRight, _⟩ := library.leadsTo_way frame right
  have node := written.at? (library.way frame left)
  rw [inLeft, written.way_eq runs, inRight] at node
  cases node with
  | some same => exact ⟨first, second, inLeft, inRight, leadsLeft, leadsRight, stops, same⟩

/-- **A call comes to the same**, whatever the calls that bodies make come to. -/
theorem callWith_eq (runs : library.RunsRaw wrapper name)
    (written : HandWritten name wrapper left right) (invoke : Invoker H) (scene : Scene H) :
    library.callWith invoke left scene = library.callWith invoke right scene := by
  induction written with
  | spot id => rw [Library.callWith, Library.callWith, Library.callBlock, runs]
  | direct other => rfl
  | closure first second block => rw [Library.callWith, Library.callWith]
  | router first second shape declared long each ih =>
      obtain ⟨mismatch, first, second⟩ | ⟨place, inLeft, inRight, first, second⟩ :=
        select_cases runs long each scene.frame
      · rw [Library.callWith_router_of_mismatch first, Library.callWith_router_of_mismatch second]
      · rw [Library.callWith_router_of_select first (List.getElem?_eq_getElem inLeft),
          Library.callWith_router_of_select second (List.getElem?_eq_getElem inRight)]
        exact ih place inLeft inRight

end Calls

end HandWritten

end Callback

/-! ## Plans for a callback -/

/-- A plan for one callback: a whole item, a spot for a callable that has the shape of a callback
already, a bundle of what is built from other plans, or a deferral of what another plan arranges. -/
inductive Assembly (H : Host)
  | item (whole : Installable H)
  | spot
  | overloads (candidates : List (Assembly H))
  | property (read write : Option (Assembly H))
  | constructors (receiver : H.Receiver) (factories : List (Assembly H))
  | deferred (description : String) (content : Assembly H)

/-- A step that builds something in the world of the host, or fails. -/
abbrev Assembling (H : Host) : Type → Type := ExceptT RegistrationError (Building H)

namespace Assembly

mutual
/-- What a plan arranges to be installed, where the callback of a spot is built in a given way. -/
def arrange (library : Library H) (fill : Building H (Callback H.toVocabulary)) :
    Assembly H → Assembling H (Installable H)
  | item whole => pure whole
  | spot => do return .callback (← fill)
  | overloads candidates => do return .overloads ⟨← buildAll library fill candidates⟩
  | property read write => do
      let read ← buildHalf library fill read
      let write ← buildHalf library fill write
      return .property ⟨read, write⟩
  | constructors receiver factories => do
      return .constructors ⟨receiver, ← buildAll library fill factories⟩
  | deferred description content => do
      return .deferred description (← content.arrange library fill)

/-- The callbacks of plans, the earlier ones built first. -/
def buildAll (library : Library H) (fill : Building H (Callback H.toVocabulary)) :
    List (Assembly H) → Assembling H (List (Callback H.toVocabulary))
  | [] => return []
  | plan :: plans => do
      let arranged ← plan.arrange library fill
      let callback ← ExceptT.mk (arranged.synthesize library)
      return callback :: (← buildAll library fill plans)

/-- The callback of a half that there may be. -/
def buildHalf (library : Library H) (fill : Building H (Callback H.toVocabulary)) :
    Option (Assembly H) → Assembling H (Option (Callback H.toVocabulary))
  | none => return none
  | some plan => do
      let arranged ← plan.arrange library fill
      return some (← ExceptT.mk (arranged.synthesize library))
end

/-- The callback of a plan. -/
def build (library : Library H) (fill : Building H (Callback H.toVocabulary))
    (plan : Assembly H) : Assembling H (Callback H.toVocabulary) := do
  let arranged ← plan.arrange library fill
  ExceptT.mk (arranged.synthesize library)

end Assembly

/-! ## Steps that come to related things -/

/-- The world with another count of records. -/
def World.recounted (world : World H) (count : Nat) : World H := { world with closures := count }

/-- Both failed for one reason, or both came to something, and these are related.  They left the
world as it was but for the count of records. -/
inductive BothBuilt {α β : Type} (related : α → β → Prop) (world : World H) :
    Except RegistrationError α × World H → Except RegistrationError β × World H → Prop
  | error (error : RegistrationError) {fewer more : Nat} :
      BothBuilt related world (.error error, world.recounted fewer)
        (.error error, world.recounted more)
  | ok {left : α} {right : β} (same : related left right) {fewer more : Nat} :
      BothBuilt related world (.ok left, world.recounted fewer) (.ok right, world.recounted more)

namespace Assembling

variable {α β γ δ : Type} {related : α → β → Prop} {left : Assembling H α} {right : Assembling H β}

/-- However many records were counted before, the steps come to related things or fail for one
reason. -/
def Related (related : α → β → Prop) (left : Assembling H α) (right : Assembling H β) : Prop :=
  ∀ (world : World H) (fewer more : Nat),
    BothBuilt related world (left (world.recounted fewer)) (right (world.recounted more))

theorem bind_apply (step : Assembling H α) (next : α → Assembling H γ) (world : World H) :
    (step >>= next) world =
      match step world with
      | (.ok made, reached) => next made reached
      | (.error error, reached) => (.error error, reached) := by
  change ExceptT.bindCont next (step world).1 (step world).2 = _
  rcases step world with ⟨error | made, reached⟩
  · rfl
  · rfl

theorem Related.pure {first : α} {second : β} (same : related first second) :
    Related related (Pure.pure first : Assembling H α) (Pure.pure second) :=
  fun _ _ _ => .ok same

/-- Steps that go on alike from related things. -/
theorem Related.bind {goal : γ → δ → Prop} {next : α → Assembling H γ} {other : β → Assembling H δ}
    (begun : Related related left right)
    (goesOn : ∀ first second, related first second → Related goal (next first) (other second)) :
    Related goal (left >>= next) (right >>= other) := by
  intro world fewer more
  rw [bind_apply, bind_apply]
  have made := begun world fewer more
  generalize left (world.recounted fewer) = ended at made ⊢
  generalize right (world.recounted more) = ended' at made ⊢
  cases made with
  | error error => exact .error error
  | ok same => exact goesOn _ _ same world _ _

end Assembling

/-! ## Building from a plan -/

/-- The items are the same but for callbacks that are written by hand in the second. -/
inductive Installable.HandWritten (name : H.Raw) (wrapper : H.Custom) :
    Installable H → Installable H → Prop
  | itself (item : Installable H) : HandWritten name wrapper item item
  | callback {left right : Callback H.toVocabulary}
      (written : left.HandWritten name wrapper right) :
      HandWritten name wrapper (.callback left) (.callback right)
  | overloads {left right : List (Callback H.toVocabulary)}
      (written : List.Forall₂ (Callback.HandWritten name wrapper) left right) :
      HandWritten name wrapper (.overloads ⟨left⟩) (.overloads ⟨right⟩)
  | property {read read' write write' : Option (Callback H.toVocabulary)}
      (reads : Option.Rel (Callback.HandWritten name wrapper) read read')
      (writes : Option.Rel (Callback.HandWritten name wrapper) write write') :
      HandWritten name wrapper (.property ⟨read, write⟩) (.property ⟨read', write'⟩)
  | constructors (receiver : H.Receiver) {left right : List (Callback H.toVocabulary)}
      (written : List.Forall₂ (Callback.HandWritten name wrapper) left right) :
      HandWritten name wrapper (.constructors ⟨receiver, left⟩) (.constructors ⟨receiver, right⟩)
  | deferred (description : String) {left right : Installable H}
      (written : left.HandWritten name wrapper right) :
      HandWritten name wrapper (.deferred description left) (.deferred description right)

section Building

variable {library : Library H} {name : H.Raw} {wrapper : H.Custom}

/-- Routers built in front of such candidates declare the same range. -/
theorem Callback.HandWritten.route {left right : List (Callback H.toVocabulary)}
    (runs : library.RunsRaw wrapper name)
    (written : List.Forall₂ (Callback.HandWritten name wrapper) left right) (shape : Shape)
    (first second : ClosureId) :
    Callback.HandWritten name wrapper (.router first shape (library.covering left) left)
      (.router second shape (library.covering right) right) := by
  have covered : library.covering left = library.covering right := by
    rw [Library.covering, Library.covering,
      Library.arities_congr (written.imp fun _ _ same => same.arity_eq runs)]
  obtain ⟨long, each⟩ := List.forall₂_iff_get.mp written
  rw [covered]
  exact .router first second shape _ long each

theorem Overloads.related_build {left right : List (Callback H.toVocabulary)}
    (runs : library.RunsRaw wrapper name)
    (written : List.Forall₂ (Callback.HandWritten name wrapper) left right) :
    Assembling.Related (Callback.HandWritten name wrapper)
      (Overloads.build library ⟨left⟩) (Overloads.build library ⟨right⟩) := by
  intro world fewer more
  rcases written with _ | ⟨only, _ | ⟨other, rest⟩⟩
  · exact .error _
  · exact .ok only
  · exact .ok (.route runs (.cons only (.cons other rest)) .overloaded _ _)

theorem Makers.related_build (receiver : H.Receiver) {left right : List (Callback H.toVocabulary)}
    (runs : library.RunsRaw wrapper name)
    (written : List.Forall₂ (Callback.HandWritten name wrapper) left right) :
    Assembling.Related (Callback.HandWritten name wrapper)
      (Makers.build library ⟨receiver, left⟩) (Makers.build library ⟨receiver, right⟩) := by
  intro world fewer more
  rcases written with _ | ⟨only, _ | ⟨other, rest⟩⟩
  · exact .error _
  · exact .ok only
  · exact .ok (.route runs (.cons only (.cons other rest)) .constructor _ _)

theorem Accessors.related_build {read read' write write' : Option (Callback H.toVocabulary)}
    (runs : library.RunsRaw wrapper name)
    (reads : Option.Rel (Callback.HandWritten name wrapper) read read')
    (writes : Option.Rel (Callback.HandWritten name wrapper) write write') :
    Assembling.Related (Callback.HandWritten name wrapper)
      (Accessors.build library ⟨read, write⟩) (Accessors.build library ⟨read', write'⟩) := by
  intro world fewer more
  cases reads with
  | none =>
      cases writes with
      | none => exact .error _
      | some same => exact .ok same
  | some same =>
      cases writes with
      | none => exact .ok same
      | some other =>
          exact .ok (.route runs (.cons same (.cons other .nil)) .property _ _)

/-- One item comes to callbacks that are the same but for their numbers. -/
theorem Installable.related_synthesize_itself
    (runs : library.RunsRaw wrapper name) (item : Installable H) :
    Assembling.Related (Callback.HandWritten name wrapper) (item.synthesize library)
      (item.synthesize library) := by
  induction item with
  | callback finished => exact fun _ _ _ => .ok (.refl finished)
  | function name | method name | boundMethod name receiver | field name =>
      exact fun _ _ _ => .ok (.closure _ _ _)
  | overloads set => exact Overloads.related_build runs (List.forall₂_same.mpr fun _ _ => .refl _)
  | property pair =>
      have half : ∀ half : Option (Callback H.toVocabulary),
          Option.Rel (Callback.HandWritten name wrapper) half half := by
        rintro (_ | callback)
        · exact .none
        · exact .some (.refl callback)
      exact Accessors.related_build runs (half _) (half _)
  | constructors list =>
      exact Makers.related_build list.receiver runs (List.forall₂_same.mpr fun _ _ => .refl _)
  | deferred description content ih => exact ih

/-- Items that are written by hand come to callbacks that are. -/
theorem Installable.HandWritten.related_synthesize {left right : Installable H}
    (runs : library.RunsRaw wrapper name)
    (written : left.HandWritten name wrapper right) :
    Assembling.Related (Callback.HandWritten name wrapper) (left.synthesize library)
      (right.synthesize library) := by
  induction written with
  | itself item => exact item.related_synthesize_itself runs
  | callback written => exact fun _ _ _ => .ok written
  | overloads written => exact Overloads.related_build runs written
  | property reads writes => exact Accessors.related_build runs reads writes
  | constructors receiver written => exact Makers.related_build receiver runs written
  | deferred description _ ih => exact ih

namespace Assembly

mutual
/-- When the spots of a plan are filled by hand, it arranges what is written by hand there. -/
theorem related_arrange (runs : library.RunsRaw wrapper name) :
    (plan : Assembly H) →
    Assembling.Related (Installable.HandWritten name wrapper)
      (plan.arrange library (pure (.direct name)))
      (plan.arrange library (Callback.custom .callable wrapper))
  | item whole => by
      rw [arrange, arrange]
      exact .pure (.itself whole)
  | spot => by
      rw [arrange, arrange]
      exact fun _ _ _ => .ok (.callback (.spot _))
  | overloads candidates => by
      rw [arrange, arrange]
      exact (related_buildAll runs candidates).bind fun _ _ written => .pure (.overloads written)
  | property read write => by
      rw [arrange, arrange]
      exact (related_buildHalf runs read).bind fun _ _ reads =>
        (related_buildHalf runs write).bind fun _ _ writes => .pure (.property reads writes)
  | constructors receiver factories => by
      rw [arrange, arrange]
      exact (related_buildAll runs factories).bind fun _ _ written =>
        .pure (.constructors receiver written)
  | deferred description content => by
      rw [arrange, arrange]
      exact (related_arrange runs content).bind fun _ _ written =>
        .pure (.deferred description written)

theorem related_buildAll (runs : library.RunsRaw wrapper name) :
    (plans : List (Assembly H)) →
    Assembling.Related (List.Forall₂ (Callback.HandWritten name wrapper))
      (buildAll library (pure (.direct name)) plans)
      (buildAll library (Callback.custom .callable wrapper) plans)
  | [] => by
      rw [buildAll, buildAll]
      exact .pure .nil
  | plan :: plans => by
      rw [buildAll, buildAll]
      exact (related_arrange runs plan).bind fun _ _ arranged =>
        .bind (arranged.related_synthesize runs) fun _ _ first =>
          (related_buildAll runs plans).bind fun _ _ rest => .pure (.cons first rest)

theorem related_buildHalf (runs : library.RunsRaw wrapper name) :
    (plan : Option (Assembly H)) →
    Assembling.Related (Option.Rel (Callback.HandWritten name wrapper))
      (buildHalf library (pure (.direct name)) plan)
      (buildHalf library (Callback.custom .callable wrapper) plan)
  | none => by
      rw [buildHalf, buildHalf]
      exact .pure .none
  | some plan => by
      rw [buildHalf, buildHalf]
      exact (related_arrange runs plan).bind fun _ _ arranged =>
        .bind (arranged.related_synthesize runs) fun _ _ same => .pure (.some same)
end

/-- The callback of a plan is written by hand where its spots are. -/
theorem related_build (runs : library.RunsRaw wrapper name) (plan : Assembly H) :
    Assembling.Related (Callback.HandWritten name wrapper)
      (plan.build library (pure (.direct name)))
      (plan.build library (Callback.custom .callable wrapper)) :=
  (related_arrange runs plan).bind fun _ _ arranged => arranged.related_synthesize runs

end Assembly

end Building

/-! ## Calls in the worlds that building leaves -/

/-- However many records were counted, a call comes to the same but for the count. -/
theorem Interpreter.call_recounted (interpreter : Interpreter H) (library : Library H) (depth : Nat)
    (callback : Callback H.toVocabulary) (arguments : List (Slot H)) (world : World H)
    (count : Nat) :
    (interpreter.call library depth callback arguments (world.recounted count)).map
        (Prod.map id (World.recounted · 0)) =
      (interpreter.call library depth callback arguments (world.recounted 0)).map
        (Prod.map id (World.recounted · 0)) := by
  induction count with
  | zero => rfl
  | succ count ih =>
      have counted : world.recounted (count + 1) = (world.recounted count).counted := rfl
      rw [counted, interpreter.call_counted library depth callback arguments, Option.map_map, ← ih]
      rfl

/-- **Installing a callable directly is writing a closure that runs it.**  Take any plan for a
callback, and build it with the bare name in its spots, and with a closure that runs the same.
Either both builds fail, for the same reason, or both come to a callback, and these are alike.

* They are the same tree, but for the spots and for the numbers of records, and nodes at the same
  places declare the same range.
* On every frame both take the arguments or neither does, and a call goes down to the same place.
* A call comes to the same and leaves the same, on a frame and in an interpreter.

The builds leave worlds that differ in the count of records, which no call sees. -/
theorem directInstallation_observably_handWritten {library : Library H} {name : H.Raw}
    {wrapper : H.Custom} (runs : library.custom wrapper = { run := library.raw name })
    (plan : Assembly H) (world : World H) :
    let direct := plan.build library (pure (.direct name)) world
    let written := plan.build library (Callback.custom .callable wrapper) world
    (∃ error, direct.1 = .error error ∧ written.1 = .error error) ∨
    ∃ left right, direct.1 = .ok left ∧ written.1 = .ok right ∧
      left.HandWritten name wrapper right ∧
      (∀ places, (left.at? places).map library.arity = (right.at? places).map library.arity) ∧
      (∀ frame : Frame H,
        library.accepts frame left = library.accepts frame right ∧
        library.way frame left = library.way frame right ∧
        ∃ first second,
          left.at? (library.way frame left) = some first ∧
            right.at? (library.way frame right) = some second ∧
              library.LeadsTo frame first left ∧ library.LeadsTo frame second right ∧
                library.way frame first = [] ∧ first.HandWritten name wrapper second) ∧
      (∀ depth scene, library.call depth left scene = library.call depth right scene) ∧
      ∀ (depth : Nat) (interpreter : Interpreter H) (arguments : List (Slot H)),
        (∀ start, interpreter.call library depth left arguments start =
          interpreter.call library depth right arguments start) ∧
        (interpreter.call library depth left arguments direct.2).map
            (Prod.map id (World.recounted · 0)) =
          (interpreter.call library depth right arguments written.2).map
            (Prod.map id (World.recounted · 0)) := by
  intro direct written
  have built : BothBuilt (Callback.HandWritten name wrapper) world direct written :=
    Assembly.related_build runs plan world world.closures world.closures
  generalize direct = ended at built ⊢
  generalize written = ended' at built ⊢
  cases built with
  | error error => exact .inl ⟨error, rfl, rfl⟩
  | @ok left right alike fewer more =>
      have calls (depth : Nat) (scene : Scene H) :
          library.call depth left scene = library.call depth right scene := by
        rw [Library.call_eq_callWith_nested, Library.call_eq_callWith_nested,
          alike.callWith_eq runs]
      have interpreterCalls (depth : Nat) (interpreter : Interpreter H)
          (arguments : List (Slot H)) (start : World H) :
          interpreter.call library depth left arguments start =
            interpreter.call library depth right arguments start :=
        Interpreter.call_congr (calls depth _)
      refine .inr ⟨left, right, rfl, rfl, alike, alike.arity_at?_eq runs, fun frame =>
        ⟨alike.accepts_eq runs frame, alike.way_eq runs frame, alike.exists_called runs frame⟩,
        calls, fun depth interpreter arguments =>
          ⟨interpreterCalls depth interpreter arguments, ?_⟩⟩
      exact (interpreter.call_recounted library depth left arguments world fewer).trans
        ((congrArg _ (interpreterCalls depth interpreter arguments _)).trans
          (interpreter.call_recounted library depth right arguments world more).symm)

namespace Sample

/-- The sample library where every custom callable is a closure that adds up its arguments. -/
def summing : Library host :=
  { Session.library #[] with custom := fun _ => { run := RawName.program .sumArguments } }

/-- A set of a function of a text and of whatever adds up its arguments. -/
def textOrSum : Assembly host :=
  .overloads [.item (.function (.tag .text 1)), .deferred "sum" .spot]

/-- Of two numbers both sets take the sum, the one directly and the other through a closure. -/
theorem textOrSum_handWritten :
    summing.custom 0 = { run := summing.raw .sumArguments } ∧
      ∃ left right,
        (textOrSum.build summing (pure (.direct RawName.sumArguments)) { memory := {} }).1 =
            .ok left ∧
          (textOrSum.build summing (Callback.custom .callable 0) { memory := {} }).1 =
            .ok right ∧
          ∃ after,
            ({} : Interpreter host).call summing 0 left [.int 1, .int 2] { memory := {} } =
                some ((.ok [.int 3], after), { memory := {} }) ∧
              ({} : Interpreter host).call summing 0 right [.int 1, .int 2] { memory := {} } =
                some ((.ok [.int 3], after), { memory := {} }) := by
  have runs : summing.custom 0 = { run := summing.raw .sumArguments } := rfl
  refine ⟨runs, ?_⟩
  obtain ⟨error, failed, _⟩ | ⟨left, right, direct, written, _, _, _, _, calls⟩ :=
    directInstallation_observably_handWritten runs textOrSum { memory := {} }
  · cases failed
  · refine ⟨left, right, direct, written, {}, ?_⟩
    rw [← (calls 0 {} [.int 1, .int 2]).1]
    cases direct
    exact ⟨rfl, rfl⟩

end Sample

end HostCall
