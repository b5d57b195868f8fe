import HostCall.Proofs.DirectApplication
import HostCall.Proofs.HeapRuns

/-!
# The receiver in argument 0

A method that finds its receiver in argument 0 does what it does when it is applied directly
(`Interpreter.call_method`).  Its frame has one slot in front of the arguments, so two kinds of
failure count one more than the direct application: a wrong number of arguments, and a stack
that overflows (`CallError.withReceiver`).  The limit of the stack must be one higher for that
(`Interpreter.deepened`), or the receiver itself takes up room that the arguments had.

Argument 0 is a handle of the heap or the object itself.  A handle must be live; the object
behind it is overwritten by what the method leaves (`Interpreter.call_method_handle`).  The
object itself goes with the frame, and the heap stays as it is (`Interpreter.call_method_native`).
-/

set_option autoImplicit false

namespace HostCall

variable {H : Host}

/-! ## One slot more -/

/-- The failure as it is counted with a receiver in front of the arguments and one slot more on
the stack. -/
def CallError.withReceiver : CallError → CallError
  | wrongCount expected actual => wrongCount (expected.shift 1) (actual + 1)
  | stackOverflow depth limit => stackOverflow (depth + 1) (limit + 1)
  | error => error

/-- The policy with room for one slot more. -/
def Policy.deepened (policy : Policy) : Policy :=
  { policy with stackLimit := policy.stackLimit + 1 }

/-- The interpreter with room for one slot more. -/
def Interpreter.deepened (interpreter : Interpreter H) : Interpreter H :=
  { interpreter with policy := interpreter.policy.deepened }

theorem Policy.takes_deepened (policy : Policy) (declared : Arity) (count : Nat) :
    policy.deepened.takes (declared.shift 1) (count + 1) = policy.takes declared count := by
  rw [Policy.takes, Policy.takes, Policy.deepened]
  cases policy.surplus with
  | ignore => simp [Arity.shift]
  | reject => rw [Bool.eq_iff_iff, Arity.admits_shift]; simp

theorem Policy.written_deepened (policy : Policy) (height : Nat) (type : ResultType)
    (content : type.Val H) :
    policy.deepened.written (height + 1) type content =
      (policy.written height type content).mapError .withReceiver := by
  rw [Policy.written, Policy.written]
  cases type.encode content with
  | error text => rfl
  | ok slots =>
      have same : height + 1 + slots.length ≤ policy.deepened.stackLimit ↔
          height + slots.length ≤ policy.stackLimit := by
        simp only [Policy.deepened]
        omega
      by_cases fits : height + slots.length ≤ policy.stackLimit
      · simp only [if_pos fits, if_pos (same.mpr fits)]
        rfl
      · simp only [if_neg fits, if_neg (mt same.mp fits)]
        rfl

/-! ## What a method leaves -/

namespace Method

/-- The frame that a method leaves: its receiver is written if the method changes it. -/
def leave (method : Method H) (frame : Frame H) (changed : H.Value method.receiver) : Frame H :=
  match method.access with
  | .shared => frame
  | .exclusive => frame.putReceiver method.receiver changed

theorem run_leave (method : Method H) (frame : Frame H) (changed : H.Value method.receiver) :
    FrameRun frame [] (method.leave frame changed) := by
  rw [leave]
  cases method.access with
  | shared => exact .refl frame
  | exclusive =>
      dsimp only
      rw [Frame.putReceiver]
      cases written : frame.setReceiver method.receiver changed with
      | error error => exact .refl frame
      | ok next => exact (FrameStep.setReceiver method.receiver changed written).run

/-- A call of a method reads what it needs, runs the body, and delivers the result. -/
theorem call_eq (method : Method H) (handle : HostHandler H) (scene : Scene H) :
    method.call handle scene =
      match scene.frame.prepareMember ((Arity.ofParameters method.parameters).shift 1)
        method.receiver method.parameters with
      | .error error => some (.error error, scene)
      | .ok (value, parameters) =>
          (method.runBody handle value parameters scene.world).map
            fun ((content, changed), world) =>
              (method.leave scene.frame changed).deliver world method.result content := by
  obtain ⟨receiver, types, result, body⟩ := method
  rw [call_eq_putReceiver]
  cases scene.frame.prepareMember ((Arity.ofParameters types).shift 1) receiver types with
  | error error => rfl
  | ok read =>
      cases body with
      | shared run =>
          simp only [runBody, Option.map_map]
          rfl
      | exclusive run => rfl

end Method

/-! ## Calls with a receiver in argument 0 -/

section ReceiverArgument

variable {library : Library H} {name : H.Method} {interpreter : Interpreter H} {slot : Slot H}
  {value : H.Value (library.method name).receiver}

/-- Behind a receiver the parameters are read as without it. -/
theorem Interpreter.prepareMember_deepened {arguments : List (Slot H)} {type : H.Receiver}
    {content : H.Value type}
    (found : (interpreter.deepened.entry (slot :: arguments)).receiver type = .ok content)
    (types : List SlotType) :
    (interpreter.deepened.entry (slot :: arguments)).prepareMember
        ((Arity.ofParameters types).shift 1) type types =
      ((Parameters.read interpreter.policy types arguments).mapError .withReceiver).map
        (content, ·) := by
  rw [Frame.prepareMember, Frame.checkCount, takesCount_entry, argumentCount_entry,
    Parameters.read, found, List.length_cons]
  have counted := interpreter.policy.takes_deepened (.ofParameters types) arguments.length
  cases taken : interpreter.policy.takes (.ofParameters types) arguments.length with
  | false =>
      rw [taken] at counted
      simp only [deepened, counted]
      rfl
  | true =>
      rw [taken] at counted
      have extracted := interpreter.deepened.extract_entry [slot] (Policy.least_le_of_takes taken)
      simp only [deepened, counted]
      refine congrArg (Except.map (content, ·)) (extracted.trans ?_)
      cases Parameters.decode types arguments <;> rfl

/-- A call of a method on a receiver in argument 0 comes to the application of the method, with
failures counted one higher, and leaves the heap as the receiver is left. -/
theorem Interpreter.call_method {arguments : List (Slot H)}
    (heapAfter : H.Value (library.method name).receiver → Heap H)
    (found : (interpreter.deepened.entry (slot :: arguments)).receiver
      (library.method name).receiver = .ok value)
    (unchanged : heapAfter value = interpreter.heap)
    (changes : ∀ changed, ((interpreter.deepened.entry (slot :: arguments)).putReceiver
      (library.method name).receiver changed).heap = heapAfter changed)
    (depth : Nat) (id : ClosureId) (world : World H) :
    interpreter.deepened.call library depth (.closure id (.method name)) (slot :: arguments)
        world =
      ((library.method name).apply (library.handler depth) interpreter.policy
          interpreter.stack.size arguments value world).map fun ((outcome, changed), after) =>
        ((outcome.mapError .withReceiver,
          { interpreter.deepened with heap := heapAfter changed }), after) := by
  have ran : library.callBlock (library.nested depth) (.method name)
        ⟨interpreter.deepened.entry (slot :: arguments), world⟩ =
      (library.method name).call (library.handler depth)
        ⟨interpreter.deepened.entry (slot :: arguments), world⟩ := rfl
  rw [Method.call_eq, prepareMember_deepened found] at ran
  refine (call_of_prepared id ((Parameters.read interpreter.policy
    (library.method name).parameters arguments).mapError .withReceiver)
    (fun parameters =>
      (library.method name).runBody (library.handler depth) value parameters world)
    (fun ended => (library.method name).leave (interpreter.deepened.entry (slot :: arguments))
      ended.1.2)
    Prod.snd (fun ended => ended.1.1) (fun error read => ?_) (fun parameters read => ?_)
    (fun ended => (library.method name).run_leave _ ended.1.2)).trans ?_
  · rw [ran, read]
    rfl
  · rw [ran, read]
    rfl
  have crowding : interpreter.deepened.policy.stackLimit <
        interpreter.deepened.stack.size + (slot :: arguments).length ↔
      interpreter.policy.stackLimit < interpreter.stack.size + arguments.length := by
    simp only [deepened, Policy.deepened, List.length_cons]
    omega
  rw [Method.apply]
  dsimp only
  by_cases crowded : interpreter.policy.stackLimit < interpreter.stack.size + arguments.length
  · rw [if_pos crowded, if_pos (crowding.mpr crowded), Option.map_some, unchanged]
    rfl
  rw [if_neg crowded, if_neg (mt crowding.mp crowded)]
  cases Parameters.read interpreter.policy (library.method name).parameters arguments with
  | error error =>
      dsimp only [Except.mapError]
      rw [Option.map_some, unchanged]
      rfl
  | ok parameters =>
      dsimp only [Except.mapError]
      rw [Option.map_map]
      refine Option.map_congr ?_
      intro ended body
      obtain ⟨⟨content, changed⟩, after⟩ := ended
      have written := interpreter.policy.written_deepened
        (interpreter.stack.size + arguments.length) (library.method name).result content
      have left : ((library.method name).leave
          (interpreter.deepened.entry (slot :: arguments)) changed).heap = heapAfter changed := by
        rw [Method.leave]
        cases access : (library.method name).access with
        | shared =>
            rw [Method.eq_of_runBody_shared access body]
            exact unchanged.symm
        | exclusive => exact changes changed
      dsimp only [Function.comp_apply]
      rw [left]
      exact congrArg (fun outcome =>
        ((outcome, { interpreter.deepened with heap := heapAfter changed }), after)) written

theorem Interpreter.receiverSlot_entry (interpreter : Interpreter H) (slot : Slot H)
    (arguments : List (Slot H)) :
    (interpreter.entry (slot :: arguments)).receiverSlot = .ok slot := by
  rw [Frame.receiverSlot, argument?_entry]
  rfl

/-- A live handle in argument 0: the object behind it is written. -/
theorem Interpreter.call_method_handle {handle : Handle H.toVocabulary}
    (reached : interpreter.heap.get? handle (library.method name).receiver = some value)
    (depth : Nat) (id : ClosureId) (arguments : List (Slot H)) (world : World H) :
    interpreter.deepened.call library depth (.closure id (.method name))
        (.object handle :: arguments) world =
      ((library.method name).apply (library.handler depth) interpreter.policy
          interpreter.stack.size arguments value world).map fun ((outcome, changed), after) =>
        ((outcome.mapError .withReceiver, { interpreter.deepened with
          heap := interpreter.heap.replace handle ⟨(library.method name).receiver, changed⟩ }),
          after) := by
  have slot := interpreter.deepened.receiverSlot_entry (.object handle) arguments
  have heap : (interpreter.deepened.entry (.object handle :: arguments)).heap =
      interpreter.heap := rfl
  have read := Heap.get_of_get? reached
  refine call_method (fun changed => interpreter.heap.replace handle ⟨_, changed⟩) ?_
    (Heap.replace_self (Heap.get?_eq_some_iff.mp reached)) (fun changed => ?_) depth id world
  · rw [Frame.receiver, slot]
    exact read
  · simp only [Frame.putReceiver, Frame.setReceiver_eq, slot, heap, Heap.set_eq, read]
    rfl

/-- The value itself in argument 0: it goes with the frame. -/
theorem Interpreter.call_method_native (interpreter : Interpreter H)
    (value : H.Value (library.method name).receiver) (depth : Nat) (id : ClosureId)
    (arguments : List (Slot H)) (world : World H) :
    interpreter.deepened.call library depth (.closure id (.method name))
        (.native ⟨(library.method name).receiver, value⟩ :: arguments) world =
      ((library.method name).apply (library.handler depth) interpreter.policy
          interpreter.stack.size arguments value world).map fun ((outcome, _), after) =>
        ((outcome.mapError .withReceiver, interpreter.deepened), after) := by
  have slot := interpreter.deepened.receiverSlot_entry
    (.native ⟨(library.method name).receiver, value⟩) arguments
  refine call_method (fun _ => interpreter.heap) ?_ rfl (fun changed => ?_) depth id world
  · simp only [Frame.receiver, slot, Object.as?_self]
  · simp only [Frame.putReceiver, Frame.setReceiver_eq, slot, Object.as?_self]
    rfl

end ReceiverArgument

end HostCall
