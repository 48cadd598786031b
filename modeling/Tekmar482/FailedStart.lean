import Tekmar482.StartParts

/-!
# A start that fails

`start` sets the running flag before it notifies the listeners, and it opens the client
before its handler is in force. A failed start leaves the controller as one that was never
started exactly if neither of these raises, and if its handler comes to close the client.
-/

namespace Tekmar482

open Routine

/-- The next start opens the client, discovers and polls before it returns. -/
def StartsAfresh (options : ControllerOptions) (object : ControllerObject) : Prop :=
  ∀ trace view data,
    Completes startContract (Lifecycle.start options) { object } trace view (.ok data) →
      view.opened = true ∧ view.discovered = true ∧ view.polled = true

/-- A failed start is no start: the controller does not run, it has no report task, closing
the client was attempted, and the next start starts afresh. -/
structure NoStart (options : ControllerOptions) (view : StartView) : Prop where
  stopped : view.object.running = false
  taskless : view.object.reportTask = false
  closed : view.closed = true
  afresh : StartsAfresh options view.object

/-- A start that fails on a controller that does not run is no start exactly if neither
opening the client nor a listener raises, and turning reporting on again in the handler
raises nothing but the exceptions of the gateway. -/
theorem noStart_iff (options : ControllerOptions) {object : ControllerObject}
    {trace : List ((call : LifecycleCall) × Except PyException (LifecycleReply call))}
    {view : StartView} {err : PyException} (hrunning : object.running = false)
    (htaskless : object.reportTask = false)
    (hstart : Completes startContract (Lifecycle.start options) { object } trace view (.error err)) :
    NoStart options view ↔
      view.openRaised = false ∧ view.listenerRaised = false ∧ view.handlerRaised = false := by
  have hfailed : view.Failed := (StartView.follows_start options hrunning htaskless).completes hstart
  constructor
  · intro h
    have hclosed := hfailed.closed.symm.trans h.closed
    rw [Bool.not_eq_true', Bool.or_eq_false_iff] at hclosed
    exact ⟨hclosed.1, hfailed.running.symm.trans h.stopped, hclosed.2⟩
  · rintro ⟨hopen, hlistener, hhandler⟩
    have hstopped : view.object.running = false := hfailed.running.trans hlistener
    refine ⟨hstopped, hfailed.taskless, ?_, ?_⟩
    · rw [hfailed.closed, hopen, hhandler]
      rfl
    · intro trace' view' data hnext
      exact (StartView.follows_start options hstopped hfailed.taskless).completes hnext

/-! ## Two failures -/

section Executions

variable {α : Type} {view view' : StartView} {result : Except PyException α}
  {trace : List ((call : LifecycleCall) × Except PyException (LifecycleReply call))}

theorem completes_access {call : LifecycleCall} {value : LifecycleReply call}
    {next : ControllerObject} {rest : Except PyException (LifecycleReply call) → LifecycleRoutine α}
    (haccess : view.object.access call = some (value, next))
    (tail : Completes startContract (rest (.ok value)) (view.after next call.startEvent none) trace
      view' result) :
    Completes startContract (.call call rest) view (⟨call, .ok value⟩ :: trace) view' result :=
  .call ⟨[], next, .access haccess, rfl⟩ tail

theorem completes_returned {call : LifecycleCall} (value : LifecycleReply call)
    {rest : Except PyException (LifecycleReply call) → LifecycleRoutine α}
    (haccess : view.object.access call = none)
    (tail : Completes startContract (rest (.ok value))
      (view.after (view.object.took []) call.startEvent none) trace view' result) :
    Completes startContract (.call call rest) view (⟨call, .ok value⟩ :: trace) view' result :=
  .call ⟨[], view.object.took [], .returned value haccess, rfl⟩ tail

theorem completes_raised {call : LifecycleCall} (err : PyException)
    {rest : Except PyException (LifecycleReply call) → LifecycleRoutine α}
    (haccess : view.object.access call = none) (hsure : call.sure = false)
    (tail : Completes startContract (rest (.error err))
      (view.after (view.object.took []) call.startEvent (some err)) trace view' result) :
    Completes startContract (.call call rest) view (⟨call, .error err⟩ :: trace) view' result :=
  .call ⟨[], view.object.took [], .raised err haccess hsure, rfl⟩ tail

end Executions

/-- The update that disables reporting raises, and the client is closed. -/
theorem noStart_iff_disabling :
    ∃ view, NoStart { inventoryFuel := 16 } view ∧ view.closed = true := by
  have hstart : ∃ trace view, Completes startContract (Lifecycle.start { inventoryFuel := 16 })
        { object := {} } trace view (.error (.osError "")) ∧
      view.openRaised = false ∧ view.listenerRaised = false ∧ view.handlerRaised = false := by
    refine ⟨_, _, completes_access rfl (completes_returned () rfl
      (completes_raised (.osError "") rfl rfl (completes_returned () rfl (.here _ _)))), ?_⟩
    exact ⟨rfl, rfl, rfl⟩
  obtain ⟨trace, view, hstart, hcondition⟩ := hstart
  have hno := (noStart_iff _ rfl rfl hstart).mpr hcondition
  exact ⟨view, hno, hno.closed⟩

/-- A start of a controller whose listener raises. -/
theorem not_noStart_listener :
    ∃ trace view, Completes startContract
        (Lifecycle.start { inventoryFuel := 16, includeDatetime := false }) { object := {} } trace
        view (.error (.otherError "listener")) ∧
      ¬ NoStart { inventoryFuel := 16, includeDatetime := false } view := by
  have hstart : ∃ trace view, Completes startContract
        (Lifecycle.start { inventoryFuel := 16, includeDatetime := false }) { object := {} } trace
        view (.error (.otherError "listener")) ∧
      view.object.running = true := by
    apply Exists.intro
    apply Exists.intro
    constructor
    case left =>
      apply completes_access rfl
      apply completes_returned () rfl
      -- discovery without devices
      iterate 3 apply completes_returned none rfl
      apply completes_returned (TrpcPacket.mk 2 261 .empty []) rfl
      apply completes_returned true rfl
      iterate 2 apply completes_access rfl
      -- the poll
      iterate 4 apply completes_returned none rfl
      apply completes_access rfl
      -- reporting is on again, and the listener is called
      apply completes_returned none rfl
      iterate 3 apply completes_access rfl
      apply completes_returned [0] rfl
      apply completes_access rfl
      apply completes_raised (.otherError "listener") rfl rfl
      apply completes_returned () rfl
      exact .here _ _
    case right => rfl
  obtain ⟨trace, view, hstart, hrunning⟩ := hstart
  refine ⟨trace, view, hstart, fun hno => ?_⟩
  cases hrunning.symm.trans hno.stopped

end Tekmar482
