import Tekmar482.SettledMethods

/-!
# Discovery and state together

Sequences of calls of the controller's methods, each of which may fail at any call that it
awaits. What is stored between the two writes of a method stays stored when it fails there.
-/

namespace Tekmar482

open Routine

/-! ## Sequences of calls -/

namespace DiscoveryView

/-- The view when the next method is called. -/
def called (self : DiscoveryView) : DiscoveryView :=
  { self with before := self.object, taken := [], stored := false }

/-- The state takes messages while no method is under way. -/
def took (self : DiscoveryView) (messages : List TrpcPacket) : DiscoveryView :=
  { self with object := self.object.took messages }

end DiscoveryView

/-- A call of a method, with the calls that it made, the view at its end and its result. -/
structure CallRecord where
  operation : Operation
  trace : List ((call : LifecycleCall) × Except PyException (LifecycleReply call))
  view : DiscoveryView
  result : Except PyException Unit

/-- The discovery is the one before the call, and the state the one before it, but for the
messages that it took meanwhile. -/
def CallRecord.Untouched (self : CallRecord) : Prop :=
  self.view.object.discovery = self.view.before.discovery ∧
    self.view.object.state = (self.view.before.took self.view.taken).state

/-- Calls one after the other. Each of them returns or raises, at any call that it awaits. -/
inductive CallSequence (options : ControllerOptions) :
    DiscoveryView → List CallRecord → DiscoveryView → Prop
  | nil (view : DiscoveryView) : CallSequence options view [] view
  | took {view final : DiscoveryView} {records : List CallRecord} (messages : List TrpcPacket)
      (tail : CallSequence options (view.took messages) records final) :
      CallSequence options view records final
  | call {view view' final : DiscoveryView} {records : List CallRecord} {operation : Operation}
      {trace : List ((call : LifecycleCall) × Except PyException (LifecycleReply call))}
      {result : Except PyException Unit}
      (completes : Completes discoveryContract (operation.lifecycle options) view.called trace view'
        result)
      (tail : CallSequence options view' records final) :
      CallSequence options view (⟨operation, trace, view', result⟩ :: records) final

namespace DiscoveryView

variable {options : ControllerOptions} {view final : DiscoveryView} {records : List CallRecord}

/-- Between two methods, the view says the same when the next one is called. -/
theorem Tracked.called (h : view.object.Agrees ↔ view.changed = false) : view.called.Tracked :=
  ⟨h, fun _ => rfl, fun _ => (Option.map_id' (x := view.object.state)).symm⟩

/-- As long as a method proceeds, the view says what it says. -/
theorem Tracked.proceeds {α : Type} {routine rest : LifecycleRoutine α}
    {trace : List ((call : LifecycleCall) × Except PyException (LifecycleReply call))}
    {view' : DiscoveryView} (h : view.Tracked)
    (hproceeds : Proceeds discoveryContract routine view trace view' rest) : view'.Tracked :=
  hproceeds.keeps (fun _ _ _ _ htracked hanswer => htracked.answers hanswer) h

theorem Tracked.sequence (hcalls : CallSequence options view records final)
    (h : view.object.Agrees ↔ view.changed = false) :
    (∀ record ∈ records, record.view.Tracked) ∧
      (final.object.Agrees ↔ final.changed = false) := by
  induction hcalls with
  | nil view => exact ⟨List.forall_mem_nil _, h⟩
  | @took view _ _ messages _ ih =>
      exact ih ((ControllerObject.agrees_took view.object messages).trans h)
  | call completes _ ih =>
      have htracked := (Tracked.called h).proceeds completes
      obtain ⟨hrecords, hfinal⟩ := ih htracked.agrees
      exact ⟨List.forall_mem_cons.mpr ⟨htracked, hrecords⟩, hfinal⟩

/-- If no call raises between its two writes, none ends there. -/
theorem settled_sequence (hcalls : CallSequence options view records final)
    (hview : view.changed = false)
    (hraised : ∀ record ∈ records, record.result.isOk = false → record.view.changed = false) :
    ∀ record ∈ records, record.view.changed = false := by
  induction hcalls with
  | nil view => exact List.forall_mem_nil _
  | took messages _ ih => exact ih hview hraised
  | @call view view' _ _ operation _ result completes _ ih =>
      obtain ⟨hfirst, hrest⟩ := List.forall_mem_cons.mp hraised
      have hcalled : view.called.changed = false := hview
      have hend : view'.changed = false := by
        cases result with
        | ok a => exact (delivers_operation operation hcalled).completes completes a rfl
        | error err => exact hfirst rfl
      exact List.forall_mem_cons.mpr ⟨hend, ih hend hrest⟩

end DiscoveryView

/-- Discovery and state change together, but for the window between the two writes. The calls
all end with the discovery of the state exactly if none of them raises in the window, and while
a call is under way the window is exactly where they differ. A call that has stored nothing new
leaves both untouched. -/
theorem discovery_with_state (options : ControllerOptions) {object : ControllerObject}
    {records : List CallRecord} {final : DiscoveryView} (hagrees : object.Agrees)
    (hcalls : CallSequence options { object } records final) :
    ((∀ record ∈ records, record.view.object.Agrees) ↔
      ∀ record ∈ records, record.result.isOk = false → record.view.changed = false) ∧
    (∀ record ∈ records, record.view.stored = false → record.Untouched) ∧
    ∀ (operation : Operation) trace view rest,
      Proceeds discoveryContract (operation.lifecycle options) final.called trace view rest →
        (view.object.Agrees ↔ view.changed = false) := by
  obtain ⟨hrecords, hfinal⟩ := DiscoveryView.Tracked.sequence hcalls (iff_of_true hagrees rfl)
  refine ⟨⟨fun h record hmem _ => ?_, fun h record hmem => ?_⟩, fun record hmem hstored => ?_, ?_⟩
  · exact (hrecords record hmem).agrees.mp (h record hmem)
  · have hsettled := DiscoveryView.settled_sequence hcalls rfl h record hmem
    exact (hrecords record hmem).agrees.mpr hsettled
  · exact ⟨(hrecords record hmem).discovery hstored, (hrecords record hmem).state hstored⟩
  · exact fun _ _ _ _ hproceeds => ((DiscoveryView.Tracked.called hfinal).proceeds hproceeds).agrees

/-! ## A rediscovery that fails in its poll -/

section Failure

/-- The next call of a method is answered. -/
theorem proceeds_call {α : Type} {view view' : DiscoveryView} {call : LifecycleCall}
    {next : Except PyException (LifecycleReply call) → LifecycleRoutine α}
    {rest : LifecycleRoutine α} {reply : Except PyException (LifecycleReply call)}
    {messages : List TrpcPacket} {object : ControllerObject}
    {trace : List ((call : LifecycleCall) × Except PyException (LifecycleReply call))}
    (hanswers : view.object.Answers call reply messages object)
    (tail : Proceeds discoveryContract (next reply) (view.after object messages call) trace view'
      rest) :
    Proceeds discoveryContract (.call call next) view (⟨call, reply⟩ :: trace) view' rest :=
  .call ⟨messages, object, hanswers, rfl⟩ tail

/-- A controller that polls as little as it can. -/
abbrev bareOptions : ControllerOptions := { inventoryFuel := 16, includeDatetime := false }

/-- The gateway that the first discovery found. -/
abbrev bareDiscovery : DiscoveryResult := { gateway := {}, devices := [] }

/-- A response with the revision of the gateway. -/
abbrev revisionResponse : TrpcPacket :=
  { serviceId := 4, methodId := 0x187, body := .ofList [("revision", 7)] }

/-- The gateway that the second discovery finds. -/
abbrev revisedDiscovery : DiscoveryResult :=
  { gateway := { firmwareRevision := some 7 }, devices := [] }

/-- The controller after its first start. -/
abbrev startedObject : ControllerObject :=
  { running := true, reportTask := true, discovery := some bareDiscovery
    state := some { discovery := bareDiscovery, data := { devices := [] } } }

theorem completes_start : ∃ trace view, Completes discoveryContract
    (Operation.start.lifecycle bareOptions) (DiscoveryView.called { object := {} }) trace view
      (.ok ()) ∧ view.object = startedObject ∧ view.changed = false := by
  apply Exists.intro
  apply Exists.intro
  constructor
  case left =>
    apply proceeds_call (.access rfl)
    apply proceeds_call (.returned () rfl)
    -- discovery without devices
    iterate 3 apply proceeds_call (.returned none rfl)
    apply proceeds_call (.returned (TrpcPacket.mk 2 261 .empty []) rfl)
    apply proceeds_call (.returned true rfl)
    iterate 2 apply proceeds_call (.access rfl)
    -- the poll
    iterate 4 apply proceeds_call (.returned none rfl)
    apply proceeds_call (.access rfl)
    -- reporting is on again
    apply proceeds_call (.returned none rfl)
    iterate 3 apply proceeds_call (.access rfl)
    apply proceeds_call (.returned [] rfl)
    apply proceeds_call (.access rfl)
    exact .here _ _
  case right => exact ⟨rfl, rfl⟩

/-- The gateway has another revision by now, and the first request of the poll is not sent. -/
theorem completes_rediscover {view : DiscoveryView} (hview : view.object = startedObject) :
    ∃ trace view', Completes discoveryContract
      ((Operation.rediscover false).lifecycle bareOptions) view.called trace view'
        (.error (.osError "")) ∧
      view'.before = startedObject ∧ view'.object.state = startedObject.state ∧
      view'.object.discovery = some revisedDiscovery := by
  obtain ⟨object, before, taken, changed, stored⟩ := view
  subst hview
  apply Exists.intro
  apply Exists.intro
  constructor
  case left =>
    apply proceeds_call (.access rfl)
    apply proceeds_call (.returned (some revisionResponse) rfl)
    apply proceeds_call (.returned none rfl)
    apply proceeds_call (.returned (TrpcPacket.mk 2 261 .empty []) rfl)
    apply proceeds_call (.returned true rfl)
    iterate 2 apply proceeds_call (.access rfl)
    apply proceeds_call (.raised (.osError "") rfl rfl)
    exact .here _ _
  case right => exact ⟨rfl, rfl, rfl⟩

/-- A start after which the two agree. -/
theorem discovery_with_state_start : ∃ records final,
    CallSequence bareOptions { object := {} } records final ∧
      ∀ record ∈ records, record.operation = .start ∧ record.view.object.Agrees := by
  obtain ⟨trace, view, hstart, -, hchanged⟩ := completes_start
  have hcalls : CallSequence bareOptions { object := {} } [⟨.start, trace, view, .ok ()⟩] view :=
    .call hstart (.nil view)
  have hagree := (discovery_with_state bareOptions (.stateless rfl) hcalls).1.mpr
    (List.forall_mem_singleton.mpr fun _ => hchanged)
  refine ⟨_, view, hcalls, fun record hmem => ⟨?_, hagree record hmem⟩⟩
  rw [List.mem_singleton.mp hmem]

/-- A rediscovery that raises after a start, and leaves the new discovery beside the old state. -/
theorem discovery_without_state : ∃ records final,
    CallSequence bareOptions { object := {} } records final ∧
      ∃ record ∈ records, record.operation = .rediscover false ∧
        record.result = .error (.osError "") ∧
        ¬ record.view.object.Agrees ∧ ¬ record.Untouched := by
  obtain ⟨trace, view, hstart, hstarted, -⟩ := completes_start
  obtain ⟨trace', view', hrediscover, hbefore, hstate, hdiscovery⟩ := completes_rediscover hstarted
  refine ⟨_, view', .call hstart (.call hrediscover (.nil view')), _,
    List.mem_cons_of_mem _ (List.mem_singleton_self _), rfl, rfl, ?_, ?_⟩
  · intro hagrees
    have hwrong := hdiscovery.symm.trans (hagrees _ hstate)
    revert hwrong
    decide
  · rintro ⟨hsame, -⟩
    rw [hbefore] at hsame
    have hwrong := hdiscovery.symm.trans hsame
    revert hwrong
    decide

end Failure

end Tekmar482
