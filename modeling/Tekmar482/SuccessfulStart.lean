import Tekmar482.SettledMethods
import Tekmar482.StopSteps

/-!
# A start that succeeds

`start` returns on a controller that did not run only after it has installed a state, set the
running flag and created the report task.
-/

namespace Tekmar482

open Routine

namespace ControllerObject

/-- The attributes of a controller that has been polled. -/
structure Polled (object : ControllerObject) : Prop where
  discovery : object.discovery.isSome = true
  state : object.state.isSome = true

variable {object after : ControllerObject} {call : LifecycleCall}
  {reply : Except PyException (LifecycleReply call)} {messages : List TrpcPacket}

/-- No call drops the discovery. -/
theorem Answers.discovery (h : object.Answers call reply messages after)
    (hdiscovery : object.discovery.isSome = true) : after.discovery.isSome = true := by
  cases hcall : call.writes with
  | false => rwa [(DiscoveryView.answers_reads hcall h).1]
  | true =>
      cases call with
      | controller call =>
          cases call with
          | setDiscovery discovery =>
              obtain ⟨-, -, rfl⟩ := h
              rfl
          | setState data | applyMessage message =>
              obtain ⟨-, -, rfl⟩ := h
              exact hdiscovery
          | _ => cases hcall
      | applyReport message => rwa [(DiscoveryView.answers_applyReport h).1]
      | _ => cases hcall

/-- No call drops the state that a discovery was polled for. -/
theorem Answers.polled (h : object.Answers call reply messages after) (hpolled : object.Polled) :
    after.Polled := by
  refine ⟨h.discovery hpolled.discovery, ?_⟩
  cases hcall : call.writes with
  | false =>
      rw [(DiscoveryView.answers_reads hcall h).2]
      exact Option.isSome_map.trans hpolled.state
  | true =>
      cases call with
      | controller call =>
          cases call with
          | setDiscovery discovery =>
              obtain ⟨-, -, rfl⟩ := h
              exact hpolled.state
          | setState data =>
              obtain ⟨-, -, rfl⟩ := h
              exact Option.isSome_map.trans hpolled.discovery
          | applyMessage message =>
              obtain ⟨-, -, rfl⟩ := h
              exact Option.isSome_map.trans hpolled.state
          | _ => cases hcall
      | applyReport message =>
          have hstate := congrArg Option.isSome (DiscoveryView.answers_applyReport h).2
          rw [Option.isSome_map, Option.isSome_map] at hstate
          exact hstate.trans hpolled.state
      | _ => cases hcall

/-- No call of the notification sets the running flag. -/
theorem Answers.notified (h : object.Answers call reply messages after)
    (hcall : Lifecycle.Notifies call) : after.running = object.running := by
  cases call with
  | controller call =>
      cases call with
      | data =>
          obtain ⟨-, -, rfl⟩ := h
          rfl
      | _ => exact hcall.elim
  | stateCallbacks | stateCallback callback data =>
      obtain ⟨rfl, -⟩ := h
      rfl
  | _ => exact hcall.elim

end ControllerObject

namespace DiscoveryView

variable {view : DiscoveryView} {options : ControllerOptions}

/-- What every call keeps of the attributes, a routine keeps. -/
theorem delivers_invariant {α : Type} {I : ControllerObject → Prop}
    (hI : ∀ object call reply messages after,
      ControllerObject.Answers object call reply messages after → I object → I after)
    (routine : LifecycleRoutine α) (hview : I view.object) :
    routine.Delivers discoveryContract (fun _ view' => I view'.object) view := by
  have hall : routine.Asks fun _ => True := Asks.of_forall routine fun _ => trivial
  apply hall.follows (fun _ view' => I view'.object) (fun _ _ _ => trivial) _
    (fun _ _ hI _ _ => hI) (g := view) hview
  rintro view' call reply _ - hbefore ⟨messages, object, hanswers, rfl⟩
  rw [after_object]
  exact hI _ _ _ _ _ hanswers hbefore

/-- One call, and the attributes after it. -/
theorem delivers_call {call : LifecycleCall} {P : LifecycleReply call → DiscoveryView → Prop}
    (h : ∀ reply messages object, view.object.Answers call (.ok reply) messages object →
      P reply (view.after object messages call)) :
    (perform call : LifecycleRoutine (LifecycleReply call)).Delivers discoveryContract P view := by
  apply Delivers.perform trivial
  rintro reply _ ⟨messages, object, hanswers, rfl⟩
  exact h reply messages object hanswers

theorem delivers_discovered (options : ControllerOptions) :
    (Lifecycle.controller (Controller.discover options)).Delivers discoveryContract
      (fun _ view' => view'.object.discovery.isSome = true) view := by
  rw [Controller.discover, Lifecycle.controller_bind]
  apply (delivers_controller (delivers_any _ view)).bind
  intro discovery discovered _
  rw [Lifecycle.controller_bind, Lifecycle.controller_perform]
  apply Delivers.bind (P := fun _ view' => view'.object.discovery.isSome = true)
  · apply delivers_call
    rintro _ _ _ ⟨-, -, rfl⟩
    rfl
  · exact fun _ _ hstored => Delivers.pure hstored

theorem delivers_polled_pollState (discovery : DiscoveryResult)
    (hview : view.object.discovery.isSome = true) :
    (Lifecycle.controller (Controller.pollState options discovery)).Delivers discoveryContract
      (fun _ view' => view'.object.Polled) view := by
  rw [Controller.pollState, Lifecycle.controller_bind]
  apply (delivers_invariant (fun _ _ _ _ _ h => h.discovery) _ hview).bind
  intro data polled hpolled
  rw [Lifecycle.controller_bind, Lifecycle.controller_perform]
  apply Delivers.bind (P := fun _ view' => view'.object.Polled)
  · apply delivers_call
    rintro _ _ _ ⟨-, -, rfl⟩
    exact ⟨hpolled, Option.isSome_map.trans hpolled⟩
  · exact fun _ _ hstored => Delivers.pure hstored

theorem delivers_polled_refreshRuntime (hview : view.object.discovery.isSome = true) :
    (Lifecycle.controller (Controller.refreshRuntime options)).Delivers discoveryContract
      (fun _ view' => view'.object.Polled) view := by
  rw [Controller.refreshRuntime, Lifecycle.controller_bind, Lifecycle.controller_perform]
  apply Delivers.bind (P := fun known view' =>
    known = view'.object.discovery ∧ view'.object.discovery.isSome = true)
  · apply delivers_call
    rintro _ _ _ ⟨hreply, -, rfl⟩
    cases hreply
    exact ⟨rfl, hview⟩
  · rintro known view' ⟨rfl, hdiscovery⟩
    obtain ⟨discovery, hknown⟩ := Option.isSome_iff_exists.mp hdiscovery
    rw [hknown]
    exact delivers_polled_pollState discovery hdiscovery

theorem delivers_polled_seedState :
    (Lifecycle.controller (Controller.seedState options)).Delivers discoveryContract
      (fun _ view' => view'.object.Polled) view := by
  rw [Controller.seedState, Lifecycle.controller_bind]
  apply (delivers_discovered options).bind
  intro _ discovered hdiscovery
  rw [Lifecycle.controller_bind]
  apply (delivers_polled_refreshRuntime hdiscovery).bind
  intro data polled hpolled
  exact delivers_invariant (fun _ _ _ _ _ h => h.polled) _ hpolled

/-- Notifying the listeners leaves the running flag. -/
theorem delivers_running_notifyState (hview : view.object.running = true ∧ view.object.Polled) :
    Lifecycle.notifyState.Delivers discoveryContract
      (fun _ view' => view'.object.running = true ∧ view'.object.Polled) view := by
  apply Lifecycle.asks_notifyState.follows
    (fun _ view' => view'.object.running = true ∧ view'.object.Polled) (fun _ _ _ => trivial) _
    (fun _ _ hkept _ _ => hkept) (g := view) hview
  rintro view' call reply _ hcall ⟨hrunning, hpolled⟩ ⟨messages, object, hanswers, rfl⟩
  rw [after_object]
  exact ⟨(hanswers.notified hcall).trans hrunning, hanswers.polled hpolled⟩

theorem delivers_started_finishStart (data : AvailableInfo) (response : Option TrpcPacket)
    (hview : view.object.Polled) :
    (Lifecycle.finishStart data response).Delivers discoveryContract
      (fun _ view' => view'.object.running = true ∧ view'.object.reportTask = true ∧
        view'.object.Polled) view := by
  apply (delivers_invariant (fun _ _ _ _ _ h => h.polled) _ hview).bind
  intro _ applied happlied
  apply (delivers_invariant (fun _ _ _ _ _ h => h.polled) _ happlied).bind
  intro current read hread
  apply Delivers.bind (P := fun _ view' => view'.object.running = true ∧ view'.object.Polled)
  · apply delivers_call
    rintro _ _ _ ⟨-, -, rfl⟩
    exact ⟨rfl, hread.discovery, hread.state⟩
  · intro _ running hrunning
    apply (delivers_running_notifyState hrunning).bind
    intro _ notified hnotified
    apply Delivers.bind (P := fun _ view' => view'.object.running = true ∧
      view'.object.reportTask = true ∧ view'.object.Polled)
    · apply delivers_call
      rintro _ _ _ ⟨-, -, rfl⟩
      exact ⟨hnotified.1, rfl, hnotified.2.discovery, hnotified.2.state⟩
    · exact fun _ _ hstarted => Delivers.pure hstarted

theorem delivers_started_openStart :
    (Lifecycle.openStart options).Delivers discoveryContract
      (fun _ view' => view'.object.running = true ∧ view'.object.reportTask = true ∧
        view'.object.Polled) view := by
  apply (delivers_controller (delivers_any _ view)).bind
  intro _ opened _
  apply (delivers_controller (delivers_any _ opened)).bind
  intro _ disabled _
  have hseed : (Lifecycle.controller (tryExcept (Controller.seedState options)
      (Controller.abandonStart true))).Delivers discoveryContract
        (fun _ view' => view'.object.Polled) disabled := by
    rw [Lifecycle.controller, lift_tryExcept]
    apply delivers_polled_seedState.tryExcept
    exact fun err _ => delivers_controller (delivers_abandonStart true err)
  apply hseed.bind
  intro seed seeded hseeded
  apply (delivers_started_finishStart seed.1 seed.2 hseeded).tryExcept
  exact fun err _ => delivers_controller (delivers_abandonStart false err)

end DiscoveryView

/-- A start that returns on a controller that did not run has started it. -/
theorem started_of_start {options : ControllerOptions} {view view' : DiscoveryView}
    {trace : List ((call : LifecycleCall) × Except PyException (LifecycleReply call))}
    {data : AvailableInfo} (fuel turns : Nat) (hstopped : view.object.running = false)
    (hstart : Completes discoveryContract (Lifecycle.start options) view trace view' (.ok data)) :
    ({ object := view'.object, task := Lifecycle.reportLoop fuel turns } :
      StartedController).Started fuel turns := by
  have hstarted : (Lifecycle.start options).Delivers discoveryContract
      (fun _ view' => view'.object.running = true ∧ view'.object.reportTask = true ∧
        view'.object.Polled) view := by
    rw [Lifecycle.start, Lifecycle.controller_perform]
    apply Delivers.bind (P := fun running _ => running = none)
    · apply DiscoveryView.delivers_call
      rintro _ _ _ ⟨hreply, -⟩
      cases hreply
      rw [hstopped, if_neg Bool.false_ne_true]
    · rintro _ _ rfl
      exact DiscoveryView.delivers_started_openStart
  obtain ⟨hrunning, hreportTask, hpolled⟩ := hstarted.completes hstart data rfl
  exact ⟨hrunning, hreportTask, hpolled.state, rfl, rfl, rfl⟩

end Tekmar482
