import Tekmar482.StopRoutine

/-!
# stop closes the client

The report task and the calls of `stop` share the running flag and the request to end the task.
As long as the task handles what its calls raise, it lives while the controller runs, and no call
of `stop` ends before it has attempted to close the client.
-/

namespace Tekmar482

open Routine

namespace ControllerObject

variable {object after : ControllerObject} {call : LifecycleCall}
  {reply : Except PyException (LifecycleReply call)} {messages : List TrpcPacket}

theorem access_steady {value : LifecycleReply call} (hsteady : call.steady = true)
    (haccess : object.access call = some (value, after)) :
    (object.running = false → after.running = false) ∧
      (object.state.isSome = true → after.state.isSome = true) := by
  cases call with
  | controller call =>
      cases call with
      | setState data => cases hsteady
      | applyMessage message =>
          cases haccess
          exact ⟨id, fun hsome => Option.isSome_map.trans hsome⟩
      | _ => cases haccess <;> exact ⟨id, id⟩
  | setRunning running =>
      cases haccess
      cases running with
      | false => exact ⟨fun _ => rfl, id⟩
      | true => cases hsteady
  | applyReport message =>
      obtain ⟨running, discovery, state, reportTask, lastError⟩ := object
      cases state <;> cases haccess <;> exact ⟨id, fun hsome => hsome⟩
  | _ => cases haccess <;> exact ⟨id, id⟩

/-- A steady call neither starts the controller nor drops its state. -/
theorem Answers.steady (h : object.Answers call reply messages after)
    (hsteady : call.steady = true) :
    (object.running = false → after.running = false) ∧
      (object.state.isSome = true → after.state.isSome = true) := by
  have htook : (object.took messages).state.isSome = object.state.isSome := Option.isSome_map
  rw [Answers] at h
  split at h
  · rename_i value next haccess
    obtain ⟨-, -, rfl⟩ := h
    exact access_steady hsteady haccess
  · obtain ⟨rfl, -⟩ := h
    exact ⟨id, fun hsome => htook.trans hsome⟩

theorem Answers.seesStop (h : object.Answers call reply messages after)
    (hsees : call.seesStop reply = true) : object.running = false := by
  cases call with
  | controller call =>
      cases call with
      | isRunning =>
          obtain ⟨rfl, -⟩ := h
          exact (Bool.not_eq_true' _).mp hsees
      | _ => cases hsees
  | _ => cases hsees

theorem Answers.clears (h : object.Answers call reply messages after)
    (hclears : call.clears = true) : after.running = false := by
  cases call with
  | setRunning running =>
      obtain ⟨-, -, rfl⟩ := h
      cases running with
      | false => rfl
      | true => cases hclears
  | _ => cases hclears

end ControllerObject

/-- What is left of a call of `stop` closes the client, and once it has begun the controller
does not run. -/
def StopCall.Sound (self : StopCall) (object : ControllerObject) : Prop :=
  ∃ view : StopView, self.routine.Follows stopContract StopView.Ended view ∧
    view.closed = self.closed ∧ (view.begun = true → object.running = false)

theorem StopCall.Sound.mono {stop : StopCall} {object after : ControllerObject}
    (h : stop.Sound object) (hrunning : object.running = false → after.running = false) :
    stop.Sound after := by
  obtain ⟨view, hfollows, hclosed, hbegun⟩ := h
  exact ⟨view, hfollows, hclosed, fun hview => hrunning (hbegun hview)⟩

namespace StartedController

/-- What is left of the report task ends only if the controller does not run. -/
def TaskSound (self : StartedController) : Prop :=
  ∃ view : ReportView, self.task.Follows reportContract ReportView.Ended view ∧
    (view.stopped = true → self.object.running = false) ∧
    (view.cancelled = true → self.cancelRequested = true)

structure Invariant (s : StartedController) : Prop where
  state : s.object.state.isSome = true
  task : s.TaskSound
  cancelRequested : s.cancelRequested = true → s.object.running = false
  stops : ∀ stop ∈ s.stops, stop.Sound s.object
  bounded : ∀ stop ∈ s.stops, stop.routine.Within 7
  cancels : s.task.EndsOn .cancelledError 1

variable {s t : StartedController} {fuel turns : Nat}

theorem Started.invariant (h : s.Started fuel turns) : s.Invariant where
  state := h.state
  task := by
    refine ⟨{}, ?_, nofun, nofun⟩
    rw [h.task]
    exact ReportView.follows_reportLoop fuel turns {}
  cancelRequested := fun hrequested => by cases h.cancelRequested.symm.trans hrequested
  stops := by
    rw [h.stops]
    exact List.forall_mem_nil _
  bounded := by
    rw [h.stops]
    exact List.forall_mem_nil _
  cancels := by
    rw [h.task]
    exact Lifecycle.endsOn_reportLoop fuel turns

/-- The report task has ended, so that the controller does not run, or was cancelled. -/
theorem Invariant.ended (h : s.Invariant) {result : Except PyException Unit}
    (hresult : s.task.result = some result) :
    s.object.running = false ∧ ∀ err, result = .error err → err = .cancelledError := by
  obtain ⟨view, hfollows, hstopped, hcancelled⟩ := h.task
  have hended := hfollows.result hresult
  cases result with
  | ok _ => exact ⟨hstopped hended, nofun⟩
  | error err =>
      refine ⟨h.cancelRequested (hcancelled hended.2), ?_⟩
      rintro _ ⟨⟩
      exact hended.1

theorem Invariant.closes (h : s.Invariant) : s.Closes where
  alive := by
    intro hrunning
    cases hresult : s.task.result with
    | none => rfl
    | some result => cases hrunning.symm.trans (h.ended hresult).1
  closed := by
    intro stop hmem result hresult
    obtain ⟨view, hfollows, hclosed, hbegun⟩ := h.stops stop hmem
    have hended := hfollows.result hresult
    exact ⟨hclosed ▸ hended.2, hbegun hended.1⟩
  bounded := h.bounded
  cancels := h.cancels

/-! ## The steps -/

/-- The report task goes on. -/
theorem Invariant.report (h : s.Invariant) {call : LifecycleCall}
    {next : Except PyException (LifecycleReply call) → LifecycleRoutine Unit}
    {reply : Except PyException (LifecycleReply call)} {messages : List TrpcPacket}
    {after : ControllerObject} (hroutine : s.task = .call call next)
    (hanswers : s.object.Answers call reply messages after)
    (hhandled : s.Handled (.report call reply)) :
    ({ s with object := after, task := next reply } : StartedController).Invariant := by
  obtain ⟨view, hfollows, hstopped, hcancelled⟩ := h.task
  have hcancels := h.cancels
  rw [hroutine] at hfollows hcancels
  obtain ⟨hsteady, hreplies⟩ := hfollows
  obtain ⟨hrunning, hstate⟩ := hanswers.steady hsteady
  have hanswer : reportContract.answers view call reply (view.after call reply) := by
    refine ⟨⟨_, _, _, hanswers, h.state⟩, fun err herr => ?_, rfl⟩
    exact (hhandled err herr).imp_left And.left
  refine ⟨hstate h.state, ⟨_, hreplies reply _ hanswer, ?_, ?_⟩, ?_, ?_, h.bounded, ?_⟩
  · intro hview
    obtain hbefore | hsees := Bool.or_eq_true_iff.mp hview
    · exact hrunning (hstopped hbefore)
    · exact hrunning (hanswers.seesStop hsees)
  · intro hview
    obtain hbefore | hraised := Bool.or_eq_true_iff.mp hview
    · exact hcancelled hbefore
    · cases reply with
      | ok _ => cases of_decide_eq_true hraised
      | error err =>
          cases of_decide_eq_true hraised
          obtain ⟨-, hrequested⟩ | ⟨hfamily, -⟩ := hhandled _ rfl
          · exact hrequested
          · cases hfamily
  · exact fun hrequested => hrunning (h.cancelRequested hrequested)
  · exact fun stop hmem => (h.stops stop hmem).mono hrunning
  · exact hcancels.2 reply

/-- A call of `stop` goes on. -/
theorem Invariant.stop (h : s.Invariant) {k : Nat} {stop : StopCall} {call : LifecycleCall}
    {next : Except PyException (LifecycleReply call) → LifecycleRoutine Unit}
    {reply : Except PyException (LifecycleReply call)} {messages : List TrpcPacket}
    {after : ControllerObject} (hknown : s.stops[k]? = some stop)
    (hroutine : stop.routine = .call call next)
    (hanswers : s.object.Answers call reply messages after) (hawaits : s.Awaits call reply)
    (hhandled : s.Handled (.stop k call reply)) :
    ({ s with
        object := after
        cancelRequested := s.cancelRequested || call.cancels
        stops := s.stops.set k { routine := next reply, closed := stop.closed || call.closes } } :
      StartedController).Invariant := by
  have hmem := List.mem_of_getElem? hknown
  obtain ⟨view, hfollows, hclosed, hbegun⟩ := h.stops stop hmem
  have hbounded := h.bounded stop hmem
  rw [hroutine] at hfollows hbounded
  obtain ⟨⟨hsteady, hcancels⟩, hreplies⟩ := hfollows
  obtain ⟨hrunning, hstate⟩ := hanswers.steady hsteady
  have hanswer : stopContract.answers view call reply (view.after call) := by
    refine ⟨⟨_, _, _, hanswers⟩, fun err herr => ⟨?_, hhandled err herr⟩, rfl⟩
    rintro rfl
    exact (h.ended hawaits).2 err herr
  have hsound : ({ routine := next reply, closed := stop.closed || call.closes } : StopCall).Sound
      after := by
    refine ⟨_, hreplies reply _ hanswer, congrArg (· || call.closes) hclosed, fun hview => ?_⟩
    obtain hbefore | hclears := Bool.or_eq_true_iff.mp hview
    · exact hrunning (hbegun hbefore)
    · exact hanswers.clears hclears
  refine ⟨hstate h.state, ?_, ?_, fun other hother => ?_, fun other hother => ?_, h.cancels⟩
  · obtain ⟨taskView, htask, hstopped, hcancelled⟩ := h.task
    refine ⟨taskView, htask, fun hview => hrunning (hstopped hview), fun hview => ?_⟩
    exact Bool.or_eq_true_iff.mpr (.inl (hcancelled hview))
  · intro hrequested
    obtain hbefore | hcall := Bool.or_eq_true_iff.mp hrequested
    · exact hrunning (h.cancelRequested hbefore)
    · exact hrunning (hbegun (hcancels hcall))
  · obtain hold | rfl := List.mem_or_eq_of_mem_set hother
    · exact (h.stops other hold).mono hrunning
    · exact hsound
  · obtain hold | rfl := List.mem_or_eq_of_mem_set hother
    · exact h.bounded other hold
    · exact hbounded.next reply

/-- `stop` is called once more. -/
theorem Invariant.callStop (h : s.Invariant) :
    ({ s with stops := s.stops ++ [{}] } : StartedController).Invariant := by
  have hmem (stop : StopCall) (hstop : stop ∈ s.stops ++ [{}]) : stop ∈ s.stops ∨ stop = {} :=
    (List.mem_append.mp hstop).imp_right List.mem_singleton.mp
  refine ⟨h.state, h.task, h.cancelRequested, fun stop hstop => ?_, fun stop hstop => ?_, h.cancels⟩
  · obtain hold | rfl := hmem stop hstop
    · exact h.stops stop hold
    · exact ⟨{}, StopView.follows_stop {}, rfl, nofun⟩
  · obtain hold | rfl := hmem stop hstop
    · exact h.bounded stop hold
    · exact Lifecycle.within_stop

theorem Invariant.step (h : s.Invariant) {action : StopAction} (hhandled : s.Handled action)
    (hstep : Stepped s action t) : t.Invariant := by
  cases hstep with
  | report hroutine hanswers => exact h.report hroutine hanswers hhandled
  | callStop => exact h.callStop
  | stop hknown hroutine hanswers hawaits =>
      exact h.stop hknown hroutine hanswers hawaits hhandled

theorem Invariant.reaches (h : s.Invariant) (hrun : Reaches Handled s t) : t.Invariant := by
  induction hrun with
  | refl => exact h
  | tail _ hstep ih =>
      obtain ⟨action, hhandled, hstepped⟩ := hstep
      exact ih.step hhandled hstepped

/-- As long as the report task handles what its calls raise, `is_running` is true only while it
is alive, and every call of `stop` closes the client. -/
theorem closes_of_handled (hstarted : s.Started fuel turns) (hrun : Reaches Handled s t) :
    t.Closes :=
  (hstarted.invariant.reaches hrun).closes

end StartedController

end Tekmar482
