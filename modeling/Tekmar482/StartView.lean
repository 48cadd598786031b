import Tekmar482.Lifecycle

/-!
# The view of a start

What counts for a start of the controller: whether it opened the client, discovered, polled
and closed the client again, and which of its calls raised. Each call that the start makes
changes the view in its own way, and those of a poll leave it.
-/

namespace Tekmar482

/-! ## The view of a start -/

/-- What a call means for a start. -/
inductive StartEvent where
  | opening
  | discovered
  | polled
  | turnOn
  | listener
  | closing
  | other

def ControllerCall.startEvent : ControllerCall → StartEvent
  | .session .open => .opening
  | .session .close => .closing
  | .setDiscovery _ => .discovered
  | .setState _ => .polled
  | other => if other.reportingState = some 1 then .turnOn else .other

def LifecycleCall.startEvent : LifecycleCall → StartEvent
  | .controller call => call.startEvent
  | .stateCallback _ _ => .listener
  | _ => .other

/-- What a start has done so far. Reporting is turned on again by the handler when the poll
is not complete, or when it was attempted before. -/
structure StartView where
  object : ControllerObject
  opened : Bool := false
  discovered : Bool := false
  polled : Bool := false
  turnedOn : Bool := false
  closed : Bool := false
  openRaised : Bool := false
  listenerRaised : Bool := false
  handlerRaised : Bool := false

namespace StartView

def after (self : StartView) (object : ControllerObject) (event : StartEvent)
    (raised : Option PyException) : StartView :=
  match event with
  | .opening =>
      { self with
        object := object, opened := true, openRaised := self.openRaised || raised.isSome }
  | .discovered => { self with object := object, discovered := true }
  | .polled => { self with object := object, polled := true }
  | .turnOn =>
      { self with
        object := object, turnedOn := true
        handlerRaised := self.handlerRaised || (!self.polled || self.turnedOn) &&
          raised.any fun err => !err.isOsOrTekmarError }
  | .listener =>
      { self with object := object, listenerRaised := self.listenerRaised || raised.isSome }
  | .closing => { self with object := object, closed := true }
  | .other => { self with object := object }

end StartView

open Routine

/-- The calls of a start, and the replies they may get. -/
def startContract : Contract LifecycleCall LifecycleReply PyException StartView where
  requires _ _ := True
  answers view call reply view' := ∃ messages object,
    view.object.Answers call reply messages object ∧
      view' = view.after object call.startEvent (raisedBy reply)

namespace StartView

/-! ## The rules of the calls -/

/-- The calls of the controller's routines in a start. -/
abbrev startCalls : Contract ControllerCall ControllerReply PyException StartView :=
  startContract.comap LifecycleCall.controller fun _ reply => reply

section Rules

variable {view : StartView}

/-- An attribute is read or set at once. -/
theorem follows_access {call : LifecycleCall} {value : LifecycleReply call}
    {next : ControllerObject} {Q : StartView → Except PyException (LifecycleReply call) → Prop}
    (haccess : view.object.access call = some (value, next))
    (h : Q (view.after next call.startEvent none) (.ok value)) :
    (perform call : LifecycleRoutine (LifecycleReply call)).Follows startContract Q view := by
  refine follows_perform.mpr ⟨trivial, ?_⟩
  rintro reply view' ⟨messages, object, hanswers, rfl⟩
  rw [ControllerObject.Answers, haccess] at hanswers
  obtain ⟨rfl, -, rfl⟩ := hanswers
  exact h

/-- Any other call is awaited, and may raise. -/
theorem follows_await {call : LifecycleCall}
    {Q : StartView → Except PyException (LifecycleReply call) → Prop}
    (haccess : view.object.access call = none)
    (h : ∀ reply messages, (call.sure = true → ∃ value, reply = .ok value) →
      Q (view.after (view.object.took messages) call.startEvent (raisedBy reply)) reply) :
    (perform call : LifecycleRoutine (LifecycleReply call)).Follows startContract Q view := by
  refine follows_perform.mpr ⟨trivial, ?_⟩
  rintro reply view' ⟨messages, object, hanswers, rfl⟩
  rw [ControllerObject.Answers, haccess] at hanswers
  obtain ⟨rfl, hsure⟩ := hanswers
  exact h reply messages hsure

/-- A call of the controller's routines is the call itself. -/
theorem follows_startCall {call : ControllerCall}
    {Q : StartView → Except PyException (ControllerReply call) → Prop}
    (h : (perform (LifecycleCall.controller call) :
      LifecycleRoutine (LifecycleReply (.controller call))).Follows startContract Q view) :
    (perform call : ControllerRoutine (ControllerReply call)).Follows startCalls Q view := by
  obtain ⟨-, hreply⟩ := follows_perform.mp h
  refine follows_perform.mpr ⟨trivial, ?_⟩
  rintro reply view' ⟨_, hanswer, rfl⟩
  exact hreply _ view' hanswer

/-- Where only the state and the discovery may differ. -/
structure Same (view view' : StartView) : Prop where
  flags : view' = { view with object := view'.object }
  running : view'.object.running = view.object.running
  reportTask : view'.object.reportTask = view.object.reportTask

theorem Same.refl (view : StartView) : view.Same view := ⟨rfl, rfl, rfl⟩

theorem startEvent_polls {call : ControllerCall} (h : call.Polls) :
    call.startEvent = .other := by
  cases call with
  | session call =>
      cases call with
      | send command | requestResponse command | updateResponse command =>
          have hnone : command.reportingState = none := h
          simp [ControllerCall.startEvent, ControllerCall.reportingState, hnone]
      | readUntil | deadlineExpired => rfl
      | «open» | close | isOpen => exact h.elim
  | _ => exact h.elim

theorem startEvent_reportingUpdate (enabled : Bool) :
    (LifecycleCall.controller (reportingUpdate enabled)).startEvent =
      if enabled then .turnOn else .other := by
  have hstate : (reportingUpdate enabled).reportingState = some (if enabled then 1 else 0) :=
    TrpcCommand.reportingState_update enabled
  have hevent : (LifecycleCall.controller (reportingUpdate enabled)).startEvent =
      if (reportingUpdate enabled).reportingState = some 1 then .turnOn else .other := rfl
  rw [hevent, hstate]
  cases enabled <;> rfl

/-- A program that polls changes nothing that counts for a start. -/
theorem follows_polls {α : Type} {routine : ClientRoutine α} (h : routine.Asks Client.Polls)
    {Q : StartView → Except PyException α → Prop}
    (hpost : ∀ view' result, view.Same view' → Q view' result) :
    (Controller.client routine).Follows startCalls Q view := by
  apply (Client.asks_polls h).follows Same (fun _ _ _ => trivial) _ hpost (.refl view)
  rintro view' call reply next hpolls hsame ⟨reply', ⟨messages, object, hanswers, rfl⟩, -⟩
  rw [ControllerObject.Answers, ControllerObject.access_polls hpolls] at hanswers
  obtain ⟨rfl, -⟩ := hanswers
  have hevent : (LifecycleCall.controller call).startEvent = .other := startEvent_polls hpolls
  rw [hevent]
  exact ⟨by rw [StartView.after, hsame.flags], hsame.running, hsame.reportTask⟩

end Rules

end StartView

end Tekmar482
