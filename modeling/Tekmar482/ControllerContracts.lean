import Tekmar482.ClientCalls
import Tekmar482.PolledValues

/-!
# The contract of the controller's tasks

Every task follows one contract. A snapshot replaces the state only if it shows the
values of the replies that its poll has read since the discovery was looked up; the
report loop starts only after that; and only the report loop subscribes.
-/

namespace Tekmar482

open Routine

/-- What the contract follows of a task. -/
structure TaskView where
  discovery : Option DiscoveryResult := none
  cells : ScalarCells := .unread
  idle : Bool := false
  installed : Bool := false

/-- The contract of a task, for the operation that it runs or for the report loop. -/
def taskContract (operation : Option Operation) :
    Contract ControllerCall ControllerReply PyException TaskView where
  requires view call :=
    match call with
    | .setDiscovery discovery => operation.any Operation.refreshes = true ∧ discovery.Distinct
    | .setState data => operation.any Operation.refreshes = true ∧
        (operation = some .start → view.idle = true) ∧
        ∃ discovery, view.discovery = some discovery ∧ Client.Shows discovery data view.cells
    | .applyMessage message => message.methodId = TrpcMethod.reportingState.value
    | .runReportLoop => operation = some .start ∧ view.installed = true
    | .stopReportLoop => operation = some .stop
    | .subscribe => operation = none
    | _ => True
  answers view call reply view' :=
    match call, reply with
    | .session call, reply =>
        ∃ cells, pollContract.answers view.cells call reply cells ∧ view' = { view with cells }
    | .runningData, .ok data => view' = { view with idle := data.isNone }
    | .discovery, .ok discovery => (∀ known, discovery = some known → known.Distinct) ∧
        view' = { view with discovery, cells := .unread }
    | .setDiscovery discovery, _ =>
        view' = { view with discovery := some discovery, cells := .unread }
    | .setState _, _ => view' = { view with installed := true }
    | .runReportLoop, _ => view' = { view with idle := false }
    | _, _ => view' = view

namespace Controller

variable {operation : Option Operation}

/-- A program of the client keeps to the contract, and leaves what it does not read. -/
theorem delivers_client {α : Type} {P : α → ScalarCells → Prop} {routine : ClientRoutine α}
    {view : TaskView} (h : routine.Delivers pollContract P view.cells) :
    (client routine).Delivers (taskContract operation)
      (fun a view' => ∃ cells, P a cells ∧ view' = { view with cells }) view := by
  apply Follows.lift (fun cells view' => view' = { view with cells })
    (fun _ _ _ _ _ => trivial) _ _ h rfl
  · rintro cells _ call reply view' rfl ⟨cells', hanswer, rfl⟩
    exact ⟨cells', hanswer, rfl⟩
  · rintro cells _ result rfl hresult a ha
    exact ⟨cells, hresult a ha, rfl⟩

/-- Where only the cells may have changed. -/
def SameTask (view view' : TaskView) : Prop := ∃ cells, view' = { view with cells }

theorem SameTask.trans {first second third : TaskView} (h : SameTask first second)
    (h' : SameTask second third) : SameTask first third := by
  obtain ⟨_, rfl⟩ := h
  obtain ⟨cells, rfl⟩ := h'
  exact ⟨cells, rfl⟩

theorem follows_client {α : Type} (routine : ClientRoutine α) (view : TaskView)
    {Q : TaskView → Except PyException α → Prop}
    (h : ∀ view' result, SameTask view view' → Q view' result) :
    (client routine).Follows (taskContract operation) Q view := by
  have hany : routine.Follows pollContract (fun _ _ => True) view.cells :=
    Follows.of_forall routine (fun _ _ => trivial) (fun _ _ => trivial) _
  apply Follows.lift (fun cells view' => view' = { view with cells })
    (fun _ _ _ _ _ => trivial) _ _ hany rfl
  · rintro cells _ call reply view' rfl ⟨cells', hanswer, rfl⟩
    exact ⟨cells', hanswer, rfl⟩
  · rintro cells _ result rfl _
    exact h _ result ⟨cells, rfl⟩

/-- A call of the session. -/
theorem follows_session (call : SessionCall) (view : TaskView)
    {Q : TaskView → Except PyException (SessionReply call) → Prop}
    (h : ∀ view' result, SameTask view view' → Q view' result) :
    (Routine.perform (ControllerCall.session call) :
      ControllerRoutine (SessionReply call)).Follows (taskContract operation) Q view := by
  apply follows_perform.mpr
  constructor
  · trivial
  · rintro reply view' ⟨cells, -, rfl⟩
    exact h _ reply ⟨cells, rfl⟩

/-- A routine after another one that only awaits the client. -/
theorem Awaits.bind {α β : Type} {routine : ControllerRoutine α} {f : α → ControllerRoutine β}
    {view : TaskView} {Q : TaskView → Except PyException β → Prop}
    (h : ∀ {R : TaskView → Except PyException α → Prop},
      (∀ view' result, SameTask view view' → R view' result) →
      routine.Follows (taskContract operation) R view)
    (hvalue : ∀ a view', SameTask view view' → (f a).Follows (taskContract operation) Q view')
    (herror : ∀ err view', SameTask view view' → Q view' (.error err)) :
    (routine >>= f).Follows (taskContract operation) Q view := by
  apply follows_bind.mpr
  apply h
  intro view' result hsame
  cases result with
  | ok a => exact hvalue a view' hsame
  | error err => exact herror err view' hsame

theorem follows_suppress {α : Type} (routine : ClientRoutine α) (view : TaskView)
    {Q : TaskView → Except PyException Unit → Prop}
    (h : ∀ view' result, SameTask view view' → Q view' result) :
    (suppress routine).Follows (taskContract operation) Q view := by
  apply follows_suppressed
  exact follows_client routine view fun view' _ hsame => h view' _ hsame

theorem follows_resumeReporting (view : TaskView) {Q : TaskView → Except PyException Unit → Prop}
    (h : ∀ view' result, SameTask view view' → Q view' result) :
    resumeReporting.Follows (taskContract operation) Q view := by
  apply Awaits.bind (follows_session .isOpen view)
  · intro isOpen view' hsame
    cases isOpen with
    | true =>
        apply follows_suppress
        intro view'' result hsame'
        exact h view'' result (hsame.trans hsame')
    | false => exact h view' _ hsame
  · intro err view' hsame
    exact h view' _ hsame

/-- The response to a change of the reporting state is one of its method. -/
theorem delivers_setReportingState (enabled : Bool) (cells : ScalarCells) :
    (Client.setReportingState enabled).Delivers pollContract
      (fun response _ => ∀ message, response = some message →
        message.methodId = TrpcMethod.reportingState.value) cells := by
  apply Delivers.perform trivial
  rintro reply cells' hanswer message rfl
  have haccepts := hanswer.1
  simp only [ResponseMatch.accepts, Bool.and_eq_true, beq_iff_eq] at haccepts
  exact haccepts.1.1.2

theorem follows_applyResponse {response : Option TrpcPacket} {view : TaskView}
    {Q : TaskView → Except PyException Unit → Prop}
    (hmethod : ∀ message, response = some message →
      message.methodId = TrpcMethod.reportingState.value)
    (h : ∀ result, Q view result) :
    (applyResponse response).Follows (taskContract operation) Q view := by
  cases response with
  | none => exact h _
  | some message =>
      apply follows_perform.mpr
      constructor
      · exact hmethod message rfl
      · rintro reply _ rfl
        exact h reply

/-! ## The operations -/

variable (options : ControllerOptions)

/-- Discovery sets a topology with distinct addresses, and no reply has been read since. -/
theorem delivers_discover (hoperation : operation.any Operation.refreshes = true) (view : TaskView) :
    (discover options).Delivers (taskContract operation)
      (fun discovery view' => discovery.Distinct ∧
        view' = { view with discovery := some discovery, cells := .unread }) view := by
  apply Delivers.bind (delivers_client (Client.returns_discover _ _ _ view.cells))
  rintro discovery _ ⟨cells, hdistinct, rfl⟩
  apply Delivers.bind
    (P := fun _ view' => view' = { view with discovery := some discovery, cells := .unread })
  · apply Delivers.perform
    · exact ⟨hoperation, hdistinct⟩
    · rintro _ _ rfl
      rfl
  · rintro _ _ rfl
    exact Delivers.pure ⟨hdistinct, rfl⟩

/-- A poll replaces the state with a snapshot of the replies that it has read. -/
theorem delivers_pollState (hoperation : operation.any Operation.refreshes = true) {view : TaskView}
    (hidle : operation = some .start → view.idle = true) {discovery : DiscoveryResult}
    (hdistinct : discovery.Distinct) (hview : view.discovery = some discovery)
    (hcells : view.cells = .unread) :
    (pollState options discovery).Delivers (taskContract operation)
      (fun _ view' => view'.installed = true) view := by
  have hpoll := Client.delivers_pollRuntime discovery hdistinct
    options.includeSetbacks options.includeDatetime options.includeSetpointGroups
  rw [← hcells] at hpoll
  apply Delivers.bind (delivers_client hpoll)
  rintro data _ ⟨cells, hshows, rfl⟩
  apply Delivers.bind (P := fun _ view' => view'.installed = true)
  · apply Delivers.perform
    · exact ⟨hoperation, hidle, discovery, hview, hshows⟩
    · rintro _ _ rfl
      rfl
  · intro _ view' hinstalled
    exact Delivers.pure hinstalled

/-- A refresh polls the discovery that it has looked up, or made. -/
theorem delivers_refreshRuntime (hoperation : operation.any Operation.refreshes = true) {view : TaskView}
    (hidle : operation = some .start → view.idle = true) :
    (refreshRuntime options).Delivers (taskContract operation)
      (fun _ view' => view'.installed = true) view := by
  apply Delivers.bind (P := fun known view' => (∀ d, known = some d → d.Distinct) ∧
    view' = { view with discovery := known, cells := .unread })
  · apply Delivers.perform trivial
    rintro known _ ⟨hdistinct, rfl⟩
    exact ⟨hdistinct, rfl⟩
  · rintro known _ ⟨hdistinct, rfl⟩
    cases known with
    | some discovery =>
        exact @delivers_pollState operation options hoperation
          { view with discovery := some discovery, cells := .unread } hidle discovery
          (hdistinct discovery rfl) rfl rfl
    | none =>
        apply Delivers.bind (delivers_discover options hoperation _)
        rintro discovery _ ⟨hdistinct, rfl⟩
        exact @delivers_pollState operation options hoperation
          { view with discovery := some discovery, cells := .unread } hidle discovery hdistinct
          rfl rfl

theorem delivers_abandonStart {α : Type} {P : α → TaskView → Prop} (reportingDisabled : Bool)
    (err : PyException) (view : TaskView) :
    (abandonStart reportingDisabled err : ControllerRoutine α).Delivers (taskContract operation)
      P view := by
  have hrest (view : TaskView) : (do
      suppress (Routine.perform SessionCall.close)
      Routine.raise err : ControllerRoutine α).Delivers (taskContract operation)
        P view := by
    apply Awaits.bind (follows_suppress _ view)
    · exact fun _ _ _ => Delivers.raise
    · exact fun _ _ _ _ h => nomatch h
  cases reportingDisabled with
  | false => exact hrest view
  | true =>
      apply Awaits.bind (follows_resumeReporting view)
      · exact fun _ view' _ => hrest view'
      · exact fun _ _ _ _ h => nomatch h

/-- The seed of a start has replaced the state. -/
theorem delivers_seedState {view : TaskView} (hidle : view.idle = true) :
    (seedState options).Delivers (taskContract (some .start))
      (fun seed view' => view'.installed = true ∧ ∀ message, seed.2 = some message →
        message.methodId = TrpcMethod.reportingState.value) view := by
  apply Delivers.bind (delivers_discover options rfl view)
  rintro discovery _ ⟨-, rfl⟩
  apply Delivers.bind (P := fun _ view' => view'.installed = true)
  · exact delivers_refreshRuntime options rfl fun _ => hidle
  · intro data view' hinstalled
    apply Delivers.bind (delivers_client (delivers_setReportingState true view'.cells))
    rintro response _ ⟨cells, hmethod, rfl⟩
    exact Delivers.pure ⟨hinstalled, hmethod⟩

/-- A routine whose handler raises delivers what it delivers without the handler. -/
theorem delivers_guarded {α : Type} {P : α → TaskView → Prop} {body : ControllerRoutine α}
    {handler : PyException → ControllerRoutine α} {view : TaskView}
    (h : body.Delivers (taskContract operation) P view)
    (hhandler : ∀ err view', (handler err).Delivers (taskContract operation) P view') :
    (body.tryExcept handler).Delivers (taskContract operation) P view := by
  apply Follows.tryExcept
  apply Follows.mono h
  intro view' result hresult
  cases result with
  | ok a => exact hresult
  | error err => exact hhandler err view'

theorem delivers_openStart {view : TaskView} (hidle : view.idle = true) :
    (openStart options).Delivers (taskContract (some .start)) (fun _ _ => True) view := by
  apply Delivers.bind (P := fun _ view' => view'.idle = true)
  · apply follows_session
    rintro _ _ ⟨cells, rfl⟩ _ _
    exact hidle
  · intro _ view' hidle
    apply Delivers.bind (P := fun _ view' => view'.idle = true)
    · apply delivers_guarded
      · apply follows_client
        rintro _ _ ⟨cells, rfl⟩ _ _
        exact hidle
      · exact delivers_abandonStart false
    · intro _ view' hidle
      apply Delivers.bind (delivers_guarded (delivers_seedState options hidle)
        (delivers_abandonStart true))
      rintro ⟨data, response⟩ view' ⟨hinstalled, hmethod⟩
      apply Delivers.bind (P := fun _ view' => view'.installed = true)
      · exact follows_applyResponse hmethod fun _ _ _ => hinstalled
      · intro _ view' hinstalled
        apply Delivers.bind (P := fun _ view' => view'.installed = true)
        · apply Delivers.perform trivial
          rintro _ _ rfl
          exact hinstalled
        · intro current view' hinstalled
          apply Delivers.bind (P := fun _ _ => True)
          · exact Delivers.perform ⟨rfl, hinstalled⟩ fun _ _ _ => trivial
          · exact fun _ _ _ => Delivers.pure trivial

/-- A start finds the controller idle, and starts the report loop on a new state. -/
theorem delivers_start (view : TaskView) :
    (start options).Delivers (taskContract (some .start)) (fun _ _ => True) view := by
  apply Delivers.bind (P := fun data view' => data = none → view'.idle = true)
  · apply Delivers.perform trivial
    rintro data _ rfl rfl
    rfl
  · intro running view' hidle
    cases running with
    | some data => exact Delivers.pure trivial
    | none => exact delivers_openStart options (hidle rfl)

theorem follows_stop (view : TaskView) :
    stop.Follows (taskContract (some .stop)) (fun _ _ => True) view := by
  have hclose (view : TaskView) : (Routine.perform (ControllerCall.session .close) :
      ControllerRoutine Unit).Follows (taskContract (some .stop)) (fun _ _ => True) view :=
    follows_session .close view fun _ _ _ => trivial
  apply follows_bind.mpr
  apply follows_perform.mpr
  constructor
  · rfl
  · intro reply view _
    cases reply with
    | error err => trivial
    | ok _ =>
        apply Awaits.bind (follows_session .isOpen view)
        · intro isOpen middle _
          cases isOpen with
          | false => exact hclose middle
          | true =>
              apply Awaits.bind (follows_suppress _ middle)
              · exact fun _ last _ => hclose last
              · exact fun _ _ _ => trivial
        · exact fun _ _ _ => trivial

theorem delivers_abandonRediscover {α : Type} {P : α → TaskView → Prop} (reportingPaused : Bool)
    (err : PyException) (view : TaskView) :
    (abandonRediscover reportingPaused err : ControllerRoutine α).Delivers (taskContract operation)
      P view := by
  cases reportingPaused with
  | false => exact Delivers.raise
  | true =>
      apply Awaits.bind (follows_resumeReporting view)
      · exact fun _ _ _ => Delivers.raise
      · exact fun _ _ _ _ h => nomatch h

theorem delivers_setReportingPaused (reportingPaused enabled : Bool) (view : TaskView) :
    (setReportingPaused reportingPaused enabled).Delivers (taskContract operation)
      (fun response _ => ∀ message, response = some message →
        message.methodId = TrpcMethod.reportingState.value) view := by
  cases reportingPaused with
  | false => exact Delivers.pure nofun
  | true =>
      apply Follows.mono (delivers_client (delivers_setReportingState enabled view.cells))
      intro _ _ hresult response hresponse
      obtain ⟨_, hmethod, -⟩ := hresult response hresponse
      exact hmethod

theorem delivers_rediscover (pauseReporting : Bool) (view : TaskView) :
    (rediscover options pauseReporting).Delivers
      (taskContract (some (.rediscover pauseReporting))) (fun _ _ => True) view := by
  apply Delivers.bind (P := fun _ _ => True)
  · exact Delivers.perform trivial fun _ _ _ => trivial
  · intro running view _
    apply Delivers.bind (delivers_setReportingPaused _ false view)
    intro _ view _
    apply Delivers.bind (P := fun _ _ => True)
    · apply delivers_guarded
      · apply Delivers.bind (P := fun _ _ => True)
        · exact (delivers_discover options rfl view).weaken
        · intro _ view' _
          exact (@delivers_refreshRuntime (some (.rediscover pauseReporting)) options rfl view'
            nofun).weaken
      · exact delivers_abandonRediscover _
    · intro _ view _
      apply Delivers.bind (delivers_setReportingPaused _ true view)
      intro response view hmethod
      apply Delivers.bind (P := fun _ _ => True)
      · exact follows_applyResponse hmethod fun _ _ _ => trivial
      · intro _ view _
        exact Delivers.perform trivial fun _ _ _ => trivial

theorem follows_reportError (err : PyException) (view : TaskView) :
    (reportError err).Follows (taskContract operation) (fun _ _ => True) view := by
  unfold reportError
  split
  · exact follows_session .close view fun _ _ _ => trivial
  · trivial

/-- The report loop only subscribes. -/
theorem follows_reportLoop (view : TaskView) :
    reportLoop.Follows (taskContract none) (fun _ _ => True) view := by
  have hsubscribe (view : TaskView) : (Routine.perform ControllerCall.subscribe :
      ControllerRoutine Unit).Follows (taskContract none) (fun view' =>
        andThen (fun _ => True) fun err =>
          (reportError err).Follows (taskContract none) (fun _ _ => True) view') view := by
    apply follows_perform.mpr
    constructor
    · rfl
    · intro reply view' _
      cases reply with
      | ok _ => trivial
      | error err => exact follows_reportError err view'
  apply Follows.tryExcept
  apply Awaits.bind (follows_session .isOpen view)
  · intro isOpen view _
    cases isOpen with
    | true => exact hsubscribe view
    | false =>
        have hreopen : reopen.Follows (taskContract none) (fun view' =>
            andThen (fun _ => (Routine.perform ControllerCall.subscribe :
              ControllerRoutine Unit).Follows (taskContract none) (fun view' =>
                andThen (fun _ => True) fun err =>
                  (reportError err).Follows (taskContract none) (fun _ _ => True) view') view')
              fun err => (reportError err).Follows (taskContract none) (fun _ _ => True) view')
            view := by
          apply Awaits.bind (follows_session .open view)
          · intro _ view _
            apply Awaits.bind (follows_client _ view)
            · exact fun _ view _ => hsubscribe view
            · exact fun err view _ => follows_reportError err view
          · exact fun err view _ => follows_reportError err view
        exact follows_bind.mpr hreopen
  · exact fun err view _ => follows_reportError err view

end Controller

/-- Every operation follows its contract from the start. -/
theorem Operation.follows (options : ControllerOptions) (operation : Operation) :
    (operation.routine options).Follows (taskContract (some operation)) (fun _ _ => True) {} := by
  have hdone {α : Type} {routine : ControllerRoutine α} {view : TaskView}
      (h : routine.Delivers (taskContract (some operation)) (fun _ _ => True) view) :
      (do
        let _ ← routine
        Pure.pure () : ControllerRoutine Unit).Follows (taskContract (some operation))
          (fun _ _ => True) view := by
    apply follows_bind.mpr
    apply Follows.mono h
    intro _ result _
    cases result <;> trivial
  cases operation with
  | start => exact hdone (Controller.delivers_start options {})
  | stop => exact Controller.follows_stop {}
  | refreshRuntime =>
      exact hdone (@Controller.delivers_refreshRuntime (some .refreshRuntime) options rfl {}
        nofun).weaken
  | rediscover pauseReporting =>
      exact hdone (Controller.delivers_rediscover options pauseReporting {})

end Tekmar482
