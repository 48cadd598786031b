import Tekmar482.ClientCalls

/-!
# Pausing the reports

Discovery, `start` and `rediscover` turn reporting off and on again. A flow awaits
calls one after the other; each may raise or be cancelled, before or after its
command was written. A pacing delay counts as part of the call before it.
-/

namespace Tekmar482

open Routine

/-- An awaited call as it went: its reply, whether its command was written, and
whether the client is open when the flow goes on. -/
structure Awaited where
  call : ControllerCall
  reply : Except PyException (ControllerReply call)
  written : Bool
  isOpen : Bool

namespace Awaited

/-- What holds of every call: `is_open` is answered at once, and a response is
returned only for a command that was written. -/
def Honest (self : Awaited) : Prop :=
  match self.call, self.reply with
  | .session .isOpen, reply => reply = .ok self.isOpen
  | .session (.send _), .ok _ => self.written = true
  | .session (.requestResponse _ _), .ok (some _) => self.written = true
  | .session (.updateResponse _ _), .ok (some _) => self.written = true
  | _, _ => True

/-- The call and its reply. -/
def answer (self : Awaited) :
    (call : ControllerCall) × Except PyException (ControllerReply call) :=
  ⟨self.call, self.reply⟩

/-- An update that turns reporting off was written. -/
def switchesOff (self : Awaited) : Bool := self.call.reportingState == some 0 && self.written

/-- An update that turns reporting on is attempted. -/
def attemptsOn (self : Awaited) : Bool := self.call.reportingState == some 1

/-- The flow finds the client closed. -/
def findsClosed (self : Awaited) : Bool :=
  match self.call with
  | .session .isOpen => !self.isOpen
  | _ => false

/-- The call raised. -/
def raised (self : Awaited) : Bool :=
  match self.reply with
  | .ok _ => false
  | .error _ => true

end Awaited

/-- What a flow has done so far: whether reporting was turned off and no update to
turn it on was attempted since, whether the call that turned it off raised, whether
the client was found closed, and whether it is open. -/
structure ReportingView where
  off : Bool := false
  failed : Bool := false
  foundClosed : Bool := false
  isOpen : Bool := false
  deriving DecidableEq

namespace ReportingView

def after (self : ReportingView) (item : Awaited) : ReportingView where
  off := !item.attemptsOn && (self.off || item.switchesOff)
  failed := self.failed || item.switchesOff && item.raised
  foundClosed := self.foundClosed || item.findsClosed
  isOpen := item.isOpen

/-- The client is still open: it is, and it was never found closed. -/
def stillOpen (self : ReportingView) : Bool := self.isOpen && !self.foundClosed

end ReportingView

/-- The executions of a flow. -/
def Executes {α : Type} (flow : ControllerRoutine α) (items : List Awaited)
    (result : Except PyException α) : Prop :=
  Runs flow (items.map Awaited.answer) result ∧ ∀ item ∈ items, item.Honest

/-- What a flow has done at its exit. -/
def viewAtExit (items : List Awaited) : ReportingView := items.foldl ReportingView.after {}

/-- Reporting is not left off: if it was turned off and the client is still open at
the exit, then turning it on was attempted since. -/
def KeepsReporting (items : List Awaited) : Prop :=
  (viewAtExit items).stillOpen = true → (viewAtExit items).off = false

/-- The call that turns reporting off raises after its command was written, and the
client is still open at the exit. -/
def LosesSwitchOff (items : List Awaited) : Prop :=
  (viewAtExit items).stillOpen = true ∧ (viewAtExit items).failed = true

/-! ## The contract of a flow -/

/-- The contract that keeps the view of a flow. -/
def reportingContract : Contract ControllerCall ControllerReply PyException ReportingView where
  requires _ _ := True
  answers view call reply view' :=
    ∃ written isOpen, (⟨call, reply, written, isOpen⟩ : Awaited).Honest ∧
      view' = view.after ⟨call, reply, written, isOpen⟩

/-- A flow is judged by its view at the exit. -/
theorem Executes.post {α : Type} {flow : ControllerRoutine α} {items : List Awaited}
    {result : Except PyException α} {Q : ReportingView → Except PyException α → Prop}
    (h : Executes flow items result) (hflow : flow.Follows reportingContract Q {}) :
    Q (viewAtExit items) result :=
  hflow.foldl h.1 fun item hitem _ => ⟨item.written, item.isOpen, h.2 item hitem, rfl⟩

/-! ## Calls that leave the view of reporting alone -/

/-- A call that neither updates the reporting state nor asks whether the client is
open. -/
def LeavesReporting : ControllerCall → Prop
  | .session .isOpen => False
  | other => other.reportingState = none

/-- Where reporting and the client's being found closed are as before. -/
def SameReporting (view view' : ReportingView) : Prop :=
  view'.off = view.off ∧ view'.failed = view.failed ∧ view'.foundClosed = view.foundClosed

theorem SameReporting.refl (view : ReportingView) : SameReporting view view := ⟨rfl, rfl, rfl⟩

theorem SameReporting.after {view view' : ReportingView} {item : Awaited}
    (h : SameReporting view view') (hleaves : LeavesReporting item.call) :
    SameReporting view (view'.after item) := by
  have hstate : item.call.reportingState = none := by
    simp only [LeavesReporting] at hleaves
    split at hleaves
    · exact hleaves.elim
    · exact hleaves
  have hfinds : item.findsClosed = false := by
    simp only [Awaited.findsClosed]
    split
    · rename_i heq
      rw [heq] at hleaves
      exact hleaves.elim
    · rfl
  obtain ⟨hoff, hfailed, hclosed⟩ := h
  simp [SameReporting, ReportingView.after, Awaited.switchesOff, Awaited.attemptsOn, hstate,
    hfinds, hoff, hfailed, hclosed]

theorem follows_leaves {α : Type} {flow : ControllerRoutine α} {view : ReportingView}
    {Q : ReportingView → Except PyException α → Prop} (h : flow.Asks LeavesReporting)
    (hpost : ∀ view' result, SameReporting view view' → Q view' result) :
    flow.Follows reportingContract Q view := by
  apply h.follows SameReporting (fun _ _ _ => trivial) _ hpost (.refl view)
  rintro view' call reply next hleaves hsame ⟨written, isOpen, -, rfl⟩
  exact hsame.after hleaves

namespace Client

/-- A session call that leaves reporting alone. -/
abbrev Leaves (call : SessionCall) : Prop := LeavesReporting (.session call)

theorem Polls.leaves {call : SessionCall} (h : Polls call) : Leaves call := by
  cases call with
  | send | requestResponse | updateResponse => exact h
  | readUntil | deadlineExpired => rfl
  | «open» | close | isOpen => exact h.elim

end Client

/-! ## Turning reporting off and on -/

theorem after_reportingUpdate_true (view : ReportingView)
    (reply : Except PyException (Option TrpcPacket)) (written isOpen : Bool) :
    view.after ⟨reportingUpdate true, reply, written, isOpen⟩ =
      { view with off := false, isOpen := isOpen } := by
  have hstate : (reportingUpdate true).reportingState = some 1 :=
    TrpcCommand.reportingState_update true
  have hfinds : (⟨reportingUpdate true, reply, written, isOpen⟩ : Awaited).findsClosed = false := rfl
  simp [ReportingView.after, Awaited.attemptsOn, Awaited.switchesOff, hstate, hfinds]

theorem after_reportingUpdate_false (view : ReportingView)
    (reply : Except PyException (Option TrpcPacket)) (written isOpen : Bool) :
    view.after ⟨reportingUpdate false, reply, written, isOpen⟩ =
      { view with
        off := view.off || written
        failed := view.failed || written && !reply.isOk
        isOpen := isOpen } := by
  have hstate : (reportingUpdate false).reportingState = some 0 :=
    TrpcCommand.reportingState_update false
  have hraised : (⟨reportingUpdate false, reply, written, isOpen⟩ : Awaited).raised =
      !reply.isOk := by
    cases reply <;> rfl
  have hfinds : (⟨reportingUpdate false, reply, written, isOpen⟩ : Awaited).findsClosed = false := rfl
  simp [ReportingView.after, Awaited.attemptsOn, Awaited.switchesOff, hstate, hraised, hfinds]

section Flows

variable {α : Type} {view : ReportingView}

theorem follows_setReportingState {enabled : Bool}
    {Q : ReportingView → Except PyException (Option TrpcPacket) → Prop}
    (h : ∀ (reply : Except PyException (Option TrpcPacket)) written isOpen,
      Q (view.after ⟨reportingUpdate enabled, reply, written, isOpen⟩) reply) :
    (Controller.client (Client.setReportingState enabled)).Follows reportingContract Q view := by
  constructor
  · trivial
  · rintro reply view' ⟨written, isOpen, -, rfl⟩
    cases reply with
    | ok response => exact h (.ok response) written isOpen
    | error err => exact h (.error err) written isOpen

/-- A program of the client that leaves reporting alone. -/
theorem asks_client {routine : ClientRoutine α} (h : routine.Asks Client.Leaves) :
    (Controller.client routine).Asks LeavesReporting :=
  h.lift fun _ hop => hop

/-- A call that leaves reporting alone. -/
theorem follows_call {call : ControllerCall}
    {Q : ReportingView → Except PyException (ControllerReply call) → Prop}
    (h : LeavesReporting call) (hpost : ∀ view' result, SameReporting view view' → Q view' result) :
    (Routine.perform call : ControllerRoutine (ControllerReply call)).Follows reportingContract Q
      view :=
  follows_leaves (Asks.perform h) hpost

theorem follows_suppress_close {Q : ReportingView → Except PyException Unit → Prop}
    (hpost : ∀ view' result, SameReporting view view' → Q view' result) :
    (Controller.suppress (Routine.perform SessionCall.close)).Follows reportingContract Q view := by
  have hclose : Client.Leaves .close := rfl
  apply Controller.follows_suppressed
  rw [Controller.client_perform]
  exact follows_call hclose fun view' _ hsame => hpost view' _ hsame

/-- At the exit reporting is off exactly if its switching off failed, unless the
client is closed. -/
def Balanced (view : ReportingView) : Prop := view.stillOpen = true → view.off = view.failed

theorem Balanced.iff {items : List Awaited} (h : Balanced (viewAtExit items)) :
    KeepsReporting items ↔ ¬ LosesSwitchOff items := by
  simp only [KeepsReporting, LosesSwitchOff, not_and, Bool.not_eq_true]
  apply forall_congr'
  intro hopen
  rw [h hopen]

/-- Turning reporting off has not failed, and it was turned on again, or the client
was found closed. -/
def Resumed (view : ReportingView) : Prop :=
  view.failed = false ∧ (view.off = false ∨ view.foundClosed = true)

theorem Resumed.balanced (h : Resumed view) : Balanced view := by
  intro hopen
  simp only [ReportingView.stillOpen, Bool.and_eq_true, Bool.not_eq_true'] at hopen
  obtain ⟨hfailed, hoff | hclosed⟩ := h
  · rw [hoff, hfailed]
  · rw [hclosed] at hopen
    cases hopen.2

theorem Resumed.same {view' : ReportingView} (h : Resumed view) (hsame : SameReporting view view') :
    Resumed view' := by
  obtain ⟨hoff, hfailed, hclosed⟩ := hsame
  rw [Resumed, hoff, hfailed, hclosed]
  exact h

theorem Balanced.same {view' : ReportingView} (hsame : SameReporting view view')
    (h : view.off = view.failed) : Balanced view' := by
  intro _
  rw [hsame.1, hsame.2.1, h]

/-- Resuming turns reporting on, or finds the client closed. -/
theorem follows_resumeReporting {Q : ReportingView → Except PyException Unit → Prop}
    (hfailed : view.failed = false) (h : ∀ view' result, Resumed view' → Q view' result) :
    Controller.resumeReporting.Follows reportingContract Q view := by
  apply follows_bind.mpr
  apply follows_perform.mpr
  constructor
  · trivial
  · rintro reply view' ⟨written, isOpen, hreply, rfl⟩
    obtain rfl : reply = .ok isOpen := hreply
    cases isOpen with
    | false =>
        apply h
        simp [Resumed, ReportingView.after, Awaited.switchesOff, Awaited.findsClosed, hfailed,
          ControllerCall.reportingState]
    | true =>
        have hkept : (view.after ⟨.session .isOpen, .ok true, written, true⟩).failed = false := by
          simp [ReportingView.after, Awaited.switchesOff, hfailed, ControllerCall.reportingState]
        apply Controller.follows_suppressed
        apply follows_setReportingState
        intro reply written' isOpen'
        rw [after_reportingUpdate_true]
        exact h _ _ ⟨hkept, .inl rfl⟩

end Flows

/-! ## The flows -/

section

variable (options : ControllerOptions)

theorem asks_discover : (Controller.discover options).Asks LeavesReporting := by
  have hset (discovery : DiscoveryResult) : LeavesReporting (.setDiscovery discovery) := rfl
  apply (asks_client ((Client.asks_discover _).mono fun _ => Client.Polls.leaves)).bind
  intro discovery
  exact (Asks.perform (hset discovery)).bind fun _ => .pure _

theorem asks_pollState (discovery : DiscoveryResult) :
    (Controller.pollState options discovery).Asks LeavesReporting := by
  have hset (data : AvailableInfo) : LeavesReporting (.setState data) := rfl
  apply (asks_client ((Client.asks_pollRuntime _ _ _ _).mono fun _ => Client.Polls.leaves)).bind
  intro data
  exact (Asks.perform (hset data)).bind fun _ => .pure _

theorem asks_refreshRuntime : (Controller.refreshRuntime options).Asks LeavesReporting := by
  have hknown : LeavesReporting .discovery := rfl
  apply (Asks.perform hknown).bind
  intro known
  cases known with
  | some discovery => exact asks_pollState options discovery
  | none => exact (asks_discover options).bind fun discovery => asks_pollState options discovery

theorem asks_applyResponse (response : Option TrpcPacket) :
    (Controller.applyResponse response).Asks LeavesReporting := by
  have happly (message : TrpcPacket) : LeavesReporting (.applyMessage message) := rfl
  cases response with
  | none => exact .pure _
  | some message => exact Asks.perform (happly message)

/-- Discovery with managed reporting turns it on in the end, whatever happens. -/
theorem follows_discover (fuel : Nat) (setbackEnable : Option Bool) :
    (Controller.client (Client.discover fuel true setbackEnable)).Follows reportingContract
      (fun view' _ => view'.off = false) {} := by
  rw [Client.discover, Controller.client, lift_tryFinally]
  apply follows_tryFinally
  apply Follows.of_forall _ (fun _ _ => trivial)
  intro view result
  rw [if_pos rfl]
  change (Routine.lift _ _ (Routine.bind _ _)).Follows _ _ _
  rw [lift_bind]
  apply follows_bind.mpr
  apply follows_setReportingState
  intro reply written isOpen
  cases reply with
  | ok _ =>
      change (view.after ⟨reportingUpdate true, _, written, isOpen⟩).off = false
      rw [after_reportingUpdate_true]
  | error err =>
      change (view.after ⟨reportingUpdate true, _, written, isOpen⟩).off = false
      rw [after_reportingUpdate_true]

variable {view : ReportingView}

/-- The handler of `start` after a failure while reporting was being turned off. -/
theorem follows_abandonStart_false {α : Type} {Q : ReportingView → Except PyException α → Prop}
    (err : PyException) (h : view.off = view.failed)
    (hpost : ∀ view' err', Balanced view' → Q view' (.error err')) :
    (Controller.abandonStart false err : ControllerRoutine α).Follows reportingContract Q view := by
  apply follows_bind.mpr
  apply follows_suppress_close
  intro view' result hsame
  cases result with
  | ok _ => exact hpost view' _ (Balanced.same hsame h)
  | error _ => exact hpost view' _ (Balanced.same hsame h)

/-- The handler of `start` after a failure while reporting was off. -/
theorem follows_abandonStart_true {α : Type} {Q : ReportingView → Except PyException α → Prop}
    (err : PyException) (h : view.failed = false)
    (hpost : ∀ view' err', Balanced view' → Q view' (.error err')) :
    (Controller.abandonStart true err : ControllerRoutine α).Follows reportingContract Q view := by
  apply follows_bind.mpr
  apply follows_resumeReporting h
  intro view' result hresumed
  cases result with
  | error _ => exact hpost view' _ hresumed.balanced
  | ok _ =>
      apply follows_bind.mpr
      apply follows_suppress_close
      intro view'' result hsame
      have hbalanced : Balanced view'' := (hresumed.same hsame).balanced
      cases result with
      | ok _ => exact hpost view'' _ hbalanced
      | error _ => exact hpost view'' _ hbalanced

/-- While reporting is off, `start` turns it on at last or fails. -/
theorem follows_seedState (h : view.failed = false) :
    (Controller.seedState options).Follows reportingContract
      (fun view' => andThen (fun _ => Resumed view') fun _ => view'.failed = false) view := by
  apply follows_bind.mpr
  apply follows_leaves (asks_discover options)
  intro view' result hdiscover
  cases result with
  | error _ => exact hdiscover.2.1.trans h
  | ok _ =>
      apply follows_bind.mpr
      apply follows_leaves (asks_refreshRuntime options)
      intro view'' result hrefresh
      have hfailed : view''.failed = false := hrefresh.2.1.trans (hdiscover.2.1.trans h)
      cases result with
      | error _ => exact hfailed
      | ok data =>
          apply follows_bind.mpr
          apply follows_setReportingState
          intro reply written isOpen
          rw [after_reportingUpdate_true]
          cases reply with
          | ok response => exact ⟨hfailed, .inl rfl⟩
          | error err => exact hfailed

/-- What `start` does after it turned reporting on again leaves it on. -/
theorem follows_finishStart (data : AvailableInfo) (response : Option TrpcPacket)
    (h : Resumed view) :
    (do
      Controller.applyResponse response
      let current : Option AvailableInfo ← Routine.perform ControllerCall.data
      Routine.perform ControllerCall.runReportLoop
      Pure.pure (if response.isSome then current.getD data else data) :
        ControllerRoutine AvailableInfo).Follows reportingContract
      (fun view' _ => Balanced view') view := by
  have hdata : LeavesReporting .data := rfl
  have hloop : LeavesReporting .runReportLoop := rfl
  have hasks : (do
      Controller.applyResponse response
      let current : Option AvailableInfo ← Routine.perform ControllerCall.data
      Routine.perform ControllerCall.runReportLoop
      Pure.pure (if response.isSome then current.getD data else data) :
        ControllerRoutine AvailableInfo).Asks LeavesReporting := by
    apply (asks_applyResponse response).bind
    intro _
    apply (Asks.perform hdata).bind
    intro current
    exact (Asks.perform hloop).bind fun _ => .pure _
  apply follows_leaves hasks
  intro view' result hsame
  exact (h.same hsame).balanced

theorem follows_openStart (h : view.off = false ∧ view.failed = false) :
    (Controller.openStart options).Follows reportingContract
      (fun view' _ => Balanced view') view := by
  have hopen : LeavesReporting (.session .open) := rfl
  apply follows_bind.mpr
  apply follows_call hopen
  intro view' result hsame
  have hoff : view'.off = false := hsame.1.trans h.1
  have hfailed : view'.failed = false := hsame.2.1.trans h.2
  cases result with
  | error _ => exact Balanced.same hsame (h.1.trans h.2.symm)
  | ok _ =>
      apply follows_bind.mpr
      apply Follows.tryExcept
      apply follows_setReportingState
      intro reply written isOpen
      rw [after_reportingUpdate_false]
      cases reply with
      | error err =>
          apply follows_abandonStart_false err
          · rw [hoff, hfailed]
            exact (Bool.and_true written).symm
          · exact fun _ _ hbalanced => hbalanced
      | ok _ =>
          have hkept : (view'.failed || written && false) = false := by simp [hfailed]
          apply follows_bind.mpr
          apply Follows.tryExcept
          apply (follows_seedState options hkept).mono
          intro view'' result hseeded
          cases result with
          | error err =>
              apply follows_abandonStart_true err hseeded
              exact fun _ _ hbalanced => hbalanced
          | ok seeded => exact follows_finishStart seeded.1 seeded.2 hseeded

/-- `start` leaves reporting off exactly if turning it off failed. -/
theorem follows_start :
    (Controller.start options).Follows reportingContract (fun view' _ => Balanced view') {} := by
  have hrunning : LeavesReporting .runningData := rfl
  apply follows_bind.mpr
  apply follows_call hrunning
  intro view result hsame
  cases result with
  | error _ => exact Balanced.same hsame rfl
  | ok running =>
      cases running with
      | some data => exact Balanced.same hsame rfl
      | none => exact follows_openStart options ⟨hsame.1, hsame.2.1⟩

theorem follows_abandonRediscover {α : Type} {Q : ReportingView → Except PyException α → Prop}
    (reportingPaused : Bool) (err : PyException) (h : view.failed = false)
    (hpaused : reportingPaused = false → view.off = false)
    (hpost : ∀ view' err', Balanced view' → Q view' (.error err')) :
    (Controller.abandonRediscover reportingPaused err : ControllerRoutine α).Follows
      reportingContract Q view := by
  cases reportingPaused with
  | false => exact hpost view err (Balanced.same (.refl view) ((hpaused rfl).trans h.symm))
  | true =>
      apply follows_bind.mpr
      apply follows_resumeReporting h
      intro view' result hresumed
      cases result with
      | ok _ => exact hpost view' _ hresumed.balanced
      | error _ => exact hpost view' _ hresumed.balanced

/-- `rediscover` after reporting was turned off, or was left alone. -/
theorem follows_refreshPaused (reportingPaused : Bool) (h : view.failed = false)
    (hpaused : reportingPaused = false → view.off = false) :
    (do
      let _ ← Routine.tryExcept (Controller.refreshTopology options)
        (Controller.abandonRediscover reportingPaused)
      let response ← Controller.setReportingPaused reportingPaused true
      Controller.applyResponse response
      Routine.perform ControllerCall.discovery :
        ControllerRoutine (Option DiscoveryResult)).Follows reportingContract
      (fun view' _ => Balanced view') view := by
  have hknown : LeavesReporting .discovery := rfl
  have hasks : (Controller.refreshTopology options).Asks LeavesReporting :=
    (asks_discover options).bind fun _ => asks_refreshRuntime options
  have hfinish {view' : ReportingView} (response : Option TrpcPacket) (hresumed : Resumed view') :
      (do
        Controller.applyResponse response
        Routine.perform ControllerCall.discovery :
          ControllerRoutine (Option DiscoveryResult)).Follows reportingContract
        (fun view'' _ => Balanced view'') view' := by
    apply follows_leaves ((asks_applyResponse response).bind fun _ => Asks.perform hknown)
    intro view'' result hsame
    exact (hresumed.same hsame).balanced
  apply follows_bind.mpr
  apply Follows.tryExcept
  apply follows_leaves hasks
  intro view' result hsame
  have hfailed : view'.failed = false := hsame.2.1.trans h
  have hoff : reportingPaused = false → view'.off = false := fun hp => hsame.1.trans (hpaused hp)
  cases result with
  | error err =>
      apply follows_abandonRediscover reportingPaused err hfailed hoff
      exact fun _ _ hbalanced => hbalanced
  | ok data =>
      cases reportingPaused with
      | false => exact hfinish none ⟨hfailed, .inl (hoff rfl)⟩
      | true =>
          apply follows_bind.mpr
          apply follows_setReportingState
          intro reply written isOpen
          rw [after_reportingUpdate_true]
          cases reply with
          | ok response => exact hfinish response ⟨hfailed, .inl rfl⟩
          | error err => exact Resumed.balanced ⟨hfailed, .inl rfl⟩

/-- `rediscover` leaves reporting off exactly if turning it off failed. -/
theorem follows_rediscover (pauseReporting : Bool) :
    (Controller.rediscover options pauseReporting).Follows reportingContract
      (fun view' _ => Balanced view') {} := by
  have hrunning : LeavesReporting .isRunning := rfl
  apply follows_bind.mpr
  apply follows_call hrunning
  intro view result hsame
  have hoff : view.off = false := hsame.1
  have hfailed : view.failed = false := hsame.2.1
  cases result with
  | error _ => exact Balanced.same hsame rfl
  | ok running =>
      change ((do
        let _ ← Controller.setReportingPaused (pauseReporting && running) false
        _ : ControllerRoutine (Option DiscoveryResult))).Follows _ _ _
      cases hpaused : pauseReporting && running with
      | false => exact follows_refreshPaused options false hfailed fun _ => hoff
      | true =>
          apply follows_bind.mpr
          apply follows_setReportingState
          intro reply written isOpen
          rw [after_reportingUpdate_false]
          cases reply with
          | ok _ =>
              have hkept : (view.failed || written && false) = false := by simp [hfailed]
              exact follows_refreshPaused options true hkept fun h => nomatch h
          | error err =>
              intro _
              simp only [hoff, hfailed, Except.isOk, Except.toBool, Bool.not_false, Bool.and_true]

end

/-- A running controller that is cancelled while it waits for the reply to the
update that pauses reporting. -/
def cancelledPause : List Awaited :=
  [⟨.isRunning, .ok true, false, true⟩, ⟨reportingUpdate false, .error .cancelledError, true, true⟩]

theorem executes_cancelledPause (options : ControllerOptions) :
    Executes (Controller.rediscover options true) cancelledPause (.error .cancelledError) := by
  constructor
  · exact .call (.call (.raise _))
  · intro item hitem
    rcases List.mem_cons.mp hitem with rfl | hrest
    · trivial
    · obtain rfl := List.mem_singleton.mp hrest
      trivial

/-- Reporting is not left off. Discovery with managed reporting keeps it, and
`start` and `rediscover` keep it exactly if the call that turns it off does not
raise after its command was written with the client still open at the exit. -/
theorem keepsReporting_iff (options : ControllerOptions) (fuel : Nat)
    (setbackEnable : Option Bool) (items : List Awaited) :
    (∀ result, Executes (Controller.client (Client.discover fuel true setbackEnable)) items result →
      KeepsReporting items) ∧
    (∀ result, Executes (Controller.start options) items result →
      (KeepsReporting items ↔ ¬ LosesSwitchOff items)) ∧
    (∀ result, Executes (Controller.rediscover options true) items result →
      (KeepsReporting items ↔ ¬ LosesSwitchOff items)) := by
  refine ⟨?_, ?_, ?_⟩
  · intro result h _
    exact h.post (follows_discover fuel setbackEnable)
  · intro result h
    exact Balanced.iff (h.post (follows_start options))
  · intro result h
    exact Balanced.iff (h.post (follows_rediscover options true))

theorem keepsReporting_iff_cancelledPause :
    KeepsReporting cancelledPause ↔ ¬ LosesSwitchOff cancelledPause :=
  (keepsReporting_iff { inventoryFuel := 16 } 16 none cancelledPause).2.2 _
    (executes_cancelledPause { inventoryFuel := 16 })

/-- A pause that is cancelled leaves reporting off. -/
theorem not_keepsReporting_cancelledPause :
    Executes (Controller.rediscover { inventoryFuel := 16 } true) cancelledPause
        (.error .cancelledError) ∧
      ¬ KeepsReporting cancelledPause := by
  constructor
  · exact executes_cancelledPause _
  · intro h
    have hoff := h (by decide)
    revert hoff
    decide

end Tekmar482
