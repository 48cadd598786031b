import Tekmar482.FittingTasks
import Tekmar482.HeldMessages
import Tekmar482.LiveState

/-!
# Live snapshots fit their devices

Whatever the tasks of a controller, the session and the gateway do, every snapshot of the state
fits its device: it shows what discovery offers, and beyond that only what a message that
has arrived reports.
-/

namespace Tekmar482

open Routine Machine

/-! ## The invariant -/

/-- Messages that have all arrived. -/
def Heard (arrivals : List Arrival) (messages : List TrpcPacket) : Prop :=
  ∀ message ∈ messages, ∃ arrival ∈ arrivals, arrival.message = message

theorem Heard.mono {arrivals arrivals' : List Arrival} {messages : List TrpcPacket}
    (h : Heard arrivals messages) (hsubset : arrivals ⊆ arrivals') : Heard arrivals' messages := by
  intro message hmem
  obtain ⟨arrival, harrival, heq⟩ := h message hmem
  exact ⟨arrival, hsubset harrival, heq⟩

/-- A task that follows the contract, and was told only what has arrived. -/
def Task.Fits (arrivals : List Arrival) (task : Task) : Prop :=
  ∃ told, Heard arrivals told ∧ task.routine.Delivers fittingContract (fun _ _ => True)
    { told, discovery := task.discovery }

theorem Task.Fits.mono {arrivals arrivals' : List Arrival} {task : Task}
    (h : task.Fits arrivals) (hsubset : arrivals ⊆ arrivals') : task.Fits arrivals' := by
  obtain ⟨told, hheard, hfollows⟩ := h
  exact ⟨told, hheard.mono hsubset, hfollows⟩

theorem Task.Fits.of_obeys {task : Task} (h : Obeys fittingContract task.routine)
    (arrivals : List Arrival) : task.Fits arrivals :=
  ⟨[], fun _ hmem => absurd hmem List.not_mem_nil, h _⟩

/-- One of the arrivals stores a value of a device. -/
def ReportedIn (arrivals : List Arrival) (address : Int) (value : DeviceValue) : Prop :=
  ∃ arrival ∈ arrivals, value.ReportedBy address arrival.message

/-- What holds of a controller in every run: the messages held have arrived, the tasks follow
their contract with them, and the snapshots of the state fit. -/
structure Fitting (system : ControllerSystem) : Prop where
  held : system.dispatcher.Holds (· ∈ system.arrivals)
  tasks : ∀ id task, system.task? id = some task → task.Fits system.arrivals
  state : ∀ state, system.state = some state → state.data.Fits (ReportedIn system.arrivals)

namespace Fitting

variable {s t : ControllerSystem}

/-- A step with no arrival, after which each task is an old one or follows the contract. -/
theorem same (h : Fitting s) (harrivals : t.arrivals = s.arrivals)
    (hheld : t.dispatcher.Holds (· ∈ s.arrivals))
    (htasks : ∀ id task, t.task? id = some task →
      s.task? id = some task ∨ task.Fits s.arrivals)
    (hstate : ∀ state, t.state = some state →
      s.state = some state ∨ state.data.Fits (ReportedIn s.arrivals)) : Fitting t where
  held := harrivals ▸ hheld
  tasks := by
    intro id task htask
    rw [harrivals]
    exact (htasks id task htask).elim (h.tasks id task) fun hnew => hnew
  state := by
    intro state hsome
    rw [harrivals]
    exact (hstate state hsome).elim (h.state state) fun hnew => hnew

/-- A step of the dispatcher that brings no message. -/
theorem setDispatcher (h : Fitting s) {after : Dispatcher}
    (hheld : after.Holds (· ∈ s.arrivals)) : Fitting { s with dispatcher := after } :=
  h.same rfl hheld (fun _ _ htask => .inl htask) fun _ hstate => .inl hstate

theorem setTask (h : Fitting s) {task : Task} (htask : task.Fits s.arrivals) (id : Option Nat) : Fitting (s.setTask task id) := by
  cases id with
  | none =>
      refine h.same rfl h.held ?_ fun _ hstate => .inl hstate
      intro other found hfound
      cases other with
      | none =>
          cases hfound
          exact .inr htask
      | some k => exact .inl hfound
  | some n =>
      refine h.same rfl h.held ?_ fun _ hstate => .inl hstate
      intro other found hfound
      cases other with
      | none => exact .inl hfound
      | some k =>
          have hget : (s.tasks.set n task)[k]? = some found := hfound
          rw [List.getElem?_set] at hget
          split at hget
          · split at hget
            · cases hget
              exact .inr htask
            · cases hget
          · exact .inl hget

/-- The next call of a task is one that its contract allows, and the task goes on with any
reply that the contract allows. -/
theorem call (h : Fitting s) {id : Option Nat} {task : Task} (htask : s.task? id = some task)
    {call : ControllerCall}
    {next : Except PyException (ControllerReply call) → ControllerRoutine Unit}
    (hroutine : task.routine = .call call next) :
    ∃ told, Heard s.arrivals told ∧
      fittingContract.requires { told, discovery := task.discovery } call ∧
      ∀ reply notes, fittingContract.answers { told, discovery := task.discovery } call reply notes →
        (next reply).Delivers fittingContract (fun _ _ => True) notes := by
  obtain ⟨told, hheard, hfollows⟩ := h.tasks id task htask
  rw [hroutine] at hfollows
  exact ⟨told, hheard, hfollows⟩

end Fitting

/-! ## The steps -/

theorem Tekmar482State.fits_applyMessage {state : Tekmar482State} {arrivals : List Arrival}
    (h : state.data.Fits (ReportedIn arrivals)) {message : TrpcPacket}
    (hmessage : ∃ arrival ∈ arrivals, arrival.message = message) :
    (state.applyMessage message).2.data.Fits (ReportedIn arrivals) := by
  rw [Tekmar482State.data_applyMessage]
  cases hupdated : Tekmar482.applyMessage state.discovery state.data message with
  | none => exact h
  | some updated =>
      refine (h.applyMessage hupdated).mono fun address value hreported => ?_
      rcases hreported with hold | hnew
      · exact hold
      · obtain ⟨arrival, harrival, rfl⟩ := hmessage
        exact ⟨arrival, harrival, hnew⟩

namespace Dispatcher

variable {P : Arrival → Prop} {s : Dispatcher}

/-- What a session call returns is a message that the dispatcher held. -/
theorem Holds.answer (h : s.Holds P) {future : Option Nat} {call : SessionCall} {outcome : Outcome}
    {reply : Except PyException (SessionReply call)} {read : Option Arrival} {after : Dispatcher}
    (hanswer : s.answer future call outcome = some (reply, read, after)) :
    after.Holds P ∧ ∀ told, ∃ told', toldContract.answers told call reply told' ∧
      ∀ message ∈ told', message ∈ told ∨ ∃ arrival, P arrival ∧ arrival.message = message := by
  have hsilent (told : List TrpcPacket) : ∀ message ∈ told, message ∈ told ∨
      ∃ arrival, P arrival ∧ arrival.message = message := fun _ => .inl
  have hresponse {arrival : Arrival} (hbind : future.bind s.response = some arrival)
      (told : List TrpcPacket) : ∀ message ∈ arrival.message :: told, message ∈ told ∨
        ∃ arrival, P arrival ∧ arrival.message = message := by
    intro message hmem
    obtain ⟨f, -, hfound⟩ := Option.bind_eq_some_iff.mp hbind
    rcases List.mem_cons.mp hmem with rfl | hold
    · exact .inr ⟨arrival, h.results f arrival (futures_of_response hfound), rfl⟩
    · exact .inl hold
  cases call with
  | «open» | close | isOpen | deadlineExpired | send command =>
      cases outcome <;> first
        | cases hanswer
          exact ⟨h, fun told => ⟨told, rfl, hsilent told⟩⟩
        | cases hanswer
  | requestResponse command responseMatch | updateResponse command responseMatch =>
      cases outcome with
      | raised err =>
          cases hanswer
          exact ⟨h, fun told => ⟨told, rfl, hsilent told⟩⟩
      | message =>
          obtain ⟨arrival, hbind, heq⟩ := Option.map_eq_some_iff.mp hanswer
          cases heq
          exact ⟨h, fun told => ⟨arrival.message :: told, rfl, hresponse hbind told⟩⟩
      | missing =>
          obtain ⟨f, -, heq⟩ := Option.map_eq_some_iff.mp hanswer
          cases heq
          exact ⟨h, fun told => ⟨told, rfl, hsilent told⟩⟩
      | returned flag => cases hanswer
  | readUntil predicate =>
      cases outcome with
      | raised err =>
          cases hanswer
          exact ⟨h, fun told => ⟨told, rfl, hsilent told⟩⟩
      | message =>
          simp only [Dispatcher.answer] at hanswer
          split at hanswer
          · rename_i arrival rest hread
            cases hanswer
            have hstep : s.step (.readUntil predicate) = some after := by
              rw [Dispatcher.step, hread]
            have hafter := h.step (by rintro _ ⟨⟩) (by rintro _ ⟨⟩) hstep
            exact ⟨hafter, fun told => ⟨told, rfl, hsilent told⟩⟩
          · cases hanswer
      | missing =>
          cases hanswer
          exact ⟨h, fun told => ⟨told, rfl, hsilent told⟩⟩
      | returned flag => cases hanswer

theorem Holds.release (h : s.Holds P) (future : Option Nat) : (s.release future).Holds P := by
  cases future with
  | none => exact h
  | some future =>
      have hcancelled : (s.settle future .cancelled).Holds P :=
        @Holds.step P s _ h (.cancel future) (by rintro _ ⟨⟩) (by rintro _ ⟨⟩) rfl
      exact @Holds.step P _ _ hcancelled (.remove future) (by rintro _ ⟨⟩) (by rintro _ ⟨⟩) rfl

end Dispatcher

namespace Fitting

variable {s t : ControllerSystem} {options : ControllerOptions}

/-- A step of the session brings at most one arrival. -/
theorem session (h : Fitting s) {action : DispatcherAction} {after : Dispatcher}
    (hexternal : s.external action = true) (hstep : s.dispatcher.step action = some after) :
    Fitting (s.observe action after) := by
  have hend : ∀ arrival, action ≠ .endReports (.message arrival) := by
    rintro arrival rfl
    cases hexternal
  by_cases hdispatch : ∃ message, action = .dispatch message
  · obtain ⟨message, rfl⟩ := hdispatch
    have hgrows : s.arrivals ⊆ s.arrivals ++ [s.dispatcher.arrival message] :=
      List.subset_append_left _ _
    refine ⟨?_, ?_, ?_⟩
    · apply Dispatcher.Holds.step (h.held.mono fun _ harrival => hgrows harrival) _ hend hstep
      rintro _ ⟨⟩
      exact List.mem_append_right _ (List.mem_singleton_self _)
    · exact fun id task htask => (h.tasks id task htask).mono hgrows
    · intro state hstate
      refine (h.state state hstate).mono fun address value hreported => ?_
      obtain ⟨arrival, harrival, hby⟩ := hreported
      exact ⟨arrival, hgrows harrival, hby⟩
  · rw [(observe_cases s action after).resolve_left hdispatch]
    apply h.setDispatcher (h.held.step _ hend hstep)
    exact fun message heq => absurd ⟨message, heq⟩ hdispatch

theorem unsubscribed (h : Fitting s) : Fitting s.unsubscribed := by
  unfold ControllerSystem.unsubscribed
  split
  · exact h
  · rename_i queue _
    have hheld : (s.dispatcher.unsubscribeReports queue).Holds (· ∈ s.arrivals) :=
      h.held.step (by rintro _ ⟨⟩) (by rintro _ ⟨⟩) (s.dispatcher.step_unsubscribe queue)
    exact h.same rfl hheld (fun _ _ htask => .inl htask) fun _ hstate => .inl hstate

/-- A new task of the report loop. -/
theorem setReportTask (h : Fitting s) (running : Bool) {routine : ControllerRoutine Unit}
    (hobeys : Obeys fittingContract routine) :
    Fitting { s with running, reportTask := some { routine } } := by
  refine h.same rfl h.held ?_ fun _ hstate => .inl hstate
  intro id task htask
  cases id with
  | none =>
      cases htask
      exact .inr (.of_obeys hobeys _)
  | some k => exact .inl htask

theorem applyMessage (h : Fitting s) {message : TrpcPacket}
    (hmessage : ∃ arrival ∈ s.arrivals, arrival.message = message) {state : Tekmar482State}
    (hstate : (s.state.map fun state => (state.applyMessage message).2) = some state) :
    state.data.Fits (ReportedIn s.arrivals) := by
  obtain ⟨before, hbefore, rfl⟩ := Option.map_eq_some_iff.mp hstate
  exact Tekmar482State.fits_applyMessage (h.state before hbefore) hmessage

/-- A message of the report queue is applied. -/
theorem handleMessage (h : Fitting s) {arrival : Arrival} (harrival : arrival ∈ s.arrivals) :
    Fitting (s.handleMessage arrival) := by
  unfold ControllerSystem.handleMessage
  split
  · exact h
  · refine h.same rfl h.held (fun _ _ htask => .inl htask) fun state hstate => .inr ?_
    exact h.applyMessage ⟨arrival, harrival, rfl⟩ hstate

/-- The report loop takes an item of its queue. -/
theorem take (h : Fitting s) {queue : Nat} {item : ReportItem} {after : Dispatcher}
    (htake : s.dispatcher.takeReport queue = (some item, after)) :
    Fitting ({ s with dispatcher := after }.handleItem item) := by
  have hstep : s.dispatcher.step (.take queue) = some after := by
    rw [Dispatcher.step, htake]
  have hafter := h.setDispatcher (h.held.step (by rintro _ ⟨⟩) (by rintro _ ⟨⟩) hstep)
  have hheld : item ∈ (s.dispatcher.queues queue).items := by
    unfold Dispatcher.takeReport at htake
    split at htake
    · cases htake
    · rename_i first rest hitems
      cases htake
      rw [hitems]
      exact List.mem_cons_self
  cases item with
  | message arrival => exact hafter.handleMessage (h.held.queues queue arrival hheld)
  | stop => exact hafter.unsubscribed
  | error err =>
      exact hafter.unsubscribed.setReportTask _ (Controller.obeys_reportError err)

/-- Every call on the controller keeps the snapshots fitting. -/
theorem perform (h : Fitting s) {id : Option Nat} {task after : Task} {call : ControllerCall}
    {next : Except PyException (ControllerReply call) → ControllerRoutine Unit}
    {reply : ControllerReply call} {u : ControllerSystem} (htask : s.task? id = some task)
    (hroutine : task.routine = .call call next)
    (hperform : s.perform task call = some (reply, u, after)) :
    Fitting (u.setTask { after with routine := next (.ok reply) } id) := by
  obtain ⟨told, hheard, hrequires, hnext⟩ := h.call htask hroutine
  have hsession : ∀ c, call ≠ .session c := by
    rintro c rfl
    cases hperform
  have hanswers : fittingContract.answers { told, discovery := task.discovery } call (.ok reply)
      { told, discovery := after.discovery } := by
    cases call with
    | session c => exact absurd rfl (hsession c)
    | _ =>
        cases hperform
        rfl
  have hafter : Task.Fits s.arrivals { after with routine := next (.ok reply) } :=
    ⟨told, hheard, hnext _ _ hanswers⟩
  suffices hu : Fitting u ∧ u.arrivals = s.arrivals from hu.1.setTask (hu.2 ▸ hafter) id
  cases call with
  | session c => exact absurd rfl (hsession c)
  | runningData | isRunning | data | discovery =>
      cases hperform
      exact ⟨h, rfl⟩
  | setDiscovery discovery =>
      cases hperform
      exact ⟨h.same rfl h.held (fun _ _ htask => .inl htask) fun _ hstate => .inl hstate, rfl⟩
  | setState data =>
      cases hperform
      refine ⟨h.same rfl h.held (fun _ _ htask => .inl htask) fun state hstate => .inr ?_, rfl⟩
      obtain ⟨discovery, -, rfl⟩ := Option.map_eq_some_iff.mp hstate
      have hfits : data.Fits fun _ _ => False := hrequires.1
      exact hfits.mono fun _ _ hfalse => hfalse.elim
  | applyMessage message =>
      cases hperform
      refine ⟨h.same rfl h.held (fun _ _ htask => .inl htask) fun state hstate => .inr ?_, rfl⟩
      exact h.applyMessage (hheard message hrequires) hstate
  | runReportLoop =>
      cases hperform
      exact ⟨h.setReportTask true Controller.obeys_reportLoop, rfl⟩
  | stopReportLoop =>
      cases hperform
      have harrivals : s.unsubscribed.arrivals = s.arrivals := by
        unfold ControllerSystem.unsubscribed
        split <;> rfl
      refine ⟨h.unsubscribed.same rfl h.unsubscribed.held ?_ fun _ hstate => .inl hstate, harrivals⟩
      rintro (_ | k) found hfound
      · cases hfound
      · exact .inl hfound
  | subscribe =>
      cases hperform
      have hheld : (s.dispatcher.reports 0 true).Holds (· ∈ s.arrivals) := h.held.reports 0 true
      exact ⟨h.same rfl hheld (fun _ _ htask => .inl htask) fun _ hstate => .inl hstate, rfl⟩

/-- Every step keeps the snapshots fitting. -/
theorem step (h : Fitting s) {action : ControllerAction}
    (hstep : s.step options action = some t) : Fitting t := by
  cases ControllerSystem.step_cases options hstep with
  | session hexternal hdispatcher => exact h.session hexternal hdispatcher
  | @call operation _ =>
      refine h.same rfl h.held ?_ fun _ hstate => .inl hstate
      rintro (_ | k) found hfound
      · exact .inl hfound
      · have hget : (s.tasks ++ [{ operation, routine := operation.routine options }])[k]? =
            some found := hfound
        rcases List.mem_append.mp (List.mem_of_getElem? hget) with hold | hnew
        · obtain ⟨j, hj⟩ := List.mem_iff_getElem?.mp hold
          exact .inr (h.tasks (some j) found hj)
        · cases List.mem_singleton.mp hnew
          exact .inr (.of_obeys (operation.obeys options) _)
  | @request id task call next future responseMatch publishMatch after htask hroutine _ hdispatcher =>
      have hafter := h.setDispatcher
        (h.held.step (by rintro _ ⟨⟩) (by rintro _ ⟨⟩) hdispatcher)
      exact @setTask _ hafter { task with future := some future } (h.tasks id task htask) id
  | @resume id task call next outcome reply read after htask hroutine hanswer =>
      obtain ⟨hheld, hreply⟩ := h.held.answer hanswer
      have hafter := h.setDispatcher (hheld.release task.future)
      obtain ⟨told, hheard, -, hnext⟩ := h.call htask hroutine
      obtain ⟨told', hanswers, htold⟩ := hreply told
      refine hafter.setTask ⟨told', ?_, hnext _ _ ⟨told', hanswers, rfl⟩⟩ id
      exact fun message hmem => (htold message hmem).elim (hheard message) fun hnew => hnew
  | proceed htask hroutine hperform => exact h.perform htask hroutine hperform
  | take _ htake => exact h.take htake
  | iterate _ => exact h.setReportTask s.running Controller.obeys_reportLoop

end Fitting

namespace ControllerSystem

variable {options : ControllerOptions} {s t : ControllerSystem} {actions : List ControllerAction}

theorem Fresh.fitting (h : s.Fresh) (hempty : ∀ queue, (s.dispatcher.queues queue).items = []) :
    Fitting s := by
  obtain ⟨hdispatcher, -, -, hstate, htasks, hreport, -⟩ := h
  refine ⟨hdispatcher.holds hempty, ?_, ?_⟩
  · rintro (_ | k) task htask
    · change s.reportTask = some task at htask
      rw [hreport] at htask
      cases htask
    · change s.tasks[k]? = some task at htask
      rw [htasks] at htask
      cases htask
  · intro state hsome
    rw [hstate] at hsome
    cases hsome

/-- In every run of a controller, each live snapshot has the class of its device and every value
that discovery says the device offers. It has another value only if a message that has arrived
reports it, and stores nothing for the values that it does not have. -/
theorem snapshots_fit (hfresh : s.Fresh)
    (hempty : ∀ queue, (s.dispatcher.queues queue).items = [])
    (hrun : Run (step options) s actions t) {state : Tekmar482State} (hstate : t.state = some state)
    {snapshot : DeviceSnapshot} (hmem : snapshot ∈ state.data.devices) :
    snapshot.Fits state.data.gateway.info.protocolVersion fun value =>
      ∃ arrival ∈ t.arrivals, value.ReportedBy snapshot.info.address arrival.message := by
  have hfitting : Fitting t := by
    apply hrun.invariant _ (hfresh.fitting hempty)
    exact fun system action after hfitting _ hstep => hfitting.step hstep
  exact hfitting.state state hstate snapshot hmem

/-- A start, and a report of a value that the device does not offer. -/
def modeActions : List ControllerAction :=
  startActions [] ++
    [.session (.dispatch
      { serviceId := TrpcService.report.value
        methodId := TrpcMethod.modeSetting.value
        body := .ofList [("address", 1011), ("mode", 2)] }),
      .take]

theorem snapshots_fit_sample : ∃ t state snapshot,
    Run (step sampleOptions) fresh modeActions t ∧ t.state = some state ∧
    snapshot ∈ state.data.devices ∧
    (.scalar .modeSetting ∈ snapshot.runtime.availableValues ∧
      snapshot.info.offers state.data.gateway.info.protocolVersion (.scalar .modeSetting) = false) ∧
    snapshot.Fits state.data.gateway.info.protocolVersion fun value =>
      ∃ arrival ∈ t.arrivals, value.ReportedBy snapshot.info.address arrival.message := by
  have hexec : ((exec (step sampleOptions) fresh modeActions).bind fun t =>
      t.state.bind fun state => state.data.devices.find? fun snapshot =>
        .scalar .modeSetting ∈ snapshot.runtime.availableValues ∧
          snapshot.info.offers state.data.gateway.info.protocolVersion (.scalar .modeSetting) =
            false).isSome = true := by
    decide +kernel
  obtain ⟨snapshot, hsnapshot⟩ := Option.isSome_iff_exists.mp hexec
  obtain ⟨t, ht, hshown⟩ := Option.bind_eq_some_iff.mp hsnapshot
  obtain ⟨state, hstate, hfound⟩ := Option.bind_eq_some_iff.mp hshown
  have hrun := run_iff_exec.mpr ht
  have hmem := List.mem_of_find?_eq_some hfound
  have hreported := List.find?_some hfound
  simp only [decide_eq_true_eq] at hreported
  exact ⟨t, state, snapshot, hrun, hstate, hmem, hreported,
    snapshots_fit fresh_fresh (fun _ => rfl) hrun hstate hmem⟩

end ControllerSystem

end Tekmar482
