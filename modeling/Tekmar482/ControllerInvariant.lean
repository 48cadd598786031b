import Tekmar482.ControllerTasks
import Tekmar482.ReportTransfers

/-!
# The invariant of the controller

The state shows the messages applied, and the messages that wait in the queue of the
report loop bring it to what was counted last.
-/

namespace Tekmar482

open Routine

/-! ## The report loop and the state -/

/-- What holds of the queue that the report loop reads: as long as its subscription
lasts, the messages in it bring the state to what was counted last. -/
structure LoopSound (system : ControllerSystem) (queue : Nat) : Prop where
  known : queue < system.dispatcher.nextQueue
  unbounded : (system.dispatcher.queues queue).maxsize = 0
  live : system.dispatcher.Ended queue ∨
    queue ∈ system.dispatcher.reportQueues ∧
      ∀ state, system.state = some state →
        Restores state.discovery system.applied (system.dispatcher.messages queue)
          (system.counted system.polled)

/-- What holds beside the tasks: the history is in the past, the state shows the
messages applied, and there is a state as soon as there is a report loop. -/
structure Grounded (system : ControllerSystem) : Prop where
  dispatcher : system.dispatcher.WellFormed
  arrivals : ∀ arrival ∈ system.arrivals, arrival.index < system.dispatcher.arrived
  published : ∀ arrival ∈ system.published, arrival.index < system.dispatcher.arrived
  polled : ∀ arrival ∈ system.polled, arrival.index < system.dispatcher.arrived
  discovery : ∀ discovery, system.discovery = some discovery → discovery.Distinct
  state : ∀ state, system.state = some state → ShowsApplied state system.applied
  reading : ∀ queue, system.reading = some queue → LoopSound system queue
  started : system.running = true ∨ system.reportTask.isSome = true ∨
    system.reading.isSome = true → system.state.isSome = true

namespace LoopSound

variable {s t : ControllerSystem} {queue : Nat}

/-- The queue stays, and what restores the counted values still does. -/
theorem kept (h : LoopSound s queue)
    (hkept : Dispatcher.QueueKept queue s.dispatcher t.dispatcher)
    (hrestores : ∀ queued, (∀ state, s.state = some state →
        Restores state.discovery s.applied queued (s.counted s.polled)) →
      ∀ state, t.state = some state →
        Restores state.discovery t.applied queued (t.counted t.polled)) : LoopSound t queue where
  known := h.known.trans_le hkept.next
  unbounded := by
    rw [hkept.queues]
    exact h.unbounded
  live := by
    rw [Dispatcher.Ended, Dispatcher.messages, hkept.queues]
    rcases h.live with hended | ⟨hlive, hmessages⟩
    · exact .inl hended
    · exact .inr ⟨hkept.live hlive, hrestores _ hmessages⟩

/-- The subscription ends. -/
theorem ended (h : LoopSound s queue) {item : ReportItem} (hitem : item.arrival? = none)
    (hqueue : t.dispatcher.queues queue = (s.dispatcher.queues queue).putReportItem item)
    (hnext : s.dispatcher.nextQueue ≤ t.dispatcher.nextQueue) : LoopSound t queue := by
  rw [ReportQueue.items_putReportItem h.unbounded] at hqueue
  constructor
  · exact h.known.trans_le hnext
  · rw [hqueue]
    exact h.unbounded
  · left
    refine ⟨item, ?_, hitem⟩
    rw [hqueue]
    exact List.mem_append_right _ (List.mem_singleton_self item)

end LoopSound

namespace Grounded

variable {s : ControllerSystem}

/-- The dispatcher takes a step that brings no message. -/
theorem setDispatcher (h : Grounded s) {after : Dispatcher} (hwell : after.WellFormed)
    (harrived : after.arrived = s.dispatcher.arrived)
    (hreading : ∀ queue, s.reading = some queue →
      LoopSound { s with dispatcher := after } queue) :
    Grounded { s with dispatcher := after } where
  dispatcher := hwell
  arrivals := fun arrival harrival => harrived ▸ h.arrivals arrival harrival
  published := fun arrival harrival => harrived ▸ h.published arrival harrival
  polled := fun arrival harrival => harrived ▸ h.polled arrival harrival
  discovery := h.discovery
  state := h.state
  reading := hreading
  started := h.started

theorem idles (h : Grounded s) {after : Dispatcher} (hidles : Dispatcher.Idles s.dispatcher after) :
    Grounded { s with dispatcher := after } :=
  h.setDispatcher (hidles.wellFormed h.dispatcher) hidles.arrived fun queue hqueue =>
    (h.reading queue hqueue).kept (hidles.queues queue) fun _ hqueued => hqueued

/-- Tasks change, and there is a state if the report loop runs. -/
theorem retask (h : Grounded s) (running : Bool) (tasks : List Task) (reportTask : Option Task)
    (hstarted : running = true ∨ reportTask.isSome = true ∨ s.reading.isSome = true →
      s.state.isSome = true) : Grounded { s with running, tasks, reportTask } where
  dispatcher := h.dispatcher
  arrivals := h.arrivals
  published := h.published
  polled := h.polled
  discovery := h.discovery
  state := h.state
  reading := fun queue hqueue =>
    (h.reading queue hqueue).kept (.refl queue s.dispatcher) fun _ hqueued => hqueued
  started := hstarted

/-- There is a state while there is a task of the report loop. -/
theorem state_of_task (h : Grounded s) {task : Task} (htask : s.task? none = some task) :
    s.state.isSome = true :=
  h.started (.inr (.inl (Option.isSome_iff_exists.mpr ⟨task, htask⟩)))

theorem state_of_reading (h : Grounded s) {queue : Nat} (hreading : s.reading = some queue) :
    s.state.isSome = true :=
  h.started (.inr (.inr (Option.isSome_iff_exists.mpr ⟨queue, hreading⟩)))

theorem setTask (h : Grounded s) {id : Option Nat} {old : Task} (hold : s.task? id = some old)
    (task : Task) : Grounded (s.setTask task id) := by
  cases id with
  | none => exact h.retask s.running s.tasks (some task) fun _ => h.state_of_task hold
  | some k => exact h.retask s.running (s.tasks.set k task) s.reportTask h.started

/-- The report loop ends its subscription, after some step of the dispatcher. -/
theorem unsubscribe (h : Grounded s) {queue : Nat} (hreading : s.reading = some queue)
    {after : Dispatcher} (hwell : after.WellFormed)
    (harrived : after.arrived = s.dispatcher.arrived) :
    Grounded { s with dispatcher := after.unsubscribeReports queue, reading := none } where
  dispatcher := hwell.of_same rfl rfl rfl rfl
  arrivals := fun arrival harrival => harrived ▸ h.arrivals arrival harrival
  published := fun arrival harrival => harrived ▸ h.published arrival harrival
  polled := fun arrival harrival => harrived ▸ h.polled arrival harrival
  discovery := h.discovery
  state := h.state
  reading := nofun
  started := fun _ => h.state_of_reading hreading

theorem unsubscribed (h : Grounded s) : Grounded s.unsubscribed := by
  rw [ControllerSystem.unsubscribed]
  split
  · exact h
  · rename_i queue hreading
    exact h.unsubscribe hreading h.dispatcher rfl

end Grounded

/-! ## The steps of the session -/

section Session

variable {s : ControllerSystem}

/-- A published message is counted. -/
theorem counted_observe (h : Grounded s) (message : TrpcPacket) (after : Dispatcher) :
    (s.observe (.dispatch message) after).counted s.polled =
      if s.dispatcher.publishes message then
        s.counted s.polled ++ [s.dispatcher.arrival message]
      else s.counted s.polled := by
  have hnew {arrivals : List Arrival}
      (hseen : ∀ arrival ∈ arrivals, arrival.index < s.dispatcher.arrived) :
      s.dispatcher.arrival message ∉ arrivals := fun hmem => (hseen _ hmem).ne rfl
  have hold : ∀ arrival ∈ s.arrivals, arrival ≠ s.dispatcher.arrival message := by
    rintro arrival harrival rfl
    exact hnew h.arrivals harrival
  change (s.arrivals ++ [s.dispatcher.arrival message]).filter (fun arrival =>
    arrival ∈ (if s.dispatcher.publishes message then
      s.published ++ [s.dispatcher.arrival message] else s.published) ∨
        arrival ∈ s.polled) = _
  rw [List.filter_append]
  split
  · congr 1
    · apply List.filter_congr
      intro arrival harrival
      simp [hold arrival harrival]
    · simp
  · have hnone : [s.dispatcher.arrival message].filter (fun arrival =>
        arrival ∈ s.published ∨ arrival ∈ s.polled) = [] := by
      simp [hnew h.published, hnew h.polled]
    rw [hnone, List.append_nil]
    rfl

/-- A dispatched message is counted when it is queued for the report loop. -/
theorem LoopSound.dispatch (h : Grounded s) {queue : Nat} (hloop : LoopSound s queue)
    (message : TrpcPacket) :
    LoopSound (s.observe (.dispatch message) (s.dispatcher.dispatchMessage message)) queue := by
  obtain ⟨hqueues, hlive, hnext⟩ := s.dispatcher.queues_dispatchMessage message
  have hcounted := counted_observe h message (s.dispatcher.dispatchMessage message)
  by_cases hpublishes : s.dispatcher.publishes message = true
  · rw [if_pos hpublishes] at hqueues hcounted
    by_cases hmem : queue ∈ s.dispatcher.reportQueues
    · -- The queue and what counts get the message together.
      have hput : (s.dispatcher.dispatchMessage message).queues queue =
          { s.dispatcher.queues queue with
            items := (s.dispatcher.queues queue).items ++
              [.message (s.dispatcher.arrival message)] } := by
        rw [hqueues, Dispatcher.offered, if_pos hmem,
          ReportQueue.items_putReportItem hloop.unbounded]
      have hmessages : (s.dispatcher.dispatchMessage message).messages queue =
          s.dispatcher.messages queue ++ [s.dispatcher.arrival message] := by
        rw [Dispatcher.messages, hput, List.filterMap_append]
        rfl
      constructor
      · exact hnext ▸ hloop.known
      · exact (congrArg ReportQueue.maxsize hput).trans hloop.unbounded
      · rcases hloop.live with ⟨item, hitem, hends⟩ | ⟨-, hrestores⟩
        · refine .inl ⟨item, ?_, hends⟩
          change item ∈ ((s.dispatcher.dispatchMessage message).queues queue).items
          rw [hput]
          exact List.mem_append_left _ hitem
        · refine .inr ⟨hlive ▸ hmem, fun state hstate => ?_⟩
          change Restores state.discovery s.applied
            ((s.dispatcher.dispatchMessage message).messages queue)
            ((s.observe (.dispatch message) _).counted s.polled)
          rw [hmessages, hcounted]
          exact (hrestores state hstate).concat _
    · have hsame : (s.dispatcher.dispatchMessage message).queues queue =
          s.dispatcher.queues queue := by
        rw [hqueues, Dispatcher.offered, if_neg hmem]
      constructor
      · exact hnext ▸ hloop.known
      · exact (congrArg ReportQueue.maxsize hsame).trans hloop.unbounded
      · rcases hloop.live with ⟨item, hitem, hends⟩ | ⟨hlive, -⟩
        · refine .inl ⟨item, ?_, hends⟩
          change item ∈ ((s.dispatcher.dispatchMessage message).queues queue).items
          rw [hsame]
          exact hitem
        · exact absurd hlive hmem
  · rw [if_neg hpublishes] at hqueues hcounted
    apply hloop.kept (.of_same hqueues hlive hnext)
    intro queued hqueued state hstate
    change Restores state.discovery s.applied queued
      ((s.observe (.dispatch message) _).counted s.polled)
    rw [hcounted]
    exact hqueued state hstate

/-- What a step of the session leaves of the controller. -/
theorem observe_cases (s : ControllerSystem) (action : DispatcherAction) (after : Dispatcher) :
    (∃ message, action = .dispatch message) ∨ s.observe action after = { s with dispatcher := after } := by
  cases action with
  | dispatch message => exact .inl ⟨message, rfl⟩
  | _ => exact .inr rfl

theorem Grounded.session (h : Grounded s) {action : DispatcherAction} {after : Dispatcher}
    (hexternal : s.external action = true) (hstep : s.dispatcher.step action = some after) :
    Grounded (s.observe action after) := by
  have hwell := h.dispatcher.step hstep
  rcases observe_cases s action after with ⟨message, rfl⟩ | hobserve
  · cases hstep
    have harrived := Dispatcher.dispatchMessage_arrived message s.dispatcher
    have hpast {arrivals : List Arrival}
        (hseen : ∀ arrival ∈ arrivals, arrival.index < s.dispatcher.arrived) :
        ∀ arrival ∈ arrivals ++ [s.dispatcher.arrival message],
          arrival.index < (s.dispatcher.dispatchMessage message).arrived := by
      intro arrival harrival
      rw [harrived]
      rcases List.mem_append.mp harrival with hold | hnew
      · exact (hseen arrival hold).trans (Nat.lt_succ_self _)
      · rw [List.mem_singleton.mp hnew]
        exact Nat.lt_succ_self _
    refine ⟨hwell, hpast h.arrivals, ?_, ?_, h.discovery, h.state,
      fun queue hqueue => (h.reading queue hqueue).dispatch h message, h.started⟩
    · intro arrival harrival
      apply hpast h.published arrival
      change arrival ∈ (if s.dispatcher.publishes message then
        s.published ++ [s.dispatcher.arrival message] else s.published) at harrival
      split at harrival
      · exact harrival
      · exact List.mem_append_left _ harrival
    · exact fun arrival harrival => hpast h.polled arrival (List.mem_append_left _ harrival)
  · rw [hobserve]
    have hquiet : ∀ message, action ≠ .dispatch message := by
      rintro message rfl
      have harrivals : s.arrivals ++ [s.dispatcher.arrival message] = s.arrivals :=
        congrArg ControllerSystem.arrivals hobserve
      simp at harrivals
    apply h.setDispatcher hwell
    · rcases Dispatcher.step_results hstep with ⟨message, hmessage, -⟩ | ⟨harrived, -⟩
      · exact absurd hmessage (hquiet message)
      · exact harrived
    · intro queue hqueue
      have hloop := h.reading queue hqueue
      have htake : action ≠ .take queue := by
        rintro rfl
        simp [ControllerSystem.external, hqueue] at hexternal
      have hunsubscribe : action ≠ .unsubscribe queue := by
        rintro rfl
        simp [ControllerSystem.external, hqueue] at hexternal
      have hend : ∀ arrival, action ≠ .endReports (.message arrival) := by
        rintro arrival rfl
        simp [ControllerSystem.external] at hexternal
      rcases Dispatcher.step_queue hloop.known htake hunsubscribe hend hstep with
        ⟨message, hmessage, -⟩ | hkept | ⟨item, hitem, hput, hnext⟩
      · exact absurd hmessage (hquiet message)
      · exact hloop.kept hkept fun _ hqueued => hqueued
      · exact hloop.ended hitem hput hnext

theorem TasksSound.session (h : TasksSound s) (hground : Grounded s) {action : DispatcherAction}
    {after : Dispatcher} (hstep : s.dispatcher.step action = some after) :
    TasksSound (s.observe action after) := by
  have hdispatcher : (s.observe action after).dispatcher = after := by
    cases action <;> rfl
  apply h.advances
  · constructor
    · intro future responseMatch hpromised
      rw [hdispatcher]
      exact hpromised.step hstep
    · rw [hdispatcher]
      exact (Dispatcher.step_later hground.dispatcher hstep).arrived_le
    · cases action <;> exact id
    · cases action <;> exact id
  · cases action <;> rfl
  · intro task htask
    left
    cases action <;> exact htask

end Session

end Tekmar482
