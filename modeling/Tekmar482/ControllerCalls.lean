import Tekmar482.ControllerInvariant

/-!
# The calls on the controller

What a task does to the controller itself keeps the invariant: it notes a
discovery, replaces the state, or starts, stops or subscribes the report loop.
-/

namespace Tekmar482

open Routine

section Perform

variable {s u : ControllerSystem} {id : Option Nat} {task after : Task}

/-- The invariant of the controller. -/
structure Sound (system : ControllerSystem) : Prop where
  ground : Grounded system
  tasks : TasksSound system

theorem Sound.setTask (hground : Grounded u) (htasks : TasksSound u) {old : Task}
    (hold : u.task? id = some old) (hnew : TaskSound u id after) : Sound (u.setTask after id) :=
  ⟨hground.setTask hold after, htasks.setTask hold hnew⟩

/-- A task goes on after a call on the controller that may change what is noted of it. -/
theorem Sound.noted {call : ControllerCall}
    {next : Except PyException (ControllerReply call) → ControllerRoutine Unit}
    {reply : ControllerReply call} (h : Sound u) (hold : u.task? id = some task) (after : Task)
    (hroutine : task.routine = .call call next) (hsession : ∀ c, call ≠ .session c)
    (hoperation : after.operation = task.operation) (hfuture : after.future = task.future)
    (hanswers : (taskContract task.operation).answers task.view call (.ok reply) after.view)
    (hmatched : after.matched ⊆ task.matched)
    (hlooked : after.discovery.isSome = true → u.discovery.isSome = true)
    (hinstalled : after.installed = true → u.state.isSome = true) :
    Sound (u.setTask { after with routine := next (.ok reply) } id) := by
  have htask := h.tasks id task hold
  refine .setTask h.ground h.tasks hold ⟨?_, ?_, ?_, ?_, hlooked, hinstalled⟩
  · exact (congrArg Option.isSome hoperation).trans htask.kind
  · change (next (.ok reply)).Follows (taskContract after.operation) _ after.view
    rw [hoperation]
    exact (htask.call hroutine).2 (.ok reply) after.view hanswers
  · intro future hsome
    obtain ⟨call', next', _, _, hroutine', -⟩ := htask.promised future (hfuture ▸ hsome)
    have hcall : call = .session call' := by
      rw [hroutine] at hroutine'
      injection hroutine'
    exact absurd hcall (hsession call')
  · exact fun arrival harrival => htask.matched arrival (hmatched harrival)

/-- A task goes on after a call on the controller, with nothing new noted of it. -/
theorem Sound.proceed {call : ControllerCall}
    {next : Except PyException (ControllerReply call) → ControllerRoutine Unit}
    {reply : ControllerReply call} (h : Sound u) (hold : u.task? id = some task)
    (hroutine : task.routine = .call call next) (hsession : ∀ c, call ≠ .session c)
    (hanswers : (taskContract task.operation).answers task.view call (.ok reply) task.view) :
    Sound (u.setTask { task with routine := next (.ok reply) } id) :=
  h.noted hold task hroutine hsession rfl rfl hanswers (List.Subset.refl _)
    (h.tasks id task hold).looked (h.tasks id task hold).installed

/-- A poll replaces the state with its snapshot. -/
theorem Grounded.setState (h : Grounded s) (htask : TaskSound s id task) {data : AvailableInfo}
    {discovery : DiscoveryResult} (hdiscovery : s.discovery = some discovery)
    (hshows : Client.Shows discovery data (lastReported task.read))
    (hrestores : ∀ queue, s.reading = some queue → queue ∈ s.dispatcher.reportQueues →
      Restores discovery task.read (s.dispatcher.messages queue)
        (s.counted (s.polled ++ task.matched))) :
    Grounded { s with
      state := some { discovery, data }
      polled := s.polled ++ task.matched
      applied := task.read } where
  dispatcher := h.dispatcher
  arrivals := h.arrivals
  published := h.published
  polled := by
    intro arrival harrival
    rcases List.mem_append.mp harrival with hold | hnew
    · exact h.polled arrival hold
    · exact htask.matched arrival hnew
  discovery := h.discovery
  state := by
    rintro state ⟨⟩
    exact .of_shows (h.discovery discovery hdiscovery) hshows
  reading := by
    intro queue hqueue
    have hloop := h.reading queue hqueue
    refine ⟨hloop.known, hloop.unbounded, ?_⟩
    rcases hloop.live with hended | ⟨hlive, -⟩
    · exact .inl hended
    · refine .inr ⟨hlive, ?_⟩
      rintro state ⟨⟩
      exact hrestores queue hqueue hlive
  started := fun _ => rfl

/-- A response about the reporting state changes no scalar value. -/
theorem Grounded.applyMessage (h : Grounded s) {message : TrpcPacket}
    (hmethod : message.methodId = TrpcMethod.reportingState.value) :
    Grounded { s with
      state := s.state.map fun state => (state.applyMessage message).2 } where
  dispatcher := h.dispatcher
  arrivals := h.arrivals
  published := h.published
  polled := h.polled
  discovery := h.discovery
  state := by
    intro state hstate
    obtain ⟨before, hbefore, rfl⟩ := Option.map_eq_some_iff.mp hstate
    apply (h.state before hbefore).applyMessage
    apply (ScalarCells.record_other _ _).symm
    intro value hvalue
    have hsame : TrpcMethod.reportingState = value.method :=
      TrpcMethod.value_injective (hmethod.symm.trans hvalue)
    revert hsame
    cases value <;> decide
  reading := by
    intro queue hqueue
    have hloop : LoopSound s queue := h.reading queue hqueue
    refine hloop.kept (.refl queue s.dispatcher) ?_
    intro queued hqueued state hstate
    obtain ⟨before, hbefore, rfl⟩ := Option.map_eq_some_iff.mp hstate
    rw [Tekmar482State.discovery_applyMessage]
    exact hqueued before hbefore
  started := by
    intro hstarted
    rw [Option.isSome_map]
    exact h.started hstarted

/-- The report loop subscribes with a replay of the backlog. -/
theorem Grounded.subscribe (h : Grounded s) (hstate : s.state.isSome = true)
    (hrestores : s.dispatcher.readerError = none → ∀ state, s.state = some state →
      Restores state.discovery s.applied s.dispatcher.messageBacklog (s.counted s.polled)) :
    Grounded { s with
      dispatcher := s.dispatcher.reports 0 true
      reading := some s.dispatcher.nextQueue } := by
  have hwell : (s.dispatcher.reports 0 true).WellFormed :=
    h.dispatcher.step (s.dispatcher.step_subscribe 0 true)
  have harrived := s.dispatcher.arrived_reports 0 true
  have hnext := s.dispatcher.nextQueue_reports 0 true
  refine ⟨hwell, ?_, ?_, ?_, h.discovery, h.state, ?_, fun _ => hstate⟩
  · exact fun arrival harrival => harrived ▸ h.arrivals arrival harrival
  · exact fun arrival harrival => harrived ▸ h.published arrival harrival
  · exact fun arrival harrival => harrived ▸ h.polled arrival harrival
  · rintro queue ⟨⟩
    have hknown : s.dispatcher.nextQueue < (s.dispatcher.reports 0 true).nextQueue :=
      hnext ▸ Nat.lt_succ_self _
    cases herror : s.dispatcher.readerError with
    | some err =>
        have hqueue := Dispatcher.queues_reports_error herror
        refine ⟨hknown, congrArg ReportQueue.maxsize hqueue, .inl ⟨.error err, ?_, rfl⟩⟩
        exact (congrArg ReportQueue.items hqueue) ▸ List.mem_singleton_self _
    | none =>
        obtain ⟨hqueue, hlive⟩ := Dispatcher.queues_reports_replay herror
        have hmessages : (s.dispatcher.reports 0 true).messages s.dispatcher.nextQueue =
            s.dispatcher.messageBacklog := by
          rw [Dispatcher.messages, hqueue, List.filterMap_map]
          exact List.filterMap_some
        refine ⟨hknown, congrArg ReportQueue.maxsize hqueue, .inr ⟨hlive, fun state hsome => ?_⟩⟩
        change Restores state.discovery s.applied
          ((s.dispatcher.reports 0 true).messages s.dispatcher.nextQueue) _
        rw [hmessages]
        exact hrestores herror state hsome

theorem ControllerSystem.tasks_unsubscribed (s : ControllerSystem) :
    s.unsubscribed.tasks = s.tasks := by
  unfold ControllerSystem.unsubscribed
  split <;> rfl

theorem TasksSound.unsubscribed (h : TasksSound s) : TasksSound s.unsubscribed := by
  unfold ControllerSystem.unsubscribed
  split
  · exact h
  · rename_i queue _
    have hadvances : Advances s { s with
        dispatcher := s.dispatcher.unsubscribeReports queue
        reading := none } :=
      ⟨fun _ _ hpromised => hpromised.step (s.dispatcher.step_unsubscribe queue), le_rfl,
        fun hlooked => hlooked, fun hstate => hstate⟩
    exact h.same hadvances rfl rfl

namespace Sound

theorem setDiscovery (h : Sound s) {discovery : DiscoveryResult} (hdistinct : discovery.Distinct) :
    Sound { s with discovery := some discovery } where
  ground :=
    { h.ground with
      discovery := by
        rintro _ ⟨⟩
        exact hdistinct
      reading := fun queue hqueue =>
        (h.ground.reading queue hqueue).kept (.refl queue s.dispatcher) fun _ hqueued => hqueued }
  tasks := h.tasks.same (.of_same rfl (fun _ => rfl) fun hstate => hstate) rfl rfl

theorem setState (h : Sound s) (hold : s.task? id = some task) {data : AvailableInfo}
    {discovery : DiscoveryResult} (hdiscovery : s.discovery = some discovery)
    (hshows : Client.Shows discovery data (lastReported task.read))
    (hrestores : ∀ queue, s.reading = some queue → queue ∈ s.dispatcher.reportQueues →
      Restores discovery task.read (s.dispatcher.messages queue)
        (s.counted (s.polled ++ task.matched))) :
    Sound { s with
      state := some { discovery, data }
      polled := s.polled ++ task.matched
      applied := task.read } where
  ground := h.ground.setState (h.tasks id task hold) hdiscovery hshows hrestores
  tasks := h.tasks.same (.of_same rfl (fun hlooked => hlooked) fun _ => rfl) rfl rfl

theorem applyMessage (h : Sound s) {message : TrpcPacket}
    (hmethod : message.methodId = TrpcMethod.reportingState.value) :
    Sound { s with state := s.state.map fun state => (state.applyMessage message).2 } where
  ground := h.ground.applyMessage hmethod
  tasks := by
    refine h.tasks.same (.of_same rfl (fun hlooked => hlooked) fun hsome => ?_) rfl rfl
    change (s.state.map _).isSome = true
    rw [Option.isSome_map]
    exact hsome

/-- A new task of the report loop. -/
theorem setReportTask (h : Sound s) (hstate : s.state.isSome = true) (running : Bool)
    {routine : ControllerRoutine Unit}
    (hfollows : routine.Follows (taskContract none) (fun _ _ => True) {}) :
    Sound { s with running, reportTask := some { routine } } where
  ground := h.ground.retask running s.tasks (some { routine }) fun _ => hstate
  tasks := by
    refine h.tasks.advances (.of_same rfl (fun hlooked => hlooked) fun hstate => hstate) rfl ?_
    rintro _ ⟨⟩
    exact .inr (.fresh _ rfl hfollows)

theorem stopReportLoop (h : Sound s) :
    Sound { s.unsubscribed with running := false, reportTask := none } where
  ground := by
    refine h.ground.unsubscribed.retask false s.unsubscribed.tasks none ?_
    rintro (hrunning | hreport | hreading)
    · cases hrunning
    · cases hreport
    · exact h.ground.unsubscribed.started (.inr (.inr hreading))
  tasks :=
    h.tasks.unsubscribed.advances (.of_same rfl (fun hlooked => hlooked) fun hstate => hstate) rfl
      nofun

theorem subscribe (h : Sound s) (hstate : s.state.isSome = true)
    (hrestores : s.dispatcher.readerError = none → ∀ state, s.state = some state →
      Restores state.discovery s.applied s.dispatcher.messageBacklog (s.counted s.polled)) :
    Sound { s with
      dispatcher := s.dispatcher.reports 0 true
      reading := some s.dispatcher.nextQueue } where
  ground := h.ground.subscribe hstate hrestores
  tasks :=
    h.tasks.same
      ⟨fun _ _ hpromised => hpromised.step (s.dispatcher.step_subscribe 0 true),
        (s.dispatcher.arrived_reports 0 true).ge, fun hlooked => hlooked, fun hsome => hsome⟩
      rfl rfl

end Sound

/-- Every call on the controller keeps the invariant. -/
theorem Sound.perform {call : ControllerCall}
    {next : Except PyException (ControllerReply call) → ControllerRoutine Unit}
    {reply : ControllerReply call} (h : Sound s) (htask : s.task? id = some task)
    (hroutine : task.routine = .call call next)
    (hperform : s.perform task call = some (reply, u, after))
    (hreplays : s.ReplaysCurrent (.proceed id)) (hinstalls : s.InstallsCurrent (.proceed id)) :
    Sound (u.setTask { after with routine := next (.ok reply) } id) := by
  have hsound := h.tasks id task htask
  have hat : s.atCall id = some (task, call) := by
    rw [ControllerSystem.atCall, htask, Option.bind_some, hroutine]
  obtain ⟨hrequires, -⟩ := hsound.call hroutine
  have hplace (hoperation : task.operation.isSome = true) : ∃ k, id = some k :=
    Option.isSome_iff_exists.mp (hsound.kind ▸ hoperation)
  cases call with
  | session call => cases hperform
  | runningData =>
      cases hperform
      exact h.noted htask { task with idle := _ } hroutine nofun rfl rfl rfl (List.Subset.refl _)
        hsound.looked hsound.installed
  | isRunning | data =>
      cases hperform
      exact h.proceed htask hroutine nofun rfl
  | discovery =>
      cases hperform
      exact h.noted htask { task with discovery := s.discovery, read := [], matched := [] } hroutine
        nofun rfl rfl ⟨h.ground.discovery, rfl⟩ (List.nil_subset _) (fun hlooked => hlooked)
        hsound.installed
  | setDiscovery discovery =>
      cases hperform
      have hset := h.setDiscovery hrequires.2
      exact hset.noted htask { task with discovery := some discovery, read := [], matched := [] }
        hroutine nofun rfl rfl rfl (List.nil_subset _) (fun _ => rfl) hsound.installed
  | setState data =>
      cases hperform
      obtain ⟨-, -, discovery, hdiscovery, hshows⟩ := hrequires
      have hinstalling : s.installing (.proceed id) = some task := by
        rw [ControllerSystem.installing, hat]
      obtain ⟨hsame, hrestores⟩ := hinstalls task hinstalling
      have hknown : s.discovery = some discovery := hsame.trans hdiscovery
      have hstate : (s.discovery.map fun discovery => (⟨discovery, data⟩ : Tekmar482State)) =
          some { discovery, data } := by
        rw [hknown, Option.map_some]
      simp only [hstate]
      have hset := h.setState htask hknown hshows fun queue hqueue hlive =>
        hrestores queue hqueue hlive discovery hknown
      exact hset.noted htask { task with installed := true } hroutine nofun rfl rfl rfl
        (List.Subset.refl _) hsound.looked fun _ => rfl
  | applyMessage message =>
      cases hperform
      exact (h.applyMessage hrequires).proceed htask hroutine nofun rfl
  | runReportLoop =>
      cases hperform
      obtain ⟨hoperation, hinstalled⟩ := hrequires
      obtain ⟨k, rfl⟩ := hplace (by rw [hoperation]; rfl)
      have hrun := h.setReportTask (hsound.installed hinstalled) true
        (Controller.follows_reportLoop {})
      refine hrun.noted ?_ { task with idle := false } hroutine nofun rfl rfl rfl
        (List.Subset.refl _) hsound.looked hsound.installed
      exact htask
  | stopReportLoop =>
      cases hperform
      have hoperation : task.operation = some .stop := hrequires
      obtain ⟨k, rfl⟩ := hplace (by rw [hoperation]; rfl)
      refine h.stopReportLoop.proceed ?_ hroutine nofun rfl
      change s.unsubscribed.tasks[k]? = some task
      exact s.tasks_unsubscribed ▸ htask
  | subscribe =>
      cases hperform
      have hoperation : task.operation = none := hrequires
      obtain rfl : id = none := by
        have hkind := hsound.kind
        rw [hoperation] at hkind
        exact Option.isNone_iff_eq_none.mp (Option.isSome_eq_false_iff.mp hkind.symm)
      have hsubscribed := h.subscribe (h.ground.state_of_task htask) fun herror state hsome => by
        apply hreplays state
        rw [ControllerSystem.replaying, hat, herror]
        exact hsome
      refine hsubscribed.proceed ?_ hroutine nofun rfl
      exact htask

end Perform

end Tekmar482
