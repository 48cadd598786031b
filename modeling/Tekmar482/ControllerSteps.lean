import Tekmar482.ControllerCalls

/-!
# The steps of the controller

Every step that meets the conditions keeps the invariant, and with it a report
loop with an empty queue has what was counted last.
-/

namespace Tekmar482

open Routine

section Steps

variable {s t : ControllerSystem}

theorem Sound.call (h : Sound s) (options : ControllerOptions) (operation : Operation) :
    Sound { s with
      tasks := s.tasks ++ [{ operation, routine := operation.routine options }] } where
  ground := h.ground.retask s.running _ s.reportTask h.ground.started
  tasks := h.tasks.append (.fresh s rfl (operation.follows options))

/-- A task registers the request of its call. -/
theorem Sound.request (h : Sound s) {id : Option Nat} {task : Task} {call : SessionCall}
    {next : Except PyException (SessionReply call) → ControllerRoutine Unit} {future : Nat}
    {responseMatch : ResponseMatch} {publishMatch : Bool} {after : Dispatcher}
    (htask : s.task? id = some task) (hroutine : task.routine = .call (.session call) next)
    (hrequest : call.request = some (responseMatch, publishMatch))
    (hstep : s.dispatcher.step (.register future responseMatch publishMatch) = some after) :
    Sound ({ s with dispatcher := after }.setTask { task with future := some future } id) := by
  have hsound := h.tasks id task htask
  have hfree : s.dispatcher.futures future = none ∧
      after = s.dispatcher.register future responseMatch publishMatch := by
    rw [Dispatcher.step] at hstep
    split at hstep
    · rename_i hnone
      exact ⟨hnone, (Option.some.inj hstep).symm⟩
    · cases hstep
  obtain ⟨hnone, rfl⟩ := hfree
  have hground : Grounded { s with
      dispatcher := s.dispatcher.register future responseMatch publishMatch } :=
    h.ground.setDispatcher (h.ground.dispatcher.step hstep) rfl fun queue hqueue =>
      (h.ground.reading queue hqueue).kept (.of_same rfl rfl rfl) fun _ hqueued => hqueued
  have hadvances : Advances s { s with
      dispatcher := s.dispatcher.register future responseMatch publishMatch } :=
    ⟨fun _ _ hpromised => hpromised.step hstep, le_rfl, fun hlooked => hlooked,
      fun hstate => hstate⟩
  have hafter := hsound.advances hadvances
  refine .setTask hground (h.tasks.same hadvances rfl rfl) htask
    { hafter with promised := ?_ }
  rintro _ ⟨⟩
  exact ⟨call, next, responseMatch, publishMatch, hroutine, hrequest,
    Dispatcher.promised_register h.ground.dispatcher hnone responseMatch publishMatch⟩

/-- A session call ends. -/
theorem Sound.resume (h : Sound s) {id : Option Nat} {task : Task} {call : SessionCall}
    {next : Except PyException (SessionReply call) → ControllerRoutine Unit} {outcome : Outcome}
    {reply : Except PyException (SessionReply call)} {read : Option Arrival} {after : Dispatcher}
    (htask : s.task? id = some task) (hroutine : task.routine = .call (.session call) next)
    (hanswer : s.dispatcher.answer task.future call outcome = some (reply, read, after)) :
    Sound ({ s with dispatcher := after.release task.future }.setTask
      { task with
        routine := next reply
        future := none
        read := task.read ++ read.toList
        matched := task.matched ++ (task.future.bind s.dispatcher.response).toList } id) := by
  have hsound := h.tasks id task htask
  have hpromised : ∀ f responseMatch publishMatch, task.future = some f →
      call.request = some (responseMatch, publishMatch) → s.dispatcher.Promised f responseMatch := by
    intro f responseMatch publishMatch hfuture hrequest
    obtain ⟨call', next', match', publish', hroutine', hrequest', hpromised⟩ :=
      hsound.promised f hfuture
    obtain rfl : call = call' := by
      rw [hroutine] at hroutine'
      injection hroutine' with hcall
      injection hcall
    rw [hrequest] at hrequest'
    cases hrequest'
    exact hpromised
  obtain ⟨hanswers, hanswered⟩ := Dispatcher.answer_spec hanswer hpromised task.read
  have hidles := hanswered.trans (after.idles_release task.future)
  have hadvances : Advances s { s with dispatcher := after.release task.future } :=
    .of_idles hidles (fun hlooked => hlooked) fun hstate => hstate
  have hafter := hsound.advances hadvances
  refine .setTask (h.ground.idles hidles)
    (h.tasks.same hadvances rfl rfl) htask ?_
  refine ⟨hafter.kind, ?_, nofun, ?_, hafter.looked, hafter.installed⟩
  · exact (hsound.call hroutine).2 reply _ ⟨_, hanswers, rfl⟩
  · intro arrival harrival
    rcases List.mem_append.mp harrival with hold | hnew
    · exact hafter.matched arrival hold
    · obtain ⟨f, -, hresponse⟩ := Option.bind_eq_some_iff.mp (Option.mem_toList.mp hnew)
      have hresult := Dispatcher.futures_of_response hresponse
      exact (h.ground.dispatcher.result_arrived f arrival hresult).trans_le hadvances.arrived

/-- A message is taken from the queue and applied, unless it is about the topology. -/
theorem Grounded.takeMessage (h : Grounded s) {queue : Nat} (hreading : s.reading = some queue)
    {arrival : Arrival} {rest : List ReportItem}
    (hitems : (s.dispatcher.queues queue).items = .message arrival :: rest) :
    Grounded ({ s with dispatcher := { s.dispatcher with
      queues := Function.update s.dispatcher.queues queue
        { s.dispatcher.queues queue with items := rest } } }.handleMessage arrival) := by
  let after : Dispatcher := { s.dispatcher with
    queues := Function.update s.dispatcher.queues queue
      { s.dispatcher.queues queue with items := rest } }
  have hloop := h.reading queue hreading
  have hwell : after.WellFormed := h.dispatcher.of_same rfl rfl rfl rfl
  have hqueue : after.queues queue = { s.dispatcher.queues queue with items := rest } :=
    Function.update_self ..
  have hmessages : s.dispatcher.messages queue = arrival :: after.messages queue := by
    rw [Dispatcher.messages, Dispatcher.messages, hitems, hqueue]
    rfl
  have hunbounded : (after.queues queue).maxsize = 0 := by
    rw [hqueue]
    exact hloop.unbounded
  have hended : s.dispatcher.Ended queue → after.Ended queue := by
    rintro ⟨item, hitem, hends⟩
    refine ⟨item, ?_, hends⟩
    rw [hitems] at hitem
    rw [hqueue]
    rcases List.mem_cons.mp hitem with rfl | hlater
    · cases hends
    · exact hlater
  have hstarted := h.state_of_reading hreading
  unfold ControllerSystem.handleMessage
  split
  · -- A topology message reports no scalar value.
    rename_i htopology
    refine ⟨hwell, h.arrivals, h.published, h.polled, h.discovery, h.state, ?_, fun _ => hstarted⟩
    intro other hother
    obtain rfl : queue = other := Option.some.inj (hreading.symm.trans hother)
    refine ⟨hloop.known, hunbounded, ?_⟩
    rcases hloop.live with hends | ⟨hlive, hrestores⟩
    · exact .inl (hended hends)
    · refine .inr ⟨hlive, fun state hstate => ?_⟩
      have hqueued := hrestores state hstate
      rw [hmessages] at hqueued
      exact hqueued.skip (scalarReport_topology htopology)
  · refine ⟨hwell, h.arrivals, h.published, h.polled, h.discovery, ?_, ?_, ?_⟩
    · intro state hstate
      obtain ⟨before, hbefore, rfl⟩ := Option.map_eq_some_iff.mp hstate
      exact (h.state before hbefore).applyMessage (lastReported_concat s.applied arrival)
    · intro other hother
      obtain rfl : queue = other := Option.some.inj (hreading.symm.trans hother)
      refine ⟨hloop.known, hunbounded, ?_⟩
      rcases hloop.live with hends | ⟨hlive, hrestores⟩
      · exact .inl (hended hends)
      · refine .inr ⟨hlive, fun state hstate => ?_⟩
        obtain ⟨before, hbefore, rfl⟩ := Option.map_eq_some_iff.mp hstate
        have hqueued := hrestores before hbefore
        rw [hmessages] at hqueued
        rw [Tekmar482State.discovery_applyMessage]
        exact hqueued.apply
    · intro _
      change (s.state.map _).isSome = true
      rw [Option.isSome_map]
      exact hstarted

/-- The report loop takes an item of its queue. -/
theorem Sound.take (h : Sound s) {queue : Nat} (hreading : s.reading = some queue)
    {item : ReportItem} {after : Dispatcher}
    (htake : s.dispatcher.takeReport queue = (some item, after)) :
    Sound ({ s with dispatcher := after }.handleItem item) := by
  obtain ⟨rest, hitems, rfl⟩ : ∃ rest, (s.dispatcher.queues queue).items = item :: rest ∧
      after = { s.dispatcher with
        queues := Function.update s.dispatcher.queues queue
          { s.dispatcher.queues queue with items := rest } } := by
    rw [Dispatcher.takeReport] at htake
    split at htake
    · cases htake
    · rename_i first rest hitems
      cases htake
      exact ⟨rest, hitems, rfl⟩
  have hkeeps : ∀ future responseMatch, s.dispatcher.Promised future responseMatch →
      Dispatcher.Promised { s.dispatcher with
        queues := Function.update s.dispatcher.queues queue
          { s.dispatcher.queues queue with items := rest } } future responseMatch :=
    fun _ _ hpromised => ⟨hpromised.created, hpromised.registered, hpromised.accepted⟩
  have hwell : Dispatcher.WellFormed { s.dispatcher with
      queues := Function.update s.dispatcher.queues queue
        { s.dispatcher.queues queue with items := rest } } :=
    h.ground.dispatcher.of_same rfl rfl rfl rfl
  cases item with
  | message arrival =>
      refine ⟨h.ground.takeMessage hreading hitems, ?_⟩
      change TasksSound (ControllerSystem.handleMessage _ arrival)
      unfold ControllerSystem.handleMessage
      split
      · exact h.tasks.same ⟨hkeeps, le_rfl, fun hlooked => hlooked, fun hsome => hsome⟩ rfl rfl
      · refine h.tasks.same ⟨hkeeps, le_rfl, fun hlooked => hlooked, fun hsome => ?_⟩ rfl rfl
        change (s.state.map _).isSome = true
        rw [Option.isSome_map]
        exact hsome
  | stop | error err =>
      have hended : Sound { s with
          dispatcher := Dispatcher.unsubscribeReports { s.dispatcher with
            queues := Function.update s.dispatcher.queues queue
              { s.dispatcher.queues queue with items := rest } } queue
          reading := none } := by
        refine ⟨h.ground.unsubscribe hreading hwell rfl,
          h.tasks.same ⟨?_, le_rfl, fun hlooked => hlooked, fun hsome => hsome⟩ rfl rfl⟩
        intro f m hpromised
        exact (hkeeps f m hpromised).step (Dispatcher.step_unsubscribe _ queue)
      simp only [ControllerSystem.handleItem, ControllerSystem.unsubscribed, hreading]
      first
        | exact hended
        | exact hended.setReportTask (h.ground.state_of_reading hreading) s.running
            (Controller.follows_reportError err {})

/-- The report loop starts its next try. -/
theorem Sound.iterate (h : Sound s) {task : Task} (htask : s.reportTask = some task) :
    Sound { s with reportTask := some { routine := Controller.reportLoop } } :=
  h.setReportTask (h.ground.state_of_task htask) s.running (Controller.follows_reportLoop {})

/-- Every step that meets the conditions keeps the invariant. -/
theorem Sound.step (h : Sound s) {options : ControllerOptions} {action : ControllerAction}
    (hreplays : s.ReplaysCurrent action) (hinstalls : s.InstallsCurrent action)
    (hstep : s.step options action = some t) : Sound t := by
  cases ControllerSystem.step_cases options hstep with
  | session hexternal hdispatcher =>
      exact ⟨h.ground.session hexternal hdispatcher, h.tasks.session h.ground hdispatcher⟩
  | call => exact h.call options _
  | request htask hroutine hrequest hdispatcher =>
      exact h.request htask hroutine hrequest hdispatcher
  | resume htask hroutine hanswer => exact h.resume htask hroutine hanswer
  | proceed htask hroutine hperform =>
      exact h.perform htask hroutine hperform hreplays hinstalls
  | take hreading htake => exact h.take hreading htake
  | iterate htask => exact h.iterate htask

end Steps

/-! ## The first state and the idle loop -/

section Ends

variable {s : ControllerSystem}

theorem ControllerSystem.Fresh.sound (h : s.Fresh) : Sound s := by
  obtain ⟨hdispatcher, hrunning, hdiscovery, hstate, htasks, hreport, hreading, harrivals, hpublished,
    hpolled, -⟩ := h
  constructor
  · constructor
    · exact hdispatcher.wellFormed
    · rw [harrivals]
      exact fun _ harrival => absurd harrival List.not_mem_nil
    · rw [hpublished]
      exact fun _ harrival => absurd harrival List.not_mem_nil
    · rw [hpolled]
      exact fun _ harrival => absurd harrival List.not_mem_nil
    · intro discovery hsome
      rw [hdiscovery] at hsome
      cases hsome
    · intro state hsome
      rw [hstate] at hsome
      cases hsome
    · intro queue hsome
      rw [hreading] at hsome
      cases hsome
    · rw [hrunning, hreport, hreading]
      rintro (hstarted | hstarted | hstarted) <;> cases hstarted
  · intro id task htask
    cases id with
    | none =>
        have hnone : s.reportTask = some task := htask
        rw [hreport] at hnone
        cases hnone
    | some k =>
        have hnone : s.tasks[k]? = some task := htask
        rw [htasks] at hnone
        cases hnone

/-- With an empty queue the state has what was counted last. -/
theorem Sound.current (h : Sound s) : s.Current := by
  intro queue hreading hitems
  have hsome := h.ground.started (.inr (.inr (Option.isSome_iff_exists.mpr ⟨queue, hreading⟩)))
  obtain ⟨state, hstate⟩ := Option.isSome_iff_exists.mp hsome
  have hmessages : s.dispatcher.messages queue = [] := by
    rw [Dispatcher.messages, hitems]
    rfl
  rcases (h.ground.reading queue hreading).live with ⟨item, hitem, -⟩ | ⟨-, hrestores⟩
  · rw [hitems] at hitem
    cases hitem
  · have hlast := hrestores state hstate
    rw [hmessages] at hlast
    refine ⟨state, hstate, fun device hdevice => ?_⟩
    obtain ⟨runtime, hruntime, hscalar⟩ := (h.ground.state state hstate).runtime hdevice
    refine ⟨runtime, hruntime, fun value => ?_⟩
    rw [hscalar, ← hlast device hdevice value, List.append_nil]

end Ends

end Tekmar482
