import Tekmar482.AppliedMessages
import Tekmar482.ControllerContracts

/-!
# The tasks of the controller

Every task follows its contract: what a session call returns to it is a message that
its request accepts, and what it has read is recorded. The steps of others keep that.
-/

namespace Tekmar482

open Routine

/-! ## Steps of the dispatcher beside the tasks -/

namespace Dispatcher

/-- Nothing arrives, no request is new, and the queues stay. -/
structure Idles (before after : Dispatcher) : Prop where
  keeps : Keeps before after
  wellFormed : before.WellFormed → after.WellFormed
  arrived : after.arrived = before.arrived
  queues : ∀ queue, QueueKept queue before after

theorem Idles.refl (s : Dispatcher) : Idles s s :=
  ⟨(Settles.refl s).keeps, id, rfl, fun queue => .refl queue s⟩

theorem Idles.trans {s t u : Dispatcher} (h : Idles s t) (h' : Idles t u) : Idles s u where
  keeps := ⟨fun _ hitem => h.keeps.pending (h'.keeps.pending hitem),
    fun future hcreated => h'.keeps.created future (h.keeps.created future hcreated),
    fun future a hresult => h.keeps.results future a (h'.keeps.results future a hresult)⟩
  wellFormed := fun hwell => h'.wellFormed (h.wellFormed hwell)
  arrived := h'.arrived.trans h.arrived
  queues := fun queue => (h.queues queue).trans (h'.queues queue)

theorem idles_settle (s : Dispatcher) (future : Nat) : Idles s (s.settle future .cancelled) := by
  have hsettles := settles_cancel s future
  refine ⟨hsettles.keeps, hsettles.wellFormed, hsettles.arrived, fun queue => ?_⟩
  unfold settle
  split
  · exact .of_same rfl rfl rfl
  · exact .refl queue s

theorem idles_removePending (s : Dispatcher) (future : Nat) : Idles s (s.removePending future) :=
  ⟨⟨List.eraseP_subset, fun _ h => h, fun _ _ h => h⟩, fun h => h.removePending future, rfl,
    fun _ => .of_same rfl rfl rfl⟩

theorem idles_release (s : Dispatcher) (future : Option Nat) : Idles s (s.release future) := by
  cases future with
  | none => exact .refl s
  | some future => exact (idles_settle s future).trans (idles_removePending _ future)

theorem idles_readUntil (s : Dispatcher) (predicate : TrpcPacket → Bool) :
    Idles s (s.readUntil predicate).2 := by
  rw [(readUntil_eq s predicate).2]
  exact ⟨⟨List.Subset.refl _, fun _ h => h, fun _ _ h => h⟩, fun h => h.read _, rfl,
    fun _ => .of_same rfl rfl rfl⟩

theorem futures_of_response {s : Dispatcher} {future : Nat} {arrival : Arrival}
    (h : s.response future = some arrival) : s.futures future = some (.result arrival) := by
  rw [response] at h
  split at h
  · rename_i result hresult
    cases h
    exact hresult
  · cases h

/-- What a session call returns is what its contract allows: a message is one that its
match accepts, and the replies read so far record it. -/
theorem answer_spec {s after : Dispatcher} {future : Option Nat} {call : SessionCall}
    {outcome : Outcome} {reply : Except PyException (SessionReply call)} {read : Option Arrival}
    (h : s.answer future call outcome = some (reply, read, after))
    (hpromised : ∀ f responseMatch publishMatch, future = some f →
      call.request = some (responseMatch, publishMatch) → s.Promised f responseMatch)
    (earlier : List Arrival) :
    pollContract.answers (lastReported earlier) call reply (lastReported (earlier ++ read.toList)) ∧
      Idles s after := by
  have hsilent {P : Prop} (hP : P) : lastReported (earlier ++ (none : Option Arrival).toList) =
      lastReported earlier ∧ P := ⟨by rw [Option.toList_none, List.append_nil], hP⟩
  have hresponse {responseMatch : ResponseMatch} {publishMatch : Bool} {arrival : Arrival}
      (hrequest : call.request = some (responseMatch, publishMatch))
      (hbind : future.bind s.response = some arrival) :
      responseMatch.accepts arrival.message = true ∧
        lastReported (earlier ++ (some arrival).toList) =
          (lastReported earlier).record arrival.message := by
    obtain ⟨f, rfl, hfound⟩ := Option.bind_eq_some_iff.mp hbind
    exact ⟨(hpromised f _ _ rfl hrequest).accepted arrival (futures_of_response hfound),
      lastReported_concat _ _⟩
  cases call with
  | «open» | close | isOpen | deadlineExpired | send command =>
      cases outcome <;> first
        | cases h
          exact hsilent (.refl s)
        | cases h
  | requestResponse command responseMatch | updateResponse command responseMatch =>
      cases outcome with
      | raised err =>
          cases h
          exact hsilent (.refl s)
      | message =>
          obtain ⟨arrival, hbind, heq⟩ := Option.map_eq_some_iff.mp h
          cases heq
          exact ⟨hresponse rfl hbind, .refl s⟩
      | missing =>
          obtain ⟨f, -, heq⟩ := Option.map_eq_some_iff.mp h
          cases heq
          exact hsilent (.refl s)
      | returned flag => cases h
  | readUntil predicate =>
      cases outcome with
      | raised err =>
          cases h
          exact hsilent (.refl s)
      | message =>
          simp only [answer] at h
          split at h
          · rename_i arrival rest hread
            cases h
            have hidles := idles_readUntil s predicate
            rw [hread] at hidles
            exact hsilent hidles
          · cases h
      | missing =>
          cases h
          exact hsilent (.refl s)
      | returned flag => cases h

end Dispatcher

/-! ## Tasks -/

/-- What the contract follows of a task. -/
def Task.view (self : Task) : TaskView where
  discovery := self.discovery
  cells := lastReported self.read
  idle := self.idle
  installed := self.installed

/-- What holds of a task: it follows its contract, and its future is one of its request. -/
structure TaskSound (system : ControllerSystem) (id : Option Nat) (task : Task) : Prop where
  kind : task.operation.isSome = id.isSome
  follows : task.routine.Follows (taskContract task.operation) (fun _ _ => True) task.view
  promised : ∀ future, task.future = some future → ∃ call next responseMatch publishMatch,
    task.routine = .call (.session call) next ∧
      call.request = some (responseMatch, publishMatch) ∧
      system.dispatcher.Promised future responseMatch
  matched : ∀ arrival ∈ task.matched, arrival.index < system.dispatcher.arrived
  looked : task.discovery.isSome = true → system.discovery.isSome = true
  installed : task.installed = true → system.state.isSome = true

/-- What a step keeps for the tasks that do not make it. -/
structure Advances (before after : ControllerSystem) : Prop where
  promised : ∀ future responseMatch, before.dispatcher.Promised future responseMatch →
    after.dispatcher.Promised future responseMatch
  arrived : before.dispatcher.arrived ≤ after.dispatcher.arrived
  discovery : before.discovery.isSome = true → after.discovery.isSome = true
  state : before.state.isSome = true → after.state.isSome = true

theorem Advances.of_idles {s t : ControllerSystem}
    (h : Dispatcher.Idles s.dispatcher t.dispatcher)
    (hdiscovery : s.discovery.isSome = true → t.discovery.isSome = true)
    (hstate : s.state.isSome = true → t.state.isSome = true) : Advances s t :=
  ⟨fun _ _ hpromised => hpromised.keeps h.keeps, h.arrived.ge, hdiscovery, hstate⟩

theorem Advances.of_same {s t : ControllerSystem} (hdispatcher : t.dispatcher = s.dispatcher)
    (hdiscovery : s.discovery.isSome = true → t.discovery.isSome = true)
    (hstate : s.state.isSome = true → t.state.isSome = true) : Advances s t :=
  .of_idles (hdispatcher ▸ .refl s.dispatcher) hdiscovery hstate

theorem TaskSound.advances {s t : ControllerSystem} {id : Option Nat} {task : Task}
    (h : TaskSound s id task) (hadvances : Advances s t) : TaskSound t id task where
  kind := h.kind
  follows := h.follows
  promised := by
    intro future hfuture
    obtain ⟨call, next, responseMatch, publishMatch, hroutine, hrequest, hpromised⟩ :=
      h.promised future hfuture
    exact ⟨call, next, responseMatch, publishMatch, hroutine, hrequest,
      hadvances.promised _ _ hpromised⟩
  matched := fun arrival harrival => (h.matched arrival harrival).trans_le hadvances.arrived
  looked := fun hlooked => hadvances.discovery (h.looked hlooked)
  installed := fun hinstalled => hadvances.state (h.installed hinstalled)

/-- A task that has just been made. -/
theorem TaskSound.fresh (s : ControllerSystem) {operation : Option Operation}
    {id : Option Nat} {routine : ControllerRoutine Unit} (hkind : operation.isSome = id.isSome)
    (h : routine.Follows (taskContract operation) (fun _ _ => True) {}) :
    TaskSound s id { operation, routine } where
  kind := hkind
  follows := h
  promised := fun _ hfuture => nomatch hfuture
  matched := fun _ harrival => absurd harrival List.not_mem_nil
  looked := fun hlooked => nomatch hlooked
  installed := fun hinstalled => nomatch hinstalled

/-- The next call of a task is one that its contract allows, and what it returns may be
any answer that the contract allows. -/
theorem TaskSound.call {s : ControllerSystem} {id : Option Nat} {task : Task}
    {call : ControllerCall} {next : Except PyException (ControllerReply call) → ControllerRoutine Unit}
    (h : TaskSound s id task) (hroutine : task.routine = .call call next) :
    (taskContract task.operation).requires task.view call ∧
      ∀ reply view, (taskContract task.operation).answers task.view call reply view →
        (next reply).Follows (taskContract task.operation) (fun _ _ => True) view := by
  have hfollows := h.follows
  rw [hroutine] at hfollows
  exact hfollows

/-- Every task is sound. -/
def TasksSound (system : ControllerSystem) : Prop :=
  ∀ id task, system.task? id = some task → TaskSound system id task

namespace ControllerSystem

variable {s t : ControllerSystem}

theorem task?_setTask {id : Option Nat} {old : Task} (h : s.task? id = some old) (task : Task)
    (other : Option Nat) :
    (s.setTask task id).task? other = if other = id then some task else s.task? other := by
  cases id with
  | none =>
      cases other with
      | none => rfl
      | some k => rfl
  | some n =>
      cases other with
      | none => rfl
      | some k =>
          have hlength : n < s.tasks.length := (List.getElem?_eq_some_iff.mp h).1
          change (s.tasks.set n task)[k]? = _
          rw [List.getElem?_set]
          by_cases hsame : n = k
          · rw [if_pos hsame, if_pos hlength, if_pos (hsame ▸ rfl)]
          · rw [if_neg hsame, if_neg fun heq => hsame (Option.some.inj heq).symm]
            rfl

theorem advances_setTask (s : ControllerSystem) (task : Task) (id : Option Nat) :
    Advances s (s.setTask task id) := by
  cases id <;> exact .of_same rfl id id

end ControllerSystem

namespace TasksSound

variable {s t : ControllerSystem}

theorem setTask (h : TasksSound s) {id : Option Nat} {old task : Task}
    (hold : s.task? id = some old) (htask : TaskSound s id task) :
    TasksSound (s.setTask task id) := by
  intro other found hfound
  rw [ControllerSystem.task?_setTask hold] at hfound
  apply TaskSound.advances _ (s.advances_setTask task id)
  split at hfound
  · rename_i hsame
    cases hfound
    exact hsame ▸ htask
  · exact h other found hfound

/-- A step of others, which may replace the report loop. -/
theorem advances (h : TasksSound s) (hadvances : Advances s t) (htasks : t.tasks = s.tasks)
    (hreport : ∀ task, t.reportTask = some task →
      s.reportTask = some task ∨ TaskSound t none task) : TasksSound t := by
  intro id task htask
  cases id with
  | none =>
      rcases hreport task htask with hsame | hnew
      · exact (h none task hsame).advances hadvances
      · exact hnew
  | some k =>
      have hsame : s.tasks[k]? = some task := htasks ▸ htask
      exact (h (some k) task hsame).advances hadvances

/-- A step of others that keeps the report loop. -/
theorem same (h : TasksSound s) (hadvances : Advances s t) (htasks : t.tasks = s.tasks)
    (hreport : t.reportTask = s.reportTask) : TasksSound t :=
  h.advances hadvances htasks fun _ htask => .inl (hreport ▸ htask)

theorem append (h : TasksSound s) {task : Task}
    (htask : TaskSound s (some s.tasks.length) task) :
    TasksSound { s with tasks := s.tasks ++ [task] } := by
  have hadvances : Advances s { s with tasks := s.tasks ++ [task] } := .of_same rfl id id
  intro id found hfound
  cases id with
  | none => exact (h none found hfound).advances hadvances
  | some k =>
      have hget : (s.tasks ++ [task])[k]? = some found := hfound
      rw [List.getElem?_append] at hget
      split at hget
      · exact (h (some k) found hget).advances hadvances
      · rename_i hlength
        rw [List.getElem?_singleton] at hget
        split at hget
        · rename_i hindex
          cases hget
          have hk : k = s.tasks.length := by omega
          exact (hk ▸ htask).advances hadvances
        · cases hget

end TasksSound

end Tekmar482
