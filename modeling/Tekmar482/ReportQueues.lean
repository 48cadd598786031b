import Tekmar482.Controller
import Tekmar482.TransactionSteps

/-!
# Futures and report queues under the dispatcher's steps

A future keeps the match of its request. The queue of a subscription takes the
published messages in their order until the subscription ends, and then it holds
the item that ends it.
-/

namespace Tekmar482

/-- The message of an item. The end marker and an error have none. -/
def ReportItem.arrival? : ReportItem → Option Arrival
  | .message arrival => some arrival
  | .error _ | .stop => none

theorem ReportQueue.items_putReportItem {queue : ReportQueue} (h : queue.maxsize = 0)
    (item : ReportItem) : queue.putReportItem item = { queue with items := queue.items ++ [item] } := by
  have hroom : queue.full = false := by
    rw [ReportQueue.full, h]
    rfl
  rw [ReportQueue.putReportItem, hroom, if_neg Bool.false_ne_true]

theorem ReportQueue.foldl_putReportItem {queue : ReportQueue} (h : queue.maxsize = 0)
    (backlog : List Arrival) :
    backlog.foldl (fun queue arrival => queue.putReportItem (.message arrival)) queue =
      { queue with items := queue.items ++ backlog.map ReportItem.message } := by
  induction backlog generalizing queue with
  | nil => rw [List.foldl_nil, List.map_nil, List.append_nil]
  | cons arrival rest ih =>
      have hrest := @ih { queue with items := queue.items ++ [.message arrival] } h
      rw [List.foldl_cons, ReportQueue.items_putReportItem h, hrest, List.append_assoc]
      rfl

namespace Dispatcher

variable {s t : Dispatcher}

/-! ## Futures -/

/-- What most steps leave: no request is new, and no future gets a message. -/
structure Keeps (before after : Dispatcher) : Prop where
  pending : after.pending ⊆ before.pending
  created : ∀ future, before.futures future ≠ none → after.futures future ≠ none
  results : ∀ future arrival, after.futures future = some (.result arrival) →
    before.futures future = some (.result arrival)

theorem Settles.keeps (h : Settles s t) : Keeps s t :=
  ⟨h.pending.subset, fun future => (h.created future).mpr, fun future a => (h.results future a).mp⟩

theorem step_subscribe (self : Dispatcher) (maxQueueSize : Nat) (replayBacklog : Bool) :
    self.step (.subscribe maxQueueSize replayBacklog) =
      some (self.reports maxQueueSize replayBacklog) :=
  rfl

theorem step_unsubscribe (self : Dispatcher) (queue : Nat) :
    self.step (.unsubscribe queue) = some (self.unsubscribeReports queue) :=
  rfl

/-- A step dispatches a message, registers a request, or brings neither. -/
theorem step_keeps {action : DispatcherAction} (hstep : s.step action = some t) :
    (∃ message, action = .dispatch message ∧ t = s.dispatchMessage message) ∨
      (∃ future responseMatch publishMatch, action = .register future responseMatch publishMatch ∧
        s.futures future = none ∧ t = s.register future responseMatch publishMatch) ∨
      Keeps s t := by
  have hsame : ∀ {after : Dispatcher}, after.pending = s.pending → after.futures = s.futures →
      Keeps s after := fun hpending hfutures =>
    ⟨hpending ▸ List.Subset.refl _, fun _ h => hfutures ▸ h, fun _ _ h => hfutures ▸ h⟩
  cases action with
  | dispatch message => exact .inl ⟨message, rfl, (Option.some.inj hstep).symm⟩
  | register future responseMatch publishMatch =>
      rw [step] at hstep
      split at hstep
      · rename_i hnone
        cases hstep
        exact .inr (.inl ⟨future, responseMatch, publishMatch, rfl, hnone, rfl⟩)
      · cases hstep
  | cancel future => exact .inr (.inr (Option.some.inj hstep ▸ (settles_cancel s future).keeps))
  | remove future =>
      cases hstep
      exact .inr (.inr ⟨List.eraseP_subset, fun _ h => h, fun _ _ h => h⟩)
  | failPending err => exact .inr (.inr (Option.some.inj hstep ▸ (settles_failPending s err).keeps))
  | endReports item => exact .inr (.inr (Option.some.inj hstep ▸ (settles_endReports s item).keeps))
  | setReaderError err =>
      exact .inr (.inr (Option.some.inj hstep ▸ (settles_setReaderError s err).keeps))
  | observe packet | opened | closing =>
      cases hstep
      exact .inr (.inr (hsame rfl rfl))
  | readMessage | readUntil predicate | subscribe maxQueueSize replayBacklog | unsubscribe queue
  | take queue => exact .inr (.inr (reads_of_reader rfl hstep).settles.keeps)

/-- A future that was created for a match: its request has this match as long as it
is registered, and its message is one that the match accepts. -/
structure Promised (state : Dispatcher) (future : Nat) (responseMatch : ResponseMatch) : Prop where
  created : state.futures future ≠ none
  registered : ∀ item ∈ state.pending, item.future = future → item.responseMatch = responseMatch
  accepted : ∀ arrival, state.futures future = some (.result arrival) →
    responseMatch.accepts arrival.message = true

theorem Promised.keeps {future : Nat} {responseMatch : ResponseMatch}
    (h : s.Promised future responseMatch) (hkeeps : Keeps s t) : t.Promised future responseMatch :=
  ⟨hkeeps.created future h.created, fun item hitem => h.registered item (hkeeps.pending hitem),
    fun arrival hresult => h.accepted arrival (hkeeps.results future arrival hresult)⟩

/-- The dispatched message goes to a future only if its match accepts it. -/
theorem Promised.dispatchMessage {future : Nat} {responseMatch : ResponseMatch}
    (h : s.Promised future responseMatch) (message : TrpcPacket) :
    (s.dispatchMessage message).Promised future responseMatch := by
  have hpending := s.offerLoop_subset message s.pending s.pending
  rcases dispatchMessage_cases message s with ⟨item, hitem, hafter⟩ | ⟨-, hafter⟩
  · obtain ⟨hmem, haccepts⟩ := offerLoop_some hitem
    have hfutures : (s.dispatchMessage message).futures =
        Function.update s.futures item.future (some (.result (s.arrival message))) := by
      rw [hafter]
      simp only
      split <;> rfl
    have hpending' : (s.dispatchMessage message).pending ⊆ s.pending := by
      rw [hafter]
      simp only
      split <;> exact hpending
    constructor
    · rw [hfutures]
      rcases eq_or_ne future item.future with rfl | hne
      · rw [Function.update_self]
        exact Option.some_ne_none _
      · rw [Function.update_of_ne hne]
        exact h.created
    · exact fun other hother => h.registered other (hpending' hother)
    · intro arrival hresult
      rw [hfutures] at hresult
      rcases eq_or_ne future item.future with rfl | hne
      · rw [Function.update_self] at hresult
        cases hresult
        rw [← h.registered item hmem rfl]
        exact haccepts
      · rw [Function.update_of_ne hne] at hresult
        exact h.accepted arrival hresult
  · rw [hafter]
    exact ⟨h.created, fun item hitem => h.registered item (hpending hitem), h.accepted⟩

theorem Promised.register {future other : Nat} {responseMatch otherMatch : ResponseMatch}
    (h : s.Promised future responseMatch) (hnone : s.futures other = none) (publishMatch : Bool) :
    (s.register other otherMatch publishMatch).Promised future responseMatch := by
  have hne : future ≠ other := fun heq => h.created (heq ▸ hnone)
  have hfuture : (s.register other otherMatch publishMatch).futures future = s.futures future :=
    Function.update_of_ne hne _ _
  constructor
  · rw [hfuture]
    exact h.created
  · intro item hitem heq
    rcases List.mem_append.mp hitem with hold | hnew
    · exact h.registered item hold heq
    · rw [List.mem_singleton.mp hnew] at heq
      exact absurd heq.symm hne
  · rw [hfuture]
    exact h.accepted

/-- A promise is kept by every step. -/
theorem Promised.step {future : Nat} {responseMatch : ResponseMatch} {action : DispatcherAction}
    (h : s.Promised future responseMatch) (hstep : s.step action = some t) :
    t.Promised future responseMatch := by
  rcases step_keeps hstep with ⟨message, -, rfl⟩ | ⟨other, otherMatch, publishMatch, -, hnone, rfl⟩ |
    hkeeps
  · exact h.dispatchMessage message
  · exact h.register hnone publishMatch
  · exact h.keeps hkeeps

/-- A request promises its future. -/
theorem promised_register (h : s.WellFormed) {future : Nat} (hnone : s.futures future = none)
    (responseMatch : ResponseMatch) (publishMatch : Bool) :
    (s.register future responseMatch publishMatch).Promised future responseMatch := by
  have hfuture : (s.register future responseMatch publishMatch).futures future = some .waiting :=
    Function.update_self ..
  constructor
  · rw [hfuture]
    exact Option.some_ne_none _
  · intro item hitem heq
    rcases List.mem_append.mp hitem with hold | hnew
    · exact absurd (heq ▸ hnone) (h.created item hold)
    · rw [List.mem_singleton.mp hnew]
  · intro arrival hresult
    rw [hfuture] at hresult
    cases hresult

/-! ## Report queues -/

/-- The messages that wait in a queue. -/
def messages (self : Dispatcher) (queue : Nat) : List Arrival :=
  (self.queues queue).items.filterMap ReportItem.arrival?

/-- Whether a queue holds the item that ends its subscription. -/
def Ended (self : Dispatcher) (queue : Nat) : Prop :=
  ∃ item ∈ (self.queues queue).items, item.arrival? = none

/-- What steps do to a queue that they do not concern. -/
structure QueueKept (queue : Nat) (before after : Dispatcher) : Prop where
  queues : after.queues queue = before.queues queue
  live : queue ∈ before.reportQueues → queue ∈ after.reportQueues
  next : before.nextQueue ≤ after.nextQueue

theorem QueueKept.refl (queue : Nat) (s : Dispatcher) : QueueKept queue s s := ⟨rfl, id, le_rfl⟩

theorem QueueKept.trans {queue : Nat} {u : Dispatcher} (h : QueueKept queue s t)
    (h' : QueueKept queue t u) : QueueKept queue s u :=
  ⟨h'.queues.trans h.queues, fun hlive => h'.live (h.live hlive), h.next.trans h'.next⟩

theorem QueueKept.of_same {queue : Nat} (hqueues : t.queues = s.queues)
    (hreportQueues : t.reportQueues = s.reportQueues) (hnext : t.nextQueue = s.nextQueue) :
    QueueKept queue s t :=
  ⟨congrFun hqueues queue, fun h => hreportQueues ▸ h, hnext.ge⟩

/-- A message is offered to every subscription, unless a plain request has it. -/
theorem queues_dispatchMessage (s : Dispatcher) (message : TrpcPacket) :
    (s.dispatchMessage message).queues =
        (if s.publishes message then s.offered (s.arrival message) else s.queues) ∧
      (s.dispatchMessage message).reportQueues = s.reportQueues ∧
      (s.dispatchMessage message).nextQueue = s.nextQueue := by
  rcases dispatchMessage_cases message s with ⟨item, hitem, hafter⟩ | ⟨hnone, hafter⟩
  · rw [hafter, publishes, hitem]
    simp only
    split <;> exact ⟨rfl, rfl, rfl⟩
  · rw [hafter, publishes, hnone]
    exact ⟨rfl, rfl, rfl⟩

@[simp] theorem nextQueue_reports (maxQueueSize : Int) (replayBacklog : Bool) :
    (s.reports maxQueueSize replayBacklog).nextQueue = s.nextQueue + 1 := by
  unfold reports
  split <;> rfl

@[simp] theorem arrived_reports (maxQueueSize : Int) (replayBacklog : Bool) :
    (s.reports maxQueueSize replayBacklog).arrived = s.arrived := by
  unfold reports
  split <;> rfl

/-- After an error of the reader a subscription gets the error only. -/
theorem queues_reports_error {err : PyException} (h : s.readerError = some err) :
    (s.reports 0 true).queues s.nextQueue = { items := [.error err] } := by
  unfold reports
  split
  · rename_i found hfound
    rw [h] at hfound
    cases hfound
    exact Function.update_self ..
  · rename_i hnone
    rw [h] at hnone
    cases hnone

/-- A subscription with a replay starts with the backlog. -/
theorem queues_reports_replay (h : s.readerError = none) :
    (s.reports 0 true).queues s.nextQueue =
        { items := s.messageBacklog.map ReportItem.message } ∧
      s.nextQueue ∈ (s.reports 0 true).reportQueues := by
  unfold reports
  split
  · rename_i found hfound
    rw [h] at hfound
    cases hfound
  · constructor
    · simp only [if_true, Function.update_self]
      exact ReportQueue.foldl_putReportItem rfl _
    · exact List.mem_cons_self

end Dispatcher

end Tekmar482
