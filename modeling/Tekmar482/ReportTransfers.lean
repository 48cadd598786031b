import Tekmar482.ReportQueues

/-!
# What a step does to a report queue

A step of the dispatcher puts an item into the queue of a subscription, takes one from it, or
leaves it.
-/

namespace Tekmar482

open BoundedQueue

namespace Dispatcher

/-- What a step means for a queue: a published message or the end of the subscription is
put into it, or its consumer takes from it. -/
def transfer (queue : Nat) (self : Dispatcher) : DispatcherAction → Option (Transfer ReportItem)
  | .dispatch message =>
      if queue ∈ self.reportQueues ∧ self.publishes message = true then
        some (.put (.message (self.arrival message)))
      else none
  | .unsubscribe other => if other = queue then some (.put .stop) else none
  | .endReports item => if queue ∈ self.reportQueues then some (.put item) else none
  | .setReaderError err => if queue ∈ self.reportQueues then some (.put (.error err)) else none
  | .take other => if other = queue then some .take else none
  | _ => none

/-- The item that a step ends the subscription of a queue with. -/
def endItem (queue : Nat) : DispatcherAction → Option ReportItem
  | .endReports item => some item
  | .setReaderError err => some (.error err)
  | .unsubscribe other => if other = queue then some .stop else none
  | _ => none

/-- What a queue becomes by a transfer. -/
def transferred (queue : ReportQueue) : Option (Transfer ReportItem) → ReportQueue
  | none => queue
  | some (.put item) => queue.putReportItem item
  | some .take => { queue with items := queue.items.tail }

/-- A step does to a queue what its transfer says, and ends a subscription only with an end
item. -/
structure Transferred (queue : Nat) (before : Dispatcher) (action : DispatcherAction)
    (after : Dispatcher) : Prop where
  queues : after.queues queue = transferred (before.queues queue) (before.transfer queue action)
  live : queue ∈ after.reportQueues ↔ queue ∈ before.reportQueues ∧ endItem queue action = none
  next : before.nextQueue ≤ after.nextQueue

section Steps

variable {s t : Dispatcher} {queue : Nat} {action : DispatcherAction}

/-- A step that leaves the queues. -/
theorem Transferred.of_same (hqueues : t.queues = s.queues)
    (hreportQueues : t.reportQueues = s.reportQueues) (hnext : t.nextQueue = s.nextQueue)
    (htransfer : s.transfer queue action = none) (hend : endItem queue action = none) :
    Transferred queue s action t where
  queues := by
    rw [htransfer]
    exact congrFun hqueues queue
  live := by
    rw [hreportQueues, hend]
    exact (and_iff_left rfl).symm
  next := hnext.ge

theorem transferred_dispatch (queue : Nat) (s : Dispatcher) (message : TrpcPacket) :
    Transferred queue s (.dispatch message) (s.dispatchMessage message) := by
  obtain ⟨hqueues, hlive, hnext⟩ := queues_dispatchMessage s message
  refine ⟨?_, hlive ▸ (and_iff_left rfl).symm, hnext.ge⟩
  rw [hqueues, transfer]
  by_cases hpublishes : s.publishes message = true
  · rw [if_pos hpublishes, offered]
    split
    · rename_i hmem
      rw [if_pos ⟨hmem, hpublishes⟩]
      rfl
    · rename_i hmem
      rw [if_neg fun hboth => hmem hboth.1]
      rfl
  · rw [if_neg hpublishes, if_neg fun hboth => hpublishes hboth.2]
    rfl

theorem transferred_subscribe (hknown : queue < s.nextQueue) (maxQueueSize : Int)
    (replayBacklog : Bool) :
    Transferred queue s (.subscribe maxQueueSize replayBacklog)
      (s.reports maxQueueSize replayBacklog) := by
  have hne : queue ≠ s.nextQueue := hknown.ne
  unfold reports
  split
  · exact ⟨Function.update_of_ne hne _ _, (and_iff_left rfl).symm, Nat.le_succ _⟩
  · refine ⟨Function.update_of_ne hne _ _, ?_, Nat.le_succ _⟩
    exact (List.mem_cons.trans (or_iff_right hne)).trans (and_iff_left rfl).symm

theorem transferred_unsubscribe (queue : Nat) (s : Dispatcher) (other : Nat) :
    Transferred queue s (.unsubscribe other) (s.unsubscribeReports other) := by
  have hfilter : queue ∈ (s.unsubscribeReports other).reportQueues ↔
      queue ∈ s.reportQueues ∧ queue ≠ other := by
    rw [unsubscribeReports, List.mem_filter, decide_eq_true_iff]
  by_cases heq : other = queue
  · subst heq
    refine ⟨?_, ?_, le_rfl⟩
    · rw [transfer, if_pos rfl]
      exact Function.update_self ..
    · rw [hfilter, endItem, if_pos rfl]
      exact and_congr_right fun _ => iff_of_false (fun hne => hne rfl) nofun
  · refine ⟨?_, ?_, le_rfl⟩
    · rw [transfer, if_neg heq]
      exact Function.update_of_ne (fun hqueue => heq hqueue.symm) _ _
    · rw [hfilter, endItem, if_neg heq]
      exact and_congr_right fun _ => iff_of_true (fun hqueue => heq hqueue.symm) rfl

theorem transferred_take (queue : Nat) (s : Dispatcher) (other : Nat) :
    Transferred queue s (.take other) (s.takeReport other).2 := by
  unfold takeReport
  split
  · rename_i hitems
    refine ⟨?_, (and_iff_left rfl).symm, le_rfl⟩
    rw [transfer]
    split
    · rename_i heq
      subst heq
      rw [transferred, hitems, List.tail_nil, ← hitems]
    · rfl
  · rename_i item rest hitems
    refine ⟨?_, (and_iff_left rfl).symm, le_rfl⟩
    rw [transfer]
    split
    · rename_i heq
      subst heq
      simp only [Function.update_self, transferred, hitems, List.tail_cons]
    · rename_i hne
      exact Function.update_of_ne (fun heq => hne heq.symm) _ _

theorem transferred_endReports (queue : Nat) (s : Dispatcher) (item : ReportItem) :
    Transferred queue s (.endReports item) (s.endReports item) := by
  refine ⟨?_, iff_of_false List.not_mem_nil (fun h => nomatch h.2), le_rfl⟩
  rw [transfer]
  split
  · rename_i hmem
    exact if_pos hmem
  · rename_i hmem
    exact if_neg hmem

theorem step_transferred (hknown : queue < s.nextQueue) (hstep : s.step action = some t) :
    Transferred queue s action t := by
  cases action with
  | register future responseMatch publishMatch =>
      rw [step] at hstep
      split at hstep
      · cases hstep
        exact .of_same rfl rfl rfl rfl rfl
      · cases hstep
  | dispatch message =>
      cases hstep
      exact transferred_dispatch queue s message
  | cancel future =>
      cases hstep
      unfold settle
      split <;> exact .of_same rfl rfl rfl rfl rfl
  | remove future | failPending err | observe packet | opened | closing =>
      cases hstep
      exact .of_same rfl rfl rfl rfl rfl
  | readMessage =>
      cases hstep
      rw [(readMessage_eq s).2]
      exact .of_same rfl rfl rfl rfl rfl
  | readUntil predicate =>
      cases hstep
      rw [(readUntil_eq s predicate).2]
      exact .of_same rfl rfl rfl rfl rfl
  | subscribe maxQueueSize replayBacklog =>
      cases hstep
      exact transferred_subscribe hknown maxQueueSize replayBacklog
  | unsubscribe other =>
      cases hstep
      exact transferred_unsubscribe queue s other
  | take other =>
      cases hstep
      exact transferred_take queue s other
  | endReports item =>
      cases hstep
      exact transferred_endReports queue s item
  | setReaderError err =>
      cases hstep
      -- the pending requests fail first, which leaves the queues
      let failed := { s with closed := true, readerError := some err }.failPending err
      have hended := transferred_endReports queue failed (.error err)
      exact ⟨hended.queues, hended.live, hended.next⟩

/-- What a step that neither takes from a queue nor unsubscribes it does to the queue:
it dispatches a message, leaves the queue, or ends the subscription. -/
theorem step_queue (hknown : queue < s.nextQueue) (htake : action ≠ .take queue)
    (hunsubscribe : action ≠ .unsubscribe queue)
    (hend : ∀ arrival, action ≠ .endReports (.message arrival))
    (hstep : s.step action = some t) :
    (∃ message, action = .dispatch message ∧ t = s.dispatchMessage message) ∨
      QueueKept queue s t ∨
      ∃ item : ReportItem, item.arrival? = none ∧
        t.queues queue = (s.queues queue).putReportItem item ∧ s.nextQueue ≤ t.nextQueue := by
  obtain ⟨hqueues, hlive, hnext⟩ := step_transferred hknown hstep
  have hkept (htransfer : s.transfer queue action = none)
      (hitem : queue ∈ s.reportQueues → endItem queue action = none) : QueueKept queue s t :=
    ⟨by rw [hqueues, htransfer]; rfl, fun hmem => hlive.mpr ⟨hmem, hitem hmem⟩, hnext⟩
  have hended (item : ReportItem) (hitem : item.arrival? = none)
      (htransfer : s.transfer queue action =
        if queue ∈ s.reportQueues then some (.put item) else none) :
      QueueKept queue s t ∨ ∃ item : ReportItem, item.arrival? = none ∧
        t.queues queue = (s.queues queue).putReportItem item ∧ s.nextQueue ≤ t.nextQueue := by
    by_cases hmem : queue ∈ s.reportQueues
    · rw [if_pos hmem] at htransfer
      exact .inr ⟨item, hitem, by rw [hqueues, htransfer]; rfl, hnext⟩
    · rw [if_neg hmem] at htransfer
      exact .inl (hkept htransfer fun hqueue => absurd hqueue hmem)
  cases action with
  | dispatch message => exact .inl ⟨message, rfl, (Option.some.inj hstep).symm⟩
  | unsubscribe other =>
      have hne : other ≠ queue := fun h => hunsubscribe (h ▸ rfl)
      exact .inr (.inl (hkept (if_neg hne) fun _ => if_neg hne))
  | take other =>
      have hne : other ≠ queue := fun h => htake (h ▸ rfl)
      exact .inr (.inl (hkept (if_neg hne) fun _ => rfl))
  | endReports item =>
      cases item with
      | message arrival => exact absurd rfl (hend arrival)
      | error err => exact .inr (hended (.error err) rfl rfl)
      | stop => exact .inr (hended .stop rfl rfl)
  | setReaderError err => exact .inr (hended (.error err) rfl rfl)
  | _ => exact .inr (.inl (hkept rfl fun _ => rfl))

end Steps

end Dispatcher

end Tekmar482
