import Tekmar482.ReportTransfers

/-!
# The channel of a report queue

A full queue drops its oldest item for a new one, and the steps of the dispatcher move the
channel between the session and the consumer.
-/

namespace Tekmar482

open BoundedQueue

namespace ReportQueue

/-- The bound of a queue size. A size of zero is no bound. -/
def bound (maxQueueSize : Nat) : Option Nat := if maxQueueSize = 0 then none else some maxQueueSize

theorem bound_ne (maxQueueSize : Nat) : bound maxQueueSize ≠ some 0 := by
  rw [bound]
  split
  · exact nofun
  · simpa using ‹_›

/-- A queue of a size holds no more items than its bound. -/
structure Within (maxQueueSize : Nat) (queue : ReportQueue) : Prop where
  maxsize : queue.maxsize = maxQueueSize
  fits : maxQueueSize ≠ 0 → queue.items.length ≤ maxQueueSize

/-- Putting an item, with the drop that a full queue needs, appends it and keeps the newest. -/
theorem Within.putReportItem {maxQueueSize : Nat} {queue : ReportQueue}
    (h : queue.Within maxQueueSize) (item : ReportItem) :
    (queue.putReportItem item).Within maxQueueSize ∧
      (queue.putReportItem item).items = keep (bound maxQueueSize) (queue.items ++ [item]) := by
  have hfull : queue.full = true ↔ 0 < maxQueueSize ∧ maxQueueSize ≤ queue.items.length := by
    rw [full, h.maxsize]
    simp
  by_cases hzero : maxQueueSize = 0
  · have hroom : queue.full ≠ true := by
      rw [Ne, hfull]
      omega
    rw [ReportQueue.putReportItem, if_neg hroom, bound, if_pos hzero]
    exact ⟨⟨h.maxsize, fun hne => absurd hzero hne⟩, rfl⟩
  · have hfits := h.fits hzero
    rw [ReportQueue.putReportItem, bound, if_neg hzero]
    by_cases hdrop : queue.full = true
    · have hlen : queue.items.length = maxQueueSize := by
        have := (hfull.mp hdrop).2
        omega
      rw [if_pos hdrop]
      refine ⟨⟨h.maxsize, fun _ => ?_⟩, ?_⟩
      · simp only [List.length_append, List.length_drop, List.length_singleton]
        omega
      · have hone : (queue.items ++ [item]).length - maxQueueSize = 1 := by
          rw [List.length_append, List.length_singleton]
          omega
        rw [keep, keepNewest, hone, List.drop_append_of_le_length (by omega)]
    · have hroom : queue.items.length < maxQueueSize := by
        by_contra hlt
        exact hdrop (hfull.mpr ⟨Nat.pos_of_ne_zero hzero, Nat.le_of_not_lt hlt⟩)
      rw [if_neg hdrop]
      refine ⟨⟨h.maxsize, fun _ => ?_⟩, ?_⟩
      · rw [List.length_append, List.length_singleton]
        omega
      · have hall : (queue.items ++ [item]).length - maxQueueSize = 0 := by
          rw [List.length_append, List.length_singleton]
          omega
        rw [keep, keepNewest, hall, List.drop_zero]

/-- Putting items one after another is a channel without takes. -/
theorem Within.replay {maxQueueSize : Nat} {queue : ReportQueue} (h : queue.Within maxQueueSize)
    (items taken : List ReportItem) :
    (items.foldl ReportQueue.putReportItem queue).Within maxQueueSize ∧
      Channel.replay (bound maxQueueSize) ⟨queue.items, taken⟩ (items.map .put) =
        ⟨(items.foldl ReportQueue.putReportItem queue).items, taken⟩ := by
  induction items generalizing queue with
  | nil => exact ⟨h, rfl⟩
  | cons item rest ih =>
      obtain ⟨hwithin, hitems⟩ := h.putReportItem item
      obtain ⟨hafter, hrest⟩ := ih hwithin
      refine ⟨hafter, ?_⟩
      rw [List.foldl_cons, ← hrest, hitems]
      rfl

end ReportQueue

namespace Dispatcher

/-- What the consumer of a queue gets by a step. -/
def takenBy (queue : Nat) (self : Dispatcher) : DispatcherAction → List ReportItem
  | .take other => if other = queue then (self.takeReport queue).1.toList else []
  | _ => []

theorem fst_takeReport (self : Dispatcher) (queue : Nat) :
    (self.takeReport queue).1 = (self.queues queue).items.head? := by
  unfold takeReport
  split
  · rename_i hitems
    rw [hitems, List.head?_nil]
  · rename_i item rest hitems
    rw [hitems, List.head?_cons]

/-- A step moves the channel of a queue by its transfer. -/
theorem Transferred.channel {s t : Dispatcher} {queue : Nat} {action : DispatcherAction}
    {maxQueueSize : Nat} (h : Transferred queue s action t)
    (hwithin : (s.queues queue).Within maxQueueSize) (taken : List ReportItem) :
    (t.queues queue).Within maxQueueSize ∧
      Channel.replay (ReportQueue.bound maxQueueSize) ⟨(s.queues queue).items, taken⟩
          (s.transfer queue action).toList =
        ⟨(t.queues queue).items, taken ++ s.takenBy queue action⟩ := by
  have hput (item : ReportItem) (htransfer : s.transfer queue action = some (.put item)) :
      s.takenBy queue action = [] := by
    cases action with
    | take other =>
        rw [transfer] at htransfer
        split at htransfer <;> cases htransfer
    | _ => rfl
  rw [h.queues]
  cases htransfer : s.transfer queue action with
  | none =>
      have hnone : s.takenBy queue action = [] := by
        cases action with
        | take other =>
            rw [transfer] at htransfer
            split at htransfer
            · cases htransfer
            · rename_i hne
              rw [takenBy, if_neg hne]
        | _ => rfl
      rw [hnone, List.append_nil]
      exact ⟨hwithin, rfl⟩
  | some transfer =>
      cases transfer with
      | put item =>
          obtain ⟨hafter, hitems⟩ := hwithin.putReportItem item
          rw [hput item htransfer, List.append_nil, transferred, hitems]
          exact ⟨hafter, rfl⟩
      | take =>
          have htaken : s.takenBy queue action = (s.queues queue).items.head?.toList := by
            cases action with
            | take other =>
                rw [Dispatcher.transfer] at htransfer
                split at htransfer
                · rename_i heq
                  rw [takenBy, if_pos heq, fst_takeReport]
                · cases htransfer
            | dispatch message | unsubscribe other | endReports item | setReaderError err =>
                rw [Dispatcher.transfer] at htransfer
                split at htransfer <;> cases htransfer
            | _ => cases htransfer
          rw [htaken, transferred]
          constructor
          · refine ⟨hwithin.maxsize, fun hne => ?_⟩
            rw [List.length_tail]
            exact (Nat.sub_le _ _).trans (hwithin.fits hne)
          · rw [Option.toList_some, Channel.replay, List.foldl_cons, List.foldl_nil, Channel.apply]
            cases hitems : (s.queues queue).items with
            | nil => rw [List.head?_nil, List.tail_nil, Option.toList_none, List.append_nil]
            | cons item rest => rfl

/-- The item that ends a subscription is the last one of its queue, also of a full one. -/
theorem getLast?_end {queue maxQueueSize : Nat} {s t : Dispatcher} {action : DispatcherAction}
    {item : ReportItem} (htransferred : Transferred queue s action t)
    (hwithin : (s.queues queue).Within maxQueueSize) (hlive : queue ∈ s.reportQueues)
    (hend : endItem queue action = some item) :
    (t.queues queue).items.getLast? = some item := by
  have htransfer : s.transfer queue action = some (.put item) := by
    cases action with
    | unsubscribe other =>
        rw [endItem] at hend
        split at hend
        · rename_i heq
          cases hend
          exact if_pos heq
        · cases hend
    | endReports other | setReaderError err =>
        cases hend
        exact if_pos hlive
    | _ => cases hend
  rw [htransferred.queues, htransfer, transferred, (hwithin.putReportItem item).2]
  exact getLast?_keep_concat (ReportQueue.bound_ne maxQueueSize) _ item

end Dispatcher

end Tekmar482
