import Tekmar482.MessageConservation
import Tekmar482.ReportChannels

/-!
# Report queues in a run

The transfers of a run make the queue a channel, in whatever order they come. What is put into
it are new messages in the order of their arrival, until the item that ends the subscription.
-/

namespace Tekmar482

open BoundedQueue

namespace Dispatcher

/-- The transfers of a queue in a run. -/
def runTransfers (queue : Nat) (self : Dispatcher) :
    List DispatcherAction → List (Transfer ReportItem)
  | [] => []
  | action :: rest =>
      (self.transfer queue action).toList ++
        match self.step action with
        | none => []
        | some next => next.runTransfers queue rest

/-- What the consumer of a queue gets in a run. -/
def takenItems (queue : Nat) (self : Dispatcher) : List DispatcherAction → List ReportItem
  | [] => []
  | action :: rest =>
      self.takenBy queue action ++
        match self.step action with
        | none => []
        | some next => next.takenItems queue rest

/-- The items put into a queue in a run. -/
def putItems (queue : Nat) (self : Dispatcher) (actions : List DispatcherAction) :
    List ReportItem :=
  puts (self.runTransfers queue actions)

section Run

variable {allowed : Dispatcher → DispatcherAction → Prop} {s t : Dispatcher} {queue : Nat}
  {actions : List DispatcherAction}

/-- In a run a queue and its consumer are the channel of the transfers. -/
theorem run_channel {maxQueueSize : Nat} (hrun : Machine.RunWhere step allowed s actions t)
    (hknown : queue < s.nextQueue) (hwithin : (s.queues queue).Within maxQueueSize)
    (taken : List ReportItem) :
    Channel.replay (ReportQueue.bound maxQueueSize) ⟨(s.queues queue).items, taken⟩
        (s.runTransfers queue actions) =
      ⟨(t.queues queue).items, taken ++ s.takenItems queue actions⟩ := by
  induction hrun generalizing taken with
  | nil s => rw [takenItems, List.append_nil]; rfl
  | cons _ hstep _ ih =>
      have htransferred := step_transferred hknown hstep
      obtain ⟨hafter, hchannel⟩ := htransferred.channel hwithin taken
      have hrest := ih (hknown.trans_le htransferred.next) hafter
      rw [runTransfers, hstep, Channel.replay_append, hchannel, hrest, takenItems, hstep,
        List.append_assoc]

/-- A subscription lives until the first step that ends it. -/
theorem run_live (hrun : Machine.RunWhere step allowed s actions t)
    (hknown : queue < s.nextQueue) :
    queue ∈ t.reportQueues ↔
      queue ∈ s.reportQueues ∧ ∀ action ∈ actions, endItem queue action = none := by
  induction hrun with
  | nil s => simp
  | cons _ hstep _ ih =>
      have htransferred := step_transferred hknown hstep
      rw [ih (hknown.trans_le htransferred.next), htransferred.live, and_assoc,
        List.forall_mem_cons]

theorem run_next (hrun : Machine.RunWhere step allowed s actions t)
    (hknown : queue < s.nextQueue) : queue < t.nextQueue := by
  induction hrun with
  | nil s => exact hknown
  | cons _ hstep _ ih => exact ih (hknown.trans_le (step_transferred hknown hstep).next)

/-- The bound of a queue holds in a run. -/
theorem run_within {maxQueueSize : Nat} (hrun : Machine.RunWhere step allowed s actions t)
    (hknown : queue < s.nextQueue) (hwithin : (s.queues queue).Within maxQueueSize) :
    (t.queues queue).Within maxQueueSize := by
  induction hrun with
  | nil s => exact hwithin
  | cons _ hstep _ ih =>
      have htransferred := step_transferred hknown hstep
      exact ih (hknown.trans_le htransferred.next) (htransferred.channel hwithin []).1

/-- Nothing but the end marker of the subscriber's own close is put into a queue whose
subscription has ended. -/
theorem putItems_ended (hrun : Machine.RunWhere step allowed s actions t)
    (hknown : queue < s.nextQueue) (hended : queue ∉ s.reportQueues) :
    ∀ item ∈ s.putItems queue actions, item = .stop ∧ .unsubscribe queue ∈ actions := by
  induction hrun with
  | nil s => exact fun item hitem => absurd hitem List.not_mem_nil
  | @cons s u t action rest _ hstep _ ih =>
      have htransferred := step_transferred hknown hstep
      intro item hitem
      rw [putItems, runTransfers, hstep, puts, List.filterMap_append] at hitem
      rcases List.mem_append.mp hitem with hfirst | hrest
      · cases action with
        | unsubscribe other =>
            rw [transfer] at hfirst
            split at hfirst
            · rename_i heq
              subst heq
              exact ⟨by simpa using hfirst, List.mem_cons_self⟩
            · simp at hfirst
        | take other =>
            rw [transfer] at hfirst
            split at hfirst <;> simp at hfirst
        | dispatch message => simp [transfer, hended] at hfirst
        | endReports item => simp [transfer, hended] at hfirst
        | setReaderError err => simp [transfer, hended] at hfirst
        | _ => simp [transfer] at hfirst
      · obtain ⟨hstop, hmem⟩ := ih (hknown.trans_le htransferred.next)
          (fun hlive => hended (htransferred.live.mp hlive).1) item hrest
        exact ⟨hstop, List.mem_cons_of_mem _ hmem⟩

end Run

/-! ## The order of the messages -/

/-- Subscriptions are ended by the end marker or an error. -/
def MarksEnd : DispatcherAction → Bool
  | .endReports (.message _) => false
  | _ => true

/-- The only message that a step puts into a queue is the one it dispatches. -/
theorem arrival_of_transfer {s : Dispatcher} {queue : Nat} {action : DispatcherAction}
    {item : ReportItem} {arrival : Arrival} (hmarks : MarksEnd action = true)
    (htransfer : s.transfer queue action = some (.put item))
    (hitem : item.arrival? = some arrival) :
    ∃ message, action = .dispatch message ∧ arrival = s.arrival message := by
  cases action with
  | dispatch message =>
      rw [transfer] at htransfer
      split at htransfer
      · cases htransfer
        exact ⟨message, rfl, (Option.some.inj hitem).symm⟩
      · cases htransfer
  | endReports other =>
      rw [transfer] at htransfer
      split at htransfer
      · cases htransfer
        cases item with
        | message other => cases hmarks
        | error err => cases hitem
        | stop => cases hitem
      · cases htransfer
  | setReaderError err | unsubscribe other =>
      rw [transfer] at htransfer
      split at htransfer
      · cases htransfer
        cases hitem
      · cases htransfer
  | take other =>
      rw [transfer] at htransfer
      split at htransfer <;> cases htransfer
  | _ => cases htransfer

/-- A step puts one message at most. -/
theorem arrivals_transfer {s : Dispatcher} {queue : Nat} {action : DispatcherAction}
    (hmarks : MarksEnd action = true) {arrival : Arrival}
    (harrival : arrival ∈ (puts (s.transfer queue action).toList).filterMap ReportItem.arrival?) :
    (puts (s.transfer queue action).toList).filterMap ReportItem.arrival? = [arrival] ∧
      ∃ message, action = .dispatch message ∧ arrival = s.arrival message := by
  obtain ⟨item, hitem, hsome⟩ := List.mem_filterMap.mp harrival
  cases htransfer : s.transfer queue action with
  | none =>
      rw [htransfer] at hitem
      cases hitem
  | some transfer =>
      cases transfer with
      | take =>
          rw [htransfer] at hitem
          cases hitem
      | put other =>
          rw [htransfer] at hitem
          obtain rfl := List.mem_singleton.mp hitem
          refine ⟨?_, arrival_of_transfer hmarks htransfer hsome⟩
          simp [puts, hsome]

/-- The messages put into a queue in a run are new, and in the order of their arrival. -/
theorem putItems_ordered {s t : Dispatcher} {queue : Nat} {actions : List DispatcherAction}
    (hrun : Machine.RunWhere step (fun _ action => MarksEnd action = true) s actions t) :
    ((s.putItems queue actions).filterMap ReportItem.arrival?).Pairwise
        (fun a b => a.index < b.index) ∧
      ∀ arrival ∈ (s.putItems queue actions).filterMap ReportItem.arrival?,
        s.arrived ≤ arrival.index := by
  induction hrun with
  | nil s => exact ⟨List.Pairwise.nil, fun arrival harrival => absurd harrival List.not_mem_nil⟩
  | @cons s u t action rest hmarks hstep _ ih =>
      obtain ⟨hordered, hnew⟩ := ih
      have hsplit : (s.putItems queue (action :: rest)).filterMap ReportItem.arrival? =
          (puts (s.transfer queue action).toList).filterMap ReportItem.arrival? ++
            (u.putItems queue rest).filterMap ReportItem.arrival? := by
        rw [putItems, runTransfers, hstep, puts, List.filterMap_append, List.filterMap_append]
        rfl
      have harrived : s.arrived ≤ u.arrived := by
        rcases step_results hstep with ⟨message, -, rfl⟩ | ⟨hsame, -⟩
        · rw [dispatchMessage_arrived]
          exact Nat.le_succ _
        · exact hsame.ge
      rw [hsplit]
      constructor
      · rw [List.pairwise_append]
        refine ⟨?_, hordered, ?_⟩
        · cases hlist : (puts (s.transfer queue action).toList).filterMap ReportItem.arrival? with
          | nil => exact List.Pairwise.nil
          | cons arrival others =>
              rw [← hlist, (arrivals_transfer hmarks (hlist ▸ List.mem_cons_self)).1]
              exact List.pairwise_singleton _ _
        · intro arrival harrival later hlater
          obtain ⟨-, message, rfl, rfl⟩ := arrivals_transfer hmarks harrival
          have hindex := hnew later hlater
          cases hstep
          rw [dispatchMessage_arrived] at hindex
          exact hindex
      · intro arrival harrival
        rcases List.mem_append.mp harrival with hhere | hlater
        · obtain ⟨-, message, rfl, rfl⟩ := arrivals_transfer hmarks hhere
          exact le_rfl
        · exact harrived.trans (hnew arrival hlater)

end Dispatcher

end Tekmar482
