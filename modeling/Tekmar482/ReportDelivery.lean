import Tekmar482.QueueRuns

/-!
# What a report subscriber gets

The queue of a subscription is filled by the replay of the backlog, by published
messages and by the item that ends it, and emptied by its consumer. Whatever the order of
these steps is, the queue is a channel that keeps its newest items, and the end is its
last item.
-/

namespace Tekmar482

open BoundedQueue

namespace Dispatcher

/-! ## Subscriptions -/

/-- The subscriptions are those of the queues that were created. -/
def KnownQueues (self : Dispatcher) : Prop := ∀ queue ∈ self.reportQueues, queue < self.nextQueue

theorem KnownQueues.step {s t : Dispatcher} {action : DispatcherAction} (h : s.KnownQueues)
    (hstep : s.step action = some t) : t.KnownQueues := by
  have hkeeps {after : Dispatcher} (hsub : after.reportQueues ⊆ s.reportQueues)
      (hnext : after.nextQueue = s.nextQueue) : after.KnownQueues :=
    fun queue hqueue => hnext ▸ h queue (hsub hqueue)
  cases action <;> simp only [Dispatcher.step, Option.some.injEq] at hstep
  case register =>
    split at hstep
    · cases hstep
      exact h
    · cases hstep
  all_goals subst hstep
  case dispatch message =>
    obtain ⟨-, hlive, hnext⟩ := queues_dispatchMessage s message
    exact hkeeps (hlive ▸ List.Subset.refl _) hnext
  case cancel future =>
    unfold settle
    split <;> exact h
  case readMessage =>
    rw [(readMessage_eq s).2]
    exact h
  case readUntil predicate =>
    rw [(readUntil_eq s predicate).2]
    exact h
  case take queue =>
    unfold takeReport
    split <;> exact h
  case unsubscribe queue => exact hkeeps (List.filter_subset_self _) rfl
  case subscribe maxQueueSize replayBacklog =>
    intro queue hqueue
    rw [nextQueue_reports]
    unfold reports at hqueue
    split at hqueue
    · exact (h queue hqueue).trans (Nat.lt_succ_self _)
    · rcases List.mem_cons.mp hqueue with rfl | hold
      · exact Nat.lt_succ_self _
      · exact (h queue hold).trans (Nat.lt_succ_self _)
  case endReports | setReaderError => exact hkeeps (List.nil_subset _) rfl
  all_goals exact h

/-- The items that a new subscription puts into its queue. -/
def replayItems (self : Dispatcher) (replayBacklog : Bool) : List ReportItem :=
  match self.readerError with
  | some err => [.error err]
  | none => if replayBacklog then self.messageBacklog.map .message else []

theorem replayItems_sublist (self : Dispatcher) (replayBacklog : Bool) :
    ((self.replayItems replayBacklog).filterMap ReportItem.arrival?).Sublist
      self.messageBacklog := by
  unfold replayItems
  split
  · exact List.nil_sublist _
  · split
    · rw [List.filterMap_map]
      exact (List.filterMap_some ▸ List.Sublist.refl _)
    · exact List.nil_sublist _

theorem queues_reports (self : Dispatcher) (maxQueueSize : Int) (replayBacklog : Bool) :
    (self.reports maxQueueSize replayBacklog).queues self.nextQueue =
      (self.replayItems replayBacklog).foldl ReportQueue.putReportItem { maxsize := maxQueueSize } := by
  cases herr : self.readerError with
  | some err =>
      simp only [reports, replayItems, herr, Function.update_self]
      rfl
  | none =>
      simp only [reports, replayItems, herr, Function.update_self]
      split
      · rw [List.foldl_map]
      · rfl

theorem live_reports {self : Dispatcher} (h : self.KnownQueues) (maxQueueSize : Int)
    (replayBacklog : Bool) :
    self.nextQueue ∈ (self.reports maxQueueSize replayBacklog).reportQueues ↔
      self.readerError = none := by
  unfold reports
  split
  · rename_i err herr
    rw [herr]
    exact iff_of_false (fun hmem => (h _ hmem).false) nofun
  · rename_i hnone
    exact iff_of_true List.mem_cons_self hnone

/-- The transfers of a queue from its subscription on. -/
def subscribedTransfers (self : Dispatcher) (maxQueueSize : Nat) (replayBacklog : Bool)
    (actions : List DispatcherAction) : List (Transfer ReportItem) :=
  (self.replayItems replayBacklog).map .put ++
    (self.reports maxQueueSize replayBacklog).runTransfers self.nextQueue actions

section Subscription

variable {s t : Dispatcher} {maxQueueSize : Nat} {replayBacklog : Bool}
  {actions : List DispatcherAction}

theorem known_reports (s : Dispatcher) (maxQueueSize : Nat) (replayBacklog : Bool) :
    s.nextQueue < (s.reports maxQueueSize replayBacklog).nextQueue := by
  rw [nextQueue_reports]
  exact Nat.lt_succ_self _

/-- The queue of a new subscription has what it replays. -/
theorem within_reports (s : Dispatcher) (maxQueueSize : Nat) (replayBacklog : Bool) :
    ((s.reports maxQueueSize replayBacklog).queues s.nextQueue).Within maxQueueSize ∧
      Channel.replay (ReportQueue.bound maxQueueSize) {}
          ((s.replayItems replayBacklog).map .put) =
        ⟨((s.reports maxQueueSize replayBacklog).queues s.nextQueue).items, []⟩ := by
  have hempty : ({ maxsize := maxQueueSize } : ReportQueue).Within maxQueueSize :=
    ⟨rfl, fun _ => Nat.zero_le _⟩
  rw [queues_reports]
  exact hempty.replay (s.replayItems replayBacklog) []

theorem channel_subscribedTransfers
    (hrun : Machine.RunWhere step (fun _ action => MarksEnd action = true)
      (s.reports maxQueueSize replayBacklog) actions t) :
    Channel.replay (ReportQueue.bound maxQueueSize) {}
        (s.subscribedTransfers maxQueueSize replayBacklog actions) =
      { waiting := (t.queues s.nextQueue).items
        taken := (s.reports maxQueueSize replayBacklog).takenItems s.nextQueue actions } := by
  obtain ⟨hwithin, hreplay⟩ := within_reports s maxQueueSize replayBacklog
  have hknown := known_reports s maxQueueSize replayBacklog
  rw [subscribedTransfers, Channel.replay_append, hreplay, run_channel hrun hknown hwithin,
    List.nil_append]

/-- The replayed messages come before those that are put later. -/
theorem ordered_subscribedTransfers (hwellFormed : s.WellFormed)
    (hrun : Machine.RunWhere step (fun _ action => MarksEnd action = true)
      (s.reports maxQueueSize replayBacklog) actions t) :
    ((puts (s.subscribedTransfers maxQueueSize replayBacklog actions)).filterMap
      ReportItem.arrival?).Pairwise fun a b => a.index < b.index := by
  have hsplit : (puts (s.subscribedTransfers maxQueueSize replayBacklog actions)).filterMap
      ReportItem.arrival? = (s.replayItems replayBacklog).filterMap ReportItem.arrival? ++
        ((s.reports maxQueueSize replayBacklog).putItems s.nextQueue actions).filterMap
          ReportItem.arrival? := by
    rw [subscribedTransfers, puts_append, puts_map_put, List.filterMap_append]
    rfl
  obtain ⟨hordered, hnew⟩ := @putItems_ordered _ _ s.nextQueue _ hrun
  have hreplayed := s.replayItems_sublist replayBacklog
  rw [hsplit, List.pairwise_append]
  refine ⟨hwellFormed.sorted.sublist hreplayed, hordered, ?_⟩
  intro arrival harrival later hlater
  have harrived := hnew later hlater
  rw [arrived_reports] at harrived
  exact (hwellFormed.backlog_arrived arrival (hreplayed.subset harrival)).trans_le harrived

/-- The queues of the subscriptions in a reachable state are those that were created. -/
theorem knownQueues_reachable (hreach : Machine.Reachable step Fresh s) : s.KnownQueues := by
  apply hreach.invariant
  · intro u hfresh queue hqueue
    rw [hfresh.2.2.2.2] at hqueue
    exact absurd hqueue List.not_mem_nil
  · exact fun _ _ _ h hstep => h.step hstep

end Subscription

/-- The subscription of a queue size in a state, and what its queue and its consumer have
got when the actions have led to another state. -/
structure DeliversReports (s t : Dispatcher) (maxQueueSize : Nat) (replayBacklog : Bool)
    (actions : List DispatcherAction) : Prop where
  /-- The queue is a channel that keeps its newest items. -/
  channel : Channel.replay (ReportQueue.bound maxQueueSize) {}
      (s.subscribedTransfers maxQueueSize replayBacklog actions) =
    { waiting := (t.queues s.nextQueue).items
      taken := (s.reports maxQueueSize replayBacklog).takenItems s.nextQueue actions }
  /-- Only the oldest of the waiting items are dropped. -/
  newest : (t.queues s.nextQueue).items <:+
    puts (s.subscribedTransfers maxQueueSize replayBacklog actions)
  /-- The consumer gets the items in the order in which they were put. -/
  inOrder : ((s.reports maxQueueSize replayBacklog).takenItems s.nextQueue actions ++
      (t.queues s.nextQueue).items).Sublist
    (puts (s.subscribedTransfers maxQueueSize replayBacklog actions))
  /-- No message is put twice, and they are put in the order of their arrival. -/
  distinct : ((puts (s.subscribedTransfers maxQueueSize replayBacklog actions)).filterMap
    ReportItem.arrival?).Pairwise fun a b => a.index < b.index
  /-- The subscription lives until the first step that ends it. -/
  live : ∀ before rest, actions = before ++ rest → ∃ u,
    Machine.Run step (s.reports maxQueueSize replayBacklog) before u ∧
      (s.nextQueue ∈ u.reportQueues ↔
        s.readerError = none ∧ ∀ action ∈ before, endItem s.nextQueue action = none)
  /-- The item that ends the subscription is put last. -/
  ended : ∀ before action rest item, actions = before ++ action :: rest →
    s.readerError = none → (∀ other ∈ before, endItem s.nextQueue other = none) →
    endItem s.nextQueue action = some item →
    ∃ u, Machine.Run step (s.reports maxQueueSize replayBacklog) (before ++ [action]) u ∧
      (u.queues s.nextQueue).items.getLast? = some item ∧
      ∀ later ∈ u.putItems s.nextQueue rest, later = .stop ∧ .unsubscribe s.nextQueue ∈ rest
  /-- A subscription after an error of the reader has the error only. -/
  refused : ∀ err, s.readerError = some err →
    ((s.reports maxQueueSize replayBacklog).queues s.nextQueue).items = [.error err] ∧
      ∀ later ∈ (s.reports maxQueueSize replayBacklog).putItems s.nextQueue actions,
        later = .stop ∧ .unsubscribe s.nextQueue ∈ actions

/-- In every run from a subscription its queue delivers the newest messages in order, and
then the item that ended it. -/
theorem reports_delivered {s t : Dispatcher} {maxQueueSize : Nat} {replayBacklog : Bool}
    {actions : List DispatcherAction} (hreach : Machine.Reachable step Fresh s)
    (hrun : Machine.RunWhere step (fun _ action => MarksEnd action = true)
      (s.reports maxQueueSize replayBacklog) actions t) :
    DeliversReports s t maxQueueSize replayBacklog actions := by
  have hwellFormed : s.WellFormed :=
    hreach.invariant (fun _ => Fresh.wellFormed) fun _ _ _ h hstep => h.step hstep
  have hknown := known_reports s maxQueueSize replayBacklog
  obtain ⟨hwithin, -⟩ := within_reports s maxQueueSize replayBacklog
  have hlive := live_reports (knownQueues_reachable hreach) maxQueueSize replayBacklog
  have hchannel := channel_subscribedTransfers hrun
  constructor
  case channel => exact hchannel
  case newest =>
    have hsuffix := Channel.waiting_replay_suffix (ReportQueue.bound maxQueueSize) {}
      (s.subscribedTransfers maxQueueSize replayBacklog actions)
    rwa [hchannel] at hsuffix
  case inOrder =>
    have hsublist := Channel.replay_sublist (ReportQueue.bound maxQueueSize) {}
      (s.subscribedTransfers maxQueueSize replayBacklog actions)
    rwa [hchannel] at hsublist
  case distinct => exact ordered_subscribedTransfers hwellFormed hrun
  case live =>
    rintro before rest rfl
    obtain ⟨u, hbefore, -⟩ := hrun.of_append
    refine ⟨u, hbefore.mono fun _ _ _ => trivial, ?_⟩
    rw [run_live hbefore hknown, hlive]
  case ended =>
    rintro before action rest item rfl hnone hbefore hend
    obtain ⟨u, u', hfirst, hmarks, hstep, hrest⟩ := hrun.split
    have hknownEnd := run_next hfirst hknown
    have hstill := (run_live hfirst hknown).mpr ⟨hlive.mpr hnone, hbefore⟩
    have htransferred := step_transferred hknownEnd hstep
    refine ⟨u', (hfirst.append (.cons hmarks hstep (.nil u'))).mono fun _ _ _ => trivial, ?_, ?_⟩
    · exact getLast?_end htransferred (run_within hfirst hknown hwithin) hstill hend
    · refine putItems_ended hrest (hknownEnd.trans_le htransferred.next) fun hmem => ?_
      rw [(htransferred.live.mp hmem).2] at hend
      cases hend
  case refused =>
    intro err herr
    have hitems : s.replayItems replayBacklog = [.error err] := by
      rw [replayItems, herr]
    refine ⟨?_, putItems_ended hrun hknown fun hmem => ?_⟩
    · have hempty : ({ maxsize := maxQueueSize } : ReportQueue).Within maxQueueSize :=
        ⟨rfl, fun _ => Nat.zero_le _⟩
      rw [queues_reports, hitems, List.foldl_cons, List.foldl_nil, (hempty.putReportItem _).2]
      exact keep_singleton (ReportQueue.bound_ne maxQueueSize) _
    · rw [hlive.mp hmem] at herr
      cases herr

/-- Three messages are published to a queue of two items before the session closes. -/
theorem reports_delivered_overflow :
    ∃ t, DeliversReports {} t 2 false
        [.dispatch { serviceId := 2, methodId := 0x117 },
          .dispatch { serviceId := 2, methodId := 0x118 },
          .dispatch { serviceId := 2, methodId := 0x119 }, .endReports .stop] ∧
      (t.queues 0).items =
        [.message ⟨2, { serviceId := 2, methodId := 0x119 }⟩, .stop] := by
  have hfresh : Fresh {} := ⟨rfl, fun _ => rfl, rfl, rfl, rfl⟩
  refine ⟨_, reports_delivered ⟨_, [], hfresh, .nil _⟩
    (.cons rfl rfl (.cons rfl rfl (.cons rfl rfl (.cons rfl rfl (.nil _))))), ?_⟩
  rfl

end Dispatcher

end Tekmar482
