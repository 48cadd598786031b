import Tekmar482.ReportTransfers

/-!
# Messages that the dispatcher holds

A result of a future, a message of the backlog and a message in a report queue have all been
dispatched: what holds of every dispatched message holds of them.
-/

namespace Tekmar482

theorem ReportQueue.mem_putReportItem {queue : ReportQueue} {item other : ReportItem}
    (h : other ∈ (queue.putReportItem item).items) : other ∈ queue.items ∨ other = item := by
  unfold putReportItem at h
  split at h
  · rcases List.mem_append.mp h with hold | hnew
    · exact .inl (List.mem_of_mem_drop hold)
    · exact .inr (List.mem_singleton.mp hnew)
  · rcases List.mem_append.mp h with hold | hnew
    · exact .inl hold
    · exact .inr (List.mem_singleton.mp hnew)

theorem ReportQueue.mem_foldl_putReportItem {queue : ReportQueue} {arrivals : List Arrival}
    {item : ReportItem}
    (h : item ∈ (arrivals.foldl (fun queue arrival => queue.putReportItem (.message arrival))
      queue).items) :
    item ∈ queue.items ∨ ∃ arrival ∈ arrivals, item = .message arrival := by
  induction arrivals generalizing queue with
  | nil => exact .inl h
  | cons arrival rest ih =>
      rcases ih h with hput | ⟨later, hlater, heq⟩
      · rcases ReportQueue.mem_putReportItem hput with hold | hnew
        · exact .inl hold
        · exact .inr ⟨arrival, List.mem_cons_self, hnew⟩
      · exact .inr ⟨later, List.mem_cons_of_mem _ hlater, heq⟩

/-- An item of queues of which one is replaced. -/
theorem ReportQueue.mem_update {queues : Nat → ReportQueue} {replaced other : Nat}
    {queue : ReportQueue} {item : ReportItem}
    (h : item ∈ (Function.update queues replaced queue other).items) :
    item ∈ (queues other).items ∨ other = replaced ∧ item ∈ queue.items := by
  by_cases heq : other = replaced
  · rw [heq, Function.update_self] at h
    exact .inr ⟨heq, h⟩
  · rw [Function.update_of_ne heq] at h
    exact .inl h

namespace Dispatcher

/-- Every message that the dispatcher holds meets `P`. -/
structure Holds (P : Arrival → Prop) (state : Dispatcher) : Prop where
  results : ∀ future arrival, state.futures future = some (.result arrival) → P arrival
  backlog : ∀ arrival ∈ state.messageBacklog, P arrival
  queues : ∀ queue arrival, .message arrival ∈ (state.queues queue).items → P arrival

variable {P : Arrival → Prop} {s t : Dispatcher}

theorem Fresh.holds (h : s.Fresh) (hqueues : ∀ queue, (s.queues queue).items = []) : s.Holds P := by
  obtain ⟨-, hfutures, -, hbacklog, -⟩ := h
  constructor
  · intro future arrival hresult
    rw [hfutures] at hresult
    cases hresult
  · intro arrival harrival
    rw [hbacklog] at harrival
    cases harrival
  · intro queue arrival harrival
    rw [hqueues] at harrival
    cases harrival

theorem Holds.mono {Q : Arrival → Prop} (h : s.Holds P) (hmono : ∀ arrival, P arrival → Q arrival) :
    s.Holds Q :=
  ⟨fun future arrival hresult => hmono _ (h.results future arrival hresult),
    fun arrival harrival => hmono _ (h.backlog arrival harrival),
    fun queue arrival harrival => hmono _ (h.queues queue arrival harrival)⟩

/-- A step that brings no message. -/
theorem Holds.fewer (h : s.Holds P)
    (hresults : ∀ future arrival, t.futures future = some (.result arrival) →
      s.futures future = some (.result arrival))
    (hbacklog : t.messageBacklog ⊆ s.messageBacklog)
    (hqueues : ∀ queue arrival, .message arrival ∈ (t.queues queue).items →
      .message arrival ∈ (s.queues queue).items) : t.Holds P :=
  ⟨fun future arrival hresult => h.results future arrival (hresults future arrival hresult),
    fun arrival harrival => h.backlog arrival (hbacklog harrival),
    fun queue arrival harrival => h.queues queue arrival (hqueues queue arrival harrival)⟩

/-- A message reaches one future or the backlog, and the queues. -/
theorem Holds.dispatchMessage (h : s.Holds P) {message : TrpcPacket} (hnew : P (s.arrival message)) :
    (s.dispatchMessage message).Holds P := by
  have hqueues : ∀ queue arrival,
      .message arrival ∈ ((s.dispatchMessage message).queues queue).items → P arrival := by
    intro queue arrival harrival
    rw [(queues_dispatchMessage s message).1] at harrival
    split at harrival
    · rw [offered] at harrival
      split at harrival
      · rcases ReportQueue.mem_putReportItem harrival with hold | heq
        · exact h.queues queue arrival hold
        · cases heq
          exact hnew
      · exact h.queues queue arrival harrival
    · exact h.queues queue arrival harrival
  rcases dispatchMessage_cases message s with ⟨item, -, hafter⟩ | ⟨-, hafter⟩
  · refine ⟨?_, ?_, hqueues⟩
    · intro future arrival hresult
      have hfutures : (s.dispatchMessage message).futures =
          Function.update s.futures item.future (some (.result (s.arrival message))) := by
        rw [hafter]
        simp only
        split <;> rfl
      rw [hfutures, update_eq_result_iff] at hresult
      rcases hresult with ⟨-, hhanded⟩ | ⟨-, hold⟩
      · cases hhanded
        exact hnew
      · exact h.results future arrival hold
    · intro arrival harrival
      have hbacklog : (s.dispatchMessage message).messageBacklog = s.messageBacklog := by
        rw [hafter]
        simp only
        split <;> rfl
      exact h.backlog arrival (hbacklog ▸ harrival)
  · refine ⟨?_, ?_, hqueues⟩
    · intro future arrival hresult
      rw [hafter] at hresult
      exact h.results future arrival hresult
    · intro arrival harrival
      rw [hafter] at harrival
      rcases BoundedQueue.mem_push harrival with hold | rfl
      · exact h.backlog arrival hold
      · exact hnew

/-- The items of a queue that gets one more item, if it is one of those that do. -/
theorem mem_of_mem_endReports {item : ReportItem} {queue : Nat} {arrival : Arrival}
    (hitem : ∀ arrival, item ≠ .message arrival)
    (h : .message arrival ∈ ((s.endReports item).queues queue).items) :
    .message arrival ∈ (s.queues queue).items := by
  change _ ∈ (if queue ∈ s.reportQueues then _ else _ : ReportQueue).items at h
  split at h
  · rcases ReportQueue.mem_putReportItem h with hold | heq
    · exact hold
    · exact absurd heq.symm (hitem arrival)
  · exact h

theorem Holds.reports (h : s.Holds P) (maxQueueSize : Int) (replayBacklog : Bool) :
    (s.reports maxQueueSize replayBacklog).Holds P := by
  unfold Dispatcher.reports
  split
  · refine ⟨h.results, h.backlog, fun queue arrival harrival => ?_⟩
    rcases ReportQueue.mem_update harrival with hold | ⟨-, hnew⟩
    · exact h.queues queue arrival hold
    · rcases ReportQueue.mem_putReportItem hnew with hnone | heq
      · cases hnone
      · cases heq
  · refine ⟨h.results, h.backlog, fun queue arrival harrival => ?_⟩
    rcases ReportQueue.mem_update harrival with hold | ⟨-, hnew⟩
    · exact h.queues queue arrival hold
    · split at hnew
      · rcases ReportQueue.mem_foldl_putReportItem hnew with hnone | ⟨found, hfound, heq⟩
        · cases hnone
        · cases heq
          exact h.backlog arrival hfound
      · cases hnew

/-- A step keeps what holds of the messages held, if it holds of the message that the step
dispatches. -/
theorem Holds.step (h : s.Holds P) {action : DispatcherAction}
    (hnew : ∀ message, action = .dispatch message → P (s.arrival message))
    (hend : ∀ arrival, action ≠ .endReports (.message arrival)) (hstep : s.step action = some t) :
    t.Holds P := by
  rcases step_results hstep with ⟨message, rfl, rfl⟩ | ⟨-, -, hresults⟩
  · exact h.dispatchMessage (hnew message rfl)
  · have hfewer := @Holds.fewer P s t h fun future arrival => (hresults future arrival).mp
    cases action with
    | dispatch message =>
        cases hstep
        exact h.dispatchMessage (hnew message rfl)
    | register future responseMatch publishMatch =>
        rw [Dispatcher.step] at hstep
        split at hstep
        · cases hstep
          exact hfewer (List.Subset.refl _) fun _ _ h => h
        · cases hstep
    | cancel future =>
        cases hstep
        have hsame : (s.settle future .cancelled).messageBacklog = s.messageBacklog ∧
            (s.settle future .cancelled).queues = s.queues := by
          unfold settle
          split <;> exact ⟨rfl, rfl⟩
        apply hfewer
        · exact hsame.1 ▸ List.Subset.refl _
        · exact fun queue arrival harrival => hsame.2 ▸ harrival
    | remove future | failPending err | observe packet | opened | closing =>
        cases hstep
        exact hfewer (List.Subset.refl _) fun _ _ h => h
    | readMessage =>
        cases hstep
        rw [(readMessage_eq s).2] at hfewer ⊢
        exact hfewer List.eraseP_subset fun _ _ h => h
    | readUntil predicate =>
        cases hstep
        rw [(readUntil_eq s predicate).2] at hfewer ⊢
        exact hfewer List.eraseP_subset fun _ _ h => h
    | subscribe maxQueueSize replayBacklog =>
        cases hstep
        exact h.reports maxQueueSize replayBacklog
    | unsubscribe queue =>
        cases hstep
        apply hfewer (List.Subset.refl _)
        intro other arrival harrival
        rcases ReportQueue.mem_update harrival with hold | ⟨rfl, hnew⟩
        · exact hold
        · rcases ReportQueue.mem_putReportItem hnew with hold | heq
          · exact hold
          · cases heq
    | take queue =>
        cases hstep
        unfold takeReport
        split
        · exact h
        · rename_i item rest hitems
          refine ⟨h.results, h.backlog, fun other arrival harrival => ?_⟩
          rcases ReportQueue.mem_update harrival with hold | ⟨rfl, hrest⟩
          · exact h.queues other arrival hold
          · exact h.queues other arrival (hitems ▸ List.mem_cons_of_mem item hrest)
    | endReports item =>
        cases hstep
        apply hfewer (List.Subset.refl _)
        intro queue arrival harrival
        exact mem_of_mem_endReports (fun found heq => hend found (heq ▸ rfl)) harrival
    | setReaderError err =>
        cases hstep
        apply hfewer (List.Subset.refl _)
        intro queue arrival harrival
        exact mem_of_mem_endReports (fun _ heq => ReportItem.noConfusion heq) harrival

end Dispatcher

end Tekmar482
