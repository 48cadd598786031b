import Tekmar482.RegisteredRequests

/-!
# Dispatched messages

A dispatched message is handed to the first waiting request that accepts it, or
appended to the backlog, and no other message moves.
-/

namespace Tekmar482

open BoundedQueue

namespace Dispatcher

/-- The registered requests that are still unresolved, in order of registration. -/
def waiting (self : Dispatcher) : List PendingRequest :=
  self.pending.filter fun item => self.unresolved item.future

/-- The report queues after one offer to every subscription. -/
def offered (self : Dispatcher) (arrival : Arrival) : Nat → ReportQueue := fun queue =>
  if queue ∈ self.reportQueues then (self.queues queue).putReportItem (.message arrival)
  else self.queues queue

/-- The message as it arrives next. -/
def arrival (self : Dispatcher) (message : TrpcPacket) : Arrival :=
  { index := self.arrived, message }

/-- What becomes of a dispatched message: the first waiting request that accepts
it gets it, or it is appended to the backlog. -/
inductive Conserved (before : Dispatcher) (message : TrpcPacket) (after : Dispatcher) : Prop
  | handed (item : PendingRequest)
      (first : before.waiting.find? (fun item => item.responseMatch.accepts message) = some item)
      (futures : after.futures =
        Function.update before.futures item.future (some (.result (before.arrival message))))
      (waiting : after.waiting = before.waiting.erase item)
      (backlog : after.messageBacklog = before.messageBacklog)
      (queues : after.queues =
        if item.publishMatch then before.offered (before.arrival message) else before.queues)
  | queued
      (unmatched : before.waiting.find? (fun item => item.responseMatch.accepts message) = none)
      (futures : after.futures = before.futures)
      (waiting : after.waiting = before.waiting)
      (backlog : after.messageBacklog =
        push before.maxMessageBacklog.toNat before.messageBacklog (before.arrival message))
      (queues : after.queues = before.offered (before.arrival message))

/-! ## The loop over the registered requests -/

/-- The loop finds the first waiting request that accepts the message, and
removes no other waiting request. -/
theorem offerLoop_spec (self : Dispatcher) (message : TrpcPacket)
    (keep rest : List PendingRequest) (hnodup : (keep ++ rest).Nodup) :
    let waits := fun item : PendingRequest => self.unresolved item.future
    let found := (rest.filter waits).find? fun item => item.responseMatch.accepts message
    (self.offerLoop message rest (keep ++ rest)).2 = found ∧
    (self.offerLoop message rest (keep ++ rest)).1.filter waits =
      (match found with
        | none => (keep ++ rest).filter waits
        | some item => ((keep ++ rest).filter waits).erase item) ∧
    (self.offerLoop message rest (keep ++ rest)).1.Sublist (keep ++ rest) ∧
    ∀ item, found = some item →
      item ∉ (self.offerLoop message rest (keep ++ rest)).1 := by
  intro waits found
  induction rest generalizing keep with
  | nil => exact ⟨rfl, rfl, List.Sublist.refl _, fun item h => nomatch h⟩
  | cons item rest ih =>
      have hkeep : item ∉ keep := fun hmem => by
        rw [List.nodup_append] at hnodup
        exact hnodup.2.2 item hmem item List.mem_cons_self rfl
      have herase : (keep ++ item :: rest).erase item = keep ++ rest := by
        rw [List.erase_append_right _ hkeep, List.erase_cons_head]
      have hsub : (keep ++ rest).Sublist (keep ++ item :: rest) :=
        (List.Sublist.refl keep).append (List.sublist_cons_self item rest)
      by_cases hwaits : self.unresolved item.future = true
      · by_cases haccepts : item.responseMatch.accepts message = true
        · have hfound : found = some item := by
            simp only [found, List.filter_cons, waits, hwaits, if_pos, List.find?_cons, haccepts]
          have hloop : self.offerLoop message (item :: rest) (keep ++ item :: rest) =
              (keep ++ rest, some item) := by
            rw [offerLoop, if_pos hwaits, if_pos haccepts, herase]
          rw [hloop, hfound]
          refine ⟨rfl, ?_, hsub, ?_⟩
          · simp only
            rw [← herase, List.Nodup.erase_eq_filter hnodup,
              List.Nodup.erase_eq_filter (hnodup.filter waits), List.filter_filter,
              List.filter_filter]
            congr 1
            funext other
            rw [Bool.and_comm]
          · rintro other ⟨⟩
            have hfresh := hnodup.sublist hsub
            rw [← herase]
            exact List.Nodup.not_mem_erase hnodup
        · have hassoc : keep ++ item :: rest = keep ++ [item] ++ rest := by simp
          have hloop : self.offerLoop message (item :: rest) (keep ++ item :: rest) =
              self.offerLoop message rest (keep ++ [item] ++ rest) := by
            rw [offerLoop, if_pos hwaits, if_neg haccepts, hassoc]
          have hfound : found =
              (rest.filter waits).find? fun item => item.responseMatch.accepts message := by
            simp only [found, List.filter_cons, waits, hwaits, if_pos, List.find?_cons, haccepts]
          rw [hloop, hfound, hassoc]
          exact ih (keep ++ [item]) (hassoc ▸ hnodup)
      · have hloop : self.offerLoop message (item :: rest) (keep ++ item :: rest) =
            self.offerLoop message rest (keep ++ rest) := by
          rw [offerLoop, if_neg hwaits, herase]
        have hfilter : (item :: rest).filter waits = rest.filter waits :=
          List.filter_cons_of_neg hwaits
        have hall : (keep ++ item :: rest).filter waits = (keep ++ rest).filter waits := by
          rw [List.filter_append, List.filter_append, hfilter]
        obtain ⟨hitem, hfiltered, hsublist, hgone⟩ := ih keep (hnodup.sublist hsub)
        simp only [found, hfilter, hloop, hall]
        exact ⟨hitem, hfiltered, hsublist.trans hsub, hgone⟩

/-- The loop takes a request that accepts the message. -/
theorem offerLoop_some {self : Dispatcher} {message : TrpcPacket} {rest pending : List PendingRequest}
    {item : PendingRequest} (h : (self.offerLoop message rest pending).2 = some item) :
    item ∈ rest ∧ item.responseMatch.accepts message = true := by
  induction rest generalizing pending with
  | nil => cases h
  | cons other rest ih =>
      rw [offerLoop] at h
      split at h
      · split at h
        · rename_i haccepts
          cases h
          exact ⟨List.mem_cons_self, haccepts⟩
        · exact ⟨List.mem_cons_of_mem _ (ih h).1, (ih h).2⟩
      · exact ⟨List.mem_cons_of_mem _ (ih h).1, (ih h).2⟩

/-- The loop registers no request. -/
theorem offerLoop_subset (self : Dispatcher) (message : TrpcPacket)
    (rest pending : List PendingRequest) :
    (self.offerLoop message rest pending).1 ⊆ pending := by
  induction rest generalizing pending with
  | nil => exact List.Subset.refl pending
  | cons item rest ih =>
      rw [offerLoop]
      split
      · split
        · exact List.erase_subset
        · exact ih pending
      · exact List.Subset.trans (ih _) List.erase_subset

/-- The backlog is trimmed to its newest entries. -/
theorem trim_eq_keepNewest {α : Type} (limit : Int) (backlog : List α) :
    trim limit backlog = keepNewest limit.toNat backlog := by
  unfold trim
  split
  · rename_i hlimit
    rw [Int.toNat_of_nonpos hlimit, keepNewest_zero]
  · rfl

/-! ## Handing out a message -/

section Dispatch

variable {self : Dispatcher} (message : TrpcPacket)

/-- The two ways in which a message is dispatched. -/
theorem dispatchMessage_cases (self : Dispatcher) :
    (∃ item, (self.offerLoop message self.pending self.pending).2 = some item ∧
      self.dispatchMessage message =
        let handed := { self with
          arrived := self.arrived + 1
          pending := (self.offerLoop message self.pending self.pending).1
          futures := Function.update self.futures item.future
            (some (.result (self.arrival message))) }
        if item.publishMatch then { handed with queues := self.offered (self.arrival message) }
        else handed) ∨
    (self.offerLoop message self.pending self.pending).2 = none ∧
      self.dispatchMessage message =
        { self with
          arrived := self.arrived + 1
          pending := (self.offerLoop message self.pending self.pending).1
          messageBacklog :=
            push self.maxMessageBacklog.toNat self.messageBacklog (self.arrival message)
          queues := self.offered (self.arrival message) } := by
  rcases hloop : self.offerLoop message self.pending self.pending with ⟨pending, found⟩
  cases found with
  | none =>
      right
      refine ⟨rfl, ?_⟩
      simp only [dispatchMessage, hloop, publishReport, trim_eq_keepNewest]
      rfl
  | some item =>
      left
      refine ⟨item, rfl, ?_⟩
      simp only [dispatchMessage, hloop, publishReport]
      rfl

theorem dispatchMessage_conserved (h : self.WellFormed) :
    Conserved self message (self.dispatchMessage message) := by
  have hnodup : self.pending.Nodup := h.distinct.of_map
  obtain ⟨hfound, hwaiting, hsublist, hgone⟩ :=
    offerLoop_spec self message [] self.pending (by rwa [List.nil_append])
  simp only [List.nil_append] at hfound hwaiting hsublist hgone
  rcases dispatchMessage_cases message self with ⟨item, hitem, hafter⟩ | ⟨hnone, hafter⟩
  · have hfirst := hfound.symm.trans hitem
    simp only [hfirst] at hwaiting
    have hmem : item ∈ self.pending := (List.mem_filter.mp (List.mem_of_find?_eq_some hfirst)).1
    -- the other registered requests have other futures, which stay as they are
    have hkept : ∀ other ∈ (self.offerLoop message self.pending self.pending).1,
        other.future ≠ item.future := by
      intro other hother heq
      have hsame := List.inj_on_of_nodup_map h.distinct (hsublist.subset hother) hmem heq
      exact hgone item hfirst (hsame ▸ hother)
    apply Conserved.handed item hfirst
    · rw [hafter]
      simp only
      split <;> rfl
    · rw [hafter, waiting, waiting, ← hwaiting]
      simp only
      split <;>
      · apply List.filter_congr
        intro other hother
        simp only [unresolved]
        rw [Function.update_of_ne (hkept other hother)]
    · rw [hafter]
      simp only
      split <;> rfl
    · rw [hafter]
      simp only
      split <;> rfl
  · have hunmatched := hfound.symm.trans hnone
    simp only [hunmatched] at hwaiting
    apply Conserved.queued hunmatched
    · rw [hafter]
    · rw [hafter, waiting, waiting, ← hwaiting]
      rfl
    · rw [hafter]
    · rw [hafter]

theorem dispatchMessage_pending (h : self.WellFormed) :
    (self.dispatchMessage message).pending.Sublist self.pending := by
  obtain ⟨-, -, hsublist, -⟩ :=
    offerLoop_spec self message [] self.pending (by simpa using h.distinct.of_map)
  rcases dispatchMessage_cases message self with ⟨item, -, hafter⟩ | ⟨-, hafter⟩
  · rw [hafter]
    simp only
    split <;> exact hsublist
  · rw [hafter]
    exact hsublist

@[simp] theorem dispatchMessage_arrived (self : Dispatcher) :
    (self.dispatchMessage message).arrived = self.arrived + 1 := by
  rcases dispatchMessage_cases message self with ⟨item, -, hafter⟩ | ⟨-, hafter⟩
  · rw [hafter]
    simp only
    split <;> rfl
  · rw [hafter]

@[simp] theorem dispatchMessage_maxMessageBacklog (self : Dispatcher) :
    (self.dispatchMessage message).maxMessageBacklog = self.maxMessageBacklog := by
  rcases dispatchMessage_cases message self with ⟨item, -, hafter⟩ | ⟨-, hafter⟩
  · rw [hafter]
    simp only
    split <;> rfl
  · rw [hafter]

/-- A dispatched message goes to one new place. -/
theorem WellFormed.dispatchMessage (h : self.WellFormed) :
    (self.dispatchMessage message).WellFormed := by
  have hpending := dispatchMessage_pending message h
  have harrived : (self.dispatchMessage message).arrived = self.arrived + 1 :=
    dispatchMessage_arrived message self
  have hindex : (self.arrival message).index = self.arrived := rfl
  have hdistinct := h.distinct.sublist (hpending.map PendingRequest.future)
  cases dispatchMessage_conserved message h with
  | handed item first futures waiting backlog queues =>
      have hmem : item ∈ self.waiting := List.mem_of_find?_eq_some first
      have hunresolved : self.unresolved item.future = true := (List.mem_filter.mp hmem).2
      -- a result is either an old one or the message just handed out
      have hresults : ∀ future a,
          (self.dispatchMessage message).futures future = some (.result a) →
            future = item.future ∧ a = self.arrival message ∨
              future ≠ item.future ∧ self.futures future = some (.result a) := by
        intro future a hresult
        rw [futures, update_eq_result_iff] at hresult
        refine hresult.imp_left fun hhanded => ⟨hhanded.1, ?_⟩
        exact (FutureState.result.inj hhanded.2).symm
      constructor
      case distinct =>
        exact hdistinct
      case created =>
        intro other hother
        rw [futures]
        rcases eq_or_ne other.future item.future with heq | hne
        · rw [heq, Function.update_self]
          exact Option.some_ne_none _
        · rw [Function.update_of_ne hne]
          exact h.created other (hpending.subset hother)
      case sorted =>
        exact backlog ▸ h.sorted
      case backlog_arrived =>
        intro a ha
        rw [backlog] at ha
        have := h.backlog_arrived a ha
        omega
      case result_arrived =>
        intro future a hresult
        rcases hresults future a hresult with ⟨-, rfl⟩ | ⟨-, hold⟩
        · omega
        · have := h.result_arrived future a hold
          omega
      case result_notMem =>
        intro future a hresult b hb
        rw [backlog] at hb
        rcases hresults future a hresult with ⟨-, rfl⟩ | ⟨-, hold⟩
        · have := h.backlog_arrived b hb
          omega
        · exact h.result_notMem future a hold b hb
      case result_unique =>
        intro future other a b ha hb heq
        rcases hresults future a ha with ⟨rfl, rfl⟩ | ⟨-, hold⟩ <;>
        rcases hresults other b hb with ⟨rfl, rfl⟩ | ⟨-, hother⟩
        · rfl
        · have := h.result_arrived other b hother
          omega
        · have := h.result_arrived future a hold
          omega
        · exact h.result_unique future other a b hold hother heq
  | queued unmatched futures waiting backlog queues =>
      have hbacklog : ∀ b ∈ (self.dispatchMessage message).messageBacklog,
          b ∈ self.messageBacklog ∨ b = self.arrival message := by
        intro b hb
        rw [backlog] at hb
        exact mem_push hb
      constructor
      case distinct =>
        exact hdistinct
      case created =>
        exact fun other hother => futures ▸ h.created other (hpending.subset hother)
      case sorted =>
        rw [backlog]
        exact pairwise_push h.sorted h.backlog_arrived
      case backlog_arrived =>
        intro b hb
        rcases hbacklog b hb with hold | rfl
        · have := h.backlog_arrived b hold
          omega
        · omega
      case result_arrived =>
        intro future a hresult
        rw [futures] at hresult
        have := h.result_arrived future a hresult
        omega
      case result_notMem =>
        intro future a hresult b hb
        rw [futures] at hresult
        rcases hbacklog b hb with hold | rfl
        · exact h.result_notMem future a hresult b hold
        · have := h.result_arrived future a hresult
          omega
      case result_unique =>
        intro future other a b ha hb
        rw [futures] at ha hb
        exact h.result_unique future other a b ha hb

end Dispatch

/-! ## Reading from the backlog -/

theorem readMessage_eq (self : Dispatcher) :
    self.readMessage.1 = (BoundedQueue.read (fun _ => true) self.messageBacklog).1 ∧
      self.readMessage.2 =
        { self with
          messageBacklog := (BoundedQueue.read (fun _ => true) self.messageBacklog).2 } := by
  unfold Dispatcher.readMessage
  cases hbacklog : self.messageBacklog with
  | nil =>
      refine ⟨rfl, ?_⟩
      cases self
      cases hbacklog
      rfl
  | cons arrival rest => exact ⟨rfl, rfl⟩

theorem readUntil_eq (self : Dispatcher) (predicate : TrpcPacket → Bool) :
    let accepts := fun arrival : Arrival => predicate arrival.message
    (self.readUntil predicate).1 = (BoundedQueue.read accepts self.messageBacklog).1 ∧
      (self.readUntil predicate).2 =
        { self with messageBacklog := (BoundedQueue.read accepts self.messageBacklog).2 } := by
  intro accepts
  have hread := eraseIdx_findIdx? accepts self.messageBacklog
  simp only [Dispatcher.readUntil, popMessageBacklog]
  cases hindex : self.messageBacklog.findIdx? accepts with
  | none =>
      rw [hindex] at hread
      simp only [← hread, and_self]
  | some index =>
      rw [hindex] at hread
      simp only [← hread, and_self]

/-! ## Every step -/

theorem WellFormed.read {self : Dispatcher} (h : self.WellFormed) (accepts : Arrival → Bool) :
    { self with
      messageBacklog := (BoundedQueue.read accepts self.messageBacklog).2 }.WellFormed :=
  h.of_smaller (List.Sublist.refl _) (fun _ h => h) (fun _ _ h => h) List.eraseP_sublist rfl

/-- Every step keeps the dispatcher well formed. -/
theorem WellFormed.step {s t : Dispatcher} {action : DispatcherAction} (h : s.WellFormed)
    (hstep : s.step action = some t) : t.WellFormed := by
  cases action <;> simp only [Dispatcher.step, Option.some.injEq] at hstep
  case register future responseMatch publishMatch =>
    split at hstep
    · cases hstep
      exact h.register ‹_› responseMatch publishMatch
    · exact nomatch hstep
  all_goals subst hstep
  case dispatch message => exact h.dispatchMessage message
  case cancel future => exact (settles_cancel s future).wellFormed h
  case remove future => exact h.removePending future
  case failPending err => exact (settles_failPending s err).wellFormed h
  case readMessage =>
    rw [(readMessage_eq s).2]
    exact h.read _
  case readUntil predicate =>
    rw [(readUntil_eq s predicate).2]
    exact h.read _
  case subscribe maxQueueSize replayBacklog =>
    unfold reports
    split <;> exact h.of_same rfl rfl rfl rfl
  case take queue =>
    unfold takeReport
    split <;> exact h.of_same rfl rfl rfl rfl
  case setReaderError err => exact (settles_setReaderError s err).wellFormed h
  all_goals exact h.of_same rfl rfl rfl rfl

end Dispatcher

end Tekmar482
