import Tekmar482.Dispatcher

/-!
# Registered requests

The futures of the registered requests are distinct, and no message is in two
places. A step that hands out no message only ends requests and futures.
-/

namespace Tekmar482

open BoundedQueue

namespace Dispatcher

/-! ## What every reachable dispatcher satisfies -/

/-- The registered requests have distinct futures that exist. Messages in the
backlog are in the order of arrival, and no message is in two places. -/
structure WellFormed (state : Dispatcher) : Prop where
  distinct : (state.pending.map PendingRequest.future).Nodup
  created : ∀ item ∈ state.pending, state.futures item.future ≠ none
  sorted : state.messageBacklog.Pairwise fun a b => a.index < b.index
  backlog_arrived : ∀ a ∈ state.messageBacklog, a.index < state.arrived
  result_arrived : ∀ future a, state.futures future = some (.result a) → a.index < state.arrived
  result_notMem : ∀ future a, state.futures future = some (.result a) →
    ∀ b ∈ state.messageBacklog, a.index ≠ b.index
  result_unique : ∀ future other a b, state.futures future = some (.result a) →
    state.futures other = some (.result b) → a.index = b.index → future = other

theorem Fresh.wellFormed {self : Dispatcher} (h : self.Fresh) : self.WellFormed := by
  obtain ⟨hpending, hfutures, -, hbacklog, -⟩ := h
  have hnone : ∀ future a, self.futures future ≠ some (.result a) := fun future a => by
    rw [hfutures future]
    exact fun h => nomatch h
  constructor
  case distinct =>
    rw [hpending]
    exact List.nodup_nil
  case created =>
    rw [hpending]
    exact fun item hmem => absurd hmem List.not_mem_nil
  case sorted =>
    rw [hbacklog]
    exact List.Pairwise.nil
  case backlog_arrived =>
    rw [hbacklog]
    exact fun a hmem => absurd hmem List.not_mem_nil
  case result_arrived =>
    exact fun future a h => absurd h (hnone future a)
  case result_notMem =>
    exact fun future a h => absurd h (hnone future a)
  case result_unique =>
    exact fun future other a b h => absurd h (hnone future a)

/-- Requests can go, messages can leave the backlog, and futures can be created
or end without a message. -/
theorem WellFormed.of_smaller {before after : Dispatcher} (h : before.WellFormed)
    (hpending : after.pending.Sublist before.pending)
    (hcreated : ∀ future, before.futures future ≠ none → after.futures future ≠ none)
    (hresults : ∀ future a, after.futures future = some (.result a) →
      before.futures future = some (.result a))
    (hbacklog : after.messageBacklog.Sublist before.messageBacklog)
    (harrived : after.arrived = before.arrived) : after.WellFormed := by
  constructor
  case distinct =>
    exact h.distinct.sublist (hpending.map PendingRequest.future)
  case created =>
    exact fun item hmem => hcreated _ (h.created item (hpending.subset hmem))
  case sorted =>
    exact h.sorted.sublist hbacklog
  case backlog_arrived =>
    intro a hmem
    rw [harrived]
    exact h.backlog_arrived a (hbacklog.subset hmem)
  case result_arrived =>
    intro future a hresult
    rw [harrived]
    exact h.result_arrived future a (hresults future a hresult)
  case result_notMem =>
    intro future a hresult b hmem
    exact h.result_notMem future a (hresults future a hresult) b (hbacklog.subset hmem)
  case result_unique =>
    intro future other a b ha hb
    exact h.result_unique future other a b (hresults future a ha) (hresults other b hb)

/-- What a future holds after one of them got a new state. -/
theorem update_eq_result_iff (futures : Nat → Option (FutureState Arrival)) (target future : Nat)
    (state : FutureState Arrival) (a : Arrival) :
    Function.update futures target (some state) future = some (.result a) ↔
      future = target ∧ state = .result a ∨ future ≠ target ∧ futures future = some (.result a) := by
  rcases eq_or_ne future target with rfl | hne
  · rw [Function.update_self]
    simp
  · rw [Function.update_of_ne hne]
    simp [hne]

theorem WellFormed.register {self : Dispatcher} (h : self.WellFormed) {future : Nat}
    (hnew : self.futures future = none) (responseMatch : ResponseMatch) (publishMatch : Bool) :
    (self.register future responseMatch publishMatch).WellFormed := by
  have hresults : ∀ other a,
      Function.update self.futures future (some FutureState.waiting) other = some (.result a) →
        self.futures other = some (.result a) := fun other a hresult =>
    (((update_eq_result_iff _ _ _ _ _).mp hresult).resolve_left (by simp)).2
  constructor
  case distinct =>
    simp only [Dispatcher.register, List.map_append, List.map_cons, List.map_nil]
    rw [List.nodup_append]
    refine ⟨h.distinct, List.nodup_singleton _, ?_⟩
    intro other hother same hsame heq
    obtain ⟨item, hmem, rfl⟩ := List.mem_map.mp hother
    rw [List.mem_singleton.mp hsame] at heq
    exact h.created item hmem (heq ▸ hnew)
  case created =>
    intro item hmem
    simp only [Dispatcher.register] at hmem ⊢
    rcases eq_or_ne item.future future with heq | hne
    · rw [heq, Function.update_self]
      exact Option.some_ne_none _
    · rw [Function.update_of_ne hne]
      rcases List.mem_append.mp hmem with hold | hlast
      · exact h.created item hold
      · rw [List.mem_singleton.mp hlast] at hne
        exact absurd rfl hne
  case sorted =>
    exact h.sorted
  case backlog_arrived =>
    exact h.backlog_arrived
  case result_arrived =>
    exact fun other a hresult => h.result_arrived other a (hresults other a hresult)
  case result_notMem =>
    exact fun other a hresult => h.result_notMem other a (hresults other a hresult)
  case result_unique =>
    exact fun first second a b ha hb =>
      h.result_unique first second a b (hresults first a ha) (hresults second b hb)

/-- What does not touch requests, futures and messages keeps the invariant. -/
theorem WellFormed.of_same {before after : Dispatcher} (h : before.WellFormed)
    (hpending : after.pending = before.pending) (hfutures : after.futures = before.futures)
    (hbacklog : after.messageBacklog = before.messageBacklog)
    (harrived : after.arrived = before.arrived) : after.WellFormed := by
  refine h.of_smaller (by rw [hpending]) ?_ ?_ (by rw [hbacklog]) harrived
  · exact fun future hfuture => hfutures ▸ hfuture
  · exact fun future a hresult => hfutures ▸ hresult

theorem WellFormed.removePending {self : Dispatcher} (h : self.WellFormed) (future : Nat) :
    (self.removePending future).WellFormed :=
  h.of_smaller List.eraseP_sublist (fun _ h => h) (fun _ _ h => h) (List.Sublist.refl _) rfl

/-! ## Steps that hand out no message -/

/-- Requests and futures may end, without a message. -/
structure Settles (before after : Dispatcher) : Prop where
  pending : after.pending.Sublist before.pending
  created : ∀ future, after.futures future ≠ none ↔ before.futures future ≠ none
  results : ∀ future a, after.futures future = some (.result a) ↔
    before.futures future = some (.result a)
  waiting : ∀ future, after.futures future = some .waiting →
    before.futures future = some .waiting ∧
      ∀ item ∈ before.pending, item.future = future → item ∈ after.pending
  arrived : after.arrived = before.arrived
  wellFormed : before.WellFormed → after.WellFormed

theorem Settles.refl (self : Dispatcher) : Settles self self :=
  ⟨List.Sublist.refl _, fun _ => Iff.rfl, fun _ _ => Iff.rfl, fun _ h => ⟨h, fun _ hmem _ => hmem⟩,
    rfl, id⟩

theorem Settles.trans {first second third : Dispatcher} (h : Settles first second)
    (h' : Settles second third) : Settles first third where
  pending := h'.pending.trans h.pending
  created := fun future => (h'.created future).trans (h.created future)
  results := fun future a => (h'.results future a).trans (h.results future a)
  waiting := by
    intro future hwaits
    obtain ⟨hmid, hkept⟩ := h'.waiting future hwaits
    obtain ⟨hfirst, hkept'⟩ := h.waiting future hmid
    exact ⟨hfirst, fun item hmem heq => hkept item (hkept' item hmem heq) heq⟩
  arrived := h'.arrived.trans h.arrived
  wellFormed := fun hwell => h'.wellFormed (h.wellFormed hwell)

theorem Settles.of_same {before after : Dispatcher} (hpending : after.pending = before.pending)
    (hfutures : after.futures = before.futures)
    (hbacklog : after.messageBacklog.Sublist before.messageBacklog)
    (harrived : after.arrived = before.arrived) : Settles before after where
  pending := by rw [hpending]
  created := fun future => by rw [hfutures]
  results := fun future a => by rw [hfutures]
  waiting := fun future hwaits => ⟨hfutures ▸ hwaits, fun _ hmem _ => hpending ▸ hmem⟩
  arrived := harrived
  wellFormed := fun h => h.of_smaller (by rw [hpending]) (fun _ h => hfutures ▸ h)
    (fun _ _ h => hfutures ▸ h) hbacklog harrived

/-- A settled future was waiting, and it keeps no message unless it is given one. -/
theorem settle_futures (self : Dispatcher) (future : Nat) (state : FutureState Arrival) :
    (self.settle future state).futures =
      if self.unresolved future then Function.update self.futures future (some state)
      else self.futures := by
  unfold settle
  split <;> rfl

theorem settles_cancel (self : Dispatcher) (future : Nat) :
    Settles self (self.settle future .cancelled) := by
  unfold settle
  split
  · rename_i hwaits
    have hfuture : self.futures future = some .waiting := beq_iff_eq.mp hwaits
    have hresults : ∀ other a,
        Function.update self.futures future (some (.cancelled : FutureState Arrival)) other =
          some (.result a) ↔ self.futures other = some (.result a) := by
      intro other a
      rw [update_eq_result_iff]
      constructor
      · rintro (⟨-, heq⟩ | ⟨-, hold⟩)
        · exact nomatch heq
        · exact hold
      · rintro hresult
        refine .inr ⟨?_, hresult⟩
        rintro rfl
        rw [hfuture] at hresult
        exact nomatch hresult
    have hcreated : ∀ other,
        Function.update self.futures future (some (.cancelled : FutureState Arrival)) other ≠ none ↔
          self.futures other ≠ none := by
      intro other
      rcases eq_or_ne other future with rfl | hne
      · rw [Function.update_self, hfuture]
        simp
      · rw [Function.update_of_ne hne]
    refine ⟨List.Sublist.refl _, hcreated, hresults, ?_, rfl, fun h => ?_⟩
    · intro other hother
      refine ⟨?_, fun _ hmem _ => hmem⟩
      rcases eq_or_ne other future with rfl | hne
      · exact hfuture
      · exact (Function.update_of_ne hne _ _).symm.trans hother
    · exact h.of_smaller (List.Sublist.refl _) (fun other => (hcreated other).mpr)
        (fun other a => (hresults other a).mp) (List.Sublist.refl _) rfl
  · exact .refl self

theorem settles_failPending (self : Dispatcher) (err : PyException) :
    Settles self (self.failPending err) := by
  have hcreated : ∀ future, (self.failPending err).futures future ≠ none ↔
      self.futures future ≠ none := by
    intro future
    simp only [failPending]
    split
    · rename_i hwaits
      rw [beq_iff_eq.mp hwaits.2]
      simp
    · exact Iff.rfl
  have hresults : ∀ future a, (self.failPending err).futures future = some (.result a) ↔
      self.futures future = some (.result a) := by
    intro future a
    simp only [failPending]
    split
    · rename_i hwaits
      rw [beq_iff_eq.mp hwaits.2]
      exact ⟨(nomatch ·), (nomatch ·)⟩
    · exact Iff.rfl
  refine ⟨List.nil_sublist _, hcreated, hresults, ?_, rfl, fun h => ?_⟩
  · intro future hwaits
    simp only [failPending] at hwaits
    split at hwaits
    · exact nomatch hwaits
    · rename_i hnot
      refine ⟨hwaits, fun item hmem heq => absurd ⟨?_, ?_⟩ hnot⟩
      · exact heq ▸ List.mem_map_of_mem hmem
      · exact beq_iff_eq.mpr hwaits
  · exact h.of_smaller (List.nil_sublist _) (fun future => (hcreated future).mpr)
      (fun future a => (hresults future a).mp) (List.Sublist.refl _) rfl

theorem settles_endReports (self : Dispatcher) (item : ReportItem) :
    Settles self (self.endReports item) :=
  .of_same rfl rfl (List.Sublist.refl _) rfl

theorem settles_setReaderError (self : Dispatcher) (err : PyException) :
    Settles self (self.setReaderError err) := by
  have hmarked : Settles self { self with closed := true, readerError := some err } :=
    .of_same rfl rfl (List.Sublist.refl _) rfl
  exact (hmarked.trans (settles_failPending _ err)).trans (settles_endReports _ _)

end Dispatcher

end Tekmar482
