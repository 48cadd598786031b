import Tekmar482.DispatchedMessages

/-!
# Message conservation

Every dispatched message ends with exactly one request or is appended to the
backlog exactly once, and the backlog is what a reference queue holds.
-/

namespace Tekmar482

open BoundedQueue

namespace Dispatcher

/-- What a step means for the reference queue: an unmatched message arrives in
it, and a read takes the first message accepted. -/
def backlogEvents (self : Dispatcher) : DispatcherAction → List (BoundedQueue.Event Arrival)
  | .dispatch message =>
      match self.waiting.find? fun item => item.responseMatch.accepts message with
      | none => [.arrive (self.arrival message)]
      | some _ => []
  | .readMessage => [.read fun _ => true]
  | .readUntil predicate => [.read fun arrival => predicate arrival.message]
  | _ => []

/-- The events of a run for the reference queue. -/
def runBacklogEvents (self : Dispatcher) :
    List DispatcherAction → List (BoundedQueue.Event Arrival)
  | [] => []
  | action :: rest =>
      self.backlogEvents action ++
        match self.step action with
        | none => []
        | some next => next.runBacklogEvents rest

/-- A step does to the backlog what its events do to the reference queue. -/
theorem step_messageBacklog {s t : Dispatcher} {action : DispatcherAction} (h : s.WellFormed)
    (hstep : s.step action = some t) :
    t.messageBacklog =
      replay s.maxMessageBacklog.toNat s.messageBacklog (s.backlogEvents action) ∧
    t.maxMessageBacklog = s.maxMessageBacklog := by
  cases action <;> simp only [Dispatcher.step, Option.some.injEq] at hstep
  case register =>
    split at hstep
    · cases hstep
      exact ⟨rfl, rfl⟩
    · cases hstep
  all_goals subst hstep
  case dispatch message =>
    refine ⟨?_, dispatchMessage_maxMessageBacklog message s⟩
    cases dispatchMessage_conserved message h with
    | handed item first _ _ backlog _ =>
        rw [backlog, backlogEvents, first]
        rfl
    | queued unmatched _ _ backlog _ =>
        rw [backlog, backlogEvents, unmatched]
        rfl
  case cancel future =>
    unfold settle
    split <;> exact ⟨rfl, rfl⟩
  case readMessage =>
    rw [(readMessage_eq s).2]
    exact ⟨rfl, rfl⟩
  case readUntil predicate =>
    rw [(readUntil_eq s predicate).2]
    exact ⟨rfl, rfl⟩
  case subscribe =>
    unfold reports
    split <;> exact ⟨rfl, rfl⟩
  case take queue =>
    unfold takeReport
    split <;> exact ⟨rfl, rfl⟩
  all_goals exact ⟨rfl, rfl⟩

/-- The backlog after a run is what the reference queue holds. -/
theorem run_messageBacklog {s t : Dispatcher} {actions : List DispatcherAction}
    (h : s.WellFormed) (hrun : Machine.Run step s actions t) :
    t.WellFormed ∧ t.messageBacklog =
      replay s.maxMessageBacklog.toNat s.messageBacklog (s.runBacklogEvents actions) := by
  induction hrun with
  | nil s => exact ⟨h, rfl⟩
  | cons _ hstep _ ih =>
      obtain ⟨hbacklog, hlimit⟩ := step_messageBacklog h hstep
      obtain ⟨hwellFormed, hrest⟩ := ih (h.step hstep)
      refine ⟨hwellFormed, ?_⟩
      rw [hrest, hlimit, hbacklog, ← replay_append, runBacklogEvents, hstep]

theorem runBacklogEvents_append {s u : Dispatcher} {first : List DispatcherAction}
    (hrun : Machine.Run step s first u) (second : List DispatcherAction) :
    s.runBacklogEvents (first ++ second) = s.runBacklogEvents first ++ u.runBacklogEvents second := by
  induction hrun with
  | nil s => rfl
  | cons _ hstep _ ih =>
      simp only [List.cons_append, runBacklogEvents, hstep, ih, List.append_assoc]

/-- Only a dispatched message advances the order of arrival, gives a future its
result, or arrives in the backlog. -/
theorem step_results {s t : Dispatcher} {a : DispatcherAction}
    (hstep : s.step a = some t) :
    (∃ message, a = .dispatch message ∧ t = s.dispatchMessage message) ∨
      t.arrived = s.arrived ∧ arrivals (s.backlogEvents a) = [] ∧
        ∀ future m, t.futures future = some (.result m) ↔ s.futures future = some (.result m) := by
  cases a <;> simp only [Dispatcher.step, Option.some.injEq] at hstep
  case dispatch message => exact .inl ⟨message, rfl, hstep.symm⟩
  all_goals right
  case register future responseMatch publishMatch =>
    split at hstep
    · rename_i hnone
      cases hstep
      refine ⟨rfl, rfl, fun other a => (update_eq_result_iff _ _ _ _ _).trans ?_⟩
      constructor
      · rintro (⟨-, heq⟩ | ⟨-, hold⟩)
        · cases heq
        · exact hold
      · intro hresult
        refine .inr ⟨?_, hresult⟩
        rintro rfl
        cases hnone.symm.trans hresult
    · cases hstep
  all_goals subst hstep
  case cancel future =>
    have hsettles := settles_cancel s future
    exact ⟨hsettles.arrived, rfl, hsettles.results⟩
  case failPending err => exact ⟨rfl, rfl, (settles_failPending s err).results⟩
  case setReaderError err => exact ⟨rfl, rfl, (settles_setReaderError s err).results⟩
  case readMessage =>
    rw [(readMessage_eq s).2]
    exact ⟨rfl, rfl, fun _ _ => Iff.rfl⟩
  case readUntil predicate =>
    rw [(readUntil_eq s predicate).2]
    exact ⟨rfl, rfl, fun _ _ => Iff.rfl⟩
  case subscribe =>
    unfold reports
    split <;> exact ⟨rfl, rfl, fun _ _ => Iff.rfl⟩
  case take queue =>
    unfold takeReport
    split <;> exact ⟨rfl, rfl, fun _ _ => Iff.rfl⟩
  all_goals exact ⟨rfl, rfl, fun _ _ => Iff.rfl⟩

/-- What later steps do to messages: results stay, new results and new arrivals
in the backlog come later in the order of arrival. -/
structure Later (before after : Dispatcher) (arrived : List Arrival) : Prop where
  arrived_le : before.arrived ≤ after.arrived
  result : ∀ future a, before.futures future = some (.result a) →
    after.futures future = some (.result a)
  result_origin : ∀ future a, after.futures future = some (.result a) →
    before.futures future = some (.result a) ∨ before.arrived ≤ a.index
  index : ∀ a ∈ arrived, before.arrived ≤ a.index ∧ a.index < after.arrived

theorem Later.refl (s : Dispatcher) : Later s s [] where
  arrived_le := le_rfl
  result := fun _ _ h => h
  result_origin := fun _ _ h => .inl h
  index := fun _ h => absurd h List.not_mem_nil

theorem Later.trans {s u t : Dispatcher} {first second : List Arrival}
    (hfirst : Later s u first) (hsecond : Later u t second) : Later s t (first ++ second) where
  arrived_le := hfirst.arrived_le.trans hsecond.arrived_le
  result := fun future a h => hsecond.result future a (hfirst.result future a h)
  result_origin := by
    intro future a h
    rcases hsecond.result_origin future a h with hmid | hlate
    · exact hfirst.result_origin future a hmid
    · exact .inr (hfirst.arrived_le.trans hlate)
  index := by
    intro a ha
    have hle := hfirst.arrived_le
    have hle' := hsecond.arrived_le
    rcases List.mem_append.mp ha with ha | ha
    · have := hfirst.index a ha
      omega
    · have := hsecond.index a ha
      omega

theorem step_later {s t : Dispatcher} {a : DispatcherAction} (h : s.WellFormed)
    (hstep : s.step a = some t) : Later s t (arrivals (s.backlogEvents a)) := by
  rcases step_results hstep with ⟨message, rfl, rfl⟩ | ⟨harrived, hevents, hresults⟩
  · have hindex : (s.arrival message).index = s.arrived := rfl
    have harrived := dispatchMessage_arrived message s
    cases dispatchMessage_conserved message h with
    | handed item first futures _ _ _ =>
        have hwaits := beq_iff_eq.mp (List.mem_filter.mp (List.mem_of_find?_eq_some first)).2
        have hevents : arrivals (s.backlogEvents (.dispatch message)) = [] := by
          rw [backlogEvents, first]
          rfl
        constructor
        · omega
        · intro future a hresult
          rw [futures]
          have hne : future ≠ item.future := fun heq => by
            rw [heq, hwaits] at hresult
            exact nomatch hresult
          rwa [Function.update_of_ne hne]
        · intro future a hresult
          rw [futures, update_eq_result_iff] at hresult
          rcases hresult with ⟨-, hhanded⟩ | ⟨-, hold⟩
          · cases hhanded
            exact .inr hindex.ge
          · exact .inl hold
        · rw [hevents]
          exact fun a ha => absurd ha List.not_mem_nil
    | queued unmatched futures _ _ _ =>
        have hevents : arrivals (s.backlogEvents (.dispatch message)) = [s.arrival message] := by
          rw [backlogEvents, unmatched]
          rfl
        constructor
        · omega
        · exact fun future a hresult => futures ▸ hresult
        · exact fun future a hresult => .inl (futures ▸ hresult)
        · rw [hevents]
          intro a ha
          rw [List.mem_singleton.mp ha]
          omega
  · rw [hevents]
    constructor
    · exact harrived.ge
    · exact fun future a => (hresults future a).mpr
    · exact fun future a hresult => .inl ((hresults future a).mp hresult)
    · exact fun a ha => absurd ha List.not_mem_nil

theorem run_later {s t : Dispatcher} {actions : List DispatcherAction} (h : s.WellFormed)
    (hrun : Machine.Run step s actions t) : Later s t (arrivals (s.runBacklogEvents actions)) := by
  induction hrun with
  | nil s => exact Later.refl s
  | cons _ hstep _ ih =>
      rw [runBacklogEvents, hstep, arrivals_append]
      exact (step_later h hstep).trans (ih (h.step hstep))

/-- A dispatched message is in the end with exactly one request, or appended to
the backlog exactly once, and never both. -/
def DeliveredOnce (appended : List Arrival) (self : Dispatcher) (arrival : Arrival) : Prop :=
  (∃! future, self.futures future = some (.result arrival)) ∧ appended.count arrival = 0 ∨
    (∀ future, self.futures future ≠ some (.result arrival)) ∧ appended.count arrival = 1

theorem deliveredOnce_of_run {s u t : Dispatcher} {first second : List DispatcherAction}
    {message : TrpcPacket} (h : s.WellFormed) (hfirst : Machine.Run step s first u)
    (hsecond : Machine.Run step (u.dispatchMessage message) second t) :
    DeliveredOnce (arrivals (s.runBacklogEvents (first ++ .dispatch message :: second))) t
      (u.arrival message) := by
  have hu : u.WellFormed := (run_messageBacklog h hfirst).1
  have hu' : (u.dispatchMessage message).WellFormed := hu.dispatchMessage message
  have hbefore := run_later h hfirst
  have hafter := run_later hu' hsecond
  have hindex : (u.arrival message).index = u.arrived := rfl
  have harrived := dispatchMessage_arrived message u
  have hcount : (arrivals (s.runBacklogEvents (first ++ .dispatch message :: second))).count
      (u.arrival message) =
        (arrivals (u.backlogEvents (.dispatch message))).count (u.arrival message) := by
    have hnotFirst : u.arrival message ∉ arrivals (s.runBacklogEvents first) := fun hmem => by
      have := hbefore.index _ hmem
      omega
    have hnotSecond : u.arrival message ∉
        arrivals ((u.dispatchMessage message).runBacklogEvents second) := fun hmem => by
      have := hafter.index _ hmem
      omega
    rw [runBacklogEvents_append hfirst, runBacklogEvents]
    simp only [Dispatcher.step, arrivals_append, List.count_append,
      List.count_eq_zero_of_not_mem hnotFirst, List.count_eq_zero_of_not_mem hnotSecond,
      Nat.zero_add, Nat.add_zero]
  rw [DeliveredOnce, hcount]
  cases dispatchMessage_conserved message hu with
  | handed item found futures _ _ _ =>
      left
      have hresult : t.futures item.future = some (.result (u.arrival message)) := by
        apply hafter.result
        rw [futures, Function.update_self]
      refine ⟨⟨item.future, hresult, ?_⟩, ?_⟩
      · intro other hother
        exact (run_messageBacklog hu' hsecond).1.result_unique other item.future _ _ hother
          hresult rfl
      · rw [backlogEvents, found]
        rfl
  | queued unmatched futures _ _ _ =>
      right
      constructor
      · intro future hresult
        rcases hafter.result_origin future _ hresult with hold | hlate
        · rw [futures] at hold
          have := hu.result_arrived future _ hold
          omega
        · omega
      · rw [backlogEvents, unmatched]
        exact List.count_singleton_self

/-- Message conservation, for every run from a reachable dispatcher. At each
dispatched message: the first waiting request that accepts it gets it or the
backlog does, the report subscriptions are offered it accordingly, and in the
end it is in exactly one place. The backlog is the one of the reference queue,
in the order of arrival, and a reader gets the message the reference queue loses. -/
theorem messages_conserved {s t : Dispatcher} {actions : List DispatcherAction}
    (hreach : Machine.Reachable step Fresh s) (hrun : Machine.Run step s actions t) :
    (∀ first message second, actions = first ++ .dispatch message :: second →
      ∃ u, Machine.Run step s first u ∧ Machine.Run step (u.dispatchMessage message) second t ∧
        Conserved u message (u.dispatchMessage message) ∧
        DeliveredOnce (arrivals (s.runBacklogEvents actions)) t (u.arrival message)) ∧
    t.messageBacklog =
      replay s.maxMessageBacklog.toNat s.messageBacklog (s.runBacklogEvents actions) ∧
    t.messageBacklog.Pairwise (fun a b => a.index < b.index) ∧
    t.readMessage.1 = (BoundedQueue.read (fun _ => true) t.messageBacklog).1 ∧
    ∀ predicate, (t.readUntil predicate).1 =
      (BoundedQueue.read (fun arrival => predicate arrival.message) t.messageBacklog).1 := by
  have hs : s.WellFormed :=
    hreach.invariant (fun _ => Fresh.wellFormed) fun _ _ _ h hstep => h.step hstep
  obtain ⟨ht, hbacklog⟩ := run_messageBacklog hs hrun
  refine ⟨?_, hbacklog, ht.sorted, (readMessage_eq t).1, fun predicate => (readUntil_eq t predicate).1⟩
  rintro first message second rfl
  obtain ⟨u, u', hfirst, -, hstep, hsecond⟩ := Machine.RunWhere.split hrun
  cases hstep
  exact ⟨u, hfirst, hsecond, dispatchMessage_conserved message (run_messageBacklog hs hfirst).1,
    deliveredOnce_of_run hs hfirst hsecond⟩

/-- A request for a temperature, its response between two reports, and a backlog
that holds one message. -/
def sampleActions : List DispatcherAction :=
  [.register 0 (.forCommand (.request .currentTemperature (addressFields 1011))) false,
    .dispatch { serviceId := 2, methodId := 0x137, body := .ofList [("address", 1011), ("temp", 700)] },
    .dispatch { serviceId := 4, methodId := 0x137, body := .ofList [("address", 1011), ("temp", 710)] },
    .dispatch { serviceId := 2, methodId := 0x117, body := .ofList [("temp", 500)] }]

theorem messages_conserved_sample :
    ∃ t, Machine.Run step { maxMessageBacklog := 1 } sampleActions t ∧
      t.messageBacklog.map Arrival.index = [2] ∧
      ∃! future, t.futures future = some (.result ⟨1,
        { serviceId := 4, methodId := 0x137, body := .ofList [("address", 1011), ("temp", 710)] }⟩) := by
  have hfresh : Fresh { maxMessageBacklog := 1 } := ⟨rfl, fun _ => rfl, rfl, rfl, rfl⟩
  have hrun : ∃ t, Machine.Run step { maxMessageBacklog := 1 } sampleActions t :=
    ⟨_, .cons trivial rfl (.cons trivial rfl (.cons trivial rfl (.cons trivial rfl (.nil _))))⟩
  obtain ⟨t, hrun⟩ := hrun
  obtain ⟨hdispatched, hbacklog, -⟩ := messages_conserved ⟨_, [], hfresh, .nil _⟩ hrun
  refine ⟨t, hrun, ?_, ?_⟩
  · rw [hbacklog]
    decide
  · obtain ⟨u, hfirst, -, -, hdelivered⟩ := hdispatched (sampleActions.take 2) _ _ rfl
    have hu : u.arrived = 1 := by
      cases hfirst with
      | cons _ hstep tail =>
          cases hstep
          cases tail with
          | cons _ hstep tail =>
              cases hstep
              cases tail
              rfl
    rcases hdelivered with ⟨hunique, -⟩ | ⟨-, hcount⟩
    · rwa [arrival, hu] at hunique
    · rw [arrival, hu] at hcount
      exact absurd hcount (by decide)

end Dispatcher

end Tekmar482
