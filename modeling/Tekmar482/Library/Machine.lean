import Mathlib.Tactic.TypeStar

/-!
# Runs of a state machine

A machine is a partial step function: an action that is not enabled has no next
state. A run lists the actions taken, and `RunWhere` asks a condition of every
step of the run.
-/

namespace Machine

variable {σ α : Type*} (step : σ → α → Option σ)

/-- The runs whose steps all meet a condition on the state and the action. -/
inductive RunWhere (allowed : σ → α → Prop) : σ → List α → σ → Prop
  | nil (s : σ) : RunWhere allowed s [] s
  | cons {s t u : σ} {a : α} {rest : List α} (hallowed : allowed s a) (hstep : step s a = some t)
      (tail : RunWhere allowed t rest u) : RunWhere allowed s (a :: rest) u

/-- The runs of a machine. -/
abbrev Run : σ → List α → σ → Prop := RunWhere step fun _ _ => True

/-- A state that a run from an initial state ends in. -/
def Reachable (init : σ → Prop) (s : σ) : Prop := ∃ start actions, init start ∧ Run step start actions s

variable {step} {allowed : σ → α → Prop}

variable (step) in
/-- The state after a list of actions, if all of them are enabled. -/
def exec : σ → List α → Option σ
  | s, [] => some s
  | s, a :: rest => (step s a).bind fun t => exec t rest

/-- Running is executing. -/
theorem run_iff_exec {s t : σ} {actions : List α} :
    Run step s actions t ↔ exec step s actions = some t := by
  constructor
  · intro h
    induction h with
    | nil s => rfl
    | cons _ hstep _ ih => rw [exec, hstep, Option.bind_some, ih]
  · intro h
    induction actions generalizing s with
    | nil =>
        cases h
        exact .nil _
    | cons a rest ih =>
        obtain ⟨u, hstep, hrest⟩ := Option.bind_eq_some_iff.mp h
        exact .cons trivial hstep (ih hrest)

variable (step allowed) in
/-- The state after a list of actions, if all of them are enabled and allowed. -/
def execWhere [∀ s a, Decidable (allowed s a)] : σ → List α → Option σ
  | s, [] => some s
  | s, a :: rest => if allowed s a then (step s a).bind fun t => execWhere t rest else none

/-- A run can be found by executing it. -/
theorem runWhere_of_execWhere [∀ s a, Decidable (allowed s a)] {s t : σ} {actions : List α}
    (h : execWhere step allowed s actions = some t) : RunWhere step allowed s actions t := by
  induction actions generalizing s with
  | nil =>
      cases h
      exact .nil _
  | cons a rest ih =>
      rw [execWhere] at h
      split at h
      · rename_i hallowed
        obtain ⟨u, hstep, hrest⟩ := Option.bind_eq_some_iff.mp h
        exact .cons hallowed hstep (ih hrest)
      · cases h

/-- A condition on the actions alone holds of every step if it holds of the
actions of the run. -/
theorem RunWhere.of_mem {s t : σ} {actions : List α} (h : Run step s actions t)
    (hallowed : ∀ a ∈ actions, ∀ s, allowed s a) : RunWhere step allowed s actions t := by
  induction h with
  | nil s => exact .nil s
  | cons _ hstep _ ih =>
      refine .cons (hallowed _ List.mem_cons_self _) hstep (ih ?_)
      exact fun a hmem => hallowed a (List.mem_cons_of_mem _ hmem)

/-- A weaker condition allows the same runs. -/
theorem RunWhere.mono {weaker : σ → α → Prop} (hweaker : ∀ s a, allowed s a → weaker s a)
    {s t : σ} {actions : List α} (h : RunWhere step allowed s actions t) :
    RunWhere step weaker s actions t := by
  induction h with
  | nil s => exact .nil s
  | cons hallowed hstep _ ih => exact .cons (hweaker _ _ hallowed) hstep ih

/-- Every step of a run takes one of its actions. -/
theorem RunWhere.with_mem {s t : σ} {actions : List α} (h : RunWhere step allowed s actions t) :
    RunWhere step (fun s a => allowed s a ∧ a ∈ actions) s actions t := by
  induction h with
  | nil s => exact .nil s
  | cons hallowed hstep _ ih =>
      refine .cons ⟨hallowed, List.mem_cons_self⟩ hstep (ih.mono ?_)
      exact fun _ _ h => ⟨h.1, List.mem_cons_of_mem _ h.2⟩

theorem RunWhere.append {s t u : σ} {first second : List α}
    (h : RunWhere step allowed s first t) (h' : RunWhere step allowed t second u) :
    RunWhere step allowed s (first ++ second) u := by
  induction h with
  | nil s => exact h'
  | cons hallowed hstep _ ih => exact .cons hallowed hstep (ih h')

/-- A run of two lists is a run of the first, and one of the second from there. -/
theorem RunWhere.of_append {s u : σ} {first second : List α}
    (h : RunWhere step allowed s (first ++ second) u) :
    ∃ t, RunWhere step allowed s first t ∧ RunWhere step allowed t second u := by
  induction first generalizing s with
  | nil => exact ⟨s, .nil s, h⟩
  | cons a rest ih =>
      cases h with
      | cons hallowed hstep tail =>
          obtain ⟨t, hfirst, hsecond⟩ := ih tail
          exact ⟨t, .cons hallowed hstep hfirst, hsecond⟩

/-- A run is a run up to any of its actions, that step, and a run from there. -/
theorem RunWhere.split {s u : σ} {first second : List α} {a : α}
    (h : RunWhere step allowed s (first ++ a :: second) u) :
    ∃ t t', RunWhere step allowed s first t ∧ allowed t a ∧ step t a = some t' ∧
      RunWhere step allowed t' second u := by
  obtain ⟨t, hfirst, hsecond⟩ := h.of_append
  cases hsecond with
  | cons hallowed hstep tail => exact ⟨t, _, hfirst, hallowed, hstep, tail⟩

/-- The invariant rule: what every step preserves holds after a run. -/
theorem RunWhere.invariant {inv : σ → Prop}
    (hpreserve : ∀ s a t, inv s → allowed s a → step s a = some t → inv t)
    {s t : σ} {actions : List α} (h : RunWhere step allowed s actions t) (hs : inv s) : inv t := by
  induction h with
  | nil s => exact hs
  | cons hallowed hstep _ ih => exact ih (hpreserve _ _ _ hs hallowed hstep)

/-- The termination rule: steps that lower a rank are no more than the rank. -/
theorem RunWhere.length_le_rank {inv : σ → Prop} {rank : σ → Nat}
    (hdecrease : ∀ s a t, inv s → allowed s a → step s a = some t → inv t ∧ rank t < rank s)
    {s t : σ} {actions : List α} (h : RunWhere step allowed s actions t) (hs : inv s) :
    actions.length + rank t ≤ rank s := by
  induction h with
  | nil s => simp
  | cons hallowed hstep _ ih =>
      obtain ⟨hinv, hlt⟩ := hdecrease _ _ _ hs hallowed hstep
      have hrest := ih hinv
      rw [List.length_cons]
      omega

/-- The invariant rule for reachable states. -/
theorem Reachable.invariant {init inv : σ → Prop} (hinit : ∀ s, init s → inv s)
    (hpreserve : ∀ s a t, inv s → step s a = some t → inv t) {s : σ}
    (h : Reachable step init s) : inv s := by
  obtain ⟨start, actions, hstart, hrun⟩ := h
  exact hrun.invariant (fun s a t hs _ => hpreserve s a t hs) (hinit start hstart)

end Machine
