import Mathlib.Data.List.Basic

/-!
# The last written value

A cell of a state is a last-writer-wins register over a list of events when
every event either writes the cell or leaves it. After a run, the cell holds the
value of the last event that writes it, or its initial value.
-/

namespace LastValue

variable {ε β σ : Type*}

/-- The value of the last event that writes, or the initial value. -/
def lastValue (write : ε → Option β) (events : List ε) (init : β) : β :=
  (events.filterMap write).getLast?.getD init

@[simp] theorem lastValue_nil (write : ε → Option β) (init : β) :
    lastValue write [] init = init := rfl

theorem lastValue_append (write : ε → Option β) (first second : List ε) (init : β) :
    lastValue write (first ++ second) init =
      lastValue write second (lastValue write first init) := by
  simp only [lastValue, List.filterMap_append, List.getLast?_append]
  cases (second.filterMap write).getLast? <;> rfl

theorem lastValue_singleton (write : ε → Option β) (e : ε) (init : β) :
    lastValue write [e] init = (write e).getD init := by
  cases h : write e <;> simp [lastValue, h]

theorem lastValue_concat (write : ε → Option β) (events : List ε) (e : ε) (init : β) :
    lastValue write (events ++ [e]) init = (write e).getD (lastValue write events init) := by
  rw [lastValue_append, lastValue_singleton]

theorem lastValue_cons (write : ε → Option β) (e : ε) (events : List ε) (init : β) :
    lastValue write (e :: events) init = lastValue write events ((write e).getD init) := by
  rw [← List.singleton_append, lastValue_append, lastValue_singleton]

/-- A run whose steps write the cell or leave it ends with the last written
value, as long as an invariant of the run holds and its events are admissible. -/
theorem cell_foldl {step : σ → ε → σ} {cell : σ → β} {write : ε → Option β}
    (inv : σ → Prop) (admissible : ε → Prop)
    (hinv : ∀ s e, inv s → admissible e → inv (step s e))
    (hcell : ∀ s e, inv s → admissible e → cell (step s e) = (write e).getD (cell s))
    (events : List ε) (hevents : ∀ e ∈ events, admissible e) (s : σ) (hs : inv s) :
    cell (events.foldl step s) = lastValue write events (cell s) := by
  induction events generalizing s with
  | nil => rfl
  | cons e rest ih =>
      have hfirst := hevents e List.mem_cons_self
      have hrest : ∀ e' ∈ rest, admissible e' := fun e' he' =>
        hevents e' (List.mem_cons_of_mem e he')
      rw [List.foldl_cons, ih hrest _ (hinv s e hs hfirst), hcell s e hs hfirst,
        lastValue_cons]

/-- An invariant of every admissible step holds after a run. -/
theorem inv_foldl {step : σ → ε → σ} (inv : σ → Prop) (admissible : ε → Prop)
    (hinv : ∀ s e, inv s → admissible e → inv (step s e))
    (events : List ε) (hevents : ∀ e ∈ events, admissible e) (s : σ) (hs : inv s) :
    inv (events.foldl step s) := by
  induction events generalizing s with
  | nil => exact hs
  | cons e rest ih =>
      exact ih (fun e' he' => hevents e' (List.mem_cons_of_mem e he')) _
        (hinv s e hs (hevents e List.mem_cons_self))

/-! ## Events with their history -/

/-- Each event with the events before it, of which `before` came first. -/
def withHistory (before : List ε) : List ε → List (List ε × ε)
  | [] => []
  | e :: rest => (before, e) :: withHistory (before ++ [e]) rest

theorem withHistory_append (before first second : List ε) :
    withHistory before (first ++ second) =
      withHistory before first ++ withHistory (before ++ first) second := by
  induction first generalizing before with
  | nil => rw [List.append_nil]; rfl
  | cons e rest ih =>
      simp only [List.cons_append, withHistory, ih, List.append_assoc, List.nil_append]

theorem withHistory_concat (before events : List ε) (e : ε) :
    withHistory before (events ++ [e]) =
      withHistory before events ++ [(before ++ events, e)] :=
  withHistory_append before events [e]

/-- A value that the last event writes may depend on the events before it. -/
theorem lastValue_withHistory_concat (write : List ε × ε → Option β) (events : List ε) (e : ε)
    (init : β) : lastValue write (withHistory [] (events ++ [e])) init =
      (write (events, e)).getD (lastValue write (withHistory [] events) init) := by
  rw [withHistory_concat, List.nil_append, lastValue_concat]

end LastValue
