import Mathlib.Data.List.Basic

/-!
# Runs seen through a projection

A cell of a state belongs to a stream of events when the events of the stream act
on it alone and all others leave it. A run then shows in the cell as the run of
its stream does, however the other events are interleaved with it.
-/

namespace Projection

variable {σ ε β : Type*}

/-- In the states of an invariant, the events of `stream` act on the cell, and the
others leave it. -/
structure Stream (inv : σ → Prop) (step : σ → ε → σ) (cell : σ → β) (stream : ε → Bool) :
    Prop where
  keep : ∀ s e, inv s → inv (step s e)
  skip : ∀ s e, inv s → stream e = false → cell (step s e) = cell s
  act : ∀ s t e, inv s → inv t → stream e = true → cell s = cell t →
    cell (step s e) = cell (step t e)

variable {inv : σ → Prop} {step : σ → ε → σ} {cell : σ → β} {stream : ε → Bool}

/-- The events outside the stream can be dropped from a run. -/
theorem Stream.foldl_filter (h : Stream inv step cell stream) (events : List ε) {s t : σ}
    (hs : inv s) (ht : inv t) (hcell : cell s = cell t) :
    cell (events.foldl step s) = cell ((events.filter stream).foldl step t) := by
  induction events generalizing s t with
  | nil => exact hcell
  | cons e rest ih =>
      cases hstream : stream e with
      | false =>
          rw [List.filter_cons_of_neg (by simp [hstream])]
          exact ih (h.keep s e hs) ht ((h.skip s e hs hstream).trans hcell)
      | true =>
          rw [List.filter_cons_of_pos hstream]
          exact ih (h.keep s e hs) (h.keep t e ht) (h.act s t e hs ht hstream hcell)

/-- Two runs with one stream end with the same cell. -/
theorem Stream.foldl_congr (h : Stream inv step cell stream) {first second : List ε}
    (heq : first.filter stream = second.filter stream) {s : σ} (hs : inv s) :
    cell (first.foldl step s) = cell (second.foldl step s) :=
  calc cell (first.foldl step s)
      = cell ((first.filter stream).foldl step s) := h.foldl_filter first hs hs rfl
    _ = cell ((second.filter stream).foldl step s) := by rw [heq]
    _ = cell (second.foldl step s) := (h.foldl_filter second hs hs rfl).symm

end Projection
