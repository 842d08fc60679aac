/-
# Actions that an observer does not see

A machine applies actions one after another and shows something at each of them.  An
observer owns some of the actions and sees a part of the state.  If the actions of
the others leave that part alone, and an action of the observer shows and does the
same in states that look alike, then the observer cannot tell a run from the run in
which the actions of the others never happened.
-/
import Mathlib.Data.List.Basic

namespace OffchainWorkerDemo

namespace Unwinding

variable {σ α β : Type}

/-- What the kept actions of a run show, in their order. -/
def outputs (step : σ → α → σ) (out : σ → α → β) (keep : α → Prop) [DecidablePred keep] :
    σ → List α → List β
  | _, [] => []
  | s, a :: as =>
    if keep a then out s a :: outputs step out keep (step s a) as
    else outputs step out keep (step s a) as

/-- The three conditions on single actions, for the actions that are allowed and an observer
who owns those kept and sees `view` of the state. -/
structure Unwinds {ν : Type} (step : σ → α → σ) (out : σ → α → β) (allowed keep : α → Prop)
    (view : σ → ν) : Prop where
  /-- The actions of the others are not seen. -/
  hidden : ∀ s a, allowed a → ¬ keep a → view (step s a) = view s
  /-- What an action of the observer does to the view depends on the view. -/
  stepped : ∀ s t a, allowed a → keep a → view s = view t → view (step s a) = view (step t a)
  /-- What it shows depends on the view. -/
  shown : ∀ s t a, allowed a → keep a → view s = view t → out s a = out t a

/-- **Deleting the actions of the others changes nothing the observer sees**: from states that
look alike, the run and what is left of it show the same at the observer's actions, and lead to
states that look alike. -/
theorem Unwinds.filter {ν : Type} {step : σ → α → σ} {out : σ → α → β} {allowed keep : α → Prop}
    [DecidablePred keep] {view : σ → ν} (h : Unwinds step out allowed keep view) {as : List α}
    (hallowed : ∀ a ∈ as, allowed a) {s t : σ} (halike : view s = view t) :
    outputs step out keep s as = outputs step out keep t (as.filter keep) ∧
      view (as.foldl step s) = view ((as.filter keep).foldl step t) := by
  induction as generalizing s t with
  | nil => exact ⟨rfl, halike⟩
  | cons a as ih =>
    obtain ⟨ha, has⟩ := List.forall_mem_cons.mp hallowed
    by_cases hkeep : keep a
    · -- both runs take the step
      obtain ⟨houtputs, hview⟩ := ih has (h.stepped s t a ha hkeep halike)
      rw [List.filter_cons_of_pos (by simpa using hkeep), outputs, if_pos hkeep, outputs,
        if_pos hkeep, h.shown s t a ha hkeep halike, houtputs]
      exact ⟨rfl, hview⟩
    · -- only the first run takes it, and its state looks as before
      have hstill : view (step s a) = view t := (h.hidden s a ha hkeep).trans halike
      obtain ⟨houtputs, hview⟩ := ih has hstill
      rw [List.filter_cons_of_neg (by simpa using hkeep), outputs, if_neg hkeep]
      exact ⟨houtputs, hview⟩

end Unwinding

end OffchainWorkerDemo
