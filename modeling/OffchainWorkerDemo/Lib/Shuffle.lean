/-
# The Fisher–Yates shuffle

`shuffle` swaps the last position with a drawn one, then the one before it, and
so on down to position 1.  Whatever is drawn, the result is a rearrangement.  It stands
for the `shuffle` of the `rand` crate, whose source is not at hand: the order and the
bounds of the draws are those the crate documents, and a proof that needs no more than a
rearrangement uses no more.
-/
import Mathlib.Data.List.Perm.Basic

namespace OffchainWorkerDemo

variable {α ρ : Type}

/-- Exchange two positions of a list. -/
def swapAt (xs : List α) (i j : ℕ) : List α := (xs.toArray.swapIfInBounds i j).toList

theorem swapAt_perm (xs : List α) (i j : ℕ) : (swapAt xs i j).Perm xs := by
  unfold swapAt Array.swapIfInBounds
  split
  · split
    · exact (Array.swap_perm _ _).toList
    · rfl
  -- a position out of bounds swaps nothing
  · rfl

/-- Positions `i, i - 1, …, 1`, each swapped with one drawn at or below it. -/
def shuffleFrom (genIndex : ρ → (i : ℕ) → Fin (i + 1) × ρ) : ℕ → List α → ρ → List α × ρ
  | 0, xs, rng => (xs, rng)
  | i + 1, xs, rng =>
    let (j, rng') := genIndex rng (i + 1)
    shuffleFrom genIndex i (swapAt xs (i + 1) j.val) rng'

/-- `SliceRandom::shuffle`, over any source of bounded indices. -/
def shuffle (genIndex : ρ → (i : ℕ) → Fin (i + 1) × ρ) (xs : List α) (rng : ρ) : List α × ρ :=
  shuffleFrom genIndex (xs.length - 1) xs rng

theorem shuffleFrom_perm (genIndex : ρ → (i : ℕ) → Fin (i + 1) × ρ) (i : ℕ) (xs : List α)
    (rng : ρ) : (shuffleFrom genIndex i xs rng).1.Perm xs := by
  induction i generalizing xs rng with
  | zero => rfl
  | succ i ih =>
    rw [shuffleFrom]
    -- one swap, then the shuffle of the positions below
    exact (ih _ _).trans (swapAt_perm xs _ _)

/-- **A shuffle rearranges its list**, for any draws. -/
theorem shuffle_perm (genIndex : ρ → (i : ℕ) → Fin (i + 1) × ρ) (xs : List α) (rng : ρ) :
    (shuffle genIndex xs rng).1.Perm xs :=
  shuffleFrom_perm genIndex _ xs rng

end OffchainWorkerDemo
