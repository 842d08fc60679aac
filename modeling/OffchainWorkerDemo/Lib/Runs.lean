/-
# Runs of a total machine

A machine that can always take a step is run by folding its step function over the
actions.  `Along` states a property of every step of a run, each in the state the step
is taken in; two such properties agree on a run if they agree on single steps.  A cell
that the steps overwrite holds the last value written.
-/
import Mathlib.Data.List.Basic

namespace OffchainWorkerDemo

namespace Runs

variable {σ α : Type} (step : σ → α → σ)

/-- `P` holds of every step of the run, in the state it is taken in. -/
def Along (P : σ → α → Prop) : σ → List α → Prop
  | _, [] => True
  | s, a :: as => P s a ∧ Along P (step s a) as

variable {step} {P Q : σ → α → Prop} {Inv : σ → Prop}

/-- A step of a run is taken in the state the steps before it lead to. -/
theorem along_iff_forall {s : σ} {as : List α} :
    Along step P s as ↔ ∀ pre a post, as = pre ++ a :: post → P (pre.foldl step s) a := by
  induction as generalizing s with
  | nil =>
    refine iff_of_true trivial ?_
    intro pre a post h
    simp at h
  | cons b as ih =>
    rw [Along, ih]
    constructor
    · rintro ⟨hb, has⟩ pre a post h
      rcases pre with _ | ⟨c, pre⟩
      · obtain ⟨rfl, rfl⟩ := List.cons.inj h
        exact hb
      · obtain ⟨rfl, htail⟩ := List.cons.inj h
        exact has pre a post htail
    · intro h
      exact ⟨h [] b as rfl, fun pre a post hpre => h (b :: pre) a post (by rw [hpre]; rfl)⟩

/-- **Two properties of steps agree on runs** if they agree on the steps from the states that
satisfy an invariant, and the steps with the property keep the invariant. -/
theorem along_congr (hiff : ∀ s a, Inv s → (P s a ↔ Q s a))
    (hinv : ∀ s a, Inv s → P s a → Inv (step s a)) {s : σ} (hs : Inv s) (as : List α) :
    Along step P s as ↔ Along step Q s as := by
  induction as generalizing s with
  | nil => exact Iff.rfl
  | cons a as ih =>
    rw [Along, Along, hiff s a hs]
    refine and_congr_right fun ha => ?_
    exact ih (hinv s a hs ((hiff s a hs).mpr ha))

/-- An invariant of all steps holds at the end of a run. -/
theorem invariant (hinv : ∀ s a, Inv s → Inv (step s a)) {s : σ} (hs : Inv s) (as : List α) :
    Inv (as.foldl step s) :=
  List.foldlRecOn as step hs fun s hs a _ => hinv s a hs

/-- **What holds at the end and not at the start** was brought about by some step. -/
theorem exists_step {P : σ → Prop} {s : σ} (hs : ¬ P s) {as : List α} (h : P (as.foldl step s)) :
    ∃ pre a post, as = pre ++ a :: post ∧ ¬ P (pre.foldl step s) ∧
      P (step (pre.foldl step s) a) := by
  induction as generalizing s with
  | nil => exact absurd h hs
  | cons a as ih =>
    by_cases ha : P (step s a)
    · exact ⟨[], a, as, rfl, hs, ha⟩
    · obtain ⟨pre, b, post, rfl, hpre, hb⟩ := ih ha h
      exact ⟨a :: pre, b, post, rfl, hpre, hb⟩

/-- **The last write stays**: a cell that every step either overwrites or leaves alone holds the
last value written, or what it held before the run. -/
theorem last_write {β : Type} (cell : σ → Option β) (write : α → Option β)
    (h : ∀ s a, cell (step s a) = (write a).or (cell s)) (s : σ) (as : List α) :
    cell (as.foldl step s) = (as.filterMap write).getLast?.or (cell s) := by
  induction as generalizing s with
  | nil => rfl
  | cons a as ih =>
    rw [List.foldl_cons, ih, h]
    rcases hwrite : write a with _ | b
    · rw [List.filterMap_cons_none hwrite, Option.none_or]
    · rw [List.filterMap_cons_some hwrite, ← List.singleton_append, List.getLast?_append,
        Option.or_assoc]
      rfl

/-! ## Charges -/

/-- What the steps of a run are charged, each in the state it is taken in. -/
def total (step : σ → α → σ) (charge : σ → α → ℕ) : σ → List α → ℕ
  | _, [] => 0
  | s, a :: as => charge s a + total step charge (step s a) as

variable {charge : σ → α → ℕ}

theorem total_append (s : σ) (as bs : List α) :
    total step charge s (as ++ bs) =
      total step charge s as + total step charge (as.foldl step s) bs := by
  induction as generalizing s with
  | nil => exact (Nat.zero_add _).symm
  | cons a as ih =>
    rw [List.cons_append, total, total, ih, List.foldl_cons]
    omega

theorem total_concat (s : σ) (as : List α) (a : α) :
    total step charge s (as ++ [a]) = total step charge s as + charge (as.foldl step s) a :=
  total_append s as [a]

/-- A longer run is charged more. -/
theorem total_mono (s : σ) {as bs : List α} (h : as <+: bs) :
    total step charge s as ≤ total step charge s bs := by
  obtain ⟨cs, rfl⟩ := h
  rw [total_append]
  omega

/-- Smaller charges make a smaller total. -/
theorem total_le_total {charge' : σ → α → ℕ} (h : ∀ s a, charge s a ≤ charge' s a) (s : σ)
    (as : List α) : total step charge s as ≤ total step charge' s as := by
  induction as generalizing s with
  | nil => exact Nat.le_refl 0
  | cons a as ih => exact Nat.add_le_add (h s a) (ih (step s a))

/-- A run is charged as many times the most a step is charged as it has steps that are. -/
theorem total_le_mul_countP {k : ℕ} {p : α → Bool} (h : ∀ s a, charge s a ≤ if p a then k else 0)
    (s : σ) (as : List α) : total step charge s as ≤ k * as.countP p := by
  induction as generalizing s with
  | nil => exact Nat.zero_le _
  | cons a as ih =>
    have ha := h s a
    have has := ih (step s a)
    rw [total, List.countP_cons, Nat.mul_add]
    split at ha
    · rename_i hp
      rw [if_pos hp]
      omega
    · rename_i hp
      rw [if_neg hp]
      omega

end Runs

end OffchainWorkerDemo
