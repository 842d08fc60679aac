/-
# What a counter emits

A machine whose steps may emit a value.  When every value emitted is read off a
counter, which that step then advances, and the other steps leave the counter alone,
a run emits the values of the counter one after another, whatever the steps between
do.  So the values repeat exactly with the period of the counter.
-/
import Mathlib.Data.List.Iterate
import Mathlib.Data.Nat.ModEq
import Mathlib.Dynamics.PeriodicPts.Defs

namespace OffchainWorkerDemo

variable {σ α β γ : Type}

/-- What a run emits, in order. -/
def emissions (step : σ → α → σ) (out : σ → α → Option β) : σ → List α → List β
  | _, [] => []
  | s, a :: as => (out s a).toList ++ emissions step out (step s a) as

/-- The values emitted are those of a counter: a step that emits shows the counter and
advances it, a step that does not leaves it alone. -/
structure Counts (step : σ → α → σ) (out : σ → α → Option β) (counter : σ → γ) (next : γ → γ)
    (reading : γ → β) : Prop where
  emit : ∀ s a b, out s a = some b →
    b = reading (counter s) ∧ counter (step s a) = next (counter s)
  idle : ∀ s a, out s a = none → counter (step s a) = counter s

namespace Counts

variable {step : σ → α → σ} {out : σ → α → Option β} {counter : σ → γ} {next : γ → γ}
  {reading : γ → β}

/-- **A run emits the counter's values one after another.** -/
theorem emissions_eq (h : Counts step out counter next reading) (s : σ) (as : List α) :
    emissions step out s as =
      (List.iterate next (counter s) (emissions step out s as).length).map reading := by
  induction as generalizing s with
  | nil => rfl
  | cons a as ih =>
    rcases hout : out s a with _ | b
    · -- an idle step neither emits nor counts
      have hskip : emissions step out s (a :: as) = emissions step out (step s a) as := by
        rw [emissions, hout]
        rfl
      rw [hskip, ← h.idle s a hout]
      exact ih (step s a)
    · have hemit : emissions step out s (a :: as) = b :: emissions step out (step s a) as := by
        rw [emissions, hout]
        rfl
      obtain ⟨hb, hnext⟩ := h.emit s a b hout
      rw [hemit, List.length_cons, List.iterate, List.map_cons, ← hb, ← hnext, ← ih (step s a)]

/-- The counter has advanced once for every value emitted. -/
theorem counter_foldl (h : Counts step out counter next reading) (s : σ) (as : List α) :
    counter (as.foldl step s) = next^[(emissions step out s as).length] (counter s) := by
  induction as generalizing s with
  | nil => rfl
  | cons a as ih =>
    rw [List.foldl_cons, ih (step s a), emissions, List.length_append]
    rcases hout : out s a with _ | b
    · rw [h.idle s a hout, Option.toList_none, List.length_nil, Nat.zero_add]
    · rw [(h.emit s a b hout).2, ← Function.iterate_succ_apply, Option.toList_some,
        List.length_singleton, Nat.add_comm]

/-- The value at a position of a run. -/
theorem getElem_emissions (h : Counts step out counter next reading) (s : σ) (as : List α) {i : ℕ}
    (hi : i < (emissions step out s as).length) :
    (emissions step out s as)[i] = reading (next^[i] (counter s)) := by
  rw [List.getElem_eq_iff, h.emissions_eq s as, List.getElem?_map,
    List.getElem?_iterate _ _ _ _ hi]
  rfl

/-- **Two emitted values are equal** exactly when the period divides the distance between them. -/
theorem getElem_eq_getElem_iff (h : Counts step out counter next reading)
    (hreading : Function.Injective reading) {s : σ}
    (hperiodic : counter s ∈ Function.periodicPts next) {as : List α} {i j : ℕ}
    (hi : i < (emissions step out s as).length) (hj : j < (emissions step out s as).length) :
    (emissions step out s as)[i] = (emissions step out s as)[j] ↔
      i ≡ j [MOD Function.minimalPeriod next (counter s)] := by
  have hpos := Function.minimalPeriod_pos_of_mem_periodicPts hperiodic
  rw [h.getElem_emissions s as hi, h.getElem_emissions s as hj, hreading.eq_iff,
    ← Function.iterate_mod_minimalPeriod_eq (n := i),
    ← Function.iterate_mod_minimalPeriod_eq (n := j)]
  exact Function.iterate_eq_iterate_iff_of_lt_minimalPeriod (Nat.mod_lt i hpos) (Nat.mod_lt j hpos)

/-- **No value is emitted twice** within one period. -/
theorem nodup_emissions (h : Counts step out counter next reading)
    (hreading : Function.Injective reading) {s : σ}
    (hperiodic : counter s ∈ Function.periodicPts next) {as : List α}
    (hlen : (emissions step out s as).length ≤ Function.minimalPeriod next (counter s)) :
    (emissions step out s as).Nodup := by
  rw [List.nodup_iff_injective_get]
  intro i j hij
  have hmod := (h.getElem_eq_getElem_iff hreading hperiodic i.isLt j.isLt).mp hij
  exact Fin.ext (hmod.eq_of_lt_of_lt (i.isLt.trans_le hlen) (j.isLt.trans_le hlen))

/-- **The values recur** after one period. -/
theorem getElem?_add_period (h : Counts step out counter next reading) {s : σ} {as : List α} {k : ℕ}
    (hk : k + Function.minimalPeriod next (counter s) < (emissions step out s as).length) :
    (emissions step out s as)[k + Function.minimalPeriod next (counter s)]? =
      (emissions step out s as)[k]? := by
  have hlt : k < (emissions step out s as).length := by omega
  rw [List.getElem?_eq_getElem hk, List.getElem?_eq_getElem hlt, h.getElem_emissions s as hk,
    h.getElem_emissions s as hlt, Function.iterate_add_minimalPeriod_eq]

end Counts

end OffchainWorkerDemo
