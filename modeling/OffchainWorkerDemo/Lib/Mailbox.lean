/-
# A mailbox with one place

Letters are posted into a single cell, each replacing the one before it.  A worker
looks at the cell, acquires a lock, clears the cell, works on the letter it saw and
releases the lock.  Since it looks before it acquires, the letter it clears need
not be the one it works on; `ownLetters_iff` says that it is exactly when nothing
was posted or cleared in between.
-/
import Mathlib.Data.List.Induction
import Mathlib.Data.List.Nodup
import Mathlib.Logic.Function.Basic

namespace OffchainWorkerDemo

namespace Mailbox

variable {W M V : Type}

/-! ## The machine -/

/-- Where a worker is, with the letter it saw. -/
inductive Stage (M : Type) : Type where
  | idle
  | seen (m : M)
  | acquired (m : M)
  | cleared (m : M)
  | worked
  deriving DecidableEq

/-- Another kind of letters at the same place. -/
def Stage.map {N : Type} (f : M → N) : Stage M → Stage N
  | .idle => .idle
  | .seen m => .seen (f m)
  | .acquired m => .acquired (f m)
  | .cleared m => .cleared (f m)
  | .worked => .worked

section Map

variable {N : Type} {f : M → N} {stage : Stage M} {n : N}

theorem Stage.map_eq_idle_iff : stage.map f = .idle ↔ stage = .idle := by
  cases stage <;> simp [Stage.map]

theorem Stage.map_eq_seen_iff : stage.map f = .seen n ↔ ∃ m, stage = .seen m ∧ f m = n := by
  cases stage <;> simp [Stage.map]

theorem Stage.map_eq_acquired_iff :
    stage.map f = .acquired n ↔ ∃ m, stage = .acquired m ∧ f m = n := by
  cases stage <;> simp [Stage.map]

theorem Stage.map_eq_cleared_iff :
    stage.map f = .cleared n ↔ ∃ m, stage = .cleared m ∧ f m = n := by
  cases stage <;> simp [Stage.map]

theorem Stage.map_eq_worked_iff : stage.map f = .worked ↔ stage = .worked := by
  cases stage <;> simp [Stage.map]

end Map

/-- The letter a worker has seen and may still clear the cell for. -/
def Stage.pending : Stage M → Option M
  | .seen m | .acquired m => some m
  | _ => none

/-- The letter a worker has, until it has worked on it. -/
def Stage.letter : Stage M → Option M
  | .seen m | .acquired m | .cleared m => some m
  | _ => none

/-- What happens: a letter is posted, or a worker takes its next step. -/
inductive Action (W V : Type) : Type where
  | post (v : V)
  | look (w : W)
  | acquire (w : W)
  | clear (w : W)
  | work (w : W)
  | release (w : W)
  deriving DecidableEq

/-- A letter: its number, in the order of posting, and what it says. -/
abbrev Letter (V : Type) := ℕ × V

/-- The cell and the lock, where the workers are, and what was done so far: the number of
letters posted, for each clearing the letter it was made for and the one it removed, and the
letters worked on. -/
structure State (W V : Type) where
  cell : Option (Letter V)
  locked : Bool
  stage : W → Stage (Letter V)
  posted : ℕ
  cleared : List (Letter V × Option (Letter V))
  worked : List (Letter V)

/-- Nothing posted, nobody at work. -/
def State.start (W V : Type) : State W V where
  cell := none
  locked := false
  stage := fun _ => .idle
  posted := 0
  cleared := []
  worked := []

variable [DecidableEq W]

/-- A worker moves on. -/
def State.goto (s : State W V) (w : W) (stage : Stage (Letter V)) : State W V :=
  { s with stage := Function.update s.stage w stage }

section Goto

variable (s : State W V) (w : W) (stage : Stage (Letter V))

@[simp] theorem goto_cell : (s.goto w stage).cell = s.cell := rfl

@[simp] theorem goto_locked : (s.goto w stage).locked = s.locked := rfl

@[simp] theorem goto_posted : (s.goto w stage).posted = s.posted := rfl

@[simp] theorem goto_cleared : (s.goto w stage).cleared = s.cleared := rfl

@[simp] theorem goto_worked : (s.goto w stage).worked = s.worked := rfl

@[simp] theorem goto_stage_self : (s.goto w stage).stage w = stage := Function.update_self ..

theorem goto_stage_of_ne {w' : W} (h : w' ≠ w) : (s.goto w stage).stage w' = s.stage w' :=
  Function.update_of_ne h ..

end Goto

/-- One action, where it can happen. -/
def step (s : State W V) : Action W V → Option (State W V)
  | .post v => some { s with cell := some (s.posted, v), posted := s.posted + 1 }
  | .look w =>
    match s.stage w with
    | .idle => match s.cell with
      | some m => some (s.goto w (.seen m))
      | none => some s
    | _ => none
  | .acquire w =>
    match s.stage w with
    | .seen m => if s.locked then some (s.goto w .idle)
      else some { s.goto w (.acquired m) with locked := true }
    | _ => none
  | .clear w =>
    match s.stage w with
    | .acquired m => some
      { s.goto w (.cleared m) with cell := none, cleared := s.cleared ++ [(m, s.cell)] }
    | _ => none
  | .work w =>
    match s.stage w with
    | .cleared m => some { s.goto w .worked with worked := s.worked ++ [m] }
    | _ => none
  | .release w =>
    match s.stage w with
    | .worked => some { s.goto w .idle with locked := false }
    | _ => none

/-- The steps that can happen, each with its guard. -/
inductive Moves (s : State W V) : Action W V → State W V → Prop
  | post (v : V) :
    Moves s (.post v) { s with cell := some (s.posted, v), posted := s.posted + 1 }
  | lookNone {w : W} (hw : s.stage w = .idle) (hcell : s.cell = none) : Moves s (.look w) s
  | look {w : W} {m : Letter V} (hw : s.stage w = .idle) (hcell : s.cell = some m) :
    Moves s (.look w) (s.goto w (.seen m))
  | giveUp {w : W} {m : Letter V} (hw : s.stage w = .seen m) (hlocked : s.locked = true) :
    Moves s (.acquire w) (s.goto w .idle)
  | acquire {w : W} {m : Letter V} (hw : s.stage w = .seen m) (hlocked : s.locked = false) :
    Moves s (.acquire w) { s.goto w (.acquired m) with locked := true }
  | clear {w : W} {m : Letter V} (hw : s.stage w = .acquired m) :
    Moves s (.clear w)
      { s.goto w (.cleared m) with cell := none, cleared := s.cleared ++ [(m, s.cell)] }
  | work {w : W} {m : Letter V} (hw : s.stage w = .cleared m) :
    Moves s (.work w) { s.goto w .worked with worked := s.worked ++ [m] }
  | release {w : W} (hw : s.stage w = .worked) :
    Moves s (.release w) { s.goto w .idle with locked := false }

/-- **What an action can do**: one of these. -/
theorem moves_of_step {s s' : State W V} {a : Action W V} (h : step s a = some s') :
    Moves s a s' := by
  rcases a with v | w | w | w | w | w
  · cases h
    exact .post v
  · simp only [step] at h
    split at h
    · rename_i hw
      split at h
      · rename_i m hcell
        cases h
        exact .look hw hcell
      · rename_i hcell
        cases h
        exact .lookNone hw hcell
    · cases h
  · simp only [step] at h
    split at h
    · rename_i m hw
      split at h
      · rename_i hlocked
        cases h
        exact .giveUp hw hlocked
      · rename_i hlocked
        cases h
        exact .acquire hw (Bool.eq_false_iff.mpr hlocked)
    · cases h
  · simp only [step] at h
    split at h
    · rename_i m hw
      cases h
      exact .clear hw
    · cases h
  · simp only [step] at h
    split at h
    · rename_i m hw
      cases h
      exact .work hw
    · cases h
  · simp only [step] at h
    split at h
    · rename_i hw
      cases h
      exact .release hw
    · cases h

/-- Actions one after another. -/
def runFrom (s : State W V) (as : List (Action W V)) : Option (State W V) :=
  as.foldlM step s

/-- Actions one after another, from the start. -/
def run (as : List (Action W V)) : Option (State W V) := runFrom (State.start W V) as

theorem run_concat {as : List (Action W V)} {a : Action W V} {s' : State W V} :
    run (as ++ [a]) = some s' ↔ ∃ s, run as = some s ∧ step s a = some s' := by
  simp [run, runFrom, List.foldlM_append, Option.bind_eq_some_iff]

/-- **Invariants of the mailbox** hold in every state a run reaches, if they hold at the start
and every step keeps them. -/
theorem run_induction (P : List (Action W V) → State W V → Prop)
    (hstart : P [] (State.start W V))
    (hstep : ∀ as s a s', run as = some s → P as s → Moves s a s' → P (as ++ [a]) s') :
    ∀ as s, run as = some s → P as s := by
  intro as
  induction as using List.reverseRecOn with
  | nil =>
    intro s hs
    cases hs
    exact hstart
  | append_singleton as a ih =>
    intro s' hs'
    obtain ⟨s, hs, ha⟩ := run_concat.mp hs'
    exact hstep as s a s' hs (ih s hs) (moves_of_step ha)

/-! ## Letters keep their numbers -/

/-- The letters clearings removed. -/
def State.removed (s : State W V) : List (Letter V) := s.cleared.filterMap Prod.snd

/-- No letter is removed twice or removed and still there, and every letter in sight has
been posted. -/
structure Numbered (s : State W V) : Prop where
  nodup : ((s.cell.toList ++ s.removed).map Prod.fst).Nodup
  lt : ∀ m ∈ s.cell.toList ++ s.removed, m.1 < s.posted
  pending : ∀ w m, (s.stage w).pending = some m → m.1 < s.posted

omit [DecidableEq W] in
theorem removed_concat (s : State W V) (m : Letter V) :
    (s.cleared ++ [(m, s.cell)]).filterMap Prod.snd = s.removed ++ s.cell.toList := by
  rw [List.filterMap_append, State.removed]
  cases s.cell <;> rfl

section Moved

variable {s : State W V} {w w' : W} {stage : Stage (Letter V)} {m : Letter V}
  (f : Stage (Letter V) → Option (Letter V))

/-- A letter that is seen of a worker after a move is that of the worker that moved, or was seen
before. -/
theorem goto_cases (hm : f ((s.goto w stage).stage w') = some m) :
    (w' = w ∧ f stage = some m) ∨ (w' ≠ w ∧ f (s.stage w') = some m) := by
  by_cases hw : w' = w
  · subst hw
    rw [goto_stage_self] at hm
    exact Or.inl ⟨rfl, hm⟩
  · rw [goto_stage_of_ne s w stage hw] at hm
    exact Or.inr ⟨hw, hm⟩

/-- A worker that moves to a stage with no letter, or the letter it had, shows no new one. -/
theorem of_goto (hstage : ∀ m, f stage = some m → f (s.stage w) = some m)
    (hm : f ((s.goto w stage).stage w') = some m) : f (s.stage w') = some m := by
  rcases goto_cases f hm with ⟨rfl, h⟩ | ⟨-, h⟩
  · exact hstage m h
  · exact h

theorem of_goto_none (hstage : f stage = none) (hm : f ((s.goto w stage).stage w') = some m) :
    f (s.stage w') = some m := by
  refine of_goto f (fun m h => ?_) hm
  rw [hstage] at h
  cases h

end Moved

theorem Numbered.step {s s' : State W V} {a : Action W V} (hs : Numbered s)
    (hmoves : Moves s a s') : Numbered s' := by
  obtain ⟨hnodup, hlt, hpending⟩ := hs
  cases hmoves with
  | post v =>
    have hremoved : ∀ m ∈ s.removed, m.1 < s.posted :=
      fun m hm => hlt m (List.mem_append_right _ hm)
    refine ⟨?_, ?_, fun w m hm => Nat.lt_succ_of_lt (hpending w m hm)⟩
    · refine List.nodup_cons.mpr ⟨?_, ?_⟩
      · intro hmem
        obtain ⟨m, hm, heq⟩ := List.mem_map.mp hmem
        exact Nat.ne_of_lt (hremoved m hm) heq
      · rw [List.map_append] at hnodup
        exact hnodup.of_append_right
    · intro m hm
      rcases List.mem_cons.mp hm with rfl | hm
      · exact Nat.lt_succ_self _
      · exact Nat.lt_succ_of_lt (hremoved m hm)
  | lookNone hw hcell => exact ⟨hnodup, hlt, hpending⟩
  | @look w m hw hcell =>
    refine ⟨hnodup, hlt, fun w' m' hm' => ?_⟩
    rcases goto_cases Stage.pending hm' with ⟨-, h⟩ | ⟨-, h⟩
    · cases h
      exact hlt m (List.mem_append_left _ (by rw [hcell]; exact List.mem_singleton_self m))
    · exact hpending w' m' h
  | giveUp hw hlocked =>
    exact ⟨hnodup, hlt, fun w m hm => hpending w m (of_goto_none Stage.pending rfl hm)⟩
  | acquire hw hlocked =>
    refine ⟨hnodup, hlt, fun w m hm => hpending w m (of_goto Stage.pending ?_ hm)⟩
    rw [hw]
    exact fun _ => id
  | @clear w m hw =>
    refine ⟨?_, ?_, fun w' m' hm' => ?_⟩
    · -- the letter moves from the cell to the removed ones, the letters in sight are the same
      show ((s.cleared ++ [(m, s.cell)]).filterMap Prod.snd |>.map Prod.fst).Nodup
      rw [removed_concat]
      exact (List.perm_append_comm.map Prod.fst).nodup_iff.mp hnodup
    · intro m' hm'
      change m' ∈ (s.cleared ++ [(m, s.cell)]).filterMap Prod.snd at hm'
      rw [removed_concat] at hm'
      exact hlt m' (List.perm_append_comm.mem_iff.mp hm')
    · exact hpending w' m' (of_goto_none Stage.pending rfl hm')
  | work hw => exact ⟨hnodup, hlt, fun w m hm => hpending w m (of_goto_none Stage.pending rfl hm)⟩
  | release hw => exact ⟨hnodup, hlt, fun w m hm => hpending w m (of_goto_none Stage.pending rfl hm)⟩

theorem numbered_of_run {as : List (Action W V)} {s : State W V} (h : run as = some s) :
    Numbered s := by
  refine run_induction (fun _ s => Numbered s) ?_ (fun _ _ _ _ _ hs hmoves => hs.step hmoves) as s h
  exact ⟨by simp [State.start, State.removed], by simp [State.start, State.removed],
    by simp [State.start, Stage.pending]⟩

/-! ## What happened since a worker looked -/

/-- The worker looks at the cell. -/
def Action.isLook (w : W) : Action W V → Bool
  | .look w' => w' = w
  | _ => false

/-- The action changes the cell. -/
def Action.Disturbs : Action W V → Prop
  | .post _ | .clear _ => True
  | _ => False

/-- What happened since the worker last looked, latest first. -/
def since (w : W) (as : List (Action W V)) : List (Action W V) :=
  as.reverse.takeWhile fun a => !a.isLook w

theorem since_concat (w : W) (as : List (Action W V)) (a : Action W V) :
    since w (as ++ [a]) = if a.isLook w then [] else a :: since w as := by
  rw [since, List.reverse_append, List.reverse_singleton, List.singleton_append,
    List.takeWhile_cons]
  cases a.isLook w <;> rfl

/-- The cell still holds the letter a worker saw exactly if it was left alone since. -/
def SinceLook (as : List (Action W V)) (s : State W V) : Prop :=
  ∀ w m, (s.stage w).pending = some m →
    (s.cell = some m ↔ ∀ a ∈ since w as, ¬ a.Disturbs)

theorem SinceLook.step {as : List (Action W V)} {s s' : State W V} {a : Action W V}
    (hnum : Numbered s) (hs : SinceLook as s) (hmoves : Moves s a s') :
    SinceLook (as ++ [a]) s' := by
  intro w' m' hm'
  rw [since_concat]
  cases hmoves with
  | post v =>
    -- the new letter has a number no pending letter has
    have hne : m'.1 ≠ s.posted := Nat.ne_of_lt (hnum.pending w' m' hm')
    refine iff_of_false ?_ ?_
    · intro hcell
      cases hcell
      exact hne rfl
    · intro h
      exact h (.post v) (List.mem_cons_self ..) trivial
  | @lookNone w hw hcell =>
    have hne : w' ≠ w := by
      rintro rfl
      rw [hw] at hm'
      cases hm'
    simpa [Action.isLook, hne.symm, Action.Disturbs] using hs w' m' hm'
  | @look w m hw hcell =>
    rcases goto_cases Stage.pending hm' with ⟨rfl, h⟩ | ⟨hne, h⟩
    · cases h
      simpa [Action.isLook] using hcell
    · simpa [Action.isLook, hne.symm, Action.Disturbs] using hs w' m' h
  | giveUp hw hlocked =>
    simpa [Action.isLook, Action.Disturbs] using hs w' m' (of_goto_none Stage.pending rfl hm')
  | acquire hw hlocked =>
    have hold := of_goto Stage.pending (by rw [hw]; exact fun _ => id) hm'
    simpa [Action.isLook, Action.Disturbs] using hs w' m' hold
  | @clear w m hw =>
    -- the cell is empty, and this action is the latest
    refine iff_of_false (by simp) ?_
    intro h
    exact h (.clear w) (List.mem_cons_self ..) trivial
  | work hw => simpa [Action.isLook, Action.Disturbs] using hs w' m' (of_goto_none Stage.pending rfl hm')
  | release hw =>
    simpa [Action.isLook, Action.Disturbs] using hs w' m' (of_goto_none Stage.pending rfl hm')

theorem sinceLook_of_run {as : List (Action W V)} {s : State W V} (h : run as = some s) :
    SinceLook as s := by
  refine run_induction SinceLook ?_ ?_ as s h
  · intro w m hm
    cases hm
  · intro as s a s' hrun hs hmoves
    exact hs.step (numbered_of_run hrun) hmoves

/-! ## One worker at a time -/

/-- The worker holds the lock. -/
def Stage.Holds : Stage M → Prop
  | .acquired _ | .cleared _ | .worked => True
  | _ => False

/-- The lock is taken by at most one worker, and the letters worked on are those the cell was
cleared for, up to the one that is about to be worked on. -/
structure Exclusive (s : State W V) : Prop where
  locked : ∀ w, (s.stage w).Holds → s.locked = true
  unique : ∀ w w', (s.stage w).Holds → (s.stage w').Holds → w = w'
  between : ∀ w m, s.stage w = .cleared m → s.cleared.map Prod.fst = s.worked ++ [m]
  done : (∀ w m, s.stage w ≠ .cleared m) → s.cleared.map Prod.fst = s.worked

omit [DecidableEq W] in
/-- Only one worker to look at. -/
theorem exclusive_of_alone {s : State W V} {w : W} (halone : ∀ w', w' ≠ w → ¬ (s.stage w').Holds)
    (hlocked : (s.stage w).Holds → s.locked = true)
    (hbetween : ∀ m, s.stage w = .cleared m → s.cleared.map Prod.fst = s.worked ++ [m])
    (hdone : (∀ m, s.stage w ≠ .cleared m) → s.cleared.map Prod.fst = s.worked) : Exclusive s where
  locked := by
    intro w' hw'
    by_cases h : w' = w
    · exact hlocked (h ▸ hw')
    · exact absurd hw' (halone w' h)
  unique := by
    intro w₁ w₂ h₁ h₂
    have h : ∀ w', (s.stage w').Holds → w' = w :=
      fun w' hw' => by_contra fun hne => halone w' hne hw'
    rw [h w₁ h₁, h w₂ h₂]
  between := by
    intro w' m hw'
    by_cases h : w' = w
    · exact hbetween m (h ▸ hw')
    · exact absurd (by rw [hw']; trivial) (halone w' h)
  done := fun h => hdone (h w)

omit [DecidableEq W] in
/-- Nobody else holds the lock a worker holds. -/
theorem Exclusive.alone {s : State W V} (hs : Exclusive s) {w : W} (hw : (s.stage w).Holds)
    (w' : W) (hne : w' ≠ w) : ¬ (s.stage w').Holds := fun hw' => hne (hs.unique w' w hw' hw)

/-- A worker without the lock that stays without it changes nothing. -/
theorem Exclusive.quiet {s : State W V} (hs : Exclusive s) {w : W} {stage : Stage (Letter V)}
    (hw : ¬ (s.stage w).Holds) (hstage : ¬ stage.Holds) : Exclusive (s.goto w stage) := by
  have hholds : ∀ w', ((s.goto w stage).stage w').Holds → (s.goto w stage).stage w' = s.stage w' := by
    intro w' hw'
    by_cases h : w' = w
    · subst h
      rw [goto_stage_self] at hw'
      exact absurd hw' hstage
    · exact goto_stage_of_ne s w stage h
  refine ⟨?_, ?_, ?_, ?_⟩
  · intro w' hw'
    exact hs.locked w' (hholds w' hw' ▸ hw')
  · intro w₁ w₂ h₁ h₂
    exact hs.unique w₁ w₂ (hholds w₁ h₁ ▸ h₁) (hholds w₂ h₂ ▸ h₂)
  · intro w' m hw'
    refine hs.between w' m ?_
    rw [← hholds w' (by rw [hw']; trivial), hw']
  · intro h
    refine hs.done fun w' m hw' => h w' m ?_
    have hne : w' ≠ w := by
      rintro rfl
      exact hw (by rw [hw']; trivial)
    rw [goto_stage_of_ne s w stage hne, hw']

theorem Exclusive.step {s s' : State W V} {a : Action W V} (hs : Exclusive s)
    (hmoves : Moves s a s') : Exclusive s' := by
  have hothers : ∀ {w : W} {stage : Stage (Letter V)}, (∀ w', w' ≠ w → ¬ (s.stage w').Holds) →
      ∀ w', w' ≠ w → ¬ ((s.goto w stage).stage w').Holds := by
    intro w stage h w' hne
    rw [goto_stage_of_ne s w stage hne]
    exact h w' hne
  cases hmoves with
  | post v => exact ⟨hs.locked, hs.unique, hs.between, hs.done⟩
  | lookNone hw hcell => exact hs
  | look hw hcell => exact hs.quiet (by rw [hw]; exact id) id
  | giveUp hw hlocked => exact hs.quiet (by rw [hw]; exact id) id
  | @acquire w m hw hlocked =>
    -- the lock was free, so nobody was between clearing and working
    have hfree : ∀ w', ¬ (s.stage w').Holds := by
      intro w' hw'
      rw [hs.locked w' hw'] at hlocked
      cases hlocked
    have hdone : s.cleared.map Prod.fst = s.worked :=
      hs.done fun w' m hw' => hfree w' (by rw [hw']; trivial)
    refine exclusive_of_alone (hothers fun w' _ => hfree w') (fun _ => rfl) ?_ (fun _ => hdone)
    intro m' hm'
    cases (goto_stage_self s w (.acquired m)).symm.trans hm'
  | @clear w m hw =>
    have hholds : (s.stage w).Holds := by rw [hw]; trivial
    have hdone : s.cleared.map Prod.fst = s.worked := by
      refine hs.done fun w' m' hw' => ?_
      obtain rfl := hs.unique w' w (by rw [hw']; trivial) hholds
      cases hw.symm.trans hw'
    refine exclusive_of_alone (hothers (hs.alone hholds)) (fun _ => hs.locked w hholds) ?_ ?_
    · intro m' hm'
      cases (goto_stage_self s w (.cleared m)).symm.trans hm'
      rw [List.map_append, hdone]
      rfl
    · intro h
      exact absurd (goto_stage_self s w (.cleared m)) (h m)
  | @work w m hw =>
    have hholds : (s.stage w).Holds := by rw [hw]; trivial
    refine exclusive_of_alone (hothers (hs.alone hholds)) (fun _ => hs.locked w hholds) ?_
      (fun _ => hs.between w m hw)
    intro m' hm'
    cases (goto_stage_self s w .worked).symm.trans hm'
  | @release w hw =>
    have hholds : (s.stage w).Holds := by rw [hw]; trivial
    have hdone : s.cleared.map Prod.fst = s.worked := by
      refine hs.done fun w' m' hw' => ?_
      obtain rfl := hs.unique w' w (by rw [hw']; trivial) hholds
      cases hw.symm.trans hw'
    refine exclusive_of_alone (hothers (hs.alone hholds)) ?_ ?_ (fun _ => hdone)
    · intro h
      change ((s.goto w .idle).stage w).Holds at h
      rw [goto_stage_self] at h
      exact h.elim
    · intro m' hm'
      cases (goto_stage_self s w .idle).symm.trans hm'

/-- **The lock excludes**: at most one worker holds it. -/
theorem exclusive_of_run {as : List (Action W V)} {s : State W V} (h : run as = some s) :
    Exclusive s := by
  refine run_induction (fun _ s => Exclusive s) ?_ (fun _ _ _ _ _ hs hmoves => hs.step hmoves) as s h
  refine ⟨fun _ h => h.elim, fun _ _ h => h.elim, ?_, fun _ => rfl⟩
  intro w m hw
  cases hw

/-- The letters worked on are letters the cell was cleared for, in that order. -/
theorem worked_prefix_of_run {as : List (Action W V)} {s : State W V} (h : run as = some s) :
    s.worked <+: s.cleared.map Prod.fst := by
  have hs := exclusive_of_run h
  by_cases hcleared : ∃ w m, s.stage w = .cleared m
  · obtain ⟨w, m, hw⟩ := hcleared
    rw [hs.between w m hw]
    exact List.prefix_append _ _
  · have hdone := hs.done fun w m hw => hcleared ⟨w, m, hw⟩
    exact hdone ▸ List.prefix_rfl

/-! ## Each worker clears its own letter -/

/-- Every clearing removes the letter it was made for; so no letter is worked on twice, and
none is removed by a worker that works on another. -/
structure OwnLetters (s : State W V) : Prop where
  own : ∀ e ∈ s.cleared, e.2 = some e.1
  once : (s.worked.map Prod.fst).Nodup
  spared : ∀ e ∈ s.cleared, ∀ m, e.2 = some m → m = e.1

/-- Between the look and the clearing of a worker nothing is posted and nothing cleared. -/
def Undisturbed (as : List (Action W V)) : Prop :=
  ∀ pre w, pre ++ [.clear w] <+: as → ∀ a ∈ since w pre, ¬ a.Disturbs

theorem undisturbed_concat {as : List (Action W V)} {a : Action W V} :
    Undisturbed (as ++ [a]) ↔
      Undisturbed as ∧ ∀ w, a = .clear w → ∀ b ∈ since w as, ¬ b.Disturbs := by
  constructor
  · intro h
    refine ⟨fun pre w hpre => h pre w (hpre.trans (List.prefix_append _ _)), ?_⟩
    rintro w rfl
    exact h as w List.prefix_rfl
  · rintro ⟨h, hlast⟩ pre w hpre
    rcases List.prefix_concat_iff.mp hpre with heq | hpre
    · obtain ⟨rfl, hw⟩ := List.append_inj' heq rfl
      exact hlast w (by simpa using hw.symm)
    · exact h pre w hpre

/-- Each clearing removes its own letter exactly in undisturbed runs. -/
theorem own_iff_undisturbed {as : List (Action W V)} {s : State W V} (h : run as = some s) :
    (∀ e ∈ s.cleared, e.2 = some e.1) ↔ Undisturbed as := by
  refine run_induction (fun as s => (∀ e ∈ s.cleared, e.2 = some e.1) ↔ Undisturbed as) ?_ ?_ as s h
  · refine iff_of_true (by simp [State.start]) ?_
    intro pre w hpre
    simp at hpre
  · intro as s a s' hrun hs hmoves
    rw [undisturbed_concat, ← hs]
    cases hmoves with
    | @clear w m hw =>
      -- a clearing removes its own letter if the cell still holds what the worker saw
      have hsince := sinceLook_of_run hrun w m (by rw [hw]; rfl)
      simp [or_imp, forall_and, hsince]
    | _ => simp

/-- **Workers clear their own letters exactly in undisturbed runs.** -/
theorem ownLetters_iff {as : List (Action W V)} {s : State W V} (h : run as = some s) :
    OwnLetters s ↔ Undisturbed as := by
  rw [← own_iff_undisturbed h]
  constructor
  · exact OwnLetters.own
  · intro hown
    -- the letters worked on are among those removed, and these have numbers of their own
    have hremoved : s.removed = s.cleared.map Prod.fst := by
      rw [State.removed, ← List.filterMap_eq_map]
      exact List.filterMap_congr fun e he => hown e he
    refine ⟨hown, ?_, ?_⟩
    · have hnodup := (numbered_of_run h).nodup
      rw [List.map_append, hremoved] at hnodup
      exact (hnodup.of_append_right).sublist (((worked_prefix_of_run h).map Prod.fst).sublist)
    · intro e he m hm
      exact Option.some_inj.mp (hm.symm.trans (hown e he))

end Mailbox

end OffchainWorkerDemo
