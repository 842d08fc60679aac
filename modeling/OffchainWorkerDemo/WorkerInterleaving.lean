/-
# Workers side by side

Any number of workers of one pallet on one node, taking their steps in any order
with requests written to the slot in between.  A worker that is not interrupted does
what `process_if_needed` does.  The slot and its lock are a mailbox with one place,
so a worker resets the very job it goes on to process exactly when nothing was
written or reset since it read the slot.
-/
import OffchainWorkerDemo.OcwGarbleWorker
import OffchainWorkerDemo.OcwCircuitsWorker
import OffchainWorkerDemo.Lib.Mailbox

namespace OffchainWorkerDemo

open Mailbox (Stage Action)

variable {A W J ε : Type}

/-! ## Small steps -/

/-- A node and where each of its workers is, with the job it read. -/
structure Workers (A W J : Type) where
  node : OcwState A
  stage : W → Stage J

namespace Workers

/-- Nobody has started. -/
def start (W J : Type) (node : OcwState A) : Workers A W J where
  node := node
  stage := fun _ => .idle

section Step

variable [DecidableEq W] (slot : JobSlot J) (process : J → Worker A ε Unit)

/-- A worker moves on. -/
def goto (c : Workers A W J) (w : W) (stage : Stage J) : Workers A W J :=
  { c with stage := Function.update c.stage w stage }

/-- One step: an accepted request writes its job, or a worker reads the slot, tries the lock,
resets the slot, processes what it read, or releases the lock. -/
def step (c : Workers A W J) : Action W J → Option (Workers A W J)
  | .post d =>
    if slot.codec.Fits d ∧ slot.blockNumber d ≠ 0 then
      some { c with node := c.node.put slot.key (slot.codec.encode d) }
    else none
  | .look w =>
    match c.stage w with
    | .idle =>
      let indexingData := slot.read c.node.storage
      if slot.blockNumber indexingData = 0 then some c
      else some (c.goto w (.seen indexingData))
    | _ => none
  | .acquire w =>
    match c.stage w with
    | .seen d =>
      if c.node.locked slot.lockKey then some (c.goto w .idle)
      else some { c.goto w (.acquired d) with node := c.node.setLock slot.lockKey true }
    | _ => none
  | .clear w =>
    match c.stage w with
    | .acquired d =>
      some { c.goto w (.cleared d) with
        node := c.node.put slot.key (slot.codec.encode slot.empty) }
    | _ => none
  | .work w =>
    match c.stage w with
    | .cleared d => some { c.goto w .worked with node := (process d c.node).state }
    | _ => none
  | .release w =>
    match c.stage w with
    | .worked => some { c.goto w .idle with node := c.node.setLock slot.lockKey false }
    | _ => none

/-- Steps one after another. -/
def runFrom (c : Workers A W J) (as : List (Action W J)) : Option (Workers A W J) :=
  as.foldlM (step slot process) c

end Step

section Moves

variable [DecidableEq W] {slot : JobSlot J} {process : J → Worker A ε Unit}

/-- The steps that can happen, each with its guard. -/
inductive Moves (slot : JobSlot J) (process : J → Worker A ε Unit) (c : Workers A W J) :
    Action W J → Workers A W J → Prop
  | write {d : J} (hfits : slot.codec.Fits d) (hjob : slot.blockNumber d ≠ 0) :
    Moves slot process c (.post d)
      { c with node := c.node.put slot.key (slot.codec.encode d) }
  | readNothing {w : W} (hw : c.stage w = .idle) (hjob : slot.job c.node.storage = none) :
    Moves slot process c (.look w) c
  | read {w : W} {d : J} (hw : c.stage w = .idle) (hjob : slot.job c.node.storage = some d) :
    Moves slot process c (.look w) (c.goto w (.seen d))
  | giveUp {w : W} {d : J} (hw : c.stage w = .seen d)
      (hlocked : c.node.locked slot.lockKey = true) :
    Moves slot process c (.acquire w) (c.goto w .idle)
  | lock {w : W} {d : J} (hw : c.stage w = .seen d)
      (hlocked : c.node.locked slot.lockKey = false) :
    Moves slot process c (.acquire w)
      { c.goto w (.acquired d) with node := c.node.setLock slot.lockKey true }
  | reset {w : W} {d : J} (hw : c.stage w = .acquired d) :
    Moves slot process c (.clear w)
      { c.goto w (.cleared d) with node := c.node.put slot.key (slot.codec.encode slot.empty) }
  | dispatch {w : W} {d : J} (hw : c.stage w = .cleared d) :
    Moves slot process c (.work w)
      { c.goto w .worked with node := (process d c.node).state }
  | unlock {w : W} (hw : c.stage w = .worked) :
    Moves slot process c (.release w)
      { c.goto w .idle with node := c.node.setLock slot.lockKey false }

/-- **What a step can do**: one of these. -/
theorem moves_of_step {c c' : Workers A W J} {a : Action W J}
    (h : step slot process c a = some c') : Moves slot process c a c' := by
  rcases a with d | w | w | w | w | w
  · obtain ⟨⟨hfits, hjob⟩, heq⟩ := Option.ite_none_right_eq_some.mp h
    cases heq
    exact .write hfits hjob
  · simp only [step] at h
    split at h
    · rename_i hw
      split at h
      · rename_i hjob
        cases h
        exact .readNothing hw (JobSlot.job_eq_none_iff.mpr hjob)
      · rename_i hjob
        cases h
        exact .read hw (JobSlot.job_eq_some_iff.mpr ⟨rfl, hjob⟩)
    · cases h
  · simp only [step] at h
    split at h
    · rename_i d hw
      split at h
      · rename_i hlocked
        cases h
        exact .giveUp hw hlocked
      · rename_i hlocked
        cases h
        exact .lock hw (Bool.eq_false_iff.mpr hlocked)
    · cases h
  · simp only [step] at h
    split at h
    · rename_i d hw
      cases h
      exact .reset hw
    · cases h
  · simp only [step] at h
    split at h
    · rename_i d hw
      cases h
      exact .dispatch hw
    · cases h
  · simp only [step] at h
    split at h
    · rename_i hw
      cases h
      exact .unlock hw
    · cases h

end Moves

/-! ## A worker that is not interrupted -/

section Uninterrupted

variable [DecidableEq W] (slot : JobSlot J) (process : J → Worker A ε Unit)
  (env : OcwEnv A) {c : Workers A W J} {w : W}

/-- **With nothing to do** the worker stops after reading the slot or trying the lock, and the
node is as it was. -/
theorem runFrom_idle (hw : c.stage w = .idle) (h : slot.Idle c.node) :
    runFrom slot process c [.look w] = some c ∨
      runFrom slot process c [.look w, .acquire w] = some c := by
  by_cases hjob : slot.blockNumber (slot.read c.node.storage) = 0
  · left
    simp [runFrom, step, hw, hjob]
  · right
    have hlocked : c.node.locked slot.lockKey = true := h.resolve_left hjob
    have hback : Function.update c.stage w .idle = c.stage := by
      rw [← hw, Function.update_eq_self]
    simp [runFrom, step, hw, hjob, goto, hlocked, hback]

/-- **With a job** its steps leave the node as `process_if_needed` does. -/
theorem runFrom_busy (hstd : env.std = true) (hw : c.stage w = .idle) (h : ¬ slot.Idle c.node) :
    runFrom slot process c [.look w, .acquire w, .clear w, .work w, .release w] =
      some { c with node := (processIfNeededWith env slot process c.node).state } := by
  obtain ⟨hjob, hlocked⟩ := not_or.mp h
  have hback : Function.update c.stage w .idle = c.stage := by
    rw [← hw, Function.update_eq_self]
  rw [processIfNeededWith_busy env slot process h]
  have hstate : (dropGuard env slot.lockKey
      (process (slot.read c.node.storage) (slot.take c.node))).state =
      (process (slot.read c.node.storage) (slot.take c.node)).state.setLock slot.lockKey false := by
    cases process (slot.read c.node.storage) (slot.take c.node) with
    | ok a s => rfl
    | err e s => rfl
    | trap msg s => simp [dropGuard, Ended.state, hstd]
  rw [hstate]
  simp [runFrom, step, hw, hjob, goto, hlocked, hback, JobSlot.take]

end Uninterrupted

/-! ## The slot is a mailbox -/

section Mailbox

variable {slot : JobSlot J} {process : J → Worker A ε Unit}

/-- The node and its workers as a mailbox whose letters are the jobs, numbered in the order
they were written. -/
structure Matches (slot : JobSlot J) (c : Workers A W J) (l : Mailbox.State W J) : Prop where
  cell : slot.job c.node.storage = l.cell.map Prod.snd
  locked : c.node.locked slot.lockKey = l.locked
  stage : ∀ w, c.stage w = (l.stage w).map Prod.snd

theorem matches_start {node : OcwState A} (hjob : slot.job node.storage = none)
    (hlocked : node.locked slot.lockKey = false) :
    Matches slot (start W J node) (Mailbox.State.start W J) :=
  ⟨hjob, hlocked, fun _ => rfl⟩

variable [DecidableEq W]

/-- A worker of the node and its counterpart move on together. -/
theorem Matches.stage_goto {c : Workers A W J} {l : Mailbox.State W J} (h : Matches slot c l)
    (w : W) (stage : Stage (Mailbox.Letter J)) (w' : W) :
    (c.goto w (stage.map Prod.snd)).stage w' = ((l.goto w stage).stage w').map Prod.snd := by
  by_cases hw : w' = w
  · subst hw
    rw [Mailbox.goto_stage_self]
    exact Function.update_self ..
  · rw [Mailbox.goto_stage_of_ne l w stage hw, ← h.stage w']
    exact Function.update_of_ne hw ..

/-- **Each step of the node is a step of the mailbox.** -/
theorem Matches.step (hprocess : ∀ d, Exec.Within OcwState.Extends (process d))
    {c c' : Workers A W J} {l : Mailbox.State W J} (h : Matches slot c l) {a : Action W J}
    (hstep : Workers.step slot process c a = some c') :
    ∃ l', Mailbox.step l a = some l' ∧ Matches slot c' l' := by
  have hstage : ∀ {w stage}, c.stage w = stage → (l.stage w).map Prod.snd = stage :=
    fun hw => (h.stage _).symm.trans hw
  cases moves_of_step hstep with
  | write hfits hjob =>
    exact ⟨_, rfl, slot.job_put hfits hjob c.node, h.locked, h.stage⟩
  | readNothing hw hjob =>
    have hl := Stage.map_eq_idle_iff.mp (hstage hw)
    have hcell : l.cell = none := Option.map_eq_none_iff.mp (h.cell.symm.trans hjob)
    exact ⟨l, by simp [Mailbox.step, hl, hcell], h⟩
  | @read w d hw hjob =>
    have hl := Stage.map_eq_idle_iff.mp (hstage hw)
    obtain ⟨m, hcell, rfl⟩ := Option.map_eq_some_iff.mp (h.cell.symm.trans hjob)
    exact ⟨l.goto w (.seen m), by simp [Mailbox.step, hl, hcell], h.cell, h.locked,
      h.stage_goto w (.seen m)⟩
  | @giveUp w d hw hlocked =>
    obtain ⟨m, hl, rfl⟩ := Stage.map_eq_seen_iff.mp (hstage hw)
    have hl' : l.locked = true := h.locked.symm.trans hlocked
    exact ⟨l.goto w .idle, by simp [Mailbox.step, hl, hl'], h.cell, h.locked,
      h.stage_goto w .idle⟩
  | @lock w d hw hlocked =>
    obtain ⟨m, hl, rfl⟩ := Stage.map_eq_seen_iff.mp (hstage hw)
    have hl' : l.locked = false := h.locked.symm.trans hlocked
    exact ⟨{ l.goto w (.acquired m) with locked := true }, by simp [Mailbox.step, hl, hl'],
      h.cell, OcwState.setLock_locked_self .., h.stage_goto w (.acquired m)⟩
  | @reset w d hw =>
    obtain ⟨m, hl, rfl⟩ := Stage.map_eq_acquired_iff.mp (hstage hw)
    refine ⟨{ l.goto w (.cleared m) with cell := none, cleared := l.cleared ++ [(m, l.cell)] },
      by simp [Mailbox.step, hl], ?_⟩
    exact ⟨slot.job_reset c.node, h.locked, h.stage_goto w (.cleared m)⟩
  | @dispatch w d hw =>
    obtain ⟨m, hl, rfl⟩ := Stage.map_eq_cleared_iff.mp (hstage hw)
    have hextends := hprocess m.2 c.node
    refine ⟨{ l.goto w .worked with worked := l.worked ++ [m] }, by simp [Mailbox.step, hl],
      ?_, ?_, h.stage_goto w .worked⟩
    · exact (congrArg slot.job hextends.storage).trans h.cell
    · exact (congrFun hextends.locked _).trans h.locked
  | @unlock w hw =>
    have hl := Stage.map_eq_worked_iff.mp (hstage hw)
    exact ⟨{ l.goto w .idle with locked := false }, by simp [Mailbox.step, hl],
      h.cell, OcwState.setLock_locked_self .., h.stage_goto w .idle⟩

theorem runFrom_concat {c c' : Workers A W J} {as : List (Action W J)} {a : Action W J} :
    runFrom slot process c (as ++ [a]) = some c' ↔
      ∃ c₁, runFrom slot process c as = some c₁ ∧ step slot process c₁ a = some c' := by
  simp [runFrom, List.foldlM_append, Option.bind_eq_some_iff]

/-- **Each run of the node is a run of the mailbox.** -/
theorem exists_mailbox_run (hprocess : ∀ d, Exec.Within OcwState.Extends (process d))
    {node : OcwState A} (hjob : slot.job node.storage = none)
    (hlocked : node.locked slot.lockKey = false) {as : List (Action W J)} {c : Workers A W J}
    (h : runFrom slot process (start W J node) as = some c) :
    ∃ l, Mailbox.run as = some l ∧ Matches slot c l := by
  induction as using List.reverseRecOn generalizing c with
  | nil =>
    cases h
    exact ⟨_, rfl, matches_start hjob hlocked⟩
  | append_singleton as a ih =>
    obtain ⟨c₁, hc₁, hstep⟩ := runFrom_concat.mp h
    obtain ⟨l, hl, hmatches⟩ := ih hc₁
    obtain ⟨l', hl', hmatches'⟩ := hmatches.step hprocess hstep
    exact ⟨l', Mailbox.run_concat.mpr ⟨l, hl, hl'⟩, hmatches'⟩

end Mailbox

/-! ## Which job a worker clears -/

/-- No job waits and the lock is free. -/
def Fresh (slot : JobSlot J) (node : OcwState A) : Prop :=
  slot.job node.storage = none ∧ node.locked slot.lockKey = false

/-- In the run that led here every reset removed the write whose job the worker goes on to
process; so no write is processed twice, and none is erased by a worker that processes
another. -/
def ClearsOwnJobs [DecidableEq W] (slot : JobSlot J) (as : List (Action W J))
    (c : Workers A W J) : Prop :=
  ∃ l, Mailbox.run as = some l ∧ Matches slot c l ∧ Mailbox.OwnLetters l

theorem clearsOwnJobs_iff [DecidableEq W] {slot : JobSlot J} {process : J → Worker A ε Unit}
    (hprocess : ∀ d, Exec.Within OcwState.Extends (process d)) {node : OcwState A}
    (hfresh : Fresh slot node) {as : List (Action W J)} {c : Workers A W J}
    (h : runFrom slot process (start W J node) as = some c) :
    ClearsOwnJobs slot as c ↔ Mailbox.Undisturbed as := by
  obtain ⟨l, hl, hmatches⟩ := exists_mailbox_run hprocess hfresh.1 hfresh.2 h
  rw [← Mailbox.ownLetters_iff hl]
  constructor
  · rintro ⟨l', hl', -, hown⟩
    obtain rfl := Option.some_inj.mp (hl.symm.trans hl')
    exact hown
  · intro hown
    exact ⟨l, hl, hmatches, hown⟩

end Workers

/-- **Workers clear their own jobs exactly in undisturbed runs**: between the read of a worker
and its reset no request is written and no other worker resets the slot. -/
theorem workersClearOwnJobs_iff [DecidableEq W] (garbleApi : OcwGarble.Api)
    (circuitsApi : OcwCircuits.Api) (env : OcwEnv A) :
    (∀ (node : OcwState A) (as : List (Action W OcwGarble.IndexingData)) c,
      Workers.Fresh OcwGarble.slot node →
      Workers.runFrom OcwGarble.slot (@OcwGarble.processJob A OcwGarble.Error garbleApi env)
        (.start W _ node) as = some c →
      (Workers.ClearsOwnJobs OcwGarble.slot as c ↔ Mailbox.Undisturbed as)) ∧
    (∀ (node : OcwState A) (as : List (Action W OcwCircuits.IndexingData)) c,
      Workers.Fresh OcwCircuits.slot node →
      Workers.runFrom OcwCircuits.slot (@OcwCircuits.processJob A OcwCircuits.Error circuitsApi env)
        (.start W _ node) as = some c →
      (Workers.ClearsOwnJobs OcwCircuits.slot as c ↔ Mailbox.Undisturbed as)) := by
  constructor
  · intro node as c hfresh hrun
    exact Workers.clearsOwnJobs_iff (OcwGarble.within_processJob garbleApi env) hfresh hrun
  · intro node as c hfresh hrun
    exact Workers.clearsOwnJobs_iff (OcwCircuits.within_processJob circuitsApi env) hfresh hrun

/-- A request is written and one worker processes it. -/
def oneWorkerRun (d : J) : List (Action ℕ J) :=
  [.post d, .look 0, .acquire 0, .clear 0, .work 0, .release 0]

theorem undisturbed_oneWorkerRun (d : J) : Mailbox.Undisturbed (oneWorkerRun d) := by
  intro pre w hpre a ha
  -- The only reset is the fourth step, right after the read and the lock.
  rcases pre with _ | ⟨a₁, _ | ⟨a₂, _ | ⟨a₃, _ | ⟨a₄, _ | ⟨a₅, _ | ⟨a₆, pre⟩⟩⟩⟩⟩⟩
  all_goals simp [oneWorkerRun] at hpre
  obtain ⟨rfl, rfl, rfl, rfl⟩ := hpre
  simp [Mailbox.since, Mailbox.Action.isLook] at ha
  subst ha
  exact id

/-- A node without a reachable server. -/
def offline : OcwEnv ℕ where
  std := true
  var := fun _ => some "http://127.0.0.1:3000"
  keystore := [0]
  http := fun _ => .sendError

/-- A node that has done nothing yet. -/
def freshNode : OcwState ℕ where
  storage := fun _ => none
  locked := fun _ => false
  exchanges := []
  submitted := []

/-- One worker of each pallet clears its own job. -/
theorem workersClearOwnJobs_oneWorkerRun :
    (∃ c, Workers.ClearsOwnJobs OcwGarble.slot
      (oneWorkerRun (OcwGarble.standardJob [97])) (c : Workers ℕ ℕ OcwGarble.IndexingData)) ∧
    ∃ c, Workers.ClearsOwnJobs OcwCircuits.slot
      (oneWorkerRun (OcwCircuits.genericJob [97])) (c : Workers ℕ ℕ OcwCircuits.IndexingData) :=
  ⟨⟨_, ((workersClearOwnJobs_iff OcwGarble.shortApi OcwCircuits.shortApi offline).1 freshNode _ _
      ⟨rfl, rfl⟩ rfl).mpr (undisturbed_oneWorkerRun _)⟩,
    ⟨_, ((workersClearOwnJobs_iff OcwGarble.shortApi OcwCircuits.shortApi offline).2 freshNode _ _
      ⟨rfl, rfl⟩ rfl).mpr (undisturbed_oneWorkerRun _)⟩⟩

/-- A second request is written after a worker has read the first and before it resets. -/
def erasingRun : List (Action ℕ OcwGarble.IndexingData) :=
  [.post (OcwGarble.standardJob [97]), .look 0, .post (OcwGarble.standardJob [98]), .acquire 0,
    .clear 0]

/-- The worker erases the second request and processes the first. -/
theorem not_clearsOwnJobs_erasingRun :
    ∃ c, Workers.runFrom OcwGarble.slot
        (@OcwGarble.processJob ℕ OcwGarble.Error OcwGarble.shortApi offline)
        (.start ℕ _ freshNode) erasingRun = some c ∧
      ¬ Workers.ClearsOwnJobs OcwGarble.slot erasingRun c := by
  refine ⟨_, rfl, ?_⟩
  rintro ⟨l, hl, -, hown⟩
  cases hl
  exact absurd (hown.own _ (List.mem_cons_self ..)) (by decide)

end OffchainWorkerDemo
