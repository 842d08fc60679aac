/-
# A node

The chain and the off-chain side of one node.  A signed call is applied to the chain,
and what it wrote to the off-chain index lands in the off-chain storage; a worker
takes the job it finds in the slot of its pallet.  Each pallet is an `OcwPallet`: the
jobs its requests leave, its worker, and what the two do to its slot.
-/
import OffchainWorkerDemo.Outcomes

namespace OffchainWorkerDemo

variable {A J : Type} [DecidableEq A]

/-! ## Calls and worker runs -/

/-- A node: its view of the chain, and its off-chain side. -/
structure Node (A : Type) where
  chain : Chain A
  ocw : OcwState A

/-- What happens on a node: a call of a block, or a complete run of a pallet's worker. -/
inductive NodeEvent (A : Type) : Type where
  | call (x : SignedCall A)
  | garbleWorker (env : OcwEnv A)
  | circuitsWorker (env : OcwEnv A)

/-- What a call wrote to the off-chain index. -/
def SignedCall.indexed (x : SignedCall A) (s : Chain A) : List (Bytes × Bytes) :=
  (x.apply s).offchainIndex.drop s.offchainIndex.length

omit [DecidableEq A] in
/-- Off-chain index writes land in the off-chain storage, in their order. -/
def OcwState.flush (s : OcwState A) (writes : List (Bytes × Bytes)) : OcwState A :=
  writes.foldl (fun s write => s.put write.1 write.2) s

namespace Node

/-- A node that has not run a worker yet. -/
def launch (chain : Chain A) : Node A where
  chain := chain
  ocw := { storage := fun _ => none, locked := fun _ => false, exchanges := [], submitted := [] }

variable (garbleApi : OcwGarble.Api) (circuitsApi : OcwCircuits.Api)

/-- The node after an event. -/
def step (s : Node A) : NodeEvent A → Node A
  | .call x => { chain := x.apply s.chain, ocw := s.ocw.flush (x.indexed s.chain) }
  | .garbleWorker env => { s with ocw := (OcwGarble.processIfNeeded garbleApi env s.ocw).state }
  | .circuitsWorker env =>
    { s with ocw := (OcwCircuits.processIfNeeded circuitsApi env s.ocw).state }

/-- The node after events, one after another. -/
def run (s : Node A) (es : List (NodeEvent A)) : Node A := es.foldl (step garbleApi circuitsApi) s

end Node

/-! ## Requests and their jobs -/

/-- The job an accepted request of the garbling pallet leaves. -/
def OcwGarble.jobOf (x : SignedCall A) (s : Chain A) : Option OcwGarble.IndexingData :=
  if x.result s = some (.ok ()) then
    match x.call with
    | .garbleStandardSigned cid => some (OcwGarble.standardJob cid)
    | .garbleAndStripDisplayCircuitsPackageSigned txMsg =>
      (OcwCircuits.getDisplayCircuitsPackage s).toOption.map fun pkg =>
        OcwGarble.stripJob pkg txMsg (OcwGarble.drawnDigits x.env s)
    | _ => none
  else none

/-- The job an accepted request of the circuits pallet leaves. -/
def OcwCircuits.jobOf (x : SignedCall A) (s : Chain A) : Option OcwCircuits.IndexingData :=
  if x.result s = some (.ok ()) then
    match x.call with
    | .submitConfigGenericSigned cid => some (OcwCircuits.genericJob cid)
    | .submitConfigDisplayCircuitsPackageSigned => some OcwCircuits.displayJob
    | _ => none
  else none

theorem SignedCall.indexed_eq (x : SignedCall A) (s : Chain A) :
    x.indexed s = (x.writes s).index := by
  rw [indexed, apply_eq]
  exact List.drop_left

/-- **A call leaves a job for at most one of the two workers**, and writes nothing else to the
off-chain index. -/
theorem SignedCall.indexed_eq_jobs (x : SignedCall A) (s : Chain A) :
    x.indexed s =
      ((OcwGarble.jobOf x s).map fun d =>
        (OcwGarble.slot.key, OcwGarble.slot.codec.encode d)).toList ++
      ((OcwCircuits.jobOf x s).map fun d =>
        (OcwCircuits.slot.key, OcwCircuits.slot.codec.encode d)).toList := by
  rw [indexed_eq]
  unfold OcwGarble.jobOf OcwCircuits.jobOf
  rcases x.writes_cases s with ⟨hresult, hwrites⟩ | ⟨r, hresult, hmakes⟩
  · rw [hresult, hwrites]
    rfl
  · revert hmakes
    rw [hresult]
    generalize x.writes s = e, x.call = call
    intro hmakes
    cases hmakes with
    | garbleAndStrip hlogMsg hpkg hlog hfits =>
      simp only [↓reduceIte, hpkg, Except.toOption, Option.map_some]
      rfl
    | _ => rfl

/-- An accepted request leaves a job that fits its record. -/
theorem OcwGarble.fits_of_jobOf {x : SignedCall A} {s : Chain A} {d : OcwGarble.IndexingData}
    (h : OcwGarble.jobOf x s = some d) :
    OcwGarble.slot.codec.Fits d ∧ OcwGarble.slot.blockNumber d ≠ 0 := by
  unfold OcwGarble.jobOf at h
  obtain ⟨hresult, h⟩ := Option.ite_none_right_eq_some.mp h
  have hmakes := SignedCall.makes_of_result hresult
  have hone : (1 : UInt32) ≠ 0 := by decide
  revert h hmakes
  generalize x.writes s = e, x.call = call
  intro h hmakes
  cases hmakes with
  | garbleStandard hlog hfits =>
    cases h
    exact ⟨hfits, hone⟩
  | garbleAndStrip hlogMsg hpkg hlog hfits =>
    simp only [hpkg, Except.toOption, Option.map_some, Option.some_inj] at h
    subst h
    exact ⟨hfits, hone⟩
  | _ => cases h

theorem OcwCircuits.fits_of_jobOf {x : SignedCall A} {s : Chain A} {d : OcwCircuits.IndexingData}
    (h : OcwCircuits.jobOf x s = some d) :
    OcwCircuits.slot.codec.Fits d ∧ OcwCircuits.slot.blockNumber d ≠ 0 := by
  unfold OcwCircuits.jobOf at h
  obtain ⟨hresult, h⟩ := Option.ite_none_right_eq_some.mp h
  have hmakes := SignedCall.makes_of_result hresult
  have hone : (1 : UInt32) ≠ 0 := by decide
  revert h hmakes
  generalize x.writes s = e, x.call = call
  intro h hmakes
  cases hmakes with
  | submitConfigGeneric hlog hfits =>
    cases h
    exact ⟨hfits, hone⟩
  | submitConfigDisplay =>
    cases h
    exact ⟨by decide, hone⟩
  | _ => cases h

/-! ## The slot of a pallet -/

omit [DecidableEq A] in
theorem OcwState.flush_exchanges (s : OcwState A) (writes : List (Bytes × Bytes)) :
    (s.flush writes).exchanges = s.exchanges := by
  unfold flush
  induction writes generalizing s with
  | nil => rfl
  | cons write writes ih =>
    rw [List.foldl_cons, ih]
    rfl

omit [DecidableEq A] in
theorem OcwState.posted_flush (s : OcwState A) (writes : List (Bytes × Bytes)) :
    (s.flush writes).posted = s.posted := congrArg (List.map Prod.fst) (s.flush_exchanges writes)

/-- A pallet with an off-chain worker on a node: its slot, the job an accepted request leaves,
the runs of its worker, the requests a job posts and when they can all be sent; with what the
steps of the node do to them. -/
structure OcwPallet (A J : Type) [DecidableEq A] (garbleApi : OcwGarble.Api)
    (circuitsApi : OcwCircuits.Api) where
  slot : JobSlot J
  jobOf : SignedCall A → Chain A → Option J
  envOf : NodeEvent A → Option (OcwEnv A)
  posts : OcwEnv A → J → Option (List HttpRequest)
  Sendable : OcwEnv A → ℕ → J → Prop
  /-- A call leaves its job or nothing. -/
  job_call : ∀ s x, slot.job (Node.step garbleApi circuitsApi s (.call x)).ocw.storage =
    (jobOf x s.chain).or (slot.job s.ocw.storage)
  envOf_call : ∀ x, envOf (.call x) = none
  /-- The other worker leaves the slot alone. -/
  job_other : ∀ s e, (∀ x, e ≠ .call x) → envOf e = none →
    slot.job (Node.step garbleApi circuitsApi s e).ocw.storage = slot.job s.ocw.storage
  /-- A run without a job or without the lock does nothing. -/
  step_idle : ∀ s e env, envOf e = some env → slot.Idle s.ocw →
    Node.step garbleApi circuitsApi s e = s
  /-- A run with a job takes it out of the slot. -/
  job_taken : ∀ s e env, envOf e = some env → ¬ slot.Idle s.ocw →
    slot.job (Node.step garbleApi circuitsApi s e).ocw.storage = none
  /-- A run with a job sends all its requests exactly if the job is sendable. -/
  sent_iff : ∀ s e env, envOf e = some env → ¬ slot.Idle s.ocw →
    ((∃ ps, posts env (slot.read s.ocw.storage) = some ps ∧
      (Node.step garbleApi circuitsApi s e).ocw.sent = s.ocw.sent ++ ps) ↔
      Sendable env s.ocw.posted.length (slot.read s.ocw.storage))

/-! ## The two pallets -/

/-- The two slots have keys of their own. -/
theorem garbleKey_ne_circuitsKey : OcwGarble.slot.key ≠ OcwCircuits.slot.key := by
  decide

omit [DecidableEq A] in
theorem OcwState.flush_append (s : OcwState A) (ws ws' : List (Bytes × Bytes)) :
    s.flush (ws ++ ws') = (s.flush ws).flush ws' := List.foldl_append

omit [DecidableEq A] in
/-- One write at most, under another key, leaves a slot alone. -/
theorem JobSlot.job_flush_of_ne (slot : JobSlot J) {I : Type} (o : Option I) {key : Bytes}
    (hkey : slot.key ≠ key) (encode : I → Bytes) (s : OcwState A) :
    slot.job (s.flush (o.map fun d => (key, encode d)).toList).storage = slot.job s.storage := by
  rcases o with _ | d
  · rfl
  · exact slot.job_congr (OcwState.put_storage_of_ne _ _ _ hkey)

omit [DecidableEq A] in
/-- One job at most, under the slot's own key, replaces the one it holds. -/
theorem JobSlot.job_flush (slot : JobSlot J) {o : Option J}
    (ho : ∀ d, o = some d → slot.codec.Fits d ∧ slot.blockNumber d ≠ 0) (s : OcwState A) :
    slot.job (s.flush (o.map fun d => (slot.key, slot.codec.encode d)).toList).storage =
      o.or (slot.job s.storage) := by
  rcases o with _ | d
  · rfl
  · exact slot.job_put (ho d rfl).1 (ho d rfl).2 s

/-- **A call leaves its job in the slot of its pallet**, or leaves the slot as it is. -/
theorem OcwGarble.job_flush_indexed (x : SignedCall A) (s : Chain A) (ocw : OcwState A) :
    slot.job (ocw.flush (x.indexed s)).storage = (jobOf x s).or (slot.job ocw.storage) := by
  rw [SignedCall.indexed_eq_jobs, OcwState.flush_append]
  rw [slot.job_flush_of_ne _ garbleKey_ne_circuitsKey]
  exact slot.job_flush (fun d => fits_of_jobOf) ocw

theorem OcwCircuits.job_flush_indexed (x : SignedCall A) (s : Chain A) (ocw : OcwState A) :
    slot.job (ocw.flush (x.indexed s)).storage = (jobOf x s).or (slot.job ocw.storage) := by
  rw [SignedCall.indexed_eq_jobs, OcwState.flush_append]
  rw [slot.job_flush (fun d => fits_of_jobOf)]
  rw [slot.job_flush_of_ne _ garbleKey_ne_circuitsKey.symm]

variable (garbleApi : OcwGarble.Api) (circuitsApi : OcwCircuits.Api)

/-- Exchanges are only added. -/
theorem Node.exchanges_step (s : Node A) (e : NodeEvent A) :
    s.ocw.exchanges <+: (Node.step garbleApi circuitsApi s e).ocw.exchanges := by
  rcases e with x | env | env
  · have hsame := OcwState.flush_exchanges s.ocw (x.indexed s.chain)
    exact hsame ▸ List.prefix_rfl
  · exact processIfNeededWith_exchanges env (OcwGarble.within_processJob garbleApi env) s.ocw
  · exact processIfNeededWith_exchanges env (OcwCircuits.within_processJob circuitsApi env) s.ocw

/-- The garbling pallet. -/
def garblePallet : OcwPallet A OcwGarble.IndexingData garbleApi circuitsApi where
  slot := OcwGarble.slot
  jobOf := OcwGarble.jobOf
  envOf
    | .garbleWorker env => some env
    | _ => none
  posts := OcwGarble.postsOf garbleApi
  Sendable := OcwGarble.Sendable garbleApi
  job_call s x := OcwGarble.job_flush_indexed x s.chain s.ocw
  envOf_call _ := rfl
  job_other s e hcall henv := by
    rcases e with x | env | env
    · exact absurd rfl (hcall x)
    · cases henv
    · exact OcwGarble.slot.job_congr (processIfNeededWith_storage_of_ne env
        (OcwCircuits.within_processJob circuitsApi env) s.ocw garbleKey_ne_circuitsKey)
  step_idle s e env henv hidle := by
    rcases e with x | env' | env'
    · cases henv
    · rw [Node.step, OcwGarble.processIfNeeded, processIfNeededWith_idle env' _ _ hidle]
      rfl
    · cases henv
  job_taken s e env henv hidle := by
    rcases e with x | env' | env'
    · cases henv
    · exact job_processIfNeededWith env' (OcwGarble.within_processJob garbleApi env') hidle
    · cases henv
  sent_iff s e env henv hidle := by
    rcases e with x | env' | env'
    · cases henv
    · cases henv
      exact OcwGarble.processIfNeeded_sent_iff hidle
    · cases henv

/-- The circuits pallet. -/
def circuitsPallet : OcwPallet A OcwCircuits.IndexingData garbleApi circuitsApi where
  slot := OcwCircuits.slot
  jobOf := OcwCircuits.jobOf
  envOf
    | .circuitsWorker env => some env
    | _ => none
  posts := OcwCircuits.postsOf circuitsApi
  Sendable := OcwCircuits.Sendable circuitsApi
  job_call s x := OcwCircuits.job_flush_indexed x s.chain s.ocw
  envOf_call _ := rfl
  job_other s e hcall henv := by
    rcases e with x | env | env
    · exact absurd rfl (hcall x)
    · exact OcwCircuits.slot.job_congr (processIfNeededWith_storage_of_ne env
        (OcwGarble.within_processJob garbleApi env) s.ocw garbleKey_ne_circuitsKey.symm)
    · cases henv
  step_idle s e env henv hidle := by
    rcases e with x | env' | env'
    · cases henv
    · cases henv
    · rw [Node.step, OcwCircuits.processIfNeeded, processIfNeededWith_idle env' _ _ hidle]
      rfl
  job_taken s e env henv hidle := by
    rcases e with x | env' | env'
    · cases henv
    · cases henv
    · exact job_processIfNeededWith env' (OcwCircuits.within_processJob circuitsApi env') hidle
  sent_iff s e env henv hidle := by
    rcases e with x | env' | env'
    · cases henv
    · cases henv
    · cases henv
      exact OcwCircuits.processIfNeeded_sent_iff hidle

end OffchainWorkerDemo
