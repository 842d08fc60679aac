/-
# The job records, byte for byte

A worker finds a job, and serves it, exactly where the storage holds the encoding of that
job (`job_found_iff`).  Along every run of a node the slots hold nothing else: a slot is
absent, or it stores the encoding of the empty record or of an accepted request, and no
other byte (`slots_exact`).  The fields of the records, the fallback to the empty record
and the test of the block number are the code's; that decoding is canonical is a property
of `parity-scale-codec`.
-/
import OffchainWorkerDemo.Blocks
import Mathlib.Data.List.Induction

namespace OffchainWorkerDemo

variable {A J : Type}

/-! ## The derived codecs -/

/-- A variant number is that of the kind it is read as. -/
theorem OcwGarble.GrpcCallKind.index_ofIndex (i : Fin 2) : (ofIndex i).index = i := by
  revert i
  decide

theorem OcwCircuits.GrpcCallKind.index_ofIndex (i : Fin 2) : (ofIndex i).index = i := by
  revert i
  decide

/-- **The codec of a garbling job** accepts encodings only. -/
theorem OcwGarble.IndexingData.canonical_codec : IndexingData.codec.Canonical := by
  have hbytes : optionBytes.Canonical := Codec.canonical_bytes.option
  have hkind := Codec.canonical_variant Codec.two_le_variants
  have hfields := hbytes.prod (hbytes.prod (hbytes.prod (hbytes.prod (hbytes.prod hbytes))))
  refine (Codec.canonical_u32.prod (hkind.prod hfields)).record _ ?_
  rintro ⟨n, k, a, b, c, t, m, p⟩
  simp only [GrpcCallKind.index_ofIndex]

/-- **The codec of a circuits job** accepts encodings only. -/
theorem OcwCircuits.IndexingData.canonical_codec : IndexingData.codec.Canonical := by
  have hbytes : (Codec.option Codec.bytes).Canonical := Codec.canonical_bytes.option
  have hkind := Codec.canonical_variant Codec.two_le_variants
  refine (hbytes.prod (Codec.canonical_u32.prod hkind)).record _ ?_
  rintro ⟨v, n, k⟩
  simp only [GrpcCallKind.index_ofIndex]

namespace JobSlot

variable (slot : JobSlot J)

/-- The value under the key of the slot begins with the encoding of a job. -/
def Stores (storage : Bytes → Option Bytes) (d : J) : Prop :=
  slot.blockNumber d ≠ 0 ∧ slot.codec.Fits d ∧
    ∃ value, storage slot.key = some value ∧ slot.codec.encode d <+: value

/-- A job is found exactly where its encoding is stored, whatever follows it. -/
theorem job_eq_some_iff_stores (hcodec : slot.codec.Canonical) {storage : Bytes → Option Bytes}
    {d : J} : slot.job storage = some d ↔ slot.Stores storage d := by
  rw [job_eq_some_iff, read, Stores]
  constructor
  · rintro ⟨hread, hnumber⟩
    rcases hfound : (storage slot.key).bind slot.codec.read with _ | d'
    · -- what cannot be read is the empty record, which is no job
      rw [hfound, Option.getD_none] at hread
      exact absurd (hread ▸ slot.blockNumber_empty) hnumber
    · rw [hfound, Option.getD_some] at hread
      subst hread
      obtain ⟨value, hvalue, hd⟩ := Option.bind_eq_some_iff.mp hfound
      obtain ⟨hfits, hencode⟩ := hcodec.read_eq_some_iff.mp hd
      exact ⟨hnumber, hfits, value, hvalue, hencode⟩
  · rintro ⟨hnumber, hfits, value, hvalue, hencode⟩
    rw [hvalue, Option.bind_some, hcodec.read_eq_some_iff.mpr ⟨hfits, hencode⟩]
    exact ⟨rfl, hnumber⟩

/-- **A run of a worker** with a free lock serves the job whose encoding is stored, and does nothing
if none is. -/
theorem serves_stored (hcodec : slot.codec.Canonical) {s t : OcwState A} {serve : J → OcwState A}
    (hfree : s.locked slot.lockKey = false) (hidle : slot.Idle s → t = s)
    (hbusy : ¬ slot.Idle s → t = serve (slot.read s.storage)) :
    (∀ d, slot.Stores s.storage d → t = serve d) ∧
      ((∀ d, ¬ slot.Stores s.storage d) → t = s) := by
  constructor
  · intro d hd
    have hjob := (slot.job_eq_some_iff_stores hcodec).mpr hd
    obtain ⟨rfl, hnumber⟩ := job_eq_some_iff.mp hjob
    refine hbusy (not_or.mpr ⟨hnumber, ?_⟩)
    rw [hfree]
    exact Bool.false_ne_true
  · intro hnone
    refine hidle (Or.inl (job_eq_none_iff.mp ?_))
    rw [Option.eq_none_iff_forall_ne_some]
    exact fun d hd => hnone d ((slot.job_eq_some_iff_stores hcodec).mp hd)

/-- The slot is absent, or stores the empty record or one of the jobs and no other byte. -/
def Exact (jobs : List J) (storage : Bytes → Option Bytes) : Prop :=
  storage slot.key = none ∨ ∃ d, (d = slot.empty ∨ d ∈ jobs) ∧ slot.codec.Fits d ∧
    storage slot.key = some (slot.codec.encode d)

variable {slot}

theorem Exact.mono {jobs jobs' : List J} {storage : Bytes → Option Bytes}
    (h : slot.Exact jobs storage) (hjobs : ∀ d ∈ jobs, d ∈ jobs') : slot.Exact jobs' storage := by
  rcases h with hnone | ⟨d, rfl | hd, hfits, hstored⟩
  · exact Or.inl hnone
  · exact Or.inr ⟨_, Or.inl rfl, hfits, hstored⟩
  · exact Or.inr ⟨d, Or.inr (hjobs d hd), hfits, hstored⟩

theorem Exact.congr {jobs : List J} {storage storage' : Bytes → Option Bytes}
    (h : slot.Exact jobs storage) (heq : storage' slot.key = storage slot.key) :
    slot.Exact jobs storage' := by
  unfold Exact
  rw [heq]
  exact h

/-- A job that is written is what is stored. -/
theorem Exact.flush {jobs : List J} {s : OcwState A} (h : slot.Exact jobs s.storage) (o : Option J)
    (ho : ∀ d, o = some d → slot.codec.Fits d) :
    slot.Exact (jobs ++ o.toList)
      (s.flush (o.map fun d => (slot.key, slot.codec.encode d)).toList).storage := by
  rcases o with _ | d
  · exact h.mono fun d hd => List.mem_append_left _ hd
  · refine Or.inr ⟨d, Or.inr (List.mem_append_right _ (List.mem_singleton_self d)), ho d rfl, ?_⟩
    exact OcwState.put_storage_self ..

/-- Writes under another key do not concern the slot. -/
theorem flush_storage_of_ne {I : Type} (s : OcwState A) (o : Option I) {key : Bytes}
    (hkey : slot.key ≠ key) (encode : I → Bytes) :
    (s.flush (o.map fun d => (key, encode d)).toList).storage slot.key = s.storage slot.key := by
  rcases o with _ | d
  · rfl
  · exact OcwState.put_storage_of_ne _ _ _ hkey

/-- A worker of the pallet leaves the slot as it is, or resets it. -/
theorem Exact.processIfNeededWith {ε : Type} {jobs : List J} {env : OcwEnv A}
    {process : J → Worker A ε Unit} {s : OcwState A} (h : slot.Exact jobs s.storage)
    (hprocess : ∀ d, Exec.Within OcwState.Extends (process d)) :
    slot.Exact jobs (processIfNeededWith env slot process s).state.storage := by
  by_cases hidle : slot.Idle s
  · rw [processIfNeededWith_idle env slot process hidle]
    exact h
  · rw [processIfNeededWith_storage env hprocess hidle]
    refine Or.inr ⟨slot.empty, Or.inl rfl, slot.fits_empty, ?_⟩
    exact OcwState.put_storage_self ..

end JobSlot

/-- **A worker finds a job exactly where its encoding is stored**: a job of either pallet is found
in its slot if and only if the value stored there begins with the encoding of that job; and a run
with a free lock resets the slot and leaves the outcome of that very job, or changes nothing if no
job is stored so. -/
theorem job_found_iff (garbleApi : OcwGarble.Api) (circuitsApi : OcwCircuits.Api) (env : OcwEnv A) :
    (∀ storage d, OcwGarble.slot.job storage = some d ↔
      d.blockNumber ≠ 0 ∧ OcwGarble.IndexingData.codec.Fits d ∧
        ∃ value, storage OcwGarble.jobKey = some value ∧
          OcwGarble.IndexingData.codec.encode d <+: value) ∧
    (∀ storage d, OcwCircuits.slot.job storage = some d ↔
      d.blockNumber ≠ 0 ∧ OcwCircuits.IndexingData.codec.Fits d ∧
        ∃ value, storage OcwCircuits.jobKey = some value ∧
          OcwCircuits.IndexingData.codec.encode d <+: value) ∧
    (∀ s : OcwState A, s.locked OcwGarble.slot.lockKey = false →
      (∀ d, OcwGarble.slot.Stores s.storage d →
        (OcwGarble.processIfNeeded garbleApi env s).state =
          OcwGarble.slot.served env (OcwGarble.outcome garbleApi env s.posted.length d) s) ∧
      ((∀ d, ¬ OcwGarble.slot.Stores s.storage d) →
        (OcwGarble.processIfNeeded garbleApi env s).state = s)) ∧
    (∀ s : OcwState A, s.locked OcwCircuits.slot.lockKey = false →
      (∀ d, OcwCircuits.slot.Stores s.storage d →
        (OcwCircuits.processIfNeeded circuitsApi env s).state =
          OcwCircuits.slot.served env (OcwCircuits.outcome circuitsApi env s.posted.length d) s) ∧
      ((∀ d, ¬ OcwCircuits.slot.Stores s.storage d) →
        (OcwCircuits.processIfNeeded circuitsApi env s).state = s)) := by
  refine ⟨?_, ?_, ?_, ?_⟩
  · exact fun _ _ => OcwGarble.slot.job_eq_some_iff_stores OcwGarble.IndexingData.canonical_codec
  · exact fun _ _ =>
      OcwCircuits.slot.job_eq_some_iff_stores OcwCircuits.IndexingData.canonical_codec
  · intro s hfree
    refine OcwGarble.slot.serves_stored OcwGarble.IndexingData.canonical_codec hfree ?_ ?_
    · exact fun hidle =>
        congrArg Ended.state (processIfNeededWith_idle env OcwGarble.slot _ hidle)
    · exact fun hidle => OcwGarble.processIfNeeded_state_eq garbleApi env hidle
  · intro s hfree
    refine OcwCircuits.slot.serves_stored OcwCircuits.IndexingData.canonical_codec hfree ?_ ?_
    · exact fun hidle =>
        congrArg Ended.state (processIfNeededWith_idle env OcwCircuits.slot _ hidle)
    · exact fun hidle => OcwCircuits.processIfNeeded_state_eq circuitsApi env hidle

/-! ## Along a run -/

variable [DecidableEq A] (garbleApi : OcwGarble.Api) (circuitsApi : OcwCircuits.Api)

/-- The chain of a node is what its calls make of it. -/
theorem Node.chain_run (s : Node A) (es : List (NodeEvent A)) :
    (Node.run garbleApi circuitsApi s es).chain =
      runFrom s.chain (es.filterMap NodeEvent.call?) := by
  induction es generalizing s with
  | nil => rfl
  | cons e es ih =>
    refine (ih (Node.step garbleApi circuitsApi s e)).trans ?_
    rcases e with x | env | env
    · rfl
    · rfl
    · rfl

/-- **A call** writes the record of its request to the slot of its pallet. -/
theorem slots_exact_call {s : Node A} {garbleJobs : List OcwGarble.IndexingData}
    {circuitsJobs : List OcwCircuits.IndexingData}
    (hgarble : OcwGarble.slot.Exact garbleJobs s.ocw.storage)
    (hcircuits : OcwCircuits.slot.Exact circuitsJobs s.ocw.storage) (x : SignedCall A) :
    OcwGarble.slot.Exact (garbleJobs ++ (OcwGarble.jobOf x s.chain).toList)
      (Node.step garbleApi circuitsApi s (.call x)).ocw.storage ∧
    OcwCircuits.slot.Exact (circuitsJobs ++ (OcwCircuits.jobOf x s.chain).toList)
      (Node.step garbleApi circuitsApi s (.call x)).ocw.storage := by
  rw [Node.step, SignedCall.indexed_eq_jobs, OcwState.flush_append]
  constructor
  · refine (hgarble.flush _ fun d hd => (OcwGarble.fits_of_jobOf hd).1).congr ?_
    exact JobSlot.flush_storage_of_ne _ _ garbleKey_ne_circuitsKey _
  · refine JobSlot.Exact.flush (hcircuits.congr ?_) _ fun d hd => (OcwCircuits.fits_of_jobOf hd).1
    exact JobSlot.flush_storage_of_ne _ _ garbleKey_ne_circuitsKey.symm _

/-- **A worker** resets the slot of its pallet at most. -/
theorem slots_exact_worker {s : Node A} {garbleJobs : List OcwGarble.IndexingData}
    {circuitsJobs : List OcwCircuits.IndexingData}
    (hgarble : OcwGarble.slot.Exact garbleJobs s.ocw.storage)
    (hcircuits : OcwCircuits.slot.Exact circuitsJobs s.ocw.storage) {e : NodeEvent A}
    (hne : ∀ x, e ≠ .call x) :
    OcwGarble.slot.Exact garbleJobs (Node.step garbleApi circuitsApi s e).ocw.storage ∧
    OcwCircuits.slot.Exact circuitsJobs (Node.step garbleApi circuitsApi s e).ocw.storage := by
  rcases e with x | env | env
  · exact absurd rfl (hne x)
  · refine ⟨hgarble.processIfNeededWith (OcwGarble.within_processJob garbleApi env),
      hcircuits.congr ?_⟩
    exact processIfNeededWith_storage_of_ne env (OcwGarble.within_processJob garbleApi env) s.ocw
      garbleKey_ne_circuitsKey.symm
  · refine ⟨hgarble.congr ?_,
      hcircuits.processIfNeededWith (OcwCircuits.within_processJob circuitsApi env)⟩
    exact processIfNeededWith_storage_of_ne env (OcwCircuits.within_processJob circuitsApi env)
      s.ocw garbleKey_ne_circuitsKey

/-- **The slots of a node are exact**: along every run of calls and workers, in whatever
environments these run and however they end, the slot of each pallet is absent, or it stores
exactly the encoding of the empty record or of a request that was accepted. -/
theorem slots_exact (chain : Chain A) (es : List (NodeEvent A)) :
    OcwGarble.slot.Exact
      ((garblePallet garbleApi circuitsApi).jobs chain (es.filterMap NodeEvent.call?))
      (Node.run garbleApi circuitsApi (.launch chain) es).ocw.storage ∧
    OcwCircuits.slot.Exact
      ((circuitsPallet garbleApi circuitsApi).jobs chain (es.filterMap NodeEvent.call?))
      (Node.run garbleApi circuitsApi (.launch chain) es).ocw.storage := by
  induction es using List.reverseRecOn with
  | nil => exact ⟨Or.inl rfl, Or.inl rfl⟩
  | append_singleton es e ih =>
    obtain ⟨hgarble, hcircuits⟩ := ih
    have hrun : Node.run garbleApi circuitsApi (.launch chain) (es ++ [e]) =
        Node.step garbleApi circuitsApi (Node.run garbleApi circuitsApi (.launch chain) es) e :=
      List.foldl_concat ..
    rw [List.filterMap_append, hrun]
    by_cases hcall : ∃ x, e = .call x
    · obtain ⟨x, rfl⟩ := hcall
      have hchain : (Node.run garbleApi circuitsApi (.launch chain) es).chain =
          runFrom chain (es.filterMap NodeEvent.call?) := Node.chain_run garbleApi circuitsApi _ es
      rw [OcwPallet.jobs_append, OcwPallet.jobs_append, ← hchain]
      have hstep := slots_exact_call garbleApi circuitsApi hgarble hcircuits x
      rw [← List.append_nil (OcwGarble.jobOf x _).toList,
        ← List.append_nil (OcwCircuits.jobOf x _).toList] at hstep
      exact hstep
    · have hne : ∀ x, e ≠ .call x := fun x hx => hcall ⟨x, hx⟩
      rw [List.filterMap_cons_none (OcwPallet.chain_step_of_ne garbleApi circuitsApi
        (s := .launch chain) hne).2, List.filterMap_nil, List.append_nil]
      exact slots_exact_worker garbleApi circuitsApi hgarble hcircuits hne

end OffchainWorkerDemo
