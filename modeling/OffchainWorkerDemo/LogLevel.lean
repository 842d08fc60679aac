/-
# Log level and consensus

The `log::info!` statements print byte strings through `from_utf8(..).expect(..)`,
so on a node that logs they can stop a call which goes through on one that does
not.  `printed` lists what a call prints and `Completes` says when it goes
through without logging; the two nodes agree exactly when a completing call
prints UTF-8 only.
-/
import OffchainWorkerDemo.Runtime

namespace OffchainWorkerDemo

variable {A : Type}

/-- What the log statements of a call print, as far as the call gets. -/
def printed (s : Chain A) (who : A) : Call → List Bytes
  | .checkInput c _ => match TxValidation.storedPackage s who c with
    | some pkg => [pkg.pinpadDigits.val]
    | none => []
  | .submitConfigGenericSigned c | .callbackNewSkcdSigned c | .garbleStandardSigned c
  | .callbackNewGarbledSigned c => [c]
  | .callbackNewDisplayCircuitsPackageSigned m _ p _ => [m, p]
  | .garbleAndStripDisplayCircuitsPackageSigned t =>
    t :: match (OcwCircuits.getDisplayCircuitsPackage s).toOption with
      | some pkg => [pkg.messageSkcdCid.val, pkg.pinpadSkcdCid.val]
      | none => []
  | .callbackNewGarbledAndStripSigned mg mk _ pg pk _ => [mg, mk, pg, pk]
  | .storeMetadata .. | .registerMobile _ | .submitConfigDisplayCircuitsPackageSigned => []

/-- The call does not trap on a node that does not log. -/
def Completes (s : Chain A) (who : A) : Call → Prop
  | .storeMetadata c m p => c.length ≤ 64 ∧ m.length ≤ 10 ∧ p.length ≤ 10
  | .checkInput c input => ∃ pkg, TxValidation.storedPackage s who c = some pkg ∧
      TxValidation.Typeable pkg.pinpadDigits.val input
  | .registerMobile k => k.length ≤ maxPubKeyLen
  | .submitConfigGenericSigned c | .callbackNewSkcdSigned c | .garbleStandardSigned c
  | .callbackNewGarbledSigned c => c.length < 2 ^ 32
  | .submitConfigDisplayCircuitsPackageSigned => True
  | .callbackNewDisplayCircuitsPackageSigned m _ p _ => m.length ≤ 64 ∧ p.length ≤ 64
  | .garbleAndStripDisplayCircuitsPackageSigned t =>
      (∃ pkg, OcwCircuits.getDisplayCircuitsPackage s = .ok pkg) ∧ t.length < 2 ^ 32
  | .callbackNewGarbledAndStripSigned mg mk md pg pk pd =>
      OcwGarble.StripStorable mg mk md pg pk pd ∧
      (s.pending who).val.length < maxNumberPendingCircuitsPerAccount

/-- Everything the call prints is UTF-8. -/
def PrintsUtf8 (s : Chain A) (who : A) (call : Call) : Prop := ∀ v ∈ printed s who call, IsUtf8 v

/-- Logging does not change a call that prints UTF-8 only. -/
theorem effect_withInfo_of_printsUtf8 {env : Env} {who : A} {s : Chain A} {call : Call}
    (h : PrintsUtf8 s who call) :
    effect (env.withInfo true) who s call = effect (env.withInfo false) who s call := by
  unfold PrintsUtf8 at h
  cases call with
  -- two calls print what is stored, and nothing if nothing is
  | checkInput c input =>
    cases hpkg : TxValidation.storedPackage s who c with
    | none => simp [effect, hpkg]
    | some pkg =>
      simp only [printed, hpkg, List.forall_mem_singleton] at h
      simp [effect, hpkg, TxValidation.checkVerdict_withInfo_true, h]
  | garbleAndStripDisplayCircuitsPackageSigned t =>
    cases hpkg : (OcwCircuits.getDisplayCircuitsPackage s).toOption with
    | none => simp [effect, hpkg]
    | some pkg =>
      simp only [printed, hpkg, List.forall_mem_cons, List.not_mem_nil] at h
      simp [effect, hpkg, OcwGarble.drawnDigits_withInfo, h]
  | storeMetadata c m p => rfl
  | registerMobile k => rfl
  | submitConfigDisplayCircuitsPackageSigned => rfl
  | submitConfigGenericSigned c
  | callbackNewSkcdSigned c
  | garbleStandardSigned c
  | callbackNewGarbledSigned c
  | callbackNewDisplayCircuitsPackageSigned m nm p np =>
    simp only [printed, List.forall_mem_cons, List.not_mem_nil] at h
    simp [effect, h]
  | callbackNewGarbledAndStripSigned mg mk md pg pk pd =>
    simp only [printed, List.forall_mem_cons, List.not_mem_nil] at h
    simp [effect, OcwGarble.stripResult, OcwGarble.stripLogArgs, h]

/-- A node that logs traps on a call that prints anything else. -/
theorem effect_withInfo_of_not_printsUtf8 {env : Env} {who : A} {s : Chain A} {call : Call}
    (h : ¬ PrintsUtf8 s who call) : effect (env.withInfo true) who s call = none := by
  unfold PrintsUtf8 at h
  cases call with
  | checkInput c input =>
    cases hpkg : TxValidation.storedPackage s who c with
    | none => simp [effect, hpkg]
    | some pkg =>
      simp only [printed, hpkg, List.forall_mem_singleton] at h
      simp [effect, hpkg, TxValidation.checkVerdict_withInfo_true, h]
  | garbleAndStripDisplayCircuitsPackageSigned t =>
    cases hpkg : (OcwCircuits.getDisplayCircuitsPackage s).toOption with
    | none => simp [effect, hpkg]
    | some pkg =>
      have h' : IsUtf8 t → ¬ (IsUtf8 pkg.messageSkcdCid.val ∧ IsUtf8 pkg.pinpadSkcdCid.val) := by
        simpa [printed, hpkg] using h
      -- it stops at the message, or at the cids printed after it
      by_cases ht : IsUtf8 t
      · have hcids := h' ht
        simp only [effect, hpkg, logOk_withInfo_true, Option.bind_some]
        split
        · rw [if_neg]
          rintro ⟨hlog, -⟩
          exact hcids (by simpa using hlog)
        · rfl
      · simp [effect, ht]
  | storeMetadata c m p => simp [printed] at h
  | registerMobile k => simp [printed] at h
  | submitConfigDisplayCircuitsPackageSigned => simp [printed] at h
  | submitConfigGenericSigned c
  | callbackNewSkcdSigned c
  | garbleStandardSigned c
  | callbackNewGarbledSigned c =>
    have hc : ¬ IsUtf8 c := by simpa [printed] using h
    simp [effect, hc]
  | callbackNewDisplayCircuitsPackageSigned m nm p np =>
    have hlog : ¬ LogOk (env.withInfo true)
        [(m, "message_skcd_cid utf8"), (p, "pinpad_skcd_cid utf8")] := by
      simpa [printed] using h
    simp only [effect]
    rw [if_neg hlog]
  | callbackNewGarbledAndStripSigned mg mk md pg pk pd =>
    have hlog : ¬ LogOk (env.withInfo true) (OcwGarble.stripLogArgs mg mk pg pk) := by
      simpa [printed, OcwGarble.stripLogArgs] using h
    simp only [effect, OcwGarble.stripResult]
    rw [if_neg hlog]
    rfl

/-- **When a call completes** on a node that does not log. -/
theorem effect_isSome_iff (env : Env) (who : A) (s : Chain A) (call : Call) :
    (effect (env.withInfo false) who s call).isSome ↔ Completes s who call := by
  cases call with
  | storeMetadata c m p =>
    rw [effect, Option.isSome_map, TxValidation.metadataEntry_isSome_iff]
    rfl
  | checkInput c input =>
    cases hpkg : TxValidation.storedPackage s who c with
    | none => simp [effect, Completes, hpkg]
    | some pkg =>
      simp only [effect, Completes, hpkg, Option.bind_some, Option.isSome_map, Option.some_inj,
        exists_eq_left', ← TxValidation.lookupDigits_isSome_iff, TxValidation.checkVerdict]
      cases TxValidation.lookupDigits pkg.pinpadDigits.val input <;> simp [Env.withInfo]
  | registerMobile k =>
    simp only [effect, Completes]
    split
    · by_cases hk : k.length ≤ maxPubKeyLen
      · simp [BoundedVec.tryFrom_of_le hk, hk]
      · simp [BoundedVec.tryFrom_of_not_le hk, hk]
    · -- a short key is refused with an error, which is no trap
      have : k.length ≤ maxPubKeyLen := by
        unfold maxPubKeyLen
        omega
      simp [this]
  | submitConfigDisplayCircuitsPackageSigned => simp [effect, Completes]
  | submitConfigGenericSigned c =>
    simp [effect, Completes, OcwCircuits.IndexingData.fits_iff, OcwCircuits.genericJob]
  | callbackNewSkcdSigned c
  | callbackNewGarbledSigned c => simp [effect, Completes]
  | garbleStandardSigned c =>
    simp [effect, Completes, OcwGarble.IndexingData.fits_iff, OcwGarble.standardJob,
      OcwGarble.IndexingData.fields]
  | callbackNewDisplayCircuitsPackageSigned m nm p np =>
    simp [effect, Completes, OcwCircuits.displayEntry_isSome_iff]
  | garbleAndStripDisplayCircuitsPackageSigned t =>
    cases hpkg : OcwCircuits.getDisplayCircuitsPackage s with
    | error e => simp [effect, Completes, hpkg, Except.toOption]
    | ok pkg =>
      simp [effect, Completes, hpkg, Except.toOption, OcwGarble.drawnDigits,
        OcwGarble.fits_stripJob_iff]
  | callbackNewGarbledAndStripSigned mg mk md pg pk pd =>
    simp [effect, OcwGarble.stripResult_isSome_iff, Completes]

/-! ## Two nodes -/

/-- A call ends in the same way, with the same storage, events and index writes, on a
node that logs and on one that does not. -/
def LogLevelAgnostic [DecidableEq A] (env : Env) (who : A) (s : Chain A) (call : Call) : Prop :=
  (dispatch (env.withInfo true) (.signed who) call s).outcome =
    (dispatch (env.withInfo false) (.signed who) call s).outcome

/-- **The two nodes agree on a call exactly when it traps anyway or prints UTF-8 only**:
over its bounds, not ready, without room or without an entry, or all of what
`printed` lists is UTF-8. -/
theorem logLevelAgnostic_iff [DecidableEq A] (env : Env) (who : A) (s : Chain A) (call : Call) :
    LogLevelAgnostic env who s call ↔ (Completes s who call → PrintsUtf8 s who call) := by
  unfold LogLevelAgnostic
  rw [outcome_dispatch, outcome_dispatch, ← effect_isSome_iff env]
  by_cases hprint : PrintsUtf8 s who call
  · rw [effect_withInfo_of_printsUtf8 hprint]
    simp [hprint]
  · rw [effect_withInfo_of_not_printsUtf8 hprint]
    cases effect (env.withInfo false) who s call <;> simp [hprint]

/-- A request with a cid that is not UTF-8: a node that logs traps, the other one
accepts it. -/
theorem not_logLevelAgnostic_garbleStandardSigned :
    ¬ LogLevelAgnostic default (0 : ℕ) (Chain.empty ℕ) (.garbleStandardSigned [0xFF]) := by
  intro h
  have hprint : ¬ PrintsUtf8 (Chain.empty ℕ) 0 (.garbleStandardSigned [0xFF]) := by
    intro hutf8
    exact absurd (hutf8 [0xFF] (List.mem_singleton.mpr rfl)) (by decide)
  have hsome : (effect ((default : Env).withInfo false) 0 (Chain.empty ℕ)
      (.garbleStandardSigned [0xFF])).isSome :=
    (effect_isSome_iff default 0 (Chain.empty ℕ) (.garbleStandardSigned [0xFF])).mpr (by
      simp [Completes])
  unfold LogLevelAgnostic at h
  rw [outcome_dispatch, outcome_dispatch, effect_withInfo_of_not_printsUtf8 hprint,
    Option.map_none, eq_comm, Option.map_eq_none_iff] at h
  rw [h] at hsome
  cases hsome

end OffchainWorkerDemo
