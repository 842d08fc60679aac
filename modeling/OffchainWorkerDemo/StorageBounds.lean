/-
# The bounds of what is stored

Three calls store results of the worker: `store_metadata` and the two callbacks.  The
cids and the digits they are given go into bounded vectors.  Within the bounds a call
makes all its writes; past any of them the conversion is unwrapped and the call traps.
No call returns the error that is declared for it.
-/
import OffchainWorkerDemo.Runtime

namespace OffchainWorkerDemo

variable {A : Type}

/-! ## The arguments -/

namespace Call

/-- The calls that store a result of the worker. -/
def StoresResult : Call → Prop
  | .storeMetadata _ _ _ => True
  | .callbackNewGarbledAndStripSigned _ _ _ _ _ _ => True
  | .callbackNewDisplayCircuitsPackageSigned _ _ _ _ => True
  | _ => False

/-- The cids such a call is given. -/
def cids : Call → List Bytes
  | .storeMetadata c _ _ => [c]
  | .callbackNewGarbledAndStripSigned mg mk _ pg pk _ => [mg, mk, pg, pk]
  | .callbackNewDisplayCircuitsPackageSigned m _ p _ => [m, p]
  | _ => []

/-- The digit lists such a call is given. -/
def digitLists : Call → List Bytes
  | .storeMetadata _ m p => [m, p]
  | .callbackNewGarbledAndStripSigned _ _ md _ _ pd => [md, pd]
  | _ => []

/-- Every cid and every digit list is within its bound. -/
def Storable (call : Call) : Prop :=
  (∀ c ∈ call.cids, c.length ≤ 64) ∧ ∀ d ∈ call.digitLists, d.length ≤ 10

theorem storable_storeMetadata {c m p : Bytes} :
    (storeMetadata c m p).Storable ↔ (TxValidation.metadataEntry c m p).isSome := by
  rw [TxValidation.metadataEntry_isSome_iff]
  simp [Storable, cids, digitLists]

theorem storable_strip {mg mk md pg pk pd : Bytes} :
    (callbackNewGarbledAndStripSigned mg mk md pg pk pd).Storable ↔
      OcwGarble.StripStorable mg mk md pg pk pd := by
  simp only [Storable, cids, digitLists, List.forall_mem_cons, List.not_mem_nil, false_imp_iff,
    implies_true, and_true]
  constructor
  · rintro ⟨⟨hmg, hmk, hpg, hpk⟩, hmd, hpd⟩
    exact ⟨hmg, hmk, hmd, hpg, hpk, hpd⟩
  · rintro ⟨hmg, hmk, hmd, hpg, hpk, hpd⟩
    exact ⟨⟨hmg, hmk, hpg, hpk⟩, hmd, hpd⟩

theorem storable_display {m p : Bytes} {nm np : UInt32} :
    (callbackNewDisplayCircuitsPackageSigned m nm p np).Storable ↔
      (OcwCircuits.displayEntry m nm p np).isSome := by
  rw [OcwCircuits.displayEntry_isSome_iff]
  simp [Storable, cids, digitLists]

end Call

/-! ## All the writes -/

/-- The state after all writes and events of such a call: what is stored are its arguments. -/
inductive Performs [DecidableEq A] (who : A) (s : Chain A) : Call → Chain A → Prop
  | storeMetadata (cid : Cid) (pkg : DisplayValidationPackage) :
    Performs who s
      (.storeMetadata cid.val pkg.messageDigits.val pkg.pinpadDigits.val)
      ((s.deposit (.debugNewDigitsSet pkg.messageDigits.val pkg.pinpadDigits.val)).insertMetadata
        who cid pkg)
  | strip (pkg : DisplayStrippedCircuitsPackage) (digits : DisplayValidationPackage)
      (l : PendingCircuitsType) (hl : l.val = (s.pending who).val ++ [pkg])
      (hdigits : digits.messageDigits.val.length = pkg.messageNbDigits.toNat) :
    Performs who s
      (.callbackNewGarbledAndStripSigned pkg.messagePgarbledCid.val pkg.messagePackmsgCid.val
        digits.messageDigits.val pkg.pinpadPgarbledCid.val pkg.pinpadPackmsgCid.val
        digits.pinpadDigits.val)
      ((((s.deposit (.newGarbleAndStrippedIpfsCid pkg.messagePgarbledCid.val
        pkg.messagePackmsgCid.val pkg.pinpadPgarbledCid.val pkg.pinpadPackmsgCid.val)).deposit
        (.debugNewDigitsSet digits.messageDigits.val digits.pinpadDigits.val)).insertMetadata
        who pkg.messagePgarbledCid digits).insertPending who l)
  | display (pkg : DisplaySkcdPackage) :
    Performs who s
      (.callbackNewDisplayCircuitsPackageSigned pkg.messageSkcdCid.val
        pkg.messageSkcdServerMetadataNbDigits pkg.pinpadSkcdCid.val
        pkg.pinpadSkcdServerMetadataNbDigits)
      ((s.deposit (.newDisplaySkcdPackageIpfsCid pkg.messageSkcdCid.val
        pkg.pinpadSkcdCid.val)).setDisplay pkg)

variable [DecidableEq A]

/-- **Within the bounds** such a call makes all its writes. -/
theorem outcome_of_storable (env : Env) {who : A} {call : Call} {s : Chain A}
    (hcall : call.StoresResult) (hutf8 : ∀ c ∈ call.cids, IsUtf8 c)
    (hroom : (s.pending who).val.length < maxNumberPendingCircuitsPerAccount)
    (hstorable : call.Storable) :
    ∃ t, (dispatch env (.signed who) call s).outcome = some (.ok (), t) ∧ Performs who s call t := by
  rcases call with ⟨c, m, p⟩ | _ | _ | _ | _ | _ | ⟨m, nm, p, np⟩ | _ | _ | _ |
    ⟨mg, mk, md, pg, pk, pd⟩
  case storeMetadata =>
    obtain ⟨⟨cid, pkg⟩, hentry⟩ :=
      Option.isSome_iff_exists.mp (Call.storable_storeMetadata.mp hstorable)
    have houtcome := TxValidation.outcome_storeMetadataAux who c m p s
    rw [hentry, Option.map_some] at houtcome
    refine ⟨_, houtcome, ?_⟩
    obtain ⟨rfl, rfl, rfl⟩ := TxValidation.metadataEntry_eq_some_iff.mp hentry
    exact .storeMetadata cid pkg
  case callbackNewDisplayCircuitsPackageSigned =>
    have hlog : LogOk env [(m, "message_skcd_cid utf8"), (p, "pinpad_skcd_cid utf8")] := by
      intro _
      simpa [Call.cids] using hutf8
    obtain ⟨pkg, hpkg⟩ := Option.isSome_iff_exists.mp (Call.storable_display.mp hstorable)
    have houtcome :=
      OcwCircuits.outcome_callbackNewDisplayCircuitsPackageSigned env who m p nm np s
    rw [if_pos hlog, hpkg, Option.map_some] at houtcome
    refine ⟨_, houtcome, ?_⟩
    obtain ⟨rfl, rfl, rfl, rfl⟩ := OcwCircuits.displayEntry_eq_some_iff.mp hpkg
    exact .display pkg
  case callbackNewGarbledAndStripSigned =>
    have hlog : LogOk env (OcwGarble.stripLogArgs mg mk pg pk) := by
      intro _
      simpa [Call.cids, OcwGarble.stripLogArgs] using hutf8
    obtain ⟨r, hr⟩ := Option.isSome_iff_exists.mp (OcwGarble.stripResult_isSome_iff.mpr
      ⟨hlog, Call.storable_strip.mp hstorable, hroom⟩)
    have houtcome :=
      OcwGarble.outcome_callbackNewGarbledAndStripSigned env who mg mk md pg pk pd s
    rw [hr, Option.map_some] at houtcome
    refine ⟨_, houtcome, ?_⟩
    rcases r with ⟨⟨cid, digits⟩, l⟩
    obtain ⟨-, hentry, pkg, hpkg, hl⟩ := OcwGarble.stripResult_eq_some_iff.mp hr
    obtain ⟨hcid, rfl, rfl⟩ := TxValidation.metadataEntry_eq_some_iff.mp hentry
    obtain ⟨rfl, rfl, rfl, rfl, hn⟩ := OcwGarble.strippedPackage_eq_some_iff.mp hpkg
    -- the entry is stored under the message cid of the package
    obtain rfl : cid = pkg.messagePgarbledCid := BoundedVec.ext_val hcid
    exact .strip pkg digits l hl (OcwGarble.u32TryFrom_toNat hn)
  all_goals exact hcall.elim

/-- **Past a bound** it traps. -/
theorem outcome_of_not_storable (env : Env) (who : A) {call : Call} (s : Chain A)
    (hcall : call.StoresResult) (hnot : ¬ call.Storable) :
    (dispatch env (.signed who) call s).outcome = none := by
  rcases call with ⟨c, m, p⟩ | _ | _ | _ | _ | _ | ⟨m, nm, p, np⟩ | _ | _ | _ |
    ⟨mg, mk, md, pg, pk, pd⟩
  case storeMetadata =>
    rw [Call.storable_storeMetadata, Option.not_isSome_iff_eq_none] at hnot
    show (TxValidation.storeMetadataAux (.signed who) c m p s).outcome = none
    rw [TxValidation.outcome_storeMetadataAux, hnot, Option.map_none]
  case callbackNewDisplayCircuitsPackageSigned =>
    rw [Call.storable_display, Option.not_isSome_iff_eq_none] at hnot
    show (OcwCircuits.callbackNewDisplayCircuitsPackageSigned env (.signed who) m nm p np
      s).outcome = none
    rw [OcwCircuits.outcome_callbackNewDisplayCircuitsPackageSigned, hnot, Option.map_none,
      ite_self]
  case callbackNewGarbledAndStripSigned =>
    rw [Call.storable_strip] at hnot
    have hnone : OcwGarble.stripResult env (s.pending who) mg mk md pg pk pd = none := by
      rw [← Option.not_isSome_iff_eq_none, OcwGarble.stripResult_isSome_iff]
      rintro ⟨-, hstorable, -⟩
      exact hnot hstorable
    show (OcwGarble.callbackNewGarbledAndStripSigned env (.signed who) mg mk md pg pk pd
      s).outcome = none
    rw [OcwGarble.outcome_callbackNewGarbledAndStripSigned, hnone, Option.map_none]
  all_goals exact hcall.elim

/-! ## All or nothing -/

/-- The call returns `Ok` with all its writes made, exactly within the bounds, or an error with
nothing changed; in `tx-validation` the error is `StorageOverflow`. -/
structure SignedCall.AllOrNothing (x : SignedCall A) (s : Chain A) : Prop where
  returns : x.result s ≠ none
  ok_iff : x.result s = some (.ok ()) ↔ x.call.Storable
  performs : x.result s = some (.ok ()) → Performs x.who s x.call (x.apply s)
  refuses : ∀ e, x.result s = some (.error e) →
    SameStorage s (x.apply s) ∧ (x.apply s).events = s.events ∧
      ∀ c m p, x.call = .storeMetadata c m p → e = .storageOverflow

/-- **A call that stores a result is all or nothing exactly within the bounds.** -/
theorem allOrNothing_iff {x : SignedCall A} {s : Chain A} (hcall : x.call.StoresResult)
    (hutf8 : ∀ c ∈ x.call.cids, IsUtf8 c)
    (hroom : (s.pending x.who).val.length < maxNumberPendingCircuitsPerAccount) :
    x.AllOrNothing s ↔ x.call.Storable := by
  constructor
  · intro h
    by_contra hnot
    exact h.returns
      (SignedCall.result_of_outcome_none (outcome_of_not_storable x.env x.who s hcall hnot))
  · intro hstorable
    obtain ⟨t, houtcome, hperforms⟩ := outcome_of_storable x.env hcall hutf8 hroom hstorable
    obtain ⟨hres, happly⟩ := SignedCall.result_apply_of_outcome houtcome
    refine ⟨?_, iff_of_true hres hstorable, fun _ => by rwa [happly], ?_⟩
    · rw [hres]
      exact Option.some_ne_none _
    · intro e he
      rw [hres] at he
      cases he

/-- A callback within the bounds. -/
def smallCallback : SignedCall ℕ :=
  ⟨default, 0, .callbackNewGarbledAndStripSigned [1] [2] [3] [4] [5] OcwGarble.tenDigits⟩

theorem allOrNothing_smallCallback : smallCallback.AllOrNothing (Chain.empty ℕ) :=
  (allOrNothing_iff (x := smallCallback) (s := Chain.empty ℕ) trivial
    (by simp only [smallCallback, Call.cids, List.forall_mem_cons]; decide) (by decide)).mpr
    (Call.storable_strip.mpr ⟨by decide, by decide, by decide, by decide, by decide, by decide⟩)

/-- A cid of 65 letters. -/
def longCid : Bytes := List.replicate 65 97

theorem isUtf8_longCid : IsUtf8 longCid := by
  apply isUtf8_of_ascii
  intro b hb
  obtain rfl := List.eq_of_mem_replicate hb
  decide

/-- The call that is given it. -/
def longStore : SignedCall ℕ := ⟨default, 0, .storeMetadata longCid [3] OcwGarble.tenDigits⟩

/-- A cid of 65 bytes traps `store_metadata`, which does not return `StorageOverflow`. -/
theorem not_allOrNothing_longStore :
    longStore.call.StoresResult ∧ (∀ c ∈ longStore.call.cids, IsUtf8 c) ∧
      ((Chain.empty ℕ).pending longStore.who).val.length < maxNumberPendingCircuitsPerAccount ∧
      ¬ longStore.AllOrNothing (Chain.empty ℕ) := by
  have hcall : longStore.call.StoresResult := trivial
  refine ⟨hcall, ?_, by decide, ?_⟩
  · intro c hc
    obtain rfl := List.mem_singleton.mp hc
    exact isUtf8_longCid
  · intro h
    have hnot : ¬ longStore.call.Storable := by
      intro hstorable
      exact absurd (hstorable.1 longCid (List.mem_singleton.mpr rfl)) (by decide)
    exact h.returns
      (SignedCall.result_of_outcome_none (outcome_of_not_storable _ _ _ hcall hnot))

end OffchainWorkerDemo
