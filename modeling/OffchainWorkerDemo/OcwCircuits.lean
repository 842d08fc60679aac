/-
# The circuits pallet on chain

Two requests leave a job for the worker under the pallet's off-chain key, and two
callbacks publish what the worker got.  The display callback also replaces the
reference package that the garbling pallet reads.
-/
import OffchainWorkerDemo.Chain

namespace OffchainWorkerDemo

namespace OcwCircuits

variable {A : Type}

/-! ## The job record -/

/-- `GrpcCallKind` -/
inductive GrpcCallKind : Type where
  | generic
  | display
  deriving DecidableEq

/-- The variant number of a kind. -/
def GrpcCallKind.index : GrpcCallKind → Fin 2
  | .generic => ⟨0, Nat.two_pos⟩
  | .display => ⟨1, Nat.one_lt_two⟩

/-- The kind of a variant number. -/
def GrpcCallKind.ofIndex (i : Fin 2) : GrpcCallKind := if i.val = 0 then .generic else .display

/-- `IndexingData` -/
structure IndexingData where
  verilogIpfsHash : Option Bytes
  blockNumber : UInt32
  grpcKind : GrpcCallKind
  deriving DecidableEq

/-- `IndexingData::default()`, the value of an empty slot. -/
instance : Inhabited IndexingData := ⟨⟨none, 0, .generic⟩⟩

/-- The derived codec: the fields in the order they are declared in. -/
def IndexingData.codec : Codec IndexingData :=
  Codec.record (Codec.prod (Codec.option Codec.bytes)
      (Codec.prod Codec.u32 (Codec.variant 2 Codec.two_le_variants)))
    (fun d => (d.verilogIpfsHash, d.blockNumber, d.grpcKind.index))
    (fun (v, n, k) => ⟨v, n, GrpcCallKind.ofIndex k⟩)
    (by
      rintro ⟨v, n, k⟩
      cases k <;> rfl)

theorem IndexingData.fits_iff {d : IndexingData} :
    IndexingData.codec.Fits d ↔ ∀ v ∈ d.verilogIpfsHash, v.length < 2 ^ 32 := by
  constructor
  · intro h
    exact h.1
  · intro h
    exact ⟨h, trivial, trivial⟩

/-- `derived_key`, from `ONCHAIN_TX_KEY`. -/
def jobKey : Bytes := derivedKey "ocw-circuits::storage::tx"

/-- `append_or_replace_verilog_hash` -/
def appendOrReplaceVerilogHash (verilogCid : Option Bytes) (grpcKind : GrpcCallKind) :
    Dispatch A Unit :=
  offchainIndexEncoded IndexingData.codec jobKey
    { verilogIpfsHash := verilogCid, blockNumber := 1, grpcKind := grpcKind }

/-! ## The dispatchables -/

/-- `pallet_ocw_circuits::Error`, the variants in use. -/
inductive Error : Type where
  | httpFetchingError
  | displaySkcdPackageValueError
  deriving DecidableEq

/-- `get_display_circuits_package`: an error while one of the counts is zero. -/
def getDisplayCircuitsPackage (s : Chain A) : Except Error DisplaySkcdPackage :=
  let displayCircuitPackage := s.displaySkcdPackageValue
  if displayCircuitPackage.messageSkcdServerMetadataNbDigits = 0 ∨
      displayCircuitPackage.pinpadSkcdServerMetadataNbDigits = 0 then
    .error .displaySkcdPackageValueError
  else .ok displayCircuitPackage

theorem toOption_eq_some_iff {s : Chain A} {pkg : DisplaySkcdPackage} :
    (getDisplayCircuitsPackage s).toOption = some pkg ↔ getDisplayCircuitsPackage s = .ok pkg := by
  cases getDisplayCircuitsPackage s <;> simp [Except.toOption]

/-- `submit_config_generic_signed` -/
def submitConfigGenericSigned (env : Env) (origin : Origin A) (verilogCid : Bytes) :
    Dispatch A Unit := do
  let _who ← ensureSigned origin
  logInfo env [(verilogCid, "verilog_cid utf8")]
  appendOrReplaceVerilogHash (some verilogCid) .generic

/-- `submit_config_display_circuits_package_signed` -/
def submitConfigDisplayCircuitsPackageSigned (origin : Origin A) : Dispatch A Unit := do
  let _who ← ensureSigned origin
  appendOrReplaceVerilogHash none .display

/-- `callback_new_skcd_signed` -/
def callbackNewSkcdSigned (env : Env) (origin : Origin A) (skcdCid : Bytes) :
    Dispatch A Unit := do
  let _who ← ensureSigned origin
  logInfo env [(skcdCid, "skcd_cid utf8")]
  depositEvent (.newSkcdIpfsCid skcdCid)

/-- `callback_new_display_circuits_package_signed` -/
def callbackNewDisplayCircuitsPackageSigned (env : Env) (origin : Origin A)
    (messageSkcdCid : Bytes) (messageNbDigits : UInt32)
    (pinpadSkcdCid : Bytes) (pinpadNbDigits : UInt32) : Dispatch A Unit := do
  let _who ← ensureSigned origin
  logInfo env [(messageSkcdCid, "message_skcd_cid utf8"), (pinpadSkcdCid, "pinpad_skcd_cid utf8")]
  depositEvent (.newDisplaySkcdPackageIpfsCid messageSkcdCid pinpadSkcdCid)
  let message ← unwrap (BoundedVec.tryFrom 64 messageSkcdCid)
  let pinpad ← unwrap (BoundedVec.tryFrom 64 pinpadSkcdCid)
  Exec.modify (·.setDisplay
    { messageSkcdCid := message
      messageSkcdServerMetadataNbDigits := messageNbDigits
      pinpadSkcdCid := pinpad
      pinpadSkcdServerMetadataNbDigits := pinpadNbDigits })

/-! ## What they do -/

/-- The job of a generic request. -/
def genericJob (verilogCid : Bytes) : IndexingData := ⟨some verilogCid, 1, .generic⟩

/-- The job of a display request. -/
def displayJob : IndexingData := ⟨none, 1, .display⟩

theorem outcome_submitConfigGenericSigned (env : Env) (who : A) (cid : Bytes) (s : Chain A) :
    (submitConfigGenericSigned env (.signed who) cid s).outcome =
      if LogOk env [(cid, "verilog_cid utf8")] ∧ IndexingData.codec.Fits (genericJob cid) then
        some (.ok (), s.indexSet jobKey (IndexingData.codec.encode (genericJob cid)))
      else none := by
  unfold submitConfigGenericSigned appendOrReplaceVerilogHash
  rw [ensureSigned_signed_bind, outcome_logInfo_bind,
    outcome_offchainIndexEncoded, ite_and]
  rfl

theorem outcome_submitConfigDisplayCircuitsPackageSigned (who : A) (s : Chain A) :
    (submitConfigDisplayCircuitsPackageSigned (.signed who) s).outcome =
      some (.ok (), s.indexSet jobKey (IndexingData.codec.encode displayJob)) := by
  unfold submitConfigDisplayCircuitsPackageSigned appendOrReplaceVerilogHash
  have hfits : IndexingData.codec.Fits displayJob := IndexingData.fits_iff.mpr (by
    intro v hv
    cases hv)
  rw [ensureSigned_signed_bind, outcome_offchainIndexEncoded]
  exact if_pos hfits

theorem outcome_callbackNewSkcdSigned (env : Env) (who : A) (cid : Bytes) (s : Chain A) :
    (callbackNewSkcdSigned env (.signed who) cid s).outcome =
      if LogOk env [(cid, "skcd_cid utf8")] ∧ cid.length < 2 ^ 32 then
        some (.ok (), s.deposit (.newSkcdIpfsCid cid))
      else none := by
  unfold callbackNewSkcdSigned
  rw [ensureSigned_signed_bind, outcome_logInfo_bind,
    outcome_depositEvent, ite_and]
  simp [Event.Encodable, Event.vectors, Codec.bytes]

/-- The package of a display callback, when both cids are within their bound. -/
def displayEntry (messageSkcdCid : Bytes) (messageNbDigits : UInt32) (pinpadSkcdCid : Bytes)
    (pinpadNbDigits : UInt32) : Option DisplaySkcdPackage := do
  let message ← BoundedVec.tryFrom 64 messageSkcdCid
  let pinpad ← BoundedVec.tryFrom 64 pinpadSkcdCid
  some ⟨message, messageNbDigits, pinpad, pinpadNbDigits⟩

theorem displayEntry_eq_some_iff {m p : Bytes} {nm np : UInt32} {pkg : DisplaySkcdPackage} :
    displayEntry m nm p np = some pkg ↔
      pkg.messageSkcdCid.val = m ∧ pkg.messageSkcdServerMetadataNbDigits = nm ∧
      pkg.pinpadSkcdCid.val = p ∧ pkg.pinpadSkcdServerMetadataNbDigits = np := by
  obtain ⟨message, nbMessage, pinpad, nbPinpad⟩ := pkg
  simp only [displayEntry, Option.bind_eq_bind, Option.bind_eq_some_iff,
    BoundedVec.tryFrom_eq_some_iff, Option.some_inj, DisplaySkcdPackage.mk.injEq]
  constructor
  · rintro ⟨_, rfl, _, rfl, rfl, rfl, rfl, rfl⟩
    exact ⟨rfl, rfl, rfl, rfl⟩
  · rintro ⟨rfl, rfl, rfl, rfl⟩
    exact ⟨_, rfl, _, rfl, rfl, rfl, rfl, rfl⟩

theorem displayEntry_isSome_iff {m p : Bytes} {nm np : UInt32} :
    (displayEntry m nm p np).isSome ↔ m.length ≤ 64 ∧ p.length ≤ 64 := by
  rw [Option.isSome_iff_exists]
  constructor
  · rintro ⟨pkg, h⟩
    obtain ⟨rfl, -, rfl, -⟩ := displayEntry_eq_some_iff.mp h
    exact ⟨pkg.messageSkcdCid.bound, pkg.pinpadSkcdCid.bound⟩
  · rintro ⟨hm, hp⟩
    exact ⟨⟨⟨m, hm⟩, nm, ⟨p, hp⟩, np⟩, displayEntry_eq_some_iff.mpr ⟨rfl, rfl, rfl, rfl⟩⟩

/-- **What the display callback does**: it reports the two cids and replaces the
reference package, or traps when a cid is over its bound. -/
theorem outcome_callbackNewDisplayCircuitsPackageSigned (env : Env) (who : A) (m p : Bytes)
    (nm np : UInt32) (s : Chain A) :
    (callbackNewDisplayCircuitsPackageSigned env (.signed who) m nm p np s).outcome =
      if LogOk env [(m, "message_skcd_cid utf8"), (p, "pinpad_skcd_cid utf8")] then
        (displayEntry m nm p np).map fun pkg =>
          (.ok (), (s.deposit (.newDisplaySkcdPackageIpfsCid m p)).setDisplay pkg)
      else none := by
  unfold callbackNewDisplayCircuitsPackageSigned
  rw [ensureSigned_signed_bind, outcome_logInfo_bind]
  congr 1
  apply outcome_depositEvent_bind
  · simp only [outcome_unwrap_bind, displayEntry, Option.bind_eq_bind, Option.map_bind,
      Function.comp_def, Option.map_some, Exec.modify_apply, Ended.outcome_ok]
  · -- a cid too long for the event is over its bound anyway
    intro pkg hpkg
    obtain ⟨rfl, -, rfl, -⟩ := displayEntry_eq_some_iff.mp hpkg
    apply Event.encodable_of_length_le
    have hm := pkg.messageSkcdCid.bound
    have hp := pkg.pinpadSkcdCid.bound
    simp only [Event.vectors, List.forall_mem_cons, List.not_mem_nil, false_imp_iff, implies_true,
      and_true]
    exact ⟨hm, hp⟩

end OcwCircuits

end OffchainWorkerDemo
