/-
# The garbling pallet on chain

A request for the display circuits draws the one-time code and the layout of the
pinpad and leaves them, with the reference package's cids, in the job of the
worker.  The callback of the worker stores the validation entry and appends the
package to the caller's pending list.
-/
import OffchainWorkerDemo.TxValidation
import OffchainWorkerDemo.OcwCircuits
import OffchainWorkerDemo.Lib.Shuffle

namespace OffchainWorkerDemo

namespace OcwGarble

variable {A : Type}

/-! ## The job record -/

/-- `GrpcCallKind` -/
inductive GrpcCallKind : Type where
  | garbleStandard
  | garbleAndStrip
  deriving DecidableEq

/-- The variant number of a kind. -/
def GrpcCallKind.index : GrpcCallKind → Fin 2
  | .garbleStandard => ⟨0, Nat.two_pos⟩
  | .garbleAndStrip => ⟨1, Nat.one_lt_two⟩

/-- The kind of a variant number. -/
def GrpcCallKind.ofIndex (i : Fin 2) : GrpcCallKind :=
  if i.val = 0 then .garbleStandard else .garbleAndStrip

/-- `IndexingData` -/
structure IndexingData where
  blockNumber : UInt32
  grpcKind : GrpcCallKind
  skcdIpfsCid : Option Bytes
  messageSkcdIpfsCid : Option Bytes
  pinpadSkcdIpfsCid : Option Bytes
  txMsg : Option Bytes
  messageDigits : Option Bytes
  pinpadDigits : Option Bytes
  deriving DecidableEq

/-- `IndexingData::default()`, the value of an empty slot. -/
instance : Inhabited IndexingData :=
  ⟨⟨0, .garbleStandard, none, none, none, none, none, none⟩⟩

/-- `Option<Vec<u8>>` -/
abbrev optionBytes : Codec (Option Bytes) := Codec.option Codec.bytes

/-- The derived codec: the fields in the order they are declared in. -/
def IndexingData.codec : Codec IndexingData :=
  Codec.record (Codec.prod Codec.u32 (Codec.prod (Codec.variant 2 Codec.two_le_variants)
      (Codec.prod optionBytes (Codec.prod optionBytes (Codec.prod optionBytes
        (Codec.prod optionBytes (Codec.prod optionBytes optionBytes)))))))
    (fun d => (d.blockNumber, d.grpcKind.index, d.skcdIpfsCid, d.messageSkcdIpfsCid,
      d.pinpadSkcdIpfsCid, d.txMsg, d.messageDigits, d.pinpadDigits))
    (fun (n, k, a, b, c, t, m, p) => ⟨n, GrpcCallKind.ofIndex k, a, b, c, t, m, p⟩)
    (by
      rintro ⟨n, k, a, b, c, t, m, p⟩
      cases k <;> rfl)

/-- The byte vectors of a job. -/
def IndexingData.fields (d : IndexingData) : List (Option Bytes) :=
  [d.skcdIpfsCid, d.messageSkcdIpfsCid, d.pinpadSkcdIpfsCid, d.txMsg, d.messageDigits,
    d.pinpadDigits]

theorem IndexingData.fits_iff {d : IndexingData} :
    IndexingData.codec.Fits d ↔ ∀ o ∈ d.fields, ∀ v ∈ o, v.length < 2 ^ 32 := by
  simp only [IndexingData.fields, List.forall_mem_cons, List.not_mem_nil, false_imp_iff,
    implies_true, and_true]
  constructor
  · rintro ⟨-, -, h⟩
    exact h
  · intro h
    exact ⟨trivial, trivial, h⟩

/-- `derived_key`, from `ONCHAIN_TX_KEY`. -/
def jobKey : Bytes := derivedKey "ocw-garble::storage::tx"

/-- `append_or_replace_skcd_hash` -/
def appendOrReplaceSkcdHash (grpcKind : GrpcCallKind)
    (skcdCid messageSkcdIpfsCid pinpadSkcdIpfsCid txMsg messageDigits pinpadDigits : Option Bytes) :
    Dispatch A Unit :=
  offchainIndexEncoded IndexingData.codec jobKey
    { blockNumber := 1
      grpcKind := grpcKind
      skcdIpfsCid := skcdCid
      messageSkcdIpfsCid := messageSkcdIpfsCid
      pinpadSkcdIpfsCid := pinpadSkcdIpfsCid
      txMsg := txMsg
      messageDigits := messageDigits
      pinpadDigits := pinpadDigits }

/-! ## Randomness -/

/-- `get_and_increment_nonce` -/
def getAndIncrementNonce : Dispatch A Bytes := do
  let s ← Exec.get
  Exec.modify (·.putNonce (s.nonce + 1))
  pure (leBytes 8 s.nonce.toNat)

/-- `ChaChaRng`: its seed and how many bounded draws were made. -/
structure ChaChaRng where
  seed : Bytes
  drawn : ℕ

/-- `from_seed` -/
def ChaChaRng.fromSeed (seed : Bytes) : ChaChaRng := ⟨seed, 0⟩

/-- `gen_range(0..=n)` -/
def ChaChaRng.genIndex (draw : Draws) (rng : ChaChaRng) (n : ℕ) : Fin (n + 1) × ChaChaRng :=
  (draw rng.seed rng.drawn n, { rng with drawn := rng.drawn + 1 })

/-- `(0..k).map(|_| rng.gen_range(0..10))` -/
def ChaChaRng.genDigits (draw : Draws) : ℕ → ChaChaRng → Bytes × ChaChaRng
  | 0, rng => ([], rng)
  | k + 1, rng =>
    let (d, rng) := rng.genIndex draw 9
    let (ds, rng) := genDigits draw k rng
    (UInt8.ofNat d.val :: ds, rng)

/-- `(0..10).collect()` -/
def tenDigits : Bytes := [0, 1, 2, 3, 4, 5, 6, 7, 8, 9]

theorem tenDigits_lt : ∀ d ∈ tenDigits, d.toNat < 10 := by
  simp [tenDigits]

/-- The shuffled pinpad, then the two digits of the message: (message, pinpad). -/
def drawDigits (draw : Draws) (randomSeed : Bytes) : Bytes × Bytes :=
  let rng := ChaChaRng.fromSeed randomSeed
  let pinpadDigits := shuffle (ChaChaRng.genIndex draw) tenDigits rng
  let messageDigits := ChaChaRng.genDigits draw 2 pinpadDigits.2
  (messageDigits.1, pinpadDigits.1)

theorem ChaChaRng.genDigits_spec (draw : Draws) (k : ℕ) (rng : ChaChaRng) :
    (genDigits draw k rng).1.length = k ∧ ∀ d ∈ (genDigits draw k rng).1, d.toNat < 10 := by
  induction k generalizing rng with
  | zero => simp [genDigits]
  | succ k ih =>
    obtain ⟨hlen, hlt⟩ := ih (rng.genIndex draw 9).2
    simp only [genDigits]
    refine ⟨by rw [List.length_cons, hlen], ?_⟩
    intro d hd
    rcases List.mem_cons.mp hd with rfl | hd
    · have := (rng.genIndex draw 9).1.isLt
      rw [UInt8.toNat_ofNat']
      omega
    · exact hlt d hd

theorem length_drawDigits_message (draw : Draws) (seed : Bytes) :
    (drawDigits draw seed).1.length = 2 := by
  simp only [drawDigits]
  exact (ChaChaRng.genDigits_spec draw 2 _).1

theorem drawDigits_message_lt (draw : Draws) (seed : Bytes) :
    ∀ d ∈ (drawDigits draw seed).1, d.toNat < 10 := by
  simp only [drawDigits]
  exact (ChaChaRng.genDigits_spec draw 2 _).2

/-- **The pinpad is a rearrangement of the ten digits**, whatever is drawn. -/
theorem drawDigits_pinpad_perm (draw : Draws) (seed : Bytes) :
    (drawDigits draw seed).2.Perm tenDigits := by
  simp only [drawDigits]
  exact shuffle_perm (ChaChaRng.genIndex draw) tenDigits (ChaChaRng.fromSeed seed)

theorem length_drawDigits_pinpad (draw : Draws) (seed : Bytes) :
    (drawDigits draw seed).2.length = 10 := by
  rw [(drawDigits_pinpad_perm draw seed).length_eq]
  rfl

/-! ## The dispatchables -/

/-- `garble_standard_signed` -/
def garbleStandardSigned (env : Env) (origin : Origin A) (skcdCid : Bytes) :
    Dispatch A Unit := do
  let _who ← ensureSigned origin
  logInfo env [(skcdCid, "skcd_cid utf8")]
  appendOrReplaceSkcdHash .garbleStandard (some skcdCid) none none none none none

/-- `garble_and_strip_display_circuits_package_signed` -/
def garbleAndStripDisplayCircuitsPackageSigned (env : Env) (origin : Origin A) (txMsg : Bytes) :
    Dispatch A Unit := do
  let _who ← ensureSigned origin
  logInfo env [(txMsg, "tx_msg utf8")]
  let s ← Exec.get
  let displayCircuitsPackage ← Exec.expect "display_circuits_package not ready!"
    (OcwCircuits.getDisplayCircuitsPackage s).toOption
  logInfo env [(displayCircuitsPackage.messageSkcdCid.val, "message_skcd_cid utf8"),
    (displayCircuitsPackage.pinpadSkcdCid.val, "pinpad_skcd_cid utf8")]
  let nonce ← getAndIncrementNonce
  let randomSeed ← Exec.expect "secure hashes should always be bigger than u32; qed"
    ((readBytes 32 (env.random nonce).bytes).map Prod.fst)
  let (messageDigits, pinpadDigits) := drawDigits env.draw randomSeed
  appendOrReplaceSkcdHash .garbleAndStrip none
    (some displayCircuitsPackage.messageSkcdCid.val)
    (some displayCircuitsPackage.pinpadSkcdCid.val)
    (some txMsg) (some messageDigits) (some pinpadDigits)

/-- `callback_new_garbled_signed` -/
def callbackNewGarbledSigned (env : Env) (origin : Origin A) (pgarbledCid : Bytes) :
    Dispatch A Unit := do
  let _who ← ensureSigned origin
  logInfo env [(pgarbledCid, "skcd_cid utf8")]
  depositEvent (.newGarbledIpfsCid pgarbledCid)

/-- `u32::try_from` on a `usize`. -/
def u32TryFrom (n : ℕ) : Option UInt32 := if n < 2 ^ 32 then some (UInt32.ofNat n) else none

/-- `callback_new_garbled_and_strip_signed` -/
def callbackNewGarbledAndStripSigned [DecidableEq A] (env : Env) (origin : Origin A)
    (messagePgarbledCid messagePackmsgCid messageDigits
      pinpadPgarbledCid pinpadPackmsgCid pinpadDigits : Bytes) : Dispatch A Unit := do
  let who ← ensureSigned origin
  logInfo env [(messagePgarbledCid, "message_pgarbled_cid utf8"),
    (messagePackmsgCid, "message_packmsg_cid utf8"),
    (pinpadPgarbledCid, "pinpad_pgarbled_cid utf8"),
    (pinpadPackmsgCid, "pinpad_packmsg_cid utf8")]
  depositEvent (.newGarbleAndStrippedIpfsCid messagePgarbledCid messagePackmsgCid
    pinpadPgarbledCid pinpadPackmsgCid)
  -- stored under the account that signs, which need not be the one that asked
  let stored ← Exec.attempt
    (TxValidation.storeMetadataAux origin messagePgarbledCid messageDigits pinpadDigits)
  Exec.expect "store_metadata_aux failed!" stored.toOption
  let s ← Exec.get
  let currentPendingCircuits := s.pending who
  let messagePgarbledCid ← unwrap (BoundedVec.tryFrom 64 messagePgarbledCid)
  let messagePackmsgCid ← unwrap (BoundedVec.tryFrom 64 messagePackmsgCid)
  let pinpadPgarbledCid ← unwrap (BoundedVec.tryFrom 64 pinpadPgarbledCid)
  let pinpadPackmsgCid ← unwrap (BoundedVec.tryFrom 64 pinpadPackmsgCid)
  let messageNbDigits ← unwrap (u32TryFrom messageDigits.length)
  let currentPendingCircuits ← unwrap (currentPendingCircuits.tryPush
    { messagePgarbledCid, messagePackmsgCid, pinpadPgarbledCid, pinpadPackmsgCid,
      messageNbDigits })
  Exec.modify (·.insertPending who currentPendingCircuits)

/-! ## What they do -/

/-- The job of a standard request. -/
def standardJob (skcdCid : Bytes) : IndexingData :=
  ⟨1, .garbleStandard, some skcdCid, none, none, none, none, none⟩

/-- The job of a request for the display circuits. -/
def stripJob (pkg : DisplaySkcdPackage) (txMsg : Bytes) (digits : Bytes × Bytes) : IndexingData :=
  ⟨1, .garbleAndStrip, none, some pkg.messageSkcdCid.val, some pkg.pinpadSkcdCid.val,
    some txMsg, some digits.1, some digits.2⟩

/-- A job of display circuits fits as soon as its transaction message does. -/
theorem fits_stripJob_iff {pkg : DisplaySkcdPackage} {txMsg : Bytes} {draw : Draws} {seed : Bytes} :
    IndexingData.codec.Fits (stripJob pkg txMsg (drawDigits draw seed)) ↔
      txMsg.length < 2 ^ 32 := by
  rw [IndexingData.fits_iff]
  have hm := length_drawDigits_message draw seed
  have hp := length_drawDigits_pinpad draw seed
  have h1 := pkg.messageSkcdCid.bound
  have h2 := pkg.pinpadSkcdCid.bound
  simp only [stripJob, IndexingData.fields, List.forall_mem_cons, List.not_mem_nil,
    false_imp_iff, implies_true, and_true, Option.mem_def, Option.some_inj, forall_eq',
    hm, hp, reduceCtorEq, true_and]
  omega

/-- What the randomness source gives for the current nonce. -/
def requestSeed (env : Env) (s : Chain A) : Bytes := (env.random (leBytes 8 s.nonce.toNat)).bytes

/-- The digits a request for the display circuits draws: (message, pinpad). -/
def drawnDigits (env : Env) (s : Chain A) : Bytes × Bytes := drawDigits env.draw (requestSeed env s)

/-- The log level has no part in the draws. -/
theorem drawnDigits_withInfo (env : Env) (info : Bool) (s : Chain A) :
    drawnDigits (env.withInfo info) s = drawnDigits env s := rfl

theorem outcome_garbleStandardSigned (env : Env) (who : A) (cid : Bytes) (s : Chain A) :
    (garbleStandardSigned env (.signed who) cid s).outcome =
      if LogOk env [(cid, "skcd_cid utf8")] ∧ IndexingData.codec.Fits (standardJob cid) then
        some (.ok (), s.indexSet jobKey (IndexingData.codec.encode (standardJob cid)))
      else none := by
  unfold garbleStandardSigned appendOrReplaceSkcdHash
  rw [ensureSigned_signed_bind, outcome_logInfo_bind,
    outcome_offchainIndexEncoded, ite_and]
  rfl

/-- The 32 bytes of a hash are all the seed. -/
theorem readBytes_h256 (h : H256) : (readBytes 32 h.bytes).map Prod.fst = some h.bytes := by
  have hread := readBytes_append h.length_bytes []
  rw [List.append_nil] at hread
  rw [hread]
  rfl

/-- **What a request for the display circuits does**: it takes a nonce and leaves a job
with the reference cids and the digits drawn for that nonce. -/
theorem outcome_garbleAndStrip (env : Env) (who : A) (txMsg : Bytes) (s : Chain A) :
    (garbleAndStripDisplayCircuitsPackageSigned env (.signed who) txMsg s).outcome =
      if LogOk env [(txMsg, "tx_msg utf8")] then
        (OcwCircuits.getDisplayCircuitsPackage s).toOption.bind fun pkg =>
          if LogOk env [(pkg.messageSkcdCid.val, "message_skcd_cid utf8"),
              (pkg.pinpadSkcdCid.val, "pinpad_skcd_cid utf8")] ∧
              IndexingData.codec.Fits (stripJob pkg txMsg (drawnDigits env s)) then
            some (.ok (), (s.putNonce (s.nonce + 1)).indexSet jobKey
              (IndexingData.codec.encode (stripJob pkg txMsg (drawnDigits env s))))
          else none
      else none := by
  unfold garbleAndStripDisplayCircuitsPackageSigned
  rw [ensureSigned_signed_bind, outcome_logInfo_bind]
  congr 1
  rw [Exec.bind_apply, Exec.get_apply, Ended.andThen_ok, Exec.bind_apply]
  cases (OcwCircuits.getDisplayCircuitsPackage s).toOption with
  | none => rfl
  | some pkg =>
    rw [Exec.expect_some, Ended.andThen_ok, outcome_logInfo_bind, Option.bind_some, ite_and]
    congr 1
    simp only [Exec.bind_apply, getAndIncrementNonce, Exec.get_apply, Exec.modify_apply,
      Exec.pure_apply, Ended.andThen_ok, readBytes_h256, Exec.expect_some,
      appendOrReplaceSkcdHash]
    rw [outcome_offchainIndexEncoded]
    rfl

theorem outcome_callbackNewGarbledSigned (env : Env) (who : A) (cid : Bytes) (s : Chain A) :
    (callbackNewGarbledSigned env (.signed who) cid s).outcome =
      if LogOk env [(cid, "skcd_cid utf8")] ∧ cid.length < 2 ^ 32 then
        some (.ok (), s.deposit (.newGarbledIpfsCid cid))
      else none := by
  unfold callbackNewGarbledSigned
  rw [ensureSigned_signed_bind, outcome_logInfo_bind,
    outcome_depositEvent, ite_and]
  simp [Event.Encodable, Event.vectors, Codec.bytes]

/-- The package a strip callback appends, when every part is within its bound. -/
def strippedPackage (messagePgarbledCid messagePackmsgCid pinpadPgarbledCid pinpadPackmsgCid : Bytes)
    (nbDigits : ℕ) : Option DisplayStrippedCircuitsPackage := do
  let messagePgarbledCid ← BoundedVec.tryFrom 64 messagePgarbledCid
  let messagePackmsgCid ← BoundedVec.tryFrom 64 messagePackmsgCid
  let pinpadPgarbledCid ← BoundedVec.tryFrom 64 pinpadPgarbledCid
  let pinpadPackmsgCid ← BoundedVec.tryFrom 64 pinpadPackmsgCid
  let messageNbDigits ← u32TryFrom nbDigits
  some ⟨messagePgarbledCid, messagePackmsgCid, pinpadPgarbledCid, pinpadPackmsgCid,
    messageNbDigits⟩

theorem strippedPackage_eq_some_iff {mg mk pg pk : Bytes} {n : ℕ}
    {pkg : DisplayStrippedCircuitsPackage} :
    strippedPackage mg mk pg pk n = some pkg ↔
      pkg.messagePgarbledCid.val = mg ∧ pkg.messagePackmsgCid.val = mk ∧
      pkg.pinpadPgarbledCid.val = pg ∧ pkg.pinpadPackmsgCid.val = pk ∧
      u32TryFrom n = some pkg.messageNbDigits := by
  obtain ⟨a, b, c, d, e⟩ := pkg
  simp only [strippedPackage, Option.bind_eq_bind, Option.bind_eq_some_iff,
    BoundedVec.tryFrom_eq_some_iff, Option.some_inj, DisplayStrippedCircuitsPackage.mk.injEq]
  constructor
  · rintro ⟨_, rfl, _, rfl, _, rfl, _, rfl, _, hn, rfl, rfl, rfl, rfl, rfl⟩
    exact ⟨rfl, rfl, rfl, rfl, hn⟩
  · rintro ⟨rfl, rfl, rfl, rfl, hn⟩
    exact ⟨_, rfl, _, rfl, _, rfl, _, rfl, _, hn, rfl, rfl, rfl, rfl, rfl⟩

/-- The log arguments of the strip callback. -/
def stripLogArgs (mg mk pg pk : Bytes) : List (Bytes × String) :=
  [(mg, "message_pgarbled_cid utf8"), (mk, "message_packmsg_cid utf8"),
    (pg, "pinpad_pgarbled_cid utf8"), (pk, "pinpad_packmsg_cid utf8")]

/-- The validation entry and the pending list a strip callback writes; `none` when it
traps: a part is over its bound, there is no room, or a cid cannot be logged. -/
def stripResult (env : Env) (pending : PendingCircuitsType) (mg mk md pg pk pd : Bytes) :
    Option ((Cid × DisplayValidationPackage) × PendingCircuitsType) :=
  if LogOk env (stripLogArgs mg mk pg pk) then do
    let entry ← TxValidation.metadataEntry mg md pd
    let pkg ← strippedPackage mg mk pg pk md.length
    let l ← pending.tryPush pkg
    some (entry, l)
  else none

/-- A strip callback succeeds by appending a package to the list it found. -/
theorem stripResult_eq_some_iff {env : Env} {pending : PendingCircuitsType}
    {mg mk md pg pk pd : Bytes} {r : (Cid × DisplayValidationPackage) × PendingCircuitsType} :
    stripResult env pending mg mk md pg pk pd = some r ↔
      LogOk env (stripLogArgs mg mk pg pk) ∧
      TxValidation.metadataEntry mg md pd = some r.1 ∧
      ∃ pkg, strippedPackage mg mk pg pk md.length = some pkg ∧
        r.2.val = pending.val ++ [pkg] := by
  obtain ⟨entry, l⟩ := r
  unfold stripResult
  by_cases hlog : LogOk env (stripLogArgs mg mk pg pk)
  · rw [if_pos hlog]
    simp only [Option.bind_eq_bind, Option.bind_eq_some_iff, Option.some_inj, Prod.mk.injEq,
      BoundedVec.tryPush, BoundedVec.tryFrom_eq_some_iff]
    constructor
    · rintro ⟨_, he, pkg, hpkg, _, hl, rfl, rfl⟩
      exact ⟨hlog, he, pkg, hpkg, hl⟩
    · rintro ⟨-, he, pkg, hpkg, hl⟩
      exact ⟨_, he, pkg, hpkg, _, hl, rfl, rfl⟩
  · rw [if_neg hlog]
    constructor
    · intro h
      cases h
    · rintro ⟨h, -⟩
      exact absurd h hlog

theorem u32TryFrom_of_lt {n : ℕ} (h : n < 2 ^ 32) : u32TryFrom n = some (UInt32.ofNat n) :=
  if_pos h

theorem u32TryFrom_toNat {n : ℕ} {k : UInt32} (h : u32TryFrom n = some k) :
    n = k.toNat := by
  unfold u32TryFrom at h
  obtain ⟨hlt, heq⟩ := Option.ite_none_right_eq_some.mp h
  rw [← Option.some_inj.mp heq, UInt32.toNat_ofNat', Nat.mod_eq_of_lt hlt]

/-- Every argument of a strip callback is within its bound. -/
structure StripStorable (mg mk md pg pk pd : Bytes) : Prop where
  messagePgarbledCid : mg.length ≤ 64
  messagePackmsgCid : mk.length ≤ 64
  messageDigits : md.length ≤ 10
  pinpadPgarbledCid : pg.length ≤ 64
  pinpadPackmsgCid : pk.length ≤ 64
  pinpadDigits : pd.length ≤ 10

/-- **A strip callback succeeds** exactly when its cids can be logged, its parts are
within their bounds and the caller's list has room. -/
theorem stripResult_isSome_iff {env : Env} {pending : PendingCircuitsType}
    {mg mk md pg pk pd : Bytes} :
    (stripResult env pending mg mk md pg pk pd).isSome ↔
      LogOk env (stripLogArgs mg mk pg pk) ∧ StripStorable mg mk md pg pk pd ∧
      pending.val.length < maxNumberPendingCircuitsPerAccount := by
  rw [Option.isSome_iff_exists]
  constructor
  · rintro ⟨r, hr⟩
    obtain ⟨hlog, hentry, pkg, hpkg, hl⟩ := stripResult_eq_some_iff.mp hr
    obtain ⟨-, hmd, hpd⟩ := TxValidation.metadataEntry_isSome_iff.mp
      (Option.isSome_iff_exists.mpr ⟨_, hentry⟩)
    obtain ⟨rfl, rfl, rfl, rfl, -⟩ := strippedPackage_eq_some_iff.mp hpkg
    -- the list written is bounded, so the one found had room
    have hroom := r.2.bound
    rw [hl, List.length_append, List.length_singleton] at hroom
    exact ⟨hlog, ⟨pkg.messagePgarbledCid.bound, pkg.messagePackmsgCid.bound, hmd,
      pkg.pinpadPgarbledCid.bound, pkg.pinpadPackmsgCid.bound, hpd⟩, by omega⟩
  · rintro ⟨hlog, h, hroom⟩
    have hlt : md.length < 2 ^ 32 := by
      have := h.messageDigits
      omega
    let pkg : DisplayStrippedCircuitsPackage :=
      ⟨⟨mg, h.messagePgarbledCid⟩, ⟨mk, h.messagePackmsgCid⟩, ⟨pg, h.pinpadPgarbledCid⟩,
        ⟨pk, h.pinpadPackmsgCid⟩, UInt32.ofNat md.length⟩
    refine ⟨((⟨mg, h.messagePgarbledCid⟩, ⟨⟨md, h.messageDigits⟩, ⟨pd, h.pinpadDigits⟩⟩),
      ⟨pending.val ++ [pkg], ?_⟩), stripResult_eq_some_iff.mpr ⟨hlog, ?_, pkg, ?_, rfl⟩⟩
    · rw [List.length_append, List.length_singleton]
      exact hroom
    · exact TxValidation.metadataEntry_eq_some_iff.mpr ⟨rfl, rfl, rfl⟩
    · exact strippedPackage_eq_some_iff.mpr ⟨rfl, rfl, rfl, rfl, u32TryFrom_of_lt hlt⟩

/-- **What the strip callback does**: one validation entry and one more pending package
for the caller. -/
theorem outcome_callbackNewGarbledAndStripSigned [DecidableEq A] (env : Env) (who : A)
    (mg mk md pg pk pd : Bytes) (s : Chain A) :
    (callbackNewGarbledAndStripSigned env (.signed who) mg mk md pg pk pd s).outcome =
      (stripResult env (s.pending who) mg mk md pg pk pd).map fun r =>
        (.ok (), (((s.deposit (.newGarbleAndStrippedIpfsCid mg mk pg pk)).deposit
          (.debugNewDigitsSet md pd)).insertMetadata who r.1.1 r.1.2).insertPending who r.2) := by
  unfold callbackNewGarbledAndStripSigned
  rw [ensureSigned_signed_bind, outcome_logInfo_bind]
  show (if LogOk env (stripLogArgs mg mk pg pk) then _ else none) = _
  rw [stripResult]
  by_cases hlog : LogOk env (stripLogArgs mg mk pg pk)
  swap
  · rw [if_neg hlog, if_neg hlog]
    rfl
  rw [if_pos hlog, if_pos hlog]
  apply outcome_depositEvent_bind
  · -- the pending list is read after the entry is stored, which leaves it as it was
    rw [Exec.outcome_attempt_bind, TxValidation.outcome_storeMetadataAux, Option.bind_map]
    simp only [Function.comp_def, Except.toOption, Exec.outcome_expect_bind, Option.bind_some,
      Exec.outcome_get_bind, outcome_unwrap_bind, Chain.pending_deposit,
      Chain.pending_insertMetadata, Exec.modify_apply, Ended.outcome_ok]
    -- the package is what its five conversions give
    simp only [strippedPackage, Option.bind_eq_bind, Option.map_bind, Function.comp_def,
      Option.bind_assoc, Option.bind_some, Option.map_some]
  · -- a cid too long for the event is over its bound, so the call traps in any case
    rintro ⟨entry, l⟩ hr
    simp only [Option.bind_eq_bind, Option.bind_eq_some_iff] at hr
    obtain ⟨-, -, pkg, hpkg, -⟩ := hr
    obtain ⟨rfl, rfl, rfl, rfl, -⟩ := strippedPackage_eq_some_iff.mp hpkg
    apply Event.encodable_of_length_le
    simp only [Event.vectors, List.forall_mem_cons, List.not_mem_nil, false_imp_iff, implies_true,
      and_true]
    exact ⟨pkg.messagePgarbledCid.bound, pkg.messagePackmsgCid.bound, pkg.pinpadPgarbledCid.bound,
      pkg.pinpadPackmsgCid.bound⟩

end OcwGarble

end OffchainWorkerDemo
