/-
# The runtime

The eleven dispatchables of the four pallets as one type of calls, and what a
signed call leaves behind.  `Effect` lists the writes of one call; `effect` says
which they are, and `outcome_dispatch` that the code makes these and no others.
A run applies signed calls one after another, with a trapped call rolled back.
-/
import OffchainWorkerDemo.OcwGarble
import OffchainWorkerDemo.MobileRegistry

namespace OffchainWorkerDemo

variable {A : Type}

/-! ## Calls -/

/-- The dispatchables with their arguments. -/
inductive Call : Type where
  | storeMetadata (messagePgarbledCid messageDigits pinpadDigits : Bytes)
  | checkInput (ipfsCid inputDigits : Bytes)
  | registerMobile (pubKey : Bytes)
  | submitConfigGenericSigned (verilogCid : Bytes)
  | submitConfigDisplayCircuitsPackageSigned
  | callbackNewSkcdSigned (skcdCid : Bytes)
  | callbackNewDisplayCircuitsPackageSigned (messageSkcdCid : Bytes) (messageNbDigits : UInt32)
      (pinpadSkcdCid : Bytes) (pinpadNbDigits : UInt32)
  | garbleStandardSigned (skcdCid : Bytes)
  | garbleAndStripDisplayCircuitsPackageSigned (txMsg : Bytes)
  | callbackNewGarbledSigned (pgarbledCid : Bytes)
  | callbackNewGarbledAndStripSigned (messagePgarbledCid messagePackmsgCid messageDigits
      pinpadPgarbledCid pinpadPackmsgCid pinpadDigits : Bytes)
  deriving DecidableEq

/-- Run a call. -/
def dispatch [DecidableEq A] (env : Env) (origin : Origin A) : Call → Dispatch A Unit
  | .storeMetadata c m p => TxValidation.storeMetadata origin c m p
  | .checkInput c input => TxValidation.checkInput env origin c input
  | .registerMobile k => MobileRegistry.registerMobile origin k
  | .submitConfigGenericSigned c => OcwCircuits.submitConfigGenericSigned env origin c
  | .submitConfigDisplayCircuitsPackageSigned =>
    OcwCircuits.submitConfigDisplayCircuitsPackageSigned origin
  | .callbackNewSkcdSigned c => OcwCircuits.callbackNewSkcdSigned env origin c
  | .callbackNewDisplayCircuitsPackageSigned m nm p np =>
    OcwCircuits.callbackNewDisplayCircuitsPackageSigned env origin m nm p np
  | .garbleStandardSigned c => OcwGarble.garbleStandardSigned env origin c
  | .garbleAndStripDisplayCircuitsPackageSigned t =>
    OcwGarble.garbleAndStripDisplayCircuitsPackageSigned env origin t
  | .callbackNewGarbledSigned c => OcwGarble.callbackNewGarbledSigned env origin c
  | .callbackNewGarbledAndStripSigned mg mk md pg pk pd =>
    OcwGarble.callbackNewGarbledAndStripSigned env origin mg mk md pg pk pd

/-- A call, the account that signed it and the environment it is run with. -/
structure SignedCall (A : Type) where
  env : Env
  who : A
  call : Call

/-! ## What one call writes -/

/-- The writes of one call; a missing field is a storage item left alone. -/
structure Effect (A : Type) where
  entry : Option (Cid × DisplayValidationPackage) := none
  display : Option DisplaySkcdPackage := none
  pending : Option PendingCircuitsType := none
  nonce : Option UInt64 := none
  mobile : Option MobilePackage := none
  events : List (Event A) := []
  index : List (Bytes × Bytes) := []

namespace Effect

variable [DecidableEq A]

/-- The state after the writes of a call signed by `who`. -/
def applyTo (e : Effect A) (who : A) (s : Chain A) : Chain A where
  circuitServerMetadataMap := match e.entry with
    | some (cid, pkg) => Function.update s.circuitServerMetadataMap (who, cid) (some pkg)
    | none => s.circuitServerMetadataMap
  displaySkcdPackageValue := e.display.getD s.displaySkcdPackageValue
  accountToPendingCircuitsMap := match e.pending with
    | some l => Function.update s.accountToPendingCircuitsMap who (some l)
    | none => s.accountToPendingCircuitsMap
  nonce := e.nonce.getD s.nonce
  mobileRegistryMap := match e.mobile with
    | some m => Function.update s.mobileRegistryMap who (some m)
    | none => s.mobileRegistryMap
  events := s.events ++ e.events
  offchainIndex := s.offchainIndex ++ e.index

end Effect

/-- How a call ends and what it writes; `none` when it traps. -/
def effect (env : Env) (who : A) (s : Chain A) :
    Call → Option (Except DispatchError Unit × Effect A)
  | .storeMetadata c m p =>
    (TxValidation.metadataEntry c m p).map fun e =>
      (.ok (), { entry := some e, events := [.debugNewDigitsSet m p] })
  | .checkInput c input =>
    (TxValidation.storedPackage s who c).bind fun pkg =>
      (TxValidation.checkVerdict env.info pkg input).map fun pass =>
        if pass then (.ok (), { events := [.txPass who] })
        else (.error .txWrongCodeGiven, { events := [.txFail who] })
  | .registerMobile k =>
    if 32 ≤ k.length then
      (BoundedVec.tryFrom maxPubKeyLen k).map fun key =>
        (.ok (), { mobile := some ⟨key⟩, events := [.newMobileRegistered who] })
    else some (.error .invalidKeySize, {})
  | .submitConfigGenericSigned c =>
    if LogOk env [(c, "verilog_cid utf8")] ∧
        OcwCircuits.IndexingData.codec.Fits (OcwCircuits.genericJob c) then
      some (.ok (), { index := [(OcwCircuits.jobKey,
        OcwCircuits.IndexingData.codec.encode (OcwCircuits.genericJob c))] })
    else none
  | .submitConfigDisplayCircuitsPackageSigned =>
    some (.ok (), { index := [(OcwCircuits.jobKey,
      OcwCircuits.IndexingData.codec.encode OcwCircuits.displayJob)] })
  | .callbackNewSkcdSigned c =>
    if LogOk env [(c, "skcd_cid utf8")] ∧ c.length < 2 ^ 32 then
      some (.ok (), { events := [.newSkcdIpfsCid c] })
    else none
  | .callbackNewDisplayCircuitsPackageSigned m nm p np =>
    if LogOk env [(m, "message_skcd_cid utf8"), (p, "pinpad_skcd_cid utf8")] then
      (OcwCircuits.displayEntry m nm p np).map fun pkg =>
        (.ok (), { display := some pkg, events := [.newDisplaySkcdPackageIpfsCid m p] })
    else none
  | .garbleStandardSigned c =>
    if LogOk env [(c, "skcd_cid utf8")] ∧
        OcwGarble.IndexingData.codec.Fits (OcwGarble.standardJob c) then
      some (.ok (), { index := [(OcwGarble.jobKey,
        OcwGarble.IndexingData.codec.encode (OcwGarble.standardJob c))] })
    else none
  | .garbleAndStripDisplayCircuitsPackageSigned t =>
    if LogOk env [(t, "tx_msg utf8")] then
      (OcwCircuits.getDisplayCircuitsPackage s).toOption.bind fun pkg =>
        if LogOk env [(pkg.messageSkcdCid.val, "message_skcd_cid utf8"),
            (pkg.pinpadSkcdCid.val, "pinpad_skcd_cid utf8")] ∧
            OcwGarble.IndexingData.codec.Fits
              (OcwGarble.stripJob pkg t (OcwGarble.drawnDigits env s)) then
          some (.ok (), { nonce := some (s.nonce + 1)
                          index := [(OcwGarble.jobKey, OcwGarble.IndexingData.codec.encode
                            (OcwGarble.stripJob pkg t (OcwGarble.drawnDigits env s)))] })
        else none
    else none
  | .callbackNewGarbledSigned c =>
    if LogOk env [(c, "skcd_cid utf8")] ∧ c.length < 2 ^ 32 then
      some (.ok (), { events := [.newGarbledIpfsCid c] })
    else none
  | .callbackNewGarbledAndStripSigned mg mk md pg pk pd =>
    (OcwGarble.stripResult env (s.pending who) mg mk md pg pk pd).map fun r =>
      (.ok (), { entry := some r.1
                 pending := some r.2
                 events := [.newGarbleAndStrippedIpfsCid mg mk pg pk, .debugNewDigitsSet md pd] })

/-- **The code makes these writes and no others.** -/
theorem outcome_dispatch [DecidableEq A] (env : Env) (who : A) (call : Call) (s : Chain A) :
    (dispatch env (.signed who) call s).outcome =
      (effect env who s call).map fun r => (r.1, r.2.applyTo who s) := by
  cases call with
  | storeMetadata c m p =>
    simp [dispatch, TxValidation.storeMetadata, TxValidation.outcome_storeMetadataAux, effect,
      Option.map_map, Function.comp_def, Effect.applyTo, Chain.deposit, Chain.insertMetadata]
  | checkInput c input =>
    rw [dispatch, TxValidation.outcome_checkInput, effect]
    cases TxValidation.storedPackage s who c with
    | none => rfl
    | some pkg =>
      rw [Option.bind_some, Option.bind_some]
      cases TxValidation.checkVerdict env.info pkg input with
      | none => rfl
      | some pass =>
        cases pass <;> simp [TxValidation.checkResult, Effect.applyTo, Chain.deposit]
  | registerMobile k =>
    rw [dispatch, MobileRegistry.outcome_registerMobile, effect]
    by_cases h : 32 ≤ k.length
    · simp [h, Function.comp_def, Effect.applyTo, Chain.deposit, Chain.insertMobile]
    · simp [h, Effect.applyTo]
  | submitConfigGenericSigned c =>
    rw [dispatch, OcwCircuits.outcome_submitConfigGenericSigned, effect]
    split <;> simp [Effect.applyTo, Chain.indexSet]
  | submitConfigDisplayCircuitsPackageSigned =>
    rw [dispatch, OcwCircuits.outcome_submitConfigDisplayCircuitsPackageSigned, effect]
    simp [Effect.applyTo, Chain.indexSet]
  | callbackNewSkcdSigned c =>
    rw [dispatch, OcwCircuits.outcome_callbackNewSkcdSigned, effect]
    split <;> simp [Effect.applyTo, Chain.deposit]
  | callbackNewDisplayCircuitsPackageSigned m nm p np =>
    rw [dispatch, OcwCircuits.outcome_callbackNewDisplayCircuitsPackageSigned, effect]
    split <;> simp [Function.comp_def, Effect.applyTo, Chain.deposit, Chain.setDisplay]
  | garbleStandardSigned c =>
    rw [dispatch, OcwGarble.outcome_garbleStandardSigned, effect]
    split <;> simp [Effect.applyTo, Chain.indexSet]
  | garbleAndStripDisplayCircuitsPackageSigned t =>
    rw [dispatch, OcwGarble.outcome_garbleAndStrip, effect]
    split
    · cases (OcwCircuits.getDisplayCircuitsPackage s).toOption with
      | none => rfl
      | some pkg =>
        rw [Option.bind_some, Option.bind_some]
        split <;> simp [Effect.applyTo, Chain.indexSet, Chain.putNonce]
    · rfl
  | callbackNewGarbledSigned c =>
    rw [dispatch, OcwGarble.outcome_callbackNewGarbledSigned, effect]
    split <;> simp [Effect.applyTo, Chain.deposit]
  | callbackNewGarbledAndStripSigned mg mk md pg pk pd =>
    rw [dispatch, OcwGarble.outcome_callbackNewGarbledAndStripSigned, effect]
    simp [Function.comp_def, Effect.applyTo, Chain.deposit, Chain.insertMetadata,
      Chain.insertPending]

/-- The calls that do not trap, each with how it ends and what it writes. -/
inductive Makes (env : Env) (who : A) (s : Chain A) :
    Call → Except DispatchError Unit → Effect A → Prop
  | storeMetadata {c m p entry} (hentry : TxValidation.metadataEntry c m p = some entry) :
    Makes env who s (.storeMetadata c m p) (.ok ())
      { entry := some entry, events := [.debugNewDigitsSet m p] }
  | txPass {c input pkg} (hpkg : TxValidation.storedPackage s who c = some pkg)
      (hverdict : TxValidation.checkVerdict env.info pkg input = some true) :
    Makes env who s (.checkInput c input) (.ok ()) { events := [.txPass who] }
  | txFail {c input pkg} (hpkg : TxValidation.storedPackage s who c = some pkg)
      (hverdict : TxValidation.checkVerdict env.info pkg input = some false) :
    Makes env who s (.checkInput c input) (.error .txWrongCodeGiven) { events := [.txFail who] }
  | registerMobile {k key} (hmin : 32 ≤ k.length)
      (hkey : BoundedVec.tryFrom maxPubKeyLen k = some key) :
    Makes env who s (.registerMobile k) (.ok ())
      { mobile := some ⟨key⟩, events := [.newMobileRegistered who] }
  | invalidKeySize {k} (hmin : ¬ 32 ≤ k.length) :
    Makes env who s (.registerMobile k) (.error .invalidKeySize) {}
  | submitConfigGeneric {c} (hlog : LogOk env [(c, "verilog_cid utf8")])
      (hfits : OcwCircuits.IndexingData.codec.Fits (OcwCircuits.genericJob c)) :
    Makes env who s (.submitConfigGenericSigned c) (.ok ())
      { index := [(OcwCircuits.jobKey,
          OcwCircuits.IndexingData.codec.encode (OcwCircuits.genericJob c))] }
  | submitConfigDisplay :
    Makes env who s .submitConfigDisplayCircuitsPackageSigned (.ok ())
      { index := [(OcwCircuits.jobKey,
          OcwCircuits.IndexingData.codec.encode OcwCircuits.displayJob)] }
  | callbackNewSkcd {c} (hlog : LogOk env [(c, "skcd_cid utf8")]) (hlen : c.length < 2 ^ 32) :
    Makes env who s (.callbackNewSkcdSigned c) (.ok ()) { events := [.newSkcdIpfsCid c] }
  | callbackNewDisplay {m nm p np pkg}
      (hlog : LogOk env [(m, "message_skcd_cid utf8"), (p, "pinpad_skcd_cid utf8")])
      (hpkg : OcwCircuits.displayEntry m nm p np = some pkg) :
    Makes env who s (.callbackNewDisplayCircuitsPackageSigned m nm p np) (.ok ())
      { display := some pkg, events := [.newDisplaySkcdPackageIpfsCid m p] }
  | garbleStandard {c} (hlog : LogOk env [(c, "skcd_cid utf8")])
      (hfits : OcwGarble.IndexingData.codec.Fits (OcwGarble.standardJob c)) :
    Makes env who s (.garbleStandardSigned c) (.ok ())
      { index := [(OcwGarble.jobKey,
          OcwGarble.IndexingData.codec.encode (OcwGarble.standardJob c))] }
  | garbleAndStrip {t pkg} (hlogMsg : LogOk env [(t, "tx_msg utf8")])
      (hpkg : OcwCircuits.getDisplayCircuitsPackage s = .ok pkg)
      (hlog : LogOk env [(pkg.messageSkcdCid.val, "message_skcd_cid utf8"),
        (pkg.pinpadSkcdCid.val, "pinpad_skcd_cid utf8")])
      (hfits : OcwGarble.IndexingData.codec.Fits
        (OcwGarble.stripJob pkg t (OcwGarble.drawnDigits env s))) :
    Makes env who s (.garbleAndStripDisplayCircuitsPackageSigned t) (.ok ())
      { nonce := some (s.nonce + 1)
        index := [(OcwGarble.jobKey, OcwGarble.IndexingData.codec.encode
          (OcwGarble.stripJob pkg t (OcwGarble.drawnDigits env s)))] }
  | callbackNewGarbled {c} (hlog : LogOk env [(c, "skcd_cid utf8")]) (hlen : c.length < 2 ^ 32) :
    Makes env who s (.callbackNewGarbledSigned c) (.ok ()) { events := [.newGarbledIpfsCid c] }
  | callbackNewGarbledAndStrip {mg mk md pg pk pd r}
      (hresult : OcwGarble.stripResult env (s.pending who) mg mk md pg pk pd = some r) :
    Makes env who s (.callbackNewGarbledAndStripSigned mg mk md pg pk pd) (.ok ())
      { entry := some r.1
        pending := some r.2
        events := [.newGarbleAndStrippedIpfsCid mg mk pg pk, .debugNewDigitsSet md pd] }

/-- **What a call that does not trap can do**: one of these, with its guards. -/
theorem makes_of_effect {env : Env} {who : A} {s : Chain A} {call : Call}
    {r : Except DispatchError Unit} {e : Effect A} (h : effect env who s call = some (r, e)) :
    Makes env who s call r e := by
  cases call with
  | storeMetadata c m p =>
    obtain ⟨entry, hentry, heq⟩ := Option.map_eq_some_iff.mp h
    cases heq
    exact .storeMetadata hentry
  | checkInput c input =>
    obtain ⟨pkg, hpkg, h⟩ := Option.bind_eq_some_iff.mp h
    obtain ⟨pass, hpass, heq⟩ := Option.map_eq_some_iff.mp h
    cases pass with
    | true =>
      cases heq
      exact .txPass hpkg hpass
    | false =>
      cases heq
      exact .txFail hpkg hpass
  | registerMobile k =>
    simp only [effect] at h
    split at h
    · rename_i hmin
      obtain ⟨key, hkey, heq⟩ := Option.map_eq_some_iff.mp h
      cases heq
      exact .registerMobile hmin hkey
    · rename_i hmin
      cases h
      exact .invalidKeySize hmin
  | submitConfigGenericSigned c =>
    obtain ⟨⟨hlog, hfits⟩, heq⟩ := Option.ite_none_right_eq_some.mp h
    cases heq
    exact .submitConfigGeneric hlog hfits
  | submitConfigDisplayCircuitsPackageSigned =>
    cases h
    exact .submitConfigDisplay
  | callbackNewSkcdSigned c =>
    obtain ⟨⟨hlog, hlen⟩, heq⟩ := Option.ite_none_right_eq_some.mp h
    cases heq
    exact .callbackNewSkcd hlog hlen
  | callbackNewDisplayCircuitsPackageSigned m nm p np =>
    obtain ⟨hlog, h⟩ := Option.ite_none_right_eq_some.mp h
    obtain ⟨pkg, hpkg, heq⟩ := Option.map_eq_some_iff.mp h
    cases heq
    exact .callbackNewDisplay hlog hpkg
  | garbleStandardSigned c =>
    obtain ⟨⟨hlog, hfits⟩, heq⟩ := Option.ite_none_right_eq_some.mp h
    cases heq
    exact .garbleStandard hlog hfits
  | garbleAndStripDisplayCircuitsPackageSigned t =>
    obtain ⟨hlogMsg, h⟩ := Option.ite_none_right_eq_some.mp h
    obtain ⟨pkg, hpkg, h⟩ := Option.bind_eq_some_iff.mp h
    obtain ⟨⟨hlog, hfits⟩, heq⟩ := Option.ite_none_right_eq_some.mp h
    cases heq
    exact .garbleAndStrip hlogMsg (OcwCircuits.toOption_eq_some_iff.mp hpkg) hlog hfits
  | callbackNewGarbledSigned c =>
    obtain ⟨⟨hlog, hlen⟩, heq⟩ := Option.ite_none_right_eq_some.mp h
    cases heq
    exact .callbackNewGarbled hlog hlen
  | callbackNewGarbledAndStripSigned mg mk md pg pk pd =>
    obtain ⟨result, hresult, heq⟩ := Option.map_eq_some_iff.mp h
    cases heq
    exact .callbackNewGarbledAndStrip hresult

/-! ## Runs -/

namespace SignedCall

variable [DecidableEq A]

/-- How a call ends: `none` when it traps. -/
def result (x : SignedCall A) (s : Chain A) : Option (Except DispatchError Unit) :=
  (dispatch x.env (.signed x.who) x.call s).outcome.map Prod.fst

/-- The state after a call; a trapped call leaves no trace. -/
def apply (x : SignedCall A) (s : Chain A) : Chain A :=
  (dispatch x.env (.signed x.who) x.call s).commit s

/-- The events a call deposits. -/
def emitted (x : SignedCall A) (s : Chain A) : List (Event A) :=
  (x.apply s).events.drop s.events.length

/-- A call that does not trap ends, and leaves the state, as the code says. -/
theorem result_apply_of_outcome {x : SignedCall A} {s t : Chain A} {r : Except DispatchError Unit}
    (h : (dispatch x.env (.signed x.who) x.call s).outcome = some (r, t)) :
    x.result s = some r ∧ x.apply s = t := by
  unfold result apply Ended.commit
  rw [h]
  exact ⟨rfl, rfl⟩

/-- A call that traps has no result. -/
theorem result_of_outcome_none {x : SignedCall A} {s : Chain A}
    (h : (dispatch x.env (.signed x.who) x.call s).outcome = none) : x.result s = none := by
  unfold result
  rw [h]
  rfl

/-- The writes of a call, none when it traps. -/
def writes (x : SignedCall A) (s : Chain A) : Effect A :=
  ((effect x.env x.who s x.call).map Prod.snd).getD {}

omit [DecidableEq A] in
theorem writes_of_effect {x : SignedCall A} {s : Chain A} {r : Except DispatchError Unit}
    {e : Effect A} (h : effect x.env x.who s x.call = some (r, e)) : x.writes s = e := by
  rw [writes, h]
  rfl

omit [DecidableEq A] in
theorem writes_of_trap {x : SignedCall A} {s : Chain A}
    (h : effect x.env x.who s x.call = none) : x.writes s = {} := by
  rw [writes, h]
  rfl

theorem result_eq (x : SignedCall A) (s : Chain A) :
    x.result s = (effect x.env x.who s x.call).map Prod.fst := by
  rw [result, outcome_dispatch, Option.map_map]
  rfl

/-- **A step of a run** applies the writes of its call. -/
theorem apply_eq (x : SignedCall A) (s : Chain A) :
    x.apply s = (x.writes s).applyTo x.who s := by
  rw [apply, Ended.commit, outcome_dispatch, writes]
  cases effect x.env x.who s x.call with
  | none => simp [Effect.applyTo]
  | some r => rfl

/-- A call that writes or reports something did not trap. -/
theorem makes_of_result {x : SignedCall A} {s : Chain A} {r : Except DispatchError Unit}
    (h : x.result s = some r) : Makes x.env x.who s x.call r (x.writes s) := by
  rw [result_eq, Option.map_eq_some_iff] at h
  obtain ⟨⟨r', e⟩, heff, rfl⟩ := h
  rw [writes_of_effect heff]
  exact makes_of_effect heff

/-- A call traps and writes nothing, or makes one of the listed effects. -/
theorem writes_cases (x : SignedCall A) (s : Chain A) :
    (x.result s = none ∧ x.writes s = {}) ∨
      ∃ r, x.result s = some r ∧ Makes x.env x.who s x.call r (x.writes s) := by
  cases h : x.result s with
  | none =>
    rw [result_eq, Option.map_eq_none_iff] at h
    exact Or.inl ⟨rfl, writes_of_trap h⟩
  | some r => exact Or.inr ⟨r, rfl, makes_of_result h⟩

theorem metadata_apply (x : SignedCall A) (s : Chain A) :
    (x.apply s).circuitServerMetadataMap = match (x.writes s).entry with
      | some (cid, pkg) => Function.update s.circuitServerMetadataMap (x.who, cid) (some pkg)
      | none => s.circuitServerMetadataMap := by
  rw [apply_eq]
  rfl

theorem pending_apply (x : SignedCall A) (s : Chain A) :
    (x.apply s).accountToPendingCircuitsMap = match (x.writes s).pending with
      | some l => Function.update s.accountToPendingCircuitsMap x.who (some l)
      | none => s.accountToPendingCircuitsMap := by
  rw [apply_eq]
  rfl

theorem display_apply (x : SignedCall A) (s : Chain A) :
    (x.apply s).displaySkcdPackageValue = (x.writes s).display.getD s.displaySkcdPackageValue := by
  rw [apply_eq]
  rfl

theorem nonce_apply (x : SignedCall A) (s : Chain A) :
    (x.apply s).nonce = (x.writes s).nonce.getD s.nonce := by
  rw [apply_eq]
  rfl

theorem mobile_apply (x : SignedCall A) (s : Chain A) :
    (x.apply s).mobileRegistryMap = match (x.writes s).mobile with
      | some m => Function.update s.mobileRegistryMap x.who (some m)
      | none => s.mobileRegistryMap := by
  rw [apply_eq]
  rfl

theorem events_apply (x : SignedCall A) (s : Chain A) :
    (x.apply s).events = s.events ++ (x.writes s).events := by
  rw [apply_eq]
  rfl

theorem emitted_eq (x : SignedCall A) (s : Chain A) : x.emitted s = (x.writes s).events := by
  rw [emitted, events_apply]
  exact List.drop_left

end SignedCall

/-- The state after signed calls, one after another. -/
def runFrom [DecidableEq A] (s : Chain A) (xs : List (SignedCall A)) : Chain A :=
  xs.foldl (fun s x => x.apply s) s

/-- The state after signed calls on a fresh chain. -/
def run [DecidableEq A] (xs : List (SignedCall A)) : Chain A := runFrom (Chain.empty A) xs

theorem runFrom_append [DecidableEq A] (s : Chain A) (xs ys : List (SignedCall A)) :
    runFrom s (xs ++ ys) = runFrom (runFrom s xs) ys := List.foldl_append

theorem run_append [DecidableEq A] (xs ys : List (SignedCall A)) :
    run (xs ++ ys) = runFrom (run xs) ys := runFrom_append _ xs ys

theorem run_concat [DecidableEq A] (xs : List (SignedCall A)) (x : SignedCall A) :
    run (xs ++ [x]) = x.apply (run xs) := run_append xs [x]

end OffchainWorkerDemo
