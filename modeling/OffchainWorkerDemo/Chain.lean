/-
# The state of the chain

The storage items of the four pallets, the deposited events and the off-chain
index writes, in one record, and what a dispatchable is run with.  An account is
any type with decidable equality.

A dispatchable is an `Exec` over this record.  An `Err` keeps the writes made
before it (extrinsics of this runtime are not executed in a storage layer of
their own); a panic traps the runtime and its writes are lost.
-/
import OffchainWorkerDemo.Lib.Exec
import OffchainWorkerDemo.Lib.Utf8
import OffchainWorkerDemo.Lib.Scale
import OffchainWorkerDemo.Lib.BoundedVec
import Mathlib.Logic.Function.Basic

namespace OffchainWorkerDemo

/-- `Vec<u8>` -/
abbrev Bytes := List UInt8

/-- A string as its Unicode scalar values. -/
abbrev Str := List Char

/-- `BoundedVec<u8, ConstU32<64>>`, an IPFS cid. -/
abbrev Cid := BoundedVec UInt8 64

/-- `BoundedVec<u8, ConstU32<10>>` -/
abbrev Digits := BoundedVec UInt8 10

/-! ## Stored values -/

/-- `pallet_tx_validation::DisplayValidationPackage` -/
structure DisplayValidationPackage where
  messageDigits : Digits
  pinpadDigits : Digits
  deriving DecidableEq

/-- `pallet_ocw_circuits::DisplaySkcdPackage` -/
structure DisplaySkcdPackage where
  messageSkcdCid : Cid
  messageSkcdServerMetadataNbDigits : UInt32
  pinpadSkcdCid : Cid
  pinpadSkcdServerMetadataNbDigits : UInt32
  deriving DecidableEq

/-- The `ValueQuery` default of an unset `DisplaySkcdPackageValue`. -/
instance : Inhabited DisplaySkcdPackage := ⟨⟨default, 0, default, 0⟩⟩

/-- `pallet_ocw_garble::DisplayStrippedCircuitsPackage` -/
structure DisplayStrippedCircuitsPackage where
  messagePgarbledCid : Cid
  messagePackmsgCid : Cid
  pinpadPgarbledCid : Cid
  pinpadPackmsgCid : Cid
  messageNbDigits : UInt32
  deriving DecidableEq

/-- `MAX_NUMBER_PENDING_CIRCUITS_PER_ACCOUNT` -/
def maxNumberPendingCircuitsPerAccount : ℕ := 16

/-- `PendingCircuitsType` -/
abbrev PendingCircuitsType :=
  BoundedVec DisplayStrippedCircuitsPackage maxNumberPendingCircuitsPerAccount

/-- `MAX_PUB_KEY_LEN` -/
def maxPubKeyLen : ℕ := 256

/-- `pallet_mobile_registry::MobilePackage` -/
structure MobilePackage where
  pubKey : BoundedVec UInt8 maxPubKeyLen
  deriving DecidableEq

/-! ## Events, errors, origins -/

/-- The events of the four pallets. -/
inductive Event (A : Type) : Type where
  | txPass (accountId : A)
  | txFail (accountId : A)
  | debugNewDigitsSet (messageDigits pinpadDigits : Bytes)
  | newMobileRegistered (accountId : A)
  | newSkcdIpfsCid (skcdCid : Bytes)
  | newDisplaySkcdPackageIpfsCid (messageSkcdCid pinpadSkcdCid : Bytes)
  | newGarbledIpfsCid (pgarbledCid : Bytes)
  | newGarbleAndStrippedIpfsCid
      (messagePgarbledCid messagePackmsgCid pinpadPgarbledCid pinpadPackmsgCid : Bytes)
  deriving DecidableEq

/-- The byte vectors an event carries. -/
def Event.vectors {A : Type} : Event A → List Bytes
  | .txPass _ | .txFail _ | .newMobileRegistered _ => []
  | .debugNewDigitsSet m p => [m, p]
  | .newSkcdIpfsCid c | .newGarbledIpfsCid c => [c]
  | .newDisplaySkcdPackageIpfsCid m p => [m, p]
  | .newGarbleAndStrippedIpfsCid a b c d => [a, b, c, d]

/-- The errors a dispatchable returns. -/
inductive DispatchError : Type where
  | badOrigin
  /-- `pallet_tx_validation::Error::TxWrongCodeGiven` -/
  | txWrongCodeGiven
  /-- `pallet_tx_validation::Error::TxInvalidInputsGiven`, which no call returns. -/
  | txInvalidInputsGiven
  /-- `pallet_tx_validation::Error::StorageOverflow`, which no call returns. -/
  | storageOverflow
  /-- `pallet_mobile_registry::Error::InvalidKeySize` -/
  | invalidKeySize
  deriving DecidableEq

/-- Who sent a call. -/
inductive Origin (A : Type) : Type where
  | root
  | signed (who : A)
  | none
  deriving DecidableEq

/-! ## The chain -/

/-- The storage of the pallets, with the events deposited and the off-chain index
writes made so far, oldest first. -/
structure Chain (A : Type) where
  circuitServerMetadataMap : A × Cid → Option DisplayValidationPackage
  displaySkcdPackageValue : DisplaySkcdPackage
  accountToPendingCircuitsMap : A → Option PendingCircuitsType
  nonce : UInt64
  mobileRegistryMap : A → Option MobilePackage
  events : List (Event A)
  offchainIndex : List (Bytes × Bytes)

/-- Nothing stored yet. -/
def Chain.empty (A : Type) : Chain A where
  circuitServerMetadataMap := fun _ => none
  displaySkcdPackageValue := default
  accountToPendingCircuitsMap := fun _ => none
  nonce := 0
  mobileRegistryMap := fun _ => none
  events := []
  offchainIndex := []

namespace Chain

variable {A : Type}

/-- One more event. -/
def deposit (s : Chain A) (e : Event A) : Chain A := { s with events := s.events ++ [e] }

/-- One more off-chain index write. -/
def indexSet (s : Chain A) (key value : Bytes) : Chain A :=
  { s with offchainIndex := s.offchainIndex ++ [(key, value)] }

/-- `CircuitServerMetadataMap::insert` -/
def insertMetadata [DecidableEq A] (s : Chain A) (who : A) (cid : Cid)
    (pkg : DisplayValidationPackage) : Chain A :=
  { s with circuitServerMetadataMap :=
      Function.update s.circuitServerMetadataMap (who, cid) (some pkg) }

/-- `AccountToPendingCircuitsMap::insert` -/
def insertPending [DecidableEq A] (s : Chain A) (who : A) (l : PendingCircuitsType) : Chain A :=
  { s with accountToPendingCircuitsMap :=
      Function.update s.accountToPendingCircuitsMap who (some l) }

/-- `MobileRegistryMap::insert` -/
def insertMobile [DecidableEq A] (s : Chain A) (who : A) (m : MobilePackage) : Chain A :=
  { s with mobileRegistryMap := Function.update s.mobileRegistryMap who (some m) }

/-- `DisplaySkcdPackageValue::set` -/
def setDisplay (s : Chain A) (pkg : DisplaySkcdPackage) : Chain A :=
  { s with displaySkcdPackageValue := pkg }

/-- `Nonce::put` -/
def putNonce (s : Chain A) (nonce : UInt64) : Chain A := { s with nonce := nonce }

/-- `AccountToPendingCircuitsMap::get`, a `ValueQuery`. -/
def pending (s : Chain A) (who : A) : PendingCircuitsType :=
  (s.accountToPendingCircuitsMap who).getD default

@[simp] theorem pending_deposit (s : Chain A) (e : Event A) (who : A) :
    (s.deposit e).pending who = s.pending who := rfl

@[simp] theorem pending_insertMetadata [DecidableEq A] (s : Chain A) (a : A) (cid : Cid)
    (pkg : DisplayValidationPackage) (who : A) :
    (s.insertMetadata a cid pkg).pending who = s.pending who := rfl

end Chain

/-- Every storage item of the four pallets holds the same. -/
structure SameStorage {A : Type} (s t : Chain A) : Prop where
  circuitServerMetadataMap : t.circuitServerMetadataMap = s.circuitServerMetadataMap
  displaySkcdPackageValue : t.displaySkcdPackageValue = s.displaySkcdPackageValue
  accountToPendingCircuitsMap : t.accountToPendingCircuitsMap = s.accountToPendingCircuitsMap
  nonce : t.nonce = s.nonce
  mobileRegistryMap : t.mobileRegistryMap = s.mobileRegistryMap

/-- `H256` -/
structure H256 where
  bytes : Bytes
  length_bytes : bytes.length = 32

/-- `draw seed k n`: the `k`-th bounded draw of the generator seeded with `seed`, taken in
`0..=n`. -/
abbrev Draws := Bytes → ℕ → (n : ℕ) → Fin (n + 1)

/-- What one call is run with: whether the node logs at the info level, the
randomness source at that block, and the draws of `ChaChaRng`. -/
structure Env where
  info : Bool
  /-- `T::MyRandomness::random`, the hash drawn for a subject. -/
  random : Bytes → H256
  draw : Draws

/-- The same chain on a node with another log level. -/
def Env.withInfo (env : Env) (info : Bool) : Env := { env with info := info }

instance : Inhabited Env := ⟨⟨false, fun _ => ⟨List.replicate 32 0, rfl⟩, fun _ _ _ => 0⟩⟩

/-- A dispatchable, or a part of one. -/
abbrev Dispatch (A α : Type) := Exec (Chain A) DispatchError α

variable {A : Type}

/-! ## Primitives of the runtime -/

/-- The message of a panicking `unwrap`. -/
def unwrapMsg : String := "called unwrap on a missing value"

/-- `unwrap` -/
def unwrap {σ ε α : Type} (o : Option α) : Exec σ ε α := Exec.expect unwrapMsg o

/-- `ensure_signed` -/
def ensureSigned : Origin A → Dispatch A A
  | .signed who => pure who
  | _ => Exec.fail .badOrigin

/-- `str::from_utf8(v).expect(msg)` as it stands in the log arguments. -/
def expectUtf8 (v : Bytes) (msg : String) : Dispatch A Unit := do
  let _ ← Exec.expect msg (fromUtf8 v)

/-- `log::info!` over byte strings printed as UTF-8, each with the message of its
`expect`: the arguments are evaluated only when the level is enabled. -/
def logInfo (env : Env) (args : List (Bytes × String)) : Dispatch A Unit :=
  if env.info then forM args fun arg => expectUtf8 arg.1 arg.2 else pure ()

/-- The log statement does not stop the call. -/
def LogOk (env : Env) (args : List (Bytes × String)) : Prop :=
  env.info = true → ∀ arg ∈ args, IsUtf8 arg.1

instance (env : Env) (args : List (Bytes × String)) : Decidable (LogOk env args) :=
  inferInstanceAs (Decidable (_ → ∀ arg ∈ args, _))

/-- Encoding an event panics when one of its vectors is too long for a SCALE length. -/
def Event.Encodable (e : Event A) : Prop := ∀ v ∈ e.vectors, Codec.bytes.Fits v

instance (e : Event A) : Decidable e.Encodable := inferInstanceAs (Decidable (∀ v ∈ _, _))

/-- An event without byte vectors always encodes. -/
theorem Event.encodable_of_vectors_eq_nil {e : Event A} (h : e.vectors = []) : e.Encodable := by
  intro v hv
  rw [h] at hv
  cases hv

/-- Vectors within a cid's bound encode. -/
theorem Event.encodable_of_length_le {e : Event A} (h : ∀ v ∈ e.vectors, v.length ≤ 64) :
    e.Encodable := by
  intro v hv
  have hle := h v hv
  show v.length < 2 ^ 32
  omega

/-- `deposit_event` -/
def depositEvent (e : Event A) : Dispatch A Unit :=
  if e.Encodable then Exec.modify (·.deposit e)
  else Exec.trap "Compact encodes length"

/-- `sp_io::offchain_index::set` -/
def offchainIndexSet (key value : Bytes) : Dispatch A Unit :=
  Exec.modify (·.indexSet key value)

/-- `sp_io::offchain_index::set(&key, &data.encode())` -/
def offchainIndexEncoded {β : Type} (c : Codec β) (key : Bytes) (data : β) : Dispatch A Unit :=
  if c.Fits data then offchainIndexSet key (c.encode data)
  else Exec.trap "Compact encodes length"

/-- The key under which a pallet leaves its job: a prefix, a slash and the encoding
of the default block number. -/
def derivedKey (onchainTxKey : String) : Bytes :=
  utf8Bytes onchainTxKey.toList ++ utf8Bytes ['/'] ++ leBytes 4 0

/-- A signed call goes on with its signer. -/
@[simp] theorem ensureSigned_signed_bind {α : Type} (who : A) (f : A → Dispatch A α) :
    (ensureSigned (.signed who) >>= f) = f who := rfl

@[simp] theorem unwrap_some {σ ε α : Type} (a : α) (s : σ) :
    (unwrap (some a) : Exec σ ε α) s = .ok a s := rfl

@[simp] theorem unwrap_none {σ ε α : Type} (s : σ) :
    (unwrap none : Exec σ ε α) s = .trap unwrapMsg s := rfl

theorem outcome_unwrap_bind {σ ε α β : Type} (o : Option α) (f : α → Exec σ ε β) (s : σ) :
    ((unwrap o >>= f) s).outcome = o.bind fun a => (f a s).outcome :=
  Exec.outcome_expect_bind unwrapMsg o f s

/-- An encodable event is appended. -/
theorem depositEvent_apply {e : Event A} (h : e.Encodable) (s : Chain A) :
    depositEvent e s = .ok () (s.deposit e) := by
  unfold depositEvent
  rw [if_pos h]
  rfl

theorem depositEvent_trap {e : Event A} (h : ¬ e.Encodable) (s : Chain A) :
    depositEvent e s = .trap "Compact encodes length" s := by
  unfold depositEvent
  rw [if_neg h]
  rfl

theorem outcome_depositEvent (e : Event A) (s : Chain A) :
    (depositEvent e s).outcome = if e.Encodable then some (.ok (), s.deposit e) else none := by
  by_cases h : e.Encodable
  · rw [depositEvent_apply h, if_pos h]
    rfl
  · rw [depositEvent_trap h, if_neg h]
    rfl

/-- An event deposited before the conversions does not stop a call that passes them, if what
passes them encodes. -/
theorem outcome_depositEvent_bind {α β : Type} {e : Event A} {f : Unit → Dispatch A α}
    {s : Chain A} {o : Option β} {g : β → Except DispatchError α × Chain A}
    (hf : (f () (s.deposit e)).outcome = o.map g) (he : ∀ b, o = some b → e.Encodable) :
    ((depositEvent e >>= f) s).outcome = o.map g := by
  rw [Exec.bind_apply]
  by_cases hencodes : e.Encodable
  · rw [depositEvent_apply hencodes, Ended.andThen_ok, hf]
  · have hnone : o = none := by
      rw [Option.eq_none_iff_forall_ne_some]
      intro b hb
      exact hencodes (he b hb)
    rw [depositEvent_trap hencodes, hnone]
    rfl

@[simp] theorem offchainIndexSet_apply (key value : Bytes) (s : Chain A) :
    offchainIndexSet key value s = .ok () (s.indexSet key value) := rfl

/-- A log argument traps exactly on bytes that are not UTF-8. -/
theorem expectUtf8_apply (v : Bytes) (msg : String) (s : Chain A) :
    expectUtf8 v msg s = if IsUtf8 v then .ok () s else .trap msg s := by
  unfold expectUtf8
  rw [Exec.bind_apply]
  by_cases h : IsUtf8 v
  · obtain ⟨cs, hcs⟩ := Option.isSome_iff_exists.mp h
    rw [if_pos h, hcs]
    rfl
  · rw [if_neg h, Option.not_isSome_iff_eq_none.mp h]
    rfl

theorem outcome_forM_expectUtf8 (args : List (Bytes × String)) (s : Chain A) :
    ((forM args fun arg => expectUtf8 arg.1 arg.2 : Dispatch A Unit) s).outcome =
      if ∀ arg ∈ args, IsUtf8 arg.1 then some (.ok (), s) else none := by
  induction args with
  | nil => simp
  | cons arg args ih =>
    -- the first argument that is not UTF-8 stops the statement
    rw [List.forM_cons, Exec.bind_apply, expectUtf8_apply]
    by_cases h : IsUtf8 arg.1
    · rw [if_pos h, Ended.andThen_ok, ih]
      simp only [List.forall_mem_cons, h, true_and]
    · rw [if_neg h]
      simp [h]

/-- **The log statement**: it has no effect, or it stops the call. -/
theorem outcome_logInfo_bind {α : Type} (env : Env) (args : List (Bytes × String))
    (f : Unit → Dispatch A α) (s : Chain A) :
    ((logInfo env args >>= f) s).outcome = if LogOk env args then (f () s).outcome else none := by
  rw [Exec.bind_apply, Ended.outcome_andThen, logInfo, Exec.ite_apply]
  by_cases hi : env.info = true
  · rw [if_pos hi, outcome_forM_expectUtf8]
    by_cases hargs : ∀ arg ∈ args, IsUtf8 arg.1
    · have hlog : LogOk env args := fun _ => hargs
      rw [if_pos hargs, if_pos hlog, continueWith_ok]
    · have hlog : ¬ LogOk env args := fun h => hargs (h hi)
      rw [if_neg hargs, if_neg hlog, continueWith_none]
  · have hlog : LogOk env args := fun h => absurd h hi
    rw [if_neg hi, if_pos hlog]
    rfl

/-- The log statement returns, or traps with the message of one of its arguments. -/
theorem logInfo_cases (env : Env) (args : List (Bytes × String)) (s : Chain A) :
    (logInfo env args s = .ok () s) ∨ ∃ arg ∈ args, logInfo env args s = .trap arg.2 s := by
  unfold logInfo
  rw [Exec.ite_apply]
  split
  · induction args with
    | nil => exact Or.inl rfl
    | cons arg args ih =>
      rw [List.forM_cons, Exec.bind_apply, expectUtf8_apply]
      by_cases h : IsUtf8 arg.1
      · rw [if_pos h, Ended.andThen_ok]
        refine ih.imp id ?_
        rintro ⟨arg', hmem, htrap⟩
        exact ⟨arg', List.mem_cons_of_mem _ hmem, htrap⟩
      · rw [if_neg h, Ended.andThen_trap]
        exact Or.inr ⟨arg, List.mem_cons_self .., rfl⟩
  · exact Or.inl rfl

/-- A log statement that is not stopped returns. -/
theorem logInfo_of_logOk {env : Env} {args : List (Bytes × String)} (h : LogOk env args)
    (s : Chain A) : logInfo env args s = .ok () s := by
  have houtcome := outcome_logInfo_bind env args (fun _ => (pure () : Dispatch A Unit)) s
  rw [if_pos h] at houtcome
  rcases logInfo_cases env args s with hok | ⟨arg, -, htrap⟩
  · exact hok
  · rw [Exec.bind_apply, htrap] at houtcome
    cases houtcome

/-- A node that does not log is never stopped. -/
@[simp] theorem logOk_withInfo_false (env : Env) (args : List (Bytes × String)) :
    LogOk (env.withInfo false) args := by
  intro hi
  cases hi

@[simp] theorem logOk_withInfo_true (env : Env) (args : List (Bytes × String)) :
    LogOk (env.withInfo true) args ↔ ∀ arg ∈ args, IsUtf8 arg.1 := by
  constructor
  · intro h
    exact h rfl
  · intro h _
    exact h

theorem outcome_offchainIndexEncoded {β : Type} (c : Codec β) (key : Bytes) (data : β)
    (s : Chain A) :
    (offchainIndexEncoded c key data s).outcome =
      if c.Fits data then some (.ok (), s.indexSet key (c.encode data)) else none := by
  unfold offchainIndexEncoded
  rw [Exec.ite_apply]
  split <;> rfl

end OffchainWorkerDemo
