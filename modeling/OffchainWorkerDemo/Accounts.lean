/-
# Accounts side by side

What the chain keeps for one account: its validation entries, its pending circuits
and its mobile key.  Four calls read and write nothing else, and only for the account
that signs them.  So the calls of other accounts can be deleted from a run of these
four without a trace at this account: its calls end and report as before, and its
entries are the same.
-/
import OffchainWorkerDemo.Runtime
import OffchainWorkerDemo.Lib.Unwinding

namespace OffchainWorkerDemo

open TxValidation

variable {A : Type}

/-! ## What an account owns -/

/-- The entries of one account in the three maps. -/
structure AccountEntries where
  metadata : Cid → Option DisplayValidationPackage
  pending : Option PendingCircuitsType
  mobile : Option MobilePackage

/-- The entries of `b`. -/
def Chain.entriesOf (s : Chain A) (b : A) : AccountEntries where
  metadata := fun cid => s.circuitServerMetadataMap (b, cid)
  pending := s.accountToPendingCircuitsMap b
  mobile := s.mobileRegistryMap b

theorem Chain.pending_of_entriesOf {s t : Chain A} {b : A} (h : s.entriesOf b = t.entriesOf b) :
    s.pending b = t.pending b := by
  have hpending : s.accountToPendingCircuitsMap b = t.accountToPendingCircuitsMap b :=
    congrArg AccountEntries.pending h
  rw [Chain.pending, Chain.pending, hpending]

theorem storedPackage_of_entriesOf {s t : Chain A} {b : A} (h : s.entriesOf b = t.entriesOf b)
    (c : Bytes) : storedPackage s b c = storedPackage t b c := by
  have hmetadata : (fun cid => s.circuitServerMetadataMap (b, cid)) =
      fun cid => t.circuitServerMetadataMap (b, cid) := congrArg AccountEntries.metadata h
  rw [storedPackage, storedPackage, hmetadata]

/-- The entries of the signer after the writes of a call. -/
def Effect.applyToEntries (e : Effect A) (v : AccountEntries) : AccountEntries where
  metadata := match e.entry with
    | some (cid, pkg) => Function.update v.metadata cid (some pkg)
    | none => v.metadata
  pending := e.pending.or v.pending
  mobile := e.mobile.or v.mobile

variable [DecidableEq A]

/-- **The writes of a call land in the entries of its signer.** -/
theorem Effect.entriesOf_applyTo_self (e : Effect A) (who : A) (s : Chain A) :
    (e.applyTo who s).entriesOf who = e.applyToEntries (s.entriesOf who) := by
  unfold Chain.entriesOf Effect.applyToEntries Effect.applyTo
  congr 1
  · funext cid
    rcases e.entry with _ | ⟨cid', pkg⟩
    · rfl
    · by_cases h : cid = cid'
      · subst h
        simp only [Function.update_self]
      · have hne : (who, cid) ≠ (who, cid') := by
          intro heq
          exact h (Prod.mk.inj heq).2
        simp only [Function.update_of_ne hne, Function.update_of_ne h]
  · rcases e.pending with _ | l
    · rfl
    · exact Function.update_self ..
  · rcases e.mobile with _ | m
    · rfl
    · exact Function.update_self ..

/-- The entries of the others stay as they are. -/
theorem Effect.entriesOf_applyTo_of_ne (e : Effect A) {who b : A} (h : b ≠ who) (s : Chain A) :
    (e.applyTo who s).entriesOf b = s.entriesOf b := by
  unfold Chain.entriesOf Effect.applyTo
  congr 1
  · funext cid
    rcases e.entry with _ | ⟨cid', pkg⟩
    · rfl
    · have hne : (b, cid) ≠ (who, cid') := by
        intro heq
        exact h (Prod.mk.inj heq).1
      exact Function.update_of_ne hne ..
  · rcases e.pending with _ | l
    · rfl
    · exact Function.update_of_ne h ..
  · rcases e.mobile with _ | m
    · rfl
    · exact Function.update_of_ne h ..

/-! ## Calls on one's own entries -/

/-- `store_metadata`, `check_input`, `register_mobile` and the strip callback: what they do
depends on the entries of the signer only. -/
def Call.OnOwnEntries : Call → Prop
  | .storeMetadata .. | .checkInput .. | .registerMobile ..
  | .callbackNewGarbledAndStripSigned .. => True
  | _ => False

omit [DecidableEq A] in
/-- **Such a call ends and writes the same** in states with the same entries of its signer. -/
theorem effect_of_entriesOf {env : Env} {who : A} {s t : Chain A} {call : Call}
    (hcall : call.OnOwnEntries) (h : s.entriesOf who = t.entriesOf who) :
    effect env who s call = effect env who t call := by
  cases call with
  | storeMetadata c m p => rfl
  | registerMobile k => rfl
  | checkInput c input => simp only [effect, storedPackage_of_entriesOf h]
  | callbackNewGarbledAndStripSigned mg mk md pg pk pd =>
    simp only [effect, Chain.pending_of_entriesOf h]
  | _ => exact hcall.elim

namespace SignedCall

/-- What the signer learns of a call: how it ends, and its events. -/
def outcome (x : SignedCall A) (s : Chain A) :
    Option (Except DispatchError Unit) × List (Event A) :=
  (x.result s, x.emitted s)

theorem outcome_eq (x : SignedCall A) (s : Chain A) :
    x.outcome s = ((effect x.env x.who s x.call).map Prod.fst, (x.writes s).events) := by
  rw [outcome, result_eq, emitted_eq]

omit [DecidableEq A] in
theorem writes_of_entriesOf {x : SignedCall A} {s t : Chain A} (hx : x.call.OnOwnEntries)
    (h : s.entriesOf x.who = t.entriesOf x.who) : x.writes s = x.writes t := by
  rw [writes, writes, effect_of_entriesOf hx h]

/-- **One step, seen by `b`.**  A call of another account is not seen; a call of `b` shows and
changes what `b`'s entries say. -/
theorem unwinds (b : A) :
    Unwinding.Unwinds (fun s x => apply x s) (fun s x => outcome x s)
      (fun x : SignedCall A => x.call.OnOwnEntries) (fun x => x.who = b)
      (fun s => s.entriesOf b) where
  hidden s x _ hwho := by
    rw [apply_eq]
    exact Effect.entriesOf_applyTo_of_ne _ (Ne.symm hwho) s
  stepped s t x hx hwho h := by
    subst hwho
    rw [apply_eq, apply_eq, Effect.entriesOf_applyTo_self, Effect.entriesOf_applyTo_self,
      writes_of_entriesOf hx h, h]
  shown s t x hx hwho h := by
    subst hwho
    rw [outcome_eq, outcome_eq, writes_of_entriesOf hx h, effect_of_entriesOf hx h]

end SignedCall

/-- How the calls of `b` in a run end and what they report, in their order. -/
def outcomesOf (b : A) : Chain A → List (SignedCall A) →
    List (Option (Except DispatchError Unit) × List (Event A)) :=
  Unwinding.outputs (fun s x => x.apply s) (fun s x => x.outcome s) (fun x => x.who = b)

/-- **Accounts do not interfere.**  Deleting from a run of these calls all calls that `b` did not
sign leaves the outcomes and the events of `b`'s calls and `b`'s entries as they were. -/
theorem accounts_do_not_interfere (b : A) (s : Chain A) (xs : List (SignedCall A))
    (hcalls : ∀ x ∈ xs, x.call.OnOwnEntries) :
    outcomesOf b s xs = outcomesOf b s (xs.filter fun x => x.who = b) ∧
      (runFrom s xs).entriesOf b = (runFrom s (xs.filter fun x => x.who = b)).entriesOf b :=
  (SignedCall.unwinds b).filter hcalls rfl

/-- Two accounts: a store of the first between a store and a check of the second. -/
def crossedCalls : List (SignedCall ℕ) :=
  [⟨default, 1, .storeMetadata [1] [3] OcwGarble.tenDigits⟩,
    ⟨default, 0, .storeMetadata [1] [4] OcwGarble.tenDigits⟩,
    ⟨default, 1, .checkInput [1] [3]⟩]

/-- The check of the second account passes with or without the calls of the first. -/
theorem accounts_do_not_interfere_crossedCalls :
    outcomesOf 1 (Chain.empty ℕ) crossedCalls =
      outcomesOf 1 (Chain.empty ℕ) (crossedCalls.filter fun x => x.who = 1) ∧
    (runFrom (Chain.empty ℕ) crossedCalls).entriesOf 1 =
      (runFrom (Chain.empty ℕ) (crossedCalls.filter fun x => x.who = 1)).entriesOf 1 :=
  accounts_do_not_interfere 1 (Chain.empty ℕ) crossedCalls
    (by simp [crossedCalls, Call.OnOwnEntries])

end OffchainWorkerDemo
