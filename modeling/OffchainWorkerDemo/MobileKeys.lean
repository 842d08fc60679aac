/-
# The keys an account registers

`register_mobile` checks that a key is not too short and then unwraps the conversion
that checks that it is not too long: a key past the maximum traps where a short one is
refused.  Nothing else writes the registry, so an account's entry is the last key of
an admissible size it registered.
-/
import OffchainWorkerDemo.Extrinsics
import OffchainWorkerDemo.Lib.Runs

namespace OffchainWorkerDemo

variable {A : Type} [DecidableEq A]

/-! ## One call -/

/-- A key that can be registered: 32 to 256 bytes. -/
def AdmissibleKey (k : Bytes) : Prop := 32 ≤ k.length ∧ k.length ≤ maxPubKeyLen

instance (k : Bytes) : Decidable (AdmissibleKey k) := inferInstanceAs (Decidable (_ ∧ _))

/-- The call of `who` that registers `k`. -/
def registration (env : Env) (who : A) (k : Bytes) : SignedCall A := ⟨env, who, .registerMobile k⟩

/-- `register_mobile` accepts exactly the admissible keys: it stores such a key for its signer and
reports it, and refuses any other with `InvalidKeySize` and nothing changed. -/
structure RegistersExactly (env : Env) (who : A) (k : Bytes) (s : Chain A) : Prop where
  returns : (registration env who k).result s ≠ none
  accepts : AdmissibleKey k → (registration env who k).result s = some (.ok ()) ∧
    ((registration env who k).apply s).events = s.events ++ [.newMobileRegistered who] ∧
    ∃ m : MobilePackage, m.pubKey.val = k ∧
      ((registration env who k).apply s).mobileRegistryMap =
        Function.update s.mobileRegistryMap who (some m)
  refuses : ¬ AdmissibleKey k →
    (registration env who k).result s = some (.error .invalidKeySize) ∧
    ((registration env who k).apply s).events = s.events ∧
    ((registration env who k).apply s).mobileRegistryMap = s.mobileRegistryMap

theorem outcome_registerMobile_of_admissible (env : Env) (who : A) {k : Bytes} (s : Chain A)
    (h : AdmissibleKey k) :
    (dispatch env (.signed who) (.registerMobile k) s).outcome =
      some (.ok (), (s.deposit (.newMobileRegistered who)).insertMobile who ⟨⟨k, h.2⟩⟩) := by
  show (MobileRegistry.registerMobile (.signed who) k s).outcome = _
  rw [MobileRegistry.outcome_registerMobile, if_pos h.1, BoundedVec.tryFrom_of_le h.2,
    Option.map_some]

theorem outcome_registerMobile_of_short (env : Env) (who : A) {k : Bytes} (s : Chain A)
    (h : ¬ 32 ≤ k.length) :
    (dispatch env (.signed who) (.registerMobile k) s).outcome =
      some (.error .invalidKeySize, s) := by
  show (MobileRegistry.registerMobile (.signed who) k s).outcome = _
  rw [MobileRegistry.outcome_registerMobile, if_neg h]

/-- A key past the maximum length traps the call. -/
theorem outcome_registerMobile_of_long (env : Env) (who : A) {k : Bytes} (s : Chain A)
    (h : ¬ k.length ≤ maxPubKeyLen) :
    (dispatch env (.signed who) (.registerMobile k) s).outcome = none := by
  have hmin : 32 ≤ k.length := by
    unfold maxPubKeyLen at h
    omega
  show (MobileRegistry.registerMobile (.signed who) k s).outcome = none
  rw [MobileRegistry.outcome_registerMobile, if_pos hmin, BoundedVec.tryFrom_of_not_le h,
    Option.map_none]

/-- **`register_mobile` accepts exactly the admissible keys** as long as the key is within the
maximum length. -/
theorem registersExactly_iff_length_le (env : Env) (who : A) (k : Bytes) (s : Chain A) :
    RegistersExactly env who k s ↔ k.length ≤ maxPubKeyLen := by
  constructor
  · intro h
    by_contra hlong
    exact h.returns
      (SignedCall.result_of_outcome_none (outcome_registerMobile_of_long env who s hlong))
  · intro hmax
    by_cases hkey : AdmissibleKey k
    · obtain ⟨hres, happly⟩ := SignedCall.result_apply_of_outcome
        (x := registration env who k) (outcome_registerMobile_of_admissible env who s hkey)
      refine ⟨?_, ?_, fun hnot => absurd hkey hnot⟩
      · rw [hres]
        exact Option.some_ne_none _
      · intro _
        rw [happly]
        exact ⟨hres, rfl, ⟨⟨k, hkey.2⟩⟩, rfl, rfl⟩
    · have hshort : ¬ 32 ≤ k.length := fun hmin => hkey ⟨hmin, hmax⟩
      obtain ⟨hres, happly⟩ := SignedCall.result_apply_of_outcome
        (x := registration env who k) (outcome_registerMobile_of_short env who s hshort)
      refine ⟨?_, fun h => absurd h hkey, ?_⟩
      · rw [hres]
        exact Option.some_ne_none _
      · intro _
        rw [happly]
        exact ⟨hres, rfl, rfl⟩

/-! ## Runs -/

/-- The key of an account. -/
def Chain.mobileKey (s : Chain A) (a : A) : Option Bytes :=
  (s.mobileRegistryMap a).map fun m => m.pubKey.val

/-- The admissible key a call of `a` is made to register. -/
def SignedCall.registers (a : A) (x : SignedCall A) : Option Bytes :=
  match x.call with
  | .registerMobile k => if x.who = a ∧ AdmissibleKey k then some k else none
  | _ => none

/-- The last admissible key `a` is to register in a run. -/
def lastKey (a : A) (xs : List (SignedCall A)) : Option Bytes :=
  (xs.filterMap fun x => x.registers a).getLast?

/-- A key that could be registered does not trap. -/
theorem SignedCall.registers_of_trap {x : SignedCall A} {s : Chain A} (a : A)
    (h : x.result s = none) : x.registers a = none := by
  unfold registers
  split
  · rename_i k hcall
    rw [if_neg]
    rintro ⟨-, hkey⟩
    have houtcome := outcome_registerMobile_of_admissible x.env x.who s hkey
    rw [← hcall] at houtcome
    rw [(result_apply_of_outcome houtcome).1] at h
    cases h
  · rfl

/-- **A step**: a call leaves its signer the admissible key it is made to register, and every
other account what it had. -/
theorem SignedCall.mobileKey_apply (x : SignedCall A) (s : Chain A) (a : A) :
    (x.apply s).mobileKey a = (x.registers a).or (s.mobileKey a) := by
  unfold Chain.mobileKey
  rw [mobile_apply]
  obtain ⟨hres, hw⟩ | ⟨r, -, hmakes⟩ := x.writes_cases s
  · rw [hw, registers_of_trap a hres]
    rfl
  · unfold registers
    revert hmakes
    generalize x.writes s = e, x.call = call
    intro hmakes
    cases hmakes with
    | @registerMobile k key hmin hkey =>
      obtain rfl := BoundedVec.tryFrom_eq_some_iff.mp hkey
      have hadm : AdmissibleKey key.val := ⟨hmin, key.bound⟩
      by_cases ha : x.who = a
      · subst ha
        simp only [Function.update_self, hadm, and_self, if_true, Option.map_some, Option.some_or]
      · simp only [Function.update_of_ne (Ne.symm ha), ha, false_and, if_false, Option.none_or]
    | @invalidKeySize k hmin =>
      have hnot : ¬ (x.who = a ∧ AdmissibleKey k) := fun h => hmin h.2.1
      simp only [hnot, if_false, Option.none_or]
    | _ => rfl

/-- **The entry of an account** is its last admissible key, or what it had before the run. -/
theorem mobileKey_runExtrinsics (s : Chain A) (xs : List (Extrinsic A)) (a : A) :
    (runExtrinsics s xs).mobileKey a = (lastKey a (signedCalls xs)).or (s.mobileKey a) := by
  rw [runExtrinsics_eq]
  exact Runs.last_write (fun t : Chain A => t.mobileKey a) (fun x => x.registers a)
    (fun t x => x.mobileKey_apply t a) s (signedCalls xs)

/-- **`register_mobile` accepts exactly the admissible keys up to the maximum length**, and the
entry of every account is its last admissible key whatever lengths were tried. -/
theorem registersExactly_iff :
    (∀ (env : Env) (who : A) (k : Bytes) (s : Chain A),
        RegistersExactly env who k s ↔ k.length ≤ maxPubKeyLen) ∧
      ∀ (s : Chain A) (xs : List (Extrinsic A)) (a : A),
        (runExtrinsics s xs).mobileKey a = (lastKey a (signedCalls xs)).or (s.mobileKey a) :=
  ⟨registersExactly_iff_length_le, mobileKey_runExtrinsics⟩

/-- A key of 257 bytes. -/
def longKey : Bytes := List.replicate 257 0

/-- It traps the call, which does not return `InvalidKeySize`. -/
theorem not_registersExactly_longKey : ¬ RegistersExactly default 0 longKey (Chain.empty ℕ) := by
  intro h
  have hlong : ¬ longKey.length ≤ maxPubKeyLen := by
    unfold longKey maxPubKeyLen
    rw [List.length_replicate]
    omega
  exact h.returns
    (SignedCall.result_of_outcome_none (outcome_registerMobile_of_long _ _ _ hlong))

end OffchainWorkerDemo
