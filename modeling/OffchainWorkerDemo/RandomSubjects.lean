/-
# The subjects of the randomness source

Every successful request for the display circuits asks the randomness source about
the eight bytes of a stored counter, which it advances; no other call touches the
counter, and a request that traps takes no number.  So over a run the subjects are
the numbers one after another from where the run starts, and they repeat exactly
when the counter has gone once round its 64 bits.
-/
import OffchainWorkerDemo.Extrinsics
import OffchainWorkerDemo.LogLevel
import OffchainWorkerDemo.Readiness
import OffchainWorkerDemo.Lib.Emissions

namespace OffchainWorkerDemo

open OcwGarble

variable {A : Type}

/-! ## The subject of one request -/

/-- The call is `garble_and_strip_display_circuits_package_signed`. -/
def Call.isRequest : Call → Bool
  | .garbleAndStripDisplayCircuitsPackageSigned _ => true
  | _ => false

/-- The subject of a request made in this state: what `get_and_increment_nonce` returns there. -/
def requestSubject (s : Chain A) : Option Bytes :=
  match getAndIncrementNonce s with
  | .ok subject _ => some subject
  | _ => none

/-- It is the bytes of the stored counter. -/
theorem requestSubject_eq (s : Chain A) : requestSubject s = some (leBytes 8 s.nonce.toNat) := rfl

/-- The same environment with another randomness source. -/
def Env.withRandom (env : Env) (random : Bytes → H256) : Env := { env with random := random }

/-- **A call asks the source about this subject only**: with a source that answers the same there,
it does the same. -/
theorem effect_withRandom {env : Env} {random : Bytes → H256} {s : Chain A}
    (h : ∀ subject, requestSubject s = some subject → random subject = env.random subject) (who : A)
    (call : Call) : effect (env.withRandom random) who s call = effect env who s call := by
  have hdrawn : drawnDigits (env.withRandom random) s = drawnDigits env s := by
    have hsame := h _ (requestSubject_eq s)
    show drawDigits env.draw (random (leBytes 8 s.nonce.toNat)).bytes =
      drawDigits env.draw (env.random (leBytes 8 s.nonce.toNat)).bytes
    rw [hsame]
  rcases call with _ | _ | _ | _ | _ | _ | _ | _ | t | _ | _
  case garbleAndStripDisplayCircuitsPackageSigned =>
    unfold effect
    rw [hdrawn]
    rfl
  all_goals rfl

variable [DecidableEq A]

/-- The subject an extrinsic asks about: none unless it is a successful request. -/
def Extrinsic.subject (x : Extrinsic A) (s : Chain A) : Option Bytes :=
  if x.call.isRequest ∧ x.result s = some (.ok ()) then requestSubject s else none

/-- The subjects of the successful requests of a run, in call order. -/
def subjects : Chain A → List (Extrinsic A) → List Bytes :=
  emissions (fun s x => x.apply s) fun s x => x.subject s

/-! ## The counter -/

/-- **A successful request takes one number**, and no other call takes any. -/
theorem SignedCall.nonce_apply_eq (x : SignedCall A) (s : Chain A) :
    (x.apply s).nonce =
      if x.call.isRequest ∧ x.result s = some (.ok ()) then s.nonce + 1 else s.nonce := by
  rw [nonce_apply]
  obtain ⟨hres, hw⟩ | ⟨r, hres, hmakes⟩ := x.writes_cases s
  · rw [hw, hres]
    simp
  · rw [hres]
    revert hmakes
    generalize x.writes s = e, x.call = call
    intro hmakes
    cases hmakes <;> simp [Call.isRequest]

theorem Extrinsic.nonce_apply_eq (x : Extrinsic A) (s : Chain A) :
    (x.apply s).nonce =
      if x.call.isRequest ∧ x.result s = some (.ok ()) then s.nonce + 1 else s.nonce := by
  rw [x.apply_eq, x.result_eq]
  rcases hsigned : x.signed with _ | y
  · simp
  · have hy := y.nonce_apply_eq s
    rw [eq_of_signed_eq_some hsigned]
    exact hy

/-- The subjects are the readings of the stored counter. -/
theorem counts_subject :
    Counts (fun (s : Chain A) (x : Extrinsic A) => x.apply s) (fun s x => x.subject s)
      Chain.nonce (· + 1) fun n => leBytes 8 n.toNat where
  emit := by
    intro s x b hb
    unfold Extrinsic.subject at hb
    obtain ⟨hok, hb⟩ := Option.ite_none_right_eq_some.mp hb
    rw [requestSubject_eq] at hb
    rw [x.nonce_apply_eq, if_pos hok]
    exact ⟨(Option.some_inj.mp hb).symm, rfl⟩
  idle := by
    intro s x hnone
    have hnot : ¬ (x.call.isRequest ∧ x.result s = some (.ok ())) := by
      intro hok
      rw [Extrinsic.subject, if_pos hok, requestSubject_eq] at hnone
      cases hnone
    rw [x.nonce_apply_eq, if_neg hnot]

/-! ## Going round -/

/-- The counter after `k` steps, modulo `2 ^ 64`. -/
theorem toNat_iterate_succ (n : UInt64) (k : ℕ) :
    ((· + 1)^[k] n).toNat = (n.toNat + k) % 2 ^ 64 := by
  induction k with
  | zero => exact (Nat.mod_eq_of_lt n.toNat_lt).symm
  | succ k ih =>
    rw [Function.iterate_succ_apply', UInt64.toNat_add, ih, UInt64.toNat_one]
    omega

/-- The counter is back after a multiple of `2 ^ 64` steps, and only then. -/
theorem isPeriodicPt_succ_iff (n : UInt64) (k : ℕ) :
    Function.IsPeriodicPt (· + 1) k n ↔ 2 ^ 64 ∣ k := by
  have hn := n.toNat_lt
  show (· + 1)^[k] n = n ↔ 2 ^ 64 ∣ k
  rw [← UInt64.toNat_inj, toNat_iterate_succ]
  omega

theorem minimalPeriod_succ (n : UInt64) : Function.minimalPeriod (· + 1) n = 2 ^ 64 := by
  apply Nat.dvd_antisymm
  · rw [← Function.isPeriodicPt_iff_minimalPeriod_dvd]
    exact (isPeriodicPt_succ_iff n (2 ^ 64)).mpr dvd_rfl
  · rw [← isPeriodicPt_succ_iff n]
    exact Function.isPeriodicPt_minimalPeriod _ n

theorem mem_periodicPts_succ (n : UInt64) : n ∈ Function.periodicPts (· + 1) := by
  rw [← Function.minimalPeriod_pos_iff_mem_periodicPts, minimalPeriod_succ]
  omega

/-- The eight bytes determine the number. -/
theorem leBytes_toNat_injective : Function.Injective fun n : UInt64 => leBytes 8 n.toNat := by
  intro m n hmn
  have hm : m.toNat < 256 ^ 8 := m.toNat_lt
  have hn : n.toNat < 256 ^ 8 := n.toNat_lt
  exact UInt64.toNat_inj.mp (leBytes_injective hm hn hmn)

/-! ## Runs -/

/-- **The stored counter** is ahead by the number of successful requests, modulo `2 ^ 64`. -/
theorem nonce_runExtrinsics (s : Chain A) (xs : List (Extrinsic A)) :
    (runExtrinsics s xs).nonce.toNat = (s.nonce.toNat + (subjects s xs).length) % 2 ^ 64 := by
  rw [← toNat_iterate_succ]
  exact congrArg UInt64.toNat (counts_subject.counter_foldl s xs)

/-- **The subjects do not repeat** in a run of at most `2 ^ 64` successful requests, and after as
many of them they come again. -/
theorem subjects_do_not_repeat (s : Chain A) (xs : List (Extrinsic A)) :
    ((subjects s xs).length ≤ 2 ^ 64 → (subjects s xs).Nodup) ∧
      ∀ k, k + 2 ^ 64 < (subjects s xs).length →
        (subjects s xs)[k + 2 ^ 64]? = (subjects s xs)[k]? := by
  have hperiod := minimalPeriod_succ s.nonce
  constructor
  · intro hlen
    rw [← hperiod] at hlen
    exact counts_subject.nodup_emissions leBytes_toNat_injective (mem_periodicPts_succ s.nonce) hlen
  · intro k hk
    rw [← hperiod] at hk ⊢
    exact counts_subject.getElem?_add_period hk

/-- A request of account 0 with an empty message, on a node that does not log. -/
def quietRequest : Extrinsic ℕ :=
  ⟨default, .signed 0, .garbleAndStripDisplayCircuitsPackageSigned []⟩

/-- Once the package is ready the request succeeds, and leaves it ready. -/
theorem quietRequest_apply {s : Chain ℕ} (hready : Ready s) :
    (quietRequest.subject s).isSome ∧ Ready (quietRequest.apply s) := by
  have hsome : (effect ((default : Env).withInfo false) 0 s
      (.garbleAndStripDisplayCircuitsPackageSigned [])).isSome :=
    (effect_isSome_iff default 0 s _).mpr ⟨hready, by decide⟩
  obtain ⟨⟨r, e⟩, heff⟩ := Option.isSome_iff_exists.mp hsome
  have hok : r = .ok () := by
    rcases makes_of_effect heff with _ | _
    rfl
  have hres : quietRequest.result s = some (.ok ()) := by
    show SignedCall.result ⟨default, 0, .garbleAndStripDisplayCircuitsPackageSigned []⟩ s = _
    rw [SignedCall.result_eq, ← hok]
    exact congrArg (Option.map Prod.fst) heff
  constructor
  · rw [Extrinsic.subject, if_pos ⟨rfl, hres⟩, requestSubject_eq]
    rfl
  · exact (SignedCall.ready_apply_iff ⟨default, 0, .garbleAndStripDisplayCircuitsPackageSigned []⟩
      hready).mpr id

/-- So as many requests as are made one after another succeed. -/
theorem length_subjects_quietRequests {s : Chain ℕ} (hready : Ready s) (n : ℕ) :
    (subjects s (List.replicate n quietRequest)).length = n := by
  induction n generalizing s with
  | zero => rfl
  | succ n ih =>
    obtain ⟨hsome, hready'⟩ := quietRequest_apply hready
    obtain ⟨subject, hsubject⟩ := Option.isSome_iff_exists.mp hsome
    rw [List.replicate_succ, subjects, emissions, hsubject]
    exact congrArg (· + 1) (ih hready')

/-- The second subject is not the first, and the one after `2 ^ 64` requests is. -/
theorem subjects_do_not_repeat_quietRequests :
    (subjects (run [countedCallback]) (List.replicate 2 quietRequest)).Nodup ∧
      (subjects (run [countedCallback]) (List.replicate (2 ^ 64 + 1) quietRequest))[0 + 2 ^ 64]? =
        (subjects (run [countedCallback]) (List.replicate (2 ^ 64 + 1) quietRequest))[0]? := by
  have hlen := length_subjects_quietRequests ready_countedCallback
  refine ⟨(subjects_do_not_repeat _ _).1 ?_, (subjects_do_not_repeat _ _).2 0 ?_⟩
  · rw [hlen]
    omega
  · rw [hlen]
    omega

end OffchainWorkerDemo
