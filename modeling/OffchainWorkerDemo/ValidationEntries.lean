/-
# Pending packages and their validation entries

A pending package is validated by the entry stored under its account and its first
cid.  Entries are never removed, so every pending package has one; but they are
replaced, and the other three cids of a package are no part of the key.  A package keeps
its own digits exactly in the runs where nobody stores anything else under its key.
-/
import OffchainWorkerDemo.PendingCircuits
import OffchainWorkerDemo.Extrinsics
import OffchainWorkerDemo.Lib.Runs

namespace OffchainWorkerDemo

open TxValidation

variable {A : Type}

/-- The validation entry of a package of `a`. -/
def Chain.entry (s : Chain A) (a : A) (q : DisplayStrippedCircuitsPackage) :
    Option DisplayValidationPackage := s.circuitServerMetadataMap (a, q.messagePgarbledCid)

theorem Chain.entry_eq_storedPackage (s : Chain A) (a : A) (q : DisplayStrippedCircuitsPackage) :
    s.entry a q = storedPackage s a q.messagePgarbledCid.val := by
  rw [storedPackage, BoundedVec.tryFrom_val, Option.bind_some, Chain.entry]

variable [DecidableEq A]

/-! ## The packages a call appends -/

namespace SignedCall

/-- The package a call would append: that of a strip callback. -/
def brought (x : SignedCall A) : Option DisplayStrippedCircuitsPackage :=
  match x.call with
  | .callbackNewGarbledAndStripSigned mg mp md pg pp _ =>
    OcwGarble.strippedPackage mg mp pg pp md.length
  | _ => none

theorem mem_appended_iff {x : SignedCall A} {s : Chain A} {a : A}
    {q : DisplayStrippedCircuitsPackage} :
    q ∈ x.appended s a ↔ x.who = a ∧ x.result s = some (.ok ()) ∧ x.brought = some q := by
  unfold appended brought
  by_cases h : x.who = a ∧ x.result s = some (.ok ())
  · rw [if_pos h]
    cases x.call <;> simp [h]
  · rw [if_neg h]
    refine iff_of_false (by simp) ?_
    rintro ⟨hwho, hres, -⟩
    exact h ⟨hwho, hres⟩

omit [DecidableEq A] in
/-- A callback brings the digits of its package under the key of its package. -/
theorem carried_of_brought {x : SignedCall A} {q : DisplayStrippedCircuitsPackage}
    (h : x.brought = some q) :
    ∃ m p, x.carried = some (q.messagePgarbledCid.val, m, p) ∧
      OcwGarble.u32TryFrom m.length = some q.messageNbDigits := by
  unfold brought at h
  unfold carried
  split at h
  · rename_i mg mp md pg pp pd hcall
    obtain ⟨rfl, -, -, -, hnb⟩ := OcwGarble.strippedPackage_eq_some_iff.mp h
    exact ⟨md, pd, by rw [hcall], hnb⟩
  · cases h

/-- An entry that is there stays there, perhaps with other digits. -/
theorem isSome_metadata_apply {x : SignedCall A} {s : Chain A} {key : A × Cid}
    (h : (s.circuitServerMetadataMap key).isSome) :
    ((x.apply s).circuitServerMetadataMap key).isSome := by
  rw [metadata_apply]
  rcases (x.writes s).entry with _ | ⟨cid, pkg⟩
  · exact h
  · by_cases hkey : key = (x.who, cid)
    · subst hkey
      simp only [Function.update_self, Option.isSome_some]
    · simp only [Function.update_of_ne hkey]
      exact h

/-- After a store the entry of a package with its key holds the digits that were carried. -/
theorem entry_of_carried {x : SignedCall A} {s : Chain A} {q : DisplayStrippedCircuitsPackage}
    {m p : Bytes} (hcarried : x.carried = some (q.messagePgarbledCid.val, m, p))
    (hres : x.result s = some (.ok ())) :
    ∃ pkg, (x.apply s).entry x.who q = some pkg ∧
      pkg.messageDigits.val = m ∧ pkg.pinpadDigits.val = p := by
  rw [Chain.entry_eq_storedPackage]
  exact storedPackage_of_stores hcarried hres

end SignedCall

/-! ## Every pending package has an entry -/

/-- Every pending package of every account has a validation entry. -/
def Backed (s : Chain A) : Prop := ∀ a, ∀ q ∈ (s.pending a).val, (s.entry a q).isSome

theorem Backed.apply {s : Chain A} (hs : Backed s) (x : SignedCall A) : Backed (x.apply s) := by
  intro a q hq
  rw [SignedCall.pending_apply_val] at hq
  rcases List.mem_append.mp hq with hq | hq
  · exact SignedCall.isSome_metadata_apply (hs a q hq)
  · -- the call that appends the package has stored its digits before
    obtain ⟨rfl, hres, hbrought⟩ := SignedCall.mem_appended_iff.mp hq
    obtain ⟨m, p, hcarried, -⟩ := SignedCall.carried_of_brought hbrought
    obtain ⟨pkg, hpkg, -⟩ := SignedCall.entry_of_carried hcarried hres
    rw [hpkg]
    rfl

/-- **The pending lists are a history backed by validation entries.**  After any calls of any
origin, the list of an account holds the packages of its successful strip callbacks, in call
order, and every package in it has an entry under its key. -/
theorem pending_backed_history (xs : List (Extrinsic A)) (a : A) :
    ((runExtrinsics (Chain.empty A) xs).pending a).val =
        history a (Chain.empty A) (signedCalls xs) ∧
      ∀ q ∈ ((runExtrinsics (Chain.empty A) xs).pending a).val,
        ((runExtrinsics (Chain.empty A) xs).circuitServerMetadataMap
          (a, q.messagePgarbledCid)).isSome := by
  rw [runExtrinsics_eq]
  refine ⟨pending_runFrom (Chain.empty A) (signedCalls xs) a, ?_⟩
  have hempty : Backed (Chain.empty A) := by
    intro a q hq
    cases hq
  exact Runs.invariant (fun s x hs => hs.apply x) hempty (signedCalls xs) a

/-! ## Its own digits -/

/-- The entries of the packages pending in `s` are the same in `t`. -/
def KeepsEntries (s t : Chain A) : Prop :=
  ∀ a, ∀ q ∈ (s.pending a).val, t.entry a q = s.entry a q

/-- Every pending package has an entry with as many digits as it says, and different packages
of an account have different entries. -/
structure OwnDigits (s : Chain A) : Prop where
  nbDigits : ∀ a, ∀ q ∈ (s.pending a).val, ∃ pkg, s.entry a q = some pkg ∧
    pkg.messageDigits.val.length = q.messageNbDigits.toNat
  distinct : ∀ a, ∀ q ∈ (s.pending a).val, ∀ q' ∈ (s.pending a).val,
    q.messagePgarbledCid = q'.messagePgarbledCid → q = q'

omit [DecidableEq A] in
theorem ownDigits_empty : OwnDigits (Chain.empty A) := by
  refine ⟨?_, ?_⟩
  · intro a q hq
    cases hq
  · intro a q hq
    cases hq

/-- The digits of the entry of a package: (message, pinpad). -/
def Chain.entryDigits (s : Chain A) (a : A) (q : DisplayStrippedCircuitsPackage) :
    Option (Bytes × Bytes) :=
  (s.entry a q).map fun pkg => (pkg.messageDigits.val, pkg.pinpadDigits.val)

omit [DecidableEq A] in
/-- Entries with the same digits are the same. -/
theorem Chain.entry_eq_of_entryDigits {s t : Chain A} {a : A} {q : DisplayStrippedCircuitsPackage}
    (h : t.entryDigits a q = s.entryDigits a q) : t.entry a q = s.entry a q := by
  refine Option.map_injective ?_ h
  rintro ⟨m, p⟩ ⟨m', p'⟩ heq
  obtain ⟨hm, hp⟩ := Prod.mk.inj heq
  exact congrArg₂ DisplayValidationPackage.mk (BoundedVec.ext_val hm) (BoundedVec.ext_val hp)

namespace SignedCall

/-- The guards of a call that stores an entry: its parts are within their bounds; for a
callback, its cids can be logged and the list of its signer has room. -/
def CanStore (x : SignedCall A) (s : Chain A) : Prop :=
  match x.call with
  | .storeMetadata c m p => c.length ≤ 64 ∧ m.length ≤ 10 ∧ p.length ≤ 10
  | .callbackNewGarbledAndStripSigned mg mp md pg pp pd =>
    LogOk x.env (OcwGarble.stripLogArgs mg mp pg pp) ∧
      OcwGarble.StripStorable mg mp md pg pp pd ∧
      (s.pending x.who).val.length < maxNumberPendingCircuitsPerAccount
  | _ => False

/-- **A call stores an entry** exactly when its guards hold. -/
theorem canStore_iff {x : SignedCall A} {s : Chain A} :
    x.CanStore s ↔ x.result s = some (.ok ()) ∧ x.carried.isSome := by
  rw [result_eq]
  unfold CanStore carried
  rcases x with ⟨env, who, call⟩
  cases call with
  | storeMetadata c m p =>
    simp only [effect, Option.map_map, Function.comp_def, Option.isSome_some, and_true]
    rw [← metadataEntry_isSome_iff, Option.map_eq_some_iff, Option.isSome_iff_exists]
    simp
  | callbackNewGarbledAndStripSigned mg mp md pg pp pd =>
    simp only [effect, Option.map_map, Function.comp_def, Option.isSome_some, and_true]
    rw [← OcwGarble.stripResult_isSome_iff, Option.map_eq_some_iff, Option.isSome_iff_exists]
    simp
  | _ => simp

/-- The call stores, under the key of a package pending for its signer, other digits than are
there, or those of another package. -/
def Collides (x : SignedCall A) (s : Chain A) : Prop :=
  x.CanStore s ∧ ∃ q ∈ (s.pending x.who).val, ∃ m p,
    x.carried = some (q.messagePgarbledCid.val, m, p) ∧
    ¬ (s.entryDigits x.who q = some (m, p) ∧ ∀ q', x.brought = some q' → q' = q)

/-- A call that stores leaves the digits it carries. -/
theorem entryDigits_of_carried {x : SignedCall A} {s : Chain A}
    {q : DisplayStrippedCircuitsPackage} {m p : Bytes}
    (hcarried : x.carried = some (q.messagePgarbledCid.val, m, p))
    (hres : x.result s = some (.ok ())) : (x.apply s).entryDigits x.who q = some (m, p) := by
  obtain ⟨pkg, hpkg, rfl, rfl⟩ := entry_of_carried hcarried hres
  rw [Chain.entryDigits, hpkg]
  rfl

/-- A call that does not collide keeps the entries of the pending packages. -/
theorem keepsEntries_of_not_collides {x : SignedCall A} {s : Chain A} (h : ¬ x.Collides s) :
    KeepsEntries s (x.apply s) := by
  intro a q hq
  by_cases hstores : x.Stores s a q.messagePgarbledCid.val
  · obtain ⟨rfl, hres, m, p, hcarried⟩ := hstores
    have hcan : x.CanStore s := canStore_iff.mpr ⟨hres, by rw [hcarried]; rfl⟩
    -- what it stores is what is there
    have hsame : s.entryDigits x.who q = some (m, p) := by
      by_contra hnot
      exact h ⟨hcan, q, hq, m, p, hcarried, fun hkeep => hnot hkeep.1⟩
    apply Chain.entry_eq_of_entryDigits
    rw [entryDigits_of_carried hcarried hres, hsame]
  · rw [Chain.entry_eq_storedPackage, Chain.entry_eq_storedPackage]
    exact storedPackage_apply hstores

/-- A package that is new in a list is one a call of its account has stored the digits of. -/
theorem collides_of_appended {x : SignedCall A} {s : Chain A} {a : A}
    {q q' : DisplayStrippedCircuitsPackage} (hq : q ∈ x.appended s a) (hq' : q' ∈ (s.pending a).val)
    (hkey : q.messagePgarbledCid = q'.messagePgarbledCid) (hne : q ≠ q') : x.Collides s := by
  obtain ⟨rfl, hres, hbrought⟩ := mem_appended_iff.mp hq
  obtain ⟨m, p, hcarried, -⟩ := carried_of_brought hbrought
  have hcan : x.CanStore s := canStore_iff.mpr ⟨hres, by rw [hcarried]; rfl⟩
  rw [hkey] at hcarried
  exact ⟨hcan, q', hq', m, p, hcarried, fun hkeep => hne (hkeep.2 q hbrought)⟩

/-- A call that does not collide leaves every package its own digits. -/
theorem ownDigits_of_not_collides {x : SignedCall A} {s : Chain A} (hs : OwnDigits s)
    (h : ¬ x.Collides s) : OwnDigits (x.apply s) where
  nbDigits := by
    intro a q hq
    rw [pending_apply_val] at hq
    rcases List.mem_append.mp hq with hq | hq
    · rw [keepsEntries_of_not_collides h a q hq]
      exact hs.nbDigits a q hq
    · obtain ⟨rfl, hres, hbrought⟩ := mem_appended_iff.mp hq
      obtain ⟨m, p, hcarried, hnb⟩ := carried_of_brought hbrought
      obtain ⟨pkg, hpkg, hm, -⟩ := entry_of_carried hcarried hres
      refine ⟨pkg, hpkg, ?_⟩
      rw [hm]
      exact OcwGarble.u32TryFrom_toNat hnb
  distinct := by
    intro a q hq q' hq' hkey
    rw [pending_apply_val] at hq hq'
    by_contra hne
    rcases List.mem_append.mp hq with hq | hq <;> rcases List.mem_append.mp hq' with hq' | hq'
    · exact hne (hs.distinct a q hq q' hq' hkey)
    · exact h (collides_of_appended hq' hq hkey.symm (Ne.symm hne))
    · exact h (collides_of_appended hq hq' hkey hne)
    · -- a call appends one package
      have hbrought := (mem_appended_iff.mp hq).2.2
      have hbrought' := (mem_appended_iff.mp hq').2.2
      exact hne (Option.some_inj.mp (hbrought.symm.trans hbrought'))

/-- **One step**: the pending packages keep their own digits exactly when the call does not
collide. -/
theorem keepsOwnDigits_step_iff {x : SignedCall A} {s : Chain A} (hs : OwnDigits s) :
    KeepsEntries s (x.apply s) ∧ OwnDigits (x.apply s) ↔ ¬ x.Collides s := by
  constructor
  · rintro ⟨hkeeps, hown⟩ ⟨hcan, q, hq, m, p, hcarried, hnot⟩
    have hres := (canStore_iff.mp hcan).1
    have hafter : ∀ r ∈ (s.pending x.who).val, r ∈ ((x.apply s).pending x.who).val := by
      intro r hr
      rw [pending_apply_val]
      exact List.mem_append_left _ hr
    apply hnot
    refine ⟨?_, ?_⟩
    · rw [Chain.entryDigits, ← hkeeps x.who q hq]
      exact entryDigits_of_carried hcarried hres
    · intro q' hbrought
      have hq' : q' ∈ ((x.apply s).pending x.who).val := by
        rw [pending_apply_val]
        exact List.mem_append_right _ (mem_appended_iff.mpr ⟨rfl, hres, hbrought⟩)
      obtain ⟨m', p', hcarried', -⟩ := carried_of_brought hbrought
      -- the package it brings has the key it stores under
      have hval : q'.messagePgarbledCid.val = q.messagePgarbledCid.val :=
        (Prod.mk.inj (Option.some_inj.mp (hcarried'.symm.trans hcarried))).1
      exact hown.distinct x.who q' hq' q (hafter q hq) (BoundedVec.ext_val hval)
  · intro h
    exact ⟨keepsEntries_of_not_collides h, ownDigits_of_not_collides hs h⟩

end SignedCall

/-- The signed call of an extrinsic collides; what is not signed stores nothing. -/
def Extrinsic.Collides (x : Extrinsic A) (s : Chain A) : Prop :=
  ∃ y, x.signed = some y ∧ y.Collides s

theorem Extrinsic.keepsOwnDigits_step_iff {x : Extrinsic A} {s : Chain A} (hs : OwnDigits s) :
    KeepsEntries s (x.apply s) ∧ OwnDigits (x.apply s) ↔ ¬ x.Collides s := by
  rw [x.apply_eq, Collides]
  rcases x.signed with _ | y
  · refine iff_of_true ⟨fun a q _ => rfl, hs⟩ ?_
    rintro ⟨y, hy, -⟩
    cases hy
  · rw [Option.map_some, Option.getD_some, SignedCall.keepsOwnDigits_step_iff hs]
    simp

/-- In every state of a run the next call keeps the entries of the pending packages, and after it
every pending package has its own digits. -/
def KeepOwnDigits (xs : List (Extrinsic A)) : Prop :=
  ∀ pre x post, xs = pre ++ x :: post →
    KeepsEntries (runExtrinsics (Chain.empty A) pre)
        (x.apply (runExtrinsics (Chain.empty A) pre)) ∧
      OwnDigits (x.apply (runExtrinsics (Chain.empty A) pre))

/-- No call of a run collides in the state it is made in. -/
def NoCollision (xs : List (Extrinsic A)) : Prop :=
  ∀ pre x post, xs = pre ++ x :: post → ¬ x.Collides (runExtrinsics (Chain.empty A) pre)

/-- **Pending packages keep their own digits exactly in the runs without a collision.** -/
theorem keepOwnDigits_iff (xs : List (Extrinsic A)) : KeepOwnDigits xs ↔ NoCollision xs := by
  have hiff : ∀ (s : Chain A) (x : Extrinsic A), OwnDigits s →
      (KeepsEntries s (x.apply s) ∧ OwnDigits (x.apply s) ↔ ¬ x.Collides s) :=
    fun s x hs => Extrinsic.keepsOwnDigits_step_iff hs
  have hinv : ∀ (s : Chain A) (x : Extrinsic A), OwnDigits s →
      KeepsEntries s (x.apply s) ∧ OwnDigits (x.apply s) → OwnDigits (x.apply s) :=
    fun s x _ h => h.2
  have hsteps := Runs.along_congr hiff hinv ownDigits_empty xs
  rw [Runs.along_iff_forall, Runs.along_iff_forall] at hsteps
  exact hsteps

/-- Two callbacks of one account with the same first cid, with the codes 3 and 4. -/
def sameKeyCallbacks : List (Extrinsic ℕ) :=
  [⟨default, .signed 0, .callbackNewGarbledAndStripSigned [1] [2] [3] [4] [5] OcwGarble.tenDigits⟩,
    ⟨default, .signed 0, .callbackNewGarbledAndStripSigned [1] [6] [4] [7] [8] OcwGarble.tenDigits⟩]

/-- The code of the first package becomes that of the second. -/
theorem not_keepOwnDigits_sameKeyCallbacks : ¬ KeepOwnDigits sameKeyCallbacks := by
  intro h
  have hkeeps := (h [⟨default, .signed 0,
    .callbackNewGarbledAndStripSigned [1] [2] [3] [4] [5] OcwGarble.tenDigits⟩] _ [] rfl).1 0
    ⟨⟨[1], by decide⟩, ⟨[2], by decide⟩, ⟨[4], by decide⟩, ⟨[5], by decide⟩, 1⟩ (by decide)
  exact absurd hkeeps (by decide)

end OffchainWorkerDemo
