/-
# Attempts at a one-time code

What `check_input` reports, which calls write a validation entry, and that no
other call touches it.  An entry survives any attempt, so a code can be retried
until it passes and replayed after it has: in a run, an entry passes again after
an attempt exactly when its code is typed again before it is rewritten.
-/
import OffchainWorkerDemo.Runtime

namespace OffchainWorkerDemo

open TxValidation

variable {A : Type} [DecidableEq A]

/-! ## What `check_input` reports -/

namespace SignedCall

theorem emitted_checkInput {x : SignedCall A} {c input : Bytes}
    (hx : x.call = .checkInput c input) (s : Chain A) :
    x.emitted s =
      match (storedPackage s x.who c).bind fun pkg => checkVerdict x.env.info pkg input with
      | some true => [.txPass x.who]
      | some false => [.txFail x.who]
      | none => [] := by
  rw [emitted_eq, writes, hx]
  simp only [effect]
  cases storedPackage s x.who c with
  | none => rfl
  | some pkg =>
    rw [Option.bind_some, Option.bind_some]
    cases checkVerdict x.env.info pkg input with
    | none => rfl
    | some pass => cases pass <;> rfl

/-- **`check_input` passes** exactly on the right code of an entry it can print. -/
theorem emits_txPass_iff {x : SignedCall A} {c input : Bytes} (hx : x.call = .checkInput c input)
    (s : Chain A) (a : A) :
    .txPass a ∈ x.emitted s ↔ a = x.who ∧ ∃ pkg, storedPackage s x.who c = some pkg ∧
      Printable x.env pkg ∧ RightCode pkg input := by
  rw [emitted_checkInput hx]
  cases hpkg : storedPackage s x.who c with
  | none => simp
  | some pkg =>
    rw [Option.bind_some]
    simp only [Option.some_inj, exists_eq_left']
    constructor
    · intro h
      cases hv : checkVerdict x.env.info pkg input with
      | none =>
        rw [hv] at h
        cases h
      | some pass =>
        obtain ⟨hprint, -, hright⟩ := checkVerdict_eq_some_iff.mp hv
        rw [hv] at h
        cases pass with
        | true =>
          have ha : a = x.who := by simpa using h
          exact ⟨ha, hprint, hright.mp rfl⟩
        | false => simp at h
    · rintro ⟨rfl, hprint, hright⟩
      have hv : checkVerdict x.env.info pkg input = some true :=
        checkVerdict_eq_some_iff.mpr ⟨hprint, hright.typeable, by simpa using hright⟩
      rw [hv]
      exact List.mem_singleton.mpr rfl

/-- The call reports a verdict for `a`. -/
def Reports (x : SignedCall A) (s : Chain A) (a : A) : Prop :=
  .txPass a ∈ x.emitted s ∨ .txFail a ∈ x.emitted s

/-- **`check_input` reports a verdict** exactly on an input that can be typed. -/
theorem reports_iff {x : SignedCall A} {c input : Bytes} (hx : x.call = .checkInput c input)
    (s : Chain A) (a : A) :
    x.Reports s a ↔ a = x.who ∧ ∃ pkg, storedPackage s x.who c = some pkg ∧
      Printable x.env pkg ∧ Typeable pkg.pinpadDigits.val input := by
  unfold Reports
  rw [emitted_checkInput hx]
  cases hpkg : storedPackage s x.who c with
  | none => simp
  | some pkg =>
    rw [Option.bind_some]
    simp only [Option.some_inj, exists_eq_left']
    constructor
    · intro h
      cases hv : checkVerdict x.env.info pkg input with
      | none =>
        rw [hv] at h
        simp at h
      | some pass =>
        obtain ⟨hprint, htype, -⟩ := checkVerdict_eq_some_iff.mp hv
        rw [hv] at h
        have ha : a = x.who := by cases pass <;> simpa using h
        exact ⟨ha, hprint, htype⟩
    · rintro ⟨rfl, hprint, htype⟩
      by_cases hright : RightCode pkg input
      · have hv : checkVerdict x.env.info pkg input = some true :=
          checkVerdict_eq_some_iff.mpr ⟨hprint, htype, by simpa using hright⟩
        rw [hv]
        exact Or.inl (List.mem_singleton.mpr rfl)
      · have hv : checkVerdict x.env.info pkg input = some false :=
          checkVerdict_eq_some_iff.mpr ⟨hprint, htype, by simpa using hright⟩
        rw [hv]
        exact Or.inr (List.mem_singleton.mpr rfl)

/-! ## Who writes an entry -/

/-- The cid and the two digit lists a call hands to `store_metadata_aux`. -/
def carried (x : SignedCall A) : Option (Bytes × Bytes × Bytes) :=
  match x.call with
  | .storeMetadata c m p => some (c, m, p)
  | .callbackNewGarbledAndStripSigned c _ m _ _ p => some (c, m, p)
  | _ => none

/-- `store_metadata_aux` writes the entry of `a` and the circuit `c`: a successful
`store_metadata` or strip callback signed by `a` for that cid. -/
def Stores (x : SignedCall A) (s : Chain A) (a : A) (c : Bytes) : Prop :=
  x.who = a ∧ x.result s = some (.ok ()) ∧ ∃ m p, x.carried = some (c, m, p)

/-- An entry is written by a successful store, under the signer and the cid it names. -/
theorem stores_of_entry {x : SignedCall A} {s : Chain A} {cid : Cid}
    {pkg : DisplayValidationPackage} (h : (x.writes s).entry = some (cid, pkg)) :
    x.Stores s x.who cid.val := by
  obtain ⟨-, hw⟩ | ⟨r, hres, hmakes⟩ := x.writes_cases s
  · rw [hw] at h
    cases h
  unfold Stores carried
  revert h hmakes
  generalize x.writes s = e, x.call = call
  intro h hmakes
  cases hmakes with
  | storeMetadata hentry =>
    cases h
    exact ⟨rfl, hres, _, _, by rw [(metadataEntry_eq_some_iff.mp hentry).1]⟩
  | callbackNewGarbledAndStrip hresult =>
    have hentry := (OcwGarble.stripResult_eq_some_iff.mp hresult).2.1
    rw [Option.some_inj.mp h] at hentry
    exact ⟨rfl, hres, _, _, by rw [(metadataEntry_eq_some_iff.mp hentry).1]⟩
  | _ => cases h

/-- After a store the entry holds the digits it carried. -/
theorem storedPackage_of_stores {x : SignedCall A} {s : Chain A} {c m p : Bytes}
    (hcarried : x.carried = some (c, m, p)) (hres : x.result s = some (.ok ())) :
    ∃ pkg, storedPackage (x.apply s) x.who c = some pkg ∧
      pkg.messageDigits.val = m ∧ pkg.pinpadDigits.val = p := by
  have hmakes := makes_of_result hres
  have hentry : ∃ cid pkg, metadataEntry c m p = some (cid, pkg) ∧
      (x.writes s).entry = some (cid, pkg) := by
    unfold carried at hcarried
    revert hmakes hcarried
    generalize x.writes s = e, x.call = call
    intro hcarried hmakes
    cases hmakes with
    | @storeMetadata _ _ _ entry hentry =>
      cases hcarried
      exact ⟨entry.1, entry.2, hentry, rfl⟩
    | @callbackNewGarbledAndStrip _ _ _ _ _ _ r hresult =>
      cases hcarried
      exact ⟨r.1.1, r.1.2, (OcwGarble.stripResult_eq_some_iff.mp hresult).2.1, rfl⟩
    | _ => cases hcarried
  obtain ⟨cid, pkg, hmeta, hwrites⟩ := hentry
  obtain ⟨rfl, hm, hp⟩ := metadataEntry_eq_some_iff.mp hmeta
  refine ⟨pkg, ?_, hm, hp⟩
  unfold storedPackage
  rw [BoundedVec.tryFrom_val, Option.bind_some, metadata_apply, hwrites]
  exact Function.update_self _ _ _

/-- **Frame**: a call that does not store the entry of `a` and `c` leaves it as it is. -/
theorem storedPackage_apply {x : SignedCall A} {s : Chain A} {a : A} {c : Bytes}
    (h : ¬ x.Stores s a c) : storedPackage (x.apply s) a c = storedPackage s a c := by
  unfold storedPackage
  cases hc : BoundedVec.tryFrom 64 c with
  | none => rfl
  | some cid =>
    rw [Option.bind_some, Option.bind_some, metadata_apply]
    cases hentry : (x.writes s).entry with
    | none => rfl
    | some e =>
      obtain ⟨cid', pkg⟩ := e
      -- an entry written elsewhere: another account or another cid
      have hne : (a, cid) ≠ (x.who, cid') := by
        intro heq
        cases heq
        apply h
        rw [← BoundedVec.tryFrom_eq_some_iff.mp hc]
        exact stores_of_entry hentry
      exact Function.update_of_ne hne _ _

end SignedCall

/-! ## Runs -/

/-- The entry of `a` and `c` is written somewhere in the run from `s`. -/
def Rewritten (a : A) (c : Bytes) : Chain A → List (SignedCall A) → Prop
  | _, [] => False
  | s, x :: xs => x.Stores s a c ∨ Rewritten a c (x.apply s) xs

/-- An entry that is not rewritten is the same at the end of a run. -/
theorem storedPackage_runFrom {a : A} {c : Bytes} {s : Chain A} {xs : List (SignedCall A)}
    (h : ¬ Rewritten a c s xs) : storedPackage (runFrom s xs) a c = storedPackage s a c := by
  induction xs generalizing s with
  | nil => rfl
  | cons x xs ih =>
    rw [Rewritten, not_or] at h
    exact (ih h.2).trans (SignedCall.storedPackage_apply h.1)

/-- Two calls of a run with the calls between them. -/
def Between (xs pre : List (SignedCall A)) (x : SignedCall A) (mid : List (SignedCall A))
    (y : SignedCall A) : Prop := ∃ post, xs = pre ++ x :: (mid ++ y :: post)

/-- One attempt per code: after a verdict on an entry, no later `check_input` on it passes
unless it was rewritten in between. -/
def OneAttempt (s : Chain A) (xs : List (SignedCall A)) : Prop :=
  ∀ pre x mid y, Between xs pre x mid y → ∀ a c i j,
    x.who = a → x.call = .checkInput c i → y.who = a → y.call = .checkInput c j →
    x.Reports (runFrom s pre) a →
    .txPass a ∈ y.emitted (runFrom s (pre ++ x :: mid)) →
    Rewritten a c (runFrom s (pre ++ [x])) mid

/-- No code is typed again: after an attempt on an entry, no later `check_input` on it
types its code before it is rewritten. -/
def NoRightRetry (s : Chain A) (xs : List (SignedCall A)) : Prop :=
  ∀ pre x mid y, Between xs pre x mid y → ∀ a c i j pkg,
    x.who = a → x.call = .checkInput c i → y.who = a → y.call = .checkInput c j →
    storedPackage (runFrom s pre) a c = some pkg →
    Printable x.env pkg → Typeable pkg.pinpadDigits.val i →
    Printable y.env pkg → RightCode pkg j →
    Rewritten a c (runFrom s (pre ++ [x])) mid

/-- A `check_input` stores nothing. -/
theorem not_stores_checkInput {x : SignedCall A} {c i : Bytes} (hx : x.call = .checkInput c i)
    (s : Chain A) (a : A) (c' : Bytes) : ¬ x.Stores s a c' := by
  rintro ⟨-, -, m, p, h⟩
  rw [SignedCall.carried, hx] at h
  cases h

/-- The entry an attempt was made against is the one a later attempt finds. -/
theorem storedPackage_between {s : Chain A} {pre mid : List (SignedCall A)} {x : SignedCall A}
    {a : A} {c i : Bytes} (hx : x.call = .checkInput c i)
    (h : ¬ Rewritten a c (runFrom s (pre ++ [x])) mid) :
    storedPackage (runFrom s (pre ++ x :: mid)) a c = storedPackage (runFrom s pre) a c := by
  rw [show pre ++ x :: mid = (pre ++ [x]) ++ mid by simp, runFrom_append,
    storedPackage_runFrom h, runFrom_append]
  exact SignedCall.storedPackage_apply (not_stores_checkInput hx _ a c)

/-- **A code gets one attempt exactly in the runs that never type it again**: nothing but
a rewrite takes an entry away, so a retry with the right code passes. -/
theorem oneAttempt_iff (s : Chain A) (xs : List (SignedCall A)) :
    OneAttempt s xs ↔ NoRightRetry s xs := by
  constructor
  · intro h pre x mid y hbetween a c i j pkg hxw hx hyw hy hpkg hxp htype hyp hright
    by_contra hnot
    -- not rewritten, the entry is still there and the code passes
    apply hnot
    apply h pre x mid y hbetween a c i j hxw hx hyw hy
    · rw [SignedCall.reports_iff hx, hxw]
      exact ⟨rfl, pkg, hpkg, hxp, htype⟩
    · rw [SignedCall.emits_txPass_iff hy, hyw, storedPackage_between hx hnot]
      exact ⟨rfl, pkg, hpkg, hyp, hright⟩
  · intro h pre x mid y hbetween a c i j hxw hx hyw hy hreports hpass
    by_contra hnot
    rw [SignedCall.reports_iff hx, hxw] at hreports
    obtain ⟨-, pkg, hpkg, hxp, htype⟩ := hreports
    rw [SignedCall.emits_txPass_iff hy, hyw, storedPackage_between hx hnot, hpkg] at hpass
    obtain ⟨-, pkg', hpkg', hyp, hright⟩ := hpass
    -- both checks compared with the same entry
    obtain rfl := Option.some_inj.mp hpkg'
    exact hnot (h pre x mid y hbetween a c i j pkg hxw hx hyw hy hpkg hxp htype hyp hright)

/-! ## A replay -/

/-- A store of the code 3 with the pinpad in order, and the same code typed twice. -/
def replay : List (SignedCall ℕ) :=
  [⟨default, 0, .storeMetadata [1] [3] OcwGarble.tenDigits⟩,
    ⟨default, 0, .checkInput [1] [3]⟩, ⟨default, 0, .checkInput [1] [3]⟩]

/-- The code passes again right after it has passed. -/
theorem not_oneAttempt_replay : ¬ OneAttempt (Chain.empty ℕ) replay := by
  intro h
  have hrewritten := h [⟨default, 0, .storeMetadata [1] [3] OcwGarble.tenDigits⟩]
    ⟨default, 0, .checkInput [1] [3]⟩ [] ⟨default, 0, .checkInput [1] [3]⟩ ⟨[], rfl⟩
    0 [1] [3] [3] rfl rfl rfl rfl (Or.inl (by decide)) (by decide)
  exact hrewritten

end OffchainWorkerDemo
