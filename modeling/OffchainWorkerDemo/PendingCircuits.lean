/-
# The pending circuits of an account

Only the strip callback writes `AccountToPendingCircuitsMap`, and it appends to the
caller's list; nothing takes a package out.  So the list is the history of the
account's successful callbacks, and once it is full every later one traps.
-/
import OffchainWorkerDemo.Attempts

namespace OffchainWorkerDemo

variable {A : Type} [DecidableEq A]

namespace SignedCall

/-- The package a call appends to the list of `a`: none unless it is a successful strip
callback signed by `a`. -/
def appended (x : SignedCall A) (s : Chain A) (a : A) : List DisplayStrippedCircuitsPackage :=
  if x.who = a ∧ x.result s = some (.ok ()) then
    match x.call with
    | .callbackNewGarbledAndStripSigned mg mp md pg pp _ =>
      (OcwGarble.strippedPackage mg mp pg pp md.length).toList
    | _ => []
  else []

/-- **A step appends** what `appended` says to the list of every account. -/
theorem pending_apply_val (x : SignedCall A) (s : Chain A) (a : A) :
    ((x.apply s).pending a).val = (s.pending a).val ++ x.appended s a := by
  unfold Chain.pending appended
  rw [pending_apply]
  obtain ⟨hres, hw⟩ | ⟨r, hres, hmakes⟩ := x.writes_cases s
  · rw [hw, hres]
    simp
  rw [hres]
  revert hmakes
  generalize x.writes s = e, x.call = call
  intro hmakes
  cases hmakes with
  | callbackNewGarbledAndStrip hresult =>
    obtain ⟨-, -, pkg, hpkg, hl⟩ := OcwGarble.stripResult_eq_some_iff.mp hresult
    -- the one call that writes a list writes that of its signer
    by_cases ha : x.who = a
    · subst ha
      simp only [Function.update_self, Option.getD_some, and_self, if_true, hpkg,
        Option.toList_some]
      exact hl
    · simp [ha, Function.update_of_ne (Ne.symm ha)]
  | _ => simp

end SignedCall

/-- The packages of the successful strip callbacks of `a` in a run, in call order. -/
def history (a : A) : Chain A → List (SignedCall A) → List DisplayStrippedCircuitsPackage
  | _, [] => []
  | s, x :: xs => x.appended s a ++ history a (x.apply s) xs

/-- **The list of an account is its history**: nothing is lost, duplicated or taken out. -/
theorem pending_runFrom (s : Chain A) (xs : List (SignedCall A)) (a : A) :
    ((runFrom s xs).pending a).val = (s.pending a).val ++ history a s xs := by
  induction xs generalizing s with
  | nil => simp [runFrom, history]
  | cons x xs ih =>
    rw [history, ← List.append_assoc, ← SignedCall.pending_apply_val]
    exact ih (x.apply s)

/-! ## How many packages fit -/

/-- The call is `callback_new_garbled_and_strip_signed`. -/
def Call.isStripCallback : Call → Bool
  | .callbackNewGarbledAndStripSigned .. => true
  | _ => false

/-- How many strip callbacks of `a` succeed in a run. -/
def successes (a : A) : Chain A → List (SignedCall A) → ℕ
  | _, [] => 0
  | s, x :: xs =>
    (if x.who = a ∧ x.result s = some (.ok ()) ∧ x.call.isStripCallback then 1 else 0) +
      successes a (x.apply s) xs

theorem SignedCall.length_appended (x : SignedCall A) (s : Chain A) (a : A) :
    (x.appended s a).length =
      if x.who = a ∧ x.result s = some (.ok ()) ∧ x.call.isStripCallback then 1 else 0 := by
  unfold appended
  by_cases h : x.who = a ∧ x.result s = some (.ok ())
  · rw [if_pos h]
    have hmakes := makes_of_result h.2
    revert hmakes
    simp only [h, true_and]
    generalize x.writes s = e, x.call = call
    intro hmakes
    cases hmakes with
    | callbackNewGarbledAndStrip hresult =>
      obtain ⟨-, -, pkg, hpkg, -⟩ := OcwGarble.stripResult_eq_some_iff.mp hresult
      simp [hpkg, Call.isStripCallback]
    | _ => rfl
  · rw [if_neg h, if_neg]
    · rfl
    · rintro ⟨hwho, hres, -⟩
      exact h ⟨hwho, hres⟩

/-- The history has one package for every success. -/
theorem length_history (a : A) (s : Chain A) (xs : List (SignedCall A)) :
    (history a s xs).length = successes a s xs := by
  induction xs generalizing s with
  | nil => rfl
  | cons x xs ih => rw [history, successes, List.length_append, x.length_appended, ih]

/-- On a fresh chain the list holds as many packages as callbacks succeeded. -/
theorem length_pending_run (xs : List (SignedCall A)) (a : A) :
    ((run xs).pending a).val.length = successes a (Chain.empty A) xs := by
  rw [run, pending_runFrom, List.length_append, length_history]
  exact Nat.zero_add _

/-- A strip callback with storable arguments, UTF-8 cids and room. -/
theorem SignedCall.strip_apply {x : SignedCall A} {s : Chain A} {mg mk md pg pk pd : Bytes}
    (hx : x.call = .callbackNewGarbledAndStripSigned mg mk md pg pk pd)
    (hlog : LogOk x.env (OcwGarble.stripLogArgs mg mk pg pk))
    (hstore : OcwGarble.StripStorable mg mk md pg pk pd)
    (hroom : (s.pending x.who).val.length < maxNumberPendingCircuitsPerAccount) :
    x.result s = some (.ok ()) ∧
      (∃ cid entry, cid.val = mg ∧ entry.messageDigits.val = md ∧ entry.pinpadDigits.val = pd ∧
        (x.apply s).circuitServerMetadataMap (x.who, cid) = some entry) ∧
      ∃ pkg, OcwGarble.strippedPackage mg mk pg pk md.length = some pkg ∧
        ((x.apply s).pending x.who).val = (s.pending x.who).val ++ [pkg] := by
  -- the guards hold, so the call writes an entry and a list
  obtain ⟨r, hr⟩ := Option.isSome_iff_exists.mp
    (OcwGarble.stripResult_isSome_iff.mpr ⟨hlog, hstore, hroom⟩)
  obtain ⟨-, hentry, pkg, hpkg, hl⟩ := OcwGarble.stripResult_eq_some_iff.mp hr
  have heff : effect x.env x.who s x.call = some (.ok (),
      { entry := some r.1
        pending := some r.2
        events := [.newGarbleAndStrippedIpfsCid mg mk pg pk, .debugNewDigitsSet md pd] }) := by
    rw [hx, effect, hr]
    rfl
  have hres : x.result s = some (.ok ()) := by
    rw [result_eq, heff]
    rfl
  refine ⟨hres, ⟨r.1.1, r.1.2, ?_⟩, pkg, hpkg, ?_⟩
  · obtain ⟨hc, hm, hp⟩ := TxValidation.metadataEntry_eq_some_iff.mp hentry
    refine ⟨hc, hm, hp, ?_⟩
    rw [metadata_apply, writes_of_effect heff]
    exact Function.update_self _ _ _
  · rw [pending_apply_val, appended, if_pos ⟨rfl, hres⟩, hx]
    simp [hpkg]

/-- A strip callback on a full list traps. -/
theorem SignedCall.strip_trap {x : SignedCall A} {s : Chain A} {mg mk md pg pk pd : Bytes}
    (hx : x.call = .callbackNewGarbledAndStripSigned mg mk md pg pk pd)
    (hfull : ¬ (s.pending x.who).val.length < maxNumberPendingCircuitsPerAccount) :
    x.result s = none := by
  have hnone : OcwGarble.stripResult x.env (s.pending x.who) mg mk md pg pk pd = none := by
    rw [← Option.not_isSome_iff_eq_none, OcwGarble.stripResult_isSome_iff]
    rintro ⟨-, -, hroom⟩
    exact hfull hroom
  rw [result_eq, hx, effect, hnone]
  rfl

/-- **The pending list takes sixteen packages and no more.**  After a run in which `n`
strip callbacks of an account succeeded, `n ≤ 16`; while `n < 16` a further one with UTF-8
cids and storable arguments returns `Ok`, stores its digits and appends its package; at
`n = 16` every further one traps. -/
theorem strip_callback_capacity (xs : List (SignedCall A)) (x : SignedCall A)
    {mg mk md pg pk pd : Bytes}
    (hx : x.call = .callbackNewGarbledAndStripSigned mg mk md pg pk pd)
    (hutf8 : IsUtf8 mg ∧ IsUtf8 mk ∧ IsUtf8 pg ∧ IsUtf8 pk)
    (hstore : OcwGarble.StripStorable mg mk md pg pk pd) :
    successes x.who (Chain.empty A) xs ≤ 16 ∧
      (successes x.who (Chain.empty A) xs < 16 →
        x.result (run xs) = some (.ok ()) ∧
        (∃ cid entry, cid.val = mg ∧ entry.messageDigits.val = md ∧
          entry.pinpadDigits.val = pd ∧
          (run (xs ++ [x])).circuitServerMetadataMap (x.who, cid) = some entry) ∧
        ∃ pkg, OcwGarble.strippedPackage mg mk pg pk md.length = some pkg ∧
          ((run (xs ++ [x])).pending x.who).val = ((run xs).pending x.who).val ++ [pkg]) ∧
      (successes x.who (Chain.empty A) xs = 16 → x.result (run xs) = none) := by
  have hlen := length_pending_run xs x.who
  -- the bound on the list is a bound on the number of successes
  have hbound := ((run xs).pending x.who).bound
  rw [hlen] at hbound
  refine ⟨hbound, ?_, ?_⟩
  · intro hlt
    rw [run_concat]
    apply SignedCall.strip_apply hx _ hstore
    · rw [hlen]
      exact hlt
    · intro _ arg harg
      simp only [OcwGarble.stripLogArgs, List.mem_cons, List.not_mem_nil, or_false] at harg
      rcases harg with rfl | rfl | rfl | rfl
      · exact hutf8.1
      · exact hutf8.2.1
      · exact hutf8.2.2.1
      · exact hutf8.2.2.2
  · intro hfull
    apply SignedCall.strip_trap hx
    rw [hlen, hfull]
    exact Nat.lt_irrefl 16

/-- A strip callback of account 0 for circuits with these names: the message 3 1 on the pinpad from
9 down to 0. -/
def namedCallback (mg mk pg pk : Str) : SignedCall ℕ where
  env := default
  who := 0
  call := .callbackNewGarbledAndStripSigned (utf8Bytes mg) (utf8Bytes mk) [3, 1] (utf8Bytes pg)
    (utf8Bytes pk) [9, 8, 7, 6, 5, 4, 3, 2, 1, 0]

/-- Two of them, and one of another account in between. -/
def earlierCallbacks : List (SignedCall ℕ) :=
  [namedCallback ['a'] ['b'] ['c'] ['d'], { namedCallback ['x'] ['y'] ['z'] ['w'] with who := 1 },
    namedCallback ['e'] ['f'] ['g'] ['h']]

/-- The one that follows. -/
def nextCallback : SignedCall ℕ := namedCallback ['i', 'j'] ['k'] ['l', 'é'] ['m']

/-- The list grows by one with each of the first sixteen storable callbacks. -/
theorem length_pending_replicate {x : SignedCall A} {mg mk md pg pk pd : Bytes}
    (hx : x.call = .callbackNewGarbledAndStripSigned mg mk md pg pk pd)
    (hlog : LogOk x.env (OcwGarble.stripLogArgs mg mk pg pk))
    (hstore : OcwGarble.StripStorable mg mk md pg pk pd) {k : ℕ} (hk : k ≤ 16) :
    ((run (List.replicate k x)).pending x.who).val.length = k := by
  induction k with
  | zero => rfl
  | succ k ih =>
    have hlen := ih (by omega)
    have hroom : ((run (List.replicate k x)).pending x.who).val.length <
        maxNumberPendingCircuitsPerAccount := by
      rw [hlen]
      exact hk
    obtain ⟨-, -, pkg, -, hl⟩ := SignedCall.strip_apply hx hlog hstore hroom
    rw [List.replicate_succ', run_concat, hl, List.length_append, hlen]
    rfl

/-- After two successes the next callback is stored, and after sixteen it traps. -/
theorem strip_callback_capacity_nextCallback :
    successes 0 (Chain.empty ℕ) earlierCallbacks = 2 ∧
    nextCallback.result (run earlierCallbacks) = some (.ok ()) ∧
    (∃ cid entry, cid.val = utf8Bytes ['i', 'j'] ∧ entry.messageDigits.val = [3, 1] ∧
      entry.pinpadDigits.val = [9, 8, 7, 6, 5, 4, 3, 2, 1, 0] ∧
      (run (earlierCallbacks ++ [nextCallback])).circuitServerMetadataMap (0, cid) = some entry) ∧
    (∃ pkg, OcwGarble.strippedPackage (utf8Bytes ['i', 'j']) (utf8Bytes ['k'])
        (utf8Bytes ['l', 'é']) (utf8Bytes ['m']) 2 = some pkg ∧
      ((run (earlierCallbacks ++ [nextCallback])).pending 0).val =
        ((run earlierCallbacks).pending 0).val ++ [pkg]) ∧
    successes 0 (Chain.empty ℕ) (List.replicate 16 nextCallback) ≤ 16 ∧
    nextCallback.result (run (List.replicate 16 nextCallback)) = none := by
  have hutf8 : IsUtf8 (utf8Bytes ['i', 'j']) ∧ IsUtf8 (utf8Bytes ['k']) ∧
      IsUtf8 (utf8Bytes ['l', 'é']) ∧ IsUtf8 (utf8Bytes ['m']) :=
    ⟨isUtf8_utf8Bytes _, isUtf8_utf8Bytes _, isUtf8_utf8Bytes _, isUtf8_utf8Bytes _⟩
  have hstore : OcwGarble.StripStorable (utf8Bytes ['i', 'j']) (utf8Bytes ['k']) [3, 1]
      (utf8Bytes ['l', 'é']) (utf8Bytes ['m']) [9, 8, 7, 6, 5, 4, 3, 2, 1, 0] := by
    constructor <;> decide
  have htwo : successes 0 (Chain.empty ℕ) earlierCallbacks = 2 := by decide
  have hsixteen : successes 0 (Chain.empty ℕ) (List.replicate 16 nextCallback) = 16 := by
    rw [← length_pending_run]
    exact @length_pending_replicate ℕ _ nextCallback _ _ _ _ _ _ rfl (by decide) hstore 16
      (Nat.le_refl 16)
  obtain ⟨-, hroom, -⟩ := strip_callback_capacity earlierCallbacks nextCallback rfl hutf8 hstore
  obtain ⟨hbound, -, hfull⟩ := strip_callback_capacity (List.replicate 16 nextCallback) nextCallback
    rfl hutf8 hstore
  obtain ⟨hok, hentry, hpackage⟩ := hroom (htwo.trans_lt (by decide))
  exact ⟨htwo, hok, hentry, hpackage, hbound, hfull hsixteen⟩

/-- A strip callback with empty arguments. -/
def emptyCallback : SignedCall ℕ :=
  ⟨default, 0, .callbackNewGarbledAndStripSigned [] [] [] [] [] []⟩

theorem emptyCallback_storable : OcwGarble.StripStorable [] [] [] [] [] [] := by
  constructor <;> decide

/-- After sixteen successful callbacks the seventeenth does not return `Ok`. -/
theorem seventeenth_callback_traps :
    emptyCallback.result (run (List.replicate 16 emptyCallback)) ≠ some (.ok ()) := by
  have hlog : LogOk emptyCallback.env (OcwGarble.stripLogArgs [] [] [] []) := by decide
  have hlen := @length_pending_replicate ℕ _ emptyCallback _ _ _ _ _ _ rfl hlog
    emptyCallback_storable 16 (Nat.le_refl 16)
  rw [@SignedCall.strip_trap ℕ _ emptyCallback _ _ _ _ _ _ _ rfl]
  · intro h
    cases h
  · rw [hlen]
    decide

end OffchainWorkerDemo
