/-
# The reference package

A request for the display circuits needs a reference package whose counts are not
zero, and panics while there is none.  The display callback replaces the package
whatever counts it is called with.  So a package that is ready stays ready exactly as
long as no display callback goes through with a count of zero.
-/
import OffchainWorkerDemo.Runtime
import OffchainWorkerDemo.Lib.Runs

namespace OffchainWorkerDemo

variable {A : Type}

/-! ## Ready -/

/-- `get_display_circuits_package` returns a package. -/
def Ready (s : Chain A) : Prop := ∃ pkg, OcwCircuits.getDisplayCircuitsPackage s = .ok pkg

/-- Neither count of the package is zero. -/
def DisplaySkcdPackage.Counted (pkg : DisplaySkcdPackage) : Prop :=
  pkg.messageSkcdServerMetadataNbDigits ≠ 0 ∧ pkg.pinpadSkcdServerMetadataNbDigits ≠ 0

theorem ready_iff (s : Chain A) : Ready s ↔ s.displaySkcdPackageValue.Counted := by
  unfold Ready OcwCircuits.getDisplayCircuitsPackage DisplaySkcdPackage.Counted
  by_cases h : s.displaySkcdPackageValue.messageSkcdServerMetadataNbDigits = 0 ∨
      s.displaySkcdPackageValue.pinpadSkcdServerMetadataNbDigits = 0
  · simp only [h, if_true]
    refine iff_of_false (by simp) ?_
    rintro ⟨hm, hp⟩
    exact h.elim hm hp
  · simp only [h, if_false]
    exact iff_of_true ⟨_, rfl⟩ (not_or.mp h)

/-! ## What a request says when it is not -/

/-- The message of a request that finds no package. -/
def notReadyMsg : String := "display_circuits_package not ready!"

/-- A request with a UTF-8 message fails because there is no package. -/
def FailsNotReady (s : Chain A) : Prop :=
  ∃ env who txMsg s', IsUtf8 txMsg ∧
    OcwGarble.garbleAndStripDisplayCircuitsPackageSigned env (.signed (who : A)) txMsg s =
      .trap notReadyMsg s'

/-- **A ready package keeps every request from failing so**: what else stops a request says
something else. -/
theorem Ready.not_failsNotReady {s : Chain A} (h : Ready s) : ¬ FailsNotReady s := by
  obtain ⟨pkg, hpkg⟩ := h
  rintro ⟨env, who, txMsg, s', -, htrap⟩
  unfold OcwGarble.garbleAndStripDisplayCircuitsPackageSigned at htrap
  rw [ensureSigned_signed_bind, Exec.bind_apply] at htrap
  rcases logInfo_cases env [(txMsg, "tx_msg utf8")] s with hok | ⟨arg, harg, hlog⟩
  · rw [hok, Ended.andThen_ok, Exec.bind_apply, Exec.get_apply, Ended.andThen_ok, hpkg,
      Except.toOption, Exec.expect_some_bind, Exec.bind_apply] at htrap
    rcases logInfo_cases env [(pkg.messageSkcdCid.val, "message_skcd_cid utf8"),
        (pkg.pinpadSkcdCid.val, "pinpad_skcd_cid utf8")] s with hok' | ⟨arg, harg, hlog⟩
    · simp only [hok', Ended.andThen_ok, Exec.bind_apply, OcwGarble.getAndIncrementNonce,
        Exec.get_apply, Exec.modify_apply, Exec.pure_apply, OcwGarble.readBytes_h256,
        Exec.expect_some, OcwGarble.appendOrReplaceSkcdHash, offchainIndexEncoded,
        Exec.ite_apply] at htrap
      split at htrap
      · cases htrap
      · simp [notReadyMsg] at htrap
    · rw [hlog, Ended.andThen_trap] at htrap
      simp only [List.mem_cons, List.not_mem_nil, or_false] at harg
      rcases harg with rfl | rfl <;> simp [notReadyMsg] at htrap
  · rw [hlog, Ended.andThen_trap] at htrap
    obtain rfl := List.mem_singleton.mp harg
    simp [notReadyMsg] at htrap

/-- Without a package every request with a UTF-8 message fails so. -/
theorem garbleAndStrip_of_not_ready {s : Chain A} (h : ¬ Ready s) (env : Env) (who : A)
    {txMsg : Bytes} (htxMsg : IsUtf8 txMsg) :
    OcwGarble.garbleAndStripDisplayCircuitsPackageSigned env (.signed who) txMsg s =
      .trap notReadyMsg s := by
  have hnone : (OcwCircuits.getDisplayCircuitsPackage s).toOption = none := by
    rw [Option.eq_none_iff_forall_ne_some]
    intro pkg hpkg
    exact h ⟨pkg, OcwCircuits.toOption_eq_some_iff.mp hpkg⟩
  have hlog : LogOk env [(txMsg, "tx_msg utf8")] := by
    intro _ arg harg
    obtain rfl := List.mem_singleton.mp harg
    exact htxMsg
  unfold OcwGarble.garbleAndStripDisplayCircuitsPackageSigned
  rw [ensureSigned_signed_bind, Exec.bind_apply,
    logInfo_of_logOk hlog, Ended.andThen_ok, Exec.bind_apply, Exec.get_apply, Ended.andThen_ok,
    hnone, Exec.expect_none_bind]
  rfl

/-! ## Runs -/

/-- The call is a display callback that goes through and has a count of zero. -/
def SignedCall.Unreadies (x : SignedCall A) : Prop :=
  match x.call with
  | .callbackNewDisplayCircuitsPackageSigned m nm p np =>
    LogOk x.env [(m, "message_skcd_cid utf8"), (p, "pinpad_skcd_cid utf8")] ∧
      m.length ≤ 64 ∧ p.length ≤ 64 ∧ (nm = 0 ∨ np = 0)
  | _ => False

variable [DecidableEq A]

/-- **One step**: a ready package stays ready exactly if the call is not such a callback. -/
theorem SignedCall.ready_apply_iff {s : Chain A} (x : SignedCall A) (hready : Ready s) :
    Ready (x.apply s) ↔ ¬ x.Unreadies := by
  rw [ready_iff, x.display_apply]
  rw [ready_iff] at hready
  unfold Unreadies
  obtain ⟨hres, hw⟩ | ⟨r, hres, hmakes⟩ := x.writes_cases s
  · -- a callback that traps does not go through
    rw [hw]
    refine iff_of_true hready ?_
    split
    · rename_i m nm p np hcall
      rintro ⟨hlog, hm, hp, -⟩
      obtain ⟨pkg, hpkg⟩ := Option.isSome_iff_exists.mp
        ((@OcwCircuits.displayEntry_isSome_iff m p nm np).mpr ⟨hm, hp⟩)
      rw [result_eq, hcall, effect, if_pos hlog, hpkg] at hres
      cases hres
    · exact id
  · revert hmakes
    generalize x.writes s = e, x.call = call
    intro hmakes
    cases hmakes with
    | @callbackNewDisplay m nm p np pkg hlog hpkg =>
      -- the package read next is the one the callback brings
      obtain ⟨hm, hp⟩ := OcwCircuits.displayEntry_isSome_iff.mp
        (Option.isSome_iff_exists.mpr ⟨pkg, hpkg⟩)
      obtain ⟨-, hnm, -, hnp⟩ := OcwCircuits.displayEntry_eq_some_iff.mp hpkg
      simp only [Option.getD_some, DisplaySkcdPackage.Counted, hnm, hnp, hlog, hm, hp, true_and,
        not_or]
    | _ => exact iff_of_true hready id

/-- After every call of the run the package is ready, and no request fails for want of it. -/
def StaysReady (s : Chain A) (xs : List (SignedCall A)) : Prop :=
  ∀ pre x post, xs = pre ++ x :: post →
    Ready (x.apply (runFrom s pre)) ∧ ¬ FailsNotReady (x.apply (runFrom s pre))

/-- **Once ready, ready as long as no callback brings a count of zero.** -/
theorem staysReady_iff {s : Chain A} (hready : Ready s) (xs : List (SignedCall A)) :
    StaysReady s xs ↔ ∀ x ∈ xs, ¬ x.Unreadies := by
  have hiff : ∀ (s : Chain A) (x : SignedCall A), Ready s →
      (Ready (x.apply s) ∧ ¬ FailsNotReady (x.apply s) ↔ ¬ x.Unreadies) := by
    intro s x hs
    rw [← x.ready_apply_iff hs]
    exact ⟨And.left, fun h => ⟨h, h.not_failsNotReady⟩⟩
  have hinv : ∀ (s : Chain A) (x : SignedCall A), Ready s →
      Ready (x.apply s) ∧ ¬ FailsNotReady (x.apply s) → Ready (x.apply s) := fun s x _ h => h.1
  have hsteps := Runs.along_congr hiff hinv hready xs
  rw [Runs.along_iff_forall, Runs.along_iff_forall] at hsteps
  refine Iff.trans hsteps ?_
  constructor
  · intro h x hx
    obtain ⟨pre, post, rfl⟩ := List.append_of_mem hx
    exact h pre x post rfl
  · rintro h pre x post rfl
    exact h x (List.mem_append_right _ (List.mem_cons_self ..))

/-- A display callback with counts for two and ten digits. -/
def countedCallback : SignedCall ℕ :=
  ⟨default, 0, .callbackNewDisplayCircuitsPackageSigned [1] 2 [2] 10⟩

/-- The callback of any other account, with no digits. -/
def zeroCallback : SignedCall ℕ :=
  ⟨default, 1, .callbackNewDisplayCircuitsPackageSigned [1] 0 [2] 0⟩

theorem ready_countedCallback : Ready (run [countedCallback]) :=
  ⟨_, rfl⟩

/-- A second package with counts leaves the chain ready. -/
theorem staysReady_countedCallback : StaysReady (run [countedCallback]) [countedCallback] :=
  (staysReady_iff ready_countedCallback [countedCallback]).mpr (by
    simp [countedCallback, SignedCall.Unreadies])

/-- One callback without digits takes the readiness away. -/
theorem not_staysReady_zeroCallback :
    Ready (run [countedCallback]) ∧ ¬ StaysReady (run [countedCallback]) [zeroCallback] := by
  refine ⟨ready_countedCallback, ?_⟩
  intro h
  obtain ⟨hready, -⟩ := h [] zeroCallback [] rfl
  rw [ready_iff] at hready
  exact hready.1 (by decide)

end OffchainWorkerDemo
