/-
# Where a validated code comes from

`store_metadata` and the strip callback write whatever digits their caller sends.
The entry `check_input` compares with goes back to its last store; when every
store of a run is signed by the worker's key and carries digits drawn by an
earlier request, no other code passes.
-/
import OffchainWorkerDemo.Attempts
import Mathlib.Data.List.Induction

namespace OffchainWorkerDemo

open TxValidation

variable {A : Type} [DecidableEq A]

/-! ## The last store of an entry -/

/-- `z` is the last store of the entry of `a` and `c` in the run. -/
def LastStore (xs : List (SignedCall A)) (z : SignedCall A) (a : A) (c : Bytes) : Prop :=
  ∃ pre post, xs = pre ++ z :: post ∧ z.Stores (run pre) a c ∧
    ¬ Rewritten a c (run (pre ++ [z])) post

theorem not_rewritten_concat {a : A} {c : Bytes} {s : Chain A} {xs : List (SignedCall A)}
    {x : SignedCall A} (h : ¬ Rewritten a c s xs) (hx : ¬ x.Stores (runFrom s xs) a c) :
    ¬ Rewritten a c s (xs ++ [x]) := by
  induction xs generalizing s with
  | nil =>
    rintro (hstore | hfalse)
    · exact hx hstore
    · exact hfalse
  | cons y xs ih =>
    rw [Rewritten, not_or] at h
    rintro (hstore | hrest)
    · exact h.1 hstore
    · exact ih h.2 hx hrest

/-- A call that stores nothing there leaves the last store as it is. -/
theorem LastStore.concat {xs : List (SignedCall A)} {z x : SignedCall A} {a : A} {c : Bytes}
    (h : LastStore xs z a c) (hx : ¬ x.Stores (run xs) a c) : LastStore (xs ++ [x]) z a c := by
  obtain ⟨pre, post, rfl, hz, hpost⟩ := h
  refine ⟨pre, post ++ [x], by simp, hz, not_rewritten_concat hpost ?_⟩
  rw [← run_append, List.append_assoc]
  exact hx

/-- A store is the last one of its run. -/
theorem lastStore_concat_self {xs : List (SignedCall A)} {x : SignedCall A} {a : A} {c : Bytes}
    (hx : x.Stores (run xs) a c) : LastStore (xs ++ [x]) x a c :=
  ⟨xs, [], rfl, hx, fun h => h⟩

/-! ## Drawn digits -/

/-- Some `garble_and_strip_display_circuits_package_signed` of the run succeeded and drew
these digits. -/
def DrawnIn (xs : List (SignedCall A)) (m p : Bytes) : Prop :=
  ∃ pre x post t, xs = pre ++ x :: post ∧
    x.call = .garbleAndStripDisplayCircuitsPackageSigned t ∧
    x.result (run pre) = some (.ok ()) ∧ OcwGarble.drawnDigits x.env (run pre) = (m, p)

theorem DrawnIn.append {xs : List (SignedCall A)} {m p : Bytes} (h : DrawnIn xs m p)
    (ys : List (SignedCall A)) : DrawnIn (xs ++ ys) m p := by
  obtain ⟨pre, x, post, t, rfl, hx⟩ := h
  exact ⟨pre, x, post ++ ys, t, by simp, hx⟩

/-- Every store of the run is signed by the worker's key and carries digits drawn
earlier. -/
def GenuineStores (worker : A) (xs : List (SignedCall A)) : Prop :=
  ∀ pre x post, xs = pre ++ x :: post → x.result (run pre) = some (.ok ()) →
    ∀ c m p, x.carried = some (c, m, p) → x.who = worker ∧ DrawnIn pre m p

theorem GenuineStores.of_append {worker : A} {xs ys : List (SignedCall A)}
    (h : GenuineStores worker (xs ++ ys)) : GenuineStores worker xs := by
  rintro pre x post rfl
  exact h pre x (post ++ ys) (by simp)

/-- **Every entry comes from its last store**: in a run of genuine stores its digits were
drawn before, and its writer is the worker. -/
theorem entry_of_genuineStores {worker : A} {xs : List (SignedCall A)}
    (h : GenuineStores worker xs) {a : A} {c : Bytes} {pkg : DisplayValidationPackage}
    (hpkg : storedPackage (run xs) a c = some pkg) :
    DrawnIn xs pkg.messageDigits.val pkg.pinpadDigits.val ∧
      ∃ z, LastStore xs z a c ∧ z.who = worker := by
  -- on the run from its end: the last call stored the entry, or left it to those before
  induction xs using List.reverseRecOn with
  | nil =>
    obtain ⟨cid, -, hget⟩ := Option.bind_eq_some_iff.mp hpkg
    cases hget
  | append_singleton xs x ih =>
    rw [run_concat] at hpkg
    by_cases hx : x.Stores (run xs) a c
    · obtain ⟨rfl, hres, m, p, hcarried⟩ := hx
      obtain ⟨hwho, hdrawn⟩ := h xs x [] rfl hres c m p hcarried
      obtain ⟨pkg', hpkg', rfl, rfl⟩ := SignedCall.storedPackage_of_stores hcarried hres
      rw [hpkg] at hpkg'
      obtain rfl := Option.some_inj.mp hpkg'
      exact ⟨hdrawn.append [x], x, lastStore_concat_self ⟨rfl, hres, _, _, hcarried⟩, hwho⟩
    · rw [SignedCall.storedPackage_apply hx] at hpkg
      obtain ⟨hdrawn, z, hz, hwho⟩ := ih h.of_append hpkg
      exact ⟨hdrawn.append [x], z, hz.concat hx, hwho⟩

/-! ## What passes -/

/-- Whenever `check_input` emits `TxPass`, the digits it compared with were drawn on chain
earlier in the run, and the account that stored them is the worker's. -/
def OnlyDrawnCodesPass (worker : A) (xs : List (SignedCall A)) : Prop :=
  ∀ pre y post, xs = pre ++ y :: post → ∀ c i, y.call = .checkInput c i →
    .txPass y.who ∈ y.emitted (run pre) →
    ∃ pkg, storedPackage (run pre) y.who c = some pkg ∧
      DrawnIn pre pkg.messageDigits.val pkg.pinpadDigits.val ∧
      ∃ z, LastStore pre z y.who c ∧ z.who = worker

/-- **Only drawn codes pass in a run of genuine stores.** -/
theorem onlyDrawnCodesPass_of_genuineStores (worker : A) (xs : List (SignedCall A))
    (h : GenuineStores worker xs) : OnlyDrawnCodesPass worker xs := by
  rintro pre y post rfl c i hy hpass
  rw [SignedCall.emits_txPass_iff hy] at hpass
  obtain ⟨-, pkg, hpkg, -, -⟩ := hpass
  exact ⟨pkg, hpkg, entry_of_genuineStores h.of_append hpkg⟩

/-- The display package is set and a request draws a code. -/
def drawnRun : List (SignedCall ℕ) :=
  [⟨default, 0, .callbackNewDisplayCircuitsPackageSigned [1] 2 [2] 10⟩,
    ⟨default, 7, .garbleAndStripDisplayCircuitsPackageSigned []⟩]

/-- The digits that request draws. -/
def drawnCode : Bytes × Bytes := OcwGarble.drawDigits (default : Env).draw (List.replicate 32 0)

/-- The worker publishes the drawn code and types it. -/
def genuineRun : List (SignedCall ℕ) :=
  drawnRun ++
    [⟨default, 0, .callbackNewGarbledAndStripSigned [3] [4] drawnCode.1 [5] [6] drawnCode.2⟩,
      ⟨default, 0, .checkInput [3] [9, 9]⟩]

theorem genuineStores_genuineRun : GenuineStores 0 genuineRun := by
  have hdrawn : DrawnIn drawnRun drawnCode.1 drawnCode.2 :=
    ⟨[⟨default, 0, .callbackNewDisplayCircuitsPackageSigned [1] 2 [2] 10⟩], _, [], [], rfl, rfl,
      by decide, rfl⟩
  intro pre x post hsplit _ c m p hcarried
  -- the third call is the only one that carries digits.
  rcases pre with _ | ⟨y₁, _ | ⟨y₂, _ | ⟨y₃, _ | ⟨y₄, pre⟩⟩⟩⟩
  · cases hsplit
    cases hcarried
  · cases hsplit
    cases hcarried
  · cases hsplit
    cases hcarried
    exact ⟨rfl, hdrawn⟩
  · cases hsplit
    cases hcarried
  · simp [genuineRun, drawnRun] at hsplit

/-- The drawn code passes, and no other does. -/
theorem onlyDrawnCodesPass_genuineRun :
    .txPass 0 ∈ SignedCall.emitted ⟨default, 0, .checkInput [3] [9, 9]⟩ (run (genuineRun.take 3)) ∧
      OnlyDrawnCodesPass 0 genuineRun :=
  ⟨by decide, onlyDrawnCodesPass_of_genuineStores 0 genuineRun genuineStores_genuineRun⟩

/-- A user who stores a code of its own and types it. -/
def ownCode : List (SignedCall ℕ) :=
  [⟨default, 1, .storeMetadata [1] [3] OcwGarble.tenDigits⟩,
    ⟨default, 1, .checkInput [1] [3]⟩]

/-- The code passes although nothing was drawn. -/
theorem not_onlyDrawnCodesPass_ownCode : ¬ OnlyDrawnCodesPass 0 ownCode := by
  intro h
  obtain ⟨-, -, ⟨pre, x, post, t, hpre, hx, -⟩, -⟩ :=
    h [⟨default, 1, .storeMetadata [1] [3] OcwGarble.tenDigits⟩]
      ⟨default, 1, .checkInput [1] [3]⟩ [] rfl [1] [3] rfl (by decide)
  -- the only call before the check is the store.
  rcases pre with _ | ⟨y, pre⟩
  · cases hpre
    cases hx
  · simp at hpre

end OffchainWorkerDemo
