/-
# What `check_input` decides

Against a stored package whose pinpad can be printed, `check_input` passes exactly on
the code, position by position, and fails exactly on other digits that the pinpad has.
Every other input traps, whatever is wrong with it: the error for invalid inputs is
declared and never returned.
-/
import OffchainWorkerDemo.Attempts
import OffchainWorkerDemo.Lib.Runs

namespace OffchainWorkerDemo

open TxValidation

variable {A : Type}

/-! ## The permuted code -/

/-- The input spells the message of a package: its bytes are digits, as many as the message has,
and the pinpad's entry at each of them is the digit of the message there. -/
structure SpellsCode (pkg : DisplayValidationPackage) (input : Bytes) : Prop where
  digits : ∀ b ∈ input, (digitOf b).isSome
  length_eq : input.length = pkg.messageDigits.val.length
  positions : ∀ i (_ : i < input.length) (_ : i < pkg.messageDigits.val.length),
    ∃ d, digitOf input[i] = some d ∧ d < pkg.pinpadDigits.val.length ∧
      pkg.pinpadDigits.val[d]? = some pkg.messageDigits.val[i]

/-- **The right code is the one that is spelled.** -/
theorem rightCode_iff_spellsCode {pkg : DisplayValidationPackage} {input : Bytes} :
    RightCode pkg input ↔ SpellsCode pkg input := by
  constructor
  · intro h
    refine ⟨?_, h.length_eq, ?_⟩
    · intro b hb
      obtain ⟨d, hd, -⟩ := h.typeable b hb
      rw [hd]
      rfl
    · intro i h₁ h₂
      obtain ⟨d, hd, hm⟩ := (List.forall₂_iff_get.mp h).2 i h₁ h₂
      exact ⟨d, hd, (List.getElem?_eq_some_iff.mp hm).1, hm⟩
  · rintro ⟨-, hlen, hpos⟩
    refine List.forall₂_iff_get.mpr ⟨hlen, ?_⟩
    intro i h₁ h₂
    obtain ⟨d, hd, -, hm⟩ := hpos i h₁ h₂
    exact ⟨d, hd, hm⟩

/-- The input can be looked up, and gives other digits than those of the message. -/
def MissesCode (pkg : DisplayValidationPackage) (input : Bytes) : Prop :=
  Typeable pkg.pinpadDigits.val input ∧
    lookupDigits pkg.pinpadDigits.val input ≠ some pkg.messageDigits.val

theorem missesCode_iff {pkg : DisplayValidationPackage} {input : Bytes} :
    MissesCode pkg input ↔ Typeable pkg.pinpadDigits.val input ∧ ¬ RightCode pkg input := by
  rw [MissesCode, RightCode, ← lookupDigits_eq_some_iff]

/-! ## How it ends -/

namespace SignedCall

variable [DecidableEq A] {x : SignedCall A} {c input : Bytes}

/-- How `check_input` ends: it traps, or the package it finds gives its verdict. -/
theorem result_checkInput (hx : x.call = .checkInput c input) (s : Chain A) :
    x.result s = ((storedPackage s x.who c).bind fun pkg => checkVerdict x.env.info pkg input).map
      fun pass => if pass then .ok () else .error .txWrongCodeGiven := by
  rw [result_eq, hx, effect]
  rcases storedPackage s x.who c with _ | pkg
  · rfl
  · rw [Option.bind_some, Option.bind_some, Option.map_map]
    congr 1
    funext pass
    cases pass <;> rfl

/-- **`check_input` writes no storage item**, however it ends. -/
theorem sameStorage_checkInput (hx : x.call = .checkInput c input) (s : Chain A) :
    SameStorage s (x.apply s) := by
  rw [x.apply_eq]
  obtain ⟨-, hw⟩ | ⟨r, -, hmakes⟩ := x.writes_cases s
  · rw [hw]
    exact ⟨rfl, rfl, rfl, rfl, rfl⟩
  · rw [hx] at hmakes
    revert hmakes
    generalize x.writes s = e
    intro hmakes
    cases hmakes <;> exact ⟨rfl, rfl, rfl, rfl, rfl⟩

/-- The verdict on an input, read off how the call ends and what it emits. -/
theorem verdict_iff {s : Chain A} {pkg : DisplayValidationPackage}
    (hx : x.call = .checkInput c input) (hpkg : storedPackage s x.who c = some pkg) (pass : Bool) :
    x.result s = some (if pass then .ok () else .error .txWrongCodeGiven) ∧
        x.emitted s = [if pass then .txPass x.who else .txFail x.who] ↔
      checkVerdict x.env.info pkg input = some pass := by
  rw [result_checkInput hx, emitted_checkInput hx, hpkg, Option.bind_some]
  rcases checkVerdict x.env.info pkg input with _ | pass'
  · simp
  · cases pass <;> cases pass' <;> simp

/-- **`check_input` decides exactly the permuted code.**  Against a package whose pinpad bytes
are ASCII it returns `Ok` with one `TxPass` exactly on the code, and `TxWrongCodeGiven` with one
`TxFail` exactly on other digits of the pinpad; no storage item changes in any case. -/
theorem checkInput_decides {s : Chain A} {pkg : DisplayValidationPackage}
    (hx : x.call = .checkInput c input) (hpkg : storedPackage s x.who c = some pkg)
    (hascii : ∀ b ∈ pkg.pinpadDigits.val, b.toNat < 128) :
    (x.result s = some (.ok ()) ∧ x.emitted s = [.txPass x.who] ↔ SpellsCode pkg input) ∧
      (x.result s = some (.error .txWrongCodeGiven) ∧ x.emitted s = [.txFail x.who] ↔
        MissesCode pkg input) ∧
      SameStorage s (x.apply s) := by
  have hprint : Printable x.env pkg := fun _ => isUtf8_of_ascii hascii
  refine ⟨?_, ?_, sameStorage_checkInput hx s⟩
  · rw [← rightCode_iff_spellsCode]
    refine (verdict_iff hx hpkg true).trans ?_
    rw [checkVerdict_eq_some_iff]
    constructor
    · rintro ⟨-, -, h⟩
      exact h.mp rfl
    · intro h
      exact ⟨hprint, h.typeable, by simpa using h⟩
  · rw [missesCode_iff]
    refine (verdict_iff hx hpkg false).trans ?_
    rw [checkVerdict_eq_some_iff]
    constructor
    · rintro ⟨-, htype, h⟩
      exact ⟨htype, fun hright => absurd (h.mpr hright) (by decide)⟩
    · rintro ⟨htype, hwrong⟩
      exact ⟨hprint, htype, by simpa using hwrong⟩

end SignedCall

/-- A state where account 0 has stored the code 3 1 9 under a shuffled pinpad. -/
def storedCode : Chain ℕ :=
  run [⟨default, 0, .storeMetadata [1] [3, 1, 9] [7, 3, 0, 9, 1, 5, 8, 2, 6, 4]⟩]

/-- The package it holds. -/
def storedCodePackage : DisplayValidationPackage :=
  ⟨⟨[3, 1, 9], by decide⟩, ⟨[7, 3, 0, 9, 1, 5, 8, 2, 6, 4], by decide⟩⟩

theorem storedPackage_storedCode : storedPackage storedCode 0 [1] = some storedCodePackage := by
  decide

/-- The digits 3, 1 and 9 are at the places 1, 4 and 3. -/
theorem spellsCode_storedCodePackage : SpellsCode storedCodePackage [1, 52, 51] :=
  rightCode_iff_spellsCode.mp (lookupDigits_eq_some_iff.mp rfl)

/-- At the places 1, 4 and 2 are 3, 1 and 0. -/
theorem missesCode_storedCodePackage : MissesCode storedCodePackage [49, 52, 2] := by
  have hlookup : lookupDigits storedCodePackage.pinpadDigits.val [49, 52, 2] = some [3, 1, 0] := rfl
  refine ⟨lookupDigits_isSome_iff.mp (Option.isSome_of_eq_some hlookup), ?_⟩
  rw [hlookup]
  decide

/-- The code passes, typed in raw bytes and in ASCII, and other digits fail. -/
theorem checkInput_decides_storedCode :
    (SignedCall.result ⟨default, 0, .checkInput [1] [1, 52, 51]⟩ storedCode = some (.ok ()) ∧
      SignedCall.emitted ⟨default, 0, .checkInput [1] [1, 52, 51]⟩ storedCode = [.txPass 0]) ∧
    (SignedCall.result ⟨default, 0, .checkInput [1] [49, 52, 2]⟩ storedCode =
        some (.error .txWrongCodeGiven) ∧
      SignedCall.emitted ⟨default, 0, .checkInput [1] [49, 52, 2]⟩ storedCode = [.txFail 0]) ∧
    SameStorage storedCode (SignedCall.apply ⟨default, 0, .checkInput [1] [49, 52, 2]⟩ storedCode) := by
  have hascii : ∀ b ∈ storedCodePackage.pinpadDigits.val, b.toNat < 128 := by
    simp [storedCodePackage]
  have hpass := SignedCall.checkInput_decides (x := ⟨default, 0, .checkInput [1] [1, 52, 51]⟩)
    rfl storedPackage_storedCode hascii
  have hfail := SignedCall.checkInput_decides (x := ⟨default, 0, .checkInput [1] [49, 52, 2]⟩)
    rfl storedPackage_storedCode hascii
  exact ⟨hpass.1.mpr spellsCode_storedCodePackage, hfail.2.1.mpr missesCode_storedCodePackage,
    hfail.2.2⟩

/-! ## Bad inputs -/

namespace SignedCall

variable [DecidableEq A] {x : SignedCall A} {c input : Bytes}

/-- The call returns an error, leaves the storage alone and passes nobody. -/
def RefusesInput (x : SignedCall A) (s : Chain A) (e : DispatchError) : Prop :=
  x.result s = some (.error e) ∧ SameStorage s (x.apply s) ∧ ∀ a, .txPass a ∉ x.emitted s

/-- A `check_input` that never traps and reports whatever is wrong with its arguments as an
error: a byte that is no digit, a digit the stored pinpad does not have, a missing entry. -/
structure ReportsBadInput (x : SignedCall A) (s : Chain A) (c input : Bytes) : Prop where
  returns : x.result s ≠ none
  notDigit : ∀ b ∈ input, digitOf b = none → x.RefusesInput s .txInvalidInputsGiven
  beyondPinpad : ∀ pkg, storedPackage s x.who c = some pkg →
    ∀ b ∈ input, ∀ d, digitOf b = some d → pkg.pinpadDigits.val.length ≤ d →
      x.RefusesInput s .txInvalidInputsGiven
  noEntry : storedPackage s x.who c = none → ∃ e, x.RefusesInput s e

/-- There is nothing to report: an entry that can be printed is stored, and every byte of the
input is a digit its pinpad has. -/
def GoodInput (x : SignedCall A) (s : Chain A) (c input : Bytes) : Prop :=
  ∃ pkg, storedPackage s x.who c = some pkg ∧ Printable x.env pkg ∧
    Typeable pkg.pinpadDigits.val input

/-- **`check_input` returns** exactly when there is nothing to report. -/
theorem returns_checkInput_iff (hx : x.call = .checkInput c input) (s : Chain A) :
    x.result s ≠ none ↔ x.GoodInput s c input := by
  rw [result_checkInput hx, Ne, Option.map_eq_none_iff, ← Ne, Option.ne_none_iff_exists']
  unfold GoodInput
  simp only [Option.bind_eq_some_iff]
  constructor
  · rintro ⟨pass, pkg, hpkg, hverdict⟩
    obtain ⟨hprint, htype, -⟩ := checkVerdict_eq_some_iff.mp hverdict
    exact ⟨pkg, hpkg, hprint, htype⟩
  · rintro ⟨pkg, hpkg, hprint, htype⟩
    by_cases hright : RightCode pkg input
    · exact ⟨true, pkg, hpkg,
        checkVerdict_eq_some_iff.mpr ⟨hprint, htype, by simpa using hright⟩⟩
    · exact ⟨false, pkg, hpkg,
        checkVerdict_eq_some_iff.mpr ⟨hprint, htype, by simpa using hright⟩⟩

/-- **Bad input is reported exactly when there is none**: any of it traps. -/
theorem reportsBadInput_iff (hx : x.call = .checkInput c input) (s : Chain A) :
    x.ReportsBadInput s c input ↔ x.GoodInput s c input := by
  constructor
  · intro h
    exact (returns_checkInput_iff hx s).mp h.returns
  · intro h
    have hreturns := (returns_checkInput_iff hx s).mpr h
    obtain ⟨pkg, hpkg, -, htype⟩ := h
    refine ⟨hreturns, ?_, ?_, ?_⟩
    · intro b hb hnone
      obtain ⟨d, hd, -⟩ := htype b hb
      cases hnone.symm.trans hd
    · intro pkg' hpkg' b hb d hd hle
      obtain rfl := Option.some_inj.mp (hpkg.symm.trans hpkg')
      obtain ⟨d', hd', hlt⟩ := htype b hb
      obtain rfl := Option.some_inj.mp (hd.symm.trans hd')
      omega
    · intro hnone
      cases hnone.symm.trans hpkg

end SignedCall

section Runs

variable [DecidableEq A]

/-- Every `check_input` of a run reports bad input as an error. -/
def BadInputsReported (xs : List (SignedCall A)) : Prop :=
  ∀ pre x post, xs = pre ++ x :: post → ∀ c input, x.call = .checkInput c input →
    x.ReportsBadInput (run pre) c input

/-- Every `check_input` of a run is called with nothing to report. -/
def OnlyGoodInputs (xs : List (SignedCall A)) : Prop :=
  ∀ pre x post, xs = pre ++ x :: post → ∀ c input, x.call = .checkInput c input →
    x.GoodInput (run pre) c input

/-- **A run reports its bad inputs exactly if it has none.** -/
theorem badInputsReported_iff (xs : List (SignedCall A)) :
    BadInputsReported xs ↔ OnlyGoodInputs xs := by
  constructor
  · intro h pre x post hxs c input hx
    exact (SignedCall.reportsBadInput_iff hx (run pre)).mp (h pre x post hxs c input hx)
  · intro h pre x post hxs c input hx
    exact (SignedCall.reportsBadInput_iff hx (run pre)).mpr (h pre x post hxs c input hx)

end Runs

/-- A code is stored, and the letter `a` is typed for it. -/
def letterTyped : List (SignedCall ℕ) :=
  [⟨default, 0, .storeMetadata [1] [3] OcwGarble.tenDigits⟩, ⟨default, 0, .checkInput [1] [97]⟩]

/-- The letter traps the call. -/
theorem not_badInputsReported_letterTyped : ¬ BadInputsReported letterTyped := by
  intro h
  have hreports := h [⟨default, 0, .storeMetadata [1] [3] OcwGarble.tenDigits⟩]
    ⟨default, 0, .checkInput [1] [97]⟩ [] rfl [1] [97] rfl
  exact hreports.returns (by decide)

end OffchainWorkerDemo
