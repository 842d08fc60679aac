/-
# The transaction validation pallet

`store_metadata` keeps, for an account and a circuit, the digits of a one-time
code and the layout of the pinpad; `check_input` compares what the user typed
with them.  The digits typed are looked up through the layout: `lookupDigits` is
that comparison without the strings in between, and `lookup_ofUtf8` says that
the code computes it.
-/
import OffchainWorkerDemo.Chain
import Mathlib.Data.List.Forall2

namespace OffchainWorkerDemo

namespace TxValidation

variable {A : Type}

/-! ## The dispatchables -/

/-- `store_metadata_aux` -/
def storeMetadataAux [DecidableEq A] (origin : Origin A)
    (messagePgarbledCid messageDigits pinpadDigits : Bytes) : Dispatch A Unit := do
  let who ← ensureSigned origin
  depositEvent (.debugNewDigitsSet messageDigits pinpadDigits)
  let cid ← unwrap (BoundedVec.tryFrom 64 messagePgarbledCid)
  let message ← unwrap (BoundedVec.tryFrom 10 messageDigits)
  let pinpad ← unwrap (BoundedVec.tryFrom 10 pinpadDigits)
  Exec.modify (·.insertMetadata who cid ⟨message, pinpad⟩)

/-- `store_metadata` -/
def storeMetadata [DecidableEq A] (origin : Origin A)
    (messagePgarbledCid messageDigits pinpadDigits : Bytes) : Dispatch A Unit :=
  storeMetadataAux origin messagePgarbledCid messageDigits pinpadDigits

/-- `char::to_digit(10)` -/
def toDigit (c : Char) : Option ℕ :=
  if 48 ≤ c.toNat ∧ c.toNat ≤ 57 then some (c.toNat - 48) else none

/-- `u8::try_from` on a `u32`. -/
def u8TryFrom (n : ℕ) : Option UInt8 := if n < 256 then some (UInt8.ofNat n) else none

/-- `u8::try_from(c.to_digit(10).unwrap_or(c as u32))`: a character is an ASCII digit,
or stands for its own code point. -/
def inputDigit (c : Char) : Option UInt8 := u8TryFrom ((toDigit c).getD c.toNat)

/-- `check_input` -/
def checkInput (env : Env) (origin : Origin A) (ipfsCid inputDigits : Bytes) :
    Dispatch A Unit := do
  let who ← ensureSigned origin
  let cid ← unwrap (BoundedVec.tryFrom 64 ipfsCid)
  let s ← Exec.get
  let displayValidationPackage ← unwrap (s.circuitServerMetadataMap (who, cid))
  let inputDigitsStr ← Exec.expect "input_digits utf8" (fromUtf8 inputDigits)
  let inputDigitsInt ← inputDigitsStr.mapM fun c => unwrap (inputDigit c)
  let pinpadPermutation := displayValidationPackage.pinpadDigits
  logInfo env [(inputDigitsInt, "input_digits_int utf8"),
    (pinpadPermutation.val, "pinpad_permutation utf8")]
  let computedInputsFromPermutation ← inputDigitsInt.mapM fun pinpadIndex =>
    unwrap pinpadPermutation.val[pinpadIndex.toNat]?
  if displayValidationPackage.messageDigits.val = computedInputsFromPermutation then
    depositEvent (.txPass who)
  else do
    depositEvent (.txFail who)
    Exec.fail .txWrongCodeGiven

/-! ## What is stored -/

/-- The key and the package of a store, when every part is within its bound. -/
def metadataEntry (messagePgarbledCid messageDigits pinpadDigits : Bytes) :
    Option (Cid × DisplayValidationPackage) := do
  let cid ← BoundedVec.tryFrom 64 messagePgarbledCid
  let message ← BoundedVec.tryFrom 10 messageDigits
  let pinpad ← BoundedVec.tryFrom 10 pinpadDigits
  some (cid, ⟨message, pinpad⟩)

theorem metadataEntry_eq_some_iff {c m p : Bytes} {cid : Cid} {pkg : DisplayValidationPackage} :
    metadataEntry c m p = some (cid, pkg) ↔
      cid.val = c ∧ pkg.messageDigits.val = m ∧ pkg.pinpadDigits.val = p := by
  obtain ⟨message, pinpad⟩ := pkg
  simp only [metadataEntry, Option.bind_eq_bind, Option.bind_eq_some_iff,
    BoundedVec.tryFrom_eq_some_iff, Option.some_inj, Prod.mk.injEq,
    DisplayValidationPackage.mk.injEq]
  constructor
  · rintro ⟨_, rfl, _, rfl, _, rfl, rfl, rfl, rfl⟩
    exact ⟨rfl, rfl, rfl⟩
  · rintro ⟨rfl, rfl, rfl⟩
    exact ⟨_, rfl, _, rfl, _, rfl, rfl, rfl, rfl⟩

theorem metadataEntry_isSome_iff {c m p : Bytes} :
    (metadataEntry c m p).isSome ↔ c.length ≤ 64 ∧ m.length ≤ 10 ∧ p.length ≤ 10 := by
  rw [Option.isSome_iff_exists]
  constructor
  · rintro ⟨⟨cid, pkg⟩, h⟩
    obtain ⟨rfl, rfl, rfl⟩ := metadataEntry_eq_some_iff.mp h
    exact ⟨cid.bound, pkg.messageDigits.bound, pkg.pinpadDigits.bound⟩
  · rintro ⟨hc, hm, hp⟩
    exact ⟨(⟨c, hc⟩, ⟨⟨m, hm⟩, ⟨p, hp⟩⟩), metadataEntry_eq_some_iff.mpr ⟨rfl, rfl, rfl⟩⟩

/-- **What `store_metadata_aux` does**: it stores the entry and reports the digits, or
traps when a part is over its bound. -/
theorem outcome_storeMetadataAux [DecidableEq A] (who : A) (c m p : Bytes) (s : Chain A) :
    (storeMetadataAux (.signed who) c m p s).outcome =
      (metadataEntry c m p).map fun e =>
        (.ok (), (s.deposit (.debugNewDigitsSet m p)).insertMetadata who e.1 e.2) := by
  unfold storeMetadataAux
  rw [ensureSigned_signed_bind]
  apply outcome_depositEvent_bind
  · simp only [outcome_unwrap_bind, metadataEntry, Option.bind_eq_bind, Option.map_bind,
      Function.comp_def, Option.map_some, Exec.modify_apply, Ended.outcome_ok]
  · -- digits too long for the event are over their bound
    rintro ⟨cid, pkg⟩ hentry
    obtain ⟨-, rfl, rfl⟩ := metadataEntry_eq_some_iff.mp hentry
    apply Event.encodable_of_length_le
    have hm := pkg.messageDigits.bound
    have hp := pkg.pinpadDigits.bound
    simp only [Event.vectors, List.forall_mem_cons, List.not_mem_nil, false_imp_iff, implies_true,
      and_true]
    omega

/-! ## What is compared -/

/-- The digit a typed byte stands for: the raw digit or its ASCII form. -/
def digitOf (b : UInt8) : Option ℕ :=
  if b.toNat < 10 then some b.toNat
  else if 48 ≤ b.toNat ∧ b.toNat ≤ 57 then some (b.toNat - 48)
  else none

/-- The typed digits, each looked up in the pinpad. -/
def lookupDigits (pinpad : List UInt8) (input : Bytes) : Option (List UInt8) :=
  input.mapM fun b => (digitOf b).bind fun d => pinpad[d]?

/-- Every byte is a digit, raw or ASCII, that the pinpad has an entry for. -/
def Typeable (pinpad : List UInt8) (input : Bytes) : Prop :=
  ∀ b ∈ input, ∃ d, digitOf b = some d ∧ d < pinpad.length

theorem lookupDigits_isSome_iff {pinpad : List UInt8} {input : Bytes} :
    (lookupDigits pinpad input).isSome ↔ Typeable pinpad input := by
  induction input with
  | nil => simp [lookupDigits, Typeable]
  | cons b input ih =>
    unfold lookupDigits Typeable at *
    rw [List.mapM_cons, List.forall_mem_cons, ← ih]
    cases hb : digitOf b with
    | none => simp
    | some d =>
      cases hd : pinpad[d]? with
      | none =>
        have : ¬ d < pinpad.length := by simpa using hd
        simp [this]
      | some o =>
        have : d < pinpad.length := (List.getElem?_eq_some_iff.mp hd).1
        cases input.mapM fun b => (digitOf b).bind fun d => pinpad[d]? <;> simp [this]

/-- The byte is a digit whose pinpad entry is `m`. -/
def Shows (pinpad : List UInt8) (b m : UInt8) : Prop :=
  ∃ d, digitOf b = some d ∧ pinpad[d]? = some m

/-- **The input is the code of a package**: position by position, a digit whose pinpad
entry is the digit of the message. -/
def RightCode (pkg : DisplayValidationPackage) (input : Bytes) : Prop :=
  List.Forall₂ (Shows pkg.pinpadDigits.val) input pkg.messageDigits.val

theorem lookupDigits_eq_some_iff {pinpad : List UInt8} {input : Bytes} {out : List UInt8} :
    lookupDigits pinpad input = some out ↔ List.Forall₂ (Shows pinpad) input out := by
  induction input generalizing out with
  | nil => simp [lookupDigits, eq_comm]
  | cons b input ih =>
    unfold lookupDigits at *
    simp only [List.mapM_cons, Option.bind_eq_bind, Option.bind_eq_some_iff, Option.pure_def,
      Option.some_inj]
    constructor
    · rintro ⟨m, ⟨d, hd, hm⟩, out', hout, rfl⟩
      exact List.Forall₂.cons ⟨d, hd, hm⟩ (ih.mp hout)
    · intro h
      cases h with
      | cons hb hrest =>
        obtain ⟨d, hd, hm⟩ := hb
        exact ⟨_, ⟨d, hd, hm⟩, _, ih.mpr hrest, rfl⟩

/-- The code can be typed. -/
theorem RightCode.typeable {pkg : DisplayValidationPackage} {input : Bytes}
    (h : RightCode pkg input) : Typeable pkg.pinpadDigits.val input := by
  rw [← lookupDigits_isSome_iff, lookupDigits_eq_some_iff.mpr h]
  rfl

/-- A character whose value is below 10 is a digit byte. -/
theorem inputDigit_lt_ten {c : Char} {i : UInt8} (h : inputDigit c = some i)
    (hi : i.toNat < 10) : c.toNat < 128 ∧ digitOf (UInt8.ofNat c.toNat) = some i.toNat := by
  unfold inputDigit toDigit at h
  by_cases hc : 48 ≤ c.toNat ∧ c.toNat ≤ 57
  · rw [if_pos hc, Option.getD_some, u8TryFrom, if_pos (by omega)] at h
    obtain rfl := Option.some_inj.mp h
    have h1 : (UInt8.ofNat (c.toNat - 48)).toNat = c.toNat - 48 := by simp; omega
    have h2 : (UInt8.ofNat c.toNat).toNat = c.toNat := by simp; omega
    refine ⟨by omega, ?_⟩
    rw [digitOf, h1, h2, if_neg (by omega), if_pos hc]
  · rw [if_neg hc, Option.getD_none, u8TryFrom] at h
    split at h
    · rename_i h256
      obtain rfl := Option.some_inj.mp h
      have h2 : (UInt8.ofNat c.toNat).toNat = c.toNat := by simp; omega
      rw [h2] at hi
      refine ⟨by omega, ?_⟩
      rw [digitOf, h2, if_pos hi]
    · cases h

/-- A digit byte, read as a character, has its digit as value. -/
theorem inputDigit_of_digitOf {b : UInt8} {d : ℕ} (h : digitOf b = some d) :
    b.toNat < 128 ∧ d < 10 ∧ inputDigit (Char.ofNat b.toNat) = some (UInt8.ofNat d) := by
  have hb : ∀ n < 128, (Char.ofNat n).toNat = n := fun n hn =>
    toNat_charOfNat (Or.inl (by omega))
  unfold digitOf at h
  split at h
  · rename_i h1
    obtain rfl := Option.some_inj.mp h
    refine ⟨by omega, h1, ?_⟩
    rw [inputDigit, toDigit, hb _ (by omega), if_neg (by omega), Option.getD_none, u8TryFrom,
      if_pos (by omega)]
  split at h
  · rename_i h1 h2
    obtain rfl := Option.some_inj.mp h
    refine ⟨by omega, by omega, ?_⟩
    rw [inputDigit, toDigit, hb _ (by omega), if_pos h2, Option.getD_some, u8TryFrom,
      if_pos (by omega)]
  · cases h

/-- A looked up position names an index below ten. -/
theorem getElem?_lt_ten {p : List UInt8} (hp : p.length ≤ 10) {i : ℕ} {a : UInt8}
    (h : p[i]? = some a) : i < 10 := by
  have := (List.getElem?_eq_some_iff.mp h).1
  omega

/-- The characters of an accepted input are its bytes, and each is looked up as a
digit: from the code's steps to `lookupDigits`. -/
theorem lookupDigits_of_chars {p : List UInt8} (hp : p.length ≤ 10) :
    ∀ {cs : List Char} {is out : List UInt8}, cs.mapM inputDigit = some is →
      is.mapM (fun i => p[i.toNat]?) = some out →
      (∀ c ∈ cs, c.toNat < 128) ∧
        lookupDigits p (cs.map fun c => UInt8.ofNat c.toNat) = some out
  | [], is, out, h1, h2 => by
    obtain rfl : [] = is := by simpa using h1
    exact ⟨by simp, h2⟩
  | c :: cs, is, out, h1, h2 => by
    simp only [List.mapM_cons, Option.bind_eq_bind, Option.bind_eq_some_iff,
      Option.pure_def, Option.some_inj] at h1
    obtain ⟨i, hi, is', his, rfl⟩ := h1
    simp only [List.mapM_cons, Option.bind_eq_bind, Option.bind_eq_some_iff,
      Option.pure_def, Option.some_inj] at h2
    obtain ⟨o, ho, out', hout, rfl⟩ := h2
    obtain ⟨hcs, ih⟩ := lookupDigits_of_chars hp his hout
    obtain ⟨hc, hdig⟩ := inputDigit_lt_ten hi (getElem?_lt_ten hp ho)
    refine ⟨?_, ?_⟩
    · intro d hd
      rcases List.mem_cons.mp hd with rfl | hd
      · exact hc
      · exact hcs d hd
    · unfold lookupDigits at ih ⊢
      rw [List.map_cons, List.mapM_cons, hdig, ih]
      simp [ho]

/-- From `lookupDigits` to the code's steps, over bytes that are digits. -/
theorem chars_of_lookupDigits {p : List UInt8} :
    ∀ {s : Bytes} {out : List UInt8}, lookupDigits p s = some out →
      (∀ b ∈ s, b.toNat < 128) ∧ ∃ is : List UInt8,
        (s.map fun b => Char.ofNat b.toNat).mapM inputDigit = some is ∧
        (∀ i ∈ is, i.toNat < 10) ∧ is.mapM (fun i => p[i.toNat]?) = some out
  | [], out, h => ⟨by simp, [], rfl, by simp, h⟩
  | b :: s, out, h => by
    simp only [lookupDigits, List.mapM_cons, Option.bind_eq_bind, Option.bind_eq_some_iff,
      Option.pure_def, Option.some_inj] at h
    obtain ⟨o, ⟨d, hd, ho⟩, out', hout, rfl⟩ := h
    obtain ⟨hs, is, his, hlt, hlook⟩ := chars_of_lookupDigits hout
    obtain ⟨hb, hd10, hchar⟩ := inputDigit_of_digitOf hd
    have hnat : (UInt8.ofNat d).toNat = d := by simp; omega
    refine ⟨?_, UInt8.ofNat d :: is, ?_, ?_, ?_⟩
    · intro x hx
      rcases List.mem_cons.mp hx with rfl | hx
      · exact hb
      · exact hs x hx
    · rw [List.map_cons, List.mapM_cons, hchar, his]
      rfl
    · intro x hx
      rcases List.mem_cons.mp hx with rfl | hx
      · rw [hnat]
        exact hd10
      · exact hlt x hx
    · rw [List.mapM_cons, hnat, ho, hlook]
      rfl

/-- **The code's lookup is `lookupDigits`.**  Decoding the input as UTF-8, turning its
characters into numbers and indexing the pinpad with them succeeds on digit bytes
only, and gives each digit's pinpad entry. -/
theorem lookup_ofUtf8 {p : List UInt8} (hp : p.length ≤ 10) (s : Bytes) :
    ((fromUtf8 s).bind fun cs => (cs.mapM inputDigit).bind fun is =>
      is.mapM fun i => p[i.toNat]?) = lookupDigits p s := by
  refine Option.ext fun out => ?_
  constructor
  · intro h
    obtain ⟨cs, hcs, h⟩ := Option.bind_eq_some_iff.mp h
    obtain ⟨is, his, hout⟩ := Option.bind_eq_some_iff.mp h
    obtain ⟨hascii, hlook⟩ := lookupDigits_of_chars hp his hout
    rw [← utf8Bytes_of_ascii hascii, utf8Bytes_of_fromUtf8 hcs] at hlook
    exact hlook
  · intro h
    obtain ⟨hascii, is, his, -, hout⟩ := chars_of_lookupDigits h
    rw [fromUtf8_of_ascii hascii, Option.bind_some, his, Option.bind_some, hout]

/-- Indices that are all found are below ten, so they print as UTF-8. -/
theorem lt_ten_of_mapM_getElem? {p : List UInt8} (hp : p.length ≤ 10) {is out : List UInt8}
    (h : is.mapM (fun i => p[i.toNat]?) = some out) : ∀ i ∈ is, i.toNat < 10 := by
  induction is generalizing out with
  | nil => simp
  | cons i is ih =>
    simp only [List.mapM_cons, Option.bind_eq_bind, Option.bind_eq_some_iff,
      Option.pure_def, Option.some_inj] at h
    obtain ⟨o, ho, out', hout, rfl⟩ := h
    intro j hj
    rcases List.mem_cons.mp hj with rfl | hj
    · exact getElem?_lt_ten hp ho
    · exact ih hout j hj

/-! ## What `check_input` does -/

/-- The package `check_input` compares with. -/
def storedPackage (s : Chain A) (who : A) (ipfsCid : Bytes) : Option DisplayValidationPackage :=
  (BoundedVec.tryFrom 64 ipfsCid).bind fun cid => s.circuitServerMetadataMap (who, cid)

/-- The verdict on an input: `none` when the call traps.  A node that logs also traps on
a pinpad it cannot print. -/
def checkVerdict (info : Bool) (pkg : DisplayValidationPackage) (input : Bytes) : Option Bool :=
  (lookupDigits pkg.pinpadDigits.val input).bind fun out =>
    if info = true ∧ ¬ IsUtf8 pkg.pinpadDigits.val then none
    else some (decide (pkg.messageDigits.val = out))

/-- A node that logs must be able to print the pinpad. -/
def Printable (env : Env) (pkg : DisplayValidationPackage) : Prop :=
  env.info = true → IsUtf8 pkg.pinpadDigits.val

theorem checkVerdict_eq_some_iff {env : Env} {pkg : DisplayValidationPackage} {input : Bytes}
    {pass : Bool} :
    checkVerdict env.info pkg input = some pass ↔
      Printable env pkg ∧ Typeable pkg.pinpadDigits.val input ∧
      (pass = true ↔ RightCode pkg input) := by
  unfold checkVerdict Printable RightCode
  rw [← lookupDigits_isSome_iff, ← lookupDigits_eq_some_iff]
  cases lookupDigits pkg.pinpadDigits.val input with
  | none => simp
  | some out =>
    rw [Option.bind_some, Option.some_inj, @eq_comm _ out]
    by_cases hp : env.info = true ∧ ¬ IsUtf8 pkg.pinpadDigits.val
    · rw [if_pos hp]
      constructor
      · intro h
        cases h
      · rintro ⟨hprint, -⟩
        exact absurd (hprint hp.1) hp.2
    · rw [if_neg hp, Option.some_inj]
      have hprint : env.info = true → IsUtf8 pkg.pinpadDigits.val := by
        intro hi
        by_contra hnot
        exact hp ⟨hi, hnot⟩
      constructor
      · rintro rfl
        exact ⟨hprint, rfl, by simp⟩
      · rintro ⟨-, -, h⟩
        rw [Bool.eq_iff_iff, h]
        simp

theorem checkVerdict_withInfo_true (env : Env) (pkg : DisplayValidationPackage) (input : Bytes) :
    checkVerdict (env.withInfo true).info pkg input =
      if IsUtf8 pkg.pinpadDigits.val then checkVerdict (env.withInfo false).info pkg input
      else none := by
  unfold checkVerdict
  by_cases hp : IsUtf8 pkg.pinpadDigits.val
  · simp [hp]
  · simp [hp, Env.withInfo]

/-- The end of a call whose input got a verdict. -/
def checkResult (s : Chain A) (who : A) (pass : Bool) : Except DispatchError Unit × Chain A :=
  if pass then (.ok (), s.deposit (.txPass who))
  else (.error .txWrongCodeGiven, s.deposit (.txFail who))

theorem outcome_mapM_unwrap_bind {σ ε α β γ : Type} (f : α → Option β) (xs : List α)
    (g : List β → Exec σ ε γ) (s : σ) :
    ((xs.mapM (fun x => (unwrap (f x) : Exec σ ε β)) >>= g) s).outcome =
      (xs.mapM f).bind fun ys => (g ys s).outcome :=
  Exec.outcome_mapM_expect_bind unwrapMsg f xs g s

/-- The verdict is reported. -/
theorem outcome_report (who : A) (message computed : List UInt8) (s : Chain A) :
    ((if message = computed then depositEvent (.txPass who)
      else do
        depositEvent (.txFail who)
        Exec.fail .txWrongCodeGiven : Dispatch A Unit) s).outcome =
      some (checkResult s who (decide (message = computed))) := by
  rw [Exec.ite_apply]
  by_cases heq : message = computed
  · rw [if_pos heq, depositEvent_apply (Event.encodable_of_vectors_eq_nil rfl)]
    simp [checkResult, heq]
  · rw [if_neg heq, Exec.bind_apply, depositEvent_apply (Event.encodable_of_vectors_eq_nil rfl)]
    simp [checkResult, heq]

/-- Indices that are all found can be printed, so only the pinpad stops the log statement. -/
theorem not_logOk_indices_iff {env : Env} {pinpad : List UInt8} (hp : pinpad.length ≤ 10)
    {is out : List UInt8} (h : is.mapM (fun i => pinpad[i.toNat]?) = some out) :
    ¬ LogOk env [(is, "input_digits_int utf8"), (pinpad, "pinpad_permutation utf8")] ↔
      env.info = true ∧ ¬ IsUtf8 pinpad := by
  have his : IsUtf8 is := by
    apply isUtf8_of_ascii
    intro i hi
    have := lt_ten_of_mapM_getElem? hp h i hi
    omega
  simp [LogOk, his]

/-- The end of `check_input`, from the numbers the input stands for. -/
theorem outcome_compare (env : Env) (who : A) (message : List UInt8) {pinpad : List UInt8}
    (hp : pinpad.length ≤ 10) (is : List UInt8) (s : Chain A) :
    ((do
      logInfo env [(is, "input_digits_int utf8"), (pinpad, "pinpad_permutation utf8")]
      let computed ← is.mapM fun i => unwrap pinpad[i.toNat]?
      if message = computed then depositEvent (.txPass who)
      else do
        depositEvent (.txFail who)
        Exec.fail .txWrongCodeGiven : Dispatch A Unit) s).outcome =
      (is.mapM fun i => pinpad[i.toNat]?).bind fun out =>
        if env.info = true ∧ ¬ IsUtf8 pinpad then none
        else some (checkResult s who (decide (message = out))) := by
  rw [outcome_logInfo_bind, outcome_mapM_unwrap_bind]
  simp only [outcome_report]
  rcases hlook : is.mapM fun i => pinpad[i.toNat]? with _ | out
  · -- an index beyond the pinpad traps whether or not the log statement did
    rw [hlook, Option.bind_none, Option.bind_none, ite_self]
  · rw [hlook, Option.bind_some, Option.bind_some, ← ite_not]
    exact if_congr (not_logOk_indices_iff hp hlook) rfl rfl

/-- **What `check_input` does**, on every input and every stored package. -/
theorem outcome_checkInput [DecidableEq A] (env : Env) (who : A) (c input : Bytes) (s : Chain A) :
    (checkInput env (.signed who) c input s).outcome =
      (storedPackage s who c).bind fun pkg =>
        (checkVerdict env.info pkg input).map (checkResult s who) := by
  unfold checkInput storedPackage
  rw [ensureSigned_signed_bind, Option.bind_assoc]
  simp only [outcome_unwrap_bind, Exec.outcome_get_bind, Exec.outcome_expect_bind,
    outcome_mapM_unwrap_bind]
  refine congrArg _ (funext fun cid => congrArg _ (funext fun pkg => ?_))
  -- the digits are read one conversion after another, as `lookup_ofUtf8` has them
  rw [checkVerdict, ← lookup_ofUtf8 pkg.pinpadDigits.bound]
  simp only [outcome_compare env who _ pkg.pinpadDigits.bound, Option.map_bind, Option.bind_assoc,
    Function.comp_def, apply_ite, Option.map_none, Option.map_some]

end TxValidation

end OffchainWorkerDemo
