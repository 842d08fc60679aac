/-
# Codes typed on a pinpad

A pinpad is a rearrangement of the ten digits, so every digit of a message sits at
exactly one position of it.  The positions of a message are the one list of digits
that validates it, and what may be typed for them is each digit as a raw byte or
as its ASCII form.
-/
import OffchainWorkerDemo.Attempts
import Mathlib.Data.List.Nodup

namespace OffchainWorkerDemo

open TxValidation

/-! ## Ways to type digits -/

/-- The two ways to type a digit. -/
def digitBytes (d : ℕ) : List UInt8 := [UInt8.ofNat d, UInt8.ofNat (48 + d)]

/-- Every way to type a list of digits. -/
def encodings : List ℕ → List Bytes
  | [] => [[]]
  | d :: ds => (digitBytes d).flatMap fun b => (encodings ds).map (b :: ·)

/-- A list of digits in `0..9`. -/
def DigitList (ds : List ℕ) : Prop := ∀ d ∈ ds, d < 10

theorem digitOf_eq_some_iff {b : UInt8} {d : ℕ} (hd : d < 10) :
    digitOf b = some d ↔ b ∈ digitBytes d := by
  have hraw : (UInt8.ofNat d).toNat = d := by
    rw [UInt8.toNat_ofNat']
    omega
  have hascii : (UInt8.ofNat (48 + d)).toNat = 48 + d := by
    rw [UInt8.toNat_ofNat']
    omega
  simp only [digitBytes, List.mem_cons, List.not_mem_nil, or_false]
  rw [← UInt8.toNat_inj, ← UInt8.toNat_inj, hraw, hascii]
  unfold digitOf
  split
  · rw [Option.some_inj]
    omega
  split
  · rw [Option.some_inj]
    omega
  · constructor
    · intro h
      cases h
    · intro h
      omega

/-- **What may be typed** for a list of digits: position by position, the digit. -/
theorem mem_encodings_iff {ds : List ℕ} (hds : DigitList ds) {s : Bytes} :
    s ∈ encodings ds ↔ List.Forall₂ (fun b d => digitOf b = some d) s ds := by
  induction ds generalizing s with
  | nil => simp [encodings]
  | cons d ds ih =>
    obtain ⟨hd, hrest⟩ := List.forall_mem_cons.mp hds
    simp only [encodings, List.mem_flatMap, List.mem_map]
    constructor
    · rintro ⟨b, hb, s', hs', rfl⟩
      exact List.Forall₂.cons ((digitOf_eq_some_iff hd).mpr hb) ((ih hrest).mp hs')
    · intro h
      cases h with
      | cons hb hs' => exact ⟨_, (digitOf_eq_some_iff hd).mp hb, _, (ih hrest).mpr hs', rfl⟩

/-- There are two ways for each position. -/
theorem length_encodings (ds : List ℕ) : (encodings ds).length = 2 ^ ds.length := by
  induction ds with
  | nil => rfl
  | cons d ds ih =>
    simp only [encodings, digitBytes, List.flatMap_cons, List.flatMap_nil, List.length_append,
      List.length_map, List.length_nil, ih, List.length_cons, Nat.pow_succ]
    omega

/-- The ways to type a list of digits are all different. -/
theorem nodup_encodings {ds : List ℕ} (hds : DigitList ds) : (encodings ds).Nodup := by
  induction ds with
  | nil => decide
  | cons d ds ih =>
    obtain ⟨hd, hrest⟩ := List.forall_mem_cons.mp hds
    have hcons (b : UInt8) : ((encodings ds).map (b :: ·)).Nodup :=
      (ih hrest).map fun _ _ h => (List.cons.inj h).2
    have hne : UInt8.ofNat d ≠ UInt8.ofNat (48 + d) := by
      intro h
      have := congrArg UInt8.toNat h
      rw [UInt8.toNat_ofNat', UInt8.toNat_ofNat'] at this
      omega
    simp only [encodings, digitBytes, List.flatMap_cons, List.flatMap_nil, List.append_nil]
    refine List.nodup_append.mpr ⟨hcons _, hcons _, ?_⟩
    intro s hs t ht
    obtain ⟨s', -, rfl⟩ := List.mem_map.mp hs
    obtain ⟨t', -, rfl⟩ := List.mem_map.mp ht
    intro h
    exact hne (List.cons.inj h).1

/-- A string is typed for at most one list of digits. -/
theorem encodings_unique {ds es : List ℕ} (hds : DigitList ds) (hes : DigitList es) {s : Bytes}
    (h : s ∈ encodings ds) (h' : s ∈ encodings es) : ds = es := by
  have hright : Relator.RightUnique fun (b : UInt8) (d : ℕ) => digitOf b = some d := by
    intro b d e hd he
    exact Option.some_inj.mp (hd.symm.trans he)
  exact hright.forall₂ ((mem_encodings_iff hds).mp h) ((mem_encodings_iff hes).mp h')

/-- The raw digits are one way to type a list. -/
theorem raw_mem_encodings {ds : List ℕ} (hds : DigitList ds) :
    ds.map UInt8.ofNat ∈ encodings ds := by
  rw [mem_encodings_iff hds, List.forall₂_map_left_iff, List.forall₂_same]
  intro d hd
  exact (digitOf_eq_some_iff (hds d hd)).mpr List.mem_cons_self

/-- Two ways to type one list are looked up alike. -/
theorem lookupDigits_eq_of_encodings (pinpad : List UInt8) {ds : List ℕ} (hds : DigitList ds)
    {s t : Bytes} (hs : s ∈ encodings ds) (ht : t ∈ encodings ds) :
    lookupDigits pinpad s = lookupDigits pinpad t := by
  have hlookup {u : Bytes} (hu : u ∈ encodings ds) :
      lookupDigits pinpad u = ds.mapM fun d => pinpad[d]? := by
    have hforall := (mem_encodings_iff hds).mp hu
    clear hu hs ht
    induction hforall with
    | nil => rfl
    | cons hb _ ih =>
      obtain ⟨-, hrest⟩ := List.forall_mem_cons.mp hds
      unfold lookupDigits at *
      rw [List.mapM_cons, List.mapM_cons, hb, ih hrest]
      rfl
  rw [hlookup hs, hlookup ht]

/-! ## The positions of a message -/

/-- A rearrangement of the ten digits holds each digit once. -/
theorem getElem?_pinpad_iff {p : List UInt8} (hp : p.Perm OcwGarble.tenDigits) {m : UInt8}
    (hm : m.toNat < 10) {d : ℕ} : p[d]? = some m ↔ d = p.idxOf m := by
  -- each digit is on the pinpad, and only once
  have hten : ∀ n < 10, UInt8.ofNat n ∈ OcwGarble.tenDigits := by decide
  have hmem : m ∈ p := by
    rw [hp.mem_iff, ← UInt8.ofNat_toNat (x := m)]
    exact hten _ hm
  have hnodup : p.Nodup := hp.nodup_iff.mpr (by decide)
  have hidx := List.getElem?_idxOf hmem
  constructor
  · intro h
    exact (List.getElem?_inj (List.getElem?_eq_some_iff.mp h).1 hnodup).mp (h.trans hidx.symm)
  · rintro rfl
    exact hidx

/-- Relations that agree on the elements of the right list relate the same lists. -/
theorem forall₂_congr_right {α β : Type} {R S : α → β → Prop} {ys : List β}
    (h : ∀ x, ∀ y ∈ ys, R x y ↔ S x y) {xs : List α} :
    List.Forall₂ R xs ys ↔ List.Forall₂ S xs ys := by
  induction ys generalizing xs with
  | nil => rw [List.forall₂_nil_right_iff, List.forall₂_nil_right_iff]
  | cons y ys ih =>
    have hrest := @ih fun x z hz => h x z (List.mem_cons_of_mem y hz)
    cases xs with
    | nil => simp
    | cons x xs =>
      rw [List.forall₂_cons, List.forall₂_cons, h x y List.mem_cons_self, hrest]

/-- The positions of the message's digits on the pinpad. -/
def positions (pkg : DisplayValidationPackage) : List ℕ :=
  pkg.messageDigits.val.map fun m => pkg.pinpadDigits.val.idxOf m

variable {pkg : DisplayValidationPackage} (hp : pkg.pinpadDigits.val.Perm OcwGarble.tenDigits)
  (hm : ∀ m ∈ pkg.messageDigits.val, m.toNat < 10)

include hp hm

theorem digitList_positions : DigitList (positions pkg) := by
  intro d hd
  obtain ⟨m, hmem, rfl⟩ := List.mem_map.mp hd
  have hget := (getElem?_pinpad_iff hp (hm m hmem)).mpr rfl
  exact getElem?_lt_ten pkg.pinpadDigits.bound hget

/-- **The right codes are the ways to type the positions.** -/
theorem rightCode_iff (input : Bytes) :
    RightCode pkg input ↔ input ∈ encodings (positions pkg) := by
  rw [mem_encodings_iff (digitList_positions hp hm), RightCode, positions,
    List.forall₂_map_right_iff]
  apply forall₂_congr_right
  intro b m hmem
  unfold Shows
  simp only [getElem?_pinpad_iff hp (hm m hmem), exists_eq_right]

/-! ## The verdict -/

variable {A : Type} [DecidableEq A]

/-- `check_input` by `who` on the circuit `c` emits `TxPass`. -/
def Accepts (env : Env) (who : A) (c : Bytes) (s : Chain A) (input : Bytes) : Prop :=
  .txPass who ∈ SignedCall.emitted ⟨env, who, .checkInput c input⟩ s

omit hm in
/-- A rearrangement of the ten digits can be printed. -/
theorem printable_of_perm (env : Env) : Printable env pkg := by
  intro _
  apply isUtf8_of_ascii
  intro b hb
  have hb := OcwGarble.tenDigits_lt b (hp.mem_iff.mp hb)
  omega

/-- **What is accepted**: the ways to type the positions. -/
theorem accepts_iff (env : Env) {who : A} {c : Bytes} {s : Chain A}
    (hstored : storedPackage s who c = some pkg) (input : Bytes) :
    Accepts env who c s input ↔ input ∈ encodings (positions pkg) := by
  rw [← rightCode_iff hp hm, Accepts, SignedCall.emits_txPass_iff rfl]
  constructor
  · rintro ⟨-, pkg', hpkg', -, hright⟩
    rw [hstored] at hpkg'
    obtain rfl := Option.some_inj.mp hpkg'
    exact hright
  · intro hright
    exact ⟨rfl, pkg, hstored, printable_of_perm hp env, hright⟩

omit hp hm

/-- **Every generated code is solvable in exactly one way.**  Against a pinpad that is a
rearrangement of the ten digits, exactly one list of digits is accepted, and what is
accepted is each of its positions typed raw or in ASCII; any two ways to type the same
digits get the same verdict. -/
theorem accepts_iff_encodings (env : Env) (who : A) (cid : Cid) (s : Chain A)
    (hpkg : s.circuitServerMetadataMap (who, cid) = some pkg)
    (hp : pkg.pinpadDigits.val.Perm OcwGarble.tenDigits)
    (hm : ∀ m ∈ pkg.messageDigits.val, m.toNat < 10) :
    ∃ ds : List ℕ, DigitList ds ∧ ds.length = pkg.messageDigits.val.length ∧
      (∀ es, DigitList es → (Accepts env who cid.val s (es.map UInt8.ofNat) ↔ es = ds)) ∧
      (∀ input, Accepts env who cid.val s input ↔ input ∈ encodings ds) ∧
      (encodings ds).Nodup ∧ (encodings ds).length = 2 ^ pkg.messageDigits.val.length ∧
      ∀ es, DigitList es → ∀ t ∈ encodings es, ∀ u ∈ encodings es,
        (dispatch env (.signed who) (.checkInput cid.val t) s).outcome =
          (dispatch env (.signed who) (.checkInput cid.val u) s).outcome := by
  have hds := digitList_positions hp hm
  have hstored : storedPackage s who cid.val = some pkg := by
    unfold storedPackage
    rw [BoundedVec.tryFrom_val, Option.bind_some, hpkg]
  have haccepts := @accepts_iff pkg hp hm A _ env who cid.val s hstored
  have hlen : (positions pkg).length = pkg.messageDigits.val.length := List.length_map _
  refine ⟨positions pkg, hds, hlen, ?_, haccepts, nodup_encodings hds, ?_, ?_⟩
  · intro es hes
    rw [haccepts]
    constructor
    · intro h
      exact encodings_unique hes hds (raw_mem_encodings hes) h
    · rintro rfl
      exact raw_mem_encodings hds
  · rw [length_encodings, hlen]
  · intro es hes t ht u hu
    simp only [dispatch, outcome_checkInput, checkVerdict,
      lookupDigits_eq_of_encodings _ hes ht hu]

/-- A chain with one entry: the code 3 4 under a reversed pinpad. -/
def reversedPinpad : Chain ℕ :=
  (Chain.empty ℕ).insertMetadata 0 default
    ⟨⟨[3, 4], by decide⟩, ⟨[9, 8, 7, 6, 5, 4, 3, 2, 1, 0], by decide⟩⟩

theorem accepts_reversedPinpad : ∃ ds : List ℕ, DigitList ds ∧
    ∀ input, Accepts default 0 [] reversedPinpad input ↔ input ∈ encodings ds := by
  obtain ⟨ds, hds, -, -, haccepts, -⟩ := accepts_iff_encodings default 0 default reversedPinpad
    rfl (by decide) (by simp)
  exact ⟨ds, hds, haccepts⟩

end OffchainWorkerDemo
