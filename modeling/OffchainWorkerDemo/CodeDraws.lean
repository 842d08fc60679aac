/-
# How evenly codes are drawn

A request makes eleven bounded draws: nine for the shuffle of the pinpad and two for the
message.  Every possible code comes from exactly one choice of them
(`codes_drawn_evenly`), and of these choices a given input is right for one in a hundred
(`blind_guess`).  The two draws of the message, their bounds and their place after the
shuffle are the code's; the nine draws of the shuffle are those of `rand`, whose source is
not at hand.
-/
import OffchainWorkerDemo.DrawnCode
import OffchainWorkerDemo.Pipeline
import OffchainWorkerDemo.Lib.ShuffleDraws
import Mathlib.SetTheory.Cardinal.Finite

namespace OffchainWorkerDemo

open TxValidation OcwGarble

/-! ## The eleven draws -/

/-- The draws of one request. -/
structure CodeDraws where
  pinpad : Indices 9
  first : Fin 10
  second : Fin 10

/-- A code that could be drawn: two digits, and a rearrangement of the ten. -/
structure Drawable (code : Bytes × Bytes) : Prop where
  length : code.1.length = 2
  message : ∀ m ∈ code.1, m.toNat < 10
  pinpad : code.2.Perm tenDigits

namespace CodeDraws

/-- The code that comes of the draws: (message, pinpad). -/
def code (t : CodeDraws) : Bytes × Bytes :=
  ([UInt8.ofNat t.first.val, UInt8.ofNat t.second.val], shuffleBy 9 tenDigits t.pinpad)

theorem code_mk (js : Indices 9) (a b : Fin 10) :
    code ⟨js, a, b⟩ = ([UInt8.ofNat a.val, UInt8.ofNat b.val], shuffleBy 9 tenDigits js) := rfl

/-- The draws a generator makes for a seed. -/
def ofDraws (draw : Draws) (seed : Bytes) : CodeDraws where
  pinpad := (indicesOf (ChaChaRng.genIndex draw) 9 (.fromSeed seed)).1
  first := draw seed 9 9
  second := draw seed 10 9

/-- A generator that has drawn `i` positions. -/
theorem indicesOf_rng (draw : Draws) (i : ℕ) (rng : ChaChaRng) :
    (indicesOf (ChaChaRng.genIndex draw) i rng).2 = ⟨rng.seed, rng.drawn + i⟩ := by
  induction i generalizing rng with
  | zero => rfl
  | succ i ih =>
    have hrest := ih (rng.genIndex draw (i + 1)).2
    refine hrest.trans ?_
    show ChaChaRng.mk rng.seed (rng.drawn + 1 + i) = ⟨rng.seed, rng.drawn + (i + 1)⟩
    rw [Nat.add_assoc, Nat.add_comm 1 i]

/-- **The digits of a request** are the code of the draws it makes. -/
theorem drawDigits_eq (draw : Draws) (seed : Bytes) :
    drawDigits draw seed = (ofDraws draw seed).code := by
  have hshuffle : shuffle (ChaChaRng.genIndex draw) tenDigits (.fromSeed seed) =
      (shuffleBy 9 tenDigits (ofDraws draw seed).pinpad, ⟨seed, 9⟩) := by
    have hrng := indicesOf_rng draw 9 (.fromSeed seed)
    have hfrom := shuffleFrom_eq (ChaChaRng.genIndex draw) 9 tenDigits (.fromSeed seed)
    rw [hrng] at hfrom
    exact hfrom
  have hmessage : (ChaChaRng.genDigits draw 2 ⟨seed, 9⟩).1 =
      [UInt8.ofNat (draw seed 9 9).val, UInt8.ofNat (draw seed 10 9).val] := rfl
  unfold drawDigits code
  simp only [hshuffle, hmessage]
  rw [ofDraws]

/-- **A request writes the code of its draws** into the job it leaves. -/
theorem writesRequest_code_iff {A : Type} [DecidableEq A] (x : SignedCall A) (s : Chain A)
    (txMsg : Bytes) (pkg : DisplaySkcdPackage)
    (hx : x.call = .garbleAndStripDisplayCircuitsPackageSigned txMsg)
    (hpkg : OcwCircuits.getDisplayCircuitsPackage s = .ok pkg) (d : IndexingData) :
    x.WritesRequest s d ↔ CanRequest x.env pkg txMsg ∧
      d = stripJob pkg txMsg (ofDraws x.env.draw (requestSeed x.env s)).code := by
  rw [SignedCall.writesRequest_iff hx hpkg, drawnDigits, drawDigits_eq]

/-- A number as a draw in `0..=n`. -/
def wrap (a n : ℕ) : Fin (n + 1) := ⟨a % (n + 1), Nat.mod_lt a n.succ_pos⟩

theorem wrap_val {n : ℕ} (a : Fin (n + 1)) : wrap a.val n = a :=
  Fin.ext (Nat.mod_eq_of_lt a.isLt)

/-- The `k`-th of the positions, as a draw in `0..=n`. -/
def nth : (i : ℕ) → Indices i → ℕ → (n : ℕ) → Fin (n + 1)
  | 0, _, _, n => wrap 0 n
  | _ + 1, (j, _), 0, n => wrap j.val n
  | i + 1, (_, js), k + 1, n => nth i js k n

/-- A generator that makes these draws, whatever the seed. -/
def draws (t : CodeDraws) : Draws := fun _ k n =>
  if k < 9 then nth 9 t.pinpad k n
  else if k = 9 then wrap t.first.val n
  else wrap t.second.val n

theorem indicesOf_nth {draw : Draws} {seed : Bytes} {i d : ℕ} {js : Indices i}
    (h : ∀ k < i, ∀ n, draw seed (d + k) n = nth i js k n) :
    (indicesOf (ChaChaRng.genIndex draw) i ⟨seed, d⟩).1 = js := by
  induction i generalizing d with
  | zero => rfl
  | succ i ih =>
    obtain ⟨j, js⟩ := js
    have hfirst : draw seed d (i + 1) = j := by
      have hdraw := h 0 (Nat.succ_pos i) (i + 1)
      exact hdraw.trans (wrap_val j)
    have hrest : (indicesOf (ChaChaRng.genIndex draw) i ⟨seed, d + 1⟩).1 = js := by
      refine ih fun k hk n => ?_
      rw [Nat.add_assoc, Nat.add_comm 1 k]
      exact h (k + 1) (by omega) n
    show (draw seed d (i + 1), (indicesOf (ChaChaRng.genIndex draw) i ⟨seed, d + 1⟩).1) = (j, js)
    rw [hfirst, hrest]

/-- Every choice of draws is made by some generator. -/
theorem ofDraws_draws (t : CodeDraws) (seed : Bytes) : ofDraws t.draws seed = t := by
  obtain ⟨js, a, b⟩ := t
  have hpinpad : (indicesOf (ChaChaRng.genIndex (draws ⟨js, a, b⟩)) 9 ⟨seed, 0⟩).1 = js := by
    refine indicesOf_nth fun k hk n => ?_
    rw [Nat.zero_add, draws, if_pos hk]
  have hfirst : draws ⟨js, a, b⟩ seed 9 9 = a := wrap_val a
  have hsecond : draws ⟨js, a, b⟩ seed 10 9 = b := wrap_val b
  rw [ofDraws, hfirst, hsecond]
  exact congrArg (fun js => (⟨js, a, b⟩ : CodeDraws)) hpinpad

/-! ## Every code, once -/

theorem ofNat_val_injective {a b : Fin 10} (h : UInt8.ofNat a.val = UInt8.ofNat b.val) : a = b := by
  have hnat := congrArg UInt8.toNat h
  rw [UInt8.toNat_ofNat', UInt8.toNat_ofNat'] at hnat
  have ha := a.isLt
  have hb := b.isLt
  exact Fin.ext (by omega)

theorem exists_ofNat_val {m : UInt8} (hm : m.toNat < 10) : ∃ a : Fin 10, UInt8.ofNat a.val = m :=
  ⟨⟨m.toNat, hm⟩, UInt8.ofNat_toNat⟩

theorem drawable_code (t : CodeDraws) : Drawable t.code := by
  obtain ⟨js, a, b⟩ := t
  have hlt : ∀ a : Fin 10, (UInt8.ofNat a.val).toNat < 10 := by decide
  rw [code_mk]
  constructor
  · rfl
  · intro m hm
    rcases List.mem_pair.mp hm with rfl | rfl
    · exact hlt a
    · exact hlt b
  · dsimp only
    exact shuffleBy_perm 9 tenDigits js

/-- **A code that could be drawn comes of exactly one choice of draws.** -/
theorem existsUnique_code {code : Bytes × Bytes} (h : Drawable code) : ∃! t, CodeDraws.code t = code := by
  obtain ⟨message, pinpad⟩ := code
  obtain ⟨hlen, hm, hp⟩ := h
  obtain ⟨a, b, rfl⟩ := List.length_eq_two.mp hlen
  obtain ⟨first, rfl⟩ := exists_ofNat_val (hm a (by simp))
  obtain ⟨second, rfl⟩ := exists_ofNat_val (hm b (by simp))
  have hnone : ∀ k, 9 < k → pinpad[k]? = tenDigits[k]? := by
    intro k hk
    rw [List.getElem?_eq_none (by rw [hp.length_eq]; exact hk),
      List.getElem?_eq_none (show tenDigits.length ≤ k from hk)]
  obtain ⟨js, hjs, hunique⟩ := existsUnique_shuffleBy (by decide : tenDigits.Nodup)
    (show 9 < tenDigits.length by decide) hp hnone
  refine ⟨⟨js, first, second⟩, ?_, ?_⟩
  · dsimp only
    rw [code_mk, hjs]
  rintro ⟨js', first', second'⟩ ht
  rw [code_mk] at ht
  obtain ⟨hmessage, hpinpad⟩ := Prod.mk.inj ht
  obtain ⟨hfirst, hrest⟩ := List.cons.inj hmessage
  obtain ⟨hsecond, -⟩ := List.cons.inj hrest
  rw [hunique js' hpinpad, ofNat_val_injective hfirst, ofNat_val_injective hsecond]

end CodeDraws

/-- **Codes are drawn evenly.**  A request writes the code of its eleven bounded draws, made for the
seed of its nonce, into the job it leaves.  All choices of draws can occur, and the code is a one to
one function of them onto the two digits of a message with the rearrangements of the ten digits. -/
theorem codes_drawn_evenly :
    (∀ {A : Type} [DecidableEq A] (x : SignedCall A) (s : Chain A) (txMsg : Bytes) pkg,
      x.call = .garbleAndStripDisplayCircuitsPackageSigned txMsg →
      OcwCircuits.getDisplayCircuitsPackage s = .ok pkg → ∀ d, x.WritesRequest s d ↔
        CanRequest x.env pkg txMsg ∧
        d = stripJob pkg txMsg (CodeDraws.ofDraws x.env.draw (requestSeed x.env s)).code) ∧
    (∀ draw seed, drawDigits draw seed = (CodeDraws.ofDraws draw seed).code) ∧
    (∀ t, ∃ draw, ∀ seed, CodeDraws.ofDraws draw seed = t) ∧
    (∀ t : CodeDraws, Drawable t.code) ∧
    ∀ code, Drawable code → ∃! t : CodeDraws, t.code = code :=
  ⟨CodeDraws.writesRequest_code_iff, CodeDraws.drawDigits_eq, fun t => ⟨t.draws, t.ofDraws_draws⟩,
    CodeDraws.drawable_code, fun _ => CodeDraws.existsUnique_code⟩

/-! ## Guessing -/

/-- A byte that is read as a digit shows one digit on every pinpad. -/
theorem existsUnique_shows {pinpad : List UInt8} (hp : pinpad.Perm tenDigits) {byte : UInt8}
    (hbyte : (digitOf byte).isSome) : ∃! a : Fin 10, Shows pinpad byte (UInt8.ofNat a.val) := by
  obtain ⟨d, hd⟩ := Option.isSome_iff_exists.mp hbyte
  have hlt : d < pinpad.length := by
    rw [hp.length_eq]
    show d < 10
    unfold digitOf at hd
    split at hd
    · obtain rfl := Option.some_inj.mp hd
      assumption
    · split at hd
      · obtain rfl := Option.some_inj.mp hd
        omega
      · cases hd
  have hget : pinpad[d]? = some pinpad[d] := List.getElem?_eq_getElem hlt
  obtain ⟨a, ha⟩ := CodeDraws.exists_ofNat_val
    (tenDigits_lt _ (hp.mem_iff.mp (List.getElem_mem hlt)))
  refine ⟨a, ⟨d, hd, by rw [hget, ha]⟩, ?_⟩
  rintro b ⟨d', hd', hb⟩
  obtain rfl := Option.some_inj.mp (hd.symm.trans hd')
  refine CodeDraws.ofNat_val_injective ?_
  rw [ha]
  exact (Option.some_inj.mp (hget.symm.trans hb)).symm

/-- Two bytes that are read as digits. -/
def TwoDigits (input : Bytes) : Prop :=
  ∃ a b, input = [a, b] ∧ (digitOf a).isSome ∧ (digitOf b).isSome

theorem codeFor_code_iff {js : Indices 9} {a b : Fin 10} {input : Bytes} :
    Round.CodeFor (CodeDraws.code ⟨js, a, b⟩) input ↔ List.Forall₂ (Shows (shuffleBy 9 tenDigits js))
      input [UInt8.ofNat a.val, UInt8.ofNat b.val] := by
  rw [CodeDraws.code_mk, Round.CodeFor]

/-- **Two typed digits are right for one message on every pinpad.** -/
theorem existsUnique_message {input : Bytes} (hinput : TwoDigits input) (js : Indices 9) :
    ∃! m : Fin 10 × Fin 10, Round.CodeFor (CodeDraws.code ⟨js, m.1, m.2⟩) input := by
  obtain ⟨x, y, rfl, hx, hy⟩ := hinput
  have hp := shuffleBy_perm 9 tenDigits js
  simp only [codeFor_code_iff]
  generalize shuffleBy 9 tenDigits js = pinpad at hp
  obtain ⟨a, ha, haunique⟩ := existsUnique_shows hp hx
  obtain ⟨b, hb, hbunique⟩ := existsUnique_shows hp hy
  refine ⟨(a, b), .cons ha (.cons hb .nil), ?_⟩
  rintro ⟨a', b'⟩ hcode
  obtain ⟨ha', hrest⟩ := List.forall₂_cons.mp hcode
  obtain ⟨hb', -⟩ := List.forall₂_cons.mp hrest
  rw [haunique a' ha', hbunique b' hb']

/-- A code shows two digits only. -/
theorem twoDigits_of_codeFor {t : CodeDraws} {input : Bytes} (h : Round.CodeFor t.code input) :
    TwoDigits input := by
  obtain ⟨js, a, b⟩ := t
  have hshows := codeFor_code_iff.mp h
  generalize shuffleBy 9 tenDigits js = pinpad at hshows
  rcases hshows with _ | ⟨⟨d, hd, -⟩, _ | ⟨⟨e, he, -⟩, _ | _⟩⟩
  exact ⟨_, _, rfl, Option.isSome_of_eq_some hd, Option.isSome_of_eq_some he⟩

theorem card_codeDraws : Nat.card CodeDraws = 100 * Nat.factorial 10 := by
  have hequiv : CodeDraws ≃ Indices 9 × (Fin 10 × Fin 10) :=
    { toFun := fun t => (t.pinpad, t.first, t.second)
      invFun := fun t => ⟨t.1, t.2.1, t.2.2⟩
      left_inv := fun _ => rfl
      right_inv := fun _ => rfl }
  rw [Nat.card_congr hequiv, Nat.card_prod, Nat.card_prod, card_indices, Nat.card_fin,
    Nat.mul_comm]

/-- As many draws make an input right as there are pinpads. -/
theorem card_codeFor {input : Bytes} (hinput : TwoDigits input) :
    Nat.card {t : CodeDraws // Round.CodeFor t.code input} = Nat.factorial 10 := by
  rw [← card_indices 9]
  refine Nat.card_eq_of_bijective (fun t => t.1.pinpad) ⟨?_, ?_⟩
  · rintro ⟨⟨js, a, b⟩, hab⟩ ⟨⟨js', a', b'⟩, hab'⟩ hjs
    obtain rfl : js = js' := hjs
    have heq : (a, b) = (a', b') := (existsUnique_message hinput js).unique hab hab'
    obtain ⟨rfl, rfl⟩ := Prod.mk.inj heq
    rfl
  · intro js
    obtain ⟨⟨a, b⟩, hab, -⟩ := existsUnique_message hinput js
    exact ⟨⟨⟨js, a, b⟩, hab⟩, rfl⟩

/-- **A blind guess is right once in a hundred.**  `check_input` accepts an input against the
stored code of some draws when it is a code for it; of all draws one in a hundred makes an input of
two digits, raw or ASCII, such a code, and none any other input. -/
theorem blind_guess (input : Bytes) :
    (∀ {A : Type} [DecidableEq A] (env : Env) (who : A) (c : Bytes) (s : Chain A) (t : CodeDraws) pkg,
      storedPackage s who c = some pkg → (pkg.messageDigits.val, pkg.pinpadDigits.val) = t.code →
      (Accepts env who c s input ↔ Round.CodeFor t.code input)) ∧
    Nat.card CodeDraws = 100 * Nat.factorial 10 ∧
    (TwoDigits input →
      Nat.card {t : CodeDraws // Round.CodeFor t.code input} = Nat.factorial 10) ∧
    (¬ TwoDigits input → ∀ t : CodeDraws, ¬ Round.CodeFor t.code input) := by
  refine ⟨?_, card_codeDraws, card_codeFor, fun hinput t ht => hinput (twoDigits_of_codeFor ht)⟩
  intro A _ env who c s t pkg hstored hcode
  obtain ⟨-, hmessage, hpinpad⟩ := t.drawable_code
  rw [← hcode] at hmessage hpinpad ⊢
  rw [accepts_iff hpinpad hmessage env hstored, ← rightCode_iff hpinpad hmessage]
  rfl

end OffchainWorkerDemo
