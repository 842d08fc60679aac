/-
# The code that is drawn

A request for the display circuits leaves the worker two digits for the message and
ten for the pinpad, with the cids of the reference package.  The counts of that package
are read and logged, and the draws take no notice of them.  So the digits fit the
circuits exactly when the counts happen to be two and ten.
-/
import OffchainWorkerDemo.Node

namespace OffchainWorkerDemo

open OcwGarble

variable {A : Type}

/-- The guards of a request for the display circuits that finds the package `pkg`: what it logs
can be logged, and its message fits the record. -/
structure CanRequest (env : Env) (pkg : DisplaySkcdPackage) (txMsg : Bytes) : Prop where
  logMsg : LogOk env [(txMsg, "tx_msg utf8")]
  logCids : LogOk env [(pkg.messageSkcdCid.val, "message_skcd_cid utf8"),
    (pkg.pinpadSkcdCid.val, "pinpad_skcd_cid utf8")]
  fits : txMsg.length < 2 ^ 32

variable [DecidableEq A]

/-- The request a call writes for the worker: the one record it leaves in the off-chain index. -/
def SignedCall.WritesRequest (x : SignedCall A) (s : Chain A) (d : IndexingData) : Prop :=
  IndexingData.codec.Fits d ∧ x.indexed s = [(jobKey, IndexingData.codec.encode d)]

/-- **A request for the display circuits writes** the job of the package it finds, with the digits
drawn for its nonce. -/
theorem SignedCall.writesRequest_iff {x : SignedCall A} {s : Chain A} {txMsg : Bytes}
    {pkg : DisplaySkcdPackage} (hx : x.call = .garbleAndStripDisplayCircuitsPackageSigned txMsg)
    (hpkg : OcwCircuits.getDisplayCircuitsPackage s = .ok pkg) {d : IndexingData} :
    x.WritesRequest s d ↔
      CanRequest x.env pkg txMsg ∧ d = stripJob pkg txMsg (drawnDigits x.env s) := by
  have hpkg' : (OcwCircuits.getDisplayCircuitsPackage s).toOption = some pkg :=
    OcwCircuits.toOption_eq_some_iff.mpr hpkg
  have hfits : IndexingData.codec.Fits (stripJob pkg txMsg (drawnDigits x.env s)) ↔
      txMsg.length < 2 ^ 32 := fits_stripJob_iff
  rw [WritesRequest, indexed_eq]
  constructor
  · rintro ⟨hd, hindex⟩
    obtain ⟨-, hw⟩ | ⟨r, -, hmakes⟩ := x.writes_cases s
    · rw [hw] at hindex
      cases hindex
    · rw [hx] at hmakes
      revert hmakes hindex
      generalize x.writes s = e
      intro hindex hmakes
      cases hmakes with
      | garbleAndStrip hlogMsg hpkg₁ hlog hfits₁ =>
        obtain rfl : pkg = _ := Except.ok.inj (hpkg.symm.trans hpkg₁)
        refine ⟨⟨hlogMsg, hlog, hfits.mp hfits₁⟩, ?_⟩
        have hencode := (Prod.mk.inj (List.cons.inj hindex).1).2
        exact IndexingData.codec.encode_injective hd hfits₁ hencode.symm
  · rintro ⟨⟨hlogMsg, hlog, hlen⟩, rfl⟩
    refine ⟨hfits.mpr hlen, ?_⟩
    have heff : effect x.env x.who s x.call = some (.ok (),
        { nonce := some (s.nonce + 1)
          index := [(jobKey, IndexingData.codec.encode
            (stripJob pkg txMsg (drawnDigits x.env s)))] }) := by
      rw [hx, effect, if_pos hlogMsg, hpkg', Option.bind_some, if_pos ⟨hlog, hfits.mpr hlen⟩]
    rw [writes_of_effect heff]

/-- The request carries the cids of the package, as many message digits in `0..9` as the package
says its message has, and as many pinpad digits as it says its pinpad has. -/
def FitsCircuits (pkg : DisplaySkcdPackage) (d : IndexingData) : Prop :=
  d.messageSkcdIpfsCid = some pkg.messageSkcdCid.val ∧
  d.pinpadSkcdIpfsCid = some pkg.pinpadSkcdCid.val ∧
  ∃ messageDigits pinpadDigits,
    d.messageDigits = some messageDigits ∧ d.pinpadDigits = some pinpadDigits ∧
    messageDigits.length = pkg.messageSkcdServerMetadataNbDigits.toNat ∧
    (∀ b ∈ messageDigits, b.toNat < 10) ∧
    pinpadDigits.length = pkg.pinpadSkcdServerMetadataNbDigits.toNat

/-- **A drawn job fits** the circuits of two and of ten digits. -/
theorem fitsCircuits_stripJob_iff {pkg : DisplaySkcdPackage} {txMsg : Bytes} {draw : Draws}
    {seed : Bytes} :
    FitsCircuits pkg (stripJob pkg txMsg (drawDigits draw seed)) ↔
      pkg.messageSkcdServerMetadataNbDigits = 2 ∧ pkg.pinpadSkcdServerMetadataNbDigits = 10 := by
  have hmessage := length_drawDigits_message draw seed
  have hpinpad := length_drawDigits_pinpad draw seed
  rw [← UInt32.toNat_inj, ← UInt32.toNat_inj]
  constructor
  · rintro ⟨-, -, messageDigits, pinpadDigits, hm, hp, hlenM, -, hlenP⟩
    obtain rfl : (drawDigits draw seed).1 = messageDigits := Option.some_inj.mp hm
    obtain rfl : (drawDigits draw seed).2 = pinpadDigits := Option.some_inj.mp hp
    exact ⟨hlenM.symm.trans hmessage, hlenP.symm.trans hpinpad⟩
  · rintro ⟨hm, hp⟩
    exact ⟨rfl, rfl, _, _, rfl, rfl, hmessage.trans hm.symm, drawDigits_message_lt draw seed,
      hpinpad.trans hp.symm⟩

/-- **The drawn code fits the circuits exactly when they have two and ten digits**, unless the
call writes no request at all. -/
theorem drawnCode_fits_iff {x : SignedCall A} {s : Chain A} {txMsg : Bytes}
    {pkg : DisplaySkcdPackage} (hx : x.call = .garbleAndStripDisplayCircuitsPackageSigned txMsg)
    (hpkg : OcwCircuits.getDisplayCircuitsPackage s = .ok pkg) :
    (∀ d, x.WritesRequest s d → FitsCircuits pkg d) ↔
      (CanRequest x.env pkg txMsg → pkg.messageSkcdServerMetadataNbDigits = 2 ∧
        pkg.pinpadSkcdServerMetadataNbDigits = 10) := by
  constructor
  · intro h hcan
    have hfits := h _ ((SignedCall.writesRequest_iff hx hpkg).mpr ⟨hcan, rfl⟩)
    exact fitsCircuits_stripJob_iff.mp hfits
  · intro h d hd
    obtain ⟨hcan, rfl⟩ := (SignedCall.writesRequest_iff hx hpkg).mp hd
    exact fitsCircuits_stripJob_iff.mpr (h hcan)

/-- A chain whose reference package has the given counts. -/
def countedChain (messageNbDigits pinpadNbDigits : UInt32) : Chain ℕ :=
  run [⟨default, 0,
    .callbackNewDisplayCircuitsPackageSigned [1] messageNbDigits [2] pinpadNbDigits⟩]

/-- A request with an empty message. -/
def emptyRequest : SignedCall ℕ := ⟨default, 0, .garbleAndStripDisplayCircuitsPackageSigned []⟩

/-- The package with the given counts. -/
def countedPackage (messageNbDigits pinpadNbDigits : UInt32) : DisplaySkcdPackage :=
  ⟨⟨[1], by decide⟩, messageNbDigits, ⟨[2], by decide⟩, pinpadNbDigits⟩

theorem getDisplayCircuitsPackage_twoAndTen :
    OcwCircuits.getDisplayCircuitsPackage (countedChain 2 10) = .ok (countedPackage 2 10) := by rfl

theorem getDisplayCircuitsPackage_fourDigits :
    OcwCircuits.getDisplayCircuitsPackage (countedChain 4 10) = .ok (countedPackage 4 10) := by rfl

/-- The node does not log, and the message is empty. -/
theorem canRequest_emptyRequest (messageNbDigits pinpadNbDigits : UInt32) :
    CanRequest emptyRequest.env (countedPackage messageNbDigits pinpadNbDigits) [] := by
  refine ⟨?_, ?_, by decide⟩
  · intro hinfo
    cases hinfo
  · intro hinfo
    cases hinfo

/-- The request that is written for the given counts. -/
def emptyJob (messageNbDigits pinpadNbDigits : UInt32) : IndexingData :=
  stripJob (countedPackage messageNbDigits pinpadNbDigits) []
    (drawnDigits emptyRequest.env (countedChain messageNbDigits pinpadNbDigits))

theorem writesRequest_emptyJob {messageNbDigits pinpadNbDigits : UInt32}
    (hpkg : OcwCircuits.getDisplayCircuitsPackage (countedChain messageNbDigits pinpadNbDigits) =
      .ok (countedPackage messageNbDigits pinpadNbDigits)) :
    emptyRequest.WritesRequest (countedChain messageNbDigits pinpadNbDigits)
      (emptyJob messageNbDigits pinpadNbDigits) :=
  (SignedCall.writesRequest_iff rfl hpkg).mpr
    ⟨canRequest_emptyRequest messageNbDigits pinpadNbDigits, rfl⟩

/-- Two and ten digits are drawn for circuits of two and of ten digits. -/
theorem drawnCode_fits_twoAndTen :
    emptyRequest.WritesRequest (countedChain 2 10) (emptyJob 2 10) ∧
      FitsCircuits (countedPackage 2 10) (emptyJob 2 10) :=
  ⟨writesRequest_emptyJob getDisplayCircuitsPackage_twoAndTen,
    (drawnCode_fits_iff (x := emptyRequest) rfl getDisplayCircuitsPackage_twoAndTen).mpr
      (fun _ => ⟨rfl, rfl⟩) _ (writesRequest_emptyJob getDisplayCircuitsPackage_twoAndTen)⟩

/-- Two digits are drawn for a message circuit of four. -/
theorem not_drawnCode_fits_fourDigits :
    OcwCircuits.getDisplayCircuitsPackage (countedChain 4 10) = .ok (countedPackage 4 10) ∧
      ¬ ∀ d, emptyRequest.WritesRequest (countedChain 4 10) d →
        FitsCircuits (countedPackage 4 10) d := by
  refine ⟨getDisplayCircuitsPackage_fourDigits, ?_⟩
  intro h
  have hfits := h _ (writesRequest_emptyJob getDisplayCircuitsPackage_fourDigits)
  exact absurd (fitsCircuits_stripJob_iff.mp hfits).1 (by decide)

end OffchainWorkerDemo
