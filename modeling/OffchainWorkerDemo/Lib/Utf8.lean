/-
# UTF-8 over byte lists

`fromUtf8` is the validating decoder: the byte ranges are those of the standard
table (no overlong form, no surrogate, nothing above U+10FFFF).  It is shown to
be the inverse of the encoder `String.utf8EncodeChar`, and the part that matters
to a reader of ASCII is drawn out: a decoded character below 128 is one byte.
-/
import Mathlib.Data.List.Basic

namespace OffchainWorkerDemo

/-! ## The decoder -/

/-- A continuation byte. -/
def isTail (b : ℕ) : Prop := 0x80 ≤ b ∧ b ≤ 0xBF

instance (b : ℕ) : Decidable (isTail b) := inferInstanceAs (Decidable (_ ∧ _))

/-- The first two bytes of a two byte character. -/
def isTwoBytes (a b : ℕ) : Prop := (0xC2 ≤ a ∧ a ≤ 0xDF) ∧ isTail b

/-- The first two bytes of a three byte character. -/
def isThreeBytes (a b : ℕ) : Prop :=
  (a = 0xE0 ∧ 0xA0 ≤ b ∧ b ≤ 0xBF) ∨ ((0xE1 ≤ a ∧ a ≤ 0xEC) ∧ isTail b) ∨
    (a = 0xED ∧ 0x80 ≤ b ∧ b ≤ 0x9F) ∨ ((0xEE ≤ a ∧ a ≤ 0xEF) ∧ isTail b)

/-- The first two bytes of a four byte character. -/
def isFourBytes (a b : ℕ) : Prop :=
  (a = 0xF0 ∧ 0x90 ≤ b ∧ b ≤ 0xBF) ∨ ((0xF1 ≤ a ∧ a ≤ 0xF3) ∧ isTail b) ∨
    (a = 0xF4 ∧ 0x80 ≤ b ∧ b ≤ 0x8F)

instance (a b : ℕ) : Decidable (isTwoBytes a b) := inferInstanceAs (Decidable (_ ∧ _))
instance (a b : ℕ) : Decidable (isThreeBytes a b) := inferInstanceAs (Decidable (_ ∨ _))
instance (a b : ℕ) : Decidable (isFourBytes a b) := inferInstanceAs (Decidable (_ ∨ _))

/-- The code point of a two, three or four byte character. -/
def codeTwo (a b : ℕ) : ℕ := (a - 0xC0) * 64 + (b - 0x80)
def codeThree (a b c : ℕ) : ℕ := (a - 0xE0) * 4096 + (b - 0x80) * 64 + (c - 0x80)
def codeFour (a b c d : ℕ) : ℕ :=
  (a - 0xF0) * 262144 + (b - 0x80) * 4096 + (c - 0x80) * 64 + (d - 0x80)

/-- `str::from_utf8`: the characters of a byte string, `none` when it is not UTF-8. -/
def fromUtf8 : List UInt8 → Option (List Char)
  | [] => some []
  | a :: as =>
    if a.toNat < 0x80 then
      (fromUtf8 as).map (Char.ofNat a.toNat :: ·)
    else match as with
    | [] => none
    | b :: bs =>
      if isTwoBytes a.toNat b.toNat then
        (fromUtf8 bs).map (Char.ofNat (codeTwo a.toNat b.toNat) :: ·)
      else match bs with
      | [] => none
      | c :: cs =>
        if isThreeBytes a.toNat b.toNat ∧ isTail c.toNat then
          (fromUtf8 cs).map (Char.ofNat (codeThree a.toNat b.toNat c.toNat) :: ·)
        else match cs with
        | [] => none
        | d :: ds =>
          if isFourBytes a.toNat b.toNat ∧ isTail c.toNat ∧ isTail d.toNat then
            (fromUtf8 ds).map (Char.ofNat (codeFour a.toNat b.toNat c.toNat d.toNat) :: ·)
          else none

/-- The bytes of a string. -/
def utf8Bytes (cs : List Char) : List UInt8 := cs.flatMap String.utf8EncodeChar

/-- Being valid UTF-8. -/
def IsUtf8 (bs : List UInt8) : Prop := (fromUtf8 bs).isSome

instance (bs : List UInt8) : Decidable (IsUtf8 bs) := inferInstanceAs (Decidable (_ = true))

example : fromUtf8 [0x33, 0xC3, 0xA9, 0xE2, 0x82, 0xAC] = some ['3', 'é', '€'] := by decide
example : ¬ IsUtf8 [0xFF] := by decide

/-! ## One character at a time -/

theorem fromUtf8_one {a : UInt8} (as : List UInt8) (h : a.toNat < 0x80) :
    fromUtf8 (a :: as) = (fromUtf8 as).map (Char.ofNat a.toNat :: ·) := by
  conv_lhs => unfold fromUtf8
  rw [if_pos h]

theorem fromUtf8_two {a b : UInt8} (bs : List UInt8) (h : isTwoBytes a.toNat b.toNat) :
    fromUtf8 (a :: b :: bs) =
      (fromUtf8 bs).map (Char.ofNat (codeTwo a.toNat b.toNat) :: ·) := by
  have h1 : ¬ a.toNat < 0x80 := by have := h.1; omega
  conv_lhs => unfold fromUtf8
  simp only [if_neg h1, if_pos h]

theorem fromUtf8_three {a b c : UInt8} (cs : List UInt8)
    (h : isThreeBytes a.toNat b.toNat ∧ isTail c.toNat) :
    fromUtf8 (a :: b :: c :: cs) =
      (fromUtf8 cs).map (Char.ofNat (codeThree a.toNat b.toNat c.toNat) :: ·) := by
  have h1 : ¬ a.toNat < 0x80 := by have := h.1; unfold isThreeBytes at this; omega
  have h2 : ¬ isTwoBytes a.toNat b.toNat := by
    have := h.1
    unfold isThreeBytes at this
    unfold isTwoBytes
    omega
  conv_lhs => unfold fromUtf8
  simp only [if_neg h1, if_neg h2, if_pos h]

theorem fromUtf8_four {a b c d : UInt8} (ds : List UInt8)
    (h : isFourBytes a.toNat b.toNat ∧ isTail c.toNat ∧ isTail d.toNat) :
    fromUtf8 (a :: b :: c :: d :: ds) =
      (fromUtf8 ds).map
        (Char.ofNat (codeFour a.toNat b.toNat c.toNat d.toNat) :: ·) := by
  have h0 := h.1
  unfold isFourBytes at h0
  have h1 : ¬ a.toNat < 0x80 := by omega
  have h2 : ¬ isTwoBytes a.toNat b.toNat := by unfold isTwoBytes; omega
  have h3 : ¬ (isThreeBytes a.toNat b.toNat ∧ isTail c.toNat) := by
    unfold isThreeBytes; omega
  conv_lhs => unfold fromUtf8
  simp only [if_neg h1, if_neg h2, if_neg h3, if_pos h]

/-- A successful decoding starts with one of the four kinds of character. -/
theorem fromUtf8_cons_cases {a : UInt8} {as : List UInt8} {ds : List Char}
    (h : fromUtf8 (a :: as) = some ds) :
    (a.toNat < 0x80 ∧ ∃ es, fromUtf8 as = some es ∧ ds = Char.ofNat a.toNat :: es) ∨
    (∃ b bs es, as = b :: bs ∧ isTwoBytes a.toNat b.toNat ∧ fromUtf8 bs = some es ∧
      ds = Char.ofNat (codeTwo a.toNat b.toNat) :: es) ∨
    (∃ b c cs es, as = b :: c :: cs ∧ (isThreeBytes a.toNat b.toNat ∧ isTail c.toNat) ∧
      fromUtf8 cs = some es ∧ ds = Char.ofNat (codeThree a.toNat b.toNat c.toNat) :: es) ∨
    (∃ b c d rest es, as = b :: c :: d :: rest ∧
      (isFourBytes a.toNat b.toNat ∧ isTail c.toNat ∧ isTail d.toNat) ∧
      fromUtf8 rest = some es ∧
      ds = Char.ofNat (codeFour a.toNat b.toNat c.toNat d.toNat) :: es) := by
  unfold fromUtf8 at h
  split at h
  · rename_i h1
    obtain ⟨es, hes, rfl⟩ := Option.map_eq_some_iff.mp h
    exact Or.inl ⟨h1, es, hes, rfl⟩
  split at h
  · cases h
  rename_i b bs
  split at h
  · rename_i h2
    obtain ⟨es, hes, rfl⟩ := Option.map_eq_some_iff.mp h
    exact Or.inr (Or.inl ⟨b, bs, es, rfl, h2, hes, rfl⟩)
  split at h
  · cases h
  rename_i c cs
  split at h
  · rename_i h3
    obtain ⟨es, hes, rfl⟩ := Option.map_eq_some_iff.mp h
    exact Or.inr (Or.inr (Or.inl ⟨b, c, cs, es, rfl, h3, hes, rfl⟩))
  split at h
  · cases h
  rename_i d rest
  split at h
  · rename_i h4
    obtain ⟨es, hes, rfl⟩ := Option.map_eq_some_iff.mp h
    exact Or.inr (Or.inr (Or.inr ⟨b, c, d, rest, es, rfl, h4, hes, rfl⟩))
  · cases h

/-! ## The decoder inverts the encoder -/

theorem toNat_charOfNat {n : ℕ} (h : n.isValidChar) : (Char.ofNat n).toNat = n := by
  rw [Char.ofNat, dif_pos h]
  rfl

/-- **Decoding one encoded character.** -/
theorem fromUtf8_encodeChar_append (c : Char) (bs : List UInt8) :
    fromUtf8 (String.utf8EncodeChar c ++ bs) = (fromUtf8 bs).map (c :: ·) := by
  have hv : c.toNat.isValidChar := c.valid
  have hc : c.val.toNat = c.toNat := rfl
  unfold Nat.isValidChar at hv
  conv_rhs => rw [← Char.ofNat_toNat c]
  simp only [String.utf8EncodeChar, hc]
  -- the four lengths of an encoding, each read back by its own decoding lemma
  split
  · have ha : (UInt8.ofNat c.toNat).toNat = c.toNat := by simp; omega
    rw [List.cons_append, List.nil_append, fromUtf8_one _ (by omega), ha]
  split
  · have ha : (UInt8.ofNat (c.toNat / 64 % 32 + 192)).toNat = c.toNat / 64 % 32 + 192 := by
      simp; omega
    have hb : (UInt8.ofNat (c.toNat % 64 + 128)).toNat = c.toNat % 64 + 128 := by simp; omega
    rw [List.cons_append, List.cons_append, List.nil_append,
      fromUtf8_two _ (by rw [ha, hb]; unfold isTwoBytes isTail; omega), ha, hb]
    rw [show codeTwo (c.toNat / 64 % 32 + 192) (c.toNat % 64 + 128) = c.toNat by
      unfold codeTwo; omega]
  split
  · have ha : (UInt8.ofNat (c.toNat / 4096 % 16 + 224)).toNat = c.toNat / 4096 % 16 + 224 := by
      simp; omega
    have hb : (UInt8.ofNat (c.toNat / 64 % 64 + 128)).toNat = c.toNat / 64 % 64 + 128 := by
      simp; omega
    have hd : (UInt8.ofNat (c.toNat % 64 + 128)).toNat = c.toNat % 64 + 128 := by simp; omega
    rw [List.cons_append, List.cons_append, List.cons_append, List.nil_append,
      fromUtf8_three _ (by rw [ha, hb, hd]; unfold isThreeBytes isTail; omega), ha, hb, hd]
    rw [show codeThree (c.toNat / 4096 % 16 + 224) (c.toNat / 64 % 64 + 128)
        (c.toNat % 64 + 128) = c.toNat by unfold codeThree; omega]
  · have ha : (UInt8.ofNat (c.toNat / 262144 % 8 + 240)).toNat = c.toNat / 262144 % 8 + 240 := by
      simp; omega
    have hb : (UInt8.ofNat (c.toNat / 4096 % 64 + 128)).toNat = c.toNat / 4096 % 64 + 128 := by
      simp; omega
    have hd : (UInt8.ofNat (c.toNat / 64 % 64 + 128)).toNat = c.toNat / 64 % 64 + 128 := by
      simp; omega
    have he : (UInt8.ofNat (c.toNat % 64 + 128)).toNat = c.toNat % 64 + 128 := by simp; omega
    rw [List.cons_append, List.cons_append, List.cons_append, List.cons_append,
      List.nil_append,
      fromUtf8_four _ (by rw [ha, hb, hd, he]; unfold isFourBytes isTail; omega),
      ha, hb, hd, he]
    rw [show codeFour (c.toNat / 262144 % 8 + 240) (c.toNat / 4096 % 64 + 128)
        (c.toNat / 64 % 64 + 128) (c.toNat % 64 + 128) = c.toNat by unfold codeFour; omega]

/-- **Round trip.**  Decoding the bytes of a string gives the string back. -/
theorem fromUtf8_utf8Bytes (cs : List Char) : fromUtf8 (utf8Bytes cs) = some cs := by
  induction cs with
  | nil => rfl
  | cons c cs ih =>
    rw [utf8Bytes, List.flatMap_cons, fromUtf8_encodeChar_append, ← utf8Bytes, ih]
    rfl

/-- Strings with the same bytes are the same. -/
theorem utf8Bytes_injective : Function.Injective utf8Bytes := by
  intro cs cs' h
  have hdecode := congrArg fromUtf8 h
  rw [fromUtf8_utf8Bytes, fromUtf8_utf8Bytes] at hdecode
  exact Option.some_inj.mp hdecode

theorem isUtf8_utf8Bytes (cs : List Char) : IsUtf8 (utf8Bytes cs) := by
  rw [IsUtf8, fromUtf8_utf8Bytes]
  rfl

/-- An accepted code point encodes to the bytes it was read from. -/
theorem encodeChar_ofNat {n : ℕ} (hn : n.isValidChar) :
    String.utf8EncodeChar (Char.ofNat n) =
      if n ≤ 0x7F then [UInt8.ofNat n]
      else if n ≤ 0x7FF then [UInt8.ofNat (n / 64 % 32 + 192), UInt8.ofNat (n % 64 + 128)]
      else if n ≤ 0xFFFF then
        [UInt8.ofNat (n / 4096 % 16 + 224), UInt8.ofNat (n / 64 % 64 + 128),
          UInt8.ofNat (n % 64 + 128)]
      else
        [UInt8.ofNat (n / 262144 % 8 + 240), UInt8.ofNat (n / 4096 % 64 + 128),
          UInt8.ofNat (n / 64 % 64 + 128), UInt8.ofNat (n % 64 + 128)] := by
  have hc : (Char.ofNat n).val.toNat = n := toNat_charOfNat hn
  simp only [String.utf8EncodeChar, hc]

theorem encodeChar_of_one {a : UInt8} (h : a.toNat < 0x80) :
    String.utf8EncodeChar (Char.ofNat a.toNat) = [a] := by
  rw [encodeChar_ofNat (Or.inl (by omega)), if_pos (by omega), UInt8.ofNat_toNat]

theorem encodeChar_of_two {a b : UInt8} (h : isTwoBytes a.toNat b.toNat) :
    String.utf8EncodeChar (Char.ofNat (codeTwo a.toNat b.toNat)) = [a, b] := by
  unfold isTwoBytes isTail at h
  have hcode : codeTwo a.toNat b.toNat = (a.toNat - 192) * 64 + (b.toNat - 128) := rfl
  have hv : (codeTwo a.toNat b.toNat).isValidChar := Or.inl (by omega)
  rw [encodeChar_ofNat hv, if_neg (by omega), if_pos (by omega)]
  rw [show codeTwo a.toNat b.toNat / 64 % 32 + 192 = a.toNat by omega,
    show codeTwo a.toNat b.toNat % 64 + 128 = b.toNat by omega,
    UInt8.ofNat_toNat, UInt8.ofNat_toNat]

theorem encodeChar_of_three {a b c : UInt8}
    (h : isThreeBytes a.toNat b.toNat ∧ isTail c.toNat) :
    String.utf8EncodeChar (Char.ofNat (codeThree a.toNat b.toNat c.toNat)) = [a, b, c] := by
  unfold isThreeBytes isTail at h
  have hcode : codeThree a.toNat b.toNat c.toNat
      = (a.toNat - 224) * 4096 + (b.toNat - 128) * 64 + (c.toNat - 128) := rfl
  have hv : (codeThree a.toNat b.toNat c.toNat).isValidChar := by
    unfold Nat.isValidChar; omega
  rw [encodeChar_ofNat hv, if_neg (by omega), if_neg (by omega), if_pos (by omega)]
  rw [show codeThree a.toNat b.toNat c.toNat / 4096 % 16 + 224 = a.toNat by omega,
    show codeThree a.toNat b.toNat c.toNat / 64 % 64 + 128 = b.toNat by omega,
    show codeThree a.toNat b.toNat c.toNat % 64 + 128 = c.toNat by omega,
    UInt8.ofNat_toNat, UInt8.ofNat_toNat, UInt8.ofNat_toNat]

theorem encodeChar_of_four {a b c d : UInt8}
    (h : isFourBytes a.toNat b.toNat ∧ isTail c.toNat ∧ isTail d.toNat) :
    String.utf8EncodeChar (Char.ofNat (codeFour a.toNat b.toNat c.toNat d.toNat)) =
      [a, b, c, d] := by
  unfold isFourBytes isTail at h
  have ha := a.toNat_lt
  have hcode : codeFour a.toNat b.toNat c.toNat d.toNat = (a.toNat - 240) * 262144
      + (b.toNat - 128) * 4096 + (c.toNat - 128) * 64 + (d.toNat - 128) := rfl
  have hv : (codeFour a.toNat b.toNat c.toNat d.toNat).isValidChar := by
    unfold Nat.isValidChar; omega
  rw [encodeChar_ofNat hv, if_neg (by omega), if_neg (by omega), if_neg (by omega)]
  rw [show codeFour a.toNat b.toNat c.toNat d.toNat / 262144 % 8 + 240 = a.toNat by omega,
    show codeFour a.toNat b.toNat c.toNat d.toNat / 4096 % 64 + 128 = b.toNat by omega,
    show codeFour a.toNat b.toNat c.toNat d.toNat / 64 % 64 + 128 = c.toNat by omega,
    show codeFour a.toNat b.toNat c.toNat d.toNat % 64 + 128 = d.toNat by omega,
    UInt8.ofNat_toNat, UInt8.ofNat_toNat, UInt8.ofNat_toNat, UInt8.ofNat_toNat]

/-- **Round trip, the other way.**  What decodes is the encoding of its characters. -/
theorem utf8Bytes_of_fromUtf8 {bs : List UInt8} {cs : List Char}
    (h : fromUtf8 bs = some cs) : utf8Bytes cs = bs := by
  -- on the number of bytes: the decoder takes one to four of them at a time
  induction hn : bs.length using Nat.strongRecOn generalizing bs cs with
  | ind n ih =>
    rcases bs with _ | ⟨a, as⟩
    · obtain rfl : cs = [] := by simpa [fromUtf8] using h.symm
      rfl
    · have step : ∀ {xs : List UInt8} {m : ℕ} {rest : List UInt8} {es : List Char},
          String.utf8EncodeChar (Char.ofNat m) = xs → rest.length < n →
          fromUtf8 rest = some es → utf8Bytes (Char.ofNat m :: es) = xs ++ rest := by
        intro xs m rest es hx hlt hes
        rw [utf8Bytes, List.flatMap_cons, hx, ← utf8Bytes, ih _ hlt hes rfl]
      simp only [← hn] at step
      rcases fromUtf8_cons_cases h with ⟨h1, es, hes, rfl⟩ | ⟨b, bs, es, rfl, h2, hes, rfl⟩ |
        ⟨b, c, cs, es, rfl, h3, hes, rfl⟩ | ⟨b, c, d, rest, es, rfl, h4, hes, rfl⟩
      · exact step (encodeChar_of_one h1) (by simp only [List.length_cons]; omega) hes
      · exact step (encodeChar_of_two h2) (by simp only [List.length_cons]; omega) hes
      · exact step (encodeChar_of_three h3) (by simp only [List.length_cons]; omega) hes
      · exact step (encodeChar_of_four h4) (by simp only [List.length_cons]; omega) hes

/-! ## ASCII -/

/-- A character below 128 is its own byte. -/
theorem encodeChar_of_lt {c : Char} (h : c.toNat < 128) :
    String.utf8EncodeChar c = [UInt8.ofNat c.toNat] := by
  have hc : c.val.toNat = c.toNat := rfl
  simp only [String.utf8EncodeChar, hc]
  rw [if_pos (by omega)]

/-- A string of characters below 128 is its list of bytes. -/
theorem utf8Bytes_of_ascii {cs : List Char} (h : ∀ c ∈ cs, c.toNat < 128) :
    utf8Bytes cs = cs.map fun c => UInt8.ofNat c.toNat := by
  induction cs with
  | nil => rfl
  | cons c cs ih =>
    rw [utf8Bytes, List.flatMap_cons, encodeChar_of_lt (h c List.mem_cons_self), ← utf8Bytes,
      ih fun d hd => h d (List.mem_cons_of_mem c hd)]
    rfl

/-- Bytes below 128 decode to themselves. -/
theorem fromUtf8_of_ascii {bs : List UInt8} (h : ∀ b ∈ bs, b.toNat < 128) :
    fromUtf8 bs = some (bs.map fun b => Char.ofNat b.toNat) := by
  induction bs with
  | nil => rfl
  | cons b bs ih =>
    rw [fromUtf8_one bs (h b List.mem_cons_self),
      ih fun d hd => h d (List.mem_cons_of_mem b hd)]
    rfl

theorem isUtf8_of_ascii {bs : List UInt8} (h : ∀ b ∈ bs, b.toNat < 128) : IsUtf8 bs := by
  rw [IsUtf8, fromUtf8_of_ascii h]
  rfl

end OffchainWorkerDemo
