/-
# Base64

The standard alphabet with padding.  Three bytes are four characters of six bits;
one or two bytes at the end are filled up with zero bits and padded with `=`, and a
decoder refuses padding anywhere else and filling that is not zero.
-/
import Mathlib.Data.List.Basic

namespace OffchainWorkerDemo

namespace Base64

/-! ## Characters -/

/-- The character of a six-bit value. -/
def sextetChar (n : ℕ) : UInt8 :=
  UInt8.ofNat (if n < 26 then n + 65 else if n < 52 then n + 71 else if n < 62 then n - 4
    else if n = 62 then 43 else 47)

/-- The six-bit value of a character. -/
def sextet (c : UInt8) : Option ℕ :=
  let n := c.toNat
  if 65 ≤ n ∧ n ≤ 90 then some (n - 65)
  else if 97 ≤ n ∧ n ≤ 122 then some (n - 71)
  else if 48 ≤ n ∧ n ≤ 57 then some (n + 4)
  else if n = 43 then some 62
  else if n = 47 then some 63
  else none

/-- `=` -/
def pad : UInt8 := 61

theorem sextet_sextetChar {n : ℕ} (h : n < 64) : sextet (sextetChar n) = some n := by
  revert n
  decide

theorem sextetChar_ne_pad {n : ℕ} (h : n < 64) : sextetChar n ≠ pad := by
  intro hpad
  have hvalue := sextet_sextetChar h
  rw [hpad] at hvalue
  cases hvalue

/-! ## Groups -/

section Groups

variable (a b c : UInt8)

/-- The first six bits of a group. -/
def first : ℕ := a.toNat / 4

/-- The next six, over the first two bytes. -/
def second : ℕ := a.toNat % 4 * 16 + b.toNat / 16

/-- The next six, over the last two bytes. -/
def third : ℕ := b.toNat % 16 * 4 + c.toNat / 64

/-- The last six bits. -/
def fourth : ℕ := c.toNat % 64

theorem first_lt : first a < 64 := by
  have := a.toNat_lt
  unfold first
  omega

theorem second_lt : second a b < 64 := by
  have := b.toNat_lt
  unfold second
  omega

theorem third_lt : third b c < 64 := by
  have := c.toNat_lt
  unfold third
  omega

theorem fourth_lt : fourth c < 64 := by
  unfold fourth
  omega

/-- The first byte of a group. -/
theorem ofNat_first_second : UInt8.ofNat (first a * 4 + second a b / 16) = a := by
  have hb := b.toNat_lt
  have h : first a * 4 + second a b / 16 = a.toNat := by
    unfold first second
    omega
  rw [h, UInt8.ofNat_toNat]

/-- The second byte of a group. -/
theorem ofNat_second_third : UInt8.ofNat (second a b % 16 * 16 + third b c / 4) = b := by
  have hc := c.toNat_lt
  have hb := b.toNat_lt
  have h : second a b % 16 * 16 + third b c / 4 = b.toNat := by
    unfold second third
    omega
  rw [h, UInt8.ofNat_toNat]

/-- The third byte of a group. -/
theorem ofNat_third_fourth : UInt8.ofNat (third b c % 4 * 64 + fourth c) = c := by
  have hc := c.toNat_lt
  have h : third b c % 4 * 64 + fourth c = c.toNat := by
    unfold third fourth
    omega
  rw [h, UInt8.ofNat_toNat]

end Groups

/-! ## The codec -/

/-- Three bytes at a time; what is left over is filled up with zero bits. -/
def encode : List UInt8 → List UInt8
  | a :: b :: c :: rest => sextetChar (first a) :: sextetChar (second a b) ::
      sextetChar (third b c) :: sextetChar (fourth c) :: encode rest
  | [a, b] => [sextetChar (first a), sextetChar (second a b), sextetChar (third b 0), pad]
  | [a] => [sextetChar (first a), sextetChar (second a 0), pad, pad]
  | [] => []

/-- Four characters at a time; padding only at the very end. -/
def decode : List UInt8 → Option (List UInt8)
  | [] => some []
  | p :: q :: r :: s :: rest => do
    let i ← sextet p
    let j ← sextet q
    if s = pad then
      if rest ≠ [] then none
      else if r = pad then
        if j % 16 = 0 then some [UInt8.ofNat (i * 4 + j / 16)] else none
      else do
        let k ← sextet r
        if k % 4 = 0 then
          some [UInt8.ofNat (i * 4 + j / 16), UInt8.ofNat (j % 16 * 16 + k / 4)]
        else none
    else do
      let k ← sextet r
      let l ← sextet s
      let bytes ← decode rest
      some (UInt8.ofNat (i * 4 + j / 16) :: UInt8.ofNat (j % 16 * 16 + k / 4) ::
        UInt8.ofNat (k % 4 * 64 + l) :: bytes)
  | _ => none

/-- **Decoding undoes encoding.** -/
theorem decode_encode : ∀ bs : List UInt8, decode (encode bs) = some bs
  | [] => rfl
  | [a] => by
    have hfill : second a 0 % 16 = 0 := by
      have hzero : (0 : UInt8).toNat = 0 := rfl
      unfold second
      omega
    simp only [encode, decode, sextet_sextetChar (first_lt a), sextet_sextetChar (second_lt a 0),
      Option.bind_eq_bind, Option.bind_some, if_true, ne_eq, not_true, if_false, hfill,
      ofNat_first_second]
  | [a, b] => by
    have hfill : third b 0 % 4 = 0 := by
      have hzero : (0 : UInt8).toNat = 0 := rfl
      unfold third
      omega
    simp only [encode, decode, sextet_sextetChar (first_lt a), sextet_sextetChar (second_lt a b),
      sextet_sextetChar (third_lt b 0), Option.bind_eq_bind, Option.bind_some, if_true, ne_eq,
      not_true, if_false, sextetChar_ne_pad (third_lt b 0), hfill, ofNat_first_second,
      ofNat_second_third]
  | a :: b :: c :: rest => by
    simp only [encode, decode, sextet_sextetChar (first_lt a), sextet_sextetChar (second_lt a b),
      sextet_sextetChar (third_lt b c), sextet_sextetChar (fourth_lt c), Option.bind_eq_bind,
      Option.bind_some, if_false, sextetChar_ne_pad (fourth_lt c), decode_encode rest,
      ofNat_first_second, ofNat_second_third, ofNat_third_fourth]

end Base64

end OffchainWorkerDemo
