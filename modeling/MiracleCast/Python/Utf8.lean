import Mathlib.Data.List.Basic

/-!
# `bytes.decode('utf-8', errors='replace')`

`process_output` decodes each chunk it reads from a child on its own. `decodeUtf8` is CPython's
UTF-8 decoder with the `replace` error handler (`utf8_decode` in `Objects/stringlib/codecs.h`
and the error cases of `unicode_decode_utf8`), written as a machine that reads one byte at a
time:

* an invalid start byte (`\x80`–`\xC1`, `\xF5`–`\xFF`) becomes one U+FFFD;
* a byte that cannot continue the sequence in progress ends the maximal valid prefix read so
  far, which becomes one U+FFFD, and is then read again at a character boundary;
* a sequence cut off by the end of the input ("unexpected end of data") becomes one U+FFFD.

`Utf8Char` is the grammar of one well-formed character (Unicode Table 3-7), stated apart from
the decoder, and `Utf8` a sequence of them. The decoder is a homomorphism over a well-formed
prefix (`decodeUtf8_append`), so decoding chunk by chunk agrees with decoding the whole stream
whenever every chunk but the last is well-formed (`decodeUtf8_flatten`).
-/

namespace MiracleCast

/-- U+FFFD, the character the `replace` error handler substitutes. -/
def replacementChar : Char := Char.ofNat 0xFFFD

/-- A multi-byte sequence in progress: the continuation bytes still owed, the bits of the
code point read so far, and the range the next byte must lie in. -/
structure Pending where
  owed : Nat
  bits : Nat
  lo : Nat
  hi : Nat
  deriving DecidableEq, Repr

/-- What a byte at a character boundary does: completes an ASCII character, opens a
multi-byte sequence, or is an invalid start byte. -/
inductive Lead
  | char (c : Char)
  | opens (p : Pending)
  | invalid
  deriving DecidableEq, Repr

/-- The decoder's reading of a byte at a character boundary. The second-byte ranges after
`\xE0`, `\xED`, `\xF0` and `\xF4` are the checks that exclude overlong forms, surrogates and
code points above U+10FFFF. -/
def lead (b : UInt8) : Lead :=
  let n := b.toNat
  if n < 0x80 then .char (Char.ofNat n)
  else if n < 0xC2 then .invalid
  else if n < 0xE0 then .opens ⟨1, n - 0xC0, 0x80, 0xBF⟩
  else if n < 0xF0 then
    .opens ⟨2, n - 0xE0, if n = 0xE0 then 0xA0 else 0x80, if n = 0xED then 0x9F else 0xBF⟩
  else if n < 0xF5 then
    .opens ⟨3, n - 0xF0, if n = 0xF0 then 0x90 else 0x80, if n = 0xF4 then 0x8F else 0xBF⟩
  else .invalid

/-- Decoding resumed at a character boundary with byte `b`; `rest` goes on with the bytes
after `b` from the state `b` leaves. -/
def atBoundary (b : UInt8) (rest : Option Pending → List Char) : List Char :=
  match lead b with
  | .char c => c :: rest none
  | .opens p => rest (some p)
  | .invalid => replacementChar :: rest none

/-- The decoder from a state: at a boundary (`none`) or inside a sequence. A byte outside
the expected range ends the sequence read so far, which becomes one U+FFFD, and is then read
again at a boundary; input that ends inside a sequence leaves one U+FFFD. -/
def decodeFrom : Option Pending → List UInt8 → List Char
  | none, [] => []
  | some _, [] => [replacementChar]
  | none, b :: bs => atBoundary b (decodeFrom · bs)
  | some p, b :: bs =>
    if p.lo ≤ b.toNat ∧ b.toNat ≤ p.hi then
      if p.owed = 1 then Char.ofNat (p.bits * 0x40 + (b.toNat - 0x80)) :: decodeFrom none bs
      else decodeFrom (some ⟨p.owed - 1, p.bits * 0x40 + (b.toNat - 0x80), 0x80, 0xBF⟩) bs
    else replacementChar :: atBoundary b (decodeFrom · bs)

/-- `bytes.decode('utf-8', errors='replace')`. -/
def decodeUtf8 (bs : List UInt8) : List Char :=
  decodeFrom none bs

example : decodeUtf8 [0xC3, 0xA9] = ['é'] := by decide
example : decodeUtf8 [0xE0, 0x80, 0x41] = [replacementChar, replacementChar, 'A'] := by decide

/-! ### Well-formed input -/

/-- A continuation byte, `\x80`–`\xBF`. -/
def IsTail (b : UInt8) : Prop :=
  0x80 ≤ b.toNat ∧ b.toNat ≤ 0xBF

/-- One well-formed UTF-8 character, by the rows of Unicode Table 3-7. -/
inductive Utf8Char : List UInt8 → Prop
  | ascii {b} : b.toNat ≤ 0x7F → Utf8Char [b]
  | two {b₁ b₂} : 0xC2 ≤ b₁.toNat → b₁.toNat ≤ 0xDF → IsTail b₂ → Utf8Char [b₁, b₂]
  | threeE0 {b₁ b₂ b₃} : b₁.toNat = 0xE0 → 0xA0 ≤ b₂.toNat → b₂.toNat ≤ 0xBF → IsTail b₃ →
      Utf8Char [b₁, b₂, b₃]
  | threeED {b₁ b₂ b₃} : b₁.toNat = 0xED → 0x80 ≤ b₂.toNat → b₂.toNat ≤ 0x9F → IsTail b₃ →
      Utf8Char [b₁, b₂, b₃]
  | three {b₁ b₂ b₃} : 0xE1 ≤ b₁.toNat → b₁.toNat ≤ 0xEF → b₁.toNat ≠ 0xED → IsTail b₂ →
      IsTail b₃ → Utf8Char [b₁, b₂, b₃]
  | fourF0 {b₁ b₂ b₃ b₄} : b₁.toNat = 0xF0 → 0x90 ≤ b₂.toNat → b₂.toNat ≤ 0xBF → IsTail b₃ →
      IsTail b₄ → Utf8Char [b₁, b₂, b₃, b₄]
  | fourF4 {b₁ b₂ b₃ b₄} : b₁.toNat = 0xF4 → 0x80 ≤ b₂.toNat → b₂.toNat ≤ 0x8F → IsTail b₃ →
      IsTail b₄ → Utf8Char [b₁, b₂, b₃, b₄]
  | four {b₁ b₂ b₃ b₄} : 0xF1 ≤ b₁.toNat → b₁.toNat ≤ 0xF3 → IsTail b₂ → IsTail b₃ →
      IsTail b₄ → Utf8Char [b₁, b₂, b₃, b₄]

/-- Well-formed UTF-8: a sequence of well-formed characters. -/
inductive Utf8 : List UInt8 → Prop
  | nil : Utf8 []
  | cons {c t} : Utf8Char c → Utf8 t → Utf8 (c ++ t)

theorem lead_of_le_7F {b : UInt8} (h : b.toNat ≤ 0x7F) : lead b = .char (Char.ofNat b.toNat) :=
  if_pos (by omega)

theorem lead_of_two {b : UInt8} (h₁ : 0xC2 ≤ b.toNat) (h₂ : b.toNat ≤ 0xDF) :
    lead b = .opens ⟨1, b.toNat - 0xC0, 0x80, 0xBF⟩ := by
  simp only [lead]
  rw [if_neg (by omega), if_neg (by omega), if_pos (by omega)]

theorem lead_of_three {b : UInt8} (h₁ : 0xE0 ≤ b.toNat) (h₂ : b.toNat ≤ 0xEF) :
    lead b = .opens ⟨2, b.toNat - 0xE0, if b.toNat = 0xE0 then 0xA0 else 0x80,
      if b.toNat = 0xED then 0x9F else 0xBF⟩ := by
  simp only [lead]
  rw [if_neg (by omega), if_neg (by omega), if_neg (by omega), if_pos (by omega)]

theorem lead_of_four {b : UInt8} (h₁ : 0xF0 ≤ b.toNat) (h₂ : b.toNat ≤ 0xF4) :
    lead b = .opens ⟨3, b.toNat - 0xF0, if b.toNat = 0xF0 then 0x90 else 0x80,
      if b.toNat = 0xF4 then 0x8F else 0xBF⟩ := by
  simp only [lead]
  rw [if_neg (by omega), if_neg (by omega), if_neg (by omega), if_neg (by omega),
    if_pos (by omega)]

/-- A well-formed character is decoded on its own: what follows it does not change how it
is read. -/
theorem decodeUtf8_append_of_utf8Char {c : List UInt8} (h : Utf8Char c) (t : List UInt8) :
    decodeUtf8 (c ++ t) = decodeUtf8 c ++ decodeUtf8 t := by
  cases h with
  | ascii h => simp [decodeUtf8, decodeFrom, atBoundary, lead_of_le_7F h]
  | two h₁ h₂ ht =>
    simp [decodeUtf8, decodeFrom, atBoundary, lead_of_two h₁ h₂, ht.1, ht.2]
  | @threeE0 b₁ b₂ b₃ h₁ h₂ h₃ ht | @threeED b₁ b₂ b₃ h₁ h₂ h₃ ht =>
    simp [decodeUtf8, decodeFrom, atBoundary, lead_of_three (b := b₁) (by omega) (by omega),
      h₁, h₂, h₃, ht.1, ht.2]
  | @three b₁ b₂ b₃ h₁ h₂ h₃ ht₂ ht₃ =>
    have h₄ : b₁.toNat ≠ 0xE0 := by omega
    simp [decodeUtf8, decodeFrom, atBoundary, lead_of_three (b := b₁) (by omega) h₂, h₃, h₄,
      ht₂.1, ht₂.2, ht₃.1, ht₃.2]
  | @fourF0 b₁ b₂ b₃ b₄ h₁ h₂ h₃ ht₃ ht₄ | @fourF4 b₁ b₂ b₃ b₄ h₁ h₂ h₃ ht₃ ht₄ =>
    simp [decodeUtf8, decodeFrom, atBoundary, lead_of_four (b := b₁) (by omega) (by omega),
      h₁, h₂, h₃, ht₃.1, ht₃.2, ht₄.1, ht₄.2]
  | @four b₁ b₂ b₃ b₄ h₁ h₂ ht₂ ht₃ ht₄ =>
    have h₄ : b₁.toNat ≠ 0xF0 := by omega
    have h₅ : b₁.toNat ≠ 0xF4 := by omega
    simp [decodeUtf8, decodeFrom, atBoundary, lead_of_four (b := b₁) (by omega) (by omega), h₄,
      h₅, ht₂.1, ht₂.2, ht₃.1, ht₃.2, ht₄.1, ht₄.2]

/-- **Homomorphism over a well-formed prefix**: decoding `a ++ t` decodes `a` and `t` apart. -/
theorem decodeUtf8_append {a : List UInt8} (h : Utf8 a) (t : List UInt8) :
    decodeUtf8 (a ++ t) = decodeUtf8 a ++ decodeUtf8 t := by
  induction h with
  | nil => simp [decodeUtf8, decodeFrom]
  | cons hc _ ih =>
    rw [List.append_assoc, decodeUtf8_append_of_utf8Char hc, decodeUtf8_append_of_utf8Char hc,
      ih, List.append_assoc]

/-- Decoding chunk by chunk gives the decoding of the whole stream when every chunk but the
last is well-formed. -/
theorem decodeUtf8_flatten :
    ∀ {chunks : List (List UInt8)}, (∀ c ∈ chunks.dropLast, Utf8 c) →
      (chunks.map decodeUtf8).flatten = decodeUtf8 chunks.flatten
  | [], _ => rfl
  | [c], _ => by simp
  | c :: c' :: cs, h => by
    have hc : Utf8 c := h c (by simp)
    have ih := @decodeUtf8_flatten (c' :: cs) fun d hd =>
      h d (by simp only [List.dropLast_cons₂, List.mem_cons] at hd ⊢; exact .inr hd)
    rw [List.map_cons, List.flatten_cons, ih, ← decodeUtf8_append hc, ← List.flatten_cons]

/-- `é` then `A`, cut after the `é`. -/
theorem decodeUtf8_flatten_cut_after_char :
    (∀ c ∈ ([[0xC3, 0xA9], [0x41]] : List (List UInt8)).dropLast, Utf8 c) ∧
      (([[0xC3, 0xA9], [0x41]] : List (List UInt8)).map decodeUtf8).flatten =
        decodeUtf8 ([[0xC3, 0xA9], [0x41]] : List (List UInt8)).flatten := by
  have h : ∀ c ∈ ([[0xC3, 0xA9], [0x41]] : List (List UInt8)).dropLast, Utf8 c := by
    intro c hc
    simp only [List.dropLast_cons₂, List.dropLast_single, List.mem_singleton] at hc
    subst hc
    exact Utf8.cons (t := []) (@Utf8Char.two 0xC3 0xA9 (by decide) (by decide)
      ⟨by decide, by decide⟩) .nil
  exact ⟨h, decodeUtf8_flatten h⟩

end MiracleCast
