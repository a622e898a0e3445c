import Mathlib.Data.List.Basic

/-!
# Python's digit classes: `str.strip`, `str.isdigit` and `int`

`build_universal_cmd` validates each numeric field of the source tab in three steps:
`str.strip`, then `str.isdigit`, then `int`. The three read different classes of Python's
Unicode database. `isdigit` accepts every character whose `Numeric_Type` is `Digit` or
`Decimal`, while `int` converts only the `Decimal` ones (category `Nd`), through
`Py_UNICODE_TODECIMAL`; `strip` removes the characters of `Py_UNICODE_ISSPACE`.

`CharTable` packages the three classes with the facts the database guarantees about them,
so that a table that breaks them cannot be built. `unicode15` is the table of Unicode 15.0,
the version CPython 3.12 ships; every result of the development except the concrete failing
inputs holds for an arbitrary table. `Python` adds the interpreter's `int_max_str_digits`
limit (4300 by default since CPython 3.11, `0` for no limit).

`intOfDigits` is `int` restricted to the strings it is called on here, which `isdigit` has
already accepted: such a string has no sign, no `_` and no whitespace, so `int`'s handling of
those never applies.
-/

namespace MiracleCast

/-- The exception `int` raises on a text it cannot convert, with that text. -/
inductive PyError
  | valueError (literal : String)
  deriving DecidableEq, Repr

/-- Equality of outcomes, so that the end of a run can be compared by `decide`. -/
instance instDecidableEqExcept {ε α : Type} [DecidableEq ε] [DecidableEq α] :
    DecidableEq (Except ε α)
  | .ok a, .ok b => decidable_of_iff (a = b) (by simp)
  | .error a, .error b => decidable_of_iff (a = b) (by simp)
  | .ok _, .error _ => isFalse Except.noConfusion
  | .error _, .ok _ => isFalse Except.noConfusion

/-- The three character classes of Python's Unicode database that the validation reads, `\d`
of `re` being the decimal one. -/
structure CharTable where
  /-- `Py_UNICODE_TODECIMAL`: the value of a decimal digit (category `Nd`). -/
  decimal : Char → Option Nat
  /-- `Py_UNICODE_ISDIGIT`: `Numeric_Type` is `Digit` or `Decimal`. -/
  isDigit : Char → Bool
  /-- `Py_UNICODE_ISSPACE`. -/
  isSpace : Char → Bool
  decimal_lt_ten : ∀ c d, decimal c = some d → d < 10
  isDigit_of_decimal : ∀ c d, decimal c = some d → isDigit c = true
  /-- `:` (U+003A, category `Po`) is not a decimal digit. -/
  decimal_colon : decimal ':' = none

/-! ### Unicode 15.0 -/

/-- First code points of the 68 runs `0`–`9` of category `Nd` in Unicode 15.0. -/
def ndRunStarts : List Nat :=
  [0x0030, 0x0660, 0x06F0, 0x07C0, 0x0966, 0x09E6, 0x0A66, 0x0AE6, 0x0B66, 0x0BE6, 0x0C66,
   0x0CE6, 0x0D66, 0x0DE6, 0x0E50, 0x0ED0, 0x0F20, 0x1040, 0x1090, 0x17E0, 0x1810, 0x1946,
   0x19D0, 0x1A80, 0x1A90, 0x1B50, 0x1BB0, 0x1C40, 0x1C50, 0xA620, 0xA8D0, 0xA900, 0xA9D0,
   0xA9F0, 0xAA50, 0xABF0, 0xFF10, 0x104A0, 0x10D30, 0x11066, 0x110F0, 0x11136, 0x111D0,
   0x112F0, 0x11450, 0x114D0, 0x11650, 0x116C0, 0x11730, 0x118E0, 0x11950, 0x11C50, 0x11D50,
   0x11DA0, 0x11F50, 0x16A60, 0x16AC0, 0x16B50, 0x1D7CE, 0x1D7D8, 0x1D7E2, 0x1D7EC, 0x1D7F6,
   0x1E140, 0x1E2F0, 0x1E4F0, 0x1E950, 0x1FBF0]

/-- The 128 characters whose `Numeric_Type` is `Digit` but not `Decimal` in Unicode 15.0
(superscripts, subscripts, circled and parenthesised digits, …), as inclusive ranges. -/
def digitOnlyRanges : List (Nat × Nat) :=
  [(0xB2, 0xB3), (0xB9, 0xB9), (0x1369, 0x1371), (0x19DA, 0x19DA), (0x2070, 0x2070),
   (0x2074, 0x2079), (0x2080, 0x2089), (0x2460, 0x2468), (0x2474, 0x247C), (0x2488, 0x2490),
   (0x24EA, 0x24EA), (0x24F5, 0x24FD), (0x24FF, 0x24FF), (0x2776, 0x277E), (0x2780, 0x2788),
   (0x278A, 0x2792), (0x10A40, 0x10A43), (0x10E60, 0x10E68), (0x11052, 0x1105A),
   (0x1F100, 0x1F10A)]

/-- The characters of `Py_UNICODE_ISSPACE`, as inclusive ranges. -/
def spaceRanges : List (Nat × Nat) :=
  [(0x09, 0x0D), (0x1C, 0x20), (0x85, 0x85), (0xA0, 0xA0), (0x1680, 0x1680),
   (0x2000, 0x200A), (0x2028, 0x2029), (0x202F, 0x202F), (0x205F, 0x205F), (0x3000, 0x3000)]

/-- Whether `n` lies in one of the inclusive ranges `rs`. -/
def inRanges (rs : List (Nat × Nat)) (n : Nat) : Bool :=
  rs.any fun r => r.1 ≤ n && n ≤ r.2

/-- `Py_UNICODE_TODECIMAL` for Unicode 15.0: the offset of `c` in its `Nd` run. -/
def ndDecimal (c : Char) : Option Nat :=
  (ndRunStarts.find? fun s => s ≤ c.toNat && c.toNat < s + 10).map (c.toNat - ·)

theorem ndDecimal_lt_ten {c : Char} {d : Nat} (h : ndDecimal c = some d) : d < 10 := by
  obtain ⟨s, hs, rfl⟩ := Option.map_eq_some'.mp h
  have := List.find?_some hs
  simp only [Bool.and_eq_true, decide_eq_true_eq] at this
  omega

/-- The character table of Unicode 15.0. -/
def unicode15 : CharTable where
  decimal := ndDecimal
  isDigit c := (ndDecimal c).isSome || inRanges digitOnlyRanges c.toNat
  isSpace c := inRanges spaceRanges c.toNat
  decimal_lt_ten _ _ := ndDecimal_lt_ten
  isDigit_of_decimal _ _ h := by simp [h]
  decimal_colon := by decide

/-- The interpreter: its character table and its `int_max_str_digits` setting. -/
structure Python where
  chars : CharTable
  maxStrDigits : Nat

/-- CPython 3.12 with its default settings. -/
def cpython312 : Python := ⟨unicode15, 4300⟩

/-! ### The three string operations -/

section Strings

variable (T : CharTable)

/-- `str.isdigit`: the string is non-empty and every character is a digit. -/
def isdigit (s : String) : Bool :=
  !s.toList.isEmpty && s.toList.all T.isDigit

/-- `str.strip()`: drop whitespace at both ends. -/
def strip (s : String) : String :=
  ⟨((s.toList.dropWhile T.isSpace).reverse.dropWhile T.isSpace).reverse⟩

/-- The decimal values of a list of characters, if every one has one. -/
def decimals : List Char → Option (List Nat)
  | [] => some []
  | c :: cs => (T.decimal c).bind fun d => (decimals cs).map (d :: ·)

@[simp] theorem decimals_nil : decimals T [] = some [] := rfl

theorem length_of_decimals {cs : List Char} {ds : List Nat} (h : decimals T cs = some ds) :
    ds.length = cs.length := by
  induction cs generalizing ds with
  | nil => simp_all
  | cons c cs ih =>
    obtain ⟨d, -, h⟩ := Option.bind_eq_some.mp h
    obtain ⟨ds', hs, rfl⟩ := Option.map_eq_some'.mp h
    simp [ih hs]

end Strings

/-- The value of a list of decimal digits, most significant first. -/
def digitsValue (ds : List Nat) : Nat :=
  ds.foldl (fun n d => 10 * n + d) 0

/-- `_PY_LONG_MAX_STR_DIGITS_THRESHOLD`: below this many digits `int` skips the
`int_max_str_digits` check. -/
def maxStrDigitsThreshold : Nat := 640

/-- Whether `int` refuses a string of `n` digits under the interpreter's
`int_max_str_digits` setting. -/
def exceedsMaxStrDigits (py : Python) (n : Nat) : Bool :=
  decide (maxStrDigitsThreshold < n ∧ 0 < py.maxStrDigits ∧ py.maxStrDigits < n)

/-- `int(s)` on a string that `str.isdigit` accepted: each character goes through
`Py_UNICODE_TODECIMAL`, and a character without a decimal value, or more digits than
`int_max_str_digits` allows, raises `ValueError`. -/
def intOfDigits (py : Python) (s : String) : Except PyError Nat :=
  match decimals py.chars s.toList with
  | none => .error (.valueError s)
  | some ds => if exceedsMaxStrDigits py ds.length then .error (.valueError s)
    else .ok (digitsValue ds)

/-- **`int` on a digit string**: it returns exactly when every character is decimal and the
digit count is within the limit, and it returns the decimal value of those digits. -/
theorem intOfDigits_eq_ok_iff {py : Python} {s : String} {v : Nat} :
    intOfDigits py s = .ok v ↔ ∃ ds, decimals py.chars s.toList = some ds ∧
      exceedsMaxStrDigits py s.length = false ∧ digitsValue ds = v := by
  unfold intOfDigits
  cases h : decimals py.chars s.toList with
  | none => simp
  | some ds =>
    have hlen := length_of_decimals py.chars h
    simp only [String.length, ← hlen]
    split <;> simp_all

end MiracleCast
