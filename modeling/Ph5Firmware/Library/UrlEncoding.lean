import Mathlib.Data.List.Basic
import Mathlib.Tactic.Common
import Mathlib.Tactic.IntervalCases

/-!
# Percent encoding

A component of a URL spells a byte as itself or as `%` and two hexadecimal digits.
`encode plain` spells those bytes as themselves for which `plain` holds, and every
writer of components is `encode plain` for some `plain` that holds only of the bytes
that mean nothing in a URL.

* `decode_encode`: a reader that undoes both spellings undoes `encode`.
* `not_mem_encode`: no separator stands in an encoded component.
-/

namespace UrlEncoding

/-- The digit `0` to `9` or `A` to `F` of a number below 16. -/
def hexDigit (number : ℕ) : UInt8 :=
  UInt8.ofNat (if number < 10 then 48 + number else 55 + number)

/-- The number a hexadecimal digit stands for, in either case. -/
def hexValue (digit : UInt8) : Option ℕ :=
  if 48 ≤ digit ∧ digit ≤ 57 then some (digit.toNat - 48)
  else if 65 ≤ digit ∧ digit ≤ 70 then some (digit.toNat - 55)
  else if 97 ≤ digit ∧ digit ≤ 102 then some (digit.toNat - 87)
  else none

/-- `%` and the two digits of a byte. -/
def escape (byte : UInt8) : List UInt8 :=
  [37, hexDigit (byte.toNat / 16), hexDigit (byte.toNat % 16)]

def encode (plain : UInt8 → Bool) (text : List UInt8) : List UInt8 :=
  text.flatMap fun byte => if plain byte then [byte] else escape byte

/-- The letters, the digits and ``- _ . ! ~ * ' ( )``. -/
def unreserved (byte : UInt8) : Bool :=
  (48 ≤ byte && byte ≤ 57) || (65 ≤ byte && byte ≤ 90) || (97 ≤ byte && byte ≤ 122) ||
    byte ∈ [45, 95, 46, 33, 126, 42, 39, 40, 41]

theorem hexValue_hexDigit {number : ℕ} (hnumber : number < 16) :
    hexValue (hexDigit number) = some number := by
  interval_cases number <;> decide

theorem unreserved_hexDigit {number : ℕ} (hnumber : number < 16) :
    unreserved (hexDigit number) = true := by
  interval_cases number <;> decide

theorem digits_lt (byte : UInt8) : byte.toNat / 16 < 16 ∧ byte.toNat % 16 < 16 := by
  have hbyte : byte.toNat < 256 := byte.toNat_lt
  omega

section Encode

variable {plain : UInt8 → Bool}

@[simp] theorem encode_nil : encode plain [] = [] := rfl

theorem encode_cons (byte : UInt8) (rest : List UInt8) :
    encode plain (byte :: rest) =
      (if plain byte then [byte] else escape byte) ++ encode plain rest := rfl

theorem encode_ne_nil (plain : UInt8 → Bool) {text : List UInt8} (htext : text ≠ []) :
    encode plain text ≠ [] := by
  obtain ⟨byte, rest, rfl⟩ := List.exists_cons_of_ne_nil htext
  rw [encode_cons]
  by_cases hplain : plain byte = true
  · rw [if_pos hplain]
    exact List.cons_ne_nil _ _
  · rw [if_neg hplain]
    exact List.cons_ne_nil _ _

/-- What stands in an encoded text means nothing in a URL, or is a `%`. -/
theorem mem_encode (hplain : ∀ byte, plain byte = true → unreserved byte = true)
    {text : List UInt8} {byte : UInt8} (hmem : byte ∈ encode plain text) :
    unreserved byte = true ∨ byte = 37 := by
  obtain ⟨source, -, hsource⟩ := List.mem_flatMap.mp hmem
  by_cases hsame : plain source = true
  · rw [if_pos hsame, List.mem_singleton] at hsource
    rw [hsource]
    exact .inl (hplain source hsame)
  · rw [if_neg hsame] at hsource
    obtain ⟨hhigh, hlow⟩ := digits_lt source
    simp only [escape, List.mem_cons, List.not_mem_nil, or_false] at hsource
    rcases hsource with rfl | rfl | rfl
    · exact .inr rfl
    · exact .inl (unreserved_hexDigit hhigh)
    · exact .inl (unreserved_hexDigit hlow)

theorem not_mem_encode (hplain : ∀ byte, plain byte = true → unreserved byte = true)
    {separator : UInt8} (hseparator : unreserved separator = false) (hpercent : separator ≠ 37)
    (text : List UInt8) : separator ∉ encode plain text := by
  intro hmem
  rcases mem_encode hplain hmem with hunreserved | heq
  · rw [hseparator] at hunreserved
    exact Bool.false_ne_true hunreserved
  · exact hpercent heq

/-- **A reader that undoes both spellings of a byte undoes the encoding.** -/
theorem decode_encode {decode : List UInt8 → List UInt8} (hnil : decode [] = [])
    (hsame : ∀ byte rest, plain byte = true → decode (byte :: rest) = byte :: decode rest)
    (hescape : ∀ byte rest, decode (escape byte ++ rest) = byte :: decode rest)
    (text : List UInt8) : decode (encode plain text) = text := by
  induction text with
  | nil => exact hnil
  | cons byte rest ih =>
      rw [encode_cons]
      by_cases hplain : plain byte = true
      · rw [if_pos hplain, List.singleton_append, hsame byte _ hplain, ih]
      · rw [if_neg hplain, hescape, ih]

end Encode

/-! ## Queries -/

/-- `name=value`. -/
def pair (plain : UInt8 → Bool) (param : List UInt8 × List UInt8) : List UInt8 :=
  encode plain param.1 ++ 61 :: encode plain param.2

/-- The pairs with `&` between them. -/
def query (plain : UInt8 → Bool) : List (List UInt8 × List UInt8) → List UInt8
  | [] => []
  | [param] => pair plain param
  | param :: next :: rest => pair plain param ++ 38 :: query plain (next :: rest)

theorem query_cons (plain : UInt8 → Bool) (param : List UInt8 × List UInt8)
    {rest : List (List UInt8 × List UInt8)} (hrest : rest ≠ []) :
    query plain (param :: rest) = pair plain param ++ 38 :: query plain rest := by
  obtain ⟨next, more, rfl⟩ := List.exists_cons_of_ne_nil hrest
  rfl

end UrlEncoding
