import EidolonSdk.Dart.Core
import EidolonSdk.Dart.PercentEncoding
import EidolonSdk.Python.Decimal

/-!
# Dart integers

{lit}`int.tryParse`: white space around, a sign, decimal or hexadecimal digits,
and a value of 64 bits.  It reads back whatever {lit}`int.toString` writes.
-/

namespace EidolonSdk
namespace Dart

open Python

def isDigit (c : CodePoint) : Bool :=
  among "0123456789" c

def decimal (digits : PyStr) : Nat :=
  digits.foldl (fun n c => 10 * n + (c.val - 0x30)) 0

/-- What `String.trim` takes away. -/
def isWhitespace (c : CodePoint) : Bool :=
  (isSpace c && !decide (0x1C ≤ c.val ∧ c.val ≤ 0x1F)) || c.val == 0xFEFF

def isHexadecimal : PyStr -> Bool
  | c :: d :: _ => c == codePoint '0' && among "xX" d
  | _ => false

/-- Decimal digits, or hexadecimal ones behind their mark. -/
def naturalTryParse (digits : PyStr) : Option Nat :=
  if isHexadecimal digits = true then
    if digits.drop 2 ≠ [] ∧ (digits.drop 2).all isHexDigit = true then
      some ((digits.drop 2).foldl (fun n c => 16 * n + hexDigitValue c) 0)
    else none
  else if digits ≠ [] ∧ digits.all isDigit = true then some (decimal digits)
  else none

/-- Without a minus, hexadecimal digits may be the 64 bits of a negative number. -/
def unsignedTryParse (digits : PyStr) : Option Int :=
  (naturalTryParse digits).map fun n : Nat =>
    if isHexadecimal digits = true ∧ 2 ^ 63 ≤ n ∧ n < 2 ^ 64 then
      (n : Int) - 2 ^ 64
    else n

/-- `int.tryParse`. -/
def intTryParse (s : PyStr) : Option Int :=
  let body := (s.dropWhile isWhitespace).rdropWhile isWhitespace
  let value : Option Int :=
    match body with
    | c :: rest =>
        if c = codePoint '-' then (naturalTryParse rest).map fun n : Nat => -(n : Int)
        else if c = codePoint '+' then unsignedTryParse rest
        else unsignedTryParse body
    | [] => none
  value.filter fun n => decide (inInt64 n)

/-!
## Reading back
-/

theorem isDigit_of_decimal {c : CodePoint} (h : IsDecimalDigit c) :
    isDigit c = true := by
  have hall : forall n, n < 10 ->
      isDigit (Fin.ofNat 0x110000 (0x30 + n)) = true := by decide
  have hdigit := hall (c.val - 0x30) (by have := h.right; omega)
  rw [show 0x30 + (c.val - 0x30) = c.val by have := h.left; omega] at hdigit
  rwa [show Fin.ofNat 0x110000 c.val = c from
    Fin.ext (Nat.mod_eq_of_lt c.isLt)] at hdigit

theorem all_isDigit_naturalText (n : Nat) :
    (naturalText n).all isDigit = true :=
  List.all_eq_true.mpr fun _ hc => isDigit_of_decimal (mem_naturalText hc)

theorem decimal_naturalText (n : Nat) : decimal (naturalText n) = n := by
  unfold decimal naturalText
  rw [List.foldl_map]
  exact Nat.ofDigitChars_ten_toDigits (n := n)

/-- Decimal digits carry no mark of hexadecimal ones. -/
theorem isHexadecimal_digits {digits : PyStr} (h : digits.all isDigit = true) :
    isHexadecimal digits = false := by
  have hall : (str "0123456789").all (fun c => !among "xX" c) = true := by
    decide
  match digits with
  | [] => rfl
  | [_] => rfl
  | c :: d :: rest =>
      have hd : isDigit d = true :=
        List.all_eq_true.mp h d (List.mem_cons_of_mem c List.mem_cons_self)
      have hmark := List.all_eq_true.mp hall d (List.contains_iff_mem.mp hd)
      rw [isHexadecimal, Bool.and_eq_false_iff]
      exact Or.inr (by simpa using hmark)

theorem naturalTryParse_naturalText (n : Nat) :
    naturalTryParse (naturalText n) = some n := by
  have hdigits := all_isDigit_naturalText n
  unfold naturalTryParse
  rw [if_neg (by rw [isHexadecimal_digits hdigits]; nofun),
    if_pos ⟨naturalText_ne_nil n, hdigits⟩, decimal_naturalText]

theorem unsignedTryParse_naturalText (n : Nat) :
    unsignedTryParse (naturalText n) = some (n : Int) := by
  unfold unsignedTryParse
  rw [naturalTryParse_naturalText, Option.map_some, if_neg]
  intro h
  rw [isHexadecimal_digits (all_isDigit_naturalText n)] at h
  cases h.left

theorem not_whitespace_intText {n : Int} {c : CodePoint} (h : c ∈ intText n) :
    isWhitespace c = false := by
  rcases mem_intText h with heq | hdigit
  · rw [heq]
    decide
  · have hall : (str "0123456789").all (fun c => !isWhitespace c) = true := by
      decide
    have hlisted := List.all_eq_true.mp hall c
      (List.contains_iff_mem.mp (isDigit_of_decimal hdigit))
    simpa using hlisted

theorem trim_intText (n : Int) :
    ((intText n).dropWhile isWhitespace).rdropWhile isWhitespace = intText n := by
  have hfront : (intText n).dropWhile isWhitespace = intText n := by
    rw [List.dropWhile_eq_self_iff]
    intro hlength
    simp [not_whitespace_intText (List.getElem_mem hlength)]
  rw [hfront, List.rdropWhile_eq_self_iff]
  intro hne
  simp [not_whitespace_intText (List.getLast_mem hne)]

/-- What is written is read back. -/
theorem intTryParse_intText {n : Int} (h : inInt64 n) :
    intTryParse (intText n) = some n := by
  have hnonneg : forall m : Nat, n = m -> intTryParse (intText n) = some n := by
    intro m hm
    have htext : intText n = naturalText m := by
      rw [intText_nonneg (by omega), hm, Int.toNat_natCast]
    have hparse := unsignedTryParse_naturalText m
    unfold intTryParse
    rw [trim_intText, htext]
    cases hdigits : naturalText m with
    | nil => exact absurd hdigits (naturalText_ne_nil m)
    | cons c rest =>
        have hc : IsDecimalDigit c := mem_naturalText (hdigits ▸ List.mem_cons_self)
        have hminus : c ≠ codePoint '-' := fun heq => not_digit_minus (heq ▸ hc)
        have hplus : c ≠ codePoint '+' := by
          intro heq
          have hlow : 0x30 ≤ 0x2B := (heq ▸ hc).left
          omega
        rw [hdigits] at hparse
        simp only [if_neg hminus, if_neg hplus, hparse]
        exact Option.filter_eq_some_iff.mpr
          ⟨congrArg some hm.symm, decide_eq_true h⟩
  by_cases hn : 0 ≤ n
  · exact hnonneg n.toNat (by omega)
  · have hparse := naturalTryParse_naturalText (-n).toNat
    unfold intTryParse
    rw [trim_intText, intText_neg hn]
    simp only [if_true, hparse, Option.map_some]
    refine Option.filter_eq_some_iff.mpr ⟨?_, decide_eq_true h⟩
    rw [show -((-n).toNat : Int) = n by omega]

theorem inInt64_of_intTryParse {s : PyStr} {n : Int}
    (h : intTryParse s = some n) : inInt64 n :=
  of_decide_eq_true (Option.filter_eq_some_iff.mp h).right

end Dart
end EidolonSdk
