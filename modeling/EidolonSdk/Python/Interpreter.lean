import EidolonSdk.Python.Double
import EidolonSdk.Python.Text

/-!
# What a running interpreter brings along

Some answers of the standard library are tables rather than algorithms: the
Unicode case mappings, the printable and the decimal characters, the shortest
decimal text of a {lit}`float`, the zone of the process.  They are fields of one
record, with the laws the development relies on, and every result holds for
every such record.
-/

namespace EidolonSdk
namespace Python

/-- The exceptions of the standard library the modelled code can meet. -/
inductive PyException where
  | valueError
  | unicodeEncodeError
  | unicodeDecodeError
  | typeError
  | attributeError
  | keyError
  | overflowError
  | recursionError
  | patternError
  deriving DecidableEq

/-- `isinstance(exc, ValueError)`. -/
def PyException.isValueError : PyException -> Bool
  | .valueError => true
  | .unicodeEncodeError => true
  | .unicodeDecodeError => true
  | _ => false

def IsAscii (c : CodePoint) : Prop :=
  c.val < 0x80

instance (c : CodePoint) : Decidable (IsAscii c) :=
  inferInstanceAs (Decidable (_ < _))

def asciiLower (c : CodePoint) : CodePoint :=
  if 0x41 ≤ c.val ∧ c.val ≤ 0x5A then Fin.ofNat 0x110000 (c.val + 0x20) else c

def asciiUpper (c : CodePoint) : CodePoint :=
  if 0x61 ≤ c.val ∧ c.val ≤ 0x7A then Fin.ofNat 0x110000 (c.val - 0x20) else c

def asciiDigit (c : CodePoint) : Option Nat :=
  if 0x30 ≤ c.val ∧ c.val ≤ 0x39 then some (c.val - 0x30) else none

structure Interpreter where
  upper : PyStr -> PyStr
  lower : PyStr -> PyStr
  lower_ascii : forall s, (forall c, c ∈ s -> IsAscii c) ->
    lower s = s.map asciiLower
  /-- The decimal digit a character stands for in `int(text)`. -/
  decimal : CodePoint -> Option Nat
  decimal_ascii : forall c, IsAscii c -> decimal c = asciiDigit c
  printable : CodePoint -> Bool
  printable_surrogate : forall c, Surrogate c -> printable c = false
  floatRepr : Double -> String
  /-- The offset of the process's zone, in seconds, at a second of UTC. -/
  localOffset : Int -> Int

namespace Interpreter

variable (I : Interpreter)

/-!
## Reading an integer
-/

/-- The blanks `int` skips: those of the C locale, and every non-ASCII
whitespace, which is replaced by a space beforehand. -/
def isIntSpace (c : CodePoint) : Bool :=
  if c.val < 0x80 then (0x9 ≤ c.val && c.val ≤ 0xd) || c.val == 0x20
  else isSpace c

/-- Digits, with single underscores between them. -/
def digitRun : PyStr -> Option (List Nat)
  | [] => none
  | c :: rest => do
      let d ← I.decimal c
      match rest with
      | [] => some [d]
      | e :: more =>
          if e = codePoint '_' then do
            let tail ← digitRun more
            some (d :: tail)
          else do
            let tail ← digitRun (e :: more)
            some (d :: tail)

def maxStrDigits : Nat := 4300

/-- `int(text)`; `none` stands for `ValueError`. -/
def int (text : PyStr) : Option Int := do
  let body := (text.dropWhile isIntSpace).rdropWhile isIntSpace
  let (sign, digits) : Int × PyStr :=
    match body with
    | c :: rest =>
        if c = codePoint '-' then (-1, rest)
        else if c = codePoint '+' then (1, rest)
        else (1, body)
    | [] => (1, [])
  let values ← I.digitRun digits
  if maxStrDigits < values.length then none
  else some (sign * (values.foldl (fun n d => n * 10 + d) 0 : Nat))

end Interpreter

/-- An interpreter whose tables know the ASCII characters only. -/
def asciiInterpreter : Interpreter where
  upper s := s.map asciiUpper
  lower s := s.map asciiLower
  lower_ascii _ _ := rfl
  decimal := asciiDigit
  decimal_ascii _ _ := rfl
  printable c := decide (0x20 ≤ c.val ∧ c.val < 0x7F)
  printable_surrogate c h := by
    have hhigh : 0xD800 ≤ c.val := h.left
    have hnot : ¬ (0x20 ≤ c.val ∧ c.val < 0x7F) := by omega
    simp [hnot]
  floatRepr _ := "0.0"
  localOffset _ := 0

end Python
end EidolonSdk
