import EidolonSdk.Python.JsonStrings
import EidolonSdk.Support.Primitives

/-!
# Octets as hexadecimal text

`bytes.fromhex` reads pairs of digits in either case and passes over ASCII white
space between two pairs.  It undoes `bytes.hex`.
-/

namespace EidolonSdk
namespace Support

open Python

/-- What {lit}`bytes.fromhex` passes over. -/
def isHexSpace (c : CodePoint) : Bool :=
  c.val = 0x20 || (0x9 ≤ c.val && c.val ≤ 0xD)

/-- {lit}`bytes.fromhex`. -/
def fromHex : PyStr -> Except PyException Bytes
  | [] => .ok []
  | [c] => if isHexSpace c then .ok [] else .error .valueError
  | c :: d :: rest =>
      if isHexSpace c then fromHex (d :: rest)
      else
        match Json.nibble c, Json.nibble d with
        | some top, some bottom =>
            (fromHex rest).map fun octets => byte (16 * top + bottom) :: octets
        | _, _ => .error .valueError

theorem isHexSpace_hexDigit {n : Nat} (h : n < 16) :
    isHexSpace (Json.hexDigit n) = false := by
  have hall : forall n, n < 16 -> isHexSpace (Json.hexDigit n) = false := by decide
  exact hall n h

theorem hex_cons (b : Byte) (octets : Bytes) :
    hex (b :: octets) = Json.hexDigit (b.val / 16 % 16) ::
      Json.hexDigit (b.val % 16) :: hex octets := by
  simp [hex, Json.hexText, List.range_succ]

theorem fromHex_hex (octets : Bytes) : fromHex (hex octets) = .ok octets := by
  induction octets with
  | nil => rfl
  | cons b octets ih =>
      have htop : b.val / 16 % 16 < 16 := Nat.mod_lt _ (by decide)
      have hbottom : b.val % 16 < 16 := Nat.mod_lt _ (by decide)
      have hvalue : 16 * (b.val / 16 % 16) + b.val % 16 = b.val := by
        have := b.isLt
        omega
      rw [hex_cons, fromHex, isHexSpace_hexDigit htop, Json.nibble_hexDigit htop,
        Json.nibble_hexDigit hbottom, ih]
      show Except.ok (byte (16 * (b.val / 16 % 16) + b.val % 16) :: octets) = _
      rw [byte_eq hvalue]

end Support
end EidolonSdk
