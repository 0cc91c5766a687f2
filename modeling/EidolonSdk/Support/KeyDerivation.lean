import EidolonSdk.Support.Primitives

/-!
# Extract and expand

HKDF over HMAC.  The blocks of an expansion are chained: each is the HMAC of the
one before it, the information and its own number.  What an expansion gives is
the front of one stream, so a shorter key is the front of a longer one.
-/

namespace EidolonSdk
namespace Support

open Python

namespace Sha256

variable (hash : Sha256)

theorem hmac_length (key message : Bytes) : (hash.hmac key message).length = 32 :=
  hash.digest_length _

variable (prk info : Bytes)

/-- The blocks by their numbers; before the first stands an empty one. -/
def expandBlock : Nat -> Bytes
  | 0 => []
  | n + 1 => hash.hmac prk (expandBlock n ++ info ++ [byte (n + 1)])

/-- The first blocks of the stream. -/
def expandStream : Nat -> Bytes
  | 0 => []
  | n + 1 => expandStream n ++ hash.expandBlock prk info (n + 1)

variable {hash prk info}

theorem expandStream_length (n : Nat) :
    (hash.expandStream prk info n).length = 32 * n := by
  induction n with
  | zero => rfl
  | succ n ih =>
      have hblock : (hash.expandBlock prk info (n + 1)).length = 32 :=
        hash.hmac_length _ _
      rw [expandStream, List.length_append, ih, hblock]
      rfl

theorem expandStream_prefix {m n : Nat} (h : m ≤ n) :
    hash.expandStream prk info m <+: hash.expandStream prk info n := by
  induction h with
  | refl => exact List.prefix_refl _
  | step _ ih => exact ih.trans (List.prefix_append _ _)

/-- How much of the stream is computed does not matter for its front. -/
theorem take_expandStream {m n length : Nat} (hmn : m ≤ n)
    (hlength : length ≤ 32 * m) :
    (hash.expandStream prk info n).take length =
      (hash.expandStream prk info m).take length := by
  have hprefix : hash.expandStream prk info m <+: hash.expandStream prk info n :=
    expandStream_prefix hmn
  rcases hprefix with ⟨rest, hrest⟩
  have hfront : length ≤ (hash.expandStream prk info m).length := by
    rw [expandStream_length]
    exact hlength
  rw [← hrest, List.take_append_of_le_length hfront]

theorem expandStream_one :
    hash.expandStream prk info 1 = hash.hmac prk (info ++ [1]) := rfl

end Sha256

end Support
end EidolonSdk
