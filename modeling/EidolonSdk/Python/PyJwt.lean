import EidolonSdk.Python.Json
import EidolonSdk.Python.Utf8

/-!
# The token package

{lit}`PyJWT` is not part of the repository.  What the code relies on is its
interface: {lit}`encode` turns a claim set into a compact token and
{lit}`decode` either returns the claim set of a token it trusts at the moment of
the call or raises.  Its own errors share one base class; an exception outside
that class is kept apart, because callers catch only the class.
-/

namespace EidolonSdk
namespace Python

inductive JwtKey where
  | text (secret : PyStr)
  | bytes (secret : Bytes)
  deriving DecidableEq

structure DecodeOptions where
  audience : Option PyStr
  require : List PyStr

inductive JwtFailure where
  | pyJwtError (message : PyStr)
  | foreign (e : PyException)

structure PyJwt where
  encode : Members -> JwtKey -> PyStr -> PyStr
  decode : PyStr -> JwtKey -> PyStr -> DecodeOptions -> Except JwtFailure Members

/-- A package that knows one token and the claim set it carries. -/
def oneTokenJwt (token : PyStr) (payload : Members) : PyJwt where
  encode _ _ _ := token
  decode presented _ _ _ :=
    if presented = token then .ok payload
    else .error (.pyJwtError (str "Not enough segments"))

theorem oneTokenJwt_decode (token : PyStr) (payload : Members) (key : JwtKey)
    (algorithm : PyStr) (options : DecodeOptions) :
    (oneTokenJwt token payload).decode token key algorithm options =
      .ok payload := by
  simp [oneTokenJwt]

end Python
end EidolonSdk
