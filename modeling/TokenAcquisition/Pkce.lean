import TokenAcquisition.Digest.Sha256
import TokenAcquisition.Secret
import TokenAcquisition.Text.Base64Url
import TokenAcquisition.Text.Utf8

/-!
Proof keys for code exchange: the challenge travels with the authorization request, the verifier
only with the request that redeems the code.
-/

namespace TokenAcquisition

/-- The challenge of a verifier: its SHA-256 digest in Base64. -/
def challengeOf (verifier : String) : String :=
  Text.Base64Url.encode (Digest.Sha256.digest (Text.encode verifier))

structure Pkce where
  verifier : Secret
  challenge : String
  deriving DecidableEq, Repr

namespace Pkce

def method : String := "S256"

def ofVerifier (verifier : String) : Pkce :=
  { verifier := ⟨verifier⟩, challenge := challengeOf verifier }

def accepts (pkce : Pkce) (verifier : String) : Bool :=
  challengeOf verifier == pkce.challenge

@[simp]
theorem accepts_ofVerifier (verifier : String) : (ofVerifier verifier).accepts verifier = true := by
  simp [ofVerifier, accepts]

end Pkce

/-- Random bytes for one authorization request: twenty-four for its state, thirty-two for its
verifier. -/
structure Seeds where
  state : List UInt8
  verifier : List UInt8

namespace Seeds

def stateText (seeds : Seeds) : String :=
  Text.Base64Url.encode seeds.state

def pkce (seeds : Seeds) : Pkce :=
  .ofVerifier (Text.Base64Url.encode seeds.verifier)

end Seeds

end TokenAcquisition
