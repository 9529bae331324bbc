import BuildHook.Digest.Hmac
import BuildHook.Text.Hex

/-!
# Request signatures

A sender proves that it knows a project's secret by the keyed digest of the body, in hexadecimal
behind a label.
-/

namespace BuildHook.Signature

/-- What stands before the digits. -/
def label : String := "sha256="

/-- The signature of a body. -/
def sign (secret body : Bytes) : String := label ++ Hex.encode (Hmac.digest secret body)

/-- The bytes that a signature states, if it has the form of one. -/
def claimed? (header : Bytes) : Option Bytes := do
  Hex.decode? (← (Utf8.encode label).isPrefixOf? header)

/-- Whether a header value is the signature of the body. Digits may be in either case. -/
def verify (secret body header : Bytes) : Bool :=
  claimed? header == some (Hmac.digest secret body)

end BuildHook.Signature
