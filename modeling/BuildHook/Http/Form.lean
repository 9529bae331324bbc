import BuildHook.Text.Hex
import BuildHook.Text.Split

/-!
# Form encoding

Pairs of names and values in one text: pairs are joined by `&` and a name to its value by `=`; `+`
stands for a space and `%` with two hexadecimal digits for a byte. Every text can be read.
-/

namespace BuildHook.Http.Form

/-- Reads the escapes of bytes. What is no complete escape stands for itself. -/
def unescape : Bytes → Bytes
  | [] => []
  | [b] => [b]
  | [b, c] => [b, c]
  | b :: c :: d :: rest =>
    if b = 37 then
      match Hex.digitValue? c, Hex.digitValue? d with
      | some high, some low => UInt8.ofNat (high * 16 + low) :: unescape rest
      | _, _ => b :: unescape (c :: d :: rest)
    else b :: unescape (c :: d :: rest)
  termination_by bytes => bytes.length

/-- The text that a name or value stands for. -/
def decode (part : Bytes) : String :=
  Utf8.decodeLossy (unescape (part.map fun b => if b = 43 then 32 else b))

/-- Splits a pair at its first `=`; without one the value is empty. -/
def pair (piece : Bytes) : String × String :=
  (decode (piece.takeWhile (· != 61)), decode ((piece.dropWhile (· != 61)).drop 1))

/-- The pairs of a text. Empty pieces are none. -/
def pairs (text : String) : List (String × String) :=
  ((Text.splitAll 38 (Utf8.encode text)).filter fun piece => !piece.isEmpty).map pair

/-- The last value of a name. -/
def value? (text name : String) : Option String :=
  (((pairs text).filter fun pair => pair.1 == name).getLast?).map (·.2)

end BuildHook.Http.Form
