import BuildHook.Io.Error

/-!
# Bind addresses

An address ends with a colon and a port. What stands before them is a matter of the network.
-/

namespace BuildHook.Address

/-- The highest port. -/
def maxPort : Nat := 65535

/-- The value of decimal digits. -/
def decimal? (digits : List Char) : Option Nat :=
  if digits.isEmpty || !digits.all Char.isDigit then none
  else some (digits.foldl (fun value c => value * 10 + (c.toNat - 48)) 0)

/-- The port that a text stands for; a plus sign may stand before it. -/
def port? (s : List Char) : Option Nat :=
  let digits := match s with
    | '+' :: rest => rest
    | s => s
  (decimal? digits).filter (· ≤ maxPort)

/-- Splits an address at its last colon. -/
def split? (address : String) : Option (String × List Char) :=
  let reversed := address.toList.reverse
  match reversed.dropWhile (· != ':') with
  | [] => none
  | _ :: host => some (String.ofList host.reverse, (reversed.takeWhile (· != ':')).reverse)

/-- The host and the port of an address. -/
def parse (address : String) : Except IoError (String × Nat) :=
  match split? address with
  | none => .error .invalidSocketAddress
  | some (host, port) =>
    match port? port with
    | none => .error .invalidPort
    | some n => .ok (host, n)

end BuildHook.Address
