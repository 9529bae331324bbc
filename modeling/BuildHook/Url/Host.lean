import BuildHook.Http.Form
import BuildHook.Url.Domain.Basic

/-!
# Hosts

A host is an IPv6 address in brackets, an IPv4 address in one of several notations, or a domain. Each
has one normal form: four decimal numbers, groups of hexadecimal digits with the longest run of
zeros left out, or an ASCII form in lower case.
-/

namespace BuildHook.Url

/-- The value of the digits of a base, in either case; no digits stand for zero. -/
def numeral? (base : Nat) (s : List Char) : Option Nat :=
  s.foldlM (fun value c =>
    if c.toNat < 0x80 then
      ((Hex.digitValue? (UInt8.ofNat c.toNat)).filter (· < base)).map (value * base + ·)
    else none) 0

/-- A number of an IPv4 address: hexadecimal behind `0x`, octal behind `0`, else decimal. -/
def v4Number? (s : List Char) : Option Nat :=
  match s with
  | [] => none
  | ['0'] => some 0
  | '0' :: 'x' :: rest => numeral? 16 rest
  | '0' :: 'X' :: rest => numeral? 16 rest
  | '0' :: rest => numeral? 8 rest
  | s => numeral? 10 s

/-- The parts of a domain between dots, without an empty one at the end. -/
def domainParts (s : List Char) : List (List Char) :=
  let parts := Text.splitAll '.' s
  if 1 < parts.length && parts.getLast? = some [] then parts.dropLast else parts

/-- Whether a domain ends in a number, which makes it an IPv4 address or nothing. -/
def endsInNumber (s : List Char) : Bool :=
  match (domainParts s).getLast? with
  | none => false
  | some [] => false
  | some last => last.all Char.isDigit ||
      ((last.take 2 == ['0', 'x'] || last.take 2 == ['0', 'X']) && (v4Number? last).isSome)

/-- The value of an IPv4 address. All numbers but the last are bytes. -/
def v4Value? (s : List Char) : Option Nat := do
  let numbers ← (domainParts s).mapM v4Number?
  let last ← numbers.getLast?
  let bytes := numbers.dropLast
  if 3 < bytes.length || bytes.any (255 < ·) || Nat.pow 256 (4 - bytes.length) ≤ last then none
  else
    let high := bytes.foldl (fun value b => value * 256 + b) 0
    return high * Nat.pow 256 (4 - bytes.length) + last

/-- The normal form of an IPv4 address. -/
def v4Text (value : Nat) : String :=
  String.intercalate "." <| [3, 2, 1, 0].map fun place => toString (value / Nat.pow 256 place % 256)

/-- A byte in decimal digits without leading zeros. -/
def plainByte? (s : List Char) : Option Nat :=
  if s.isEmpty || (1 < s.length && s.head? = some '0') then none
  else (numeral? 10 s).filter (· ≤ 255)

/-- The two groups that an IPv4 address stands for inside an IPv6 address. -/
def v4Groups? (s : List Char) : Option (List Nat) := do
  match ← (Text.splitAll '.' s).mapM plainByte? with
  | [a, b, c, d] => return [a * 256 + b, c * 256 + d]
  | _ => none

/-- A group of up to four hexadecimal digits. -/
def v6Group? (s : List Char) : Option (List Nat) :=
  if s.isEmpty || 4 < s.length then none else (numeral? 16 s).map fun n => [n]

/-- The groups on one side of a gap. An IPv4 address may stand for the last two. -/
def v6Side? (lastSide : Bool) (s : List Char) : Option (List Nat) :=
  if s.isEmpty then some []
  else do
    let pieces := Text.splitAll ':' s
    let last ← pieces.getLast?
    let front ← pieces.dropLast.mapM v6Group?
    let back ← if lastSide && last.contains '.' then v4Groups? last else v6Group? last
    return front.flatten ++ back

/-- Splits at the first `::`. -/
def splitGap? : List Char → Option (List Char × List Char)
  | ':' :: ':' :: rest => some ([], rest)
  | c :: rest => (splitGap? rest).map fun (front, back) => (c :: front, back)
  | [] => none

/-- The eight groups of an IPv6 address. A gap stands for at least one group of zeros. -/
def v6Groups? (s : List Char) : Option (List Nat) :=
  match splitGap? s with
  | none => (v6Side? true s).filter (·.length == 8)
  | some (front, back) => do
    let front ← v6Side? false front
    let back ← v6Side? true back
    if front.length + back.length < 8 then
      return front ++ List.replicate (8 - front.length - back.length) 0 ++ back
    else none

/-- How many zeros stand in front. -/
def zerosInFront (groups : List Nat) : Nat := (groups.takeWhile (· == 0)).length

/-- The longest run of at least two zeros, as its position and length; the first of equals. -/
def longestZeros (groups : List Nat) : Option (Nat × Nat) :=
  (List.range groups.length).foldl (fun best position =>
    let run := zerosInFront (groups.drop position)
    if max 1 ((best.map (·.2)).getD 0) < run then some (position, run) else best) none

/-- Groups with colons between them. -/
def v6Joined (groups : List Nat) : String := String.intercalate ":" (groups.map Hex.ofNat)

/-- The normal form of an IPv6 address. -/
def v6Text (groups : List Nat) : String :=
  match longestZeros groups with
  | none => "[" ++ v6Joined groups ++ "]"
  | some (position, run) =>
    "[" ++ v6Joined (groups.take position) ++ "::" ++ v6Joined (groups.drop (position + run)) ++ "]"

/-- The normal form of a domain, given with escapes. -/
def domainText? (s : List Char) : Option String := do
  let decoded := Utf8.decodeLossy (Http.Form.unescape (Utf8.encode (String.ofList s)))
  let domain ← asciiDomain? decoded.toList
  if domain.isEmpty then none
  else if endsInNumber domain then (v4Value? domain).map v4Text
  else return String.ofList domain

/-- The normal form of a host. -/
def hostText? (s : List Char) : Option String :=
  match s with
  | '[' :: rest =>
    if rest.getLast? = some ']' then (v6Groups? rest.dropLast).map v6Text else none
  | s => domainText? s

end BuildHook.Url
