import BuildHook.Text.Hex
import BuildHook.Toml.Scan

/-!
# TOML strings

A string stands on one line between single quotation marks or in a block between triple ones. Within
double quotation marks a backslash begins an escape; within apostrophes every character stands for
itself. Line ends in a block are line feeds, and the one right after its beginning is dropped.
-/

namespace BuildHook.Toml.Scan

/-- Characters that no string may hold. -/
def isControl (c : Char) : Bool := (c.toNat < 0x20 && c != '\t') || c.toNat = 0x7F

/-- Characters that stand for themselves within double quotation marks. -/
def isBasic (c : Char) : Bool := !isControl c && c != '"' && c != '\\'

/-- Characters that stand for themselves within apostrophes. -/
def isLiteral (c : Char) : Bool := !isControl c && c != '\''

/-- The value of hexadecimal digits in either case. -/
def hexValue? (value : Nat) : List Char → Option Nat
  | [] => some value
  | c :: rest =>
    if isWide c then none
    else do hexValue? (value * 16 + (← Hex.digitValue? (UInt8.ofNat c.toNat))) rest

/-- Takes a given number of hexadecimal digits as a code point. -/
def codePoint (digits : Nat) : Scan Char := do
  let s ← get
  let ds := s.take digits
  if ds.length < digits then failure
  set (s.drop digits)
  let n ← hexValue? 0 ds
  if n.isValidChar then return Char.ofNat n else failure

/-- Takes an escape whose backslash has been taken. -/
def escape : Scan Char := do
  match ← next with
  | 'b' => return '\x08'
  | 't' => return '\t'
  | 'n' => return '\n'
  | 'f' => return '\x0C'
  | 'r' => return '\r'
  | '"' => return '"'
  | '\\' => return '\\'
  | 'u' => codePoint 4
  | 'U' => codePoint 8
  | _ => failure

/-- Takes the rest of a one-line string between double quotation marks. -/
def basicRest : List Char → Scan (List Char)
  | [] => failure
  | _ :: turns => do
    let plain ← takeWhile isBasic
    match ← next with
    | '"' => return plain
    | '\\' => do
      let c ← escape
      return plain ++ c :: (← basicRest turns)
    | _ => failure

/-- Takes the rest of a one-line string between apostrophes. -/
def literalRest : Scan (List Char) := do
  let plain ← takeWhile isLiteral
  char '\''
  return plain

/-- What follows blanks and line ends. -/
def afterBlankLines : List Char → List Char
  | '\r' :: '\n' :: rest => afterBlankLines rest
  | c :: rest => if isSpace c || c = '\n' then afterBlankLines rest else c :: rest
  | [] => []

/-- Passes a line end, with blanks before it and blanks and line ends behind it, if this is what
follows a backslash. -/
def joinedLine? : Scan Bool := do
  let rest := (← get).dropWhile isSpace
  if ['\n'].isPrefixOf rest || ['\r', '\n'].isPrefixOf rest then do
    set (afterBlankLines rest)
    return true
  else return false

/-- Three quotation marks end a block; up to two more before them belong to it. What `quotes` marks
in a row leave to the block, if they end it. -/
def closing? (quotes : List Char) : Option (List Char) :=
  if 3 ≤ quotes.length then some (quotes.drop 3) else none

/-- The most quotation marks that can follow each other at the end of a block. -/
def maxClosing : Nat := 5

/-- Takes the rest of a block between double quotation marks. -/
def basicBlockRest : List Char → Scan (List Char)
  | [] => failure
  | _ :: turns => do
    let plain ← takeWhile isBasic
    match ← peek? with
    | some '"' => do
      let quotes ← takeWhile (· = '"')
      if maxClosing < quotes.length then failure
      match closing? quotes with
      | some inner => return plain ++ inner
      | none => return plain ++ quotes ++ (← basicBlockRest turns)
    | some '\\' => do
      let _ ← next
      if ← joinedLine? then return plain ++ (← basicBlockRest turns)
      else do
        let c ← escape
        return plain ++ c :: (← basicBlockRest turns)
    | _ =>
      if ← lineEnd? then return plain ++ '\n' :: (← basicBlockRest turns) else failure

/-- Takes the rest of a block between apostrophes. -/
def literalBlockRest : List Char → Scan (List Char)
  | [] => failure
  | _ :: turns => do
    let plain ← takeWhile isLiteral
    match ← peek? with
    | some '\'' => do
      let quotes ← takeWhile (· = '\'')
      if maxClosing < quotes.length then failure
      match closing? quotes with
      | some inner => return plain ++ inner
      | none => return plain ++ quotes ++ (← literalBlockRest turns)
    | _ =>
      if ← lineEnd? then return plain ++ '\n' :: (← literalBlockRest turns) else failure

/-- Takes a one-line string. -/
def lineString : Scan String := do
  match ← next with
  | '"' => return String.ofList (← basicRest (← turns))
  | '\'' => return String.ofList (← literalRest)
  | _ => failure

/-- Takes a string. -/
def string : Scan String := do
  if ← text? "\"\"\"" then do
    let _ ← lineEnd?
    return String.ofList (← basicBlockRest (← turns))
  else if ← text? "'''" then do
    let _ ← lineEnd?
    return String.ofList (← literalBlockRest (← turns))
  else lineString

end BuildHook.Toml.Scan
