import BuildHook.Url.Host
import BuildHook.Url.Path

/-!
# URLs

A URL is read by the rules of web browsers: blanks around it and line breaks in it count for
nothing, and in the schemes of the web and of files a backslash is a slash and the path begins with
one.
-/

namespace BuildHook

/-- A URL. Its host is missing if it has no authority, and empty if the authority names none. Without
an authority, a path that begins with a slash is a list of segments, and any other is one text. -/
structure Url where
  scheme : String
  username : String
  password : String
  host : Option String
  port : Option Nat
  path : String
  query : Option String
  fragment : Option String

namespace Url

/-- The schemes that need a host, and their ports. -/
def webSchemes : List (String × Nat) :=
  [("http", 80), ("https", 443), ("ws", 80), ("wss", 443), ("ftp", 21)]

/-- The scheme of files, which needs no host. -/
def fileScheme : String := "file"

/-- Whether a scheme needs a host. -/
def needsHost (scheme : String) : Bool := webSchemes.any (·.1 == scheme)

/-- Whether a character counts for nothing at the ends of a URL. -/
def isPadding (c : Char) : Bool := c.toNat ≤ 0x20

/-- Whether a character counts for nothing anywhere in a URL. -/
def isBreak (c : Char) : Bool := c = '\t' || c = '\n' || c = '\r'

/-- The characters of a URL that count. -/
def cleaned (s : String) : List Char :=
  let front := s.toList.dropWhile isPadding
  (front.reverse.dropWhile isPadding).reverse.filter fun c => !isBreak c

/-- Characters of schemes behind the first one. -/
def isSchemeChar (c : Char) : Bool := c.isAlphanum || c = '+' || c = '-' || c = '.'

/-- Splits off the scheme, in lower case. -/
def scheme? (s : List Char) : Option (String × List Char) :=
  match s.dropWhile isSchemeChar with
  | ':' :: rest =>
    if s.head?.any Char.isAlpha then
      some (String.ofList ((s.takeWhile isSchemeChar).map Char.toLower), rest)
    else none
  | _ => none

/-- Splits off the first part that ends before a character of a class. -/
def before (ends : Char → Bool) (s : List Char) : List Char × List Char := s.span fun c => !ends c

/-- Splits off the query and the fragment, and escapes them. Special schemes escape more. -/
def tails (special : Bool) (s : List Char) : List Char × Option String × Option String :=
  let (front, fragment) := before (· = '#') s
  let (path, query) := before (· = '?') front
  let set := if special then querySet else querySet.filter (· != '\'')
  let shown (set : List Char) (part : List Char) : Option String :=
    match part with
    | [] => none
    | _ :: rest => some (String.ofList (escape set rest))
  (path, shown set query, shown fragmentSet fragment)

/-- Whether a character separates segments in special schemes. -/
def isSlash (c : Char) : Bool := c = '/' || c = '\\'

/-- A path of a special scheme without the slash in front. -/
def withoutSlash (path : List Char) : List Char :=
  if path.head?.any isSlash then path.drop 1 else path

/-- The segments of a path of a special scheme. -/
def specialSegments (path : List Char) : List (List Char) :=
  Text.splitAll '/' (path.map fun c => if c = '\\' then '/' else c)

/-- A port, unless it is the scheme's own. -/
def port? (scheme : String) (digits : List Char) : Option (Option Nat) :=
  if digits.isEmpty then some none
  else do
    let n ← (numeral? 10 digits).filter (· ≤ 65535)
    return if webSchemes.contains (scheme, n) then none else some n

/-- Splits a host from its port; colons inside brackets belong to the host. -/
def splitPort (inside : Bool) : List Char → List Char × Option (List Char)
  | [] => ([], none)
  | c :: rest =>
    if c = ':' && !inside then ([], some rest)
    else
      let (host, port) := splitPort (if c = '[' then true else if c = ']' then false else inside) rest
      (c :: host, port)

/-- Splits an authority at its last `@`. -/
def splitUser (authority : List Char) : Option (List Char) × List Char :=
  let host := (authority.reverse.takeWhile (· != '@')).reverse
  if authority.contains '@' then (some (authority.take (authority.length - host.length - 1)), host)
  else (none, host)

/-- The name and the password of user information. -/
def credentials (user : List Char) : String × String :=
  let (name, rest) := before (· = ':') user
  (String.ofList (escape userSet name), String.ofList (escape userSet (rest.drop 1)))

/-- The host of an authority. Only where none is needed it may be empty. -/
def hostOf? (needed : Bool) (s : List Char) : Option String :=
  if needed then hostText? s
  else if s.head? = some '[' then hostText? s
  else if s.any fun c => outsiders.contains c then none
  else some (String.ofList (escape [] s))

/-- Reads what follows the slashes in front of an authority. An authority with a user or a port names
a host. -/
def afterSlashes? (scheme : String) (s : List Char) : Option Url := do
  let needed := needsHost scheme
  let (authority, rest) :=
    before (fun c => c = '/' || c = '?' || c = '#' || (needed && c = '\\')) s
  let (user, hostPort) := splitUser authority
  let (host, port) := splitPort false hostPort
  let (username, password) := credentials (user.getD [])
  let hostName ← hostOf? needed host
  let bare := if user = some [] then rest.isEmpty else username = "" && password = ""
  if host.isEmpty && (port.isSome || !bare) then none
  else
    let (digits, more) := (port.getD []).span Char.isDigit
    if more.head?.any (· != '\\') then none
    else
      let (path, query, fragment) := tails needed (more ++ rest)
      let text :=
        if needed then segmentsText (resolve false [] (specialSegments (withoutSlash path)))
        else if path.isEmpty then ""
        else
          let path := if path.head? = some '/' then path.drop 1 else path
          segmentsText (resolve false [] (Text.splitAll '/' path))
      return ⟨scheme, username, password, some hostName, ← port? scheme digits, text, query, fragment⟩

/-- A file of a host. The segments that stand above the path are given in reverse order. A host counts
for nothing if a drive letter comes first. -/
def fileUrl (host : String) (above : List (List Char)) (s : List Char) : Url :=
  let (path, query, fragment) := tails true s
  let segments := resolve true above (specialSegments (withoutSlash path))
  let host := if segments.head?.any isDrive then "" else host
  ⟨fileScheme, "", "", some host, none, segmentsText (withoutEmptyFront segments), query, fragment⟩

/-- Reads what follows the scheme of files. Where a drive letter stands for a host, the path begins
with it. -/
def ofFile? (s : List Char) : Option Url :=
  match s.takeWhile isSlash with
  | _ :: _ :: _ =>
    let (host, rest) := before (fun c => isSlash c || c = '?' || c = '#') (s.drop 2)
    if isDrive host then some (fileUrl "" [] (s.drop 2))
    else if host.isEmpty then some (fileUrl "" [[]] rest)
    else do
      let host ← hostText? host
      if host = "localhost" then return fileUrl "" [[]] rest
      else return fileUrl host [] rest
  | _ => some (fileUrl "" [] s)

/-- Reads a URL. -/
def parse? (text : String) : Option Url := do
  let (scheme, rest) ← scheme? (cleaned text)
  if needsHost scheme then afterSlashes? scheme (rest.dropWhile isSlash)
  else if scheme = fileScheme then ofFile? rest
  else
    match rest with
    | '/' :: '/' :: rest => afterSlashes? scheme rest
    | rest =>
      let (path, query, fragment) := tails false rest
      let text :=
        if path.head? = some '/' then
          segmentsText (resolve false [] (Text.splitAll '/' (path.drop 1)))
        else String.ofList (escape [] path)
      return ⟨scheme, "", "", none, none, text, query, fragment⟩

/-- The user information in front of a host. -/
def userText (url : Url) : String :=
  if url.username = "" && url.password = "" then ""
  else url.username ++ (if url.password = "" then "" else ":" ++ url.password) ++ "@"

/-- What stands between the scheme and the path. Without an authority, nothing in a path may be taken
for one. -/
def authority (url : Url) : String :=
  match url.host with
  | none => if url.path.startsWith "//" then "/." else ""
  | some host => "//" ++ url.userText ++ host ++ match url.port with
    | some port => ":" ++ toString port
    | none => ""

/-- The path with the query, which is what is asked of a server. -/
def target (url : Url) : String :=
  url.path ++ match url.query with
    | some query => "?" ++ query
    | none => ""

/-- The text of a URL. -/
def render (url : Url) : String :=
  url.scheme ++ ":" ++ url.authority ++ url.target ++ match url.fragment with
    | some fragment => "#" ++ fragment
    | none => ""

/-- Whether a URL names a host. -/
def hasHost (url : Url) : Bool := url.host.any (· != "")

/-- Whether the escapes of a text stand for a text. -/
def isReadable (s : String) : Bool := (Utf8.decode? (Http.Form.unescape (Utf8.encode s))).isSome

/-- A URL without its user information, which is not shown. What cannot be read is left. -/
def withoutUser (url : Url) : Url :=
  let isGiven := url.username != "" || (url.password != "" && isReadable url.password)
  if isReadable url.username && isGiven then { url with username := "", password := "" } else url

/-- Whether the service can talk to what a URL names. -/
def isWeb (url : Url) : Bool := url.scheme == "http" || url.scheme == "https"

/-- The longest URL that can be asked for, in bytes. -/
def maxRequest : Nat := 65534

/-- Whether a URL is short enough to be asked for, and its host has only characters that hosts have. -/
def canBeAsked (url : Url) : Bool :=
  url.render.utf8ByteSize ≤ maxRequest &&
    !url.host.any fun host => host.toList.any ['"', '\x60', '\x7b', '\x7d'].contains

end Url

end BuildHook
