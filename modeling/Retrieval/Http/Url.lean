import Retrieval.Http.Host

/-!
# Addresses

The address of a resource that HTTP reaches: scheme, host, port, path and query.
Reading is lenient in the way of browsers.  Blanks around the text, tabs and
line ends within it and the name of a user do not count, a backslash is a slash,
dots in the path are resolved, and characters that may not stand in a path or a
query are escaped.  The fragment is no part of what is asked for.  A reference
is read beside an address that gives what the reference leaves out.
-/

namespace Retrieval

namespace Http

structure Url where
  secure : Bool
  host : Host
  port : Nat
  /-- The segments of the path, each with a slash before it. -/
  segments : List String
  query : Option String
  deriving DecidableEq, Repr

namespace Url

/-! ### Characters -/

/-- A blank or a control character, as it may surround an address. -/
def surrounds (character : Char) : Bool := character.toNat ≤ 0x20

def isLineSpace (character : Char) : Bool :=
  character == '\t' || character == '\n' || character == '\r'

def isSlash (character : Char) : Bool := character == '/' || character == '\\'

def isSchemeLetter (character : Char) : Bool :=
  character.isAlphanum || ['+', '-', '.'].contains character

def endsAuthority (character : Char) : Bool :=
  isSlash character || character == '?' || character == '#'

/-- A character that stands for itself in no part of an address. -/
def isEscapedThroughout (character : Char) : Bool :=
  character.toNat ≤ 0x20 || 0x7F ≤ character.toNat || ['\x22', '<', '>'].contains character

/-- A character that stands for itself neither in a path nor in a query. -/
def isEscaped (character : Char) : Bool := isEscapedThroughout character || character == '#'

def isEscapedInPath (character : Char) : Bool :=
  isEscaped character || ['?', '\x60', '\x7b', '\x7d'].contains character

def isEscapedInQuery (character : Char) : Bool := isEscaped character || character == '\x27'

def isEscapedInFragment (character : Char) : Bool :=
  isEscapedThroughout character || character == '\x60'

/-! ### Escapes -/

/-- A percent sign and the two digits of a byte. -/
def escapeByte (byte : UInt8) : List Char :=
  let digit (value : Nat) : Char := ((Nat.toDigits 16 value).getLastD '0').toUpper
  ['%', digit (byte.toNat / 16), digit (byte.toNat % 16)]

/-- The text with the bytes of some of its characters escaped. -/
def escape (escapes : Char → Bool) (text : List Char) : List Char :=
  text.flatMap fun character =>
    if escapes character then (String.ofList [character]).toUTF8.toList.flatMap escapeByte
    else [character]

/-! ### Parts -/

def tidied (text : String) : List Char :=
  let start := text.toList.dropWhile surrounds
  (start.reverse.dropWhile surrounds).reverse.filter fun character => !isLineSpace character

/-- The scheme, in small letters, and what comes after its colon. -/
def scheme? (text : List Char) : Option (String × List Char) :=
  let name := text.takeWhile isSchemeLetter
  match name.head?, text.dropWhile isSchemeLetter with
  | some first, ':' :: rest =>
      if first.isAlpha then some ((String.ofList name).toLower, rest) else none
  | _, _ => none

/-- The two schemes of HTTP; the answer tells whether the scheme is the secure one. -/
def secureScheme? : String → Option Bool
  | "http" => some false
  | "https" => some true
  | _ => none

def withoutUser (authority : List Char) : List Char :=
  (authority.reverse.takeWhile (· != '@')).reverse

def portLimit : Nat := 65535

def usualPort (secure : Bool) : Nat := if secure then 443 else 80

/-- What follows a host: nothing, or a colon and perhaps a number. -/
def port? (usual : Nat) : List Char → Option Nat
  | [] => some usual
  | [':'] => some usual
  | ':' :: digits =>
      if digits.all Char.isDigit && Digits.number digits ≤ portLimit then
        some (Digits.number digits)
      else none
  | _ => none

/-- The host in front of its port: up to a bracket that closes, or up to a colon. -/
def hostOf (authority : List Char) : List Char :=
  if authority.head? = some '[' then
    authority.takeWhile (· != ']') ++ (authority.dropWhile (· != ']')).take 1
  else authority.takeWhile (· != ':')

def authority? (usual : Nat) (authority : List Char) : Option (Host × Nat) := do
  let host := hostOf authority
  return (← Host.read? host, ← port? usual (authority.drop host.length))

/-! ### Paths and queries -/

/-- A segment with its escaped dots written out. -/
def plainDots (segment : List Char) : String :=
  (String.ofList segment).toLower.replace "%2e" "."

/-- The letter of a drive, and a sign behind it. -/
def isDrive : List Char → Bool
  | [letter, sign] => letter.isAlpha && (sign == ':' || sign == '|')
  | _ => false

/-- One segment back.  A drive is not left. -/
def back (before : List String) : List String :=
  if before.getLast?.any fun segment => isDrive segment.toList then before else before.dropLast

/-- The segments after some others, without dots: one dot stays, two go back. -/
def resolve (before : List String) : List (List Char) → List String
  | [] => before
  | segment :: rest =>
      let closing := if rest.isEmpty then [""] else []
      if plainDots segment = ".." then resolve (back before ++ closing) rest
      else if plainDots segment = "." then resolve (before ++ closing) rest
      else resolve (before ++ [String.ofList (escape isEscapedInPath segment)]) rest

/-- The path at the front of a text; the fragment is no part of the text. -/
def pathOf (text : List Char) : List Char := text.takeWhile (· != '?')

/-- The query behind the question mark of a text. -/
def queryOf (text : List Char) : Option String :=
  match text.dropWhile (· != '?') with
  | '?' :: query => some (String.ofList (escape isEscapedInQuery query))
  | _ => none

def segmentsAfter (before : List String) (path : List Char) : List String :=
  resolve before (path.splitOnP isSlash)

/-- The address with what stands behind its host. -/
def asking (url : Url) (before : List String) (text : List Char) : Url :=
  { url with segments := segmentsAfter before (pathOf text), query := queryOf text }

/-! ### Reading -/

def located? (secure : Bool) (text : List Char) : Option Url := do
  let authority := withoutUser (text.takeWhile (!endsAuthority ·))
  let (host, port) ← authority? (usualPort secure) authority
  let asked := text.dropWhile (!endsAuthority ·)
  let path := if (asked.head?.map isSlash).getD false then asked.drop 1 else asked
  return asking ⟨secure, host, port, [], none⟩ [] path

def withoutFragment (text : List Char) : List Char := text.takeWhile (· != '#')

/-- The address that a text gives; it has to name its scheme. -/
def read? (text : String) : Option Url := do
  let (scheme, rest) ← scheme? (withoutFragment (tidied text))
  located? (← secureScheme? scheme) (rest.dropWhile isSlash)

/-- The address of a reference that leaves out the scheme. -/
def beside? (base : Url) : List Char → Option Url
  | [] => some base
  | '/' :: '/' :: located => located? base.secure located
  | text =>
      match text.takeWhile isSlash, text.dropWhile isSlash with
      | [], '?' :: _ => some { base with query := queryOf text }
      | [], relative => some (base.asking base.segments.dropLast relative)
      | [_], path => some (base.asking [] path)
      | _, located => located? base.secure located

/-! ### Use -/

def target (url : Url) : String :=
  String.join (url.segments.map ("/" ++ ·)) ++
    match url.query with
    | none => ""
    | some query => "?" ++ query

def text (url : Url) : String :=
  let port := if url.port = usualPort url.secure then "" else ":" ++ toString url.port
  (if url.secure then "https://" else "http://") ++ url.host.text ++ port ++ url.target

/-- The greatest length of an address that is asked for, together with its fragment. -/
def lengthLimit : Nat := 65534

/-- The fragment of a text and the sign before it, as they count for the length of an address. -/
def fragmentLength (text : List Char) : Nat :=
  (escape isEscapedInFragment (text.dropWhile (· != '#'))).length

/-- An address that can be asked for if its fragment has some length. -/
def isAskable (url : Url) (fragment : Nat) : Bool :=
  url.host.isAskable && decide (url.text.utf8ByteSize + fragment ≤ lengthLimit)

/-- Two addresses on the same port of the same host. -/
def sharesOrigin (first second : Url) : Bool :=
  first.host == second.host && first.port == second.port

end Url

end Http

end Retrieval
