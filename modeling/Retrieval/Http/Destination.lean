import Retrieval.Http.Url

/-!
# Destinations

A reference leads to an address that HTTP reaches, or to one of another scheme.
Either has to be fit to be asked for.  An address of another scheme is fit if it
names a user and a host as addresses of every scheme do: behind two slashes, or,
where there are none, with the scheme as the user's or the host's name.
-/

namespace Retrieval

namespace Http

/-- What a reference leads to: an address that HTTP reaches, or one that it does not. -/
inductive Destination where
  | within (url : Url)
  | beyond
  deriving DecidableEq, Repr

/-! ### Users and hosts -/

/-- What counts while a user and a host are read: the colons, whether there is an escape, and
the brackets. -/
structure AuthorityScan where
  colons : Nat := 0
  isEscaped : Bool := false
  isOpen : Bool := false
  isClosed : Bool := false
  deriving DecidableEq, Repr

namespace AuthorityScan

def colonLimit : Nat := 8

/-- One character further.  Behind a user and behind brackets the count begins again. -/
def next? (scan : AuthorityScan) (character : Char) : Option AuthorityScan :=
  match character with
  | ':' => if scan.colons < colonLimit then some { scan with colons := scan.colons + 1 } else none
  | '[' => if scan.isEscaped || scan.isOpen then none else some { scan with isOpen := true }
  | ']' =>
      if scan.isOpen && !scan.isClosed then
        some { scan with colons := 0, isEscaped := false, isClosed := true }
      else none
  | '@' => some { scan with colons := 0, isEscaped := false }
  | '%' => some { scan with isEscaped := true }
  | _ => if Host.isLetter character then some scan else none

/-- One colon may be left for the port, and brackets have to be closed. -/
def isEnd (scan : AuthorityScan) : Bool :=
  scan.colons ≤ 1 && !scan.isEscaped && scan.isOpen == scan.isClosed

/-- The text is a user and a host, perhaps with a port. -/
def accepts (text : List Char) : Bool :=
  text.getLast? != some '@' && (text.foldlM next? {}).any isEnd

end AuthorityScan

/-! ### Other schemes -/

namespace Foreign

/-- Other schemes whose addresses name a host, however many slashes stand before it. -/
def hostSchemes : List String := ["ftp", "ws", "wss"]

def fileScheme : String := "file"

/-- The greatest length of a scheme in front of two slashes. -/
def schemeLimit : Nat := 64

def isEscaped (character : Char) : Bool := character.toNat < 0x20 || 0x7F ≤ character.toNat

/-- Where a host and its port end if a backslash is no slash. -/
def endsAuthority (character : Char) : Bool := ['/', '?', '#'].contains character

/-- A host that is not looked into, and its port.  Behind the port a backslash begins the path. -/
def isLocated (authority : List Char) : Bool :=
  let located := Url.withoutUser authority
  let host := Url.hostOf located
  let behind := located.drop host.length
  let port := if behind.head? = some ':' then behind.takeWhile (· != '\\') else behind
  let isHost :=
    if host.head? = some '[' then (Host.read? host).isSome
    else !host.isEmpty && host.all Host.isLetter
  isHost && (Url.port? 0 port).isSome

/-- The first segment of a path that stays after dots are resolved is a drive. -/
def entersDrive (before : List String) : List (List Char) → Bool
  | [] => false
  | segment :: rest =>
      if Url.plainDots segment = ".." then entersDrive before.dropLast rest
      else if Url.plainDots segment = "." then entersDrive before rest
      else before.isEmpty && Url.isDrive segment || entersDrive (before ++ [""]) rest

/-- A file on another machine.  Drives belong to the local one. -/
def isFile (text : List Char) : Bool :=
  match text with
  | first :: second :: rest =>
      let host := rest.takeWhile (!Url.endsAuthority ·)
      let asked := rest.dropWhile (!Url.endsAuthority ·)
      Url.isSlash first && Url.isSlash second && !Url.isDrive host &&
        !entersDrive [] ((Url.pathOf (asked.drop 1)).splitOnP Url.isSlash) &&
        (Host.read? host).any fun host => host != .word "localhost" && host.isAskable
  | _ => false

/-- An address of another scheme that is fit to be asked for. -/
def isFit (scheme : String) (text : List Char) : Bool :=
  let asked := Url.withoutFragment text
  let written := scheme.toList ++ ':' :: Url.escape isEscaped text
  if Url.lengthLimit < written.length then false
  else if hostSchemes.contains scheme then
    (Url.located? false (asked.dropWhile Url.isSlash)).any fun url => url.host.isAskable
  else if scheme = fileScheme then isFile asked
  else
    match text with
    | '/' :: '/' :: located =>
        scheme.length ≤ schemeLimit && isLocated (located.takeWhile (!endsAuthority ·))
    | _ => AuthorityScan.accepts written

end Foreign

/-! ### Destinations -/

namespace Url

def destination? (base : Url) (reference : String) : Option Destination :=
  let text := tidied reference
  let asked := withoutFragment text
  let within (url? : Option Url) : Option Destination :=
    (url?.filter (·.isAskable (fragmentLength text))).map .within
  match scheme? text with
  | none => within (base.beside? asked)
  | some (scheme, rest) =>
      match secureScheme? scheme with
      | none => if Foreign.isFit scheme rest then some .beyond else none
      | some secure =>
          let located := withoutFragment rest
          if secure = base.secure ∧ (located.takeWhile isSlash).length < 2 then
            within (base.beside? located)
          else within (located? secure (located.dropWhile isSlash))

end Url

end Http

end Retrieval
