import DnsForwarder.Url.Host

/-!
# URLs

A URL that names a server on the web is taken apart and put together in its
normal form: scheme and host in lowercase, dots in the path resolved, everything
encoded that has to be, and no number that goes without saying for the scheme.
Of any other URL only the scheme is kept, but what is wrong with its host is
found.

A text is read without its blanks and controls at both ends and without its tabs
and line ends; on the web a backslash counts as a slash.
-/

namespace DnsForwarder.Url

/-- A URL on the web. -/
structure Web where
  scheme : List Char
  username : List Char
  password : List Char
  host : Host
  portNumber : Option Nat
  path : List (List Char)
  query : Option (List Char)
  fragment : Option (List Char)
deriving DecidableEq, Repr

end Url

inductive Url
  | web (address : Url.Web)
  | other (scheme : List Char)
deriving DecidableEq, Repr

namespace Url

/-! ## Scheme -/

def isSchemeCharacter (c : Char) : Bool := c.isAlphanum || c ∈ ['+', '-', '.']

/-- The scheme in lowercase, and what is behind its colon. -/
def splitScheme (text : List Char) : Option (List Char × List Char) :=
  match text.takeWhile isSchemeCharacter, text.dropWhile isSchemeCharacter with
  | c :: scheme, ':' :: rest =>
    if c.isAlpha then some ((c :: scheme).map Char.toLower, rest) else none
  | _, _ => none

/-- The number that goes without saying; only the schemes of the web have one. -/
def defaultNumber? (scheme : List Char) : Option Nat :=
  match String.ofList scheme with
  | "http" | "ws" => some 80
  | "https" | "wss" => some 443
  | "ftp" => some 21
  | _ => none

/-! ## Authority -/

/-- Whether a character ends the part of a URL that names a server. -/
def endsAuthority (onWeb : Bool) (c : Char) : Bool :=
  c == '/' || c == '?' || c == '#' || (onWeb && c == '\\')

/-- The text around the last `@`. -/
def splitLastAt (text : List Char) : Option (List Char × List Char) :=
  (Text.splitOnce '@' text.reverse).map fun (back, front) => (front.reverse, back.reverse)

/-- The name and the password of a user, and what is behind them. -/
def splitUser (onWeb : Bool) (text : List Char) :
    Except UrlFault (List Char × List Char × List Char) :=
  let (authority, rest) := text.span fun c => !endsAuthority onWeb c
  match splitLastAt authority with
  | none => .ok ([], [], text)
  | some (user, server) =>
    if user.isEmpty ∧ server.isEmpty ∧ ¬rest.isEmpty then .error .emptyHost
    else
      let (name, password) := (Text.splitOnce ':' user).getD (user, [])
      .ok (encode userinfoSet name, encode userinfoSet password, server ++ rest)

/-- The host at the start of a text; a colon in brackets belongs to it. -/
def spanHost (onWeb bracketed : Bool) : List Char → List Char × List Char
  | [] => ([], [])
  | c :: rest =>
    if (c = ':' ∧ ¬bracketed) ∨ endsAuthority onWeb c then ([], c :: rest)
    else
      let (host, rest) := spanHost onWeb (c == '[' || (bracketed && c != ']')) rest
      (c :: host, rest)

/-- The number behind the colon of a host, and what is behind it. -/
def splitNumber (text : List Char) : Except UrlFault (Option Nat × List Char) :=
  match text with
  | ':' :: rest =>
    let (digits, rest) := rest.span Text.isDecimal
    let number := Text.ofDigits? 10 digits
    if number.any (65535 < ·) ∨ (rest.head?.any fun c => !endsAuthority true c) then
      .error .badPortNumber
    else .ok (number, rest)
  | rest => .ok (none, rest)

/-! ## Path -/

/-- How a segment of a path is written in lowercase with its dots decoded. -/
def dots : List Char → List Char
  | [] => []
  | '%' :: '2' :: 'e' :: rest | '%' :: '2' :: 'E' :: rest => '.' :: dots rest
  | c :: rest => c :: dots rest

/-- Whether a segment is the letter of a drive. -/
def isDrive : List Char → Bool
  | [letter, mark] => letter.isAlpha && (mark == ':' || mark == '|')
  | _ => false

/-- The segments that two dots leave of those before them, the last one first: all
but the last, which stays if it is the letter of a drive. -/
def parentOf (parents : List (List Char)) : List (List Char) :=
  if parents.head?.any isDrive then parents else parents.tail

/-- Resolves the segments that consist of dots; `parents` are those before, the
last one first.  A path that ends in such a segment ends with a slash. -/
def resolve (parents : List (List Char)) : List (List Char) → List (List Char)
  | [] => parents.reverse
  | segment :: rest =>
    let (parents, shown) :=
      if dots segment = ['.', '.'] then (parentOf parents, [])
      else if dots segment = ['.'] then (parents, [])
      else (parents, [encode pathSet segment])
    match rest, shown with
    | [], [] => ([] :: parents).reverse
    | rest, shown => resolve (shown ++ parents) rest

/-- The segments of the path behind an authority. -/
def pathSegments (text : List Char) : List (List Char) :=
  let slashes := text.map fun c => if c = '\\' then '/' else c
  let inner :=
    match slashes with
    | '/' :: rest => rest
    | rest => rest
  resolve [] (Text.splitOn '/' inner)

/-- The path, the query and the fragment of a text. -/
def splitTail (text : List Char) : List Char × Option (List Char) × Option (List Char) :=
  let (front, fragment) :=
    match Text.splitOnce '#' text with
    | some (front, fragment) => (front, some (encode fragmentSet fragment))
    | none => (text, none)
  match Text.splitOnce '?' front with
  | some (path, query) => (path, some (encode querySet query), fragment)
  | none => (front, none, fragment)

/-! ## Reading -/

def trim (text : List Char) : List Char :=
  let isEdge (c : Char) := c.toNat ≤ 32
  ((text.dropWhile isEdge).reverse.dropWhile isEdge).reverse

/-- Reads what is behind the scheme of a URL on the web. -/
def parseWeb (scheme : List Char) (default : Nat) (text : List Char) : Except UrlFault Web := do
  let behindSlashes := text.dropWhile fun c => c == '/' || c == '\\'
  let (username, password, rest) ← splitUser true behindSlashes
  let (hostText, rest) := spanHost true false rest
  if hostText.isEmpty then throw .emptyHost
  let host ← Host.parse hostText
  let (number, rest) ← splitNumber rest
  let (path, query, fragment) := splitTail rest
  return {
    scheme, username, password, host, query, fragment
    portNumber := number.filter (· != default)
    path := pathSegments path }

/-- What is wrong behind the scheme of a URL of a file, if anything. -/
def checkFile : List Char → Except UrlFault Unit
  | a :: b :: rest =>
    let host := rest.takeWhile fun c => !endsAuthority true c
    if (a = '/' ∨ a = '\\') ∧ (b = '/' ∨ b = '\\') ∧ ¬host.isEmpty ∧ ¬isDrive host then
      (Host.parse host).map fun _ => ()
    else .ok ()
  | _ => .ok ()

/-- What is wrong behind the scheme of any other URL, if anything. -/
def checkOther : List Char → Except UrlFault Unit
  | '/' :: '/' :: rest => do
    let (username, password, rest) ← splitUser false rest
    let (host, rest) := spanHost false false rest
    Host.checkOther host
    if host.isEmpty ∧ rest.head? = some ':' then throw .emptyHost
    let _ ← splitNumber rest
    if host.isEmpty ∧ ¬(username.isEmpty ∧ password.isEmpty) then throw .emptyHost
  | _ => .ok ()

def parse (text : String) : Except UrlFault Url :=
  let read := (trim text.toList).filter fun c => c != '\t' && c != '\n' && c != '\r'
  match splitScheme read with
  | none => .error .relative
  | some (scheme, rest) =>
    match defaultNumber? scheme with
    | some number => (parseWeb scheme number rest).map web
    | none =>
      if scheme = "file".toList then (checkFile rest).map fun _ => other scheme
      else (checkOther rest).map fun _ => other scheme

/-! ## Writing -/

def scheme : Url → List Char
  | web address => address.scheme
  | other scheme => scheme

/-- The name and the password of a user as a URL shows them. -/
def userText (username password : List Char) : List Char :=
  if username.isEmpty ∧ password.isEmpty then []
  else if password.isEmpty then username ++ ['@']
  else username ++ ':' :: password ++ ['@']

namespace Web

def numberText (number : Option Nat) : List Char :=
  match number with
  | none => []
  | some number => ':' :: Text.digits 10 number

/-- A part of a URL behind the mark that starts it. -/
def marked (mark : Char) (part : Option (List Char)) : List Char :=
  match part with
  | none => []
  | some part => mark :: part

def chars (address : Web) : List Char :=
  address.scheme ++ "://".toList ++ userText address.username address.password ++
    address.host.chars ++ numberText address.portNumber ++
    address.path.flatMap (fun segment => '/' :: segment) ++
    marked '?' address.query ++ marked '#' address.fragment

def text (address : Web) : String := String.ofList address.chars

end Web

/-! ## HTTPS -/

/-- A URL that names an HTTPS server. -/
structure Https where
  address : Web
  isHttps : address.scheme = "https".toList
deriving DecidableEq, Repr

def https? : Url → Option Https
  | web address =>
    if isHttps : address.scheme = "https".toList then some ⟨address, isHttps⟩ else none
  | other _ => none

def Https.text (url : Https) : String := url.address.text

end Url

end DnsForwarder
