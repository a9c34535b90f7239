import Geocoding.Url.Host
import Geocoding.Url.Path

/-!
# Addresses on the web

An address names a scheme, who is asked and where, and what is asked for.  It is
read without another address to start from, so it must begin with its scheme.
Reading is lenient about blanks at the ends, about slashes and about characters
that must be escaped, and what is read is kept in a form that reads back as it is.
-/

namespace Geocoding

/-- Whose name goes with a question, and where it is sent. -/
structure Url.Authority where
  user : List Char := []
  password : Option (List Char) := none
  host : Url.Host
  /-- The number of the socket at the host, unless it is the usual one of the scheme. -/
  socket : Option Nat := none
deriving DecidableEq, Repr

structure Url where
  scheme : List Char
  authority : Option Url.Authority
  path : Url.Path
  query : Option (List Char)
  fragment : Option (List Char)
deriving DecidableEq, Repr

namespace Url

/-! ## Writing -/

namespace Authority

def credentials (authority : Authority) : List Char :=
  match authority.user, authority.password with
  | [], none => []
  | user, none => user ++ ['@']
  | user, some password => user ++ ':' :: password ++ ['@']

def text (authority : Authority) : List Char :=
  authority.credentials ++ authority.host.text ++
    (authority.socket.elim [] fun number => ':' :: Nat.toDigits 10 number)

end Authority

/-- What stands between the scheme and the query.  Without an authority a path
must not begin with two slashes, so a step in place is put in front of it. -/
def location (url : Url) : List Char :=
  match url.authority, url.path with
  | some authority, path => '/' :: '/' :: authority.text ++ path.text
  | none, .rooted ([] :: next :: rest) => '/' :: '.' :: (Path.rooted ([] :: next :: rest)).text
  | none, path => path.text

def text (url : Url) : String :=
  String.ofList (url.scheme ++ ':' :: url.location
    ++ (url.query.elim [] ('?' :: ·)) ++ (url.fragment.elim [] ('#' :: ·)))

def withoutFragment (url : Url) : Url :=
  { url with fragment := none }

def spellsText (characters : List Char) : Bool :=
  (Text.ofBytes? (Percent.decode characters)).isSome

/-- The address without name and password, which are sent apart from it.  They
stay if the name spells no text, or if there is only a password that spells none. -/
def withoutCredentials (url : Url) : Url :=
  match url.authority with
  | none => url
  | some authority =>
    if spellsText authority.user ∧
        (authority.user ≠ [] ∨ (authority.password.map spellsText).getD false) then
      { url with authority := some { authority with user := [], password := none } }
    else url

/-! ## Schemes -/

inductive Kind
  | file
  | special
  | other
deriving DecidableEq, Repr

def specialSchemes : List (String × Nat) :=
  [("http", 80), ("https", 443), ("ws", 80), ("wss", 443), ("ftp", 21)]

def usualSocket? (scheme : List Char) : Option Nat :=
  specialSchemes.lookup (String.ofList scheme)

def kindOf (scheme : List Char) : Kind :=
  if String.ofList scheme = "file" then .file
  else if (usualSocket? scheme).isSome then .special
  else .other

def Kind.separates (kind : Kind) (character : Char) : Bool :=
  character == '/' || (character == '\\' && kind != .other)

def Kind.endsAuthority (kind : Kind) (character : Char) : Bool :=
  kind.separates character || character == '?' || character == '#'

/-! ## Reading -/

/-- The text without control characters and spaces at its ends, and without tabs
and line breaks anywhere. -/
def clean (text : List Char) : List Char :=
  let isEdge (character : Char) : Bool := character.toNat ≤ 0x20
  let started := text.dropWhile isEdge
  (started.reverse.dropWhile isEdge).reverse.filter (· ∉ ['\t', '\n', '\r'])

def splitScheme? (text : List Char) : Option (List Char × List Char) :=
  let scheme := text.takeWhile fun character =>
    character.isAlphanum || character ∈ ['+', '-', '.']
  match scheme.head?, text.drop scheme.length with
  | some first, ':' :: rest => if first.isAlpha then some (scheme.map Char.toLower, rest) else none
  | _, _ => none

/-- The text in front of the last at sign, and the text behind it. -/
def splitCredentials? (text : List Char) : Option (List Char × List Char) :=
  if text.contains '@' then
    let behind := (text.reverse.takeWhile (· != '@')).reverse
    some (text.take (text.length - behind.length - 1), behind)
  else none

/-- The name and the password in front of an at sign.  An empty password is none. -/
def readCredentials (text : List Char) : List Char × Option (List Char) :=
  let encode := Percent.encode Percent.inCredentials
  let user := text.takeWhile (· != ':')
  let password := text.drop (user.length + 1)
  (encode user, if password.isEmpty then none else some (encode password))

/-- The host at the start of a text, up to a colon outside square brackets. -/
def hostText (kind : Kind) : Bool → List Char → List Char
  | _, [] => []
  | bracketed, character :: rest =>
    if kind.endsAuthority character || (character == ':' && !bracketed) then []
    else
      character :: hostText kind
        (if character = '[' then true else if character = ']' then false else bracketed) rest

def readSocket (scheme : List Char) :
    List Char → Except UrlError (Option Nat × List Char)
  | ':' :: text =>
    let digits := text.takeWhile Char.isDigit
    let rest := text.drop digits.length
    let number := digits.foldl (fun value digit => value * 10 + (digit.toNat - 0x30)) 0
    if 65535 < number then .error .socket
    else
      match rest.head? with
      | none | some '/' | some '\\' | some '?' | some '#' =>
        .ok (if digits.isEmpty ∨ usualSocket? scheme = some number then none else some number,
          rest)
      | some _ => .error .socket
  | text => .ok (none, text)

def readAuthority (scheme : List Char) (kind : Kind) (text : List Char) :
    Except UrlError (Authority × List Char) := do
  let whole := text.takeWhile (!kind.endsAuthority ·)
  let beyond := text.drop whole.length
  let (credentials, rest) ←
    match splitCredentials? whole with
    | none => pure ([], text)
    | some ([], []) => if beyond.isEmpty then pure ([], []) else throw .emptyHost
    | some (credentials, behind) => pure (credentials, behind ++ beyond)
  let (user, password) := readCredentials credentials
  let host := hostText kind false rest
  if kind = .special ∧ host.isEmpty then throw .emptyHost
  let known ← if kind = .special then Host.readSpecial host else Host.readOther host
  let rest := rest.drop host.length
  if host.isEmpty ∧ rest.head? = some ':' then throw .emptyHost
  let (socket, rest) ← readSocket scheme rest
  if host.isEmpty ∧ (user ≠ [] ∨ password.isSome) then throw .emptyHost
  return ({ user, password, host := known, socket }, rest)

def splitPath (text : List Char) : List Char × List Char :=
  let path := text.takeWhile fun character => character != '?' && character != '#'
  (path, text.drop path.length)

def readEnd (kind : Kind) (text : List Char) : Option (List Char) × Option (List Char) :=
  let fragmentOf (rest : List Char) : Option (List Char) :=
    match rest with
    | '#' :: fragment => some (Percent.encode Percent.inFragment fragment)
    | _ => none
  match text with
  | '?' :: rest =>
    let query := rest.takeWhile (· != '#')
    let set := if kind = .other then Percent.inQuery else Percent.inSpecialQuery
    (some (Percent.encode set query), fragmentOf (rest.drop query.length))
  | rest => (none, fragmentOf rest)

def build (scheme : List Char) (kind : Kind) (authority : Option Authority)
    (readPath : List Char → Path) (text : List Char) : Url :=
  let (path, rest) := splitPath text
  let (query, fragment) := readEnd kind rest
  { scheme, authority, path := readPath path, query, fragment }

/-- The rooted path of a scheme.  Only under a scheme of no special kind can there be no segment. -/
def rootedPath (kind : Kind) (text : List Char) : Path :=
  .rooted (if kind = .other ∧ text.isEmpty then [] else Path.readRooted kind.separates text)

/-- Reads the address of a file, whose host may be left out.  A drive is at no host. -/
def readFile (scheme text : List Char) : Except UrlError Url := do
  let (host, rest) ←
    match text with
    | first :: second :: rest =>
      if Kind.file.separates first && Kind.file.separates second then
        let host := rest.takeWhile (!Kind.file.endsAuthority ·)
        if host.isEmpty ∨ Path.isDrive host then pure (Host.name [], rest)
        else pure (← Host.readSpecial host, rest.drop host.length)
      else pure (Host.name [], text)
    | _ => pure (Host.name [], text)
  let (path, rest) := splitPath rest
  let segments := Path.readRooted Kind.file.separates path
  let isLocal :=
    host = .name "localhost".toList ∨ (segments.head?.map Path.isLocalDrive).getD false
  let (query, fragment) := readEnd .file rest
  return {
    scheme
    authority := some { host := if isLocal then .name [] else host }
    path := .rooted (Path.onDisk segments)
    query, fragment }

def read (text : List Char) : Except UrlError Url := do
  match splitScheme? (clean text) with
  | none => throw .relative
  | some (scheme, rest) =>
    match kindOf scheme with
    | .file => readFile scheme rest
    | .special =>
      let (authority, rest) ←
        readAuthority scheme .special (rest.dropWhile Kind.special.separates)
      return build scheme .special (some authority) (rootedPath .special) rest
    | .other =>
      match rest with
      | '/' :: '/' :: rest =>
        let (authority, rest) ← readAuthority scheme .other rest
        return build scheme .other (some authority) (rootedPath .other) rest
      | '/' :: _ => return build scheme .other none (rootedPath .other) rest
      | _ => return build scheme .other none (.bare ∘ Percent.encode Percent.isControl) rest

end Url

end Geocoding
