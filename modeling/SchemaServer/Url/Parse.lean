import SchemaServer.Url.Host
import SchemaServer.Url.Segments

/-! # URLs

`Url.parse` reads a text as an absolute URL and brings it into its one written form, `Url.text`: the
scheme and the host in lower case, dot segments resolved, characters that may not stand for
themselves as percent codes.  The special schemes have a host and take a backslash for a slash; the
scheme `file` has the further rules of `readFileUrl`. -/

namespace SchemaServer

/-- An absolute URL, each part in its written form. -/
structure Url where
  scheme : List Char
  /-- What stands between `//` and the path, if there is such a part. -/
  authority : Option (List Char)
  path : List Char
  query : Option (List Char)
  fragment : Option (List Char)
deriving DecidableEq, Repr, Inhabited

namespace Url

def chars (u : Url) : List Char :=
  let authority := match u.authority with
    | some a => ['/', '/'] ++ a
    -- A path that starts with two slashes would look like an authority.
    | none => if ['/', '/'].isPrefixOf u.path then ['/', '.'] else []
  let query := match u.query with
    | some q => '?' :: q
    | none => []
  let fragment := match u.fragment with
    | some f => '#' :: f
    | none => []
  u.scheme ++ ':' :: authority ++ u.path ++ query ++ fragment

def text (u : Url) : String := String.ofList u.chars

/-! ## Schemes -/

inductive SchemeKind where
  | file
  | special
  | other
deriving DecidableEq

def defaultPort? (scheme : List Char) : Option Nat :=
  let name := String.ofList scheme
  if name = "http" ∨ name = "ws" then some 80
  else if name = "https" ∨ name = "wss" then some 443
  else if name = "ftp" then some 21
  else none

def schemeKind (scheme : List Char) : SchemeKind :=
  if scheme = ['f', 'i', 'l', 'e'] then .file
  else if (defaultPort? scheme).isSome then .special
  else .other

def isSchemeChar (c : Char) : Bool := c.isAlphanum || c == '+' || c == '-' || c == '.'

def readScheme (cs : List Char) : Option (List Char × List Char) :=
  match cs with
  | [] => none
  | c :: _ =>
    if c.isAlpha then
      match cs.dropWhile isSchemeChar with
      | ':' :: rest => some ((cs.takeWhile isSchemeChar).map Char.toLower, rest)
      | _ => none
    else none

/-! ## Parts -/

def isMargin (c : Char) : Bool := c.toNat ≤ 0x20

def trim (cs : List Char) : List Char :=
  ((cs.dropWhile isMargin).reverse.dropWhile isMargin).reverse

def endsPath (c : Char) : Bool := c == '?' || c == '#'

def isSlash (kind : SchemeKind) (c : Char) : Bool := c == '/' || (c == '\\' && kind ≠ .other)

def withTail (kind : SchemeKind) (u : Url) (cs : List Char) : Url :=
  let coded := if kind = .other then codedQuery else codedSpecialQuery
  let query := match cs with
    | '?' :: rest => some (percentEncode coded (rest.takeWhile (· ≠ '#')))
    | _ => none
  let fragment := match cs.dropWhile (· ≠ '#') with
    | '#' :: rest => some (percentEncode codedFragment rest)
    | _ => none
  { u with query, fragment }

def readSegments (kind : SchemeKind) (cs : List Char) : Trail × List Char :=
  let raw := Text.splitOn (isSlash kind) (cs.takeWhile fun c => !endsPath c)
  (Trail.follow (kind = .file) {} raw, cs.dropWhile fun c => !endsPath c)

/-- The port after a colon, and what is left of the text; the default port is left out. -/
def readPort (scheme : List Char) (cs : List Char) : Except Fault (List Char × List Char) :=
  let digits := cs.takeWhile Json.isDigit
  let rest := cs.dropWhile Json.isDigit
  let port := (numeral? 10 digits).getD 0
  if 65535 < port then .error .badPort
  else if rest.isEmpty || rest.head? == some '\\' then
    if digits.isEmpty || defaultPort? scheme == some port then .ok ([], rest)
    else .ok (':' :: Nat.toDigits 10 port, rest)
  else .error .badPort

def userText (user : List Char) : List Char :=
  let name := user.takeWhile (· ≠ ':')
  let password := (user.dropWhile (· ≠ ':')).drop 1
  if name.isEmpty && password.isEmpty then []
  else
    percentEncode codedUser name ++
      (if password.isEmpty then [] else ':' :: percentEncode codedUser password) ++ ['@']

/-- The host of an authority ends at its first colon outside brackets. -/
def hostLength : (bracket : Bool) → List Char → Nat
  | _, [] => 0
  | bracket, c :: cs =>
    if c = ':' ∧ !bracket then 0
    else if c = '[' then hostLength true cs + 1
    else if c = ']' then hostLength false cs + 1
    else hostLength bracket cs + 1

/-- An authority in its written form, and what is left of its text.  `more` says that a path, a query
    or a fragment follows. -/
def readAuthority (scheme : List Char) (kind : SchemeKind) (more : Bool) (cs : List Char) :
    Except Fault (List Char × List Char) := do
  let hasUser := cs.contains '@'
  let after := if hasUser then (cs.reverse.takeWhile (· ≠ '@')).reverse else cs
  let user := if hasUser then cs.take (cs.length - after.length - 1) else []
  if hasUser && user.isEmpty && after.isEmpty && more then throw .emptyHost
  let user := userText user
  let name := after.take (hostLength false after)
  let rest := after.drop (hostLength false after)
  if kind = .special && name.isEmpty then throw .emptyHost
  let host ← if kind = .special then specialHost name else opaqueHost name
  match rest with
  | ':' :: rest =>
    if host.isEmpty then throw .emptyHost
    let (port, rest) ← readPort scheme rest
    return (user ++ host ++ port, rest)
  | rest =>
    if host.isEmpty && !user.isEmpty then throw .emptyHost
    return (user ++ host, rest)

def readWithAuthority (scheme : List Char) (kind : SchemeKind) (cs : List Char) :
    Except Fault Url := do
  let stops (c : Char) : Bool := isSlash kind c || endsPath c
  let part := cs.takeWhile fun c => !stops c
  let rest := cs.dropWhile fun c => !stops c
  let (authority, left) ← readAuthority scheme kind (!rest.isEmpty) part
  let rest := left ++ rest
  let rooted := kind = .special || rest.head?.any fun c => !endsPath c
  if rooted then
    let rest := match rest with
      | c :: cs => if isSlash kind c then cs else rest
      | [] => []
    let (trail, rest) := readSegments kind rest
    return withTail kind ⟨scheme, some authority, trail.path, none, none⟩ rest
  else return withTail kind ⟨scheme, some authority, [], none, none⟩ rest

def readOther (scheme : List Char) (cs : List Char) : Except Fault Url :=
  match cs with
  | '/' :: '/' :: rest => readWithAuthority scheme .other rest
  | '/' :: rest =>
    let (trail, rest) := readSegments .other rest
    .ok (withTail .other ⟨scheme, none, trail.path, none, none⟩ rest)
  | cs =>
    let path := percentEncode codedControl (cs.takeWhile fun c => !endsPath c)
    .ok (withTail .other ⟨scheme, none, path, none, none⟩ (cs.dropWhile fun c => !endsPath c))

def fileUrl (host : List Char) (trail : Trail) (rest : List Char) : Url :=
  -- A drive is one of this machine, whatever host stands before it.
  let host := if trail.drive then [] else host
  withTail .file ⟨['f', 'i', 'l', 'e'], some host, trail.filePath, none, none⟩ rest

/-- Read what follows `file:`, where nothing has been dropped yet. -/
def readFileUrl (cs : List Char) : Except Fault Url :=
  let localFile (cs : List Char) : Url :=
    let (trail, rest) := readSegments .file cs
    fileUrl [] trail (kept rest)
  match cs.dropWhile isDropped with
  | [] => .ok (localFile [])
  | a :: rest =>
    if !isSlash .file a then .ok (localFile cs)
    else
      match rest.dropWhile isDropped with
      | [] => .ok (localFile [])
      | b :: after =>
        if !isSlash .file b then .ok (localFile rest)
        else
          let stops (c : Char) : Bool := isSlash .file c || endsPath c
          let name := kept (after.takeWhile fun c => !stops c)
          -- A drive letter is never a host, but the first segment of the path.
          if name.isEmpty || isDrive name then .ok (localFile after)
          else do
            let host ← specialHost name
            let after := after.dropWhile fun c => !stops c
            -- This host is the machine itself and is not written.
            if host = "localhost".toList then return localFile after
            else
              let after := match after with
                | c :: cs => if isSlash .file c then cs else after
                | [] => []
              let (trail, rest) := readSegments .file after
              return fileUrl host trail (kept rest)

def parse (source : String) : Except Fault Url :=
  let cs := trim source.toList
  match readScheme (kept cs) with
  | none => .error .noScheme
  | some (scheme, rest) =>
    match schemeKind scheme with
    -- A drive letter ends at a dropped character, so in a file URL these are still needed.
    | .file => readFileUrl ((cs.dropWhile (· ≠ ':')).drop 1)
    | .special => readWithAuthority scheme .special (rest.dropWhile (isSlash .special))
    | .other => readOther scheme rest

/-- The written form of the URL that a text reads as. -/
def reread? (uri : String) : Option String := (parse uri).toOption.map text

/-- The URI of a path the analyzer reported: an absolute path is a file, anything else has to be a
    URL itself.  After `file://` an absolute path always reads as a URL, so there is no second way to
    make a URI of one. -/
def ofPath? (path : String) : Option Url :=
  (parse (if path.startsWith "/" then "file://" ++ path else path)).toOption

end Url

end SchemaServer
