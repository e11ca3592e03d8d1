import EventBroker.Url.Host

/-!
Absolute URLs. A text that is one has a normal form, and a `Url` is the normal form of a text.
-/

namespace EventBroker

namespace Url

/-- The schemes with a host and a default port. -/
def defaultPort? (scheme : List Char) : Option Nat :=
  match String.ofList scheme with
  | "http" | "ws" => some 80
  | "https" | "wss" => some 443
  | "ftp" => some 21
  | _ => none

def isAsciiAlpha (c : Char) : Bool := ('a' ≤ c && c ≤ 'z') || ('A' ≤ c && c ≤ 'Z')

def isSchemeChar (c : Char) : Bool :=
  isAsciiAlpha c || ('0' ≤ c && c ≤ '9') || c = '+' || c = '-' || c = '.'

def scheme? (cs : List Char) : Option (List Char × List Char) :=
  match cs with
  | c :: _ =>
    if isAsciiAlpha c then
      match cs.dropWhile isSchemeChar with
      | ':' :: rest => some ((cs.takeWhile isSchemeChar).map Char.toLower, rest)
      | _ => none
    else none
  | [] => none

def cutAt (c : Char) (cs : List Char) : List Char × Option (List Char) :=
  match cs.dropWhile (· != c) with
  | _ :: rest => (cs.takeWhile (· != c), some rest)
  | [] => (cs, none)

/-! ### Paths -/

def isSingleDot (cs : List Char) : Bool :=
  String.ofList (cs.map Char.toLower) ∈ [".", "%2e"]

def isDoubleDot (cs : List Char) : Bool :=
  String.ofList (cs.map Char.toLower) ∈ ["..", ".%2e", "%2e.", "%2e%2e"]

/-- A letter and a colon or bar, which names a drive. -/
def isDrive : List Char → Bool
  | [c, d] => isAsciiAlpha c && (d = ':' || d = '|')
  | _ => false

/-- Whether a segment names a drive, alone or before a backslash. -/
def startsWithDrive : List Char → Bool
  | c :: d :: rest =>
    isDrive [c, d] && (match rest with
      | [] => true
      | e :: _ => e = '\\')
  | _ => false

/-- The path without its last segment. A drive stays. -/
def parentPath (path : List (List Char)) : List (List Char) :=
  if path.getLast?.any startsWithDrive then path else path.dropLast

/-- The path with one more segment worked off. A dot segment that is the last one leaves an empty
segment behind. -/
def addSegment (path : List (List Char)) (s : List Char) (last : Bool) : List (List Char) :=
  let close (path : List (List Char)) := if last then path ++ [[]] else path
  if isDoubleDot s then close (parentPath path)
  else if isSingleDot s then close path
  else path ++ [escape escapedInPath s]

def resolveDots (path : List (List Char)) : List (List Char) → List (List Char)
  | [] => path
  | s :: rest => resolveDots (addSegment path s rest.isEmpty) rest

def segments (cs : List Char) : List (List Char) :=
  match cs with
  | '/' :: rest => rest.splitOn '/'
  | [] => []
  | _ => cs.splitOn '/'

def slashes (cs : List Char) : List Char := cs.map fun c => if c = '\\' then '/' else c

def joinPath : List (List Char) → List Char
  | [] => ['/']
  | path => path.flatMap ('/' :: ·)

def webPath (cs : List Char) : List Char := joinPath (resolveDots [] (segments (slashes cs)))

/-- The path of any other scheme, which may be empty. -/
def plainPath (cs : List Char) : List Char :=
  if cs.isEmpty then [] else joinPath (resolveDots [] (segments cs))

/-- Host and path of a `file` URL before empty segments at its start are left out. A drive as first
segment takes the place of the host; one that more follows in the same segment does not. -/
def fileParts (host : List Char) (path : List (List Char)) :
    List (List Char) → List Char × List (List Char)
  | [] => (host, path)
  | s :: rest =>
    match path, s with
    | [], c :: d :: more =>
      if more.isEmpty && isDrive [c, d] then fileParts [] [[c, ':']] rest
      else if d = ':' && isDrive [c, d] then
        fileParts host (addSegment [[c, ':']] more rest.isEmpty) rest
      else fileParts host (addSegment path s rest.isEmpty) rest
    | _, _ => fileParts host (addSegment path s rest.isEmpty) rest

/-! ### Authorities -/

/-- A text cut at the last `@`. -/
def cutUserInfo (cs : List Char) : Option (List Char) × List Char :=
  match cs.reverse.dropWhile (· != '@') with
  | _ :: front => (some front.reverse, (cs.reverse.takeWhile (· != '@')).reverse)
  | [] => (none, cs)

/-- User and password; an empty password is left out. -/
def userInfoChars (cs : List Char) : List Char :=
  let (user, password) := cutAt ':' cs
  let user := escape escapedInUserInfo user
  let password := match password with
    | some p => if p.isEmpty then [] else ':' :: escape escapedInUserInfo p
    | none => []
  if user.isEmpty ∧ password.isEmpty then [] else user ++ password ++ ['@']

/-- Host and port text; a colon inside brackets does not count. -/
def cutPort (cs : List Char) : List Char × Option (List Char) :=
  match cs with
  | '[' :: _ =>
    match cs.dropWhile (· != ']') with
    | ']' :: ':' :: port => (cs.takeWhile (· != ']') ++ [']'], some port)
    | _ => (cs, none)
  | _ => cutAt ':' cs

def portChars? (scheme : List Char) (port : Option (List Char)) : Option (List Char) :=
  match port with
  | none | some [] => some []
  | some ds => do
    let n ← Text.natural? ds
    if 65535 < n then none
    else some (if defaultPort? scheme = some n then [] else ':' :: Nat.toDigits 10 n)

/-- The authority of a web scheme, which needs a host. -/
def webAuthority? (scheme cs : List Char) : Option (List Char) := do
  let (user, rest) := cutUserInfo cs
  let (host, port) := cutPort rest
  if host.isEmpty then none
  else some ((user.map userInfoChars).getD [] ++ (← domain? host) ++ (← portChars? scheme port))

/-- The authority of any other scheme and what it leaves of `cs`, which ends where the path starts.
It may lack a host if it has no user and no port either; an `@` alone ends the whole URL. A port
ends at a backslash, with which the path then starts. -/
def plainAuthority? (scheme cs : List Char) (last : Bool) : Option (List Char × List Char) := do
  let (user, rest) := cutUserInfo cs
  let (host, port) := cutPort rest
  let user := user.map fun u => (u.isEmpty, userInfoChars u)
  if host.isEmpty then
    if port.isSome ∨ user.any (fun (bare, us) => !us.isEmpty || (bare && !last)) then none
    else some ([], [])
  else
    let host ← opaqueHost? host
    let digits := port.map (·.takeWhile (· != '\\'))
    let left := (port.map (·.dropWhile (· != '\\'))).getD []
    some ((user.map Prod.snd).getD [] ++ host ++ (← portChars? scheme digits), left)

/-! ### Whole URLs -/

/-- Host and path of a `file` URL. Without a host the slash before the path counts as one of its
segments, so that a drive behind it is not the first one. -/
def fileChars? (cs : List Char) : Option (List Char) := do
  let (host, path) ← match slashes cs with
    | '/' :: '/' :: rest =>
      let host := rest.takeWhile (· != '/')
      let path := rest.dropWhile (· != '/')
      if isDrive host then some (fileParts [] [] (segments rest))
      else if host.isEmpty then some (fileParts [] [] (segments ('/' :: path)))
      else do
        let host ← domain? host
        if String.ofList host = "localhost" then some (fileParts [] [] (segments ('/' :: path)))
        else some (fileParts host [] (segments path))
    | cs => some (fileParts [] [] (segments cs))
  some ('/' :: '/' :: host ++ joinPath (match path.dropWhile (·.isEmpty) with
    | [] => [[]]
    | path => path))

/-- What stands between the scheme and the query, if there is one; `last` if nothing follows. -/
def middle? (scheme cs : List Char) (last : Bool) : Option (List Char) := do
  if (defaultPort? scheme).isSome then
    let isSlash (c : Char) : Bool := c = '/' || c = '\\'
    let rest := cs.dropWhile isSlash
    let authority ← webAuthority? scheme (rest.takeWhile (!isSlash ·))
    some ('/' :: '/' :: authority ++ webPath (rest.dropWhile (!isSlash ·)))
  else if scheme = ['f', 'i', 'l', 'e'] then fileChars? cs
  else
    match cs with
    | '/' :: '/' :: rest =>
      let path := rest.dropWhile (· != '/')
      let (authority, left) ←
        plainAuthority? scheme (rest.takeWhile (· != '/')) (last && path.isEmpty)
      some ('/' :: '/' :: authority ++ plainPath (left ++ path))
    | '/' :: _ =>
      let path := plainPath cs
      -- a path that starts with two slashes must not read as an authority
      some (match path with
        | '/' :: '/' :: _ => '/' :: '.' :: path
        | _ => path)
    | _ => some (escape isControl cs)

def normalize? (text : String) : Option String := do
  let isEdge (c : Char) : Bool := c.toNat ≤ 0x20
  let cs := ((text.toList.dropWhile isEdge).reverse.dropWhile isEdge).reverse
  let cs := cs.filter fun c => c ≠ '\t' ∧ c ≠ '\n' ∧ c ≠ '\r'
  let (scheme, rest) ← scheme? cs
  let (rest, fragment) := cutAt '#' rest
  let (rest, query) := cutAt '?' rest
  let special := (defaultPort? scheme).isSome || scheme = ['f', 'i', 'l', 'e']
  let middle ← middle? scheme rest (query.isNone && fragment.isNone)
  let query := (query.map fun q => '?' :: escape (escapedInQuery special) q).getD []
  let fragment := (fragment.map fun f => '#' :: escape escapedInFragment f).getD []
  some (String.ofList (scheme ++ ':' :: middle ++ query ++ fragment))

end Url

/-- An absolute URL: the normal form of a text. -/
structure Url where
  text : String
  normal : ∃ s, Url.normalize? s = some text
deriving DecidableEq

namespace Url

instance : Repr Url := ⟨fun u p => reprPrec u.text p⟩

/-- Reads a URL and brings it into normal form. -/
def parse? (s : String) : Option Url :=
  match h : normalize? s with
  | some t => some ⟨t, s, h⟩
  | none => none

end Url

end EventBroker
