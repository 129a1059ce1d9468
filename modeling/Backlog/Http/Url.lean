import Backlog.Http.Host
import Backlog.Http.Url.Path
/-!
Addresses: an absolute address is taken apart into its scheme, its authority, its path, its query and
its fragment, each in its normal form.

- `Url.parse?`: the parts of an address;
- `Url.toText`: the address in its normal form;
- `Url.origin`, `Url.target`: where it leads, and what is asked for there.
-/
namespace Backlog.Http
set_option autoImplicit false

/-- Where an address leads, and who goes there. -/
structure Authority where
  user : Text
  password : Option Text
  host : Option Host
  /-- The number behind the host, unless it is the usual one of the scheme. -/
  port : Option Nat
  deriving DecidableEq, Repr

structure Url where
  scheme : Text
  authority : Option Authority
  path : Text
  query : Option Text
  fragment : Option Text
  deriving DecidableEq, Repr

/-! ## Authorities -/

namespace Authority

def empty : Authority := ⟨[], none, none, none⟩

/-- The host and the number behind it. -/
def place (a : Authority) : Text :=
  (a.host.map Host.toText).getD [] ++ (a.port.map fun n => ':' :: Text.decimal n).getD []

/-- The user and the password, with an at sign behind them. -/
def credentials (a : Authority) : Text :=
  let shown := a.user ++ (a.password.map (':' :: ·)).getD []
  if shown.isEmpty then [] else shown ++ ['@']

/-- Whether the credentials can be read: the user is spelled in UTF-8, and is there unless the
password is, spelled likewise. -/
def hasCredentials (a : Authority) : Bool :=
  let spelled (t : Text) : Bool := (Text.ofUtf8? (Escape.unescape t)).isSome
  spelled a.user && (!a.user.isEmpty || a.password.any spelled)

def marked : Text := " \"<>\x60#?\x7b\x7d/:;=@[\\]^|"

/-- The credentials that stand before the last at sign of a text, and what follows the sign. -/
def readCredentials (t : Text) : Authority × Text :=
  let behind := (t.reverse.takeWhile (· != '@')).reverse
  if behind.length = t.length then (empty, t)
  else
    let shown := t.take (t.length - behind.length - 1)
    let user := shown.takeWhile (· != ':')
    let password := (shown.dropWhile (· != ':')).drop 1
    ({ empty with
        user := Escape.escape marked user
        password := if password.isEmpty then none else some (Escape.escape marked password) }, behind)

/-- The part of a text before the first colon outside of brackets. -/
def hostPart : Bool → Text → Text
  | _, [] => []
  | inside, c :: cs =>
    if c = ':' ∧ !inside then []
    else c :: hostPart (if c = '[' then true else if c = ']' then false else inside) cs

/-- The number behind a host, none when it is the usual one, and what follows its digits. -/
def port? (usual : Option Nat) (t : Text) : Option (Option Nat × Text) :=
  let digits := t.takeWhile Char.isDigit
  let n := Text.ofDigits digits
  if 65535 < n then none
  else some (if digits.isEmpty || usual == some n then none else some n, t.dropWhile Char.isDigit)

/-- The authority that a text spells, and the rest of the text, which belongs to the path. A host is
read by `host?`; the empty one stands for no host, which neither a user nor a number goes with. -/
def parse? (host? : Text → Option (Option Host)) (usual : Option Nat) (t : Text) :
    Option (Authority × Text) := do
  let (a, t) := readCredentials t
  let name := hostPart false t
  let host ← host? name
  match t.drop name.length with
  | ':' :: number =>
    let (port, rest) ← port? usual number
    if host.isNone || !(rest.isEmpty || rest.head? == some '\\') then none
    else some ({ a with host := host, port := port }, rest)
  | _ => if host.isNone && !a.credentials.isEmpty then none else some ({ a with host := host }, [])

end Authority

namespace Url

/-! ## Schemes -/

inductive Kind where
  /-- A host is needed, with a number that is usual. -/
  | web (usual : Nat)
  | files
  | other

/-- The kinds of the schemes that are no others. -/
def kinds : List (Text × Kind) :=
  [("http", .web 80), ("https", .web 443), ("ws", .web 80), ("wss", .web 443), ("ftp", .web 21),
   ("file", .files)]

def kindOf (scheme : Text) : Kind := (kinds.lookup scheme).getD .other

def inScheme (c : Char) : Bool := c.isAlphanum || c == '+' || c == '-' || c == '.'

/-- The scheme at the front of an address, in lower case, and what follows its colon. -/
def scheme? (t : Text) : Option (Text × Text) :=
  match t.takeWhile inScheme, t.dropWhile inScheme with
  | c :: cs, ':' :: rest => if c.isAlpha then some ((c :: cs).map Char.toLower, rest) else none
  | _, _ => none

/-! ## Queries and fragments -/

/-- What is escaped in a query; with hosts of the web also the apostrophe. -/
def markedInQuery : Kind → Text
  | .other => " \"#<>"
  | _ => " \"#<>'"

def markedInFragment : Text := " \"<>\x60"

/-- A text cut at the first of a mark: what stands before it, and behind it if it is there. -/
def cut (mark : Char) (t : Text) : Text × Option Text :=
  (t.takeWhile (· != mark), (t.dropWhile (· != mark)).tail?)

/-- An address whose path is spelled by what stands before the query and the fragment. -/
def withTail (scheme : Text) (authority : Option Authority) (tail : Text) (path : Text → Text) : Url :=
  let (t, fragment) := cut '#' tail
  let (t, query) := cut '?' t
  { scheme := scheme
    authority := authority
    path := path t
    query := query.map (Escape.escape (markedInQuery (kindOf scheme)))
    fragment := fragment.map (Escape.escape markedInFragment) }

/-! ## Addresses -/

def isSlash (c : Char) : Bool := c == '/' || c == '\\'

def endsAuthority (bothSlashes : Bool) (c : Char) : Bool :=
  c == '/' || c == '?' || c == '#' || (bothSlashes && c == '\\')

/-- The part of an address that spells its authority, and the rest, unless an at sign stands alone.
-/
def authorityPart? (bothSlashes : Bool) (t : Text) : Option (Text × Text) :=
  let part := t.takeWhile fun c => !endsAuthority bothSlashes c
  let rest := t.dropWhile fun c => !endsAuthority bothSlashes c
  if part = ['@'] ∧ !rest.isEmpty then none else some (part, rest)

def dropSlash : Text → Text
  | c :: cs => if isSlash c then cs else c :: cs
  | [] => []

def web? (scheme : Text) (usual : Nat) (t : Text) : Option Url := do
  let (part, rest) ← authorityPart? true (t.dropWhile isSlash)
  let (a, behind) ← Authority.parse? (fun name => (Host.parse? name).map some) (some usual) part
  return withTail scheme (some a) (behind ++ rest) fun t => Path.append ⟨true, false⟩ "/" (dropSlash t)

/-- An address of a file. The host of this machine is left out, and so is the host of a drive. -/
def file? (scheme : Text) (t : Text) : Option Url :=
  let rules : Path.Rules := ⟨true, true⟩
  match t with
  | a :: b :: rest =>
    if isSlash a && isSlash b then
      let name := rest.takeWhile fun c => !endsAuthority true c
      if name.isEmpty || Path.isDrive name then
        some (withTail scheme (some .empty) rest (Path.append rules "/"))
      else do
        let host ← Host.parse? name
        let rest := rest.drop name.length
        if host = .name "localhost" then
          some (withTail scheme (some .empty) rest (Path.append rules "/"))
        else
          let path := dropSlash (rest.takeWhile fun c => c != '?' && c != '#')
          let lost := Path.meetsDrive rules "/" (Path.segments rules path)
          let a := { Authority.empty with host := if lost then none else some host }
          some (withTail scheme (some a) rest fun t => Path.append rules "/" (dropSlash t))
    else
      some (withTail scheme (some .empty) t (Path.append rules (if isSlash a then [] else "/")))
  | _ => some (withTail scheme (some .empty) t (Path.append rules "/"))

/-- The host of an address that may do without one. -/
def opaqueHost? (name : Text) : Option (Option Host) :=
  if name.isEmpty then some none else (Host.opaque? name).map some

/-- An address of any other kind. Without slashes in front, its path is not looked into. -/
def other? (scheme : Text) (t : Text) : Option Url :=
  let rules : Path.Rules := ⟨false, false⟩
  match t with
  | '/' :: '/' :: rest => do
    let (part, rest) ← authorityPart? false rest
    let (a, behind) ← Authority.parse? opaqueHost? none part
    return withTail scheme (some a) (behind ++ rest) fun t =>
      match t with
      | [] => []
      | '/' :: _ => Path.append rules [] t
      | _ => Path.append rules "/" t
  | '/' :: rest => some (withTail scheme none rest (Path.append rules "/"))
  | _ => some (withTail scheme none t (Escape.escape []))

/-- An address without the blanks around it and the breaks in it. -/
def tidy (t : Text) : Text :=
  (Text.trim (fun c => c.toNat ≤ 0x20) t).filter fun c => c != '\t' && c != '\n' && c != '\r'

def parse? (address : Text) : Option Url := do
  let (scheme, rest) ← scheme? (tidy address)
  match kindOf scheme with
  | .web usual => web? scheme usual rest
  | .files => file? scheme rest
  | .other => other? scheme rest

/-! ## Normal forms -/

/-- The address in its normal form. A path that would read as an authority gets a segment in front
that stands for the directory itself. -/
def toText (url : Url) : Text :=
  let lead := match url.authority with
    | some a => "//" ++ a.credentials ++ a.place
    | none => if Text.startsWith "//" url.path then "/." else []
  url.scheme ++ ":" ++ lead ++ url.path ++ (url.query.map ('?' :: ·)).getD [] ++
    (url.fragment.map ('#' :: ·)).getD []

def host? (url : Url) : Option Host := url.authority.bind Authority.host

def place (url : Url) : Text := (url.authority.map Authority.place).getD []

/-- The scheme and the place: a server that answers at one origin is not met at another. -/
def origin (url : Url) : Text := url.scheme ++ "://" ++ url.place

/-- What is asked for: the path, and the query if there is one. -/
def target (url : Url) : Text := url.path ++ (url.query.map ('?' :: ·)).getD []

/-- The address without its credentials, if they can be read. -/
def withoutCredentials (url : Url) : Url :=
  { url with
    authority := url.authority.map fun a =>
      if a.hasCredentials then { a with user := [], password := none } else a }

def maxLength : Nat := 65534

def canBeAsked (url : Url) : Bool :=
  (url.scheme == "http".toList || url.scheme == "https") &&
    !url.place.any ("\"\x60\x7b\x7d" : Text).contains && url.toText.length ≤ maxLength

end Url

end Backlog.Http
