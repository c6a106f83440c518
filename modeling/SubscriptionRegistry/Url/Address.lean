/-
# Absolute addresses

Reads an address from left to right as far as it can be wrong: the scheme, the user in front
of the last `@`, the host and the port.  Path, query and fragment are never wrong.

* `Address.check`: whether a text is an absolute URL with a path, and if not, why.
-/
import SubscriptionRegistry.Url.Host

namespace SubscriptionRegistry
namespace Url
namespace Address

/-! ## 1. Characters that do not count -/

/-- Controls and spaces, which are cut off at both ends. -/
def isMargin (c : Char) : Bool := c ≤ ' '

/-- Line breaks and tabs, which do not count anywhere. -/
def isBreak (c : Char) : Bool := c = '\t' || c = '\n' || c = '\r'

/-- The characters of an address that count. -/
def trim (s : List Char) : List Char :=
  (((s.dropWhile isMargin).reverse.dropWhile isMargin).reverse).filter fun c => !isBreak c

/-! ## 2. Schemes -/

/-- What a scheme asks of the rest of the address. -/
inductive Scheme
  /-- A host must follow, however many slashes stand before it. -/
  | special
  /-- A path on some machine; the host may be missing. -/
  | file
  /-- Anything else. -/
  | other
deriving DecidableEq, Repr

/-- The kind of a scheme, given in lower case. -/
def Scheme.ofName (name : String) : Scheme :=
  if ["http", "https", "ws", "wss", "ftp"].contains name then .special
  else if name = "file" then .file
  else .other

/-- A character of a scheme after its first. -/
def isSchemeChar (c : Char) : Bool := c.isAlphanum || c = '+' || c = '-' || c = '.'

/-- The scheme in front of the first colon and what follows the colon. -/
def scheme? (s : List Char) : Option (Scheme × List Char) :=
  match s.dropWhile isSchemeChar with
  | ':' :: rest =>
    if (s.head?.map Char.isAlpha).getD false then
      some (.ofName (String.ofList ((s.takeWhile isSchemeChar).map Char.toLower)), rest)
    else none
  | _ => none

/-! ## 3. Authority -/

/-- The characters that end the authority. -/
def endsAuthority (backslash : Bool) (c : Char) : Bool :=
  c = '/' || c = '?' || c = '#' || (backslash && c = '\\')

/-- The user in front of the last `@`, if there is one, and the rest. -/
def splitUser (backslash : Bool) (s : List Char) : Option (List Char) × List Char :=
  let authority := s.takeWhile fun c => !endsAuthority backslash c
  let host := (authority.reverse.takeWhile (· ≠ '@')).reverse
  if host.length = authority.length then (none, s)
  else
    (some (authority.take (authority.length - host.length - 1)),
      s.drop (authority.length - host.length))

/-- The host in front of the first colon outside brackets, and the rest. -/
def splitHost (backslash bracketed : Bool) : List Char → List Char × List Char
  | [] => ([], [])
  | c :: rest =>
    if (c = ':' && !bracketed) || endsAuthority backslash c then ([], c :: rest)
    else
      let bracketed := if c = '[' then true else if c = ']' then false else bracketed
      let (host, after) := splitHost backslash bracketed rest
      (c :: host, after)

/-- Reads on in a port of which the digits so far spell `high`. -/
def checkPortFrom (high : Nat) : List Char → Except Fault Unit
  | [] => .ok ()
  | c :: rest =>
    match digit? 10 c with
    | some d =>
      if 65535 < high * 10 + d then .error .invalidPort else checkPortFrom (high * 10 + d) rest
    | none => if endsAuthority true c then .ok () else .error .invalidPort

/-- The verdict on what follows the host. -/
def checkPort : List Char → Except Fault Unit
  | ':' :: rest => checkPortFrom 0 rest
  | _ => .ok ()

/-- The verdict on host and port.  `named` tells whether a user stands in front. -/
def checkHostPort (special named : Bool) (s : List Char) : Except Fault Unit :=
  let (host, after) := splitHost special false s
  if host.isEmpty && (special || after.head? = some ':') then .error .emptyHost
  else do
    if special then Host.checkSpecial host else Host.checkOpaque host
    checkPort after
    if host.isEmpty && named then .error .emptyHost else .ok ()

/-- The verdict on what follows the two slashes. -/
def checkAuthority (special : Bool) (s : List Char) : Except Fault Unit :=
  match splitUser special s with
  | (none, rest) => checkHostPort special false rest
  | (some [], rest) =>
    if (rest.head?.map (endsAuthority special)).getD false then .error .emptyHost
    else checkHostPort special false rest
  | (some user, rest) => checkHostPort special (user ≠ [':']) rest

/-! ## 4. Addresses -/

/-- A letter and a colon or bar: a drive, not a host. -/
def isDrive : List Char → Bool
  | [a, b] => a.isAlpha && (b = ':' || b = '|')
  | _ => false

/-- A slash of either kind. -/
def isSlash (c : Char) : Bool := c = '/' || c = '\\'

/-- The verdict on a file address after its colon. -/
def checkFile : List Char → Except Fault Unit
  | a :: b :: rest =>
    if isSlash a && isSlash b then
      let host := rest.takeWhile fun c => !endsAuthority true c
      if host.isEmpty || isDrive host then .ok () else Host.checkSpecial host
    else .ok ()
  | _ => .ok ()

/-- The verdict on an address of any other scheme after its colon. -/
def checkOther : List Char → Except Fault Unit
  | '/' :: '/' :: rest => checkAuthority false rest
  | '/' :: _ => .ok ()
  | _ => .error .notHierarchical

/-- Whether the text is an absolute URL with a path, and if not, why. -/
def check (address : String) : Except Fault Unit :=
  match scheme? (trim address.toList) with
  | none => .error .relative
  | some (.special, rest) => checkAuthority true (rest.dropWhile isSlash)
  | some (.file, rest) => checkFile rest
  | some (.other, rest) => checkOther rest

end Address
end Url
end SubscriptionRegistry
