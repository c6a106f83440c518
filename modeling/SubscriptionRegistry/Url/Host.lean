/-
# Hosts

The host of an address.  Schemes that are known to be about hosts read a domain or an IP
address; other schemes keep the text and only refuse some characters.

* `Host.checkSpecial`: the verdict for known schemes.
* `Host.checkOpaque`: the verdict for all others.
-/
import SubscriptionRegistry.Text.Utf8
import SubscriptionRegistry.Url.Fault
import SubscriptionRegistry.Url.Ipv4
import SubscriptionRegistry.Url.Ipv6
import SubscriptionRegistry.Url.Domain

namespace SubscriptionRegistry
namespace Url
namespace Host

/-- The bytes of a text in which `%` and two hexadecimal digits stand for a byte. -/
def unescape : List Char → List UInt8
  | [] => []
  | '%' :: a :: b :: rest =>
    match digit? 16 a, digit? 16 b with
    | some x, some y => UInt8.ofNat (x * 16 + y) :: unescape rest
    | _, _ => Utf8.encodeChar '%' ++ unescape (a :: b :: rest)
  | c :: rest => Utf8.encodeChar c ++ unescape rest

/-- The verdict on the text of an IPv6 address and what follows it, after the bracket. -/
def checkBracketed (s : List Char) : Except Fault Unit :=
  match s.reverse with
  | ']' :: inner => if Ipv6.isAddress inner.reverse then .ok () else .error .invalidIpv6
  | _ => .error .invalidIpv6

/-- The verdict on a host of a known scheme. -/
def checkSpecial : List Char → Except Fault Unit
  | '[' :: rest => checkBracketed rest
  | s =>
    match (Utf8.decode (unescape s)).toOption.bind Domain.normalize? with
    | none => .error .invalidInternationalDomain
    | some domain =>
      if domain.isEmpty then .error .emptyHost
      else if Ipv4.endsInNumber domain && (Ipv4.parse? domain).isNone then .error .invalidIpv4
      else .ok ()

/-- Characters that no host of any scheme may hold. -/
def isForbidden (c : Char) : Bool :=
  ['\x00', '\t', '\n', '\r', ' ', '#', '/', ':', '<', '>', '?', '@', '[', '\\', ']', '^',
    '|'].contains c

/-- The verdict on a host of another scheme.  It may be empty. -/
def checkOpaque : List Char → Except Fault Unit
  | '[' :: rest => checkBracketed rest
  | s => if s.any isForbidden then .error .invalidDomainCharacter else .ok ()

end Host
end Url
end SubscriptionRegistry
