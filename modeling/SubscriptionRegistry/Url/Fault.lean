/-
# Why a callback address is no absolute URL
-/

namespace SubscriptionRegistry
namespace Url

/-- The reasons an address can be refused for. -/
inductive Fault
  /-- There is no scheme in front. -/
  | relative
  /-- A host is required and there is none. -/
  | emptyHost
  | invalidPort
  | invalidIpv4
  | invalidIpv6
  /-- An opaque host holds a character that no host may hold. -/
  | invalidDomainCharacter
  /-- A domain cannot be brought to its ASCII form. -/
  | invalidInternationalDomain
  /-- The address has a scheme and nothing that a path could be resolved against. -/
  | notHierarchical
deriving DecidableEq, Repr

/-- The reason in words. -/
def Fault.message : Fault → String
  | .relative => "relative URL without a base"
  | .emptyHost => "empty host"
  | .invalidPort => "invalid port number"
  | .invalidIpv4 => "invalid IPv4 address"
  | .invalidIpv6 => "invalid IPv6 address"
  | .invalidDomainCharacter => "invalid domain character"
  | .invalidInternationalDomain => "invalid international domain name"
  | .notHierarchical => "not a hierarchical URL"

end Url
end SubscriptionRegistry
