/-
# Domains

A domain is read by what its characters mean: they are mapped, put in composed form and cut at
full stops into labels, each of which has to be right by itself and in its direction.

* `Domain.normalize?`: the domain that is meant, unless it is none.
-/
import SubscriptionRegistry.Text.Split
import SubscriptionRegistry.Url.Domain.Label
import SubscriptionRegistry.Url.Domain.Meaning

namespace SubscriptionRegistry
namespace Url
namespace Domain

/-- Whether texts of labels may stand in one domain. -/
def isDomain (labels : List (List Char)) : Bool := !labels.any runsLeft || labels.all isDirected

/-- The domain that is meant, if all its characters may stand in one and its labels are right. -/
def normalize? (s : List Char) : Option (List Char) :=
  if s.any isDisallowed then none
  else
    let domain := Text.compose (map s)
    ((Text.split '.' domain).mapM read?).bind fun labels =>
      if isDomain labels then some domain else none

end Domain
end Url
end SubscriptionRegistry
