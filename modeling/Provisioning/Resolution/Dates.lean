import Provisioning.Resolution

/-!
# Dates in a resolution

A date with an invalid pattern cannot be shown. That gets in the way of a resolution where an item
reads such a date, and where a template is rendered for a holder that has one: a derived attribute,
a condition or the account link. What would come after the first fault is not looked at.
-/

namespace Provisioning.Resolver

/-- Whether a condition is decided without rendering it. -/
def isFixed (condition : String) : Bool :=
  ["", "false", "true"].contains (Text.trim condition)

/-- Whether the values that an item reads from a holder can be shown. -/
def canRead (item : MappingItem) (h : Holder) : Bool :=
  match item.internalKind.sort? with
  | some .plain => (h.plain? item.internalName).all PlainAttribute.isPrintable
  | some .derived => (h.derived? item.internalName).isNone || h.isPrintable
  | _ => true

/-- Whether an item can be taken in with what it gives. -/
def canTake (request : ResolutionRequest) (item : MappingItem) (c : Contribution) : Bool :=
  let holders := request.subject.related item.internalKind.owner
  (item.givesPassword || holders.all (canRead item)) &&
    (!c.values.isEmpty || isFixed item.mandatoryCondition || request.subject.holder.isPrintable)

/-- Whether all items can be taken in, and the account link rendered after them. -/
def canTakeAll (resolver : Resolver) (request : ResolutionRequest) (draws : Draws) :
    List MappingItem → Bool
  | [] => request.resource.accountLink.isNone || request.subject.holder.isPrintable
  | item :: rest =>
    match resolver.itemContribution request draws item with
    | .error _ => true
    | .ok none => resolver.canTakeAll request draws rest
    | .ok (some c) => canTake request item c && resolver.canTakeAll request draws rest

/-- Whether every date that a resolution meets can be shown. -/
def canResolve (resolver : Resolver) (request : ResolutionRequest) (draws : Draws) : Bool :=
  match mappingFor request with
  | .error _ => true
  | .ok mapping => resolver.canTakeAll request draws mapping.propagationItems

end Provisioning.Resolver
