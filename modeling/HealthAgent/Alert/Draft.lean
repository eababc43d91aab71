import HealthAgent.Alert.Listing
/-!
# From a draft to an alert (specification §4.4)

A sensor drafts an alert; the agent completes it with its own identity. A live reading is published
only by a terminal draft, the last one of its device in a cycle. The identity of an alert is its
event time followed by a random text.
-/
namespace HealthAgent

/-- The identity that an agent puts on every alert. -/
structure AlertContext where
  siteId : UInt32
  rackId : UInt32
  nodeId : UInt32
  clusterId : UInt32
  hostId : String
  deriving DecidableEq, Repr

/-- What a sensor knows of an alert. -/
structure AlertDraft where
  origin : Origin
  resourceType : String
  resourceId : String
  kind : AlertKind
  severity : Severity
  eventTime : String
  specificInfo : Attributes
  /-- Live readings, published only by a terminal draft. -/
  dynamicInfo : Attributes
  terminal : Bool
  deriving DecidableEq, Repr

namespace AlertContext

/-- The alert of a draft, with `salt` as the random part of its identity. -/
def assemble (ctx : AlertContext) (salt : String) (d : AlertDraft) : AlertRecord where
  origin := d.origin
  kind := d.kind
  severity := d.severity
  alertId := d.eventTime ++ salt
  hostId := ctx.hostId
  info := {
    siteId := ctx.siteId, rackId := ctx.rackId, nodeId := ctx.nodeId, clusterId := ctx.clusterId
    resourceType := d.resourceType, resourceId := d.resourceId, eventTime := d.eventTime }
  specificInfo := flattenListings
    (if d.terminal then d.specificInfo.union d.dynamicInfo else d.specificInfo)

end AlertContext
end HealthAgent
