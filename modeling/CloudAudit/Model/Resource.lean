import CloudAudit.Json.Walk
import CloudAudit.Json.Loose
import CloudAudit.Schema.Reader

namespace CloudAudit

/-- One resource: a virtual machine, a volume, a firewall and so on, with untyped details in
`specs`. -/
structure Resource where
  id : String
  /-- The provider's own number for the resource; firewalls name their targets by it. -/
  providerId : String := ""
  label : String := ""
  type : String
  region : String := ""
  plan : String := ""
  monthlyCost : Float := 0.0
  status : String := ""
  specs : Fields := []

namespace Resource

def toJson (r : Resource) : Json := .obj [
  ("id", .str r.id), ("provider_id", .str r.providerId), ("label", .str r.label),
  ("resource_type", .str r.type), ("region", .str r.region), ("plan_type", .str r.plan),
  ("monthly_cost", .float r.monthlyCost), ("status", .str r.status),
  ("specs", .obj (finiteFields r.specs))]

def schema : Schema Resource where
  name := "Resource"
  record :=
    mk <$> .required "id" Reader.string
      <*> .field "provider_id" Reader.string ""
      <*> .field "label" Reader.string ""
      <*> .required "resource_type" Reader.string
      <*> .field "region" Reader.string ""
      <*> .field "plan_type" Reader.string ""
      <*> .field "monthly_cost" Reader.float 0.0
      <*> .field "status" Reader.string ""
      <*> .field "specs" Reader.object []
  toJson := toJson

def numericId? (r : Resource) : Option Int := Text.readInt? r.providerId.toList

def spec (r : Resource) (name : String) : Json := r.specs.getD name

def hasSpec (r : Resource) (name : String) : Bool := (r.specs.get? name).isSome

end Resource

end CloudAudit
