import CloudAudit.Builtin.Rules
import CloudAudit.Source.Inputs

namespace CloudAudit.Demo

def accountId : String := "demo"

def tags (names : List String) : String × Json := ("tags", .arr (names.map .str))

def backups (enabled : Bool) (last : Json) : String × Json :=
  ("backups", .obj [("enabled", .bool enabled), ("last_successful", last)])

/-- A rule of the firewall that accepts connections to a port from some addresses. -/
def accept (label ports : String) (addresses : Fields) (more : Fields := []) : Json :=
  .obj ([("label", .str label), ("action", .str "ACCEPT"), ("protocol", .str "TCP"),
    ("ports", .str ports), ("addresses", .obj addresses)] ++ more)

def anyIpv4 : String × Json := ("ipv4", .arr [.str "0.0.0.0/0"])

def anyIpv6 : String × Json := ("ipv6", .arr [.str "::/0"])

def webServer : Resource where
  id := "linode-web-1"
  providerId := "5001"
  label := "web-1"
  type := "linode"
  region := "us-east"
  plan := "g6-standard-2"
  status := "running"
  specs := [
    tags ["owner:platform", "environment:prod"], backups true (.str "2026-01-14T03:00:00Z"),
    ("disk_encryption", .str "enabled"), ("locks", .arr []),
    ("attached_firewalls", .arr [.obj [
      ("id", .int 31), ("label", .str "web-fw"), ("status", .str "enabled")]])]

def batchServer : Resource where
  id := "linode-batch-1"
  providerId := "5002"
  label := "batch-1"
  type := "linode"
  region := "ap-south"
  plan := "g6-dedicated-4"
  status := "offline"
  specs := [
    tags [], backups false .null, ("disk_encryption", .str "disabled"),
    ("locks", .arr [.str "cannot_delete"])]

def webFirewall : Resource where
  id := "firewall-web"
  providerId := "31"
  label := "web-fw"
  type := "firewall"
  region := "us-east"
  status := "enabled"
  specs := [
    ("inbound_policy", .str "DROP"), ("outbound_policy", .str "ACCEPT"),
    ("entities", .arr [.obj [
      ("id", .int 5001), ("type", .str "linode"), ("label", .str "web-1")]]),
    ("inbound_rules_detail", .arr [
      accept "https" "443" [anyIpv4, anyIpv6] [("description", .str "Public HTTPS")],
      accept "ssh-anywhere" "22" [anyIpv4]]),
    ("outbound_rules_detail", .arr [])]

def dataVolume : Resource where
  id := "volume-data-1"
  providerId := "7001"
  label := "data-1"
  type := "volume"
  region := "us-east"
  status := "active"
  specs := [("linode_id", .int 5001), ("encryption", .str "enabled"), tags ["owner:platform"]]

def orders : Resource where
  id := "database-orders"
  providerId := "9001"
  label := "orders"
  type := "database"
  region := "us-east"
  status := "active"
  specs := [
    ("allow_list", .arr [.str "0.0.0.0/0"]), ("public_access", .bool true), tags []]

/-- A rule of the account's own: backups and encryption together. -/
def backupsAndEncryption : Rule where
  id := "demo-backups-and-encryption"
  name := "Backups and disk encryption"
  description := "Production instances need both backups and encrypted disks."
  conditionType := ConditionKind.composite.id
  config := [
    ("operator", .str "AND"),
    ("rule_ids", .arr [.str (Builtin.ruleId "linode-backups-enabled"),
      .str (Builtin.ruleId "linode-disk-encryption")])]
  severity := .critical
  accountId := some accountId

def inputs : Inputs where
  accountId := accountId
  resources := [webServer, batchServer, webFirewall, dataVolume, orders]
  extraRules := [backupsAndEncryption]

def source : InventorySource := fun id =>
  if id = accountId then return inputs
  else throw (.missingFile (((Path.ofText "accounts").child id).child "resources.json"))

end CloudAudit.Demo
