import CloudAudit.Json.Loose
import CloudAudit.Network.Cidr
import CloudAudit.Schema.Reader
import CloudAudit.Text.Blank
import CloudAudit.Text.Case
import CloudAudit.Text.Numeral

namespace CloudAudit

namespace Ports

def all : String := "1-65535"

def segments (cs : List Char) : List (List Char) := Text.splitOnChar ',' cs

/-- The specification without blanks and empty items. -/
def normalize (spec : String) : String :=
  ",".intercalate
    (((segments spec.toList).map Text.squeeze).filter (!·.isEmpty) |>.map String.ofList)

/-- Whether the specification is blank or exactly that of every port. -/
def isAll (spec : String) : Bool :=
  let text := Text.trim spec
  text == "" || text == all

/-- Whether one item of a specification names the port. -/
def segmentHas (port : Int) (segment : List Char) : Bool :=
  let item := Text.trimChars segment
  match Text.cutAt? '-' item with
  | some (low, high) =>
    match Text.readInt? low, Text.readInt? high with
    | some lo, some hi => lo ≤ port && port ≤ hi
    | _, _ => false
  | none => Text.readInt? item == some port

def has (port : Int) (spec : String) : Bool :=
  let text := Text.trimChars spec.toList
  text.isEmpty || (segments text).any (segmentHas port)

end Ports

structure RuleAddresses where
  ipv4 : List String := []
  ipv6 : List String := []
  deriving DecidableEq, Repr

namespace RuleAddresses

private def addressList : Reader (List String)
  | .null => .ok []
  | v => Reader.list Reader.string v

def schema : Schema RuleAddresses where
  name := "RuleAddresses"
  record := mk <$> .field "ipv4" addressList [] <*> .field "ipv6" addressList []
  toJson a := .obj [("ipv4", .arr (a.ipv4.map .str)), ("ipv6", .arr (a.ipv6.map .str))]

end RuleAddresses

structure FirewallRule where
  action : Option String := some ""
  protocol : Option String := some ""
  ports : Option String := some ""
  addresses : RuleAddresses := {}
  label : Option String := some ""
  description : Option String := some ""
  deriving DecidableEq, Repr

namespace FirewallRule

def wildcards : List String := ["0.0.0.0/0", "::/0", "2000::/3"]

def portlessProtocols : List String := ["ICMP", "IPENCAP"]

private def addresses? : Reader RuleAddresses
  | .null => .ok {}
  | v => RuleAddresses.schema.record.reader v

private def text (name : String) : Record (Option String) :=
  .field name (Reader.optional Reader.string) (some "")

def schema : Schema FirewallRule where
  name := "FirewallRule"
  record :=
    mk <$> text "action" <*> text "protocol" <*> text "ports" <*> .field "addresses" addresses? {}
      <*> text "label" <*> text "description"
  toJson r := .obj [
    ("action", .ofOption r.action), ("protocol", .ofOption r.protocol),
    ("ports", .ofOption r.ports), ("addresses", RuleAddresses.schema.toJson r.addresses),
    ("label", .ofOption r.label), ("description", .ofOption r.description)]

/-- The label, or a word for a rule without one. -/
def displayLabel (r : FirewallRule) : String :=
  let s := r.label.getD ""
  if s = "" then "unnamed" else s

def normalizedAction (r : FirewallRule) : String := Text.upper (r.action.getD "")

def normalizedProtocol (r : FirewallRule) : String := Text.upper (r.protocol.getD "")

def isAccept (r : FirewallRule) : Bool := r.normalizedAction == "ACCEPT"

def isTcpOrAll (r : FirewallRule) : Bool :=
  r.normalizedProtocol == "TCP" || r.normalizedProtocol == "ALL"

def coversAllPorts (r : FirewallRule) : Bool :=
  r.normalizedProtocol == "ALL" || Ports.isAll (r.ports.getD "")

def coversPort (r : FirewallRule) (port : Int) : Bool :=
  r.normalizedProtocol == "ALL" || Ports.has port (r.ports.getD "")

/-- All addresses, those of version 4 first. -/
def allAddresses (r : FirewallRule) : List String := r.addresses.ipv4 ++ r.addresses.ipv6

def isOpenToWorld (r : FirewallRule) : Bool := r.allAddresses.any wildcards.contains

private def sorted (ss : List String) : String :=
  ",".intercalate (ss.mergeSort fun a b => decide (a ≤ b))

/-- What two rules have in common when they are the same. -/
def fingerprint (r : FirewallRule) : String :=
  "|".intercalate [r.normalizedAction, r.normalizedProtocol, Ports.normalize (r.ports.getD ""),
    sorted r.addresses.ipv4, sorted r.addresses.ipv6]

end FirewallRule

end CloudAudit
