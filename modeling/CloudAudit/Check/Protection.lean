import CloudAudit.Check.Outcome
import CloudAudit.Network.FirewallRule

namespace CloudAudit

namespace Inventory

def firewalls (inv : Inventory) : List Resource := inv.resources.filter (·.type == "firewall")

/-- The last firewall with a number. -/
def firewall? (inv : Inventory) (number : Int) : Option Resource :=
  inv.firewalls.reverse.find? (·.numericId? == some number)

/-- The numbers of the firewalls, each once, in the order of their first firewall. -/
def firewallNumbers (inv : Inventory) : List Int :=
  (inv.firewalls.filterMap Resource.numericId?).foldl
    (fun ns n => if ns.contains n then ns else ns ++ [n]) []

end Inventory

/-- A firewall that protects a resource, as the inventory shows it there. -/
structure Protector where
  number : Int
  label : Json
  status : Json

namespace Protector

def toJson (p : Protector) : Json :=
  .obj [("id", .int p.number), ("label", p.label), ("status", p.status)]

def isKnown (found : List Protector) (number : Int) : Bool := found.any (·.number == number)

/-- Adds the firewall of an item on the resource's own list; items without a number are skipped. -/
def addAttached (found : List Protector) (item : Json) : Except DataFault (List Protector) :=
  match item with
  | .obj fields => do
    match ← (Fields.getD fields "id").toInt? with
    | some n =>
      if isKnown found n then .ok found
      else .ok (found ++ [⟨n, (Fields.getD fields "label").orElse (.str ""),
        (Fields.getD fields "status").orElse (.str "")⟩])
    | none => .ok found
  | _ => .ok found

/-- Whether one of the targets of a firewall has the number; the first match ends the search. -/
def isTarget (number : Int) : List Json → Except DataFault Bool
  | [] => .ok false
  | .obj fields :: rest => do
    if (← (Fields.getD fields "id").toInt?) = some number then .ok true else isTarget number rest
  | _ :: rest => isTarget number rest

def addTargeting (target : Int) (found : List Protector) (fw : Resource) :
    Except DataFault (List Protector) :=
  match fw.numericId? with
  | none => .ok found
  | some n =>
    if isKnown found n then .ok found
    else do
      let entities ← (fw.spec "entities").itemsOrNone
      if ← isTarget target entities then .ok (found ++ [⟨n, .str fw.label, .str fw.status⟩])
      else .ok found

end Protector

/-- The firewalls that protect a resource. -/
def Inventory.protectors (inv : Inventory) (r : Resource) : Except DataFault (List Protector) := do
  let attached ← (← (r.spec "attached_firewalls").itemsOrNone).foldlM Protector.addAttached []
  match r.numericId? with
  | none => .ok attached
  | some target => inv.firewalls.foldlM (Protector.addTargeting target) attached

end CloudAudit
