import CloudAudit.Check.Config
import CloudAudit.Json.Loose
import CloudAudit.Model.Finding
import CloudAudit.Model.Resource
import CloudAudit.Model.Rule
import CloudAudit.Provider.Call

namespace CloudAudit

structure Outcome where
  status : Status
  detail : String
  deriving DecidableEq, Repr

namespace Outcome

def compliant (detail : String) : Outcome := ⟨.compliant, detail⟩
def nonCompliant (detail : String) : Outcome := ⟨.nonCompliant, detail⟩
def notApplicable (detail : String) : Outcome := ⟨.notApplicable, detail⟩

end Outcome

inductive CheckFault where
  | data (fault : DataFault)
  | config (rejection : Rejection)
  | provider (fault : ProviderFault)

namespace CheckFault

def message : CheckFault → String
  | data f => f.message
  | config r => r.message
  | provider f => f.message

/-- Whether the fault is one that malformed data or configuration causes. The others end a run,
unless they arise in a live check. -/
def isContained : CheckFault → Bool
  | data .infiniteNumber | data (.notIndexable _) => false
  | data _ | config _ => true
  | provider (.broken kind _) => kind == .value || kind == .key || kind == .type
  | provider (.unreadableJson (.nestedTooDeep _)) => false
  | provider _ => true

/-- The fault with its name, as the failure of a live check is reported. -/
def report : CheckFault → String
  | data .infiniteNumber => "OverflowError(" ++ Text.quoted DataFault.infiniteNumber.message ++ ")"
  | data f => "AttributeError(" ++ Text.quoted f.message ++ ")"
  | provider (.broken kind m) => kind.report m
  | provider (.unreadableJson (.nestedTooDeep inList)) =>
    "RecursionError(" ++ Text.quoted (Json.ParseFault.nestedTooDeep inList).message ++ ")"
  | f => f.message

end CheckFault

instance : MonadLift (Except DataFault) (Except CheckFault) where
  monadLift x := x.mapError .data

instance : MonadLift (Except Rejection) (Except CheckFault) where
  monadLift x := x.mapError .config

structure Inventory where
  accountId : String
  resources : List Resource
  now : Time.Moment

abbrev ResourceCheck := Rule → Resource → Inventory → Except CheckFault Outcome

structure LiveCheck where
  /-- What the answer is needed for. -/
  purpose : String
  /-- The question, once the configuration is known to be right. -/
  question : Rule → Option Resource → Except CheckFault LiveCall
  /-- What the answer means. -/
  judge : Rule → Except ProviderFault Json → Except CheckFault (List Outcome)

def plural (count : Int) (one : String) (many : Option String := none) : String :=
  let word := many.getD ""
  if count = 1 then toString count ++ " " ++ one
  else toString count ++ " " ++ (if word = "" then one ++ "s" else word)

def commaList (ss : List String) : String := ", ".intercalate ss

end CloudAudit
