import CloudAudit.Check.Instance

namespace CloudAudit.Check

open Outcome

def relevantUsers (excluded : List String) (users : List Json) : Except DataFault (List Json) := do
  let flags ← users.mapM fun user => do (← user.lookup "user_type").isAmong excluded
  return ((users.zip flags).filter (!·.2)).map (·.1)

def judgeUser (user : Json) : Except DataFault Outcome := do
  let name := ((← user.lookup "username").orElse (.str "unknown")).text
  match ← user.lookup "tfa_enabled" with
  | .bool true => return compliant ("User \"" ++ name ++ "\" has TFA enabled.")
  | _ => return nonCompliant ("User \"" ++ name ++ "\" does not have TFA enabled.")

/-- The items of an answer, which has to be a list or like one. -/
def answerItems (answer : Json) : Except DataFault (List Json) :=
  match answer.elements? with
  | some items => .ok items
  | none => .error (.notIterable answer.shape)

def tfaUsers : LiveCheck where
  purpose := "check user TFA status"
  question rule _ := do
    let _ ← rule.configAs TfaUsersConfig.schema
    return .users
  judge rule reply :=
    match reply with
    | .ok answer => do
      let cfg ← rule.configAs TfaUsersConfig.schema
      let users ← relevantUsers cfg.excludedTypes (← answerItems answer)
      if users.isEmpty then return [notApplicable "No users found to evaluate."]
      users.mapM fun user => judgeUser user
    | .error (.refused r) => .ok [notApplicable ("Could not fetch users: " ++ r.message)]
    | .error f => .error (.provider f)

def judgeLogin (allowed : List String) (login : Json) : Except DataFault Outcome := do
  let ip := (← login.lookup "ip").orElse (.str "unknown")
  let date ← login.lookup "datetime"
  let time := if date.truthy then date.toMoment? else none
  let label := ((← login.lookup "username").orElse (.str "unknown")).text ++ " from " ++ ip.text ++
    time.elim "" fun m => " on " ++ m.minuteText ++ " UTC"
  if ← ip.isAmong allowed then
    return compliant ("Login allowed: " ++ label ++ "; IP " ++ ip.text ++
      " is in the allowed list.")
  return nonCompliant ("Login from unexpected IP: " ++ label ++ "; IP " ++ ip.text ++
    " is not in the allowed list.")

def loginAllowedIps : LiveCheck where
  purpose := "check login history"
  question rule _ := do
    let _ ← rule.configAs LoginIpsConfig.schema
    return .logins
  judge rule reply :=
    match reply with
    | .ok answer => do
      let cfg ← rule.configAs LoginIpsConfig.schema
      if !answer.truthy then return [notApplicable "No login history found to evaluate."]
      if cfg.allowedIps.isEmpty then
        return [notApplicable "No allowed IPs configured for this rule."]
      (← answerItems answer).mapM fun login => judgeLogin cfg.allowedIps login
    | .error (.refused r) => .ok [notApplicable ("Could not fetch login history: " ++ r.message)]
    | .error f => .error (.provider f)

end CloudAudit.Check
