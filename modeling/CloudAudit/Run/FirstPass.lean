import CloudAudit.Check.Registry

namespace CloudAudit

/-- The longest time in seconds that can be waited for a lock. -/
def longestWait : Float := 9223372036.0

theorem thirty_awaitable : ¬ longestWait < 30.0 := by decide +kernel

theorem longestWait_awaitable : ¬ longestWait < longestWait := by decide +kernel

structure LiveLimits where
  workers : Nat := 4
  timeoutSeconds : Float := 30.0
  isAwaitable : ¬ longestWait < timeoutSeconds := by exact thirty_awaitable

/-- At least one worker, and a time that can be waited: a longer one is cut. -/
def LiveLimits.ofWorkers (workers : Int) (timeoutSeconds : Float) : LiveLimits :=
  let workers := (max 1 workers).toNat
  if h : longestWait < timeoutSeconds then
    { workers, timeoutSeconds := longestWait, isAwaitable := longestWait_awaitable }
  else { workers, timeoutSeconds, isAwaitable := h }

/-- The provider's state and the number of workers that wait for an answer that does not come. -/
structure LivePool (σ : Type) where
  state : σ
  stuck : Nat := 0

namespace FirstPass

def timedOut (limits : LiveLimits) : Outcome :=
  .notApplicable ("Live check timed out after " ++ Number.general limits.timeoutSeconds ++ "s.")

/-- Turns a contained fault into an outcome; other faults end the run. -/
def contain (outcome : Except CheckFault (List Outcome)) : Except CheckFault (List Outcome) :=
  match outcome with
  | .ok outcomes => .ok outcomes
  | .error f =>
    if f.isContained then .ok [.notApplicable ("Could not evaluate this rule: " ++ f.message)]
    else .error f

def containLive (outcome : Except CheckFault (List Outcome)) : List Outcome :=
  match contain outcome with
  | .ok outcomes => outcomes
  | .error f => [.notApplicable ("Live check failed: " ++ f.report)]

/-- Runs a live check. Once all workers are stuck, later checks never start. -/
def runLive {σ : Type} (limits : LiveLimits) (provider : Option (Provider σ)) (check : LiveCheck)
    (rule : Rule) (resource : Option Resource) : StateM (LivePool σ) (List Outcome) := fun pool =>
  match provider with
  | none => ([.notApplicable ("No API token available to " ++ check.purpose ++ ".")], pool)
  | some provider =>
    if limits.workers ≤ pool.stuck then ([timedOut limits], pool)
    else
      match check.question rule resource with
      | .error f => (containLive (.error f), pool)
      | .ok call =>
        match provider.call call pool.state with
        | (.answer v, state) => (containLive (check.judge rule (.ok v)), { pool with state })
        | (.fault f, state) => (containLive (check.judge rule (.error f)), { pool with state })
        | (.pending, state) => ([timedOut limits], ⟨state, pool.stuck + 1⟩)

def verdicts (rule : Rule) (resource : Option Resource) (outcomes : List Outcome) : List Verdict :=
  outcomes.map fun o => ⟨rule.id, resource.map Resource.id, o.status, o.detail⟩

def checkResource (check : ResourceCheck) (rule : Rule) (inv : Inventory) (resource : Resource) :
    Except CheckFault (List Verdict) :=
  (contain ((check rule resource inv).map ([·]))).map (verdicts rule (some resource))

def checkRule {σ : Type} (limits : LiveLimits) (provider : Option (Provider σ)) (inv : Inventory)
    (rule : Rule) : ExceptT CheckFault (StateM (LivePool σ)) (List Verdict) :=
  let targets := rule.applicable inv.resources
  match rule.check? with
  | none => pure (targets.flatMap fun resource =>
      verdicts rule (some resource) [.notApplicable "Rule condition not recognized."])
  | some (.resource check) => do
    let found ← ExceptT.mk (pure (targets.mapM (checkResource check rule inv)))
    return found.flatten
  | some (.liveAccount check) => do
    return verdicts rule none (← runLive limits provider check rule none)
  | some (.liveResource check) => do
    let found ← targets.mapM fun resource => do
      return verdicts rule (some resource) (← runLive limits provider check rule (some resource))
    return found.flatten

def run {σ : Type} (limits : LiveLimits) (provider : Option (Provider σ)) (inv : Inventory)
    (rules : List Rule) : ExceptT CheckFault (StateM (LivePool σ)) (List Verdict) := do
  let found ← (rules.filter (!·.isComposite)).mapM (checkRule limits provider inv)
  return found.flatten

end FirstPass

end CloudAudit
