import CloudAudit.Builtin.Profiles
import CloudAudit.Builtin.Rules
import CloudAudit.Service.Evaluation
import CloudAudit.Source.Demo

namespace CloudAudit

/-- The inventory source that an environment names: the files under its folder, or those that come
with the program. -/
def InventorySource.ofEnvironment (b : Bounds) (env : Environment) (files : Path → AccountFiles) :
    Except String InventorySource :=
  let name := (env.lookup "COMPLIANCE_INVENTORY_SOURCE").getD "fixtures"
  let folder := env.value "COMPLIANCE_FIXTURES_ROOT"
  if !isFileSourceName name then .error (unknownSourceMessage name)
  else .ok (if folder = "" then Demo.source else .ofFiles b (.ofText folder) files)

def clientFactory (b : Bounds) (env : Environment) (web : WebService) :
    Json → Wire → Except InputFault (Option (Provider Wire)) × Wire := fun token wire =>
  (((ClientConfig.ofEnvironment env token).mapError .settings).map
    (some ∘ Client.provider b web), wire)

namespace Pipeline

def ofSettings {σ : Type} (b : Bounds) (settings : EvaluationSettings)
    (inventory : InventorySource)
    (factory : Json → σ → Except InputFault (Option (Provider σ)) × σ) : Pipeline σ where
  inventory := inventory
  bounds := b
  limits := .ofWorkers settings.workers settings.timeoutSeconds
  factory := factory
  snapshotFolder := settings.snapshotFolder

def ofEnvironment (b : Bounds) (env : Environment) (inventory : InventorySource)
    (web : WebService) : Except SettingFault (Pipeline Wire) :=
  (EvaluationSettings.ofEnvironment env).map fun settings =>
    ofSettings b settings inventory (clientFactory b env web)

end Pipeline

def Service.builtin {σ : Type} (ids : IdSupply) (outside : σ) : Service σ where
  store := .ofCatalogue Builtin.rules Builtin.profiles
  ids := ids
  outside := outside

end CloudAudit
