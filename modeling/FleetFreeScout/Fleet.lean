import Mathlib.Data.List.AList

namespace FleetFreeScout

/-- A Go time.Time; the worker only copies it and prints it. -/
structure Time where
  unixNano : Int
deriving DecidableEq, Repr

/-- One entry of a FreeScout integration list (fleet.FreeScoutIntegration), with the
fields getClient reads. -/
structure FreeScoutIntegration where
  url : String
  apiToken : String
  mailboxID : Int
  customerEmail : String
  assignTo : Int
  enableFailingPolicies : Bool
  enableSoftwareVulnerabilities : Bool
deriving DecidableEq, Repr

structure Integrations where
  freescout : List FreeScoutIntegration
deriving DecidableEq, Repr

structure AppConfig where
  integrations : Integrations
deriving DecidableEq, Repr

/-- A team's own integration settings (tm.Config.Integrations). -/
structure TeamIntegrations where
  freescout : List FreeScoutIntegration
deriving DecidableEq, Repr

structure TeamLite where
  integrations : TeamIntegrations
deriving DecidableEq, Repr

structure HostVulnerabilitySummary where
  id : Nat
  displayName : String
  softwareInstalledPaths : List String
deriving DecidableEq, Repr

structure PolicySetHost where
  id : Nat
  displayName : String
deriving DecidableEq, Repr

structure Policy where
  id : Nat
  name : String
  critical : Bool
  teamID : Option Nat
deriving DecidableEq, Repr

structure SoftwareVulnerability where
  softwareID : Nat
  cve : String
deriving DecidableEq, Repr

def SoftwareVulnerability.getCVE (v : SoftwareVulnerability) : String := v.cve

def SoftwareVulnerability.affected (v : SoftwareVulnerability) : Nat := v.softwareID

structure CVEMeta where
  cvssScore : Option Float
  epssProbability : Option Float
  cisaKnownExploit : Option Bool
  published : Option Time
deriving Repr

/-- Modelled from the spec: vulnArgs is declared outside src/; its fields are the
vulnerability payload the spec lists and the worker reads. -/
structure VulnArgs where
  cve : String
  affectedSoftwareIDs : List Nat
  epssProbability : Option Float
  cvssScore : Option Float
  cisaKnownExploit : Option Bool
  cvePublished : Option Time
deriving Repr

/-- Modelled from the spec: failingPolicyArgs is declared outside src/; its fields are
the failing-policy payload the spec lists. -/
structure FailingPolicyArgs where
  policyID : Nat
  policyName : String
  policyCritical : Bool
  teamID : Option Nat
  hosts : List PolicySetHost
deriving DecidableEq, Repr

/-- The job payload: a nil pointer is `none`. -/
structure FreeScoutArgs where
  vulnerability : Option VulnArgs
  failingPolicy : Option FailingPolicyArgs
deriving Repr

/-- Modelled from the spec: the integration-type constants are declared outside src/;
their values are the cache-key prefixes the clientsCache comment shows. -/
def intgTypeVuln : String := "vuln"

/-- Modelled from the spec: see intgTypeVuln. -/
def intgTypeFailingPolicy : String := "failingPolicy"

def freescoutName : String := "freescout"

def FreeScoutArgs.integrationType (a : FreeScoutArgs) : String :=
  match a.failingPolicy with
  | none => intgTypeVuln
  | some _ => intgTypeFailingPolicy

/-- A queued worker job (fleet.Job) with its decoded arguments. -/
structure Job where
  name : String
  args : FreeScoutArgs
deriving Repr

/-- The answers of the datastore the worker reads; the environment may change them
between any two reads. -/
structure Datastore where
  appConfig : Except String AppConfig
  teamLite : Nat → Except String TeamLite
  hostsByCVE : String → Except String (List HostVulnerabilitySummary)
  hostVulnSummariesBySoftwareIDs : List Nat → Except String (List HostVulnerabilitySummary)
  newJob : Job → Except String Unit

/-- Modelled from the spec: ctxerr.Wrap labels an error with the step that failed. -/
def wrap (msg err : String) : String := msg ++ ": " ++ err

theorem intgType_ne : intgTypeVuln ≠ intgTypeFailingPolicy := by decide

@[simp] theorem integrationType_none {a : FreeScoutArgs} (h : a.failingPolicy = none) :
    a.integrationType = intgTypeVuln := by
  simp [FreeScoutArgs.integrationType, h]

theorem integrationType_eq_failingPolicy_iff {a : FreeScoutArgs} :
    a.integrationType = intgTypeFailingPolicy ↔ a.failingPolicy.isSome := by
  cases h : a.failingPolicy <;> simp [FreeScoutArgs.integrationType, h, intgTypeVuln,
    intgTypeFailingPolicy]

end FleetFreeScout
