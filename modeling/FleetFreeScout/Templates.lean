import FleetFreeScout.Fleet
import FleetFreeScout.Strings

namespace FleetFreeScout.Worker

structure FreeScoutVulnTplArgs where
  nvdURL : String
  fleetURL : String
  cve : String
  hosts : List HostVulnerabilitySummary
  epssProbability : Option Float
  cvssScore : Option Float
  cisaKnownExploit : Option Bool
  cvePublished : Option Time

/-- Modelled from the spec: failingPoliciesTplArgs is declared outside src/; these are the
fields the failing-policy templates read. -/
structure FailingPoliciesTplArgs where
  fleetURL : String
  policyID : Nat
  policyName : String
  policyCritical : Bool
  teamID : Option Nat
  hosts : List PolicySetHost

/-- Modelled from the spec: newFailingPoliciesTplArgs is declared outside src/; it copies the
job's failing-policy payload next to the Fleet URL. -/
def newFailingPoliciesTplArgs (fleetURL : String) (args : FailingPolicyArgs) :
    FailingPoliciesTplArgs :=
  ⟨fleetURL, args.policyID, args.policyName, args.policyCritical, args.teamID, args.hosts⟩

/-- A template's `if` on a pointer: the text when it is set, nothing when it is nil. -/
def ifSet {α : Type} (x : Option α) (text : α → String) : String :=
  match x with
  | some a => text a
  | none => ""

def vulnSummary (args : FreeScoutVulnTplArgs) : String :=
  "Vulnerability " ++ args.cve ++ " detected on " ++ toString args.hosts.length ++ " host(s)"

/-- One iteration of the host range of the vulnerability description. -/
def vulnHostLine (fleetURL : String) (host : HostVulnerabilitySummary) : String :=
  "\n* [" ++ host.displayName ++ "](" ++ fleetURL ++ "/hosts/" ++ toString host.id ++ ")\n" ++
    String.join (host.softwareInstalledPaths.map fun path => "\n    * " ++ path ++ "\n") ++ "\n"

section

variable (formatFloat : Float → String) (formatTime : Time → String)

/-- The vulnerability description template, with fmt's printing of a float64 and of a
time.Time as parameters; `$end` caps the host range at 50. -/
def vulnDescription (args : FreeScoutVulnTplArgs) : String :=
  "See vulnerability (CVE) details in National Vulnerability Database (NVD) here: [" ++
    args.cve ++ "](" ++ args.nvdURL ++ args.cve ++ ").\n\n" ++
  ifSet args.epssProbability (fun p =>
    "\nProbability of exploit (reported by [FIRST.org/epss](https://www.first.org/epss/)): " ++
      formatFloat p ++ "\n") ++ "\n" ++
  ifSet args.cvssScore (fun score =>
    "CVSS score (reported by [NVD](https://nvd.nist.gov/)): " ++ formatFloat score ++ "\n") ++
    "\n" ++
  ifSet args.cvePublished (fun t =>
    "Published (reported by [NVD](https://nvd.nist.gov/)): " ++ formatTime t ++ "\n") ++ "\n" ++
  ifSet args.cisaKnownExploit (fun known =>
    "Known exploits (reported by [CISA](https://www.cisa.gov/known-exploited-vulnerabilities-catalog)): " ++
      (if known then "Yes" else "No") ++ "\n") ++
  "\n\nAffected hosts:\n\n\n" ++
  String.join ((args.hosts.take 50).map (vulnHostLine args.fleetURL)) ++
  "\n\nView the affected software and more affected hosts:\n\n1. Go to the [Software](" ++
    args.fleetURL ++ "/software/manage) page in Fleet.\n" ++
  "2. Above the list of software, in the **Search software** box, enter \"" ++ args.cve ++
    "\".\n" ++
  "3. Hover over the affected software and select **View all hosts**.\n\n----\n\n" ++
  "This conversation was created automatically by your Fleet FreeScout integration.\n"

end

def failingPolicySummary (args : FailingPoliciesTplArgs) : String :=
  args.policyName ++ " policy failed on " ++ toString args.hosts.length ++ " host(s)"

def failingPolicyHostLine (fleetURL : String) (host : PolicySetHost) : String :=
  "\n* [" ++ host.displayName ++ "](" ++ fleetURL ++ "/hosts/" ++ toString host.id ++ ")\n"

def failingPolicyDescription (args : FailingPoliciesTplArgs) : String :=
  (if args.policyCritical then "This policy is marked as **Critical** in Fleet.\n\n" else "") ++
  "Hosts:\n\n" ++
  String.join ((args.hosts.take 50).map (failingPolicyHostLine args.fleetURL)) ++
  "\n\nView hosts that failed " ++ args.policyName ++ " on the [**Hosts**](" ++ args.fleetURL ++
    "/hosts/manage/?order_key=hostname&order_direction=asc&" ++
    ifSet args.teamID (fun teamID => "team_id=" ++ toString teamID ++ "&") ++
    "policy_id=" ++ toString args.policyID ++ "&policy_response=failing) page in Fleet.\n\n" ++
  "----\n\nThis conversation was created automatically by your Fleet FreeScout integration.\n"

/-- Conversations are found again by their subject: a vulnerability ticket's subject names its
CVE and its number of affected hosts and nothing else, a failing-policy ticket's its policy name
and its number of failing hosts. -/
theorem subjects_identify_tickets :
    (∀ a b : FreeScoutVulnTplArgs, vulnSummary a = vulnSummary b ↔
      a.cve = b.cve ∧ a.hosts.length = b.hosts.length) ∧
    ∀ a b : FailingPoliciesTplArgs, failingPolicySummary a = failingPolicySummary b ↔
      a.policyName = b.policyName ∧ a.hosts.length = b.hosts.length := by
  have hvuln : " detected on ".data = " detected on".data ++ [' '] := rfl
  have hpolicy : " policy failed on ".data = " policy failed on".data ++ [' '] := rfl
  refine ⟨fun a b => ?_, fun a b => counted_eq_iff hpolicy rfl⟩
  rw [vulnSummary, vulnSummary, counted_eq_iff hvuln rfl]
  have hcve : "Vulnerability " ++ a.cve = "Vulnerability " ++ b.cve ↔ a.cve = b.cve :=
    ⟨fun h => String.ext (List.append_cancel_left (by rw [← String.data_append, h]; rfl)),
      congrArg _⟩
  rw [hcve]

end FleetFreeScout.Worker
