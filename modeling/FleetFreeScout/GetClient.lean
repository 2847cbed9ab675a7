import FleetFreeScout.Client

namespace FleetFreeScout

open Externalsvc

/-- The team whose configuration getClient reads (useTeamCfg and teamID, lines 141-145). -/
def FreeScoutArgs.teamScope (args : FreeScoutArgs) : Option Nat :=
  if args.integrationType = intgTypeFailingPolicy then args.failingPolicy.bind (·.teamID)
  else none

def FreeScoutArgs.clientKey (args : FreeScoutArgs) : String :=
  match args.teamScope with
  | some teamID => args.integrationType ++ ":" ++ toString teamID
  | none => args.integrationType ++ ":"

def FreeScoutIntegration.options (intg : FreeScoutIntegration) : FreeScoutOptions :=
  ⟨intg.url, intg.apiToken, intg.mailboxID, intg.customerEmail, intg.assignTo⟩

theorem FreeScoutArgs.integrationType_cases (a : FreeScoutArgs) :
    a.integrationType = intgTypeVuln ∨ a.integrationType = intgTypeFailingPolicy := by
  unfold FreeScoutArgs.integrationType
  split <;> simp

theorem FreeScoutArgs.teamScope_of_vuln {a : FreeScoutArgs} (h : a.failingPolicy = none) :
    a.teamScope = none := by
  simp [FreeScoutArgs.teamScope, h, intgTypeVuln, intgTypeFailingPolicy]

theorem FreeScoutArgs.integrationType_of_teamScope {a : FreeScoutArgs} {teamID : Nat}
    (h : a.teamScope = some teamID) : a.integrationType = intgTypeFailingPolicy := by
  unfold FreeScoutArgs.teamScope at h
  split at h
  next hk => exact hk
  next => simp at h

/-- A global key is shorter than every team key. -/
theorem FreeScoutArgs.clientKey_global_ne_team {a b : FreeScoutArgs} {t : Nat}
    (ha : a.teamScope = none) (hb : b.teamScope = some t) : a.clientKey ≠ b.clientKey := by
  intro h
  have hl := congrArg (fun s : String => s.data.length) h
  have hp := List.length_pos.mpr (toString_data_ne_nil t)
  have la : a.integrationType.data.length ≤ 13 := by
    rcases a.integrationType_cases with hk | hk <;> rw [hk] <;> decide
  have lb : intgTypeFailingPolicy.data.length = 13 := rfl
  have lc : ":".data.length = 1 := rfl
  simp only [FreeScoutArgs.clientKey, ha, hb, b.integrationType_of_teamScope hb,
    String.data_append, List.length_append] at hl
  omega

/-- Distinct scopes, an integration type with its team, never share a cache key. -/
theorem FreeScoutArgs.clientKey_eq_iff {a b : FreeScoutArgs} :
    a.clientKey = b.clientKey ↔
      a.integrationType = b.integrationType ∧ a.teamScope = b.teamScope := by
  refine ⟨fun h => ?_, fun ⟨hk, ht⟩ => by simp [FreeScoutArgs.clientKey, hk, ht]⟩
  have hdata := congrArg String.data h
  cases ha : a.teamScope with
  | none =>
    cases hb : b.teamScope with
    | none =>
      simp only [FreeScoutArgs.clientKey, ha, hb, String.data_append] at hdata
      exact ⟨String.ext (List.append_cancel_right hdata), rfl⟩
    | some t => exact absurd h (clientKey_global_ne_team ha hb)
  | some t =>
    cases hb : b.teamScope with
    | none => exact absurd h.symm (clientKey_global_ne_team hb ha)
    | some t' =>
      simp only [FreeScoutArgs.clientKey, ha, hb, a.integrationType_of_teamScope ha,
        b.integrationType_of_teamScope hb, String.data_append] at hdata
      exact ⟨by rw [a.integrationType_of_teamScope ha, b.integrationType_of_teamScope hb],
        congrArg some (toString_injective (String.ext (List.append_cancel_left hdata)))⟩

namespace Worker

/-- The mutable part of the worker's FreeScout job processor: the client cache guarded
by mu, keyed by integration type and team, and the number of NewClientFunc calls so far
(each call is passed its number as the address of the client it allocates). -/
structure FreeScout where
  clientsCache : AList (fun _ : String => Externalsvc.FreeScout)
  newClientCalls : Nat

def FreeScout.init : FreeScout := ⟨∅, 0⟩

/-- The condition of the loop over the team's matched integrations (line 168). -/
def teamEnabled (intgType : String) (intg : FreeScoutIntegration) : Bool :=
  intgType = intgTypeFailingPolicy && intg.enableFailingPolicies

/-- The condition of the loop over the global integrations (lines 181-182). -/
def globalEnabled (intgType : String) (intg : FreeScoutIntegration) : Bool :=
  (intgType = intgTypeVuln && intg.enableSoftwareVulnerabilities) ||
    (intgType = intgTypeFailingPolicy && intg.enableFailingPolicies)

/-- A loop of getClient over an integration list: the options of the first entry that
passes its condition, then break. -/
def firstOptions (enabled : FreeScoutIntegration → Bool) (intgs : List FreeScoutIntegration) :
    Option FreeScoutOptions :=
  (intgs.find? enabled).map FreeScoutIntegration.options

section

variable (matchWithIntegrations : TeamIntegrations → Integrations → Except String Integrations)

/-- The list the team-path loop ranges over: the team's integrations matched with the
global ones (line 162). -/
def teamIntegrations (ac : AppConfig) (tm : TeamLite) : Except String (List FreeScoutIntegration) :=
  (matchWithIntegrations tm.integrations ac.integrations).map (·.freescout)

/-- Lines 147-193 of getClient, the part that runs before f.mu.Lock(). -/
def loadOptions (ds : Datastore) (args : FreeScoutArgs) : Except String (Option FreeScoutOptions) :=
  match ds.appConfig with
  | .error err => .error err
  | .ok ac =>
    match args.teamScope with
    | some teamID =>
      match ds.teamLite teamID with
      | .error err => .error err
      | .ok tm =>
        (teamIntegrations matchWithIntegrations ac tm).map
          (firstOptions (teamEnabled args.integrationType))
    | none => .ok (firstOptions (globalEnabled args.integrationType) ac.integrations.freescout)

/-- Lines 195-218 of getClient, under f.mu: evict on no options, reuse a cached client whose
options match, or build and store a new one. -/
def getClientLocked (newClientFunc : FreeScoutOptions → Nat → Except String Externalsvc.FreeScout)
    (key : String) : Option FreeScoutOptions → FreeScout →
      Except String (Option Externalsvc.FreeScout) × FreeScout
  | none, f => (.ok none, { f with clientsCache := f.clientsCache.erase key })
  | some opts, f =>
    match (f.clientsCache.lookup key).filter (·.freeScoutConfigMatches opts) with
    | some cli => (.ok (some cli), f)
    | none =>
      match newClientFunc opts f.newClientCalls with
      | .error err => (.error err, { f with newClientCalls := f.newClientCalls + 1 })
      | .ok cli => (.ok (some cli), ⟨f.clientsCache.insert key cli, f.newClientCalls + 1⟩)

/-- getClient run with no other call in between: returns `none` when no integration is
enabled for the message. -/
def getClient (newClientFunc : FreeScoutOptions → Nat → Except String Externalsvc.FreeScout)
    (ds : Datastore) (args : FreeScoutArgs) (f : FreeScout) :
    Except String (Option Externalsvc.FreeScout) × FreeScout :=
  match loadOptions matchWithIntegrations ds args with
  | .error err => (.error err, f)
  | .ok opts => getClientLocked newClientFunc args.clientKey opts f

end

section

variable {nc : FreeScoutOptions → Nat → Except String Externalsvc.FreeScout} {key : String}
  {f g : FreeScout} {r : Except String (Option Externalsvc.FreeScout)}

@[simp] theorem getClientLocked_none :
    getClientLocked nc key none f = (.ok none, { f with clientsCache := f.clientsCache.erase key }) :=
  rfl

theorem getClientLocked_reuse {opts : FreeScoutOptions} {cli : Externalsvc.FreeScout}
    (hc : f.clientsCache.lookup key = some cli) (ho : cli.opts = opts) :
    getClientLocked nc key (some opts) f = (.ok (some cli), f) := by
  simp [getClientLocked, hc, Option.filter_some, ho]

/-- Everything the locked section does once options were resolved: reuse a matching
cached client, or make one NewClientFunc call and store its client if it succeeds. -/
theorem getClientLocked_some_cases {opts : FreeScoutOptions}
    (h : getClientLocked nc key (some opts) f = (r, g)) :
    (∃ cli, f.clientsCache.lookup key = some cli ∧ cli.opts = opts ∧
      r = .ok (some cli) ∧ g = f) ∨
    (g.newClientCalls = f.newClientCalls + 1 ∧
      ((∃ err, nc opts f.newClientCalls = .error err ∧ r = .error err ∧
          g.clientsCache = f.clientsCache) ∨
        (∃ cli, nc opts f.newClientCalls = .ok cli ∧ r = .ok (some cli) ∧
          g.clientsCache = f.clientsCache.insert key cli))) := by
  simp only [getClientLocked] at h
  split at h
  next cli hc =>
    simp only [Option.filter_eq_some, Option.mem_def, freeScoutConfigMatches_eq_true] at hc
    cases h
    exact .inl ⟨cli, hc.1, hc.2, rfl, rfl⟩
  next =>
    split at h <;> cases h
    next err he => exact .inr ⟨rfl, .inl ⟨err, he, rfl, rfl⟩⟩
    next cli he => exact .inr ⟨rfl, .inr ⟨cli, he, rfl, rfl⟩⟩

theorem getClientLocked_some_ne_none {opts : FreeScoutOptions} :
    (getClientLocked nc key (some opts) f).1 ≠ .ok none := by
  obtain ⟨_, _, _, hr, _⟩ | ⟨_, ⟨_, _, hr, _⟩ | ⟨_, _, hr, _⟩⟩ :=
    getClientLocked_some_cases (r := (getClientLocked nc key (some opts) f).1)
      (g := (getClientLocked nc key (some opts) f).2) rfl <;> simp [hr]

/-- The locked section only touches its own key. -/
theorem getClientLocked_lookup_ne {opts : Option FreeScoutOptions} {k : String} (hk : k ≠ key) :
    (getClientLocked nc key opts f).2.clientsCache.lookup k = f.clientsCache.lookup k := by
  cases opts with
  | none => exact AList.lookup_erase_ne hk
  | some opts =>
    obtain ⟨_, _, _, _, he⟩ | ⟨_, ⟨_, _, _, hc⟩ | ⟨_, _, _, hc⟩⟩ :=
      getClientLocked_some_cases (r := (getClientLocked nc key (some opts) f).1)
        (g := (getClientLocked nc key (some opts) f).2) rfl
    · rw [he]
    · rw [hc]
    · rw [hc, AList.lookup_insert_ne hk]

end

/-- getClient returns no client exactly when no integration is enabled for the job. -/
theorem getClient_eq_ok_none_iff {mw : TeamIntegrations → Integrations → Except String Integrations}
    {nc : FreeScoutOptions → Nat → Except String Externalsvc.FreeScout} {ds : Datastore}
    {args : FreeScoutArgs} {f : FreeScout} :
    (getClient mw nc ds args f).1 = .ok none ↔ loadOptions mw ds args = .ok none := by
  unfold getClient
  cases loadOptions mw ds args with
  | error err => simp
  | ok opts => cases opts <;> simp [getClientLocked_some_ne_none]

theorem loadOptions_eq_ok_none_of_global
    {mw : TeamIntegrations → Integrations → Except String Integrations}
    {ds : Datastore} {args : FreeScoutArgs} (h : args.teamScope = none) :
    loadOptions mw ds args = .ok none ↔ ∃ ac, ds.appConfig = .ok ac ∧
      firstOptions (globalEnabled args.integrationType) ac.integrations.freescout = none := by
  unfold loadOptions
  cases ds.appConfig <;> simp [h]

@[simp] theorem globalEnabled_vuln (intg : FreeScoutIntegration) :
    globalEnabled intgTypeVuln intg = intg.enableSoftwareVulnerabilities := by
  simp [globalEnabled, intgType_ne]

theorem teamEnabled_failingPolicy :
    teamEnabled intgTypeFailingPolicy = globalEnabled intgTypeFailingPolicy := by
  funext intg
  simp [teamEnabled, globalEnabled, intgTypeFailingPolicy, intgTypeVuln]

theorem firstOptions_eq_none {enabled : FreeScoutIntegration → Bool}
    {intgs : List FreeScoutIntegration} :
    firstOptions enabled intgs = none ↔ ∀ intg ∈ intgs, enabled intg = false := by
  simp [firstOptions]

/-- NewClientFunc as the worker is wired: externalsvc.NewFreeScoutClient. -/
def newClientFunc (urlParse : String → Except String URL) (opts : FreeScoutOptions)
    (addr : Nat) : Except String Externalsvc.FreeScout :=
  newFreeScoutClient urlParse addr (some opts)

end Worker

end FleetFreeScout
