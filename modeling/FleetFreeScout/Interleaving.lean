import FleetFreeScout.GetClient

namespace FleetFreeScout.Worker

open Externalsvc

/-- How far one getClient call has got. `read` is the integration list its loop ranged
over; the code keeps only the options it built from it. -/
inductive Stage
  | entered
  | loadedAppConfig (ac : AppConfig) (teamID : Nat)
  | locking (read : List FreeScoutIntegration) (opts : Option FreeScoutOptions)
  | failed (err : String)
  | returned (read : List FreeScoutIntegration) (cli : Option Externalsvc.FreeScout)

structure Call where
  args : FreeScoutArgs
  stage : Stage

/-- Worker goroutines calling getClient on one processor, and the datastore they read. -/
structure Sys where
  ds : Datastore
  proc : FreeScout
  calls : List Call

def Sys.init (ds : Datastore) : Sys := ⟨ds, FreeScout.init, []⟩

inductive Event
  | reconfigure (ds : Datastore)
  | invoke (args : FreeScoutArgs)
  | load (i : Nat)
  | lock (i : Nat) (args : FreeScoutArgs) (opts : Option FreeScoutOptions)
      (result : Except String (Option Externalsvc.FreeScout)) (built : Bool)

section

variable (matchWithIntegrations : TeamIntegrations → Integrations → Except String Integrations)

/-- The AppConfig read (lines 147-150); a call without team scope then runs the loop over
the global list (lines 179-193). -/
def afterAppConfig (args : FreeScoutArgs) : Except String AppConfig → Stage
  | .error err => .failed err
  | .ok ac =>
    match args.teamScope with
    | some teamID => .loadedAppConfig ac teamID
    | none => .locking ac.integrations.freescout
        (firstOptions (globalEnabled args.integrationType) ac.integrations.freescout)

/-- The TeamLite read and the match (lines 157-166), then the team loop (lines 167-178). -/
def afterTeamLite (args : FreeScoutArgs) (ac : AppConfig) : Except String TeamLite → Stage
  | .error err => .failed err
  | .ok tm =>
    match teamIntegrations matchWithIntegrations ac tm with
    | .error err => .failed err
    | .ok intgs => .locking intgs (firstOptions (teamEnabled args.integrationType) intgs)

/-- One unlocked datastore read of a call. -/
def loadStep (ds : Datastore) (c : Call) : Option Stage :=
  match c.stage with
  | .entered => some (afterAppConfig c.args ds.appConfig)
  | .loadedAppConfig ac teamID => some (afterTeamLite matchWithIntegrations c.args ac (ds.teamLite teamID))
  | _ => none

def afterLock (read : List FreeScoutIntegration) :
    Except String (Option Externalsvc.FreeScout) → Stage
  | .error err => .failed err
  | .ok cli => .returned read cli

variable (newClientFunc : FreeScoutOptions → Nat → Except String Externalsvc.FreeScout)

/-- The reads of different calls, the locked sections and changes of the datastore
interleave freely; a locked section runs whole, as f.mu makes it. A lock event records
the call's options, its result, and whether it called NewClientFunc. -/
inductive Step : Sys → Event → Sys → Prop
  | reconfigure (s : Sys) (ds : Datastore) : Step s (.reconfigure ds) { s with ds := ds }
  | invoke (s : Sys) (args : FreeScoutArgs) :
      Step s (.invoke args) { s with calls := s.calls ++ [⟨args, .entered⟩] }
  | load {s : Sys} {i : Nat} {c : Call} {stage : Stage} :
      s.calls[i]? = some c → loadStep matchWithIntegrations s.ds c = some stage →
      Step s (.load i) { s with calls := s.calls.set i ⟨c.args, stage⟩ }
  | lock {s : Sys} {i : Nat} {args : FreeScoutArgs} {read : List FreeScoutIntegration}
      {opts : Option FreeScoutOptions} {r : Except String (Option Externalsvc.FreeScout)}
      {f : FreeScout} :
      s.calls[i]? = some ⟨args, .locking read opts⟩ →
      getClientLocked newClientFunc args.clientKey opts s.proc = (r, f) →
      Step s (.lock i args opts r (decide (f.newClientCalls ≠ s.proc.newClientCalls)))
        { s with proc := f, calls := s.calls.set i ⟨args, afterLock read r⟩ }

inductive Trace : Sys → List Event → Sys → Prop
  | nil (s : Sys) : Trace s [] s
  | cons {s s' s'' : Sys} {e : Event} {es : List Event} :
      Step matchWithIntegrations newClientFunc s e s' → Trace s' es s'' → Trace s (e :: es) s''

def Reachable (s : Sys) : Prop :=
  ∃ ds es, Trace matchWithIntegrations newClientFunc (Sys.init ds) es s

variable {matchWithIntegrations newClientFunc}

theorem trace_append {s s'' : Sys} {es₁ es₂ : List Event} :
    Trace matchWithIntegrations newClientFunc s (es₁ ++ es₂) s'' ↔
      ∃ s', Trace matchWithIntegrations newClientFunc s es₁ s' ∧
        Trace matchWithIntegrations newClientFunc s' es₂ s'' := by
  induction es₁ generalizing s with
  | nil =>
    refine ⟨fun h => ⟨s, .nil s, h⟩, ?_⟩
    rintro ⟨_, h₁, h₂⟩
    cases h₁
    exact h₂
  | cons e es ih =>
    constructor
    · intro h
      cases h with
      | cons hs ht =>
        obtain ⟨s', h₁, h₂⟩ := ih.mp ht
        exact ⟨s', .cons hs h₁, h₂⟩
    · rintro ⟨s', h₁, h₂⟩
      cases h₁ with
      | cons hs ht => exact .cons hs (ih.mpr ⟨s', ht, h₂⟩)

theorem trace_singleton {s s' : Sys} {e : Event} :
    Trace matchWithIntegrations newClientFunc s [e] s' ↔
      Step matchWithIntegrations newClientFunc s e s' := by
  refine ⟨fun h => ?_, fun h => .cons h (.nil _)⟩
  cases h with
  | cons hs ht => cases ht; exact hs

end

/-- What a call's stage records about the options it resolved. -/
def CallSound (c : Call) : Prop :=
  match c.stage with
  | .loadedAppConfig _ teamID => c.args.teamScope = some teamID
  | .locking read opts => opts = firstOptions (globalEnabled c.args.integrationType) read
  | .returned read cli =>
    cli.map (·.opts) = (firstOptions (globalEnabled c.args.integrationType) read).map (·.cleaned)
  | _ => True

/-- Every cached client holds options with the URL already trimmed. -/
def CacheClean (f : FreeScout) : Prop :=
  ∀ key cli, f.clientsCache.lookup key = some cli → cli.opts.cleaned = cli.opts

def Inv (s : Sys) : Prop := CacheClean s.proc ∧ ∀ c ∈ s.calls, CallSound c

/-- NewClientFunc stores the cleaned options, as externalsvc.NewFreeScoutClient does. -/
def StoresCleaned (newClientFunc : FreeScoutOptions → Nat → Except String Externalsvc.FreeScout) :
    Prop :=
  ∀ opts addr cli, newClientFunc opts addr = .ok cli → cli.opts = opts.cleaned

theorem newClientFunc_storesCleaned (urlParse : String → Except String URL) :
    StoresCleaned (newClientFunc urlParse) := fun _ _ _ h => by
  rw [newFreeScoutClient_opts urlParse h]

section

variable {matchWithIntegrations : TeamIntegrations → Integrations → Except String Integrations}
  {newClientFunc : FreeScoutOptions → Nat → Except String Externalsvc.FreeScout}

theorem loadStep_sound {ds : Datastore} {c : Call} {stage : Stage} (hc : CallSound c)
    (h : loadStep matchWithIntegrations ds c = some stage) : CallSound ⟨c.args, stage⟩ := by
  obtain ⟨args, st⟩ := c
  cases st with
  | entered =>
    cases Option.some.inj h
    cases ds.appConfig with
    | error err => trivial
    | ok ac =>
      simp only [afterAppConfig]
      split <;> simp_all [CallSound]
  | loadedAppConfig ac teamID =>
    cases Option.some.inj h
    have hk := FreeScoutArgs.integrationType_of_teamScope (show args.teamScope = some teamID from hc)
    cases ds.teamLite teamID with
    | error err => trivial
    | ok tm =>
      simp only [afterTeamLite]
      split <;> simp_all [CallSound, teamEnabled_failingPolicy]
  | locking | failed | returned => cases h

theorem cacheClean_erase {f : FreeScout} (hf : CacheClean f) (key : String) :
    CacheClean { f with clientsCache := f.clientsCache.erase key } := by
  intro k cli hk
  by_cases he : k = key
  · subst he
    rw [AList.lookup_erase] at hk
    cases hk
  · exact hf k cli (by simpa [AList.lookup_erase_ne he] using hk)

/-- The locked section keeps every cached client clean, and a client it returns holds the
options it was given, cleaned. -/
theorem getClientLocked_sound {key : String} {f f' : FreeScout} {opts : Option FreeScoutOptions}
    {r : Except String (Option Externalsvc.FreeScout)} (hn : StoresCleaned newClientFunc)
    (hf : CacheClean f) (h : getClientLocked newClientFunc key opts f = (r, f')) :
    CacheClean f' ∧ ∀ cli, r = .ok cli → cli.map (·.opts) = opts.map (·.cleaned) := by
  cases opts with
  | none =>
    simp only [getClientLocked_none, Prod.mk.injEq] at h
    obtain ⟨rfl, rfl⟩ := h
    exact ⟨cacheClean_erase hf _, by rintro _ ⟨⟩; rfl⟩
  | some opts =>
    obtain ⟨cli, hl, rfl, rfl, rfl⟩ | ⟨-, ⟨err, -, rfl, hcache⟩ | ⟨cli, hb, rfl, hcache⟩⟩ :=
      getClientLocked_some_cases h
    · exact ⟨hf, by rintro _ ⟨⟩; simp [hf _ _ hl]⟩
    · exact ⟨fun k c hk => hf k c (hcache ▸ hk), by rintro _ ⟨⟩⟩
    · refine ⟨fun k c hk => ?_, by rintro _ ⟨⟩; simp [hn _ _ _ hb]⟩
      rw [hcache] at hk
      by_cases he : k = key
      · subst he
        rw [AList.lookup_insert] at hk
        cases hk
        simp [hn _ _ _ hb]
      · exact hf k c (by rwa [AList.lookup_insert_ne he] at hk)

theorem lock_sound {f f' : FreeScout} {args : FreeScoutArgs} {read : List FreeScoutIntegration}
    {opts : Option FreeScoutOptions} {r : Except String (Option Externalsvc.FreeScout)}
    (hn : StoresCleaned newClientFunc) (hf : CacheClean f)
    (hc : CallSound ⟨args, .locking read opts⟩)
    (h : getClientLocked newClientFunc args.clientKey opts f = (r, f')) :
    CacheClean f' ∧ CallSound ⟨args, afterLock read r⟩ := by
  obtain ⟨hf', hr⟩ := getClientLocked_sound hn hf h
  refine ⟨hf', ?_⟩
  cases r with
  | error err => trivial
  | ok cli => exact (hr cli rfl).trans (congrArg _ hc)

theorem inv_init (ds : Datastore) : Inv (Sys.init ds) :=
  ⟨fun _ _ h => by simp [Sys.init, FreeScout.init] at h, fun _ h => by simp [Sys.init] at h⟩

theorem step_inv {s s' : Sys} {e : Event} (hn : StoresCleaned newClientFunc) (hs : Inv s)
    (h : Step matchWithIntegrations newClientFunc s e s') : Inv s' := by
  obtain ⟨hf, hc⟩ := hs
  cases h with
  | reconfigure => exact ⟨hf, hc⟩
  | invoke =>
    refine ⟨hf, fun c hm => ?_⟩
    rcases List.mem_append.mp hm with hm | hm
    · exact hc c hm
    · simp only [List.mem_singleton] at hm
      subst hm
      trivial
  | load hi hl =>
    refine ⟨hf, fun c hm => ?_⟩
    rcases List.mem_or_eq_of_mem_set hm with hm | rfl
    · exact hc c hm
    · exact loadStep_sound (hc _ (List.getElem?_mem hi)) hl
  | lock hi hl =>
    have hlock := lock_sound hn hf (hc _ (List.getElem?_mem hi)) hl
    refine ⟨hlock.1, fun c hm => ?_⟩
    rcases List.mem_or_eq_of_mem_set hm with hm | rfl
    · exact hc c hm
    · exact hlock.2

theorem trace_inv {s s' : Sys} {es : List Event} (hn : StoresCleaned newClientFunc)
    (hs : Inv s) (h : Trace matchWithIntegrations newClientFunc s es s') : Inv s' := by
  induction h with
  | nil => exact hs
  | cons hstep _ ih => exact ih (step_inv hn hs hstep)

variable {ds : Datastore} {f : FreeScout} {l : List Call}

theorem step_load_last {c : Call} {stage : Stage}
    (h : loadStep matchWithIntegrations ds c = some stage) :
    Step matchWithIntegrations newClientFunc ⟨ds, f, l ++ [c]⟩ (.load l.length)
      ⟨ds, f, l ++ [⟨c.args, stage⟩]⟩ := by
  simpa using Step.load (s := ⟨ds, f, l ++ [c]⟩) (i := l.length) (by simp) h

theorem step_lock_last {args : FreeScoutArgs} {read : List FreeScoutIntegration}
    {opts : Option FreeScoutOptions} {r : Except String (Option Externalsvc.FreeScout)} {g : FreeScout}
    (h : getClientLocked newClientFunc args.clientKey opts f = (r, g)) :
    Step matchWithIntegrations newClientFunc ⟨ds, f, l ++ [⟨args, .locking read opts⟩]⟩
      (.lock l.length args opts r (decide (g.newClientCalls ≠ f.newClientCalls)))
      ⟨ds, g, l ++ [⟨args, afterLock read r⟩]⟩ := by
  have hi : (l ++ [(⟨args, .locking read opts⟩ : Call)])[l.length]? =
      some ⟨args, .locking read opts⟩ := by simp
  have hset : (l ++ [(⟨args, .locking read opts⟩ : Call)]).set l.length ⟨args, afterLock read r⟩ =
      l ++ [⟨args, afterLock read r⟩] := by simp
  have st := @Step.lock matchWithIntegrations newClientFunc
    ⟨ds, f, l ++ [⟨args, .locking read opts⟩]⟩ l.length args read opts r g hi h
  rwa [hset] at st

/-- What a call holds once its reads are done: loadOptions' result. -/
def Stage.loaded : Stage → Option (Except String (Option FreeScoutOptions))
  | .failed err => some (.error err)
  | .locking _ opts => some (.ok opts)
  | _ => none

/-- The stage a finished call ends in, read as getClient's result. -/
def Stage.result : Stage → Option (Except String (Option Externalsvc.FreeScout))
  | .failed err => some (.error err)
  | .returned _ cli => some (.ok cli)
  | _ => none

/-- The reads of a call that runs alone end in the result loadOptions computes. -/
theorem loads_alone (args : FreeScoutArgs) :
    ∃ es stage, Trace matchWithIntegrations newClientFunc ⟨ds, f, l ++ [⟨args, .entered⟩]⟩ es
        ⟨ds, f, l ++ [⟨args, stage⟩]⟩ ∧
      stage.loaded = some (loadOptions matchWithIntegrations ds args) := by
  have first := @step_load_last matchWithIntegrations newClientFunc ds f l ⟨args, .entered⟩ _ rfl
  cases hac : ds.appConfig with
  | error err =>
    exact ⟨_, _, .cons first (.nil _), by simp [afterAppConfig, loadOptions, hac, Stage.loaded]⟩
  | ok ac =>
    cases hts : args.teamScope with
    | none =>
      exact ⟨_, _, .cons first (.nil _),
        by simp [afterAppConfig, loadOptions, hac, hts, Stage.loaded]⟩
    | some teamID =>
      rw [show afterAppConfig args ds.appConfig = .loadedAppConfig ac teamID by
        simp [afterAppConfig, hac, hts]] at first
      refine ⟨_, _, .cons first (.cons (step_load_last rfl) (.nil _)), ?_⟩
      simp only [loadStep, afterTeamLite, loadOptions, hac, hts]
      cases ds.teamLite teamID with
      | error err => rfl
      | ok tm =>
        cases hti : teamIntegrations matchWithIntegrations ac tm <;> simp [hti, Stage.loaded, Except.map]

/-- Once a call is invoked with no other call after it, its reads and its locked section end
with the processor getClient returns and the call recording getClient's result. -/
theorem getClient_schedule_entered (args : FreeScoutArgs) :
    ∃ es stage, Trace matchWithIntegrations newClientFunc ⟨ds, f, l ++ [⟨args, .entered⟩]⟩ es
        ⟨ds, (getClient matchWithIntegrations newClientFunc ds args f).2, l ++ [⟨args, stage⟩]⟩ ∧
      stage.result = some (getClient matchWithIntegrations newClientFunc ds args f).1 := by
  obtain ⟨es, stage, tr, hl⟩ := @loads_alone matchWithIntegrations newClientFunc ds f l args
  cases stage with
  | failed err =>
    have hg : getClient matchWithIntegrations newClientFunc ds args f = (.error err, f) := by
      simp [getClient, ← Option.some.inj hl]
    rw [hg]
    exact ⟨es, .failed err, tr, rfl⟩
  | locking read opts =>
    have hg : getClient matchWithIntegrations newClientFunc ds args f =
        getClientLocked newClientFunc args.clientKey opts f := by
      simp [getClient, ← Option.some.inj hl]
    rcases hlk : getClientLocked newClientFunc args.clientKey opts f with ⟨r, g⟩
    rw [hg, hlk]
    refine ⟨es ++ [_], afterLock read r,
      trace_append.mpr ⟨_, tr, .cons (step_lock_last hlk) (.nil _)⟩, ?_⟩
    cases r <;> rfl
  | entered | loadedAppConfig | returned => cases hl

end

/-- One global FreeScout integration at `url`, enabled for software vulnerabilities. -/
def vulnIntegration (url : String) : FreeScoutIntegration :=
  ⟨url, "token", 1, "fleet@example.com", 0, false, true⟩

def vulnDatastore (url : String) : Datastore where
  appConfig := .ok ⟨⟨[vulnIntegration url]⟩⟩
  teamLite _ := .error "not found"
  hostsByCVE _ := .ok []
  hostVulnSummariesBySoftwareIDs _ := .ok []
  newJob _ := .ok ()

def vulnJob : FreeScoutArgs := ⟨some ⟨"CVE-2024-0001", [1, 2], none, none, none, none⟩, none⟩

/-- net/url parses both example URLs to scheme https and host freescout.example.com. -/
def exampleURLParse (_ : String) : Except String URL := .ok ⟨"https", "freescout.example.com"⟩

/-- A MatchWithIntegrations that hands back the global integrations. -/
def exampleMatch (_ : TeamIntegrations) (global : Integrations) : Except String Integrations :=
  .ok global

end FleetFreeScout.Worker
