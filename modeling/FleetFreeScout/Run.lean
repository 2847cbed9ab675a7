import FleetFreeScout.Interleaving
import FleetFreeScout.Conversation
import FleetFreeScout.Templates

namespace FleetFreeScout.Worker

open Externalsvc

section

variable (unmarshal : String → Except String FreeScoutArgs)
  (matchWithIntegrations : TeamIntegrations → Integrations → Except String Integrations)
  (newClientFunc : FreeScoutOptions → Nat → Except String Externalsvc.FreeScout)
  (urlParse : String → Except String URL)
  (transport : Request → Except String Response)
  (decodeConversations : String → Except String (List Int))
  (nvdCVEURL : String) (formatFloat : Float → String) (formatTime : Time → String)
  (ds : Datastore) (fleetURL : String)

/-- createTemplatedConversation; executing the templates cannot fail on these arguments. -/
def createTemplatedConversation (cli : Externalsvc.FreeScout) (summary description : String) :
    Except String Int × List Request :=
  let out := cli.createFreeScoutConversation urlParse transport decodeConversations summary
    description
  (out.1.mapError (wrap "create conversation"), out.2)

/-- The hosts of runVuln (lines 268-278): by software IDs, or by CVE for an old payload
without them. -/
def vulnHosts (vargs : VulnArgs) : Except String (List HostVulnerabilitySummary) :=
  if vargs.affectedSoftwareIDs.length = 0 then ds.hostsByCVE vargs.cve
  else ds.hostVulnSummariesBySoftwareIDs vargs.affectedSoftwareIDs

/-- runVuln; the conversation ID is only logged. -/
def runVuln (cli : Externalsvc.FreeScout) (args : FreeScoutArgs) :
    Except String Unit × List Request :=
  match args.vulnerability with
  | none => (.error "invalid job args", [])
  | some vargs =>
    match vulnHosts ds vargs with
    | .error err => (.error (wrap "fetching hosts" err), [])
    | .ok hosts =>
      let tplArgs : FreeScoutVulnTplArgs := ⟨nvdCVEURL, fleetURL, vargs.cve, hosts,
        vargs.epssProbability, vargs.cvssScore, vargs.cisaKnownExploit, vargs.cvePublished⟩
      let out := createTemplatedConversation urlParse transport decodeConversations cli
        (vulnSummary tplArgs) (vulnDescription formatFloat formatTime tplArgs)
      (out.1.map fun _ => (), out.2)

def runFailingPolicy (cli : Externalsvc.FreeScout) (failingPolicy : FailingPolicyArgs) :
    Except String Unit × List Request :=
  let tplArgs := newFailingPoliciesTplArgs fleetURL failingPolicy
  let out := createTemplatedConversation urlParse transport decodeConversations cli
    (failingPolicySummary tplArgs) (failingPolicyDescription tplArgs)
  (out.1.map fun _ => (), out.2)

/-- Run: its result, the processor after it, and the FreeScout API requests it sent. The
switch on integrationType is on whether FailingPolicy is set; its default case is unreachable. -/
def run (argsJSON : String) (f : FreeScout) : Except String Unit × FreeScout × List Request :=
  match unmarshal argsJSON with
  | .error err => (.error (wrap "unmarshal args" err), f, [])
  | .ok args =>
    match getClient matchWithIntegrations newClientFunc ds args f with
    | (.error err, f) => (.error (wrap "get FreeScout client" err), f, [])
    | (.ok none, f) => (.ok (), f, [])
    | (.ok (some cli), f) =>
      match args.failingPolicy with
      | none =>
        let (result, sent) := runVuln urlParse transport decodeConversations nvdCVEURL formatFloat
          formatTime ds fleetURL cli args
        (result, f, sent)
      | some failingPolicy =>
        let (result, sent) := runFailingPolicy urlParse transport decodeConversations fleetURL cli
          failingPolicy
        (result, f, sent)

/-- Modelled from the spec: the worker pool calls Run once per queued job; a worker that runs
them one at a time, each job with the datastore of its time. -/
def runJobs (jobs : List (Datastore × String)) (f : FreeScout) : FreeScout :=
  jobs.foldl (fun f job => (run unmarshal matchWithIntegrations newClientFunc urlParse transport
    decodeConversations nvdCVEURL formatFloat formatTime job.1 fleetURL job.2 f).2.1) f

variable {urlParse transport decodeConversations nvdCVEURL formatFloat formatTime ds fleetURL}

/-- runVuln sends nothing, or the requests of one conversation whose subject and text are the
vulnerability templates on the payload and the hosts the datastore returned. -/
theorem runVuln_sent (cli : Externalsvc.FreeScout) (args : FreeScoutArgs) :
    let sent := (runVuln urlParse transport decodeConversations nvdCVEURL formatFloat formatTime
      ds fleetURL cli args).2
    sent = [] ∨ ∃ vargs hosts, args.vulnerability = some vargs ∧
      vulnHosts ds vargs = .ok hosts ∧
      let tplArgs : FreeScoutVulnTplArgs := ⟨nvdCVEURL, fleetURL, vargs.cve, hosts,
        vargs.epssProbability, vargs.cvssScore, vargs.cisaKnownExploit, vargs.cvePublished⟩
      cli.SearchThenWrite (vulnSummary tplArgs) (vulnDescription formatFloat formatTime tplArgs)
        sent := by
  unfold runVuln
  cases hv : args.vulnerability with
  | none => exact .inl rfl
  | some vargs =>
    dsimp only
    cases hh : vulnHosts ds vargs with
    | error err => exact .inl rfl
    | ok hosts =>
      exact .inr ⟨vargs, hosts, rfl, hh, createFreeScoutConversation_searchThenWrite cli _ _⟩

variable {unmarshal matchWithIntegrations newClientFunc}

/-- A job's Run sends at most two requests, both through the client getClient returned: the
search for the ticket's subject, then one write of the ticket, a new conversation with that
subject or a thread on a conversation the search found. The subject and the text are the
summary and description templates on the job's payload, with the hosts the datastore returned
for a vulnerability. -/
theorem run_search_then_one_write (argsJSON : String) (f : FreeScout) :
    let sent := (run unmarshal matchWithIntegrations newClientFunc urlParse transport
      decodeConversations nvdCVEURL formatFloat formatTime ds fleetURL argsJSON f).2.2
    sent = [] ∨ ∃ args cli, unmarshal argsJSON = .ok args ∧
      (getClient matchWithIntegrations newClientFunc ds args f).1 = .ok (some cli) ∧
      ((∃ fp, args.failingPolicy = some fp ∧
          cli.SearchThenWrite (failingPolicySummary (newFailingPoliciesTplArgs fleetURL fp))
            (failingPolicyDescription (newFailingPoliciesTplArgs fleetURL fp)) sent) ∨
        ∃ vargs hosts, args.failingPolicy = none ∧ args.vulnerability = some vargs ∧
          vulnHosts ds vargs = .ok hosts ∧
          let tplArgs : FreeScoutVulnTplArgs := ⟨nvdCVEURL, fleetURL, vargs.cve, hosts,
            vargs.epssProbability, vargs.cvssScore, vargs.cisaKnownExploit, vargs.cvePublished⟩
          cli.SearchThenWrite (vulnSummary tplArgs) (vulnDescription formatFloat formatTime tplArgs)
            sent) := by
  dsimp only
  unfold run
  cases hu : unmarshal argsJSON with
  | error err => exact .inl rfl
  | ok args =>
    rcases hg : getClient matchWithIntegrations newClientFunc ds args f with ⟨_ | _ | cli, g⟩ <;>
      simp only [hg, true_or]
    cases hfp : args.failingPolicy with
    | none =>
      rcases @runVuln_sent urlParse transport decodeConversations nvdCVEURL formatFloat formatTime ds
        fleetURL cli args with h | ⟨vargs, hosts, hv, hh, hw⟩
      · exact .inl h
      · exact .inr ⟨args, cli, rfl, by rw [hg], .inr ⟨vargs, hosts, hfp, hv, hh, hw⟩⟩
    | some fp =>
      exact .inr ⟨args, cli, rfl, by rw [hg],
        .inl ⟨fp, hfp, createFreeScoutConversation_searchThenWrite cli _ _⟩⟩

/-- Run changes the processor only through getClient. -/
theorem run_proc (argsJSON : String) (f : FreeScout) :
    (run unmarshal matchWithIntegrations newClientFunc urlParse transport decodeConversations
      nvdCVEURL formatFloat formatTime ds fleetURL argsJSON f).2.1 =
      match unmarshal argsJSON with
      | .ok args => (getClient matchWithIntegrations newClientFunc ds args f).2
      | .error _ => f := by
  unfold run
  cases unmarshal argsJSON with
  | error err => rfl
  | ok args =>
    dsimp only
    rcases getClient matchWithIntegrations newClientFunc ds args f with ⟨_ | _ | cli, g⟩
    · rfl
    · rfl
    · cases args.failingPolicy <;> rfl

theorem createTemplatedConversation_error {cli : Externalsvc.FreeScout}
    {summary description e : String}
    (h : (createTemplatedConversation urlParse transport decodeConversations cli summary
      description).1 = .error e) :
    ∃ err, e = wrap "create conversation" err := by
  unfold createTemplatedConversation at h
  cases hc : (cli.createFreeScoutConversation urlParse transport decodeConversations summary
    description).1 <;> simp [hc, Except.mapError] at h
  exact ⟨_, h.symm⟩

theorem map_createTemplatedConversation_error {cli : Externalsvc.FreeScout}
    {summary description e : String}
    (h : (createTemplatedConversation urlParse transport decodeConversations cli summary
      description).1.map (fun _ => ()) = .error e) :
    ∃ err, e = wrap "create conversation" err := by
  cases hc : (createTemplatedConversation urlParse transport decodeConversations cli summary
    description).1 <;> simp [hc, Except.map] at h
  exact createTemplatedConversation_error (hc.trans (congrArg _ h))

theorem runVuln_error {cli : Externalsvc.FreeScout} {args : FreeScoutArgs} {e : String}
    (h : (runVuln urlParse transport decodeConversations nvdCVEURL formatFloat formatTime ds
      fleetURL cli args).1 = .error e) :
    e = "invalid job args" ∨ (∃ err, e = wrap "fetching hosts" err) ∨
      ∃ err, e = wrap "create conversation" err := by
  unfold runVuln at h
  split at h
  · exact .inl (Except.error.inj h).symm
  · split at h
    · exact .inr (.inl ⟨_, (Except.error.inj h).symm⟩)
    · exact .inr (.inr (map_createTemplatedConversation_error h))

/-- Every error Run returns names the step that failed. -/
theorem run_error {argsJSON : String} {f : FreeScout} {e : String}
    (h : (run unmarshal matchWithIntegrations newClientFunc urlParse transport decodeConversations
      nvdCVEURL formatFloat formatTime ds fleetURL argsJSON f).1 = .error e) :
    (∃ err, e = wrap "unmarshal args" err) ∨ (∃ err, e = wrap "get FreeScout client" err) ∨
      e = "invalid job args" ∨ (∃ err, e = wrap "fetching hosts" err) ∨
      ∃ err, e = wrap "create conversation" err := by
  unfold run at h
  cases hu : unmarshal argsJSON with
  | error err => simp only [hu] at h; exact .inl ⟨err, (Except.error.inj h).symm⟩
  | ok args =>
    simp only [hu] at h
    rcases hg : getClient matchWithIntegrations newClientFunc ds args f with ⟨_ | _ | cli, g⟩ <;>
      simp only [hg] at h
    · exact .inr (.inl ⟨_, (Except.error.inj h).symm⟩)
    · cases h
    · cases hfp : args.failingPolicy <;> simp only [hfp] at h
      · exact .inr (.inr (runVuln_error h))
      · exact .inr (.inr (.inr (.inr (map_createTemplatedConversation_error h))))

/-- A Run leaves the processor of a reachable state of the concurrent model. -/
theorem run_reachable {s : Sys} (reach : Reachable matchWithIntegrations newClientFunc s)
    (ds : Datastore) (argsJSON : String) :
    ∃ s', Reachable matchWithIntegrations newClientFunc s' ∧
      s'.proc = (run unmarshal matchWithIntegrations newClientFunc urlParse transport
        decodeConversations nvdCVEURL formatFloat formatTime ds fleetURL argsJSON s.proc).2.1 := by
  obtain ⟨ds₀, es, tr⟩ := reach
  rw [run_proc]
  cases unmarshal argsJSON with
  | error err => exact ⟨s, ⟨ds₀, es, tr⟩, rfl⟩
  | ok args =>
    obtain ⟨es', stage, tr', -⟩ :=
      @getClient_schedule_entered matchWithIntegrations newClientFunc ds s.proc s.calls args
    exact ⟨_, ⟨ds₀, es ++ .reconfigure ds :: .invoke args :: es', trace_append.mpr
      ⟨s, tr, .cons (.reconfigure s ds) (.cons (.invoke _ args) tr')⟩⟩, rfl⟩

theorem runJobs_reachable_of {s : Sys} (reach : Reachable matchWithIntegrations newClientFunc s)
    (jobs : List (Datastore × String)) :
    ∃ s', Reachable matchWithIntegrations newClientFunc s' ∧
      s'.proc = runJobs unmarshal matchWithIntegrations newClientFunc urlParse transport
        decodeConversations nvdCVEURL formatFloat formatTime fleetURL jobs s.proc := by
  induction jobs generalizing s with
  | nil => exact ⟨s, reach, rfl⟩
  | cons job jobs ih =>
    obtain ⟨s₁, reach₁, h₁⟩ := @run_reachable unmarshal matchWithIntegrations newClientFunc
      urlParse transport decodeConversations nvdCVEURL formatFloat formatTime fleetURL s reach
      job.1 job.2
    obtain ⟨s₂, reach₂, h₂⟩ := ih reach₁
    exact ⟨s₂, reach₂, by rw [h₂, h₁]; rfl⟩

end

/-- A payload without Vulnerability or FailingPolicy: with no integration enabled for
vulnerabilities Run succeeds at the getClient gate, and otherwise runVuln rejects it before
any request goes out. -/
theorem run_without_payload {unmarshal : String → Except String FreeScoutArgs}
    {matchWithIntegrations : TeamIntegrations → Integrations → Except String Integrations}
    {newClientFunc : FreeScoutOptions → Nat → Except String Externalsvc.FreeScout}
    {urlParse : String → Except String URL} {transport : Request → Except String Response}
    {decodeConversations : String → Except String (List Int)} {nvdCVEURL : String}
    {formatFloat : Float → String} {formatTime : Time → String} {ds : Datastore}
    {fleetURL argsJSON : String} {f : FreeScout}
    (h : unmarshal argsJSON = .ok ⟨none, none⟩) :
    let out := run unmarshal matchWithIntegrations newClientFunc urlParse transport
      decodeConversations nvdCVEURL formatFloat formatTime ds fleetURL argsJSON f
    out.2.2 = [] ∧ (out.1 = .ok () ↔ ∃ ac, ds.appConfig = .ok ac ∧
      ∀ intg ∈ ac.integrations.freescout, intg.enableSoftwareVulnerabilities = false) := by
  have hk : (⟨none, none⟩ : FreeScoutArgs).integrationType = intgTypeVuln := rfl
  have hiff : (getClient matchWithIntegrations newClientFunc ds ⟨none, none⟩ f).1 = .ok none ↔ _ :=
    getClient_eq_ok_none_iff.trans (loadOptions_eq_ok_none_of_global (FreeScoutArgs.teamScope_of_vuln rfl))
  simp only [firstOptions_eq_none, hk, globalEnabled_vuln] at hiff
  simp only [run, h]
  rcases hg : getClient matchWithIntegrations newClientFunc ds ⟨none, none⟩ f with
    ⟨_ | _ | cli, g⟩ <;> rw [hg] at hiff <;> rw [← hiff] <;> simp [runVuln]

/-- encoding/json decodes both {} and null into a freeScoutArgs with both pointers nil. -/
def emptyArgsUnmarshal (_ : String) : Except String FreeScoutArgs := .ok ⟨none, none⟩

/-- A Fleet with no FreeScout integration configured. -/
def noIntegrationDatastore : Datastore where
  appConfig := .ok ⟨⟨[]⟩⟩
  teamLite _ := .error "not found"
  hostsByCVE _ := .ok []
  hostVulnSummariesBySoftwareIDs _ := .ok []
  newJob _ := .ok ()

theorem run_without_payload_no_integration :
    emptyArgsUnmarshal "{}" = .ok ⟨none, none⟩ ∧
    let out := run emptyArgsUnmarshal (fun _ global => .ok global) (fun opts n => .ok ⟨n, opts⟩)
      (fun _ => .error "no network") (fun _ => .error "no network") (fun _ => .ok []) ""
      (fun _ => "") (fun _ => "") noIntegrationDatastore "" "{}" FreeScout.init
    out.2.2 = [] ∧ (out.1 = .ok () ↔ ∃ ac, noIntegrationDatastore.appConfig = .ok ac ∧
      ∀ intg ∈ ac.integrations.freescout, intg.enableSoftwareVulnerabilities = false) :=
  ⟨rfl, run_without_payload rfl⟩

/-- Run on {} in a Fleet with no FreeScout integration: success, and no FreeScout request. -/
theorem run_empty_payload_succeeds :
    let out := run emptyArgsUnmarshal (fun _ global => .ok global) (fun opts n => .ok ⟨n, opts⟩)
      (fun _ => .error "no network") (fun _ => .error "no network") (fun _ => .ok []) ""
      (fun _ => "") (fun _ => "") noIntegrationDatastore "" "{}" FreeScout.init
    out.1 = .ok () ∧ out.2.2 = [] :=
  ⟨rfl, rfl⟩

/-- Every processor a worker reaches by running jobs one at a time from a fresh start, under
any configurations, is the processor of a reachable state of the concurrent model. -/
theorem runJobs_reachable {unmarshal : String → Except String FreeScoutArgs}
    {matchWithIntegrations : TeamIntegrations → Integrations → Except String Integrations}
    {newClientFunc : FreeScoutOptions → Nat → Except String Externalsvc.FreeScout}
    {urlParse : String → Except String URL} {transport : Request → Except String Response}
    {decodeConversations : String → Except String (List Int)} {nvdCVEURL : String}
    {formatFloat : Float → String} {formatTime : Time → String} {fleetURL : String}
    (jobs : List (Datastore × String)) :
    ∃ s, Reachable matchWithIntegrations newClientFunc s ∧
      s.proc = runJobs unmarshal matchWithIntegrations newClientFunc urlParse transport
        decodeConversations nvdCVEURL formatFloat formatTime fleetURL jobs FreeScout.init :=
  runJobs_reachable_of (s := Sys.init noIntegrationDatastore) ⟨_, [], .nil _⟩ jobs

end FleetFreeScout.Worker
