import FleetFreeScout.Interleaving

namespace FleetFreeScout.Worker

open Externalsvc

theorem getClientLocked_build {nc : FreeScoutOptions → Nat → Except String Externalsvc.FreeScout}
    {key : String} {f : FreeScout} {opts : FreeScoutOptions} {cli : Externalsvc.FreeScout}
    (hc : (f.clientsCache.lookup key).filter (·.freeScoutConfigMatches opts) = none)
    (hb : nc opts f.newClientCalls = .ok cli) :
    getClientLocked nc key (some opts) f =
      (.ok (some cli), ⟨f.clientsCache.insert key cli, f.newClientCalls + 1⟩) := by
  simp only [getClientLocked, hc, hb]

/-- Whether an event is the locked section of a call with the scope of `a`. -/
def Event.locksScope (a : FreeScoutArgs) : Event → Bool
  | .lock _ x _ _ _ => x.integrationType = a.integrationType && x.teamScope = a.teamScope
  | _ => false

section

variable {matchWithIntegrations : TeamIntegrations → Integrations → Except String Integrations}
  {newClientFunc : FreeScoutOptions → Nat → Except String Externalsvc.FreeScout}

theorem step_lock_inv {s s' : Sys} {i : Nat} {a : FreeScoutArgs} {opts : Option FreeScoutOptions}
    {r : Except String (Option Externalsvc.FreeScout)} {b : Bool}
    (h : Step matchWithIntegrations newClientFunc s (.lock i a opts r b) s') :
    ∃ read, s.calls[i]? = some ⟨a, .locking read opts⟩ ∧
      getClientLocked newClientFunc a.clientKey opts s.proc = (r, s'.proc) ∧
      b = decide (s'.proc.newClientCalls ≠ s.proc.newClientCalls) := by
  cases h with
  | lock hi hl => exact ⟨_, hi, hl, rfl⟩

/-- Only a locked section of the same scope changes a scope's cache entry. -/
theorem step_lookup_of_not_locksScope {s s' : Sys} {e : Event} {a : FreeScoutArgs}
    (h : Step matchWithIntegrations newClientFunc s e s') (he : e.locksScope a = false) :
    s'.proc.clientsCache.lookup a.clientKey = s.proc.clientsCache.lookup a.clientKey := by
  cases h with
  | reconfigure | invoke | load => rfl
  | @lock _ args _ opts _ _ _ hl =>
    have hk : a.clientKey ≠ args.clientKey := fun hk => by
      obtain ⟨h1, h2⟩ := FreeScoutArgs.clientKey_eq_iff.mp hk
      simp [Event.locksScope, h1, h2] at he
    have hframe : (getClientLocked newClientFunc args.clientKey opts s.proc).2.clientsCache.lookup
        a.clientKey = _ := getClientLocked_lookup_ne hk
    rwa [hl] at hframe

theorem trace_lookup_of_not_locksScope {s s' : Sys} {es : List Event} {a : FreeScoutArgs}
    (h : Trace matchWithIntegrations newClientFunc s es s')
    (he : ∀ e ∈ es, e.locksScope a = false) :
    s'.proc.clientsCache.lookup a.clientKey = s.proc.clientsCache.lookup a.clientKey := by
  induction h with
  | nil => rfl
  | cons hs _ ih =>
    rw [ih (fun e h => he e (List.mem_cons_of_mem _ h)),
      step_lookup_of_not_locksScope hs (he _ (List.mem_cons_self _ _))]

/-- A locked section that returns a client leaves it cached under its key. -/
theorem getClientLocked_ok_cached {key : String} {o : FreeScoutOptions}
    {c : Externalsvc.FreeScout} {f f' : FreeScout} (hn : StoresCleaned newClientFunc)
    (h : getClientLocked newClientFunc key (some o) f = (.ok (some c), f')) :
    f'.clientsCache.lookup key = some c ∧ (c.opts = o ∨ c.opts = o.cleaned) := by
  obtain ⟨cli, hl, ho, hr, rfl⟩ | ⟨-, ⟨err, -, hr, -⟩ | ⟨cli, hb, hr, hcache⟩⟩ :=
    getClientLocked_some_cases h
  · cases hr
    exact ⟨hl, .inl ho⟩
  · cases hr
  · cases hr
    exact ⟨by rw [hcache, AList.lookup_insert], .inr (hn _ _ _ hb)⟩

end

/-- With options whose URL has no trailing '/', the next locked section of the same scope
reuses the client the previous one returned, whatever other scopes did in between. -/
theorem next_lock_reuses_client {urlParse : String → Except String URL}
    {matchWithIntegrations : TeamIntegrations → Integrations → Except String Integrations}
    {s s' : Sys} {i j : Nat} {a a' : FreeScoutArgs} {o : FreeScoutOptions}
    {c : Externalsvc.FreeScout} {b b' : Bool} {mid : List Event}
    {r : Except String (Option Externalsvc.FreeScout)}
    (tr : Trace matchWithIntegrations (newClientFunc urlParse) s
      (.lock i a (some o) (.ok (some c)) b :: mid ++ [.lock j a' (some o) r b']) s')
    (same : a'.integrationType = a.integrationType ∧ a'.teamScope = a.teamScope)
    (others : ∀ e ∈ mid, e.locksScope a = false) (clean : o.cleaned = o) :
    r = .ok (some c) ∧ b' = false := by
  cases tr with
  | cons first rest =>
    obtain ⟨s₂, tmid, tlast⟩ := trace_append.mp rest
    obtain ⟨_, _, h₁, -⟩ := step_lock_inv first
    obtain ⟨hcached, hopts⟩ := getClientLocked_ok_cached (newClientFunc_storesCleaned urlParse) h₁
    have hlook : s₂.proc.clientsCache.lookup a'.clientKey = some c := by
      rw [FreeScoutArgs.clientKey_eq_iff.mpr same, trace_lookup_of_not_locksScope tmid others]
      exact hcached
    obtain ⟨_, _, h₂, hb⟩ := step_lock_inv (trace_singleton.mp tlast)
    rw [getClientLocked_reuse hlook (hopts.elim id (·.trans clean))] at h₂
    obtain ⟨rfl, hproc⟩ := Prod.mk.inj h₂
    exact ⟨rfl, by simp [hb, hproc]⟩

theorem clean_url_client_reused :
    ∃ s s', Trace exampleMatch (newClientFunc exampleURLParse) s
      (.lock 0 vulnJob (some (vulnIntegration "https://freescout.example.com").options)
          (.ok (some ⟨0, (vulnIntegration "https://freescout.example.com").options⟩)) true ::
        [.invoke vulnJob, .load 1] ++
        [.lock 1 vulnJob (some (vulnIntegration "https://freescout.example.com").options)
          (.ok (some ⟨0, (vulnIntegration "https://freescout.example.com").options⟩)) false]) s' ∧
      (vulnJob.integrationType = vulnJob.integrationType ∧ vulnJob.teamScope = vulnJob.teamScope) ∧
      (∀ e ∈ [Event.invoke vulnJob, .load 1], e.locksScope vulnJob = false) ∧
      (vulnIntegration "https://freescout.example.com").options.cleaned =
        (vulnIntegration "https://freescout.example.com").options ∧
      ((.ok (some ⟨0, (vulnIntegration "https://freescout.example.com").options⟩) :
          Except String (Option Externalsvc.FreeScout)) =
        .ok (some ⟨0, (vulnIntegration "https://freescout.example.com").options⟩) ∧ false = false) := by
  let o := (vulnIntegration "https://freescout.example.com").options
  let f₁ : FreeScout := ⟨(∅ : AList _).insert vulnJob.clientKey ⟨0, o⟩, 1⟩
  have tr : Trace exampleMatch (newClientFunc exampleURLParse)
      ⟨vulnDatastore "https://freescout.example.com", FreeScout.init,
        [⟨vulnJob, .locking [vulnIntegration "https://freescout.example.com"] (some o)⟩]⟩
      (.lock 0 vulnJob (some o) (.ok (some ⟨0, o⟩)) true :: [.invoke vulnJob, .load 1] ++
        [.lock 1 vulnJob (some o) (.ok (some ⟨0, o⟩)) false]) _ :=
    .cons (.lock (f := f₁) rfl rfl) (.cons (.invoke _ _) (.cons (.load rfl rfl)
      (.cons (.lock (f := f₁) rfl rfl) (.nil _))))
  have others : ∀ e ∈ [Event.invoke vulnJob, .load 1], e.locksScope vulnJob = false := by
    simp [Event.locksScope]
  exact ⟨_, _, tr, ⟨rfl, rfl⟩, others, rfl, next_lock_reuses_client tr ⟨rfl, rfl⟩ others rfl⟩

/-- Two vulnerability jobs in a row against an integration whose URL ends in '/': the
second locked section, of the same scope and with the same options, calls NewClientFunc
again and returns a new client. -/
theorem slash_url_client_rebuilt_of_parse {urlParse : String → Except String URL}
    (hp : urlParse "https://freescout.example.com/" = .ok ⟨"https", "freescout.example.com"⟩)
    (matchWithIntegrations : TeamIntegrations → Integrations → Except String Integrations) :
    ∃ s, Trace matchWithIntegrations (newClientFunc urlParse)
      (Sys.init (vulnDatastore "https://freescout.example.com/"))
      [.invoke vulnJob, .load 0,
        .lock 0 vulnJob (some (vulnIntegration "https://freescout.example.com/").options)
          (.ok (some ⟨0, (vulnIntegration "https://freescout.example.com/").options.cleaned⟩)) true,
        .invoke vulnJob, .load 1,
        .lock 1 vulnJob (some (vulnIntegration "https://freescout.example.com/").options)
          (.ok (some ⟨1, (vulnIntegration "https://freescout.example.com/").options.cleaned⟩))
          true] s := by
  let o := (vulnIntegration "https://freescout.example.com/").options
  have hnew : ∀ n, newClientFunc urlParse o n = .ok ⟨n, o.cleaned⟩ := fun n =>
    (newFreeScoutClient_eq_ok urlParse).mpr ⟨by decide, ⟨_, hp, by decide, by decide⟩, rfl⟩
  have stale : (⟨0, o.cleaned⟩ : Externalsvc.FreeScout).freeScoutConfigMatches o = false := by
    rw [Bool.eq_false_iff, ne_eq, newFreeScoutClient_matches_iff (hnew 0)]
    decide
  let f₁ : FreeScout := ⟨(∅ : AList _).insert vulnJob.clientKey ⟨0, o.cleaned⟩, 1⟩
  have hmiss :
      (f₁.clientsCache.lookup vulnJob.clientKey).filter (·.freeScoutConfigMatches o) = none := by
    rw [show f₁.clientsCache.lookup vulnJob.clientKey = some ⟨0, o.cleaned⟩ from
      AList.lookup_insert _, Option.filter_some, stale]
    rfl
  exact ⟨_, .cons (.invoke _ _) (.cons (.load rfl rfl)
    (.cons (.lock (f := f₁) rfl (getClientLocked_build rfl (hnew 0)))
    (.cons (.invoke _ _) (.cons (.load rfl rfl)
    (.cons (.lock (f := ⟨f₁.clientsCache.insert vulnJob.clientKey ⟨1, o.cleaned⟩, 2⟩) rfl
      (getClientLocked_build hmiss (hnew 1))) (.nil _))))))⟩

theorem slash_url_client_rebuilt :
    ∃ s, Trace exampleMatch (newClientFunc exampleURLParse)
      (Sys.init (vulnDatastore "https://freescout.example.com/"))
      [.invoke vulnJob, .load 0,
        .lock 0 vulnJob (some (vulnIntegration "https://freescout.example.com/").options)
          (.ok (some ⟨0, (vulnIntegration "https://freescout.example.com/").options.cleaned⟩)) true,
        .invoke vulnJob, .load 1,
        .lock 1 vulnJob (some (vulnIntegration "https://freescout.example.com/").options)
          (.ok (some ⟨1, (vulnIntegration "https://freescout.example.com/").options.cleaned⟩))
          true] s :=
  slash_url_client_rebuilt_of_parse rfl exampleMatch

/-- From any reachable state, a locked section whose resolved options have a URL ending in '/'
never reuses a cached client: every cached client holds trimmed options, which never match, so
it calls NewClientFunc again. -/
theorem slash_url_always_rebuilds {urlParse : String → Except String URL}
    {matchWithIntegrations : TeamIntegrations → Integrations → Except String Integrations}
    {s s' : Sys} {i : Nat} {a : FreeScoutArgs} {o : FreeScoutOptions}
    {r : Except String (Option Externalsvc.FreeScout)} {b : Bool}
    (reach : Reachable matchWithIntegrations (newClientFunc urlParse) s)
    (h : Step matchWithIntegrations (newClientFunc urlParse) s (.lock i a (some o) r b) s')
    (slash : o.cleaned ≠ o) :
    b = true ∧ s'.proc.newClientCalls = s.proc.newClientCalls + 1 := by
  obtain ⟨ds, es, tr⟩ := reach
  have hclean := (trace_inv (newClientFunc_storesCleaned urlParse) (inv_init ds) tr).1
  obtain ⟨_, -, hl, hb⟩ := step_lock_inv h
  rcases getClientLocked_some_cases hl with ⟨cli, hlook, rfl, -, -⟩ | ⟨hcalls, -⟩
  · exact absurd (hclean _ _ hlook) slash
  · exact ⟨by simp [hb, hcalls], hcalls⟩

theorem slash_url_always_rebuilds_example :
    let o := (vulnIntegration "https://freescout.example.com/").options
    ∃ s s', Reachable exampleMatch (newClientFunc exampleURLParse) s ∧
      Step exampleMatch (newClientFunc exampleURLParse) s
        (.lock 1 vulnJob (some o) (.ok (some ⟨1, o.cleaned⟩)) true) s' ∧ o.cleaned ≠ o ∧
      (true = true ∧ s'.proc.newClientCalls = s.proc.newClientCalls + 1) := by
  intro o
  let f₁ : FreeScout := ⟨(∅ : AList _).insert vulnJob.clientKey ⟨0, o.cleaned⟩, 1⟩
  let s₁ : Sys := ⟨vulnDatastore "https://freescout.example.com/", f₁,
    [⟨vulnJob, .returned [vulnIntegration "https://freescout.example.com/"] (some ⟨0, o.cleaned⟩)⟩,
      ⟨vulnJob, .locking [vulnIntegration "https://freescout.example.com/"] (some o)⟩]⟩
  have tr : Trace exampleMatch (newClientFunc exampleURLParse)
      (Sys.init (vulnDatastore "https://freescout.example.com/"))
      [.invoke vulnJob, .load 0, .lock 0 vulnJob (some o) (.ok (some ⟨0, o.cleaned⟩)) true,
        .invoke vulnJob, .load 1] s₁ :=
    .cons (.invoke _ _) (.cons (.load rfl rfl) (.cons (.lock (f := f₁) rfl rfl)
      (.cons (.invoke _ _) (.cons (.load rfl rfl) (.nil _)))))
  have step : Step exampleMatch (newClientFunc exampleURLParse) s₁
      (.lock 1 vulnJob (some o) (.ok (some ⟨1, o.cleaned⟩)) true) _ :=
    .lock (f := ⟨f₁.clientsCache.insert vulnJob.clientKey ⟨1, o.cleaned⟩, 2⟩) rfl rfl
  have slash : o.cleaned ≠ o := by decide
  exact ⟨_, _, ⟨_, _, tr⟩, step, slash, slash_url_always_rebuilds ⟨_, _, tr⟩ step slash⟩

end FleetFreeScout.Worker
