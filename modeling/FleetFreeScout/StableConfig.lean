import FleetFreeScout.CacheReuse

namespace FleetFreeScout.Worker

open Externalsvc

/-- loadOptions reads a job's arguments only through its scope. -/
theorem loadOptions_congr
    {matchWithIntegrations : TeamIntegrations → Integrations → Except String Integrations}
    {ds : Datastore} {a b : FreeScoutArgs} (hk : a.integrationType = b.integrationType)
    (ht : a.teamScope = b.teamScope) :
    loadOptions matchWithIntegrations ds a = loadOptions matchWithIntegrations ds b := by
  simp only [loadOptions, hk, ht]

def Event.isReconfigure : Event → Bool
  | .reconfigure _ => true
  | _ => false

/-- A locked section of the scope of `a` that called NewClientFunc and got a client. -/
def Event.buildsScope (a : FreeScoutArgs) : Event → Bool
  | .lock _ x _ (.ok (some _)) true =>
    x.integrationType = a.integrationType && x.teamScope = a.teamScope
  | _ => false

theorem Event.buildsScope_lock {a x : FreeScoutArgs} {i : Nat} {opts : Option FreeScoutOptions}
    {r : Except String (Option Externalsvc.FreeScout)} {b : Bool}
    (h : (Event.lock i x opts r b).buildsScope a = true) :
    (∃ c, r = .ok (some c)) ∧ b = true ∧
      x.integrationType = a.integrationType ∧ x.teamScope = a.teamScope := by
  rcases r with _ | _ | c <;> cases b <;> simp [Event.buildsScope] at h
  exact ⟨⟨c, rfl⟩, rfl, h⟩

section

variable (matchWithIntegrations : TeamIntegrations → Integrations → Except String Integrations)
  (ds : Datastore)

/-- What a call has read so far agrees with the datastore `ds`. -/
def CallCurrent (c : Call) : Prop :=
  match c.stage with
  | .loadedAppConfig ac teamID => ds.appConfig = .ok ac ∧ c.args.teamScope = some teamID
  | .locking _ opts => loadOptions matchWithIntegrations ds c.args = .ok opts
  | _ => True

/-- Every cached client holds the options its scope resolves under `ds`. -/
def CacheCurrent (f : FreeScout) : Prop :=
  ∀ a cli, f.clientsCache.lookup a.clientKey = some cli →
    loadOptions matchWithIntegrations ds a = .ok (some cli.opts)

/-- The system while the datastore stays `ds`. -/
structure Current (s : Sys) : Prop where
  ds_eq : s.ds = ds
  cache : CacheCurrent matchWithIntegrations ds s.proc
  calls : ∀ c ∈ s.calls, CallCurrent matchWithIntegrations ds c

/-- A configuration whose resolved URLs have no trailing '/'. -/
def ResolvesClean : Prop :=
  ∀ a o, loadOptions matchWithIntegrations ds a = .ok (some o) → o.cleaned = o

end

section

variable {matchWithIntegrations : TeamIntegrations → Integrations → Except String Integrations}
  {newClientFunc : FreeScoutOptions → Nat → Except String Externalsvc.FreeScout}
  {ds : Datastore}

theorem current_init : Current matchWithIntegrations ds (Sys.init ds) :=
  ⟨rfl, fun _ _ h => by simp [Sys.init, FreeScout.init] at h, fun _ h => by simp [Sys.init] at h⟩

theorem loadStep_current {c : Call} {stage : Stage}
    (hc : CallCurrent matchWithIntegrations ds c)
    (h : loadStep matchWithIntegrations ds c = some stage) :
    CallCurrent matchWithIntegrations ds ⟨c.args, stage⟩ := by
  obtain ⟨args, st⟩ := c
  cases st with
  | entered =>
    cases Option.some.inj h
    cases hac : ds.appConfig with
    | error err => simp [CallCurrent, afterAppConfig]
    | ok ac =>
      cases hts : args.teamScope <;>
        simp [CallCurrent, afterAppConfig, loadOptions, hac, hts]
  | loadedAppConfig ac teamID =>
    cases Option.some.inj h
    obtain ⟨hac, hts⟩ := hc
    cases htl : ds.teamLite teamID with
    | error err => simp [CallCurrent, afterTeamLite, htl]
    | ok tm =>
      cases hti : teamIntegrations matchWithIntegrations ac tm <;>
        simp [CallCurrent, afterTeamLite, loadOptions, hac, hts, htl, hti, Except.map]
  | locking | failed | returned => cases h

theorem cacheCurrent_lock {args : FreeScoutArgs} {opts : Option FreeScoutOptions}
    {r : Except String (Option Externalsvc.FreeScout)} {f f' : FreeScout}
    (hn : StoresCleaned newClientFunc) (clean : ResolvesClean matchWithIntegrations ds)
    (hf : CacheCurrent matchWithIntegrations ds f)
    (hc : loadOptions matchWithIntegrations ds args = .ok opts)
    (h : getClientLocked newClientFunc args.clientKey opts f = (r, f')) :
    CacheCurrent matchWithIntegrations ds f' := by
  intro a cli hl
  by_cases hk : a.clientKey = args.clientKey
  · obtain ⟨hi, ht⟩ := FreeScoutArgs.clientKey_eq_iff.mp hk
    rw [loadOptions_congr hi ht, hc]
    rw [hk] at hl
    cases opts with
    | none =>
      simp only [getClientLocked_none, Prod.mk.injEq] at h
      rw [← h.2, AList.lookup_erase] at hl
      cases hl
    | some o =>
      obtain ⟨c, hl₀, ho, -, rfl⟩ | ⟨-, ⟨err, -, -, hcache⟩ | ⟨c, hb, -, hcache⟩⟩ :=
        getClientLocked_some_cases h
      · rw [hl₀] at hl
        cases hl
        rw [ho]
      · have := hf args cli (hcache ▸ hl)
        rwa [hc] at this
      · rw [hcache, AList.lookup_insert] at hl
        cases hl
        rw [hn _ _ _ hb, clean args o hc]
  · have hframe : (getClientLocked newClientFunc args.clientKey opts f).2.clientsCache.lookup
        a.clientKey = _ := getClientLocked_lookup_ne hk
    rw [h] at hframe
    exact hf a cli (hframe ▸ hl)

theorem step_current {s s' : Sys} {e : Event} (hn : StoresCleaned newClientFunc)
    (clean : ResolvesClean matchWithIntegrations ds) (hs : Current matchWithIntegrations ds s)
    (h : Step matchWithIntegrations newClientFunc s e s') (he : e.isReconfigure = false) :
    Current matchWithIntegrations ds s' := by
  obtain ⟨hds, hf, hc⟩ := hs
  cases h with
  | reconfigure => cases he
  | invoke =>
    refine ⟨hds, hf, fun c hm => ?_⟩
    rcases List.mem_append.mp hm with hm | hm
    · exact hc c hm
    · simp only [List.mem_singleton] at hm
      subst hm
      trivial
  | load hi hl =>
    refine ⟨hds, hf, fun c hm => ?_⟩
    rcases List.mem_or_eq_of_mem_set hm with hm | rfl
    · exact hc c hm
    · exact loadStep_current (hc _ (List.getElem?_mem hi)) (hds ▸ hl)
  | @lock _ _ _ _ r _ hi hl =>
    refine ⟨hds, cacheCurrent_lock hn clean hf (hc _ (List.getElem?_mem hi)) hl, fun c hm => ?_⟩
    rcases List.mem_or_eq_of_mem_set hm with hm | rfl
    · exact hc c hm
    · cases r <;> trivial

/-- Under a fixed configuration a cached client stays cached: every later locked section of
its scope resolves its options and reuses it, without calling NewClientFunc. -/
theorem step_keeps_entry {s s' : Sys} {e : Event} {a : FreeScoutArgs}
    {cli : Externalsvc.FreeScout} (hs : Current matchWithIntegrations ds s)
    (h : Step matchWithIntegrations newClientFunc s e s')
    (hl : s.proc.clientsCache.lookup a.clientKey = some cli) :
    e.buildsScope a = false ∧ s'.proc.clientsCache.lookup a.clientKey = some cli := by
  cases h with
  | reconfigure | invoke | load => exact ⟨rfl, hl⟩
  | @lock _ x _ opts r f hi hlock =>
    by_cases hscope : x.integrationType = a.integrationType ∧ x.teamScope = a.teamScope
    · have hk : x.clientKey = a.clientKey := FreeScoutArgs.clientKey_eq_iff.mpr hscope
      have hopts : opts = some cli.opts := by
        have hc : loadOptions matchWithIntegrations ds x = .ok opts :=
          hs.calls _ (List.getElem?_mem hi)
        rw [loadOptions_congr hscope.1 hscope.2, hs.cache a cli hl] at hc
        exact (Except.ok.inj hc).symm
      subst hopts
      rw [getClientLocked_reuse (hk ▸ hl) rfl] at hlock
      obtain ⟨rfl, rfl⟩ := Prod.mk.inj hlock
      exact ⟨by simp [Event.buildsScope], hl⟩
    · refine ⟨?_, ?_⟩
      · cases hb : (Event.lock _ x opts r _).buildsScope a
        · rfl
        · exact absurd (Event.buildsScope_lock hb).2.2 hscope
      · have hk : a.clientKey ≠ x.clientKey := fun hk =>
          hscope (FreeScoutArgs.clientKey_eq_iff.mp hk.symm)
        have hframe : (getClientLocked newClientFunc x.clientKey opts s.proc).2.clientsCache.lookup
            a.clientKey = _ := getClientLocked_lookup_ne hk
        rw [hlock] at hframe
        exact hframe.trans hl

/-- A locked section that builds a client for a scope leaves it cached. -/
theorem step_build_caches {s s' : Sys} {e : Event} {a : FreeScoutArgs}
    (hn : StoresCleaned newClientFunc) (h : Step matchWithIntegrations newClientFunc s e s')
    (hb : e.buildsScope a = true) : (s'.proc.clientsCache.lookup a.clientKey).isSome := by
  cases h with
  | reconfigure | invoke | load => cases hb
  | @lock _ x _ opts r f hi hlock =>
    obtain ⟨⟨c, rfl⟩, -, hscope⟩ := Event.buildsScope_lock hb
    rw [← FreeScoutArgs.clientKey_eq_iff.mpr hscope]
    cases opts with
    | none => cases (Prod.mk.inj hlock).1
    | some o => simp [(getClientLocked_ok_cached hn hlock).1]

/-- Along any run with the datastore fixed, a scope gets at most one client built, and none
once one is cached. -/
theorem trace_builds_le {s s' : Sys} {es : List Event} {a : FreeScoutArgs}
    (hn : StoresCleaned newClientFunc) (clean : ResolvesClean matchWithIntegrations ds)
    (tr : Trace matchWithIntegrations newClientFunc s es s')
    (hs : Current matchWithIntegrations ds s) (fixed : ∀ e ∈ es, e.isReconfigure = false) :
    (es.filter (·.buildsScope a)).length ≤
      if (s.proc.clientsCache.lookup a.clientKey).isSome then 0 else 1 := by
  induction tr with
  | nil => simp
  | @cons s₁ s₂ _ e es hstep _ ih =>
    have ih := ih (step_current hn clean hs hstep (fixed e (List.mem_cons_self _ _)))
      (fun e he => fixed e (List.mem_cons_of_mem _ he))
    cases hl : s₁.proc.clientsCache.lookup a.clientKey with
    | some cli =>
      obtain ⟨hb, hl'⟩ := step_keeps_entry hs hstep hl
      rw [hl'] at ih
      rwa [List.filter_cons_of_neg (by simp [hb])]
    | none =>
      cases hb : e.buildsScope a
      · rw [List.filter_cons_of_neg (by simp [hb])]
        exact ih.trans (by split <;> simp)
      · rw [step_build_caches hn hstep hb, if_pos rfl] at ih
        rw [List.filter_cons_of_pos (by simp [hb]), List.length_cons]
        exact Nat.succ_le_succ ih

end

/-- With the wired NewClientFunc and a configuration that does not change and resolves only
URLs without a trailing '/', NewClientFunc builds at most one client per scope over any
interleaving of any number of getClient calls. -/
theorem stable_config_builds_once {urlParse : String → Except String URL}
    {matchWithIntegrations : TeamIntegrations → Integrations → Except String Integrations}
    {ds : Datastore} {es : List Event} {s : Sys}
    (tr : Trace matchWithIntegrations (newClientFunc urlParse) (Sys.init ds) es s)
    (fixed : ∀ e ∈ es, e.isReconfigure = false)
    (clean : ResolvesClean matchWithIntegrations ds) (a : FreeScoutArgs) :
    (es.filter (·.buildsScope a)).length ≤ 1 := by
  simpa [Sys.init, FreeScout.init] using
    trace_builds_le (a := a) (newClientFunc_storesCleaned urlParse) clean tr current_init fixed

theorem vulnDatastore_resolvesClean :
    ResolvesClean exampleMatch (vulnDatastore "https://freescout.example.com") := by
  intro a o h
  cases hts : a.teamScope with
  | some t => simp [loadOptions, vulnDatastore, hts] at h
  | none =>
    simp only [loadOptions, vulnDatastore, hts, firstOptions, Except.ok.injEq] at h
    obtain ⟨intg, hf, rfl⟩ := Option.map_eq_some'.mp h
    rw [List.mem_singleton.mp (List.mem_of_find?_eq_some hf)]
    decide

theorem stable_config_builds_once_example :
    let o := (vulnIntegration "https://freescout.example.com").options
    let es : List Event := [.invoke vulnJob, .load 0,
      .lock 0 vulnJob (some o) (.ok (some ⟨0, o⟩)) true, .invoke vulnJob, .load 1,
      .lock 1 vulnJob (some o) (.ok (some ⟨0, o⟩)) false]
    ∃ s, Trace exampleMatch (newClientFunc exampleURLParse)
        (Sys.init (vulnDatastore "https://freescout.example.com")) es s ∧
      (∀ e ∈ es, e.isReconfigure = false) ∧
      ResolvesClean exampleMatch (vulnDatastore "https://freescout.example.com") ∧
      (es.filter (·.buildsScope vulnJob)).length ≤ 1 := by
  intro o es
  let f₁ : FreeScout := ⟨(∅ : AList _).insert vulnJob.clientKey ⟨0, o⟩, 1⟩
  have tr : Trace exampleMatch (newClientFunc exampleURLParse)
      (Sys.init (vulnDatastore "https://freescout.example.com")) es _ :=
    .cons (.invoke _ _) (.cons (.load rfl rfl) (.cons (.lock (f := f₁) rfl rfl)
      (.cons (.invoke _ _) (.cons (.load rfl rfl) (.cons (.lock (f := f₁) rfl rfl) (.nil _))))))
  have fixed : ∀ e ∈ es, e.isReconfigure = false := by
    intro e he
    simp only [es, List.mem_cons, List.not_mem_nil, or_false] at he
    rcases he with rfl | rfl | rfl | rfl | rfl | rfl <;> rfl
  exact ⟨_, tr, fixed, vulnDatastore_resolvesClean,
    stable_config_builds_once tr fixed vulnDatastore_resolvesClean vulnJob⟩

end FleetFreeScout.Worker
