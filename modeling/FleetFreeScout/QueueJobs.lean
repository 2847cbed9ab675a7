import FleetFreeScout.GetClient
import Mathlib.Data.List.Dedup
namespace FleetFreeScout.Worker

/-- The software IDs of the vulnerabilities of one CVE, in input order. -/
def affectedIDs (recentVulns : List SoftwareVulnerability) (cve : String) : List Nat :=
  (recentVulns.filter (·.getCVE = cve)).map (·.affected)

/-- The grouping loop of QueueFreeScoutVulnJobs (lines 369-372); a missing key reads as
the nil slice. -/
def groupByCVE (recentVulns : List SoftwareVulnerability) : AList (fun _ : String => List Nat) :=
  recentVulns.foldl (fun cveGrouped v =>
    cveGrouped.insert v.getCVE (((cveGrouped.lookup v.getCVE).getD []) ++ [v.affected])) ∅

theorem lookup_foldl_group (recentVulns : List SoftwareVulnerability)
    (m : AList (fun _ : String => List Nat)) (cve : String) :
    (recentVulns.foldl (fun cveGrouped v =>
      cveGrouped.insert v.getCVE (((cveGrouped.lookup v.getCVE).getD []) ++ [v.affected])) m).lookup cve =
      if cve ∈ recentVulns.map (·.getCVE) then some ((m.lookup cve).getD [] ++ affectedIDs recentVulns cve)
      else m.lookup cve := by
  induction recentVulns generalizing m with
  | nil => simp
  | cons v rest ih =>
    rw [List.foldl_cons, ih]
    by_cases hv : v.getCVE = cve
    · subst hv
      simp [affectedIDs, AList.lookup_insert]
    · have hne : cve ≠ v.getCVE := Ne.symm hv
      by_cases hr : cve ∈ rest.map (·.getCVE)
      · simp [hr, AList.lookup_insert_ne hne, affectedIDs, hv]
      · simp [hr, AList.lookup_insert_ne hne, hne]

theorem groupByCVE_lookup (recentVulns : List SoftwareVulnerability) (cve : String) :
    (groupByCVE recentVulns).lookup cve =
      if cve ∈ recentVulns.map (·.getCVE) then some (affectedIDs recentVulns cve) else none := by
  simp [groupByCVE, lookup_foldl_group]

theorem dlookup_map_sigma (l : List String) (g : String → List Nat) (cve : String) :
    (l.map fun c => (⟨c, g c⟩ : Σ _ : String, List Nat)).dlookup cve =
      if cve ∈ l then some (g cve) else none := by
  induction l with
  | nil => simp
  | cons c l ih =>
    by_cases h : cve = c
    · subst h
      simp [List.dlookup_cons_eq]
    · simp [List.dlookup_cons_ne _ (⟨c, g c⟩ : Σ _ : String, List Nat) h, ih, h]

/-- The map holds one entry per distinct CVE, with that CVE's IDs in input order. -/
theorem groupByCVE_entries_perm (recentVulns : List SoftwareVulnerability) :
    (groupByCVE recentVulns).entries.Perm ((recentVulns.map (·.getCVE)).dedup.map
      fun cve => ⟨cve, affectedIDs recentVulns cve⟩) := by
  refine List.lookup_ext (groupByCVE recentVulns).nodupKeys ?_ fun cve ids => ?_
  · simpa [List.NodupKeys, List.keys, Function.comp_def] using List.nodup_dedup _
  · change ids ∈ (groupByCVE recentVulns).lookup cve ↔ _
    simp only [groupByCVE_lookup, dlookup_map_sigma, List.mem_dedup]

/-- The arguments the queueing loop builds for one CVE (lines 375-381). -/
def vulnArgsFor (cveMeta : String → Option CVEMeta) (cve : String) (sIDs : List Nat) : VulnArgs :=
  match cveMeta cve with
  | some meta =>
    ⟨cve, sIDs, meta.epssProbability, meta.cvssScore, meta.cisaKnownExploit, meta.published⟩
  | none => ⟨cve, sIDs, none, none, none, none⟩

/-- Modelled from the spec: QueueJob is declared outside src/; it records the job with its
arguments in the datastore's job table, or returns the datastore's error. -/
def queueJob (ds : Datastore) (name : String) (args : FreeScoutArgs) (jobs : List Job) :
    Except String (List Job) :=
  (ds.newJob ⟨name, args⟩).map fun _ => jobs ++ [⟨name, args⟩]

/-- The range loop over cveGrouped in the order it visits the entries (lines 374-387): the
job table it leaves and its result. -/
def queueGroups (ds : Datastore) (cveMeta : String → Option CVEMeta) :
    List (Σ _ : String, List Nat) → List Job → List Job × Except String Unit
  | [], jobs => (jobs, .ok ())
  | ⟨cve, sIDs⟩ :: rest, jobs =>
    match queueJob ds freescoutName ⟨some (vulnArgsFor cveMeta cve sIDs), none⟩ jobs with
    | .error err => (jobs, .error (wrap "queueing job" err))
    | .ok jobs => queueGroups ds cveMeta rest jobs

/-- QueueFreeScoutVulnJobs; `visit` is the order Go's range picks for the map. -/
def queueFreeScoutVulnJobs
    (visit : AList (fun _ : String => List Nat) → List (Σ _ : String, List Nat))
    (ds : Datastore) (recentVulns : List SoftwareVulnerability)
    (cveMeta : String → Option CVEMeta) (jobs : List Job) : List Job × Except String Unit :=
  queueGroups ds cveMeta (visit (groupByCVE recentVulns)) jobs

theorem queueGroups_ok_iff {ds : Datastore} {cveMeta : String → Option CVEMeta}
    {entries : List (Σ _ : String, List Nat)} {jobs : List Job} :
    (queueGroups ds cveMeta entries jobs).2 = .ok () ↔ ∀ e ∈ entries,
      ds.newJob ⟨freescoutName, ⟨some (vulnArgsFor cveMeta e.1 e.2), none⟩⟩ = .ok () := by
  induction entries generalizing jobs with
  | nil => simp [queueGroups]
  | cons e rest ih =>
    obtain ⟨cve, sIDs⟩ := e
    simp only [queueGroups, queueJob, List.mem_cons, forall_eq_or_imp]
    cases ds.newJob ⟨freescoutName, ⟨some (vulnArgsFor cveMeta cve sIDs), none⟩⟩ with
    | error err => simp [Except.map]
    | ok u => simp [Except.map, ih]

theorem queueGroups_ok {ds : Datastore} {cveMeta : String → Option CVEMeta}
    {entries : List (Σ _ : String, List Nat)} {jobs : List Job}
    (h : (queueGroups ds cveMeta entries jobs).2 = .ok ()) :
    (queueGroups ds cveMeta entries jobs).1 = jobs ++ entries.map fun e =>
      ⟨freescoutName, ⟨some (vulnArgsFor cveMeta e.1 e.2), none⟩⟩ := by
  induction entries generalizing jobs with
  | nil => simp [queueGroups]
  | cons e rest ih =>
    obtain ⟨cve, sIDs⟩ := e
    simp only [queueGroups, queueJob] at h ⊢
    cases hn : ds.newJob ⟨freescoutName, ⟨some (vulnArgsFor cveMeta cve sIDs), none⟩⟩ with
    | error err => simp [hn, Except.map] at h
    | ok u =>
      simp only [hn, Except.map] at h ⊢
      rw [ih h]
      simp

/-- The queueing loop is fail-stop: it queues the jobs of a prefix of the entries, all of
which the datastore accepted, and then either reaches the end or stops at the first job the
datastore refused, reporting that error. -/
theorem queueGroups_prefix (ds : Datastore) (cveMeta : String → Option CVEMeta)
    (entries : List (Σ _ : String, List Nat)) (jobs : List Job) :
    let all : List Job := entries.map fun e =>
      ⟨freescoutName, ⟨some (vulnArgsFor cveMeta e.1 e.2), none⟩⟩
    ∃ k, (queueGroups ds cveMeta entries jobs).1 = jobs ++ all.take k ∧
      (∀ j ∈ all.take k, ds.newJob j = .ok ()) ∧
      ((queueGroups ds cveMeta entries jobs).2 = .ok () ∧ k = all.length ∨
        ∃ job err, all[k]? = some job ∧ ds.newJob job = .error err ∧
          (queueGroups ds cveMeta entries jobs).2 = .error (wrap "queueing job" err)) := by
  induction entries generalizing jobs with
  | nil => exact ⟨0, (List.append_nil _).symm, fun _ hj => (by cases hj), .inl ⟨rfl, rfl⟩⟩
  | cons e rest ih =>
    obtain ⟨cve, sIDs⟩ := e
    cases hn : ds.newJob ⟨freescoutName, ⟨some (vulnArgsFor cveMeta cve sIDs), none⟩⟩ with
    | error err =>
      have hq : queueGroups ds cveMeta (⟨cve, sIDs⟩ :: rest) jobs =
          (jobs, .error (wrap "queueing job" err)) := by
        simp only [queueGroups, queueJob, hn, Except.map]
      exact ⟨0, by rw [hq, List.take_zero, List.append_nil],
        fun _ hj => (by rw [List.take_zero] at hj; cases hj),
        .inr ⟨⟨freescoutName, ⟨some (vulnArgsFor cveMeta cve sIDs), none⟩⟩, err,
          by rw [List.map_cons, List.getElem?_cons_zero], hn, by rw [hq]⟩⟩
    | ok u =>
      obtain ⟨k, h₁, h₂, h₃⟩ :=
        ih (jobs ++ [⟨freescoutName, ⟨some (vulnArgsFor cveMeta cve sIDs), none⟩⟩])
      have hq : queueGroups ds cveMeta (⟨cve, sIDs⟩ :: rest) jobs = queueGroups ds cveMeta rest
          (jobs ++ [⟨freescoutName, ⟨some (vulnArgsFor cveMeta cve sIDs), none⟩⟩]) := by
        simp only [queueGroups, queueJob, hn, Except.map]
      refine ⟨k + 1, by rw [hq, h₁, List.map_cons, List.take_succ_cons, List.append_assoc]; rfl,
        ?_, ?_⟩
      · intro j hj
        simp only [List.map_cons, List.take_succ_cons, List.mem_cons] at hj
        rcases hj with rfl | hj
        · exact hn
        · exact h₂ j hj
      · rw [hq]
        rcases h₃ with ⟨hok, rfl⟩ | ⟨job, err, hj, herr, hres⟩
        · exact .inl ⟨hok, by rw [List.map_cons, List.length_cons]⟩
        · exact .inr ⟨job, err, by rwa [List.map_cons, List.getElem?_cons_succ], herr, hres⟩

/-- The job for one CVE as the spec describes it: the CVE, the affected software IDs of its
vulnerabilities in input order, and cveMeta's scores and dates for it, nil when it has none. -/
def expectedVulnJob (recentVulns : List SoftwareVulnerability) (cveMeta : String → Option CVEMeta)
    (cve : String) : Job :=
  ⟨freescoutName, ⟨some
    { cve := cve
      affectedSoftwareIDs := affectedIDs recentVulns cve
      epssProbability := (cveMeta cve).bind (·.epssProbability)
      cvssScore := (cveMeta cve).bind (·.cvssScore)
      cisaKnownExploit := (cveMeta cve).bind (·.cisaKnownExploit)
      cvePublished := (cveMeta cve).bind (·.published) }, none⟩⟩

theorem vulnArgsFor_expected (recentVulns : List SoftwareVulnerability)
    (cveMeta : String → Option CVEMeta) (cve : String) :
    (⟨freescoutName, ⟨some (vulnArgsFor cveMeta cve (affectedIDs recentVulns cve)), none⟩⟩ : Job) =
      expectedVulnJob recentVulns cveMeta cve := by
  unfold vulnArgsFor expectedVulnJob
  cases cveMeta cve <;> rfl

/-- When the queueing loop succeeds it has queued one job per distinct CVE, in any visit order
of the map's entries. -/
theorem queueFreeScoutVulnJobs_jobs_of_ok
    {visit : AList (fun _ : String => List Nat) → List (Σ _ : String, List Nat)}
    {ds : Datastore} {recentVulns : List SoftwareVulnerability}
    {cveMeta : String → Option CVEMeta} {jobs : List Job}
    (hvisit : (visit (groupByCVE recentVulns)).Perm (groupByCVE recentVulns).entries)
    (hok : (queueFreeScoutVulnJobs visit ds recentVulns cveMeta jobs).2 = .ok ()) :
    ∃ queued, (queueFreeScoutVulnJobs visit ds recentVulns cveMeta jobs).1 = jobs ++ queued ∧
      queued.Perm ((recentVulns.map (·.getCVE)).dedup.map (expectedVulnJob recentVulns cveMeta)) := by
  refine ⟨_, queueGroups_ok hok, ?_⟩
  have hperm := (hvisit.trans (groupByCVE_entries_perm recentVulns)).map
    fun e => (⟨freescoutName, ⟨some (vulnArgsFor cveMeta e.1 e.2), none⟩⟩ : Job)
  simpa [Function.comp_def, vulnArgsFor_expected] using hperm

theorem queueFreeScoutVulnJobs_one_job_per_cve
    {visit : AList (fun _ : String => List Nat) → List (Σ _ : String, List Nat)}
    {ds : Datastore} {recentVulns : List SoftwareVulnerability}
    {cveMeta : String → Option CVEMeta} {jobs : List Job}
    (hvisit : (visit (groupByCVE recentVulns)).Perm (groupByCVE recentVulns).entries)
    (hq : ∀ job, ds.newJob job = .ok ()) :
    (queueFreeScoutVulnJobs visit ds recentVulns cveMeta jobs).2 = .ok () ∧
    ∃ queued, (queueFreeScoutVulnJobs visit ds recentVulns cveMeta jobs).1 = jobs ++ queued ∧
      queued.Perm ((recentVulns.map (·.getCVE)).dedup.map (expectedVulnJob recentVulns cveMeta)) := by
  have hok : (queueFreeScoutVulnJobs visit ds recentVulns cveMeta jobs).2 = .ok () :=
    queueGroups_ok_iff.mpr fun _ _ => hq _
  exact ⟨hok, queueFreeScoutVulnJobs_jobs_of_ok hvisit hok⟩

/-- Three vulnerabilities, two of them of one CVE. -/
def exampleVulns : List SoftwareVulnerability :=
  [⟨1, "CVE-2024-0001"⟩, ⟨2, "CVE-2024-0002"⟩, ⟨3, "CVE-2024-0001"⟩]

/-- A datastore whose job inserts all succeed. -/
def acceptingDatastore : Datastore :=
  ⟨.error "no config", fun _ => .error "no team", fun _ => .ok [], fun _ => .ok [], fun _ => .ok ()⟩

theorem queueFreeScoutVulnJobs_example :
    (groupByCVE exampleVulns).entries.Perm (groupByCVE exampleVulns).entries ∧
      (∀ job, acceptingDatastore.newJob job = .ok ()) ∧
      (queueFreeScoutVulnJobs AList.entries acceptingDatastore exampleVulns (fun _ => none) []).2 =
        .ok () ∧
    ∃ queued,
      (queueFreeScoutVulnJobs AList.entries acceptingDatastore exampleVulns (fun _ => none) []).1 =
        [] ++ queued ∧
      queued.Perm ((exampleVulns.map (·.getCVE)).dedup.map
        (expectedVulnJob exampleVulns (fun _ => none))) :=
  ⟨List.Perm.refl _, fun _ => rfl,
    queueFreeScoutVulnJobs_one_job_per_cve (List.Perm.refl _) fun _ => rfl⟩

/-- QueueFreeScoutFailingPolicyJob (lines 393-425): no job for a policy without hosts. -/
def queueFreeScoutFailingPolicyJob (ds : Datastore) (policy : Policy)
    (hosts : List PolicySetHost) (jobs : List Job) : List Job × Except String Unit :=
  if hosts.length = 0 then (jobs, .ok ())
  else
    match queueJob ds freescoutName
        ⟨none, some ⟨policy.id, policy.name, policy.critical, policy.teamID, hosts⟩⟩ jobs with
    | .error err => (jobs, .error (wrap "queueing job" err))
    | .ok jobs => (jobs, .ok ())

end FleetFreeScout.Worker
