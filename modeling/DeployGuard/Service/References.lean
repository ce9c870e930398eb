import DeployGuard.Service.BlastRadius
import DeployGuard.Service.Analysis

/-!
# References to changed services

A change names its services by id, slug or display name, in any case, or by the id of
a topology node. `_analysis_graph` looks a reference up in one dictionary of all
names, where of two services with one name the later one stands, and takes the
references as they are only if none of them is in it.

> `prepareAnalysis_resolves_iff`: every reference by id, slug or node has its own root
> iff every service named by id or slug is a root after all, and the node ids among
> the references are roots, or nothing is found.
-/

namespace DeployGuard.Service

open Raise

variable {host : Host} {catalog : List ServiceCatalogEntry} {reference : String}
  {service : ServiceCatalogEntry} {repositoryId : Option String} {requested roots : List String}

/-- The reference is the id, the slug or the name of the service, ignoring case. -/
def NamesService (host : Host) (reference : String) (service : ServiceCatalogEntry) : Prop :=
  host.casefold reference ∈ [service.id, service.slug, service.name].map host.casefold

/-- The reference is the id or the slug of the service, ignoring case. -/
def RefersTo (host : Host) (reference : String) (service : ServiceCatalogEntry) : Prop :=
  host.casefold reference = host.casefold service.id ∨
    host.casefold reference = host.casefold service.slug

/-- Of the services that have the reference for a name, this is the last one. -/
def LastNamed (host : Host) (catalog : List ServiceCatalogEntry) (reference : String)
    (service : ServiceCatalogEntry) : Prop :=
  ∃ before after, catalog = before ++ service :: after ∧ NamesService host reference service ∧
    ∀ later ∈ after, ¬NamesService host reference later

/-- The service is owned by the repository, or a reference leads to it. -/
def IsRoot (host : Host) (catalog : List ServiceCatalogEntry) (repositoryId : Option String)
    (requested : List String) (service : ServiceCatalogEntry) : Prop :=
  service ∈ catalog ∧ ((repositoryId ≠ none ∧ service.repositoryId = repositoryId) ∨
    ∃ reference ∈ requested, LastNamed host catalog reference service)

/-- Every reference to a service by id or slug, and every reference to a node of the
topology, has its own root. -/
def ResolvesAll (host : Host) (catalog : List ServiceCatalogEntry) (requested : List String)
    (graph : ServiceGraph) (roots : List String) : Prop :=
  ∀ reference ∈ requested,
    (∀ service ∈ catalog, RefersTo host reference service → service.id ∈ roots) ∧
      (reference ∈ nodeIds host graph.nodes → reference ∈ roots)

/-- Nothing that is referred to is lost. -/
structure NothingLost (host : Host) (catalog : List ServiceCatalogEntry)
    (repositoryId : Option String) (requested : List String) (graph : ServiceGraph) : Prop where
  /-- no other service takes the place of one that is referred to, unless it is a root anyway -/
  service : ∀ reference ∈ requested, ∀ service ∈ catalog, RefersTo host reference service →
    IsRoot host catalog repositoryId requested service
  /-- a node is a service that is found, or no service is -/
  node : ∀ reference ∈ requested, reference ∈ nodeIds host graph.nodes →
    (∃ service, IsRoot host catalog repositoryId requested service ∧ service.id = reference) ∨
      ∀ service, ¬IsRoot host catalog repositoryId requested service

theorem RefersTo.names (h : RefersTo host reference service) : NamesService host reference service := by
  rw [NamesService, List.map_cons, List.map_cons, List.mem_cons, List.mem_cons]
  exact h.elim Or.inl fun hslug => Or.inr (Or.inl hslug)

/-! ## The lookup -/

theorem lastNamed_nil : ¬LastNamed host [] reference service := by
  intro h
  obtain ⟨before, after, hsplit, -⟩ := h
  exact List.append_ne_nil_of_right_ne_nil before (List.cons_ne_nil _ _) hsplit.symm

theorem lastNamed_snoc {last : ServiceCatalogEntry} :
    LastNamed host (catalog ++ [last]) reference service ↔
      (NamesService host reference last ∧ service = last) ∨
        (¬NamesService host reference last ∧ LastNamed host catalog reference service) := by
  constructor
  · intro h
    obtain ⟨before, after, hsplit, hnames, hlater⟩ := h
    cases after using List.reverseRecOn with
    | nil =>
      obtain ⟨-, hlast⟩ := List.append_inj' hsplit rfl
      obtain rfl := List.singleton_inj.mp hlast
      exact Or.inl ⟨hnames, rfl⟩
    | append_singleton after x =>
      have hassoc : catalog ++ [last] = (before ++ service :: after) ++ [x] := by
        rw [hsplit, List.append_assoc, List.cons_append]
      obtain ⟨hcatalog, hlast⟩ := List.append_inj' hassoc rfl
      obtain rfl := List.singleton_inj.mp hlast
      refine Or.inr ⟨hlater last (List.mem_append_right _ List.mem_cons_self), before, after,
        hcatalog, hnames, fun later hmem => hlater later (List.mem_append_left _ hmem)⟩
  · intro h
    obtain ⟨hnames, rfl⟩ | ⟨hnot, before, after, hsplit, hnames, hlater⟩ := h
    · exact ⟨catalog, [], rfl, hnames, fun _ hmem => absurd hmem List.not_mem_nil⟩
    · refine ⟨before, after ++ [last], ?_, hnames, fun later hmem => ?_⟩
      · rw [hsplit, List.append_assoc, List.cons_append]
      · obtain hmem | hmem := List.mem_append.mp hmem
        · exact hlater later hmem
        · exact List.mem_singleton.mp hmem ▸ hnot

/-- A reference that names a service leads to one. -/
theorem exists_lastNamed (hmem : service ∈ catalog) (h : NamesService host reference service) :
    ∃ last ∈ catalog, LastNamed host catalog reference last := by
  induction catalog using List.reverseRecOn with
  | nil => exact absurd hmem List.not_mem_nil
  | append_singleton catalog last ih =>
    by_cases hlast : NamesService host reference last
    · exact ⟨last, List.mem_append_right _ List.mem_cons_self,
        lastNamed_snoc.mpr (Or.inl ⟨hlast, rfl⟩)⟩
    · obtain hmem | hmem := List.mem_append.mp hmem
      · obtain ⟨found, hfound, hnamed⟩ := ih hmem
        exact ⟨found, List.mem_append_left _ hfound, lastNamed_snoc.mpr (Or.inr ⟨hlast, hnamed⟩)⟩
      · exact absurd (List.mem_singleton.mp hmem ▸ h) hlast

/-- `service_by_reference` holds the last service of every name. -/
theorem get?_serviceByReference :
    (serviceByReference host catalog).get? (host.casefold reference) = some service ↔
      LastNamed host catalog reference service := by
  induction catalog using List.reverseRecOn with
  | nil => exact iff_of_false (by simp [serviceByReference, Dict.ofItems, Dict.get?]) lastNamed_nil
  | append_singleton catalog last ih =>
    have hset : serviceByReference host (catalog ++ [last]) =
        (((serviceByReference host catalog).set (host.casefold last.id) last).set
          (host.casefold last.slug) last).set (host.casefold last.name) last := by
      rw [serviceByReference, List.flatMap_append, Dict.ofItems, List.foldl_append]
      rfl
    rw [lastNamed_snoc, ← ih, hset, Dict.get?_set, Dict.get?_set, Dict.get?_set]
    simp only [NamesService, List.map_cons, List.map_nil, List.mem_cons, List.not_mem_nil, or_false]
    by_cases hname : host.casefold last.name = host.casefold reference
    · simp [hname, eq_comm]
    by_cases hslug : host.casefold last.slug = host.casefold reference
    · simp [hname, hslug, eq_comm]
    by_cases hid : host.casefold last.id = host.casefold reference
    · simp [hname, hslug, hid, eq_comm]
    · simp [hname, hslug, hid, Ne.symm hname, Ne.symm hslug, Ne.symm hid]

/-! ## The roots -/

section Roots

/-- The ids that are found. -/
def resolvedRoots (host : Host) (catalog : List ServiceCatalogEntry) (repositoryId : Option String)
    (requested : List String) : List String :=
  sortedSet ((requested.filterMap fun reference =>
      ((serviceByReference host catalog).get? (host.casefold reference)).map (·.id)) ++
    (catalog.filter fun service =>
      repositoryId ≠ none ∧ service.repositoryId = repositoryId).map (·.id))

theorem LastNamed.mem (h : LastNamed host catalog reference service) : service ∈ catalog := by
  obtain ⟨before, after, rfl, -⟩ := h
  exact List.mem_append_right _ List.mem_cons_self

theorem mem_resolvedRoots {id : String} :
    id ∈ resolvedRoots host catalog repositoryId requested ↔
      ∃ service, IsRoot host catalog repositoryId requested service ∧ service.id = id := by
  rw [resolvedRoots, mem_sortedSet, List.mem_append, List.mem_filterMap, List.mem_map]
  constructor
  · intro h
    obtain ⟨reference, hreference, hfound⟩ | ⟨service, hservice, rfl⟩ := h
    · obtain ⟨service, hget, rfl⟩ := Option.map_eq_some_iff.mp hfound
      have hlast := get?_serviceByReference.mp hget
      exact ⟨service, ⟨hlast.mem, Or.inr ⟨reference, hreference, hlast⟩⟩, rfl⟩
    · obtain ⟨hmem, howned⟩ := List.mem_filter.mp hservice
      exact ⟨service, ⟨hmem, Or.inl (of_decide_eq_true howned)⟩, rfl⟩
  · intro h
    obtain ⟨service, ⟨hmem, howned | ⟨reference, hreference, hlast⟩⟩, rfl⟩ := h
    · exact Or.inr ⟨service, List.mem_filter.mpr ⟨hmem, decide_eq_true howned⟩, rfl⟩
    · refine Or.inl ⟨reference, hreference, ?_⟩
      rw [get?_serviceByReference.mpr hlast]
      rfl

/-- The roots are what is found, or all references where nothing is. -/
theorem mem_effectiveRoots (h : effectiveRoots host catalog repositoryId requested = .ok roots)
    {id : String} :
    id ∈ roots ↔ (∃ service, IsRoot host catalog repositoryId requested service ∧ service.id = id) ∨
      ((∀ service, ¬IsRoot host catalog repositoryId requested service) ∧ id ∈ requested) := by
  unfold effectiveRoots at h
  split at h
  · next hempty =>
    obtain rfl := Except.ok.inj h
    -- no catalog, no root: the requested ids stand
    have hnone : ∀ service, ¬IsRoot host catalog repositoryId requested service := by
      intro service hroot
      rw [hempty] at hroot
      exact absurd hroot.1 List.not_mem_nil
    exact ⟨fun hmem => Or.inr ⟨hnone, hmem⟩,
      fun hmem => hmem.elim (fun hfound => absurd hfound.choose_spec.1 (hnone _)) And.right⟩
  · obtain ⟨_, -, h⟩ := bind_eq_ok.mp h
    obtain rfl := pure_eq_ok.mp h
    -- the requested ids stand only where no root was found
    show id ∈ (if resolvedRoots host catalog repositoryId requested = [] then uniqueValues requested
      else resolvedRoots host catalog repositoryId requested) ↔ _
    split
    · next hempty =>
      have hnone : ∀ service, ¬IsRoot host catalog repositoryId requested service := by
        intro service hroot
        have hmem := mem_resolvedRoots.mpr ⟨service, hroot, rfl⟩
        rw [hempty] at hmem
        exact absurd hmem List.not_mem_nil
      rw [mem_uniqueValues]
      exact ⟨fun hmem => Or.inr ⟨hnone, hmem⟩,
        fun hmem => hmem.elim (fun hfound => absurd hfound.choose_spec.1 (hnone _)) And.right⟩
    · next hfound =>
      obtain ⟨first, hfirst⟩ := List.exists_mem_of_ne_nil _ hfound
      obtain ⟨service, hroot, -⟩ := mem_resolvedRoots.mp hfirst
      rw [mem_resolvedRoots]
      exact ⟨Or.inl, fun hmem => hmem.resolve_right fun hnone => hnone.1 service hroot⟩

/-- Every reference has its own root iff nothing is lost. -/
theorem resolvesAll_iff {graph : ServiceGraph} (hids : (catalog.map (·.id)).Nodup)
    (h : effectiveRoots host catalog repositoryId requested = .ok roots) :
    ResolvesAll host catalog requested graph roots ↔
      NothingLost host catalog repositoryId requested graph := by
  constructor
  · intro hall
    refine ⟨fun reference hreference service hmem hrefers => ?_,
      fun reference hreference hnode => ?_⟩
    · have hid := (hall reference hreference).1 service hmem hrefers
      obtain ⟨other, hroot, hother⟩ | ⟨hnone, -⟩ := (mem_effectiveRoots h).mp hid
      · have hsame := List.inj_on_of_nodup_map hids hroot.1 hmem hother
        exact hsame ▸ hroot
      · obtain ⟨last, hlast, hnamed⟩ := exists_lastNamed hmem hrefers.names
        exact absurd ⟨hlast, Or.inr ⟨reference, hreference, hnamed⟩⟩ (hnone last)
    · exact ((mem_effectiveRoots h).mp ((hall reference hreference).2 hnode)).imp id And.left
  · intro hlost reference hreference
    refine ⟨fun service hmem hrefers => ?_, fun hnode => ?_⟩
    · exact (mem_effectiveRoots h).mpr
        (Or.inl ⟨service, hlost.service reference hreference service hmem hrefers, rfl⟩)
    · exact (mem_effectiveRoots h).mpr
        ((hlost.node reference hreference hnode).imp id fun hnone => ⟨hnone, hreference⟩)

end Roots

/-- Every reference of an analysis has its own root iff nothing that is referred to is
lost. -/
theorem prepareAnalysis_resolves_iff {s : Store} {request : AnalyzeChangeRequest}
    {scope : AnalysisScope} {a : Analysis} (h : prepareAnalysis host s request scope = .ok a) :
    ResolvesAll host (workspaceCatalog s a.scenario.workspaceId) request.changedServices a.graph
        a.effectiveChangedServices ↔
      NothingLost host (workspaceCatalog s a.scenario.workspaceId) scope.repositoryId
        request.changedServices a.graph := by
  obtain ⟨scenario, -, h⟩ := bind_eq_ok.mp h
  obtain ⟨roots, hroots, h⟩ := bind_eq_ok.mp h
  obtain rfl := pure_eq_ok.mp h
  have hids : ((workspaceCatalog s scenario.workspaceId).map (·.id)).Nodup := by
    have hperm := (List.perm_insertionSort (fun a b : ServiceCatalogEntry => a.id ≤ b.id)
      (s.services.select fun row => row.workspaceId = scenario.workspaceId)).map (·.id)
    exact hperm.nodup_iff.mpr (s.services.nodup.sublist (List.filter_sublist.map _))
  exact resolvesAll_iff hids hroots

/-! ### A service under another one's slug -/

def catalogService (id name slug : String) : ServiceCatalogEntry where
  id
  workspaceId := "acme"
  name
  slug
  description := ""
  tier := "tier_1"
  lifecycle := "active"
  ownerTeam := "payments"
  repositoryId := none
  dependencies := []
  runbookUrl := none
  tags := []
  createdAt := 0
  updatedAt := 0

def cacheScenario : Scenario where
  id := "checkout-live"
  workspaceId := "acme"
  repositoryId := "shop"
  dataMode := "live"
  isActive := true
  sortOrder := 0
  activeChangeId := none
  activeIncidentId := none
  serviceGraph := { nodes := [[("id", .str "redis")]], edges := [], updatedAt := .none }

def cacheServices (nameOfLedger : String) : List ServiceCatalogEntry :=
  [catalogService "svc-1" "Payments" "payments", catalogService "svc-2" nameOfLedger "ledger"]

theorem cacheServices_nodup (nameOfLedger : String) :
    ((cacheServices nameOfLedger).map ServiceCatalogEntry.id).Nodup := by
  show ["svc-1", "svc-2"].Nodup
  decide

/-- A workspace with two services, and a topology with a cache. -/
def cacheStore (nameOfLedger : String) : Store :=
  { Store.empty with
    services := ⟨cacheServices nameOfLedger, cacheServices_nodup nameOfLedger⟩
    scenarios := ⟨[cacheScenario], List.nodup_singleton _⟩ }

def changeOf (services : List String) : AnalyzeChangeRequest where
  title := "Raise the retry limit"
  repository := "acme/shop"
  author := "ana"
  filesChanged := 1
  linesAdded := 1
  linesDeleted := 0
  changedServices := services

def cacheAnalysis (nameOfLedger : String) (services roots : List String) : Analysis where
  request := changeOf services
  scenario := cacheScenario
  graph := analysisTopology asciiHost (workspaceCatalog (cacheStore nameOfLedger) "acme")
    cacheScenario.serviceGraph
  effectiveChangedServices := roots

/-- With a name of its own for every service nothing is lost. -/
theorem payments_found :
    ∃ a, prepareAnalysis asciiHost (cacheStore "Ledger") (changeOf ["PAYMENTS"]) {} = .ok a ∧
      a.effectiveChangedServices = ["svc-1"] ∧
        NothingLost asciiHost (workspaceCatalog (cacheStore "Ledger") a.scenario.workspaceId) none
          ["PAYMENTS"] a.graph := by
  have hrun : prepareAnalysis asciiHost (cacheStore "Ledger") (changeOf ["PAYMENTS"]) {} =
      .ok (cacheAnalysis "Ledger" ["PAYMENTS"] ["svc-1"]) := rfl
  refine ⟨_, hrun, rfl, (prepareAnalysis_resolves_iff hrun).mp fun reference hreference => ?_⟩
  obtain rfl : reference = "PAYMENTS" := List.mem_singleton.mp hreference
  have hcatalog : workspaceCatalog (cacheStore "Ledger") "acme" = cacheServices "Ledger" := rfl
  refine ⟨fun service hservice hrefers => ?_, fun hnode => absurd hnode (by decide)⟩
  have hmem : service ∈ cacheServices "Ledger" := hcatalog ▸ hservice
  simp only [cacheServices, List.mem_cons, List.not_mem_nil, or_false] at hmem
  obtain rfl | rfl := hmem
  · exact List.mem_cons_self
  · exact absurd hrefers (by unfold RefersTo; decide)

/-- The slug of one service in another one's name: the slug leads to the other one, and
the cache next to it is lost. -/
theorem payments_shadowed :
    ∃ a, prepareAnalysis asciiHost (cacheStore "payments") (changeOf ["payments", "redis"]) {} =
        .ok a ∧ a.effectiveChangedServices = ["svc-2"] ∧
      RefersTo asciiHost "payments" (catalogService "svc-1" "Payments" "payments") ∧
      "redis" ∈ nodeIds asciiHost a.graph.nodes ∧
      ¬ResolvesAll asciiHost (workspaceCatalog (cacheStore "payments") a.scenario.workspaceId)
        ["payments", "redis"] a.graph a.effectiveChangedServices := by
  refine ⟨cacheAnalysis "payments" ["payments", "redis"] ["svc-2"], rfl, rfl, Or.inr rfl, by decide,
    fun hall => ?_⟩
  have hroot := (hall "payments" List.mem_cons_self).1
    (catalogService "svc-1" "Payments" "payments") List.mem_cons_self (Or.inr rfl)
  exact absurd hroot (by decide)

end DeployGuard.Service
