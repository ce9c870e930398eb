import DeployGuard.Service.BlastRadius

/-!
# The order of a topology

A change is analysed again only when the digest of its inputs changes, and the digest
sorts the topology's nodes and edges first. The blast radius should then not depend on
their order.

What the search finds does not: the edges out of a node are sorted by target, so every
node is queued for the first time at the same point of every run. The edges of the
result are sorted by their ends alone.

> `orderFree_iff`: the result is the same for every order of the nodes and edges iff
> reported edges with the same ends have the same entry.
-/

namespace DeployGuard.Service

open BreadthFirst

variable {host : Host} {nodes nodes' edges edges' : List Items} {roots : List String}
  {maxHops : Nat}

/-- The result is the same for every order of the nodes and of the edges. -/
def OrderFree (host : Host) (nodes edges : List Items) (roots : List String)
    (evidencePrefix : String) (maxHops : Nat) (decay : ℚ) : Prop :=
  ∀ nodes' edges', nodes'.Perm nodes → edges'.Perm edges →
    calculateBlastRadius host nodes' edges' roots evidencePrefix maxHops decay =
      calculateBlastRadius host nodes edges roots evidencePrefix maxHops decay

/-- A shortest path from a root to the node has that many hops. -/
structure Shortest (arcs : List (Arc String ℚ)) (roots : List String) (id : String) (hops : Nat) :
    Prop where
  path : ∃ root ∈ roots, ∃ confidence, Walk arcs root id hops confidence
  least : ∀ root ∈ roots, ∀ n confidence, Walk arcs root id n confidence → hops ≤ n

/-- The target of the edge is one hop further than its source, and within the hops. -/
def Crosses (arcs : List (Arc String ℚ)) (roots : List String) (maxHops : Nat) (edge : Edge) :
    Prop :=
  ∃ hops, Shortest arcs roots edge.source hops ∧ Shortest arcs roots edge.target (hops + 1) ∧
    hops + 1 ≤ maxHops

/-- Crossing edges with the same ends have the same relation, and the same confidence
as far as it is reported. -/
def NoTies (host : Host) (nodes edges : List Items) (roots : List String) (maxHops : Nat) : Prop :=
  ∀ e ∈ impactEdges host edges, ∀ e' ∈ impactEdges host edges,
    Crosses (impactArcs host nodes edges roots) roots maxHops e →
      e.source = e'.source → e.target = e'.target → blastEdge e = blastEdge e'

/-! ## The known nodes -/

/-- Dictionaries that look alike look alike with the roots added. -/
theorem get?_withServices_congr {d d' : Dict String Items} (h : ∀ k, d'.get? k = d.get? k)
    (roots : List String) (k : String) :
    (withServices host d' roots).get? k = (withServices host d roots).get? k := by
  unfold withServices
  induction roots generalizing d d' with
  | nil => exact h k
  | cons root roots ih =>
    refine ih fun k => ?_
    rw [Dict.get?_setdefault, Dict.get?_setdefault, h]

/-- Where the ids are distinct, the order of the nodes does not matter. -/
theorem get?_knownNodes_perm (hids : (nodeIds host nodes).Nodup) (hperm : nodes'.Perm nodes)
    (roots : List String) (k : String) :
    (knownNodes host nodes' roots).get? k = (knownNodes host nodes roots).get? k := by
  have hitems : ∀ xs : List Items, (nodeIds host xs).zip xs = xs.map fun node =>
      (itemText host node "id", node) := by
    intro xs
    induction xs with
    | nil => rfl
    | cons node xs ih =>
      rw [nodeIds] at ih
      rw [nodeIds, List.map_cons, List.zip_cons_cons, ih, List.map_cons]
  have hfst : ∀ xs : List Items, ((nodeIds host xs).zip xs).map Prod.fst = nodeIds host xs :=
    fun xs => List.map_fst_zip (by rw [nodeIds, List.length_map])
  have hids' : (nodeIds host nodes').Nodup := (hperm.map _).nodup_iff.mpr hids
  refine get?_withServices_congr (fun k => Option.ext fun node => ?_) roots k
  rw [nodesById, nodesById, Dict.get?_ofItems (by rwa [hfst]), Dict.get?_ofItems (by rwa [hfst]),
    hitems, hitems, (hperm.map _).mem_iff]

/-- Permuted edges give permuted impact edges. -/
theorem impactEdges_perm (host : Host) (hperm : edges'.Perm edges) :
    (impactEdges host edges').Perm (impactEdges host edges) := (hperm.filter _).map _

/-- A complete topology is complete in any order. -/
theorem Complete.perm (h : Complete host nodes edges) (hnodes : nodes'.Perm nodes)
    (hedges : edges'.Perm edges) : Complete host nodes' edges' where
  ids node hnode := h.ids node (hnodes.mem_iff.mp hnode)
  sources edge hedge := h.sources edge (hedges.mem_iff.mp hedge)
  targets edge hedge := h.targets edge (hedges.mem_iff.mp hedge)
  weights edge hedge := h.weights edge ((impactEdges_perm host hedges).mem_iff.mp hedge)

/-! ## The search -/

/-- The arcs to one target are sorted by weight. -/
theorem byTarget_arcsFrom (known : Dict String Items) (es : List Edge) (u : String) :
    ByTarget (· ≤ ·) (arcsFrom known es u) := by
  have hsorted : (outgoing es u).Pairwise (Sorted.lexLe Edge.target Edge.relation) :=
    Sorted.pairwise_insertionSort_lexLe Edge.target Edge.relation _
  rw [ByTarget, arcsFrom, List.pairwise_map]
  refine (hsorted.sublist List.filter_sublist).imp fun {a b} hab => ?_
  exact hab.elim Std.le_of_lt fun heq => Std.le_of_eq heq.1

/-- Permuted edges give the same arcs for each target. -/
theorem sameArcs_perm {known known' : Dict String Items} {es es' : List Edge}
    (hknown : ∀ k, known'.contains k = known.contains k) (hperm : es'.Perm es) :
    SameArcs (· ≤ ·) (arcsFrom known' es') (arcsFrom known es) where
  anti _ _ := String.le_antisymm
  perm u := by
    have hout : (outgoing es' u).Perm (outgoing es u) :=
      (List.perm_insertionSort _ _).trans ((hperm.filter _).trans (List.perm_insertionSort _ _).symm)
    have hfilter : (outgoing es' u).filter (fun edge => known'.contains edge.target) =
        (outgoing es' u).filter fun edge => known.contains edge.target :=
      List.filter_congr fun edge _ => hknown edge.target
    rw [arcsFrom, arcsFrom, hfilter]
    exact (hout.filter _).map _
  left u := byTarget_arcsFrom known' es' u
  right u := byTarget_arcsFrom known es u

/-- An entry is determined by its label. -/
theorem toLabel_injective {r r' : Reached} (h : r.toLabel = r'.toLabel) : r = r' := by
  obtain ⟨distance, confidence, origin⟩ := r
  cases r'
  simp only [Reached.toLabel, Label.mk.injEq] at h
  simp only [h]

/-- What was found does not depend on the order of the edges. -/
theorem search_perm {known known' : Dict String Items} {es es' : List Edge}
    (hknown : ∀ k, known'.contains k = known.contains k) (hperm : es'.Perm es)
    {found found' : Search}
    (h : found.abs = BreadthFirst.search (arcsFrom known es) maxHops
      ((sortedSet roots).length * pathBound es.length maxHops) (startSearch (sortedSet roots)).abs)
    (h' : found'.abs = BreadthFirst.search (arcsFrom known' es') maxHops
      ((sortedSet roots).length * pathBound es'.length maxHops)
        (startSearch (sortedSet roots)).abs) (k : String) :
    found'.reached.get? k = found.reached.get? k := by
  have hlabels := search_congr (sameArcs_perm hknown hperm) (arcs_search known' es')
    (arcs_search known es) (arcsFrom_length known' es') (startSearch_atLayer _ roots)
    (startSearch_atLayer _ roots) (Nat.le_of_eq (congrArg _ (pathBound_eq _ maxHops).symm))
    (arcsFrom_length known es) (Nat.le_of_eq (congrArg _ (pathBound_eq _ maxHops).symm))
  have hk := congrFun hlabels k
  have hstart : (startSearch (sortedSet roots)).abs.queue.length = (sortedSet roots).length := rfl
  rw [hstart, ← h, ← h', abs_label, abs_label] at hk
  exact Option.map_injective (fun r r' => toLabel_injective) hk

/-- The nodes are listed alike whatever order they were reached in. -/
theorem orderedNodes_congr {reached reached' : Dict String Reached} (hkeys : reached.keys.Nodup)
    (hkeys' : reached'.keys.Nodup) (h : ∀ k, reached'.get? k = reached.get? k) :
    orderedNodes reached' = orderedNodes reached := by
  have hperm : reached'.Perm reached := by
    rw [List.perm_ext_iff_of_nodup (List.Nodup.of_map _ hkeys') (List.Nodup.of_map _ hkeys)]
    intro entry
    rw [← Dict.get?_eq_some hkeys', ← Dict.get?_eq_some hkeys, h]
  refine Sorted.insertionSort_lexLe_congr (fun a : String × Reached => a.2.distance) Prod.fst hperm
    fun a ha b hb _ hid => ?_
  -- no two entries are of one node
  have hget := (Dict.get?_eq_some hkeys').mpr ha
  have hget' := (Dict.get?_eq_some hkeys').mpr hb
  rw [hid, hget'] at hget
  exact Prod.ext hid (Option.some.inj hget).symm

/-- The edges drawn are the same. -/
theorem crossesLayer_congr {reached reached' : Dict String Reached}
    (h : ∀ k, reached'.get? k = reached.get? k) (edge : Edge) :
    crossesLayer reached' edge = crossesLayer reached edge := by
  rw [crossesLayer, crossesLayer, h, h]

/-- For every order of the topology the result has the same nodes, and of its edges the
same ones in an order of their own. -/
theorem calculateBlastRadius_orders (h : Complete host nodes edges)
    (hids : (nodeIds host nodes).Nodup) (roots : List String) (evidencePrefix : String)
    (maxHops : Nat) (decay : ℚ) :
    ∃ (reached : Dict String Reached) (resultNodes : List BlastNode),
      Found host nodes edges roots maxHops reached ∧
      ∀ nodes' edges', nodes'.Perm nodes → edges'.Perm edges →
        calculateBlastRadius host nodes' edges' roots evidencePrefix maxHops decay = .ok
          { nodes := resultNodes
            edges := orderedEdges
              (((impactEdges host edges').filter (crossesLayer reached)).map blastEdge) } := by
  obtain ⟨found, hinv, habs, -⟩ := calculateBlastRadius_found h roots evidencePrefix maxHops decay
  refine ⟨found.reached, (orderedNodes found.reached).map fun entry =>
    blastNode host decay evidencePrefix (knownNodes host nodes roots) entry.1 entry.2,
    found_exact hinv (Nat.le_refl _) habs, fun nodes' edges' hnodes hedges => ?_⟩
  have hlookup := get?_knownNodes_perm hids hnodes roots
  obtain ⟨found', hinv', habs', hrun'⟩ :=
    calculateBlastRadius_found (h.perm hnodes hedges) roots evidencePrefix maxHops decay
  have hget := search_perm (fun k => congrArg Option.isSome (hlookup k))
    (impactEdges_perm host hedges) habs habs'
  have hentry : ∀ id r, blastNode host decay evidencePrefix (knownNodes host nodes' roots) id r =
      blastNode host decay evidencePrefix (knownNodes host nodes roots) id r := by
    intro id r
    rw [blastNode, hlookup]
    rfl
  rw [hrun', orderedNodes_congr hinv.keys hinv'.keys hget,
    List.filter_congr fun edge _ => crossesLayer_congr hget edge]
  simp only [hentry]

/-! ## Ties -/

/-- What is found is the shortest distance. -/
theorem Found.shortest_iff {reached : Dict String Reached}
    (h : Found host nodes edges roots maxHops reached) {id : String} {hops : Nat} :
    (∃ r, reached.get? id = some r ∧ r.distance = hops) ↔
      Shortest (impactArcs host nodes edges roots) roots id hops ∧ hops ≤ maxHops := by
  constructor
  · intro hreached
    obtain ⟨r, hget, rfl⟩ := hreached
    obtain ⟨hnear, hpath⟩ := h.near id r hget
    exact ⟨⟨⟨r.origin, hpath.origin, r.confidence, hpath.path⟩, fun root hroot n confidence hwalk =>
      (hpath.best root hroot n confidence hwalk).1⟩, hnear⟩
  · intro hshortest
    obtain ⟨⟨⟨root, hroot, confidence, hwalk⟩, hleast⟩, hle⟩ := hshortest
    obtain ⟨r, hget⟩ := h.all root hroot id hops confidence hwalk hle
    have hpath := (h.near id r hget).2
    refine ⟨r, hget, Nat.le_antisymm (hpath.best root hroot hops confidence hwalk).1 ?_⟩
    exact hleast r.origin hpath.origin r.distance r.confidence hpath.path

/-- What is drawn crosses from one layer to the next. -/
theorem Found.crosses_iff {reached : Dict String Reached}
    (h : Found host nodes edges roots maxHops reached) {edge : Edge} :
    crossesLayer reached edge = true ↔
      Crosses (impactArcs host nodes edges roots) roots maxHops edge := by
  rw [crossesLayer_iff]
  constructor
  · intro hcross
    obtain ⟨source, target, hsource, htarget, hdistance⟩ := hcross
    obtain ⟨hshortest, -⟩ := h.shortest_iff.mp ⟨source, hsource, rfl⟩
    obtain ⟨hshortest', hle⟩ := h.shortest_iff.mp ⟨target, htarget, hdistance⟩
    exact ⟨source.distance, hshortest, hshortest', hle⟩
  · intro hcross
    obtain ⟨hops, hshortest, hshortest', hle⟩ := hcross
    obtain ⟨source, hsource, rfl⟩ := h.shortest_iff.mpr ⟨hshortest, Nat.le_of_succ_le hle⟩
    obtain ⟨target, htarget, hdistance⟩ := h.shortest_iff.mpr ⟨hshortest', hle⟩
    exact ⟨source, target, hsource, htarget, hdistance⟩

/-- The order that a sort by the ends leaves: edges with the same ends stay as they
were. -/
theorem filter_orderedEdges (entries : List BlastEdge) (source target : String) :
    ((orderedEdges entries).filter fun b => b.source = source ∧ b.target = target) =
      entries.filter fun b => b.source = source ∧ b.target = target := by
  refine Sorted.filter_insertionSort (fun a b ha hb => Or.inr ?_) entries
  obtain ⟨hsource, htarget⟩ := of_decide_eq_true ha
  obtain ⟨hsource', htarget'⟩ := of_decide_eq_true hb
  exact ⟨hsource.trans hsource'.symm, Std.le_of_eq (htarget.trans htarget'.symm)⟩

/-- An edge given first comes first among those with its ends. -/
theorem exists_first {reached : Dict String Reached} {edge : Edge}
    (hedge : edge ∈ impactEdges host edges) (hcross : crossesLayer reached edge = true) :
    ∃ edges', edges'.Perm edges ∧
      ((orderedEdges (((impactEdges host edges').filter (crossesLayer reached)).map blastEdge)).filter
        fun b => b.source = edge.source ∧ b.target = edge.target).head? = some (blastEdge edge) := by
  obtain ⟨items, hitems, rfl⟩ := List.mem_map.mp hedge
  obtain ⟨hmem, hactive⟩ := List.mem_filter.mp hitems
  obtain ⟨before, after, rfl⟩ := List.append_of_mem hmem
  refine ⟨items :: (before ++ after), List.perm_middle.symm, ?_⟩
  have hends : decide ((blastEdge (readEdge host items)).source = (readEdge host items).source ∧
      (blastEdge (readEdge host items)).target = (readEdge host items).target) = true :=
    decide_eq_true ⟨rfl, rfl⟩
  rw [filter_orderedEdges, impactEdges,
    List.filter_cons_of_pos hactive, List.map_cons, List.filter_cons_of_pos hcross, List.map_cons,
    List.filter_cons, if_pos hends, List.head?_cons]

/-- If no order matters, reported edges with the same ends have the same entry. -/
theorem OrderFree.noTies {evidencePrefix : String} {decay : ℚ} (h : Complete host nodes edges)
    (hids : (nodeIds host nodes).Nodup)
    (hfree : OrderFree host nodes edges roots evidencePrefix maxHops decay) :
    NoTies host nodes edges roots maxHops := by
  obtain ⟨reached, resultNodes, hfound, hruns⟩ :=
    calculateBlastRadius_orders h hids roots evidencePrefix maxHops decay
  intro e he e' he' hcross hsource htarget
  have hcross' : Crosses (impactArcs host nodes edges roots) roots maxHops e' := by
    rwa [Crosses, ← hsource, ← htarget]
  obtain ⟨edges₁, hperm₁, hfirst₁⟩ := exists_first he (hfound.crosses_iff.mpr hcross)
  obtain ⟨edges₂, hperm₂, hfirst₂⟩ := exists_first he' (hfound.crosses_iff.mpr hcross')
  have hrun₁ := hfree nodes edges₁ (List.Perm.refl _) hperm₁
  have hrun₂ := hfree nodes edges₂ (List.Perm.refl _) hperm₂
  rw [← hrun₂, hruns nodes edges₁ (List.Perm.refl _) hperm₁,
    hruns nodes edges₂ (List.Perm.refl _) hperm₂] at hrun₁
  have hsame := congrArg BlastRadius.edges (Except.ok.inj hrun₁)
  simp only at hsame
  rw [hsame, hsource, htarget, hfirst₂] at hfirst₁
  exact (Option.some.inj hfirst₁).symm

/-- The blast radius is the same for every order of the topology iff no two reported
edges with the same ends differ. -/
theorem orderFree_iff (h : Complete host nodes edges) (hids : (nodeIds host nodes).Nodup)
    (roots : List String) (evidencePrefix : String) (maxHops : Nat) (decay : ℚ) :
    OrderFree host nodes edges roots evidencePrefix maxHops decay ↔
      NoTies host nodes edges roots maxHops := by
  refine ⟨fun hfree => hfree.noTies h hids, fun hties nodes' edges' hnodes hedges => ?_⟩
  obtain ⟨reached, resultNodes, hfound, hruns⟩ :=
    calculateBlastRadius_orders h hids roots evidencePrefix maxHops decay
  have hentries := ((impactEdges_perm host hedges).filter (crossesLayer reached)).map blastEdge
  have hsame : orderedEdges (((impactEdges host edges').filter (crossesLayer reached)).map blastEdge) =
      orderedEdges (((impactEdges host edges).filter (crossesLayer reached)).map blastEdge) := by
    refine Sorted.insertionSort_lexLe_congr BlastEdge.source BlastEdge.target hentries
      fun a ha b hb hsource htarget => ?_
    obtain ⟨e, he, rfl⟩ := List.mem_map.mp (hentries.mem_iff.mp ha)
    obtain ⟨e', he', rfl⟩ := List.mem_map.mp (hentries.mem_iff.mp hb)
    obtain ⟨hmem, hcross⟩ := List.mem_filter.mp he
    exact hties e hmem e' (List.mem_filter.mp he').1 (hfound.crosses_iff.mp hcross) hsource htarget
  rw [hruns nodes' edges' hnodes hedges, hruns nodes edges (List.Perm.refl _) (List.Perm.refl _),
    hsame]

/-! ### Two relations between the same services -/

def pairNodes : List Items := [[("id", .str "api")], [("id", .str "cart")]]

def callsEdge : Items := [("source", .str "api"), ("target", .str "cart"), ("relation", .str "calls")]

def queueEdge : Items := [("source", .str "api"), ("target", .str "cart"), ("relation", .str "queue")]

/-- Two services and one or two relations between them. -/
theorem pair_complete (edges : List Items) (h : ∀ edge ∈ edges, edge = callsEdge ∨ edge = queueEdge) :
    Complete asciiHost pairNodes edges where
  ids node hnode := by
    simp only [pairNodes, List.mem_cons, List.not_mem_nil, or_false] at hnode
    obtain rfl | rfl := hnode <;> exact ⟨_, rfl⟩
  sources edge hedge _ := by obtain rfl | rfl := h edge hedge <;> exact ⟨_, rfl⟩
  targets edge hedge _ := by obtain rfl | rfl := h edge hedge <;> exact ⟨_, rfl⟩
  weights edge hedge := by
    obtain ⟨items, hitems, rfl⟩ := List.mem_map.mp hedge
    obtain rfl | rfl := h items (List.mem_filter.mp hitems).1 <;> exact ⟨_, rfl⟩

/-- One relation gives one radius. -/
theorem oneRelation_orderFree :
    OrderFree asciiHost pairNodes [callsEdge] ["api"] "topology" 4 (18 / 25) := by
  refine (orderFree_iff (pair_complete [callsEdge] fun edge hedge => ?_) (by decide) ["api"]
    "topology" 4 (18 / 25)).mpr fun e he e' he' _ _ _ => ?_
  · exact Or.inl (List.mem_singleton.mp hedge)
  · have hedges : impactEdges asciiHost [callsEdge] = [readEdge asciiHost callsEdge] := rfl
    rw [hedges, List.mem_singleton] at he he'
    rw [he, he']

/-- The edges of the result come in the order they were given in. -/
theorem twoRelations_not_orderFree :
    ¬OrderFree asciiHost pairNodes [callsEdge, queueEdge] ["api"] "topology" 4 (18 / 25) := by
  have hcomplete := pair_complete [callsEdge, queueEdge] fun edge hedge => by
    simpa [List.mem_cons] using hedge
  have hedges : impactEdges asciiHost [callsEdge, queueEdge] =
      [readEdge asciiHost callsEdge, readEdge asciiHost queueEdge] := rfl
  intro hfree
  have hties := hfree.noTies hcomplete (by decide)
  have hcross : Crosses (impactArcs asciiHost pairNodes [callsEdge, queueEdge] ["api"]) ["api"] 4
      (readEdge asciiHost callsEdge) := by
    have hstart : Walk (impactArcs asciiHost pairNodes [callsEdge, queueEdge] ["api"]) "api"
        "api" 0 1 := .start
    refine ⟨0, ⟨⟨"api", by decide, 1, hstart⟩, fun _ _ _ _ _ => Nat.zero_le _⟩,
      ⟨⟨"api", by decide, _, .step (readEdge asciiHost callsEdge).arc ?_ hstart⟩,
        fun root hroot n confidence hwalk => ?_⟩, by decide⟩
    · exact List.mem_cons_self
    · have hend : (readEdge asciiHost callsEdge).target = "cart" := rfl
      rw [hend] at hwalk
      generalize hcart : "cart" = id at hwalk
      cases hwalk with
      | start => exact absurd (hcart ▸ hroot) (by decide)
      | step _ _ _ => exact Nat.succ_le_succ (Nat.zero_le _)
  have hsame := hties (readEdge asciiHost callsEdge) (by rw [hedges]; exact List.mem_cons_self)
    (readEdge asciiHost queueEdge)
    (by rw [hedges]; exact List.mem_cons_of_mem _ List.mem_cons_self) hcross rfl rfl
  have hrelation : "calls" = "queue" := congrArg BlastEdge.relation hsame
  exact absurd hrelation (by decide)

end DeployGuard.Service
