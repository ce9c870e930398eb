import DeployGuard.Lib.BreadthFirst
import DeployGuard.Service.Engines
import Mathlib.Data.List.Dedup

/-!
# The blast radius is bounded reachability

`calculate_blast_radius` walks the active edges between the nodes it knows. What it
says of a node is exact: its distance is that of a shortest path from a root, and the
confidence in its impact score is the best that a shortest path has.

> `calculateBlastRadius_exact`: on a topology whose nodes and active edges are complete
> it returns, and returns what the paths of at most `maxHops` edges say.

The search runs in `Except` over a dictionary; `search_abs` is the step from there to
the search of `BreadthFirst`, of which everything else is a consequence.
-/

namespace DeployGuard.Service

open Raise BreadthFirst

variable {host : Host} {known : Dict String Items} {maxHops : Nat}

/-! ## The search -/

/-- The confidence that a path takes from an edge. -/
def Edge.weight (edge : Edge) : ℚ :=
  match toFloat edge.confidence with
  | .ok confidence => clampFloat confidence 0 1
  | .error _ => 0

def Edge.arc (edge : Edge) : Arc String ℚ where
  source := edge.source
  target := edge.target
  weight := edge.weight

/-- `float(edge["confidence"])` is a number. -/
def Edge.Weighted (edge : Edge) : Prop := ∃ confidence, toFloat edge.confidence = .ok confidence

def Reached.toLabel (r : Reached) : Label String ℚ where
  distance := r.distance
  weight := r.confidence
  origin := r.origin

/-- The search state without its dictionary. -/
def Search.abs (s : Search) : State String ℚ where
  label v := (s.reached.get? v).map Reached.toLabel
  queue := s.queue

/-- The arcs the search looks along from a node. -/
def arcsFrom (known : Dict String Items) (edges : List Edge) (source : String) :
    List (Arc String ℚ) :=
  ((outgoing edges source).filter fun edge => known.contains edge.target).map Edge.arc

/-- An edge weighs what its confidence converts to, clamped. -/
theorem weight_of_toFloat {edge : Edge} {confidence : FloatVal}
    (h : toFloat edge.confidence = .ok confidence) : edge.weight = clampFloat confidence 0 1 := by
  rw [Edge.weight, h]

/-- The test of `relax`. -/
def Reached.isBetter (next : Reached) (old : Option Reached) : Bool :=
  match old with
  | none => true
  | some found =>
    next.distance < found.distance ||
      (next.distance == found.distance && found.confidence < next.confidence)

/-- The code's comparison is the one of the labels. -/
theorem isBetter_iff {next : Reached} {old : Option Reached} :
    next.isBetter old = true ↔ Improves next.toLabel (old.map Reached.toLabel) := by
  cases old with
  | none => exact iff_of_true rfl (improves_none _)
  | some found =>
    rw [Option.map_some, improves_some, Label.Better]
    simp [Reached.toLabel, Reached.isBetter]

/-- What an edge offers its target. -/
def Reached.along (source : Reached) (edge : Edge) : Reached where
  distance := source.distance + 1
  confidence := source.confidence * edge.weight
  origin := source.origin

/-- An edge to a node that is not known changes nothing. -/
theorem relax_unknown {edge : Edge} (h : known.contains edge.target = false) (source : Reached)
    (s : Search) : relax known source s edge = .ok s := by
  rw [relax, if_pos h]
  rfl

/-- One edge of the loop body. -/
theorem relax_known {edge : Edge} (h : known.contains edge.target = true) (hweight : edge.Weighted)
    (source : Reached) (s : Search) :
    relax known source s edge =
      .ok (if (source.along edge).isBetter (s.reached.get? edge.target) then
        { reached := s.reached.set edge.target (source.along edge)
          queue := s.queue ++ [edge.target] }
      else s) := by
  obtain ⟨confidence, hconfidence⟩ := hweight
  rw [relax, if_neg (by rw [h]; decide), hconfidence, bind_ok, Reached.along,
    weight_of_toFloat hconfidence]
  rfl

/-- Which is one arc of the abstract search. -/
theorem relax_abs {edge : Edge} (h : known.contains edge.target = true) (hweight : edge.Weighted)
    (source : Reached) (s : Search) :
    ∃ s', relax known source s edge = .ok s' ∧
      s'.abs = BreadthFirst.relax source.toLabel s.abs edge.arc ∧
      (s.reached.keys.Nodup → s'.reached.keys.Nodup) := by
  refine ⟨_, relax_known h hweight source s, ?_⟩
  have htest : (source.along edge).isBetter (s.reached.get? edge.target) = true ↔
      Improves (source.toLabel.along edge.arc) (s.abs.label edge.target) := isBetter_iff
  unfold BreadthFirst.relax
  by_cases himproves : Improves (source.toLabel.along edge.arc) (s.abs.label edge.target)
  · rw [if_pos (htest.mpr himproves)]
    refine ⟨?_, fun hnodup => Dict.nodup_keys_set hnodup _ _⟩
    rw [show edge.arc.target = edge.target from rfl, if_pos himproves, Search.abs]
    refine congrArg₂ State.mk (funext fun v => ?_) rfl
    rw [Dict.get?_set]
    by_cases hv : v = edge.target
    · rw [if_pos hv.symm, hv, Function.update_self]
      rfl
    · rw [if_neg (Ne.symm hv), Function.update_of_ne hv]
      rfl
  · rw [if_neg (mt htest.mp himproves), show edge.arc.target = edge.target from rfl,
      if_neg himproves]
    exact ⟨rfl, id⟩

/-- Every node of the queue has been reached, and no node is in the dictionary twice. -/
structure Search.Inv (s : Search) : Prop where
  queued : Queued s.abs
  keys : s.reached.keys.Nodup

/-- A vertex's label is its entry. -/
theorem abs_label (s : Search) (v : String) :
    s.abs.label v = (s.reached.get? v).map Reached.toLabel := rfl

/-- An entry is a label. -/
theorem abs_label_of_get? {s : Search} {v : String} {reached : Reached}
    (h : s.reached.get? v = some reached) : s.abs.label v = some reached.toLabel := by
  rw [abs_label, h]
  rfl

/-- A labelled vertex has an entry. -/
theorem label_isSome {s : Search} {v : String} :
    (s.abs.label v).isSome ↔ ∃ reached, s.reached.get? v = some reached := by
  rw [abs_label, Option.isSome_map, Option.isSome_iff_exists]

/-- Looking along the edges of one node is what the library's search does along those
to nodes that are known. -/
theorem relaxAll_abs (known : Dict String Items) {source : String} {edges : List Edge} (hweights : ∀ e ∈ edges, e.Weighted)
    {s : Search} (h : s.Inv) (hsource : (s.abs.label source).isSome) :
    ∃ s', relaxAll known source s edges = .ok s' ∧ s'.Inv ∧
      s'.abs = ((edges.filter fun edge => known.contains edge.target).map Edge.arc).foldl
        (relaxFrom source) s.abs := by
  induction edges generalizing s with
  | nil => exact ⟨s, rfl, h, rfl⟩
  | cons edge edges ih =>
    have hrest : ∀ e ∈ edges, e.Weighted := fun e he => hweights e (List.mem_cons_of_mem _ he)
    obtain ⟨reached, hreached⟩ := label_isSome.mp hsource
    cases hknown : known.contains edge.target with
    | false =>
      obtain ⟨s', hrun, hinv, habs⟩ := ih hrest h hsource
      refine ⟨s', ?_, hinv, ?_⟩
      · simp only [relaxAll, hreached, relax_unknown hknown, bind_ok, hrun]
      · rw [List.filter_cons_of_neg (by rw [hknown]; decide), habs]
    | true =>
      obtain ⟨next, hnext, hlabel, hkeys⟩ :=
        relax_abs hknown (hweights edge List.mem_cons_self) reached s
      have hfrom : BreadthFirst.relax reached.toLabel s.abs edge.arc =
          relaxFrom source s.abs edge.arc := by
        rw [relaxFrom, abs_label_of_get? hreached]
      rw [hfrom] at hlabel
      have hinv : next.Inv := ⟨hlabel ▸ h.queued.relaxFrom source edge.arc, hkeys h.keys⟩
      have hstill : (next.abs.label source).isSome := by
        rw [hlabel]
        exact (relaxFrom_grows source s.abs edge.arc).isSome hsource
      obtain ⟨s', hrun, hinv', habs⟩ := ih hrest hinv hstill
      refine ⟨s', ?_, hinv', ?_⟩
      · simp only [relaxAll, hreached, hnext, bind_ok, hrun]
      · rw [List.filter_cons_of_pos (by rw [hknown]), List.map_cons, List.foldl_cons, ← hlabel, habs]

/-- The edges out of a service. -/
theorem mem_outgoing {edges : List Edge} {source : String} {edge : Edge} :
    edge ∈ outgoing edges source ↔ edge ∈ edges ∧ edge.source = source := by
  rw [outgoing, List.mem_insertionSort, List.mem_filter, decide_eq_true_eq]

/-- The `while queue` loop is the library's search along the arcs between known nodes. -/
theorem search_abs (known : Dict String Items) (maxHops : Nat) {edges : List Edge}
    (hweights : ∀ e ∈ edges, e.Weighted) (fuel : Nat) {s : Search} (h : s.Inv) :
    ∃ s', search known edges maxHops fuel s = .ok s' ∧ s'.Inv ∧
      s'.abs = BreadthFirst.search (arcsFrom known edges) maxHops fuel s.abs := by
  induction fuel generalizing s with
  | zero => exact ⟨s, rfl, h, rfl⟩
  | succ fuel ih =>
    obtain ⟨dict, queue⟩ := s
    cases queue with
    | nil => exact ⟨_, rfl, h, rfl⟩
    | cons source queue =>
      obtain ⟨reached, hreached⟩ := label_isSome.mp (h.queued source List.mem_cons_self)
      have hlabel := abs_label_of_get? hreached
      -- What is queued behind the source stays labelled.
      have hrest : Search.Inv ⟨dict, queue⟩ :=
        ⟨fun v hv => h.queued v (List.mem_cons_of_mem _ hv), h.keys⟩
      have hstep := search_cons (arcsFrom known edges) maxHops fuel hlabel queue
      -- at the last hop neither search looks at the edges
      by_cases hfar : maxHops ≤ reached.distance
      · obtain ⟨s', hrun, hinv, habs⟩ := ih hrest
        refine ⟨s', ?_, hinv, ?_⟩
        · simp only [search, hreached, if_pos hfar, hrun]
        · exact habs.trans ((hstep.trans (if_pos hfar)).symm)
      · have hout : ∀ e ∈ outgoing edges source, e.Weighted :=
          fun e he => hweights e (mem_outgoing.mp he).1
        obtain ⟨next, hnext, hinv, habs⟩ := relaxAll_abs known hout hrest
          (label_isSome.mpr ⟨reached, hreached⟩)
        obtain ⟨s', hrun, hinv', habs'⟩ := ih hinv
        refine ⟨s', ?_, hinv', ?_⟩
        · simp only [search, hreached, if_neg hfar, hnext, bind_ok, hrun]
        · rw [habs', habs]
          exact (hstep.trans (if_neg hfar)).symm

/-! ## The topology -/

/-- `str(items[key])`. -/
def itemText (host : Host) (items : Items) (key : String) : String := host.str (getItem items key)

def nodeIds (host : Host) (nodes : List Items) : List String := nodes.map fun node => itemText host node "id"

def readEdge (host : Host) (edge : Items) : Edge where
  source := itemText host edge "source"
  target := itemText host edge "target"
  relation := host.str (getItemD edge "relation" (.str "runtime-dependency"))
  confidence := getItemD edge "confidence" (.float (.finite 1))

/-- The active edges of a topology. -/
def impactEdges (host : Host) (edges : List Items) : List Edge :=
  (edges.filter isActive).map (readEdge host)

/-- Every node has an id, and every active edge its ends and a number as its
confidence. -/
structure Complete (host : Host) (nodes edges : List Items) : Prop where
  ids : ∀ node ∈ nodes, ∃ id, requireItem node "id" = .ok id
  sources : ∀ edge ∈ edges, isActive edge → ∃ source, requireItem edge "source" = .ok source
  targets : ∀ edge ∈ edges, isActive edge → ∃ target, requireItem edge "target" = .ok target
  weights : ∀ edge ∈ impactEdges host edges, edge.Weighted

/-- A given node, or a root. -/
def Known (host : Host) (nodes : List Items) (roots : List String) (id : String) : Prop :=
  id ∈ nodeIds host nodes ∨ id ∈ roots

instance (host : Host) (nodes : List Items) (roots : List String) (id : String) :
    Decidable (Known host nodes roots id) := inferInstanceAs (Decidable (_ ∨ _))

/-- What the traversal knows of the known nodes. -/
def knownNodes (host : Host) (nodes : List Items) (roots : List String) : Dict String Items :=
  withServices host (nodesById (nodeIds host nodes) nodes) roots

/-- Where every text is there, all are read. -/
theorem requireTexts_complete {key : String} {xs : List Items}
    (h : ∀ items ∈ xs, ∃ value, requireItem items key = .ok value) :
    requireTexts host key xs = .ok (xs.map fun items => itemText host items key) := by
  induction xs with
  | nil => rfl
  | cons items xs ih =>
    obtain ⟨value, hvalue⟩ := h items List.mem_cons_self
    have hread : getItem items key = value := by
      unfold requireItem at hvalue
      unfold getItem
      split at hvalue
      · next found hfound =>
        rw [hfound]
        exact Except.ok.inj hvalue
      · cases hvalue
    rw [requireTexts, hvalue, bind_ok, ih fun other hother => h other (List.mem_cons_of_mem _ hother),
      bind_ok, List.map_cons, itemText, hread]
    rfl

/-- Three projections of one list, put together again. -/
theorem map_zip_map {α β γ δ : Type} (f : α → β) (g : α → γ) (k : (α × β) × γ → δ) (xs : List α) :
    ((xs.zip (xs.map f)).zip (xs.map g)).map k = xs.map fun x => k ((x, f x), g x) := by
  induction xs with
  | nil => rfl
  | cons x xs ih => simp only [List.map_cons, List.zip_cons_cons, ih]

/-- A complete topology's edges are read without an error. -/
theorem activeEdges_complete {nodes edges : List Items} (h : Complete host nodes edges) :
    activeEdges host edges = .ok (impactEdges host edges) := by
  have hsources : ∀ edge ∈ edges.filter isActive, ∃ source, requireItem edge "source" = .ok source :=
    fun edge hedge => h.sources edge (List.mem_filter.mp hedge).1 (List.mem_filter.mp hedge).2
  have htargets : ∀ edge ∈ edges.filter isActive, ∃ target, requireItem edge "target" = .ok target :=
    fun edge hedge => h.targets edge (List.mem_filter.mp hedge).1 (List.mem_filter.mp hedge).2
  rw [activeEdges, requireTexts_complete hsources, bind_ok, requireTexts_complete htargets, bind_ok,
    map_zip_map]
  rfl

/-! ### The known nodes -/

/-- The roots are known besides the listed services. -/
theorem mem_keys_withServices {nodes : Dict String Items} {roots : List String} {k : String} :
    k ∈ (withServices host nodes roots).keys ↔ k ∈ roots ∨ k ∈ nodes.keys := by
  unfold withServices
  induction roots generalizing nodes with
  | nil => exact ⟨Or.inr, fun h => h.resolve_left List.not_mem_nil⟩
  | cons root roots ih =>
    rw [List.foldl_cons, ih, Dict.mem_keys_setdefault, List.mem_cons]
    tauto

/-- The known services, by name. -/
theorem contains_knownNodes {nodes : List Items} {roots : List String} {id : String} :
    (knownNodes host nodes roots).contains id = true ↔ Known host nodes roots id := by
  have hlength : (nodeIds host nodes).length ≤ nodes.length := by rw [nodeIds, List.length_map]
  have hids : ((nodeIds host nodes).zip nodes).map Prod.fst = nodeIds host nodes :=
    List.map_fst_zip hlength
  have hkeys : id ∈ (nodesById (nodeIds host nodes) nodes).keys ↔ id ∈ nodeIds host nodes := by
    rw [nodesById, Dict.mem_keys_ofItems, hids]
  rw [Dict.contains, Dict.get?_isSome, knownNodes, mem_keys_withServices, hkeys, Known, or_comm]

/-! ## The search of a topology -/

/-- A clamped number is not negative. -/
theorem clampFloat_nonneg (x : FloatVal) : 0 ≤ clampFloat x 0 1 := by
  cases x with
  | finite q => exact le_max_left _ _
  | infinite negative => cases negative <;> norm_num [clampFloat]
  | nan => norm_num [clampFloat]

/-- No edge has a negative weight. -/
theorem weight_nonneg (edge : Edge) : 0 ≤ edge.weight := by
  unfold Edge.weight
  split
  · exact clampFloat_nonneg _
  · exact le_rfl

/-- The arcs the search may look along: the edges to known nodes. -/
def searchArcs (known : Dict String Items) (edges : List Edge) : List (Arc String ℚ) :=
  (edges.filter fun edge => known.contains edge.target).map Edge.arc

/-- The loop visits the arcs of the graph. -/
theorem arcs_search (known : Dict String Items) (edges : List Edge) :
    Arcs (searchArcs known edges) (arcsFrom known edges) where
  mem u a := by
    simp only [arcsFrom, searchArcs, List.mem_map, List.mem_filter, mem_outgoing]
    constructor
    · intro h
      obtain ⟨edge, ⟨⟨hedge, hsource⟩, hknown⟩, rfl⟩ := h
      exact ⟨⟨edge, ⟨hedge, hknown⟩, rfl⟩, hsource⟩
    · intro h
      obtain ⟨⟨edge, ⟨hedge, hknown⟩, rfl⟩, hsource⟩ := h
      exact ⟨edge, ⟨⟨hedge, hsource⟩, hknown⟩, rfl⟩
  mono a ha w w' hle := by
    obtain ⟨edge, -, rfl⟩ := List.mem_map.mp ha
    exact mul_le_mul_of_nonneg_right hle (weight_nonneg edge)

/-- No service has more arcs than there are edges. -/
theorem arcsFrom_length (known : Dict String Items) (edges : List Edge) (u : String) :
    (arcsFrom known edges u).length ≤ edges.length := by
  rw [arcsFrom, List.length_map]
  refine le_trans (List.length_filter_le _ _) ?_
  rw [outgoing, List.length_insertionSort]
  exact List.length_filter_le _ _

/-- A sorted set lists nothing twice. -/
theorem nodup_sortedSet (xs : List String) : (sortedSet xs).Nodup :=
  (List.perm_insertionSort _ _).nodup_iff.mpr (List.nodup_dedup xs)

/-- The search starts at the roots with full confidence. -/
theorem startSearch_get? {roots : List String} {v : String} :
    (startSearch roots).reached.get? v = if v ∈ roots then some ⟨0, 1, v⟩ else none := by
  unfold startSearch
  induction roots with
  | nil => rfl
  | cons root roots ih =>
    rw [List.map_cons, Dict.get?]
    by_cases hroot : root = v
    · rw [if_pos hroot, if_pos (List.mem_cons.mpr (Or.inl hroot.symm)), hroot]
    · rw [if_neg hroot]
      refine ih.trans ?_
      by_cases hmem : v ∈ roots
      · rw [if_pos hmem, if_pos (List.mem_cons_of_mem _ hmem)]
      · rw [if_neg hmem, if_neg fun h => (List.mem_cons.mp h).elim (fun h => hroot h.symm) hmem]

/-- Its queue is in step with its entries. -/
theorem startSearch_inv {roots : List String} (h : roots.Nodup) : (startSearch roots).Inv where
  queued v hv := by
    rw [label_isSome, startSearch_get?]
    exact ⟨_, if_pos hv⟩
  keys := by
    rw [startSearch, Dict.keys, List.map_map]
    exact (List.map_id roots).symm ▸ h

theorem startSearch_atLayer (arcs : List (Arc String ℚ)) (roots : List String) :
    AtLayer arcs roots 0 (startSearch (sortedSet roots)).abs := by
  refine atLayer_start (fun v => ?_) fun v => mem_sortedSet
  rw [abs_label, startSearch_get?]
  by_cases hv : v ∈ roots
  · rw [if_pos (mem_sortedSet.mpr hv), if_pos hv]
    rfl
  · rw [if_neg (mt mem_sortedSet.mp hv), if_neg hv]
    rfl

/-- The fuel counts the paths there can be. -/
theorem pathBound_eq (edges hops : Nat) : pathBound edges hops = entryBound edges hops := by
  induction hops with
  | zero => rfl
  | succ hops ih => rw [pathBound, entryBound, ih]

/-- The entry of an edge in the result. -/
def blastEdge (edge : Edge) : BlastEdge where
  source := edge.source
  target := edge.target
  relation := edge.relation
  confidence := Number.round edge.weight 2
  active := true

/-- The edges of the radius convert when all edges do. -/
theorem blastEdges_weighted {reached : Dict String Reached} {edges : List Edge}
    (h : ∀ e ∈ edges, e.Weighted) :
    blastEdges reached edges = .ok ((edges.filter (crossesLayer reached)).map blastEdge) := by
  induction edges with
  | nil => rfl
  | cons edge edges ih =>
    obtain ⟨confidence, hconfidence⟩ := h edge List.mem_cons_self
    have hrest := ih fun e he => h e (List.mem_cons_of_mem _ he)
    rw [blastEdges]
    cases hcross : crossesLayer reached edge with
    | true =>
      rw [if_pos rfl, hconfidence, bind_ok, hrest, bind_ok, List.filter_cons_of_pos hcross,
        List.map_cons, blastEdge, weight_of_toFloat hconfidence]
      rfl
    | false =>
      rw [if_neg (by decide), hrest, List.filter_cons_of_neg (by rw [hcross]; decide)]

/-- The nodes of the result, in its order. -/
def orderedNodes (reached : Dict String Reached) : List (String × Reached) :=
  reached.insertionSort fun a b =>
    a.2.distance < b.2.distance ∨ (a.2.distance = b.2.distance ∧ a.1 ≤ b.1)

/-- The edges of the result, in its order. -/
def orderedEdges (edges : List BlastEdge) : List BlastEdge :=
  edges.insertionSort fun a b => a.source < b.source ∨ (a.source = b.source ∧ a.target ≤ b.target)

/-- What `calculate_blast_radius` returns, from what the search found. -/
theorem calculateBlastRadius_found {nodes edges : List Items} (h : Complete host nodes edges)
    (roots : List String) (evidencePrefix : String) (maxHops : Nat) (decay : ℚ) :
    let known := knownNodes host nodes roots
    ∃ found : Search, found.Inv ∧
      found.abs = BreadthFirst.search (arcsFrom known (impactEdges host edges)) maxHops
        ((sortedSet roots).length * pathBound (impactEdges host edges).length maxHops)
        (startSearch (sortedSet roots)).abs ∧
      calculateBlastRadius host nodes edges roots evidencePrefix maxHops decay = .ok
        { nodes := (orderedNodes found.reached).map fun entry =>
            blastNode host decay evidencePrefix known entry.1 entry.2
          edges := orderedEdges
            (((impactEdges host edges).filter (crossesLayer found.reached)).map blastEdge) } := by
  intro known
  obtain ⟨found, hrun, hinv, habs⟩ := search_abs known maxHops h.weights
    ((sortedSet roots).length * pathBound (impactEdges host edges).length maxHops)
    (startSearch_inv (nodup_sortedSet roots))
  refine ⟨found, hinv, habs, ?_⟩
  have hknown : withServices host (nodesById (nodeIds host nodes) nodes) roots = known := rfl
  rw [nodeIds] at hknown
  rw [calculateBlastRadius, requireTexts_complete h.ids, bind_ok, activeEdges_complete h, bind_ok,
    hknown]
  dsimp only
  rw [hrun, bind_ok, blastEdges_weighted h.weights, bind_ok]
  rfl

/-! ## What the result says -/

/-- The arcs of the paths: the active edges between known nodes. -/
def impactArcs (host : Host) (nodes edges : List Items) (roots : List String) :
    List (Arc String ℚ) :=
  ((impactEdges host edges).filter fun edge =>
    Known host nodes roots edge.source ∧ Known host nodes roots edge.target).map Edge.arc

/-- What the shortest paths from the roots to a node say: how long they are, the best
confidence of them, and a root one of that confidence comes from. -/
structure BestPath (arcs : List (Arc String ℚ)) (roots : List String) (id : String)
    (reached : Reached) : Prop where
  origin : reached.origin ∈ roots
  path : Walk arcs reached.origin id reached.distance reached.confidence
  best : ∀ root ∈ roots, ∀ hops confidence, Walk arcs root id hops confidence →
    reached.distance ≤ hops ∧ (hops = reached.distance → confidence ≤ reached.confidence)

/-- The edge leads from a reported node to one that is one hop further. -/
def raisesDistance (nodes : List BlastNode) (edge : Edge) : Bool :=
  nodes.any fun m => nodes.any fun n =>
    m.id = edge.source ∧ n.id = edge.target ∧ n.hopDistance = m.hopDistance + 1

/-- The result is what the paths of at most `maxHops` edges say. -/
structure ExactRadius (host : Host) (nodes edges : List Items) (roots : List String)
    (evidencePrefix : String) (maxHops : Nat) (decay : ℚ) (radius : BlastRadius) : Prop where
  reachable : ∀ id, id ∈ radius.nodes.map BlastNode.id ↔ Known host nodes roots id ∧
    ∃ root ∈ roots, ∃ hops ≤ maxHops, ∃ confidence,
      Walk (impactArcs host nodes edges roots) root id hops confidence
  once : (radius.nodes.map BlastNode.id).Nodup
  node : ∀ n ∈ radius.nodes, ∃ reached,
    BestPath (impactArcs host nodes edges roots) roots n.id reached ∧
      n = blastNode host decay evidencePrefix (knownNodes host nodes roots) n.id reached
  edges : radius.edges.Perm
    (((impactEdges host edges).filter (raisesDistance radius.nodes)).map blastEdge)
  incoming : ∀ n ∈ radius.nodes, n.id ∉ roots → ∃ edge ∈ radius.edges, edge.target = n.id

section Result

variable {nodes edges : List Items} {roots : List String} {found : Search}

/-- A path from a root passes known nodes only. -/
theorem walk_known {root id : String} {hops : Nat} {confidence : ℚ} (hroot : root ∈ roots)
    (h : Walk (searchArcs (knownNodes host nodes roots) (impactEdges host edges)) root id hops
      confidence) :
    Known host nodes roots id ∧
      Walk (impactArcs host nodes edges roots) root id hops confidence := by
  induction h with
  | start => exact ⟨Or.inr hroot, .start⟩
  | step a ha _ ih =>
    obtain ⟨edge, hedge, rfl⟩ := List.mem_map.mp ha
    obtain ⟨hmem, htarget⟩ := List.mem_filter.mp hedge
    rw [contains_knownNodes] at htarget
    refine ⟨htarget, .step edge.arc (List.mem_map.mpr ⟨edge, ?_, rfl⟩) ih.2⟩
    exact List.mem_filter.mpr ⟨hmem, decide_eq_true ⟨ih.1, htarget⟩⟩

/-- A path of the impact graph is one of the searched graph. -/
theorem walk_search {root id : String} {hops : Nat} {confidence : ℚ}
    (h : Walk (impactArcs host nodes edges roots) root id hops confidence) :
    Walk (searchArcs (knownNodes host nodes roots) (impactEdges host edges)) root id hops
      confidence := by
  refine h.mono fun a ha => ?_
  obtain ⟨edge, hedge, rfl⟩ := List.mem_map.mp ha
  obtain ⟨hmem, hknown⟩ := List.mem_filter.mp hedge
  exact List.mem_map.mpr ⟨edge, List.mem_filter.mpr
    ⟨hmem, contains_knownNodes.mpr (of_decide_eq_true hknown).2⟩, rfl⟩

/-- What the search found is exact. -/
structure Found (host : Host) (nodes edges : List Items) (roots : List String) (maxHops : Nat)
    (reached : Dict String Reached) : Prop where
  keys : reached.keys.Nodup
  near : ∀ id r, reached.get? id = some r → r.distance ≤ maxHops ∧
    BestPath (impactArcs host nodes edges roots) roots id r
  all : ∀ root ∈ roots, ∀ id hops confidence,
    Walk (impactArcs host nodes edges roots) root id hops confidence → hops ≤ maxHops →
      ∃ r, reached.get? id = some r

/-- A walk that does not improve a label is no shorter, and no better if as short. -/
theorem not_improves_iff {n : Nat} {w : ℚ} {root : String} {r : Reached} :
    ¬Improves ⟨n, w, root⟩ (some r.toLabel) ↔
      r.distance ≤ n ∧ (n = r.distance → w ≤ r.confidence) := by
  rw [improves_some, Label.Better, not_or, not_and]
  simp only [Reached.toLabel, not_lt]

/-- What the search ends with is exact. -/
theorem found_exact {fuel : Nat} (hinv : found.Inv)
    (hfuel : (sortedSet roots).length * pathBound (impactEdges host edges).length maxHops ≤ fuel)
    (h : found.abs = BreadthFirst.search
      (arcsFrom (knownNodes host nodes roots) (impactEdges host edges)) maxHops fuel
        (startSearch (sortedSet roots)).abs) :
    Found host nodes edges roots maxHops found.reached := by
  rw [pathBound_eq] at hfuel
  have hexact := search_exact (arcs_search _ _)
    (arcsFrom_length (knownNodes host nodes roots) (impactEdges host edges))
    (startSearch_atLayer _ roots) hfuel
  rw [← h] at hexact
  have hlabelled : ∀ root ∈ roots, ∀ id hops confidence,
      Walk (impactArcs host nodes edges roots) root id hops confidence → hops ≤ maxHops →
        ∃ r, found.reached.get? id = some r := by
    intro root hroot id hops confidence hwalk hle
    have hbest := hexact.best root hroot id hops confidence (walk_search hwalk) hle
    cases hget : found.reached.get? id with
    | some r => exact ⟨r, rfl⟩
    | none =>
      rw [abs_label, hget] at hbest
      exact absurd (improves_none _) hbest
  refine ⟨hinv.keys, fun id r hr => ?_, hlabelled⟩
  obtain ⟨horigin, hwalk, hle⟩ := hexact.sound id r.toLabel (abs_label_of_get? hr)
  refine ⟨hle, horigin, (walk_known horigin hwalk).2, fun root hroot hops confidence hpath => ?_⟩
  by_cases hfar : hops ≤ maxHops
  · have hbest := hexact.best root hroot id hops confidence (walk_search hpath) hfar
    rwa [abs_label_of_get? hr, not_improves_iff] at hbest
  · have hnear : r.distance ≤ maxHops := hle
    exact ⟨by omega, fun heq => absurd (heq ▸ hnear) hfar⟩

/-- An edge crosses a layer iff both its ends were found, one hop apart. -/
theorem crossesLayer_iff {reached : Dict String Reached} {edge : Edge} :
    crossesLayer reached edge = true ↔ ∃ source target, reached.get? edge.source = some source ∧
      reached.get? edge.target = some target ∧ target.distance = source.distance + 1 := by
  unfold crossesLayer
  constructor
  · intro h
    split at h
    · next source target hsource htarget =>
      exact ⟨source, target, hsource, htarget, beq_iff_eq.mp h⟩
    · cases h
  · intro h
    obtain ⟨source, target, hsource, htarget, hdistance⟩ := h
    rw [hsource, htarget]
    exact beq_iff_eq.mpr hdistance

/-- The nodes of the result are the entries of the dictionary. -/
theorem mem_resultNodes {reached : Dict String Reached} (hkeys : reached.keys.Nodup)
    (entryNode : String × Reached → BlastNode) (n : BlastNode) :
    n ∈ (orderedNodes reached).map entryNode ↔
      ∃ id r, reached.get? id = some r ∧ n = entryNode (id, r) := by
  rw [List.mem_map]
  constructor
  · intro h
    obtain ⟨⟨id, r⟩, hmem, rfl⟩ := h
    rw [orderedNodes, List.mem_insertionSort] at hmem
    exact ⟨id, r, (Dict.get?_eq_some hkeys).mpr hmem, rfl⟩
  · intro h
    obtain ⟨id, r, hget, rfl⟩ := h
    refine ⟨(id, r), ?_, rfl⟩
    rw [orderedNodes, List.mem_insertionSort]
    exact (Dict.get?_eq_some hkeys).mp hget

/-- The last edge of a shortest path leads from the layer before. -/
theorem Found.incoming {reached : Dict String Reached}
    (h : Found host nodes edges roots maxHops reached) {id : String} {r : Reached}
    (hget : reached.get? id = some r) (hroot : id ∉ roots) :
    ∃ edge ∈ impactEdges host edges, edge.target = id ∧ crossesLayer reached edge = true := by
  obtain ⟨hnear, hpath⟩ := h.near id r hget
  have hwalk := hpath.path
  have hbest := hpath.best
  generalize hdistance : r.distance = hops at hwalk hbest hnear
  generalize r.confidence = confidence at hwalk
  cases hwalk with
  | start => exact absurd hpath.origin hroot
  | @step n w a ha hbefore =>
    obtain ⟨edge, hedge, rfl⟩ := List.mem_map.mp ha
    refine ⟨edge, (List.mem_filter.mp hedge).1, rfl, crossesLayer_iff.mpr ?_⟩
    obtain ⟨source, hsource⟩ := h.all _ hpath.origin _ n w hbefore (by omega)
    refine ⟨source, r, hsource, hget, ?_⟩
    have hsourcePath := (h.near _ source hsource).2
    -- the source is no nearer than the path says, or its target would be nearer too
    have hle := (hsourcePath.best _ hpath.origin n w hbefore).1
    have hge := (hbest _ hsourcePath.origin _ _ (.step edge.arc ha hsourcePath.path)).1
    omega

/-- The result is exact. -/
theorem Found.exact {reached : Dict String Reached}
    (h : Found host nodes edges roots maxHops reached) (evidencePrefix : String) (decay : ℚ) :
    ExactRadius host nodes edges roots evidencePrefix maxHops decay
      { nodes := (orderedNodes reached).map fun entry =>
          blastNode host decay evidencePrefix (knownNodes host nodes roots) entry.1 entry.2
        edges := orderedEdges
          (((impactEdges host edges).filter (crossesLayer reached)).map blastEdge) } := by
  have hids : ((orderedNodes reached).map fun entry =>
      blastNode host decay evidencePrefix (knownNodes host nodes roots) entry.1 entry.2).map
        BlastNode.id = (orderedNodes reached).map Prod.fst := by
    rw [List.map_map]
    rfl
  have hperm : (orderedNodes reached).Perm reached := List.perm_insertionSort _ _
  -- the edges are kept by the distances found; on the answer by those of its nodes
  have hraises : ∀ edge, crossesLayer reached edge = raisesDistance ((orderedNodes reached).map
      fun entry => blastNode host decay evidencePrefix (knownNodes host nodes roots) entry.1 entry.2)
        edge := by
    intro edge
    rw [Bool.eq_iff_iff, crossesLayer_iff, raisesDistance, List.any_eq_true]
    simp only [List.any_eq_true, mem_resultNodes h.keys, decide_eq_true_eq]
    constructor
    · intro hcross
      obtain ⟨source, target, hsource, htarget, hdistance⟩ := hcross
      exact ⟨_, ⟨_, source, hsource, rfl⟩, _, ⟨_, target, htarget, rfl⟩, rfl, rfl, hdistance⟩
    · intro hraise
      obtain ⟨_, ⟨_, source, hsource, rfl⟩, _, ⟨_, target, htarget, rfl⟩, hs, ht, hdistance⟩ := hraise
      have hs' : _ = edge.source := hs
      have ht' : _ = edge.target := ht
      exact ⟨source, target, hs' ▸ hsource, ht' ▸ htarget, hdistance⟩
  refine ⟨fun id => ?_, ?_, fun n hn => ?_, ?_, fun n hn hroot => ?_⟩
  · rw [hids, (hperm.map Prod.fst).mem_iff]
    show id ∈ reached.keys ↔ _
    rw [← Dict.get?_isSome, Option.isSome_iff_exists]
    constructor
    · intro hget
      obtain ⟨r, hget⟩ := hget
      -- only what is reachable: each entry holds the path it was found by
      obtain ⟨hnear, hpath⟩ := h.near id r hget
      exact ⟨(walk_known hpath.origin (walk_search hpath.path)).1, r.origin, hpath.origin,
        r.distance, hnear, r.confidence, hpath.path⟩
    · intro hreach
      -- all that is reachable: no walk within the hops is missed
      obtain ⟨-, root, hroot, hops, hle, confidence, hwalk⟩ := hreach
      exact h.all root hroot id hops confidence hwalk hle
  · rw [hids]
    exact (hperm.map Prod.fst).nodup_iff.mpr h.keys
  · obtain ⟨id, r, hget, rfl⟩ := (mem_resultNodes h.keys _ n).mp hn
    exact ⟨r, (h.near id r hget).2, rfl⟩
  · rw [orderedEdges, ← List.filter_congr fun edge _ => hraises edge]
    exact List.perm_insertionSort _ _
  · obtain ⟨id, r, hget, rfl⟩ := (mem_resultNodes h.keys _ n).mp hn
    -- a node that is no root has an edge from the layer before
    obtain ⟨edge, hedge, htarget, hcross⟩ := h.incoming hget hroot
    refine ⟨blastEdge edge, ?_, htarget⟩
    rw [orderedEdges, List.mem_insertionSort]
    exact List.mem_map.mpr ⟨edge, List.mem_filter.mpr ⟨hedge, hcross⟩, rfl⟩

/-- The `while queue` loop ends with an empty queue, and within as many turns as the
fuel of `calculate_blast_radius` allows. -/
def Terminates (host : Host) (nodes edges : List Items) (roots : List String) (maxHops : Nat) :
    Prop :=
  ∀ fuel, (sortedSet roots).length * pathBound (impactEdges host edges).length maxHops ≤ fuel →
    ∃ found, search (knownNodes host nodes roots) (impactEdges host edges) maxHops fuel
      (startSearch (sortedSet roots)) = .ok found ∧ found.queue = []

/-- A complete topology is searched to the end. -/
theorem search_terminates (h : Complete host nodes edges) (roots : List String) (maxHops : Nat) :
    Terminates host nodes edges roots maxHops := by
  intro fuel hfuel
  obtain ⟨found, hrun, -, habs⟩ := search_abs (knownNodes host nodes roots)
    maxHops h.weights fuel (startSearch_inv (nodup_sortedSet roots))
  rw [pathBound_eq] at hfuel
  have hqueue := search_queue (arcs_search _ _)
    (arcsFrom_length (knownNodes host nodes roots) (impactEdges host edges))
    (startSearch_atLayer _ roots) hfuel
  rw [← habs] at hqueue
  exact ⟨found, hrun, hqueue⟩

/-- The blast radius is exact bounded reachability. -/
theorem calculateBlastRadius_exact (h : Complete host nodes edges) (roots : List String)
    (evidencePrefix : String) (maxHops : Nat) (decay : ℚ) :
    Terminates host nodes edges roots maxHops ∧
      ∃ radius,
        calculateBlastRadius host nodes edges roots evidencePrefix maxHops decay = .ok radius ∧
          ExactRadius host nodes edges roots evidencePrefix maxHops decay radius := by
  refine ⟨search_terminates h roots maxHops, ?_⟩
  obtain ⟨found, hinv, habs, hrun⟩ :=
    calculateBlastRadius_found h roots evidencePrefix maxHops decay
  exact ⟨_, hrun, (found_exact hinv (Nat.le_refl _) habs).exact evidencePrefix decay⟩

end Result

/-- Three services in a cycle, two edges between the same ends, and one to nowhere. -/
def cycleNodes : List Items :=
  [[("id", .str "api")], [("id", .str "cart")], [("id", .str "mail")]]

def cycleEdge (source target : String) (confidence : ℚ) : Items :=
  [("source", .str source), ("target", .str target), ("confidence", .float (.finite confidence))]

def cycleEdges : List Items :=
  [cycleEdge "api" "cart" (1 / 2), cycleEdge "api" "cart" (9 / 10), cycleEdge "cart" "mail" 1,
    cycleEdge "mail" "api" 1, cycleEdge "mail" "nowhere" 1]

/-- A cycle of services with every field in place. -/
theorem cycle_complete : Complete asciiHost cycleNodes cycleEdges where
  ids node hnode := by
    simp only [cycleNodes, List.mem_cons, List.not_mem_nil, or_false] at hnode
    obtain rfl | rfl | rfl := hnode <;> exact ⟨_, rfl⟩
  sources edge hedge _ := by
    simp only [cycleEdges, List.mem_cons, List.not_mem_nil, or_false] at hedge
    obtain rfl | rfl | rfl | rfl | rfl := hedge <;> exact ⟨_, rfl⟩
  targets edge hedge _ := by
    simp only [cycleEdges, List.mem_cons, List.not_mem_nil, or_false] at hedge
    obtain rfl | rfl | rfl | rfl | rfl := hedge <;> exact ⟨_, rfl⟩
  weights edge hedge := by
    obtain ⟨items, hitems, rfl⟩ := List.mem_map.mp hedge
    obtain ⟨hmem, -⟩ := List.mem_filter.mp hitems
    simp only [cycleEdges, List.mem_cons, List.not_mem_nil, or_false] at hmem
    obtain rfl | rfl | rfl | rfl | rfl := hmem <;> exact ⟨_, rfl⟩

/-- The search of a cycle terminates. -/
theorem cycle_exact :
    Terminates asciiHost cycleNodes cycleEdges ["api"] 4 ∧
      ∃ radius, calculateBlastRadius asciiHost cycleNodes cycleEdges ["api"] "topology" =
          .ok radius ∧
        ExactRadius asciiHost cycleNodes cycleEdges ["api"] "topology" 4 (18 / 25) radius :=
  calculateBlastRadius_exact cycle_complete ["api"] "topology" 4 (18 / 25)

end DeployGuard.Service
