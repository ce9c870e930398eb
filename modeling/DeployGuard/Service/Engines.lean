import DeployGuard.Service.Core

/-!
# The analysis engines

`calculate_change_risk` and `calculate_blast_radius`, over exact rationals.
`search` is the breadth-first loop; its fuel counts the queue entries a search
with `max_hops` layers can make, one for each path from a root.
-/

namespace DeployGuard.Service

open Raise

def analysisSchemaVersion : String := "1.0.0"
def engineVersion : String := "1.0.0"
def riskScoringPolicyVersion : String := "risk-weighted-v1"
def graphVersion : String := "dependency-bfs-v1"

/-! ## Change risk -/

/-- A dimension of the risk ledger. -/
structure Dimension where
  key : String
  label : String
  score : Int
  weight : ℚ
  reason : String
  evidenceIds : List String
  deriving DecidableEq

/-- What `calculate_change_risk` returns. -/
structure Risk where
  overallScore : Int
  level : String
  dataQuality : ℚ
  dimensions : List Dimension
  recommendations : List String
  deriving DecidableEq

/-- What `calculate_change_risk` reads of a change. -/
structure RiskInput where
  filesChanged : Int
  linesAdded : Int
  linesDeleted : Int
  changedServices : List String
  flags : List String
  testCoverage : Option ℚ
  rollbackReady : Option Bool
  observabilityScore : Option ℚ
  previousFailures : Option Int
  deriving DecidableEq

/-- `RISK_WEIGHTS`. -/
def riskWeights : Dict String ℚ :=
  [("change_size", 1/4), ("service_scope", 1/5), ("change_type", 1/5), ("test_confidence", 3/20),
    ("operational_history", 1/10), ("safety_readiness", 1/10)]

/-- `FLAG_RISK`. -/
def flagRisk : Dict String Int :=
  [("database-migration", 96), ("schema-change", 92), ("retry-policy", 90), ("auth-change", 86),
    ("api-contract", 78), ("config-change", 68), ("dependency-upgrade", 58), ("feature-flag", 42),
    ("docs-only", 8)]

/-- `_tier_number`. -/
def tierNumber (host : Host) (value : Value) : Int :=
  let text := Text.stripChars " -_" (Text.replace (Text.lower (host.str value)) "tier" "")
  (Number.parseInt text).getD 3

def tierBonus (number : Int) : Int :=
  if number = 1 then 25 else if number = 2 then 12 else 4

/-- The largest of `xs`, with `default=0`. -/
def maxOrZero (xs : List Int) : Int :=
  match xs with
  | [] => 0
  | x :: xs => xs.foldl max x

/-- A score clamped to 0…100 and rounded. -/
def score (q : ℚ) : Int := Number.halfEven (clamp q 0 100)

namespace RiskInput

def totalLines (i : RiskInput) : Int := max 0 i.linesAdded + max 0 i.linesDeleted

def sizeScore (i : RiskInput) : Int :=
  score ((max 0 i.filesChanged * 3 : Int) + (i.totalLines : ℚ) / 12)

/-- `len(set(changed_services))`. -/
def serviceCount (i : RiskInput) : Int := i.changedServices.dedup.length

def scopeScore (host : Host) (tiers : Dict String Value) (i : RiskInput) : Int :=
  let bonus := maxOrZero (i.changedServices.map fun service =>
    tierBonus (tierNumber host ((tiers.get? service).getD .none)))
  score ((i.serviceCount * 18 + max 0 (i.serviceCount - 1) * 8 + bonus : Int) : ℚ)

def normalizedFlags (host : Host) (i : RiskInput) : List String := i.flags.map host.lower

def typeScore (host : Host) (i : RiskInput) : Int :=
  let flags := i.normalizedFlags host
  let values := flags.map fun flag => (flagRisk.get? flag).getD 48
  let base := if values = [] then 20 else maxOrZero values
  score ((base + max 0 ((flags.dedup.length : Int) - 1) * 4 : Int) : ℚ)

def coverage (i : RiskInput) : Option ℚ := i.testCoverage.map fun x => clamp x 0 1

def observability (i : RiskInput) : Option ℚ := i.observabilityScore.map fun x => clamp x 0 1

def testScore (i : RiskInput) : Int :=
  match i.coverage with
  | some coverage => Number.halfEven ((1 - coverage) * 100)
  | none => 50

def historyScore (i : RiskInput) : Int :=
  match i.previousFailures with
  | some failures => score ((max 0 failures * 25 : Int) : ℚ)
  | none => 25

def safetyScore (i : RiskInput) : Int :=
  let rollback : ℚ := match i.rollbackReady with
    | some true => 0
    | some false => 65
    | none => 65 / 2
  let observed : ℚ := match i.observability with
    | some observability => (1 - observability) * 35
    | none => 35 / 2
  score (rollback + observed)

/-- `dimension_values`, with the labels, reasons and evidence suffixes. -/
def dimensions (host : Host) (tiers : Dict String Value) (evidencePrefix : String) (i : RiskInput) :
    List Dimension :=
  let flags := i.normalizedFlags host
  let dimension (key label : String) (value : Int) (reason suffix : String) : Dimension :=
    { key, label, score := value, weight := (riskWeights.get? key).getD 0, reason,
      evidenceIds := [s!"{evidencePrefix}-{suffix}"] }
  [dimension "change_size" "Change size" i.sizeScore
      s!"{i.filesChanged} files and {i.totalLines} changed lines increase review surface." "diff",
    dimension "service_scope" "Service scope" (i.scopeScore host tiers)
      s!"{i.serviceCount} services are directly changed; criticality is included." "topology",
    dimension "change_type" "Change type" (i.typeScore host)
      ("Flags carry fixed risk priors: " ++
        (if flags = [] then "no elevated flags" else ", ".intercalate flags) ++ ".") "flags",
    dimension "test_confidence" "Test confidence gap" i.testScore
      (match i.coverage with
        | some coverage => s!"Reported test coverage is {Number.wholePercent coverage}."
        | none => "No test coverage evidence was supplied.") "tests",
    dimension "operational_history" "Operational history" i.historyScore
      (match i.previousFailures with
        | some failures => s!"{max 0 failures} related previous failures were reported."
        | none => "No related failure history was supplied.") "history",
    dimension "safety_readiness" "Safety readiness gap" i.safetyScore
      ("Rollback readiness is " ++
        (match i.rollbackReady with
          | some true => "available"
          | some false => "missing"
          | none => "unknown") ++
        "; observability is " ++
        (match i.observability with
          | some observability => s!"{Number.wholePercent observability}."
          | none => "unknown.")) "readiness"]

def overallScore (host : Host) (tiers : Dict String Value) (i : RiskInput) : Int :=
  score ((i.dimensions host tiers "").map fun d => (d.score : ℚ) * d.weight).sum

def riskLevel (overall : Int) : String :=
  if overall < 25 then "low"
  else if overall < 50 then "moderate"
  else if overall < 70 then "high"
  else "critical"

def recommendations (host : Host) (tiers : Dict String Value) (i : RiskInput) : List String :=
  let texts :=
    (if 70 ≤ i.typeScore host then
      ["Require an owner review for the elevated change type before deployment."] else []) ++
    (if i.coverage = none then
      ["Attach SHA-matched test evidence before treating this change as verified."]
    else if 35 ≤ i.testScore then
      ["Add targeted tests for the changed paths before promoting the deployment."] else []) ++
    (if 60 ≤ i.scopeScore host tiers then
      ["Use a staged rollout and watch directly dependent services."] else []) ++
    (if i.rollbackReady ≠ some true then
      ["Prepare and verify a rollback procedure before deployment."] else []) ++
    (if i.observability.all (· < 7 / 10) then
      ["Add telemetry for the changed services before rollout."] else [])
  if texts = [] then
    ["Proceed with the normal review path and monitor deployment guardrails."]
  else texts

def dataQuality (i : RiskInput) : ℚ :=
  let observed := match i.observability with
    | some observability => observability * (1 / 5)
    | none => 0
  let covered := match i.coverage with
    | some coverage => coverage * (3 / 20)
    | none => 0
  let q := 7 / 20 + observed + covered + (if i.rollbackReady ≠ none then 1 / 10 else 0) +
    (if i.previousFailures ≠ none then 1 / 10 else 0) +
    (if i.changedServices ≠ [] then 1 / 10 else 0)
  Number.round (clamp q 0 1) 2

end RiskInput

/-- `calculate_change_risk`. -/
def calculateChangeRisk (host : Host) (i : RiskInput) (serviceTiers : Dict String Value)
    (evidencePrefix : String) : Risk :=
  let overall := i.overallScore host serviceTiers
  { overallScore := overall
    level := RiskInput.riskLevel overall
    dataQuality := i.dataQuality
    dimensions := i.dimensions host serviceTiers evidencePrefix
    recommendations := i.recommendations host serviceTiers }

/-! ## Blast radius -/

/-- A node of the blast radius. -/
structure BlastNode where
  id : String
  label : String
  kind : String
  team : String
  tier : String
  health : String
  impactScore : Int
  hopDistance : Nat
  evidenceIds : List String
  deriving DecidableEq

/-- An edge of the blast radius. -/
structure BlastEdge where
  source : String
  target : String
  relation : String
  confidence : ℚ
  active : Bool
  deriving DecidableEq

/-- What `calculate_blast_radius` returns. -/
structure BlastRadius where
  nodes : List BlastNode
  edges : List BlastEdge
  deriving DecidableEq

/-- An active edge, as the traversal reads it. -/
structure Edge where
  source : String
  target : String
  relation : String
  confidence : Value

/-- `str(item[key])` for every item. -/
def requireTexts (host : Host) (key : String) : List Items → Except ServiceError (List String)
  | [] => .ok []
  | items :: rest => do
    let value ← requireItem items key
    let texts ← requireTexts host key rest
    pure (host.str value :: texts)

/-- An edge counts unless it says it is inactive. -/
def isActive (edge : Items) : Bool := (getItemD edge "active" (.bool true)).truthy

/-- The active edges: every source is read before any target. -/
def activeEdges (host : Host) (edges : List Items) : Except ServiceError (List Edge) := do
  let active := edges.filter isActive
  let sources ← requireTexts host "source" active
  let targets ← requireTexts host "target" active
  pure (((active.zip sources).zip targets).map fun ((edge, source), target) =>
    { source, target
      relation := host.str (getItemD edge "relation" (.str "runtime-dependency"))
      confidence := getItemD edge "confidence" (.float (.finite 1)) })

/-- `nodes_by_id` of the given nodes. -/
def nodesById (ids : List String) (nodes : List Items) : Dict String Items :=
  Dict.ofItems (ids.zip nodes)

/-- What a changed service that is no node counts as. -/
def unknownService (host : Host) (serviceId : String) : Items :=
  [("id", .str serviceId), ("label", .str (host.title (Text.replace serviceId "-" " "))),
    ("kind", .str "service"), ("team", .str "Unassigned"), ("tier", .str "tier-3"),
    ("health", .str "unknown")]

/-- `nodes_by_id` with every changed service in it. -/
def withServices (host : Host) (nodes : Dict String Items) (changedServices : List String) : Dict String Items :=
  changedServices.foldl (fun d id => d.setdefault id (unknownService host id)) nodes

/-- The outgoing edges of a node, by target and relation. -/
def outgoing (edges : List Edge) (source : String) : List Edge :=
  (edges.filter fun edge => edge.source = source).insertionSort fun a b =>
    a.target < b.target ∨ (a.target = b.target ∧ a.relation ≤ b.relation)

/-- What the search knows of a node it reached: `distance`, `path_confidence`, `origin`. -/
structure Reached where
  distance : Nat
  confidence : ℚ
  origin : String
  deriving DecidableEq

/-- The search state: the nodes reached and the queue. -/
structure Search where
  reached : Dict String Reached
  queue : List String

/-- One edge out of `source`. -/
def relax (known : Dict String Items) (source : Reached) (s : Search) (edge : Edge) :
    Except ServiceError Search := do
  if known.contains edge.target = false then pure s
  else
    let confidence ← toFloat edge.confidence
    let next : Reached :=
      { distance := source.distance + 1
        confidence := source.confidence * clampFloat confidence 0 1
        origin := source.origin }
    let better := match s.reached.get? edge.target with
      | none => true
      | some found =>
        next.distance < found.distance ||
          (next.distance == found.distance && found.confidence < next.confidence)
    pure (if better then
        { reached := s.reached.set edge.target next, queue := s.queue ++ [edge.target] }
      else s)

/-- The edges out of one node. `distance[source]` and the others are read again
for every edge, since an edge back to the node itself may have changed them. -/
def relaxAll (known : Dict String Items) (source : String) (s : Search) :
    List Edge → Except ServiceError Search
  | [] => .ok s
  | edge :: edges =>
    match s.reached.get? source with
    | none => .error (.keyError source)
    | some reached => do
      let s' ← relax known reached s edge
      relaxAll known source s' edges

/-- The `while queue` loop. -/
def search (known : Dict String Items) (edges : List Edge) (maxHops : Nat) :
    Nat → Search → Except ServiceError Search
  | 0, s => .ok s
  | fuel + 1, s =>
    match s.queue with
    | [] => .ok s
    | source :: queue =>
      match s.reached.get? source with
      | none => .error (.keyError source)
      | some reached =>
        if maxHops ≤ reached.distance then search known edges maxHops fuel { s with queue }
        else do
          let s' ← relaxAll known source { s with queue } (outgoing edges source)
          search known edges maxHops fuel s'

/-- The number of paths of at most `maxHops` edges from one node, bounded. -/
def pathBound (edges : Nat) : Nat → Nat
  | 0 => 1
  | maxHops + 1 => 1 + edges * pathBound edges maxHops

/-- The roots, each at distance zero from itself. -/
def startSearch (roots : List String) : Search where
  reached := roots.map fun id => (id, ⟨0, 1, id⟩)
  queue := roots

def tierFactor (number : Int) : ℚ :=
  if number = 1 then 1 else if number = 2 then 23 / 25 else 41 / 50

/-- `health_factors`. -/
def healthFactors : Dict String ℚ :=
  [("critical", 6 / 5), ("degraded", 11 / 10), ("healthy", 1), ("unknown", 9 / 10)]

/-- The impact score of a reached node. -/
def impactScore (host : Host) (decay : ℚ) (node : Items) (reached : Reached) : Int :=
  if reached.distance = 0 then 100
  else
    let health := Text.lower (host.str (getItemD node "health" (.str "unknown")))
    score (100 * decay ^ reached.distance * reached.confidence *
      tierFactor (tierNumber host (getItem node "tier")) *
      (healthFactors.get? health).getD (9 / 10))

/-- The entry of a reached node in the result. -/
def blastNode (host : Host) (decay : ℚ) (evidencePrefix : String) (known : Dict String Items)
    (nodeId : String) (reached : Reached) : BlastNode :=
  let node := (known.get? nodeId).getD []
  let text (key default : String) := host.str (getItemD node key (.str default))
  { id := nodeId
    label := text "label" nodeId
    kind := text "kind" "service"
    team := text "team" "Unassigned"
    tier := text "tier" "tier-3"
    health := text "health" "unknown"
    impactScore := impactScore host decay node reached
    hopDistance := reached.distance
    evidenceIds := [s!"{evidencePrefix}-{reached.origin}-{nodeId}"] }

/-- An active edge from one layer to the next. -/
def crossesLayer (reached : Dict String Reached) (edge : Edge) : Bool :=
  match reached.get? edge.source, reached.get? edge.target with
  | some source, some target => target.distance == source.distance + 1
  | _, _ => false

/-- The entries of the edges in the result, in the order they were given. -/
def blastEdges (reached : Dict String Reached) : List Edge → Except ServiceError (List BlastEdge)
  | [] => .ok []
  | edge :: edges =>
    if crossesLayer reached edge then do
      let confidence ← toFloat edge.confidence
      let rest ← blastEdges reached edges
      pure ({ source := edge.source, target := edge.target, relation := edge.relation
              confidence := Number.round (clampFloat confidence 0 1) 2, active := true } :: rest)
    else blastEdges reached edges

/-- `calculate_blast_radius`. -/
def calculateBlastRadius (host : Host) (nodes edges : List Items) (changedServices : List String)
    (evidencePrefix : String) (maxHops : Nat := 4) (decay : ℚ := 18 / 25) :
    Except ServiceError BlastRadius := do
  let ids ← requireTexts host "id" nodes
  let known := withServices host (nodesById ids nodes) changedServices
  let edges ← activeEdges host edges
  let roots := sortedSet changedServices
  let found ← search known edges maxHops (roots.length * pathBound edges.length maxHops)
    (startSearch roots)
  let ordered := found.reached.insertionSort fun a b =>
    a.2.distance < b.2.distance ∨ (a.2.distance = b.2.distance ∧ a.1 ≤ b.1)
  let edges ← blastEdges found.reached edges
  pure
    { nodes := ordered.map fun (id, reached) => blastNode host decay evidencePrefix known id reached
      edges := edges.insertionSort fun a b =>
        a.source < b.source ∨ (a.source = b.source ∧ a.target ≤ b.target) }

end DeployGuard.Service
