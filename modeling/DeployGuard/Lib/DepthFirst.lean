import Mathlib.Data.List.Basic
import Mathlib.Logic.Function.Basic
import Mathlib.Logic.Relation

/-!
# Depth-first search for a cycle

The three-mark search: a node is unseen, active (on the path from the root to
where the search is) or done. The search stops when it comes to an active node,
and passes over a node that is done.

> `search_ok`: a search that ends has looked at every node, and below each of them
> the edges are well-founded: no cycle can be reached;

> `search_cycle`: a search that stops has found a cycle;

> `search_ne_exhausted`: the recursion is never deeper than there are nodes.

Together they decide whether a finite graph has a cycle (`search_decides`). What
makes both directions go through is one invariant for each mark: every active
node reaches the node the search is at, and every done node is accessible.
-/

namespace DepthFirst

open Relation

variable {α : Type}

inductive Mark where
  | unseen
  | active
  | done
  deriving DecidableEq

/-- Why a search stopped before its end. -/
inductive Failure where
  | cycle
  /-- the recursion went deeper than the fuel -/
  | exhausted
  deriving DecidableEq

abbrev Marks (α : Type) := α → Mark

/-- `visit(node)`. -/
def visit [DecidableEq α] (succ : α → List α) : Nat → Marks α → α → Except Failure (Marks α)
  | 0, _, _ => .error .exhausted
  | fuel + 1, marks, v =>
    match marks v with
    | .active => .error .cycle
    | .done => .ok marks
    | .unseen => do
      let below ← (succ v).foldlM (visit succ fuel) (Function.update marks v .active)
      pure (Function.update below v .done)

/-- Visit the nodes one after another, all of them unseen at first. -/
def search [DecidableEq α] (succ : α → List α) (fuel : Nat) (nodes : List α) : Except Failure (Marks α) :=
  nodes.foldlM (visit succ fuel) fun _ => .unseen

/-- There is an edge from `a` to `b`. -/
def Edge (succ : α → List α) (a b : α) : Prop := b ∈ succ a

/-- Some node reaches itself. -/
def HasCycle (succ : α → List α) : Prop := ∃ v, TransGen (Edge succ) v v

variable {succ : α → List α} {fuel : Nat} {marks marks' : Marks α} {v : α} {vs : List α}

/-- An accessible node is on no cycle. -/
theorem not_transGen_of_acc (h : Acc (fun b a => Edge succ a b) v) :
    ¬TransGen (Edge succ) v v := by
  induction h with
  | intro v _ ih =>
    intro hcycle
    -- a cycle through `v` is a cycle through the node after it
    obtain ⟨w, hedge, hback⟩ := TransGen.head'_iff.mp hcycle
    exact ih w hedge (TransGen.tail' hback hedge)

/-! ## Soundness and completeness -/

/-- Below a node that is done the edges are well-founded. -/
def Grounded (succ : α → List α) (marks : Marks α) : Prop :=
  ∀ a, marks a = .done → Acc (fun b a => Edge succ a b) a

/-- Every active node reaches `v`. -/
def LeadsTo (succ : α → List α) (marks : Marks α) (v : α) : Prop :=
  ∀ a, marks a = .active → TransGen (Edge succ) a v

/-- What a search does to the marks: the active nodes stay active, and what is
done stays done. -/
structure Extends (marks marks' : Marks α) : Prop where
  active : ∀ a, marks' a = .active ↔ marks a = .active
  done : ∀ a, marks a = .done → marks' a = .done

theorem Extends.refl (marks : Marks α) : Extends marks marks := ⟨fun _ => Iff.rfl, fun _ h => h⟩

theorem Extends.trans {marks'' : Marks α} (h : Extends marks marks') (h' : Extends marks' marks'') :
    Extends marks marks'' :=
  ⟨fun a => (h'.active a).trans (h.active a), fun a ha => h'.done a (h.done a ha)⟩

/-- A search from `vs` that ended: the marks extend those before, the done nodes
are grounded, and all of `vs` is done. -/
structure Finished (succ : α → List α) (marks : Marks α) (vs : List α) (marks' : Marks α) :
    Prop where
  extension : Extends marks marks'
  grounded : Grounded succ marks'
  visited : ∀ v ∈ vs, marks' v = .done

/-- How a search from `vs` ends. -/
def Outcome (succ : α → List α) (marks : Marks α) (vs : List α) : Except Failure (Marks α) → Prop
  | .ok marks' => Finished succ marks vs marks'
  | .error .cycle => HasCycle succ
  | .error .exhausted => True

/-- The nodes of a list one after another, if each visit ends as it should. -/
theorem foldlM_outcome {step : Marks α → α → Except Failure (Marks α)} (hg : Grounded succ marks)
    (hlead : ∀ v ∈ vs, LeadsTo succ marks v)
    (hstep : ∀ m v, Grounded succ m → LeadsTo succ m v → Outcome succ m [v] (step m v)) :
    Outcome succ marks vs (vs.foldlM step marks) := by
  induction vs generalizing marks with
  | nil => exact ⟨.refl marks, hg, nofun⟩
  | cons v vs ih =>
    have hv : Outcome succ marks [v] (step marks v) := hstep marks v hg (hlead v (List.mem_cons_self ..))
    rw [List.foldlM_cons]
    cases hresult : step marks v with
    | error failure =>
      rw [hresult] at hv
      cases failure with
      | cycle => exact hv
      | exhausted => trivial
    | ok between =>
      rw [hresult] at hv
      -- Visiting a node leaves the active ones active, so the path still leads to the rest.
      have hlead' : ∀ w ∈ vs, LeadsTo succ between w := by
        intro w hw a ha
        exact hlead w (List.mem_cons_of_mem v hw) a ((hv.extension.active a).mp ha)
      have hrest := ih hv.grounded hlead'
      show Outcome succ marks (v :: vs) (vs.foldlM step between)
      cases hend : vs.foldlM step between with
      | error failure =>
        rw [hend] at hrest
        cases failure with
        | cycle => exact hrest
        | exhausted => trivial
      | ok last =>
        rw [hend] at hrest
        refine ⟨hv.extension.trans hrest.extension, hrest.grounded, fun w hw => ?_⟩
        -- done by the first visit, and done nodes stay done
        rcases List.mem_cons.mp hw with rfl | hw
        · exact hrest.extension.done w (hv.visited w (List.mem_singleton.mpr rfl))
        · exact hrest.visited w hw

variable [DecidableEq α]

theorem visit_active (h : marks v = .active) : visit succ (fuel + 1) marks v = .error .cycle := by
  rw [visit, h]

theorem visit_done (h : marks v = .done) : visit succ (fuel + 1) marks v = .ok marks := by
  rw [visit, h]

theorem visit_unseen (h : marks v = .unseen) : visit succ (fuel + 1) marks v =
    (succ v).foldlM (visit succ fuel) (Function.update marks v .active) >>=
      fun below => pure (Function.update below v .done) := by
  rw [visit, h]

/-- A node whose successors are all done may be called done. -/
theorem Finished.close {below : Marks α} (hv : marks v = .unseen)
    (h : Finished succ (Function.update marks v .active) (succ v) below) :
    Finished succ marks [v] (Function.update below v .done) := by
  have hground : Acc (fun b a => Edge succ a b) v :=
    Acc.intro v fun w hw => h.grounded w (h.visited w hw)
  refine ⟨⟨fun a => ?_, fun a ha => ?_⟩, fun a ha => ?_, fun w hw => ?_⟩
  · by_cases hav : a = v
    · subst hav
      rw [Function.update_self, hv]
      exact iff_of_false nofun nofun
    · rw [Function.update_of_ne hav, h.extension.active a, Function.update_of_ne hav]
  · by_cases hav : a = v
    · subst hav
      rw [Function.update_self]
    · rw [Function.update_of_ne hav]
      refine h.extension.done a ?_
      rw [Function.update_of_ne hav]
      exact ha
  · by_cases hav : a = v
    · subst hav
      exact hground
    · rw [Function.update_of_ne hav] at ha
      exact h.grounded a ha
  · rw [List.mem_singleton.mp hw, Function.update_self]

/-- A visit, by induction on the fuel. -/
theorem visit_outcome (hg : Grounded succ marks) (hlead : LeadsTo succ marks v) :
    Outcome succ marks [v] (visit succ fuel marks v) := by
  induction fuel generalizing marks v with
  | zero => trivial
  | succ fuel ih =>
    cases hmark : marks v with
    | active =>
      rw [visit_active hmark]
      exact ⟨v, hlead v hmark⟩
    | done =>
      rw [visit_done hmark]
      refine ⟨.refl marks, hg, fun w hw => ?_⟩
      rw [List.mem_singleton.mp hw, hmark]
    | unseen =>
      rw [visit_unseen hmark]
      have hg' : Grounded succ (Function.update marks v .active) := by
        intro a ha
        by_cases hav : a = v
        · rw [hav, Function.update_self] at ha
          cases ha
        · rw [Function.update_of_ne hav] at ha
          exact hg a ha
      -- the new active node is one edge away from each of its successors
      have hlead' : ∀ w ∈ succ v, LeadsTo succ (Function.update marks v .active) w := by
        intro w hw a ha
        by_cases hav : a = v
        · rw [hav]
          exact TransGen.single hw
        · rw [Function.update_of_ne hav] at ha
          exact (hlead a ha).tail hw
      have hbelow := foldlM_outcome hg' hlead' fun m w hm hw => ih hm hw
      cases hresult : (succ v).foldlM (visit succ fuel) (Function.update marks v .active) with
      | error failure =>
        rw [hresult] at hbelow
        cases failure with
        | cycle => exact hbelow
        | exhausted => trivial
      | ok below =>
        rw [hresult] at hbelow
        exact hbelow.close hmark

theorem search_outcome (nodes : List α) :
    Outcome succ (fun _ => .unseen) nodes (search succ fuel nodes) :=
  foldlM_outcome nofun (fun _ _ => nofun) fun _ _ hg hlead => visit_outcome hg hlead

/-- Where the search ended, no node it was asked for leads to a cycle. -/
theorem search_ok {nodes : List α} (h : search succ fuel nodes = .ok marks) (hv : v ∈ nodes) :
    Acc (fun b a => Edge succ a b) v := by
  have hend : Outcome succ (fun _ => .unseen) nodes (search succ fuel nodes) := search_outcome nodes
  rw [h] at hend
  exact hend.grounded v (hend.visited v hv)

theorem search_cycle {nodes : List α} (h : search succ fuel nodes = .error .cycle) :
    HasCycle succ := by
  have hend : Outcome succ (fun _ => .unseen) nodes (search succ fuel nodes) := search_outcome nodes
  rw [h] at hend
  exact hend

/-! ## The depth of the recursion -/

/-- How many of the nodes are unseen. -/
def unseen (nodes : List α) (marks : Marks α) : Nat := nodes.countP fun a => marks a = .unseen

/-- No mark is taken back. -/
def Seen (marks marks' : Marks α) : Prop := ∀ a, marks' a = .unseen → marks a = .unseen

omit [DecidableEq α] in
theorem unseen_le {nodes : List α} (h : Seen marks marks') :
    unseen nodes marks' ≤ unseen nodes marks := by
  refine List.countP_mono_left fun a _ ha => ?_
  rw [decide_eq_true_eq] at ha ⊢
  exact h a ha

/-- Marking an unseen node leaves fewer unseen. -/
theorem unseen_update_lt {nodes : List α} (hmem : v ∈ nodes) (hv : marks v = .unseen) :
    unseen nodes (Function.update marks v .active) < unseen nodes marks := by
  induction nodes with
  | nil => cases hmem
  | cons a nodes ih =>
    have hle : unseen nodes (Function.update marks v .active) ≤ unseen nodes marks := by
      refine unseen_le fun b hb => ?_
      by_cases hbv : b = v
      · rw [hbv]
        exact hv
      · rwa [Function.update_of_ne hbv] at hb
    unfold unseen at ih hle ⊢
    rw [List.countP_cons, List.countP_cons]
    by_cases hav : a = v
    · subst hav
      simp only [Function.update_self, hv, decide_true, if_true, reduceCtorEq, decide_false,
        Bool.false_eq_true, if_false]
      omega
    · have hlt := ih ((List.mem_cons.mp hmem).resolve_left fun h => hav h.symm)
      simp only [Function.update_of_ne hav]
      omega

/-- A visit that has the fuel for the unseen nodes does not run out of it, and
takes no mark back. -/
def Sufficient (marks : Marks α) : Except Failure (Marks α) → Prop
  | .ok marks' => Seen marks marks'
  | .error failure => failure ≠ .exhausted

omit [DecidableEq α] in
theorem foldlM_sufficient {nodes : List α} {step : Marks α → α → Except Failure (Marks α)}
    (hfuel : unseen nodes marks < fuel) (hvs : ∀ v ∈ vs, v ∈ nodes)
    (hstep : ∀ m, unseen nodes m < fuel → ∀ v ∈ nodes, Sufficient m (step m v)) :
    Sufficient marks (vs.foldlM step marks) := by
  induction vs generalizing marks with
  | nil => exact fun _ h => h
  | cons v vs ih =>
    have hv : Sufficient marks (step marks v) := hstep marks hfuel v (hvs v (List.mem_cons_self ..))
    rw [List.foldlM_cons]
    cases hresult : step marks v with
    | error failure =>
      rw [hresult] at hv
      exact hv
    | ok between =>
      rw [hresult] at hv
      have hless : unseen nodes between < fuel := Nat.lt_of_le_of_lt (unseen_le hv) hfuel
      have hrest := ih hless fun w hw => hvs w (List.mem_cons_of_mem v hw)
      show Sufficient marks (vs.foldlM step between)
      cases hend : vs.foldlM step between with
      | error failure =>
        rw [hend] at hrest
        exact hrest
      | ok last =>
        rw [hend] at hrest
        exact fun a ha => hv a (hrest a ha)

theorem visit_sufficient {nodes : List α} (hclosed : ∀ a ∈ nodes, ∀ b ∈ succ a, b ∈ nodes)
    (hv : v ∈ nodes) (hfuel : unseen nodes marks < fuel) :
    Sufficient marks (visit succ fuel marks v) := by
  induction fuel generalizing marks v with
  | zero => exact absurd hfuel (Nat.not_lt_zero _)
  | succ fuel ih =>
    cases hmark : marks v with
    | active =>
      rw [visit_active hmark]
      exact nofun
    | done =>
      rw [visit_done hmark]
      exact fun _ h => h
    | unseen =>
      rw [visit_unseen hmark]
      -- The node is marked before its successors are visited, so fewer are unseen.
      have hless : unseen nodes (Function.update marks v .active) < fuel := by
        have hlt : unseen nodes (Function.update marks v .active) < unseen nodes marks :=
          unseen_update_lt hv hmark
        omega
      have hbelow : Sufficient (Function.update marks v .active)
          ((succ v).foldlM (visit succ fuel) (Function.update marks v .active)) :=
        foldlM_sufficient hless (hclosed v hv) fun m hm w hw => ih hw hm
      cases hresult : (succ v).foldlM (visit succ fuel) (Function.update marks v .active) with
      | error failure =>
        rw [hresult] at hbelow
        exact hbelow
      | ok below =>
        rw [hresult] at hbelow
        intro a ha
        -- only the node itself changed before the successors were visited
        by_cases hav : a = v
        · rw [hav]
          exact hmark
        · have hbefore : Function.update marks v .active a = .unseen := by
            refine hbelow a ?_
            rwa [Function.update_of_ne hav] at ha
          rwa [Function.update_of_ne hav] at hbefore

/-- Fuel for one more than the nodes is enough. -/
theorem search_ne_exhausted {nodes roots : List α}
    (hclosed : ∀ a ∈ nodes, ∀ b ∈ succ a, b ∈ nodes) (hroots : ∀ v ∈ roots, v ∈ nodes)
    (hfuel : nodes.length < fuel) : search succ fuel roots ≠ .error .exhausted := by
  have hunseen : unseen nodes (fun _ : α => .unseen) < fuel :=
    Nat.lt_of_le_of_lt List.countP_le_length hfuel
  have hend : Sufficient (fun _ => .unseen) (search succ fuel roots) :=
    foldlM_sufficient hunseen hroots fun m hm v hv => visit_sufficient hclosed hv hm
  intro h
  rw [h] at hend
  exact hend rfl

/-- The search from every node that has edges decides whether there is a cycle. -/
theorem search_decides {nodes roots : List α}
    (hclosed : ∀ a ∈ nodes, ∀ b ∈ succ a, b ∈ nodes) (hroots : ∀ v ∈ roots, v ∈ nodes)
    (hfuel : nodes.length < fuel) (hall : ∀ v, succ v ≠ [] → v ∈ roots) :
    (search succ fuel roots = .error .cycle ∧ HasCycle succ) ∨
      ((∃ marks, search succ fuel roots = .ok marks) ∧ ¬HasCycle succ) := by
  cases hresult : search succ fuel roots with
  | error failure =>
    cases failure with
    | cycle => exact Or.inl ⟨rfl, search_cycle hresult⟩
    | exhausted => exact absurd hresult (search_ne_exhausted hclosed hroots hfuel)
  | ok marks =>
    refine Or.inr ⟨⟨marks, rfl⟩, fun hcycle => ?_⟩
    obtain ⟨v, hcycle⟩ := hcycle
    -- a node on a cycle has an edge, so the search went through it
    obtain ⟨w, hedge, -⟩ := TransGen.head'_iff.mp hcycle
    have hroot : v ∈ roots := by
      refine hall v fun hnone => ?_
      rw [Edge, hnone] at hedge
      cases hedge
    exact not_transGen_of_acc (search_ok hresult hroot) hcycle

end DepthFirst
