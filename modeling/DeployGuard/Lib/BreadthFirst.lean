import DeployGuard.Lib.Sorted
import Mathlib.Data.List.Perm.Basic
import Mathlib.Logic.Function.Basic
import Mathlib.Order.Defs.LinearOrder

/-!
# Breadth-first search for the best of the shortest walks

A breadth-first search from several roots that labels a node with its distance, the
weight of the walk that reached it and the root of that walk. A node reached again at
the same distance by a heavier walk is labelled and queued again.

The queue then holds nodes more than once, and a node is looked at for each time it
is in the queue. What makes the search exact in spite of it is that no node of a layer
is looked at before the layer is complete, so every label of a layer is final when
the first node of the layer is taken from the queue.

> `search_exact`: with fuel for every entry, no walk within the hops is shorter, or as
> short and heavier, than the label of its end, and every label is that of a walk;

> `search_congr`: the labels do not depend on the order of the arcs that leave a node
> for the same target.
-/

namespace BreadthFirst

structure Arc (α W : Type) where
  source : α
  target : α
  weight : W

/-- A walk from `root`: its end, its length and the product of its weights. -/
inductive Walk {α W : Type} [One W] [Mul W] (arcs : List (Arc α W)) (root : α) : α → Nat → W → Prop
  | start : Walk arcs root root 0 1
  | step {n : Nat} {w : W} (a : Arc α W) : a ∈ arcs → Walk arcs root a.source n w →
      Walk arcs root a.target (n + 1) (w * a.weight)

/-- More arcs keep every walk. -/
theorem Walk.mono {α W : Type} [One W] [Mul W] {arcs arcs' : List (Arc α W)} {root v : α} {n : Nat}
    {w : W} (harcs : ∀ a ∈ arcs, a ∈ arcs') (h : Walk arcs root v n w) : Walk arcs' root v n w := by
  induction h with
  | start => exact .start
  | step a ha _ ih => exact .step a (harcs a ha) ih

structure Label (α W : Type) where
  distance : Nat
  weight : W
  origin : α

/-- The labels given so far, and the nodes to look at. -/
structure State (α W : Type) where
  label : α → Option (Label α W)
  queue : List α

variable {α W : Type} [LinearOrder W]

/-- Nearer, or as near and heavier. -/
def Label.Better (l m : Label α W) : Prop :=
  l.distance < m.distance ∨ (l.distance = m.distance ∧ m.weight < l.weight)

/-- Being better is transitive. -/
theorem Label.Better.trans {l m k : Label α W} (h : l.Better m) (h' : m.Better k) : l.Better k := by
  obtain hlt | ⟨heq, hw⟩ := h
  · obtain hlt' | ⟨heq', -⟩ := h'
    · exact Or.inl (Nat.lt_trans hlt hlt')
    · exact Or.inl (heq' ▸ hlt)
  · obtain hlt' | ⟨heq', hw'⟩ := h'
    · exact Or.inl (heq ▸ hlt')
    · exact Or.inr ⟨heq.trans heq', lt_trans hw' hw⟩

/-- No label is better than itself. -/
theorem Label.Better.irrefl (l : Label α W) : ¬l.Better l := by
  intro h
  obtain hlt | ⟨-, hw⟩ := h
  · exact Nat.lt_irrefl _ hlt
  · exact lt_irrefl _ hw

/-- Better than the label a node has, if it has one. -/
def Improves (l : Label α W) (old : Option (Label α W)) : Prop := ∀ m, old = some m → l.Better m

instance (l : Label α W) (old : Option (Label α W)) : Decidable (Improves l old) :=
  match old with
  | none => .isTrue fun _ h => nomatch h
  | some m =>
    decidable_of_iff (l.distance < m.distance ∨ (l.distance = m.distance ∧ m.weight < l.weight))
      ⟨fun h _ heq => Option.some.inj heq ▸ h, fun h => h m rfl⟩

/-- Any label improves on none. -/
theorem improves_none (l : Label α W) : Improves l none := fun _ h => nomatch h

/-- A label improves on one it is better than. -/
@[simp] theorem improves_some {l m : Label α W} : Improves l (some m) ↔ l.Better m :=
  ⟨fun h => h m rfl, fun h _ heq => Option.some.inj heq ▸ h⟩

/-- What would not improve a label does not do so later. -/
def Grows (s t : State α W) : Prop := ∀ v m, Improves m (t.label v) → Improves m (s.label v)

/-- Labels are kept by doing nothing. -/
theorem Grows.refl (s : State α W) : Grows s s := fun _ _ h => h

theorem Grows.trans {r s t : State α W} (h : Grows r s) (h' : Grows s t) : Grows r t :=
  fun v m hm => h v m (h' v m hm)

/-- A node that has a label keeps one. -/
theorem Grows.isSome {s t : State α W} (h : Grows s t) {v : α} (hv : (s.label v).isSome) :
    (t.label v).isSome := by
  obtain ⟨l, hl⟩ := Option.isSome_iff_exists.mp hv
  cases ht : t.label v with
  | some m => rfl
  | none =>
    have himproves := h v l (ht ▸ improves_none l)
    rw [hl, improves_some] at himproves
    exact absurd himproves (Label.Better.irrefl l)

section Search

variable [Mul W]

/-- What an arc offers its target. -/
def Label.along (l : Label α W) (a : Arc α W) : Label α W :=
  { distance := l.distance + 1, weight := l.weight * a.weight, origin := l.origin }

omit [LinearOrder W] in
/-- An arc is one hop. -/
@[simp] theorem Label.along_distance (l : Label α W) (a : Arc α W) :
    (l.along a).distance = l.distance + 1 := rfl

variable [DecidableEq α]

/-- Look along one arc from a node labelled `l`. -/
def relax (l : Label α W) (s : State α W) (a : Arc α W) : State α W :=
  if Improves (l.along a) (s.label a.target) then
    { label := Function.update s.label a.target (some (l.along a))
      queue := s.queue ++ [a.target] }
  else s

/-- The label of the node is read again for every arc. -/
def relaxFrom (u : α) (s : State α W) (a : Arc α W) : State α W :=
  match s.label u with
  | none => s
  | some l => relax l s a

/-- Look along the arcs that leave `u`. -/
def expand (out : α → List (Arc α W)) (s : State α W) (u : α) : State α W :=
  (out u).foldl (relaxFrom u) s

/-- Take nodes from the queue until it is empty. -/
def search (out : α → List (Arc α W)) (maxHops : Nat) : Nat → State α W → State α W
  | 0, s => s
  | fuel + 1, s =>
    match s.queue with
    | [] => s
    | u :: queue =>
      match s.label u with
      | none => search out maxHops fuel { s with queue }
      | some l =>
        if maxHops ≤ l.distance then search out maxHops fuel { s with queue }
        else search out maxHops fuel (expand out { s with queue } u)

/-- The entries one node of the queue can lead to, in a search that has `hops` left. -/
def entryBound (width : Nat) : Nat → Nat
  | 0 => 1
  | hops + 1 => 1 + width * entryBound width hops

/-- Look along the arcs that leave each node of a list. -/
def sweep (out : α → List (Arc α W)) (us : List α) (s : State α W) : State α W :=
  us.foldl (expand out) s

/-- The search layer by layer. -/
def layers (out : α → List (Arc α W)) : Nat → State α W → State α W
  | 0, s => { s with queue := [] }
  | hops + 1, s => layers out hops (sweep out s.queue { s with queue := [] })

/-! ## One node -/

variable {l m : Label α W} {s t : State α W} {a : Arc α W} {as : List (Arc α W)} {u v : α}
  {out out' : α → List (Arc α W)}

/-- An arc that improves its target's label sets it. -/
theorem relax_label_self (h : Improves (l.along a) (s.label a.target)) :
    (relax l s a).label a.target = some (l.along a) := by
  rw [relax, if_pos h]
  exact Function.update_self ..

/-- Any other arc does nothing. -/
theorem relax_of_not_improves (h : ¬Improves (l.along a) (s.label a.target)) : relax l s a = s :=
  if_neg h

/-- No other vertex is touched. -/
theorem relax_label_ne (h : v ≠ a.target) : (relax l s a).label v = s.label v := by
  unfold relax
  split
  · exact Function.update_of_ne h ..
  · rfl

/-- An arc only improves labels. -/
theorem relax_grows (l : Label α W) (s : State α W) (a : Arc α W) : Grows s (relax l s a) := by
  intro v m hm
  by_cases hv : v = a.target
  · subst hv
    by_cases h : Improves (l.along a) (s.label a.target)
    · rw [relax_label_self h, improves_some] at hm
      exact fun k hk => hm.trans (h k hk)
    · rwa [relax_of_not_improves h] at hm
  · rwa [relax_label_ne hv] at hm

/-- After an arc is looked along, it has nothing more to offer. -/
theorem relax_offered (l : Label α W) (s : State α W) (a : Arc α W) :
    ¬Improves (l.along a) ((relax l s a).label a.target) := by
  by_cases h : Improves (l.along a) (s.label a.target)
  · rw [relax_label_self h, improves_some]
    exact Label.Better.irrefl _
  · rwa [relax_of_not_improves h]

theorem foldl_relax_grows (l : Label α W) (as : List (Arc α W)) (s : State α W) :
    Grows s (as.foldl (relax l) s) := by
  induction as generalizing s with
  | nil => exact Grows.refl s
  | cons a as ih => exact (relax_grows l s a).trans (ih _)

theorem foldl_relax_offered {l : Label α W} {s : State α W} (h : a ∈ as) :
    ¬Improves (l.along a) ((as.foldl (relax l) s).label a.target) := by
  induction as generalizing s with
  | nil => exact absurd h List.not_mem_nil
  | cons b as ih =>
    obtain rfl | h := List.mem_cons.mp h
    · exact fun hm => relax_offered l s a (foldl_relax_grows l as _ _ _ hm)
    · exact ih h

/-- A label that changed is what one of the arcs offered, and better than before. -/
theorem foldl_relax_label (l : Label α W) (as : List (Arc α W)) (s : State α W) (v : α) :
    (as.foldl (relax l) s).label v = s.label v ∨
      ∃ a ∈ as, a.target = v ∧ (as.foldl (relax l) s).label v = some (l.along a) ∧
        Improves (l.along a) (s.label v) := by
  induction as generalizing s with
  | nil => exact Or.inl rfl
  | cons b as ih =>
    rw [List.foldl_cons]
    obtain hsame | ⟨a, ha, hv, hnew, hbetter⟩ := ih (relax l s b)
    · rw [hsame]
      by_cases hv : v = b.target
      · subst hv
        by_cases h : Improves (l.along b) (s.label b.target)
        · exact Or.inr ⟨b, List.mem_cons_self, rfl, relax_label_self h, h⟩
        · rw [relax_of_not_improves h]
          exact Or.inl rfl
      · exact Or.inl (relax_label_ne hv)
    · exact Or.inr ⟨a, List.mem_cons_of_mem _ ha, hv, hnew, relax_grows l s b _ _ hbetter⟩

/-- A label changes iff one of the arcs improves it. -/
theorem foldl_relax_changed {l : Label α W} {s : State α W} :
    (as.foldl (relax l) s).label v ≠ s.label v ↔
      ∃ a ∈ as, a.target = v ∧ Improves (l.along a) (s.label v) := by
  constructor
  · intro h
    obtain hsame | ⟨a, ha, hv, -, hbetter⟩ := foldl_relax_label l as s v
    · exact absurd hsame h
    · exact ⟨a, ha, hv, hbetter⟩
  · intro h hsame
    obtain ⟨a, ha, rfl, hbetter⟩ := h
    exact foldl_relax_offered ha (hsame ▸ hbetter)

/-- The nodes queued are targets, in the order of the arcs, and those whose label
changed. -/
theorem foldl_relax_queue (l : Label α W) (as : List (Arc α W)) (s : State α W) :
    ∃ added, (as.foldl (relax l) s).queue = s.queue ++ added ∧
      added.Sublist (as.map Arc.target) ∧
      ∀ v, v ∈ added ↔ (as.foldl (relax l) s).label v ≠ s.label v := by
  induction as generalizing s with
  | nil => exact ⟨[], (List.append_nil _).symm, List.Sublist.slnil, fun v => by simp⟩
  | cons b as ih =>
    obtain ⟨added, hqueue, hsub, hadded⟩ := ih (relax l s b)
    by_cases h : Improves (l.along b) (s.label b.target)
    · -- the arc improves its target, which is queued and differs from now on
      have hpushed : (relax l s b).queue = s.queue ++ [b.target] := by rw [relax, if_pos h]
      refine ⟨b.target :: added, ?_, hsub.cons_cons _, fun v => ?_⟩
      · rw [List.foldl_cons, hqueue, hpushed, List.append_assoc, List.singleton_append]
      · rw [foldl_relax_changed, List.mem_cons, hadded, foldl_relax_changed]
        constructor
        · intro hv
          obtain rfl | ⟨a, ha, hv, hbetter⟩ := hv
          · exact ⟨b, List.mem_cons_self, rfl, h⟩
          · exact ⟨a, List.mem_cons_of_mem _ ha, hv, relax_grows l s b _ _ hbetter⟩
        · intro hv
          obtain ⟨a, ha, hv, hbetter⟩ := hv
          by_cases hb : v = b.target
          · exact Or.inl hb
          · obtain rfl | ha := List.mem_cons.mp ha
            · exact absurd hv.symm hb
            · refine Or.inr ⟨a, ha, hv, ?_⟩
              rwa [relax_label_ne hb]
    · -- the arc improves nothing: the state is the same
      have hrelax := relax_of_not_improves h
      rw [hrelax] at hqueue hadded
      rw [List.foldl_cons, hrelax]
      exact ⟨added, hqueue, hsub.cons _, hadded⟩

/-! ## A layer -/

/-- Halfway through layer `d`, which began with the labels `base`: those are kept, and
a new label is that of an arc out of the layer, its node in the queue. -/
structure Sweeping (out : α → List (Arc α W)) (base : α → Option (Label α W)) (d : Nat)
    (s : State α W) : Prop where
  kept : ∀ v l, base v = some l → s.label v = some l
  fresh : ∀ v l, base v = none → s.label v = some l → v ∈ s.queue ∧
    ∃ u k, base u = some k ∧ k.distance = d ∧ ∃ a ∈ out u, a.target = v ∧ l = k.along a
  queued : ∀ v ∈ s.queue, base v = none ∧ ∃ l, s.label v = some l

variable {base : α → Option (Label α W)} {d : Nat} {us : List α}

/-- One arc out of the layer keeps the sweep's invariant. -/
theorem relax_sweeping (hbase : ∀ v l, base v = some l → l.distance ≤ d)
    (h : Sweeping out base d s) (hu : base u = some l) (hd : l.distance = d) (ha : a ∈ out u) :
    Sweeping out base d (relax l s a) := by
  by_cases himproves : Improves (l.along a) (s.label a.target)
  · -- a label from before the layer is as near as any node of it
    have hnew : base a.target = none := by
      cases hold : base a.target with
      | none => rfl
      | some m =>
        have hle := hbase _ _ hold
        have hfar : (l.along a).distance = d + 1 := by rw [Label.along_distance, hd]
        obtain hlt | ⟨heq, -⟩ := himproves m (h.kept _ _ hold)
        · omega
        · omega
    have hpushed : (relax l s a).queue = s.queue ++ [a.target] := by rw [relax, if_pos himproves]
    refine ⟨fun v m hm => ?_, fun v m hv hm => ?_, fun v hv => ?_⟩
    · have hne : v ≠ a.target := fun heq => by rw [heq, hnew] at hm; cases hm
      rw [relax_label_ne hne]
      exact h.kept v m hm
    · rw [hpushed, List.mem_append, List.mem_singleton]
      by_cases hva : v = a.target
      · subst hva
        rw [relax_label_self himproves] at hm
        exact ⟨Or.inr rfl, u, l, hu, hd, a, ha, rfl, (Option.some.inj hm).symm⟩
      · rw [relax_label_ne hva] at hm
        obtain ⟨hqueue, hfrom⟩ := h.fresh v m hv hm
        exact ⟨Or.inl hqueue, hfrom⟩
    · rw [hpushed, List.mem_append, List.mem_singleton] at hv
      by_cases hva : v = a.target
      · subst hva
        exact ⟨hnew, _, relax_label_self himproves⟩
      · rw [relax_label_ne hva]
        exact h.queued v (hv.resolve_right hva)
  · rw [relax_of_not_improves himproves]
    exact h

/-- Within a layer the label of the node itself stays as it is. -/
theorem foldl_relaxFrom (hbase : ∀ v l, base v = some l → l.distance ≤ d)
    (h : Sweeping out base d s) (hu : base u = some l) (hd : l.distance = d)
    (has : ∀ a ∈ as, a ∈ out u) :
    as.foldl (relaxFrom u) s = as.foldl (relax l) s ∧
      Sweeping out base d (as.foldl (relax l) s) := by
  induction as generalizing s with
  | nil => exact ⟨rfl, h⟩
  | cons a as ih =>
    have hstep : relaxFrom u s a = relax l s a := by rw [relaxFrom, h.kept u l hu]
    rw [List.foldl_cons, List.foldl_cons, hstep]
    exact ih (relax_sweeping hbase h hu hd (has a List.mem_cons_self))
      fun b hb => has b (List.mem_cons_of_mem _ hb)

/-- A vertex of the layer is expanded with the label it had when the layer began. -/
theorem expand_eq (hbase : ∀ v l, base v = some l → l.distance ≤ d)
    (h : Sweeping out base d s) (hu : base u = some l) (hd : l.distance = d) :
    expand out s u = (out u).foldl (relax l) s :=
  (foldl_relaxFrom hbase h hu hd fun _ ha => ha).1

theorem expand_sweeping (hbase : ∀ v l, base v = some l → l.distance ≤ d)
    (h : Sweeping out base d s) (hu : base u = some l) (hd : l.distance = d) :
    Sweeping out base d (expand out s u) := by
  rw [expand_eq hbase h hu hd]
  exact (foldl_relaxFrom hbase h hu hd fun _ ha => ha).2

/-- Every node of the list is of layer `d`. -/
def OfLayer (base : α → Option (Label α W)) (d : Nat) (us : List α) : Prop :=
  ∀ u ∈ us, ∃ l, base u = some l ∧ l.distance = d

theorem sweep_sweeping (hbase : ∀ v l, base v = some l → l.distance ≤ d)
    (h : Sweeping out base d s) (hus : OfLayer base d us) :
    Sweeping out base d (sweep out us s) ∧ Grows s (sweep out us s) := by
  induction us generalizing s with
  | nil => exact ⟨h, Grows.refl s⟩
  | cons u us ih =>
    obtain ⟨l, hu, hd⟩ := hus u List.mem_cons_self
    obtain ⟨hsweep, hgrows⟩ := ih (expand_sweeping hbase h hu hd)
      fun v hv => hus v (List.mem_cons_of_mem _ hv)
    refine ⟨hsweep, Grows.trans ?_ hgrows⟩
    rw [expand_eq hbase h hu hd]
    exact foldl_relax_grows l (out u) s

/-- After a sweep no arc out of its nodes has anything more to offer. -/
theorem sweep_offered (hbase : ∀ v l, base v = some l → l.distance ≤ d)
    (h : Sweeping out base d s) (hus : OfLayer base d us) (hmem : u ∈ us) (hu : base u = some l)
    (ha : a ∈ out u) : ¬Improves (l.along a) ((sweep out us s).label a.target) := by
  induction us generalizing s with
  | nil => exact absurd hmem List.not_mem_nil
  | cons v us ih =>
    obtain ⟨k, hv, hd⟩ := hus v List.mem_cons_self
    have hrest : OfLayer base d us := fun w hw => hus w (List.mem_cons_of_mem _ hw)
    have hsweeping := expand_sweeping hbase h hv hd
    obtain rfl | hmem := List.mem_cons.mp hmem
    · have hgrows := (sweep_sweeping hbase hsweeping hrest).2
      rw [hu] at hv
      obtain rfl := Option.some.inj hv
      intro hm
      have hm' := hgrows _ _ hm
      rw [expand_eq hbase h hu hd] at hm'
      exact foldl_relax_offered ha hm'
    · exact ih hsweeping hrest hmem

omit [LinearOrder W] [DecidableEq α] in
/-- A layer begins with nothing swept. -/
theorem sweeping_start (out : α → List (Arc α W)) (d : Nat) (s : State α W) :
    Sweeping out s.label d { s with queue := [] } where
  kept _ _ hl := hl
  fresh v l hnone hl := by rw [hnone] at hl; cases hl
  queued v hv := absurd hv List.not_mem_nil

omit [LinearOrder W] [DecidableEq α] in
/-- The labels of a sweep are those before it, or of the next layer. -/
theorem Sweeping.label (h : Sweeping out base d s) (hl : s.label v = some l) :
    base v = some l ∨ (base v = none ∧ l.distance = d + 1) := by
  cases hold : base v with
  | some m =>
    rw [h.kept v m hold] at hl
    exact Or.inl hl
  | none =>
    obtain ⟨-, u, k, -, hd, a, -, -, rfl⟩ := h.fresh v l hold hl
    exact Or.inr ⟨rfl, by rw [Label.along_distance, hd]⟩

/-! ## The layers -/

section Layers

variable [One W] {arcs : List (Arc α W)} {roots : List α}

/-- The labels are exact for walks of at most `d` arcs. -/
structure Exact (arcs : List (Arc α W)) (roots : List α) (d : Nat)
    (label : α → Option (Label α W)) : Prop where
  sound : ∀ v l, label v = some l →
    l.origin ∈ roots ∧ Walk arcs l.origin v l.distance l.weight ∧ l.distance ≤ d
  best : ∀ r ∈ roots, ∀ v n w, Walk arcs r v n w → n ≤ d → ¬Improves ⟨n, w, r⟩ (label v)

/-- Before layer `d` its nodes are those in the queue. -/
structure AtLayer (arcs : List (Arc α W)) (roots : List α) (d : Nat) (s : State α W) : Prop
    extends Exact arcs roots d s.label where
  layer : ∀ v, v ∈ s.queue ↔ ∃ l, s.label v = some l ∧ l.distance = d

omit [DecidableEq α] in
/-- No label lies beyond the layer. -/
theorem AtLayer.bounded (h : AtLayer arcs roots d s) : ∀ v l, s.label v = some l → l.distance ≤ d :=
  fun v l hl => (h.sound v l hl).2.2

omit [DecidableEq α] in
/-- The queue holds the layer. -/
theorem AtLayer.ofLayer (h : AtLayer arcs roots d s) : OfLayer s.label d s.queue :=
  fun v hv => (h.layer v).mp hv

/-- What the walks of a search are made of: the arcs that leave a node, and a product
that grows with the walk before the arc. -/
structure Arcs (arcs : List (Arc α W)) (out : α → List (Arc α W)) : Prop where
  mem : ∀ u a, a ∈ out u ↔ a ∈ arcs ∧ a.source = u
  mono : ∀ a ∈ arcs, ∀ w w' : W, w ≤ w' → w * a.weight ≤ w' * a.weight

/-- The labels after a layer's sweep. -/
theorem AtLayer.next_sound (harcs : Arcs arcs out) (h : AtLayer arcs roots d s)
    (hl : (sweep out s.queue { s with queue := [] }).label v = some l) :
    l.origin ∈ roots ∧ Walk arcs l.origin v l.distance l.weight ∧ l.distance ≤ d + 1 := by
  have hsweep := (sweep_sweeping h.bounded (sweeping_start out d s) h.ofLayer).1
  cases hold : s.label v with
  | some m =>
    rw [hsweep.kept v m hold] at hl
    obtain rfl := Option.some.inj hl
    obtain ⟨horigin, hwalk, hd⟩ := h.sound v _ hold
    exact ⟨horigin, hwalk, Nat.le_succ_of_le hd⟩
  | none =>
    obtain ⟨-, u, k, hk, hd, a, ha, rfl, rfl⟩ := hsweep.fresh v l hold hl
    obtain ⟨harc, rfl⟩ := (harcs.mem u a).mp ha
    obtain ⟨horigin, hwalk, -⟩ := h.sound _ k hk
    exact ⟨horigin, Walk.step a harc hwalk, Nat.succ_le_succ (Nat.le_of_eq hd)⟩

/-- A walk one arc longer than the layer is not better than the label of its end. -/
theorem AtLayer.next_best (harcs : Arcs arcs out) (h : AtLayer arcs roots d s) {r : α} {w : W}
    (hr : r ∈ roots) (harc : a ∈ arcs) (hwalk : Walk arcs r a.source d w) :
    ¬Improves ⟨d + 1, w * a.weight, r⟩
      ((sweep out s.queue { s with queue := [] }).label a.target) := by
  have hstart := sweeping_start out d s
  have hgrows := (sweep_sweeping h.bounded hstart h.ofLayer).2
  -- the node before the last has a label, and the walk to it does not improve it
  have hbefore := h.best r hr a.source d w hwalk (Nat.le_refl d)
  cases hsource : s.label a.source with
  | none => exact absurd (hsource ▸ improves_none _) hbefore
  | some k =>
    rw [hsource, improves_some] at hbefore
    obtain ⟨horigin, hk, hle⟩ := h.sound a.source k hsource
    obtain hlt | heq := Nat.lt_or_eq_of_le hle
    · -- it is nearer than the layer, so its target was labelled before
      have hreached := h.best k.origin horigin a.target _ _ (Walk.step a harc hk) hlt
      intro hm
      have hm' := hgrows _ _ hm
      cases htarget : s.label a.target with
      | none => exact hreached (htarget ▸ improves_none _)
      | some m =>
        have hd := h.bounded _ _ htarget
        rw [htarget, improves_some] at hm'
        have hfar : d + 1 ≤ m.distance := hm'.elim Nat.le_of_lt fun heq => Nat.le_of_eq heq.1
        omega
    · have hoffered := sweep_offered h.bounded hstart h.ofLayer
        ((h.layer a.source).mpr ⟨k, hsource, heq⟩) hsource ((harcs.mem _ a).mpr ⟨harc, rfl⟩)
      have hweight : w ≤ k.weight := by
        refine not_lt.mp fun hlt => hbefore (Or.inr ⟨heq.symm, hlt⟩)
      have hproduct := harcs.mono a harc _ _ hweight
      intro hm
      refine hoffered fun m hlabel => ?_
      obtain hlt | ⟨hdist, hlt⟩ := hm m hlabel
      · exact Or.inl (by rw [Label.along_distance, heq]; exact hlt)
      · exact Or.inr ⟨by rw [Label.along_distance, heq]; exact hdist, lt_of_lt_of_le hlt hproduct⟩

/-- A sweep of one layer leads to the next. -/
theorem AtLayer.next (harcs : Arcs arcs out) (h : AtLayer arcs roots d s) :
    AtLayer arcs roots (d + 1) (sweep out s.queue { s with queue := [] }) := by
  obtain ⟨hsweep, hgrows⟩ := sweep_sweeping h.bounded (sweeping_start out d s) h.ofLayer
  refine { sound := fun v l hl => h.next_sound harcs hl, best := fun r hr v n w hwalk hn => ?_,
           layer := fun v => ⟨fun hv => ?_, fun hv => ?_⟩ }
  · obtain hle | rfl := Nat.le_or_eq_of_le_succ hn
    · exact fun hm => h.best r hr v n w hwalk hle (hgrows _ _ hm)
    · cases hwalk with
      | step a harc hwalk => exact h.next_best harcs hr harc hwalk
  · obtain ⟨hnone, l, hl⟩ := hsweep.queued v hv
    obtain hold | ⟨-, hd⟩ := hsweep.label hl
    · rw [hnone] at hold
      cases hold
    · exact ⟨l, hl, hd⟩
  · obtain ⟨l, hl, hd⟩ := hv
    obtain hold | ⟨hnone, -⟩ := hsweep.label hl
    · have hle := h.bounded v l hold
      omega
    · exact (hsweep.fresh v l hnone hl).1

/-- Each sweep is one hop more, and the labels stay exact. -/
theorem AtLayer.layers (harcs : Arcs arcs out) (h : AtLayer arcs roots d s) (hops : Nat) :
    Exact arcs roots (d + hops) (layers out hops s).label := by
  induction hops generalizing d s with
  | zero => exact h.toExact
  | succ hops ih =>
    rw [BreadthFirst.layers, Nat.add_succ, ← Nat.succ_add]
    exact ih (h.next harcs)

/-- At the start the roots are labelled, and in the queue. -/
theorem atLayer_start (hlabel : ∀ v, s.label v = if v ∈ roots then some ⟨0, 1, v⟩ else none)
    (hqueue : ∀ v, v ∈ s.queue ↔ v ∈ roots) : AtLayer arcs roots 0 s where
  sound v l hl := by
    rw [hlabel] at hl
    split at hl
    · next hv =>
      obtain rfl := Option.some.inj hl
      exact ⟨hv, Walk.start, Nat.le_refl 0⟩
    · cases hl
  best r hr v n w hwalk hn := by
    cases hwalk with
    | start =>
      rw [hlabel, if_pos hr, improves_some]
      exact Label.Better.irrefl _
    | step a _ _ => exact absurd hn (Nat.not_succ_le_zero _)
  layer v := by
    rw [hqueue, hlabel]
    constructor
    · intro hv
      exact ⟨_, if_pos hv, rfl⟩
    · intro hv
      obtain ⟨l, hl, -⟩ := hv
      by_contra hnot
      rw [if_neg hnot] at hl
      cases hl

end Layers

/-! ## The queue -/

/-- The state with more nodes before its queue. -/
def State.ahead (us : List α) (s : State α W) : State α W := { s with queue := us ++ s.queue }

/-- What waits ahead in the queue does not matter to an arc. -/
theorem relax_ahead (l : Label α W) (us : List α) (s : State α W) (a : Arc α W) :
    relax l (s.ahead us) a = (relax l s a).ahead us := by
  unfold relax State.ahead
  split
  · simp only [List.append_assoc]
  · rfl

theorem relaxFrom_ahead (u : α) (us : List α) (s : State α W) (a : Arc α W) :
    relaxFrom u (s.ahead us) a = (relaxFrom u s a).ahead us := by
  have hlabel : (s.ahead us).label u = s.label u := rfl
  unfold relaxFrom
  rw [hlabel]
  cases s.label u with
  | none => rfl
  | some l => exact relax_ahead l us s a

theorem expand_ahead (out : α → List (Arc α W)) (us : List α) (s : State α W) (u : α) :
    expand out (s.ahead us) u = (expand out s u).ahead us := by
  unfold expand
  induction out u generalizing s with
  | nil => rfl
  | cons a as ih => rw [List.foldl_cons, List.foldl_cons, relaxFrom_ahead, ih]

/-- Every node of the queue has a label. -/
def Queued (s : State α W) : Prop := ∀ v ∈ s.queue, (s.label v).isSome

/-- An arc out of a labelled vertex only improves labels. -/
theorem relaxFrom_grows (u : α) (s : State α W) (a : Arc α W) : Grows s (relaxFrom u s a) := by
  unfold relaxFrom
  cases s.label u with
  | none => exact Grows.refl s
  | some l => exact relax_grows l s a

/-- What is labelled anew is queued. -/
theorem Queued.relaxFrom (h : Queued s) (u : α) (a : Arc α W) :
    Queued (BreadthFirst.relaxFrom u s a) := by
  unfold BreadthFirst.relaxFrom
  cases s.label u with
  | none => exact h
  | some l =>
    by_cases himproves : Improves (l.along a) (s.label a.target)
    · have hpushed : (relax l s a).queue = s.queue ++ [a.target] := by rw [relax, if_pos himproves]
      intro v hv
      simp only [hpushed, List.mem_append, List.mem_singleton] at hv
      obtain hv | rfl := hv
      · exact (relax_grows l s a).isSome (h v hv)
      · simp only [relax_label_self himproves, Option.isSome_some]
    · simp only [relax_of_not_improves himproves]
      exact h

/-- An arc queues one vertex at most. -/
theorem relaxFrom_length (u : α) (s : State α W) (a : Arc α W) :
    (relaxFrom u s a).queue.length ≤ s.queue.length + 1 := by
  unfold relaxFrom
  cases s.label u with
  | none => exact Nat.le_succ _
  | some l =>
    by_cases h : Improves (l.along a) (s.label a.target)
    · simp only [relax, if_pos h, List.length_append, List.length_singleton]
      exact Nat.le_refl _
    · simp only [relax_of_not_improves h]
      exact Nat.le_succ _

/-- A vertex queues one for each of its arcs at most. -/
theorem expand_length (out : α → List (Arc α W)) (s : State α W) (u : α) :
    (expand out s u).queue.length ≤ s.queue.length + (out u).length := by
  unfold expand
  induction out u generalizing s with
  | nil => exact Nat.le_refl _
  | cons a as ih =>
    have hstep := relaxFrom_length u s a
    have hrest := ih (relaxFrom u s a)
    rw [List.foldl_cons, List.length_cons]
    omega

/-- A layer's successors are bounded by its width. -/
theorem sweep_length {width : Nat} (hwidth : ∀ u, (out u).length ≤ width) (us : List α)
    (s : State α W) : (sweep out us s).queue.length ≤ s.queue.length + us.length * width := by
  induction us generalizing s with
  | nil => exact Nat.le_add_right _ _
  | cons u us ih =>
    have hstep := expand_length out s u
    have hrest := ih (expand out s u)
    have hu := hwidth u
    rw [sweep, List.foldl_cons, ← sweep, List.length_cons, Nat.succ_mul]
    omega

/-- One node is taken from the queue. -/
theorem search_cons (out : α → List (Arc α W)) (maxHops fuel : Nat) {label : α → Option (Label α W)}
    (hu : label u = some l) (us : List α) :
    search out maxHops (fuel + 1) ⟨label, u :: us⟩ =
      if maxHops ≤ l.distance then search out maxHops fuel ⟨label, us⟩
      else search out maxHops fuel (expand out ⟨label, us⟩ u) := by
  simp only [search, hu]

/-- The search takes the nodes of a layer from the queue one after another. -/
theorem search_sweep {maxHops : Nat} (hbase : ∀ v l, base v = some l → l.distance ≤ d)
    (h : Sweeping out base d s) (hus : OfLayer base d us) (hd : d < maxHops) (fuel : Nat) :
    search out maxHops (us.length + fuel) (s.ahead us) =
      search out maxHops fuel (sweep out us s) := by
  induction us generalizing s with
  | nil => rw [List.length_nil, Nat.zero_add]; rfl
  | cons u us ih =>
    obtain ⟨l, hu, hdist⟩ := hus u List.mem_cons_self
    have hfuel : (u :: us).length + fuel = us.length + fuel + 1 := by
      rw [List.length_cons]
      omega
    have hstep : search out maxHops (us.length + fuel + 1) (s.ahead (u :: us)) =
        search out maxHops (us.length + fuel) (expand out (s.ahead us) u) :=
      (search_cons out maxHops _ (h.kept u l hu) _).trans (if_neg (by omega))
    rw [hfuel, hstep, expand_ahead]
    exact ih (expand_sweeping hbase h hu hdist) fun v hv => hus v (List.mem_cons_of_mem _ hv)

/-- The nodes of the last layer are taken from the queue and not looked at. -/
theorem search_drain {maxHops fuel : Nat} {label : α → Option (Label α W)}
    (hus : OfLayer label maxHops us) (hfuel : us.length ≤ fuel) :
    search out maxHops fuel ⟨label, us⟩ = ⟨label, []⟩ := by
  induction us generalizing fuel with
  | nil =>
    cases fuel with
    | zero => rfl
    | succ fuel => rfl
  | cons u us ih =>
    obtain ⟨l, hu, hdist⟩ := hus u List.mem_cons_self
    cases fuel with
    | zero => exact absurd hfuel (Nat.not_succ_le_zero _)
    | succ fuel =>
      rw [search_cons out maxHops fuel hu us, if_pos (Nat.le_of_eq hdist.symm)]
      exact ih (fun v hv => hus v (List.mem_cons_of_mem _ hv)) (Nat.le_of_succ_le_succ hfuel)

section Layers

variable [One W] {arcs arcs' : List (Arc α W)} {roots : List α} {width : Nat}

/-- With fuel for every entry the search is the search by layers. -/
theorem search_eq_layers (harcs : Arcs arcs out) (hwidth : ∀ u, (out u).length ≤ width)
    (h : AtLayer arcs roots d s) {hops fuel : Nat}
    (hfuel : s.queue.length * entryBound width hops ≤ fuel) :
    search out (d + hops) fuel s = layers out hops s := by
  induction hops generalizing d s fuel with
  | zero =>
    rw [entryBound, Nat.mul_one] at hfuel
    exact search_drain h.ofLayer hfuel
  | succ hops ih =>
    have hlength := sweep_length hwidth s.queue { s with queue := [] }
    rw [List.length_nil, Nat.zero_add] at hlength
    have hentries := Nat.mul_le_mul_right (entryBound width hops) hlength
    -- the fuel left after this layer is enough for the entries it leads to
    rw [entryBound, Nat.mul_add, Nat.mul_one, ← Nat.mul_assoc] at hfuel
    obtain ⟨rest, rfl⟩ := Nat.exists_eq_add_of_le (Nat.le_of_add_right_le hfuel)
    have hrest := Nat.le_trans hentries (Nat.le_of_add_le_add_left hfuel)
    have hahead : s = State.ahead s.queue { s with queue := [] } := by
      rw [State.ahead, List.append_nil]
    have hsweep := search_sweep h.bounded (sweeping_start out d s) h.ofLayer
      (Nat.lt_add_of_pos_right (Nat.succ_pos hops)) rest
    rw [← hahead] at hsweep
    rw [hsweep, layers, Nat.add_succ, ← Nat.succ_add]
    exact ih (h.next harcs) hrest

omit [One W] in
/-- The sweeps leave no queue. -/
theorem layers_queue (out : α → List (Arc α W)) (hops : Nat) (s : State α W) :
    (layers out hops s).queue = [] := by
  induction hops generalizing s with
  | zero => rfl
  | succ hops ih => exact ih _

/-- With that fuel the search ends with nothing left in the queue. -/
theorem search_queue (harcs : Arcs arcs out) (hwidth : ∀ u, (out u).length ≤ width)
    (h : AtLayer arcs roots 0 s) {maxHops fuel : Nat}
    (hfuel : s.queue.length * entryBound width maxHops ≤ fuel) :
    (search out maxHops fuel s).queue = [] := by
  have hlayers := search_eq_layers harcs hwidth h hfuel
  rw [Nat.zero_add] at hlayers
  rw [hlayers, layers_queue]

/-- The labels of a search are exact. -/
theorem search_exact (harcs : Arcs arcs out) (hwidth : ∀ u, (out u).length ≤ width)
    (h : AtLayer arcs roots 0 s) {maxHops fuel : Nat}
    (hfuel : s.queue.length * entryBound width maxHops ≤ fuel) :
    Exact arcs roots maxHops (search out maxHops fuel s).label := by
  have hlayers := search_eq_layers harcs hwidth h hfuel
  rw [Nat.zero_add] at hlayers
  have hexact := h.layers harcs maxHops
  rw [Nat.zero_add] at hexact
  rwa [hlayers]

end Layers

/-! ## The order of the arcs -/

/-- The same labels, and the same nodes queued, each for the first time in the same
order. -/
structure Same (s t : State α W) : Prop where
  label : s.label = t.label
  queue : Sorted.firsts id s.queue = Sorted.firsts id t.queue

/-- The arcs come in the order of their targets. -/
def ByTarget (le : α → α → Prop) (as : List (Arc α W)) : Prop :=
  as.Pairwise fun a b => le a.target b.target

variable {bs : List (Arc α W)} {le : α → α → Prop}

/-- Which labels an arc list changes, and to what, does not depend on its order. -/
theorem foldl_relax_label_congr (hperm : as.Perm bs) (hlabel : s.label = t.label) (v : α) :
    (as.foldl (relax l) s).label v = (bs.foldl (relax l) t).label v := by
  obtain hs | ⟨a, ha, rfl, hnew, hbetter⟩ := foldl_relax_label l as s v
  · by_contra hne
    have hchanged : (bs.foldl (relax l) t).label v ≠ t.label v := by
      rw [← hlabel, ← hs]
      exact fun h => hne h.symm
    obtain ⟨b, hb, hv, hbetter⟩ := foldl_relax_changed.mp hchanged
    rw [← hlabel] at hbetter
    exact foldl_relax_changed.mpr ⟨b, hperm.mem_iff.mpr hb, hv, hbetter⟩ hs
  · have hchanged : (bs.foldl (relax l) t).label a.target ≠ t.label a.target :=
      foldl_relax_changed.mpr ⟨a, hperm.mem_iff.mp ha, rfl, hlabel ▸ hbetter⟩
    obtain hsame | ⟨b, hb, htarget, hnew', -⟩ := foldl_relax_label l bs t a.target
    · exact absurd hsame hchanged
    -- neither of the two arcs improves what the other one gave
    have hba : ¬(l.along b).Better (l.along a) := by
      have h := foldl_relax_offered (l := l) (s := s) (hperm.mem_iff.mpr hb)
      rwa [htarget, hnew, improves_some] at h
    have hab : ¬(l.along a).Better (l.along b) := by
      have h := foldl_relax_offered (l := l) (s := t) (hperm.mem_iff.mp ha)
      rwa [hnew', improves_some] at h
    have hweight : l.weight * a.weight = l.weight * b.weight :=
      le_antisymm (not_lt.mp fun h => hab (Or.inr ⟨rfl, h⟩))
        (not_lt.mp fun h => hba (Or.inr ⟨rfl, h⟩))
    rw [hnew, hnew', Label.along, Label.along, hweight]

/-- Arcs in another order give the same labels, ties being decided alike. -/
theorem foldl_relax_same (hanti : ∀ a b, le a b → le b a → a = b) (hperm : as.Perm bs)
    (has : ByTarget le as) (hbs : ByTarget le bs) (h : Same s t) :
    Same (as.foldl (relax l) s) (bs.foldl (relax l) t) := by
  have hlabel := foldl_relax_label_congr (l := l) hperm h.label
  obtain ⟨added, hqueue, hsub, hadded⟩ := foldl_relax_queue l as s
  obtain ⟨added', hqueue', hsub', hadded'⟩ := foldl_relax_queue l bs t
  refine ⟨funext hlabel, ?_⟩
  rw [hqueue, hqueue']
  refine Sorted.firsts_id_append_congr h.queue (Sorted.firsts_id_congr hanti ?_ ?_ fun v => ?_)
  · exact (List.pairwise_map.mpr has).sublist hsub
  · exact (List.pairwise_map.mpr hbs).sublist hsub'
  · rw [hadded, hadded', hlabel, h.label]

/-- A node that has nothing more to offer changes nothing. -/
theorem expand_offered (hbase : ∀ v l, base v = some l → l.distance ≤ d)
    (h : Sweeping out base d s) (hu : base u = some l) (hd : l.distance = d)
    (hoffered : ∀ a ∈ out u, ¬Improves (l.along a) (s.label a.target)) : expand out s u = s := by
  rw [expand_eq hbase h hu hd]
  generalize out u = as at hoffered
  induction as with
  | nil => rfl
  | cons a as ih =>
    rw [List.foldl_cons, relax_of_not_improves (hoffered a List.mem_cons_self)]
    exact ih fun b hb => hoffered b (List.mem_cons_of_mem _ hb)

/-- Looking at a node again changes nothing. -/
theorem sweep_firsts (hbase : ∀ v l, base v = some l → l.distance ≤ d)
    (h : Sweeping out base d s) (hus : OfLayer base d us) :
    sweep out (Sorted.firsts id us) s = sweep out us s := by
  induction us using List.reverseRecOn with
  | nil => rfl
  | append_singleton us u ih =>
    have hrest : OfLayer base d us := fun v hv => hus v (List.mem_append_left _ hv)
    have hsnoc : ∀ vs : List α, sweep out (vs ++ [u]) s = expand out (sweep out vs s) u := by
      intro vs
      rw [sweep, List.foldl_append]
      rfl
    by_cases hmem : u ∈ us
    · obtain ⟨l, hu, hd⟩ := hus u (List.mem_append_right _ List.mem_cons_self)
      rw [Sorted.firsts_id_snoc_old hmem, ih hrest, hsnoc]
      exact (expand_offered hbase (sweep_sweeping hbase h hrest).1 hu hd fun a ha =>
        sweep_offered hbase h hrest hmem hu ha).symm
    · rw [Sorted.firsts_id_snoc_new hmem, hsnoc, hsnoc, ih hrest]

/-- The arcs out of every node are the same, and come in the order of their targets. -/
structure SameArcs (le : α → α → Prop) (out out' : α → List (Arc α W)) : Prop where
  anti : ∀ a b, le a b → le b a → a = b
  perm : ∀ u, (out u).Perm (out' u)
  left : ∀ u, ByTarget le (out u)
  right : ∀ u, ByTarget le (out' u)

theorem sweep_same (hsame : SameArcs le out out') (hbase : ∀ v l, base v = some l → l.distance ≤ d)
    (hs : Sweeping out base d s) (ht : Sweeping out' base d t) (h : Same s t)
    (hus : OfLayer base d us) : Same (sweep out us s) (sweep out' us t) := by
  induction us generalizing s t with
  | nil => exact h
  | cons u us ih =>
    obtain ⟨l, hu, hd⟩ := hus u List.mem_cons_self
    refine ih (expand_sweeping hbase hs hu hd) (expand_sweeping hbase ht hu hd) ?_
      fun v hv => hus v (List.mem_cons_of_mem _ hv)
    rw [expand_eq hbase hs hu hd, expand_eq hbase ht hu hd]
    exact foldl_relax_same hsame.anti (hsame.perm u) (hsame.left u) (hsame.right u) h

section Layers

variable [One W] {arcs arcs' : List (Arc α W)} {roots : List α} {width width' : Nat}

theorem layers_same (hsame : SameArcs le out out') (harcs : Arcs arcs out)
    (harcs' : Arcs arcs' out') (hs : AtLayer arcs roots d s) (ht : AtLayer arcs' roots d t)
    (h : Same s t) (hops : Nat) : (layers out hops s).label = (layers out' hops t).label := by
  induction hops generalizing d s t with
  | zero => exact h.label
  | succ hops ih =>
    refine ih (hs.next harcs) (ht.next harcs') ?_
    have hfirst : OfLayer s.label d (Sorted.firsts id s.queue) := fun v hv =>
      hs.ofLayer v (Sorted.mem_firsts_id.mp hv)
    have hstart := sweeping_start out d s
    have hstart' := sweeping_start out' d t
    rw [← sweep_firsts hs.bounded hstart hs.ofLayer, ← sweep_firsts ht.bounded hstart' ht.ofLayer,
      ← h.queue]
    refine sweep_same hsame hs.bounded hstart ?_ ⟨h.label, rfl⟩ hfirst
    rwa [← h.label] at hstart' ⊢

/-- Searches along the same arcs label every node alike. -/
theorem search_congr (hsame : SameArcs le out out') (harcs : Arcs arcs out)
    (harcs' : Arcs arcs' out') (hwidth : ∀ u, (out u).length ≤ width)
    (hs : AtLayer arcs roots 0 s) (hs' : AtLayer arcs' roots 0 s) {maxHops fuel fuel' : Nat}
    (hfuel : s.queue.length * entryBound width maxHops ≤ fuel)
    (hwidth' : ∀ u, (out' u).length ≤ width')
    (hfuel' : s.queue.length * entryBound width' maxHops ≤ fuel') :
    (search out maxHops fuel s).label = (search out' maxHops fuel' s).label := by
  have hlayers := search_eq_layers harcs hwidth hs hfuel
  have hlayers' := search_eq_layers harcs' hwidth' hs' hfuel'
  rw [Nat.zero_add] at hlayers hlayers'
  rw [hlayers, hlayers']
  exact layers_same hsame harcs harcs' hs hs' ⟨rfl, rfl⟩ maxHops

end Layers

end Search

end BreadthFirst
