import DeployGuard.Lib.FileSystem
import Mathlib.Data.List.Perm.Subperm

/-!
# Symbolic links resolved with a memo

`os.path.realpath` works on the path itself. It expands the target of a link recursively
and remembers in `seen` where each link came out; a link it meets inside its own target is a
loop. `Follows` says what a path means, one name and one link at a time, and counts the
links. Both lookups agree with it:

> `locate_follows`: what the kernel's walk finds, the path leads to;
> `realpath_iff`: the resolution with the memo finds a place exactly if the path leads there.

The memo is sound because each entry is a meaning of its own link; it hides nothing because
a link under expansion needs more links than what is left of the path.
-/

namespace FileSystem

variable {ν γ : Type} [DecidableEq ν]

/-! ## What a path leads to -/

/-- The steps lead from the directory to the place by so many links. A name that is missing
counts as no link, unless the resolution is strict. -/
inductive Follows (t : Tree ν γ) (strict : Bool) : Nat → Place ν → List (Step ν) → Place ν → Prop
  | done {cur : Place ν} : Follows t strict 0 cur [] cur
  | up {k : Nat} {cur p : Place ν} {rest : List (Step ν)} : Follows t strict k cur.tail rest p →
      Follows t strict k cur (.up :: rest) p
  | down {k : Nat} {name : ν} {cur p : Place ν} {rest : List (Step ν)} :
      ¬t.LinkAt (name :: cur) → (strict = true → t.node (name :: cur) ≠ none) →
      Follows t strict k (name :: cur) rest p → Follows t strict k cur (.down name :: rest) p
  | link {k : Nat} {name : ν} {cur p : Place ν} {rest : List (Step ν)} {target : Path ν} :
      t.node (name :: cur) = some (.link target) →
      Follows t strict k (target.start cur) (target.steps ++ rest) p →
      Follows t strict (k + 1) cur (.down name :: rest) p

/-- A path leads to one place, over one number of links. -/
theorem Follows.unique {t : Tree ν γ} {strict : Bool} {k k' : Nat} {cur p p' : Place ν}
    {steps : List (Step ν)} (h : Follows t strict k cur steps p)
    (h' : Follows t strict k' cur steps p') : k = k' ∧ p = p' := by
  induction h generalizing k' with
  | done =>
    cases h'
    exact ⟨rfl, rfl⟩
  | up _ ih =>
    cases h' with
    | up h' => exact ih h'
  | down hplain _ _ ih =>
    cases h' with
    | down _ _ h' => exact ih h'
    | link hlink _ => exact absurd ⟨_, hlink⟩ hplain
  | link hlink _ ih =>
    cases h' with
    | down hplain _ _ => exact absurd ⟨_, hlink⟩ hplain
    | link hlink' h' =>
      cases hlink.symm.trans hlink'
      obtain ⟨hk, hp⟩ := ih h'
      exact ⟨congrArg (· + 1) hk, hp⟩

/-- Paths are followed one after the other. -/
theorem Follows.append {t : Tree ν γ} {strict : Bool} {k k' : Nat} {cur m p : Place ν}
    {xs ys : List (Step ν)} (h : Follows t strict k cur xs m) (h' : Follows t strict k' m ys p) :
    Follows t strict (k + k') cur (xs ++ ys) p := by
  induction h with
  | done =>
    rw [Nat.zero_add]
    exact h'
  | up _ ih => exact .up (ih h')
  | down hplain hsome _ ih => exact .down hplain hsome (ih h')
  | @link k name cur p rest target hlink _ ih =>
    have hrest := ih h'
    rw [List.append_assoc] at hrest
    rw [Nat.add_right_comm]
    exact .link hlink hrest

/-- A path is followed up to any of its steps. -/
theorem Follows.split {t : Tree ν γ} {strict : Bool} {k : Nat} {cur p : Place ν}
    {steps : List (Step ν)} (h : Follows t strict k cur steps p) :
    ∀ {xs ys : List (Step ν)}, steps = xs ++ ys →
      ∃ m k₁ k₂, k = k₁ + k₂ ∧ Follows t strict k₁ cur xs m ∧ Follows t strict k₂ m ys p := by
  induction h with
  | @done cur =>
    intro xs ys hsteps
    obtain ⟨rfl, rfl⟩ := List.append_eq_nil_iff.mp hsteps.symm
    exact ⟨cur, 0, 0, rfl, .done, .done⟩
  | @up k cur p rest h ih =>
    intro xs ys hsteps
    cases xs with
    | nil =>
      subst hsteps
      exact ⟨cur, 0, k, (Nat.zero_add k).symm, .done, .up h⟩
    | cons step xs =>
      obtain ⟨rfl, hrest⟩ := List.cons.inj hsteps
      obtain ⟨m, k₁, k₂, hk, hxs, hys⟩ := ih hrest
      exact ⟨m, k₁, k₂, hk, .up hxs, hys⟩
  | @down k name cur p rest hplain hsome h ih =>
    intro xs ys hsteps
    cases xs with
    | nil =>
      subst hsteps
      exact ⟨cur, 0, k, (Nat.zero_add k).symm, .done, .down hplain hsome h⟩
    | cons step xs =>
      obtain ⟨rfl, hrest⟩ := List.cons.inj hsteps
      obtain ⟨m, k₁, k₂, hk, hxs, hys⟩ := ih hrest
      exact ⟨m, k₁, k₂, hk, .down hplain hsome hxs, hys⟩
  | @link k name cur p rest target hlink h ih =>
    intro xs ys hsteps
    cases xs with
    | nil =>
      subst hsteps
      exact ⟨cur, 0, k + 1, (Nat.zero_add _).symm, .done, .link hlink h⟩
    | cons step xs =>
      obtain ⟨rfl, hrest⟩ := List.cons.inj hsteps
      subst hrest
      obtain ⟨m, k₁, k₂, hk, hxs, hys⟩ := ih (List.append_assoc target.steps xs ys).symm
      exact ⟨m, k₁ + 1, k₂, by omega, .link hlink hxs, hys⟩

/-- A tree that has only grown leads a path to the same place. -/
theorem Follows.grown {t t' : Tree ν γ} {strict : Bool} {k : Nat} {cur p : Place ν}
    {steps : List (Step ν)} (h : Follows t strict k cur steps p) (hgrown : Grown t t') :
    Follows t' strict k cur steps p := by
  induction h with
  | done => exact .done
  | up _ ih => exact .up ih
  | down hplain hsome _ ih =>
    refine .down (fun hlink => hplain (hgrown.linkAt.mp hlink)) (fun hstrict hnone => ?_) ih
    exact hsome hstrict (hgrown.missing hnone)
  | link hlink _ ih => exact .link (hgrown.link.mpr hlink) ih

/-- No link leads to the place. -/
def Physical (t : Tree ν γ) (place : Place ν) : Prop := ∀ above, above <:+ place → ¬t.LinkAt above

/-- The root is a physical place. -/
theorem Physical.nil (t : Tree ν γ) : Physical t [] := by
  intro above habove
  rw [List.suffix_nil.mp habove]
  rintro ⟨target, hlink⟩
  cases hlink

/-- A path starts at a physical place. -/
theorem Physical.start {t : Tree ν γ} {cur : Place ν} (h : Physical t cur) (path : Path ν) :
    Physical t (path.start cur) := by
  unfold Path.start
  split
  · exact .nil t
  · exact h

/-- A name that is no link leads from one physical place to another. -/
theorem Physical.cons {t : Tree ν γ} {name : ν} {place : Place ν} (h : Physical t place)
    (hplain : ¬t.LinkAt (name :: place)) : Physical t (name :: place) := by
  intro above habove
  rcases List.suffix_cons_iff.mp habove with rfl | hbelow
  · exact hplain
  · exact h above hbelow

/-- A physical place stays one. -/
theorem Physical.grown {t t' : Tree ν γ} {place : Place ν} (h : Physical t place)
    (hgrown : Grown t t') : Physical t' place :=
  fun above habove hlink => h above habove (hgrown.linkAt.mp hlink)

/-- A path leads from a physical place to one. -/
theorem Follows.physical {t : Tree ν γ} {strict : Bool} {k : Nat} {cur p : Place ν}
    {steps : List (Step ν)} (h : Follows t strict k cur steps p) (hcur : Physical t cur) :
    Physical t p := by
  induction h with
  | done => exact hcur
  | @up _ cur _ _ _ ih =>
    exact ih fun above habove => hcur above (habove.trans (List.tail_suffix cur))
  | down hplain _ _ ih => exact ih (hcur.cons hplain)
  | @link _ _ _ _ _ target _ _ ih => exact ih (hcur.start target)

/-- What a strict resolution leads to is there. -/
theorem Follows.exists {t : Tree ν γ} {k : Nat} {cur p : Place ν} {steps : List (Step ν)}
    (h : Follows t true k cur steps p) (hcur : t.node cur ≠ none) : t.node p ≠ none := by
  have htail : ∀ place : Place ν, t.node place ≠ none → t.node place.tail ≠ none := by
    intro place hplace
    cases place with
    | nil => exact hplace
    | cons name place => rw [List.tail_cons, Tree.parent hplace]; nofun
  generalize hstrict : true = strict at h
  induction h with
  | done => exact hcur
  | @up _ cur _ _ _ ih => exact ih (htail cur hcur)
  | down _ hsome _ ih => exact ih (hsome hstrict.symm)
  | @link _ name cur _ _ target hlink _ ih =>
    refine ih ?_
    unfold Path.start
    split
    · nofun
    · exact hcur

/-- What is walked is followed. -/
theorem Tree.walk_follows {t : Tree ν γ} {strict : Bool} {links : Nat} {p : Place ν}
    {jump : Place ν → List (Step ν) → Except Errno (Place ν)}
    (hp : strict = true → t.node p ≠ none)
    (hjump : ∀ cur steps, jump cur steps = .ok p →
      ∃ k, k + 1 ≤ links ∧ Follows t strict k cur steps p) {steps : List (Step ν)} :
    ∀ {cur : Place ν}, t.walk true jump cur steps = .ok p →
      ∃ k ≤ links, Follows t strict k cur steps p := by
  induction steps with
  | nil =>
    intro cur h
    obtain rfl := Except.ok.inj h
    exact ⟨0, Nat.zero_le _, .done⟩
  | cons step rest ih =>
    intro cur h
    cases step with
    | up =>
      obtain ⟨k, hk, hfollows⟩ := ih h
      exact ⟨k, hk, .up hfollows⟩
    | down name =>
      rw [Tree.walk] at h
      split at h
      · next hdir =>
        have hplain : ¬t.LinkAt (name :: cur) := by
          rintro ⟨target, hlink⟩
          cases hdir.symm.trans hlink
        have hsome : strict = true → t.node (name :: cur) ≠ none := by
          intro _ hnone
          cases hdir.symm.trans hnone
        obtain ⟨k, hk, hfollows⟩ := ih h
        exact ⟨k, hk, .down hplain hsome hfollows⟩
      · next hfile =>
        split at h
        · next hlast =>
          obtain rfl := Except.ok.inj h
          subst hlast
          have hplain : ¬t.LinkAt (name :: cur) := by
            rintro ⟨target, hlink⟩
            cases hfile.symm.trans hlink
          exact ⟨0, Nat.zero_le _, .down hplain hp .done⟩
        · cases h
      · next target hlink =>
        rw [if_neg fun hlast => Bool.noConfusion hlast.2] at h
        obtain ⟨k, hk, hfollows⟩ := hjump _ _ h
        exact ⟨k + 1, hk, .link hlink hfollows⟩
      · next hnone =>
        split at h
        · next hlast =>
          obtain rfl := Except.ok.inj h
          subst hlast
          have hplain : ¬t.LinkAt (name :: cur) := by
            rintro ⟨target, hlink⟩
            cases hnone.symm.trans hlink
          exact ⟨0, Nat.zero_le _, .down hplain hp .done⟩
        · cases h

/-- What the kernel's walk finds, the path leads to. -/
theorem Tree.locate_follows {t : Tree ν γ} {strict : Bool} {links : Nat} {cur p : Place ν}
    {steps : List (Step ν)} (hp : strict = true → t.node p ≠ none)
    (h : t.locate true links cur steps = .ok p) : ∃ k ≤ links, Follows t strict k cur steps p := by
  induction links generalizing cur steps with
  | zero =>
    refine Tree.walk_follows hp (fun _ _ hjump => ?_) h
    cases hjump
  | succ links ih =>
    refine Tree.walk_follows hp (fun cur steps hjump => ?_) h
    obtain ⟨k, hk, hfollows⟩ := ih hjump
    exact ⟨k, Nat.succ_le_succ hk, hfollows⟩

/-! ## The resolution with the memo -/

/-- Where each link came out; a link with no value is under expansion. -/
abbrev Seen (ν : Type) := Dict (Place ν) (Option (Place ν))

/-- A place, or a link inside its own target and the steps after it. -/
inductive Real (ν : Type) where
  | place (p : Place ν)
  | stuck (p : Place ν) (rest : List (Step ν))
  deriving DecidableEq

/-- Why `lstat` fails on a name that is not there. -/
def Tree.missing (t : Tree ν γ) (cur : Place ν) : Errno :=
  match t.node cur with
  | some (.file _) => .enotdir
  | _ => .enoent

/-- The loop of `_joinrealpath` over the steps; `expand` is the call on a link's target. -/
def Tree.joinSteps (t : Tree ν γ) (strict : Bool)
    (expand : Seen ν → Place ν → Path ν → Except Errno (Real ν × Seen ν)) :
    Seen ν → Place ν → List (Step ν) → Except Errno (Real ν × Seen ν)
  | seen, cur, [] => .ok (.place cur, seen)
  | seen, cur, .up :: rest => t.joinSteps strict expand seen cur.tail rest
  | seen, cur, .down name :: rest =>
    match t.node (name :: cur) with
    | some (.link target) =>
      match Dict.get? seen (name :: cur) with
      | some (some p) => t.joinSteps strict expand seen p rest
      | some none =>
        if strict then .error .eloop else .ok (.stuck (name :: cur) rest, seen)
      | none =>
        match expand (Dict.set seen (name :: cur) none) cur target with
        | .error e => .error e
        | .ok (.stuck p rest', seen') => .ok (.stuck p (rest' ++ rest), seen')
        | .ok (.place p, seen') =>
          t.joinSteps strict expand (Dict.set seen' (name :: cur) (some p)) p rest
    | some _ => t.joinSteps strict expand seen (name :: cur) rest
    | none =>
      if strict then .error (t.missing cur) else t.joinSteps strict expand seen (name :: cur) rest

/-- `_joinrealpath`, to so many links within links. -/
def Tree.joinReal (t : Tree ν γ) (strict : Bool) :
    Nat → Seen ν → Place ν → Path ν → Except Errno (Real ν × Seen ν)
  | 0, _, _, _ => .error .eloop
  | depth + 1, seen, cur, path =>
    t.joinSteps strict (t.joinReal strict depth) seen (path.start cur) path.steps

/-- `os.path.realpath`, before what is stuck is made absolute: links nest no deeper than there
are entries. -/
def Tree.realpath (t : Tree ν γ) (strict : Bool) (cur : Place ν) (path : Path ν) :
    Except Errno (Real ν) :=
  match t.joinReal strict (t.entries.length + 1) [] cur path with
  | .error e => .error e
  | .ok (real, _) => .ok real

/-- Each entry of the memo is what its link leads to. -/
def SeenOk (t : Tree ν γ) (strict : Bool) (seen : Seen ν) : Prop :=
  ∀ place p, Dict.get? seen place = some (some p) → ∃ target k,
    t.node place = some (.link target) ∧
      Follows t strict k (target.start place.tail) target.steps p

/-- A link being expanded has no place yet. -/
theorem SeenOk.open {t : Tree ν γ} {strict : Bool} {seen : Seen ν} (h : SeenOk t strict seen)
    (place : Place ν) : SeenOk t strict (Dict.set seen place none) := by
  intro q p hq
  rw [Dict.get?_set] at hq
  split at hq
  · cases hq
  · exact h q p hq

/-- Once expanded it has the place it leads to. -/
theorem SeenOk.close {t : Tree ν γ} {strict : Bool} {seen : Seen ν} (h : SeenOk t strict seen)
    {place p : Place ν} {target : Path ν} {k : Nat} (hlink : t.node place = some (.link target))
    (hfollows : Follows t strict k (target.start place.tail) target.steps p) :
    SeenOk t strict (Dict.set seen place (some p)) := by
  intro q p' hq
  rw [Dict.get?_set] at hq
  split at hq
  · next hplace =>
    subst hplace
    cases hq
    exact ⟨target, k, hlink, hfollows⟩
  · exact h q p' hq

/-- The soundness of one loop, from that of the calls it makes. -/
theorem Tree.joinSteps_follows {t : Tree ν γ} {strict : Bool} {seen' : Seen ν} {p : Place ν}
    {expand : Seen ν → Place ν → Path ν → Except Errno (Real ν × Seen ν)}
    (hexpand : ∀ seen cur path p seen', SeenOk t strict seen →
      expand seen cur path = .ok (.place p, seen') →
      SeenOk t strict seen' ∧ ∃ k, Follows t strict k (path.start cur) path.steps p)
    {steps : List (Step ν)} :
    ∀ {seen : Seen ν} {cur : Place ν}, SeenOk t strict seen →
      t.joinSteps strict expand seen cur steps = .ok (.place p, seen') →
      SeenOk t strict seen' ∧ ∃ k, Follows t strict k cur steps p := by
  induction steps with
  | nil =>
    intro seen cur hseen h
    cases h
    exact ⟨hseen, 0, .done⟩
  | cons step rest ih =>
    intro seen cur hseen h
    cases step with
    | up =>
      obtain ⟨hseen', k, hfollows⟩ := ih hseen h
      exact ⟨hseen', k, .up hfollows⟩
    | down name =>
      rw [Tree.joinSteps] at h
      split at h
      · next target hlink =>
        -- the rest is taken from where the link came out
        have hrest : ∀ {seen : Seen ν} {m : Place ν} {k : Nat}, SeenOk t strict seen →
            Follows t strict k (target.start cur) target.steps m →
            t.joinSteps strict expand seen m rest = .ok (.place p, seen') →
            SeenOk t strict seen' ∧ ∃ k, Follows t strict k cur (.down name :: rest) p := by
          intro seen m k hseen htarget hgoes
          obtain ⟨hseen', k', hfollows⟩ := ih hseen hgoes
          exact ⟨hseen', k + k' + 1, .link hlink (htarget.append hfollows)⟩
        split at h
        · next m hmemo =>
          obtain ⟨target', k, hlink', htarget⟩ := hseen _ _ hmemo
          cases hlink.symm.trans hlink'
          exact hrest hseen htarget h
        · split at h
          · cases h
          · cases h
        · split at h
          · cases h
          · cases h
          · next m seen₁ hcall =>
            obtain ⟨hseen₁, k, htarget⟩ := hexpand _ _ _ _ _ (hseen.open _) hcall
            exact hrest (hseen₁.close hlink htarget) htarget h
      · next n hnolink hnode =>
        obtain ⟨hseen', k, hfollows⟩ := ih hseen h
        refine ⟨hseen', k, .down ?_ (fun _ => by rw [hnode]; nofun) hfollows⟩
        rintro ⟨target, hlink⟩
        cases hnode.symm.trans hlink
        exact hnolink target rfl
      · next hnone =>
        split at h
        · cases h
        · next hlax =>
          obtain ⟨hseen', k, hfollows⟩ := ih hseen h
          refine ⟨hseen', k, .down ?_ (fun hstrict => absurd hstrict hlax) hfollows⟩
          rintro ⟨target, hlink⟩
          cases hnone.symm.trans hlink

/-- What `realpath` returns is followed. -/
theorem Tree.joinReal_follows {t : Tree ν γ} {strict : Bool} {depth : Nat} {seen seen' : Seen ν}
    {cur p : Place ν} {path : Path ν} (hseen : SeenOk t strict seen)
    (h : t.joinReal strict depth seen cur path = .ok (.place p, seen')) :
    SeenOk t strict seen' ∧ ∃ k, Follows t strict k (path.start cur) path.steps p := by
  induction depth generalizing seen cur path p seen' with
  | zero => cases h
  | succ depth ih => exact Tree.joinSteps_follows (fun _ _ _ _ _ hseen h => ih hseen h) hseen h

/-- The memo with the links under expansion, each of which needs more links than the `k` left. -/
structure Expanding (t : Tree ν γ) (strict : Bool) (seen : Seen ν) (stack : List (Place ν))
    (k : Nat) : Prop where
  sound : SeenOk t strict seen
  open_iff : ∀ place, Dict.get? seen place = some none ↔ place ∈ stack
  nodup : stack.Nodup
  larger : ∀ place ∈ stack, ∃ target m k', t.node place = some (.link target) ∧
    Follows t strict k' (target.start place.tail) target.steps m ∧ k ≤ k'

/-- Fewer links ahead can be expanded as well. -/
theorem Expanding.mono {t : Tree ν γ} {strict : Bool} {seen : Seen ν} {stack : List (Place ν)}
    {k k' : Nat} (h : Expanding t strict seen stack k) (hk : k' ≤ k) :
    Expanding t strict seen stack k' := by
  refine ⟨h.sound, h.open_iff, h.nodup, fun place hplace => ?_⟩
  obtain ⟨target, m, k'', hlink, hfollows, hle⟩ := h.larger place hplace
  exact ⟨target, m, k'', hlink, hfollows, Nat.le_trans hk hle⟩

/-- A link that is not on the stack can be expanded. -/
theorem Expanding.open {t : Tree ν γ} {strict : Bool} {seen : Seen ν} {stack : List (Place ν)}
    {k : Nat} {place m : Place ν} {target : Path ν} (h : Expanding t strict seen stack k)
    (hplace : place ∉ stack) (hlink : t.node place = some (.link target))
    (hfollows : Follows t strict k (target.start place.tail) target.steps m) :
    Expanding t strict (Dict.set seen place none) (place :: stack) k := by
  refine ⟨h.sound.open place, fun q => ?_, List.nodup_cons.mpr ⟨hplace, h.nodup⟩, fun q hq => ?_⟩
  · rw [Dict.get?_set, List.mem_cons]
    split
    · next heq => exact iff_of_true rfl (Or.inl heq.symm)
    · next hne =>
      rw [h.open_iff]
      exact ⟨Or.inr, fun hq => hq.resolve_left fun heq => hne heq.symm⟩
  · rcases List.mem_cons.mp hq with rfl | hq
    · exact ⟨target, m, k, hlink, hfollows, Nat.le_refl k⟩
    · exact h.larger q hq

/-- Once expanded it is taken off the stack. -/
theorem Expanding.close {t : Tree ν γ} {strict : Bool} {seen seen' : Seen ν}
    {stack : List (Place ν)} {k k' : Nat} {place m : Place ν} {target : Path ν}
    (h : Expanding t strict seen stack k) (hplace : place ∉ stack) (hsound : SeenOk t strict seen')
    (hopen : ∀ q, Dict.get? seen' q = some none ↔ q ∈ place :: stack)
    (hlink : t.node place = some (.link target))
    (hfollows : Follows t strict k' (target.start place.tail) target.steps m) :
    Expanding t strict (Dict.set seen' place (some m)) stack k := by
  refine ⟨hsound.close hlink hfollows, fun q => ?_, h.nodup, h.larger⟩
  rw [Dict.get?_set]
  split
  · next heq =>
    subst heq
    refine iff_of_false (fun hnone => ?_) hplace
    cases hnone
  · next hne =>
    rw [hopen, List.mem_cons]
    exact ⟨fun hq => hq.resolve_left fun heq => hne heq.symm, Or.inr⟩

/-- The completeness of one loop, from that of the calls it makes. -/
theorem Tree.joinSteps_complete {t : Tree ν γ} {strict : Bool} {stack : List (Place ν)}
    {expand : Seen ν → Place ν → Path ν → Except Errno (Real ν × Seen ν)}
    (hexpand : ∀ seen place path m k, place ∉ stack → t.node place = some (.link path) →
      Expanding t strict seen (place :: stack) k →
      Follows t strict k (path.start place.tail) path.steps m →
      ∃ seen', expand seen place.tail path = .ok (.place m, seen') ∧
        SeenOk t strict seen' ∧ ∀ q, Dict.get? seen' q = some none ↔ q ∈ place :: stack)
    {steps : List (Step ν)} :
    ∀ {seen : Seen ν} {cur p : Place ν} {k : Nat}, Expanding t strict seen stack k →
      Follows t strict k cur steps p →
      ∃ seen', t.joinSteps strict expand seen cur steps = .ok (.place p, seen') ∧
        SeenOk t strict seen' ∧ ∀ q, Dict.get? seen' q = some none ↔ q ∈ stack := by
  induction steps with
  | nil =>
    intro seen cur p k hexp h
    cases h
    exact ⟨seen, rfl, hexp.sound, hexp.open_iff⟩
  | cons step rest ih =>
    intro seen cur p k hexp h
    cases h with
    | up h => exact ih hexp h
    | @down _ name _ _ _ hplain hsome h =>
      obtain ⟨seen', hcall, hseen'⟩ := ih hexp h
      refine ⟨seen', ?_, hseen'⟩
      rw [Tree.joinSteps]
      split
      · next target hlink => exact absurd ⟨target, hlink⟩ hplain
      · exact hcall
      · next hnone =>
        rw [if_neg fun hstrict => hsome hstrict hnone]
        exact hcall
    | @link k name _ _ _ target hlink h =>
      obtain ⟨m, k₁, k₂, rfl, htarget, hrest⟩ := h.split rfl
      rw [Tree.joinSteps, hlink]
      dsimp only
      split
      · next m' hmemo =>
        obtain ⟨target', k', hlink', htarget'⟩ := hexp.sound _ _ hmemo
        cases hlink.symm.trans hlink'
        obtain ⟨-, rfl⟩ := htarget.unique htarget'
        exact ih (hexp.mono (by omega)) hrest
      · next hopen =>
        -- a link under expansion needs more links than are left
        obtain ⟨target', m', k', hlink', htarget', hle⟩ := hexp.larger _ ((hexp.open_iff _).mp hopen)
        cases hlink.symm.trans hlink'
        obtain ⟨rfl, -⟩ := htarget.unique htarget'
        omega
      · next hnew =>
        have hstack : name :: cur ∉ stack := by
          intro hmem
          cases hnew.symm.trans ((hexp.open_iff _).mpr hmem)
        obtain ⟨seen', hcall, hsound, hopen⟩ := hexpand _ _ target m k₁ hstack hlink
          ((hexp.mono (by omega)).open hstack hlink htarget) htarget
        rw [show expand (Dict.set seen (name :: cur) none) cur target = _ from hcall]
        exact ih ((hexp.mono (by omega)).close hstack hsound hopen hlink htarget) hrest

/-- Links nest no deeper than there are entries, so the resolution comes to an end. -/
theorem Tree.joinReal_complete {t : Tree ν γ} {strict : Bool} {depth : Nat} {seen : Seen ν}
    {stack : List (Place ν)} {k : Nat} {cur p : Place ν} {path : Path ν}
    (hdepth : stack.length + depth = t.entries.length + 1) (hexp : Expanding t strict seen stack k)
    (h : Follows t strict k (path.start cur) path.steps p) :
    ∃ seen', t.joinReal strict depth seen cur path = .ok (.place p, seen') ∧
      SeenOk t strict seen' ∧ ∀ q, Dict.get? seen' q = some none ↔ q ∈ stack := by
  induction depth generalizing seen stack k cur path p with
  | zero =>
    have hkeys : stack ⊆ Dict.keys t.entries := by
      intro place hplace
      obtain ⟨target, -, -, hlink, -, -⟩ := hexp.larger place hplace
      cases place with
      | nil => cases hlink
      | cons name place =>
        refine Dict.get?_isSome.mp ?_
        rw [show Dict.get? t.entries (name :: place) = _ from hlink]
        rfl
    have hle := (hexp.nodup.subperm hkeys).length_le
    rw [Dict.keys, List.length_map] at hle
    omega
  | succ depth ih =>
    refine Tree.joinSteps_complete (fun seen place path m k hplace hlink hexp h => ?_) hexp h
    refine ih ?_ hexp h
    rw [List.length_cons]
    omega

/-- The resolution with the memo finds a place exactly if the path leads there. -/
theorem Tree.realpath_iff {t : Tree ν γ} {strict : Bool} {cur p : Place ν} {path : Path ν} :
    t.realpath strict cur path = .ok (.place p) ↔
      ∃ k, Follows t strict k (path.start cur) path.steps p := by
  have hnone : ∀ (q : Place ν) (p : Option (Place ν)), Dict.get? ([] : Seen ν) q ≠ some p :=
    fun _ _ => nofun
  constructor
  · intro h
    unfold Tree.realpath at h
    split at h
    · cases h
    · next real seen' hcall =>
      cases h
      exact (Tree.joinReal_follows (fun q p hq => absurd hq (hnone q _)) hcall).2
  · rintro ⟨k, h⟩
    have hexp : Expanding t strict [] [] k :=
      ⟨fun q p hq => absurd hq (hnone q _), fun q => iff_of_false (hnone q _) List.not_mem_nil,
        List.nodup_nil, fun _ hq => absurd hq List.not_mem_nil⟩
    obtain ⟨seen', hcall, -⟩ := Tree.joinReal_complete (Nat.zero_add _) hexp h
    unfold Tree.realpath
    rw [hcall]

/-! ## Places by their own names -/

/-- A physical place is found under its own names. -/
theorem Physical.find {t : Tree ν γ} {place : Place ν} (h : Physical t place)
    (hdir : t.node place.tail = some .dir) (follow : Bool) :
    t.find follow (trailOf place) = .ok place := by
  induction place generalizing follow with
  | nil =>
    unfold Tree.find
    cases maxLinks <;> rfl
  | cons name place ih =>
    refine Tree.find_cons_of hdir (Or.inr (h _ List.suffix_rfl)) (ih ?_ (Tree.dir_tail hdir) true)
    exact fun above habove => h above (habove.trans (List.suffix_cons name place))

end FileSystem
