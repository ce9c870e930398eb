import DeployGuard.Lib.Dict

/-!
# A file system with symbolic links

A tree of directories, files and links. A place is the list of the names that lead to it,
the last one first: its parent is its tail, and "inside `root`" is `root <:+ place`. That
whatever is in the tree is in a directory is a field.

Names are looked up as a kernel does it. `locate` walks the steps of a path and splices in
the target of each link it meets, forty of them at most; the last name may be missing, so
what it returns is where a node is or could be put. An operation either changes the one
node `locate` gives, or fails and changes nothing.

> `locate_grown`: a tree that has only grown finds every place again.
-/

namespace FileSystem

variable {ν γ : Type}

/-- The names that lead to a node, the last one first. -/
abbrev Place (ν : Type) := List ν

/-- `..` or a name. -/
inductive Step (ν : Type) where
  | up
  | down (name : ν)
  deriving DecidableEq

structure Path (ν : Type) where
  absolute : Bool
  steps : List (Step ν)
  deriving DecidableEq

/-- Where a path that is met in the directory `cur` starts. -/
def Path.start (path : Path ν) (cur : Place ν) : Place ν := if path.absolute then [] else cur

inductive Node (ν γ : Type) where
  | dir
  | file (content : γ)
  | link (target : Path ν)
  deriving DecidableEq

/-- A node without what is in it. -/
def Node.kind : Node ν γ → Node ν Unit
  | .dir => .dir
  | .file _ => .file ()
  | .link target => .link target

section Trees

variable [DecidableEq ν]

/-- The node at a place; the root is a directory. -/
def nodeIn (entries : Dict (Place ν) (Node ν γ)) : Place ν → Option (Node ν γ)
  | [] => some .dir
  | name :: place => Dict.get? entries (name :: place)

/-- A file system. -/
structure Tree (ν γ : Type) [DecidableEq ν] where
  entries : Dict (Place ν) (Node ν γ)
  closed : ∀ place ∈ Dict.keys entries, nodeIn entries place.tail = some .dir

def Tree.node (t : Tree ν γ) (place : Place ν) : Option (Node ν γ) := nodeIn t.entries place

/-- The root is a directory. -/
@[simp] theorem Tree.node_nil (t : Tree ν γ) : t.node [] = some .dir := rfl

/-- What is in the tree is in a directory. -/
theorem Tree.parent {t : Tree ν γ} {name : ν} {place : Place ν}
    (h : t.node (name :: place) ≠ none) : t.node place = some .dir := by
  have hkey : name :: place ∈ Dict.keys t.entries :=
    Dict.get?_isSome.mp (Option.isSome_iff_ne_none.mpr h)
  exact t.closed _ hkey

/-- There is nothing below what is not there. -/
theorem Tree.node_below {t : Tree ν γ} {name : ν} {place : Place ν}
    (h : t.node place ≠ some .dir) : t.node (name :: place) = none := by
  by_contra hsome
  exact h (Tree.parent hsome)

/-- What holds a directory is a directory. -/
theorem Tree.dir_tail {t : Tree ν γ} {place : Place ν} (h : t.node place = some .dir) :
    t.node place.tail = some .dir := by
  cases place with
  | nil => rfl
  | cons name place =>
    have hsome : t.node (name :: place) ≠ none := by
      rw [h]
      nofun
    exact Tree.parent hsome

/-- Setting an entry changes that entry only. -/
theorem nodeIn_set {entries : Dict (Place ν) (Node ν γ)} {place : Place ν} {n : Node ν γ}
    (h : place = [] → n = .dir) (q : Place ν) :
    nodeIn (Dict.set entries place n) q = if place = q then some n else nodeIn entries q := by
  cases q with
  | nil =>
    split
    · next hnil => rw [h hnil, nodeIn]
    · rfl
  | cons name q =>
    unfold nodeIn
    exact Dict.get?_set entries place n (name :: q)

/-- `n` at a place in a directory. A directory that is there stays one. -/
def Tree.put (t : Tree ν γ) (place : Place ν) (n : Node ν γ) (hdir : t.node place.tail = some .dir)
    (hleaf : n = .dir ∨ t.node place ≠ some .dir) : Tree ν γ where
  entries := Dict.set t.entries place n
  closed := by
    have hroot : place = [] → n = .dir := by
      rintro rfl
      exact hleaf.resolve_right fun h => h rfl
    intro q hq
    rw [nodeIn_set hroot]
    rcases Dict.mem_keys_set.mp hq with rfl | hold
    · split
      · next hself =>
        -- a place that is its own parent is the root
        cases q with
        | nil => rw [hroot rfl]
        | cons name q => exact absurd (congrArg List.length hself) (by simp)
      · exact hdir
    · split
      · next hparent =>
        exact congrArg some (hleaf.resolve_right fun h => h (hparent ▸ t.closed q hold))
      · exact t.closed q hold

/-- Putting a node changes that place only. -/
theorem Tree.node_put {t : Tree ν γ} {place : Place ν} {n : Node ν γ}
    {hdir : t.node place.tail = some .dir} {hleaf : n = .dir ∨ t.node place ≠ some .dir}
    (q : Place ν) : (t.put place n hdir hleaf).node q = if place = q then some n else t.node q := by
  refine nodeIn_set ?_ q
  rintro rfl
  exact hleaf.resolve_right fun h => h rfl

/-! ## Looking names up -/

inductive Errno where
  | enoent
  | enotdir
  | eexist
  | eisdir
  | eloop
  deriving DecidableEq

/-- The walk over the steps of a path from a directory. What is to be done at a link is `jump`. -/
def Tree.walk (t : Tree ν γ) (follow : Bool)
    (jump : Place ν → List (Step ν) → Except Errno (Place ν)) :
    Place ν → List (Step ν) → Except Errno (Place ν)
  | cur, [] => .ok cur
  | cur, .up :: rest => t.walk follow jump cur.tail rest
  | cur, .down name :: rest =>
    match t.node (name :: cur) with
    | some .dir => t.walk follow jump (name :: cur) rest
    | some (.file _) => if rest = [] then .ok (name :: cur) else .error .enotdir
    | some (.link target) =>
      if rest = [] ∧ follow = false then .ok (name :: cur)
      else jump (target.start cur) (target.steps ++ rest)
    | none => if rest = [] then .ok (name :: cur) else .error .enoent

/-- The walk that follows so many links, and the last name's too or not. -/
def Tree.locate (t : Tree ν γ) (follow : Bool) :
    Nat → Place ν → List (Step ν) → Except Errno (Place ν)
  | 0 => t.walk follow fun _ _ => .error .eloop
  | links + 1 => t.walk follow (t.locate follow links)

/-- The walk finds places whose parents are directories. -/
theorem Tree.walk_parent {t : Tree ν γ} {follow : Bool}
    {jump : Place ν → List (Step ν) → Except Errno (Place ν)}
    (hjump : ∀ cur steps p, t.node cur = some .dir → jump cur steps = .ok p →
      t.node p.tail = some .dir) {steps : List (Step ν)} :
    ∀ {cur p : Place ν}, t.node cur = some .dir → t.walk follow jump cur steps = .ok p →
      t.node p.tail = some .dir := by
  induction steps with
  | nil =>
    intro cur p hcur h
    obtain rfl := Except.ok.inj h
    exact Tree.dir_tail hcur
  | cons step rest ih =>
    intro cur p hcur h
    cases step with
    | up => exact ih (Tree.dir_tail hcur) h
    | down name =>
      unfold Tree.walk at h
      split at h
      · next hdir => exact ih hdir h
      · split at h
        · obtain rfl := Except.ok.inj h
          exact hcur
        · cases h
      · split at h
        · obtain rfl := Except.ok.inj h
          exact hcur
        · refine hjump _ _ _ ?_ h
          unfold Path.start
          split
          · rfl
          · exact hcur
      · split at h
        · obtain rfl := Except.ok.inj h
          exact hcur
        · cases h

/-- What is located lies in a directory. -/
theorem Tree.locate_parent {t : Tree ν γ} {follow : Bool} {steps : List (Step ν)}
    {cur p : Place ν} {links : Nat} (hcur : t.node cur = some .dir)
    (h : t.locate follow links cur steps = .ok p) : t.node p.tail = some .dir := by
  induction links generalizing cur steps p with
  | zero =>
    refine Tree.walk_parent (fun _ _ _ _ hjump => ?_) hcur h
    cases hjump
  | succ links ih => exact Tree.walk_parent (fun _ _ _ hcur h => ih hcur h) hcur h

/-- There is a link at the place. -/
def Tree.LinkAt (t : Tree ν γ) (place : Place ν) : Prop :=
  ∃ target, t.node place = some (.link target)

/-- A path starts at a directory. -/
theorem Path.start_dir {t : Tree ν γ} {cur : Place ν} (hcur : t.node cur = some .dir)
    (target : Path ν) : t.node (target.start cur) = some .dir := by
  unfold Path.start
  split
  · rfl
  · exact hcur

/-- A walk to a name walked to the name's directory; it went on from there only by a link. -/
theorem Tree.walk_concat {t : Tree ν γ} {follow : Bool}
    {jump jump' : Place ν → List (Step ν) → Except Errno (Place ν)} {name : ν} {p : Place ν}
    (hjump : ∀ cur steps, t.node cur = some .dir → jump cur (steps ++ [.down name]) = .ok p →
      ∃ d, jump' cur steps = .ok d ∧ t.node d = some .dir ∧
        (p = name :: d ∨ follow = true ∧ t.LinkAt (name :: d))) {steps : List (Step ν)} :
    ∀ {cur : Place ν}, t.node cur = some .dir →
      t.walk follow jump cur (steps ++ [.down name]) = .ok p →
      ∃ d, t.walk true jump' cur steps = .ok d ∧ t.node d = some .dir ∧
        (p = name :: d ∨ follow = true ∧ t.LinkAt (name :: d)) := by
  induction steps with
  | nil =>
    intro cur hcur h
    refine ⟨cur, rfl, hcur, ?_⟩
    rw [List.nil_append, Tree.walk] at h
    split at h
    · exact Or.inl (Except.ok.inj h).symm
    · exact Or.inl (Except.ok.inj h).symm
    · next target hlink =>
      cases follow with
      | true => exact Or.inr ⟨rfl, target, hlink⟩
      | false => exact Or.inl (Except.ok.inj h).symm
    · exact Or.inl (Except.ok.inj h).symm
  | cons step rest ih =>
    intro cur hcur h
    have hne : rest ++ [Step.down name] ≠ [] := by simp
    cases step with
    | up => exact ih (Tree.dir_tail hcur) h
    | down first =>
      rw [List.cons_append, Tree.walk] at h
      rw [Tree.walk]
      split at h
      · next hdir => exact ih hdir h
      · rw [if_neg hne] at h
        cases h
      · next target hlink =>
        rw [if_neg fun hlast => hne hlast.1, ← List.append_assoc] at h
        rw [if_neg fun hlast => Bool.noConfusion hlast.2]
        exact hjump _ _ (Path.start_dir hcur target) h
      · rw [if_neg hne] at h
        cases h

/-- A walk to a directory goes on to a name in it, where no link is to be followed. -/
theorem Tree.walk_concat_of {t : Tree ν γ} {follow : Bool}
    {jump jump' : Place ν → List (Step ν) → Except Errno (Place ν)} {name : ν} {d : Place ν}
    (hdir : t.node d = some .dir) (hplain : follow = false ∨ ¬t.LinkAt (name :: d))
    (hjump : ∀ cur steps, jump' cur steps = .ok d →
      jump cur (steps ++ [.down name]) = .ok (name :: d)) {steps : List (Step ν)} :
    ∀ {cur : Place ν}, t.walk true jump' cur steps = .ok d →
      t.walk follow jump cur (steps ++ [.down name]) = .ok (name :: d) := by
  induction steps with
  | nil =>
    intro cur h
    obtain rfl := Except.ok.inj h
    rw [List.nil_append, Tree.walk]
    split
    · rfl
    · rfl
    · next target hlink =>
      rw [if_pos ⟨rfl, hplain.resolve_right fun hno => hno ⟨target, hlink⟩⟩]
    · rfl
  | cons step rest ih =>
    intro cur h
    have hne : rest ++ [Step.down name] ≠ [] := by simp
    cases step with
    | up => exact ih h
    | down first =>
      rw [Tree.walk] at h
      rw [List.cons_append, Tree.walk]
      -- the walk to `d` ended at no file and at nothing missing, since `d` is a directory
      split at h
      · exact ih h
      · next hfirst =>
        split at h
        · obtain rfl := Except.ok.inj h
          rw [hdir] at hfirst
          cases hfirst
        · cases h
      · next target hlink =>
        rw [if_neg fun hlast => Bool.noConfusion hlast.2] at h
        rw [if_neg fun hlast => hne hlast.1, ← List.append_assoc]
        exact hjump _ _ h
      · next hfirst =>
        split at h
        · obtain rfl := Except.ok.inj h
          rw [hdir] at hfirst
          cases hfirst
        · cases h

/-- The last step of a path is taken from a directory, and may end at a link's target. -/
theorem Tree.locate_concat {t : Tree ν γ} {follow : Bool} {links : Nat} {name : ν}
    {steps : List (Step ν)} {cur p : Place ν} (hcur : t.node cur = some .dir)
    (h : t.locate follow links cur (steps ++ [.down name]) = .ok p) :
    ∃ d, t.locate true links cur steps = .ok d ∧ t.node d = some .dir ∧
      (p = name :: d ∨ follow = true ∧ t.LinkAt (name :: d)) := by
  induction links generalizing cur steps with
  | zero =>
    refine Tree.walk_concat (fun _ _ _ hjump => ?_) hcur h
    cases hjump
  | succ links ih => exact Tree.walk_concat (fun _ _ hcur h => ih hcur h) hcur h

/-- A last step that is no link to be followed ends at its own name. -/
theorem Tree.locate_concat_of {t : Tree ν γ} {follow : Bool} {links : Nat} {name : ν}
    {steps : List (Step ν)} {cur d : Place ν} (hdir : t.node d = some .dir)
    (hplain : follow = false ∨ ¬t.LinkAt (name :: d)) (h : t.locate true links cur steps = .ok d) :
    t.locate follow links cur (steps ++ [.down name]) = .ok (name :: d) := by
  induction links generalizing cur steps with
  | zero =>
    refine Tree.walk_concat_of hdir hplain (fun _ _ hjump => ?_) h
    cases hjump
  | succ links ih => exact Tree.walk_concat_of hdir hplain (fun _ _ h => ih h) h

/-! ## Trees that grow -/

/-- What was there is there, of the same kind and with the same links, and what is new is no
link. -/
def Grown (t t' : Tree ν γ) : Prop :=
  ∀ p, (t'.node p).map Node.kind = (t.node p).map Node.kind ∨ (t.node p = none ∧ ¬t'.LinkAt p)

/-- A tree grows by nothing. -/
theorem Grown.refl (t : Tree ν γ) : Grown t t := fun _ => Or.inl rfl

/-- Directories stay directories. -/
theorem Grown.dir {t t' : Tree ν γ} (h : Grown t t') {p : Place ν} (hdir : t.node p = some .dir) :
    t'.node p = some .dir := by
  rcases h p with hkind | ⟨hnone, -⟩
  · rw [hdir] at hkind
    cases hnode : t'.node p with
    | none => rw [hnode] at hkind; cases hkind
    | some n =>
      rw [hnode] at hkind
      cases n with
      | dir => rfl
      | file content => cases hkind
      | link target => cases hkind
  · rw [hdir] at hnone
    cases hnone

/-- Links stay, and no new ones appear. -/
theorem Grown.link {t t' : Tree ν γ} (h : Grown t t') {p : Place ν} {target : Path ν} :
    t'.node p = some (.link target) ↔ t.node p = some (.link target) := by
  have hkinds : ∀ {u u' : Tree ν γ}, (u'.node p).map Node.kind = (u.node p).map Node.kind →
      u.node p = some (.link target) → u'.node p = some (.link target) := by
    intro u u' hkind hlink
    rw [hlink] at hkind
    cases hnode : u'.node p with
    | none => rw [hnode] at hkind; cases hkind
    | some n =>
      rw [hnode] at hkind
      cases n with
      | dir => cases hkind
      | file content => cases hkind
      | link target' =>
        cases hkind
        rfl
  rcases h p with hkind | ⟨hnone, hnew⟩
  · exact ⟨hkinds hkind.symm, hkinds hkind⟩
  · refine ⟨fun hlink => absurd ⟨target, hlink⟩ hnew, fun hlink => ?_⟩
    rw [hnone] at hlink
    cases hlink

theorem Grown.linkAt {t t' : Tree ν γ} (h : Grown t t') {p : Place ν} :
    t'.LinkAt p ↔ t.LinkAt p := exists_congr fun _ => h.link

/-- What is missing afterwards was missing before. -/
theorem Grown.missing {t t' : Tree ν γ} (h : Grown t t') {p : Place ν} (hnone : t'.node p = none) :
    t.node p = none := by
  rcases h p with hkind | ⟨hold, -⟩
  · rw [hnone, Option.map_none] at hkind
    exact Option.map_eq_none_iff.mp hkind.symm
  · exact hold

/-- A file stays a file, of perhaps another content. -/
theorem Grown.file {t t' : Tree ν γ} (h : Grown t t') {p : Place ν} {content : γ}
    (hfile : t.node p = some (.file content)) : ∃ content', t'.node p = some (.file content') := by
  rcases h p with hkind | ⟨hnone, -⟩
  · rw [hfile] at hkind
    cases hnode : t'.node p with
    | none => rw [hnode] at hkind; cases hkind
    | some n =>
      rw [hnode] at hkind
      cases n with
      | dir => cases hkind
      | file content' => exact ⟨content', rfl⟩
      | link target => cases hkind
  · rw [hfile] at hnone
    cases hnone

/-- Growth upon growth is growth. -/
theorem Grown.trans {t t' t'' : Tree ν γ} (h : Grown t t') (h' : Grown t' t'') : Grown t t'' := by
  intro p
  rcases h p with hkind | ⟨hnone, hnew⟩
  · rcases h' p with hkind' | ⟨hnone', hnew'⟩
    · exact Or.inl (hkind'.trans hkind)
    · exact Or.inr ⟨h.missing hnone', hnew'⟩
  · exact Or.inr ⟨hnone, fun hlink => hnew (h'.linkAt.mp hlink)⟩

/-- What was reached is still reached. -/
theorem Tree.walk_grown {t t' : Tree ν γ} (hgrown : Grown t t') {follow : Bool}
    {jump jump' : Place ν → List (Step ν) → Except Errno (Place ν)} {p : Place ν}
    (hjump : ∀ cur steps, jump cur steps = .ok p → jump' cur steps = .ok p)
    {steps : List (Step ν)} :
    ∀ {cur : Place ν}, t.walk follow jump cur steps = .ok p →
      t'.walk follow jump' cur steps = .ok p := by
  induction steps with
  | nil => exact id
  | cons step rest ih =>
    intro cur h
    cases step with
    | up => exact ih h
    | down name =>
      rw [Tree.walk] at h ⊢
      split at h
      · next hdir =>
        rw [hgrown.dir hdir]
        exact ih h
      · next hfile =>
        obtain ⟨content, hfile'⟩ := hgrown.file hfile
        rw [hfile']
        exact h
      · next target hlink =>
        rw [hgrown.link.mpr hlink]
        show (if _ then _ else _) = _
        split at h
        · next hlast => rw [if_pos hlast]; exact h
        · next hgoes => rw [if_neg hgoes]; exact hjump _ _ h
      · next hnone =>
        split at h
        · next hlast =>
          -- what has appeared at the missing last name is no link
          have hplain : ¬t'.LinkAt (name :: cur) := by
            rw [hgrown.linkAt]
            rintro ⟨target, hlink⟩
            rw [hnone] at hlink
            cases hlink
          split
          · rw [hlast]; exact h
          · rw [if_pos hlast]; exact h
          · next target hlink => exact absurd ⟨target, hlink⟩ hplain
          · rw [if_pos hlast]; exact h
        · cases h

/-- A tree that has only grown finds every place again. -/
theorem Tree.locate_grown {t t' : Tree ν γ} (hgrown : Grown t t') {follow : Bool} {links : Nat}
    {steps : List (Step ν)} {cur p : Place ν} (h : t.locate follow links cur steps = .ok p) :
    t'.locate follow links cur steps = .ok p := by
  induction links generalizing cur steps with
  | zero =>
    refine Tree.walk_grown hgrown (fun _ _ hjump => ?_) h
    cases hjump
  | succ links ih => exact Tree.walk_grown hgrown (fun _ _ h => ih h) h

/-! ## System calls -/

/-- An absolute path: its steps, the last one first. -/
abbrev Trail (ν : Type) := List (Step ν)

/-- The path of plain names. -/
def trailOf (names : List ν) : Trail ν := names.map .down

/-- So many links are followed in one lookup. -/
def maxLinks : Nat := 40

def Tree.find (t : Tree ν γ) (follow : Bool) (trail : Trail ν) : Except Errno (Place ν) :=
  t.locate follow maxLinks [] trail.reverse

/-- What is found lies in a directory. -/
theorem Tree.find_parent {t : Tree ν γ} {follow : Bool} {trail : Trail ν} {p : Place ν}
    (h : t.find follow trail = .ok p) : t.node p.tail = some .dir := Tree.locate_parent rfl h

/-- What was found is found again. -/
theorem Tree.find_grown {t t' : Tree ν γ} (hgrown : Grown t t') {follow : Bool} {trail : Trail ν}
    {p : Place ν} (h : t.find follow trail = .ok p) : t'.find follow trail = .ok p :=
  Tree.locate_grown hgrown h

/-- A name is looked up in the directory its parent leads to. -/
theorem Tree.find_cons {t : Tree ν γ} {follow : Bool} {name : ν} {trail : Trail ν} {p : Place ν}
    (h : t.find follow (.down name :: trail) = .ok p) :
    ∃ d, t.find true trail = .ok d ∧ t.node d = some .dir ∧
      (p = name :: d ∨ follow = true ∧ t.LinkAt (name :: d)) := by
  unfold Tree.find at h
  rw [List.reverse_cons] at h
  exact Tree.locate_concat rfl h

/-- A name in a directory is found there when it is no link to be followed. -/
theorem Tree.find_cons_of {t : Tree ν γ} {follow : Bool} {name : ν} {trail : Trail ν} {d : Place ν}
    (hdir : t.node d = some .dir) (hplain : follow = false ∨ ¬t.LinkAt (name :: d))
    (h : t.find true trail = .ok d) : t.find follow (.down name :: trail) = .ok (name :: d) := by
  unfold Tree.find
  rw [List.reverse_cons]
  exact Tree.locate_concat_of hdir hplain h

/-- `stat`, and `lstat` where the last link is not followed. -/
def Tree.stat (t : Tree ν γ) (follow : Bool) (trail : Trail ν) : Except Errno (Node ν γ) :=
  match t.find follow trail with
  | .error e => .error e
  | .ok p =>
    match t.node p with
    | some n => .ok n
    | none => .error .enoent

/-- `Path.exists`. -/
def Tree.pathExists (t : Tree ν γ) (trail : Trail ν) : Bool :=
  match t.stat true trail with
  | .ok _ => true
  | .error _ => false

/-- `Path.is_symlink`. -/
def Tree.isSymlink (t : Tree ν γ) (trail : Trail ν) : Bool :=
  match t.stat false trail with
  | .ok (.link _) => true
  | _ => false

/-- `Path.is_dir`. -/
def Tree.isDir (t : Tree ν γ) (trail : Trail ν) : Bool :=
  match t.stat true trail with
  | .ok .dir => true
  | _ => false

/-- `os.mkdir`. -/
def Tree.mkdir (t : Tree ν γ) (trail : Trail ν) : Except Errno (Tree ν γ) :=
  match hfind : t.find false trail with
  | .error e => .error e
  | .ok p =>
    match t.node p with
    | some _ => .error .eexist
    | none => .ok (t.put p .dir (Tree.find_parent hfind) (.inl rfl))

/-- A file opened for reading and read. -/
def Tree.read (t : Tree ν γ) (trail : Trail ν) : Except Errno γ :=
  match t.stat true trail with
  | .error e => .error e
  | .ok (.file content) => .ok content
  | .ok .dir => .error .eisdir
  | .ok (.link _) => .error .eloop

/-- A file opened for writing, created or truncated, and written. -/
def Tree.write (t : Tree ν γ) (trail : Trail ν) (content : γ) : Except Errno (Tree ν γ) :=
  match hfind : t.find true trail with
  | .error e => .error e
  | .ok p =>
    match hnode : t.node p with
    | some .dir => .error .eisdir
    | some (.link _) => .error .eloop
    | some (.file _) =>
      .ok (t.put p (.file content) (Tree.find_parent hfind) (.inr (by rw [hnode]; nofun)))
    | none => .ok (t.put p (.file content) (Tree.find_parent hfind) (.inr (by rw [hnode]; nofun)))

/-- The one node that `t'` has otherwise than `t`. -/
def Sets (t t' : Tree ν γ) (p : Place ν) (n : Node ν γ) : Prop :=
  ∀ q, t'.node q = if p = q then some n else t.node q

/-- The place set holds the new node. -/
theorem Sets.self {t t' : Tree ν γ} {p : Place ν} {n : Node ν γ} (h : Sets t t' p n) :
    t'.node p = some n := (h p).trans (if_pos rfl)

/-- Every other place is as it was. -/
theorem Sets.other {t t' : Tree ν γ} {p q : Place ν} {n : Node ν γ} (h : Sets t t' p n)
    (hq : p ≠ q) : t'.node q = t.node q := (h q).trans (if_neg hq)

/-- A place that changed is the place set. -/
theorem Sets.eq_of_ne {t t' : Tree ν γ} {p q : Place ν} {n : Node ν γ} (h : Sets t t' p n)
    (hq : t'.node q ≠ t.node q) : p = q := by
  by_contra hne
  exact hq (h.other hne)

/-- Setting what was missing, or was of the same kind, grows the tree. -/
theorem Sets.grown {t t' : Tree ν γ} {p : Place ν} {n : Node ν γ} (h : Sets t t' p n)
    (hnode : t.node p = none ∨ (t.node p).map Node.kind = some n.kind)
    (hlink : ∀ target, n ≠ .link target) : Grown t t' := by
  intro q
  by_cases hq : p = q
  · subst hq
    rcases hnode with hnone | hkind
    · refine Or.inr ⟨hnone, ?_⟩
      rintro ⟨target, hnew⟩
      rw [h.self] at hnew
      exact hlink target (Option.some.inj hnew)
    · rw [h.self, hkind]
      exact Or.inl rfl
  · rw [h.other hq]
    exact Or.inl rfl

/-- A directory is made at a missing place only. -/
theorem Tree.mkdir_ok {t t' : Tree ν γ} {trail : Trail ν} (h : t.mkdir trail = .ok t') :
    ∃ p, t.find false trail = .ok p ∧ t.node p = none ∧ Sets t t' p .dir := by
  unfold Tree.mkdir at h
  split at h
  · cases h
  · next p hfind =>
    split at h
    · cases h
    · next hnone =>
      obtain rfl := Except.ok.inj h
      exact ⟨p, hfind, hnone, Tree.node_put⟩

/-- What exists, a dangling link included, is not made again. -/
theorem Tree.mkdir_of {t : Tree ν γ} {trail : Trail ν} {p : Place ν} {n : Node ν γ}
    (hfind : t.find false trail = .ok p) (hnode : t.node p = some n) :
    t.mkdir trail = .error .eexist := by
  unfold Tree.mkdir
  split
  · next herror =>
    rw [hfind] at herror
    cases herror
  · next q hq =>
    obtain rfl := Except.ok.inj (hfind.symm.trans hq)
    split
    · rfl
    · next hnone =>
      rw [hnode] at hnone
      cases hnone

/-- A file is written at a missing place or over a file. -/
theorem Tree.write_ok {t t' : Tree ν γ} {trail : Trail ν} {content : γ}
    (h : t.write trail content = .ok t') :
    ∃ p, t.find true trail = .ok p ∧ (t.node p = none ∨ ∃ old, t.node p = some (.file old)) ∧
      Sets t t' p (.file content) := by
  unfold Tree.write at h
  split at h
  · cases h
  · next p hfind =>
    split at h
    · cases h
    · cases h
    · next old hfile =>
      obtain rfl := Except.ok.inj h
      exact ⟨p, hfind, Or.inr ⟨old, hfile⟩, Tree.node_put⟩
    · next hnone =>
      obtain rfl := Except.ok.inj h
      exact ⟨p, hfind, Or.inl hnone, Tree.node_put⟩

/-- `stat` shows the node that is found. -/
theorem Tree.stat_eq_ok {t : Tree ν γ} {follow : Bool} {trail : Trail ν} {n : Node ν γ} :
    t.stat follow trail = .ok n ↔ ∃ p, t.find follow trail = .ok p ∧ t.node p = some n := by
  unfold Tree.stat
  cases hfind : t.find follow trail with
  | error e => exact iff_of_false nofun fun ⟨_, h, _⟩ => nomatch h
  | ok p =>
    show (match t.node p with | some n => _ | none => _) = _ ↔ _
    constructor
    · intro h
      cases hnode : t.node p with
      | none => rw [hnode] at h; cases h
      | some n' =>
        rw [hnode] at h
        exact ⟨p, rfl, hnode.trans (congrArg some (Except.ok.inj h))⟩
    · rintro ⟨q, hq, hnode⟩
      obtain rfl := Except.ok.inj hq
      rw [hnode]

/-- A path exists when its links lead somewhere. -/
theorem Tree.pathExists_iff {t : Tree ν γ} {trail : Trail ν} :
    t.pathExists trail = true ↔ ∃ p n, t.find true trail = .ok p ∧ t.node p = some n := by
  unfold Tree.pathExists
  cases hstat : t.stat true trail with
  | error e =>
    refine iff_of_false nofun ?_
    rintro ⟨p, n, hfind, hnode⟩
    rw [Tree.stat_eq_ok.mpr ⟨p, hfind, hnode⟩] at hstat
    cases hstat
  | ok n =>
    obtain ⟨p, hfind, hnode⟩ := Tree.stat_eq_ok.mp hstat
    exact iff_of_true rfl ⟨p, n, hfind, hnode⟩

/-- A path is a directory when its links lead to one. -/
theorem Tree.isDir_iff {t : Tree ν γ} {trail : Trail ν} :
    t.isDir trail = true ↔ ∃ p, t.find true trail = .ok p ∧ t.node p = some .dir := by
  rw [← Tree.stat_eq_ok]
  unfold Tree.isDir
  split
  · next hdir => exact iff_of_true rfl hdir
  · next hother => exact iff_of_false nofun hother

/-- A path is a link when its last name is one, wherever it leads. -/
theorem Tree.isSymlink_iff {t : Tree ν γ} {trail : Trail ν} :
    t.isSymlink trail = true ↔ ∃ p, t.find false trail = .ok p ∧ t.LinkAt p := by
  unfold Tree.isSymlink
  split
  · next target hlink =>
    obtain ⟨p, hfind, hnode⟩ := Tree.stat_eq_ok.mp hlink
    exact iff_of_true rfl ⟨p, hfind, target, hnode⟩
  · next hother =>
    refine iff_of_false nofun ?_
    rintro ⟨p, hfind, target, hnode⟩
    exact hother target (Tree.stat_eq_ok.mpr ⟨p, hfind, hnode⟩)

/-! ## Directories made on the way -/

/-- `Path.mkdir(parents=True, exist_ok=True)`. -/
def Tree.mkdirs : Trail ν → Tree ν γ → Except Errno Unit × Tree ν γ
  | trail, t =>
    match t.mkdir trail with
    | .ok t' => (.ok (), t')
    | .error .enoent =>
      match trail with
      | [] => (.error .enoent, t)
      | step :: parent =>
        match Tree.mkdirs parent t with
        | (.error e, t') => (.error e, t')
        | (.ok _, t') =>
          match t'.mkdir (step :: parent) with
          | .ok t'' => (.ok (), t'')
          | .error .enoent => (.error .enoent, t')
          | .error e => (if t'.isDir (step :: parent) then .ok () else .error e, t')
    | .error e => (if t.isDir trail then .ok () else .error e, t)

/-- Where the trees differ is on the way from `q` down the names, and is new. -/
structure OnTheWay (t t' : Tree ν γ) (names : List ν) (q : Place ν) : Prop where
  grown : Grown t t'
  made : ∀ p, t'.node p ≠ t.node p →
    ∃ above, above ≠ [] ∧ above <:+ names ∧ p = above ++ q ∧ t.node p = none

/-- The directory at the names below `q` is there, and it is new if there are names. -/
structure Opened (t t' : Tree ν γ) (base names : List ν) (q : Place ν) : Prop where
  found : t'.find true (trailOf (names ++ base)) = .ok (names ++ q)
  dir : t'.node (names ++ q) = some .dir
  fresh : names ≠ [] → t.node (names ++ q) = none

/-- No directory was made yet. -/
theorem OnTheWay.refl (t : Tree ν γ) (names : List ν) (q : Place ν) : OnTheWay t t names q :=
  ⟨.refl t, fun _ h => absurd rfl h⟩

/-- Made on the way to a parent is made on the way. -/
theorem OnTheWay.deeper {t t' : Tree ν γ} {names : List ν} {q : Place ν} {name : ν}
    (h : OnTheWay t t' names q) : OnTheWay t t' (name :: names) q := by
  refine ⟨h.grown, fun p hp => ?_⟩
  obtain ⟨above, hne, habove, hplace⟩ := h.made p hp
  exact ⟨above, hne, habove.trans (List.suffix_cons name names), hplace⟩

/-- The directory itself is made last. -/
theorem OnTheWay.mkdir {t t' t'' : Tree ν γ} {names : List ν} {q : Place ν} {name : ν}
    (h : OnTheWay t t' names q) (hset : Sets t' t'' (name :: (names ++ q)) .dir)
    (hnone : t'.node (name :: (names ++ q)) = none) : OnTheWay t t'' (name :: names) q := by
  refine ⟨h.grown.trans (hset.grown (Or.inl hnone) nofun), fun p hp => ?_⟩
  by_cases hself : name :: (names ++ q) = p
  · refine ⟨name :: names, List.cons_ne_nil _ _, List.suffix_rfl, hself.symm, ?_⟩
    rw [← hself]
    exact h.grown.missing hnone
  · rw [hset.other hself] at hp
    exact h.deeper.made p hp

/-- A directory that exists is found and left as it is. -/
theorem Tree.mkdirs_existing {t : Tree ν γ} {base : List ν} {q : Place ν} {n : Node ν γ}
    (hbase : t.find true (trailOf base) = .ok q) (hnode : t.node q = some n) :
    (Tree.mkdirs (trailOf base) t).2 = t ∧
      ((Tree.mkdirs (trailOf base) t).1 = .ok () → t.node q = some .dir) := by
  have hmkdir : t.mkdir (trailOf base) = .error .eexist := by
    cases base with
    | nil => exact Tree.mkdir_of (p := []) rfl rfl
    | cons name base =>
      obtain ⟨d, hd, hdir, hq⟩ := Tree.find_cons hbase
      have hfind : t.find false (trailOf (name :: base)) = .ok (name :: d) :=
        Tree.find_cons_of hdir (Or.inl rfl) hd
      rcases hq with rfl | ⟨-, target, hlink⟩
      · exact Tree.mkdir_of hfind hnode
      · exact Tree.mkdir_of hfind hlink
  unfold Tree.mkdirs
  rw [hmkdir]
  refine ⟨rfl, fun hok => ?_⟩
  have hisDir : t.isDir (trailOf base) = true := by
    by_contra hno
    have herror : (if t.isDir (trailOf base) then Except.ok () else .error Errno.eexist) = .ok () := hok
    rw [if_neg hno] at herror
    cases herror
  obtain ⟨p, hfind, hdir⟩ := Tree.isDir_iff.mp hisDir
  obtain rfl := Except.ok.inj (hbase.symm.trans hfind)
  exact hdir

/-- What a call comes to, made below a path: the directory was made at once or after its
parents, or one that cannot be made is there already. -/
inductive MkdirsStep (t : Tree ν γ) (step : Step ν) (parent : Trail ν) :
    Except Errno Unit × Tree ν γ → Prop
  | made {t' : Tree ν γ} : t.mkdir (step :: parent) = .ok t' → MkdirsStep t step parent (.ok (), t')
  | there {result : Except Errno Unit} :
      (result = .ok () → t.isDir (step :: parent) = true) → MkdirsStep t step parent (result, t)
  | stopped {e : Errno} {t' : Tree ν γ} : Tree.mkdirs parent t = (.error e, t') →
      MkdirsStep t step parent (.error e, t')
  | after {t' t'' : Tree ν γ} : Tree.mkdirs parent t = (.ok (), t') →
      t'.mkdir (step :: parent) = .ok t'' → MkdirsStep t step parent (.ok (), t'')
  | thereAfter {result : Except Errno Unit} {t' : Tree ν γ} : Tree.mkdirs parent t = (.ok (), t') →
      (result = .ok () → t'.isDir (step :: parent) = true) → MkdirsStep t step parent (result, t')

/-- One level of `mkdir(parents=True)`. -/
theorem Tree.mkdirs_cons (t : Tree ν γ) (step : Step ν) (parent : Trail ν) :
    MkdirsStep t step parent (Tree.mkdirs (step :: parent) t) := by
  have hthere : ∀ (u : Tree ν γ) (e : Errno),
      (if u.isDir (step :: parent) then Except.ok () else .error e) = .ok () →
        u.isDir (step :: parent) = true := by
    intro u e hok
    by_contra hno
    rw [if_neg hno] at hok
    cases hok
  unfold Tree.mkdirs
  split
  · next t' hmkdir => exact .made hmkdir
  · next hmkdir =>
    dsimp only
    split
    · next e t' hparent => exact .stopped hparent
    · next t' hparent =>
      split
      · next t'' hagain => exact .after hparent hagain
      · exact .thereAfter hparent nofun
      · exact .thereAfter hparent (hthere t' _)
  · exact .there (hthere t _)

/-- Directories are made below the nearest one that exists, and nowhere else. -/
theorem Tree.mkdirs_spec {t : Tree ν γ} {base : List ν} {q : Place ν} {n : Node ν γ}
    (hbase : t.find true (trailOf base) = .ok q) (hnode : t.node q = some n) {names : List ν}
    (hmissing : ∀ above, above ≠ [] → above <:+ names →
      t.pathExists (trailOf (above ++ base)) = false) :
    OnTheWay t (Tree.mkdirs (trailOf (names ++ base)) t).2 names q ∧
      ((Tree.mkdirs (trailOf (names ++ base)) t).1 = .ok () →
        Opened t (Tree.mkdirs (trailOf (names ++ base)) t).2 base names q) := by
  induction names with
  | nil =>
    obtain ⟨hsame, hdir⟩ := Tree.mkdirs_existing hbase hnode
    rw [List.nil_append, hsame]
    exact ⟨.refl t [] q, fun hok => ⟨hbase, hdir hok, fun hne => absurd rfl hne⟩⟩
  | cons name names ih =>
    have hself : ¬t.pathExists (.down name :: trailOf (names ++ base)) = true := by
      rw [show Step.down name :: trailOf (names ++ base) = trailOf (name :: names ++ base) from rfl,
        hmissing (name :: names) (List.cons_ne_nil _ _) List.suffix_rfl]
      nofun
    obtain ⟨hway, hopened⟩ := ih fun above hne habove =>
      hmissing above hne (habove.trans (List.suffix_cons name names))
    -- the directory of the last name, once it is found, is the one that was meant
    have hstep : ∀ {u u' : Tree ν γ}, OnTheWay t u names q → Opened t u base names q →
        u.mkdir (.down name :: trailOf (names ++ base)) = .ok u' →
        OnTheWay t u' (name :: names) q ∧ Opened t u' base (name :: names) q := by
      intro u u' hway hopened hmkdir
      obtain ⟨p, hfind, hnone, hset⟩ := Tree.mkdir_ok hmkdir
      obtain ⟨d, hd, hdir, hp⟩ := Tree.find_cons hfind
      obtain rfl := Except.ok.inj (hopened.found.symm.trans hd)
      obtain rfl := hp.resolve_right fun h => Bool.noConfusion h.1
      have hgrown := hset.grown (Or.inl hnone) nofun
      refine ⟨hway.mkdir hset hnone, ?_, hset.self, fun _ => ?_⟩
      · refine Tree.find_cons_of (hgrown.dir hdir) (Or.inr ?_) (Tree.find_grown hgrown hd)
        rintro ⟨target, hlink⟩
        cases hset.self.symm.trans hlink
      · exact hway.grown.missing hnone
    have hcall := Tree.mkdirs_cons t (.down name) (trailOf (names ++ base))
    rw [show trailOf (name :: names ++ base) = .down name :: trailOf (names ++ base) from rfl]
    cases hresult : Tree.mkdirs (.down name :: trailOf (names ++ base)) t with
    | mk result t'' =>
      rw [hresult] at hcall
      cases hcall with
      | made hmkdir =>
        obtain ⟨p, hfind, -, -⟩ := Tree.mkdir_ok hmkdir
        obtain ⟨d, hd, hdir, -⟩ := Tree.find_cons hfind
        -- the parent exists, so it is `base` itself
        have hnames : names = [] := by
          by_contra hne
          have hno := hmissing names hne (List.suffix_cons name names)
          rw [Tree.pathExists_iff.mpr ⟨d, .dir, hd, hdir⟩] at hno
          cases hno
        subst hnames
        obtain rfl := Except.ok.inj (hbase.symm.trans hd)
        obtain ⟨hway, hopened⟩ :=
          hstep (.refl t [] q) ⟨hbase, hdir, fun hne => absurd rfl hne⟩ hmkdir
        exact ⟨hway, fun _ => hopened⟩
      | there hdir =>
        refine ⟨.refl t _ q, fun hok => absurd ?_ hself⟩
        obtain ⟨p, hfind, hnode⟩ := Tree.isDir_iff.mp (hdir hok)
        exact Tree.pathExists_iff.mpr ⟨p, .dir, hfind, hnode⟩
      | stopped hparent =>
        rw [hparent] at hway
        exact ⟨hway.deeper, nofun⟩
      | after hparent hmkdir =>
        rw [hparent] at hway hopened
        obtain ⟨hway, hopened⟩ := hstep hway (hopened rfl) hmkdir
        exact ⟨hway, fun _ => hopened⟩
      | thereAfter hparent hdir =>
        rw [hparent] at hway hopened
        refine ⟨hway.deeper, fun hok => ?_⟩
        obtain ⟨p, hfind, hnode⟩ := Tree.isDir_iff.mp (hdir hok)
        obtain ⟨d, hd, -, hp⟩ := Tree.find_cons hfind
        obtain rfl := Except.ok.inj ((hopened rfl).found.symm.trans hd)
        exfalso
        cases names with
        | nil =>
          -- nothing was made, and `t` itself has the directory
          have hback : Grown t'' t := by
            intro place
            by_cases hsame : t''.node place = t.node place
            · exact Or.inl (congrArg _ hsame.symm)
            · obtain ⟨above, hne, habove, -⟩ := hway.made place hsame
              exact absurd (List.suffix_nil.mp habove) hne
          exact hself (Tree.pathExists_iff.mpr
            ⟨p, .dir, Tree.find_grown hback hfind, hback.dir hnode⟩)
        | cons first names =>
          -- nothing is below a directory that is new
          have hbelow : t''.node (name :: (first :: names ++ q)) = none := by
            by_contra hsome
            have hold : t.node (name :: (first :: names ++ q)) = none := by
              refine Tree.node_below ?_
              rw [(hopened rfl).fresh (List.cons_ne_nil _ _)]
              nofun
            obtain ⟨above, -, habove, hplace, -⟩ := hway.made _ (by rw [hold]; exact hsome)
            have hlength := congrArg List.length hplace
            have hle := habove.length_le
            simp only [List.length_cons, List.length_append] at hlength hle
            omega
          rcases hp with rfl | ⟨-, target, hlink⟩
          · cases hbelow.symm.trans hnode
          · cases hbelow.symm.trans hlink

end Trees

end FileSystem
