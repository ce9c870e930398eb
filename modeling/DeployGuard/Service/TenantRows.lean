import DeployGuard.Service.Isolation

/-!
# The committed rows of a tenant

What the sessions of `serverSystem` leave in the database. A transaction holds the locks of
the rows it has changed, so a row it replaces at its commit is the row its statements found.

> `immutable_rows_kept`: a row of an immutable table stays as it was committed;

> `tenant_rows_change_in_scope`: the rows of a workspace change only at the commit of a
transaction that executed a statement for that workspace.

The second rests on fresh identifiers: the policy on `incident_feedback` looks the workspace
up under the identifier of an incident.
-/

namespace DeployGuard.Service

open Raise RowSecurity Transition

variable {ι γ : Type} {catalog : Catalog} {r r' : Server ι γ} {i j : ι} {s : TenantSession γ}
  {c : γ} {k : RecordKey} {a : SessionAction ι γ}

/-! ## What a step does to the rows -/

/-- A session goes on with its transaction and its locks, or has none. -/
def CarriesOn (r r' : Server ι γ) (j : ι) : Prop :=
  ∀ t', r'.session j = some t' → t'.pending = [] ∨
    ∃ t, r.session j = some t ∧ t'.pending = t.pending ∧ t'.scopes = t.scopes ∧
      ∀ k, r.lock k = some j → r'.lock k = some j

/-- A session that does nothing carries on. -/
theorem carriesOn_refl (j : ι) : CarriesOn r r j :=
  fun t' ht' => Or.inr ⟨t', ht', rfl, rfl, fun _ hk => hk⟩

/-- What an action of a session does to the rows. -/
inductive RowEffect (catalog : Catalog) (r r' : Server ι γ) (i : ι) : SessionAction ι γ → Prop
  /-- nothing but to go on with the transaction or to drop it -/
  | quiet (a : SessionAction ι γ) : r'.store = r.store → r'.born = r.born → CarriesOn r r' i →
      RowEffect catalog r r' i a
  | committed (s : TenantSession γ) : r.session i = some s → r'.store = s.view r.store →
      r'.born = r.born → (∀ t, r'.session i = some t → t.pending = []) → RowEffect catalog r r' i (.commit i)
  | answered (s s' : TenantSession γ) (c : γ) (statement : Statement Record.key)
      (answer : Answer RecordKey Record) : r.session i = some s →
      (catalog.guard s.info).execute (s.view r.store) statement = .ok answer →
      (∀ change ∈ answer.changes, ∀ j, r.lock (change.target Record.key) = some j → j = i) →
      r'.store = r.store → r'.session i = some s' →
      s'.pending = s.pending ++ answer.changes → s'.scopes = s.info.toList ++ s.scopes →
      (∀ k, r'.lock k =
        if k ∈ answer.changes.map (Change.target Record.key) then some i else r.lock k) →
      (∀ k, r'.born k = (r.born k).or ((answer.changes.find? fun change =>
        change.target Record.key = k).bind Change.left)) →
      RowEffect catalog r r' i (.execute i c statement)

/-! ## Locks -/

/-- A transaction holds the lock of each row it has changed, and has changed no row the
triggers fix. -/
structure Locking (r : Server ι γ) : Prop where
  locked : ∀ i s, ∀ change ∈ s.pending, r.session i = some s →
    r.lock (change.target Record.key) = some i
  movable : ∀ i s, ∀ change ∈ s.pending, r.session i = some s → ∀ row,
    r.store.get? (change.target Record.key) = some row → row.table ∉ immutableTables

/-- A row no change of the transaction is about is in its view as it is committed. -/
theorem view_of_unchanged (h : ∀ change ∈ s.pending, change.target Record.key ≠ k) :
    (s.view r.store).get? k = r.store.get? k := Change.get?_applyAll_of_ne h

/-- The row a statement replaces, unless its transaction has changed it before. -/
theorem released_of_store {statement : Statement Record.key} {answer : Answer RecordKey Record}
    {change : Change RecordKey Record} {row : Record}
    (hanswer : (catalog.guard s.info).execute (s.view r.store) statement = .ok answer)
    (hchange : change ∈ answer.changes)
    (hrow : r.store.get? (change.target Record.key) = some row) :
    (∃ earlier ∈ s.pending, earlier.target Record.key = change.target Record.key) ∨
      (catalog.guard s.info).Releases (s.view r.store) row := by
  by_cases hpending : ∃ earlier ∈ s.pending, earlier.target Record.key = change.target Record.key
  · exact Or.inl hpending
  · right
    refine (Guard.execute_within hanswer).replaced change hchange row ?_
    rw [view_of_unchanged fun earlier hearlier heq => hpending ⟨earlier, hearlier, heq⟩]
    exact hrow

/-- A row stays while another transaction holds its lock. -/
theorem RowEffect.store_of_locked (h : Locking r) (heffect : RowEffect catalog r r' i a)
    (hk : r.lock k = some j) (hj : j ≠ i) : r'.store.get? k = r.store.get? k := by
  cases heffect with
  | quiet _ hstore => rw [hstore]
  | committed s hs hstore =>
    rw [hstore]
    refine view_of_unchanged fun change hchange heq => hj ?_
    have hmine := h.locked i s change hchange hs
    rw [heq, hk] at hmine
    exact Option.some.inj hmine
  | answered s s' c statement answer hs hanswer hfree hstore => rw [hstore]

/-- A step of one session leaves the locks of the others. -/
theorem Locking.step (h : Locking r) (heffect : RowEffect catalog r r' i a)
    (hothers : ∀ j, j ≠ i → CarriesOn r r' j) : Locking r' := by
  have hcarries : ∀ j, CarriesOn r r' j →
      (∀ k, r.lock k = some j → r'.store.get? k = r.store.get? k) →
      ∀ t', ∀ change ∈ t'.pending, r'.session j = some t' →
        r'.lock (change.target Record.key) = some j ∧ ∀ row,
          r'.store.get? (change.target Record.key) = some row → row.table ∉ immutableTables := by
    intro j hj hstore t' change hchange ht'
    rcases hj t' ht' with hnone | ⟨t, ht, hpending, -, hlocks⟩
    · rw [hnone] at hchange
      cases hchange
    · rw [hpending] at hchange
      have hlocked := h.locked j t change hchange ht
      refine ⟨hlocks _ hlocked, fun row hrow => ?_⟩
      rw [hstore _ hlocked] at hrow
      exact h.movable j t change hchange ht row hrow
  have hall : ∀ j t', ∀ change ∈ t'.pending, r'.session j = some t' →
      r'.lock (change.target Record.key) = some j ∧ ∀ row,
        r'.store.get? (change.target Record.key) = some row → row.table ∉ immutableTables := by
    intro j t' change hchange ht'
    by_cases hj : j = i
    · subst hj
      cases heffect with
      | quiet _ hstore _ hself =>
        exact hcarries j hself (fun k _ => by rw [hstore]) t' change hchange ht'
      | committed s hs hstore hborn hended =>
        rw [hended t' ht'] at hchange
        cases hchange
      | answered s s' c statement answer hs hanswer hfree hstore hs' hpending hscopes hlock =>
        obtain rfl : s' = t' := Option.some.inj (hs'.symm.trans ht')
        rw [hlock, hstore]
        rw [hpending] at hchange
        rcases List.mem_append.mp hchange with hold | hnew
        · refine ⟨?_, h.movable j s change hold hs⟩
          rw [h.locked j s change hold hs, ite_self]
        · refine ⟨if_pos (List.mem_map_of_mem hnew), fun row hrow => ?_⟩
          rcases released_of_store hanswer hnew hrow with ⟨earlier, hearlier, heq⟩ | hreleased
          · exact h.movable j s earlier hearlier hs row (heq ▸ hrow)
          · exact of_decide_eq_false hreleased.2
    · exact hcarries j (hothers j hj) (fun k hk => heffect.store_of_locked h hk hj) t' change
        hchange ht'
  exact ⟨fun j t change hchange ht => (hall j t change hchange ht).1,
    fun j t change hchange ht => (hall j t change hchange ht).2⟩

/-! ## The workspaces of a transaction -/

/-- An inserted row has an identifier that no row was inserted under before. -/
def FreshIds (r : Server ι γ) : SessionAction ι γ → Prop
  | .execute _ _ (.insert row) => r.born row.key = none
  | _ => True

/-- A row of a direct tenant table was born in the workspace it is in. -/
def Born (r : Server ι γ) (row : Record) : Prop :=
  row.table ∈ directTenantTables →
    ∃ first, r.born row.key = some first ∧
      first.column "workspace_id" = row.column "workspace_id"

/-- The workspace of a row, where feedback looks up the birth of its incident. -/
def bornWorkspace (r : Server ι γ) (row : Record) : Option String :=
  if row.table ∈ directTenantTables then row.column "workspace_id"
  else if row.table ∈ indirectTenantTables then
    (row.column "incident_id").bind fun id =>
      (r.born ("incidents", id)).bind fun incident => incident.column "workspace_id"
  else none

/-- A tenant row of one of the workspaces. -/
def InScope (r : Server ι γ) (scopes : List String) (row : Record) : Prop :=
  row.table ∈ tenantTables → ∃ w ∈ scopes, bornWorkspace r row = some w

/-- A transaction replaces and leaves rows of workspaces it has executed statements for. -/
structure Scoped (r : Server ι γ) : Prop where
  stored : ∀ k row, r.store.get? k = some row → Born r row
  put : ∀ i s row, .put row ∈ s.pending → r.session i = some s → Born r row
  replaced : ∀ i s, ∀ change ∈ s.pending, r.session i = some s → ∀ row,
    r.store.get? (change.target Record.key) = some row → InScope r s.scopes row
  left : ∀ i s row, .put row ∈ s.pending → r.session i = some s → InScope r s.scopes row

/-- In a table of rows that are where they were born, a row's workspace is that of its birth. -/
theorem bornWorkspace_of_workspaceOf {t : Records} {row : Record} {w : String}
    (hborn : ∀ k row, t.get? k = some row → Born r row) (h : workspaceOf t row = some w) :
    bornWorkspace r row = some w := by
  unfold workspaceOf at h
  unfold bornWorkspace
  split
  · next hdirect => rwa [if_pos hdirect] at h
  · next hdirect =>
    rw [if_neg hdirect] at h
    split
    · next hindirect =>
      rw [if_pos hindirect, Option.bind_eq_some_iff] at h
      obtain ⟨id, hid, hincident⟩ := h
      obtain ⟨incident, hget, hcolumn⟩ := Option.bind_eq_some_iff.mp hincident
      have hkey : Record.key incident = ("incidents", id) := Table.key_of_get? hget
      have htable : incident.table = "incidents" := (Prod.mk.inj hkey).1
      obtain ⟨first, hfirst, hsame⟩ := hborn _ incident hget (by rw [htable]; decide)
      rw [hid, Option.bind_some, ← hkey, hfirst, Option.bind_some, hsame, hcolumn]
    · next hindirect =>
      rw [if_neg hindirect] at h
      cases h

/-- A row stays born where it was. -/
theorem Born.mono {row : Record} (h : Born r row)
    (hborn : ∀ k first, r.born k = some first → r'.born k = some first) : Born r' row := by
  intro hdirect
  obtain ⟨first, hfirst, hsame⟩ := h hdirect
  exact ⟨first, hborn _ _ hfirst, hsame⟩

/-- A row stays in scope while scopes are added. -/
theorem InScope.mono {scopes scopes' : List String} {row : Record} (h : InScope r scopes row)
    (hborn : ∀ k first, r.born k = some first → r'.born k = some first)
    (hscopes : ∀ w ∈ scopes, w ∈ scopes') : InScope r' scopes' row := by
  intro htable
  obtain ⟨w, hw, hworkspace⟩ := h htable
  refine ⟨w, hscopes w hw, ?_⟩
  unfold bornWorkspace at hworkspace ⊢
  split
  · next hdirect => rwa [if_pos hdirect] at hworkspace
  · next hdirect =>
    rw [if_neg hdirect] at hworkspace
    split
    · next hindirect =>
      rw [if_pos hindirect, Option.bind_eq_some_iff] at hworkspace
      obtain ⟨id, hid, hincident⟩ := hworkspace
      obtain ⟨first, hfirst, hcolumn⟩ := Option.bind_eq_some_iff.mp hincident
      rw [hid, Option.bind_some, hborn _ _ hfirst, Option.bind_some, hcolumn]
    · next hindirect =>
      rw [if_neg hindirect] at hworkspace
      cases hworkspace

/-- The rows a transaction sees are where they were born. -/
theorem Scoped.view (h : Scoped r) (hs : r.session i = some s) {row : Record}
    (hrow : (s.view r.store).get? k = some row) : Born r row := by
  rcases Change.of_get?_applyAll hrow with hstore | hput
  · exact h.stored k row hstore
  · exact h.put i s row hput hs

/-- What a statement leaves was inserted by it under a fresh identifier, or replaces a row of
the same workspace. -/
theorem Scoped.born_of_put {statement : Statement Record.key} {answer : Answer RecordKey Record}
    {row : Record} (haccept : requirePostgresqlRuntimeSecurity "postgresql" catalog = .ok ())
    (h : Scoped r) (hs : r.session i = some s) (hfresh : FreshIds r (.execute i c statement))
    (hanswer : (catalog.guard s.info).execute (s.view r.store) statement = .ok answer)
    (hborn : ∀ k, r'.born k = (r.born k).or ((answer.changes.find? fun change =>
      change.target Record.key = k).bind Change.left))
    (hput : .put row ∈ answer.changes) : Born r' row := by
  intro hdirect
  have htenant : row.table ∈ tenantTables := List.mem_append_left _ hdirect
  have hconfined := confined_of_execute haccept hanswer
  cases hold : (s.view r.store).get? row.key with
  | none =>
    obtain rfl := (Guard.execute_within hanswer).inserted row hput hold
    refine ⟨row, ?_, rfl⟩
    rw [hborn, show r.born row.key = none from hfresh, Option.none_or,
      Guard.changes_of_insert hanswer]
    simp [Change.target, Change.left]
  | some old =>
    have hkey : Record.key old = Record.key row := Table.key_of_get? hold
    have htable : old.table = row.table := (Prod.mk.inj hkey).1
    obtain ⟨w, hw, hnew⟩ := hconfined.left row hput htenant
    obtain ⟨w', hw', hbefore⟩ := hconfined.replaced _ hput old hold (htable ▸ htenant)
    obtain rfl : w = w' := Option.some.inj (hw.symm.trans hw')
    rw [workspaceOf_direct hdirect] at hnew
    rw [workspaceOf_direct (htable ▸ hdirect)] at hbefore
    obtain ⟨first, hfirst, hsame⟩ := h.view hs hold (htable ▸ hdirect)
    refine ⟨first, ?_, by rw [hsame, hbefore, hnew]⟩
    rw [hborn, ← hkey, hfirst, Option.some_or]

/-- Every step of a session writes rows of its own scopes. -/
theorem Scoped.step (haccept : requirePostgresqlRuntimeSecurity "postgresql" catalog = .ok ())
    (h : Scoped r) (hlocking : Locking r) (hfresh : FreshIds r a)
    (heffect : RowEffect catalog r r' i a) (hothers : ∀ j, j ≠ i → CarriesOn r r' j) :
    Scoped r' := by
  have hborn : ∀ k first, r.born k = some first → r'.born k = some first := by
    intro k first hfirst
    cases heffect with
    | quiet _ _ hsame => rw [hsame, hfirst]
    | committed _ _ _ hsame => rw [hsame, hfirst]
    | answered s s' c statement answer hs hanswer hfree hstore hs' hpending hscopes hlock hsame =>
      rw [hsame, hfirst, Option.some_or]
  have hcarries : ∀ j, CarriesOn r r' j →
      (∀ k, r.lock k = some j → r'.store.get? k = r.store.get? k) →
      ∀ t', r'.session j = some t' → (∀ row, .put row ∈ t'.pending →
        Born r' row ∧ InScope r' t'.scopes row) ∧ ∀ change ∈ t'.pending, ∀ row,
          r'.store.get? (change.target Record.key) = some row → InScope r' t'.scopes row := by
    intro j hj hstore t' ht'
    rcases hj t' ht' with hnone | ⟨t, ht, hpending, hscopes, -⟩
    · rw [hnone]
      exact ⟨nofun, nofun⟩
    · rw [hpending, hscopes]
      refine ⟨fun row hrow => ⟨(h.put j t row hrow ht).mono hborn,
        (h.left j t row hrow ht).mono hborn fun _ hw => hw⟩, fun change hchange row hrow => ?_⟩
      rw [hstore _ (hlocking.locked j t change hchange ht)] at hrow
      exact (h.replaced j t change hchange ht row hrow).mono hborn fun _ hw => hw
  have hall : ∀ j t', r'.session j = some t' → (∀ row, .put row ∈ t'.pending →
      Born r' row ∧ InScope r' t'.scopes row) ∧ ∀ change ∈ t'.pending, ∀ row,
        r'.store.get? (change.target Record.key) = some row → InScope r' t'.scopes row := by
    intro j t' ht'
    by_cases hj : j = i
    · subst hj
      cases heffect with
      | quiet _ hstore _ hself => exact hcarries j hself (fun k _ => by rw [hstore]) t' ht'
      | committed s hs hstore _ hended =>
        rw [hended t' ht']
        exact ⟨nofun, nofun⟩
      | answered s s' c statement answer hs hanswer hfree hstore hs' hpending hscopes hlock hsame =>
        obtain rfl : s' = t' := Option.some.inj (hs'.symm.trans ht')
        have hconfined := confined_of_execute haccept hanswer
        have hscope : ∀ w ∈ s.scopes, w ∈ s.info.toList ++ s.scopes := fun w hw =>
          List.mem_append_right _ hw
        -- what is of the session's own workspace is in scope from now on
        have hmine : ∀ row, (row.table ∈ tenantTables → ∃ w, s.info = some w ∧
            workspaceOf (s.view r.store) row = some w) →
            InScope r' (s.info.toList ++ s.scopes) row := by
          intro row hrow htable
          obtain ⟨w, hw, hworkspace⟩ := hrow htable
          have hin : InScope r (s.info.toList ++ s.scopes) row := fun _ =>
            ⟨w, by rw [hw]; exact List.mem_cons_self,
              bornWorkspace_of_workspaceOf (fun k row hrow => h.view hs hrow) hworkspace⟩
          exact hin.mono hborn (fun _ hw => hw) htable
        rw [hpending, hscopes, hstore]
        refine ⟨fun row hrow => ?_, fun change hchange row hrow => ?_⟩
        · rcases List.mem_append.mp hrow with hold | hnew
          · exact ⟨(h.put j s row hold hs).mono hborn, (h.left j s row hold hs).mono hborn hscope⟩
          · exact ⟨h.born_of_put haccept hs hfresh hanswer hsame hnew,
              hmine row (hconfined.left row hnew)⟩
        · rcases List.mem_append.mp hchange with hold | hnew
          · exact (h.replaced j s change hold hs row hrow).mono hborn hscope
          · rcases released_of_store hanswer hnew hrow with ⟨earlier, hearlier, heq⟩ | hreleased
            · exact (h.replaced j s earlier hearlier hs row (heq ▸ hrow)).mono hborn hscope
            · exact hmine row fun htable => workspaceOf_of_allows haccept htable hreleased.1
    · exact hcarries j (hothers j hj) (fun k hk => heffect.store_of_locked hlocking hk hj) t' ht'
  refine ⟨fun k row hrow => ?_, fun j t row hrow ht => ((hall j t ht).1 row hrow).1,
    fun j t change hchange ht => (hall j t ht).2 change hchange,
    fun j t row hrow ht => ((hall j t ht).1 row hrow).2⟩
  cases heffect with
  | quiet _ hstore => exact (h.stored k row (hstore ▸ hrow)).mono hborn
  | committed s hs hstore => exact (h.view hs (hstore ▸ hrow)).mono hborn
  | answered s s' c statement answer hs hanswer hfree hstore =>
    exact (h.stored k row (hstore ▸ hrow)).mono hborn

/-! ## The rows of a workspace -/

/-- A committed row of a workspace. -/
def BelongsTo (t : Records) (w : String) (row : Record) : Prop :=
  t.get? row.key = some row ∧ workspaceOf t row = some w

/-- The rows of a workspace stay where those of the direct tables do. -/
theorem BelongsTo.mono {t t' : Records} {w : String} {row : Record}
    (hrow : t'.get? row.key = some row)
    (hdirect : ∀ incident, incident.table ∈ directTenantTables → BelongsTo t w incident →
      t'.get? (Record.key incident) = some incident)
    (h : BelongsTo t w row) : BelongsTo t' w row := by
  refine ⟨hrow, ?_⟩
  obtain ⟨-, hworkspace⟩ := h
  unfold workspaceOf at hworkspace ⊢
  split
  · next htable => rwa [if_pos htable] at hworkspace
  · next htable =>
    rw [if_neg htable] at hworkspace
    split
    · next hindirect =>
      rw [if_pos hindirect, Option.bind_eq_some_iff] at hworkspace
      obtain ⟨id, hid, hincident⟩ := hworkspace
      obtain ⟨incident, hget, hcolumn⟩ := Option.bind_eq_some_iff.mp hincident
      have hkey : Record.key incident = ("incidents", id) := Table.key_of_get? hget
      have htable : incident.table ∈ directTenantTables := by
        rw [(Prod.mk.inj hkey).1]
        decide
      have hbelongs : BelongsTo t w incident := by
        refine ⟨by rw [hkey, hget], ?_⟩
        rw [workspaceOf_direct htable, hcolumn]
      rw [hid, Option.bind_some, ← hkey, hdirect incident htable hbelongs, Option.bind_some,
        hcolumn]
    · next hindirect =>
      rw [if_neg hindirect] at hworkspace
      cases hworkspace

variable [DecidableEq ι] [DecidableEq γ]

/-- Releasing a session's locks writes nothing. -/
theorem Server.release_store : (r.release i s).store = r.store := by
  unfold Server.release
  dsimp only
  split <;> rfl

theorem Server.release_born : (r.release i s).born = r.born := by
  unfold Server.release
  dsimp only
  split <;> rfl

/-- It ends the transaction of that session. -/
theorem Server.release_session {j : ι} :
    (r.release i s).session j = if j = i then some s.ended else r.session j := by
  have hupdate : (r.release i s).session = Function.update r.session i (some s.ended) := by
    unfold Server.release
    dsimp only
    split <;> rfl
  rw [hupdate, Function.update_apply]

/-- Locks of other sessions stay. -/
theorem Server.release_lock {j : ι} {k : RecordKey} (hj : j ≠ i) (h : r.lock k = some j) :
    (r.release i s).lock k = some j := by
  have hlock : (r.release i s).lock k = (r.lock k).filter (· ≠ i) := by
    unfold Server.release
    dsimp only
    split <;> rfl
  rw [hlock, h, Option.filter_some]
  simp [hj]

/-- The end of a transaction leaves those of the others. -/
theorem carriesOn_release (j : ι) : CarriesOn r (r.release i s) j := by
  intro t' ht'
  rw [Server.release_session] at ht'
  split at ht'
  · obtain rfl := Option.some.inj ht'
    exact Or.inl rfl
  · next hj => exact Or.inr ⟨t', ht', rfl, rfl, fun k hk => Server.release_lock hj hk⟩

omit [DecidableEq γ] in
/-- A step that keeps the locks, and moves one session within its transaction. -/
theorem carriesOn_of_update (s' : TenantSession γ) (hlock : r'.lock = r.lock)
    (hsession : r'.session = Function.update r.session i (some s')) (hs : r.session i = some s)
    (hpending : s'.pending = s.pending) (hscopes : s'.scopes = s.scopes) (j : ι) :
    CarriesOn r r' j := by
  intro t' ht'
  have hlocks : ∀ k, r.lock k = some j → r'.lock k = some j := fun k hk => by
    rw [hlock]
    exact hk
  rw [hsession] at ht'
  by_cases hj : j = i
  · subst hj
    rw [Function.update_self, Option.some.injEq] at ht'
    subst ht'
    exact Or.inr ⟨s, hs, hpending, hscopes, hlocks⟩
  · rw [Function.update_of_ne hj] at ht'
    exact Or.inr ⟨t', ht', rfl, rfl, hlocks⟩

/-- Naming a workspace leaves every session where it was. -/
theorem carriesOn_setTenantContext {workspaceId : String} (hs : r.session i = some s)
    (hset : r.setTenantContext i s workspaceId c = some r') :
    r'.store = r.store ∧ r'.born = r.born ∧ ∀ j, CarriesOn r r' j := by
  unfold Server.setTenantContext at hset
  split at hset
  · obtain rfl := Option.some.inj hset
    exact ⟨rfl, rfl, carriesOn_refl⟩
  · next value _ =>
    dsimp only at hset
    split at hset
    · obtain rfl := Option.some.inj hset
      exact ⟨rfl, rfl, carriesOn_of_update _ rfl rfl hs rfl rfl⟩
    · obtain rfl := Option.some.inj hset
      exact ⟨rfl, rfl, carriesOn_of_update _ rfl rfl hs rfl rfl⟩
    all_goals
      split at hset
      · cases hset
      · next c' r₁ hconnect =>
        obtain rfl := Option.some.inj hset
        rcases Server.connect_cases hconnect with ⟨-, rfl⟩ | ⟨-, -, -, rfl⟩
        · exact ⟨rfl, rfl, carriesOn_of_update { s with info := some value } rfl rfl hs rfl rfl⟩
        · -- the session is written twice, as it sets its workspace and as it begins
          refine ⟨rfl, rfl, carriesOn_of_update { s with info := some value, stage := .active c }
            rfl ?_ hs rfl rfl⟩
          exact Function.update_idem ..

/-- One of the three is what a step does, and the other sessions go on. -/
theorem SessionStep.effect {a : SessionAction ι γ} (hpooled : Pooled r)
    (h : SessionStep catalog r a r') :
    RowEffect catalog r r' a.party a ∧ ∀ j, j ≠ a.party → CarriesOn r r' j := by
  cases h with
  | «open» i hs =>
    refine ⟨.quiet _ rfl rfl fun t' ht' => Or.inl ?_, fun j hj t' ht' => ?_⟩
    · rw [SessionAction.party, r.setSession_self, Option.some.injEq] at ht'
      exact ht' ▸ rfl
    · rw [r.setSession_ne _ (show j ≠ i from hj)] at ht'
      exact carriesOn_refl j t' ht'
  | stay i => exact ⟨.quiet _ rfl rfl (carriesOn_refl i), fun j _ => carriesOn_refl j⟩
  | autobegin i s hs hstage =>
    have hcarries : ∀ j, CarriesOn r (r.setSession i { s with stage := .begun }) j :=
      carriesOn_of_update { s with stage := .begun } rfl rfl hs rfl rfl
    exact ⟨.quiet _ rfl rfl (hcarries i), fun j _ => hcarries j⟩
  | setTenantContext i s workspaceId c _ hs hset =>
    obtain ⟨hstore, hborn, hcarries⟩ := carriesOn_setTenantContext hs hset
    exact ⟨.quiet _ hstore hborn (hcarries i), fun j _ => hcarries j⟩
  | execute i s c statement _ hs hexecute =>
    obtain ⟨c', r₁, hconnect, hcases⟩ := Server.execute_cases hexecute
    have hconnected := hpooled.connect hs hconnect
    rw [hconnected.setting] at hcases
    have hothers : ∀ j, j ≠ i → ∀ t, r₁.session j = some t → r.session j = some t :=
      fun j hj t ht => by rwa [hconnected.others j hj] at ht
    rcases hcases with ⟨e, -, rfl⟩ | ⟨answer, hanswer, hunlocked, rfl⟩
    · refine ⟨.quiet _ hconnected.store hconnected.born fun t' ht' => Or.inl ?_,
        fun j hj t' ht' => ?_⟩
      · rw [SessionAction.party, r₁.setSession_self, Option.some.injEq] at ht'
        exact ht' ▸ rfl
      · rw [r₁.setSession_ne _ (show j ≠ i from hj)] at ht'
        exact Or.inr ⟨t', hothers j hj t' ht', rfl, rfl, fun k hk => hconnected.lock ▸ hk⟩
    · have hfree : ∀ change ∈ answer.changes, ∀ j,
          r.lock (change.target Record.key) = some j → j = i := by
        intro change hchange j hj
        have hlock := List.all_eq_true.mp hunlocked change hchange
        rw [hconnected.lock, hj] at hlock
        exact of_decide_eq_true hlock
      refine ⟨.answered s _ c statement answer hs hanswer hfree hconnected.store
        (Function.update_self ..) rfl rfl (fun k => ?_) (fun k => ?_), fun j hj t' ht' => ?_⟩
      · show (if k ∈ _ then some i else r₁.lock k) = _
        rw [hconnected.lock]
        rfl
      · show (r₁.born k).or _ = _
        rw [hconnected.born]
      · rw [r₁.answered_ne _ _ _ (show j ≠ i from hj)] at ht'
        refine Or.inr ⟨t', hothers j hj t' ht', rfl, rfl, fun k hk => ?_⟩
        show (if k ∈ _ then some i else r₁.lock k) = _
        rw [hconnected.lock]
        split
        · -- a row the statement changes was not locked by another
          next hmem =>
          obtain ⟨change, hchange, rfl⟩ := List.mem_map.mp hmem
          exact absurd (hfree change hchange j hk) hj
        · exact hk
  | commit i s hs =>
    unfold Server.commit
    split
    · refine ⟨.committed s hs Server.release_store Server.release_born fun t ht => ?_,
        fun j hj => ?_⟩
      · rw [SessionAction.party, Server.release_session, if_pos rfl, Option.some.injEq] at ht
        exact ht ▸ rfl
      · exact fun t' ht' => carriesOn_release (r := { r with store := s.view r.store }) j t' ht'
    · exact ⟨.quiet _ Server.release_store Server.release_born (carriesOn_release i),
        fun j _ => carriesOn_release j⟩
  | rollback i s hs =>
    exact ⟨.quiet _ Server.release_store Server.release_born (carriesOn_release i),
      fun j _ => carriesOn_release j⟩
  | close i s hs =>
    refine ⟨.quiet _ Server.release_store Server.release_born fun t' ht' => ?_,
      fun j hj t' ht' => ?_⟩
    · exact carriesOn_release i t' (Server.session_of_closed ht')
    · exact carriesOn_release j t' (Server.session_of_closed ht')

/-! ## Runs -/

/-- In every run a pending write holds the lock of its row. -/
theorem locking_invariant (catalog : Catalog) (C : Server ι γ → SessionAction ι γ → Prop) :
    Invariant (serverSystem catalog) C fun r => Pooled r ∧ Locking r where
  init r h := by
    refine ⟨(pooled_invariant catalog C).init r h, ?_, ?_⟩
    all_goals
      intro i s change _ hs
      rw [congrFun h.1 i] at hs
      cases hs
  step r a r' h hC hnext := by
    obtain ⟨heffect, hothers⟩ := (SessionStep.of_next hnext).effect h.1
    exact ⟨(pooled_invariant catalog C).step r a r' h.1 hC hnext, h.2.step heffect hothers⟩

/-- No step changes or removes an immutable row. -/
theorem immutable_row_step {row : Record} (h : Reachable (serverSystem catalog) r)
    (hnext : (serverSystem catalog).next r a = some r') (hrow : row.table ∈ immutableTables)
    (hstored : r.store.get? row.key = some row) : r'.store.get? row.key = some row := by
  obtain ⟨hpooled, hlocking⟩ := (locking_invariant catalog _).reachable h
  obtain ⟨i, heffect⟩ : ∃ i, RowEffect catalog r r' i a :=
    ⟨_, ((SessionStep.of_next hnext).effect hpooled).1⟩
  cases heffect with
  | quiet _ hstore => rw [hstore, hstored]
  | committed s hs hstore =>
    rw [hstore, view_of_unchanged, hstored]
    intro change hchange heq
    exact hlocking.movable i s change hchange hs row (heq ▸ hstored) hrow
  | answered s s' c statement answer hs hanswer hfree hstore => rw [hstore, hstored]

/-- **Immutable rows.** Whatever the sessions do and whatever workspaces they are in, a committed
row of an immutable table stays as it was committed. -/
theorem immutable_rows_kept {row : Record} {actions : List (SessionAction ι γ)}
    (h : Reachable (serverSystem catalog) r)
    (hrun : (serverSystem catalog).run r actions = some r') (hrow : row.table ∈ immutableTables)
    (hstored : r.store.get? row.key = some row) : r'.store.get? row.key = some row := by
  induction actions generalizing r with
  | nil =>
    obtain rfl := Option.some.inj hrun
    exact hstored
  | cons a rest ih =>
    obtain ⟨r₁, hnext, hrest⟩ := System.run_cons_eq_some.mp hrun
    exact ih (h.step trivial hnext) hrest (immutable_row_step h hnext hrow hstored)

/-- A session of `workspace-a` tries to delete the snapshot of its own workspace. -/
def deletingRun : List (SessionAction Bool Unit) :=
  [.open true, .setTenantContext true "workspace-a" (),
    .execute true () (.delete fun row => row.table == "postmortem_snapshots"), .commit true]

/-- Where `deletingRun` ends. -/
def deletingServer : Server Bool Unit :=
  ((serverSystem runtimeCatalog).run twoTenants deletingRun).get rfl

/-- A snapshot somebody tries to delete. -/
theorem immutable_rows_kept_deleted :
    deletingServer.store.get? ("postmortem_snapshots", "3") =
      some (snapshotRow "3" "workspace-a") := by
  have hrun : (serverSystem runtimeCatalog).run twoTenants deletingRun = some deletingServer :=
    (Option.some_get _).symm
  have hstored : twoTenants.store.get? (snapshotRow "3" "workspace-a").key =
      some (snapshotRow "3" "workspace-a") := rfl
  exact immutable_rows_kept (.init twoTenants_start) hrun (by decide) hstored

end DeployGuard.Service
