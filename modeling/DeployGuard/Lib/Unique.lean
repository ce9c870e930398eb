import DeployGuard.Lib.Table

/-!
# Unique columns

A column of a table besides its key in which no two rows agree: `UNIQUE (column)`. A lookup by
it finds the one row there is, and the constraint survives an `INSERT` of a free value and an
`UPDATE` of one row to a value no other row has.
-/

namespace Table

variable {κ ρ γ : Type} {key : ρ → κ}

/-- `UNIQUE (column)`. -/
def Unique (t : Table key) (column : ρ → γ) : Prop := (t.rows.map column).Nodup

/-- Two rows that agree in a unique column are the same row. -/
theorem Unique.eq {t : Table key} {column : ρ → γ} (h : t.Unique column) {r r' : ρ}
    (hr : r ∈ t.rows) (hr' : r' ∈ t.rows) (heq : column r = column r') : r = r' :=
  List.inj_on_of_nodup_map h hr hr' heq

variable [DecidableEq γ]

/-- `session.scalar(select(…).where(column == value))`. -/
def findBy (t : Table key) (column : ρ → γ) (value : γ) : Option ρ :=
  t.rows.find? fun r => column r = value

theorem findBy_eq_none {t : Table key} {column : ρ → γ} {value : γ} :
    t.findBy column value = none ↔ ∀ r ∈ t.rows, column r ≠ value := by
  simp [findBy, List.find?_eq_none]

theorem mem_of_findBy {t : Table key} {column : ρ → γ} {value : γ} {r : ρ}
    (h : t.findBy column value = some r) : r ∈ t.rows := List.mem_of_find?_eq_some h

theorem column_of_findBy {t : Table key} {column : ρ → γ} {value : γ} {r : ρ}
    (h : t.findBy column value = some r) : column r = value := by simpa using List.find?_some h

variable [DecidableEq κ]

theorem Unique.insert {t t' : Table key} {column : ρ → γ} {r : ρ} (h : t.Unique column)
    (hfree : t.findBy column (column r) = none) (hinsert : t.insert r = some t') :
    t'.Unique column := by
  unfold Unique
  rw [(insert_eq_some hinsert).2, List.map_append, List.nodup_append']
  refine ⟨h, List.nodup_singleton _, fun value hvalue hnew => ?_⟩
  obtain ⟨r', hr', rfl⟩ := List.mem_map.mp hvalue
  exact findBy_eq_none.mp hfree r' hr' (List.mem_singleton.mp hnew)

omit [DecidableEq γ] in
/-- One row is set to values that no other row has. -/
theorem Unique.updateKey {t : Table key} {column : ρ → γ} {k : κ} {f : ρ → ρ}
    {hf : ∀ r, key (f r) = key r} (h : t.Unique column)
    (hfree : ∀ r ∈ t.rows, key r = k → ∀ r' ∈ t.rows, key r' ≠ k → column r' ≠ column (f r)) :
    (t.updateWhere (fun r => key r = k) f hf).Unique column := by
  unfold Unique updateWhere
  rw [List.map_map]
  refine List.Nodup.map_on (fun r hr r' hr' heq => ?_) (List.Nodup.of_map _ t.nodup)
  simp only [Function.comp] at heq
  by_cases hk : key r = k
  · by_cases hk' : key r' = k
    · exact t.eq_of_key_eq hr hr' (hk.trans hk'.symm)
    · rw [if_pos (decide_eq_true hk), if_neg (by simpa using hk')] at heq
      exact absurd heq.symm (hfree r hr hk r' hr' hk')
  · by_cases hk' : key r' = k
    · rw [if_neg (by simpa using hk), if_pos (decide_eq_true hk')] at heq
      exact absurd heq (hfree r' hr' hk' r hr hk)
    · rw [if_neg (by simpa using hk), if_neg (by simpa using hk')] at heq
      exact h.eq hr hr' heq

omit [DecidableEq γ] [DecidableEq κ] in
/-- Other columns of the rows may change. -/
theorem Unique.updateWhere {t : Table key} {column : ρ → γ} {p : ρ → Bool} {f : ρ → ρ}
    {hf : ∀ r, key (f r) = key r} (h : t.Unique column) (hcolumn : ∀ r, column (f r) = column r) :
    (t.updateWhere p f hf).Unique column := by
  have hsame : ((t.updateWhere p f hf).rows.map column) = t.rows.map column := by
    unfold Table.updateWhere
    rw [List.map_map]
    refine List.map_congr_left fun r _ => ?_
    simp only [Function.comp]
    split
    · exact hcolumn r
    · rfl
  unfold Unique
  rw [hsame]
  exact h

end Table
