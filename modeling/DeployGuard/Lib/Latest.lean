import Mathlib.Data.List.Perm.Basic
import Mathlib.Order.Lattice

/-!
# Last writer wins

Items arrive one after another, each with a key and a stamp. The register of a
key keeps the item of the greatest stamp: an item older than one that came before
it under its key is dropped, one as old as the kept one replaces it. Histories
are lists with the newest item first.

`lastWhere p` is the last item that was taken, when `p` decides what is taken
from what came before; the register of a key is the case where being taken means
being `Fresh`.
-/

namespace Latest

variable {α κ τ : Type*}

/-- The last item of a history that was taken. -/
def lastWhere (p : List α → α → Prop) [∀ older a, Decidable (p older a)] : List α → Option α
  | [] => none
  | a :: older => if p older a then some a else lastWhere p older

section LastWhere

variable {p : List α → α → Prop} [∀ older a, Decidable (p older a)] {older as : List α} {a b : α}

theorem lastWhere_cons_pos (h : p older a) : lastWhere p (a :: older) = some a := if_pos h

theorem lastWhere_cons_neg (h : ¬p older a) : lastWhere p (a :: older) = lastWhere p older :=
  if_neg h

/-- The last item taken is one of the history, and was taken when it came. -/
theorem lastWhere_spec (h : lastWhere p as = some a) : a ∈ as ∧ ∃ older, p older a := by
  induction as with
  | nil => cases h
  | cons b older ih =>
    by_cases hb : p older b
    · rw [lastWhere_cons_pos hb] at h
      cases h
      exact ⟨List.mem_cons_self .., older, hb⟩
    · rw [lastWhere_cons_neg hb] at h
      obtain ⟨hmem, hp⟩ := ih h
      exact ⟨List.mem_cons_of_mem _ hmem, hp⟩

/-- A history in which something was taken has a last one that was. -/
theorem lastWhere_isSome {newer : List α} (h : p older a) :
    ∃ b, lastWhere p (newer ++ a :: older) = some b := by
  induction newer with
  | nil => exact ⟨a, lastWhere_cons_pos h⟩
  | cons b newer ih =>
    by_cases hb : p (newer ++ a :: older) b
    · exact ⟨b, lastWhere_cons_pos hb⟩
    · obtain ⟨b', hb'⟩ := ih
      exact ⟨b', (lastWhere_cons_neg hb).trans hb'⟩

end LastWhere

variable [DecidableEq κ] [LinearOrder τ] (key : α → κ) (stamp : α → τ)

/-- No older item of the same key has a later stamp. -/
def Fresh (older : List α) (a : α) : Prop := ∀ b ∈ older, key b = key a → stamp b ≤ stamp a

instance (older : List α) (a : α) : Decidable (Fresh key stamp older a) :=
  inferInstanceAs (Decidable (∀ b ∈ older, key b = key a → stamp b ≤ stamp a))

/-- What the register of a key holds after a history. -/
def register (k : κ) (as : List α) : Option α :=
  lastWhere (fun older a => key a = k ∧ Fresh key stamp older a) as

section Register

variable {key stamp} {k : κ} {older as : List α} {a b : α}

theorem register_cons_pos (hk : key a = k) (h : Fresh key stamp older a) :
    register key stamp k (a :: older) = some a :=
  lastWhere_cons_pos ⟨hk, h⟩

theorem register_cons_stale (h : ¬Fresh key stamp older a) :
    register key stamp k (a :: older) = register key stamp k older :=
  lastWhere_cons_neg fun ha => h ha.2

theorem register_cons_ne (hk : key a ≠ k) :
    register key stamp k (a :: older) = register key stamp k older :=
  lastWhere_cons_neg fun ha => hk ha.1

theorem register_mem (h : register key stamp k as = some a) : a ∈ as ∧ key a = k := by
  obtain ⟨hmem, older, hk, -⟩ := lastWhere_spec h
  exact ⟨hmem, hk⟩

/-- A register is empty just when nothing came under its key, and otherwise holds
an item of the greatest stamp. -/
theorem register_greatest (as : List α) :
    (register key stamp k as = none → ∀ b ∈ as, key b ≠ k) ∧
      ∀ a, register key stamp k as = some a → ∀ b ∈ as, key b = k → stamp b ≤ stamp a := by
  induction as with
  | nil => exact ⟨fun _ b hb => absurd hb List.not_mem_nil, fun a h => nomatch h⟩
  | cons c older ih =>
    obtain ⟨ihnone, ihmax⟩ := ih
    by_cases hk : key c = k
    · by_cases hfresh : Fresh key stamp older c
      · rw [register_cons_pos hk hfresh]
        refine ⟨nofun, ?_⟩
        intro a h b hb hbk
        cases h
        rcases List.mem_cons.mp hb with rfl | hb
        · exact le_rfl
        · exact hfresh b hb (hbk.trans hk.symm)
      · rw [register_cons_stale hfresh]
        simp only [Fresh, not_forall] at hfresh
        obtain ⟨b', hb', hkey, hlt⟩ := hfresh
        refine ⟨fun hnone => absurd (hkey.trans hk) (ihnone hnone b' hb'), fun a ha b hb hbk => ?_⟩
        rcases List.mem_cons.mp hb with rfl | hb
        · exact (not_le.mp hlt).le.trans (ihmax a ha b' hb' (hkey.trans hk))
        · exact ihmax a ha b hb hbk
    · rw [register_cons_ne hk]
      refine ⟨fun hnone b hb => ?_, fun a ha b hb hbk => ?_⟩
      · rcases List.mem_cons.mp hb with rfl | hb
        · exact hk
        · exact ihnone hnone b hb
      · rcases List.mem_cons.mp hb with rfl | hb
        · exact absurd hbk hk
        · exact ihmax a ha b hb hbk

theorem register_le (h : register key stamp k as = some a) (hb : b ∈ as) (hk : key b = k) :
    stamp b ≤ stamp a := (register_greatest as).2 a h b hb hk

theorem register_isSome (hb : b ∈ as) (hk : key b = k) : ∃ a, register key stamp k as = some a :=
  Option.ne_none_iff_exists'.mp fun hnone => (register_greatest as).1 hnone b hb hk

/-- What came before counts only through the register. -/
theorem fresh_iff : Fresh key stamp as a ↔
    ∀ b, register key stamp (key a) as = some b → stamp b ≤ stamp a := by
  constructor
  · intro h b hb
    obtain ⟨hmem, hk⟩ := register_mem hb
    exact h b hmem hk
  · intro h b hb hk
    obtain ⟨c, hc⟩ : ∃ c, register key stamp (key a) as = some c := register_isSome hb hk
    exact (register_le hc hb hk).trans (h c hc)

end Register

end Latest
