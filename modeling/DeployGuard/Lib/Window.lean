import Mathlib.Data.List.Pairwise
import Mathlib.Order.Lattice
import Mathlib.Tactic.Tauto

/-!
# Events in a sliding window

Events come with a key and a time, and how many of a key fall into a window that
ends now is read off a queue of times, oldest first. The queues may be pruned
whenever they are looked at, and forgotten once all of their times are old:

> `Tracks floor latest queue history`: after `floor`, each queue holds exactly the
> times of its key in the history, in order.

The floor only rises (`Tracks.mono`), a queue may be replaced by any sorted one that
agrees with it after the floor (`Tracks.replace`), and `Tracks.record` is the event
itself. What a window needs is `Tracks.length_prune`: a queue pruned at the window's
start is as long as the events in the window are many.
-/

namespace Window

variable {κ τ : Type} [DecidableEq κ]

/-- The times of a key in a history, oldest first. -/
def times (key : κ) (history : List (κ × τ)) : List τ :=
  (history.filter fun event => event.1 = key).map Prod.snd

theorem times_append_self (key : κ) (t : τ) (history : List (κ × τ)) :
    times key (history ++ [(key, t)]) = times key history ++ [t] := by
  simp [times]

theorem times_append_ne {key other : κ} (h : other ≠ key) (t : τ) (history : List (κ × τ)) :
    times key (history ++ [(other, t)]) = times key history := by
  simp [times, h]

variable [LinearOrder τ]

/-- What comes after a cutoff. -/
def after (cutoff : τ) (ts : List τ) : List τ := ts.filter fun t => cutoff < t

/-- The events of a key in a window: after its start, and up to its end. -/
def events (key : κ) (start stop : τ) (history : List (κ × τ)) : List (κ × τ) :=
  history.filter fun event => event.1 = key ∧ start < event.2 ∧ event.2 ≤ stop

@[simp] theorem after_nil (cutoff : τ) : after cutoff ([] : List τ) = [] := rfl

theorem after_append (cutoff : τ) (ts ts' : List τ) :
    after cutoff (ts ++ ts') = after cutoff ts ++ after cutoff ts' := List.filter_append ..

/-- A later cutoff makes an earlier one needless. -/
theorem after_after {cutoff later : τ} (h : cutoff ≤ later) (ts : List τ) :
    after later (after cutoff ts) = after later ts := by
  unfold after
  rw [List.filter_filter]
  refine List.filter_congr fun t _ => ?_
  rw [Bool.eq_iff_iff, Bool.and_eq_true, decide_eq_true_eq, decide_eq_true_eq]
  exact and_iff_left_of_imp h.trans_lt

/-- Of a sorted queue, dropping old times at its front drops all of them. -/
theorem dropWhile_eq_after {cutoff : τ} {ts : List τ} (h : ts.Pairwise (· ≤ ·)) :
    ts.dropWhile (fun t => t ≤ cutoff) = after cutoff ts := by
  induction ts with
  | nil => rfl
  | cons t ts ih =>
    obtain ⟨hle, hts⟩ := List.pairwise_cons.mp h
    by_cases ht : t ≤ cutoff
    · rw [List.dropWhile_cons_of_pos (by simpa using ht), ih hts, after, after,
        List.filter_cons_of_neg (by simpa using ht)]
    · have hall : ∀ u ∈ t :: ts, cutoff < u := by
        intro u hu
        obtain rfl | hu := List.mem_cons.mp hu
        · exact not_le.mp ht
        · exact (not_le.mp ht).trans_le (hle u hu)
      rw [List.dropWhile_cons_of_neg (by simpa using ht), after,
        List.filter_eq_self.mpr fun u hu => decide_eq_true (hall u hu)]

/-- A sorted queue whose last time is old holds nothing else. -/
theorem after_eq_nil {cutoff last : τ} {ts : List τ} (h : ts.Pairwise (· ≤ ·))
    (hlast : ts.getLast? = some last) (hold : last ≤ cutoff) : after cutoff ts = [] := by
  obtain ⟨init, rfl⟩ := List.getLast?_eq_some_iff.mp hlast
  unfold after
  rw [List.filter_eq_nil_iff]
  intro t ht
  rw [decide_eq_true_eq, not_lt]
  obtain ht | ht := List.mem_append.mp ht
  · exact ((List.pairwise_append.mp h).2.2 t ht last (List.mem_singleton_self _)).trans hold
  · rw [List.mem_singleton.mp ht]
    exact hold

/-- After the floor, the queues hold what the history does; nothing is later than
`latest`. -/
structure Tracks (floor latest : τ) (queue : κ → List τ) (history : List (κ × τ)) : Prop where
  sorted : ∀ key, (queue key).Pairwise (· ≤ ·)
  same : ∀ key, after floor (queue key) = after floor (times key history)
  queued : ∀ key, ∀ t ∈ queue key, t ≤ latest
  happened : ∀ event ∈ history, event.2 ≤ latest

namespace Tracks

variable {floor latest : τ} {queue : κ → List τ} {history : List (κ × τ)}

theorem empty (floor latest : τ) : Tracks floor latest (fun _ : κ => []) [] :=
  ⟨fun _ => .nil, fun _ => rfl, fun _ _ h => absurd h List.not_mem_nil,
    fun _ h => absurd h List.not_mem_nil⟩

/-- The window moves on. -/
theorem mono {floor' latest' : τ} (h : Tracks floor latest queue history) (hfloor : floor ≤ floor')
    (hlatest : latest ≤ latest') : Tracks floor' latest' queue history := by
  refine ⟨h.sorted, fun key => ?_, fun key t ht => (h.queued key t ht).trans hlatest,
    fun event hevent => (h.happened event hevent).trans hlatest⟩
  rw [← after_after hfloor, h.same, after_after hfloor]

/-- Old times may be dropped from the queues, in part or all of them. -/
theorem replace {queue' : κ → List τ} (h : Tracks floor latest queue history)
    (hsub : ∀ key, (queue' key).Sublist (queue key))
    (hsame : ∀ key, after floor (queue' key) = after floor (queue key)) :
    Tracks floor latest queue' history :=
  ⟨fun key => (h.sorted key).sublist (hsub key), fun key => (hsame key).trans (h.same key),
    fun key t ht => h.queued key t ((hsub key).subset ht), h.happened⟩

/-- A queue is pruned at the floor. -/
theorem prune (h : Tracks floor latest queue history) (key : κ) :
    Tracks floor latest (Function.update queue key ((queue key).dropWhile fun t => t ≤ floor))
      history := by
  refine h.replace (fun k => ?_) (fun k => ?_)
  · by_cases hk : k = key
    · subst hk
      rw [Function.update_self]
      exact List.dropWhile_sublist _
    · simpa only [Function.update_of_ne hk] using List.Sublist.refl (queue k)
  · by_cases hk : k = key
    · subst hk
      rw [Function.update_self, dropWhile_eq_after (h.sorted k), after_after le_rfl]
    · rw [Function.update_of_ne hk]

/-- An event is recorded in the queue of its key. -/
theorem record (h : Tracks floor latest queue history) (key : κ) :
    Tracks floor latest (Function.update queue key (queue key ++ [latest]))
      (history ++ [(key, latest)]) := by
  refine ⟨fun k => ?_, fun k => ?_, fun k t ht => ?_, fun event hevent => ?_⟩
  · by_cases hk : k = key
    · subst hk
      rw [Function.update_self, List.pairwise_append]
      refine ⟨h.sorted k, List.pairwise_singleton _ _, fun t ht u hu => ?_⟩
      rw [List.mem_singleton.mp hu]
      exact h.queued k t ht
    · rw [Function.update_of_ne hk]
      exact h.sorted k
  · by_cases hk : k = key
    · subst hk
      rw [Function.update_self, times_append_self, after_append, after_append, h.same]
    · rw [Function.update_of_ne hk, times_append_ne (Ne.symm hk), h.same]
  · by_cases hk : k = key
    · subst hk
      rw [Function.update_self, List.mem_append, List.mem_singleton] at ht
      obtain ht | rfl := ht
      · exact h.queued k t ht
      · exact le_rfl
    · rw [Function.update_of_ne hk] at ht
      exact h.queued k t ht
  · obtain hevent | hevent := List.mem_append.mp hevent
    · exact h.happened event hevent
    · rw [List.mem_singleton.mp hevent]

/-- A queue pruned at the floor counts the events of the window. -/
theorem length_prune (h : Tracks floor latest queue history) (key : κ) :
    ((queue key).dropWhile fun t => t ≤ floor).length = (events key floor latest history).length := by
  rw [dropWhile_eq_after (h.sorted key), h.same, after, times, List.filter_map, List.length_map,
    List.filter_filter, events]
  congr 1
  refine List.filter_congr fun event hevent => ?_
  rw [Bool.eq_iff_iff, Bool.and_eq_true]
  simp only [Function.comp_apply, decide_eq_true_eq]
  have hlatest := h.happened event hevent
  tauto

end Tracks

end Window
