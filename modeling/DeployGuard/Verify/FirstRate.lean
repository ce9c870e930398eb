import DeployGuard.Verify.Coverage

/-!
# The rate the minimum begins with

`min(rates) < threshold` keeps the first rate until another is below it. Nothing is below
NaN, so a NaN that comes first hides the rates after it, and one that comes later is skipped.
A metric may be a text, and `float("nan")` reads one. The rates come in the order of their
items' keys, and items with one key in the order they were given in: an item `Leads` if
nothing the check looks at is sorted before it.

> `verify_order_independent`: runs on the same items, paths and rules, reordered and repeated,
> agree iff the items do not leave it to their order whether a NaN or a number comes first,
> with a rate below the threshold (`OrderSensitive`).
-/

namespace DeployGuard.Verify

open Raise Sorted

/-- The item has a rate the check looks at, and no item with one is sorted before it. -/
structure EvidenceItem.Leads (item : EvidenceItem) (evidence : List EvidenceItem)
    (rate : FloatVal) : Prop where
  mem : item ∈ evidence
  rate : item.Measures rate
  first : ∀ other ∈ evidence, ∀ x, other.Measures x → itemLe item other = true

/-- Under the threshold a rate is below it, and of the items that lead one has the rate NaN and
another a number. -/
structure OrderSensitive (policy : LoadedPolicy) (evidence : List EvidenceItem) : Prop where
  below : RateBelow policy evidence
  nan : ∃ item : EvidenceItem, item.Leads evidence .nan
  number : ∃ item : EvidenceItem, ∃ rate, item.Leads evidence rate ∧ rate ≠ .nan

variable {host : Host} {change change' : GitChange} {policy policy' : LoadedPolicy}
  {evidence evidence' : List EvidenceItem} {item : EvidenceItem} {rate : FloatVal}

theorem EvidenceItem.Leads.congr (hitems : SameItems evidence evidence')
    (h : item.Leads evidence rate) : item.Leads evidence' rate where
  mem := (hitems item).mp h.mem
  rate := h.rate
  first other hother := h.first other ((hitems other).mpr hother)

theorem OrderSensitive.congr (hitems : SameItems evidence evidence')
    (h : OrderSensitive policy evidence) : OrderSensitive policy evidence' where
  below := by
    obtain ⟨hpos, item, hitem, hrate⟩ := h.below
    exact ⟨hpos, item, (hitems item).mp hitem, hrate⟩
  nan := h.nan.imp fun _ hleads => hleads.congr hitems
  number := h.number.imp fun _ ⟨rate, hleads, hne⟩ => ⟨rate, hleads.congr hitems, hne⟩

end DeployGuard.Verify
