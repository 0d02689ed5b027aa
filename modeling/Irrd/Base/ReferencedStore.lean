import Mathlib.Data.Set.Image

/-!
# Stores with references

The entries of a store have keys and refer to others. A reference gives alternatives, one of which
has to be the key of an entry. A batch of changes that adds and removes entries at once keeps all
references resolved, if those of the added entries resolve to what is left, and no removed entry is
referred to by one that is kept.
-/

namespace Irrd.Base

universe u v

/-- Entries with keys, and with references to other entries. -/
structure Linked (E : Type u) (K : Type v) where
  key : E → K
  references : E → Set (Set K)

namespace Linked

variable {E : Type u} {K : Type v} (L : Linked E K)

/-- A reference resolves to an entry. -/
def Resolves (S : Set E) (alternatives : Set K) : Prop := ∃ e ∈ S, L.key e ∈ alternatives

/-- All references of all entries resolve. -/
def Closed (S : Set E) : Prop := ∀ e ∈ S, ∀ alternatives ∈ L.references e, L.Resolves S alternatives

/-- A store after a batch of changes. It has only entries that were added, and entries that were
there before and not removed. It has the key of every entry that was added or there before, unless
this was removed. -/
structure Batch (before after added : Set E) (removed : Set K) : Prop where
  origin : ∀ e ∈ after, (e ∈ before ∧ L.key e ∉ removed) ∨ e ∈ added
  present : ∀ e ∈ before ∪ added, L.key e ∉ removed → ∃ e' ∈ after, L.key e' = L.key e

variable {L} {before after added : Set E} {removed : Set K}

/-- What resolves to an entry that is not removed still resolves after a batch. -/
theorem Batch.resolves (hbatch : L.Batch before after added removed) {alternatives : Set K} {e : E}
    (he : e ∈ before ∪ added) (halternative : L.key e ∈ alternatives) (hkept : L.key e ∉ removed) :
    L.Resolves after alternatives := by
  obtain ⟨e', he', hkey⟩ := hbatch.present e he hkept
  exact ⟨e', he', hkey ▸ halternative⟩

/-- A batch whose additions refer to what is left, and that removes nothing that is referred to by
what is kept, leaves a closed store closed. -/
theorem Closed.batch (hclosed : L.Closed before) (hbatch : L.Batch before after added removed)
    (hadded : ∀ e ∈ added, ∀ alternatives ∈ L.references e,
      ∃ e' ∈ before ∪ added, L.key e' ∈ alternatives ∧ L.key e' ∉ removed)
    (hremoved : ∀ e ∈ before, L.key e ∉ removed → ∀ alternatives ∈ L.references e,
      ∀ e' ∈ before, L.key e' ∈ alternatives → L.key e' ∉ removed) :
    L.Closed after := by
  intro e he alternatives halternatives
  rcases hbatch.origin e he with ⟨hbefore, hkept⟩ | hnew
  · obtain ⟨e', he', halternative⟩ := hclosed e hbefore alternatives halternatives
    exact hbatch.resolves (Set.mem_union_left _ he') halternative
      (hremoved e hbefore hkept alternatives halternatives e' he' halternative)
  · obtain ⟨e', he', halternative, hkept⟩ := hadded e hnew alternatives halternatives
    exact hbatch.resolves he' halternative hkept

end Linked

end Irrd.Base
