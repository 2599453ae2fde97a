import Mathlib.Combinatorics.SimpleGraph.Connectivity.Connected
import Mathlib.Data.Set.Card
import Mathlib.Order.Lattice.Nat

/-! The size of the largest connected component of a graph, and relabellings of vertices. -/
namespace Components
open SimpleGraph

variable {V W : Type*}

noncomputable def largest (G : SimpleGraph V) : ℕ := ⨆ C : G.ConnectedComponent, C.supp.ncard

theorem largest_congr {G : SimpleGraph V} {H : SimpleGraph W} (φ : G ≃g H) :
    largest G = largest H := by
  refine Equiv.iSup_congr φ.connectedComponentEquiv ?_
  intro C
  rw [← Nat.card_coe_set_eq, ← Nat.card_coe_set_eq]
  exact (Nat.card_congr (ConnectedComponent.isoEquivSupp φ C)).symm

/-- Vertices may be given other names, as long as no two get the same. -/
theorem largest_relabel {S : Set V} {f : V → W} (hf : S.InjOn f) {r : V → V → Prop}
    {r' : W → W → Prop} (hr : ∀ a ∈ S, ∀ b ∈ S, r' (f a) (f b) ↔ r a b) :
    largest ((fromRel r').induce (f '' S)) = largest ((fromRel r).induce S) := by
  have hadj : ∀ a b : S, (fromRel r').Adj (f a) (f b) ↔ (fromRel r).Adj a b := by
    intro a b
    rw [fromRel_adj, fromRel_adj, hf.ne_iff a.2 b.2, hr a a.2 b b.2, hr b b.2 a a.2]
  let e : S ≃ f '' S := Equiv.Set.imageOfInjOn f S hf
  have φ : (fromRel r).induce S ≃g (fromRel r').induce (f '' S) :=
    { toEquiv := e
      map_rel_iff' := by
        intro a b
        exact hadj a b }
  exact (largest_congr φ).symm

end Components
