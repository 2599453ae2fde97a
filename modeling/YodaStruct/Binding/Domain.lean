import YodaStruct.Config.Reader
import YodaStruct.Library.Components
import Mathlib.Data.Finset.Card
import Mathlib.Data.Rat.Floor

/-! The `domainStats` binding. It masks the listed sites, renames a neighbour table from
indices to atom IDs, and hands both to the engine, which is a parameter. An access out of
bounds has no result. -/
namespace YodaStruct.Binding
open YodaStruct.Config Components

/-- What `domainStats` reads of a `molSys::Point`. -/
structure Point where
  atomID : ℤ

structure Cloud where
  pts : List Point
  nop : ℤ

/-- As many points as `nop` says, with distinct IDs. -/
structure Cloud.Valid (cloud : Cloud) : Prop where
  nop_eq : cloud.nop = cloud.pts.length
  ids_nodup : (cloud.pts.map Point.atomID).Nodup

/-- `site::Kind`. -/
inductive Kind
  | unspecified | cationHead | anion | tail | donorH | acceptor | polar | apolar | waterO
  | waterH | solvent
  deriving DecidableEq

def siteKindName : Kind → CppString
  | .unspecified => "unspecified".toList
  | .cationHead => "cationHead".toList
  | .anion => "anion".toList
  | .tail => "tail".toList
  | .donorH => "donorH".toList
  | .acceptor => "acceptor".toList
  | .polar => "polar".toList
  | .apolar => "apolar".toList
  | .waterO => "waterO".toList
  | .waterH => "waterH".toList
  | .solvent => "solvent".toList

/-- What `clump::largestDomain` returns. -/
structure DomainResult (Ratio : Type) where
  subset : ℕ
  largest : ℕ
  percolation : Ratio

structure DomainEngine (Table Length Ratio : Type) where
  indicesOf : Cloud → Table → Kind → List ℤ
  getNewNeighbourListByIndex : Cloud → Length → List (List ℤ)
  largestDomain : Cloud → List (List ℤ) → List Bool → DomainResult Ratio

section Loops
variable (cloud : Cloud)

/-- The guard of both loops. -/
def InRange (index : ℤ) : Prop := 0 ≤ index ∧ index < cloud.nop

instance : DecidablePred (InRange cloud) := fun index =>
  inferInstanceAs (Decidable (0 ≤ index ∧ index < cloud.nop))

/-- `mask[index] = true`, for an index in range. -/
def markSite (mask : List Bool) (index : ℤ) : Option (List Bool) :=
  if InRange cloud index then
    if index.toNat < mask.length then some (mask.set index.toNat true) else none
  else some mask

def siteMask (sites : List ℤ) : Option (List Bool) :=
  sites.foldlM (markSite cloud) (List.replicate cloud.nop.toNat false)

/-- `byId[i].push_back(cloud.pts[index].atomID)`, for an index in range. -/
def pushId (ids : List ℤ) (index : ℤ) : Option (List ℤ) :=
  if InRange cloud index then
    cloud.pts[index.toNat]?.map fun point => ids ++ [point.atomID]
  else some ids

def byIdRow (row : List ℤ) : Option (List ℤ) := row.foldlM (pushId cloud) []

def byIdRows (byIndex : List (List ℤ)) : Option (List (List ℤ)) := byIndex.mapM (byIdRow cloud)

end Loops

/-- The table that `domainStats` returns. -/
structure DomainStats (Ratio : Type) where
  siteKind : CppString
  n : ℕ
  largest : ℕ
  percolation : Ratio

def domainStats {Table Length Ratio : Type} (engine : DomainEngine Table Length Ratio)
    (cloud : Cloud) (table : Table) (kind : Kind) (cutoff : Length) :
    Option (DomainStats Ratio) := do
  let mask ← siteMask cloud (engine.indicesOf cloud table kind)
  let byId ← byIdRows cloud (engine.getNewNeighbourListByIndex cloud cutoff)
  let domain := engine.largestDomain cloud byId mask
  pure
    { siteKind := siteKindName kind
      n := domain.subset
      largest := domain.largest
      percolation := domain.percolation }

/-! The mask. -/

/-- A marked site is in the mask, and nothing else changes. -/
theorem markSite_spec {cloud : Cloud} (hc : cloud.Valid) {mask : List Bool}
    (hm : mask.length = cloud.pts.length) (index : ℤ) :
    ∃ mask', markSite cloud mask index = some mask' ∧ mask'.length = cloud.pts.length ∧
      ∀ i : ℕ, mask'[i]? = some true ↔
        mask[i]? = some true ∨ i < cloud.pts.length ∧ index = i := by
  have hnop := hc.nop_eq
  unfold markSite
  by_cases hr : InRange cloud index
  · have hrange : 0 ≤ index ∧ index < cloud.nop := hr
    have hlt : index.toNat < mask.length := by omega
    refine ⟨mask.set index.toNat true, by rw [if_pos hr, if_pos hlt], by simpa using hm, ?_⟩
    intro i
    rw [List.getElem?_set]
    split_ifs with hi
    · constructor
      · intro _
        exact Or.inr (by omega)
      · intro _
        rfl
    · have hne : index ≠ i := by omega
      simp [hne]
  · have hrange : ¬ (0 ≤ index ∧ index < cloud.nop) := hr
    refine ⟨mask, if_neg hr, hm, ?_⟩
    intro i
    constructor
    · exact Or.inl
    · rintro (h | ⟨hi, hix⟩)
      · exact h
      · omega

theorem foldlM_markSite {cloud : Cloud} (hc : cloud.Valid) (sites : List ℤ) {mask : List Bool}
    (hm : mask.length = cloud.pts.length) :
    ∃ mask', sites.foldlM (markSite cloud) mask = some mask' ∧
      mask'.length = cloud.pts.length ∧
      ∀ i : ℕ, mask'[i]? = some true ↔
        mask[i]? = some true ∨ i < cloud.pts.length ∧ (i : ℤ) ∈ sites := by
  induction sites generalizing mask with
  | nil => exact ⟨mask, rfl, hm, by simp⟩
  | cons index sites ih =>
    obtain ⟨mask₁, h₁, hm₁, hmem₁⟩ := markSite_spec hc hm index
    obtain ⟨mask₂, h₂, hm₂, hmem₂⟩ := ih hm₁
    refine ⟨mask₂, ?_, hm₂, ?_⟩
    · rw [List.foldlM_cons, h₁]
      exact h₂
    · intro i
      rw [hmem₂, hmem₁, List.mem_cons]
      constructor
      · rintro ((h | ⟨hi, rfl⟩) | ⟨hi, h⟩)
        · exact Or.inl h
        · exact Or.inr ⟨hi, Or.inl rfl⟩
        · exact Or.inr ⟨hi, Or.inr h⟩
      · rintro (h | ⟨hi, h | h⟩)
        · exact Or.inl (Or.inl h)
        · exact Or.inl (Or.inr ⟨hi, h.symm⟩)
        · exact Or.inr ⟨hi, h⟩

/-- The mask is true exactly at the listed sites that are in range. -/
theorem siteMask_spec {cloud : Cloud} (hc : cloud.Valid) (sites : List ℤ) :
    ∃ mask, siteMask cloud sites = some mask ∧ mask.length = cloud.pts.length ∧
      ∀ i : ℕ, mask[i]? = some true ↔ i < cloud.pts.length ∧ (i : ℤ) ∈ sites := by
  have hlen : (List.replicate cloud.nop.toNat false).length = cloud.pts.length := by
    have hnop := hc.nop_eq
    simp [hnop]
  obtain ⟨mask, hmask, hm, hmem⟩ := foldlM_markSite hc sites hlen
  refine ⟨mask, hmask, hm, ?_⟩
  intro i
  rw [hmem, List.getElem?_replicate]
  simp

/-! The table by ID. -/

/-- The ID of the point at an index in range. -/
def Cloud.idOf (cloud : Cloud) (index : ℤ) : ℤ :=
  (cloud.pts[index.toNat]?.map Point.atomID).getD 0

/-- The index at which an ID is found first. -/
def Cloud.idToIndex (cloud : Cloud) (id : ℤ) : Option ℕ :=
  cloud.pts.findIdx? fun point => point.atomID = id

/-- The rows of a neighbour table without the entries out of range. -/
def inRangeRows (cloud : Cloud) (byIndex : List (List ℤ)) : List (List ℤ) :=
  byIndex.map fun row => row.filter (InRange cloud ·)

section Ids
variable {cloud : Cloud} (hc : cloud.Valid)
include hc

theorem getElem?_of_inRange {index : ℤ} (hr : InRange cloud index) :
    ∃ point, cloud.pts[index.toNat]? = some point ∧ point.atomID = cloud.idOf index := by
  have hrange : 0 ≤ index ∧ index < cloud.nop := hr
  have hnop := hc.nop_eq
  have hlt : index.toNat < cloud.pts.length := by omega
  have hget := List.getElem?_eq_getElem hlt
  refine ⟨_, hget, ?_⟩
  unfold Cloud.idOf
  rw [hget]
  rfl

theorem foldlM_pushId (row ids : List ℤ) :
    row.foldlM (pushId cloud) ids =
      some (ids ++ (row.filter (InRange cloud ·)).map cloud.idOf) := by
  induction row generalizing ids with
  | nil => simp [pure]
  | cons index row ih =>
    rw [List.foldlM_cons]
    unfold pushId
    by_cases hr : InRange cloud index
    · obtain ⟨point, hpoint, hid⟩ := getElem?_of_inRange hc hr
      rw [if_pos hr, hpoint, List.filter_cons_of_pos (by simpa using hr), List.map_cons, ← hid]
      refine (ih _).trans ?_
      simp
    · rw [if_neg hr, List.filter_cons_of_neg (by simpa using hr)]
      exact ih ids

theorem byIdRow_eq (row : List ℤ) :
    byIdRow cloud row = some ((row.filter (InRange cloud ·)).map cloud.idOf) :=
  foldlM_pushId hc row []

/-- Each row keeps its entries in range, in their order, as IDs. -/
theorem byIdRows_eq (byIndex : List (List ℤ)) :
    byIdRows cloud byIndex = some ((inRangeRows cloud byIndex).map (List.map cloud.idOf)) := by
  unfold byIdRows inRangeRows
  induction byIndex with
  | nil => rfl
  | cons row byIndex ih =>
    rw [List.mapM_cons, byIdRow_eq hc, ih]
    rfl

/-- An ID leads back to its index. -/
theorem idToIndex_idOf {index : ℤ} (hr : InRange cloud index) :
    cloud.idToIndex (cloud.idOf index) = some index.toNat := by
  obtain ⟨point, hpoint, hid⟩ := getElem?_of_inRange hc hr
  obtain ⟨hlt, rfl⟩ := List.getElem?_eq_some_iff.mp hpoint
  unfold Cloud.idToIndex
  rw [List.findIdx?_eq_some_iff_getElem]
  refine ⟨hlt, by simpa using hid, ?_⟩
  intro j hj hsame
  have hjid : cloud.pts[j].atomID = cloud.pts[index.toNat].atomID := by
    rw [hid]
    simpa using hsame
  have hpt : cloud.pts[j] = cloud.pts[index.toNat] := List.inj_on_of_nodup_map hc.ids_nodup
    (List.getElem_mem _) (List.getElem_mem _) hjid
  have hji : j = index.toNat := hc.ids_nodup.of_map.getElem_inj_iff.mp hpt
  omega

theorem idOf_inj {a b : ℤ} (ha : InRange cloud a) (hb : InRange cloud b)
    (h : cloud.idOf a = cloud.idOf b) : a = b := by
  have hrange : 0 ≤ a ∧ a < cloud.nop := ha
  have hrange' : 0 ≤ b ∧ b < cloud.nop := hb
  have hindex : some a.toNat = some b.toNat := by
    rw [← idToIndex_idOf hc ha, ← idToIndex_idOf hc hb, h]
  have := Option.some.inj hindex
  omega

/-- Read back through the lookup, the table by ID is the table by index in range. -/
theorem map_idToIndex (byIndex : List (List ℤ)) :
    ((inRangeRows cloud byIndex).map (List.map cloud.idOf)).map (List.map cloud.idToIndex) =
      (inRangeRows cloud byIndex).map (List.map fun index => some index.toNat) := by
  rw [List.map_map]
  apply List.map_congr_left
  intro row hrow
  obtain ⟨row, -, rfl⟩ := List.mem_map.mp hrow
  rw [Function.comp_apply, List.map_map]
  apply List.map_congr_left
  intro index hindex
  exact idToIndex_idOf hc (by simpa using (List.mem_filter.mp hindex).2)

end Ids

/-! The graphs. -/

/-- Indices joined by a neighbour table by index. -/
def indexGraph (rows : List (List ℤ)) : SimpleGraph ℕ :=
  .fromRel fun i j => ∃ row, rows[i]? = some row ∧ (j : ℤ) ∈ row

/-- IDs joined by a neighbour table by ID, whose rows stand in the order of the points. -/
def idGraph (cloud : Cloud) (byId : List (List ℤ)) : SimpleGraph ℤ :=
  .fromRel fun a b => ∃ (i : ℕ) (point : Point) (row : List ℤ), cloud.pts[i]? = some point ∧
    point.atomID = a ∧ byId[i]? = some row ∧ b ∈ row

/-- The IDs of the points that a mask selects. -/
def maskedIds (cloud : Cloud) (mask : List Bool) : Set ℤ :=
  {a | ∃ (i : ℕ) (point : Point), cloud.pts[i]? = some point ∧ point.atomID = a ∧
    mask[i]? = some true}

/-- The listed sites in range. -/
def maskedIndices (cloud : Cloud) (sites : List ℤ) : Finset ℕ :=
  (Finset.range cloud.pts.length).filter fun i => (i : ℤ) ∈ sites

/-- On a table with one row for each point, the engine counts the masked points and finds
their largest connected component. -/
structure DomainEngine.MeasuresMasked {Table Length Ratio : Type}
    (engine : DomainEngine Table Length Ratio) : Prop where
  subset : ∀ (cloud : Cloud) byId mask, cloud.Valid → byId.length = cloud.pts.length →
    mask.length = cloud.pts.length → (engine.largestDomain cloud byId mask).subset = mask.count true
  largest : ∀ (cloud : Cloud) byId mask, cloud.Valid → byId.length = cloud.pts.length →
    mask.length = cloud.pts.length → (engine.largestDomain cloud byId mask).largest =
      Components.largest ((idGraph cloud byId).induce (maskedIds cloud mask))

theorem count_true_eq_card (mask : List Bool) :
    mask.count true = ((Finset.range mask.length).filter fun i => mask[i]? = some true).card := by
  induction mask using List.reverseRecOn with
  | nil => rfl
  | append_singleton mask b ih =>
    have hinit : (Finset.range mask.length).filter (fun i => (mask ++ [b])[i]? = some true) =
        (Finset.range mask.length).filter fun i => mask[i]? = some true := by
      apply Finset.filter_congr
      intro i hi
      rw [List.getElem?_append_left (Finset.mem_range.mp hi)]
    have hlast : (mask ++ [b])[mask.length]? = some b := by simp
    rw [List.length_append, List.length_singleton, Finset.range_add_one, Finset.filter_insert,
      hinit, hlast, List.count_append, ih]
    cases b <;> simp

theorem mem_maskedIndices {cloud : Cloud} {sites : List ℤ} {i : ℕ} :
    i ∈ maskedIndices cloud sites ↔ i < cloud.pts.length ∧ (i : ℤ) ∈ sites := by
  simp [maskedIndices]

theorem idOf_natCast {cloud : Cloud} {i : ℕ} {point : Point} (h : cloud.pts[i]? = some point) :
    cloud.idOf i = point.atomID := by
  unfold Cloud.idOf
  simp [h]

section Graphs
variable {cloud : Cloud} (hc : cloud.Valid)
include hc

theorem inRange_natCast {i : ℕ} : InRange cloud i ↔ i < cloud.pts.length := by
  have hnop := hc.nop_eq
  unfold InRange
  omega

omit hc in
/-- The masked IDs are the IDs of the masked sites. -/
theorem maskedIds_eq {sites : List ℤ} {mask : List Bool}
    (hm : ∀ i : ℕ, mask[i]? = some true ↔ i < cloud.pts.length ∧ (i : ℤ) ∈ sites) :
    maskedIds cloud mask = (fun i : ℕ => cloud.idOf i) '' maskedIndices cloud sites := by
  ext a
  constructor
  · rintro ⟨i, point, hpoint, rfl, hi⟩
    exact ⟨i, mem_maskedIndices.mpr ((hm i).mp hi), idOf_natCast hpoint⟩
  · rintro ⟨i, hi, rfl⟩
    have hmem := mem_maskedIndices.mp hi
    have hget := List.getElem?_eq_getElem hmem.1
    exact ⟨i, _, hget, (idOf_natCast hget).symm, (hm i).mpr hmem⟩

theorem idOf_injOn (sites : List ℤ) :
    Set.InjOn (fun i : ℕ => cloud.idOf i) (maskedIndices cloud sites) := by
  intro i hi j hj h
  have hi' := (mem_maskedIndices.mp hi).1
  have hj' := (mem_maskedIndices.mp hj).1
  have := idOf_inj hc ((inRange_natCast hc).mpr hi') ((inRange_natCast hc).mpr hj') h
  omega

/-- An edge of the table by ID is an edge of the table by index in range. -/
theorem idEdge_iff (byIndex : List (List ℤ)) {i j : ℕ} (hi : i < cloud.pts.length)
    (hj : j < cloud.pts.length) :
    (∃ (i' : ℕ) (point : Point) (row : List ℤ), cloud.pts[i']? = some point ∧
        point.atomID = cloud.idOf i ∧
        ((inRangeRows cloud byIndex).map (List.map cloud.idOf))[i']? = some row ∧
        cloud.idOf j ∈ row) ↔
      ∃ row, (inRangeRows cloud byIndex)[i]? = some row ∧ (j : ℤ) ∈ row := by
  have hji : InRange cloud j := (inRange_natCast hc).mpr hj
  constructor
  · rintro ⟨i', point, row, hpoint, hid, hrow, hmem⟩
    have hi' : i' < cloud.pts.length := (List.getElem?_eq_some_iff.mp hpoint).1
    have hsame : (i' : ℤ) = i := by
      apply idOf_inj hc ((inRange_natCast hc).mpr hi') ((inRange_natCast hc).mpr hi)
      rw [idOf_natCast hpoint, hid]
    obtain rfl : i' = i := by omega
    rw [List.getElem?_map, Option.map_eq_some_iff] at hrow
    obtain ⟨row, hrow, rfl⟩ := hrow
    refine ⟨row, hrow, ?_⟩
    obtain ⟨index, hindex, heq⟩ := List.mem_map.mp hmem
    have hrange : InRange cloud index := by
      obtain ⟨row', -, rfl⟩ := List.mem_map.mp (List.mem_of_getElem? hrow)
      simpa using (List.mem_filter.mp hindex).2
    rwa [idOf_inj hc hrange hji heq] at hindex
  · rintro ⟨row, hrow, hmem⟩
    have hget := List.getElem?_eq_getElem hi
    refine ⟨i, _, row.map cloud.idOf, hget, (idOf_natCast hget).symm, ?_,
      List.mem_map_of_mem hmem⟩
    rw [List.getElem?_map, hrow]
    rfl

/-- The masked graph on IDs is the masked graph on indices, under other names. -/
theorem largest_idGraph (byIndex : List (List ℤ)) {sites : List ℤ} {mask : List Bool}
    (hm : ∀ i : ℕ, mask[i]? = some true ↔ i < cloud.pts.length ∧ (i : ℤ) ∈ sites) :
    Components.largest ((idGraph cloud ((inRangeRows cloud byIndex).map
        (List.map cloud.idOf))).induce (maskedIds cloud mask)) =
      Components.largest ((indexGraph (inRangeRows cloud byIndex)).induce
        (maskedIndices cloud sites : Set ℕ)) := by
  rw [maskedIds_eq hm]
  refine largest_relabel (idOf_injOn hc sites) ?_
  intro i hi j hj
  exact idEdge_iff hc byIndex (mem_maskedIndices.mp hi).1 (mem_maskedIndices.mp hj).1

end Graphs

/-- The masked sites are the listed ones in range. -/
theorem count_mask_eq_card {cloud : Cloud} {sites : List ℤ} {mask : List Bool}
    (hlen : mask.length = cloud.pts.length)
    (hm : ∀ i : ℕ, mask[i]? = some true ↔ i < cloud.pts.length ∧ (i : ℤ) ∈ sites) :
    mask.count true = (maskedIndices cloud sites).card := by
  have hset : (Finset.range mask.length).filter (fun i => mask[i]? = some true) =
      maskedIndices cloud sites := by
    ext i
    rw [Finset.mem_filter, Finset.mem_range, hm, mem_maskedIndices, hlen, and_self_left]
  rw [count_true_eq_card, hset]

section Measures
variable {Table Length Ratio : Type} {engine : DomainEngine Table Length Ratio}
  (he : engine.MeasuresMasked) {cloud : Cloud} (hc : cloud.Valid) (table : Table) (kind : Kind)
  {cutoff : Length} {byIndex : List (List ℤ)}
  (hlist : engine.getNewNeighbourListByIndex cloud cutoff = byIndex)
  (hrows : byIndex.length = cloud.pts.length)
include he hc hlist hrows

/-- A cloud whose points have an ID each, and a neighbour table with a row for each of them, keep
the binding in bounds; and what the engine measures by ID is what there is by index. -/
theorem exists_domainStats :
    ∃ out, domainStats engine cloud table kind cutoff = some out ∧
      out.siteKind = siteKindName kind ∧
      out.n = (maskedIndices cloud (engine.indicesOf cloud table kind)).card ∧
      out.largest = Components.largest ((indexGraph (inRangeRows cloud byIndex)).induce
        (maskedIndices cloud (engine.indicesOf cloud table kind) : Set ℕ)) := by
  obtain ⟨mask, hmask, hlen, hmem⟩ := siteMask_spec hc (engine.indicesOf cloud table kind)
  have hbyId := byIdRows_eq hc byIndex
  have hlen' : ((inRangeRows cloud byIndex).map (List.map cloud.idOf)).length =
      cloud.pts.length := by
    simpa [inRangeRows] using hrows
  let domain := engine.largestDomain cloud
    ((inRangeRows cloud byIndex).map (List.map cloud.idOf)) mask
  refine ⟨⟨siteKindName kind, domain.subset, domain.largest, domain.percolation⟩, ?_, rfl, ?_, ?_⟩
  · unfold domainStats
    rw [hlist, hmask, hbyId]
    rfl
  · exact (he.subset cloud _ mask hc hlen' hlen).trans (count_mask_eq_card hlen hmem)
  · exact (he.largest cloud _ mask hc hlen' hlen).trans (largest_idGraph hc byIndex hmem)

end Measures

/-- `domainStats` stays in bounds, its table by ID reads back as the table by index in range,
its mask is true exactly at the listed sites in range, and what it returns is measured on the
graph of the table by index. -/
theorem domainStats_measures {Table Length Ratio : Type} {engine : DomainEngine Table Length Ratio}
    (he : engine.MeasuresMasked) {cloud : Cloud} (hc : cloud.Valid) (table : Table) (kind : Kind)
    {cutoff : Length} {byIndex : List (List ℤ)}
    (hlist : engine.getNewNeighbourListByIndex cloud cutoff = byIndex)
    (hrows : byIndex.length = cloud.pts.length) :
    ∃ mask byId out,
      siteMask cloud (engine.indicesOf cloud table kind) = some mask ∧
      byIdRows cloud byIndex = some byId ∧
      domainStats engine cloud table kind cutoff = some out ∧
      (∀ i : ℕ, mask[i]? = some true ↔
        i < cloud.pts.length ∧ (i : ℤ) ∈ engine.indicesOf cloud table kind) ∧
      byId.map (List.map cloud.idToIndex) =
        (inRangeRows cloud byIndex).map (List.map fun index => some index.toNat) ∧
      out.n = (maskedIndices cloud (engine.indicesOf cloud table kind)).card ∧
      out.largest = Components.largest ((indexGraph (inRangeRows cloud byIndex)).induce
        (maskedIndices cloud (engine.indicesOf cloud table kind) : Set ℕ)) := by
  obtain ⟨mask, hmask, -, hmem⟩ := siteMask_spec hc (engine.indicesOf cloud table kind)
  obtain ⟨out, hrun, -, hn, hlargest⟩ := exists_domainStats he hc table kind hlist hrows
  exact ⟨mask, _, out, hmask, byIdRows_eq hc byIndex, hrun, hmem, map_idToIndex hc byIndex, hn,
    hlargest⟩

/-! An engine that does what it is documented to do, on tables it is given. -/

noncomputable def measuringEngine : DomainEngine (List ℤ) (List (List ℤ)) ℚ where
  indicesOf := fun _ table _ => table
  getNewNeighbourListByIndex := fun _ rows => rows
  largestDomain := fun cloud byId mask =>
    let subset := mask.count true
    let largest := Components.largest ((idGraph cloud byId).induce (maskedIds cloud mask))
    ⟨subset, largest, (largest : ℚ) / subset⟩

theorem measuringEngine_measuresMasked : measuringEngine.MeasuresMasked where
  subset := fun _ _ _ _ _ _ => rfl
  largest := fun _ _ _ _ _ _ => rfl

/-- Three points, of which the neighbour table and the site list name others too. -/
def threePoints : Cloud where
  pts := [⟨7⟩, ⟨3⟩, ⟨5⟩]
  nop := 3

theorem domainStats_threePoints :
    ∃ mask byId out,
      siteMask threePoints [0, -1, 2, 9] = some mask ∧
      byIdRows threePoints [[1, -1], [0, 2, 3], [1]] = some byId ∧
      domainStats measuringEngine threePoints [0, -1, 2, 9] .polar [[1, -1], [0, 2, 3], [1]] =
        some out ∧
      (∀ i : ℕ, mask[i]? = some true ↔ i < 3 ∧ (i : ℤ) ∈ [0, -1, 2, 9]) ∧
      byId.map (List.map threePoints.idToIndex) =
        (inRangeRows threePoints [[1, -1], [0, 2, 3], [1]]).map
          (List.map fun index => some index.toNat) ∧
      out.n = (maskedIndices threePoints [0, -1, 2, 9]).card ∧
      out.largest = Components.largest
        ((indexGraph (inRangeRows threePoints [[1, -1], [0, 2, 3], [1]])).induce
          (maskedIndices threePoints [0, -1, 2, 9] : Set ℕ)) :=
  domainStats_measures measuringEngine_measuresMasked ⟨rfl, by decide⟩ [0, -1, 2, 9] .polar rfl rfl

end YodaStruct.Binding
