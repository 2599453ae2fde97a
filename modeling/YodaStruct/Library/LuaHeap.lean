import Mathlib.Order.Basic
import YodaStruct.Library.LuaTable

/-! A store of Lua tables that grows, and arrays in it whose values are tables themselves. -/
namespace LuaTable

variable {ν : Type*}

structure Heap (ν : Type*) where
  tables : ℕ → Option (Table ν)
  /-- Where the next table goes. -/
  next : ℕ

namespace Heap
variable {h h' h'' : Heap ν}

/-- Everything that was there is there as it was. -/
structure Extends (h h' : Heap ν) : Prop where
  next_le : h.next ≤ h'.next
  tables_eq : ∀ i < h.next, h'.tables i = h.tables i

theorem Extends.refl (h : Heap ν) : h.Extends h := ⟨le_rfl, fun _ _ => rfl⟩

theorem Extends.trans (h₁ : h.Extends h') (h₂ : h'.Extends h'') : h.Extends h'' where
  next_le := h₁.next_le.trans h₂.next_le
  tables_eq i hi := (h₂.tables_eq i (hi.trans_le h₁.next_le)).trans (h₁.tables_eq i hi)

def write (h : Heap ν) (i : ℕ) (t : Table ν) : Heap ν :=
  { h with tables := Function.update h.tables i (some t) }

/-- A new empty table, at `h.next`. -/
def create (h : Heap ν) : Heap ν := { h.write h.next ∅ with next := h.next + 1 }

/-- `t[key] = v` for the table at `i`, and a value that is not `nil`. -/
def set (h : Heap ν) (i : ℕ) (key : Key) (v : ν) : Heap ν :=
  match h.tables i with
  | some t => h.write i (t.insert key v)
  | none => h

@[simp] theorem next_set (h : Heap ν) (i : ℕ) (key : Key) (v : ν) :
    (h.set i key v).next = h.next := by
  unfold set
  cases h.tables i <;> rfl

theorem tables_set_of_ne (h : Heap ν) {i j : ℕ} (hne : j ≠ i) (key : Key) (v : ν) :
    (h.set i key v).tables j = h.tables j := by
  unfold set
  cases h.tables i with
  | none => rfl
  | some t => exact Function.update_of_ne hne _ _

theorem tables_set_self {h : Heap ν} {i : ℕ} {t : Table ν} (ht : h.tables i = some t) (key : Key)
    (v : ν) : (h.set i key v).tables i = some (t.insert key v) := by
  unfold set
  rw [ht]
  exact Function.update_self _ _ _

theorem extends_create (h : Heap ν) : h.Extends h.create where
  next_le := Nat.le_succ _
  tables_eq _ hi := Function.update_of_ne hi.ne _ _

/-- Writing to what is new keeps what was there. -/
theorem Extends.set (he : h.Extends h') {i : ℕ} (hi : h.next ≤ i) (key : Key) (v : ν) :
    h.Extends (h'.set i key v) where
  next_le := by simpa using he.next_le
  tables_eq j hj := by
    rw [tables_set_of_ne h' (by omega)]
    exact he.tables_eq j hj

/-- The table at `i` is an array of these values. -/
def ArrayAt (h : Heap ν) (i : ℕ) (vs : List ν) : Prop := ∃ t, h.tables i = some t ∧ t.IsArray vs

theorem ArrayAt.congr {i : ℕ} {vs : List ν} (ha : h.ArrayAt i vs) (he : h'.tables i = h.tables i) :
    h'.ArrayAt i vs := by
  obtain ⟨t, ht, hvs⟩ := ha
  exact ⟨t, he.trans ht, hvs⟩

theorem arrayAt_create (h : Heap ν) : h.create.ArrayAt h.next [] :=
  ⟨∅, Function.update_self _ _ _, Table.isArray_empty⟩

theorem ArrayAt.append {i : ℕ} {vs : List ν} (ha : h.ArrayAt i vs) (v : ν) :
    (h.set i (.index (vs.length + 1)) v).ArrayAt i (vs ++ [v]) := by
  obtain ⟨t, ht, hvs⟩ := ha
  exact ⟨t.setAt (vs.length + 1) v, tables_set_self ht _ v, hvs.append v⟩

/-- Values one after the other, from `n` on. -/
def fill (h : Heap ν) (i : ℕ) : ℤ → List ν → Heap ν
  | _, [] => h
  | n, v :: vs => (h.set i (.index n) v).fill i (n + 1) vs

/-- A new array, at `h.next`. -/
def pushArray (h : Heap ν) (vs : List ν) : Heap ν := h.create.fill h.next 1 vs

theorem extends_fill (he : h.Extends h') {i : ℕ} (hi : h.next ≤ i) (n : ℤ) (vs : List ν) :
    h.Extends (h'.fill i n vs) := by
  induction vs generalizing h' n with
  | nil => exact he
  | cons v vs ih => exact ih (he.set hi _ v) (n + 1)

theorem next_fill (h : Heap ν) (i : ℕ) (n : ℤ) (vs : List ν) : (h.fill i n vs).next = h.next := by
  induction vs generalizing h n with
  | nil => rfl
  | cons v vs ih => rw [fill, ih, next_set]

theorem arrayAt_fill {i : ℕ} {us : List ν} (ha : h.ArrayAt i us) (vs : List ν) :
    (h.fill i (us.length + 1) vs).ArrayAt i (us ++ vs) := by
  induction vs generalizing h us with
  | nil => simpa [fill] using ha
  | cons v vs ih =>
    have htail := ih (ha.append v)
    rw [List.length_append, List.length_singleton, List.append_assoc] at htail
    exact htail

theorem extends_pushArray (h : Heap ν) (vs : List ν) : h.Extends (h.pushArray vs) :=
  extends_fill h.extends_create le_rfl 1 vs

theorem next_pushArray (h : Heap ν) (vs : List ν) : (h.pushArray vs).next = h.next + 1 :=
  next_fill _ _ _ _

theorem arrayAt_pushArray (h : Heap ν) (vs : List ν) : (h.pushArray vs).ArrayAt h.next vs :=
  arrayAt_fill h.arrayAt_create vs

/-! Tables of named values. -/

/-- Values one after the other, each under its name. -/
def fillNames (h : Heap ν) (i : ℕ) : List (List Char × ν) → Heap ν
  | [] => h
  | f :: fields => (h.set i (.name f.1) f.2).fillNames i fields

/-- A new table of these values, at `h.next`. -/
def pushNames (h : Heap ν) (fields : List (List Char × ν)) : Heap ν :=
  h.create.fillNames h.next fields

theorem extends_fillNames (he : h.Extends h') {i : ℕ} (hi : h.next ≤ i)
    (fields : List (List Char × ν)) : h.Extends (h'.fillNames i fields) := by
  induction fields generalizing h' with
  | nil => exact he
  | cons f fields ih => exact ih (he.set hi _ _)

theorem next_fillNames (h : Heap ν) (i : ℕ) (fields : List (List Char × ν)) :
    (h.fillNames i fields).next = h.next := by
  induction fields generalizing h with
  | nil => rfl
  | cons f fields ih => rw [fillNames, ih, next_set]

theorem tables_fillNames {i : ℕ} {t : Table ν} (ht : h.tables i = some t)
    (fields : List (List Char × ν)) : (h.fillNames i fields).tables i =
      some (fields.foldl (fun t f => t.insert (.name f.1) f.2) t) := by
  induction fields generalizing h t with
  | nil => exact ht
  | cons f fields ih => exact ih (tables_set_self ht _ _)

theorem extends_pushNames (h : Heap ν) (fields : List (List Char × ν)) :
    h.Extends (h.pushNames fields) := extends_fillNames h.extends_create le_rfl fields

theorem next_pushNames (h : Heap ν) (fields : List (List Char × ν)) :
    (h.pushNames fields).next = h.next + 1 := next_fillNames _ _ _

theorem tables_pushNames (h : Heap ν) (fields : List (List Char × ν)) :
    (h.pushNames fields).tables h.next = some (Table.ofNames fields) :=
  tables_fillNames (Function.update_self _ _ _) fields

/-! Arrays of arrays. `ref` makes the value that stands for a table. -/

section Rows
variable (ref : ℕ → ν)

/-- Arrays one after the other, each in the outer one before the next is made. -/
def fillRows (h : Heap ν) (i : ℕ) : ℤ → List (List ν) → Heap ν
  | _, [] => h
  | n, row :: rows => ((h.pushArray row).set i (.index n) (ref h.next)).fillRows i (n + 1) rows

def pushRows (h : Heap ν) (rows : List (List ν)) : Heap ν := h.create.fillRows ref h.next 1 rows

/-- At `r` is an array of the rows, made of tables with `p`. -/
structure RowsAt (h : Heap ν) (p : ℕ → Prop) (r : ℕ) (refs : List ℕ) (rows : List (List ν)) :
    Prop where
  outer_mem : p r
  inner_mem : ∀ i ∈ refs, p i
  outer : h.ArrayAt r (refs.map ref)
  inner : List.Forall₂ h.ArrayAt refs rows

variable {ref}

theorem forall₂_arrayAt_congr {refs : List ℕ} {rows : List (List ν)}
    (hr : List.Forall₂ h.ArrayAt refs rows) (he : ∀ i ∈ refs, h'.tables i = h.tables i) :
    List.Forall₂ h'.ArrayAt refs rows := by
  induction hr with
  | nil => exact .nil
  | cons ha _ ih =>
    exact .cons (ha.congr (he _ List.mem_cons_self)) (ih fun i hi => he i (List.mem_cons_of_mem _ hi))

/-- The rows, each with the place of its table. -/
theorem exists_pairs {ι : Type*} {f : ι → List ν} {refs : List ℕ} {rows : List ι}
    (hr : List.Forall₂ h.ArrayAt refs (rows.map f)) :
    ∃ ps : List (ℕ × ι), refs = ps.map Prod.fst ∧ rows = ps.map Prod.snd ∧
      ∀ x ∈ ps, h.ArrayAt x.1 (f x.2) := by
  induction rows generalizing refs with
  | nil =>
    obtain rfl := List.forall₂_nil_right_iff.mp hr
    exact ⟨[], rfl, rfl, by simp⟩
  | cons row rows ih =>
    obtain ⟨i, refs', ha, hr', rfl⟩ := List.forall₂_cons_right_iff.mp hr
    obtain ⟨ps, rfl, rfl, hps⟩ := ih hr'
    refine ⟨(i, row) :: ps, rfl, rfl, ?_⟩
    intro x hx
    rcases List.mem_cons.mp hx with rfl | hx
    · exact ha
    · exact hps x hx

/-- Rows stay what they are when their tables do. -/
theorem RowsAt.congr {p : ℕ → Prop} {r : ℕ} {refs : List ℕ} {rows : List (List ν)}
    (hr : h.RowsAt ref p r refs rows) (he : ∀ i, p i → h'.tables i = h.tables i) :
    h'.RowsAt ref p r refs rows where
  outer_mem := hr.outer_mem
  inner_mem := hr.inner_mem
  outer := hr.outer.congr (he r hr.outer_mem)
  inner := forall₂_arrayAt_congr hr.inner fun i hi => he i (hr.inner_mem i hi)

theorem RowsAt.mono {p q : ℕ → Prop} {r : ℕ} {refs : List ℕ} {rows : List (List ν)}
    (hr : h.RowsAt ref p r refs rows) (hpq : ∀ i, p i → q i) : h.RowsAt ref q r refs rows where
  outer_mem := hpq r hr.outer_mem
  inner_mem i hi := hpq i (hr.inner_mem i hi)
  outer := hr.outer
  inner := hr.inner

theorem extends_fillRows {i : ℕ} (he : h.Extends h') (hi : h.next ≤ i) (n : ℤ)
    (rows : List (List ν)) : h.Extends (h'.fillRows ref i n rows) := by
  induction rows generalizing h' n with
  | nil => exact he
  | cons row rows ih => exact ih ((he.trans (h'.extends_pushArray row)).set hi _ _) (n + 1)

/-- One more row, in a table of its own. -/
theorem RowsAt.append {lo i : ℕ} {refs : List ℕ} {done : List (List ν)}
    (hr : h.RowsAt ref (fun j => lo ≤ j ∧ j < h.next) i refs done) (hfresh : i ∉ refs)
    (row : List ν) :
    ((h.pushArray row).set i (.index (refs.length + 1)) (ref h.next)).RowsAt ref
      (fun j => lo ≤ j ∧ j < h.next + 1) i (refs ++ [h.next]) (done ++ [row]) := by
  have hi := hr.outer_mem.2
  have hpush : (h.pushArray row).RowsAt ref (fun j => lo ≤ j ∧ j < h.next) i refs done :=
    hr.congr fun j hj => (h.extends_pushArray row).tables_eq j hj.2
  have hne : h.next ≠ i := by omega
  constructor
  · exact ⟨hr.outer_mem.1, by omega⟩
  · intro j hj
    rcases List.mem_append.mp hj with hj | hj
    · obtain ⟨hlo, hlt⟩ := hr.inner_mem j hj
      exact ⟨hlo, by omega⟩
    · obtain rfl := List.mem_singleton.mp hj
      exact ⟨by have := hr.outer_mem.1; omega, Nat.lt_succ_self _⟩
  · have houter := hpush.outer.append (ref h.next)
    rw [List.length_map] at houter
    simpa using houter
  · refine List.rel_append (forall₂_arrayAt_congr hpush.inner ?_) (.cons ?_ .nil)
    · intro j hj
      have hji : j ≠ i := by
        intro he
        exact hfresh (he ▸ hj)
      exact tables_set_of_ne _ hji _ _
    · exact (h.arrayAt_pushArray row).congr (tables_set_of_ne _ hne _ _)

/-- The loop that fills the outer table: what it holds so far, and what comes. -/
theorem RowsAt.fillRows {lo i : ℕ} {refs : List ℕ} {done : List (List ν)}
    (hr : h.RowsAt ref (fun j => lo ≤ j ∧ j < h.next) i refs done) (hfresh : i ∉ refs)
    (rows : List (List ν)) :
    ∃ refs', i ∉ refs' ∧ (h.fillRows ref i (refs.length + 1) rows).RowsAt ref
      (fun j => lo ≤ j ∧ j < (h.fillRows ref i (refs.length + 1) rows).next) i refs'
        (done ++ rows) := by
  induction rows generalizing h refs done with
  | nil => exact ⟨refs, hfresh, by simpa [Heap.fillRows] using hr⟩
  | cons row rows ih =>
    have hi := hr.outer_mem.2
    have hnext : ((h.pushArray row).set i (.index (refs.length + 1)) (ref h.next)).next =
        h.next + 1 := by
      rw [next_set, next_pushArray]
    have hone := hr.append hfresh row
    rw [← hnext] at hone
    obtain ⟨refs', hfresh', hrows⟩ := ih hone (by simp [hfresh]; omega)
    rw [List.length_append, List.length_singleton, List.append_assoc] at hrows
    exact ⟨refs', hfresh', hrows⟩

theorem extends_pushRows (ref : ℕ → ν) (h : Heap ν) (rows : List (List ν)) :
    h.Extends (h.pushRows ref rows) :=
  extends_fillRows h.extends_create le_rfl 1 rows

/-- What is pushed is an array of the rows, all in new tables. -/
theorem rowsAt_pushRows (ref : ℕ → ν) (h : Heap ν) (rows : List (List ν)) :
    ∃ refs, h.next ∉ refs ∧ (h.pushRows ref rows).RowsAt ref
      (fun i => h.next ≤ i ∧ i < (h.pushRows ref rows).next) h.next refs rows := by
  have hempty : h.create.RowsAt ref (fun i => h.next ≤ i ∧ i < h.create.next) h.next [] [] :=
    ⟨⟨le_rfl, Nat.lt_succ_self _⟩, by simp, h.arrayAt_create, .nil⟩
  exact hempty.fillRows (by simp) rows

end Rows

end Heap

end LuaTable
