import Mathlib.Data.List.AList

/-! Lua tables by their entries, and the arrays among them. -/
namespace LuaTable

inductive Key
  | index (n : ℤ)
  | name (s : List Char)
  deriving DecidableEq

/-- A key without an entry has the value `nil`. -/
abbrev Table (ν : Type*) := AList fun _ : Key => ν

variable {ν : Type*}

namespace Table

/-- `t[n]`. -/
def at? (t : Table ν) (n : ℤ) : Option ν := t.lookup (.index n)

/-- `t[n] = v`, for a value that is not `nil`. -/
def setAt (t : Table ν) (n : ℤ) (v : ν) : Table ν := t.insert (.index n) v

/-- A length that `#t` may give. -/
def IsBorder (t : Table ν) (n : ℕ) : Prop := (n = 0 ∨ t.at? n ≠ none) ∧ t.at? (n + 1) = none

/-- `t` counts the values from 1 on, and has no other entry. -/
structure IsArray (t : Table ν) (vs : List ν) : Prop where
  mem : ∀ key ∈ t, ∃ n : ℕ, key = .index (n + 1)
  succ : ∀ n : ℕ, t.at? (n + 1) = vs[n]?

@[simp] theorem at?_setAt_self (t : Table ν) (n : ℤ) (v : ν) : (t.setAt n v).at? n = some v :=
  AList.lookup_insert t

theorem at?_setAt_of_ne (t : Table ν) {m n : ℤ} (v : ν) (h : m ≠ n) :
    (t.setAt n v).at? m = t.at? m := AList.lookup_insert_ne (by simpa using h)

theorem isArray_empty : (∅ : Table ν).IsArray [] := ⟨by simp, fun _ => rfl⟩

/-- Below 1 an array has nothing. -/
theorem IsArray.at?_of_lt {t : Table ν} {vs : List ν} (h : t.IsArray vs) {n : ℤ} (hn : n < 1) :
    t.at? n = none := by
  apply AList.lookup_eq_none.mpr
  intro hmem
  obtain ⟨i, hi⟩ := h.mem _ hmem
  have hcast : n = i + 1 := Key.index.inj hi
  omega

/-- An array has no named field. -/
theorem IsArray.lookup_name {t : Table ν} {vs : List ν} (h : t.IsArray vs) (s : List Char) :
    t.lookup (.name s) = none := by
  apply AList.lookup_eq_none.mpr
  intro hmem
  obtain ⟨i, hi⟩ := h.mem _ hmem
  cases hi

/-- The only length of an array is its own. -/
theorem IsArray.border {t : Table ν} {vs : List ν} (h : t.IsArray vs) {n : ℕ}
    (hn : t.IsBorder n) : n = vs.length := by
  obtain ⟨hlast, hnext⟩ := hn
  have hle : vs.length ≤ n := by
    rw [h.succ n] at hnext
    exact List.getElem?_eq_none_iff.mp hnext
  cases n with
  | zero => omega
  | succ n =>
    have hsome : t.at? (n + 1 : ℕ) ≠ none := hlast.resolve_left (by omega)
    push_cast at hsome
    rw [h.succ n] at hsome
    have hlt : n < vs.length := by
      by_contra hge
      exact hsome (List.getElem?_eq_none_iff.mpr (by omega))
    omega

/-- `t[#t + 1] = v` appends. -/
theorem IsArray.append {t : Table ν} {vs : List ν} (h : t.IsArray vs) (v : ν) :
    (t.setAt (vs.length + 1) v).IsArray (vs ++ [v]) where
  mem key hkey := by
    rcases (AList.mem_insert t).mp hkey with rfl | hkey
    · exact ⟨vs.length, rfl⟩
    · exact h.mem key hkey
  succ n := by
    by_cases hn : n = vs.length
    · subst hn
      simp
    · rw [at?_setAt_of_ne t v (by omega), h.succ n]
      by_cases hlt : n < vs.length
      · rw [List.getElem?_append_left hlt]
      · rw [List.getElem?_eq_none (by omega), List.getElem?_eq_none (by simp; omega)]

/-! Counting up to the first `nil`. -/

/-- The values at `n`, `n + 1`, .. up to the first `nil`, at most `fuel` of them. -/
def walk (t : Table ν) : ℕ → ℤ → List ν
  | 0, _ => []
  | fuel + 1, n =>
    match t.at? n with
    | none => []
    | some v => v :: walk t fuel (n + 1)

/-- As many steps as there are entries are enough. -/
def arrayFrom (t : Table ν) (n : ℤ) : List ν := t.walk t.entries.length n

theorem walk_of_none {t : Table ν} {n : ℤ} (h : t.at? n = none) (fuel : ℕ) :
    t.walk (fuel + 1) n = [] := by
  rw [walk, h]

theorem arrayFrom_of_none {t : Table ν} {n : ℤ} (h : t.at? n = none) : t.arrayFrom n = [] := by
  unfold arrayFrom
  cases t.entries.length with
  | zero => rfl
  | succ fuel => exact walk_of_none h fuel

theorem walk_of_some {t : Table ν} {n : ℤ} {v : ν} (h : t.at? n = some v) (fuel : ℕ) :
    t.walk (fuel + 1) n = v :: t.walk fuel (n + 1) := by
  rw [walk, h]

theorem at?_walk (t : Table ν) (fuel : ℕ) (n : ℤ) {i : ℕ} (h : i < (t.walk fuel n).length) :
    t.at? (n + i) = (t.walk fuel n)[i]? := by
  induction fuel generalizing n i with
  | zero => simp [walk] at h
  | succ fuel ih =>
    cases hv : t.at? n with
    | none => simp [walk_of_none hv] at h
    | some v =>
      rw [walk_of_some hv] at h ⊢
      cases i with
      | zero => simpa using hv
      | succ i =>
        have hi : i < (t.walk fuel (n + 1)).length := by simpa using h
        have hcast : n + ((i + 1 : ℕ) : ℤ) = n + 1 + i := by omega
        rw [hcast, ih (n + 1) hi, List.getElem?_cons_succ]

/-- A walk that stops before its fuel is used up stops at a `nil`. -/
theorem at?_length_walk (t : Table ν) {fuel : ℕ} (n : ℤ) (h : (t.walk fuel n).length < fuel) :
    t.at? (n + (t.walk fuel n).length) = none := by
  induction fuel generalizing n with
  | zero => omega
  | succ fuel ih =>
    cases hv : t.at? n with
    | none => simpa [walk_of_none hv] using hv
    | some v =>
      rw [walk_of_some hv, List.length_cons] at h ⊢
      have hcast : n + ((t.walk fuel (n + 1)).length + 1 : ℕ) =
          n + 1 + (t.walk fuel (n + 1)).length := by omega
      rw [hcast]
      exact ih (n + 1) (by omega)

theorem length_walk_le (t : Table ν) (fuel : ℕ) (n : ℤ) : (t.walk fuel n).length ≤ fuel := by
  induction fuel generalizing n with
  | zero => simp [walk]
  | succ fuel ih =>
    cases hv : t.at? n with
    | none => simp [walk_of_none hv]
    | some v => simpa [walk_of_some hv] using ih (n + 1)

/-- Different indices with entries are no more than the entries. -/
theorem card_le_entries (t : Table ν) {n : ℤ} {k : ℕ} (h : ∀ i < k, t.at? (n + i) ≠ none) :
    k ≤ t.entries.length := by
  have hnodup : ((List.range k).map fun i : ℕ => Key.index (n + i)).Nodup := by
    rw [List.nodup_map_iff_inj_on List.nodup_range]
    intro i _ j _ hij
    have hcast : n + (i : ℤ) = n + j := Key.index.inj hij
    omega
  have hsub : ((List.range k).map fun i : ℕ => Key.index (n + i)) ⊆ t.keys := by
    intro key hkey
    obtain ⟨i, hi, rfl⟩ := List.mem_map.mp hkey
    exact AList.mem_keys.mp (AList.lookup_isSome.mp
      (Option.isSome_iff_ne_none.mpr (h i (List.mem_range.mp hi))))
  have hle := (List.subperm_of_subset hnodup hsub).length_le
  simpa [AList.keys, List.keys] using hle

/-- Past what a walk gives stands a `nil`: the fuel was enough. -/
theorem at?_length_arrayFrom (t : Table ν) (n : ℤ) :
    t.at? (n + (t.arrayFrom n).length) = none := by
  by_contra hne
  have hfull : (t.arrayFrom n).length = t.entries.length := by
    by_contra hlt
    have hle := t.length_walk_le t.entries.length n
    exact hne (t.at?_length_walk n (lt_of_le_of_ne hle hlt))
  have hcard : t.entries.length + 1 ≤ t.entries.length := by
    apply t.card_le_entries
    intro i hi
    by_cases hlt : i < (t.arrayFrom n).length
    · rw [t.at?_walk _ n hlt]
      exact fun h => absurd (List.getElem?_eq_none_iff.mp h) (not_le.mpr hlt)
    · have hi' : i = (t.arrayFrom n).length := by omega
      rw [hi']
      exact hne
  omega

/-- Every table has a border. -/
theorem isBorder_arrayFrom (t : Table ν) : t.IsBorder (t.arrayFrom 1).length := by
  constructor
  · cases hlen : (t.arrayFrom 1).length with
    | zero => exact .inl rfl
    | succ n =>
      right
      have hn : n < (t.arrayFrom 1).length := by omega
      have hwalk : t.at? (1 + n) = (t.arrayFrom 1)[n]? := t.at?_walk _ 1 hn
      push_cast
      rw [Int.add_comm, hwalk, List.getElem?_eq_getElem hn]
      simp
  · rw [Int.add_comm]
    exact t.at?_length_arrayFrom 1

theorem IsArray.arrayFrom_one {t : Table ν} {vs : List ν} (h : t.IsArray vs) :
    t.arrayFrom 1 = vs := by
  have hend := t.at?_length_arrayFrom 1
  rw [Int.add_comm, h.succ, List.getElem?_eq_none_iff] at hend
  apply List.ext_getElem?
  intro i
  by_cases hi : i < (t.arrayFrom 1).length
  · exact (t.at?_walk _ 1 hi).symm.trans (by rw [Int.add_comm, h.succ])
  · rw [List.getElem?_eq_none (by omega), List.getElem?_eq_none (by omega)]

/-! Tables of named values. -/

/-- The values under their names. The last of a name counts. -/
def ofNames (fields : List (List Char × ν)) : Table ν :=
  fields.foldl (fun t f => t.insert (.name f.1) f.2) ∅

theorem at?_foldl_insert_name (fields : List (List Char × ν)) {t : Table ν} {n : ℤ}
    (ht : t.at? n = none) :
    (fields.foldl (fun t f => t.insert (.name f.1) f.2) t : Table ν).at? n = none := by
  induction fields generalizing t with
  | nil => exact ht
  | cons f fields ih => exact ih ((AList.lookup_insert_ne (by simp)).trans ht)

theorem at?_ofNames (fields : List (List Char × ν)) (n : ℤ) : (ofNames fields).at? n = none :=
  at?_foldl_insert_name fields rfl

/-- A change of the values is a change of what is found. -/
theorem lookup_ofNames_map {μ : Type*} (g : μ → ν) (fields : List (List Char × μ)) (key : Key) :
    (ofNames (fields.map fun f => (f.1, g f.2))).lookup key =
      ((ofNames fields).lookup key).map g := by
  have hfold : ∀ (t : Table μ) (u : Table ν), (∀ key, u.lookup key = (t.lookup key).map g) →
      ((fields.map fun f => (f.1, g f.2)).foldl (fun u f => u.insert (.name f.1) f.2) u).lookup
        key = ((fields.foldl (fun t f => t.insert (.name f.1) f.2) t : Table μ).lookup key).map g := by
    induction fields with
    | nil => exact fun t u hu => hu key
    | cons f fields ih =>
      intro t u hu
      apply ih
      intro key'
      by_cases hkey : key' = .name f.1
      · subst hkey
        rw [AList.lookup_insert, AList.lookup_insert]
        rfl
      · rw [AList.lookup_insert_ne hkey, AList.lookup_insert_ne hkey]
        exact hu key'
  exact hfold ∅ ∅ fun _ => rfl

end Table

end LuaTable
