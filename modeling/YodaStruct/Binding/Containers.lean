import YodaStruct.Binding.Data
import YodaStruct.Binding.Prism
import YodaStruct.Dseams.Lua
import YodaStruct.Library.Binary64
import YodaStruct.Library.Simulation

/-! How sol takes values from Lua in an optimised build, where it checks no argument: a table comes
back as a vector. A build for debugging refuses what is not of the type that it takes. -/
namespace YodaStruct.Binding
open YodaStruct.Config YodaStruct.Driver LuaTable Simulation

/-- Why a call does not return. -/
inductive CallError
  /-- An index into a value that has none. -/
  | index (v : ScriptValue)
  /-- An error of the script. -/
  | raised (text : CppString) (level : ℕ)
  /-- A C++ exception, which sol turns into an error. -/
  | thrown (what : CppString)
  /-- C++ leaves open what happens: an access out of bounds, or an argument of the wrong class. -/
  | unspecified
  | outOfFuel
  deriving DecidableEq

/-! A build without argument checks takes what it finds. -/

section Get
variable (stringNumber : CppString → Option ℚ) (h : LuaHeap)

/-- A `double`: an integer becomes the nearest one. -/
def getNumber : ScriptValue → ℚ
  | .integer n => Binary64.toDouble n
  | v => luaToNumber stringNumber (.plain v)

def getInt : ScriptValue → Int32
  | .integer n => .ofInt n
  | v => .ofInt (llround (getNumber stringNumber v))

/-- What `lua_geti` looks into. A string has the fields of the string library. -/
def indexed : ScriptValue → Except CallError (Table ScriptValue)
  | .other i =>
    match h.tables i with
    | some t => .ok t
    | none => .error (.index (.other i))
  | .string _ => .ok ∅
  | v => .error (.index v)

/-- The loop starts at 0, goes past a `nil` there, and stops at the next one. -/
def getArray (v : ScriptValue) : Except CallError (List ScriptValue) := do
  let t ← indexed h v
  pure ((t.at? 0).toList ++ t.arrayFrom 1)

/-- `std::vector<int>`. -/
def getInts (v : ScriptValue) : Except CallError (List Int32) := do
  pure ((← getArray h v).map (getInt stringNumber))

/-- `std::vector<bool>`. -/
def getFlags (v : ScriptValue) : Except CallError (List Bool) := do
  pure ((← getArray h v).map ScriptValue.truthy)

/-- `std::vector<std::vector<int>>`. -/
def getNested (v : ScriptValue) : Except CallError IntRows := do
  (← getArray h v).mapM (getInts stringNumber h)

/-- `v[key]`. -/
def index (v : ScriptValue) (key : Key) : Except CallError ScriptValue := do
  pure (((← indexed h v).lookup key).getD .nil)

end Get

/-! The same without Lua. -/

namespace Data
variable (stringNumber : CppString → Option ℚ)

/-- What a loop over the data sees. A record counts nothing. -/
def elements : Data → Except CallError (List Data)
  | absent => .error (.index .nil)
  | field (.value (.string _)) => .ok []
  | field (.value s) => .error (.index s.value)
  | field (.array vs) => .ok (vs.map scalar)
  | field (.rows rows) => .ok (rows.map list)
  | field (.names _) => .ok []
  | record _ => .ok []
  | records rs => .ok (rs.map record)

def toInt : Data → Int32
  | field (.value s) => getInt stringNumber s.value
  | _ => 0

def truthy : Data → Bool
  | absent | field (.value (.boolean false)) => false
  | _ => true

def ints (d : Data) : Except CallError (List Int32) := do
  pure ((← d.elements).map (toInt stringNumber))

def flags (d : Data) : Except CallError (List Bool) := do
  pure ((← d.elements).map truthy)

def rows (d : Data) : Except CallError IntRows := do
  (← d.elements).mapM (ints stringNumber)

def entry (n : ℤ) (d : Data) : Except CallError Data := do
  let ds ← d.elements
  pure (if 1 ≤ n then ds.getD (n - 1).toNat .absent else .absent)

def named (s : CppString) : Data → Except CallError Data
  | absent => .error (.index .nil)
  | field (.value (.string _)) => .ok absent
  | field (.value s) => .error (.index s.value)
  | field (.names fields) =>
    .ok (((Table.ofNames fields).lookup (.name s)).elim absent scalar)
  | field _ => .ok absent
  | record r =>
    match r.fields.find? (·.1 = s) with
    | some x => .ok (field x.2)
    | none => .ok absent
  | records _ => .ok absent

end Data

/-! Both see the same. -/

section Reading
variable {stringNumber : CppString → Option ℚ} {h : LuaHeap} {p : ℕ → Prop} {v : ScriptValue}
  {d : Data}

theorem getInt_of_no_number (hv : getNumber stringNumber v = 0) (hi : ∀ n, v ≠ .integer n) :
    getInt stringNumber v = 0 := by
  have hround : llround 0 = 0 := by norm_num [llround]
  cases v with
  | integer n => exact absurd rfl (hi n)
  | _ =>
    change Int32.ofInt (llround (getNumber stringNumber _)) = 0
    rw [hv, hround]
    rfl

theorem Data.toInt_of_isTable (hd : d.isTable) : d.toInt stringNumber = 0 := by
  rcases d with _ | (_ | _ | _ | _) | _ | _ <;> first | rfl | cases hd

theorem Data.truthy_of_isTable (hd : d.isTable) : d.truthy := by
  rcases d with _ | (_ | _ | _ | _) | _ | _ <;> first | rfl | cases hd

theorem StandsIn.getInt_eq (hs : StandsIn h p v d) :
    getInt stringNumber v = d.toInt stringNumber := by
  rcases hs.cases with ⟨rfl, rfl⟩ | ⟨s, rfl, rfl⟩ | ⟨hd, i, t, rfl, -⟩
  · exact getInt_of_no_number rfl (by simp)
  · rfl
  · rw [Data.toInt_of_isTable hd]
    exact getInt_of_no_number rfl (by simp)

theorem StandsIn.truthy_eq (hs : StandsIn h p v d) : v.truthy = d.truthy := by
  rcases hs.cases with ⟨rfl, rfl⟩ | ⟨s, rfl, rfl⟩ | ⟨hd, i, t, rfl, -⟩
  · rfl
  · cases s with
    | boolean b => cases b <;> rfl
    | _ => rfl
  · exact (Data.truthy_of_isTable hd).symm

theorem indexed_of_tables {i : ℕ} {t : Table ScriptValue} (ht : h.tables i = some t) :
    indexed h (.other i) = .ok t := by
  unfold indexed
  simp only [ht]

theorem getArray_of_arrayAt {i : ℕ} {vs : List ScriptValue} (ha : h.ArrayAt i vs) :
    getArray h (.other i) = .ok vs := by
  obtain ⟨t, ht, hvs⟩ := ha
  simp only [getArray, indexed_of_tables ht]
  change Except.ok ((t.at? 0).toList ++ t.arrayFrom 1) = _
  rw [hvs.at?_of_lt Int.zero_lt_one, hvs.arrayFrom_one]
  rfl

theorem at?_of_names {t : Table ScriptValue} {fields : List (CppString × Heap.Field ScriptValue)}
    (hkeys : ∀ key ∈ t, ∃ f ∈ fields, key = .name f.1) (n : ℤ) : t.at? n = none := by
  apply AList.lookup_eq_none.mpr
  intro hmem
  obtain ⟨f, -, hname⟩ := hkeys _ hmem
  cases hname

/-- Where nothing has a number, a loop sees nothing. -/
theorem getArray_of_none {i : ℕ} {t : Table ScriptValue} (ht : h.tables i = some t)
    (hnone : ∀ n, t.at? n = none) : getArray h (.other i) = .ok [] := by
  simp only [getArray, indexed_of_tables ht]
  change Except.ok ((t.at? 0).toList ++ t.arrayFrom 1) = _
  rw [hnone 0, Table.arrayFrom_of_none (hnone 1)]
  rfl

/-- A record has no array part. -/
theorem getArray_of_recordAt {i : ℕ} {fields : List (CppString × Heap.Field ScriptValue)}
    (hr : h.RecordAt .other p i fields) : getArray h (.other i) = .ok [] := by
  obtain ⟨t, ht, hkeys, -⟩ := hr
  exact getArray_of_none ht fun n => at?_of_names hkeys n

/-! The elements of a table, each in the tables of the whole. -/

theorem standsIn_values (vs : List Scalar) :
    List.Forall₂ (StandsIn h p) (vs.map Scalar.value) (vs.map .scalar) := by
  rw [List.forall₂_map_left_iff, List.forall₂_map_right_iff]
  exact List.forall₂_same.mpr fun _ _ => rfl

theorem standsIn_rows {i : ℕ} {refs : List ℕ} {vss : List (List Scalar)}
    (hr : h.RowsAt .other p i refs (vss.map (·.map Scalar.value))) :
    List.Forall₂ (StandsIn h p) (refs.map .other) (vss.map .list) := by
  have hinner := List.forall₂_map_right_iff.mp hr.inner
  rw [List.forall₂_map_left_iff, List.forall₂_map_right_iff]
  exact ((List.forall₂_and_left _ _).mpr ⟨hr.inner_mem, hinner⟩).imp
    fun j _ hj => ⟨j, hj.1, rfl, hj.2⟩

theorem standsIn_records {i : ℕ} {refs : List ℕ} {rs : List Record}
    (hr : h.RecordsAt .other p i refs (rs.map Record.values)) :
    List.Forall₂ (StandsIn h p) (refs.map .other) (rs.map .record) := by
  have hinner := List.forall₂_map_right_iff.mp hr.inner
  rw [List.forall₂_map_left_iff, List.forall₂_map_right_iff]
  exact ((List.forall₂_and_left _ _).mpr ⟨hr.inner_mem, hinner⟩).imp
    fun j _ hj => ⟨j, hj.1, rfl, hj.2⟩

/-- A loop over a value sees the elements of the data that it is. -/
theorem StandsIn.getArray_matches (hs : StandsIn h p v d) :
    Matches (List.Forall₂ (StandsIn h p)) (getArray h v) d.elements := by
  cases d with
  | absent =>
    obtain rfl := hs
    exact .error _
  | field x =>
    cases x with
    | value s =>
      obtain rfl := hs
      cases s with
      | string s => exact .ok .nil
      | _ => exact .error _
    | array vs =>
      obtain ⟨i, -, rfl, ha⟩ := hs
      rw [getArray_of_arrayAt ha]
      exact .ok (standsIn_values vs)
    | rows vss =>
      obtain ⟨i, refs, rfl, hrows⟩ := hs
      rw [getArray_of_arrayAt hrows.outer]
      exact .ok (standsIn_rows hrows)
    | names fields =>
      obtain ⟨i, -, rfl, ht⟩ := hs
      rw [getArray_of_none ht (Table.at?_ofNames _)]
      exact .ok .nil
  | record r =>
    obtain ⟨i, -, rfl, hr⟩ := hs
    rw [getArray_of_recordAt hr]
    exact .ok .nil
  | records rs =>
    obtain ⟨i, refs, -, rfl, hr⟩ := hs
    rw [getArray_of_arrayAt hr.outer]
    exact .ok (standsIn_records hr)

theorem StandsIn.getInts_eq (hs : StandsIn h p v d) :
    getInts stringNumber h v = d.ints stringNumber := by
  apply Matches.eq
  apply hs.getArray_matches.bind
  intro vs ds hvs
  apply Matches.ok
  induction hvs with
  | nil => rfl
  | cons hv _ ih => rw [List.map_cons, List.map_cons, hv.getInt_eq, ih]

theorem StandsIn.getFlags_eq (hs : StandsIn h p v d) : getFlags h v = d.flags := by
  apply Matches.eq
  apply hs.getArray_matches.bind
  intro vs ds hvs
  apply Matches.ok
  induction hvs with
  | nil => rfl
  | cons hv _ ih => rw [List.map_cons, List.map_cons, hv.truthy_eq, ih]

theorem StandsIn.getNested_eq (hs : StandsIn h p v d) :
    getNested stringNumber h v = d.rows stringNumber := by
  apply Matches.eq
  apply hs.getArray_matches.bind
  intro vs ds hvs
  have hrows := Matches.mapM hvs (f := getInts stringNumber h) (g := Data.ints stringNumber)
    fun v d hv => matches_of_eq hv.getInts_eq
  rw [List.forall₂_eq_eq_eq] at hrows
  exact hrows

theorem index_of_arrayAt {i : ℕ} {vs : List ScriptValue} {ds : List Data} (ha : h.ArrayAt i vs)
    (hds : List.Forall₂ (StandsIn h p) vs ds) (n : ℤ) :
    Matches (StandsIn h p) (index h (.other i) (.index n))
      (.ok (if 1 ≤ n then ds.getD (n - 1).toNat .absent else .absent)) := by
  obtain ⟨t, ht, hvs⟩ := ha
  have hindex : index h (.other i) (.index n) = .ok ((t.at? n).getD .nil) := by
    unfold index
    rw [indexed_of_tables ht]
    rfl
  rw [hindex]
  apply Matches.ok
  split_ifs with hn
  · obtain ⟨k, rfl⟩ : ∃ k : ℕ, n = k + 1 := ⟨(n - 1).toNat, by omega⟩
    have hk : ((k : ℤ) + 1 - 1).toNat = k := by omega
    rw [hvs.succ, hk, List.getD_eq_getElem?_getD]
    clear hvs hindex
    induction hds generalizing k with
    | nil => rfl
    | cons hv _ ih =>
      cases k with
      | zero => exact hv
      | succ k => exact ih k (by omega) (by omega)
  · rw [hvs.at?_of_lt (by omega)]
    rfl

theorem index_of_tables {i : ℕ} {t : Table ScriptValue} (ht : h.tables i = some t) (key : Key) :
    index h (.other i) key = .ok ((t.lookup key).getD .nil) := by
  unfold index
  rw [indexed_of_tables ht]
  rfl

theorem index_name_of_arrayAt {i : ℕ} {vs : List ScriptValue} (ha : h.ArrayAt i vs)
    (s : CppString) :
    Matches (StandsIn h p) (index h (.other i) (.name s)) (.ok .absent) := by
  obtain ⟨t, ht, hvs⟩ := ha
  rw [index_of_tables ht, hvs.lookup_name]
  exact .ok rfl

theorem entry_of_elements_nil (hd : d.elements = .ok []) (n : ℤ) : d.entry n = .ok .absent := by
  unfold Data.entry
  rw [hd]
  change Except.ok (if 1 ≤ n then ([] : List Data).getD (n - 1).toNat .absent else .absent) = _
  split_ifs <;> rfl

theorem StandsIn.index_entry (hs : StandsIn h p v d) (n : ℤ) :
    Matches (StandsIn h p) (index h v (.index n)) (d.entry n) := by
  cases d with
  | absent =>
    obtain rfl := hs
    exact .error _
  | field x =>
    cases x with
    | value s =>
      obtain rfl := hs
      cases s with
      | string s =>
        rw [entry_of_elements_nil rfl]
        exact .ok rfl
      | _ => exact .error _
    | array vs =>
      obtain ⟨i, -, rfl, ha⟩ := hs
      exact index_of_arrayAt ha (standsIn_values vs) n
    | rows vss =>
      obtain ⟨i, refs, rfl, hrows⟩ := hs
      exact index_of_arrayAt hrows.outer (standsIn_rows hrows) n
    | names fields =>
      obtain ⟨i, -, rfl, ht⟩ := hs
      have hnone : (Table.ofNames (fields.map fun x => (x.1, Scalar.value x.2))).lookup
          (.index n) = none := Table.at?_ofNames _ n
      rw [entry_of_elements_nil rfl, index_of_tables ht, hnone]
      exact .ok rfl
  | record r =>
    obtain ⟨i, -, rfl, t, ht, hkeys, -⟩ := hs
    have hnone : t.lookup (.index n) = none := at?_of_names hkeys n
    rw [entry_of_elements_nil rfl, index_of_tables ht, hnone]
    exact .ok rfl
  | records rs =>
    obtain ⟨i, refs, -, rfl, hr⟩ := hs
    exact index_of_arrayAt hr.outer (standsIn_records hr) n

theorem StandsIn.index_named (hs : StandsIn h p v d) (s : CppString) :
    Matches (StandsIn h p) (index h v (.name s)) (d.named s) := by
  cases d with
  | absent =>
    obtain rfl := hs
    exact .error _
  | field x =>
    cases x with
    | value s =>
      obtain rfl := hs
      cases s with
      | string s => exact .ok rfl
      | _ => exact .error _
    | array vs =>
      obtain ⟨i, -, rfl, ha⟩ := hs
      exact index_name_of_arrayAt ha s
    | rows vss =>
      obtain ⟨i, refs, rfl, hrows⟩ := hs
      exact index_name_of_arrayAt hrows.outer s
    | names fields =>
      obtain ⟨i, -, rfl, ht⟩ := hs
      rw [index_of_tables ht, Table.lookup_ofNames_map]
      apply Matches.ok
      cases (Table.ofNames fields).lookup (.name s) <;> rfl
  | record r =>
    obtain ⟨i, -, rfl, t, ht, hkeys, hfields⟩ := hs
    rw [index_of_tables ht]
    change Matches (StandsIn h p) _ (match r.fields.find? (·.1 = s) with
      | some x => .ok (Data.field x.2)
      | none => .ok Data.absent)
    cases hfind : r.fields.find? (·.1 = s) with
    | none =>
      have hnone : t.lookup (.name s) = none := by
        apply AList.lookup_eq_none.mpr
        intro hmem
        obtain ⟨f, hf, hname⟩ := hkeys _ hmem
        obtain ⟨x, hx, rfl⟩ := List.mem_map.mp hf
        have hne := List.find?_eq_none.mp hfind x hx
        exact hne (decide_eq_true (Key.name.inj hname).symm)
      rw [hnone]
      exact .ok rfl
    | some x =>
      have hs : x.1 = s := by simpa using List.find?_some hfind
      obtain ⟨v, hv, hx⟩ := hfields _ (List.mem_map_of_mem (List.mem_of_find?_eq_some hfind))
      have hv' : t.lookup (.name s) = some v := hs ▸ hv
      rw [hv']
      exact .ok hx
  | records rs =>
    obtain ⟨i, refs, -, rfl, hr⟩ := hs
    exact index_name_of_arrayAt hr.outer s

/-! Round trips. -/

theorem toInt_ofInt32 (stringNumber : CppString → Option ℚ) (n : Int32) :
    (Data.scalar (.ofInt32 n)).toInt stringNumber = n := Int32.ofInt_toInt n

theorem ints_list (row : List Int32) :
    (Data.list (row.map .ofInt32)).ints stringNumber = .ok row := by
  change Except.ok (((row.map Scalar.ofInt32).map Data.scalar).map (Data.toInt stringNumber)) = _
  have hid : ∀ n, ((Data.toInt stringNumber ∘ Data.scalar) ∘ Scalar.ofInt32) n = n :=
    toInt_ofInt32 stringNumber
  rw [List.map_map, List.map_map, List.map_id'' hid]

theorem rows_nested (rows : IntRows) : (Data.nested rows).rows stringNumber = .ok rows := by
  change ((rows.map (·.map Scalar.ofInt32)).map Data.list).mapM (Data.ints stringNumber) = _
  induction rows with
  | nil => rfl
  | cons row rows ih =>
    rw [List.map_cons, List.map_cons, List.mapM_cons, ints_list, ih]
    rfl

end Reading

/-- Rows that went to Lua come back as they were, whatever happened to all other tables. -/
theorem getNested_asNested (stringNumber : CppString → Option ℚ) (h h' : LuaHeap)
    (rows : IntRows)
    (hkept : ∀ i, h.next ≤ i → i < ((Data.nested rows).push h).2.next →
      h'.tables i = ((Data.nested rows).push h).2.tables i) :
    getNested stringNumber h' ((Data.nested rows).push h).1 = .ok rows ∧
      h.Extends ((Data.nested rows).push h).2 := by
  have hstands := (standsIn_push h (.nested rows)).congr (fun _ hi => hi) fun i hi =>
    hkept i hi.1 hi.2
  exact ⟨hstands.getNested_eq.trans (rows_nested rows), extends_push h _⟩

/-- Two rings in an empty store, and an array after them. -/
theorem getNested_asNested_rings :
    getNested (fun _ => none)
        (((Data.nested [[1, 2, 3], [4, 5]]).push ⟨fun _ => none, 0⟩).2.pushArray [.integer 6])
        ((Data.nested [[1, 2, 3], [4, 5]]).push ⟨fun _ => none, 0⟩).1 =
      .ok [[1, 2, 3], [4, 5]] ∧
    (⟨fun _ => none, 0⟩ : LuaHeap).Extends
      ((Data.nested [[1, 2, 3], [4, 5]]).push ⟨fun _ => none, 0⟩).2 :=
  getNested_asNested _ _ _ _ fun i _ hi => (Heap.extends_pushArray _ _).tables_eq i hi

end YodaStruct.Binding
