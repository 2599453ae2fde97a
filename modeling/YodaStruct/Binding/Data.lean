import YodaStruct.Driver.Globals
import YodaStruct.Library.LuaRecord

/-! What the bindings hand to Lua, and the tables that sol makes of it. -/
namespace YodaStruct.Binding
open YodaStruct.Config YodaStruct.Driver LuaTable

/-- `std::vector<std::vector<int>>`. -/
abbrev IntRows := List (List Int32)

/-- A table is the value `other` of its place in the store. -/
abbrev LuaHeap := LuaTable.Heap ScriptValue

/-- A value that is neither `nil` nor a table. -/
inductive Scalar
  | boolean (b : Bool)
  | integer (n : ℤ)
  | float (x : ℚ)
  | string (s : CppString)
  deriving DecidableEq

def Scalar.value : Scalar → ScriptValue
  | boolean b => .boolean b
  | integer n => .integer n
  | float x => .float x
  | string s => .string s

/-- An `int`. -/
def Scalar.ofInt32 (n : Int32) : Scalar := .integer n.toInt

abbrev Field := Heap.Field Scalar

/-- Fields, each with a name of its own. -/
structure Record where
  fields : List (CppString × Field)
  nodup : (fields.map Prod.fst).Nodup

def Record.values (r : Record) : List (CppString × Heap.Field ScriptValue) :=
  r.fields.map fun x => (x.1, x.2.map Scalar.value)

theorem Record.nodup_values (r : Record) : (r.values.map Prod.fst).Nodup := by
  unfold Record.values
  rw [List.map_map]
  exact r.nodup

inductive Data
  | absent
  | field (x : Field)
  | record (r : Record)
  | records (rs : List Record)

namespace Data

def scalar (s : Scalar) : Data := .field (.value s)

/-- `sol::as_table`. -/
def list (vs : List Scalar) : Data := .field (.array vs)

/-- `sol::as_nested`. -/
def nested (rows : IntRows) : Data := .field (.rows (rows.map (·.map .ofInt32)))

/-- The value in Lua, and the store with its tables. -/
def push (h : LuaHeap) : Data → ScriptValue × LuaHeap
  | absent => (.nil, h)
  | field x => h.pushField .other (x.map Scalar.value)
  | record r => (.other h.next, h.pushRecord .other r.values)
  | records rs => (.other h.next, h.pushRecords .other (rs.map Record.values))

end Data

/-- The value is the data, in tables with `p`. -/
def StandsIn (h : LuaHeap) (p : ℕ → Prop) (v : ScriptValue) : Data → Prop
  | .absent => v = .nil
  | .field x => h.Holds .other p v (x.map Scalar.value)
  | .record r => ∃ i, p i ∧ v = .other i ∧ h.RecordAt .other p i r.values
  | .records rs => ∃ i refs, p i ∧ v = .other i ∧
      h.RecordsAt .other p i refs (rs.map Record.values)

/-- Data that is a table in Lua. -/
def Data.isTable : Data → Bool
  | absent | field (.value _) => false
  | _ => true

section Push
variable {h h' : LuaHeap} {p q : ℕ → Prop} {v : ScriptValue} {d : Data}

/-- A value is what it is as long as its tables are. -/
theorem StandsIn.congr (hs : StandsIn h p v d) (hpq : ∀ i, p i → q i)
    (he : ∀ i, p i → h'.tables i = h.tables i) : StandsIn h' q v d := by
  cases d with
  | absent => exact hs
  | field x => exact Heap.Holds.congr hs hpq he
  | record r =>
    obtain ⟨i, hi, hv, hr⟩ := hs
    exact ⟨i, hpq i hi, hv, hr.congr hpq (he i hi) he⟩
  | records rs =>
    obtain ⟨i, refs, hi, hv, hr⟩ := hs
    exact ⟨i, refs, hpq i hi, hv, hr.congr hpq (he i hi) he⟩

theorem StandsIn.mono (hs : StandsIn h p v d) (hpq : ∀ i, p i → q i) : StandsIn h q v d :=
  hs.congr hpq fun _ _ => rfl

/-- Data is nothing, a value of its own, or a table. -/
theorem StandsIn.cases (hs : StandsIn h p v d) :
    d = .absent ∧ v = .nil ∨ (∃ s, d = .scalar s ∧ v = s.value) ∨
      d.isTable ∧ ∃ i t, v = .other i ∧ h.tables i = some t := by
  cases d with
  | absent => exact .inl ⟨rfl, hs⟩
  | field x =>
    right
    cases x with
    | value s => exact .inl ⟨s, rfl, hs⟩
    | array vs =>
      obtain ⟨i, -, hv, t, ht, -⟩ := hs
      exact .inr ⟨rfl, i, t, hv, ht⟩
    | rows vss =>
      obtain ⟨i, refs, hv, hrows⟩ := hs
      obtain ⟨t, ht, -⟩ := hrows.outer
      exact .inr ⟨rfl, i, t, hv, ht⟩
    | names fields =>
      obtain ⟨i, -, hv, ht⟩ := hs
      exact .inr ⟨rfl, i, _, hv, ht⟩
  | record r =>
    obtain ⟨i, -, hv, t, ht, -⟩ := hs
    exact .inr (.inr ⟨rfl, i, t, hv, ht⟩)
  | records rs =>
    obtain ⟨i, refs, -, hv, hr⟩ := hs
    obtain ⟨t, ht, -⟩ := hr.outer
    exact .inr (.inr ⟨rfl, i, t, hv, ht⟩)

/-- An `int` in Lua. -/
def intValue (n : Int32) : ScriptValue := .integer n.toInt

/-- A list of lists is a table of arrays of integers. -/
theorem standsIn_nested {rows : List (List Int32)} :
    StandsIn h p v (.nested rows) ↔
      ∃ r refs, v = .other r ∧ h.RowsAt .other p r refs (rows.map (·.map intValue)) := by
  have hvalues : (rows.map (·.map Scalar.ofInt32)).map (·.map Scalar.value) =
      rows.map (·.map intValue) := by
    rw [List.map_map]
    congr 1
    funext row
    exact List.map_map
  change (∃ r refs, v = .other r ∧ h.RowsAt .other p r refs
    ((rows.map (·.map Scalar.ofInt32)).map (·.map Scalar.value))) ↔ _
  rw [hvalues]

theorem extends_push (h : LuaHeap) (d : Data) : h.Extends (d.push h).2 := by
  cases d with
  | absent => exact Heap.Extends.refl h
  | field x => exact Heap.extends_pushField .other h _
  | record r => exact Heap.extends_pushRecord .other h _
  | records rs => exact Heap.extends_pushRecords .other h _

/-- What is pushed stands in new tables. -/
theorem standsIn_push (h : LuaHeap) (d : Data) :
    StandsIn (d.push h).2 (fun i => h.next ≤ i ∧ i < (d.push h).2.next) (d.push h).1 d := by
  cases d with
  | absent => rfl
  | field x => exact Heap.holds_pushField .other h _
  | record r =>
    have hr := Heap.recordAt_pushRecord .other h r.nodup_values
    have hlt := Heap.next_lt_pushRecord ScriptValue.other h r.values
    exact ⟨h.next, ⟨le_rfl, hlt⟩, rfl,
      hr.congr (fun _ hi => ⟨hi.1.le, hi.2⟩) rfl fun _ _ => rfl⟩
  | records rs =>
    have hnames : ∀ fields ∈ rs.map Record.values, (fields.map Prod.fst).Nodup := by
      intro fields hfields
      obtain ⟨r, -, rfl⟩ := List.mem_map.mp hfields
      exact r.nodup_values
    obtain ⟨refs, hr⟩ := Heap.recordsAt_pushRecords .other h hnames
    have hlt := Heap.next_lt_pushRecords ScriptValue.other h (rs.map Record.values)
    exact ⟨h.next, refs, ⟨le_rfl, hlt⟩, rfl,
      hr.congr (fun _ hi => ⟨hi.1.le, hi.2⟩) rfl fun _ _ => rfl⟩

end Push

end YodaStruct.Binding
