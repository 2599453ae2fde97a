import YodaStruct.Library.LuaHeap

/-! Records in a store of Lua tables: a value for each name. -/
namespace LuaTable
namespace Heap
variable {ν : Type*} {h h' : Heap ν}

/-- What a field is made of. -/
inductive Field (ν : Type*)
  | value (v : ν)
  | array (vs : List ν)
  | rows (rows : List (List ν))
  | names (fields : List (List Char × ν))

def Field.map {μ : Type*} (f : μ → ν) : Field μ → Field ν
  | .value v => .value (f v)
  | .array vs => .array (vs.map f)
  | .rows vss => .rows (vss.map (·.map f))
  | .names fields => .names (fields.map fun x => (x.1, f x.2))

section Records
variable (ref : ℕ → ν)

/-- The value of a field, and the store with its tables. -/
def pushField (h : Heap ν) : Field ν → ν × Heap ν
  | .value v => (v, h)
  | .array vs => (ref h.next, h.pushArray vs)
  | .rows rows => (ref h.next, h.pushRows ref rows)
  | .names fields => (ref h.next, h.pushNames fields)

/-- Fields one after the other, each in the record before the next is made. -/
def fillRecord (h : Heap ν) (i : ℕ) : List (List Char × Field ν) → Heap ν
  | [] => h
  | (s, x) :: fields =>
    ((h.pushField ref x).2.set i (.name s) (h.pushField ref x).1).fillRecord i fields

def pushRecord (h : Heap ν) (fields : List (List Char × Field ν)) : Heap ν :=
  h.create.fillRecord ref h.next fields

/-- The value is what the field says, and made of tables with `p`. -/
def Holds (h : Heap ν) (p : ℕ → Prop) (v : ν) : Field ν → Prop
  | .value u => v = u
  | .array vs => ∃ i, p i ∧ v = ref i ∧ h.ArrayAt i vs
  | .rows rows => ∃ i refs, v = ref i ∧ h.RowsAt ref p i refs rows
  | .names fields => ∃ i, p i ∧ v = ref i ∧ h.tables i = some (Table.ofNames fields)

/-- At `i` is a table with these fields and no other. -/
def RecordAt (h : Heap ν) (p : ℕ → Prop) (i : ℕ) (fields : List (List Char × Field ν)) : Prop :=
  ∃ t, h.tables i = some t ∧ (∀ key ∈ t, ∃ f ∈ fields, key = .name f.1) ∧
    ∀ f ∈ fields, ∃ v, t.lookup (.name f.1) = some v ∧ h.Holds ref p v f.2

variable {ref}

theorem Holds.congr {p q : ℕ → Prop} {v : ν} {x : Field ν} (hx : h.Holds ref p v x)
    (hpq : ∀ i, p i → q i) (he : ∀ i, p i → h'.tables i = h.tables i) : h'.Holds ref q v x := by
  cases x with
  | value u => exact hx
  | array vs =>
    obtain ⟨i, hp, hv, ha⟩ := hx
    exact ⟨i, hpq i hp, hv, ha.congr (he i hp)⟩
  | rows rows =>
    obtain ⟨i, refs, hv, hrows⟩ := hx
    exact ⟨i, refs, hv, (hrows.congr he).mono hpq⟩
  | names fields =>
    obtain ⟨i, hp, hv, ht⟩ := hx
    exact ⟨i, hpq i hp, hv, (he i hp).trans ht⟩

theorem extends_pushField (ref : ℕ → ν) (h : Heap ν) (x : Field ν) :
    h.Extends (h.pushField ref x).2 := by
  cases x with
  | value v => exact Extends.refl h
  | array vs => exact h.extends_pushArray vs
  | rows rows => exact extends_pushRows ref h rows
  | names fields => exact h.extends_pushNames fields

theorem holds_pushField (ref : ℕ → ν) (h : Heap ν) (x : Field ν) :
    (h.pushField ref x).2.Holds ref (fun i => h.next ≤ i ∧ i < (h.pushField ref x).2.next)
      (h.pushField ref x).1 x := by
  cases x with
  | value v => rfl
  | array vs =>
    have hlt : h.next < (h.pushArray vs).next := by
      rw [next_pushArray]
      omega
    exact ⟨h.next, ⟨le_rfl, hlt⟩, rfl, h.arrayAt_pushArray vs⟩
  | rows rows =>
    obtain ⟨refs, -, hrows⟩ := rowsAt_pushRows ref h rows
    exact ⟨h.next, refs, rfl, hrows⟩
  | names fields =>
    have hlt : h.next < (h.pushNames fields).next := by
      rw [next_pushNames]
      omega
    exact ⟨h.next, ⟨le_rfl, hlt⟩, rfl, h.tables_pushNames fields⟩

/-- A record stays what it is when its tables do. -/
theorem RecordAt.congr {p q : ℕ → Prop} {i : ℕ} {fields : List (List Char × Field ν)}
    (hr : h.RecordAt ref p i fields) (hpq : ∀ j, p j → q j) (hi : h'.tables i = h.tables i)
    (he : ∀ j, p j → h'.tables j = h.tables j) : h'.RecordAt ref q i fields := by
  obtain ⟨t, ht, hkeys, hfields⟩ := hr
  refine ⟨t, hi.trans ht, hkeys, ?_⟩
  intro f hf
  obtain ⟨v, hv, hx⟩ := hfields f hf
  exact ⟨v, hv, hx.congr hpq he⟩

theorem extends_fillRecord {i : ℕ} (he : h.Extends h') (hi : h.next ≤ i)
    (fields : List (List Char × Field ν)) : h.Extends (h'.fillRecord ref i fields) := by
  induction fields generalizing h' with
  | nil => exact he
  | cons f fields ih => exact ih ((he.trans (extends_pushField ref h' f.2)).set hi _ _)

theorem extends_pushRecord (ref : ℕ → ν) (h : Heap ν) (fields : List (List Char × Field ν)) :
    h.Extends (h.pushRecord ref fields) :=
  extends_fillRecord h.extends_create le_rfl fields

/-- One more field, under a name of its own and in tables of its own. -/
theorem RecordAt.append {i : ℕ} {done : List (List Char × Field ν)}
    (hr : h.RecordAt ref (fun j => i < j ∧ j < h.next) i done) (hi : i < h.next) {s : List Char}
    (hs : ∀ f ∈ done, f.1 ≠ s) (x : Field ν) :
    ((h.pushField ref x).2.set i (.name s) (h.pushField ref x).1).RecordAt ref
      (fun j => i < j ∧ j < (h.pushField ref x).2.next) i (done ++ [(s, x)]) := by
  obtain ⟨t, ht, hkeys, hfields⟩ := hr
  have hext := extends_pushField ref h x
  have ht' : (h.pushField ref x).2.tables i = some t := (hext.tables_eq i hi).trans ht
  refine ⟨_, tables_set_self ht' _ _, ?_, ?_⟩
  · intro key hkey
    rcases (AList.mem_insert t).mp hkey with rfl | hkey
    · exact ⟨(s, x), by simp, rfl⟩
    · obtain ⟨f, hf, hname⟩ := hkeys key hkey
      exact ⟨f, List.mem_append_left _ hf, hname⟩
  · intro f hf
    rcases List.mem_append.mp hf with hf | hf
    · obtain ⟨v, hv, hx⟩ := hfields f hf
      refine ⟨v, ?_, hx.congr ?_ ?_⟩
      · rw [AList.lookup_insert_ne (by simpa using hs f hf)]
        exact hv
      · intro j hj
        exact ⟨hj.1, hj.2.trans_le hext.next_le⟩
      · intro j hj
        rw [tables_set_of_ne _ (by omega)]
        exact hext.tables_eq j hj.2
    · obtain rfl := List.mem_singleton.mp hf
      refine ⟨_, AList.lookup_insert t, (holds_pushField ref h x).congr ?_ ?_⟩
      · intro j hj
        exact ⟨hi.trans_le hj.1, hj.2⟩
      · intro j hj
        exact tables_set_of_ne _ (by omega) _ _

/-- The run over the fields: what the record holds so far, and what comes. -/
theorem RecordAt.fillRecord {i : ℕ} {done : List (List Char × Field ν)}
    (hr : h.RecordAt ref (fun j => i < j ∧ j < h.next) i done) (hi : i < h.next)
    (fields : List (List Char × Field ν)) (hnames : ((done ++ fields).map Prod.fst).Nodup) :
    (h.fillRecord ref i fields).RecordAt ref
      (fun j => i < j ∧ j < (h.fillRecord ref i fields).next) i (done ++ fields) := by
  induction fields generalizing h done with
  | nil => simpa [Heap.fillRecord] using hr
  | cons f fields ih =>
    obtain ⟨s, x⟩ := f
    have hs : ∀ f ∈ done, f.1 ≠ s := by
      intro f hf heq
      rw [List.map_append, List.nodup_append] at hnames
      exact hnames.2.2 f.1 (List.mem_map_of_mem hf) s (by simp) heq
    have hnext : ((h.pushField ref x).2.set i (.name s) (h.pushField ref x).1).next =
        (h.pushField ref x).2.next := next_set _ _ _ _
    have hone := hr.append hi hs x
    rw [← hnext] at hone
    have hi' : i < ((h.pushField ref x).2.set i (.name s) (h.pushField ref x).1).next := by
      rw [hnext]
      exact hi.trans_le (extends_pushField ref h x).next_le
    have hrest := ih hone hi' (by simpa using hnames)
    rw [List.append_assoc] at hrest
    exact hrest

/-- What is pushed is a record of these fields, all in new tables. -/
theorem recordAt_pushRecord (ref : ℕ → ν) (h : Heap ν) {fields : List (List Char × Field ν)}
    (hnames : (fields.map Prod.fst).Nodup) :
    (h.pushRecord ref fields).RecordAt ref
      (fun j => h.next < j ∧ j < (h.pushRecord ref fields).next) h.next fields := by
  have hempty : h.create.RecordAt ref (fun j => h.next < j ∧ j < h.create.next) h.next [] :=
    ⟨∅, Function.update_self _ _ _, by simp, by simp⟩
  exact hempty.fillRecord (Nat.lt_succ_self _) fields hnames

/-! Arrays of records. -/

variable (ref) in
/-- Records one after the other, each in the array before the next is made. -/
def fillRecords (h : Heap ν) (i : ℕ) : ℤ → List (List (List Char × Field ν)) → Heap ν
  | _, [] => h
  | n, fields :: records =>
    ((h.pushRecord ref fields).set i (.index n) (ref h.next)).fillRecords i (n + 1) records

variable (ref) in
def pushRecords (h : Heap ν) (records : List (List (List Char × Field ν))) : Heap ν :=
  h.create.fillRecords ref h.next 1 records

variable (ref) in
/-- At `r` is an array of the records, which are made of tables with `p`. -/
structure RecordsAt (h : Heap ν) (p : ℕ → Prop) (r : ℕ) (refs : List ℕ)
    (records : List (List (List Char × Field ν))) : Prop where
  inner_mem : ∀ i ∈ refs, p i
  outer : h.ArrayAt r (refs.map ref)
  inner : List.Forall₂ (h.RecordAt ref p) refs records

theorem forall₂_recordAt_congr {p q : ℕ → Prop} {refs : List ℕ}
    {records : List (List (List Char × Field ν))}
    (hr : List.Forall₂ (h.RecordAt ref p) refs records) (hmem : ∀ i ∈ refs, p i)
    (hpq : ∀ i, p i → q i) (he : ∀ i, p i → h'.tables i = h.tables i) :
    List.Forall₂ (h'.RecordAt ref q) refs records := by
  induction hr with
  | nil => exact .nil
  | cons hrecord _ ih =>
    apply List.Forall₂.cons
    · exact hrecord.congr hpq (he _ (hmem _ List.mem_cons_self)) he
    · exact ih fun i hi => hmem i (List.mem_cons_of_mem _ hi)

theorem RecordsAt.congr {p q : ℕ → Prop} {r : ℕ} {refs : List ℕ}
    {records : List (List (List Char × Field ν))} (hr : h.RecordsAt ref p r refs records)
    (hpq : ∀ i, p i → q i) (hi : h'.tables r = h.tables r)
    (he : ∀ i, p i → h'.tables i = h.tables i) : h'.RecordsAt ref q r refs records where
  inner_mem i hi := hpq i (hr.inner_mem i hi)
  outer := hr.outer.congr hi
  inner := forall₂_recordAt_congr hr.inner hr.inner_mem hpq he

theorem extends_fillRecords {i : ℕ} (he : h.Extends h') (hi : h.next ≤ i) (n : ℤ)
    (records : List (List (List Char × Field ν))) : h.Extends (h'.fillRecords ref i n records) := by
  induction records generalizing h' n with
  | nil => exact he
  | cons fields records ih =>
    exact ih ((he.trans (extends_pushRecord ref h' fields)).set hi _ _) (n + 1)

theorem extends_pushRecords (ref : ℕ → ν) (h : Heap ν)
    (records : List (List (List Char × Field ν))) : h.Extends (h.pushRecords ref records) :=
  extends_fillRecords h.extends_create le_rfl 1 records

theorem next_le_fillRecord (ref : ℕ → ν) (h : Heap ν) (i : ℕ)
    (fields : List (List Char × Field ν)) : h.next ≤ (h.fillRecord ref i fields).next := by
  induction fields generalizing h with
  | nil => exact le_rfl
  | cons f fields ih =>
    calc h.next ≤ (h.pushField ref f.2).2.next := (extends_pushField ref h f.2).next_le
      _ = ((h.pushField ref f.2).2.set i (.name f.1) (h.pushField ref f.2).1).next :=
        (next_set _ _ _ _).symm
      _ ≤ (h.fillRecord ref i (f :: fields)).next := ih _

theorem next_lt_pushRecord (ref : ℕ → ν) (h : Heap ν) (fields : List (List Char × Field ν)) :
    h.next < (h.pushRecord ref fields).next := next_le_fillRecord ref h.create h.next fields

theorem next_lt_pushRecords (ref : ℕ → ν) (h : Heap ν)
    (records : List (List (List Char × Field ν))) : h.next < (h.pushRecords ref records).next := by
  have hle : ∀ (g : Heap ν) (n : ℤ), g.next ≤ (g.fillRecords ref h.next n records).next := by
    induction records with
    | nil => exact fun _ _ => le_rfl
    | cons fields records ih =>
      intro g n
      calc g.next ≤ (g.pushRecord ref fields).next := (next_lt_pushRecord ref g fields).le
        _ = ((g.pushRecord ref fields).set h.next (.index n) (ref g.next)).next :=
          (next_set _ _ _ _).symm
        _ ≤ (g.fillRecords ref h.next n (fields :: records)).next := ih _ _
  exact hle h.create 1

/-- One more record, in tables of its own. -/
theorem RecordsAt.append {i : ℕ} {refs : List ℕ} {done : List (List (List Char × Field ν))}
    (hr : h.RecordsAt ref (fun j => i < j ∧ j < h.next) i refs done) (hi : i < h.next)
    {fields : List (List Char × Field ν)} (hnames : (fields.map Prod.fst).Nodup) :
    ((h.pushRecord ref fields).set i (.index (refs.length + 1)) (ref h.next)).RecordsAt ref
      (fun j => i < j ∧ j < (h.pushRecord ref fields).next) i (refs ++ [h.next])
        (done ++ [fields]) := by
  have hext := extends_pushRecord ref h fields
  have hlt := next_lt_pushRecord ref h fields
  have hpush : (h.pushRecord ref fields).RecordsAt ref
      (fun j => i < j ∧ j < (h.pushRecord ref fields).next) i refs done := by
    apply hr.congr
    · intro j hj
      exact ⟨hj.1, hj.2.trans hlt⟩
    · exact hext.tables_eq i hi
    · intro j hj
      exact hext.tables_eq j hj.2
  have hnew := recordAt_pushRecord ref h hnames
  have hset : ∀ j, i < j → ((h.pushRecord ref fields).set i (.index (refs.length + 1))
      (ref h.next)).tables j = (h.pushRecord ref fields).tables j := by
    intro j hj
    exact tables_set_of_ne _ hj.ne' _ _
  constructor
  · intro j hj
    rcases List.mem_append.mp hj with hj | hj
    · exact hpush.inner_mem j hj
    · obtain rfl := List.mem_singleton.mp hj
      exact ⟨hi, hlt⟩
  · have houter := hpush.outer.append (ref h.next)
    rw [List.length_map] at houter
    simpa using houter
  · apply List.rel_append
    · apply forall₂_recordAt_congr hpush.inner hpush.inner_mem
      · intro j hj
        exact hj
      · intro j hj
        exact hset j hj.1
    · apply List.Forall₂.cons _ .nil
      apply hnew.congr
      · intro j hj
        exact ⟨hi.trans hj.1, hj.2⟩
      · exact hset _ hi
      · intro j hj
        exact hset j (hi.trans hj.1)

/-- The loop that fills the array: what it holds so far, and what comes. -/
theorem RecordsAt.fillRecords {i : ℕ} {refs : List ℕ} {done : List (List (List Char × Field ν))}
    (hr : h.RecordsAt ref (fun j => i < j ∧ j < h.next) i refs done) (hi : i < h.next)
    (records : List (List (List Char × Field ν)))
    (hnames : ∀ fields ∈ records, (fields.map Prod.fst).Nodup) :
    ∃ refs', (h.fillRecords ref i (refs.length + 1) records).RecordsAt ref
      (fun j => i < j ∧ j < (h.fillRecords ref i (refs.length + 1) records).next) i refs'
        (done ++ records) := by
  induction records generalizing h refs done with
  | nil => exact ⟨refs, by simpa [Heap.fillRecords] using hr⟩
  | cons fields records ih =>
    have hlt := next_lt_pushRecord ref h fields
    have hnext : ((h.pushRecord ref fields).set i (.index (refs.length + 1)) (ref h.next)).next =
        (h.pushRecord ref fields).next := next_set _ _ _ _
    have hone := hr.append hi (hnames fields List.mem_cons_self)
    rw [← hnext] at hone hlt
    obtain ⟨refs', hrecords⟩ := ih hone (hi.trans hlt)
      fun fields hf => hnames fields (List.mem_cons_of_mem _ hf)
    rw [List.length_append, List.length_singleton, List.append_assoc] at hrecords
    exact ⟨refs', hrecords⟩

/-- What is pushed is an array of these records, all in new tables. -/
theorem recordsAt_pushRecords (ref : ℕ → ν) (h : Heap ν)
    {records : List (List (List Char × Field ν))}
    (hnames : ∀ fields ∈ records, (fields.map Prod.fst).Nodup) :
    ∃ refs, (h.pushRecords ref records).RecordsAt ref
      (fun j => h.next < j ∧ j < (h.pushRecords ref records).next) h.next refs records := by
  have hempty : h.create.RecordsAt ref (fun j => h.next < j ∧ j < h.create.next) h.next [] [] :=
    ⟨by simp, h.arrayAt_create, .nil⟩
  exact hempty.fillRecords (Nat.lt_succ_self _) records hnames

end Records

end Heap

end LuaTable
