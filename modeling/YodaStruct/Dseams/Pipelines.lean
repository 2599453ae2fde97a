import YodaStruct.Binding.Calls
import YodaStruct.Dseams.Lua

/-! The pipelines of the front end: several calls of the core, with Lua tables between them.
Each is the composition of the engine's functions that it stands for. -/
namespace YodaStruct.Dseams
open YodaStruct.Config YodaStruct.Driver YodaStruct.Binding LuaTable Simulation

structure PipelineOptions (Cloud : Type) where
  cutoff : ScriptValue := .nil
  type : ScriptValue := .nil
  k : ScriptValue := .nil
  mutuals : ScriptValue := .nil
  complete : ScriptValue := .nil
  maxRing : ScriptValue := .nil
  path : Option CppString := none
  hCloud : Option Cloud := none
  frame : ScriptValue := .nil
  hType : ScriptValue := .nil
  dist : ScriptValue := .nil
  angle : ScriptValue := .nil

instance {Cloud : Type} : Inhabited (PipelineOptions Cloud) := ⟨{}⟩

/-! What the scripts do with tables. -/

section Tables
variable (lua : Interpreter)

/-- `{}`. -/
def newTable : Prog LuaHeap CallError ScriptValue := fun h => .ok (.other h.next, h.create)

/-- `#v`. -/
def length (v : ScriptValue) : Prog LuaHeap CallError ℕ := fun h =>
  match v with
  | .other i =>
    match h.tables i with
    | some t => .ok (lua.length t, h)
    | none => .error (.index v)
  | .string s => .ok (s.length, h)
  | v => .error (.index v)

/-- `v[n] = x`, for an `x` that is not `nil`. -/
def setIndex (v : ScriptValue) (n : ℤ) (x : ScriptValue) : Prog LuaHeap CallError Unit := fun h =>
  match v with
  | .other i =>
    match h.tables i with
    | some _ => .ok ((), h.set i (.index n) x)
    | none => .error (.index v)
  | v => .error (.index v)

/-- `if #ring == 6 then six[#six + 1] = ring end`. -/
def keepRing (six ring : ScriptValue) : Prog LuaHeap CallError Unit := do
  if (← length lua ring) = 6 then
    setIndex six ((← length lua six) + 1) ring

/-- The loop over the rings of a network. -/
def keepSix (fuel : ℕ) (rings six : ScriptValue) : Prog LuaHeap CallError Unit :=
  Heap.forIpairs indexed .outOfFuel (keepRing lua six) rings fuel 1

end Tables

/-! The pipelines. -/

section Pipelines
variable {σ Cloud : Type} (lua : Interpreter) (engine : Engine σ Cloud)

def neighbors (cloud : Cloud) (o : Option (PipelineOptions Cloud)) : Script σ ScriptValue :=
  let o := opts o
  neighListO lua engine (o.cutoff.orElse (.float (35 / 10))) cloud (o.type.orElse (.integer 1))

def knn (cloud : Cloud) (o : Option (PipelineOptions Cloud)) : Script σ ScriptValue :=
  let o := opts o
  let mutuals := if o.mutuals = .boolean false then false else true
  kNearestNeighbourList lua engine cloud (o.k.orElse (.integer 4)) (o.cutoff.orElse (.float 5))
    (o.type.orElse (.integer 1)) (.boolean mutuals)

def chillPlus (cloud : Cloud) (o : Option (PipelineOptions Cloud)) : Script σ ScriptValue := do
  let nl ← neighbors lua engine cloud o
  getCorrelPlus lua engine cloud nl (.boolean false) .nil
  getIceTypePlusNoPrint lua engine cloud nl (.boolean false)

def chill (cloud : Cloud) (o : Option (PipelineOptions Cloud)) : Script σ ScriptValue := do
  let nl ← neighbors lua engine cloud o
  getCorrel lua engine cloud nl (.boolean false) .nil
  getIceTypeNoPrint lua engine cloud nl (.boolean false)

def cages (fuel : ℕ) (cloud : Cloud) (o : Option (PipelineOptions Cloud)) :
    Script σ ScriptValue := do
  let o := opts o
  let typ := o.type.orElse (.integer 1)
  let k := o.k.orElse (.integer 4)
  let cut := o.cutoff.orElse (.float 5)
  let (mutuals, union) ← kNearestNeighbourPair lua engine cloud k cut typ
  let idxS ← neighbourListByIndex lua engine cloud mutuals
  let idxU ← neighbourListByIndex lua engine cloud union
  let sixS ← Prog.onStore newTable
  let sixU ← Prog.onStore newTable
  let rings ← ringNetwork lua engine idxS (.integer 6)
  Prog.onStore (keepSix lua fuel rings sixS)
  let rings ← ringNetwork lua engine idxU (.integer 6)
  Prog.onStore (keepSix lua fuel rings sixU)
  seededCageAffiliation lua engine sixS idxS sixU idxU (o.complete.orElse (.boolean false))

def cagesBySignature (cloud : Cloud) (spec : CppString) (o : Option (PipelineOptions Cloud)) :
    Script σ ScriptValue := do
  let nl ← neighbors lua engine cloud o
  let idx ← neighbourListByIndex lua engine cloud nl
  let rings ← ringNetwork lua engine idx ((opts o).maxRing.orElse (.integer 8))
  findBySignature lua engine rings idx spec

def hbonds (cloud : Cloud) (o : Option (PipelineOptions Cloud)) : Script σ ScriptValue := do
  let nl ← neighbors lua engine cloud o
  let o := opts o
  match o.hCloud with
  | some hCloud => getHbondNetworkFromClouds lua engine cloud hCloud nl o.dist o.angle
  | none =>
    match o.path with
    | none => throw (.raised "hbonds needs path= or h_cloud=".toList 2)
    | some path =>
      getHbondNetwork lua engine path cloud nl (o.frame.orElse (.integer 1))
        (o.hType.orElse (.integer 1)) o.dist o.angle

end Pipelines

/-! The loop over the rings. -/

section Loop
variable {lua : Interpreter} {h h' : LuaHeap}

/-- The length of an array is the same in every Lua. -/
theorem length_of_arrayAt {i : ℕ} {vs : List ScriptValue} (ha : h.ArrayAt i vs) :
    length lua (.other i) h = .ok (vs.length, h) := by
  obtain ⟨t, ht, hvs⟩ := ha
  unfold length
  simp only [ht]
  rw [hvs.border (lua.isBorder t)]

theorem setIndex_of_arrayAt {i : ℕ} {vs : List ScriptValue} (ha : h.ArrayAt i vs) (n : ℤ)
    (x : ScriptValue) : setIndex (.other i) n x h = .ok ((), h.set i (.index n) x) := by
  obtain ⟨t, ht, -⟩ := ha
  unfold setIndex
  simp only [ht]

/-- One turn: a ring of six goes to the end, any other is passed over. -/
theorem keepRing_of_arrayAt {i j : ℕ} {kept ring : List ScriptValue} (hsix : h.ArrayAt i kept)
    (hring : h.ArrayAt j ring) :
    keepRing lua (.other i) (.other j) h =
      .ok ((), if ring.length = 6 then h.set i (.index (kept.length + 1)) (.other j) else h) := by
  have hrun : keepRing lua (.other i) (.other j) h =
      (length lua (.other j) h >>= fun r => (if r.1 = 6 then
        length lua (.other i) >>= fun n => setIndex (.other i) (n + 1) (.other j)
        else pure () : Prog LuaHeap CallError Unit) r.2) := rfl
  rw [hrun, length_of_arrayAt hring]
  change (if ring.length = 6 then
    length lua (.other i) >>= fun n => setIndex (.other i) (n + 1) (.other j)
    else pure () : Prog LuaHeap CallError Unit) h = _
  by_cases hlen : ring.length = 6
  · rw [if_pos hlen, if_pos hlen]
    change (length lua (.other i) h >>= fun r => setIndex (.other i) (r.1 + 1) (.other j) r.2) = _
    rw [length_of_arrayAt hsix]
    exact setIndex_of_arrayAt hsix _ _
  · rw [if_neg hlen, if_neg hlen]
    rfl

/-- Between two turns: `six` has the rings of six among those that are done, and all else is as
it was. -/
structure Kept (h : LuaHeap) (i : ℕ) (done : List (ℕ × List Int32)) (h' : LuaHeap) : Prop where
  next_eq : h'.next = h.next
  tables_eq : ∀ j, j ≠ i → h'.tables j = h.tables j
  array : h'.ArrayAt i ((done.filter (·.2.length = 6)).map fun x => .other x.1)

theorem Kept.turn {i : ℕ} {done : List (ℕ × List Int32)} (hk : Kept h i done h')
    {x : ℕ × List Int32} (hx : h.ArrayAt x.1 (x.2.map intValue)) (hne : x.1 ≠ i) :
    ∃ h'', keepRing lua (.other i) (.other x.1) h' = .ok ((), h'') ∧ Kept h i (done ++ [x]) h'' := by
  refine ⟨_, keepRing_of_arrayAt hk.array (hx.congr (hk.tables_eq _ hne)), ?_⟩
  rw [List.length_map]
  by_cases hlen : x.2.length = 6
  · rw [if_pos hlen]
    constructor
    · rw [Heap.next_set, hk.next_eq]
    · intro j hj
      rw [Heap.tables_set_of_ne _ hj, hk.tables_eq j hj]
    · have happend := hk.array.append (.other x.1)
      simpa [List.filter_append, hlen] using happend
  · rw [if_neg hlen]
    exact ⟨hk.next_eq, hk.tables_eq, by simpa [List.filter_append, hlen] using hk.array⟩

/-- The loop leaves the rings of six vertices in `six`, and every other table alone. -/
theorem keepSix_endsWith (lua : Interpreter) {p : ℕ → Prop} {rings : ScriptValue} {rows : IntRows}
    {i : ℕ} (hn : StandsIn h p rings (.nested rows)) (hi : ¬p i) (hsix : h.ArrayAt i []) :
    ∃ h', EndsWith (fun fuel => keepSix lua fuel rings (.other i)) h (.ok ((), h')) ∧
      h'.next = h.next ∧ (∀ j, j ≠ i → h'.tables j = h.tables j) ∧
      StandsIn h' (fun j => j = i ∨ p j) (.other i) (.nested (rows.filter (·.length = 6))) := by
  obtain ⟨r, refs, rfl, hrows⟩ := standsIn_nested.mp hn
  have hne : ∀ j, p j → j ≠ i := by
    intro j hj heq
    exact hi (heq ▸ hj)
  obtain ⟨ps, rfl, rfl, harray⟩ := Heap.exists_pairs hrows.inner
  have hmem : ∀ x ∈ ps, x.1 ≠ i := by
    intro x hx
    exact hne _ (hrows.inner_mem _ (List.mem_map_of_mem hx))
  have hloop : ∃ h', EndsWith (fun fuel => keepSix lua fuel (.other r) (.other i)) h
      (.ok ((), h')) ∧ Kept h i ps h' := by
    unfold keepSix
    apply Heap.forIpairs_invariant (Kept h i)
    · intro done h' hk
      obtain ⟨t, ht, hvs⟩ := hrows.outer.congr (hk.tables_eq r (hne r hrows.outer_mem))
      rw [List.map_map] at hvs
      exact ⟨t, indexed_of_tables ht, hvs⟩
    · intro done x rest hps h' hk
      have hx : x ∈ ps := by simp [hps]
      exact hk.turn (harray x hx) (hmem x hx)
    · exact ⟨rfl, fun _ _ => rfl, by simpa using hsix⟩
  obtain ⟨h', hends, hk⟩ := hloop
  refine ⟨h', hends, hk.next_eq, hk.tables_eq, standsIn_nested.mpr
    ⟨i, (ps.filter (·.2.length = 6)).map Prod.fst, rfl, ?_⟩⟩
  constructor
  · exact .inl rfl
  · intro j hj
    obtain ⟨x, hx, rfl⟩ := List.mem_map.mp hj
    exact .inr (hrows.inner_mem _ (List.mem_map_of_mem (List.mem_of_mem_filter hx)))
  · rw [List.map_map]
    exact hk.array
  · rw [List.filter_map, List.map_map, List.forall₂_map_left_iff, List.forall₂_map_right_iff]
    apply List.forall₂_same.mpr
    intro x hx
    have hx' := List.mem_of_mem_filter hx
    exact (harray x hx').congr (hk.tables_eq _ (hmem x hx'))

end Loop

/-! What the pipelines stand for. -/

section Meaning
variable {σ Cloud : Type} (engine : Engine σ Cloud)

/-- An analysis of the bonds, after the neighbours and before the states of the atoms. -/
def chillOf (correl : Cloud → IntRows → Bool → Int32 → Prog σ CallError Unit)
    (iceType : Cloud → IntRows → Bool → Prog σ CallError Unit) (cloud : Cloud) (cutoff : ℚ)
    (typ : Int32) : Prog σ CallError (List IceState) := do
  let nl ← engine.neighListO cutoff cloud typ
  correl cloud nl false 4
  iceType cloud nl false
  engine.iceTypes cloud

/-- Cages seeded on the six-rings of the mutual graph and completed on those of the union. -/
def cagesOf (cloud : Cloud) (k : Int32) (cutoff : ℚ) (typ : Int32) (complete : Bool) :
    Prog σ CallError Affiliation := do
  let both ← engine.kNearestNeighbourPair cloud k cutoff typ
  let idxS ← engine.neighbourListByIndex cloud both.1
  let idxU ← engine.neighbourListByIndex cloud both.2
  let ringsS ← engine.ringNetwork idxS 6
  let ringsU ← engine.ringNetwork idxU 6
  engine.seededCageAffiliation (ringsS.filter (·.length = 6)) idxS
    (ringsU.filter (·.length = 6)) idxU complete

/-- Cages with a signature among the rings of the graph of neighbours. -/
def cagesBySignatureOf (cloud : Cloud) (cutoff : ℚ) (typ maxRing : Int32) (spec : CppString) :
    Prog σ CallError (List FoundCage) := do
  let nl ← engine.neighListO cutoff cloud typ
  let idx ← engine.neighbourListByIndex cloud nl
  let rings ← engine.ringNetwork idx maxRing
  engine.findBySignature rings idx spec

/-- The bonds of a cloud of hydrogens if there is one, else of a file. -/
def hbondsOf (cloud : Cloud) (cutoff : ℚ) (typ : Int32) (hCloud : Option Cloud)
    (path : Option CppString) (frame hType : Int32) (dist angle : ℚ) :
    Prog σ CallError IntRows := do
  let nl ← engine.neighListO cutoff cloud typ
  match hCloud, path with
  | some hCloud, _ => engine.populateHbondsWithInputClouds cloud hCloud nl dist angle
  | none, some path => engine.populateHbonds path cloud nl frame hType dist angle
  | none, none => throw (.raised "hbonds needs path= or h_cloud=".toList 2)

end Meaning

section Refinement
variable {σ Cloud : Type} (lua : Interpreter) (engine : Engine σ Cloud) (h : LuaHeap)
  (cloud : Cloud) (o : Option (PipelineOptions Cloud))

/-- What a number of the options is to the core. -/
def numberOption (v default : ScriptValue) : ℚ := getNumber lua.stringNumber (v.orElse default)

def intOption (v default : ScriptValue) : Int32 := getInt lua.stringNumber (v.orElse default)

theorem simulates_neighbors :
    Simulates h (fun _ => neighbors lua engine cloud o)
      (engine.neighListO (numberOption lua (opts o).cutoff (.float (35 / 10))) cloud
        (intOption lua (opts o).type (.integer 1))) fun h' v rows => Fresh h h' v (.nested rows) :=
  simulates_neighListO _ _ _

theorem simulates_knn :
    Simulates h (fun _ => knn lua engine cloud o)
      (engine.kNearestNeighbourList cloud (intOption lua (opts o).k (.integer 4))
        (numberOption lua (opts o).cutoff (.float 5)) (intOption lua (opts o).type (.integer 1))
        (decide ((opts o).mutuals ≠ .boolean false)))
      fun h' v rows => Fresh h h' v (.nested rows) := by
  have hmutual : (if (opts o).mutuals = .boolean false then false else true) =
      decide ((opts o).mutuals ≠ .boolean false) := by
    by_cases hm : (opts o).mutuals = .boolean false <;> simp [hm]
  unfold knn
  simp only [hmutual]
  exact simulates_give _ Data.nested

/-- Both analyses go through the engine with one list of neighbours, and name the states that
they leave behind. -/
theorem simulates_chillWith (correl : Cloud → IntRows → Bool → Int32 → Prog σ CallError Unit)
    (iceType : Cloud → IntRows → Bool → Prog σ CallError Unit) :
    Simulates h
      (fun _ => do
        let nl ← neighbors lua engine cloud o
        correlBinding lua correl cloud nl (.boolean false) .nil
        iceTypeBinding lua engine iceType cloud nl (.boolean false))
      (chillOf engine correl iceType cloud (numberOption lua (opts o).cutoff (.float (35 / 10)))
        (intOption lua (opts o).type (.integer 1)))
      fun h' v states => Fresh h h' v (iceStateNames states) := by
  unfold chillOf
  apply (simulates_neighbors lua engine h cloud o).bind
  intro h₁ nl rows hnl
  apply (simulates_correlBinding cloud hnl.2 _ _).bind
  intro h₂ _ _ hsame
  obtain rfl := hsame
  apply (simulates_iceTypeBinding cloud hnl.2 _).weaken
  intro h₃ v states hstates
  exact hstates.later hnl.1

/-- `chill` and `chill_plus` leave the engine as their analyses do, and hand back the name of each
atom's state. -/
theorem chill_simulates :
    (Simulates h (fun _ => chill lua engine cloud o)
      (chillOf engine engine.getCorrel engine.getIceTypeNoPrint cloud
        (numberOption lua (opts o).cutoff (.float (35 / 10)))
        (intOption lua (opts o).type (.integer 1)))
      fun h' v states => Fresh h h' v (iceStateNames states)) ∧
    Simulates h (fun _ => chillPlus lua engine cloud o)
      (chillOf engine engine.getCorrelPlus engine.getIceTypePlusNoPrint cloud
        (numberOption lua (opts o).cutoff (.float (35 / 10)))
        (intOption lua (opts o).type (.integer 1)))
      fun h' v states => Fresh h h' v (iceStateNames states) :=
  ⟨simulates_chillWith lua engine h cloud o _ _, simulates_chillWith lua engine h cloud o _ _⟩

/-- `hbonds` finds the neighbours first, whatever its options say about the hydrogens. -/
theorem hbonds_simulates :
    Simulates h (fun _ => hbonds lua engine cloud o)
      (hbondsOf engine cloud (numberOption lua (opts o).cutoff (.float (35 / 10)))
        (intOption lua (opts o).type (.integer 1)) (opts o).hCloud (opts o).path
        (intOption lua (opts o).frame (.integer 1)) (intOption lua (opts o).hType (.integer 1))
        ((optionalNumber (opts o).dist).getD (Binary64.toDouble (242 / 100)))
        ((optionalNumber (opts o).angle).getD 30))
      fun h' v rows => Fresh h h' v (.nested rows) := by
  unfold hbonds hbondsOf
  apply (simulates_neighbors lua engine h cloud o).bind
  intro h₁ nl rows hnl
  cases hc : (opts o).hCloud with
  | some hCloud =>
    simp only [hc]
    apply (takeNested_bind hnl.2 (simulates_give _ Data.nested)).weaken
    intro h₂ v bonds hbonds
    exact hbonds.later hnl.1
  | none =>
    cases hp : (opts o).path with
    | some path =>
      simp only [hc, hp]
      apply (takeNested_bind hnl.2 (simulates_give _ Data.nested)).weaken
      intro h₂ v bonds hbonds
      exact hbonds.later hnl.1
    | none =>
      simp only [hc, hp]
      exact Simulates.throw h₁ _

/-- `cages_by_signature` looks for cages among the rings of the graph that `neighbors` gives, and
hands back a record for each, in order. -/
theorem cagesBySignature_simulates (spec : CppString) :
    Simulates h (fun _ => cagesBySignature lua engine cloud spec o)
      (cagesBySignatureOf engine cloud (numberOption lua (opts o).cutoff (.float (35 / 10)))
        (intOption lua (opts o).type (.integer 1)) (intOption lua (opts o).maxRing (.integer 8))
        spec)
      fun h' v found => Fresh h h' v (.records (found.map FoundCage.record)) := by
  unfold cagesBySignature cagesBySignatureOf
  apply (simulates_neighbors lua engine h cloud o).bind
  intro h₁ nl rows hnl
  apply (simulates_neighbourListByIndex cloud hnl.2).bind
  intro h₂ idx list hidx
  apply (simulates_ringNetwork hidx.2 _).bind
  intro h₃ rings ringRows hrings
  apply (simulates_findBySignature hrings.2 (hidx.extend hrings.1).2 spec).weaken
  intro h₄ v found hfound
  exact hfound.later (hnl.1.trans (hidx.1.trans hrings.1))

/-- `cages` is the seeded affiliation of the six-rings of both graphs, with enough fuel for the
loops over the rings. -/
theorem cages_simulates :
    Simulates h (fun fuel => cages lua engine fuel cloud o)
      (cagesOf engine cloud (intOption lua (opts o).k (.integer 4))
        (numberOption lua (opts o).cutoff (.float 5)) (intOption lua (opts o).type (.integer 1))
        ((optionalBool ((opts o).complete.orElse (.boolean false))).getD false))
      fun h' v a => Fresh h h' v (.record a.record) := by
  unfold cages cagesOf
  apply (simulates_kNearestNeighbourPair cloud _ _ _).bind
  intro h₁ vs both hboth
  obtain ⟨mutuals, union⟩ := vs
  obtain ⟨hm, hu⟩ := hboth
  apply (simulates_neighbourListByIndex cloud hm.2).bind
  intro h₂ idxS listS hS
  apply (simulates_neighbourListByIndex cloud (hu.extend hS.1).2).bind
  intro h₃ idxU listU hU
  apply Simulates.onStore_bind (endsWith_const newTable h₃)
  apply Simulates.onStore_bind (endsWith_const newTable h₃.create)
  have htwo : h₃.Extends h₃.create.create := h₃.extends_create.trans h₃.create.extends_create
  apply (simulates_ringNetwork (hS.extend (hU.1.trans htwo)).2 _).bind
  intro h₄ rings ringsS hrS
  -- The two tables lie between the lists and the rings, and each loop writes to one of them.
  have hnext₄ : h₃.next + 2 ≤ h₄.next := hrS.1.next_le
  have hsixS : h₄.ArrayAt h₃.next [] :=
    h₃.arrayAt_create.congr (((h₃.create.extends_create.trans hrS.1).tables_eq _) (Nat.lt_succ_self _))
  have hsixU : h₄.ArrayAt (h₃.next + 1) [] :=
    h₃.create.arrayAt_create.congr (hrS.1.tables_eq _ (Nat.lt_succ_self _))
  obtain ⟨h₅, hends, hnext₅, htables₅, hkeptS⟩ := keepSix_endsWith lua hrS.2
    (fun hi => Nat.not_succ_le_self _ (le_trans (Nat.le_succ _) hi.1)) hsixS
  apply Simulates.onStore_bind hends
  have hlists₅ : ∀ j < h₃.next, h₅.tables j = h₃.tables j := by
    intro j hj
    rw [htables₅ j hj.ne]
    exact (htwo.trans hrS.1).tables_eq j hj
  apply (simulates_ringNetwork (hU.2.congr (fun _ hj => hj) fun j hj => hlists₅ j hj.2) _).bind
  intro h₆ rings' ringsU hrU
  have hsixU₆ : h₆.ArrayAt (h₃.next + 1) [] := by
    apply (hsixU.congr (htables₅ _ (Nat.succ_ne_self _))).congr
    exact hrU.1.tables_eq _ (by omega)
  obtain ⟨h₇, hends', hnext₇, htables₇, hkeptU⟩ := keepSix_endsWith lua hrU.2
    (fun hi => by have := hi.1; omega) hsixU₆
  apply Simulates.onStore_bind hends'
  have hlate : ∀ j < h₅.next, j ≠ h₃.next + 1 → h₇.tables j = h₅.tables j := by
    intro j hj hne
    rw [htables₇ j hne]
    exact hrU.1.tables_eq j hj
  have hlists₇ : ∀ j < h₃.next, h₇.tables j = h₃.tables j := by
    intro j hj
    rw [hlate j (by omega) (by omega)]
    exact hlists₅ j hj
  have hsix₇ : ∀ j, j = h₃.next ∨ h₃.create.create.next ≤ j ∧ j < h₄.next →
      h₇.tables j = h₅.tables j := by
    intro j hj
    obtain rfl | ⟨hlo, hhi⟩ := hj
    · exact hlate _ (by omega) (by omega)
    · have hlo' : h₃.next + 2 ≤ j := hlo
      exact hlate j (by omega) (by omega)
  have hext : h.Extends h₇ := by
    apply hu.1.trans
    apply hS.1.trans
    apply hU.1.trans
    have hle := hrU.1.next_le
    exact ⟨by omega, hlists₇⟩
  apply (simulates_seededCageAffiliation (hkeptS.congr (fun _ hj => hj) hsix₇)
    ((hS.extend hU.1).2.congr (fun _ hj => hj) fun j hj => hlists₇ j hj.2) hkeptU
    (hU.2.congr (fun _ hj => hj) fun j hj => hlists₇ j hj.2) _).weaken
  intro h₈ v a hrecord
  exact hrecord.later hext

end Refinement

end YodaStruct.Dseams
