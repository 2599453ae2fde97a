import YodaStruct.Binding.Containers
import YodaStruct.Library.LuaLoop

/-! The bindings that the pipelines of the front end call. Each takes its arguments from Lua,
calls the engine, which is a parameter, and hands the result back as tables. As in all that is
modelled of sol here, arguments are taken without checks, as optimised builds take them. -/
namespace YodaStruct.Binding
open YodaStruct.Config YodaStruct.Driver LuaTable Simulation

/-- What may differ from one Lua to the next: how it reads a number in a string, and which of the
borders of a table is its length. -/
structure Interpreter where
  stringNumber : CppString → Option ℚ
  length : Table ScriptValue → ℕ
  isBorder : ∀ t : Table ScriptValue, t.IsBorder (length t)

/-- A Lua that stops counting at the first `nil`, and finds no number in a string. -/
def plainLua : Interpreter where
  stringNumber _ := none
  length t := (t.arrayFrom 1).length
  isBorder t := t.isBorder_arrayFrom

/-- `molSys::atom_state_type`. -/
inductive IceState
  | cubic | hexagonal | water | interfacial | clathrate | interClathrate | unclassified | reCubic
  | reHex
  deriving DecidableEq

def iceStateName : IceState → CppString
  | .cubic => "cubic".toList
  | .hexagonal => "hexagonal".toList
  | .water => "water".toList
  | .interfacial => "interfacial".toList
  | .clathrate => "clathrate".toList
  | .interClathrate => "interClathrate".toList
  | .reCubic => "reCubic".toList
  | .reHex => "reHex".toList
  | .unclassified => "unclassified".toList

def iceStateNames (states : List IceState) : Data :=
  .list (states.map fun state => .string (iceStateName state))

/-- The rows of two that `packPairs` makes. -/
def pairRows (pairs : List (Int32 × Int32)) : IntRows := pairs.map fun pair => [pair.1, pair.2]

/-- What `ring::seededCageAffiliation` returns: flags for each atom. -/
structure Affiliation where
  hc : List Bool
  ddc : List Bool

/-- The table that the binding makes of it. -/
def Affiliation.record (a : Affiliation) : Record where
  fields := [("hc".toList, .array (a.hc.map .boolean)), ("ddc".toList, .array (a.ddc.map .boolean))]
  nodup := (by decide : (["hc".toList, "ddc".toList] : List CppString).Nodup)

/-- What `cage::findBySignature` returns for each cage, the lists and the certificate as the
values that sol makes of them. -/
structure FoundCage where
  signature : CppString
  faces : List Scalar
  vertices : List Scalar
  certificate : Scalar

def FoundCage.record (found : FoundCage) : Record where
  fields :=
    [("signature".toList, .value (.string found.signature)),
      ("faces".toList, .array found.faces),
      ("vertices".toList, .array found.vertices),
      ("certificate".toList, .value found.certificate)]
  nodup := (by decide : (["signature".toList, "faces".toList, "vertices".toList,
    "certificate".toList] : List CppString).Nodup)

/-- The functions of the engine. The state `σ` is all that they may read and write, the points
of the clouds among it. -/
structure Engine (σ Cloud : Type) where
  neighListO (rcutoff : ℚ) (yCloud : Cloud) (typeI : Int32) : Prog σ CallError IntRows
  getNewNeighbourListByIndex (yCloud : Cloud) (cutoff : ℚ) : Prog σ CallError IntRows
  neighListPair (rcutoff : ℚ) (yCloud : Cloud) (typeI typeJ : Int32) : Prog σ CallError IntRows
  mutualNearestUnlike (yCloud : Cloud) (typeI typeJ : Int32) :
    Prog σ CallError (List (Int32 × Int32))
  neighbourListByIndex (yCloud : Cloud) (nList : IntRows) : Prog σ CallError IntRows
  kNearestNeighbourList (yCloud : Cloud) (k : Int32) (candidateCutoff : ℚ) (typeI : Int32)
    (mutuals : Bool) : Prog σ CallError IntRows
  kNearestNeighbourPair (yCloud : Cloud) (k : Int32) (candidateCutoff : ℚ) (typeI : Int32) :
    Prog σ CallError (IntRows × IntRows)
  ringNetwork (nList : IntRows) (maxDepth : Int32) : Prog σ CallError IntRows
  cageAffiliation (rings nList : IntRows) : Prog σ CallError Affiliation
  seededCageAffiliation (strictRings strictNList permRings permNList : IntRows)
    (ringAdjacentCompletion : Bool) : Prog σ CallError Affiliation
  /-- With the signature that `spec` stands for. -/
  findBySignature (rings nList : IntRows) (spec : CppString) : Prog σ CallError (List FoundCage)
  getCorrel (yCloud : Cloud) (nList : IntRows) (isSlice : Bool) (coordinationNumber : Int32) :
    Prog σ CallError Unit
  getCorrelPlus (yCloud : Cloud) (nList : IntRows) (isSlice : Bool) (coordinationNumber : Int32) :
    Prog σ CallError Unit
  getIceType (yCloud : Cloud) (nList : IntRows) (path : CppString) (firstFrame : Int32)
    (isSlice : Bool) (outputFileName : CppString) : Prog σ CallError Unit
  getIceTypePlus (yCloud : Cloud) (nList : IntRows) (path : CppString) (firstFrame : Int32)
    (isSlice : Bool) (outputFileName : CppString) : Prog σ CallError Unit
  getIceTypeNoPrint (yCloud : Cloud) (nList : IntRows) (isSlice : Bool) : Prog σ CallError Unit
  getIceTypePlusNoPrint (yCloud : Cloud) (nList : IntRows) (isSlice : Bool) :
    Prog σ CallError Unit
  /-- The `iceType` of each point of `yCloud.pts`. -/
  iceTypes (yCloud : Cloud) : Prog σ CallError (List IceState)
  populateHbonds (filename : CppString) (yCloud : Cloud) (nList : IntRows)
    (targetFrame hType : Int32) (dist angle : ℚ) : Prog σ CallError IntRows
  populateHbondsWithInputClouds (yCloud hCloud : Cloud) (nList : IntRows) (dist angle : ℚ) :
    Prog σ CallError IntRows
  populateHbondsFromDonors (yCloud hCloud : Cloud) (nList : IntRows) (donorHs : List Int32)
    (dist angle : ℚ) : Prog σ CallError IntRows

/-! Arguments that a call may leave out. -/

/-- `sol::optional<bool>`. -/
def optionalBool : ScriptValue → Option Bool
  | .boolean b => some b
  | _ => none

/-- `sol::optional<double>`: a number, but no string with one. -/
def optionalNumber : ScriptValue → Option ℚ
  | .integer n => some (Binary64.toDouble n)
  | .float x => some x
  | _ => none

/-- `sol::optional<int>`: a number, which is rounded. -/
def optionalInt : ScriptValue → Option Int32
  | .integer n => some (.ofInt n)
  | .float x => some (.ofInt (llround x))
  | _ => none

section Bindings
variable {σ Cloud : Type} (lua : Interpreter) (engine : Engine σ Cloud)

/-- A program of a script, on the tables and on the state of the engine. -/
abbrev Script (σ α : Type) := Prog (LuaHeap × σ) CallError α

/-! By-value vectors. -/

def takeNested (v : ScriptValue) : Script σ IntRows :=
  Prog.look fun h => getNested lua.stringNumber h v

def takeInts (v : ScriptValue) : Script σ (List Int32) :=
  Prog.look fun h => getInts lua.stringNumber h v

def takeFlags (v : ScriptValue) : Script σ (List Bool) := Prog.look fun h => getFlags h v

def give (d : Data) : Script σ ScriptValue := Prog.onStore fun h => pure (d.push h)

def packPairs (pairs : List (Int32 × Int32)) : Script σ ScriptValue :=
  give (.nested (pairRows pairs))

def neighListO (rcutoff : ScriptValue) (yCloud : Cloud) (typeI : ScriptValue) :
    Script σ ScriptValue := do
  give (.nested (← Prog.lift (engine.neighListO (getNumber lua.stringNumber rcutoff) yCloud
    (getInt lua.stringNumber typeI))))

def getNewNeighbourListByIndex (yCloud : Cloud) (cutoff : ScriptValue) : Script σ ScriptValue := do
  give (.nested (← Prog.lift (engine.getNewNeighbourListByIndex yCloud
    (getNumber lua.stringNumber cutoff))))

def neighListPair (rcutoff : ScriptValue) (yCloud : Cloud) (typeI typeJ : ScriptValue) :
    Script σ ScriptValue := do
  give (.nested (← Prog.lift (engine.neighListPair (getNumber lua.stringNumber rcutoff) yCloud
    (getInt lua.stringNumber typeI) (getInt lua.stringNumber typeJ))))

def mutualNearestUnlike (yCloud : Cloud) (typeI typeJ : ScriptValue) : Script σ ScriptValue := do
  packPairs (← Prog.lift (engine.mutualNearestUnlike yCloud (getInt lua.stringNumber typeI)
    (getInt lua.stringNumber typeJ)))

def neighbourListByIndex (yCloud : Cloud) (nList : ScriptValue) : Script σ ScriptValue := do
  let nList ← takeNested lua nList
  give (.nested (← Prog.lift (engine.neighbourListByIndex yCloud nList)))

def kNearestNeighbourList (yCloud : Cloud) (k candidateCutoff typeI mutuals : ScriptValue) :
    Script σ ScriptValue := do
  give (.nested (← Prog.lift (engine.kNearestNeighbourList yCloud (getInt lua.stringNumber k)
    (getNumber lua.stringNumber candidateCutoff) (getInt lua.stringNumber typeI)
    ((optionalBool mutuals).getD true))))

def kNearestNeighbourPair (yCloud : Cloud) (k candidateCutoff typeI : ScriptValue) :
    Script σ (ScriptValue × ScriptValue) := do
  let both ← Prog.lift (engine.kNearestNeighbourPair yCloud (getInt lua.stringNumber k)
    (getNumber lua.stringNumber candidateCutoff) (getInt lua.stringNumber typeI))
  let first ← give (.nested both.1)
  let second ← give (.nested both.2)
  pure (first, second)

def ringNetwork (nList maxDepth : ScriptValue) : Script σ ScriptValue := do
  let nList ← takeNested lua nList
  give (.nested (← Prog.lift (engine.ringNetwork nList (getInt lua.stringNumber maxDepth))))

def cageAffiliation (rings nList : ScriptValue) : Script σ ScriptValue := do
  let rings ← takeNested lua rings
  let nList ← takeNested lua nList
  give (.record (← Prog.lift (engine.cageAffiliation rings nList)).record)

def findBySignature (rings nList : ScriptValue) (spec : CppString) : Script σ ScriptValue := do
  let rings ← takeNested lua rings
  let nList ← takeNested lua nList
  give (.records ((← Prog.lift (engine.findBySignature rings nList spec)).map FoundCage.record))

def seededCageAffiliation (strictRings strictNList permRings permNList
    ringAdjacentCompletion : ScriptValue) : Script σ ScriptValue := do
  let strictRings ← takeNested lua strictRings
  let strictNList ← takeNested lua strictNList
  let permRings ← takeNested lua permRings
  let permNList ← takeNested lua permNList
  give (.record (← Prog.lift (engine.seededCageAffiliation strictRings strictNList permRings
    permNList ((optionalBool ringAdjacentCompletion).getD false))).record)

/-- `getCorrel` and `getCorrelPlus`. -/
def correlBinding (correl : Cloud → IntRows → Bool → Int32 → Prog σ CallError Unit)
    (yCloud : Cloud) (nList isSlice coordinationNumber : ScriptValue) : Script σ Unit := do
  let nList ← takeNested lua nList
  Prog.lift (correl yCloud nList ((optionalBool isSlice).getD false)
    ((optionalInt coordinationNumber).getD 4))

def getCorrel : Cloud → ScriptValue → ScriptValue → ScriptValue → Script σ Unit :=
  correlBinding lua engine.getCorrel

def getCorrelPlus : Cloud → ScriptValue → ScriptValue → ScriptValue → Script σ Unit :=
  correlBinding lua engine.getCorrelPlus

/-- The bindings that classify the atoms and return their states. -/
def iceTypeBinding (iceType : Cloud → IntRows → Bool → Prog σ CallError Unit) (yCloud : Cloud)
    (nList isSlice : ScriptValue) : Script σ ScriptValue := do
  let nList ← takeNested lua nList
  Prog.lift (iceType yCloud nList ((optionalBool isSlice).getD false))
  give (iceStateNames (← Prog.lift (engine.iceTypes yCloud)))

def getIceTypeNoPrint : Cloud → ScriptValue → ScriptValue → Script σ ScriptValue :=
  iceTypeBinding lua engine engine.getIceTypeNoPrint

def getIceTypePlusNoPrint : Cloud → ScriptValue → ScriptValue → Script σ ScriptValue :=
  iceTypeBinding lua engine engine.getIceTypePlusNoPrint

def getIceType (yCloud : Cloud) (nList : ScriptValue) (path : CppString)
    (firstFrame isSlice : ScriptValue) (outputFileName : Option CppString) :
    Script σ ScriptValue :=
  iceTypeBinding lua engine (fun yCloud nList isSlice =>
    engine.getIceType yCloud nList path (getInt lua.stringNumber firstFrame) isSlice
      (outputFileName.getD "chill.txt".toList)) yCloud nList isSlice

def getIceTypePlus (yCloud : Cloud) (nList : ScriptValue) (path : CppString)
    (firstFrame isSlice : ScriptValue) (outputFileName : Option CppString) :
    Script σ ScriptValue :=
  iceTypeBinding lua engine (fun yCloud nList isSlice =>
    engine.getIceTypePlus yCloud nList path (getInt lua.stringNumber firstFrame) isSlice
      (outputFileName.getD "chillPlus.txt".toList)) yCloud nList isSlice

def getHbondNetwork (filename : CppString) (yCloud : Cloud)
    (nList targetFrame hType dist angle : ScriptValue) : Script σ ScriptValue := do
  let nList ← takeNested lua nList
  give (.nested (← Prog.lift (engine.populateHbonds filename yCloud nList
    (getInt lua.stringNumber targetFrame) (getInt lua.stringNumber hType)
    ((optionalNumber dist).getD (Binary64.toDouble (242 / 100)))
    ((optionalNumber angle).getD 30))))

def getHbondNetworkFromClouds (yCloud hCloud : Cloud) (nList dist angle : ScriptValue) :
    Script σ ScriptValue := do
  let nList ← takeNested lua nList
  give (.nested (← Prog.lift (engine.populateHbondsWithInputClouds yCloud hCloud nList
    ((optionalNumber dist).getD (Binary64.toDouble (242 / 100)))
    ((optionalNumber angle).getD 30))))

def getHbondNetworkFromDonors (yCloud hCloud : Cloud) (nList donorHs dist angle : ScriptValue) :
    Script σ ScriptValue := do
  let nList ← takeNested lua nList
  let donorHs ← takeInts lua donorHs
  give (.nested (← Prog.lift (engine.populateHbondsFromDonors yCloud hCloud nList donorHs
    ((optionalNumber dist).getD (Binary64.toDouble (242 / 100)))
    ((optionalNumber angle).getD 30))))

/-! What the bindings hand back. -/

/-- New tables of this data, with all that was there as it was. -/
def Fresh (h h' : LuaHeap) (v : ScriptValue) (d : Data) : Prop :=
  h.Extends h' ∧ StandsIn h' (fun i => h.next ≤ i ∧ i < h'.next) v d

theorem fresh_push (h : LuaHeap) (d : Data) : Fresh h (d.push h).2 (d.push h).1 d :=
  ⟨extends_push h d, standsIn_push h d⟩

variable {h h' h'' : LuaHeap} {v : ScriptValue} {d : Data}

/-- What comes after keeps the data. -/
theorem Fresh.extend (hf : Fresh h h' v d) (he : h'.Extends h'') : Fresh h h'' v d :=
  ⟨hf.1.trans he, hf.2.congr (fun _ hi => ⟨hi.1, hi.2.trans_le he.next_le⟩)
    fun i hi => he.tables_eq i hi.2⟩

theorem Fresh.later (hf : Fresh h' h'' v d) (he : h.Extends h') : Fresh h h'' v d :=
  ⟨he.trans hf.1, hf.2.mono fun _ hi => ⟨le_trans he.next_le hi.1, hi.2⟩⟩

variable {lua engine}

/-- A list that stands for rows is passed as these. -/
theorem takeNested_bind {p : ℕ → Prop} {rows : IntRows} (hn : StandsIn h p v (.nested rows))
    {α β : Type} {f : ℕ → IntRows → Script σ α} {g : Prog σ CallError β}
    {post : LuaHeap → α → β → Prop} (hf : Simulates h (fun fuel => f fuel rows) g post) :
    Simulates h (fun fuel => takeNested lua v >>= f fuel) g post := by
  have hrows : getNested lua.stringNumber h v = .ok rows := hn.getNested_eq.trans (rows_nested rows)
  exact Simulates.look_bind_ok (fun h => getNested lua.stringNumber h v) hrows hf

theorem simulates_push {α : Type} (data : α → Data) (a : α) :
    Simulates h (fun _ => (give (data a) : Script σ ScriptValue)) (pure a)
      fun h' v a => Fresh h h' v (data a) :=
  Simulates.onStore (endsWith_const _ h) (fresh_push h (data a))

/-- What the engine returns goes to Lua as the data that `data` makes of it. -/
theorem simulates_give {α : Type} (m : Prog σ CallError α) (data : α → Data) :
    Simulates h (fun _ => Prog.lift m >>= fun a => give (data a)) m
      fun h' v a => Fresh h h' v (data a) := by
  have hbind := Simulates.lift_bind (simulates_push (h := h) data) (d := m)
  rwa [bind_pure] at hbind

/-- A single value makes no table. -/
theorem simulates_scalar {α : Type} (m : Prog σ CallError α) (scalar : α → Scalar) :
    Simulates h (fun _ => Prog.lift m >>= fun a => give (.scalar (scalar a))) m
      fun h' v a => h' = h ∧ v = (scalar a).value := by
  have hgive : ∀ a, Simulates h (fun _ => (give (.scalar (scalar a)) : Script σ ScriptValue))
      (pure a) fun h' v a => h' = h ∧ v = (scalar a).value :=
    fun a => Simulates.onStore (endsWith_const _ h) ⟨rfl, rfl⟩
  have hbind := Simulates.lift_bind hgive (d := m)
  rwa [bind_pure] at hbind

theorem simulates_neighListO (rcutoff : ScriptValue) (yCloud : Cloud) (typeI : ScriptValue) :
    Simulates h (fun _ => neighListO lua engine rcutoff yCloud typeI)
      (engine.neighListO (getNumber lua.stringNumber rcutoff) yCloud
        (getInt lua.stringNumber typeI)) fun h' v rows => Fresh h h' v (.nested rows) :=
  simulates_give _ Data.nested

theorem simulates_neighbourListByIndex (yCloud : Cloud) {p : ℕ → Prop} {nList : ScriptValue}
    {rows : IntRows} (hn : StandsIn h p nList (.nested rows)) :
    Simulates h (fun _ => neighbourListByIndex lua engine yCloud nList)
      (engine.neighbourListByIndex yCloud rows) fun h' v rows => Fresh h h' v (.nested rows) :=
  takeNested_bind hn (simulates_give _ Data.nested)

theorem simulates_ringNetwork {p : ℕ → Prop} {nList : ScriptValue} {rows : IntRows}
    (hn : StandsIn h p nList (.nested rows)) (maxDepth : ScriptValue) :
    Simulates h (fun _ => ringNetwork lua engine nList maxDepth)
      (engine.ringNetwork rows (getInt lua.stringNumber maxDepth))
      fun h' v rows => Fresh h h' v (.nested rows) :=
  takeNested_bind hn (simulates_give _ Data.nested)

/-- The second list is made after the first. -/
theorem simulates_kNearestNeighbourPair (yCloud : Cloud) (k candidateCutoff typeI : ScriptValue) :
    Simulates h (fun _ => kNearestNeighbourPair lua engine yCloud k candidateCutoff typeI)
      (engine.kNearestNeighbourPair yCloud (getInt lua.stringNumber k)
        (getNumber lua.stringNumber candidateCutoff) (getInt lua.stringNumber typeI))
      fun h' vs both => Fresh h h' vs.1 (.nested both.1) ∧ Fresh h h' vs.2 (.nested both.2) := by
  have hgive : ∀ both : IntRows × IntRows, Simulates h
      (fun _ => do
        let first ← give (.nested both.1)
        let second ← give (.nested both.2)
        (pure (first, second) : Script σ _))
      (pure both)
      fun h' vs both => Fresh h h' vs.1 (.nested both.1) ∧ Fresh h h' vs.2 (.nested both.2) := by
    intro both
    apply Simulates.onStore_bind (endsWith_const _ h)
    apply Simulates.onStore_bind (endsWith_const _ _)
    apply Simulates.pure
    have hfirst := fresh_push h (.nested both.1)
    have hsecond := fresh_push ((Data.nested both.1).push h).2 (.nested both.2)
    exact ⟨hfirst.extend hsecond.1, hsecond.later hfirst.1⟩
  have hbind := Simulates.lift_bind hgive (d := engine.kNearestNeighbourPair yCloud
    (getInt lua.stringNumber k) (getNumber lua.stringNumber candidateCutoff)
    (getInt lua.stringNumber typeI))
  rwa [bind_pure] at hbind

theorem simulates_findBySignature {p q : ℕ → Prop} {rings nList : ScriptValue}
    {ringRows listRows : IntRows} (hrings : StandsIn h p rings (.nested ringRows))
    (hlist : StandsIn h q nList (.nested listRows)) (spec : CppString) :
    Simulates h (fun _ => findBySignature lua engine rings nList spec)
      (engine.findBySignature ringRows listRows spec)
      fun h' v found => Fresh h h' v (.records (found.map FoundCage.record)) := by
  apply takeNested_bind hrings
  apply takeNested_bind hlist
  exact simulates_give _ fun found : List FoundCage => .records (found.map FoundCage.record)

theorem simulates_seededCageAffiliation {p q p' q' : ℕ → Prop}
    {strictRings strictNList permRings permNList : ScriptValue}
    {ringsS listS ringsP listP : IntRows} (hringsS : StandsIn h p strictRings (.nested ringsS))
    (hlistS : StandsIn h q strictNList (.nested listS))
    (hringsP : StandsIn h p' permRings (.nested ringsP))
    (hlistP : StandsIn h q' permNList (.nested listP)) (completion : ScriptValue) :
    Simulates h (fun _ => seededCageAffiliation lua engine strictRings strictNList permRings
        permNList completion)
      (engine.seededCageAffiliation ringsS listS ringsP listP
        ((optionalBool completion).getD false))
      fun h' v a => Fresh h h' v (.record a.record) := by
  unfold seededCageAffiliation
  apply takeNested_bind hringsS
  apply takeNested_bind hlistS
  apply takeNested_bind hringsP
  apply takeNested_bind hlistP
  exact simulates_give _ fun a : Affiliation => .record a.record

theorem simulates_correlBinding {correl : Cloud → IntRows → Bool → Int32 → Prog σ CallError Unit}
    (yCloud : Cloud) {p : ℕ → Prop} {nList : ScriptValue} {rows : IntRows}
    (hn : StandsIn h p nList (.nested rows)) (isSlice coordinationNumber : ScriptValue) :
    Simulates h (fun _ => correlBinding lua correl yCloud nList isSlice coordinationNumber)
      (correl yCloud rows ((optionalBool isSlice).getD false)
        ((optionalInt coordinationNumber).getD 4)) fun h' _ _ => h' = h := by
  apply takeNested_bind hn
  exact (Simulates.lift h _).weaken fun _ _ _ hpost => hpost.1

theorem simulates_iceTypeBinding {iceType : Cloud → IntRows → Bool → Prog σ CallError Unit}
    (yCloud : Cloud) {p : ℕ → Prop} {nList : ScriptValue} {rows : IntRows}
    (hn : StandsIn h p nList (.nested rows)) (isSlice : ScriptValue) :
    Simulates h (fun _ => iceTypeBinding lua engine iceType yCloud nList isSlice)
      (do
        iceType yCloud rows ((optionalBool isSlice).getD false)
        engine.iceTypes yCloud)
      fun h' v states => Fresh h h' v (iceStateNames states) := by
  apply takeNested_bind hn
  apply Simulates.lift_bind
  intro _
  exact simulates_give _ iceStateNames

end Bindings

end YodaStruct.Binding
