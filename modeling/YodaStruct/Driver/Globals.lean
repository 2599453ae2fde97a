import YodaStruct.Config.Reader
import Mathlib.Data.Rat.Floor

/-! What `main` shares with its scripts: the objects each phase block declares, the Lua
globals, and the assignments a block makes to them before its function script. -/
namespace YodaStruct.Driver
open YodaStruct.Config

/-- The four phase blocks of `main`. -/
inductive Phase
  | topoTwoDim | topoOneDim | bulk | structureDesc
  deriving DecidableEq

/-- The blocks in the order in which `main` has them. -/
def Phase.order : List Phase := [.topoTwoDim, .topoOneDim, .bulk, .structureDesc]

/-- The flag a block is guarded by. -/
def enables (cfg : LuaConfig) : Phase → Bool
  | .topoTwoDim => cfg.topoTwoDim
  | .topoOneDim => cfg.topoOneDim
  | .bulk => cfg.bulkUse
  | .structureDesc => cfg.structureDesc

inductive Local
  | resCloud | oCloud | hCloud | solCloud | nList | hbnList | iceList | rings | rdfValues
  | avgQ6 | atomID
  deriving DecidableEq

/-- An object of `main`, declared in the block of its phase. -/
structure Object where
  phase : Phase
  name : Local
  deriving DecidableEq

def Phase.locals : Phase → List Local
  | topoTwoDim => [.resCloud, .nList, .hbnList, .rings, .rdfValues]
  | topoOneDim => [.resCloud, .oCloud, .hCloud, .nList, .hbnList, .rings, .atomID]
  | bulk =>
    [.resCloud, .solCloud, .oCloud, .hCloud, .nList, .hbnList, .iceList, .rings, .avgQ6]
  | structureDesc => [.resCloud, .nList]

def Phase.objects (ph : Phase) : List Object := ph.locals.map (⟨ph, ·⟩)

/-- The values that a script makes by itself. -/
inductive ScriptValue
  | nil
  | boolean (b : Bool)
  | integer (n : ℤ)
  | float (x : ℚ)
  | string (s : CppString)
  | other (id : ℕ)
  deriving DecidableEq

/-- A Lua value, or the address of an object of `main`. -/
inductive LuaValue
  | plain (v : ScriptValue)
  | pointer (o : Object)
  deriving DecidableEq

/-- What `lua_tolstring` gives a string for. -/
def LuaValue.IsText : LuaValue → Prop
  | .plain (.string _) | .plain (.integer _) | .plain (.float _) => True
  | _ => False

instance : DecidablePred LuaValue.IsText := fun v => by
  unfold LuaValue.IsText
  split <;> infer_instance

/-- The globals that `main` reads or sets, and all others. -/
inductive Global
  | functionScript
  | trajectory | doBOP | topoOneDim | topoTwoDim | topoBulk
  | resCloud | oCloud | hCloud | clusterCloud | nList | hbnList | iceNeighbourList
  | ringsAllSizes | rdf | avgQ6 | lowestAtomID
  | user (name : CppString)
  deriving DecidableEq

abbrev Globals := Global → LuaValue

/-- The globals that `main` sets to addresses. -/
def Global.addressed : List Global :=
  [.resCloud, .oCloud, .hCloud, .clusterCloud, .nList, .hbnList, .iceNeighbourList,
    .ringsAllSizes, .rdf, .avgQ6, .lowestAtomID]

section Bindings
variable (cfg : LuaConfig) (ph : Phase)

def flag (b : Bool) : LuaValue := .plain (.boolean b)

def tFile : LuaValue := .plain (.string cfg.trajectory)

/-- The assignments to `lua[..]` in the block of a phase, in order. -/
def bindings : Phase → List (Global × LuaValue)
  | .topoTwoDim =>
    [(.doBOP, flag cfg.bulkUse), (.topoOneDim, flag cfg.topoOneDim),
      (.topoTwoDim, flag cfg.topoTwoDim), (.topoBulk, flag cfg.bulkUse),
      (.nList, .pointer ⟨.topoTwoDim, .nList⟩), (.hbnList, .pointer ⟨.topoTwoDim, .hbnList⟩),
      (.resCloud, .pointer ⟨.topoTwoDim, .resCloud⟩), (.trajectory, tFile cfg),
      (.ringsAllSizes, .pointer ⟨.topoTwoDim, .rings⟩),
      (.rdf, .pointer ⟨.topoTwoDim, .rdfValues⟩)]
  | .topoOneDim =>
    [(.doBOP, flag cfg.bulkUse), (.topoOneDim, flag cfg.topoOneDim),
      (.topoTwoDim, flag cfg.topoTwoDim), (.topoBulk, flag cfg.bulkUse),
      (.nList, .pointer ⟨.topoOneDim, .nList⟩), (.hbnList, .pointer ⟨.topoOneDim, .hbnList⟩),
      (.resCloud, .pointer ⟨.topoOneDim, .resCloud⟩),
      (.oCloud, .pointer ⟨.topoOneDim, .oCloud⟩), (.hCloud, .pointer ⟨.topoOneDim, .hCloud⟩),
      (.trajectory, tFile cfg), (.ringsAllSizes, .pointer ⟨.topoOneDim, .rings⟩),
      (.lowestAtomID, .pointer ⟨.topoOneDim, .atomID⟩)]
  | .bulk =>
    [(.doBOP, flag cfg.bulkBop), (.topoOneDim, flag cfg.topoOneDim),
      (.topoTwoDim, flag cfg.topoTwoDim), (.topoBulk, flag cfg.bulkTopo),
      (.nList, .pointer ⟨.bulk, .nList⟩), (.hbnList, .pointer ⟨.bulk, .hbnList⟩),
      (.iceNeighbourList, .pointer ⟨.bulk, .iceList⟩),
      (.resCloud, .pointer ⟨.bulk, .resCloud⟩), (.oCloud, .pointer ⟨.bulk, .oCloud⟩),
      (.hCloud, .pointer ⟨.bulk, .hCloud⟩), (.clusterCloud, .pointer ⟨.bulk, .solCloud⟩),
      (.avgQ6, .pointer ⟨.bulk, .avgQ6⟩), (.trajectory, tFile cfg),
      (.ringsAllSizes, .pointer ⟨.bulk, .rings⟩)]
  | .structureDesc =>
    [(.resCloud, .pointer ⟨.structureDesc, .resCloud⟩),
      (.nList, .pointer ⟨.structureDesc, .nList⟩), (.trajectory, tFile cfg)]

/-- A block assigns no address but those of its own objects. -/
theorem mem_objects_of_mem_bindings {a : Global × LuaValue} (h : a ∈ bindings cfg ph)
    {o : Object} (ho : a.2 = .pointer o) : o ∈ ph.objects := by
  revert a o
  cases ph <;> simp [bindings, flag, tFile, Phase.objects, Phase.locals]

/-- A block sets no global twice. -/
theorem bindings_nodup : ((bindings cfg ph).map Prod.fst).Nodup := by
  cases ph <;> simp [bindings]

end Bindings

end YodaStruct.Driver
