import YodaStruct.Binding.Calls

/-! The bindings that write an analysis to a directory and return its number, and the updaters,
which keep a network between two frames. -/
namespace YodaStruct.Binding
open YodaStruct.Config YodaStruct.Driver Simulation

/-- The engine of the analyses. An updater is named by its place in the state. -/
structure AnalysisEngine (σ Cloud : Type) where
  polygonRingAnalysis (path : CppString) (rings nList : IntRows) (yCloud : Cloud)
    (maxDepth : Int32) (sheetArea : ℚ) (firstFrame : Int32) : Prog σ CallError Int32
  prismAnalysis (path : CppString) (rings nList : IntRows) (cloud : Cloud)
    (maxDepth atomID firstFrame currentFrame : Int32) (doShapeMatching : Bool) :
    Prog σ CallError Int32
  bulkPolygonRingAnalysis (path : CppString) (rings nList : IntRows) (yCloud : Cloud)
    (maxDepth firstFrame : Int32) : Prog σ CallError Int32
  topoUnitMatchingBulk (path : CppString) (rings nList : IntRows) (yCloud : Cloud)
    (firstFrame : Int32) (printClusters onlyTetrahedral : Bool) (templatePath : CppString) :
    Prog σ CallError Int32
  shellSeparation (yCloud : Cloud) (k typeI : Int32) : Prog σ CallError (ℚ × ℚ)
  ringUpdate (self : ℕ) (nList : IntRows) : Prog σ CallError IntRows
  affiliationUpdate (self : ℕ) (rings nList : IntRows) : Prog σ CallError Affiliation

section Bindings
variable {σ Cloud : Type} (lua : Interpreter) (engine : AnalysisEngine σ Cloud)

def giveInt (n : Int32) : Script σ ScriptValue := give (.scalar (.ofInt32 n))

/-- The rings and the list that every analysis starts from. -/
def withRings (rings nList : ScriptValue) (analysis : IntRows → IntRows → Prog σ CallError Int32) :
    Script σ ScriptValue := do
  let rings ← takeNested lua rings
  let nList ← takeNested lua nList
  giveInt (← Prog.lift (analysis rings nList))

def ringAnalysis (path : CppString) (rings nList : ScriptValue) (yCloud : Cloud)
    (maxDepth sheetArea firstFrame : ScriptValue) : Script σ ScriptValue :=
  withRings lua rings nList fun rings nList =>
    engine.polygonRingAnalysis path rings nList yCloud (getInt lua.stringNumber maxDepth)
      (getNumber lua.stringNumber sheetArea) (getInt lua.stringNumber firstFrame)

def prismAnalysisBinding (path : CppString) (rings nList : ScriptValue) (cloud : Cloud)
    (maxDepth atomID firstFrame currentFrame doShapeMatching : ScriptValue) :
    Script σ ScriptValue :=
  withRings lua rings nList fun rings nList =>
    engine.prismAnalysis path rings nList cloud (getInt lua.stringNumber maxDepth)
      (getInt lua.stringNumber atomID) (getInt lua.stringNumber firstFrame)
      (getInt lua.stringNumber currentFrame) doShapeMatching.truthy

def bulkRingNumberAnalysis (path : CppString) (rings nList : ScriptValue) (yCloud : Cloud)
    (maxDepth firstFrame : ScriptValue) : Script σ ScriptValue :=
  withRings lua rings nList fun rings nList =>
    engine.bulkPolygonRingAnalysis path rings nList yCloud (getInt lua.stringNumber maxDepth)
      (getInt lua.stringNumber firstFrame)

def bulkTopoUnitMatching (path : CppString) (rings nList : ScriptValue) (yCloud : Cloud)
    (firstFrame printClusters onlyTetrahedral : ScriptValue) (templatePath : Option CppString) :
    Script σ ScriptValue :=
  withRings lua rings nList fun rings nList =>
    engine.topoUnitMatchingBulk path rings nList yCloud (getInt lua.stringNumber firstFrame)
      printClusters.truthy onlyTetrahedral.truthy (templatePath.getD "templates".toList)

def shellSeparation (yCloud : Cloud) (k typeI : ScriptValue) :
    Script σ (ScriptValue × ScriptValue) := do
  let gap ← Prog.lift (engine.shellSeparation yCloud (getInt lua.stringNumber k)
    (getInt lua.stringNumber typeI))
  pure (.float gap.1, .float gap.2)

/-- `RingUpdater.update`. -/
def ringUpdate (self : ℕ) (nList : ScriptValue) : Script σ ScriptValue := do
  let nList ← takeNested lua nList
  give (.nested (← Prog.lift (engine.ringUpdate self nList)))

/-- `AffiliationUpdater.update`. -/
def affiliationUpdate (self : ℕ) (rings nList : ScriptValue) : Script σ ScriptValue := do
  let rings ← takeNested lua rings
  let nList ← takeNested lua nList
  give (.record (← Prog.lift (engine.affiliationUpdate self rings nList)).record)

end Bindings

end YodaStruct.Binding
