import YodaStruct.Binding.Analyses
import YodaStruct.Binding.Descriptors
import YodaStruct.Binding.Keys
import YodaStruct.Binding.Rules
import YodaStruct.Binding.Sites

/-! Scripts that call the core and pass on what it returns. Between the calls stand Lua tables;
the engine sees vectors. -/
namespace YodaStruct.Binding
open YodaStruct.Config YodaStruct.Driver LuaTable Simulation

/-- All of the engine that the core calls. -/
structure Core (σ Cloud SiteTable Fingerprint KeyLibrary : Type) where
  network : Engine σ Cloud
  rules : RuleEngine σ Cloud
  analyses : AnalysisEngine σ Cloud
  descriptors : DescriptorEngine σ Cloud
  keys : KeyEngine Fingerprint KeyLibrary
  sites : SiteEngine σ Cloud SiteTable
  /-- The userdata of `std::vector<int>`. -/
  vectors : ℕ → Option (List Int32)

/-- A call of the core. A container among its arguments is named by its place among the values
so far. -/
inductive Call (Cloud : Type)
  | neighListO (rcutoff : ScriptValue) (yCloud : Cloud) (typeI : ScriptValue)
  | getNewNeighbourListByIndex (yCloud : Cloud) (cutoff : ScriptValue)
  | neighListPair (rcutoff : ScriptValue) (yCloud : Cloud) (typeI typeJ : ScriptValue)
  | mutualNearestUnlike (yCloud : Cloud) (typeI typeJ : ScriptValue)
  | neighbourListByIndex (yCloud : Cloud) (nList : ℕ)
  | kNearestNeighbourList (yCloud : Cloud) (k candidateCutoff typeI mutuals : ScriptValue)
  | kNearestNeighbourPair (yCloud : Cloud) (k candidateCutoff typeI : ScriptValue)
  | getHbondNetwork (filename : CppString) (yCloud : Cloud) (nList : ℕ)
      (targetFrame hType dist angle : ScriptValue)
  | getHbondNetworkFromClouds (yCloud hCloud : Cloud) (nList : ℕ) (dist angle : ScriptValue)
  | getHbondNetworkFromDonors (yCloud hCloud : Cloud) (nList donorHs : ℕ)
      (dist angle : ScriptValue)
  | ringNetwork (nList : ℕ) (maxDepth : ScriptValue)
  | cageAffiliation (rings nList : ℕ)
  | findBySignature (rings nList : ℕ) (spec : CppString)
  | seededCageAffiliation (strictRings strictNList permRings permNList : ℕ)
      (ringAdjacentCompletion : ScriptValue)
  | getCorrel (yCloud : Cloud) (nList : ℕ) (isSlice coordinationNumber : ScriptValue)
  | getCorrelPlus (yCloud : Cloud) (nList : ℕ) (isSlice coordinationNumber : ScriptValue)
  | getIceType (yCloud : Cloud) (nList : ℕ) (path : CppString) (firstFrame isSlice : ScriptValue)
      (outputFileName : Option CppString)
  | getIceTypePlus (yCloud : Cloud) (nList : ℕ) (path : CppString)
      (firstFrame isSlice : ScriptValue) (outputFileName : Option CppString)
  | getIceTypeNoPrint (yCloud : Cloud) (nList : ℕ) (isSlice : ScriptValue)
  | getIceTypePlusNoPrint (yCloud : Cloud) (nList : ℕ) (isSlice : ScriptValue)
  | ringUpdate (self nList : ℕ)
  | affiliationUpdate (self rings nList : ℕ)
  | ringAnalysis (path : CppString) (rings nList : ℕ) (yCloud : Cloud)
      (maxDepth sheetArea firstFrame : ScriptValue)
  | prismAnalysis (path : CppString) (rings nList : ℕ) (cloud : Cloud)
      (maxDepth atomID firstFrame currentFrame doShapeMatching : ScriptValue)
  | bulkRingNumberAnalysis (path : CppString) (rings nList : ℕ) (yCloud : Cloud)
      (maxDepth firstFrame : ScriptValue)
  | bulkTopoUnitMatching (path : CppString) (rings nList : ℕ) (yCloud : Cloud)
      (firstFrame printClusters onlyTetrahedral : ScriptValue) (templatePath : Option CppString)
  | shellSeparation (yCloud : Cloud) (k typeI : ScriptValue)
  | classifyBonds (yCloud : Cloud) (nList ruleSpec : ℕ) (isSlice : ScriptValue)
  | registerBondClassifier (name : CppString) (t : ℕ)
  | bondClassifierNames
  | topologyFingerprint (rows : ℕ) (hops maxRingSize : ScriptValue) (colours : ℕ)
  | localTopologyKey (rows : ℕ) (atom hops : ScriptValue) (colours : ℕ)
  | topologyLibrary (rows : ℕ) (label : CppString) (hops maxRingSize : ScriptValue)
      (colours existing : ℕ)
  | classifyTopology (rows : ℕ) (library : LibraryArgument) (hops maxRingSize : ScriptValue)
      (colours : ℕ)
  | steinhardtQl (yCloud : Cloud) (nList : ℕ) (orderL : ScriptValue)
  | steinhardtQlVoronoi (yCloud : Cloud) (candidateCutoff orderL : ScriptValue)
  | voronoiFacetWeights (yCloud : Cloud) (candidateCutoff : ScriptValue)
  | classifyTemplates (cloud : Cloud) (nList : ℕ) (kNeigh : ScriptValue)
  | soapSpectrum (yCloud : Cloud) (iatom : ScriptValue) (nList : ℕ) (nMax lMax rcut : ScriptValue)
  | soapSpectrumAll (yCloud : Cloud) (nList : ℕ) (nMax lMax rcut : ScriptValue)
  | voronoiFeatures (yCloud : Cloud) (candidateCutoff : ScriptValue)
  | guestOccupancy (cloud : Cloud) (cages guests : ℕ) (radius : ScriptValue)
  | ionEnvironment (cloud : Cloud) (iceFlag ionIndices : ℕ) (waterType cutoff : ScriptValue)
  | calcRDF3D (yCloud : Cloud) (typeI typeJ rmax nbins : ScriptValue)
  | calcRunningCN (yCloud : Cloud) (typeI typeJ rmax nbins : ScriptValue)
  | calcCN (yCloud : Cloud) (typeI typeJ rmax nbins rCut : ScriptValue)
  | densityByType (yCloud : Cloud) (typeI nbin axis : ScriptValue)
  | densityByKind (yCloud : Cloud) (table kind nbin axis : ScriptValue)
  | contactPairs (cloud : Cloud) (table : ScriptValue)

/-- The names that a string answers to, as the library of strings is where it looks. -/
def stringMethods : List CppString :=
  ["byte".toList, "char".toList, "dump".toList, "find".toList, "format".toList, "gmatch".toList,
    "gsub".toList, "len".toList, "lower".toList, "match".toList, "pack".toList, "packsize".toList,
    "rep".toList, "reverse".toList, "sub".toList, "unpack".toList, "upper".toList]

abbrev FieldName := {s : CppString // s ∉ stringMethods}

/-- A statement makes new values: those of a call, a constant, a list of numbers, a table of named
values, or what an earlier value has at an index or under a name. -/
inductive Statement (Cloud : Type)
  | call (call : Call Cloud)
  | constant (s : Scalar)
  | list (ns : List Int32)
  | names (fields : List (CppString × Scalar))
  | entry (place : ℕ) (n : ℤ)
  | field (place : ℕ) (name : FieldName)

section Runs
variable {σ Cloud SiteTable Fingerprint KeyLibrary : Type} (lua : Interpreter)
  (core : Core σ Cloud SiteTable Fingerprint KeyLibrary)

/-! In Lua. -/

def one (m : Script σ ScriptValue) : Script σ (List ScriptValue) := do pure [← m]

section Lua
variable (vs : List ScriptValue)

/-- A local without a value is `nil`. -/
def valueAt (place : ℕ) : ScriptValue := vs.getD place .nil

/-- The values that a call returns. -/
def Call.run : Call Cloud → Script σ (List ScriptValue)
  | neighListO rcutoff yCloud typeI =>
    one (Binding.neighListO lua core.network rcutoff yCloud typeI)
  | getNewNeighbourListByIndex yCloud cutoff =>
    one (Binding.getNewNeighbourListByIndex lua core.network yCloud cutoff)
  | neighListPair rcutoff yCloud typeI typeJ =>
    one (Binding.neighListPair lua core.network rcutoff yCloud typeI typeJ)
  | mutualNearestUnlike yCloud typeI typeJ =>
    one (Binding.mutualNearestUnlike lua core.network yCloud typeI typeJ)
  | neighbourListByIndex yCloud nList =>
    one (Binding.neighbourListByIndex lua core.network yCloud (valueAt vs nList))
  | kNearestNeighbourList yCloud k candidateCutoff typeI mutuals =>
    one (Binding.kNearestNeighbourList lua core.network yCloud k candidateCutoff typeI mutuals)
  | kNearestNeighbourPair yCloud k candidateCutoff typeI => do
    let both ← Binding.kNearestNeighbourPair lua core.network yCloud k candidateCutoff typeI
    pure [both.1, both.2]
  | getHbondNetwork filename yCloud nList targetFrame hType dist angle =>
    one (Binding.getHbondNetwork lua core.network filename yCloud (valueAt vs nList) targetFrame
      hType dist angle)
  | getHbondNetworkFromClouds yCloud hCloud nList dist angle =>
    one (Binding.getHbondNetworkFromClouds lua core.network yCloud hCloud (valueAt vs nList) dist
      angle)
  | getHbondNetworkFromDonors yCloud hCloud nList donorHs dist angle =>
    one (Binding.getHbondNetworkFromDonors lua core.network yCloud hCloud (valueAt vs nList)
      (valueAt vs donorHs) dist angle)
  | ringNetwork nList maxDepth =>
    one (Binding.ringNetwork lua core.network (valueAt vs nList) maxDepth)
  | cageAffiliation rings nList =>
    one (Binding.cageAffiliation lua core.network (valueAt vs rings) (valueAt vs nList))
  | findBySignature rings nList spec =>
    one (Binding.findBySignature lua core.network (valueAt vs rings) (valueAt vs nList) spec)
  | seededCageAffiliation strictRings strictNList permRings permNList ringAdjacentCompletion =>
    one (Binding.seededCageAffiliation lua core.network (valueAt vs strictRings)
      (valueAt vs strictNList) (valueAt vs permRings) (valueAt vs permNList)
      ringAdjacentCompletion)
  | getCorrel yCloud nList isSlice coordinationNumber => do
    Binding.getCorrel lua core.network yCloud (valueAt vs nList) isSlice coordinationNumber
    pure []
  | getCorrelPlus yCloud nList isSlice coordinationNumber => do
    Binding.getCorrelPlus lua core.network yCloud (valueAt vs nList) isSlice coordinationNumber
    pure []
  | getIceType yCloud nList path firstFrame isSlice outputFileName =>
    one (Binding.getIceType lua core.network yCloud (valueAt vs nList) path firstFrame isSlice
      outputFileName)
  | getIceTypePlus yCloud nList path firstFrame isSlice outputFileName =>
    one (Binding.getIceTypePlus lua core.network yCloud (valueAt vs nList) path firstFrame isSlice
      outputFileName)
  | getIceTypeNoPrint yCloud nList isSlice =>
    one (Binding.getIceTypeNoPrint lua core.network yCloud (valueAt vs nList) isSlice)
  | getIceTypePlusNoPrint yCloud nList isSlice =>
    one (Binding.getIceTypePlusNoPrint lua core.network yCloud (valueAt vs nList) isSlice)
  | ringUpdate self nList => one (Binding.ringUpdate lua core.analyses self (valueAt vs nList))
  | affiliationUpdate self rings nList =>
    one (Binding.affiliationUpdate lua core.analyses self (valueAt vs rings) (valueAt vs nList))
  | ringAnalysis path rings nList yCloud maxDepth sheetArea firstFrame =>
    one (Binding.ringAnalysis lua core.analyses path (valueAt vs rings) (valueAt vs nList) yCloud
      maxDepth sheetArea firstFrame)
  | prismAnalysis path rings nList cloud maxDepth atomID firstFrame currentFrame doShapeMatching =>
    one (prismAnalysisBinding lua core.analyses path (valueAt vs rings) (valueAt vs nList) cloud
      maxDepth atomID firstFrame currentFrame doShapeMatching)
  | bulkRingNumberAnalysis path rings nList yCloud maxDepth firstFrame =>
    one (Binding.bulkRingNumberAnalysis lua core.analyses path (valueAt vs rings)
      (valueAt vs nList) yCloud maxDepth firstFrame)
  | bulkTopoUnitMatching path rings nList yCloud firstFrame printClusters onlyTetrahedral
      templatePath =>
    one (Binding.bulkTopoUnitMatching lua core.analyses path (valueAt vs rings) (valueAt vs nList)
      yCloud firstFrame printClusters onlyTetrahedral templatePath)
  | shellSeparation yCloud k typeI => do
    let gap ← Binding.shellSeparation lua core.analyses yCloud k typeI
    pure [gap.1, gap.2]
  | classifyBonds yCloud nList ruleSpec isSlice => do
    Binding.classifyBonds lua core.rules yCloud (valueAt vs nList) (valueAt vs ruleSpec) isSlice
    pure []
  | registerBondClassifier name t => do
    Binding.registerBondClassifier core.rules name (valueAt vs t)
    pure []
  | bondClassifierNames => one (Binding.bondClassifierNames core.rules)
  | topologyFingerprint rows hops maxRingSize colours =>
    one (Binding.topologyFingerprint lua core.keys core.vectors (valueAt vs rows) hops maxRingSize
      (valueAt vs colours))
  | localTopologyKey rows atom hops colours =>
    one (Binding.localTopologyKey lua core.keys core.vectors (valueAt vs rows) atom hops
      (valueAt vs colours))
  | topologyLibrary rows label hops maxRingSize colours existing =>
    one (topologyLibraryBinding lua core.keys core.vectors (valueAt vs rows) label hops maxRingSize
      (valueAt vs colours) (valueAt vs existing))
  | classifyTopology rows library hops maxRingSize colours =>
    one (classifyTopologyBinding lua core.keys core.vectors (valueAt vs rows) library hops
      maxRingSize (valueAt vs colours))
  | steinhardtQl yCloud nList orderL =>
    one (Binding.steinhardtQl lua core.descriptors yCloud (valueAt vs nList) orderL)
  | steinhardtQlVoronoi yCloud candidateCutoff orderL =>
    one (Binding.steinhardtQlVoronoi lua core.descriptors yCloud candidateCutoff orderL)
  | voronoiFacetWeights yCloud candidateCutoff =>
    one (Binding.voronoiFacetWeights lua core.descriptors yCloud candidateCutoff)
  | classifyTemplates cloud nList kNeigh =>
    one (Binding.classifyTemplates lua core.descriptors cloud (valueAt vs nList) kNeigh)
  | soapSpectrum yCloud iatom nList nMax lMax rcut =>
    one (Binding.soapSpectrum lua core.descriptors yCloud iatom (valueAt vs nList) nMax lMax rcut)
  | soapSpectrumAll yCloud nList nMax lMax rcut =>
    one (Binding.soapSpectrumAll lua core.descriptors yCloud (valueAt vs nList) nMax lMax rcut)
  | voronoiFeatures yCloud candidateCutoff =>
    one (Binding.voronoiFeatures lua core.descriptors yCloud candidateCutoff)
  | guestOccupancy cloud cages guests radius =>
    one (Binding.guestOccupancy lua core.descriptors cloud (valueAt vs cages) (valueAt vs guests)
      radius)
  | ionEnvironment cloud iceFlag ionIndices waterType cutoff =>
    one (Binding.ionEnvironment lua core.descriptors cloud (valueAt vs iceFlag)
      (valueAt vs ionIndices) waterType cutoff)
  | calcRDF3D yCloud typeI typeJ rmax nbins =>
    one (Binding.calcRDF3D lua core.descriptors yCloud typeI typeJ rmax nbins)
  | calcRunningCN yCloud typeI typeJ rmax nbins =>
    one (Binding.calcRunningCN lua core.descriptors yCloud typeI typeJ rmax nbins)
  | calcCN yCloud typeI typeJ rmax nbins rCut =>
    one (Binding.calcCN lua core.descriptors yCloud typeI typeJ rmax nbins rCut)
  | densityByType yCloud typeI nbin axis =>
    one (Binding.densityByType lua core.sites yCloud typeI nbin axis)
  | densityByKind yCloud table kind nbin axis =>
    one (Binding.densityByKind lua core.sites yCloud table kind nbin axis)
  | contactPairs cloud table => one (Binding.contactPairs core.sites cloud table)

def Statement.run : Statement Cloud → Script σ (List ScriptValue)
  | call c => c.run lua core vs
  | constant s => pure [s.value]
  | list ns => one (give (.list (ns.map .ofInt32)))
  | names fields => one (give (.field (.names fields)))
  | entry place n => one (Prog.look fun h => Binding.index h (valueAt vs place) (.index n))
  | field place name => one (Prog.look fun h => Binding.index h (valueAt vs place) (.name name))

end Lua

/-- The statements one after the other. Every value stays in reach. -/
def runScript : List (Statement Cloud) → List ScriptValue → Script σ (List ScriptValue)
  | [], vs => pure vs
  | statement :: rest, vs => do
    let new ← statement.run lua core vs
    runScript rest (vs ++ new)

/-! In the engine, with no table in between. -/

section Engine
variable (ds : List Data)

/-- What a view of the data at a place shows. -/
def argument {α : Type} (view : Data → Except CallError α) (place : ℕ) : Prog σ CallError α :=
  StateT.lift (view (ds.getD place .absent))

def states (iceType : Cloud → IntRows → Bool → Prog σ CallError Unit) (yCloud : Cloud)
    (nList : ℕ) (isSlice : ScriptValue) : Prog σ CallError (List Data) := do
  let nList ← argument ds (Data.rows lua.stringNumber) nList
  iceType yCloud nList ((optionalBool isSlice).getD false)
  pure [iceStateNames (← core.network.iceTypes yCloud)]

def correl (correl : Cloud → IntRows → Bool → Int32 → Prog σ CallError Unit) (yCloud : Cloud)
    (nList : ℕ) (isSlice coordinationNumber : ScriptValue) : Prog σ CallError (List Data) := do
  let nList ← argument ds (Data.rows lua.stringNumber) nList
  correl yCloud nList ((optionalBool isSlice).getD false)
    ((optionalInt coordinationNumber).getD 4)
  pure []

def histogram (yCloud : Cloud) (typeI typeJ rmax nbins : ScriptValue) :
    Prog σ CallError PartialRdf :=
  core.descriptors.partialRdf yCloud (getInt lua.stringNumber typeI)
    (getInt lua.stringNumber typeJ) (getNumber lua.stringNumber rmax)
    (getInt lua.stringNumber nbins)

/-- The number of an analysis of rings with a list. -/
def analysisOf (rings nList : ℕ) (analysis : IntRows → IntRows → Prog σ CallError Int32) :
    Prog σ CallError (List Data) := do
  let rings ← argument ds (Data.rows lua.stringNumber) rings
  let nList ← argument ds (Data.rows lua.stringNumber) nList
  pure [.scalar (.ofInt32 (← analysis rings nList))]

/-- The data that a call stands for. -/
def Call.eval : Call Cloud → Prog σ CallError (List Data)
  | neighListO rcutoff yCloud typeI => do
    pure [.nested (← core.network.neighListO (getNumber lua.stringNumber rcutoff) yCloud
      (getInt lua.stringNumber typeI))]
  | getNewNeighbourListByIndex yCloud cutoff => do
    pure [.nested (← core.network.getNewNeighbourListByIndex yCloud
      (getNumber lua.stringNumber cutoff))]
  | neighListPair rcutoff yCloud typeI typeJ => do
    pure [.nested (← core.network.neighListPair (getNumber lua.stringNumber rcutoff) yCloud
      (getInt lua.stringNumber typeI) (getInt lua.stringNumber typeJ))]
  | mutualNearestUnlike yCloud typeI typeJ => do
    pure [.nested (pairRows (← core.network.mutualNearestUnlike yCloud
      (getInt lua.stringNumber typeI) (getInt lua.stringNumber typeJ)))]
  | neighbourListByIndex yCloud nList => do
    let nList ← argument ds (Data.rows lua.stringNumber) nList
    pure [.nested (← core.network.neighbourListByIndex yCloud nList)]
  | kNearestNeighbourList yCloud k candidateCutoff typeI mutuals => do
    pure [.nested (← core.network.kNearestNeighbourList yCloud (getInt lua.stringNumber k)
      (getNumber lua.stringNumber candidateCutoff) (getInt lua.stringNumber typeI)
      ((optionalBool mutuals).getD true))]
  | kNearestNeighbourPair yCloud k candidateCutoff typeI => do
    let both ← core.network.kNearestNeighbourPair yCloud (getInt lua.stringNumber k)
      (getNumber lua.stringNumber candidateCutoff) (getInt lua.stringNumber typeI)
    pure [.nested both.1, .nested both.2]
  | getHbondNetwork filename yCloud nList targetFrame hType dist angle => do
    let nList ← argument ds (Data.rows lua.stringNumber) nList
    pure [.nested (← core.network.populateHbonds filename yCloud nList
      (getInt lua.stringNumber targetFrame) (getInt lua.stringNumber hType)
      ((optionalNumber dist).getD (Binary64.toDouble (242 / 100)))
      ((optionalNumber angle).getD 30))]
  | getHbondNetworkFromClouds yCloud hCloud nList dist angle => do
    let nList ← argument ds (Data.rows lua.stringNumber) nList
    pure [.nested (← core.network.populateHbondsWithInputClouds yCloud hCloud nList
      ((optionalNumber dist).getD (Binary64.toDouble (242 / 100)))
      ((optionalNumber angle).getD 30))]
  | getHbondNetworkFromDonors yCloud hCloud nList donorHs dist angle => do
    let nList ← argument ds (Data.rows lua.stringNumber) nList
    let donorHs ← argument ds (Data.ints lua.stringNumber) donorHs
    pure [.nested (← core.network.populateHbondsFromDonors yCloud hCloud nList donorHs
      ((optionalNumber dist).getD (Binary64.toDouble (242 / 100)))
      ((optionalNumber angle).getD 30))]
  | ringNetwork nList maxDepth => do
    let nList ← argument ds (Data.rows lua.stringNumber) nList
    pure [.nested (← core.network.ringNetwork nList (getInt lua.stringNumber maxDepth))]
  | cageAffiliation rings nList => do
    let rings ← argument ds (Data.rows lua.stringNumber) rings
    let nList ← argument ds (Data.rows lua.stringNumber) nList
    pure [.record (← core.network.cageAffiliation rings nList).record]
  | findBySignature rings nList spec => do
    let rings ← argument ds (Data.rows lua.stringNumber) rings
    let nList ← argument ds (Data.rows lua.stringNumber) nList
    pure [.records ((← core.network.findBySignature rings nList spec).map FoundCage.record)]
  | seededCageAffiliation strictRings strictNList permRings permNList completion => do
    let strictRings ← argument ds (Data.rows lua.stringNumber) strictRings
    let strictNList ← argument ds (Data.rows lua.stringNumber) strictNList
    let permRings ← argument ds (Data.rows lua.stringNumber) permRings
    let permNList ← argument ds (Data.rows lua.stringNumber) permNList
    pure [.record (← core.network.seededCageAffiliation strictRings strictNList permRings
      permNList ((optionalBool completion).getD false)).record]
  | getCorrel yCloud nList isSlice coordinationNumber =>
    correl lua ds core.network.getCorrel yCloud nList isSlice coordinationNumber
  | getCorrelPlus yCloud nList isSlice coordinationNumber =>
    correl lua ds core.network.getCorrelPlus yCloud nList isSlice coordinationNumber
  | getIceType yCloud nList path firstFrame isSlice outputFileName =>
    states lua core ds (fun yCloud nList isSlice =>
      core.network.getIceType yCloud nList path (getInt lua.stringNumber firstFrame) isSlice
        (outputFileName.getD "chill.txt".toList)) yCloud nList isSlice
  | getIceTypePlus yCloud nList path firstFrame isSlice outputFileName =>
    states lua core ds (fun yCloud nList isSlice =>
      core.network.getIceTypePlus yCloud nList path (getInt lua.stringNumber firstFrame) isSlice
        (outputFileName.getD "chillPlus.txt".toList)) yCloud nList isSlice
  | getIceTypeNoPrint yCloud nList isSlice =>
    states lua core ds core.network.getIceTypeNoPrint yCloud nList isSlice
  | getIceTypePlusNoPrint yCloud nList isSlice =>
    states lua core ds core.network.getIceTypePlusNoPrint yCloud nList isSlice
  | ringUpdate self nList => do
    let nList ← argument ds (Data.rows lua.stringNumber) nList
    pure [.nested (← core.analyses.ringUpdate self nList)]
  | affiliationUpdate self rings nList => do
    let rings ← argument ds (Data.rows lua.stringNumber) rings
    let nList ← argument ds (Data.rows lua.stringNumber) nList
    pure [.record (← core.analyses.affiliationUpdate self rings nList).record]
  | ringAnalysis path rings nList yCloud maxDepth sheetArea firstFrame =>
    analysisOf lua ds rings nList fun rings nList =>
      core.analyses.polygonRingAnalysis path rings nList yCloud (getInt lua.stringNumber maxDepth)
        (getNumber lua.stringNumber sheetArea) (getInt lua.stringNumber firstFrame)
  | prismAnalysis path rings nList cloud maxDepth atomID firstFrame currentFrame doShapeMatching =>
    analysisOf lua ds rings nList fun rings nList =>
      core.analyses.prismAnalysis path rings nList cloud (getInt lua.stringNumber maxDepth)
        (getInt lua.stringNumber atomID) (getInt lua.stringNumber firstFrame)
        (getInt lua.stringNumber currentFrame) doShapeMatching.truthy
  | bulkRingNumberAnalysis path rings nList yCloud maxDepth firstFrame =>
    analysisOf lua ds rings nList fun rings nList =>
      core.analyses.bulkPolygonRingAnalysis path rings nList yCloud
        (getInt lua.stringNumber maxDepth) (getInt lua.stringNumber firstFrame)
  | bulkTopoUnitMatching path rings nList yCloud firstFrame printClusters onlyTetrahedral
      templatePath =>
    analysisOf lua ds rings nList fun rings nList =>
      core.analyses.topoUnitMatchingBulk path rings nList yCloud
        (getInt lua.stringNumber firstFrame) printClusters.truthy onlyTetrahedral.truthy
        (templatePath.getD "templates".toList)
  | shellSeparation yCloud k typeI => do
    let gap ← core.analyses.shellSeparation yCloud (getInt lua.stringNumber k)
      (getInt lua.stringNumber typeI)
    pure [.scalar (.float gap.1), .scalar (.float gap.2)]
  | classifyBonds yCloud nList ruleSpec isSlice => do
    let nList ← argument ds (Data.rows lua.stringNumber) nList
    let rule ← (ds.getD ruleSpec .absent).ruleSpec core.rules
    core.rules.classifyBonds yCloud nList rule ((optionalBool isSlice).getD false)
    pure []
  | registerBondClassifier name t => do
    let rule ← argument ds (Data.rule core.rules.chillRule) t
    core.rules.registerBondClassifier name rule
    pure []
  | bondClassifierNames => do
    pure [.list ((← core.rules.bondClassifierNames).map .string)]
  | topologyFingerprint rows hops maxRingSize colours => do
    let rows ← argument ds (Data.rows lua.stringNumber) rows
    let colours ← argument ds (Data.optional (Data.ints lua.stringNumber)) colours
    let fp := core.keys.fingerprint (toRows rows) ((optionalCount hops).getD 2)
      ((optionalCount maxRingSize).getD 7) ((toColours colours).getD [])
    pure [.record (core.keys.fields fp).record]
  | localTopologyKey rows atom hops colours => do
    let rows ← argument ds (Data.rows lua.stringNumber) rows
    let colours ← argument ds (Data.optional (Data.ints lua.stringNumber)) colours
    let lk := core.keys.localKey (toRows rows) (getInt lua.stringNumber atom).toInt
      ((optionalCount hops).getD 2) ((toColours colours).getD [])
    pure [.record lk.record]
  | topologyLibrary rows label hops maxRingSize colours existing => do
    let rows ← argument ds (Data.rows lua.stringNumber) rows
    let colours ← argument ds (Data.optional (Data.ints lua.stringNumber)) colours
    let text ← engineResult (Binding.topologyLibrary core.keys.toTopologyEngine (toRows rows) label
      (optionalCount hops) (optionalCount maxRingSize) (toColours colours)
      (optionalString (ds.getD existing .absent).scalarValue))
    pure [.scalar (.string text)]
  | classifyTopology rows library hops maxRingSize colours => do
    let rows ← argument ds (Data.rows lua.stringNumber) rows
    let colours ← argument ds (Data.optional (Data.ints lua.stringNumber)) colours
    let m ← engineResult (libraryMatch core.keys.toTopologyEngine (toRows rows) library
      (optionalCount hops) (optionalCount maxRingSize) (toColours colours))
    pure [.record m.record]
  | steinhardtQl yCloud nList orderL => do
    let nList ← argument ds (Data.rows lua.stringNumber) nList
    pure [.record (packSteinhardt (← core.descriptors.steinhardtQl yCloud nList
      (getInt lua.stringNumber orderL)))]
  | steinhardtQlVoronoi yCloud candidateCutoff orderL => do
    pure [.record (packSteinhardt (← core.descriptors.steinhardtQlVoronoi yCloud
      (getNumber lua.stringNumber candidateCutoff) (getInt lua.stringNumber orderL)))]
  | voronoiFacetWeights yCloud candidateCutoff => do
    pure [.records ((← core.descriptors.voronoiFacetWeights yCloud
      (getNumber lua.stringNumber candidateCutoff)).map FacetCell.record)]
  | classifyTemplates cloud nList kNeigh => do
    let nList ← argument ds (Data.rows lua.stringNumber) nList
    pure [.records ((← core.descriptors.classifyTemplates cloud nList
      (getInt lua.stringNumber kNeigh)).map TemplateHit.record)]
  | soapSpectrum yCloud iatom nList nMax lMax rcut => do
    let nList ← argument ds (Data.rows lua.stringNumber) nList
    pure [.list ((← core.descriptors.soapSpectrum yCloud (getInt lua.stringNumber iatom) nList
      (getInt lua.stringNumber nMax) (getInt lua.stringNumber lMax)
      (getNumber lua.stringNumber rcut)).map .float)]
  | soapSpectrumAll yCloud nList nMax lMax rcut => do
    let nList ← argument ds (Data.rows lua.stringNumber) nList
    pure [nestedFloats (← core.descriptors.soapSpectrumAll yCloud nList
      (getInt lua.stringNumber nMax) (getInt lua.stringNumber lMax)
      (getNumber lua.stringNumber rcut))]
  | voronoiFeatures yCloud candidateCutoff => do
    pure [nestedFloats (← core.descriptors.voronoiFeatures yCloud
      (getNumber lua.stringNumber candidateCutoff))]
  | guestOccupancy cloud cages guests radius => do
    let cages ← argument ds (Data.rows lua.stringNumber) cages
    let guests ← argument ds (Data.ints lua.stringNumber) guests
    pure [.record (← core.descriptors.guestOccupancy cloud cages guests
      (getNumber lua.stringNumber radius)).record]
  | ionEnvironment cloud iceFlag ionIndices waterType cutoff => do
    let iceFlag ← argument ds Data.flags iceFlag
    let ionIndices ← argument ds (Data.ints lua.stringNumber) ionIndices
    pure [.record (← core.descriptors.ionEnvironment cloud iceFlag ionIndices
      ((optionalInt waterType).getD 1)
      ((optionalNumber cutoff).getD (35 / 10))).record]
  | calcRDF3D yCloud typeI typeJ rmax nbins => do
    pure [.record (← histogram lua core yCloud typeI typeJ rmax nbins).record]
  | calcRunningCN yCloud typeI typeJ rmax nbins => do
    let gr ← histogram lua core yCloud typeI typeJ rmax nbins
    pure [.record (runningRecord gr (← core.descriptors.runningCN gr gr.rhoJ))]
  | calcCN yCloud typeI typeJ rmax nbins rCut => do
    let gr ← histogram lua core yCloud typeI typeJ rmax nbins
    pure [.scalar (.float (← core.descriptors.coordinationNumber gr
      ((optionalNumber rCut).getD (getNumber lua.stringNumber rmax)) gr.rhoJ))]
  | densityByType yCloud typeI nbin axis => do
    let axis := getInt lua.stringNumber axis
    pure [.record (packDensity (← core.sites.densityOfType yCloud (getInt lua.stringNumber typeI)
      (getInt lua.stringNumber nbin) axis) axis none)]
  | densityByKind yCloud table kind nbin axis => do
    let table ← required (core.sites.siteTable table)
    let kind ← required (core.sites.kind kind)
    let axis := getInt lua.stringNumber axis
    pure [.record (packDensity (← core.sites.densityOfKind yCloud table kind
      (getInt lua.stringNumber nbin) axis) axis (some kind))]
  | contactPairs cloud table => do
    pure [.record (← contactPairsOf core.sites cloud table).record]

def Statement.eval : Statement Cloud → Prog σ CallError (List Data)
  | call c => c.eval lua core ds
  | constant s => pure [.scalar s]
  | list ns => pure [.list (ns.map .ofInt32)]
  | names fields => pure [.field (.names fields)]
  | entry place n => do pure [← argument ds (Data.entry n) place]
  | field place name => do pure [← argument ds (Data.named name) place]

end Engine

def evalScript : List (Statement Cloud) → List Data → Prog σ CallError (List Data)
  | [], ds => pure ds
  | statement :: rest, ds => do
    let new ← statement.eval lua core ds
    evalScript rest (ds ++ new)

end Runs

end YodaStruct.Binding
