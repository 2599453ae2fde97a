import YodaStruct.Binding.Calls
import YodaStruct.Library.Binary64

/-! The bindings for order parameters, descriptors, ions and guests, and for radial
distributions. -/
namespace YodaStruct.Binding
open YodaStruct.Config YodaStruct.Driver LuaTable Simulation

/-- `chill::SteinhardtQl`. -/
structure SteinhardtQl where
  ql : List ℚ
  qlBar : List ℚ

def packSteinhardt (q : SteinhardtQl) : Record where
  fields := [("ql".toList, .array (q.ql.map .float)), ("qlBar".toList, .array (q.qlBar.map .float))]
  nodup := (by decide : (["ql".toList, "qlBar".toList] : List CppString).Nodup)

/-- The facets of one cell. -/
structure FacetCell where
  neighbours : List Int32
  weights : List ℚ
  certified : Bool

def FacetCell.record (cell : FacetCell) : Record where
  fields :=
    [("neighbours".toList, .array (cell.neighbours.map .ofInt32)),
      ("weights".toList, .array (cell.weights.map .float)),
      ("certified".toList, .value (.boolean cell.certified))]
  nodup := (by decide : (["neighbours".toList, "weights".toList, "certified".toList] :
    List CppString).Nodup)

/-- The template that fits an atom. -/
structure TemplateHit where
  name : CppString
  rmsd : ℚ

def TemplateHit.record (hit : TemplateHit) : Record where
  fields := [("name".toList, .value (.string hit.name)), ("rmsd".toList, .value (.float hit.rmsd))]
  nodup := (by decide : (["name".toList, "rmsd".toList] : List CppString).Nodup)

/-- What `site::guestOccupancy` returns. -/
structure GuestOccupancy where
  guestsPerCage : List Int32
  cageOfGuest : List Int32
  centreDistance : List ℚ
  occupied : Int32
  multiply : Int32
  free : Int32

def GuestOccupancy.record (occ : GuestOccupancy) : Record where
  fields :=
    [("guestsPerCage".toList, .array (occ.guestsPerCage.map .ofInt32)),
      ("cageOfGuest".toList, .array (occ.cageOfGuest.map .ofInt32)),
      ("centreDistance".toList, .array (occ.centreDistance.map .float)),
      ("occupied".toList, .value (.ofInt32 occ.occupied)),
      ("multiply".toList, .value (.ofInt32 occ.multiply)),
      ("free".toList, .value (.ofInt32 occ.free))]
  nodup := (by decide : (["guestsPerCage".toList, "cageOfGuest".toList, "centreDistance".toList,
    "occupied".toList, "multiply".toList, "free".toList] : List CppString).Nodup)

/-- `site::IonState`. -/
inductive IonState
  | ice | front | liquid
  deriving DecidableEq

def ionStateName : IonState → CppString
  | .ice => "ice".toList
  | .front => "front".toList
  | .liquid => "liquid".toList

/-- What `site::ionEnvironment` returns. -/
structure IonEnvironment where
  ion : List Int32
  shell : List Int32
  iceFraction : List ℚ
  state : List IonState
  members : IntRows
  nIce : Int32
  nFront : Int32
  nLiquid : Int32

def IonEnvironment.record (env : IonEnvironment) : Record where
  fields :=
    [("ion".toList, .array (env.ion.map .ofInt32)),
      ("shell".toList, .array (env.shell.map .ofInt32)),
      ("iceFraction".toList, .array (env.iceFraction.map .float)),
      ("state".toList, .array (env.state.map fun state => .string (ionStateName state))),
      ("members".toList, .rows (env.members.map (·.map .ofInt32))),
      ("nIce".toList, .value (.ofInt32 env.nIce)),
      ("nFront".toList, .value (.ofInt32 env.nFront)),
      ("nLiquid".toList, .value (.ofInt32 env.nLiquid))]
  nodup := (by decide : (["ion".toList, "shell".toList, "iceFraction".toList, "state".toList,
    "members".toList, "nIce".toList, "nFront".toList, "nLiquid".toList] : List CppString).Nodup)

/-- What the bindings read of a histogram of `rdf::partialRdf`. -/
structure PartialRdf where
  r : List ℚ
  g : List ℚ
  volume : ℚ
  nJ : Int32

/-- The density of the partners, a quotient of doubles, or 0 without a volume. -/
def PartialRdf.rhoJ (gr : PartialRdf) : ℚ :=
  if gr.volume > 0 then Binary64.toDouble (gr.nJ.toInt / gr.volume) else 0

def PartialRdf.record (gr : PartialRdf) : Record where
  fields := [("r".toList, .array (gr.r.map .float)), ("g".toList, .array (gr.g.map .float))]
  nodup := (by decide : (["r".toList, "g".toList] : List CppString).Nodup)

/-- The radii of a histogram with the running coordination number at each. -/
def runningRecord (gr : PartialRdf) (cn : List ℚ) : Record where
  fields := [("r".toList, .array (gr.r.map .float)), ("cn".toList, .array (cn.map .float))]
  nodup := (by decide : (["r".toList, "cn".toList] : List CppString).Nodup)

/-- Rows of numbers. -/
def nestedFloats (rows : List (List ℚ)) : Data := .field (.rows (rows.map (·.map .float)))

structure DescriptorEngine (σ Cloud : Type) where
  steinhardtQl (yCloud : Cloud) (nList : IntRows) (orderL : Int32) : Prog σ CallError SteinhardtQl
  steinhardtQlVoronoi (yCloud : Cloud) (candidateCutoff : ℚ) (orderL : Int32) :
    Prog σ CallError SteinhardtQl
  voronoiFacetWeights (yCloud : Cloud) (candidateCutoff : ℚ) : Prog σ CallError (List FacetCell)
  classifyTemplates (cloud : Cloud) (nList : IntRows) (kNeigh : Int32) :
    Prog σ CallError (List TemplateHit)
  soapSpectrum (yCloud : Cloud) (iatom : Int32) (nList : IntRows) (nMax lMax : Int32) (rcut : ℚ) :
    Prog σ CallError (List ℚ)
  soapSpectrumAll (yCloud : Cloud) (nList : IntRows) (nMax lMax : Int32) (rcut : ℚ) :
    Prog σ CallError (List (List ℚ))
  voronoiFeatures (yCloud : Cloud) (candidateCutoff : ℚ) : Prog σ CallError (List (List ℚ))
  guestOccupancy (cloud : Cloud) (cages : IntRows) (guests : List Int32) (radius : ℚ) :
    Prog σ CallError GuestOccupancy
  ionEnvironment (cloud : Cloud) (iceFlag : List Bool) (ionIndices : List Int32)
    (waterType : Int32) (cutoff : ℚ) : Prog σ CallError IonEnvironment
  partialRdf (yCloud : Cloud) (typeI typeJ : Int32) (rmax : ℚ) (nbins : Int32) :
    Prog σ CallError PartialRdf
  runningCN (gr : PartialRdf) (rhoJ : ℚ) : Prog σ CallError (List ℚ)
  coordinationNumber (gr : PartialRdf) (rCut rhoJ : ℚ) : Prog σ CallError ℚ

section Bindings
variable {σ Cloud : Type} (lua : Interpreter) (engine : DescriptorEngine σ Cloud)

def steinhardtQl (yCloud : Cloud) (nList orderL : ScriptValue) : Script σ ScriptValue := do
  let nList ← takeNested lua nList
  give (.record (packSteinhardt (← Prog.lift (engine.steinhardtQl yCloud nList
    (getInt lua.stringNumber orderL)))))

def steinhardtQlVoronoi (yCloud : Cloud) (candidateCutoff orderL : ScriptValue) :
    Script σ ScriptValue := do
  give (.record (packSteinhardt (← Prog.lift (engine.steinhardtQlVoronoi yCloud
    (getNumber lua.stringNumber candidateCutoff) (getInt lua.stringNumber orderL)))))

def voronoiFacetWeights (yCloud : Cloud) (candidateCutoff : ScriptValue) :
    Script σ ScriptValue := do
  give (.records ((← Prog.lift (engine.voronoiFacetWeights yCloud
    (getNumber lua.stringNumber candidateCutoff))).map FacetCell.record))

def classifyTemplates (cloud : Cloud) (nList kNeigh : ScriptValue) : Script σ ScriptValue := do
  let nList ← takeNested lua nList
  give (.records ((← Prog.lift (engine.classifyTemplates cloud nList
    (getInt lua.stringNumber kNeigh))).map TemplateHit.record))

def soapSpectrum (yCloud : Cloud) (iatom nList nMax lMax rcut : ScriptValue) :
    Script σ ScriptValue := do
  let nList ← takeNested lua nList
  give (.list ((← Prog.lift (engine.soapSpectrum yCloud (getInt lua.stringNumber iatom) nList
    (getInt lua.stringNumber nMax) (getInt lua.stringNumber lMax)
    (getNumber lua.stringNumber rcut))).map .float))

def soapSpectrumAll (yCloud : Cloud) (nList nMax lMax rcut : ScriptValue) :
    Script σ ScriptValue := do
  let nList ← takeNested lua nList
  give (nestedFloats (← Prog.lift (engine.soapSpectrumAll yCloud nList
    (getInt lua.stringNumber nMax) (getInt lua.stringNumber lMax)
    (getNumber lua.stringNumber rcut))))

def voronoiFeatures (yCloud : Cloud) (candidateCutoff : ScriptValue) : Script σ ScriptValue := do
  give (nestedFloats (← Prog.lift (engine.voronoiFeatures yCloud
    (getNumber lua.stringNumber candidateCutoff))))

def guestOccupancy (cloud : Cloud) (cages guests radius : ScriptValue) :
    Script σ ScriptValue := do
  let cages ← takeNested lua cages
  let guests ← takeInts lua guests
  give (.record (← Prog.lift (engine.guestOccupancy cloud cages guests
    (getNumber lua.stringNumber radius))).record)

def ionEnvironment (cloud : Cloud) (iceFlag ionIndices waterType cutoff : ScriptValue) :
    Script σ ScriptValue := do
  let iceFlag ← takeFlags iceFlag
  let ionIndices ← takeInts lua ionIndices
  give (.record (← Prog.lift (engine.ionEnvironment cloud iceFlag ionIndices
    ((optionalInt waterType).getD 1)
    ((optionalNumber cutoff).getD (35 / 10)))).record)

def calcRDF3D (yCloud : Cloud) (typeI typeJ rmax nbins : ScriptValue) : Script σ ScriptValue := do
  give (.record (← Prog.lift (engine.partialRdf yCloud (getInt lua.stringNumber typeI)
    (getInt lua.stringNumber typeJ) (getNumber lua.stringNumber rmax)
    (getInt lua.stringNumber nbins))).record)

def calcRunningCN (yCloud : Cloud) (typeI typeJ rmax nbins : ScriptValue) :
    Script σ ScriptValue := do
  let gr ← Prog.lift (engine.partialRdf yCloud (getInt lua.stringNumber typeI)
    (getInt lua.stringNumber typeJ) (getNumber lua.stringNumber rmax)
    (getInt lua.stringNumber nbins))
  give (.record (runningRecord gr (← Prog.lift (engine.runningCN gr gr.rhoJ))))

def calcCN (yCloud : Cloud) (typeI typeJ rmax nbins rCut : ScriptValue) :
    Script σ ScriptValue := do
  let gr ← Prog.lift (engine.partialRdf yCloud (getInt lua.stringNumber typeI)
    (getInt lua.stringNumber typeJ) (getNumber lua.stringNumber rmax)
    (getInt lua.stringNumber nbins))
  give (.scalar (.float (← Prog.lift (engine.coordinationNumber gr
    ((optionalNumber rCut).getD (getNumber lua.stringNumber rmax)) gr.rhoJ))))

end Bindings

end YodaStruct.Binding
