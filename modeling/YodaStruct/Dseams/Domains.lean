import YodaStruct.Binding.Sites
import YodaStruct.Dseams.Lua

/-! `domain`, from the options of a request to the table that it gets. -/
namespace YodaStruct.Dseams
open YodaStruct.Config YodaStruct.Driver YodaStruct.Binding Simulation

structure DomainOptions where
  table : ScriptValue := .nil
  kind : ScriptValue := .nil
  cutoff : ScriptValue := .nil

instance : Inhabited DomainOptions := ⟨{}⟩

/-- The options name a table of sites and a kind. -/
def DomainOptions.Complete (o : DomainOptions) : Prop := ¬(o.table = .nil ∨ o.kind = .nil)

def domainRecord (out : DomainStats ℚ) : Record where
  fields :=
    [("site_kind".toList, .value (.string out.siteKind)),
      ("n".toList, .value (.integer out.n)),
      ("largest".toList, .value (.integer out.largest)),
      ("percolation".toList, .value (.float out.percolation))]
  nodup := (by decide : (["site_kind".toList, "n".toList, "largest".toList,
    "percolation".toList] : List CppString).Nodup)

section Requests
variable {σ SiteTable : Type} (lua : Interpreter) (engine : DomainEngine SiteTable ℚ ℚ)
  (siteTable : ScriptValue → Option SiteTable) (kindOf : ScriptValue → Option Kind)
  (cloud : Cloud)

/-- The binding of `domainStats`. -/
def domainStatsBinding (table kind cutoff : ScriptValue) : Script σ ScriptValue := do
  let table ← required (siteTable table)
  let kind ← required (kindOf kind)
  let out ← required (domainStats engine cloud table kind (getNumber lua.stringNumber cutoff))
  give (.record (domainRecord out))

def domain (o : Option DomainOptions) : Script σ ScriptValue := do
  let o := opts o
  if o.table = .nil ∨ o.kind = .nil then
    throw (.raised "domain needs table= and kind=".toList 2)
  domainStatsBinding lua engine siteTable kindOf cloud o.table o.kind
    (o.cutoff.orElse (.float (35 / 10)))

/-- How far neighbours are from each other. -/
def DomainOptions.reach (o : DomainOptions) : ℚ :=
  getNumber lua.stringNumber (o.cutoff.orElse (.float (35 / 10)))

/-- `domain` needs a table and a kind. With a table of sites and one of the kinds it hands back a
new table with the name of the kind, how many sites of it there are, and how many of them hang
together at most. -/
theorem domain_answers (he : engine.MeasuresMasked) (hc : cloud.Valid) (h : LuaHeap)
    (o : Option DomainOptions)
    (hrows : (engine.getNewNeighbourListByIndex cloud ((opts o).reach lua)).length =
      cloud.pts.length) :
    (¬(opts o).Complete → ∀ st : LuaHeap × σ, domain lua engine siteTable kindOf cloud o st =
      .error (.raised "domain needs table= and kind=".toList 2)) ∧
    ((opts o).Complete → ∀ table kind, siteTable (opts o).table = some table →
      kindOf (opts o).kind = some kind → ∃ out : DomainStats ℚ,
      out.siteKind = siteKindName kind ∧
      out.n = (maskedIndices cloud (engine.indicesOf cloud table kind)).card ∧
      out.largest = Components.largest ((indexGraph (inRangeRows cloud
        (engine.getNewNeighbourListByIndex cloud ((opts o).reach lua)))).induce
          (maskedIndices cloud (engine.indicesOf cloud table kind) : Set ℕ)) ∧
      Simulates h (fun _ => (domain lua engine siteTable kindOf cloud o : Script σ ScriptValue))
        (pure out) fun h' v out => Fresh h h' v (.record (domainRecord out))) := by
  unfold domain
  constructor
  · intro hnot st
    rw [if_pos (not_not.mp hnot)]
    rfl
  · intro hcomplete table kind htable hkindOf
    obtain ⟨out, hout, hkind, hn, hlargest⟩ := exists_domainStats he hc table kind rfl hrows
    refine ⟨out, hkind, hn, hlargest, ?_⟩
    rw [if_neg hcomplete]
    unfold domainStatsBinding
    unfold DomainOptions.reach at hout
    rw [htable, hkindOf]
    simp only [required, pure_bind, hout]
    exact simulates_push (fun out : DomainStats ℚ => .record (domainRecord out)) out

end Requests

/-- The measuring engine, with a neighbour table for every distance. -/
noncomputable def threeEngine : DomainEngine (List ℤ) ℚ ℚ where
  indicesOf := measuringEngine.indicesOf
  getNewNeighbourListByIndex _ _ := [[1, -1], [0, 2, 3], [1]]
  largestDomain := measuringEngine.largestDomain

theorem threeEngine_measuresMasked : threeEngine.MeasuresMasked where
  subset := measuringEngine_measuresMasked.subset
  largest := measuringEngine_measuresMasked.largest

def askPolar : Option DomainOptions := some { table := .other 0, kind := .integer 6 }

/-- The userdata at 0 is a table of these sites, and 6 the number of `polar`. -/
def polarSites : ScriptValue → Option (List ℤ)
  | .other 0 => some [0, -1, 2, 9]
  | _ => none

def polarKind : ScriptValue → Option Kind
  | .integer 6 => some .polar
  | _ => none

theorem domain_answers_threePoints :
    ∃ out : DomainStats ℚ, out.siteKind = "polar".toList ∧
      out.n = (maskedIndices threePoints [0, -1, 2, 9]).card ∧
      Simulates ⟨fun _ => none, 1⟩
        (fun _ => (domain plainLua threeEngine polarSites polarKind threePoints askPolar :
          Script Unit ScriptValue))
        (pure out) fun h' v out => Fresh ⟨fun _ => none, 1⟩ h' v (.record (domainRecord out)) := by
  have hcomplete : (opts askPolar).Complete := by
    unfold DomainOptions.Complete
    decide
  obtain ⟨out, hkind, hn, -, hrun⟩ := (domain_answers plainLua threeEngine polarSites polarKind
    threePoints threeEngine_measuresMasked ⟨rfl, by decide⟩ ⟨fun _ => none, 1⟩ askPolar rfl).2
    hcomplete [0, -1, 2, 9] .polar rfl rfl
  exact ⟨out, hkind, hn, hrun⟩

end YodaStruct.Dseams
