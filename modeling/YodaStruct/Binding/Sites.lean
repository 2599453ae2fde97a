import YodaStruct.Binding.Calls
import YodaStruct.Binding.Domain

/-! The bindings that count mapped sites: profiles of their density, and pairs of ions. -/
namespace YodaStruct.Binding
open YodaStruct.Config YodaStruct.Driver LuaTable Simulation

/-- `site::DensityZ`. -/
structure DensityZ where
  z : List ℚ
  rho : List ℚ
  type : Int32

/-- The engine on sites. -/
structure SiteEngine (σ Cloud SiteTable : Type) where
  /-- The `site::Table` that a value is, where it is one. -/
  siteTable : ScriptValue → Option SiteTable
  /-- The enumerator that a value is the number of. -/
  kind : ScriptValue → Option Kind
  /-- `site::densityZ` of the atoms of one type. -/
  densityOfType (yCloud : Cloud) (typeI nbin axis : Int32) : Prog σ CallError DensityZ
  /-- `site::densityZ` of the sites of one kind. -/
  densityOfKind (yCloud : Cloud) (table : SiteTable) (kind : Kind) (nbin axis : Int32) :
    Prog σ CallError DensityZ
  ionCloud (cloud : Cloud) (table : SiteTable) : Prog σ CallError Cloud
  mutualNearestUnlike (ions : Cloud) (typeI typeJ : Int32) :
    Prog σ CallError (List (Int32 × Int32))
  /-- The `type` of each point of `ions.pts`. -/
  types (ions : Cloud) : Prog σ CallError (List Int32)

/-- The name that goes with the number of an axis. -/
def axisName (axis : Int32) : CppString :=
  if axis = 0 then "x".toList else if axis = 1 then "y".toList else "z".toList

/-- Of the sites of `kind`, or of the atoms of the profile's type. -/
def packDensity (profile : DensityZ) (axis : Int32) (kind : Option Kind) : Record where
  fields :=
    [("centres".toList, .array (profile.z.map .float)),
      ("rho".toList, .array (profile.rho.map .float)),
      ("axis".toList, .value (.string (axisName axis))),
      (match kind with
        | some kind => ("site_kind".toList, .value (.string (siteKindName kind)))
        | none => ("atom_type".toList, .value (.ofInt32 profile.type)))]
  nodup := by
    cases kind with
    | some kind =>
      exact (by decide : (["centres".toList, "rho".toList, "axis".toList, "site_kind".toList] :
        List CppString).Nodup)
    | none =>
      exact (by decide : (["centres".toList, "rho".toList, "axis".toList, "atom_type".toList] :
        List CppString).Nodup)

/-- One turn of the loop over the points: those of type 1 so far, and those of type 2. -/
def countIon (counts : Int32 × Int32) (type : Int32) : Int32 × Int32 :=
  (counts.1 + (if type = 1 then 1 else 0), counts.2 + (if type = 2 then 1 else 0))

def countIons (types : List Int32) : Int32 × Int32 := types.foldl countIon (0, 0)

/-- The table that `contactPairs` returns. -/
structure ContactPairs where
  pairs : List (Int32 × Int32)
  count : Int32
  nCation : Int32
  nAnion : Int32

def ContactPairs.record (contact : ContactPairs) : Record where
  fields :=
    [("pairs".toList, .rows ((pairRows contact.pairs).map (·.map .ofInt32))),
      ("count".toList, .value (.ofInt32 contact.count)),
      ("n_cation".toList, .value (.ofInt32 contact.nCation)),
      ("n_anion".toList, .value (.ofInt32 contact.nAnion))]
  nodup := (by decide : (["pairs".toList, "count".toList, "n_cation".toList, "n_anion".toList] :
    List CppString).Nodup)

/-- An argument of a class or of an enumeration. Nothing is known of a call with another. -/
def required {σ α : Type} : Option α → Prog σ CallError α
  | some a => pure a
  | none => throw .unspecified

section Bindings
variable {σ Cloud SiteTable : Type} (lua : Interpreter) (engine : SiteEngine σ Cloud SiteTable)

def densityByType (yCloud : Cloud) (typeI nbin axis : ScriptValue) : Script σ ScriptValue := do
  let axis := getInt lua.stringNumber axis
  let profile ← Prog.lift (engine.densityOfType yCloud (getInt lua.stringNumber typeI)
    (getInt lua.stringNumber nbin) axis)
  give (.record (packDensity profile axis none))

def densityByKind (yCloud : Cloud) (table kind nbin axis : ScriptValue) : Script σ ScriptValue := do
  let table ← required (engine.siteTable table)
  let kind ← required (engine.kind kind)
  let axis := getInt lua.stringNumber axis
  let profile ← Prog.lift (engine.densityOfKind yCloud table kind (getInt lua.stringNumber nbin)
    axis)
  give (.record (packDensity profile axis (some kind)))

def contactPairs (cloud : Cloud) (table : ScriptValue) : Script σ ScriptValue := do
  let table ← required (engine.siteTable table)
  let ions ← Prog.lift (engine.ionCloud cloud table)
  let pairs ← Prog.lift (engine.mutualNearestUnlike ions 1 2)
  let (nCation, nAnion) := countIons (← Prog.lift (engine.types ions))
  give (.record (ContactPairs.record ⟨pairs, .ofNat pairs.length, nCation, nAnion⟩))

end Bindings

/-! What they hand back. -/

theorem foldl_countIon (types : List Int32) (cations anions : ℕ) :
    types.foldl countIon (.ofNat cations, .ofNat anions) =
      (.ofNat (cations + types.count 1), .ofNat (anions + types.count 2)) := by
  induction types generalizing cations anions with
  | nil => rfl
  | cons type types ih =>
    have hturn : countIon (.ofNat cations, .ofNat anions) type =
        (.ofNat (cations + if type = 1 then 1 else 0),
          .ofNat (anions + if type = 2 then 1 else 0)) := by
      unfold countIon
      rw [Int32.ofNat_add, Int32.ofNat_add]
      split_ifs <;> rfl
    have hcount : ∀ a b c : ℕ, a + b + c = a + (c + b) := by omega
    rw [List.foldl_cons, hturn, ih, List.count_cons, List.count_cons, hcount, hcount]
    simp only [beq_iff_eq]

/-- The loop counts. -/
theorem countIons_eq (types : List Int32) :
    countIons types = (.ofNat (types.count 1), .ofNat (types.count 2)) := by
  have hloop := foldl_countIon types 0 0
  rw [Nat.zero_add, Nat.zero_add] at hloop
  exact hloop

section Results
variable {σ Cloud SiteTable : Type} {lua : Interpreter} {engine : SiteEngine σ Cloud SiteTable}
  {h : LuaHeap}

theorem simulates_packDensity (m : Prog σ CallError DensityZ) (axis : Int32) (kind : Option Kind) :
    Simulates h
      (fun _ => Prog.lift m >>= fun profile => give (.record (packDensity profile axis kind)))
      (do pure (← m, kind)) fun h' v r => Fresh h h' v (.record (packDensity r.1 axis r.2)) := by
  apply Simulates.lift_bind
  intro profile
  exact simulates_push (fun r : DensityZ × Option Kind => .record (packDensity r.1 axis r.2))
    (profile, kind)

/-- An argument is the same with tables and without. -/
theorem simulates_required {α β γ : Type} (x : Option α) {f : α → Script σ β}
    {g : α → Prog σ CallError γ} {post : LuaHeap → β → γ → Prop}
    (hf : ∀ a, Simulates h (fun _ => f a) (g a) post) :
    Simulates h (fun _ => required x >>= f) (required x >>= g) post := by
  cases x with
  | some a => exact hf a
  | none => exact Simulates.throw h _

/-- The pairs that `contactPairs` stands for, with what there is to pair. -/
def contactPairsOf (engine : SiteEngine σ Cloud SiteTable) (cloud : Cloud) (table : ScriptValue) :
    Prog σ CallError ContactPairs := do
  let table ← required (engine.siteTable table)
  let ions ← engine.ionCloud cloud table
  let pairs ← engine.mutualNearestUnlike ions 1 2
  let types ← engine.types ions
  pure ⟨pairs, .ofNat pairs.length, .ofNat (types.count 1), .ofNat (types.count 2)⟩

theorem simulates_contactPairs (cloud : Cloud) (table : ScriptValue) :
    Simulates h (fun _ => contactPairs engine cloud table)
      (contactPairsOf engine cloud table)
      fun h' v contact => Fresh h h' v (.record contact.record) := by
  apply simulates_required
  intro table
  apply Simulates.lift_bind
  intro ions
  apply Simulates.lift_bind
  intro pairs
  apply Simulates.lift_bind
  intro types
  simp only [countIons_eq]
  exact simulates_push (fun contact : ContactPairs => .record contact.record) _

end Results

end YodaStruct.Binding
