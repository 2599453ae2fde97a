import YodaStruct.Binding.Sites
import YodaStruct.Dseams.Density
import YodaStruct.Library.Binary64

/-! Profiles and pairs of sites, from the options of a request to the table that it gets. -/
namespace YodaStruct.Dseams
open YodaStruct.Config YodaStruct.Driver YodaStruct.Binding LuaTable Simulation CallLog
  Binary64

section Requests
variable {σ Cloud SiteTable : Type} (lua : Interpreter) (engine : SiteEngine σ Cloud SiteTable)
  (box : Cloud → List ℚ)

/-- The table that `cloud:box()` makes. -/
def boxTable (cloud : Cloud) : Prog LuaHeap CallError Unit := fun h =>
  .ok ((), h.pushArray ((box cloud).map .float))

/-- The core in a state of a script. `cloud:box()` has made its table before the core is
called. -/
def siteCore (st : LuaHeap × σ) :
    DensityCore Cloud (Except CallError (ScriptValue × (LuaHeap × σ))) where
  box := box
  densityByKind cloud table kind bins axis :=
    .ok (Binding.densityByKind lua engine cloud table kind bins (.float axis)
      (st.1.pushArray ((box cloud).map .float), st.2))
  densityByType cloud type bins axis :=
    .ok (Binding.densityByType lua engine cloud type bins (.float axis)
      (st.1.pushArray ((box cloud).map .float), st.2))

/-- `dseams.density`, in doubles, with the core that it calls. -/
def densityProfile (lt : ScriptValue → ℚ → Except LuaError Bool) (cloud : Cloud)
    (o : Option DensityOptions) : Script σ ScriptValue := fun st =>
  match (density toDouble (siteCore lua engine box st) lt cloud o).result with
  | .ok outcome => outcome
  | .error e => .error (.raised e.text e.level)

/-- `dseams.pairs`. -/
def pairs (cloud : Cloud) (table : ScriptValue) : Script σ ScriptValue := do
  if table = .nil then
    throw (.raised "pairs needs table=".toList 2)
  Binding.contactPairs engine cloud table

end Requests

/-! Numbers on their way to the core. -/

theorem llround_intCast (n : ℤ) : llround n = n := by
  have hhalf : ⌊(1 / 2 : ℚ)⌋ = 0 := by norm_num
  unfold llround
  split_ifs with hn
  · rw [Int.floor_intCast_add, hhalf, add_zero]
  · rw [← Int.cast_neg, Int.floor_intCast_add, hhalf, add_zero, neg_neg]

/-- A whole number is the same to the core, however Lua keeps it. -/
theorem getInt_of_toNumber {stringNumber : CppString → Option ℚ} {v : ScriptValue} {n : ℤ}
    (hv : v.toNumber = some (n : ℚ)) : getInt stringNumber v = .ofInt n := by
  cases v with
  | integer m =>
    have hm : (m : ℚ) = n := Option.some.inj hv
    rw [Int.cast_inj.mp hm]
    rfl
  | float x =>
    obtain rfl : x = n := Option.some.inj hv
    change Int32.ofInt (llround n) = _
    rw [llround_intCast]
  | _ => cases hv

/-- Between the axes the core takes the nearest. -/
theorem exists_direction_llround {q : ℚ} (h0 : 0 ≤ q) (h2 : q ≤ 2) :
    ∃ d : Direction, llround q = d.index := by
  apply exists_direction
  · rw [llround, if_pos h0]
    exact Int.floor_nonneg.mpr (by linarith)
  · rw [llround, if_pos h0]
    apply Int.lt_add_one_iff.mp
    apply Int.floor_lt.mpr
    push_cast
    linarith

theorem axisName_index (d : Direction) : axisName (.ofNat d.index) = d.name := by
  cases d <;> rfl

theorem Direction.index_injective {d e : Direction} (he : (d.index : ℤ) = e.index) : d = e := by
  cases d <;> cases e <;> first | rfl | cases he

/-! What the front end makes of a request. -/

/-- What the checks let through goes to the core as it stands. -/
theorem density_eq {Cloud Profile : Type} (round : ℚ → ℚ) (core : DensityCore Cloud Profile)
    {lt : ScriptValue → ℚ → Except LuaError Bool} {cloud : Cloud} {o : Option DensityOptions}
    (hacc : Accepted lt (opts o)) {q : ℚ} (hq : (opts o).axisIndex = some q) {bins : ScriptValue}
    (hbins : bins = (opts o).binsArg round ((tableAt (core.box cloud) (round (q + 1))).getD 0)) :
    (density round core lt cloud o).result =
      if (opts o).table ≠ .nil then
        core.densityByKind cloud (opts o).table (opts o).kind bins q
      else
        core.densityByType cloud ((opts o).type.orElse (.integer 0)) bins q := by
  obtain ⟨r, hr, h0, h2⟩ := hacc.axis
  obtain rfl : q = r := Option.some.inj (hq.symm.trans hr)
  have hrange : ¬(q < 0 ∨ q > 2) := not_outside_iff.mpr ⟨h0, h2⟩
  have hsites := mt sites_bne.mp (not_not.mpr hacc.sites)
  subst hbins
  unfold density
  simp only [hq, if_neg hrange, lessThan_binsArg.mpr hacc.bins, Run.ofExcept_ok_bind, if_neg hsites,
    Bool.false_eq_true, ↓reduceIte]
  split_ifs <;> rfl

section Answers
variable {σ Cloud SiteTable : Type} (lua : Interpreter) (engine : SiteEngine σ Cloud SiteTable)
  (box : Cloud → List ℚ) (lt : ScriptValue → ℚ → Except LuaError Bool) (h : LuaHeap)
  (cloud : Cloud)

/-- A profile of the sites of a kind where the request names a table, else of the atoms of a
type. -/
def profileOf (o : DensityOptions) (nbin axis : Int32) :
    Prog σ CallError (DensityZ × Option Kind) :=
  if o.table ≠ .nil then do
    let table ← required (engine.siteTable o.table)
    let kind ← required (engine.kind o.kind)
    pure (← engine.densityOfKind cloud table kind nbin axis, some kind)
  else do
    pure (← engine.densityOfType cloud (getInt lua.stringNumber (o.type.orElse (.integer 0))) nbin
      axis, none)

/-- In doubles there is one bin more or less than in exact numbers, if any. -/
theorem defaultBins_near {span : ℚ} (h0 : 0 ≤ span) (h1 : span ≤ 2 ^ 40) :
    |defaultBins toDouble span - defaultBins id span| ≤ 1 := by
  have htiny : (2 : ℚ) ^ (-1075 : ℤ) ≤ 1 / 2 ^ 60 := by
    rw [one_div, ← zpow_natCast, ← zpow_neg]
    exact zpow_le_zpow_right₀ (by norm_num) (by norm_num)
  have hclose : ∀ x : ℚ, |toDouble x - x| ≤ |x| / 2 ^ 53 + 1 / 2 ^ 60 := by
    intro x
    linarith [abs_toDouble_sub_le_add x]
  obtain ⟨w, hw⟩ : ∃ w, toDouble (1 / 10) = w := ⟨_, rfl⟩
  have hwidth := abs_le.mp (hclose (1 / 10))
  rw [hw, abs_of_pos (by norm_num : (0 : ℚ) < 1 / 10)] at hwidth
  have hwpos : 0 < w := by linarith
  obtain ⟨x, hx⟩ : ∃ x, span / w = x := ⟨_, rfl⟩
  have hxw : x * w = span := by rw [← hx, div_mul_cancel₀ _ hwpos.ne']
  have hx0 : 0 ≤ x := by
    rw [← hx]
    positivity
  have hx1 : x ≤ 2 ^ 45 := by nlinarith
  have hspan : |x - 10 * span| ≤ 1 / 64 := by
    rw [← hxw, abs_le]
    constructor <;> nlinarith
  have hquotient := abs_le.mp (hclose x)
  rw [abs_of_nonneg hx0] at hquotient
  have hsum := abs_le.mp (hclose (toDouble x + 1 / 2))
  have hbig : |toDouble x + 1 / 2| ≤ 2 ^ 46 := by
    rw [abs_le]
    constructor <;> linarith
  have htotal : |toDouble (toDouble x + 1 / 2) - (span / (1 / 10) + 1 / 2)| < 1 := by
    have hexact := abs_le.mp hspan
    rw [abs_lt]
    constructor <;> linarith
  have hfloor := abs_le.mp (abs_floor_sub_floor_le htotal)
  unfold defaultBins
  rw [hw, hx, abs_le]
  simp only [id]
  omega

/-- The double for 12.85 is a little less, and so are 128.5 widths of it, but not in doubles. -/
example : defaultBins toDouble (toDouble (1285 / 100)) = 129 ∧
    defaultBins id (toDouble (1285 / 100)) = 128 := by
  decide +kernel

/-- As many bins as asked for, or one for each 0.1 of the box in that direction, in doubles. -/
def RightBins (o : DensityOptions) (box : List ℚ) (d : Direction) (nbin : Int32) : Prop :=
  ∃ n : ℤ, 1 ≤ n ∧ (o.bins.truthy → o.bins.toNumber = some (n : ℚ)) ∧
    (¬o.bins.truthy → n = defaultBins toDouble (box.getD d.index 0)) ∧
    (n < 2 ^ 31 → nbin.toInt = n)

theorem keepsKeys_toDouble : KeepsKeys toDouble := by
  intro d
  cases d <;> exact_mod_cast toDouble_intCast (by decide)

theorem rightBins_of_whole {o : DensityOptions} (hacc : Accepted lt o) (hw : Whole o)
    {box : List ℚ} {d : Direction} {q : ℚ} (hd : q = d.index) :
    RightBins o box d (getInt lua.stringNumber (o.binsArg toDouble
      ((tableAt box (toDouble (q + 1))).getD 0))) := by
  obtain ⟨n, hn, hbins⟩ := exists_bins toDouble hacc hw
    ((tableAt box (toDouble (q + 1))).getD 0)
  refine ⟨n, hn, ?_, ?_, ?_⟩
  · intro ht
    rwa [binsArg_of_truthy ht] at hbins
  · intro ht
    rw [binsArg_of_not_truthy ht, hd, keepsKeys_toDouble, tableAt_natCast_add_one] at hbins
    have hcast : ((defaultBins toDouble (box[d.index]?.getD 0) : ℤ) : ℚ) = n :=
      Option.some.inj hbins
    rw [List.getD_eq_getElem?_getD]
    exact (Int.cast_inj.mp hcast).symm
  · intro hlt
    rw [getInt_of_toNumber hbins]
    exact Int32.toInt_ofInt_of_le (by omega) hlt

theorem densityProfile_of_accepted {o : Option DensityOptions} (hacc : Accepted lt (opts o))
    {q : ℚ} (hq : (opts o).axisIndex = some q) {d : Direction} (hd : llround q = d.index)
    {bins : ScriptValue}
    (hbins : bins = (opts o).binsArg toDouble
      ((tableAt (box cloud) (toDouble (q + 1))).getD 0)) :
    Simulates h (fun _ => densityProfile lua engine box lt cloud o)
      (profileOf lua engine cloud (opts o) (getInt lua.stringNumber bins) (.ofNat d.index))
      fun h' v r => Fresh h h' v (.record (packDensity r.1 (.ofNat d.index) r.2)) := by
  have haxis : getInt lua.stringNumber (.float q) = .ofNat d.index := by
    change Int32.ofInt (llround q) = _
    rw [hd]
    cases d <;> rfl
  have hscript : densityProfile lua engine box lt cloud o =
      Prog.onStore (boxTable box cloud) >>= fun _ =>
        if (opts o).table ≠ .nil then
          Binding.densityByKind lua engine cloud (opts o).table (opts o).kind bins (.float q)
        else
          Binding.densityByType lua engine cloud ((opts o).type.orElse (.integer 0)) bins
            (.float q) := by
    funext st
    obtain ⟨h, s⟩ := st
    rw [Prog.onStore_bind_eq rfl]
    unfold densityProfile
    rw [density_eq _ (siteCore lua engine box (h, s)) hacc hq hbins]
    by_cases ht : (opts o).table ≠ .nil
    · rw [if_pos ht, if_pos ht]
      rfl
    · rw [if_neg ht, if_neg ht]
      rfl
  rw [hscript]
  apply Simulates.onStore_bind (endsWith_const (boxTable box cloud) h)
  have hbox := h.extends_pushArray ((box cloud).map .float)
  have hlater : ∀ h' v (r : DensityZ × Option Kind),
      Fresh (h.pushArray ((box cloud).map .float)) h' v
        (.record (packDensity r.1 (.ofNat d.index) r.2)) →
        Fresh h h' v (.record (packDensity r.1 (.ofNat d.index) r.2)) :=
    fun _ _ _ hr => hr.later hbox
  unfold profileOf
  rw [← haxis] at hlater ⊢
  by_cases ht : (opts o).table ≠ .nil
  · rw [if_pos ht, if_pos ht]
    refine Simulates.weaken ?_ hlater
    apply simulates_required
    intro table
    apply simulates_required
    intro kind
    exact simulates_packDensity _ _ _
  · rw [if_neg ht, if_neg ht]
    exact (simulates_packDensity _ _ _).weaken hlater

theorem densityProfile_of_not_accepted {o : Option DensityOptions} (hacc : ¬Accepted lt (opts o))
    (st : LuaHeap × σ) :
    ∃ e : LuaError, densityProfile lua engine box lt cloud o st = .error (.raised e.text e.level) := by
  obtain ⟨-, e, he⟩ := density_of_not_accepted toDouble
    (siteCore lua engine box st) cloud hacc
  refine ⟨e, ?_⟩
  unfold densityProfile
  rw [he]

/-- A request that the checks refuse ends in an error of the script. Any other gets the profile
that the engine makes along one of the three axes, in a new table that names this axis. With whole
numbers it is the axis that was asked for, and the bins are too. -/
theorem densityProfile_answers (o : Option DensityOptions) :
    (¬Accepted lt (opts o) → ∀ st, ∃ e : LuaError,
      densityProfile lua engine box lt cloud o st = .error (.raised e.text e.level)) ∧
    (Accepted lt (opts o) → ∃ (d : Direction) (nbin : Int32),
      (Whole (opts o) → (opts o).Asks d ∧ RightBins (opts o) (box cloud) d nbin) ∧
      Simulates h (fun _ => densityProfile lua engine box lt cloud o)
        (profileOf lua engine cloud (opts o) nbin (.ofNat d.index))
        fun h' v r => Fresh h h' v (.record (packDensity r.1 (.ofNat d.index) r.2)) ∧
          ("axis".toList, .value (.string d.name)) ∈ (packDensity r.1 (.ofNat d.index) r.2).fields) := by
  constructor
  · exact densityProfile_of_not_accepted lua engine box lt cloud
  · intro hacc
    obtain ⟨q, hq, h0, h2⟩ := hacc.axis
    obtain ⟨d, hd⟩ := exists_direction_llround h0 h2
    have hrun := densityProfile_of_accepted lua engine box lt h cloud hacc hq hd rfl
    refine ⟨d, _, ?_, hrun.weaken ?_⟩
    · intro hw
      obtain ⟨e, hasks, he⟩ := asks_of_axisIndex hq h0 h2 hw.axis
      have hround := llround_intCast e.index
      rw [Int.cast_natCast, ← he, hd] at hround
      obtain rfl := Direction.index_injective hround
      exact ⟨hasks, rightBins_of_whole lua lt hacc hw he⟩
    · intro h' v r hr
      refine ⟨hr, ?_⟩
      unfold packDensity
      rw [axisName_index]
      simp

/-- `pairs` needs a table of sites. With one it hands back the pairs of ions, and how many pairs,
cations and anions there are. -/
theorem pairs_simulates (table : ScriptValue) :
    Simulates h (fun _ => pairs engine cloud table)
      (do
        if table = .nil then
          throw (.raised "pairs needs table=".toList 2)
        contactPairsOf engine cloud table)
      fun h' v contact => Fresh h h' v (.record contact.record) := by
  unfold pairs
  by_cases ht : table = .nil
  · rw [if_pos ht, if_pos ht]
    exact Simulates.throw h _
  · rw [if_neg ht, if_neg ht]
    exact simulates_contactPairs cloud table

end Answers

end YodaStruct.Dseams
