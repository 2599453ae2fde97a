import Mathlib.Algebra.Order.Floor.Ring
import Mathlib.Data.Rat.Floor
import YodaStruct.Dseams.Lua

/-! `dseams.density`: the checks of its options, and what it forwards to the core. Arithmetic is
exact but for a rounding, which is `id` where numbers are taken as exact. -/
namespace YodaStruct.Dseams
open YodaStruct.Config YodaStruct.Driver CallLog

structure DensityOptions where
  axis : ScriptValue := .nil
  bins : ScriptValue := .nil
  table : ScriptValue := .nil
  kind : ScriptValue := .nil
  type : ScriptValue := .nil

instance : Inhabited DensityOptions := ⟨{}⟩

inductive DensityCall (Cloud : Type)
  | densityByKind (cloud : Cloud) (table kind bins : ScriptValue) (axis : ℚ)
  | densityByType (cloud : Cloud) (type bins : ScriptValue) (axis : ℚ)
  deriving DecidableEq

structure DensityCore (Cloud Profile : Type) where
  box : Cloud → List ℚ
  densityByKind (cloud : Cloud) (table kind bins : ScriptValue) (axis : ℚ) : Except LuaError Profile
  densityByType (cloud : Cloud) (type bins : ScriptValue) (axis : ℚ) : Except LuaError Profile

def axisIndices : ScriptValue → Option ℚ
  | .string s =>
    if s = "x".toList then some 0
    else if s = "y".toList then some 1
    else if s = "z".toList then some 2
    else none
  | _ => none

/-- `t[k]` for a table that counts from 1: only a whole number can be a key of it. -/
def tableAt (t : List ℚ) (k : ℚ) : Option ℚ :=
  if k.isInt ∧ 1 ≤ k then t[(k.num - 1).toNat]? else none

/-- `v < n`. What is not a number is compared by a metamethod, or not at all. -/
def lessThan (lt : ScriptValue → ℚ → Except LuaError Bool) (v : ScriptValue) (n : ℚ) :
    Except LuaError Bool :=
  match v.toNumber with
  | some q => .ok (q < n)
  | none => lt v n

def axisError : LuaError := ⟨"density axis must be \"x\", \"y\", \"z\", 0, 1, or 2".toList, 2⟩
def binsError : LuaError := ⟨"density bins must be positive".toList, 2⟩
def sitesError : LuaError := ⟨"density table and kind must be supplied together".toList, 2⟩

def DensityOptions.axisArg (o : DensityOptions) : ScriptValue := o.axis.orElse (.string "z".toList)

def DensityOptions.axisIndex (o : DensityOptions) : Option ℚ :=
  o.axisArg.toNumber <|> axisIndices o.axisArg

/-- About one bin for each 0.1 of the span. -/
def defaultBins (round : ℚ → ℚ) (span : ℚ) : ℤ :=
  max 1 ⌊round (round (span / round (1 / 10)) + 1 / 2)⌋

def DensityOptions.binsArg (round : ℚ → ℚ) (o : DensityOptions) (span : ℚ) : ScriptValue :=
  o.bins.orElse (.integer (defaultBins round span))

variable {Cloud Profile : Type}

def density (round : ℚ → ℚ) (core : DensityCore Cloud Profile)
    (lt : ScriptValue → ℚ → Except LuaError Bool) (cloud : Cloud) (o : Option DensityOptions) :
    Run (DensityCall Cloud) Profile :=
  let o := opts o
  match o.axisIndex with
  | none => .raise axisError
  | some axis =>
    if axis < 0 ∨ axis > 2 then .raise axisError
    else do
      let span := (tableAt (core.box cloud) (round (axis + 1))).getD 0
      let bins := o.binsArg round span
      if ← .ofExcept (lessThan lt bins 1) then .raise binsError
      else if (o.table == .nil) != (o.kind == .nil) then .raise sitesError
      else if o.table ≠ .nil then
        .call (.densityByKind cloud o.table o.kind bins axis)
          (core.densityByKind cloud o.table o.kind bins axis)
      else
        let typ := o.type.orElse (.integer 0)
        .call (.densityByType cloud typ bins axis) (core.densityByType cloud typ bins axis)

/-! What a request asks for, and what the core may be asked for. -/

inductive Direction
  | x | y | z
  deriving DecidableEq

def Direction.index : Direction → ℕ
  | x => 0
  | y => 1
  | z => 2

def Direction.name : Direction → CppString
  | x => "x".toList
  | y => "y".toList
  | z => "z".toList

/-- By its name, by its number, or by no mention at all. -/
def DensityOptions.Asks (o : DensityOptions) (d : Direction) : Prop :=
  o.axis = .string d.name ∨ o.axis.toNumber = some (d.index : ℚ) ∨ ¬o.axis.truthy ∧ d = .z

def DensityCall.axis : DensityCall Cloud → ℚ
  | densityByKind _ _ _ _ axis | densityByType _ _ _ axis => axis

def DensityCall.bins : DensityCall Cloud → ScriptValue
  | densityByKind _ _ _ bins _ | densityByType _ _ bins _ => bins

def DensityCall.SiteMode : DensityCall Cloud → Prop
  | densityByKind .. => True
  | densityByType .. => False

/-- A call that the options stand for. -/
structure Forwards (round : ℚ → ℚ) (o : DensityOptions) (box : List ℚ)
    (call : DensityCall Cloud) : Prop where
  axis : ∃ d, o.Asks d ∧ call.axis = d.index ∧
    (¬o.bins.truthy → call.bins = .integer (defaultBins round (box.getD d.index 0)))
  bins : ∃ n : ℤ, 1 ≤ n ∧ call.bins.toNumber = some (n : ℚ)
  sites : call.SiteMode ↔ o.table ≠ .nil ∧ o.kind ≠ .nil

/-- An error before any call, or one call that the options stand for. -/
def Validated (round : ℚ → ℚ) (o : DensityOptions) (box : List ℚ)
    (run : Run (DensityCall Cloud) Profile) : Prop :=
  (run.calls = [] ∧ ∃ e, run.result = .error e) ∨
    ∃ call, run.calls = [call] ∧ Forwards round o box call

/-- What the checks let through. -/
structure Accepted (lt : ScriptValue → ℚ → Except LuaError Bool) (o : DensityOptions) : Prop where
  axis : ∃ q, o.axisIndex = some q ∧ 0 ≤ q ∧ q ≤ 2
  bins : o.bins.truthy → lessThan lt o.bins 1 = .ok false
  sites : o.table = .nil ↔ o.kind = .nil

/-- The numbers among the options are whole. -/
structure Whole (o : DensityOptions) : Prop where
  axis : ∀ q, o.axis.toNumber = some q → ∃ n : ℤ, q = n
  bins : o.bins.truthy → ∃ n : ℤ, o.bins.toNumber = some (n : ℚ)

/-- The numbers of the axes stay what they are when they become keys of the box. -/
def KeepsKeys (round : ℚ → ℚ) : Prop := ∀ d : Direction, round (d.index + 1) = d.index + 1

theorem one_le_defaultBins (round : ℚ → ℚ) (span : ℚ) : 1 ≤ defaultBins round span :=
  le_max_left _ _

theorem tableAt_natCast_add_one (t : List ℚ) (n : ℕ) : tableAt t (n + 1) = t[n]? := by
  have hcast : (n : ℚ) + 1 = (n + 1 : ℕ) := by push_cast; rfl
  have hint : (((n + 1 : ℕ) : ℚ)).isInt := by simp [Rat.isInt]
  have hle : (1 : ℚ) ≤ (n + 1 : ℕ) := by exact_mod_cast Nat.le_add_left 1 n
  unfold tableAt
  rw [hcast, if_pos ⟨hint, hle⟩, Rat.num_natCast]
  congr 1
  omega

theorem axisIndices_eq_some {v : ScriptValue} {q : ℚ} :
    axisIndices v = some q ↔ ∃ d : Direction, v = .string d.name ∧ q = d.index := by
  constructor
  · intro h
    unfold axisIndices at h
    split at h
    · split_ifs at h with hx hy hz
      · cases h
        exact ⟨.x, by rw [hx]; rfl, rfl⟩
      · cases h
        exact ⟨.y, by rw [hy]; rfl, rfl⟩
      · cases h
        exact ⟨.z, by rw [hz]; rfl, rfl⟩
    · cases h
  · intro hd
    obtain ⟨d, rfl, rfl⟩ := hd
    cases d <;> rfl

/-- A whole number from 0 to 2 is the number of a direction. -/
theorem exists_direction {n : ℤ} (h0 : 0 ≤ n) (h2 : n ≤ 2) : ∃ d : Direction, n = d.index := by
  obtain rfl | rfl | rfl : n = 0 ∨ n = 1 ∨ n = 2 := by omega
  · exact ⟨.x, rfl⟩
  · exact ⟨.y, rfl⟩
  · exact ⟨.z, rfl⟩

theorem axisIndex_of_toNumber {o : DensityOptions} {q : ℚ} (h : o.axis.toNumber = some q) :
    o.axisIndex = some q := by
  unfold DensityOptions.axisIndex DensityOptions.axisArg
  rw [ScriptValue.orElse_of_truthy (ScriptValue.truthy_of_toNumber h), h]
  rfl

/-- An axis that the checks let through, and that is whole if it is a number, is asked for. -/
theorem asks_of_axisIndex {o : DensityOptions} {q : ℚ} (h : o.axisIndex = some q) (h0 : 0 ≤ q)
    (h2 : q ≤ 2) (hw : ∀ q, o.axis.toNumber = some q → ∃ n : ℤ, q = n) :
    ∃ d, o.Asks d ∧ q = d.index := by
  by_cases ht : o.axis.truthy
  · have harg : o.axisArg = o.axis := ScriptValue.orElse_of_truthy ht _
    unfold DensityOptions.axisIndex at h
    rw [harg] at h
    cases hn : o.axis.toNumber with
    | some r =>
      rw [hn] at h
      cases h
      obtain ⟨n, rfl⟩ := hw q hn
      have h0' : 0 ≤ n := by exact_mod_cast h0
      have h2' : n ≤ 2 := by exact_mod_cast h2
      obtain ⟨d, rfl⟩ := exists_direction h0' h2'
      exact ⟨d, .inr (.inl hn), Int.cast_natCast _⟩
    | none =>
      rw [hn] at h
      obtain ⟨d, hd, rfl⟩ := axisIndices_eq_some.mp h
      exact ⟨d, .inl hd, rfl⟩
  · have harg : o.axisArg = .string "z".toList := ScriptValue.orElse_of_not_truthy ht _
    unfold DensityOptions.axisIndex at h
    rw [harg] at h
    cases h
    exact ⟨.z, .inr (.inr ⟨ht, rfl⟩), rfl⟩

variable {round : ℚ → ℚ} {lt : ScriptValue → ℚ → Except LuaError Bool}

theorem binsArg_of_truthy {o : DensityOptions} (ht : o.bins.truthy) (span : ℚ) :
    o.binsArg round span = o.bins := ScriptValue.orElse_of_truthy ht _

theorem binsArg_of_not_truthy {o : DensityOptions} (ht : ¬o.bins.truthy) (span : ℚ) :
    o.binsArg round span = .integer (defaultBins round span) :=
  ScriptValue.orElse_of_not_truthy ht _

/-- The default passes the check of the bins. -/
theorem lessThan_binsArg {o : DensityOptions} {span : ℚ} :
    lessThan lt (o.binsArg round span) 1 = .ok false ↔
      (o.bins.truthy → lessThan lt o.bins 1 = .ok false) := by
  by_cases ht : o.bins.truthy
  · rw [binsArg_of_truthy ht]
    exact ⟨fun h _ => h, fun h => h ht⟩
  · rw [binsArg_of_not_truthy ht]
    constructor
    · intro _ h
      exact absurd h ht
    · intro _
      have hle : ((1 : ℤ) : ℚ) ≤ defaultBins round span :=
        Int.cast_le.mpr (one_le_defaultBins round span)
      have hlt : ¬(defaultBins round span : ℚ) < 1 := not_lt.mpr (by simpa using hle)
      simp [lessThan, ScriptValue.toNumber, hlt]

theorem not_outside_iff {q : ℚ} : ¬(q < 0 ∨ q > 2) ↔ 0 ≤ q ∧ q ≤ 2 := by
  rw [not_or, not_lt, gt_iff_lt, not_lt]

theorem sites_bne {o : DensityOptions} :
    ((o.table == .nil) != (o.kind == .nil)) = true ↔ ¬(o.table = .nil ↔ o.kind = .nil) := by
  by_cases ht : o.table = .nil <;> by_cases hk : o.kind = .nil <;> simp [ht, hk]

/-- What the checks let through makes one call, with the axis and the bins as they stand. -/
theorem density_of_accepted (core : DensityCore Cloud Profile) (cloud : Cloud)
    {o : Option DensityOptions} (h : Accepted lt (opts o)) {q : ℚ}
    (hq : (opts o).axisIndex = some q) :
    ∃ call, (density round core lt cloud o).calls = [call] ∧ call.axis = q ∧
      call.bins = (opts o).binsArg round ((tableAt (core.box cloud) (round (q + 1))).getD 0) ∧
      (call.SiteMode ↔ (opts o).table ≠ .nil) := by
  obtain ⟨r, hr, h0, h2⟩ := h.axis
  obtain rfl : q = r := Option.some.inj (hq.symm.trans hr)
  have hrange : ¬(q < 0 ∨ q > 2) := not_outside_iff.mpr ⟨h0, h2⟩
  have hsites := mt sites_bne.mp (not_not.mpr h.sites)
  unfold density
  simp only [hq, if_neg hrange, lessThan_binsArg.mpr h.bins, Run.ofExcept_ok_bind, if_neg hsites,
    Bool.false_eq_true, ↓reduceIte]
  by_cases ht : (opts o).table = .nil
  · rw [if_neg (not_not.mpr ht)]
    exact ⟨_, rfl, rfl, rfl, iff_of_false id (not_not.mpr ht)⟩
  · rw [if_pos ht]
    exact ⟨_, rfl, rfl, rfl, iff_of_true trivial ht⟩

theorem density_of_not_accepted (round : ℚ → ℚ) (core : DensityCore Cloud Profile) (cloud : Cloud)
    {o : Option DensityOptions} (h : ¬Accepted lt (opts o)) :
    (density round core lt cloud o).calls = [] ∧
      ∃ e, (density round core lt cloud o).result = .error e := by
  unfold density
  cases hidx : (opts o).axisIndex with
  | none =>
    simp only [hidx]
    exact ⟨rfl, _, rfl⟩
  | some q =>
    simp only [hidx]
    by_cases hrange : q < 0 ∨ q > 2
    · rw [if_pos hrange]
      exact ⟨rfl, _, rfl⟩
    · rw [if_neg hrange]
      let span := (tableAt (core.box cloud) (round (q + 1))).getD 0
      cases hlt : lessThan lt ((opts o).binsArg round span) 1 with
      | error e => exact ⟨rfl, e, rfl⟩
      | ok below =>
        cases below with
        | true => exact ⟨rfl, _, rfl⟩
        | false =>
          have hsites : ((opts o).table == .nil) != ((opts o).kind == .nil) := by
            apply sites_bne.mpr
            intro hsites
            exact h ⟨⟨q, hidx, not_outside_iff.mp hrange⟩, lessThan_binsArg.mp hlt, hsites⟩
          simp only [Run.ofExcept_ok_bind, Bool.false_eq_true, ↓reduceIte, if_pos hsites]
          exact ⟨rfl, _, rfl⟩

theorem whole_of_forwards {o : DensityOptions} {box : List ℚ} {call : DensityCall Cloud} {span : ℚ}
    (haxis : o.axisIndex = some call.axis) (hbins : call.bins = o.binsArg round span)
    (h : Forwards round o box call) : Whole o where
  axis q hq := by
    obtain ⟨d, -, hd, -⟩ := h.axis
    have hcall : call.axis = q := Option.some.inj (haxis.symm.trans (axisIndex_of_toNumber hq))
    exact ⟨d.index, by rw [← hcall, hd, Int.cast_natCast]⟩
  bins ht := by
    obtain ⟨n, -, hn⟩ := h.bins
    rw [hbins, binsArg_of_truthy ht] at hn
    exact ⟨n, hn⟩

/-- The bins of an accepted request with whole numbers, given or by default. -/
theorem exists_bins (round : ℚ → ℚ) {o : DensityOptions} (hacc : Accepted lt o) (hw : Whole o)
    (span : ℚ) :
    ∃ n : ℤ, 1 ≤ n ∧ (o.binsArg round span).toNumber = some (n : ℚ) := by
  by_cases ht : o.bins.truthy
  · obtain ⟨n, hn⟩ := hw.bins ht
    have hlt : lessThan lt o.bins 1 = .ok (decide ((n : ℚ) < 1)) := by
      unfold lessThan
      rw [hn]
    have hnot : ¬(n : ℚ) < 1 := of_decide_eq_false (Except.ok.inj (hlt.symm.trans (hacc.bins ht)))
    refine ⟨n, ?_, (binsArg_of_truthy ht span).symm ▸ hn⟩
    exact_mod_cast not_lt.mp hnot
  · refine ⟨defaultBins round span, one_le_defaultBins round span, ?_⟩
    rw [binsArg_of_not_truthy ht]
    rfl

theorem forwards_of_whole (hround : KeepsKeys round) {o : DensityOptions} {box : List ℚ}
    {call : DensityCall Cloud} (hacc : Accepted lt o) (hw : Whole o)
    (haxis : o.axisIndex = some call.axis)
    (hbins : call.bins = o.binsArg round ((tableAt box (round (call.axis + 1))).getD 0))
    (hmode : call.SiteMode ↔ o.table ≠ .nil) : Forwards round o box call where
  axis := by
    obtain ⟨q, hq, h0, h2⟩ := hacc.axis
    obtain rfl : q = call.axis := Option.some.inj (hq.symm.trans haxis)
    obtain ⟨d, hasks, hd⟩ := asks_of_axisIndex hq h0 h2 hw.axis
    refine ⟨d, hasks, hd, ?_⟩
    intro ht
    rw [hbins, hd, hround, tableAt_natCast_add_one, List.getD_eq_getElem?_getD]
    exact binsArg_of_not_truthy ht _
  bins := by
    rw [hbins]
    exact exists_bins round hacc hw _
  sites := by
    rw [hmode]
    constructor
    · intro ht
      exact ⟨ht, mt hacc.sites.mpr ht⟩
    · intro h
      exact h.1

/-- What `density` forwards is what was asked for exactly when the checks refuse the request or
its numbers are whole. -/
theorem density_validated_iff (core : DensityCore Cloud Profile)
    (lt : ScriptValue → ℚ → Except LuaError Bool) (cloud : Cloud) (o : Option DensityOptions) :
    Validated id (opts o) (core.box cloud) (density id core lt cloud o) ↔
      (Accepted lt (opts o) → Whole (opts o)) := by
  by_cases hacc : Accepted lt (opts o)
  · obtain ⟨_, hq, -⟩ := hacc.axis
    obtain ⟨call, hcalls, rfl, hbins, hmode⟩ := density_of_accepted core cloud hacc hq
    constructor
    · rintro (⟨hnone, -⟩ | ⟨call', hcall', hfwd⟩) -
      · rw [hcalls] at hnone
        cases hnone
      · obtain rfl : call = call' := List.singleton_inj.mp (hcalls.symm.trans hcall')
        exact whole_of_forwards hq hbins hfwd
    · intro hw
      exact .inr ⟨call, hcalls, forwards_of_whole (fun _ => rfl) hacc (hw hacc) hq hbins hmode⟩
  · constructor
    · intro _ h
      exact absurd h hacc
    · intro _
      exact .inl (density_of_not_accepted id core cloud hacc)

/-- A core that answers every call. -/
def slabCore : DensityCore (List ℚ) Unit where
  box := id
  densityByKind _ _ _ _ _ := .ok ()
  densityByType _ _ _ _ := .ok ()

def slabRun : Run (DensityCall (List ℚ)) Unit :=
  density id slabCore (fun _ _ => .error binsError) [10, 10, 30] (some { axis := .float (1 / 2) })

/-- Half an axis passes the checks, and no side of the box gives its bins. -/
theorem slab_half_axis :
    slabRun.calls = [.densityByType [10, 10, 30] (.integer 0) (.integer 1) (1 / 2)] ∧
      ¬Validated id { axis := .float (1 / 2) } [10, 10, 30] slabRun := by
  have hcalls : slabRun.calls = [.densityByType [10, 10, 30] (.integer 0) (.integer 1) (1 / 2)] := by
    decide +kernel
  refine ⟨hcalls, ?_⟩
  rintro (⟨hnone, -⟩ | ⟨call, hcall, hfwd⟩)
  · rw [hcalls] at hnone
    cases hnone
  · obtain rfl := List.singleton_inj.mp (hcalls.symm.trans hcall)
    obtain ⟨d, -, hd, -⟩ := hfwd.axis
    revert hd
    cases d <;> decide +kernel

end YodaStruct.Dseams
