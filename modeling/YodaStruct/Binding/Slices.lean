import YodaStruct.Binding.Keys
import YodaStruct.Binding.Rules

/-! The bindings that read or select a slice of the box. The corners of the slice are arrays of
three numbers, which the readers may do without. -/
namespace YodaStruct.Binding
open YodaStruct.Config YodaStruct.Driver LuaTable Simulation

/-- `std::array<double, 3>`. A component that nothing was written to is `none`. -/
abbrev Corner := Fin 3 → Option ℚ

def kZeroBounds : Corner := fun _ => some 0

structure SliceEngine (σ Cloud : Type) where
  readLammpsTrjO (filename : CppString) (targetFrame typeO : Int32) (isSlice : Bool)
    (coordLow coordHigh : Corner) : Prog σ CallError Cloud
  readLammpsTrjreduced (filename : CppString) (targetFrame typeI : Int32) (isSlice : Bool)
    (coordLow coordHigh : Corner) : Prog σ CallError Cloud
  getPointCloudOneAtomType (yCloud outCloud : Cloud) (atomTypeI : Int32) (isSlice : Bool)
    (coordLow coordHigh : Corner) : Prog σ CallError Cloud
  moleculesInSingleSlice (yCloud : Cloud) (clearPreviousSliceSelection : Bool)
    (coordLow coordHigh : Corner) : Prog σ CallError Unit

/-- The first three numbers. -/
def corner (numbers : List ℚ) : Corner := fun i => numbers[i.val]?

/-- By value: the loop over the table ends when the array is full. -/
def getCorner (stringNumber : CppString → Option ℚ) (h : LuaHeap) (v : ScriptValue) :
    Except CallError Corner := do
  pure (corner ((← getArray h v).map (getNumber stringNumber)))

/-- The same without Lua. -/
def Data.corner (stringNumber : CppString → Option ℚ) (d : Data) : Except CallError Corner := do
  pure (Binding.corner ((← d.elements).map fun x => getNumber stringNumber x.scalarValue))

section Bindings
variable {σ Cloud : Type} (lua : Interpreter) (engine : SliceEngine σ Cloud)
  (userdata : ℕ → Option Corner)

/-- `readLammpsTrjO` and `readLammpsTrjreduced`. -/
def readSlice (read : CppString → Int32 → Int32 → Bool → Corner → Corner → Prog σ CallError Cloud)
    (filename : CppString) (targetFrame type isSlice low high : ScriptValue) : Script σ Cloud := do
  let low ← takeOptional (getCorner lua.stringNumber) userdata low
  let high ← takeOptional (getCorner lua.stringNumber) userdata high
  Prog.lift (read filename (getInt lua.stringNumber targetFrame) (getInt lua.stringNumber type)
    ((optionalBool isSlice).getD false) (low.getD kZeroBounds) (high.getD kZeroBounds))

def readLammpsTrjO :
    CppString → ScriptValue → ScriptValue → ScriptValue → ScriptValue → ScriptValue →
      Script σ Cloud := readSlice lua userdata engine.readLammpsTrjO

def readLammpsTrjreduced :
    CppString → ScriptValue → ScriptValue → ScriptValue → ScriptValue → ScriptValue →
      Script σ Cloud := readSlice lua userdata engine.readLammpsTrjreduced

def takeCorner (v : ScriptValue) : Script σ Corner :=
  Prog.look fun h => getCorner lua.stringNumber h v

def getPointCloudAtomsOfOneAtomType (yCloud outCloud : Cloud)
    (atomTypeI isSlice coordLow coordHigh : ScriptValue) : Script σ Cloud := do
  let coordLow ← takeCorner lua coordLow
  let coordHigh ← takeCorner lua coordHigh
  Prog.lift (engine.getPointCloudOneAtomType yCloud outCloud (getInt lua.stringNumber atomTypeI)
    isSlice.truthy coordLow coordHigh)

def selectInSingleSlice (yCloud : Cloud)
    (clearPreviousSliceSelection coordLow coordHigh : ScriptValue) : Script σ Unit := do
  let coordLow ← takeCorner lua coordLow
  let coordHigh ← takeCorner lua coordHigh
  Prog.lift (engine.moleculesInSingleSlice yCloud clearPreviousSliceSelection.truthy coordLow
    coordHigh)

end Bindings

section Results
variable {σ Cloud : Type} {lua : Interpreter} {h : LuaHeap} {p q : ℕ → Prop}
  {v low high : ScriptValue} {d dLow dHigh : Data}

theorem StandsIn.getCorner_eq (hs : StandsIn h p v d) :
    getCorner lua.stringNumber h v = d.corner lua.stringNumber := by
  have hnumber : ∀ u x, StandsIn h p u x →
      getNumber lua.stringNumber u = getNumber lua.stringNumber x.scalarValue := by
    intro u x hu
    have hsome := hu.scalarValue_eq (f := fun v => some (getNumber lua.stringNumber v))
      fun _ => rfl
    exact Option.some.inj hsome
  apply Matches.eq
  apply hs.getArray_matches.bind
  intro vs ds hvs
  apply Matches.ok
  congr 1
  induction hvs with
  | nil => rfl
  | cons hv _ ih => rw [List.map_cons, List.map_cons, hnumber _ _ hv, ih]

/-- The result of the engine, and no change of the tables. -/
def Same {α : Type} (h : LuaHeap) : LuaHeap → α → α → Prop := fun h' a b => h' = h ∧ a = b

theorem simulates_readSlice
    (read : CppString → Int32 → Int32 → Bool → Corner → Corner → Prog σ CallError Cloud)
    (userdata : ℕ → Option Corner) (filename : CppString) (targetFrame type isSlice : ScriptValue)
    (hlow : StandsIn h p low dLow) (hhigh : StandsIn h q high dHigh) :
    Simulates h (fun _ => readSlice lua userdata read filename targetFrame type isSlice low high)
      (do
        let low ← StateT.lift (dLow.optional (Data.corner lua.stringNumber))
        let high ← StateT.lift (dHigh.optional (Data.corner lua.stringNumber))
        read filename (getInt lua.stringNumber targetFrame) (getInt lua.stringNumber type)
          ((optionalBool isSlice).getD false) (low.getD kZeroBounds) (high.getD kZeroBounds))
      (Same h) := by
  apply takeOptional_bind userdata hlow hlow.getCorner_eq
  intro coordLow
  apply takeOptional_bind userdata hhigh hhigh.getCorner_eq
  intro coordHigh
  exact Simulates.lift h _

theorem takeCorner_bind (hs : StandsIn h p v d) {α β : Type} {f : Corner → Script σ α}
    {g : Corner → Prog σ CallError β} {post : LuaHeap → α → β → Prop}
    (hf : ∀ c, Simulates h (fun _ => f c) (g c) post) :
    Simulates h (fun _ => takeCorner lua v >>= f)
      (StateT.lift (d.corner lua.stringNumber) >>= g) post := by
  apply Simulates.look_bind (fun h => getCorner lua.stringNumber h v)
    (matches_of_eq hs.getCorner_eq)
  rintro c _ rfl
  exact hf c

/-- The corners that a script gives as tables go to the readers and to the selections as they are.
A reader that is given none has the corners at zero. -/
theorem slice_corners (lua : Interpreter) (engine : SliceEngine σ Cloud)
    (userdata : ℕ → Option Corner) (filename : CppString) (yCloud outCloud : Cloud)
    (frame type flag : ScriptValue) (hlow : StandsIn h p low dLow)
    (hhigh : StandsIn h q high dHigh) :
    Simulates h (fun _ => readLammpsTrjO lua engine userdata filename frame type flag low high)
      (do
        let coordLow ← StateT.lift (dLow.optional (Data.corner lua.stringNumber))
        let coordHigh ← StateT.lift (dHigh.optional (Data.corner lua.stringNumber))
        engine.readLammpsTrjO filename (getInt lua.stringNumber frame)
          (getInt lua.stringNumber type) ((optionalBool flag).getD false)
          (coordLow.getD kZeroBounds) (coordHigh.getD kZeroBounds))
      (Same h) ∧
    Simulates h
      (fun _ => readLammpsTrjreduced lua engine userdata filename frame type flag low high)
      (do
        let coordLow ← StateT.lift (dLow.optional (Data.corner lua.stringNumber))
        let coordHigh ← StateT.lift (dHigh.optional (Data.corner lua.stringNumber))
        engine.readLammpsTrjreduced filename (getInt lua.stringNumber frame)
          (getInt lua.stringNumber type) ((optionalBool flag).getD false)
          (coordLow.getD kZeroBounds) (coordHigh.getD kZeroBounds))
      (Same h) ∧
    Simulates h
      (fun _ => getPointCloudAtomsOfOneAtomType lua engine yCloud outCloud type flag low high)
      (do
        let coordLow ← StateT.lift (dLow.corner lua.stringNumber)
        let coordHigh ← StateT.lift (dHigh.corner lua.stringNumber)
        engine.getPointCloudOneAtomType yCloud outCloud (getInt lua.stringNumber type) flag.truthy
          coordLow coordHigh)
      (Same h) ∧
    Simulates h (fun _ => selectInSingleSlice lua engine yCloud flag low high)
      (do
        let coordLow ← StateT.lift (dLow.corner lua.stringNumber)
        let coordHigh ← StateT.lift (dHigh.corner lua.stringNumber)
        engine.moleculesInSingleSlice yCloud flag.truthy coordLow coordHigh)
      (Same h) := by
  refine ⟨?_, ?_, ?_, ?_⟩
  · exact simulates_readSlice engine.readLammpsTrjO userdata filename frame type flag hlow hhigh
  · exact simulates_readSlice engine.readLammpsTrjreduced userdata filename frame type flag hlow
      hhigh
  · apply takeCorner_bind hlow
    intro coordLow
    apply takeCorner_bind hhigh
    intro coordHigh
    exact Simulates.lift h _
  · apply takeCorner_bind hlow
    intro coordLow
    apply takeCorner_bind hhigh
    intro coordHigh
    exact Simulates.lift h _

/-- Whole numbers below `2 ^ 53` are the bounds that they are. -/
theorem Data.corner_integers (stringNumber : CppString → Option ℚ) (numbers : List ℤ)
    (hsmall : ∀ n ∈ numbers, |n| < 2 ^ 53) :
    (Data.list (numbers.map .integer)).corner stringNumber =
      .ok (Binding.corner (numbers.map (↑))) := by
  have helements : (Data.list (numbers.map .integer)).elements =
      .ok (numbers.map fun n => .scalar (.integer n)) :=
    congrArg Except.ok (List.map_map)
  have hnumbers : (numbers.map fun n => getNumber stringNumber (.integer n)) =
      numbers.map (↑) :=
    List.map_congr_left fun n hn => Binary64.toDouble_intCast (hsmall n hn)
  unfold Data.corner
  rw [helements]
  change Except.ok (Binding.corner (List.map _ (List.map _ numbers))) = _
  rw [List.map_map]
  exact congrArg (fun xs => Except.ok (Binding.corner xs)) hnumbers

end Results

/-! A slice from 0 to 50 in one direction, and an engine that hands back the corners it gets. -/

def cornerEngine : SliceEngine Unit (Corner × Corner) where
  readLammpsTrjO _ _ _ _ coordLow coordHigh := pure (coordLow, coordHigh)
  readLammpsTrjreduced _ _ _ _ coordLow coordHigh := pure (coordLow, coordHigh)
  getPointCloudOneAtomType _ _ _ _ coordLow coordHigh := pure (coordLow, coordHigh)
  moleculesInSingleSlice _ _ _ _ := pure ()

def lowPushed : ScriptValue × LuaHeap :=
  (Data.list [.integer 0, .integer 0, .integer 0]).push ⟨fun _ => none, 0⟩

def highPushed : ScriptValue × LuaHeap :=
  (Data.list [.integer 50, .integer 0, .integer 0]).push lowPushed.2

theorem slice_corners_fifty :
    Simulates highPushed.2
      (fun _ => readLammpsTrjO plainLua cornerEngine (fun _ => none) "water.lammpstrj".toList
        (.integer 1) (.integer 2) (.boolean true) lowPushed.1 highPushed.1)
      (pure (corner [0, 0, 0], corner [50, 0, 0])) (Same highPushed.2) ∧
    Simulates highPushed.2
      (fun _ => getPointCloudAtomsOfOneAtomType plainLua cornerEngine (kZeroBounds, kZeroBounds)
        (kZeroBounds, kZeroBounds) (.integer 2) (.boolean true) lowPushed.1 highPushed.1)
      (pure (corner [0, 0, 0], corner [50, 0, 0])) (Same highPushed.2) := by
  have hlow : StandsIn highPushed.2 (fun i => 0 ≤ i ∧ i < highPushed.2.next) lowPushed.1
      (.list [.integer 0, .integer 0, .integer 0]) :=
    ((fresh_push _ _).extend (extends_push lowPushed.2 _)).2
  have hboth := slice_corners plainLua cornerEngine (fun _ => none) "water.lammpstrj".toList
    (kZeroBounds, kZeroBounds) (kZeroBounds, kZeroBounds) (.integer 1) (.integer 2) (.boolean true)
    hlow (standsIn_push lowPushed.2 (.list [.integer 50, .integer 0, .integer 0]))
  obtain ⟨hread, -, hselect, -⟩ := hboth
  have hzero := Data.corner_integers plainLua.stringNumber [0, 0, 0] (by decide)
  have hfifty := Data.corner_integers plainLua.stringNumber [50, 0, 0] (by decide)
  simp only [List.map_cons, List.map_nil, Int.cast_zero, Int.cast_ofNat] at hzero hfifty
  constructor
  · simp only [Data.optional, hzero, hfifty] at hread
    exact hread
  · simp only [hzero, hfifty] at hselect
    exact hselect

end YodaStruct.Binding
