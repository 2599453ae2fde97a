import YodaStruct.Driver.Globals
import YodaStruct.Library.Writes
import Mathlib.Tactic.NormNum

/-! The `prismAnalysis` binding and the frame loop of the quasi-one-dimensional scripts. The
engine is a parameter; sol hands the binding its arguments. -/
namespace YodaStruct.Binding
open YodaStruct.Config YodaStruct.Driver Writes

/-! Integer arguments. -/

/-- A `static_cast` to `int`. -/
def toInt (n : ℤ) : ℤ := n.bmod (2 ^ 32)

/-- Half-way cases go away from zero. -/
def llround (x : ℚ) : ℤ := if 0 ≤ x then ⌊x + 1 / 2⌋ else -⌊-x + 1 / 2⌋

/-- What a value is as a number; `stringNumber` is how Lua reads a string as one. -/
def luaToNumber (stringNumber : CppString → Option ℚ) : LuaValue → ℚ
  | .plain (.integer n) => n
  | .plain (.float x) => x
  | .plain (.string s) => (stringNumber s).getD 0
  | _ => 0

/-- An argument that is no integer is refused, with its position. -/
inductive LuaError
  | notANumber (argument : ℕ)
  deriving DecidableEq

/-- How sol makes an `int` parameter of an argument. A build without its argument checks
takes whatever `lua_tonumber` gives. -/
def intArgument (checked : Bool) (stringNumber : CppString → Option ℚ) (argument : ℕ) :
    LuaValue → Except LuaError ℤ
  | .plain (.integer n) => .ok (toInt n)
  | v =>
    if checked then .error (.notANumber argument)
    else .ok (toInt (llround (luaToNumber stringNumber v)))

/-! The binding. -/

section Prism
variable {Cloud : Type*}

/-- The arguments of `prismAnalysis` but `atomID`. -/
structure PrismArgs (Cloud : Type*) where
  path : CppString
  rings : List (List ℤ)
  nList : List (List ℤ)
  cloud : Cloud
  maxDepth : ℤ
  firstFrame : ℤ
  currentFrame : ℤ
  doShapeMatching : Bool

/-- What `ring::prismAnalysis` returns, and what it leaves in its in/out arguments. -/
structure PrismReturn (Cloud : Type*) where
  value : ℤ
  cloud : Cloud
  atomID : ℤ

abbrev PrismEngine (Cloud : Type*) := PrismArgs Cloud → ℤ → PrismReturn Cloud

/-- On the first frame the engine stores the lowest atom ID in `atomID`; on every later
frame it reads the ID there. -/
structure PrismEngine.UsesAtomID (engine : PrismEngine Cloud) (lowest : PrismArgs Cloud → ℤ) :
    Prop where
  first : ∀ args id, args.currentFrame = args.firstFrame → (engine args id).atomID = lowest args
  later : ∀ args id, args.currentFrame ≠ args.firstFrame → (engine args id).atomID = id

/-- `luaApi::prismAnalysis`. Its `atomID` is a copy, which ends with the call. -/
def prismAnalysis (engine : PrismEngine Cloud) (args : PrismArgs Cloud) (atomID : ℤ) :
    ℤ × Cloud :=
  let ret := engine args atomID
  (ret.value, ret.cloud)

/-! The frame loop. -/

/-- What the engine finds in `atomID` and what it leaves there. -/
structure EngineCall where
  currentFrame : ℤ
  read : ℤ
  stored : ℤ
  deriving DecidableEq

structure FrameLoop where
  /-- The `int` objects of `main`. -/
  memory : Object → ℤ
  calls : List EngineCall
  /-- What the calls returned to the script. -/
  values : List ℤ

section Loop
variable (checked : Bool) (stringNumber : CppString → Option ℚ) (engine : PrismEngine Cloud)
  (globals : Globals)

/-- One `prismAnalysis(.., lowestAtomID, ..)` of the script. -/
def callPrismAnalysis (st : FrameLoop) (args : PrismArgs Cloud) : Except LuaError FrameLoop := do
  let atomID ← intArgument checked stringNumber 6 (globals .lowestAtomID)
  let ret := prismAnalysis engine args atomID
  pure
    { st with
      calls := st.calls ++ [⟨args.currentFrame, atomID, (engine args atomID).atomID⟩]
      values := st.values ++ [ret.1] }

/-- The loop over the frames, from the `int atomID = 0` of the driver. -/
def frameLoop (frames : List (PrismArgs Cloud)) : Except LuaError FrameLoop :=
  frames.foldlM (callPrismAnalysis checked stringNumber engine globals) ⟨fun _ => 0, [], []⟩

end Loop

/-- The loop ends, every later call finds what the first one stored, and so does the driver
when the loop is over. -/
def KeepsFirstFrameID (run : Except LuaError FrameLoop) : Prop :=
  ∃ st, run = .ok st ∧ ∀ first later, st.calls = first :: later →
    (∀ c ∈ later, c.read = first.stored) ∧ st.memory ⟨.topoOneDim, .atomID⟩ = first.stored

/-- The globals of the function script of the quasi-one-dimensional block. -/
def oneDimGlobals (cfg : LuaConfig) (globals : Globals) : Globals :=
  writeAll globals (bindings cfg .topoOneDim)

theorem oneDimGlobals_lowestAtomID (cfg : LuaConfig) (globals : Globals) :
    oneDimGlobals cfg globals .lowestAtomID = .pointer ⟨.topoOneDim, .atomID⟩ := by
  have hm : (Global.lowestAtomID, LuaValue.pointer ⟨.topoOneDim, .atomID⟩) ∈
      bindings cfg .topoOneDim := by simp [bindings]
  exact writeAll_of_mem (bindings_nodup cfg .topoOneDim) hm

theorem intArgument_pointer (checked : Bool) (stringNumber : CppString → Option ℚ)
    (argument : ℕ) (o : Object) :
    intArgument checked stringNumber argument (.pointer o) =
      if checked then .error (.notANumber argument) else .ok 0 := by
  have hzero : toInt (llround (luaToNumber stringNumber (.pointer o))) = 0 := by
    have hround : llround 0 = 0 := by
      unfold llround
      norm_num
    unfold luaToNumber
    rw [hround]
    decide
  have hint : intArgument checked stringNumber argument (.pointer o) =
      if checked then .error (.notANumber argument)
      else .ok (toInt (llround (luaToNumber stringNumber (.pointer o)))) := rfl
  rw [hint, hzero]

section Run
variable (stringNumber : CppString → Option ℚ) (engine : PrismEngine Cloud) (cfg : LuaConfig)
  (globals : Globals)

/-- Without argument checks, every call of the loop gets a fresh zero. -/
theorem foldlM_unchecked (frames : List (PrismArgs Cloud)) (st : FrameLoop) :
    frames.foldlM (callPrismAnalysis false stringNumber engine (oneDimGlobals cfg globals)) st =
      .ok
        { memory := st.memory
          calls := st.calls ++
            frames.map fun args => ⟨args.currentFrame, 0, (engine args 0).atomID⟩
          values := st.values ++ frames.map fun args => (engine args 0).value } := by
  induction frames generalizing st with
  | nil => simp [pure, Except.pure]
  | cons args frames ih =>
    have hcall : callPrismAnalysis false stringNumber engine (oneDimGlobals cfg globals) st args =
        .ok
          { memory := st.memory
            calls := st.calls ++ [⟨args.currentFrame, 0, (engine args 0).atomID⟩]
            values := st.values ++ [(engine args 0).value] } := by
      unfold callPrismAnalysis
      rw [oneDimGlobals_lowestAtomID, intArgument_pointer]
      rfl
    rw [List.foldlM_cons, hcall]
    refine (ih _).trans ?_
    simp

/-- With argument checks, the first call raises an error. -/
theorem frameLoop_checked (args : PrismArgs Cloud) (frames : List (PrismArgs Cloud)) :
    frameLoop true stringNumber engine (oneDimGlobals cfg globals) (args :: frames) =
      .error (.notANumber 6) := by
  unfold frameLoop
  have hcall : ∀ st,
      callPrismAnalysis true stringNumber engine (oneDimGlobals cfg globals) st args =
        .error (.notANumber 6) := by
    intro st
    unfold callPrismAnalysis
    rw [oneDimGlobals_lowestAtomID, intArgument_pointer]
    rfl
  rw [List.foldlM_cons, hcall]
  rfl

end Run

/-- The first-frame ID survives the loop exactly when there is nothing to keep: no frame, or
an ID that is the zero every call gets. -/
theorem keepsFirstFrameID_iff (checked : Bool) (stringNumber : CppString → Option ℚ)
    {engine : PrismEngine Cloud} {lowest : PrismArgs Cloud → ℤ}
    (hengine : engine.UsesAtomID lowest) (cfg : LuaConfig) (globals : Globals)
    {frames : List (PrismArgs Cloud)}
    (hfirst : ∀ args ∈ frames.head?, args.currentFrame = args.firstFrame) :
    KeepsFirstFrameID (frameLoop checked stringNumber engine (oneDimGlobals cfg globals) frames) ↔
      ∀ args ∈ frames.head?, checked = false ∧ lowest args = 0 := by
  cases frames with
  | nil =>
    have hrun : KeepsFirstFrameID
        (frameLoop checked stringNumber engine (oneDimGlobals cfg globals) []) :=
      ⟨_, rfl, fun first later h => by cases h⟩
    simp [hrun]
  | cons args frames =>
    have hstored : (engine args 0).atomID = lowest args := hengine.first args 0 (hfirst args rfl)
    cases checked with
    | true =>
      rw [frameLoop_checked]
      constructor
      · rintro ⟨st, hst, -⟩
        cases hst
      · intro h
        cases (h args rfl).1
    | false =>
      unfold frameLoop
      rw [foldlM_unchecked]
      constructor
      · rintro ⟨st, hst, hkeeps⟩ a ha
        obtain rfl : args = a := Option.some.inj ha
        obtain rfl := Except.ok.inj hst
        obtain ⟨-, hmem⟩ := hkeeps _ _ rfl
        exact ⟨rfl, hstored.symm.trans hmem.symm⟩
      · intro h
        have hzero : (engine args 0).atomID = 0 := hstored.trans (h args rfl).2
        refine ⟨_, rfl, ?_⟩
        intro first later hcalls
        obtain ⟨rfl, rfl⟩ := List.cons.inj hcalls
        constructor
        · intro c hc
          obtain ⟨a, -, rfl⟩ := List.mem_map.mp hc
          exact hzero.symm
        · exact hzero.symm

end Prism

/-! Two frames of a cloud that is no more than its atom IDs. -/

def idEngine : PrismEngine (List ℤ) := fun args id =>
  if args.currentFrame = args.firstFrame then ⟨0, args.cloud, args.cloud.min?.getD 0⟩
  else ⟨0, args.cloud, id⟩

def frame (ids : List ℤ) (currentFrame : ℤ) : PrismArgs (List ℤ) where
  path := "runOne/".toList
  rings := []
  nList := []
  cloud := ids
  maxDepth := 6
  firstFrame := 1
  currentFrame := currentFrame
  doShapeMatching := false

theorem idEngine_usesAtomID : idEngine.UsesAtomID fun args => args.cloud.min?.getD 0 where
  first := fun args id h => by simp [idEngine, h]
  later := fun args id h => by simp [idEngine, h]

theorem keepsFirstFrameID_zero :
    KeepsFirstFrameID (frameLoop false (fun _ => none) idEngine
      (oneDimGlobals { topoOneDim := true } fun _ => .plain .nil)
      [frame [2, 0, 5] 1, frame [2, 0, 5] 2]) :=
  (keepsFirstFrameID_iff false (fun _ => none) idEngine_usesAtomID _ _ (by decide)).mpr
    (by decide)

/-- Lowest ID 3 on the first frame: the driver's object and the second call have 0. -/
theorem not_keepsFirstFrameID_three :
    idEngine.UsesAtomID (fun args => args.cloud.min?.getD 0) ∧
      ∀ checked, ¬ KeepsFirstFrameID (frameLoop checked (fun _ => none) idEngine
        (oneDimGlobals { topoOneDim := true } fun _ => .plain .nil)
        [frame [4, 3, 5] 1, frame [4, 3, 5] 2]) := by
  refine ⟨idEngine_usesAtomID, ?_⟩
  rintro checked ⟨st, hst, hkeeps⟩
  cases checked with
  | true =>
    rw [frameLoop_checked] at hst
    cases hst
  | false =>
    unfold frameLoop at hst
    rw [foldlM_unchecked] at hst
    obtain rfl := Except.ok.inj hst
    obtain ⟨-, hmem⟩ := hkeeps _ _ rfl
    exact absurd hmem (by decide)

end YodaStruct.Binding
