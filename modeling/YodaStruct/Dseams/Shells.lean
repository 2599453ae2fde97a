import YodaStruct.Binding.Descriptors
import YodaStruct.Dseams.Lua
import YodaStruct.Library.Binary64

/-! What is around an atom, from the options of a request to what it gets: radial distributions
and coordination numbers, guests in cages, and ions among ice. -/
namespace YodaStruct.Dseams
open YodaStruct.Config YodaStruct.Driver YodaStruct.Binding Simulation

structure ShellOptions where
  cutoff : ScriptValue := .nil
  bins : ScriptValue := .nil
  typeI : ScriptValue := .nil
  typeJ : ScriptValue := .nil
  radius : ScriptValue := .nil
  type : ScriptValue := .nil

instance : Inhabited ShellOptions := ⟨{}⟩

/-- How many full widths there are, in doubles. -/
def fullWidths (rmax width : ℚ) : ℤ :=
  ⌊Binary64.toDouble (Binary64.toDouble rmax / Binary64.toDouble width)⌋

section Requests
variable {σ Cloud : Type} (lua : Interpreter) (engine : DescriptorEngine σ Cloud)
  (quotient : ScriptValue → ℚ → Except CallError ℤ)

/-- `math.floor(rmax / width)`. What is not a number is divided by a metamethod, or not at all. -/
def floorQuotient (rmax : ScriptValue) (width : ℚ) : Except CallError ℤ :=
  match rmax.toNumber with
  | some q => pure (fullWidths q width)
  | none => quotient rmax width

/-- `o.bins or math.max(1, math.floor(rmax / width))`. -/
def ShellOptions.binsFor (o : ShellOptions) (rmax : ScriptValue) (width : ℚ) :
    Except CallError ScriptValue :=
  if o.bins.truthy then pure o.bins else do
    pure (.integer (max 1 (← floorQuotient quotient rmax width)))

def cn (cloud : Cloud) (o : Option ShellOptions) : Script σ ScriptValue := do
  let o := opts o
  let rmax := o.cutoff.orElse (.float (45 / 10))
  let bins ← StateT.lift (o.binsFor quotient rmax (1 / 10))
  calcCN lua engine cloud (o.typeI.orElse (.integer 1)) (o.typeJ.orElse (.integer 2)) rmax bins rmax

def rdf (cloud : Cloud) (o : Option ShellOptions) : Script σ ScriptValue := do
  let o := opts o
  let rmax := o.cutoff.orElse (.float 12)
  let bins ← StateT.lift (o.binsFor quotient rmax (1 / 20))
  calcRDF3D lua engine cloud (o.typeI.orElse (.integer 1)) (o.typeJ.orElse (.integer 2)) rmax bins

def runningCN (cloud : Cloud) (o : Option ShellOptions) : Script σ ScriptValue := do
  let o := opts o
  let rmax := o.cutoff.orElse (.float 12)
  let bins ← StateT.lift (o.binsFor quotient rmax (1 / 20))
  calcRunningCN lua engine cloud (o.typeI.orElse (.integer 1)) (o.typeJ.orElse (.integer 2)) rmax
    bins

def guestOccupancy (cloud : Cloud) (cages guests : ScriptValue) (o : Option ShellOptions) :
    Script σ ScriptValue :=
  Binding.guestOccupancy lua engine cloud cages guests ((opts o).radius.orElse (.float 4))

def ionEnvironment (cloud : Cloud) (ice ions : ScriptValue) (o : Option ShellOptions) :
    Script σ ScriptValue :=
  let o := opts o
  Binding.ionEnvironment lua engine cloud ice ions (o.type.orElse (.integer 1))
    (o.cutoff.orElse (.float (35 / 10)))

end Requests

/-! What the engine computes for a request. -/

section Meaning
variable {σ Cloud : Type} (lua : Interpreter) (engine : DescriptorEngine σ Cloud)
  (quotient : ScriptValue → ℚ → Except CallError ℤ) (cloud : Cloud) (o : ShellOptions)

/-- How far the shells go. -/
def ShellOptions.reach (cutoff : ℚ) : ℚ :=
  getNumber lua.stringNumber (o.cutoff.orElse (.float cutoff))

/-- How many bins there are: as many as the options say, or one for each full width and at least
one, as an `int`. -/
def ShellOptions.nbins (cutoff width : ℚ) : Except CallError Int32 :=
  if o.bins.truthy then pure (getInt lua.stringNumber o.bins) else do
    pure (.ofInt (max 1 (← floorQuotient quotient (o.cutoff.orElse (.float cutoff)) width)))

/-- The histogram of the distances between two types. -/
def histogram (cutoff width : ℚ) : Prog σ CallError PartialRdf := do
  let nbins ← StateT.lift (o.nbins lua quotient cutoff width)
  engine.partialRdf cloud (getInt lua.stringNumber (o.typeI.orElse (.integer 1)))
    (getInt lua.stringNumber (o.typeJ.orElse (.integer 2))) (o.reach lua cutoff) nbins

end Meaning

section Answers
variable {σ Cloud : Type} (lua : Interpreter) (engine : DescriptorEngine σ Cloud)
  (quotient : ScriptValue → ℚ → Except CallError ℤ) (h : LuaHeap) (cloud : Cloud)
  (o : Option ShellOptions)

/-- The integral ends at the outer radius, also where that is no number. -/
theorem optionalNumber_getD_getNumber (stringNumber : CppString → Option ℚ) (v : ScriptValue) :
    (optionalNumber v).getD (getNumber stringNumber v) = getNumber stringNumber v := by
  cases v <;> rfl

/-- A number of bins that the options give or the front end works out goes to the engine before
anything else is done. -/
theorem simulates_bins {o : ShellOptions} (cutoff width : ℚ) {α β : Type}
    {f : ScriptValue → Script σ α} {g : Int32 → Prog σ CallError β} {post : LuaHeap → α → β → Prop}
    (hf : ∀ bins, Simulates h (fun _ => f bins) (g (getInt lua.stringNumber bins)) post) :
    Simulates h
      (fun _ => StateT.lift (o.binsFor quotient (o.cutoff.orElse (.float cutoff)) width) >>= f)
      (StateT.lift (o.nbins lua quotient cutoff width) >>= g) post := by
  unfold ShellOptions.binsFor ShellOptions.nbins
  by_cases hb : o.bins.truthy
  · simp only [if_pos hb]
    exact hf o.bins
  · simp only [if_neg hb]
    cases hq : floorQuotient quotient (o.cutoff.orElse (.float cutoff)) width with
    | error e => exact Simulates.throw h e
    | ok n => exact hf (.integer (max 1 n))

/-- Where the options leave the bins out, the widths are counted in a cutoff that is a number. -/
theorem nbins_of_toNumber {o : ShellOptions} (hbins : ¬o.bins.truthy) {cutoff width q : ℚ}
    (hq : (o.cutoff.orElse (.float cutoff)).toNumber = some q)
    (hlt : fullWidths q width < 2 ^ 31) :
    ∃ nbins, o.nbins lua quotient cutoff width = .ok nbins ∧
      nbins.toInt = max 1 (fullWidths q width) := by
  refine ⟨.ofInt (max 1 (fullWidths q width)), ?_, ?_⟩
  · unfold ShellOptions.nbins floorQuotient
    rw [if_neg hbins, hq]
    rfl
  · exact Int32.toInt_ofInt_of_le (by omega) (by omega)

/-- `rdf`, `running_cn` and `cn` of the same options work on the same histogram but for the
defaults: its radii and values, its running numbers at these radii, and its number of neighbours
within the outer radius. Where the bins cannot be worked out, nothing is computed. Where they are
left out and the cutoff is a number, there is one for each full width, and at least one. -/
theorem distributions_simulate :
    Simulates h (fun _ => rdf lua engine quotient cloud o)
      (histogram lua engine quotient cloud (opts o) 12 (1 / 20))
      (fun h' v gr => Fresh h h' v (.record gr.record)) ∧
    Simulates h (fun _ => runningCN lua engine quotient cloud o)
      (do
        let gr ← histogram lua engine quotient cloud (opts o) 12 (1 / 20)
        pure (gr, ← engine.runningCN gr gr.rhoJ))
      (fun h' v running => Fresh h h' v (.record (runningRecord running.1 running.2))) ∧
    Simulates h (fun _ => cn lua engine quotient cloud o)
      (do
        let gr ← histogram lua engine quotient cloud (opts o) (45 / 10) (1 / 10)
        engine.coordinationNumber gr ((opts o).reach lua (45 / 10)) gr.rhoJ)
      (fun h' v n => h' = h ∧ v = .float n) ∧
    (¬(opts o).bins.truthy → ∀ cutoff width q : ℚ,
      ((opts o).cutoff.orElse (.float cutoff)).toNumber = some q → fullWidths q width < 2 ^ 31 →
      ∃ nbins, (opts o).nbins lua quotient cutoff width = .ok nbins ∧
        nbins.toInt = max 1 (fullWidths q width)) := by
  refine ⟨?_, ?_, ?_, ?_⟩
  · apply simulates_bins
    intro bins
    exact simulates_give _ fun gr : PartialRdf => .record gr.record
  · unfold histogram
    rw [bind_assoc]
    apply simulates_bins
    intro bins
    apply Simulates.lift_bind
    intro gr
    apply Simulates.lift_bind
    intro running
    exact simulates_push (fun r : PartialRdf × List ℚ => .record (runningRecord r.1 r.2))
      (gr, running)
  · unfold histogram
    rw [bind_assoc]
    apply simulates_bins
    intro bins
    unfold calcCN
    simp only [optionalNumber_getD_getNumber]
    apply Simulates.lift_bind
    intro gr
    exact simulates_scalar _ Scalar.float
  · intro hbins cutoff width q hq hlt
    exact nbins_of_toNumber lua quotient hbins hq hlt

variable {h} {p q : ℕ → Prop} {first second : ScriptValue} {dFirst dSecond : Data}

/-- Guests are placed in the cages, and ions read against the flags, that the lists stand for. -/
theorem guests_simulate (hfirst : StandsIn h p first dFirst)
    (hsecond : StandsIn h q second dSecond) :
    Simulates h (fun _ => guestOccupancy lua engine cloud first second o)
      (do
        let cages ← StateT.lift (dFirst.rows lua.stringNumber)
        let guests ← StateT.lift (dSecond.ints lua.stringNumber)
        engine.guestOccupancy cloud cages guests
          (getNumber lua.stringNumber ((opts o).radius.orElse (.float 4))))
      (fun h' v occ => Fresh h h' v (.record occ.record)) ∧
    Simulates h (fun _ => ionEnvironment lua engine cloud first second o)
      (do
        let ice ← StateT.lift dFirst.flags
        let ions ← StateT.lift (dSecond.ints lua.stringNumber)
        engine.ionEnvironment cloud ice ions
          ((optionalInt ((opts o).type.orElse (.integer 1))).getD 1)
          ((optionalNumber
            ((opts o).cutoff.orElse (.float (35 / 10)))).getD (35 / 10)))
      (fun h' v env => Fresh h h' v (.record env.record)) := by
  constructor
  · apply Simulates.look_bind (fun h => getNested lua.stringNumber h first)
      (matches_of_eq hfirst.getNested_eq)
    rintro cages _ rfl
    apply Simulates.look_bind (fun h => getInts lua.stringNumber h second)
      (matches_of_eq hsecond.getInts_eq)
    rintro guests _ rfl
    exact simulates_give _ fun occ : GuestOccupancy => .record occ.record
  · apply Simulates.look_bind (fun h => getFlags h first) (matches_of_eq hfirst.getFlags_eq)
    rintro ice _ rfl
    apply Simulates.look_bind (fun h => getInts lua.stringNumber h second)
      (matches_of_eq hsecond.getInts_eq)
    rintro ions _ rfl
    exact simulates_give _ fun env : IonEnvironment => .record env.record

end Answers

end YodaStruct.Dseams
