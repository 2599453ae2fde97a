import YodaStruct.Binding.Calls

/-! The rules that tell bonds apart: by name, or as a table with the fields that differ from
CHILL's. -/
namespace YodaStruct.Binding
open YodaStruct.Config YodaStruct.Driver LuaTable Simulation

/-- What `ruleFromTable` sets of a `chill::BondClassifier`. -/
structure BondClassifier where
  staggeredMax : ℚ
  eclipsedMin : ℚ
  eclipsedMax : ℚ
  coordinationNumber : Int32
  deriving DecidableEq

structure RuleEngine (σ Cloud : Type) where
  chillRule : BondClassifier
  /-- The rule that is registered under a name. -/
  bondClassifier (name : CppString) : Prog σ CallError BondClassifier
  registerBondClassifier (name : CppString) (rule : BondClassifier) : Prog σ CallError Unit
  bondClassifierNames : Prog σ CallError (List CppString)
  classifyBonds (yCloud : Cloud) (nList : IntRows) (rule : BondClassifier) (isSlice : Bool) :
    Prog σ CallError Unit

/-! `t.get_or`, for a table, takes what `sol::optional` does. -/

/-- A field of a table. What has no fields at all is asked for none. -/
def probe (h : LuaHeap) (t : ScriptValue) (name : CppString) : Except CallError ScriptValue :=
  match t with
  | .other i => index h (.other i) (.name name)
  | _ => .ok .nil

/-- Each field that is found with a number replaces that of `rule`. -/
def ruleFrom {α : Type} (read : CppString → Except CallError α) (number : α → Option ℚ)
    (int : α → Option Int32) (rule : BondClassifier) : Except CallError BondClassifier := do
  let staggeredMax ← read "staggeredMax".toList
  let eclipsedMin ← read "eclipsedMin".toList
  let eclipsedMax ← read "eclipsedMax".toList
  let coordinationNumber ← read "coordinationNumber".toList
  pure
    { staggeredMax := (number staggeredMax).getD rule.staggeredMax
      eclipsedMin := (number eclipsedMin).getD rule.eclipsedMin
      eclipsedMax := (number eclipsedMax).getD rule.eclipsedMax
      coordinationNumber := (int coordinationNumber).getD rule.coordinationNumber }

namespace Data

def scalarValue : Data → ScriptValue
  | field (.value s) => s.value
  | _ => .nil

def probe (d : Data) (name : CppString) : Except CallError Data :=
  match d with
  | absent | field (.value _) => .ok absent
  | d => d.named name

def rule (rule : BondClassifier) (d : Data) : Except CallError BondClassifier :=
  ruleFrom d.probe (fun x => optionalNumber x.scalarValue) (fun x => optionalInt x.scalarValue) rule

/-- The rule that the data names, or is. -/
def ruleSpec {σ Cloud : Type} (engine : RuleEngine σ Cloud) (d : Data) :
    Prog σ CallError BondClassifier :=
  match d with
  | field (.value (.string name)) => engine.bondClassifier name
  | d => StateT.lift (d.rule engine.chillRule)

end Data

section Bindings
variable {σ Cloud : Type} (lua : Interpreter) (engine : RuleEngine σ Cloud)

def ruleFromTable (h : LuaHeap) (t : ScriptValue) : Except CallError BondClassifier :=
  ruleFrom (probe h t) optionalNumber optionalInt engine.chillRule

/-- The name of a rule, or the table that it is made from. -/
def takeRule (ruleSpec : ScriptValue) : Script σ BondClassifier :=
  match ruleSpec with
  | .string name => Prog.lift (engine.bondClassifier name)
  | t => Prog.look fun h => ruleFromTable engine h t

def classifyBonds (yCloud : Cloud) (nList ruleSpec isSlice : ScriptValue) : Script σ Unit := do
  let nList ← takeNested lua nList
  let rule ← takeRule engine ruleSpec
  Prog.lift (engine.classifyBonds yCloud nList rule ((optionalBool isSlice).getD false))

def registerBondClassifier (name : CppString) (t : ScriptValue) : Script σ Unit := do
  let rule ← Prog.look fun h => ruleFromTable engine h t
  Prog.lift (engine.registerBondClassifier name rule)

def bondClassifierNames : Script σ ScriptValue := do
  give (.list ((← Prog.lift engine.bondClassifierNames).map .string))

end Bindings

/-! Both make the same rule. -/

section Reading
variable {lua : Interpreter} {h : LuaHeap} {p : ℕ → Prop} {v : ScriptValue} {d : Data}

theorem Data.scalarValue_of_isTable (hd : d.isTable) : d.scalarValue = .nil := by
  rcases d with _ | (_ | _ | _ | _) | _ | _ <;> first | rfl | cases hd

theorem Data.probe_of_isTable (hd : d.isTable) (name : CppString) :
    d.probe name = d.named name := by
  rcases d with _ | (_ | _ | _ | _) | _ | _ <;> first | rfl | cases hd

/-- What is read only of values that are no tables is read of the data. -/
theorem StandsIn.scalarValue_eq {α : Type} (hs : StandsIn h p v d) {f : ScriptValue → Option α}
    (hother : ∀ i, f (.other i) = f .nil) : f v = f d.scalarValue := by
  rcases hs.cases with ⟨rfl, rfl⟩ | ⟨s, rfl, rfl⟩ | ⟨hd, i, t, rfl, -⟩
  · rfl
  · rfl
  · rw [Data.scalarValue_of_isTable hd]
    exact hother i

theorem StandsIn.probe_matches (hs : StandsIn h p v d) (name : CppString) :
    Matches (StandsIn h p) (probe h v name) (d.probe name) := by
  rcases hs.cases with ⟨rfl, rfl⟩ | ⟨s, rfl, rfl⟩ | ⟨hd, i, t, rfl, -⟩
  · exact .ok rfl
  · cases s <;> exact .ok rfl
  · rw [Data.probe_of_isTable hd]
    exact hs.index_named name

theorem StandsIn.rule_eq (hs : StandsIn h p v d) {σ Cloud : Type} (engine : RuleEngine σ Cloud) :
    ruleFromTable engine h v = d.rule engine.chillRule := by
  have hnumber : ∀ u x, StandsIn h p u x → optionalNumber u = optionalNumber x.scalarValue :=
    fun u x hu => hu.scalarValue_eq fun _ => rfl
  have hint : ∀ u x, StandsIn h p u x → optionalInt u = optionalInt x.scalarValue :=
    fun u x hu => hu.scalarValue_eq fun _ => rfl
  apply Matches.eq
  apply (hs.probe_matches _).bind
  intro a a' ha
  apply (hs.probe_matches _).bind
  intro b b' hb
  apply (hs.probe_matches _).bind
  intro c c' hc
  apply (hs.probe_matches _).bind
  intro n n' hn
  rw [hnumber a a' ha, hnumber b b' hb, hnumber c c' hc, hint n n' hn]
  exact .ok rfl

theorem Data.ruleSpec_of_isTable {σ Cloud : Type} (engine : RuleEngine σ Cloud)
    (hd : d.isTable) : d.ruleSpec engine = StateT.lift (d.rule engine.chillRule) := by
  rcases d with _ | (_ | _ | _ | _) | _ | _ <;> first | rfl | cases hd

/-- A rule is taken as what its data is. -/
theorem takeRule_bind (hs : StandsIn h p v d) {σ Cloud α β : Type} (engine : RuleEngine σ Cloud)
    {f : BondClassifier → Script σ α} {g : BondClassifier → Prog σ CallError β}
    {post : LuaHeap → α → β → Prop} (hf : ∀ rule, Simulates h (fun _ => f rule) (g rule) post) :
    Simulates h (fun _ => takeRule engine v >>= f) (d.ruleSpec engine >>= g) post := by
  have htable : Simulates h
      (fun _ => (Prog.look fun h => ruleFromTable engine h v) >>= f)
      (StateT.lift (d.rule engine.chillRule) >>= g) post := by
    apply Simulates.look_bind (fun h => ruleFromTable engine h v)
      (matches_of_eq (hs.rule_eq engine))
    rintro rule _ rfl
    exact hf rule
  rcases hs.cases with ⟨rfl, rfl⟩ | ⟨s, rfl, rfl⟩ | ⟨hd, i, t, rfl, -⟩
  · exact htable
  · cases s with
    | string name => exact Simulates.lift_bind hf
    | _ => exact htable
  · rw [Data.ruleSpec_of_isTable engine hd]
    exact htable

end Reading

end YodaStruct.Binding
