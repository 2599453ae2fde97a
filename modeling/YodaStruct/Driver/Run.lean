import YodaStruct.Driver.Globals
import YodaStruct.Library.Transition
import YodaStruct.Library.Writes

/-! `main` as a machine: its way through the phase blocks, and the scripts it runs there,
which may do anything to the globals. -/
namespace YodaStruct.Driver
open YodaStruct.Config Transition Writes

/-- Where `main` is. `todo` are the blocks it has not come to yet. -/
inductive Control
  | between (todo : List Phase)
  | variablesScript (ph : Phase) (todo : List Phase)
  | functionScript (ph : Phase) (todo : List Phase)
  | failed
  | done
  deriving DecidableEq

structure State where
  control : Control
  /-- The block-local objects that exist. -/
  live : List Object
  globals : Globals

/-- One assignment of a script: of a value of its own, or of what another global holds. -/
inductive ScriptOp
  | write (g : Global) (v : ScriptValue)
  | copy (dst src : Global)

def ScriptOp.apply (globals : Globals) : ScriptOp → Globals
  | write g v => Function.update globals g (.plain v)
  | copy dst src => Function.update globals dst (globals src)

inductive Action
  | advance
  | script (op : ScriptOp)
  | scriptEnds (ok : Bool)

/-- A script is running, under `runScriptFile`. -/
def State.RunsScript (st : State) : Prop :=
  match st.control with
  | .variablesScript _ _ | .functionScript _ _ => True
  | _ => False

instance (st : State) : Decidable st.RunsScript := by
  unfold State.RunsScript
  split <;> infer_instance

/-- `main` leaves with an error, and no object outlives it. -/
def State.fail (st : State) : State := { st with control := .failed, live := [] }

/-- From the end of the variables script to the start of the function script: the block
declares its objects, reads `functionScript` and sets its globals. -/
def openBlock (cfg : LuaConfig) (ph : Phase) (todo : List Phase) (st : State) : State :=
  if (st.globals .functionScript).IsText then
    { control := .functionScript ph todo
      live := ph.objects
      globals := writeAll st.globals (bindings cfg ph) }
  else st.fail

def step (cfg : LuaConfig) (st : State) : Action → Option State
  | .advance =>
    match st.control with
    | .between [] => some { st with control := .done }
    | .between (ph :: todo) =>
      some { st with control := if enables cfg ph then .variablesScript ph todo else .between todo }
    | _ => none
  | .script op =>
    if st.RunsScript then some { st with globals := op.apply st.globals } else none
  | .scriptEnds ok =>
    match st.control with
    | .variablesScript ph todo =>
      some (if ok then openBlock cfg ph todo st else st.fail)
    | .functionScript _ todo =>
      some (if ok then { st with control := .between todo, live := [] } else st.fail)
    | _ => none

/-- `main` starts before its first block. No global holds an address of its objects yet. -/
structure Initial (st : State) : Prop where
  control : st.control = .between Phase.order
  live : st.live = []
  globals : ∀ g, ∃ v, st.globals g = .plain v

def mainMachine (cfg : LuaConfig) : Machine State Action where
  Init := Initial
  step := step cfg

/-- What a step can do. -/
inductive Step (cfg : LuaConfig) (st : State) : State → Prop
  | finish (hc : st.control = .between []) : Step cfg st { st with control := .done }
  | enter (ph : Phase) (todo : List Phase) (hc : st.control = .between (ph :: todo))
      (he : enables cfg ph = true) : Step cfg st { st with control := .variablesScript ph todo }
  | skip (ph : Phase) (todo : List Phase) (hc : st.control = .between (ph :: todo))
      (he : enables cfg ph = false) : Step cfg st { st with control := .between todo }
  | script (op : ScriptOp) (hr : st.RunsScript) :
      Step cfg st { st with globals := op.apply st.globals }
  | opens (ph : Phase) (todo : List Phase) (hc : st.control = .variablesScript ph todo) :
      Step cfg st
        { control := .functionScript ph todo
          live := ph.objects
          globals := writeAll st.globals (bindings cfg ph) }
  | closes (ph : Phase) (todo : List Phase) (hc : st.control = .functionScript ph todo) :
      Step cfg st { st with control := .between todo, live := [] }
  | fails (hr : st.RunsScript) : Step cfg st st.fail

theorem step_sound {cfg : LuaConfig} {st st' : State} {a : Action}
    (h : step cfg st a = some st') : Step cfg st st' := by
  cases a with
  | advance =>
    simp only [step] at h
    split at h
    · rename_i hc
      obtain rfl := Option.some.inj h
      exact .finish hc
    · rename_i ph todo hc
      obtain rfl := Option.some.inj h
      cases he : enables cfg ph with
      | true => exact .enter ph todo hc he
      | false => exact .skip ph todo hc he
    · cases h
  | script op =>
    simp only [step] at h
    split_ifs at h with hr
    obtain rfl := Option.some.inj h
    exact .script op hr
  | scriptEnds ok =>
    simp only [step] at h
    split at h
    · rename_i ph todo hc
      have hr : st.RunsScript := by simp [State.RunsScript, hc]
      obtain rfl := Option.some.inj h
      unfold openBlock
      split_ifs
      · exact .opens ph todo hc
      · exact .fails hr
      · exact .fails hr
    · rename_i ph todo hc
      have hr : st.RunsScript := by simp [State.RunsScript, hc]
      obtain rfl := Option.some.inj h
      split_ifs
      · exact .closes ph todo hc
      · exact .fails hr
    · cases h

/-- A script makes no new address: what it leaves in a global was in one before. -/
theorem ScriptOp.exists_of_apply_eq_pointer {op : ScriptOp} {globals : Globals} {g : Global}
    {o : Object} (h : op.apply globals g = .pointer o) : ∃ g', globals g' = .pointer o := by
  cases op with
  | write g' v =>
    simp only [apply, Function.update_apply] at h
    split_ifs at h
    exact ⟨g, h⟩
  | copy dst src =>
    simp only [apply, Function.update_apply] at h
    split_ifs at h
    · exact ⟨src, h⟩
    · exact ⟨g, h⟩

end YodaStruct.Driver
