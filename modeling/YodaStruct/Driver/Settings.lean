import YodaStruct.Driver.Lifetime

/-! Settings: what a function script finds of the config in its globals when `main` starts it. -/
namespace YodaStruct.Driver
open YodaStruct.Config Transition Writes

/-- The globals that name settings hold those of the config. -/
structure SeesConfig (cfg : LuaConfig) (globals : Globals) : Prop where
  trajectory : globals .trajectory = tFile cfg
  doBOP : globals .doBOP = flag cfg.bulkBop
  topoBulk : globals .topoBulk = flag cfg.bulkTopo
  topoOneDim : globals .topoOneDim = flag cfg.topoOneDim
  topoTwoDim : globals .topoTwoDim = flag cfg.topoTwoDim

/-- `main` goes from the variables script of a block to its function script. -/
def StartsFunctionScript (before after : Control) : Prop :=
  ∃ ph todo, before = .variablesScript ph todo ∧ after = .functionScript ph todo

/-- Whatever the scripts did before, a function script that starts sees the config. -/
def FunctionScriptsSeeConfig (cfg : LuaConfig) : Prop :=
  ∀ st a st', (mainMachine cfg).Reachable st → step cfg st a = some st' →
    StartsFunctionScript st.control st'.control → SeesConfig cfg st'.globals

/-- No block that sets the flags from `bulk.use` runs, or it makes no difference, and the block
that sets none does not run. -/
structure SettingsBound (cfg : LuaConfig) : Prop where
  structureDesc : cfg.structureDesc = false
  flags : cfg.topoTwoDim = true ∨ cfg.topoOneDim = true →
    cfg.bulkUse = cfg.bulkBop ∧ cfg.bulkUse = cfg.bulkTopo

/-- A function script starts with the assignments of its block just made. -/
theorem globals_of_starts {cfg : LuaConfig} {st st' : State} {a : Action}
    (h : step cfg st a = some st') (hs : StartsFunctionScript st.control st'.control) :
    ∃ ph todo, st.control = .variablesScript ph todo ∧
      st'.globals = writeAll st.globals (bindings cfg ph) := by
  obtain ⟨ph, todo, hc, hc'⟩ := hs
  cases step_sound h with
  | finish => cases hc'
  | enter => cases hc'
  | skip => cases hc'
  | script => cases hc.symm.trans hc'
  | opens ph' todo' h' =>
    obtain ⟨rfl, rfl⟩ := Control.variablesScript.inj (hc.symm.trans h')
    exact ⟨ph, todo, hc, rfl⟩
  | closes => cases hc'
  | fails => cases hc'

/-- Only enabled blocks run a variables script. -/
theorem enables_of_variablesScript {cfg : LuaConfig} {st : State}
    (h : (mainMachine cfg).Reachable st) :
    ∀ ph todo, st.control = .variablesScript ph todo → enables cfg ph = true := by
  refine h.invariant
    (P := fun st => ∀ ph todo, st.control = .variablesScript ph todo → enables cfg ph = true) ?_ ?_
  · intro st hi ph todo hc
    cases hi.control.symm.trans hc
  · intro st a st' ih hstep ph todo hc
    cases step_sound hstep with
    | finish => cases hc
    | enter ph' todo' _ he =>
      obtain ⟨rfl, rfl⟩ := Control.variablesScript.inj hc
      exact he
    | skip => cases hc
    | script => exact ih ph todo hc
    | opens => cases hc
    | closes => cases hc
    | fails => cases hc

section Block
variable (cfg : LuaConfig) (globals : Globals)

theorem writeAll_bindings {ph : Phase} {g : Global} {v : LuaValue} (h : (g, v) ∈ bindings cfg ph) :
    writeAll globals (bindings cfg ph) g = v := writeAll_of_mem (bindings_nodup cfg ph) h

theorem seesConfig_bulk : SeesConfig cfg (writeAll globals (bindings cfg .bulk)) := by
  constructor <;> exact writeAll_bindings cfg globals (by simp [bindings])

/-- The topology blocks set the flags of the bulk block from `bulk.use`. -/
theorem seesConfig_topo_iff {ph : Phase} (hph : ph = .topoTwoDim ∨ ph = .topoOneDim) :
    SeesConfig cfg (writeAll globals (bindings cfg ph)) ↔
      cfg.bulkUse = cfg.bulkBop ∧ cfg.bulkUse = cfg.bulkTopo := by
  have hbop : writeAll globals (bindings cfg ph) .doBOP = flag cfg.bulkUse :=
    writeAll_bindings cfg globals (by rcases hph with rfl | rfl <;> simp [bindings])
  have hbulk : writeAll globals (bindings cfg ph) .topoBulk = flag cfg.bulkUse :=
    writeAll_bindings cfg globals (by rcases hph with rfl | rfl <;> simp [bindings])
  constructor
  · intro h
    have hb := hbop.symm.trans h.doBOP
    have ht := hbulk.symm.trans h.topoBulk
    simp only [flag, LuaValue.plain.injEq, ScriptValue.boolean.injEq] at hb ht
    exact ⟨hb, ht⟩
  · intro ht
    obtain ⟨hb, ht⟩ := ht
    refine ⟨?_, hb ▸ hbop, ht ▸ hbulk, ?_, ?_⟩ <;>
      exact writeAll_bindings cfg globals (by rcases hph with rfl | rfl <;> simp [bindings])

/-- The block of the structure descriptors sets no flag. -/
theorem structureDesc_doBOP :
    writeAll globals (bindings cfg .structureDesc) .doBOP = globals .doBOP := by
  simp [writeAll, bindings, Function.update]

end Block

/-! Runs to the function script of a block. -/

section Reach
variable {cfg : LuaConfig} {ph : Phase} (he : enables cfg ph = true)
include he

/-- `main` comes to every enabled block. -/
theorem reachable_variablesScript {todo : List Phase} {live : List Object} {globals : Globals}
    (h : (mainMachine cfg).Reachable ⟨.between todo, live, globals⟩) (hm : ph ∈ todo) :
    ∃ todo' live' globals', (mainMachine cfg).Reachable ⟨.variablesScript ph todo', live', globals'⟩ := by
  induction todo generalizing live globals with
  | nil => cases hm
  | cons p todo ih =>
    have hadv : (mainMachine cfg).Reachable
        ⟨if enables cfg p then .variablesScript p todo else .between todo, live, globals⟩ :=
      .step .advance h rfl
    rcases List.mem_cons.mp hm with rfl | hm
    · rw [he, if_pos rfl] at hadv
      exact ⟨todo, live, globals, hadv⟩
    · cases hp : enables cfg p with
      | true =>
        rw [hp, if_pos rfl] at hadv
        exact ih (reachable_closed hadv) hm
      | false =>
        rw [hp, if_neg (by simp)] at hadv
        exact ih hadv hm

/-- Its function script may start after a variables script that cleared `doBOP`. -/
theorem exists_starts : ∃ st st' globals, (mainMachine cfg).Reachable st ∧
    step cfg st (.scriptEnds true) = some st' ∧ StartsFunctionScript st.control st'.control ∧
      globals .doBOP = .plain .nil ∧ st'.globals = writeAll globals (bindings cfg ph) := by
  have hinit : (mainMachine cfg).Reachable ⟨.between Phase.order, [], fun _ => .plain .nil⟩ :=
    .init ⟨rfl, rfl, fun _ => ⟨.nil, rfl⟩⟩
  have hm : ph ∈ Phase.order := by cases ph <;> decide
  obtain ⟨todo, live, globals, hvars⟩ := reachable_variablesScript he hinit hm
  let cleared : Globals := Function.update (Function.update globals .functionScript
    (.plain (.string []))) .doBOP (.plain .nil)
  have hrun : (mainMachine cfg).run ⟨.variablesScript ph todo, live, globals⟩
      [.script (.write .functionScript (.string [])), .script (.write .doBOP .nil)] =
      some ⟨.variablesScript ph todo, live, cleared⟩ := by
    simp [Machine.run, mainMachine, step, State.RunsScript, ScriptOp.apply, cleared]
  have htext : (cleared .functionScript).IsText := by simp [cleared, LuaValue.IsText]
  have hopen : step cfg ⟨.variablesScript ph todo, live, cleared⟩ (.scriptEnds true) =
      some ⟨.functionScript ph todo, ph.objects, writeAll cleared (bindings cfg ph)⟩ := by
    simp [step, openBlock, htext]
  exact ⟨_, _, cleared, hvars.run hrun, hopen, ⟨ph, todo, rfl, rfl⟩, by simp [cleared], rfl⟩

end Reach

theorem functionScriptsSeeConfig_iff (cfg : LuaConfig) :
    FunctionScriptsSeeConfig cfg ↔ SettingsBound cfg := by
  constructor
  · intro h
    constructor
    · by_contra hn
      have he : enables cfg .structureDesc = true := by simpa [enables] using hn
      obtain ⟨st, st', globals, hr, hstep, hs, hnil, hglobals⟩ := exists_starts he
      have hbop := (h st _ st' hr hstep hs).doBOP
      rw [hglobals, structureDesc_doBOP, hnil] at hbop
      cases hbop
    · intro htopo
      obtain ⟨ph, hph, he⟩ : ∃ ph, (ph = .topoTwoDim ∨ ph = .topoOneDim) ∧ enables cfg ph = true := by
        rcases htopo with h | h
        · exact ⟨.topoTwoDim, Or.inl rfl, h⟩
        · exact ⟨.topoOneDim, Or.inr rfl, h⟩
      obtain ⟨st, st', globals, hr, hstep, hs, -, hglobals⟩ := exists_starts he
      have hsees := h st _ st' hr hstep hs
      rw [hglobals] at hsees
      exact (seesConfig_topo_iff cfg globals hph).mp hsees
  · intro h st a st' hr hstep hs
    obtain ⟨ph, todo, hc, hglobals⟩ := globals_of_starts hstep hs
    have he := enables_of_variablesScript hr ph todo hc
    rw [hglobals]
    cases ph with
    | topoTwoDim => exact (seesConfig_topo_iff cfg _ (Or.inl rfl)).mpr (h.flags (Or.inl he))
    | topoOneDim => exact (seesConfig_topo_iff cfg _ (Or.inr rfl)).mpr (h.flags (Or.inr he))
    | bulk => exact seesConfig_bulk cfg _
    | structureDesc => cases h.structureDesc.symm.trans he

/-- Function scripts see the config of a file exactly when its settings are bound in every
block that it enables. -/
theorem loadLuaConfig_functionScripts_iff (path text : CppString) :
    ∃ cfg, loadLuaConfig path (some text) = .ok cfg ∧
      (FunctionScriptsSeeConfig cfg ↔ SettingsBound cfg) :=
  ⟨readConfig text, rfl, functionScriptsSeeConfig_iff _⟩

/-- A monolayer with bond order parameters: its function script finds `doBOP` false. -/
theorem topoTwoDim_misses_bop :
    ∃ cfg, loadLuaConfig [] (some ("variables: variables.lua\n" ++
        "bulk:\n  use: false\n  bondOrderParameters: true\ntopoTwoDim:\n  use: true\n").toList) =
        .ok cfg ∧ ¬ FunctionScriptsSeeConfig cfg := by
  refine ⟨{ variablesFile := "variables.lua".toList, bulkBop := true, topoTwoDim := true },
    by decide +kernel, ?_⟩
  intro h
  cases ((functionScriptsSeeConfig_iff _).mp h).flags (Or.inl rfl) |>.1

end YodaStruct.Driver
