import YodaStruct.Driver.Main

/-! The Fennel compiler: how often a run of `main` loads it, as long as no script takes it out of
`package.loaded`. -/
namespace YodaStruct.Driver
open YodaStruct.Config

def Event.load : Event → Option Bool
  | .loadsCompiler ok => some ok
  | _ => none

/-- The attempts to load the compiler, and which of them went well. -/
def loads (log : List Event) : List Bool := log.filterMap Event.load

@[simp] theorem loads_append (log log' : List Event) :
    loads (log ++ log') = loads log ++ loads log' := List.filterMap_append

section Loads
variable {ω : Type} {host : Host ω} {places : Places} {w w' : World ω}

/-- A compiler that is cached stays so, and what its file returns is found when it is put there. -/
structure Host.KeepsFennel (host : Host ω) (places : Places) : Prop where
  scriptFile : ∀ path lua, (host.cachedFennel lua).isSome →
    (host.cachedFennel (host.scriptFile path lua).1).isSome
  dofile : ∀ fennel path globals lua, (host.cachedFennel lua).isSome →
    (host.cachedFennel (host.dofile fennel path globals lua).1).isSome
  setFennelPath : ∀ fennel path lua, (host.cachedFennel lua).isSome →
    (host.cachedFennel (host.setFennelPath fennel path lua)).isSome
  cacheYoda : ∀ compiled lua, (host.cachedFennel lua).isSome →
    (host.cachedFennel (host.cacheYoda compiled lua)).isSome
  setGlobals : ∀ cfg ph lua, (host.cachedFennel lua).isSome →
    (host.cachedFennel (host.setGlobals cfg ph lua)).isSome
  cacheFennel : ∀ lua fennel, (host.scriptFile places.fennelSourcePath lua).2 = .ok fennel →
    (host.cachedFennel (host.cacheFennel fennel
      (host.scriptFile places.fennelSourcePath lua).1)).isSome

/-- At most two attempts, and none after one that went well. -/
def FewLoads (log : List Event) : Prop := (loads log).length ≤ 2 ∧ true ∉ (loads log).dropLast

/-- Between two scripts: the compiler is cached, or there was one attempt at most, in vain. -/
def Ready (host : Host ω) (w : World ω) : Prop :=
  (host.cachedFennel w.lua).isSome ∧ FewLoads w.log ∨
    (loads w.log).length ≤ 1 ∧ true ∉ loads w.log

theorem Ready.fewLoads (h : Ready host w) : FewLoads w.log := by
  rcases h with ⟨-, h⟩ | ⟨hlen, hvain⟩
  · exact h
  · exact ⟨by omega, fun hmem => hvain (List.dropLast_subset _ hmem)⟩

/-- One more attempt, after none or one in vain. -/
theorem fewLoads_append {log : List Event} (hlen : (loads log).length ≤ 1)
    (hvain : true ∉ loads log) {log' : List Event} {ok : Bool} (hlog' : loads log' = [ok]) :
    FewLoads (log ++ log') := by
  unfold FewLoads
  rw [loads_append, hlog', List.dropLast_concat, List.length_append, List.length_singleton]
  exact ⟨by omega, hvain⟩

/-- A script that was run loads no compiler. -/
theorem scriptEnd_loads (error : CppString → CppString → CppString) (path : CppString) (w : World ω)
    (r : ω × Except CppString ScriptValue) :
    (scriptEnd error path w r).1.lua = r.1 ∧
      loads (scriptEnd error path w r).1.log = loads w.log := by
  obtain ⟨lua, result⟩ := r
  cases result <;> exact ⟨rfl, by simp [scriptEnd, loads, Event.load]⟩

section Steps
variable (hk : host.KeepsFennel places)
include hk

theorem ready_loadFennel (hw : loads w.log = []) : Ready host (loadFennel host places w) := by
  unfold loadFennel
  cases hc : host.cachedFennel w.lua with
  | some fennel => exact .inr ⟨by simp [hw], by simp [hw]⟩
  | none =>
    have hcache := hk.cacheFennel w.lua
    cases hr : host.scriptFile places.fennelSourcePath w.lua with
    | mk lua result =>
      rw [hr] at hcache
      have hone : ∀ ok, loads (w.log ++ [.loadsCompiler ok]) = [ok] := by
        intro ok
        rw [loads_append, hw]
        rfl
      cases result with
      | error what => exact .inr ⟨by simp [hone], by simp [hone]⟩
      | ok fennel => exact .inl ⟨hcache fennel rfl, by simp [FewLoads, hone]⟩

theorem cachedFennel_loadYodaFnl {fennel : ScriptValue} {lua : ω}
    (hc : (host.cachedFennel lua).isSome) :
    (host.cachedFennel (loadYodaFnl host places fennel lua)).isSome := by
  have hdone := hk.dofile fennel (places.luaModuleDir ++ "/yoda.fnl".toList) none _
    (hk.setFennelPath fennel (places.luaModuleDir ++ "/?.fnl;".toList) lua hc)
  unfold loadYodaFnl
  cases hr : host.dofile fennel (places.luaModuleDir ++ "/yoda.fnl".toList) none
      (host.setFennelPath fennel (places.luaModuleDir ++ "/?.fnl;".toList) lua) with
  | mk lua' result =>
    rw [hr] at hdone
    cases result with
    | error what =>
      simp only [hr]
      exact hdone
    | ok compiled =>
      simp only [hr]
      exact hk.cacheYoda compiled lua' hdone

theorem ready_setupFennel (hw : loads w.log = []) : Ready host (setupFennel host places w) := by
  have hready := ready_loadFennel hk hw
  unfold setupFennel
  cases hc : host.cachedFennel (loadFennel host places w).lua with
  | none =>
    simp only [hc]
    exact hready
  | some fennel =>
    simp only [hc]
    exact .inl ⟨cachedFennel_loadYodaFnl hk (by rw [hc]; rfl), hready.fewLoads⟩

/-- The search for the compiler ends with one that is cached, or in vain. -/
theorem fewLoads_compiler (h : Ready host w) :
    FewLoads (compiler host places w).1.log ∧ ((compiler host places w).2.isSome →
      (host.cachedFennel (compiler host places w).1.lua).isSome) := by
  unfold compiler
  cases hc : host.cachedFennel w.lua with
  | some fennel => exact ⟨h.fewLoads, fun _ => by rw [hc]; rfl⟩
  | none =>
    obtain ⟨hlen, hvain⟩ := h.resolve_left (by simp [hc])
    have hcache := hk.cacheFennel w.lua
    cases hr : host.scriptFile places.fennelSourcePath w.lua with
    | mk lua result =>
      rw [hr] at hcache
      cases result with
      | error what => exact ⟨fewLoads_append hlen hvain rfl, fun hfalse => by cases hfalse⟩
      | ok fennel => exact ⟨fewLoads_append hlen hvain rfl, fun _ => hcache fennel rfl⟩

/-- After a script `main` is ready for the next, or it ends. -/
theorem ready_runScriptFile (h : Ready host w) (path : CppString) :
    FewLoads (runScriptFile host places path w).1.log ∧
      ((runScriptFile host places path w).2 = 0 →
        Ready host (runScriptFile host places path w).1) := by
  unfold runScriptFile
  by_cases hf : isFennel path
  · rw [if_pos hf]
    have hcompiler := fewLoads_compiler hk h
    cases hc : compiler host places w with
    | mk w' found =>
      rw [hc] at hcompiler
      cases found with
      | none => exact ⟨hcompiler.1, fun hcode => by cases hcode⟩
      | some fennel =>
        obtain ⟨hlua, hloads⟩ := scriptEnd_loads fennelError path w'
          (host.dofile fennel path (some false) w'.lua)
        have hfew : FewLoads (scriptEnd fennelError path w'
            (host.dofile fennel path (some false) w'.lua)).1.log := by
          unfold FewLoads
          rw [hloads]
          exact hcompiler.1
        refine ⟨hfew, fun _ => .inl ⟨?_, hfew⟩⟩
        simp only
        rw [hlua]
        exact hk.dofile _ _ _ _ (hcompiler.2 rfl)
  · rw [if_neg hf]
    obtain ⟨hlua, hloads⟩ := scriptEnd_loads luaError path w (host.scriptFile path w.lua)
    have hready : Ready host (scriptEnd luaError path w (host.scriptFile path w.lua)).1 := by
      unfold Ready FewLoads
      rw [hlua, hloads]
      rcases h with ⟨hc, hfew⟩ | hvain
      · exact .inl ⟨hk.scriptFile path _ hc, hfew⟩
      · exact .inr hvain
    exact ⟨hready.fewLoads, fun _ => hready⟩

/-- To write a call down makes no difference. -/
theorem ready_callScript (h : Ready host w) (path : CppString) :
    FewLoads (callScript host places path w).1.log ∧
      ((callScript host places path w).2 = 0 → Ready host (callScript host places path w).1) :=
  ready_runScriptFile hk h path

theorem ready_runBlock (h : Ready host w) (cfg : LuaConfig) (ph : Phase) :
    FewLoads (runBlock host places cfg ph w).1.log ∧
      ((runBlock host places cfg ph w).2 = none →
        Ready host (runBlock host places cfg ph w).1) := by
  unfold runBlock
  have hvars := ready_callScript hk h cfg.variablesFile
  cases hrun : callScript host places cfg.variablesFile w with
  | mk w₁ code =>
    rw [hrun] at hvars
    cases code with
    | succ n => exact ⟨hvars.1, fun hnone => by cases hnone⟩
    | zero =>
      simp only
      cases host.functionScript w₁.lua with
      | none => exact ⟨hvars.1, fun hnone => by cases hnone⟩
      | some lscript =>
        simp only
        have hset : Ready host { w₁ with lua := host.setGlobals cfg ph w₁.lua } := by
          rcases hvars.2 rfl with ⟨hc, hfew⟩ | hvain
          · exact .inl ⟨hk.setGlobals cfg ph _ hc, hfew⟩
          · exact .inr hvain
        have hfun := ready_callScript hk hset lscript
        cases hrun' : callScript host places lscript
            { w₁ with lua := host.setGlobals cfg ph w₁.lua } with
        | mk w₂ code =>
          rw [hrun'] at hfun
          cases code with
          | succ n => exact ⟨hfun.1, fun hnone => by cases hnone⟩
          | zero => exact ⟨hfun.1, fun _ => hfun.2 rfl⟩

theorem fewLoads_runBlocks (h : Ready host w) (cfg : LuaConfig) (todo : List Phase) :
    FewLoads (runBlocks host places cfg todo w).1.log := by
  induction todo generalizing w with
  | nil =>
    have hlog : loads (w.log ++ [.prints (welcome cfg)]) = loads w.log := by
      simp [loads, Event.load]
    unfold runBlocks FewLoads
    simp only [hlog]
    exact h.fewLoads
  | cons ph todo ih =>
    rw [runBlocks]
    cases enables cfg ph with
    | false => exact ih h
    | true =>
      rw [if_pos rfl]
      have hblock := ready_runBlock hk h cfg ph
      cases hrun : runBlock host places cfg ph w with
      | mk w' exit =>
        rw [hrun] at hblock
        cases exit with
        | none => exact ih (hblock.2 rfl)
        | some exit => exact hblock.1

end Steps

/-- A run of `main` tries at most twice to load the compiler, and never again once it has one. -/
theorem main_fewLoads (hk : host.KeepsFennel places) (helpText versionText : CppString)
    (file : CppString → Option CppString) (args : List CppString) (lua : ω) :
    FewLoads (main host places helpText versionText file args lua).1.log := by
  have hnone : FewLoads (World.new lua).log := ⟨Nat.zero_le _, List.not_mem_nil⟩
  unfold main
  cases parseCommandLine helpText versionText args with
  | exits code output => exact ⟨Nat.zero_le _, List.not_mem_nil⟩
  | goesOn path =>
    simp only
    cases loadLuaConfig path (file path) with
    | error what => exact hnone
    | ok cfg =>
      simp only
      cases host.prepare lua with
      | none => exact hnone
      | some ready => exact fewLoads_runBlocks hk (ready_setupFennel hk rfl) cfg _

end Loads

theorem plainHost_keepsFennel (places : Places) : plainHost.KeepsFennel places where
  scriptFile path lua h := by
    unfold plainHost at h ⊢
    simp only
    split_ifs <;> exact h
  dofile _ _ _ _ h := h
  setFennelPath _ _ _ h := h
  cacheYoda _ _ h := h
  setGlobals _ _ _ h := h
  cacheFennel _ _ _ := rfl

theorem plainHost_fewLoads :
    FewLoads (main plainHost ⟨"fennel.lua".toList, "lua".toList⟩ [] []
      (fun _ => some "variables: variables.lua\nbulk:\n  use: true\n".toList)
      ["-c".toList, "bulk.yml".toList] (fun _ => .plain .nil, none)).1.log :=
  main_fewLoads (plainHost_keepsFennel _) _ _ _ _ _

end YodaStruct.Driver
