import YodaStruct.Driver.Main

/-! `main` and its machine: every script that a run starts, with the globals that it finds, the
machine starts too, and it ends in the same way. -/
namespace YodaStruct.Driver
open YodaStruct.Config Transition Writes

/-! What is seen of the machine. -/

inductive Seen
  /-- The variables script starts with these globals. -/
  | variablesScript (globals : Globals)
  /-- The function script starts with these globals. -/
  | functionScript (globals : Globals)
  /-- The script ends, and whether it does so well. -/
  | ends (ok : Bool)

/-- The script that is there to run. -/
def State.starts (st : State) : List Seen :=
  match st.control with
  | .variablesScript _ _ => [.variablesScript st.globals]
  | .functionScript _ _ => [.functionScript st.globals]
  | _ => []

def sees (_ : State) (a : Action) (st : State) : List Seen :=
  match a with
  | .advance => st.starts
  | .script _ => []
  | .scriptEnds ok => .ends ok :: st.starts

/-- Where the machine is when `main` has ended. -/
def Control.ofExit : Exit → Control
  | .code 0 => .done
  | _ => .failed

/-! What is seen of `main`. -/

section Refinement
variable {ω : Type}

/-- What the Lua state does to the globals, seen as the machine sees it. `text` is what
`lua_tolstring` makes of a value. -/
structure Host.ActsOn (host : Host ω) (globals : ω → Globals) (text : LuaValue → CppString) :
    Prop where
  scriptFile : ∀ path lua, ∃ ops : List ScriptOp,
    globals (host.scriptFile path lua).1 = ops.foldl ScriptOp.apply (globals lua)
  dofile : ∀ fennel path allowed lua, ∃ ops : List ScriptOp,
    globals (host.dofile fennel path allowed lua).1 = ops.foldl ScriptOp.apply (globals lua)
  cacheFennel : ∀ fennel lua, globals (host.cacheFennel fennel lua) = globals lua
  setFennelPath : ∀ fennel path lua, globals (host.setFennelPath fennel path lua) = globals lua
  cacheYoda : ∀ compiled lua, globals (host.cacheYoda compiled lua) = globals lua
  functionScript : ∀ lua, (globals lua .functionScript).IsText →
    host.functionScript lua = some (text (globals lua .functionScript))
  /-- What is not text throws, or is read as the empty path. -/
  unnamed : ∀ lua, ¬(globals lua .functionScript).IsText →
    host.functionScript lua = none ∨ host.functionScript lua = some []
  /-- The empty path is that of no file. -/
  noFile : ∀ lua, ∃ what, (host.scriptFile [] lua).2 = .error what
  setGlobals : ∀ cfg ph lua,
    globals (host.setGlobals cfg ph lua) = writeAll (globals lua) (bindings cfg ph)

/-- One call for each script that is seen: of the same file, with the same globals, and with the
same end. -/
inductive Follows (cfg : LuaConfig) (globals : ω → Globals) (text : LuaValue → CppString) :
    List Seen → List (ScriptCall ω) → Prop
  | nil : Follows cfg globals text [] []
  | variablesScript {seen : List Seen} {calls : List (ScriptCall ω)} (call : ScriptCall ω)
      (hpath : call.path = cfg.variablesFile) (hrest : Follows cfg globals text seen calls) :
      Follows cfg globals text
        (.variablesScript (globals call.lua) :: .ends (call.code == 0) :: seen) (call :: calls)
  | functionScript {seen : List Seen} {calls : List (ScriptCall ω)} (call : ScriptCall ω)
      (hpath : call.path = text (globals call.lua .functionScript))
      (hrest : Follows cfg globals text seen calls) :
      Follows cfg globals text
        (.functionScript (globals call.lua) :: .ends (call.code == 0) :: seen) (call :: calls)

/-- These calls are all that `main` has made, and the machine has its globals. Or the machine has
failed for want of a text in `functionScript`, and `main` has set the globals of the block and
called the empty path before it failed too. -/
inductive Accounts (globals : ω → Globals) (left : Globals) (calls : List (ScriptCall ω))
    (w : World ω) : Option Exit → Prop
  | all {exit : Option Exit} (hcalls : w.calls = calls) (hglobals : left = globals w.lua) :
      Accounts globals left calls w exit
  | unnamed (lua : ω) (hcalls : w.calls = calls ++ [⟨[], lua, 1⟩])
      (htext : ¬(left .functionScript).IsText) : Accounts globals left calls w (some (.code 1))

variable {host : Host ω} {globals : ω → Globals} {text : LuaValue → CppString} (places : Places)
  {cfg : LuaConfig} {ph : Phase} {todo : List Phase}

theorem Follows.append {seen seen' : List Seen} {calls calls' : List (ScriptCall ω)}
    (h : Follows cfg globals text seen calls) (h' : Follows cfg globals text seen' calls') :
    Follows cfg globals text (seen ++ seen') (calls ++ calls') := by
  induction h with
  | nil => exact h'
  | variablesScript call hpath _ ih => exact .variablesScript call hpath ih
  | functionScript call hpath _ ih => exact .functionScript call hpath ih

/-! One script. -/

theorem scriptEnd_lua (error : CppString → CppString → CppString) (path : CppString) (w : World ω)
    (r : ω × Except CppString ScriptValue) :
    (scriptEnd error path w r).1.lua = r.1 ∧ (scriptEnd error path w r).1.calls = w.calls := by
  obtain ⟨lua, result⟩ := r
  cases result <;> exact ⟨rfl, rfl⟩

/-- A script, and the compiler for it if need be, do a number of assignments. -/
theorem Host.ActsOn.runScriptFile (ha : host.ActsOn globals text) (path : CppString)
    (w : World ω) :
    (∃ ops : List ScriptOp, globals (runScriptFile host places path w).1.lua =
      ops.foldl ScriptOp.apply (globals w.lua)) ∧
      (Driver.runScriptFile host places path w).1.calls = w.calls := by
  unfold Driver.runScriptFile compiler
  by_cases hf : isFennel path
  · rw [if_pos hf]
    cases host.cachedFennel w.lua with
    | some fennel =>
      simp only [scriptEnd_lua]
      exact ⟨ha.dofile _ _ _ _, trivial⟩
    | none =>
      obtain ⟨ops, hops⟩ := ha.scriptFile places.fennelSourcePath w.lua
      cases hr : host.scriptFile places.fennelSourcePath w.lua with
      | mk lua result =>
        rw [hr] at hops
        cases result with
        | error what => exact ⟨⟨ops, hops⟩, rfl⟩
        | ok fennel =>
          obtain ⟨ops', hops'⟩ := ha.dofile fennel path (some false) (host.cacheFennel fennel lua)
          simp only [scriptEnd_lua]
          refine ⟨⟨ops ++ ops', ?_⟩, trivial⟩
          rw [hops', ha.cacheFennel, List.foldl_append, ← hops]
  · rw [if_neg hf]
    simp only [scriptEnd_lua]
    exact ⟨ha.scriptFile _ _, trivial⟩

theorem traces_ops {st : State} (hr : st.RunsScript) (ops : List ScriptOp) :
    (mainMachine cfg).Traces sees st []
      { st with globals := ops.foldl ScriptOp.apply st.globals } := by
  induction ops generalizing st with
  | nil => exact .refl st
  | cons op ops ih =>
    let st' : State := { st with globals := op.apply st.globals }
    have hone : (mainMachine cfg).step st (.script op) = some st' := if_pos hr
    have hr' : st'.RunsScript := hr
    exact .step (.script op) hone (ih hr')

variable {path : CppString} {w w' : World ω} {code : ℕ}

/-- The machine runs a script that `main` calls, and goes where its end takes it. -/
theorem traces_callScript {st st' : State} {seen : List Seen} (ha : host.ActsOn globals text)
    (hrun : callScript host places path w = (w', code)) (hr : st.RunsScript)
    (hst : st.globals = globals w.lua)
    (hstep : (mainMachine cfg).step { st with globals := globals w'.lua }
      (.scriptEnds (code == 0)) = some st')
    (hseen : .ends (code == 0) :: st'.starts = seen) :
    (mainMachine cfg).Traces sees st seen st' := by
  obtain ⟨rfl, rfl⟩ := Prod.mk.inj hrun
  subst hseen
  obtain ⟨ops, hops⟩ := (ha.runScriptFile places path w).1
  have hscript : (mainMachine cfg).Traces sees st [] _ := traces_ops hr ops
  rw [hst, ← hops] at hscript
  exact hscript.trans (.single _ hstep)

theorem calls_callScript (ha : host.ActsOn globals text)
    (hrun : callScript host places path w = (w', code)) :
    w'.calls = w.calls ++ [⟨path, w.lua, code⟩] := by
  obtain ⟨rfl, rfl⟩ := Prod.mk.inj hrun
  exact congrArg (· ++ _) (ha.runScriptFile places path w).2

/-- The empty path is called in vain. -/
theorem callScript_nil (ha : host.ActsOn globals text) (w : World ω) :
    (callScript host places [] w).2 = 1 := by
  obtain ⟨what, hwhat⟩ := ha.noFile w.lua
  have hend : ∀ r : ω × Except CppString ScriptValue, r.2 = .error what →
      (scriptEnd luaError [] w r).2 = 1 := by
    rintro ⟨lua, result⟩ rfl
    rfl
  exact hend _ hwhat

/-! One block. -/

/-- Where the machine is after a block. -/
def Control.after (todo : List Phase) : Option Exit → Control
  | none => .between todo
  | some exit => .ofExit exit

/-- A block leaves `functionScript` as it is. -/
theorem writeAll_bindings_functionScript (cfg : LuaConfig) (ph : Phase) (globals : Globals) :
    writeAll globals (bindings cfg ph) .functionScript = globals .functionScript := by
  cases ph <;> rfl

/-- The function script of a block, and what the machine does with its end. -/
theorem traces_functionScript (ha : host.ActsOn globals text)
    (hrun : callScript host places path w = (w', code)) :
    (mainMachine cfg).Traces sees ⟨.functionScript ph todo, ph.objects, globals w.lua⟩
      [.ends (code == 0)] ⟨if code = 0 then .between todo else .failed, [], globals w'.lua⟩ := by
  cases code with
  | zero => exact traces_callScript places ha hrun trivial rfl rfl rfl
  | succ n => exact traces_callScript places ha hrun trivial rfl rfl rfl

/-- An enabled block: its scripts are those that the machine runs in it. -/
theorem traces_runBlock (ha : host.ActsOn globals text) (cfg : LuaConfig) (ph : Phase)
    (todo : List Phase) (w : World ω) :
    ∃ left seen calls,
      (mainMachine cfg).Traces sees ⟨.variablesScript ph todo, [], globals w.lua⟩ seen
        ⟨.after todo (runBlock host places cfg ph w).2, [], left⟩ ∧
      Follows cfg globals text (.variablesScript (globals w.lua) :: seen) calls ∧
      Accounts globals left (w.calls ++ calls) (runBlock host places cfg ph w).1
        (runBlock host places cfg ph w).2 := by
  unfold runBlock
  cases hvars : callScript host places cfg.variablesFile w with
  | mk w₁ code =>
    have hcalls := calls_callScript places ha hvars
    have hfollows : ∀ {seen calls}, Follows cfg globals text seen calls →
        Follows cfg globals text
          (.variablesScript (globals w.lua) :: .ends (code == 0) :: seen)
          (⟨cfg.variablesFile, w.lua, code⟩ :: calls) :=
      fun hrest => .variablesScript ⟨cfg.variablesFile, w.lua, code⟩ rfl hrest
    cases code with
    | succ n =>
      exact ⟨_, _, _, traces_callScript places ha hvars trivial rfl rfl rfl, hfollows .nil,
        .all hcalls rfl⟩
    | zero =>
      simp only
      by_cases htext : (globals w₁.lua .functionScript).IsText
      · have hstep : (mainMachine cfg).step ⟨.variablesScript ph todo, [], globals w₁.lua⟩
            (.scriptEnds true) = some ⟨.functionScript ph todo, ph.objects,
              writeAll (globals w₁.lua) (bindings cfg ph)⟩ := by
          simp [mainMachine, step, openBlock, htext]
        rw [← ha.setGlobals] at hstep
        have hopen : (mainMachine cfg).Traces sees
            ⟨.variablesScript ph todo, [], globals w.lua⟩ _ _ :=
          traces_callScript places ha hvars trivial rfl hstep rfl
        rw [ha.functionScript _ htext]
        simp only
        cases hfun : callScript host places (text (globals w₁.lua .functionScript))
            { w₁ with lua := host.setGlobals cfg ph w₁.lua } with
        | mk w₂ code =>
          have hboth := hopen.trans (traces_functionScript places ha hfun)
          have hnamed : text (globals w₁.lua .functionScript) =
              text (globals (host.setGlobals cfg ph w₁.lua) .functionScript) := by
            rw [ha.setGlobals, writeAll_bindings_functionScript]
          have hlast := hfollows (.functionScript ⟨_, host.setGlobals cfg ph w₁.lua, code⟩ hnamed
            .nil)
          have hall := calls_callScript places ha hfun
          simp only [hcalls, List.append_assoc] at hall
          cases code with
          | zero => exact ⟨_, _, _, hboth, hlast, .all hall rfl⟩
          | succ n => exact ⟨_, _, _, hboth, hlast, .all hall rfl⟩
      · have hstep : (mainMachine cfg).step ⟨.variablesScript ph todo, [], globals w₁.lua⟩
            (.scriptEnds true) = some ⟨.failed, [], globals w₁.lua⟩ := by
          simp [mainMachine, step, openBlock, htext, State.fail]
        have hfail : (mainMachine cfg).Traces sees
            ⟨.variablesScript ph todo, [], globals w.lua⟩ _ _ :=
          traces_callScript places ha hvars trivial rfl hstep rfl
        rcases ha.unnamed _ htext with hnone | hempty
        · rw [hnone]
          exact ⟨_, _, _, hfail, hfollows .nil, .all hcalls rfl⟩
        · rw [hempty]
          simp only
          have hcode := callScript_nil places ha { w₁ with lua := host.setGlobals cfg ph w₁.lua }
          cases hfun : callScript host places []
              { w₁ with lua := host.setGlobals cfg ph w₁.lua } with
          | mk w₂ code =>
            rw [hfun] at hcode
            obtain rfl : code = 1 := hcode
            have hall := calls_callScript places ha hfun
            simp only [hcalls] at hall
            exact ⟨_, _, _, hfail, hfollows .nil, .unnamed _ hall htext⟩

/-! The whole run. -/

/-- From the blocks that are left to the end of `main`. -/
theorem traces_runBlocks (ha : host.ActsOn globals text) (cfg : LuaConfig) (todo : List Phase)
    (w : World ω) :
    ∃ left seen calls,
      (mainMachine cfg).Traces sees ⟨.between todo, [], globals w.lua⟩ seen
        ⟨.ofExit (runBlocks host places cfg todo w).2, [], left⟩ ∧
      Follows cfg globals text seen calls ∧
      Accounts globals left (w.calls ++ calls) (runBlocks host places cfg todo w).1
        (some (runBlocks host places cfg todo w).2) := by
  induction todo generalizing w with
  | nil =>
    have hdone : (mainMachine cfg).step ⟨.between [], [], globals w.lua⟩ .advance =
        some ⟨.done, [], globals w.lua⟩ := rfl
    exact ⟨_, _, _, .single _ hdone, .nil, .all (List.append_nil _).symm rfl⟩
  | cons ph todo ih =>
    rw [runBlocks]
    cases he : enables cfg ph with
    | false =>
      have hskip : (mainMachine cfg).step ⟨.between (ph :: todo), [], globals w.lua⟩ .advance =
          some ⟨.between todo, [], globals w.lua⟩ := by
        simp [mainMachine, step, he]
      obtain ⟨left, seen, calls, htraces, hfollows, haccounts⟩ := ih w
      exact ⟨left, seen, calls, .step _ hskip htraces, hfollows, haccounts⟩
    | true =>
      have henter : (mainMachine cfg).step ⟨.between (ph :: todo), [], globals w.lua⟩ .advance =
          some ⟨.variablesScript ph todo, [], globals w.lua⟩ := by
        simp [mainMachine, step, he]
      obtain ⟨left, seen, calls, htraces, hfollows, haccounts⟩ :=
        traces_runBlock places ha cfg ph todo w
      have hblock : (mainMachine cfg).Traces sees _ _ _ := .step _ henter htraces
      rw [if_pos rfl]
      cases hrun : runBlock host places cfg ph w with
      | mk w' exit =>
        rw [hrun] at hblock haccounts
        cases exit with
        | none =>
          cases haccounts with
          | all hcalls hglobals =>
            subst hglobals
            obtain ⟨left, seen', calls', htraces', hfollows', haccounts'⟩ := ih w'
            refine ⟨left, _, _, hblock.trans htraces', hfollows.append hfollows', ?_⟩
            rwa [← List.append_assoc, ← hcalls]
        | some exit => exact ⟨left, _, _, hblock, hfollows, haccounts⟩

/-! The setup, and the whole of `main`. -/

theorem Host.ActsOn.loadFennel (ha : host.ActsOn globals text) (w : World ω) :
    (∃ ops : List ScriptOp, globals (loadFennel host places w).lua =
      ops.foldl ScriptOp.apply (globals w.lua)) ∧
      (Driver.loadFennel host places w).calls = w.calls := by
  unfold Driver.loadFennel
  cases host.cachedFennel w.lua with
  | some fennel => exact ⟨⟨[], rfl⟩, rfl⟩
  | none =>
    obtain ⟨ops, hops⟩ := ha.scriptFile places.fennelSourcePath w.lua
    cases hr : host.scriptFile places.fennelSourcePath w.lua with
    | mk lua result =>
      rw [hr] at hops
      cases result with
      | error what => exact ⟨⟨ops, hops⟩, rfl⟩
      | ok fennel => exact ⟨⟨ops, (ha.cacheFennel _ _).trans hops⟩, rfl⟩

theorem Host.ActsOn.loadYodaFnl (ha : host.ActsOn globals text) (fennel : ScriptValue) (lua : ω) :
    ∃ ops : List ScriptOp, globals (loadYodaFnl host places fennel lua) =
      ops.foldl ScriptOp.apply (globals lua) := by
  obtain ⟨ops, hops⟩ := ha.dofile fennel (places.luaModuleDir ++ "/yoda.fnl".toList) none
    (host.setFennelPath fennel (places.luaModuleDir ++ "/?.fnl;".toList) lua)
  rw [ha.setFennelPath] at hops
  refine ⟨ops, ?_⟩
  unfold Driver.loadYodaFnl
  cases hr : host.dofile fennel (places.luaModuleDir ++ "/yoda.fnl".toList) none
      (host.setFennelPath fennel (places.luaModuleDir ++ "/?.fnl;".toList) lua) with
  | mk lua' result =>
    rw [hr] at hops
    cases result with
    | error what =>
      simp only [hr]
      exact hops
    | ok compiled =>
      simp only [hr]
      exact (ha.cacheYoda _ _).trans hops

/-- The setup does a number of assignments, and calls no script of the user. -/
theorem Host.ActsOn.setupFennel (ha : host.ActsOn globals text) (w : World ω) :
    (∃ ops : List ScriptOp, globals (setupFennel host places w).lua =
      ops.foldl ScriptOp.apply (globals w.lua)) ∧
      (Driver.setupFennel host places w).calls = w.calls := by
  obtain ⟨⟨ops, hops⟩, hcalls⟩ := ha.loadFennel places w
  unfold Driver.setupFennel
  cases hc : host.cachedFennel (Driver.loadFennel host places w).lua with
  | none =>
    simp only [hc]
    exact ⟨⟨ops, hops⟩, hcalls⟩
  | some fennel =>
    obtain ⟨ops', hops'⟩ := ha.loadYodaFnl places fennel (Driver.loadFennel host places w).lua
    simp only [hc]
    refine ⟨⟨ops ++ ops', ?_⟩, hcalls⟩
    rw [hops', hops, List.foldl_append]

/-- Assignments put no address where there was none at all. -/
theorem plain_ops {globals : Globals} (hplain : ∀ g, ∃ v, globals g = .plain v)
    (ops : List ScriptOp) : ∀ g, ∃ v, ops.foldl ScriptOp.apply globals g = .plain v := by
  induction ops generalizing globals with
  | nil => exact hplain
  | cons op ops ih =>
    apply ih
    intro g
    cases hg : op.apply globals g with
    | plain v => exact ⟨v, rfl⟩
    | pointer o =>
      obtain ⟨g', hg'⟩ := ScriptOp.exists_of_apply_eq_pointer hg
      obtain ⟨v, hv⟩ := hplain g'
      cases hv.symm.trans hg'

/-- A run of `main` past its command line, from globals that hold no address: the machine runs too,
and every script that it starts is one that `main` calls, of the same file, with the same globals
and with the same end; and there is no other call but the one in vain of a block whose script has no
name. Both end in the same way. -/
theorem main_follows (ha : host.ActsOn globals text) {helpText versionText : CppString}
    {args : List CppString} {path content : CppString}
    (hcli : parseCommandLine helpText versionText args = .goesOn path)
    (file : CppString → Option CppString) (hfile : file path = some content) {lua ready : ω}
    (hready : host.prepare lua = some ready) (hinit : ∀ g, ∃ v, globals ready g = .plain v) :
    let run := main host places helpText versionText file args lua
    ∃ cfg start left seen calls, loadLuaConfig path (some content) = .ok cfg ∧
      (mainMachine cfg).Init start ∧
      (mainMachine cfg).Traces sees start seen ⟨.ofExit run.2, [], left⟩ ∧
      (mainMachine cfg).Reachable ⟨.ofExit run.2, [], left⟩ ∧
      Follows cfg globals text seen calls ∧ Accounts globals left calls run.1 (some run.2) := by
  intro run
  have hrun : run = runBlocks host places (readConfig content) Phase.order
      (Driver.setupFennel host places (.new ready)) := by
    simp only [run, main, hcli, hfile, loadLuaConfig, hready]
  obtain ⟨⟨ops, hops⟩, hcalls⟩ := ha.setupFennel places (.new ready)
  have hplain := plain_ops hinit ops
  obtain ⟨left, seen, calls, htraces, hfollows, haccounts⟩ := traces_runBlocks places ha
    (readConfig content) Phase.order (Driver.setupFennel host places (.new ready))
  rw [hcalls, ← hrun] at haccounts
  rw [← hrun, hops] at htraces
  have hstart : (mainMachine (readConfig content)).Init
      ⟨.between Phase.order, [], ops.foldl ScriptOp.apply (globals (World.new ready).lua)⟩ :=
    ⟨rfl, rfl, hplain⟩
  exact ⟨readConfig content, _, left, seen, calls, rfl, hstart, htraces,
    htraces.reachable (.init hstart), hfollows, haccounts⟩

end Refinement

theorem plainHost_actsOn : plainHost.ActsOn Prod.fst plainText where
  scriptFile path lua := by
    unfold plainHost
    simp only
    split_ifs
    · exact ⟨[.write .functionScript (.string "f.fnl".toList)], rfl⟩
    · exact ⟨[], rfl⟩
    · exact ⟨[], rfl⟩
  dofile _ _ _ _ := ⟨[], rfl⟩
  cacheFennel _ _ := rfl
  setFennelPath _ _ _ := rfl
  cacheYoda _ _ := rfl
  functionScript lua htext := rfl
  unnamed lua htext := by
    right
    unfold plainHost plainText
    unfold LuaValue.IsText at htext
    simp only
    split <;> simp_all
  noFile lua := ⟨_, rfl⟩
  setGlobals _ _ _ := rfl

theorem plainHost_follows :
    let run := main plainHost ⟨"fennel.lua".toList, "lua".toList⟩ [] []
      (fun _ => some "variables: variables.lua\nbulk:\n  use: true\n".toList)
      ["-c".toList, "bulk.yml".toList] (fun _ => .plain .nil, none)
    ∃ cfg start left seen calls, loadLuaConfig "bulk.yml".toList
        (some "variables: variables.lua\nbulk:\n  use: true\n".toList) = .ok cfg ∧
      (mainMachine cfg).Init start ∧
      (mainMachine cfg).Traces sees start seen ⟨.ofExit run.2, [], left⟩ ∧
      (mainMachine cfg).Reachable ⟨.ofExit run.2, [], left⟩ ∧
      Follows cfg Prod.fst plainText seen calls ∧
        Accounts Prod.fst left calls run.1 (some run.2) := by
  have hcli : parseCommandLine [] [] ["-c".toList, "bulk.yml".toList] =
      .goesOn "bulk.yml".toList := by decide +kernel
  have hready : plainHost.prepare (fun _ => .plain .nil, none) =
      some (fun _ => .plain .nil, none) := rfl
  exact main_follows ⟨"fennel.lua".toList, "lua".toList⟩ plainHost_actsOn hcli
    (fun _ => some "variables: variables.lua\nbulk:\n  use: true\n".toList) rfl hready
    fun _ => ⟨.nil, rfl⟩

end YodaStruct.Driver
