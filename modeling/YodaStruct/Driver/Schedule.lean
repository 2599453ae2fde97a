import YodaStruct.Driver.Main

/-! The schedule of `main`: which scripts a whole run comes to, in which order, what it prints, and
how often it loads the compiler. -/
namespace YodaStruct.Driver
open YodaStruct.Config

def Event.script : Event → Option CppString
  | .runs path => some path
  | _ => none

def Event.report : Event → Option CppString
  | .reports text => some text
  | _ => none

def Event.print : Event → Option CppString
  | .prints text => some text
  | _ => none

def scripts (log : List Event) : List CppString := log.filterMap Event.script
def reports (log : List Event) : List CppString := log.filterMap Event.report
def prints (log : List Event) : List CppString := log.filterMap Event.print

@[simp] theorem scripts_append (log log' : List Event) :
    scripts (log ++ log') = scripts log ++ scripts log' := List.filterMap_append

@[simp] theorem reports_append (log log' : List Event) :
    reports (log ++ log') = reports log ++ reports log' := List.filterMap_append

@[simp] theorem prints_append (log log' : List Event) :
    prints (log ++ log') = prints log ++ prints log' := List.filterMap_append

section Schedule
variable {ω : Type} (host : Host ω) (places : Places)

/-- What is logged for a script: it is run, or there is one report, of it or of the compiler. -/
inductive ScriptLog (path : CppString) : ℕ → List Event → Prop
  | well {log : List Event} (hs : scripts log = [path]) (hr : reports log = [])
    (hp : prints log = []) : ScriptLog path 0 log
  | badly {log : List Event} (hs : scripts log = [path] ∨ scripts log = []) (text : CppString)
    (hr : reports log = [text]) (hp : prints log = []) : ScriptLog path 1 log

/-- What comes before a script without running one or printing anything goes with it. -/
theorem ScriptLog.append {path : CppString} {code : ℕ} {log log' : List Event}
    (h : ScriptLog path code log') (hs : scripts log = []) (hr : reports log = [])
    (hp : prints log = []) : ScriptLog path code (log ++ log') := by
  cases h with
  | well hs' hr' hp' => exact .well (by simp [hs, hs']) (by simp [hr, hr']) (by simp [hp, hp'])
  | badly hs' text hr' hp' =>
    exact .badly (by simpa [hs] using hs') text (by simp [hr, hr']) (by simp [hp, hp'])

theorem scriptEnd_log (error : CppString → CppString → CppString) (path : CppString) (w : World ω)
    (r : ω × Except CppString ScriptValue) :
    ∃ log, (scriptEnd error path w r).1.log = w.log ++ log ∧
      ScriptLog path (scriptEnd error path w r).2 log := by
  obtain ⟨lua, result⟩ := r
  cases result with
  | error what => exact ⟨_, rfl, .badly (.inl rfl) (error path what) rfl rfl⟩
  | ok v => exact ⟨_, rfl, .well rfl rfl rfl⟩

/-- The search for the compiler runs no script of the user. It reports when there is none. -/
theorem compiler_log (w : World ω) :
    ∃ log, (compiler host places w).1.log = w.log ++ log ∧ scripts log = [] ∧ prints log = [] ∧
      if (compiler host places w).2.isSome then reports log = [] else ∃ text, reports log = [text] := by
  unfold compiler
  cases host.cachedFennel w.lua with
  | some fennel => exact ⟨[], (List.append_nil _).symm, rfl, rfl, rfl⟩
  | none =>
    cases host.scriptFile places.fennelSourcePath w.lua with
    | mk lua result =>
      cases result with
      | error what => exact ⟨_, rfl, rfl, rfl, _, rfl⟩
      | ok fennel => exact ⟨_, rfl, rfl, rfl, rfl⟩

/-- Every script leaves such a log, in plain Lua or in Fennel. -/
theorem runScriptFile_log (path : CppString) (w : World ω) :
    ∃ log, (runScriptFile host places path w).1.log = w.log ++ log ∧
      ScriptLog path (runScriptFile host places path w).2 log := by
  unfold runScriptFile
  by_cases hf : isFennel path
  · rw [if_pos hf]
    obtain ⟨log, hlog, hs, hp, hr⟩ := compiler_log host places w
    cases hc : compiler host places w with
    | mk w' found =>
      rw [hc] at hlog hr
      cases found with
      | none =>
        obtain ⟨text, hr⟩ := hr
        exact ⟨log, hlog, .badly (.inr hs) text hr hp⟩
      | some fennel =>
        obtain ⟨log', hlog', hend⟩ := scriptEnd_log fennelError path w'
          (host.dofile fennel path (some false) w'.lua)
        refine ⟨log ++ log', ?_, ?_⟩
        · rw [← List.append_assoc, ← hlog]
          exact hlog'
        · exact hend.append hs hr hp
  · rw [if_neg hf]
    exact scriptEnd_log _ _ _ _

/-- To write the call down leaves the log as it is. -/
theorem callScript_log (path : CppString) (w : World ω) :
    ∃ log, (callScript host places path w).1.log = w.log ++ log ∧
      ScriptLog path (callScript host places path w).2 log := runScriptFile_log host places path w

variable (cfg : LuaConfig)

/-- The part of a block that was run when `main` ends in it. -/
def IsCut (vars : CppString) (part : List CppString) : Prop :=
  part = [] ∨ part = [vars] ∨ ∃ f, part = [vars, f]

/-- What is logged for a block: both its scripts are run, or it ends `main`. -/
inductive BlockLog (vars : CppString) : Option Exit → List Event → Prop
  | well {log : List Event} (f : CppString) (hs : scripts log = [vars, f]) (hr : reports log = [])
    (hp : prints log = []) : BlockLog vars none log
  | badly {log : List Event} (hs : IsCut vars (scripts log)) (text : CppString)
    (hr : reports log = [text]) (hp : prints log = []) : BlockLog vars (some (.code 1)) log
  | terminated {log : List Event} (hs : scripts log = [vars]) (hr : reports log = [])
    (hp : prints log = []) : BlockLog vars (some .terminated) log

theorem runBlock_log (ph : Phase) (w : World ω) :
    ∃ log, (runBlock host places cfg ph w).1.log = w.log ++ log ∧
      BlockLog cfg.variablesFile (runBlock host places cfg ph w).2 log := by
  unfold runBlock
  obtain ⟨log, hlog, hvars⟩ := callScript_log host places cfg.variablesFile w
  cases hrun : callScript host places cfg.variablesFile w with
  | mk w' code =>
    rw [hrun] at hlog hvars
    cases hvars with
    | badly hs text hr hp =>
      refine ⟨log, hlog, .badly ?_ text hr hp⟩
      rcases hs with hs | hs
      · exact .inr (.inl hs)
      · exact .inl hs
    | well hs hr hp =>
      simp only
      cases host.functionScript w'.lua with
      | none => exact ⟨log, hlog, .terminated hs hr hp⟩
      | some lscript =>
        simp only
        obtain ⟨log', hlog', hfun⟩ := callScript_log host places lscript
          { w' with lua := host.setGlobals cfg ph w'.lua }
        have hboth : w'.log ++ log' = w.log ++ (log ++ log') := by
          rw [← List.append_assoc]
          exact congrArg (· ++ log') hlog
        cases hrun' : callScript host places lscript
            { w' with lua := host.setGlobals cfg ph w'.lua } with
        | mk w'' code =>
          rw [hrun'] at hlog' hfun
          cases hfun with
          | well hs' hr' hp' =>
            exact ⟨log ++ log', hlog'.trans hboth, .well lscript (by simp [hs, hs'])
              (by simp [hr, hr']) (by simp [hp, hp'])⟩
          | badly hs' text hr' hp' =>
            refine ⟨log ++ log', hlog'.trans hboth, .badly ?_ text (by simp [hr, hr'])
              (by simp [hp, hp'])⟩
            rcases hs' with hs' | hs'
            · exact .inr (.inr ⟨lscript, by simp [hs, hs']⟩)
            · exact .inr (.inl (by simp [hs, hs']))

/-- The scripts of blocks that were run to their ends. -/
def pairs (vars : CppString) (names : List CppString) : List CppString :=
  names.flatMap fun f => [vars, f]

/-- What is logged from the blocks that are left, `n` of them enabled: all of them are run, and the
welcome is printed; or the last one that is come to ends `main`. -/
inductive RunLog (cfg : LuaConfig) (n : ℕ) : Exit → List Event → Prop
  | well {log : List Event} (names : List CppString) (hn : names.length = n)
    (hs : scripts log = pairs cfg.variablesFile names) (hr : reports log = [])
    (hp : prints log = [welcome cfg]) : RunLog cfg n (.code 0) log
  | badly {log : List Event} (names : List CppString) (hn : names.length < n)
    (part : List CppString) (hpart : IsCut cfg.variablesFile part)
    (hs : scripts log = pairs cfg.variablesFile names ++ part) (text : CppString)
    (hr : reports log = [text]) (hp : prints log = []) : RunLog cfg n (.code 1) log
  | terminated {log : List Event} (names : List CppString) (hn : names.length < n)
    (hs : scripts log = pairs cfg.variablesFile names ++ [cfg.variablesFile])
    (hr : reports log = []) (hp : prints log = []) : RunLog cfg n .terminated log

/-- A block that was run well goes before what is left. -/
theorem RunLog.cons {n : ℕ} {exit : Exit} {log log' : List Event} (h : RunLog cfg n exit log')
    {f : CppString} (hs : scripts log = [cfg.variablesFile, f]) (hr : reports log = [])
    (hp : prints log = []) : RunLog cfg (n + 1) exit (log ++ log') := by
  cases h with
  | well names hn hs' hr' hp' =>
    exact .well (f :: names) (by simp [hn]) (by simp [hs, hs', pairs]) (by simp [hr, hr'])
      (by simp [hp, hp'])
  | badly names hn part hpart hs' text hr' hp' =>
    exact .badly (f :: names) (by simpa using hn) part hpart (by simp [hs, hs', pairs]) text
      (by simp [hr, hr']) (by simp [hp, hp'])
  | terminated names hn hs' hr' hp' =>
    exact .terminated (f :: names) (by simpa using hn) (by simp [hs, hs', pairs])
      (by simp [hr, hr']) (by simp [hp, hp'])

theorem runBlocks_log (todo : List Phase) (w : World ω) :
    ∃ log, (runBlocks host places cfg todo w).1.log = w.log ++ log ∧
      RunLog cfg (todo.filter (enables cfg)).length (runBlocks host places cfg todo w).2 log := by
  induction todo generalizing w with
  | nil => exact ⟨_, rfl, .well [] rfl rfl rfl rfl⟩
  | cons ph todo ih =>
    rw [runBlocks]
    cases he : enables cfg ph with
    | false =>
      rw [if_neg (by simp), List.filter_cons_of_neg (by simp [he])]
      exact ih w
    | true =>
      rw [if_pos rfl, List.filter_cons_of_pos he, List.length_cons]
      obtain ⟨log, hlog, hblock⟩ := runBlock_log host places cfg ph w
      cases hrun : runBlock host places cfg ph w with
      | mk w' exit =>
        rw [hrun] at hlog hblock
        cases hblock with
        | well f hs hr hp =>
          obtain ⟨log', hlog', hrest⟩ := ih w'
          refine ⟨log ++ log', ?_, hrest.cons cfg hs hr hp⟩
          rw [← List.append_assoc, ← hlog]
          exact hlog'
        | badly hs text hr hp =>
          exact ⟨log, hlog, .badly [] (by simp) _ hs rfl text hr hp⟩
        | terminated hs hr hp => exact ⟨log, hlog, .terminated [] (by simp) hs hr hp⟩

/-- What comes before the blocks without running a script or printing goes with them. -/
theorem RunLog.append {n : ℕ} {exit : Exit} {log log' : List Event} (h : RunLog cfg n exit log')
    (hs : scripts log = []) (hr : reports log = []) (hp : prints log = []) :
    RunLog cfg n exit (log ++ log') := by
  cases h with
  | well names hn hs' hr' hp' =>
    exact .well names hn (by simp [hs, hs']) (by simp [hr, hr']) (by simp [hp, hp'])
  | badly names hn part hpart hs' text hr' hp' =>
    exact .badly names hn part hpart (by simp [hs, hs']) text (by simp [hr, hr']) (by simp [hp, hp'])
  | terminated names hn hs' hr' hp' =>
    exact .terminated names hn (by simp [hs, hs']) (by simp [hr, hr']) (by simp [hp, hp'])

theorem loadFennel_log (w : World ω) : ∃ log, (loadFennel host places w).log = w.log ++ log ∧
    scripts log = [] ∧ reports log = [] ∧ prints log = [] := by
  unfold loadFennel
  cases host.cachedFennel w.lua with
  | some fennel => exact ⟨[], (List.append_nil _).symm, rfl, rfl, rfl⟩
  | none =>
    cases host.scriptFile places.fennelSourcePath w.lua with
    | mk lua result => cases result <;> exact ⟨_, rfl, rfl, rfl, rfl⟩

theorem log_setupFennel (w : World ω) :
    (setupFennel host places w).log = (loadFennel host places w).log := by
  unfold setupFennel
  cases h : host.cachedFennel (loadFennel host places w).lua <;> simp only [h]

/-- A command line that `main` does not go on from ends it: its text is printed, and no script is
run. -/
theorem main_of_exits {helpText versionText : CppString} {args : List CppString} {code : ℕ}
    {output : CppString} (hcli : parseCommandLine helpText versionText args = .exits code output)
    (file : CppString → Option CppString) (lua : ω) :
    main host places helpText versionText file args lua =
      ({ World.new lua with log := [.prints output] }, .code code) := by
  simp only [main, hcli]

/-- A run of `main` past its command line: it ends for want of a config or of a Lua state, or it has
run the blocks as far as they went well. -/
theorem main_log {helpText versionText : CppString} {args : List CppString} {path : CppString}
    (hcli : parseCommandLine helpText versionText args = .goesOn path)
    (file : CppString → Option CppString) (lua : ω) :
    let run := main host places helpText versionText file args lua
    ((file path = none ∨ host.prepare lua = none) ∧ run.2 = .terminated ∧ run.1.log = []) ∨
    ∃ text cfg, file path = some text ∧ loadLuaConfig path (some text) = .ok cfg ∧
      RunLog cfg (Phase.order.filter (enables cfg)).length run.2 run.1.log := by
  intro run
  cases hfile : file path with
  | none =>
    have hmain : run = (.new lua, .terminated) := by
      simp only [run, main, hcli, hfile, loadLuaConfig]
    exact .inl ⟨.inl rfl, by rw [hmain], by rw [hmain]; rfl⟩
  | some text =>
    cases hlua : host.prepare lua with
    | none =>
      have hmain : run = (.new lua, .terminated) := by
        simp only [run, main, hcli, hfile, loadLuaConfig, hlua]
      exact .inl ⟨.inr rfl, by rw [hmain], by rw [hmain]; rfl⟩
    | some ready =>
      have hmain : run = runBlocks host places (readConfig text) Phase.order
          (setupFennel host places (.new ready)) := by
        simp only [run, main, hcli, hfile, loadLuaConfig, hlua]
      obtain ⟨log, hsetup, hs, hr, hp⟩ := loadFennel_log host places (.new ready)
      obtain ⟨log', hlog', hrun⟩ := runBlocks_log host places (readConfig text) Phase.order
        (setupFennel host places (.new ready))
      have hnew : log = (loadFennel host places (.new ready)).log := hsetup.symm
      rw [log_setupFennel, ← hnew] at hlog'
      refine .inr ⟨text, readConfig text, rfl, rfl, ?_⟩
      rw [hmain, hlog']
      exact hrun.append _ hs hr hp

end Schedule

theorem plainHost_log :
    let run := main plainHost ⟨"fennel.lua".toList, "lua".toList⟩ [] []
      (fun _ => some "variables: variables.lua\nbulk:\n  use: true\n".toList)
      ["-c".toList, "bulk.yml".toList] (fun _ => .plain .nil, none)
    ∃ text cfg, loadLuaConfig "bulk.yml".toList (some text) = .ok cfg ∧
      RunLog cfg (Phase.order.filter (enables cfg)).length run.2 run.1.log := by
  have hcli : parseCommandLine [] [] ["-c".toList, "bulk.yml".toList] =
      .goesOn "bulk.yml".toList := by decide +kernel
  rcases main_log plainHost ⟨"fennel.lua".toList, "lua".toList⟩ hcli
    (fun _ => some "variables: variables.lua\nbulk:\n  use: true\n".toList)
    (fun _ => .plain .nil, none) with ⟨hnone | hnone, -⟩ | ⟨text, cfg, -, hcfg, hlog⟩
  · cases hnone
  · cases hnone
  · exact ⟨text, cfg, hcfg, hlog⟩

end YodaStruct.Driver
