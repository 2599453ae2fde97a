import YodaStruct.Driver.Options
import YodaStruct.Driver.Run

/-! `main`, from the command line to its exit: the scripts that it runs, what it prints, and that
its blocks are those of the machine. The Lua state is a parameter, and a script may do anything
to it. -/
namespace YodaStruct.Driver
open YodaStruct.Config Transition Writes

/-- What `main` does with its Lua state. A script here returns, with a value or an error: one that
ends the program, or never ends, has no place among these functions. -/
structure Host (ω : Type) where
  /-- `luaApi::registerAll`, and what `setupHelpers` does before it comes to Fennel. -/
  prepare : ω → Option ω
  /-- `lua.safe_script_file`. -/
  scriptFile : CppString → ω → ω × Except CppString ScriptValue
  /-- `package.loaded.fennel`, if it is a table. -/
  cachedFennel : ω → Option ScriptValue
  cacheFennel : ScriptValue → ω → ω
  /-- The search path of a compiler. -/
  setFennelPath : ScriptValue → CppString → ω → ω
  /-- The compiler's `dofile`, with its option `allowedGlobals` if it is given. -/
  dofile : ScriptValue → CppString → Option Bool → ω → ω × Except CppString ScriptValue
  cacheYoda : ScriptValue → ω → ω
  /-- `lua.get<std::string>("functionScript")`, if it does not throw. What is not text may throw or
  come as the empty string. -/
  functionScript : ω → Option CppString
  /-- The assignments of a block. -/
  setGlobals : LuaConfig → Phase → ω → ω

/-- The places that the environment gives. -/
structure Places where
  fennelSourcePath : CppString
  luaModuleDir : CppString

inductive Event
  /-- The user's script is run. -/
  | runs (path : CppString)
  /-- The file of the Fennel compiler is run, and whether that goes well. -/
  | loadsCompiler (ok : Bool)
  /-- A message on `std::cerr`. -/
  | reports (text : CppString)
  /-- A message on `std::cout`. -/
  | prints (text : CppString)
  deriving DecidableEq

/-- An uncaught exception ends the program by itself. -/
inductive Exit
  | code (n : ℕ)
  | terminated
  deriving DecidableEq

/-- A call of `runScriptFile` from a block, with the Lua state that it finds and the code that it
returns. -/
structure ScriptCall (ω : Type) where
  path : CppString
  lua : ω
  code : ℕ

structure World (ω : Type) where
  lua : ω
  log : List Event
  calls : List (ScriptCall ω)

/-- `main` at its start. -/
def World.new {ω : Type} (lua : ω) : World ω := ⟨lua, [], []⟩

def isFennel (path : CppString) : Bool :=
  path.length ≥ 4 && path.drop (path.length - 4) == ".fnl".toList

def luaError (path what : CppString) : CppString :=
  "Lua error in ".toList ++ path ++ ":\n".toList ++ what ++ "\n".toList

def fennelError (path what : CppString) : CppString :=
  "Fennel error in ".toList ++ path ++ ":\n".toList ++ what ++ "\n".toList

def compilerError (source what : CppString) : CppString :=
  "Cannot load the Fennel compiler from ".toList ++ source ++
    " (set YODA_FENNEL_PATH to override):\n".toList ++ what ++ "\n".toList

def yesNo (b : Bool) : CppString := if b then "true".toList else "false".toList

/-- What `main` prints in the end. -/
def welcome (cfg : LuaConfig) : CppString :=
  "Welcome to the Black Parade.\nYou ran:-\n".toList ++ "\nBulk Ice Analysis: ".toList ++
    yesNo cfg.bulkUse ++ "\nQuasi-one-dimensional Ice Analysis: ".toList ++ yesNo cfg.topoOneDim ++
    "\nQuasi-two-dimensional Ice Analysis: ".toList ++ yesNo cfg.topoTwoDim ++
    "\nStructure descriptors: ".toList ++ yesNo cfg.structureDesc ++ "\n".toList

section Main
variable {ω : Type} (host : Host ω) (places : Places)

/-- The compiler for a script: the one that is cached, or a new one, which is cached. -/
def compiler (w : World ω) : World ω × Option ScriptValue :=
  match host.cachedFennel w.lua with
  | some fennel => (w, some fennel)
  | none =>
    match host.scriptFile places.fennelSourcePath w.lua with
    | (lua, .error what) =>
      ({ w with
        lua := lua
        log := w.log ++
          [.loadsCompiler false, .reports (compilerError places.fennelSourcePath what)] }, none)
    | (lua, .ok fennel) =>
      ({ w with
        lua := host.cacheFennel fennel lua
        log := w.log ++ [.loadsCompiler true] }, some fennel)

/-- How a script that was run ends. -/
def scriptEnd (error : CppString → CppString → CppString) (path : CppString) (w : World ω) :
    ω × Except CppString ScriptValue → World ω × ℕ
  | (lua, .error what) =>
    ({ w with lua := lua, log := w.log ++ [.runs path, .reports (error path what)] }, 1)
  | (lua, .ok _) => ({ w with lua := lua, log := w.log ++ [.runs path] }, 0)

def runScriptFile (path : CppString) (w : World ω) : World ω × ℕ :=
  if isFennel path then
    match compiler host places w with
    | (w, none) => (w, 1)
    | (w, some fennel) => scriptEnd fennelError path w (host.dofile fennel path (some false) w.lua)
  else scriptEnd luaError path w (host.scriptFile path w.lua)

/-- The compiler is looked for when `main` starts, and not missed if it is not there. -/
def loadFennel (w : World ω) : World ω :=
  match host.cachedFennel w.lua with
  | some _ => w
  | none =>
    match host.scriptFile places.fennelSourcePath w.lua with
    | (lua, .error _) => { w with lua := lua, log := w.log ++ [.loadsCompiler false] }
    | (lua, .ok fennel) =>
      { w with lua := host.cacheFennel fennel lua, log := w.log ++ [.loadsCompiler true] }

/-- The Fennel module of the front end, which is not missed either. -/
def loadYodaFnl (fennel : ScriptValue) (lua : ω) : ω :=
  let lua := host.setFennelPath fennel (places.luaModuleDir ++ "/?.fnl;".toList) lua
  match host.dofile fennel (places.luaModuleDir ++ "/yoda.fnl".toList) none lua with
  | (lua, .error _) => lua
  | (lua, .ok compiled) => host.cacheYoda compiled lua

/-- The Fennel part of `setupHelpers`. -/
def setupFennel (w : World ω) : World ω :=
  let w := loadFennel host places w
  match host.cachedFennel w.lua with
  | none => w
  | some fennel => { w with lua := loadYodaFnl host places fennel w.lua }

/-- `runScriptFile` called from a block, which is written down. -/
def callScript (path : CppString) (w : World ω) : World ω × ℕ :=
  let (after, code) := runScriptFile host places path w
  ({ after with calls := after.calls ++ [⟨path, w.lua, code⟩] }, code)

variable (cfg : LuaConfig)

/-- The body of an enabled block, and how `main` ends in it, if it does. -/
def runBlock (ph : Phase) (w : World ω) : World ω × Option Exit :=
  match callScript host places cfg.variablesFile w with
  | (w, 0) =>
    match host.functionScript w.lua with
    | none => (w, some .terminated)
    | some lscript =>
      match callScript host places lscript { w with lua := host.setGlobals cfg ph w.lua } with
      | (w, 0) => (w, none)
      | (w, _ + 1) => (w, some (.code 1))
  | (w, _ + 1) => (w, some (.code 1))

/-- The blocks that are left, and the end of `main`. -/
def runBlocks : List Phase → World ω → World ω × Exit
  | [], w => ({ w with log := w.log ++ [.prints (welcome cfg)] }, .code 0)
  | ph :: todo, w =>
    if enables cfg ph then
      match runBlock host places cfg ph w with
      | (w, none) => runBlocks todo w
      | (w, some exit) => (w, exit)
    else runBlocks todo w

end Main

section Program
variable {ω : Type} (host : Host ω) (places : Places) (helpText versionText : CppString)
  (file : CppString → Option CppString)

/-- `main`. `file` is what opening a path gives. -/
def main (args : List CppString) (lua : ω) : World ω × Exit :=
  match parseCommandLine helpText versionText args with
  | .exits code output => ({ World.new lua with log := [.prints output] }, .code code)
  | .goesOn path =>
    match loadLuaConfig path (file path) with
    | .error _ => (.new lua, .terminated)
    | .ok cfg =>
      match host.prepare lua with
      | none => (.new lua, .terminated)
      | some lua => runBlocks host places cfg Phase.order (setupFennel host places (.new lua))

end Program

/-- The text of a value, and none of what has no text. -/
def plainText : LuaValue → CppString
  | .plain (.string s) => s
  | .plain (.integer n) => (toString n).toList
  | .plain (.float x) => (toString x).toList
  | _ => []

/-- A Lua state that is no more than its globals and its compiler, in a build without checks. Its
variables script names a Fennel script, and all others do nothing. -/
def plainHost : Host (Globals × Option ScriptValue) where
  prepare := some
  scriptFile path lua :=
    if path = "variables.lua".toList then
      ((ScriptOp.apply lua.1 (.write .functionScript (.string "f.fnl".toList)), lua.2), .ok .nil)
    else if path = [] then (lua, .error "cannot open".toList)
    else (lua, .ok (.other 0))
  cachedFennel := Prod.snd
  cacheFennel fennel lua := (lua.1, some fennel)
  setFennelPath _ _ lua := lua
  dofile _ _ _ lua := (lua, .ok .nil)
  cacheYoda _ lua := lua
  functionScript lua := some (plainText (lua.1 .functionScript))
  setGlobals cfg ph lua := (writeAll lua.1 (bindings cfg ph), lua.2)

end YodaStruct.Driver
