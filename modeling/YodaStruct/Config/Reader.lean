import YodaStruct.Library.StdString

/-! The config reader of `seams_yaml.hpp`, line by line as the source has it. A byte of
a `std::string` is a `Char`: the reader only compares bytes. -/
namespace YodaStruct.Config
open StdString

abbrev CppString := List Char

structure LuaConfig where
  trajectory : CppString := []
  variablesFile : CppString := []
  bulkUse : Bool := false
  bulkTopo : Bool := false
  bulkBop : Bool := false
  topoOneDim : Bool := false
  topoTwoDim : Bool := false
  structureDesc : Bool := false
  deriving DecidableEq, Repr

/-- The set `" \t\r\n"` of both searches in `trim`. -/
def blanks : CppString := [' ', '\t', '\r', '\n']

def trim (s : CppString) : CppString :=
  match findFirstNotOf s blanks with
  | none => []
  | some a =>
    let b := (findLastNotOf s blanks).getD npos
    substr s a (b - a + 1)

def unquote (s : CppString) : CppString :=
  if s.length ≥ 2 ∧ ((s.head? = some '"' ∧ s.getLast? = some '"') ∨
      (s.head? = some '\'' ∧ s.getLast? = some '\'')) then
    substr s 1 (s.length - 2)
  else s

def asBool (v : CppString) : Bool :=
  v == "true".toList || v == "True".toList || v == "yes".toList || v == "1".toList

/-- The loop variables of `loadLuaConfig`. -/
structure ReaderState where
  cfg : LuaConfig := {}
  sectionName : CppString := []
  deriving DecidableEq

/-- The `if` chain that stores a value under the current section. -/
def storeValue (cfg : LuaConfig) (sectionName key val : CppString) : LuaConfig :=
  if sectionName = [] then
    if key = "trajectory".toList then { cfg with trajectory := val }
    else if key = "variables".toList then { cfg with variablesFile := val }
    else cfg
  else if sectionName = "bulk".toList then
    if key = "use".toList then { cfg with bulkUse := asBool val }
    else if key = "topologicalNetworkCriterion".toList then { cfg with bulkTopo := asBool val }
    else if key = "bondOrderParameters".toList then { cfg with bulkBop := asBool val }
    else cfg
  else if sectionName = "topoOneDim".toList ∧ key = "use".toList then
    { cfg with topoOneDim := asBool val }
  else if sectionName = "topoTwoDim".toList ∧ key = "use".toList then
    { cfg with topoTwoDim := asBool val }
  else if sectionName = "structureDesc".toList ∧ key = "use".toList then
    { cfg with structureDesc := asBool val }
  else cfg

/-- The line after its comment is cut off and both ends are trimmed. -/
def stripLine (line : CppString) : CppString :=
  trim (match find line '#' with
    | none => line
    | some hash => substr line 0 hash)

/-- One turn of the `getline` loop. -/
def readLine (st : ReaderState) (raw : CppString) : ReaderState :=
  let line := stripLine raw
  if line = [] then st
  else if line.getLast? = some ':' then
    { st with sectionName := trim (substr line 0 (line.length - 1)) }
  else match find line ':' with
    | none => st
    | some colon =>
      let key := trim (substr line 0 colon)
      let val := unquote (trim (line.drop (colon + 1)))
      { st with cfg := storeValue st.cfg st.sectionName key val }

/-- What the loop makes of the text of the file. -/
def readConfig (text : CppString) : LuaConfig :=
  ((getlines '\n' text).foldl readLine {}).cfg

/-- `file` is the content that opening `path` gives, if it can be opened. -/
def loadLuaConfig (path : CppString) (file : Option CppString) : Except CppString LuaConfig :=
  match file with
  | none => .error ("cannot open config ".toList ++ path)
  | some text => .ok (readConfig text)

example : loadLuaConfig [] (some "trajectory: 'a b'\nbulk:\n  use: yes # on\n".toList) =
    .ok { trajectory := "a b".toList, bulkUse := true } := by decide

end YodaStruct.Config
