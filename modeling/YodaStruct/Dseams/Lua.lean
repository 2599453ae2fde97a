import YodaStruct.Driver.Globals
import YodaStruct.Library.CallLog

/-! What the Lua front end uses of the language: truth, numbers and errors. -/
namespace YodaStruct.Driver.ScriptValue

/-- Everything but `nil` and `false` counts as true. -/
def truthy : ScriptValue → Bool
  | nil | boolean false => false
  | _ => true

/-- `v or default`. -/
def orElse (v default : ScriptValue) : ScriptValue := if v.truthy then v else default

def toNumber : ScriptValue → Option ℚ
  | integer n => some n
  | float x => some x
  | _ => none

theorem orElse_of_truthy {v : ScriptValue} (h : v.truthy) (default : ScriptValue) :
    v.orElse default = v := if_pos h

theorem orElse_of_not_truthy {v : ScriptValue} (h : ¬v.truthy) (default : ScriptValue) :
    v.orElse default = default := if_neg h

theorem truthy_of_toNumber {v : ScriptValue} {q : ℚ} (h : v.toNumber = some q) : v.truthy := by
  cases v with
  | integer n => rfl
  | float x => rfl
  | _ => cases h

end YodaStruct.Driver.ScriptValue

namespace YodaStruct.Dseams
open YodaStruct.Config YodaStruct.Driver

/-- An error value, and the level of the call that it is put down to. -/
structure LuaError where
  text : CppString
  level : ℕ
  deriving DecidableEq

abbrev Run (κ α : Type) := CallLog.Run κ LuaError α

/-- The options of a call, or an empty table. -/
def opts {Options : Type} [Inhabited Options] (t : Option Options) : Options := t.getD default

end YodaStruct.Dseams
