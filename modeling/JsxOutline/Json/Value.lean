import JsxOutline.Table

/-!
# JSON values
-/

namespace JsxOutline.Json

inductive Value where
  | null
  | bool (b : Bool)
  | integer (n : Int)
  /-- A number that is not written as an integer, by its text. -/
  | real (text : String)
  | string (s : String)
  | array (items : List Value)
  | object (members : List (String × Value))
deriving Inhabited, Repr

namespace Value

def member? : Value → String → Option Value
  | object ms, key => Table.get? ms key
  | _, _ => none

def string? : Value → Option String
  | string s => some s
  | _ => none

def isTrue : Value → Bool
  | bool b => b
  | _ => false

def integer? : Value → Option Int
  | integer n => some n
  | _ => none

def ofString? : Option String → Value
  | some s => string s
  | none => null

end Value

end JsxOutline.Json
