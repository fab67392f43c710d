/-
  Cai.Lib.Json — the values that `json.loads` makes of a JSON text, and the
  operations of Python that the services apply to values of any kind.
-/
import Mathlib.Data.Rat.Defs

namespace Cai.Lib

/-- What a program can see of a `float`: its `repr`, and its value where it is finite. -/
structure JsonFloat where
  repr : String
  value : Option Rat
  deriving DecidableEq, Repr

/-- The values of `json.loads`. -/
inductive Json
  | null
  | bool (value : Bool)
  | int (value : Int)
  | float (value : JsonFloat)
  | str (text : String)
  | list (items : List Json)
  | dict (items : List (String × Json))
  deriving Repr

/-- The items of a `dict`. -/
abbrev JsonObject := List (String × Json)

/-- What Python raises where an operation does not fit its value. -/
inductive Raised
  | typeError
  | overflowError
  deriving DecidableEq, Repr

/-- `mapping.get(key)` -/
def JsonObject.get (object : JsonObject) (key : String) : Json := (object.lookup key).getD .null

namespace Json

/-- `bool(value)` -/
def truthy : Json → Bool
  | null => false
  | bool value => value
  | int value => value != 0
  | float number => number.value != some 0
  | str text => text != ""
  | list items => !items.isEmpty
  | dict items => !items.isEmpty

/-- `value or other` -/
def orElse (value other : Json) : Json := if value.truthy then value else other

/-- The text, where `isinstance(value, str)`. -/
def asText : Json → Option String
  | str text => some text
  | _ => none

/-- The value, where `isinstance(value, bool)`. -/
def asBool : Json → Option Bool
  | bool value => some value
  | _ => none

/-- The number, where `isinstance(value, int)`: `True` and `False` are numbers. -/
def asInt : Json → Option Int
  | int value => some value
  | bool value => some (if value then 1 else 0)
  | _ => none

/-- The items, where `isinstance(value, list)`. -/
def asList : Json → Option (List Json)
  | list items => some items
  | _ => none

/-- The items, where `isinstance(value, Mapping)`. -/
def asDict : Json → Option JsonObject
  | dict items => some items
  | _ => none

/-- `value is True` -/
def isTrue : Json → Bool
  | bool true => true
  | _ => false

/-- `value is False` -/
def isFalse : Json → Bool
  | bool false => true
  | _ => false

/-- A value that can be looked up in a set. -/
def hashable : Json → Bool
  | list _ | dict _ => false
  | _ => true

/-- `str(value)` of a value that can be looked up in a set. -/
def toText : Json → String
  | null => "None"
  | bool value => if value then "True" else "False"
  | int value => toString value
  | float number => number.repr
  | str text => text
  | list _ | dict _ => ""

theorem asText_eq_some_iff {value : Json} {text : String} :
    value.asText = some text ↔ value = .str text := by
  cases value <;> simp [asText]

theorem asDict_eq_some_iff {value : Json} {items : JsonObject} :
    value.asDict = some items ↔ value = .dict items := by
  cases value <;> simp [asDict]

theorem asList_eq_some_iff {value : Json} {items : List Json} :
    value.asList = some items ↔ value = .list items := by
  cases value <;> simp [asList]

end Json

end Cai.Lib
