import Mathlib.Algebra.Group.Int.Defs
import Mathlib.Tactic.Common

/-!
# JSON values

The values a JSON library hands to a program, with their accessors. An object is the list of its
fields, of which the first of a name counts.
-/

namespace Penguind.Foundation

inductive Value
  | null
  | bool (b : Bool)
  | int (n : Int)
  | float (bits : UInt64)
  | string (s : String)
  | array (items : List Value)
  | object (fields : List (String × Value))

namespace Value

def fields : Value → List (String × Value)
  | .object fs => fs
  | .null | .bool _ | .int _ | .float _ | .string _ | .array _ => []

def get (v : Value) (key : String) : Option Value := v.fields.lookup key

def asStr : Value → Option String
  | .string s => some s
  | .null | .bool _ | .int _ | .float _ | .array _ | .object _ => none

def asBool : Value → Option Bool
  | .bool b => some b
  | .null | .int _ | .float _ | .string _ | .array _ | .object _ => none

def asI64 : Value → Option Int64
  | .int n => if -2 ^ 63 ≤ n ∧ n < 2 ^ 63 then some (Int64.ofInt n) else none
  | .null | .bool _ | .float _ | .string _ | .array _ | .object _ => none

def asArray : Value → Option (List Value)
  | .array items => some items
  | .null | .bool _ | .int _ | .float _ | .string _ | .object _ => none

@[simp] theorem asStr_eq_some {v : Value} {s : String} : v.asStr = some s ↔ v = .string s := by
  cases v <;> simp [asStr]

/-! ### The strings inside a value

A value nests lists of values, so each function below comes with its forms for lists of items and
of fields. -/

mutual

def texts : Value → List String
  | .string s => [s]
  | .array items => itemTexts items
  | .object fs => fieldTexts fs
  | .null | .bool _ | .int _ | .float _ => []

def itemTexts : List Value → List String
  | [] => []
  | v :: vs => v.texts ++ itemTexts vs

def fieldTexts : List (String × Value) → List String
  | [] => []
  | (_, v) :: fs => v.texts ++ fieldTexts fs

end

mutual

def keys : Value → List String
  | .array items => itemKeys items
  | .object fs => fieldKeys fs
  | .null | .bool _ | .int _ | .float _ | .string _ => []

def itemKeys : List Value → List String
  | [] => []
  | v :: vs => v.keys ++ itemKeys vs

def fieldKeys : List (String × Value) → List String
  | [] => []
  | (key, v) :: fs => key :: (v.keys ++ fieldKeys fs)

end

section MapTexts

variable (f : String → String)

mutual

def mapTexts : Value → Value
  | .string s => .string (f s)
  | .array items => .array (mapItems items)
  | .object fs => .object (mapFields fs)
  | .null => .null
  | .bool b => .bool b
  | .int n => .int n
  | .float bits => .float bits

def mapItems : List Value → List Value
  | [] => []
  | v :: vs => v.mapTexts :: mapItems vs

def mapFields : List (String × Value) → List (String × Value)
  | [] => []
  | (key, v) :: fs => (key, v.mapTexts) :: mapFields fs

end

mutual

theorem texts_mapTexts (v : Value) : (v.mapTexts f).texts = v.texts.map f := by
  cases v with
  | string s => simp [mapTexts, texts]
  | array items => rw [mapTexts, texts, texts, itemTexts_mapItems items]
  | object fs => rw [mapTexts, texts, texts, fieldTexts_mapFields fs]
  | _ => simp [mapTexts, texts]

theorem itemTexts_mapItems (vs : List Value) :
    itemTexts (mapItems f vs) = (itemTexts vs).map f := by
  cases vs with
  | nil => simp [mapItems, itemTexts]
  | cons v vs =>
    rw [mapItems, itemTexts, itemTexts, List.map_append, texts_mapTexts v, itemTexts_mapItems vs]

theorem fieldTexts_mapFields (fs : List (String × Value)) :
    fieldTexts (mapFields f fs) = (fieldTexts fs).map f := by
  cases fs with
  | nil => simp [mapFields, fieldTexts]
  | cons field fs =>
    rw [mapFields, fieldTexts, fieldTexts, List.map_append, texts_mapTexts field.2,
      fieldTexts_mapFields fs]

end

mutual

theorem keys_mapTexts (v : Value) : (v.mapTexts f).keys = v.keys := by
  cases v with
  | array items => rw [mapTexts, keys, keys, itemKeys_mapItems items]
  | object fs => rw [mapTexts, keys, keys, fieldKeys_mapFields fs]
  | _ => simp [mapTexts, keys]

theorem itemKeys_mapItems (vs : List Value) : itemKeys (mapItems f vs) = itemKeys vs := by
  cases vs with
  | nil => simp [mapItems, itemKeys]
  | cons v vs => rw [mapItems, itemKeys, itemKeys, keys_mapTexts v, itemKeys_mapItems vs]

theorem fieldKeys_mapFields (fs : List (String × Value)) :
    fieldKeys (mapFields f fs) = fieldKeys fs := by
  cases fs with
  | nil => simp [mapFields, fieldKeys]
  | cons field fs =>
    rw [mapFields, fieldKeys, fieldKeys, keys_mapTexts field.2, fieldKeys_mapFields fs]

end

end MapTexts

theorem mem_itemKeys_map {A : Type*} (g : A → Value) (as : List A) (s : String) :
    s ∈ itemKeys (as.map g) ↔ ∃ a ∈ as, s ∈ (g a).keys := by
  induction as with
  | nil => simp [itemKeys]
  | cons a as ih => simp [itemKeys, ih]

end Value

end Penguind.Foundation
