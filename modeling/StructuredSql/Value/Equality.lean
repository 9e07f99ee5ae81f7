-- Equality of values: values of different shapes are never equal, floats are
-- compared as numbers, and the order of an object's entries plays no part.
import StructuredSql.Value.Basic

namespace StructuredSql

mutual

/-- The two values are equal. -/
def Value.eqv : Value → Value → Bool
  | .null, .null => true
  | .bool a, .bool b => a == b
  | .int a, .int b => a == b
  | .float x, .float y => x.eqv y
  | .string s, .string t => s == t
  | .bytes a, .bytes b => a == b
  | .array xs, .array ys => itemsEqv xs ys
  | .object xs, .object ys => xs.length == ys.length && fieldsEqv xs ys
  | .raw ⟨s, ps⟩, .raw ⟨t, qs⟩ => s == t && paramsEqv ps qs
  | _, _ => false
termination_by structural v => v

/-- Equal item by item. -/
def itemsEqv : List Value → List Value → Bool
  | [], [] => true
  | v :: vs, w :: ws => v.eqv w && itemsEqv vs ws
  | _, _ => false
termination_by structural vs => vs

/-- Every entry on the left has an equal one on the right. -/
def fieldsEqv : List (String × Value) → List (String × Value) → Bool
  | [], _ => true
  | (k, v) :: rest, ws =>
    (match Entries.get? ws k with
      | some w => v.eqv w
      | none => false) && fieldsEqv rest ws
termination_by structural fields => fields

/-- Bindings are equal in order, with their kinds. -/
def paramsEqv : List (String × Bound Value) → List (String × Bound Value) → Bool
  | [], [] => true
  | (k, ⟨v, a⟩) :: rest, (l, ⟨w, b⟩) :: others =>
    k == l && v.eqv w && a == b && paramsEqv rest others
  | _, _ => false
termination_by structural params => params

end

instance : BEq Value := ⟨Value.eqv⟩

end StructuredSql
