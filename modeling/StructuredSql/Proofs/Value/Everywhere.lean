-- Properties of a value and of all the values inside it. One of them is that no fragment
-- stands there: what such a value makes is bound, or is a name that was read.
import StructuredSql.Value.Basic
import StructuredSql.Proofs.Entries

namespace StructuredSql

mutual

/-- The property holds of the value and of every value inside it. -/
def Value.Everywhere (p : Value → Prop) : Value → Prop
  | .array items => p (.array items) ∧ ItemsEverywhere p items
  | .object fields => p (.object fields) ∧ FieldsEverywhere p fields
  | v => p v
termination_by structural v => v

def ItemsEverywhere (p : Value → Prop) : List Value → Prop
  | [] => True
  | v :: rest => v.Everywhere p ∧ ItemsEverywhere p rest
termination_by structural items => items

def FieldsEverywhere (p : Value → Prop) : List (String × Value) → Prop
  | [] => True
  | (_, v) :: rest => v.Everywhere p ∧ FieldsEverywhere p rest
termination_by structural fields => fields

end

variable {p q : Value → Prop}

mutual

/-- What holds of every value holds of those inside it. -/
theorem Value.everywhere_of_forall (h : ∀ w, p w) : ∀ v : Value, v.Everywhere p
  | .array items => ⟨h _, itemsEverywhere_of_forall h items⟩
  | .object fields => ⟨h _, fieldsEverywhere_of_forall h fields⟩
  | .null => h _
  | .bool _ => h _
  | .int _ => h _
  | .float _ => h _
  | .string _ => h _
  | .bytes _ => h _
  | .raw _ => h _
termination_by structural v => v

theorem itemsEverywhere_of_forall (h : ∀ w, p w) : ∀ items : List Value, ItemsEverywhere p items
  | [] => trivial
  | v :: rest => ⟨Value.everywhere_of_forall h v, itemsEverywhere_of_forall h rest⟩
termination_by structural items => items

theorem fieldsEverywhere_of_forall (h : ∀ w, p w) :
    ∀ fields : List (String × Value), FieldsEverywhere p fields
  | [] => trivial
  | (_, v) :: rest => ⟨Value.everywhere_of_forall h v, fieldsEverywhere_of_forall h rest⟩
termination_by structural fields => fields

end

/-! ## Several properties at once -/

mutual

theorem Value.Everywhere.and : ∀ {v : Value}, v.Everywhere p → v.Everywhere q →
    v.Everywhere fun w => p w ∧ q w
  | .array _, hp, hq => ⟨⟨hp.1, hq.1⟩, hp.2.and hq.2⟩
  | .object _, hp, hq => ⟨⟨hp.1, hq.1⟩, hp.2.and hq.2⟩
  | .null, hp, hq => ⟨hp, hq⟩
  | .bool _, hp, hq => ⟨hp, hq⟩
  | .int _, hp, hq => ⟨hp, hq⟩
  | .float _, hp, hq => ⟨hp, hq⟩
  | .string _, hp, hq => ⟨hp, hq⟩
  | .bytes _, hp, hq => ⟨hp, hq⟩
  | .raw _, hp, hq => ⟨hp, hq⟩
termination_by structural v => v

theorem ItemsEverywhere.and : ∀ {items : List Value}, ItemsEverywhere p items →
    ItemsEverywhere q items → ItemsEverywhere (fun w => p w ∧ q w) items
  | [], _, _ => trivial
  | _ :: _, hp, hq => ⟨hp.1.and hq.1, hp.2.and hq.2⟩
termination_by structural items => items

theorem FieldsEverywhere.and : ∀ {fields : List (String × Value)}, FieldsEverywhere p fields →
    FieldsEverywhere q fields → FieldsEverywhere (fun w => p w ∧ q w) fields
  | [], _, _ => trivial
  | (_, _) :: _, hp, hq => ⟨hp.1.and hq.1, hp.2.and hq.2⟩
termination_by structural fields => fields

end

/-! ## Values without fragments -/

mutual

/-- No fragment stands in the value, however deep. -/
def Value.rawFree : Value → Bool
  | .array items => itemsRawFree items
  | .object fields => fieldsRawFree fields
  | .raw _ => false
  | _ => true
termination_by structural v => v

def itemsRawFree : List Value → Bool
  | [] => true
  | v :: rest => v.rawFree && itemsRawFree rest
termination_by structural items => items

def fieldsRawFree : List (String × Value) → Bool
  | [] => true
  | (_, v) :: rest => v.rawFree && fieldsRawFree rest
termination_by structural fields => fields

end

theorem itemsRawFree_iff {items : List Value} :
    itemsRawFree items = true ↔ ∀ v ∈ items, v.rawFree = true := by
  induction items with
  | nil => simp [itemsRawFree]
  | cons v rest ih => simp [itemsRawFree, ih]

theorem fieldsRawFree_iff {fields : Fields} :
    fieldsRawFree fields = true ↔ ∀ e ∈ fields, e.2.rawFree = true := by
  induction fields with
  | nil => simp [fieldsRawFree]
  | cons e rest ih => simp [fieldsRawFree, ih]

/-! ### Entries -/

/-- What stands under a key of a map without fragments is without fragments. -/
theorem rawFree_of_get? {fields : Fields} (h : fieldsRawFree fields = true) {key : String}
    {v : Value} (hv : Entries.get? fields key = some v) : v.rawFree = true :=
  fieldsRawFree_iff.1 h _ (Entries.mem_of_get? hv)

theorem fieldsRawFree_filter {fields : Fields} (h : fieldsRawFree fields = true)
    (keep : String × Value → Bool) : fieldsRawFree (fields.filter keep) = true :=
  fieldsRawFree_iff.2 fun e he => fieldsRawFree_iff.1 h e (List.mem_filter.1 he).1

end StructuredSql
