-- The laws of equality of values. A map that comes about by inserting, removing, collecting or
-- reading has each key once, and any map that has can come about so. Among values with such maps
-- equality is symmetric and transitive, a value without NaN is equal to itself, and the order of
-- the entries of a map, however deep it stands, plays no part.
import StructuredSql.Value.Equality
import StructuredSql.Proofs.Value.Keyed
import Mathlib.Data.List.Forall2
import Mathlib.Data.List.Perm.Subperm

namespace StructuredSql

/-! ## Maps that come about -/

/-- A map as it can come about. -/
inductive Fields.Built : Fields → Prop
  | empty : Built []
  | insert {fields : Fields} (h : Built fields) (key : String) (v : Value) :
      Built (Entries.insert fields key v)
  | erase {fields : Fields} (h : Built fields) (key : String) : Built (Entries.erase fields key)
  | ofPairs (pairs : List (String × Value)) : Built (Entries.ofPairs pairs)
  | ofJson {members : List (String × Json)} {fields : Fields}
      (h : Value.ofJson (.object members) = .object fields) : Built fields
  | ofDatum? {src : Source} {room : Nat} {d : Datum} {fields : Fields}
      (h : Fields.ofDatum? src room d = some fields) : Built fields

theorem Entries.erase_sublist {α : Type} (entries : Entries α) (key : String) :
    (erase entries key).Sublist entries := by
  induction entries with
  | nil => exact .slnil
  | cons e rest ih =>
    obtain ⟨k, a⟩ := e
    simp only [erase]
    split
    · exact List.sublist_cons_self _ _
    · exact ih.cons_cons _

theorem Entries.Distinct.erase {α : Type} {entries : Entries α} (h : Distinct entries)
    (key : String) : Distinct (erase entries key) :=
  h.sublist ((erase_sublist entries key).map _)

namespace Fields

variable {fields : Fields}

theorem Built.distinct (h : Built fields) : Entries.Distinct fields := by
  induction h with
  | empty => exact List.nodup_nil
  | insert _ key v ih => exact Entries.distinct_insert ih key v
  | erase _ key ih => exact ih.erase key
  | ofPairs pairs => exact Entries.distinct_ofPairs pairs
  | ofJson h =>
    cases h
    exact Entries.distinct_ofPairs _
  | @ofDatum? _ room _ _ h =>
    cases room with
    | zero => cases h
    | succ room =>
      obtain ⟨_, pairs, -, -, rfl⟩ := Value.fieldsOf?_eq_some h
      exact Entries.distinct_ofPairs pairs

/-- The maps that can come about are those that have each key once. -/
theorem built_iff : Built fields ↔ Entries.Distinct fields := by
  refine ⟨Built.distinct, fun h => ?_⟩
  rw [← Entries.ofPairs_of_nodup h]
  exact .ofPairs fields

end Fields

/-! ## Values inside of values -/

/-- The value stands in the other: it is the other, or it stands in one of its items, in the
content of one of its entries, or in a value that one of its bindings holds. -/
inductive Value.StandsIn (u : Value) : Value → Prop
  | self : StandsIn u u
  | item {v : Value} {items : List Value} (h : StandsIn u v) (hv : v ∈ items) :
      StandsIn u (.array items)
  | content {e : String × Value} {fields : Fields} (h : StandsIn u e.2) (he : e ∈ fields) :
      StandsIn u (.object fields)
  | bound {e : String × Param} {sql : String} {params : Params} (h : StandsIn u e.2.value)
      (he : e ∈ params) : StandsIn u (.raw ⟨sql, params⟩)

namespace Value

/-- Equality with another value is identity: there is no float in the value, nor anything that
holds others. -/
def isExact : Value → Bool
  | null | bool _ | int _ | string _ | bytes _ => true
  | _ => false

/-- The cases of an induction over a value and what it holds. -/
structure Cases (P : Value → Prop) : Prop where
  exact : ∀ v, v.isExact = true → P v
  float : ∀ x, P (.float x)
  array : ∀ items, (∀ v ∈ items, P v) → P (.array items)
  object : ∀ fields, (∀ e ∈ fields, P e.2) → P (.object fields)
  raw : ∀ sql params, (∀ e ∈ params, P e.2.value) → P (.raw ⟨sql, params⟩)

mutual

theorem Cases.value {P : Value → Prop} (cases : Cases P) : ∀ v, P v
  | .float x => cases.float x
  | .array items => cases.array items (cases.items items)
  | .object fields => cases.object fields (cases.fields fields)
  | .raw ⟨sql, params⟩ => cases.raw sql params (cases.params params)
  | .null | .bool _ | .int _ | .string _ | .bytes _ => cases.exact _ rfl
termination_by structural v => v

theorem Cases.items {P : Value → Prop} (cases : Cases P) :
    ∀ items : List Value, ∀ v ∈ items, P v
  | [] => nofun
  | v :: rest => List.forall_mem_cons.2 ⟨cases.value v, cases.items rest⟩
termination_by structural items => items

theorem Cases.fields {P : Value → Prop} (cases : Cases P) :
    ∀ fields : List (String × Value), ∀ e ∈ fields, P e.2
  | [] => nofun
  | (_, v) :: rest => List.forall_mem_cons.2 ⟨cases.value v, cases.fields rest⟩
termination_by structural fields => fields

theorem Cases.params {P : Value → Prop} (cases : Cases P) :
    ∀ params : List (String × Bound Value), ∀ e ∈ params, P e.2.value
  | [] => nofun
  | (_, ⟨v, _⟩) :: rest => List.forall_mem_cons.2 ⟨cases.value v, cases.params rest⟩
termination_by structural params => params

end

/-! ## What equality asks -/

theorem eqv_exact {v w : Value} (h : v.isExact = true) : v.eqv w = true ↔ v = w := by
  cases v with
  | float _ | array _ | object _ | raw _ => cases h
  | _ => cases w <;> simp [eqv]

theorem eqv_float {x : Double} {w : Value} :
    (float x).eqv w = true ↔ ∃ y, w = .float y ∧ x.eqv y = true := by
  cases w <;> simp [eqv]

theorem itemsEqv_iff {xs ys : List Value} :
    itemsEqv xs ys = true ↔ List.Forall₂ (fun v w => v.eqv w = true) xs ys := by
  induction xs generalizing ys with
  | nil => cases ys <;> simp [itemsEqv]
  | cons v vs ih => cases ys <;> simp [itemsEqv, ih]

theorem eqv_array {xs : List Value} {w : Value} : (array xs).eqv w = true ↔
    ∃ ys, w = .array ys ∧ List.Forall₂ (fun v w => v.eqv w = true) xs ys := by
  cases w <;> simp [eqv, itemsEqv_iff]

theorem fieldsEqv_iff {xs ys : Fields} : fieldsEqv xs ys = true ↔
    ∀ e ∈ xs, ∃ w, Entries.get? ys e.1 = some w ∧ e.2.eqv w = true := by
  induction xs with
  | nil => simp [fieldsEqv]
  | cons e rest ih =>
    obtain ⟨k, v⟩ := e
    rw [fieldsEqv, Bool.and_eq_true, ih, List.forall_mem_cons]
    cases Entries.get? ys k <;> simp

theorem eqv_object {xs : Fields} {w : Value} : (object xs).eqv w = true ↔
    ∃ ys, w = .object ys ∧ xs.length = ys.length ∧
      ∀ e ∈ xs, ∃ w, Entries.get? ys e.1 = some w ∧ e.2.eqv w = true := by
  cases w <;> simp [eqv, fieldsEqv_iff]

/-- The two bindings have the same key and kind, and equal values. -/
def SameBinding (e f : String × Param) : Prop :=
  e.1 = f.1 ∧ e.2.value.eqv f.2.value = true ∧ e.2.kind = f.2.kind

theorem paramsEqv_iff {ps qs : Params} :
    paramsEqv ps qs = true ↔ List.Forall₂ SameBinding ps qs := by
  induction ps generalizing qs with
  | nil => cases qs <;> simp [paramsEqv]
  | cons e rest ih => cases qs <;> simp [paramsEqv, ih, SameBinding, and_assoc]

theorem eqv_raw {sql : String} {ps : Params} {w : Value} : (raw ⟨sql, ps⟩).eqv w = true ↔
    ∃ qs, w = .raw ⟨sql, qs⟩ ∧ List.Forall₂ SameBinding ps qs := by
  cases w with
  | raw fragment =>
    obtain ⟨t, qs⟩ := fragment
    simp [eqv, paramsEqv_iff, @eq_comm _ t sql]
  | _ => simp [eqv]

/-! ## Symmetry and transitivity -/

/-- Every map in the value can have come about. -/
def MapsBuilt (v : Value) : Prop := ∀ fields, StandsIn (.object fields) v → Fields.Built fields

/-- No float in the value is NaN. -/
def NaNFree (v : Value) : Prop := ∀ x, StandsIn (.float x) v → x.isNaN = false

theorem mapsBuilt_array {items : List Value} :
    (array items).MapsBuilt ↔ ∀ v ∈ items, v.MapsBuilt := by
  refine ⟨fun h v hv fields hin => h fields (hin.item hv), fun h fields hin => ?_⟩
  cases hin with
  | item hin hv => exact h _ hv fields hin

theorem mapsBuilt_object {fields : Fields} :
    (object fields).MapsBuilt ↔ Entries.Distinct fields ∧ ∀ e ∈ fields, e.2.MapsBuilt := by
  constructor
  · intro h
    exact ⟨(h fields .self).distinct, fun e he inner hin => h inner (hin.content he)⟩
  · rintro ⟨hdistinct, h⟩ inner hin
    cases hin with
    | self => exact Fields.built_iff.2 hdistinct
    | content hin he => exact h _ he inner hin

theorem mapsBuilt_raw {sql : String} {params : Params} :
    (raw ⟨sql, params⟩).MapsBuilt ↔ ∀ e ∈ params, e.2.value.MapsBuilt := by
  refine ⟨fun h e he fields hin => h fields (hin.bound he), fun h fields hin => ?_⟩
  cases hin with
  | bound hin he => exact h _ he fields hin

theorem nanFree_exact {v : Value} (h : v.isExact = true) : v.NaNFree := by
  intro x hin
  cases hin <;> cases h

theorem nanFree_float {x : Double} : (float x).NaNFree ↔ x.isNaN = false := by
  refine ⟨fun h => h x .self, fun h y hin => ?_⟩
  cases hin
  exact h

theorem nanFree_array {items : List Value} :
    (array items).NaNFree ↔ ∀ v ∈ items, v.NaNFree := by
  refine ⟨fun h v hv x hin => h x (hin.item hv), fun h x hin => ?_⟩
  cases hin with
  | item hin hv => exact h _ hv x hin

theorem nanFree_object {fields : Fields} :
    (object fields).NaNFree ↔ ∀ e ∈ fields, e.2.NaNFree := by
  refine ⟨fun h e he x hin => h x (hin.content he), fun h x hin => ?_⟩
  cases hin with
  | content hin he => exact h _ he x hin

theorem nanFree_raw {sql : String} {params : Params} :
    (raw ⟨sql, params⟩).NaNFree ↔ ∀ e ∈ params, e.2.value.NaNFree := by
  refine ⟨fun h e he x hin => h x (hin.bound he), fun h x hin => ?_⟩
  cases hin with
  | bound hin he => exact h _ he x hin

theorem mapsBuilt_of_keyed {v : Value} (h : v.Keyed) : v.MapsBuilt := by
  intro fields hin
  induction hin with
  | self => exact Fields.built_iff.2 h.1
  | item _ hv ih => exact ih (itemsKeyed_iff.1 h _ hv)
  | content _ he ih => exact ih (fieldsKeyed_iff.1 h.2 _ he)
  | bound _ he ih => exact ih (paramsKeyed_iff.1 h _ he)

end Value

namespace Double

theorem eqv_symm {x y : Double} (h : x.eqv y = true) : y.eqv x = true := by
  simp only [eqv, Bool.and_eq_true, Bool.or_eq_true, beq_iff_eq] at h ⊢
  exact ⟨h.1.symm, h.2.imp Eq.symm And.symm⟩

theorem eqv_trans {x y z : Double} (h : x.eqv y = true) (h' : y.eqv z = true) :
    x.eqv z = true := by
  obtain ⟨x⟩ := x
  obtain ⟨y⟩ := y
  obtain ⟨z⟩ := z
  simp only [eqv, Bool.and_eq_true, Bool.or_eq_true, beq_iff_eq] at h h' ⊢
  obtain ⟨⟨hx, -⟩, rfl | ⟨hx0, hy0⟩⟩ := h
  · exact h'
  · refine ⟨⟨hx, h'.1.2⟩, .inr ⟨hx0, ?_⟩⟩
    rcases h'.2 with rfl | ⟨-, hz0⟩
    · exact hy0
    · exact hz0

theorem eqv_self {x : Double} (h : x.isNaN = false) : x.eqv x = true := by
  simp [eqv, h]

end Double

/-- When every key of the first entries stands in the second, and these are no more, every key of
the second stands in the first. -/
theorem Entries.exists_get?_of_length {α β : Type} {xs : Entries α} {ys : Entries β}
    (hxs : Distinct xs) (hlength : xs.length = ys.length)
    (h : ∀ e ∈ xs, ∃ b, get? ys e.1 = some b) : ∀ f ∈ ys, ∃ a, get? xs f.1 = some a := by
  intro f hf
  have hsub : keys xs ⊆ keys ys := by
    intro key hkey
    obtain ⟨e, he, rfl⟩ := List.mem_map.1 hkey
    obtain ⟨b, hb⟩ := h e he
    exact List.mem_map.2 ⟨_, mem_of_get? hb, rfl⟩
  have hperm : (keys xs).Perm (keys ys) :=
    (List.subperm_of_subset hxs hsub).perm_of_length_le (by simp [keys, hlength])
  obtain ⟨e, he, hkey⟩ := List.mem_map.1 (hperm.mem_iff.2 (List.mem_map.2 ⟨f, hf, rfl⟩))
  rw [← hkey]
  exact get?_of_mem he

/-- Related lists, item by item, when what relates the items may use that they stand there. -/
theorem forall₂_imp_mem {α β : Type} {R S : α → β → Prop} {xs : List α} {ys : List β}
    (h : List.Forall₂ R xs ys) (himp : ∀ a ∈ xs, ∀ b ∈ ys, R a b → S a b) :
    List.Forall₂ S xs ys := by
  rw [List.forall₂_iff_zip] at h ⊢
  refine ⟨h.1, fun hm => ?_⟩
  obtain ⟨ha, hb⟩ := List.of_mem_zip hm
  exact himp _ ha _ hb (h.2 hm)

theorem forall₂_trans_mem {α : Type} {R : α → α → Prop} {xs ys zs : List α}
    (h : List.Forall₂ R xs ys) (h' : List.Forall₂ R ys zs)
    (htrans : ∀ a ∈ xs, ∀ b c, R a b → R b c → R a c) : List.Forall₂ R xs zs := by
  induction h generalizing zs with
  | nil =>
    cases h'
    exact .nil
  | cons hab _ ih =>
    obtain _ | ⟨hbc, hrest⟩ := h'
    obtain ⟨ha, htail⟩ := List.forall_mem_cons.1 htrans
    exact .cons (ha _ _ hab hbc) (ih hrest htail)

namespace Value

theorem eqv_symm {v w : Value} : v.MapsBuilt → w.MapsBuilt → v.eqv w = true → w.eqv v = true := by
  refine (Cases.value (P := fun v => ∀ w, v.MapsBuilt → w.MapsBuilt → v.eqv w = true →
    w.eqv v = true) ⟨?exact, ?float, ?array, ?object, ?raw⟩ v) w
  case exact =>
    intro v hexact w _ _ h
    obtain rfl := (eqv_exact hexact).1 h
    exact h
  case float =>
    intro x w _ _ h
    obtain ⟨y, rfl, h⟩ := eqv_float.1 h
    exact eqv_float.2 ⟨x, rfl, Double.eqv_symm h⟩
  case array =>
    intro xs ih w hxs hw h
    obtain ⟨ys, rfl, hall⟩ := eqv_array.1 h
    rw [mapsBuilt_array] at hxs hw
    refine eqv_array.2 ⟨xs, rfl, List.Forall₂.flip (forall₂_imp_mem hall fun v hv w hmem => ?_)⟩
    exact ih v hv w (hxs v hv) (hw w hmem)
  case object =>
    intro xs ih w hxs hw h
    obtain ⟨ys, rfl, hlength, hfound⟩ := eqv_object.1 h
    obtain ⟨hdistinct, hxs⟩ := mapsBuilt_object.1 hxs
    obtain ⟨hdistinct', hys⟩ := mapsBuilt_object.1 hw
    refine eqv_object.2 ⟨xs, rfl, hlength.symm, fun f hf => ?_⟩
    have hkeys := Entries.exists_get?_of_length hdistinct hlength
      fun e he => (hfound e he).imp fun _ hw => hw.1
    obtain ⟨v, hv⟩ := hkeys f hf
    have hmem := Entries.mem_of_get? hv
    obtain ⟨w, hw, heqv⟩ := hfound _ hmem
    -- The second map has the key once, so this is the entry that equality found.
    have hsame : w = f.2 :=
      Option.some.inj (hw.symm.trans ((Entries.mem_iff_get? hdistinct' f.1 f.2).1 hf))
    subst hsame
    exact ⟨v, hv, ih _ hmem _ (hxs _ hmem) (hys f hf) heqv⟩
  case raw =>
    intro sql ps ih w hps hw h
    obtain ⟨qs, rfl, hall⟩ := eqv_raw.1 h
    rw [mapsBuilt_raw] at hps hw
    refine eqv_raw.2 ⟨ps, rfl, List.Forall₂.flip (forall₂_imp_mem hall fun e he f hf hsame => ?_)⟩
    exact ⟨hsame.1.symm, ih e he _ (hps e he) (hw f hf) hsame.2.1, hsame.2.2.symm⟩

theorem eqv_comm {v w : Value} (hv : v.MapsBuilt) (hw : w.MapsBuilt) : v.eqv w = w.eqv v :=
  Bool.eq_iff_iff.2 ⟨eqv_symm hv hw, eqv_symm hw hv⟩

/-- Transitivity asks for nothing: what is found under a key stands there. -/
theorem eqv_trans {u v w : Value} : u.eqv v = true → v.eqv w = true → u.eqv w = true := by
  refine (Cases.value (P := fun u => ∀ v w, u.eqv v = true → v.eqv w = true → u.eqv w = true)
    ⟨?exact, ?float, ?array, ?object, ?raw⟩ u) v w
  case exact =>
    intro u hexact v w h h'
    obtain rfl := (eqv_exact hexact).1 h
    exact h'
  case float =>
    intro x v w h h'
    obtain ⟨y, rfl, h⟩ := eqv_float.1 h
    obtain ⟨z, rfl, h'⟩ := eqv_float.1 h'
    exact eqv_float.2 ⟨z, rfl, Double.eqv_trans h h'⟩
  case array =>
    intro xs ih v w h h'
    obtain ⟨ys, rfl, hall⟩ := eqv_array.1 h
    obtain ⟨zs, rfl, hall'⟩ := eqv_array.1 h'
    exact eqv_array.2 ⟨zs, rfl, forall₂_trans_mem hall hall' ih⟩
  case object =>
    intro xs ih v w h h'
    obtain ⟨ys, rfl, hlength, hfound⟩ := eqv_object.1 h
    obtain ⟨zs, rfl, hlength', hfound'⟩ := eqv_object.1 h'
    refine eqv_object.2 ⟨zs, rfl, hlength.trans hlength', fun e he => ?_⟩
    obtain ⟨v, hv, heqv⟩ := hfound e he
    obtain ⟨w, hw, heqv'⟩ := hfound' _ (Entries.mem_of_get? hv)
    exact ⟨w, hw, ih e he v w heqv heqv'⟩
  case raw =>
    intro sql ps ih v w h h'
    obtain ⟨qs, rfl, hall⟩ := eqv_raw.1 h
    obtain ⟨rs, rfl, hall'⟩ := eqv_raw.1 h'
    refine eqv_raw.2 ⟨rs, rfl, forall₂_trans_mem hall hall' fun e he f g hef hfg => ?_⟩
    exact ⟨hef.1.trans hfg.1, ih e he _ _ hef.2.1 hfg.2.1, hef.2.2.trans hfg.2.2⟩

theorem eqv_self {v : Value} : v.MapsBuilt → v.NaNFree → v.eqv v = true := by
  refine Cases.value (P := fun v => v.MapsBuilt → v.NaNFree → v.eqv v = true)
    ⟨?exact, ?float, ?array, ?object, ?raw⟩ v
  case exact =>
    intro v hexact _ _
    exact (eqv_exact hexact).2 rfl
  case float =>
    intro x _ hnumber
    exact eqv_float.2 ⟨x, rfl, Double.eqv_self (nanFree_float.1 hnumber)⟩
  case array =>
    intro xs ih hmaps hnumbers
    rw [mapsBuilt_array] at hmaps
    rw [nanFree_array] at hnumbers
    exact eqv_array.2
      ⟨xs, rfl, List.forall₂_same.2 fun v hv => ih v hv (hmaps v hv) (hnumbers v hv)⟩
  case object =>
    intro xs ih hmaps hnumbers
    obtain ⟨hdistinct, hmaps⟩ := mapsBuilt_object.1 hmaps
    rw [nanFree_object] at hnumbers
    refine eqv_object.2 ⟨xs, rfl, rfl, fun e he => ⟨e.2, ?_, ?_⟩⟩
    · exact (Entries.mem_iff_get? hdistinct e.1 e.2).1 he
    · exact ih e he (hmaps e he) (hnumbers e he)
  case raw =>
    intro sql ps ih hmaps hnumbers
    rw [mapsBuilt_raw] at hmaps
    rw [nanFree_raw] at hnumbers
    refine eqv_raw.2 ⟨ps, rfl, List.forall₂_same.2 fun e he => ⟨rfl, ?_, rfl⟩⟩
    exact ih e he (hmaps e he) (hnumbers e he)

end Value

/-! ## Entries in another order -/

/-- The second value is the first with the entries of maps in it in another order. -/
inductive Value.Reordered : Value → Value → Prop
  | refl (v : Value) : Reordered v v
  | trans {u v w : Value} (h : Reordered u v) (h' : Reordered v w) : Reordered u w
  | perm {fields others : Fields} (h : fields.Perm others) :
      Reordered (.object fields) (.object others)
  | item {v w : Value} (before after : List Value) (h : Reordered v w) :
      Reordered (.array (before ++ v :: after)) (.array (before ++ w :: after))
  | content {v w : Value} (before after : Fields) (key : String) (h : Reordered v w) :
      Reordered (.object (before ++ (key, v) :: after)) (.object (before ++ (key, w) :: after))
  | bound {v w : Value} (sql : String) (before after : Params) (key : String) (kind : ScalarKind)
      (h : Reordered v w) : Reordered (.raw ⟨sql, before ++ (key, ⟨v, kind⟩) :: after⟩)
        (.raw ⟨sql, before ++ (key, ⟨w, kind⟩) :: after⟩)

namespace Value

theorem Reordered.mapsBuilt {v w : Value} (h : Reordered v w) (hv : v.MapsBuilt) :
    w.MapsBuilt := by
  induction h with
  | refl v => exact hv
  | trans _ _ ih ih' => exact ih' (ih hv)
  | perm hperm =>
    obtain ⟨hdistinct, hv⟩ := mapsBuilt_object.1 hv
    refine mapsBuilt_object.2 ⟨(hperm.map Prod.fst).nodup_iff.1 hdistinct, fun e he => ?_⟩
    exact hv e (hperm.mem_iff.2 he)
  | item before after _ ih =>
    simp only [mapsBuilt_array, List.forall_mem_append, List.forall_mem_cons] at hv ⊢
    exact ⟨hv.1, ih hv.2.1, hv.2.2⟩
  | content before after key _ ih =>
    simp only [mapsBuilt_object, List.forall_mem_append, List.forall_mem_cons] at hv ⊢
    refine ⟨?_, hv.2.1, ih hv.2.2.1, hv.2.2.2⟩
    simpa [Entries.Distinct, Entries.keys] using hv.1
  | bound sql before after key kind _ ih =>
    simp only [mapsBuilt_raw, List.forall_mem_append, List.forall_mem_cons] at hv ⊢
    exact ⟨hv.1, ih hv.2.1, hv.2.2⟩

theorem itemsEqv_congr {v w : Value} (h : ∀ other, v.eqv other = w.eqv other)
    (before after others : List Value) :
    itemsEqv (before ++ v :: after) others = itemsEqv (before ++ w :: after) others := by
  induction before generalizing others with
  | nil => cases others <;> simp [itemsEqv, h]
  | cons u before ih => cases others <;> simp [itemsEqv, ih]

theorem paramsEqv_congr {v w : Value} (h : ∀ other, v.eqv other = w.eqv other)
    (before after : Params) (key : String) (kind : ScalarKind) (others : Params) :
    paramsEqv (before ++ (key, ⟨v, kind⟩) :: after) others =
      paramsEqv (before ++ (key, ⟨w, kind⟩) :: after) others := by
  induction before generalizing others with
  | nil => cases others <;> simp [paramsEqv, h]
  | cons e before ih => cases others <;> simp [paramsEqv, ih]

/-- Equality does not see the order of the entries in its first value. -/
theorem Reordered.eqv_left {v w : Value} (h : Reordered v w) (other : Value) :
    v.eqv other = w.eqv other := by
  induction h generalizing other with
  | refl v => rfl
  | trans _ _ ih ih' => exact (ih other).trans (ih' other)
  | perm hperm =>
    rw [Bool.eq_iff_iff, eqv_object, eqv_object]
    simp only [hperm.length_eq, hperm.mem_iff]
  | item before after _ ih =>
    cases other with
    | array others => exact itemsEqv_congr ih before after others
    | _ => rfl
  | content before after key _ ih =>
    rw [Bool.eq_iff_iff, eqv_object, eqv_object]
    simp only [List.length_append, List.length_cons, List.forall_mem_append,
      List.forall_mem_cons, ih]
  | bound sql before after key kind _ ih =>
    cases other with
    | raw fragment =>
      obtain ⟨sql', others⟩ := fragment
      simp only [eqv, paramsEqv_congr ih before after key kind others]
    | _ => rfl

/-- Nor in its second, whose maps have each key once. -/
theorem Reordered.eqv_right {v w : Value} (h : Reordered v w) (hv : v.MapsBuilt) {other : Value}
    (hother : other.MapsBuilt) : other.eqv v = other.eqv w := by
  rw [eqv_comm hother hv, h.eqv_left other, eqv_comm (h.mapsBuilt hv) hother]

/-- Whatever way a map comes about, its keys differ from each other, and such are all the maps in
what documents, data and structured text are read as. Among values with such maps equality is
symmetric and transitive, holds of a value without NaN and itself, and does not change when the
entries of maps in both values are put in another order. -/
theorem equality_ignores_the_order_of_entries :
    (∀ fields, Fields.Built fields → Entries.Distinct fields) ∧
    (∀ j, (ofJson j).MapsBuilt) ∧
    (∀ src room d v, ofDatum? src room d = some v → v.MapsBuilt) ∧
    (∀ text v, Structured.parse? text = some v → v.MapsBuilt) ∧
    (∀ v w : Value, v.MapsBuilt → w.MapsBuilt → (v == w) = (w == v)) ∧
    (∀ u v w : Value, u.MapsBuilt → v.MapsBuilt → w.MapsBuilt →
      (u == v) = true → (v == w) = true → (u == w) = true) ∧
    (∀ v : Value, v.MapsBuilt → v.NaNFree → (v == v) = true) ∧
    (∀ v v' w w' : Value, v.MapsBuilt → w.MapsBuilt → Reordered v v' → Reordered w w' →
      (v' == w') = (v == w)) := by
  refine ⟨fun _ h => h.distinct, fun j => mapsBuilt_of_keyed (keyed_ofJson j),
    fun src room d v h => mapsBuilt_of_keyed (keyed_ofDatum? src room d v h),
    fun _ _ h => mapsBuilt_of_keyed (Structured.keyed_parse? h),
    fun _ _ => eqv_comm, fun _ _ _ _ _ _ => eqv_trans, fun _ => eqv_self, ?_⟩
  intro v v' w w' hv hw hvv' hww'
  calc v'.eqv w' = v.eqv w' := (hvv'.eqv_left w').symm
    _ = v.eqv w := (hww'.eqv_right hw hv).symm

/-- A mark in a book: a float, and a fragment that binds where the mark stands. -/
def shelfMark (rating : Double) (place : Fields) : Value :=
  .object [("rating", .float rating),
    ("mark", .raw ⟨"MARK(:p)", [(":p", ⟨.object place, .string⟩)]⟩)]

theorem reordered_shelf_marks_are_equal :
    let place : Fields := [("row", .int 4), ("page", .null)]
    let v := shelfMark (.zero false) place
    let v' := shelfMark (.zero false) place.reverse
    let w := shelfMark (.zero true) place
    Entries.Distinct place ∧ (object place).MapsBuilt ∧ Reordered v v' ∧ (v == v) = true ∧
      (w == v) = true ∧ (w == v') = true ∧ (v' == w) = true := by
  intro place v v' w
  obtain ⟨hdistinct, -, hdata, htext, hsymm, htrans, hself, horder⟩ :=
    equality_ignores_the_order_of_entries
  have hplace : (object place).MapsBuilt :=
    htext "a:2:\x7bs:3:\"row\";i:4;s:4:\"page\";N;\x7d" _ rfl
  have hmark (rating : Double) : (shelfMark rating place).MapsBuilt :=
    mapsBuilt_of_keyed (by
      simp [shelfMark, place, Keyed, FieldsKeyed, ParamsKeyed, Entries.Distinct, Entries.keys])
  have hnumbers : v.NaNFree := by
    have hrow : (int 4).NaNFree := nanFree_exact rfl
    have hpage : null.NaNFree := nanFree_exact rfl
    have hrating : (float (.zero false)).NaNFree := nanFree_float.2 (by rfl)
    simp [v, place, shelfMark, nanFree_object, nanFree_raw, hrow, hpage, hrating]
  have hreordered : Reordered v v' :=
    .content [("rating", .float (.zero false))] [] "mark"
      (.bound "MARK(:p)" [] [] ":p" .string (.perm (List.reverse_perm place).symm))
  have hvw : (v == w) = true := by rfl
  have hread : Fields.ofDatum? .messagePack 5
      (.map [(.string "row", .map [(.string "Int", .int 4)]), (.string "page", .string "Null")]) =
        some place := by rfl
  refine ⟨hdistinct _ (.ofDatum? hread), hplace, hreordered, hself v (hmark _) hnumbers, ?_, ?_, ?_⟩
  · rw [hsymm w v (hmark _) (hmark _)]
    exact hvw
  · rw [horder w w v v' (hmark _) (hmark _) (.refl w) hreordered, hsymm w v (hmark _) (hmark _)]
    exact hvw
  · rw [horder v v' w w (hmark _) (hmark _) hreordered (.refl w)]
    exact hvw

end Value
end StructuredSql
