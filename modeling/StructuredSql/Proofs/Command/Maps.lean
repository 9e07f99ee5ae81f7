-- The maps of bindings in a command that was read. The reader checks no key: each map is a
-- list of pairs of the data, key for key, so a key that the list names twice stands in the
-- map twice.
import StructuredSql.Json.Parser
import StructuredSql.Message

namespace StructuredSql

/-! ## The maps of a command -/

mutual

/-- The maps of the fragments in the value, those bound inside of others too. -/
def Value.maps : Value → List Params
  | .array items => itemsMaps items
  | .object fields => fieldsMaps fields
  | .raw ⟨_, params⟩ => params :: paramsMaps params
  | _ => []
termination_by structural v => v

def itemsMaps : List Value → List Params
  | [] => []
  | v :: rest => v.maps ++ itemsMaps rest
termination_by structural items => items

def fieldsMaps : List (String × Value) → List Params
  | [] => []
  | (_, v) :: rest => v.maps ++ fieldsMaps rest
termination_by structural fields => fields

def paramsMaps : List (String × Bound Value) → List Params
  | [] => []
  | (_, ⟨v, _⟩) :: rest => v.maps ++ paramsMaps rest
termination_by structural params => params

end

def Raw.maps (raw : Raw) : List Params := raw.params :: paramsMaps raw.params

def optionMaps (v? : Option Value) : List Params := (v?.map Value.maps).getD []

def Query.maps (q : Query) : List Params :=
  (q.join.map fieldsMaps).getD [] ++ (optionMaps q.columns ++ optionMaps q.conditions)

def Command.maps : Command → List Params
  | select q | get q | rand q | has q | aggregate _ q => q.maps
  | insert _ rows => rows.maps
  | update _ fields v? | replace _ fields v? => fieldsMaps fields ++ optionMaps v?
  | delete _ v? => optionMaps v?
  | create _ columns v? => columns.maps ++ optionMaps v?
  | query raw => raw.maps
  | exec _ params => params :: paramsMaps params
  | _ => []

/-! ## The lists of the data -/

namespace Datum

mutual

/-- The lists anywhere in the data. -/
def lists : Datum → List (List Datum)
  | .list items => items :: listsOfItems items
  | .map entries => listsOfEntries entries
  | _ => []
termination_by structural d => d

def listsOfItems : List Datum → List (List Datum)
  | [] => []
  | d :: rest => d.lists ++ listsOfItems rest
termination_by structural items => items

def listsOfEntries : List (Datum × Datum) → List (List Datum)
  | [] => []
  | (_, d) :: rest => d.lists ++ listsOfEntries rest
termination_by structural entries => entries

end

/-- The key of a pair. -/
def pairKey? : Datum → Option String
  | .list [key, _] => key.text?
  | _ => none

/-- Every list of pairs names each key once. -/
def NamesOnce (d : Datum) : Prop :=
  ∀ items ∈ d.lists, ∀ keys ∈ items.mapM pairKey?, keys.Nodup

instance : DecidablePred NamesOnce := fun d =>
  inferInstanceAs (Decidable (∀ items ∈ d.lists, ∀ keys ∈ items.mapM pairKey?, keys.Nodup))

theorem lists_of_mem {items : List Datum} {d : Datum} (h : d ∈ items) :
    d.lists ⊆ listsOfItems items := by
  induction items with
  | nil => cases h
  | cons e rest ih =>
    intro l hl
    rcases List.mem_cons.1 h with rfl | h
    · exact List.mem_append_left _ hl
    · exact List.mem_append_right _ (ih h hl)

theorem lists_of_mem_entries {entries : List (Datum × Datum)} {e : Datum × Datum}
    (h : e ∈ entries) : e.2.lists ⊆ listsOfEntries entries := by
  induction entries with
  | nil => cases h
  | cons f rest ih =>
    intro l hl
    rcases List.mem_cons.1 h with rfl | h
    · exact List.mem_append_left _ hl
    · exact List.mem_append_right _ (ih h hl)

/-! ## Parts that readers open -/

theorem lists_of_list? {d : Datum} {room inside : Nat} {items : List Datum}
    (h : d.list? room = some (inside, items)) : items = [] ∨ items ∈ d.lists ∧
      ∀ e ∈ items, e.lists ⊆ d.lists := by
  unfold list? at h
  split at h
  · split at h
    · cases h
    · cases h
      exact Or.inr ⟨List.mem_cons_self,
        fun e he l hl => List.mem_cons_of_mem _ (lists_of_mem he hl)⟩
  · cases h
    exact Or.inl rfl
  · cases h

theorem lists_of_case? {src : Source} {names : List String} {d content : Datum} {name : String}
    (h : case? src names d = some (name, some content)) : content.lists ⊆ d.lists := by
  unfold case? at h
  split at h
  · rename_i key inner
    obtain ⟨n, -, heq⟩ := Option.map_eq_some_iff.1 h
    cases heq
    simp [lists, listsOfEntries]
  · obtain ⟨n, -, heq⟩ := Option.map_eq_some_iff.1 h
    cases heq

/-- The slots hold data of the entries. -/
theorem lists_of_fill {src : Source} {names : List String} {closed : Bool} {room : Nat}
    {entries : List (Datum × Datum)} {slots filled : List (Option Datum)}
    (h : fill src names closed room entries slots = some filled) :
    ∀ d, some d ∈ filled → some d ∈ slots ∨ d.lists ⊆ listsOfEntries entries := by
  induction entries generalizing slots with
  | nil =>
    cases h
    exact fun d hd => Or.inl hd
  | cons e rest ih =>
    obtain ⟨key, content⟩ := e
    have hrest : listsOfEntries rest ⊆ listsOfEntries ((key, content) :: rest) :=
      fun l hl => List.mem_append_right _ hl
    intro d hd
    simp only [fill] at h
    split at h
    · cases h
    · split at h
      · cases h
      · exact (ih h d hd).imp_right fun hsub => List.Subset.trans hsub hrest
    · split at h
      · rcases ih h d hd with hslot | hsub
        · rcases List.mem_or_eq_of_mem_set hslot with hold | hnew
          · exact Or.inl hold
          · cases hnew
            exact Or.inr fun l hl => List.mem_append_left _ hl
        · exact Or.inr (List.Subset.trans hsub hrest)
      · cases h

theorem lists_of_record? {src : Source} {names : List String} {closed : Bool} {room inside : Nat}
    {d : Datum} {slots : List (Option Datum)}
    (h : record? src names closed room d = some (inside, slots)) :
    ∀ e, some e ∈ slots → e.lists ⊆ d.lists := by
  intro e he
  unfold record? at h
  split at h
  · cases h
    simp at he
  · cases h
  · split at h
    · obtain ⟨filled, hfilled, heq⟩ := Option.map_eq_some_iff.1 h
      cases heq
      rcases lists_of_fill hfilled e he with hslot | hsub
      · simp at hslot
      · exact hsub
    · split at h
      · rename_i items _ _
        cases h
        have hmem : e ∈ items := by simpa using he
        exact fun l hl => List.mem_cons_of_mem _ (lists_of_mem hmem hl)
      · cases h
    · cases h

/-- What is read from the fields of a record is read from data inside of it. -/
theorem of_record? {α : Type} {src : Source} {names : List String} {closed : Bool} {room : Nat}
    {d : Datum} {a : α} {read : Nat × List (Option Datum) → Option α}
    (h : (record? src names closed room d).bind read = some a) :
    ∃ inside slots, (∀ e, some e ∈ slots → e.lists ⊆ d.lists) ∧ read (inside, slots) = some a := by
  obtain ⟨⟨inside, slots⟩, hslots, hread⟩ := Option.bind_eq_some_iff.1 h
  exact ⟨inside, slots, lists_of_record? hslots, hread⟩

/-! ## Maps that data spells -/

/-- Every map is a list of the data, key for key, or empty. -/
def Spells (d : Datum) (maps : List Params) : Prop :=
  ∀ params ∈ maps, params = [] ∨
    ∃ items ∈ d.lists, items.mapM pairKey? = some (Entries.keys params)

theorem spells_nil (d : Datum) : d.Spells [] := fun _ h => absurd h List.not_mem_nil

theorem Spells.append {d : Datum} {maps more : List Params} (h : d.Spells maps)
    (hmore : d.Spells more) : d.Spells (maps ++ more) := by
  intro params hp
  rcases List.mem_append.1 hp with hp | hp
  · exact h params hp
  · exact hmore params hp

theorem Spells.mono {d e : Datum} {maps : List Params} (h : e.Spells maps)
    (hsub : e.lists ⊆ d.lists) : d.Spells maps := by
  intro params hp
  rcases h params hp with hnil | ⟨items, hitems, hkeys⟩
  · exact Or.inl hnil
  · exact Or.inr ⟨items, hsub hitems, hkeys⟩

/-- The reader takes what it reads, and what that holds, from the data. -/
def Keeps {α : Type} (maps : α → List Params) (read : Datum → Option α) : Prop :=
  ∀ d a, read d = some a → d.Spells (maps a)

theorem Keeps.optional? {α : Type} {maps : α → List Params} {read : Datum → Option α}
    (h : Keeps maps read) {d : Datum} {part : Option Datum} {a? : Option α}
    (hread : Datum.optional? read part = some a?) (hsub : ∀ e, part = some e → e.lists ⊆ d.lists) :
    d.Spells ((a?.map maps).getD []) := by
  unfold Datum.optional? at hread
  split at hread
  · cases hread
    exact spells_nil d
  · cases hread
    exact spells_nil d
  · obtain ⟨a, ha, rfl⟩ := Option.map_eq_some_iff.1 hread
    exact (h _ a ha).mono (hsub _ rfl)

end Datum

/-! ## Values -/

section
variable {src : Source} {room : Nat} {value? : Datum → Option Value}

open Datum (Keeps Spells)

theorem itemsMaps_spelled (h : Keeps Value.maps value?) {items : List Datum} {vs : List Value}
    {d : Datum} (hread : items.mapM value? = some vs) (hsub : ∀ e ∈ items, e.lists ⊆ d.lists) :
    d.Spells (itemsMaps vs) := by
  induction items generalizing vs with
  | nil =>
    cases hread
    exact Datum.spells_nil d
  | cons e rest ih =>
    simp only [List.mapM_cons, Option.bind_eq_bind, Option.bind_eq_some_iff] at hread
    obtain ⟨v, hv, more, hmore, heq⟩ := hread
    cases heq
    exact ((h e v hv).mono (hsub e List.mem_cons_self)).append
      (ih hmore fun x hx => hsub x (List.mem_cons_of_mem _ hx))

/-- Fields hold what is inserted. -/
theorem fieldsMaps_insert {fields : Fields} {d : Datum} (h : d.Spells (fieldsMaps fields))
    (key : String) {v : Value} (hv : d.Spells v.maps) :
    d.Spells (fieldsMaps (Entries.insert fields key v)) := by
  induction fields with
  | nil => exact hv.append (Datum.spells_nil d)
  | cons e rest ih =>
    obtain ⟨k, w⟩ := e
    have hw : d.Spells w.maps := fun params hp => h params (List.mem_append_left _ hp)
    have hrest : d.Spells (fieldsMaps rest) := fun params hp =>
      h params (List.mem_append_right _ hp)
    simp only [Entries.insert]
    split
    · exact hv.append hrest
    · exact hw.append (ih hrest)

theorem fieldsMaps_extend {fields : Fields} {d : Datum} (h : d.Spells (fieldsMaps fields))
    {more : List (String × Value)} (hmore : ∀ e ∈ more, d.Spells e.2.maps) :
    d.Spells (fieldsMaps (Entries.extend fields more)) := by
  induction more generalizing fields with
  | nil => exact h
  | cons e more ih =>
    exact ih (fieldsMaps_insert h e.1 (hmore e List.mem_cons_self))
      fun x hx => hmore x (List.mem_cons_of_mem _ hx)

theorem entries_spelled (h : Keeps Value.maps value?) {entries : List (Datum × Datum)}
    {pairs : List (String × Value)} {d : Datum}
    (hread : entries.mapM (Value.entryOfDatum? value?) = some pairs)
    (hsub : ∀ e ∈ entries, e.2.lists ⊆ d.lists) : ∀ e ∈ pairs, d.Spells e.2.maps := by
  induction entries generalizing pairs with
  | nil =>
    cases hread
    exact fun _ he => absurd he List.not_mem_nil
  | cons e rest ih =>
    simp only [List.mapM_cons, Option.bind_eq_bind, Option.bind_eq_some_iff] at hread
    obtain ⟨pair, hpair, more, hmore, heq⟩ := hread
    cases heq
    simp only [Value.entryOfDatum?, Option.bind_eq_bind, Option.bind_eq_some_iff] at hpair
    obtain ⟨key, -, v, hv, heq⟩ := hpair
    cases heq
    exact List.forall_mem_cons.2 ⟨(h e.2 v hv).mono (hsub e List.mem_cons_self),
      ih hmore fun x hx => hsub x (List.mem_cons_of_mem _ hx)⟩

theorem fieldsOf?_keeps (h : Keeps Value.maps value?) :
    Keeps fieldsMaps (Value.fieldsOf? value?) := by
  intro d fields hread
  unfold Value.fieldsOf? at hread
  split at hread
  · obtain ⟨pairs, hpairs, rfl⟩ := Option.map_eq_some_iff.1 hread
    exact fieldsMaps_extend (Datum.spells_nil _)
      (entries_spelled h hpairs fun e he => Datum.lists_of_mem_entries he)
  · cases hread

/-! ## Bindings -/

theorem entryOfDatum?_spelled (h : Keeps Value.maps value?) {d : Datum} {key : String} {p : Param}
    (hread : Bound.entryOfDatum? src room value? d = some (key, p)) :
    d.pairKey? = some key ∧ d.Spells p.value.maps := by
  simp only [Bound.entryOfDatum?, Option.bind_eq_bind, Option.bind_eq_some_iff] at hread
  obtain ⟨⟨inside, items⟩, hitems, hread⟩ := hread
  dsimp only at hread
  split at hread
  · rename_i k bound
    simp only [Option.bind_eq_some_iff] at hread
    obtain ⟨key', hkey, p', hp, heq⟩ := hread
    cases heq
    obtain ⟨_, slots, hparts, hp⟩ := Datum.of_record? hp
    dsimp only at hp
    split at hp
    · simp only [Option.bind_eq_bind, Option.bind_eq_some_iff] at hp
      obtain ⟨v, hv, kind, -, heq⟩ := hp
      cases heq
      have hbound : bound.lists ⊆ d.lists := by
        rcases Datum.lists_of_list? hitems with hnil | ⟨-, hsub⟩
        · cases hnil
        · exact hsub bound (List.mem_cons_of_mem _ List.mem_cons_self)
      have hvalue := hparts _ List.mem_cons_self
      refine ⟨?_, (h _ v hv).mono (List.Subset.trans hvalue hbound)⟩
      unfold Datum.list? at hitems
      split at hitems
      · split at hitems
        · cases hitems
        · cases hitems
          exact hkey
      · cases hitems
      · cases hitems
    · cases hp
  · cases hread

theorem bindings_spelled (h : Keeps Value.maps value?) {items : List Datum} {params : Params}
    {d : Datum} (hread : items.mapM (Bound.entryOfDatum? src room value?) = some params)
    (hsub : ∀ e ∈ items, e.lists ⊆ d.lists) :
    items.mapM Datum.pairKey? = some (Entries.keys params) ∧ d.Spells (paramsMaps params) := by
  induction items generalizing params with
  | nil =>
    cases hread
    exact ⟨rfl, Datum.spells_nil d⟩
  | cons e rest ih =>
    simp only [List.mapM_cons, Option.bind_eq_bind, Option.bind_eq_some_iff] at hread
    obtain ⟨⟨key, p⟩, hentry, more, hmore, heq⟩ := hread
    cases heq
    obtain ⟨hkeys, hrest⟩ := ih hmore fun x hx => hsub x (List.mem_cons_of_mem _ hx)
    obtain ⟨hkey, hvalue⟩ := entryOfDatum?_spelled h hentry
    constructor
    · rw [List.mapM_cons, hkey, hkeys]
      rfl
    · exact (hvalue.mono (hsub e List.mem_cons_self)).append hrest

/-- A map of bindings is its list. -/
theorem listOfDatum?_keeps (h : Keeps Value.maps value?) :
    Keeps (fun params => params :: paramsMaps params) (Bound.listOfDatum? src room value?) := by
  intro d params hread
  simp only [Bound.listOfDatum?, Option.bind_eq_bind, Option.bind_eq_some_iff] at hread
  obtain ⟨⟨inside, items⟩, hitems, hread⟩ := hread
  rcases Datum.lists_of_list? hitems with rfl | ⟨hlist, hsub⟩
  · cases hread
    exact List.forall_mem_cons.2 ⟨Or.inl rfl, Datum.spells_nil d⟩
  · obtain ⟨hkeys, hrest⟩ := bindings_spelled h hread hsub
    exact List.forall_mem_cons.2 ⟨Or.inr ⟨items, hlist, hkeys⟩, hrest⟩

/-- A list of bindings that is empty when it is absent. -/
theorem default?_spelled {d : Datum} {part : Option Datum} {params : Params}
    {read : Datum → Option Params} (h : Keeps (fun params => params :: paramsMaps params) read)
    (hread : Datum.default? [] read part = some params)
    (hsub : ∀ e, part = some e → e.lists ⊆ d.lists) : d.Spells (params :: paramsMaps params) := by
  cases part with
  | none =>
    cases hread
    exact List.forall_mem_cons.2 ⟨Or.inl rfl, Datum.spells_nil d⟩
  | some e => exact (h e params hread).mono (hsub e rfl)

theorem fragmentOfDatum?_keeps (h : Keeps Value.maps value?) :
    Keeps Raw.maps (Fragment.ofDatum? src room value?) := by
  intro d raw hread
  obtain ⟨inside, slots, hsub, hread⟩ := Datum.of_record? hread
  dsimp only at hread
  split at hread
  · rename_i sql part
    simp only [Option.bind_eq_bind, Option.bind_eq_some_iff] at hread
    obtain ⟨text, -, params, hparams, heq⟩ := hread
    cases heq
    refine default?_spelled (listOfDatum?_keeps h) hparams fun e he => ?_
    exact hsub e (he ▸ List.mem_cons_of_mem _ List.mem_cons_self)
  · cases hread

/-! ## Readers of values -/

theorem keeps_none : Keeps Value.maps fun _ => none := by
  intro d v h
  cases h

/-- A value, when the values inside are read further in. -/
theorem Value.ofDatum?_keeps_of_inner
    (hinner : ∀ inside < room, Keeps Value.maps (Value.ofDatum? src inside)) :
    Keeps Value.maps (Value.ofDatum? src room) := by
  intro d v hread
  rw [Value.ofDatum?.eq_def] at hread
  split at hread
  · split at hread
    · cases hread
      exact Datum.spells_nil d
    · cases hread
  -- scalars and octets
  iterate 5
    · obtain ⟨_, -, rfl⟩ := Option.map_eq_some_iff.1 hread
      exact Datum.spells_nil d
  · cases hread
    exact Datum.spells_nil d
  · rename_i items hcase
    cases room with
    | zero => cases hread
    | succ room =>
      obtain ⟨vs, hvs, rfl⟩ := Option.map_eq_some_iff.1 hread
      have hspelled := itemsMaps_spelled (hinner room (Nat.lt_succ_self room)) (d := .list items)
        hvs fun e he l hl => List.mem_cons_of_mem _ (Datum.lists_of_mem he hl)
      exact hspelled.mono (Datum.lists_of_case? hcase)
  · rename_i content hcase
    cases room with
    | zero => cases hread
    | succ room =>
      obtain ⟨fields, hfields, rfl⟩ := Option.map_eq_some_iff.1 hread
      have hspelled := fieldsOf?_keeps (hinner room (Nat.lt_succ_self room)) content fields hfields
      exact hspelled.mono (Datum.lists_of_case? hcase)
  · rename_i content hcase
    have hfragment : ∃ value?, Keeps Value.maps value? ∧
        (Fragment.ofDatum? src room value? content).map Value.raw = some v := by
      split at hread
      · exact ⟨_, keeps_none, hread⟩
      · exact ⟨_, keeps_none, hread⟩
      · exact ⟨_, keeps_none, hread⟩
      · exact ⟨_, keeps_none, hread⟩
      · rename_i room
        exact ⟨_, hinner room (by omega), hread⟩
    obtain ⟨value?, hvalue, hread⟩ := hfragment
    obtain ⟨raw, hraw, rfl⟩ := Option.map_eq_some_iff.1 hread
    exact (fragmentOfDatum?_keeps hvalue content raw hraw).mono (Datum.lists_of_case? hcase)
  · cases hread

theorem Value.ofDatum?_keeps (src : Source) (room : Nat) :
    Keeps Value.maps (Value.ofDatum? src room) := by
  induction room using Nat.strongRecOn with
  | _ room ih => exact Value.ofDatum?_keeps_of_inner ih

theorem Fields.ofDatum?_keeps (src : Source) (room : Nat) :
    Keeps fieldsMaps (Fields.ofDatum? src room) := by
  intro d fields hread
  cases room with
  | zero => cases hread
  | succ room => exact fieldsOf?_keeps (Value.ofDatum?_keeps src room) d fields hread

theorem Params.ofDatum?_keeps (src : Source) (room : Nat) :
    Keeps (fun params => params :: paramsMaps params) (Params.ofDatum? src room) :=
  listOfDatum?_keeps (Value.ofDatum?_keeps src (room - 3))

theorem Raw.ofDatum?_keeps (src : Source) (room : Nat) :
    Keeps Raw.maps (Raw.ofDatum? src room) :=
  fragmentOfDatum?_keeps (Value.ofDatum?_keeps src (room - 4))

end

/-! ## Queries and commands -/

open Datum (Keeps)

theorem optionMaps_spelled {src : Source} {room : Nat} {d : Datum} {part : Option Datum}
    {v? : Option Value} (hread : Datum.optional? (Value.ofDatum? src room) part = some v?)
    (hsub : ∀ e, part = some e → e.lists ⊆ d.lists) : d.Spells (optionMaps v?) :=
  (Value.ofDatum?_keeps src room).optional? hread hsub

theorem Query.ofDatum?_keeps (src : Source) (room : Nat) :
    Keeps Query.maps (Query.ofDatum? src room) := by
  intro d q hread
  obtain ⟨inside, slots, hsub, hread⟩ := Datum.of_record? hread
  dsimp only at hread
  split at hread
  · simp only [Option.bind_eq_bind, Option.bind_eq_some_iff] at hread
    obtain ⟨table, -, join, hjoin, columns, hcolumns, conditions, hconditions, _, -, heq⟩ := hread
    cases heq
    refine (((Fields.ofDatum?_keeps src inside).optional? hjoin fun e he => ?_)).append
      ((optionMaps_spelled hcolumns fun e he => ?_).append
        (optionMaps_spelled hconditions fun e he => ?_))
    all_goals
      apply hsub
      simp [he]
  · cases hread

namespace Command

variable {src : Source} {room : Nat}

theorem queryPart?_keeps : Keeps Query.maps (queryPart? src room) := by
  intro d q hread
  obtain ⟨inside, slots, hsub, hread⟩ := Datum.of_record? hread
  dsimp only at hread
  split at hread
  · exact (Query.ofDatum?_keeps src inside _ q hread).mono
      (hsub _ List.mem_cons_self)
  · cases hread

theorem aggregatePart?_keeps : Keeps maps (aggregatePart? src room) := by
  intro d cmd hread
  obtain ⟨inside, slots, hsub, hread⟩ := Datum.of_record? hread
  dsimp only at hread
  split at hread
  · simp only [Option.bind_eq_bind, Option.bind_eq_some_iff] at hread
    obtain ⟨f, -, q, hq, heq⟩ := hread
    cases heq
    exact (Query.ofDatum?_keeps src inside _ q hq).mono
      (hsub _ (List.mem_cons_of_mem _ List.mem_cons_self))
  · cases hread

theorem insertPart?_keeps : Keeps maps (insertPart? src room) := by
  intro d cmd hread
  obtain ⟨inside, slots, hsub, hread⟩ := Datum.of_record? hread
  dsimp only at hread
  split at hread
  · simp only [Option.bind_eq_bind, Option.bind_eq_some_iff] at hread
    obtain ⟨table, -, rows, hrows, heq⟩ := hread
    cases heq
    exact (Value.ofDatum?_keeps src inside _ rows hrows).mono
      (hsub _ (List.mem_cons_of_mem _ List.mem_cons_self))
  · cases hread

/-- A table, something that is read and kept, and perhaps a value. -/
theorem tablePart?_keeps {α : Type} {inner : α → List Params} {read : Nat → Datum → Option α}
    (h : ∀ room, Keeps inner (read room)) (names : List String) :
    Keeps (fun parts => inner parts.2.1 ++ optionMaps parts.2.2)
      (tablePart? src names read room) := by
  intro d parts hread
  obtain ⟨inside, slots, hsub, hread⟩ := Datum.of_record? hread
  dsimp only at hread
  split at hread
  · simp only [Option.bind_eq_bind, Option.bind_eq_some_iff] at hread
    obtain ⟨table, -, a, ha, v?, hv, heq⟩ := hread
    cases heq
    refine ((h inside _ a ha).mono (hsub _ ?_)).append
      (optionMaps_spelled hv fun e he => hsub e ?_)
    · simp
    · simp [he]
  · cases hread

theorem deletePart?_keeps : Keeps maps (deletePart? src room) := by
  intro d cmd hread
  obtain ⟨inside, slots, hsub, hread⟩ := Datum.of_record? hread
  dsimp only at hread
  split at hread
  · simp only [Option.bind_eq_bind, Option.bind_eq_some_iff] at hread
    obtain ⟨table, -, v?, hv, heq⟩ := hread
    cases heq
    exact optionMaps_spelled hv fun e he => hsub e (by simp [he])
  · cases hread

theorem queryRawPart?_keeps : Keeps maps (queryRawPart? src room) := by
  intro d cmd hread
  obtain ⟨inside, slots, hsub, hread⟩ := Datum.of_record? hread
  dsimp only at hread
  split at hread
  · simp only [Option.bind_eq_bind, Option.bind_eq_some_iff] at hread
    obtain ⟨raw, hraw, heq⟩ := hread
    cases heq
    exact (Raw.ofDatum?_keeps src inside _ raw hraw).mono
      (hsub _ List.mem_cons_self)
  · cases hread

theorem execPart?_keeps : Keeps maps (execPart? src room) := by
  intro d cmd hread
  obtain ⟨inside, slots, hsub, hread⟩ := Datum.of_record? hread
  dsimp only at hread
  split at hread
  · simp only [Option.bind_eq_bind, Option.bind_eq_some_iff] at hread
    obtain ⟨sql, -, params, hparams, heq⟩ := hread
    cases heq
    exact default?_spelled (Params.ofDatum?_keeps src inside) hparams
      fun e he => hsub e (by simp [he])
  · cases hread

theorem idPart?_keeps : Keeps maps (idPart? src room) := by
  intro d cmd hread
  obtain ⟨inside, slots, -, hread⟩ := Datum.of_record? hread
  dsimp only at hread
  split at hread
  · obtain ⟨sequence, -, heq⟩ := Option.bind_eq_some_iff.1 hread
    cases heq
    exact Datum.spells_nil d
  · cases hread

theorem propertyPart?_keeps : Keeps maps (propertyPart? src room) := by
  intro d cmd hread
  obtain ⟨inside, slots, -, hread⟩ := Datum.of_record? hread
  dsimp only at hread
  split at hread
  · obtain ⟨property, -, heq⟩ := Option.bind_eq_some_iff.1 hread
    cases heq
    exact Datum.spells_nil d
  · cases hread

/-- A part that becomes a command that holds the same maps. -/
theorem map_keeps {α : Type} {inner : α → List Params} {read : Datum → Option α} {d : Datum}
    {cmd : Command} {f : α → Command} (h : Keeps inner read) (hread : (read d).map f = some cmd)
    (hsame : ∀ a, (f a).maps = inner a) : d.Spells cmd.maps := by
  obtain ⟨a, ha, rfl⟩ := Option.map_eq_some_iff.1 hread
  rw [hsame]
  exact h d a ha

/-- A part that becomes a command without bindings. -/
theorem map_spelled_nil {α : Type} {a? : Option α} {cmd : Command} {f : α → Command}
    (hread : a?.map f = some cmd) (hnone : ∀ a, (f a).maps = []) (d : Datum) :
    d.Spells cmd.maps := by
  obtain ⟨a, -, rfl⟩ := Option.map_eq_some_iff.1 hread
  rw [hnone]
  exact Datum.spells_nil d

theorem plain?_spelled {case : String} {cmd : Command} (h : plain? case = some cmd) (d : Datum) :
    d.Spells cmd.maps := by
  unfold plain? at h
  split at h <;> cases h <;> exact Datum.spells_nil d

theorem ofParts?_keeps (src : Source) (room : Nat) (case : String) :
    Keeps maps (ofParts? src room case) := by
  intro d cmd hread
  unfold ofParts? at hread
  split at hread
  iterate 4 · exact map_keeps queryPart?_keeps hread fun _ => rfl
  · exact aggregatePart?_keeps d cmd hread
  · exact insertPart?_keeps d cmd hread
  · exact map_keeps (tablePart?_keeps (Fields.ofDatum?_keeps src) _) hread fun _ => rfl
  · exact deletePart?_keeps d cmd hread
  · exact map_keeps (tablePart?_keeps (Fields.ofDatum?_keeps src) _) hread fun _ => rfl
  · exact map_keeps (tablePart?_keeps (Value.ofDatum?_keeps src) _) hread fun _ => rfl
  · exact map_spelled_nil hread (fun _ => rfl) d
  · exact queryRawPart?_keeps d cmd hread
  · exact execPart?_keeps d cmd hread
  · exact map_spelled_nil hread (fun _ => rfl) d
  · exact idPart?_keeps d cmd hread
  · exact propertyPart?_keeps d cmd hread
  · cases hread

/-- Every map of a command that was read is a list of the data, key for key, or empty. -/
theorem ofDatum?_keeps (src : Source) (room : Nat) : Keeps maps (ofDatum? src room) := by
  intro d cmd hread
  unfold ofDatum? at hread
  split at hread
  · cases hread
  · rename_i case content hcase
    split at hread
    · rename_i plain hplain
      split at hread
      · cases hread
        exact plain?_spelled hplain d
      · cases hread
    · obtain ⟨inner, rfl, hinner⟩ := Option.bind_eq_some_iff.1 hread
      exact (ofParts?_keeps src room case inner cmd hinner).mono (Datum.lists_of_case? hcase)

/-! ## Commands from outside -/

/-- A command in a message or in a JSON text, with the data that spells it. -/
inductive Arrives : Datum → Command → Prop
  | inMessage {bs : List UInt8} {d : Datum} {cmd : Command} :
      messageDatum? bs = some d → Request.decode bs = .ok (.call cmd) → Arrives d cmd
  | inText {text : String} {d : Datum} {cmd : Command} :
      Json.datum? text = some d → ofDatum? .json messageRoom d = some cmd → Arrives d cmd

theorem spelled_of_request {src : Source} {room : Nat} {d : Datum} {cmd : Command}
    (h : Request.ofDatum? src room d = some (.call cmd)) : d.Spells cmd.maps := by
  unfold Request.ofDatum? at h
  split at h
  · obtain ⟨o, -, heq⟩ := Option.map_eq_some_iff.1 h
    cases heq
  · rename_i content hcase
    obtain ⟨inner, hinner, heq⟩ := Option.map_eq_some_iff.1 h
    cases heq
    exact (ofDatum?_keeps src room content cmd hinner).mono (Datum.lists_of_case? hcase)
  · cases h

theorem Arrives.spells {d : Datum} {cmd : Command} (h : Arrives d cmd) : d.Spells cmd.maps := by
  cases h with
  | inText _ hread => exact ofDatum?_keeps _ _ d cmd hread
  | inMessage hdata hread =>
    unfold Request.decode at hread
    rw [hdata, Option.bind_some] at hread
    split at hread
    · rename_i r hr
      cases hread
      exact spelled_of_request hr
    · cases hread

end Command
end StructuredSql
