-- The laws of the maps of bindings: what inserts keeps every key once, and then the look-up of
-- a key and the pass over all bindings find the same. What reads a map from outside only passes
-- on how often the data names a key.
import StructuredSql.Engine.Binding
import StructuredSql.Json.Parser
import StructuredSql.Proofs.Command.Maps
import StructuredSql.Proofs.Fragment.Statement
import StructuredSql.Proofs.Message.ReadBack
import StructuredSql.Readable

namespace StructuredSql

/-! ## Entries under different keys -/

namespace Entries

variable {α : Type} {entries : Entries α}

theorem get?_reverse (h : Distinct entries) (key : String) :
    get? entries.reverse key = get? entries key := by
  rw [← get?_ofPairs, ofPairs_of_nodup h]

end Entries

namespace Params

/-! ## The pass over the bindings -/

/-- What is bound in a statement that mentions these placeholders, when every binding was
handed over in order. -/
def cells (mentioned : List String) (params : Params) : Entries SqlCell :=
  params.foldl (fun cells e =>
    if e.1 ∈ mentioned then Entries.insert cells e.1 (SqlCell.ofBound e.2) else cells) []

/-- The last binding of a key stays. -/
theorem get?_cells (mentioned : List String) (params : Params) (key : String) :
    Entries.get? (cells mentioned params) key =
      if key ∈ mentioned then (Entries.get? params.reverse key).map SqlCell.ofBound else none := by
  induction params using List.reverseRecOn with
  | nil => simp [cells, Entries.get?]
  | append_singleton rest e ih =>
    obtain ⟨k, p⟩ := e
    have hlast : cells mentioned (rest ++ [(k, p)]) =
        if k ∈ mentioned then Entries.insert (cells mentioned rest) k (SqlCell.ofBound p)
        else cells mentioned rest := by
      simp [cells]
    rw [hlast, List.reverse_append]
    by_cases hk : k ∈ mentioned
    · rw [if_pos hk, Entries.get?_insert, ih]
      by_cases hkey : k = key
      · subst hkey
        simp [hk, Entries.get?]
      · simp [hkey, Entries.get?]
    · rw [if_neg hk, ih]
      by_cases hkey : k = key
      · subst hkey
        simp [hk]
      · simp [hkey, Entries.get?]

/-! ## Where maps come from -/

/-- The maps that are made here, and those that come in where no list names a key twice. -/
inductive Held : Params → Prop
  | empty : Held []
  | insert {params : Params} (key : String) (p : Param) :
      Held params → Held (Entries.insert params key p)
  | extend {params : Params} (more : Params) : Held params → Held (Entries.extend params more)
  | collect (pairs : List (String × Param)) : Held (Entries.ofPairs pairs)
  | bind {raw : Raw} (key : String) (v : Value) : Held raw.params → Held (raw.bind key v).params
  | compile {c : Compiler} {s : AnyStatement} {out : Compiled} :
      s.compile c = .ok out → Held out.params
  | arrive {d : Datum} {cmd : Command} {params : Params} :
      cmd.Arrives d → d.NamesOnce → params ∈ cmd.maps → Held params

theorem distinct_compile {c : Compiler} {s : AnyStatement} {out : Compiled}
    (h : s.compile c = .ok out) : Entries.Distinct out.params := by
  rw [AnyStatement.compile_eq] at h
  unfold Compiler.compile Build.template at h
  cases hbuild : s.build c.dialect 0 with
  | error fault =>
    rw [hbuild] at h
    cases h
  | ok built =>
    rw [hbuild] at h
    cases h
    exact Entries.distinct_ofPairs _

/-- What arrives names a key twice only where its data does. -/
theorem distinct_arrive {d : Datum} {cmd : Command} {params : Params} (h : cmd.Arrives d)
    (honce : d.NamesOnce) (hparams : params ∈ cmd.maps) : Entries.Distinct params := by
  rcases h.spells params hparams with rfl | ⟨items, hitems, hkeys⟩
  · exact List.nodup_nil
  · exact honce items hitems _ hkeys

theorem Held.distinct {params : Params} (h : Held params) : Entries.Distinct params := by
  induction h with
  | empty => exact List.nodup_nil
  | insert key p _ ih => exact Entries.distinct_insert ih key p
  | extend more _ ih => exact Entries.distinct_extend ih more
  | collect pairs => exact Entries.distinct_ofPairs pairs
  | bind key v _ ih => exact Entries.distinct_insert ih _ _
  | compile h => exact distinct_compile h
  | arrive h honce hparams => exact distinct_arrive h honce hparams

/-! ## One binding for each key -/

/-- Each key has one binding in a map that is held, which the look-up finds and which stays when
all bindings are handed over. A map that arrives has the keys of its list, however often the
list names them. -/
theorem held_keys_have_one_binding (params : Params) :
    (Held params → Entries.Distinct params ∧
      (∀ key p, (key, p) ∈ params ↔ Entries.get? params key = some p) ∧
      ∀ mentioned key, Entries.get? (cells mentioned params) key =
        if key ∈ mentioned then (Entries.get? params key).map SqlCell.ofBound else none) ∧
    ∀ d cmd, Command.Arrives d cmd → params ∈ cmd.maps → params = [] ∨
      ∃ items ∈ d.lists, items.mapM Datum.pairKey? = some (Entries.keys params) := by
  constructor
  · intro h
    have hdistinct := h.distinct
    refine ⟨hdistinct, Entries.mem_iff_get? hdistinct, fun mentioned key => ?_⟩
    rw [get?_cells, Entries.get?_reverse hdistinct]
  · intro d cmd h hparams
    exact h.spells params hparams

/-- A statement with two bindings, as text. -/
def switchText : String :=
  "\x7b\"Exec\":[\":a\",[[\":a\",[\"Null\",\"Null\"]]," ++
    "[\":b\",[\x7b\"Bool\":true\x7d,\"Bool\"]]]]\x7d"

/-- The same statement with both bindings under one key. -/
def doubledText : String :=
  "\x7b\"Exec\":[\":a\",[[\":a\",[\"Null\",\"Null\"]]," ++
    "[\":a\",[\x7b\"Bool\":true\x7d,\"Bool\"]]]]\x7d"

def nothingBound : Datum := .list [.string "Null", .string "Null"]

def trueBound : Datum := .list [.tagged "Bool" (.bool true), .string "Bool"]

/-- The statement in which nothing and `true` are bound to the keys. -/
def switchDatum (first second : String) : Datum :=
  .tagged "Exec" (.list [.string ":a", .list [.list [.string first, nothingBound],
    .list [.string second, trueBound]]])

def switchParams (first second : String) : Params :=
  [(first, ⟨.null, .null⟩), (second, ⟨.bool true, .bool⟩)]

set_option maxRecDepth 20000 in
theorem arrives_switchText :
    Command.Arrives (switchDatum ":a" ":b") (.exec ":a" (switchParams ":a" ":b")) := by
  refine @Command.Arrives.inText switchText _ _ ?_ rfl
  cbv

/-- The first binding changed, and one more put behind. -/
def switched : Params :=
  Entries.extend (Fragment.bind ⟨":a", switchParams ":a" ":b"⟩ "a" (.int 7)).params
    [(":c", .natural (.string "x"))]

theorem held_switched : Held switched := by
  have honce : (switchDatum ":a" ":b").NamesOnce := by decide
  have harrived : Held (switchParams ":a" ":b") :=
    .arrive arrives_switchText honce List.mem_cons_self
  exact .extend _ (@Held.bind ⟨":a", switchParams ":a" ":b"⟩ "a" (.int 7) harrived)

theorem switched_keys_have_one_binding :
    Entries.Distinct switched ∧ (":a", .natural (.int 7)) ∈ switched ∧
      Entries.get? (cells [":a"] switched) ":a" = some (.integer 7) ∧
      ∃ items ∈ (switchDatum ":a" ":b").lists, items.mapM Datum.pairKey? = some [":a", ":b"] := by
  obtain ⟨hdistinct, hlookup, hcells⟩ := (held_keys_have_one_binding switched).1 held_switched
  have harrived := (held_keys_have_one_binding (switchParams ":a" ":b")).2
  have hfound : Entries.get? switched ":a" = some (.natural (.int 7)) := rfl
  refine ⟨hdistinct, (hlookup _ _).2 hfound, ?_, ?_⟩
  · rw [hcells, hfound]
    rfl
  · rcases harrived _ _ arrives_switchText List.mem_cons_self with hnil | hlist
    · cases hnil
    · exact hlist

set_option maxRecDepth 20000 in
theorem arrives_doubledText :
    Command.Arrives (switchDatum ":a" ":a") (.exec ":a" (switchParams ":a" ":a")) := by
  refine @Command.Arrives.inText doubledText _ _ ?_ rfl
  cbv

/-- Two bindings of one key arrive in a text and in a message. The log shows the first, and the
second is handed over last. -/
theorem doubled_key_has_two_bindings :
    Command.Arrives (switchDatum ":a" ":a") (.exec ":a" (switchParams ":a" ":a")) ∧
      Request.decode (Request.call (.exec ":a" (switchParams ":a" ":a"))).encode =
        .ok (.call (.exec ":a" (switchParams ":a" ":a"))) ∧
      ¬ Entries.Distinct (switchParams ":a" ":a") ∧
      Dialect.sqlite.readable ⟨":a", switchParams ":a" ":a"⟩ = "NULL" ∧
      Entries.get? (cells [":a"] (switchParams ":a" ":a")) ":a" = some (.integer 1) := by
  refine ⟨arrives_doubledText, ?_, ?_, ?_, by rfl⟩
  · refine Request.Travels.decode ⟨by decide, by decide +kernel⟩ ?_
    exact ⟨trivial, trivial, trivial⟩
  · unfold Entries.Distinct
    decide
  · decide +kernel

end Params
end StructuredSql
