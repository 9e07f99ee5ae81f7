-- Messages that nest too deep: a request whose value holds more lists inside each other
-- than a reader may open can be written, and what was written cannot be read.
import StructuredSql.Message
import StructuredSql.Proofs.MessagePack.Short

namespace StructuredSql

/-- Null inside so many lists. -/
def Value.nested : Nat → Value
  | 0 => .null
  | n + 1 => .array [nested n]

namespace Value

theorem toDatum_nested_succ (n : Nat) :
    (nested (n + 1)).toDatum = .tagged "Array" (.list [(nested n).toDatum]) := rfl

theorem readsBack_nested (n : Nat) : MessagePack.ReadsBack (nested n).toDatum (5 * n + 1) := by
  induction n with
  | zero => exact MessagePack.readsBack_text (by decide)
  | succ n ih =>
    have hlist : MessagePack.ReadsBack (.list [(nested n).toDatum]) (5 * n + 1 + 1 + 1) :=
      MessagePack.readsBack_list (Nat.lt_add_of_pos_left (by decide))
        (List.forall_mem_singleton.2 ih)
    rw [toDatum_nested_succ]
    exact (MessagePack.readsBack_tagged (by decide) hlist).mono (by omega)

/-- A reader opens no more lists than it has room for. -/
theorem ofDatum?_nested (src : Source) {room n : Nat} (h : room < n) :
    ofDatum? src room (nested n).toDatum = none := by
  induction room generalizing n with
  | zero =>
    obtain ⟨n, rfl⟩ := Nat.exists_eq_add_of_le' h
    rfl
  | succ room ih =>
    obtain ⟨n, rfl⟩ := Nat.exists_eq_add_of_le' (Nat.le_trans (Nat.le_add_left 1 _) h)
    have hinner := ih (n := n) (by omega)
    rw [toDatum_nested_succ]
    show (([(nested n).toDatum].mapM (ofDatum? src room)).map array) = none
    rw [List.mapM_cons, hinner]
    rfl

/-- A list takes eight octets: its case, the name of that, and its head. -/
theorem length_nested (n : Nat) :
    (MessagePack.encode (nested n).toDatum).length = 8 * n + 5 := by
  induction n with
  | zero => rfl
  | succ n ih =>
    have hencode : MessagePack.encode (nested (n + 1)).toDatum =
        [0x81] ++ (MessagePack.text "Array" ++
          ([0x91] ++ (MessagePack.encode (nested n).toDatum ++ [])) ++ []) := rfl
    have hname : (MessagePack.text "Array").length = 6 := rfl
    rw [hencode]
    simp only [List.length_append, List.length_cons, List.length_nil, hname, ih]
    omega

end Value

/-! ## A request that nests -/

/-- A value that cannot be read is not read as a binding. -/
theorem Bound.ofDatum?_none (src : Source) (room : Nat) {value? : Datum → Option Value}
    {d : Datum} (h : value? d = none) (kind : Datum) :
    ofDatum? src room value? (.record [("value", d), ("kind", kind)]) = none := by
  cases room with
  | zero => rfl
  | succ room =>
    show (value? d).bind _ = none
    rw [h]
    rfl

theorem Bound.listOfDatum?_none (src : Source) (room : Nat) {value? : Datum → Option Value}
    {d : Datum} (h : value? d = none) (key : String) (kind : Datum) :
    listOfDatum? src room value?
      (.list [.list [.string key, .record [("value", d), ("kind", kind)]]]) = none := by
  match room with
  | 0 => rfl
  | 1 => rfl
  | room + 2 =>
    show ([Datum.list [.string key, .record [("value", d), ("kind", kind)]]].mapM
      (entryOfDatum? src (room + 1) value?)) = none
    have hentry : entryOfDatum? src (room + 1) value?
        (.list [.string key, .record [("value", d), ("kind", kind)]]) = none := by
      show (ofDatum? src room value? _).bind _ = none
      rw [ofDatum?_none src room h]
      rfl
    rw [List.mapM_cons, hentry]
    rfl

namespace Request

/-- A statement without placeholders, and a value bound to one. -/
def binding (v : Value) : Request := .call (.exec "SELECT 1" [(":p", ⟨v, .string⟩)])

/-- The data of the one part that is no text. -/
def bindingParams (v : Value) : Datum :=
  .list [.list [.string ":p", .record [("value", v.toDatum), ("kind", .string "String")]]]

theorem toDatum_binding (v : Value) :
    (binding v).toDatum = .tagged "Call" (.tagged "Exec"
      (.record [("sql", .string "SELECT 1"), ("params", bindingParams v)])) := rfl

theorem length_binding (n : Nat) : (binding (.nested n)).encode.length = 8 * n + 62 := by
  have hencode : (binding (.nested n)).encode =
      [0x81] ++ (MessagePack.text "Call" ++ ([0x81] ++ (MessagePack.text "Exec" ++ ([0x82] ++
        (MessagePack.text "sql" ++ MessagePack.text "SELECT 1" ++ (MessagePack.text "params" ++
          ([0x91] ++ (([0x92] ++ (MessagePack.text ":p" ++ (([0x82] ++ (MessagePack.text "value" ++
            MessagePack.encode (Value.nested n).toDatum ++ (MessagePack.text "kind" ++
              MessagePack.text "String" ++ []))) ++ []))) ++ [])) ++ []))) ++ [])) ++ []) := rfl
  have hshell : (MessagePack.text "Call").length = 5 ∧ (MessagePack.text "Exec").length = 5 ∧
      (MessagePack.text "sql").length = 4 ∧ (MessagePack.text "SELECT 1").length = 9 ∧
      (MessagePack.text "params").length = 7 ∧ (MessagePack.text ":p").length = 3 ∧
      (MessagePack.text "value").length = 6 ∧ (MessagePack.text "kind").length = 5 ∧
      (MessagePack.text "String").length = 7 := ⟨rfl, rfl, rfl, rfl, rfl, rfl, rfl, rfl, rfl⟩
  rw [hencode]
  simp only [List.length_append, List.length_cons, List.length_nil, Value.length_nested, hshell]
  omega

theorem readsBack_binding (n : Nat) :
    MessagePack.ReadsBack (binding (.nested n)).toDatum (5 * n + 20) := by
  have htext {s : String} (h : MessagePack.ShortText s) {need : Nat} :
      MessagePack.ReadsBack (.string s) (need + 1) :=
    (MessagePack.readsBack_text h).mono (Nat.le_add_left 1 need)
  have hbound : MessagePack.ReadsBack (.record [("value", (Value.nested n).toDatum),
      ("kind", .string "String")]) (5 * n + 1 + 4) :=
    MessagePack.readsBack_pair (by decide) (by decide) (Value.readsBack_nested n)
      (htext (by decide))
  have hentry : MessagePack.ReadsBack (.list [.string ":p", .record [("value",
      (Value.nested n).toDatum), ("kind", .string "String")]]) (5 * n + 1 + 4 + 2 + 1) :=
    MessagePack.readsBack_list (Nat.lt_add_of_pos_left (by decide))
      (List.forall_mem_cons.2 ⟨htext (by decide), List.forall_mem_singleton.2 hbound⟩)
  have hparams : MessagePack.ReadsBack (bindingParams (.nested n))
      (5 * n + 1 + 4 + 2 + 1 + 1 + 1) :=
    MessagePack.readsBack_list (Nat.lt_add_of_pos_left (by decide))
      (List.forall_mem_singleton.2 hentry)
  rw [toDatum_binding]
  exact MessagePack.readsBack_tagged (by decide) (MessagePack.readsBack_tagged (by decide)
    (MessagePack.readsBack_pair (by decide) (by decide) (htext (by decide)) hparams))

/-- The data of the request is read back from its octets. -/
theorem messageDatum?_nested (n : Nat) :
    messageDatum? (binding (.nested n)).encode = some (binding (.nested n)).toDatum := by
  have hlength := length_binding n
  have hread := readsBack_binding n (2 * (binding (.nested n)).encode.length + 2) (by omega) []
  rw [List.append_nil] at hread
  unfold messageDatum? MessagePack.decode?
  rw [show (binding (.nested n)).encode = MessagePack.encode (binding (.nested n)).toDatum from rfl]
    at hread ⊢
  rw [hread]
  rfl

theorem decode_nested {n : Nat} (h : messageRoom ≤ n) :
    decode (binding (.nested n)).encode = .error undecodable := by
  have hparams : Params.ofDatum? .messagePack 1022 (bindingParams (.nested n)) = none :=
    Bound.listOfDatum?_none _ _ (Value.ofDatum?_nested _ (Nat.lt_of_lt_of_le (by decide) h)) _ _
  have hpart : Command.execPart? .messagePack messageRoom
      (.record [("sql", .string "SELECT 1"), ("params", bindingParams (.nested n))]) = none := by
    show (Params.ofDatum? .messagePack 1022 (bindingParams (.nested n))).bind _ = none
    rw [hparams]
    rfl
  have hcall : Command.ofDatum? .messagePack messageRoom (.tagged "Exec"
      (.record [("sql", .string "SELECT 1"), ("params", bindingParams (.nested n))])) = none :=
    hpart
  have hrequest : ofDatum? .messagePack messageRoom (binding (.nested n)).toDatum = none := by
    rw [toDatum_binding]
    show Option.map call (Command.ofDatum? .messagePack messageRoom _) = none
    rw [hcall]
    rfl
  unfold decode
  rw [messageDatum?_nested, Option.bind_some, hrequest]

end Request
end StructuredSql
