-- What a command answers with.
import StructuredSql.Engine.Result

namespace StructuredSql

inductive Output
  | unit
  | value (v : Value)
  | maybe (v : Option Value)
  | bool (b : Bool)
  /-- A statement, or nothing when it was only recorded or failed. -/
  | statement (e : Option Executed)
  | info (i : EngineInfo)
  | text (s : Option String)
  | texts (ss : List String)
  /-- The answer of a host that is there. -/
  | pong (version : String)

namespace Output

/-- The name of the kind of answer. -/
def variant : Output → String
  | unit => "Unit"
  | value _ => "Value"
  | maybe _ => "Maybe"
  | bool _ => "Bool"
  | statement _ => "Statement"
  | info _ => "Info"
  | text _ => "Text"
  | texts _ => "Texts"
  | pong _ => "Pong"

/-- Data, or null for nothing. -/
def orNull : Option Datum → Datum
  | some d => d
  | none => .null

def toDatum (o : Output) : Datum :=
  match o with
  | unit => .string o.variant
  | value v => .tagged o.variant v.toDatum
  | maybe v => .tagged o.variant (orNull (v.map Value.toDatum))
  | bool b => .tagged o.variant (.bool b)
  | statement e => .tagged o.variant (orNull (e.map Executed.toDatum))
  | info i => .tagged o.variant i.toDatum
  | text s => .tagged o.variant (orNull (s.map .string))
  | texts ss => .tagged o.variant (.list (ss.map .string))
  | pong version => .tagged o.variant (.record [("version", .string version)])

def caseNames : List String :=
  ["Unit", "Value", "Maybe", "Bool", "Statement", "Info", "Text", "Texts", "Pong"]

/-- The version in the answer of a host that is there. -/
def version? (src : Source) (room : Nat) (d : Datum) : Option String := do
  let (_, slots) ← Datum.record? src ["version"] false room d
  match slots with
  | [some s] => s.text?
  | _ => none

def ofDatum? (src : Source) (room : Nat) (d : Datum) : Option Output :=
  match Datum.case? src caseNames d with
  | some ("Unit", content) => if Datum.isUnit src content then some unit else none
  | some ("Value", some d) => (Value.ofDatum? src room d).map value
  | some ("Maybe", some d) => (Datum.optional? (Value.ofDatum? src room) (some d)).map maybe
  | some ("Bool", some d) => d.bool?.map bool
  | some ("Statement", some d) =>
    (Datum.optional? (Executed.ofDatum? src room) (some d)).map statement
  | some ("Info", some d) => (EngineInfo.ofDatum? src room d).map info
  | some ("Text", some d) => (Datum.optional? Datum.text? (some d)).map text
  | some ("Texts", some d) => (d.texts? room).map texts
  | some ("Pong", some d) => (version? src room d).map pong
  | _ => none

end Output
end StructuredSql
