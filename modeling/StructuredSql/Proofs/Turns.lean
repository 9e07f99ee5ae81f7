-- Turns taken one after the other: each input is answered on the state that the inputs
-- before it left. Databases and sessions carry out their commands so.
import StructuredSql.Session

namespace StructuredSql

variable {ι α τ σ : Type}

/-- The answers to the inputs, and the state after the last. -/
def turns (step : ι → τ → α × τ) : List ι → τ → List α × τ
  | [], t => ([], t)
  | i :: rest, t =>
    let after := turns step rest (step i t).2
    ((step i t).1 :: after.1, after.2)

theorem turns_length (step : ι → τ → α × τ) (inputs : List ι) (t : τ) :
    (turns step inputs t).1.length = inputs.length := by
  induction inputs generalizing t with
  | nil => rfl
  | cons i rest ih => exact congrArg (· + 1) (ih _)

/-- The answer to an input is given on the state that the inputs before it left. -/
theorem turns_getElem? (step : ι → τ → α × τ) {inputs : List ι} {n : Nat} {i : ι}
    (h : inputs[n]? = some i) (t : τ) :
    (turns step inputs t).1[n]? = some (step i (turns step (inputs.take n) t).2).1 := by
  induction inputs generalizing n t with
  | nil => cases h
  | cons first rest ih =>
    cases n with
    | zero =>
      cases h
      rfl
    | succ n => exact ih h _

theorem turns_take_succ (step : ι → τ → α × τ) {inputs : List ι} {n : Nat} {i : ι}
    (h : inputs[n]? = some i) (t : τ) :
    (turns step (inputs.take (n + 1)) t).2 = (step i (turns step (inputs.take n) t).2).2 := by
  induction inputs generalizing n t with
  | nil => cases h
  | cons first rest ih =>
    cases n with
    | zero =>
      cases h
      rfl
    | succ n => exact ih h _

theorem Database.executeAll_eq_turns (E : Engine σ) (files : FileTree) (cmds : List Command)
    (db : Database σ) : executeAll E files cmds db = turns (execute E files) cmds db := by
  induction cmds generalizing db with
  | nil => rfl
  | cons cmd rest ih =>
    unfold executeAll turns
    dsimp only
    rw [ih]

theorem Session.run_eq_turns (E : Engine σ) (files : FileTree) (cmds : List Command)
    (s : Session σ) : s.run E files cmds = turns (Session.execute E files) cmds s := by
  induction cmds generalizing s with
  | nil => rfl
  | cons cmd rest ih =>
    unfold run turns
    dsimp only
    rw [ih]

end StructuredSql
