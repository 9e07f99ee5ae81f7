-- What builds make, whatever they bind. Builds one behind the other obey the laws of a
-- monad, and a property of results or of faults passes from the parts of a build to the whole.
import StructuredSql.Proofs.Build.Basic
import Mathlib.Data.List.Forall2

namespace StructuredSql

theorem Binding.countFresh_append (bound more : List Binding) :
    countFresh (bound ++ more) = countFresh bound + countFresh more :=
  List.countP_append

/-- The statement is a lone placeholder. -/
def Sql.IsPlaceholder (sql : Sql) : Prop := ∃ n, sql = [.placeholder n]

namespace Build

variable {α β γ : Type}

/-! ## Builds one behind the other -/

theorem andThen_ready (x : Build α) : andThen x ready = x := by
  funext n
  unfold andThen
  cases hx : x n with
  | error fault => rfl
  | ok p => simp [ready]

theorem ready_andThen (a : α) (f : α → Build β) : andThen (ready a) f = f a := by
  funext n
  show andThen (ready a) f n = f a n
  unfold andThen ready
  simp only [Binding.countFresh, List.countP_nil, Nat.add_zero, List.nil_append]
  cases f a n <;> rfl

theorem andThen_assoc (x : Build α) (f : α → Build β) (g : β → Build γ) :
    andThen (andThen x f) g = andThen x fun a => andThen (f a) g := by
  funext n
  unfold andThen
  cases hx : x n with
  | error fault => rfl
  | ok p =>
    obtain ⟨a, first⟩ := p
    cases hf : f a (n + Binding.countFresh first) with
    | error fault => simp [hf]
    | ok q =>
      obtain ⟨b, more⟩ := q
      simp only [hf, Binding.countFresh_append, Nat.add_assoc]
      cases hg : g b (n + (Binding.countFresh first + Binding.countFresh more)) with
      | error fault => rfl
      | ok r => simp

instance : LawfulMonad Build := LawfulMonad.mk' Build andThen_ready ready_andThen andThen_assoc

theorem read_ok (a : α) (f : α → Build β) :
    (liftM (Except.ok a : Except Fault α) : Build α) >>= f = f a :=
  ready_andThen a f

/-! ## Properties of results -/

/-- What a run makes has the property if the run succeeds. -/
def Makes (x : Build α) (Q : α → Prop) : Prop :=
  ∀ n a bound, x n = .ok (a, bound) → Q a

/-- This is what some run makes. -/
def Made (x : Build α) (a : α) : Prop := ∃ n bound, x n = .ok (a, bound)

theorem makes_made (x : Build α) : Makes x x.Made := fun n _ bound h => ⟨n, bound, h⟩

theorem Makes.of_made {x : Build α} {Q : α → Prop} (h : Makes x Q) {a : α} (ha : x.Made a) :
    Q a := by
  obtain ⟨n, bound, hrun⟩ := ha
  exact h n a bound hrun

theorem made_pure_iff {a b : α} : Made (pure a) b ↔ b = a := by
  constructor
  · rintro ⟨n, bound, hrun⟩
    exact (pure_eq_ok.1 hrun).1.symm
  · rintro rfl
    exact ⟨0, [], pure_eq_ok.2 ⟨rfl, rfl⟩⟩

theorem made_map_iff {x : Build α} {f : α → β} {b : β} :
    Made (do return f (← x)) b ↔ ∃ a, x.Made a ∧ b = f a := by
  constructor
  · rintro ⟨n, bound, hrun⟩
    obtain ⟨a, first, more, ha, hb, -⟩ := bind_eq_ok.1 hrun
    exact ⟨a, ⟨n, first, ha⟩, (pure_eq_ok.1 hb).1.symm⟩
  · rintro ⟨a, ⟨n, bound, hrun⟩, rfl⟩
    exact ⟨n, bound ++ [], bind_eq_ok.2 ⟨a, bound, [], hrun, pure_eq_ok.2 ⟨rfl, rfl⟩, rfl⟩⟩

theorem makes_pure {a : α} {Q : α → Prop} (h : Q a) : Makes (pure a : Build α) Q := by
  intro n b bound hb
  obtain ⟨rfl, rfl⟩ := pure_eq_ok.1 hb
  exact h

theorem makes_fail {fault : Fault} {Q : α → Prop} : Makes (fail fault : Build α) Q :=
  fun _ _ _ h => absurd h fail_ne_ok

theorem Makes.imp {x : Build α} {P Q : α → Prop} (h : Makes x P) (hpq : ∀ a, P a → Q a) :
    Makes x Q := fun n a bound hrun => hpq a (h n a bound hrun)

theorem Makes.bind {x : Build α} {f : α → Build β} {P : α → Prop} {Q : β → Prop}
    (hx : Makes x P) (hf : ∀ a, P a → Makes (f a) Q) : Makes (x >>= f) Q := by
  intro n b bound h
  obtain ⟨a, first, more, ha, hb, rfl⟩ := bind_eq_ok.1 h
  exact hf a (hx n a first ha) _ b more hb

theorem Makes.map {x : Build α} {P : α → Prop} {Q : β → Prop} (hx : Makes x P) {f : α → β}
    (hf : ∀ a, P a → Q (f a)) : Makes (do return f (← x)) Q :=
  hx.bind fun a ha => makes_pure (hf a ha)

theorem makes_read {result : Except Fault α} {f : α → Build β} {Q : β → Prop}
    (h : ∀ a, result = .ok a → Makes (f a) Q) : Makes (liftM result >>= f) Q := by
  intro n b bound hb
  obtain ⟨a, hresult, hf⟩ := read_eq_ok.1 hb
  exact h a hresult n b bound hf

/-- One build after the other: there is one result for each, and it has the property. -/
theorem makes_each {f : α → Build Sql} {Q : Sql → Prop} (items : List α)
    (h : ∀ a ∈ items, Makes (f a) Q) :
    Makes (each f items) fun sqls => sqls.length = items.length ∧ ∀ sql ∈ sqls, Q sql := by
  induction items with
  | nil => exact makes_pure (by simp)
  | cons a rest ih =>
    refine (h a List.mem_cons_self).bind fun sql hsql => ?_
    refine (ih fun b hb => h b (List.mem_cons_of_mem _ hb)).map fun sqls hsqls => ?_
    exact ⟨congrArg Nat.succ hsqls.1, List.forall_mem_cons.2 ⟨hsql, hsqls.2⟩⟩

/-- One build after the other: every result has what its item asks for. -/
theorem makes_forall₂ {f : α → Build Sql} {R : α → Sql → Prop} (items : List α)
    (h : ∀ a ∈ items, Makes (f a) (R a)) : Makes (each f items) (List.Forall₂ R items) := by
  induction items with
  | nil => exact makes_pure .nil
  | cons a rest ih =>
    refine (h a List.mem_cons_self).bind fun sql hsql => ?_
    exact (ih fun b hb => h b (List.mem_cons_of_mem _ hb)).map fun sqls hsqls => .cons hsql hsqls

/-- A fragment makes its expanded SQL. -/
theorem makes_fragment (raw : Raw) :
    Makes (fragment raw) fun sql => Marker.expand raw.sql = .ok sql := by
  refine makes_read fun sql hsql => ?_
  rintro n b bound h
  obtain ⟨_, _, _, _, hb, _⟩ := bind_eq_ok.1 h
  obtain ⟨rfl, _⟩ := pure_eq_ok.1 hb
  exact hsql

/-- The build never succeeds. -/
def NeverRuns (x : Build α) : Prop := Makes x fun _ => False

theorem NeverRuns.bind {x : Build α} (h : NeverRuns x) (f : α → Build β) : NeverRuns (x >>= f) :=
  Makes.bind h fun _ hf => hf.elim

theorem neverRuns_bind {f : α → Build β} (x : Build α) (h : ∀ a, NeverRuns (f a)) :
    NeverRuns (x >>= f) := (makes_made x).bind fun a _ => h a

theorem NeverRuns.cons {x : Build α} (h : NeverRuns x) (rest : Build (List α)) :
    NeverRuns (Build.cons x rest) := h.bind _

theorem NeverRuns.behind {rest : Build (List α)} (h : NeverRuns rest) (x : Build α) :
    NeverRuns (Build.cons x rest) := neverRuns_bind x fun _ => h.bind _

/-! ## Faults -/

/-- What a run fails with has the property if the run fails. -/
def Faults (x : Build α) (P : Fault → Prop) : Prop := ∀ n fault, x n = .error fault → P fault

section
variable {P : Fault → Prop}

/-- A build without faults succeeds. -/
theorem Faults.runs {x : Build α} (h : Faults x fun _ => False) (n : Nat) :
    ∃ a bound, x n = .ok (a, bound) := by
  rcases hrun : x n with fault | ⟨a, bound⟩
  · exact (h n fault hrun).elim
  · exact ⟨a, bound, rfl⟩

theorem faults_pure {a : α} : Faults (pure a : Build α) P := nofun

theorem faults_fail {fault : Fault} (h : P fault) : Faults (fail fault : Build α) P := by
  intro n other hother
  cases hother
  exact h

theorem faults_placeholder (param : Param) : Faults (placeholder param) P := nofun

theorem Faults.bind {x : Build α} {f : α → Build β} (hx : Faults x P)
    (hf : ∀ a, Faults (f a) P) : Faults (x >>= f) P := by
  intro n fault h
  have hrun : andThen x f n = .error fault := h
  unfold andThen at hrun
  split at hrun
  · rename_i hfirst
    cases hrun
    exact hx n _ hfirst
  · split at hrun
    · rename_i hsecond
      cases hrun
      exact hf _ _ _ hsecond
    · cases hrun

/-- What stands behind a build that never succeeds is not looked at. -/
theorem Faults.before {x : Build α} (hx : Faults x P) (hnever : NeverRuns x) (f : α → Build β) :
    Faults (x >>= f) P := by
  intro n fault h
  cases hrun : x n with
  | ok r => exact (hnever n r.1 r.2 hrun).elim
  | error other =>
    have hbind : (x >>= f) n = .error other := by
      show andThen x f n = _
      unfold andThen
      rw [hrun]
    rw [hbind] at h
    cases h
    exact hx n _ hrun

theorem Faults.map {x : Build α} (hx : Faults x P) {f : α → β} :
    Faults (do return f (← x)) P :=
  hx.bind fun _ => faults_pure

theorem faults_each {f : α → Build Sql} (items : List α) (h : ∀ a ∈ items, Faults (f a) P) :
    Faults (each f items) P := by
  induction items with
  | nil => exact faults_pure
  | cons a rest ih =>
    refine (h a List.mem_cons_self).bind fun sql => ?_
    exact (ih fun b hb => h b (List.mem_cons_of_mem _ hb)).map

end

/-! ## Placeholders -/

/-- The build is one placeholder, whatever it is bound to. -/
def IsPlaceholder (x : Build Sql) : Prop := ∃ param, x = placeholder param

theorem isPlaceholder_text (s : String) : IsPlaceholder (text s) := ⟨_, rfl⟩

theorem isPlaceholder_number (v : Value) : IsPlaceholder (number v) := by
  unfold number
  split
  · exact ⟨_, rfl⟩
  · exact ⟨_, rfl⟩
  · split
    · exact ⟨_, rfl⟩
    · exact ⟨_, rfl⟩

theorem isPlaceholder_scalar {v : Value} (h : (v.isContainer || v.isRaw) = false) :
    IsPlaceholder (scalar v) := by
  cases v with
  | array items => cases h
  | object fields => cases h
  | raw fragment => cases h
  | _ => exact ⟨_, rfl⟩

theorem IsPlaceholder.makes {x : Build Sql} (h : IsPlaceholder x) : Makes x Sql.IsPlaceholder := by
  obtain ⟨param, rfl⟩ := h
  rintro n a bound hrun
  cases hrun
  exact ⟨n, rfl⟩

theorem makes_text (s : String) : Makes (text s) Sql.IsPlaceholder := (isPlaceholder_text s).makes

theorem makes_number (v : Value) : Makes (number v) Sql.IsPlaceholder :=
  (isPlaceholder_number v).makes

theorem IsPlaceholder.faults {x : Build Sql} (h : IsPlaceholder x) {P : Fault → Prop} :
    Faults x P := by
  obtain ⟨param, rfl⟩ := h
  exact faults_placeholder param

/-- What no placeholder is bound to makes a fault. -/
theorem makes_scalar (v : Value) : Makes (scalar v) Sql.IsPlaceholder := by
  unfold scalar
  split
  · exact makes_fail
  · exact makes_fail
  · exact makes_fail
  · exact IsPlaceholder.makes ⟨_, rfl⟩

end Build
end StructuredSql
