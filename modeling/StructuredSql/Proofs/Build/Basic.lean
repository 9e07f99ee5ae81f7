-- How builds run: when a composed build succeeds, and what it then binds. A build
-- `Gives` a number of placeholders when every run that succeeds makes exactly so
-- many and brings no binding of a fragment.
import StructuredSql.Marker

namespace StructuredSql.Build

variable {α β : Type}

/-! ## Runs that succeed -/

theorem bind_eq_ok {x : Build α} {f : α → Build β} {n : Nat} {b : β} {bound : List Binding} :
    (x >>= f) n = .ok (b, bound) ↔ ∃ a first more, x n = .ok (a, first) ∧
      f a (n + Binding.countFresh first) = .ok (b, more) ∧ bound = first ++ more := by
  show andThen x f n = _ ↔ _
  unfold andThen
  constructor
  · intro h
    cases hx : x n with
    | error fault => simp [hx] at h
    | ok p =>
      obtain ⟨a, first⟩ := p
      simp only [hx] at h
      cases hf : f a (n + Binding.countFresh first) with
      | error fault => simp [hf] at h
      | ok q =>
        simp only [hf, Except.ok.injEq, Prod.mk.injEq] at h
        exact ⟨a, first, q.2, rfl, by rw [hf, ← h.1], h.2.symm⟩
  · rintro ⟨a, first, more, hx, hf, rfl⟩
    simp only [hx, hf]

@[simp] theorem pure_eq_ok {a b : α} {n : Nat} {bound : List Binding} :
    (pure a : Build α) n = .ok (b, bound) ↔ a = b ∧ bound = [] := by
  show Except.ok (a, []) = _ ↔ _
  simp only [Except.ok.injEq, Prod.mk.injEq, eq_comm]

@[simp] theorem liftM_eq_ok {result : Except Fault α} {a : α} {n : Nat} {bound : List Binding} :
    (liftM result : Build α) n = .ok (a, bound) ↔ result = .ok a ∧ bound = [] := by
  show ofExcept result n = _ ↔ _
  unfold ofExcept
  cases result with
  | error fault => simp
  | ok b => simp only [Except.ok.injEq, Prod.mk.injEq, eq_comm]

/-- What is read first binds nothing, and the number of the next placeholder stays. -/
theorem read_eq_ok {result : Except Fault α} {f : α → Build β} {n : Nat} {b : β}
    {bound : List Binding} :
    (liftM result >>= f) n = .ok (b, bound) ↔
      ∃ a, result = .ok a ∧ f a n = .ok (b, bound) := by
  rw [bind_eq_ok]
  constructor
  · rintro ⟨a, first, more, ha, hf, rfl⟩
    obtain ⟨hresult, rfl⟩ := liftM_eq_ok.1 ha
    exact ⟨a, hresult, hf⟩
  · rintro ⟨a, hresult, hf⟩
    exact ⟨a, [], bound, liftM_eq_ok.2 ⟨hresult, rfl⟩, hf, rfl⟩

@[simp] theorem fail_ne_ok {fault : Fault} {n : Nat} {r : α × List Binding} :
    (fail fault : Build α) n ≠ .ok r := by
  simp [fail]

/-! ## Builds that make placeholders -/

/-- A run that succeeds makes `k` placeholders and brings no other binding. `Q`
holds of the number of its first placeholder and of its result. -/
def Gives (x : Build α) (k : Nat) (Q : Nat → α → Prop) : Prop :=
  ∀ n a bound, x n = .ok (a, bound) →
    (∀ b ∈ bound, b.isFresh = true) ∧ bound.length = k ∧ Q n a

theorem countFresh_of_all {bound : List Binding} (h : ∀ b ∈ bound, b.isFresh = true) :
    Binding.countFresh bound = bound.length := by
  unfold Binding.countFresh
  exact List.countP_eq_length.2 h

theorem gives_pure {a : α} {Q : Nat → α → Prop} (h : ∀ n, Q n a) :
    Gives (pure a : Build α) 0 Q := by
  intro n b bound hb
  obtain ⟨rfl, rfl⟩ := pure_eq_ok.1 hb
  exact ⟨by simp, rfl, h n⟩

theorem gives_liftM {result : Except Fault α} {Q : Nat → α → Prop}
    (h : ∀ n a, result = .ok a → Q n a) : Gives (liftM result : Build α) 0 Q := by
  intro n a bound ha
  obtain ⟨hr, rfl⟩ := liftM_eq_ok.1 ha
  exact ⟨by simp, rfl, h n a hr⟩

theorem gives_fail {fault : Fault} {k : Nat} {Q : Nat → α → Prop} :
    Gives (fail fault : Build α) k Q :=
  fun _ _ _ h => absurd h fail_ne_ok

/-- The second build goes on with the number behind the placeholders of the first. -/
theorem gives_bind {x : Build α} {f : α → Build β} {k j : Nat} {P : Nat → α → Prop}
    {R : α → Nat → β → Prop} {Q : Nat → β → Prop} (hx : Gives x k P)
    (hf : ∀ a, Gives (f a) j (R a)) (hq : ∀ n a b, P n a → R a (n + k) b → Q n b) :
    Gives (x >>= f) (k + j) Q := by
  intro n b bound h
  obtain ⟨a, first, more, h1, h2, rfl⟩ := bind_eq_ok.1 h
  obtain ⟨f1, l1, hP⟩ := hx n a first h1
  rw [countFresh_of_all f1, l1] at h2
  obtain ⟨f2, l2, hR⟩ := hf a (n + k) b more h2
  refine ⟨?_, by simp [l1, l2], hq n a b hP hR⟩
  intro c hc
  rcases List.mem_append.1 hc with hc | hc
  · exact f1 c hc
  · exact f2 c hc

theorem gives_map {x : Build α} {k : Nat} {P : Nat → α → Prop} (hx : Gives x k P) {f : α → β}
    {Q : Nat → β → Prop} (hf : ∀ n a, P n a → Q n (f a)) : Gives (do return f (← x)) k Q := by
  refine gives_bind (k := k) (j := 0) hx
    (R := fun a _ b => b = f a) (fun a => gives_pure fun _ => rfl) ?_
  rintro n a b ha rfl
  exact hf n a ha

theorem gives_read {result : Except Fault α} {f : α → Build β} {k : Nat} {Q : Nat → β → Prop}
    (h : ∀ a, result = .ok a → Gives (f a) k Q) : Gives (liftM result >>= f) k Q := by
  intro n b bound hb
  obtain ⟨a, hresult, hf⟩ := read_eq_ok.1 hb
  exact h a hresult n b bound hf

theorem gives_mono {x : Build α} {k : Nat} {P Q : Nat → α → Prop} (hx : Gives x k P)
    (h : ∀ n a, P n a → Q n a) : Gives x k Q := by
  intro n a bound ha
  obtain ⟨f, l, hP⟩ := hx n a bound ha
  exact ⟨f, l, h n a hP⟩

end StructuredSql.Build
