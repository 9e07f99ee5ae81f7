-- Two builds that cannot be told apart but by the values that they bind. From every
-- number on, both stop at a fault, or both give the same and bind under the same keys.
import StructuredSql.Proofs.Build.Basic
import StructuredSql.Proofs.Entries

namespace StructuredSql

/-- The key that a fragment gives a binding; placeholders are numbered later. -/
def Binding.given? : Binding → Option String
  | fresh _ => none
  | given key _ => some key

namespace Binding

/-- The same places are bound, whatever they are bound to. -/
def SamePlaces (bound more : List Binding) : Prop := bound.map given? = more.map given?

theorem SamePlaces.append {a b c d : List Binding} (h : SamePlaces a c) (h' : SamePlaces b d) :
    SamePlaces (a ++ b) (c ++ d) := by
  unfold SamePlaces at *
  rw [List.map_append, List.map_append, h, h']

theorem isFresh_eq (b : Binding) : b.isFresh = b.given?.isNone := by
  cases b <;> rfl

theorem SamePlaces.countFresh {a b : List Binding} (h : SamePlaces a b) :
    countFresh a = countFresh b := by
  have hcount : ∀ bound : List Binding,
      Binding.countFresh bound = (bound.map given?).countP Option.isNone := by
    intro bound
    rw [List.countP_map]
    exact List.countP_congr fun b _ => by rw [isFresh_eq]; rfl
  rw [hcount, hcount, h]

theorem SamePlaces.keys_entriesFrom {a b : List Binding} (h : SamePlaces a b) (n : Nat) :
    Entries.keys (entriesFrom n a) = Entries.keys (entriesFrom n b) := by
  induction a generalizing b n with
  | nil =>
    have hb : b = [] := List.map_eq_nil_iff.1 h.symm
    rw [hb]
  | cons x rest ih =>
    cases b with
    | nil => cases h
    | cons y more =>
      obtain ⟨hxy, hrest⟩ := List.cons.inj h
      cases x with
      | fresh param =>
        cases y with
        | fresh other => exact congrArg (placeholderKey n :: ·) (ih hrest (n + 1))
        | given key other => cases hxy
      | given key param =>
        cases y with
        | fresh other => cases hxy
        | given key' other =>
          obtain rfl : key = key' := Option.some.inj hxy
          exact congrArg (key :: ·) (ih hrest n)

end Binding

/-- Where the same places are bound, the statement has the same keys in the same
order. -/
theorem Binding.SamePlaces.keys_params {a b : List Binding} (h : SamePlaces a b) :
    Entries.keys (params a) = Entries.keys (params b) :=
  Entries.keys_extend_congr rfl (h.keys_entriesFrom 0)

namespace Build

variable {α β : Type}

/-- Every run of the first build that succeeds is matched by one of the second that
gives the same and binds at the same places. -/
def MatchedBy (x y : Build α) : Prop :=
  ∀ n a bound, x n = .ok (a, bound) → ∃ more, y n = .ok (a, more) ∧
    Binding.SamePlaces bound more

theorem MatchedBy.refl (x : Build α) : MatchedBy x x := fun _ _ bound h => ⟨bound, h, rfl⟩

theorem MatchedBy.trans {x y z : Build α} (h : MatchedBy x y) (h' : MatchedBy y z) :
    MatchedBy x z := by
  intro n a bound hx
  obtain ⟨more, hy, hsame⟩ := h n a bound hx
  obtain ⟨last, hz, hsame'⟩ := h' n a more hy
  exact ⟨last, hz, Eq.trans hsame hsame'⟩

theorem MatchedBy.bind {x y : Build α} {f g : α → Build β} (h : MatchedBy x y)
    (hf : ∀ a, MatchedBy (f a) (g a)) : MatchedBy (x >>= f) (y >>= g) := by
  intro n b bound hrun
  obtain ⟨a, first, rest, hx, hfa, rfl⟩ := bind_eq_ok.1 hrun
  obtain ⟨first', hy, hsame⟩ := h n a first hx
  obtain ⟨rest', hga, hsame'⟩ := hf a _ b rest hfa
  refine ⟨first' ++ rest', bind_eq_ok.2 ⟨a, first', rest', hy, ?_, rfl⟩, hsame.append hsame'⟩
  rwa [← hsame.countFresh]

/-- The builds differ at most in the values that they bind. -/
structure Agree (x y : Build α) : Prop where
  matched : MatchedBy x y
  matching : MatchedBy y x

namespace Agree

theorem refl (x : Build α) : Agree x x := ⟨.refl x, .refl x⟩

theorem symm {x y : Build α} (h : Agree x y) : Agree y x := ⟨h.2, h.1⟩

theorem trans {x y z : Build α} (h : Agree x y) (h' : Agree y z) : Agree x z :=
  ⟨h.1.trans h'.1, h'.2.trans h.2⟩

theorem bind {x y : Build α} {f g : α → Build β} (h : Agree x y)
    (hf : ∀ a, Agree (f a) (g a)) : Agree (x >>= f) (y >>= g) :=
  ⟨h.1.bind fun a => (hf a).1, h.2.bind fun a => (hf a).2⟩

theorem map {x y : Build α} (h : Agree x y) (f : α → β) :
    Agree (do return f (← x)) (do return f (← y)) :=
  h.bind fun _ => refl _

/-- What was read differs, but what follows does not tell. -/
theorem ok_bind {a b : α} {f g : α → Build β} (h : Agree (f a) (g b)) :
    Agree (liftM (Except.ok a : Except Fault α) >>= f)
      (liftM (Except.ok b : Except Fault α) >>= g) := by
  have hrun : ∀ (a : α) (f : α → Build β) n r bound,
      (liftM (Except.ok a : Except Fault α) >>= f) n = .ok (r, bound) ↔ f a n = .ok (r, bound) := by
    intro a f n r bound
    rw [bind_eq_ok]
    constructor
    · rintro ⟨a', first, more, ha, hf, rfl⟩
      obtain ⟨hok, rfl⟩ := liftM_eq_ok.1 ha
      cases hok
      exact hf
    · exact fun hf => ⟨a, [], bound, liftM_eq_ok.2 ⟨rfl, rfl⟩, hf, rfl⟩
  constructor
  · intro n r bound hr
    obtain ⟨more, hg, hsame⟩ := h.1 n r bound ((hrun a f n r bound).1 hr)
    exact ⟨more, (hrun b g n r more).2 hg, hsame⟩
  · intro n r bound hr
    obtain ⟨more, hf, hsame⟩ := h.2 n r bound ((hrun b g n r bound).1 hr)
    exact ⟨more, (hrun a f n r more).2 hf, hsame⟩

theorem cons {x y : Build Sql} {rest others : Build (List Sql)} (h : Agree x y)
    (hr : Agree rest others) : Agree (Build.cons x rest) (Build.cons y others) :=
  h.bind fun sql => hr.map (sql :: ·)

end Agree

theorem agree_fail (fault other : Fault) : Agree (fail fault : Build α) (fail other) :=
  ⟨fun _ _ _ h => absurd h fail_ne_ok, fun _ _ _ h => absurd h fail_ne_ok⟩

/-- No placeholder tells what it is bound to. -/
theorem agree_placeholder (p q : Param) : Agree (placeholder p) (placeholder q) := by
  constructor
  · rintro n a bound h
    cases h
    exact ⟨[.fresh q], rfl, rfl⟩
  · rintro n a bound h
    cases h
    exact ⟨[.fresh p], rfl, rfl⟩

/-- One build after the other, over items that are changed one by one. -/
theorem agree_each {ι κ : Type} {f : ι → Build Sql} {g : κ → Build Sql} (m : ι → κ)
    (items : List ι) (h : ∀ a ∈ items, Agree (f a) (g (m a))) :
    Agree (each f items) (each g (items.map m)) := by
  induction items with
  | nil => exact Agree.refl _
  | cons a rest ih =>
    exact (h a List.mem_cons_self).cons (ih fun b hb => h b (List.mem_cons_of_mem _ hb))

end Build
end StructuredSql
