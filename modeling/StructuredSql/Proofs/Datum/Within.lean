-- Reading that needs room: what a reader gives when it opens no more lists and maps than it
-- may, and nothing when it would have to. Records and cases read back part by part.
import StructuredSql.Proofs.MessagePack.Received

namespace StructuredSql.Datum

open MessagePack (received receivedInt)

variable {α β : Type}

/-! ## Room -/

/-- What is read when so much room is needed. -/
def within (need room : Nat) (a : α) : Option α := if need ≤ room then some a else none

theorem within_zero (room : Nat) (a : α) : within 0 room a = some a := if_pos (Nat.zero_le room)

theorem within_succ_zero (need : Nat) (a : α) : within (need + 1) 0 a = none :=
  if_neg (Nat.not_succ_le_zero need)

theorem within_succ_succ (need room : Nat) (a : α) :
    within (need + 1) (room + 1) a = within need room a := by
  unfold within
  by_cases h : need ≤ room
  · rw [if_pos h, if_pos (Nat.succ_le_succ h)]
  · rw [if_neg h, if_neg fun hsucc => h (Nat.le_of_succ_le_succ hsucc)]

theorem within_map (f : α → β) (need room : Nat) (a : α) :
    (within need room a).map f = within need room (f a) := by
  unfold within
  by_cases h : need ≤ room
  · rw [if_pos h, if_pos h, Option.map_some]
  · rw [if_neg h, if_neg h, Option.map_none]

/-- One reading after the other needs as much room as the one that needs more. -/
theorem within_bind {f : α → Option β} {need more room : Nat} {a : α} {b : β}
    (h : f a = within more room b) :
    (within need room a).bind f = within (max need more) room b := by
  unfold within at *
  by_cases hneed : need ≤ room
  · rw [if_pos hneed, Option.bind_some, h]
    by_cases hmore : more ≤ room
    · rw [if_pos hmore, if_pos (Nat.max_le.mpr ⟨hneed, hmore⟩)]
    · rw [if_neg hmore, if_neg fun hmax => hmore (Nat.max_le.mp hmax).2]
  · rw [if_neg hneed, if_neg fun hmax => hneed (Nat.max_le.mp hmax).1]
    rfl

/-- The last reading of several. -/
theorem within_bind_some (f : α → β) (need room : Nat) (a : α) :
    ((within need room a).bind fun x => some (f x)) = within need room (f a) := by
  rw [← within_map, Option.map_eq_bind]
  rfl

theorem mapM_nil_within {γ : Type} (read : γ → Option α) (room : Nat) :
    ([] : List γ).mapM read = within 0 room [] := (within_zero room []).symm

theorem mapM_cons_within {γ : Type} {read : γ → Option α} {d : γ} {ds : List γ} {a : α}
    {as : List α} {need more room : Nat} (h : read d = within need room a)
    (hrest : ds.mapM read = within more room as) :
    (d :: ds).mapM read = within (max need more) room (a :: as) := by
  rw [List.mapM_cons, h, hrest]
  exact within_bind (within_bind_some _ _ _ _)

/-- The room that the item needs that needs most. -/
def most (size : α → Nat) : List α → Nat
  | [] => 0
  | a :: rest => max (size a) (most size rest)

theorem mapM_within {γ : Type} {read : γ → Option α} {write : α → γ} {size : α → Nat} {room : Nat}
    {as : List α} (h : ∀ a ∈ as, read (write a) = within (size a) room a) :
    (as.map write).mapM read = within (most size as) room as := by
  induction as with
  | nil => exact mapM_nil_within read room
  | cons a as ih =>
    exact mapM_cons_within (h a List.mem_cons_self)
      (ih fun x hx => h x (List.mem_cons_of_mem a hx))

/-- Items that need no room. -/
theorem mapM_of_forall {γ : Type} {read : γ → Option α} {f : α → γ} {as : List α}
    (h : ∀ a ∈ as, read (f a) = some a) : (as.map f).mapM read = some as := by
  induction as with
  | nil => rfl
  | cons a as ih =>
    rw [List.map_cons, List.mapM_cons, h a List.mem_cons_self,
      ih fun x hx => h x (List.mem_cons_of_mem a hx)]
    rfl

/-! ## Parts that may be missing -/

theorem optional?_some {read : Datum → Option α} {d : Datum} (h : d ≠ .null) :
    optional? read (some d) = (read d).map some := by
  cases d with
  | null => exact absurd rfl h
  | _ => rfl

/-- The room that a part needs, if it is there. -/
def needed (size : α → Nat) : Option α → Nat
  | none => 0
  | some a => size a

theorem optional?_within {read : Datum → Option α} {write : α → Datum} {size : α → Nat}
    {room : Nat} {part : Option α} (hnull : ∀ a, write a ≠ .null)
    (h : ∀ a ∈ part, read (write a) = within (size a) room a) :
    optional? read (part.map write) = within (needed size part) room part := by
  cases part with
  | none => exact (within_zero room none).symm
  | some a =>
    rw [Option.map_some, optional?_some (hnull a), h a rfl]
    exact within_map some _ _ _

/-! ## Lists -/

/-- A list is opened, and its items are read with the room inside. -/
theorem list?_bind_within {k : Nat × List Datum → Option α} {ds : List Datum} {a : α}
    {need room : Nat} (h : ∀ inside, room = inside + 1 → k (inside, ds) = within need inside a) :
    ((list? room (.list ds)).bind k) = within (need + 1) room a := by
  cases room with
  | zero => exact (within_succ_zero need a).symm
  | succ room =>
    rw [within_succ_succ]
    exact h room rfl

/-! ## Records -/

/-- A record of parts, each left out when there is nothing in it. -/
def written (parts : List (String × Option Datum)) : Datum :=
  .record (parts.flatMap fun p => field? p.1 p.2)

/-- Fields that are there, and one more that may be left out. -/
theorem record_append_field? (fields : List (String × Datum)) (name : String)
    (content : Option Datum) :
    .record (fields ++ field? name content) =
      written (fields.map (fun f => (f.1, some f.2)) ++ [(name, content)]) := by
  have hfields : (fields.map fun f => (f.1, some f.2)).flatMap
      (fun p : String × Option Datum => field? p.1 p.2) = fields := by
    induction fields with
    | nil => rfl
    | cons f fields ih => exact congrArg (f :: ·) ih
  unfold written
  rw [List.flatMap_append, hfields, List.flatMap_singleton]

/-- What is in the parts is read back. -/
def receivedParts (parts : List (String × Option Datum)) : List (String × Option Datum) :=
  parts.map fun p => (p.1, p.2.map received)

theorem received_record (fields : List (String × Datum)) :
    received (.record fields) = .record (fields.map fun f => (f.1, received f.2)) := by
  unfold record
  rw [received, MessagePack.receivedEntries_eq_map, List.map_map, List.map_map]
  rfl

theorem received_written (parts : List (String × Option Datum)) :
    received (written parts) = written (receivedParts parts) := by
  unfold written receivedParts
  rw [received_record, List.map_flatMap, List.flatMap_map]
  congr 2
  funext p
  obtain ⟨name, content⟩ := p
  cases content <;> rfl

theorem idxOf?_of_nodup {before after : List String} {name : String}
    (h : (before ++ name :: after).Nodup) :
    (before ++ name :: after).idxOf? name = some before.length := by
  induction before with
  | nil => simp [List.idxOf?_cons]
  | cons first before ih =>
    rw [List.cons_append, List.nodup_cons] at h
    have hne : first ≠ name := by
      rintro rfl
      exact h.1 (List.mem_append_right _ List.mem_cons_self)
    rw [List.cons_append, List.idxOf?_cons, if_neg (by simpa using hne), ih h.2]
    rfl

/-- The entries of the parts go into their slots, in order, behind those of the parts that
are done. -/
theorem fill_written (closed : Bool) (room : Nat) (done rest : List (String × Option Datum))
    (hnames : ((done ++ rest).map (·.1)).Nodup) :
    fill .messagePack ((done ++ rest).map (·.1)) closed room
        ((rest.flatMap fun p => field? p.1 p.2).map fun f => (.string f.1, f.2))
        (done.map (·.2) ++ rest.map fun _ => none) =
      some ((done ++ rest).map (·.2)) := by
  induction rest generalizing done with
  | nil =>
    rw [List.append_nil, List.map_nil, List.append_nil]
    rfl
  | cons p rest ih =>
    obtain ⟨name, content⟩ := p
    have hsplit : done ++ (name, content) :: rest = (done ++ [(name, content)]) ++ rest := by
      rw [List.append_assoc, List.singleton_append]
    have hrest := ih (done ++ [(name, content)]) (hsplit ▸ hnames)
    have hslots : (done ++ [(name, content)]).map (·.2) ++ rest.map (fun _ => none) =
        done.map (·.2) ++ content :: rest.map fun _ => none := by
      rw [List.map_append, List.append_assoc]
      rfl
    rw [← hsplit, hslots] at hrest
    cases content with
    | none => exact hrest
    | some d =>
      have hposition : position? .messagePack ((done ++ (name, some d) :: rest).map (·.1))
          (.string name) = some (some (done.map (·.2)).length) := by
        rw [List.map_append, List.map_cons] at hnames ⊢
        have hindex := idxOf?_of_nodup hnames
        unfold position?
        dsimp only at hindex ⊢
        rw [hindex, List.length_map, List.length_map]
      have hslot : (done.map (·.2) ++ (none :: rest.map fun _ => none) :
          List (Option Datum))[(done.map (·.2)).length]? = some none := by
        rw [List.getElem?_append_right (Nat.le_refl _), Nat.sub_self]
        rfl
      show fill .messagePack _ closed room ((.string name, d) ::
        (rest.flatMap fun p => field? p.1 p.2).map fun f => (.string f.1, f.2))
        (done.map (·.2) ++ none :: rest.map fun _ => none) = _
      unfold fill
      rw [hposition]
      dsimp only
      rw [hslot]
      dsimp only
      rw [List.set_append_right _ _ (Nat.le_refl _), Nat.sub_self]
      exact hrest

theorem record?_written (closed : Bool) (room : Nat) {names : List String}
    {parts : List (String × Option Datum)} (hparts : parts.map (·.1) = names)
    (hnames : names.Nodup) :
    record? .messagePack names closed (room + 1) (written parts) =
      some (room, parts.map (·.2)) := by
  subst hparts
  have hfill := fill_written closed room [] parts hnames
  rw [List.nil_append, List.map_nil, List.nil_append] at hfill
  show (fill .messagePack _ closed room _ _).map _ = _
  rw [List.map_map]
  rw [show (parts.map ((fun _ => none) ∘ fun x => x.1) : List (Option Datum)) =
    parts.map fun _ => none from rfl, hfill]
  rfl

/-- A record is opened, and its parts are read with the room inside. -/
theorem record?_bind_within (closed : Bool) {names : List String}
    {parts : List (String × Option Datum)} (hparts : parts.map (·.1) = names)
    (hnames : names.Nodup) {k : Nat × List (Option Datum) → Option α} {a : α} {need room : Nat}
    (h : ∀ inside, room = inside + 1 → k (inside, parts.map (·.2)) = within need inside a) :
    ((record? .messagePack names closed room (written parts)).bind k) =
      within (need + 1) room a := by
  cases room with
  | zero => exact (within_succ_zero need a).symm
  | succ room =>
    rw [record?_written closed room hparts hnames, within_succ_succ]
    exact h room rfl

/-! ## Numbers that messages hold -/

theorem inRange_string (s : String) : MessagePack.InRange (.string s) := trivial

theorem inRange_tagged {name : String} {d : Datum} (h : MessagePack.InRange d) :
    MessagePack.InRange (.tagged name d) := ⟨trivial, h, trivial⟩

theorem itemsInRange {ds : List Datum} (h : ∀ d ∈ ds, MessagePack.InRange d) :
    MessagePack.ItemsInRange ds := by
  induction ds with
  | nil => exact trivial
  | cons d ds ih => exact ⟨h d List.mem_cons_self, ih fun x hx => h x (List.mem_cons_of_mem d hx)⟩

theorem inRange_record {fields : List (String × Datum)}
    (h : ∀ f ∈ fields, MessagePack.InRange f.2) : MessagePack.InRange (.record fields) := by
  induction fields with
  | nil => exact trivial
  | cons f fields ih =>
    exact ⟨trivial, h f List.mem_cons_self, ih fun x hx => h x (List.mem_cons_of_mem f hx)⟩

theorem inRange_field? {name : String} {content : Option Datum}
    (h : ∀ d ∈ content, MessagePack.InRange d) :
    ∀ f ∈ field? name content, MessagePack.InRange f.2 := by
  intro f hf
  cases content with
  | none => cases hf
  | some d =>
    rw [List.mem_singleton.mp hf]
    exact h d rfl

theorem inRange_some {d : Datum} (h : MessagePack.InRange d) :
    ∀ x ∈ some d, MessagePack.InRange x := by
  intro x hx
  cases hx
  exact h

theorem inRange_map {write : α → Datum} (h : ∀ a, MessagePack.InRange (write a))
    (part : Option α) : ∀ d ∈ part.map write, MessagePack.InRange d := by
  intro d hd
  cases part with
  | none => cases hd
  | some a =>
    cases hd
    exact h a

/-- A record holds such numbers only if its parts do. -/
theorem inRange_written {parts : List (String × Option Datum)}
    (h : ∀ p ∈ parts, ∀ d ∈ p.2, MessagePack.InRange d) : MessagePack.InRange (written parts) := by
  refine inRange_record fun f hf => ?_
  obtain ⟨p, hp, hf⟩ := List.mem_flatMap.mp hf
  exact inRange_field? (h p hp) f hf

end StructuredSql.Datum
