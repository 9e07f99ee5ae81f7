-- A stream of frames that is cut anywhere: the frames before the cut are read, and then the
-- end is clean when the cut stands between two frames, and an error of the channel when not.
import StructuredSql.Proofs.Frame.Pieces

namespace StructuredSql.Frame

/-! ## A cut inside a frame -/

theorem length_framed (payload : List UInt8) :
    (framed payload).length = prefixLength + payload.length := by
  unfold framed
  rw [List.length_append, Octets.length_little]

/-- A stream that ends inside its first frame, in the length or behind it. -/
theorem read_cut {payload : List UInt8} (h : payload.length ≤ limit) {n : Nat} (hpos : 0 < n)
    (hn : n < (framed payload).length) :
    ∃ e, read ((framed payload).take n) = .error e ∧ e.kind = .transport := by
  have hlength : ((framed payload).take n).length = n :=
    List.length_take_of_le (Nat.le_of_lt hn)
  have hopen : ((framed payload).take n).isEmpty = false := by
    rw [List.isEmpty_eq_false_iff, ← List.length_pos_iff, hlength]
    exact hpos
  rw [length_framed] at hn
  unfold read
  rw [hopen, if_neg Bool.false_ne_true]
  by_cases hfront : n < prefixLength
  · rw [take?_eq, List.length_take, hlength, if_pos (by omega)]
    exact ⟨endInPrefix, rfl, rfl⟩
  · have hsplit : (framed payload).take n =
        Octets.little prefixLength payload.length ++ payload.take (n - prefixLength) := by
      unfold framed
      rw [List.take_append, Octets.length_little, List.take_of_length_le]
      rw [Octets.length_little]
      exact Nat.le_of_not_lt hfront
    rw [hsplit, Octets.take?_append (Octets.length_little _ _)]
    dsimp only
    rw [length_little h]
    dsimp only
    rw [take?_eq, List.length_take, List.length_take, if_pos (by omega)]
    exact ⟨endInPayload, rfl, rfl⟩

/-! ## A cut anywhere -/

/-- So many frames stand before the cut behind `n` octets, and not one more. -/
def Before (payloads : List (List UInt8)) (n k : Nat) : Prop :=
  k ≤ payloads.length ∧
    ∀ j ≤ payloads.length, ((payloads.take j).flatMap framed).length ≤ n ↔ j ≤ k

theorem before_nil (n : Nat) : Before [] n 0 := by
  refine ⟨Nat.le_refl 0, fun j hj => ?_⟩
  obtain rfl := Nat.le_zero.mp hj
  exact ⟨fun _ => Nat.le_refl 0, fun _ => Nat.zero_le n⟩

theorem before_cons {p : List UInt8} {rest : List (List UInt8)} {n k : Nat}
    (hp : (framed p).length ≤ n) (h : Before rest (n - (framed p).length) k) :
    Before (p :: rest) n (k + 1) := by
  refine ⟨Nat.succ_le_succ h.1, fun j hj => ?_⟩
  cases j with
  | zero => exact ⟨fun _ => Nat.zero_le _, fun _ => Nat.zero_le n⟩
  | succ j =>
    have hrest := h.2 j (Nat.le_of_succ_le_succ hj)
    rw [List.take_succ_cons, List.flatMap_cons, List.length_append]
    omega

theorem before_short {p : List UInt8} {rest : List (List UInt8)} {n : Nat}
    (hp : n < (framed p).length) : Before (p :: rest) n 0 := by
  refine ⟨Nat.zero_le _, fun j hj => ?_⟩
  cases j with
  | zero => exact ⟨fun _ => Nat.le_refl 0, fun _ => Nat.zero_le n⟩
  | succ j =>
    rw [List.take_succ_cons, List.flatMap_cons, List.length_append]
    omega

/-- The end behind so many frames is clean when nothing stands between them and the cut, and
an error of the channel when something does. -/
def EndsAs (octets n : Nat) (e : Option CallError) : Prop :=
  (e = none ↔ octets = n) ∧ ∀ err, e = some err → err.kind = .transport

/-- Frames are read up to the cut. -/
theorem reads_cut {payloads : List (List UInt8)} (h : Fitting payloads) {n : Nat}
    (hn : n ≤ (payloads.flatMap framed).length) {pieces : Pieces}
    (hpieces : pieces.flatten = (payloads.flatMap framed).take n) :
    ∃ k e, Before payloads n k ∧ Reads pieces (payloads.take k) e ∧
      EndsAs ((payloads.take k).flatMap framed).length n e := by
  induction payloads generalizing n pieces with
  | nil =>
    have hzero : n = 0 := Nat.le_zero.mp hn
    have hread : read pieces.flatten = .ok none := by
      rw [hpieces, List.flatMap_nil, List.take_nil]
      rfl
    exact ⟨0, none, before_nil n, .finish (readFrom_of_none hread),
      ⟨fun _ => hzero.symm, fun _ => rfl⟩, nofun⟩
  | cons p rest ih =>
    have hp := h p List.mem_cons_self
    rw [List.flatMap_cons] at hn hpieces
    rw [List.length_append] at hn
    by_cases hwhole : (framed p).length ≤ n
    · -- the first frame is whole, and the cut is one in the rest
      rw [List.take_append, List.take_of_length_le hwhole] at hpieces
      have hread : read pieces.flatten = _ := hpieces ▸ read_framed hp _
      obtain ⟨left, hfrom, hleft⟩ := readFrom_of_some hread
      obtain ⟨k, e, hbefore, hreads, hclean, herror⟩ :=
        ih (fun q hq => h q (List.mem_cons_of_mem p hq)) (by omega) hleft
      refine ⟨k + 1, e, before_cons hwhole hbefore, .next hfrom hreads, ?_, herror⟩
      rw [hclean, List.take_succ_cons, List.flatMap_cons, List.length_append]
      omega
    · -- the cut is inside of the first frame, or just before it
      have hwhole := Nat.lt_of_not_le hwhole
      rw [List.take_append_of_le_length (Nat.le_of_lt hwhole)] at hpieces
      rcases Nat.eq_zero_or_pos n with rfl | hpos
      · have hread : read pieces.flatten = .ok none := by
          rw [hpieces]
          rfl
        exact ⟨0, none, before_short hwhole, .finish (readFrom_of_none hread),
          ⟨fun _ => rfl, fun _ => rfl⟩, nofun⟩
      · obtain ⟨e, hread, hkind⟩ := read_cut hp hpos hwhole
        refine ⟨0, some e, before_short hwhole, .fail (readFrom_of_error (hpieces ▸ hread)),
          ⟨nofun, fun hzero => ?_⟩, ?_⟩
        · exact absurd hzero (Nat.ne_of_lt hpos)
        · intro err herr
          cases herr
          exact hkind

theorem reads_whole {payloads : List (List UInt8)} (h : Fitting payloads) {pieces : Pieces}
    (hpieces : pieces.flatten = payloads.flatMap framed) : Reads pieces payloads none := by
  have hreads := reads_readAll pieces
  rw [hpieces, readAll_framed h] at hreads
  exact hreads

/-- The frames before the cut fill the stream up to it, if it stands between two frames. -/
theorem Before.boundary {payloads : List (List UInt8)} {n k : Nat} (h : Before payloads n k) :
    ((payloads.take k).flatMap framed).length = n ↔
      ∃ j ≤ payloads.length, ((payloads.take j).flatMap framed).length = n := by
  constructor
  · intro hk
    exact ⟨k, h.1, hk⟩
  · rintro ⟨j, hj, hlength⟩
    have hjk : j ≤ k := (h.2 j hj).mp (Nat.le_of_eq hlength)
    have hle := (h.2 k h.1).mpr (Nat.le_refl k)
    have hmore : ((payloads.take j).flatMap framed).length ≤
        ((payloads.take k).flatMap framed).length := by
      obtain ⟨more, hmore⟩ := List.take_prefix_take_left (l := payloads) hjk
      rw [← hmore, List.flatMap_append, List.length_append]
      exact Nat.le_add_right _ _
    omega

theorem fitting_take {payloads : List (List UInt8)} (h : Fitting payloads) (k : Nat) :
    Fitting (payloads.take k) := fun p hp => h p (List.mem_of_mem_take hp)

/-- What was sent as frames is read back whole, however the reader cuts it into calls; and of
a stream that is cut off anywhere the frames before the cut, with a clean end only when it
stands between two frames. What is too long for a frame never comes to a writer. -/
theorem frames_come_back_up_to_a_cut {payloads : List (List UInt8)} (h : Fitting payloads) :
    (∀ pieces : Pieces, pieces.flatten = Writer.sent payloads → Reads pieces payloads none) ∧
    (∀ n ≤ (Writer.sent payloads).length, ∀ pieces : Pieces,
      pieces.flatten = (Writer.sent payloads).take n →
      ∃ k ≤ payloads.length,
        (∀ j ≤ payloads.length, (Writer.sent (payloads.take j)).length ≤ n ↔ j ≤ k) ∧
        ∃ e, Reads pieces (payloads.take k) e ∧
          (e = none ↔ ∃ j ≤ payloads.length, (Writer.sent (payloads.take j)).length = n) ∧
          ∀ err, e = some err → err.kind = .transport) ∧
    (∀ {ω : Type} (W : Writer ω) (payload : List UInt8) (out : ω), limit < payload.length →
      W.frame payload out = (.error (tooLong payload.length), out)) := by
  have hsent (k : Nat) : Writer.sent (payloads.take k) = (payloads.take k).flatMap framed :=
    Writer.sent_fitting (fitting_take h k)
  rw [Writer.sent_fitting h]
  simp only [hsent]
  refine ⟨fun pieces hpieces => reads_whole h hpieces, ?_, ?_⟩
  · intro n hn pieces hpieces
    obtain ⟨k, e, hbefore, hreads, hclean, herror⟩ := reads_cut h hn hpieces
    refine ⟨k, hbefore.1, hbefore.2, e, hreads, ?_, herror⟩
    rw [hclean, hbefore.boundary]
  · intro ω W payload out hlong
    exact W.frame_oversized hlong out

/-- Three frames, the one in the middle empty, come in pieces that do not keep to them; cut
off behind seven octets, the second frame is lost in its length. -/
theorem three_frames_cut_in_a_length :
    let payloads : List (List UInt8) := [[7], [], [1, 2]]
    let cut : Pieces := [[1, 0, 0], [], [0, 7, 0], [0]]
    Fitting payloads ∧
      Reads [[1, 0], [0, 0, 7, 0, 0, 0, 0, 2], [], [0, 0, 0], [1, 2]] payloads none ∧
      ∃ e, Reads cut [[7]] (some e) ∧ e.kind = .transport := by
  have hfits : Fitting [[7], [], [1, 2]] := by
    intro p hp
    simp only [List.mem_cons, List.not_mem_nil, or_false] at hp
    rcases hp with rfl | rfl | rfl <;> decide
  obtain ⟨hwhole, hcut, -⟩ := frames_come_back_up_to_a_cut hfits
  refine ⟨hfits, hwhole _ (by decide), ?_⟩
  obtain ⟨k, hk, hbefore, e, hreads, hclean, herror⟩ :=
    hcut 7 (by decide) [[1, 0, 0], [], [0, 7, 0], [0]] (by decide)
  have hfirst : 1 ≤ k := (hbefore 1 (by decide)).mp (by decide)
  have hsecond : ¬ 2 ≤ k := fun h => absurd ((hbefore 2 (by decide)).mpr h) (by decide)
  obtain rfl : k = 1 := by omega
  cases e with
  | none =>
    obtain ⟨j, hj, hlength⟩ := hclean.mp rfl
    have hjk : j ≤ 1 := (hbefore j hj).mp (Nat.le_of_eq hlength)
    rcases Nat.le_one_iff_eq_zero_or_eq_one.mp hjk with rfl | rfl
    · exact absurd hlength (by decide)
    · exact absurd hlength (by decide)
  | some e => exact ⟨e, hreads, herror e rfl⟩

end StructuredSql.Frame
