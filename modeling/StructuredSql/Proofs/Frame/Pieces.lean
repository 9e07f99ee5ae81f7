-- Frames read back: what was written as frames is read as the payloads, in order, up to a
-- clean end, and a payload beyond the limit is not written at all. The same holds over readers
-- and writers that take octets call by call: however a reader cuts the stream into calls, a
-- frame is read from it as from the whole stream; and a payload beyond the limit is refused
-- before the writer is called.
import StructuredSql.Frame

namespace StructuredSql.Frame

/-- The octets of a payload's frame. -/
def framed (payload : List UInt8) : List UInt8 :=
  Octets.little prefixLength payload.length ++ payload

/-! ## One frame -/

theorem write_fitting {payload : List UInt8} (h : payload.length ≤ limit) :
    write payload = .ok (framed payload) := by
  unfold write lengthPrefix checked
  rw [if_neg (Nat.not_lt.mpr h)]
  rfl

theorem write_oversized {payload : List UInt8} (h : limit < payload.length) :
    write payload = .error (tooLong payload.length) := by
  unfold write lengthPrefix checked
  rw [if_pos h]
  rfl

theorem write_ok {payload frame : List UInt8} (h : write payload = .ok frame) :
    payload.length ≤ limit ∧ frame = framed payload := by
  rcases Nat.lt_or_ge limit payload.length with hlong | hfits
  · rw [write_oversized hlong] at h
    cases h
  · rw [write_fitting hfits] at h
    exact ⟨hfits, (Except.ok.inj h).symm⟩

/-- Four octets hold any length within the limit. -/
theorem length_little {n : Nat} (h : n ≤ limit) :
    length (Octets.little prefixLength n) = .ok n := by
  have hsmall : n < Nat.pow 256 prefixLength := Nat.lt_of_le_of_lt h (by decide)
  unfold length checked
  rw [Octets.ofLittle_little, Nat.mod_eq_of_lt hsmall, if_neg (Nat.not_lt.mpr h)]

theorem framed_ne_nil (payload rest : List UInt8) : (framed payload ++ rest).isEmpty = false := rfl

theorem read_framed {payload : List UInt8} (h : payload.length ≤ limit) (rest : List UInt8) :
    read (framed payload ++ rest) = .ok (some (payload, rest)) := by
  unfold read
  rw [framed_ne_nil, if_neg Bool.false_ne_true]
  unfold framed
  rw [List.append_assoc, Octets.take?_append (Octets.length_little _ _)]
  dsimp only
  rw [length_little h]
  dsimp only
  rw [Octets.take?_append rfl]

/-! ## Many frames -/

/-- No payload is longer than a frame may be. -/
def Fitting (payloads : List (List UInt8)) : Prop := ∀ p ∈ payloads, p.length ≤ limit

theorem readAllWithin_framed {payloads : List (List UInt8)} (h : Fitting payloads) {fuel : Nat}
    (hfuel : payloads.length < fuel) :
    readAllWithin fuel (payloads.flatMap framed) = (payloads, none) := by
  induction payloads generalizing fuel with
  | nil =>
    obtain ⟨fuel, rfl⟩ := Nat.exists_eq_succ_of_ne_zero (Nat.ne_zero_of_lt hfuel)
    rfl
  | cons p rest ih =>
    obtain ⟨fuel, rfl⟩ := Nat.exists_eq_succ_of_ne_zero (Nat.ne_zero_of_lt hfuel)
    have hrest := ih (fun q hq => h q (List.mem_cons_of_mem p hq)) (Nat.lt_of_succ_lt_succ hfuel)
    unfold readAllWithin
    rw [List.flatMap_cons, read_framed (h p List.mem_cons_self)]
    dsimp only
    rw [hrest]

theorem length_le_flatMap_framed (payloads : List (List UInt8)) :
    payloads.length ≤ (payloads.flatMap framed).length := by
  induction payloads with
  | nil => exact Nat.le_refl 0
  | cons p rest ih =>
    rw [List.flatMap_cons, List.length_append, List.length_cons]
    have hp : 1 ≤ (framed p).length := Nat.succ_le_succ (Nat.zero_le _)
    omega

theorem readAll_framed {payloads : List (List UInt8)} (h : Fitting payloads) :
    readAll (payloads.flatMap framed) = (payloads, none) :=
  readAllWithin_framed h (Nat.lt_succ_of_le (length_le_flatMap_framed payloads))

/-- All frames are written, or the first payload that is too long stops the rest. -/
theorem foldlM_write_ok {payloads : List (List UInt8)} {out stream : List UInt8}
    (h : payloads.foldlM (fun out p => (write p).map fun f => out ++ f) out = .ok stream) :
    Fitting payloads ∧ stream = out ++ payloads.flatMap framed := by
  induction payloads generalizing out with
  | nil => exact ⟨fun _ hmem => absurd hmem List.not_mem_nil, by rw [← Except.ok.inj h]; simp⟩
  | cons p rest ih =>
    rw [List.foldlM_cons] at h
    rcases hp : write p with e | frame
    · rw [hp] at h
      cases h
    · rw [hp] at h
      obtain ⟨hfits, rfl⟩ := write_ok hp
      obtain ⟨hrest, rfl⟩ := ih h
      refine ⟨fun q hq => ?_, by simp⟩
      rcases List.mem_cons.mp hq with rfl | hq
      · exact hfits
      · exact hrest q hq

theorem writeAll_ok {payloads : List (List UInt8)} {stream : List UInt8}
    (h : writeAll payloads = .ok stream) :
    Fitting payloads ∧ stream = payloads.flatMap framed := foldlM_write_ok h

theorem foldlM_write_fitting {payloads : List (List UInt8)} (h : Fitting payloads)
    (out : List UInt8) :
    payloads.foldlM (fun out p => (write p).map fun f => out ++ f) out =
      .ok (out ++ payloads.flatMap framed) := by
  induction payloads generalizing out with
  | nil => exact congrArg Except.ok (List.append_nil out).symm
  | cons p rest ih =>
    rw [List.foldlM_cons, write_fitting (h p List.mem_cons_self), List.flatMap_cons,
      ← List.append_assoc]
    exact ih (fun q hq => h q (List.mem_cons_of_mem p hq)) (out ++ framed p)

theorem writeAll_fitting {payloads : List (List UInt8)} (h : Fitting payloads) :
    writeAll payloads = .ok (payloads.flatMap framed) := foldlM_write_fitting h []

theorem readAll_writeAll {payloads : List (List UInt8)} {stream : List UInt8}
    (h : writeAll payloads = .ok stream) : readAll stream = (payloads, none) := by
  obtain ⟨hfits, rfl⟩ := writeAll_ok h
  exact readAll_framed hfits

/-! ## Reading -/

theorem fill_eq (n : Nat) (pieces : Pieces) :
    (fill n pieces).1 = pieces.flatten.take n ∧
      (fill n pieces).2.flatten = pieces.flatten.drop n := by
  induction pieces generalizing n with
  | nil => exact ⟨List.take_nil.symm, List.drop_nil.symm⟩
  | cons piece rest ih =>
    unfold fill
    by_cases hn : n < piece.length
    · rw [if_pos hn, List.flatten_cons]
      refine ⟨?_, ?_⟩
      · rw [List.take_append_of_le_length (Nat.le_of_lt hn)]
      · rw [List.drop_append_of_le_length (Nat.le_of_lt hn), List.flatten_cons]
    · have hn := Nat.le_of_not_lt hn
      obtain ⟨htake, hdrop⟩ := ih (n - piece.length)
      rw [if_neg (Nat.not_lt.mpr hn), List.flatten_cons, List.take_append, List.drop_append,
        List.take_of_length_le hn, List.drop_of_length_le hn]
      exact ⟨congrArg (piece ++ ·) htake, hdrop⟩

/-- What is read from a stream is taken off its front: a prefix of that width, if there are
as many octets. -/
theorem take?_eq (n : Nat) (stream : List UInt8) :
    Octets.take? n stream =
      if (stream.take n).length < n then none else some (stream.take n, stream.drop n) := by
  have hle : (stream.take n).length ≤ n := List.length_take_le n stream
  unfold Octets.take?
  by_cases h : (stream.take n).length = n
  · rw [if_pos h, if_neg (by omega)]
  · rw [if_neg h, if_pos (by omega)]

/-- A reader gives the frame at the front of its stream, however it cuts the stream. -/
theorem readFrom_eq (pieces : Pieces) :
    (readFrom pieces).map (Option.map fun got => (got.1, got.2.flatten)) =
      read pieces.flatten := by
  obtain ⟨htake, hdrop⟩ := fill_eq prefixLength pieces
  have hempty : (pieces.flatten.take prefixLength).isEmpty = pieces.flatten.isEmpty := by
    cases pieces.flatten <;> rfl
  unfold readFrom read
  dsimp only
  rw [take?_eq, htake, hempty]
  by_cases hend : pieces.flatten.isEmpty = true
  · rw [if_pos hend, if_pos hend]
    rfl
  rw [if_neg hend, if_neg hend]
  by_cases hshort : (pieces.flatten.take prefixLength).length < prefixLength
  · rw [if_pos hshort, if_pos hshort]
    rfl
  rw [if_neg hshort, if_neg hshort]
  dsimp only
  rcases length (pieces.flatten.take prefixLength) with e | n
  · rfl
  obtain ⟨hpayload, hrest⟩ := fill_eq n (fill prefixLength pieces).2
  rw [hdrop] at hpayload hrest
  dsimp only
  rw [take?_eq, hpayload]
  by_cases hcut : ((pieces.flatten.drop prefixLength).take n).length < n
  · rw [if_pos hcut, if_pos hcut]
    rfl
  · rw [if_neg hcut, if_neg hcut, ← hrest]
    rfl

section
variable {pieces : Pieces}

theorem readFrom_of_error {e : CallError} (h : read pieces.flatten = .error e) :
    readFrom pieces = .error e := by
  rw [← readFrom_eq] at h
  rcases hfrom : readFrom pieces with e' | got
  · rw [hfrom] at h
    exact congrArg Except.error (Except.error.inj h)
  · rw [hfrom] at h
    cases h

theorem readFrom_of_none (h : read pieces.flatten = .ok none) : readFrom pieces = .ok none := by
  rw [← readFrom_eq] at h
  rcases hfrom : readFrom pieces with e | _ | got
  · rw [hfrom] at h
    cases h
  · rfl
  · rw [hfrom] at h
    cases h

theorem readFrom_of_some {payload rest : List UInt8}
    (h : read pieces.flatten = .ok (some (payload, rest))) :
    ∃ left, readFrom pieces = .ok (some (payload, left)) ∧ left.flatten = rest := by
  rw [← readFrom_eq] at h
  rcases hfrom : readFrom pieces with e | _ | ⟨payload', left⟩
  · rw [hfrom] at h
    cases h
  · rw [hfrom] at h
    cases h
  · rw [hfrom] at h
    cases h
    exact ⟨left, rfl, rfl⟩

end

/-- Frame after frame is read: the payloads up to the end of the reader, or up to the error
that was met. -/
inductive Reads : Pieces → List (List UInt8) → Option CallError → Prop
  | finish {pieces : Pieces} (h : readFrom pieces = .ok none) : Reads pieces [] none
  | fail {pieces : Pieces} {e : CallError} (h : readFrom pieces = .error e) :
    Reads pieces [] (some e)
  | next {pieces left : Pieces} {payload : List UInt8} {payloads : List (List UInt8)}
    {e : Option CallError} (h : readFrom pieces = .ok (some (payload, left)))
    (rest : Reads left payloads e) : Reads pieces (payload :: payloads) e

/-- Each frame takes octets off the stream. -/
theorem read_shorter {stream payload rest : List UInt8}
    (h : read stream = .ok (some (payload, rest))) : rest.length < stream.length := by
  unfold read at h
  rw [take?_eq] at h
  by_cases hend : stream.isEmpty = true
  · rw [if_pos hend] at h
    cases h
  rw [if_neg hend] at h
  by_cases hshort : (stream.take prefixLength).length < prefixLength
  · rw [if_pos hshort] at h
    cases h
  rw [if_neg hshort] at h
  dsimp only at h
  rcases hlength : length (stream.take prefixLength) with e | n
  · rw [hlength] at h
    cases h
  rw [hlength] at h
  dsimp only at h
  rw [take?_eq] at h
  by_cases hcut : ((stream.drop prefixLength).take n).length < n
  · rw [if_pos hcut] at h
    cases h
  · rw [if_neg hcut] at h
    cases h
    rw [List.length_take] at hshort
    have hprefix : 0 < prefixLength := by decide
    rw [List.length_drop, List.length_drop]
    omega

/-- Frame after frame, a reader gives the payloads that stand on its stream. -/
theorem reads_within {pieces : Pieces} {fuel : Nat} (h : pieces.flatten.length < fuel) :
    Reads pieces (readAllWithin fuel pieces.flatten).1 (readAllWithin fuel pieces.flatten).2 := by
  induction fuel generalizing pieces with
  | zero => cases h
  | succ fuel ih =>
    unfold readAllWithin
    rcases hread : read pieces.flatten with e | _ | ⟨payload, rest⟩
    · exact .fail (readFrom_of_error hread)
    · exact .finish (readFrom_of_none hread)
    · obtain ⟨left, hfrom, rfl⟩ := readFrom_of_some hread
      have hshorter := read_shorter hread
      exact .next hfrom (ih (by omega))

theorem reads_readAll (pieces : Pieces) :
    Reads pieces (readAll pieces.flatten).1 (readAll pieces.flatten).2 :=
  reads_within (Nat.lt_succ_self _)

/-- A reader gives nothing else. -/
theorem Reads.unique {pieces : Pieces} {payloads payloads' : List (List UInt8)}
    {e e' : Option CallError} (h : Reads pieces payloads e) (h' : Reads pieces payloads' e') :
    payloads = payloads' ∧ e = e' := by
  induction h generalizing payloads' e' with
  | finish hread =>
    cases h' with
    | finish => exact ⟨rfl, rfl⟩
    | fail hread' => cases hread.symm.trans hread'
    | next hread' => cases hread.symm.trans hread'
  | fail hread =>
    cases h' with
    | finish hread' => cases hread.symm.trans hread'
    | fail hread' =>
      cases hread.symm.trans hread'
      exact ⟨rfl, rfl⟩
    | next hread' => cases hread.symm.trans hread'
  | next hread _ ih =>
    cases h' with
    | finish hread' => cases hread.symm.trans hread'
    | fail hread' => cases hread.symm.trans hread'
    | next hread' hrest' =>
      cases hread.symm.trans hread'
      obtain ⟨rfl, rfl⟩ := ih hrest'
      exact ⟨rfl, rfl⟩

/-! ## Writing -/

namespace Writer

variable {ω : Type}

/-- A payload beyond the limit never comes to the writer. -/
theorem frame_oversized (W : Writer ω) {payload : List UInt8} (h : limit < payload.length)
    (out : ω) : W.frame payload out = (.error (tooLong payload.length), out) := by
  unfold frame lengthPrefix checked
  rw [if_pos h]
  rfl

/-- On that writer a frame is what it is as octets, or nothing of it is written. -/
theorem stream_frame (payload out : List UInt8) :
    stream.frame payload out =
      match Frame.write payload with
      | .error e => (.error e, out)
      | .ok octets => (.ok (), out ++ octets) := by
  unfold frame Frame.write
  rcases lengthPrefix payload.length with e | front
  · rfl
  · dsimp only [Except.map, stream]
    rw [List.append_assoc]

/-- What stands on a stream behind the frames of all payloads. -/
def sent (payloads : List (List UInt8)) : List UInt8 :=
  payloads.foldl (fun out payload => (stream.frame payload out).2) []

theorem foldl_frame {payloads : List (List UInt8)} (h : Fitting payloads) (out : List UInt8) :
    payloads.foldl (fun out payload => (stream.frame payload out).2) out =
      out ++ payloads.flatMap framed := by
  induction payloads generalizing out with
  | nil => exact (List.append_nil out).symm
  | cons p rest ih =>
    rw [List.foldl_cons, stream_frame, write_fitting (h p List.mem_cons_self),
      List.flatMap_cons, ← List.append_assoc]
    exact ih (fun q hq => h q (List.mem_cons_of_mem p hq)) (out ++ framed p)

theorem sent_fitting {payloads : List (List UInt8)} (h : Fitting payloads) :
    sent payloads = payloads.flatMap framed := foldl_frame h []

end Writer
end StructuredSql.Frame
