-- The text of a document reads back. A document without numbers that are out of range is read
-- as it was written by a reader that may open as many containers as it nests.
import StructuredSql.Datum.Json
import StructuredSql.Proofs.Json.Number

namespace StructuredSql.Json

open Text (ne_of_isDigit)

/-! ## Strings -/

/-- The characters that are escaped by one letter. -/
def lettered : List Char := ['"', '\\', '\x08', '\x0c', '\n', '\r', '\t']

theorem stringRest?_lettered {c : Char} (hc : c ∈ lettered) (s : List Char) :
    stringRest? none (escape c ++ s) = before c (stringRest? none s) := by
  have hall : ∀ c ∈ lettered, stringRest? none (escape c ++ s) = before c (stringRest? none s) := by
    simp [lettered, escape, stringRest?, simpleEscape?, unpaired]
  exact hall c hc

theorem unit?_control : ∀ n < 32, unit? '0' '0' (hexDigit (n / 16)) (hexDigit n) = some n := by
  decide

/-- A control character is escaped by its number. -/
theorem stringRest?_control {c : Char} (hc : c.toNat < 32) (s : List Char) :
    stringRest? none
        ('\\' :: 'u' :: '0' :: '0' :: hexDigit (c.toNat / 16) :: hexDigit c.toNat :: s) =
      before c (stringRest? none s) := by
  rw [stringRest?, unit?_control c.toNat hc]
  dsimp only
  rw [if_neg (by omega), if_neg (by omega), Char.ofNat_toNat]
  rfl

theorem stringRest?_plain {c : Char} (hquote : c ≠ '"') (hbackslash : c ≠ '\\')
    (hc : ¬ c.toNat < 32) (s : List Char) :
    stringRest? none (c :: s) = before c (stringRest? none s) := by
  rw [stringRest?, if_neg (not_or.2 ⟨hbackslash, hc⟩)]
  · rfl
  · exact hquote
  · rintro _ _ _ _ _ rfl
    exact absurd rfl hbackslash
  · rintro _ _ rfl
    exact absurd rfl hbackslash

/-- A character reads back from how it is written. -/
theorem stringRest?_escape (c : Char) (s : List Char) :
    stringRest? none (escape c ++ s) = before c (stringRest? none s) := by
  by_cases hletter : c ∈ lettered
  · exact stringRest?_lettered hletter s
  · simp only [lettered, List.mem_cons, List.not_mem_nil, or_false, not_or] at hletter
    obtain ⟨hquote, hbackslash, hletters⟩ := hletter
    have hescape : escape c = if c.toNat < 32 then
        ['\\', 'u', '0', '0', hexDigit (c.toNat / 16), hexDigit c.toNat] else [c] := by
      simp [escape, hquote, hbackslash, hletters]
    rw [hescape]
    split
    · rename_i hcontrol
      exact stringRest?_control hcontrol s
    · rename_i hplain
      exact stringRest?_plain hquote hbackslash hplain s

theorem stringRest?_flatMap (s rest : List Char) :
    stringRest? none (s.flatMap escape ++ '"' :: rest) = some (some s, rest) := by
  induction s with
  | nil => rfl
  | cons c s ih =>
    rw [List.flatMap_cons, List.append_assoc, stringRest?_escape, ih]
    rfl

/-- The quote that opens the text of a string, and what stands behind it. -/
theorem toList_quoted (s : String) :
    (quoted s).toList = '"' :: (s.toList.flatMap escape ++ ['"']) :=
  String.toList_ofList

theorem stringDatum_toList (s : String) : stringDatum (some s.toList) = .string s := by
  rw [stringDatum, String.ofList_toList]

/-! ## Documents that read back -/

mutual

/-- How many containers stand inside each other. -/
def depth : Json → Nat
  | .array items => itemsDepth items + 1
  | .object members => membersDepth members + 1
  | _ => 0
termination_by structural j => j

def itemsDepth : List Json → Nat
  | [] => 0
  | j :: rest => max j.depth (itemsDepth rest)
termination_by structural items => items

def membersDepth : List (String × Json) → Nat
  | [] => 0
  | (_, j) :: rest => max j.depth (membersDepth rest)
termination_by structural members => members

end

/-- A reader of floats takes the text of a float as that float. -/
def FloatReader.Restores (floats : FloatReader) (x : Double) : Prop :=
  parseBy? floats maxDepth x.toJsonText = some (.float x)

mutual

/-- Whole numbers are within 64 bits, and the other numbers are finite and restored by the
reader. -/
def Legible (floats : FloatReader) : Json → Prop
  | .int i => InRange i
  | .float x => x.isFinite = true ∧ floats.Restores x
  | .array items => ItemsLegible floats items
  | .object members => MembersLegible floats members
  | _ => True
termination_by structural j => j

def ItemsLegible (floats : FloatReader) : List Json → Prop
  | [] => True
  | j :: rest => j.Legible floats ∧ ItemsLegible floats rest
termination_by structural items => items

def MembersLegible (floats : FloatReader) : List (String × Json) → Prop
  | [] => True
  | (_, j) :: rest => j.Legible floats ∧ MembersLegible floats rest
termination_by structural members => members

end

/-! ## The text of a container -/

/-- The items of a list as they are written. -/
def itemsText (items : List Json) : List Char :=
  [','].intercalate ((printItems items).map String.toList)

def membersText (members : List (String × Json)) : List Char :=
  [','].intercalate ((printMembers members).map String.toList)

theorem itemsText_cons (j k : Json) (rest : List Json) :
    itemsText (j :: k :: rest) = j.print.toList ++ ',' :: itemsText (k :: rest) := by
  simp [itemsText, printItems, List.intercalate_cons_cons]

theorem itemsText_singleton (j : Json) : itemsText [j] = j.print.toList := by
  simp [itemsText, printItems]

theorem membersText_cons (key : String) (j : Json) (m : String × Json)
    (rest : List (String × Json)) :
    membersText ((key, j) :: m :: rest) =
      '"' :: (key.toList.flatMap escape ++
        '"' :: ':' :: (j.print.toList ++ ',' :: membersText (m :: rest))) := by
  obtain ⟨key', j'⟩ := m
  simp [membersText, printMembers, List.intercalate_cons_cons, toList_quoted]

theorem membersText_singleton (key : String) (j : Json) :
    membersText [(key, j)] =
      '"' :: (key.toList.flatMap escape ++ '"' :: ':' :: j.print.toList) := by
  simp [membersText, printMembers, toList_quoted]

theorem toList_print_array (items : List Json) :
    (print (.array items)).toList = '[' :: (itemsText items ++ [']']) := by
  simp [print, itemsText, String.toList_intercalate]

theorem toList_print_object (members : List (String × Json)) :
    (print (.object members)).toList = '\x7b' :: (membersText members ++ ['\x7d']) := by
  simp [print, membersText, String.toList_intercalate]

/-! ## The head of a text -/

variable {floats : FloatReader} {beyond : Beyond} {fuel room : Nat} {rest : List Char}

theorem isBlank_of_isDigit {c : Char} (hc : c.isDigit = true) : isBlank c = false := by
  have hspace := ne_of_isDigit hc (d := ' ') (by decide)
  have hline := ne_of_isDigit hc (d := '\n') (by decide)
  have htab := ne_of_isDigit hc (d := '\t') (by decide)
  have hreturn := ne_of_isDigit hc (d := '\r') (by decide)
  simp [isBlank, hspace, hline, htab, hreturn]

theorem skipBlank_cons {c : Char} (hc : isBlank c = false) (s : List Char) :
    skipBlank (c :: s) = c :: s := by
  unfold skipBlank
  rw [List.dropWhile_cons, hc, if_neg Bool.false_ne_true]

/-- What begins with a digit behind its sign is read as a number. -/
theorem value?_number (negative : Bool) {c : Char} (hc : c.isDigit = true) (s rest : List Char) :
    value? floats beyond (fuel + 1) room ((if negative then '-' :: c :: s else c :: s) ++ rest) =
      number? floats negative (c :: s ++ rest) := by
  cases negative
  · have hne : ∀ d, d.isDigit = false → c ≠ d := fun d hd => ne_of_isDigit hc hd
    simp [value?, skipBlank_cons (isBlank_of_isDigit hc), hne]
  · rfl

/-- A number that is not finite has no document. -/
theorem finite_of_ofDatum? {x y : Double} (h : ofDatum? (finite y) = some (.float x)) : y = x := by
  unfold finite at h
  split at h
  · simpa [ofDatum?] using h
  · simp [ofDatum?] at h

/-- A reader that restores a float restores it whatever stands behind its text: the decimal
that it is handed is the same. -/
theorem value?_toJsonText {x : Double} (hx : x.isFinite = true) (h : floats.Restores x)
    (hrest : Ends rest) :
    value? floats beyond (fuel + 1) room (x.toJsonText.toList ++ rest) =
      some (.float x, rest) := by
  obtain ⟨c, s, hc, htext, whole, places, e, -, hread⟩ := number?_toJsonText hx
  have hfloat : floats x.negative whole places e = x := by
    have hend := hread floats [] (by simp [Ends])
    unfold FloatReader.Restores parseBy? datumBy? at h
    dsimp only at h
    rw [htext, ← List.append_nil (ite _ _ _), value?_number _ hc, hend] at h
    exact finite_of_ofDatum? h
  rw [htext, value?_number _ hc, hread floats rest hrest, hfloat, finite_of_isFinite hx]

/-- Rounding to the nearest float restores every finite one. -/
theorem nearest_restores {x : Double} (hx : x.isFinite = true) : nearest.Restores x := by
  obtain ⟨c, s, hc, htext, whole, places, e, hnearest, hread⟩ := number?_toJsonText hx
  have hend := hread nearest [] (by simp [Ends])
  unfold FloatReader.Restores parseBy? datumBy?
  dsimp only
  rw [htext, ← List.append_nil (ite _ _ _), value?_number _ hc, hend, hnearest,
    finite_of_isFinite hx]
  rfl

/-- The decimal 31.245270191439438 has too many digits for a reader that rounds at every step:
it becomes the float of 31.24527019143944. -/
example : bestEffort false "31".toList "245270191439438".toList 0 = ⟨0x403f3eca06faea83⟩ ∧
    nearest false "31".toList "245270191439438".toList 0 = ⟨0x403f3eca06faea82⟩ := by
  decide

/-- A text that begins neither with blank space nor with the end of a list. -/
def Begins (s : List Char) : Prop := ∃ c t, s = c :: t ∧ isBlank c = false ∧ c ≠ ']'

theorem begins_number (negative : Bool) {c : Char} (hc : c.isDigit = true) (s : List Char) :
    Begins (if negative then '-' :: c :: s else c :: s) := by
  cases negative
  · exact ⟨c, s, rfl, isBlank_of_isDigit hc, ne_of_isDigit hc (by decide)⟩
  · exact ⟨'-', c :: s, rfl, by decide, by decide⟩

theorem begins_print {j : Json} (h : j.Legible floats) : Begins j.print.toList := by
  cases j with
  | null => exact ⟨'n', _, rfl, by decide, by decide⟩
  | bool b => cases b <;> exact ⟨_, _, rfl, by decide, by decide⟩
  | int i =>
    obtain ⟨c, s, hc, htext, -⟩ := number?_toString floats h
    rw [print, htext]
    exact begins_number _ hc s
  | float x =>
    have hx : x.isFinite = true := h.1
    obtain ⟨c, s, hc, htext, -⟩ := number?_toJsonText hx
    rw [print, if_pos hx, htext]
    exact begins_number _ hc s
  | string s => exact ⟨'"', _, toList_quoted s, by decide, by decide⟩
  | array items => exact ⟨'[', _, toList_print_array items, by decide, by decide⟩
  | object members => exact ⟨'\x7b', _, toList_print_object members, by decide, by decide⟩

/-! ## Reading back -/

theorem ends_cons {c : Char} (hc : Text.isNumeral c = false) (s : List Char) : Ends (c :: s) := by
  intro d hd
  obtain rfl : c = d := by simpa using hd
  exact hc

theorem value?_string (s : String) :
    value? floats beyond (fuel + 1) room ((quoted s).toList ++ rest) = some (.string s, rest) := by
  rw [toList_quoted]
  simp [value?, skipBlank_cons (c := '"') (by decide), stringRest?_flatMap, stringDatum_toList]

theorem value?_array {items : List Json} {data : List Datum} (hbegins : Begins (itemsText items))
    (h : items? floats beyond fuel room (itemsText items ++ ']' :: rest) = some (data, rest)) :
    value? floats beyond (fuel + 1) (room + 1) ((print (.array items)).toList ++ rest) =
      some (.list data, rest) := by
  obtain ⟨c, s, htext, hblank, hc⟩ := hbegins
  rw [htext, List.cons_append] at h
  rw [toList_print_array, htext]
  simp [value?, skipBlank_cons (c := '[') (by decide), skipBlank_cons hblank, hc, h, container]

theorem value?_object {members : List (String × Json)} {s : List Char}
    {entries : List (Datum × Datum)} (htext : membersText members = '"' :: s)
    (h : members? floats beyond fuel room (membersText members ++ '\x7d' :: rest) =
      some (entries, rest)) :
    value? floats beyond (fuel + 1) (room + 1) ((print (.object members)).toList ++ rest) =
      some (.map entries, rest) := by
  rw [htext, List.cons_append] at h
  rw [toList_print_object, htext]
  simp [value?, skipBlank_cons (c := '\x7b') (by decide), skipBlank_cons (c := '"') (by decide), h,
    container]

theorem items?_cons {s t : List Char} {d : Datum} {data : List Datum}
    (h : value? floats beyond fuel room s = some (d, ',' :: t))
    (hrest : items? floats beyond fuel room t = some (data, rest)) :
    items? floats beyond (fuel + 1) room s = some (d :: data, rest) := by
  simp [items?, h, skipBlank_cons (c := ',') (by decide), hrest]

theorem items?_singleton {s : List Char} {d : Datum}
    (h : value? floats beyond fuel room s = some (d, ']' :: rest)) :
    items? floats beyond (fuel + 1) room s = some ([d], rest) := by
  simp [items?, h, skipBlank_cons (c := ']') (by decide)]

theorem members?_cons {key : String} {s t : List Char} {d : Datum} {entries : List (Datum × Datum)}
    (h : value? floats beyond fuel room s = some (d, ',' :: t))
    (hrest : members? floats beyond fuel room t = some (entries, rest)) :
    members? floats beyond (fuel + 1) room ('"' :: (key.toList.flatMap escape ++ '"' :: ':' :: s)) =
      some ((.string key, d) :: entries, rest) := by
  simp [members?, skipBlank_cons (c := '"') (by decide), skipBlank_cons (c := ':') (by decide),
    skipBlank_cons (c := ',') (by decide), stringRest?_flatMap, stringDatum_toList, h, hrest]

theorem members?_singleton {key : String} {s : List Char} {d : Datum}
    (h : value? floats beyond fuel room s = some (d, '\x7d' :: rest)) :
    members? floats beyond (fuel + 1) room ('"' :: (key.toList.flatMap escape ++ '"' :: ':' :: s)) =
      some ([(.string key, d)], rest) := by
  simp [members?, skipBlank_cons (c := '"') (by decide), skipBlank_cons (c := ':') (by decide),
    skipBlank_cons (c := '\x7d') (by decide), stringRest?_flatMap, stringDatum_toList, h]

theorem begins_itemsText {j : Json} (h : j.Legible floats) (items : List Json) :
    Begins (itemsText (j :: items)) := by
  obtain ⟨c, s, htext, hbegins⟩ := begins_print h
  cases items with
  | nil =>
    rw [itemsText_singleton]
    exact ⟨c, s, htext, hbegins⟩
  | cons k rest =>
    rw [itemsText_cons, htext]
    exact ⟨c, _, rfl, hbegins⟩

theorem membersText_quote (m : String × Json) (members : List (String × Json)) :
    ∃ s, membersText (m :: members) = '"' :: s := by
  obtain ⟨key, j⟩ := m
  cases members with
  | nil => exact ⟨_, membersText_singleton key j⟩
  | cons m rest => exact ⟨_, membersText_cons key j m rest⟩

/-- The text of a document is read as its data, whatever stands behind it, by a reader with room
for its containers. Each call takes a character or hands over, so twice the length is fuel
enough. -/
def ReadsBack (floats : FloatReader) (beyond : Beyond) (j : Json) : Prop :=
  ∀ (fuel room : Nat) (rest : List Char), Ends rest → j.depth ≤ room →
    2 * j.print.toList.length ≤ fuel →
    value? floats beyond fuel room (j.print.toList ++ rest) = some (j.toDatum, rest)

theorem items?_itemsText {items : List Json} (h : ∀ j ∈ items, ReadsBack floats beyond j)
    (hne : items ≠ []) (hroom : itemsDepth items ≤ room)
    (hfuel : 2 * (itemsText items).length + 1 ≤ fuel) :
    items? floats beyond fuel room (itemsText items ++ ']' :: rest) =
      some (itemsToData items, rest) := by
  induction items generalizing fuel with
  | nil => exact absurd rfl hne
  | cons j items ih =>
    obtain ⟨hj, hitems⟩ := List.forall_mem_cons.1 h
    obtain ⟨hroom', hinside⟩ := Nat.max_le.1 hroom
    obtain ⟨fuel, rfl⟩ := Nat.exists_eq_add_of_le' (show 1 ≤ fuel by omega)
    cases items with
    | nil =>
      rw [itemsText_singleton] at hfuel ⊢
      have hvalue := hj fuel room (']' :: rest) (ends_cons (by decide) _) hroom' (by omega)
      exact items?_singleton hvalue
    | cons k items =>
      rw [itemsText_cons] at hfuel ⊢
      rw [List.length_append, List.length_cons] at hfuel
      rw [List.append_assoc]
      have hvalue := hj fuel room (',' :: (itemsText (k :: items) ++ ']' :: rest))
        (ends_cons (by decide) _) hroom' (by omega)
      exact items?_cons hvalue (ih hitems (List.cons_ne_nil _ _) hinside (by omega))

theorem members?_membersText {members : List (String × Json)}
    (h : ∀ m ∈ members, ReadsBack floats beyond m.2) (hne : members ≠ [])
    (hroom : membersDepth members ≤ room)
    (hfuel : 2 * (membersText members).length + 1 ≤ fuel) :
    members? floats beyond fuel room (membersText members ++ '\x7d' :: rest) =
      some (membersToData members, rest) := by
  induction members generalizing fuel with
  | nil => exact absurd rfl hne
  | cons m members ih =>
    obtain ⟨key, j⟩ := m
    obtain ⟨hj, hmembers⟩ :
        ReadsBack floats beyond j ∧ ∀ m ∈ members, ReadsBack floats beyond m.2 :=
      List.forall_mem_cons.1 h
    obtain ⟨hroom', hinside⟩ := Nat.max_le.1 hroom
    obtain ⟨fuel, rfl⟩ := Nat.exists_eq_add_of_le' (show 1 ≤ fuel by omega)
    cases members with
    | nil =>
      rw [membersText_singleton] at hfuel ⊢
      simp only [List.length_cons, List.length_append] at hfuel
      simp only [List.cons_append, List.append_assoc]
      have hvalue := hj fuel room ('\x7d' :: rest) (ends_cons (by decide) _) hroom' (by omega)
      exact members?_singleton hvalue
    | cons m members =>
      rw [membersText_cons] at hfuel ⊢
      simp only [List.length_cons, List.length_append] at hfuel
      simp only [List.cons_append, List.append_assoc]
      have hvalue := hj fuel room (',' :: (membersText (m :: members) ++ '\x7d' :: rest))
        (ends_cons (by decide) _) hroom' (by omega)
      exact members?_cons hvalue (ih hmembers (List.cons_ne_nil _ _) hinside (by omega))

/-- A text is not empty, so its reader is called. -/
theorem readsBack_of_called {j : Json} (hj : j.Legible floats)
    (h : ∀ fuel room rest, Ends rest → j.depth ≤ room → 2 * j.print.toList.length ≤ fuel + 1 →
      value? floats beyond (fuel + 1) room (j.print.toList ++ rest) = some (j.toDatum, rest)) :
    ReadsBack floats beyond j := by
  intro fuel room rest hrest hroom hfuel
  obtain ⟨c, s, htext, -⟩ := begins_print hj
  have hpos : 1 ≤ fuel := by
    rw [htext, List.length_cons] at hfuel
    omega
  obtain ⟨fuel, rfl⟩ := Nat.exists_eq_add_of_le' hpos
  exact h fuel room rest hrest hroom hfuel

mutual

theorem readsBack : ∀ j : Json, j.Legible floats → ReadsBack floats beyond j
  | .null, h => readsBack_of_called h fun _ _ _ _ _ _ => rfl
  | .bool b, h => readsBack_of_called h fun _ _ _ _ _ _ => by cases b <;> rfl
  | .int i, h => readsBack_of_called h fun fuel room rest hrest _ _ => by
    obtain ⟨c, s, hc, htext, hread⟩ := number?_toString floats h
    rw [print, htext, value?_number _ hc, hread rest hrest, Json.toDatum]
  | .float x, h => readsBack_of_called h fun fuel room rest hrest _ _ => by
    rw [print, if_pos h.1, value?_toJsonText h.1 h.2 hrest, Json.toDatum]
  | .string s, h => readsBack_of_called h fun _ _ _ _ _ _ => value?_string s
  | .array items, h => readsBack_of_called h fun fuel room rest _ hroom hfuel => by
    obtain ⟨room, rfl⟩ := Nat.exists_eq_add_of_le' (Nat.le_trans (Nat.le_add_left 1 _) hroom)
    have hitems := itemsReadBack items h
    cases items with
    | nil => rfl
    | cons j items =>
      rw [toList_print_array, List.length_cons, List.length_append, List.length_singleton] at hfuel
      exact value?_array (begins_itemsText h.1 items) (items?_itemsText hitems
        (List.cons_ne_nil _ _) (Nat.le_of_succ_le_succ hroom) (by omega))
  | .object members, h => readsBack_of_called h fun fuel room rest _ hroom hfuel => by
    obtain ⟨room, rfl⟩ := Nat.exists_eq_add_of_le' (Nat.le_trans (Nat.le_add_left 1 _) hroom)
    have hmembers := membersReadBack members h
    cases members with
    | nil => rfl
    | cons m members =>
      obtain ⟨s, hquote⟩ := membersText_quote m members
      rw [toList_print_object, List.length_cons, List.length_append, List.length_singleton] at hfuel
      exact value?_object hquote (members?_membersText hmembers
        (List.cons_ne_nil _ _) (Nat.le_of_succ_le_succ hroom) (by omega))
termination_by structural j => j

theorem itemsReadBack : ∀ items : List Json, ItemsLegible floats items →
    ∀ j ∈ items, ReadsBack floats beyond j
  | [], _ => List.forall_mem_nil _
  | j :: rest, h => List.forall_mem_cons.2 ⟨readsBack j h.1, itemsReadBack rest h.2⟩
termination_by structural items => items

theorem membersReadBack : ∀ members : List (String × Json), MembersLegible floats members →
    ∀ m ∈ members, ReadsBack floats beyond m.2
  | [], _ => List.forall_mem_nil _
  | (_, j) :: rest, h => List.forall_mem_cons.2 ⟨readsBack j h.1, membersReadBack rest h.2⟩
termination_by structural members => members

end

mutual

/-- The data of a document makes up the document again. -/
theorem ofDatum?_toDatum : ∀ j : Json, ofDatum? j.toDatum = some j
  | .null => rfl
  | .bool _ => rfl
  | .int _ => rfl
  | .float _ => rfl
  | .string _ => rfl
  | .array items => by rw [toDatum, ofDatum?, itemsOfData?_itemsToData items, Option.map_some]
  | .object members => by
    rw [toDatum, ofDatum?, membersOfData?_membersToData members, Option.map_some]
termination_by structural j => j

theorem itemsOfData?_itemsToData : ∀ items : List Json,
    itemsOfData? (itemsToData items) = some items
  | [] => rfl
  | j :: rest => by
    rw [itemsToData, itemsOfData?, ofDatum?_toDatum j, itemsOfData?_itemsToData rest]
termination_by structural items => items

theorem membersOfData?_membersToData : ∀ members : List (String × Json),
    membersOfData? (membersToData members) = some members
  | [] => rfl
  | (key, j) :: rest => by
    rw [membersToData, membersOfData?, ofDatum?_toDatum j, membersOfData?_membersToData rest]
termination_by structural members => members

end

/-- A document is read from its text by a reader that may open as many containers as it
nests. -/
theorem parseBy?_print {j : Json} (h : j.Legible floats) (hroom : j.depth ≤ room) :
    parseBy? floats room j.print = some j := by
  have hback : ReadsBack floats .refused j := readsBack j h
  have hread := hback (2 * j.print.toList.length + 2) room [] (by simp [Ends]) hroom (by omega)
  rw [List.append_nil] at hread
  unfold parseBy? datumBy?
  dsimp only
  rw [hread]
  exact ofDatum?_toDatum j

end StructuredSql.Json
