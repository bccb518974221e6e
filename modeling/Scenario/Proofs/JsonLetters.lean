import Mathlib.Tactic.SplitIfs
import Scenario.Json.Parser

/-!
# Letters of JSON strings

Between the quotation marks of a JSON string each character of the text is
written by one to six letters. What is written so is read back, alone and in a
table, that is, a list of records of texts without blanks.
-/

set_option autoImplicit false

namespace Scenario.Json

/-- A text between its quotation marks. -/
def letters (s : List Char) : List Char := s.flatMap escapeChar

theorem letters_cons (c : Char) (s : List Char) : letters (c :: s) = escapeChar c ++ letters s :=
  List.flatMap_cons

theorem letters_append (s t : List Char) : letters (s ++ t) = letters s ++ letters t :=
  List.flatMap_append

theorem length_escapeChar (c : Char) : 0 < (escapeChar c).length := by
  unfold escapeChar
  split_ifs <;> simp

theorem length_letters (s : List Char) : s.length ≤ (letters s).length := by
  induction s with
  | nil => exact Nat.le_refl _
  | cons c s ih =>
    have one := length_escapeChar c
    rw [letters_cons, List.length_append, List.length_cons]
    omega

def piece (c : Char) : Piece :=
  if c.toNat < 32 ∧ c.toNat ∉ [8, 9, 10, 12, 13] then .unit c.toNat else .char c

theorem digit_hexDigit {d : Nat} (h : d < 16) :
    Text.digit? 16 (if d < 10 then Char.ofNat (48 + d) else Char.ofNat (87 + d)) = some d := by
  have digits : ∀ d < 16,
      Text.digit? 16 (if d < 10 then Char.ofNat (48 + d) else Char.ofNat (87 + d)) = some d := by
    decide
  exact digits d h

theorem hex4_hexDigits {n : Nat} (h : n < 65536) (rest : List Char) :
    hex4 (Text.hexDigits 4 n ++ rest) = some (n, rest) := by
  have digit : ∀ m, Text.digit? 16 (if m % 16 < 10 then Char.ofNat (48 + m % 16)
      else Char.ofNat (87 + m % 16)) = some (m % 16) := fun m =>
    digit_hexDigit (Nat.mod_lt m (by decide))
  simp only [Text.hexDigits, List.nil_append, List.cons_append, hex4, digit, Option.bind_eq_bind,
    Option.bind_some]
  congr 2
  omega

theorem stringBody_escapeChar (c : Char) (fuel : Nat) (acc : List Piece) (rest : List Char) :
    stringBody (fuel + 1) acc (escapeChar c ++ rest) = stringBody fuel (piece c :: acc) rest := by
  have same : ∀ n, c.toNat = n → Char.ofNat n = c := by
    rintro n rfl
    exact Char.ofNat_toNat c
  unfold escapeChar
  split_ifs with quote slash line carriage tab back feed low
  · subst quote
    rfl
  · subst slash
    rfl
  · subst line
    rfl
  · subst carriage
    rfl
  · subst tab
    rfl
  · have plain : piece c = .char (Char.ofNat 8) := by
      rw [same 8 back]
      simp [piece, back]
    rw [plain]
    rfl
  · have plain : piece c = .char (Char.ofNat 12) := by
      rw [same 12 feed]
      simp [piece, feed]
    rw [plain]
    rfl
  · have unit : piece c = .unit c.toNat := by
      have other : ∀ n, Char.ofNat n ≠ c → c.toNat ≠ n := fun n ne h => ne (same n h)
      refine if_pos ⟨low, ?_⟩
      simp only [List.mem_cons, not_or]
      exact ⟨back, other 9 (Ne.symm tab), other 10 (Ne.symm line), feed,
        other 13 (Ne.symm carriage), by simp⟩
    rw [unit]
    simp only [List.cons_append, stringBody, hex4_hexDigits (show c.toNat < 65536 by omega)]
  · have plain : piece c = .char c := if_neg fun h => low h.1
    rw [plain]
    simp [stringBody, slash, low]

theorem stringBody_letters (s : List Char) {fuel : Nat} (enough : s.length < fuel)
    (acc : List Piece) (rest : List Char) :
    stringBody fuel acc (letters s ++ '"' :: rest) = some (acc.reverse ++ s.map piece, rest) := by
  induction s generalizing fuel acc with
  | nil =>
    obtain ⟨fuel, rfl⟩ : ∃ n, fuel = n + 1 := ⟨fuel - 1, by simp at enough; omega⟩
    simp [letters, stringBody]
  | cons c s ih =>
    obtain ⟨fuel, rfl⟩ : ∃ n, fuel = n + 1 := ⟨fuel - 1, by simp at enough; omega⟩
    rw [letters_cons, List.append_assoc, stringBody_escapeChar, ih (by simpa using enough)]
    simp

theorem joinPieces_piece (c : Char) (ps : List Piece) :
    joinPieces (piece c :: ps) = (joinPieces ps).map (c :: ·) := by
  unfold piece
  split
  · rename_i low
    have bound : ¬ (0xD800 ≤ c.toNat ∧ c.toNat < 0xE000) := by omega
    have upper : ¬ (0xD800 ≤ c.toNat ∧ c.toNat < 0xDC00) := by omega
    have lower : ¬ (0xDC00 ≤ c.toNat ∧ c.toNat < 0xE000) := by omega
    cases ps with
    | nil => simp [joinPieces, bound]
    | cons p ps => cases p <;> simp [joinPieces, bound, upper, lower]
  · rfl

theorem pieceText_map (s : String) : pieceText (s.toList.map piece) = some s := by
  have join : ∀ s : List Char, joinPieces (s.map piece) = some s := by
    intro s
    induction s with
    | nil => rfl
    | cons c s ih => rw [List.map_cons, joinPieces_piece, ih, Option.map_some]
  rw [pieceText, join, Option.map_some, String.ofList_toList]

abbrev Record := List (List Char × List Char)

def writeMembers : Record → List Char → List Char
  | [], rest => rest
  | [(k, v)], rest => '"' :: (k ++ '"' :: ':' :: '"' :: (v ++ '"' :: rest))
  | (k, v) :: ms, rest =>
    '"' :: (k ++ '"' :: ':' :: '"' :: (v ++ '"' :: ',' :: writeMembers ms rest))

def writeRecord (ms : Record) (rest : List Char) : List Char :=
  '{' :: writeMembers ms ('}' :: rest)

def writeRecords : List Record → List Char → List Char
  | [], rest => rest
  | [ms], rest => writeRecord ms rest
  | ms :: t, rest => writeRecord ms (',' :: writeRecords t rest)

def writeTable (t : List Record) : List Char := '[' :: writeRecords t [']']

def spelt (row : Assoc String) : Record :=
  row.map fun e => (letters e.1.toList, letters e.2.toList)

def table (t : List (Assoc String)) : Json := .arr (t.map fun row => .obj (Assoc.mapValues .str row))

section Writing

theorem toList_compact_str (s : String) :
    (compact (.str s)).toList = '"' :: (letters s.toList ++ ['"']) := by
  rw [compact, quote, String.toList_ofList]
  rfl

theorem compactMembers_eq (row : Assoc String) (rest : List Char) :
    (compactMembers (Assoc.mapValues .str row)).toList ++ rest =
      writeMembers (spelt row) rest := by
  induction row with
  | nil => rfl
  | cons e row ih =>
    have key := toList_compact_str e.1
    rw [compact] at key
    cases row with
    | nil =>
      simp [Assoc.mapValues, spelt, compactMembers, writeMembers, key, toList_compact_str]
    | cons e' row =>
      simp only [Assoc.mapValues, spelt, List.map_cons] at ih
      simp [Assoc.mapValues, spelt, compactMembers, writeMembers, key, toList_compact_str, ih]

theorem compact_record (row : Assoc String) (rest : List Char) :
    (compact (.obj (Assoc.mapValues .str row))).toList ++ rest = writeRecord (spelt row) rest := by
  have opening : "\x7b".toList = ['{'] := rfl
  have closing : "\x7d".toList = ['}'] := rfl
  rw [compact, String.toList_append, String.toList_append, opening, closing, List.append_assoc,
    List.append_assoc, compactMembers_eq]
  rfl

theorem compactItems_eq (t : List (Assoc String)) (rest : List Char) :
    (compactItems (t.map fun row => .obj (Assoc.mapValues .str row))).toList ++ rest =
      writeRecords (t.map spelt) rest := by
  induction t with
  | nil => rfl
  | cons row t ih =>
    cases t with
    | nil => exact compact_record row rest
    | cons row' t =>
      have comma : ",".toList = [','] := rfl
      simp only [List.map_cons] at ih ⊢
      rw [compactItems, String.toList_append, String.toList_append, comma, List.append_assoc,
        List.append_assoc, compact_record, List.singleton_append, ih]
      · rfl
      · simp

theorem compact_table (t : List (Assoc String)) :
    (compact (table t)).toList = writeTable (t.map spelt) := by
  simp [table, compact, writeTable, compactItems_eq]

end Writing

section Reading

def recordPieces (row : Assoc String) : List (List Piece × Spelling) :=
  row.map fun e => (e.1.toList.map piece, .text (e.2.toList.map piece))

theorem stringBody_text (s rest : List Char) :
    stringBody ((letters s ++ '"' :: rest).length + 1) [] (letters s ++ '"' :: rest) =
      some (s.map piece, rest) := by
  have enough : s.length < (letters s ++ '"' :: rest).length + 1 := by
    have long := length_letters s
    rw [List.length_append]
    omega
  exact stringBody_letters s enough [] rest

theorem skipBlanks_cons {c : Char} (h : ¬ (c = ' ' ∨ c = '\n' ∨ c = '\t' ∨ c = '\r'))
    (r : List Char) : skipBlanks (c :: r) = c :: r := if_neg h

theorem value_text (s rest : List Char) (fuel : Nat) :
    value (fuel + 1) ('"' :: (letters s ++ '"' :: rest)) = some (.text (s.map piece), rest) := by
  simp (disch := decide) only [value, skipBlanks_cons, stringBody_text, Option.map_some]

theorem members_more (k v rest : List Char) (fuel : Nat) :
    members (fuel + 2) ('"' :: (letters k ++ '"' :: ':' :: '"' ::
        (letters v ++ '"' :: ',' :: rest))) =
      (members (fuel + 1) rest).map fun (vs, r) => ((k.map piece, .text (v.map piece)) :: vs, r) := by
  rw [members]
  simp (disch := decide) only [stringBody_text, value_text, skipBlanks_cons]

theorem members_write {row : Assoc String} (nonempty : row ≠ []) {fuel : Nat}
    (enough : row.length < fuel) (rest : List Char) :
    members fuel (writeMembers (spelt row) ('}' :: rest)) = some (recordPieces row, rest) := by
  induction row generalizing fuel with
  | nil => exact absurd rfl nonempty
  | cons e row ih =>
    obtain ⟨fuel, rfl⟩ : ∃ n, fuel = n + 2 := ⟨fuel - 2, by simp at enough; omega⟩
    cases row with
    | nil =>
      simp (disch := decide) only [spelt, List.map_cons, List.map_nil, writeMembers, members,
        stringBody_text, value_text, skipBlanks_cons, recordPieces]
    | cons e' row =>
      have later : members (fuel + 1) (writeMembers (spelt (e' :: row)) ('}' :: rest)) = _ :=
        ih (by simp) (by simpa using enough)
      simp only [spelt, recordPieces, List.map_cons] at later ⊢
      simp only [writeMembers, members_more, later, Option.map_some]

theorem value_record (row : Assoc String) {fuel : Nat} (enough : row.length + 1 < fuel)
    (rest : List Char) :
    value fuel (writeRecord (spelt row) rest) = some (.object (recordPieces row), rest) := by
  obtain ⟨fuel, rfl⟩ : ∃ n, fuel = n + 1 := ⟨fuel - 1, by omega⟩
  cases row with
  | nil => rfl
  | cons e row =>
    have inner : members fuel (writeMembers (spelt (e :: row)) ('}' :: rest)) = _ :=
      members_write (by simp) (by simpa using enough) rest
    obtain ⟨r, opening⟩ : ∃ r, writeMembers (spelt (e :: row)) ('}' :: rest) = '"' :: r := by
      cases row <;> exact ⟨_, rfl⟩
    rw [opening] at inner
    simp (disch := decide) only [value, writeRecord, opening, skipBlanks_cons]
    show (members fuel ('"' :: r)).map (fun p => (Spelling.object p.1, p.2)) = _
    rw [inner, Option.map_some]

theorem items_write {t : List (Assoc String)} (nonempty : t ≠ []) {fuel : Nat}
    (enough : ∀ row ∈ t, t.length + row.length + 1 < fuel) (rest : List Char) :
    items fuel (writeRecords (t.map spelt) (']' :: rest)) =
      some (t.map fun row => .object (recordPieces row), rest) := by
  induction t generalizing fuel with
  | nil => exact absurd rfl nonempty
  | cons row t ih =>
    have first := enough row (by simp)
    obtain ⟨fuel, rfl⟩ : ∃ n, fuel = n + 1 := ⟨fuel - 1, by omega⟩
    have read : ∀ rest, value fuel (writeRecord (spelt row) rest) = _ :=
      value_record row (by simp at first; omega)
    cases t with
    | nil =>
      simp (disch := decide) only [List.map_cons, List.map_nil, writeRecords, items, read,
        skipBlanks_cons]
    | cons row' t =>
      have bounds : ∀ other ∈ row' :: t, (row' :: t).length + other.length + 1 < fuel := by
        intro other mem
        have bound := enough other (List.mem_cons_of_mem _ mem)
        simp only [List.length_cons] at bound ⊢
        omega
      have later := ih (by simp) bounds
      simp only [List.map_cons] at later ⊢
      simp (disch := decide) only [writeRecords, items, read, skipBlanks_cons, later,
        Option.map_some]

theorem value_table {t : List (Assoc String)} {fuel : Nat}
    (enough : ∀ row ∈ t, t.length + row.length + 1 < fuel) :
    value (fuel + 1) (writeTable (t.map spelt)) =
      some (.list (t.map fun row => .object (recordPieces row)), []) := by
  cases t with
  | nil => rfl
  | cons row t =>
    have inner : items fuel (writeRecords ((row :: t).map spelt) [']']) = _ :=
      items_write (by simp) enough []
    obtain ⟨r, opening⟩ : ∃ r, writeRecords ((row :: t).map spelt) [']'] = '{' :: r := by
      cases t <;> exact ⟨_, rfl⟩
    rw [opening] at inner
    simp (disch := decide) only [value, writeTable, opening, skipBlanks_cons]
    show (items fuel ('{' :: r)).map (fun p => (Spelling.list p.1, p.2)) = _
    rw [inner, Option.map_some]

theorem membersToJson?_recordPieces (depth : Nat) (row : Assoc String) :
    Spelling.membersToJson? depth (recordPieces row) = some (Assoc.mapValues .str row) := by
  induction row with
  | nil => rfl
  | cons e row ih =>
    simp only [recordPieces, Assoc.mapValues, List.map_cons] at ih ⊢
    simp only [Spelling.membersToJson?, Spelling.toJson?, pieceText_map, Option.map_some, ih]

theorem itemsToJson?_recordPieces (depth : Nat) (t : List (Assoc String)) :
    Spelling.itemsToJson? (depth + 1) (t.map fun row => .object (recordPieces row)) =
      some (t.map fun row => .obj (Assoc.mapValues .str row)) := by
  induction t with
  | nil => rfl
  | cons row t ih =>
    simp only [List.map_cons, Spelling.itemsToJson?, Spelling.toJson?,
      membersToJson?_recordPieces, Option.map_some, ih]

theorem length_writeMembers (row : Assoc String) (rest : List Char) :
    row.length + rest.length ≤ (writeMembers (spelt row) rest).length := by
  induction row with
  | nil => simp [spelt, writeMembers]
  | cons e row ih =>
    cases row with
    | nil =>
      simp [spelt, writeMembers]
      omega
    | cons e' row =>
      simp only [spelt, List.map_cons] at ih ⊢
      simp only [writeMembers, List.length_cons, List.length_append] at ih ⊢
      omega

theorem length_writeRecord (row : Assoc String) (rest : List Char) :
    row.length + rest.length + 2 ≤ (writeRecord (spelt row) rest).length := by
  have inner := length_writeMembers row ('}' :: rest)
  rw [List.length_cons] at inner
  rw [writeRecord, List.length_cons]
  omega

theorem length_writeRecords {t : List (Assoc String)} (rest : List Char) :
    ∀ row ∈ t, t.length + row.length ≤ (writeRecords (t.map spelt) rest).length := by
  induction t with
  | nil => simp
  | cons first t ih =>
    cases t with
    | nil =>
      intro row mem
      rw [List.mem_singleton.1 mem]
      have record := length_writeRecord first rest
      simp only [List.map_cons, List.map_nil, writeRecords, List.length_singleton]
      omega
    | cons second t =>
      simp only [List.map_cons] at ih ⊢
      have record := length_writeRecord first
        (',' :: writeRecords (spelt second :: t.map spelt) rest)
      simp only [List.length_cons] at ih record ⊢
      rw [writeRecords]
      · intro row mem
        have next := ih second (by simp)
        rcases List.mem_cons.1 mem with rfl | mem
        · omega
        · have later := ih row mem
          omega
      · simp

/-- A table is read back. -/
theorem parseChars_writeTable (t : List (Assoc String)) :
    parseChars (writeTable (t.map spelt)) = some (table t) := by
  have read : value (2 * (writeTable (t.map spelt)).length + 2) (writeTable (t.map spelt)) =
      some (.list (t.map fun row => .object (recordPieces row)), []) := by
    refine value_table fun row mem => ?_
    have long := length_writeRecords [']'] row mem
    rw [writeTable, List.length_cons]
    omega
  rw [parseChars, spell, read]
  show Spelling.toJson? 127 (.list (t.map fun row => .object (recordPieces row))) = _
  rw [Spelling.toJson?, itemsToJson?_recordPieces]
  rfl

end Reading

end Scenario.Json
