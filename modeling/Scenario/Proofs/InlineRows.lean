import Scenario.Loading
import Scenario.Proofs.JsonReferences

/-!
# Rows written in scripts

Rows that a script gives itself are printed as JSON text, and the text is bound
as a whole before it is read again. Where each of their values can be spelled in
every round, this binds value by value.
-/

set_option autoImplicit false

namespace Scenario
open Template Json
open Expansion (settle_succ)

namespace Json

def mapTable (f : String → String) (t : List (Assoc String)) : List (Assoc String) :=
  t.map (Assoc.mapValues f)

theorem mapTable_id (t : List (Assoc String)) : mapTable id t = t := by
  have same : ∀ row : Assoc String, Assoc.mapValues id row = row := fun row => List.map_id row
  rw [mapTable, funext same, List.map_id']

theorem mapTable_mapTable (f g : String → String) (t : List (Assoc String)) :
    mapTable g (mapTable f t) = mapTable (g ∘ f) t := by
  simp [mapTable, Assoc.mapValues]

end Json

namespace Row

def round (r : Row) (s : String) : String := String.ofList (r.substitute s.toList)

/-- All rounds treat a text between quotation marks as they treat the text alone. -/
def Kept (r : Row) (s : String) : Prop := ∀ n < rounds, r.Spellable (r.round^[n] s).toList

variable {r : Row}

theorem settle_eq_iterate (n : Nat) (s : String) : r.settle n s.toList = (r.round^[n] s).toList := by
  induction n generalizing s with
  | zero => rfl
  | succ n ih =>
    have once : r.substitute s.toList = (r.round s).toList := (String.toList_ofList ..).symm
    rw [settle_succ, once, ih, Function.iterate_succ_apply]

theorem bind_eq_iterate (s : String) : r.bind s = r.round^[rounds] s := by
  rw [bind, bindChars, settle_eq_iterate, String.ofList_toList]

/-- A text that some rounds settle is kept by all rounds if it is kept by those. -/
theorem Kept.of_settled {s : String} (m : Nat)
    (settled : r.round (r.round^[m] s) = r.round^[m] s)
    (spells : ∀ n ≤ m, r.Spellable (r.round^[n] s).toList) : r.Kept s := by
  intro n _
  by_cases early : n ≤ m
  · exact spells n early
  · obtain ⟨k, rfl⟩ : ∃ k, n = k + m := ⟨n - m, by omega⟩
    rw [Function.iterate_add_apply, Function.iterate_fixed settled]
    exact spells m (Nat.le_refl m)

theorem mem_trimChars {s : List Char} {c : Char} (mem : c ∈ s) (h : Text.isBlank c = false) :
    c ∈ Text.trimChars s := by
  have drop : ∀ s : List Char, c ∈ s → c ∈ Text.dropBlanks s := by
    intro s mem
    induction s with
    | nil => exact mem
    | cons d s ih =>
      rw [Text.dropBlanks]
      split
      · rename_i blank
        rcases List.mem_cons.1 mem with rfl | later
        · rw [h] at blank
          cases blank
        · exact ih later
      · exact mem
  exact List.mem_reverse.2 (drop _ (List.mem_reverse.2 (drop s mem)))

/-- No variable and no property has a quotation mark in its name. -/
def Unquoted (r : Row) : Prop :=
  (∀ e ∈ r.vars, '"' ∉ e.1.toList) ∧ ∀ e ∈ r.env, '"' ∉ e.1.toList

instance (r : Row) : Decidable r.Unquoted := inferInstanceAs (Decidable (_ ∧ _))

theorem get?_quoted {m : Assoc String} (unquoted : ∀ e ∈ m, '"' ∉ e.1.toList) {key : List Char}
    (mem : '"' ∈ key) : Assoc.get? m (String.ofList key) = none := by
  cases found : Assoc.get? m (String.ofList key) with
  | none => rfl
  | some v =>
    have free := unquoted _ (Assoc.mem_of_get? found)
    rw [String.toList_ofList] at free
    exact absurd mem free

theorem value?_quoted (unquoted : r.Unquoted) {name : List Char} (mem : '"' ∈ name) :
    r.value? name = none := by
  have key := mem_trimChars mem (by decide)
  simp only [value?, get?, get?_quoted unquoted.1 key]
  split
  · rename_i marked
    obtain ⟨property, whole⟩ := List.isPrefixOf_iff_prefix.1 marked
    rw [← whole, List.mem_append] at key
    have named : '"' ∈ property := key.resolve_left (by decide)
    have rest : (environmentMark ++ property).drop 4 = property := rfl
    rw [← whole, rest, get?_quoted unquoted.2 named, Option.map_none]
  · rfl

theorem substitute_keep {kept : List Char} (noName : '$' ∉ kept) (noKey : '!' ∉ kept)
    (rest : List Char) : r.substitute (kept ++ rest) = kept ++ r.substitute rest := by
  have first := Form.substitute_keep r.value? (f := expressions) noName rest
  rw [substitute, first]
  exact Form.substitute_keep keyValue? (f := keys) noKey _

theorem substitute_cons {c : Char} (h : c ≠ '$' ∧ c ≠ '!') (rest : List Char) :
    r.substitute (c :: rest) = c :: r.substitute rest :=
  substitute_keep (List.mem_singleton.not.2 h.1.symm) (List.mem_singleton.not.2 h.2.symm) rest

def Unmarked (key : String) : Prop := '$' ∉ key.toList ∧ '!' ∉ key.toList

instance (key : String) : Decidable (Unmarked key) := inferInstanceAs (Decidable (_ ∧ _))

theorem substitute_member {key v : String} (unmarked : Unmarked key) (spells : r.Spellable v.toList)
    (rest : List Char) :
    r.substitute ('"' :: (letters key.toList ++ '"' :: ':' :: '"' ::
        (letters v.toList ++ '"' :: rest))) =
      '"' :: (letters key.toList ++ '"' :: ':' :: '"' ::
        (letters (r.round v).toList ++ '"' :: r.substitute rest)) := by
  have noName := not_mem_letters rfl unmarked.1
  have noKey := not_mem_letters rfl unmarked.2
  rw [round, String.toList_ofList]
  simp (disch := decide) only [substitute_cons, substitute_keep noName noKey,
    spells.substitute_letters]

/-- What a round needs of a record. -/
def Bindable (r : Row) (row : Assoc String) : Prop :=
  ∀ e ∈ row, Unmarked e.1 ∧ r.Spellable e.2.toList

theorem substitute_writeMembers {row : Assoc String} (h : r.Bindable row) (rest : List Char) :
    r.substitute (writeMembers (spelt row) rest) =
      writeMembers (spelt (Assoc.mapValues r.round row)) (r.substitute rest) := by
  induction row with
  | nil => rfl
  | cons e row ih =>
    obtain ⟨unmarked, spells⟩ := h e List.mem_cons_self
    have later := ih fun other mem => h other (List.mem_cons_of_mem e mem)
    cases row with
    | nil => exact substitute_member unmarked spells rest
    | cons e' row =>
      have member := substitute_member unmarked spells
        (',' :: writeMembers (spelt (e' :: row)) rest)
      rw [substitute_cons (c := ',') (by decide), later] at member
      exact member

theorem substitute_writeRecord {row : Assoc String} (h : r.Bindable row) (rest : List Char) :
    r.substitute (writeRecord (spelt row) rest) =
      writeRecord (spelt (Assoc.mapValues r.round row)) (r.substitute rest) := by
  simp (disch := decide) only [writeRecord, substitute_cons, substitute_writeMembers h]

theorem substitute_writeRecords {t : List (Assoc String)} (h : ∀ row ∈ t, r.Bindable row)
    (rest : List Char) :
    r.substitute (writeRecords (t.map spelt) rest) =
      writeRecords ((mapTable r.round t).map spelt) (r.substitute rest) := by
  induction t with
  | nil => rfl
  | cons row t ih =>
    have first := h row List.mem_cons_self
    have later := ih fun other mem => h other (List.mem_cons_of_mem row mem)
    cases t with
    | nil => exact substitute_writeRecord first rest
    | cons row' t =>
      have record := substitute_writeRecord first
        (',' :: writeRecords ((row' :: t).map spelt) rest)
      rw [substitute_cons (c := ',') (by decide), later] at record
      exact record

/-- A round on the text of a table is a round on each of its values. -/
theorem substitute_writeTable {t : List (Assoc String)} (h : ∀ row ∈ t, r.Bindable row) :
    r.substitute (writeTable (t.map spelt)) =
      writeTable ((mapTable r.round t).map spelt) := by
  have closing : r.substitute [']'] = [']'] := substitute_cons (by decide) []
  rw [writeTable, substitute_cons (by decide), substitute_writeRecords h, closing]
  rfl

theorem settle_writeTable (n : Nat) {t : List (Assoc String)}
    (unmarked : ∀ row ∈ t, ∀ e ∈ row, Unmarked e.1)
    (spells : ∀ row ∈ t, ∀ e ∈ row, ∀ m < n, r.Spellable (r.round^[m] e.2).toList) :
    r.settle n (writeTable (t.map spelt)) = writeTable ((mapTable r.round^[n] t).map spelt) := by
  induction n generalizing t with
  | zero => rw [settle, Function.iterate_zero, mapTable_id]
  | succ n ih =>
    have first : ∀ row ∈ t, r.Bindable row := fun row hrow e he =>
      ⟨unmarked row hrow e he, spells row hrow e he 0 (Nat.succ_pos n)⟩
    have later : ∀ row ∈ mapTable r.round t, ∀ e ∈ row,
        Unmarked e.1 ∧ ∀ m < n, r.Spellable (r.round^[m] e.2).toList := by
      intro _ mem _ inside
      obtain ⟨row, hrow, rfl⟩ := List.mem_map.1 mem
      obtain ⟨e, he, rfl⟩ := List.mem_map.1 inside
      refine ⟨unmarked row hrow e he, fun m less => ?_⟩
      have next := spells row hrow e he (m + 1) (Nat.succ_lt_succ less)
      rwa [Function.iterate_succ_apply] at next
    rw [settle_succ, substitute_writeTable first, Function.iterate_succ, ← mapTable_mapTable]
    exact ih (fun row hrow e he => (later row hrow e he).1)
      fun row hrow e he => (later row hrow e he).2

/-- A table is bound value by value. -/
theorem bind_table {t : List (Assoc String)} (unmarked : ∀ row ∈ t, ∀ e ∈ row, Unmarked e.1)
    (kept : ∀ row ∈ t, ∀ e ∈ row, r.Kept e.2) :
    r.bind (compact (table t)) = compact (table (mapTable r.bind t)) := by
  have all : r.round^[rounds] = r.bind := funext fun s => (bind_eq_iterate s).symm
  have whole := settle_writeTable rounds unmarked kept
  rw [all] at whole
  rw [bind, bindChars, compact_table, whole, ← compact_table, String.ofList_toList]

end Row

theorem Json.normal_table (t : List (Assoc String)) :
    (table t).normal = table (t.map Assoc.sorted) := by
  have members : ∀ row : Assoc String,
      normalMembers (Assoc.mapValues .str row) = Assoc.mapValues .str row := by
    intro row
    induction row with
    | nil => rfl
    | cons e row ih =>
      simp only [Assoc.mapValues, List.map_cons] at ih ⊢
      rw [normalMembers, ih]
      rfl
  have items : normalItems (t.map fun row => .obj (Assoc.mapValues .str row)) =
      t.map fun row => .obj (Assoc.mapValues .str (Assoc.sorted row)) := by
    induction t with
    | nil => rfl
    | cons row t ih =>
      rw [List.map_cons, List.map_cons, normalItems, normal, members, Assoc.sorted_mapValues, ih]
  rw [table, normal, items, table, List.map_map]
  rfl

theorem DataSource.jsonTable_table (t : List (Assoc String)) :
    jsonTable (table t) = .ok (t.map fun row => ofVars (Assoc.sorted row)) := by
  have scalars : ∀ row : Assoc String,
      Assoc.mapValues Json.scalar (Assoc.mapValues .str row) = row := fun row => by
    rw [Assoc.mapValues, Assoc.mapValues, List.map_map]
    exact List.map_id row
  have each : ∀ row : Assoc String,
      jsonRow (.obj (Assoc.mapValues .str row)) = .ok (ofVars (Assoc.sorted row)) := fun row => by
    rw [jsonRow, Assoc.sorted_mapValues, scalars]
  rw [table, jsonTable]
  induction t with
  | nil => rfl
  | cons row t ih =>
    rw [List.map_cons, jsonRows, each, ih]
    rfl

def DataSource.boundRow (r : Row) (row : Assoc String) : Row :=
  ofVars (Assoc.sorted (Assoc.mapValues r.bind (Assoc.sorted row)))

theorem DataSource.get?_boundRow (r : Row) (row : Assoc String) (key : String) :
    (boundRow r row).get? key = (Assoc.get? row.reverse key).map r.bind := by
  have once : (Assoc.keys (Assoc.mapValues r.bind (Assoc.sorted row))).Nodup := by
    have keys : Assoc.keys (Assoc.mapValues r.bind (Assoc.sorted row)) =
        Assoc.keys (Assoc.sorted row) := by
      simp [Assoc.keys, Assoc.mapValues]
    rw [keys]
    exact Assoc.nodup_sorted row
  rw [Row.get?, boundRow, ofVars, Assoc.get?_putAll _ _ (Assoc.nodup_sorted _),
    Assoc.get?_sorted, Assoc.get?_reverse once, Assoc.get?_mapValues, Assoc.get?_sorted]
  exact Option.or_none

theorem Loader.load_eq {sources : String → Option DataSource} {dataDir : String} {l : Loader}
    {seed : Row} {source : DataSource} {rows : List Row} (known : sources l.source = some source)
    (loadable : source.isLoadable (Assoc.mapValues seed.bind l.config) = true)
    (delivered :
      source.rows (Assoc.mapValues seed.bind l.config) [l.dir, dataDir] seed = .ok rows) :
    l.load sources dataDir seed = .ok (numbered source.multiLine 1 rows) := by
  rw [load, known]
  dsimp only
  rw [if_pos loadable, delivered]

/-- The loader of rows that a script gives itself, as a document holds them. -/
def inline (dir : String) (config : Assoc Json) (rows : List (Assoc String)) : Loader :=
  Loading.loader dir { source := "manual", config, data := some (table rows).normal }

section Loading
variable {rows : List (Assoc String)} {r : Row}
  (unmarked : ∀ row ∈ rows, ∀ e ∈ row, Row.Unmarked e.1)
  (kept : ∀ row ∈ rows, ∀ e ∈ row, r.Kept e.2)
include unmarked kept

theorem DataSource.rows_manual {config : Assoc String}
    (data : Assoc.get? config "data" = some (r.bind (compact (table rows).normal)))
    (dirs : List String) (seed : Row) :
    manual.rows config dirs seed = .ok (rows.map (boundRow r)) := by
  have bound : r.bind (compact (table rows).normal) =
      compact (table (mapTable r.bind (rows.map Assoc.sorted))) := by
    rw [Json.normal_table]
    apply Row.bind_table
    · intro _ mem e he
      obtain ⟨row, hrow, rfl⟩ := List.mem_map.1 mem
      exact unmarked row hrow e (Assoc.mem_sorted he)
    · intro _ mem e he
      obtain ⟨row, hrow, rfl⟩ := List.mem_map.1 mem
      exact kept row hrow e (Assoc.mem_sorted he)
  have read : Json.parse (r.bind (compact (table rows).normal)) =
      some (table (mapTable r.bind (rows.map Assoc.sorted))) := by
    rw [Json.parse, bound, compact_table, parseChars_writeTable]
  have required : required config "data" = .ok (r.bind (compact (table rows).normal)) := by
    rw [DataSource.required, data]
  simp only [manual, required, bind, Except.bind, read, jsonTable_table]
  simp [mapTable, boundRow]

theorem Loader.load_inline (fs : Files) (dataDir dir : String) (config : Assoc Json) :
    (inline dir config rows).load (DataSource.ofName? fs) dataDir r =
      .ok (numbered true 1 (rows.map (DataSource.boundRow r))) := by
  have data : Assoc.get? (Assoc.mapValues r.bind (inline dir config rows).config) "data" =
      some (r.bind (compact (table rows).normal)) := by
    rw [Assoc.get?_mapValues, inline, Loading.loader, Assoc.get?_putSorted, if_pos rfl,
      Option.map_some]
  refine load_eq rfl ?_ (DataSource.rows_manual unmarked kept data [dir, dataDir] r)
  show Assoc.has _ "data" = true
  rw [Assoc.has, data]
  rfl

/-- Rows that a script gives itself are loaded in their order, and what is found in the loaded
row is what was written, bound by itself; of equal keys the last one counts, and the number
of the row takes the place of what is written under its key. The spelling of the rows in between
is that of `serde_json`, which `Scenario.Json.Basic` and `Scenario.Json.Parser` stand for. -/
theorem Loader.rows_bound (fs : Files) (dataDir dir : String) (config : Assoc Json) :
    ∃ loaded,
      (inline dir config rows).load (DataSource.ofName? fs) dataDir r = .ok loaded ∧
        loaded.length = rows.length ∧
        ∀ (i : Nat) row out, rows[i]? = some row → loaded[i]? = some out → ∀ key,
          out.get? key =
            if key = Row.rowNumberKey then some (Text.natText (i + 1))
            else (Assoc.get? row.reverse key).map r.bind := by
  refine ⟨_, load_inline unmarked kept fs dataDir dir config, ?_, ?_⟩
  · rw [length_numbered, List.length_map]
  intro i row out written there key
  rw [getElem?_numbered, List.getElem?_map, written] at there
  obtain rfl := Option.some.inj there
  rw [Nat.add_comm 1 i]
  show ((DataSource.boundRow r row).put Row.rowNumberKey _).get? key = _
  split
  · rename_i number
    rw [number, Row.get?_put_same]
  · rename_i other
    rw [Row.get?_put_other _ _ other, DataSource.get?_boundRow]

end Loading

namespace Loader

section Example

def loadInline (rows : List (Assoc String)) (r : Row) : Except Fault (List Row) :=
  (inline "" [] rows).load (DataSource.ofName? default) "" r

def visitor : Row where
  vars := [("user", "${first} ${last}"), ("first", "Ada"), ("last", "Lovelace")]
  env := [("home", "/home/ada")]

def visits : List (Assoc String) :=
  [[("greeting", "say \"hi\" to\n${user}"), ("path", "C:\\${env.home}"), ("open", "$\x7b")],
    [("key", "!{KEY_TAB}${nobody}"), ("_rowNumber", "7")]]

/-- What a script writes itself may need escapes; what the variables say here does not. -/
theorem visits_bound :
    (∀ row ∈ visits, ∀ e ∈ row, Row.Unmarked e.1) ∧
      (∀ row ∈ visits, ∀ e ∈ row, visitor.Kept e.2) ∧
      ∃ first second,
        loadInline visits visitor = .ok [first, second] ∧
          first.get? "greeting" = some "say \"hi\" to\nAda Lovelace" ∧
          first.get? "path" = some "C:\\/home/ada" ∧
          first.get? "open" = some "$\x7b" ∧
          second.get? "key" = some "\ue004${nobody}" ∧
          second.get? "_rowNumber" = some "2" := by
  have unmarked : ∀ row ∈ visits, ∀ e ∈ row, Row.Unmarked e.1 := by decide +kernel
  have settled : ∀ row ∈ visits, ∀ e ∈ row,
      visitor.round (visitor.round^[2] e.2) = visitor.round^[2] e.2 := by decide +kernel
  have inside : ∀ row ∈ visits, ∀ e ∈ row, ∀ n ≤ 2,
      ∀ name ∈ expressions.names (visitor.round^[n] e.2).toList,
        visitor.value? (letters name) = (visitor.value? name).map letters := by decide +kernel
  have unquoted : visitor.Unquoted := by decide +kernel
  have kept : ∀ row ∈ visits, ∀ e ∈ row, visitor.Kept e.2 := fun row hrow e he =>
    .of_settled 2 (settled row hrow e he) fun n early =>
      ⟨inside row hrow e he n early, fun _ _ _ _ => Row.value?_quoted unquoted (by simp)⟩
  obtain ⟨loaded, found, length, bound⟩ := rows_bound unmarked kept default "" "" []
  obtain ⟨first, second, rfl⟩ := List.length_eq_two.1 length
  have one := bound 0 _ _ rfl rfl
  have two := bound 1 _ _ rfl rfl
  refine ⟨unmarked, kept, first, second, found, ?_⟩
  rw [one, one, one, two, two]
  decide +kernel

def escaping : Row where
  vars := [("quote", "a\"b"), ("path", "C:\\new"), ("user", "Ada")]

/-- Without the conditions rows are not bound value by value: a value that needs escapes spoils
the text or is read as another, a name is not found by its letters, the quotation mark ends a
name that was left open, and the number of the row replaces what is written for it. -/
theorem rows_unbound :
    (loadInline [[("q", "${quote}")]] escaping).toOption = none ∧
      loadInline [[("q", "${path}")]] escaping =
        .ok [{ vars := [("q", "C:\new"), ("_rowNumber", "1")], last := true }] ∧
      escaping.bind "${path}" = "C:\\new" ∧
      loadInline [[("q", "$\x7b\nuser\x7d")]] escaping =
        .ok [{ vars := [("q", "$\x7b\nuser\x7d"), ("_rowNumber", "1")], last := true }] ∧
      escaping.bind "$\x7b\nuser\x7d" = "Ada" ∧
      (loadInline [[("q", "$\x7b")]] { vars := [("\"", "Ada")] }).toOption = none ∧
      loadInline [[("_rowNumber", "7")]] {} =
        .ok [{ vars := [("_rowNumber", "1")], last := true }] := by
  decide +kernel

end Example

end Loader

end Scenario
