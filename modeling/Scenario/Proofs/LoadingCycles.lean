import Mathlib.Data.List.Nodup
import Mathlib.Logic.Relation
import Scenario.Proofs.FilePlaces
import Scenario.Proofs.LoadingFetches

/-!
# Cycles

Loading a file fetches other files. It ends exactly when no file is fetched
while it is itself being loaded, however the paths to it are written, and then
it needs no more levels than there are files.
-/

set_option autoImplicit false

namespace Scenario.Fetching
open Scenario.Document Scenario.Loading Relation

variable (fs : Files)

def documentAt (place : List String) : Option ScriptDocument :=
  match fs.nodeAt place with
  | some (.file bytes) =>
    (Text.decodeUtf8? bytes).bind fun cs =>
      if isYaml (place.getLastD "") then ofYamlText Document.script cs
      else ofJsonText Document.script cs
  | _ => none

theorem documentAt_mem {place : List String} {d : ScriptDocument}
    (h : documentAt fs place = some d) : place ∈ fs.contents.map Prod.fst := by
  rw [documentAt] at h
  split at h
  next bytes found => exact fs.nodeAt_mem found
  · cases h

theorem readDocument_place {path : String} {place : List String}
    (h : fs.place [] path = some place) :
    (readDocument fs Document.script path).toOption = documentAt fs place ∧
      Prompt (readDocument fs Document.script path) := by
  obtain ⟨init, name, e, bytes, names, -, rfl, found⟩ := fs.place_eq_some.1 h
  have format : isYaml path = isYaml name := by rw [isYaml, isYaml, names.extension]
  have read : fs.find path = .ok (.file bytes) := fs.find_file_iff.2 ⟨_, h, found⟩
  have bytes_eq : fs.readBytes path = .ok bytes := by rw [Files.readBytes, read]
  have document : documentAt fs (e ++ [name]) = (Text.decodeUtf8? bytes).bind fun cs =>
      if isYaml name then ofYamlText Document.script cs else ofJsonText Document.script cs := by
    rw [documentAt, found, List.getLastD_concat]
  rw [document, readDocument, format]
  cases decoded : Text.decodeUtf8? bytes with
  | none =>
    have text : fs.readText path = .error .invalidData := by
      simp only [Files.readText, bytes_eq, decoded]
    rw [text]
    exact ⟨rfl, by simp [Prompt, fate]⟩
  | some cs =>
    have text : fs.readText path = .ok cs := by simp only [Files.readText, bytes_eq, decoded]
    simp only [text, Option.bind_some]
    split
    · cases ofYamlText Document.script cs with
      | none => exact ⟨rfl, by simp [Prompt, fate]⟩
      | some d => exact ⟨rfl, prompt_ok d⟩
    · cases ofJsonText Document.script cs with
      | none => exact ⟨rfl, by simp [Prompt, fate]⟩
      | some d => exact ⟨rfl, prompt_ok d⟩

theorem readDocument_nowhere {path : String} (h : fs.place [] path = none) :
    fate (readDocument fs Document.script path) = .refused := by
  rw [readDocument, Files.readText, Files.readBytes]
  cases read : fs.find path with
  | error o => simp [fate]
  | ok n =>
    cases n with
    | file bytes =>
      obtain ⟨place, known, -⟩ := fs.find_file_iff.1 read
      rw [h] at known
      cases known
    | directory d => simp [fate]
    | outside => simp [fate]

def fateAt : Nat → Option (List String) → Fate
  | 0, _ => .endless
  | _ + 1, none => .refused
  | n + 1, some place =>
    match documentAt fs place with
    | none => .refused
    | some d => outcome (fun ref => fateAt n (fs.place place.dropLast ref)) (demands d)

/-- A path loads as the file to which it leads. -/
theorem fate_caseAt (depth : Nat) (path : String) :
    fate (caseAt fs depth path) = fateAt fs depth (fs.place [] path) := by
  induction depth generalizing path with
  | zero => rfl
  | succ n ih =>
    rw [caseAt]
    cases h : fs.place [] path with
    | none =>
      have refused := readDocument_nowhere fs h
      cases found : readDocument fs Document.script path with
      | error t => rwa [found] at refused
      | ok d =>
        rw [found] at refused
        cases refused
    | some place =>
      obtain ⟨read, prompt⟩ := readDocument_place fs h
      rw [fateAt, ← read]
      cases found : readDocument fs Document.script path with
      | error t =>
        rw [found] at prompt
        exact prompt.fate_eq
      | ok d =>
        have step : fate (during ("Failed to load script: " ++ path)
            (build (caseAt fs n) d (Script.ofPath path))) =
            outcome (fun ref => fateAt fs n (fs.place place.dropLast ref)) (demands d) := by
          rw [fate_during, fate_build]
          congr 1
          funext ref
          rw [ends, ih, Script.ofPath, Files.place_join fs h]
        exact step

theorem fateAt_stable {n m : Nat} (deeper : n ≤ m) (o : Option (List String))
    (h : fateAt fs n o ≠ .endless) : fateAt fs m o = fateAt fs n o := by
  induction n generalizing m o with
  | zero => exact absurd rfl h
  | succ n ih =>
    obtain ⟨m, rfl⟩ : ∃ k, m = k + 1 := ⟨m - 1, by omega⟩
    cases o with
    | none => rfl
    | some place =>
      rw [fateAt] at h
      rw [fateAt, fateAt]
      cases found : documentAt fs place with
      | none => rfl
      | some d =>
        rw [found] at h
        exact outcome_stable (fun ref => ih (by omega) _) h

/-- Loading the file at one place comes to fetch the file at another. -/
def Leads (a b : List String) : Prop :=
  ∃ d before ref after, documentAt fs a = some d ∧ demands d = before ++ .fetch ref :: after ∧
    fs.place a.dropLast ref = some b ∧
      ∃ depth, outcome (fun ref => fateAt fs depth (fs.place a.dropLast ref)) before = .loaded

theorem leads_of_endless {n : Nat} {o : Option (List String)} (h : fateAt fs (n + 1) o = .endless) :
    ∃ a, o = some a ∧ a ∈ fs.contents.map Prod.fst ∧
      ∃ o', fateAt fs n o' = .endless ∧ ∀ b, o' = some b → Leads fs a b := by
  cases o with
  | none => cases h
  | some a =>
    rw [fateAt] at h
    cases found : documentAt fs a with
    | none =>
      rw [found] at h
      cases h
    | some d =>
      rw [found] at h
      obtain ⟨before, ref, after, split, passed, endless⟩ := outcome_endless h
      exact ⟨a, rfl, documentAt_mem fs found, _, endless,
        fun b led => ⟨d, before, ref, after, found, split, led, n, passed⟩⟩

/-- A way on without end. -/
def Looping (a : List String) : Prop := ∃ c, ReflTransGen (Leads fs) a c ∧ TransGen (Leads fs) c c

theorem Looping.next {a : List String} (h : Looping fs a) : ∃ b, Leads fs a b ∧ Looping fs b := by
  obtain ⟨c, reach, around⟩ := h
  rcases reach.cases_head with rfl | ⟨b, first, rest⟩
  · obtain ⟨b, first, rest⟩ := TransGen.head'_iff.1 around
    exact ⟨b, first, a, rest, around⟩
  · exact ⟨b, first, c, rest, around⟩

theorem Looping.endless {a : List String} (h : Looping fs a) (n : Nat) :
    fateAt fs n (some a) = .endless := by
  induction n generalizing a with
  | zero => rfl
  | succ n ih =>
    obtain ⟨b, ⟨d, before, ref, after, found, split, led, depth, passed⟩, on⟩ := h.next
    rw [fateAt, found]
    change outcome _ (demands d) = _
    rw [split, outcome_append]
    by_cases early : outcome (fun ref => fateAt fs n (fs.place a.dropLast ref)) before = .endless
    · rw [early]
      rfl
    · -- What comes before ends alike within both numbers of levels, and so is loaded.
      have deep : outcome (fun ref => fateAt fs (max n depth) (fs.place a.dropLast ref)) before =
          outcome (fun ref => fateAt fs n (fs.place a.dropLast ref)) before :=
        outcome_stable (fun ref => fateAt_stable fs (Nat.le_max_left _ _) _) early
      have deep' : outcome (fun ref => fateAt fs (max n depth) (fs.place a.dropLast ref)) before =
          outcome (fun ref => fateAt fs depth (fs.place a.dropLast ref)) before :=
        outcome_stable (fun ref => fateAt_stable fs (Nat.le_max_right _ _) _) (by simp [passed])
      rw [← deep, deep', passed, Fate.loaded_andThen, outcome, Demand.fate, led, ih on]
      rfl

/-- Without a loop, each level needs a file of its own. -/
theorem levels_le {n : Nat} {o : Option (List String)} {visited : List (List String)}
    (h : fateAt fs n o = .endless) (straight : ∀ a, o = some a → ¬ Looping fs a)
    (way : ∀ a, o = some a → ∀ v ∈ visited, TransGen (Leads fs) v a) (distinct : visited.Nodup)
    (known : visited ⊆ fs.contents.map Prod.fst) : visited.length + n ≤ fs.contents.length := by
  -- On the way down the files that were visited stay distinct, and each leads to the next one.
  induction n generalizing o visited with
  | zero => simpa using distinct.length_le_of_subset known
  | succ n ih =>
    obtain ⟨a, rfl, stored, o', endless, leads⟩ := leads_of_endless fs h
    have new : a ∉ visited := fun old => straight a rfl ⟨a, .refl, way a rfl a old⟩
    have straight' : ∀ b, o' = some b → ¬ Looping fs b := by
      rintro b led ⟨c, reach, around⟩
      exact straight a rfl ⟨c, .head (leads b led) reach, around⟩
    have way' : ∀ b, o' = some b → ∀ v ∈ a :: visited, TransGen (Leads fs) v b := by
      intro b led v hv
      rcases List.mem_cons.1 hv with rfl | hv
      · exact .single (leads b led)
      · exact (way a rfl v hv).tail (leads b led)
    have within := ih endless straight' way' (List.nodup_cons.2 ⟨new, distinct⟩)
      (List.cons_subset.2 ⟨stored, known⟩)
    rw [List.length_cons] at within
    omega

/-- Loading the file at one path comes to load the other path. -/
def Fetches (p q : String) : Prop :=
  ∃ d before ref after, readDocument fs Document.script p = .ok d ∧
    demands d = before ++ .fetch ref :: after ∧ q = Path.join (Script.ofPath p).dir ref ∧
      ∃ depth, outcome (ends (caseAt fs depth) (Script.ofPath p).dir) before = .loaded

/-- A file is fetched while it is being loaded, by whatever path. -/
def Circular (path : String) : Prop :=
  ∃ p q place, ReflTransGen (Fetches fs) path p ∧ TransGen (Fetches fs) p q ∧
    fs.place [] p = some place ∧ fs.place [] q = some place

theorem ends_caseAt {path : String} {place : List String} (h : fs.place [] path = some place)
    (depth : Nat) : ends (caseAt fs depth) (Script.ofPath path).dir =
      fun ref => fateAt fs depth (fs.place place.dropLast ref) := by
  funext ref
  rw [ends, fate_caseAt, Script.ofPath, fs.place_join h]

theorem Fetches.leads {p q : String} {b : List String} (h : Fetches fs p q)
    (placed : fs.place [] q = some b) : ∃ a, fs.place [] p = some a ∧ Leads fs a b := by
  obtain ⟨d, before, ref, after, read, split, rfl, depth, passed⟩ := h
  cases known : fs.place [] p with
  | none =>
    have refused := readDocument_nowhere fs known
    rw [read] at refused
    cases refused
  | some a =>
    have found := (readDocument_place fs known).1
    rw [read] at found
    rw [Script.ofPath, fs.place_join known] at placed
    rw [ends_caseAt fs known] at passed
    exact ⟨a, rfl, d, before, ref, after, found.symm, split, placed, depth, passed⟩

theorem Leads.fetches {a b : List String} {p : String} (h : Leads fs a b)
    (placed : fs.place [] p = some a) : ∃ q, Fetches fs p q ∧ fs.place [] q = some b := by
  obtain ⟨d, before, ref, after, found, split, led, depth, passed⟩ := h
  have read : readDocument fs Document.script p = .ok d := by
    have same := (readDocument_place fs placed).1
    rw [found] at same
    cases done : readDocument fs Document.script p with
    | error t => rw [done] at same; cases same
    | ok d' => rw [done] at same; exact congrArg _ (Option.some.inj same)
  refine ⟨_, ⟨d, before, ref, after, read, split, rfl, depth, ?_⟩, ?_⟩
  · rw [ends_caseAt fs placed]
    exact passed
  · rw [Script.ofPath, fs.place_join placed]
    exact led

theorem reach_of_fetches {p q : String} {b : List String} (h : ReflTransGen (Fetches fs) p q)
    (placed : fs.place [] q = some b) :
    ∃ a, fs.place [] p = some a ∧ ReflTransGen (Leads fs) a b := by
  induction h using ReflTransGen.head_induction_on with
  | refl => exact ⟨b, placed, .refl⟩
  | head first _ ih =>
    obtain ⟨c, placed, rest⟩ := ih
    obtain ⟨a, placed, first⟩ := first.leads fs placed
    exact ⟨a, placed, .head first rest⟩

theorem fetches_of_reach {a b : List String} {p : String} (h : ReflTransGen (Leads fs) a b)
    (placed : fs.place [] p = some a) :
    ∃ q, ReflTransGen (Fetches fs) p q ∧ fs.place [] q = some b := by
  induction h with
  | refl => exact ⟨p, .refl, placed⟩
  | tail _ last ih =>
    obtain ⟨q, rest, placed⟩ := ih
    obtain ⟨r, last, placed⟩ := last.fetches fs placed
    exact ⟨r, .tail rest last, placed⟩

theorem circular_iff (path : String) :
    Circular fs path ↔ ∃ a, fs.place [] path = some a ∧ Looping fs a := by
  constructor
  · rintro ⟨p, q, c, reach, around, placed, again⟩
    obtain ⟨a, begun, reach⟩ := reach_of_fetches fs reach placed
    obtain ⟨r, first, rest⟩ := TransGen.head'_iff.1 around
    obtain ⟨b, placed', rest⟩ := reach_of_fetches fs rest again
    obtain ⟨c', same, first⟩ := first.leads fs placed'
    cases placed.symm.trans same
    exact ⟨a, begun, c, reach, TransGen.head'_iff.2 ⟨b, first, rest⟩⟩
  · rintro ⟨a, begun, c, reach, around⟩
    obtain ⟨p, reach, placed⟩ := fetches_of_reach fs reach begun
    obtain ⟨b, first, rest⟩ := TransGen.head'_iff.1 around
    obtain ⟨r, first, placed'⟩ := first.fetches fs placed
    obtain ⟨q, rest, again⟩ := fetches_of_reach fs rest placed'
    exact ⟨p, q, c, reach, TransGen.head'_iff.2 ⟨r, first, rest⟩, placed, again⟩

theorem endless_of_circular {path : String} (h : Circular fs path) (depth : Nat) :
    fate (caseAt fs depth path) = .endless := by
  obtain ⟨a, placed, looping⟩ := (circular_iff fs path).1 h
  rw [fate_caseAt, placed]
  exact looping.endless fs depth

/-- Where no file is fetched while it is being loaded, one level more than there are files is
enough. -/
theorem ends_of_straight {path : String} (h : ¬ Circular fs path) {depth : Nat}
    (deep : fs.contents.length < depth) : fate (caseAt fs depth path) ≠ .endless := by
  intro endless
  rw [fate_caseAt] at endless
  have straight : ∀ a, fs.place [] path = some a → ¬ Looping fs a := fun a placed looping =>
    h ((circular_iff fs path).2 ⟨a, placed, looping⟩)
  have within : ([] : List (List String)).length + depth ≤ fs.contents.length :=
    levels_le fs endless straight (by simp) List.nodup_nil (by simp)
  rw [List.length_nil] at within
  omega

/-- Loading ends, within some number of levels and within those that are followed, exactly when no
file is fetched while it is being loaded. Files are those that `Files.find` finds: absolute paths,
and paths that leave the directory and come back, lead to none. -/
theorem load_ends_iff (path : String) :
    ((∃ depth, fate (caseAt fs depth path) ≠ .endless) ↔ ¬ Circular fs path) ∧
      (fate (loadCase fs path) ≠ .endless ↔ ¬ Circular fs path) := by
  have deep : fs.contents.length < depthLimit fs := by
    rw [depthLimit]
    omega
  constructor
  · constructor
    · rintro ⟨depth, ends⟩ circular
      exact ends (endless_of_circular fs circular depth)
    · exact fun straight => ⟨depthLimit fs, ends_of_straight fs straight deep⟩
  · constructor
    · exact fun ends circular => ends (endless_of_circular fs circular (depthLimit fs))
    · exact fun straight => ends_of_straight fs straight deep

def narcissus : Files :=
  ⟨[(["a.json"], Text.encodeUtf8 "\x7b\"chains\":[\x7b\"path\":\"a.json\"\x7d]\x7d".toList)]⟩

theorem narcissus_demands : (readDocument narcissus Document.script "a.json").toOption.map demands =
    some [.check true, .check true, .fetch "a.json", .check true, .check true] := by
  decide +kernel

theorem narcissus_fetches : Fetches narcissus "a.json" "a.json" := by
  have read := narcissus_demands
  cases found : readDocument narcissus Document.script "a.json" with
  | error t =>
    rw [found] at read
    cases read
  | ok d =>
    rw [found] at read
    have asked := Option.some.inj read
    exact ⟨d, [.check true, .check true], "a.json", _, found, asked, by decide +kernel, 0, rfl⟩

theorem narcissus_never_loads :
    ¬ ∃ depth, fate (caseAt narcissus depth "a.json") ≠ .endless := by
  have placed : narcissus.place [] "a.json" = some ["a.json"] := by decide +kernel
  have circular : Circular narcissus "a.json" :=
    ⟨"a.json", "a.json", ["a.json"], .refl, .single narcissus_fetches, placed, placed⟩
  rintro ⟨depth, ends⟩
  exact ends (endless_of_circular narcissus circular depth)

end Scenario.Fetching
