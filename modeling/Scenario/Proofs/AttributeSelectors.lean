import Scenario.Browser.Remote
import Scenario.Proofs.QuotedTexts

/-!
# Values inside a selector

A selector for an attribute holds its value between double quotes. A string of a
selector is read up to the first quote that no backslash takes; a line break
before it spoils the string. A value whose backslashes and quotes are marked is
read back whole, and the reading ends where the value does, so that no value
adds to its selector. Selectors for different values are different.
-/

set_option autoImplicit false

namespace Scenario.Text

theorem replaceChars_singleton (p : Char) (r s : List Char) :
    replaceChars [p] r s = s.flatMap fun c => if c = p then r else [c] := by
  have nonempty : [p] ≠ [] := List.cons_ne_nil p []
  induction s with
  | nil => rfl
  | cons c s ih =>
    rw [List.flatMap_cons, ← ih]
    by_cases same : c = p
    · rw [if_pos same, same]
      exact replaceChars_found nonempty s
    · have here : ¬ [p] <+: c :: s := not_prefix_cons nonempty (by simpa using same) s
      rw [if_neg same, replaceChars_kept here]
      rfl

end Scenario.Text

namespace Scenario.Selector
open Scenario.Text

def isBreak (c : Char) : Bool := c.toNat = 10 || c.toNat = 12 || c.toNat = 13

def Unbroken (s : List Char) : Prop := ∀ c ∈ s, isBreak c = false

instance (s : List Char) : Decidable (Unbroken s) := List.decidableBAll _ s

def isHex (c : Char) : Bool := (digit? 16 c).isSome

def named (n : Nat) : Char :=
  if n ≠ 0 ∧ n.isValidChar then Char.ofNat n else Char.ofNat 0xFFFD

def dropBreak : List Char → List Char
  | '\r' :: '\n' :: r => r
  | c :: r => if isBreak c then r else c :: r
  | [] => []

def dropBlank : List Char → List Char
  | ' ' :: r => r
  | '\t' :: r => r
  | cs => dropBreak cs

def escapeDigits (cs : List Char) : List Char := (cs.take 6).takeWhile isHex

/-- What a backslash stands for before a text, and what is left of the text. Digits name a character
and take one blank along, a line break stands for nothing, any other character for itself. -/
def escaped (cs : List Char) : List Char × List Char :=
  match escapeDigits cs, cs with
  | [], [] => ([], [])
  | [], c :: r => if isBreak c then ([], dropBreak (c :: r)) else ([c], r)
  | d :: ds, cs =>
    let number := (d :: ds).foldl (fun n c => n * 16 + (digit? 16 c).getD 0) 0
    ([named number], dropBlank (cs.drop (d :: ds).length))

theorem length_dropBreak (cs : List Char) : (dropBreak cs).length ≤ cs.length := by
  unfold dropBreak
  split
  · simp only [List.length_cons]
    omega
  · split <;> simp
  · exact Nat.le_refl _

theorem length_dropBlank (cs : List Char) : (dropBlank cs).length ≤ cs.length := by
  unfold dropBlank
  split
  · simp
  · simp
  · exact length_dropBreak cs

theorem length_escaped (cs : List Char) : (escaped cs).2.length ≤ cs.length := by
  unfold escaped
  split
  · exact Nat.le_refl _
  · split
    · exact length_dropBreak _
    · simp
  · refine Nat.le_trans (length_dropBlank _) ?_
    simp

/-- The text of a string after its opening quote, and what comes after its closing quote. -/
def readString : List Char → Option (List Char × List Char)
  | [] => none
  | c :: r =>
    if c = '"' then some ([], r)
    else if isBreak c then none
    else if c = '\\' then (readString (escaped r).2).map fun p => ((escaped r).1 ++ p.1, p.2)
    else (readString r).map fun p => (c :: p.1, p.2)
termination_by cs => cs.length
decreasing_by
  · have shorter := length_escaped r
    simp only [List.length_cons]
    omega
  · simp

section Reading
variable {c : Char}

theorem escaped_plain (hex : isHex c = false) (line : isBreak c = false) (r : List Char) :
    escaped (c :: r) = ([c], r) := by
  have none : escapeDigits (c :: r) = [] := by simp [escapeDigits, hex]
  simp [escaped, none, line]

theorem readString_backslash (hex : isHex c = false) (line : isBreak c = false) (r : List Char) :
    readString ('\\' :: c :: r) = (readString r).map fun p => (c :: p.1, p.2) := by
  have plain : isBreak '\\' = false := by decide
  rw [readString, escaped_plain hex line]
  simp [plain]

theorem readString_break (line : isBreak c = true) (r : List Char) :
    readString (c :: r) = none := by
  have other : c ≠ '"' := by
    rintro rfl
    cases line
  rw [readString, if_neg other, if_pos line]

theorem readString_letter (quote : c ≠ '"') (backslash : c ≠ '\\') (line : isBreak c = false)
    (r : List Char) : readString (c :: r) = (readString r).map fun p => (c :: p.1, p.2) := by
  rw [readString, if_neg quote, line, if_neg Bool.false_ne_true, if_neg backslash]

end Reading

end Scenario.Selector

namespace Scenario.Locator
open Scenario.Text Scenario.Selector

section Escaping
variable {c : Char}

theorem escapeChars_marked (marked : c = '\\' ∨ c = '"') (s : List Char) :
    escapeChars (c :: s) = '\\' :: c :: escapeChars s := by
  simp [escapeChars, marked]

theorem escapeChars_kept (backslash : c ≠ '\\') (quote : c ≠ '"') (s : List Char) :
    escapeChars (c :: s) = c :: escapeChars s := by
  simp [escapeChars, backslash, quote]

/-- Backslashes are marked first, then quotes: the marks of the quotes are not marked again. -/
theorem escapeChars_eq_replaceChars (s : List Char) :
    escapeChars s = replaceChars ['"'] ['\\', '"'] (replaceChars ['\\'] ['\\', '\\'] s) := by
  rw [replaceChars_singleton, replaceChars_singleton, List.flatMap_assoc, escapeChars]
  congr 1
  funext c
  by_cases backslash : c = '\\'
  · subst backslash
    rfl
  · by_cases quote : c = '"'
    · subst quote
      rfl
    · simp [backslash, quote]

/-- Only line breaks keep a value from being read back, and then the string is spoiled. -/
theorem readString_escapeChars (s rest : List Char) :
    readString (escapeChars s ++ '"' :: rest) =
      if s.any isBreak then none else some (s, rest) := by
  induction s with
  | nil => simp [escapeChars, readString]
  | cons c s ih =>
    by_cases marked : c = '\\' ∨ c = '"'
    · have hex : isHex c = false := by rcases marked with rfl | rfl <;> decide
      have line : isBreak c = false := by rcases marked with rfl | rfl <;> decide
      rw [escapeChars_marked marked, List.cons_append, List.cons_append,
        readString_backslash hex line, ih, List.any_cons, line, Bool.false_or]
      split <;> rfl
    · obtain ⟨backslash, quote⟩ := not_or.1 marked
      rw [escapeChars_kept backslash quote, List.cons_append, List.any_cons]
      cases line : isBreak c with
      | true => rw [readString_break line, Bool.true_or, if_pos rfl]
      | false =>
        rw [readString_letter quote backslash line, ih, Bool.false_or]
        split <;> rfl

/-- The text that is left when each mark is taken off. -/
def unmark : List Char → List Char
  | '\\' :: c :: r => c :: unmark r
  | c :: r => c :: unmark r
  | [] => []

theorem unmark_escapeChars (s : List Char) : unmark (escapeChars s) = s := by
  induction s with
  | nil => rfl
  | cons c s ih =>
    by_cases marked : c = '\\' ∨ c = '"'
    · rw [escapeChars_marked marked, unmark, ih]
    · obtain ⟨backslash, quote⟩ := not_or.1 marked
      rw [escapeChars_kept backslash quote, unmark, ih]
      simp [backslash]

theorem escapeChars_injective : Function.Injective escapeChars :=
  Function.LeftInverse.injective unmark_escapeChars

end Escaping

theorem toList_attributeSelector (name value : String) :
    (attributeSelector name value).toList =
      '[' :: (name.toList ++ ('=' :: '"' :: (escapeChars value.toList ++ ['"', ']']))) := by
  simp [attributeSelector]

theorem attributeSelector_injective {name value other : String}
    (h : attributeSelector name value = attributeSelector name other) : value = other := by
  have letters := congrArg String.toList h
  rw [toList_attributeSelector, toList_attributeSelector, List.cons.injEq] at letters
  have tail := List.append_cancel_left letters.2
  rw [List.cons.injEq, List.cons.injEq] at tail
  exact String.toList_injective (escapeChars_injective (List.append_cancel_right tail.2.2))

theorem attributeSelector_id_ne_name (value other : String) :
    attributeSelector "id" value ≠ attributeSelector "name" other := by
  intro h
  have letters := congrArg String.toList h
  rw [toList_attributeSelector, toList_attributeSelector] at letters
  simp at letters

theorem strategy_attribute {l : Locator} (way : l.kind = "id" ∨ l.kind = "name") :
    l.strategy = .ok ("css selector", attributeSelector l.kind l.value) := by
  obtain ⟨kind, value⟩ := l
  rcases way with rfl | rfl <;> rfl

theorem strategy_injective {l other : Locator} (way : l.kind = "id" ∨ l.kind = "name")
    (way' : other.kind = "id" ∨ other.kind = "name") (h : other.strategy = l.strategy) :
    other = l := by
  have selectors : attributeSelector other.kind other.value = attributeSelector l.kind l.value := by
    rw [strategy_attribute way, strategy_attribute way'] at h
    simpa using h
  obtain ⟨kind, value⟩ := l
  obtain ⟨kind', value'⟩ := other
  rcases way with rfl | rfl <;> rcases way' with rfl | rfl
  · obtain rfl := attributeSelector_injective selectors
    rfl
  · exact absurd selectors.symm (attributeSelector_id_ne_name value value')
  · exact absurd selectors (attributeSelector_id_ne_name value' value)
  · obtain rfl := attributeSelector_injective selectors
    rfl

/-- Elements are looked up by id or by name with a selector that holds the value in one string. The
string is read back as the value, and ends right before the end of the selector, if and only if the
value has no line break. No other locator by id or by name gives the same selector. -/
theorem value_stays_inside (l : Locator) (way : l.kind = "id" ∨ l.kind = "name") :
    let written := replace (replace l.value "\\" "\\\\") "\"" "\\\""
    l.strategy = .ok ("css selector", "[" ++ l.kind ++ "=\"" ++ written ++ "\"]") ∧
    (readString (written ++ "\"]").toList = some (l.value.toList, [']']) ↔
      Unbroken l.value.toList) ∧
    ∀ other : Locator, other.kind = "id" ∨ other.kind = "name" →
      other.strategy = l.strategy → other = l := by
  intro written
  have letters : written = String.ofList (escapeChars l.value.toList) := by
    simp [written, replace, escapeChars_eq_replaceChars]
  have read : readString (written ++ "\"]").toList =
      if l.value.toList.any isBreak then none else some (l.value.toList, [']']) := by
    rw [letters, String.toList_append, String.toList_ofList]
    exact readString_escapeChars l.value.toList [']']
  refine ⟨?_, ?_, ?_⟩
  · rw [strategy_attribute way, letters]
    rfl
  · rw [read]
    simp [Unbroken]
  · intro other way' h
    exact strategy_injective way way' h

/-- The value `\"]` would close string and selector if it were not marked. -/
theorem closing_value_stays_inside :
    Unbroken "\\\"]".toList ∧
    (Locator.mk "name" "\\\"]").strategy = .ok ("css selector", "[name=\"\\\\\\\"]\"]") ∧
    readString "\\\\\\\"]\"]".toList = some ("\\\"]".toList, [']']) ∧
    (Locator.mk "id" "\\\"]").strategy ≠ (Locator.mk "name" "\\\"]").strategy := by
  obtain ⟨selector, reading, alone⟩ := value_stays_inside ⟨"name", "\\\"]"⟩ (.inr rfl)
  have marked : replace (replace "\\\"]" "\\" "\\\\") "\"" "\\\"" = "\\\\\\\"]" := by decide
  have plain : Unbroken "\\\"]".toList := by decide
  rw [marked] at selector reading
  refine ⟨plain, selector, reading.2 plain, ?_⟩
  intro same
  have kind := congrArg Locator.kind (alone ⟨"id", "\\\"]"⟩ (.inl rfl) same)
  exact absurd kind (by decide)

end Scenario.Locator
