import Scenario.Expression

/-!
# Texts between quotes

Before an expression is read, calls of `len` become calls of `size` and strict
comparisons become plain ones, wherever in the text they are spelled. A text
between single quotes has the value that this makes of it, whatever the row is.
So it is its own value if and only if it spells neither.
-/

set_option autoImplicit false

namespace Scenario.Text

/-- A text as a search for a pattern reads it: from the left and past each match. -/
inductive Scanned (p : List Char) : List Char → Prop
  | done : Scanned p []
  | found {s : List Char} (later : Scanned p s) : Scanned p (p ++ s)
  | kept {c : Char} {s : List Char} (here : ¬ p <+: c :: s) (later : Scanned p s) :
      Scanned p (c :: s)

section Replacing
variable {p r s : List Char} {c : Char}

theorem scanned (hp : p ≠ []) (s : List Char) : Scanned p s := by
  induction h : s.length using Nat.strongRecOn generalizing s with
  | ind n ih =>
    have pos : 0 < p.length := List.length_pos_iff.2 hp
    by_cases here : p <+: s
    · obtain ⟨t, rfl⟩ := here
      rw [List.length_append] at h
      exact .found (ih t.length (by omega) t rfl)
    · cases s with
      | nil => exact .done
      | cons c s =>
        rw [List.length_cons] at h
        exact .kept here (ih s.length (by omega) s rfl)

theorem not_prefix_cons (hp : p ≠ []) (hc : c ∉ p) (s : List Char) : ¬ p <+: c :: s := by
  cases p with
  | nil => exact absurd rfl hp
  | cons d p =>
    intro h
    have same : d = c := (List.cons_prefix_cons.1 h).1
    simp [same] at hc

theorem not_prefix_concat (hc : c ∉ p) (here : ¬ p <+: s) : ¬ p <+: s ++ [c] := by
  intro h
  rcases List.prefix_concat_iff.1 h with same | shorter
  · exact hc (by simp [same])
  · exact here shorter

theorem replaceFrom_eq_drop (p r : List Char) (k : Nat) (s : List Char) :
    replaceFrom p r k s = replaceChars p r (s.drop k) := by
  induction s generalizing k with
  | nil => cases k <;> rfl
  | cons c s ih =>
    cases k with
    | zero => rfl
    | succ k => exact ih k

theorem replaceChars_found (hp : p ≠ []) (s : List Char) :
    replaceChars p r (p ++ s) = r ++ replaceChars p r s := by
  cases p with
  | nil => exact absurd rfl hp
  | cons d p =>
    have matched : (d :: p).isPrefixOf (d :: (p ++ s)) = true := by simp
    rw [List.cons_append, replaceChars, replaceFrom, matched, replaceFrom_eq_drop]
    simp

theorem replaceChars_kept (here : ¬ p <+: c :: s) :
    replaceChars p r (c :: s) = c :: replaceChars p r s := by
  have unmatched : p.isPrefixOf (c :: s) = false := by
    rw [← Bool.not_eq_true, List.isPrefixOf_iff_prefix]
    exact here
  rw [replaceChars, replaceFrom, unmatched, Bool.and_false, if_neg Bool.false_ne_true]
  rfl

theorem replaceChars_concat (hp : p ≠ []) (hc : c ∉ p) (s : List Char) :
    replaceChars p r (s ++ [c]) = replaceChars p r s ++ [c] := by
  induction scanned hp s with
  | done => exact replaceChars_kept (not_prefix_cons hp hc [])
  | found later ih =>
    rw [List.append_assoc, replaceChars_found hp, replaceChars_found hp, ih, List.append_assoc]
  | @kept d s here later ih =>
    have there : ¬ p <+: d :: (s ++ [c]) := not_prefix_concat hc here
    rw [List.cons_append, replaceChars_kept there, replaceChars_kept here, ih, List.cons_append]

theorem mem_replaceChars (hp : p ≠ []) (h : c ∈ replaceChars p r s) : c ∈ s ∨ c ∈ r := by
  induction scanned hp s with
  | done => cases h
  | found later ih =>
    rw [replaceChars_found hp, List.mem_append] at h
    rcases h with inside | after
    · exact .inr inside
    · exact (ih after).imp_left (List.mem_append_right p)
  | kept here later ih =>
    rw [replaceChars_kept here, List.mem_cons] at h
    rcases h with rfl | after
    · exact .inl List.mem_cons_self
    · exact (ih after).imp_left (List.mem_cons_of_mem _)

theorem replaceChars_self_or_fewer (hp : p ≠ []) (fewer : r.count c < p.count c) (s : List Char) :
    (¬ p <:+: s ∧ replaceChars p r s = s) ∨
      (p <:+: s ∧ (replaceChars p r s).count c < s.count c) := by
  induction scanned hp s with
  | done => exact .inl ⟨by simpa using hp, rfl⟩
  | @found s later ih =>
    have bound : (replaceChars p r s).count c ≤ s.count c := by
      rcases ih with ⟨_, same⟩ | ⟨_, less⟩
      · exact Nat.le_of_eq (by rw [same])
      · exact Nat.le_of_lt less
    have less : (replaceChars p r (p ++ s)).count c < (p ++ s).count c := by
      rw [replaceChars_found hp, List.count_append, List.count_append]
      omega
    exact .inr ⟨List.infix_append [] p s, less⟩
  | kept here later ih =>
    rw [replaceChars_kept here, List.infix_cons_iff, List.count_cons, List.count_cons]
    rcases ih with ⟨none, same⟩ | ⟨some, less⟩
    · exact .inl ⟨by simp [here, none], by rw [same]⟩
    · exact .inr ⟨.inr some, by omega⟩

theorem occursIn_iff (p s : List Char) : occursIn p s = true ↔ p <:+: s := by
  induction s with
  | nil => simp [occursIn]
  | cons c s ih =>
    rw [occursIn, Bool.or_eq_true, ih, List.isPrefixOf_iff_prefix, List.infix_cons_iff]

end Replacing

end Scenario.Text

namespace Scenario.Expression
open Scenario.Text

def lengthCall : List Char := ['l', 'e', 'n', '(']

/-- Whether a call of `len` is spelled; `inWord` is as in `renameLength`. -/
def callsLength (inWord : Bool) : List Char → Bool
  | [] => false
  | c :: r => (!inWord && lengthCall.isPrefixOf (c :: r)) || callsLength (isWord c) r

section Renaming
variable {s : List Char} {c : Char}

theorem lengthCall_ne_nil : lengthCall ≠ [] := by simp [lengthCall]

theorem renameLength_found (inWord : Bool) (s : List Char) :
    renameLength inWord (lengthCall ++ s) =
      (if inWord then lengthCall else "size(".toList) ++ renameLength false s := by
  cases inWord <;> rfl

theorem renameLength_kept (inWord : Bool) (here : ¬ lengthCall <+: c :: s) :
    renameLength inWord (c :: s) = c :: renameLength (isWord c) s := by
  rw [renameLength.eq_def]
  split
  · next r same => exact absurd ⟨r, same.symm⟩ here
  · next same => cases same; rfl
  · next same => cases same

theorem callsLength_found (inWord : Bool) (s : List Char) :
    callsLength inWord (lengthCall ++ s) = (!inWord || callsLength false s) := by
  cases inWord <;> rfl

theorem callsLength_kept (inWord : Bool) (here : ¬ lengthCall <+: c :: s) :
    callsLength inWord (c :: s) = callsLength (isWord c) s := by
  have unmatched : lengthCall.isPrefixOf (c :: s) = false := by
    rw [← Bool.not_eq_true, List.isPrefixOf_iff_prefix]
    exact here
  rw [callsLength, unmatched, Bool.and_false, Bool.false_or]

theorem renameLength_concat (inWord : Bool) (s : List Char) :
    renameLength inWord (s ++ ['\'']) = renameLength inWord s ++ ['\''] := by
  induction scanned lengthCall_ne_nil s generalizing inWord with
  | done => rfl
  | found later ih =>
    rw [List.append_assoc, renameLength_found, renameLength_found, ih, List.append_assoc]
  | @kept c s here later ih =>
    have there : ¬ lengthCall <+: c :: (s ++ ['\'']) := not_prefix_concat (by decide) here
    rw [List.cons_append, renameLength_kept inWord there, renameLength_kept inWord here, ih,
      List.cons_append]

theorem mem_renameLength {inWord : Bool} (h : c ∈ renameLength inWord s) :
    c ∈ s ∨ c ∈ "size(".toList := by
  induction scanned lengthCall_ne_nil s generalizing inWord with
  | done => cases h
  | found later ih =>
    rw [renameLength_found, List.mem_append] at h
    rcases h with call | after
    · cases inWord with
      | false => exact .inr call
      | true => exact .inl (List.mem_append_left _ call)
    · exact (ih after).imp_left (List.mem_append_right lengthCall)
  | kept here later ih =>
    rw [renameLength_kept inWord here, List.mem_cons] at h
    rcases h with rfl | after
    · exact .inl List.mem_cons_self
    · exact (ih after).imp_left (List.mem_cons_of_mem _)

theorem renameLength_self_or_more (inWord : Bool) (s : List Char) :
    (callsLength inWord s = false ∧ renameLength inWord s = s) ∨
      (callsLength inWord s = true ∧ s.count 's' < (renameLength inWord s).count 's') := by
  induction scanned lengthCall_ne_nil s generalizing inWord with
  | done => exact .inl ⟨rfl, rfl⟩
  | @found s later ih =>
    rw [callsLength_found, renameLength_found, List.count_append, List.count_append]
    have old : lengthCall.count 's' = 0 := by decide
    rcases ih false with ⟨none, same⟩ | ⟨some, more⟩
    · cases inWord with
      | false => exact .inr ⟨rfl, by simp [old, same]⟩
      | true => exact .inl ⟨none, by rw [if_pos rfl, same]⟩
    · exact .inr ⟨by rw [some, Bool.or_true], by split <;> omega⟩
  | @kept c s here later ih =>
    rw [callsLength_kept inWord here, renameLength_kept inWord here, List.count_cons,
      List.count_cons]
    rcases ih (isWord c) with ⟨none, same⟩ | ⟨some, more⟩
    · exact .inl ⟨none, by rw [same]⟩
    · exact .inr ⟨some, by omega⟩

theorem count_renameLength (old : c ∉ lengthCall) (new : c ∉ "size(".toList) (inWord : Bool)
    (s : List Char) : (renameLength inWord s).count c = s.count c := by
  induction scanned lengthCall_ne_nil s generalizing inWord with
  | done => rfl
  | found later ih =>
    have call : (if inWord then lengthCall else "size(".toList).count c = 0 := by
      split
      · exact List.count_eq_zero_of_not_mem old
      · exact List.count_eq_zero_of_not_mem new
    rw [renameLength_found, List.count_append, List.count_append, ih, call,
      List.count_eq_zero_of_not_mem old]
  | kept here later ih =>
    rw [renameLength_kept inWord here, List.count_cons, List.count_cons, ih]

end Renaming

end Scenario.Expression

namespace Scenario.Cel

/-- A text that may stand between single quotes as it is. -/
def Unescaped (s : List Char) : Prop := ∀ c ∈ s, c ≠ '\'' ∧ c ≠ '\\' ∧ c ≠ '\n' ∧ c ≠ '\r'

instance (s : List Char) : Decidable (Unescaped s) := List.decidableBAll _ s

section Literal
variable {s : List Char}

/-- The search for the closing quote passes all of the text; `acc` is what it passed before. -/
theorem literalBody_unescaped (h : Unescaped s) (n : Nat) (acc r : List Char) :
    literalBody false false '\'' (s.length + 1 + n) acc (s ++ '\'' :: r) =
      some (acc.reverse ++ (s ++ ['\'']), r) := by
  induction s generalizing acc with
  | nil => simp [Nat.add_comm 1 n, literalBody]
  | cons c s ih =>
    obtain ⟨quote, backslash, newline, carriage⟩ := h c List.mem_cons_self
    have fuel : (c :: s).length + 1 + n = (s.length + 1 + n) + 1 := by
      rw [List.length_cons]
      omega
    have rest := ih (fun d hd => h d (List.mem_cons_of_mem c hd)) (c :: acc)
    rw [fuel, List.cons_append, literalBody.eq_def]
    simp [quote, backslash, newline, carriage, rest]

theorem decodeText_unescaped (h : Unescaped s) (n : Nat) :
    decodeText false (s.length + 2 + n) (some '\'') (s ++ ['\'']) = some s := by
  induction s with
  | nil =>
    have fuel : ([] : List Char).length + 2 + n = n + 1 + 1 := by
      rw [List.length_nil]
      omega
    rw [fuel]
    rfl
  | cons c s ih =>
    obtain ⟨quote, backslash, -, -⟩ := h c List.mem_cons_self
    have fuel : (c :: s).length + 2 + n = (s.length + 2 + n) + 1 := by
      rw [List.length_cons]
      omega
    have rest := ih fun d hd => h d (List.mem_cons_of_mem c hd)
    rw [fuel, List.cons_append, decodeText.eq_def]
    simp [backslash, rest, Ne.symm quote]

theorem quoted_unescaped (h : Unescaped s) :
    quoted false ('\'' :: (s ++ ['\''])) = some ('\'' :: (s ++ ['\'']), []) := by
  have short : ['\'', '\''].isPrefixOf (s ++ ['\'']) = false := by
    cases s with
    | nil => rfl
    | cons c s =>
      have quote : '\'' ≠ c := Ne.symm (h c List.mem_cons_self).1
      rw [List.cons_append, List.isPrefixOf, beq_false_of_ne quote, Bool.false_and]
  have body := literalBody_unescaped h 1 ['\''] []
  rw [quoted, short, List.length_append]
  exact body

theorem readLiteral_quote (r : List Char) :
    readLiteral ('\'' :: r) = (quoted false ('\'' :: r)).bind fun x =>
      (decodeText false (x.1.length + 1) none x.1).bind fun t => some (.str t, x.2) := by
  rcases r with _ | ⟨b, _ | ⟨c, r⟩⟩ <;> rfl

theorem readLiteral_unescaped (h : Unescaped s) :
    readLiteral ('\'' :: (s ++ ['\''])) = some (.str s, []) := by
  have fuel : ('\'' :: (s ++ ['\''])).length + 1 = (s.length + 2 + 0) + 1 := by simp
  have text : decodeText false (('\'' :: (s ++ ['\''])).length + 1) none ('\'' :: (s ++ ['\''])) =
      some s := by
    rw [fuel, decodeText.eq_def]
    exact decodeText_unescaped h 0
  rw [readLiteral_quote, quoted_unescaped h, Option.bind_some, text]
  rfl

theorem tokenize_unescaped (h : Unescaped s) :
    tokenize (String.ofList ('\'' :: (s ++ ['\'']))) = some [.str s] := by
  rw [tokenize, String.toList_ofList, List.length_cons, tokens, readLiteral_unescaped h,
    List.length_append]
  rfl

theorem parse_unescaped (h : Unescaped s) :
    parse (String.ofList ('\'' :: (s ++ ['\'']))) = some (.lit (.str (String.ofList s))) := by
  rw [parse, tokenize_unescaped h]
  rfl

end Literal

end Scenario.Cel

namespace Scenario.Expression
open Scenario.Text
open Scenario.Cel (Unescaped parse_unescaped)

theorem toList_normalize (s : String) :
    (normalize s).toList = replaceChars ['=', '=', '='] ['=', '=']
      (replaceChars ['!', '=', '='] ['!', '='] (renameLength false s.toList)) := by
  simp [normalize, replace]

theorem mem_normalize {c : Char} {s : String} (h : c ∈ (normalize s).toList) :
    c ∈ s.toList ∨ c ∈ ['s', 'i', 'z', 'e', '(', '!', '='] := by
  rw [toList_normalize] at h
  rcases mem_replaceChars (by simp) h with replaced | new
  · rcases mem_replaceChars (by simp) replaced with renamed | new
    · rcases mem_renameLength renamed with old | new
      · exact .inl old
      · exact .inr ((by decide : "size(".toList ⊆ _) new)
    · exact .inr ((by decide : ['!', '='] ⊆ _) new)
  · exact .inr ((by decide : ['=', '='] ⊆ _) new)

theorem unescaped_normalize {s : String} (h : Unescaped s.toList) :
    Unescaped (normalize s).toList := by
  intro c hc
  rcases mem_normalize hc with old | new
  · exact h c old
  · have plain : Unescaped ['s', 'i', 'z', 'e', '(', '!', '='] := by decide
    exact plain c new

theorem normalize_quoted (s : String) :
    normalize ("'" ++ s ++ "'") = String.ofList ('\'' :: ((normalize s).toList ++ ['\''])) := by
  have opening : ∀ t, renameLength false ('\'' :: t) = '\'' :: renameLength false t :=
    fun t => rfl
  apply String.toList_injective
  rw [String.toList_ofList, toList_normalize, toList_normalize]
  have outer : ("'" ++ s ++ "'").toList = '\'' :: (s.toList ++ ['\'']) := by simp
  rw [outer, opening, renameLength_concat, replaceChars_kept, replaceChars_concat,
    replaceChars_kept, replaceChars_concat]
  all_goals simp

/-- A spelling stays if and only if it holds nothing that is spelled in another way: a call that
is renamed gains a letter, and a comparison that is replaced loses a sign. -/
theorem normalize_eq_self_iff (s : String) :
    normalize s = s ↔ callsLength false s.toList = false ∧
      contains s "!==" = false ∧ contains s "===" = false := by
  have spelled : ∀ p : String, contains s p = false ↔ ¬ p.toList <:+: s.toList := fun p => by
    rw [← occursIn_iff, Bool.not_eq_true, contains]
  rw [spelled, spelled, ← String.toList_inj, toList_normalize]
  have noUnequal := replaceChars_self_or_fewer (p := ['!', '=', '=']) (r := ['!', '='])
    (c := '=') (by simp) (by decide) (renameLength false s.toList)
  have noEqual := replaceChars_self_or_fewer (p := ['=', '=', '=']) (r := ['=', '=']) (c := '=')
    (by simp) (by decide)
    (replaceChars ['!', '=', '='] ['!', '='] (renameLength false s.toList))
  have signs := count_renameLength (c := '=') (by decide) (by decide) false s.toList
  constructor
  · intro same
    -- Neither of the replacements may lose a sign, for renaming brings none back.
    rw [same] at noEqual
    rcases noUnequal with ⟨unequal, kept⟩ | ⟨_, less⟩
    · rw [kept] at noEqual
      rcases noEqual with ⟨equal, renamed⟩ | ⟨_, less⟩
      · rcases renameLength_self_or_more false s.toList with ⟨call, _⟩ | ⟨_, more⟩
        · rw [← renamed] at unequal equal
          exact ⟨call, unequal, equal⟩
        · rw [← renamed] at more
          exact absurd more (Nat.lt_irrefl _)
      · omega
    · rcases noEqual with ⟨_, kept⟩ | ⟨_, lesser⟩
      · rw [← kept] at less
        omega
      · omega
  · rintro ⟨call, unequal, equal⟩
    have renamed : renameLength false s.toList = s.toList := by
      rcases renameLength_self_or_more false s.toList with ⟨_, renamed⟩ | ⟨some, _⟩
      · exact renamed
      · rw [call] at some
        cases some
    rw [renamed] at noUnequal noEqual ⊢
    rcases noUnequal with ⟨_, kept⟩ | ⟨some, _⟩
    · rw [kept] at noEqual ⊢
      rcases noEqual with ⟨_, kept⟩ | ⟨some, _⟩
      · exact kept
      · exact absurd some equal
    · exact absurd some unequal

theorem evaluate_unescaped {s : String} (h : Unescaped s.toList) (vars : Assoc String) :
    evaluate ("'" ++ s ++ "'") vars = .ok (normalize s) := by
  unfold evaluate
  rw [normalize_quoted, parse_unescaped (unescaped_normalize h)]
  simp [Cel.Expr.eval, Cel.Value.toJson, Json.scalar]

/-- A text between single quotes is its own value if and only if it spells no call of `len` and
no strict comparison. Otherwise its value is the text with these spelled in the other way.
That a literal without escapes has its inside as value is the rule of `cel`, which
`Scenario.Cel.Token` and `Scenario.Cel.Parser` stand for. -/
theorem quoted_is_itself_iff (s : String) (plain : Unescaped s.toList) (vars : Assoc String) :
    evaluate ("'" ++ s ++ "'") vars = .ok (normalize s) ∧
    (evaluate ("'" ++ s ++ "'") vars = .ok s ↔
      callsLength false s.toList = false ∧ contains s "!==" = false ∧
        contains s "===" = false) := by
  constructor
  · exact evaluate_unescaped plain vars
  · rw [evaluate_unescaped plain vars, Except.ok.injEq, normalize_eq_self_iff]

theorem bare_word_quoted :
    Unescaped "a == len".toList ∧
      evaluate ("'" ++ "a == len" ++ "'") [("a", "1")] = .ok (normalize "a == len") ∧
      evaluate ("'" ++ "a == len" ++ "'") [("a", "1")] = .ok "a == len" := by
  have plain : Unescaped "a == len".toList := by decide
  have value := quoted_is_itself_iff "a == len" plain [("a", "1")]
  exact ⟨plain, value.1, value.2.2 (by decide +kernel)⟩

/-- A text is not its own value if it looks like a strict comparison. -/
theorem strict_comparison_quoted :
    Unescaped "a === b".toList ∧ evaluate ("'" ++ "a === b" ++ "'") [] ≠ .ok "a === b" := by
  have plain : Unescaped "a === b".toList := by decide
  have shorter : normalize "a === b" = "a == b" := by decide +kernel
  rw [evaluate_unescaped plain, shorter]
  exact ⟨plain, by simp⟩

end Scenario.Expression
