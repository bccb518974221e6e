import Scenario.Pointcut
import Scenario.Proofs.TemplateReferences

/-!
# Frozen pointcuts

A pointcut decides by texts that it expects and by texts of the step, and both
are bound in a row. Freezing binds what is expected once for all: where no
reference is left in it, the row of a later decision matters only to the step's
own texts, its skip condition and tests of one's own.
-/

set_option autoImplicit false

namespace Scenario

/-- No reference begins in a text, be it to a variable or to a key. -/
def Referenceless (t : String) : Prop :=
  ¬ ['$', '{'] <:+: t.toList ∧ ¬ ['!', '{'] <:+: t.toList

instance (t : String) : Decidable (Referenceless t) :=
  inferInstanceAs (Decidable (¬ _ ∧ ¬ _))

theorem Referenceless.bind_eq {t : String} (h : Referenceless t) (r : Row) : r.bind t = t := by
  have round : r.substitute t.toList = t.toList := by
    rw [Row.substitute, Template.Form.substitute, Template.Form.substitute,
      Template.expressions.substituteFrom_of_not_infix _ h.1,
      Template.keys.substituteFrom_of_not_infix _ h.2]
  rw [Row.bind, Row.bindChars, Row.rounds, Row.settle, if_pos round, String.ofList_toList]

namespace Pointcut

def expected : Pointcut → List String
  | .kind names => names
  | .param _ value _ => [value]
  | .locator _ l => [l.value]
  | .and p q => p.expected ++ q.expected
  | .or p q => p.expected ++ q.expected
  | .not p => p.expected
  | _ => []

/-- The formula of a pointcut: `expect` says what an expected text reads, and a row what the
step's own texts read, whether its skip condition holds and how tests of one's own answer. -/
def decides (expect : String → String) : Pointcut → Step → Row → Bool
  | .any, _, _ => true
  | .none, _, _ => false
  | .kind names, s, _ => names.any fun n => expect n == s.kind.name
  | .negated b, s, _ => s.negated == b
  | .skip b, s, r => s.isSkipped r == b
  | .param key value method, s, r =>
    (s.text? key).any fun actual => method.holds (r.bind actual) (expect value)
  | .locator key l, s, r =>
    (s.locator? key).any fun actual => actual.bind r == { l with value := expect l.value }
  | .and p q, s, r => p.decides expect s r && q.decides expect s r
  | .or p q, s, r => p.decides expect s r || q.decides expect s r
  | .not p, s, r => !p.decides expect s r
  | .custom test, s, r => test s r

section Formula
variable (p : Pointcut) (s : Step) (r : Row)

theorem selects_eq_decides : p.selects s r = p.decides r.bind s r := by
  induction p with
  | param key value method => cases h : s.text? key <;> simp [selects, decides, h]
  | locator key l => cases h : s.locator? key <;> simp [selects, decides, h, Locator.bind]
  | and p q ihp ihq => rw [selects, decides, ihp, ihq]
  | or p q ihp ihq => rw [selects, decides, ihp, ihq]
  | not p ih => rw [selects, decides, ih]
  | _ => rfl

/-- Of a frozen pointcut the texts are read that were bound when it was frozen. -/
theorem decides_freeze (v : Row) (expect : String → String) :
    (p.freeze v).decides expect s r = p.decides (fun t => expect (v.bind t)) s r := by
  induction p with
  | kind names => simp [freeze, decides, Function.comp_def]
  | and p q ihp ihq => rw [freeze, decides, ihp, ihq, decides]
  | or p q ihp ihq => rw [freeze, decides, ihp, ihq, decides]
  | not p ih => rw [freeze, decides, ih, decides]
  | _ => rfl

/-- A formula depends on what the expected texts read and on no other text. -/
theorem decides_congr {expect expect' : String → String}
    (same : ∀ t ∈ p.expected, expect t = expect' t) :
    p.decides expect s r = p.decides expect' s r := by
  induction p with
  | kind names =>
    rw [Bool.eq_iff_iff, decides, decides, List.any_eq_true, List.any_eq_true]
    refine exists_congr fun n => and_congr_right fun hn => ?_
    rw [same n hn]
  | param key value method => rw [decides, decides, same value (by simp [expected])]
  | locator key l => rw [decides, decides, same l.value (by simp [expected])]
  | and p q ihp ihq =>
    have left := ihp fun t ht => same t (List.mem_append_left _ ht)
    have right := ihq fun t ht => same t (List.mem_append_right _ ht)
    rw [decides, decides, left, right]
  | or p q ihp ihq =>
    have left := ihp fun t ht => same t (List.mem_append_left _ ht)
    have right := ihq fun t ht => same t (List.mem_append_right _ ht)
    rw [decides, decides, left, right]
  | not p ih =>
    have inner := ih same
    rw [decides, decides, inner]
  | _ => rfl

end Formula

section Frozen
variable {p : Pointcut} {v : Row}

theorem selects_freeze (fixed : ∀ t ∈ p.expected, Referenceless (v.bind t)) (s : Step) (w : Row) :
    (p.freeze v).selects s w = p.decides v.bind s w := by
  rw [selects_eq_decides, decides_freeze]
  exact p.decides_congr s w fun t ht => (fixed t ht).bind_eq w

theorem selects_freeze_freeze (fixed : ∀ t ∈ p.expected, Referenceless (v.bind t)) (w : Row)
    (s : Step) (u : Row) :
    ((p.freeze v).freeze w).selects s u = (p.freeze v).selects s u := by
  rw [selects_freeze fixed, selects_eq_decides, decides_freeze, decides_freeze]
  refine p.decides_congr s u fun t ht => ?_
  rw [(fixed t ht).bind_eq w, (fixed t ht).bind_eq u]

/-- A frozen pointcut whose expected texts were bound to texts without references decides, in
whatever row, by those texts and the step's own; frozen again it decides alike, and in the row
in which it was frozen it decides as it did before. -/
theorem freeze_fixes (fixed : ∀ t ∈ p.expected, Referenceless (v.bind t)) :
    (∀ s w, (p.freeze v).selects s w = p.decides v.bind s w) ∧
      (∀ w s u, ((p.freeze v).freeze w).selects s u = (p.freeze v).selects s u) ∧
      ∀ s, (p.freeze v).selects s v = p.selects s v := by
  refine ⟨selects_freeze fixed, selects_freeze_freeze fixed, fun s => ?_⟩
  rw [selects_freeze fixed, selects_eq_decides]

section Example

def greeting : Pointcut :=
  .and (.and (.kind ["get", "${kind}"]) (.param "text" "good ${when}, " .startsWith))
    (.not (.or (.locator "locator" ⟨"css", "#${place}!{KEY_TAB}"⟩) (.custom fun _ r => r.has "off")))

def morning : Row where
  vars := [("kind", "echo"), ("when", "${word}"), ("word", "morning"), ("place", "top")]

def evening : Row where
  vars := [("kind", "get"), ("when", "evening"), ("word", "evening"), ("who", "morning, all")]

def goodMorning : Step where
  kind := .echo
  texts := [("text", "good ${who}")]

/-- What was frozen in the morning is still expected in the evening, when the step's own text
has come to read so; unfrozen, the pointcut would expect another text. -/
theorem greeting_fixed :
    (∀ t ∈ greeting.expected, Referenceless (morning.bind t)) ∧
      ((greeting.freeze morning).freeze evening).selects goodMorning evening = true ∧
      (greeting.freeze morning).selects goodMorning morning = false ∧
      greeting.selects goodMorning evening = false := by
  have fixed : ∀ t ∈ greeting.expected, Referenceless (morning.bind t) := by decide +kernel
  obtain ⟨formula, again, before⟩ := freeze_fixes fixed
  refine ⟨fixed, ?_, ?_, by decide +kernel⟩
  · rw [again, formula]
    decide +kernel
  · rw [before]
    decide +kernel

end Example

end Frozen

end Pointcut

end Scenario
