import Scenario.Proofs.TemplateReferences

/-!
# Binding as expansion

A plain template is a text of references and of characters that mean nothing in
templates. Where the values of a row are plain templates, and the names in them
always lead to names of a lower rank, a template has one expansion: every
reference to a name that has a value gives way to the expansion of the value,
all else stays. Binding substitutes round after round, and the rounds suffice
for 32 ranks.
-/

set_option autoImplicit false

namespace Scenario.Expansion
open Scenario.Text Scenario.Template

def isPlain (c : Char) : Bool := c != '$' && c != '!' && c != '{' && c != '}'

inductive Piece where
  | char (c : Char)
  | reference (name : List Char)

def Piece.Plain : Piece → Prop
  | .char c => isPlain c = true
  | .reference name => name ≠ [] ∧ ∀ c ∈ name, isPlain c = true

def Piece.write : Piece → List Char
  | .char c => [c]
  | .reference name => '$' :: '{' :: (name ++ ['}'])

def Plain (t : List Piece) : Prop := ∀ p ∈ t, p.Plain

def write (t : List Piece) : List Char := t.flatMap Piece.write

def text (t : List Piece) : String := String.ofList (write t)

theorem write_append (t u : List Piece) : write (t ++ u) = write t ++ write u :=
  List.flatMap_append

theorem plain_cons {p : Piece} {t : List Piece} : Plain (p :: t) ↔ p.Plain ∧ Plain t :=
  List.forall_mem_cons

theorem Plain.append {t u : List Piece} (h : Plain t) (h' : Plain u) : Plain (t ++ u) :=
  List.forall_mem_append.2 ⟨h, h'⟩

section Characters
variable {c : Char} {name : List Char}

theorem ne_of_isPlain (h : isPlain c = true) : c ≠ '$' ∧ c ≠ '!' ∧ c ≠ '{' ∧ c ≠ '}' := by
  simpa [isPlain, and_assoc] using h

theorem isName_of_isPlain (h : isPlain c = true) : expressions.isName c = true := by
  obtain ⟨_, _, opening, closing⟩ := ne_of_isPlain h
  simp [expressions, opening, closing]

theorem takeWhile_name (h : ∀ c ∈ name, isPlain c = true) (rest : List Char) :
    (name ++ '}' :: rest).takeWhile expressions.isName = name := by
  induction name with
  | nil => rfl
  | cons c name ih =>
    rw [List.cons_append, List.takeWhile_cons, isName_of_isPlain (h c (by simp)), if_pos rfl,
      ih fun d hd => h d (by simp [hd])]

theorem not_mem_write {t : List Piece} (h : Plain t) : '!' ∉ write t := by
  intro mem
  obtain ⟨p, hp, mem⟩ := List.mem_flatMap.1 mem
  have plain := h p hp
  cases p with
  | char c =>
    rw [Piece.write, List.mem_singleton] at mem
    exact (ne_of_isPlain plain).2.1 mem.symm
  | reference name =>
    have named : '!' ∈ name := by simpa [Piece.write] using mem
    exact (ne_of_isPlain (plain.2 _ named)).2.1 rfl

end Characters

theorem write_injective {t u : List Piece} (ht : Plain t) (hu : Plain u) (same : write t = write u) :
    t = u := by
  induction t generalizing u with
  | nil =>
    cases u with
    | nil => rfl
    | cons q u => cases q <;> simp [write, Piece.write] at same
  | cons p t ih =>
    obtain ⟨head, tail⟩ := plain_cons.1 ht
    cases u with
    | nil => cases p <;> simp [write, Piece.write] at same
    | cons q u =>
      obtain ⟨head', tail'⟩ := plain_cons.1 hu
      cases p with
      | char c =>
        cases q with
        | char d =>
          obtain ⟨rfl, rest⟩ := List.cons.inj same
          rw [ih tail tail' rest]
        | reference name => exact absurd (List.cons.inj same).1 (ne_of_isPlain head).1
      | reference name =>
        cases q with
        | char d => exact absurd (List.cons.inj same).1.symm (ne_of_isPlain head').1
        | reference name' =>
          have rest : name ++ '}' :: write t = name' ++ '}' :: write u := by
            simpa [write, Piece.write] using same
          have names : name = name' := by
            rw [← takeWhile_name head.2 (write t), rest, takeWhile_name head'.2]
          subst names
          rw [ih tail tail' (List.cons.inj (List.append_cancel_left rest)).2]

def keyOf (name : List Char) : String := String.ofList (trimChars name)

/-- A row defines its variables, and the properties of the environment that none of them hides. -/
inductive Defines (r : Row) : String → String → Prop
  | own {key v : String} (h : r.get? key = some v) : Defines r key v
  | property {name v : String} (hidden : r.get? ("env." ++ name) = none)
      (h : Assoc.get? r.env name = some v) : Defines r ("env." ++ name) v

theorem marked_eq {key : List Char} (h : Row.environmentMark.isPrefixOf key = true) :
    String.ofList key = "env." ++ String.ofList (key.drop 4) := by
  obtain ⟨rest, rfl⟩ := List.isPrefixOf_iff_prefix.1 h
  rw [String.ofList_append]
  rfl

theorem value?_of_defines {r : Row} {name : List Char} {v : String}
    (h : Defines r (keyOf name) v) : r.value? name = some v.toList := by
  generalize key : keyOf name = k at h
  rw [keyOf] at key
  cases h with
  | own h => simp only [Row.value?, key, h]
  | @property property _ hidden h =>
    have letters : trimChars name = Row.environmentMark ++ property.toList := by
      apply String.ofList_injective
      rw [key, String.ofList_append, String.ofList_toList]
      rfl
    have marked : Row.environmentMark.isPrefixOf (trimChars name) = true := by
      rw [letters, List.isPrefixOf_iff_prefix]
      exact List.prefix_append _ _
    have rest : String.ofList ((trimChars name).drop 4) = property := by
      rw [letters]
      exact String.ofList_toList
    simp only [Row.value?, key, hidden, marked, if_true, rest, h, Option.map_some]

theorem defines_of_value? {r : Row} {name value : List Char} (h : r.value? name = some value) :
    ∃ v, Defines r (keyOf name) v ∧ value = v.toList := by
  simp only [Row.value?] at h
  split at h
  · rename_i v hv
    cases h
    exact ⟨v, .own hv, rfl⟩
  · rename_i hidden
    split at h
    · rename_i marked
      obtain ⟨v, hv, rfl⟩ := Option.map_eq_some_iff.1 h
      rw [marked_eq marked] at hidden
      refine ⟨v, ?_, rfl⟩
      rw [keyOf, marked_eq marked]
      exact .property hidden hv
    · cases h

theorem Defines.unique {r : Row} {name : List Char} {v w : String}
    (h : Defines r (keyOf name) v) (h' : Defines r (keyOf name) w) : v = w := by
  have same := (value?_of_defines h).symm.trans (value?_of_defines h')
  exact String.toList_injective (Option.some.inj same)

/-- The expansion of a template: what has a value gives way to the expansion of the value, and
what has none stays as it is written. -/
inductive Expands (r : Row) : List Piece → List Char → Prop
  | nil : Expands r [] []
  | char {c : Char} {t : List Piece} {out : List Char} (rest : Expands r t out) :
      Expands r (.char c :: t) (c :: out)
  | unknown {name : List Char} {t : List Piece} {out : List Char}
      (undefined : ∀ v, ¬ Defines r (keyOf name) v) (rest : Expands r t out) :
      Expands r (.reference name :: t) ((Piece.reference name).write ++ out)
  | known {name : List Char} {v : String} {u t : List Piece} {value out : List Char}
      (defined : Defines r (keyOf name) v) (plain : Plain u) (reads : v = text u)
      (inner : Expands r u value) (rest : Expands r t out) :
      Expands r (.reference name :: t) (value ++ out)

section Expands
variable {r : Row} {t u : List Piece} {out out' : List Char}

theorem Expands.unique (h : Expands r t out) (h' : Expands r t out') : out = out' := by
  induction h generalizing out' with
  | nil =>
    cases h'
    rfl
  | char rest ih =>
    cases h' with
    | char rest' => rw [ih rest']
  | unknown undefined rest ih =>
    cases h' with
    | unknown _ rest' => rw [ih rest']
    | known defined => exact absurd defined (undefined _)
  | known defined plain reads inner rest ihInner ihRest =>
    cases h' with
    | unknown undefined => exact absurd defined (undefined _)
    | known defined' plain' reads' inner' rest' =>
      have texts := String.ofList_injective (reads.symm.trans ((defined.unique defined').trans reads'))
      rw [write_injective plain plain' texts] at ihInner
      rw [ihInner inner', ihRest rest']

theorem Expands.split (h : Expands r (t ++ u) out) :
    ∃ before after, out = before ++ after ∧ Expands r t before ∧ Expands r u after := by
  induction t generalizing out with
  | nil => exact ⟨[], out, rfl, .nil, h⟩
  | cons p t ih =>
    cases h with
    | char rest =>
      obtain ⟨before, after, rfl, h, h'⟩ := ih rest
      exact ⟨_ :: before, after, rfl, .char h, h'⟩
    | unknown undefined rest =>
      obtain ⟨before, after, rfl, h, h'⟩ := ih rest
      exact ⟨_ ++ before, after, (List.append_assoc ..).symm, .unknown undefined h, h'⟩
    | known defined plain reads inner rest =>
      obtain ⟨before, after, rfl, h, h'⟩ := ih rest
      exact ⟨_ ++ before, after, (List.append_assoc ..).symm,
        .known defined plain reads inner h, h'⟩

end Expands

def Piece.replaced (r : Row) : Piece → List Char
  | .char c => [c]
  | .reference name => (r.value? name).getD (Piece.reference name).write

theorem substitute_reference (value : List Char → Option (List Char)) {name : List Char}
    (plain : (Piece.reference name).Plain) (rest : List Char) :
    expressions.substitute value ((Piece.reference name).write ++ rest) =
      (value name).getD (Piece.reference name).write ++ expressions.substitute value rest :=
  Form.substitute_written value expressions_delimited
    ⟨plain.1, fun c hc => isName_of_isPlain (plain.2 c hc)⟩ rest

theorem substitute_write (r : Row) {t : List Piece} (plain : Plain t) :
    expressions.substitute r.value? (write t) = t.flatMap (Piece.replaced r) := by
  induction t with
  | nil => rfl
  | cons p t ih =>
    obtain ⟨head, tail⟩ := plain_cons.1 plain
    rw [List.flatMap_cons, ← ih tail]
    cases p with
    | char c =>
      have unmarked : expressions.mark ∉ [c] := by
        rw [List.mem_singleton]
        exact Ne.symm (ne_of_isPlain head).1
      exact Form.substitute_keep r.value? unmarked (write t)
    | reference name => exact substitute_reference r.value? head (write t)

/-- The names of a template that have a value lead to keys of a rank below. -/
def Below (r : Row) (rank : String → Nat) (n : Nat) (t : List Piece) : Prop :=
  ∀ name, .reference name ∈ t → ∀ v, Defines r (keyOf name) v → rank (keyOf name) < n

/-- Every value of a row is a plain template whose names lead to keys that have no value, or to
keys of a lower rank than its own. -/
structure Ranked (r : Row) (rank : String → Nat) : Prop where
  bounded : ∀ key v, Defines r key v → rank key ≤ 31
  plain : ∀ key v, Defines r key v → ∃ t, v = text t ∧ Plain t ∧ Below r rank (rank key) t

section Ranked
variable {r : Row} {rank : String → Nat} {n : Nat} {t u : List Piece}

theorem below_nil : Below r rank n [] := by simp [Below]

theorem below_char {c : Char} : Below r rank n (.char c :: t) ↔ Below r rank n t := by
  simp [Below]

theorem Below.tail {p : Piece} (h : Below r rank n (p :: t)) : Below r rank n t :=
  fun name mem => h name (List.mem_cons_of_mem _ mem)

theorem Below.unknown {name : List Char} (undefined : ∀ v, ¬ Defines r (keyOf name) v)
    (h : Below r rank n t) : Below r rank n (.reference name :: t) := by
  intro other mem v defined
  rcases List.mem_cons.1 mem with same | later
  · cases same
    exact absurd defined (undefined v)
  · exact h other later v defined

theorem Below.append (h : Below r rank n t) (h' : Below r rank n u) : Below r rank n (t ++ u) :=
  fun name mem => (List.mem_append.1 mem).elim (h name) (h' name)

theorem replaced_undefined (below : Below r rank 0 t) :
    t.flatMap (Piece.replaced r) = write t := by
  refine congrArg List.flatten (List.map_congr_left fun p hp => ?_)
  cases p with
  | char c => rfl
  | reference name =>
    cases h : r.value? name with
    | none => simp only [Piece.replaced, h, Option.getD_none]
    | some value =>
      obtain ⟨v, defined, _⟩ := defines_of_value? h
      exact absurd (below name hp v defined) (Nat.not_lt_zero _)

theorem expands_undefined (below : Below r rank 0 t) : Expands r t (write t) := by
  induction t with
  | nil => exact .nil
  | cons p t ih =>
    have rest := ih below.tail
    cases p with
    | char c => exact .char rest
    | reference name =>
      exact .unknown (fun v defined => Nat.not_lt_zero _ (below name (by simp) v defined)) rest

/-- A round lowers the ranks by one and keeps the expansion. -/
theorem exists_round (ranked : Ranked r rank) (plain : Plain t) (below : Below r rank (n + 1) t) :
    ∃ u, Plain u ∧ Below r rank n u ∧ write u = t.flatMap (Piece.replaced r) ∧
      ∀ out, Expands r u out → Expands r t out := by
  -- piece by piece: a round opens only references that have a value, into a template of lower rank
  induction t with
  | nil => exact ⟨[], plain, below_nil, rfl, fun _ h => h⟩
  | cons p t ih =>
    obtain ⟨head, tail⟩ := plain_cons.1 plain
    obtain ⟨u, plainRest, belowRest, written, expands⟩ := ih tail below.tail
    cases p with
    | char c =>
      refine ⟨.char c :: u, plain_cons.2 ⟨head, plainRest⟩, below_char.2 belowRest,
        congrArg (c :: ·) written, ?_⟩
      intro out h
      cases h with
      | char rest => exact .char (expands _ rest)
    | reference name =>
      cases h : r.value? name with
      | none =>
        have undefined : ∀ v, ¬ Defines r (keyOf name) v := by
          intro v defined
          rw [value?_of_defines defined] at h
          cases h
        refine ⟨.reference name :: u, plain_cons.2 ⟨head, plainRest⟩, belowRest.unknown undefined,
          ?_, ?_⟩
        · rw [List.flatMap_cons, Piece.replaced, h, ← written]
          rfl
        · intro out h
          cases h with
          | unknown _ rest => exact .unknown undefined (expands _ rest)
          | known defined => exact absurd defined (undefined _)
      | some value =>
        obtain ⟨v, defined, rfl⟩ := defines_of_value? h
        obtain ⟨inner, reads, plainInner, belowInner⟩ := ranked.plain _ v defined
        have lower : rank (keyOf name) ≤ n := Nat.le_of_lt_succ (below name (by simp) v defined)
        have belowInner' : Below r rank n inner := fun other mem w known =>
          Nat.lt_of_lt_of_le (belowInner other mem w known) lower
        refine ⟨inner ++ u, plainInner.append plainRest, belowInner'.append belowRest, ?_, ?_⟩
        · rw [List.flatMap_cons, Piece.replaced, h, write_append, written, reads, text,
            String.toList_ofList, Option.getD_some]
        · intro out whole
          obtain ⟨before, after, rfl, first, rest⟩ := whole.split
          exact .known defined plainInner reads first (expands _ rest)

end Ranked

theorem substitute_plain (r : Row) {t : List Piece} (plain : Plain t) {u : List Piece}
    (plain' : Plain u) (written : write u = t.flatMap (Piece.replaced r)) :
    r.substitute (write t) = write u := by
  rw [Row.substitute, substitute_write r plain, ← written, Form.substitute]
  exact keys.substituteFrom_of_not_mem _ _ (not_mem_write plain')

theorem settle_same {r : Row} {s : List Char} (same : r.substitute s = s) (n : Nat) :
    r.settle n s = s := by
  cases n with
  | zero => rfl
  | succ n => rw [Row.settle, if_pos same]

theorem settle_succ (r : Row) (n : Nat) (s : List Char) :
    r.settle (n + 1) s = r.settle n (r.substitute s) := by
  rw [Row.settle]
  split
  · rename_i same
    rw [same, settle_same same]
  · rfl

section Ranked
variable {r : Row} {rank : String → Nat}

/-- As many rounds as there are ranks expand a template. -/
theorem settle_expands (ranked : Ranked r rank) {n m : Nat} (enough : n ≤ m) {t : List Piece}
    (plain : Plain t) (below : Below r rank n t) : Expands r t (r.settle m (write t)) := by
  induction n generalizing m t with
  | zero =>
    have same := substitute_plain r plain plain (replaced_undefined below).symm
    rw [settle_same same]
    exact expands_undefined below
  | succ n ih =>
    obtain ⟨u, plain', below', written, expands⟩ := exists_round ranked plain below
    obtain ⟨m, rfl⟩ : ∃ k, m = k + 1 := ⟨m - 1, by omega⟩
    rw [settle_succ, substitute_plain r plain plain' written]
    exact expands _ (ih (Nat.le_of_succ_le_succ enough) plain' below')

theorem Expands.settled {t : List Piece} {out : List Char} (h : Expands r t out) (plain : Plain t) :
    ∃ u, out = write u ∧ Plain u ∧ Below r rank 0 u := by
  induction h with
  | nil => exact ⟨[], rfl, plain, below_nil⟩
  | char rest ih =>
    obtain ⟨head, tail⟩ := plain_cons.1 plain
    obtain ⟨u, rfl, plain', below⟩ := ih tail
    exact ⟨.char _ :: u, rfl, plain_cons.2 ⟨head, plain'⟩, below_char.2 below⟩
  | unknown undefined rest ih =>
    obtain ⟨head, tail⟩ := plain_cons.1 plain
    obtain ⟨u, rfl, plain', below⟩ := ih tail
    exact ⟨.reference _ :: u, rfl, plain_cons.2 ⟨head, plain'⟩, below.unknown undefined⟩
  | known defined plainInner reads inner rest ihInner ihRest =>
    obtain ⟨u, rfl, plain', below⟩ := ihInner plainInner
    obtain ⟨w, rfl, plain'', below'⟩ := ihRest (plain_cons.1 plain).2
    exact ⟨u ++ w, (write_append u w).symm, plain'.append plain'', below.append below'⟩

/-- In a row whose values are plain templates of at most 32 ranks, a plain template is bound to its
expansion, which it has, and has alone; and what is bound is bound to itself. -/
theorem bind_expands (ranked : Ranked r rank) {t : List Piece} (plain : Plain t) :
    (∀ out, r.bind (text t) = out ↔ Expands r t out.toList) ∧
      r.bind (r.bind (text t)) = r.bind (text t) := by
  have below : Below r rank Row.rounds t := fun name _ v defined =>
    Nat.lt_succ_of_le (ranked.bounded _ v defined)
  have expanded : Expands r t (r.bind (text t)).toList := by
    rw [Row.bind, text, String.toList_ofList, String.toList_ofList]
    exact settle_expands ranked (Nat.le_refl _) plain below
  constructor
  · intro out
    constructor
    · rintro rfl
      exact expanded
    · intro h
      exact String.toList_injective (expanded.unique h)
  · obtain ⟨u, written, plain', below'⟩ := @Expands.settled r rank t _ expanded plain
    have same := substitute_plain r plain' plain' (replaced_undefined below').symm
    rw [← written] at same
    rw [Row.bind, Row.bindChars, settle_same same, String.ofList_toList]

end Ranked

section Example

def letters (s : String) : List Piece := s.toList.map .char

def leading (s name : String) : List Piece := letters s ++ [.reference name.toList]

theorem plain_letters {s : String} (h : s.toList.all isPlain = true) : Plain (letters s) := by
  intro p hp
  obtain ⟨c, hc, rfl⟩ := List.mem_map.1 hp
  exact List.all_eq_true.1 h c hc

theorem plain_leading {s name : String} (h : s.toList.all isPlain = true)
    (h' : name.toList ≠ [] ∧ name.toList.all isPlain = true) : Plain (leading s name) :=
  (plain_letters h).append (List.forall_mem_singleton.2 ⟨h'.1, List.all_eq_true.1 h'.2⟩)

theorem below_leading {r : Row} {rank : String → Nat} {n : Nat} {s name : String}
    (h : rank (keyOf name.toList) < n) : Below r rank n (leading s name) := by
  intro other mem v _
  have same : other = name.toList := by simpa [leading, letters] using mem
  rw [same]
  exact h

def login : Row where
  vars := [("host", "www.${env.SITE}"), ("base", "https://${ host }"), ("missed", "${nobody}")]
  env := [("SITE", "example")]

def loginRank (key : String) : Nat :=
  match key with
  | "base" => 2
  | "host" => 1
  | "missed" => 1
  | _ => 0

theorem login_defines {key v : String} (h : Defines login key v) :
    (key = "host" ∧ v = text (leading "www." "env.SITE")) ∨
      (key = "base" ∧ v = text (leading "https://" " host ")) ∨
      (key = "missed" ∧ v = text (leading "" "nobody")) ∨
      (key = "env.SITE" ∧ v = text (letters "example")) := by
  cases h with
  | own h =>
    simp only [login, Row.get?, Assoc.get?] at h
    split at h
    · cases h
      exact .inl ⟨Eq.symm ‹_›, by decide⟩
    split at h
    · cases h
      exact .inr (.inl ⟨Eq.symm ‹_›, by decide⟩)
    split at h
    · cases h
      exact .inr (.inr (.inl ⟨Eq.symm ‹_›, by decide⟩))
    · cases h
  | property hidden h =>
    simp only [login, Assoc.get?] at h
    split at h
    · rename_i site
      cases h
      exact .inr (.inr (.inr ⟨by rw [← site]; rfl, by decide⟩))
    · cases h

theorem login_ranked : Ranked login loginRank where
  bounded := by
    intro key v defined
    rcases login_defines defined with ⟨rfl, _⟩ | ⟨rfl, _⟩ | ⟨rfl, _⟩ | ⟨rfl, _⟩ <;> decide
  plain := by
    intro key v defined
    rcases login_defines defined with ⟨rfl, rfl⟩ | ⟨rfl, rfl⟩ | ⟨rfl, rfl⟩ | ⟨rfl, rfl⟩
    · exact ⟨_, rfl, plain_leading (by decide) (by decide), below_leading (by decide)⟩
    · exact ⟨_, rfl, plain_leading (by decide) (by decide), below_leading (by decide)⟩
    · exact ⟨_, rfl, plain_leading (by decide) (by decide), below_leading (by decide)⟩
    · exact ⟨_, rfl, plain_letters (by decide), by simp [Below, letters]⟩

/-- The lowest value is reached through two others, and a name without a value stays. -/
theorem login_bound :
    let opening := leading "open " "base" ++ leading " not " "missed"
    Ranked login loginRank ∧ Plain opening ∧
      Expands login opening "open https://www.example not ${nobody}".toList ∧
      login.bind (login.bind (text opening)) = login.bind (text opening) := by
  intro opening
  have plain : Plain opening :=
    (plain_leading (by decide) (by decide)).append (plain_leading (by decide) (by decide))
  obtain ⟨bound, settled⟩ := bind_expands login_ranked plain
  exact ⟨login_ranked, plain, (bound _).1 (by decide +kernel), settled⟩

end Example

end Scenario.Expansion
