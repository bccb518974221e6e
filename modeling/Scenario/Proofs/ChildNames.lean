import Mathlib.Data.List.Induction
import Mathlib.Data.List.Nodup
import Mathlib.Data.List.Perm.Subperm
import Scenario.Case

/-!
# Children of a chain

Children that could be taken for one another are told apart by their names. A case
that comes to a chain in which another one could be taken for it is given a number,
the first of 1, 2, 3 and so on under which its name belongs to no child. However
children are called, a number is found before more of them were tried than there are
children and one.
-/

set_option autoImplicit false

namespace Scenario
open Scenario.Text

namespace Case

def Unused (chain : List Case) (name : String) : Prop := ∀ c ∈ chain, c.name ≠ name

/-- Numbers are tried one after the other, from one number to the first that gives the name a
form that no child has. -/
inductive Search (chain : List Case) (name : String) : Nat → Nat → Prop
  | found {n : Nat} (unused : Unused chain (suffixed name n)) : Search chain name n n
  | taken {n m : Nat} {c : Case} (member : c ∈ chain) (has : c.name = suffixed name n)
      (rest : Search chain name (n + 1) m) : Search chain name n m

section Search
variable {chain : List Case} {name : String} {n m : Nat}

theorem suffixed_injective (name : String) : Function.Injective (suffixed name) := by
  intro n m h
  apply natDigits_injective
  simpa [suffixed, natText, String.toList_append] using congrArg String.toList h

theorem Search.unused (h : Search chain name n m) : Unused chain (suffixed name m) := by
  induction h with
  | found unused => exact unused
  | taken _ _ _ ih => exact ih

theorem search_of_find? {left : Nat} {found : String}
    (h : ((List.range' n left).map (suffixed name)).find?
      (fun m => chain.all fun c => c.name != m) = some found) :
    ∃ m < n + left, Search chain name n m ∧ found = suffixed name m := by
  induction left generalizing n with
  | zero => simp at h
  | succ left ih =>
    rw [List.range'_succ, List.map_cons, List.find?_cons] at h
    split at h
    next free =>
      refine ⟨n, by omega, .found ?_, (Option.some.inj h).symm⟩
      simpa [Unused] using free
    next used =>
      obtain ⟨c, member, has⟩ : ∃ c ∈ chain, c.name = suffixed name n := by simpa using used
      obtain ⟨m, below, rest, rfl⟩ := ih h
      exact ⟨m, by omega, .taken member has rest, rfl⟩

/-- There are more candidates than children, so that one of them is left. -/
theorem exists_unused (chain : List Case) (name : String) :
    ∃ n ∈ List.range' 1 (chain.length + 1), Unused chain (suffixed name n) := by
  by_contra none
  have taken : (List.range' 1 (chain.length + 1)).map (suffixed name) ⊆ chain.map Case.name := by
    intro candidate listed
    obtain ⟨n, member, rfl⟩ := List.mem_map.1 listed
    simpa [Unused] using fun unused => none ⟨n, member, unused⟩
  have apart : ((List.range' 1 (chain.length + 1)).map (suffixed name)).Nodup :=
    List.Nodup.map (suffixed_injective name) List.nodup_range'
  have fewer := (List.subperm_of_subset apart taken).length_le
  simp only [List.length_map, List.length_range'] at fewer
  omega

theorem freshName_search (chain : List Case) (name : String) :
    ∃ n ≤ chain.length + 1, Search chain name 1 n ∧ freshName chain name = suffixed name n := by
  obtain ⟨k, listed, unused⟩ := exists_unused chain name
  have candidates : (List.range (chain.length + 1)).map (fun n => suffixed name (n + 1)) =
      (List.range' 1 (chain.length + 1)).map (suffixed name) := by
    rw [List.range'_eq_map_range, List.map_map]
    exact List.map_congr_left fun n _ => congrArg (suffixed name) (Nat.add_comm n 1)
  rw [freshName, candidates]
  cases search : ((List.range' 1 (chain.length + 1)).map (suffixed name)).find?
      (fun m => chain.all fun c => c.name != m) with
  | none =>
    have used := List.find?_eq_none.1 search (suffixed name k) (List.mem_map.2 ⟨k, listed, rfl⟩)
    exact absurd unused (by simpa [Unused] using used)
  | some found =>
    obtain ⟨n, below, searched, rfl⟩ := search_of_find? search
    exact ⟨n, by omega, searched, rfl⟩

end Search

/-- Nothing tells two children apart: they have the same path, or both have none, and the same
name. -/
def Twins (c d : Case) : Prop :=
  (match c.script.path, d.script.path with
    | some p, some q => Path.same p q = true
    | none, none => True
    | _, _ => False) ∧ c.name = d.name

/-- How a case comes to stand in a chain. -/
structure Joins (chain : List Case) (c d : Case) : Prop where
  last : append chain c = chain ++ [d]
  kept : d = c.named d.name
  renamed : (∃ e ∈ chain, e.script.same c.script = true) →
    ∃ n ≤ chain.length + 1, Search chain c.name 1 n ∧ d.name = suffixed c.name n
  unrenamed : (∀ e ∈ chain, e.script.same c.script = false) → d = c

section Joins
variable {chain : List Case} {c d : Case}

theorem Twins.same (h : Twins c d) : c.script.same d.script = true := by
  obtain ⟨path, name⟩ := h
  rw [Script.same]
  split
  next p q hp hq =>
    rw [hp, hq] at path
    exact path
  next => exact beq_iff_eq.2 name
  next other none =>
    split at path
    next p q hp hq => exact absurd hq (other p q hp)
    next hp hq => exact absurd hq (none hp)
    next => exact path.elim

theorem named_name (c : Case) : c.named c.name = c := by
  cases c
  rfl

theorem append_joins (chain : List Case) (settled : c.settled = c) : ∃ d, Joins chain c d := by
  by_cases alike : ∃ e ∈ chain, e.script.same c.script = true
  · refine ⟨c.named (freshName chain c.name), ?_, rfl, fun _ => freshName_search chain c.name, ?_⟩
    · rw [append, if_pos (List.any_eq_true.2 alike), settled]
    · obtain ⟨e, member, same⟩ := alike
      intro unlike
      rw [unlike e member] at same
      cases same
  · refine ⟨c, ?_, c.named_name.symm, fun h => absurd h alike, fun _ => rfl⟩
    rw [append, if_neg (fun h => alike (List.any_eq_true.1 h))]

/-- A case that joined has a name of its own among the children with its path. -/
theorem Joins.apart (h : Joins chain c d) : ∀ e ∈ chain, ¬ Twins e d := by
  intro e member twins
  by_cases alike : ∃ e ∈ chain, e.script.same c.script = true
  · obtain ⟨n, _, search, name⟩ := h.renamed alike
    exact search.unused e member (twins.2.trans name)
  · have same := h.unrenamed fun x hx => by simpa using fun found => alike ⟨x, hx, found⟩
    exact alike ⟨e, member, same ▸ twins.same⟩

end Joins

/-- Cases stand in a chain as children that can be told apart. -/
structure Siblings (cases chain : List Case) : Prop where
  /-- The cases are there in their order, and only their names may differ. -/
  kept : List.Forall₂ (fun c d => d = c.named d.name) cases chain
  apart : chain.Pairwise fun c d => ¬ Twins c d
  pathless : ((chain.filter fun c => c.script.path.isNone).map Case.name).Nodup

theorem pathless_nodup {chain : List Case} (apart : chain.Pairwise fun c d => ¬ Twins c d) :
    ((chain.filter fun c => c.script.path.isNone).map Case.name).Nodup := by
  rw [List.Nodup, List.pairwise_map, List.pairwise_filter]
  refine apart.imp fun {c d} unlike hc hd same => unlike ⟨?_, same⟩
  rw [Option.isNone_iff_eq_none] at hc hd
  rw [hc, hd]
  trivial

theorem Siblings.join {cases chain : List Case} {c d : Case} (h : Siblings cases chain)
    (joins : Joins chain c d) : Siblings (cases ++ [c]) (append chain c) := by
  rw [joins.last]
  have apart : (chain ++ [d]).Pairwise fun c d => ¬ Twins c d := by
    rw [List.pairwise_append]
    refine ⟨h.apart, List.pairwise_singleton _ _, fun e member x hx => ?_⟩
    rw [List.mem_singleton.1 hx]
    exact joins.apart e member
  refine ⟨?_, apart, pathless_nodup apart⟩
  exact List.rel_append h.kept (.cons joins.kept .nil)

/-- However cases are called that are appended to a chain one after the other, the search for the
name of each of them ends, and they stand in the chain as children that can be told apart. Cases
come settled from where they are built. -/
theorem children_distinguishable (cases : List Case) (settled : ∀ c ∈ cases, c.settled = c) :
    (∀ chain, ∀ c ∈ cases, ∃ d, Joins chain c d) ∧ Siblings cases (cases.foldl append []) := by
  have joins : ∀ chain, ∀ c ∈ cases, ∃ d, Joins chain c d :=
    fun chain c member => append_joins chain (settled c member)
  refine ⟨joins, ?_⟩
  induction cases using List.reverseRecOn with
  | nil => exact ⟨.nil, .nil, List.nodup_nil⟩
  | append_singleton front c ih =>
    rw [List.foldl_append]
    have before := ih (fun x hx => settled x (List.mem_append_left _ hx))
      fun chain x hx => joins chain x (List.mem_append_left _ hx)
    obtain ⟨d, last⟩ := joins (front.foldl append []) c (by simp)
    exact before.join last

section Example

def child (name : String) (path : Option String) : Case := { script := { name, path } }

def imitators : List Case :=
  [child "x(1)" none, child "x" none, child "x" none, child "x" (some "a/x.json"),
    child "x(2)" (some "a//x.json"), child "x(1)" none]

theorem imitators_distinguishable :
    (∀ c ∈ imitators, c.settled = c) ∧
      (∀ chain, ∀ c ∈ imitators, ∃ d, Joins chain c d) ∧
        Siblings imitators (imitators.foldl append []) := by
  have settled : ∀ c ∈ imitators, c.settled = c := by simp [imitators, child, Case.settled]
  exact ⟨settled, children_distinguishable imitators settled⟩

example : (imitators.foldl append []).map Case.name =
    ["x(1)", "x", "x(2)", "x", "x(2)(1)", "x(1)(1)"] := by decide +kernel

end Example

end Case

end Scenario
