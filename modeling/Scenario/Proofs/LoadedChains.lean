import Mathlib.Data.List.Forall2
import Scenario.Loading

/-!
# Rosters

Which cases stand in the chain of a case that is loaded. Each entry of a list
brings one case, in the order of the entries and under a new name where it could
be taken for an earlier one. A suite is given the cases of its scripts, but if it
has chained entries too these take the place of its scripts, which are loaded in
vain.
-/

set_option autoImplicit false

namespace Scenario.Loading
open Scenario.Document

section Entries
variable (load : String → Except Trouble Case) (dir : String) (shares : Bool)

/-- A case that an entry brings. -/
inductive Brings : Entry → Case → Prop
  | script {e : ScriptEntry} {c : Case} (read : scriptCase load dir shares e = .ok c) :
      Brings (.script e) c
  | chain {entries : List Entry} {cases : List Case} (takesOver : Bool) (skip : Option String)
      (each : List.Forall₂ Brings entries cases) :
      Brings (.chain entries takesOver skip)
        { Case.suite { name := "chain", dir } cases takesOver with skip := skip.getD "false" }
  | renamed {e : Entry} {c : Case} (as : Brings e c) (name : String) :
      Brings e (c.settled.named name)

variable {load dir shares}

theorem append_last (chain : List Case) (c : Case) :
    ∃ d, Case.append chain c = chain ++ [d] ∧ (d = c ∨ ∃ name, d = c.settled.named name) := by
  rw [Case.append]
  split
  · exact ⟨_, rfl, .inr ⟨_, rfl⟩⟩
  · exact ⟨c, rfl, .inl rfl⟩

mutual
theorem entryCase_brings : ∀ {e : Entry} {c : Case},
    entryCase load dir shares e = .ok c → Brings load dir shares e c
  | .chain entries takesOver skip, c, h => by
    rw [entryCase] at h
    split at h
    next cases listed =>
      obtain ⟨added, same, each⟩ := chainFrom_brings listed
      cases h
      rw [List.nil_append] at same
      subst same
      exact .chain takesOver skip each
    next => cases h
  | .script e, c, h => by
    rw [entryCase] at h
    exact .script h
theorem chainFrom_brings : ∀ {entries : List Entry} {chain cases : List Case},
    chainFrom load dir shares entries chain = .ok cases →
      ∃ added, cases = chain ++ added ∧ List.Forall₂ (Brings load dir shares) entries added
  | [], chain, cases, h => by
    rw [chainFrom] at h
    cases h
    exact ⟨[], (List.append_nil _).symm, .nil⟩
  | e :: entries, chain, cases, h => by
    rw [chainFrom] at h
    split at h
    next c read =>
      have brought := entryCase_brings read
      obtain ⟨d, placed, named⟩ := append_last chain c
      obtain ⟨added, rfl, each⟩ := chainFrom_brings h
      have first : Brings load dir shares e d := by
        rcases named with rfl | ⟨name, rfl⟩
        · exact brought
        · exact brought.renamed name
      exact ⟨d :: added, by rw [placed, List.append_assoc]; rfl, .cons first each⟩
    next => cases h
end

end Entries

variable {load : String → Except Trouble Case} {α β : Type}

theorem of_bind {x : Except Trouble α} {f : α → Except Trouble β} {b : β}
    (h : (x >>= f) = .ok b) : ∃ a, x = .ok a ∧ f a = .ok b := by
  cases x with
  | ok a => exact ⟨a, rfl, h⟩
  | error t => cases h

theorem of_unless {x : Except Trouble α} {b : Bool} {c r : Case} {put : α → Case}
    {rest : Case → Except Trouble Case}
    (h : (if b = true then (Except.ok c : Except Trouble Case) >>= rest
      else x >>= fun a => (Except.ok (put a) : Except Trouble Case) >>= rest) = .ok r) :
    (b = true ∧ rest c = .ok r) ∨ (b = false ∧ ∃ a, x = .ok a ∧ rest (put a) = .ok r) := by
  cases b with
  | true => exact .inl ⟨rfl, h⟩
  | false => exact .inr ⟨rfl, of_bind h⟩

/-- The chain of a suite comes from its chained entries if there are any, and otherwise from its
scripts; no other part of the document touches it. -/
theorem chain_of_build {d : ScriptDocument} {script : Script} {c : Case} (suite : d.kind = "suite")
    (h : build load d script = .ok c) :
    ∃ listed, chainFrom load script.dir (d.sharesState.getD true) d.scripts [] = .ok listed ∧
      ((d.chains = [] ∧ c.chain = listed) ∨
        (d.chains ≠ [] ∧ chainFrom load script.dir false d.chains [] = .ok c.chain)) := by
  unfold build at h
  -- The parts of a document in the order of their text, each going on with the one named before.
  extract_lets script' dir settle exclude include' attach at h
  have same : dir = script.dir := by
    unfold dir script'
    split <;> rfl
  have excluded : ∀ b, exclude b = .ok c → c.chain = b.chain := by
    intro b h
    rcases of_unless h with ⟨_, h⟩ | ⟨_, _, _, h⟩ <;> (cases h; rfl)
  have included : ∀ b, include' b = .ok c → c.chain = b.chain := by
    intro b h
    rcases of_unless h with ⟨_, h⟩ | ⟨_, _, _, h⟩
    all_goals
      have kept := excluded _ h
      exact kept
  have attached : ∀ b, attach b = .ok c →
      (d.chains = [] ∧ c.chain = b.chain) ∨
        (d.chains ≠ [] ∧ chainFrom load dir false d.chains [] = .ok c.chain) := by
    intro b h
    obtain ⟨aspect, _, h⟩ := of_bind h
    rcases of_unless h with ⟨none, h⟩ | ⟨some, chain, read, h⟩
    · refine .inl ⟨List.isEmpty_iff.1 none, ?_⟩
      rw [included _ h]
      cases d.source <;> rfl
    · refine .inr ⟨fun none => ?_, ?_⟩
      · rw [none] at some
        cases some
      · rw [included _ h]
        exact read
  have other : d.kind ≠ "script" := by
    rw [suite]
    decide
  rw [if_neg other, if_pos suite] at h
  obtain ⟨listed, read, h⟩ := of_bind h
  rw [← same]
  exact ⟨listed, read, attached _ h⟩

/-- Each script of a suite that loads brings a case. If the suite has no chained entries these
cases are its chain; otherwise its chain is the cases that the chained entries bring. -/
theorem suite_chain {d : ScriptDocument} {script : Script} {c : Case} (suite : d.kind = "suite")
    (loads : build load d script = .ok c) :
    ∃ listed,
      List.Forall₂ (Brings load script.dir (d.sharesState.getD true)) d.scripts listed ∧
      (d.chains = [] → c.chain = listed) ∧
      (d.chains ≠ [] → List.Forall₂ (Brings load script.dir false) d.chains c.chain) := by
  obtain ⟨listed, read, chain⟩ := chain_of_build suite loads
  obtain ⟨_, rfl, each⟩ := chainFrom_brings read
  refine ⟨_, each, ?_, ?_⟩
  · intro none
    rcases chain with ⟨_, same⟩ | ⟨some, _⟩
    · exact same
    · exact absurd none some
  · intro some
    rcases chain with ⟨none, _⟩ | ⟨_, read⟩
    · exact absurd none some
    · obtain ⟨_, same, each⟩ := chainFrom_brings read
      rw [same]
      exact each

def entryOf (path : String) : Entry :=
  .script
    { path
      skip := none
      source := none
      nestedChain := false
      waitsForLast := false
      sharesState := none }

def pair (chains : List Entry) : ScriptDocument where
  kind := "suite"
  name := none
  steps := []
  source := none
  aspect := []
  chains
  scripts := [entryOf "a.json", entryOf "b.json"]
  sharesState := none
  takesOver := false
  included := []
  excluded := []

def blank (path : String) : Except Trouble Case := .ok { script := .ofPath path }

theorem pair_chain :
    ∃ c, build blank (pair []) { name := "pair" } = .ok c ∧
      List.Forall₂ (Brings blank "" true) [entryOf "a.json", entryOf "b.json"] c.chain := by
  have loads : ∃ c, build blank (pair []) { name := "pair" } = .ok c := ⟨_, rfl⟩
  obtain ⟨c, loads⟩ := loads
  obtain ⟨listed, each, chain, _⟩ := suite_chain rfl loads
  refine ⟨c, loads, ?_⟩
  rw [chain rfl]
  exact each

/-- With one chained entry the chain is that entry's case, and the two scripts are left out. -/
theorem pair_displaced :
    ∃ c, build blank (pair [entryOf "c.json"]) { name := "pair" } = .ok c ∧
      c.chain.map Case.name = ["c"] ∧
      c.chain.length ≠ (pair [entryOf "c.json"]).scripts.length :=
  ⟨_, rfl, by decide +kernel, by decide +kernel⟩

end Scenario.Loading
