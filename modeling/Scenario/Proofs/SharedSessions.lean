import Mathlib.Logic.ExistsUnique
import Scenario.Proofs.BrowserQuits

/-!
# Handles to sessions

A session is handed on by clones of its handle, and a fresh handle opens a session of its
own. Whatever is done with handles, and whichever launches and quits fail, those
that are clones of one another stand for one browser, which is the one that was
launched for them last as long as nobody quit it, and no handle has a part in the
session of another group.
-/

set_option autoImplicit false

namespace Scenario

variable {σ : Type} {stage : Stage σ}

namespace World

/-- The browser that is made for a session: one was asked for, and the session answers with it. -/
def made? (stage : Stage σ) (w : World σ) (s : Session) : Option Nat :=
  match w.driver stage s with
  | (.ok d, w') => if .launch stage.driverConfig ∈ since w w' then some d else none
  | (.error _, _) => none

inductive Asked (stage : Stage σ) (w : World σ) (s : Session) :
    Except Fault Nat × World σ → Option Nat → Prop where
  | active (d : Nat) (has : w.driver? s = some d) : Asked stage w s (.ok d, w) none
  | launched (b : σ) (idle : w.driver? s = none) :
      Asked stage w s
        (.ok (w.launched + 1),
          { w.record (.launch stage.driverConfig) with
            browser := b
            launched := w.launched + 1
            slots := w.slots.set s.slot (some (w.launched + 1)) })
        (some (w.launched + 1))
  | failed (t : Trouble) (b : σ) (idle : w.driver? s = none) :
      Asked stage w s
        (.error (.driver t), { w.record (.launch stage.driverConfig) with browser := b }) none

theorem asked (stage : Stage σ) (w : World σ) (s : Session) :
    Asked stage w s (w.driver stage s) (w.made? stage s) := by
  cases has : w.driver? s with
  | some d =>
    have answers : w.driver stage s = (.ok d, w) := by simp only [driver, has]
    have idle : w.made? stage s = none := by simp [made?, answers, since]
    rw [idle, answers]
    exact .active d has
  | none =>
    cases made : stage.browsers.launch stage.driverConfig w.browser with
    | mk result b =>
      cases result with
      | ok u =>
        have answers : w.driver stage s = (.ok (w.launched + 1),
            { w.record (.launch stage.driverConfig) with
              browser := b
              launched := w.launched + 1
              slots := w.slots.set s.slot (some (w.launched + 1)) }) := by
          simp only [driver, has, record, made]
        have one : w.made? stage s = some (w.launched + 1) := by
          simp [made?, answers, since, record]
        rw [one, answers]
        exact .launched b has
      | error t =>
        have answers : w.driver stage s =
            (.error (.driver t), { w.record (.launch stage.driverConfig) with browser := b }) := by
          simp only [driver, has, record, made]
        have idle : w.made? stage s = none := by simp [made?, answers]
        rw [idle, answers]
        exact .failed t b has

end World

namespace Sharing
open World

/-- What can be done with a growing list of handles. -/
inductive Op where
  | clone (i : Nat)
  | fresh (i : Nat)
  | driver (i : Nat)
  | quit (i : Nat)
  deriving DecidableEq, Repr

def Op.handle : Op → Nat
  | .clone i => i
  | .fresh i => i
  | .driver i => i
  | .quit i => i

/-- Handles in the order in which they came. Each is noted with the number of its group, and each
browser with the group for which it was made. -/
structure Handles (σ : Type) where
  world : World σ
  members : List (Session × Nat) := []
  groups : Nat := 0
  made : List (Nat × Nat) := []

namespace Handles

def opened (h : Handles σ) : Handles σ :=
  let (s, world) := h.world.newSession
  { h with world, members := h.members ++ [(s, h.groups)], groups := h.groups + 1 }

/-- An operation on a handle that does not exist changes nothing. -/
def apply (stage : Stage σ) (h : Handles σ) (op : Op) : Handles σ :=
  match h.members[op.handle]? with
  | none => h
  | some (s, g) =>
    match op with
    | .clone _ => { h with members := h.members ++ [(s, g)] }
    | .fresh _ => h.opened
    | .driver _ =>
      { h with
        world := (h.world.driver stage s).2
        made := ((h.world.made? stage s).map fun d => (g, d)).toList ++ h.made }
    | .quit _ => { h with world := h.world.quit stage s }

/-- What becomes of one handle to a session in a world without browsers. -/
def of (stage : Stage σ) (b : σ) (ops : List Op) : Handles σ :=
  ops.foldl (apply stage) (opened { world := { browser := b } })

/-- The browser was made for the group, and nobody told it to quit. -/
def Live (h : Handles σ) (g d : Nat) : Prop :=
  (g, d) ∈ h.made ∧ .command d .quit ∉ h.world.trace

/-- The operation asks for the browser of the group, or tells it to quit. -/
def Concerns (h : Handles σ) (op : Op) (g : Nat) : Prop :=
  ∃ i s, (op = .driver i ∨ op = .quit i) ∧ h.members[i]? = some (s, g)

end Handles

structure Kept (b : σ) (h : Handles σ) : Prop where
  ledger : Ledger { browser := b } h.world
  groups : h.groups = h.world.slots.length
  member : ∀ m ∈ h.members, m.1.slot = m.2 ∧ m.2 < h.groups
  holds : ∀ {g d}, h.world.slots[g]? = some (some d) → (g, d) ∈ h.made
  single : ∀ {g g' d}, (g, d) ∈ h.made → (g', d) ∈ h.made → g = g'
  launched : ∀ {g d}, (g, d) ∈ h.made → 0 < d ∧ d ≤ h.world.launched

section Kept
variable {b : σ} {h : Handles σ} {s : Session} {g d : Nat}

theorem Kept.slot (kept : Kept b h) (member : (s, g) ∈ h.members) :
    s = ⟨g⟩ ∧ g < h.world.slots.length := by
  obtain ⟨same, inside⟩ := kept.member _ member
  cases s
  exact ⟨congrArg Session.mk same, kept.groups ▸ inside⟩

theorem Kept.opened (kept : Kept b h) : Kept b h.opened where
  ledger := ledger_newSession kept.ledger
  groups := by simp [Handles.opened, newSession, kept.groups]
  member := by
    intro m member
    rcases List.mem_append.1 member with old | new
    · exact ⟨(kept.member m old).1, Nat.lt_succ_of_lt (kept.member m old).2⟩
    · rw [List.mem_singleton.1 new]
      exact ⟨kept.groups.symm, Nat.lt_succ_self _⟩
  holds := fun held => kept.holds (getElem?_append_none.1 held)
  single := kept.single
  launched := kept.launched

theorem Kept.clone (kept : Kept b h) (member : (s, g) ∈ h.members) :
    Kept b { h with members := h.members ++ [(s, g)] } where
  ledger := kept.ledger
  groups := kept.groups
  member := by
    intro m hm
    rcases List.mem_append.1 hm with old | new
    · exact kept.member m old
    · rw [List.mem_singleton.1 new]
      exact kept.member _ member
  holds := kept.holds
  single := kept.single
  launched := kept.launched

theorem Kept.driver (kept : Kept b h) (member : (s, g) ∈ h.members) :
    Kept b { h with
      world := (h.world.driver stage s).2
      made := ((h.world.made? stage s).map fun d => (g, d)).toList ++ h.made } := by
  obtain ⟨here, inside⟩ := kept.slot member
  have ledger : Ledger { browser := b } (h.world.driver stage s).2 :=
    ledger_driver kept.ledger (Nat.zero_le _) (by rw [here]; exact inside)
  have groups : h.groups = (h.world.driver stage s).2.slots.length :=
    kept.groups.trans (driver_slots h.world s).symm
  have asked := asked stage h.world s
  generalize h.world.driver stage s = answer at asked ledger groups ⊢
  generalize h.world.made? stage s = made at asked ⊢
  cases asked with
  | active d has => exact ⟨ledger, groups, kept.member, kept.holds, kept.single, kept.launched⟩
  | failed t b idle => exact ⟨ledger, groups, kept.member, kept.holds, kept.single, kept.launched⟩
  | launched c idle =>
    -- the number of the browser is above those that were given before it
    have new : ∀ g', (g', h.world.launched + 1) ∉ h.made := fun g' old =>
      Nat.not_succ_le_self _ (kept.launched old).2
    refine ⟨ledger, groups, kept.member, ?_, ?_, ?_⟩
    · intro g' d held
      rw [here] at held
      by_cases same : g = g'
      · subst same
        rw [List.getElem?_set_self inside] at held
        cases held
        exact List.mem_cons_self
      · rw [List.getElem?_set_ne same] at held
        exact List.mem_cons_of_mem _ (kept.holds held)
    · intro g' g'' d made made'
      rcases List.mem_cons.1 made with first | old
      · cases first
        rcases List.mem_cons.1 made' with first | old
        · cases first
          rfl
        · exact absurd old (new g'')
      · rcases List.mem_cons.1 made' with first | old'
        · cases first
          exact absurd old (new g')
        · exact kept.single old old'
    · intro g' d made
      rcases List.mem_cons.1 made with first | old
      · cases first
        exact ⟨Nat.succ_pos _, Nat.le_refl _⟩
      · exact ⟨(kept.launched old).1, Nat.le_succ_of_le (kept.launched old).2⟩

theorem quit_launched (w : World σ) (s : Session) :
    (w.quit stage s).launched = w.launched := by
  simp only [quit]
  split <;> rfl

theorem Kept.quit (kept : Kept b h) (s : Session) :
    Kept b { h with world := h.world.quit stage s } where
  ledger := ledger_quit kept.ledger (Nat.zero_le _)
  groups := kept.groups.trans (quit_slots h.world s).symm
  member := kept.member
  holds := by
    intro g d held
    have before : h.world.driver? ⟨g⟩ = some d := by
      by_cases other : Session.mk g = s
      · subst other
        have emptied : (h.world.quit stage ⟨g⟩).driver? ⟨g⟩ = none := quit_driver? h.world ⟨g⟩
        rw [driver?_eq_some.2 held] at emptied
        cases emptied
      · have spared : (h.world.quit stage s).driver? ⟨g⟩ = h.world.driver? ⟨g⟩ :=
          quit_spares h.world s ⟨g⟩ other
        exact spared.symm.trans (driver?_eq_some.2 held)
    exact kept.holds (driver?_eq_some.1 before)
  single := kept.single
  launched := by
    rw [quit_launched]
    exact kept.launched

theorem Kept.apply (kept : Kept b h) (op : Op) : Kept b (h.apply stage op) := by
  cases here : h.members[op.handle]? with
  | none =>
    simp only [Handles.apply, here]
    exact kept
  | some m =>
    obtain ⟨s, g⟩ := m
    have member : (s, g) ∈ h.members := List.mem_of_getElem? here
    simp only [Handles.apply, here]
    cases op with
    | clone i => exact kept.clone member
    | fresh i => exact kept.opened
    | driver i => exact kept.driver member
    | quit i => exact kept.quit s

theorem Kept.run (kept : Kept b h) (ops : List Op) :
    Kept b (ops.foldl (Handles.apply stage) h) := by
  induction ops generalizing h with
  | nil => exact kept
  | cons op ops ih => exact ih (kept.apply op)

theorem kept_of (stage : Stage σ) (b : σ) (ops : List Op) : Kept b (Handles.of stage b ops) := by
  have bare : Kept b { world := { browser := b } } := by
    refine ⟨⟨[], rfl, Books.start _⟩, rfl, ?_, ?_, ?_, ?_⟩
    · exact fun m none => absurd none List.not_mem_nil
    · exact fun held => absurd held (by simp)
    · exact fun none => absurd none List.not_mem_nil
    · exact fun none => absurd none List.not_mem_nil
  exact bare.opened.run ops

/-- The browser in the session of a group is the one that lives for it. -/
theorem Kept.driver?_iff (kept : Kept b h) (member : (s, g) ∈ h.members) :
    h.world.driver? s = some d ↔ h.Live g d := by
  obtain ⟨here, inside⟩ := kept.slot member
  obtain ⟨l, trace, books⟩ := kept.ledger
  have all : h.world.trace = l := trace.trans (List.append_nil l)
  rw [driver?_eq_some, here, Handles.Live, all]
  constructor
  · intro held
    exact ⟨kept.holds held, (books.live (Nat.zero_le _) held).2.2⟩
  · rintro ⟨made, open_⟩
    obtain ⟨lo, hi⟩ := kept.launched made
    rcases books.settled lo hi with ⟨k, -, held⟩ | quit
    · rwa [kept.single made (kept.holds held)]
    · exact absurd (List.count_pos_iff.1 (by rw [quit]; exact Nat.one_pos)) open_

theorem Kept.isActive_iff (kept : Kept b h) (member : (s, g) ∈ h.members) :
    h.world.isActive s = true ↔ ∃! d, h.Live g d := by
  rw [isActive, Option.isSome_iff_exists]
  constructor
  · rintro ⟨d, has⟩
    refine ⟨d, (kept.driver?_iff member).1 has, fun d' live => ?_⟩
    have has' := (kept.driver?_iff member).2 live
    rw [has] at has'
    exact (Option.some.inj has').symm
  · rintro ⟨d, live, -⟩
    exact ⟨d, (kept.driver?_iff member).2 live⟩

/-- What is done with the handles of other groups leaves a session as it is. -/
theorem Kept.apart (kept : Kept b h) (member : (s, g) ∈ h.members) {op : Op}
    (apart : ¬ h.Concerns op g) :
    (h.apply stage op).world.driver? s = h.world.driver? s := by
  cases here : h.members[op.handle]? with
  | none => simp only [Handles.apply, here]
  | some m =>
    obtain ⟨s', g'⟩ := m
    simp only [Handles.apply, here]
    have other : op = .driver op.handle ∨ op = .quit op.handle → s ≠ s' := by
      rintro touches rfl
      have slot' : s.slot = g' := (kept.member _ (List.mem_of_getElem? here)).1
      have slot : s.slot = g := (kept.member _ member).1
      cases slot.symm.trans slot'
      exact apart ⟨op.handle, s, touches, here⟩
    cases op with
    | clone i => rfl
    | fresh i => exact newSession_spares h.world (fun _ => False) s not_false
    | driver i => exact driver_spares h.world s' s (other (.inl rfl))
    | quit i => exact quit_spares h.world s' s (other (.inr rfl))

theorem Kept.quit_count_le (kept : Kept b h) (d : Nat) :
    h.world.trace.count (.command d .quit) ≤ 1 := by
  obtain ⟨l, trace, books⟩ := kept.ledger
  rw [trace, List.append_nil]
  by_cases told : .command d .quit ∈ l
  · obtain ⟨lo, hi⟩ := books.known told
    rcases books.settled lo hi with ⟨k, -, held⟩ | once
    · exact absurd told (books.live (Nat.zero_le k) held).2.2
    · exact Nat.le_of_eq once
  · rw [List.count_eq_zero_of_not_mem told]
    exact Nat.zero_le 1

end Kept

theorem handles_keep_apply {F : World σ → Prop} (inv : Invariant stage F) {h : Handles σ} (op : Op)
    (hw : F h.world) : F (h.apply stage op).world := by
  rw [Handles.apply]
  split
  · exact hw
  · cases op with
    | clone i => exact hw
    | fresh i => exact inv.newSession hw
    | driver i => exact inv.driver _ hw
    | quit i => exact inv.quit _ hw

/-- What every operation of the world keeps is kept by operations on handles. -/
theorem handles_keep {F : World σ → Prop} (inv : Invariant stage F) {b : σ} (ops : List Op)
    (begin : F { browser := b }) : F (Handles.of stage b ops).world :=
  List.foldlRecOn (motive := fun h : Handles σ => F h.world) ops _ (inv.newSession begin)
    fun _ hw op _ => handles_keep_apply inv op hw

/-- The launches and commands on record are the calls that the browser got, and as many browsers
were made as numbers were given. -/
theorem handles_calls {b : Browser σ} {stage : Stage (Logged σ)}
    (logged : stage.browsers = b.logging) (s : Logged σ) (ops : List Op) :
    let h := Handles.of stage s ops
    h.world.browser.calls = calls h.world.trace ++ s.calls ∧
      h.world.browser.made = s.made + h.world.launched := by
  have faithful := invariant_faithful logged { browser := s }
  obtain ⟨l, trace, asked, made⟩ := handles_keep faithful ops ⟨[], rfl, rfl, rfl⟩
  intro h
  have all : h.world.trace = l := trace.trans (List.append_nil l)
  rw [all]
  exact ⟨asked, made⟩

/-- Whatever is done with handles, and however the browsers answer: handles of one group are active
together, and only what is done with a handle of its group changes the browser of a session. A
group is active if and only if there is one browser that was made for it and not told to quit, and
the session answers with that one, unchanged and without a launch. No browser is told to quit
twice, a launch that fails leaves every session as it was, and a session is inactive after a quit
even if its browser failed to quit. -/
theorem handles_share_sessions (stage : Stage σ) (b : σ) (ops : List Op) :
    let h := Handles.of stage b ops
    (∀ s s' g, (s, g) ∈ h.members → (s', g) ∈ h.members →
      h.world.isActive s = h.world.isActive s') ∧
    (∀ op g, ¬ h.Concerns op g → ∀ s, (s, g) ∈ h.members →
      (h.apply stage op).world.driver? s = h.world.driver? s) ∧
    (∀ s g, (s, g) ∈ h.members →
      (h.world.isActive s = true ↔ ∃! d, h.Live g d) ∧
      (∀ d, h.Live g d → h.world.driver stage s = (.ok d, h.world)) ∧
      (h.world.quit stage s).isActive s = false) ∧
    (∀ d, h.world.trace.count (.command d .quit) ≤ 1) ∧
    ∀ s t, (h.world.driver stage s).1 = .error t →
      ∀ s', (h.world.driver stage s).2.isActive s' = h.world.isActive s' := by
  intro h
  have kept : Kept b h := kept_of stage b ops
  refine ⟨?_, fun op g apart s member => kept.apart member apart, fun s g member =>
    ⟨kept.isActive_iff member, ?_, ?_⟩, kept.quit_count_le, ?_⟩
  · intro s s' g member member'
    rw [(kept.slot member).1, (kept.slot member').1]
  · intro d live
    simp only [World.driver, (kept.driver?_iff member).2 live]
  · rw [isActive, quit_driver?]
    rfl
  · intro s t
    have asked := asked stage h.world s
    generalize h.world.driver stage s = answer at asked ⊢
    generalize h.world.made? stage s = made at asked
    cases asked with
    | active d has => exact fun fails => by cases fails
    | launched b idle => exact fun fails => by cases fails
    | failed t b idle => exact fun _ s' => rfl

section Example
open Browsers

def borrowing : List Op := [.clone 0, .driver 0, .fresh 1, .quit 1, .driver 1]

theorem clones_share_browser :
    let h := Handles.of hosting { state := () } borrowing
    h.members = [(⟨0⟩, 0), (⟨0⟩, 0), (⟨1⟩, 1)] ∧ h.Live 0 2 ∧ ¬ h.Live 0 1 ∧
      h.world.isActive ⟨0⟩ = true ∧ h.world.isActive ⟨1⟩ = false ∧
      h.world.driver hosting ⟨0⟩ = (.ok 2, h.world) ∧
      (h.world.quit hosting ⟨0⟩).isActive ⟨0⟩ = false ∧
      h.world.browser.calls.reverse = [.launch [], .command 1 .quit, .launch []] := by
  intro h
  have members : h.members = [(⟨0⟩, 0), (⟨0⟩, 0), (⟨1⟩, 1)] := by decide +kernel
  have member : ((⟨0⟩ : Session), 0) ∈ h.members := by
    rw [members]
    exact List.mem_cons_self
  have live : h.Live 0 2 := by
    unfold Handles.Live
    decide +kernel
  have left : ¬ h.Live 0 1 := by
    unfold Handles.Live
    decide +kernel
  obtain ⟨-, -, group, -, -⟩ := handles_share_sessions hosting { state := () } borrowing
  obtain ⟨-, answers, quit⟩ := group ⟨0⟩ 0 member
  refine ⟨members, live, left, ?_, ?_, answers 2 live, quit, ?_⟩
  · decide +kernel
  · decide +kernel
  · decide +kernel

end Example

end Sharing

end Scenario
