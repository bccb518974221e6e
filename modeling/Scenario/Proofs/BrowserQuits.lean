import Scenario.Proofs.BrowserCalls

/-!
# Browsers of an execution

Every browser that an execution launches lies in one session until it is quit,
and is quit once. A run that owns its session leaves it empty, and the runs
below it touch no session but that one and those that they open and empty
themselves.
-/

set_option autoImplicit false

namespace Scenario
open Scenario.Execution

variable {σ : Type} {stage : Stage σ}

theorem getElem?_set_none {slots : List (Option Nat)} {k j d : Nat} :
    (slots.set k none)[j]? = some (some d) ↔ k ≠ j ∧ slots[j]? = some (some d) := by
  by_cases hkj : k = j
  · subst hkj
    rw [List.getElem?_set]
    simp
  · rw [List.getElem?_set_ne hkj]
    simp [hkj]

theorem getElem?_append_none {slots : List (Option Nat)} {j d : Nat} :
    (slots ++ [none])[j]? = some (some d) ↔ slots[j]? = some (some d) := by
  rcases Nat.lt_trichotomy j slots.length with hj | hj | hj
  · rw [List.getElem?_append_left hj]
  · subst hj
    simp
  · rw [List.getElem?_eq_none (by simp; omega), List.getElem?_eq_none (by omega)]

/-- What is true of the browsers launched since an earlier world, given the
slots, the number of launches and what was recorded since. -/
structure Books (w₀ : World σ) (slots : List (Option Nat)) (launched : Nat)
    (l : List TraceEntry) : Prop where
  /-- A browser in a new session was launched since and not yet quit. -/
  live : ∀ {k d}, w₀.slots.length ≤ k → slots[k]? = some (some d) →
    w₀.launched < d ∧ d ≤ launched ∧ .command d .quit ∉ l
  single : ∀ {j k d}, w₀.slots.length ≤ j → w₀.slots.length ≤ k →
    slots[j]? = some (some d) → slots[k]? = some (some d) → j = k
  /-- A browser launched since lies in a new session or was quit once. -/
  settled : ∀ {d}, w₀.launched < d → d ≤ launched →
    (∃ k, w₀.slots.length ≤ k ∧ slots[k]? = some (some d)) ∨ l.count (.command d .quit) = 1
  known : ∀ {d c}, .command d c ∈ l → w₀.launched < d ∧ d ≤ launched
  ordered : l.Pairwise fun later earlier =>
    ∀ d c, later = .command d c → earlier ≠ .command d .quit
  rises : w₀.launched ≤ launched

namespace Books
variable {w₀ : World σ} {slots : List (Option Nat)} {launched : Nat} {l : List TraceEntry}

theorem start (w : World σ) : Books w w.slots w.launched [] where
  live := by
    intro k d hk h
    rw [List.getElem?_eq_none hk] at h
    cases h
  single := by
    intro j k d hj _ h
    rw [List.getElem?_eq_none hj] at h
    cases h
  settled := by
    intro d h h'
    omega
  known := by simp
  ordered := List.Pairwise.nil
  rises := Nat.le_refl _

theorem record (h : Books w₀ slots launched l) (e : TraceEntry)
    (he : ∀ d c, e ≠ .command d c) : Books w₀ slots launched (e :: l) where
  live := by
    intro k d hk hd
    obtain ⟨lo, hi, hq⟩ := h.live hk hd
    refine ⟨lo, hi, ?_⟩
    rw [List.mem_cons]
    rintro (heq | hmem)
    · exact he d .quit heq.symm
    · exact hq hmem
  single := h.single
  settled := by
    intro d lo hi
    rw [List.count_cons_of_ne (he d .quit)]
    exact h.settled lo hi
  known := by
    intro d c hc
    rcases List.mem_cons.1 hc with heq | hmem
    · exact absurd heq.symm (he d c)
    · exact h.known hmem
  ordered := List.Pairwise.cons (fun _ _ d c heq => absurd heq (he d c)) h.ordered
  rises := h.rises

theorem launch (h : Books w₀ slots launched l) {k : Nat} (hk : w₀.slots.length ≤ k)
    (hl : k < slots.length) (he : ∀ d, slots[k]? ≠ some (some d)) :
    Books w₀ (slots.set k (some (launched + 1))) (launched + 1) l where
  live := by
    intro j d hj hd
    by_cases hjk : k = j
    · subst hjk
      rw [List.getElem?_set_self hl] at hd
      cases hd
      have rises := h.rises
      refine ⟨by omega, Nat.le_refl _, fun hc => ?_⟩
      have := (h.known hc).2
      omega
    · rw [List.getElem?_set_ne hjk] at hd
      obtain ⟨lo, hi, hq⟩ := h.live hj hd
      exact ⟨lo, by omega, hq⟩
  single := by
    -- the number is new, so no slot holds it yet
    have fresh : ∀ {j}, w₀.slots.length ≤ j → slots[j]? ≠ some (some (launched + 1)) := by
      intro j hj hd
      have := (h.live hj hd).2.1
      omega
    intro i j d hi hj hdi hdj
    by_cases hki : k = i
    · subst hki
      rw [List.getElem?_set_self hl] at hdi
      cases hdi
      by_cases hkj : k = j
      · exact hkj
      · rw [List.getElem?_set_ne hkj] at hdj
        exact absurd hdj (fresh hj)
    · rw [List.getElem?_set_ne hki] at hdi
      by_cases hkj : k = j
      · subst hkj
        rw [List.getElem?_set_self hl] at hdj
        cases hdj
        exact absurd hdi (fresh hi)
      · rw [List.getElem?_set_ne hkj] at hdj
        exact h.single hi hj hdi hdj
  settled := by
    intro d lo hi
    by_cases hd : d = launched + 1
    · subst hd
      exact .inl ⟨k, hk, List.getElem?_set_self hl⟩
    · rcases h.settled lo (by omega) with ⟨j, hj, hdj⟩ | hq
      · have hjk : k ≠ j := by
          rintro rfl
          exact he d hdj
        refine .inl ⟨j, hj, ?_⟩
        rw [List.getElem?_set_ne hjk]
        exact hdj
      · exact .inr hq
  known := by
    intro d c hc
    have := h.known hc
    omega
  ordered := h.ordered
  rises := Nat.le_succ_of_le h.rises

section Command
variable (h : Books w₀ slots launched l) {k d : Nat} (hk : w₀.slots.length ≤ k)
  (hd : slots[k]? = some (some d)) (c : Command)
include h hk hd

theorem command_known {e : Nat} {b : Command} (hb : .command e b ∈ .command d c :: l) :
    w₀.launched < e ∧ e ≤ launched := by
  rcases List.mem_cons.1 hb with heq | hmem
  · injection heq with hde _
    subst hde
    have live := h.live hk hd
    exact ⟨live.1, live.2.1⟩
  · exact h.known hmem

theorem command_ordered : (.command d c :: l).Pairwise fun later earlier =>
    ∀ d c, later = .command d c → earlier ≠ .command d .quit := by
  refine List.Pairwise.cons ?_ h.ordered
  rintro b hb e x heq rfl
  injection heq with hde _
  subst hde
  exact (h.live hk hd).2.2 hb

end Command

theorem perform (h : Books w₀ slots launched l) {k d : Nat} {c : Command}
    (hk : w₀.slots.length ≤ k) (hd : slots[k]? = some (some d)) (hc : c ≠ .quit) :
    Books w₀ slots launched (.command d c :: l) where
  live := by
    intro j e hj he
    obtain ⟨lo, hi, hq⟩ := h.live hj he
    refine ⟨lo, hi, ?_⟩
    rw [List.mem_cons]
    rintro (heq | hmem)
    · injection heq with _ hcq
      exact hc hcq.symm
    · exact hq hmem
  single := h.single
  settled := by
    intro e lo hi
    have other : TraceEntry.command d c ≠ .command e .quit := by
      intro heq
      injection heq with _ hcq
      exact hc hcq
    rw [List.count_cons_of_ne other]
    exact h.settled lo hi
  known := h.command_known hk hd _
  ordered := h.command_ordered hk hd _
  rises := h.rises

theorem quit (h : Books w₀ slots launched l) {k d : Nat} (hk : w₀.slots.length ≤ k)
    (hd : slots[k]? = some (some d)) :
    Books w₀ (slots.set k none) launched (.command d .quit :: l) where
  live := by
    intro j e hj he
    obtain ⟨hkj, he⟩ := getElem?_set_none.1 he
    obtain ⟨lo, hi, hq⟩ := h.live hj he
    refine ⟨lo, hi, ?_⟩
    rw [List.mem_cons]
    rintro (heq | hmem)
    · injection heq with hde _
      subst hde
      exact hkj (h.single hk hj hd he)
    · exact hq hmem
  single := fun hi hj hei hej =>
    h.single hi hj (getElem?_set_none.1 hei).2 (getElem?_set_none.1 hej).2
  settled := by
    intro e lo hi
    have live := h.live hk hd
    by_cases hde : e = d
    · subst hde
      right
      rw [List.count_cons_self, List.count_eq_zero_of_not_mem live.2.2]
    · have other : TraceEntry.command d .quit ≠ .command e .quit := by
        intro heq
        injection heq with heq
        exact hde heq.symm
      rw [List.count_cons_of_ne other]
      rcases h.settled lo hi with ⟨j, hj, hej⟩ | hq
      · have hkj : k ≠ j := by
          rintro rfl
          rw [hd] at hej
          cases hej
          exact hde rfl
        exact .inl ⟨j, hj, getElem?_set_none.2 ⟨hkj, hej⟩⟩
      · exact .inr hq
  known := h.command_known hk hd _
  ordered := h.command_ordered hk hd _
  rises := h.rises

theorem newSlot (h : Books w₀ slots launched l) : Books w₀ (slots ++ [none]) launched l where
  live := fun hk hd => h.live hk (getElem?_append_none.1 hd)
  single := fun hj hk hdj hdk =>
    h.single hj hk (getElem?_append_none.1 hdj) (getElem?_append_none.1 hdk)
  settled := by
    intro d lo hi
    rcases h.settled lo hi with ⟨k, hk, hd⟩ | hq
    · exact .inl ⟨k, hk, getElem?_append_none.2 hd⟩
    · exact .inr hq
  known := h.known
  ordered := h.ordered
  rises := h.rises

end Books

namespace World

def Ledger (w₀ w : World σ) : Prop :=
  ∃ l, w.trace = l ++ w₀.trace ∧ Books w₀ w.slots w.launched l

def Spares (P : Session → Prop) (w w' : World σ) : Prop :=
  ∀ k, ¬ P k → w'.driver? k = w.driver? k

variable {w₀ w : World σ}

theorem driver?_eq_some {k : Session} {d : Nat} :
    w.driver? k = some d ↔ w.slots[k.slot]? = some (some d) := by
  simp [driver?, Option.bind_eq_some_iff]

theorem driver?_beyond {k : Session} (hk : w.slots.length ≤ k.slot) : w.driver? k = none := by
  rw [driver?, List.getElem?_eq_none hk]
  rfl

theorem ledger_record (h : Ledger w₀ w) (e : TraceEntry) (he : ∀ d c, e ≠ .command d c) :
    Ledger w₀ (w.record e) := by
  obtain ⟨l, ht, hb⟩ := h
  refine ⟨e :: l, ?_, hb.record e he⟩
  rw [record, ht]
  rfl

theorem ledger_emit (h : Ledger w₀ w) (e : Event) : Ledger w₀ (w.emit stage e) := by
  have recorded := ledger_record h (.event e) (by simp)
  simp only [emit]
  split
  · split
    · exact recorded
    · exact recorded
  · exact recorded

theorem emit_slots (w : World σ) (e : Event) : (w.emit stage e).slots = w.slots := by
  simp only [emit]
  split
  · split <;> rfl
  · rfl

theorem ledger_hookCalled (h : Ledger w₀ w) (note : Option String) :
    Ledger w₀ (w.hookCalled note) := by
  cases note with
  | none => exact h
  | some n =>
    have counted : Ledger w₀ { w with hookCalls := w.hookCalls + 1 } := h
    exact ledger_record counted (.note n) (by simp)

theorem hookCalled_slots (w : World σ) (note : Option String) :
    (w.hookCalled note).slots = w.slots := by
  cases note <;> rfl

theorem ledger_driver (h : Ledger w₀ w) {k : Session} (hk : w₀.slots.length ≤ k.slot)
    (hl : k.slot < w.slots.length) : Ledger w₀ (w.driver stage k).2 := by
  have recorded := ledger_record h (.launch stage.driverConfig) (by simp)
  simp only [driver]
  split
  · exact h
  · rename_i empty
    split
    · obtain ⟨l, ht, hb⟩ := recorded
      refine ⟨l, ht, hb.launch hk hl fun d hd => ?_⟩
      have full : w.driver? k = some d := driver?_eq_some.2 hd
      rw [empty] at full
      cases full
    · exact recorded

theorem driver_slots (w : World σ) (k : Session) :
    (w.driver stage k).2.slots.length = w.slots.length := by
  simp only [driver]
  split
  · rfl
  · split
    · exact List.length_set
    · rfl

theorem driver_spares (w : World σ) (k : Session) :
    Spares (· = k) w (w.driver stage k).2 := by
  intro j hj
  simp only [driver]
  split
  · rfl
  · split
    · have other : k.slot ≠ j.slot := fun h => hj (by cases j; cases k; simp_all)
      simp only [driver?, record, List.getElem?_set_ne other]
    · rfl

theorem ledger_perform (h : Ledger w₀ w) {k : Session} {d : Nat} {c : Command}
    (hk : w₀.slots.length ≤ k.slot) (hd : w.driver? k = some d) (hc : c ≠ .quit) :
    Ledger w₀ (w.perform stage d c).2 := by
  obtain ⟨l, ht, hb⟩ := h
  refine ⟨.command d c :: l, ?_, hb.perform hk (driver?_eq_some.1 hd) hc⟩
  simp only [perform, record, ht]
  rfl

theorem ledger_quit (h : Ledger w₀ w) {k : Session} (hk : w₀.slots.length ≤ k.slot) :
    Ledger w₀ (w.quit stage k) := by
  simp only [quit]
  split
  · rename_i d hd
    obtain ⟨l, ht, hb⟩ := h
    refine ⟨.command d .quit :: l, ?_, hb.quit hk (driver?_eq_some.1 hd)⟩
    simp only [perform, record, ht]
    rfl
  · exact h

theorem quit_slots (w : World σ) (k : Session) :
    (w.quit stage k).slots.length = w.slots.length := by
  simp only [quit]
  split
  · exact List.length_set
  · rfl

theorem quit_driver? (w : World σ) (k : Session) : (w.quit stage k).driver? k = none := by
  simp only [quit]
  split
  · simp only [perform, record, driver?, List.getElem?_set]
    split
    · split <;> rfl
    · contradiction
  · assumption

theorem quit_spares (w : World σ) (k : Session) : Spares (· = k) w (w.quit stage k) := by
  intro j hj
  have other : k.slot ≠ j.slot := fun h => hj (by cases j; cases k; simp_all)
  simp only [quit]
  split
  · simp only [perform, record, driver?, List.getElem?_set_ne other]
  · rfl

theorem ledger_newSession (h : Ledger w₀ w) : Ledger w₀ w.newSession.2 := by
  obtain ⟨l, ht, hb⟩ := h
  exact ⟨l, ht, hb.newSlot⟩

theorem newSession_spares (w : World σ) (P : Session → Prop) : Spares P w w.newSession.2 := by
  intro j _
  apply Option.ext
  intro d
  rw [driver?_eq_some, driver?_eq_some]
  exact getElem?_append_none

end World

namespace Browsers
open World

structure Holds (w₀ : World σ) (s : State σ) : Prop where
  ledger : Ledger w₀ s.world
  new : w₀.slots.length ≤ s.run.session.slot
  made : s.run.session.slot < s.world.slots.length

/-- A run touches its own session alone. -/
structure Uses (w₀ : World σ) (s t : State σ) : Prop where
  ledger : Ledger w₀ t.world
  session : t.run.session = s.run.session
  owns : t.run.ownsSession = s.run.ownsSession
  slots : s.world.slots.length ≤ t.world.slots.length
  spares : Spares (· = s.run.session) s.world t.world

/-- The last row of a case may leave a browser in its session. -/
structure Lends (w₀ : World σ) (c : Case) (last : Run) (s t : State σ) : Prop where
  ledger : Ledger w₀ t.world
  session : t.run.session = s.run.session
  owns : t.run.ownsSession = s.run.ownsSession
  slots : s.world.slots.length ≤ t.world.slots.length
  spares : Spares (fun k => k = s.run.session ∨ k = last.session) s.world t.world
  shared : c.sharesState = true → last.session = s.run.session
  opened : c.sharesState = false → s.world.slots.length ≤ last.session.slot
  made : last.session.slot < t.world.slots.length

variable {w₀ : World σ}

theorem Uses.refl {s : State σ} (h : Holds w₀ s) : Uses w₀ s s :=
  ⟨h.ledger, rfl, rfl, Nat.le_refl _, fun _ _ => rfl⟩

theorem Uses.trans {s t u : State σ} (h : Uses w₀ s t) (h' : Uses w₀ t u) : Uses w₀ s u where
  ledger := h'.ledger
  session := h'.session.trans h.session
  owns := h'.owns.trans h.owns
  slots := Nat.le_trans h.slots h'.slots
  spares := fun k hk => (h'.spares k (by rwa [h.session])).trans (h.spares k hk)

theorem Uses.holds {s t : State σ} (h : Holds w₀ s) (h' : Uses w₀ s t) : Holds w₀ t where
  ledger := h'.ledger
  new := by
    rw [h'.session]
    exact h.new
  made := by
    rw [h'.session]
    exact Nat.lt_of_lt_of_le h.made h'.slots

theorem uses_world {s : State σ} {w : World σ} (hl : Ledger w₀ w) (hs : w.slots = s.world.slots) :
    Uses w₀ s { s with world := w } where
  ledger := hl
  session := rfl
  owns := rfl
  slots := Nat.le_of_eq (by rw [hs])
  spares := by
    intro k _
    simp only [driver?, hs]

theorem uses_record {s : State σ} (h : Holds w₀ s) (e : TraceEntry)
    (he : ∀ d c, e ≠ .command d c) : Uses w₀ s (s.record e) :=
  uses_world (ledger_record h.ledger e he) rfl

theorem uses_emit {s : State σ} (h : Holds w₀ s) (e : Event) : Uses w₀ s (s.emit stage e) :=
  uses_world (ledger_emit h.ledger e) (emit_slots _ _)

theorem uses_around {s t : State σ} {e : Event} (hs : Holds w₀ s) (f : Event)
    (h : Uses w₀ (s.emit stage e) t) : Uses w₀ s (t.emit stage f) := by
  have inside := (uses_emit hs e).trans h
  exact inside.trans (uses_emit (inside.holds hs) f)

theorem uses_move {s t : State σ} (hs : Holds w₀ s) (h : Move stage s t) : Uses w₀ s t := by
  cases h with
  | row _ _ => exact ⟨hs.ledger, rfl, rfl, Nat.le_refl _, fun _ _ => rfl⟩
  | stand i => exact ⟨hs.ledger, rfl, rfl, Nat.le_refl _, fun _ _ => rfl⟩
  | notice _ => exact ⟨hs.ledger, rfl, rfl, Nat.le_refl _, fun _ _ => rfl⟩
  | stop k p =>
    have noted : Uses w₀ s _ := uses_record hs (.stopped s.run.signal k p) (by simp)
    exact ⟨noted.ledger, rfl, rfl, Nat.le_refl _, fun _ _ => rfl⟩
  | progress e he _ =>
    refine uses_record hs e fun d c h => ?_
    subst h
    cases he
  | hookCall note => exact uses_world (ledger_hookCalled hs.ledger note) (hookCalled_slots _ note)
  | elapse ms => exact uses_world hs.ledger rfl
  | driver =>
    exact ⟨ledger_driver hs.ledger hs.new hs.made, rfl, rfl, Nat.le_of_eq (driver_slots ..).symm,
      driver_spares _ _⟩
  | perform d c hd hc =>
    exact uses_world (ledger_perform hs.ledger hs.new (hd hs.made) hc) rfl

theorem Uses.quit {s t : State σ} (h : Uses w₀ s t) (hs : Holds w₀ s) :
    Uses w₀ s (t.quit stage t.run.session) where
  ledger := ledger_quit h.ledger (h.holds hs).new
  session := h.session
  owns := h.owns
  slots := Nat.le_trans h.slots (Nat.le_of_eq (quit_slots ..).symm)
  spares := by
    intro k hk
    exact (quit_spares _ _ k (by rwa [h.session])).trans (h.spares k hk)

theorem Lends.begin {s t u : State σ} {c : Case} {last : Run} (h' : Lends w₀ c last t u)
    (h : Uses w₀ s t) : Lends w₀ c last s u := by
  refine ⟨h'.ledger, h'.session.trans h.session, h'.owns.trans h.owns,
    Nat.le_trans h.slots h'.slots, ?_, ?_, ?_, h'.made⟩
  · intro k hk
    rw [h'.spares k (by rwa [h.session]), h.spares k fun hl => hk (.inl hl)]
  · intro hc
    rw [h'.shared hc, h.session]
  · exact fun hc => Nat.le_trans h.slots (h'.opened hc)

theorem Lends.emit {s t : State σ} {c : Case} {last : Run} (h : Lends w₀ c last s t) (e : Event) :
    Lends w₀ c last s (t.emit stage e) := by
  have slots : (t.emit stage e).world.slots = t.world.slots := emit_slots _ _
  refine ⟨ledger_emit h.ledger e, h.session, h.owns, ?_, ?_, h.shared, h.opened, ?_⟩
  · rw [slots]
    exact h.slots
  · intro k hk
    simpa only [driver?, slots] using h.spares k hk
  · rw [slots]
    exact h.made

/-- A browser that was lent for a deferred chain is back once its session is empty. -/
theorem Lends.back {s t : State σ} {c : Case} {last : Run} (h : Lends w₀ c last s t)
    (he : c.sharesState = false → t.world.driver? last.session = none) : Uses w₀ s t where
  ledger := h.ledger
  session := h.session
  owns := h.owns
  slots := h.slots
  spares := by
    intro k hk
    by_cases hl : k = last.session
    · subst hl
      cases hc : c.sharesState with
      | true => exact absurd (h.shared hc) hk
      | false => rw [he hc, driver?_beyond (h.opened hc)]
    · exact h.spares k (by simp [hk, hl])

theorem Lends.quit {s t : State σ} {c : Case} {last : Run} (hs : Holds w₀ s)
    (h : Lends w₀ c last s t) (hc : c.sharesState = false) :
    Uses w₀ s (t.quit stage last.session) := by
  have new : w₀.slots.length ≤ last.session.slot :=
    Nat.le_trans (Nat.le_of_lt (Nat.lt_of_le_of_lt hs.new hs.made)) (h.opened hc)
  have emptied : Lends w₀ c last s (t.quit stage last.session) := by
    refine ⟨ledger_quit h.ledger new, h.session, h.owns, ?_, ?_, h.shared, h.opened, ?_⟩
    · exact Nat.le_trans h.slots (Nat.le_of_eq (quit_slots ..).symm)
    · intro k hk
      exact (quit_spares _ _ k fun hl => hk (.inr hl)).trans (h.spares k hk)
    · rw [State.quit, quit_slots]
      exact h.made
  exact emptied.back fun _ => quit_driver? _ _

theorem Lends.givenBack {s t : State σ} {c : Case} {last : Run} (hs : Holds w₀ s)
    (h : Lends w₀ c last s t) : Uses w₀ s (givenBack stage c last t) := by
  rw [Execution.givenBack]
  cases hc : c.sharesState with
  | true => exact h.back fun hf => by simp [hc] at hf
  | false => exact h.quit hs hc

section Row
variable (stage) (rows : Rows) (n : Nat) (row : Row) (isLast : Bool) (s : State σ)

theorem rowStart_owns : (rowStart stage rows n row isLast s).run.ownsSession =
    (!rows.case.sharesState && !(isDeferred rows.case && isLast)) := rfl

theorem rowStart_shared (hc : rows.case.sharesState = true) :
    (rowStart stage rows n row isLast s).run.session = s.run.session ∧
      (rowStart stage rows n row isLast s).world.slots = s.world.slots := by
  simp only [rowStart, hc]
  exact ⟨rfl, rfl⟩

theorem rowStart_opened (hc : rows.case.sharesState = false) :
    (rowStart stage rows n row isLast s).run.session = ⟨s.world.slots.length⟩ ∧
      (rowStart stage rows n row isLast s).world.slots = s.world.slots ++ [none] := by
  simp only [rowStart, hc]
  exact ⟨rfl, rfl⟩

theorem rowStart_ledger (h : Ledger w₀ s.world) :
    Ledger w₀ (rowStart stage rows n row isLast s).world := by
  simp only [rowStart]
  cases rows.case.sharesState with
  | true => exact h
  | false => exact ledger_newSession h

variable {s}

theorem rowStart_holds (hs : Holds w₀ s) : Holds w₀ (rowStart stage rows n row isLast s) := by
  have ledger := rowStart_ledger stage rows n row isLast s hs.ledger
  cases hc : rows.case.sharesState with
  | true =>
    obtain ⟨hk, hw⟩ := rowStart_shared stage rows n row isLast s hc
    refine ⟨ledger, ?_, ?_⟩
    · rw [hk]
      exact hs.new
    · rw [hk, hw]
      exact hs.made
  | false =>
    obtain ⟨hk, hw⟩ := rowStart_opened stage rows n row isLast s hc
    refine ⟨ledger, ?_, ?_⟩
    · rw [hk]
      exact Nat.le_of_lt (Nat.lt_of_le_of_lt hs.new hs.made)
    · rw [hk, hw, List.length_append]
      exact Nat.lt_succ_self _

variable {stage} {rows n row isLast}

theorem row_lends (hs : Holds w₀ s) {v : State σ}
    (h : Uses w₀ (rowStart stage rows n row isLast s) v) :
    Lends w₀ rows.case v.run s (s.after v) := by
  have made := (h.holds (rowStart_holds stage rows n row isLast hs)).made
  have spares := h.spares
  have slots := h.slots
  cases hc : rows.case.sharesState with
  | true =>
    obtain ⟨hk, hw⟩ := rowStart_shared stage rows n row isLast s hc
    rw [hw] at slots
    refine ⟨h.ledger, rfl, rfl, slots, ?_, ?_, ?_, made⟩
    · intro k hne
      rw [State.after, spares k (by rw [hk]; exact fun hl => hne (.inl hl))]
      simp only [driver?, hw]
    · intro _
      rw [h.session, hk]
    · intro hf
      rw [hc] at hf
      cases hf
  | false =>
    obtain ⟨hk, hw⟩ := rowStart_opened stage rows n row isLast s hc
    rw [hw, List.length_append] at slots
    refine ⟨h.ledger, rfl, rfl, Nat.le_of_succ_le slots, ?_, ?_, ?_, made⟩
    · intro k hne
      rw [State.after, spares k fun hl => hne (.inr (by rw [h.session]; exact hl))]
      have opened := newSession_spares s.world (fun _ => False) k id
      simpa only [driver?, World.newSession, hw] using opened
    · intro hf
      rw [hc] at hf
      cases hf
    · exact fun _ => Nat.le_of_eq (by rw [h.session, hk])

theorem row_done (hs : Holds w₀ s) {v : State σ}
    (h : Uses w₀ (rowStart stage rows n row isLast s) v)
    (he : v.run.ownsSession = true → v.world.driver? v.run.session = none)
    (ho : rows.case.sharesState = false → v.run.ownsSession = true) : Uses w₀ s (s.after v) :=
  (row_lends hs h).back fun hc => he (ho hc)

theorem row_raised (hs : Holds w₀ s) {v : State σ}
    (h : Uses w₀ (rowStart stage rows n row isLast s) v)
    (he : v.run.ownsSession = true → v.world.driver? v.run.session = none) :
    Uses w₀ s (rowRaised stage rows.case s v) := by
  rw [rowRaised]
  split
  · rename_i hk
    simp only [Bool.and_eq_true, Bool.not_eq_true'] at hk
    exact (row_lends hs h).quit hs hk.2
  · rename_i hk
    refine row_done hs h he fun hc => ?_
    simpa [hc] using hk

end Row

def plain (w₀ : World σ) : Plain σ where
  ready := Holds w₀
  able := fun _ => True
  moves := Uses w₀
  rejects := Uses w₀
  whole := fun s t => Uses w₀ s t ∧
    (t.run.ownsSession = true → t.world.driver? t.run.session = none)
  left := Lends w₀

theorem lawful (w₀ : World σ) : (plain w₀).Lawful stage where
  refl := Uses.refl
  trans := Uses.trans
  trans_rejects := Uses.trans
  ready := fun hs h => h.holds hs
  able := fun _ _ => trivial
  move := uses_move
  told := fun e hs => (uses_emit hs e).holds hs
  failure := fun _ hs => uses_emit hs _
  error := fun _ hs => uses_emit hs _
  step := fun hs h => uses_around hs _ h
  suite := fun hs h => uses_around hs _ h
  rejected := fun hs h h' => ((uses_emit hs _).trans h).trans h'
  hookAnswered := fun _ _ hs _ _ => uses_record hs _ (by simp)
  caseAnswered := fun _ _ hs => uses_record hs _ (by simp)
  hookRaised := by
    intro s i k f hs _ _
    cases k <;> exact uses_record hs _ (by simp)
  caseRaised := by
    intro s k f hs
    cases k <;> exact uses_record hs _ (by simp)
  advice := fun _ k hs _ _ =>
    ⟨ledger_record hs.ledger (.adviceBegun k) (by simp), hs.new, hs.made⟩
  adviceDone := fun _ h => ⟨h.1.ledger, rfl, rfl, h.1.slots, h.1.spares⟩
  prepared := fun hs => ⟨hs.ledger, rfl, rfl, Nat.le_refl _, fun _ _ => rfl⟩
  aborted := fun hs => ⟨hs.ledger, rfl, rfl, Nat.le_refl _, fun _ _ => rfl⟩
  chainCalled := fun hs => ⟨hs.ledger, rfl, rfl, Nat.le_refl _, fun _ _ => rfl⟩
  reached := fun _ _ hs => uses_record hs _ (by simp)
  released := by
    intro s t hs h
    by_cases ho : t.run.ownsSession = true
    · have world : (t.released stage).world = t.world.quit stage t.run.session := if_pos ho
      have used : Uses w₀ s (t.quit stage t.run.session) := h.quit hs
      refine ⟨⟨?_, h.session, h.owns, ?_, ?_⟩, fun _ => ?_⟩
      · rw [world]
        exact used.ledger
      · rw [world]
        exact used.slots
      · rw [world]
        exact used.spares
      · rw [world]
        exact quit_driver? _ _
    · have world : (t.released stage).world = t.world := if_neg ho
      refine ⟨⟨?_, h.session, h.owns, ?_, ?_⟩, fun hf => absurd hf ho⟩
      · rw [world]
        exact h.ledger
      · rw [world]
        exact h.slots
      · rw [world]
        exact h.spares
  stopSeen := fun hs h _ => ⟨h.1.trans (uses_record (h.1.holds hs) _ (by simp)), h.2⟩
  rowReady := fun n row isLast hs _ => rowStart_holds stage _ n row isLast hs
  rowLeft := fun hs _ h => row_lends hs h.1
  rowDone := by
    intro s v rows n row isLast hs _ h hl
    refine row_done hs h.1 h.2 fun hc => ?_
    rw [h.1.owns, rowStart_owns, hc, hl]
    rfl
  rowRaised := fun hs _ h => row_raised hs h.1 h.2
  left_trans := fun h h' => h'.begin h
  left_suite := fun hs h => (h.begin (uses_emit hs _)).emit _
  left_ready := by
    intro s t c last hs h
    refine ⟨h.ledger, ?_, h.made⟩
    cases hc : c.sharesState with
    | true =>
      rw [h.shared hc]
      exact hs.new
    | false => exact Nat.le_trans (Nat.le_of_lt (Nat.lt_of_le_of_lt hs.new hs.made)) (h.opened hc)
  dropped := fun hs h => h.givenBack hs
  deferred := by
    intro s t v c last hs h _ hv
    have lent : Lends w₀ c last s (t.after v) := by
      refine ⟨hv.ledger, h.session, h.owns, Nat.le_trans h.slots hv.slots, ?_, h.shared, h.opened,
        Nat.lt_of_lt_of_le h.made hv.slots⟩
      intro k hk
      exact (hv.spares k fun hl => hk (.inr hl)).trans (h.spares k hk)
    exact lent.givenBack hs

section Execution
variable (w₀ : World σ)

/-- Between the rows of an execution only the session that they share may hold a browser. -/
structure Between (shared : Option Session) (w : World σ) : Prop where
  ledger : Ledger w₀ w
  slots : w₀.slots.length ≤ w.slots.length
  spares : Spares (fun k => shared = some k) w₀ w
  made : ∀ {k}, shared = some k → w₀.slots.length ≤ k.slot ∧ k.slot < w.slots.length

variable {w₀}

theorem finish_uses (depth : Nat) {s : State σ} (hs : Holds w₀ s) :
    Act.Ends (finish stage depth) s fun _ t => (plain w₀).whole s t :=
  Plain.finish_ends (lawful w₀) depth hs

theorem row_between (depth : Nat) {stop : Signal} {c : Case} {shared : Option Session} {w : World σ}
    (hw : Between w₀ shared w) (hc : shared = none → c.sharesState = false) (name : String)
    (row : Row) :
    Act.Ends (finish stage depth) (Runner.rowStart stage stop c shared name row w)
      fun _ t => Between w₀ shared t.world := by
  cases shared with
  | none =>
    have opened : Holds w₀ (Runner.rowStart stage stop c none name row w) := by
      refine ⟨ledger_newSession hw.ledger, hw.slots, ?_⟩
      show w.slots.length < (w.slots ++ [none]).length
      rw [List.length_append]
      exact Nat.lt_succ_self _
    refine Act.ends_mono (finish_uses depth opened) fun r t ht => ?_
    have slots : w.slots.length + 1 ≤ t.world.slots.length := by
      have grown := ht.1.slots
      rwa [show (Runner.rowStart stage stop c none name row w).world.slots = w.slots ++ [none]
        from rfl, List.length_append] at grown
    refine ⟨ht.1.ledger, Nat.le_trans hw.slots (Nat.le_of_succ_le slots), ?_, fun h => by cases h⟩
    have owned : t.world.driver? t.run.session = none := by
      apply ht.2
      rw [ht.1.owns]
      show (!c.sharesState) = true
      rw [hc rfl]
      rfl
    intro k _
    by_cases hk : k = ⟨w.slots.length⟩
    · subst hk
      rw [ht.1.session] at owned
      exact owned.trans (driver?_beyond hw.slots).symm
    · have same := ht.1.spares k hk
      have before := newSession_spares w (fun _ => False) k id
      exact same.trans (before.trans (hw.spares k (by simp)))
  | some k =>
    have shared : Holds w₀ (Runner.rowStart stage stop c (some k) name row w) :=
      ⟨hw.ledger, (hw.made rfl).1, (hw.made rfl).2⟩
    refine Act.ends_mono (finish_uses depth shared) fun r t ht => ?_
    refine ⟨ht.1.ledger, Nat.le_trans hw.slots ht.1.slots, ?_, ?_⟩
    · intro j hj
      exact (ht.1.spares j fun h => hj (by rw [h]; rfl)).trans (hw.spares j hj)
    · intro j hj
      exact ⟨(hw.made hj).1, Nat.lt_of_lt_of_le (hw.made hj).2 ht.1.slots⟩

theorem runRows_between (depth : Nat) {stop : Signal} {c : Case} {multiLine : Bool}
    {shared : Option Session}
    (hc : shared = none → c.sharesState = false) (l : List Row) (n : Nat) (success : Bool)
    {w : World σ} (hw : Between w₀ shared w) :
    Between w₀ shared (Runner.runRows stage depth stop c multiLine shared n l success w).2 := by
  induction l generalizing n success w with
  | nil => exact hw
  | cons row rest ih =>
    rw [Runner.runRows]
    split
    · exact hw
    · have done : Act.Ends (finish stage depth)
          (Runner.rowStart stage stop c shared (Runner.rowName c multiLine n) row w)
          fun _ t => Between w₀ shared t.world := row_between depth hw hc _ row
      simp only [Act.Ends, Act.exec] at done
      revert done
      generalize StateT.run (ExceptT.run (finish stage depth)) _ = e
      intro done
      rcases e with ⟨f | b, s⟩
      · exact done
      · exact ih _ _ done

theorem quit_between {k : Session} {w : World σ} (hw : Between w₀ (some k) w) :
    Between w₀ none (w.quit stage k) := by
  have new := (hw.made rfl).1
  refine ⟨ledger_quit hw.ledger new, ?_, ?_, fun h => by cases h⟩
  · rw [quit_slots]
    exact hw.slots
  · intro j _
    by_cases hj : j = k
    · subst hj
      rw [quit_driver?, driver?_beyond new]
    · exact (quit_spares w k j hj).trans (hw.spares j fun h => hj (by cases h; rfl))

/-- An execution leaves no browser in a session that it opened. -/
theorem run_between (stop : Signal) (c : Case) (w : World σ) (depth : Nat) :
    Between w none (Runner.run stage stop c w depth).2 := by
  have begin : Between w none w :=
    ⟨⟨[], rfl, Books.start w⟩, Nat.le_refl _, fun _ _ => rfl, fun h => by cases h⟩
  have shared : Between w (some w.newSession.1) w.newSession.2 := by
    refine ⟨ledger_newSession begin.ledger, ?_, newSession_spares w _, ?_⟩
    · exact Nat.le_of_lt (by simp [newSession])
    · intro k hk
      cases hk
      simp [newSession]
  rw [Runner.run]
  split
  · rw [Runner.execute]
    split
    · exact begin
    · split
      · exact quit_between (runRows_between depth (fun h => by cases h) _ _ _ shared)
      · rename_i hc
        rw [Bool.not_eq_true] at hc
        exact runRows_between depth (fun _ => hc) _ _ _ begin
  · exact begin

/-- Every browser that an execution launches is quit once, and no command
reaches it after that, however deep runs may lie inside one another. -/
theorem run_quits_browsers (stage : Stage σ) (stop : Signal) (c : Case) (w : World σ)
    (depth : Nat) :
    let w' := (Runner.run stage stop c w depth).2
    let l := since w w'
    (∀ d, w.launched < d → d ≤ w'.launched → l.count (.command d .quit) = 1) ∧
      (∀ d c, .command d c ∈ l → w.launched < d ∧ d ≤ w'.launched) ∧
      l.Pairwise fun later earlier => ∀ d c, later = .command d c → earlier ≠ .command d .quit := by
  intro w' l
  have done : Between w none w' := run_between stop c w depth
  obtain ⟨l', ht, books⟩ := done.ledger
  have hl : l = l' := since_eq ht
  rw [hl]
  refine ⟨fun d lo hi => ?_, fun d c hc => books.known hc, books.ordered⟩
  rcases books.settled lo hi with ⟨k, hk, hd⟩ | hq
  · -- a browser in a new session would have been in the world before
    have full : w'.driver? ⟨k⟩ = some d := driver?_eq_some.2 hd
    rw [done.spares ⟨k⟩ (by simp), driver?_beyond hk] at full
    cases full
  · exact hq

end Execution

section Example

def visiting : Browser Unit where
  launch _ s := (.ok (), s)
  perform _ c s :=
    match c with
    | .navigate _ => (.ok (), s)
    | .quit => (.ok (), s)
    | _ => (.error [], s)
  elapse _ s := s

def hosting : Stage (Logged Unit) where
  browsers := visiting.logging
  sources := DataSource.ofName? {}

def visitor : Case where
  script := { name := "visitor" }
  steps := [{ kind := .get, texts := [("url", "http://a/")] }]
  chain := [{ script := { name := "guest" }
              steps := [{ kind := .get, texts := [("url", "http://b/")] }] }]

theorem two_browsers_quit :
    let w : World (Logged Unit) := { browser := { state := () } }
    let w' := (Runner.run hosting ⟨0, []⟩ visitor w 1).2
    w'.launched = 2 ∧ (∀ d, 0 < d → d ≤ 2 → (since w w').count (.command d .quit) = 1) ∧
      w'.browser.made = 2 ∧ w'.browser.calls.reverse =
        [.launch [], .command 1 (.navigate "http://a/"), .launch [],
          .command 2 (.navigate "http://b/"), .command 2 .quit, .command 1 .quit] := by
  intro w w'
  have launched : w'.launched = 2 := by decide +kernel
  obtain ⟨quit, -, -⟩ := run_quits_browsers hosting ⟨0, []⟩ visitor w 1
  refine ⟨launched, fun d lo hi => quit d lo (by rwa [launched]), ?_, ?_⟩
  · decide +kernel
  · decide +kernel

end Example

end Browsers

end Scenario
