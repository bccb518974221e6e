import Scenario.Proofs.PartLaws

/-!
# Where a run stands

A step leaves its run where it stood, whether it succeeds or not: a block of steps
goes on from the step that owns it and comes back to it. What the step accounts
for lies in the list, so the run goes on by one step at least and never past the end.
-/

set_option autoImplicit false

namespace Scenario
open Scenario.Act Scenario.Execution

variable {σ : Type} {stage : Stage σ} {depth : Nat}

namespace Visiting

structure Stays (s t : State σ) : Prop where
  case : t.run.case = s.run.case
  index : t.run.cursor.index = s.run.cursor.index

structure Fits (s : State σ) : Prop where
  length : (s.run.case.steps.length : Int) ≤ Cursor.largest
  index : s.run.cursor.index ≤ Cursor.largest

section Stays
variable {s t u : State σ}

theorem Stays.refl (s : State σ) : Stays s s := ⟨rfl, rfl⟩

theorem Stays.trans (h : Stays s t) (h' : Stays t u) : Stays s u :=
  ⟨h'.case.trans h.case, h'.index.trans h.index⟩

theorem Stays.fits (h : Stays s t) (fits : Fits s) : Fits t :=
  ⟨h.case ▸ fits.length, h.index ▸ fits.index⟩

theorem fits_standing {i : Int} (length : (s.run.case.steps.length : Int) ≤ Cursor.largest)
    (place : i ≤ Cursor.largest) : Fits (s.standing i) := ⟨length, place⟩

theorem Stays.step? (h : Stays s t) : t.run.step? = s.run.step? := by
  simp only [Run.step?, Cursor.current?, h.index, h.case]

theorem stays_heeds {key : String} (h : Heeds key s t) : Stays s t := ⟨h.case, h.index⟩

theorem stays_turned (s : State σ) (i : Nat) : Stays s (s.record (.turned i)) := ⟨rfl, rfl⟩

theorem stays_counted (s : State σ) (i : Nat) : Stays s (Blame.counted s i) := ⟨rfl, rfl⟩

theorem stays_acted (h : Acted s t) : Stays s t := by
  cases h with
  | worked h => exact ⟨by rw [h.run], by rw [h.run]⟩
  | assigned _ h =>
    obtain ⟨v, run⟩ := h.run
    exact ⟨by rw [run], by rw [run]⟩

theorem stays_begins {p : Step} (begins : Begins stage (innerAt stage depth) s p u) :
    Stays s (started stage p u) := by
  have told : Stays u (started stage p u) := ⟨rfl, rfl⟩
  exact ((stays_turned s _).trans (stays_heeds (begins.heeds ""))).trans told

end Stays

def Returning (stage : Stage σ) (depth : Nat) (level : Option Nat) : Prop :=
  ∀ (size : Nat) (s : State σ), Fits s →
    Ends (blockOf stage (innerAt stage depth) level size) s fun _ t => Stays s t

section Parts
variable {level : Option Nat} (blocks : Returning stage depth level) {s : State σ}
include blocks

theorem rounds_stays (size left i : Nat) (success : Bool) (fits : Fits s) :
    Ends (Action.rounds (blockOf stage (innerAt stage depth) level) size left i success) s
      fun _ t => Stays s t := by
  have all : Ends (Action.rounds (blockOf stage (innerAt stage depth) level) size left i success) s
      fun _ t => Fits s → Stays s t := by
    apply Blame.rounds_keep
    · exact fun s _ => .refl s
    · exact fun first rest fits => (first fits).trans (rest ((first fits).fits fits))
    · exact fun s i _ => stays_counted s i
    · exact fun s fits => blocks size s fits
  exact all fits

theorem action_stays {p : Step} (here : s.run.step? = some p) (fits : Fits s) :
    Ends (Action.perform stage (blockOf stage (innerAt stage depth) level) p.kind) s
      fun _ t => Stays s t := by
  cases kind : p.kind with
  | loop =>
    rw [← kind]
    apply loop_ends here kind
    · exact fun _ _ => .refl s
    · exact fun n _ => rounds_stays blocks _ n 1 true fits
  | branch =>
    rw [← kind]
    apply branch_ends here kind
    · exact fun _ _ => .refl s
    · exact fun _ _ _ => .refl s
    · exact fun _ _ _ => blocks _ s fits
  | _ =>
    rw [← kind]
    refine ends_mono (Scenario.action_ends here (by rw [kind]; rfl)) fun _ t done => ?_
    rcases done with worked | ⟨name, known, assigns⟩
    · exact stays_acted (.worked worked)
    · exact stays_acted (.assigned known assigns)

theorem carry_stays {p : Step} (here : s.run.step? = some p) (fits : Fits s)
    {advice : List (Interceptor Case)} (own : ∀ i ∈ advice, i ∈ s.run.aspect) (n : Nat) :
    Ends (Blame.carry stage (innerAt stage depth) (blockOf stage (innerAt stage depth) level)
      advice p n) s fun r t => Stays s t ∧ ∀ o, r = .ok o → o.consumed = n := by
  simp only [Blame.carry, Act.emit, ends_bind, ends_getRun, ends_modifyWorld, ends_outcome]
  have told : Stays s (started stage p s) := ⟨rfl, rfl⟩
  have acts := action_stays blocks (told.step?.trans here) (told.fits fits)
  refine ends_mono (ends_and acts (kept_action stage depth level _ p.kind)) ?_
  rintro r t ⟨acted, same⟩
  have advice : ∀ i ∈ advice, i ∈ t.run.aspect := fun i hi => same.aspect ▸ own i hi
  have judged := judge_heeds stage depth "" advice p (p.label s.run.row) r
  refine ends_mono judged fun q v heeded => ?_
  have stayed := (told.trans acted).trans (stays_heeds heeded)
  cases q with
  | ok c =>
    refine ⟨stayed, fun o h => ?_⟩
    cases h
    rfl
  | error f => exact ⟨stayed, fun o h => by cases h⟩

/-- A step that is executed leaves its run where it stood, also where it fails. -/
theorem executeStep_stays {p : Step} (here : s.run.step? = some p) (fits : Fits s) :
    Ends (executeStep stage (innerAt stage depth) (blockOf stage (innerAt stage depth) level) p) s
      fun r t => Stays s t ∧ ∀ o, r = .ok o → o.consumed = Action.consumed s.run p := by
  rw [Blame.executeStep_iff]
  have passed : ∀ (t : State σ), Stays s t → Stays s t ∧ ∀ o, (.ok ⟨true, Action.consumed s.run p⟩ :
      Except Fault Outcome) = .ok o → o.consumed = Action.consumed s.run p := by
    rintro t stayed
    refine ⟨stayed, fun o h => ?_⟩
    cases h
    rfl
  split
  · exact passed s (.refl s)
  · have own : ∀ i ∈ s.run.aspect.advice p s.run.row, i ∈ s.run.aspect :=
      fun _ => Aspect.mem_of_mem_advice
    apply ends_seq (adviseAll_heeds stage depth "" own .before p)
    · intro c u heeded
      have stayed := stays_heeds heeded
      cases c with
      | true =>
        refine ends_mono (carry_stays blocks (stayed.step?.trans here) (stayed.fits fits)
          (fun i hi => heeded.aspect ▸ own i hi) _) ?_
        exact fun _ _ carried => ⟨stayed.trans carried.1, carried.2⟩
      | false => exact passed u stayed
    · exact fun _ u heeded => ⟨stays_heeds heeded, fun o h => by cases h⟩

/-- What a step accounts for begins with the step and ends within the list. -/
structure Counted (s : State σ) (o : Outcome) : Prop where
  pos : 1 ≤ o.consumed
  inside : ∀ i : Nat, s.run.cursor.index = i → i < s.run.case.steps.length →
    i + o.consumed ≤ s.run.case.steps.length

omit blocks in
theorem counted_one (s : State σ) (b : Bool) : Counted s ⟨b, 1⟩ :=
  ⟨Nat.le_refl 1, fun _ _ inside => inside⟩

omit blocks in
theorem counted_consumed {o : Outcome} {p : Step} (h : o.consumed = Action.consumed s.run p) :
    Counted s o := by
  have owned : Action.owned s.run p ≤ s.run.remaining := Nat.min_le_right _ _
  constructor
  · rw [h, Action.consumed]
    split <;> omega
  · intro i stands inside
    simp only [Run.remaining, Cursor.current?_eq_some.2 stands] at owned
    rw [h, Action.consumed]
    split <;> omega

theorem current_stays (fits : Fits s) :
    Ends (executeCurrent stage (innerAt stage depth) (blockOf stage (innerAt stage depth) level)) s
      fun r t => Stays s t ∧ ∀ o, r = .ok o → Counted s o := by
  rw [Blame.executeCurrent_iff]
  have turned := stays_turned s (s.run.cursor.current?.getD 0)
  have passed : ∀ (t : State σ), Stays s t → Stays s t ∧ ∀ o, (.ok ⟨true, 1⟩ :
      Except Fault Outcome) = .ok o → Counted s o := by
    rintro t stayed
    refine ⟨stayed, fun o h => ?_⟩
    cases h
    exact counted_one s true
  cases here : s.run.step? with
  | none => exact passed s (.refl s)
  | some p =>
    dsimp only
    split
    · refine ends_mono (executeStep_stays blocks (turned.step?.trans here) (turned.fits fits)) ?_
      exact fun _ _ done => ⟨turned.trans done.1, fun o h => counted_consumed (done.2 o h)⟩
    · exact passed _ turned

end Parts

section Blocks
variable {s : State σ}

theorem walk_returns {level : Nat} (blocks : Returning stage depth (some level))
    {origin last : Nat} (back : (origin : Int) ≤ Cursor.largest)
    (end_ : (last : Int) ≤ Cursor.largest) (left index : Nat) (success : Bool)
    (length : (s.run.case.steps.length : Int) ≤ Cursor.largest) :
    Ends (walk stage (innerAt stage depth) (blockOf stage (innerAt stage depth) (some level))
      origin last left index success) s
      fun _ t => t.run.case = s.run.case ∧ t.run.cursor.index = origin := by
  have home : (origin : Int).bmod Text.word = origin := Cursor.bmod_word back
  induction left generalizing s index success with
  | zero =>
    rw [Blame.walk_zero, home]
    exact ⟨rfl, rfl⟩
  | succ left ih =>
    rw [Blame.walk_iff]
    split
    · rw [home]
      exact ⟨rfl, rfl⟩
    · rename_i within
      have small : (index : Int) ≤ Cursor.largest := by omega
      rw [Cursor.bmod_word small, ends_bind, ends_outcome]
      refine ends_mono (current_stays blocks (fits_standing length small)) ?_
      rintro r u ⟨stayed, -⟩
      have same : u.run.case = s.run.case := stayed.case
      cases r with
      | error f =>
        simp only [Blame.proceed, ends_bind, Conduct.moveTo_iff, home]
        exact ⟨same, rfl⟩
      | ok done =>
        refine ends_mono (ih (index + done.consumed) (done.success && success) (same ▸ length)) ?_
        exact fun _ _ rest => ⟨rest.1.trans same, rest.2⟩

theorem blockAt_returns (stage : Stage σ) (depth level : Nat) :
    Returning stage depth (some level) := by
  induction level with
  | zero => exact fun _ s _ => .refl s
  | succ level ih =>
    intro size s fits
    show Ends (blockAt stage (innerAt stage depth) (level + 1) size) s _
    rw [blockAt, ends_bind, ends_getRun]
    cases stands : s.run.cursor.current? with
    | none =>
      simp only [stands]
      exact .refl s
    | some origin =>
      simp only [stands]
      have place := Cursor.current?_eq_some.1 stands
      have length := fits.length
      refine ends_mono (walk_returns ih (place ▸ fits.index) (by omega) _ _ true length) ?_
      exact fun _ _ walked => ⟨walked.1, walked.2.trans place.symm⟩

theorem returning (stage : Stage σ) (depth : Nat) (level : Option Nat) :
    Returning stage depth level := by
  cases level with
  | some level => exact blockAt_returns stage depth level
  | none =>
    intro size s fits
    show Ends (block stage (innerAt stage depth) size) s _
    rw [block, ends_bind, ends_getRun]
    exact blockAt_returns stage depth _ size s fits

theorem hasNext_stays (s : State σ) :
    Ends (hasNext : Act σ Fault Bool) s fun r t => Stays s t ∧
      ∃ b, r = .ok b ∧ (b = true → s.run.cursor.index + 1 < s.run.case.steps.length) := by
  have needed : ∀ c : Cursor, c.index = s.run.cursor.index →
      c.needsRunning s.run.lastIndex = true →
        s.run.cursor.index + 1 < s.run.case.steps.length := by
    intro c same more
    rw [Cursor.needsRunning, Bool.and_eq_true, decide_eq_true_iff, same, Run.lastIndex] at more
    omega
  simp only [hasNext, ends_bind, ends_get]
  split
  · exact ⟨⟨rfl, rfl⟩, _, rfl, needed _ rfl⟩
  · exact ⟨.refl s, _, rfl, needed _ rfl⟩

/-- A step that has its turn brings the run on by one step at least, within the list. -/
theorem next_strides (ahead : -1 ≤ s.run.cursor.index)
    (more : s.run.cursor.index + 1 < s.run.case.steps.length)
    (length : (s.run.case.steps.length : Int) ≤ Cursor.largest) :
    Ends (Execution.next stage (innerAt stage depth)) s fun _ t =>
      t.run.case = s.run.case ∧ s.run.cursor.index < t.run.cursor.index ∧
        t.run.cursor.index < s.run.case.steps.length := by
  have place : s.run.cursor.startStep.index = s.run.cursor.index + 1 :=
    Cursor.forward_index (by decide) (by omega)
  have fits : Fits (s.standing s.run.cursor.startStep.index) := fits_standing length (by omega)
  rw [Blame.next_iff]
  apply ends_seq (current_stays (returning stage depth none) fits)
  · rintro o t ⟨stayed, counted⟩
    have here : t.run.cursor.index = s.run.cursor.index + 1 := stayed.index.trans place
    obtain ⟨i, stands⟩ : ∃ i : Nat, s.run.cursor.index + 1 = i :=
      Int.eq_ofNat_of_zero_le (by omega)
    have inside : i + o.consumed ≤ s.run.case.steps.length :=
      (counted o rfl).inside i (place.trans stands) (Int.ofNat_lt.1 (stands ▸ more))
    have first := (counted o rfl).pos
    have moved : (t.run.cursor.forward (o.consumed - 1)).index =
        t.run.cursor.index + (o.consumed - 1 : Nat) :=
      Cursor.forward_index (by omega) (by omega)
    rw [Blame.pass_iff]
    refine ⟨stayed.case, ?_, ?_⟩
    · show _ < (t.run.cursor.forward (o.consumed - 1)).index
      omega
    · show (t.run.cursor.forward (o.consumed - 1)).index < _
      omega
  · rintro f t ⟨stayed, -⟩
    have here : t.run.cursor.index = s.run.cursor.index + 1 := stayed.index.trans place
    refine ⟨stayed.case, ?_, ?_⟩
    · omega
    · omega

end Blocks

end Visiting

end Scenario
