import Scenario.Proofs.PassingAdvice
import Scenario.Proofs.ToldProblems

/-!
# What advice leaves of its run

Advice on a step leaves the case and the place of its run as they are. The only
variables that change are those that a hook assigns, and no loop of the run
begins a round meanwhile: rounds inside an advice case belong to a run of their
own.
-/

set_option autoImplicit false

namespace Scenario
open Scenario.Act Scenario.Execution Scenario.Account

variable {σ : Type} {stage : Stage σ} {depth : Nat}

namespace TraceEntry

def round? : TraceEntry → Option Nat
  | .round i => some i
  | _ => none

/-- A run turns to a step, starts one, or begins a round of a loop. -/
def proceeds : TraceEntry → Bool
  | .turned _ => true
  | .event (.started _) => true
  | .round _ => true
  | _ => false

theorem round?_of_idle {e : TraceEntry} (h : e.proceeds = false) : e.round? = none := by
  cases e with
  | round _ => cases h
  | _ => rfl

theorem skim_append (e : TraceEntry) (n : Nat) (kept kept' : List TraceEntry) :
    e.skim (n, kept ++ kept') = ((e.skim (n, kept)).1, (e.skim (n, kept)).2 ++ kept') := by
  unfold skim
  split
  · rfl
  · rfl
  · rfl
  · dsimp only
    split <;> rfl

theorem skim_depth (e : TraceEntry) (n : Nat) (kept : List TraceEntry) (b : Bool) :
    (e.skim (n, kept)).1 = (e.scan (n, b)).1 := by
  cases e with
  | advised byHook _ _ => cases byHook <;> cases n <;> rfl
  | adviceRaised byHook _ _ => cases byHook <;> cases n <;> rfl
  | _ => cases n <;> rfl

theorem skim_within (e : TraceEntry) (n : Nat) (kept kept' : List TraceEntry) :
    (e.skim (n + 1, kept)).1 = (e.skim (n, kept')).1 ∨
      (e.skim (n + 1, kept)).1 = (e.skim (n, kept')).1 + 1 ∧ (e.skim (n + 1, kept)).2 = kept := by
  cases e with
  | advised byHook _ _ => cases byHook <;> cases n <;> simp [skim]
  | adviceRaised byHook _ _ => cases byHook <;> cases n <;> simp [skim]
  | _ => cases n <;> simp [skim]

end TraceEntry

section Skim
variable {l l' : List TraceEntry}

theorem skim_count (l : List TraceEntry) (n : Nat) (kept : List TraceEntry) (b : Bool) :
    (l.foldr TraceEntry.skim (n, kept)).1 = (l.foldr TraceEntry.scan (n, b)).1 := by
  induction l with
  | nil => rfl
  | cons e l ih =>
    show (e.skim (_, _)).1 = (e.scan (_, _)).1
    rw [ih]
    exact e.skim_depth _ _ _

theorem skim_level (h : Level l) (n : Nat) (kept : List TraceEntry) :
    (l.foldr TraceEntry.skim (n, kept)).1 = n := by
  rw [skim_count l n kept false, h]

theorem skim_later (l : List TraceEntry) (n : Nat) (kept kept' : List TraceEntry) :
    l.foldr TraceEntry.skim (n, kept ++ kept') =
      ((l.foldr TraceEntry.skim (n, kept)).1, (l.foldr TraceEntry.skim (n, kept)).2 ++ kept') := by
  induction l with
  | nil => rfl
  | cons e l ih =>
    rw [List.foldr_cons, ih, TraceEntry.skim_append]
    rfl

/-- One advice case further inside a record counts one case more and keeps nothing of its own,
until the case ends. -/
theorem skim_apart (l : List TraceEntry) (n : Nat) (kept : List TraceEntry) :
    (l.foldr TraceEntry.skim (n + 1, kept)).1 = (l.foldr TraceEntry.skim (n, [])).1 ∨
      (l.foldr TraceEntry.skim (n + 1, kept)).1 = (l.foldr TraceEntry.skim (n, [])).1 + 1 ∧
        (l.foldr TraceEntry.skim (n + 1, kept)).2 = kept := by
  induction l with
  | nil => exact .inr ⟨rfl, rfl⟩
  | cons e l ih =>
    rw [List.foldr_cons, List.foldr_cons]
    generalize l.foldr TraceEntry.skim (n + 1, kept) = deep at ih
    generalize l.foldr TraceEntry.skim (n, []) = flat at ih
    obtain ⟨d, k⟩ := deep
    obtain ⟨f, k'⟩ := flat
    rcases ih with same | ⟨deeper, unkept⟩
    · left
      cases same
      rw [e.skim_depth d k false, e.skim_depth d k' false]
    · cases deeper
      cases unkept
      exact e.skim_within f k k'

theorem skim_hidden (h : Level l) (n : Nat) (kept : List TraceEntry) :
    l.foldr TraceEntry.skim (n + 1, kept) = (n + 1, kept) := by
  have inside := skim_level h (n + 1) kept
  rcases skim_apart l n kept with same | ⟨_, unkept⟩
  · rw [inside, skim_level h n []] at same
    omega
  · exact Prod.ext inside unkept

theorem unadvised_append (h : Level l) : unadvised (l' ++ l) = unadvised l' ++ unadvised l := by
  have before : l.foldr TraceEntry.skim (0, []) = (0, unadvised l) :=
    Prod.ext (skim_level h 0 []) rfl
  rw [unadvised, List.foldr_append, before]
  exact congrArg Prod.snd (skim_later l' 0 [] (unadvised l))

theorem unadvised_case (h : Level l) (k : AdviceKind) {e : TraceEntry}
    (he : ∀ kept, e.skim (1, kept) = (0, kept)) :
    unadvised (e :: (l ++ [.adviceBegun k])) = [] := by
  have inside : (l ++ [TraceEntry.adviceBegun k]).foldr TraceEntry.skim (0, []) = (1, []) := by
    rw [List.foldr_append]
    exact skim_hidden h 0 []
  rw [unadvised, List.foldr_cons, inside, he]

/-- The numbers of the rounds that loops of the run itself began, the last one first. -/
def ownRounds (l : List TraceEntry) : List Nat := (unadvised l).filterMap TraceEntry.round?

theorem ownRounds_append (h : Level l) : ownRounds (l' ++ l) = ownRounds l' ++ ownRounds l := by
  rw [ownRounds, unadvised_append h, List.filterMap_append]
  rfl

theorem mem_of_mem_unadvised {e : TraceEntry} (h : e ∈ unadvised l) : e ∈ l := by
  have step : ∀ (f : TraceEntry) (st : Nat × List TraceEntry), e ∈ (f.skim st).2 →
      e = f ∨ e ∈ st.2 := by
    intro f st
    unfold TraceEntry.skim
    split
    · exact .inr
    · exact .inr
    · exact .inr
    · split
      · exact List.mem_cons.1
      · exact .inr
  rw [unadvised] at h
  induction l with
  | nil => exact h
  | cons f l ih =>
    rcases step f _ h with same | earlier
    · exact List.mem_cons.2 (.inl same)
    · exact List.mem_cons_of_mem f (ih earlier)

end Skim

structure Idle (l : List TraceEntry) : Prop where
  level : Level l
  still : ∀ e ∈ unadvised l, e.proceeds = false

section Idle
variable {l l' : List TraceEntry}

theorem Idle.rounds (h : Idle l) : ownRounds l = [] :=
  List.filterMap_eq_nil_iff.2 fun e he => TraceEntry.round?_of_idle (h.still e he)

theorem Idle.append (h : Idle l) (h' : Idle l') : Idle (l' ++ l) where
  level := (level_append h.level h'.level).1
  still := by
    rw [unadvised_append h.level]
    exact List.forall_mem_append.2 ⟨h'.still, h.still⟩

theorem idle_silent (silent : Silent l) (h : ∀ e ∈ l, e.proceeds = false) : Idle l :=
  ⟨(level_silent silent).1, fun e he => h e (mem_of_mem_unadvised he)⟩

theorem idle_nil : Idle [] := idle_silent (by simp [Silent]) (by simp)

theorem idle_single {e : TraceEntry} (he : ∀ n b, e.scan (n, b) = (n, b || (n == 0 && e.halts)))
    (still : e.proceeds = false) : Idle [e] := by
  apply Idle.mk (level_single he).1
  intro f hf
  rw [List.mem_singleton.1 (mem_of_mem_unadvised hf)]
  exact still

theorem idle_event {e : Event} (still : (TraceEntry.event e).proceeds = false) :
    Idle [.event e] := idle_single (fun _ _ => by simp [TraceEntry.halts]) still

theorem idle_hook (k : AdviceKind) (r : Except Fault Bool) :
    Idle [TraceEntry.answered true k r] := by
  cases r with
  | ok b => exact idle_single (fun _ _ => rfl) rfl
  | error f => exact idle_single (fun _ _ => rfl) rfl

theorem idle_case (h : Level l) (k : AdviceKind) (r : Except Fault Bool) :
    Idle (TraceEntry.answered false k r :: (l ++ [.adviceBegun k])) := by
  apply Idle.mk
  · apply (level_case h k _).1
    cases r <;> exact fun _ _ => rfl
  · rw [unadvised_case h k (by cases r <;> exact fun _ => rfl)]
    exact List.forall_mem_nil _

end Idle

namespace Interceptor

def hook? {C : Type} (k : AdviceKind) : Interceptor C → Option Hook
  | .script _ _ _ _ _ => none
  | .hooks _ before after failure _ => pick k before after failure

end Interceptor

def Hook.Spares (key : String) (h : Hook) : Prop := ∀ call, key ∉ Assoc.keys (h call).assign

namespace Aspect

def Spares (key : String) (a : Aspect) : Prop :=
  ∀ i ∈ a, ∀ k h, i.hook? k = some h → h.Spares key

theorem mem_of_mem_advice {a : Aspect} {p : Step} {row : Row} {i : Interceptor Case}
    (h : i ∈ a.advice p row) : i ∈ a := (List.mem_filter.1 h).1

end Aspect

theorem Assoc.get?_putAll_other {α : Type} (m : Assoc α) {entries : Assoc α} {key : String}
    (other : key ∉ keys entries) : get? (putAll m entries) key = get? m key := by
  induction entries generalizing m with
  | nil => rfl
  | cons e rest ih =>
    rw [keys, List.map_cons, List.mem_cons, not_or] at other
    show get? (putAll (put m e.1 e.2) rest) key = get? m key
    rw [ih _ other.2, get?_put_other m e.2 other.1]

structure Heeds (key : String) (s t : State σ) : Prop where
  case : t.run.case = s.run.case
  aspect : t.run.aspect = s.run.aspect
  index : t.run.cursor.index = s.run.cursor.index
  spared : s.run.aspect.Spares key → t.run.row.get? key = s.run.row.get? key
  idle : Along Idle s t

section Heeds
variable {key : String} {s t u : State σ}

theorem Heeds.refl (s : State σ) : Heeds key s s := ⟨rfl, rfl, rfl, fun _ => rfl, [], rfl, idle_nil⟩

theorem Heeds.trans (h : Heeds key s t) (h' : Heeds key t u) : Heeds key s u where
  case := h'.case.trans h.case
  aspect := h'.aspect.trans h.aspect
  index := h'.index.trans h.index
  spared := fun spares => (h'.spared (h.aspect ▸ spares)).trans (h.spared spares)
  idle := along_seq h.idle h'.idle fun _ _ => Idle.append

theorem Heeds.step (h : Heeds key s t) : t.run.step? = s.run.step? := by
  rw [Run.step?, Run.step?, Cursor.current?, Cursor.current?, h.index, h.case]

theorem heeds_record {e : TraceEntry} (h : Idle [e]) : Heeds key s (s.record e) :=
  ⟨rfl, rfl, rfl, fun _ => rfl, along_record h⟩

theorem heeds_emit {e : Event} (still : (TraceEntry.event e).proceeds = false) :
    Heeds key s (s.emit stage e) :=
  ⟨rfl, rfl, rfl, fun _ => rfl, along_emit (idle_event still)⟩

theorem heeds_hookCalled (note : Option String) :
    Heeds key s { s with world := s.world.hookCalled note } := by
  cases note with
  | none => exact ⟨rfl, rfl, rfl, fun _ => rfl, [], rfl, idle_nil⟩
  | some n =>
    have noted : Idle [.note n] := idle_single (by simp [TraceEntry.scan, TraceEntry.halts]) rfl
    exact ⟨rfl, rfl, rfl, fun _ => rfl, [.note n], rfl, noted⟩

theorem heeds_assigned {entries : Assoc String}
    (spares : s.run.aspect.Spares key → key ∉ Assoc.keys entries) :
    Heeds key s { s with run := { s.run with row := s.run.row.putAll entries } } :=
  ⟨rfl, rfl, rfl, fun h => Assoc.get?_putAll_other _ (spares h), [], rfl, idle_nil⟩

theorem heeds_stopped (k : AdviceKind) (p : Step) :
    Heeds key s ⟨(s.world.stop s.run.signal).record (.stopped s.run.signal k p),
      { s.run with cursor := s.run.cursor.stop }⟩ := by
  have stopped : Idle [.stopped s.run.signal k p] :=
    idle_single (by simp [TraceEntry.scan, TraceEntry.halts]) rfl
  exact ⟨rfl, rfl, rfl, fun _ => rfl, [.stopped s.run.signal k p], rfl, stopped⟩

theorem callHook_heeds (key : String) (h : Hook) (k : AdviceKind) (p : Step)
    (spares : s.run.aspect.Spares key → h.Spares key) :
    Ends (callHook h k p) s fun _ t => Heeds key s t := by
  have unassigned := fun free => spares free ⟨s.run.name, k, p, s.run.row, s.world.hookCalls⟩
  simp only [callHook, ends_bind, ends_get, ends_modifyWorld, ends_modifyRun]
  generalize h ⟨s.run.name, k, p, s.run.row, s.world.hookCalls⟩ = a at unassigned
  have called : Heeds key s { s with world := s.world.hookCalled a.note } := heeds_hookCalled a.note
  have assigned := called.trans (heeds_assigned unassigned)
  cases a.stop with
  | true =>
    simp only [if_true, Act.stop, ends_bind, ends_modifyRun, ends_getRun, ends_modifyWorld,
      ends_conclude]
    exact assigned.trans (heeds_stopped k p)
  | false =>
    simp only [Bool.false_eq_true, if_false, ends_conclude]
    exact assigned

variable (stage depth key)

theorem runAdvice_heeds (c : Case) (k : AdviceKind) (p : Step) :
    Ends (recorded false k (runAdvice stage (innerAt stage depth) c k p)) s
      fun _ t => Heeds key s t := by
  rw [recorded_ends, runAdvice_ends]
  have lawful : (Telling.course σ).Lawful stage := Telling.lawful
  have ends := (Course.innerAt_ends lawful depth).1 (adviceStart stage s c p k) trivial
  refine ends_mono ends fun r v whole => ?_
  have levels : Along Level (adviceStart stage s c p k) v :=
    along_mono whole.1 fun _ ended => ended.closed.level
  refine ⟨rfl, rfl, rfl, fun _ => rfl, ?_⟩
  exact Telling.along_advice levels fun _ level => idle_case level k r

theorem advise_heeds (k : AdviceKind) (p : Step) {i : Interceptor Case} (hi : i ∈ s.run.aspect) :
    Ends (advise stage (innerAt stage depth) k p i) s fun _ t => Heeds key s t := by
  cases i with
  | script q before after failure takesOver =>
    simp only [advise]
    split
    · exact runAdvice_heeds stage depth key _ k p
    · exact Heeds.refl s
  | hooks q before after failure takesOver =>
    simp only [advise]
    split
    · rename_i h hh
      rw [recorded_ends]
      refine ends_mono (callHook_heeds key h k p fun free => free _ hi k h hh) fun r t called => ?_
      exact called.trans (heeds_record (idle_hook k r))
    · exact Heeds.refl s

variable {advice : List (Interceptor Case)} (hl : ∀ i ∈ advice, i ∈ s.run.aspect)
include hl

theorem adviseAll_heeds (k : AdviceKind) (p : Step) :
    Ends (adviseAll stage (innerAt stage depth) k p advice) s fun _ t => Heeds key s t := by
  induction advice generalizing s with
  | nil => exact Heeds.refl s
  | cons i l ih =>
    rw [adviseAll]
    apply ends_seq (advise_heeds stage depth key k p (hl i (by simp)))
    · intro b t heeded
      have rest : ∀ j ∈ l, j ∈ t.run.aspect := fun j hj => heeded.aspect ▸ hl j (by simp [hj])
      cases b with
      | true => exact ends_mono (ih rest) fun _ _ => heeded.trans
      | false => exact heeded
    · exact fun _ _ heeded => heeded

theorem adviseEvery_heeds (k : AdviceKind) (p : Step) (b : Bool) :
    Ends (adviseEvery stage (innerAt stage depth) k p advice b) s fun _ t => Heeds key s t := by
  induction advice generalizing s b with
  | nil => exact Heeds.refl s
  | cons i l ih =>
    rw [adviseEvery]
    apply ends_seq (advise_heeds stage depth key k p (hl i (by simp)))
    · intro c t heeded
      have rest : ∀ j ∈ l, j ∈ t.run.aspect := fun j hj => heeded.aspect ▸ hl j (by simp [hj])
      exact ends_mono (ih rest (c && b)) fun _ _ => heeded.trans
    · exact fun _ _ heeded => heeded

theorem failed_heeds (p : Step) (label : String) :
    Ends (failed stage (innerAt stage depth) advice p label) s fun _ t => Heeds key s t := by
  simp only [failed, Act.emit, ends_bind, ends_modifyWorld, ends_outcome]
  have told : Heeds key s (s.emit stage (.failure (label ++ " failed"))) := heeds_emit rfl
  have heard := adviseEvery_heeds stage depth key
    (s := s.emit stage (.failure (label ++ " failed"))) hl .failure p true
  refine ends_mono heard fun r t heeded => ?_
  have ended : Heeds key s (t.emit stage .ended) := (told.trans heeded).trans (heeds_emit rfl)
  cases r with
  | error f => exact ended
  | ok b =>
    dsimp only
    split <;> exact ended

theorem raised_heeds (p : Step) (f : Fault) :
    Ends (raised stage (innerAt stage depth) advice p f) s fun _ t => Heeds key s t := by
  simp only [raised, Act.emit, ends_bind, ends_modifyWorld, ends_outcome]
  have told : Heeds key s (s.emit stage (.error f)) := heeds_emit rfl
  have heard := adviseEvery_heeds stage depth key (s := s.emit stage (.error f)) hl .failure p true
  refine ends_mono heard fun r t heeded => ?_
  exact (told.trans heeded).trans (heeds_emit rfl)

theorem succeeded_heeds (p : Step) (label : String) :
    Ends (succeeded stage (innerAt stage depth) advice p label) s fun _ t => Heeds key s t := by
  have accepted : ∀ (b : Bool) (t : State σ), Heeds key s t →
      Ends (if b = true then do Act.emit stage .ended; pure true
        else failed stage (innerAt stage depth) advice p label) t fun _ u => Heeds key s u := by
    intro b t heeded
    cases b with
    | true => exact heeded.trans (heeds_emit rfl)
    | false =>
      exact ends_mono (failed_heeds stage depth key (fun i hi => heeded.aspect ▸ hl i hi) p label)
        fun _ _ => heeded.trans
  simp only [succeeded]
  split
  · exact ends_seq (adviseAll_heeds stage depth key hl .after p) accepted fun _ _ heeded => heeded
  · exact accepted true s (.refl s)

theorem judge_heeds (p : Step) (label : String) (r : Except Problem Bool) :
    Ends (judge stage (innerAt stage depth) advice p label r) s fun _ t => Heeds key s t := by
  rcases r with (f | f | m) | b
  · exact heeds_emit rfl
  · exact raised_heeds stage depth key hl p f
  · exact raised_heeds stage depth key hl p _
  · simp only [judge]
    split
    · exact succeeded_heeds stage depth key hl p label
    · exact failed_heeds stage depth key hl p label

end Heeds

end Scenario
