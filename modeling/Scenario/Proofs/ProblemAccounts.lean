import Scenario.Proofs.RecordedEntries
import Scenario.Proofs.RecordedProblems

/-!
# Accounts of problems

What a part of a run recorded accounts for how the part ended: by the events
that the listeners were told, by a hook that raised a fault of its own, or by a
stop. Advice cases speak for themselves, so hooks and stops are counted outside
of them.
-/

set_option autoImplicit false

namespace Scenario
open Scenario.Recorder

namespace TraceEntry

/-- A hook raised a failed verification, or a run was stopped. -/
def halts : TraceEntry → Bool
  | .adviceRaised true _ f => f.isVerification
  | .endedStopped => true
  | _ => false

/-- The depth of advice cases after an entry, and whether something outside of
them halted a run. -/
def scan (e : TraceEntry) (st : Nat × Bool) : Nat × Bool :=
  match e with
  | .adviceBegun _ => (st.1 + 1, st.2)
  | .advised false _ _ => (st.1 - 1, st.2)
  | .adviceRaised false _ _ => (st.1 - 1, st.2)
  | e => (st.1, st.2 || (st.1 == 0 && e.halts))

@[simp] theorem scan_event (e : Event) (st : Nat × Bool) : (event e).scan st = st := by
  simp [scan, halts]

theorem scan_of_halts_eq_false {e : TraceEntry} (he : e.halts = false) (st : Nat × Bool) :
    (e.scan st).2 = st.2 := by
  unfold scan
  split <;> simp [he]

theorem scan_of_silent {e : TraceEntry} (he : e.silent = true) (st : Nat × Bool) :
    e.scan st = st := by
  cases e with
  | event _ => cases he
  | adviceBegun _ => cases he
  | advised _ _ _ => cases he
  | adviceRaised _ _ _ => cases he
  | endedStopped => cases he
  | _ => simp [scan, halts]

end TraceEntry

namespace Account

/-- Outside of advice cases a hook raised a failed verification, or a run was
stopped when it came to its end. -/
def halts (l : List TraceEntry) : Bool := (l.foldr TraceEntry.scan (0, false)).2

theorem halts_eq_false {l : List TraceEntry} (h : ∀ e ∈ l, e.halts = false) :
    halts l = false := by
  rw [halts]
  induction l with
  | nil => rfl
  | cons e l ih =>
    rw [List.foldr_cons, TraceEntry.scan_of_halts_eq_false (h e (by simp))]
    exact ih fun f hf => h f (by simp [hf])

def HookErred (l : List TraceEntry) : Prop :=
  ∃ k f, .adviceRaised true k f ∈ l ∧ f.isVerification = false

def ErrorTold (l : List TraceEntry) : Prop := ∃ f, .error f ∈ told l

def ProblemTold (l : List TraceEntry) : Prop := ∃ e ∈ told l, e.isProblem = true

instance (l : List TraceEntry) : Decidable (ProblemTold l) :=
  inferInstanceAs (Decidable (∃ e ∈ told l, e.isProblem = true))

theorem ErrorTold.problem {l : List TraceEntry} : ErrorTold l → ProblemTold l
  | ⟨f, hf⟩ => ⟨.error f, hf, rfl⟩

/-- Advice cases that begin in the list end in it. -/
def Level (l : List TraceEntry) : Prop :=
  ∀ n b, l.foldr TraceEntry.scan (n, b) = (n, b || (n == 0 && halts l))

theorem level_append {l l' : List TraceEntry} (h : Level l) (h' : Level l') :
    Level (l' ++ l) ∧ halts (l' ++ l) = (halts l || halts l') := by
  have both : ∀ n b, (l' ++ l).foldr TraceEntry.scan (n, b) =
      (n, b || (n == 0 && (halts l || halts l'))) := by
    intro n b
    rw [List.foldr_append, h, h', Bool.or_assoc, Bool.and_or_distrib_left]
  have found : halts (l' ++ l) = (halts l || halts l') := by
    rw [halts, both]
    simp
  refine ⟨fun n b => ?_, found⟩
  rw [both, found]

theorem level_single {e : TraceEntry}
    (he : ∀ n b, e.scan (n, b) = (n, b || (n == 0 && e.halts))) :
    Level [e] ∧ halts [e] = e.halts := by
  have found : halts [e] = e.halts := by
    show (e.scan (0, false)).2 = e.halts
    rw [he]
    rfl
  refine ⟨fun n b => ?_, found⟩
  rw [found]
  exact he n b

/-- An advice case hides what halted runs in it. -/
theorem level_case {l : List TraceEntry} {e : TraceEntry} (h : Level l) (k : AdviceKind)
    (he : ∀ n b, e.scan (n + 1, b) = (n, b)) :
    Level (e :: (l ++ [.adviceBegun k])) ∧ halts (e :: (l ++ [.adviceBegun k])) = false := by
  have hidden : ∀ n b, (e :: (l ++ [.adviceBegun k])).foldr TraceEntry.scan (n, b) = (n, b) := by
    intro n b
    rw [List.foldr_cons, List.foldr_append]
    show e.scan (l.foldr TraceEntry.scan (n + 1, b)) = (n, b)
    rw [h]
    simp [he]
  have quiet : halts (e :: (l ++ [.adviceBegun k])) = false := by rw [halts, hidden]
  refine ⟨fun n b => ?_, quiet⟩
  rw [hidden, quiet]
  simp

theorem level_silent {l : List TraceEntry} (h : Silent l) : Level l ∧ halts l = false := by
  have quiet : ∀ st, l.foldr TraceEntry.scan st = st := by
    intro st
    induction l with
    | nil => rfl
    | cons e l ih =>
      rw [List.foldr_cons, ih fun f hf => h f (by simp [hf])]
      exact TraceEntry.scan_of_silent (h e (by simp)) st
  have found : halts l = false := by rw [halts, quiet]
  refine ⟨fun n b => ?_, found⟩
  rw [quiet, found]
  simp

section Told
variable {l l' : List TraceEntry}

theorem hookErred_append : HookErred (l' ++ l) ↔ HookErred l ∨ HookErred l' := by
  constructor
  · rintro ⟨k, f, hm, hf⟩
    rcases List.mem_append.1 hm with hm | hm
    · exact .inr ⟨k, f, hm, hf⟩
    · exact .inl ⟨k, f, hm, hf⟩
  · rintro (⟨k, f, hm, hf⟩ | ⟨k, f, hm, hf⟩)
    · exact ⟨k, f, List.mem_append_right _ hm, hf⟩
    · exact ⟨k, f, List.mem_append_left _ hm, hf⟩

theorem errorTold_append : ErrorTold (l' ++ l) ↔ ErrorTold l ∨ ErrorTold l' := by
  simp only [ErrorTold, told_append, List.mem_append, exists_or]

theorem problemTold_append : ProblemTold (l' ++ l) ↔ ProblemTold l ∨ ProblemTold l' := by
  simp only [ProblemTold, told_append, List.mem_append, or_and_right, exists_or]

end Told

structure Closed (l : List TraceEntry) : Prop where
  level : Level l
  shut : Shut (told l)

structure Clean (l : List TraceEntry) : Prop extends Closed l where
  erred : HookErred l → ErrorTold l
  halted : halts l = true → ProblemTold l

structure Refused (l : List TraceEntry) : Prop extends Clean l where
  charged : Charged (told l)

structure Verified (l : List TraceEntry) : Prop extends Closed l where
  erred : HookErred l → ErrorTold l
  charged : Charged (told l) ∨ halts l = true

structure Erred (l : List TraceEntry) : Prop extends Closed l where
  known : HookErred l ∨ ErrorTold l ∧ Charged (told l)

def Raised (f : Fault) (l : List TraceEntry) : Prop :=
  if f.isVerification then Verified l else Erred l

section Parts
variable {l l' : List TraceEntry}

theorem Closed.append (h : Closed l) (h' : Closed l') : Closed (l' ++ l) := by
  refine ⟨(level_append h.level h'.level).1, ?_⟩
  rw [told_append]
  exact h.shut.append h'.shut

theorem Closed.halts (h : Closed l) (h' : Closed l') :
    Account.halts (l' ++ l) = (Account.halts l || Account.halts l') :=
  (level_append h.level h'.level).2

theorem erred_append (h : HookErred l → ErrorTold l) (h' : HookErred l' → ErrorTold l') :
    HookErred (l' ++ l) → ErrorTold (l' ++ l) := by
  rw [hookErred_append, errorTold_append]
  exact Or.imp h h'

theorem Clean.append (h : Clean l) (h' : Clean l') : Clean (l' ++ l) where
  toClosed := h.toClosed.append h'.toClosed
  erred := erred_append h.erred h'.erred
  halted := by
    rw [h.toClosed.halts h'.toClosed, problemTold_append, Bool.or_eq_true]
    exact Or.imp h.halted h'.halted

theorem Refused.after (h' : Refused l') (h : Clean l) : Refused (l' ++ l) where
  toClean := h.append h'.toClean
  charged := by
    rw [told_append]
    exact h'.charged.right h.shut

theorem Refused.before (h : Refused l) (h' : Clean l') : Refused (l' ++ l) where
  toClean := h.toClean.append h'
  charged := by
    rw [told_append]
    exact h.charged.left _

theorem Refused.verified (h : Refused l) : Verified l := ⟨h.toClosed, h.erred, .inl h.charged⟩

theorem Verified.after (h' : Verified l') (h : Clean l) : Verified (l' ++ l) where
  toClosed := h.toClosed.append h'.toClosed
  erred := erred_append h.erred h'.erred
  charged := by
    rw [told_append, h.toClosed.halts h'.toClosed]
    rcases h'.charged with hc | hh
    · exact .inl (hc.right h.shut)
    · right
      rw [hh, Bool.or_true]

theorem Verified.before (h : Verified l) (h' : Clean l') : Verified (l' ++ l) where
  toClosed := h.toClosed.append h'.toClosed
  erred := erred_append h.erred h'.erred
  charged := by
    rw [told_append, h.toClosed.halts h'.toClosed]
    rcases h.charged with hc | hh
    · exact .inl (hc.left _)
    · right
      rw [hh, Bool.true_or]

theorem Erred.after (h' : Erred l') (h : Closed l) : Erred (l' ++ l) where
  toClosed := h.append h'.toClosed
  known := by
    rw [hookErred_append, errorTold_append, told_append]
    rcases h'.known with hk | ⟨he, hc⟩
    · exact .inl (.inr hk)
    · exact .inr ⟨.inr he, hc.right h.shut⟩

theorem Erred.before (h : Erred l) (h' : Closed l') : Erred (l' ++ l) where
  toClosed := h.toClosed.append h'
  known := by
    rw [hookErred_append, errorTold_append, told_append]
    rcases h.known with hk | ⟨he, hc⟩
    · exact .inl (.inl hk)
    · exact .inr ⟨.inl he, hc.left _⟩

theorem Raised.after {f : Fault} (h' : Raised f l') (h : Clean l) : Raised f (l' ++ l) := by
  unfold Raised at h' ⊢
  split
  · rename_i hf
    rw [if_pos hf] at h'
    exact h'.after h
  · rename_i hf
    rw [if_neg hf] at h'
    exact h'.after h.toClosed

theorem Raised.before {f : Fault} (h : Raised f l) (h' : Clean l') : Raised f (l' ++ l) := by
  unfold Raised at h ⊢
  split
  · rename_i hf
    rw [if_pos hf] at h
    exact h.before h'
  · rename_i hf
    rw [if_neg hf] at h
    exact h.before h'.toClosed

theorem Raised.closed {f : Fault} (h : Raised f l) : Closed l := by
  unfold Raised at h
  split at h
  · exact h.toClosed
  · exact h.toClosed

/-- A property of records that is kept when the run goes on before and after. -/
structure Absorbs (P : List TraceEntry → Prop) : Prop where
  after : ∀ {l l'}, P l' → Clean l → P (l' ++ l)
  before : ∀ {l l'}, P l → Clean l' → P (l' ++ l)

theorem absorbs_clean : Absorbs Clean := ⟨fun h h' => h'.append h, Clean.append⟩

theorem absorbs_refused : Absorbs Refused := ⟨Refused.after, Refused.before⟩

theorem absorbs_raised (f : Fault) : Absorbs (Raised f) := ⟨Raised.after, Raised.before⟩

theorem Refused.raised (h : Refused l) (m : String) : Raised (.verification m) l := h.verified

end Parts

section Entries

theorem clean_silent {l : List TraceEntry} (h : Silent l) : Clean l where
  level := (level_silent h).1
  shut := by
    rw [told_silent h]
    exact shut_nil
  erred := by
    rintro ⟨k, f, hm, _⟩
    cases h _ hm
  halted := by
    rw [(level_silent h).2]
    exact fun hf => by cases hf

theorem additive : Additive Clean where
  append := Clean.append
  silent := clean_silent

theorem clean_event {e : Event} (ho : ∀ n p x, e ≠ .opened n p x) (hc : e ≠ .closed) :
    Clean [.event e] where
  level := (level_single fun _ _ => rfl).1
  shut := shut_single ho hc
  erred := by
    rintro ⟨k, f, hm, _⟩
    simp at hm
  halted := fun h => by cases h

theorem clean_started (l : String) : Clean [.event (.started l)] := clean_event (by simp) (by simp)

theorem clean_ended : Clean [.event .ended] := clean_event (by simp) (by simp)

theorem refused_failure (m : String) : Refused [.event (.failure m)] :=
  ⟨clean_event (by simp) (by simp), charged_problem rfl⟩

theorem refused_error (f : Fault) : Refused [.event (.error f)] :=
  ⟨clean_event (by simp) (by simp), charged_problem rfl⟩

theorem errorTold_error (f : Fault) : ErrorTold [.event (.error f)] :=
  ⟨f, List.mem_singleton_self _⟩

theorem raised_told {l : List TraceEntry} (f : Fault) (h : Closed l) :
    Raised f (l ++ [.event (.error f)]) := by
  have closed := (refused_error f).toClosed.append h
  have error : ErrorTold (l ++ [.event (.error f)]) := errorTold_append.2 (.inl (errorTold_error f))
  have charged : Charged (told (l ++ [.event (.error f)])) := by
    rw [told_append]
    exact (refused_error f).charged.left _
  unfold Raised
  split
  · exact ⟨closed, fun _ => error, .inl charged⟩
  · exact ⟨closed, .inr ⟨error, charged⟩⟩

theorem clean_advised (k : AdviceKind) (b : Bool) : Clean [.advised true k b] where
  level := (level_single fun _ _ => rfl).1
  shut := shut_nil
  erred := by
    rintro ⟨k', f, hm, _⟩
    simp at hm
  halted := fun h => by cases h

theorem raised_hook (k : AdviceKind) (f : Fault) : Raised f [.adviceRaised true k f] := by
  have level := @level_single (.adviceRaised true k f) fun _ _ => rfl
  unfold Raised
  split
  · rename_i hf
    refine ⟨⟨level.1, shut_nil⟩, ?_, .inr (level.2.trans hf)⟩
    rintro ⟨k', f', hm, hf'⟩
    simp at hm
    rw [hm.2, hf] at hf'
    cases hf'
  · rename_i hf
    rw [Bool.not_eq_true] at hf
    exact ⟨⟨level.1, shut_nil⟩, .inl ⟨k, f, List.mem_singleton_self _, hf⟩⟩

end Entries

/-- The fault was told after every suite that the events open was closed, and
nothing was told after it. -/
def Late (f : Fault) (es : List Event) : Prop :=
  ∃ pre g, es = pre ++ [.error g] ∧ Shut pre ∧ (f = g ∨ ∃ run, f = g.inRun run)

/-- What a run or a part of a chain recorded that did not succeed: it blames a
suite or was halted. -/
structure Denied (l : List TraceEntry) : Prop extends Closed l where
  erred : HookErred l → ErrorTold l
  failed : Failed (told l) ∨ halts l = true

structure Broken (f : Fault) (l : List TraceEntry) : Prop extends Closed l where
  known : HookErred l ∨ ErrorTold l ∧ Charged (told l) ∧ (Failed (told l) ∨ Late f (told l))

def Ended (l : List TraceEntry) : Except Fault Bool → Prop
  | .ok true => Clean l
  | .ok false => Denied l
  | .error f => Broken f l

theorem Denied.verified {l : List TraceEntry} (h : Denied l) : Verified l :=
  ⟨h.toClosed, h.erred, h.failed.imp Failed.charged id⟩

theorem Broken.fault {f : Fault} {l : List TraceEntry} (h : Broken f l) : Erred l :=
  ⟨h.toClosed, h.known.imp id fun ⟨he, hc, _⟩ => ⟨he, hc⟩⟩

section Ended
variable {l l' : List TraceEntry}

theorem Ended.closed {r : Except Fault Bool} (h : Ended l r) : Closed l := by
  rcases r with f | _ | _
  · exact h.toClosed
  · exact h.toClosed
  · exact h.toClosed

theorem Ended.erred {b : Bool} (h : Ended l (.ok b)) : HookErred l → ErrorTold l := by
  cases b with
  | false => exact Denied.erred h
  | true => exact Clean.erred h

theorem Broken.after {f : Fault} (h' : Broken f l') (h : Closed l) : Broken f (l' ++ l) where
  toClosed := h.append h'.toClosed
  known := by
    rw [hookErred_append, errorTold_append, told_append]
    rcases h'.known with hk | ⟨he, hc, hl⟩
    · exact .inl (.inr hk)
    · refine .inr ⟨.inr he, hc.right h.shut, hl.imp (Failed.right · _) ?_⟩
      rintro ⟨pre, g, hes, hp, hf⟩
      exact ⟨told l ++ pre, g, by rw [hes, List.append_assoc], h.shut.append hp, hf⟩

theorem Denied.after (h' : Denied l') (h : Closed l) (he : HookErred l → ErrorTold l) :
    Denied (l' ++ l) where
  toClosed := h.append h'.toClosed
  erred := erred_append he h'.erred
  failed := by
    rw [told_append, h.halts h'.toClosed]
    rcases h'.failed with hf | hh
    · exact .inl (hf.right _)
    · right
      rw [hh, Bool.or_true]

theorem Denied.before (h : Denied l) (h' : Closed l') (he : HookErred l' → ErrorTold l') :
    Denied (l' ++ l) where
  toClosed := h.toClosed.append h'
  erred := erred_append h.erred he
  failed := by
    rw [told_append, h.toClosed.halts h']
    rcases h.failed with hf | hh
    · exact .inl (hf.left _)
    · right
      rw [hh, Bool.true_or]

theorem Ended.append {a : Bool} {r : Except Fault Bool} (h : Ended l (.ok a))
    (h' : Ended l' r) : Ended (l' ++ l) (r.map (· && a)) := by
  rcases r with f | b
  · exact h'.after h.closed
  · cases a with
    | false =>
      rw [Except.map, Bool.and_false]
      exact Denied.before h h'.closed h'.erred
    | true =>
      rw [Except.map, Bool.and_true]
      cases b with
      | false => exact Denied.after h' h.closed h.erred
      | true => exact Clean.append h h'

theorem Ended.silent {r : Except Fault Bool} (h : Ended l r)
    (hl : Silent l') : Ended (l' ++ l) r := by
  have clean := clean_silent hl
  rcases r with f | _ | _
  · refine ⟨h.toClosed.append clean.toClosed, ?_⟩
    rw [hookErred_append, errorTold_append, told_append, told_silent hl, List.append_nil]
    rcases h.known with hk | ⟨he, hc, hl⟩
    · exact .inl (.inl hk)
    · exact .inr ⟨.inl he, hc, hl⟩
  · exact Denied.before h clean.toClosed clean.erred
  · exact Clean.append h clean

theorem Ended.stopped {b : Bool} (h : Ended l (.ok b)) : Denied ([.endedStopped] ++ l) where
  toClosed := h.closed.append ⟨(level_single fun _ _ => rfl).1, shut_nil⟩
  erred := erred_append h.erred (by simp [HookErred])
  failed := by
    have stop : Closed [.endedStopped] := ⟨(level_single fun _ _ => rfl).1, shut_nil⟩
    right
    rw [h.closed.halts stop]
    exact Bool.or_true _

theorem ended_fault (f : Fault) : Ended [.event (.error f)] (.error f) where
  toClosed := (refused_error f).toClosed
  known :=
    .inr ⟨errorTold_error f, (refused_error f).charged, .inr ⟨[], f, rfl, shut_nil, .inl rfl⟩⟩

theorem Broken.inRun {f : Fault} (h : Broken f l) (run : String) : Broken (f.inRun run) l where
  toClosed := h.toClosed
  known := by
    rcases h.known with hk | ⟨he, hc, hl⟩
    · exact .inl hk
    · refine .inr ⟨he, hc, hl.imp id ?_⟩
      rintro ⟨pre, g, hes, hp, rfl | ⟨inner, rfl⟩⟩
      · exact ⟨pre, f, hes, hp, .inr ⟨run, rfl⟩⟩
      · exact ⟨pre, g, hes, hp, .inr ⟨inner, Fault.inRun_inRun inner run g⟩⟩

end Ended

section Suite
variable {l : List TraceEntry} (n : String) (p : Script) (x : Row)

theorem hookErred_suite :
    HookErred (.event .closed :: (l ++ [.event (.opened n p x)])) ↔ HookErred l := by
  simp [HookErred]

theorem errorTold_suite :
    ErrorTold (.event .closed :: (l ++ [.event (.opened n p x)])) ↔ ErrorTold l := by
  simp [ErrorTold, told_around]

theorem problemTold_suite :
    ProblemTold (.event .closed :: (l ++ [.event (.opened n p x)])) ↔ ProblemTold l := by
  simp [ProblemTold, told_around, Event.isProblem]

theorem halts_suite :
    halts (.event .closed :: (l ++ [.event (.opened n p x)])) = halts l := by
  simp [halts]

theorem Closed.suite (h : Closed l) :
    Closed (.event .closed :: (l ++ [.event (.opened n p x)])) where
  level := by
    intro k b
    rw [halts_suite, ← h.level k b]
    simp
  shut := by
    rw [told_around]
    exact h.shut.suite n p x

theorem Clean.suite (h : Clean l) :
    Clean (.event .closed :: (l ++ [.event (.opened n p x)])) where
  toClosed := h.toClosed.suite n p x
  erred := by
    rw [hookErred_suite, errorTold_suite]
    exact h.erred
  halted := by
    rw [halts_suite, problemTold_suite]
    exact h.halted

theorem Verified.suite (h : Verified l) :
    Denied (.event .closed :: (l ++ [.event (.opened n p x)])) where
  toClosed := h.toClosed.suite n p x
  erred := by
    rw [hookErred_suite, errorTold_suite]
    exact h.erred
  failed := by
    rw [halts_suite, told_around]
    exact h.charged.imp (fun hc => hc.suite n p x _) id

theorem Erred.suite (h : Erred l) (f : Fault) :
    Broken f (.event .closed :: (l ++ [.event (.opened n p x)])) where
  toClosed := h.toClosed.suite n p x
  known := by
    rw [hookErred_suite, errorTold_suite, told_around]
    rcases h.known with hk | ⟨he, hc⟩
    · exact .inl hk
    · have failed := hc.suite n p x [.closed]
      exact .inr ⟨he, failed.charged, .inl failed⟩

theorem Ended.suite {r : Except Fault Bool} (h : Ended l r) :
    Ended (.event .closed :: (l ++ [.event (.opened n p x)])) r := by
  rcases r with f | _ | _
  · exact Erred.suite n p x (Broken.fault h) f
  · exact Verified.suite n p x (Denied.verified h)
  · exact Clean.suite n p x h

end Suite

section Case
variable {l : List TraceEntry} {k : AdviceKind} {e : TraceEntry}

theorem told_case (he : told [e] = []) : told (e :: (l ++ [.adviceBegun k])) = told l := by
  rw [told_cons, told_append, he, List.append_nil]
  rfl

theorem Closed.case (h : Closed l) (k : AdviceKind) (hs : ∀ n b, e.scan (n + 1, b) = (n, b))
    (he : told [e] = []) : Closed (e :: (l ++ [.adviceBegun k])) where
  level := (level_case h.level k hs).1
  shut := by
    rw [told_case he]
    exact h.shut

theorem hookErred_case (he : ∀ k f, e ≠ .adviceRaised true k f) :
    HookErred (e :: (l ++ [.adviceBegun k])) ↔ HookErred l := by
  simp [HookErred, fun k f => (he k f).symm]

theorem errorTold_case (he : told [e] = []) :
    ErrorTold (e :: (l ++ [.adviceBegun k])) ↔ ErrorTold l := by
  rw [ErrorTold, told_case he]
  rfl

theorem clean_case {b : Bool} (h : Ended l (.ok b)) :
    Clean (.advised false k b :: (l ++ [.adviceBegun k])) where
  toClosed := h.closed.case k (fun _ _ => rfl) rfl
  erred := by
    rw [hookErred_case (by simp), errorTold_case rfl]
    exact h.erred
  halted := by
    have hidden := (@level_case l (.advised false k b) h.closed.level k fun _ _ => rfl).2
    rw [hidden]
    exact fun hf => by cases hf

theorem raised_case {f : Fault} (h : Broken f l) (hf : f.isVerification = false) :
    Raised f (.adviceRaised false k f :: (l ++ [.adviceBegun k])) := by
  rw [Raised, if_neg (by simp [hf])]
  refine ⟨h.toClosed.case k (fun _ _ => rfl) rfl, ?_⟩
  rw [hookErred_case (by simp), errorTold_case rfl, told_case rfl]
  exact h.fault.known

end Case

end Account

end Scenario
