import Scenario.Files

/-!
# Places

The file that a path leads to is known by the pieces of its place, however the
path is written. A reference in a script leads, joined to the directory of the
script, where it leads from the place of the script.
-/

set_option autoImplicit false

namespace Scenario

namespace Path

theorem splitOn_eq (sep : Char) (cs : List Char) : splitOn sep cs = cs.splitOn sep := by
  induction cs with
  | nil => rw [splitOn, List.splitOn_nil]
  | cons c r ih =>
    rw [splitOn, List.splitOn_cons_eq_if_modifyHead, ih]
    obtain ⟨p, ps, split⟩ := List.exists_cons_of_ne_nil (List.splitOn_ne_nil sep r)
    simp only [beq_iff_eq, split, List.modifyHead_cons]

theorem not_mem_splitOn (sep : Char) (cs : List Char) : ∀ p ∈ splitOn sep cs, sep ∉ p := by
  induction cs with
  | nil => simp [splitOn]
  | cons c r ih =>
    rw [splitOn]
    split
    · intro p hp
      rcases List.mem_cons.1 hp with rfl | hp
      · exact List.not_mem_nil
      · exact ih p hp
    next other =>
      split
      · simpa using fun h => other h.symm
      next p ps split =>
        rw [split] at ih
        intro q hq
        rcases List.mem_cons.1 hq with rfl | hq
        · exact fun h => (List.mem_cons.1 h).elim (fun h => other h.symm) (ih p List.mem_cons_self)
        · exact ih q (List.mem_cons_of_mem _ hq)

theorem pieces_ne_nil (path : String) : pieces path ≠ [] := by
  rw [pieces, splitOn_eq]
  simp

theorem not_mem_pieces {path piece : String} (h : piece ∈ pieces path) : '/' ∉ piece.toList := by
  obtain ⟨p, hp, rfl⟩ := List.mem_map.1 h
  rw [String.toList_ofList]
  exact not_mem_splitOn _ _ p hp

theorem pieces_slash (a b : String) : pieces (a ++ "/" ++ b) = pieces a ++ pieces b := by
  have spelled : (a ++ "/" ++ b).toList = a.toList ++ '/' :: b.toList := by simp
  rw [pieces, spelled, splitOn_eq, List.splitOn_append_cons_self, List.map_append, pieces, pieces,
    splitOn_eq, splitOn_eq]

theorem pieces_plain {piece : String} (h : '/' ∉ piece.toList) : pieces piece = [piece] := by
  rw [pieces, splitOn_eq, List.splitOn_eq_singleton h, List.map_singleton, String.ofList_toList]

theorem pieces_ofPieces {l : List String} (nonempty : l ≠ []) (plain : ∀ p ∈ l, '/' ∉ p.toList) :
    pieces (ofPieces l.reverse) = l := by
  rw [ofPieces, List.reverse_reverse]
  induction l with
  | nil => exact absurd rfl nonempty
  | cons p r ih =>
    cases r with
    | nil => rw [String.intercalate_singleton, pieces_plain (plain p List.mem_cons_self)]
    | cons q r =>
      rw [String.intercalate_cons_cons, pieces_slash, pieces_plain (plain p List.mem_cons_self),
        ih (List.cons_ne_nil _ _) fun p hp => plain p (List.mem_cons_of_mem _ hp)]
      rfl

theorem isAbsolute_of_pieces {path : String} {r : List String} (nonempty : r ≠ [])
    (h : pieces path = "" :: r) : isAbsolute path = true := by
  rw [pieces] at h
  rw [isAbsolute]
  cases chars : path.toList with
  | nil =>
    rw [chars] at h
    exact absurd (List.cons.inj h).2.symm nonempty
  | cons c cs =>
    rw [chars, splitOn] at h
    split at h
    next same => simp [same]
    next =>
      split at h
      all_goals
        have first := congrArg String.toList (List.cons.inj h).1
        rw [String.toList_ofList] at first
        cases first

theorem not_isAbsolute_of_pieces {path piece : String} {r : List String} (nonempty : piece ≠ "")
    (h : pieces path = piece :: r) : isAbsolute path = false := by
  rw [isAbsolute]
  cases chars : path.toList with
  | nil => rfl
  | cons c cs =>
    rw [pieces, chars, splitOn] at h
    split at h
    · exact absurd (List.cons.inj h).1.symm nonempty
    next other => simpa using other

theorem trimmed_spec (l : List String) (nonempty : l ≠ []) :
    ∃ idles, l = idles ++ trimmed l ∧ (∀ p ∈ idles, isIdle p = true) ∧ trimmed l ≠ [] := by
  induction l with
  | nil => exact absurd rfl nonempty
  | cons p r ih =>
    cases r with
    | nil => exact ⟨[], rfl, by simp, by simp [trimmed]⟩
    | cons q r =>
      by_cases idle : isIdle p = true
      · obtain ⟨idles, split, all, left⟩ := ih (List.cons_ne_nil _ _)
        rw [trimmed, if_pos idle]
        · exact ⟨p :: idles, congrArg (p :: ·) split, by simpa [idle] using all, left⟩
        · simp
      · rw [trimmed, if_neg idle]
        · exact ⟨[], rfl, by simp, List.cons_ne_nil _ _⟩
        · simp

structure Names (path : String) (init : List String) (name : String) : Prop where
  relative : isAbsolute path = false
  split : pieces path = init ++ [name]
  proper : isIdle name = false
  downward : name ≠ ".."

namespace Names

variable {path name : String} {init : List String}

theorem ne_empty (h : Names path init name) : name ≠ "" := by
  rintro rfl
  cases h.proper

theorem plain (h : Names path init name) : '/' ∉ name.toList :=
  not_mem_pieces (show name ∈ pieces path by simp [h.split])

theorem path_isEmpty (h : Names path init name) : path.isEmpty = false := by
  rw [Bool.eq_false_iff]
  intro empty
  rw [String.isEmpty_iff] at empty
  subst empty
  have last := congrArg List.getLast? h.split
  rw [List.getLast?_concat] at last
  exact h.ne_empty (Option.some.inj last).symm

theorem start (h : Names path init name) (r : List String) : init ≠ "" :: r := by
  rintro rfl
  have absolute := isAbsolute_of_pieces (by simp) h.split
  rw [h.relative] at absolute
  cases absolute

theorem alone (h : Names path init name) : Names name [] name where
  relative := not_isAbsolute_of_pieces h.ne_empty (pieces_plain h.plain)
  split := pieces_plain h.plain
  proper := h.proper
  downward := h.downward

theorem parent (h : Names path init name) :
    (init = [] ∧ (parent? path).getD "" = "") ∨
      ∃ base idles, base ≠ [] ∧ init = base ++ idles ∧ (∀ p ∈ idles, isIdle p = true) ∧
        (parent? path).getD "" = ofPieces base.reverse := by
  have kept : trimmed (pieces path).reverse = name :: init.reverse := by
    rw [h.split, List.reverse_append, List.reverse_singleton, List.singleton_append]
    cases init.reverse with
    | nil => rfl
    | cons q r => rw [trimmed, if_neg (by simp [h.proper])]; simp
  rw [parent?, if_neg (by simp [h.path_isEmpty]), kept]
  cases back : init.reverse with
  | nil =>
    left
    exact ⟨List.reverse_eq_nil_iff.1 back, by simp [h.ne_empty]⟩
  | cons q r =>
    right
    have nonempty : init.reverse ≠ [] := by simp [back]
    obtain ⟨idles, split, all, left⟩ := trimmed_spec init.reverse nonempty
    have parts : init = (trimmed init.reverse).reverse ++ idles.reverse := by
      rw [← List.reverse_append, ← split, List.reverse_reverse]
    refine ⟨(trimmed init.reverse).reverse, idles.reverse, by simpa using left, parts,
      by simpa using all, ?_⟩
    rw [List.reverse_reverse, ← back]
    -- The other cases belong to absolute paths.
    split
    next case => simp at case
    next case => exact absurd (List.cons.inj case).2 nonempty
    next case => exact absurd (List.reverse_eq_iff.1 (List.cons.inj case).2) (h.start [])
    next case =>
      cases case
      split
      next root =>
        rw [root] at parts
        exact absurd parts (h.start _)
      next => rfl

end Names

theorem join_pieces {base path : String} (relative : isAbsolute path = false)
    (start : ∀ r, pieces base ≠ "" :: r) :
    isAbsolute (join base path) = false ∧ ∃ front idles, pieces base = front ++ idles ∧
      (∀ p ∈ idles, isIdle p = true) ∧ pieces (join base path) = front ++ pieces path := by
  have filled : base.isEmpty = false := by
    rw [Bool.eq_false_iff]
    intro empty
    rw [String.isEmpty_iff] at empty
    subst empty
    exact start [] rfl
  have whole : ∃ front idles, front ≠ [] ∧ pieces base = front ++ idles ∧
      (∀ p ∈ idles, isIdle p = true) ∧ pieces (join base path) = front ++ pieces path := by
    rw [join, if_neg (by simp [relative, filled])]
    split
    next slash =>
      rw [endsWithSlash, beq_iff_eq, List.getLast?_eq_some_iff] at slash
      obtain ⟨cs, spelled⟩ := slash
      have split : base = String.ofList cs ++ "/" ++ "" := by
        apply String.toList_injective
        simp [spelled]
      refine ⟨pieces (String.ofList cs), [""], pieces_ne_nil _, ?_, by simp [isIdle], ?_⟩
      · rw [split, pieces_slash]
        rfl
      · rw [← pieces_slash, split, String.append_empty]
    next => exact ⟨pieces base, [], pieces_ne_nil base, by simp, by simp, pieces_slash base path⟩
  obtain ⟨front, idles, nonempty, split, all, joined⟩ := whole
  refine ⟨?_, front, idles, split, all, joined⟩
  obtain ⟨p, r, rfl⟩ := List.exists_cons_of_ne_nil nonempty
  have named : p ≠ "" := by
    rintro rfl
    exact start _ split
  exact not_isAbsolute_of_pieces named joined

namespace Names

variable {path name : String} {init : List String}

theorem join (h : Names path init name) {ref : String} (below : isAbsolute ref = false) :
    isAbsolute (Path.join ((parent? path).getD "") ref) = false ∧
      ∃ front idles, init = front ++ idles ∧ (∀ p ∈ idles, isIdle p = true) ∧
        pieces (Path.join ((parent? path).getD "") ref) = front ++ pieces ref := by
  rcases h.parent with ⟨rfl, dir⟩ | ⟨base, idles, nonempty, parts, all, dir⟩
  · have same : Path.join "" ref = ref := by simp [Path.join]
    rw [dir, same]
    exact ⟨below, [], [], rfl, by simp, rfl⟩
  · have plain : ∀ p ∈ base, '/' ∉ p.toList := by
      intro p hp
      exact not_mem_pieces (show p ∈ pieces path by simp [h.split, parts, hp])
    have whole := pieces_ofPieces nonempty plain
    have start : ∀ r, pieces (ofPieces base.reverse) ≠ "" :: r := by
      intro r first
      rw [whole] at first
      rw [first] at parts
      exact h.start _ parts
    obtain ⟨relative, front, idles', parts', all', joined⟩ := join_pieces below start
    rw [dir]
    refine ⟨relative, front, idles' ++ idles, ?_, ?_, joined⟩
    · rw [parts, ← whole, parts', List.append_assoc]
    · intro p hp
      exact (List.mem_append.1 hp).elim (all' p) (all p)

theorem fileName (h : Names path init name) : fileName? path = some name := by
  have last : (parts path).getLast? = some name := by
    rw [parts, h.split]
    cases init with
    | nil => simp [h.relative, h.ne_empty]
    | cons p r =>
      have kept : (r ++ [name]).filter (fun p => !isIdle p) =
          r.filter (fun p => !isIdle p) ++ [name] := by
        simp [h.proper]
      simp only [List.cons_append, h.relative, kept, Bool.false_eq_true, if_false]
      split
      · exact List.getLast?_concat
      · rw [← List.cons_append, List.getLast?_concat]
  have root : name ≠ "/" := by
    rintro rfl
    exact h.plain (by decide)
  have point : name ≠ "." := by
    rintro rfl
    cases h.proper
  rw [fileName?, last]
  simp [root, h.downward, point]

theorem extension (h : Names path init name) : extension? path = extension? name := by
  rw [extension?, extension?, h.fileName, h.alone.fileName]

end Names

end Path

namespace Files

variable (fs : Files)

theorem walk_append (n : Node) (a b : List String) :
    fs.walk n (a ++ b) = (fs.walk n a).bind fun m => fs.walk m b := by
  induction a generalizing n with
  | nil => rfl
  | cons p r ih =>
    rw [List.cons_append]
    cases n with
    | file bytes => rfl
    | outside =>
      rw [walk, walk]
      split
      · exact ih _
      · rfl
    | directory d =>
      rw [walk, walk]
      split
      · exact ih _
      · split
        · exact ih _
        · split
          · exact ih _
          · rfl

theorem walk_idle {idles : List String} (all : ∀ p ∈ idles, Path.isIdle p = true) {n : Node}
    {d : List String} (h : fs.walk n idles = .ok (.directory d)) : n = .directory d := by
  induction idles with
  | nil => exact Except.ok.inj h
  | cons p r ih =>
    have idle := all p List.mem_cons_self
    cases n with
    | file bytes => cases h
    | outside =>
      rw [walk, if_pos (by simp [idle])] at h
      exact ih (fun q hq => all q (List.mem_cons_of_mem _ hq)) h
    | directory e =>
      rw [walk, if_pos idle] at h
      exact ih (fun q hq => all q (List.mem_cons_of_mem _ hq)) h

theorem walk_file {n : Node} {name : String} {bytes : List UInt8} :
    fs.walk n [name] = .ok (.file bytes) ↔ ∃ d, n = .directory d ∧ Path.isIdle name = false ∧
      name ≠ ".." ∧ fs.nodeAt (d ++ [name]) = some (.file bytes) := by
  constructor
  · intro h
    cases n with
    | file bytes => cases h
    | outside =>
      rw [walk] at h
      split at h <;> cases h
    | directory d =>
      rw [walk] at h
      split at h
      · cases h
      next idle =>
        split at h
        · split at h <;> cases h
        next up =>
          split at h
          next m found =>
            cases Except.ok.inj h
            exact ⟨d, rfl, by simpa using idle, up, found⟩
          · cases h
  · rintro ⟨d, rfl, proper, up, found⟩
    rw [walk, if_neg (by simp [proper]), if_neg up, found]
    rfl

/-- The place of the file that a path leads to from a directory. -/
def place (d : List String) (path : String) : Option (List String) :=
  if Path.isAbsolute path then none
  else match fs.walk (.directory d) (Path.pieces path).dropLast with
    | .ok (.directory e) =>
      match fs.walk (.directory e) [(Path.pieces path).getLastD ""] with
      | .ok (.file _) => some (e ++ [(Path.pieces path).getLastD ""])
      | _ => none
    | _ => none

theorem place_eq_some {d k : List String} {path : String} :
    fs.place d path = some k ↔ ∃ init name e bytes, Path.Names path init name ∧
      fs.walk (.directory d) init = .ok (.directory e) ∧ k = e ++ [name] ∧
        fs.nodeAt k = some (.file bytes) := by
  rw [place]
  split
  next absolute =>
    refine ⟨fun h => (by cases h), ?_⟩
    rintro ⟨init, name, e, bytes, names, -⟩
    rw [names.relative] at absolute
    cases absolute
  next relative =>
    rw [Bool.not_eq_true] at relative
    constructor
    · intro h
      split at h
      next e reached =>
        split at h
        next bytes found =>
          obtain ⟨e', same, proper, up, found⟩ := fs.walk_file.1 found
          cases same
          cases Option.some.inj h
          refine ⟨_, _, e, bytes, ⟨relative, ?_, proper, up⟩, reached, rfl, found⟩
          rw [List.getLastD_eq_getLast?, List.getLast?_eq_some_getLast (Path.pieces_ne_nil path),
            Option.getD_some, List.dropLast_concat_getLast]
        · cases h
      · cases h
    · rintro ⟨init, name, e, bytes, names, reached, rfl, found⟩
      have last := fs.walk_file.2 ⟨e, rfl, names.proper, names.downward, found⟩
      rw [names.split, List.dropLast_concat, List.getLastD_concat, reached]
      simp only [last]

/-- What is found as a file is the file at the place of the path. -/
theorem find_file_iff {path : String} {bytes : List UInt8} :
    fs.find path = .ok (.file bytes) ↔
      ∃ k, fs.place [] path = some k ∧ fs.nodeAt k = some (.file bytes) := by
  constructor
  · intro h
    rw [find] at h
    split at h
    · cases h
    next proper =>
      rw [Bool.or_eq_true, not_or, Bool.not_eq_true, Bool.not_eq_true] at proper
      obtain ⟨init, name, parts⟩ :=
        (List.eq_nil_or_concat (Path.pieces path)).resolve_left (Path.pieces_ne_nil path)
      rw [List.concat_eq_append] at parts
      rw [parts, walk_append] at h
      cases reached : fs.walk (.directory []) init with
      | error o => rw [reached] at h; cases h
      | ok n =>
        rw [reached] at h
        obtain ⟨e, rfl, idle, up, found⟩ := fs.walk_file.1 h
        have names : Path.Names path init name := ⟨proper.2, parts, idle, up⟩
        exact ⟨e ++ [name], fs.place_eq_some.2 ⟨init, name, e, bytes, names, reached, rfl, found⟩,
          found⟩
  · rintro ⟨k, placed, found⟩
    obtain ⟨init, name, e, -, names, reached, rfl, -⟩ := fs.place_eq_some.1 placed
    rw [find, if_neg (by simp [names.relative, names.path_isEmpty]), names.split, walk_append,
      reached]
    exact fs.walk_file.2 ⟨e, rfl, names.proper, names.downward, found⟩

theorem nodeAt_mem {place : List String} {bytes : List UInt8}
    (h : fs.nodeAt place = some (.file bytes)) : place ∈ fs.contents.map Prod.fst := by
  rw [nodeAt] at h
  split at h
  · cases h
  · split at h
    next e known =>
      have same := List.find?_some known
      rw [beq_iff_eq] at same
      rw [← same]
      exact List.mem_map_of_mem (List.mem_of_find?_eq_some known)
    · split at h <;> cases h

/-- A reference leads from the directory of a path where it leads from the place of its file. -/
theorem place_join {path ref : String} {k : List String} (h : fs.place [] path = some k) :
    fs.place [] (Path.join ((Path.parent? path).getD "") ref) = fs.place k.dropLast ref := by
  obtain ⟨init, name, e, -, names, reached, rfl, -⟩ := fs.place_eq_some.1 h
  rw [List.dropLast_concat]
  by_cases absolute : Path.isAbsolute ref = true
  · rw [Path.join, if_pos (by simp [absolute]), place, place, if_pos absolute, if_pos absolute]
  · rw [Bool.not_eq_true] at absolute
    obtain ⟨relative, front, idles, split, all, joined⟩ := names.join absolute
    have led : fs.walk (.directory []) front = .ok (.directory e) := by
      rw [split, walk_append] at reached
      cases inner : fs.walk (.directory []) front with
      | error o => rw [inner] at reached; cases reached
      | ok n =>
        rw [inner] at reached
        rw [walk_idle fs all reached]
    obtain ⟨rest, final, ends⟩ :=
      (List.eq_nil_or_concat (Path.pieces ref)).resolve_left (Path.pieces_ne_nil ref)
    rw [place, place, relative, absolute, joined, ends, List.concat_eq_append,
      List.dropLast_concat, ← List.append_assoc, List.dropLast_concat, List.getLastD_concat,
      List.getLastD_concat, walk_append, led]
    rfl

end Files

end Scenario
