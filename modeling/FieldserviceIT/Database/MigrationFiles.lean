import FieldserviceIT.Common.WhiteSpace
import FieldserviceIT.Lib.CodeUnits
import FieldserviceIT.Lib.SqlText

/-!
How a migration file becomes statements. Lines of two dashes are left out, the rest is cut at every
semicolon, and what is white space only is dropped. The server reads each piece by itself, with its
own rules for quotes and comments: they agree on a file if no line and no semicolon stands where
these rules take it for something else.
-/

namespace FieldserviceIT.Database

open Common
open Lib.SqlText

section Files

def isCommentLine (line : List Char) : Bool :=
  ['-', '-'].isPrefixOf (trim line)

def stripComments (sql : List Char) : List Char :=
  ['\n'].intercalate ((sql.splitOn '\n').filter fun line => !isCommentLine line)

def splitStatements (sql : List Char) : List (List Char) :=
  ((sql.splitOn ';').map trim).filter fun s => 0 < s.length

def migrationStatements (file : List Char) : List (List Char) :=
  splitStatements (stripComments file)

/-- What the server reads in the executed texts are the statements of the file, one in each. -/
def SplitAsRead (file : List Char) : Prop :=
  (migrationStatements file).map statements = (statements file).map fun statement => [statement]

end Files

section Lines

def nextLine (mode : Mode) (line : List Char) : Mode :=
  after mode (line ++ ['\n']) []

def readLine (mode : Mode) (line : List Char) : Marked :=
  lex mode (line ++ ['\n'])

/-- Of each line that is left out the server reads nothing, and goes on as before it. -/
def dropsComments : Mode → List (List Char) → Bool
  | _, [] => true
  | mode, line :: rest =>
    (!isCommentLine line ||
      ((readLine mode line).all (fun x => x.2 = .blank) && nextLine mode line = mode)) &&
    dropsComments (nextLine mode line) rest

/-- The characters of the lines that are not left out, each read where it stands in the file. -/
def keptFrom : Mode → List (List Char) → Marked
  | _, [] => []
  | mode, line :: rest =>
    if isCommentLine line then keptFrom (nextLine mode line) rest
    else if rest.all isCommentLine then lex mode line
    else readLine mode line ++ keptFrom (nextLine mode line) rest

def kept (file : List Char) : Marked :=
  keptFrom .code (file.splitOn '\n')

theorem apart_newline (rest : List Char) : Apart ('\n' :: rest) :=
  apart_cons.mpr ⟨by decide, by decide, by decide, by decide, by decide⟩

theorem step_newline (mode : Mode) (rest : List Char) : step mode '\n' rest = step mode '\n' [] := by
  cases mode <;> rfl

theorem lex_line (mode : Mode) (line rest : List Char) :
    lex mode (line ++ '\n' :: rest) = readLine mode line ++ lex (nextLine mode line) rest := by
  induction line generalizing mode with
  | nil =>
    rw [readLine, nextLine, List.nil_append, List.nil_append, lex, lex, after, List.append_nil,
      step_newline]
    rfl
  | cons c line ih =>
    have hstep : ∀ rest, step mode c (line ++ '\n' :: rest) = step mode c line := by
      intro rest
      apply step_append (apart_newline rest)
      rintro - - - d hd
      cases hd
      decide
    rw [List.cons_append, lex, hstep, ih, readLine, readLine, nextLine, nextLine, List.cons_append, lex,
      after, List.append_nil, hstep, List.cons_append]

theorem readLine_eq (mode : Mode) (line : List Char) :
    readLine mode line = lex mode line ++ [('\n', (step (after mode line []) '\n' []).1)] ∧
      nextLine mode line = (step (after mode line []) '\n' []).2 := by
  induction line generalizing mode with
  | nil => exact ⟨rfl, rfl⟩
  | cons c line ih =>
    have hstep : step mode c (line ++ ['\n']) = step mode c line := by
      apply step_append (apart_newline [])
      rintro - - - d hd
      cases hd
      decide
    obtain ⟨hread, hnext⟩ := ih (step mode c line).2
    constructor
    · rw [readLine, List.cons_append, lex, hstep, ← readLine, hread, lex, after, List.append_nil]
      rfl
    · rw [nextLine, List.cons_append, after, List.append_nil, hstep, ← nextLine, hnext, after,
        List.append_nil]

theorem step_newline_ne (mode : Mode) : (step mode '\n' []).1 ≠ .separator := by
  cases mode <;>
  · intro h
    cases h

theorem step_solid {mode : Mode} (h : (step mode '\n' []).1 = .solid) (c : Char) (rest : List Char) :
    (step (step mode '\n' []).2 c rest).1 = .solid := by
  cases mode with
  | code | line | opening | block | closing => cases h
  | quoted quote => cases quote <;> rfl
  | escaped quote => rfl

end Lines

section Dropping

variable {mode : Mode} {line : List Char} {lines : List (List Char)}

theorem intercalate_cons (line next : List Char) (rest : List (List Char)) :
    ['\n'].intercalate (line :: next :: rest) = line ++ '\n' :: ['\n'].intercalate (next :: rest) := by
  rw [List.intercalate_cons_cons]
  simp

theorem kept_eq_lex (h : dropsComments mode lines = true) :
    keptFrom mode lines =
      lex mode (['\n'].intercalate (lines.filter fun line => !isCommentLine line)) := by
  induction lines generalizing mode with
  | nil => rfl
  | cons line rest ih =>
    rw [dropsComments, Bool.and_eq_true] at h
    obtain ⟨hline, hrest⟩ := h
    rw [keptFrom]
    by_cases hcomment : isCommentLine line = true
    · rw [hcomment, Bool.not_true, Bool.false_or, Bool.and_eq_true, decide_eq_true_eq] at hline
      rw [if_pos hcomment, List.filter_cons_of_neg (by simp [hcomment]), ih hrest, hline.2]
    · rw [if_neg hcomment, List.filter_cons_of_pos (by simp [hcomment])]
      cases hkept : rest.filter fun line => !isCommentLine line with
      | nil =>
        have hall : rest.all isCommentLine = true := by
          simpa [List.filter_eq_nil_iff, List.all_eq_true] using hkept
        rw [if_pos hall, List.intercalate_singleton]
      | cons next later =>
        have hsome : ¬ rest.all isCommentLine = true := by
          intro hall
          have hnone : (rest.filter fun line => !isCommentLine line) = [] := by
            simpa [List.filter_eq_nil_iff, List.all_eq_true] using hall
          rw [hnone] at hkept
          cases hkept
        rw [if_neg hsome, ih hrest, hkept, intercalate_cons, lex_line]

theorem keptFrom_all (h : lines.all isCommentLine = true) : keptFrom mode lines = [] := by
  induction lines generalizing mode with
  | nil => rfl
  | cons line rest ih =>
    rw [List.all_cons, Bool.and_eq_true] at h
    rw [keptFrom, if_pos h.1, ih h.2]

theorem readLine_solid (h : ∀ c rest, (step mode c rest).1 = .solid) :
    (readLine mode line).all (fun x => x.2 = .blank) = false := by
  rw [readLine]
  cases line with
  | nil =>
    rw [List.nil_append, lex, List.all_cons, h]
    rfl
  | cons c line =>
    rw [List.cons_append, lex, List.all_cons, h]
    rfl

theorem scan_kept (h : dropsComments mode lines = true) :
    (∀ x : Char × CharKind, x.2 = .blank →
      scanFrom x (scan (keptFrom mode lines)) =
        scanFrom x (scan (lex mode (['\n'].intercalate lines)))) ∧
    ((∀ c rest, (step mode c rest).1 = .solid) →
      scan (keptFrom mode lines) = scan (lex mode (['\n'].intercalate lines))) := by
  induction lines generalizing mode with
  | nil => exact ⟨fun _ _ => rfl, fun _ => rfl⟩
  | cons line rest ih =>
    rw [dropsComments, Bool.and_eq_true] at h
    obtain ⟨hline, hrest⟩ := h
    obtain ⟨ihblank, ihsolid⟩ := ih hrest
    obtain ⟨hread, hnext⟩ := readLine_eq mode line
    by_cases hcomment : isCommentLine line = true
    · rw [hcomment, Bool.not_true, Bool.false_or, Bool.and_eq_true, decide_eq_true_eq] at hline
      obtain ⟨hall, hsame⟩ := hline
      have hblanks : ∀ x ∈ readLine mode line, x.2 = .blank := by
        simpa [List.all_eq_true] using hall
      constructor
      · intro x hx
        rw [keptFrom, if_pos hcomment, ihblank x hx]
        cases rest with
        | nil =>
          have hfront : ∀ y ∈ lex mode line, y.2 = .blank := by
            intro y hy
            apply hblanks
            rw [hread]
            exact List.mem_append_left _ hy
          rw [List.intercalate_singleton, scan_blanks hfront]
          rfl
        | cons next later =>
          rw [intercalate_cons, lex_line, scan_append, scanFrom_foldr hx hblanks]
      · intro hsolid
        rw [readLine_solid hsolid] at hall
        cases hall
    · suffices hscan : scan (keptFrom mode (line :: rest)) =
          scan (lex mode (['\n'].intercalate (line :: rest))) from
        ⟨fun x _ => congrArg (scanFrom x) hscan, fun _ => hscan⟩
      rw [keptFrom, if_neg hcomment]
      cases rest with
      | nil => rw [List.all_nil, if_pos rfl, List.intercalate_singleton]
      | cons next later =>
        rw [intercalate_cons, lex_line, scan_append, hread]
        generalize hnewline : ((step (after mode line []) '\n' []).1 : CharKind) = newline
        rw [hnext] at ihblank ihsolid hrest
        cases newline with
        | separator => exact absurd hnewline (step_newline_ne _)
        | blank =>
          rw [List.foldr_append, List.foldr_cons, List.foldr_nil, hnext, ← ihblank _ rfl]
          by_cases hall : (next :: later).all isCommentLine = true
          · rw [if_pos hall, keptFrom_all hall]
            rfl
          · rw [if_neg hall, List.append_assoc, scan_append, List.singleton_append, scan_cons]
        | solid =>
          have hsolid := step_solid hnewline
          by_cases hall : (next :: later).all isCommentLine = true
          · rw [List.all_cons, Bool.and_eq_true] at hall
            rw [dropsComments, hall.1, readLine_solid hsolid] at hrest
            cases hrest
          · rw [if_neg hall, scan_append, hnext, ihsolid hsolid]

theorem statements_eq_kept (file : List Char) (h : dropsComments .code (file.splitOn '\n') = true) :
    statements file = statementsOf (kept file) := by
  have hscan := (scan_kept h).1 (' ', .blank) rfl
  rw [List.intercalate_splitOn] at hscan
  have hclosed := congrArg Scan.closed hscan
  rw [closed_scanFrom rfl, closed_scanFrom rfl] at hclosed
  exact hclosed.symm

theorem kept_eq (file : List Char) (h : dropsComments .code (file.splitOn '\n') = true) :
    kept file = lex .code (stripComments file) :=
  kept_eq_lex h

end Dropping

section Pieces

variable {mode : Mode} {text : List Char}

def isSeparator (x : Char × CharKind) : Bool :=
  x.2 = .separator

theorem step_separator {c : Char} {rest : List Char} (h : (step mode c rest).1 = .separator) :
    c = ';' ∧ mode = .code := by
  cases mode with
  | quoted quote | escaped quote | line | opening | block | closing => cases h
  | code =>
    rw [step, codeStep] at h
    by_cases hc : c = ';'
    · exact ⟨hc, rfl⟩
    · rw [if_neg hc] at h
      repeat' split at h
      all_goals cases h

theorem lex_separator {x : Char × CharKind} (hx : x ∈ lex mode text) (h : x.2 = .separator) : x.1 = ';' := by
  induction text generalizing mode with
  | nil => cases hx
  | cons c rest ih =>
    rw [lex, List.mem_cons] at hx
    rcases hx with rfl | hx
    · exact (step_separator h).1
    · exact ih hx

theorem mem_lex {x : Char × CharKind} (hx : x ∈ lex mode text) : x.1 ∈ text := by
  have hmem := List.mem_map_of_mem (f := Prod.fst) hx
  rwa [map_fst_lex] at hmem

theorem apart_semicolon (rest : List Char) : Apart (';' :: rest) :=
  apart_cons.mpr ⟨by decide, by decide, by decide, by decide, by decide⟩

def CutsStatements (marked : Marked) : Prop :=
  ∀ x ∈ marked, x.1 = ';' → x.2 = .separator

theorem lex_semicolon {piece rest : List Char} (hdash : ¬ ['-', '-', ';'] <:+: piece ++ ';' :: rest)
    (hcut : CutsStatements (lex .code (piece ++ ';' :: rest))) :
    lex .code (piece ++ ';' :: rest) = lex .code piece ++ (';', .separator) :: lex .code rest := by
  have hends : ¬ ['-', '-'] <:+ piece := by
    rintro ⟨front, hfront⟩
    apply hdash
    exact ⟨front, rest, by simp [← hfront]⟩
  have hread : lex .code (piece ++ ';' :: rest) =
      lex .code piece ++ lex (after .code piece []) (';' :: rest) :=
    lex_cut (apart_semicolon rest) hends
  rw [lex] at hread
  have hkind : (step (after .code piece []) ';' rest).1 = .separator := by
    apply hcut (';', _) _ rfl
    rw [hread]
    exact List.mem_append_right _ List.mem_cons_self
  rw [hread, hkind, (step_separator hkind).2]
  rfl

theorem intercalate_semicolon (piece next : List Char) (rest : List (List Char)) :
    [';'].intercalate (piece :: next :: rest) = piece ++ ';' :: [';'].intercalate (next :: rest) := by
  rw [List.intercalate_cons_cons]
  simp

theorem splitOnP_lex {pieces : List (List Char)} (hne : pieces ≠ []) (hpieces : ∀ piece ∈ pieces, ';' ∉ piece)
    (hdash : ¬ ['-', '-', ';'] <:+: [';'].intercalate pieces)
    (hcut : CutsStatements (lex .code ([';'].intercalate pieces))) :
    (lex .code ([';'].intercalate pieces)).splitOnP isSeparator = pieces.map (lex .code) ∧
      statements ([';'].intercalate pieces) = (pieces.map statements).flatten := by
  have hnone : ∀ piece ∈ pieces, ∀ x ∈ lex .code piece, isSeparator x = false := by
    intro piece hpiece x hx
    apply decide_eq_false
    intro hseparator
    apply hpieces piece hpiece
    rw [← lex_separator hx hseparator]
    exact mem_lex hx
  induction pieces with
  | nil => exact absurd rfl hne
  | cons piece rest ih =>
    obtain ⟨hpiece, hrest⟩ := List.forall_mem_cons.mp hnone
    cases rest with
    | nil =>
      rw [List.intercalate_singleton, List.splitOnP_eq_singleton hpiece]
      simp
    | cons next later =>
      rw [intercalate_semicolon] at hdash hcut ⊢
      have hread := lex_semicolon hdash hcut
      have hdash' : ¬ ['-', '-', ';'] <:+: [';'].intercalate (next :: later) := by
        intro hinfix
        apply hdash
        exact hinfix.trans ((List.suffix_cons _ _).trans (List.suffix_append _ _)).isInfix
      have hcut' : CutsStatements (lex .code ([';'].intercalate (next :: later))) := by
        intro x hx
        apply hcut x
        rw [hread]
        exact List.mem_append_right _ (List.mem_cons_of_mem _ hx)
      obtain ⟨hsplit, hstatements⟩ := ih (List.cons_ne_nil _ _)
        (fun p hp => hpieces p (List.mem_cons_of_mem _ hp)) hdash' hcut' hrest
      constructor
      · rw [hread, List.splitOnP_append_cons_of_forall_mem hpiece _ rfl, hsplit]
        rfl
      · rw [statements, hread, statementsOf_separator rfl, ← statements, ← statements, hstatements]
        rfl

end Pieces

section Trimming

def trimsBlanks (piece : Marked) : Bool :=
  (piece.takeWhile fun x => isWhiteSpace x.1).all (fun x => x.2 = .blank) &&
    ((piece.dropWhile fun x => isWhiteSpace x.1).rtakeWhile fun x => isWhiteSpace x.1).all fun x =>
      x.2 = .blank

variable {text : List Char}

theorem step_whiteSpace {c : Char} (rest : List Char) (hc : isWhiteSpace c = true) :
    (step .code c rest).2 = .code := by
  have hne : ∀ d, isWhiteSpace d = false → c ≠ d := by
    rintro d hd rfl
    rw [hc] at hd
    cases hd
  rw [step, codeStep, if_neg (hne ';' (by decide)), if_neg (hne _ (by decide)), if_neg (hne _ (by decide)),
    if_neg (hne _ (by decide))]
  simp only [hne '#' (by decide), hne '-' (by decide), hne '/' (by decide), decide_false, Bool.false_and,
    Bool.or_self, Bool.false_eq_true, if_false]
  split <;> rfl

theorem lex_dropWhile (text : List Char) :
    (lex .code text).dropWhile (fun x => isWhiteSpace x.1) = lex .code (text.dropWhile isWhiteSpace) := by
  induction text with
  | nil => rfl
  | cons c rest ih =>
    by_cases hc : isWhiteSpace c = true
    · rw [lex, List.dropWhile_cons, if_pos hc, step_whiteSpace rest hc, ih, List.dropWhile_cons, if_pos hc]
    · rw [lex, List.dropWhile_cons, if_neg hc, List.dropWhile_cons, if_neg hc, lex]

theorem rdropWhile_append {α : Type} (p : α → Bool) (list : List α) :
    list.rdropWhile p ++ list.rtakeWhile p = list := by
  rw [List.rdropWhile, List.rtakeWhile, ← List.reverse_append, List.takeWhile_append_dropWhile,
    List.reverse_reverse]

theorem mem_rtakeWhile {α : Type} {p : α → Bool} {front back : List α} (h : ∀ x ∈ back, p x = true) {x : α}
    (hx : x ∈ back) : x ∈ (front ++ back).rtakeWhile p := by
  rw [List.rtakeWhile, List.mem_reverse, List.reverse_append,
    List.takeWhile_append_of_pos (fun y hy => h y (List.mem_reverse.mp hy))]
  exact List.mem_append_left _ (List.mem_reverse.mpr hx)

theorem apart_whiteSpace {back : List Char} (h : ∀ c ∈ back, isWhiteSpace c = true) : Apart back := by
  intro c hc
  have hspace := h c (List.mem_of_mem_head? hc)
  refine ⟨?_, ?_, ?_, ?_, ?_⟩ <;>
  · rintro rfl
    exact absurd hspace (by decide)

theorem statements_trim (h : trimsBlanks (lex .code text) = true) : statements (trim text) = statements text := by
  rw [trimsBlanks, Bool.and_eq_true, lex_dropWhile, List.all_eq_true, List.all_eq_true] at h
  obtain ⟨hfront, hback⟩ := h
  have hfirst : statements text = statements (text.dropWhile isWhiteSpace) := by
    rw [statements, ← List.takeWhile_append_dropWhile (p := fun x => isWhiteSpace x.1) (l := lex .code text),
      statementsOf_blanks_append (fun x hx => of_decide_eq_true (hfront x hx)), lex_dropWhile, ← statements]
  rw [hfirst, trim]
  generalize text.dropWhile isWhiteSpace = rest at hback ⊢
  have hspace : ∀ c ∈ rest.rtakeWhile isWhiteSpace, isWhiteSpace c = true :=
    fun c hc => List.mem_rtakeWhile_imp hc
  have happend := rdropWhile_append isWhiteSpace rest
  generalize rest.rdropWhile isWhiteSpace = front at happend ⊢
  generalize rest.rtakeWhile isWhiteSpace = back at happend hspace
  subst happend
  obtain ⟨marked, -, hread⟩ := lex_append .code front back
  rw [hread] at hback
  have hblank : ∀ x ∈ lex (after .code front back) back, x.2 = .blank := by
    intro x hx
    apply of_decide_eq_true
    apply hback x
    exact mem_rtakeWhile (fun y hy => hspace y.1 (mem_lex hy)) hx
  rw [statements, statements, lex_of_blank (apart_whiteSpace hspace) hblank, statementsOf, statementsOf,
    scan_append_blanks _ hblank]

theorem trim_eq_nil (h : ∀ c ∈ text, isWhiteSpace c = true) : trim text = [] := by
  rw [trim, List.dropWhile_eq_nil_iff.mpr h]
  rfl

end Trimming

section Splitting

def cutsStatements (marked : Marked) : Bool :=
  marked.all fun x => x.1 ≠ ';' || x.2 = .separator

/-- A piece that is not white space only has something besides comments. -/
def saysSomething (piece : Marked) : Bool :=
  piece.all (fun x => isWhiteSpace x.1) || piece.any fun x => x.2 = .solid

/-- The file has no line that is left out and is more than a comment, no other semicolon in quotes
or in a comment, none right behind two dashes, and between two of them no comment alone and no white
space at the ends that the server takes for something else. -/
structure SplitsCleanly (file : List Char) : Prop where
  dropped : dropsComments .code (file.splitOn '\n') = true
  cut : cutsStatements (kept file) = true
  dashes : ¬ ['-', '-', ';'] <:+: (kept file).map Prod.fst
  trimmed : ((kept file).splitOnP isSeparator).all trimsBlanks = true
  said : ((kept file).splitOnP isSeparator).all saysSomething = true

variable {pieces : List (List Char)}

theorem statements_piece {piece : List Char} (hpiece : ';' ∉ piece) (htrimmed : trimsBlanks (lex .code piece) = true)
    (hsaid : saysSomething (lex .code piece) = true) :
    if trim piece = [] then statements piece = []
    else ∃ statement, statements (trim piece) = [statement] ∧ statements piece = [statement] := by
  have htrim := statements_trim htrimmed
  split
  case isTrue hnone =>
    rw [← htrim, hnone]
    rfl
  case isFalse hsome =>
    have hsolid : ∃ x ∈ lex .code piece, x.2 = .solid := by
      rw [saysSomething, Bool.or_eq_true] at hsaid
      rcases hsaid with hspace | hany
      · refine absurd (trim_eq_nil fun c hc => ?_) hsome
        rw [← map_fst_lex .code piece] at hc
        obtain ⟨x, hx, rfl⟩ := List.mem_map.mp hc
        exact List.all_eq_true.mp hspace x hx
      · obtain ⟨x, hx, hkind⟩ := List.any_eq_true.mp hany
        exact ⟨x, hx, of_decide_eq_true hkind⟩
    have hone : (statements piece).length ≤ 1 := by
      apply length_statementsOf
      intro x hx hkind
      apply hpiece
      rw [← lex_separator hx hkind]
      exact mem_lex hx
    have hpos := List.length_pos_of_ne_nil (statementsOf_ne_nil hsolid)
    obtain ⟨statement, hstatement⟩ := List.length_eq_one_iff.mp (Nat.le_antisymm hone hpos)
    exact ⟨statement, htrim.trans hstatement, hstatement⟩

theorem statements_pieces (h : ∀ piece ∈ pieces, if trim piece = [] then statements piece = []
    else ∃ statement, statements (trim piece) = [statement] ∧ statements piece = [statement]) :
    (((pieces.map trim).filter fun s => 0 < s.length).map statements) =
      (pieces.map statements).flatten.map fun statement => [statement] := by
  induction pieces with
  | nil => rfl
  | cons piece rest ih =>
    obtain ⟨hpiece, hrest⟩ := List.forall_mem_cons.mp h
    rw [List.map_cons, List.map_cons, List.flatten_cons, List.map_append, ← ih hrest]
    by_cases hnone : trim piece = []
    · rw [if_pos hnone] at hpiece
      rw [hpiece, hnone]
      rfl
    · rw [if_neg hnone] at hpiece
      obtain ⟨statement, htrim, hstatement⟩ := hpiece
      rw [List.filter_cons_of_pos (by simpa [List.length_pos_iff] using hnone), List.map_cons, htrim,
        hstatement]
      rfl

/-- What is executed of such a file are its statements. -/
theorem splitAsRead_of_splitsCleanly (file : List Char) (h : SplitsCleanly file) : SplitAsRead file := by
  obtain ⟨hdropped, hcut, hdashes, htrimmed, hsaid⟩ := h
  have hkept := kept_eq file hdropped
  have hpieces := Lib.CodeUnits.notMem_splitOn ';' (stripComments file)
  have hwhole : [';'].intercalate ((stripComments file).splitOn ';') = stripComments file :=
    List.intercalate_splitOn ';'
  rw [hkept] at hcut htrimmed hsaid
  rw [hkept, map_fst_lex, ← hwhole] at hdashes
  have hcuts : CutsStatements (lex .code (stripComments file)) := by
    intro x hx hc
    have hx' := List.all_eq_true.mp hcut x hx
    simpa [hc] using hx'
  rw [← hwhole] at hcuts
  obtain ⟨hsplit, hstatements⟩ := splitOnP_lex (List.splitOn_ne_nil ';' _) hpieces hdashes hcuts
  rw [hwhole] at hsplit hstatements
  rw [hsplit, List.all_map, List.all_eq_true] at htrimmed hsaid
  rw [SplitAsRead, migrationStatements, splitStatements, statements_eq_kept file hdropped, hkept, ← statements,
    hstatements]
  apply statements_pieces
  intro piece hpiece
  exact statements_piece (hpieces piece hpiece) (htrimmed piece hpiece) (hsaid piece hpiece)

def sampleFile : List Char :=
  "-- Parts; first version\nCREATE TABLE t (a TEXT) /* none */;\n\nINSERT INTO t VALUES ('it''s -- fine');\n".toList

theorem sampleFile_splitAsRead : SplitAsRead sampleFile :=
  splitAsRead_of_splitsCleanly sampleFile
    ⟨by decide +kernel, by decide +kernel, by decide +kernel, by decide +kernel, by decide +kernel⟩

/-- A semicolon in quotes cuts a statement in two. -/
theorem quoted_semicolon_cuts :
    migrationStatements "INSERT INTO t VALUES ('a;b')".toList =
        ["INSERT INTO t VALUES ('a".toList, "b')".toList] ∧
      ¬ SplitAsRead "INSERT INTO t VALUES ('a;b')".toList := by
  rw [SplitAsRead]
  decide +kernel

end Splitting
end FieldserviceIT.Database
