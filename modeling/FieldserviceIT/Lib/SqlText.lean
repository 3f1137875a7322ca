import Mathlib.Data.List.Basic

/-!
SQL texts as the server reads them. A text is read one character at a time: each one belongs to a
statement, or stands between its words, or ends it. A statement is its words, and a comment is
white space. Only where a comment begins or ends does a character's part depend on what follows.
-/

namespace FieldserviceIT.Lib.SqlText

inductive CharKind
  | solid
  | blank
  | separator
deriving DecidableEq

inductive Quote
  | apostrophe
  | quotation
  | backtick
deriving DecidableEq

inductive Mode
  | code
  | quoted (quote : Quote)
  | escaped (quote : Quote)
  | line
  | opening
  | block
  | closing
deriving DecidableEq

abbrev Marked := List (Char × CharKind)

section Reading

def isSpace (c : Char) : Bool :=
  c = ' ' || (9 ≤ c.toNat && c.toNat ≤ 13)

def isControl (c : Char) : Bool :=
  c.toNat < 32 || c.toNat = 127

/-- What follows a dash makes it begin a comment: another one, and then white space, a control
character or the end of the text. -/
def dashesBegin : List Char → Bool
  | ['-'] => true
  | '-' :: c :: _ => isSpace c || isControl c
  | _ => false

/-- What follows a slash makes it begin a comment. With an exclamation mark it is none: what it
holds is executed. -/
def blockBegins : List Char → Bool
  | ['*'] => true
  | '*' :: c :: _ => c ≠ '!'
  | _ => false

def Quote.mark : Quote → Char
  | .apostrophe => '\''
  | .quotation => '"'
  | .backtick => '`'

def codeStep (c : Char) (rest : List Char) : CharKind × Mode :=
  if c = ';' then (.separator, .code)
  else if c = Quote.apostrophe.mark then (.solid, .quoted .apostrophe)
  else if c = Quote.quotation.mark then (.solid, .quoted .quotation)
  else if c = Quote.backtick.mark then (.solid, .quoted .backtick)
  else if c = '#' || (c = '-' && dashesBegin rest) then (.blank, .line)
  else if c = '/' && blockBegins rest then (.blank, .opening)
  else if isSpace c then (.blank, .code)
  else (.solid, .code)

/-- A quote that is doubled ends a quoted text and begins another. -/
def step (mode : Mode) (c : Char) (rest : List Char) : CharKind × Mode :=
  match mode with
  | .code => codeStep c rest
  | .quoted quote =>
    (.solid, if c = quote.mark then .code
      else if c = '\\' && quote ≠ .backtick then .escaped quote
      else .quoted quote)
  | .escaped quote => (.solid, .quoted quote)
  | .line => (.blank, if c = '\n' then .code else .line)
  | .opening => (.blank, .block)
  | .block => (.blank, if c = '*' && rest.head? = some '/' then .closing else .block)
  | .closing => (.blank, .code)

def lex : Mode → List Char → Marked
  | _, [] => []
  | mode, c :: rest => (c, (step mode c rest).1) :: lex (step mode c rest).2 rest

def after : Mode → List Char → List Char → Mode
  | mode, [], _ => mode
  | mode, c :: text, rest => after (step mode c (text ++ rest)).2 text rest

theorem map_fst_lex (mode : Mode) (text : List Char) : (lex mode text).map Prod.fst = text := by
  induction text generalizing mode with
  | nil => rfl
  | cons c rest ih => rw [lex, List.map_cons, ih]

theorem lex_append (mode : Mode) (text rest : List Char) :
    ∃ front, front.map Prod.fst = text ∧
      lex mode (text ++ rest) = front ++ lex (after mode text rest) rest := by
  induction text generalizing mode with
  | nil => exact ⟨[], rfl, rfl⟩
  | cons c text ih =>
    obtain ⟨front, hfront, hread⟩ := ih (step mode c (text ++ rest)).2
    refine ⟨(c, (step mode c (text ++ rest)).1) :: front, ?_, ?_⟩
    · rw [List.map_cons, hfront]
    · rw [List.cons_append, lex, hread, after, List.cons_append]

end Reading

section Cuts

/-- No mark of two characters begins in what stands before such a text and ends in it. -/
def Apart (rest : List Char) : Prop :=
  ∀ c ∈ rest.head?, c ≠ '-' ∧ c ≠ '*' ∧ c ≠ '/' ∧ c ≠ '!' ∧ c ≠ '#'

variable {mode : Mode} {c : Char} {text rest : List Char}

theorem apart_cons : Apart (c :: rest) ↔ c ≠ '-' ∧ c ≠ '*' ∧ c ≠ '/' ∧ c ≠ '!' ∧ c ≠ '#' := by
  simp [Apart]

theorem blockBegins_append (h : Apart rest) : blockBegins (text ++ rest) = blockBegins text := by
  cases rest with
  | nil => rw [List.append_nil]
  | cons d rest =>
    obtain ⟨-, hstar, -, hmark, -⟩ := apart_cons.mp h
    match text with
    | [] => simp [blockBegins, hstar]
    | [e] =>
      by_cases he : e = '*'
      · subst he
        simp [blockBegins, hmark]
      · simp [blockBegins, he]
    | e :: f :: text =>
      by_cases he : e = '*'
      · subst he
        rfl
      · simp [blockBegins, he]

theorem dashesBegin_append (h : Apart rest)
    (hdash : text = ['-'] → ∀ d ∈ rest.head?, (isSpace d || isControl d) = true) :
    dashesBegin (text ++ rest) = dashesBegin text := by
  cases rest with
  | nil => rw [List.append_nil]
  | cons d rest =>
    obtain ⟨hdash', -, -, -, -⟩ := apart_cons.mp h
    match text with
    | [] => simp [dashesBegin, hdash']
    | [e] =>
      by_cases he : e = '-'
      · subst he
        exact hdash rfl d rfl
      · simp [dashesBegin, he]
    | e :: f :: text =>
      by_cases he : e = '-'
      · subst he
        rfl
      · simp [dashesBegin, he]

theorem step_append (h : Apart rest)
    (hdash : mode = .code → c = '-' → text = ['-'] → ∀ d ∈ rest.head?, (isSpace d || isControl d) = true) :
    step mode c (text ++ rest) = step mode c text := by
  cases mode with
  | code =>
    rw [step, step, codeStep, codeStep, blockBegins_append h]
    by_cases hc : c = '-'
    · rw [dashesBegin_append h (hdash rfl hc)]
    · simp [hc]
  | block =>
    rw [step, step]
    cases text with
    | cons e text => rfl
    | nil =>
      cases rest with
      | nil => rfl
      | cons d rest =>
        obtain ⟨-, -, hslash, -, -⟩ := apart_cons.mp h
        simp [hslash]
  | quoted quote | escaped quote | line | opening | closing => rfl

theorem lex_cut (h : Apart rest) (hdash : ¬ ['-', '-'] <:+ text) :
    lex mode (text ++ rest) = lex mode text ++ lex (after mode text []) rest := by
  induction text generalizing mode with
  | nil => rfl
  | cons c text ih =>
    have hstep : step mode c (text ++ rest) = step mode c text := by
      apply step_append h
      rintro - rfl rfl
      exact absurd (List.suffix_refl _) hdash
    have htail : ¬ ['-', '-'] <:+ text := fun hsuffix => hdash (hsuffix.trans (List.suffix_cons c text))
    rw [List.cons_append, lex, hstep, ih htail, lex, after, List.append_nil, List.cons_append]

theorem step_dash (h : dashesBegin rest = false) : step .code '-' rest = (.solid, .code) := by
  rw [step, codeStep, h]
  rfl

theorem lex_of_blank (h : Apart rest) (hblank : ∀ x ∈ lex (after mode text rest) rest, x.2 = .blank) :
    lex mode (text ++ rest) = lex mode text ++ lex (after mode text rest) rest := by
  induction text generalizing mode with
  | nil => rfl
  | cons c text ih =>
    have hstep : step mode c (text ++ rest) = step mode c text := by
      apply step_append h
      rintro rfl rfl rfl d hd
      by_contra hother
      obtain ⟨tail, rfl⟩ : ∃ tail, rest = d :: tail := List.head?_eq_some_iff.mp hd
      obtain ⟨hdash, -, hslash, -, hhash⟩ := apart_cons.mp h
      rw [Bool.not_eq_true, Bool.or_eq_false_iff] at hother
      have hmode : after .code ['-', '-'] (d :: tail) = .code := by
        have hfirst : dashesBegin (['-'] ++ d :: tail) = false := by
          simp [dashesBegin, hother.1, hother.2]
        have hsecond : dashesBegin ([] ++ d :: tail) = false := by
          simp [dashesBegin, hdash]
        rw [after, step_dash hfirst, after, step_dash hsecond, after]
      rw [hmode, lex, List.forall_mem_cons] at hblank
      have hkind := hblank.1
      simp only [step, codeStep, hhash, hdash, hslash, hother.1, decide_false, Bool.false_and,
        Bool.or_self, Bool.false_eq_true, if_false] at hkind
      repeat' split at hkind
      all_goals cases hkind
    rw [after] at hblank
    rw [List.cons_append, lex, ih hblank, lex, after, hstep, List.cons_append]

end Cuts

section Statements

abbrev Word := List Char

/-- What is read of a text from some point on: the word and the statement that go on there, and the
statements after them. -/
structure Scan where
  word : Word
  words : List Word
  statements : List (List Word)

def addNonempty {α : Type} (list : List α) (lists : List (List α)) : List (List α) :=
  if list.isEmpty then lists else list :: lists

def scanFrom (x : Char × CharKind) (s : Scan) : Scan :=
  match x.2 with
  | .solid =>
    { s with
      word := x.1 :: s.word }
  | .blank => ⟨[], addNonempty s.word s.words, s.statements⟩
  | .separator => ⟨[], [], addNonempty (addNonempty s.word s.words) s.statements⟩

def scan (marked : Marked) : Scan :=
  marked.foldr scanFrom ⟨[], [], []⟩

def Scan.closed (s : Scan) : List (List Word) :=
  addNonempty (addNonempty s.word s.words) s.statements

def statementsOf (marked : Marked) : List (List Word) :=
  (scan marked).closed

def statements (text : List Char) : List (List Word) :=
  statementsOf (lex .code text)

variable {x : Char × CharKind} {blanks front back : Marked} {s : Scan}

theorem scanFrom_blank (h : x.2 = .blank) :
    scanFrom x s = ⟨[], addNonempty s.word s.words, s.statements⟩ := by
  rw [scanFrom, h]

theorem scanFrom_separator (h : x.2 = .separator) : scanFrom x s = ⟨[], [], s.closed⟩ := by
  rw [scanFrom, h]
  rfl

theorem scan_cons (x : Char × CharKind) (marked : Marked) : scan (x :: marked) = scanFrom x (scan marked) :=
  rfl

theorem addNonempty_append {α : Type} (list : List α) (lists later : List (List α)) :
    addNonempty list (lists ++ later) = addNonempty list lists ++ later := by
  rw [addNonempty, addNonempty]
  split <;> rfl

theorem scan_append (front back : Marked) : scan (front ++ back) = front.foldr scanFrom (scan back) :=
  List.foldr_append

theorem scanFrom_foldr (h : x.2 = .blank) (hblanks : ∀ y ∈ blanks, y.2 = .blank) :
    scanFrom x (blanks.foldr scanFrom s) = scanFrom x s := by
  induction blanks with
  | nil => rfl
  | cons y blanks ih =>
    obtain ⟨hy, hrest⟩ := List.forall_mem_cons.mp hblanks
    rw [← ih hrest, List.foldr_cons, scanFrom_blank hy, scanFrom_blank h, scanFrom_blank h]
    rfl

theorem closed_scanFrom (h : x.2 = .blank) : (scanFrom x s).closed = s.closed := by
  rw [scanFrom_blank h]
  rfl

theorem closed_foldr (hblanks : ∀ y ∈ blanks, y.2 = .blank) :
    (blanks.foldr scanFrom s).closed = s.closed := by
  induction blanks with
  | nil => rfl
  | cons y blanks ih =>
    obtain ⟨hy, hrest⟩ := List.forall_mem_cons.mp hblanks
    rw [List.foldr_cons, closed_scanFrom hy, ih hrest]

theorem scan_blanks (hblanks : ∀ y ∈ blanks, y.2 = .blank) : scan blanks = ⟨[], [], []⟩ := by
  induction blanks with
  | nil => rfl
  | cons y blanks ih =>
    obtain ⟨hy, hrest⟩ := List.forall_mem_cons.mp hblanks
    rw [scan_cons, ih hrest, scanFrom_blank hy]
    rfl

theorem scan_append_blanks (front : Marked) (hblanks : ∀ y ∈ blanks, y.2 = .blank) :
    scan (front ++ blanks) = scan front := by
  rw [scan_append, scan_blanks hblanks, scan]

theorem statementsOf_blanks_append (hblanks : ∀ y ∈ blanks, y.2 = .blank) :
    statementsOf (blanks ++ back) = statementsOf back := by
  rw [statementsOf, scan_append, closed_foldr hblanks, statementsOf]

theorem foldr_statements (marked : Marked) (later : List (List Word)) :
    marked.foldr scanFrom ⟨[], [], later⟩ =
      ⟨(scan marked).word, (scan marked).words, (scan marked).statements ++ later⟩ := by
  induction marked with
  | nil => rfl
  | cons x marked ih =>
    rw [List.foldr_cons, ih, scan_cons]
    rcases hkind : x.2 with _ | _ | _
    · rw [scanFrom, scanFrom, hkind]
    · rw [scanFrom_blank hkind, scanFrom_blank hkind]
    · rw [scanFrom_separator hkind, scanFrom_separator hkind, Scan.closed, Scan.closed,
        addNonempty_append]

theorem statementsOf_separator (h : x.2 = .separator) :
    statementsOf (front ++ x :: back) = statementsOf front ++ statementsOf back := by
  have hrest : scan (x :: back) = ⟨[], [], statementsOf back⟩ := by
    rw [scan_cons, scanFrom_separator h, ← statementsOf]
  rw [statementsOf, scan_append, hrest, foldr_statements, Scan.closed, addNonempty_append]
  rfl

theorem scan_statements (marked : Marked) (h : ∀ x ∈ marked, x.2 ≠ .separator) :
    (scan marked).statements = [] := by
  induction marked with
  | nil => rfl
  | cons x marked ih =>
    obtain ⟨hx, hrest⟩ := List.forall_mem_cons.mp h
    rw [scan_cons]
    rcases hkind : x.2 with _ | _ | _
    · rw [scanFrom, hkind]
      exact ih hrest
    · rw [scanFrom_blank hkind]
      exact ih hrest
    · exact absurd hkind hx

theorem length_statementsOf {marked : Marked} (h : ∀ x ∈ marked, x.2 ≠ .separator) :
    (statementsOf marked).length ≤ 1 := by
  rw [statementsOf, Scan.closed, scan_statements marked h, addNonempty]
  split
  · exact Nat.zero_le 1
  · exact Nat.le_refl 1

theorem addNonempty_ne_nil {α : Type} {list : List α} {lists : List (List α)}
    (h : list ≠ [] ∨ lists ≠ []) : addNonempty list lists ≠ [] := by
  rw [addNonempty]
  cases list with
  | nil => exact h.resolve_left fun hne => hne rfl
  | cons a list => exact List.cons_ne_nil _ _

theorem closed_ne_nil (h : s.word ≠ [] ∨ s.words ≠ [] ∨ s.statements ≠ []) : s.closed ≠ [] := by
  apply addNonempty_ne_nil
  rcases h with hword | hwords | hstatements
  · exact .inl (addNonempty_ne_nil (.inl hword))
  · exact .inl (addNonempty_ne_nil (.inr hwords))
  · exact .inr hstatements

theorem statementsOf_ne_nil {marked : Marked} (h : ∃ x ∈ marked, x.2 = .solid) :
    statementsOf marked ≠ [] := by
  apply closed_ne_nil
  induction marked with
  | nil =>
    obtain ⟨x, hx, -⟩ := h
    cases hx
  | cons x marked ih =>
    rw [scan_cons]
    rcases hkind : x.2 with _ | _ | _
    · rw [scanFrom, hkind]
      exact .inl (List.cons_ne_nil _ _)
    all_goals
      have hrest : ∃ y ∈ marked, y.2 = .solid := by
        obtain ⟨y, hy, hsolid⟩ := h
        rcases List.mem_cons.mp hy with rfl | hy
        · rw [hkind] at hsolid
          cases hsolid
        · exact ⟨y, hy, hsolid⟩
    · rw [scanFrom_blank hkind]
      rcases ih hrest with hword | hwords | hstatements
      · exact .inr (.inl (addNonempty_ne_nil (.inl hword)))
      · exact .inr (.inl (addNonempty_ne_nil (.inr hwords)))
      · exact .inr (.inr hstatements)
    · rw [scanFrom_separator hkind]
      exact .inr (.inr (closed_ne_nil (ih hrest)))

end Statements
end FieldserviceIT.Lib.SqlText
