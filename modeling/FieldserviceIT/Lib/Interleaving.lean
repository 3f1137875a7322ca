/-!
Programs that run side by side on one store. A program is a sequence of atomic
operations; what follows an operation may look at the store as the operation
found it. A configuration is a store with the programs started so far, a run
starts programs, advances one of them by one operation, or lets time pass.

The rule at the end carries an invariant of the store and an assertion about
every program through all runs at once. An assertion about a program is taken at
a store and has to survive whatever the others do, which is what the rely says.
-/

namespace FieldserviceIT.Lib

inductive Prog (σ Op : Type) where
  | done
  | fail
  | step (op : Op) (next : σ → Prog σ Op)

structure System (σ Op Req : Type) where
  exec : Op → σ → σ
  /-- Time passes. -/
  tick : σ → σ
  handler : Req → Prog σ Op
  /-- What clients can send in a state. -/
  sendable : σ → Req → Prop

structure Config (σ Op : Type) where
  shared : σ
  threads : List (Prog σ Op)

variable {σ Op Req : Type}

namespace Prog

def finished : Prog σ Op → Bool
  | done | fail => true
  | step _ _ => false

/-- A program of a part, as a program of the whole: it sees the part of the store
that is its own. -/
def embed {τ Op' : Type} (view : σ → τ) (wrap : Op' → Op) : Prog τ Op' → Prog σ Op
  | done => done
  | fail => fail
  | step op next => step (wrap op) fun s => (next (view s)).embed view wrap

end Prog

/-- An operation, or the end of a program that breaks off after one. -/
inductive Breakable (Op : Type) where
  | does (op : Op)
  | breakOff (last : Option Op)

def Breakable.exec (exec : Op → σ → σ) : Breakable Op → σ → σ
  | .does op, s => exec op s
  | .breakOff _, s => s

/-- The program breaks off with an error after so many operations, if it comes so far;
without a number it does not. -/
def Prog.cut : Option Op → Option Nat → Prog σ Op → Prog σ (Breakable Op)
  | _, _, .done => .done
  | _, _, .fail => .fail
  | last, some 0, .step _ _ => .step (.breakOff last) fun _ => .fail
  | _, some (n + 1), .step op next => .step (.does op) fun s => (next s).cut (some op) (some n)
  | _, none, .step op next => .step (.does op) fun s => (next s).cut (some op) none

namespace System

variable (sys : System σ Op Req) (allowed : Op → σ → Prop)

/-- One step of a run, every operation of which is allowed where it happens. -/
inductive Step : Config σ Op → Config σ Op → Prop
  | start {s : σ} {threads : List (Prog σ Op)} (req : Req) (hsend : sys.sendable s req) :
      Step ⟨s, threads⟩ ⟨s, threads ++ [sys.handler req]⟩
  | run {s : σ} {threads : List (Prog σ Op)} (i : Nat) {op : Op} {next : σ → Prog σ Op}
      (hthread : threads[i]? = some (.step op next)) (hallowed : allowed op s) :
      Step ⟨s, threads⟩ ⟨sys.exec op s, threads.set i (next s)⟩
  | tick {s : σ} {threads : List (Prog σ Op)} : Step ⟨s, threads⟩ ⟨sys.tick s, threads⟩

inductive Run (c₀ : Config σ Op) : Config σ Op → Prop
  | refl : Run c₀ c₀
  | tail {c c' : Config σ Op} (hrun : Run c₀ c) (hstep : sys.Step allowed c c') : Run c₀ c'

variable {sys allowed}

theorem Run.trans {a b c : Config σ Op} (hab : sys.Run allowed a b) (hbc : sys.Run allowed b c) :
    sys.Run allowed a c := by
  induction hbc with
  | refl => exact hab
  | tail _ hstep ih => exact .tail ih hstep

theorem Step.thread {c c' : Config σ Op} (hstep : sys.Step allowed c c') {i : Nat} {p : Prog σ Op}
    (hthread : c.threads[i]? = some p) : c'.threads[i]? = some p ∨
      ∃ op next, p = .step op next ∧ allowed op c.shared ∧ c'.shared = sys.exec op c.shared ∧
        c'.threads[i]? = some (next c.shared) := by
  have hlength := (List.getElem?_eq_some_iff.mp hthread).1
  cases hstep with
  | start req hsend =>
    left
    simp only [List.getElem?_append_left hlength, hthread]
  | run j hthread' hallowed =>
    by_cases hij : j = i
    · subst hij
      obtain rfl := Option.some.inj (hthread'.symm.trans hthread)
      exact .inr ⟨_, _, rfl, hallowed, rfl, List.getElem?_set_self hlength⟩
    · left
      simp only [List.getElem?_set_ne hij, hthread]
  | tick => exact .inl hthread

end System

section Discipline

variable (sys : System σ Op Req)

/-- Every operation the program can come to is good, whatever it finds. -/
def Prog.All (good : Op → Prop) : Prog σ Op → Prop
  | .done | .fail => True
  | .step op next => good op ∧ ∀ s, (next s).All good

def System.alone : Prog σ Op → σ → σ
  | .done, s | .fail, s => s
  | .step op next, s => System.alone (next s) (sys.exec op s)

def System.throws : Prog σ Op → σ → Bool
  | .done, _ => false
  | .fail, _ => true
  | .step op next, s => System.throws (next s) (sys.exec op s)

/-- Requests one after another, each of them admitted where it starts. -/
inductive System.Serial (admitted : Req → σ → Prop) (s₀ : σ) : σ → Prop
  | refl : Serial admitted s₀ s₀
  | request {s : σ} (hserial : Serial admitted s₀ s) (req : Req) (hsend : sys.sendable s req)
      (hadmitted : admitted req s) : Serial admitted s₀ (sys.alone (sys.handler req) s)
  | tick {s : σ} (hserial : Serial admitted s₀ s) : Serial admitted s₀ (sys.tick s)

variable {sys} {allowed : Op → σ → Prop} {good : Op → Prop}

theorem Prog.all_step {op : Op} {next : σ → Prog σ Op} (hop : good op)
    (hnext : ∀ s, (next s).All good) : (Prog.step op next).All good :=
  ⟨hop, hnext⟩

theorem Prog.all_of_forall (h : ∀ op, good op) (p : Prog σ Op) : p.All good := by
  induction p with
  | done | fail => trivial
  | step op next ih => exact ⟨h op, ih⟩

theorem Prog.All.mono {good' : Op → Prop} (h : ∀ op, good op → good' op) {p : Prog σ Op}
    (hall : p.All good) : p.All good' := by
  induction p with
  | done | fail => trivial
  | step op next ih => exact ⟨h op hall.1, fun s => ih s (hall.2 s)⟩

theorem Prog.all_cut {p : Prog σ Op} (h : p.All good) {good' : Breakable Op → Prop}
    (hop : ∀ op, good op → good' (.does op)) (hbreak : ∀ last, good' (.breakOff last))
    (last : Option Op) (budget : Option Nat) : (p.cut last budget).All good' := by
  induction p generalizing last budget with
  | done | fail => trivial
  | step op next ih =>
    cases budget with
    | none => exact ⟨hop op h.1, fun s => ih s (h.2 s) _ none⟩
    | some n =>
      cases n with
      | zero => exact ⟨hbreak last, fun _ => trivial⟩
      | succ n => exact ⟨hop op h.1, fun s => ih s (h.2 s) _ (some n)⟩

theorem Prog.all_embed {τ Op' : Type} {view : σ → τ} {wrap : Op' → Op} {p : Prog τ Op'}
    (h : p.All fun op => good (wrap op)) : (p.embed view wrap).All good := by
  induction p with
  | done | fail => trivial
  | step op next ih => exact ⟨h.1, fun s => ih (view s) (h.2 (view s))⟩

theorem Prog.All.alone {Inv : σ → Prop} (hexec : ∀ op s, Inv s → good op → Inv (sys.exec op s))
    {p : Prog σ Op} (h : p.All good) {s : σ} (hinv : Inv s) : Inv (sys.alone p s) := by
  induction p generalizing s with
  | done | fail => exact hinv
  | step op next ih => exact ih s (h.2 s) (hexec op s hinv h.1)

theorem System.all_threads
    (hhandler : ∀ s req, sys.sendable s req → (sys.handler req).All good) {c₀ c : Config σ Op}
    (hidle : c₀.threads = []) (hrun : sys.Run allowed c₀ c) : ∀ p ∈ c.threads, p.All good := by
  induction hrun with
  | refl => simp [hidle]
  | tail _ hstep ih =>
    intro p hp
    cases hstep with
    | start req hsend =>
      obtain hp | hp := List.mem_append.mp hp
      · exact ih p hp
      · obtain rfl := List.mem_singleton.mp hp
        exact hhandler _ req hsend
    | run i hthread hallowed =>
      obtain hp | rfl := List.mem_or_eq_of_mem_set hp
      · exact ih p hp
      · exact (ih _ (List.mem_of_getElem? hthread)).2 _
    | tick => exact ih p hp

theorem System.run_good
    (hhandler : ∀ s req, sys.sendable s req → (sys.handler req).All good) {c₀ c : Config σ Op}
    (hidle : c₀.threads = []) (hrun : sys.Run allowed c₀ c) :
    sys.Run (fun op s => allowed op s ∧ good op) c₀ c := by
  induction hrun with
  | refl => exact .refl
  | tail hrun hstep ih =>
    refine .tail ih ?_
    have hall := System.all_threads hhandler hidle hrun
    cases hstep with
    | start req hsend => exact .start req hsend
    | run i hthread hallowed =>
      exact .run i hthread ⟨hallowed, (hall _ (List.mem_of_getElem? hthread)).1⟩
    | tick => exact .tick

theorem System.effect (hhandler : ∀ s req, sys.sendable s req → (sys.handler req).All good)
    {c₀ c c' : Config σ Op} (hidle : c₀.threads = []) (hrun : sys.Run allowed c₀ c)
    (hstep : sys.Step allowed c c') :
    c'.shared = c.shared ∨ c'.shared = sys.tick c.shared ∨
      ∃ op, good op ∧ allowed op c.shared ∧ c'.shared = sys.exec op c.shared := by
  have hall := System.all_threads hhandler hidle hrun
  cases hstep with
  | start req hsend => exact .inl rfl
  | run i hthread hallowed =>
    exact .inr (.inr ⟨_, (hall _ (List.mem_of_getElem? hthread)).1, hallowed, rfl⟩)
  | tick => exact .inr (.inl rfl)

theorem System.keeps_of_all {Inv : σ → Prop}
    (hhandler : ∀ s req, sys.sendable s req → (sys.handler req).All good)
    (hexec : ∀ op s, Inv s → allowed op s → good op → Inv (sys.exec op s))
    (htick : ∀ s, Inv s → Inv (sys.tick s)) {c₀ c : Config σ Op} (hidle : c₀.threads = [])
    (hrun : sys.Run allowed c₀ c) (hinv : Inv c₀.shared) : Inv c.shared := by
  induction hrun with
  | refl => exact hinv
  | tail hrun hstep ih =>
    obtain heq | heq | ⟨op, hgood, hallowed, heq⟩ := System.effect hhandler hidle hrun hstep
    · exact heq ▸ ih
    · exact heq ▸ htick _ ih
    · exact heq ▸ hexec op _ ih hallowed hgood

theorem System.run_within {Inv : σ → Prop}
    (hhandler : ∀ s req, sys.sendable s req → (sys.handler req).All good)
    (hexec : ∀ op s, Inv s → allowed op s → good op → Inv (sys.exec op s))
    (htick : ∀ s, Inv s → Inv (sys.tick s)) {c₀ c : Config σ Op} (hidle : c₀.threads = [])
    (hrun : sys.Run allowed c₀ c) (hinv : Inv c₀.shared) :
    sys.Run (fun op s => allowed op s ∧ Inv s) c₀ c := by
  induction hrun with
  | refl => exact .refl
  | tail hrun hstep ih =>
    have hhere := System.keeps_of_all hhandler hexec htick hidle hrun hinv
    refine .tail ih ?_
    cases hstep with
    | start req hsend => exact .start req hsend
    | run i hthread hallowed => exact .run i hthread ⟨hallowed, hhere⟩
    | tick => exact .tick

theorem System.keeps_serial {admitted : Req → σ → Prop} {Inv : σ → Prop}
    (hrequest : ∀ req s, Inv s → sys.sendable s req → admitted req s →
      Inv (sys.alone (sys.handler req) s))
    (htick : ∀ s, Inv s → Inv (sys.tick s)) {s₀ s : σ} (hserial : sys.Serial admitted s₀ s)
    (hinv : Inv s₀) : Inv s := by
  induction hserial with
  | refl => exact hinv
  | request _ req hsend hadmitted ih => exact hrequest req _ ih hsend hadmitted
  | tick _ ih => exact htick _ ih

end Discipline

section Throwing

variable (exec : Op → σ → σ) (same : σ → σ → Prop)

def Prog.NeverFails : Prog σ Op → Prop
  | .done => True
  | .fail => False
  | .step _ next => ∀ s, (next s).NeverFails

/-- As long as the program can still end in an error it changes nothing. -/
def Prog.Clean : Prog σ Op → Prop
  | .done | .fail => True
  | .step op next => ∀ s, (next s).NeverFails ∨ same s (exec op s) ∧ (next s).Clean

variable {exec same} {sys : System σ Op Req} {allowed : Op → σ → Prop}

theorem Prog.clean_step {op : Op} {next : σ → Prog σ Op} (hsame : ∀ s, same s (exec op s))
    (hnext : ∀ s, (next s).Clean exec same) : (Prog.step op next).Clean exec same :=
  fun s => .inr ⟨hsame s, hnext s⟩

theorem System.Run.follow {P : Prog σ Op → Prop}
    (hstep : ∀ op next s, P (.step op next) → P (next s)) {a b : Config σ Op}
    (hrun : sys.Run allowed a b) {i : Nat} {p : Prog σ Op} (hthread : a.threads[i]? = some p)
    (hp : P p) : ∃ q, b.threads[i]? = some q ∧ P q := by
  induction hrun with
  | refl => exact ⟨p, hthread, hp⟩
  | tail _ hlast ih =>
    obtain ⟨q, hq, hPq⟩ := ih
    obtain hsame | ⟨op, next, rfl, -, -, hnext⟩ := hlast.thread hq
    · exact ⟨q, hsame, hPq⟩
    · exact ⟨_, hnext, hstep op next _ hPq⟩

theorem System.Run.same_of_fail {a b c : Config σ Op} {i : Nat} {p : Prog σ Op} {op : Op}
    {next : σ → Prog σ Op} (hclean : p.Clean sys.exec same) (hstarted : a.threads[i]? = some p)
    (hrun : sys.Run allowed a b) (hthread : b.threads[i]? = some (.step op next))
    (hrest : sys.Run allowed ⟨sys.exec op b.shared, b.threads.set i (next b.shared)⟩ c)
    (hfail : c.threads[i]? = some .fail) : same b.shared (sys.exec op b.shared) := by
  have hlength := (List.getElem?_eq_some_iff.mp hthread).1
  have hcannot : ¬ (next b.shared).NeverFails := by
    intro hnever
    obtain ⟨q, hq, hqnever⟩ := hrest.follow (P := Prog.NeverFails) (fun _ _ s h => h s)
      (List.getElem?_set_self hlength) hnever
    obtain rfl := Option.some.inj (hq.symm.trans hfail)
    exact hqnever
  obtain ⟨q, hq, hqclean⟩ :=
    hrun.follow (P := fun q => q.NeverFails ∨ q.Clean sys.exec same)
      (fun op next s h => h.elim (fun h => .inl (h s)) fun h => (h s).imp_right And.right)
      hstarted (.inr hclean)
  obtain rfl := Option.some.inj (hq.symm.trans hthread)
  obtain hnever | hqclean := hqclean
  · exact absurd (hnever b.shared) hcannot
  · exact ((hqclean b.shared).resolve_left hcannot).1

end Throwing

section Schedule

/-- What a schedule may ask for next. -/
inductive Move (Req : Type) where
  | start (req : Req)
  | run (i : Nat)
  | tick

variable (sys : System σ Op Req) (canSend : σ → Req → Bool) (canRun : Op → σ → Bool)

def System.move (c : Config σ Op) : Move Req → Option (Config σ Op)
  | .start req =>
    if canSend c.shared req then some ⟨c.shared, c.threads ++ [sys.handler req]⟩ else none
  | .run i =>
    match c.threads[i]? with
    | some (.step op next) =>
      if canRun op c.shared then some ⟨sys.exec op c.shared, c.threads.set i (next c.shared)⟩
      else none
    | _ => none
  | .tick => some ⟨sys.tick c.shared, c.threads⟩

def System.play (c : Config σ Op) : List (Move Req) → Option (Config σ Op)
  | [] => some c
  | m :: moves => (sys.move canSend canRun c m).bind fun c' => System.play c' moves

variable {sys canSend canRun} {allowed : Op → σ → Prop}

theorem System.step_of_move (hsend : ∀ s req, canSend s req = true → sys.sendable s req)
    (hallowed : ∀ op s, canRun op s = true → allowed op s) {c c' : Config σ Op} {m : Move Req}
    (h : sys.move canSend canRun c m = some c') : sys.Step allowed c c' := by
  obtain ⟨s, threads⟩ := c
  cases m with
  | start req =>
    obtain ⟨hcan, heq⟩ := Option.ite_none_right_eq_some.mp h
    obtain rfl := Option.some.inj heq
    exact .start req (hsend s req hcan)
  | run i =>
    simp only [System.move] at h
    split at h
    · next op next hthread =>
        obtain ⟨hcan, heq⟩ := Option.ite_none_right_eq_some.mp h
        obtain rfl := Option.some.inj heq
        exact .run i hthread (hallowed op s hcan)
    · cases h
  | tick =>
    obtain rfl := Option.some.inj h
    exact .tick

theorem System.run_of_play (hsend : ∀ s req, canSend s req = true → sys.sendable s req)
    (hallowed : ∀ op s, canRun op s = true → allowed op s) {moves : List (Move Req)}
    {c c' : Config σ Op} (h : sys.play canSend canRun c moves = some c') :
    sys.Run allowed c c' := by
  induction moves generalizing c with
  | nil =>
    obtain rfl := Option.some.inj h
    exact .refl
  | cons m moves ih =>
    obtain ⟨c₁, hmove, hplay⟩ := Option.bind_eq_some_iff.mp h
    exact (Run.tail .refl (System.step_of_move hsend hallowed hmove)).trans (ih hplay)

theorem System.exists_run_of_play (hsend : ∀ s req, canSend s req = true → sys.sendable s req)
    (hallowed : ∀ op s, canRun op s = true → allowed op s) {moves : List (Move Req)}
    {c : Config σ Op} {check : Config σ Op → Bool}
    (h : (sys.play canSend canRun c moves).any check = true) :
    ∃ c', sys.Run allowed c c' ∧ check c' = true := by
  obtain ⟨c', hplay, hcheck⟩ := (Option.any_eq_true _ _).mp h
  exact ⟨c', System.run_of_play hsend hallowed hplay, hcheck⟩

theorem System.exists_step_of_play (hsend : ∀ s req, canSend s req = true → sys.sendable s req)
    (hallowed : ∀ op s, canRun op s = true → allowed op s) {moves : List (Move Req)} {last : Move Req}
    {c : Config σ Op} {check : Config σ Op → Config σ Op → Bool}
    (h : (sys.play canSend canRun c moves).any (fun c' =>
      (sys.move canSend canRun c' last).any (check c')) = true) :
    ∃ c' c'', sys.Run allowed c c' ∧ sys.Step allowed c' c'' ∧ check c' c'' = true := by
  obtain ⟨c', hrun, hlast⟩ := System.exists_run_of_play hsend hallowed h
  obtain ⟨c'', hmove, hcheck⟩ := (Option.any_eq_true _ _).mp hlast
  exact ⟨c', c'', hrun, System.step_of_move hsend hallowed hmove, hcheck⟩

end Schedule

section Invariant

variable (sys : System σ Op Req) (allowed : Op → σ → Prop) (Inv : σ → Prop)

/-- Every single step keeps the invariant of the store, whoever takes it. -/
structure Kept : Prop where
  exec : ∀ op s, Inv s → allowed op s → Inv (sys.exec op s)
  tick : ∀ s, Inv s → Inv (sys.tick s)

variable {sys allowed Inv}

theorem Kept.step (h : Kept sys allowed Inv) {c c' : Config σ Op} (hstep : sys.Step allowed c c')
    (hinv : Inv c.shared) : Inv c'.shared := by
  cases hstep with
  | start _ _ => exact hinv
  | run i hthread hallowed => exact h.exec _ _ hinv hallowed
  | tick => exact h.tick _ hinv

theorem Kept.run (h : Kept sys allowed Inv) {c₀ c : Config σ Op} (hrun : sys.Run allowed c₀ c)
    (hinv : Inv c₀.shared) : Inv c.shared := by
  induction hrun with
  | refl => exact hinv
  | tail _ hstep ih => exact h.step hstep ih

end Invariant

section Rely

variable (sys : System σ Op Req) (allowed : Op → σ → Prop) (Inv : σ → Prop)
variable (rely : σ → σ → Prop) (good : Op → σ → Prop)

/-- From this store on, whatever the others do, each operation of the program is
good where it happens, and the program ends in a store with the postcondition. -/
def Prog.Safe (post : σ → Prop) : Prog σ Op → σ → Prop
  | .done, s => ∀ s', rely s s' → Inv s' → post s'
  | .fail, s => ∀ s', rely s s' → Inv s' → post s'
  | .step op next, s => ∀ s', rely s s' → Inv s' → allowed op s' →
      good op s' ∧ Safe post (next s') (sys.exec op s')

/-- What a family of programs owes its environment and each other. -/
structure Cooperation : Prop where
  refl : ∀ s, rely s s
  trans : ∀ {s s' s''}, rely s s' → rely s' s'' → rely s s''
  exec : ∀ {op s}, Inv s → allowed op s → good op s →
    Inv (sys.exec op s) ∧ rely s (sys.exec op s)
  tick : ∀ {s}, Inv s → Inv (sys.tick s) ∧ rely s (sys.tick s)
  handler : ∀ {req s}, Inv s → sys.sendable s req →
    Prog.Safe sys allowed Inv rely good (fun _ => True) (sys.handler req) s

variable {sys allowed Inv rely good}

theorem Prog.Safe.later_of_trans {post : σ → Prop} {p : Prog σ Op} {s s' : σ}
    (hsafe : p.Safe sys allowed Inv rely good post s) (hrely : rely s s')
    (htrans : ∀ s s' s'', rely s s' → rely s' s'' → rely s s'') :
    p.Safe sys allowed Inv rely good post s' := by
  cases p with
  | done => exact fun s'' hs'' => hsafe s'' (htrans _ _ _ hrely hs'')
  | fail => exact fun s'' hs'' => hsafe s'' (htrans _ _ _ hrely hs'')
  | step op next => exact fun s'' hs'' => hsafe s'' (htrans _ _ _ hrely hs'')

theorem Prog.Safe.later (h : Cooperation sys allowed Inv rely good) {post : σ → Prop}
    {p : Prog σ Op} {s s' : σ} (hsafe : p.Safe sys allowed Inv rely good post s)
    (hrely : rely s s') : p.Safe sys allowed Inv rely good post s' :=
  hsafe.later_of_trans hrely fun _ _ _ => h.trans

theorem Prog.Safe.finished (h : Cooperation sys allowed Inv rely good) {post : σ → Prop}
    {p : Prog σ Op} {s : σ} (hsafe : p.Safe sys allowed Inv rely good post s) (hinv : Inv s)
    (hfinished : p.finished = true) : post s := by
  cases p with
  | done => exact hsafe s (h.refl s) hinv
  | fail => exact hsafe s (h.refl s) hinv
  | step op next => cases hfinished

theorem Prog.Safe.mono {allowed' : Op → σ → Prop} (h : ∀ op s, allowed' op s → allowed op s)
    {post : σ → Prop} {p : Prog σ Op} {s : σ} (hsafe : p.Safe sys allowed Inv rely good post s) :
    p.Safe sys allowed' Inv rely good post s := by
  induction p generalizing s with
  | done | fail => exact hsafe
  | step op next ih =>
    intro s' hrely hinv hallowed
    obtain ⟨hgood, hnext⟩ := hsafe s' hrely hinv (h op s' hallowed)
    exact ⟨hgood, ih s' hnext⟩

theorem Prog.safe_under (fact : σ → Prop) (hstable : ∀ {s s'}, rely s s' → fact s → fact s')
    (hexec : ∀ {op s}, Inv s → allowed op s → good op s → rely s (sys.exec op s)) {p : Prog σ Op}
    (h : p.All fun op => ∀ s, fact s → good op s) {s : σ} (hfact : fact s) :
    p.Safe sys allowed Inv rely good (fun _ => True) s := by
  induction p generalizing s with
  | done | fail => exact fun _ _ _ => trivial
  | step op next ih =>
    intro s' hrely hinv hallowed
    have hfact' := hstable hrely hfact
    have hgood := h.1 s' hfact'
    exact ⟨hgood, ih s' (h.2 s') (hstable (hexec hinv hallowed hgood) hfact')⟩

/-- The invariant holds and every program is safe. -/
structure Config.Safe (sys : System σ Op Req) (allowed : Op → σ → Prop) (Inv : σ → Prop)
    (rely : σ → σ → Prop) (good : Op → σ → Prop) (c : Config σ Op) : Prop where
  inv : Inv c.shared
  threads : ∀ p ∈ c.threads, Prog.Safe sys allowed Inv rely good (fun _ => True) p c.shared

theorem Config.Safe.mono {allowed' : Op → σ → Prop} (h : ∀ op s, allowed' op s → allowed op s)
    {c : Config σ Op} (hsafe : c.Safe sys allowed Inv rely good) :
    c.Safe sys allowed' Inv rely good :=
  ⟨hsafe.inv, fun p hp => (hsafe.threads p hp).mono h⟩

theorem Config.safe_of_idle {c : Config σ Op} (hinv : Inv c.shared) (hidle : c.threads = []) :
    c.Safe sys allowed Inv rely good :=
  ⟨hinv, fun p hp => by simp [hidle] at hp⟩

theorem Cooperation.step (h : Cooperation sys allowed Inv rely good) {c c' : Config σ Op}
    (hstep : sys.Step allowed c c') (hsafe : c.Safe sys allowed Inv rely good) :
    c'.Safe sys allowed Inv rely good ∧ rely c.shared c'.shared := by
  obtain ⟨hinv, hthreads⟩ := hsafe
  cases hstep with
  | start req hsend =>
    refine ⟨⟨hinv, fun p hp => ?_⟩, h.refl _⟩
    obtain hp | hp := List.mem_append.mp hp
    · exact hthreads p hp
    · obtain rfl := List.mem_singleton.mp hp
      exact h.handler hinv hsend
  | run i hthread hallowed =>
    have hrun := hthreads _ (List.mem_of_getElem? hthread) _ (h.refl _) hinv hallowed
    obtain ⟨hinv', hrely⟩ := h.exec hinv hallowed hrun.1
    refine ⟨⟨hinv', fun p hp => ?_⟩, hrely⟩
    obtain hp | rfl := List.mem_or_eq_of_mem_set hp
    · exact (hthreads p hp).later h hrely
    · exact hrun.2
  | tick =>
    obtain ⟨hinv', hrely⟩ := h.tick hinv
    exact ⟨⟨hinv', fun p hp => (hthreads p hp).later h hrely⟩, hrely⟩

theorem Cooperation.effect (h : Cooperation sys allowed Inv rely good) {c c' : Config σ Op}
    (hstep : sys.Step allowed c c') (hsafe : c.Safe sys allowed Inv rely good) :
    c'.shared = c.shared ∨ c'.shared = sys.tick c.shared ∨
      ∃ op, good op c.shared ∧ allowed op c.shared ∧ c'.shared = sys.exec op c.shared := by
  cases hstep with
  | start req hsend => exact .inl rfl
  | run i hthread hallowed =>
    have hrun := hsafe.threads _ (List.mem_of_getElem? hthread) _ (h.refl _) hsafe.inv hallowed
    exact .inr (.inr ⟨_, hrun.1, hallowed, rfl⟩)
  | tick => exact .inr (.inl rfl)

theorem Cooperation.run (h : Cooperation sys allowed Inv rely good) {c₀ c : Config σ Op}
    (hrun : sys.Run allowed c₀ c) (hsafe : c₀.Safe sys allowed Inv rely good) :
    c.Safe sys allowed Inv rely good ∧ rely c₀.shared c.shared := by
  induction hrun with
  | refl => exact ⟨hsafe, h.refl _⟩
  | tail _ hstep ih =>
    obtain ⟨hsafe', hrely⟩ := h.step hstep ih.1
    exact ⟨hsafe', h.trans ih.2 hrely⟩

theorem Cooperation.mono {allowed' : Op → σ → Prop} (h : Cooperation sys allowed Inv rely good)
    (hless : ∀ op s, allowed' op s → allowed op s) :
    Cooperation sys allowed' Inv rely good where
  refl := h.refl
  trans := h.trans
  exec hinv hallowed hgood := h.exec hinv (hless _ _ hallowed) hgood
  tick := h.tick
  handler hinv hsend := (h.handler hinv hsend).mono hless

theorem Cooperation.keeps (h : Cooperation sys allowed Inv rely good) {More : σ → Prop}
    (hexec : ∀ op s, Inv s → More s → allowed op s → good op s → More (sys.exec op s))
    (htick : ∀ s, More s → More (sys.tick s)) {c₀ c : Config σ Op} (hrun : sys.Run allowed c₀ c)
    (hsafe : c₀.Safe sys allowed Inv rely good) (hmore : More c₀.shared) : More c.shared := by
  induction hrun with
  | refl => exact hmore
  | tail hrun hstep ih =>
    obtain ⟨hsafe', -⟩ := h.run hrun hsafe
    obtain heq | heq | ⟨op, hgood, hallowed, heq⟩ := h.effect hstep hsafe'
    · exact heq ▸ ih
    · exact heq ▸ htick _ ih
    · exact heq ▸ hexec op _ hsafe'.inv ih hallowed hgood

/-- One program is followed on its way: what is asserted of it at the start is
asserted of what is left of it later. -/
theorem Cooperation.follow (h : Cooperation sys allowed Inv rely good) {c₀ c : Config σ Op}
    {i : Nat} {p : Prog σ Op} {post : σ → Prop} (hrun : sys.Run allowed c₀ c)
    (hsafe : c₀.Safe sys allowed Inv rely good) (hthread : c₀.threads[i]? = some p)
    (hp : p.Safe sys allowed Inv rely good post c₀.shared) :
    ∃ q, c.threads[i]? = some q ∧ q.Safe sys allowed Inv rely good post c.shared := by
  induction hrun with
  | refl => exact ⟨p, hthread, hp⟩
  | tail hrun hstep ih =>
    obtain ⟨q, hq, hqsafe⟩ := ih
    obtain ⟨hsafe', -⟩ := h.run hrun hsafe
    obtain ⟨-, hrely⟩ := h.step hstep hsafe'
    obtain hsame | ⟨op, next, rfl, hallowed, hshared, hnext⟩ := hstep.thread hq
    · exact ⟨q, hsame, hqsafe.later h hrely⟩
    · refine ⟨_, hnext, ?_⟩
      rw [hshared]
      exact (hqsafe _ (h.refl _) hsafe'.inv hallowed).2

end Rely

section Stages

variable (sys : System σ Op Req) (allowed : Op → σ → Prop) (Inv : σ → Prop)
variable (Underway : σ → Prog σ Op → Prop)

/-- What is known of a program by how far it has come. Knowing it needs no permission for
the next operation; taking it does. -/
structure Staged : Prop where
  start : ∀ s req, Inv s → sys.sendable s req → Underway s (sys.handler req)
  inv : ∀ s op next, Inv s → Underway s (.step op next) → allowed op s → Inv (sys.exec op s)
  next : ∀ s op next, Inv s → Underway s (.step op next) → allowed op s →
    Underway (sys.exec op s) (next s)
  others : ∀ s op next p, Inv s → Underway s (.step op next) → allowed op s → Underway s p →
    Underway (sys.exec op s) p
  tick : ∀ s, Inv s → Inv (sys.tick s) ∧ ∀ p, Underway s p → Underway (sys.tick s) p

variable {sys allowed Inv Underway}

theorem Staged.step (h : Staged sys allowed Inv Underway) {c c' : Config σ Op}
    (hstep : sys.Step allowed c c') (hinv : Inv c.shared)
    (hunderway : ∀ p ∈ c.threads, Underway c.shared p) :
    Inv c'.shared ∧ ∀ p ∈ c'.threads, Underway c'.shared p := by
  cases hstep with
  | @start s threads req hsend =>
    refine ⟨hinv, fun p hp => ?_⟩
    obtain hp | hp := List.mem_append.mp hp
    · exact hunderway p hp
    · obtain rfl := List.mem_singleton.mp hp
      exact h.start s req hinv hsend
  | @run s threads i op next hthread hallowed =>
    have hp := hunderway _ (List.mem_of_getElem? hthread)
    refine ⟨h.inv s op next hinv hp hallowed, fun q hq => ?_⟩
    obtain hq | rfl := List.mem_or_eq_of_mem_set hq
    · exact h.others s op next q hinv hp hallowed (hunderway q hq)
    · exact h.next s op next hinv hp hallowed
  | @tick s threads =>
    obtain ⟨hinv', hlater⟩ := h.tick s hinv
    exact ⟨hinv', fun p hp => hlater p (hunderway p hp)⟩

theorem Staged.run (h : Staged sys allowed Inv Underway) {c₀ c : Config σ Op}
    (hidle : c₀.threads = []) (hrun : sys.Run allowed c₀ c) (hinv : Inv c₀.shared) :
    Inv c.shared ∧ ∀ p ∈ c.threads, Underway c.shared p := by
  induction hrun with
  | refl => exact ⟨hinv, by simp [hidle]⟩
  | tail _ hstep ih => exact h.step hstep ih.1 ih.2

/-- Programs whose operations are good whatever is permitted next, so that this is known of
an operation before it is known to be allowed. -/
structure Informed (sys : System σ Op Req) (allowed : Op → σ → Prop) (Inv : σ → Prop)
    (rely : σ → σ → Prop) (good : Op → σ → Prop) : Prop where
  refl : ∀ s, rely s s
  trans : ∀ {s s' s''}, rely s s' → rely s' s'' → rely s s''
  exec : ∀ {op s}, Inv s → allowed op s → good op s →
    Inv (sys.exec op s) ∧ rely s (sys.exec op s)
  tick : ∀ {s}, Inv s → Inv (sys.tick s) ∧ rely s (sys.tick s)
  handler : ∀ {req s}, Inv s → sys.sendable s req →
    Prog.Safe sys (fun _ _ => True) Inv rely good (fun _ => True) (sys.handler req) s

variable {rely : σ → σ → Prop} {good : Op → σ → Prop}

theorem Informed.staged (h : Informed sys allowed Inv rely good) : Staged sys allowed Inv
    fun s p => Prog.Safe sys (fun _ _ => True) Inv rely good (fun _ => True) p s where
  start _ _ hinv hsend := h.handler hinv hsend
  inv s _ _ hinv hsafe hallowed := (h.exec hinv hallowed (hsafe s (h.refl s) hinv trivial).1).1
  next s _ _ hinv hsafe _ := (hsafe s (h.refl s) hinv trivial).2
  others s _ _ _ hinv hsafe hallowed hother :=
    hother.later_of_trans (h.exec hinv hallowed (hsafe s (h.refl s) hinv trivial).1).2
      fun _ _ _ => h.trans
  tick _ hinv := ⟨(h.tick hinv).1, fun _ hsafe => hsafe.later_of_trans (h.tick hinv).2 fun _ _ _ => h.trans⟩

theorem Informed.run (h : Informed sys allowed Inv rely good) {c₀ c : Config σ Op}
    (hidle : c₀.threads = []) (hrun : sys.Run allowed c₀ c) (hinv : Inv c₀.shared) :
    Inv c.shared ∧ ∀ op next, Prog.step op next ∈ c.threads → good op c.shared := by
  obtain ⟨hinv', hsafe⟩ := h.staged.run hidle hrun hinv
  exact ⟨hinv', fun op next hthread => (hsafe _ hthread _ (h.refl _) hinv' trivial).1⟩

theorem Informed.onward (h : Informed sys allowed Inv rely good) {c₀ m c : Config σ Op}
    (hidle : c₀.threads = []) (hbefore : sys.Run allowed c₀ m) (hafter : sys.Run allowed m c)
    (hinv : Inv c₀.shared) : rely m.shared c.shared := by
  induction hafter with
  | refl => exact h.refl _
  | @tail c c' hafter hstep ih =>
    obtain ⟨hinv', hgood⟩ := h.run hidle (hbefore.trans hafter) hinv
    refine h.trans ih ?_
    cases hstep with
    | start req hsend => exact h.refl _
    | run i hthread hallowed =>
      exact (h.exec hinv' hallowed (hgood _ _ (List.mem_of_getElem? hthread))).2
    | tick => exact (h.tick hinv').2

end Stages

section InTurn

variable (sys : System σ Op Req) (allowed : Op → σ → Prop) (Inv Rest : σ → Prop)

/-- Run by itself, the program takes allowed steps only and comes to rest. -/
def System.Permits : Prog σ Op → σ → Prop
  | .done, s | .fail, s => Rest s
  | .step op next, s => Inv s → allowed op s ∧ System.Permits (next s) (sys.exec op s)

variable {sys allowed Inv Rest} {Underway : σ → Prog σ Op → Prop}

theorem System.permits_ite {c : Prop} [Decidable c] {p q : Prog σ Op} {s : σ}
    (hp : c → sys.Permits allowed Inv Rest p s) (hq : ¬ c → sys.Permits allowed Inv Rest q s) :
    sys.Permits allowed Inv Rest (if c then p else q) s := by
  split
  next h => exact hp h
  next h => exact hq h

theorem Staged.alone (h : Staged sys allowed Inv Underway) {p : Prog σ Op} {s : σ} (hinv : Inv s)
    (hp : Underway s p) (hpermits : sys.Permits allowed Inv Rest p s) :
    Inv (sys.alone p s) ∧ Rest (sys.alone p s) := by
  induction p generalizing s with
  | done | fail => exact ⟨hinv, hpermits⟩
  | step op next ih =>
    obtain ⟨hallowed, hnext⟩ := hpermits hinv
    exact ih s (h.inv s op next hinv hp hallowed) (h.next s op next hinv hp hallowed) hnext

/-- Requests that take turns keep what they keep where every step is allowed. -/
theorem Staged.serial (h : Staged sys allowed Inv Underway) {admitted : Req → σ → Prop} {s₀ s : σ}
    (hserial : sys.Serial admitted s₀ s) (hinv : Inv s₀) (hrest : Rest s₀)
    (htick : ∀ s, Rest s → Rest (sys.tick s))
    (hpermits : ∀ req s, Rest s → admitted req s →
      sys.Permits allowed Inv Rest (sys.handler req) s) : Inv s ∧ Rest s := by
  induction hserial with
  | refl => exact ⟨hinv, hrest⟩
  | request _ req hsend hadmitted ih =>
    exact h.alone ih.1 (h.start _ req ih.1 hsend) (hpermits req _ ih.2 hadmitted)
  | tick _ ih => exact ⟨(h.tick _ ih.1).1, htick _ ih.2⟩

end InTurn

end FieldserviceIT.Lib
