import FieldserviceIT.Lib.Interleaving

/-!
Programs that follow a protocol. A phase is kept for each program that is under
way; an operation may move the program that takes it to another phase. What
relates the store to all phases at once holds in every run when each single
operation keeps it. Three protocols are worked out: accounts, where nobody spends
what was not earned, a section that one program at a time may be in, and programs
that own different things.
-/

namespace FieldserviceIT.Lib

variable {σ Op Req φ : Type}

/-- Whatever the program finds, the protocol has a phase for it to go to, and it
ends in a phase to end in. -/
def Prog.Conforms (allowed : Op → σ → Prop) (advance : φ → Op → σ → Option φ) (ends : φ → Prop) :
    Prog σ Op → φ → Prop
  | .done, phase | .fail, phase => ends phase
  | .step op next, phase => ∀ s, allowed op s →
      ∃ phase', advance phase op s = some phase' ∧ (next s).Conforms allowed advance ends phase'

theorem Prog.conforms_step {allowed : Op → σ → Prop} {advance : φ → Op → σ → Option φ}
    {ends : φ → Prop} {op : Op} {next : σ → Prog σ Op} {phase : φ} (phase' : σ → φ)
    (hadvance : ∀ s, allowed op s → advance phase op s = some (phase' s))
    (hnext : ∀ s, allowed op s → (next s).Conforms allowed advance ends (phase' s)) :
    (Prog.step op next).Conforms allowed advance ends phase :=
  fun s hallowed => ⟨phase' s, hadvance s hallowed, hnext s hallowed⟩

theorem Prog.conforms_embed {τ Op' : Type} (view : σ → τ) (wrap : Op' → Op)
    {allowed : Op → σ → Prop} {advance : φ → Op → σ → Option φ} {allowed' : Op' → τ → Prop}
    {advance' : φ → Op' → τ → Option φ} {ends : φ → Prop}
    (hallowed : ∀ op s, allowed (wrap op) s → allowed' op (view s))
    (hadvance : ∀ phase op s, advance phase (wrap op) s = advance' phase op (view s))
    {p : Prog τ Op'} {phase : φ} (h : p.Conforms allowed' advance' ends phase) :
    (p.embed view wrap).Conforms allowed advance ends phase := by
  induction p generalizing phase with
  | done => exact h
  | fail => exact h
  | step op next ih =>
    intro s hs
    obtain ⟨phase', hphase, hnext⟩ := h (view s) (hallowed op s hs)
    exact ⟨phase', (hadvance phase op s).trans hphase, ih (view s) hnext⟩

theorem Prog.conforms_cut {allowed : Breakable Op → σ → Prop}
    {advance : φ → Breakable Op → σ → Option φ} {ends : φ → Prop} {op : Op}
    {next : σ → Prog σ Op} {last : Option Op} {phase : φ} (phase' : σ → φ)
    (hbreak : ∀ s, allowed (.breakOff last) s →
      ∃ stopped, advance phase (.breakOff last) s = some stopped ∧ ends stopped)
    (hadvance : ∀ s, allowed (.does op) s → advance phase (.does op) s = some (phase' s))
    (hnext : ∀ s, allowed (.does op) s → ∀ budget,
      ((next s).cut (some op) budget).Conforms allowed advance ends (phase' s))
    (budget : Option Nat) :
    ((Prog.step op next).cut last budget).Conforms allowed advance ends phase := by
  cases budget with
  | none => exact Prog.conforms_step phase' hadvance fun s hallowed => hnext s hallowed none
  | some n =>
    cases n with
    | zero =>
      intro s hallowed
      obtain ⟨stopped, hstopped, hends⟩ := hbreak s hallowed
      exact ⟨stopped, hstopped, hends⟩
    | succ n => exact Prog.conforms_step phase' hadvance fun s hallowed => hnext s hallowed (some n)

section Phases

variable (sys : System σ Op Req) (allowed : Op → σ → Prop) (advance : φ → Op → σ → Option φ)
variable (ends : φ → Prop) (start : φ) (Inv : σ → List φ → Prop)

/-- What the protocol asks of the handlers and of the relation between the store
and the phases. -/
structure Protocol : Prop where
  handler : ∀ s req, sys.sendable s req → (sys.handler req).Conforms allowed advance ends start
  start : ∀ s phases, Inv s phases → Inv s (phases ++ [start])
  exec : ∀ op s phases i phase phase', Inv s phases → allowed op s → phases[i]? = some phase →
    advance phase op s = some phase' → Inv (sys.exec op s) (phases.set i phase')
  tick : ∀ s phases, Inv s phases → Inv (sys.tick s) phases

/-- Each program conforms to its phase, and the phases to the store. -/
def Config.Phased (c : Config σ Op) : Prop :=
  ∃ entries : List (Prog σ Op × φ), entries.map Prod.fst = c.threads ∧
    (∀ entry ∈ entries, entry.1.Conforms allowed advance ends entry.2) ∧
      Inv c.shared (entries.map Prod.snd)

variable {sys allowed advance ends start Inv}

theorem Prog.Conforms.mono {possible allowed : Op → σ → Prop}
    (h : ∀ op s, allowed op s → possible op s) {p : Prog σ Op} {phase : φ}
    (hconforms : p.Conforms possible advance ends phase) :
    p.Conforms allowed advance ends phase := by
  induction p generalizing phase with
  | done => exact hconforms
  | fail => exact hconforms
  | step op next ih =>
    intro s hallowed
    obtain ⟨phase', hadvance, hnext⟩ := hconforms s (h op s hallowed)
    exact ⟨phase', hadvance, ih s hnext⟩

theorem Protocol.step_of {possible : Op → σ → Prop}
    (h : Protocol sys allowed advance ends start Inv)
    (hhandler : ∀ s req, sys.sendable s req → (sys.handler req).Conforms possible advance ends start)
    (hpossible : ∀ op s, allowed op s → possible op s) {c c' : Config σ Op}
    (hstep : sys.Step allowed c c') (hphased : c.Phased possible advance ends Inv) :
    c'.Phased possible advance ends Inv := by
  obtain ⟨entries, hthreads, hconforms, hinv⟩ := hphased
  cases hstep with
  | @start s threads req hsend =>
    refine ⟨entries ++ [(sys.handler req, start)], ?_, fun entry hentry => ?_, ?_⟩
    · simp only [List.map_append, List.map_cons, List.map_nil]
      rw [hthreads]
    · obtain hentry | hentry := List.mem_append.mp hentry
      · exact hconforms entry hentry
      · obtain rfl := List.mem_singleton.mp hentry
        exact hhandler s req hsend
    · rw [List.map_append]
      exact h.start s _ hinv
  | @run s threads i op next hthread hallowed =>
    obtain rfl : entries.map Prod.fst = threads := hthreads
    rw [List.getElem?_map, Option.map_eq_some_iff] at hthread
    obtain ⟨⟨p, phase⟩, hentry, rfl⟩ := hthread
    obtain ⟨phase', hadvance, hnext⟩ :=
      hconforms _ (List.mem_of_getElem? hentry) s (hpossible op s hallowed)
    refine ⟨entries.set i (next s, phase'), List.map_set, fun entry hmem => ?_, ?_⟩
    · obtain hmem | rfl := List.mem_or_eq_of_mem_set hmem
      · exact hconforms entry hmem
      · exact hnext
    · rw [List.map_set]
      exact h.exec op s _ i phase phase' hinv hallowed
        (by rw [List.getElem?_map, hentry]; rfl) hadvance
  | @tick s threads => exact ⟨entries, hthreads, hconforms, h.tick s _ hinv⟩

theorem Protocol.phased_of {possible : Op → σ → Prop}
    (h : Protocol sys allowed advance ends start Inv)
    (hhandler : ∀ s req, sys.sendable s req → (sys.handler req).Conforms possible advance ends start)
    (hpossible : ∀ op s, allowed op s → possible op s) {c₀ c : Config σ Op}
    (hidle : c₀.threads = []) (hrun : sys.Run allowed c₀ c) (h₀ : Inv c₀.shared []) :
    c.Phased possible advance ends Inv := by
  induction hrun with
  | refl => exact ⟨[], by rw [hidle]; rfl, fun _ hentry => absurd hentry List.not_mem_nil, h₀⟩
  | tail _ hstep ih => exact h.step_of hhandler hpossible hstep ih

theorem Protocol.phased (h : Protocol sys allowed advance ends start Inv) {c₀ c : Config σ Op}
    (hidle : c₀.threads = []) (hrun : sys.Run allowed c₀ c) (h₀ : Inv c₀.shared []) :
    c.Phased allowed advance ends Inv :=
  h.phased_of h.handler (fun _ _ hallowed => hallowed) hidle hrun h₀

theorem Protocol.run (h : Protocol sys allowed advance ends start Inv) {c₀ c : Config σ Op}
    (hidle : c₀.threads = []) (hrun : sys.Run allowed c₀ c) (h₀ : Inv c₀.shared []) :
    ∃ phases, Inv c.shared phases := by
  obtain ⟨entries, -, -, hinv⟩ := h.phased hidle hrun h₀
  exact ⟨_, hinv⟩

theorem Protocol.ended (h : Protocol sys allowed advance ends start Inv) {c₀ c : Config σ Op}
    (hidle : c₀.threads = []) (hrun : sys.Run allowed c₀ c) (h₀ : Inv c₀.shared [])
    (hfinished : ∀ p ∈ c.threads, p.finished = true) :
    ∃ phases, (∀ phase ∈ phases, ends phase) ∧ Inv c.shared phases := by
  obtain ⟨entries, hthreads, hconforms, hinv⟩ := h.phased hidle hrun h₀
  refine ⟨_, fun phase hphase => ?_, hinv⟩
  obtain ⟨⟨p, phase⟩, hentry, rfl⟩ := List.mem_map.mp hphase
  have hp : p ∈ c.threads := hthreads ▸ List.mem_map_of_mem hentry
  have hends := hconforms _ hentry
  cases p with
  | done => exact hends
  | fail => exact hends
  | step op next => cases hfinished _ hp

end Phases

section Accounts

variable {sys : System σ Op Req} {allowed : Op → σ → Prop}
variable {earns : Op → σ → Nat} {spends : Op → Nat} {earned spent : σ → Nat}

def balance (earns : Op → σ → Nat) (spends : Op → Nat) (budget : Nat) (op : Op) (s : σ) :
    Option Nat :=
  if spends op ≤ budget then some (budget - spends op + earns op s) else none

/-- The program spends no more than it has earned on its way, whatever it finds;
it has so much to begin with. -/
def Prog.Affords (earns : Op → σ → Nat) (spends : Op → Nat) : Prog σ Op → Nat → Prop
  | .done, _ | .fail, _ => True
  | .step op next, budget => spends op ≤ budget ∧
      ∀ s, (next s).Affords earns spends (budget - spends op + earns op s)

theorem Prog.affords_step {op : Op} {next : σ → Prog σ Op} {budget : Nat}
    (hspends : spends op ≤ budget)
    (hnext : ∀ s, (next s).Affords earns spends (budget - spends op + earns op s)) :
    (Prog.step op next).Affords earns spends budget :=
  ⟨hspends, hnext⟩

theorem Prog.affords_of_all {p : Prog σ Op} (h : p.All fun op => spends op = 0) (budget : Nat) :
    p.Affords earns spends budget := by
  induction p generalizing budget with
  | done | fail => trivial
  | step op next ih => exact ⟨h.1 ▸ Nat.zero_le budget, fun s => ih s (h.2 s) _⟩

theorem Prog.Affords.conforms {p : Prog σ Op} {budget : Nat} (h : p.Affords earns spends budget) :
    p.Conforms allowed (balance earns spends) (fun _ => True) budget := by
  induction p generalizing budget with
  | done | fail => trivial
  | step op next ih =>
    intro s _
    exact ⟨_, if_pos h.1, ih s (h.2 s)⟩

def total : List Nat → Nat
  | [] => 0
  | x :: l => x + total l

theorem total_append (l : List Nat) (x : Nat) : total (l ++ [x]) = total l + x := by
  induction l with
  | nil => simp only [List.nil_append, total, Nat.add_zero, Nat.zero_add]
  | cons y l ih =>
    simp only [List.cons_append, total, ih]
    omega

theorem total_set {l : List Nat} {i b : Nat} (h : l[i]? = some b) (a : Nat) :
    total (l.set i a) + b = total l + a := by
  induction l generalizing i with
  | nil => simp at h
  | cons x l ih =>
    cases i with
    | zero =>
      obtain rfl : x = b := by simpa using h
      simp only [List.set_cons_zero, total]
      omega
    | succ i =>
      have hrest := ih (i := i) (by simpa using h)
      simp only [List.set_cons_succ, total]
      omega

theorem System.spent_le_earned
    (hearned : ∀ op s, allowed op s → earned s + earns op s ≤ earned (sys.exec op s))
    (hspent : ∀ op s, allowed op s → spent (sys.exec op s) ≤ spent s + spends op)
    (htick : ∀ s, earned s ≤ earned (sys.tick s) ∧ spent (sys.tick s) ≤ spent s)
    (hhandler : ∀ s req, sys.sendable s req → (sys.handler req).Affords earns spends 0)
    {c₀ c : Config σ Op} (hidle : c₀.threads = []) (hrun : sys.Run allowed c₀ c)
    (h₀ : spent c₀.shared ≤ earned c₀.shared) : spent c.shared ≤ earned c.shared := by
  have hprotocol : Protocol sys allowed (balance earns spends) (fun _ => True) 0
      (fun s budgets => spent s + total budgets ≤ earned s) := by
    refine ⟨fun s req hsend => (hhandler s req hsend).conforms, fun s budgets hsum => ?_,
      fun op s budgets i budget budget' hsum hallowed hentry hbalance => ?_,
      fun s budgets hsum => ?_⟩
    · rw [total_append]
      exact hsum
    · obtain ⟨hspends, rfl⟩ : spends op ≤ budget ∧ budget - spends op + earns op s = budget' := by
        simpa [balance] using hbalance
      have hset := total_set hentry (budget - spends op + earns op s)
      have hmore := hearned op s hallowed
      have hless := hspent op s hallowed
      omega
    · have hpasses := htick s
      omega
  obtain ⟨budgets, hsum⟩ := hprotocol.run hidle hrun h₀
  omega

end Accounts

section Exclusive

variable {χ : Type} (sys : System σ Op Req) (allowed : Op → σ → Prop)
variable (advance : Option χ → Op → σ → Option (Option χ)) (Inv : σ → Option χ → Prop)

/-- A section for one program at a time: `none` is the phase outside. The
invariant relates the store to the phase of the program inside, if there is one. -/
structure Exclusive : Prop where
  handler : ∀ s req, sys.sendable s req →
    (sys.handler req).Conforms allowed advance (fun _ => True) none
  full : ∀ op s x y, Inv s (some x) → allowed op s → advance none op s ≠ some (some y)
  enter : ∀ op s x, Inv s none → allowed op s → advance none op s = some (some x) →
    Inv (sys.exec op s) (some x)
  outside : ∀ op s inside, Inv s inside → allowed op s → advance none op s = some none →
    Inv (sys.exec op s) inside
  inside : ∀ op s x next, Inv s (some x) → allowed op s → advance (some x) op s = some next →
    Inv (sys.exec op s) next
  tick : ∀ s inside, Inv s inside → Inv (sys.tick s) inside

def Occupies (phases : List (Option χ)) : Option χ → Prop
  | none => ∀ phase ∈ phases, phase = none
  | some x => ∃ i : Nat, phases[i]? = some (some x) ∧
      ∀ (j : Nat) (phase : Option χ), phases[j]? = some phase → j ≠ i → phase = none

theorem Occupies.append {phases : List (Option χ)} {inside : Option χ}
    (h : Occupies phases inside) : Occupies (phases ++ [none]) inside := by
  cases inside with
  | none =>
    intro phase hphase
    obtain hphase | hphase := List.mem_append.mp hphase
    · exact h phase hphase
    · exact List.mem_singleton.mp hphase
  | some x =>
    obtain ⟨i, hi, hothers⟩ := h
    have hlength := (List.getElem?_eq_some_iff.mp hi).1
    refine ⟨i, by rw [List.getElem?_append_left hlength, hi], fun j phase hj hne => ?_⟩
    by_cases hold : j < phases.length
    · rw [List.getElem?_append_left hold] at hj
      exact hothers j phase hj hne
    · rw [List.getElem?_append_right (Nat.le_of_not_lt hold)] at hj
      exact List.mem_singleton.mp (List.mem_of_getElem? hj)

theorem occupies_set {phases : List (Option χ)} {i : Nat} {phase : Option χ}
    (hi : phases[i]? = some phase)
    (hothers : ∀ (j : Nat) (other : Option χ), phases[j]? = some other → j ≠ i → other = none)
    (next : Option χ) : Occupies (phases.set i next) next := by
  have hlength := (List.getElem?_eq_some_iff.mp hi).1
  cases next with
  | none =>
    intro other hother
    obtain ⟨j, hj⟩ := List.getElem?_of_mem hother
    by_cases hij : j = i
    · subst hij
      rw [List.getElem?_set_self hlength] at hj
      exact (Option.some.inj hj).symm
    · rw [List.getElem?_set_ne (Ne.symm hij)] at hj
      exact hothers j other hj hij
  | some x =>
    refine ⟨i, List.getElem?_set_self hlength, fun j other hj hne => ?_⟩
    rw [List.getElem?_set_ne (Ne.symm hne)] at hj
    exact hothers j other hj hne

theorem Occupies.set_outside {phases : List (Option χ)} {inside : Option χ} {i : Nat}
    (h : Occupies phases inside) (hi : phases[i]? = some none) :
    Occupies (phases.set i none) inside := by
  obtain ⟨hlength, hnone⟩ := List.getElem?_eq_some_iff.mp hi
  have hsame : phases.set i none = phases := by
    rw [← hnone, List.set_getElem_self]
  rw [hsame]
  exact h

variable {sys allowed advance Inv}

theorem Exclusive.run (h : Exclusive sys allowed advance Inv) {c₀ c : Config σ Op}
    (hidle : c₀.threads = []) (hrun : sys.Run allowed c₀ c) (h₀ : Inv c₀.shared none) :
    ∃ inside, Inv c.shared inside := by
  have hprotocol : Protocol sys allowed advance (fun _ => True) none
      (fun s phases => ∃ inside, Inv s inside ∧ Occupies phases inside) := by
    refine ⟨h.handler, fun s phases => ?_, fun op s phases i phase phase' => ?_,
      fun s phases => ?_⟩
    · rintro ⟨inside, hinv, hoccupies⟩
      exact ⟨inside, hinv, hoccupies.append⟩
    · rintro ⟨inside, hinv, hoccupies⟩ hallowed hi hadvance
      cases inside with
      | none =>
        obtain rfl := hoccupies phase (List.mem_of_getElem? hi)
        have hothers : ∀ (j : Nat) (other : Option χ), phases[j]? = some other → j ≠ i →
            other = none := fun j other hj _ => hoccupies other (List.mem_of_getElem? hj)
        refine ⟨phase', ?_, occupies_set hi hothers phase'⟩
        cases phase' with
        | none => exact h.outside op s none hinv hallowed hadvance
        | some y => exact h.enter op s y hinv hallowed hadvance
      | some x =>
        obtain ⟨k, hk, hothers⟩ := hoccupies
        by_cases hik : i = k
        · subst hik
          obtain rfl : phase = some x := Option.some.inj (hi.symm.trans hk)
          exact ⟨phase', h.inside op s x phase' hinv hallowed hadvance,
            occupies_set hi hothers phase'⟩
        · obtain rfl := hothers i phase hi hik
          cases phase' with
          | none =>
            exact ⟨some x, h.outside op s (some x) hinv hallowed hadvance,
              Occupies.set_outside ⟨k, hk, hothers⟩ hi⟩
          | some y => exact absurd hadvance (h.full op s x y hinv hallowed)
    · rintro ⟨inside, hinv, hoccupies⟩
      exact ⟨inside, h.tick s inside hinv, hoccupies⟩
  obtain ⟨-, inside, hinv, -⟩ :=
    hprotocol.run hidle hrun ⟨none, h₀, fun _ hphase => absurd hphase List.not_mem_nil⟩
  exact ⟨inside, hinv⟩

end Exclusive
section Separate

variable (sys : System σ Op Req) (allowed : Op → σ → Prop) (advance : φ → Op → σ → Option φ)
variable (ends : φ → Prop) (start : φ) (Base : σ → Prop) (Ok : σ → φ → Prop) (Apart : φ → φ → Prop)

/-- Programs that own different things: what holds of a phase depends on the store only
in what the phase owns, and no two phases own the same. -/
structure Separate : Prop where
  handler : ∀ s req, sys.sendable s req → (sys.handler req).Conforms allowed advance ends start
  symm : ∀ {phase other}, Apart phase other → Apart other phase
  apart : ∀ other, Apart other start
  start : ∀ s, Base s → Ok s start
  exec : ∀ op s phase phase', Base s → allowed op s → Ok s phase →
    advance phase op s = some phase' → Base (sys.exec op s) ∧ Ok (sys.exec op s) phase'
  frame : ∀ op s phase phase' other, Base s → allowed op s → Ok s phase →
    advance phase op s = some phase' → Ok s other → Apart phase other →
      Ok (sys.exec op s) other ∧ Apart phase' other
  tick : ∀ s, Base s → Base (sys.tick s) ∧ ∀ phase, Ok s phase → Ok (sys.tick s) phase

variable {sys allowed advance ends start Base Ok Apart}

theorem Separate.protocol (h : Separate sys allowed advance ends start Base Ok Apart) :
    Protocol sys allowed advance ends start (fun s phases => Base s ∧
      (∀ phase ∈ phases, Ok s phase) ∧ ∀ (i j : Nat) (phase other : φ), i ≠ j →
        phases[i]? = some phase → phases[j]? = some other → Apart phase other) where
  handler := h.handler
  start s phases := by
    rintro ⟨hbase, hok, hapart⟩
    refine ⟨hbase, fun phase hphase => ?_, fun i j phase other hij hi hj => ?_⟩
    · obtain hphase | hphase := List.mem_append.mp hphase
      · exact hok phase hphase
      · exact List.mem_singleton.mp hphase ▸ h.start s hbase
    · rw [List.getElem?_append] at hi hj
      split at hi
      · split at hj
        · exact hapart i j phase other hij hi hj
        · rw [List.mem_singleton.mp (List.mem_of_getElem? hj)]
          exact h.apart phase
      · rw [List.mem_singleton.mp (List.mem_of_getElem? hi)]
        exact h.symm (h.apart other)
  exec op s phases i phase phase' := by
    rintro ⟨hbase, hok, hapart⟩ hallowed hi hadvance
    have hphase := hok phase (List.mem_of_getElem? hi)
    obtain ⟨hbase', hphase'⟩ := h.exec op s phase phase' hbase hallowed hphase hadvance
    have hlength := (List.getElem?_eq_some_iff.mp hi).1
    have hothers : ∀ (j : Nat) (other : φ), i ≠ j → phases[j]? = some other →
        Ok (sys.exec op s) other ∧ Apart phase' other := fun j other hij hj =>
      h.frame op s phase phase' other hbase hallowed hphase hadvance
        (hok other (List.mem_of_getElem? hj)) (hapart i j phase other hij hi hj)
    refine ⟨hbase', fun other hother => ?_, fun j k other last hjk hj hk => ?_⟩
    · obtain ⟨j, hj⟩ := List.getElem?_of_mem hother
      by_cases hij : i = j
      · subst hij
        rw [List.getElem?_set_self hlength] at hj
        exact Option.some.inj hj ▸ hphase'
      · rw [List.getElem?_set_ne hij] at hj
        exact (hothers j other hij hj).1
    · by_cases hij : i = j
      · subst hij
        rw [List.getElem?_set_self hlength] at hj
        rw [List.getElem?_set_ne hjk] at hk
        exact Option.some.inj hj ▸ (hothers k last hjk hk).2
      · rw [List.getElem?_set_ne hij] at hj
        by_cases hik : i = k
        · subst hik
          rw [List.getElem?_set_self hlength] at hk
          exact h.symm (Option.some.inj hk ▸ (hothers j other hij hj).2)
        · rw [List.getElem?_set_ne hik] at hk
          exact hapart j k other last hjk hj hk
  tick s phases := by
    rintro ⟨hbase, hok, hapart⟩
    obtain ⟨hbase', hok'⟩ := h.tick s hbase
    exact ⟨hbase', fun phase hphase => hok' phase (hok phase hphase), hapart⟩

/-- Every thing that is unfinished is owned by a program. -/
structure Attended {κ : Type} (sys : System σ Op Req) (allowed : Op → σ → Prop)
    (advance : φ → Op → σ → Option φ) (Base : σ → Prop) (Ok : σ → φ → Prop)
    (Unfinished : σ → κ → Prop) (owns : φ → κ → Prop) : Prop where
  exec : ∀ op s phase phase', Base s → allowed op s → Ok s phase →
    advance phase op s = some phase' → ∀ x, Unfinished (sys.exec op s) x →
      owns phase' x ∨ Unfinished s x ∧ ¬ owns phase x
  tick : ∀ s x, Unfinished (sys.tick s) x → Unfinished s x

theorem Separate.attended {κ : Type} {Unfinished : σ → κ → Prop} {owns : φ → κ → Prop}
    (h : Separate sys allowed advance ends start Base Ok Apart)
    (hattended : Attended sys allowed advance Base Ok Unfinished owns) :
    Protocol sys allowed advance ends start (fun s phases =>
      (Base s ∧ (∀ phase ∈ phases, Ok s phase) ∧ ∀ (i j : Nat) (phase other : φ), i ≠ j →
        phases[i]? = some phase → phases[j]? = some other → Apart phase other) ∧
      ∀ x, Unfinished s x → ∃ phase ∈ phases, owns phase x) where
  handler := h.handler
  start s phases := by
    rintro ⟨hinv, howned⟩
    refine ⟨h.protocol.start s phases hinv, fun x hx => ?_⟩
    obtain ⟨phase, hphase, hown⟩ := howned x hx
    exact ⟨phase, List.mem_append_left _ hphase, hown⟩
  exec op s phases i phase phase' := by
    rintro ⟨hinv, howned⟩ hallowed hi hadvance
    refine ⟨h.protocol.exec op s phases i phase phase' hinv hallowed hi hadvance, fun x hx => ?_⟩
    have hlength := (List.getElem?_eq_some_iff.mp hi).1
    obtain hown | ⟨hbefore, hnot⟩ := hattended.exec op s phase phase' hinv.1 hallowed
      (hinv.2.1 phase (List.mem_of_getElem? hi)) hadvance x hx
    · exact ⟨phase', List.mem_of_getElem? (List.getElem?_set_self hlength), hown⟩
    · obtain ⟨other, hother, hown⟩ := howned x hbefore
      obtain ⟨j, hj⟩ := List.getElem?_of_mem hother
      have hij : i ≠ j := by
        rintro rfl
        exact hnot (Option.some.inj (hi.symm.trans hj) ▸ hown)
      exact ⟨other, List.mem_of_getElem? ((List.getElem?_set_ne hij).trans hj), hown⟩
  tick s phases := by
    rintro ⟨hinv, howned⟩
    exact ⟨h.protocol.tick s phases hinv, fun x hx => howned x (hattended.tick s x hx)⟩

theorem Separate.finished {κ : Type} {Unfinished : σ → κ → Prop} {owns : φ → κ → Prop}
    (h : Separate sys allowed advance ends start Base Ok Apart)
    (hattended : Attended sys allowed advance Base Ok Unfinished owns)
    (hends : ∀ phase, ends phase → ∀ x, ¬ owns phase x) {c₀ c : Config σ Op}
    (hidle : c₀.threads = []) (hrun : sys.Run allowed c₀ c) (h₀ : Base c₀.shared)
    (hfinished₀ : ∀ x, ¬ Unfinished c₀.shared x)
    (hfinished : ∀ p ∈ c.threads, p.finished = true) (x : κ) : ¬ Unfinished c.shared x := by
  intro hx
  obtain ⟨phases, hended, -, howned⟩ := (h.attended hattended).ended hidle hrun
    ⟨⟨h₀, by simp, by simp⟩, fun x hx => absurd hx (hfinished₀ x)⟩ hfinished
  obtain ⟨phase, hphase, hown⟩ := howned x hx
  exact hends phase (hended phase hphase) x hown

theorem Separate.run (h : Separate sys allowed advance ends start Base Ok Apart)
    {c₀ c : Config σ Op} (hidle : c₀.threads = []) (hrun : sys.Run allowed c₀ c)
    (h₀ : Base c₀.shared) : Base c.shared := by
  obtain ⟨-, hbase, -, -⟩ := h.protocol.run hidle hrun ⟨h₀, by simp, by simp⟩
  exact hbase

end Separate
end FieldserviceIT.Lib
