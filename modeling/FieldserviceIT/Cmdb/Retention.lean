import FieldserviceIT.Lib.Interleaving
import FieldserviceIT.Lib.Tables

/-!
Assets that are retired, restored and purged. A retirement takes the time first and writes it
after it has looked for the asset; the purge of one asset looks at its age and deletes it in
separate statements, the nightly purge is one statement. Tickets that name an asset come and go
beside that. A call that fails is one that is not advanced any further.
-/

namespace FieldserviceIT.Cmdb.Retention

open Lib

/-- The time that was written, and since when the asset has been retired without a break.
No statement reads the latter. -/
structure Retirement where
  deletedAt : Int
  since : Int

structure Asset where
  id : String
  companyId : String
  retirement : Option Retirement

structure Ticket where
  id : String
  assetId : Option String

/-- An asset as it was when it was deleted, and whether a ticket named it. -/
structure Purge where
  asset : Asset
  time : Int
  referred : Bool

structure Inventory where
  assets : List Asset
  tickets : List Ticket
  now : Int
  purged : List Purge

def days (n : Int) : Int :=
  n * 24 * 60 * 60 * 1000

inductive AssetOp where
  | read
  | retire (id companyId : String) (deletedAt : Int)
  | restore (id companyId : String)
  /-- The retirement the age of which was looked at began then. -/
  | purgeRetired (id companyId : String) (seen : Int)
  | purgeExpired
  | nameAsset (ticketId : String) (assetId : Option String)

abbrev AssetProgram := Prog Inventory AssetOp

/-- `WHERE id = ? AND companyId = ?` -/
def Asset.named (id companyId : String) (row : Asset) : Bool :=
  decide (row.id = id) && decide (row.companyId = companyId)

def Asset.retired (row : Asset) : Bool :=
  row.retirement.isSome

/-- `EXISTS (SELECT 1 FROM Ticket WHERE Ticket.assetId = Asset.id)` -/
def referred (s : Inventory) (row : Asset) : Bool :=
  s.tickets.any fun ticket => ticket.assetId = some row.id

/-- `deletedAt < DATE_SUB(NOW(3), INTERVAL 30 DAY)`, and no ticket. -/
def expired (s : Inventory) (row : Asset) : Bool :=
  (row.retirement.any fun retirement => decide (retirement.deletedAt < s.now - days 30)) &&
    !(referred s row)

def purgeWhere (p : Asset → Bool) (s : Inventory) : Inventory :=
  { s with
    assets := s.assets.filter fun row => !(p row)
    purged := s.purged ++ (s.assets.filter p).map fun row => ⟨row, s.now, referred s row⟩ }

/-- An asset that is retired again has been retired all the time. -/
def Asset.retire (now deletedAt : Int) (row : Asset) : Asset :=
  { row with retirement := some ⟨deletedAt, (row.retirement.map Retirement.since).getD now⟩ }

def execAsset (op : AssetOp) (s : Inventory) : Inventory :=
  match op with
  | .read => s
  | .retire id companyId deletedAt =>
    { s with
      assets := updateWhere (Asset.named id companyId) (Asset.retire s.now deletedAt) s.assets }
  | .restore id companyId =>
    { s with
      assets := updateWhere (Asset.named id companyId) (fun row => { row with retirement := none })
        s.assets }
  | .purgeRetired id companyId _ =>
    purgeWhere (fun row => row.named id companyId && row.retired) s
  | .purgeExpired => purgeWhere (expired s) s
  | .nameAsset ticketId assetId =>
    { s with
      tickets := insertOrUpdate Ticket.id ⟨ticketId, assetId⟩
        (fun row => { row with assetId := assetId }) s.tickets }

def findTenantAsset (id companyId : String) (s : Inventory) : Option Asset :=
  s.assets.find? fun row => row.named id companyId && !(row.retired)

def findRetired (id companyId : String) (s : Inventory) : Option Retirement :=
  (s.assets.find? fun row => row.named id companyId && row.retired).bind Asset.retirement

def updateTenantAsset (id companyId : String) (op : AssetOp) : AssetProgram :=
  .step .read fun s =>
    match findTenantAsset id companyId s with
    | none => .fail
    | some _ => .step op fun _ => .done

def retireTenantAsset (id companyId : String) : AssetProgram :=
  .step .read fun s => updateTenantAsset id companyId (.retire id companyId s.now)

def restoreTenantAsset (id companyId : String) : AssetProgram :=
  .step .read fun s =>
    match findRetired id companyId s with
    | none => .fail
    | some _ =>
      .step (.restore id companyId) fun _ =>
        .step .read fun s' => if (findTenantAsset id companyId s').isSome then .done else .fail

def purgeRetiredTenantAsset (id companyId : String) (minimumAgeDays : Int) : AssetProgram :=
  .step .read fun s =>
    match findRetired id companyId s with
    | none => .fail
    | some retirement =>
      .step .read fun s' =>
        if s'.now - retirement.deletedAt < days minimumAgeDays then .fail
        else .step (.purgeRetired id companyId retirement.since) fun _ => .done

def purgeExpired : AssetProgram :=
  .step .purgeExpired fun _ => .done

inductive AssetRequest where
  | retire (id companyId : String)
  | restore (id companyId : String)
  | purge (id companyId : String)
  | purgeExpired
  /-- A ticket is written, with an asset or without. -/
  | writeTicket (ticketId : String) (assetId : Option String)

def AssetRequest.handler : AssetRequest → AssetProgram
  | retire id companyId => retireTenantAsset id companyId
  | restore id companyId => restoreTenantAsset id companyId
  | purge id companyId => purgeRetiredTenantAsset id companyId 30
  | purgeExpired => Retention.purgeExpired
  | writeTicket ticketId assetId => .step (.nameAsset ticketId assetId) fun _ => .done

def assetSystem : System Inventory AssetOp AssetRequest where
  exec := execAsset
  tick s := { s with now := s.now + 1 }
  handler := AssetRequest.handler
  sendable _ _ := True

/-!
What the purges leave recoverable. The nightly purge keeps the thirty days as long as no
retirement is written with a time before its own; the purge of one asset keeps them as long as
the asset was not restored and retired again since its age was looked at, and does not look for
tickets at all.
-/

section Law

/-- The asset had been retired without a break for thirty days, and no ticket named it. -/
structure Purge.Due (purge : Purge) : Prop where
  retired : ∃ retirement ∈ purge.asset.retirement, retirement.since + days 30 ≤ purge.time
  free : purge.referred = false

def Recoverable (s : Inventory) : Prop :=
  ∀ purge ∈ s.purged, purge.Due

/-- A retirement is written with the time at which it begins or a later one, and the purge of one
asset finds no ticket and the retirement it has looked at, or another one as old. -/
def Timely (op : AssetOp) (s : Inventory) : Prop :=
  match op with
  | .retire id companyId deletedAt => ∀ row ∈ s.assets, row.named id companyId = true →
      (row.retirement.map Retirement.since).getD s.now ≤ deletedAt
  | .purgeRetired id companyId seen => ∀ row ∈ s.assets, row.named id companyId = true →
      ∀ retirement ∈ row.retirement, referred s row = false ∧
        (retirement.since = seen ∨ retirement.since + days 30 ≤ s.now)
  | _ => True

/-- No asset was retired after the time that is written. -/
structure Dated (s : Inventory) : Prop where
  dated : ∀ row ∈ s.assets, ∀ retirement ∈ row.retirement, retirement.since ≤ retirement.deletedAt
  recoverable : Recoverable s

def Aged (op : AssetOp) (s : Inventory) : Prop :=
  match op with
  | .purgeRetired _ _ seen => seen + days 30 ≤ s.now
  | _ => True

def Later (s s' : Inventory) : Prop :=
  s.now ≤ s'.now

end Law

section Steps

variable {s s' : Inventory}

theorem recoverable_purgeWhere_iff (h : Recoverable s) (p : Asset → Bool) :
    Recoverable (purgeWhere p s) ↔
      ∀ row ∈ s.assets, p row = true → (⟨row, s.now, referred s row⟩ : Purge).Due := by
  constructor
  · intro hafter row hrow hp
    apply hafter
    exact List.mem_append_right _ (List.mem_map_of_mem (List.mem_filter.mpr ⟨hrow, hp⟩))
  · intro hdue purge hpurge
    obtain hpurge | hpurge := List.mem_append.mp hpurge
    · exact h purge hpurge
    · obtain ⟨row, hrow, rfl⟩ := List.mem_map.mp hpurge
      obtain ⟨hrow, hp⟩ := List.mem_filter.mp hrow
      exact hdue row hrow hp

theorem due_of_expired (h : Dated s) {row : Asset} (hrow : row ∈ s.assets)
    (hexpired : expired s row = true) : (⟨row, s.now, referred s row⟩ : Purge).Due := by
  rw [expired, Bool.and_eq_true, Bool.not_eq_true'] at hexpired
  obtain ⟨hold, hfree⟩ := hexpired
  obtain ⟨retirement, hretirement, hdeleted⟩ := (Option.any_eq_true _ _).mp hold
  have hsince := h.dated row hrow retirement hretirement
  have hbefore := of_decide_eq_true hdeleted
  refine ⟨⟨retirement, hretirement, ?_⟩, hfree⟩
  simp only
  omega

theorem recoverable_purgeRetired_iff (h : Recoverable s) {id companyId : String} {seen : Int}
    (haged : Aged (.purgeRetired id companyId seen) s) :
    Recoverable (execAsset (.purgeRetired id companyId seen) s) ↔
      Timely (.purgeRetired id companyId seen) s := by
  rw [execAsset, recoverable_purgeWhere_iff h]
  constructor
  · intro hdue row hrow hnamed retirement hretirement
    have hretired : row.retired = true := Option.isSome_of_mem hretirement
    obtain ⟨⟨retirement', hretirement', hold⟩, hfree⟩ :=
      hdue row hrow (Bool.and_eq_true_iff.mpr ⟨hnamed, hretired⟩)
    obtain rfl := Option.mem_unique hretirement hretirement'
    exact ⟨hfree, .inr hold⟩
  · intro htimely row hrow hp
    obtain ⟨hnamed, hretired⟩ := Bool.and_eq_true_iff.mp hp
    obtain ⟨retirement, hretirement⟩ := Option.isSome_iff_exists.mp hretired
    obtain ⟨hfree, hsame | hold⟩ := htimely row hrow hnamed retirement hretirement
    · subst hsame
      exact ⟨⟨retirement, hretirement, haged⟩, hfree⟩
    · exact ⟨⟨retirement, hretirement, hold⟩, hfree⟩

theorem dated_retire (h : Dated s) {id companyId : String} {deletedAt : Int}
    (htimely : Timely (.retire id companyId deletedAt) s) :
    Dated (execAsset (.retire id companyId deletedAt) s) := by
  refine ⟨?_, h.recoverable⟩
  intro row' hrow'
  obtain ⟨row, hrow, rfl⟩ := mem_updateWhere.mp hrow'
  split
  next hnamed =>
    intro retirement hretirement
    obtain rfl := Option.mem_some_iff.mp hretirement
    exact htimely row hrow hnamed
  next => exact h.dated row hrow

theorem dated_restore (h : Dated s) (id companyId : String) :
    Dated (execAsset (.restore id companyId) s) := by
  refine ⟨?_, h.recoverable⟩
  intro row' hrow'
  obtain ⟨row, hrow, rfl⟩ := mem_updateWhere.mp hrow'
  split
  · intro retirement hretirement
    cases hretirement
  · exact h.dated row hrow

theorem dated_purgeWhere (h : Dated s) {p : Asset → Bool}
    (hrecoverable : Recoverable (purgeWhere p s)) : Dated (purgeWhere p s) :=
  ⟨fun row hrow => h.dated row (List.mem_of_mem_filter hrow), hrecoverable⟩

theorem dated_exec (h : Dated s) {op : AssetOp} (haged : Aged op s) (htimely : Timely op s) :
    Dated (execAsset op s) := by
  cases op with
  | read => exact h
  | retire id companyId deletedAt => exact dated_retire h htimely
  | restore id companyId => exact dated_restore h id companyId
  | purgeRetired id companyId seen =>
    exact dated_purgeWhere h ((recoverable_purgeRetired_iff h.recoverable haged).mpr htimely)
  | purgeExpired =>
    apply dated_purgeWhere h
    rw [recoverable_purgeWhere_iff h.recoverable]
    exact fun row hrow => due_of_expired h hrow
  | nameAsset ticketId assetId => exact ⟨h.dated, h.recoverable⟩

theorem now_exec (op : AssetOp) (s : Inventory) : (execAsset op s).now = s.now := by
  cases op <;> rfl

/-- Apart from the purge of one asset, and from what a retirement does later, no statement
deletes what is not due. -/
theorem recoverable_exec_iff (h : Dated s) {op : AssetOp} (haged : Aged op s)
    (hretire : ∀ id companyId deletedAt, op ≠ .retire id companyId deletedAt) :
    Recoverable (execAsset op s) ↔ Timely op s := by
  cases op with
  | retire id companyId deletedAt => exact absurd rfl (hretire id companyId deletedAt)
  | purgeRetired id companyId seen => exact recoverable_purgeRetired_iff h.recoverable haged
  | _ => exact iff_of_true (dated_exec h haged trivial).recoverable trivial

end Steps

section Programs

/-- Every purge of one asset has looked at a retirement of thirty days. -/
abbrev Looks (p : AssetProgram) (s : Inventory) : Prop :=
  p.Safe assetSystem (fun _ _ => True) Dated Later Aged (fun _ => True) s

variable {s : Inventory}

theorem looks_read {next : Inventory → AssetProgram}
    (h : ∀ s', Later s s' → Dated s' → Looks (next s') s') : Looks (.step .read next) s :=
  fun s' hlater hdated _ => ⟨trivial, h s' hlater hdated⟩

theorem looks_last {op : AssetOp} (h : ∀ s', Aged op s') : Looks (.step op fun _ => .done) s :=
  fun s' _ _ _ => ⟨h s', fun _ _ _ => trivial⟩

theorem looks_retire (id companyId : String) : Looks (retireTenantAsset id companyId) s := by
  refine looks_read fun s' _ _ => looks_read fun s'' _ _ => ?_
  split
  · exact fun _ _ _ => trivial
  · exact looks_last fun _ => trivial

theorem looks_restore (id companyId : String) : Looks (restoreTenantAsset id companyId) s := by
  refine looks_read fun s' _ _ => ?_
  split
  · exact fun _ _ _ => trivial
  · refine fun s'' _ _ _ => ⟨trivial, looks_read fun s''' _ _ => ?_⟩
    split <;> exact fun _ _ _ => trivial

theorem mem_of_findRetired {id companyId : String} {retirement : Retirement}
    (h : findRetired id companyId s = some retirement) :
    ∃ row ∈ s.assets, retirement ∈ row.retirement := by
  obtain ⟨row, hfound, hretirement⟩ := Option.bind_eq_some_iff.mp h
  exact ⟨row, List.mem_of_find?_eq_some hfound, hretirement⟩

theorem looks_purge (id companyId : String) :
    Looks (purgeRetiredTenantAsset id companyId 30) s := by
  refine looks_read fun s' _ hdated => ?_
  split
  · exact fun _ _ _ => trivial
  next retirement hfound =>
    obtain ⟨row, hrow, hretirement⟩ := mem_of_findRetired hfound
    have hsince := hdated.dated row hrow retirement hretirement
    refine looks_read fun s'' _ _ => ?_
    split
    · exact fun _ _ _ => trivial
    next hage =>
      intro later hlater _ _
      refine ⟨?_, fun _ _ _ => trivial⟩
      change s''.now ≤ later.now at hlater
      change retirement.since + days 30 ≤ later.now
      omega

theorem looks_handler (request : AssetRequest) : Looks (assetSystem.handler request) s := by
  cases request with
  | retire id companyId => exact looks_retire id companyId
  | restore id companyId => exact looks_restore id companyId
  | purge id companyId => exact looks_purge id companyId
  | purgeExpired => exact looks_last fun _ => trivial
  | writeTicket ticketId assetId => exact looks_last fun _ => trivial

end Programs

section Runs

theorem informed_assets : Informed assetSystem Timely Dated Later Aged where
  refl s := Int.le_refl s.now
  trans h h' := Int.le_trans h h'
  exec {op s} hdated htimely haged :=
    ⟨dated_exec hdated haged htimely, Int.le_of_eq (now_exec op s).symm⟩
  tick {s} hdated := ⟨⟨hdated.dated, hdated.recoverable⟩, Int.le_of_lt (Int.lt_succ s.now)⟩
  handler _ _ := looks_handler _

/-- In every run whose statements are timely only assets that were retired for thirty days and
that no ticket names are deleted; and a purge of one asset that is not timely deletes another. -/
theorem purged_when_due {c₀ c : Config Inventory AssetOp} (hidle : c₀.threads = [])
    (hdated : Dated c₀.shared) (hrun : assetSystem.Run Timely c₀ c) :
    Recoverable c.shared ∧ ∀ op next, Prog.step op next ∈ c.threads →
      (∀ id companyId deletedAt, op ≠ .retire id companyId deletedAt) →
        (Recoverable (assetSystem.exec op c.shared) ↔ Timely op c.shared) := by
  obtain ⟨hdated', haged⟩ := informed_assets.run hidle hrun hdated
  refine ⟨hdated'.recoverable, fun op next hthread hretire => ?_⟩
  exact recoverable_exec_iff hdated' (haged op next hthread) hretire

end Runs

section Samples

/-- Three assets retired for thirty days and a bit, one of them named by a ticket. -/
def binStart : Config Inventory AssetOp :=
  ⟨⟨[⟨"printer", "acme", some ⟨0, 0⟩⟩, ⟨"laptop", "acme", some ⟨0, 0⟩⟩,
      ⟨"phone", "acme", some ⟨0, 0⟩⟩], [⟨"ticket-1", some "laptop"⟩], days 30 + 1, []⟩, []⟩

theorem dated_binStart : Dated binStart.shared where
  dated row hrow retirement hretirement := by
    simp only [binStart, List.mem_cons, List.not_mem_nil, or_false] at hrow
    obtain rfl | rfl | rfl := hrow
    all_goals
      obtain rfl := Option.mem_some_iff.mp hretirement
      exact Int.le_refl 0
  recoverable _ hpurge := absurd hpurge List.not_mem_nil

/-- `Timely`, as a test. -/
def isTimely (op : AssetOp) (s : Inventory) : Bool :=
  match op with
  | .retire id companyId deletedAt =>
    s.assets.all fun row => !(row.named id companyId) ||
      decide ((row.retirement.map Retirement.since).getD s.now ≤ deletedAt)
  | .purgeRetired id companyId seen =>
    s.assets.all fun row => !(row.named id companyId) ||
      row.retirement.all fun retirement => !(referred s row) &&
        (decide (retirement.since = seen) || decide (retirement.since + days 30 ≤ s.now))
  | _ => true

theorem timely_of_test {op : AssetOp} {s : Inventory} (h : isTimely op s = true) :
    Timely op s := by
  cases op with
  | retire id companyId deletedAt =>
    intro row hrow hnamed
    have htest := List.all_eq_true.mp h row hrow
    rw [hnamed, Bool.not_true, Bool.false_or] at htest
    exact of_decide_eq_true htest
  | purgeRetired id companyId seen =>
    intro row hrow hnamed retirement hretirement
    have htest := List.all_eq_true.mp h row hrow
    rw [hnamed, Bool.not_true, Bool.false_or, Option.mem_def.mp hretirement, Option.all_some,
      Bool.and_eq_true, Bool.not_eq_true', Bool.or_eq_true, decide_eq_true_eq,
      decide_eq_true_eq] at htest
    exact htest
  | _ => trivial

/-- One asset is purged by name, one is restored and retired again, and the nightly purge takes
none of the others. -/
theorem purged_when_due_once : ∃ c, assetSystem.Run Timely binStart c ∧
    c.shared.purged.length = 1 ∧ Recoverable c.shared := by
  have hplay : (assetSystem.play (fun _ _ => true) isTimely binStart
      [.start (.purge "printer" "acme"), .start (.restore "phone" "acme"),
        .start (.retire "phone" "acme"), .run 0, .run 1, .run 1, .run 1, .run 2, .run 2, .run 2,
        .run 0, .run 0, .start .purgeExpired, .run 3]).any (fun c =>
          decide (c.shared.purged.length = 1)) = true := by
    decide
  obtain ⟨c, hrun, hcheck⟩ := System.exists_run_of_play (fun _ _ _ => trivial)
    (fun _ _ => timely_of_test) hplay
  exact ⟨c, hrun, of_decide_eq_true hcheck, (purged_when_due rfl dated_binStart hrun).1⟩

/-- The purge of one asset does not look for tickets. -/
theorem referred_asset_purged : ¬ ∀ c₀ c : Config Inventory AssetOp, c₀.threads = [] →
    Dated c₀.shared → assetSystem.Run (fun _ _ => True) c₀ c → Recoverable c.shared := by
  intro hall
  have hplay : (assetSystem.play (fun _ _ => true) (fun _ _ => true) binStart
      [.start (.purge "laptop" "acme"), .run 0, .run 0, .run 0]).any (fun c =>
        c.shared.purged.any Purge.referred) = true := by
    decide
  obtain ⟨c, hrun, hcheck⟩ := System.exists_run_of_play (fun _ _ _ => trivial)
    (fun _ _ _ => trivial) hplay
  obtain ⟨purge, hpurge, hreferred⟩ := List.any_eq_true.mp hcheck
  have hdue := hall binStart c rfl dated_binStart hrun purge hpurge
  rw [hdue.free] at hreferred
  exact Bool.false_ne_true hreferred

end Samples
end FieldserviceIT.Cmdb.Retention
