import Mathlib.Data.List.Basic
import FieldserviceIT.Lib.Tables

/-!
The map of the network devices. A device comes once for each of its latest health snapshots and
firmware entries, and a position that was never saved is read as the number zero. The links are the
ones that were drawn and, once for each pair of devices, those that the interfaces show.
-/

namespace FieldserviceIT.Topology

open Lib

section Tables

/-- The columns of `Asset` that the map goes by. -/
structure Asset where
  id : String
  companyId : String
  name : String
  manufacturer : Option String
  model : Option String
  location : Option String
  ipAddress : Option String
  macAddress : Option String
  deviceCategory : String
  isDeleted : Bool
  deriving DecidableEq

structure NetworkHealthSnapshot where
  assetId : String
  createdAt : Int

structure NetworkFirmwareInventory where
  assetId : String
  checkedAt : Int

structure NetworkTopologyLayout where
  companyId : String
  assetId : String
  x : Int
  y : Int

structure NetworkSite where
  id : String
  name : String

structure NetworkTopologyLink where
  companyId : String
  sourceAssetId : String
  targetAssetId : String
  updatedAt : Int

structure NetworkInterfaceMetric where
  companyId : String
  assetId : String
  neighborAssetId : Option String
  connectedMac : Option String
  createdAt : Int

structure TopologyTables where
  assets : List Asset
  healthSnapshots : List NetworkHealthSnapshot
  firmware : List NetworkFirmwareInventory
  layouts : List NetworkTopologyLayout
  sites : List NetworkSite
  links : List NetworkTopologyLink
  interfaces : List NetworkInterfaceMetric
  /-- The primary key, which is drawn as a UUID. -/
  assets_keyed : Distinct Asset.id assets
  ids_plain : ∀ asset ∈ assets, ':' ∉ asset.id.toList

/-- The comparisons of the database, the order it sorts devices in, and `trim` and `sort` of the
runtime, which tells two different texts apart. -/
structure Platform where
  same : String → String → Bool
  like : String → String → Bool
  precedes : Asset → Asset → Bool
  trim : String → String
  sortsBefore : String → String → Bool
  sortsBefore_ne : ∀ {a b}, a ≠ b → sortsBefore a b = !sortsBefore b a

structure MapQuery where
  siteId : Option String
  search : Option String

end Tables

section Nodes

variable (P : Platform) (db : TopologyTables)

/-- A `LEFT JOIN` with the rows that match. -/
def leftJoin {α : Type} (rows : List α) : List (Option α) :=
  if rows.isEmpty then [none] else rows.map some

/-- The rows of an asset with its latest time. -/
def latest {α : Type} (assetOf : α → String) (time : α → Int) (rows : List α) (assetId : String) :
    List α :=
  rows.filter fun row => assetOf row = assetId &&
    rows.all fun other => assetOf other ≠ assetId || time other ≤ time row

def inSite (siteId : String) (asset : Asset) : Bool :=
  let name := (db.sites.find? fun site => site.id = siteId).map NetworkSite.name
  asset.location.any fun location => name.any (P.same location) || P.same location siteId

def found (search : String) (asset : Asset) : Bool :=
  let term := "%" ++ P.trim search ++ "%"
  [some asset.name, asset.manufacturer, asset.model, asset.ipAddress, asset.location].any fun value =>
    value.any fun text => P.like text term

def isMapped (scope : Option String) (query : MapQuery) (asset : Asset) : Bool :=
  !asset.isDeleted && asset.deviceCategory = "NETWORK_DEVICE" &&
    (scope.filter (· ≠ "")).all (· = asset.companyId) &&
    (query.siteId.filter (· ≠ "")).all (inSite P db · asset) &&
    (query.search.filter (· ≠ "")).all (found P · asset)

def layoutOf (asset : Asset) : Option NetworkTopologyLayout :=
  db.layouts.find? fun layout => layout.assetId = asset.id && layout.companyId = asset.companyId

structure NodeRow where
  asset : Asset
  health : Option NetworkHealthSnapshot
  firmware : Option NetworkFirmwareInventory
  x : Option Int
  y : Option Int

def nodeRows (asset : Asset) : List NodeRow :=
  (leftJoin (latest (·.assetId) (·.createdAt) db.healthSnapshots asset.id)).flatMap fun health =>
    (leftJoin (latest (·.assetId) (·.checkedAt) db.firmware asset.id)).map fun firmware =>
      { asset := asset
        health := health
        firmware := firmware
        x := (layoutOf db asset).map (·.x)
        y := (layoutOf db asset).map (·.y) }

/-- The devices of the map, in the order of the query. -/
def devices (scope : Option String) (query : MapQuery) : List Asset :=
  (db.assets.filter (isMapped P db scope query)).mergeSort P.precedes

def selectNodes (scope : Option String) (query : MapQuery) : List NodeRow :=
  ((devices P db scope query).flatMap (nodeRows db)).take 250

/-- `Number(value)` of a column: that of `NULL` is zero. -/
def numberOf (value : Option Int) : Option Int :=
  some (value.getD 0)

/-- What a node tells beside its place is left out. -/
structure MapNode where
  id : String
  companyId : String
  x : Int
  y : Int
  deriving DecidableEq

def gridX (index : Nat) : Int := 120 + index % 5 * 220

def gridY (index : Nat) : Int := 90 + index / 5 * 160

def mapNode (row : NodeRow) (index : Nat) : MapNode where
  id := row.asset.id
  companyId := row.asset.companyId
  x := (numberOf row.x).getD (gridX index)
  y := (numberOf row.y).getD (gridY index)

end Nodes

section Links

variable (P : Platform) (db : TopologyTables)

structure MapLink where
  sourceAssetId : String
  targetAssetId : String
  inferred : Bool
  deriving DecidableEq

def inScope (scope : Option String) (companyId : String) : Bool :=
  (scope.filter (· ≠ "")).all (· = companyId)

def listLinks (scope : Option String) : List MapLink :=
  (((db.links.filter fun link => inScope scope link.companyId).mergeSort
    fun link other => other.updatedAt ≤ link.updatedAt).take 300).map
      fun link => ⟨link.sourceAssetId, link.targetAssetId, false⟩

def peers (metric : NetworkInterfaceMetric) : List Asset :=
  db.assets.filter fun peer => !peer.isDeleted &&
    peer.macAddress.any fun mac => metric.connectedMac.any (P.same mac)

/-- The ends that an interface shows, and when. -/
def interfaceRows (scope : Option String) : List MapLink :=
  (((db.interfaces.filter fun metric => inScope scope metric.companyId).flatMap fun metric =>
    (leftJoin (peers P db metric)).filterMap fun peer =>
      (metric.neighborAssetId.or (peer.map Asset.id)).map fun target =>
        (metric.createdAt, (⟨metric.assetId, target, true⟩ : MapLink))).mergeSort
    fun row other => other.1 ≤ row.1).take 300 |>.map Prod.snd

def linkKey (link : MapLink) : String :=
  if P.sortsBefore link.sourceAssetId link.targetAssetId then
    link.sourceAssetId ++ ":" ++ link.targetAssetId
  else link.targetAssetId ++ ":" ++ link.sourceAssetId

def isJoining (link : MapLink) : Bool :=
  link.sourceAssetId ≠ "" && link.targetAssetId ≠ "" && link.sourceAssetId ≠ link.targetAssetId

def unseen (seen : List String) : List MapLink → List MapLink
  | [] => []
  | link :: links =>
    if isJoining link && !seen.contains (linkKey P link) then
      link :: unseen (linkKey P link :: seen) links
    else unseen seen links

def inferredLinks (scope : Option String) : List MapLink :=
  unseen P [] (interfaceRows P db scope)

structure TopologyMap where
  nodes : List MapNode
  links : List MapLink

/-- `map`, as far as devices and links go. -/
def map (scope : Option String) (query : MapQuery) : TopologyMap :=
  let nodes := selectNodes P db scope query
  let nodeIds := nodes.map fun node => node.asset.id
  { nodes := nodes.zipIdx.map fun node => mapNode node.1 node.2
    links := (listLinks db scope ++ inferredLinks P db scope).filter fun link =>
      nodeIds.contains link.sourceAssetId && nodeIds.contains link.targetAssetId }

end Links

section Law

variable (P : Platform) (db : TopologyTables) (scope : Option String) (query : MapQuery)

def MapLink.SamePair (link other : MapLink) : Prop :=
  link.sourceAssetId = other.sourceAssetId ∧ link.targetAssetId = other.targetAssetId ∨
    link.sourceAssetId = other.targetAssetId ∧ link.targetAssetId = other.sourceAssetId

def MapNode.IsOnGrid (node : MapNode) : Prop :=
  ∃ index, node.x = gridX index ∧ node.y = gridY index

/-- Two devices of the map, of one company. -/
def JoinsTwo (nodes : List MapNode) (link : MapLink) : Prop :=
  link.sourceAssetId ≠ link.targetAssetId ∧
    ∃ source ∈ nodes, ∃ target ∈ nodes, source.id = link.sourceAssetId ∧
      target.id = link.targetAssetId ∧ source.companyId = target.companyId

/-- The layout that is saved for the device of a node. -/
def savedFor (node : MapNode) : Option NetworkTopologyLayout :=
  db.layouts.find? fun layout => layout.assetId = node.id && layout.companyId = node.companyId

structure WellFormed (result : TopologyMap) : Prop where
  once : (result.nodes.map MapNode.id).Nodup
  complete : (devices P db scope query).length ≤ 250 →
    ∀ asset ∈ devices P db scope query, asset.id ∈ result.nodes.map MapNode.id
  saved : ∀ node ∈ result.nodes, ∀ layout ∈ savedFor db node, node.x = layout.x ∧ node.y = layout.y
  onGrid : ∀ node ∈ result.nodes, savedFor db node = none → node.IsOnGrid
  apart : (result.nodes.filter fun node => (savedFor db node).isNone).Pairwise
    fun node other => (node.x, node.y) ≠ (other.x, other.y)
  links : ∀ link ∈ result.links, JoinsTwo result.nodes link
  inferred : (result.links.filter MapLink.inferred).Pairwise fun link other => ¬ link.SamePair other

/-- The devices that the map shows. -/
def shown : List Asset :=
  (devices P db scope query).take 250

/-- Neither snapshots nor firmware entries of the device share the latest time. -/
def IsSingle (asset : Asset) : Prop :=
  (latest (·.assetId) (·.createdAt) db.healthSnapshots asset.id).length ≤ 1 ∧
    (latest (·.assetId) (·.checkedAt) db.firmware asset.id).length ≤ 1

/-- If both ends are shown, they are two devices of one company. -/
def JoinsShown (link : MapLink) : Prop :=
  ∀ source ∈ shown P db scope query, ∀ target ∈ shown P db scope query,
    source.id = link.sourceAssetId → target.id = link.targetAssetId →
      source.id ≠ target.id ∧ source.companyId = target.companyId

/-- Every device that is shown has a saved place, and all but the last one come once; and what is
drawn or seen between two of them is between two of one company. -/
structure Drawable : Prop where
  single : ∀ asset ∈ (devices P db scope query).take 249, IsSingle db asset
  placed : ∀ asset ∈ shown P db scope query, (layoutOf db asset).isSome = true
  drawn : ∀ link ∈ listLinks db scope, JoinsShown P db scope query link
  seen : ∀ link ∈ interfaceRows P db scope, isJoining link = true → JoinsShown P db scope query link

end Law

section Rows

variable {α β κ : Type} {rowsOf : α → List β} {origin : β → α} {key : α → κ}

/-- The rows of the first items, one more of them than items, if each item has one row. -/
theorem origins_take (horigin : ∀ a, ∀ b ∈ rowsOf a, origin b = a) {items : List α} {n : Nat}
    (hone : ∀ a ∈ items.take n, (rowsOf a).length = 1) (hne : ∀ a, rowsOf a ≠ []) :
    ((items.flatMap rowsOf).take (n + 1)).map origin = items.take (n + 1) := by
  induction items generalizing n with
  | nil => rfl
  | cons a items ih =>
    obtain ⟨b, rest, hrows⟩ := List.exists_cons_of_ne_nil (hne a)
    have hb : origin b = a := horigin a b (by rw [hrows]; exact List.mem_cons_self)
    rw [List.flatMap_cons, hrows, List.cons_append, List.take_succ_cons, List.map_cons, hb,
      List.take_succ_cons]
    cases n with
    | zero => rfl
    | succ n =>
      rw [List.take_succ_cons, List.forall_mem_cons, hrows, List.length_cons] at hone
      obtain rfl : rest = [] := List.eq_nil_of_length_eq_zero (Nat.succ.inj hone.1)
      rw [List.nil_append, ih hone.2]

theorem nodup_origins_iff (horigin : ∀ a, ∀ b ∈ rowsOf a, origin b = a) {items : List α}
    (hkeys : (items.map key).Nodup) (n : Nat) (hne : ∀ a, rowsOf a ≠ []) :
    (((items.flatMap rowsOf).take (n + 1)).map fun row => key (origin row)).Nodup ↔
      ∀ a ∈ items.take n, (rowsOf a).length = 1 := by
  constructor
  · intro hnodup
    induction items generalizing n with
    | nil =>
      intro a ha
      rw [List.take_nil] at ha
      cases ha
    | cons a items ih =>
      obtain ⟨b, rest, hrows⟩ := List.exists_cons_of_ne_nil (hne a)
      rw [List.flatMap_cons, hrows, List.cons_append, List.take_succ_cons, List.map_cons] at hnodup
      cases n with
      | zero =>
        intro a ha
        cases ha
      | succ n =>
        rw [List.take_succ_cons, List.forall_mem_cons, hrows, List.length_cons]
        cases rest with
        | nil =>
          rw [List.nil_append] at hnodup
          exact ⟨rfl, ih (List.nodup_cons.mp hkeys).2 n (List.nodup_cons.mp hnodup).2⟩
        | cons c rest =>
          -- the second row has the key of the first
          have horigins : origin b = origin c :=
            (horigin a b (by simp [hrows])).trans (horigin a c (by simp [hrows])).symm
          rw [List.cons_append, List.take_succ_cons, List.map_cons, horigins] at hnodup
          exact absurd List.mem_cons_self (List.nodup_cons.mp hnodup).1
  · intro hone
    have horigins := origins_take horigin hone hne
    have hmap : ((items.flatMap rowsOf).take (n + 1)).map (fun row => key (origin row)) =
        (items.take (n + 1)).map key := by
      rw [← horigins, List.map_map]
      rfl
    rw [hmap]
    exact hkeys.sublist ((List.take_sublist _ _).map key)

end Rows

section Nodes

variable {P : Platform} {db : TopologyTables} {scope : Option String} {query : MapQuery}

theorem leftJoin_ne_nil {α : Type} (rows : List α) : leftJoin rows ≠ [] := by
  cases rows with
  | nil => exact List.cons_ne_nil _ _
  | cons row rows => exact List.cons_ne_nil _ _

theorem length_leftJoin_iff {α : Type} (rows : List α) :
    (leftJoin rows).length = 1 ↔ rows.length ≤ 1 := by
  cases rows with
  | nil => exact iff_of_true rfl (Nat.zero_le 1)
  | cons row rows =>
    rw [leftJoin, List.isEmpty_cons, if_neg Bool.false_ne_true, List.length_map, List.length_cons]
    omega

theorem nodeRows_ne_nil (asset : Asset) : nodeRows db asset ≠ [] := by
  obtain ⟨health, others, hhealth⟩ := List.exists_cons_of_ne_nil
    (leftJoin_ne_nil (latest (·.assetId) (·.createdAt) db.healthSnapshots asset.id))
  obtain ⟨firmware, more, hfirmware⟩ := List.exists_cons_of_ne_nil
    (leftJoin_ne_nil (latest (·.assetId) (·.checkedAt) db.firmware asset.id))
  rw [nodeRows, hhealth, hfirmware]
  exact List.cons_ne_nil _ _

theorem nodeRows_single_iff (asset : Asset) : (nodeRows db asset).length = 1 ↔ IsSingle db asset := by
  have hlength : (nodeRows db asset).length =
      (leftJoin (latest (·.assetId) (·.createdAt) db.healthSnapshots asset.id)).length *
        (leftJoin (latest (·.assetId) (·.checkedAt) db.firmware asset.id)).length := by
    simp [nodeRows, List.length_flatMap]
  rw [hlength, IsSingle, ← length_leftJoin_iff, ← length_leftJoin_iff]
  constructor
  · exact fun h => ⟨Nat.eq_one_of_mul_eq_one_right h, Nat.eq_one_of_mul_eq_one_left h⟩
  · rintro ⟨hhealth, hfirmware⟩
    rw [hhealth, hfirmware]

theorem asset_nodeRows {asset : Asset} : ∀ row ∈ nodeRows db asset, row.asset = asset := by
  intro row hrow
  obtain ⟨health, -, hrow⟩ := List.mem_flatMap.mp hrow
  obtain ⟨firmware, -, rfl⟩ := List.mem_map.mp hrow
  rfl

theorem place_nodeRows {asset : Asset} : ∀ row ∈ nodeRows db asset,
    row.x = (layoutOf db row.asset).map (·.x) ∧ row.y = (layoutOf db row.asset).map (·.y) := by
  intro row hrow
  obtain ⟨health, -, hrow⟩ := List.mem_flatMap.mp hrow
  obtain ⟨firmware, -, rfl⟩ := List.mem_map.mp hrow
  exact ⟨rfl, rfl⟩

theorem keys_devices : ((devices P db scope query).map Asset.id).Nodup := by
  have hkeys : ((db.assets.filter (isMapped P db scope query)).map Asset.id).Nodup :=
    db.assets_keyed.sublist (List.filter_sublist.map Asset.id)
  exact ((List.mergeSort_perm _ P.precedes).map Asset.id).nodup_iff.mpr hkeys

theorem ids_map : (map P db scope query).nodes.map MapNode.id =
    (selectNodes P db scope query).map fun row => row.asset.id := by
  rw [map, List.map_map]
  refine Eq.trans ?_ (List.map_congr_left fun row _ => rfl)
  have hfst := List.zipIdx_map_fst 0 (selectNodes P db scope query)
  rw [← congrArg (List.map fun row => row.asset.id) hfst, List.map_map]
  rfl

/-- A node is made of a row, and stands where its layout says, or else at the origin. -/
theorem node_of_mem {node : MapNode} (h : node ∈ (map P db scope query).nodes) :
    ∃ row ∈ selectNodes P db scope query, node.id = row.asset.id ∧ node.companyId = row.asset.companyId ∧
      node.x = ((layoutOf db row.asset).map (·.x)).getD 0 ∧
      node.y = ((layoutOf db row.asset).map (·.y)).getD 0 := by
  obtain ⟨⟨row, index⟩, hrow, rfl⟩ := List.mem_map.mp h
  have hmem := List.fst_mem_of_mem_zipIdx hrow
  obtain ⟨asset, -, hasset⟩ := List.mem_flatMap.mp (List.mem_of_mem_take hmem)
  obtain ⟨hx, hy⟩ := place_nodeRows row hasset
  refine ⟨row, hmem, rfl, rfl, ?_, ?_⟩
  · rw [← hx]
    rfl
  · rw [← hy]
    rfl

theorem once_iff : ((map P db scope query).nodes.map MapNode.id).Nodup ↔
    ∀ asset ∈ (devices P db scope query).take 249, IsSingle db asset := by
  rw [ids_map, selectNodes, nodup_origins_iff (fun _ => asset_nodeRows) keys_devices 249 nodeRows_ne_nil]
  exact forall₂_congr fun asset _ => nodeRows_single_iff asset

theorem assets_shown (h : ∀ asset ∈ (devices P db scope query).take 249, IsSingle db asset) :
    (selectNodes P db scope query).map NodeRow.asset = shown P db scope query :=
  origins_take (fun _ => asset_nodeRows) (fun asset hasset => (nodeRows_single_iff asset).mpr (h asset hasset))
    nodeRows_ne_nil

theorem mem_nodes (h : ∀ asset ∈ (devices P db scope query).take 249, IsSingle db asset)
    {asset : Asset} (hasset : asset ∈ shown P db scope query) :
    ∃ node ∈ (map P db scope query).nodes, node.id = asset.id ∧ node.companyId = asset.companyId := by
  rw [← assets_shown h] at hasset
  obtain ⟨row, hrow, rfl⟩ := List.mem_map.mp hasset
  rw [← List.zipIdx_map_fst 0 (selectNodes P db scope query)] at hrow
  obtain ⟨⟨row, index⟩, hindex, rfl⟩ := List.mem_map.mp hrow
  exact ⟨mapNode row index, List.mem_map.mpr ⟨(row, index), hindex, rfl⟩, rfl, rfl⟩

end Nodes

section Deduplication

variable {P : Platform} {link other : MapLink} {links : List MapLink} {seen : List String}

theorem linkKey_of_samePair (h : link.SamePair other) (hne : link.sourceAssetId ≠ link.targetAssetId) :
    linkKey P link = linkKey P other := by
  obtain ⟨hsource, htarget⟩ | ⟨hsource, htarget⟩ := h
  · rw [linkKey, linkKey, hsource, htarget]
  · have hsorts := P.sortsBefore_ne hne
    rw [linkKey, linkKey, ← hsource, ← htarget, hsorts]
    cases P.sortsBefore link.targetAssetId link.sourceAssetId <;> rfl

theorem mem_unseen (h : link ∈ unseen P seen links) : link ∈ links ∧ isJoining link = true := by
  induction links generalizing seen with
  | nil => cases h
  | cons first links ih =>
    rw [unseen] at h
    split at h
    · rename_i hfirst
      obtain rfl | h := List.mem_cons.mp h
      · exact ⟨List.mem_cons_self, (Bool.and_eq_true_iff.mp hfirst).1⟩
      · exact ⟨.tail _ (ih h).1, (ih h).2⟩
    · exact ⟨.tail _ (ih h).1, (ih h).2⟩

theorem key_unseen (h : link ∈ unseen P seen links) : linkKey P link ∉ seen := by
  induction links generalizing seen with
  | nil => cases h
  | cons first links ih =>
    rw [unseen] at h
    split at h
    · rename_i hfirst
      obtain rfl | h := List.mem_cons.mp h
      · have hnew := (Bool.and_eq_true_iff.mp hfirst).2
        simpa using hnew
      · exact fun hmem => ih h (.tail _ hmem)
    · exact ih h

theorem pairwise_unseen (seen : List String) (links : List MapLink) :
    (unseen P seen links).Pairwise fun link other => ¬ link.SamePair other := by
  induction links generalizing seen with
  | nil => exact .nil
  | cons first links ih =>
    rw [unseen]
    split
    · rename_i hfirst
      refine List.pairwise_cons.mpr ⟨fun other hother hpair => ?_, ih _⟩
      have hjoining := (Bool.and_eq_true_iff.mp hfirst).1
      have hne : first.sourceAssetId ≠ first.targetAssetId := by
        simp only [isJoining, Bool.and_eq_true, decide_eq_true_eq] at hjoining
        exact hjoining.2
      exact key_unseen hother (linkKey_of_samePair hpair hne ▸ List.mem_cons_self)
    · exact ih seen

theorem samePair_of_linkKey (hsource : ':' ∉ link.sourceAssetId.toList)
    (htarget : ':' ∉ link.targetAssetId.toList) (h : linkKey P link = linkKey P other) :
    link.SamePair other := by
  have hjoined : ∀ {a b c d : String}, ':' ∉ a.toList → ':' ∉ b.toList →
      a ++ ":" ++ b = c ++ ":" ++ d → a = c ∧ b = d := by
    intro a b c d ha hb heq
    have hcolon : ":".toList = [':'] := rfl
    have hlist := congrArg String.toList heq
    simp only [String.toList_append, List.append_assoc, hcolon, List.cons_append, List.nil_append] at hlist
    obtain ⟨hfirst, -, hsecond⟩ := (List.append_cons_inj_of_notMem ha hb).mp hlist
    exact ⟨String.toList_inj.mp hfirst, String.toList_inj.mp hsecond⟩
  rw [linkKey, linkKey] at h
  split at h
  · split at h
    · exact .inl (hjoined hsource htarget h)
    · exact .inr (hjoined hsource htarget h)
  · split at h
    · exact .inr (hjoined htarget hsource h).symm
    · exact .inl (hjoined htarget hsource h).symm

/-- What is left out has the key of a link that is kept. -/
theorem exists_unseen (h : link ∈ links) (hjoining : isJoining link = true)
    (hseen : linkKey P link ∉ seen) : ∃ kept ∈ unseen P seen links, linkKey P kept = linkKey P link := by
  induction links generalizing seen with
  | nil => cases h
  | cons first links ih =>
    rw [unseen]
    split
    · rename_i hfirst
      by_cases hkey : linkKey P first = linkKey P link
      · exact ⟨first, List.mem_cons_self, hkey⟩
      · obtain rfl | h := List.mem_cons.mp h
        · exact absurd rfl hkey
        · obtain ⟨kept, hkept, hsame⟩ := ih h fun hmem => by
            obtain heq | hmem := List.mem_cons.mp hmem
            · exact hkey heq.symm
            · exact hseen hmem
          exact ⟨kept, .tail _ hkept, hsame⟩
    · rename_i hfirst
      obtain rfl | h := List.mem_cons.mp h
      · refine absurd ?_ hfirst
        simp [hjoining, hseen]
      · exact ih h hseen

end Deduplication

section Links

variable {P : Platform} {db : TopologyTables} {scope : Option String} {query : MapQuery} {link : MapLink}

theorem mem_shown {asset : Asset} (h : asset ∈ shown P db scope query) : asset ∈ db.assets :=
  List.mem_of_mem_filter ((List.mergeSort_perm _ _).mem_iff.mp (List.mem_of_mem_take h))

/-- The links of the map are those with both ends on it. -/
theorem mem_links (hsingle : ∀ asset ∈ (devices P db scope query).take 249, IsSingle db asset) :
    link ∈ (map P db scope query).links ↔
      link ∈ listLinks db scope ++ inferredLinks P db scope ∧
        ∃ source ∈ shown P db scope query, ∃ target ∈ shown P db scope query,
          source.id = link.sourceAssetId ∧ target.id = link.targetAssetId := by
  have hids : (selectNodes P db scope query).map (fun row => row.asset.id) =
      (shown P db scope query).map Asset.id := by
    rw [← assets_shown hsingle, List.map_map]
    rfl
  rw [map, List.mem_filter, hids, Bool.and_eq_true, List.contains_iff_mem, List.contains_iff_mem,
    List.mem_map, List.mem_map]
  refine and_congr_right fun _ => ⟨?_, ?_⟩
  · rintro ⟨⟨source, hsource, hsourceId⟩, target, htarget, htargetId⟩
    exact ⟨source, hsource, target, htarget, hsourceId, htargetId⟩
  · rintro ⟨source, hsource, target, htarget, hsourceId, htargetId⟩
    exact ⟨⟨source, hsource, hsourceId⟩, target, htarget, htargetId⟩

theorem eq_of_id {asset other : Asset} (hasset : asset ∈ shown P db scope query)
    (hother : other ∈ shown P db scope query) (h : asset.id = other.id) : asset = other :=
  db.assets_keyed.eq_of_key (mem_shown hasset) (mem_shown hother) h

/-- A node of the map is a device that is shown. -/
theorem shown_of_node (hsingle : ∀ asset ∈ (devices P db scope query).take 249, IsSingle db asset)
    {node : MapNode} (h : node ∈ (map P db scope query).nodes) :
    ∃ asset ∈ shown P db scope query, node.id = asset.id ∧ node.companyId = asset.companyId := by
  obtain ⟨row, hrow, hid, hcompany, -⟩ := node_of_mem h
  refine ⟨row.asset, ?_, hid, hcompany⟩
  rw [← assets_shown hsingle]
  exact List.mem_map_of_mem hrow

theorem joinsTwo_iff (hsingle : ∀ asset ∈ (devices P db scope query).take 249, IsSingle db asset)
    (hlink : link ∈ (map P db scope query).links) :
    JoinsTwo (map P db scope query).nodes link ↔ JoinsShown P db scope query link := by
  obtain ⟨-, source, hsource, target, htarget, hsourceId, htargetId⟩ := (mem_links hsingle).mp hlink
  constructor
  · rintro ⟨hne, node, hnode, other, hother, hnodeId, hotherId, hcompany⟩ first hfirst second hsecond
      hfirstId hsecondId
    obtain ⟨asset, hasset, hassetId, hassetCompany⟩ := shown_of_node hsingle hnode
    obtain ⟨asset', hasset', hassetId', hassetCompany'⟩ := shown_of_node hsingle hother
    obtain rfl := eq_of_id hfirst hasset (by rw [hfirstId, ← hnodeId, hassetId])
    obtain rfl := eq_of_id hsecond hasset' (by rw [hsecondId, ← hotherId, hassetId'])
    refine ⟨?_, ?_⟩
    · rw [hfirstId, hsecondId]
      exact hne
    · rw [← hassetCompany, ← hassetCompany', hcompany]
  · intro hjoins
    obtain ⟨hne, hcompany⟩ := hjoins source hsource target htarget hsourceId htargetId
    obtain ⟨node, hnode, hnodeId, hnodeCompany⟩ := mem_nodes hsingle hsource
    obtain ⟨other, hother, hotherId, hotherCompany⟩ := mem_nodes hsingle htarget
    refine ⟨?_, node, hnode, other, hother, hnodeId.trans hsourceId, hotherId.trans htargetId, ?_⟩
    · rw [← hsourceId, ← htargetId]
      exact hne
    · rw [hnodeCompany, hotherCompany, hcompany]

theorem savedFor_of_node {node : MapNode} {asset : Asset} (hid : node.id = asset.id)
    (hcompany : node.companyId = asset.companyId) : savedFor db node = layoutOf db asset := by
  rw [savedFor, layoutOf, hid, hcompany]

theorem shown_plain {asset : Asset} (h : asset ∈ shown P db scope query) : ':' ∉ asset.id.toList :=
  db.ids_plain asset (mem_shown h)

theorem joinsShown_of_samePair {other : MapLink} (hpair : link.SamePair other)
    (h : JoinsShown P db scope query other) : JoinsShown P db scope query link := by
  intro source hsource target htarget hsourceId htargetId
  obtain ⟨hfirst, hsecond⟩ | ⟨hfirst, hsecond⟩ := hpair
  · exact h source hsource target htarget (hsourceId.trans hfirst) (htargetId.trans hsecond)
  · obtain ⟨hne, hcompany⟩ :=
      h target htarget source hsource (htargetId.trans hsecond) (hsourceId.trans hfirst)
    exact ⟨hne.symm, hcompany.symm⟩

end Links

section Map

variable {P : Platform} {db : TopologyTables} {scope : Option String} {query : MapQuery}

theorem not_isOnGrid_of_zero {node : MapNode} (h : node.x = 0) : ¬ node.IsOnGrid := by
  rintro ⟨index, hx, -⟩
  rw [h, gridX] at hx
  omega

/-- A node whose device has no saved place stands at the origin. -/
theorem x_of_unsaved {node : MapNode} (hnode : node ∈ (map P db scope query).nodes)
    (hnone : savedFor db node = none) : node.x = 0 := by
  obtain ⟨row, -, hid, hcompany, hx, -⟩ := node_of_mem hnode
  rw [hx, ← savedFor_of_node hid hcompany, hnone]
  rfl

theorem saved_of_map {node : MapNode} (hnode : node ∈ (map P db scope query).nodes)
    {layout : NetworkTopologyLayout} (h : layout ∈ savedFor db node) :
    node.x = layout.x ∧ node.y = layout.y := by
  obtain ⟨row, -, hid, hcompany, hx, hy⟩ := node_of_mem hnode
  rw [hx, hy, ← savedFor_of_node hid hcompany, Option.mem_def.mp h]
  exact ⟨rfl, rfl⟩

theorem complete_of_single (hsingle : ∀ asset ∈ (devices P db scope query).take 249, IsSingle db asset)
    (hlength : (devices P db scope query).length ≤ 250) {asset : Asset}
    (hasset : asset ∈ devices P db scope query) :
    asset.id ∈ (map P db scope query).nodes.map MapNode.id := by
  rw [← List.take_of_length_le hlength] at hasset
  obtain ⟨node, hnode, hid, -⟩ := mem_nodes hsingle hasset
  rw [← hid]
  exact List.mem_map_of_mem hnode

/-- The places are as they should be if and only if every place is saved. -/
theorem placed_iff (hsingle : ∀ asset ∈ (devices P db scope query).take 249, IsSingle db asset) :
    (∀ asset ∈ shown P db scope query, (layoutOf db asset).isSome = true) ↔
      ∀ node ∈ (map P db scope query).nodes, savedFor db node = none → node.IsOnGrid := by
  constructor
  · intro hplaced node hnode hnone
    obtain ⟨asset, hasset, hid, hcompany⟩ := shown_of_node hsingle hnode
    have hsome := hplaced asset hasset
    rw [← savedFor_of_node hid hcompany, hnone] at hsome
    cases hsome
  · intro hgrid asset hasset
    obtain ⟨node, hnode, hid, hcompany⟩ := mem_nodes hsingle hasset
    rw [← savedFor_of_node hid hcompany, Option.isSome_iff_ne_none]
    intro hnone
    exact not_isOnGrid_of_zero (x_of_unsaved hnode hnone) (hgrid node hnode hnone)

theorem apart_of_placed (hsingle : ∀ asset ∈ (devices P db scope query).take 249, IsSingle db asset)
    (hplaced : ∀ asset ∈ shown P db scope query, (layoutOf db asset).isSome = true) :
    (map P db scope query).nodes.filter (fun node => (savedFor db node).isNone) = [] := by
  refine List.filter_eq_nil_iff.mpr fun node hnode hnone => ?_
  obtain ⟨asset, hasset, hid, hcompany⟩ := shown_of_node hsingle hnode
  have hsome := hplaced asset hasset
  rw [← savedFor_of_node hid hcompany, ← Option.not_isNone, hnone] at hsome
  cases hsome

/-- A pair that an interface shows is linked, by this row or by another one. -/
theorem seen_iff :
    (∀ link ∈ interfaceRows P db scope, isJoining link = true → JoinsShown P db scope query link) ↔
      ∀ link ∈ inferredLinks P db scope, JoinsShown P db scope query link := by
  constructor
  · intro hseen link hlink
    obtain ⟨hrow, hjoining⟩ := mem_unseen hlink
    exact hseen link hrow hjoining
  · intro hinferred link hrow hjoining source hsource target htarget hsourceId htargetId
    have hnew : linkKey P link ∉ [] := List.not_mem_nil
    obtain ⟨kept, hkept, hkey⟩ := exists_unseen hrow hjoining hnew
    have hpair : link.SamePair kept :=
      samePair_of_linkKey (hsourceId ▸ shown_plain hsource) (htargetId ▸ shown_plain htarget) hkey.symm
    exact joinsShown_of_samePair hpair (hinferred kept hkept) source hsource target htarget hsourceId
      htargetId

theorem links_iff (hsingle : ∀ asset ∈ (devices P db scope query).take 249, IsSingle db asset) :
    (∀ link ∈ (map P db scope query).links, JoinsTwo (map P db scope query).nodes link) ↔
      ∀ link ∈ listLinks db scope ++ inferredLinks P db scope, JoinsShown P db scope query link := by
  constructor
  · intro hlinks link hmem source hsource target htarget hsourceId htargetId
    have hlink := (mem_links hsingle).mpr ⟨hmem, source, hsource, target, htarget, hsourceId, htargetId⟩
    exact (joinsTwo_iff hsingle hlink).mp (hlinks link hlink) source hsource target htarget hsourceId
      htargetId
  · intro hjoins link hlink
    exact (joinsTwo_iff hsingle hlink).mpr (hjoins link ((mem_links hsingle).mp hlink).1)

/-- An unordered pair has one inferred link at most. -/
theorem pairwise_inferred : ((map P db scope query).links.filter MapLink.inferred).Pairwise
    fun link other => ¬ link.SamePair other := by
  have hdrawn : (listLinks db scope).filter MapLink.inferred = [] := by
    refine List.filter_eq_nil_iff.mpr fun link hlink => ?_
    obtain ⟨row, -, rfl⟩ := List.mem_map.mp hlink
    exact Bool.false_ne_true
  have hsub : ((map P db scope query).links.filter MapLink.inferred).Sublist
      ((listLinks db scope ++ inferredLinks P db scope).filter MapLink.inferred) :=
    List.filter_sublist.filter _
  rw [List.filter_append, hdrawn, List.nil_append] at hsub
  exact (pairwise_unseen [] _).sublist (hsub.trans List.filter_sublist)

theorem map_wellFormed_iff (P : Platform) (db : TopologyTables) (scope : Option String)
    (query : MapQuery) :
    WellFormed P db scope query (map P db scope query) ↔ Drawable P db scope query := by
  constructor
  · intro hmap
    have hsingle := once_iff.mp hmap.once
    have hlinks := (links_iff hsingle).mp hmap.links
    exact
      { single := hsingle
        placed := (placed_iff hsingle).mpr hmap.onGrid
        drawn := fun link hlink => hlinks link (List.mem_append_left _ hlink)
        seen := seen_iff.mpr fun link hlink => hlinks link (List.mem_append_right _ hlink) }
  · intro hdrawable
    have hsingle := hdrawable.single
    have hinferred := seen_iff.mp hdrawable.seen
    exact
      { once := once_iff.mpr hsingle
        complete := fun hlength asset hasset => complete_of_single hsingle hlength hasset
        saved := fun node hnode layout hlayout => saved_of_map hnode hlayout
        onGrid := (placed_iff hsingle).mp hdrawable.placed
        apart := by
          rw [apart_of_placed hsingle hdrawable.placed]
          exact .nil
        links := (links_iff hsingle).mpr fun link hlink =>
          (List.mem_append.mp hlink).elim (hdrawable.drawn link) (hinferred link)
        inferred := pairwise_inferred }

end Map

section Shares

structure NetworkTopologyShare where
  companyId : String
  token : String
  siteId : Option String
  expiresAt : Option Int
  active : Bool

structure NetworkTopologySetting where
  companyId : String
  customerVisible : Bool

variable (P : Platform) (db : TopologyTables) (shares : List NetworkTopologyShare)
variable (settings : List NetworkTopologySetting) (now : Int) (token : String)

/-- What is shown with a token. The company of a node is not told. -/
def publicShare : Option TopologyMap :=
  (shares.find? fun row => P.same row.token token && row.active && row.expiresAt.all (now < ·)).bind
    fun share =>
      if (settings.find? fun row => row.companyId = share.companyId).any (·.customerVisible) then
        some (map P db (some share.companyId) ⟨share.siteId, none⟩)
      else none

variable {P db shares settings now token}

theorem asset_of_node {companyId : String} {query : MapQuery} (hcompany : companyId ≠ "")
    {node : MapNode} (h : node ∈ (map P db (some companyId) query).nodes) :
    ∃ asset ∈ db.assets, node.id = asset.id ∧ asset.companyId = companyId ∧ asset.isDeleted = false := by
  obtain ⟨row, hrow, hid, -⟩ := node_of_mem h
  obtain ⟨asset, hdevice, hasset⟩ := List.mem_flatMap.mp (List.mem_of_mem_take hrow)
  obtain rfl := asset_nodeRows row hasset
  obtain ⟨hmem, hmapped⟩ := List.mem_filter.mp ((List.mergeSort_perm _ _).mem_iff.mp hdevice)
  simp [isMapped, hcompany] at hmapped
  exact ⟨row.asset, hmem, hid, hmapped.1.1.2.symm, hmapped.1.1.1.1⟩

end Shares

section Sample

def samplePlatform : Platform where
  same := fun text other => text == other
  like := fun text other => text == other
  precedes := fun _ _ => true
  trim := id
  sortsBefore := fun a b => a ≤ b
  sortsBefore_ne := by
    intro a b hne
    by_cases hle : a ≤ b
    · have hge : ¬ b ≤ a := fun hge => hne (String.le_antisymm hle hge)
      simp [hle, hge]
    · have hge : b ≤ a := (String.le_total a b).resolve_left hle
      simp [hle, hge]

def sampleAsset : Asset where
  id := "asset-1"
  companyId := "company-1"
  name := "Core switch"
  manufacturer := none
  model := none
  location := none
  ipAddress := none
  macAddress := none
  deviceCategory := "NETWORK_DEVICE"
  isDeleted := false

/-- One device, which nobody has moved on the map. -/
def sampleTables : TopologyTables where
  assets := [sampleAsset]
  healthSnapshots := []
  firmware := []
  layouts := []
  sites := []
  links := []
  interfaces := []
  assets_keyed := List.nodup_singleton _
  ids_plain := by
    intro asset hasset
    obtain rfl := List.mem_singleton.mp hasset
    decide

theorem map_unplaced : ¬ WellFormed samplePlatform sampleTables none ⟨none, none⟩
    (map samplePlatform sampleTables none ⟨none, none⟩) := by
  intro hmap
  have hnodes : (map samplePlatform sampleTables none ⟨none, none⟩).nodes =
      [⟨"asset-1", "company-1", 0, 0⟩] := by
    decide +kernel
  have hgrid := hmap.onGrid ⟨"asset-1", "company-1", 0, 0⟩ (by rw [hnodes]; exact List.mem_cons_self) rfl
  exact not_isOnGrid_of_zero rfl hgrid

end Sample

end FieldserviceIT.Topology
