/-!
JSON values and what JavaScript does with them: reading a property, assigning one, spreading one
object over another, and dropping the entries that are undefined.
-/

namespace FieldserviceIT.Lib

inductive Json where
  | null
  | bool (value : Bool)
  | number (value : Rat)
  | text (value : String)
  | array (items : List Json)
  | object (fields : List (String × Json))

section Entries

variable {α : Type}

def put (key : String) (value : α) : List (String × α) → List (String × α)
  | [] => [(key, value)]
  | entry :: entries =>
    if entry.1 = key then (key, value) :: entries else entry :: put key value entries

/-- `{ ...a, ...b }` -/
def spread (a b : List (String × α)) : List (String × α) :=
  (a.map fun entry => (entry.1, (b.lookup entry.1).getD entry.2)) ++
    b.filter fun entry => (a.lookup entry.1).isNone

def defined (entries : List (String × Option α)) : List (String × α) :=
  entries.filterMap fun entry => entry.2.map fun value => (entry.1, value)

theorem lookup_cons (key : String) (entry : String × α) (entries : List (String × α)) :
    (entry :: entries).lookup key = if key = entry.1 then some entry.2 else entries.lookup key := by
  obtain ⟨name, value⟩ := entry
  rw [List.lookup_cons]
  by_cases hkey : key = name
  · rw [if_pos hkey, beq_iff_eq.mpr hkey]
  · rw [if_neg hkey, beq_eq_false_iff_ne.mpr hkey]

theorem lookup_put (key name : String) (value : α) (entries : List (String × α)) :
    (put key value entries).lookup name = if name = key then some value else entries.lookup name := by
  induction entries with
  | nil => rw [put, lookup_cons]
  | cons entry entries ih =>
    rw [put]
    split
    next hkey =>
      rw [lookup_cons, lookup_cons, hkey]
      split <;> rfl
    next hkey =>
      rw [lookup_cons, ih, lookup_cons]
      by_cases hname : name = key
      · subst hname
        rw [if_pos rfl, if_neg (Ne.symm hkey), if_pos rfl]
      · rw [if_neg hname, if_neg hname]

theorem mem_put {key : String} {value : α} {entries : List (String × α)} {entry : String × α}
    (h : entry ∈ put key value entries) : entry = (key, value) ∨ entry ∈ entries := by
  induction entries with
  | nil => exact .inl (List.mem_singleton.mp h)
  | cons other entries ih =>
    rw [put] at h
    split at h
    · exact (List.mem_cons.mp h).imp_right (.tail _)
    · obtain rfl | h := List.mem_cons.mp h
      · exact .inr List.mem_cons_self
      · exact (ih h).imp_right (.tail _)

theorem put_of_not_mem {key : String} {entries : List (String × α)}
    (h : key ∉ entries.map Prod.fst) (value : α) :
    put key value entries = entries ++ [(key, value)] := by
  induction entries with
  | nil => rfl
  | cons other entries ih =>
    rw [List.map_cons, List.mem_cons, not_or] at h
    rw [put, if_neg (Ne.symm h.1), ih h.2]
    rfl

theorem lookup_zip {keys : List String} (values : List α) (hkeys : keys.Nodup)
    (hlength : values.length = keys.length) :
    keys.map (fun key => (keys.zip values).lookup key) = values.map some := by
  induction keys generalizing values with
  | nil =>
    obtain rfl := List.eq_nil_of_length_eq_zero hlength
    rfl
  | cons key keys ih =>
    obtain ⟨hkey, hrest⟩ := List.nodup_cons.mp hkeys
    cases values with
    | nil => cases hlength
    | cons value values =>
      rw [List.map_cons, List.map_cons, List.zip_cons_cons, lookup_cons, if_pos rfl,
        ← ih values hrest (Nat.succ.inj hlength)]
      refine congrArg _ (List.map_congr_left fun other hother => ?_)
      have hne : other ≠ key := fun heq => hkey (heq ▸ hother)
      rw [lookup_cons, if_neg hne]

theorem nodup_put {entries : List (String × α)} (h : (entries.map Prod.fst).Nodup) (key : String)
    (value : α) : ((put key value entries).map Prod.fst).Nodup := by
  induction entries with
  | nil => exact List.nodup_cons.mpr ⟨List.not_mem_nil, List.nodup_nil⟩
  | cons other entries ih =>
    obtain ⟨hother, hrest⟩ := List.nodup_cons.mp h
    rw [put]
    split
    next hkey =>
      subst hkey
      exact h
    next hkey =>
      refine List.nodup_cons.mpr ⟨fun hmem => ?_, ih hrest⟩
      obtain ⟨entry, hentry, heq⟩ := List.mem_map.mp hmem
      obtain rfl | hentry := mem_put hentry
      · exact hkey heq.symm
      · exact hother (heq ▸ List.mem_map_of_mem hentry)

theorem lookup_append (a b : List (String × α)) (name : String) :
    (a ++ b).lookup name = (a.lookup name).or (b.lookup name) := by
  induction a with
  | nil => rfl
  | cons entry a ih =>
    rw [List.cons_append, lookup_cons, lookup_cons, ih]
    split <;> rfl

theorem lookup_filter_key (p : String → Bool) (entries : List (String × α)) (name : String) :
    (entries.filter fun entry => p entry.1).lookup name =
      if p name then entries.lookup name else none := by
  induction entries with
  | nil =>
    rw [List.filter_nil]
    split <;> rfl
  | cons entry entries ih =>
    rw [List.filter_cons]
    by_cases hname : name = entry.1
    · subst hname
      split
      · rw [lookup_cons, lookup_cons, if_pos rfl, if_pos rfl]
      next hp => rw [ih, if_neg hp]
    · split
      · rw [lookup_cons, if_neg hname, ih, lookup_cons, if_neg hname]
      · rw [ih, lookup_cons, if_neg hname]

theorem lookup_map_key {β : Type} (f : String → α → β) (entries : List (String × α))
    (name : String) : (entries.map fun entry => (entry.1, f entry.1 entry.2)).lookup name =
      (entries.lookup name).map (f name) := by
  induction entries with
  | nil => rfl
  | cons entry entries ih =>
    rw [List.map_cons, lookup_cons, lookup_cons, ih]
    split
    next hname => rw [hname]; rfl
    next => rfl

theorem lookup_spread (a b : List (String × α)) (name : String) :
    (spread a b).lookup name = (b.lookup name).or (a.lookup name) := by
  rw [spread, lookup_append, lookup_map_key (fun key value => (b.lookup key).getD value),
    lookup_filter_key (fun key => (a.lookup key).isNone)]
  cases a.lookup name with
  | none => rw [Option.map_none, Option.none_or, Option.isNone_none, if_pos rfl, Option.or_none]
  | some value =>
    cases b.lookup name with
    | none => rfl
    | some value => rfl

theorem defined_append (a b : List (String × Option α)) :
    defined (a ++ b) = defined a ++ defined b :=
  List.filterMap_append

theorem defined_cons (key : String) (value : Option α) (entries : List (String × Option α)) :
    defined ((key, value) :: entries) =
      (value.map fun value => (key, value)).toList ++ defined entries := by
  cases value <;> rfl

theorem lookup_defined_of_not_mem {entries : List (String × Option α)} {name : String}
    (h : entries.lookup name = none) : (defined entries).lookup name = none := by
  induction entries with
  | nil => rfl
  | cons entry entries ih =>
    obtain ⟨key, value⟩ := entry
    rw [lookup_cons] at h
    split at h
    · cases h
    next hname =>
      rw [defined_cons, lookup_append, ih h, Option.or_none]
      cases value with
      | none => rfl
      | some value => rw [Option.map_some, Option.toList_some, lookup_cons, if_neg hname]; rfl

theorem lookup_defined {entries : List (String × Option α)}
    (hkeys : (entries.map Prod.fst).Nodup) (name : String) :
    (defined entries).lookup name = (entries.lookup name).join := by
  induction entries with
  | nil => rfl
  | cons entry entries ih =>
    obtain ⟨key, value⟩ := entry
    obtain ⟨hkey, hrest⟩ := List.nodup_cons.mp hkeys
    rw [defined_cons, lookup_append, lookup_cons]
    split
    next hname =>
      subst hname
      have hnone : entries.lookup name = none := by
        rw [List.lookup_eq_none_iff]
        intro other hother
        rw [bne_iff_ne]
        rintro rfl
        exact hkey (List.mem_map.mpr ⟨other, hother, rfl⟩)
      rw [lookup_defined_of_not_mem hnone, Option.or_none]
      cases value with
      | none => rfl
      | some value => rw [Option.map_some, Option.toList_some, lookup_cons, if_pos rfl]; rfl
    next hname =>
      rw [ih hrest]
      cases value with
      | none => rfl
      | some value =>
        rw [Option.map_some, Option.toList_some, lookup_cons, if_neg hname]
        rfl

theorem lookup_defined_map (a : List (String × α)) (b : List (String × Option α)) (name : String) :
    (defined (a.map fun entry => (entry.1, (b.lookup entry.1).getD (some entry.2)))).lookup name =
      (a.lookup name).bind fun value => (b.lookup name).getD (some value) := by
  induction a with
  | nil => rfl
  | cons entry a ih =>
    rw [List.map_cons, defined_cons, lookup_append, ih, lookup_cons]
    by_cases hname : name = entry.1
    · subst hname
      rw [if_pos rfl, Option.bind_some]
      cases hb : b.lookup entry.1 with
      | none =>
        rw [Option.getD_none, Option.map_some, Option.toList_some, lookup_cons, if_pos rfl,
          Option.some_or]
      | some value =>
        cases value with
        | none =>
          -- later entries of the key go with it
          rw [Option.getD_some, Option.map_none, Option.toList_none]
          cases a.lookup entry.1 <;> rfl
        | some value =>
          rw [Option.getD_some, Option.map_some, Option.toList_some, lookup_cons, if_pos rfl,
            Option.some_or]
    · rw [if_neg hname]
      cases (b.lookup entry.1).getD (some entry.2) with
      | none => rfl
      | some value => rw [Option.map_some, Option.toList_some, lookup_cons, if_neg hname]; rfl

theorem lookup_defined_spread (a : List (String × α)) {b : List (String × Option α)}
    (hkeys : (b.map Prod.fst).Nodup) (name : String) :
    (defined (spread (a.map fun entry => (entry.1, some entry.2)) b)).lookup name =
      (b.lookup name).getD (a.lookup name) := by
  have hlookup : ∀ key, (a.map fun entry => (entry.1, some entry.2)).lookup key =
      (a.lookup key).map some := fun key => lookup_map_key (fun _ value => some value) a key
  rw [spread, defined_append, lookup_append, List.map_map]
  have hold := lookup_defined_map a b name
  rw [lookup_defined ((List.filter_sublist.map Prod.fst).nodup hkeys),
    lookup_filter_key (fun key =>
      ((a.map fun entry => (entry.1, some entry.2)).lookup key).isNone), hlookup, Option.isNone_map]
  refine (congrArg (Option.or · _) hold).trans ?_
  cases a.lookup name with
  | none =>
    rw [Option.bind_none, Option.none_or, Option.isNone_none, if_pos rfl]
    cases b.lookup name <;> rfl
  | some value =>
    rw [Option.bind_some, Option.isNone_some, if_neg Bool.false_ne_true, Option.join_none,
      Option.or_none]

end Entries

namespace Json

def truthy : Json → Bool
  | null => false
  | bool value => value
  | number value => decide (value ≠ 0)
  | text value => decide (value ≠ "")
  | array _ | object _ => true

def isArray : Json → Bool
  | array _ => true
  | _ => false

/-- What a spread copies: the items of an array and the characters of a text by their index. -/
def entries : Json → List (String × Json)
  | object fields => fields
  | array items => items.zipIdx.map fun item => (toString item.2, item.1)
  | text value => value.toList.zipIdx.map fun item => (toString item.2, text (String.singleton item.1))
  | null | bool _ | number _ => []

/-- `value[name]`, for the names that are not an index or a length; `none` is undefined. -/
def property (name : String) (value : Json) : Option Json :=
  value.entries.lookup name

/-- `value[name] = child` as it is written out afterwards: an array takes the property but is
written out without it, and nothing but objects takes any. -/
def assign (value : Json) (name : String) (child : Json) : Option Json :=
  match value with
  | object fields => some (object (put name child fields))
  | array items => some (array items)
  | null | bool _ | number _ | text _ => none

/-- `value || {}` -/
def orObject : Option Json → Json
  | some value => if value.truthy then value else object []
  | none => object []

theorem property_object (name : String) (fields : List (String × Json)) :
    (object fields).property name = fields.lookup name :=
  rfl

theorem entries_of_not_truthy {value : Json} (h : value.truthy = false) : value.entries = [] := by
  cases value with
  | null | bool _ | number _ => rfl
  | text value =>
    have hempty : value = "" := by simpa [truthy] using h
    subst hempty
    rfl
  | array _ | object _ => cases h

theorem entries_orObject (value : Option Json) :
    (orObject value).entries = (value.map entries).getD [] := by
  cases value with
  | none => rfl
  | some value =>
    rw [orObject]
    split
    · rfl
    next h => exact (entries_of_not_truthy (Bool.not_eq_true _ ▸ h)).symm

theorem property_orObject (value : Option Json) (name : String) :
    (orObject value).property name = value.bind (property name) := by
  rw [property, entries_orObject]
  cases value <;> rfl

theorem property_array (items : List Json) {name : String}
    (hname : name.toList.all Char.isDigit = false) : (array items).property name = none := by
  rw [property, entries, List.lookup_eq_none_iff]
  intro entry hentry
  obtain ⟨item, -, rfl⟩ := List.mem_map.mp hentry
  rw [bne_iff_ne]
  rintro rfl
  have hdigits : (toString item.2).toList.all Char.isDigit = true := by
    rw [List.all_eq_true]
    intro c hc
    change c ∈ (Nat.repr item.2).toList at hc
    rw [Nat.toList_repr] at hc
    exact Nat.isDigit_of_mem_toDigits (by omega) (by omega) hc
  rw [hdigits] at hname
  cases hname

theorem property_assign {name : String} {child value value' : Json}
    (h : value.assign name child = some value') (key : String) :
    value'.property key = if value.isArray = false ∧ key = name then some child
      else value.property key := by
  cases value with
  | object fields =>
    obtain rfl := Option.some.inj h
    rw [property, entries, lookup_put]
    by_cases hkey : key = name
    · rw [if_pos hkey, if_pos ⟨rfl, hkey⟩]
    · rw [if_neg hkey, if_neg fun h => hkey h.2, property, entries]
  | array items =>
    obtain rfl := Option.some.inj h
    exact (if_neg fun hnot => Bool.false_ne_true hnot.1.symm).symm
  | null | bool _ | number _ | text _ => cases h

end Json
end FieldserviceIT.Lib
