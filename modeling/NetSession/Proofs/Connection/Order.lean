import NetSession.Connection.Table
import NetSession.Proofs.Connection.Ascending

/-!
# The order of a table

A table keeps its connections in two maps. `Table.Sound` says that the two agree: each number has
one place, each place one number, and all places were handed out. Every operation keeps them so, and
then does to `Table.toList` what it is meant to do: `insert` puts an entry at the end
(`toList_insert`), `touch` is an `insert` (`touch_of_get?_some`), `remove` takes an entry out
(`toList_remove`), and all else stays in its order. Looking up, counting and counting references can
then be done on the list.
-/

namespace NetSession.Table

/-- The two maps of a table agree. -/
structure Sound (t : Table) : Prop where
  /-- The place of an entry is the number's. -/
  placed : ∀ {id : ConnId} {entry : Entry},
    t.entries[id]? = some entry → t.order[entry.place]? = some id
  /-- A number with a place has an entry, with that place. -/
  listed : ∀ {place : Nat} {id : ConnId},
    t.order[place]? = some id → ∃ ref, t.entries[id]? = some ⟨ref, place⟩
  /-- All places were handed out. -/
  below : ∀ {place : Nat} {id : ConnId}, t.order[place]? = some id → place < t.nextPlace

variable {t : Table}

/-- The list of a table, from the list of its places. -/
theorem toList_eq_filterMap (t : Table) :
    t.toList = t.order.toList.filterMap fun p => (t.get? p.2).map (p.2, ·) := by
  rw [toList, Ascending.values_eq, List.filterMap_map]
  rfl

/-- Exactly the numbers that are looked up with success are in the list, with their references. -/
theorem Sound.mem_toList (h : t.Sound) {id : ConnId} {ref : Ref} :
    (id, ref) ∈ t.toList ↔ t.get? id = some ref := by
  rw [toList_eq_filterMap, List.mem_filterMap]
  constructor
  · rintro ⟨⟨place, id'⟩, -, hfound⟩
    obtain ⟨ref', hget, heq⟩ := Option.map_eq_some_iff.mp hfound
    obtain ⟨rfl, rfl⟩ := Prod.mk.inj heq
    exact hget
  · intro hget
    obtain ⟨entry, hentry, -⟩ := Option.map_eq_some_iff.mp hget
    refine ⟨(entry.place, id), ?_, by rw [hget]; rfl⟩
    exact Std.TreeMap.mem_toList_iff_getElem?_eq_some.mpr (h.placed hentry)

/-- No number that has a place is left out of the list. -/
theorem Sound.ids_eq (h : t.Sound) : t.ids = t.order.toList.map Prod.snd := by
  rw [ids, toList_eq_filterMap, List.map_filterMap, ← List.filterMap_eq_map]
  apply List.filterMap_congr
  rintro ⟨place, id⟩ hmem
  obtain ⟨ref, hentry⟩ := h.listed (Std.TreeMap.mem_toList_iff_getElem?_eq_some.mp hmem)
  simp [get?, hentry]

/-- The numbers are distinct. -/
theorem Sound.nodup_ids (h : t.Sound) : t.ids.Nodup := by
  -- The places ascend, and a number that is at two places would have two entries.
  have hplaces := Ascending.pairwise_toList t.order
  rw [h.ids_eq, List.Nodup, List.pairwise_map]
  apply hplaces.imp_of_mem
  rintro ⟨p, id⟩ ⟨q, id'⟩ hp hq hlt (rfl : id = id')
  rw [Std.TreeMap.mem_toList_iff_getElem?_eq_some] at hp hq
  obtain ⟨ref, hentry⟩ := h.listed hp
  obtain ⟨ref', hentry'⟩ := h.listed hq
  rw [hentry] at hentry'
  injection hentry' with heq
  injection heq with _ hplace
  exact absurd hlt (by rw [hplace]; exact Nat.lt_irrefl _)

/-- The list has the entries of the table, in another order. -/
theorem Sound.perm_toList (h : t.Sound) :
    (t.entries.toList.map fun p => (p.1, p.2.ref)).Perm t.toList := by
  -- Both have no entry twice, so it is enough that they have the same ones.
  have hentries : (t.entries.toList.map fun p => (p.1, p.2.ref)).Nodup := by
    rw [List.Nodup, List.pairwise_map]
    apply (Ascending.pairwise_toList t.entries).imp
    intro p q hlt heq
    exact absurd hlt (by rw [(Prod.mk.inj heq).1]; exact Nat.lt_irrefl _)
  rw [List.perm_ext_iff_of_nodup hentries (List.Nodup.of_map _ h.nodup_ids)]
  rintro ⟨id, ref⟩
  rw [h.mem_toList, get?, Option.map_eq_some_iff, List.mem_map]
  constructor
  · rintro ⟨⟨id', entry⟩, hmem, heq⟩
    obtain ⟨rfl, rfl⟩ := Prod.mk.inj heq
    exact ⟨entry, Std.TreeMap.mem_toList_iff_getElem?_eq_some.mp hmem, rfl⟩
  · rintro ⟨entry, hentry, rfl⟩
    exact ⟨(id, entry), Std.TreeMap.mem_toList_iff_getElem?_eq_some.mpr hentry, rfl⟩

/-! ## Asking -/

/-- A number is looked up in the list. -/
theorem Sound.get?_eq (h : t.Sound) (id : ConnId) : t.get? id = t.toList.lookup id := by
  cases hfound : t.toList.lookup id with
  | none =>
    rw [List.lookup_eq_none_iff] at hfound
    rw [Option.eq_none_iff_forall_ne_some]
    intro ref hget
    simpa using hfound (id, ref) (h.mem_toList.mpr hget)
  | some ref =>
    obtain ⟨front, rest, heq, -⟩ := List.lookup_eq_some_iff.mp hfound
    exact h.mem_toList.mp (by rw [heq]; simp)

/-- The size is the length of the list. -/
theorem Sound.size_eq (h : t.Sound) : t.size = t.toList.length := by
  rw [size, ← Std.TreeMap.length_toList, ← h.perm_toList.length_eq, List.length_map]

/-- A table is empty when its list is. -/
theorem Sound.isEmpty_eq (h : t.Sound) : t.isEmpty = t.toList.isEmpty := by
  rw [isEmpty, Std.TreeMap.isEmpty_eq_size_eq_zero, ← size, h.size_eq]
  cases t.toList <;> rfl

/-- The references to a connection are counted in the list. -/
theorem Sound.refCount_eq (h : t.Sound) (ref : Ref) : t.refCount ref = t.refs.count ref := by
  rw [refCount, Ascending.values_eq, refs, List.count, List.countP_map, List.countP_map,
    ← h.perm_toList.countP_eq, List.countP_map]
  rfl

/-! ## Changing -/

/-- A table without connections is sound. -/
theorem sound_empty : Sound {} where
  placed h := by simp at h
  listed h := by simp at h
  below h := by simp at h

/-- A place that is handed out to nobody changes nothing. -/
theorem Sound.skip (h : t.Sound) : Sound { t with nextPlace := t.nextPlace + 1 } where
  placed := h.placed
  listed := h.listed
  below hplace := Nat.lt_succ_of_lt (h.below hplace)

/-- Two numbers do not share a place. -/
theorem Sound.eq_of_place (h : t.Sound) {id id' : ConnId} {entry entry' : Entry}
    (hid : t.entries[id]? = some entry) (hid' : t.entries[id']? = some entry')
    (hplace : entry.place = entry'.place) : id = id' := by
  have hat := h.placed hid
  rw [hplace, h.placed hid'] at hat
  exact (Option.some.inj hat).symm

/-- What is at the place of an entry is the entry's number. -/
theorem Sound.place_iff (h : t.Sound) {id id' : ConnId} {entry : Entry} {place : Nat}
    (hid : t.entries[id]? = some entry) (hplace : t.order[place]? = some id') :
    place = entry.place ↔ id' = id := by
  obtain ⟨ref, hid'⟩ := h.listed hplace
  constructor
  · rintro rfl
    exact h.eq_of_place hid' hid rfl
  · rintro rfl
    rw [hid] at hid'
    rw [Option.some.inj hid']

/-- The entries that are left when one is taken out. -/
theorem entries_remove (t : Table) (id id' : ConnId) :
    (t.remove id).2.entries[id']? = if id' = id then none else t.entries[id']? := by
  cases hid : t.entries[id]? with
  | none =>
    simp only [remove, hid]
    split
    · next heq => rw [heq, hid]
    · rfl
  | some entry =>
    simp only [remove, hid]
    exact Ascending.getElem?_erase _ _ _

/-- What is looked up once an entry was taken out. -/
theorem get?_remove (t : Table) (id id' : ConnId) :
    (t.remove id).2.get? id' = if id' = id then none else t.get? id' := by
  rw [get?, entries_remove, get?]
  split <;> rfl

/-- What is taken out is what was looked up. -/
theorem remove_fst (t : Table) (id : ConnId) : (t.remove id).1 = t.get? id := by
  rw [remove, get?]
  cases t.entries[id]? <;> rfl

theorem nextPlace_remove (t : Table) (id : ConnId) : (t.remove id).2.nextPlace = t.nextPlace := by
  rw [remove]
  cases t.entries[id]? <;> rfl

/-- The places that are left when an entry is taken out. -/
theorem Sound.order_remove (h : t.Sound) {id id' : ConnId} {place : Nat} :
    (t.remove id).2.order[place]? = some id' ↔ t.order[place]? = some id' ∧ id' ≠ id := by
  cases hid : t.entries[id]? with
  | none =>
    simp only [remove, hid]
    refine ⟨fun hplace => ⟨hplace, ?_⟩, And.left⟩
    rintro rfl
    obtain ⟨ref, hentry⟩ := h.listed hplace
    simp [hid] at hentry
  | some entry =>
    -- The place that is taken out is that of `id`, and no other number has it.
    simp only [remove, hid, Ascending.getElem?_erase]
    split
    · next heq =>
      refine ⟨fun hnone => by simp at hnone, fun ⟨hplace, hne⟩ => ?_⟩
      exact absurd ((h.place_iff hid hplace).mp heq) hne
    · next hne =>
      refine ⟨fun hplace => ⟨hplace, fun heq => hne ?_⟩, And.left⟩
      exact (h.place_iff hid hplace).mpr heq

/-- Taking an entry out keeps a table sound. -/
theorem Sound.remove (h : t.Sound) (id : ConnId) : (t.remove id).2.Sound where
  placed {id' entry} hentry := by
    rw [entries_remove] at hentry
    split at hentry
    · simp at hentry
    · next hne => exact h.order_remove.mpr ⟨h.placed hentry, hne⟩
  listed hplace := by
    obtain ⟨hplace, hne⟩ := h.order_remove.mp hplace
    rw [entries_remove, if_neg hne]
    exact h.listed hplace
  below hplace := by
    rw [nextPlace_remove]
    exact h.below (h.order_remove.mp hplace).1

/-- Taking an entry out keeps all others in their order. -/
theorem Sound.toList_remove (h : t.Sound) (id : ConnId) :
    (t.remove id).2.toList = t.toList.filter (·.1 != id) := by
  have horder : (t.remove id).2.order.toList = t.order.toList.filter (·.2 != id) := by
    apply Ascending.toList_eq ((Ascending.pairwise_toList _).filter _)
    intro place id'
    rw [List.mem_filter, Std.TreeMap.mem_toList_iff_getElem?_eq_some, h.order_remove, bne_iff_ne]
  -- The numbers that are left are looked up as before.
  rw [toList_eq_filterMap, toList_eq_filterMap, horder, List.filterMap_filter,
    List.filter_filterMap]
  apply List.filterMap_congr
  rintro ⟨place, id'⟩ -
  simp only [get?_remove]
  by_cases heq : id' = id
  · cases hid : t.get? id <;> simp [heq, hid, Option.filter]
  · cases t.get? id' <;> simp [heq, Option.filter]

/-- The entries once one is put in. -/
theorem entries_insert (t : Table) (id id' : ConnId) (ref : Ref) :
    (t.insert id ref).entries[id']? =
      if id' = id then some ⟨ref, t.nextPlace⟩ else t.entries[id']? :=
  Ascending.getElem?_insert _ _ _ _

/-- What is looked up once an entry was put in. -/
theorem get?_insert (t : Table) (id id' : ConnId) (ref : Ref) :
    (t.insert id ref).get? id' = if id' = id then some ref else t.get? id' := by
  rw [get?, entries_insert, get?]
  split <;> rfl

/-- What is put in gets its place behind what is left of the others. -/
theorem order_insert (t : Table) (id : ConnId) (ref : Ref) :
    (t.insert id ref).order = (t.remove id).2.order.insert t.nextPlace id := by
  cases hid : t.entries[id]? <;> simp only [insert, remove, hid]

/-- Putting an entry in keeps a table sound. -/
theorem Sound.insert (h : t.Sound) (id : ConnId) (ref : Ref) : (t.insert id ref).Sound where
  placed {id' entry} hentry := by
    rw [entries_insert] at hentry
    rw [order_insert, Ascending.getElem?_insert]
    split at hentry
    · next heq =>
      rw [← Option.some.inj hentry, heq]
      exact if_pos rfl
    · next hne =>
      -- The new place is behind all others.
      have hplace := h.placed hentry
      rw [if_neg (Nat.ne_of_lt (h.below hplace))]
      exact h.order_remove.mpr ⟨hplace, hne⟩
  listed {place id'} hplace := by
    rw [order_insert, Ascending.getElem?_insert] at hplace
    rw [entries_insert]
    split at hplace
    · next heq =>
      rw [if_pos (Option.some.inj hplace).symm, heq]
      exact ⟨ref, rfl⟩
    · obtain ⟨hplace, hne⟩ := h.order_remove.mp hplace
      rw [if_neg hne]
      exact h.listed hplace
  below {place id'} hplace := by
    rw [order_insert, Ascending.getElem?_insert] at hplace
    split at hplace
    · next heq => exact Nat.lt_succ_of_le (Nat.le_of_eq heq)
    · exact Nat.lt_succ_of_lt (h.below (h.order_remove.mp hplace).1)

/-- What is put in comes last, and in the place of what had the number. -/
theorem Sound.toList_insert (h : t.Sound) (id : ConnId) (ref : Ref) :
    (t.insert id ref).toList = t.toList.filter (·.1 != id) ++ [(id, ref)] := by
  have horder : (t.insert id ref).order.toList =
      (t.remove id).2.order.toList ++ [(t.nextPlace, id)] := by
    rw [order_insert]
    apply Ascending.toList_insert_of_lt
    intro place id' hplace
    exact h.below (h.order_remove.mp hplace).1
  have hlast : (t.insert id ref).get? id = some ref := by
    rw [get?_insert, if_pos rfl]
  rw [← h.toList_remove, toList_eq_filterMap, toList_eq_filterMap, horder, List.filterMap_append]
  congr 1
  · apply List.filterMap_congr
    rintro ⟨place, id'⟩ hmem
    -- Whoever has kept a place has another number.
    obtain ⟨-, hne⟩ := h.order_remove.mp (Std.TreeMap.mem_toList_iff_getElem?_eq_some.mp hmem)
    simp only [get?_insert, get?_remove, if_neg hne]
  · rw [List.filterMap_cons, hlast]
    rfl

/-- A number that is not in the table is touched without effect, but a place is lost. -/
theorem touch_of_get?_none {id : ConnId} (hget : t.get? id = none) :
    t.touch id = (none, { t with nextPlace := t.nextPlace + 1 }) := by
  have hid : t.entries[id]? = none := Option.map_eq_none_iff.mp hget
  simp only [touch, hid]

/-- To touch an entry is to put it in once more. -/
theorem touch_of_get?_some {id : ConnId} {ref : Ref} (hget : t.get? id = some ref) :
    t.touch id = (some ref, t.insert id ref) := by
  obtain ⟨entry, hid, rfl⟩ := Option.map_eq_some_iff.mp hget
  simp only [touch, insert, hid]

end NetSession.Table
