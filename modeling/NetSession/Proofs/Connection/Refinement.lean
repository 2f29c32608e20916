import NetSession.Connection.Roster
import NetSession.Proofs.Connection.Order
import NetSession.Proofs.Connection.Pool

/-!
# A table is a list

`Listing` is what a roster is seen as: what is found behind each reference, and the live connections
in one plain list. Its operations are written out on these, and use none of those of pools, tables
and connections. A roster and a listing that are asked the same (`Query`) give the same answers, and
the roster shows what the listing has, moments of last reads included: `Roster.run_refines`. The two
are related by `Roster.Simulates`, which one query preserves (`Simulates.ask`), and so any sequence
of queries does.
-/

namespace NetSession

/-- What a roster is asked to do. -/
inductive Query where
  /-- Put a connection at the tail. -/
  | insert (ref : Ref) (now : Instant)
  /-- Take a number out. -/
  | remove (id : ConnId)
  /-- Move a number to the tail. -/
  | touch (id : ConnId) (now : Instant)
  /-- Look a number up. -/
  | get (id : ConnId)

/-- The answers to some queries, and the state that they lead to. -/
def Query.run {σ : Type} (ask : σ → Query → Option Ref × σ) (s : σ) :
    List Query → List (Option Ref) × σ
  | [] => ([], s)
  | query :: queries =>
    let (answer, next) := ask s query
    let (answers, last) := run ask next queries
    (answer :: answers, last)

/-- One query to a roster. The answer is the connection that is given back. -/
def Roster.ask (r : Roster) : Query → Option Ref × Roster
  | .insert ref now => (none, r.insert ref now)
  | .remove id => r.remove id
  | .touch id now => r.touch id now
  | .get id => ((r.get? id).map (·.1), r)

/-- What is behind each reference, and a plain list of the live connections. -/
structure Listing where
  /-- The connection behind a reference. -/
  connections : Ref → Option Connection
  /-- The numbers of the connections that asked to be closed, in order. -/
  requests : List ConnId
  /-- The live ones, from the least to the most recently read, with their numbers. -/
  live : List (ConnId × Ref) := []

namespace Listing

/-- Nothing is live of what a pool has. -/
def start (pool : Pool) : Listing := { connections := pool.get?, requests := pool.requests }

/-- The list without a number. -/
def without (l : Listing) (id : ConnId) : List (ConnId × Ref) := l.live.filter (·.1 != id)

/-- A connection with a number was last read from at a moment, and is then the only one of the
number and the last. -/
def append (l : Listing) (id : ConnId) (ref : Ref) (now : Instant) : Listing where
  connections ref' :=
    if ref' = ref then (l.connections ref).map fun c => { c with lastActivity := now }
    else l.connections ref'
  requests := l.requests
  live := l.without id ++ [(id, ref)]

/-- One query to a listing. -/
def ask (l : Listing) : Query → Option Ref × Listing
  | .insert ref now =>
    match l.connections ref with
    | none => (none, l)
    | some c => (none, l.append c.id ref now)
  | .remove id => (l.live.lookup id, { l with live := l.without id })
  | .touch id now =>
    match l.live.lookup id with
    | none => (none, l)
    | some ref => (some ref, l.append id ref now)
  | .get id => (l.live.lookup id, l)

end Listing

namespace Roster

/-- A roster, as one sees it, is a listing. -/
structure Shows (r : Roster) (l : Listing) : Prop where
  /-- The connections are the same, with the same times of their last reads. -/
  connections : ∀ ref, r.pool.get? ref = l.connections ref
  /-- The requests to be closed are the same. -/
  requests : r.pool.requests = l.requests
  /-- The list has each live connection once, in its order. -/
  toList : r.table.toList = l.live
  /-- The numbers are distinct. -/
  nodup : (l.live.map (·.1)).Nodup
  /-- Each number is that of its connection. -/
  numbered : ∀ {id : ConnId} {ref : Ref},
    (id, ref) ∈ l.live → ∃ c, l.connections ref = some c ∧ c.id = id
  /-- What is found are the members of the list. -/
  get? : ∀ id, r.get? id = (l.live.lookup id).bind fun ref => (l.connections ref).map (ref, ·)
  /-- The size is the length. -/
  size : r.table.size = l.live.length
  /-- There is nothing in an empty list only. -/
  isEmpty : r.table.isEmpty = l.live.isEmpty
  /-- One reference is held to each connection of the list, and none to any other. -/
  refCount : ∀ ref, r.table.refCount ref = if ref ∈ l.live.map (·.2) then 1 else 0
  /-- No reference is held to what is taken out. -/
  removed : ∀ {id : ConnId} {ref : Ref},
    l.live.lookup id = some ref → (r.remove id).2.table.refCount ref = 0
  /-- No reference is held to what is replaced by another connection of its number. -/
  replaced : ∀ {ref old : Ref} {c : Connection} (now : Instant), l.connections ref = some c →
    l.live.lookup c.id = some old → old ≠ ref → (r.insert ref now).table.refCount old = 0

/-- A sound table that keeps the list of a listing. -/
structure Simulates (r : Roster) (l : Listing) : Prop where
  /-- The maps of the table agree. -/
  sound : r.table.Sound
  /-- The connections are the same. -/
  connections : ∀ ref, r.pool.get? ref = l.connections ref
  /-- The requests are the same. -/
  requests : r.pool.requests = l.requests
  /-- The list is the table's. -/
  toList : r.table.toList = l.live
  /-- Each number is that of its connection. -/
  numbered : ∀ {id : ConnId} {ref : Ref},
    (id, ref) ∈ l.live → ∃ c, l.connections ref = some c ∧ c.id = id

namespace Simulates

variable {r : Roster} {l : Listing}

/-- Nothing is live at first. -/
theorem start (pool : Pool) : Simulates { pool } (.start pool) where
  sound := Table.sound_empty
  connections _ := rfl
  requests := rfl
  toList := rfl
  numbered h := absurd h List.not_mem_nil

/-- A number is looked up in the list. -/
theorem get?_table (h : Simulates r l) (id : ConnId) : r.table.get? id = l.live.lookup id := by
  rw [h.sound.get?_eq, h.toList]

/-- The numbers of the list are distinct. -/
theorem nodup (h : Simulates r l) : (l.live.map (·.1)).Nodup := by
  rw [← h.toList]
  exact h.sound.nodup_ids

/-- What is looked up has a connection. -/
theorem exists_connection (h : Simulates r l) {id : ConnId} {ref : Ref}
    (hlookup : l.live.lookup id = some ref) : ∃ c, l.connections ref = some c ∧ c.id = id := by
  apply h.numbered
  rw [← h.toList, h.sound.mem_toList, h.get?_table, hlookup]

/-- A connection has one number, so it is in the list at most once. -/
theorem nodup_refs (h : Simulates r l) : (l.live.map (·.2)).Nodup := by
  have hids := h.nodup
  rw [List.Nodup, List.pairwise_map] at hids ⊢
  apply hids.imp_of_mem
  -- One connection at two places of the list would have two numbers.
  rintro ⟨id, ref⟩ ⟨id', ref'⟩ hmem hmem' hne (rfl : ref = ref')
  obtain ⟨c, hc, hid⟩ := h.numbered hmem
  obtain ⟨c', hc', hid'⟩ := h.numbered hmem'
  rw [hc] at hc'
  obtain rfl := Option.some.inj hc'
  exact hne (hid.symm.trans hid')

/-- The table holds one reference to what is in the list. -/
theorem refCount_eq (h : Simulates r l) (ref : Ref) :
    r.table.refCount ref = if ref ∈ l.live.map (·.2) then 1 else 0 := by
  rw [h.sound.refCount_eq, Table.refs, h.toList]
  exact h.nodup_refs.count

/-- A connection is not among those of other numbers. -/
theorem notMem_without_id (h : Simulates r l) {ref : Ref} {c : Connection}
    (hc : l.connections ref = some c) : ref ∉ (l.without c.id).map (·.2) := by
  rw [List.mem_map]
  rintro ⟨⟨id', ref'⟩, hmem, (rfl : ref' = ref)⟩
  obtain ⟨hmem, hne⟩ := List.mem_filter.mp hmem
  obtain ⟨c', hc', hid'⟩ := h.numbered hmem
  rw [hc] at hc'
  obtain rfl := Option.some.inj hc'
  exact bne_iff_ne.mp hne hid'.symm

/-- What is looked up is not among the others. -/
theorem notMem_without (h : Simulates r l) {id : ConnId} {ref : Ref}
    (hlookup : l.live.lookup id = some ref) : ref ∉ (l.without id).map (·.2) := by
  obtain ⟨c, hc, rfl⟩ := h.exists_connection hlookup
  exact h.notMem_without_id hc

/-- A connection that is put behind the others is put behind the others of the list. -/
theorem append (h : Simulates r l) {ref : Ref} {c : Connection} (hc : l.connections ref = some c)
    (now : Instant) :
    Simulates { pool := r.pool.modify ref (·.stamp now), table := r.table.insert c.id ref }
      (l.append c.id ref now) where
  sound := h.sound.insert _ _
  connections ref' := by
    -- What the table does to a connection is what the listing says of it.
    have hstamp : (·.stamp now) = fun c : Connection => { c with lastActivity := now } := rfl
    rw [Pool.get?_modify, h.connections, h.connections, hstamp]
    rfl
  requests := by rw [Pool.requests_modify, h.requests]; rfl
  toList := by rw [h.sound.toList_insert, h.toList]; rfl
  numbered {id' ref'} hmem := by
    -- Who had a number before it was read from has it after.
    have hnumber {c' : Connection} (hc' : l.connections ref' = some c') (hid : c'.id = id') :
        ∃ c, (l.append c.id ref now).connections ref' = some c ∧ c.id = id' := by
      unfold Listing.append
      dsimp only
      split
      · next heq =>
        rw [← heq, hc']
        exact ⟨_, rfl, hid⟩
      · exact ⟨c', hc', hid⟩
    rcases List.mem_append.mp hmem with hmem | hmem
    · obtain ⟨c', hc', hid⟩ := h.numbered (List.mem_of_mem_filter hmem)
      exact hnumber hc' hid
    · obtain ⟨rfl, rfl⟩ := Prod.mk.inj (List.mem_singleton.mp hmem)
      exact hnumber hc rfl

/-- A reference to nothing is not inserted. -/
theorem insert_none (h : Simulates r l) {ref : Ref} (hc : l.connections ref = none)
    (now : Instant) : r.insert ref now = r := by
  simp only [Roster.insert, h.connections, hc]

/-- A connection that is inserted is put behind the others. -/
theorem insert_some (h : Simulates r l) {ref : Ref} {c : Connection}
    (hc : l.connections ref = some c) (now : Instant) :
    r.insert ref now =
      { pool := r.pool.modify ref (·.stamp now), table := r.table.insert c.id ref } := by
  simp only [Roster.insert, Pool.modify, h.connections, hc]

/-- A number that is not live is touched in vain: a place is handed out to nobody. -/
theorem touch_none (h : Simulates r l) {id : ConnId} (hlookup : l.live.lookup id = none)
    (now : Instant) :
    r.touch id now =
      (none, { r with table := { r.table with nextPlace := r.table.nextPlace + 1 } }) := by
  have hget : r.table.get? id = none := by rw [h.get?_table, hlookup]
  simp only [Roster.touch, Table.touch_of_get?_none hget]

/-- A live connection that is touched is put behind the others. -/
theorem touch_some (h : Simulates r l) {id : ConnId} {ref : Ref}
    (hlookup : l.live.lookup id = some ref) (now : Instant) :
    r.touch id now =
      (some ref, { pool := r.pool.modify ref (·.stamp now), table := r.table.insert id ref }) := by
  have hget : r.table.get? id = some ref := by rw [h.get?_table, hlookup]
  simp only [Roster.touch, Table.touch_of_get?_some hget]

/-- A number that is taken out is taken out of the list. -/
theorem remove (h : Simulates r l) (id : ConnId) :
    Simulates (r.remove id).2 { l with live := l.without id } where
  sound := h.sound.remove id
  connections := h.connections
  requests := h.requests
  toList := by
    rw [Listing.without, ← h.toList]
    exact h.sound.toList_remove id
  numbered hmem := h.numbered (List.mem_of_mem_filter hmem)

/-- A number that is touched moves to the end of the list, if it is there. -/
theorem touch (h : Simulates r l) (id : ConnId) (now : Instant) :
    (r.touch id now).1 = (l.ask (.touch id now)).1 ∧
      Simulates (r.touch id now).2 (l.ask (.touch id now)).2 := by
  cases hlookup : l.live.lookup id with
  | none =>
    simp only [Listing.ask, h.touch_none hlookup, hlookup]
    exact ⟨trivial, h.sound.skip, h.connections, h.requests, h.toList, h.numbered⟩
  | some ref =>
    obtain ⟨c, hc, rfl⟩ := h.exists_connection hlookup
    simp only [Listing.ask, h.touch_some hlookup, hlookup]
    exact ⟨trivial, h.append hc now⟩

/-- The live connection of a number is found in the list. -/
theorem get? (h : Simulates r l) (id : ConnId) :
    r.get? id = (l.live.lookup id).bind fun ref => (l.connections ref).map (ref, ·) := by
  rw [Roster.get?, h.get?_table]
  cases l.live.lookup id with
  | none => rfl
  | some ref => cases hc : l.connections ref <;> simp [h.connections, hc]

/-- A query is answered alike, and leads to like states. -/
theorem ask (h : Simulates r l) (query : Query) :
    (r.ask query).1 = (l.ask query).1 ∧ Simulates (r.ask query).2 (l.ask query).2 := by
  cases query with
  | insert ref now =>
    cases hc : l.connections ref with
    | none =>
      simp only [Roster.ask, Listing.ask, h.insert_none hc, hc]
      exact ⟨trivial, h⟩
    | some c =>
      simp only [Roster.ask, Listing.ask, h.insert_some hc, hc]
      exact ⟨trivial, h.append hc now⟩
  | remove id =>
    refine ⟨?_, h.remove id⟩
    rw [Listing.ask, ← h.get?_table]
    exact Table.remove_fst _ _
  | touch id now => exact h.touch id now
  | get id =>
    refine ⟨?_, h⟩
    simp only [Roster.ask, Listing.ask, h.get?]
    cases hlookup : l.live.lookup id with
    | none => rfl
    | some ref =>
      obtain ⟨c, hc, -⟩ := h.exists_connection hlookup
      simp [hc]

/-- Queries are answered alike. -/
theorem run (h : Simulates r l) (queries : List Query) :
    (Query.run Roster.ask r queries).1 = (Query.run Listing.ask l queries).1 ∧
      Simulates (Query.run Roster.ask r queries).2 (Query.run Listing.ask l queries).2 := by
  -- The two states change with each query, but stay related.
  induction queries generalizing r l with
  | nil => exact ⟨rfl, h⟩
  | cons query queries ih =>
    obtain ⟨hanswer, hnext⟩ := h.ask query
    obtain ⟨hanswers, hlast⟩ := ih hnext
    exact ⟨by simp only [Query.run, hanswer, hanswers], hlast⟩

/-- What is kept of a listing is seen. -/
theorem shows (h : Simulates r l) : r.Shows l where
  connections := h.connections
  requests := h.requests
  toList := h.toList
  nodup := h.nodup
  numbered := h.numbered
  get? := h.get?
  size := by rw [h.sound.size_eq, h.toList]
  isEmpty := by rw [h.sound.isEmpty_eq, h.toList]
  refCount := h.refCount_eq
  removed {id ref} hlookup := by
    rw [(h.remove id).refCount_eq, if_neg (h.notMem_without hlookup)]
  replaced {ref old c} now hc hlookup hne := by
    rw [h.insert_some hc, (h.append hc now).refCount_eq, if_neg]
    rw [Listing.append, List.map_append, List.mem_append]
    -- What had the number was taken out, and what is put in is another connection.
    rintro (hmem | hmem)
    · exact h.notMem_without hlookup hmem
    · exact hne (List.mem_singleton.mp hmem)

end Simulates

/-- A roster that starts with an empty table answers any queries as a plain list of connections with
distinct numbers does, and shows that list. -/
theorem run_refines (pool : Pool) (queries : List Query) :
    (Query.run Roster.ask { pool } queries).1 = (Query.run Listing.ask (.start pool) queries).1 ∧
      (Query.run Roster.ask { pool } queries).2.Shows
        (Query.run Listing.ask (.start pool) queries).2 := by
  obtain ⟨hanswers, hlast⟩ := (Simulates.start pool).run queries
  exact ⟨hanswers, hlast.shows⟩

end Roster

end NetSession
