import NetSession.Proofs.Connection.Recency
import NetSession.Proofs.Connection.Refinement

/-!
# The sweep finds what a full scan finds

A table has the order in which its connections were last read from, but the moments stand in the
connections, and these are shared: a connection that was taken out may come back, and another one
may take its number. `Roster.scan` looks at every connection of the table. A roster that is asked to
read from connections at moments that never go back (`Query.Timely`) has them in the order of these
moments: one query keeps them so (`Simulates.ascends_ask`), and so does any sequence of queries
(`Simulates.ascends_run`). The sweep, which stops at the first connection that it does not take,
then finds the same as the scan: `Roster.expired_eq_scan`.
-/

namespace NetSession

/-- When a query says that a connection is read from. -/
def Query.moment? : Query → Option Instant
  | .insert _ now => some now
  | .remove _ => none
  | .touch _ now => some now
  | .get _ => none

/-- The moments of some queries never go back. -/
def Query.Timely (queries : List Query) : Prop :=
  (queries.filterMap Query.moment?).Pairwise fun t t' => t.nanos ≤ t'.nanos

instance (queries : List Query) : Decidable (Query.Timely queries) := by
  unfold Query.Timely
  infer_instance

namespace Roster

variable {r : Roster} {l : Listing}

/-- How long each live connection has been silent, from the least to the most recently read. -/
def silences (r : Roster) (now : Instant) : List (Ref × Duration) :=
  r.table.refs.filterMap fun ref => (r.pool.get? ref).map fun c => (ref, c.idle now)

/-- All live connections that have been silent for longer than a span, from the least to the most
recently read. -/
def scan (r : Roster) (now : Instant) (timeout : Duration) : List Ref :=
  ((r.silences now).filter fun silence => timeout.nanos < silence.2.nanos).map (·.1)

/-! ## What a scan finds -/

/-- A scan finds those of the table that are silent. -/
theorem scan_eq_filter (r : Roster) (now : Instant) (timeout : Duration) :
    r.scan now timeout = r.table.refs.filter (Table.isSilent r.pool now timeout) := by
  unfold scan silences
  generalize r.table.refs = refs
  induction refs with
  | nil => rfl
  | cons ref refs ih =>
    cases hget : r.pool.get? ref with
    | none =>
      have hsilent : Table.isSilent r.pool now timeout ref = false := by
        rw [Table.isSilent, hget]
      rw [List.filterMap_cons_none (by rw [hget]; rfl), List.filter_cons_of_neg (by simp [hsilent]),
        ih]
    | some c =>
      have hsilent : Table.isSilent r.pool now timeout ref =
          decide (timeout.nanos < (c.idle now).nanos) := by
        rw [Table.isSilent, hget]
      rw [List.filterMap_cons_some (by rw [hget]; rfl), List.filter_cons, List.filter_cons, hsilent]
      -- The connection at the head is found by both, or by neither.
      by_cases hlt : timeout.nanos < (c.idle now).nanos
      · simp only [hlt, decide_true, if_true, List.map_cons, ih]
      · simp only [hlt, decide_false, Bool.false_eq_true, if_false, ih]

/-- A connection that a scan finds has been silent for longer than the span. -/
theorem lt_of_mem_scan {now : Instant} {timeout d : Duration} {ref : Ref}
    (hmem : ref ∈ r.scan now timeout) (hd : (ref, d) ∈ r.silences now) :
    timeout.nanos < d.nanos := by
  obtain ⟨⟨ref', d'⟩, hfound, (rfl : ref' = ref)⟩ := List.mem_map.mp hmem
  obtain ⟨hd', hlt⟩ := List.mem_filter.mp hfound
  -- Both spans are those of the one connection behind the reference.
  obtain ⟨_, -, hspan⟩ := List.mem_filterMap.mp hd
  obtain ⟨_, -, hspan'⟩ := List.mem_filterMap.mp hd'
  obtain ⟨c, hc, heq⟩ := Option.map_eq_some_iff.mp hspan
  obtain ⟨c', hc', heq'⟩ := Option.map_eq_some_iff.mp hspan'
  obtain ⟨rfl, rfl⟩ := Prod.mk.inj heq
  obtain ⟨rfl, rfl⟩ := Prod.mk.inj heq'
  obtain rfl := Option.some.inj (hc.symm.trans hc')
  exact of_decide_eq_true hlt

namespace Simulates

/-- A roster has a silence for each connection of its table. -/
theorem map_silences (h : Simulates r l) (now : Instant) :
    (r.silences now).map (·.1) = r.table.refs := by
  have hrefs : r.table.refs = l.live.map (·.2) := by
    rw [Table.refs, h.toList]
  unfold silences
  rw [List.map_filterMap]
  conv_rhs => rw [← List.filterMap_some (l := r.table.refs)]
  apply List.filterMap_congr
  intro ref hmem
  rw [hrefs] at hmem
  obtain ⟨⟨id, _⟩, hlive, rfl⟩ := List.mem_map.mp hmem
  obtain ⟨c, hc, -⟩ := h.numbered hlive
  rw [h.connections, hc]
  rfl

/-! ## The order of last reads -/

/-- A connection that is read from now is put behind all others, which were read from earlier. -/
theorem ascends_append (h : Simulates r l) {now now' : Instant} {ref : Ref} {c : Connection}
    (hascends : r.pool.Ascends now (l.live.map (·.2))) (hc : l.connections ref = some c)
    (hle : now.nanos ≤ now'.nanos) :
    (r.pool.modify ref (·.stamp now')).Ascends now'
      ((l.append c.id ref now').live.map (·.2)) := by
  have hthere : r.pool.get? ref ≠ none := by
    rw [h.connections, hc]
    exact Option.some_ne_none c
  unfold Listing.append
  dsimp only
  rw [List.map_append, List.map_singleton]
  apply Pool.Ascends.append
  · -- The others have kept their order and the moments of their last reads.
    have hothers : ((l.without c.id).map (·.2)).Sublist (l.live.map (·.2)) :=
      List.filter_sublist.map _
    apply (hascends.sublist hothers).congr _ hle
    intro ref' hmem
    have hne : ref' ≠ ref := fun heq => h.notMem_without_id hc (heq ▸ hmem)
    rw [Pool.activity_stamp hthere, if_neg hne]
  · rw [Pool.activity_stamp hthere, if_pos rfl]

/-- One query keeps the order, if its moment is no earlier than those before. -/
theorem ascends_ask (h : Simulates r l) {now : Instant}
    (hascends : r.pool.Ascends now (l.live.map (·.2))) (query : Query)
    (hle : ∀ t ∈ query.moment?, now.nanos ≤ t.nanos) :
    (r.ask query).2.pool.Ascends (query.moment?.getD now) ((l.ask query).2.live.map (·.2)) := by
  cases query with
  | insert ref t =>
    have hnow : now.nanos ≤ t.nanos := hle t rfl
    cases hc : l.connections ref with
    | none =>
      simp only [Roster.ask, Listing.ask, h.insert_none hc, hc]
      exact hascends.congr (fun _ _ => rfl) hnow
    | some c =>
      simp only [Roster.ask, Listing.ask, h.insert_some hc, hc]
      exact h.ascends_append hascends hc hnow
  | remove id => exact hascends.sublist (List.filter_sublist.map _)
  | touch id t =>
    have hnow : now.nanos ≤ t.nanos := hle t rfl
    cases hlookup : l.live.lookup id with
    | none =>
      simp only [Roster.ask, Listing.ask, h.touch_none hlookup, hlookup]
      exact hascends.congr (fun _ _ => rfl) hnow
    | some ref =>
      obtain ⟨c, hc, rfl⟩ := h.exists_connection hlookup
      simp only [Roster.ask, Listing.ask, h.touch_some hlookup, hlookup]
      exact h.ascends_append hascends hc hnow
  | get id => exact hascends

/-- Queries whose moments never go back keep the order. -/
theorem ascends_run (h : Simulates r l) {now : Instant}
    (hascends : r.pool.Ascends now (l.live.map (·.2))) {queries : List Query}
    (htimely : Query.Timely queries)
    (hle : ∀ t ∈ queries.filterMap Query.moment?, now.nanos ≤ t.nanos) :
    ∃ last, (Query.run Roster.ask r queries).2.pool.Ascends last
      ((Query.run Listing.ask l queries).2.live.map (·.2)) := by
  -- The state and the moment that no read is later than change with each query.
  induction queries generalizing r l now with
  | nil => exact ⟨now, hascends⟩
  | cons query queries ih =>
    have hquery : ∀ t ∈ query.moment?, now.nanos ≤ t.nanos := by
      intro t ht
      apply hle
      rw [List.filterMap_cons_some ht]
      exact List.mem_cons_self
    have hnext := h.ascends_ask hascends query hquery
    unfold Query.Timely at htimely
    cases hmoment : query.moment? with
    | none =>
      rw [hmoment] at hnext
      rw [List.filterMap_cons_none hmoment] at htimely hle
      exact ih (h.ask query).2 hnext htimely hle
    | some t =>
      rw [hmoment] at hnext
      rw [List.filterMap_cons_some hmoment] at htimely
      obtain ⟨hlater, hrest⟩ := List.pairwise_cons.mp htimely
      exact ih (h.ask query).2 hnext hrest hlater

end Simulates

/-! ## The sweep -/

/-- After any queries at moments that never go back, the sweep finds the connections that a scan of
the whole table finds, whatever the moment and the span: each live connection has its silence in the
scan, one that has been silent for exactly the span is not found, and those that are found are still
at the head of the table. -/
theorem expired_eq_scan (pool : Pool) (queries : List Query) (htimely : Query.Timely queries)
    (now : Instant) (timeout : Duration) :
    let r := (Query.run Roster.ask { pool } queries).2
    r.expired now timeout = r.scan now timeout ∧
      (r.silences now).map (·.1) = r.table.refs ∧
      (∀ ref, (ref, timeout) ∈ r.silences now → ref ∉ r.expired now timeout) ∧
      r.expired now timeout <+: r.table.refs := by
  intro r
  have hsim : Simulates r (Query.run Listing.ask (.start pool) queries).2 :=
    ((Simulates.start pool).run queries).2
  have hstart : pool.Ascends .zero [] := .nil
  obtain ⟨last, hascends⟩ := (Simulates.start pool).ascends_run hstart htimely
    fun t _ => Nat.zero_le t.nanos
  rw [← hsim.toList] at hascends
  have hscan : r.expired now timeout = r.scan now timeout := by
    rw [scan_eq_filter]
    exact Table.expired_eq_filter hascends now timeout
  refine ⟨hscan, hsim.map_silences now, fun ref hexact hfound => ?_, List.takeWhile_prefix _⟩
  rw [hscan] at hfound
  exact Nat.lt_irrefl _ (lt_of_mem_scan hfound hexact)

/-- Connections of the same number, and one more. -/
def sharedNumbers : Pool :=
  let peer : Endpoint := .unspecifiedV4
  ((({} : Pool).set 1 (.new 7 peer 0 .zero)).set 2 (.new 7 peer 0 .zero)).set 3
    (.new 8 peer 0 .zero)

/-- A connection that comes back after another one took its number, and one that was asked for in
vain: of the two that are left, the sweep finds the one that has been silent for longer than the
span, not the one that has been silent for exactly that. -/
theorem expired_eq_scan_come_back :
    let queries : List Query := [.insert 1 ⟨2⟩, .insert 3 ⟨3⟩, .insert 2 ⟨3⟩, .touch 9 ⟨4⟩,
      .remove 7, .insert 1 ⟨5⟩]
    let r := (Query.run Roster.ask { pool := sharedNumbers } queries).2
    Query.Timely queries ∧ r.silences ⟨9⟩ = [(3, ⟨6⟩), (1, ⟨4⟩)] ∧ r.expired ⟨9⟩ ⟨4⟩ = [3] ∧
      1 ∉ r.expired ⟨9⟩ ⟨4⟩ := by
  intro queries r
  have htimely : Query.Timely queries := by decide
  have hsilences : r.silences ⟨9⟩ = [(3, ⟨6⟩), (1, ⟨4⟩)] := by decide +kernel
  obtain ⟨hscan, -, hexact, -⟩ := expired_eq_scan sharedNumbers queries htimely ⟨9⟩ ⟨4⟩
  refine ⟨htimely, hsilences, ?_, hexact 1 ?_⟩
  · rw [hscan, scan, hsilences]
    rfl
  · rw [hsilences]
    decide

end Roster

end NetSession
