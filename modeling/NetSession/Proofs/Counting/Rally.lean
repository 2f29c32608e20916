import NetSession.Proofs.Counting.Numbers
import NetSession.Proofs.Datagram.Exchange
import NetSession.Tool.Counter

/-!
# Counting back and forth

Two parties that count with each other hear the numbers from the first one on in turn, each once,
up to the last number of 64 bits, which nobody answers (`counts_on`). At any time there is a
single datagram on its way, the one with the next number (`Rally`), because a party that hears it
owes the other its answer and nothing else (`sends_handler`).
-/

namespace NetSession

/-- The side whose turn it is, if one side begins. -/
def Side.turn (first : Side) : Nat → Side
  | 0 => first
  | k + 1 => (first.turn k).other

/-- What the counting tool sends about a datagram: the next number, to where it came from. -/
theorem Tool.Counter.sends_handler (callback : Datagram.Callback) :
    (handler callback ()).sends = ((Counting.next? callback.datagram.data).map fun n =>
      (⟨callback.datagram.peer, Counting.datagram n⟩ : Datagram)).toList := by
  obtain ⟨⟨peer, data⟩, filled⟩ := callback
  unfold handler
  dsimp only
  cases Counting.next? data <;> cases filled <;> rfl

namespace Counting

open Decimal (bound64)

/-- What is heard after `k` others, if the first datagram holds `n`. -/
def volley (data : Bytes) (n k : Nat) : Bytes := if k = 0 then data else datagram (n + k)

/-- It holds the number that is as much higher. -/
theorem holds_volley {data : Bytes} {n : Nat} (h : Holds n data) (k : Nat) :
    Holds (n + k) (volley data n k) := by
  unfold volley
  split_ifs with hk
  · rwa [hk]
  · exact holds_datagram (n + k)

/-- It fits into a buffer for the first datagram and any number of 64 bits. -/
theorem length_volley_le {data : Bytes} {n k : Nat} (h : n + k < bound64) :
    (volley data n k).length ≤ max 20 data.length := by
  unfold volley
  split_ifs with hk
  · exact Nat.le_max_right _ _
  · exact Nat.le_trans (length_datagram_le h) (Nat.le_max_left _ _)

/-- Two parties that count, with buffers that are large enough for the first datagram and any
number of 64 bits. -/
structure Counters (data : Bytes) (x : Exchange Unit) : Prop where
  /-- Both parties are up. -/
  sound : x.Sound
  /-- They count. -/
  handler : ∀ s, (x.party s).handler = Tool.Counter.handler
  /-- Their buffers are large enough. -/
  buffer : ∀ s, max 20 data.length ≤ (x.party s).bufferSize

/-- They stay that in every step. -/
theorem Counters.follows {data : Bytes} {x x' : Exchange Unit} (h : Counters data x)
    (hfollows : x.Follows x') : Counters data x' where
  sound := hfollows.sound
  handler s := (hfollows.party s).handler.trans (h.handler s)
  buffer s := by
    rw [(hfollows.party s).bufferSize]
    exact h.buffer s

/-- A rally that began with a datagram that holds `n`. -/
structure Rally (data : Bytes) (n : Nat) (first : Side) (x : Exchange Unit) : Prop
    extends Counters data x where
  /-- Only numbers of 64 bits were heard. -/
  bound : n + x.heard.length ≤ bound64
  /-- They were heard in order, in turn. -/
  heard : x.heard =
    (List.range x.heard.length).map fun k => (first.turn k, volley data n k)
  /-- What is on its way is the next number, as long as there is one. -/
  toward : ∀ s, x.toward s =
    if s = first.turn x.heard.length ∧ n + x.heard.length < bound64 then
      [⟨x.address s, volley data n x.heard.length⟩]
    else []

namespace Rally

variable {data : Bytes} {n : Nat} {first : Side} {x x' : Exchange Unit}

/-- The datagram on its way is answered with the next one. -/
theorem sends_answer (hholds : Holds n data) {k : Nat} (hk : n + k < bound64) (peer : Endpoint)
    (filled : Bool) :
    (Tool.Counter.handler ⟨⟨peer, volley data n k⟩, filled⟩ ()).sends =
      if n + (k + 1) < bound64 then [⟨peer, volley data n (k + 1)⟩] else [] := by
  rw [Tool.Counter.sends_handler, next?_of_holds (holds_volley hholds k) hk, ← Nat.add_assoc]
  split_ifs <;> rfl

/-- One datagram or none has only one order. -/
theorem eq_of_perm_ite {p : Prop} [Decidable p] {datagram : Datagram} {l : List Datagram}
    (h : l.Perm (if p then [datagram] else [])) : l = if p then [datagram] else [] := by
  split_ifs at h ⊢
  · exact List.perm_singleton.mp h
  · exact List.perm_nil.mp h

/-- The one side hears what is on its way, and the other side's turn comes. -/
theorem hear (hholds : Holds n data) (h : Rally data n first x) {s : Side} {heard : Bytes}
    (hfollows : x.Follows x')
    (hheard : x'.heard = x.heard ++ [(s, ((x.party s).told (x.arriving s heard)).datagram.data)])
    (htoward : (x.toward s).Perm (⟨x.address s, heard⟩ :: x'.toward s))
    (hsends : (x'.toward s.other).Perm (x.toward s.other ++
      ((x.party s).handler ((x.party s).told (x.arriving s heard)) (x.party s).memory).sends)) :
    Rally data n first x' := by
  generalize hk : x.heard.length = k at *
  -- It is this side's turn, and what it hears is the next number.
  have hnext : (s = first.turn k ∧ n + k < bound64) ∧ heard = volley data n k ∧
      x'.toward s = [] := by
    rw [h.toward s, hk] at htoward
    split_ifs at htoward with hturn
    · obtain ⟨hdatagram, hnil⟩ := List.cons.inj (List.perm_singleton.mp htoward.symm)
      exact ⟨hturn, congrArg Datagram.data hdatagram, hnil⟩
    · exact absurd htoward.symm (by simp)
  obtain ⟨⟨hturn, hlt⟩, rfl, hself⟩ := hnext
  have hfits : (x.arriving s (volley data n k)).data.length ≤ (x.party s).bufferSize :=
    Nat.le_trans (length_volley_le hlt) (h.buffer s)
  rw [Transport.told_of_length_le hfits] at hheard hsends
  have hcount : x'.heard.length = k + 1 := by
    rw [hheard, List.length_append, hk, List.length_singleton]
  -- Nothing was on its way to the other side but the answer.
  have hother : x'.toward s.other =
      if n + (k + 1) < bound64 then [⟨x.address s.other, volley data n (k + 1)⟩] else [] := by
    rw [h.toward s.other, hk, if_neg fun hs => s.other_ne (hs.1.trans hturn.symm),
      List.nil_append, h.handler, Exchange.arriving, sends_answer hholds hlt] at hsends
    exact eq_of_perm_ite hsends
  have hturns : first.turn (k + 1) = s.other := by rw [Side.turn, hturn]
  exact
    { toCounters := h.toCounters.follows hfollows
      bound := by
        rw [hcount]
        exact hlt
      heard := by
        rw [hcount, List.range_succ, List.map_append, ← hk, ← h.heard, hheard, hturn, hk]
        rfl
      toward := fun s' => by
        rw [hcount, hturns, hfollows.address]
        obtain rfl | rfl := s.eq_or_other_eq s'
        · rw [hself, if_neg fun hs => s.ne_other hs.1]
        · simp only [hother, true_and] }

/-- Every step keeps the rally. -/
theorem step (hholds : Holds n data) (h : Rally data n first x) {move : Exchange.Move}
    (hstep : x.step move = some x') : Rally data n first x' := by
  have hfollows := Exchange.follows_of_step h.sound hstep
  cases hfollows.change with
  | quiet hheard htoward =>
    exact
      { toCounters := h.toCounters.follows hfollows
        bound := by
          rw [hheard]
          exact h.bound
        heard := by
          rw [hheard]
          exact h.heard
        toward := fun s => by
          rw [hheard, hfollows.address]
          exact eq_of_perm_ite (h.toward s ▸ htoward s) }
  | astray s datagram hmem hpeer =>
    -- All that is on its way is addressed to one of them.
    rw [h.toward s] at hmem
    split_ifs at hmem
    · exact absurd (congrArg Datagram.peer (List.mem_singleton.mp hmem)) hpeer
    · exact absurd hmem List.not_mem_nil
  | hear s heard hheard htoward hsends => exact h.hear hholds hfollows hheard htoward hsends

/-- So does every run. -/
theorem run (hholds : Holds n data) (h : Rally data n first x) {moves : List Exchange.Move}
    (hrun : x.run moves = some x') : Rally data n first x' := by
  induction moves generalizing x with
  | nil =>
    obtain rfl := Option.some.inj hrun
    exact h
  | cons move moves ih =>
    obtain ⟨x₁, hstep, hrest⟩ := Option.bind_eq_some_iff.mp hrun
    exact ih (h.step hholds hstep) hrest

/-- The last number of 64 bits can be reached. -/
theorem exists_last (hholds : Holds n data) (h : Rally data n first x) :
    ∃ moves x', x.run moves = some x' ∧ n + x'.heard.length = bound64 := by
  -- With every number that is heard, fewer are left.
  induction hleft : bound64 - (n + x.heard.length) generalizing x with
  | zero => exact ⟨[], x, rfl, Nat.le_antisymm h.bound (Nat.sub_eq_zero_iff_le.mp hleft)⟩
  | succ left ih =>
    have hlt : n + x.heard.length < bound64 := Nat.lt_of_sub_eq_succ hleft
    have htoward := h.toward (first.turn x.heard.length)
    rw [if_pos ⟨rfl, hlt⟩] at htoward
    obtain ⟨moves, x₁, hrun, hheard⟩ := Exchange.exists_hears h.sound htoward
    obtain ⟨rest, x', hrest, hlast⟩ := ih (h.run hholds hrun) (by omega)
    exact ⟨moves ++ rest, x', by rw [Exchange.run_append, hrun, Option.bind_some, hrest], hlast⟩

end Rally

/-- Two transports of the counting tool, and a first datagram on its way to one of them. -/
def opening (address bound : Side → Endpoint) (config : Side → DatagramConfig)
    (now : Side → Instant) (first : Side) (data : Bytes) : Exchange Unit where
  address := address
  party s := Transport.start (config s) (bound s) Tool.Counter.handler () (now s)
  underway s := if s = first then [data] else []
  heard := []

/-- That is the beginning of a rally, if the buffers are large enough. -/
theorem rally_opening {address bound : Side → Endpoint} {config : Side → DatagramConfig}
    {now : Side → Instant} {first : Side} {data : Bytes} {n : Nat} (hn : n < bound64)
    (hbuffer : ∀ s, max 20 data.length ≤ (config s).recvBufferSize) :
    Rally data n first (opening address bound config now first data) where
  sound := ⟨fun _ => Transport.up_start .., fun _ => rfl⟩
  handler _ := rfl
  buffer s := Nat.le_trans (hbuffer s) (Nat.le_max_left _ _)
  bound := Nat.le_of_lt hn
  heard := rfl
  toward s := by
    have howed : ((opening address bound config now first data).party s.other).owed = [] :=
      Transport.owed_start ..
    rw [Exchange.toward, howed, List.append_nil]
    by_cases hs : s = first
    · subst hs
      simp [opening, Side.turn, hn, volley]
    · simp [opening, Side.turn, hs]

/-- A datagram is answered exactly if it holds a number that has a next one of 64 bits, and the
answer is that one; so it is never zero, and the number before it was received. From there on each
answer is answered with the next number, except for the last one of 64 bits. Two transports that
begin with such a datagram hear these numbers in turn, each once, whatever the order of their moves.
Nothing but the next number is ever on its way, and the last one can be reached from everywhere. -/
theorem counts_on (data : Bytes) :
    (∀ m, next? data = some m ↔ ∃ n, Holds n data ∧ n + 1 < bound64 ∧ m = n + 1) ∧
    (∀ m, next? data = some m → 0 < m ∧ Holds (m - 1) data) ∧
    ∀ n, Holds n data → n + 1 < bound64 →
      (∀ k, n + k < bound64 → next? (volley data n k) =
        if n + k + 1 < bound64 then some (n + k + 1) else none) ∧
      ∀ (address bound : Side → Endpoint) (config : Side → DatagramConfig) (now : Side → Instant)
        (first : Side), (∀ s, max 20 data.length ≤ (config s).recvBufferSize) →
      ∀ moves x, (opening address bound config now first data).run moves = some x →
        x.heard = (List.range x.heard.length).map (fun k => (first.turn k, volley data n k)) ∧
        (∀ s, (x.party s).calls.map (·.datagram.data) = x.heardBy s) ∧
        n + x.heard.length ≤ bound64 ∧
        (∀ s, x.toward s =
          if s = first.turn x.heard.length ∧ n + x.heard.length < bound64 then
            [⟨address s, volley data n x.heard.length⟩]
          else []) ∧
        ∃ rest x', x.run rest = some x' ∧ n + x'.heard.length = bound64 := by
  refine ⟨fun m => next?_eq_some_iff, fun m hm => ?_, ?_⟩
  · obtain ⟨n, hholds, -, rfl⟩ := next?_eq_some_iff.mp hm
    exact ⟨Nat.succ_pos n, hholds⟩
  · intro n hholds hn
    refine ⟨fun k hk => next?_of_holds (holds_volley hholds k) hk, ?_⟩
    intro address bound config now first hbuffer moves x hrun
    have hopening : Rally data n first (opening address bound config now first data) :=
      rally_opening (Nat.lt_of_succ_lt hn) hbuffer
    have hrally : Rally data n first x := hopening.run hholds hrun
    obtain ⟨hsound, haddress⟩ := hopening.sound.run hrun
    refine ⟨hrally.heard, hsound.calls, hrally.bound, fun s => ?_, hrally.exists_last hholds⟩
    rw [hrally.toward s, haddress]
    rfl

/-- Blanks, a sign, zeros in front and NULs behind are all allowed at the beginning. -/
theorem counts_on_from_forty_one :
    next? (Utf8.encode " +0041\x00\x00".toList) = some 42 ∧
      ∃ moves x, (opening (fun s => ⟨.v4 ⟨127, 0, 0, 1⟩, if s = .here then 4000 else 4001⟩)
          (fun s => ⟨.v4 ⟨0, 0, 0, 0⟩, if s = .here then 4000 else 4001⟩) (fun _ => {})
          (fun _ => .zero) .here (Utf8.encode " +0041\x00\x00".toList)).run moves = some x ∧
        41 + x.heard.length = bound64 := by
  have hnumeral : Decimal.Numeral 41 "+0041".toList :=
    .signed ⟨by decide, List.all_eq_true.mp (by decide), by decide⟩
  have hholds : Holds 41 (Utf8.encode " +0041\x00\x00".toList) := by
    change Holds 41 (Utf8.encode ([' '] ++ "+0041".toList ++ [] ++ List.replicate 2 '\x00'))
    exact .intro 2 (List.forall_mem_singleton.mpr (by decide)) hnumeral (by simp)
  obtain ⟨hnext, -, hrally⟩ := counts_on (Utf8.encode " +0041\x00\x00".toList)
  have hbound : 41 + 1 < bound64 := by decide
  refine ⟨(hnext 42).mpr ⟨41, hholds, hbound, rfl⟩, ?_⟩
  have hbuffer : ∀ _ : Side, max 20 (Utf8.encode " +0041\x00\x00".toList).length ≤ 65536 :=
    fun _ => by decide
  obtain ⟨-, -, -, -, moves, x, hrun, hlast⟩ :=
    (hrally 41 hholds hbound).2 _ _ (fun _ => {}) _ .here hbuffer [] _ rfl
  exact ⟨moves, x, hrun, hlast⟩

end Counting

end NetSession
