import Mathlib.Data.List.Basic
import Mathlib.Data.List.Perm.Basic
import NetSession.Proofs.Datagram.Handed

/-!
# What a transport owes the network

A transport that is up writes whatever it was given to send, in some order: what waits in its
outbox, and what its handler put off (`owed`). Time and what was put off change nothing of it but
the order (`Takes.quiet`), a datagram that is written was owed (`step_write`), and one that arrives
adds what the handler sends because of it (`Takes.receive`). On the way the transport stays up, and
its handler is called with what arrives and nothing else. All that is owed gets into the outbox, if
one waits long enough (`exists_quiet_run`).
-/

namespace NetSession

namespace Datagram

/-- What is sent later, if sending works. -/
def Task.sends : Task → List Datagram
  | .done => []
  | .send datagram next => datagram :: (next true).sends
  | .say _ next => next.sends

/-- What is sent about a datagram, at once or later, if sending works. -/
def Reaction.sends {τ : Type} : Reaction τ → List Datagram
  | .done _ => []
  | .send datagram next => datagram :: (next true).sends
  | .later _ task next => task.sends ++ next.sends
  | .print _ next => next.sends
  | .say _ next => next.sends

/-- What the handler was called with when this happened. -/
def Happening.called? : Happening → Option Callback
  | .called callback => some callback
  | _ => none

end Datagram

namespace Transport

open Datagram

variable {σ : Type}

/-- What was given to the transport to send and is not written yet. -/
def owed (t : Transport σ) : List Datagram := t.outbox ++ t.delayed.flatMap (·.2.sends)

/-- What the handler was called with, in order. -/
def calls (t : Transport σ) : List Callback := t.trace.filterMap Happening.called?

/-- The task runs, and someone holds the transport. -/
structure Up (t : Transport σ) : Prop where
  /-- The task runs. -/
  running : t.running = true
  /-- Someone holds it. -/
  held : 0 < t.holders

/-- The transport stays up, with the same handler and configuration. -/
structure Stays (t t' : Transport σ) : Prop where
  /-- The handler is the same. -/
  handler : t'.handler = t.handler
  /-- So is the configuration. -/
  config : t'.config = t.config
  /-- It stays up. -/
  up : t.Up → t'.Up

/-- The transport takes over some more to send, and its handler is called. -/
structure Takes (t t' : Transport σ) (more : List Datagram) (called : List Callback) : Prop
    extends Stays t t' where
  /-- More is owed. -/
  owed : t'.owed.Perm (t.owed ++ more)
  /-- The handler was called. -/
  calls : t'.calls = t.calls ++ called

variable {t t' : Transport σ}

/-- As long as the task runs, sending works. -/
theorem send_of_running (hrunning : t.running = true) (datagram : Datagram) :
    t.send datagram = (true, { t with
      outbox := t.outbox ++ [datagram]
      trace := t.trace ++ [.sent datagram true] }) := by
  rw [send_eq, hrunning, if_pos rfl]

theorem calls_note (e : Happening) : (t.note e).calls = t.calls ++ e.called?.toList := by
  simp only [calls, note, List.filterMap_append, List.filterMap_cons, List.filterMap_nil]
  cases e.called? <;> rfl

/-- A transport that was just started is up. -/
theorem up_start (config : DatagramConfig) (address : Endpoint) (handler : Handler σ) (memory : σ)
    (now : Instant) : (start config address handler memory now).Up :=
  ⟨rfl, Nat.one_pos⟩

/-- It owes nothing. -/
theorem owed_start (config : DatagramConfig) (address : Endpoint) (handler : Handler σ)
    (memory : σ) (now : Instant) : (start config address handler memory now).owed = [] := rfl

/-- It does if nothing changes that matters for that. -/
theorem Stays.of_eq (hhandler : t'.handler = t.handler) (hconfig : t'.config = t.config)
    (hrunning : t'.running = t.running) (hholders : t'.holders = t.holders) : Stays t t' where
  handler := hhandler
  config := hconfig
  up h := ⟨hrunning.trans h.running, hholders ▸ h.held⟩

theorem Stays.refl (t : Transport σ) : Stays t t := .of_eq rfl rfl rfl rfl

theorem Stays.bufferSize (h : Stays t t') : t'.bufferSize = t.bufferSize := by
  rw [Transport.bufferSize, Transport.bufferSize, h.config]

namespace Takes

theorem refl (t : Transport σ) : Takes t t [] [] where
  toStays := .refl t
  owed := by rw [List.append_nil]
  calls := (List.append_nil _).symm

theorem trans {t'' : Transport σ} {more more' : List Datagram} {called called' : List Callback}
    (h : Takes t t' more called) (h' : Takes t' t'' more' called') :
    Takes t t'' (more ++ more') (called ++ called') where
  handler := h'.handler.trans h.handler
  config := h'.config.trans h.config
  up := h'.up ∘ h.up
  owed := by
    rw [← List.append_assoc]
    exact h'.owed.trans (h.owed.append_right more')
  calls := by rw [h'.calls, h.calls, List.append_assoc]

theorem note (t : Transport σ) (e : Happening) : Takes t (t.note e) [] e.called?.toList where
  toStays := .of_eq rfl rfl rfl rfl
  owed := by
    rw [List.append_nil]
    exact List.Perm.refl _
  calls := calls_note e

/-- What is sent is owed. -/
theorem send (hrunning : t.running = true) (datagram : Datagram) :
    Takes t (t.send datagram).2 [datagram] [] := by
  rw [send_of_running hrunning]
  exact
    { toStays := .of_eq rfl rfl rfl rfl
      owed := by
        simp only [Transport.owed, List.append_assoc]
        exact List.perm_append_comm.append_left t.outbox
      calls := calls_note (.sent datagram true) }

/-- So is what is put off. -/
theorem later (t : Transport σ) (moment : Instant) (task : Task) :
    Takes t { t with delayed := t.delayed ++ [(moment, task)] } task.sends [] where
  toStays := .of_eq rfl rfl rfl rfl
  owed := by simp [Transport.owed]
  calls := (List.append_nil _).symm

/-- What a reaction sends is owed from then on. -/
theorem perform {τ : Type} (hup : t.Up) (reaction : Reaction τ) :
    Takes t (t.perform reaction).2 reaction.sends [] := by
  induction reaction generalizing t with
  | done value => exact refl t
  | send datagram next ih =>
    have hsend := send hup.running datagram
    rw [send_of_running hup.running] at hsend
    rw [Transport.perform, send_of_running hup.running]
    exact hsend.trans (ih true (hsend.up hup))
  | later delay task next ih =>
    have hlater := later t (t.now.after delay) task
    exact hlater.trans (ih (hlater.up hup))
  | print line next ih =>
    have hnote := note t (.printed line)
    exact hnote.trans (ih (hnote.up hup))
  | say notice next ih =>
    have hnote := note t (.said notice)
    exact hnote.trans (ih (hnote.up hup))

end Takes

/-- What is done later goes to the end of the outbox. -/
theorem performTask_eq (hrunning : t.running = true) (task : Task) :
    ∃ trace, t.performTask task =
        { t with outbox := t.outbox ++ task.sends, trace := t.trace ++ trace } ∧
      trace.filterMap Happening.called? = [] := by
  induction task generalizing t with
  | done => exact ⟨[], by simp [performTask, Task.sends], rfl⟩
  | send datagram next ih =>
    obtain ⟨trace, heq, hcalls⟩ := ih true (t := { t with
      outbox := t.outbox ++ [datagram]
      trace := t.trace ++ [.sent datagram true] }) hrunning
    refine ⟨.sent datagram true :: trace, ?_, hcalls⟩
    rw [performTask, send_of_running hrunning]
    dsimp only
    rw [heq]
    simp [Task.sends]
  | say notice next ih =>
    obtain ⟨trace, heq, hcalls⟩ := ih (t := t.note (.said notice)) hrunning
    refine ⟨.said notice :: trace, ?_, hcalls⟩
    rw [performTask, heq]
    simp [note, Task.sends]

/-! ## What was put off -/

/-- A list is one of its entries and the rest of it, in some order. -/
theorem perm_cons_eraseIdx {α : Type} {l : List α} {i : Nat} {a : α} (h : l[i]? = some a) :
    l.Perm (a :: l.eraseIdx i) := by
  obtain ⟨hi, rfl⟩ := List.getElem?_eq_some_iff.mp h
  exact (List.getElem_cons_eraseIdx_perm hi).symm

/-- What is due was put off, and the rest of it stays. -/
theorem perm_of_due? {task : Task} {rest : List (Instant × Task)} (h : t.due? = some (task, rest)) :
    ∃ moment, t.delayed.Perm ((moment, task) :: rest) := by
  simp only [due?, Option.bind_eq_bind, Option.pure_def, Option.bind_none] at h
  obtain ⟨earliest, -, h⟩ := Option.bind_eq_some_iff.mp h
  split_ifs at h
  obtain ⟨i, -, h⟩ := Option.bind_eq_some_iff.mp h
  obtain ⟨⟨moment, _⟩, hentry, h⟩ := Option.bind_eq_some_iff.mp h
  obtain ⟨rfl, rfl⟩ := Prod.mk.inj (Option.some.inj h)
  exact ⟨moment, perm_cons_eraseIdx hentry⟩

/-- What is put off becomes due. -/
theorem exists_due (h : t.delayed ≠ []) : ∃ d task rest,
    { t with now := t.now.after d : Transport σ }.due? = some (task, rest) := by
  obtain ⟨nanos, hmin⟩ : ∃ nanos, (t.delayed.map (·.1.nanos)).min? = some nanos := by
    rw [← Option.isSome_iff_exists, Option.isSome_iff_ne_none, ne_eq, List.min?_eq_none_iff]
    simpa using h
  obtain ⟨entry, hentry, hnanos⟩ := List.mem_map.mp (List.min?_mem hmin)
  obtain ⟨i, hi⟩ : ∃ i, t.delayed.findIdx? (·.1 == ⟨nanos⟩) = some i := by
    rw [← Option.isSome_iff_exists, List.findIdx?_isSome, List.any_eq_true]
    exact ⟨entry, hentry, beq_iff_eq.mpr (by rw [← hnanos])⟩
  obtain ⟨hlt, -⟩ := List.findIdx?_eq_some_iff_getElem.mp hi
  refine ⟨⟨nanos⟩, t.delayed[i].2, t.delayed.eraseIdx i, ?_⟩
  have hlate : ¬ (t.now.after ⟨nanos⟩).nanos < nanos := by simp [Instant.after]
  simp [due?, earliest?, hmin, hlate, hi, hlt]

/-! ## Steps -/

/-- Whether a move is time that passes, something that was put off, or nothing that the network or
whoever holds the transport has to do with. -/
def Move.isQuiet : Move → Bool
  | .fail _ | .wake | .clone | .pass _ => true
  | _ => false

/-- Nothing of what is owed is lost or added by such a move. -/
theorem Takes.quiet (hup : t.Up) {move : Move} (hmove : move.isQuiet = true)
    (hstep : t.step move = some t') : Takes t t' [] [] := by
  cases move with
  | stop | write | receive | send | shutdown | drop => contradiction
  | fail cause =>
    obtain ⟨-, ⟨⟩⟩ := Option.ite_none_right_eq_some.mp hstep
    exact note t _
  | wake =>
    obtain ⟨⟨task, rest⟩, hdue, rfl⟩ := Option.map_eq_some_iff.mp hstep
    obtain ⟨trace, heq, hcalls⟩ := performTask_eq hup.running task
    obtain ⟨moment, hperm⟩ := perm_of_due? hdue
    dsimp only
    rw [heq]
    exact
      { toStays := .of_eq rfl rfl rfl rfl
        owed := by
          simp only [Transport.owed, List.append_assoc, List.append_nil]
          exact (hperm.flatMap_right fun entry => entry.2.sends).symm.append_left t.outbox
        calls := by simp [Transport.calls, hcalls] }
  | clone =>
    obtain ⟨-, ⟨⟩⟩ := Option.ite_none_right_eq_some.mp hstep
    exact
      { handler := rfl
        config := rfl
        up := fun h => ⟨h.running, Nat.lt_succ_of_lt h.held⟩
        owed := (refl t).owed
        calls := (refl t).calls }
  | pass d =>
    obtain rfl := Option.some.inj hstep
    exact
      { toStays := .of_eq rfl rfl rfl rfl
        owed := (refl t).owed
        calls := (refl t).calls }

/-- What the handler is told of a datagram. -/
def told (t : Transport σ) (datagram : Datagram) : Callback :=
  let data := datagram.data.take t.bufferSize
  ⟨{ datagram with data }, data.length = t.bufferSize⟩

/-- A datagram that fits into the buffer is told as it is. -/
theorem told_of_length_le {datagram : Datagram} (h : datagram.data.length ≤ t.bufferSize) :
    t.told datagram = ⟨datagram, datagram.data.length = t.bufferSize⟩ := by
  rw [told, List.take_of_length_le h]

/-- The handler is told of a datagram that arrives, and what it sends because of it is owed. -/
theorem Takes.receive (hup : t.Up) (datagram : Datagram) :
    Takes t (t.receive datagram) (t.handler (t.told datagram) t.memory).sends
      [t.told datagram] := by
  have hheld : t.isHeld = true := decide_eq_true (Nat.lt_add_right _ hup.held)
  have hcalled := note t (.called (t.told datagram))
  have h := hcalled.trans (perform (hcalled.up hup) (t.handler (t.told datagram) t.memory))
  rw [Transport.receive, if_pos hheld]
  -- What the handler remembers has nothing to do with any of this.
  exact
    { handler := h.handler
      config := h.config
      up := fun hup => ⟨(h.up hup).running, (h.up hup).held⟩
      owed := h.owed
      calls := h.calls }

/-- A datagram is written next if it is the first in the outbox. -/
theorem next?_eq_some_iff {datagram : Datagram} :
    t.next? = some datagram ↔ t.running = true ∧ ∃ rest, t.outbox = datagram :: rest := by
  rw [next?, Option.ite_none_right_eq_some, List.head?_eq_some_iff]

/-- What is written whole is out of the outbox. -/
theorem step_write {datagram : Datagram} {rest : List Datagram} (hrunning : t.running = true)
    (houtbox : t.outbox = datagram :: rest) :
    t.step (.write (.taken datagram.data.length)) = some { t with outbox := rest } := by
  cases t
  obtain rfl := hrunning
  obtain rfl := houtbox
  exact congrArg some (if_neg (Nat.lt_irrefl _))

/-! ## What can be done -/

/-- All that was put off is done, if one waits long enough. -/
theorem exists_quiet_run (hup : t.Up) : ∃ moves t', t.run moves = some t' ∧
    (∀ move ∈ moves, move.isQuiet = true) ∧ Takes t t' [] [] ∧ t'.delayed = [] := by
  -- Whenever something is due, less is left.
  induction hcount : t.delayed.length using Nat.strongRecOn generalizing t with
  | ind count ih =>
    by_cases hnil : t.delayed = []
    · exact ⟨[], t, rfl, by simp, .refl t, hnil⟩
    · obtain ⟨d, task, rest, hdue⟩ := exists_due hnil
      have hpassed : t.step (.pass d) = some { t with now := t.now.after d } := rfl
      have hpass := Takes.quiet hup rfl hpassed
      have hwake : { t with now := t.now.after d : Transport σ }.step .wake =
          some { { t with now := t.now.after d : Transport σ }.performTask task with
            delayed := rest } := by
        rw [step, hdue]
        rfl
      have htakes := hpass.trans (.quiet (hpass.up hup) rfl hwake)
      obtain ⟨moment, hperm⟩ := perm_of_due? hdue
      have hless : rest.length < count := by
        rw [← hcount, show t.delayed.length = _ from hperm.length_eq, List.length_cons]
        exact Nat.lt_succ_self _
      obtain ⟨moves, t', hrun, hquiet, hrest, hdone⟩ := ih rest.length hless (htakes.up hup) rfl
      refine ⟨.pass d :: .wake :: moves, t', ?_, ?_, htakes.trans hrest, hdone⟩
      · rw [run, step, Option.bind_some, run, hwake, Option.bind_some, hrun]
      · rw [List.forall_mem_cons, List.forall_mem_cons]
        exact ⟨rfl, rfl, hquiet⟩

end Transport

end NetSession
