import Mathlib.Data.List.Basic
import Mathlib.Tactic.SplitIfs
import NetSession.Datagram.Transport

/-!
# What is handed to a transport

`handed` are the datagrams that a transport was given to send and took, in order. They wait in its
outbox until its task writes them or ends. A transport whose handler does nothing sends nothing of
its own accord (`Passive`). Whatever its task does and whatever arrives, nothing is added to what
was handed over, and while it runs, all of that waits but what was written (`Passive.step`).
-/

namespace NetSession

/-- The datagram that a transport took when this happened. -/
def Datagram.Happening.taken? : Datagram.Happening → Option Datagram
  | .sent datagram true => some datagram
  | _ => none

namespace Transport

open Datagram

section

variable {σ : Type} (t : Transport σ)

/-- The datagrams that were handed over, in order. -/
def handed : List Datagram := t.trace.filterMap Happening.taken?

theorem handed_note (e : Happening) : (t.note e).handed = t.handed ++ e.taken?.toList := by
  simp only [handed, note, List.filterMap_append, List.filterMap_cons, List.filterMap_nil]
  cases e.taken? <;> rfl

/-- A datagram is taken exactly while the task runs, and then it is queued last. -/
theorem send_eq (datagram : Datagram) :
    t.send datagram = (t.running, { t with
      outbox := t.outbox ++ if t.running then [datagram] else []
      trace := t.trace ++ [.sent datagram t.running] }) := by
  unfold send enqueue
  cases hrunning : t.running with
  | true => simp [note]
  | false => simp [note, hrunning]

end

/-- Whether a move is someone's sending. -/
def Move.sends : Move → Bool
  | .send _ => true
  | _ => false

/-- How many datagrams are written in a move. -/
def Move.writes : Move → Nat
  | .write _ => 1
  | _ => 0

/-- A transport that sends nothing of its own accord, and that has written so many datagrams. -/
structure Passive (t : Transport Unit) (written : Nat) : Prop where
  /-- Its handler does nothing. -/
  silent : t.handler = Handler.silent
  /-- Nothing was put off. -/
  delayed : t.delayed = []
  /-- Only what was handed over was written. -/
  written_le : written ≤ t.handed.length
  /-- The rest of it waits, in order. -/
  waiting : t.running = true → t.outbox = t.handed.drop written

/-- On the way from one state of a transport to another nothing was handed over to it. In the later
one it has written so many datagrams. -/
structure Undisturbed (t t' : Transport Unit) (written : Nat) : Prop where
  /-- It sends nothing of its own accord. -/
  passive : t'.Passive written
  /-- Nothing was added to what was handed over. -/
  handed : t'.handed = t.handed
  /-- A task that has ended does not start again. -/
  running : t'.running = true → t.running = true

theorem Undisturbed.trans {t t' t'' : Transport Unit} {written written' : Nat}
    (h : Undisturbed t t' written) (h' : Undisturbed t' t'' written') :
    Undisturbed t t'' written' where
  passive := h'.passive
  handed := h'.handed.trans h.handed
  running := h.running ∘ h'.running

namespace Passive

variable {t t' : Transport Unit} {written : Nat}

/-- A transport that was just started has written nothing. -/
theorem start (config : DatagramConfig) (address : Endpoint) (now : Instant) :
    (Transport.start config address Handler.silent () now).Passive 0 where
  silent := rfl
  delayed := rfl
  written_le := Nat.zero_le _
  waiting _ := rfl

/-- What is written down changes nothing, unless it is that a datagram was taken. -/
theorem note (h : t.Passive written) {e : Happening} (he : e.taken? = none) :
    Undisturbed t (t.note e) written := by
  have hhanded : (t.note e).handed = t.handed := by
    rw [handed_note, he]
    exact List.append_nil _
  exact
    { passive :=
        { silent := h.silent
          delayed := h.delayed
          written_le := by
            rw [hhanded]
            exact h.written_le
          waiting := by
            rw [hhanded]
            exact h.waiting }
      handed := hhanded
      running := id }

/-- What becomes of a datagram that was written changes nothing. -/
theorem fate (h : t.Passive written) (datagram : Datagram) (fate : Fate) :
    Undisturbed t (t.written datagram fate) written := by
  unfold Transport.written
  cases fate with
  | taken count =>
    dsimp only
    split_ifs
    · exact h.note rfl
    · exact ⟨h, rfl, id⟩
  | refused cause => exact h.note rfl

/-- The next datagram is written. -/
theorem write (h : t.Passive written) (hrunning : t.running = true) {datagram : Datagram}
    {rest : List Datagram} (houtbox : t.outbox = datagram :: rest) (fate : Fate) :
    Undisturbed t ({ t with outbox := rest : Transport Unit }.written datagram fate)
      (written + 1) := by
  have hdrop : t.handed.drop written = datagram :: rest := (h.waiting hrunning).symm.trans houtbox
  have hlt : written < t.handed.length := by
    have hlength := congrArg List.length hdrop
    rw [List.length_drop, List.length_cons] at hlength
    omega
  have hrest : { t with outbox := rest : Transport Unit }.Passive (written + 1) :=
    { silent := h.silent
      delayed := h.delayed
      written_le := hlt
      waiting := fun _ => by
        change rest = t.handed.drop (written + 1)
        rw [← List.tail_drop, hdrop, List.tail_cons] }
  have hqueue : Undisturbed t { t with outbox := rest } (written + 1) := ⟨hrest, rfl, id⟩
  exact hqueue.trans (hrest.fate datagram fate)

/-- The end of the task empties the outbox. -/
theorem stop (h : t.Passive written) : Undisturbed t t.stop written := by
  have hended : { t with running := false, outbox := [] : Transport Unit }.Passive written :=
    { silent := h.silent
      delayed := h.delayed
      written_le := h.written_le
      waiting := by simp }
  have hqueue : Undisturbed t { t with running := false, outbox := [] } written :=
    ⟨hended, rfl, by simp⟩
  exact hqueue.trans (hended.note rfl)

/-- Nothing is sent because of a datagram that arrives. -/
theorem receive (h : t.Passive written) (datagram : Datagram) :
    Undisturbed t (t.receive datagram) written := by
  by_cases hheld : t.isHeld = true
  · -- The handler is told of it and does nothing, so that only the call is written down.
    let data := datagram.data.take t.bufferSize
    have hcalled : t.receive datagram =
        t.note (.called ⟨{ datagram with data }, data.length = t.bufferSize⟩) := by
      rw [Transport.receive, if_pos hheld]
      simp only [Transport.note, h.silent, Handler.silent, Transport.perform]
      rfl
    rw [hcalled]
    exact h.note rfl
  · have hended : t.receive datagram = t.stop := if_neg hheld
    rw [hended]
    exact h.stop

/-- As long as nobody sends, nothing is handed over. -/
theorem step (h : t.Passive written) {move : Move} (hmove : move.sends = false)
    (hstep : t.step move = some t') : Undisturbed t t' (written + move.writes) := by
  cases move with
  | stop =>
    obtain ⟨-, ⟨⟩⟩ := Option.ite_none_right_eq_some.mp hstep
    exact h.stop
  | write fate =>
    unfold Transport.step at hstep
    dsimp only at hstep
    split at hstep
    · next datagram rest hrunning houtbox =>
      obtain rfl := Option.some.inj hstep
      exact h.write hrunning houtbox fate
    · contradiction
  | receive datagram =>
    obtain ⟨-, ⟨⟩⟩ := Option.ite_none_right_eq_some.mp hstep
    exact h.receive datagram
  | fail cause =>
    obtain ⟨-, ⟨⟩⟩ := Option.ite_none_right_eq_some.mp hstep
    exact h.note rfl
  | wake =>
    have hnone : t.due? = none := by simp [due?, earliest?, h.delayed]
    simp [Transport.step, hnone] at hstep
  | send datagram => contradiction
  -- The rest has to do with nothing that is sent.
  | clone | drop =>
    obtain ⟨-, ⟨⟩⟩ := Option.ite_none_right_eq_some.mp hstep
    exact ⟨⟨h.silent, h.delayed, h.written_le, h.waiting⟩, rfl, id⟩
  | shutdown | pass =>
    obtain rfl := Option.some.inj hstep
    exact ⟨⟨h.silent, h.delayed, h.written_le, h.waiting⟩, rfl, id⟩

/-- A datagram that someone sends is handed over if the task runs, and then waits last. -/
theorem send (h : t.Passive written) (datagram : Datagram) :
    (t.send datagram).2.Passive written ∧
      (t.send datagram).2.handed = t.handed ++ if t.running then [datagram] else [] := by
  have hhanded : (t.send datagram).2.handed =
      t.handed ++ if t.running then [datagram] else [] := by
    rw [send_eq]
    simp only [handed, List.filterMap_append, List.filterMap_cons, List.filterMap_nil]
    cases t.running <;> rfl
  refine ⟨⟨?_, ?_, ?_, ?_⟩, hhanded⟩
  · rw [send_eq]
    exact h.silent
  · rw [send_eq]
    exact h.delayed
  · rw [hhanded, List.length_append]
    exact Nat.le_add_right_of_le h.written_le
  · rw [hhanded, List.drop_append_of_le_length h.written_le, send_eq]
    intro hrunning
    dsimp only at hrunning ⊢
    rw [h.waiting hrunning]

end Passive

end Transport

end NetSession
