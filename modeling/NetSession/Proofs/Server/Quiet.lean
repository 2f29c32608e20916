import NetSession.Proofs.Connection.Order
import NetSession.Proofs.Connection.Pool
import NetSession.Proofs.Server.Machine

/-!
# What does not matter to closing

How far a connection is on its way to be closed shows in few places: whether it is marked as closing
and whether the signal to stop is there (`Pool.mark`), whether the table has it, which callbacks of
its life were called and have returned, and whether its task has reported the end. Most of what a
server does changes none of this, above all what a handler does about a callback. `Server.Quiet`
says so of two states of a server.
-/

namespace NetSession

/-- A link that was given a payload has kept its signal. -/
theorem Link.stop_of_push? {link link' : Link} {data : Bytes} (h : link.push? data = some link') :
    link'.stop = link.stop := by
  obtain ⟨waiting, -, rfl⟩ := Option.map_eq_some_iff.mp h
  rfl

/-- A connection that was sent on has kept its mark. -/
theorem Connection.mark_of_send {c c' : Connection} {data : Bytes} (h : c.send data = .ok c') :
    c'.closing = c.closing ∧ c'.link.stop = c.link.stop := by
  rw [Connection.send.eq_def] at h
  split at h
  · exact nomatch h
  · split at h
    · next link hpush =>
      obtain rfl := Except.ok.inj h
      exact ⟨rfl, Link.stop_of_push? hpush⟩
    · exact nomatch h

namespace Pool

/-- Whether a connection is marked as closing, and whether the signal to stop is there. -/
def mark (pool : Pool) (ref : Ref) : Option (Bool × Bool) :=
  (pool.get? ref).map fun c => (c.closing, c.link.stop)

variable {pool : Pool} {ref : Ref} {c c' : Connection}

/-- The mark is changed only behind the reference at which something is put. -/
theorem mark_set (pool : Pool) (ref : Ref) (c : Connection) (ref' : Ref) :
    (pool.set ref c).mark ref' =
      if ref' = ref then some (c.closing, c.link.stop) else pool.mark ref' := by
  rw [mark, get?_set, mark]
  split <;> rfl

/-- A connection with the same mark may be put in the place of another. -/
theorem mark_set_of_eq (hget : pool.get? ref = some c) (hclosing : c'.closing = c.closing)
    (hstop : c'.link.stop = c.link.stop) (ref' : Ref) :
    (pool.set ref c').mark ref' = pool.mark ref' := by
  rw [mark_set]
  split
  · next heq => rw [heq, mark, hget, hclosing, hstop]; rfl
  · rfl

/-- What changes no connection's mark changes no mark. -/
theorem mark_modify_of_eq {f : Connection → Connection} (pool : Pool) (ref : Ref)
    (hf : ∀ c, (f c).closing = c.closing ∧ (f c).link.stop = c.link.stop) (ref' : Ref) :
    (pool.modify ref f).mark ref' = pool.mark ref' := by
  rw [mark, get?_modify, mark]
  split
  · next heq =>
    rw [heq]
    cases pool.get? ref with
    | none => rfl
    | some c => simp only [Option.map_some, hf]
  · rfl

/-- To send changes no mark. -/
theorem mark_send (pool : Pool) (ref : Ref) (data : Bytes) (ref' : Ref) :
    (pool.send ref data).2.mark ref' = pool.mark ref' := by
  cases hget : pool.get? ref with
  | none => simp only [send, hget]
  | some c =>
    cases hsend : c.send data with
    | error => simp only [send, hget, hsend]
    | ok c' =>
      obtain ⟨hclosing, hstop⟩ := Connection.mark_of_send hsend
      simp only [send, hget, hsend]
      exact mark_set_of_eq hget hclosing hstop ref'

end Pool

namespace Server

variable {σ τ : Type}

/-- The connection whose life a callback is about: its accept and its close. -/
def Callback.about : Callback → Option ConnId
  | .accepted id | .closing id | .closed id => some id
  | .acceptFailed _ | .received _ _ | .heartbeat _ _ => none

/-- The connection that something brings further on its way to its close. -/
def Happening.about : Happening → Option ConnId
  | .called callback | .returned callback => callback.about
  | .reported (.closed id) => some id
  | _ => none

/-- Whether something that happened has nothing to do with a close. -/
def Happening.isQuiet : Happening → Bool
  | .called callback | .returned callback => callback.about.isNone
  | .sent .. | .asked .. | .said _ | .wrote .. => true
  | .shut _ | .reported _ => false

/-- Nothing happened between two states of a server that matters to how connections close. -/
structure Quiet (s s' : Server σ) : Prop where
  /-- The marks are the same. -/
  mark : ∀ id, s'.pool.mark id = s.pool.mark id
  /-- The same connections are live. -/
  get? : ∀ id, s'.roster.table.get? id = s.roster.table.get? id
  /-- The table is still sound. -/
  sound : s.roster.table.Sound → s'.roster.table.Sound
  /-- The tasks hold the same references. -/
  tasks : s'.tasks = s.tasks
  /-- No number was given to a connection. -/
  nextId : s'.nextId = s.nextId
  /-- What was written down has nothing to do with a close. -/
  trace : ∃ l, s'.trace = s.trace ++ l ∧ ∀ h ∈ l, h.isQuiet

namespace Quiet

variable {s s' s'' : Server σ}

/-- Nothing happens in no time. -/
theorem refl (s : Server σ) : Quiet s s where
  mark _ := rfl
  get? _ := rfl
  sound h := h
  tasks := rfl
  nextId := rfl
  trace := ⟨[], (List.append_nil _).symm, fun _ h => absurd h List.not_mem_nil⟩

/-- Nothing happens twice. -/
theorem trans (h : Quiet s s') (h' : Quiet s' s'') : Quiet s s'' where
  mark id := (h'.mark id).trans (h.mark id)
  get? id := (h'.get? id).trans (h.get? id)
  sound hs := h'.sound (h.sound hs)
  tasks := h'.tasks.trans h.tasks
  nextId := h'.nextId.trans h.nextId
  trace := by
    obtain ⟨l, hl, habout⟩ := h.trace
    obtain ⟨l', hl', habout'⟩ := h'.trace
    refine ⟨l ++ l', by rw [hl', hl, List.append_assoc], fun e he => ?_⟩
    rcases List.mem_append.mp he with he | he
    · exact habout e he
    · exact habout' e he

/-- Something is written down that has nothing to do with a close. -/
theorem note (s : Server σ) {h : Happening} (hquiet : h.isQuiet) : Quiet s (s.note h) where
  mark _ := rfl
  get? _ := rfl
  sound h := h
  tasks := rfl
  nextId := rfl
  trace := ⟨[h], rfl, fun e he => by rw [List.mem_singleton.mp he]; exact hquiet⟩

/-- The connections change, but not their marks. -/
theorem setPool {pool : Pool} (h : ∀ id, pool.mark id = s.pool.mark id) :
    Quiet s (s.setPool pool) where
  mark := h
  get? _ := rfl
  sound h := h
  tasks := rfl
  nextId := rfl
  trace := ⟨[], (List.append_nil _).symm, fun _ h => absurd h List.not_mem_nil⟩

end Quiet

/-! ## What a server does in passing -/

variable (s : Server σ)

/-- To say something matters to nothing. -/
theorem quiet_say (severity : Console.Severity) (message : String) :
    Quiet s (s.say severity message) :=
  .note s rfl

/-- To send on a connection does not bring it closer to its close. -/
theorem quiet_send (id : ConnId) (data : Bytes) : Quiet s (s.send id data).2 :=
  (Quiet.setPool (Pool.mark_send s.pool id data)).trans (.note _ rfl)

/-- To ask for a connection to be closed leaves a request, no more. -/
theorem quiet_askClose (id : ConnId) : Quiet s (s.askClose id).2 := by
  have hmark (id' : ConnId) : (s.pool.askClose id).2.mark id' = s.pool.mark id' := by
    rw [Pool.mark, Pool.get?_askClose, Pool.mark]
  exact (Quiet.setPool hmark).trans (.note _ rfl)

/-- What a handler does about a callback closes nothing. -/
theorem quiet_advance (reaction : Reaction τ) : Quiet s (s.advance reaction).2 := by
  cases reaction with
  | done | look => exact .refl s
  | send id data => exact s.quiet_send id data
  | close id => exact s.quiet_askClose id
  | writeExtra id data => exact .setPool (Pool.mark_modify_of_eq _ _ fun _ => ⟨rfl, rfl⟩)
  | keep | release => exact ⟨fun _ => rfl, fun _ => rfl, id, rfl, rfl, (Quiet.refl s).trace⟩
  | say notice => exact .note s rfl

/-- A reaction closes nothing. -/
theorem quiet_perform (reaction : Reaction τ) : Quiet s (s.perform reaction).2 := by
  induction reaction generalizing s with
  | done => exact .refl s
  | look id next ih => exact ih _ s
  | send id data next ih => exact (s.quiet_send id data).trans (ih _ _)
  | close id next ih => exact (s.quiet_askClose id).trans (ih _ _)
  | writeExtra id data next ih => exact (s.quiet_advance (.writeExtra id data next)).trans (ih _)
  | keep id next ih => exact (s.quiet_advance (.keep id next)).trans (ih _)
  | release id next ih => exact (s.quiet_advance (.release id next)).trans (ih _)
  | say notice next ih => exact (Quiet.note s rfl).trans (ih _)

/-- A connection that is moved to the tail stays live. -/
theorem quiet_touch (id : ConnId) : Quiet s (s.touch id) := by
  have htrace := (Quiet.refl s).trace
  cases hget : s.roster.table.get? id with
  | none =>
    have htouch := Table.touch_of_get?_none hget
    simp only [touch, Roster.touch, htouch]
    exact ⟨fun _ => rfl, fun _ => rfl, Table.Sound.skip, rfl, rfl, htrace⟩
  | some ref =>
    -- The connection is stamped, and put in once more.
    have htouch := Table.touch_of_get?_some hget
    simp only [touch, Roster.touch, htouch]
    refine ⟨Pool.mark_modify_of_eq _ _ fun _ => ⟨rfl, rfl⟩, fun id' => ?_,
      fun hsound => hsound.insert _ _, rfl, rfl, htrace⟩
    rw [Table.get?_insert]
    split
    · next heq => rw [heq, hget]
    · rfl

/-- To say why nothing more can be read matters to nothing. -/
theorem quiet_sayEnded (id : ConnId) (failure : Option String) :
    Quiet s (s.sayEnded id failure) := by
  cases failure <;> exact quiet_say _ _ _

/-- To say who was silent matters to nothing. -/
theorem quiet_sayEvicted (id : ConnId) : Quiet s (s.sayEvicted id) := by
  rw [sayEvicted]
  split
  · exact quiet_say _ _ _
  · exact .refl s

/-- To count a tick matters to nothing. -/
theorem quiet_beat : Quiet s s.beat :=
  ⟨fun _ => rfl, fun _ => rfl, id, rfl, rfl, (s.quiet_say .debug _).trace⟩

end Server

end NetSession
