import NetSession.Proofs.Server.Balance
import NetSession.Proofs.Server.Heeding

/-!
# What a close leaves unwritten

A payload that was accepted waits in the queue of its connection until the task takes it, but a task
looks for the signal to stop before it looks at the queue. The payloads that it has begun with by
then are on the socket as a whole when that is closed; those that wait still are never written
(`close_writes_begun`). So a handler that answers and closes in one go may lose its answer, though
nothing failed and the peer did not leave (`answer_lost_at_close`).
-/

namespace NetSession

namespace Stream

/-- What is left to be written of the payload at hand. -/
def Phase.rest : Phase → Bytes
  | .writing rest => rest
  | .looking _ | .waiting | .shutting | .reporting | .leaving | .ended => []

/-- Of the payloads that were accepted, a task has begun with the first ones, and has written all of
them but for the rest of the payload at hand. The others wait, until it gives up its queue. -/
structure Divides (s : Stream) (queue : Option (List Bytes))
    (accepted begun waiting : List Bytes) : Prop where
  /-- The first ones are begun, the others wait. -/
  accepted : accepted = begun ++ waiting
  /-- What is begun is written, but for the rest of the payload at hand. -/
  written : begun.flatten = s.written ++ s.phase.rest
  /-- What waits is in the queue. -/
  queue : s.phase ≠ .ended → queue = some waiting

namespace Account

variable {a : Account} {s : Stream}

/-- What is written comes before what is left. -/
theorem Cut.flatten_eq {payloads : List Bytes} {written rest : Bytes}
    (h : Cut payloads written rest) : payloads.flatten = written ++ rest := by
  cases h with
  | whole => exact (List.append_nil _).symm
  | within payloads part => rw [List.flatten_concat, List.append_assoc]

/-- Unless a write has failed, what is left is left of the payload at hand. -/
theorem Left.eq_rest {phase : Phase} {rest : Bytes} (h : Left False phase rest) :
    rest = phase.rest := by
  cases h with
  | writing heq =>
    rw [heq]
    rfl
  | none hne =>
    cases phase with
    | writing rest => exact absurd rfl (hne rest)
    | looking | waiting | shutting | reporting | leaving | ended => rfl
  | failed did => exact did.elim

/-- Unless a write has failed, what was accepted is begun or waits. -/
theorem Balanced.divides (h : a.Balanced False) (hs : a.stream = some s) :
    ∃ begun waiting, s.Divides a.queue a.accepted begun waiting := by
  obtain ⟨begun, waiting, rest, hsplit, hcut, hleft, hqueue⟩ := h.writes s hs
  exact ⟨begun, waiting, hsplit, hleft.eq_rest ▸ hcut.flatten_eq, hqueue⟩

end Account

/-- A task that has left its loop has written all that it has begun with. -/
theorem Divides.written_eq {s : Stream} {queue : Option (List Bytes)}
    {accepted begun waiting : List Bytes} (h : s.Divides queue accepted begun waiting)
    (hphase : s.phase.isPumping = false) : s.written = begun.flatten := by
  have hrest : s.phase.rest = [] := by
    cases hp : s.phase with
    | writing rest =>
      rw [hp] at hphase
      exact nomatch hphase
    | looking | waiting | shutting | reporting | leaving | ended => rfl
  rw [h.written, hrest, List.append_nil]

end Stream

namespace Server.Machine

variable {σ : Type} {m m' : Machine σ} {id : ConnId} {s : Stream} {begun waiting : List Bytes}

/-- The payloads that wait for the task of a connection. -/
def queue (m : Machine σ) (id : ConnId) : Option (List Bytes) :=
  (m.server.pool.get? id).bind (·.link.queue)

/-- Whether the task of a connection is told to stop. -/
def isTold (m : Machine σ) (id : ConnId) : Bool := (m.server.pool.get? id).any (·.link.stop)

/-- The task of a connection writes just so much, whatever comes. -/
def WritesOnly (m : Machine σ) (id : ConnId) (bytes : Bytes) : Prop :=
  ∀ turns m', m.run turns = some m' →
    ∃ s, m'.system.streams[id]? = some s ∧ s.written = bytes

/-- How a close meets a task that has begun with some payloads. -/
structure Closes (m : Machine σ) (id : ConnId) (s : Stream) (begun : List Bytes) : Prop where
  /-- Whenever it looks at the queue, the task begins with the payload that has waited longest. -/
  begins : s.phase = .looking .queue → ∀ data rest, m.queue id = some (data :: rest) →
    ∃ m' s', m.step (.move (.stream id .go)) = some m' ∧ m'.system.streams[id]? = some s' ∧
      s'.phase = .writing data ∧ m'.queue id = some rest
  /-- When the socket is closed, they are written, and nothing else. -/
  shut : s.shut = true → s.written = begun.flatten
  /-- So it is from when the task leaves its loop. -/
  left : s.phase.isPumping = false → m.WritesOnly id begun.flatten
  /-- A task that is told to stop leaves its loop when it looks for that, whatever waits. -/
  told : s.phase = .looking .stop → m.isTold id = true →
    ∃ m', m.step (.move (.stream id .go)) = some m' ∧ m'.queue id = m.queue id ∧
      m'.WritesOnly id begun.flatten

/-- The queue of a connection is on its account. -/
theorem queue_account (m : Machine σ) (id : ConnId) : (m.account id).queue = m.queue id := by
  change ((m.server.pool.get? id).map (·.link)).bind (·.queue) = _
  rw [Option.bind_map]
  rfl

/-- A task that has left its loop writes nothing any more. -/
theorem writesOnly_of_settled (hrunning : m.system.running = true → m.Orderly) {failed : Prop}
    (hbalanced : (m.account id).Balanced failed) (hs : m.system.streams[id]? = some s)
    (hphase : s.phase.isPumping = false) : m.WritesOnly id s.written := by
  intro turns m' hrun
  have hsettled : (m.account id).Settled s.taken s.written := ⟨s, hs, hphase, rfl, rfl⟩
  obtain ⟨s', hs', -, -, hwritten⟩ :=
    hsettled.follows hbalanced (follows_of_run hrunning hrun)
  exact ⟨s', hs', hwritten⟩

/-- Where the task of a connection looks at the queue, it begins with what has waited longest. -/
theorem exists_step_of_queue (hs : m.system.streams[id]? = some s)
    (hphase : s.phase = .looking .queue) {data : Bytes} {rest : List Bytes}
    (hqueue : m.queue id = some (data :: rest)) :
    ∃ m' s', m.step (.move (.stream id .go)) = some m' ∧ m'.system.streams[id]? = some s' ∧
      s'.phase = .writing data ∧ m'.queue id = some rest := by
  obtain ⟨c, hc, hwaits⟩ := Option.bind_eq_some_iff.mp hqueue
  have hpop : c.link.pop? = some (data, { c.link with queue := some rest }) := by
    rw [Link.pop?, hwaits]
  have hgo : s.step c.link m.system.running .go =
      some ({ s with phase := .writing data }, { c.link with queue := some rest }, none) := by
    simp only [Stream.step, Stream.go, hphase, hpop]
  obtain ⟨y, hstep, hleft⟩ := exists_step_stream hc hs hgo
  refine ⟨_, { s with phase := .writing data }, hstep, ?_, rfl, ?_⟩
  · change y.streams[id]? = _
    rw [hleft.streams, Ascending.getElem?_insert, if_pos rfl]
  · change (y.server.pool.get? id).bind _ = _
    rw [hleft.pool, Pool.get?_set, if_pos rfl]
    rfl

/-- A task that is told to stop leaves its loop when it looks for that, and its queue as it is. -/
theorem exists_step_of_isTold (hrunning : m.system.running = true → m.Orderly) {failed : Prop}
    (hbalanced : (m.account id).Balanced failed) (hs : m.system.streams[id]? = some s)
    (hphase : s.phase = .looking .stop) (htold : m.isTold id = true) :
    ∃ m', m.step (.move (.stream id .go)) = some m' ∧ m'.queue id = m.queue id ∧
      m'.WritesOnly id s.written := by
  obtain ⟨c, hc, hstop⟩ := (Option.any_eq_true _ _).mp htold
  obtain ⟨y, hstep, hleft⟩ := exists_step_stream hc hs (Stream.go_of_stop (.inl hphase) hstop)
  have hpool : y.server.pool.get? id = some { c with link := c.link.takeStop } := by
    rw [hleft.pool, Pool.get?_set, if_pos rfl]
  have hstream : y.streams[id]? = some { s with phase := .shutting } := by
    rw [hleft.streams, Ascending.getElem?_insert, if_pos rfl]
  refine ⟨_, hstep, ?_, ?_⟩
  · change (y.server.pool.get? id).bind _ = (m.server.pool.get? id).bind _
    rw [hpool, hc]
    rfl
  · have hrunning' (hruns : y.running = true) : Machine.Orderly { m with system := y } :=
      (hrunning (running_of_step hstep hruns)).step hstep hruns
    have hpasses : Stream.Account.Passes _ (m.account id) _ := passes_of_step hrunning hstep
    have hbalanced' := hbalanced.passes hpasses
    have hend := writesOnly_of_settled hrunning' hbalanced' hstream rfl
    exact hend

/-- How a close meets the task of a connection none of whose writes has failed. -/
theorem exists_closes (hrunning : m.system.running = true → m.Orderly)
    (hbalanced : (m.account id).Balanced False) (hs : m.system.streams[id]? = some s) :
    ∃ begun waiting, s.Divides (m.queue id) (payloads id m.trace) begun waiting ∧
      m.Closes id s begun := by
  obtain ⟨begun, waiting, hdivides⟩ := hbalanced.divides hs
  rw [queue_account] at hdivides
  refine ⟨begun, waiting, hdivides, ?_, ?_, ?_, ?_⟩
  · exact fun hphase data rest => exists_step_of_queue hs hphase
  · exact fun hshut => hdivides.written_eq (hbalanced.shut s hs hshut)
  · intro hphase
    rw [← hdivides.written_eq hphase]
    exact writesOnly_of_settled hrunning hbalanced hs hphase
  · intro hphase htold
    have hwritten : s.written = begun.flatten := by
      rw [hdivides.written, hphase]
      exact (List.append_nil _).symm
    rw [← hwritten]
    exact exists_step_of_isTold hrunning hbalanced hs hphase htold

end Server.Machine

namespace Server

variable {σ : Type}

/-- In every run, whatever the order of steps, every task none of whose writes has failed has begun
with the first payloads that were accepted, and the others wait; whenever it looks at the queue, it
begins with the next one. Those that it has begun with are written when it closes its socket. If it
is told to stop when it looks for that, then the others are never written. -/
theorem close_writes_begun (config : ServerConfig) (handler : Handler σ) (memory : σ)
    (now : Instant) :
    (∀ turns m, (Machine.start config handler memory now).run turns = some m → ∀ id s,
      m.system.streams[id]? = some s → (∀ cause, .move (.stream id (.fail cause)) ∉ turns) →
        ∃ begun waiting, s.Divides (m.queue id) (payloads id m.trace) begun waiting ∧
          m.Closes id s begun) ∧
    ∀ moves y, (System.start config handler memory now).run moves = some y → ∀ id s,
      y.streams[id]? = some s → (∀ cause, .stream id (.fail cause) ∉ moves) →
        ∃ begun waiting, s.Divides (Machine.queue ⟨y, .free, []⟩ id) (payloads id y.server.trace)
          begun waiting ∧ Machine.Closes ⟨y, .free, []⟩ id s begun := by
  have horderly (turns : List Turn) (m : Machine σ)
      (hrun : (Machine.start config handler memory now).run turns = some m)
      (hrunning : m.system.running = true) : m.Orderly :=
    (Machine.orderly_start config handler memory now).run hrun hrunning
  constructor
  · intro turns m hrun id s hs hwrites
    have hbalanced := (Machine.balanced_of_run hrun id).mono fun ⟨cause, hmem⟩ => hwrites cause hmem
    exact Machine.exists_closes (horderly turns m hrun) hbalanced hs
  · intro moves y hrun id s hs hwrites
    obtain ⟨turns, hturns⟩ := Machine.reaches_of_run hrun
    have hbalanced := (Machine.balanced_of_system_run hrun id).mono fun ⟨cause, hmem⟩ =>
      hwrites cause hmem
    exact Machine.exists_closes (horderly turns _ hturns) hbalanced hs

/-- A handler that answers what it reads, and closes then. -/
def Handler.answering : Handler Unit
  | .received id _, _ => .send id [42] fun _ => .close id fun _ => .done ()
  | _, _ => .done ()

/-- Steps in which a peer is answered, and its connection is to be closed then. -/
def answerTurns : List Turn :=
  [.move (.arrive (.peer .unspecifiedV4)), .move .accept, .proceed, .proceed,
    .move (.receive 1 [1]), .move (.stream 1 .go), .move (.stream 1 .go),
    .move (.stream 1 (.read 1)), .move .handle, .proceed, .proceed, .proceed, .proceed,
    .move .close, .proceed, .proceed, .proceed]

/-- The same in whole steps, but the task comes to write the answer before the close begins. -/
def answerMoves : List Move :=
  [.arrive (.peer .unspecifiedV4), .accept, .receive 1 [1], .stream 1 .go, .stream 1 .go,
    .stream 1 (.read 1), .handle, .stream 1 .go, .stream 1 .go, .stream 1 (.write 1),
    .stream 1 .go, .close, .stream 1 .go, .stream 1 .go]

/-- The answer is lost if the task sees the signal to stop first, and else it is written. -/
theorem close_writes_begun_answer :
    (∃ m m', (Machine.start {} Handler.answering () .zero).run answerTurns = some m ∧
      payloads 1 m.trace = [[42]] ∧ m.step (.move (.stream 1 .go)) = some m' ∧
      m'.WritesOnly 1 []) ∧
    ∃ y s, (System.start {} Handler.answering () .zero).run answerMoves = some y ∧
      y.streams[1]? = some s ∧ s.shut = true ∧ s.written = (payloads 1 y.server.trace).flatten := by
  obtain ⟨hmachine, hsystem⟩ := close_writes_begun {} Handler.answering () .zero
  constructor
  · obtain ⟨m, s, hrun, hs, hphase, htold, hpayloads, hqueue⟩ :
        ∃ m s, (Machine.start {} Handler.answering () .zero).run answerTurns = some m ∧
          m.system.streams[1]? = some s ∧ s.phase = .looking .stop ∧ m.isTold 1 = true ∧
          payloads 1 m.trace = [[42]] ∧ m.queue 1 = some [[42]] :=
      ⟨_, _, rfl, rfl, rfl, rfl, rfl, rfl⟩
    obtain ⟨begun, waiting, hdivides, hcloses⟩ :=
      hmachine _ m hrun 1 s hs (by simp [answerTurns])
    -- The answer is what waits.
    have hwaits : some [[42]] = some waiting := hqueue.symm.trans (hdivides.queue (hphase ▸ nofun))
    obtain rfl := Option.some.inj hwaits
    have hbegun : begun = [] := List.self_eq_append_left.mp (hpayloads.symm.trans hdivides.accepted)
    obtain ⟨m', hstep, -, honly⟩ := hcloses.told hphase htold
    rw [hbegun] at honly
    exact ⟨m, m', hrun, hpayloads, hstep, honly⟩
  · obtain ⟨y, s, hrun, hs, hshut, hphase, hqueue⟩ :
        ∃ y s, (System.start {} Handler.answering () .zero).run answerMoves = some y ∧
          y.streams[1]? = some s ∧ s.shut = true ∧ s.phase = .reporting ∧
          Machine.queue ⟨y, .free, []⟩ 1 = some [] :=
      ⟨_, _, rfl, rfl, rfl, rfl, rfl⟩
    obtain ⟨begun, waiting, hdivides, hcloses⟩ :=
      hsystem _ y hrun 1 s hs (by simp [answerMoves])
    -- Nothing waits.
    have hwaits : some [] = some waiting := hqueue.symm.trans (hdivides.queue (hphase ▸ nofun))
    obtain rfl := Option.some.inj hwaits
    have hbegun : payloads 1 y.server.trace = begun :=
      hdivides.accepted.trans (List.append_nil begun)
    exact ⟨y, s, hrun, hs, hshut, hbegun ▸ hcloses.shut hshut⟩

/-- Steps in which the task sees the signal to stop then, and closes its socket. -/
def lossTurns : List Turn := answerTurns ++ [.move (.stream 1 .go), .move (.stream 1 .go)]

/-- Whether a step is one at which nothing fails and no peer leaves. -/
def Turn.isSmooth : Turn → Bool
  | .move (.fail ..) | .move (.finish _) | .move (.stream _ (.fail _)) => false
  | .move _ | .proceed => true

/-- Whether something that happens is about what is sent, a close that is asked for, or a socket. -/
def Happening.isTransfer : Happening → Bool
  | .sent .. | .asked .. | .wrote .. | .shut _ => true
  | .called _ | .returned _ | .said _ | .reported _ => false

/-- The answer was accepted before anybody asked for the close, nothing failed, and the peer did not
leave, but the socket is closed without it, and it is never written. -/
theorem answer_lost_at_close :
    ∃ m, (Machine.start {} Handler.answering () .zero).run lossTurns = some m ∧
      lossTurns.all Turn.isSmooth = true ∧
      m.trace.filter Happening.isTransfer = [.sent 1 [42] true, .asked 1 true, .shut 1] ∧
      m.WritesOnly 1 [] := by
  obtain ⟨m, s, hrun, hrunning, hs, hphase, hwritten, htrace⟩ :
      ∃ m s, (Machine.start {} Handler.answering () .zero).run lossTurns = some m ∧
        m.system.running = true ∧ m.system.streams[1]? = some s ∧ s.phase.isPumping = false ∧
        s.written = [] ∧
        m.trace.filter Happening.isTransfer = [.sent 1 [42] true, .asked 1 true, .shut 1] :=
    ⟨_, _, rfl, rfl, rfl, rfl, rfl, rfl⟩
  have horderly := (Machine.orderly_start {} Handler.answering () .zero).run hrun hrunning
  have honly := Machine.writesOnly_of_settled (fun _ => horderly) (Machine.balanced_of_run hrun 1)
    hs hphase
  rw [hwritten] at honly
  exact ⟨m, hrun, rfl, htrace, honly⟩

end Server

end NetSession
