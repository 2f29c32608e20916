import NetSession.Proofs.Client.Balance
import NetSession.Proofs.Server.Balance

/-!
# Byte streams keep their order

The main result is `bytes_keep_order`. In every run of a server or a client with its tasks, what is
handed on to the handler of a connection is the beginning of what was read from its socket, and what
is written to its socket is the beginning of what was accepted to be sent on it: whole payloads, in
order, and a part of the next one only while that is being written or if its write has failed. Where
the task's own report of an end is what a close begins with, all that was read was handed on before.
-/

namespace NetSession

namespace Stream

/-- What a stream has written of the payloads that were accepted: the first of them as a whole, and
a part of the next one at most. -/
inductive Wrote (s : Stream) (failed : Prop) (accepted : List Bytes) : Prop where
  /-- Whole payloads. -/
  | whole (begun waiting : List Bytes) (accepted_eq : accepted = begun ++ waiting)
      (written_eq : s.written = begun.flatten)
  /-- Whole payloads and a part of the next one, which is being written, or whose write has
  failed. -/
  | within (begun : List Bytes) (part rest : Bytes) (waiting : List Bytes)
      (accepted_eq : accepted = begun ++ (part ++ rest) :: waiting)
      (written_eq : s.written = begun.flatten ++ part)
      (unfinished : s.phase = .writing rest ∨ failed)

/-- A stream keeps bytes in order: nothing is left out, given twice or exchanged. -/
structure KeepsOrder (stream : Option Stream) (failed : Prop) (accepted : List Bytes)
    (received : Bytes) : Prop where
  /-- What was handed on is the beginning of what was read. -/
  received : received <+: (stream.map (·.taken)).getD []
  /-- What was written is the beginning of what was accepted. -/
  written : ∀ s, stream = some s → s.Wrote failed accepted

/-- What was handed on before is all that was ever read, and nothing was handed on since. -/
structure HandedAll (stream : Option Stream) (before after : Bytes) : Prop where
  /-- Nothing was handed on since. -/
  kept : after = before
  /-- Nothing else was read. -/
  taken : stream.map (·.taken) = some before

namespace Account

variable {a a' : Account} {failed : Prop} {bytes : Bytes}

/-- A balanced account keeps bytes in order. -/
theorem Balanced.keepsOrder (h : a.Balanced failed) :
    KeepsOrder a.stream failed a.accepted a.received := by
  refine ⟨h.begins, fun s hs => ?_⟩
  obtain ⟨begun, waiting, rest, hsplit, hcut, hleft, -⟩ := h.writes s hs
  generalize hwritten : s.written = written at hcut
  cases hcut with
  | whole => exact .whole begun waiting hsplit hwritten
  | within payloads part =>
    rw [List.append_assoc] at hsplit
    cases hleft with
    | writing hphase => exact .within payloads part rest waiting hsplit hwritten (.inl hphase)
    | none =>
      -- Nothing is left of the last payload.
      refine .whole (payloads ++ [part]) waiting ?_ ?_
      · rw [hsplit, List.append_nil, List.append_assoc]
      · rw [hwritten, List.flatten_concat]
    | failed did => exact .within payloads part rest waiting hsplit hwritten (.inr did)

/-- Once all was handed on, that is all that was read. -/
theorem Drained.handedAll (h : a.Drained bytes) : HandedAll a.stream bytes a.received := by
  obtain ⟨written, s, hs, -, htaken, -⟩ := h.settled
  refine ⟨h.received, ?_⟩
  rw [hs, Option.map_some, htaken]

end Account

end Stream

/-! ## Servers -/

namespace Server

variable {σ : Type}

/-- The stream of a connection keeps bytes in order. -/
def System.KeepsOrder (y : System σ) (id : ConnId) (failed : Prop) : Prop :=
  Stream.KeepsOrder y.streams[id]? failed (payloads id y.server.trace) (handed id y.server.trace)

/-- What was handed on of a connection before is all that was ever read, and nothing was handed on
since. -/
def System.HandedAll (y y' : System σ) (id : ConnId) : Prop :=
  Stream.HandedAll y'.streams[id]? (handed id y.server.trace) (handed id y'.server.trace)

namespace Machine

variable {m m' : Machine σ} {id : ConnId} {config : ServerConfig} {handler : Handler σ}
  {memory : σ} {now : Instant} {turns turns' : List Turn}

/-- A connection with a task that has not begun to close is open. -/
theorem Orderly.isOpen (h : m.Orderly) {failed : Prop} (hbalanced : (m.account id).Balanced failed)
    (hmail : (m.account id).mail ≠ []) (hclosing : .called (.closing id) ∉ m.trace) :
    (m.account id).isOpen = true := by
  have hlink : (m.account id).link ≠ none := fun hnone =>
    hmail (hbalanced.fresh (hbalanced.blank hnone).1).2.1
  obtain ⟨link, hsome⟩ := Option.ne_none_iff_exists'.mp hlink
  obtain ⟨c, hc, -⟩ := Option.map_eq_some_iff.mp hsome
  refine isOpen_iff.mpr ⟨c, hc, ?_⟩
  by_contra hnot
  rw [Bool.not_eq_false] at hnot
  -- It was marked when the callback was called.
  have hmark : (m.view id).isClosing = true := by
    rw [View.isClosing, view_mark hc, Option.any_some, hnot]
  have hcount := (h.view id).closing
  rw [hmark, if_pos rfl] at hcount
  exact hclosing (List.count_pos_iff.mp (by omega))

/-- When a report of the end is the next to be taken in, of a connection that has not begun to
close, all that was read was handed on. -/
theorem Orderly.drained (h : m.Orderly) (hrunning : m.system.running = true) {failed : Prop}
    (hbalanced : (m.account id).Balanced failed) {failure : Option String} {rest : List Event}
    (hevents : m.system.events = .ended id failure :: rest)
    (hclosing : .called (.closing id) ∉ m.trace) :
    (m.account id).Drained (handed id m.trace) := by
  have hmail : (m.account id).mail = .ended failure :: rest.filterMap (·.report? id) := by
    change m.system.events.filterMap _ = _
    rw [hevents, List.filterMap_cons, Event.report?, if_pos rfl]
  have hopen := h.isOpen hbalanced (hmail ▸ List.cons_ne_nil _ _) hclosing
  obtain ⟨bytes, hdrained⟩ := hbalanced.drained hrunning hopen hmail rfl
  have hreceived : handed id m.trace = bytes := hdrained.received
  rw [hreceived]
  exact hdrained

/-- From then on nothing more is read or handed on. -/
theorem handedAll_of_run (hrun : (Machine.start config handler memory now).run turns = some m)
    (hrunning : m.system.running = true) {failure : Option String} {rest : List Event}
    (hevents : m.system.events = .ended id failure :: rest)
    (hclosing : .called (.closing id) ∉ m.trace) (hrun' : m.run turns' = some m') :
    m.system.HandedAll m'.system id := by
  have horderly := (orderly_start config handler memory now).run hrun hrunning
  have hbalanced := balanced_of_run hrun id
  have hdrained := horderly.drained hrunning hbalanced hevents hclosing
  exact (hdrained.follows hbalanced (follows_of_run (fun _ => horderly) hrun')).handedAll

/-- A server that takes in a report runs. -/
theorem running_of_handle (hrun : m.run (.move .handle :: turns) = some m') :
    m.system.running = true := by
  obtain ⟨next, hstep, -⟩ := Option.bind_eq_some_iff.mp hrun
  cases takes_of_step hstep with
  | handle hrunning => exact hrunning
  | other hothers => exact hothers.elim nofun nofun

end Machine

/-- A server that takes in a report runs. -/
theorem System.running_of_handle {y y' : System σ} {moves : List Move}
    (hrun : y.run (.handle :: moves) = some y') : y.running = true := by
  obtain ⟨next, hstep, -⟩ := Option.bind_eq_some_iff.mp hrun
  simp only [System.step] at hstep
  split at hstep
  · assumption
  · contradiction

end Server

/-! ## Clients -/

namespace Client

variable {σ : Type}

/-- The stream of an attempt keeps bytes in order. -/
def System.KeepsOrder (y : System σ) (attempt : Nat) (failed : Prop) : Prop :=
  Stream.KeepsOrder y.streams[attempt]? failed (payloads attempt y.client.trace)
    (handed attempt y.client.trace)

/-- What was handed on of an attempt before is all that was ever read, and nothing was handed on
since. -/
def System.HandedAll (y y' : System σ) (attempt : Nat) : Prop :=
  Stream.HandedAll y'.streams[attempt]? (handed attempt y.client.trace)
    (handed attempt y'.client.trace)

namespace Machine

variable {m m' : Machine σ} {attempt : Nat} {config : ClientConfig} {target : Endpoint}
  {handler : Handler σ} {memory : σ} {now : Instant} {turns turns' : List Turn}

/-- When a report of the end is the next to be taken in by a client that is connected, all that was
read was handed on, and from then on nothing more is read or handed on. -/
theorem handedAll_of_run
    (hrun : (Machine.start config target handler memory now).run turns = some m)
    (hrunning : m.system.running = true) {failure : Option String} {rest : List Event}
    (hevents : m.system.events = .ended attempt failure :: rest)
    (hstate : m.client.state = .connected) (hrun' : m.run turns' = some m') :
    m.system.HandedAll m'.system attempt := by
  have hsituated := situated_of_run hrun
  have hbalanced := balanced_of_run hrun attempt
  have hmail : (m.account attempt).mail = .ended failure :: rest.filterMap (·.report? attempt) := by
    change m.system.events.filterMap _ = _
    rw [hevents, List.filterMap_cons, Event.report?, if_pos rfl]
  -- What waits comes of the attempt at hand.
  have hattempt : (Event.ended attempt failure).attempt = m.client.attempt :=
    (hsituated.oneAtATime hrunning).current _ (hevents ▸ List.mem_cons_self)
  have hopen : (m.account attempt).isOpen = true := by
    change m.client.isOpen attempt = true
    rw [isOpen, isConnected, beq_iff_eq.mpr hstate, Bool.and_true]
    exact beq_iff_eq.mpr hattempt.symm
  obtain ⟨bytes, hdrained⟩ := hbalanced.drained hrunning hopen hmail rfl
  have hreceived : handed attempt m.client.trace = bytes := hdrained.received
  have hhanded := (hdrained.follows hbalanced (hsituated.follows_of_run hbalanced hrun')).handedAll
  rw [← hreceived] at hhanded
  exact hhanded

/-- A client that takes in what came of an attempt runs. -/
theorem running_of_handle (hrun : m.run (.move .handle :: turns) = some m') :
    m.system.running = true := by
  obtain ⟨next, hstep, -⟩ := Option.bind_eq_some_iff.mp hrun
  cases takes_of_step hstep with
  | handle hrunning => exact hrunning
  | other hothers => exact nomatch hothers

end Machine

/-- A client that takes in what came of an attempt runs. -/
theorem System.running_of_handle {y y' : System σ} {moves : List Move}
    (hrun : y.run (.handle :: moves) = some y') : y.running = true := by
  obtain ⟨next, hstep, -⟩ := Option.bind_eq_some_iff.mp hrun
  simp only [System.step] at hstep
  split at hstep
  · assumption
  · contradiction

end Client

/-- In every run of a server, in small steps or in whole ones, and in every run of a client, the
bytes of each connection and of each attempt are kept in order. If the report that its task has come
to an end is taken in before it has begun to close, then all that was ever read was handed on before
that. -/
theorem bytes_keep_order {σ τ : Type} :
    (∀ (config : ServerConfig) (handler : Server.Handler σ) (memory : σ) (now : Instant),
      (∀ turns m, (Server.Machine.start config handler memory now).run turns = some m → ∀ id,
        m.system.KeepsOrder id (∃ cause, .move (.stream id (.fail cause)) ∈ turns) ∧
        ∀ failure rest, m.system.events = .ended id failure :: rest →
          .called (.closing id) ∉ m.server.trace → ∀ turns' m',
            m.run (.move .handle :: turns') = some m' → m.system.HandedAll m'.system id) ∧
      ∀ moves y, (Server.System.start config handler memory now).run moves = some y → ∀ id,
        y.KeepsOrder id (∃ cause, .stream id (.fail cause) ∈ moves) ∧
        ∀ failure rest, y.events = .ended id failure :: rest →
          .called (.closing id) ∉ y.server.trace → ∀ moves' y',
            y.run (.handle :: moves') = some y' → y.HandedAll y' id) ∧
    ∀ (config : ClientConfig) (target : Endpoint) (handler : Client.Handler τ) (memory : τ)
      (now : Instant),
      (∀ turns m, (Client.Machine.start config target handler memory now).run turns = some m →
        ∀ attempt,
          m.system.KeepsOrder attempt (∃ cause, .move (.stream attempt (.fail cause)) ∈ turns) ∧
          ∀ failure rest, m.system.events = .ended attempt failure :: rest →
            m.client.state = .connected → ∀ turns' m',
              m.run (.move .handle :: turns') = some m' → m.system.HandedAll m'.system attempt) ∧
      ∀ moves y, (Client.System.start config target handler memory now).run moves = some y →
        ∀ attempt, y.KeepsOrder attempt (∃ cause, .stream attempt (.fail cause) ∈ moves) ∧
          ∀ failure rest, y.events = .ended attempt failure :: rest →
            y.client.state = .connected → ∀ moves' y',
              y.run (.handle :: moves') = some y' → y.HandedAll y' attempt := by
  refine ⟨fun config handler memory now => ⟨fun turns m hrun id => ⟨?_, ?_⟩,
    fun moves y hrun id => ⟨?_, ?_⟩⟩, fun config target handler memory now =>
      ⟨fun turns m hrun attempt => ⟨?_, ?_⟩, fun moves y hrun attempt => ⟨?_, ?_⟩⟩⟩
  · exact (Server.Machine.balanced_of_run hrun id).keepsOrder
  · intro failure rest hevents hclosing turns' m' hrun'
    exact Server.Machine.handedAll_of_run hrun (Server.Machine.running_of_handle hrun') hevents
      hclosing hrun'
  · exact (Server.Machine.balanced_of_system_run hrun id).keepsOrder
  · intro failure rest hevents hclosing moves' y' hrun'
    -- Whole steps are played in small ones, from the same start.
    obtain ⟨turns, hturns, -⟩ := Server.Machine.plays_of_run hrun
    obtain ⟨turns', hturns', -⟩ := Server.Machine.plays_of_run hrun'
    exact Server.Machine.handedAll_of_run hturns (Server.System.running_of_handle hrun') hevents
      hclosing hturns'
  · exact (Client.Machine.balanced_of_run hrun attempt).keepsOrder
  · intro failure rest hevents hstate turns' m' hrun'
    exact Client.Machine.handedAll_of_run hrun (Client.Machine.running_of_handle hrun') hevents
      hstate hrun'
  · exact (Client.Machine.balanced_of_system_run hrun attempt).keepsOrder
  · intro failure rest hevents hstate moves' y' hrun'
    obtain ⟨turns, hturns, -⟩ := Client.Machine.plays_of_run hrun
    obtain ⟨turns', hturns', -⟩ := Client.Machine.plays_of_run hrun'
    exact Client.Machine.handedAll_of_run hturns (Client.System.running_of_handle hrun') hevents
      hstate hturns'

/-- A handler that sends back what it reads. -/
def Server.Handler.echo : Server.Handler Unit
  | .received id data, _ => .send id data fun _ => .done ()
  | _, _ => .done ()

/-- Steps in which a peer sends three bytes, gets back the first two, and is at its end. -/
def echoTurns : List Server.Turn :=
  [.move (.arrive (.peer .unspecifiedV4)), .move .accept, .proceed, .proceed,
    .move (.receive 1 [1, 2, 3]), .move (.stream 1 .go), .move (.stream 1 .go),
    .move (.stream 1 (.read 2)), .move .handle, .proceed, .proceed, .proceed, .move (.finish 1),
    .move (.stream 1 .go), .move (.stream 1 .go), .move (.stream 1 (.write 1)),
    .move (.stream 1 (.write 1)), .move (.stream 1 .go), .move (.stream 1 .go),
    .move (.stream 1 .go), .move (.stream 1 (.read 1)), .move (.stream 1 .go),
    .move (.stream 1 .go), .move (.stream 1 .go), .move .handle, .proceed, .proceed, .proceed]

/-- Steps in which the connection closes then. -/
def closeTurns : List Server.Turn :=
  [.move .handle, .proceed, .proceed, .proceed, .move (.stream 1 .go), .move (.stream 1 .go),
    .move (.stream 1 .go), .move .handle, .proceed, .proceed]

/-- Steps in which something is sent on a first attempt, and on a second one once the server has
closed the first. -/
def resendTurns : List Client.Turn :=
  [.move (.connect 1), .move .handle, .proceed, .proceed, .proceed,
    .move (.act (.send [7] fun _ => .done ())), .move (.finish 1), .move (.stream 1 .go),
    .move (.stream 1 .go), .move (.stream 1 (.write 1)), .move (.stream 1 .go),
    .move (.stream 1 .go), .move (.stream 1 .go), .move (.stream 1 .go), .move .handle, .proceed,
    .proceed, .proceed, .move (.stream 1 .go), .move (.stream 1 .go), .move (.stream 1 .go),
    .move .handle, .proceed, .proceed, .move (.pass (.ofMillis 1)), .move .tick,
    .move (.connect 2), .move .handle, .proceed, .proceed, .proceed,
    .move (.act (.send [8] fun _ => .done ())), .move (.stream 2 .go), .move (.stream 2 .go)]

/-- What the peer sent is handed on before the close, and what was sent on one attempt is not
written on the other. -/
theorem bytes_keep_order_echo :
    (∃ m m', (Server.Machine.start {} .echo () .zero).run echoTurns = some m ∧
      m.run closeTurns = some m' ∧ Server.payloads 1 m.server.trace = [[1, 2], [3]] ∧
      Server.handed 1 m.server.trace = [1, 2, 3] ∧ m.system.HandedAll m'.system 1 ∧
      m.system.KeepsOrder 1 (∃ cause, .move (.stream 1 (.fail cause)) ∈ echoTurns)) ∧
    ∃ m, (Client.Machine.start { heartbeatInterval := .ofMillis 1 } .unspecifiedV4 .silent ()
        .zero).run resendTurns = some m ∧
      Client.payloads 1 m.client.trace = [[7]] ∧ Client.payloads 2 m.client.trace = [[8]] ∧
      (∀ attempt, m.system.KeepsOrder attempt
        (∃ cause, .move (.stream attempt (.fail cause)) ∈ resendTurns)) := by
  obtain ⟨hserver, hclient⟩ := bytes_keep_order (σ := Unit) (τ := Unit)
  constructor
  · obtain ⟨m, m', hrun, hrun', hevents, hclosing, hpayloads, hhanded⟩ :
        ∃ m m', (Server.Machine.start {} .echo () .zero).run echoTurns = some m ∧
          m.run closeTurns = some m' ∧ m.system.events = [.ended 1 none] ∧
          (m.server.trace.elem (.called (.closing 1)) = false) ∧
          Server.payloads 1 m.server.trace = [[1, 2], [3]] ∧
          Server.handed 1 m.server.trace = [1, 2, 3] :=
      ⟨_, _, rfl, rfl, rfl, rfl, rfl, rfl⟩
    obtain ⟨horder, hall⟩ := (hserver {} .echo () .zero).1 _ m hrun 1
    have hnot : .called (.closing 1) ∉ m.server.trace := by simpa using hclosing
    exact ⟨m, m', hrun, hrun', hpayloads, hhanded, hall none [] hevents hnot _ m' hrun', horder⟩
  · obtain ⟨m, hrun, hfirst, hsecond⟩ :
        ∃ m, (Client.Machine.start { heartbeatInterval := .ofMillis 1 } .unspecifiedV4 .silent ()
            .zero).run resendTurns = some m ∧
          Client.payloads 1 m.client.trace = [[7]] ∧ Client.payloads 2 m.client.trace = [[8]] :=
      ⟨_, rfl, rfl, rfl⟩
    have hmachine := (hclient { heartbeatInterval := .ofMillis 1 } .unspecifiedV4 .silent ()
      .zero).1 _ m hrun
    exact ⟨m, hrun, hfirst, hsecond, fun attempt => (hmachine attempt).1⟩

end NetSession
