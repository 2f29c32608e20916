import NetSession.Proofs.Server.Course
import NetSession.Proofs.Server.Whole

/-!
# Who is told to stop

The signal to stop is given once for each connection, and the task looks for it at two places only.
It is not lost in between: a closing connection has the signal until its task takes it, whatever
the task is at when the signal comes (`Sight.Heeding`). So the task of a closing connection can
always take a step without its peer, but for one place: in the middle of a payload it does not look
for the signal, and stays there until the peer takes bytes or the socket fails
(`closing_heeds_signal`).
-/

namespace NetSession

namespace Stream

/-- Whether a step of a task needs nothing of the peer that is not at the socket already. A write
does: once its buffers are full, a socket takes no bytes before the peer has read some. -/
def Move.isOwn : Move → Bool
  | .go | .read _ => true
  | .write _ | .fail _ => false

/-- Whether a task is in the middle of a payload. -/
def Phase.isWriting : Phase → Bool
  | .writing (_ :: _) => true
  | _ => false

/-- In the middle of a payload some of it is left. -/
theorem Phase.exists_of_isWriting {p : Phase} (h : p.isWriting = true) :
    ∃ a rest, p = .writing (a :: rest) := by
  rw [isWriting.eq_def] at h
  split at h
  · next a rest => exact ⟨a, rest, rfl⟩
  · cases h

variable {s : Stream} {link : Link} {heard : Bool}

/-- In the middle of a payload there is nothing to do without the peer. -/
theorem step_of_isWriting (hphase : s.phase.isWriting = true) {move : Move}
    (hmove : move.isOwn = true) : s.step link heard move = none := by
  obtain ⟨a, rest, hwriting⟩ := Phase.exists_of_isWriting hphase
  cases move with
  | go => simp only [step, go, hwriting]
  | read count => simp [step, read, hwriting]
  | write | fail => exact absurd hmove Bool.false_ne_true

/-- Where a task looks for the signal, it takes it. -/
theorem go_of_stop (hphase : s.phase = .looking .stop ∨ s.phase = .waiting)
    (hstop : link.stop = true) :
    s.step link heard .go = some ({ s with phase := .shutting }, link.takeStop, none) := by
  rcases hphase with hphase | hphase <;> simp only [step, go, hphase, hstop, if_true]

/-- A task that is told to stop has something to do, unless it is in the middle of a payload or has
ended. -/
theorem exists_own_step (hstop : link.stop = true ∨ s.phase.isPast = true)
    (hended : s.phase ≠ .ended) (hwriting : s.phase.isWriting = false) :
    ∃ move, move.isOwn = true ∧ (s.step link true move).isSome = true := by
  have hgo (hsome : (s.step link true .go).isSome = true) :
      ∃ move, move.isOwn = true ∧ (s.step link true move).isSome = true := ⟨.go, rfl, hsome⟩
  cases hphase : s.phase with
  | looking turn =>
    cases turn with
    | stop | queue =>
      apply hgo
      simp only [step, go, hphase]
      split <;> rfl
    | socket =>
      cases harrived : s.arrived with
      | nil =>
        apply hgo
        cases hending : s.ending <;> simp only [step, go, hphase, harrived, hending] <;> rfl
      | cons a rest =>
        -- What has arrived is read.
        refine ⟨.read 1, rfl, ?_⟩
        simp [step, read, hphase, harrived, readSize]
  | writing rest =>
    cases rest with
    | nil => exact hgo (by simp only [step, go, hphase]; rfl)
    | cons a rest => simp [hphase, Phase.isWriting] at hwriting
  | waiting =>
    have hthere : link.stop = true := hstop.resolve_right (by simp [hphase, Phase.isPast])
    exact hgo (by rw [go_of_stop (.inr hphase) hthere]; rfl)
  | shutting | reporting | leaving => exact hgo (by simp only [step, go, hphase]; rfl)
  | ended => exact absurd hphase hended

end Stream

namespace Server

variable {σ : Type} {id : ConnId} {turn : Turn} {v v' : Sight}

/-! ## The signal is kept -/

/-- What holds of a connection at all times, so that it hears the signal to stop. -/
structure Sight.Heeding (id : ConnId) (v : Sight) : Prop where
  /-- A connection has a task, once the callback that tells of it is over. -/
  started : v.mark ≠ none → v.phase ≠ none ∨ ∃ b, v.own = some (.accepted id, b)
  /-- A closing connection has a task. -/
  spawned : ∀ stopped, v.mark = some (true, stopped) → v.phase ≠ none
  /-- Once the closing callback is over, the signal is there until the task takes it. -/
  signalled : ∀ stopped, v.mark = some (true, stopped) →
    stopped = true ∨ v.phase.any (·.isPast) = true ∨ ∃ b, v.own = some (.closing id, b)

namespace Sight.Heeding

/-- A connection has a task when the server is not in the callback that tells of it. -/
theorem phase_ne_none (h : v.Heeding id) (hmark : v.mark ≠ none)
    (hown : ∀ b, v.own ≠ some (.accepted id, b)) : v.phase ≠ none :=
  (h.started hmark).resolve_right fun ⟨b, heq⟩ => hown b heq

/-- The signal is there or was taken when the server is not in the closing callback. -/
theorem isPast_of_not_stop (h : v.Heeding id) {stopped : Bool}
    (hmark : v.mark = some (true, stopped)) (hown : ∀ b, v.own ≠ some (.closing id, b)) :
    stopped = true ∨ v.phase.any (·.isPast) = true :=
  (h.signalled stopped hmark).imp_right (·.resolve_right fun ⟨b, heq⟩ => hown b heq)

/-- Nothing that happens loses the signal. -/
theorem course (h : v.Heeding id) (hcourse : Course id turn v v') : v'.Heeding id := by
  cases hcourse with
  | rest => exact h
  | accept mark own => exact ⟨fun _ => .inr ⟨false, rfl⟩, nofun, nofun⟩
  | close mark own =>
    -- It was accepted before, and so it has a task.
    have hphase := h.phase_ne_none (fun hnone => nomatch hnone.symm.trans mark)
      fun b heq => nomatch own.symm.trans heq
    exact ⟨fun _ => .inl hphase, fun _ _ => hphase, fun _ _ => .inr (.inr ⟨false, rfl⟩)⟩
  | takeReport own =>
    refine ⟨fun hmark => .inl ?_, h.spawned, fun stopped hmark => ?_⟩
    · exact h.phase_ne_none hmark fun b heq => nomatch own.symm.trans heq
    · exact (h.isPast_of_not_stop hmark fun b heq => nomatch own.symm.trans heq).imp_right .inl
  | @returns callback own =>
    -- The server is in the same callback as before.
    have hsame {callback' : Callback} :
        (∃ b, v.own = some (callback', b)) → ∃ b, some (callback, true) = some (callback', b) := by
      rintro ⟨b, heq⟩
      obtain ⟨rfl, -⟩ := Prod.mk.inj (Option.some.inj (own.symm.trans heq))
      exact ⟨true, rfl⟩
    refine ⟨fun hmark => (h.started hmark).imp_right hsame, h.spawned, fun stopped hmark => ?_⟩
    exact (h.signalled stopped hmark).imp_right (.imp_right hsame)
  | spawn own phase =>
    refine ⟨fun _ => .inl nofun, fun _ _ => nofun, fun stopped hmark => ?_⟩
    exact absurd phase (h.spawned stopped hmark)
  | signal own =>
    have hphase (hmark : v.mark.map (fun mark => (mark.1, true)) ≠ none) : v.phase ≠ none :=
      h.phase_ne_none (fun hnone => hmark (Option.map_eq_none_iff.mpr hnone))
        fun b heq => nomatch own.symm.trans heq
    refine ⟨fun hmark => .inl (hphase hmark), fun stopped hmark => hphase ?_, ?_⟩
    · exact fun hnone => nomatch hnone.symm.trans hmark
    · intro stopped hmark
      obtain ⟨_, -, heq⟩ := Option.map_eq_some_iff.mp hmark
      exact .inl (Prod.mk.inj heq).2.symm
  | release own =>
    refine ⟨fun hmark => .inl ?_, h.spawned, fun stopped hmark => ?_⟩
    · exact h.phase_ne_none hmark fun b heq => nomatch own.symm.trans heq
    · exact (h.isPast_of_not_stop hmark fun b heq => nomatch own.symm.trans heq).imp_right .inl
  | task turn_eq mark phase step =>
    refine ⟨fun _ => .inl nofun, fun _ _ => nofun, fun stopped hmark => ?_⟩
    obtain ⟨rfl, rfl⟩ := Prod.mk.inj (Option.some.inj hmark)
    have hbefore := h.signalled _ mark
    rw [phase, Option.any_some] at hbefore
    -- The task goes on with its work and leaves the signal there, or is on its way out.
    cases Stream.onward_of_step step with
    | work before after shut stop =>
      rw [stop]
      exact hbefore.imp_right fun hrest =>
        .inr (hrest.resolve_left fun hpast => nomatch before.symm.trans hpast)
    | stop | shut | report | leave => exact .inr (.inl rfl)

end Sight.Heeding

/-! ## Who is in the middle of a payload -/

/-- A task in the middle of a payload stays there as long as the peer takes no bytes and the socket
does not fail. -/
theorem Course.phase_eq {p : Stream.Phase} (hcourse : Course id turn v v')
    (hphase : v.phase = some p) (hwriting : p.isWriting = true)
    (hturn : ∀ move, turn = .move (.stream id move) → move.isOwn = true) :
    v'.phase = some p := by
  cases hcourse with
  | rest | accept | close | takeReport | returns | signal | release => exact hphase
  | spawn own phase => exact nomatch phase.symm.trans hphase
  | task turn_eq mark phase step =>
    obtain rfl := Option.some.inj (phase.symm.trans hphase)
    exact nomatch (Stream.step_of_isWriting hwriting (hturn _ turn_eq)).symm.trans step

namespace Machine

variable {m m' : Machine σ}

/-- A server that was just started has no connection that could miss anything. -/
theorem heeding_start (config : ServerConfig) (handler : Handler σ) (memory : σ) (now : Instant)
    (id : ConnId) : ((start config handler memory now).sight id).Heeding id := by
  have hmark : ((start config handler memory now).sight id).mark = none := by
    change ((∅ : Std.TreeMap Ref Connection)[id]?).map (fun c => (c.closing, c.link.stop)) = none
    rw [Std.TreeMap.getElem?_emptyc]
    rfl
  constructor
  · exact fun hne => absurd hmark hne
  · exact fun stopped heq => nomatch hmark.symm.trans heq
  · exact fun stopped heq => nomatch hmark.symm.trans heq

/-- No run loses a signal. -/
theorem Orderly.heeding_run (h : m.Orderly) {turns : List Turn} (hrun : m.run turns = some m')
    (hrunning : m'.system.running = true) (hheeding : (m.sight id).Heeding id) :
    (m'.sight id).Heeding id := by
  induction turns generalizing m with
  | nil =>
    obtain rfl := Option.some.inj hrun
    exact hheeding
  | cons turn turns ih =>
    obtain ⟨next, hstep, hrest⟩ := Option.bind_eq_some_iff.mp hrun
    have hnext := running_of_run hrest hrunning
    exact ih (h.step hstep hnext) hrest (hheeding.course (h.course hstep hnext id))

/-- In no run does a task leave the middle of a payload before the peer takes bytes or the socket
fails. -/
theorem Orderly.phase_run (h : m.Orderly) {p : Stream.Phase} (hphase : (m.view id).phase = some p)
    (hwriting : p.isWriting = true) {turns : List Turn}
    (hturns : ∀ move, .move (.stream id move) ∈ turns → move.isOwn = true)
    (hrun : m.run turns = some m') (hrunning : m'.system.running = true) :
    (m'.view id).phase = some p := by
  induction turns generalizing m with
  | nil =>
    obtain rfl := Option.some.inj hrun
    exact hphase
  | cons turn turns ih =>
    obtain ⟨next, hstep, hrest⟩ := Option.bind_eq_some_iff.mp hrun
    have hnext := running_of_run hrest hrunning
    refine ih (h.step hstep hnext) ?_ (fun move hmem => hturns move (.tail _ hmem)) hrest
    apply (h.course hstep hnext id).phase_eq hphase hwriting
    rintro move rfl
    exact hturns move (.head _)

/-- Before its task has reported that the socket is closed, a connection is in the table, and the
closed callback was not called. -/
theorem Orderly.listed_of_phase (h : m.Orderly) {p : Stream.Phase}
    (hphase : (m.view id).phase = some p) (hlast : p.isLast = false) :
    .called (.closed id) ∉ m.trace ∧ id ∈ m.server.roster.table.ids := by
  have hid := h.view id
  have hcalled : .called (.closed id) ∉ m.trace := by
    have hreported := List.count_eq_zero.mpr (hid.not_reported hphase hlast)
    have hmail := hid.mail
    rw [← List.count_eq_zero]
    omega
  have hmark : (m.view id).mark ≠ none := by
    intro hnone
    exact nomatch hphase.symm.trans (hid.blank hnone).2.1
  have hlive := (hid.live hmark).resolve_right fun hreturned =>
    hcalled (hid.called (.closed id) rfl (.inr hreturned))
  obtain ⟨ref, hget⟩ := Option.ne_none_iff_exists'.mp hlive
  exact ⟨hcalled, List.mem_map.mpr ⟨(id, ref), h.sound.mem_toList.mpr hget, rfl⟩⟩

/-- In the middle of a payload a task stays, and the connection in the table, as long as the peer
takes no bytes and the socket does not fail. -/
theorem Orderly.held (h : m.Orderly) {p : Stream.Phase} (hphase : (m.view id).phase = some p)
    (hwriting : p.isWriting = true) {turns : List Turn}
    (hturns : ∀ move, .move (.stream id move) ∈ turns → move.isOwn = true)
    (hrun : m.run turns = some m') (hrunning : m'.system.running = true) :
    (m'.view id).phase = some p ∧ .called (.closed id) ∉ m'.trace ∧
      id ∈ m'.server.roster.table.ids := by
  have hend := h.phase_run hphase hwriting hturns hrun hrunning
  obtain ⟨a, rest, rfl⟩ := Stream.Phase.exists_of_isWriting hwriting
  exact ⟨hend, (h.run hrun hrunning).listed_of_phase hend rfl⟩

/-- The server goes on when it is in a callback. -/
theorem isSome_step_proceed {tag : Callback × Bool} (htag : m.stage.tag = some tag) :
    (m.step .proceed).isSome = true := by
  cases hstage : m.stage with
  | free =>
    rw [hstage] at htag
    exact nomatch htag
  | running callback rest =>
    simp only [step, proceed, hstage]
    split <;> rfl
  | returned callback =>
    simp only [step, proceed, hstage]
    rfl

/-- The task of a connection takes a step, whatever the server is at. -/
theorem step_stream (m : Machine σ) (id : ConnId) (move : Stream.Move) :
    m.step (.move (.stream id move)) =
      (m.system.stepStream id move).map fun system => { m with system := system } := by
  simp only [step, Move.isServer, Bool.false_and, Bool.false_eq_true, if_false]
  rfl

variable {c : Connection} {stream : Stream}

/-- The task of a connection can take the steps that its stream can take. -/
theorem isSome_step_stream (hrunning : m.system.running = true)
    (hc : m.server.pool.get? id = some c) (hstream : m.system.streams[id]? = some stream)
    (move : Stream.Move) :
    (m.step (.move (.stream id move))).isSome = (stream.step c.link true move).isSome := by
  rw [step_stream, Option.isSome_map, System.stepStream, hstream, hc, hrunning]
  simp only [Option.bind_eq_bind, Option.bind_some]
  cases stream.step c.link true move with
  | none => rfl
  | some outcome =>
    obtain ⟨after, link, report⟩ := outcome
    cases report <;> rfl

/-- The task of a connection takes a step that its stream can take, and leaves what that leaves. -/
theorem exists_step_stream (hc : m.server.pool.get? id = some c)
    (hstream : m.system.streams[id]? = some stream) {move : Stream.Move}
    {outcome : Stream.Outcome}
    (hmove : stream.step c.link m.system.running move = some outcome) :
    ∃ y, m.step (.move (.stream id move)) = some { m with system := y } ∧
      System.StreamStep m.system y id c stream outcome.1 outcome.2.1
        (outcome.2.2.map (System.eventOf id)).toList := by
  obtain ⟨y, hy⟩ : ∃ y, m.system.stepStream id move = some y := by
    simp only [System.stepStream, hstream, hc, hmove, Option.bind_eq_bind, Option.bind_some]
    split <;> exact ⟨_, rfl⟩
  obtain ⟨before, c', after, link, report, hbefore, hc', hstep, hleft⟩ :=
    System.stepStream_cases hy
  obtain rfl := Option.some.inj (hbefore.symm.trans hstream)
  obtain rfl := Option.some.inj (hc'.symm.trans hc)
  obtain rfl := Option.some.inj (hmove.symm.trans hstep)
  refine ⟨y, ?_, hleft⟩
  rw [step_stream, hy]
  rfl

/-- Where the task of a connection looks for the signal, it takes it. -/
theorem step_go_of_stop (hc : m.server.pool.get? id = some c)
    (hstream : m.system.streams[id]? = some stream)
    (hphase : stream.phase = .looking .stop ∨ stream.phase = .waiting)
    (hstop : c.link.stop = true) :
    ∃ m', m.step (.move (.stream id .go)) = some m' ∧ (m'.view id).phase = some .shutting := by
  obtain ⟨y, hstep, hleft⟩ := exists_step_stream hc hstream (Stream.go_of_stop hphase hstop)
  exact ⟨_, hstep, congrArg View.phase hleft.view_self⟩

/-- What is true of a closing connection with its task, once the closing callback is over. -/
structure Heeds (m : Machine σ) (id : ConnId) (c : Connection) (stream : Stream) : Prop where
  /-- The signal is there, or the task has taken it. -/
  signalled : c.link.stop = true ∨ stream.phase.isPast = true
  /-- Where the task looks for the signal, it takes it. -/
  taken : stream.phase = .looking .stop ∨ stream.phase = .waiting →
    ∃ m', m.step (.move (.stream id .go)) = some m' ∧ (m'.view id).phase = some .shutting
  /-- Before it has reported that the socket is closed, the task can do something without its peer,
  unless it is in the middle of a payload. -/
  own_step_iff : stream.phase.isLast = false →
    ((∃ move, move.isOwn = true ∧ (m.step (.move (.stream id move))).isSome = true) ↔
      stream.phase.isWriting = false)
  /-- In the middle of a payload it stays, and the connection in the table, as long as the peer
  takes no bytes and the socket does not fail. -/
  held : stream.phase.isWriting = true → ∀ turns m',
    (∀ move, .move (.stream id move) ∈ turns → move.isOwn = true) → m.run turns = some m' →
      m'.system.running = true → (m'.view id).phase = some stream.phase ∧
        .called (.closed id) ∉ m'.trace ∧ id ∈ m'.server.roster.table.ids

/-- A closing connection has its task, and heeds the signal once the closing callback is over. -/
theorem Orderly.heeds (h : m.Orderly) (hrunning : m.system.running = true)
    (hheeding : (m.sight id).Heeding id) (hc : m.server.pool.get? id = some c)
    (hclosing : c.closing = true) : ∃ stream, m.system.streams[id]? = some stream ∧
      ((∃ b, m.stage.tag = some (.closing id, b)) ∨ m.Heeds id c stream) := by
  have hmark : (m.sight id).mark = some (true, c.link.stop) := hclosing ▸ view_mark hc
  obtain ⟨p, hp⟩ := Option.ne_none_iff_exists'.mp (hheeding.spawned _ hmark)
  obtain ⟨stream, hstream, rfl⟩ := Option.map_eq_some_iff.mp hp
  refine ⟨stream, hstream, ?_⟩
  by_cases hcallback : ∃ b, m.stage.tag = some (.closing id, b)
  · exact .inl hcallback
  · right
    have hsignal : c.link.stop = true ∨ stream.phase.isPast = true := by
      have hown (b : Bool) : (m.sight id).own ≠ some (.closing id, b) := by
        intro heq
        exact hcallback ⟨b, (Option.filter_eq_some_iff.mp heq).1⟩
      have hsignal := hheeding.isPast_of_not_stop hmark hown
      rwa [hp, Option.any_some] at hsignal
    have hsteps := isSome_step_stream hrunning hc hstream
    constructor
    · exact hsignal
    · intro hlooks
      refine step_go_of_stop hc hstream hlooks (hsignal.resolve_right ?_)
      rcases hlooks with hlooks | hlooks <;> (rw [hlooks]; exact nofun)
    · intro hlast
      simp only [hsteps]
      constructor
      · rintro ⟨move, hmove, hsome⟩
        by_contra hwriting
        rw [Stream.step_of_isWriting (Bool.not_eq_false _ ▸ hwriting) hmove] at hsome
        exact nomatch hsome
      · refine Stream.exists_own_step hsignal fun hended => ?_
        rw [hended] at hlast
        exact nomatch hlast
    · exact fun hwriting turns m' => h.held hp hwriting

end Machine

/-- In every run, whatever the order of steps and whatever the peers do, every closing connection of
a server that runs has its task. If the server is in the closing callback still, it goes on with
that. Otherwise the task heeds the signal to stop. -/
theorem closing_heeds_signal (config : ServerConfig) (handler : Handler σ) (memory : σ)
    (now : Instant) :
    (∀ turns m, (Machine.start config handler memory now).run turns = some m →
      m.system.running = true → ∀ id c, m.server.pool.get? id = some c → c.closing = true →
        ∃ stream, m.system.streams[id]? = some stream ∧
          ((∃ b, m.stage.tag = some (.closing id, b)) ∧ (m.step .proceed).isSome = true ∨
            m.Heeds id c stream)) ∧
    (∀ moves y, (System.start config handler memory now).run moves = some y →
      y.running = true → ∀ id c, y.server.pool.get? id = some c → c.closing = true →
        ∃ stream, y.streams[id]? = some stream ∧
          Machine.Heeds ⟨y, .free, []⟩ id c stream) := by
  have hmachine (turns : List Turn) (m : Machine σ)
      (hrun : (Machine.start config handler memory now).run turns = some m)
      (hrunning : m.system.running = true) (id : ConnId) (c : Connection)
      (hc : m.server.pool.get? id = some c) (hclosing : c.closing = true) :
      ∃ stream, m.system.streams[id]? = some stream ∧
        ((∃ b, m.stage.tag = some (.closing id, b)) ∨ m.Heeds id c stream) := by
    have hstart := Machine.orderly_start config handler memory now
    have hheeding := hstart.heeding_run hrun hrunning
      (Machine.heeding_start config handler memory now id)
    exact (hstart.run hrun hrunning).heeds hrunning hheeding hc hclosing
  constructor
  · intro turns m hrun hrunning id c hc hclosing
    obtain ⟨stream, hstream, hheeds⟩ := hmachine turns m hrun hrunning id c hc hclosing
    refine ⟨stream, hstream, hheeds.imp_left fun ⟨b, htag⟩ => ⟨⟨b, htag⟩, ?_⟩⟩
    exact Machine.isSome_step_proceed htag
  · -- A run of the system is one of the machine, which is in no callback in the end.
    intro moves y hrun hrunning id c hc hclosing
    obtain ⟨turns, hturns⟩ := Machine.reaches_of_run hrun
    obtain ⟨stream, hstream, hheeds⟩ := hmachine turns _ hturns hrunning id c hc hclosing
    exact ⟨stream, hstream, hheeds.resolve_left fun ⟨b, htag⟩ => nomatch htag⟩

/-- Steps in which a peer leaves, and the server begins to close its connection. -/
def partingTurns : List Turn :=
  [.move (.arrive (.peer .unspecifiedV4)), .move .accept, .proceed, .proceed, .move (.finish 1),
    .move (.stream 1 .go), .move (.stream 1 .go), .move (.stream 1 .go), .move .handle, .proceed,
    .proceed, .proceed]

/-- The same in whole steps. -/
def partingMoves : List Move :=
  [.arrive (.peer .unspecifiedV4), .accept, .finish 1, .stream 1 .go, .stream 1 .go, .stream 1 .go,
    .handle]

/-- A task that waits for the signal takes it. -/
theorem closing_heeds_signal_parting :
    (∃ m m', (Machine.start {} Handler.silent () .zero).run partingTurns = some m ∧
      m.step (.move (.stream 1 .go)) = some m' ∧ (m'.view 1).phase = some .shutting) ∧
    ∃ y, (System.start {} Handler.silent () .zero).run partingMoves = some y ∧
      ∃ m', Machine.step ⟨y, .free, []⟩ (.move (.stream 1 .go)) = some m' ∧
        (m'.view 1).phase = some .shutting := by
  obtain ⟨hmachine, hsystem⟩ := closing_heeds_signal {} Handler.silent () .zero
  constructor
  · obtain ⟨m, c, stream, hrun, hrunning, hc, hclosing, hstream, hphase, hfree⟩ :
        ∃ m c stream, (Machine.start {} Handler.silent () .zero).run partingTurns = some m ∧
          m.system.running = true ∧ m.server.pool.get? 1 = some c ∧ c.closing = true ∧
          m.system.streams[1]? = some stream ∧ stream.phase = .waiting ∧ m.stage.tag = none :=
      ⟨_, _, _, rfl, rfl, rfl, rfl, rfl, rfl, rfl⟩
    obtain ⟨stream', hstream', hheeds⟩ := hmachine _ m hrun hrunning 1 c hc hclosing
    obtain rfl := Option.some.inj (hstream'.symm.trans hstream)
    rcases hheeds with ⟨⟨b, htag⟩, -⟩ | hheeds
    · exact nomatch hfree.symm.trans htag
    · obtain ⟨m', hstep, hshutting⟩ := hheeds.taken (.inr hphase)
      exact ⟨m, m', hrun, hstep, hshutting⟩
  · obtain ⟨y, c, stream, hrun, hrunning, hc, hclosing, hstream, hphase⟩ :
        ∃ y c stream, (System.start {} Handler.silent () .zero).run partingMoves = some y ∧
          y.running = true ∧ y.server.pool.get? 1 = some c ∧ c.closing = true ∧
          y.streams[1]? = some stream ∧ stream.phase = .waiting :=
      ⟨_, _, _, rfl, rfl, rfl, rfl, rfl, rfl⟩
    obtain ⟨stream', hstream', hheeds⟩ := hsystem _ y hrun hrunning 1 c hc hclosing
    obtain rfl := Option.some.inj (hstream'.symm.trans hstream)
    exact ⟨y, hrun, hheeds.taken (.inr hphase)⟩

/-- Steps in which a peer takes half of what it is sent, and then all connections are to be
closed. -/
def payloadTurns : List Turn :=
  [.move (.arrive (.peer .unspecifiedV4)), .move .accept, .proceed, .proceed,
    .move (.act (.send 1 [0, 0] fun _ => .done ())), .move (.stream 1 .go), .move (.stream 1 .go),
    .move (.stream 1 (.write 1)), .move (.command .disconnectAll), .move .serve, .proceed, .proceed,
    .proceed, .proceed]

/-- A closing connection whose peer takes no more is stuck: its task has the signal, but no step
that it could take, and unless the peer takes bytes or the socket fails, it stays in the table for
ever, and the closed callback is never called. -/
theorem closing_stuck_in_payload :
    ∃ m c, (Machine.start {} Handler.silent () .zero).run payloadTurns = some m ∧
      m.system.running = true ∧ m.stage.tag = none ∧ m.server.pool.get? 1 = some c ∧
      c.closing = true ∧ c.link.stop = true ∧
      (∀ move, move.isOwn = true → m.step (.move (.stream 1 move)) = none) ∧
      ∀ turns m', (∀ move, .move (.stream 1 move) ∈ turns → move.isOwn = true) →
        m.run turns = some m' → m'.system.running = true →
          .called (.closed 1) ∉ m'.trace ∧ 1 ∈ m'.server.roster.table.ids := by
  obtain ⟨m, c, stream, hrun, hrunning, hfree, hc, hclosing, hstop, hstream, hwriting⟩ :
      ∃ m c stream, (Machine.start {} Handler.silent () .zero).run payloadTurns = some m ∧
        m.system.running = true ∧ m.stage.tag = none ∧ m.server.pool.get? 1 = some c ∧
        c.closing = true ∧ c.link.stop = true ∧ m.system.streams[1]? = some stream ∧
        stream.phase = .writing [0] :=
    ⟨_, _, _, rfl, rfl, rfl, rfl, rfl, rfl, rfl, rfl⟩
  have hmiddle : stream.phase.isWriting = true := by rw [hwriting]; rfl
  have horderly := (Machine.orderly_start {} Handler.silent () .zero).run hrun hrunning
  have hphase := Machine.view_phase hstream
  refine ⟨m, c, hrun, hrunning, hfree, hc, hclosing, hstop, fun move hmove => ?_, ?_⟩
  · rw [← Option.isNone_iff_eq_none, ← Option.not_isSome,
      Machine.isSome_step_stream hrunning hc hstream, Stream.step_of_isWriting hmiddle hmove]
    rfl
  · intro turns m' hturns hrest hrunning'
    exact (horderly.held hphase hmiddle hturns hrest hrunning').2

end Server

end NetSession
