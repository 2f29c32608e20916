import NetSession.Proofs.Client.Runs
import NetSession.Proofs.Client.Whole

/-!
# One attempt at a time

The main result is `one_attempt_at_a_time`. While a client runs, there is at most one attempt whose
outcome is open or whose task has something to report, and all that waits in the mailbox comes of
the attempt at hand. An attempt begins at the start of the client, or at a tick at which it is
disconnected and may connect again (`attempts_step`). So there are no more attempts than ticks,
apart from the first.
-/

namespace NetSession.Client

variable {σ : Type}

/-- The attempts whose outcome is open, and those whose task has not reported that its socket is
closed. -/
def System.underway (y : System σ) : List Nat :=
  y.dials ++ (y.streams.toList.filter fun p => !p.2.phase.isLast).map Prod.fst

/-- At most one attempt is under way, and nothing waits that came of another one. -/
structure OneAtATime (y : System σ) : Prop where
  /-- At most one attempt is under way. -/
  underway : y.underway.length ≤ 1
  /-- Every event in the mailbox comes of the attempt at hand. -/
  current : ∀ event ∈ y.events, event.attempt = y.client.attempt
  /-- None of them is passed over. -/
  handled : ∀ event ∈ y.events, y.client.handle event = y.client.handleCurrent event

/-- What the client runs with, and how many attempts it has begun, are as before. -/
structure SameAttempt (c c' : Client σ) : Prop where
  /-- It runs as before. -/
  config : c'.config = c.config
  /-- No attempt was begun. -/
  attempt : c'.attempt = c.attempt

/-- A client that is disconnected may begin an attempt. -/
structure MayDial (c : Client σ) : Prop where
  /-- It is disconnected. -/
  state : c.state = .disconnected
  /-- It is to connect again. -/
  autoConnect : c.config.autoConnect = true
  /-- It has taken no request to shut down. -/
  stopping : c.stopping = false

/-- Between two states of a client no attempt was begun, or one by a tick at which it may do so. -/
inductive Attempts (isTick : Bool) (c c' : Client σ) : Prop where
  /-- No attempt was begun. -/
  | same (h : SameAttempt c c')
  /-- The next attempt was begun. -/
  | next (tick : isTick = true) (may : MayDial c) (config : c'.config = c.config)
      (attempt : c'.attempt = c.attempt + 1)

namespace SameAttempt

variable {c c' c'' : Client σ}

/-- Nothing has changed. -/
theorem refl (c : Client σ) : SameAttempt c c := ⟨rfl, rfl⟩

/-- Nothing has changed after one change and another. -/
theorem trans (h : SameAttempt c c') (h' : SameAttempt c' c'') : SameAttempt c c'' :=
  ⟨h'.config.trans h.config, h'.attempt.trans h.attempt⟩

/-- A calm change begins no attempt. -/
theorem of_calm (h : Calm c c') : SameAttempt c c' := ⟨h.config, h.attempt⟩

end SameAttempt

namespace Machine

variable {m m' : Machine σ} {scene : Scene}

/-! ## What is under way -/

/-- How far a task is that the system has. -/
theorem phase_of_mem {attempt : Nat} {stream : Stream}
    (hmem : (attempt, stream) ∈ m.system.streams.toList) :
    m.phase attempt = some stream.phase := by
  rw [phase, Std.TreeMap.mem_toList_iff_getElem?_eq_some.mp hmem]
  rfl

/-- A task that has not reported everything is that of the attempt at hand. -/
theorem Sound.eq_of_not_isLast (h : m.Sound scene) {attempt : Nat} {stream : Stream}
    (hmem : (attempt, stream) ∈ m.system.streams.toList) (hlast : stream.phase.isLast = false) :
    attempt = m.client.attempt := by
  obtain ⟨hle, holder⟩ := h.older attempt _ (phase_of_mem hmem)
  rcases Nat.lt_or_eq_of_le hle with hlt | heq
  · exact nomatch hlast.symm.trans (holder hlt)
  · exact heq

/-- At most one attempt is under way. -/
theorem Sound.length_underway (h : m.Sound scene) : m.system.underway.length ≤ 1 := by
  let tasks := (m.system.streams.toList.filter fun p => !p.2.phase.isLast).map Prod.fst
  have hmem {attempt : Nat} (hattempt : attempt ∈ tasks) :
      ∃ stream, (attempt, stream) ∈ m.system.streams.toList ∧ stream.phase.isLast = false := by
    obtain ⟨⟨attempt', stream⟩, hfilter, rfl⟩ := List.mem_map.mp hattempt
    obtain ⟨hstream, hlast⟩ := List.mem_filter.mp hfilter
    rw [Bool.not_eq_true'] at hlast
    exact ⟨stream, hstream, hlast⟩
  have hnodup : tasks.Nodup := by
    rw [List.Nodup, List.pairwise_map]
    apply ((Ascending.pairwise_toList m.system.streams).filter _).imp
    exact fun hlt => Nat.ne_of_lt hlt
  have hsubset : tasks ⊆ [m.client.attempt] := by
    intro attempt hattempt
    obtain ⟨stream, hstream, hlast⟩ := hmem hattempt
    exact List.mem_singleton.mpr (h.eq_of_not_isLast hstream hlast)
  have htasks : tasks.length ≤ 1 := (List.subperm_of_subset hnodup hsubset).length_le
  change (m.system.dials ++ tasks).length ≤ 1
  rw [h.dials]
  cases scene with
  | dialing =>
    -- The attempt at hand has no task yet, and the earlier ones have reported everything.
    have hnone : tasks = [] := by
      rw [List.eq_nil_iff_forall_not_mem]
      intro attempt hattempt
      obtain ⟨stream, hstream, hlast⟩ := hmem hattempt
      have heq := h.eq_of_not_isLast hstream hlast
      have hphase := phase_of_mem hstream
      rw [heq, h.task.2] at hphase
      exact nomatch hphase
    rw [hnone]
    exact Nat.le_refl 1
  | resting | answered | failing | failed | opening | opened | hanging | closing => exact htasks

/-- Every event in the mailbox comes of the attempt at hand. -/
theorem Sound.current (h : m.Sound scene) :
    ∀ event ∈ m.system.events, event.attempt = m.client.attempt := by
  have hoccurs {event : Event} {attempt : Nat}
      (hevent : event.IsOutcome attempt ∨ event.IsNews attempt) : event.attempt = attempt := by
    cases event with
    | connected | connectFailed => exact hevent.elim id False.elim
    | read | ended => exact hevent.elim False.elim id
    | closed => exact hevent.elim False.elim False.elim
  have htask := h.task
  intro event hmem
  cases scene with
  | resting | dialing | failing | failed | opening =>
    rw [htask.1] at hmem
    exact absurd hmem List.not_mem_nil
  | answered event' =>
    rw [htask.1, List.mem_singleton] at hmem
    exact hoccurs (.inl (hmem ▸ htask.2.1))
  | opened | hanging => exact hoccurs (.inr (htask.1 event hmem))
  | closing =>
    obtain ⟨news, p, hnews, -, hevents⟩ := htask
    rw [hevents, List.mem_append] at hmem
    rcases hmem with hmem | hmem
    · exact hoccurs (.inr (hnews event hmem))
    · split at hmem
      · rw [List.mem_singleton.mp hmem]
        rfl
      · exact absurd hmem List.not_mem_nil

/-- As long as the client runs, it makes one attempt at a time. -/
theorem Situated.oneAtATime (h : m.Situated) (hrunning : m.system.running = true) :
    OneAtATime m.system := by
  cases h with
  | running scene _ hsound =>
    refine ⟨hsound.length_underway, hsound.current, fun event hmem => ?_⟩
    unfold Client.handle
    rw [if_pos (hsound.current event hmem)]
  | stopped hstopped => exact nomatch hstopped.running.symm.trans hrunning

/-! ## When an attempt begins -/

/-- To begin to close is no attempt. -/
theorem sameAttempt_close (m : Machine σ) (jobs : List Job) :
    SameAttempt m.client (m.close jobs).client := by
  unfold Machine.close
  split
  · exact ⟨rfl, rfl⟩
  · exact .refl _

/-- To do a job is no attempt. -/
theorem sameAttempt_perform (m : Machine σ) (job : Job) :
    SameAttempt m.client (m.perform job).client := by
  cases job with
  | enter state callback => exact ⟨rfl, rfl⟩
  | spawn attempt => exact ⟨rfl, rfl⟩
  | signal =>
    simp only [Machine.perform, signalStop]
    split <;> exact ⟨rfl, rfl⟩
  | finish =>
    simp only [Machine.perform, System.stopIfDone]
    split <;> exact ⟨rfl, rfl⟩

/-- To take in an event is no attempt. -/
theorem sameAttempt_handle (m : Machine σ) (event : Event) :
    SameAttempt m.client (m.handle event).client := by
  unfold Machine.handle
  split
  · cases event with
    | connected attempt =>
      simp only
      split <;> exact ⟨rfl, rfl⟩
    | connectFailed attempt cause => exact ⟨rfl, rfl⟩
    | read attempt data =>
      simp only
      split <;> exact ⟨rfl, rfl⟩
    | ended attempt failure =>
      have hsaid := SameAttempt.of_calm (calm_sayEnded m.client failure)
      exact hsaid.trans (sameAttempt_close (m.setClient (m.client.sayEnded failure)) [.finish])
    | closed attempt => exact ⟨rfl, rfl⟩
  · exact ⟨rfl, rfl⟩

/-- To take a request to shut down is no attempt. -/
theorem sameAttempt_shutdown (m : Machine σ) : SameAttempt m.client m.shutdown.client := by
  have htaken : SameAttempt m.client m.client.takeShutdown := ⟨rfl, rfl⟩
  unfold Machine.shutdown
  simp only
  split
  · exact htaken.trans (sameAttempt_close (m.setClient m.client.takeShutdown) [])
  · exact htaken
  · exact ⟨rfl, rfl⟩
  · exact ⟨rfl, rfl⟩

/-- A tick begins an attempt only if the client may. -/
theorem attempts_tick (m : Machine σ) : Attempts true m.client m.tick.client := by
  unfold Machine.tick
  split
  · exact .same ⟨rfl, rfl⟩
  · next hstate =>
    simp only [System.update, client] at hstate ⊢
    unfold Client.tick
    simp only [hstate]
    split
    · next hdials =>
      rw [Bool.and_eq_true, Bool.not_eq_true'] at hdials
      exact .next rfl ⟨hstate, hdials.1, hdials.2⟩ rfl rfl
    · exact .same (.refl _)
  all_goals
    -- A client that is neither connected nor disconnected passes the tick over.
    next hstate =>
      have htick : m.client.tick = m.client := by simp only [Client.tick, hstate]
      rw [htick, update_of_attempt_eq rfl]
      exact .same (.refl _)

/-- The number of attempts grows only by a tick at which the client may begin one. -/
theorem attempts_step {turn : Turn} (hstep : m.step turn = some m') :
    Attempts turn.isTick m.client m'.client := by
  cases takes_of_step hstep with
  | advance hstage hadvance | leave hstage hadvance =>
    have hcalm := calm_advance hadvance
    exact .same ⟨hcalm.config, hcalm.attempt⟩
  | @perform job rest => exact .same (sameAttempt_perform { m with jobs := rest } job)
  | shutdown => exact .same (sameAttempt_shutdown m)
  | @handle event rest => exact .same (sameAttempt_handle (m.setEvents rest) event)
  | @tick timer => exact attempts_tick (m.setTimer (timer.tick m.system.now))
  | other _ haffects =>
    have haside := aside_of_affects haffects
    exact .same ⟨haside.config, haside.attempt⟩

/-- In a run there are no more attempts than ticks. -/
theorem attempt_le_of_run {turns : List Turn} (hrun : m.run turns = some m') :
    m'.client.attempt ≤ m.client.attempt + turns.countP Turn.isTick := by
  induction turns generalizing m with
  | nil =>
    obtain rfl := Option.some.inj hrun
    exact Nat.le_refl _
  | cons turn turns ih =>
    obtain ⟨next, hstep, hrest⟩ := Option.bind_eq_some_iff.mp hrun
    have hle := ih hrest
    rw [List.countP_cons]
    cases attempts_step hstep with
    | same hsame =>
      rw [hsame.attempt] at hle
      omega
    | next htick hmay hconfig hattempt =>
      rw [if_pos htick]
      omega

/-- A client that is not to connect again begins no attempt. -/
theorem attempt_eq_of_run {turns : List Turn} (hrun : m.run turns = some m')
    (hauto : m.client.config.autoConnect = false) : m'.client.attempt = m.client.attempt := by
  induction turns generalizing m with
  | nil =>
    obtain rfl := Option.some.inj hrun
    rfl
  | cons turn turns ih =>
    obtain ⟨next, hstep, hrest⟩ := Option.bind_eq_some_iff.mp hrun
    cases attempts_step hstep with
    | same hsame =>
      rw [← hsame.attempt]
      apply ih hrest
      rw [hsame.config]
      exact hauto
    | next htick hmay => exact nomatch hmay.autoConnect.symm.trans hauto

end Machine

/-- The attempts that a client has begun by some number of ticks. -/
structure Dialed (config : ClientConfig) (ticks : Nat) (c : Client σ) : Prop where
  /-- They are numbered from one on, and none is left out. -/
  numbered : dialings c.trace = List.range' 1 c.attempt
  /-- Apart from the first, there are no more of them than ticks. -/
  bounded : c.attempt ≤ 1 + ticks
  /-- There is only one, if the client is not to connect again. -/
  single : config.autoConnect = false → c.attempt = 1

/-- The attempts that were begun in any run of a client. -/
theorem Machine.dialed_of_run {config : ClientConfig} {target : Endpoint} {handler : Handler σ}
    {memory : σ} {now : Instant} {turns : List Turn} {m : Machine σ}
    (hrun : (Machine.start config target handler memory now).run turns = some m) :
    Dialed config (turns.countP Turn.isTick) m.client := by
  obtain ⟨spot, hrecorded⟩ := (Machine.situated_of_run hrun).recorded
  exact ⟨hrecorded.dialed, Machine.attempt_le_of_run hrun, Machine.attempt_eq_of_run hrun⟩

/-- In any run of a client, while it runs, at most one attempt is under way, and all that waits in
the mailbox comes of the attempt at hand. Attempts are counted: there is one, and at most one more
for each tick, in the whole run as in any part of it. A step begins an attempt only if it is a tick,
the client is disconnected and to connect again, and has taken no request to shut down. -/
theorem one_attempt_at_a_time (config : ClientConfig) (target : Endpoint) (handler : Handler σ)
    (memory : σ) (now : Instant) :
    (∀ turns m, (Machine.start config target handler memory now).run turns = some m →
      (m.system.running = true → OneAtATime m.system) ∧
      Dialed config (turns.countP Turn.isTick) m.client ∧
      (∀ turn m', m.step turn = some m' → dialings m'.client.trace = dialings m.client.trace ∨
        turn = .move .tick ∧ MayDial m.client ∧
          dialings m'.client.trace = dialings m.client.trace ++ [m.client.attempt + 1]) ∧
      ∀ turns' m', m.run turns' = some m' → (dialings m'.client.trace).length ≤
        (dialings m.client.trace).length + turns'.countP Turn.isTick) ∧
    ∀ moves y, (System.start config target handler memory now).run moves = some y →
      (y.running = true → OneAtATime y) ∧ Dialed config (moves.countP Move.isTick) y.client := by
  refine ⟨fun turns m hrun => ?_, fun moves y hrun => ?_⟩
  · have hsituated := Machine.situated_of_run hrun
    obtain ⟨spot, hrecorded⟩ := hsituated.recorded
    refine ⟨hsituated.oneAtATime, Machine.dialed_of_run hrun, fun turn m' hstep => ?_,
      fun turns' m' hrun' => ?_⟩
    · -- The list of attempts is as long as their count says, before and after.
      obtain ⟨spot', hrecorded'⟩ := (hsituated.step hstep).recorded
      rw [hrecorded.dialed, hrecorded'.dialed]
      cases Machine.attempts_step hstep with
      | same hsame =>
        rw [hsame.attempt]
        exact .inl rfl
      | next htick hmay hconfig hattempt =>
        rw [hattempt, List.range'_concat, Nat.one_mul, Nat.add_comm 1]
        exact .inr ⟨Turn.eq_of_isTick htick, hmay, rfl⟩
    · obtain ⟨spot', hrecorded'⟩ := (hsituated.run hrun').recorded
      rw [hrecorded.dialed, hrecorded'.dialed, List.length_range', List.length_range']
      exact Machine.attempt_le_of_run hrun'
  · -- A run of the system is one of the machine, which is at nothing in the end.
    obtain ⟨turns, hturns, hticks⟩ := Machine.reaches_of_run hrun
    have hsituated : (⟨y, none, []⟩ : Machine σ).Situated := Machine.situated_of_run hturns
    rw [← hticks]
    exact ⟨hsituated.oneAtATime, Machine.dialed_of_run hturns⟩

/-- Steps in which the server closes the first connection, and a tick begins the next attempt. -/
def reconnectTurns : List Turn :=
  [.move (.connect 1), .move .handle, .proceed, .proceed, .proceed, .move (.finish 1),
    .move (.stream 1 .go), .move (.stream 1 .go), .move (.stream 1 .go), .move .handle, .proceed,
    .proceed, .proceed, .move (.stream 1 .go), .move (.stream 1 .go), .move (.stream 1 .go),
    .move .handle, .proceed, .proceed, .move (.pass (.ofMillis 1)), .move .tick]

/-- The same in whole steps. -/
def reconnectMoves : List Move :=
  [.connect 1, .handle, .finish 1, .stream 1 .go, .stream 1 .go, .stream 1 .go, .handle,
    .stream 1 .go, .stream 1 .go, .stream 1 .go, .handle, .pass (.ofMillis 1), .tick]

/-- In these steps there are two attempts, of which only the second is under way in the end. -/
theorem one_attempt_at_a_time_reconnect :
    (∃ m, (Machine.start { heartbeatInterval := .ofMillis 1 } .unspecifiedV4 Handler.silent ()
        .zero).run reconnectTurns = some m ∧
      m.system.underway = [2] ∧ m.system.underway.length ≤ 1 ∧
      dialings m.client.trace = List.range' 1 2) ∧
    ∃ y, (System.start { heartbeatInterval := .ofMillis 1 } .unspecifiedV4 Handler.silent ()
        .zero).run reconnectMoves = some y ∧
      y.underway = [2] ∧ y.underway.length ≤ 1 ∧ y.client.attempt ≤ 1 + 1 := by
  obtain ⟨hmachine, hsystem⟩ := one_attempt_at_a_time { heartbeatInterval := .ofMillis 1 }
    .unspecifiedV4 Handler.silent () .zero
  constructor
  · obtain ⟨m, hrun, hrunning, hunderway, hattempt⟩ :
        ∃ m, (Machine.start { heartbeatInterval := .ofMillis 1 } .unspecifiedV4 Handler.silent ()
            .zero).run reconnectTurns = some m ∧
          m.system.running = true ∧ m.system.underway = [2] ∧ m.client.attempt = 2 :=
      ⟨_, rfl, rfl, rfl, rfl⟩
    obtain ⟨hone, hdialed, -⟩ := hmachine _ m hrun
    exact ⟨m, hrun, hunderway, (hone hrunning).underway, hattempt ▸ hdialed.numbered⟩
  · obtain ⟨y, hrun, hrunning, hunderway⟩ :
        ∃ y, (System.start { heartbeatInterval := .ofMillis 1 } .unspecifiedV4 Handler.silent ()
            .zero).run reconnectMoves = some y ∧ y.running = true ∧ y.underway = [2] :=
      ⟨_, rfl, rfl, rfl⟩
    obtain ⟨hone, hdialed⟩ := hsystem _ y hrun
    exact ⟨y, hrun, hunderway, (hone hrunning).underway, hdialed.bounded⟩

end NetSession.Client
