import NetSession.Proofs.Client.Attempts
import NetSession.Proofs.Client.Requests

/-!
# How a client shuts down

The main result is `shutdown_runs_down`. Once a client has taken a request to shut down, it begins
no attempt, and of callbacks only those are left that tell of the end of the connection, as far as
they were not called before: what it still `Owes`. Every step pays some of that
(`Situated.pays_step`), and a client that has stopped owes nothing.
-/

namespace NetSession.Client

variable {σ : Type}

/-- The callbacks that a client in a state still owes its handler when it takes a request to shut
down. -/
def State.owed : State → List Callback
  | .connected => [.closing, .closed]
  | .closing => [.closed]
  | .disconnected | .connecting => []

namespace Machine

variable {m m' : Machine σ} {owed : List Callback}

/-- The callbacks that a client which is shutting down has yet to call. -/
inductive Owes (m : Machine σ) : List Callback → Prop where
  /-- The connection closes, and its task has yet to report that. -/
  | closing (running : m.system.running = true) (state : m.client.state = .closing)
      (stopper : m.client.stopper ≠ none) : Owes m [.closed]
  /-- The connection is closed, and the client is about to stop. -/
  | finishing (running : m.system.running = true) (state : m.client.state = .disconnected)
      (jobs : m.jobs = [.finish]) : Owes m []
  /-- The client has stopped. -/
  | stopped (running : m.system.running = false) : Owes m []

/-- A client comes from here to there by callbacks that it owed, and still owes the others. -/
def Pays (owed : List Callback) (m m' : Machine σ) : Prop :=
  ∃ paid rest, owed = paid ++ rest ∧ calls m'.client.trace = calls m.client.trace ++ paid ∧
    m'.Owes rest

/-- A client that calls nothing still owes the same. -/
theorem Pays.nothing (htrace : ∃ l, m'.client.trace = m.client.trace ++ l ∧ ∀ e ∈ l, e.IsMinor)
    (howes : m'.Owes owed) : Pays owed m m' := by
  obtain ⟨l, htrace, hl⟩ := htrace
  refine ⟨[], owed, rfl, ?_, howes⟩
  rw [htrace, calls_append_minor hl, List.append_nil]

/-- A client that calls what comes first owes the rest. -/
theorem Pays.call {callback : Callback} {state : State} {rest : List Callback}
    (htrace : m'.client.trace = m.client.trace ++ [.called callback state])
    (howes : m'.Owes rest) : Pays (callback :: rest) m m' := by
  refine ⟨[callback], rest, rfl, ?_, howes⟩
  rw [htrace, calls, List.filterMap_append]
  rfl

/-! ## Steps -/

/-- What a client does and others do in between, as long as it stays where it is, pays nothing. -/
theorem Owes.stay (h : m.Owes owed) (hrunning : m'.system.running = m.system.running)
    (hstate : m'.client.state = m.client.state) (hstopper : m'.client.stopper = m.client.stopper)
    (hjobs : m'.jobs = m.jobs)
    (htrace : ∃ l, m'.client.trace = m.client.trace ++ l ∧ ∀ e ∈ l, e.IsMinor) :
    Pays owed m m' := by
  apply Pays.nothing htrace
  cases h with
  | closing hruns hclosing hsome =>
    exact .closing (hrunning.trans hruns) (hstate.trans hclosing) (hstopper ▸ hsome)
  | finishing hruns hdisconnected hfinish =>
    exact .finishing (hrunning.trans hruns) (hstate.trans hdisconnected) (hjobs.trans hfinish)
  | stopped hstopped => exact .stopped (hrunning.trans hstopped)

/-- A client that stops, unless it has something to close, pays nothing at that. -/
theorem pays_finish (h : m.Owes owed) (hstopping : m.client.stopping = true) (jobs : List Job) :
    Pays owed m { m with system := m.system.stopIfDone, jobs := jobs } := by
  unfold System.stopIfDone
  split
  · next hdone =>
    have hminor := (calm_say (m.client.become .disconnected) .info "stopped").trace
    refine .nothing hminor ?_
    cases h with
    | closing _ hclosing => exact nomatch hdone.2.symm.trans hclosing
    | finishing | stopped => exact .stopped rfl
  · next hnot =>
    refine .nothing ⟨[], (List.append_nil _).symm, nofun⟩ ?_
    cases h with
    | closing hrunning hclosing hsome => exact .closing hrunning hclosing hsome
    | finishing _ hdisconnected => exact absurd ⟨hstopping, hdisconnected⟩ hnot
    | stopped hstopped => exact .stopped hstopped

/-- A client whose connection closes has a task to tell so, or nothing to do but to see whether it
stops. -/
theorem Sound.job_of_closing {scene : Scene} (h : m.Sound scene)
    (hstate : m.client.state = .closing) (hstopper : m.client.stopper ≠ none) {job : Job}
    {rest : List Job} (hjobs : m.jobs = job :: rest) : job = .signal ∨ job = .finish := by
  have hscene := h.jobs
  rw [hjobs] at hscene
  rw [h.state] at hstate
  cases scene with
  | resting | dialing | answered | failing | opening | opened => exact nomatch hstate
  | failed => exact absurd h.stopper hstopper
  | hanging => exact .inl (hscene.elim (fun h => (List.cons.inj h).1) fun h => (List.cons.inj h).1)
  | closing => exact .inr (hscene.elim nofun fun h => (List.cons.inj h).1)

/-- A client that is shutting down does what comes next. -/
theorem Sound.pays_perform {scene : Scene} (h : m.Sound scene)
    (hstopping : m.client.stopping = true) (howes : m.Owes owed)
    (hrunning : m.system.running = true) {job : Job} {rest : List Job}
    (hjobs : m.jobs = job :: rest) : Pays owed m ({ m with jobs := rest }.perform job) := by
  cases howes with
  | closing _ hstate hstopper =>
    obtain rfl | rfl := h.job_of_closing hstate hstopper hjobs
    · -- The task is told to stop, and the client goes on closing.
      obtain ⟨attempt, hattempt⟩ := Option.ne_none_iff_exists'.mp hstopper
      have hsignal : m.client.signalStop =
          { m.client with links := m.client.links.alter attempt (·.map Link.signal) } := by
        simp only [signalStop, hattempt]
      refine .nothing ⟨[], ?_, by simp⟩ ?_
      · change m.client.signalStop.trace = _
        rw [hsignal, List.append_nil]
      · refine .closing hrunning ?_ ?_
        · change m.client.signalStop.state = _
          rw [hsignal]
          exact hstate
        · change m.client.signalStop.stopper ≠ _
          rw [hsignal]
          exact hstopper
    · exact pays_finish (.closing hrunning hstate hstopper) hstopping rest
  | finishing _ hstate hfinish =>
    obtain ⟨rfl, rfl⟩ := List.cons.inj (hjobs.symm.trans hfinish)
    exact pays_finish (.finishing hrunning hstate hfinish) hstopping []
  | stopped hstopped => exact absurd (hstopped.symm.trans hrunning) Bool.false_ne_true

/-- A client whose connection closes calls nothing about what its task reports before the end. -/
theorem handle_of_isNews (hstate : m.client.state = .closing) {event : Event}
    (hevent : event.IsNews m.client.attempt) :
    ∃ c, Calm m.client c ∧ m.handle event = { m.setClient c with jobs := [.finish] } := by
  cases event with
  | read attempt data =>
    obtain rfl := hevent
    refine ⟨m.client, .refl _, ?_⟩
    simp only [Machine.handle, Event.attempt, hstate, if_true, reduceCtorEq, if_false]
    rfl
  | ended attempt failure =>
    obtain rfl := hevent
    have hcalm := calm_sayEnded m.client failure
    have hsaid : (m.client.sayEnded failure).state = .closing := hcalm.state.trans hstate
    refine ⟨_, hcalm, ?_⟩
    simp only [Machine.handle, Event.attempt, Machine.close, setClient, client, hsaid, if_true,
      reduceCtorEq, if_false]
  | connected | connectFailed | closed => exact hevent.elim

/-- A client is told that the socket is closed. -/
theorem handle_closed (m : Machine σ) : m.handle (.closed m.client.attempt) =
    { m.setClient { m.client with stopper := none, state := .disconnected } with
      jobs := [.finish] }.call .closed := by
  simp only [Machine.handle, Event.attempt, if_true]
  rfl

/-- A client that is shutting down takes in what came of its connection. -/
theorem Sound.pays_handle {scene : Scene} (h : m.Sound scene) (howes : m.Owes owed)
    (hrunning : m.system.running = true) (hidle : m.isIdle = true) {event : Event}
    {rest : List Event} (hevents : m.system.events = event :: rest) :
    Pays owed m ((m.setEvents rest).handle event) := by
  obtain ⟨hstage, hjobs⟩ := of_isIdle hidle
  cases howes with
  | finishing _ _ hfinish => exact nomatch hfinish.symm.trans hjobs
  | stopped hstopped => exact nomatch hstopped.symm.trans hrunning
  | closing _ hstate hstopper =>
    have hscene := h.state.symm.trans hstate
    have hwaits := h.jobs
    rw [hjobs] at hwaits
    cases scene with
    | resting | dialing | answered | failing | opening | opened => exact nomatch hscene
    | failed => exact nomatch hwaits
    | hanging => exact hwaits.elim nofun nofun
    | closing =>
      obtain ⟨news, p, hnews, -, hwaiting⟩ := h.task
      rw [hevents] at hwaiting
      cases news with
      | nil =>
        -- What comes last is that the socket is closed.
        split at hwaiting
        · obtain ⟨rfl, rfl⟩ := List.cons.inj hwaiting
          have hclosed := handle_closed (m.setEvents [])
          change Pays _ m ((m.setEvents []).handle (.closed (m.setEvents []).client.attempt))
          rw [hclosed]
          exact .call rfl (.finishing hrunning rfl rfl)
        · exact nomatch hwaiting
      | cons event' news =>
        obtain ⟨rfl, -⟩ := List.cons.inj hwaiting
        obtain ⟨c, hcalm, hhandle⟩ := handle_of_isNews (m := m.setEvents rest) hstate
          (hnews event List.mem_cons_self)
        rw [hhandle]
        refine .nothing hcalm.trace (.closing hrunning (hcalm.state.trans hstate) ?_)
        exact hcalm.stopper ▸ hstopper

/-- A client that is shutting down passes a tick over. -/
theorem pays_tick (howes : m.Owes owed) (hrunning : m.system.running = true)
    (hidle : m.isIdle = true) (timer : Timer) : Pays owed m (m.setTimer timer).tick := by
  obtain ⟨hstage, hjobs⟩ := of_isIdle hidle
  cases howes with
  | finishing _ _ hfinish => exact nomatch hfinish.symm.trans hjobs
  | stopped hstopped => exact nomatch hstopped.symm.trans hrunning
  | closing _ hstate hstopper =>
    have htick : (m.setTimer timer).tick = m.setTimer timer := by
      have hsame : (m.setTimer timer).client = m.client := rfl
      have hclient : m.client.tick = m.client := by simp only [Client.tick, hstate]
      have hupdate : (m.setTimer timer).system.update m.client = (m.setTimer timer).system :=
        update_of_attempt_eq rfl
      simp only [Machine.tick, hsame, hstate, hclient, hupdate]
    rw [htick]
    exact .nothing (Calm.refl m.client).trace (.closing hrunning hstate hstopper)

/-- A client that runs is in some scene. -/
theorem Situated.exists_sound (h : m.Situated) (hrunning : m.system.running = true) :
    ∃ scene, m.Sound scene := by
  cases h with
  | running scene _ hsound => exact ⟨scene, hsound⟩
  | stopped hstopped => exact nomatch hstopped.running.symm.trans hrunning

/-- Every step of a client that is shutting down pays some of what it owes. -/
theorem Situated.pays_step (h : m.Situated) (hstopping : m.client.stopping = true)
    (howes : m.Owes owed) {turn : Turn} (hstep : m.step turn = some m') : Pays owed m m' := by
  cases takes_of_step hstep with
  | advance hstage hadvance | leave hstage hadvance =>
    have hcalm := calm_advance hadvance
    exact howes.stay rfl hcalm.state hcalm.stopper rfl hcalm.trace
  | perform _ hjobs =>
    cases h with
    | running scene hrunning hsound => exact hsound.pays_perform hstopping howes hrunning hjobs
    | stopped hstopped => exact nomatch hstopped.jobs.symm.trans hjobs
  | shutdown _ _ hasked => exact absurd hstopping (by simpa using hasked.1)
  | handle hrunning hidle hevents =>
    obtain ⟨scene, hsound⟩ := h.exists_sound hrunning
    exact hsound.pays_handle howes hrunning hidle hevents
  | @tick timer hrunning hidle => exact pays_tick howes hrunning hidle _
  | other _ haffects =>
    have haside := aside_of_affects haffects
    exact howes.stay haside.running haside.state haside.stopper rfl haside.trace

/-- A client that takes a request to shut down owes what its state says. -/
theorem Situated.pays_shutdown (h : m.Situated) (hrunning : m.system.running = true)
    (hidle : m.isIdle = true) : Pays m.client.state.owed m m.shutdown := by
  obtain ⟨hstage, hjobs⟩ := of_isIdle hidle
  obtain ⟨scene, hsound⟩ := h.exists_sound hrunning
  have hwaits := hsound.jobs
  rw [hjobs] at hwaits
  -- Without a connection there is nothing to close, and the client stops at once.
  have hstops (hstate : m.client.state = .disconnected ∨ m.client.state = .connecting) :
      Pays m.client.state.owed m m.shutdown := by
    have hshutdown :
        m.shutdown = { m with system := (m.setClient m.client.takeShutdown).system.stop } := by
      have htaken : m.client.takeShutdown.state = m.client.state := rfl
      rcases hstate with hstate | hstate <;> simp only [Machine.shutdown, htaken, hstate]
    have howed : m.client.state.owed = [] := by
      rcases hstate with hstate | hstate <;> rw [hstate] <;> rfl
    have hminor := (calm_say (m.client.takeShutdown.become .disconnected) .info "stopped").trace
    rw [hshutdown, howed]
    exact .nothing hminor (.stopped rfl)
  have htaken : m.client.takeShutdown.state = m.client.state := rfl
  have hstate := hsound.state
  cases scene with
  | resting => exact hstops (.inl hstate)
  | dialing | answered => exact hstops (.inr hstate)
  -- In the middle of a turn there are jobs left, and a request is not taken up.
  | failing | failed | opening | hanging => simp [Scene.Jobs] at hwaits
  | opened =>
    have hconnected : m.client.state = .connected := hstate
    have hsome : m.client.stopper ≠ none := by
      rw [hsound.stopper]
      exact Option.some_ne_none _
    have hshutdown : m.shutdown = { m.setClient
        { m.client.takeShutdown with state := .closing, outlet := none } with
          jobs := [.signal] }.call .closing := by
      simp only [Machine.shutdown, htaken, hconnected, Machine.close, setClient, client, if_true]
    rw [hshutdown, hconnected]
    exact .call rfl (.closing hrunning rfl hsome)
  | closing =>
    have hclosing : m.client.state = .closing := hstate
    have hsome : m.client.stopper ≠ none := by
      rw [hsound.stopper]
      exact Option.some_ne_none _
    have hshutdown : m.shutdown = m.setClient m.client.takeShutdown := by
      simp only [Machine.shutdown, htaken, hclosing]
    rw [hshutdown, hclosing]
    exact .nothing (Calm.refl m.client).trace (.closing hrunning hclosing hsome)

/-- In every run of a client that is shutting down, what it owes is paid in order. -/
theorem Situated.pays_run (h : m.Situated) (hstopping : m.client.stopping = true)
    (howes : m.Owes owed) {turns : List Turn} (hrun : m.run turns = some m') :
    Pays owed m m' := by
  induction turns generalizing m owed with
  | nil =>
    obtain rfl := Option.some.inj hrun
    exact .nothing (Calm.refl m.client).trace howes
  | cons turn turns ih =>
    obtain ⟨next, hstep, hrest⟩ := Option.bind_eq_some_iff.mp hrun
    obtain ⟨paid, rest, rfl, hcalls, hnext⟩ := h.pays_step hstopping howes hstep
    obtain ⟨paid', rest', rfl, hcalls', howes'⟩ :=
      ih (h.step hstep) (stopping_of_step hstopping hstep) hnext hrest
    refine ⟨paid ++ paid', rest', (List.append_assoc _ _ _).symm, ?_, howes'⟩
    rw [hcalls', hcalls, List.append_assoc]

/-- At no step but a tick an attempt begins, nor if the client may begin none. -/
theorem Situated.dialings_of_step (h : m.Situated) {turn : Turn} (hstep : m.step turn = some m')
    (hdials : turn.isTick = true → ¬ MayDial m.client) :
    dialings m'.client.trace = dialings m.client.trace := by
  obtain ⟨spot, hrecorded⟩ := h.recorded
  obtain ⟨spot', hrecorded'⟩ := (h.step hstep).recorded
  rw [hrecorded.dialed, hrecorded'.dialed]
  cases attempts_step hstep with
  | same hsame => rw [hsame.attempt]
  | next htick hmay => exact absurd hmay (hdials htick)

/-- In no run of a client that is shutting down an attempt begins. -/
theorem Situated.dialings_of_run (h : m.Situated) (hstopping : m.client.stopping = true)
    {turns : List Turn} (hrun : m.run turns = some m') :
    dialings m'.client.trace = dialings m.client.trace := by
  induction turns generalizing m with
  | nil =>
    obtain rfl := Option.some.inj hrun
    rfl
  | cons turn turns ih =>
    obtain ⟨next, hstep, hrest⟩ := Option.bind_eq_some_iff.mp hrun
    have hnot : ¬ MayDial m.client := fun hmay => nomatch hmay.stopping.symm.trans hstopping
    rw [ih (h.step hstep) (stopping_of_step hstopping hstep) hrest,
      h.dialings_of_step hstep fun _ => hnot]

end Machine

/-! ## The result -/

/-- What becomes of a client that took a request to shut down, between the moment before it did so
and some moment after it. -/
structure RunsDown (c c' : Client σ) (running : Bool) : Prop where
  /-- No attempt was begun. -/
  dialings : dialings c'.trace = dialings c.trace
  /-- Of the callbacks that were owed some were called in order, and nothing else, -/
  calls : ∃ paid, calls c'.trace = calls c.trace ++ paid ∧ paid <+: c.state.owed ∧
    -- and all of them if the client has stopped.
    (running = false → paid = c.state.owed)

/-- What is the case once a client has stopped. -/
structure AtRest (c : Client σ) : Prop where
  /-- It is disconnected. -/
  state : c.state = .disconnected
  /-- Nothing can be sent. -/
  send : ∀ data, c.enqueue data = .error .client

namespace Machine

variable {m m' : Machine σ}

/-- A situated client that does not run is at rest. -/
theorem Situated.atRest (h : m.Situated) (hrunning : m.system.running = false) :
    AtRest m.client := by
  cases h with
  | running scene hruns => exact nomatch hruns.symm.trans hrunning
  | stopped hstopped =>
    refine ⟨hstopped.state, fun data => ?_⟩
    simp only [enqueue, outgoing?, hstopped.outlet, Option.bind_eq_bind, Option.bind_none]

/-- A client that took a request to shut down runs down, whatever comes after. -/
theorem Situated.runsDown (h : m.Situated) (hshutdown : m.step (.move .shutdown) = some m')
    {turns : List Turn} {n : Machine σ} (hrun : m'.run turns = some n) :
    RunsDown m.client n.client n.system.running := by
  have hsituated := h.step hshutdown
  cases takes_of_step hshutdown with
  | other hmove => exact nomatch hmove
  | shutdown hrunning hidle =>
    have hstopping := stopping_shutdown m
    obtain ⟨paid, rest, howed, hcalls, howes⟩ := h.pays_shutdown hrunning hidle
    obtain ⟨paid', rest', hrest, hcalls', howes'⟩ := hsituated.pays_run hstopping howes hrun
    have hall : m.client.state.owed = paid ++ paid' ++ rest' := by
      rw [howed, hrest, List.append_assoc]
    constructor
    · rw [hsituated.dialings_of_run hstopping hrun]
      exact h.dialings_of_step hshutdown nofun
    · refine ⟨paid ++ paid', ?_, ⟨rest', hall.symm⟩, fun hstopped => ?_⟩
      · rw [hcalls', hcalls, List.append_assoc]
      · -- Who has stopped owes nothing.
        rw [hall]
        cases howes' with
        | closing hruns | finishing hruns => exact nomatch hruns.symm.trans hstopped
        | stopped => exact (List.append_nil _).symm

/-- In a run, a client that is shutting down goes on shutting down. -/
theorem stopping_of_run {turns : List Turn} (hstopping : m.client.stopping = true)
    (hrun : m.run turns = some m') : m'.client.stopping = true := by
  induction turns generalizing m with
  | nil =>
    obtain rfl := Option.some.inj hrun
    exact hstopping
  | cons turn turns ih =>
    obtain ⟨next, hstep, hrest⟩ := Option.bind_eq_some_iff.mp hrun
    exact ih (stopping_of_step hstopping hstep) hrest

/-- A client that takes a request to shut down is shutting down ever after. -/
theorem stopping_of_shutdown (hshutdown : m.step (.move .shutdown) = some m') {turns : List Turn}
    {n : Machine σ} (hrun : m'.run turns = some n) : n.client.stopping = true := by
  refine stopping_of_run ?_ hrun
  cases takes_of_step hshutdown with
  | other hmove => exact nomatch hmove
  | shutdown => exact stopping_shutdown m

/-- That a system takes a request to shut down is that its machine does, and goes on to the end of
what it is at. -/
theorem exists_shutdown {y y' : System σ} (hstep : y.step .shutdown = some y') :
    ∃ m, (⟨y, none, []⟩ : Machine σ).step (.move .shutdown) = some m ∧
      Plays [] m ⟨y', none, []⟩ := by
  simp only [System.step] at hstep
  split at hstep
  · next hwaits =>
    obtain rfl := Option.some.inj hstep
    refine ⟨(⟨y, none, []⟩ : Machine σ).shutdown, ?_, plays_shutdown y⟩
    simp only [Machine.step, Machine.begin, client, hwaits, isIdle]
    rfl
  · contradiction

end Machine

/-- In any run of a client: once it has taken a request to shut down, no attempt is begun, and the
callbacks that follow are the beginning of those that it owed in the state in which it took the
request, and all of these once it has stopped. It takes no further request, and whatever further
requests there are, it comes to the same. Once a client has stopped, it is disconnected, and nothing
can be sent. The same holds in whole steps. -/
theorem shutdown_runs_down (config : ClientConfig) (target : Endpoint) (handler : Handler σ)
    (memory : σ) (now : Instant) :
    (∀ turns m, (Machine.start config target handler memory now).run turns = some m →
      (m.system.running = false → AtRest m.client) ∧
      ∀ m₁, m.step (.move .shutdown) = some m₁ → ∀ turns' m₂, m₁.run turns' = some m₂ →
        RunsDown m.client m₂.client m₂.system.running ∧
        m₂.step (.move .shutdown) = none ∧
        ∀ m₂' : Machine σ, m₂'.unasked = m₂.unasked → ∀ turns'',
          (m₂'.run (turns''.map Turn.unasked)).map Machine.unasked =
            (m₂.run turns'').map Machine.unasked) ∧
    ∀ moves y, (System.start config target handler memory now).run moves = some y →
      (y.running = false → AtRest y.client) ∧
      ∀ y₁, y.step .shutdown = some y₁ → ∀ moves' y₂, y₁.run moves' = some y₂ →
        RunsDown y.client y₂.client y₂.running ∧ y₂.step .shutdown = none := by
  refine ⟨fun turns m hrun => ?_, fun moves y hrun => ?_⟩
  · have hsituated := Machine.situated_of_run hrun
    refine ⟨hsituated.atRest, fun m₁ hshutdown turns' m₂ hrun' => ?_⟩
    have hstopping := Machine.stopping_of_shutdown hshutdown hrun'
    exact ⟨hsituated.runsDown hshutdown hrun', Machine.step_shutdown_of_stopping hstopping,
      fun m₂' hsame turns'' => Machine.run_unasked hstopping hsame⟩
  · -- A run of the system is one of the machine, which is at nothing in the end.
    obtain ⟨turns, hturns, -⟩ := Machine.reaches_of_run hrun
    have hsituated : (⟨y, none, []⟩ : Machine σ).Situated := Machine.situated_of_run hturns
    refine ⟨hsituated.atRest, fun y₁ hstep moves' y₂ hrun' => ?_⟩
    obtain ⟨m, hshutdown, hplays⟩ := Machine.exists_shutdown hstep
    obtain ⟨turns', hturns', -⟩ := hplays.trans (Machine.plays_of_run hrun')
    have hstopping : y₂.client.stopping = true := Machine.stopping_of_shutdown hshutdown hturns'
    refine ⟨hsituated.runsDown hshutdown hturns', ?_⟩
    simp [System.step, hstopping]

/-- Steps in which a client with a connection is asked to shut down, while bytes wait in its mailbox
and the server is at its end. -/
def lastWordsTurns : List Turn :=
  [.move (.connect 1), .move .handle, .proceed, .proceed, .proceed,
    .move (.act (.shutdown (.done ()))), .move (.receive 1 [7]), .move (.stream 1 .go),
    .move (.stream 1 .go), .move (.stream 1 (.read 1)), .move (.finish 1)]

/-- Steps that follow once the client has taken the request, at which it is asked again. -/
def runDownTurns : List Turn :=
  [.proceed, .move (.act (.shutdown (.done ()))), .proceed, .move .handle, .proceed,
    .move (.stream 1 .go), .move (.stream 1 .go), .move (.stream 1 .go), .move .handle, .proceed,
    .proceed]

/-- The first steps as whole ones. -/
def lastWordsMoves : List Move :=
  [.connect 1, .handle, .act (.shutdown (.done ())), .receive 1 [7], .stream 1 .go, .stream 1 .go,
    .stream 1 (.read 1), .finish 1]

/-- The steps that follow as whole ones. -/
def runDownMoves : List Move :=
  [.act (.shutdown (.done ())), .handle, .stream 1 .go, .stream 1 .go, .stream 1 .go, .handle]

/-- In these steps the bytes that wait are passed over, the handler is told that the connection
closes and that it is closed, and the client stops, which it does as well if it is asked but
once. -/
theorem shutdown_runs_down_last_words :
    (∃ m m₁ m₂ : Machine Unit,
      (Machine.start {} .unspecifiedV4 Handler.silent () .zero).run lastWordsTurns = some m ∧
      m.step (.move .shutdown) = some m₁ ∧ m₁.run runDownTurns = some m₂ ∧
      calls m₂.client.trace = [.connected, .closing, .closed] ∧
      dialings m₂.client.trace = dialings m.client.trace ∧ AtRest m₂.client ∧
      (m₁.run (runDownTurns.map Turn.unasked)).map Machine.unasked = some m₂.unasked) ∧
    ∃ y y₁ y₂ : System Unit,
      (System.start {} .unspecifiedV4 Handler.silent () .zero).run lastWordsMoves = some y ∧
      y.step .shutdown = some y₁ ∧ y₁.run runDownMoves = some y₂ ∧
      calls y₂.client.trace = [.connected, .closing, .closed] ∧ y₂.step .shutdown = none := by
  obtain ⟨hmachine, hsystem⟩ :=
    shutdown_runs_down {} .unspecifiedV4 Handler.silent () .zero
  constructor
  · obtain ⟨m, m₁, m₂, hrun, hshutdown, hrun', hwhole, hcalls, hstate, hstopped⟩ :
        ∃ m m₁ m₂ : Machine Unit,
          (Machine.start {} .unspecifiedV4 Handler.silent () .zero).run lastWordsTurns = some m ∧
          m.step (.move .shutdown) = some m₁ ∧ m₁.run runDownTurns = some m₂ ∧
          (Machine.start {} .unspecifiedV4 Handler.silent () .zero).run
            (lastWordsTurns ++ .move .shutdown :: runDownTurns) = some m₂ ∧
          calls m.client.trace = [.connected] ∧ m.client.state = .connected ∧
          m₂.system.running = false :=
      ⟨_, _, _, rfl, rfl, rfl, rfl, rfl, rfl, rfl⟩
    obtain ⟨hdown, -, -⟩ := (hmachine _ m hrun).2 m₁ hshutdown _ m₂ hrun'
    obtain ⟨-, -, hasked⟩ := (hmachine _ m hrun).2 m₁ hshutdown [] m₁ rfl
    obtain ⟨paid, hpaid, -, hall⟩ := hdown.calls
    have hrest : AtRest m₂.client := (hmachine _ m₂ hwhole).1 hstopped
    refine ⟨m, m₁, m₂, hrun, hshutdown, hrun', ?_, hdown.dialings, hrest, ?_⟩
    · rw [hpaid, hall hstopped, hcalls, hstate]
      rfl
    · rw [hasked m₁ rfl runDownTurns, hrun']
      rfl
  · obtain ⟨y, y₁, y₂, hrun, hshutdown, hrun', hcalls, hstate, hstopped⟩ :
        ∃ y y₁ y₂ : System Unit,
          (System.start {} .unspecifiedV4 Handler.silent () .zero).run lastWordsMoves = some y ∧
          y.step .shutdown = some y₁ ∧ y₁.run runDownMoves = some y₂ ∧
          calls y.client.trace = [.connected] ∧ y.client.state = .connected ∧
          y₂.running = false :=
      ⟨_, _, _, rfl, rfl, rfl, rfl, rfl, rfl⟩
    obtain ⟨hdown, hnone⟩ := (hsystem _ y hrun).2 y₁ hshutdown _ y₂ hrun'
    obtain ⟨paid, hpaid, -, hall⟩ := hdown.calls
    refine ⟨y, y₁, y₂, hrun, hshutdown, hrun', ?_, hnone⟩
    rw [hpaid, hall hstopped, hcalls, hstate]
    rfl

end NetSession.Client
