import NetSession.Proofs.Client.Scenes
import NetSession.Proofs.Client.Turns

/-!
# What the client does

When a client takes a step of its own, its machine stays in its scene or goes over to the next one.
`Sound.advance`, `Sound.leave` and `Sound.perform` are for what it is at, and `Sound.handle`,
`Sound.shutdown` and `Sound.tick` for what it starts.
-/

namespace NetSession.Client.Machine

variable {σ : Type} {m n : Machine σ} {scene : Scene}

/-- A client that is at nothing is in no callback, and has nothing to do. -/
theorem of_isIdle (h : m.isIdle = true) : m.stage = none ∧ m.jobs = [] := by
  unfold isIdle at h
  rw [Bool.and_eq_true, Option.isNone_iff_eq_none, List.isEmpty_iff] at h
  exact h

/-- A client that is in no callback is in none that does not fit its state. -/
theorem inside_of_stage (h : m.stage = none) (callback : Callback) (htag : m.tag = some callback) :
    callback.state = scene.state := by
  rw [tag, h] at htag
  exact nomatch htag

/-! ## Stopping -/

/-- A client that sends no payloads, and is at nothing, may stop. -/
theorem Sound.stop (h : m.Sound scene) (houtlet : m.client.outlet = none)
    (hstage : m.stage = none) :
    Stopped { m with system := m.system.stop, jobs := [] } where
  running := rfl
  state := rfl
  outlet := houtlet
  stage := hstage
  jobs := rfl
  recorded := ⟨scene.spot, h.recorded.minor rfl rfl
    (calm_say (m.client.become .disconnected) _ _).trace⟩

/-- A client that is done with what it took in stops, or goes on. -/
theorem Sound.finish (h : m.Sound scene) (hrunning : m.system.running = true)
    (hstage : m.stage = none) (hjobs : scene.Jobs m.client.attempt []) :
    Situated { m with system := m.system.stopIfDone, jobs := [] } := by
  unfold System.stopIfDone
  split
  · next hdone =>
    apply Situated.stopped
    apply h.stop _ hstage
    -- Who is disconnected rests, and sends no payloads.
    have hstate : scene.state = .disconnected := h.state.symm.trans hdone.2
    rw [h.outlet]
    cases scene with
    | resting => rfl
    | dialing | answered | failing | failed | opening | opened | hanging | closing =>
      exact nomatch hstate
  · refine .running scene hrunning ⟨{ h.toPlaced with jobs := hjobs }, ?_, h.recorded⟩
    exact inside_of_stage hstage

/-! ## Closing -/

/-- A client that begins to close its connection runs as before. -/
theorem running_close (m : Machine σ) (jobs : List Job) :
    (m.close jobs).system.running = m.system.running := by
  unfold Machine.close
  split <;> rfl

/-- A client with a connection begins to close it. -/
theorem Placed.close (h : m.Placed .opened) (hrecorded : m.client.Recorded .connected)
    {jobs : List Job} (hjobs : jobs = [] ∨ jobs = [.finish]) : (m.close jobs).Sound .hanging := by
  have hplaced : Placed { m.setClient { m.client with state := .closing, outlet := none } with
      jobs := .signal :: jobs } .hanging := by
    constructor
    · rfl
    · rfl
    · exact h.stopper
    · exact h.dials
    · exact hjobs.imp (congrArg _) (congrArg _)
    · exact h.task
    · exact h.older
  have hstate : m.client.state = .connected := h.state
  unfold Machine.close
  rw [if_pos hstate]
  exact hplaced.call hrecorded rfl rfl (List.append_nil _) rfl rfl

/-- The task of a connection that closes is told to stop. -/
theorem Sound.signal (h : m.Sound .hanging) (hstage : m.stage = none) {jobs : List Job}
    (hjobs : jobs = [] ∨ jobs = [.finish]) :
    Sound { m.setClient m.client.signalStop with jobs := jobs } .closing := by
  obtain ⟨hnews, -, p, hp, hpast⟩ := h.task
  have hsignal : m.client.signalStop =
      { m.client with links := m.client.links.alter m.client.attempt (·.map Link.signal) } := by
    have hstopper := h.stopper
    simp only [Scene.stopper] at hstopper
    simp only [signalStop, hstopper]
  rw [hsignal]
  constructor
  · constructor
    · exact h.state
    · exact h.outlet
    · exact h.stopper
    · exact h.dials
    · exact hjobs
    · refine ⟨m.system.events, p, hnews, hp, ?_⟩
      rw [(Stream.Phase.isLast_of_not_isPast hpast).1]
      exact (List.append_nil _).symm
    · exact h.older
  · exact inside_of_stage hstage
  · exact h.recorded.minor rfl rfl (Calm.refl m.client).trace

/-! ## Going on -/

/-- A client that is in no callback does what comes next. -/
theorem Sound.perform (h : m.Sound scene) (hrunning : m.system.running = true)
    (hstage : m.stage = none) {job : Job} {rest : List Job} (hjobs : m.jobs = job :: rest) :
    Situated ({ m with jobs := rest }.perform job) := by
  have hscene := h.jobs
  rw [hjobs] at hscene
  -- What comes next is determined by the scene.
  cases scene with
  | resting | opened | closing =>
    have hfinish : job = .finish ∧ rest = [] := by simpa [Scene.Jobs] using hscene
    obtain ⟨rfl, rfl⟩ := hfinish
    exact h.finish hrunning hstage (.inl rfl)
  | dialing | answered => exact nomatch hscene
  | failing =>
    obtain ⟨rfl, rfl⟩ := List.cons.inj hscene
    refine .running .failed hrunning (Placed.call ?_ h.recorded rfl rfl (List.append_nil _) rfl rfl)
    exact ⟨rfl, h.outlet, h.stopper, h.dials, rfl, h.task, h.older⟩
  | failed =>
    obtain ⟨rfl, rfl⟩ := List.cons.inj hscene
    refine .running .resting hrunning
      (Placed.call ?_ h.recorded rfl rfl (List.append_nil _) rfl rfl)
    exact ⟨rfl, h.outlet, h.stopper, h.dials, .inr rfl, h.task, h.older⟩
  | opening =>
    obtain ⟨rfl, rfl⟩ := List.cons.inj hscene
    obtain ⟨hevents, -, hlink⟩ := h.task
    have hphase (attempt : Nat) :
        ((m.system.streams.insert m.client.attempt {})[attempt]?.map (·.phase)) =
          if attempt = m.client.attempt then some (.looking .stop) else m.phase attempt := by
      rw [Ascending.getElem?_insert]
      split <;> rfl
    refine .running .opened hrunning ⟨⟨h.state, h.outlet, h.stopper, h.dials, .inr rfl, ?_, ?_⟩,
      inside_of_stage hstage, h.recorded⟩
    · refine ⟨?_, hlink, .looking .stop, (hphase _).trans (if_pos rfl), rfl⟩
      change ∀ event ∈ m.system.events, _
      rw [hevents]
      exact fun event hmem => absurd hmem List.not_mem_nil
    · intro attempt p hp
      have hcase := (hphase attempt).symm.trans hp
      split at hcase
      · next heq =>
        rw [heq]
        exact ⟨Nat.le_refl _, fun hlt => absurd hlt (Nat.lt_irrefl _)⟩
      · exact h.older attempt p hcase
  | hanging =>
    have hsignal : job = .signal ∧ (rest = [] ∨ rest = [.finish]) := by
      simpa [Scene.Jobs, and_or_left] using hscene
    obtain ⟨rfl, hrest⟩ := hsignal
    exact .running .closing hrunning (h.signal hstage hrest)

/-- A callback does the first thing that is left of its reaction. -/
theorem Sound.advance (h : m.Sound scene) {callback : Callback} {rest rest' : Reaction σ}
    {c : Client σ} (hstage : m.stage = some (callback, rest))
    (hadvance : m.client.advance rest = (.inr rest', c)) :
    Sound { m.setClient c with stage := some (callback, rest') } scene := by
  refine h.calm (calm_advance hadvance) rfl rfl (fun _ => rfl) rfl fun callback' hsame => ?_
  rw [tag, hstage]
  exact hsame

/-- A callback returns. -/
theorem Sound.leave (h : m.Sound scene) {rest : Reaction σ} {memory : σ} {c : Client σ}
    (hadvance : m.client.advance rest = (.inl memory, c)) :
    Sound { m.setClient { c with memory := memory } with stage := none } scene := by
  have hmemory : Calm c { c with memory := memory } :=
    ⟨rfl, rfl, rfl, rfl, rfl, rfl, rfl, fun _ => rfl, (Calm.refl c).trace⟩
  exact h.calm ((calm_advance hadvance).trans hmemory) rfl rfl (fun _ => rfl) rfl
    fun _ hnone => nomatch hnone

/-! ## Starting something -/

/-- A client takes in the outcome of its attempt. -/
theorem Sound.handle_answered {event : Event} (h : m.Sound (.answered event))
    (hrunning : m.system.running = true) (hstage : m.stage = none) :
    Situated ((m.setEvents []).handle event) := by
  obtain ⟨-, houtcome, hphase⟩ := h.task
  have hsettled : Scene.Settled (m.phase m.client.attempt) := hphase ▸ Scene.settled_none
  cases event with
  | connected attempt =>
    obtain rfl := houtcome
    cases hstopping : m.client.stopping with
    | true =>
      -- A shutdown came first: the stream is let go unused, and the client is at rest.
      have hhandle : (m.setEvents []).handle (.connected m.client.attempt) =
          { (m.setEvents []).setClient (m.client.become .disconnected) with
            jobs := [.finish] } := by
        simp only [Machine.handle, Event.attempt, setEvents, client, hstopping, if_true]
        rfl
      rw [hhandle]
      refine .running .resting hrunning ⟨?_, inside_of_stage hstage, ?_⟩
      · exact ⟨rfl, h.outlet, h.stopper, h.dials, .inr rfl, ⟨rfl, hsettled⟩, h.older⟩
      · exact h.recorded.minor rfl rfl (Calm.refl m.client).trace
    | false =>
      -- The link is there before the callback, and the task is spawned only after it.
      have hhandle : (m.setEvents []).handle (.connected m.client.attempt) =
          { (m.setEvents []).setClient (m.client.adopt m.client.attempt) with
            jobs := [.spawn m.client.attempt, .finish] }.call .connected := by
        simp only [Machine.handle, Event.attempt, setEvents, client, hstopping, if_true,
          Bool.false_eq_true, if_false]
        rfl
      have hlink : (m.client.links.insert m.client.attempt {})[m.client.attempt]?.map Link.outline =
          some (false, true) := by
        rw [Ascending.getElem?_insert, if_pos rfl]
        rfl
      rw [hhandle]
      refine .running .opening hrunning (Placed.call ?_ (h.recorded.calm (calm_say m.client _ _))
        rfl rfl (List.append_nil _) rfl rfl)
      exact ⟨rfl, rfl, rfl, h.dials, rfl, ⟨rfl, hphase, hlink⟩, h.older⟩
  | connectFailed attempt cause =>
    obtain rfl := houtcome
    have hhandle : (m.setEvents []).handle (.connectFailed m.client.attempt cause) =
        { (m.setEvents []).setClient (m.client.say .warn
            ("connect to " ++ m.client.target.text ++ " failed: " ++ cause)) with
          jobs := [.enter .closing .closing, .enter .disconnected .closed, .finish] }.call
            (.connectFailed cause) := by
      simp only [Machine.handle, Event.attempt, setEvents, client, if_true]
    rw [hhandle]
    refine .running .failing hrunning (Placed.call ?_ (h.recorded.calm (calm_say m.client _ _)) rfl
      rfl (List.append_nil _) rfl rfl)
    exact ⟨h.state, h.outlet, h.stopper, h.dials, rfl, ⟨rfl, hsettled⟩, h.older⟩
  | read | ended | closed => exact houtcome.elim

/-- A client with a connection takes in what its task reports. -/
theorem Sound.handle_opened {event : Event} {rest : List Event} (h : m.Sound .opened)
    (hrunning : m.system.running = true) (hevents : m.system.events = event :: rest) :
    Situated ((m.setEvents rest).handle event) := by
  obtain ⟨hnews, hlink, hphase⟩ := h.task
  rw [hevents, List.forall_mem_cons] at hnews
  obtain ⟨hevent, hrest⟩ := hnews
  have hstate : m.client.state = .connected := h.state
  have hsound : (m.setEvents rest).Sound .opened :=
    ⟨⟨h.state, h.outlet, h.stopper, h.dials, h.jobs, ⟨hrest, hlink, hphase⟩, h.older⟩, h.inside,
      h.recorded⟩
  cases event with
  | read attempt data =>
    obtain rfl := hevent
    have hhandle : (m.setEvents rest).handle (.read m.client.attempt data) =
        { m.setEvents rest with jobs := [.finish] }.call (.received data) := by
      simp only [Machine.handle, Event.attempt, setEvents, client, hstate, if_true]
    have hplaced : Placed { m.setEvents rest with jobs := [.finish] } .opened :=
      { hsound.toPlaced with jobs := .inr rfl }
    rw [hhandle]
    exact .running .opened hrunning (hplaced.call h.recorded rfl rfl (List.append_nil _) rfl rfl)
  | ended attempt failure =>
    obtain rfl := hevent
    have hhandle : (m.setEvents rest).handle (.ended m.client.attempt failure) =
        ((m.setEvents rest).setClient (m.client.sayEnded failure)).close [.finish] := by
      simp only [Machine.handle, Event.attempt, setEvents, client, if_true]
    have hsaid : ((m.setEvents rest).setClient (m.client.sayEnded failure)).Sound .opened :=
      hsound.calm (calm_sayEnded m.client failure) rfl rfl (fun _ => rfl) rfl fun _ htag => htag
    rw [hhandle]
    refine .running .hanging ?_ (hsaid.toPlaced.close hsaid.recorded (.inr rfl))
    exact (running_close _ _).trans hrunning
  | connected | connectFailed | closed => exact hevent.elim

/-- A client whose connection closes takes in what its task reports, and in the end that the socket
is closed. -/
theorem Sound.handle_closing {event : Event} {rest : List Event} (h : m.Sound .closing)
    (hrunning : m.system.running = true) (hevents : m.system.events = event :: rest) :
    Situated ((m.setEvents rest).handle event) := by
  obtain ⟨news, p, hnews, hp, hwaiting⟩ := h.task
  have hstate : m.client.state = .closing := h.state
  rw [hevents] at hwaiting
  cases news with
  | nil =>
    -- Only the last report is left.
    cases hlast : p.isLast with
    | false =>
      rw [hlast] at hwaiting
      exact nomatch hwaiting
    | true =>
      rw [hlast] at hwaiting
      obtain ⟨rfl, rfl⟩ := List.cons.inj hwaiting
      have hhandle : (m.setEvents []).handle (.closed m.client.attempt) =
          { (m.setEvents []).setClient
              { m.client with stopper := none, state := .disconnected } with
            jobs := [.finish] }.call .closed := by
        simp only [Machine.handle, Event.attempt, setEvents, client, if_true]
        rfl
      have hsettled : Scene.Settled (m.phase m.client.attempt) := by
        intro p' hp'
        rw [← Option.some.inj (hp.symm.trans hp')]
        exact hlast
      rw [hhandle]
      refine .running .resting hrunning (Placed.call ?_ h.recorded rfl rfl (List.append_nil _) rfl
        rfl)
      exact ⟨rfl, h.outlet, rfl, h.dials, .inr rfl, ⟨rfl, hsettled⟩, h.older⟩
  | cons event' news =>
    obtain ⟨rfl, hrest⟩ := List.cons.inj hwaiting
    obtain ⟨hevent, hnews⟩ := List.forall_mem_cons.mp hnews
    have hsound : Sound { m.setEvents rest with jobs := [.finish] } .closing :=
      ⟨⟨h.state, h.outlet, h.stopper, h.dials, .inr rfl, ⟨news, p, hnews, hp, hrest⟩, h.older⟩,
        h.inside, h.recorded⟩
    cases event with
    | read attempt data =>
      obtain rfl := hevent
      have hhandle : (m.setEvents rest).handle (.read m.client.attempt data) =
          { m.setEvents rest with jobs := [.finish] } := by
        simp only [Machine.handle, Event.attempt, setEvents, client, hstate, if_true, reduceCtorEq,
          if_false]
      rw [hhandle]
      exact .running .closing hrunning hsound
    | ended attempt failure =>
      obtain rfl := hevent
      have hcalm := calm_sayEnded m.client failure
      have hsaid : (m.client.sayEnded failure).state = .closing := hcalm.state.trans hstate
      have hhandle : (m.setEvents rest).handle (.ended m.client.attempt failure) =
          { (m.setEvents rest).setClient (m.client.sayEnded failure) with jobs := [.finish] } := by
        simp only [Machine.handle, Event.attempt, setEvents, client, Machine.close, setClient,
          hsaid, if_true, reduceCtorEq, if_false]
      rw [hhandle]
      exact .running .closing hrunning
        (hsound.calm hcalm rfl rfl (fun _ => rfl) rfl fun _ htag => htag)
    | connected | connectFailed | closed => exact hevent.elim

/-- A client that is at nothing takes in what waits in its mailbox. -/
theorem Sound.handle (h : m.Sound scene) (hrunning : m.system.running = true)
    (hidle : m.isIdle = true) {event : Event} {rest : List Event}
    (hevents : m.system.events = event :: rest) : Situated ((m.setEvents rest).handle event) := by
  obtain ⟨hstage, hjobs⟩ := of_isIdle hidle
  have hscene := h.jobs
  have htask := h.task
  rw [hjobs] at hscene
  rw [hevents] at htask
  cases scene with
  | resting | dialing => exact nomatch htask.1
  | failing | failed | opening => exact nomatch hscene
  | hanging => exact hscene.elim nofun nofun
  | answered event' =>
    obtain ⟨rfl, rfl⟩ := List.cons.inj htask.1
    exact h.handle_answered hrunning hstage
  | opened => exact h.handle_opened hrunning hevents
  | closing => exact h.handle_closing hrunning hevents

/-- A client that is at nothing serves a request to shut down. -/
theorem Sound.shutdown (h : m.Sound scene) (hrunning : m.system.running = true)
    (hidle : m.isIdle = true) : Situated m.shutdown := by
  obtain ⟨hstage, hjobs⟩ := of_isIdle hidle
  have hscene := h.jobs
  rw [hjobs] at hscene
  -- The request is taken, and the client is shutting down.
  have hsound : (m.setClient m.client.takeShutdown).Sound scene :=
    ⟨⟨h.state, h.outlet, h.stopper, h.dials, h.jobs, h.task, h.older⟩, h.inside,
      h.recorded.minor rfl rfl (Calm.refl m.client).trace⟩
  have hstop (hstate : m.client.takeShutdown.state = .disconnected ∨
      m.client.takeShutdown.state = .connecting) (houtlet : m.client.outlet = none) :
      Situated m.shutdown := by
    have hshutdown : m.shutdown =
        { m with system := (m.setClient m.client.takeShutdown).system.stop, jobs := [] } := by
      rw [← hjobs]
      rcases hstate with hstate | hstate <;> simp only [Machine.shutdown, hstate]
    rw [hshutdown]
    exact .stopped (hsound.stop houtlet hstage)
  cases scene with
  | resting => exact hstop (.inl h.state) h.outlet
  | dialing | answered => exact hstop (.inr h.state) h.outlet
  | failing | failed | opening => exact nomatch hscene
  | hanging => exact hscene.elim nofun nofun
  | opened =>
    have hstate : m.client.takeShutdown.state = .connected := h.state
    have hshutdown : m.shutdown = (m.setClient m.client.takeShutdown).close [] := by
      simp only [Machine.shutdown, hstate]
    rw [hshutdown]
    refine .running .hanging ?_ (hsound.toPlaced.close hsound.recorded (.inl rfl))
    exact (running_close _ _).trans hrunning
  | closing =>
    have hstate : m.client.takeShutdown.state = .closing := h.state
    have hshutdown : m.shutdown = m.setClient m.client.takeShutdown := by
      simp only [Machine.shutdown, hstate]
    rw [hshutdown]
    exact .running .closing hrunning hsound

/-- A client that rests begins the next attempt. -/
theorem Sound.dial (h : m.Sound .resting) (hidle : m.isIdle = true) :
    Sound { m with system := m.system.update m.client.startConnect } .dialing := by
  obtain ⟨hstage, hjobs⟩ := of_isIdle hidle
  obtain ⟨hevents, hsettled⟩ := h.task
  have hnone : m.phase (m.client.attempt + 1) = none := by
    rw [Option.eq_none_iff_forall_ne_some]
    intro p hp
    exact Nat.not_succ_le_self _ (h.older _ p hp).1
  have hdials : m.system.dials = [] := h.dials
  refine ⟨⟨rfl, h.outlet, h.stopper, ?_, hjobs, ⟨hevents, hnone⟩, ?_⟩, inside_of_stage hstage, ?_⟩
  · change (if m.client.attempt < m.client.attempt + 1 then _ else _) = _
    rw [if_pos (Nat.lt_succ_self _), hdials]
    rfl
  · -- What was the attempt at hand is one of the earlier ones now.
    intro attempt p hp
    obtain ⟨hle, hlast⟩ := h.older attempt p hp
    refine ⟨Nat.le_succ_of_le hle, fun _ => ?_⟩
    rcases Nat.lt_or_eq_of_le hle with hlt | heq
    · exact hlast hlt
    · rw [heq] at hp
      exact hsettled p hp
  · obtain ⟨notice, htrace⟩ : ∃ notice, m.client.startConnect.trace =
        m.client.trace ++ [.said notice] ++ [.dialed (m.client.attempt + 1)] := ⟨_, rfl⟩
    exact h.recorded.dial (by simp [Happening.IsMinor]) htrace rfl rfl

/-- A client that is at nothing does what a tick is there for. -/
theorem Sound.tick (h : m.Sound scene) (hrunning : m.system.running = true)
    (hidle : m.isIdle = true) : Situated m.tick := by
  obtain ⟨hstage, hjobs⟩ := of_isIdle hidle
  have hscene := h.jobs
  rw [hjobs] at hscene
  have hnothing (hstate : m.client.state ≠ .connected) (htick : m.client.tick = m.client) :
      Situated m.tick := by
    have hsame : m.tick = m := by
      unfold Machine.tick
      rw [htick, update_of_attempt_eq rfl]
      split
      · next hconnected => exact absurd hconnected hstate
      · rfl
      · rfl
      · rfl
    rw [hsame]
    exact .running scene hrunning h
  have hstate := h.state
  cases scene with
  | resting =>
    simp only [Scene.state] at hstate
    cases hdials : m.client.config.autoConnect && !m.client.stopping with
    | true =>
      have htick : m.tick = { m with system := m.system.update m.client.startConnect } := by
        simp only [Machine.tick, Client.tick, hstate, hdials, if_true]
      rw [htick]
      exact .running .dialing hrunning (h.dial hidle)
    | false =>
      apply hnothing
      · rw [hstate]
        exact nofun
      · simp only [Client.tick, hstate, hdials, Bool.false_eq_true, if_false]
  | dialing | answered | closing =>
    simp only [Scene.state] at hstate
    apply hnothing
    · rw [hstate]
      exact nofun
    · simp only [Client.tick, hstate]
  | opened =>
    simp only [Scene.state] at hstate
    have htick : m.tick = (m.setClient m.client.beat).call (.heartbeat m.client.heartbeats) := by
      simp only [Machine.tick, hstate]
    -- The tick is counted before the callback is called.
    have hsaid := h.recorded.calm (calm_say m.client .debug
      ("on heartbeat (index " ++ toString m.client.heartbeats ++ ")"))
    rw [htick]
    refine .running .opened hrunning (Placed.call ?_ hsaid rfl rfl List.range_succ.symm rfl rfl)
    exact ⟨h.state, h.outlet, h.stopper, h.dials, h.jobs, h.task, h.older⟩
  | failing | failed | opening => exact nomatch hscene
  | hanging => exact hscene.elim nofun nofun

end NetSession.Client.Machine
