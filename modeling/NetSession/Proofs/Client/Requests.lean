import NetSession.Proofs.Client.Others

/-!
# Requests to shut down

A client takes one request to shut down; later ones change nothing. What a client is but for the
requests that wait and for what was written down of them is `unasked`, and every step of a client
that is shutting down depends on nothing else (`step_unasked`). So such a client comes to the same
however often it is asked, from wherever it is asked: `run_unasked`.
-/

namespace NetSession.Client

variable {σ τ : Type}

/-- The client but for the requests to shut down that wait, and for what was written down of
them. -/
def unasked (c : Client σ) : Client σ :=
  { c with requests := 0, trace := c.trace.filter (· ≠ .asked) }

/-- What a reaction does but for its requests to shut down. -/
def Reaction.unasked : Reaction τ → Reaction τ
  | .done value => .done value
  | .look next => .look fun state => (next state).unasked
  | .send data next => .send data fun ok => (next ok).unasked
  | .shutdown next => next.unasked
  | .say notice next => .say notice next.unasked

/-- The move but for the requests to shut down that are made at it. -/
def Move.unasked : Move → Move
  | .act reaction => .act reaction.unasked
  | move => move

/-- The step but for the requests to shut down that others make at it. -/
def Turn.unasked : Turn → Turn
  | .proceed => .proceed
  | .move made => .move made.unasked

/-- The system but for the requests to shut down. -/
def System.unasked (y : System σ) : System σ := { y with client := y.client.unasked }

/-- The machine but for the requests to shut down. -/
def Machine.unasked (m : Machine σ) : Machine σ := { m with system := m.system.unasked }

/-- Once they are left out, there are no requests to leave out. -/
theorem Reaction.unasked_unasked (reaction : Reaction τ) :
    reaction.unasked.unasked = reaction.unasked := by
  induction reaction with
  | done => rfl
  | look next ih => simp only [Reaction.unasked, ih]
  | send data next ih => simp only [Reaction.unasked, ih]
  | shutdown next ih => exact ih
  | say notice next ih => simp only [Reaction.unasked, ih]

/-- Once they are left out of a step, there are no requests to leave out. -/
theorem Turn.unasked_unasked (turn : Turn) : turn.unasked.unasked = turn.unasked := by
  cases turn with
  | proceed => rfl
  | move move =>
    cases move with
    | act reaction =>
      simp only [Turn.unasked, Move.unasked, Reaction.unasked_unasked]
    | _ => rfl

/-- The client makes the same moves of its own. -/
theorem Move.isClient_unasked (move : Move) : move.unasked.isClient = move.isClient := by
  cases move <;> rfl

/-! ## The client -/

section Client

variable (c : Client σ)

/-- Everything but a request is written down all the same. -/
theorem unasked_note {e : Happening} (he : e ≠ .asked) :
    (c.note e).unasked = c.unasked.note e := by
  simp [unasked, note, List.filter_append, he]

/-- A request leaves nothing else behind. -/
theorem unasked_askShutdown : c.askShutdown.unasked = c.unasked := by
  simp [unasked, askShutdown, note, List.filter_append]

/-- Once the requests are left out, there are none to leave out. -/
theorem unasked_unasked : c.unasked.unasked = c.unasked := by
  simp [unasked]

/-- What is said is said all the same. -/
theorem unasked_say (severity : Console.Severity) (message : String) :
    (c.say severity message).unasked = c.unasked.say severity message :=
  unasked_note c (by simp)

/-- Payloads are queued all the same. -/
theorem unasked_enqueue (data : Bytes) :
    c.unasked.enqueue data = (c.enqueue data).map unasked := by
  have hsame : c.unasked.outgoing? = c.outgoing? := rfl
  simp only [enqueue, hsame]
  cases c.outgoing? with
  | none => rfl
  | some out =>
    obtain ⟨attempt, link⟩ := out
    cases hpush : link.push? data with
    | none =>
      simp only [hpush]
      rfl
    | some pushed =>
      simp only [hpush]
      rfl

/-- Payloads are sent all the same. -/
theorem unasked_send (data : Bytes) :
    c.unasked.send data = ((c.send data).1, (c.send data).2.unasked) := by
  simp only [send, unasked_enqueue]
  cases c.enqueue data with
  | ok c' => exact congrArg (Prod.mk true) (unasked_note c' (by simp)).symm
  | error => exact congrArg (Prod.mk false) (unasked_note c (by simp)).symm

/-- A reaction goes on all the same. -/
theorem advance_unasked (reaction : Reaction τ) :
    (c.unasked.advance reaction).1 = (c.advance reaction).1 ∧
      (c.unasked.advance reaction).2.unasked = (c.advance reaction).2.unasked := by
  cases reaction with
  | done => exact ⟨rfl, unasked_unasked c⟩
  | look next => exact ⟨rfl, unasked_unasked c⟩
  | send data next =>
    simp only [advance, unasked_send]
    exact ⟨trivial, unasked_unasked _⟩
  | shutdown next =>
    refine ⟨rfl, ?_⟩
    change c.unasked.askShutdown.unasked = c.askShutdown.unasked
    rw [unasked_askShutdown, unasked_askShutdown, unasked_unasked]
  | say notice next =>
    have hsaid : (c.note (.said notice)).unasked = c.unasked.note (.said notice) :=
      unasked_note c (by simp)
    refine ⟨rfl, ?_⟩
    change (c.unasked.note (.said notice)).unasked = (c.note (.said notice)).unasked
    rw [← hsaid, unasked_unasked]

/-- A reaction does everything but its requests all the same. -/
theorem perform_unasked (reaction : Reaction τ) :
    (c.unasked.perform reaction.unasked).2 = (c.perform reaction).2.unasked := by
  induction reaction generalizing c with
  | done => rfl
  | look next ih => exact ih _ c
  | send data next ih =>
    simp only [Reaction.unasked, perform, unasked_send]
    exact ih _ _
  | shutdown next ih =>
    simp only [Reaction.unasked, perform]
    rw [← ih, unasked_askShutdown]
  | say notice next ih =>
    simp only [Reaction.unasked, perform]
    rw [← ih, unasked_note c (by simp)]

/-- What becomes of a stream is written down all the same. -/
theorem unasked_noteStep (attempt : Nat) (before after : Stream) :
    (System.noteStep c attempt before after).unasked =
      System.noteStep c.unasked attempt before after := by
  simp only [System.noteStep]
  split <;> split <;> simp only [unasked_note, ne_eq, reduceCtorEq, not_false_eq_true]

end Client

/-! ## What others do -/

namespace System

variable (y : System σ)

/-- Events are put into the mailbox all the same. -/
theorem unasked_post (event : Event) : (y.post event).unasked = y.unasked.post event := by
  unfold post
  change _ = if y.running then _ else _
  split
  · simp only [System.unasked, unasked_note, ne_eq, reduceCtorEq, not_false_eq_true]
  · rfl

/-- Tasks take the same steps. -/
theorem unasked_stepStream (attempt : Nat) (move : Stream.Move) :
    y.unasked.stepStream attempt move = (y.stepStream attempt move).map System.unasked := by
  have hstreams : y.unasked.streams = y.streams := rfl
  have hlinks : y.unasked.client.links = y.client.links := rfl
  have hrunning : y.unasked.running = y.running := rfl
  simp only [stepStream, hstreams, hlinks, hrunning]
  cases y.streams[attempt]? with
  | none => rfl
  | some before =>
    cases y.client.links[attempt]? with
    | none => rfl
    | some link =>
      simp only [Option.bind_eq_bind, Option.bind_some]
      cases before.step link y.running move with
      | none => rfl
      | some outcome =>
        obtain ⟨after, link, report⟩ := outcome
        have hnoted := unasked_noteStep y.client attempt before after
        cases report with
        | none =>
          simp only [Option.bind_some, Option.pure_def, Option.map_some, System.unasked, ← hnoted]
          rfl
        | some report =>
          change some (System.post _ _) = some (System.post _ _).unasked
          rw [unasked_post]
          simp only [System.unasked, ← hnoted]
          rfl

/-- Attempts come to the same end. -/
theorem unasked_settleDial (attempt : Nat) (event : Event) :
    y.unasked.settleDial attempt event = (y.settleDial attempt event).map System.unasked := by
  unfold settleDial
  change (if attempt ∈ y.dials then _ else _) = _
  split
  · rw [Option.map_some, unasked_post]
    rfl
  · rfl

/-- The same arrives at the sockets. -/
theorem unasked_onStream (attempt : Nat) (f : Stream → Stream) :
    y.unasked.onStream attempt f = (y.onStream attempt f).map System.unasked := by
  unfold onStream
  rw [Option.map_map]
  rfl

/-- Others do the same. -/
theorem unasked_step {move : Move} (hmove : move.isClient = false) :
    y.unasked.step move.unasked = (y.step move).map System.unasked := by
  cases move with
  | shutdown | handle | tick => exact nomatch hmove
  | connect attempt | refuse attempt cause => exact unasked_settleDial y _ _
  | stream attempt move => exact unasked_stepStream y attempt move
  | receive attempt data | finish attempt | fail attempt cause => exact unasked_onStream y _ _
  | act reaction =>
    have hperform := perform_unasked y.client reaction
    simp only [step, Move.unasked, Option.map_some, System.unasked, hperform]
  | pass d => rfl

/-- The client stops all the same. -/
theorem unasked_stopIfDone : y.stopIfDone.unasked = y.unasked.stopIfDone := by
  unfold stopIfDone
  change _ = if y.client.stopping ∧ y.client.state = .disconnected then _ else _
  split
  · simp only [stop, System.unasked, unasked_say]
    rfl
  · rfl

end System

/-! ## What the client does -/

namespace Machine

variable {m m' : Machine σ}

/-- Once the requests are left out of a machine, there are none to leave out. -/
theorem unasked_unasked (m : Machine σ) : m.unasked.unasked = m.unasked :=
  congrArg (fun c => { m with system := { m.system with client := c } })
    (Client.unasked_unasked m.client)

/-- Callbacks are called all the same. -/
theorem unasked_call (m : Machine σ) (callback : Callback) :
    (m.call callback).unasked = m.unasked.call callback := by
  have hnote := unasked_note m.client (e := .called callback m.client.state) nofun
  simp only [call, unasked, System.unasked, setClient, hnote]
  rfl

/-- A connection begins to close all the same. -/
theorem unasked_close (m : Machine σ) (jobs : List Job) :
    (m.close jobs).unasked = m.unasked.close jobs := by
  unfold close
  change _ = if m.client.state = .connected then _ else _
  split
  · exact unasked_call _ _
  · rfl

/-- Jobs are done all the same. -/
theorem unasked_perform (m : Machine σ) (job : Job) :
    (m.perform job).unasked = m.unasked.perform job := by
  cases job with
  | enter state callback => exact unasked_call _ _
  | spawn attempt => rfl
  | signal =>
    have hsignal : m.client.signalStop.unasked = m.client.unasked.signalStop := by
      have hstopper : m.client.unasked.stopper = m.client.stopper := rfl
      simp only [signalStop, hstopper]
      cases m.client.stopper <;> rfl
    simp only [perform, unasked, System.unasked, setClient, hsignal]
  | finish =>
    simp only [perform, unasked, System.unasked_stopIfDone]

/-- The client goes on with what it is at all the same. -/
theorem proceed_unasked (m : Machine σ) :
    m.unasked.proceed.map unasked = m.proceed.map unasked := by
  obtain ⟨system, stage, jobs⟩ := m
  cases stage with
  | some stage =>
    obtain ⟨callback, rest⟩ := stage
    obtain ⟨hresult, hclient⟩ := advance_unasked system.client rest
    rcases hadvance : system.client.advance rest with ⟨result, c⟩
    rcases hadvance' : system.client.unasked.advance rest with ⟨result', c'⟩
    rw [hadvance, hadvance'] at hresult hclient
    obtain rfl : result' = result := hresult
    simp only [proceed, Machine.unasked, System.unasked, client, hadvance, hadvance']
    cases result' with
    | inl memory =>
      exact congrArg (fun c : Client σ => some
        (⟨{ system with client := { c with memory := memory } }, none, jobs⟩ : Machine σ)) hclient
    | inr rest =>
      exact congrArg (fun c : Client σ => some
        (⟨{ system with client := c }, some (callback, rest), jobs⟩ : Machine σ)) hclient
  | none =>
    cases jobs with
    | nil => rfl
    | cons job rest =>
      have hperform := unasked_perform ⟨system, none, rest⟩ job
      change some (perform (unasked ⟨system, none, rest⟩) job).unasked =
        some (perform _ job).unasked
      rw [← hperform, unasked_unasked, hperform]

/-- What came of an attempt is taken in all the same. -/
theorem unasked_handle (m : Machine σ) (event : Event) :
    (m.handle event).unasked = m.unasked.handle event := by
  unfold handle
  change _ = if event.attempt = m.client.attempt then _ else _
  split
  · cases event with
    | connected attempt =>
      have hadopt : (m.client.adopt attempt).unasked = m.client.unasked.adopt attempt := by
        simp only [adopt, ← unasked_say]
        rfl
      change _ = if m.client.stopping then _ else _
      simp only
      split
      · rfl
      · rw [unasked_call]
        simp only [unasked, System.unasked, setClient, ← hadopt]
    | connectFailed attempt cause =>
      rw [unasked_call]
      simp only [unasked, System.unasked, setClient, unasked_say]
      rfl
    | read attempt data =>
      change _ = if m.client.state = .connected then _ else _
      simp only
      split
      · exact unasked_call _ _
      · rfl
    | ended attempt failure =>
      have hsaid : (m.client.sayEnded failure).unasked = m.client.unasked.sayEnded failure := by
        cases failure <;> exact unasked_say _ _ _
      rw [unasked_close]
      simp only [unasked, System.unasked, setClient, ← hsaid]
    | closed attempt => exact unasked_call _ _
  · simp only [unasked, System.unasked, setClient, unasked_say]

/-- A tick does all the same. -/
theorem unasked_tick (m : Machine σ) : m.tick.unasked = m.unasked.tick := by
  have hstate : m.unasked.client.state = m.client.state := rfl
  simp only [tick, hstate]
  cases hcase : m.client.state with
  | connected =>
    have hbeat : m.client.beat.unasked = m.client.unasked.beat := unasked_say _ _ _
    rw [unasked_call]
    simp only [unasked, System.unasked, setClient, ← hbeat]
    rfl
  | disconnected =>
    -- Whether the next attempt begins does not depend on requests.
    have hstart : m.client.startConnect.unasked = m.client.unasked.startConnect := by
      simp only [startConnect]
      rw [unasked_note _ (by simp), unasked_say]
      rfl
    have htick : m.client.tick.unasked = m.client.unasked.tick := by
      have hsame : m.client.unasked.state = m.client.state := rfl
      simp only [Client.tick, hsame, hcase]
      change _ = if (m.client.config.autoConnect && !m.client.stopping) = true then _ else _
      split
      · exact hstart
      · rfl
    exact congrArg (fun c => { m with system := m.system.unasked.update c }) htick
  | connecting | closing =>
    have hsame : m.client.unasked.state = m.client.state := rfl
    have htick : m.client.tick = m.client := by simp only [Client.tick, hcase]
    have htick' : m.unasked.client.tick = m.client.unasked := by
      change m.client.unasked.tick = _
      simp only [Client.tick, hsame, hcase]
    rw [htick, htick']
    rfl

/-! ## Steps -/

/-- The client starts the same moves of its own, but for taking a request. -/
theorem unasked_begin {move : Move} (hmove : move ≠ .shutdown) :
    m.unasked.begin move.unasked = (m.begin move).map unasked := by
  cases hclient : move.isClient with
  | false =>
    rw [begin_of_not_isClient hclient,
      begin_of_not_isClient ((Move.isClient_unasked move).trans hclient), Option.map_map]
    change (m.system.unasked.step move.unasked).map _ = _
    rw [System.unasked_step _ hclient, Option.map_map]
    rfl
  | true =>
    cases move with
    | shutdown => exact absurd rfl hmove
    | handle =>
      have hrunning : m.unasked.system.running = m.system.running := rfl
      have hevents : m.unasked.system.events = m.system.events := rfl
      simp only [Machine.begin, Move.unasked, hrunning, hevents]
      split
      · next event rest _ _ => exact congrArg some (unasked_handle (m.setEvents rest) event).symm
      · rfl
    | tick =>
      have hrunning : m.unasked.system.running = m.system.running := rfl
      have htimer : m.unasked.system.timer = m.system.timer := rfl
      have hnow : m.unasked.system.now = m.system.now := rfl
      simp only [Machine.begin, Move.unasked, hrunning, htimer, hnow]
      split
      · next timer _ _ =>
        split
        · exact congrArg some (unasked_tick (m.setTimer (timer.tick m.system.now))).symm
        · rfl
      · rfl
    | connect | refuse | stream | receive | finish | fail | act | pass =>
      exact absurd hclient Bool.false_ne_true

/-- A client that is shutting down takes no further request. -/
theorem step_shutdown_of_stopping (hstopping : m.client.stopping = true) :
    m.step (.move .shutdown) = none := by
  simp [Machine.step, Machine.begin, hstopping]

/-- A client that is shutting down does the same whatever requests there are. -/
theorem step_unasked (hstopping : m.client.stopping = true) (turn : Turn) :
    (m.unasked.step turn.unasked).map unasked = (m.step turn).map unasked := by
  cases turn with
  | proceed => exact proceed_unasked m
  | move move =>
    by_cases hmove : move = .shutdown
    · subst hmove
      have hstopping' : m.unasked.client.stopping = true := hstopping
      change (m.unasked.step (.move .shutdown)).map unasked = _
      rw [step_shutdown_of_stopping hstopping, step_shutdown_of_stopping hstopping']
    · have hidle : m.unasked.isIdle = m.isIdle := rfl
      simp only [Machine.step, Turn.unasked, Move.isClient_unasked, hidle]
      split
      · rfl
      · rw [unasked_begin hmove, Option.map_map]
        exact congrArg (Option.map · _) (funext unasked_unasked)

/-- To begin to close is not to begin to shut down. -/
theorem stopping_close (m : Machine σ) (jobs : List Job) :
    (m.close jobs).client.stopping = m.client.stopping := by
  unfold Machine.close
  split <;> rfl

/-- To take in an event is not to begin to shut down. -/
theorem stopping_handle (m : Machine σ) (event : Event) :
    (m.handle event).client.stopping = m.client.stopping := by
  unfold Machine.handle
  split
  · cases event with
    | connected attempt =>
      simp only
      split <;> rfl
    | connectFailed attempt cause => rfl
    | read attempt data =>
      simp only
      split <;> rfl
    | ended attempt failure =>
      simp only
      rw [stopping_close]
      exact (calm_sayEnded m.client failure).stopping
    | closed attempt => rfl
  · rfl

/-- To tick is not to begin to shut down. -/
theorem stopping_tick (m : Machine σ) : m.tick.client.stopping = m.client.stopping := by
  have hother (hstate : m.client.state ≠ .connected) :
      m.client.tick.stopping = m.client.stopping := by
    unfold Client.tick
    split
    · next hconnected => exact absurd hconnected hstate
    · split <;> rfl
    · rfl
    · rfl
  unfold Machine.tick
  split
  · rfl
  all_goals
    next hstate =>
    apply hother
    rw [hstate]
    simp

/-- To do a job is not to begin to shut down. -/
theorem stopping_perform (m : Machine σ) (job : Job) :
    (m.perform job).client.stopping = m.client.stopping := by
  cases job with
  | enter | spawn => rfl
  | signal =>
    simp only [Machine.perform, signalStop]
    split <;> rfl
  | finish =>
    simp only [Machine.perform, System.stopIfDone]
    split <;> rfl

/-- A client that takes a request is shutting down. -/
theorem stopping_shutdown (m : Machine σ) : m.shutdown.client.stopping = true := by
  simp only [Machine.shutdown]
  split
  · exact stopping_close _ _
  all_goals rfl

/-- A client that is shutting down goes on shutting down. -/
theorem stopping_of_step {turn : Turn} (hstopping : m.client.stopping = true)
    (hstep : m.step turn = some m') : m'.client.stopping = true := by
  cases takes_of_step hstep with
  | advance hstage hadvance | leave hstage hadvance =>
    exact (calm_advance hadvance).stopping.trans hstopping
  | perform => exact (stopping_perform _ _).trans hstopping
  | shutdown => exact stopping_shutdown m
  | handle => exact (stopping_handle _ _).trans hstopping
  | tick => exact (stopping_tick _).trans hstopping
  | other _ haffects => exact (aside_of_affects haffects).stopping.trans hstopping

/-- A client that is shutting down comes to the same whatever requests there are, and however often
others ask. -/
theorem run_unasked {turns : List Turn} (hstopping : m.client.stopping = true)
    (hsame : m'.unasked = m.unasked) :
    (m'.run (turns.map Turn.unasked)).map unasked = (m.run turns).map unasked := by
  induction turns generalizing m m' with
  | nil => exact congrArg some hsame
  | cons turn turns ih =>
    have hstopping' : m'.client.stopping = true :=
      (congrArg (·.client.stopping) hsame).trans hstopping
    have hstep : (m'.step turn.unasked).map unasked = (m.step turn).map unasked := by
      rw [← step_unasked hstopping, ← step_unasked hstopping', hsame, Turn.unasked_unasked]
    simp only [List.map_cons, Machine.run]
    cases hnext : m.step turn with
    | none =>
      rw [hnext, Option.map_none, Option.map_eq_none_iff] at hstep
      rw [hstep]
      rfl
    | some next =>
      rw [hnext, Option.map_some, Option.map_eq_some_iff] at hstep
      obtain ⟨next', hnext', hsame'⟩ := hstep
      rw [hnext']
      exact ih (stopping_of_step hstopping hnext) hsame'

end Machine

end NetSession.Client
