import NetSession.Proofs.Client.Record

/-!
# Whole steps in small steps

A step of a system is what a machine does when nobody comes in between: `plays_of_step`. So every
run of a system is a run of a machine with the same moves (`plays_of_run`), in which the timer ticks
as often (`reaches_of_run`), and what holds of all runs of machines holds of all runs of systems.
-/

namespace NetSession.Client

variable {σ : Type}

/-- Whether the timer of the client ticks at a move. -/
def Move.isTick : Move → Bool
  | .tick => true
  | _ => false

/-- The timer ticks at the same moves, in small steps as in whole ones. -/
theorem Turn.isTick_move (move : Move) : (Turn.move move).isTick = move.isTick := by
  cases move <;> rfl

/-- The timer ticks at no step but a tick. -/
theorem Turn.eq_of_isTick {turn : Turn} (h : turn.isTick = true) : turn = .move .tick := by
  unfold isTick at h
  split at h
  · rfl
  · exact nomatch h

/-- The move that a step is, unless the client goes on with what it is at. -/
def Turn.move? : Turn → Option Move
  | .move taken => some taken
  | .proceed => none

/-- The timer ticks as often in small steps as at their moves. -/
theorem Turn.countP_isTick (turns : List Turn) :
    turns.countP Turn.isTick = (turns.filterMap Turn.move?).countP Move.isTick := by
  induction turns with
  | nil => rfl
  | cons turn turns ih =>
    cases turn with
    | proceed => exact ih
    | move move =>
      have hmoves : (Turn.move move :: turns).filterMap Turn.move? =
          move :: turns.filterMap Turn.move? := rfl
      rw [hmoves, List.countP_cons, List.countP_cons, ih, Turn.isTick_move]

namespace Machine

/-- One machine comes to be like another by some steps at which the timer ticks so often. -/
def Reaches (ticks : Nat) (m m' : Machine σ) : Prop :=
  ∃ turns, m.run turns = some m' ∧ turns.countP Turn.isTick = ticks

/-- One machine comes to be like another by these moves, where the client goes on with what it is at
in between. -/
def Plays (moves : List Move) (m m' : Machine σ) : Prop :=
  ∃ turns, m.run turns = some m' ∧ turns.filterMap Turn.move? = moves

variable {m m' m'' : Machine σ} {moves moves' : List Move}

/-- No step is needed to stay. -/
theorem Plays.refl (m : Machine σ) : Plays [] m m := ⟨[], rfl, rfl⟩

/-- One step leads somewhere. -/
theorem Plays.head {turn : Turn} (hstep : m.step turn = some m') (h : Plays moves m' m'') :
    Plays (turn.move?.toList ++ moves) m m'' := by
  obtain ⟨turns, hrun, rfl⟩ := h
  refine ⟨turn :: turns, ?_, ?_⟩
  · rw [run, hstep]
    exact hrun
  · cases turn <;> rfl

/-- Steps are taken one after the other. -/
theorem Plays.trans (h : Plays moves m m') (h' : Plays moves' m' m'') :
    Plays (moves ++ moves') m m'' := by
  obtain ⟨turns, hrun, rfl⟩ := h
  induction turns generalizing m with
  | nil =>
    obtain rfl := Option.some.inj hrun
    exact h'
  | cons turn turns ih =>
    obtain ⟨next, hstep, hrest⟩ := Option.bind_eq_some_iff.mp hrun
    have hhead := Plays.head hstep (ih hrest)
    have hmoves : (turn :: turns).filterMap Turn.move? =
        turn.move?.toList ++ turns.filterMap Turn.move? := by
      cases turn <;> rfl
    rw [hmoves, List.append_assoc]
    exact hhead

/-- One step of the client on what it is at. -/
theorem Plays.proceed (hstep : m.proceed = some m') (h : Plays moves m' m'') :
    Plays moves m m'' := by
  have hfirst : m.step .proceed = some m' := hstep
  exact .head hfirst h

/-- What leads on without a move. -/
theorem Plays.before (h : Plays [] m m') (h' : Plays moves m' m'') : Plays moves m m'' := h.trans h'

/-- By some moves the timer ticks as often as it does at them. -/
theorem Plays.reaches (h : Plays moves m m') : Reaches (moves.countP Move.isTick) m m' := by
  obtain ⟨turns, hrun, rfl⟩ := h
  exact ⟨turns, hrun, Turn.countP_isTick turns⟩

end Machine

/-- The machine of a system whose client is in this state and has this to do. -/
abbrev System.doing (y : System σ) (c : Client σ) (stage : Option (Stage σ)) (jobs : List Job) :
    Machine σ :=
  ⟨{ y with client := c }, stage, jobs⟩

/-- A callback is no attempt. -/
theorem attempt_call (c : Client σ) (callback : Callback) : (c.call callback).attempt = c.attempt :=
  (calm_perform (c.note _) _).attempt

/-- A client with a connection is told that it closes, and then tells the task to stop. -/
theorem close_of_connected {c : Client σ} (h : c.state = .connected) :
    c.close = ({ c with state := .closing, outlet := none }.call .closing).signalStop := by
  unfold close
  rw [if_pos h]
  rfl

/-- Without a connection there is nothing to close. -/
theorem close_of_not_connected {c : Client σ} (h : c.state ≠ .connected) : c.close = c := by
  unfold close
  rw [if_neg h]

/-- To tell a task to stop is no attempt. -/
theorem attempt_signalStop (c : Client σ) : c.signalStop.attempt = c.attempt := by
  unfold signalStop
  split <;> rfl

/-- To begin to close is no attempt. -/
theorem attempt_close (c : Client σ) : c.close.attempt = c.attempt := by
  by_cases hstate : c.state = .connected
  · rw [close_of_connected hstate, attempt_signalStop, attempt_call]
  · rw [close_of_not_connected hstate]

/-- To take in what came of an attempt is no attempt. -/
theorem attempt_handle (c : Client σ) (event : Event) : (c.handle event).attempt = c.attempt := by
  unfold handle
  split
  · cases event with
    | connected attempt =>
      simp only [handleCurrent]
      split
      · rfl
      · exact attempt_call _ _
    | connectFailed attempt cause =>
      simp only [handleCurrent]
      rw [attempt_call, become, attempt_call, become, attempt_call]
      rfl
    | read attempt data =>
      simp only [handleCurrent]
      split
      · exact attempt_call _ _
      · rfl
    | ended attempt failure =>
      have hsaid : c.sayEnded failure = _ := rfl
      exact (attempt_close (c.sayEnded failure)).trans (calm_sayEnded c failure).attempt
    | closed attempt => exact attempt_call _ _
  · rfl

/-- The tasks once an event was taken in. The connection that it brings has one, if it is taken
over. -/
def System.streamsAfter (y : System σ) : Event → Std.TreeMap Nat Stream
  | .connected attempt => if y.client.adopts attempt then y.streams.insert attempt {} else y.streams
  | _ => y.streams

/-- When an event is taken in, no attempt is begun. -/
theorem System.handle_eq (y : System σ) (event : Event) :
    y.handle event =
      ({ y with client := y.client.handle event, streams := y.streamsAfter event } :
        System σ).stopIfDone := by
  have hupdate := update_of_attempt_eq (y := { y with streams := y.streamsAfter event })
    (attempt_handle y.client event)
  rw [← hupdate]
  rfl

namespace Machine

variable {y : System σ} {jobs : List Job}

/-- A callback runs until it returns. -/
theorem plays_returned (c : Client σ) (callback : Callback) (rest : Reaction σ) :
    Plays [] (y.doing c (some (callback, rest)) jobs)
      (y.doing { (c.perform rest).2 with memory := (c.perform rest).1 } none jobs) := by
  induction rest generalizing c with
  | done memory => exact .proceed rfl (.refl _)
  | look next ih => exact .proceed rfl (ih _ c)
  | send data next ih => exact .proceed rfl (ih _ _)
  | shutdown next ih => exact .proceed rfl (ih _)
  | say notice next ih => exact .proceed rfl (ih _)

/-- A callback is called, and runs until it returns. -/
theorem plays_call (c : Client σ) (callback : Callback) :
    Plays [] ((y.doing c none jobs).call callback) (y.doing (c.call callback) none jobs) :=
  plays_returned _ callback _

/-- A client that is done with what it took in stops, or goes on. -/
theorem plays_finish (y : System σ) : Plays [] ⟨y, none, [.finish]⟩ ⟨y.stopIfDone, none, []⟩ :=
  .proceed rfl (.refl _)

/-- A connection begins to close. -/
theorem plays_close (c : Client σ) (jobs : List Job) :
    Plays [] ((y.doing c none []).close jobs) (y.doing c.close none jobs) := by
  unfold Machine.close
  by_cases hstate : c.state = .connected
  · rw [close_of_connected hstate, if_pos hstate]
    exact (plays_call _ .closing).before (.proceed rfl (.refl _))
  · rw [close_of_not_connected hstate, if_neg hstate]
    exact .refl _

/-- What came of an attempt is taken in, but for the look whether all is done. -/
theorem plays_handled (y : System σ) (event : Event) :
    Plays [] ((⟨y, none, []⟩ : Machine σ).handle event)
      (({ y with streams := y.streamsAfter event } : System σ).doing (y.client.handle event) none
        [.finish]) := by
  unfold System.streamsAfter
  by_cases hcurrent : event.attempt = y.client.attempt
  · simp only [Machine.handle, Client.handle, if_pos hcurrent]
    cases event with
    | connected attempt =>
      have hattempt : (attempt == y.client.attempt) = true := beq_iff_eq.mpr hcurrent
      cases hstopping : y.client.stopping with
      | true =>
        simp only [handleCurrent, adopts, hstopping, if_true, Bool.not_true, Bool.and_false,
          Bool.false_eq_true, if_false]
        exact .refl _
      | false =>
        simp only [handleCurrent, adopts, hstopping, hattempt, if_true, Bool.not_false,
          Bool.and_true, Bool.false_eq_true, if_false]
        exact (plays_call _ .connected).before (.proceed rfl (.refl _))
    | connectFailed attempt cause =>
      exact (plays_call _ _).before (.proceed rfl ((plays_call _ .closing).before
        (.proceed rfl (plays_call _ .closed))))
    | read attempt data =>
      simp only [handleCurrent]
      split
      · exact plays_call _ _
      · exact .refl _
    | ended attempt failure => exact plays_close (y.client.sayEnded failure) _
    | closed attempt => exact plays_call _ _
  · -- A report of an attempt that is over changes nothing.
    have hadopts (attempt : Nat) (heq : event = .connected attempt) :
        y.client.adopts attempt = false := by
      rw [heq] at hcurrent
      simp only [adopts, Bool.and_eq_false_iff]
      exact .inl (beq_eq_false_iff_ne.mpr hcurrent)
    simp only [Machine.handle, Client.handle, if_neg hcurrent]
    cases event with
    | connected attempt =>
      simp only [hadopts attempt rfl, Bool.false_eq_true, if_false]
      exact .refl _
    | connectFailed | read | ended | closed => exact .refl _

/-- What came of an attempt is taken in. -/
theorem plays_handle (y : System σ) (event : Event) :
    Plays [] ((⟨y, none, []⟩ : Machine σ).handle event) ⟨y.handle event, none, []⟩ := by
  rw [System.handle_eq]
  exact (plays_handled y event).before (plays_finish _)

/-- A request to shut down is served. -/
theorem plays_shutdown (y : System σ) :
    Plays [] (⟨y, none, []⟩ : Machine σ).shutdown ⟨y.shutdown, none, []⟩ := by
  cases hstate : y.client.state with
  | connected =>
    have hsystem : y.shutdown = y.update y.client.takeShutdown.close := by
      simp only [System.shutdown]
      split
      · rfl
      all_goals next hother => cases hstate.symm.trans hother
    have hmachine : (⟨y, none, []⟩ : Machine σ).shutdown =
        (y.doing y.client.takeShutdown none []).close [] := by
      simp only [Machine.shutdown]
      split
      · rfl
      all_goals next hother => cases hstate.symm.trans hother
    rw [hsystem, hmachine, update_of_attempt_eq (attempt_close y.client.takeShutdown)]
    exact plays_close _ []
  | disconnected | connecting | closing =>
    have hmachine : (⟨y, none, []⟩ : Machine σ).shutdown = ⟨y.shutdown, none, []⟩ := by
      simp only [Machine.shutdown, System.shutdown, takeShutdown, client, hstate]
      rfl
    rw [hmachine]
    exact .refl _

/-- A tick does what it is there for. -/
theorem plays_tick (y : System σ) :
    Plays [] (⟨y, none, []⟩ : Machine σ).tick ⟨y.update y.client.tick, none, []⟩ := by
  cases hstate : y.client.state with
  | connected =>
    have hsystem : y.client.tick = y.client.beat.call (.heartbeat y.client.heartbeats) := by
      unfold Client.tick
      split
      · rfl
      all_goals next hother => cases hstate.symm.trans hother
    have hmachine : (⟨y, none, []⟩ : Machine σ).tick =
        (y.doing y.client.beat none []).call (.heartbeat y.client.heartbeats) := by
      simp only [Machine.tick, client, hstate]
      rfl
    rw [hmachine, hsystem, update_of_attempt_eq (y := y) (attempt_call y.client.beat _)]
    exact plays_call _ _
  | disconnected | connecting | closing =>
    have hmachine : (⟨y, none, []⟩ : Machine σ).tick = ⟨y.update y.client.tick, none, []⟩ := by
      simp only [Machine.tick, client, hstate]
    rw [hmachine]
    exact .refl _

/-- A client that is at nothing starts a move. -/
theorem Plays.begin {y : System σ} {move : Move}
    (hbegin : (⟨y, none, []⟩ : Machine σ).begin move = some m) (h : Plays [] m m') :
    Plays [move] ⟨y, none, []⟩ m' := by
  have hstep : (⟨y, none, []⟩ : Machine σ).step (.move move) = some m := by
    rw [← hbegin]
    simp [Machine.step, isIdle]
  exact .head hstep h

/-- A step of a system is what a machine does when nobody comes in between. -/
theorem plays_of_step {y y' : System σ} {move : Move} (hstep : y.step move = some y') :
    Plays [move] ⟨y, none, []⟩ ⟨y', none, []⟩ := by
  -- What is not the client's is the same step in both.
  have hother (hbegin : (⟨y, none, []⟩ : Machine σ).begin move =
      (y.step move).map fun system => ⟨system, none, []⟩) :
      Plays [move] ⟨y, none, []⟩ ⟨y', none, []⟩ := by
    rw [hstep] at hbegin
    exact .begin hbegin (.refl _)
  cases move with
  | shutdown =>
    simp only [System.step] at hstep
    split at hstep
    · next hwaits =>
      obtain rfl := Option.some.inj hstep
      have hbegin : (⟨y, none, []⟩ : Machine σ).begin .shutdown =
          some (⟨y, none, []⟩ : Machine σ).shutdown := by
        simp only [Machine.begin, client, hwaits]
        rfl
      exact .begin hbegin (plays_shutdown y)
    · exact nomatch hstep
  | handle =>
    simp only [System.step] at hstep
    split at hstep
    · next event rest hrunning hevents =>
      obtain rfl := Option.some.inj hstep
      have hbegin : (⟨y, none, []⟩ : Machine σ).begin .handle =
          some ((⟨{ y with events := rest }, none, []⟩ : Machine σ).handle event) := by
        simp only [Machine.begin, hrunning, hevents]
      exact .begin hbegin (plays_handle { y with events := rest } event)
    · exact nomatch hstep
  | tick =>
    simp only [System.step] at hstep
    split at hstep
    · next timer hrunning htimer =>
      split at hstep
      · next hdue =>
        obtain rfl := Option.some.inj hstep
        have hbegin : (⟨y, none, []⟩ : Machine σ).begin .tick =
            some (⟨{ y with timer := some (timer.tick y.now) }, none, []⟩ : Machine σ).tick := by
          simp only [Machine.begin, hrunning, htimer, hdue, if_true]
        exact .begin hbegin (plays_tick { y with timer := some (timer.tick y.now) })
      · exact nomatch hstep
    · exact nomatch hstep
  | connect | refuse | stream | receive | finish | fail | act | pass => exact hother rfl

/-- A run of a system is a run of a machine with the same moves. -/
theorem plays_of_run {y y' : System σ} {moves : List Move} (hrun : y.run moves = some y') :
    Plays moves ⟨y, none, []⟩ ⟨y', none, []⟩ := by
  induction moves generalizing y with
  | nil =>
    obtain rfl := Option.some.inj hrun
    exact .refl _
  | cons move moves ih =>
    obtain ⟨next, hstep, hrest⟩ := Option.bind_eq_some_iff.mp hrun
    exact (plays_of_step hstep).trans (ih hrest)

/-- A run of a system is a run of a machine in which the timer ticks as often. -/
theorem reaches_of_run {y y' : System σ} {moves : List Move} (hrun : y.run moves = some y') :
    Reaches (moves.countP Move.isTick) ⟨y, none, []⟩ ⟨y', none, []⟩ :=
  (plays_of_run hrun).reaches

end Machine

end NetSession.Client
