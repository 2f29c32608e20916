import NetSession.Proofs.Server.Machine

/-!
# Whole steps in small steps

A step of a system is what a machine does when nobody comes in between: `plays_of_step`. So every
run of a system is a run of a machine with the same moves (`plays_of_run`), and what holds of all
runs of machines holds of all runs of systems.
-/

namespace NetSession.Server

variable {σ : Type}

/-- The move that a step is, unless the server goes on with what it is at. -/
def Turn.move? : Turn → Option Move
  | .move taken => some taken
  | .proceed => none

namespace Machine

/-- One machine comes to be like another by some steps. -/
def Reaches (m m' : Machine σ) : Prop := ∃ turns, m.run turns = some m'

/-- One machine comes to be like another by these moves, where the server goes on with what it is at
in between. -/
def Plays (moves : List Move) (m m' : Machine σ) : Prop :=
  ∃ turns, m.run turns = some m' ∧ turns.filterMap Turn.move? = moves

variable {m m' m'' : Machine σ} {moves moves' : List Move}

/-- No step is needed to stay. -/
theorem Plays.refl (m : Machine σ) : Plays [] m m := ⟨[], rfl, rfl⟩

/-- One step leads somewhere. -/
theorem Plays.head {turn : Turn} (hstep : m.step turn = some m') (h : Plays moves m' m'') :
    Plays (turn.move?.toList ++ moves) m m'' := by
  obtain ⟨turns, hrun, rfl⟩ := h
  refine ⟨turn :: turns, ?_, ?_⟩
  · rw [run, hstep]
    exact hrun
  · cases turn <;> rfl

/-- Steps are taken one after the other. -/
theorem Plays.trans (h : Plays moves m m') (h' : Plays moves' m' m'') :
    Plays (moves ++ moves') m m'' := by
  obtain ⟨turns, hrun, rfl⟩ := h
  induction turns generalizing m with
  | nil =>
    obtain rfl := Option.some.inj hrun
    exact h'
  | cons turn turns ih =>
    obtain ⟨next, hstep, hrest⟩ := Option.bind_eq_some_iff.mp hrun
    have hhead := Plays.head hstep (ih hrest)
    have hmoves : (turn :: turns).filterMap Turn.move? =
        turn.move?.toList ++ turns.filterMap Turn.move? := by
      cases turn <;> rfl
    rw [hmoves, List.append_assoc]
    exact hhead

/-- One step of the server on what it is at. -/
theorem Plays.proceed (hstep : m.proceed = some m') (h : Plays moves m' m'') :
    Plays moves m m'' := by
  have hfirst : m.step .proceed = some m' := hstep
  exact .head hfirst h

/-- What leads on without a move. -/
theorem Plays.before (h : Plays [] m m') (h' : Plays moves m' m'') : Plays moves m m'' := h.trans h'

end Machine

/-- The machine of a system whose server is in this state and has this to do. -/
abbrev System.doing (y : System σ) (s : Server σ) (stage : Stage σ) (jobs : List Job) :
    Machine σ :=
  ⟨{ y with server := s }, stage, jobs⟩

namespace Machine

variable {y : System σ} {jobs : List Job}

/-- A callback runs until it returns. -/
theorem plays_returned (s : Server σ) (callback : Callback) (rest : Reaction σ) :
    Plays [] (y.doing s (.running callback rest) jobs)
      (y.doing ({ (s.perform rest).2 with memory := (s.perform rest).1 : Server σ }.note
        (.returned callback)) (.returned callback) jobs) := by
  induction rest generalizing s with
  | done memory => exact .proceed rfl (.refl _)
  | look id next ih => exact .proceed rfl (ih _ s)
  | send id data next ih => exact .proceed rfl (ih _ _)
  | close id next ih => exact .proceed rfl (ih _ _)
  | writeExtra id data next ih => exact .proceed rfl (ih _)
  | keep id next ih => exact .proceed rfl (ih _)
  | release id next ih => exact .proceed rfl (ih _)
  | say notice next ih => exact .proceed rfl (ih _)

/-- A callback is called, runs, and what it was called for is done. -/
theorem plays_call (s : Server σ) (callback : Callback) :
    Plays [] ((y.doing s .free jobs).call callback)
      ((y.doing (s.call callback) .free jobs).conclude callback) :=
  (plays_returned _ callback _).before (.proceed rfl (.refl _))

/-- A connection begins to close. -/
theorem plays_disconnect (s : Server σ) (id : ConnId) (next : Bool → List Job) :
    Plays [] ((y.doing s .free jobs).disconnect id next)
      (y.doing (s.disconnect id).2 .free (next (s.disconnect id).1)) := by
  cases hfirst : (s.pool.beginClose id).1 with
  | false =>
    simp only [Machine.disconnect, Server.disconnect, hfirst, Bool.false_eq_true, if_false]
    exact .refl _
  | true =>
    simp only [Machine.disconnect, Server.disconnect, hfirst, if_true]
    exact plays_call _ _

/-- Connections begin to close, and are counted. -/
theorem plays_disconnectEach (s : Server σ) (ids : List ConnId) (counted : Nat) :
    Plays [] (y.doing s .free (.disconnectEach ids counted :: jobs))
      ((y.doing (s.disconnectEach ids).2 .free jobs).reply
        (counted + (s.disconnectEach ids).1)) := by
  induction ids generalizing s counted with
  | nil => exact .proceed rfl (.refl _)
  | cons id ids ih =>
    refine .proceed rfl ?_
    simp only [Machine.perform]
    refine (plays_disconnect (y := y) s id _).trans ?_
    have hrest := ih (s.disconnect id).2
      (if (s.disconnect id).1 then counted + 1 else counted)
    -- Counted one by one, or all at once.
    have hcount : (if (s.disconnect id).1 then counted + 1 else counted) +
        ((s.disconnect id).2.disconnectEach ids).1 =
          counted + (s.disconnectEach (id :: ids)).1 := by
      simp only [Server.disconnectEach]
      split <;> omega
    rw [hcount] at hrest
    exact hrest

/-- Silent connections begin to close. -/
theorem plays_evictEach (s : Server σ) (ids : List ConnId) :
    Plays [] (y.doing s .free (.evictEach ids :: jobs)) (y.doing (s.evictEach ids) .free jobs) := by
  induction ids generalizing s with
  | nil => exact .proceed rfl (.refl _)
  | cons id ids ih =>
    refine .proceed rfl ?_
    simp only [Machine.perform]
    refine (plays_disconnect (y := y) s id _).trans ?_
    simp only [Server.evictEach]
    -- A connection that begins to close is named before the next one is looked at.
    cases (s.disconnect id).1 with
    | false => exact ih _
    | true => exact .proceed rfl (ih _)

/-- A connection is visited. -/
theorem plays_visited (s : Server σ) (rest : Reaction Unit) :
    Plays [] (y.doing s .free (.visit rest :: jobs)) (y.doing (s.perform rest).2 .free jobs) := by
  induction rest generalizing s with
  | done => exact .proceed rfl (.refl _)
  | look id next ih => exact .proceed rfl (ih _ s)
  | send id data next ih => exact .proceed rfl (ih _ _)
  | close id next ih => exact .proceed rfl (ih _ _)
  | writeExtra id data next ih => exact .proceed rfl (ih _)
  | keep id next ih => exact .proceed rfl (ih _)
  | release id next ih => exact .proceed rfl (ih _)
  | say notice next ih => exact .proceed rfl (ih _)

/-- Connections are visited one after the other. -/
theorem plays_visitEach (s : Server σ) (visit : ConnId → Reaction Unit) (ids : List ConnId) :
    Plays [] (y.doing s .free (ids.map (fun id => .visit (visit id)) ++ jobs))
      (y.doing (s.visitEach visit ids) .free jobs) := by
  induction ids generalizing s with
  | nil => exact .refl _
  | cons id ids ih => exact (plays_visited s (visit id)).before (ih _)

/-- A connection is closed, if it is live. -/
theorem plays_disconnectLive (s : Server σ) (id : ConnId) :
    Plays [] ((y.doing s .free []).disconnectLive id) (y.doing (s.disconnectLive id) .free []) := by
  simp only [Machine.disconnectLive, Server.disconnectLive]
  split
  · refine .proceed rfl ?_
    simp only [Machine.perform]
    exact plays_disconnect (y := y) s id _
  · exact .refl _

/-- A report is taken in. -/
theorem plays_handle (s : Server σ) (event : Event) :
    Plays [] ((y.doing s .free []).handle event) (y.doing (s.handle event) .free []) := by
  cases event with
  | read id data =>
    cases hget : s.roster.get? id with
    | none =>
      simp only [Machine.handle, Server.handle, hget]
      exact .refl _
    | some found =>
      cases hclosing : found.2.closing with
      | true =>
        simp only [Machine.handle, Server.handle, hget, hclosing, if_true]
        exact .refl _
      | false =>
        simp only [Machine.handle, Server.handle, hget, hclosing, Bool.false_eq_true, if_false]
        exact plays_call (s.touch id) (.received id data)
  | ended id failure => exact plays_disconnectLive _ id
  | closed id =>
    cases hget : s.roster.get? id with
    | none =>
      simp only [Machine.handle, Server.handle, hget]
      exact .refl _
    | some found =>
      simp only [Machine.handle, Server.handle, hget]
      exact plays_call s (.closed id)

/-- A command is served. -/
theorem plays_serve (y : System σ) (command : Command) :
    Plays [] ((y.doing y.server .free []).serve command)
      ((y.serve command).doing (y.serve command).server .free []) := by
  cases command with
  | iterate visit =>
    cases visit with
    | none => exact .proceed rfl (.refl _)
    | some visit =>
      exact (plays_visitEach y.server visit _).before (.proceed rfl (.refl _))
  | disconnectAll =>
    have hall :
        Plays [] (y.doing y.server .free [.disconnectEach y.server.roster.table.refs 0]) _ :=
      plays_disconnectEach _ _ _
    rw [Nat.zero_add] at hall
    exact hall
  | shutdown => exact .refl _

/-- What was at the listener is accepted. -/
theorem plays_accept (y : System σ) (arrival : Arrival) :
    Plays [] ((y.doing y.server .free []).accept arrival)
      ((y.accept arrival).doing (y.accept arrival).server .free []) := by
  cases arrival with
  | peer address => exact plays_call (y.server.enter address) (.accepted y.server.nextId)
  | failure cause => exact plays_call (y.server.sayRefused cause) (.acceptFailed cause)

/-- A server that is at nothing starts a move. -/
theorem Plays.begin {y : System σ} {move : Move}
    (hbegin : (⟨y, .free, []⟩ : Machine σ).begin move = some m) (h : Plays [] m m') :
    Plays [move] ⟨y, .free, []⟩ m' := by
  have hstep : (⟨y, .free, []⟩ : Machine σ).step (.move move) = some m := by
    simp only [Machine.step, isIdle, Bool.not_true, Bool.and_false, Bool.false_eq_true, if_false]
    exact hbegin
  exact .head hstep h

/-- A step of a system is what a machine does when nobody comes in between. -/
theorem plays_of_step {y y' : System σ} {move : Move} (hstep : y.step move = some y') :
    Plays [move] ⟨y, .free, []⟩ ⟨y', .free, []⟩ := by
  -- What is not the server's is the same step in both.
  have hother (hbegin : (⟨y, .free, []⟩ : Machine σ).begin move =
      (y.step move).map fun system => ⟨system, .free, []⟩) :
      Plays [move] ⟨y, .free, []⟩ ⟨y', .free, []⟩ := by
    rw [hstep] at hbegin
    exact .begin hbegin (.refl _)
  cases move with
  | serve =>
    simp only [System.step] at hstep
    split at hstep
    · next command rest hrunning hcommands =>
      obtain rfl := Option.some.inj hstep
      have hbegin : (⟨y, .free, []⟩ : Machine σ).begin .serve =
          some ((({ y with commands := rest } : System σ).doing y.server .free []).serve
            command) := by
        simp only [Machine.begin, hrunning, hcommands]
      exact .begin hbegin (plays_serve { y with commands := rest } command)
    · exact nomatch hstep
  | accept =>
    simp only [System.step] at hstep
    split at hstep
    · next arrival rest hrunning hpaused harrivals =>
      obtain rfl := Option.some.inj hstep
      have hbegin : (⟨y, .free, []⟩ : Machine σ).begin .accept =
          some ((({ y with arrivals := rest } : System σ).doing y.server .free []).accept
            arrival) := by
        simp only [Machine.begin, hrunning, hpaused, harrivals]
      exact .begin hbegin (plays_accept { y with arrivals := rest } arrival)
    · exact nomatch hstep
  | handle =>
    simp only [System.step] at hstep
    split at hstep
    · next event rest hrunning hevents =>
      obtain rfl := Option.some.inj hstep
      have hbegin : (⟨y, .free, []⟩ : Machine σ).begin .handle =
          some ((({ y with events := rest } : System σ).doing y.server .free []).handle
            event) := by
        simp only [Machine.begin, hrunning, hevents]
      exact .begin hbegin (plays_handle y.server event)
    · exact nomatch hstep
  | close =>
    simp only [System.step] at hstep
    split at hstep
    · next id rest hrunning hrequests =>
      obtain rfl := Option.some.inj hstep
      have hbegin : (⟨y, .free, []⟩ : Machine σ).begin .close =
          some ((y.doing (y.server.setPool { y.server.pool with requests := rest }) .free
            []).disconnectLive id) := by
        simp only [Machine.begin, hrunning, hrequests]
        rfl
      exact .begin hbegin (plays_disconnectLive _ id)
    · exact nomatch hstep
  | tick =>
    simp only [System.step] at hstep
    split at hstep
    · next timer hrunning htimer =>
      split at hstep
      · next hdue =>
        obtain rfl := Option.some.inj hstep
        have hbegin : (⟨y, .free, []⟩ : Machine σ).begin .tick =
            some ((({ y with timer := some (timer.tick y.server.now) } : System σ).doing
              y.server.beat .free []).call
                (.heartbeat y.server.heartbeats y.server.roster.table.ids)) := by
          simp only [Machine.begin, hrunning, htimer, hdue, if_true]
        -- The heartbeat, and then the connections that were silent.
        exact .begin hbegin ((plays_call _ _).before (plays_evictEach _ _))
      · exact nomatch hstep
    · exact nomatch hstep
  | resume | stream | arrive | receive | finish | fail | command | act | pass => exact hother rfl

/-- A run of a system is a run of a machine with the same moves. -/
theorem plays_of_run {y y' : System σ} {moves : List Move} (hrun : y.run moves = some y') :
    Plays moves ⟨y, .free, []⟩ ⟨y', .free, []⟩ := by
  induction moves generalizing y with
  | nil =>
    obtain rfl := Option.some.inj hrun
    exact .refl _
  | cons move moves ih =>
    obtain ⟨next, hstep, hrest⟩ := Option.bind_eq_some_iff.mp hrun
    exact (plays_of_step hstep).trans (ih hrest)

/-- A run of a system is a run of a machine. -/
theorem reaches_of_run {y y' : System σ} {moves : List Move} (hrun : y.run moves = some y') :
    Reaches ⟨y, .free, []⟩ ⟨y', .free, []⟩ := by
  obtain ⟨turns, hturns, -⟩ := plays_of_run hrun
  exact ⟨turns, hturns⟩

end Machine

end NetSession.Server
