import NetSession.Proofs.Client.Machine
import NetSession.Proofs.Stream.Turns

/-!
# What a small step of a client can be

`Machine.Takes` lists what a step of a machine can be, each with what there was before: a callback
goes on or returns, a job is done, the client takes something from a mailbox or from its timer, or
others do something (`System.Affects`). `Machine.takes_of_step` says that there are no other steps,
so what each of these keeps is kept by every step.
-/

namespace NetSession.Client

variable {σ : Type}

namespace System

/-- A system leads to another one by what others do. -/
inductive Affects (y : System σ) : Move → System σ → Prop where
  /-- An attempt that was under way has an outcome. -/
  | dial {move : Move} {attempt : Nat} {event : Event} (underway : attempt ∈ y.dials)
      (outcome : event = .connected attempt ∨ ∃ cause, event = .connectFailed attempt cause) :
      Affects y move (({ y with dials := y.dials.erase attempt } : System σ).post event)
  /-- A task takes a step. -/
  | task {attempt : Nat} {move : Stream.Move} {y' : System σ}
      (step : y.stepStream attempt move = some y') : Affects y (.stream attempt move) y'
  /-- Something happens at the socket of a task. -/
  | socket {move : Move} {attempt : Nat} {before after : Stream}
      (there : y.streams[attempt]? = some before) (outside : before.Outside after) :
      Affects y move { y with streams := y.streams.insert attempt after }
  /-- Someone who holds the client does something with it. -/
  | act (reaction : Reaction Unit) :
      Affects y (.act reaction) { y with client := (y.client.perform reaction).2 }
  /-- Time passes. -/
  | pass (d : Duration) : Affects y (.pass d) { y with now := y.now.after d }

/-- What others do is one of these. -/
theorem affects_of_step {y y' : System σ} {move : Move} (hothers : move.isClient = false)
    (hstep : y.step move = some y') : y.Affects move y' := by
  have hdial {attempt : Nat} {event : Event}
      (houtcome : event = .connected attempt ∨ ∃ cause, event = .connectFailed attempt cause)
      (hdial : y.settleDial attempt event = some y') : y.Affects move y' := by
    unfold settleDial at hdial
    split at hdial
    · next hunderway =>
      obtain rfl := Option.some.inj hdial
      exact .dial hunderway houtcome
    · contradiction
  have hsocket {attempt : Nat} {f : Stream → Stream} (hf : ∀ s : Stream, s.Outside (f s))
      (honStream : y.onStream attempt f = some y') : y.Affects move y' := by
    obtain ⟨stream, hstream, rfl⟩ := Option.map_eq_some_iff.mp honStream
    exact .socket hstream (hf stream)
  cases move with
  | shutdown | handle | tick => contradiction
  | connect attempt => exact hdial (.inl rfl) hstep
  | refuse attempt cause => exact hdial (.inr ⟨cause, rfl⟩) hstep
  | stream attempt taken => exact .task hstep
  | receive attempt data => exact hsocket (fun s => s.outside_arrive data) hstep
  | finish attempt => exact hsocket Stream.outside_finish hstep
  | fail attempt cause => exact hsocket (fun s => s.outside_fail cause) hstep
  | act reaction =>
    obtain rfl := Option.some.inj hstep
    exact .act reaction
  | pass d =>
    obtain rfl := Option.some.inj hstep
    exact .pass d

end System

namespace Machine

/-- The machine whose mailbox has these events. -/
def setEvents (m : Machine σ) (events : List Event) : Machine σ :=
  { m with system := { m.system with events := events } }

/-- The machine with this timer. -/
def setTimer (m : Machine σ) (timer : Timer) : Machine σ :=
  { m with system := { m.system with timer := some timer } }

/-- The machine leads to another one by a step. -/
inductive Takes (m : Machine σ) : Turn → Machine σ → Prop where
  /-- The first thing that is left of a reaction is done. -/
  | advance {callback : Callback} {rest rest' : Reaction σ} {c : Client σ}
      (stage : m.stage = some (callback, rest))
      (advance : m.client.advance rest = (.inr rest', c)) :
      Takes m .proceed { m.setClient c with stage := some (callback, rest') }
  /-- A callback returns. -/
  | leave {callback : Callback} {rest : Reaction σ} {memory : σ} {c : Client σ}
      (stage : m.stage = some (callback, rest))
      (advance : m.client.advance rest = (.inl memory, c)) :
      Takes m .proceed { m.setClient { c with memory := memory } with stage := none }
  /-- A job is done. -/
  | perform {job : Job} {rest : List Job} (stage : m.stage = none) (jobs : m.jobs = job :: rest) :
      Takes m .proceed ({ m with jobs := rest }.perform job)
  /-- The client serves a request to shut down. -/
  | shutdown (running : m.system.running = true) (idle : m.isIdle = true)
      (asked : !m.client.stopping ∧ 0 < m.client.requests) : Takes m (.move .shutdown) m.shutdown
  /-- The client takes in what came of an attempt. -/
  | handle {event : Event} {rest : List Event} (running : m.system.running = true)
      (idle : m.isIdle = true) (events : m.system.events = event :: rest) :
      Takes m (.move .handle) ((m.setEvents rest).handle event)
  /-- The timer ticks when it is due, and is set anew. -/
  | tick {timer : Timer} (running : m.system.running = true) (idle : m.isIdle = true)
      (timed : m.system.timer = some timer) (due : timer.isDue m.system.now = true) :
      Takes m (.move .tick) (m.setTimer (timer.tick m.system.now)).tick
  /-- Others do something, whatever the client is at. -/
  | other {move : Move} {y : System σ} (others : move.isClient = false)
      (affects : m.system.Affects move y) : Takes m (.move move) { m with system := y }

variable {m m' : Machine σ}

/-- What is not the client's own is done by others in the system. -/
theorem begin_of_not_isClient {move : Move} (hmove : move.isClient = false) :
    m.begin move = (m.system.step move).map fun system => { m with system := system } := by
  cases move with
  | shutdown | handle | tick => exact nomatch hmove
  | connect | refuse | stream | receive | finish | fail | act | pass => rfl

/-- The client goes on with what it is at. -/
theorem takes_of_proceed (hstep : m.proceed = some m') : m.Takes .proceed m' := by
  unfold Machine.proceed at hstep
  split at hstep
  · next callback rest hstage =>
    split at hstep
    · next memory c hadvance =>
      obtain rfl := Option.some.inj hstep
      exact .leave hstage hadvance
    · next rest' c hadvance =>
      obtain rfl := Option.some.inj hstep
      exact .advance hstage hadvance
  · next job rest hstage hjobs =>
    obtain rfl := Option.some.inj hstep
    exact .perform hstage hjobs
  · cases hstep

/-- A client that is at nothing starts a move of its own. -/
theorem takes_of_begin (hidle : m.isIdle = true) {move : Move} (hmove : move.isClient = true)
    (hstep : m.begin move = some m') : m.Takes (.move move) m' := by
  cases move with
  | shutdown =>
    simp only [Machine.begin] at hstep
    split at hstep
    · next hwaits =>
      obtain rfl := Option.some.inj hstep
      exact .shutdown hwaits.1 hidle hwaits.2
    · cases hstep
  | handle =>
    simp only [Machine.begin] at hstep
    split at hstep
    · next event rest hrunning hevents =>
      obtain rfl := Option.some.inj hstep
      exact .handle hrunning hidle hevents
    · cases hstep
  | tick =>
    simp only [Machine.begin] at hstep
    split at hstep
    · next timer hrunning htimed =>
      split at hstep
      · next hdue =>
        obtain rfl := Option.some.inj hstep
        exact .tick hrunning hidle htimed hdue
      · cases hstep
    · cases hstep
  | connect | refuse | stream | receive | finish | fail | act | pass => exact nomatch hmove

/-- Every step of a machine is one of these. -/
theorem takes_of_step {turn : Turn} (hstep : m.step turn = some m') : m.Takes turn m' := by
  cases turn with
  | proceed => exact takes_of_proceed hstep
  | move move =>
    cases hmove : move.isClient with
    | false =>
      simp only [Machine.step, hmove, Bool.false_and, Bool.false_eq_true, if_false] at hstep
      rw [begin_of_not_isClient hmove] at hstep
      obtain ⟨y, hy, rfl⟩ := Option.map_eq_some_iff.mp hstep
      exact .other hmove (System.affects_of_step hmove hy)
    | true =>
      simp only [Machine.step, hmove, Bool.true_and] at hstep
      split at hstep
      · cases hstep
      · next hidle =>
        rw [Bool.not_eq_true', Bool.not_eq_false] at hidle
        exact takes_of_begin hidle hmove hstep

end Machine

end NetSession.Client
