import NetSession.Proofs.Server.Machine
import NetSession.Proofs.Stream.Turns

/-!
# What a small step of a server can be

`Machine.Takes` lists what a step of a machine can be, each with what there was before: a callback
goes on or returns, what it was called for is done, a job is done, the server takes something from a
mailbox or from its timer, or others do something (`System.Affects`). `Machine.takes_of_step` says
that there are no other steps.
-/

namespace NetSession.Server

variable {σ : Type}

namespace System

/-- A system leads to another one by what others do, or by what the server does whatever it is
at. -/
inductive Affects (y : System σ) : Move → System σ → Prop where
  /-- Something is put where the server will take it from, or a pause is over. -/
  | mail {move : Move} {y' : System σ} (server : y'.server = y.server)
      (streams : y'.streams = y.streams) (events : y'.events = y.events)
      (running : y'.running = y.running) : Affects y move y'
  /-- A task takes a step. -/
  | task {id : ConnId} {move : Stream.Move} {y' : System σ}
      (step : y.stepStream id move = some y') : Affects y (.stream id move) y'
  /-- Something happens at the socket of a task. -/
  | socket {move : Move} {id : ConnId} {before after : Stream}
      (there : y.streams[id]? = some before) (outside : before.Outside after) :
      Affects y move { y with streams := y.streams.insert id after }
  /-- Someone who holds connections does something with them. -/
  | act (reaction : Reaction Unit) :
      Affects y (.act reaction) { y with server := (y.server.perform reaction).2 }
  /-- Time passes. -/
  | pass (d : Duration) :
      Affects y (.pass d) { y with server := { y.server with now := y.server.now.after d } }

/-- What others do is one of these. -/
theorem affects_of_step {y y' : System σ} {move : Move}
    (hothers : move.isServer = false ∨ move = .resume) (hstep : y.step move = some y') :
    y.Affects move y' := by
  have hsocket {id : ConnId} {f : Stream → Stream} (hf : ∀ s : Stream, s.Outside (f s))
      (honStream : y.onStream id f = some y') : y.Affects move y' := by
    obtain ⟨stream, hstream, rfl⟩ := Option.map_eq_some_iff.mp honStream
    exact .socket hstream (hf stream)
  cases move with
  | serve | accept | handle | close | tick => simp [Move.isServer] at hothers
  | resume =>
    simp only [step] at hstep
    split at hstep
    · split at hstep
      · obtain rfl := Option.some.inj hstep
        exact .mail rfl rfl rfl rfl
      · contradiction
    · contradiction
  | arrive | command =>
    simp only [step] at hstep
    split at hstep
    · obtain rfl := Option.some.inj hstep
      exact .mail rfl rfl rfl rfl
    · contradiction
  | stream id taken => exact .task hstep
  | receive id data => exact hsocket (fun s => s.outside_arrive data) hstep
  | finish id => exact hsocket Stream.outside_finish hstep
  | fail id cause => exact hsocket (fun s => s.outside_fail cause) hstep
  | act reaction =>
    obtain rfl := Option.some.inj hstep
    exact .act reaction
  | pass d =>
    obtain rfl := Option.some.inj hstep
    exact .pass d

end System

namespace Machine

/-- The machine with another system. -/
def setSystem (m : Machine σ) (y : System σ) : Machine σ := { m with system := y }

/-- The machine leads to another one by a step. -/
inductive Takes (m : Machine σ) : Turn → Machine σ → Prop where
  /-- The first thing that is left of a reaction is done. -/
  | advance {callback : Callback} {rest rest' : Reaction σ} {s : Server σ}
      (stage : m.stage = .running callback rest)
      (advance : m.server.advance rest = (.inr rest', s)) :
      Takes m .proceed { m.setServer s with stage := .running callback rest' }
  /-- A callback returns. -/
  | leave {callback : Callback} {rest : Reaction σ} {memory : σ} {s : Server σ}
      (stage : m.stage = .running callback rest)
      (advance : m.server.advance rest = (.inl memory, s)) :
      Takes m .proceed
        { m.setServer ({ s with memory := memory : Server σ }.note (.returned callback)) with
          stage := .returned callback }
  /-- What a callback was called for is done. -/
  | conclude {callback : Callback} (stage : m.stage = .returned callback) :
      Takes m .proceed ({ m with stage := .free }.conclude callback)
  /-- A job is done. -/
  | perform {job : Job} {rest : List Job} (stage : m.stage = .free) (jobs : m.jobs = job :: rest) :
      Takes m .proceed ({ m with jobs := rest }.perform job)
  /-- The server starts to serve a command. -/
  | serve {command : Command} {rest : List Command} (running : m.system.running = true)
      (idle : m.isIdle = true) (commands : m.system.commands = command :: rest) :
      Takes m (.move .serve) ((m.setSystem { m.system with commands := rest }).serve command)
  /-- The server accepts what is at the listener. -/
  | accept {arrival : Arrival} {rest : List Arrival} (running : m.system.running = true)
      (idle : m.isIdle = true) (arrivals : m.system.arrivals = arrival :: rest) :
      Takes m (.move .accept) ((m.setSystem { m.system with arrivals := rest }).accept arrival)
  /-- The server takes in a report. -/
  | handle {event : Event} {rest : List Event} (running : m.system.running = true)
      (idle : m.isIdle = true) (events : m.system.events = event :: rest) :
      Takes m (.move .handle) ((m.setSystem { m.system with events := rest }).handle event)
  /-- The server starts to serve a request to close a connection. -/
  | close {id : ConnId} {rest : List ConnId} (running : m.system.running = true)
      (idle : m.isIdle = true) (requests : m.server.pool.requests = id :: rest) :
      Takes m (.move .close) ((m.setServer
        (m.server.setPool { m.server.pool with requests := rest })).disconnectLive id)
  /-- The heartbeat ticks when it is due, and is set anew. -/
  | tick {timer : Timer} (running : m.system.running = true) (idle : m.isIdle = true)
      (timed : m.system.timer = some timer) (due : timer.isDue m.server.now = true) :
      Takes m (.move .tick)
        ((m.setSystem { m.system with
            timer := some (timer.tick m.server.now), server := m.server.beat }).call
          (.heartbeat m.server.heartbeats m.server.roster.table.ids))
  /-- A pause is over, or others do something, whatever the server is at. -/
  | other {move : Move} {y : System σ} (others : move.isServer = false ∨ move = .resume)
      (affects : m.system.Affects move y) : Takes m (.move move) (m.setSystem y)

variable {m m' : Machine σ}

/-- The server goes on with what it is at. -/
theorem takes_of_proceed (hstep : m.proceed = some m') : m.Takes .proceed m' := by
  unfold Machine.proceed at hstep
  split at hstep
  · next callback rest hstage =>
    split at hstep
    · next memory s hadvance =>
      obtain rfl := Option.some.inj hstep
      exact .leave hstage hadvance
    · next rest' s hadvance =>
      obtain rfl := Option.some.inj hstep
      exact .advance hstage hadvance
  · next callback hstage =>
    obtain rfl := Option.some.inj hstep
    exact .conclude hstage
  · next job rest hstage hjobs =>
    obtain rfl := Option.some.inj hstep
    exact .perform hstage hjobs
  · exact nomatch hstep

/-- The server starts something, or others do something. -/
theorem takes_of_begin {move : Move} (hidle : move.isServer = true → m.isIdle = true)
    (hstep : m.begin move = some m') : m.Takes (.move move) m' := by
  -- What is not a start of the server's own steps the system alone.
  have hother (hothers : move.isServer = false ∨ move = .resume)
      (hstep : (m.system.step move).map (fun system => { m with system := system }) = some m') :
      m.Takes (.move move) m' := by
    obtain ⟨y, hy, rfl⟩ := Option.map_eq_some_iff.mp hstep
    exact .other hothers (System.affects_of_step hothers hy)
  cases move with
  | serve =>
    simp only [Machine.begin] at hstep
    split at hstep
    · next command rest hrunning hcommands =>
      obtain rfl := Option.some.inj hstep
      exact .serve hrunning (hidle rfl) hcommands
    · contradiction
  | accept =>
    simp only [Machine.begin] at hstep
    split at hstep
    · next arrival rest hrunning _ harrivals =>
      obtain rfl := Option.some.inj hstep
      exact .accept hrunning (hidle rfl) harrivals
    · contradiction
  | handle =>
    simp only [Machine.begin] at hstep
    split at hstep
    · next event rest hrunning hevents =>
      obtain rfl := Option.some.inj hstep
      exact .handle hrunning (hidle rfl) hevents
    · contradiction
  | close =>
    simp only [Machine.begin] at hstep
    split at hstep
    · next id rest hrunning hrequests =>
      obtain rfl := Option.some.inj hstep
      exact .close hrunning (hidle rfl) hrequests
    · contradiction
  | tick =>
    simp only [Machine.begin] at hstep
    split at hstep
    · next timer hrunning htimed =>
      split at hstep
      · next hdue =>
        obtain rfl := Option.some.inj hstep
        exact .tick hrunning (hidle rfl) htimed hdue
      · contradiction
    · contradiction
  | resume => exact hother (.inr rfl) hstep
  | stream | arrive | receive | finish | fail | command | act | pass =>
    exact hother (.inl rfl) hstep

/-- Every step of a machine is one of these. -/
theorem takes_of_step {turn : Turn} (hstep : m.step turn = some m') : m.Takes turn m' := by
  cases turn with
  | proceed => exact takes_of_proceed hstep
  | move move =>
    simp only [Machine.step] at hstep
    split at hstep
    · contradiction
    · next hidle =>
      refine takes_of_begin (fun hserver => ?_) hstep
      simpa [hserver] using hidle

end Machine

end NetSession.Server
