import NetSession.Proofs.Server.Account
import NetSession.Proofs.Server.Whole
import NetSession.Proofs.Stream.Settled

/-!
# Accounts over the runs of a server

A step of a server and its tasks is, on the account of one connection, a step of its task or
`Traffic` (`passes_of_step`). So in every run the account of a connection follows the one before
(`follows_of_run`), and is balanced.
-/

namespace NetSession.Server

open NetSession.Stream.Account (Traffic Passes Follows)

variable {σ : Type}

/-- The step of the task of a connection that a move is, if it is one. -/
def Move.task? (id : ConnId) : Move → Option Stream.Move
  | .stream id' move => if id' = id then some move else none
  | _ => none

/-- The step of the task of a connection that a step is, if it is one. -/
def Turn.task? (id : ConnId) : Turn → Option Stream.Move
  | .move taken => taken.task? id
  | .proceed => none

/-- Only a step of the task of a connection is one. -/
theorem Turn.eq_of_task? {id : ConnId} {turn : Turn} {taken : Stream.Move}
    (h : turn.task? id = some taken) : turn = .move (.stream id taken) := by
  unfold Turn.task? Move.task? at h
  split at h
  · split at h
    · obtain ⟨rfl, heq⟩ := Option.ite_none_right_eq_some.mp h
      rw [Option.some.inj heq]
    · exact nomatch h
  · exact nomatch h

namespace System

variable {y y' : System σ}

/-- What is written down of a step of a task is no send and hands on no bytes. -/
theorem sameAccount_noteStep (id : ConnId) (s : Server σ) (id' : ConnId) (before after : Stream) :
    SameAccount id s (noteStep s id' before after) := by
  have hwrote : SameAccount id s (if after.written.length = before.written.length then s
      else s.note (.wrote id' (after.written.drop before.written.length))) := by
    split
    · exact .refl id s
    · exact .note s rfl rfl
  simp only [noteStep]
  split
  · exact hwrote.trans (.note _ rfl rfl)
  · exact hwrote

/-- Who takes a step of its own is not sent on, and hands on no bytes itself. -/
theorem records_of_stepStream {id' : ConnId} {move : Stream.Move}
    (hstep : y.stepStream id' move = some y') (id : ConnId) :
    payloads id y'.server.trace = payloads id y.server.trace ∧
      handed id y'.server.trace = handed id y.server.trace := by
  simp only [stepStream, Option.bind_eq_bind, Option.bind_eq_some_iff] at hstep
  obtain ⟨before, -, c, -, ⟨after, link, report⟩, -, hy⟩ := hstep
  have hnoted := sameAccount_noteStep id y.server id' before after
  -- The task's own reference does not count.
  have hserver (s : Server σ) (pool : Pool) (tasks : List ConnId) :
      (if after.phase = .ended then { s.setPool pool with tasks := tasks }
        else s.setPool pool).trace = s.trace := by
    split <;> rfl
  cases report with
  | none =>
    obtain rfl := Option.some.inj hy
    dsimp only
    rw [hserver]
    exact ⟨hnoted.payloads, hnoted.handed⟩
  | some report =>
    obtain rfl := Option.some.inj hy
    have hreported (s : Server σ) : SameAccount id s (s.note (.reported (eventOf id' report))) :=
      .note s rfl rfl
    dsimp only
    rw [(hreported _).payloads, (hreported _).handed, hserver]
    exact ⟨hnoted.payloads, hnoted.handed⟩

/-- What a task reports is a report of its own connection. -/
theorem report?_eventOf (id id' : ConnId) (report : Stream.Report) :
    (eventOf id' report).report? id = if id' = id then some report else none := by
  cases report <;> rfl

end System

namespace Machine

variable {m m' : Machine σ} {id : ConnId}

/-- The task of a connection takes a step. -/
theorem passes_stream {id' : ConnId} {move : Stream.Move} {y : System σ}
    (hstep : m.system.stepStream id' move = some y) :
    Passes ((Move.stream id' move).task? id) (m.account id) ((m.setSystem y).account id) := by
  obtain ⟨hpayloads, hhanded⟩ := System.records_of_stepStream hstep id
  obtain ⟨before, c, after, link, report, hbefore, hc, htask, hafter⟩ :=
    System.stepStream_cases hstep
  have hget : y.server.pool.get? id =
      if id = id' then some { c with link := link } else m.server.pool.get? id := by
    rw [hafter.pool, Pool.get?_set]
  have hstream : y.streams[id]? = if id = id' then some after else m.system.streams[id]? := by
    rw [hafter.streams, Ascending.getElem?_insert]
  -- A task reports under the number of its own connection.
  have hmail : y.events.filterMap (·.report? id) = m.system.events.filterMap (·.report? id) ++
      if id = id' then report.toList else [] := by
    rw [hafter.events, List.filterMap_append]
    congr 1
    cases report with
    | none => split <;> rfl
    | some report =>
      change [System.eventOf id' report].filterMap _ = _
      rw [List.filterMap_cons, System.report?_eventOf]
      by_cases hid : id = id'
      · rw [if_pos hid, if_pos hid.symm]
        rfl
      · rw [if_neg hid, if_neg (Ne.symm hid)]
        rfl
  by_cases hid : id = id'
  · subst hid
    rw [if_pos rfl] at hget hstream hmail
    refine .task (if_pos rfl) ⟨before, c.link, (after, link, report), hbefore, ?_, htask, ?_⟩
    · exact congrArg (Option.map _) hc
    · simp only [Machine.account, Server.account, setSystem, server, hget, hstream, hmail,
        hpayloads, hhanded, hafter.running, hc]
      rfl
  · rw [if_neg hid] at hget hstream hmail
    apply Passes.others
    apply traffic_of_eq
    simp only [Machine.account, Server.account, setSystem, server, hget, hstream, hmail,
      hpayloads, hhanded, hafter.running, List.append_nil]

/-- Something happens at the socket of a connection. -/
theorem traffic_socket {id' : ConnId} {before after : Stream}
    (hthere : m.system.streams[id']? = some before) (houtside : before.Outside after) :
    Relation.ReflTransGen Traffic (m.account id)
      ((m.setSystem { m.system with
          streams := m.system.streams.insert id' after }).account id) := by
  have hstream := Ascending.getElem?_insert m.system.streams id' id after
  by_cases hid : id = id'
  · subst hid
    rw [if_pos rfl] at hstream
    have hsocket : Traffic (m.account id) _ :=
      .socket hthere houtside.phase houtside.taken houtside.written houtside.shut
    have hafter : (m.setSystem
        { m.system with streams := m.system.streams.insert id after }).account id =
          { m.account id with stream := some after } := by
      simp only [Machine.account, setSystem, hstream]
      rfl
    rw [hafter]
    exact .single hsocket
  · rw [if_neg hid] at hstream
    apply traffic_of_eq
    simp only [Machine.account, setSystem, hstream]

/-- What others do, and what the server does whatever it is at. -/
theorem passes_affects {move : Move} {y : System σ} (haffects : m.system.Affects move y) :
    Passes (move.task? id) (m.account id) ((m.setSystem y).account id) := by
  cases haffects with
  | mail hserver hstreams hevents hrunning =>
    apply Passes.others
    apply traffic_of_eq
    simp only [Machine.account, setSystem, server, hserver, hstreams, hevents, hrunning]
  | task hstep => exact passes_stream hstep
  | socket hthere houtside => exact .others (traffic_socket hthere houtside)
  | act reaction => exact .others (Server.traffic_perform ..)
  | pass d => exact .others .refl

/-- The first thing that is left of a reaction is done. -/
theorem traffic_react {callback : Callback} {rest rest' : Reaction σ} {s : Server σ}
    (hstage : m.stage = .running callback rest)
    (hadvance : m.server.advance rest = (.inr rest', s)) :
    Relation.ReflTransGen Traffic (m.account id)
      (({ m.setServer s with stage := .running callback rest' } : Machine σ).account id) := by
  have hdone := traffic_advance id m.system.streams[id]?
    (m.system.events.filterMap (·.report? id)) m.system.running (m.stage.isDue id) m.server rest
  have hdue : m.stage.isDue id = (Stage.running callback rest').isDue id := by
    rw [hstage]
    cases callback <;> rfl
  have hbefore : m.account id = m.server.account id m.system.streams[id]?
    (m.system.events.filterMap (·.report? id)) m.system.running (m.stage.isDue id) := rfl
  rw [hbefore]
  rw [hadvance, hdue] at hdone
  rw [hdue]
  exact hdone

/-- A callback returns. -/
theorem traffic_return {callback : Callback} {rest : Reaction σ} {memory : σ} {s : Server σ}
    (hstage : m.stage = .running callback rest)
    (hadvance : m.server.advance rest = (.inl memory, s)) :
    Relation.ReflTransGen Traffic (m.account id)
      (({ m.setServer ({ s with memory := memory : Server σ }.note (.returned callback)) with
          stage := .returned callback } : Machine σ).account id) := by
  -- Nothing is left to be done, so the server is as before, but for its memory.
  have hserver : s = m.server := by
    cases rest with
    | done value => exact (Prod.mk.inj hadvance).2.symm
    | look | send | close | writeExtra | keep | release | say =>
      exact nomatch congrArg Prod.fst hadvance
  have hreturned : SameAccount id m.server
      ({ s with memory := memory : Server σ }.note (.returned callback)) := by
    rw [hserver]
    have hmemory : SameAccount id m.server { m.server with memory := memory } := ⟨rfl, rfl, rfl⟩
    exact hmemory.trans (.note _ rfl rfl)
  refine traffic_of_eq (account_eq hreturned rfl rfl rfl ?_)
  rw [hstage]
  cases callback <;> rfl

/-- A command is served. -/
theorem traffic_serve (m : Machine σ) (command : Command) :
    Relation.ReflTransGen Traffic (m.account id) ((m.serve command).account id) := by
  cases command with
  | iterate visit => cases visit <;> exact .refl
  | disconnectAll => exact .refl
  | shutdown =>
    have hstop : Traffic (m.account id) _ := .stop
    have hsaid : SameAccount id m.server (m.server.say .info ("shut down, " ++
        toString m.server.roster.table.size ++ " connection(s) left open")) := .say ..
    have hpool : (m.server.pool.abandon.get? id).map (fun c => (c.link, c.closing)) =
        (m.server.pool.get? id).map fun c => (c.link, c.closing) := by
      simp only [Pool.abandon, Pool.get?, Std.TreeMap.getElem?_map, Option.map_map]
      rfl
    have hsame : SameAccount id m.server m.system.stop.server :=
      ⟨hpool, hsaid.payloads, hsaid.handed⟩
    have hafter : (m.serve .shutdown).account id =
        { m.account id with mail := [], heard := false } :=
      hsame.account_eq m.system.streams[id]? [] false (m.stage.isDue id)
    rw [hafter]
    exact .single hstop

/-- On the account of a connection, every step is one of its task, or others do something. -/
theorem passes_of_step (h : m.system.running = true → m.Orderly) {turn : Turn}
    (hstep : m.step turn = some m') : Passes (turn.task? id) (m.account id) (m'.account id) := by
  cases takes_of_step hstep with
  | advance hstage hadvance => exact .others (traffic_react hstage hadvance)
  | leave hstage hadvance => exact .others (traffic_return hstage hadvance)
  | conclude hstage => exact .others (traffic_conclude hstage)
  | @perform job rest hstage hjobs =>
    have hfree : ({ m with jobs := rest } : Machine σ).stage = .free := hstage
    have hdone : Relation.ReflTransGen Traffic
        (({ m with jobs := rest } : Machine σ).account id) _ := traffic_perform hfree job
    exact .others hdone
  | @serve command rest =>
    exact .others (traffic_serve (m.setSystem { m.system with commands := rest }) command)
  | @accept arrival rest hrunning hidle =>
    have hrest : (m.setSystem { m.system with arrivals := rest }).Orderly :=
      (h hrunning).setSystem (.refl _) (fun _ => rfl) fun _ => rfl
    exact .others (hrest.traffic_accept (isIdle_iff.mp hidle).1 arrival)
  | handle hrunning hidle hevents =>
    exact .others ((h hrunning).traffic_handle hrunning (isIdle_iff.mp hidle).1 hevents)
  | close =>
    refine .others (traffic_of_eq ?_)
    rw [account_disconnectLive]
    rfl
  | @tick timer hrunning hidle =>
    have hfree : (m.setSystem { m.system with
        timer := some (timer.tick m.server.now), server := m.server.beat }).stage = .free :=
      (isIdle_iff.mp hidle).1
    have hcounted : SameAccount id m.server
        { m.server with heartbeats := m.server.heartbeats + 1 } := ⟨rfl, rfl, rfl⟩
    have hbeat : SameAccount id m.server m.server.beat := hcounted.trans (.say ..)
    refine .others (traffic_of_eq ?_)
    rw [account_call hfree rfl (by simp)]
    exact account_eq hbeat rfl rfl rfl rfl
  | other _ haffects => exact passes_affects haffects

/-! ## Runs -/

/-- In a run the account of a connection follows the one before. -/
theorem follows_of_run (h : m.system.running = true → m.Orderly) {turns : List Turn}
    (hrun : m.run turns = some m') :
    Follows (turns.map (Turn.task? id)) (m.account id) (m'.account id) := by
  induction turns generalizing m with
  | nil =>
    obtain rfl := Option.some.inj hrun
    exact .refl _
  | cons turn turns ih =>
    obtain ⟨next, hstep, hrest⟩ := Option.bind_eq_some_iff.mp hrun
    have hnext (hrunning : next.system.running = true) : next.Orderly :=
      (h (running_of_step hstep hrunning)).step hstep hrunning
    exact .step (passes_of_step h hstep) (ih hnext hrest)

/-- Before anything happens, every account is balanced. -/
theorem balanced_start (config : ServerConfig) (handler : Handler σ) (memory : σ) (now : Instant)
    (id : ConnId) :
    ((Machine.start config handler memory now).account id).Balanced False :=
  Stream.Account.balanced_of_blank rfl rfl rfl rfl rfl rfl

variable {config : ServerConfig} {handler : Handler σ} {memory : σ} {now : Instant}

/-- At any time the account of a connection is balanced. -/
theorem balanced_of_run (hrun : (Machine.start config handler memory now).run turns = some m)
    (id : ConnId) :
    (m.account id).Balanced (∃ cause, .move (.stream id (.fail cause)) ∈ turns) := by
  have hstart := balanced_start config handler memory now id
  have hfollows : Follows _ _ (m.account id) :=
    follows_of_run (fun _ => orderly_start config handler memory now) hrun
  refine (hstart.follows hfollows).mono ?_
  rintro (hfalse | ⟨taken, hmem, hfails⟩)
  · exact hfalse.elim
  · obtain ⟨cause, rfl⟩ := Stream.Move.exists_cause hfails
    obtain ⟨turn, hturn, htask⟩ := List.mem_map.mp hmem
    exact ⟨cause, Turn.eq_of_task? htask ▸ hturn⟩

/-- In whole steps, too, the account of a connection is balanced at any time. -/
theorem balanced_of_system_run {y : System σ} {moves : List Move}
    (hrun : (System.start config handler memory now).run moves = some y) (id : ConnId) :
    (Machine.account ⟨y, .free, []⟩ id).Balanced (∃ cause, .stream id (.fail cause) ∈ moves) := by
  obtain ⟨turns, hturns, hmoves⟩ := plays_of_run hrun
  refine (balanced_of_run hturns id).mono fun ⟨cause, hmem⟩ => ⟨cause, ?_⟩
  rw [← hmoves]
  exact List.mem_filterMap.mpr ⟨_, hmem, rfl⟩

end Machine

end NetSession.Server
