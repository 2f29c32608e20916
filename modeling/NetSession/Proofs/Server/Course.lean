import NetSession.Proofs.Server.Runs

/-!
# The course of one connection

A machine takes many kinds of steps, but most of them leave a connection where it is on its way to
be closed. `Machine.sight` is what counts there, and `Course` lists what one step can do to it.
`Orderly.course` shows that there is nothing else while the server runs, so that what each step of
the course keeps holds of all connections at all times.
-/

namespace NetSession.Server

variable {σ : Type}

/-- The callback about the life of a connection that a server is in, and whether it has returned. -/
def Stage.own (stage : Stage σ) (id : ConnId) : Option (Callback × Bool) :=
  stage.tag.filter fun tag => tag.1.about = some id

/-- What counts of a connection on its way to be closed. -/
@[ext]
structure Sight where
  /-- Whether it is marked as closing, and whether the signal to stop is there. -/
  mark : Option (Bool × Bool)
  /-- How far its task is. -/
  phase : Option Stream.Phase
  /-- The callback about its life that the server is in, and whether it has returned. -/
  own : Option (Callback × Bool)

/-- What one step can do to a connection. -/
inductive Course (id : ConnId) (turn : Turn) (v : Sight) : Sight → Prop where
  /-- Nothing. -/
  | rest : Course id turn v v
  /-- It is accepted, and the callback about that is called. -/
  | accept (mark : v.mark = none) (own : v.own = none) :
      Course id turn v { v with mark := some (false, false), own := some (.accepted id, false) }
  /-- It is marked, and the closing callback is called. -/
  | close {stopped : Bool} (mark : v.mark = some (false, stopped)) (own : v.own = none) :
      Course id turn v { v with mark := some (true, stopped), own := some (.closing id, false) }
  /-- The report that its socket is closed is taken in, and the closed callback is called. -/
  | takeReport (own : v.own = none) :
      Course id turn v { v with own := some (.closed id, false) }
  /-- A callback returns. -/
  | returns {callback : Callback} (own : v.own = some (callback, false)) :
      Course id turn v { v with own := some (callback, true) }
  /-- Its task starts. -/
  | spawn (own : v.own = some (.accepted id, true)) (phase : v.phase = none) :
      Course id turn v { v with phase := some (.looking .stop), own := none }
  /-- Its task is told to stop. -/
  | signal (own : v.own = some (.closing id, true)) :
      Course id turn v { v with mark := v.mark.map fun mark => (mark.1, true), own := none }
  /-- It leaves the table. -/
  | release (own : v.own = some (.closed id, true)) : Course id turn v { v with own := none }
  /-- Its task takes a step. -/
  | task {move : Stream.Move} {before after : Stream} {link link' : Link} {closing : Bool}
      {report : Option Stream.Report} (turn_eq : turn = .move (.stream id move))
      (mark : v.mark = some (closing, link.stop)) (phase : v.phase = some before.phase)
      (step : before.step link true move = some (after, link', report)) :
      Course id turn v { v with mark := some (closing, link'.stop), phase := some after.phase }

/-- The callback that a server is in is about the connection, or about none or another one. -/
theorem Stage.own_eq {stage : Stage σ} {callback : Callback} {b : Bool}
    (h : stage.tag = some (callback, b)) (id : ConnId) :
    stage.own id = if callback.about = some id then some (callback, b) else none := by
  rw [own, h, Option.filter_some]
  simp only [decide_eq_true_eq]

namespace Machine

/-- What counts of a connection. -/
def sight (m : Machine σ) (id : ConnId) : Sight :=
  ⟨(m.view id).mark, (m.view id).phase, m.stage.own id⟩

variable {m m' : Machine σ} {turn : Turn} {id : ConnId}

/-- A connection is seen with its mark. -/
theorem view_mark {c : Connection} (h : m.server.pool.get? id = some c) :
    (m.view id).mark = some (c.closing, c.link.stop) := by
  change (m.server.pool.get? id).map _ = _
  rw [h]
  rfl

/-- A task is seen where it is. -/
theorem view_phase {stream : Stream} (h : m.system.streams[id]? = some stream) :
    (m.view id).phase = some stream.phase := by
  change m.system.streams[id]?.map _ = _
  rw [h]
  rfl

/-- What matters to no close is not seen. -/
theorem sight_of_quiet (hserver : Quiet m.server m'.server)
    (hphase : (m'.view id).phase = (m.view id).phase) (htag : m'.stage.tag = m.stage.tag) :
    m'.sight id = m.sight id := by
  have hmark : (m'.view id).mark = (m.view id).mark := hserver.mark id
  rw [sight, sight, hmark, hphase, Stage.own, Stage.own, htag]

/-- What leaves the sight of a connection as it is does nothing to it. -/
theorem course_of_eq (h : m'.sight id = m.sight id) :
    Course id turn (m.sight id) (m'.sight id) := by
  rw [h]
  exact .rest

/-- A free server is in no callback. -/
theorem own_of_free (hfree : m.stage = .free) : m.stage.own id = none := by
  rw [hfree]
  rfl

/-- The connection that a callback is about sees the call. -/
theorem sight_call_of_about (m : Machine σ) (callback : Callback)
    (habout : callback.about = some id) :
    (m.call callback).sight id = { m.sight id with own := some (callback, false) } := by
  have hown : (m.call callback).stage.own id = some (callback, false) := by
    rw [Stage.own_eq rfl, if_pos habout]
  exact Sight.ext rfl rfl hown

/-- No other connection sees the call. -/
theorem sight_call_of_ne (hfree : m.stage = .free) (callback : Callback)
    (hother : callback.about ≠ some id) : (m.call callback).sight id = m.sight id := by
  have hown : (m.call callback).stage.own id = none := by rw [Stage.own_eq rfl, if_neg hother]
  exact Sight.ext rfl rfl (hown.trans (own_of_free hfree).symm)

/-- A callback that is about no connection's life is not seen, nor is what was done before it. -/
theorem sight_call_of_quiet (hfree : m.stage = .free) (hquiet : Quiet m.server m'.server)
    (hphase : (m'.view id).phase = (m.view id).phase) {callback : Callback}
    (habout : callback.about = none) : (m'.call callback).sight id = m.sight id := by
  have hown : (m'.call callback).stage.own id = none := by
    rw [Stage.own_eq rfl, habout, if_neg nofun]
  exact Sight.ext (hquiet.mark id) hphase (hown.trans (own_of_free hfree).symm)

/-- A connection begins to close, unless it has begun before. -/
theorem course_disconnect (hfree : m.stage = .free) (id' : ConnId) (jobs : Bool → List Job) :
    Course id turn (m.sight id) ((m.disconnect id' jobs).sight id) := by
  cases hfirst : (m.server.pool.beginClose id').1 with
  | false =>
    have heq : m.disconnect id' jobs = { m with jobs := jobs false } := by
      simp only [Machine.disconnect, hfirst, Bool.false_eq_true, if_false]
    rw [heq]
    exact .rest
  | true =>
    obtain ⟨stopped, hmark, hview⟩ := view_disconnect m jobs hfirst
    have hstage : (m.disconnect id' jobs).stage.tag = some (.closing id', false) := by
      simp only [Machine.disconnect, hfirst, if_true]
      rfl
    by_cases heq : id = id'
    · subst heq
      have hsight : (m.disconnect id jobs).sight id =
          { m.sight id with mark := some (true, stopped), own := some (.closing id, false) } := by
        rw [sight, hview, if_pos rfl, Stage.own_eq hstage, Callback.about, if_pos rfl]
        rfl
      rw [hsight]
      exact .close hmark (own_of_free hfree)
    · apply course_of_eq
      have hother : ¬ (Callback.closing id').about = some id :=
        fun h => heq (Option.some.inj h).symm
      rw [sight, hview, if_neg heq, Stage.own_eq hstage, if_neg hother, sight, own_of_free hfree]

/-- When a callback about another connection, or about none, is over, nothing is seen of it. -/
theorem sight_of_over {callback : Callback} (hstage : m.stage = .returned callback)
    (hother : callback.about ≠ some id) (hmark : (m'.view id).mark = (m.view id).mark)
    (hphase : (m'.view id).phase = (m.view id).phase) (hfree : m'.stage = .free) :
    m'.sight id = m.sight id := by
  have htag : m.stage.tag = some (callback, true) := by
    rw [hstage]
    rfl
  rw [sight, sight, hmark, hphase, own_of_free hfree, Stage.own_eq htag, if_neg hother]

/-- A job is done. -/
theorem course_perform (hfree : m.stage = .free) (job : Job) :
    Course id turn (m.sight id) ((m.perform job).sight id) := by
  cases job with
  | visit rest =>
    have hquiet := m.server.quiet_advance rest
    simp only [Machine.perform]
    split
    all_goals
      next heq =>
        rw [heq] at hquiet
        exact course_of_eq (sight_of_quiet hquiet rfl rfl)
  | count => exact .rest
  | disconnect id' => exact course_disconnect hfree id' _
  | disconnectEach ids counted =>
    cases ids with
    | nil => exact .rest
    | cons id' ids => exact course_disconnect hfree id' _
  | evictEach ids =>
    cases ids with
    | nil => exact .rest
    | cons id' ids => exact course_disconnect hfree id' _
  | sayEvicted id' => exact course_of_eq (sight_of_quiet (m.server.quiet_sayEvicted id') rfl rfl)

/-- What a callback was called for is done. -/
theorem Orderly.course_conclude (h : m.Orderly) {callback : Callback}
    (hstage : m.stage = .returned callback) :
    Course id turn (m.sight id)
      ((({ m with stage := .free } : Machine σ).conclude callback).sight id) := by
  have htag : m.stage.tag = some (callback, true) := by
    rw [hstage]
    rfl
  have hown := Stage.own_eq htag id
  have hne {id' : ConnId} (heq : ¬ id = id') : some id' ≠ some id :=
    fun h => heq (Option.some.inj h).symm
  -- Three callbacks have something done after them, and each to its own connection only: a task
  -- is spawned, the stop is signalled, or the entry is released.
  cases callback with
  | accepted id' =>
    have hphase : (m.system.streams.insert id' {})[id]?.map (·.phase) =
        if id = id' then some (.looking .stop) else (m.view id).phase := by
      rw [Ascending.getElem?_insert]
      split <;> rfl
    by_cases heq : id = id'
    · subst heq
      rw [Callback.about, if_pos rfl] at hown
      have hsight : (({ m with stage := .free } : Machine σ).conclude (.accepted id)).sight id =
          { m.sight id with phase := some (.looking .stop), own := none } :=
        Sight.ext rfl (hphase.trans (if_pos rfl)) rfl
      rw [hsight]
      exact .spawn hown ((h.view id).early true htag).2
    · exact course_of_eq (sight_of_over hstage (hne heq) rfl (hphase.trans (if_neg heq)) rfl)
  | closing id' =>
    have hmark := mark_signalStop m.server id' id
    by_cases heq : id = id'
    · subst heq
      rw [Callback.about, if_pos rfl] at hown
      have hsight : (({ m with stage := .free } : Machine σ).conclude (.closing id)).sight id =
          { m.sight id with
            mark := (m.sight id).mark.map fun mark => (mark.1, true), own := none } :=
        Sight.ext (hmark.trans (if_pos rfl)) rfl rfl
      rw [hsight]
      exact .signal hown
    · exact course_of_eq (sight_of_over hstage (hne heq) (hmark.trans (if_neg heq)) rfl rfl)
  | closed id' =>
    by_cases heq : id = id'
    · subst heq
      rw [Callback.about, if_pos rfl] at hown
      exact .release hown
    · exact course_of_eq (sight_of_over hstage (hne heq) rfl rfl rfl)
  | acceptFailed | received | heartbeat =>
    exact course_of_eq (sight_of_over hstage nofun rfl rfl rfl)

/-- A callback returns. -/
theorem course_leave {callback : Callback} {rest : Reaction σ} {memory : σ} {s : Server σ}
    (hstage : m.stage = .running callback rest)
    (hadvance : m.server.advance rest = (.inl memory, s)) :
    Course id turn (m.sight id)
      (({ m.setServer ({ s with memory := memory : Server σ }.note (.returned callback)) with
          stage := .returned callback } : Machine σ).sight id) := by
  have hquiet := m.server.quiet_advance rest
  rw [hadvance] at hquiet
  have hmark := hquiet.mark id
  have htag : m.stage.tag = some (callback, false) := by
    rw [hstage]
    rfl
  have hown := Stage.own_eq htag id
  have hown' : (Stage.returned callback : Stage σ).own id =
      if callback.about = some id then some (callback, true) else none := Stage.own_eq rfl id
  by_cases habout : callback.about = some id
  · rw [if_pos habout] at hown hown'
    have hsight : ({ m.setServer
        ({ s with memory := memory : Server σ }.note (.returned callback)) with
          stage := .returned callback } : Machine σ).sight id =
        { m.sight id with own := some (callback, true) } :=
      Sight.ext hmark rfl hown'
    rw [hsight]
    exact .returns hown
  · -- It is not about this connection.
    rw [if_neg habout] at hown hown'
    exact course_of_eq (Sight.ext hmark rfl (hown'.trans hown.symm))

/-- The first thing that is left of a reaction is done. -/
theorem sight_advance {callback : Callback} {rest rest' : Reaction σ} {s : Server σ}
    (hstage : m.stage = .running callback rest)
    (hadvance : m.server.advance rest = (.inr rest', s)) :
    ({ m.setServer s with stage := .running callback rest' } : Machine σ).sight id =
      m.sight id := by
  have hquiet := m.server.quiet_advance rest
  rw [hadvance] at hquiet
  refine sight_of_quiet hquiet rfl ?_
  rw [hstage]
  rfl

/-- A connection that is to be closed, if it is live. -/
theorem sight_disconnectLive (m : Machine σ) (id id' : ConnId) :
    (m.disconnectLive id').sight id = m.sight id := by
  rw [Machine.disconnectLive]
  split <;> rfl

/-- A report is taken in. -/
theorem course_handle (hfree : m.stage = .free) (event : Event) :
    Course id turn (m.sight id) ((m.handle event).sight id) := by
  cases event with
  | read id' data =>
    simp only [Machine.handle]
    split
    · exact .rest
    · split
      · exact .rest
      · have hquiet : Quiet m.server (m.setServer (m.server.touch id')).server :=
          m.server.quiet_touch id'
        exact course_of_eq (sight_call_of_quiet hfree hquiet rfl rfl)
  | ended id' failure =>
    have hquiet : (m.setServer (m.server.sayEnded id' failure)).sight id = m.sight id :=
      sight_of_quiet (m.server.quiet_sayEnded id' failure) rfl rfl
    exact course_of_eq ((sight_disconnectLive _ id id').trans hquiet)
  | closed id' =>
    simp only [Machine.handle]
    split
    · exact .rest
    · by_cases habout : (Callback.closed id').about = some id
      · rw [sight_call_of_about m _ habout, ← Option.some.inj habout]
        exact .takeReport (own_of_free hfree)
      · exact course_of_eq (sight_call_of_ne hfree _ habout)

/-- A connection is accepted. -/
theorem Orderly.course_accept (h : m.Orderly) (hfree : m.stage = .free) (arrival : Arrival) :
    Course id turn (m.sight id) ((m.accept arrival).sight id) := by
  cases arrival with
  | peer address =>
    have hview := view_enter m address id
    by_cases heq : id = m.server.nextId
    · -- The next number was not used before.
      have hmark : (m.view id).mark = none := by
        by_contra hmark
        exact Nat.lt_irrefl _ (heq ▸ h.below id hmark)
      rw [if_pos heq] at hview
      have hsight : (m.setServer (m.server.enter address)).sight id =
          { m.sight id with mark := some (false, false) } := by
        rw [sight, hview]
        rfl
      have hcall := sight_call_of_about (m.setServer (m.server.enter address))
        (.accepted m.server.nextId) (congrArg some heq.symm)
      rw [hsight, ← heq] at hcall
      simp only [Machine.accept, ← heq]
      rw [hcall]
      exact .accept hmark (own_of_free hfree)
    · rw [if_neg heq] at hview
      have hsight : (m.setServer (m.server.enter address)).sight id = m.sight id := by
        rw [sight, hview]
        rfl
      have hcall : (m.accept (.peer address)).sight id = _ :=
        sight_call_of_ne (m := m.setServer (m.server.enter address)) hfree
          (.accepted m.server.nextId) fun habout => heq (Option.some.inj habout).symm
      exact course_of_eq (hcall.trans hsight)
  | failure cause =>
    have hquiet : Quiet m.server (m.setServer (m.server.sayRefused cause)).server :=
      m.server.quiet_say _ _
    exact course_of_eq (sight_call_of_quiet hfree hquiet rfl rfl)

/-- The task of a connection takes a step. -/
theorem course_stream (hrunning : m.system.running = true) {id' : ConnId} {move : Stream.Move}
    {y : System σ} (hstep : m.system.stepStream id' move = some y) :
    Course id (.move (.stream id' move)) (m.sight id)
      (({ m with system := y } : Machine σ).sight id) := by
  obtain ⟨before, c, after, link, report, hbefore, hc, hstream, hleft⟩ :=
    System.stepStream_cases hstep
  rw [hrunning] at hstream
  by_cases heq : id = id'
  · subst heq
    have hview := hleft.view_self
    have hsight : ({ m with system := y } : Machine σ).sight id =
        { m.sight id with mark := some (c.closing, link.stop), phase := some after.phase } :=
      Sight.ext (congrArg View.mark hview) (congrArg View.phase hview) rfl
    rw [hsight]
    exact .task rfl (view_mark hc) (view_phase hbefore) hstream
  · have hview := hleft.view_other (fun _ => System.connection_of_mem_reports) heq
    exact course_of_eq (Sight.ext (congrArg View.mark hview) (congrArg View.phase hview) rfl)

/-- The system changes by what others do. -/
theorem course_affects (hrunning : m.system.running = true) {move : Move} {y : System σ}
    (haffects : m.system.Affects move y) :
    Course id (.move move) (m.sight id) ((m.setSystem y).sight id) := by
  cases haffects with
  | mail hserver hstreams =>
    apply course_of_eq
    apply Sight.ext
    · change (y.server.pool.get? id).map _ = (m.system.server.pool.get? id).map _
      rw [hserver]
    · change y.streams[id]?.map _ = m.system.streams[id]?.map _
      rw [hstreams]
    · rfl
  | task hstep => exact course_stream hrunning hstep
  | @socket _ id' before after hthere houtside =>
    refine course_of_eq (Sight.ext rfl ?_ rfl)
    change (m.system.streams.insert id' after)[id]?.map _ = m.system.streams[id]?.map _
    rw [Ascending.getElem?_insert]
    split
    · next heq =>
      rw [heq, hthere]
      exact congrArg some houtside.phase
    · rfl
  | act reaction => exact course_of_eq (sight_of_quiet (m.server.quiet_perform reaction) rfl rfl)
  | pass d => exact .rest

/-- Whatever a machine does while its server runs, it brings a connection on in its course, or
leaves it where it is. -/
theorem Orderly.course (h : m.Orderly) (hstep : m.step turn = some m')
    (hrunning : m'.system.running = true) (id : ConnId) :
    Course id turn (m.sight id) (m'.sight id) := by
  have hbefore := running_of_step hstep hrunning
  cases takes_of_step hstep with
  | advance hstage hadvance => exact course_of_eq (sight_advance hstage hadvance)
  | leave hstage hadvance => exact course_leave hstage hadvance
  | conclude hstage => exact h.course_conclude hstage
  | @perform job rest hstage => exact course_perform (m := { m with jobs := rest }) hstage job
  | @serve command =>
    -- The server only notes what it has to do, unless it is told to stop.
    cases command with
    | iterate visit => cases visit <;> exact .rest
    | disconnectAll => exact .rest
    | shutdown => exact absurd hrunning Bool.false_ne_true
  | @accept arrival rest _ hidle =>
    have hrest : (m.setSystem { m.system with arrivals := rest }).Orderly :=
      h.setSystem (.refl _) (fun _ => rfl) fun _ => rfl
    exact hrest.course_accept (isIdle_iff.mp hidle).1 arrival
  | @handle event rest _ hidle =>
    exact course_handle (m := m.setSystem { m.system with events := rest })
      (isIdle_iff.mp hidle).1 event
  | @close id' => exact course_of_eq (sight_disconnectLive _ id id')
  | tick _ hidle =>
    apply course_of_eq
    apply sight_call_of_quiet (isIdle_iff.mp hidle).1
    · exact m.server.quiet_beat
    · rfl
    · rfl
  | other _ haffects => exact course_affects hbefore haffects

end Machine

end NetSession.Server
