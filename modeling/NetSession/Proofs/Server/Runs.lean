import NetSession.Proofs.Server.Steps
import NetSession.Proofs.Server.StreamSteps
import NetSession.Proofs.Server.Turns

/-!
# Runs of a machine

Every step keeps a machine orderly as long as its server runs (`Orderly.step`), and so does every
run (`Orderly.run`). The steps are those that `Takes` lists.
-/

namespace NetSession.Server.Machine

variable {σ : Type} {m m' : Machine σ}

/-- A machine with a server that was just started is orderly. -/
theorem orderly_start (config : ServerConfig) (handler : Handler σ) (memory : σ) (now : Instant) :
    (start config handler memory now).Orderly := by
  have hview (id : ConnId) :
      (start config handler memory now).view id = ⟨none, none, none, 0, 0⟩ := by
    apply View.ext
    · change ((∅ : Std.TreeMap Ref Connection)[id]?).map (fun c => (c.closing, c.link.stop)) = none
      rw [Std.TreeMap.getElem?_emptyc]
      rfl
    · change ((∅ : Std.TreeMap ConnId Table.Entry)[id]?).map (·.ref) = none
      rw [Std.TreeMap.getElem?_emptyc]
      rfl
    · change ((∅ : Std.TreeMap ConnId Stream)[id]?).map (·.phase) = none
      rw [Std.TreeMap.getElem?_emptyc]
      rfl
    · rfl
    · rfl
  -- There is nothing of any connection, and nothing was written down.
  constructor
  · exact Table.sound_empty
  · intro id hmark
    rw [hview] at hmark
    exact absurd rfl hmark
  · intro id
    rw [hview]
    change View.InOrder id ⟨none, none, none, 0, 0⟩ none []
    constructor <;> simp [View.isClosing, View.isStopped]
  · intro past h future heq
    exact absurd heq (by simp [trace, start, System.start])
  · rintro id (⟨job, hjob, -⟩ | ⟨_, _, heq, -⟩)
    · exact absurd hjob List.not_mem_nil
    · cases heq
  · intro id b heq
    cases heq

/-- The server does something that matters to no close. -/
theorem Orderly.setServer (h : m.Orderly) {s : Server σ} (hquiet : Quiet m.server s) :
    (m.setServer s).Orderly := by
  apply h.quiet
  · exact hquiet
  · exact fun _ => rfl
  · exact fun _ => rfl
  · rfl
  · exact fun job hjob id hmem => h.holds (.inl ⟨job, hjob, hmem⟩)
  · exact fun _ _ => h.alone

/-- The server has something else to do with live connections. -/
theorem Orderly.setJobs (h : m.Orderly) (hfree : m.stage = .free) {jobs : List Job}
    (hjobs : ∀ job ∈ jobs, ∀ id ∈ job.connections, (m.view id).live ≠ none) :
    { m with jobs := jobs : Machine σ }.Orderly := by
  apply h.quiet
  · exact .refl _
  · exact fun _ => rfl
  · exact fun _ => rfl
  · rfl
  · exact hjobs
  · rw [hfree]
    exact nofun

/-- Something changes in the system that matters to no close. -/
theorem Orderly.setSystem (h : m.Orderly) {y : System σ} (hserver : Quiet m.server y.server)
    (hphase : ∀ id, (y.view id).phase = (m.view id).phase)
    (hmail : ∀ id, (y.view id).mail = (m.view id).mail) :
    { m with system := y : Machine σ }.Orderly := by
  apply h.quiet
  · exact hserver
  · exact hphase
  · exact hmail
  · rfl
  · exact fun job hjob id hmem => h.holds (.inl ⟨job, hjob, hmem⟩)
  · exact fun _ _ => h.alone

/-- One more job is only about live connections. -/
theorem live_of_mem_cons {job : Job} {jobs : List Job}
    (hnew : ∀ id ∈ job.connections, (m.view id).live ≠ none)
    (hold : ∀ job ∈ jobs, ∀ id ∈ job.connections, (m.view id).live ≠ none) :
    ∀ job' ∈ job :: jobs, ∀ id ∈ job'.connections, (m.view id).live ≠ none := by
  intro job' hmem
  rcases List.mem_cons.mp hmem with rfl | hmem
  · exact hnew
  · exact hold job' hmem

/-- A job is done. -/
theorem Orderly.perform (h : m.Orderly) (hfree : m.stage = .free) {job : Job} {rest : List Job}
    (hjobs : m.jobs = job :: rest) : ({ m with jobs := rest : Machine σ }.perform job).Orderly := by
  -- What the server has to do it has to do with live connections, this job included.
  have hjob (id : ConnId) (hmem : id ∈ job.connections) : (m.view id).live ≠ none :=
    h.holds (.inl ⟨job, by rw [hjobs]; exact List.mem_cons_self, hmem⟩)
  have hlive (job' : Job) (hmem : job' ∈ rest) (id : ConnId) (hid : id ∈ job'.connections) :
      (m.view id).live ≠ none :=
    h.holds (.inl ⟨job', by rw [hjobs]; exact List.mem_cons_of_mem _ hmem, hid⟩)
  have hrest : { m with jobs := rest : Machine σ }.Orderly := h.setJobs hfree hlive
  cases job with
  | visit reaction =>
    have hquiet := m.server.quiet_advance reaction
    simp only [Machine.perform]
    split
    · next s heq =>
      rw [heq] at hquiet
      exact hrest.setServer hquiet
    · next reaction' s heq =>
      rw [heq] at hquiet
      apply hrest.quiet
      · exact hquiet
      · exact fun _ => rfl
      · exact fun _ => rfl
      · rfl
      · exact live_of_mem_cons (fun id hmem => absurd hmem List.not_mem_nil) hlive
      · rw [hfree]
        exact nofun
  | count => exact hrest.setSystem (.refl _) (fun _ => rfl) fun _ => rfl
  | disconnect id =>
    exact hrest.disconnect hfree (hjob id (List.mem_singleton_self _)) fun _ => hlive
  | disconnectEach ids counted =>
    cases ids with
    | nil => exact hrest.setSystem (.refl _) (fun _ => rfl) fun _ => rfl
    | cons id ids =>
      simp only [Machine.perform]
      apply hrest.disconnect hfree (hjob id List.mem_cons_self)
      intro first
      exact live_of_mem_cons (fun id' hmem => hjob id' (List.mem_cons_of_mem id hmem)) hlive
  | evictEach ids =>
    cases ids with
    | nil => exact hrest
    | cons id ids =>
      have hids : ∀ job ∈ .evictEach ids :: rest, ∀ id ∈ job.connections,
          (m.view id).live ≠ none :=
        live_of_mem_cons (fun id' hmem => hjob id' (List.mem_cons_of_mem id hmem)) hlive
      simp only [Machine.perform]
      apply hrest.disconnect hfree (hjob id List.mem_cons_self)
      intro first
      -- It is said of a connection only if it was not marked before.
      cases first with
      | false => exact hids
      | true =>
        refine live_of_mem_cons (fun id' hmem => ?_) hids
        rw [List.mem_singleton.mp hmem]
        exact hjob id List.mem_cons_self
  | sayEvicted id => exact hrest.setServer (m.server.quiet_sayEvicted id)

/-- What a callback was called for is done. -/
theorem Orderly.conclude (h : m.Orderly) {callback : Callback}
    (hstage : m.stage = .returned callback) :
    ({ m with stage := .free : Machine σ }.conclude callback).Orderly := by
  cases callback with
  | accepted id => exact h.spawn hstage
  | acceptFailed cause =>
    exact (h.free hstage rfl).setSystem (.refl _) (fun _ => rfl) fun _ => rfl
  | received id data => exact h.free hstage rfl
  | closing id => exact h.signal hstage
  | closed id => exact h.release hstage
  | heartbeat index ids =>
    -- Who is silent is looked for once the callback is over.
    apply (h.free hstage rfl).setJobs rfl
    apply live_of_mem_cons
    · exact fun id hmem => h.live_of_mem_refs (mem_refs_of_mem_silent hmem)
    · exact fun job hjob id hmem => h.holds (.inl ⟨job, hjob, hmem⟩)

/-- The first thing that is left of a reaction is done. -/
theorem Orderly.advance (h : m.Orderly) {callback : Callback} {rest rest' : Reaction σ}
    {s : Server σ} (hstage : m.stage = .running callback rest)
    (hadvance : m.server.advance rest = (.inr rest', s)) :
    ({ m.setServer s with stage := .running callback rest' } : Machine σ).Orderly := by
  have hquiet := m.server.quiet_advance rest
  rw [hadvance] at hquiet
  apply h.quiet
  · exact hquiet
  · exact fun _ => rfl
  · exact fun _ => rfl
  · rw [hstage]
    rfl
  · exact fun job hjob id hmem => h.holds (.inl ⟨job, hjob, hmem⟩)
  · exact fun _ _ => h.alone

/-- A callback returns. -/
theorem Orderly.leave (h : m.Orderly) {callback : Callback} {rest : Reaction σ} {memory : σ}
    {s : Server σ} (hstage : m.stage = .running callback rest)
    (hadvance : m.server.advance rest = (.inl memory, s)) :
    ({ m.setServer ({ s with memory := memory : Server σ }.note (.returned callback)) with
        stage := .returned callback } : Machine σ).Orderly := by
  have hquiet := m.server.quiet_advance rest
  rw [hadvance] at hquiet
  exact (h.setServer hquiet).return hstage memory

/-- A server that is at nothing is free and has no jobs. -/
theorem isIdle_iff : m.isIdle ↔ m.stage = .free ∧ m.jobs = [] := by
  rw [isIdle]
  split
  · next hstage hjobs => simp [hstage, hjobs]
  · next hne =>
    constructor
    · exact nofun
    · exact fun ⟨hstage, hjobs⟩ => absurd hjobs (hne hstage)

/-- What is found is live. -/
theorem live_of_get? {s : Server σ} {id : ConnId} (h : (s.roster.get? id).isSome) :
    s.roster.table.get? id ≠ none := by
  intro hnone
  simp only [Roster.get?, hnone] at h
  cases h

/-- A connection that is to be closed, if it is live. -/
theorem Orderly.disconnectLive (h : m.Orderly) (hfree : m.stage = .free) (id : ConnId) :
    (m.disconnectLive id).Orderly := by
  rw [Machine.disconnectLive]
  split
  · next hlive =>
    apply h.setJobs hfree
    intro job hjob id' hmem
    rw [List.mem_singleton.mp hjob] at hmem
    rw [List.mem_singleton.mp hmem]
    exact live_of_get? hlive
  · exact h

/-- A report is taken in. -/
theorem Orderly.handle (h : m.Orderly) (hfree : m.stage = .free) (hjobs : m.jobs = [])
    {event : Event} {rest : List Event} (hevents : m.system.events = event :: rest) :
    ({ m with system := { m.system with events := rest } : Machine σ }.handle event).Orderly := by
  -- Any report but the last one of a task is taken from the mailbox without effect.
  have hpop (hne : ∀ id, event ≠ .closed id) :
      { m with system := { m.system with events := rest } : Machine σ }.Orderly := by
    refine h.setSystem (.refl _) (fun _ => rfl) fun id => ?_
    change rest.count _ = m.system.events.count _
    rw [hevents, List.count_cons_of_ne (hne id)]
  cases event with
  | read id data =>
    have hrest := hpop nofun
    simp only [Machine.handle]
    split
    · exact hrest
    · next ref c hget =>
      split
      · exact hrest
      · apply (hrest.setServer (m.server.quiet_touch id)).call hfree rfl
        rintro _ ⟨⟩
        change (m.server.touch id).roster.table.get? id ≠ none
        rw [(m.server.quiet_touch id).get?]
        exact live_of_get? (hget ▸ rfl)
  | ended id failure =>
    have hrest := hpop nofun
    exact (hrest.setServer (m.server.quiet_sayEnded id failure)).disconnectLive hfree id
  | closed id =>
    have hmail : 0 < (m.view id).mail := by
      change 0 < m.system.events.count _
      rw [hevents]
      exact List.count_pos_iff.mpr List.mem_cons_self
    obtain ⟨hmark, hlive⟩ := (h.view id).live_of_mail hmail
    simp only [Machine.handle]
    split
    · next hnone =>
      -- A connection that was reported closed is still there.
      obtain ⟨ref, href⟩ := Option.ne_none_iff_exists'.mp hlive
      obtain rfl := (h.view id).named ref href
      obtain ⟨mark, hmark⟩ := Option.ne_none_iff_exists'.mp hmark
      obtain ⟨c, hc, -⟩ := Option.map_eq_some_iff.mp hmark
      have hget : m.server.roster.table.get? ref = some ref := href
      have hpool : m.server.roster.pool.get? ref = some c := hc
      simp [Roster.get?, hget, hpool] at hnone
    · exact h.takeReport hfree hjobs hevents

/-- A command is served. -/
theorem Orderly.serve (h : m.Orderly) (hfree : m.stage = .free) {command : Command}
    (hrunning : (m.serve command).system.running = true) : (m.serve command).Orderly := by
  cases command with
  | iterate visit =>
    cases visit with
    | none =>
      refine h.setJobs hfree fun job hjob id hmem => ?_
      rw [List.mem_singleton.mp hjob] at hmem
      exact absurd hmem List.not_mem_nil
    | some visit =>
      refine h.setJobs hfree fun job hjob id hmem => ?_
      rcases List.mem_append.mp hjob with hjob | hjob
      · obtain ⟨id', -, rfl⟩ := List.mem_map.mp hjob
        exact absurd hmem List.not_mem_nil
      · rw [List.mem_singleton.mp hjob] at hmem
        exact absurd hmem List.not_mem_nil
  | disconnectAll =>
    -- All connections are listed at once.
    refine h.setJobs hfree fun job hjob id hmem => h.live_of_mem_refs ?_
    rw [List.mem_singleton.mp hjob] at hmem
    exact hmem
  | shutdown => exact nomatch hrunning

/-- What was at the listener is accepted. -/
theorem Orderly.acceptArrival (h : m.Orderly) (hfree : m.stage = .free) (hjobs : m.jobs = [])
    (arrival : Arrival) : (m.accept arrival).Orderly := by
  cases arrival with
  | peer address => exact h.accept hfree hjobs address
  | failure cause => exact (h.setServer (m.server.quiet_say _ _)).call hfree rfl nofun

/-- The system changes by what others do. -/
theorem Orderly.affects (h : m.Orderly) (hrunning : m.system.running = true) {move : Move}
    {y : System σ} (haffects : m.system.Affects move y) : (m.setSystem y).Orderly := by
  cases haffects with
  | mail hserver hstreams hevents =>
    apply h.setSystem
    · rw [hserver]
      exact .refl _
    · intro id
      change y.streams[id]?.map _ = m.system.streams[id]?.map _
      rw [hstreams]
    · intro id
      change y.events.count _ = m.system.events.count _
      rw [hevents]
  | task hstep => exact h.stream hrunning hstep
  | @socket _ id before after hthere houtside =>
    refine h.setSystem (.refl _) (fun id' => ?_) fun _ => rfl
    change (m.system.streams.insert id after)[id']?.map _ = m.system.streams[id']?.map _
    rw [Ascending.getElem?_insert]
    split
    · next heq =>
      rw [heq, hthere]
      exact congrArg some houtside.phase
    · rfl
  | act reaction =>
    exact h.setSystem (m.server.quiet_perform reaction) (fun _ => rfl) fun _ => rfl
  | pass d =>
    have hpass : Quiet m.server { m.server with now := m.server.now.after d } :=
      ⟨fun _ => rfl, fun _ => rfl, id, rfl, rfl, (Quiet.refl m.server).trace⟩
    exact h.setSystem hpass (fun _ => rfl) fun _ => rfl

/-- Closing a connection does not stop the server. -/
theorem running_disconnect (m : Machine σ) (id : ConnId) (jobs : Bool → List Job) :
    (m.disconnect id jobs).system.running = m.system.running := by
  simp only [Machine.disconnect]
  split <;> rfl

/-- To do a job does not stop the server. -/
theorem running_perform (m : Machine σ) (job : Job) :
    (m.perform job).system.running = m.system.running := by
  cases job with
  | visit rest =>
    simp only [Machine.perform]
    split <;> rfl
  | count | sayEvicted => rfl
  | disconnect id => exact running_disconnect _ _ _
  | disconnectEach ids counted =>
    cases ids with
    | nil => rfl
    | cons id ids => exact running_disconnect _ _ _
  | evictEach ids =>
    cases ids with
    | nil => rfl
    | cons id ids => exact running_disconnect _ _ _

/-- What others do does not stop the server, and does not start it again. -/
theorem running_of_affects {y y' : System σ} {move : Move} (haffects : y.Affects move y') :
    y'.running = y.running := by
  cases haffects with
  | mail _ _ _ hrunning => exact hrunning
  | task hstep =>
    obtain ⟨_, _, _, _, _, _, _, _, hleft⟩ := System.stepStream_cases hstep
    exact hleft.running
  | socket | act | pass => rfl

/-- A server that was stopped does not run again. -/
theorem running_of_step {turn : Turn} (hstep : m.step turn = some m')
    (hrunning : m'.system.running = true) : m.system.running = true := by
  cases takes_of_step hstep with
  | advance | leave => exact hrunning
  | @conclude callback => cases callback <;> exact hrunning
  | @perform job rest => exact (running_perform { m with jobs := rest } job).symm.trans hrunning
  | serve hbefore | accept hbefore | handle hbefore | close hbefore | tick hbefore => exact hbefore
  | other _ haffects => exact (running_of_affects haffects).symm.trans hrunning

/-- Every step keeps a machine orderly as long as its server runs. -/
theorem Orderly.step (h : m.Orderly) {turn : Turn} (hstep : m.step turn = some m')
    (hrunning : m'.system.running = true) : m'.Orderly := by
  have hbefore := running_of_step hstep hrunning
  cases takes_of_step hstep with
  | advance hstage hadvance => exact h.advance hstage hadvance
  | leave hstage hadvance => exact h.leave hstage hadvance
  | conclude hstage => exact h.conclude hstage
  | perform hstage hjobs => exact h.perform hstage hjobs
  | @serve command rest _ hidle =>
    have hrest : (m.setSystem { m.system with commands := rest }).Orderly :=
      h.setSystem (.refl _) (fun _ => rfl) fun _ => rfl
    exact hrest.serve (isIdle_iff.mp hidle).1 hrunning
  | @accept arrival rest _ hidle =>
    obtain ⟨hfree, hjobs⟩ := isIdle_iff.mp hidle
    have hrest : (m.setSystem { m.system with arrivals := rest }).Orderly :=
      h.setSystem (.refl _) (fun _ => rfl) fun _ => rfl
    exact hrest.acceptArrival hfree hjobs arrival
  | handle _ hidle hevents =>
    obtain ⟨hfree, hjobs⟩ := isIdle_iff.mp hidle
    exact h.handle hfree hjobs hevents
  | @close id rest _ hidle =>
    have hpop : Quiet m.server (m.server.setPool { m.server.pool with requests := rest }) :=
      .setPool fun _ => rfl
    exact (h.setServer hpop).disconnectLive (isIdle_iff.mp hidle).1 id
  | @tick timer _ hidle =>
    have hbeat := h.setSystem
      (y := { m.system with timer := some (timer.tick m.server.now), server := m.server.beat })
      m.server.quiet_beat (fun _ => rfl) fun _ => rfl
    exact hbeat.call (isIdle_iff.mp hidle).1 rfl nofun
  | other _ haffects => exact h.affects hbefore haffects

/-- A server that runs at the end of a run has run all the time. -/
theorem running_of_run {turns : List Turn} (hrun : m.run turns = some m')
    (hrunning : m'.system.running = true) : m.system.running = true := by
  induction turns generalizing m with
  | nil =>
    obtain rfl := Option.some.inj hrun
    exact hrunning
  | cons turn turns ih =>
    obtain ⟨next, hstep, hrest⟩ := Option.bind_eq_some_iff.mp hrun
    exact running_of_step hstep (ih hrest)

/-- Every run keeps a machine orderly as long as its server runs. -/
theorem Orderly.run (h : m.Orderly) {turns : List Turn} (hrun : m.run turns = some m')
    (hrunning : m'.system.running = true) : m'.Orderly := by
  induction turns generalizing m with
  | nil =>
    obtain rfl := Option.some.inj hrun
    exact h
  | cons turn turns ih =>
    obtain ⟨next, hstep, hrest⟩ := Option.bind_eq_some_iff.mp hrun
    exact ih (h.step hstep (running_of_run hrest hrunning)) hrest

end NetSession.Server.Machine
