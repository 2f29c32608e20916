import NetSession.Proofs.Server.Orderly

/-!
# Steps of tasks

What a step of the task of a connection leaves of the system (`StreamStep`), and that it keeps a
machine orderly while the server runs.
-/

namespace NetSession.Server

variable {σ : Type}

namespace System

/-- What a step of the task of a connection leaves of a system. -/
structure StreamStep (y y' : System σ) (id : ConnId) (c : Connection) (before after : Stream)
    (link : Link) (reports : List Event) : Prop where
  /-- The stream of the connection has changed. -/
  streams : y'.streams = y.streams.insert id after
  /-- What is reported waits in the mailbox. -/
  events : y'.events = y.events ++ reports
  /-- The link of the connection has changed. -/
  pool : y'.server.pool = y.server.pool.set id { c with link := link }
  /-- The table has not. -/
  table : y'.server.roster.table = y.server.roster.table
  /-- A task that has ended gives its reference back. -/
  tasks : y'.server.tasks =
    if after.phase = .ended then y.server.tasks.erase id else y.server.tasks
  /-- No connection was accepted. -/
  nextId : y'.server.nextId = y.server.nextId
  /-- The server was neither started nor stopped. -/
  running : y'.running = y.running
  /-- The step was written down: that the socket was closed, if it was, and what is reported. -/
  trace : ∃ l, y'.server.trace = y.server.trace ++ l ++ reports.map .reported ∧
    ∀ e ∈ l, e.isQuiet ∨ e = .shut id ∧ after.shut = true ∧ before.shut = false

/-- What is written down of a step. -/
theorem noteStep_eq (s : Server σ) (id : ConnId) (before after : Stream) :
    ∃ l, noteStep s id before after = { s with trace := s.trace ++ l } ∧
      ∀ e ∈ l, e.isQuiet ∨ e = .shut id ∧ after.shut = true ∧ before.shut = false := by
  have hwrote : ∃ l, (if after.written.length = before.written.length then s
      else s.note (.wrote id (after.written.drop before.written.length))) =
        { s with trace := s.trace ++ l } ∧ ∀ e ∈ l, e.isQuiet := by
    split
    · exact ⟨[], by rw [List.append_nil], fun e he => absurd he List.not_mem_nil⟩
    · exact ⟨[_], rfl, fun e he => by rw [List.mem_singleton.mp he]; rfl⟩
  obtain ⟨l, hl, hquiet⟩ := hwrote
  -- What was written comes first, and then that the socket was closed.
  simp only [noteStep, hl]
  split
  · next hshut =>
    rw [Bool.and_eq_true, Bool.not_eq_true'] at hshut
    refine ⟨l ++ [.shut id], by rw [note, List.append_assoc], fun e he => ?_⟩
    rcases List.mem_append.mp he with he | he
    · exact .inl (hquiet e he)
    · exact .inr ⟨List.mem_singleton.mp he, hshut⟩
  · exact ⟨l, rfl, fun e he => .inl (hquiet e he)⟩

/-- A step of the task of a connection is a step of its stream. -/
theorem stepStream_cases {y y' : System σ} {id : ConnId} {move : Stream.Move}
    (h : y.stepStream id move = some y') :
    ∃ before c after link report, y.streams[id]? = some before ∧
      y.server.pool.get? id = some c ∧
      before.step c.link y.running move = some (after, link, report) ∧
      StreamStep y y' id c before after link (report.map (eventOf id)).toList := by
  simp only [stepStream, Option.bind_eq_bind, Option.bind_eq_some_iff] at h
  obtain ⟨before, hbefore, c, hc, ⟨after, link, report⟩, hstep, h⟩ := h
  refine ⟨before, c, after, link, report, hbefore, hc, hstep, ?_⟩
  obtain ⟨l, hl, hquiet⟩ := noteStep_eq y.server id before after
  simp only [hl] at h
  cases report with
  | none =>
    obtain rfl := Option.some.inj h
    constructor
    · rfl
    · exact (List.append_nil _).symm
    · dsimp only; split <;> rfl
    · dsimp only; split <;> rfl
    · dsimp only; split <;> rfl
    · dsimp only; split <;> rfl
    · rfl
    · refine ⟨l, ?_, hquiet⟩
      dsimp only
      split <;> exact (List.append_nil _).symm
  | some report =>
    obtain rfl := Option.some.inj h
    constructor
    · rfl
    · rfl
    · dsimp only; split <;> rfl
    · dsimp only; split <;> rfl
    · dsimp only; split <;> rfl
    · dsimp only; split <;> rfl
    · rfl
    · refine ⟨l, ?_, hquiet⟩
      dsimp only
      split <;> rfl

/-- What is reported is about the connection whose task reports it. -/
theorem connection_of_mem_reports {id : ConnId} {report : Option Stream.Report} {event : Event}
    (h : event ∈ (report.map (eventOf id)).toList) : event.connection = id := by
  rcases report with _ | _ | _ | _ <;> simp [eventOf] at h <;> rw [h] <;> rfl

namespace StreamStep

variable {y y' : System σ} {id : ConnId} {c : Connection} {before after : Stream} {link : Link}
  {report : Option Stream.Report}

/-- What one sees of the connection after the step. -/
theorem view_self {reports : List Event} (h : StreamStep y y' id c before after link reports) :
    y'.view id =
      { y.view id with
        mark := some (c.closing, link.stop)
        phase := some after.phase
        tasks := if after.phase = .ended then (y.view id).tasks - 1 else (y.view id).tasks
        mail := (y.view id).mail + reports.count (.closed id) } := by
  apply View.ext
  · change y'.server.pool.mark id = _
    rw [h.pool, Pool.mark_set, if_pos rfl]
  · exact congrArg (·.get? id) h.table
  · change y'.streams[id]?.map _ = _
    rw [h.streams, Ascending.getElem?_insert, if_pos rfl]
    rfl
  · change y'.server.tasks.count id = _
    rw [h.tasks]
    split
    · exact List.count_erase_self
    · rfl
  · change y'.events.count _ = _
    rw [h.events, List.count_append]
    rfl

/-- What one sees of others has not changed. -/
theorem view_other {reports : List Event} (h : StreamStep y y' id c before after link reports)
    (hreports : ∀ event ∈ reports, event.connection = id) {id' : ConnId} (hne : id' ≠ id) :
    y'.view id' = y.view id' := by
  apply View.ext
  · change y'.server.pool.mark id' = _
    rw [h.pool, Pool.mark_set, if_neg hne]
    rfl
  · exact congrArg (·.get? id') h.table
  · change y'.streams[id']?.map _ = _
    rw [h.streams, Ascending.getElem?_insert, if_neg hne]
    rfl
  · change y'.server.tasks.count id' = _
    rw [h.tasks]
    split
    · exact List.count_erase_of_ne hne
    · rfl
  · change y'.events.count _ = _
    have hnone : Event.closed id' ∉ reports := fun hmem => hne (hreports _ hmem)
    rw [h.events, List.count_append, List.count_eq_zero.mpr hnone]
    rfl

end StreamStep

end System

namespace Machine

variable {m : Machine σ}

/-- A step of a task that is heard keeps a machine orderly. -/
theorem Orderly.stream (h : m.Orderly) (hrunning : m.system.running = true) {id : ConnId}
    {move : Stream.Move} {y : System σ} (hstep : m.system.stepStream id move = some y) :
    { m with system := y : Machine σ }.Orderly := by
  obtain ⟨before, c, after, link, report, hbefore, hc, hstream, hleft⟩ :=
    System.stepStream_cases hstep
  rw [hrunning] at hstream
  have honward := Stream.onward_of_step hstream
  obtain ⟨l, htrace, hl⟩ := hleft.trace
  have hconnection (event : Event) (hmem : event ∈ (report.map (System.eventOf id)).toList) :
      event.connection = id :=
    System.connection_of_mem_reports hmem
  have hphase : (m.view id).phase = some before.phase := by
    change m.system.streams[id]?.map _ = _
    rw [hbefore]
    rfl
  have hmark : (m.view id).mark = some (c.closing, c.link.stop) := by
    change (m.server.pool.get? id).map _ = _
    rw [hc]
    rfl
  -- Of what is written down, only a report that the socket is closed is about the close.
  have habout (e : Happening) (he : e ∈ l) : e.about = none := by
    rcases hl e he with hquiet | ⟨rfl, -⟩
    · exact Happening.about_of_isQuiet hquiet
    · rfl
  have hlive (id' : ConnId) : (y.view id').live = (m.view id').live :=
    congrArg (·.get? id') hleft.table
  have hid := h.view id
  apply h.change (some id)
    (l := l ++ (report.map (System.eventOf id)).toList.map Happening.reported)
  · change y.server.roster.table.Sound
    rw [hleft.table]
    exact h.sound
  · exact Nat.le_of_eq hleft.nextId.symm
  · rw [← List.append_assoc]
    exact htrace
  · intro e he
    rcases List.mem_append.mp he with he | he
    · exact .inl (habout e he)
    · obtain ⟨event, hmem, rfl⟩ := List.mem_map.mp he
      rw [← hconnection event hmem]
      exact event.about_reported
  · exact fun id' hne => hleft.view_other hconnection fun heq => hne (by rw [heq])
  · exact .inl rfl
  · rintro _ ⟨⟩
    change ((y.view id).mark ≠ none → id < y.server.nextId) ∧
      (y.view id).InOrder id _ y.server.trace
    rw [hleft.view_self, hleft.nextId, htrace]
    refine ⟨fun _ => h.below id ?_, ?_⟩
    · exact fun hnone => nomatch hnone.symm.trans hmark
    · have hframe := hid.frame (l := l) (fun e he => by rw [habout e he]; exact nofun) (.inl rfl)
      exact hframe.onward honward hphase hmark rfl
  · change InDueOrder y.server.trace
    rw [htrace]
    -- When the socket is closed, the task was told to stop, and so the callback has returned.
    have hstarted : InDueOrder (m.trace ++ l) := by
      apply h.due.append
      intro e he more
      rcases hl e he with hquiet | ⟨rfl, hafter, hbefore⟩
      · exact Happening.due_of_isQuiet hquiet _
      · apply List.mem_append_left
        apply hid.past _ hphase
        rw [honward.phase_of_shut hafter hbefore]
        rfl
    cases report with
    | none => rwa [Option.map_none, Option.toList_none, List.map_nil, List.append_nil]
    | some report =>
      -- Who reports something has not reported the end.
      apply hstarted.concat
      change Happening.reported (.closed (System.eventOf id report).connection) ∉ m.trace ++ l
      rw [hconnection _ (List.mem_singleton_self _), List.mem_append, not_or]
      refine ⟨hid.not_reported hphase honward.isLast_of_report, fun hmem => ?_⟩
      exact nomatch habout _ hmem
  · intro id' hholds
    rw [hlive]
    exact h.holds hholds
  · exact fun _ _ => h.alone

end Machine

end NetSession.Server
