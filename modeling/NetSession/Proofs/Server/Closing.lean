import NetSession.Proofs.Server.Runs
import NetSession.Proofs.Server.Whole

/-!
# How connections close

In every run, whatever the order of steps, and whoever begins to close a connection, the connection
closes in one order (`closes_in_order`): its closing callback runs; then its socket is closed; its
task reports that, and nothing after it; the closed callback runs; the connection leaves the table,
and nobody who is not the handler has a reference to it any more.
-/

namespace NetSession.Server

variable {σ : Type}

/-- The close of one connection, in what was written down of a run of which this is the end. -/
structure Machine.ClosesInOrder (m : Machine σ) (id : ConnId) : Prop where
  /-- The closing callback is called at most once. -/
  closing_once : m.trace.count (.called (.closing id)) ≤ 1
  /-- The closed callback is called at most once. -/
  closed_once : m.trace.count (.called (.closed id)) ≤ 1
  /-- When the closed callback is called, the closing callback was called once, and has returned. -/
  closing_first : ∀ past future, m.trace = past ++ .called (.closed id) :: future →
    past.count (.called (.closing id)) = 1 ∧ .returned (.closing id) ∈ past
  /-- The task reports at most once that the socket is closed. -/
  report_once : m.trace.count (.reported (.closed id)) ≤ 1
  /-- It reports nothing after that. -/
  report_last : ∀ past event future, m.trace = past ++ .reported event :: future →
    event.connection = id → .reported (.closed id) ∉ past
  /-- When the socket is closed, the closing callback has returned. -/
  shut_after : ∀ past future, m.trace = past ++ .shut id :: future →
    .returned (.closing id) ∈ past
  /-- The connection is in the table from its accept until the closed callback has returned. -/
  listed : .called (.accepted id) ∈ m.trace → .returned (.closed id) ∉ m.trace →
    id ∈ m.server.roster.table.ids
  /-- When the task has ended, and its last report was taken in and the callback about it is over,
  no reference is held by the table, by a task, or by the server for what it is at. -/
  let_go : ∀ stream, m.system.streams[id]? = some stream → stream.phase = .ended →
    .closed id ∉ m.system.events → (∀ b, m.stage.tag ≠ some (.closed id, b)) →
      m.server.roster.table.refCount id = 0 ∧ m.server.tasks.count id = 0 ∧ ¬ m.Holds id

/-- What is in order closes in order. -/
theorem Machine.Orderly.closesInOrder {m : Machine σ} (h : m.Orderly) (id : ConnId) :
    m.ClosesInOrder id := by
  have hid := h.view id
  have hreports := hid.reports
  have hmail := hid.mail
  constructor
  · have := hid.closing
    split at this <;> omega
  · split at hreports <;> omega
  · intro past future heq
    obtain ⟨-, hreturned, hcount⟩ := h.due past _ future heq
    exact ⟨hcount, hreturned⟩
  · split at hreports <;> omega
  · rintro past event future heq rfl
    exact h.due past _ future heq
  · exact fun past future heq => h.due past _ future heq
  · intro haccepted hreturned
    have hmark : (m.view id).mark ≠ none := fun hnone => (hid.blank hnone).2.2.2 haccepted
    obtain ⟨ref, hget⟩ :=
      Option.ne_none_iff_exists'.mp ((hid.live hmark).resolve_right hreturned)
    exact List.mem_map.mpr ⟨(id, ref), h.sound.mem_toList.mpr hget, rfl⟩
  · intro stream hstream hended hevents htag
    have hphase : (m.view id).phase = some .ended := by
      change m.system.streams[id]?.map _ = _
      rw [hstream, ← hended]
      rfl
    -- The report was written down and does not wait any more, so its callback was called.
    have hnomail : (m.view id).mail = 0 := List.count_eq_zero.mpr hevents
    have hcalled : .called (.closed id) ∈ m.trace := by
      rw [← List.count_pos_iff]
      rw [hphase] at hreports
      simp only [Option.any_some, Stream.Phase.isLast, if_true] at hreports
      omega
    have hreturned := (hid.during hcalled).resolve_left (htag false)
    have hlive := (hid.gone hreturned).resolve_right (htag true)
    refine ⟨?_, hid.ended hphase, fun hholds => h.holds hholds hlive⟩
    rw [h.sound.refCount_eq, List.count_eq_zero]
    exact fun hrefs => h.live_of_mem_refs hrefs hlive

/-- Every connection of a server that runs closes in order, in every run in small steps and in every
run in whole steps. -/
theorem closes_in_order (config : ServerConfig) (handler : Handler σ) (memory : σ) (now : Instant) :
    (∀ turns m, (Machine.start config handler memory now).run turns = some m →
      m.system.running = true → ∀ id, m.ClosesInOrder id) ∧
    (∀ moves y, (System.start config handler memory now).run moves = some y →
      y.running = true → ∀ id, Machine.ClosesInOrder ⟨y, .free, []⟩ id) := by
  have hmachine (turns : List Turn) (m : Machine σ)
      (hrun : (Machine.start config handler memory now).run turns = some m)
      (hrunning : m.system.running = true) (id : ConnId) : m.ClosesInOrder id :=
    ((Machine.orderly_start config handler memory now).run hrun hrunning).closesInOrder id
  -- A run of the system is one of the machine, which is at nothing in the end.
  refine ⟨hmachine, fun moves y hrun hrunning => ?_⟩
  obtain ⟨turns, hturns⟩ := Machine.reaches_of_run hrun
  exact hmachine turns _ hturns hrunning

/-- Steps in which a peer leaves while the server begins to close all connections. -/
def leaveTurns : List Turn :=
  [.move (.arrive (.peer .unspecifiedV4)), .move .accept, .proceed, .proceed, .move (.finish 1),
    .move (.stream 1 .go), .move (.stream 1 .go), .move (.stream 1 .go),
    .move (.command .disconnectAll), .move .serve, .proceed, .proceed, .proceed,
    .move (.stream 1 .go), .proceed, .move .handle, .move (.stream 1 .go), .proceed,
    .move (.stream 1 .go), .move .handle, .proceed, .move (.stream 1 .go), .proceed]

/-- The same in whole steps. -/
def leaveMoves : List Move :=
  [.arrive (.peer .unspecifiedV4), .accept, .finish 1, .stream 1 .go, .stream 1 .go, .stream 1 .go,
    .command .disconnectAll, .serve, .stream 1 .go, .handle, .stream 1 .go, .stream 1 .go,
    .handle, .stream 1 .go]

/-- A connection that two sides close is closed once, and nobody has a reference to it in the
end. -/
theorem closes_in_order_leave :
    (∃ m, (Machine.start {} Handler.silent () .zero).run leaveTurns = some m ∧
      m.trace.count (.called (.closing 1)) ≤ 1 ∧ m.server.roster.table.refCount 1 = 0 ∧
      m.server.tasks.count 1 = 0) ∧
    ∃ y, (System.start {} Handler.silent () .zero).run leaveMoves = some y ∧
      y.server.trace.count (.called (.closing 1)) ≤ 1 ∧
      y.server.roster.table.refCount 1 = 0 ∧ y.server.tasks.count 1 = 0 := by
  obtain ⟨hmachine, hsystem⟩ := closes_in_order {} Handler.silent () .zero
  constructor
  · obtain ⟨m, hrun, hrunning, ⟨stream, hstream, hended⟩, hevents, hfree⟩ :
        ∃ m, (Machine.start {} Handler.silent () .zero).run leaveTurns = some m ∧
          m.system.running = true ∧
          (∃ stream, m.system.streams[1]? = some stream ∧ stream.phase = .ended) ∧
          .closed 1 ∉ m.system.events ∧ m.stage.tag = none :=
      ⟨_, rfl, rfl, ⟨_, rfl, rfl⟩, by decide, rfl⟩
    have horder := hmachine _ m hrun hrunning 1
    obtain ⟨htable, htasks, -⟩ :=
      horder.let_go stream hstream hended hevents fun b heq => nomatch hfree.symm.trans heq
    exact ⟨m, hrun, horder.closing_once, htable, htasks⟩
  · obtain ⟨y, hrun, hrunning, ⟨stream, hstream, hended⟩, hevents⟩ :
        ∃ y, (System.start {} Handler.silent () .zero).run leaveMoves = some y ∧
          y.running = true ∧
          (∃ stream, y.streams[1]? = some stream ∧ stream.phase = .ended) ∧
          .closed 1 ∉ y.events :=
      ⟨_, rfl, rfl, ⟨_, rfl, rfl⟩, by decide⟩
    have horder := hsystem _ y hrun hrunning 1
    obtain ⟨htable, htasks, -⟩ := horder.let_go stream hstream hended hevents fun _ => nofun
    exact ⟨y, hrun, horder.closing_once, htable, htasks⟩

end NetSession.Server
