import NetSession.Proofs.Server.Discipline

/-!
# What a handler can rely on

The main result is `callbacks_keep_discipline`. A server is told anything about any connections, in
any order, and does whatever it can be asked for. Connections are numbered 1, 2, 3 and so on and
each is announced once. About each of them, callbacks come in the order of `WellCalled`. When all
connections are closed, the count is that of those that began to close, and all that are live are
closing.
-/

namespace NetSession.Server

variable {σ : Type}

/-- What is called about a connection, and sent on it, keeps to its order in a trace. -/
structure WellCalled (trace : List Happening) (id : ConnId) : Prop where
  /-- The announcement comes before anything else is called. -/
  announced : ∀ past callback future, trace = past ++ .called callback :: future →
    callback.connection? = some id → callback = .accepted id ∨ .called (.accepted id) ∈ past
  /-- The closing callback is called at most once. -/
  closing : trace.count (.called (.closing id)) ≤ 1
  /-- The closed callback is called at most once. -/
  closed : trace.count (.called (.closed id)) ≤ 1
  /-- Nothing is handed over once the closing or the closed callback was called. -/
  received : ∀ past data future, trace = past ++ .called (.received id data) :: future →
    .called (.closing id) ∉ past ∧ .called (.closed id) ∉ past
  /-- Nothing is called once the closed callback was called. -/
  last : ∀ past callback future, trace = past ++ .called callback :: future →
    callback.connection? = some id → .called (.closed id) ∉ past
  /-- No send works once the closing callback was called, from its start on. -/
  sent : ∀ past data ok future, trace = past ++ .sent id data ok :: future →
    .called (.closing id) ∈ past → ok = false

/-- What is allowed step by step keeps to its order. -/
theorem wellCalled_of_allowed {trace : List Happening} (h : EachAfter Happening.Allowed trace)
    (id : ConnId) : WellCalled trace id where
  announced past callback future heq hid := by
    have hallowed := h past _ future heq
    cases callback with
    | accepted =>
      obtain rfl := Option.some.inj hid
      exact .inl rfl
    | received | closing | closed =>
      obtain rfl := Option.some.inj hid
      exact .inr hallowed.1
    | acceptFailed | heartbeat => exact nomatch hid
  closing := h.count_le_one fun _ hallowed => hallowed.2.1
  closed := h.count_le_one fun _ hallowed => hallowed.2
  received past _ future heq := (h past _ future heq).2
  last past callback future heq hid := by
    have hallowed := h past _ future heq
    cases callback with
    | accepted =>
      obtain rfl := Option.some.inj hid
      exact hallowed (.closed _) rfl
    | received | closing =>
      obtain rfl := Option.some.inj hid
      exact hallowed.2.2
    | closed =>
      obtain rfl := Option.some.inj hid
      exact hallowed.2
    | acceptFailed | heartbeat => exact nomatch hid
  sent past _ _ future heq := h past _ future heq

variable {s : Server σ}

/-- The announcement of a connection is there once, if its number was given. -/
theorem Disciplined.count_accepted_eq (h : s.Disciplined) (id : ConnId) :
    s.trace.count (.called (.accepted id)) = if 0 < id ∧ id < s.nextId then 1 else 0 := by
  split
  · next hgiven =>
    have hmem := mem_acceptances.mpr ((h.accepted_iff id).mpr hgiven)
    have hnodup : (acceptances s.trace).Nodup := by
      rw [h.numbered]
      exact List.nodup_range'
    rw [count_accepted]
    exact List.count_eq_one_of_mem hnodup hmem
  · next hgiven =>
    rw [List.count_eq_zero, h.accepted_iff id]
    exact hgiven

/-- To close all connections moves those that were open, and leaves no live one open. -/
theorem Disciplined.disconnectAll_moves (h : s.Disciplined) :
    ∃ moved : List ConnId,
      s.disconnectAll.1 = moved.length ∧ moved.Nodup ∧
      (∀ id, id ∈ moved ↔
        s.pool.isClosing id = false ∧ s.disconnectAll.2.pool.isClosing id = true) ∧
      (∀ id, s.disconnectAll.2.roster.table.get? id ≠ none →
        s.disconnectAll.2.pool.isClosing id = true) := by
  have hnodup : s.roster.table.refs.Nodup := by
    rw [h.keyed.refs_eq]
    exact h.keyed.sound.nodup_ids
  obtain ⟨hcloses, hcount⟩ := closes_disconnectEach (s := s) hnodup
  have hclosing := hcloses.isClosing
  -- Live connections are there, so each of them is either open or closing.
  have hlive {id : ConnId} (hid : id ∈ s.roster.table.refs) : s.pool.outline id ≠ none := by
    rw [h.keyed.refs_eq] at hid
    exact h.outline_of_mem_ids hid
  refine ⟨s.roster.table.refs.filter s.pool.isOpen, hcount, hnodup.filter _, fun id => ?_,
    fun id hid => ?_⟩
  · change _ ↔ _ ∧ (s.disconnectEach s.roster.table.refs).2.pool.isClosing id = true
    rw [hclosing, Pool.isClosing_eq]
    cases houtline : s.pool.outline id with
    | none =>
      have hnot : id ∉ s.roster.table.refs := fun hid => hlive hid houtline
      simp [hnot]
    | some c =>
      have hopen : s.pool.isOpen id = !c.closing := by rw [Pool.isOpen_eq, houtline]; rfl
      cases hc : c.closing <;> simp [hopen, hc]
  · change (s.disconnectEach s.roster.table.refs).2.pool.isClosing id = true
    change (s.disconnectEach s.roster.table.refs).2.roster.table.get? id ≠ none at hid
    rw [hcloses.table, ← h.keyed.mem_ids, ← h.keyed.refs_eq] at hid
    rw [hclosing]
    obtain ⟨c, hc⟩ := Option.ne_none_iff_exists'.mp (hlive hid)
    have hopen : s.pool.isOpen id = !c.closing := by rw [Pool.isOpen_eq, hc]; rfl
    cases hmark : c.closing <;> simp [hc, hmark, hopen, hid]

/-- Whatever a server that was just started does, and is told about connections that it may know or
not, it calls its handler in order. Connections are announced by the numbers 1, 2, 3 and so on, as
many as were accepted, and each once. What is called about each of them, and sent on it, keeps to
its order, and once the closing callback was called nothing can be sent. To close all connections
gives the number of those that began to close at it, and then all live ones are closing. -/
theorem callbacks_keep_discipline (config : ServerConfig) (handler : Handler σ) (memory : σ)
    (now : Instant) (operations : List Operation) :
    let s := (start config handler memory now).operateAll operations
    let accepted := operations.countP Operation.isAccept
    acceptances s.trace = List.range' 1 accepted ∧
    (∀ id, s.trace.count (.called (.accepted id)) = if 1 ≤ id ∧ id ≤ accepted then 1 else 0) ∧
    (∀ id, WellCalled s.trace id) ∧
    (∀ id, .called (.closing id) ∈ s.trace →
      ∀ data, s.pool.send id data = (.error .connection, s.pool)) ∧
    ∃ moved : List ConnId,
      s.disconnectAll.1 = moved.length ∧ moved.Nodup ∧
      (∀ id, id ∈ moved ↔
        s.pool.isClosing id = false ∧ s.disconnectAll.2.pool.isClosing id = true) ∧
      (∀ id, s.disconnectAll.2.roster.table.get? id ≠ none →
        s.disconnectAll.2.pool.isClosing id = true) := by
  intro s accepted
  have hstart := Disciplined.start config handler memory now
  have hs : s.Disciplined := hstart.operateAll operations
  have hnext : s.nextId = 1 + accepted := hstart.nextId_operateAll operations
  refine ⟨?_, fun id => ?_, wellCalled_of_allowed hs.allowed, fun id hmem data => ?_,
    hs.disconnectAll_moves⟩
  · rw [hs.numbered, hnext, Nat.add_sub_cancel_left]
  · rw [hs.count_accepted_eq, hnext, Nat.add_comm 1]
    simp only [Nat.lt_succ_iff, Nat.succ_le_iff]
  · exact Pool.send_of_isClosing ((hs.closing id).mpr hmem) data

end NetSession.Server
