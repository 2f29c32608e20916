import NetSession.Proofs.Server.Eviction

/-!
# What a server does to one connection

The fate of a connection is what a server knows of it and has called for it: when something was last
heard of it, whether it has begun to close, whether it is live, and its callbacks. A `Cue` is
something that concerns a connection, and `Fate.step` says what it does to a fate. Of an operation,
a fate takes no more than its cue, if there is one (`fate_operate`): the rest of the server, with
its table that is shared by all connections, plays no part in it.
-/

namespace NetSession.Server

variable {σ : Type}

/-! ## Fates and cues -/

/-- What a server knows of one connection, and has called for it. -/
structure Fate where
  /-- When something was last heard of it; nothing before it is accepted. -/
  activity : Option Instant
  /-- Whether it has begun to close. -/
  closing : Bool
  /-- Whether it is in the table. -/
  live : Bool
  /-- The callbacks that were called for it, in order. -/
  calls : List Callback
  deriving DecidableEq

/-- Something that concerns a connection, with the moment if that counts. -/
inductive Cue where
  /-- It is accepted. -/
  | accepted (now : Instant)
  /-- Something was read from it. -/
  | read (now : Instant) (data : Bytes)
  /-- It is to close: nothing more can be read, someone asks for it, or all are to close. -/
  | close
  /-- Its socket is closed. -/
  | closed
  /-- The heartbeat ticks. -/
  | heartbeat (now : Instant)
  deriving DecidableEq

namespace Fate

/-- A callback is called for it. -/
def call (f : Fate) (callback : Callback) : Fate := { f with calls := f.calls ++ [callback] }

/-- Something is heard of it. -/
def hear (now : Instant) (f : Fate) : Fate := { f with activity := some now }

/-- It is put into the table, open. -/
def enter (f : Fate) : Fate := { f with closing := false, live := true }

/-- It is marked as closing. -/
def mark (f : Fate) : Fate := { f with closing := true }

/-- It leaves the table. -/
def leave (f : Fate) : Fate := { f with live := false }

/-- It begins to close, if it is live and had not begun before. -/
def close (id : ConnId) (f : Fate) : Fate :=
  if f.live && !f.closing then f.mark.call (.closing id) else f

/-- Whether nothing was heard of it for longer than a limit, if there is one. -/
def isSilent (timeout : Duration) (now : Instant) (f : Fate) : Bool :=
  !timeout.isZero && f.activity.any fun t => timeout.nanos < (now.since t).nanos

/-- What a cue does. -/
def step (timeout : Duration) (id : ConnId) (f : Fate) : Cue → Fate
  | .accepted now => (f.enter.hear now).call (.accepted id)
  | .read now data =>
    if f.live && !f.closing then (f.hear now).call (.received id data) else f
  | .close => f.close id
  | .closed => if f.live then f.leave.call (.closed id) else f
  | .heartbeat now => if f.isSilent timeout now then f.close id else f

variable {id : ConnId} {f : Fate}

/-- A live connection that has not begun to close does so. -/
theorem close_of_open (hlive : f.live = true) (hclosing : f.closing = false) :
    f.close id = f.mark.call (.closing id) := by
  rw [close, if_pos]
  rw [hlive, hclosing]
  rfl

/-- A connection that has begun to close does not begin again. -/
theorem close_of_closing (hclosing : f.closing = true) : f.close id = f := by
  rw [close, if_neg]
  rw [hclosing, Bool.not_true, Bool.and_false]
  exact Bool.false_ne_true

/-- A connection that is not live does not begin to close. -/
theorem close_of_not_live (hlive : f.live = false) : f.close id = f := by
  rw [close, if_neg]
  rw [hlive, Bool.false_and]
  exact Bool.false_ne_true

end Fate

/-- What a report of a connection's task means to the connection. -/
def Event.cue (now : Instant) : Event → Cue
  | .read _ data => .read now data
  | .ended _ _ => .close
  | .closed _ => .closed

/-- What an operation means to a connection, if the server would accept `next` as the next one. -/
def Operation.cue? (id next : ConnId) (now : Instant) : Operation → Option Cue
  | .accept _ => if next = id then some (.accepted now) else none
  | .handle event => if event.connection = id then some (event.cue now) else none
  | .close id' => if id' = id then some .close else none
  | .disconnectAll => some .close
  | .heartbeat => some (.heartbeat now)
  | .acceptFailed _ | .iterate _ | .act _ | .relink _ _ | .pass _ => none

/-- The fate of a connection. -/
def fate (s : Server σ) (id : ConnId) : Fate where
  activity := s.pool.activity id
  closing := s.pool.isClosing id
  live := (s.roster.table.get? id).isSome
  calls := (calls s.trace).filter (·.connection? = some id)

/-! ## What changes a fate -/

variable {s s' : Server σ} {past : List (Instant × Happening)}

/-- What is steady changes no fate. -/
theorem fate_steady (h : Steady s s') (id : ConnId) : s'.fate id = s.fate id := by
  obtain ⟨l, htrace, hminor⟩ := h.trace
  have hactivity : s'.pool.activity id = s.pool.activity id := by
    rw [Pool.activity_eq, h.outline, Pool.activity_eq]
  rw [fate, fate, hactivity, h.isClosing, h.table, htrace, calls_append, calls_minor hminor,
    List.append_nil]

/-- A callback is called for the connection that it is handed. -/
theorem fate_note_called (s : Server σ) (callback : Callback) (id : ConnId) :
    (s.note (.called callback)).fate id =
      if callback.connection? = some id then (s.fate id).call callback else s.fate id := by
  have hcalls : calls (s.note (.called callback)).trace = calls s.trace ++ [callback] :=
    calls_append _ _
  rw [fate, hcalls, List.filter_append, List.filter_singleton]
  by_cases h : callback.connection? = some id
  · simp only [h, decide_true, if_true]
    rfl
  · simp only [h, decide_false, if_false, cond_false, List.append_nil]
    rfl

/-- A callback for a connection is called, whatever the handler does about it. -/
theorem fate_call {callback : Callback} {id : ConnId} (h : callback.connection? = some id) :
    (s.call callback).fate id = (s.fate id).call callback := by
  rw [fate_steady (s.steady_call callback), fate_note_called, if_pos h]

/-- A callback for nobody or somebody else changes nothing, whatever the handler does about it. -/
theorem fate_call_other {callback : Callback} {id : ConnId} (h : callback.connection? ≠ some id) :
    (s.call callback).fate id = s.fate id := by
  rw [fate_steady (s.steady_call callback), fate_note_called, if_neg h]

/-- Of some connections without repetitions, the closing callback of each is called for itself. -/
theorem filter_map_closing {moved : List ConnId} (hnodup : moved.Nodup) (id : ConnId) :
    (moved.map Callback.closing).filter (·.connection? = some id) =
      if id ∈ moved then [.closing id] else [] := by
  have hown : (fun callback : Callback => decide (callback.connection? = some id)) ∘
      Callback.closing = (· == id) := by
    funext id'
    simp only [Function.comp_apply, Callback.connection?, Option.some.injEq]
    rfl
  rw [List.filter_map, hown, List.filter_beq]
  split
  · next hmem => rw [List.count_eq_one_of_mem hnodup hmem]; rfl
  · next hmem => rw [List.count_eq_zero_of_not_mem hmem]; rfl

/-- Those of some live connections that had not begun to close do so; only their fates change. -/
theorem fate_closes {moved : List ConnId} (h : Closes s s' moved) (hnodup : moved.Nodup)
    (hlive : ∀ id ∈ moved, (s.fate id).live = true ∧ s.pool.isOpen id = true) (id : ConnId) :
    s'.fate id = if id ∈ moved then (s.fate id).close id else s.fate id := by
  obtain ⟨l, htrace, hcalls⟩ := h.trace
  have hactivity : s'.pool.activity id = s.pool.activity id := by
    rw [Pool.activity_eq, h.outline, Option.map_map, Pool.activity_eq]
    rfl
  have hclosing := h.isClosing id
  rw [fate, hactivity, hclosing, h.table, htrace, calls_append, List.filter_append, hcalls,
    filter_map_closing hnodup]
  split
  · next hmem =>
    obtain ⟨hliveId, hopen⟩ := hlive id hmem
    have hnot : (s.fate id).closing = false := Pool.isClosing_of_isOpen hopen
    have hmarked : (s.pool.outline id).any (fun c => c.closing || moved.contains id) = true := by
      rw [Pool.isOpen_eq, Option.any_eq_true] at hopen
      obtain ⟨c, hc, -⟩ := hopen
      rw [hc]
      simp [hmem]
    rw [Fate.close_of_open hliveId hnot, hmarked]
    rfl
  · next hmem =>
    have hsame : (s.pool.outline id).any (fun c => c.closing || moved.contains id) =
        s.pool.isClosing id := by
      rw [Pool.isClosing_eq]
      simp [hmem]
    rw [hsame, List.append_nil]
    rfl

/-! ## What each operation does to a fate -/

/-- A new connection is accepted, and nobody else is concerned. -/
theorem fate_accept (s : Server σ) (peer : Endpoint) (id : ConnId) :
    (s.accept peer).fate id =
      if s.nextId = id then ((s.fate id).enter.hear s.now).call (.accepted id)
      else s.fate id := by
  have hcalls : calls (s.enter peer).trace = calls s.trace :=
    (calls_append _ _).trans (List.append_nil _)
  rw [accept]
  by_cases hid : s.nextId = id
  · subst hid
    rw [if_pos rfl, fate_call rfl, fate, hcalls, table_enter, Table.get?_insert, if_pos rfl,
      Pool.activity, Pool.isClosing, get?_enter, if_pos rfl]
    rfl
  · have hne : ¬ id = s.nextId := fun heq => hid heq.symm
    have hother : (Callback.accepted s.nextId).connection? ≠ some id :=
      fun heq => hid (Option.some.inj heq)
    rw [if_neg hid, fate_call_other hother, fate, hcalls, table_enter, Table.get?_insert,
      if_neg hne, Pool.activity, Pool.isClosing, get?_enter, if_neg hne]
    rfl

/-- A connection leaves the table. -/
theorem fate_release (s : Server σ) (id' id : ConnId) :
    (s.release id').fate id = if id' = id then (s.fate id).leave else s.fate id := by
  have hcalls : calls (s.release id').trace = calls s.trace :=
    (calls_append _ _).trans (List.append_nil _)
  have htable : (s.release id').roster.table.get? id =
      if id = id' then none else s.roster.table.get? id := Table.get?_remove _ id' id
  rw [fate, hcalls, htable]
  by_cases heq : id' = id
  · rw [if_pos heq.symm, if_pos heq]
    rfl
  · rw [if_neg fun h => heq h.symm, if_neg heq]
    rfl

/-- Who is not live is not found. -/
theorem get?_of_not_live {id : ConnId} (hlive : (s.fate id).live = false) :
    s.roster.get? id = none := by
  have hnone : s.roster.table.get? id = none :=
    Option.not_isSome_iff_eq_none.mp (Bool.eq_false_iff.mp hlive)
  rw [Roster.get?, hnone]
  rfl

namespace Disciplined

/-- A connection is live exactly if it is found. -/
theorem fate_live (h : s.Disciplined) (id : ConnId) :
    (s.fate id).live = true ↔ id ∈ s.roster.table.ids := by
  rw [h.keyed.mem_ids, fate, Option.isSome_iff_ne_none]

/-- A live connection is found with its state. -/
theorem get?_of_live (h : s.Disciplined) {id : ConnId} (hlive : (s.fate id).live = true) :
    ∃ c, s.roster.get? id = some (id, c) ∧ c.closing = (s.fate id).closing := by
  have hid := (h.fate_live id).mp hlive
  obtain ⟨c, hc⟩ := Option.ne_none_iff_exists'.mp
    (Pool.outline_ne_none.mp (h.outline_of_mem_ids hid))
  refine ⟨c, ?_, by rw [fate, Pool.isClosing, hc]; rfl⟩
  rw [Roster.get?, h.keyed.get?_eq (h.keyed.mem_ids.mp hid)]
  show (s.pool.get? id >>= fun c => pure (id, c)) = _
  rw [hc]
  rfl

/-- A live connection has begun to close, or has not. -/
theorem isOpen_eq (h : s.Disciplined) {id : ConnId} (hlive : (s.fate id).live = true) :
    s.pool.isOpen id = !(s.fate id).closing :=
  Pool.isOpen_eq_not (h.outline_of_mem_ids ((h.fate_live id).mp hlive))

/-- Those of some live connections that had not begun to close do so. -/
theorem fate_closeEach (h : s.Disciplined) {ids : List ConnId} (hnodup : ids.Nodup)
    (hlive : ∀ id ∈ ids, (s.fate id).live = true)
    (hcloses : Closes s s' (ids.filter s.pool.isOpen)) (id : ConnId) :
    s'.fate id = if id ∈ ids then (s.fate id).close id else s.fate id := by
  rw [fate_closes hcloses (hnodup.filter _) fun id hmem =>
    ⟨hlive id (List.mem_filter.mp hmem).1, (List.mem_filter.mp hmem).2⟩]
  simp only [List.mem_filter]
  by_cases hmem : id ∈ ids
  · cases hclosing : (s.fate id).closing with
    | false => simp only [hmem, h.isOpen_eq (hlive id hmem), hclosing, Bool.not_false, and_self]
    | true =>
      -- It had begun before, and does not begin again.
      simp only [hmem, h.isOpen_eq (hlive id hmem), hclosing, Fate.close_of_closing, ite_self]
  · simp only [hmem, false_and]

/-- A connection that is to close begins to, if it is live and had not begun before. -/
theorem fate_disconnectLive (h : s.Disciplined) (id' id : ConnId) :
    (s.disconnectLive id').fate id = if id' = id then (s.fate id).close id else s.fate id := by
  cases hlive : (s.fate id').live with
  | false =>
    have hsame : s.disconnectLive id' = s := if_neg (by rw [get?_of_not_live hlive]; exact nofun)
    rw [hsame]
    split
    · next heq => rw [← heq, Fate.close_of_not_live hlive]
    · rfl
  | true =>
    obtain ⟨c, hc, -⟩ := h.get?_of_live hlive
    have hfound : s.disconnectLive id' = (s.disconnect id').2 := if_pos (by rw [hc]; rfl)
    have hcloses : Closes s (s.disconnectLive id') ([id'].filter s.pool.isOpen) := by
      rw [hfound, filter_cons_eq, List.filter_nil, List.append_nil]
      exact closes_disconnect s id'
    have hall : ∀ id ∈ [id'], (s.fate id).live = true := fun id hmem => by
      rw [List.mem_singleton.mp hmem, hlive]
    rw [h.fate_closeEach (List.nodup_singleton id') hall hcloses]
    simp only [List.mem_singleton, eq_comm]

/-- All connections are to close. -/
theorem fate_disconnectAll (h : s.Disciplined) (id : ConnId) :
    s.disconnectAll.2.fate id = (s.fate id).close id := by
  have hnodup : s.roster.table.refs.Nodup := by
    rw [h.keyed.refs_eq]
    exact h.keyed.sound.nodup_ids
  have hlive (id : ConnId) : id ∈ s.roster.table.refs ↔ (s.fate id).live = true := by
    rw [h.keyed.refs_eq, h.fate_live]
  rw [disconnectAll, h.fate_closeEach hnodup (fun id => (hlive id).mp)
    (closes_disconnectEach hnodup).1]
  split
  · rfl
  · next hmem =>
    rw [hlive, Bool.not_eq_true] at hmem
    rw [Fate.close_of_not_live hmem]

/-- A live connection was read from. -/
theorem fate_touch (h : s.Disciplined) {id' : ConnId} (hlive : (s.fate id').live = true)
    (id : ConnId) :
    (s.touch id').fate id =
      if id' = id then (s.fate id).hear s.now else s.fate id := by
  have hid := h.keyed.mem_ids.mp ((h.fate_live id').mp hlive)
  have hthere : s.pool.get? id' ≠ none :=
    Pool.outline_ne_none.mp (h.outline_of_mem_ids ((h.fate_live id').mp hlive))
  have hclosing : (s.pool.modify id' (·.stamp s.now)).isClosing id = s.pool.isClosing id :=
    Pool.isClosing_modify s.pool id' id fun _ => rfl
  rw [touch_of_live h.keyed hid, fate]
  show Fate.mk ((s.pool.modify id' (·.stamp s.now)).activity id)
    ((s.pool.modify id' (·.stamp s.now)).isClosing id)
    ((s.roster.table.insert id' id').get? id).isSome _ = _
  rw [Pool.activity_stamp hthere, hclosing, Table.get?_insert]
  by_cases heq : id' = id
  · subst heq
    have hthere : (s.roster.table.get? id').isSome = true := hlive
    rw [if_pos rfl, if_pos rfl, if_pos rfl, fate, hthere]
    rfl
  · have hne : ¬ id = id' := fun h => heq h.symm
    rw [if_neg hne, if_neg hne, if_neg heq]
    rfl

/-- What was read is handed over by a live connection that has not begun to close, which was heard
of then. -/
theorem fate_read (h : s.Disciplined) (id' : ConnId) (data : Bytes) (id : ConnId) :
    (s.handle (.read id' data)).fate id =
      if id' = id then (s.fate id).step s.config.connTimeout id (.read s.now data)
      else s.fate id := by
  cases hopen : (s.fate id').live && !(s.fate id').closing with
  | false =>
    -- Whoever is not live is not found, and who is closing is not heard any more.
    have hsame : s.handle (.read id' data) = s := by
      cases hlive : (s.fate id').live with
      | false => rw [handle, get?_of_not_live hlive]
      | true =>
        obtain ⟨c, hc, hclosing⟩ := h.get?_of_live hlive
        rw [hlive, Bool.true_and, ← hclosing, Bool.not_eq_false'] at hopen
        rw [handle, hc]
        exact if_pos hopen
    rw [hsame]
    split
    · next heq => rw [← heq, Fate.step, hopen, if_neg Bool.false_ne_true]
    · rfl
  | true =>
    obtain ⟨hlive, hclosed⟩ := Bool.and_eq_true_iff.mp hopen
    obtain ⟨c, hc, hclosing⟩ := h.get?_of_live hlive
    have hread : s.handle (.read id' data) = (s.touch id').call (.received id' data) := by
      rw [handle, hc]
      rw [Bool.not_eq_true'] at hclosed
      exact if_neg (by rw [hclosing, hclosed]; exact Bool.false_ne_true)
    rw [hread]
    by_cases heq : id' = id
    · subst heq
      rw [fate_call rfl, h.fate_touch hlive, if_pos rfl, if_pos rfl, Fate.step, if_pos hopen]
    · have hother : (Callback.received id' data).connection? ≠ some id :=
        fun h => heq (Option.some.inj h)
      rw [fate_call_other hother, h.fate_touch hlive, if_neg heq, if_neg heq]

/-- A live connection leaves the table once its socket is closed. -/
theorem fate_closed (h : s.Disciplined) (id' id : ConnId) :
    (s.handle (.closed id')).fate id =
      if id' = id then (s.fate id).step s.config.connTimeout id .closed else s.fate id := by
  cases hlive : (s.fate id').live with
  | false =>
    have hsame : s.handle (.closed id') = s := by
      rw [handle, get?_of_not_live hlive]
    rw [hsame]
    split
    · next heq => rw [← heq, Fate.step, hlive, if_neg Bool.false_ne_true]
    · rfl
  | true =>
    obtain ⟨c, hc, -⟩ := h.get?_of_live hlive
    have hreleased : s.handle (.closed id') = (s.call (.closed id')).release id' := by
      rw [handle, hc]
    rw [hreleased, fate_release]
    by_cases heq : id' = id
    · subst heq
      rw [fate_call rfl, if_pos rfl, if_pos rfl, Fate.step, if_pos hlive]
      rfl
    · have hother : (Callback.closed id').connection? ≠ some id :=
        fun h => heq (Option.some.inj h)
      rw [fate_call_other hother, if_neg heq, if_neg heq]

/-- What is told about a connection concerns that one only. -/
theorem fate_handle (h : s.Disciplined) (event : Event) (id : ConnId) :
    (s.handle event).fate id =
      if event.connection = id then (s.fate id).step s.config.connTimeout id (event.cue s.now)
      else s.fate id := by
  cases event with
  | read id' data => exact h.fate_read id' data id
  | closed id' => exact h.fate_closed id' id
  | ended id' failure =>
    have hsay := steady_sayEnded s id' failure
    have hclose := (h.steady hsay).fate_disconnectLive id' id
    rw [fate_steady hsay] at hclose
    exact hclose

end Disciplined

/-- The heartbeat is told to the handler, which changes no fate. -/
theorem fate_told (s : Server σ) (id : ConnId) : s.told.fate id = s.fate id := by
  have hbeat : calls s.beat.trace = calls s.trace :=
    (calls_append _ _).trans (List.append_nil _)
  have hnobody : (Callback.heartbeat s.heartbeats s.roster.table.ids).connection? ≠ some id :=
    (Option.some_ne_none id).symm
  rw [told, fate_call_other hnobody, fate, hbeat]
  rfl

/-- Whether a heartbeat evicts a connection is a matter of its own fate. -/
theorem Timely.mem_evicted (h : s.Timely past) (hdisciplined : s.Disciplined)
    (htimeout : s.config.connTimeout.isZero = false) {id : ConnId} :
    id ∈ s.evicted past ↔ (s.fate id).live = true ∧ (s.fate id).closing = false ∧
      (s.fate id).isSilent s.config.connTimeout s.now = true := by
  rw [evicted, List.mem_filter, ← hdisciplined.fate_live, Bool.and_eq_true_iff, Bool.not_eq_true',
    isOverdue, ← h.heard, Fate.isSilent, htimeout, Bool.not_false, Bool.true_and]
  exact Iff.rfl

/-- At a heartbeat, a connection of which nothing was heard for too long is to close. -/
theorem Timely.fate_heartbeat (h : s.Timely past) (hdisciplined : s.Disciplined) (id : ConnId) :
    s.heartbeat.fate id = (s.fate id).step s.config.connTimeout id (.heartbeat s.now) := by
  rw [Fate.step]
  cases htimeout : s.config.connTimeout.isZero with
  | true =>
    -- Without a limit there is no sweep.
    have hconfig : s.told.config = s.config := (steady_call s.beat _).config
    have hsilent : s.told.silent = [] := if_pos (by rw [hconfig, htimeout])
    have hswept : s.heartbeat = s.told := by
      show s.told.evictEach s.told.silent = s.told
      rw [hsilent, evictEach]
    rw [hswept, fate_told, Fate.isSilent, htimeout, Bool.not_true, Bool.false_and,
      if_neg Bool.false_ne_true]
  | false =>
    have hopen : ∀ id ∈ s.evicted past,
        (s.told.fate id).live = true ∧ s.told.pool.isOpen id = true := by
      intro id hmem
      rw [fate_told]
      refine ⟨((h.mem_evicted hdisciplined htimeout).mp hmem).1, ?_⟩
      rw [← h.filter_silent_told hdisciplined htimeout] at hmem
      exact (List.mem_filter.mp hmem).2
    have hnodup : (s.evicted past).Nodup := hdisciplined.keyed.sound.nodup_ids.filter _
    rw [fate_closes (h.closes_heartbeat hdisciplined htimeout) hnodup hopen, fate_told]
    simp only [h.mem_evicted hdisciplined htimeout]
    -- Whoever is silent but not evicted could not begin to close.
    cases hlive : (s.fate id).live with
    | false => simp [Fate.close_of_not_live hlive]
    | true =>
      cases hclosing : (s.fate id).closing with
      | true => simp [Fate.close_of_closing hclosing]
      | false => simp

/-- Of an operation, the fate of a connection takes no more than what it means to that
connection. -/
theorem Timely.fate_operate (h : s.Timely past) (hdisciplined : s.Disciplined)
    (operation : Operation) (id : ConnId) :
    (s.operate operation).fate id =
      (operation.cue? id s.nextId s.now).elim (s.fate id)
        ((s.fate id).step s.config.connTimeout id) := by
  cases operation with
  | accept peer =>
    rw [Server.operate, fate_accept, Operation.cue?]
    split <;> rfl
  | acceptFailed cause =>
    have hnobody : (Callback.acceptFailed cause).connection? ≠ some id :=
      (Option.some_ne_none id).symm
    exact (fate_call_other hnobody).trans (fate_steady (steady_say s _ _) id)
  | handle event =>
    rw [Server.operate, hdisciplined.fate_handle, Operation.cue?]
    split <;> rfl
  | close id' =>
    rw [Server.operate, hdisciplined.fate_disconnectLive, Operation.cue?]
    split <;> rfl
  | disconnectAll => exact hdisciplined.fate_disconnectAll id
  | iterate visit =>
    cases visit with
    | none => rfl
    | some visit => exact fate_steady (s.steady_visitEach visit _) id
  | heartbeat => exact h.fate_heartbeat hdisciplined id
  | act reaction => exact fate_steady (s.steady_perform reaction) id
  | relink id' link =>
    have hactivity : (s.relink id' fun _ => link).pool.activity id = s.pool.activity id :=
      Pool.activity_modify s.pool id' id fun _ => rfl
    have hclosing : (s.relink id' fun _ => link).pool.isClosing id = s.pool.isClosing id :=
      Pool.isClosing_modify s.pool id' id fun _ => rfl
    rw [Server.operate, fate, hactivity, hclosing]
    rfl
  | pass d => rfl

end NetSession.Server
