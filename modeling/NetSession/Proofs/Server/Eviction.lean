import NetSession.Proofs.Connection.Recency
import NetSession.Proofs.Server.Discipline
import NetSession.Proofs.Server.Sparing

/-!
# Who is evicted

The main result is `heartbeat_evicts_idle`. At a heartbeat the server tells its handler, and then
begins to close those live connections that had not begun before and of which nothing was heard for
too long: each of them, nobody else, and in the order of the table. What was heard of a connection,
and when, is read off the `history` of what has happened.

`Timely` is the invariant. It says that the table stands in the order of last reads, that the stamps
of connections are the moments when something was heard of them, and that the heartbeats were
counted.
-/

namespace NetSession.Server

variable {σ : Type}

/-- The connection that something was heard of: it was accepted, or what was read from it is handed
over. -/
def Happening.heard? : Happening → Option ConnId
  | .called (.accepted id) | .called (.received id _) => some id
  | _ => none

/-- The moment when something was last heard of a connection. -/
def lastHeard (past : List (Instant × Happening)) (id : ConnId) : Option Instant :=
  ((past.filter fun e => e.2.heard? = some id).map Prod.fst).getLast?

/-- Whether a connection was heard of, but not for longer than a span. -/
def isOverdue (past : List (Instant × Happening)) (now : Instant) (timeout : Duration)
    (id : ConnId) : Bool :=
  (lastHeard past id).any fun t => timeout.nanos < (now.since t).nanos

/-- What happens at some operations, each thing with its moment. -/
def history (s : Server σ) : List Operation → List (Instant × Happening)
  | [] => []
  | operation :: operations =>
    let s' := s.operate operation
    ((s'.trace.drop s.trace.length).map fun e => (s.now, e)) ++ s'.history operations

/-- The index of a heartbeat. -/
def Callback.beat? : Callback → Option Nat
  | .heartbeat index _ => some index
  | _ => none

/-- The indices of the heartbeats, in order. -/
def beats (trace : List Happening) : List Nat := (calls trace).filterMap Callback.beat?

/-! ## What was heard -/

section Heard

variable {past : List (Instant × Happening)} {l : List Happening}

/-- Where nothing is heard, nobody is heard of later than before. -/
theorem lastHeard_append (hl : ∀ e ∈ l, e.heard? = none) (now : Instant) (id : ConnId) :
    lastHeard (past ++ l.map (now, ·)) id = lastHeard past id := by
  have hnone : (l.map (now, ·)).filter (fun e => e.2.heard? = some id) = [] := by
    rw [List.filter_eq_nil_iff]
    intro e he
    obtain ⟨e', he', rfl⟩ := List.mem_map.mp he
    simp [hl e' he']
  unfold lastHeard
  rw [List.filter_append, hnone, List.append_nil]

/-- Who is heard of was heard of last at this moment. -/
theorem lastHeard_concat {e : Happening} {id : ConnId} (he : e.heard? = some id) (now : Instant)
    (id' : ConnId) :
    lastHeard (past ++ [(now, e)]) id' = if id' = id then some now else lastHeard past id' := by
  unfold lastHeard
  rw [List.filter_append, List.filter_singleton, he]
  split
  · next heq => simp [heq]
  · next hne => simp [Ne.symm hne]

/-- Nobody is heard of by what is minor. -/
theorem heard?_of_isMinor {pool : Pool} {e : Happening} (he : e.IsMinor pool) :
    e.heard? = none := by
  cases e with
  | called => exact he.elim
  | returned | sent | asked | said | wrote | shut | reported => rfl

/-- No heartbeat ticks by what is minor. -/
theorem beats_append_minor {pool : Pool} {trace : List Happening}
    (hl : ∀ e ∈ l, e.IsMinor pool) : beats (trace ++ l) = beats trace := by
  unfold beats
  rw [calls_append, calls_minor hl, List.append_nil]

end Heard

/-! ## The invariant -/

/-- The table, the stamps of connections and the count of heartbeats fit what has happened. -/
structure Timely (s : Server σ) (past : List (Instant × Happening)) : Prop where
  /-- The table stands in the order of last reads. -/
  ascends : s.pool.Ascends s.now s.roster.table.refs
  /-- A connection is stamped with the moment when something was last heard of it. -/
  heard : ∀ id, s.pool.activity id = lastHeard past id
  /-- The heartbeats were counted, and none was left out. -/
  beats : beats s.trace = List.range s.heartbeats

namespace Timely

variable {s s' : Server σ} {past : List (Instant × Happening)} {l : List Happening}

/-- Nothing has happened to a server that was just started. -/
theorem start (config : ServerConfig) (handler : Handler σ) (memory : σ) (now : Instant) :
    (start config handler memory now).Timely [] := by
  have hrefs : (Server.start config handler memory now).roster.table.refs = [] := rfl
  constructor
  · rw [hrefs]
    exact .nil
  · intro id
    have hnone : (Server.start config handler memory now).pool.get? id = none :=
      Std.TreeMap.getElem?_emptyc
    rw [Pool.activity, hnone]
    rfl
  · rfl

/-- Where nothing is heard and no stamp changes, nobody comes into the table, and the order is
kept. -/
theorem unheard (h : s.Timely past) (hnow : s'.now = s.now)
    (hrefs : s'.roster.table.refs.Sublist s.roster.table.refs)
    (hactivity : ∀ id, s'.pool.activity id = s.pool.activity id) (hl : ∀ e ∈ l, e.heard? = none)
    (hbeats : Server.beats s'.trace = List.range s'.heartbeats) :
    s'.Timely (past ++ l.map (s.now, ·)) := by
  constructor
  · rw [hnow]
    exact (h.ascends.sublist hrefs).congr (fun id _ => hactivity id) (Nat.le_refl _)
  · intro id
    rw [hactivity, lastHeard_append hl, h.heard]
  · exact hbeats

/-- Who is heard of is stamped and stands at the end of the table, and the order is kept. -/
theorem hears (h : s.Timely past) (hkeyed : s.roster.table.Keyed) {id : ConnId} {e : Happening}
    (hnow : s'.now = s.now) (htable : s'.roster.table = s.roster.table.insert id id)
    (hactivity : ∀ id', s'.pool.activity id' = if id' = id then some s.now else s.pool.activity id')
    (hl : ∀ e ∈ l, e.heard? = none) (he : e.heard? = some id)
    (hbeats : Server.beats s'.trace = List.range s'.heartbeats) :
    s'.Timely (past ++ (l ++ [e]).map (s.now, ·)) := by
  constructor
  · rw [hnow, htable, (hkeyed.insert id).refs_eq, Table.ids, hkeyed.sound.toList_insert,
      List.map_append]
    apply Pool.Ascends.append
    · -- All others stand in their order, and have kept their stamps.
      have hrest : ((s.roster.table.toList.filter (·.1 != id)).map Prod.fst).Sublist
          s.roster.table.refs := by
        rw [hkeyed.refs_eq, Table.ids]
        exact List.filter_sublist.map Prod.fst
      apply (h.ascends.sublist hrest).congr _ (Nat.le_refl _)
      intro id' hmem
      obtain ⟨p, hp, rfl⟩ := List.mem_map.mp hmem
      rw [hactivity, if_neg (bne_iff_ne.mp (List.mem_filter.mp hp).2)]
    · rw [hactivity, if_pos rfl]
  · intro id'
    rw [hactivity, List.map_append, ← List.append_assoc, List.map_singleton, lastHeard_concat he,
      lastHeard_append hl, h.heard]
  · exact hbeats

/-- A steady change keeps the order. -/
theorem steady (h : s.Timely past) (hsteady : Steady s s') :
    ∃ l, s'.trace = s.trace ++ l ∧ s'.Timely (past ++ l.map (s.now, ·)) := by
  obtain ⟨l, htrace, hl⟩ := hsteady.trace
  refine ⟨l, htrace, h.unheard hsteady.now ?_ (fun id => ?_) ?_ ?_⟩
  · rw [hsteady.table]
  · rw [Pool.activity_eq, hsteady.outline, Pool.activity_eq]
  · exact fun e he => heard?_of_isMinor (hl e he)
  · rw [htrace, beats_append_minor hl, h.beats, hsteady.heartbeats]

/-- One more callback that is no heartbeat leaves the count. -/
theorem beats_concat (h : s.Timely past) {pool : Pool} (hl : ∀ e ∈ l, e.IsMinor pool)
    {callback : Callback} (hcallback : callback.beat? = none) :
    Server.beats (s.trace ++ l ++ [.called callback]) = List.range s.heartbeats := by
  rw [Server.beats, calls_append, List.filterMap_append, ← Server.beats, beats_append_minor hl,
    h.beats]
  simp [calls, Happening.callback?, hcallback]

/-- A new connection comes last. -/
theorem accept (h : s.Timely past) (hkeyed : s.roster.table.Keyed) (peer : Endpoint) :
    ∃ l, ((s.enter peer).note (.called (.accepted s.nextId))).trace = s.trace ++ l ∧
      ((s.enter peer).note (.called (.accepted s.nextId))).Timely (past ++ l.map (s.now, ·)) := by
  obtain ⟨notice, htrace⟩ : ∃ notice, (s.enter peer).trace = s.trace ++ [.said notice] := ⟨_, rfl⟩
  have hminor : ∀ e ∈ [Happening.said notice], e.IsMinor s.pool := by simp [Happening.IsMinor]
  have hwhole : ((s.enter peer).note (.called (.accepted s.nextId))).trace =
      s.trace ++ [.said notice] ++ [.called (.accepted s.nextId)] := congrArg (· ++ [_]) htrace
  refine ⟨_, hwhole.trans (List.append_assoc _ _ _), ?_⟩
  refine h.hears hkeyed rfl (table_enter s peer) (fun id => ?_)
    (fun e he => heard?_of_isMinor (hminor e he)) rfl ?_
  · change (s.enter peer).pool.activity id = _
    unfold Pool.activity
    rw [get?_enter]
    split <;> rfl
  · rw [hwhole]
    exact h.beats_concat hminor rfl

/-- Every change keeps the order. -/
theorem change (h : s.Timely past) (hdisciplined : s.Disciplined) (hchange : Change s s') :
    ∃ l, s'.trace = s.trace ++ l ∧ s'.Timely (past ++ l.map (s.now, ·)) := by
  have hcalled {callback : Callback} (hcallback : callback.beat? = none) :
      Server.beats (s.trace ++ [.called callback]) = List.range s.heartbeats := by
    have hminor : ∀ e ∈ ([] : List Happening), e.IsMinor s.pool := by simp
    have hbeats := h.beats_concat hminor hcallback
    rwa [List.append_nil] at hbeats
  cases hchange with
  | steady hsteady => exact h.steady hsteady
  | refuse cause =>
    refine ⟨_, rfl, h.unheard rfl (.refl _) (fun _ => rfl) ?_ (hcalled rfl)⟩
    simp [Happening.heard?]
  | receive id data hlive hopen =>
    -- The only change that stamps: the stamp is the time at which the bytes are written down.
    have htouch := touch_of_live hdisciplined.keyed hlive
    have hthere := (hdisciplined.known id).mpr ((hdisciplined.live id).mp hlive).1
    rw [htouch]
    refine ⟨_, rfl, ?_⟩
    exact h.hears (l := []) hdisciplined.keyed rfl rfl
      (Pool.activity_stamp hthere s.now) (by simp) rfl (hcalled rfl)
  | close id hlive hopen =>
    refine ⟨_, rfl, h.unheard rfl (.refl _) (fun id' => ?_) ?_
      (hcalled rfl)⟩
    · -- To begin a close sets a flag, and the stamps stay.
      change (s.pool.beginClose id).2.activity id' = _
      rw [Pool.activity_eq, Pool.outline_beginClose, Pool.activity_eq]
      split
      · next heq =>
        rw [heq, Option.map_map]
        rfl
      · rfl
    · simp [Happening.heard?]
  | release id hlive =>
    refine ⟨_, rfl, h.unheard rfl ?_ (fun _ => rfl) ?_ (hcalled rfl)⟩
    · change (s.roster.table.remove id).2.refs.Sublist _
      rw [Table.refs, hdisciplined.keyed.sound.toList_remove]
      exact List.filter_sublist.map Prod.snd
    · simp [Happening.heard?]
  | beat =>
    -- A beat is announced and then called, and the call carries the number of beats before it.
    obtain ⟨notice, htrace⟩ : ∃ notice, s.beat.trace = s.trace ++ [.said notice] := ⟨_, rfl⟩
    have hwhole : (s.beat.note (.called (.heartbeat s.heartbeats s.roster.table.ids))).trace =
        s.trace ++ ([.said notice] ++ [.called (.heartbeat s.heartbeats s.roster.table.ids)]) :=
      (congrArg (· ++ [_]) htrace).trans (List.append_assoc _ _ _)
    refine ⟨_, hwhole, h.unheard rfl (.refl _) (fun _ => rfl) ?_ ?_⟩
    · simp [Happening.heard?]
    · change _ = List.range (s.heartbeats + 1)
      rw [hwhole, Server.beats, calls_append, List.filterMap_append, ← Server.beats, h.beats,
        List.range_succ]
      rfl
  | relink id f =>
    refine ⟨[], (List.append_nil _).symm, h.unheard rfl (.refl _)
      (fun id' => ?_) (by simp) h.beats⟩
    exact Pool.activity_modify s.pool id id' fun _ => rfl

/-- Some changes keep the order. -/
theorem changes (h : s.Timely past) (hdisciplined : s.Disciplined) (hchanges : Changes s s') :
    ∃ l, s'.trace = s.trace ++ l ∧ s'.Timely (past ++ l.map (s.now, ·)) := by
  induction hchanges with
  | refl => exact ⟨[], (List.append_nil _).symm, by rwa [List.map_nil, List.append_nil]⟩
  | @tail t t' hbefore hchange ih =>
    obtain ⟨l, htrace, htimely⟩ := ih
    obtain ⟨l', htrace', htimely'⟩ := htimely.change (hdisciplined.changes hbefore) hchange
    rw [(Changes.settings hbefore).2.2] at htimely'
    refine ⟨l ++ l', by rw [htrace', htrace, List.append_assoc], ?_⟩
    rwa [List.map_append, ← List.append_assoc]

/-- Every operation keeps the order. -/
theorem operate (h : s.Timely past) (hdisciplined : s.Disciplined) (operation : Operation) :
    ∃ l, (s.operate operation).trace = s.trace ++ l ∧
      (s.operate operation).Timely (past ++ l.map (s.now, ·)) := by
  rcases operate_cases hdisciplined.keyed operation with ⟨peer, rfl⟩ | ⟨d, rfl⟩ | ⟨-, hchanges⟩
  · obtain ⟨l, htrace, hentered⟩ := h.accept hdisciplined.keyed peer
    obtain ⟨l', htrace', htimely⟩ := hentered.steady (steady_call (s.enter peer) _)
    refine ⟨l ++ l', by rw [← List.append_assoc, ← htrace]; exact htrace', ?_⟩
    rw [List.map_append, ← List.append_assoc]
    exact htimely
  · -- Time passes, and nothing happens.
    refine ⟨[], (List.append_nil _).symm, ?_⟩
    rw [List.map_nil, List.append_nil]
    exact ⟨h.ascends.congr (fun _ _ => rfl) (Nat.le_add_right _ _), h.heard, h.beats⟩
  · exact h.changes hdisciplined hchanges

/-- All operations keep the order. -/
theorem operateAll (h : s.Timely past) (hdisciplined : s.Disciplined)
    (operations : List Operation) :
    (s.operateAll operations).Timely (past ++ s.history operations) := by
  induction operations generalizing s past with
  | nil => rwa [history, List.append_nil]
  | cons operation operations ih =>
    obtain ⟨l, htrace, htimely⟩ := h.operate hdisciplined operation
    have hnew : (s.operate operation).trace.drop s.trace.length = l := by
      rw [htrace, List.drop_left]
    simp only [history, hnew, ← List.append_assoc]
    exact ih htimely (hdisciplined.operate operation)

end Timely

/-! ## Heartbeats -/

section Heartbeat

variable {s : Server σ} {past : List (Instant × Happening)}

/-- The connections that a heartbeat evicts: live ones, not yet closing, of which nothing was heard
for too long. -/
def evicted (s : Server σ) (past : List (Instant × Happening)) : List ConnId :=
  s.roster.table.ids.filter fun id =>
    !s.pool.isClosing id && isOverdue past s.now s.config.connTimeout id

/-- The server once it has told its handler of a heartbeat. -/
def told (s : Server σ) : Server σ := s.beat.call (.heartbeat s.heartbeats s.roster.table.ids)

/-- Of the connections that the sweep takes, those that were not closing are to be evicted. -/
theorem Timely.filter_silent_told (h : s.Timely past) (hdisciplined : s.Disciplined)
    (htimeout : s.config.connTimeout.isZero = false) :
    s.told.silent.filter s.told.pool.isOpen = s.evicted past := by
  have htold : Steady (s.beat.note _) s.told := steady_call s.beat _
  have hactivity (id : ConnId) : s.told.pool.activity id = s.pool.activity id := by
    rw [Pool.activity_eq, htold.outline, Pool.activity_eq]
    rfl
  -- The handler has left the order as it was, so the sweep takes all who are silent.
  have hascends : s.told.pool.Ascends s.now s.told.roster.table.refs := by
    rw [htold.table]
    exact h.ascends.congr (fun id _ => hactivity id) (Nat.le_refl _)
  have hsilent : s.told.silent =
      s.roster.table.ids.filter (Table.isSilent s.told.pool s.now s.config.connTimeout) := by
    unfold silent
    rw [htold.config, htold.now]
    change (if s.config.connTimeout.isZero = true then [] else _) = _
    rw [htimeout, if_neg Bool.false_ne_true]
    change s.told.roster.table.expired s.told.pool s.now s.config.connTimeout = _
    rw [Table.expired_eq_filter hascends, htold.table]
    exact congrArg _ hdisciplined.keyed.refs_eq
  rw [hsilent, List.filter_filter]
  apply List.filter_congr
  intro id hid
  have hopen : s.told.pool.isOpen id = !s.pool.isClosing id :=
    (htold.isOpen id).trans (Pool.isOpen_eq_not (hdisciplined.outline_of_mem_ids hid))
  rw [hopen, Table.isSilent_eq, hactivity, h.heard]
  rfl

/-- At a heartbeat, those that are to be evicted begin to close once the handler was told. -/
theorem Timely.closes_heartbeat (h : s.Timely past) (hdisciplined : s.Disciplined)
    (htimeout : s.config.connTimeout.isZero = false) :
    Closes s.told s.heartbeat (s.evicted past) := by
  have hnodup : s.told.silent.Nodup := by
    unfold silent
    split
    · exact List.nodup_nil
    · have htable : s.told.roster.table = s.roster.table := (steady_call s.beat _).table
      have hids : s.told.roster.table.refs.Nodup := by
        rw [htable, hdisciplined.keyed.refs_eq]
        exact hdisciplined.keyed.sound.nodup_ids
      exact hids.sublist (List.takeWhile_sublist _)
  rw [← h.filter_silent_told hdisciplined htimeout]
  exact closes_evictEach hnodup

/-- At a heartbeat, the heartbeat callback is called, and then the closing callbacks of those that
are to be evicted. -/
theorem Timely.calls_heartbeat (h : s.Timely past) (hdisciplined : s.Disciplined)
    (htimeout : s.config.connTimeout.isZero = false) :
    ∃ l, s.heartbeat.trace = s.trace ++ l ∧
      calls l = .heartbeat s.heartbeats s.roster.table.ids :: (s.evicted past).map .closing := by
  obtain ⟨notice, hbeat⟩ : ∃ notice, s.beat.trace = s.trace ++ [.said notice] := ⟨_, rfl⟩
  obtain ⟨l, htold, hminor⟩ :=
    (steady_call s.beat (.heartbeat s.heartbeats s.roster.table.ids)).trace
  obtain ⟨l', hcloses, hcalls⟩ := (h.closes_heartbeat hdisciplined htimeout).trace
  have htrace : s.told.trace = s.trace ++ [.said notice] ++
      [.called (.heartbeat s.heartbeats s.roster.table.ids)] ++ l := by
    rw [← hbeat]
    exact htold
  refine ⟨_, by rw [hcloses, htrace, List.append_assoc, List.append_assoc, List.append_assoc], ?_⟩
  rw [calls_append, calls_append, calls_append, hcalls, calls_minor hminor]
  rfl

/-- Of what handlers cannot change, a heartbeat changes the marks and signals of those that are to
be evicted. -/
theorem Timely.outline_heartbeat (h : s.Timely past) (hdisciplined : s.Disciplined)
    (htimeout : s.config.connTimeout.isZero = false) (id : ConnId) :
    s.heartbeat.pool.outline id = (s.pool.outline id).map (closeIn (s.evicted past) id) := by
  have htold : Steady (s.beat.note _) s.told := steady_call s.beat _
  rw [(h.closes_heartbeat hdisciplined htimeout).outline, htold.outline]
  rfl

/-- Who was not to be evicted has kept its outline. -/
theorem Timely.outline_of_not_evicted (h : s.Timely past) (hdisciplined : s.Disciplined)
    (htimeout : s.config.connTimeout.isZero = false) {id : ConnId} (hid : id ∉ s.evicted past) :
    s.heartbeat.pool.outline id = s.pool.outline id := by
  have hsame : closeIn (s.evicted past) id = fun c => c := by
    funext c
    simp [closeIn, hid]
  rw [h.outline_heartbeat hdisciplined htimeout, hsame, Option.map_id']

/-- Who was to be evicted is closing. -/
theorem Timely.isClosing_of_evicted (h : s.Timely past) (hdisciplined : s.Disciplined)
    (htimeout : s.config.connTimeout.isZero = false) {id : ConnId} (hid : id ∈ s.evicted past) :
    s.heartbeat.pool.isClosing id = true := by
  have hlive := hdisciplined.outline_of_mem_ids (List.mem_filter.mp hid).1
  obtain ⟨c, hc⟩ := Option.ne_none_iff_exists'.mp hlive
  rw [Pool.isClosing_eq, h.outline_heartbeat hdisciplined htimeout, hc]
  simp [closeIn, hid]

/-- After a heartbeat, whoever is live and not closing was heard of within the limit. -/
theorem Timely.idle_le_of_open (h : s.Timely past) (hdisciplined : s.Disciplined)
    (htimeout : s.config.connTimeout.isZero = false) {id : ConnId}
    (hid : id ∈ s.roster.table.ids) (hopen : s.heartbeat.pool.isClosing id = false) :
    ∃ c, s.heartbeat.pool.get? id = some c ∧ lastHeard past id = some c.lastActivity ∧
      (c.idle s.now).nanos ≤ s.config.connTimeout.nanos := by
  -- It was not to be evicted, so it is as open as it was before.
  have hkept : id ∉ s.evicted past := by
    intro hmem
    rw [h.isClosing_of_evicted hdisciplined htimeout hmem] at hopen
    exact nomatch hopen
  have houtline := h.outline_of_not_evicted hdisciplined htimeout hkept
  have hbefore : s.pool.isClosing id = false := by
    rw [← hopen, Pool.isClosing_eq, Pool.isClosing_eq, houtline]
  obtain ⟨c, hc⟩ : ∃ c, s.heartbeat.pool.get? id = some c := by
    rw [← Option.ne_none_iff_exists', ← Pool.outline_ne_none, houtline]
    exact hdisciplined.outline_of_mem_ids hid
  have hheard : lastHeard past id = some c.lastActivity := by
    rw [← h.heard, Pool.activity_eq, ← houtline, ← Pool.activity_eq, Pool.activity, hc]
    rfl
  refine ⟨c, hc, hheard, ?_⟩
  by_contra hlong
  apply hkept
  rw [evicted, List.mem_filter, hbefore, isOverdue, hheard]
  exact ⟨hid, by simpa [Connection.idle] using hlong⟩

/-- Who was not to be evicted is as it was before, if the handler spares it. -/
theorem Timely.get?_heartbeat (h : s.Timely past) (hdisciplined : s.Disciplined)
    (htimeout : s.config.connTimeout.isZero = false) {id : ConnId} (hid : id ∉ s.evicted past)
    (hspares : s.handler.Spares id) : s.heartbeat.pool.get? id = s.pool.get? id := by
  have htold : Steady (s.beat.note _) s.told := steady_call s.beat _
  have hcall : s.told.pool.get? id = s.pool.get? id := get?_call (s := s.beat) hspares _
  rw [← hcall]
  apply get?_evictEach
  · change s.told.handler.Spares id
    rw [htold.handler]
    exact hspares
  · -- If the sweep takes it, then it had begun to close.
    rintro id' hmem rfl
    rw [← h.filter_silent_told hdisciplined htimeout, List.mem_filter, not_and] at hid
    exact Bool.eq_false_iff.mpr (hid hmem)

end Heartbeat

/-- A server runs with the configuration and the handler that it was started with. -/
theorem Disciplined.settings_operateAll {s : Server σ} (h : s.Disciplined)
    (operations : List Operation) :
    (s.operateAll operations).config = s.config ∧
      (s.operateAll operations).handler = s.handler := by
  induction operations generalizing s with
  | nil => exact ⟨rfl, rfl⟩
  | cons operation operations ih =>
    have hhead : (s.operate operation).config = s.config ∧
        (s.operate operation).handler = s.handler := by
      rcases operate_cases h.keyed operation with ⟨peer, rfl⟩ | ⟨d, rfl⟩ | ⟨-, hchanges⟩
      · have hcall := steady_call (s.enter peer) (.accepted s.nextId)
        exact ⟨hcall.config, hcall.handler⟩
      · exact ⟨rfl, rfl⟩
      · exact ⟨hchanges.settings.1, hchanges.settings.2.1⟩
    obtain ⟨hconfig, hhandler⟩ := ih (h.operate operation)
    exact ⟨hconfig.trans hhead.1, hhandler.trans hhead.2⟩

/-- At every heartbeat of a server that closes silent connections, the handler is told first, by the
next index. Then the closing callback is called for those live connections that were not closing and
of which nothing was heard for longer than the limit, for each of them once, in the order of the
table. The table stays as it is, and whoever in it is not closing then was silent for no longer than
the limit. Of all other connections at most the payloads and the extension block have changed, and
nothing if the handler spares them. -/
theorem heartbeat_evicts_idle (config : ServerConfig) (handler : Handler σ) (memory : σ)
    (now : Instant) (operations : List Operation) (htimeout : config.connTimeout.isZero = false) :
    let s := (start config handler memory now).operateAll operations
    let past := (start config handler memory now).history operations
    let s' := s.heartbeat
    beats s.trace = List.range s.heartbeats ∧
    (∃ l, s'.trace = s.trace ++ l ∧
      calls l = .heartbeat s.heartbeats s.roster.table.ids :: (s.evicted past).map .closing) ∧
    (s.evicted past).Nodup ∧ (∀ id ∈ s.evicted past, s'.pool.isClosing id = true) ∧
    s'.now = s.now ∧ s'.roster.table = s.roster.table ∧
    (∀ id ∈ s'.roster.table.ids, s'.pool.isClosing id = false →
      ∃ c, s'.pool.get? id = some c ∧ lastHeard past id = some c.lastActivity ∧
        (c.idle s'.now).nanos ≤ config.connTimeout.nanos) ∧
    ∀ id ∉ s.evicted past, s'.pool.outline id = s.pool.outline id ∧
      (handler.Spares id → s'.pool.get? id = s.pool.get? id) := by
  intro s past s'
  have hstart := Disciplined.start config handler memory now
  have hs : s.Disciplined := hstart.operateAll operations
  have h : s.Timely past := (Timely.start config handler memory now).operateAll hstart operations
  obtain ⟨hconfig, hhandler⟩ : s.config = config ∧ s.handler = handler :=
    hstart.settings_operateAll operations
  rw [← hconfig] at htimeout ⊢
  rw [← hhandler]
  have htold : Steady (s.beat.note _) s.told := steady_call s.beat _
  have hcloses : Closes s.told s' (s.evicted past) := h.closes_heartbeat hs htimeout
  have htable : s'.roster.table = s.roster.table := hcloses.table.trans htold.table
  have hnow : s'.now = s.now := hcloses.now.trans htold.now
  refine ⟨h.beats, h.calls_heartbeat hs htimeout, hs.keyed.sound.nodup_ids.filter _,
    fun id => h.isClosing_of_evicted hs htimeout, hnow, htable, fun id hid hopen => ?_,
    fun id hid => ⟨h.outline_of_not_evicted hs htimeout hid, h.get?_heartbeat hs htimeout hid⟩⟩
  rw [htable] at hid
  rw [hnow]
  exact h.idle_le_of_open hs htimeout hid hopen

/-- Three connections are accepted. The first is read from after a while, the third begins to close,
and time passes. -/
def quietOperations : List Operation :=
  [.accept .unspecifiedV4, .accept .unspecifiedV4, .accept .unspecifiedV4, .pass ⟨20⟩,
    .handle (.read 1 []), .close 3, .pass ⟨25⟩]

/-- Of these three, the second is evicted. -/
theorem heartbeat_evicts_second :
    let s := (start { connTimeout := ⟨30⟩ } Handler.silent () .zero).operateAll quietOperations
    s.roster.table.ids = [2, 3, 1] ∧
    ∃ l, s.heartbeat.trace = s.trace ++ l ∧
      calls l = [.heartbeat 0 [2, 3, 1], .closing 2] := by
  obtain ⟨-, ⟨l, htrace, hcalls⟩, -⟩ :=
    heartbeat_evicts_idle { connTimeout := ⟨30⟩ } Handler.silent () .zero quietOperations rfl
  exact ⟨rfl, l, htrace, hcalls⟩

end NetSession.Server
