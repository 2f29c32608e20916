import NetSession.Proofs.Server.Discipline

/-!
# What a visit finds

The main result is `visits_by_last_heard`. At any time, a visit goes through the connections that
the handler was told of and that are not closed yet, in the order in which they were last heard of,
and it counts them. When something was heard of a connection is read off the callbacks: it was
announced, or what was read from it was handed over. What is not handed over moves nothing.

`Ranked` is the invariant. Each change keeps it (`Ranked.change`), so all operations do.
-/

namespace NetSession.Server

variable {σ : Type}

/-- The connection that a callback lets the handler hear of: it is announced, or what was read from
it is handed over. -/
def Callback.heard? : Callback → Option ConnId
  | .accepted id | .received id _ => some id
  | .acceptFailed _ | .closing _ | .closed _ | .heartbeat _ _ => none

/-- The place of the last callback that let the handler hear of a connection. -/
def lastPlace (log : List Callback) (id : ConnId) : Option Nat :=
  ((log.zipIdx.filter fun e => e.1.heard? = some id).map Prod.snd).getLast?

/-- Of two connections, the handler heard of one for the last time before it did of the other. -/
def HeardBefore (log : List Callback) (id id' : ConnId) : Prop :=
  ∃ place place', lastPlace log id = some place ∧ lastPlace log id' = some place' ∧
    place < place'

/-- The callbacks of a trace are those that were called in it. -/
theorem mem_calls {trace : List Happening} {callback : Callback} :
    callback ∈ calls trace ↔ .called callback ∈ trace := by
  unfold calls
  rw [List.mem_filterMap]
  constructor
  · rintro ⟨e, he, heq⟩
    unfold Happening.callback? at heq
    split at heq
    · rwa [← Option.some.inj heq]
    · exact nomatch heq
  · exact fun hmem => ⟨_, hmem, rfl⟩

/-! ## Places of callbacks -/

section Places

variable {log : List Callback} {id : ConnId}

/-- A further callback is the last one for the connection that it lets the handler hear of. -/
theorem lastPlace_concat (log : List Callback) (callback : Callback) (id : ConnId) :
    lastPlace (log ++ [callback]) id =
      if callback.heard? = some id then some log.length else lastPlace log id := by
  have hlast : [callback].zipIdx log.length = [(callback, log.length)] := rfl
  unfold lastPlace
  rw [List.zipIdx_append, Nat.zero_add, hlast, List.filter_append, List.filter_singleton]
  split
  · next heq => simp [heq]
  · next hne => simp [hne]

/-- The place of a callback is one of the log. -/
theorem lastPlace_lt {place : Nat} (h : lastPlace log id = some place) : place < log.length := by
  induction log using List.reverseRecOn with
  | nil => exact nomatch h
  | append_singleton log callback ih =>
    rw [lastPlace_concat] at h
    rw [List.length_append, List.length_singleton]
    split at h
    · rw [← Option.some.inj h]
      exact Nat.lt_succ_self _
    · exact Nat.lt_succ_of_lt (ih h)

/-- A connection that was announced has a last place. -/
theorem exists_lastPlace (h : .accepted id ∈ log) : ∃ place, lastPlace log id = some place := by
  induction log using List.reverseRecOn with
  | nil => exact absurd h List.not_mem_nil
  | append_singleton log callback ih =>
    rw [lastPlace_concat]
    split
    · exact ⟨_, rfl⟩
    · next hheard =>
      rcases List.mem_append.mp h with hmem | hmem
      · exact ih hmem
      · rw [← List.mem_singleton.mp hmem] at hheard
        exact absurd rfl hheard

/-- The order of two connections stays while the handler hears of neither. -/
theorem HeardBefore.concat {id' : ConnId} (h : HeardBefore log id id') {callback : Callback}
    (hid : callback.heard? ≠ some id) (hid' : callback.heard? ≠ some id') :
    HeardBefore (log ++ [callback]) id id' := by
  unfold HeardBefore
  rw [lastPlace_concat, if_neg hid, lastPlace_concat, if_neg hid']
  exact h

/-- Whom the handler hears of now comes after all others that it heard of before. -/
theorem heardBefore_concat {id' : ConnId} (hid : .accepted id ∈ log) (hne : id ≠ id')
    {callback : Callback} (hheard : callback.heard? = some id') :
    HeardBefore (log ++ [callback]) id id' := by
  obtain ⟨place, hplace⟩ := exists_lastPlace hid
  refine ⟨place, log.length, ?_, ?_, lastPlace_lt hplace⟩
  · rw [lastPlace_concat, hheard, if_neg fun heq => hne (Option.some.inj heq).symm]
    exact hplace
  · rw [lastPlace_concat, if_pos hheard]

end Places

/-! ## The invariant -/

/-- The table stands in the order in which the handler heard of connections. -/
def Ranked (s : Server σ) : Prop := s.roster.table.ids.Pairwise (HeardBefore (calls s.trace))

namespace Ranked

variable {s s' : Server σ}

/-- A server that was just started has no connection to rank. -/
theorem start (config : ServerConfig) (handler : Handler σ) (memory : σ) (now : Instant) :
    (start config handler memory now).Ranked := by
  have hempty : (Server.start config handler memory now).roster.table.ids = [] := by
    have hsize : Table.size {} = (Table.ids {}).length := by
      rw [Table.sound_empty.size_eq, Table.ids, List.length_map]
    exact List.eq_nil_of_length_eq_zero hsize.symm
  unfold Ranked
  rw [hempty]
  exact .nil

/-- Nobody is moved while no callback is called. -/
theorem uncalled (h : s.Ranked) (htable : s'.roster.table.ids.Sublist s.roster.table.ids)
    (hcalls : calls s'.trace = calls s.trace) : s'.Ranked := by
  unfold Ranked
  rw [hcalls]
  exact h.sublist htable

/-- A callback by which nothing is heard moves nobody. Connections may leave the table. -/
theorem unheard (h : s.Ranked) {callback : Callback} (hheard : callback.heard? = none)
    (htable : s'.roster.table.ids.Sublist s.roster.table.ids)
    (hcalls : calls s'.trace = calls s.trace ++ [callback]) : s'.Ranked := by
  unfold Ranked
  rw [hcalls]
  refine (h.sublist htable).imp fun hbefore => hbefore.concat ?_ ?_ <;> (rw [hheard]; exact nofun)

/-- The connection that the handler hears of moves to the tail. -/
theorem hears (h : s.Ranked) (hdisciplined : s.Disciplined) {callback : Callback} {id : ConnId}
    (hheard : callback.heard? = some id)
    (htable : s'.roster.table = s.roster.table.insert id id)
    (hcalls : calls s'.trace = calls s.trace ++ [callback]) : s'.Ranked := by
  have hids : s'.roster.table.ids = s.roster.table.ids.filter (· != id) ++ [id] := by
    rw [htable, Table.ids, hdisciplined.keyed.sound.toList_insert, List.map_append, Table.ids,
      List.filter_map]
    rfl
  unfold Ranked
  rw [hids, hcalls, List.pairwise_append]
  refine ⟨?_, List.pairwise_singleton _ _, fun id' hmem last hlast => ?_⟩
  · -- The others stay in their order.
    apply (h.filter _).imp_of_mem
    intro id' id'' hmem hmem' hbefore
    have hne {id' : ConnId} (hmem : id' ∈ s.roster.table.ids.filter (· != id)) :
        callback.heard? ≠ some id' := by
      rw [hheard]
      exact fun heq => bne_iff_ne.mp (List.mem_filter.mp hmem).2 (Option.some.inj heq).symm
    exact hbefore.concat (hne hmem) (hne hmem')
  · obtain ⟨hid, hne⟩ := List.mem_filter.mp hmem
    rw [List.mem_singleton.mp hlast]
    have haccepted := ((hdisciplined.live id').mp (hdisciplined.keyed.mem_ids.mp hid)).1
    exact heardBefore_concat (mem_calls.mpr haccepted) (bne_iff_ne.mp hne) hheard

/-- What is steady moves nobody. -/
theorem steady (h : s.Ranked) (hsteady : Steady s s') : s'.Ranked := by
  obtain ⟨l, htrace, hminor⟩ := hsteady.trace
  apply h.uncalled
  · rw [hsteady.table]
  · rw [htrace, calls_append, calls_minor hminor, List.append_nil]

/-- A new connection goes to the tail. -/
theorem accept (h : s.Ranked) (hdisciplined : s.Disciplined) (peer : Endpoint) :
    ((s.enter peer).note (.called (.accepted s.nextId))).Ranked :=
  h.hears hdisciplined rfl (table_enter s peer)
    ((calls_append _ _).trans (congrArg (· ++ _) ((calls_append _ _).trans (List.append_nil _))))

/-- Every change keeps the order. -/
theorem change (h : s.Ranked) (hdisciplined : s.Disciplined) (hchange : Change s s') :
    s'.Ranked := by
  cases hchange with
  | steady hsteady => exact h.steady hsteady
  | refuse cause => exact h.unheard rfl (.refl _) (calls_append _ _)
  | receive id data hlive hopen =>
    have htable : (s.touch id).roster.table = s.roster.table.insert id id := by
      rw [touch_of_live hdisciplined.keyed hlive]
    have htrace : (s.touch id).trace = s.trace := rfl
    exact h.hears hdisciplined rfl htable (calls_append _ _)
  | close id hlive hopen => exact h.unheard rfl (.refl _) (calls_append _ _)
  | release id hlive =>
    refine h.unheard rfl ?_ (calls_append _ _)
    change (s.roster.table.remove id).2.ids.Sublist _
    rw [Table.ids, hdisciplined.keyed.sound.toList_remove]
    exact List.filter_sublist.map Prod.fst
  | beat =>
    refine h.unheard rfl (.refl _) ((calls_append _ _).trans (congrArg (· ++ _) ?_))
    exact (calls_append _ _).trans (List.append_nil _)
  | relink id f => exact h.uncalled (.refl _) rfl

/-- Some changes keep the order. -/
theorem changes (h : s.Ranked) (hdisciplined : s.Disciplined) (hchanges : Changes s s') :
    s'.Ranked := by
  induction hchanges with
  | refl => exact h
  | tail hbefore hchange ih => exact ih.change (hdisciplined.changes hbefore) hchange

/-- Every operation keeps the order. -/
theorem operate (h : s.Ranked) (hdisciplined : s.Disciplined) (operation : Operation) :
    (s.operate operation).Ranked := by
  rcases operate_cases hdisciplined.keyed operation with ⟨peer, rfl⟩ | ⟨d, rfl⟩ | ⟨-, hchanges⟩
  · exact (h.accept hdisciplined peer).steady (steady_call (s.enter peer) _)
  · exact h
  · exact h.changes hdisciplined hchanges

/-- All operations keep the order. -/
theorem operateAll (h : s.Ranked) (hdisciplined : s.Disciplined) (operations : List Operation) :
    (s.operateAll operations).Ranked := by
  induction operations generalizing s with
  | nil => exact h
  | cons operation operations ih =>
    exact ih (h.operate hdisciplined operation) (hdisciplined.operate operation)

end Ranked

/-! ## Visits -/

variable {s : Server σ}

/-- Visits are made one after the other. -/
theorem visitEach_eq_foldl (s : Server σ) (visit : ConnId → Reaction Unit) (ids : List ConnId) :
    s.visitEach visit ids = ids.foldl (fun s id => (s.perform (visit id)).2) s := by
  induction ids generalizing s with
  | nil => rfl
  | cons id ids ih => exact ih _

/-- What was read from a connection that is not live, or closes, leaves the server as it is. -/
theorem Disciplined.handle_read_eq_self (h : s.Disciplined) {id : ConnId} (data : Bytes)
    (hid : .closing id ∈ calls s.trace ∨ id ∉ s.roster.table.ids) :
    s.handle (.read id data) = s := by
  rw [handle]
  split
  · rfl
  · next ref c hget =>
    obtain ⟨ref', href, hc⟩ := Option.bind_eq_some_iff.mp hget
    obtain ⟨c', hc', heq⟩ := Option.bind_eq_some_iff.mp hc
    obtain ⟨rfl, rfl⟩ := Prod.mk.inj (Option.some.inj heq)
    obtain rfl := h.keyed.named href
    have hlive : ref' ∈ s.roster.table.ids := by
      rw [h.keyed.mem_ids, href]
      exact Option.some_ne_none _
    have hclosing := (h.closing ref').mpr (mem_calls.mp (hid.resolve_right fun hnot => hnot hlive))
    have hpool : s.pool.get? ref' = some c' := hc'
    rw [Pool.isClosing, hpool] at hclosing
    exact if_pos hclosing

/-- Whatever a server that was just started does, a visit goes through the connections that were
announced and are not closed, each once, in the order in which the handler last heard of them. Their
number is the count. What was read from a connection that closes, or is not there, changes
nothing. -/
theorem visits_by_last_heard (config : ServerConfig) (handler : Handler σ) (memory : σ)
    (now : Instant) (operations : List Operation) :
    let s := (start config handler memory now).operateAll operations
    let live := s.roster.table.ids
    (∀ visit, s.iterate (some visit) =
      (live.length, live.foldl (fun s id => (s.perform (visit id)).2) s)) ∧
    s.iterate none = (live.length, s) ∧
    live.Nodup ∧
    (∀ id, id ∈ live ↔ .accepted id ∈ calls s.trace ∧ .closed id ∉ calls s.trace) ∧
    live.Pairwise (HeardBefore (calls s.trace)) ∧
    ∀ id data, .closing id ∈ calls s.trace ∨ id ∉ live →
      s.operate (.handle (.read id data)) = s := by
  intro s live
  have hstart := Disciplined.start config handler memory now
  have hs : s.Disciplined := hstart.operateAll operations
  have hcount : s.roster.table.size = live.length := by
    rw [hs.keyed.sound.size_eq]
    exact (List.length_map _).symm
  refine ⟨fun visit => ?_, ?_, hs.keyed.sound.nodup_ids, fun id => ?_,
    (Ranked.start config handler memory now).operateAll hstart operations,
    fun id data => hs.handle_read_eq_self data⟩
  · -- A visit leaves the table as it is, so the count after it is the one before.
    have htable := (s.steady_visitEach visit s.roster.table.refs).table
    simp only [iterate, htable, hcount]
    rw [visitEach_eq_foldl, hs.keyed.refs_eq]
  · rw [iterate, hcount]
  · rw [hs.keyed.mem_ids, hs.live, mem_calls, mem_calls]

/-- What is read from the first of two connections moves it behind the second, unless it closes. -/
example :
    let s := (start {} Handler.silent () .zero).operateAll
      [.accept .unspecifiedV4, .accept .unspecifiedV4, .handle (.read 1 [7]), .close 2,
        .handle (.read 2 [7])]
    s.roster.table.ids = [2, 1] := by decide +kernel

end NetSession.Server
