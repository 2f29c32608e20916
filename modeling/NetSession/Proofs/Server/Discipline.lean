import NetSession.Proofs.Past
import NetSession.Proofs.Server.Orderly
import NetSession.Proofs.Server.Sweep

/-!
# What a server calls, and when

Whatever a server is told about its connections, in whatever order, it keeps a discipline in what it
calls (`callbacks_keep_discipline`): a connection is announced once, with a number that no other
has, before anything else is called for it; it is said to close at most once and to be closed at
most once; nothing that was read is handed over once it closes; nothing is called for it once it is
closed; and nothing can be sent on it once it is said to close.

`Disciplined` is the invariant. Each change keeps it (`Disciplined.change`), so all operations do.
-/

namespace NetSession.Server

variable {σ : Type}

/-- Whether a callback may be called when some were called before. -/
def Callback.Allowed (before : Callback → Prop) : Callback → Prop
  | .accepted id => ∀ callback, callback.connection? = some id → ¬ before callback
  | .received id _ | .closing id =>
    before (.accepted id) ∧ ¬ before (.closing id) ∧ ¬ before (.closed id)
  | .closed id => before (.accepted id) ∧ ¬ before (.closed id)
  | .acceptFailed _ | .heartbeat _ _ => True

/-- Whether something may happen when some things have happened before. -/
def Happening.Allowed (past : List Happening) : Happening → Prop
  | .called callback => callback.Allowed (.called · ∈ past)
  | .sent id _ ok => .called (.closing id) ∈ past → ok = false
  | _ => True

/-- The connection that is announced. -/
def Happening.accepted? : Happening → Option ConnId
  | .called (.accepted id) => some id
  | _ => none

/-- The connections that were announced, in order. -/
def acceptances (trace : List Happening) : List ConnId := trace.filterMap Happening.accepted?

/-- What was written down fits the table and the marks of connections, and all of it was allowed. -/
structure Disciplined (s : Server σ) : Prop where
  /-- The table has connections under their numbers. -/
  keyed : s.roster.table.Keyed
  /-- Numbers start with one. -/
  positive : 0 < s.nextId
  /-- Connections were announced by ascending numbers, and none was left out. -/
  numbered : acceptances s.trace = List.range' 1 (s.nextId - 1)
  /-- There are the connections that were announced. -/
  known : ∀ id, s.pool.get? id ≠ none ↔ .called (.accepted id) ∈ s.trace
  /-- The closing callback is called for those that are marked. -/
  closing : ∀ id, s.pool.isClosing id ↔ .called (.closing id) ∈ s.trace
  /-- A connection is live from its announcement until its closed callback. -/
  live : ∀ id, s.roster.table.get? id ≠ none ↔
    .called (.accepted id) ∈ s.trace ∧ .called (.closed id) ∉ s.trace
  /-- All that happened was allowed. -/
  allowed : EachAfter Happening.Allowed s.trace

/-! ## What is minor -/

section Minor

variable {pool : Pool} {trace l : List Happening}

/-- Nothing minor is a call of a callback. -/
theorem called_mem_append_iff (hl : ∀ e ∈ l, e.IsMinor pool) {callback : Callback} :
    .called callback ∈ trace ++ l ↔ .called callback ∈ trace := by
  rw [List.mem_append, or_iff_left]
  exact fun hmem => hl _ hmem

/-- Nothing minor announces a connection. -/
theorem acceptances_append (hl : ∀ e ∈ l, e.IsMinor pool) :
    acceptances (trace ++ l) = acceptances trace := by
  have hnone : acceptances l = [] := by
    apply filterMap_minor hl
    intro e he
    cases e with
    | called callback => exact absurd rfl (he callback)
    | returned | sent | asked | said | wrote | shut | reported => rfl
  unfold acceptances at hnone ⊢
  rw [List.filterMap_append, hnone, List.append_nil]

/-- What is minor is allowed, as long as the closing callback is called for marked connections. -/
theorem allowed_append (h : EachAfter Happening.Allowed trace) (hl : ∀ e ∈ l, e.IsMinor pool)
    (hclosing : ∀ id, .called (.closing id) ∈ trace → pool.isClosing id = true) :
    EachAfter Happening.Allowed (trace ++ l) := by
  apply h.append
  rintro past e future rfl
  have he := hl e (List.mem_append_right past List.mem_cons_self)
  cases e with
  | called => exact he.elim
  | sent id data ok =>
    intro hmem
    have hpast : ∀ e ∈ past, e.IsMinor pool := fun e hmem => hl e (List.mem_append_left _ hmem)
    exact he (hclosing id ((called_mem_append_iff hpast).mp hmem))
  | returned | asked | said | wrote | shut | reported => trivial

end Minor

/-! ## What follows from the discipline -/

section Trace

variable {trace : List Happening}

/-- Whoever is called about was announced, now or before. -/
theorem accepted_of_called (h : EachAfter Happening.Allowed trace) {callback : Callback}
    {id : ConnId} (hcalled : .called callback ∈ trace) (hid : callback.connection? = some id) :
    .called (.accepted id) ∈ trace := by
  obtain ⟨past, future, rfl⟩ := List.append_of_mem hcalled
  have hallowed := h past _ future rfl
  cases callback with
  | accepted =>
    obtain rfl := Option.some.inj hid
    exact hcalled
  | received | closing | closed =>
    obtain rfl := Option.some.inj hid
    exact List.mem_append_left _ hallowed.1
  | acceptFailed | heartbeat => exact nomatch hid

/-- The announcements of a connection are counted in the list of announced connections. -/
theorem count_accepted (trace : List Happening) (id : ConnId) :
    trace.count (.called (.accepted id)) = (acceptances trace).count id := by
  unfold acceptances
  induction trace with
  | nil => rfl
  | cons e trace ih =>
    cases he : e.accepted? with
    | none =>
      have hne : e ≠ .called (.accepted id) := by
        rintro rfl
        exact nomatch he
      rw [List.filterMap_cons, he, List.count_cons_of_ne hne, ih]
    | some id' =>
      have heq : e = .called (.accepted id') := by
        unfold Happening.accepted? at he
        split at he
        · rw [Option.some.inj he]
        · exact nomatch he
      rw [List.filterMap_cons, he, List.count_cons, List.count_cons, ih, heq]
      simp only [beq_iff_eq, Happening.called.injEq, Callback.accepted.injEq]

/-- Who was announced is in the list of announced connections. -/
theorem mem_acceptances {id : ConnId} :
    id ∈ acceptances trace ↔ .called (.accepted id) ∈ trace := by
  rw [← List.count_pos_iff, ← count_accepted, List.count_pos_iff]

end Trace

namespace Disciplined

variable {s s' : Server σ}

/-- Who was announced has a number that was given. -/
theorem accepted_iff (h : s.Disciplined) (id : ConnId) :
    .called (.accepted id) ∈ s.trace ↔ 0 < id ∧ id < s.nextId := by
  rw [← mem_acceptances, h.numbered, List.mem_range'_1, Nat.add_sub_cancel' h.positive]
  exact Iff.rfl

/-- A live connection is there. -/
theorem outline_of_mem_ids (h : s.Disciplined) {id : ConnId} (hid : id ∈ s.roster.table.ids) :
    s.pool.outline id ≠ none := by
  rw [h.keyed.mem_ids, h.live] at hid
  exact Pool.outline_ne_none.mpr ((h.known id).mpr hid.1)

/-! ## Changes -/

/-- A server that was just started has written down nothing. -/
theorem start (config : ServerConfig) (handler : Handler σ) (memory : σ) (now : Instant) :
    (start config handler memory now).Disciplined := by
  have hget (id : ConnId) : (Server.start config handler memory now).pool.get? id = none :=
    Std.TreeMap.getElem?_emptyc
  have hlive (id : ConnId) :
      (Server.start config handler memory now).roster.table.get? id = none := by
    change ((∅ : Std.TreeMap ConnId Table.Entry)[id]?).map (·.ref) = none
    rw [Std.TreeMap.getElem?_emptyc]
    rfl
  have htrace : (Server.start config handler memory now).trace = [] := rfl
  constructor
  · refine ⟨Table.sound_empty, fun hfound => ?_⟩
    exact nomatch (hlive _).symm.trans hfound
  · exact Nat.one_pos
  · rfl
  · intro id
    simp [hget, htrace]
  · intro id
    simp [Pool.isClosing, hget, htrace]
  · intro id
    simp [hlive, htrace]
  · exact EachAfter.nil

/-- What is minor, and changes neither the table nor any mark, keeps the discipline. -/
theorem minor (h : s.Disciplined) (htable : s'.roster.table = s.roster.table)
    (hnext : s'.nextId = s.nextId)
    (hknown : ∀ id, s'.pool.get? id ≠ none ↔ s.pool.get? id ≠ none)
    (hclosing : ∀ id, s'.pool.isClosing id = s.pool.isClosing id)
    (htrace : ∃ l, s'.trace = s.trace ++ l ∧ ∀ e ∈ l, e.IsMinor s.pool) : s'.Disciplined := by
  obtain ⟨l, htrace, hl⟩ := htrace
  constructor
  · rw [htable]
    exact h.keyed
  · rw [hnext]
    exact h.positive
  · rw [htrace, acceptances_append hl, hnext]
    exact h.numbered
  · intro id
    rw [hknown, htrace, called_mem_append_iff hl]
    exact h.known id
  · intro id
    rw [hclosing, htrace, called_mem_append_iff hl]
    exact h.closing id
  · intro id
    rw [htable, htrace, called_mem_append_iff hl, called_mem_append_iff hl]
    exact h.live id
  · rw [htrace]
    exact allowed_append h.allowed hl fun id => (h.closing id).mpr

/-- A callback that is allowed keeps the discipline, if the table, the marks and the next number
change as they must. -/
theorem call (h : s.Disciplined) {callback : Callback} {l : List Happening}
    (htrace : s'.trace = s.trace ++ l ++ [.called callback]) (hl : ∀ e ∈ l, e.IsMinor s.pool)
    (hallowed : callback.Allowed (.called · ∈ s.trace)) (hkeyed : s'.roster.table.Keyed)
    (hpositive : 0 < s'.nextId)
    (hnumbered : List.range' 1 (s.nextId - 1) ++ acceptances [.called callback] =
      List.range' 1 (s'.nextId - 1))
    (hknown : ∀ id, s'.pool.get? id ≠ none ↔ s.pool.get? id ≠ none ∨ callback = .accepted id)
    (hclosing : ∀ id, s'.pool.isClosing id ↔ s.pool.isClosing id ∨ callback = .closing id)
    (hlive : ∀ id, s'.roster.table.get? id ≠ none ↔
      (s.roster.table.get? id ≠ none ∨ callback = .accepted id) ∧ callback ≠ .closed id) :
    s'.Disciplined := by
  have hmem (callback' : Callback) :
      .called callback' ∈ s'.trace ↔ .called callback' ∈ s.trace ∨ callback = callback' := by
    rw [htrace, List.mem_append, called_mem_append_iff hl, List.mem_singleton,
      Happening.called.injEq, eq_comm (a := callback')]
  constructor
  · exact hkeyed
  · exact hpositive
  · rw [htrace, acceptances, List.filterMap_append, ← acceptances, ← acceptances,
      acceptances_append hl, h.numbered]
    exact hnumbered
  · intro id
    rw [hknown, hmem, h.known]
  · intro id
    rw [hclosing, hmem, h.closing]
  · intro id
    rw [hlive, hmem, hmem, h.live]
    -- A connection that is announced now was not closed before.
    have hnew : callback = .accepted id → .called (.closed id) ∉ s.trace := by
      rintro rfl
      exact hallowed (.closed id) rfl
    tauto
  · rw [htrace]
    apply EachAfter.concat
    · exact allowed_append h.allowed hl fun id => (h.closing id).mpr
    · have hsame : (fun callback => Happening.called callback ∈ s.trace ++ l) =
          fun callback => Happening.called callback ∈ s.trace := by
        funext callback
        exact propext (called_mem_append_iff hl)
      change callback.Allowed fun callback => Happening.called callback ∈ s.trace ++ l
      rw [hsame]
      exact hallowed

/-- A live connection that has not begun to close may be called about. -/
theorem allowed_of_isOpen (h : s.Disciplined) {id : ConnId}
    (hlive : s.roster.table.get? id ≠ none) (hopen : s.pool.isOpen id) :
    .called (.accepted id) ∈ s.trace ∧ .called (.closing id) ∉ s.trace ∧
      .called (.closed id) ∉ s.trace := by
  obtain ⟨haccepted, hclosed⟩ := (h.live id).mp hlive
  refine ⟨haccepted, fun hmem => ?_, hclosed⟩
  have hclosing := (h.closing id).mpr hmem
  rw [Pool.isClosing_of_isOpen hopen] at hclosing
  exact nomatch hclosing

/-- A steady change keeps the discipline. -/
theorem steady (h : s.Disciplined) (hsteady : Steady s s') : s'.Disciplined := by
  apply h.minor hsteady.table hsteady.nextId _ hsteady.isClosing hsteady.trace
  intro id
  rw [← Pool.outline_ne_none, hsteady.outline, Pool.outline_ne_none]

/-- A callback about no connection keeps the discipline. -/
theorem announce (h : s.Disciplined) {callback : Callback} {l : List Happening}
    (hcallback : callback.connection? = none)
    (htrace : s'.trace = s.trace ++ l ++ [.called callback])
    (hl : ∀ e ∈ l, e.IsMinor s.pool) (hpool : s'.pool = s.pool)
    (htable : s'.roster.table = s.roster.table) (hnext : s'.nextId = s.nextId) :
    s'.Disciplined := by
  have hnone {id : ConnId} {callback' : Callback} (hid : callback'.connection? = some id) :
      callback ≠ callback' := by
    rintro rfl
    exact nomatch hcallback.symm.trans hid
  have hallowed : callback.Allowed (.called · ∈ s.trace) ∧ acceptances [.called callback] = [] := by
    cases callback with
    | acceptFailed | heartbeat => exact ⟨trivial, rfl⟩
    | accepted | received | closing | closed => exact nomatch hcallback
  apply h.call htrace hl hallowed.1
  · rw [htable]
    exact h.keyed
  · rw [hnext]
    exact h.positive
  · rw [hallowed.2, hnext, List.append_nil]
  · intro id
    rw [hpool, or_iff_left (hnone rfl)]
  · intro id
    rw [hpool, or_iff_left (hnone rfl)]
  · intro id
    rw [htable, or_iff_left (hnone rfl), and_iff_left (hnone rfl)]

/-- The announcement of a new connection keeps the discipline. -/
theorem accept (h : s.Disciplined) (peer : Endpoint) :
    ((s.enter peer).note (.called (.accepted s.nextId))).Disciplined := by
  obtain ⟨notice, htrace⟩ : ∃ notice, (s.enter peer).trace = s.trace ++ [.said notice] := ⟨_, rfl⟩
  have hnext : (s.enter peer).nextId = s.nextId + 1 := rfl
  have hnew {id : ConnId} : Callback.accepted s.nextId = .accepted id ↔ id = s.nextId := by
    rw [Callback.accepted.injEq, eq_comm]
  -- Nothing was called about the next number, which was not announced.
  have hblank (callback : Callback) (hid : callback.connection? = some s.nextId) :
      .called callback ∉ s.trace := by
    intro hcalled
    have haccepted := accepted_of_called h.allowed hcalled hid
    exact Nat.lt_irrefl _ ((h.accepted_iff _).mp haccepted).2
  apply h.call (l := [.said notice]) (congrArg (· ++ _) htrace)
  · simp [Happening.IsMinor]
  · exact hblank
  · change (s.enter peer).roster.table.Keyed
    rw [table_enter]
    exact h.keyed.insert s.nextId
  · exact Nat.succ_pos _
  · obtain ⟨n, hn⟩ := Nat.exists_eq_succ_of_ne_zero (Nat.ne_of_gt h.positive)
    change List.range' 1 (s.nextId - 1) ++ [s.nextId] = List.range' 1 (s.nextId + 1 - 1)
    rw [hn, Nat.add_sub_cancel, List.range'_concat, Nat.succ_sub_one, Nat.one_mul, Nat.add_comm 1 n]
  · intro id
    change (s.enter peer).pool.get? id ≠ none ↔ _
    rw [get?_enter, hnew]
    split <;> simp [*]
  · intro id
    change (s.enter peer).pool.isClosing id ↔ _
    unfold Pool.isClosing
    rw [get?_enter]
    split
    · next heq =>
      have hnone : s.pool.get? id = none := by
        by_contra hne
        exact hblank (.accepted s.nextId) rfl (heq ▸ (h.known id).mp hne)
      rw [hnone]
      simp [Connection.new]
    · simp
  · intro id
    change (s.enter peer).roster.table.get? id ≠ none ↔ _
    rw [table_enter, Table.get?_insert, hnew]
    split <;> simp [*]

/-- What was read from an open live connection is handed over, and the discipline is kept. -/
theorem receive (h : s.Disciplined) {id : ConnId} (data : Bytes)
    (hlive : s.roster.table.get? id ≠ none) (hopen : s.pool.isOpen id) :
    ((s.touch id).note (.called (.received id data))).Disciplined := by
  have htouch := touch_of_live h.keyed hlive
  rw [htouch]
  apply h.call (l := []) (by rw [List.append_nil]; rfl)
  · exact fun e he => absurd he List.not_mem_nil
  · exact h.allowed_of_isOpen hlive hopen
  · exact h.keyed.insert id
  · exact h.positive
  · exact List.append_nil _
  · intro id'
    refine (Pool.get?_modify_ne_none s.pool id id').trans ?_
    simp
  · intro id'
    have hsame := Pool.isClosing_modify (f := (·.stamp s.now)) s.pool id id' fun _ => rfl
    change (s.pool.modify id _).isClosing id' ↔ _
    rw [hsame]
    simp
  · intro id'
    change (s.roster.table.insert id id).get? id' ≠ none ↔ _
    rw [Table.get?_insert]
    split
    · next heq => simp [heq, hlive]
    · simp

/-- An open live connection is said to close, and the discipline is kept. -/
theorem close (h : s.Disciplined) {id : ConnId} (hlive : s.roster.table.get? id ≠ none)
    (hopen : s.pool.isOpen id) :
    ((s.setPool (s.pool.beginClose id).2).note (.called (.closing id))).Disciplined := by
  have houtline := Pool.outline_beginClose s.pool id
  apply h.call (l := []) (by rw [List.append_nil]; rfl)
  · exact fun e he => absurd he List.not_mem_nil
  · exact h.allowed_of_isOpen hlive hopen
  · exact h.keyed
  · exact h.positive
  · exact List.append_nil _
  · intro id'
    change (s.pool.beginClose id).2.get? id' ≠ none ↔ _
    rw [← Pool.outline_ne_none, houtline, ← Pool.outline_ne_none]
    split
    · next heq => simp [heq]
    · simp
  · intro id'
    change (s.pool.beginClose id).2.isClosing id' ↔ _
    rw [Pool.isClosing_eq, houtline, Pool.isClosing_eq, Callback.closing.injEq, eq_comm (a := id)]
    split
    · next heq =>
      -- There is a connection to be marked.
      have hsome := h.outline_of_mem_ids (h.keyed.mem_ids.mpr hlive)
      obtain ⟨c, hc⟩ := Option.ne_none_iff_exists'.mp hsome
      simp [heq, hc]
    · next hne => simp [hne]
  · intro id'
    change s.roster.table.get? id' ≠ none ↔ _
    simp

/-- A live connection is said to be closed and leaves the table, and the discipline is kept. -/
theorem release (h : s.Disciplined) {id : ConnId} (hlive : s.roster.table.get? id ≠ none) :
    ({ s with roster := (s.roster.remove id).2 }.note (.called (.closed id))).Disciplined := by
  apply h.call (l := []) (by rw [List.append_nil]; rfl)
  · exact fun e he => absurd he List.not_mem_nil
  · exact (h.live id).mp hlive
  · exact h.keyed.remove id
  · exact h.positive
  · exact List.append_nil _
  · intro id'
    change s.pool.get? id' ≠ none ↔ _
    simp
  · intro id'
    change s.pool.isClosing id' ↔ _
    simp
  · intro id'
    change (s.roster.table.remove id).2.get? id' ≠ none ↔ _
    rw [Table.get?_remove]
    split
    · next heq => simp [heq]
    · next hne => simp [Ne.symm hne]

/-- Every change keeps the discipline. -/
theorem change (h : s.Disciplined) (hchange : Change s s') : s'.Disciplined := by
  cases hchange with
  | steady hsteady => exact h.steady hsteady
  | refuse cause =>
    have htrace : (s.note (.called (.acceptFailed cause))).trace =
        s.trace ++ [] ++ [.called (.acceptFailed cause)] := by
      rw [List.append_nil]
      rfl
    refine h.announce rfl htrace ?_ rfl rfl rfl
    exact fun e he => absurd he List.not_mem_nil
  | receive id data hlive hopen => exact h.receive data hlive hopen
  | close id hlive hopen => exact h.close hlive hopen
  | release id hlive => exact h.release hlive
  | beat =>
    obtain ⟨notice, htrace⟩ : ∃ notice, s.beat.trace = s.trace ++ [.said notice] := ⟨_, rfl⟩
    refine h.announce rfl (congrArg (· ++ [_]) htrace) ?_ rfl rfl rfl
    simp [Happening.IsMinor]
  | relink id f =>
    refine h.minor rfl rfl ?_ ?_ (Steady.refl s).trace
    · exact Pool.get?_modify_ne_none s.pool id
    · exact fun id' => Pool.isClosing_modify s.pool id id' fun _ => rfl

/-- Some changes keep the discipline. -/
theorem changes (h : s.Disciplined) (hchanges : Changes s s') : s'.Disciplined := by
  induction hchanges with
  | refl => exact h
  | tail _ hchange ih => exact ih.change hchange

/-- Every operation keeps the discipline. -/
theorem operate (h : s.Disciplined) (operation : Operation) :
    (s.operate operation).Disciplined := by
  rcases operate_cases h.keyed operation with ⟨peer, rfl⟩ | ⟨d, rfl⟩ | ⟨-, hchanges⟩
  · exact (h.accept peer).steady (steady_call _ _)
  · exact { h with }
  · exact h.changes hchanges

/-- All operations keep the discipline. -/
theorem operateAll (h : s.Disciplined) (operations : List Operation) :
    (s.operateAll operations).Disciplined := by
  induction operations generalizing s with
  | nil => exact h
  | cons operation operations ih => exact ih (h.operate operation)

/-- Only the arrival of a new connection takes a number. -/
theorem nextId_operate (h : s.Disciplined) (operation : Operation) :
    (s.operate operation).nextId = s.nextId + if operation.isAccept then 1 else 0 := by
  rcases operate_cases h.keyed operation with ⟨peer, rfl⟩ | ⟨d, rfl⟩ | ⟨hnone, hchanges⟩
  · exact (steady_call (s.enter peer) (.accepted s.nextId)).nextId
  · rfl
  · rw [hnone]
    exact hchanges.nextId

/-- As many numbers are given as there are new connections. -/
theorem nextId_operateAll (h : s.Disciplined) (operations : List Operation) :
    (s.operateAll operations).nextId = s.nextId + operations.countP Operation.isAccept := by
  induction operations generalizing s with
  | nil => rfl
  | cons operation operations ih =>
    have htail := ih (h.operate operation)
    rw [h.nextId_operate operation] at htail
    rw [List.countP_cons, Nat.add_comm (operations.countP _), ← Nat.add_assoc]
    exact htail

end Disciplined

end NetSession.Server
