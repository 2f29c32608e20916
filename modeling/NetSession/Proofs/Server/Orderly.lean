import NetSession.Proofs.Server.InOrder

/-!
# Machines in order

`Machine.Orderly` is what holds of a machine at all times while its server runs: each connection is
in order, what was written down is in its due order (`Happening.Due`), and what the server is at has
only to do with live connections. `Orderly.quiet` is for steps that matter to no close, and
`Orderly.change` for those that bring one connection further on its way. Of these, `Orderly.calls`
is for the call of a callback, and `Orderly.ends` for what is done after one has returned.
-/

namespace NetSession.Server

variable {σ τ : Type}

/-- The connection that a callback is handed. -/
def Callback.connection? : Callback → Option ConnId
  | .accepted id | .received id _ | .closing id | .closed id => some id
  | .acceptFailed _ | .heartbeat _ _ => none

/-- A callback about the life of a connection is handed that connection. -/
theorem Callback.connection?_of_about {callback : Callback} {id : ConnId}
    (h : callback.about = some id) : callback.connection? = some id := by
  cases callback <;> first | exact h | exact nomatch h

/-- The connection that a report is about. -/
def Event.connection : Event → ConnId
  | .read id _ | .ended id _ | .closed id => id

/-- Only the last report of a task brings its connection further on its way. -/
theorem Event.about_reported (event : Event) :
    (Happening.reported event).about = none ∨
      (Happening.reported event).about = some event.connection := by
  cases event with
  | read | ended => exact .inl rfl
  | closed => exact .inr rfl

/-- The connections that a job has references to. -/
def Job.connections : Job → List ConnId
  | .visit _ | .count => []
  | .disconnect id | .sayEvicted id => [id]
  | .disconnectEach ids _ | .evictEach ids => ids

/-- What must have happened before something happens, and what must not. -/
def Happening.Due (past : List Happening) : Happening → Prop
  | .called (.closing id) => .called (.closing id) ∉ past
  | .called (.closed id) =>
    .called (.closed id) ∉ past ∧ .returned (.closing id) ∈ past ∧
      past.count (.called (.closing id)) = 1
  | .shut id => .returned (.closing id) ∈ past
  | .reported event => .reported (.closed event.connection) ∉ past
  | _ => True

/-- Everything in a trace has happened in its due order. -/
def InDueOrder (trace : List Happening) : Prop :=
  ∀ past h future, trace = past ++ h :: future → h.Due past

/-- One more thing happens when it is due. -/
theorem InDueOrder.concat {trace : List Happening} (htrace : InDueOrder trace) {h : Happening}
    (hdue : h.Due trace) : InDueOrder (trace ++ [h]) := by
  intro past h' future heq
  -- Either the last thing is meant, or one that has happened before.
  rcases List.eq_nil_or_concat future with rfl | ⟨front, last, rfl⟩
  · obtain ⟨rfl, hlast⟩ := List.append_inj' heq rfl
    obtain rfl := List.cons.inj hlast |>.1
    exact hdue
  · rw [List.concat_eq_append, ← List.cons_append, ← List.append_assoc] at heq
    obtain ⟨hfront, -⟩ := List.append_inj' heq rfl
    exact htrace _ _ _ hfront

/-- What has nothing to do with a close is always due. -/
theorem Happening.due_of_isQuiet {h : Happening} (hquiet : h.isQuiet) (past : List Happening) :
    h.Due past := by
  cases h with
  | called callback => cases callback <;> first | exact trivial | exact nomatch hquiet
  | shut | reported => exact nomatch hquiet
  | returned | sent | asked | said | wrote => exact trivial

/-- What has nothing to do with a close is about no connection's close. -/
theorem Happening.about_of_isQuiet {h : Happening} (hquiet : h.isQuiet) : h.about = none := by
  cases h with
  | called callback | returned callback => exact Option.isNone_iff_eq_none.mp hquiet
  | shut | reported => exact nomatch hquiet
  | sent | asked | said | wrote => rfl

/-- More happens that is due whatever else happens. -/
theorem InDueOrder.append {trace l : List Happening} (htrace : InDueOrder trace)
    (hdue : ∀ h ∈ l, ∀ more, h.Due (trace ++ more)) : InDueOrder (trace ++ l) := by
  induction l generalizing trace with
  | nil => rwa [List.append_nil]
  | cons h l ih =>
    rw [← List.singleton_append, ← List.append_assoc]
    apply ih
    · apply htrace.concat
      simpa only [List.append_nil] using hdue h List.mem_cons_self []
    · intro h' hmem more
      rw [List.append_assoc]
      exact hdue h' (List.mem_cons_of_mem _ hmem) _

/-- More that has nothing to do with a close happens. -/
theorem InDueOrder.append_quiet {trace l : List Happening} (htrace : InDueOrder trace)
    (hquiet : ∀ h ∈ l, h.isQuiet) : InDueOrder (trace ++ l) :=
  htrace.append fun h hmem _ => Happening.due_of_isQuiet (hquiet h hmem) _

namespace Machine

/-- What was written down. -/
abbrev trace (m : Machine σ) : List Happening := m.server.trace

/-- What one sees of a connection. -/
abbrev view (m : Machine σ) (id : ConnId) : View := m.system.view id

/-- Whether what the server is at has a reference to a connection. -/
def Holds (m : Machine σ) (id : ConnId) : Prop :=
  (∃ job ∈ m.jobs, id ∈ job.connections) ∨
    ∃ callback b, m.stage.tag = some (callback, b) ∧ callback.connection? = some id

/-- What holds of a machine while its server runs. -/
structure Orderly (m : Machine σ) : Prop where
  /-- The table is sound. -/
  sound : m.server.roster.table.Sound
  /-- No number was used that is not given yet. -/
  below : ∀ id, (m.view id).mark ≠ none → id < m.server.nextId
  /-- Each connection is in order. -/
  view : ∀ id, (m.view id).InOrder id m.stage.tag m.trace
  /-- All has happened in its due order. -/
  due : InDueOrder m.trace
  /-- The server is at live connections only. -/
  holds : ∀ {id : ConnId}, m.Holds id → (m.view id).live ≠ none
  /-- It is at nothing else when a connection is closed. -/
  alone : ∀ {id : ConnId} {b : Bool}, m.stage.tag = some (.closed id, b) → m.jobs = []

variable {m m' : Machine σ}

/-- A step that matters to no close keeps a machine orderly. -/
theorem Orderly.quiet (h : m.Orderly) (hserver : Quiet m.server m'.server)
    (hphase : ∀ id, (m'.view id).phase = (m.view id).phase)
    (hmail : ∀ id, (m'.view id).mail = (m.view id).mail) (htag : m'.stage.tag = m.stage.tag)
    (hjobs : ∀ job ∈ m'.jobs, ∀ id ∈ job.connections, (m.view id).live ≠ none)
    (halone : ∀ id b, m.stage.tag = some (.closed id, b) → m'.jobs = []) : m'.Orderly := by
  obtain ⟨l, htrace, hquiet⟩ := hserver.trace
  -- One sees the same of every connection.
  have hview (id : ConnId) : m'.view id = m.view id :=
    View.ext (hserver.mark id) (hserver.get? id) (hphase id)
      (congrArg (List.count id) hserver.tasks) (hmail id)
  constructor
  · exact hserver.sound h.sound
  · intro id
    rw [hview, hserver.nextId]
    exact h.below id
  · intro id
    rw [hview, htag, trace, htrace]
    apply (h.view id).frame _ (.inl rfl)
    intro e he
    rw [Happening.about_of_isQuiet (hquiet e he)]
    exact nofun
  · rw [trace, htrace]
    exact h.due.append_quiet hquiet
  · intro id hholds
    rw [hview]
    rcases hholds with ⟨job, hjob, hmem⟩ | hstage
    · exact hjobs job hjob id hmem
    · rw [htag] at hstage
      exact h.holds (.inr hstage)
  · intro id b
    rw [htag]
    exact halone id b

/-- A tag names a callback about no connection but this one. -/
def Within (about : Option ConnId) (tag : Option (Callback × Bool)) : Prop :=
  ∀ callback b, tag = some (callback, b) → callback.about = none ∨ callback.about = about

/-- A step that brings at most one connection further on its way keeps a machine orderly if that
connection stays in order, and what happens is due. -/
theorem Orderly.change (h : m.Orderly) (about : Option ConnId) {l : List Happening}
    (hsound : m'.server.roster.table.Sound) (hnext : m.server.nextId ≤ m'.server.nextId)
    (htrace : m'.trace = m.trace ++ l)
    (habout : ∀ e ∈ l, e.about = none ∨ e.about = about)
    (hother : ∀ id, about ≠ some id → m'.view id = m.view id)
    (htag : m'.stage.tag = m.stage.tag ∨ Within about m.stage.tag ∧ Within about m'.stage.tag)
    (hview : ∀ id, about = some id →
      ((m'.view id).mark ≠ none → id < m'.server.nextId) ∧
        (m'.view id).InOrder id m'.stage.tag m'.trace)
    (hdue : InDueOrder m'.trace)
    (hholds : ∀ id, m'.Holds id → (m'.view id).live ≠ none)
    (halone : ∀ id b, m'.stage.tag = some (.closed id, b) → m'.jobs = []) : m'.Orderly := by
  -- For all other connections, what happens is a step of others.
  have helsewhere {tag : Option (Callback × Bool)} (hwithin : Within about tag) {id : ConnId}
      (hid : about ≠ some id) : View.Elsewhere id tag := by
    intro callback b heq hcallback
    rcases hwithin callback b heq with hnone | hsome
    · exact nomatch hnone.symm.trans hcallback
    · exact hid (hsome.symm.trans hcallback)
  constructor
  · exact hsound
  · intro id
    by_cases hid : about = some id
    · exact (hview id hid).1
    · rw [hother id hid]
      exact fun hmark => Nat.lt_of_lt_of_le (h.below id hmark) hnext
  · intro id
    by_cases hid : about = some id
    · exact (hview id hid).2
    · rw [hother id hid, htrace]
      apply (h.view id).frame
      · intro e he heq
        rcases habout e he with hnone | hsome
        · exact nomatch hnone.symm.trans heq
        · exact hid (hsome.symm.trans heq)
      · exact htag.imp_right fun ⟨hold, hnew⟩ => ⟨helsewhere hold hid, helsewhere hnew hid⟩
  · exact hdue
  · exact hholds _
  · exact halone _ _

/-- A callback about the life of a connection is called. The server was free, and has written down
nothing that matters before. -/
theorem Orderly.calls (h : m.Orderly) (hfree : m.stage = .free) {callback : Callback}
    {rest : Reaction σ} {id : ConnId} {l : List Happening}
    (hstage : m'.stage = .running callback rest) (habout : callback.about = some id)
    (hsound : m'.server.roster.table.Sound) (hnext : m.server.nextId ≤ m'.server.nextId)
    (htrace : m'.trace = m.trace ++ l ++ [.called callback]) (hquiet : ∀ e ∈ l, e.isQuiet)
    (hother : ∀ id', id' ≠ id → m'.view id' = m.view id')
    (hbelow : (m'.view id).mark ≠ none → id < m'.server.nextId)
    (hview : (m.view id).InOrder id none (m.trace ++ l) →
      (m'.view id).InOrder id (some (callback, false)) (m.trace ++ l ++ [.called callback]))
    (hdue : Happening.Due (m.trace ++ l) (.called callback))
    (hlive : (m'.view id).live ≠ none)
    (hjobs : ∀ job ∈ m'.jobs, ∀ id' ∈ job.connections, (m'.view id').live ≠ none)
    (halone : callback = .closed id → m'.jobs = []) : m'.Orderly := by
  have htag : m'.stage.tag = some (callback, false) := by
    rw [hstage]
    rfl
  have hnone {e : Happening} (he : e ∈ l) : e.about = none :=
    Happening.about_of_isQuiet (hquiet e he)
  apply h.change (some id) (l := l ++ [.called callback]) hsound hnext
  · rw [htrace, List.append_assoc]
  · intro e he
    rcases List.mem_append.mp he with he | he
    · exact .inl (hnone he)
    · rw [List.mem_singleton.mp he]
      exact .inr habout
  · exact fun id' hne => hother id' fun heq => hne (by rw [heq])
  · right
    rw [htag, hfree]
    refine ⟨nofun, ?_⟩
    rintro _ _ ⟨⟩
    exact .inr habout
  · -- The connection is in order before the call, whatever was said.
    rintro _ ⟨⟩
    have hid := h.view id
    rw [hfree] at hid
    rw [htag, htrace]
    refine ⟨hbelow, hview (hid.frame (fun e he => ?_) (.inl rfl))⟩
    rw [hnone he]
    exact nofun
  · rw [htrace]
    exact (h.due.append_quiet hquiet).concat hdue
  · rintro id' (⟨job, hjob, hmem⟩ | ⟨callback', b, heq, hconnection⟩)
    · exact hjobs job hjob id' hmem
    · rw [htag] at heq
      obtain ⟨rfl, -⟩ := Prod.mk.inj (Option.some.inj heq)
      rw [Callback.connection?_of_about habout] at hconnection
      exact Option.some.inj hconnection ▸ hlive
  · intro id' b heq
    rw [htag] at heq
    obtain ⟨rfl, -⟩ := Prod.mk.inj (Option.some.inj heq)
    exact halone (by rw [Option.some.inj habout])

/-- What a callback about the life of a connection was called for is done. The server is free
again. -/
theorem Orderly.ends (h : m.Orderly) {callback : Callback} {id : ConnId}
    (hstage : m.stage = .returned callback) (habout : callback.about = some id)
    (hfree : m'.stage = .free) (hsound : m'.server.roster.table.Sound)
    (hnext : m'.server.nextId = m.server.nextId) {l : List Happening}
    (htrace : m'.trace = m.trace ++ l) (hquiet : ∀ e ∈ l, e.isQuiet)
    (hother : ∀ id', id' ≠ id → m'.view id' = m.view id')
    (hmark : (m'.view id).mark ≠ none → (m.view id).mark ≠ none)
    (hview : (m.view id).InOrder id (some (callback, true)) m.trace →
      (m'.view id).InOrder id none m.trace)
    (hjobs : ∀ job ∈ m'.jobs, ∀ id' ∈ job.connections, (m'.view id').live ≠ none) :
    m'.Orderly := by
  have htag : m.stage.tag = some (callback, true) := by
    rw [hstage]
    rfl
  have htag' : m'.stage.tag = none := by
    rw [hfree]
    rfl
  have hnone {e : Happening} (he : e ∈ l) : e.about = none :=
    Happening.about_of_isQuiet (hquiet e he)
  apply h.change (some id) hsound (Nat.le_of_eq hnext.symm) htrace
  · exact fun e he => .inl (hnone he)
  · exact fun id' hne => hother id' fun heq => hne (by rw [heq])
  · right
    rw [htag, htag']
    refine ⟨?_, nofun⟩
    rintro _ _ ⟨⟩
    exact .inr habout
  · -- What was said meanwhile is not about the connection, so only the end of its turn counts.
    rintro _ ⟨⟩
    have hid := h.view id
    rw [htag] at hid
    rw [htag', htrace, hnext]
    refine ⟨fun hne => h.below id (hmark hne), (hview hid).frame (fun e he => ?_) (.inl rfl)⟩
    rw [hnone he]
    exact nofun
  · rw [htrace]
    exact h.due.append_quiet hquiet
  · rintro id' (⟨job, hjob, hmem⟩ | ⟨_, _, heq, -⟩)
    · exact hjobs job hjob id' hmem
    · rw [htag'] at heq
      exact nomatch heq
  · -- No callback is under way any more that could be alone.
    intro _ _ heq
    rw [htag'] at heq
    exact nomatch heq

end Machine

end NetSession.Server
