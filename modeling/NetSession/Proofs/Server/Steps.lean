import NetSession.Proofs.Server.Changes
import NetSession.Proofs.Server.Orderly

/-!
# Steps that keep a machine orderly

One theorem for each thing that a server does in a small step.
-/

namespace NetSession.Server

variable {σ : Type}

/-! ## What a server does to a connection -/

/-- A new connection is not marked. -/
theorem mark_enter (s : Server σ) (peer : Endpoint) (id : ConnId) :
    (s.enter peer).pool.mark id =
      if id = s.nextId then some (false, false) else s.pool.mark id := by
  rw [Pool.mark, get?_enter]
  split <;> rfl

/-- The mark of a connection that its task is told to stop. -/
theorem mark_signalStop (s : Server σ) (id id' : ConnId) :
    (s.signalStop id).pool.mark id' =
      if id' = id then (s.pool.mark id).map fun mark => (mark.1, true) else s.pool.mark id' := by
  simp only [signalStop, setPool, pool, Pool.mark, Pool.get?_modify]
  split
  · cases s.roster.pool.get? id <;> rfl
  · rfl

/-- The first time that a connection begins to close, it is marked. -/
theorem mark_beginClose {pool : Pool} {id : ConnId} (h : (pool.beginClose id).1 = true) :
    ∃ stopped, pool.mark id = some (false, stopped) ∧
      ∀ id', (pool.beginClose id).2.mark id' =
        if id' = id then some (true, stopped) else pool.mark id' := by
  rw [Pool.beginClose] at h ⊢
  cases hget : pool.get? id with
  | none => simp only [hget, Bool.false_eq_true] at h
  | some c =>
    simp only [hget, Connection.beginClose, Bool.not_eq_true'] at h
    refine ⟨c.link.stop, by rw [Pool.mark, hget, ← h]; rfl, fun id' => ?_⟩
    simp only [Connection.beginClose, Pool.mark_set]

namespace Machine

variable {m m' : Machine σ}

/-- A callback that is not about the life of a connection is called. -/
theorem Orderly.call (h : m.Orderly) (hfree : m.stage = .free) {callback : Callback}
    (habout : callback.about = none)
    (hlive : ∀ id, callback.connection? = some id → (m.view id).live ≠ none) :
    (m.call callback).Orderly := by
  apply h.change none (l := [.called callback])
  · exact h.sound
  · exact Nat.le_refl _
  · rfl
  · intro e he
    rw [List.mem_singleton.mp he]
    exact .inl habout
  · exact fun _ _ => rfl
  · right
    rw [hfree]
    refine ⟨nofun, ?_⟩
    rintro _ _ ⟨⟩
    exact .inl habout
  · exact nofun
  · apply h.due.concat (Happening.due_of_isQuiet _ _)
    rw [Happening.isQuiet, habout]
    rfl
  · rintro id (hjob | ⟨_, _, ⟨⟩, hconnection⟩)
    · exact h.holds (.inl hjob)
    · exact hlive id hconnection
  · rintro id _ ⟨⟩
    exact nomatch habout

/-- What one sees of connections once there is a new one. -/
theorem view_enter (m : Machine σ) (peer : Endpoint) (id : ConnId) :
    (m.setServer (m.server.enter peer)).view id =
      if id = m.server.nextId then
        { m.view id with
          mark := some (false, false), live := some id, tasks := (m.view id).tasks + 1 }
      else m.view id := by
  have hlive : ((m.setServer (m.server.enter peer)).view id).live =
      if id = m.server.nextId then some m.server.nextId else (m.view id).live := by
    change (m.server.enter peer).roster.table.get? id = _
    rw [table_enter, Table.get?_insert]
    rfl
  have htasks : ((m.setServer (m.server.enter peer)).view id).tasks =
      if id = m.server.nextId then (m.view id).tasks + 1 else (m.view id).tasks := by
    change (m.server.nextId :: m.server.tasks).count id = _
    split
    · next heq => rw [heq, List.count_cons_self]; rfl
    · next hne => exact List.count_cons_of_ne (Ne.symm hne)
  have hmark := mark_enter m.server peer id
  split at hmark
  · next heq =>
    rw [if_pos heq] at hlive htasks
    rw [if_pos heq]
    exact View.ext hmark (heq ▸ hlive) rfl htasks rfl
  · next hne =>
    rw [if_neg hne] at hlive htasks
    rw [if_neg hne]
    exact View.ext hmark hlive rfl htasks rfl

/-- A connection is accepted. -/
theorem Orderly.accept (h : m.Orderly) (hfree : m.stage = .free) (hjobs : m.jobs = [])
    (peer : Endpoint) :
    ((m.setServer (m.server.enter peer)).call (.accepted m.server.nextId)).Orderly := by
  obtain ⟨notice, htrace⟩ : ∃ notice, (m.server.enter peer).trace = m.trace ++ [.said notice] :=
    ⟨_, rfl⟩
  -- The next number was not used before.
  have hmark : (m.view m.server.nextId).mark = none := by
    by_contra hmark
    exact Nat.lt_irrefl _ (h.below _ hmark)
  have hnew := view_enter m peer m.server.nextId
  rw [if_pos rfl, ((h.view _).blank hmark).2.2.1] at hnew
  apply h.calls hfree (l := [.said notice]) rfl rfl
  · change (m.server.enter peer).roster.table.Sound
    rw [table_enter]
    exact h.sound.insert _ _
  · exact Nat.le_succ _
  · exact congrArg (· ++ _) htrace
  · simp [Happening.isQuiet]
  · exact fun id hne => (view_enter m peer id).trans (if_neg hne)
  · exact fun _ => Nat.lt_succ_self _
  · exact fun hid => hnew ▸ hid.accept hmark
  · exact trivial
  · exact hnew ▸ Option.some_ne_none _
  · exact fun job hjob => absurd (hjobs ▸ hjob : job ∈ []) List.not_mem_nil
  · exact nofun

/-- What one sees of connections once one is marked as closing. -/
theorem view_disconnect (m : Machine σ) {id : ConnId} (jobs : Bool → List Job)
    (hfirst : (m.server.pool.beginClose id).1 = true) :
    ∃ stopped, (m.view id).mark = some (false, stopped) ∧ ∀ id', (m.disconnect id jobs).view id' =
      if id' = id then { m.view id with mark := some (true, stopped) } else m.view id' := by
  obtain ⟨stopped, hmark, hmarks⟩ := mark_beginClose hfirst
  refine ⟨stopped, hmark, fun id' => ?_⟩
  have hmark' := hmarks id'
  simp only [Machine.disconnect, hfirst, if_true]
  split at hmark'
  · next heq =>
    rw [if_pos heq]
    subst heq
    exact View.ext hmark' rfl rfl rfl rfl
  · next hne =>
    rw [if_neg hne]
    exact View.ext hmark' rfl rfl rfl rfl

/-- A connection begins to close, unless it has begun before. -/
theorem Orderly.disconnect (h : m.Orderly) (hfree : m.stage = .free) {id : ConnId}
    (hlive : (m.view id).live ≠ none) {jobs : Bool → List Job}
    (hjobs : ∀ first, ∀ job ∈ jobs first, ∀ id ∈ job.connections, (m.view id).live ≠ none) :
    (m.disconnect id jobs).Orderly := by
  cases hfirst : (m.server.pool.beginClose id).1 with
  | false =>
    -- It was marked before, and nothing is called.
    have heq : m.disconnect id jobs = { m with jobs := jobs false } := by
      simp only [Machine.disconnect, hfirst, Bool.false_eq_true, if_false]
    rw [heq]
    apply h.quiet
    · exact .refl _
    · exact fun _ => rfl
    · exact fun _ => rfl
    · rfl
    · exact hjobs false
    · rw [hfree]
      exact nofun
  | true =>
    -- It is marked now, and the closing callback is called.
    obtain ⟨stopped, hmark, hview⟩ := view_disconnect m jobs hfirst
    have hlives (id' : ConnId) : ((m.disconnect id jobs).view id').live = (m.view id').live := by
      rw [hview]
      split
      · next heq => rw [heq]
      · rfl
    have hid := h.view id
    have heq : m.disconnect id jobs =
        (({ m with jobs := jobs true } : Machine σ).setServer
          (m.server.setPool (m.server.pool.beginClose id).2)).call (.closing id) := by
      simp only [Machine.disconnect, hfirst, if_true]
    apply h.calls hfree (l := [])
    · rw [heq]
      rfl
    · rfl
    · rw [heq]
      exact h.sound
    · rw [heq]
      exact Nat.le_refl _
    · rw [heq, List.append_nil]
      rfl
    · exact fun e he => absurd he List.not_mem_nil
    · exact fun id' hne => (hview id').trans (if_neg hne)
    · rw [heq]
      exact fun _ => h.below id fun hnone => nomatch hnone.symm.trans hmark
    · rw [hview, if_pos rfl]
      exact fun hid => hid.close hmark
    · rw [List.append_nil]
      apply hid.not_closing
      rw [View.isClosing, hmark]
      rfl
    · rw [hlives]
      exact hlive
    · intro job hjob id' hmem
      rw [hlives]
      rw [heq] at hjob
      exact hjobs true job hjob id' hmem
    · intro hclosed
      cases hclosed

/-- The report that a socket is closed is taken in. -/
theorem Orderly.takeReport (h : m.Orderly) (hfree : m.stage = .free) (hjobs : m.jobs = [])
    {id : ConnId} {rest : List Event} (hevents : m.system.events = .closed id :: rest) :
    (({ m with system := { m.system with events := rest } } : Machine σ).call
      (.closed id)).Orderly := by
  -- One report less waits, of this connection.
  have hmail (id' : ConnId) :
      (m.view id').mail = rest.count (.closed id') + if id' = id then 1 else 0 := by
    change m.system.events.count (.closed id') = _
    rw [hevents, List.count_cons]
    simp only [beq_iff_eq, Event.closed.injEq, eq_comm (a := id')]
  have hpos : (m.view id).mail = rest.count (.closed id) + 1 := by
    rw [hmail, if_pos rfl]
  have hid := h.view id
  apply h.calls hfree (l := []) rfl rfl
  · exact h.sound
  · exact Nat.le_refl _
  · exact congrArg (· ++ _) (List.append_nil _).symm
  · exact fun e he => absurd he List.not_mem_nil
  · intro id' hne
    have hsame := hmail id'
    rw [if_neg hne] at hsame
    exact View.ext rfl rfl rfl rfl hsame.symm
  · exact h.below id
  · exact fun hid => hid.takeReport hpos
  · rw [List.append_nil]
    exact hid.due_of_mail (by omega)
  · exact (hid.live_of_mail (by omega)).2
  · exact fun job hjob => absurd (hjobs ▸ hjob : job ∈ []) List.not_mem_nil
  · exact fun _ => hjobs

/-- A callback returns. -/
theorem Orderly.return (h : m.Orderly) {callback : Callback} {reaction : Reaction σ}
    (hstage : m.stage = .running callback reaction) (memory : σ) :
    { m.setServer ({ m.server with memory := memory : Server σ }.note (.returned callback)) with
      stage := .returned callback : Machine σ }.Orderly := by
  have htag : m.stage.tag = some (callback, false) := by
    rw [hstage]
    rfl
  apply h.change callback.about (l := [.returned callback])
  · exact h.sound
  · exact Nat.le_refl _
  · rfl
  · intro e he
    rw [List.mem_singleton.mp he]
    exact .inr rfl
  · exact fun _ _ => rfl
  · right
    rw [htag]
    constructor <;> (rintro _ _ ⟨⟩; exact .inr rfl)
  · intro id hid
    have hview := h.view id
    rw [htag] at hview
    exact ⟨h.below id, hview.return⟩
  · exact h.due.concat trivial
  · rintro id (hjob | ⟨_, _, ⟨⟩, hconnection⟩)
    · exact h.holds (.inl hjob)
    · exact h.holds (.inr ⟨_, _, htag, hconnection⟩)
  · rintro id _ ⟨⟩
    exact h.alone htag

/-- A callback that is not about the life of a connection is over. -/
theorem Orderly.free (h : m.Orderly) {callback : Callback} (hstage : m.stage = .returned callback)
    (habout : callback.about = none) : { m with stage := .free : Machine σ }.Orderly := by
  apply h.change none (l := [])
  · exact h.sound
  · exact Nat.le_refl _
  · exact (List.append_nil _).symm
  · exact fun e he => absurd he List.not_mem_nil
  · exact fun _ _ => rfl
  · right
    rw [hstage]
    refine ⟨?_, nofun⟩
    rintro _ _ ⟨⟩
    exact .inl habout
  · exact nofun
  · exact h.due
  · rintro id (hjob | ⟨_, _, heq, -⟩)
    · exact h.holds (.inl hjob)
    · exact nomatch heq
  · exact nofun

/-- The references of the table are to live connections. -/
theorem Orderly.live_of_mem_refs (h : m.Orderly) {id : ConnId}
    (hrefs : id ∈ m.server.roster.table.refs) : (m.view id).live ≠ none := by
  obtain ⟨⟨id', ref⟩, hmem, (rfl : ref = id)⟩ := List.mem_map.mp hrefs
  have hget := h.sound.mem_toList.mp hmem
  obtain rfl := (h.view id').named ref hget
  exact fun hnone => nomatch hnone.symm.trans hget

/-- The task of a connection starts. -/
theorem Orderly.spawn (h : m.Orderly) {id : ConnId} (hstage : m.stage = .returned (.accepted id)) :
    { m with
      stage := .free
      system := { m.system with streams := m.system.streams.insert id {} } :
        Machine σ }.Orderly := by
  -- A task starts with a look for the signal.
  have hphase (id' : ConnId) :
      (m.system.streams.insert id {})[id']?.map (·.phase) =
        if id' = id then some (.looking .stop) else (m.view id').phase := by
    rw [Ascending.getElem?_insert]
    split <;> rfl
  apply h.ends (l := []) hstage rfl rfl
  · exact h.sound
  · rfl
  · exact (List.append_nil _).symm
  · exact fun e he => absurd he List.not_mem_nil
  · exact fun id' hne => View.ext rfl rfl ((hphase id').trans (if_neg hne)) rfl rfl
  · exact fun hmark => hmark
  · intro hid
    have hspawn := hid.spawn
    rwa [← (hphase id).trans (if_pos rfl)] at hspawn
  · exact fun job hjob id' hmem => h.holds (.inl ⟨job, hjob, hmem⟩)

/-- A task is told to stop. -/
theorem Orderly.signal (h : m.Orderly) {id : ConnId} (hstage : m.stage = .returned (.closing id)) :
    { m.setServer (m.server.signalStop id) with stage := .free : Machine σ }.Orderly := by
  have hmark := mark_signalStop m.server id
  apply h.ends (l := []) hstage rfl rfl
  · exact h.sound
  · rfl
  · exact (List.append_nil _).symm
  · exact fun e he => absurd he List.not_mem_nil
  · exact fun id' hne => View.ext ((hmark id').trans (if_neg hne)) rfl rfl rfl rfl
  · intro hne hnone
    apply hne
    change (m.server.signalStop id).pool.mark id = none
    rw [hmark, if_pos rfl, Option.map_eq_none_iff]
    exact hnone
  · intro hid
    have hsignal : View.InOrder id
        { m.view id with mark := (m.server.pool.mark id).map fun mark => (mark.1, true) }
        none m.trace := hid.signal
    rwa [← (hmark id).trans (if_pos rfl)] at hsignal
  · exact fun job hjob id' hmem => h.holds (.inl ⟨job, hjob, hmem⟩)

/-- A connection leaves the table. -/
theorem Orderly.release (h : m.Orderly) {id : ConnId} (hstage : m.stage = .returned (.closed id)) :
    { m.setServer (m.server.release id) with stage := .free : Machine σ }.Orderly := by
  obtain ⟨notice, htrace⟩ : ∃ notice, (m.server.release id).trace = m.trace ++ [.said notice] :=
    ⟨_, rfl⟩
  have hlive (id' : ConnId) : (m.server.release id).roster.table.get? id' =
      if id' = id then none else (m.view id').live :=
    Table.get?_remove m.server.roster.table id id'
  -- The server is at nothing else, so it has no job for a connection that is gone.
  have hjobs : m.jobs = [] := by
    apply h.alone
    rw [hstage]
    rfl
  apply h.ends (l := [.said notice]) hstage rfl rfl
  · exact h.sound.remove id
  · rfl
  · exact htrace
  · simp [Happening.isQuiet]
  · exact fun id' hne => View.ext rfl ((hlive id').trans (if_neg hne)) rfl rfl rfl
  · exact fun hmark => hmark
  · intro hid
    have hrelease := hid.release
    rwa [← (hlive id).trans (if_pos rfl)] at hrelease
  · exact fun job hjob => absurd (hjobs ▸ hjob : job ∈ []) List.not_mem_nil

end Machine

end NetSession.Server
