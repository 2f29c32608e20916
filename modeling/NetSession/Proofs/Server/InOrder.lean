import NetSession.Proofs.Server.Quiet
import NetSession.Proofs.Stream.WayOut

/-!
# The life of one connection

`System.view` is what one sees of a single connection in a system, as far as its close is concerned.
`View.InOrder` says how this, the callback that the server is in, and what was written down hang
together at any time. There is a theorem for each step of the life of a connection, which says that
it is in order afterwards; `InOrder.frame` is for all steps of others.
-/

namespace NetSession.Server

variable {σ : Type}

/-- What one sees of a connection in a system. -/
@[ext]
structure View where
  /-- Whether it is marked as closing, and whether the signal to stop is there. -/
  mark : Option (Bool × Bool)
  /-- The reference that the table has. -/
  live : Option Ref
  /-- How far its task is. -/
  phase : Option Stream.Phase
  /-- The number of references that tasks hold. -/
  tasks : Nat
  /-- The number of reports in the mailbox that its socket is closed. -/
  mail : Nat

/-- What one sees of a connection in a system. -/
def System.view (y : System σ) (id : ConnId) : View where
  mark := y.server.pool.mark id
  live := y.server.roster.table.get? id
  phase := y.streams[id]?.map (·.phase)
  tasks := y.server.tasks.count id
  mail := y.events.count (.closed id)

/-- The callback that a server is in, and whether it has returned. -/
def Stage.tag : Stage σ → Option (Callback × Bool)
  | .free => none
  | .running callback _ => some (callback, false)
  | .returned callback => some (callback, true)

namespace View

/-- Whether a connection is marked as closing. -/
def isClosing (v : View) : Bool := v.mark.any (·.1)

/-- Whether the signal to stop is there. -/
def isStopped (v : View) : Bool := v.mark.any (·.2)

/-- The life of a connection is in order, when the server is in the callback of the tag and this
much was written down. -/
structure InOrder (id : ConnId) (v : View) (tag : Option (Callback × Bool))
    (trace : List Happening) : Prop where
  /-- Before it is accepted there is nothing of it. -/
  blank : v.mark = none →
    v.live = none ∧ v.phase = none ∧ v.tasks = 0 ∧ .called (.accepted id) ∉ trace
  /-- A callback that runs or has returned was called. -/
  called : ∀ callback, callback.about = some id →
    tag = some (callback, false) ∨ .returned callback ∈ trace → .called callback ∈ trace
  /-- What a callback was called for is done when it has returned. -/
  returned : ∀ callback, callback.about = some id →
    tag = some (callback, true) → .returned callback ∈ trace
  /-- The closing callback is called when it is marked, and only then. -/
  closing : trace.count (.called (.closing id)) = if v.isClosing then 1 else 0
  /-- The signal is given when the closing callback has returned. -/
  stop : v.isStopped → .returned (.closing id) ∈ trace
  /-- The task stops when it has the signal. -/
  past : ∀ p ∈ v.phase, p.isPast → .returned (.closing id) ∈ trace
  /-- The task reports the end once. -/
  reports : trace.count (.reported (.closed id)) = if v.phase.any (·.isLast) then 1 else 0
  /-- The closed callback is called for a report, which is then gone. -/
  mail : v.mail + trace.count (.called (.closed id)) = trace.count (.reported (.closed id))
  /-- A closed callback that was called goes on until it returns. -/
  during : .called (.closed id) ∈ trace →
    tag = some (.closed id, false) ∨ .returned (.closed id) ∈ trace
  /-- It is live until the closed callback has returned. -/
  live : v.mark ≠ none → v.live ≠ none ∨ .returned (.closed id) ∈ trace
  /-- It leaves the table next. -/
  gone : .returned (.closed id) ∈ trace → v.live = none ∨ tag = some (.closed id, true)
  /-- It has no task before the callback that tells of it has returned. -/
  early : ∀ b, tag = some (.accepted id, b) → v.mark ≠ none ∧ v.phase = none
  /-- Its reference is its number. -/
  named : ∀ ref, v.live = some ref → ref = id
  /-- Its task holds one reference. -/
  tasks : v.tasks ≤ 1
  /-- Its task holds no reference in the end. -/
  ended : v.phase = some .ended → v.tasks = 0

/-- The server is in no callback about the life of a connection. -/
def Elsewhere (id : ConnId) (tag : Option (Callback × Bool)) : Prop :=
  ∀ callback b, tag = some (callback, b) → callback.about ≠ some id

variable {id : ConnId} {v : View} {tag tag' : Option (Callback × Bool)} {trace l : List Happening}

/-- What is not about a connection is not any step of its life. -/
theorem notMem_of_about (habout : ∀ e ∈ l, e.about ≠ some id) {e : Happening}
    (he : e.about = some id) : e ∉ l :=
  fun hmem => habout e hmem he

/-- What happens to others does not bring a connection out of order. -/
theorem InOrder.frame (h : v.InOrder id tag trace) (habout : ∀ e ∈ l, e.about ≠ some id)
    (htag : tag' = tag ∨ Elsewhere id tag ∧ Elsewhere id tag') :
    v.InOrder id tag' (trace ++ l) := by
  have hmem {e : Happening} (he : e.about = some id) : e ∈ trace ++ l ↔ e ∈ trace := by
    rw [List.mem_append, or_iff_left (notMem_of_about habout he)]
  have hcount {e : Happening} (he : e.about = some id) : (trace ++ l).count e = trace.count e := by
    rw [List.count_append, List.count_eq_zero.mpr (notMem_of_about habout he), Nat.add_zero]
  have hsame {callback : Callback} {b : Bool} (he : callback.about = some id) :
      tag' = some (callback, b) ↔ tag = some (callback, b) := by
    rcases htag with rfl | ⟨hold, hnew⟩
    · exact Iff.rfl
    · exact ⟨fun heq => absurd he (hnew _ _ heq), fun heq => absurd he (hold _ _ heq)⟩
  -- Each part speaks of the connection's own callbacks and reports only.
  constructor
  · rw [hmem rfl]
    exact h.blank
  · intro callback he
    rw [hmem (e := .called callback) he, hmem (e := .returned callback) he, hsame he]
    exact h.called callback he
  · intro callback he
    rw [hmem (e := .returned callback) he, hsame he]
    exact h.returned callback he
  · rw [hcount rfl]
    exact h.closing
  · rw [hmem rfl]
    exact h.stop
  · rw [hmem rfl]
    exact h.past
  · rw [hcount rfl]
    exact h.reports
  · rw [hcount rfl, hcount rfl]
    exact h.mail
  · rw [hmem rfl, hmem rfl, hsame rfl]
    exact h.during
  · rw [hmem rfl]
    exact h.live
  · rw [hmem rfl, hsame rfl]
    exact h.gone
  · intro b
    rw [hsame rfl]
    exact h.early b
  · exact h.named
  · exact h.tasks
  · exact h.ended

/-! ## What is written down -/

/-- What is written down does not make anything else happen. -/
theorem mem_concat_of_ne {e e' : Happening} (hne : e ≠ e') : e ∈ trace ++ [e'] ↔ e ∈ trace := by
  rw [List.mem_append, List.mem_singleton, or_iff_left hne]

/-- What is written down does not count as anything else. -/
theorem count_concat_of_ne {e e' : Happening} (hne : e ≠ e') :
    (trace ++ [e']).count e = trace.count e := by
  rw [List.count_append, List.count_singleton, if_neg (by simpa using hne.symm), Nat.add_zero]

/-- What is written down counts once. -/
theorem count_concat_self (e : Happening) : (trace ++ [e]).count e = trace.count e + 1 := by
  rw [List.count_append, List.count_singleton_self]

/-! ## Calls -/

/-- When the server was free, a callback that is called is the only one that has not returned. -/
theorem InOrder.called_concat (h : v.InOrder id none trace) (callback : Callback) :
    ∀ callback', callback'.about = some id →
      some (callback, false) = some (callback', false) ∨
        .returned callback' ∈ trace ++ [.called callback] →
      .called callback' ∈ trace ++ [.called callback] := by
  intro callback' habout hor
  rw [mem_concat_of_ne (by nofun)] at hor
  rcases hor with heq | hreturned
  · obtain ⟨rfl, -⟩ := Prod.mk.inj (Option.some.inj heq)
    exact List.mem_concat_self
  · exact List.mem_append_left _ (h.called callback' habout (.inr hreturned))

/-- The connection is accepted: it is in the table, and the callback that tells of it is called. -/
theorem InOrder.accept (h : v.InOrder id none trace) (hmark : v.mark = none) :
    InOrder id { v with mark := some (false, false), live := some id, tasks := 1 }
      (some (.accepted id, false)) (trace ++ [.called (.accepted id)]) := by
  -- A connection without a task has reported nothing, and was not closed.
  obtain ⟨-, hphase, -, -⟩ := h.blank hmark
  have hreports : trace.count (.reported (.closed id)) = 0 := by
    rw [h.reports, hphase]
    rfl
  have hclosed : .called (.closed id) ∉ trace := by
    rw [← List.count_eq_zero]
    have := h.mail
    omega
  have hreturned : .returned (.closed id) ∉ trace :=
    fun hmem => hclosed (h.called (.closed id) rfl (.inr hmem))
  constructor
  · exact nofun
  · exact h.called_concat (.accepted id)
  · exact nofun
  · rw [count_concat_of_ne (by nofun), h.closing, isClosing, hmark]
    rfl
  · exact nofun
  · exact fun p hp _ => nomatch hphase.symm.trans hp
  · rw [count_concat_of_ne (by nofun)]
    exact h.reports
  · rw [count_concat_of_ne (by nofun), count_concat_of_ne (by nofun)]
    exact h.mail
  · rw [mem_concat_of_ne (by nofun)]
    exact fun hmem => absurd hmem hclosed
  · -- It is in the table from here on.
    exact fun _ => .inl nofun
  · rw [mem_concat_of_ne (by nofun)]
    exact fun hmem => absurd hmem hreturned
  · exact fun _ _ => ⟨nofun, hphase⟩
  · rintro ref ⟨⟩
    rfl
  · exact Nat.le_refl 1
  · exact fun hended => nomatch hphase.symm.trans hended

/-- The connection is marked, and the closing callback is called. -/
theorem InOrder.close (h : v.InOrder id none trace) {stopped : Bool}
    (hmark : v.mark = some (false, stopped)) :
    InOrder id { v with mark := some (true, stopped) } (some (.closing id, false))
      (trace ++ [.called (.closing id)]) := by
  constructor
  · exact nofun
  · exact h.called_concat (.closing id)
  · exact nofun
  · -- It was not marked, so the callback was not called before.
    rw [count_concat_self, h.closing, isClosing, hmark]
    rfl
  · intro hstop
    rw [mem_concat_of_ne (by nofun)]
    apply h.stop
    rwa [isStopped, hmark]
  · exact fun p hp hpast => List.mem_append_left _ (h.past p hp hpast)
  · rw [count_concat_of_ne (by nofun)]
    exact h.reports
  · rw [count_concat_of_ne (by nofun), count_concat_of_ne (by nofun)]
    exact h.mail
  · rw [mem_concat_of_ne (by nofun), mem_concat_of_ne (by nofun)]
    exact fun hcalled => .inr ((h.during hcalled).resolve_left nofun)
  · rw [mem_concat_of_ne (by nofun)]
    exact fun _ => h.live fun hnone => nomatch hmark.symm.trans hnone
  · rw [mem_concat_of_ne (by nofun)]
    exact fun hreturned => .inl ((h.gone hreturned).resolve_right nofun)
  · exact nofun
  · exact h.named
  · exact h.tasks
  · exact h.ended

/-- The report that the socket is closed is taken in, and the closed callback is called. -/
theorem InOrder.takeReport (h : v.InOrder id none trace) {mail : Nat} (hmail : v.mail = mail + 1) :
    InOrder id { v with mail := mail } (some (.closed id, false))
      (trace ++ [.called (.closed id)]) := by
  constructor
  · intro hnone
    rw [mem_concat_of_ne (by nofun)]
    exact h.blank hnone
  · exact h.called_concat (.closed id)
  · exact nofun
  · rw [count_concat_of_ne (by nofun)]
    exact h.closing
  · rw [mem_concat_of_ne (by nofun)]
    exact h.stop
  · exact fun p hp hpast => List.mem_append_left _ (h.past p hp hpast)
  · rw [count_concat_of_ne (by nofun)]
    exact h.reports
  · -- The report is gone, and the callback was called for it.
    have hsum := h.mail
    rw [hmail] at hsum
    rw [count_concat_self, count_concat_of_ne (by nofun), ← hsum]
    exact Nat.add_right_comm mail _ 1
  · exact fun _ => .inl rfl
  · rw [mem_concat_of_ne (by nofun)]
    exact h.live
  · rw [mem_concat_of_ne (by nofun)]
    exact fun hreturned => .inl ((h.gone hreturned).resolve_right nofun)
  · exact nofun
  · exact h.named
  · exact h.tasks
  · exact h.ended

/-! ## Returns -/

/-- A callback about the connection returns. -/
theorem InOrder.return {callback : Callback} (h : v.InOrder id (some (callback, false)) trace) :
    v.InOrder id (some (callback, true)) (trace ++ [.returned callback]) := by
  constructor
  · rw [mem_concat_of_ne (by nofun)]
    exact h.blank
  · -- One that has returned did so before, or is the one that returns now and was under way.
    intro callback' habout hor
    rw [mem_concat_of_ne (by nofun)]
    apply h.called callback' habout
    rcases hor with heq | hreturned
    · exact nomatch heq
    · rcases List.mem_append.mp hreturned with hreturned | hlast
      · exact .inr hreturned
      · obtain rfl := Happening.returned.inj (List.mem_singleton.mp hlast)
        exact .inl rfl
  · rintro callback' - heq
    obtain ⟨rfl, -⟩ := Prod.mk.inj (Option.some.inj heq)
    exact List.mem_concat_self
  · rw [count_concat_of_ne (by nofun)]
    exact h.closing
  · exact fun hstop => List.mem_append_left _ (h.stop hstop)
  · exact fun p hp hpast => List.mem_append_left _ (h.past p hp hpast)
  · rw [count_concat_of_ne (by nofun)]
    exact h.reports
  · rw [count_concat_of_ne (by nofun), count_concat_of_ne (by nofun)]
    exact h.mail
  · rw [mem_concat_of_ne (by nofun)]
    intro hcalled
    rcases h.during hcalled with heq | hreturned
    · obtain ⟨rfl, -⟩ := Prod.mk.inj (Option.some.inj heq)
      exact .inr List.mem_concat_self
    · exact .inr (List.mem_append_left _ hreturned)
  · exact fun hmark => (h.live hmark).imp_right (List.mem_append_left _)
  · intro hreturned
    rcases List.mem_append.mp hreturned with hreturned | hlast
    · exact .inl ((h.gone hreturned).resolve_right nofun)
    · rw [Happening.returned.inj (List.mem_singleton.mp hlast)]
      exact .inr rfl
  · intro b heq
    obtain ⟨rfl, -⟩ := Prod.mk.inj (Option.some.inj heq)
    exact h.early false rfl
  · exact h.named
  · exact h.tasks
  · exact h.ended

/-- The server is free again, once the connection is out of the table if it was closed. -/
theorem InOrder.free {callback : Callback} (h : v.InOrder id (some (callback, true)) trace)
    (hgone : .returned (.closed id) ∈ trace → v.live = none) : v.InOrder id none trace :=
  { h with
    called := fun callback' habout hor => h.called callback' habout (.inr (hor.resolve_left nofun))
    returned := nofun
    during := fun hcalled => .inr ((h.during hcalled).resolve_left nofun)
    gone := fun hreturned => .inl (hgone hreturned)
    early := nofun }

/-- The task of the connection starts. -/
theorem InOrder.spawn (h : v.InOrder id (some (.accepted id, true)) trace) :
    InOrder id { v with phase := some (.looking .stop) } none trace := by
  obtain ⟨hmark, hphase⟩ := h.early true rfl
  have hfree := h.free fun hreturned => (h.gone hreturned).resolve_right nofun
  exact { hfree with
    blank := fun hnone => absurd hnone hmark
    past := by
      rintro _ ⟨⟩
      exact nofun
    reports := by
      rw [h.reports, hphase]
      rfl
    early := nofun
    ended := nofun }

/-- The signal to stop is given. -/
theorem InOrder.signal (h : v.InOrder id (some (.closing id, true)) trace) :
    InOrder id { v with mark := v.mark.map fun mark => (mark.1, true) } none trace := by
  have hreturned := h.returned (.closing id) rfl rfl
  have hfree := h.free fun hreturned => (h.gone hreturned).resolve_right nofun
  exact { hfree with
    blank := fun hnone => h.blank (Option.map_eq_none_iff.mp hnone)
    closing := by
      rw [h.closing, isClosing, isClosing]
      cases v.mark <;> rfl
    stop := fun _ => hreturned
    live := fun hmark => h.live fun hnone => hmark (Option.map_eq_none_iff.mpr hnone)
    early := nofun }

/-- The connection leaves the table. -/
theorem InOrder.release (h : v.InOrder id (some (.closed id, true)) trace) :
    InOrder id { v with live := none } none trace := by
  have hreturned := h.returned (.closed id) rfl rfl
  have hout : InOrder id { v with live := none } (some (.closed id, true)) trace :=
    { h with
      blank := fun hnone => ⟨rfl, (h.blank hnone).2⟩
      live := fun _ => .inr hreturned
      gone := fun _ => .inl rfl
      named := nofun }
  exact hout.free fun _ => rfl

/-! ## Steps of the task -/

/-- A report is the connection's own, and says that the socket is closed only if it is that. -/
theorem closed_mem_reports {report : Option Stream.Report} :
    .closed id ∈ (report.map (System.eventOf id)).toList ↔ report = some .closed := by
  rcases report with _ | _ | _ | _ <;> simp [System.eventOf]

/-- The task goes on to a phase that is not the end, and that it may be in. -/
theorem InOrder.setPhase (h : v.InOrder id tag trace) {p : Stream.Phase}
    (hphase : v.phase = some p) (p' : Stream.Phase)
    (hpast : p'.isPast → .returned (.closing id) ∈ trace)
    (hlast : p'.isLast = p.isLast) (hended : p' ≠ .ended) :
    InOrder id { v with phase := some p' } tag trace :=
  { h with
    blank := fun hmark => nomatch hphase.symm.trans (h.blank hmark).2.1
    past := by
      rintro _ ⟨⟩
      exact hpast
    reports := by
      rw [h.reports, hphase]
      simp only [Option.any_some, hlast]
    early := fun b htag => nomatch hphase.symm.trans (h.early b htag).2
    ended := fun heq => absurd (Option.some.inj heq) hended }

/-- The signal to stop is taken, or is not. -/
theorem InOrder.setStop (h : v.InOrder id tag trace) {closing stopped stopped' : Bool}
    (hmark : v.mark = some (closing, stopped)) (hstop : stopped' → stopped) :
    InOrder id { v with mark := some (closing, stopped') } tag trace :=
  { h with
    blank := nofun
    closing := by
      rw [h.closing, isClosing, hmark]
      rfl
    stop := by
      intro hstopped
      apply h.stop
      rw [isStopped, hmark]
      exact hstop hstopped
    live := fun _ => h.live fun hnone => nomatch hmark.symm.trans hnone
    early := fun b htag => ⟨nofun, (h.early b htag).2⟩ }

/-- The task reports that the socket is closed. -/
theorem InOrder.report (h : v.InOrder id tag trace) (hphase : v.phase = some .reporting) :
    InOrder id { v with phase := some .leaving, mail := v.mail + 1 } tag
      (trace ++ [.reported (.closed id)]) := by
  have hreturned : .returned (.closing id) ∈ trace := h.past _ hphase rfl
  -- This is the first report, so there was no closed callback yet.
  have hreports : trace.count (.reported (.closed id)) = 0 := by
    rw [h.reports, hphase]
    rfl
  have hcalled : trace.count (.called (.closed id)) = 0 := by
    have := h.mail
    omega
  constructor
  · exact fun hnone => nomatch hphase.symm.trans (h.blank hnone).2.1
  · intro callback habout hor
    rw [mem_concat_of_ne (by nofun)] at hor
    exact List.mem_append_left _ (h.called callback habout hor)
  · exact fun callback habout htag => List.mem_append_left _ (h.returned callback habout htag)
  · rw [count_concat_of_ne (by nofun)]
    exact h.closing
  · exact fun hstop => List.mem_append_left _ (h.stop hstop)
  · exact fun _ _ _ => List.mem_append_left _ hreturned
  · rw [count_concat_self, hreports]
    rfl
  · rw [count_concat_self, count_concat_of_ne (by nofun), ← h.mail]
    exact Nat.add_right_comm v.mail 1 _
  · rw [mem_concat_of_ne (by nofun), mem_concat_of_ne (by nofun)]
    exact h.during
  · rw [mem_concat_of_ne (by nofun)]
    exact h.live
  · rw [mem_concat_of_ne (by nofun)]
    exact h.gone
  · exact fun b htag => nomatch hphase.symm.trans (h.early b htag).2
  · exact h.named
  · exact h.tasks
  · exact nofun

/-- The task ends. -/
theorem InOrder.leave (h : v.InOrder id tag trace) (hphase : v.phase = some .leaving) :
    InOrder id { v with phase := some .ended, tasks := v.tasks - 1 } tag trace :=
  { h with
    blank := fun hmark => nomatch hphase.symm.trans (h.blank hmark).2.1
    past := fun _ _ _ => h.past _ hphase rfl
    reports := by
      rw [h.reports, hphase]
      rfl
    early := fun b htag => nomatch hphase.symm.trans (h.early b htag).2
    tasks := Nat.le_trans (Nat.sub_le _ _) h.tasks
    ended := fun _ => Nat.sub_eq_zero_of_le h.tasks }

/-- The task of the connection takes a step, and may report something. -/
theorem InOrder.onward (h : v.InOrder id tag trace) {s : Stream} {link : Link} {closing : Bool}
    {after : Stream} {link' : Link} {report : Option Stream.Report}
    (hstep : Stream.Onward s link (after, link', report)) (hphase : v.phase = some s.phase)
    (hmark : v.mark = some (closing, link.stop)) {reports : List Event}
    (hreports : reports = (report.map (System.eventOf id)).toList) :
    InOrder id
      { v with
        mark := some (closing, link'.stop)
        phase := some after.phase
        tasks := if after.phase = .ended then v.tasks - 1 else v.tasks
        mail := v.mail + reports.count (.closed id) }
      tag (trace ++ reports.map .reported) := by
  have hsame {stopped : Bool} (hstop : stopped → link.stop) :
      InOrder id { v with mark := some (closing, stopped) } tag trace :=
    h.setStop hmark hstop
  cases hstep with
  | work before hafter shut stop report_ne =>
    -- What is reported is not the end, so nothing is written down that matters.
    have hnone : .closed id ∉ reports := by
      rw [hreports, closed_mem_reports]
      exact report_ne
    have habout : ∀ e ∈ reports.map Happening.reported, e.about ≠ some id := by
      simp only [List.mem_map]
      rintro _ ⟨event, hmem, rfl⟩
      cases event with
      | read | ended => exact nofun
      | closed id' =>
        intro heq
        obtain rfl := Option.some.inj heq
        exact hnone hmem
    obtain ⟨hlast, -⟩ := Stream.Phase.isLast_of_not_isPast before
    obtain ⟨hlast', hended⟩ := Stream.Phase.isLast_of_not_isPast hafter
    rw [List.count_eq_zero.mpr hnone, if_neg hended]
    have hphase' := (hsame fun hstop => stop ▸ hstop).setPhase hphase after.phase
      (fun hpast => nomatch hafter.symm.trans hpast) (hlast'.trans hlast.symm) hended
    exact hphase'.frame habout (.inl rfl)
  | stop before stop =>
    -- The signal is given only when the closing callback has returned.
    have hreturned : .returned (.closing id) ∈ trace := by
      apply h.stop
      rw [isStopped, hmark, stop]
      rfl
    obtain ⟨hlast, -⟩ := Stream.Phase.isLast_of_not_isPast before
    have htaken : InOrder id { v with mark := some (closing, false) } tag trace := hsame nofun
    have hnext := htaken.setPhase hphase .shutting (fun _ => hreturned) hlast.symm nofun
    rw [hreports, Option.map_none, Option.toList_none, List.map_nil, List.append_nil]
    exact hnext
  | shut before =>
    have hreturned : .returned (.closing id) ∈ trace := by
      apply h.past _ hphase
      rw [before]
      rfl
    have hnext := (hsame fun hstop => hstop).setPhase hphase .reporting
      (fun _ => hreturned) (by rw [before]; rfl) nofun
    rw [hreports, Option.map_none, Option.toList_none, List.map_nil, List.append_nil]
    exact hnext
  | report before =>
    rw [before] at hphase
    have hnext := (hsame fun hstop => hstop).report hphase
    have hone : reports.count (.closed id) = 1 := by
      rw [hreports]
      exact List.count_singleton_self
    rw [hone, hreports]
    exact hnext
  | leave before =>
    rw [before] at hphase
    have hnext := (hsame fun hstop => hstop).leave hphase
    rw [hreports, Option.map_none, Option.toList_none, List.map_nil, List.append_nil]
    exact hnext

/-- While the socket is not closed, the end was not reported. -/
theorem InOrder.not_reported (h : v.InOrder id tag trace) {p : Stream.Phase}
    (hphase : v.phase = some p) (hlast : p.isLast = false) :
    .reported (.closed id) ∉ trace := by
  rw [← List.count_eq_zero, h.reports, hphase]
  simp only [Option.any_some, hlast, Bool.false_eq_true, if_false]

/-- A connection that is not marked was not called closing. -/
theorem InOrder.not_closing (h : v.InOrder id tag trace) (hmark : v.isClosing = false) :
    .called (.closing id) ∉ trace := by
  rw [← List.count_eq_zero, h.closing, hmark]
  rfl

/-- When a report waits that the socket is closed, the closing callback has returned, and the closed
callback was not called. -/
theorem InOrder.due_of_mail (h : v.InOrder id tag trace) (hmail : 0 < v.mail) :
    .called (.closed id) ∉ trace ∧ .returned (.closing id) ∈ trace ∧
      trace.count (.called (.closing id)) = 1 := by
  have hreports := h.reports
  have hsum := h.mail
  split at hreports
  · next hlast =>
    -- The task has reported the end, so it was told to stop.
    obtain ⟨p, hphase, hp⟩ := (Option.any_eq_true _ _).mp hlast
    have hreturned := h.past p hphase (Stream.Phase.isPast_of_isLast hp)
    have hcalled := List.count_pos_iff.mpr (h.called (.closing id) rfl (.inr hreturned))
    have hclosing := h.closing
    refine ⟨?_, hreturned, ?_⟩
    · rw [← List.count_eq_zero]
      omega
    · split at hclosing <;> omega
  · omega

/-- When a report waits that the socket is closed, the connection is live. -/
theorem InOrder.live_of_mail (h : v.InOrder id tag trace) (hmail : 0 < v.mail) :
    v.mark ≠ none ∧ v.live ≠ none := by
  have hmark : v.mark ≠ none := by
    intro hnone
    have hreports := h.reports
    have hsum := h.mail
    rw [(h.blank hnone).2.1] at hreports
    simp only [Option.any_none, Bool.false_eq_true, if_false] at hreports
    omega
  -- It leaves the table behind the closed callback, which was not called yet.
  refine ⟨hmark, (h.live hmark).resolve_right fun hreturned => ?_⟩
  exact (h.due_of_mail hmail).1 (h.called (.closed id) rfl (.inr hreturned))

end View

end NetSession.Server
