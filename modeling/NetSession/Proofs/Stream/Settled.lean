import NetSession.Proofs.Stream.Account

/-!
# What becomes of bytes in the end

A task that has left its loop moves no bytes any more, so what was read and what was written then
is so for ever (`Settled`). Where a report of the end is taken in from an open stream, all that was
read was handed on before (`Drained`).

An account that `Follows` another one by steps is balanced, settled and drained as that one is.
-/

namespace NetSession.Stream.Account

/-- The task has left its loop, when so much was read and written. -/
def Settled (a : Account) (taken written : Bytes) : Prop :=
  ∃ s, a.stream = some s ∧ s.phase.isPumping = false ∧ s.taken = taken ∧ s.written = written

/-- All that was read was handed on, and the task has left its loop. -/
structure Drained (a : Account) (bytes : Bytes) : Prop where
  /-- No more bytes are read. -/
  settled : ∃ written, a.Settled bytes written
  /-- All were handed on. -/
  received : a.received = bytes
  /-- None wait. -/
  mail : ∀ report ∈ a.mail, report.data? = none

variable {a a' : Account} {s : Stream} {failed : Prop} {taken written bytes : Bytes}

/-- A task that has left its loop reads and writes nothing. -/
theorem takes_of_not_isPumping {link : Link} {heard : Bool} {move : Move} {outcome : Outcome}
    (htakes : s.Takes link heard move outcome) (hdone : s.phase.isPumping = false) :
    outcome.1.phase.isPumping = false ∧ outcome.1.taken = s.taken ∧
      outcome.1.written = s.written ∧ ∀ report ∈ outcome.2.2, report.data? = none := by
  cases htakes with
  | look hphase | pop hphase | skip hphase | rest hphase | finish hphase | wrote hphase
  | read hphase | drop hphase | write hphase | fail hphase =>
    rw [hphase] at hdone
    exact nomatch hdone
  | obey | abandon | shut | leave => exact ⟨rfl, rfl, rfl, nofun⟩
  | report =>
    refine ⟨rfl, rfl, rfl, fun report hmem => ?_⟩
    split at hmem
    · obtain rfl := Option.some.inj hmem
      rfl
    · exact nomatch hmem

/-- A task that has left its loop stays out of it. -/
theorem Settled.tasked (h : a.Settled taken written) {move : Move} (htasked : Tasked move a a') :
    a'.Settled taken written := by
  obtain ⟨s, hs, hdone, rfl, rfl⟩ := h
  obtain ⟨s', link, outcome, hs', hlink, hstep, rfl⟩ := htasked
  obtain rfl := Option.some.inj (hs.symm.trans hs')
  obtain ⟨hdone', htaken, hwritten, -⟩ := takes_of_not_isPumping (takes_of_step hstep) hdone
  exact ⟨_, rfl, hdone', htaken, hwritten⟩

/-- Nobody brings a task back into its loop. -/
theorem Settled.traffic (h : a.Settled taken written) (hbalanced : a.Balanced failed)
    (htraffic : Traffic a a') : a'.Settled taken written := by
  obtain ⟨s, hs, hdone, rfl, rfl⟩ := h
  cases htraffic with
  | spawn hdue => exact nomatch (hbalanced.due.mp hdue).1.symm.trans hs
  | socket hs' hphase htaken hwritten hshut =>
    obtain rfl := Option.some.inj (hs.symm.trans hs')
    exact ⟨_, rfl, hphase ▸ hdone, htaken, hwritten⟩
  | enter | send | signal | deliver | pass | close | stop => exact ⟨s, hs, hdone, rfl, rfl⟩

/-- Once all was handed on, no step of the task changes that. -/
theorem Drained.tasked (h : a.Drained bytes) {move : Move} (htasked : Tasked move a a') :
    a'.Drained bytes := by
  obtain ⟨written, hsettled⟩ := h.settled
  refine ⟨⟨written, hsettled.tasked htasked⟩, ?_, ?_⟩
  all_goals obtain ⟨s, link, outcome, hs, hlink, hstep, rfl⟩ := htasked
  · exact h.received
  · obtain ⟨s', hs', hdone, -⟩ := hsettled
    obtain rfl := Option.some.inj (hs.symm.trans hs')
    obtain ⟨-, -, -, hreport⟩ := takes_of_not_isPumping (takes_of_step hstep) hdone
    intro report hmem
    rcases List.mem_append.mp hmem with hold | hnew
    · exact h.mail report hold
    · exact hreport report (Option.mem_toList.mp hnew)

/-- Once all was handed on, nobody changes that. -/
theorem Drained.traffic (h : a.Drained bytes) (hbalanced : a.Balanced failed)
    (htraffic : Traffic a a') : a'.Drained bytes := by
  obtain ⟨written, hsettled⟩ := h.settled
  have hsettled' := hsettled.traffic hbalanced htraffic
  cases htraffic with
  | deliver hmail =>
    have hnone := h.mail _ (hmail ▸ List.mem_cons_self)
    exact nomatch hnone
  | pass hmail =>
    exact ⟨⟨written, hsettled'⟩, h.received, fun r hmem =>
      h.mail r (hmail ▸ List.mem_cons_of_mem _ hmem)⟩
  | stop => exact ⟨⟨written, hsettled'⟩, h.received, nofun⟩
  | enter | spawn | send | signal | socket | close =>
    exact ⟨⟨written, hsettled'⟩, h.received, h.mail⟩

/-! ## Steps and what comes of them -/

/-- What is balanced is so as well if more writes may have failed. -/
theorem Balanced.mono (h : a.Balanced failed) {failed' : Prop} (hfailed : failed → failed') :
    a.Balanced failed' :=
  ⟨h.blank, h.fresh, h.due, fun s hs => (h.writes s hs).mono hfailed, h.reads, h.shut⟩

/-- Whatever others do one thing after the other keeps the balance. -/
theorem Balanced.others (h : a.Balanced failed) (htraffic : Relation.ReflTransGen Traffic a a') :
    a'.Balanced failed := by
  induction htraffic with
  | refl => exact h
  | tail _ hlast ih => exact ih.traffic hlast

/-- Every step keeps the balance. -/
theorem Balanced.passes (h : a.Balanced failed) {move : Option Move} (hpasses : Passes move a a') :
    a'.Balanced (failed ∨ ∃ taken, move = some taken ∧ taken.isFailure = true) := by
  cases hpasses with
  | task hmove htasked =>
    exact (h.tasked htasked).mono (.imp_right fun hfails => ⟨_, hmove, hfails⟩)
  | others htraffic => exact (h.others htraffic).mono .inl

/-- A task that has left its loop reads and writes nothing at any step. -/
theorem Settled.passes (h : a.Settled taken written) (hbalanced : a.Balanced failed)
    {move : Option Move} (hpasses : Passes move a a') : a'.Settled taken written := by
  cases hpasses with
  | task hmove htasked => exact h.tasked htasked
  | others htraffic =>
    induction htraffic with
    | refl => exact h
    | tail hfirst hlast ih => exact ih.traffic (hbalanced.others hfirst) hlast

/-- Once all was handed on, no step changes that. -/
theorem Drained.passes (h : a.Drained bytes) (hbalanced : a.Balanced failed)
    {move : Option Move} (hpasses : Passes move a a') : a'.Drained bytes := by
  cases hpasses with
  | task hmove htasked => exact h.tasked htasked
  | others htraffic =>
    induction htraffic with
    | refl => exact h
    | tail hfirst hlast ih => exact ih.traffic (hbalanced.others hfirst) hlast

/-- What was handed on is the beginning of what was read. -/
theorem Balanced.begins (h : a.Balanced failed) :
    a.received <+: (a.stream.map (·.taken)).getD [] := by
  cases hs : a.stream with
  | none =>
    rw [(h.fresh hs).1]
    exact List.nil_prefix
  | some s =>
    obtain ⟨lost, htotal, -⟩ := (h.reads s hs).total
    refine ⟨lost ++ waitingBytes a.mail, ?_⟩
    rw [← List.append_assoc]
    exact htotal.symm

/-- When a report of the end is the next to be taken in, while the stream is open, all that was read
was handed on. -/
theorem Balanced.drained (h : a.Balanced failed) (hheard : a.heard = true)
    (hopen : a.isOpen = true) {report : Report} {rest : List Report}
    (hmail : a.mail = report :: rest) (hend : report.data? = none) :
    ∃ bytes, a.Drained bytes := by
  cases hs : a.stream with
  | none => exact nomatch hmail.symm.trans (h.fresh hs).2.1
  | some s =>
    have hreads := h.reads s hs
    obtain ⟨lost, htotal, hlost⟩ := hreads.total
    have hordered := hreads.ordered
    have hdone := hreads.done report (hmail ▸ List.mem_cons_self) hend
    rw [hmail] at hordered
    have hnone : ∀ r ∈ a.mail, r.data? = none := by
      rw [hmail]
      intro r hmem
      rcases List.mem_cons.mp hmem with rfl | hmem
      · exact hend
      · exact (List.pairwise_cons.mp hordered).1 r hmem hend
    rw [hlost hheard hopen, waitingBytes_eq_nil hnone, List.append_nil, List.append_nil] at htotal
    exact ⟨a.received, ⟨s.written, s, hs, hdone, htotal, rfl⟩, rfl, hnone⟩

/-! ## Steps one after the other -/

/-- An account follows another one by some steps, at each of which the task makes a move or others
do something. -/
inductive Follows : List (Option Move) → Account → Account → Prop where
  /-- Nothing happens in no steps. -/
  | refl (a : Account) : Follows [] a a
  /-- One step comes first. -/
  | step {move : Option Move} {moves : List (Option Move)} {a a' a'' : Account}
      (passes : Passes move a a') (rest : Follows moves a' a'') : Follows (move :: moves) a a''

variable {moves : List (Option Move)}

/-- Any steps keep the balance. -/
theorem Balanced.follows (h : a.Balanced failed) (hfollows : Follows moves a a') :
    a'.Balanced (failed ∨ ∃ taken, some taken ∈ moves ∧ taken.isFailure = true) := by
  induction hfollows generalizing failed with
  | refl => exact h.mono .inl
  | step hpasses hrest ih =>
    refine (ih (h.passes hpasses)).mono ?_
    rintro ((hfailed | ⟨taken, rfl, hfails⟩) | ⟨taken, hmem, hfails⟩)
    · exact .inl hfailed
    · exact .inr ⟨taken, .head _, hfails⟩
    · exact .inr ⟨taken, .tail _ hmem, hfails⟩

/-- A task that has left its loop reads and writes nothing at any steps. -/
theorem Settled.follows (h : a.Settled taken written) (hbalanced : a.Balanced failed)
    (hfollows : Follows moves a a') : a'.Settled taken written := by
  induction hfollows generalizing failed with
  | refl => exact h
  | step hpasses hrest ih => exact ih (h.passes hbalanced hpasses) (hbalanced.passes hpasses)

/-- Once all was handed on, no steps change that. -/
theorem Drained.follows (h : a.Drained bytes) (hbalanced : a.Balanced failed)
    (hfollows : Follows moves a a') : a'.Drained bytes := by
  induction hfollows generalizing failed with
  | refl => exact h
  | step hpasses hrest ih => exact ih (h.passes hbalanced hpasses) (hbalanced.passes hpasses)

end NetSession.Stream.Account
