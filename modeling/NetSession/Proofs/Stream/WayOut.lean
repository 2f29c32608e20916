import NetSession.Proofs.Stream.Turns

/-!
# The way out of a task

A task that is heard moves bytes until it is told to stop. Then it closes the socket, reports that,
and ends, in this order. `Stream.Onward` lists the steps it can take with respect to this, and
`onward_of_step` sorts all steps of a task (`Stream.Takes`) by it.
-/

namespace NetSession.Stream

/-- Whether a task was told to stop. -/
def Phase.isPast : Phase → Bool
  | .shutting | .reporting | .leaving | .ended => true
  | .looking _ | .writing _ | .waiting => false

/-- Whether a task has reported everything. -/
def Phase.isLast : Phase → Bool
  | .leaving | .ended => true
  | _ => false

/-- Who has reported everything was told to stop before. -/
theorem Phase.isPast_of_isLast {p : Phase} (h : p.isLast) : p.isPast := by
  cases p <;> first | rfl | exact nomatch h

/-- Who was not told to stop has not reported everything, and has not ended. -/
theorem Phase.isLast_of_not_isPast {p : Phase} (h : p.isPast = false) :
    p.isLast = false ∧ p ≠ .ended := by
  cases p <;> first | exact ⟨rfl, nofun⟩ | exact nomatch h

/-- What a step of a task that is heard can lead to. -/
inductive Onward (s : Stream) (link : Link) : Outcome → Prop where
  /-- It moves bytes, or reports an end. -/
  | work {s' : Stream} {link' : Link} {report : Option Report} (before : s.phase.isPast = false)
      (after : s'.phase.isPast = false) (shut : s'.shut = s.shut) (stop : link'.stop = link.stop)
      (report_ne : report ≠ some .closed) : Onward s link (s', link', report)
  /-- It takes the signal to stop. -/
  | stop (before : s.phase.isPast = false) (stop : link.stop = true) :
      Onward s link ({ s with phase := .shutting }, link.takeStop, none)
  /-- It closes the socket. -/
  | shut (before : s.phase = .shutting) :
      Onward s link ({ s with phase := .reporting, shut := true }, link, none)
  /-- It reports that the socket is closed. -/
  | report (before : s.phase = .reporting) :
      Onward s link ({ s with phase := .leaving }, link, some .closed)
  /-- It ends. -/
  | leave (before : s.phase = .leaving) :
      Onward s link ({ s with phase := .ended }, link.hangUp, none)

variable {s : Stream} {link : Link} {outcome : Outcome}

/-- Who takes a payload out of a link leaves the signal there. -/
theorem stop_of_pop? {link' : Link} {data : Bytes} (h : link.pop? = some (data, link')) :
    link'.stop = link.stop := by
  rw [Link.pop?.eq_def] at h
  split at h
  · obtain ⟨-, rfl⟩ := Prod.mk.inj (Option.some.inj h)
    rfl
  · exact nomatch h

/-- Who takes a payload out of a link leaves the queue there. -/
theorem isSome_queue_of_pop? {link' : Link} {data : Bytes} (h : link.pop? = some (data, link')) :
    link'.queue.isSome = link.queue.isSome := by
  rw [Link.pop?.eq_def] at h
  split at h
  · next hqueue =>
    obtain ⟨-, rfl⟩ := Prod.mk.inj (Option.some.inj h)
    rw [hqueue]
    rfl
  · exact nomatch h

/-- Every step of a task that is heard is a step on the way out, or some work. -/
theorem onward_of_step {move : Move} (h : s.step link true move = some outcome) :
    Onward s link outcome := by
  cases takes_of_step h with
  | obey hphase hstop =>
    refine .stop ?_ hstop
    rcases hphase with hphase | hphase <;> rw [hphase] <;> rfl
  | shut hphase => exact .shut hphase
  | report hphase => exact .report hphase
  | leave hphase => exact .leave hphase
  | pop hphase hpop => exact .work (by rw [hphase]; rfl) rfl rfl (stop_of_pop? hpop) nofun
  | look hphase | skip hphase | rest hphase | finish hphase | wrote hphase | read hphase
  | write hphase | fail hphase => exact .work (by rw [hphase]; rfl) rfl rfl rfl nofun
  -- The others are steps of a task that nobody hears.
  | abandon _ _ hunheard | drop _ hunheard => contradiction

/-- Who reports an end leaves the link as it is. -/
theorem reportEnd_link (s : Stream) (link : Link) (heard : Bool) (failure : Option String) :
    (s.reportEnd link heard failure).2.1 = link := by
  cases heard <;> rfl

/-- The queue is given up at the end only. -/
theorem isSome_queue_of_step {heard : Bool} {move : Move}
    (h : s.step link heard move = some outcome) (hphase : s.phase ≠ .leaving) :
    outcome.2.1.queue.isSome = link.queue.isSome := by
  cases takes_of_step h with
  | pop _ hpop => exact isSome_queue_of_pop? hpop
  | leave hleaving => exact absurd hleaving hphase
  | finish | fail => rw [reportEnd_link]
  | obey | look | skip | rest | wrote | abandon | shut | report | read | drop | write => rfl

/-- The socket is closed in one phase only. -/
theorem Onward.phase_of_shut {after : Stream} {link' : Link} {report : Option Report}
    (h : Onward s link (after, link', report)) (hafter : after.shut = true)
    (hbefore : s.shut = false) : s.phase = .shutting := by
  cases h with
  | work _ _ shut => exact nomatch hbefore.symm.trans (shut.symm.trans hafter)
  | shut before => exact before
  | stop | report | leave => exact nomatch hbefore.symm.trans hafter

/-- Who reports something has not reported everything. -/
theorem Onward.isLast_of_report {after : Stream} {link' : Link} {report : Report}
    (h : Onward s link (after, link', some report)) : s.phase.isLast = false := by
  cases h with
  | work before => exact (Phase.isLast_of_not_isPast before).1
  | report before => rw [before]; rfl

/-- Who has reported everything reports nothing more. -/
theorem Onward.of_isLast (h : Onward s link outcome) (hlast : s.phase.isLast = true) :
    outcome.1.phase.isLast = true ∧ outcome.2.2 = none := by
  cases h with
  | work before | stop before => exact nomatch before.symm.trans (Phase.isPast_of_isLast hlast)
  | shut before | report before =>
    rw [before] at hlast
    exact nomatch hlast
  | leave => exact ⟨rfl, rfl⟩

/-- Who was not told to stop, and is not, goes on with its work. -/
theorem Onward.of_not_stop (h : Onward s link outcome) (hpast : s.phase.isPast = false)
    (hstop : link.stop = false) :
    outcome.1.phase.isPast = false ∧ outcome.2.1.stop = false ∧ outcome.2.2 ≠ some .closed := by
  cases h with
  | work before after shut stop report_ne => exact ⟨after, stop.trans hstop, report_ne⟩
  | stop before stop => exact nomatch stop.symm.trans hstop
  | shut before | report before | leave before =>
    rw [before] at hpast
    exact nomatch hpast

/-- With the report that the socket is closed everything is reported, and before it is not. -/
theorem Onward.of_not_isLast (h : Onward s link outcome) (hlast : s.phase.isLast = false) :
    outcome.1.phase.isLast = true ∧ outcome.2.2 = some .closed ∨
      outcome.1.phase.isLast = false ∧ outcome.2.2 ≠ some .closed := by
  cases h with
  | work before after shut stop report_ne =>
    exact .inr ⟨(Phase.isLast_of_not_isPast after).1, report_ne⟩
  | stop | shut => exact .inr ⟨rfl, nofun⟩
  | report => exact .inl ⟨rfl, rfl⟩
  | leave before =>
    rw [before] at hlast
    exact nomatch hlast

end NetSession.Stream
