import NetSession.Stream.Basic

/-!
# What a step of a task can be

`Stream.Takes` lists the steps of a task, each with how far the task was before and what it leaves,
and `takes_of_step` says that there are no others. What happens at its socket from outside
(`Stream.Outside`) is no step of a task.
-/

namespace NetSession.Stream

/-- Whether a task still moves bytes. -/
def Phase.isPumping : Phase → Bool
  | .looking _ | .writing _ => true
  | .waiting | .shutting | .reporting | .leaving | .ended => false

/-- A task leads to an outcome by a step. -/
inductive Takes (s : Stream) (link : Link) (heard : Bool) : Move → Outcome → Prop where
  /-- It takes the signal to stop. -/
  | obey (phase : s.phase = .looking .stop ∨ s.phase = .waiting) (stop : link.stop = true) :
      Takes s link heard .go ({ s with phase := .shutting }, link.takeStop, none)
  /-- It is not told to stop, and looks at the queue next. -/
  | look (phase : s.phase = .looking .stop) (stop : link.stop = false) :
      Takes s link heard .go ({ s with phase := .looking .queue }, link, none)
  /-- It takes the payload that has waited longest. -/
  | pop {data : Bytes} {link' : Link} (phase : s.phase = .looking .queue)
      (pop : link.pop? = some (data, link')) :
      Takes s link heard .go ({ s with phase := .writing data }, link', none)
  /-- No payload waits, and it looks at the socket next. -/
  | skip (phase : s.phase = .looking .queue) (pop : link.pop? = none) :
      Takes s link heard .go ({ s with phase := .looking .socket }, link, none)
  /-- There is nothing at the socket. -/
  | rest (phase : s.phase = .looking .socket) (arrived : s.arrived = [])
      (ending : s.ending = none) :
      Takes s link heard .go ({ s with phase := .looking .stop }, link, none)
  /-- The socket is at its end. -/
  | finish {failure : Option String} (phase : s.phase = .looking .socket) (arrived : s.arrived = [])
      (ending : s.ending = some failure) :
      Takes s link heard .go (s.reportEnd link heard failure)
  /-- A payload is written. -/
  | wrote (phase : s.phase = .writing []) :
      Takes s link heard .go ({ s with phase := .looking .stop }, link, none)
  /-- Nobody is left to tell it to stop. -/
  | abandon (phase : s.phase = .waiting) (stop : link.stop = false) (unheard : heard = false) :
      Takes s link heard .go ({ s with phase := .shutting }, link, none)
  /-- It closes the socket. -/
  | shut (phase : s.phase = .shutting) :
      Takes s link heard .go ({ s with phase := .reporting, shut := true }, link, none)
  /-- It reports that the socket is closed. -/
  | report (phase : s.phase = .reporting) :
      Takes s link heard .go
        ({ s with phase := .leaving }, link, if heard then some .closed else none)
  /-- It ends. -/
  | leave (phase : s.phase = .leaving) :
      Takes s link heard .go ({ s with phase := .ended }, link.hangUp, none)
  /-- It reads bytes and reports them. -/
  | read {count : Nat} (phase : s.phase = .looking .socket) (heard_eq : heard = true) :
      Takes s link heard (.read count)
        ({ s with
            phase := .looking .stop
            arrived := s.arrived.drop count
            taken := s.taken ++ s.arrived.take count },
          link, some (.read (s.arrived.take count)))
  /-- It reads bytes that nobody hears of. -/
  | drop {count : Nat} (phase : s.phase = .looking .socket) (unheard : heard = false) :
      Takes s link heard (.read count)
        ({ s with
            phase := .shutting
            arrived := s.arrived.drop count
            taken := s.taken ++ s.arrived.take count },
          link, none)
  /-- It writes bytes of the payload at hand. -/
  | write {rest : Bytes} {count : Nat} (phase : s.phase = .writing rest) :
      Takes s link heard (.write count)
        ({ s with
            phase := .writing (rest.drop count)
            written := s.written ++ rest.take count }, link, none)
  /-- The write of the payload at hand fails. -/
  | fail {rest : Bytes} {cause : String} (phase : s.phase = .writing rest) :
      Takes s link heard (.fail cause) (s.reportEnd link heard (some cause))

variable {s : Stream} {link : Link} {heard : Bool} {outcome : Outcome}

/-- Every step without bytes is one of these. -/
theorem takes_of_go (hstep : s.go link heard = some outcome) : s.Takes link heard .go outcome := by
  -- The cases are those of `go`, by the phase that the task is in.
  rw [go.eq_def] at hstep
  split at hstep
  · next hphase =>
    split at hstep
    · next hstop =>
      obtain rfl := Option.some.inj hstep
      exact .obey (.inl hphase) hstop
    · next hstop =>
      obtain rfl := Option.some.inj hstep
      exact .look hphase (Bool.not_eq_true _ ▸ hstop)
  · next hphase =>
    split at hstep
    · next hpop =>
      obtain rfl := Option.some.inj hstep
      exact .pop hphase hpop
    · next hpop =>
      obtain rfl := Option.some.inj hstep
      exact .skip hphase hpop
  · next hphase =>
    split at hstep
    · next harrived hending =>
      obtain rfl := Option.some.inj hstep
      exact .rest hphase harrived hending
    · next harrived hending =>
      obtain rfl := Option.some.inj hstep
      exact .finish hphase harrived hending
    · exact nomatch hstep
  · next hphase =>
    obtain rfl := Option.some.inj hstep
    exact .wrote hphase
  · exact nomatch hstep
  · next hphase =>
    split at hstep
    · next hstop =>
      obtain rfl := Option.some.inj hstep
      exact .obey (.inr hphase) hstop
    · next hstop =>
      split at hstep
      · exact nomatch hstep
      · next hheard =>
        obtain rfl := Option.some.inj hstep
        exact .abandon hphase (Bool.not_eq_true _ ▸ hstop) (Bool.not_eq_true _ ▸ hheard)
  · next hphase =>
    obtain rfl := Option.some.inj hstep
    exact .shut hphase
  · next hphase =>
    obtain rfl := Option.some.inj hstep
    exact .report hphase
  · next hphase =>
    obtain rfl := Option.some.inj hstep
    exact .leave hphase
  · exact nomatch hstep

/-- Every step of a task is one of these. -/
theorem takes_of_step {move : Move} (hstep : s.step link heard move = some outcome) :
    s.Takes link heard move outcome := by
  cases move with
  | go => exact takes_of_go hstep
  | read count =>
    simp only [step, Stream.read] at hstep
    split at hstep
    · next hcan =>
      cases heard with
      | true =>
        obtain rfl := Option.some.inj hstep
        exact .read hcan.1 rfl
      | false =>
        obtain rfl := Option.some.inj hstep
        exact .drop hcan.1 rfl
    · exact nomatch hstep
  | write count =>
    simp only [step, Stream.write] at hstep
    split at hstep
    · next rest hphase =>
      split at hstep
      · obtain rfl := Option.some.inj hstep
        exact .write hphase
      · exact nomatch hstep
    · exact nomatch hstep
  | fail cause =>
    simp only [step, failWrite] at hstep
    split at hstep
    · next first rest hphase =>
      obtain rfl := Option.some.inj hstep
      exact .fail hphase
    · exact nomatch hstep

/-- Something has happened at the socket of a task from outside: what the task did and how far it is
stays as it is. -/
structure Outside (before after : Stream) : Prop where
  /-- The task is as far as before. -/
  phase : after.phase = before.phase
  /-- It has read nothing more. -/
  taken : after.taken = before.taken
  /-- It has written nothing more. -/
  written : after.written = before.written
  /-- It has not closed the socket. -/
  shut : after.shut = before.shut

/-- Bytes arrive. -/
theorem outside_arrive (s : Stream) (data : Bytes) : s.Outside (s.arrive data) := by
  unfold arrive
  split <;> exact ⟨rfl, rfl, rfl, rfl⟩

/-- The peer is at its end. -/
theorem outside_finish (s : Stream) : s.Outside s.finish := by
  unfold finish
  split <;> exact ⟨rfl, rfl, rfl, rfl⟩

/-- The socket fails. -/
theorem outside_fail (s : Stream) (cause : String) : s.Outside (s.fail cause) :=
  ⟨rfl, rfl, rfl, rfl⟩

/-- A task that has ended takes no step. -/
theorem Takes.phase_ne_ended {move : Move} (h : s.Takes link heard move outcome) :
    s.phase ≠ .ended := by
  intro hended
  cases h with
  | obey hphase => rcases hphase with hphase | hphase <;> exact nomatch hended.symm.trans hphase
  | look hphase | pop hphase | skip hphase | rest hphase | finish hphase | wrote hphase
  | abandon hphase | shut hphase | report hphase | leave hphase | read hphase | drop hphase
  | write hphase | fail hphase => exact nomatch hended.symm.trans hphase

/-- A task that nobody hears reports nothing. -/
theorem Takes.report_eq_none {move : Move} (h : s.Takes link false move outcome) :
    outcome.2.2 = none := by
  cases h with
  | read _ hheard => exact nomatch hheard
  | obey | look | pop | skip | rest | finish | wrote | abandon | shut | report | leave | drop
  | write | fail => rfl

end NetSession.Stream
