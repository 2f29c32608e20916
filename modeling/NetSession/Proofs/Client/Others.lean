import NetSession.Proofs.Client.Steps

/-!
# What others do

Attempts report their outcome, tasks take steps, bytes arrive, and whoever holds the client sends or
asks for a shutdown, whatever the client is at. A machine stays in its scene at that, or goes over
from `dialing` to `answered` (`Sound.others`). `exists_streamed` says what a step of a task does to
the system, and `Aside` what all these steps leave alone.
-/

namespace NetSession.Client

variable {σ : Type}

/-- The system after a step of the task of an attempt, at which some things were written down. -/
def System.streamed (y : System σ) (attempt : Nat) (outcome : Stream.Outcome)
    (l : List Happening) : System σ :=
  { y with
    client := { y.client with
      links := y.client.links.insert attempt outcome.2.1
      trace := y.client.trace ++ l }
    streams := y.streams.insert attempt outcome.1
    events := y.events ++
      if y.running then (outcome.2.2.map (System.eventOf attempt)).toList else [] }

/-- Only what is minor is written down about a stream. -/
theorem exists_noteStep (c : Client σ) (attempt : Nat) (before after : Stream) :
    ∃ l, (∀ e ∈ l, e.IsMinor) ∧
      System.noteStep c attempt before after = { c with trace := c.trace ++ l } := by
  obtain ⟨l, hl, hwrote⟩ : ∃ l, (∀ e ∈ l, e.IsMinor) ∧
      (if after.written.length = before.written.length then c
        else c.note (.wrote attempt (after.written.drop before.written.length))) =
          { c with trace := c.trace ++ l } := by
    split
    · exact ⟨[], by simp, by rw [List.append_nil]⟩
    · exact ⟨[_], by simp [Happening.IsMinor], rfl⟩
  simp only [System.noteStep, hwrote]
  split
  · refine ⟨l ++ [.shut attempt], ?_, by rw [← List.append_assoc]; rfl⟩
    rw [List.forall_mem_append, List.forall_mem_singleton]
    exact ⟨hl, trivial⟩
  · exact ⟨l, hl, rfl⟩

/-- Every step of a task is one of these. -/
theorem exists_streamed {y y' : System σ} {attempt : Nat} {move : Stream.Move}
    (hstep : y.stepStream attempt move = some y') :
    ∃ before link outcome l, y.streams[attempt]? = some before ∧
      y.client.links[attempt]? = some link ∧ before.step link y.running move = some outcome ∧
      (∀ e ∈ l, e.IsMinor) ∧ y' = y.streamed attempt outcome l := by
  obtain ⟨before, hbefore, hstep⟩ := Option.bind_eq_some_iff.mp hstep
  obtain ⟨link, hlink, hstep⟩ := Option.bind_eq_some_iff.mp hstep
  obtain ⟨⟨after, link', report⟩, houtcome, hstep⟩ := Option.bind_eq_some_iff.mp hstep
  obtain ⟨l, hl, hnoted⟩ := exists_noteStep y.client attempt before after
  simp only [hnoted] at hstep
  cases report with
  | none =>
    obtain rfl := Option.some.inj hstep
    refine ⟨before, link, _, l, hbefore, hlink, houtcome, hl, ?_⟩
    simp [System.streamed]
  | some report =>
    obtain rfl := Option.some.inj hstep
    cases hrunning : y.running with
    | false =>
      rw [hrunning] at houtcome
      refine ⟨before, link, _, l, hbefore, hlink, houtcome, hl, ?_⟩
      simp [System.streamed, System.post, hrunning]
    | true =>
      rw [hrunning] at houtcome
      refine ⟨before, link, _, l ++ [.reported (System.eventOf attempt report)], hbefore, hlink,
        houtcome, ?_, ?_⟩
      · rw [List.forall_mem_append, List.forall_mem_singleton]
        exact ⟨hl, trivial⟩
      · simp [System.streamed, System.post, hrunning, Client.note]

/-- Others have done something, and left alone what is the client's own. -/
structure Aside (y y' : System σ) : Prop where
  /-- The client runs as before. -/
  running : y'.running = y.running
  /-- It runs with the same configuration. -/
  config : y'.client.config = y.client.config
  /-- It is in the same state. -/
  state : y'.client.state = y.client.state
  /-- Payloads go the same way. -/
  outlet : y'.client.outlet = y.client.outlet
  /-- The same task can be told to stop. -/
  stopper : y'.client.stopper = y.client.stopper
  /-- It has not begun to shut down. -/
  stopping : y'.client.stopping = y.client.stopping
  /-- The heartbeat did not tick. -/
  heartbeats : y'.client.heartbeats = y.client.heartbeats
  /-- No attempt was begun. -/
  attempt : y'.client.attempt = y.client.attempt
  /-- Only what is minor was written down. -/
  trace : ∃ l, y'.client.trace = y.client.trace ++ l ∧ ∀ e ∈ l, e.IsMinor

/-- Others have done something that is calm. -/
theorem Aside.of_calm {y y' : System σ} (hrunning : y'.running = y.running)
    (h : Calm y.client y'.client) : Aside y y' :=
  ⟨hrunning, h.config, h.state, h.outlet, h.stopper, h.stopping, h.heartbeats, h.attempt, h.trace⟩

/-- What others do leaves alone what is the client's own. -/
theorem aside_of_affects {y y' : System σ} {move : Move} (haffects : y.Affects move y') :
    Aside y y' := by
  cases haffects with
  | dial =>
    unfold System.post
    split
    · exact .of_calm rfl (.note _ trivial)
    · exact .of_calm rfl (.refl _)
  | task hstep =>
    obtain ⟨before, link, outcome, l, -, -, -, hl, rfl⟩ := exists_streamed hstep
    exact ⟨rfl, rfl, rfl, rfl, rfl, rfl, rfl, rfl, l, rfl, hl⟩
  | act reaction => exact .of_calm rfl (calm_perform y.client reaction)
  | socket | pass => exact .of_calm rfl (.refl _)

namespace Machine

variable {m m' : Machine σ} {scene : Scene}

/-- How far tasks are after a step of one of them. -/
theorem phase_streamed (m : Machine σ) (attempt : Nat) (outcome : Stream.Outcome)
    (l : List Happening) (attempt' : Nat) :
    phase { m with system := m.system.streamed attempt outcome l } attempt' =
      if attempt' = attempt then some outcome.1.phase else m.phase attempt' := by
  change ((m.system.streams.insert attempt outcome.1)[attempt']?.map (·.phase)) = _
  rw [Ascending.getElem?_insert]
  split <;> rfl

/-- How links are after a step of a task. -/
theorem link_streamed (m : Machine σ) (attempt : Nat) (outcome : Stream.Outcome)
    (l : List Happening) (attempt' : Nat) :
    link { m with system := m.system.streamed attempt outcome l } attempt' =
      if attempt' = attempt then some outcome.2.1.outline else m.link attempt' := by
  change ((m.client.links.insert attempt outcome.2.1)[attempt']?.map Link.outline) = _
  rw [Ascending.getElem?_insert]
  split <;> rfl

/-- A step of a task keeps the scene, as long as the mailbox, the link and the task of the attempt
at hand are as they should be afterwards, and an earlier task has reported everything. -/
theorem Sound.streamed (h : m.Sound scene) {attempt : Nat} {outcome : Stream.Outcome}
    {l : List Happening} (hl : ∀ e ∈ l, e.IsMinor) (hle : attempt ≤ m.client.attempt)
    (hlast : attempt < m.client.attempt → outcome.1.phase.isLast = true)
    (htask : scene.Task m.client.attempt
      (m.system.events ++ if m.system.running then
        (outcome.2.2.map (System.eventOf attempt)).toList else [])
      (if m.client.attempt = attempt then some outcome.2.1.outline else m.link m.client.attempt)
      (if m.client.attempt = attempt then some outcome.1.phase else m.phase m.client.attempt)) :
    Sound { m with system := m.system.streamed attempt outcome l } scene := by
  refine ⟨⟨h.state, h.outlet, h.stopper, h.dials, h.jobs, ?_, ?_⟩, h.inside, ?_⟩
  · rw [phase_streamed, link_streamed]
    exact htask
  · intro attempt' p hp
    rw [phase_streamed] at hp
    split at hp
    · next heq =>
      obtain rfl := Option.some.inj hp
      rw [heq]
      exact ⟨hle, hlast⟩
    · exact h.older attempt' p hp
  · exact h.recorded.minor rfl rfl ⟨l, rfl, hl⟩

/-- What a task reports before it closes the socket is news. -/
theorem isNews_of_ne {report : Option Stream.Report} (h : report ≠ some .closed) (attempt : Nat) :
    ∀ event ∈ (report.map (System.eventOf attempt)).toList, event.IsNews attempt := by
  intro event hmem
  obtain ⟨report', hreport, rfl⟩ := Option.map_eq_some_iff.mp (Option.mem_toList.mp hmem)
  cases report' with
  | read | ended => rfl
  | closed => exact absurd hreport h

/-- The task of the attempt at hand takes a step. -/
theorem Sound.streamed_current (h : m.Sound scene) (hrunning : m.system.running = true)
    {before : Stream} {link : Link} {outcome : Stream.Outcome} {l : List Happening}
    {move : Stream.Move} (hbefore : m.phase m.client.attempt = some before.phase)
    (hlink : m.link m.client.attempt = some link.outline)
    (hstep : before.step link true move = some outcome) (hl : ∀ e ∈ l, e.IsMinor) :
    Sound { m with system := m.system.streamed m.client.attempt outcome l } scene := by
  have htask := h.task
  have honward := Stream.onward_of_step hstep
  apply h.streamed hl (Nat.le_refl _) fun hlt => absurd hlt (Nat.lt_irrefl _)
  rw [if_pos rfl, if_pos rfl, if_pos hrunning]
  rw [hbefore] at htask
  cases scene with
  | resting | failing | failed =>
    -- The task of the last connection ends.
    obtain ⟨hevents, hsettled⟩ := htask
    obtain ⟨hlast, hreport⟩ := honward.of_isLast (hsettled _ rfl)
    refine ⟨by rw [hevents, hreport]; rfl, fun p hp => ?_⟩
    rw [← Option.some.inj hp]
    exact hlast
  | dialing => exact nomatch htask.2
  | answered => exact nomatch htask.2.2
  | opening => exact nomatch htask.2.1
  | opened | hanging =>
    obtain ⟨hnews, hattached, p, hp, hpast⟩ := htask
    obtain rfl := Option.some.inj hp
    rw [hlink] at hattached
    obtain ⟨hstop, hqueue⟩ := Prod.mk.inj (Option.some.inj hattached)
    obtain ⟨hpast', hstop', hreport⟩ := honward.of_not_stop hpast hstop
    -- The queue is given up only when all is reported.
    have hqueue' : outcome.2.1.queue.isSome = true := by
      rw [Stream.isSome_queue_of_step hstep, hqueue]
      intro hleaving
      rw [hleaving] at hpast
      exact nomatch hpast
    refine ⟨?_, by rw [Link.outline, hstop', hqueue'], _, rfl, hpast'⟩
    rw [List.forall_mem_append]
    exact ⟨hnews, isNews_of_ne hreport _⟩
  | closing =>
    obtain ⟨news, p, hnews, hp, hevents⟩ := htask
    obtain rfl := Option.some.inj hp
    cases hlast : before.phase.isLast with
    | true =>
      obtain ⟨hlast', hreport⟩ := honward.of_isLast hlast
      refine ⟨news, _, hnews, rfl, ?_⟩
      rw [hevents, hlast, hlast', hreport]
      exact List.append_nil _
    | false =>
      rw [hlast] at hevents
      obtain ⟨hlast', hreport⟩ | ⟨hlast', hreport⟩ := honward.of_not_isLast hlast
      · refine ⟨news, _, hnews, rfl, ?_⟩
        rw [hevents, hlast', hreport, List.append_assoc]
        rfl
      · refine ⟨news ++ (outcome.2.2.map (System.eventOf m.client.attempt)).toList, _, ?_, rfl, ?_⟩
        · rw [List.forall_mem_append]
          exact ⟨hnews, isNews_of_ne hreport _⟩
        · rw [hevents, hlast']
          simp

/-- A task takes a step. -/
theorem Sound.stepStream (h : m.Sound scene) (hrunning : m.system.running = true) {attempt : Nat}
    {move : Stream.Move} {y : System σ} (hstep : m.system.stepStream attempt move = some y) :
    Sound { m with system := y } scene := by
  obtain ⟨before, link, outcome, l, hbefore, hlink, houtcome, hl, rfl⟩ := exists_streamed hstep
  rw [hrunning] at houtcome
  have hphase : m.phase attempt = some before.phase := by
    rw [phase, hbefore]
    rfl
  obtain ⟨hle, hlast⟩ := h.older attempt _ hphase
  rcases Nat.lt_or_eq_of_le hle with hlt | rfl
  · -- The task of an earlier attempt has reported everything.
    obtain ⟨hlast', hreport⟩ := (Stream.onward_of_step houtcome).of_isLast (hlast hlt)
    apply h.streamed hl hle fun _ => hlast'
    rw [if_neg (Nat.ne_of_gt hlt), if_neg (Nat.ne_of_gt hlt), if_pos hrunning, hreport]
    simpa using h.task
  · exact h.streamed_current hrunning hphase (by rw [Machine.link, hlink]; rfl) houtcome hl

/-- An attempt reports its outcome. -/
theorem Sound.settleDial (h : m.Sound scene) (hrunning : m.system.running = true) {attempt : Nat}
    {event : Event} (hunderway : attempt ∈ m.system.dials) (hevent : event.IsOutcome attempt) :
    Sound { m with
      system := ({ m.system with dials := m.system.dials.erase attempt }).post event }
        (.answered event) := by
  rw [h.dials] at hunderway
  -- Only while the outcome is open there is such an attempt.
  cases scene with
  | dialing =>
    obtain rfl := List.mem_singleton.mp hunderway
    obtain ⟨hevents, hphase⟩ := h.task
    have hdials : m.system.dials = [m.client.attempt] := h.dials
    have hpost : { m.system with dials := m.system.dials.erase m.client.attempt }.post event =
        { m.system with
          client := m.client.note (.reported event)
          dials := []
          events := [event] } := by
      simp only [System.post, hrunning, hdials, hevents, if_true, List.erase_cons_head,
        List.nil_append]
    rw [hpost]
    refine ⟨⟨h.state, h.outlet, h.stopper, rfl, h.jobs, ⟨rfl, hevent, hphase⟩, h.older⟩,
      h.inside, ?_⟩
    exact h.recorded.calm (.note _ trivial)
  | resting | answered | failing | failed | opening | opened | hanging | closing =>
    exact absurd hunderway List.not_mem_nil

/-- Something happens at the socket of a task. -/
theorem Sound.socket (h : m.Sound scene) {attempt : Nat} {before after : Stream}
    (hthere : m.system.streams[attempt]? = some before) (houtside : before.Outside after) :
    Sound { m with system := { m.system with
      streams := m.system.streams.insert attempt after } } scene := by
  refine h.calm (.refl _) rfl rfl (fun attempt' => ?_) rfl fun _ htag => htag
  change ((m.system.streams.insert attempt after)[attempt']?.map (·.phase)) = _
  rw [Ascending.getElem?_insert]
  split
  · next heq =>
    rw [heq, phase, hthere]
    exact congrArg some houtside.phase
  · rfl

/-- Whatever others do, the machine stays in its scene, or an attempt has reported its outcome. -/
theorem Sound.others (h : m.Sound scene) (hrunning : m.system.running = true) {move : Move}
    {y : System σ} (haffects : m.system.Affects move y) : Situated { m with system := y } := by
  have hrunning' : y.running = true := (aside_of_affects haffects).running.trans hrunning
  cases haffects with
  | @dial _ attempt event hunderway houtcome =>
    have hevent : event.IsOutcome attempt := by
      rcases houtcome with rfl | ⟨cause, rfl⟩ <;> rfl
    exact .running _ hrunning' (h.settleDial hrunning hunderway hevent)
  | task hstep => exact .running scene hrunning' (h.stepStream hrunning hstep)
  | socket hthere houtside => exact .running scene hrunning' (h.socket hthere houtside)
  | act reaction =>
    have hcalm := calm_perform m.client reaction
    exact .running scene hrunning' (h.calm hcalm rfl rfl (fun _ => rfl) rfl fun _ htag => htag)
  | pass d =>
    exact .running scene hrunning' (h.calm (.refl _) rfl rfl (fun _ => rfl) rfl fun _ htag => htag)

end Machine

end NetSession.Client
