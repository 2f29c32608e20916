import NetSession.Proofs.Client.Traffic
import NetSession.Proofs.Client.Whole

/-!
# Accounts over the runs of a client

A step of a client and its tasks is, on the account of one attempt, a step of its task or `Traffic`
(`passes_of_step`). So in every run the account of every attempt follows from the one before
(`follows_of_run`), and is balanced.
-/

namespace NetSession.Client

open NetSession.Stream.Account (Traffic Passes Follows)

variable {σ : Type}

/-- The step of the task of an attempt that a move is, if it is one. -/
def Move.task? (attempt : Nat) : Move → Option Stream.Move
  | .stream attempt' move => if attempt' = attempt then some move else none
  | _ => none

/-- The step of the task of an attempt that a step is, if it is one. -/
def Turn.task? (attempt : Nat) : Turn → Option Stream.Move
  | .move taken => taken.task? attempt
  | .proceed => none

/-- Only a step of the task of an attempt is one. -/
theorem Turn.eq_of_task? {attempt : Nat} {turn : Turn} {taken : Stream.Move}
    (h : turn.task? attempt = some taken) : turn = .move (.stream attempt taken) := by
  unfold Turn.task? Move.task? at h
  split at h
  · split at h
    · obtain ⟨rfl, heq⟩ := Option.ite_none_right_eq_some.mp h
      rw [Option.some.inj heq]
    · exact nomatch h
  · exact nomatch h

namespace System

variable {y y' : System σ}

/-- What is written down of a step of a task is no send and hands on no bytes. -/
theorem sameAccount_noteStep (attempt : Nat) (c : Client σ) (attempt' : Nat)
    (before after : Stream) : SameAccount attempt c (noteStep c attempt' before after) := by
  have hwrote : SameAccount attempt c (if after.written.length = before.written.length then c
      else c.note (.wrote attempt' (after.written.drop before.written.length))) := by
    split
    · exact .refl attempt c
    · exact .note c rfl rfl
  simp only [noteStep]
  split
  · exact hwrote.trans (.note _ rfl rfl)
  · exact hwrote

/-- A task that takes a step sends nothing in the client's name, and hands on no bytes itself. -/
theorem records_of_stepStream {attempt' : Nat} {move : Stream.Move}
    (hstep : y.stepStream attempt' move = some y') (attempt : Nat) :
    payloads attempt y'.client.trace = payloads attempt y.client.trace ∧
      handed attempt y'.client.trace = handed attempt y.client.trace := by
  simp only [stepStream, Option.bind_eq_bind, Option.bind_eq_some_iff] at hstep
  obtain ⟨before, -, link, -, ⟨after, link', report⟩, -, hy⟩ := hstep
  have hnoted := sameAccount_noteStep attempt y.client attempt' before after
  cases report with
  | none =>
    obtain rfl := Option.some.inj hy
    exact ⟨hnoted.payloads, hnoted.handed⟩
  | some report =>
    obtain rfl := Option.some.inj hy
    have hreported (c : Client σ) :
        SameAccount attempt c (c.note (.reported (eventOf attempt' report))) := .note c rfl rfl
    unfold post
    split
    · rw [(hreported _).payloads, (hreported _).handed]
      exact ⟨hnoted.payloads, hnoted.handed⟩
    · exact ⟨hnoted.payloads, hnoted.handed⟩

/-- What a task reports is a report of its own attempt. -/
theorem report?_eventOf (attempt attempt' : Nat) (report : Stream.Report) :
    (eventOf attempt' report).report? attempt =
      if attempt' = attempt then some report else none := by
  cases report <;> rfl

end System

namespace Machine

variable {m m' : Machine σ} {attempt : Nat} {scene : Scene}

/-- The task of an attempt takes a step. -/
theorem passes_stream {attempt' : Nat} {move : Stream.Move} {y : System σ}
    (hstep : m.system.stepStream attempt' move = some y) :
    Passes ((Move.stream attempt' move).task? attempt) (m.account attempt)
      (({ m with system := y } : Machine σ).account attempt) := by
  obtain ⟨hpayloads, hhanded⟩ := System.records_of_stepStream hstep attempt
  obtain ⟨before, link, outcome, l, hbefore, hlink, htask, -, rfl⟩ := exists_streamed hstep
  have hstream := Ascending.getElem?_insert m.system.streams attempt' attempt outcome.1
  have hlinks := Ascending.getElem?_insert m.client.links attempt' attempt outcome.2.1
  have hmail : (m.system.streamed attempt' outcome l).events.filterMap (·.report? attempt) =
      m.system.events.filterMap (·.report? attempt) ++
        if attempt = attempt' then outcome.2.2.toList else [] := by
    simp only [System.streamed, List.filterMap_append]
    congr 1
    cases hreport : outcome.2.2 with
    | none => simp
    | some report =>
      -- Only what is heard is reported.
      have hrunning : m.system.running = true := by
        by_contra hnot
        rw [Bool.not_eq_true] at hnot
        rw [hnot] at htask
        have hnone := (Stream.takes_of_step htask).report_eq_none
        exact Option.some_ne_none _ (hreport.symm.trans hnone)
      rw [if_pos hrunning, Option.map_some, Option.toList_some, List.filterMap_cons,
        System.report?_eventOf]
      by_cases heq : attempt = attempt'
      · rw [if_pos heq, if_pos heq.symm]
        rfl
      · rw [if_neg heq, if_neg (Ne.symm heq)]
        rfl
  by_cases heq : attempt = attempt'
  · subst heq
    rw [if_pos rfl] at hstream hlinks hmail
    refine .task (if_pos rfl) ⟨before, link, outcome, hbefore, hlink, htask, ?_⟩
    calc ({ m with system := m.system.streamed attempt outcome l } : Machine σ).account attempt
      _ = { m.account attempt with
            link := (m.client.links.insert attempt outcome.2.1)[attempt]?
            stream := (m.system.streams.insert attempt outcome.1)[attempt]?
            mail := (m.system.streamed attempt outcome l).events.filterMap
              (Event.report? attempt)
            accepted := payloads attempt (m.system.streamed attempt outcome l).client.trace
            received := handed attempt (m.system.streamed attempt outcome l).client.trace } := rfl
      _ = _ := by
        rw [hlinks, hstream, hmail, hpayloads, hhanded]
        rfl
  · rw [if_neg heq] at hstream hlinks hmail
    rw [List.append_nil] at hmail
    have hsame : SameAccount attempt m.client (m.system.streamed attempt' outcome l).client :=
      ⟨hlinks, rfl, hpayloads, hhanded⟩
    exact .others (traffic_of_eq (account_eq hsame hstream hmail rfl .rfl))

/-- Something happens at the socket of an attempt. -/
theorem traffic_socket {attempt' : Nat} {before after : Stream}
    (hthere : m.system.streams[attempt']? = some before) (houtside : before.Outside after) :
    Relation.ReflTransGen Traffic (m.account attempt)
      (({ m with system := { m.system with
          streams := m.system.streams.insert attempt' after } } : Machine σ).account attempt) := by
  have hstream := Ascending.getElem?_insert m.system.streams attempt' attempt after
  by_cases heq : attempt = attempt'
  · subst heq
    rw [if_pos rfl] at hstream
    have hsocket : Traffic (m.account attempt) _ :=
      .socket hthere houtside.phase houtside.taken houtside.written houtside.shut
    have hafter : ({ m with system := { m.system with
        streams := m.system.streams.insert attempt after } } : Machine σ).account attempt =
          { m.account attempt with stream := some after } := by
      simp only [Machine.account, hstream]
      rfl
    rw [hafter]
    exact .single hsocket
  · rw [if_neg heq] at hstream
    exact traffic_of_eq (account_eq (.refl ..) hstream rfl rfl .rfl)

/-- An attempt has an outcome. -/
theorem traffic_settleDial {event : Event} (houtcome : event.report? attempt = none)
    (dials : List Nat) :
    Relation.ReflTransGen Traffic (m.account attempt)
      (({ m with system := ({ m.system with dials := dials } : System σ).post event } :
        Machine σ).account attempt) := by
  unfold System.post
  split
  · have hmail : (m.system.events ++ [event]).filterMap (·.report? attempt) =
        m.system.events.filterMap (·.report? attempt) := by
      rw [List.filterMap_append, List.filterMap_cons_none houtcome]
      exact List.append_nil _
    exact traffic_of_eq (account_eq (.note m.client rfl rfl) rfl hmail rfl .rfl)
  · exact .refl

/-- What others do. -/
theorem passes_affects (h : m.client.AtHand) {move : Move} {y : System σ}
    (haffects : m.system.Affects move y) :
    Passes (move.task? attempt) (m.account attempt)
      (({ m with system := y } : Machine σ).account attempt) := by
  cases haffects with
  | @dial _ _ event _ houtcome =>
    have hnone : event.report? attempt = none := by
      rcases houtcome with rfl | ⟨cause, rfl⟩ <;> rfl
    exact .others (traffic_settleDial hnone _)
  | task hstep => exact passes_stream hstep
  | socket hthere houtside => exact .others (traffic_socket hthere houtside)
  | act reaction => exact .others (Client.traffic_perform _ _ _ _ _ h reaction)
  | pass d => exact .others .refl

/-- On the account of an attempt, every step is one of its task, or others do something. -/
theorem Situated.passes_of_step (h : m.Situated) {failed : Prop}
    (hbalanced : (m.account attempt).Balanced failed) {turn : Turn}
    (hstep : m.step turn = some m') :
    Passes (turn.task? attempt) (m.account attempt) (m'.account attempt) := by
  have hathand := h.atHand
  have hsound (hrunning : m.system.running = true) : ∃ scene, m.Sound scene := by
    cases h with
    | running scene _ hsound => exact ⟨scene, hsound⟩
    | stopped hstopped => exact nomatch hstopped.running.symm.trans hrunning
  cases takes_of_step hstep with
  | @advance callback rest rest' c hstage hadvance =>
    have hdone := Client.traffic_advance attempt m.system.streams[attempt]?
      (m.system.events.filterMap (·.report? attempt)) m.system.running
      (decide (.spawn attempt ∈ m.jobs)) hathand rest
    rw [hadvance] at hdone
    exact .others hdone
  | @leave callback rest memory c hstage hadvance =>
    -- Nothing is left to be done, so the client is as before, but for its memory.
    have hclient : c = m.client := by
      cases rest with
      | done value => exact (Prod.mk.inj hadvance).2.symm
      | look | send | shutdown | say => exact nomatch congrArg Prod.fst hadvance
    subst hclient
    exact .others (traffic_same (.of_eq rfl rfl rfl rfl))
  | perform hstage hjobs =>
    cases h with
    | running scene _ hsound => exact .others (hsound.traffic_perform hjobs)
    | stopped hstopped => exact nomatch hstopped.jobs.symm.trans hjobs
  | shutdown hrunning hidle => exact .others (traffic_shutdown (of_isIdle hidle).2)
  | handle hrunning hidle hevents =>
    obtain ⟨scene, hsound⟩ := hsound hrunning
    exact .others (hsound.traffic_handle hathand hrunning (of_isIdle hidle).2 hbalanced hevents)
  | @tick timer => exact .others (traffic_tick (m.setTimer (timer.tick m.system.now)))
  | other _ haffects => exact passes_affects hathand haffects

/-! ## Runs -/

/-- In a run the account of an attempt follows the one before. -/
theorem Situated.follows_of_run (h : m.Situated) {failed : Prop}
    (hbalanced : (m.account attempt).Balanced failed) {turns : List Turn}
    (hrun : m.run turns = some m') :
    Follows (turns.map (Turn.task? attempt)) (m.account attempt) (m'.account attempt) := by
  induction turns generalizing m failed with
  | nil =>
    obtain rfl := Option.some.inj hrun
    exact .refl _
  | cons turn turns ih =>
    obtain ⟨next, hstep, hrest⟩ := Option.bind_eq_some_iff.mp hrun
    have hpasses := h.passes_of_step hbalanced hstep
    exact .step hpasses (ih (h.step hstep) (hbalanced.passes hpasses) hrest)

/-- Before any connection was made, every account is balanced. -/
theorem balanced_start (config : ClientConfig) (target : Endpoint) (handler : Handler σ)
    (memory : σ) (now : Instant) (attempt : Nat) :
    ((Machine.start config target handler memory now).account attempt).Balanced False := by
  -- Only the first attempt was begun.
  have hbegun : SameAccount attempt
      ({ config, target, handler, memory, attempt := 1, state := .connecting } : Client σ)
      (Machine.start config target handler memory now).client :=
    .trans (.say ..) (.note _ rfl rfl)
  exact Stream.Account.balanced_of_blank rfl rfl rfl rfl hbegun.payloads hbegun.handed

variable {config : ClientConfig} {target : Endpoint} {handler : Handler σ} {memory : σ}
  {now : Instant}

/-- At any time the account of an attempt is balanced. -/
theorem balanced_of_run
    (hrun : (Machine.start config target handler memory now).run turns = some m) (attempt : Nat) :
    (m.account attempt).Balanced (∃ cause, .move (.stream attempt (.fail cause)) ∈ turns) := by
  have hstill : (Machine.start config target handler memory now).run [] = some _ := rfl
  have hsituated := situated_of_run hstill
  have hstart := balanced_start config target handler memory now attempt
  refine (hstart.follows (hsituated.follows_of_run hstart hrun)).mono ?_
  rintro (hfalse | ⟨taken, hmem, hfails⟩)
  · exact hfalse.elim
  · obtain ⟨cause, rfl⟩ := Stream.Move.exists_cause hfails
    obtain ⟨turn, hturn, htask⟩ := List.mem_map.mp hmem
    exact ⟨cause, Turn.eq_of_task? htask ▸ hturn⟩

/-- In whole steps, too, the account of an attempt is balanced at any time. -/
theorem balanced_of_system_run {y : System σ} {moves : List Move}
    (hrun : (System.start config target handler memory now).run moves = some y) (attempt : Nat) :
    (Machine.account ⟨y, none, []⟩ attempt).Balanced
      (∃ cause, .stream attempt (.fail cause) ∈ moves) := by
  obtain ⟨turns, hturns, hmoves⟩ := plays_of_run hrun
  refine (balanced_of_run hturns attempt).mono fun ⟨cause, hmem⟩ => ⟨cause, ?_⟩
  rw [← hmoves]
  exact List.mem_filterMap.mpr ⟨_, hmem, rfl⟩

end Machine

end NetSession.Client
