import NetSession.Proofs.Client.Account
import NetSession.Proofs.Client.Attempts
import NetSession.Proofs.Stream.Settled

/-!
# What a client does to accounts

Whatever a client does by itself, what it takes in included, is `Traffic` on the account of any one
attempt: it ends, closes or begins the attempt at hand, and hands on what is read on it while it is
connected.
-/

namespace NetSession.Client

open NetSession.Stream.Account (Traffic)

variable {σ : Type}

/-- The attempt that a client with this record has begun last is the one at hand. -/
theorem Recorded.lastDialed {c : Client σ} {spot : Spot} (h : c.Recorded spot) :
    lastDialed c.trace = c.attempt := by
  rw [Client.lastDialed, h.dialed]
  cases c.attempt with
  | zero => rfl
  | succ attempt => rw [List.range'_concat, List.getLastD_concat, Nat.one_mul, Nat.add_comm 1]

namespace Machine

variable {m m' : Machine σ} {attempt : Nat} {scene : Scene}

/-- A client sends on the attempt at hand only. -/
theorem Situated.atHand (h : m.Situated) : m.client.AtHand := by
  obtain ⟨spot, hrecorded⟩ := h.recorded
  refine ⟨hrecorded.lastDialed, fun attempt houtlet => ?_⟩
  cases h with
  | running scene hrunning hsound =>
    have hscene := hsound.outlet.symm.trans houtlet
    cases scene with
    | opening | opened => exact (Option.some.inj hscene).symm
    | resting | dialing | answered | failing | failed | hanging | closing => exact nomatch hscene
  | stopped hstopped => exact nomatch hstopped.outlet.symm.trans houtlet

/-- Where nothing that counts has changed, the account is the same. -/
theorem account_eq (hclient : SameAccount attempt m.client m'.client)
    (hstreams : m'.system.streams[attempt]? = m.system.streams[attempt]?)
    (hevents : m'.system.events.filterMap (·.report? attempt) =
      m.system.events.filterMap (·.report? attempt))
    (hrunning : m'.system.running = m.system.running)
    (hjobs : .spawn attempt ∈ m'.jobs ↔ .spawn attempt ∈ m.jobs) :
    m'.account attempt = m.account attempt := by
  unfold Machine.account
  rw [hclient.account_eq, hstreams, hevents, hrunning, decide_eq_decide.mpr hjobs]

/-- On an account that is the same nothing happens. -/
theorem traffic_of_eq (h : m'.account attempt = m.account attempt) :
    Relation.ReflTransGen Traffic (m.account attempt) (m'.account attempt) := by
  rw [h]

/-- A callback is called that hands on no bytes. -/
theorem account_call (m : Machine σ) {callback : Callback}
    (hbytes : (Happening.called callback m.client.state).bytes? = none) :
    (m.call callback).account attempt = m.account attempt :=
  account_eq (.note m.client rfl hbytes) rfl rfl rfl .rfl

/-- A client that is not connected is open on no attempt. -/
theorem isOpen_of_ne {c : Client σ} (h : c.state ≠ .connected) : c.isOpen attempt = false := by
  rw [isOpen, isConnected, beq_eq_false_iff_ne.mpr h, Bool.and_false]

/-- A client goes over to another state than connected. -/
theorem traffic_leave {c : Client σ} (hlinks : c.links[attempt]? = m.client.links[attempt]?)
    (htrace : c.trace = m.client.trace) (hstate : c.state ≠ .connected) :
    Traffic (m.account attempt) ((m.setClient c).account attempt) := by
  have hafter : (m.setClient c).account attempt = { m.account attempt with isOpen := false } := by
    simp only [Machine.account, Client.account, setClient, client, hlinks, htrace,
      isOpen_of_ne hstate]
    rfl
  rw [hafter]
  exact .close

/-- The client has other things to do, but the same tasks to start. -/
theorem account_jobs (m : Machine σ) {jobs : List Job}
    (hjobs : .spawn attempt ∈ jobs ↔ .spawn attempt ∈ m.jobs) :
    ({ m with jobs := jobs } : Machine σ).account attempt = m.account attempt :=
  account_eq (.refl ..) rfl rfl rfl hjobs

/-- The client stops. -/
theorem traffic_stop (m : Machine σ) : Relation.ReflTransGen Traffic (m.account attempt)
    (({ m with system := m.system.stop } : Machine σ).account attempt) := by
  have hleft : Traffic (m.account attempt)
      ((m.setClient (m.client.become .disconnected)).account attempt) :=
    traffic_leave rfl rfl nofun
  have hsaid : SameAccount attempt (m.client.become .disconnected)
      ((m.client.become .disconnected).say .info "stopped") := .say ..
  have hafter : ({ m with system := m.system.stop } : Machine σ).account attempt =
      { (m.setClient (m.client.become .disconnected)).account attempt with
        mail := [], heard := false } :=
    hsaid.account_eq _ _ _ _
  rw [hafter]
  exact .tail (.single hleft) .stop

/-- A connection begins to close, if there is one. -/
theorem traffic_close (m : Machine σ) {jobs : List Job}
    (hjobs : .spawn attempt ∈ jobs ↔ .spawn attempt ∈ m.jobs) :
    Relation.ReflTransGen Traffic (m.account attempt) ((m.close jobs).account attempt) := by
  unfold Machine.close
  split
  · have hleft : Traffic (m.account attempt)
        ((m.setClient { m.client with state := .closing, outlet := none }).account attempt) :=
      traffic_leave rfl rfl nofun
    have hspawn : .spawn attempt ∈ Job.signal :: jobs ↔ .spawn attempt ∈ m.jobs := by
      simpa using hjobs
    rw [account_call _ rfl]
    exact .trans (.single hleft) (traffic_of_eq (account_jobs (m.setClient _) hspawn))
  · exact traffic_of_eq (account_jobs m hjobs)

/-- The task of the connection is told to stop. -/
theorem traffic_signalStop (m : Machine σ) : Relation.ReflTransGen Traffic (m.account attempt)
    ((m.setClient m.client.signalStop).account attempt) := by
  unfold signalStop
  split
  · exact .refl
  · next stopped hstopper =>
    have halter : (m.client.links.alter stopped (·.map Link.signal))[attempt]? =
        if stopped = attempt then m.client.links[stopped]?.map Link.signal
          else m.client.links[attempt]? := by
      rw [Std.TreeMap.getElem?_alter]
      simp only [Nat.compare_eq_eq]
    -- Only a link that is there is told.
    have hsame (h : (m.client.links.alter stopped (·.map Link.signal))[attempt]? =
        m.client.links[attempt]?) : Relation.ReflTransGen Traffic (m.account attempt)
          ((m.setClient { m.client with
            links := m.client.links.alter stopped (·.map Link.signal) }).account attempt) :=
      traffic_of_eq (account_eq (.of_eq h rfl rfl rfl) rfl rfl rfl .rfl)
    by_cases heq : stopped = attempt
    · subst heq
      rw [if_pos rfl] at halter
      cases hlink : m.client.links[stopped]? with
      | none =>
        apply hsame
        rw [halter, hlink]
        rfl
      | some link =>
        rw [hlink] at halter
        have hsignal : Traffic (m.account stopped) _ := .signal hlink
        have hafter : (m.setClient { m.client with
            links := m.client.links.alter stopped (·.map Link.signal) }).account stopped =
              { m.account stopped with link := some link.signal } := by
          simp only [Machine.account, Client.account, setClient, client] at halter ⊢
          rw [halter]
          rfl
        rw [hafter]
        exact .single hsignal
    · rw [if_neg heq] at halter
      exact hsame halter

/-- The client goes over to another state, and calls the callback that tells of it. -/
theorem traffic_enter (m : Machine σ) {state : State} {callback : Callback}
    (hstate : state ≠ .connected) (hbytes : ∀ data, callback ≠ .received data) :
    Relation.ReflTransGen Traffic (m.account attempt)
      (((m.setClient (m.client.become state)).call callback).account attempt) := by
  have hnone (s : State) : (Happening.called callback s).bytes? = none := by
    cases callback with
    | received data => exact absurd rfl (hbytes data)
    | connected | connectFailed | closing | closed | heartbeat => rfl
  rw [account_call _ (hnone _)]
  exact .single (traffic_leave rfl rfl hstate)

/-- A client that is done with what it took in stops, or goes on. -/
theorem traffic_finish (m : Machine σ) : Relation.ReflTransGen Traffic (m.account attempt)
    (({ m with system := m.system.stopIfDone } : Machine σ).account attempt) := by
  unfold System.stopIfDone
  split
  · exact traffic_stop m
  · exact .refl

/-- A job is done. -/
theorem Sound.traffic_perform (h : m.Sound scene) {job : Job} {rest : List Job}
    (hjobs : m.jobs = job :: rest) : Relation.ReflTransGen Traffic (m.account attempt)
      ((({ m with jobs := rest } : Machine σ).perform job).account attempt) := by
  have hscene := h.jobs
  rw [hjobs] at hscene
  -- A job that starts no task counts for nothing itself.
  have hrest (hjob : job ≠ .spawn attempt) :
      ({ m with jobs := rest } : Machine σ).account attempt = m.account attempt := by
    apply account_jobs
    rw [hjobs, List.mem_cons, or_iff_right (Ne.symm hjob)]
  cases scene with
  | resting | opened | closing =>
    have hfinish : job = .finish ∧ rest = [] := by simpa [Scene.Jobs] using hscene
    obtain ⟨rfl, rfl⟩ := hfinish
    rw [← hrest (by simp)]
    exact traffic_finish _
  | dialing | answered => simp [Scene.Jobs] at hscene
  | failing | failed =>
    obtain ⟨rfl, rfl⟩ := List.cons.inj hscene
    rw [← hrest (by simp)]
    exact traffic_enter _ (by simp) (by simp)
  | opening =>
    obtain ⟨rfl, rfl⟩ := List.cons.inj hscene
    have hstream := Ascending.getElem?_insert m.system.streams m.client.attempt attempt {}
    by_cases heq : m.client.attempt = attempt
    · have hdue : (m.account attempt).due = true := by
        rw [← heq]
        exact decide_eq_true (hjobs ▸ List.mem_cons_self)
      rw [if_pos heq.symm] at hstream
      have hspawn : Traffic (m.account attempt) _ := .spawn hdue
      have hafter : ((({ m with jobs := [.finish] } : Machine σ).perform
          (.spawn m.client.attempt)).account attempt) =
            { m.account attempt with stream := some {}, due := false } := by
        simp only [Machine.account, Machine.perform, hstream]
        rfl
      rw [hafter]
      exact .single hspawn
    · rw [if_neg (Ne.symm heq)] at hstream
      rw [← hrest fun hjob => heq (Job.spawn.inj hjob)]
      exact traffic_of_eq (account_eq (.refl ..) hstream rfl rfl .rfl)
  | hanging =>
    have hsignal : job = .signal ∧ (rest = [] ∨ rest = [.finish]) := by
      simpa [Scene.Jobs, and_or_left] using hscene
    obtain ⟨rfl, -⟩ := hsignal
    rw [← hrest (by simp)]
    exact traffic_signalStop _

/-- The client does something that is on no account. -/
theorem traffic_same {c : Client σ} (h : SameAccount attempt m.client c) :
    Relation.ReflTransGen Traffic (m.account attempt) ((m.setClient c).account attempt) :=
  traffic_of_eq (account_eq h rfl rfl rfl .rfl)

/-- The next attempt is begun. -/
theorem traffic_startConnect (m : Machine σ) : Relation.ReflTransGen Traffic (m.account attempt)
    ((m.setClient m.client.startConnect).account attempt) := by
  have hleft : Traffic (m.account attempt) ((m.setClient { m.client with
      attempt := m.client.attempt + 1, state := .connecting }).account attempt) :=
    traffic_leave rfl rfl nofun
  have hnoted : SameAccount attempt
      { m.client with attempt := m.client.attempt + 1, state := .connecting }
      m.client.startConnect := .trans (.say ..) (.note _ rfl rfl)
  exact .trans (.single hleft) (traffic_same hnoted)

/-- A tick does what it is there for. -/
theorem traffic_tick (m : Machine σ) :
    Relation.ReflTransGen Traffic (m.account attempt) (m.tick.account attempt) := by
  have hupdate (c : Client σ) :
      ({ m with system := m.system.update c } : Machine σ).account attempt =
        (m.setClient c).account attempt := rfl
  unfold Machine.tick
  split
  · have hcounted : SameAccount attempt m.client
        { m.client with heartbeats := m.client.heartbeats + 1 } := .of_eq rfl rfl rfl rfl
    rw [account_call _ rfl]
    exact traffic_same (hcounted.trans (.say ..))
  · next hstate =>
    rw [hupdate]
    simp only [Client.tick, hstate]
    split
    · exact traffic_startConnect m
    · exact .refl
  all_goals
    -- A client that is neither connected nor disconnected passes the tick over.
    next hstate =>
      rw [hupdate]
      simp only [Client.tick, hstate]
      exact .refl

/-- A request to shut down is served. -/
theorem traffic_shutdown (hjobs : m.jobs = []) :
    Relation.ReflTransGen Traffic (m.account attempt) (m.shutdown.account attempt) := by
  have htaken : Relation.ReflTransGen Traffic (m.account attempt)
      ((m.setClient m.client.takeShutdown).account attempt) :=
    traffic_same (.of_eq rfl rfl rfl rfl)
  unfold Machine.shutdown
  simp only
  split
  · refine htaken.trans (traffic_close (m.setClient m.client.takeShutdown) ?_)
    exact iff_of_eq (congrArg _ hjobs.symm)
  · exact htaken
  all_goals exact htaken.trans (traffic_stop (m.setClient m.client.takeShutdown))

/-- Of an attempt that was just made a connection of there is no task yet. -/
theorem Sound.stream_of_connected (h : m.Sound scene) {attempt : Nat}
    (hmem : .connected attempt ∈ m.system.events) :
    attempt = m.client.attempt ∧ m.system.streams[attempt]? = none := by
  have htask := h.task
  cases scene with
  | resting | dialing | failing | failed | opening =>
    rw [htask.1] at hmem
    exact absurd hmem List.not_mem_nil
  | answered event =>
    obtain ⟨hevents, houtcome, hphase⟩ := htask
    rw [hevents, List.mem_singleton] at hmem
    subst hmem
    obtain rfl := houtcome
    exact ⟨rfl, Option.map_eq_none_iff.mp hphase⟩
  | opened | hanging => exact (htask.1 _ hmem).elim
  | closing =>
    obtain ⟨news, p, hnews, -, hevents⟩ := htask
    rw [hevents] at hmem
    rcases List.mem_append.mp hmem with hmem | hmem
    · exact (hnews _ hmem).elim
    · split at hmem
      · exact nomatch List.mem_singleton.mp hmem
      · exact absurd hmem List.not_mem_nil

/-- A connection that was made is taken over. -/
theorem traffic_adopt {made : Nat} (hmade : made = m.client.attempt)
    (hstream : m.system.streams[made]? = none) (hjobs : m.jobs = []) {failed : Prop}
    (hbalanced : (m.account attempt).Balanced failed) :
    Relation.ReflTransGen Traffic (m.account attempt)
      (({ m.setClient (m.client.adopt made) with
        jobs := [.spawn made, .finish] } : Machine σ).account attempt) := by
  have hsaid : SameAccount attempt m.client
      (m.client.say .info ("connected to " ++ m.client.target.text)) := .say ..
  have hinsert := Ascending.getElem?_insert m.client.links made attempt {}
  by_cases heq : attempt = made
  · subst heq
    rw [if_pos rfl] at hinsert
    -- The task is neither started nor about to be, so the stream has not come into being.
    have hlink : (m.account attempt).link = none := by
      by_contra hne
      have hdue := hbalanced.due.mpr ⟨hstream, hne⟩
      have hmem : .spawn attempt ∈ m.jobs := of_decide_eq_true hdue
      rw [hjobs] at hmem
      exact absurd hmem List.not_mem_nil
    have henter : Traffic (m.account attempt) _ := .enter hlink
    have hafter : ({ m.setClient (m.client.adopt attempt) with
        jobs := [.spawn attempt, .finish] } : Machine σ).account attempt =
          { m.account attempt with link := some {}, isOpen := true, due := true } := by
      have hopen : (m.client.adopt attempt).isOpen attempt = true := by
        simp [adopt, isOpen, isConnected, say, note, hmade]
      have hpayloads : payloads attempt (m.client.adopt attempt).trace =
          payloads attempt m.client.trace := hsaid.payloads
      have hhanded : handed attempt (m.client.adopt attempt).trace =
          handed attempt m.client.trace := hsaid.handed
      have hdue : decide (Job.spawn attempt ∈ [.spawn attempt, .finish]) = true :=
        decide_eq_true List.mem_cons_self
      have hlinked : (m.client.adopt attempt).links[attempt]? = some {} := hinsert
      simp only [Machine.account, Client.account, setClient, client, hopen, hpayloads, hhanded,
        hdue, hlinked]
    rw [hafter]
    exact .single henter
  · rw [if_neg heq] at hinsert
    have hclosed (c : Client σ) (h : c.attempt = made) : c.isOpen attempt = false := by
      rw [isOpen, h, beq_eq_false_iff_ne.mpr (Ne.symm heq), Bool.false_and]
    have hsame : SameAccount attempt m.client (m.client.adopt made) :=
      ⟨hinsert, (hclosed (m.client.adopt made) hmade.symm).trans (hclosed _ hmade.symm).symm,
        hsaid.payloads, hsaid.handed⟩
    have hspawn : .spawn attempt ∈ [Job.spawn made, .finish] ↔ .spawn attempt ∈ m.jobs := by
      simp [hjobs, heq]
    exact traffic_of_eq (account_eq hsame rfl rfl rfl hspawn)

/-- Bytes that were read are handed on to the handler. -/
theorem traffic_deliver (h : m.client.AtHand) (hrunning : m.system.running = true)
    (hstate : m.client.state = .connected) {data : Bytes} {rest : List Event}
    (hevents : m.system.events = .read m.client.attempt data :: rest) :
    Relation.ReflTransGen Traffic (m.account attempt)
      (((m.setEvents rest).call (.received data)).account attempt) := by
  obtain ⟨hpayloads, hhanded⟩ := records_received attempt m.client.trace data m.client.state
  have hmail : (m.account attempt).mail =
      ((Event.read m.client.attempt data).report? attempt).toList ++
        rest.filterMap (·.report? attempt) := by
    change m.system.events.filterMap _ = _
    rw [hevents, List.filterMap_cons]
    cases (Event.read m.client.attempt data).report? attempt <;> rfl
  rw [h.dialed] at hhanded
  by_cases heq : m.client.attempt = attempt
  · rw [if_pos heq] at hhanded
    rw [Event.report?, if_pos heq] at hmail
    have hopen : (m.account attempt).isOpen = true := by
      change m.client.isOpen attempt = true
      rw [isOpen, isConnected, beq_iff_eq.mpr heq, beq_iff_eq.mpr hstate]
      rfl
    have hdeliver : Traffic (m.account attempt) _ := .deliver hmail hrunning hopen
    have hafter : ((m.setEvents rest).call (.received data)).account attempt =
        { m.account attempt with
          mail := rest.filterMap (·.report? attempt)
          received := handed attempt m.client.trace ++ data } := by
      calc _ = { m.account attempt with
              mail := rest.filterMap (Event.report? attempt)
              accepted := payloads attempt
                (m.client.trace ++ [Happening.called (.received data) m.client.state])
              received := handed attempt
                (m.client.trace ++ [Happening.called (.received data) m.client.state]) } := rfl
        _ = _ := by
          rw [hpayloads, hhanded]
          rfl
    rw [hafter]
    exact .single hdeliver
  · rw [if_neg heq, List.append_nil] at hhanded
    rw [Event.report?, if_neg heq] at hmail
    have hcalled : SameAccount attempt m.client
        (m.client.note (.called (.received data) m.client.state)) := ⟨rfl, rfl, hpayloads, hhanded⟩
    exact traffic_of_eq (account_eq hcalled rfl hmail.symm rfl .rfl)

/-- What came of an attempt is taken out of the mailbox, and no bytes are handed on. -/
theorem traffic_taken {event : Event} {rest : List Event}
    (hevents : m.system.events = event :: rest)
    (hpassed : ∀ report ∈ event.report? attempt,
      report.data? = none ∨ (m.account attempt).isOpen = false) :
    Relation.ReflTransGen Traffic (m.account attempt) ((m.setEvents rest).account attempt) := by
  have hmail : (m.account attempt).mail =
      (event.report? attempt).toList ++ rest.filterMap (·.report? attempt) := by
    change m.system.events.filterMap _ = _
    rw [hevents, List.filterMap_cons]
    cases event.report? attempt <;> rfl
  exact Stream.Account.traffic_pass hmail hpassed

/-- What hands on no bytes is taken out of the mailbox. -/
theorem traffic_passed {event : Event} {rest : List Event}
    (hevents : m.system.events = event :: rest) (hread : ∀ made data, event ≠ .read made data) :
    Relation.ReflTransGen Traffic (m.account attempt) ((m.setEvents rest).account attempt) := by
  refine traffic_taken hevents fun report hreport => .inl ?_
  cases event with
  | read made data => exact absurd rfl (hread made data)
  | connected | connectFailed => exact absurd hreport (Option.not_mem_none _)
  | ended | closed =>
    obtain ⟨-, heq⟩ := Option.ite_none_right_eq_some.mp hreport
    obtain rfl := Option.some.inj heq
    rfl

/-- Bytes that were read are taken in. They are handed on if the client is connected, and lost
else. -/
theorem traffic_read (hathand : m.client.AtHand) (hrunning : m.system.running = true)
    (hjobs : m.jobs = []) {data : Bytes} {rest : List Event}
    (hevents : m.system.events = .read m.client.attempt data :: rest) :
    Relation.ReflTransGen Traffic (m.account attempt)
      (((m.setEvents rest).handle (.read m.client.attempt data)).account attempt) := by
  have hcurrent : (Event.read m.client.attempt data).attempt = (m.setEvents rest).client.attempt :=
    rfl
  simp only [Machine.handle, if_pos hcurrent]
  split
  · next hstate =>
    have hspawn : .spawn attempt ∈ [Job.finish] ↔
        .spawn attempt ∈ ((m.setEvents rest).call (.received data)).jobs := by
      simp [Machine.call, setClient, setEvents, hjobs]
    have hcalled : (({ m.setEvents rest with jobs := [.finish] } : Machine σ).call
        (.received data)).account attempt =
          ((m.setEvents rest).call (.received data)).account attempt :=
      account_jobs ((m.setEvents rest).call (.received data)) hspawn
    rw [hcalled]
    exact traffic_deliver hathand hrunning hstate hevents
  · next hstate =>
    have hdone : ({ m.setEvents rest with jobs := [.finish] } : Machine σ).account attempt =
        (m.setEvents rest).account attempt :=
      account_jobs (m.setEvents rest) (by simp [setEvents, hjobs])
    rw [hdone]
    exact traffic_taken hevents fun _ _ => .inr (isOpen_of_ne hstate)

/-- What came of an attempt and is no bytes is answered, once it was taken out of the mailbox. -/
theorem traffic_answer {event : Event} (hcurrent : event.attempt = m.client.attempt)
    (hread : ∀ made data, event ≠ .read made data)
    (hstream : ∀ made, event = .connected made → m.system.streams[made]? = none)
    (hjobs : m.jobs = []) {failed : Prop} (hbalanced : (m.account attempt).Balanced failed) :
    Relation.ReflTransGen Traffic (m.account attempt) ((m.handle event).account attempt) := by
  -- That the client looks at the end whether it is to stop is on no account.
  have hdone : ({ m with jobs := [.finish] } : Machine σ).account attempt = m.account attempt :=
    account_jobs m (by simp [hjobs])
  cases event with
  | connected made =>
    simp only [Machine.handle, if_pos hcurrent]
    split
    · have hleft : Traffic _ ((({ m with jobs := [.finish] } : Machine σ).setClient
          (m.client.become .disconnected)).account attempt) :=
        traffic_leave rfl rfl (by simp [become])
      rw [hdone] at hleft
      exact .single hleft
    · rw [account_call _ rfl]
      exact traffic_adopt hcurrent (hstream made rfl) hjobs hbalanced
  | connectFailed made cause =>
    have hsaid : Relation.ReflTransGen Traffic (m.account attempt) _ :=
      traffic_same (.say m.client .warn
        ("connect to " ++ m.client.target.text ++ " failed: " ++ cause))
    simp only [Machine.handle, if_pos hcurrent]
    rw [account_call _ rfl]
    refine hsaid.trans (traffic_of_eq (account_jobs (m.setClient _) ?_))
    simp [setClient, hjobs]
  | read made data => exact absurd rfl (hread made data)
  | ended made failure =>
    have hsaid : Relation.ReflTransGen Traffic (m.account attempt) _ :=
      traffic_same (.sayEnded attempt m.client failure)
    have hspawn : .spawn attempt ∈ [Job.finish] ↔
        .spawn attempt ∈ (m.setClient (m.client.sayEnded failure)).jobs := by
      simp [setClient, hjobs]
    simp only [Machine.handle, if_pos hcurrent]
    exact hsaid.trans (traffic_close _ hspawn)
  | closed made =>
    have hleft : Traffic _ ((({ m with jobs := [.finish] } : Machine σ).setClient
        { m.client with stopper := none, state := .disconnected }).account attempt) :=
      traffic_leave rfl rfl (by simp)
    rw [hdone] at hleft
    simp only [Machine.handle, if_pos hcurrent]
    rw [account_call _ rfl]
    exact .single hleft

/-- What came of an attempt is taken in. -/
theorem Sound.traffic_handle (h : m.Sound scene) (hathand : m.client.AtHand)
    (hrunning : m.system.running = true) (hjobs : m.jobs = []) {failed : Prop}
    (hbalanced : (m.account attempt).Balanced failed) {event : Event} {rest : List Event}
    (hevents : m.system.events = event :: rest) :
    Relation.ReflTransGen Traffic (m.account attempt)
      (((m.setEvents rest).handle event).account attempt) := by
  have hmem : event ∈ m.system.events := hevents ▸ List.mem_cons_self
  have hcurrent : event.attempt = m.client.attempt := h.current event hmem
  by_cases hbytes : ∃ made data, event = .read made data
  · obtain ⟨made, data, rfl⟩ := hbytes
    obtain rfl : made = m.client.attempt := hcurrent
    exact traffic_read hathand hrunning hjobs hevents
  · have hread : ∀ made data, event ≠ .read made data :=
      fun made data heq => hbytes ⟨made, data, heq⟩
    have hpassed : Relation.ReflTransGen Traffic (m.account attempt)
        ((m.setEvents rest).account attempt) := traffic_passed hevents hread
    have hstream (made : Nat) (heq : event = .connected made) :
        (m.setEvents rest).system.streams[made]? = none :=
      (h.stream_of_connected (heq ▸ hmem)).2
    exact hpassed.trans
      (traffic_answer hcurrent hread hstream hjobs (hbalanced.others hpassed))

end Machine

end NetSession.Client
