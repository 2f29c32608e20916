import NetSession.Proofs.Client.Others

/-!
# Runs of a client

A client begins its first attempt at once, so its machine is `dialing` at first. Every step keeps it
situated (`Situated.step`): while it runs it is sound in some scene, and once it has stopped it
never does anything again. So it is at any point of any run (`situated_of_run`).
-/

namespace NetSession.Client.Machine

variable {σ : Type} {m m' : Machine σ}

/-- A client that was just started has begun its first attempt. -/
theorem sound_start (config : ClientConfig) (target : Endpoint) (handler : Handler σ) (memory : σ)
    (now : Instant) : (Machine.start config target handler memory now).Sound .dialing := by
  let client : Client σ := { config, target, handler, memory }
  let m : Machine σ :=
    { system := { client, now, timer := Timer.heartbeat? now config.heartbeatInterval } }
  have hphase (attempt : Nat) : m.phase attempt = none := by
    change (∅ : Std.TreeMap Nat Stream)[attempt]?.map _ = none
    rw [Std.TreeMap.getElem?_emptyc]
    rfl
  have hresting : m.Sound .resting := by
    refine ⟨⟨rfl, rfl, rfl, rfl, .inl rfl, ⟨rfl, ?_⟩, fun attempt p hp => ?_⟩, nofun,
      ⟨Spoken.nil, rfl, nofun, rfl⟩⟩
    · rw [hphase]
      exact Scene.settled_none
    · rw [hphase] at hp
      exact nomatch hp
  exact hresting.dial rfl

/-! ## Once the client has stopped -/

namespace Stopped

/-- A client that has stopped takes no step, and whatever others do, it does not start again. -/
theorem step (h : m.Stopped) {turn : Turn} (htakes : m.Takes turn m') : m'.Stopped := by
  cases htakes with
  | advance hstage | leave hstage => exact nomatch h.stage.symm.trans hstage
  | perform hstage hjobs => exact nomatch h.jobs.symm.trans hjobs
  | shutdown hrunning | handle hrunning | tick hrunning =>
    exact nomatch h.running.symm.trans hrunning
  | other _ haffects =>
    have haside := aside_of_affects haffects
    obtain ⟨spot, hrecorded⟩ := h.recorded
    constructor
    · exact haside.running.trans h.running
    · exact haside.state.trans h.state
    · exact haside.outlet.trans h.outlet
    · exact h.stage
    · exact h.jobs
    · exact ⟨spot, hrecorded.minor haside.heartbeats haside.attempt haside.trace⟩

end Stopped

/-! ## Steps -/

/-- Every step keeps a machine situated. -/
theorem Situated.step (h : m.Situated) {turn : Turn} (hstep : m.step turn = some m') :
    Situated m' := by
  have htakes := takes_of_step hstep
  cases h with
  | running scene hrunning hsound =>
    cases htakes with
    | advance hstage hadvance => exact .running scene hrunning (hsound.advance hstage hadvance)
    | leave hstage hadvance => exact .running scene hrunning (hsound.leave hadvance)
    | perform hstage hjobs => exact hsound.perform hrunning hstage hjobs
    | shutdown _ hidle => exact hsound.shutdown hrunning hidle
    | handle _ hidle hevents => exact hsound.handle hrunning hidle hevents
    | @tick timer _ hidle =>
      have hset : (m.setTimer (timer.tick m.system.now)).Sound scene :=
        hsound.calm (.refl _) rfl rfl (fun _ => rfl) rfl fun _ htag => htag
      exact hset.tick hrunning hidle
    | other _ haffects => exact hsound.others hrunning haffects
  | stopped hstopped => exact .stopped (hstopped.step htakes)

/-- Every run keeps a machine situated. -/
theorem Situated.run (h : m.Situated) {turns : List Turn} (hrun : m.run turns = some m') :
    Situated m' := by
  induction turns generalizing m with
  | nil =>
    obtain rfl := Option.some.inj hrun
    exact h
  | cons turn turns ih =>
    obtain ⟨next, hstep, hrest⟩ := Option.bind_eq_some_iff.mp hrun
    exact ih (h.step hstep) hrest

/-- At any point of any run of a client, its machine is situated. -/
theorem situated_of_run {config : ClientConfig} {target : Endpoint} {handler : Handler σ}
    {memory : σ} {now : Instant} {turns : List Turn}
    (hrun : (Machine.start config target handler memory now).run turns = some m) : Situated m :=
  (Situated.running .dialing rfl (sound_start config target handler memory now)).run hrun

/-- What a situated client has written down fits some spot. -/
theorem Situated.recorded (h : m.Situated) : ∃ spot, m.client.Recorded spot := by
  cases h with
  | running scene hrunning hsound => exact ⟨_, hsound.recorded⟩
  | stopped hstopped => exact hstopped.recorded

end NetSession.Client.Machine
