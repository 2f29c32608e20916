import NetSession.Proofs.Server.Fate

/-!
# Connections do not disturb each other

All connections of a server stand in one table, and a sweep looks at some before it comes to others.
Still, what happens to one connection is a matter of its own cues: `fate_operateAll` computes its
fate from what some operations mean to it, whatever else they are. In two runs that mean the same to
a connection, the same callbacks are thus called for it, and it ends in the same state, whatever
other connections there are, and whatever is read from them, goes wrong with them, or is asked of
them (`fate_isolated`).
-/

namespace NetSession.Server

variable {σ τ : Type}

/-- The moment at which an operation leaves a server. -/
def Operation.leaves (now : Instant) : Operation → Instant
  | .pass d => now.after d
  | _ => now

/-- What some operations mean to a connection, in order: when it is accepted, what is told about it
and asked of it, when all are to close, and when the heartbeat ticks. It starts at a moment with the
number of the next connection. -/
def cues (id next : ConnId) (now : Instant) : List Operation → List Cue
  | [] => []
  | operation :: operations =>
    (operation.cue? id next now).toList ++
      cues id (next + if operation.isAccept then 1 else 0) (operation.leaves now) operations

/-- The fate of a connection that is not accepted yet. -/
def Fate.blank : Fate := ⟨none, false, false, []⟩

variable {s : Server σ} {past : List (Instant × Happening)}

/-- Only time that passes changes the moment. -/
theorem Disciplined.now_operate (h : s.Disciplined) (operation : Operation) :
    (s.operate operation).now = operation.leaves s.now := by
  cases operation with
  | accept peer => exact (steady_call (s.enter peer) _).now
  | pass d => rfl
  | acceptFailed | handle | close | disconnectAll | iterate | heartbeat | act | relink =>
    exact (changes_operate h.keyed _ rfl fun _ => by simp).settings.2.2

/-- The fate of a connection follows from its own cues. -/
theorem fate_operateAll (h : s.Timely past) (hdisciplined : s.Disciplined)
    (operations : List Operation) (id : ConnId) :
    (s.operateAll operations).fate id =
      (cues id s.nextId s.now operations).foldl (Fate.step s.config.connTimeout id)
        (s.fate id) := by
  induction operations generalizing s past with
  | nil => rfl
  | cons operation operations ih =>
    obtain ⟨l, -, htimely⟩ := h.operate hdisciplined operation
    have hrest := ih htimely (hdisciplined.operate operation)
    have hconfig : (s.operate operation).config = s.config :=
      (hdisciplined.settings_operateAll [operation]).1
    rw [hdisciplined.nextId_operate, hdisciplined.now_operate, hconfig,
      h.fate_operate hdisciplined] at hrest
    rw [cues, List.foldl_append]
    refine hrest.trans ?_
    cases operation.cue? id s.nextId s.now <;> rfl

/-- A server that was just started has no connection. -/
theorem fate_start (config : ServerConfig) (handler : Handler σ) (memory : σ) (now : Instant)
    (id : ConnId) : (start config handler memory now).fate id = .blank := by
  have hactivity := (Timely.start config handler memory now).heard id
  have hclosing : (start config handler memory now).pool.isClosing id = false := by
    rw [Bool.eq_false_iff, Ne, (Disciplined.start config handler memory now).closing]
    exact List.not_mem_nil
  have hlive : ((start config handler memory now).roster.table.get? id).isSome = false := by
    rw [Bool.eq_false_iff, Ne, Option.isSome_iff_ne_none,
      (Disciplined.start config handler memory now).live]
    exact fun h => List.not_mem_nil h.1
  rw [fate, hactivity, hclosing, hlive]
  rfl

/-- In two runs that mean the same to a connection, the same callbacks are called for it in the same
order, and it ends with the same mark and the same moment of the last read, in the table of both or
of none. -/
theorem fate_isolated (config : ServerConfig) (handler : Handler σ) (memory : σ)
    (handler' : Handler τ) (memory' : τ) (now : Instant) (operations operations' : List Operation)
    (id : ConnId) (h : cues id 1 now operations = cues id 1 now operations') :
    let s := (start config handler memory now).operateAll operations
    let s' := (start config handler' memory' now).operateAll operations'
    (calls s.trace).filter (·.connection? = some id) =
        (calls s'.trace).filter (·.connection? = some id) ∧
      s.pool.isClosing id = s'.pool.isClosing id ∧ s.pool.activity id = s'.pool.activity id ∧
      (id ∈ s.roster.table.ids ↔ id ∈ s'.roster.table.ids) := by
  intro s s'
  have hs := Disciplined.start config handler memory now
  have hs' := Disciplined.start config handler' memory' now
  have hfate : s.fate id = s'.fate id := by
    calc s.fate id
      _ = (cues id 1 now operations).foldl (Fate.step config.connTimeout id)
            ((start config handler memory now).fate id) :=
          fate_operateAll (.start config handler memory now) hs operations id
      _ = (cues id 1 now operations').foldl (Fate.step config.connTimeout id)
            ((start config handler' memory' now).fate id) := by rw [h, fate_start, fate_start]
      _ = s'.fate id :=
          (fate_operateAll (.start config handler' memory' now) hs' operations' id).symm
  have hlive : id ∈ s.roster.table.ids ↔ id ∈ s'.roster.table.ids := by
    rw [← (hs.operateAll operations).fate_live, ← (hs'.operateAll operations').fate_live, hfate]
  exact ⟨congrArg Fate.calls hfate, congrArg Fate.closing hfate, congrArg Fate.activity hfate,
    hlive⟩

/-- Two connections are accepted. Something is read from both, and the heartbeat ticks later. -/
def bothRead : List Operation :=
  [.accept .unspecifiedV4, .accept .unspecifiedV4, .pass ⟨5⟩, .handle (.read 1 [120]),
    .handle (.read 2 [97]), .pass ⟨30⟩, .heartbeat]

/-- Two connections are accepted. The first is closed, while the second is treated as before. -/
def firstClosed : List Operation :=
  [.accept .unspecifiedV4, .accept .unspecifiedV4, .pass ⟨2⟩, .close 1, .handle (.closed 1),
    .pass ⟨3⟩, .handle (.read 2 [97]), .pass ⟨30⟩, .heartbeat]

/-- The second connection is evicted in both cases, and nothing else distinguishes them to it. -/
theorem fate_isolated_evicted :
    let s := (start { connTimeout := ⟨20⟩ } Handler.silent () .zero).operateAll bothRead
    let s' := (start { connTimeout := ⟨20⟩ } Handler.silent () .zero).operateAll firstClosed
    calls s.trace ≠ calls s'.trace ∧
      (calls s.trace).filter (·.connection? = some 2) =
        [.accepted 2, .received 2 [97], .closing 2] ∧
      (calls s'.trace).filter (·.connection? = some 2) =
        [.accepted 2, .received 2 [97], .closing 2] ∧
      s'.pool.isClosing 2 = true := by
  have hcues : cues 2 1 .zero bothRead = cues 2 1 .zero firstClosed := by decide
  obtain ⟨hcalls, hclosing, -, -⟩ := fate_isolated { connTimeout := ⟨20⟩ } Handler.silent ()
    Handler.silent () .zero bothRead firstClosed 2 hcues
  refine ⟨by decide +kernel, by decide +kernel, ?_, ?_⟩
  · rw [← hcalls]
    decide +kernel
  · rw [← hclosing]
    decide +kernel

end NetSession.Server
