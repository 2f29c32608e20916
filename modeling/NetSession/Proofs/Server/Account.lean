import NetSession.Proofs.Server.Course
import NetSession.Proofs.Server.Turns
import NetSession.Proofs.Stream.Account

/-!
# The accounts of connections

What counts of the byte stream of one connection, as an `Account`. The payloads that were accepted
and the bytes that were handed on are read off the records. Whatever a server does to the account of
one connection is `Traffic`: it accepts the connection and starts its task, sends on it, tells the
task to stop, and hands on what was read while the connection is open.
-/

namespace NetSession.Server

open NetSession.Stream (Account)
open NetSession.Stream.Account (Traffic)

variable {σ τ : Type}

/-- The payload that was accepted to be sent on a connection. -/
def Happening.payload? (id : ConnId) : Happening → Option Bytes
  | .sent id' data true => if id' = id then some data else none
  | _ => none

/-- The bytes of a connection that were handed on to the handler. -/
def Happening.bytes? (id : ConnId) : Happening → Option Bytes
  | .called (.received id' data) => if id' = id then some data else none
  | _ => none

/-- The payloads that were accepted to be sent on a connection, in order. -/
def payloads (id : ConnId) (trace : List Happening) : List Bytes :=
  trace.filterMap (·.payload? id)

/-- The bytes of a connection that were handed on to the handler, in order. -/
def handed (id : ConnId) (trace : List Happening) : Bytes :=
  (trace.filterMap (·.bytes? id)).flatten

/-- The report that an event is, if it is about a connection. -/
def Event.report? (id : ConnId) : Event → Option Stream.Report
  | .read id' data => if id' = id then some (.read data) else none
  | .ended id' failure => if id' = id then some (.ended failure) else none
  | .closed id' => if id' = id then some .closed else none

/-- Whether the task of a connection is started when the callback at hand is over. -/
def Stage.isDue (id : ConnId) : Stage σ → Bool
  | .running (.accepted id') _ | .returned (.accepted id') => id' == id
  | _ => false

/-- What a server has on the account of a connection, with what others have. -/
def account (s : Server σ) (id : ConnId) (stream : Option Stream) (mail : List Stream.Report)
    (heard due : Bool) : Account where
  link := (s.pool.get? id).map (·.link)
  stream := stream
  mail := mail
  heard := heard
  isOpen := (s.pool.get? id).any (!·.closing)
  due := due
  accepted := payloads id s.trace
  received := handed id s.trace

/-- The account of a connection. -/
def Machine.account (m : Machine σ) (id : ConnId) : Account :=
  m.server.account id m.system.streams[id]? (m.system.events.filterMap (·.report? id))
    m.system.running (m.stage.isDue id)

/-- What a server has on the account of a connection has not changed. -/
structure SameAccount (id : ConnId) (s s' : Server σ) : Prop where
  /-- The connection is as open as before, and has the same link. -/
  pool : (s'.pool.get? id).map (fun c => (c.link, c.closing)) =
    (s.pool.get? id).map fun c => (c.link, c.closing)
  /-- No payload was accepted. -/
  payloads : payloads id s'.trace = payloads id s.trace
  /-- No bytes were handed on. -/
  handed : handed id s'.trace = handed id s.trace

namespace SameAccount

variable {id : ConnId} {s s' s'' : Server σ}

/-- Nothing has changed. -/
theorem refl (id : ConnId) (s : Server σ) : SameAccount id s s := ⟨rfl, rfl, rfl⟩

/-- Nothing has changed after one step and another. -/
theorem trans (h : SameAccount id s s') (h' : SameAccount id s' s'') : SameAccount id s s'' :=
  ⟨h'.pool.trans h.pool, h'.payloads.trans h.payloads, h'.handed.trans h.handed⟩

/-- The account is the same. -/
theorem account_eq (h : SameAccount id s s') (stream : Option Stream) (mail : List Stream.Report)
    (heard due : Bool) :
    s'.account id stream mail heard due = s.account id stream mail heard due := by
  have hlink := congrArg (Option.map Prod.fst) h.pool
  have hopen := congrArg (Option.any (!·.2)) h.pool
  rw [Option.map_map, Option.map_map] at hlink
  rw [Option.any_map, Option.any_map] at hopen
  simp only [account, h.payloads, h.handed]
  congr 1

/-- Something is written down that is no send and hands on no bytes. -/
theorem note (s : Server σ) {e : Happening} (hpayload : e.payload? id = none)
    (hbytes : e.bytes? id = none) : SameAccount id s (s.note e) := by
  refine ⟨rfl, ?_, ?_⟩
  · simp [Server.payloads, Server.note, hpayload]
  · simp [Server.handed, Server.note, hbytes]

/-- Something is said. -/
theorem say (s : Server σ) (severity : Console.Severity) (message : String) :
    SameAccount id s (s.say severity message) :=
  note s rfl rfl

end SameAccount

/-- A pool with another connection behind a reference, with the same link and as open. -/
theorem SameAccount.setPool {id : ConnId} (s : Server σ) {pool : Pool}
    (h : (pool.get? id).map (fun c => (c.link, c.closing)) =
      (s.pool.get? id).map fun c => (c.link, c.closing)) : SameAccount id s (s.setPool pool) :=
  ⟨h, rfl, rfl⟩

/-- A connection is changed, but not its link, nor whether it is open. -/
theorem SameAccount.modify (id : ConnId) (s : Server σ) (id' : ConnId)
    {f : Connection → Connection} (hf : ∀ c, (f c).link = c.link ∧ (f c).closing = c.closing) :
    SameAccount id s (s.setPool (s.pool.modify id' f)) := by
  apply SameAccount.setPool
  rw [Pool.get?_modify]
  split
  · next heq =>
    rw [heq, Option.map_map]
    exact congrFun (congrArg _ (funext fun c => Prod.ext (hf c).1 (hf c).2)) _
  · rfl

/-- To ask for a connection to be closed changes no account. -/
theorem SameAccount.askClose (id : ConnId) (s : Server σ) (id' : ConnId) :
    SameAccount id s (s.askClose id').2 := by
  have hpool : SameAccount id s (s.setPool (s.pool.askClose id').2) := by
    apply SameAccount.setPool
    rw [Pool.get?_askClose]
  exact hpool.trans (.note _ rfl rfl)

/-- A read sets the time of the last one. -/
theorem SameAccount.touch (id : ConnId) (s : Server σ) (id' : ConnId) :
    SameAccount id s (s.touch id') := by
  have hpool : (s.touch id').pool = s.pool ∨
      ∃ ref, (s.touch id').pool = s.pool.modify ref (·.stamp s.now) := by
    simp only [Server.touch, Server.pool, Roster.touch]
    split
    · exact .inl rfl
    · exact .inr ⟨_, rfl⟩
  refine ⟨?_, rfl, rfl⟩
  rcases hpool with heq | ⟨ref, heq⟩
  · rw [heq]
  · rw [heq]
    exact (SameAccount.modify id s ref (f := (·.stamp s.now)) fun _ => ⟨rfl, rfl⟩).pool

/-- The server says why nothing more can be read. -/
theorem SameAccount.sayEnded (id : ConnId) (s : Server σ) (id' : ConnId)
    (failure : Option String) : SameAccount id s (s.sayEnded id' failure) := by
  cases failure with
  | none => exact .say s _ _
  | some cause => exact .say s _ _

section Reactions

variable (id : ConnId) (stream : Option Stream) (mail : List Stream.Report) (heard due : Bool)
variable (s : Server σ)

/-- A connection that accepts a payload has it at the end of its queue. -/
theorem push_of_send {c c' : Connection} {data : Bytes} (h : c.send data = .ok c') :
    ∃ link, c.link.push? data = some link ∧ c' = { c with link := link } := by
  rw [Connection.send.eq_def] at h
  split at h
  · contradiction
  · split at h
    · next link hpush => exact ⟨link, hpush, (Except.ok.inj h).symm⟩
    · contradiction

/-- A payload that is not accepted, or is sent on another connection, changes nothing. -/
theorem payload?_eq_none {id' : ConnId} {data : Bytes} {ok : Bool} (h : id' ≠ id ∨ ok = false) :
    (Happening.sent id' data ok).payload? id = none := by
  cases ok with
  | false => rfl
  | true =>
    rw [Happening.payload?, if_neg]
    exact h.resolve_right nofun

/-- To send on a connection is on its account only. -/
theorem traffic_send (id' : ConnId) (data : Bytes) :
    Relation.ReflTransGen Traffic (s.account id stream mail heard due)
      ((s.send id' data).2.account id stream mail heard due) := by
  -- A send that is refused, or that is on another connection, moves nothing here.
  have hsame {s' : Server σ} (h : SameAccount id s s') :
      Relation.ReflTransGen Traffic (s.account id stream mail heard due)
        (s'.account id stream mail heard due) := by
    rw [h.account_eq]
  cases hget : s.pool.get? id' with
  | none =>
    simp only [Server.send, Pool.send, hget]
    exact hsame (.note _ (payload?_eq_none id (.inr rfl)) rfl)
  | some c =>
    cases hsend : c.send data with
    | error =>
      simp only [Server.send, Pool.send, hget, hsend]
      exact hsame (.note _ (payload?_eq_none id (.inr rfl)) rfl)
    | ok c' =>
      obtain ⟨link, hpush, rfl⟩ := push_of_send hsend
      simp only [Server.send, Pool.send, hget, hsend]
      by_cases hid : id' = id
      · -- The payload is at the end of the queue, and was written down as accepted.
        subst hid
        have hafter : ((s.setPool (s.pool.set id' { c with link := link })).note
            (.sent id' data true)).account id' stream mail heard due =
              { s.account id' stream mail heard due with
                link := some link
                accepted := payloads id' s.trace ++ [data] } := by
          have hget' : (s.pool.set id' { c with link := link }).get? id' =
              some { c with link := link } := by
            rw [Pool.get?_set, if_pos rfl]
          have hpayloads : payloads id' (s.trace ++ [.sent id' data true]) =
              payloads id' s.trace ++ [data] := by
            simp [payloads, Happening.payload?]
          have hhanded : handed id' (s.trace ++ [.sent id' data true]) = handed id' s.trace := by
            simp [handed, Happening.bytes?]
          simp only [account, note, setPool, pool] at hget' ⊢
          simp only [pool] at hget
          rw [hget', hpayloads, hhanded, hget]
          rfl
        have hlink : (s.account id' stream mail heard due).link = some c.link :=
          congrArg (Option.map _) hget
        have hsent : Traffic (s.account id' stream mail heard due) _ := .send hlink hpush
        change Relation.ReflTransGen Traffic _
          (((s.setPool (s.pool.set id' { c with link := link })).note
            (.sent id' data true)).account id' stream mail heard due)
        rw [hafter]
        exact .single hsent
      · have hpool : SameAccount id s (s.setPool (s.pool.set id' { c with link := link })) := by
          apply SameAccount.setPool
          rw [Pool.get?_set, if_neg (Ne.symm hid)]
        exact hsame (hpool.trans (.note _ (payload?_eq_none id (.inl hid)) rfl))

/-- What a reaction does first. -/
theorem traffic_advance (reaction : Reaction τ) :
    Relation.ReflTransGen Traffic (s.account id stream mail heard due)
      ((s.advance reaction).2.account id stream mail heard due) := by
  have hsame {s' : Server σ} (h : SameAccount id s s') :
      Relation.ReflTransGen Traffic (s.account id stream mail heard due)
        (s'.account id stream mail heard due) := by
    rw [h.account_eq]
  cases reaction with
  | done value => exact .refl
  | look id' next => exact .refl
  | send id' data next => exact traffic_send id stream mail heard due s id' data
  | close id' next => exact hsame (.askClose id s id')
  | writeExtra id' data next => exact hsame (.modify id s id' fun _ => ⟨rfl, rfl⟩)
  | keep id' next => exact hsame ⟨rfl, rfl, rfl⟩
  | release id' next => exact hsame ⟨rfl, rfl, rfl⟩
  | say notice next => exact hsame (.note s rfl rfl)

/-- All that a reaction does. -/
theorem traffic_perform (reaction : Reaction τ) :
    Relation.ReflTransGen Traffic (s.account id stream mail heard due)
      ((s.perform reaction).2.account id stream mail heard due) := by
  have hfirst := traffic_advance id stream mail heard due s reaction
  induction reaction generalizing s with
  | done value => exact .refl
  | look id' next ih => exact ih _ s (traffic_advance id stream mail heard due s _)
  | send id' data next ih | close id' next ih => exact hfirst.trans (ih _ _ (traffic_advance ..))
  | writeExtra id' data next ih | keep id' next ih | release id' next ih | say notice next ih =>
    exact hfirst.trans (ih _ (traffic_advance ..))

end Reactions

/-! ## What the server does -/

namespace Machine

variable {m m' : Machine σ} {id : ConnId}

/-- Where nothing that counts has changed, the account is the same. -/
theorem account_eq (hserver : SameAccount id m.server m'.server)
    (hstreams : m'.system.streams = m.system.streams) (hevents : m'.system.events = m.system.events)
    (hrunning : m'.system.running = m.system.running)
    (hdue : m'.stage.isDue id = m.stage.isDue id) : m'.account id = m.account id := by
  unfold Machine.account
  rw [hserver.account_eq, hstreams, hevents, hrunning, hdue]

/-- On an account that is the same nothing happens. -/
theorem traffic_of_eq (h : m'.account id = m.account id) :
    Relation.ReflTransGen Traffic (m.account id) (m'.account id) := by
  rw [h]

/-- A callback is called that hands on no bytes of a connection, and does not tell of it. -/
theorem account_call (hfree : m.stage = .free) {callback : Callback}
    (hbytes : (Happening.called callback).bytes? id = none) (hother : callback ≠ .accepted id) :
    (m.call callback).account id = m.account id := by
  have hnote : SameAccount id m.server (m.call callback).server := .note _ rfl hbytes
  refine account_eq hnote rfl rfl rfl ?_
  rw [hfree]
  cases callback with
  | accepted id' =>
    have hne : id' ≠ id := fun heq => hother (congrArg _ heq)
    exact beq_eq_false_iff_ne.mpr hne
  | acceptFailed | received | closing | closed | heartbeat => rfl

/-- A connection begins to close, unless it has begun before. -/
theorem traffic_disconnect (hfree : m.stage = .free) (id' : ConnId) (jobs : Bool → List Job) :
    Relation.ReflTransGen Traffic (m.account id) ((m.disconnect id' jobs).account id) := by
  cases hfirst : (m.server.pool.beginClose id').1 with
  | false =>
    have heq : m.disconnect id' jobs = { m with jobs := jobs false } := by
      simp only [Machine.disconnect, hfirst, Bool.false_eq_true, if_false]
    rw [heq]
    exact .refl
  | true =>
    have heq : m.disconnect id' jobs =
        (({ m with jobs := jobs true } : Machine σ).setServer
          (m.server.setPool (m.server.pool.beginClose id').2)).call (.closing id') := by
      simp only [Machine.disconnect, hfirst, if_true]
    have hfree' : (({ m with jobs := jobs true } : Machine σ).setServer
        (m.server.setPool (m.server.pool.beginClose id').2)).stage = .free := hfree
    rw [heq, account_call hfree' rfl (by simp)]
    cases hget : m.server.pool.get? id' with
    | none => simp only [Pool.beginClose, hget, Bool.false_eq_true] at hfirst
    | some c =>
      have hpool (id : ConnId) : (m.server.pool.beginClose id').2.get? id =
          if id = id' then some { c with closing := true } else m.server.pool.get? id := by
        simp only [Pool.beginClose, hget]
        exact Pool.get?_set ..
      by_cases hid : id = id'
      · -- The entry stays in the table, and its account is closed from here on.
        subst hid
        have hclosed : Traffic (m.account id) _ := .close
        have hafter : (({ m with jobs := jobs true } : Machine σ).setServer
            (m.server.setPool (m.server.pool.beginClose id).2)).account id =
              { m.account id with isOpen := false } := by
          have hget' := hpool id
          rw [if_pos rfl] at hget'
          simp only [Machine.account, Server.account, setServer, setPool, pool] at hget hget' ⊢
          rw [hget', hget]
          rfl
        rw [hafter]
        exact .single hclosed
      · have hsame : SameAccount id m.server
            (m.server.setPool (m.server.pool.beginClose id').2) := by
          apply SameAccount.setPool
          rw [hpool, if_neg hid]
        exact traffic_of_eq (account_eq hsame rfl rfl rfl rfl)

/-- A job is done. -/
theorem traffic_perform (hfree : m.stage = .free) (job : Job) :
    Relation.ReflTransGen Traffic (m.account id) ((m.perform job).account id) := by
  cases job with
  | visit rest =>
    have hadvance := traffic_advance id m.system.streams[id]?
      (m.system.events.filterMap (·.report? id)) m.system.running (m.stage.isDue id) m.server rest
    simp only [Machine.perform]
    split
    all_goals
      next heq =>
        rw [heq] at hadvance
        exact hadvance
  | count => exact .refl
  | disconnect id' => exact traffic_disconnect hfree id' _
  | disconnectEach ids counted =>
    cases ids with
    | nil => exact .refl
    | cons id' ids => exact traffic_disconnect hfree id' _
  | evictEach ids =>
    cases ids with
    | nil => exact .refl
    | cons id' ids => exact traffic_disconnect hfree id' _
  | sayEvicted id' =>
    have hsame : SameAccount id m.server (m.server.sayEvicted id') := by
      unfold sayEvicted
      split
      · exact .say _ _ _
      · exact .refl _ _
    exact traffic_of_eq (account_eq hsame rfl rfl rfl rfl)

/-- The task of a connection is told to stop. -/
theorem traffic_signalStop (m : Machine σ) (id' : ConnId) :
    Relation.ReflTransGen Traffic (m.account id)
      ((m.setServer (m.server.signalStop id')).account id) := by
  by_cases hid : id = id'
  · subst hid
    have hpool : (m.server.pool.modify id Connection.signalStop).get? id =
        (m.server.pool.get? id).map Connection.signalStop := by
      rw [Pool.get?_modify, if_pos rfl]
    cases hget : m.server.pool.get? id with
    | none =>
      have hsame : SameAccount id m.server (m.server.signalStop id) := by
        apply SameAccount.setPool
        rw [hpool, hget]
        rfl
      exact traffic_of_eq (account_eq hsame rfl rfl rfl rfl)
    | some c =>
      have hlink : (m.account id).link = some c.link := congrArg (Option.map _) hget
      have hsignal : Traffic (m.account id) _ := .signal hlink
      have hafter : (m.setServer (m.server.signalStop id)).account id =
          { m.account id with link := some c.link.signal } := by
        simp only [Machine.account, Server.account, setServer, signalStop, setPool, pool]
          at hget hpool ⊢
        rw [hpool, hget]
        rfl
      rw [hafter]
      exact .single hsignal
  · have hsame : SameAccount id m.server (m.server.signalStop id') := by
      apply SameAccount.setPool
      rw [Pool.get?_modify, if_neg hid]
    exact traffic_of_eq (account_eq hsame rfl rfl rfl rfl)

/-- The task of a connection that was accepted is started. -/
theorem traffic_spawn {id' : ConnId} (hstage : m.stage = .returned (.accepted id')) :
    Relation.ReflTransGen Traffic (m.account id)
      ((({ m with stage := .free } : Machine σ).conclude (.accepted id')).account id) := by
  have hstream := Ascending.getElem?_insert m.system.streams id' id {}
  have hdue : (m.account id).due = (id' == id) := by
    change m.stage.isDue id = _
    rw [hstage]
    rfl
  by_cases hid : id = id'
  · subst hid
    rw [beq_self_eq_true] at hdue
    rw [if_pos rfl] at hstream
    have hspawn : Traffic (m.account id) _ := .spawn hdue
    have hafter : (({ m with stage := .free } : Machine σ).conclude (.accepted id)).account id =
        { m.account id with stream := some {}, due := false } := by
      simp only [Machine.account, Machine.conclude, hstream]
      rfl
    rw [hafter]
    exact .single hspawn
  · rw [beq_eq_false_iff_ne.mpr (Ne.symm hid)] at hdue
    rw [if_neg hid] at hstream
    have hafter : (({ m with stage := .free } : Machine σ).conclude (.accepted id')).account id =
        m.account id := by
      have hdue' : m.stage.isDue id = false := hdue
      simp only [Machine.account, Machine.conclude, hstream, hdue']
      rfl
    rw [hafter]

/-- What a callback was called for is done. -/
theorem traffic_conclude {callback : Callback} (hstage : m.stage = .returned callback) :
    Relation.ReflTransGen Traffic (m.account id)
      ((({ m with stage := .free } : Machine σ).conclude callback).account id) := by
  -- Unless the callback told of the connection, no task is to be started.
  have hfree (hother : ∀ id', callback ≠ .accepted id') :
      ({ m with stage := .free } : Machine σ).account id = m.account id := by
    refine account_eq (.refl id _) rfl rfl rfl ?_
    rw [hstage]
    cases callback with
    | accepted id' => exact absurd rfl (hother id')
    | acceptFailed | received | closing | closed | heartbeat => rfl
  cases callback with
  | accepted id' => exact traffic_spawn hstage
  | closing id' =>
    have hsignal : Relation.ReflTransGen Traffic
        (({ m with stage := .free } : Machine σ).account id) _ := traffic_signalStop _ id'
    rw [hfree (by simp)] at hsignal
    exact hsignal
  | closed id' =>
    have hsame : SameAccount id m.server (m.server.release id') := by
      have hgone : SameAccount id m.server
          { m.server with roster := (m.server.roster.remove id').2 } := ⟨rfl, rfl, rfl⟩
      exact hgone.trans (.say _ _ _)
    rw [← hfree (by simp)]
    exact traffic_of_eq (account_eq hsame rfl rfl rfl rfl)
  | acceptFailed | received | heartbeat => exact traffic_of_eq (hfree (by simp))

/-- A connection is accepted, and comes into being. -/
theorem Orderly.traffic_accept (h : m.Orderly) (hfree : m.stage = .free) (arrival : Arrival) :
    Relation.ReflTransGen Traffic (m.account id) ((m.accept arrival).account id) := by
  cases arrival with
  | failure cause =>
    have hsame : SameAccount id m.server (m.server.sayRefused cause) := .say _ _ _
    have hfree' : (m.setServer (m.server.sayRefused cause)).stage = .free := hfree
    change Relation.ReflTransGen _ _
      (((m.setServer (m.server.sayRefused cause)).call (.acceptFailed cause)).account id)
    rw [account_call hfree' rfl (by simp)]
    exact traffic_of_eq (account_eq hsame rfl rfl rfl rfl)
  | peer address =>
    obtain ⟨notice, htrace⟩ : ∃ notice, ((m.server.enter address).note
        (.called (.accepted m.server.nextId))).trace =
          m.server.trace ++ [.said notice] ++ [.called (.accepted m.server.nextId)] := ⟨_, rfl⟩
    have hpayloads : payloads id ((m.server.enter address).note
        (.called (.accepted m.server.nextId))).trace = payloads id m.server.trace := by
      simp [payloads, htrace, Happening.payload?]
    have hhanded : handed id ((m.server.enter address).note
        (.called (.accepted m.server.nextId))).trace = handed id m.server.trace := by
      simp [handed, htrace, Happening.bytes?]
    have hget := get?_enter m.server address id
    by_cases hid : id = m.server.nextId
    · -- The next number was not used before.
      have hnone : m.server.pool.get? id = none := by
        rw [← Option.map_eq_none_iff]
        by_contra hmark
        exact Nat.lt_irrefl _ (hid ▸ h.below id hmark)
      have hlink : (m.account id).link = none := congrArg (Option.map _) hnone
      have henter : Traffic (m.account id) _ := .enter hlink
      have hafter : (m.accept (.peer address)).account id =
          { m.account id with link := some {}, isOpen := true, due := true } := by
        have hdue : (m.accept (.peer address)).stage.isDue id = true := beq_iff_eq.mpr hid.symm
        have hserver : (m.accept (.peer address)).server =
          (m.server.enter address).note (.called (.accepted m.server.nextId)) := rfl
        rw [if_pos hid] at hget
        unfold Machine.account
        rw [hdue, hserver, Server.account, hpayloads, hhanded]
        change (Account.mk (((m.server.enter address).pool.get? id).map (·.link)) _ _ _
          (((m.server.enter address).pool.get? id).any (!·.closing)) _ _ _) = _
        rw [hget]
        rfl
      rw [hafter]
      exact .single henter
    · have hsame : SameAccount id m.server ((m.server.enter address).note
          (.called (.accepted m.server.nextId))) := by
        refine ⟨?_, hpayloads, hhanded⟩
        change ((m.server.enter address).pool.get? id).map _ = _
        rw [hget, if_neg hid]
      refine traffic_of_eq (account_eq hsame rfl rfl rfl ?_)
      rw [hfree]
      exact beq_eq_false_iff_ne.mpr (Ne.symm hid)

/-- A report is taken out of the mailbox. -/
theorem account_events (m : Machine σ) (events : List Event) :
    (m.setSystem { m.system with events := events }).account id =
      { m.account id with mail := events.filterMap (·.report? id) } := rfl

/-- The closed callback is called for closing connections only. -/
theorem Orderly.isClosing_of_closed (h : m.Orderly) (hcalled : .called (.closed id) ∈ m.trace) :
    (m.view id).isClosing = true := by
  obtain ⟨past, future, heq⟩ := List.append_of_mem hcalled
  obtain ⟨-, -, hcount⟩ := h.due past _ future heq
  have hmem : .called (.closing id) ∈ m.trace := by
    rw [heq]
    exact List.mem_append_left _ (List.count_pos_iff.mp (by omega))
  by_contra hnot
  exact (h.view id).not_closing (Bool.not_eq_true _ ▸ hnot) hmem

/-- An open connection is found in the table. -/
theorem Orderly.get?_of_isOpen (h : m.Orderly) {c : Connection}
    (hc : m.server.pool.get? id = some c) (hopen : c.closing = false) :
    m.server.roster.get? id = some (id, c) := by
  have hid := h.view id
  have hmark := view_mark hc
  have hnot : .returned (.closed id) ∉ m.trace := by
    intro hreturned
    have hclosing := h.isClosing_of_closed (hid.called (.closed id) rfl (.inr hreturned))
    rw [View.isClosing, hmark, Option.any_some, hopen] at hclosing
    exact Bool.false_ne_true hclosing
  have hlive := (hid.live (by rw [hmark]; exact Option.some_ne_none _)).resolve_right hnot
  obtain ⟨ref, href⟩ := Option.ne_none_iff_exists'.mp hlive
  obtain rfl := hid.named ref href
  have hget : m.server.roster.table.get? ref = some ref := href
  have hc' : m.server.roster.pool.get? ref = some c := hc
  simp only [Roster.get?, hget, hc', Option.bind_eq_bind, Option.bind_some]
  rfl

/-- What is found in the table under a number is the connection of that number. -/
theorem Orderly.pool_of_get? (h : m.Orderly) {ref : Ref} {c : Connection}
    (hget : m.server.roster.get? id = some (ref, c)) :
    ref = id ∧ m.server.pool.get? id = some c := by
  obtain ⟨ref', href, hc⟩ := Option.bind_eq_some_iff.mp hget
  obtain ⟨c', hc', heq⟩ := Option.bind_eq_some_iff.mp hc
  obtain ⟨rfl, rfl⟩ := Prod.mk.inj (Option.some.inj heq)
  obtain rfl := (h.view id).named ref' href
  exact ⟨rfl, hc'⟩

/-- A connection is open until it has begun to close. -/
theorem isOpen_iff : (m.account id).isOpen = true ↔
    ∃ c, m.server.pool.get? id = some c ∧ c.closing = false := by
  change (m.server.pool.get? id).any _ = true ↔ _
  rw [Option.any_eq_true]
  simp only [Bool.not_eq_true']

/-- To be about to close a connection is not yet to close it. -/
theorem account_disconnectLive (m : Machine σ) (id' : ConnId) :
    (m.disconnectLive id').account id = m.account id := by
  unfold Machine.disconnectLive
  split <;> rfl

/-- Bytes that were read are handed on to the handler. -/
theorem traffic_deliver (hrunning : m.system.running = true) (hfree : m.stage = .free)
    {c : Connection} (hc : m.server.pool.get? id = some c) (hopen : c.closing = false)
    {data : Bytes} {rest : List Event} (hevents : m.system.events = .read id data :: rest) :
    Traffic (m.account id)
      ((((m.setSystem { m.system with events := rest }).setServer (m.server.touch id)).call
        (.received id data)).account id) := by
  have hmail : (m.account id).mail = .read data :: rest.filterMap (·.report? id) := by
    change m.system.events.filterMap _ = _
    rw [hevents, List.filterMap_cons, Event.report?, if_pos rfl]
  have hisOpen : (m.account id).isOpen = true := isOpen_iff.mpr ⟨c, hc, hopen⟩
  have hdeliver : Traffic (m.account id) _ := .deliver hmail hrunning hisOpen
  -- All but the mailbox and what was handed on is as it was.
  have htouch := SameAccount.touch id m.server id
  have htrace : ((m.server.touch id).note (.called (.received id data))).trace =
      m.server.trace ++ [.called (.received id data)] := rfl
  have hhanded : handed id ((m.server.touch id).note (.called (.received id data))).trace =
      handed id m.server.trace ++ data := by
    rw [htrace]
    simp [handed, Happening.bytes?]
  have hpayloads : payloads id ((m.server.touch id).note (.called (.received id data))).trace =
      payloads id m.server.trace := by
    rw [htrace]
    simp [payloads, Happening.payload?]
  have hafter : (((m.setSystem { m.system with events := rest }).setServer
      (m.server.touch id)).call (.received id data)).account id =
        { m.account id with
          mail := rest.filterMap (·.report? id)
          received := (m.account id).received ++ data } := by
    have hsame := htouch.account_eq m.system.streams[id]? (rest.filterMap (·.report? id))
      m.system.running false
    calc _ = { (m.server.touch id).account id m.system.streams[id]?
              (rest.filterMap (·.report? id)) m.system.running false with
            accepted := payloads id ((m.server.touch id).note
              (.called (.received id data))).trace
            received := handed id ((m.server.touch id).note
              (.called (.received id data))).trace } := rfl
      _ = _ := by
        rw [hsame, hhanded, hpayloads]
        simp only [Machine.account, hfree]
        rfl
  rw [hafter]
  exact hdeliver

/-- A report is taken out of the mailbox, and no bytes are handed on. -/
theorem traffic_taken {event : Event} {rest : List Event}
    (hevents : m.system.events = event :: rest)
    (hpassed : ∀ report ∈ event.report? id,
      report.data? = none ∨ (m.account id).isOpen = false) :
    Relation.ReflTransGen Traffic (m.account id)
      ((m.setSystem { m.system with events := rest }).account id) := by
  have hmail : (m.account id).mail =
      (event.report? id).toList ++ rest.filterMap (·.report? id) := by
    change m.system.events.filterMap _ = _
    rw [hevents, List.filterMap_cons]
    cases event.report? id <;> rfl
  rw [account_events]
  exact Stream.Account.traffic_pass hmail hpassed

/-- Bytes that were read are taken in. They are handed on if the connection is open, which is in the
table then, and lost else. -/
theorem Orderly.traffic_read (h : m.Orderly) (hrunning : m.system.running = true)
    (hfree : m.stage = .free) {id' : ConnId} {data : Bytes} {rest : List Event}
    (hevents : m.system.events = .read id' data :: rest) :
    Relation.ReflTransGen Traffic (m.account id)
      (((m.setSystem { m.system with events := rest }).handle (.read id' data)).account id) := by
  obtain ⟨next, hnext⟩ : ∃ next, next = m.setSystem { m.system with events := rest } := ⟨_, rfl⟩
  have hserver : next.server = m.server := hnext ▸ rfl
  have hfree' : next.stage = .free := hnext ▸ hfree
  -- Bytes that are not handed on may leave the mailbox only where the connection is closed.
  have hdrop (hclosed : id' = id → (m.account id).isOpen = false) :
      Relation.ReflTransGen Traffic (m.account id) (next.account id) := by
    rw [hnext]
    refine traffic_taken hevents fun report hreport => .inr (hclosed ?_)
    by_contra hne
    rw [Event.report?, if_neg hne] at hreport
    exact absurd hreport (Option.not_mem_none _)
  rw [← hnext]
  cases hget : m.server.roster.get? id' with
  | none =>
    have hstay : next.handle (.read id' data) = next := by
      simp only [Machine.handle, hserver, hget]
    rw [hstay]
    -- An open connection is in the table, so this one is not open.
    refine hdrop fun heq => ?_
    subst heq
    by_contra hopen
    obtain ⟨c, hc, hcopen⟩ := isOpen_iff.mp (Bool.not_eq_false _ ▸ hopen)
    exact Option.some_ne_none _ ((h.get?_of_isOpen hc hcopen).symm.trans hget)
  | some found =>
    obtain ⟨ref, c⟩ := found
    obtain ⟨rfl, hc⟩ := h.pool_of_get? hget
    cases hclosing : c.closing with
    | true =>
      have hstay : next.handle (.read ref data) = next := by
        simp only [Machine.handle, hserver, hget, hclosing, if_true]
      rw [hstay]
      refine hdrop fun heq => ?_
      subst heq
      by_contra hopen
      obtain ⟨c', hc', hcopen⟩ := isOpen_iff.mp (Bool.not_eq_false _ ▸ hopen)
      obtain rfl := Option.some.inj (hc.symm.trans hc')
      exact Bool.false_ne_true (hcopen.symm.trans hclosing)
    | false =>
      have htake : next.handle (.read ref data) =
          (next.setServer (m.server.touch ref)).call (.received ref data) := by
        simp only [Machine.handle, hserver, hget, hclosing, Bool.false_eq_true, if_false]
      rw [htake]
      by_cases hid : ref = id
      · subst hid hnext
        exact .single (traffic_deliver hrunning hfree hc hclosing hevents)
      · -- The stamp and the call of another connection are on no account but its own.
        have htouch : (next.setServer (m.server.touch ref)).account id = next.account id :=
          account_eq (hserver ▸ SameAccount.touch id m.server ref) rfl rfl rfl rfl
        have hfree'' : (next.setServer (m.server.touch ref)).stage = .free := hfree'
        have hbytes : (Happening.called (.received ref data)).bytes? id = none := if_neg hid
        rw [account_call hfree'' hbytes (by simp), htouch]
        exact hdrop fun heq => absurd heq hid

/-- A report is taken in. -/
theorem Orderly.traffic_handle (h : m.Orderly) (hrunning : m.system.running = true)
    (hfree : m.stage = .free) {event : Event} {rest : List Event}
    (hevents : m.system.events = event :: rest) :
    Relation.ReflTransGen Traffic (m.account id)
      (((m.setSystem { m.system with events := rest }).handle event).account id) := by
  cases event with
  | read id' data => exact h.traffic_read hrunning hfree hevents
  | ended id' failure =>
    have hsaid (next : Machine σ) :
        (next.handle (.ended id' failure)).account id = next.account id := by
      simp only [Machine.handle]
      rw [account_disconnectLive]
      exact account_eq (SameAccount.sayEnded id next.server id' failure) rfl rfl rfl rfl
    rw [hsaid]
    refine traffic_taken hevents fun report hreport => .inl ?_
    obtain ⟨-, heq⟩ := Option.ite_none_right_eq_some.mp hreport
    obtain rfl := Option.some.inj heq
    rfl
  | closed id' =>
    have hcalled (next : Machine σ) (hidle : next.stage = .free) :
        (next.handle (.closed id')).account id = next.account id := by
      simp only [Machine.handle]
      split
      · rfl
      · exact account_call hidle rfl (by simp)
    have hidle : (m.setSystem { m.system with events := rest }).stage = .free := hfree
    rw [hcalled _ hidle]
    refine traffic_taken hevents fun report hreport => .inl ?_
    obtain ⟨-, heq⟩ := Option.ite_none_right_eq_some.mp hreport
    obtain rfl := Option.some.inj heq
    rfl

end Machine

end NetSession.Server
