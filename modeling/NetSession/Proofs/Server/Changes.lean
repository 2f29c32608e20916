import Mathlib.Logic.Relation
import NetSession.Proofs.Connection.Order
import NetSession.Proofs.Connection.Outline
import NetSession.Server.System

/-!
# What a server can do

An `Operation` is something that a server does from beginning to end, whatever it is told about
connections that it may know or not, or something that others do in between. Apart from the arrival
of a new connection and from time that passes, all operations are made of a few changes. `Change`
lists them, each with the callback that is called at it, and `changes_operate` says that there are
no others: what is kept by each change is kept by each operation. Of `Steady` changes there are
many, above all what a handler does about a callback: they leave the table and all outlines alone,
and call nothing.
-/

namespace NetSession

namespace Table

/-- A sound table in which the reference to a connection is its number. -/
structure Keyed (t : Table) : Prop where
  /-- The two maps of the table agree. -/
  sound : t.Sound
  /-- The reference for a number is the number. -/
  named : ∀ {id : ConnId} {ref : Ref}, t.get? id = some ref → ref = id

namespace Keyed

variable {t : Table} (h : t.Keyed)

include h

/-- The references of the table are its numbers. -/
theorem refs_eq : t.refs = t.ids := by
  unfold refs ids
  apply List.map_congr_left
  rintro ⟨id, ref⟩ hmem
  exact h.named (h.sound.mem_toList.mp hmem)

/-- The numbers in the table are those that are found. -/
theorem mem_ids {id : ConnId} : id ∈ t.ids ↔ t.get? id ≠ none := by
  unfold ids
  rw [List.mem_map, Option.ne_none_iff_exists']
  constructor
  · rintro ⟨⟨id', ref⟩, hmem, rfl⟩
    exact ⟨ref, h.sound.mem_toList.mp hmem⟩
  · rintro ⟨ref, hget⟩
    exact ⟨(id, ref), h.sound.mem_toList.mpr hget, rfl⟩

/-- Who is found is found by its number. -/
theorem get?_eq {id : ConnId} (hid : t.get? id ≠ none) : t.get? id = some id := by
  obtain ⟨ref, hget⟩ := Option.ne_none_iff_exists'.mp hid
  rw [hget, h.named hget]

/-- A connection is put in under its number. -/
theorem insert (id : ConnId) : (t.insert id id).Keyed where
  sound := h.sound.insert id id
  named {id' ref} hget := by
    rw [get?_insert] at hget
    split at hget
    · next heq => rw [← Option.some.inj hget, heq]
    · exact h.named hget

/-- A connection is taken out. -/
theorem remove (id : ConnId) : (t.remove id).2.Keyed where
  sound := h.sound.remove id
  named {id' ref} hget := by
    rw [get?_remove] at hget
    split at hget
    · exact nomatch hget
    · exact h.named hget

end Keyed

end Table

namespace Server

variable {σ τ : Type}

/-- A server that was just started. -/
def start (config : ServerConfig) (handler : Handler σ) (memory : σ) (now : Instant) : Server σ :=
  { config, handler, memory, now }

/-- Something that a server does, or that others do to what they share with it. -/
inductive Operation where
  /-- The server accepts a connection. -/
  | accept (peer : Endpoint)
  /-- The server takes note that no connection could be accepted. -/
  | acceptFailed (cause : String)
  /-- The server takes in what it is told about a connection. -/
  | handle (event : Event)
  /-- The server serves a request to close a connection. -/
  | close (id : ConnId)
  /-- The server begins to close all connections. -/
  | disconnectAll
  /-- The server visits and counts its connections. -/
  | iterate (visit : Option (ConnId → Reaction Unit))
  /-- The heartbeat ticks. -/
  | heartbeat
  /-- Someone who holds references does something with them. -/
  | act (reaction : Reaction Unit)
  /-- The task of a connection takes payloads or the signal to stop, or gives up the queue. -/
  | relink (id : ConnId) (link : Link)
  /-- Time passes. -/
  | pass (d : Duration)

/-- Whether a connection is accepted. -/
def Operation.isAccept : Operation → Bool
  | .accept _ => true
  | _ => false

/-- The arrival of a new connection names its peer. -/
theorem Operation.isAccept_iff {operation : Operation} :
    operation.isAccept = true ↔ ∃ peer, operation = .accept peer := by
  cases operation <;> simp [isAccept]

/-- The connection with another link. -/
def relink (s : Server σ) (id : ConnId) (f : Link → Link) : Server σ :=
  s.setPool (s.pool.modify id fun c => { c with link := f c.link })

/-- The server after an operation. -/
def operate (s : Server σ) : Operation → Server σ
  | .accept peer => s.accept peer
  | .acceptFailed cause => (s.acceptFailed cause).2
  | .handle event => s.handle event
  | .close id => s.disconnectLive id
  | .disconnectAll => s.disconnectAll.2
  | .iterate visit => (s.iterate visit).2
  | .heartbeat => s.heartbeat
  | .act reaction => (s.perform reaction).2
  | .relink id link => s.relink id fun _ => link
  | .pass d => { s with now := s.now.after d }

/-- The server after some operations. -/
def operateAll (s : Server σ) (operations : List Operation) : Server σ :=
  operations.foldl operate s

/-! ## Steady changes -/

/-- Whether something that happened is neither a call of a callback nor a send that worked on a
connection of a pool that has begun to close. -/
def Happening.IsMinor (pool : Pool) : Happening → Prop
  | .called _ => False
  | .sent id _ ok => pool.isClosing id = true → ok = false
  | _ => True

/-- Nothing happened between two states of a server but that something was said, sent or written
into an extension block, or that a callback returned. -/
structure Steady (s s' : Server σ) : Prop where
  /-- The server runs as before. -/
  config : s'.config = s.config
  /-- It calls the same handler. -/
  handler : s'.handler = s.handler
  /-- No time has passed. -/
  now : s'.now = s.now
  /-- The table is the same. -/
  table : s'.roster.table = s.roster.table
  /-- No connection was accepted. -/
  nextId : s'.nextId = s.nextId
  /-- The heartbeat did not tick. -/
  heartbeats : s'.heartbeats = s.heartbeats
  /-- The outlines of connections are the same. -/
  outline : ∀ id, s'.pool.outline id = s.pool.outline id
  /-- No callback was called, and nothing was sent on a connection that has begun to close. -/
  trace : ∃ l, s'.trace = s.trace ++ l ∧ ∀ h ∈ l, h.IsMinor s.pool

namespace Steady

variable {s s' s'' : Server σ}

/-- The same connections have begun to close. -/
theorem isClosing (h : Steady s s') (id : ConnId) : s'.pool.isClosing id = s.pool.isClosing id := by
  rw [Pool.isClosing_eq, Pool.isClosing_eq, h.outline]

/-- The same connections have not begun to close. -/
theorem isOpen (h : Steady s s') (id : ConnId) : s'.pool.isOpen id = s.pool.isOpen id := by
  rw [Pool.isOpen_eq, Pool.isOpen_eq, h.outline]

/-- Nothing happens in no time. -/
theorem refl (s : Server σ) : Steady s s :=
  ⟨rfl, rfl, rfl, rfl, rfl, rfl, fun _ => rfl, [], (List.append_nil _).symm,
    fun _ h => absurd h List.not_mem_nil⟩

/-- One steady change after another is a steady change. -/
theorem trans (h : Steady s s') (h' : Steady s' s'') : Steady s s'' where
  config := h'.config.trans h.config
  handler := h'.handler.trans h.handler
  now := h'.now.trans h.now
  table := h'.table.trans h.table
  nextId := h'.nextId.trans h.nextId
  heartbeats := h'.heartbeats.trans h.heartbeats
  outline id := (h'.outline id).trans (h.outline id)
  trace := by
    obtain ⟨l, hl, hminor⟩ := h.trace
    obtain ⟨l', hl', hminor'⟩ := h'.trace
    refine ⟨l ++ l', by rw [hl', hl, List.append_assoc], fun e he => ?_⟩
    rcases List.mem_append.mp he with he | he
    · exact hminor e he
    · have hlater := hminor' e he
      cases e with
      | sent id data ok => exact fun hclosing => hlater ((h.isClosing id).trans hclosing)
      | called => exact hlater
      | returned | asked | said | wrote | shut | reported => trivial

/-- Something minor is written down. -/
theorem note (s : Server σ) {e : Happening} (he : e.IsMinor s.pool) : Steady s (s.note e) :=
  ⟨rfl, rfl, rfl, rfl, rfl, rfl, fun _ => rfl, [e], rfl, by simpa using he⟩

/-- The connections change, but not their outlines. -/
theorem setPool {pool : Pool} (h : ∀ id, pool.outline id = s.pool.outline id) :
    Steady s (s.setPool pool) :=
  ⟨rfl, rfl, rfl, rfl, rfl, rfl, h, [], (List.append_nil _).symm,
    fun _ h => absurd h List.not_mem_nil⟩

/-- A connection is taken out of the table before or after. -/
theorem remove (h : Steady s s') (id : ConnId) :
    Steady { s with roster := (s.roster.remove id).2 }
      { s' with roster := (s'.roster.remove id).2 } where
  config := h.config
  handler := h.handler
  now := h.now
  table := by
    unfold Roster.remove
    rw [h.table]
  nextId := h.nextId
  heartbeats := h.heartbeats
  outline := h.outline
  trace := h.trace

end Steady

variable (s : Server σ)

/-- To say something is a steady change. -/
theorem steady_say (severity : Console.Severity) (message : String) :
    Steady s (s.say severity message) :=
  .note s trivial

/-- To send is a steady change. It does not work on a connection that has begun to close. -/
theorem steady_send (id : ConnId) (data : Bytes) : Steady s (s.send id data).2 := by
  have hpool : Steady s (s.setPool (s.pool.send id data).2) :=
    .setPool (Pool.outline_send s.pool id data)
  apply hpool.trans (.note _ _)
  intro hclosing
  rw [hpool.isClosing] at hclosing
  exact congrArg (·.1.isOk) (Pool.send_of_isClosing hclosing data)

/-- To ask for a close is a steady change. -/
theorem steady_askClose (id : ConnId) : Steady s (s.askClose id).2 :=
  (Steady.setPool (Pool.outline_askClose s.pool id)).trans (.note _ trivial)

/-- What a reaction does is a steady change. -/
theorem steady_perform (reaction : Reaction τ) : Steady s (s.perform reaction).2 := by
  induction reaction generalizing s with
  | done => exact .refl s
  | look id next ih => exact ih _ s
  | send id data next ih => exact (s.steady_send id data).trans (ih _ _)
  | close id next ih => exact (s.steady_askClose id).trans (ih _ _)
  | writeExtra id data next ih =>
    have hpool : Steady s (s.setPool (s.pool.modify id (·.writeExtra data))) :=
      .setPool (Pool.outline_modify_of_eq s.pool id fun _ => rfl)
    exact hpool.trans (ih _)
  | keep id next ih =>
    have hheld : Steady s { s with held := id :: s.held } :=
      ⟨rfl, rfl, rfl, rfl, rfl, rfl, fun _ => rfl, (Steady.refl s).trace⟩
    exact hheld.trans (ih _)
  | release id next ih =>
    have hheld : Steady s { s with held := s.held.erase id } :=
      ⟨rfl, rfl, rfl, rfl, rfl, rfl, fun _ => rfl, (Steady.refl s).trace⟩
    exact hheld.trans (ih _)
  | say notice next ih => exact (Steady.note (e := .said notice) s trivial).trans (ih _)

/-- Once a callback is called, it runs to its end by a steady change. -/
theorem steady_call (callback : Callback) :
    Steady (s.note (.called callback)) (s.call callback) := by
  have hperform := steady_perform (s.note (.called callback)) (s.handler callback s.memory)
  have hmemory (s' : Server σ) (memory : σ) : Steady s' { s' with memory := memory } :=
    ⟨rfl, rfl, rfl, rfl, rfl, rfl, fun _ => rfl, (Steady.refl s').trace⟩
  exact hperform.trans ((hmemory _ _).trans (.note _ trivial))

/-- To visit connections is a steady change. -/
theorem steady_visitEach (visit : ConnId → Reaction Unit) (ids : List ConnId) :
    Steady s (s.visitEach visit ids) := by
  induction ids generalizing s with
  | nil => exact .refl s
  | cons id ids ih => exact (s.steady_perform (visit id)).trans (ih _)

/-- To say why nothing more can be read is a steady change. -/
theorem steady_sayEnded (id : ConnId) (failure : Option String) :
    Steady s (s.sayEnded id failure) := by
  cases failure <;> exact steady_say s _ _

/-- To say who was silent is a steady change. -/
theorem steady_sayEvicted (id : ConnId) : Steady s (s.sayEvicted id) := by
  unfold sayEvicted
  split
  · exact steady_say s _ _
  · exact .refl s

/-! ## Changes of the table -/

/-- The table of a server that has put a new connection into it. -/
theorem table_enter (s : Server σ) (peer : Endpoint) :
    (s.enter peer).roster.table = s.roster.table.insert s.nextId s.nextId := by
  simp only [enter, Roster.insert, Pool.get?_set, if_true, say, note, Connection.new]

/-- A new connection was read from just now. -/
theorem get?_enter (s : Server σ) (peer : Endpoint) (id : ConnId) :
    (s.enter peer).pool.get? id =
      if id = s.nextId then some (.new s.nextId peer s.config.connExtraSize s.now)
      else s.pool.get? id := by
  simp only [enter, pool, Roster.insert, Pool.get?_set, if_true, say, note, Connection.new,
    Connection.stamp]
  split <;> rfl

/-- A live connection is stamped, and put in once more. -/
theorem touch_of_live {s : Server σ} (hkeyed : s.roster.table.Keyed) {id : ConnId}
    (hlive : s.roster.table.get? id ≠ none) :
    s.touch id = { s with roster :=
      { pool := s.pool.modify id (·.stamp s.now), table := s.roster.table.insert id id } } := by
  have htouch := Table.touch_of_get?_some (hkeyed.get?_eq hlive)
  simp only [touch, Roster.touch, htouch]
  rfl

/-! ## Changes -/

/-- One change of a server that gets no new connection, with the callback that is called at it. -/
inductive Change (s : Server σ) : Server σ → Prop where
  /-- Nothing happens but that something was said, sent or written. -/
  | steady {s' : Server σ} (h : Steady s s') : Change s s'
  /-- The callback is called that tells that no connection could be accepted. -/
  | refuse (cause : String) : Change s (s.note (.called (.acceptFailed cause)))
  /-- A live connection that has not begun to close is moved to the tail, and the callback that
  hands over what was read is called. -/
  | receive (id : ConnId) (data : Bytes) (live : s.roster.table.get? id ≠ none)
      (isOpen : s.pool.isOpen id) : Change s ((s.touch id).note (.called (.received id data)))
  /-- A live connection is marked, and the closing callback is called. -/
  | close (id : ConnId) (live : s.roster.table.get? id ≠ none) (isOpen : s.pool.isOpen id) :
      Change s ((s.setPool (s.pool.beginClose id).2).note (.called (.closing id)))
  /-- The closed callback of a live connection is called, and the connection leaves the table. -/
  | release (id : ConnId) (live : s.roster.table.get? id ≠ none) :
      Change s ({ s with roster := (s.roster.remove id).2 }.note (.called (.closed id)))
  /-- The heartbeat is counted, and its callback is called. -/
  | beat : Change s (s.beat.note (.called (.heartbeat s.heartbeats s.roster.table.ids)))
  /-- The link of a connection changes. -/
  | relink (id : ConnId) (f : Link → Link) : Change s (s.relink id f)

/-- Some changes, one after the other. -/
abbrev Changes : Server σ → Server σ → Prop := Relation.ReflTransGen Change

variable {s} {s' s'' : Server σ}

/-- A server runs as before after a change, and no time has passed. -/
theorem Change.settings (h : Change s s') :
    s'.config = s.config ∧ s'.handler = s.handler ∧ s'.now = s.now := by
  cases h with
  | steady h => exact ⟨h.config, h.handler, h.now⟩
  | refuse | receive | close | release | beat | relink => exact ⟨rfl, rfl, rfl⟩

/-- A server runs as before after some changes, and no time has passed. -/
theorem Changes.settings (h : Changes s s') :
    s'.config = s.config ∧ s'.handler = s.handler ∧ s'.now = s.now := by
  induction h with
  | refl => exact ⟨rfl, rfl, rfl⟩
  | tail _ hchange ih =>
    obtain ⟨hconfig, hhandler, hnow⟩ := hchange.settings
    exact ⟨hconfig.trans ih.1, hhandler.trans ih.2.1, hnow.trans ih.2.2⟩

/-- No number is given at a change. -/
theorem Change.nextId (h : Change s s') : s'.nextId = s.nextId := by
  cases h with
  | steady h => exact h.nextId
  | refuse | receive | close | release | beat | relink => rfl

/-- No number is given at some changes. -/
theorem Changes.nextId (h : Changes s s') : s'.nextId = s.nextId := by
  induction h with
  | refl => rfl
  | tail _ hchange ih => exact hchange.nextId.trans ih

/-- A steady change is a change. -/
theorem Steady.changes (h : Steady s s') : Changes s s' := .single (.steady h)

/-- A change at which a callback is called, and then the callback. -/
theorem Change.call {callback : Callback} (h : Change s (s'.note (.called callback))) :
    Changes s (s'.call callback) :=
  .tail (.single h) (.steady (s'.steady_call callback))

/-- A connection that has not begun to close is marked, and its callback and its signal follow. -/
theorem disconnect_of_isOpen {id : ConnId} (h : s.pool.isOpen id) :
    s.disconnect id =
      (true, ((s.setPool (s.pool.beginClose id).2).call (.closing id)).signalStop id) := by
  have hfirst := s.pool.beginClose_fst id
  rw [h] at hfirst
  simp only [disconnect, hfirst, if_true]

/-- Any other connection is left alone. -/
theorem disconnect_of_not_isOpen {id : ConnId} (h : s.pool.isOpen id = false) :
    s.disconnect id = (false, s) := by
  have hfirst := s.pool.beginClose_fst id
  rw [h] at hfirst
  simp only [disconnect, hfirst, Bool.false_eq_true, if_false]

/-- To begin to close a connection leaves the table alone. -/
theorem table_disconnect (s : Server σ) (id : ConnId) :
    (s.disconnect id).2.roster.table = s.roster.table := by
  cases hopen : s.pool.isOpen id with
  | false => rw [disconnect_of_not_isOpen hopen]
  | true =>
    rw [disconnect_of_isOpen hopen]
    exact (steady_call (s.setPool (s.pool.beginClose id).2) (.closing id)).table

/-- A live connection begins to close, unless it has begun before. -/
theorem changes_disconnect {id : ConnId} (hlive : s.roster.table.get? id ≠ none) :
    Changes s (s.disconnect id).2 := by
  cases hopen : s.pool.isOpen id with
  | false => rw [disconnect_of_not_isOpen hopen]
  | true =>
    rw [disconnect_of_isOpen hopen]
    exact (Change.close id hlive hopen).call.tail (.relink id Link.signal)

/-- A live connection is looked for, and begins to close. -/
theorem changes_disconnectLive (s : Server σ) (id : ConnId) : Changes s (s.disconnectLive id) := by
  unfold disconnectLive
  split
  · next hfound =>
    apply changes_disconnect
    intro hnone
    simp only [Roster.get?, hnone] at hfound
    exact nomatch hfound
  · exact .refl

/-- Live connections begin to close, and are counted. -/
theorem changes_disconnectEach (ids : List ConnId)
    (hlive : ∀ id ∈ ids, s.roster.table.get? id ≠ none) : Changes s (s.disconnectEach ids).2 := by
  induction ids generalizing s with
  | nil => exact .refl
  | cons id ids ih =>
    have hhead := changes_disconnect (hlive id List.mem_cons_self)
    have htail : Changes (s.disconnect id).2 ((s.disconnect id).2.disconnectEach ids).2 := by
      apply ih
      intro id' hmem
      rw [table_disconnect]
      exact hlive id' (List.mem_cons_of_mem id hmem)
    exact hhead.trans htail

/-- Silent connections begin to close. -/
theorem changes_evictEach (ids : List ConnId)
    (hlive : ∀ id ∈ ids, s.roster.table.get? id ≠ none) : Changes s (s.evictEach ids) := by
  induction ids generalizing s with
  | nil => exact .refl
  | cons id ids ih =>
    have hhead := changes_disconnect (hlive id List.mem_cons_self)
    have hrest {next : Server σ} (hnext : next.roster.table = s.roster.table) :
        Changes next (next.evictEach ids) := by
      apply ih
      intro id' hmem
      rw [hnext]
      exact hlive id' (List.mem_cons_of_mem id hmem)
    have htable := table_disconnect s id
    simp only [evictEach]
    -- It is said of a connection only if it was not marked before.
    cases (s.disconnect id).1 with
    | false => exact hhead.trans (hrest htable)
    | true =>
      have hsay := steady_sayEvicted (s.disconnect id).2 id
      exact (hhead.tail (.steady hsay)).trans (hrest (hsay.table.trans htable))

/-- What a server is told about a connection is taken in by some changes. -/
theorem changes_handle (hkeyed : s.roster.table.Keyed) (event : Event) :
    Changes s (s.handle event) := by
  -- Who is found is in the table, and is the connection of the number.
  have hfound {id : ConnId} {ref : Ref} {c : Connection} (hget : s.roster.get? id = some (ref, c)) :
      s.roster.table.get? id ≠ none ∧ s.pool.get? id = some c := by
    obtain ⟨ref', href, hpool⟩ := Option.bind_eq_some_iff.mp hget
    obtain ⟨c', hc, heq⟩ := Option.bind_eq_some_iff.mp hpool
    obtain ⟨rfl, rfl⟩ := Prod.mk.inj (Option.some.inj heq)
    rw [hkeyed.named href] at hc
    exact ⟨fun hnone => (nomatch hnone.symm.trans href), hc⟩
  cases event with
  | read id data =>
    simp only [handle]
    split
    · exact .refl
    · next ref c hget =>
      split
      · exact .refl
      · next hclosing =>
        obtain ⟨hlive, hc⟩ := hfound hget
        refine (Change.receive id data hlive ?_).call
        rw [Pool.isOpen, hc, Option.any_some, Bool.not_eq_true']
        exact Bool.eq_false_iff.mpr hclosing
  | ended id failure =>
    exact (steady_sayEnded s id failure).changes.trans (changes_disconnectLive _ id)
  | closed id =>
    simp only [handle]
    split
    · exact .refl
    · next found hget =>
      obtain ⟨hlive, -⟩ := hfound hget
      -- The connection could as well leave the table before the callback runs.
      have hremove := (steady_call s (.closed id)).remove id
      exact .tail (.single (.release id hlive)) (.steady (hremove.trans (steady_say _ _ _)))

/-- Silent connections are in the table. -/
theorem mem_refs_of_mem_silent {s : Server σ} {id : ConnId} (h : id ∈ s.silent) :
    id ∈ s.roster.table.refs := by
  rw [silent] at h
  split at h
  · exact absurd h List.not_mem_nil
  · exact (List.takeWhile_sublist _).subset h

/-- An operation that takes no time and brings no new connection is made of changes. -/
theorem changes_operate (hkeyed : s.roster.table.Keyed) (operation : Operation)
    (haccept : operation.isAccept = false) (hpass : ∀ d, operation ≠ .pass d) :
    Changes s (s.operate operation) := by
  have hlive (id : ConnId) (hmem : id ∈ s.roster.table.refs) : s.roster.table.get? id ≠ none := by
    rw [hkeyed.refs_eq] at hmem
    exact hkeyed.mem_ids.mp hmem
  cases operation with
  | accept => exact nomatch haccept
  | acceptFailed cause =>
    exact .trans (steady_say s _ _).changes (Change.refuse cause).call
  | handle event => exact changes_handle hkeyed event
  | close id => exact changes_disconnectLive s id
  | disconnectAll => exact changes_disconnectEach _ hlive
  | iterate visit =>
    cases visit with
    | none => exact .refl
    | some visit => exact (s.steady_visitEach visit _).changes
  | heartbeat =>
    refine .trans (Change.beat (s := s)).call (changes_evictEach _ ?_)
    -- Who is silent stands in the table, which has not changed since.
    have htable := (steady_call s.beat (.heartbeat s.heartbeats s.roster.table.ids)).table
    intro id hmem
    rw [htable]
    apply hlive
    have hrefs := mem_refs_of_mem_silent hmem
    rwa [htable] at hrefs
  | act reaction => exact (s.steady_perform reaction).changes
  | relink id link => exact .single (.relink id fun _ => link)
  | pass d => exact absurd rfl (hpass d)

/-- An operation brings a new connection, lets time pass, or is made of changes. -/
theorem operate_cases (hkeyed : s.roster.table.Keyed) (operation : Operation) :
    (∃ peer, operation = .accept peer) ∨ (∃ d, operation = .pass d) ∨
      operation.isAccept = false ∧ Changes s (s.operate operation) := by
  cases haccept : operation.isAccept with
  | true => exact .inl (Operation.isAccept_iff.mp haccept)
  | false =>
    by_cases hpass : ∃ d, operation = .pass d
    · exact .inr (.inl hpass)
    · exact .inr (.inr ⟨rfl, changes_operate hkeyed operation haccept fun d h => hpass ⟨d, h⟩⟩)

end Server

end NetSession
