import NetSession.Proofs.Stream.Turns
import Mathlib.Logic.Relation

/-!
# What becomes of bytes

An `Account` is all that counts of one byte stream: the queue of payloads, the task with its
socket, the reports of the task that wait in the mailbox of the owner, what was accepted to be sent,
and what was handed on to the owner. The task takes its steps (`Tasked`), and everybody else does
what `Traffic` lists. All of these keep the account `Balanced`: what was accepted is what was
written, the rest of the payload at hand, and what waits in the queue; what was read is what was
handed on, what was lost, and what waits in the mailbox. While the stream is open nothing is lost.
-/

namespace NetSession.Stream

/-- The bytes that a report hands on. -/
def Report.data? : Report → Option Bytes
  | .read data => some data
  | .ended _ | .closed => none

/-- The bytes that wait in a mailbox. -/
def waitingBytes (mail : List Report) : Bytes := (mail.filterMap Report.data?).flatten

/-- Whether a move is a write that fails. -/
def Move.isFailure : Move → Bool
  | .fail _ => true
  | .go | .read _ | .write _ => false

/-- A write that fails does so for a cause. -/
theorem Move.exists_cause {move : Move} (h : move.isFailure = true) :
    ∃ cause, move = .fail cause := by
  cases move with
  | fail cause => exact ⟨cause, rfl⟩
  | go | read | write => exact nomatch h

/-- What counts of one byte stream. -/
structure Account where
  /-- What is shared with the task. -/
  link : Option Link
  /-- The task with its socket. -/
  stream : Option Stream
  /-- The reports of the task that wait to be taken in. -/
  mail : List Report
  /-- Whether the owner takes reports. -/
  heard : Bool
  /-- Whether what is read is handed on. -/
  isOpen : Bool
  /-- Whether the task is yet to be started. -/
  due : Bool
  /-- The payloads that were accepted to be sent. -/
  accepted : List Bytes
  /-- The bytes that were handed on. -/
  received : Bytes

namespace Account

/-- What the owner of a stream and others can do. -/
inductive Traffic (a : Account) : Account → Prop where
  /-- The stream comes into being. -/
  | enter (link_eq : a.link = none) :
      Traffic a { a with link := some {}, isOpen := true, due := true }
  /-- Its task is started. -/
  | spawn (due_eq : a.due = true) : Traffic a { a with stream := some {}, due := false }
  /-- A payload is accepted. -/
  | send {link link' : Link} {data : Bytes} (link_eq : a.link = some link)
      (push : link.push? data = some link') :
      Traffic a { a with link := some link', accepted := a.accepted ++ [data] }
  /-- The task is told to stop. -/
  | signal {link : Link} (link_eq : a.link = some link) :
      Traffic a { a with link := some link.signal }
  /-- Something happens at the socket. -/
  | socket {s s' : Stream} (stream_eq : a.stream = some s) (phase : s'.phase = s.phase)
      (taken : s'.taken = s.taken) (written : s'.written = s.written) (shut : s'.shut = s.shut) :
      Traffic a { a with stream := some s' }
  /-- Bytes are handed on. -/
  | deliver {data : Bytes} {rest : List Report} (mail_eq : a.mail = .read data :: rest)
      (heard_eq : a.heard = true) (open_eq : a.isOpen = true) :
      Traffic a { a with mail := rest, received := a.received ++ data }
  /-- A report is taken in at which no bytes are handed on. -/
  | pass {report : Report} {rest : List Report} (mail_eq : a.mail = report :: rest)
      (passed : report.data? = none ∨ a.isOpen = false) : Traffic a { a with mail := rest }
  /-- From now on nothing that is read is handed on. -/
  | close : Traffic a { a with isOpen := false }
  /-- The owner gives up its mailbox. -/
  | stop : Traffic a { a with mail := [], heard := false }

/-- The task takes a step. -/
def Tasked (move : Move) (a a' : Account) : Prop :=
  ∃ s link outcome, a.stream = some s ∧ a.link = some link ∧
    s.step link a.heard move = some outcome ∧
    a' = { a with
      stream := some outcome.1
      link := some outcome.2.1
      mail := a.mail ++ outcome.2.2.toList }

/-- What happens to an account at a step at which the task makes a move, or others do something. -/
inductive Passes (move : Option Move) (a a' : Account) : Prop where
  /-- The task takes a step. -/
  | task {taken : Move} (move_eq : move = some taken) (tasked : Tasked taken a a')
  /-- Others do something, maybe several things one after the other. -/
  | others (traffic : Relation.ReflTransGen Traffic a a')

/-- All of some payloads is written but for the rest of the last one. -/
inductive Cut : List Bytes → Bytes → Bytes → Prop where
  /-- All is written. -/
  | whole (payloads : List Bytes) : Cut payloads payloads.flatten []
  /-- Part of the last one is written. -/
  | within (payloads : List Bytes) (part rest : Bytes) :
      Cut (payloads ++ [part ++ rest]) (payloads.flatten ++ part) rest

/-- What is left of the payload at hand, which is nothing unless it is being written, or its write
has failed. -/
inductive Left (failed : Prop) (phase : Phase) : Bytes → Prop where
  /-- It is being written. -/
  | writing {rest : Bytes} (phase_eq : phase = .writing rest) : Left failed phase rest
  /-- There is none. -/
  | none (phase_ne : ∀ rest, phase ≠ .writing rest) : Left failed phase []
  /-- Its write has failed. -/
  | failed {rest : Bytes} (did : failed) (phase_eq : phase.isPumping = false) :
      Left failed phase rest

/-- The payloads that wait to be written, unless nobody will write them. -/
def queue (a : Account) : Option (List Bytes) := a.link.bind (·.queue)

/-- What was accepted is what was written, what is left of the payload at hand, and what waits. In
the end the task gives up its queue. -/
def Writes (failed : Prop) (a : Account) (s : Stream) : Prop :=
  ∃ begun waiting rest, a.accepted = begun ++ waiting ∧ Cut begun s.written rest ∧
    Left failed s.phase rest ∧ (s.phase ≠ .ended → a.queue = some waiting)

/-- What was read is what was handed on, what was lost, and what waits. -/
structure Reads (a : Account) (s : Stream) : Prop where
  /-- While the stream is open nothing is lost. -/
  total : ∃ lost, s.taken = a.received ++ lost ++ waitingBytes a.mail ∧
    (a.heard = true → a.isOpen = true → lost = [])
  /-- No bytes come after a report of the end. -/
  ordered : a.mail.Pairwise fun report report' => report.data? = none → report'.data? = none
  /-- Who has reported the end has left its loop. -/
  done : ∀ report ∈ a.mail, report.data? = none → s.phase.isPumping = false
  /-- Nothing waits for an owner that is gone. -/
  unheard : a.heard = false → a.mail = []

/-- An account is balanced, where a write may have failed. -/
structure Balanced (failed : Prop) (a : Account) : Prop where
  /-- Before the stream comes into being there is nothing. -/
  blank : a.link = none → a.stream = none ∧ a.accepted = []
  /-- Before the task is started, all that was accepted waits. -/
  fresh : a.stream = none → a.received = [] ∧ a.mail = [] ∧
    ∀ link, a.link = some link → link.queue = some a.accepted
  /-- The task is yet to be started from when the stream comes into being until it is. -/
  due : a.due = true ↔ a.stream = none ∧ a.link ≠ none
  /-- Nothing that was accepted is written out of order. -/
  writes : ∀ s, a.stream = some s → a.Writes failed s
  /-- Nothing that was read is handed on out of order. -/
  reads : ∀ s, a.stream = some s → a.Reads s
  /-- The socket is closed once the task has left its loop. -/
  shut : ∀ s, a.stream = some s → s.shut = true → s.phase.isPumping = false

variable {a a' : Account} {s : Stream} {failed : Prop}

/-- What has come to the head of a mailbox is taken out of it, if it hands on no bytes. -/
theorem traffic_pass {report : Option Report} {rest : List Report}
    (hmail : a.mail = report.toList ++ rest)
    (hpassed : ∀ r ∈ report, r.data? = none ∨ a.isOpen = false) :
    Relation.ReflTransGen Traffic a { a with mail := rest } := by
  cases report with
  | none =>
    have hsame : { a with mail := rest } = a := by
      rw [← List.nil_append rest, ← Option.toList_none, ← hmail]
    rw [hsame]
  | some report => exact .single (.pass hmail (hpassed report rfl))

/-! ## Writes -/

/-- If nothing is left, all is written. -/
theorem Cut.eq_flatten {payloads : List Bytes} {written : Bytes} (h : Cut payloads written []) :
    written = payloads.flatten := by
  cases h with
  | whole => rfl
  | within payloads part => rw [List.append_nil, List.flatten_concat]

/-- The next payload is begun. -/
theorem Cut.begin {payloads : List Bytes} {written : Bytes} (h : Cut payloads written [])
    (data : Bytes) : Cut (payloads ++ [data]) written data := by
  rw [h.eq_flatten]
  simpa using Cut.within payloads [] data

/-- Some of what is left is written. -/
theorem Cut.write {payloads : List Bytes} {written rest : Bytes} (h : Cut payloads written rest)
    (count : Nat) : Cut payloads (written ++ rest.take count) (rest.drop count) := by
  cases h with
  | whole =>
    rw [List.take_nil, List.drop_nil, List.append_nil]
    exact .whole payloads
  | within payloads part =>
    have hsplit := Cut.within payloads (part ++ rest.take count) (rest.drop count)
    rwa [List.append_assoc, List.take_append_drop, ← List.append_assoc] at hsplit

/-- In its loop, a task that writes no payload has nothing left. -/
theorem Left.eq_nil {phase : Phase} {rest : Bytes} (h : Left failed phase rest)
    (hphase : ∀ rest, phase ≠ .writing rest) (hpumping : phase.isPumping = true) : rest = [] := by
  cases h with
  | writing heq => exact absurd heq (hphase _)
  | none => rfl
  | failed _ hdone => exact nomatch hdone.symm.trans hpumping

/-- A task that writes a payload has its rest left. -/
theorem Left.eq_of_writing {phase : Phase} {rest rest' : Bytes} (h : Left failed phase rest)
    (hphase : phase = .writing rest') : rest = rest' := by
  cases h with
  | writing heq => exact Phase.writing.inj (heq.symm.trans hphase)
  | none hne => exact absurd hphase (hne _)
  | failed _ hdone =>
    rw [hphase] at hdone
    exact nomatch hdone

/-- A task that has left its loop has left what it had left. -/
theorem Left.leave {phase phase' : Phase} {rest : Bytes} (h : Left failed phase rest)
    (hphase : ∀ rest, phase ≠ .writing rest) (hdone : phase'.isPumping = false) :
    Left failed phase' rest := by
  cases h with
  | writing heq => exact absurd heq (hphase _)
  | none =>
    refine .none fun rest heq => ?_
    rw [heq] at hdone
    exact nomatch hdone
  | failed did => exact .failed did hdone

/-- What is left may be left as well if more writes may have failed. -/
theorem Left.mono {phase : Phase} {rest : Bytes} (h : Left failed phase rest) {failed' : Prop}
    (hfailed : failed → failed') : Left failed' phase rest := by
  cases h with
  | writing heq => exact .writing heq
  | none hne => exact .none hne
  | failed did hdone => exact .failed (hfailed did) hdone

/-- What is in order is so as well if more writes may have failed. -/
theorem Writes.mono (h : a.Writes failed s) {failed' : Prop} (hfailed : failed → failed') :
    a.Writes failed' s := by
  obtain ⟨begun, waiting, rest, hsplit, hcut, hleft, hqueue⟩ := h
  exact ⟨begun, waiting, rest, hsplit, hcut, hleft.mono hfailed, hqueue⟩

/-- A payload is accepted at the end of the queue. -/
theorem Writes.send (h : a.Writes failed s) {link link' : Link} {data : Bytes}
    (hlink : a.link = some link) (hpush : link.push? data = some link') :
    Writes failed { a with link := some link', accepted := a.accepted ++ [data] } s := by
  obtain ⟨begun, waiting, rest, haccepted, hcut, hleft, hqueue⟩ := h
  obtain ⟨queue, hwaits, rfl⟩ := Option.map_eq_some_iff.mp hpush
  have hold : a.queue = some queue := by
    rw [Account.queue, hlink]
    exact hwaits
  refine ⟨begun, waiting ++ [data], rest, ?_, hcut, hleft, fun hgoes => ?_⟩
  · rw [haccepted, List.append_assoc]
  · obtain rfl := Option.some.inj (hold.symm.trans (hqueue hgoes))
    rfl

/-- A change of the task that leaves the queue as it is. -/
theorem Writes.of_queue_eq (h : a.Writes failed s) {failed' : Prop} {a' : Account} {s' : Stream}
    (haccepted : a'.accepted = a.accepted) (hwritten : s'.written = s.written)
    (hleft : ∀ rest, Left failed s.phase rest → Left failed' s'.phase rest)
    (hqueue : s'.phase ≠ .ended → s.phase ≠ .ended ∧ a'.queue = a.queue) :
    a'.Writes failed' s' := by
  obtain ⟨begun, waiting, rest, hsplit, hcut, hrest, hwaits⟩ := h
  exact ⟨begun, waiting, rest, haccepted.trans hsplit, hwritten ▸ hcut, hleft rest hrest,
    fun hgoes => (hqueue hgoes).2.trans (hwaits (hqueue hgoes).1)⟩

/-- The task takes the payload that has waited longest. -/
theorem Writes.pop (h : a.Writes failed s) {link link' : Link} {data : Bytes} {a' : Account}
    (hphase : s.phase = .looking .queue) (hlink : a.link = some link)
    (hpop : link.pop? = some (data, link')) (haccepted : a'.accepted = a.accepted)
    (hlink' : a'.link = some link') : a'.Writes failed { s with phase := .writing data } := by
  obtain ⟨begun, waiting, rest, hsplit, hcut, hrest, hwaits⟩ := h
  -- Nothing is left of the payload before.
  obtain rfl := hrest.eq_nil (by simp [hphase]) (by simp [hphase, Phase.isPumping])
  rw [Link.pop?.eq_def] at hpop
  split at hpop
  · next first queue hqueue =>
    obtain ⟨rfl, rfl⟩ := Prod.mk.inj (Option.some.inj hpop)
    have hold : a.queue = some (first :: queue) := by
      rw [Account.queue, hlink]
      exact hqueue
    obtain rfl := Option.some.inj (hold.symm.trans (hwaits (hphase ▸ nofun)))
    refine ⟨begun ++ [first], queue, first, ?_, hcut.begin first, .writing rfl, fun _ => ?_⟩
    · rw [haccepted, hsplit, List.append_assoc]
      rfl
    · rw [Account.queue, hlink']
      rfl
  · exact nomatch hpop

/-- Some of the payload at hand is written. -/
theorem Writes.write (h : a.Writes failed s) {rest : Bytes} {count : Nat} {a' : Account}
    (hphase : s.phase = .writing rest) (haccepted : a'.accepted = a.accepted)
    (hlink : a'.link = a.link) :
    a'.Writes failed
      { s with phase := .writing (rest.drop count), written := s.written ++ rest.take count } := by
  obtain ⟨begun, waiting, rest', hsplit, hcut, hrest, hwaits⟩ := h
  obtain rfl := hrest.eq_of_writing hphase
  refine ⟨begun, waiting, _, haccepted.trans hsplit, hcut.write count, .writing rfl, fun _ => ?_⟩
  rw [Account.queue, hlink]
  exact hwaits (hphase ▸ nofun)

/-- A task that is at the end leaves its loop. -/
theorem reportEnd_isPumping (s : Stream) (link : Link) (heard : Bool) (failure : Option String) :
    (s.reportEnd link heard failure).1.phase.isPumping = false ∧
      (s.reportEnd link heard failure).1.written = s.written ∧
      (s.reportEnd link heard failure).1.taken = s.taken ∧
      (s.reportEnd link heard failure).2.1 = link := by
  unfold reportEnd
  split <;> exact ⟨rfl, rfl, rfl, rfl⟩

/-- No step of the task writes anything out of order. -/
theorem Writes.step (h : a.Writes failed s) {link : Link} {heard : Bool} {move : Move}
    {outcome : Outcome} (hlink : a.link = some link) (htakes : s.Takes link heard move outcome)
    {a' : Account} (haccepted : a'.accepted = a.accepted) (hlink' : a'.link = some outcome.2.1) :
    a'.Writes (failed ∨ move.isFailure = true) outcome.1 := by
  -- Most steps leave the queue alone, or give it up in the end, and write nothing.
  have hstay {s' : Stream} (hwritten : s'.written = s.written)
      (hqueue : s'.phase ≠ .ended → outcome.2.1.queue = link.queue)
      (hleft : ∀ rest, Left failed s.phase rest →
        Left (failed ∨ move.isFailure = true) s'.phase rest) :
      a'.Writes (failed ∨ move.isFailure = true) s' := by
    refine h.of_queue_eq haccepted hwritten hleft fun hgoes => ⟨htakes.phase_ne_ended, ?_⟩
    rw [Account.queue, Account.queue, hlink', hlink]
    exact hqueue hgoes
  -- In its loop, a task that writes no payload looks for another thing to do.
  have hloop {phase phase' : Phase} (hphase : s.phase = phase)
      (hne : ∀ rest, phase ≠ .writing rest) (hgoes : phase.isPumping = true)
      (hne' : ∀ rest, phase' ≠ .writing rest) (rest : Bytes) (hrest : Left failed s.phase rest) :
      Left (failed ∨ move.isFailure = true) phase' rest := by
    obtain rfl := hrest.eq_nil (hphase ▸ hne) (hphase ▸ hgoes)
    exact .none hne'
  -- Else it goes on its way out.
  have hleave {phase phase' : Phase} (hphase : s.phase = phase)
      (hne : ∀ rest, phase ≠ .writing rest) (hdone : phase'.isPumping = false) (rest : Bytes)
      (hrest : Left failed s.phase rest) : Left (failed ∨ move.isFailure = true) phase' rest :=
    (hrest.leave (hphase ▸ hne) hdone).mono .inl
  cases htakes with
  | obey hphase =>
    refine hstay rfl (fun _ => rfl) ?_
    rcases hphase with hphase | hphase <;> exact hleave hphase (by simp) rfl
  | look hphase | skip hphase | rest hphase | read hphase =>
    exact hstay rfl (fun _ => rfl) (hloop hphase (by simp) rfl (by simp))
  | pop hphase hpop => exact (h.pop hphase hlink hpop haccepted hlink').mono .inl
  | finish hphase =>
    obtain ⟨hdone, hwritten, -, hsame⟩ := reportEnd_isPumping s link heard _
    exact hstay hwritten (fun _ => congrArg _ hsame) (hleave hphase (by simp) hdone)
  | wrote hphase =>
    refine hstay rfl (fun _ => rfl) fun rest hrest => ?_
    obtain rfl := hrest.eq_of_writing hphase
    exact .none (by simp)
  | abandon hphase | shut hphase | report hphase | drop hphase =>
    exact hstay rfl (fun _ => rfl) (hleave hphase (by simp) rfl)
  | leave hphase => exact hstay rfl (fun hgoes => absurd rfl hgoes) (hleave hphase (by simp) rfl)
  | write hphase => exact (h.write hphase haccepted (hlink'.trans hlink.symm)).mono .inl
  | fail hphase =>
    -- What is left of the payload is left for ever.
    obtain ⟨hdone, hwritten, -, hsame⟩ := reportEnd_isPumping s link heard _
    exact hstay hwritten (fun _ => congrArg _ hsame) fun _ _ => .failed (.inr rfl) hdone

/-! ## Reads -/

/-- The bytes that wait once a report has come. -/
theorem waitingBytes_append (mail mail' : List Report) :
    waitingBytes (mail ++ mail') = waitingBytes mail ++ waitingBytes mail' := by
  rw [waitingBytes, List.filterMap_append, List.flatten_append]
  rfl

/-- No bytes wait where nothing that was read does. -/
theorem waitingBytes_eq_nil {mail : List Report} (h : ∀ report ∈ mail, report.data? = none) :
    waitingBytes mail = [] := by
  rw [waitingBytes, List.filterMap_eq_nil_iff.mpr h]
  rfl

/-- In its loop, a task has reported nothing but what it has read. -/
theorem Reads.data_ne_none (h : a.Reads s) (hpumping : s.phase.isPumping = true) :
    ∀ report ∈ a.mail, report.data? ≠ none :=
  fun report hmem hnone => nomatch (h.done report hmem hnone).symm.trans hpumping

/-- A step at which nothing is read, and what comes into the mailbox is no bytes. -/
theorem Reads.report (h : a.Reads s) {a' : Account} {s' : Stream} {report : Option Report}
    (htaken : s'.taken = s.taken) (hphase : s.phase.isPumping = false → s'.phase.isPumping = false)
    (hreceived : a'.received = a.received) (hmail : a'.mail = a.mail ++ report.toList)
    (hheard : a'.heard = a.heard) (hopen : a'.isOpen = true → a.isOpen = true)
    (hreport : ∀ r ∈ report, a.heard = true ∧ r.data? = none ∧ s'.phase.isPumping = false) :
    a'.Reads s' := by
  have hnone : ∀ r ∈ report.toList, r.data? = none := fun r hmem =>
    (hreport r (Option.mem_toList.mp hmem)).2.1
  obtain ⟨lost, htotal, hlost⟩ := h.total
  constructor
  · refine ⟨lost, ?_, fun hhears hopen' => hlost (hheard.symm.trans hhears) (hopen hopen')⟩
    rw [htaken, htotal, hreceived, hmail, waitingBytes_append, waitingBytes_eq_nil hnone,
      List.append_nil]
  · rw [hmail, List.pairwise_append]
    refine ⟨h.ordered, ?_, fun _ _ r hmem _ => hnone r hmem⟩
    cases report with
    | none => exact .nil
    | some r => exact List.pairwise_singleton _ _
  · intro r hmem hdata
    rw [hmail] at hmem
    rcases List.mem_append.mp hmem with hold | hnew
    · exact hphase (h.done r hold hdata)
    · exact (hreport r (Option.mem_toList.mp hnew)).2.2
  · intro hunheard
    rw [hheard] at hunheard
    rw [hmail, h.unheard hunheard]
    cases report with
    | none => rfl
    | some r => exact nomatch (hreport r rfl).1.symm.trans hunheard

/-- A step at which nothing is read, reported or taken in. The stream may close at it. -/
theorem Reads.still (h : a.Reads s) {a' : Account} {s' : Stream} (htaken : s'.taken = s.taken)
    (hphase : s'.phase = s.phase) (hreceived : a'.received = a.received) (hmail : a'.mail = a.mail)
    (hheard : a'.heard = a.heard) (hopen : a'.isOpen = true → a.isOpen = true) : a'.Reads s' := by
  have hnone : (none : Option Report).toList = [] := rfl
  have hkept : a'.mail = a.mail ++ (none : Option Report).toList := by
    rw [hmail, hnone, List.append_nil]
  exact h.report htaken (fun hdone => hphase ▸ hdone) hreceived hkept hheard hopen nofun

/-- What is reported of an end is heard, and is no bytes. -/
theorem reportEnd_report {heard : Bool} {failure : Option String} {link : Link} {report : Report}
    (h : report ∈ (s.reportEnd link heard failure).2.2) :
    heard = true ∧ report.data? = none := by
  unfold reportEnd at h
  split at h
  · next hheard =>
    obtain rfl := Option.some.inj h
    exact ⟨hheard, rfl⟩
  · exact nomatch h

/-- Bytes are read, and reported. -/
theorem Reads.read (h : a.Reads s) (hpumping : s.phase.isPumping = true) {a' : Account}
    {s' : Stream} {data : Bytes} (htaken : s'.taken = s.taken ++ data)
    (hreceived : a'.received = a.received) (hmail : a'.mail = a.mail ++ [.read data])
    (hheard : a.heard = true) (hheard' : a'.heard = a.heard) (hopen : a'.isOpen = a.isOpen) :
    a'.Reads s' := by
  have hall : ∀ report ∈ a'.mail, report.data? ≠ none := by
    intro report hmem
    rw [hmail] at hmem
    rcases List.mem_append.mp hmem with hold | hnew
    · exact h.data_ne_none hpumping report hold
    · rw [List.mem_singleton.mp hnew]
      exact nofun
  obtain ⟨lost, htotal, hlost⟩ := h.total
  constructor
  · refine ⟨lost, ?_, by rwa [hheard', hopen]⟩
    have hdata : waitingBytes [.read data] = data := List.append_nil data
    rw [htaken, htotal, hreceived, hmail, waitingBytes_append, hdata, ← List.append_assoc]
  · exact List.pairwise_of_forall_mem_list fun report hmem _ _ hnone =>
      absurd hnone (hall report hmem)
  · exact fun report hmem hnone => absurd hnone (hall report hmem)
  · exact fun hunheard => nomatch hunheard.symm.trans (hheard'.trans hheard)

/-- Bytes are read that nobody hears of. -/
theorem Reads.drop (h : a.Reads s) {a' : Account} {s' : Stream} {data : Bytes}
    (htaken : s'.taken = s.taken ++ data) (hreceived : a'.received = a.received)
    (hmail : a'.mail = a.mail) (hunheard : a.heard = false) (hheard : a'.heard = a.heard) :
    a'.Reads s' := by
  have hnil : a'.mail = [] := hmail.trans (h.unheard hunheard)
  obtain ⟨lost, htotal, -⟩ := h.total
  rw [h.unheard hunheard] at htotal
  constructor
  · refine ⟨lost ++ data, ?_, fun hheard' => nomatch hheard'.symm.trans (hheard.trans hunheard)⟩
    have hnone : waitingBytes [] = [] := rfl
    rw [htaken, htotal, hreceived, hnil, hnone, List.append_nil, List.append_nil,
      List.append_assoc]
  · rw [hnil]
    exact .nil
  · rw [hnil]
    exact nofun
  · exact fun _ => hnil

/-- No step of the task reports anything out of order. -/
theorem Reads.step (h : a.Reads s) {link : Link} {move : Move} {outcome : Outcome}
    (htakes : s.Takes link a.heard move outcome) {a' : Account}
    (hreceived : a'.received = a.received) (hmail : a'.mail = a.mail ++ outcome.2.2.toList)
    (hheard : a'.heard = a.heard) (hopen : a'.isOpen = a.isOpen) : a'.Reads outcome.1 := by
  have hopen' : a'.isOpen = true → a.isOpen = true := hopen.symm.trans
  have hend {link : Link} {failure : Option String}
      (hmail : a'.mail = a.mail ++ (s.reportEnd link a.heard failure).2.2.toList) :
      a'.Reads (s.reportEnd link a.heard failure).1 := by
    obtain ⟨hdone, -, htaken, -⟩ := reportEnd_isPumping s link a.heard failure
    refine h.report htaken (fun _ => hdone) hreceived hmail hheard hopen' fun report hmem => ?_
    obtain ⟨hhears, hnone⟩ := reportEnd_report hmem
    exact ⟨hhears, hnone, hdone⟩
  cases htakes with
  | look hphase | pop hphase | skip hphase | rest hphase | wrote hphase | write hphase =>
    refine h.report rfl (fun hdone => ?_) hreceived hmail hheard hopen' nofun
    rw [hphase] at hdone
    exact nomatch hdone
  | obey | abandon | shut | leave =>
    exact h.report rfl (fun _ => rfl) hreceived hmail hheard hopen' nofun
  | finish | fail => exact hend hmail
  | report =>
    refine h.report rfl (fun _ => rfl) hreceived hmail hheard hopen' fun report hmem => ?_
    cases hhears : a.heard with
    | false =>
      rw [hhears] at hmem
      exact nomatch hmem
    | true =>
      rw [hhears] at hmem
      obtain rfl := Option.some.inj hmem
      exact ⟨rfl, rfl, rfl⟩
  | read hphase hhears =>
    have hpumping : s.phase.isPumping = true := by rw [hphase]; rfl
    exact h.read hpumping rfl hreceived hmail hhears hheard hopen
  | drop hphase hunheard =>
    exact h.drop rfl hreceived (hmail.trans (List.append_nil _)) hunheard hheard

/-! ## The balance -/

/-- Where nothing has come into being, the account is balanced. -/
theorem balanced_of_blank (hlink : a.link = none) (hstream : a.stream = none) (hdue : a.due = false)
    (hmail : a.mail = []) (haccepted : a.accepted = []) (hreceived : a.received = []) :
    a.Balanced failed := by
  constructor
  · exact fun _ => ⟨hstream, haccepted⟩
  · exact fun _ => ⟨hreceived, hmail, fun link hsome => nomatch hlink.symm.trans hsome⟩
  · exact .intro (fun hwaits => nomatch hdue.symm.trans hwaits) fun hwaits =>
      absurd hlink hwaits.2
  · exact fun s hs => nomatch hstream.symm.trans hs
  · exact fun s hs => nomatch hstream.symm.trans hs
  · exact fun s hs => nomatch hstream.symm.trans hs

/-- A socket that a task has closed by a step is closed once the task has left its loop. -/
theorem Takes.shut {link : Link} {heard : Bool} {move : Move} {outcome : Outcome}
    (h : s.Takes link heard move outcome) (hshut : s.shut = true → s.phase.isPumping = false)
    (hshut' : outcome.1.shut = true) : outcome.1.phase.isPumping = false := by
  cases h with
  | obey | abandon | shut | report | leave | drop => rfl
  | finish | fail => exact (reportEnd_isPumping ..).1
  | look hphase | pop hphase | skip hphase | rest hphase | wrote hphase | read hphase
  | write hphase =>
    have hdone := hshut hshut'
    rw [hphase] at hdone
    exact nomatch hdone

/-- A step of the task keeps the balance. -/
theorem Balanced.tasked (h : a.Balanced failed) {move : Move} (htasked : Tasked move a a') :
    a'.Balanced (failed ∨ move.isFailure = true) := by
  obtain ⟨s, link, outcome, hs, hlink, hstep, rfl⟩ := htasked
  have htakes := takes_of_step hstep
  constructor
  · exact nofun
  · exact nofun
  · exact .intro (fun hdue => nomatch (h.due.mp hdue).1.symm.trans hs) fun hwaits =>
      nomatch hwaits.1
  · rintro s' ⟨⟩
    exact (h.writes s hs).step hlink htakes rfl rfl
  · rintro s' ⟨⟩
    exact (h.reads s hs).step htakes rfl rfl rfl rfl
  · rintro s' ⟨⟩
    exact Takes.shut htakes (h.shut s hs)

/-- When a task is started, nothing was read. -/
theorem reads_spawn (hreceived : a.received = []) (hmail : a.mail = []) : a.Reads {} := by
  have hnil : waitingBytes [] = [] := rfl
  constructor
  · exact ⟨[], by rw [hreceived, hmail, hnil]; rfl, fun _ _ => rfl⟩
  · rw [hmail]
    exact .nil
  · rw [hmail]
    exact nofun
  · exact fun _ => hmail

/-- The first report is taken out of the mailbox, and its bytes are handed on or lost. -/
theorem Reads.take (h : a.Reads s) {report : Report} {rest : List Report}
    (hmail : a.mail = report :: rest) {received : Bytes}
    (htaken : received = a.received ++ report.data?.getD [] ∧ a.heard = true ∧ a.isOpen = true ∨
      received = a.received ∧ (report.data? = none ∨ a.isOpen = false)) :
    Reads { a with mail := rest, received := received } s := by
  have hwaiting : waitingBytes (report :: rest) = report.data?.getD [] ++ waitingBytes rest := by
    cases hdata : report.data? <;> simp [waitingBytes, hdata]
  have hordered := h.ordered
  rw [hmail] at hordered
  obtain ⟨lost, htotal, hlost⟩ := h.total
  rw [hmail, hwaiting, ← List.append_assoc] at htotal
  constructor
  · rcases htaken with ⟨rfl, hheard, hopen⟩ | ⟨rfl, hpassed⟩
    · refine ⟨[], ?_, fun _ _ => rfl⟩
      rw [hlost hheard hopen, List.append_nil] at htotal
      rw [htotal, List.append_nil]
    · refine ⟨lost ++ report.data?.getD [], ?_, fun hheard hopen => ?_⟩
      · rw [htotal, List.append_assoc a.received]
      · -- What is passed over while the stream is open is no bytes.
        rcases hpassed with hnone | hclosed
        · rw [hlost hheard hopen, hnone]
          rfl
        · exact nomatch hclosed.symm.trans hopen
  · exact (List.pairwise_cons.mp hordered).2
  · exact fun r hmem => h.done r (hmail ▸ List.mem_cons_of_mem _ hmem)
  · exact fun hunheard => nomatch hmail.symm.trans (h.unheard hunheard)

/-- The owner gives up its mailbox, and what waits in it is lost. -/
theorem Reads.stop (h : a.Reads s) : Reads { a with mail := [], heard := false } s := by
  obtain ⟨lost, htotal, -⟩ := h.total
  have hnil : waitingBytes [] = [] := rfl
  refine ⟨⟨lost ++ waitingBytes a.mail, ?_, nofun⟩, .nil, nofun, fun _ => rfl⟩
  rw [htotal, hnil, List.append_nil, List.append_assoc]

/-- What is shared with the task may change, without the task being started. -/
theorem Balanced.due_of_link (h : a.Balanced failed) {link : Link} (hlink : a.link = some link)
    {link' : Link} : a.due = true ↔ a.stream = none ∧ some link' ≠ none := by
  rw [h.due, hlink]
  exact and_congr_right fun _ => ⟨fun _ => nofun, fun _ => nofun⟩

/-- When the stream comes into being, nothing was accepted. -/
theorem Balanced.enter (h : a.Balanced failed) (hlink : a.link = none) :
    Balanced failed { a with link := some {}, isOpen := true, due := true } := by
  obtain ⟨hstream, haccepted⟩ := h.blank hlink
  obtain ⟨hreceived, hmail, -⟩ := h.fresh hstream
  constructor
  · exact nofun
  · refine fun _ => ⟨hreceived, hmail, ?_⟩
    rintro link ⟨⟩
    exact congrArg some haccepted.symm
  · exact ⟨fun _ => ⟨hstream, nofun⟩, fun _ => rfl⟩
  · exact fun s hs => nomatch hstream.symm.trans hs
  · exact fun s hs => nomatch hstream.symm.trans hs
  · exact h.shut

/-- When the task is started, all that was accepted waits. -/
theorem Balanced.spawn (h : a.Balanced failed) (hdue : a.due = true) :
    Balanced failed { a with stream := some {}, due := false } := by
  obtain ⟨hstream, hlink⟩ := h.due.mp hdue
  obtain ⟨hreceived, hmail, hqueue⟩ := h.fresh hstream
  obtain ⟨link, hsome⟩ := Option.ne_none_iff_exists'.mp hlink
  constructor
  · exact fun hnone => absurd hnone hlink
  · exact nofun
  · exact .intro nofun fun hwaits => nomatch hwaits.1
  · rintro s ⟨⟩
    refine ⟨[], a.accepted, [], rfl, .whole [], .none nofun, fun _ => ?_⟩
    rw [Account.queue, hsome]
    exact hqueue link hsome
  · rintro s ⟨⟩
    exact reads_spawn hreceived hmail
  · rintro s ⟨⟩
    exact nofun

/-- What is accepted waits behind the rest. -/
theorem Balanced.send (h : a.Balanced failed) {link link' : Link} {data : Bytes}
    (hlink : a.link = some link) (hpush : link.push? data = some link') :
    Balanced failed { a with link := some link', accepted := a.accepted ++ [data] } := by
  constructor
  · exact nofun
  · intro hstream
    obtain ⟨hreceived, hmail, hqueue⟩ := h.fresh hstream
    refine ⟨hreceived, hmail, ?_⟩
    rintro _ ⟨⟩
    obtain ⟨queue, hwaits, rfl⟩ := Option.map_eq_some_iff.mp hpush
    rw [Option.some.inj (hwaits.symm.trans (hqueue link hlink))]
  · exact h.due_of_link hlink
  · exact fun s hs => (h.writes s hs).send hlink hpush
  · exact fun s hs => (h.reads s hs).still rfl rfl rfl rfl rfl id
  · exact h.shut

/-- Nothing that waits is touched when the task is told to stop. -/
theorem Balanced.signal (h : a.Balanced failed) {link : Link} (hlink : a.link = some link) :
    Balanced failed { a with link := some link.signal } := by
  constructor
  · exact nofun
  · intro hstream
    obtain ⟨hreceived, hmail, hqueue⟩ := h.fresh hstream
    refine ⟨hreceived, hmail, ?_⟩
    rintro _ ⟨⟩
    exact hqueue link hlink
  · exact h.due_of_link hlink
  · intro s hs
    refine (h.writes s hs).of_queue_eq rfl rfl (fun _ => id) fun hgoes => ⟨hgoes, ?_⟩
    rw [Account.queue, Account.queue, hlink]
    rfl
  · exact fun s hs => (h.reads s hs).still rfl rfl rfl rfl rfl id
  · exact h.shut

/-- What happens at the socket is not read yet. -/
theorem Balanced.socket (h : a.Balanced failed) {s' : Stream} (hs : a.stream = some s)
    (hphase : s'.phase = s.phase) (htaken : s'.taken = s.taken) (hwritten : s'.written = s.written)
    (hshut : s'.shut = s.shut) : Balanced failed { a with stream := some s' } := by
  have hlinked : a.link ≠ none := fun hnone => nomatch (h.blank hnone).1.symm.trans hs
  constructor
  · exact fun hnone => absurd hnone hlinked
  · exact nofun
  · exact .intro (fun hdue => nomatch (h.due.mp hdue).1.symm.trans hs) fun hwaits =>
      nomatch hwaits.1
  · rintro _ ⟨⟩
    exact (h.writes s hs).of_queue_eq rfl hwritten (fun _ hleft => hphase ▸ hleft)
      fun hgoes => ⟨hphase ▸ hgoes, rfl⟩
  · rintro _ ⟨⟩
    exact (h.reads s hs).still htaken hphase rfl rfl rfl id
  · rintro _ ⟨⟩
    rw [hshut, hphase]
    exact h.shut s hs

/-- What the owner takes in comes out of the mailbox. -/
theorem Balanced.take (h : a.Balanced failed) {report : Report} {rest : List Report}
    (hmail : a.mail = report :: rest) {received : Bytes}
    (htaken : received = a.received ++ report.data?.getD [] ∧ a.heard = true ∧ a.isOpen = true ∨
      received = a.received ∧ (report.data? = none ∨ a.isOpen = false)) :
    Balanced failed { a with mail := rest, received := received } := by
  refine ⟨h.blank, fun hstream => ?_, h.due, h.writes, fun s hs => ?_, h.shut⟩
  · exact nomatch hmail.symm.trans (h.fresh hstream).2.1
  · exact (h.reads s hs).take hmail htaken

/-- What the owner of a stream and others do keeps the balance. -/
theorem Balanced.traffic (h : a.Balanced failed) (htraffic : Traffic a a') :
    a'.Balanced failed := by
  cases htraffic with
  | enter hlink => exact h.enter hlink
  | spawn hdue => exact h.spawn hdue
  | send hlink hpush => exact h.send hlink hpush
  | signal hlink => exact h.signal hlink
  | socket hs hphase htaken hwritten hshut => exact h.socket hs hphase htaken hwritten hshut
  | deliver hmail hheard hopen => exact h.take hmail (.inl ⟨rfl, hheard, hopen⟩)
  | pass hmail hpassed => exact h.take hmail (.inr ⟨rfl, hpassed⟩)
  | close =>
    exact ⟨h.blank, h.fresh, h.due, h.writes,
      fun s hs => (h.reads s hs).still rfl rfl rfl rfl rfl nofun, h.shut⟩
  | stop =>
    refine ⟨h.blank, fun hstream => ?_, h.due, h.writes, fun s hs => (h.reads s hs).stop, h.shut⟩
    obtain ⟨hreceived, -, hqueue⟩ := h.fresh hstream
    exact ⟨hreceived, rfl, hqueue⟩

end Account

end NetSession.Stream
