import Mathlib.Data.List.Forall2
import NetSession.Proofs.Sender.Calls

/-!
# A sender hands over what it says

A run of a sender is made of calls and of what its transport does by itself meanwhile. Nobody else
sends through the transport. Each call leaves a `Reply`: what was asked, with which emitter, and
what the answer was. Every step hands over exactly the records whose length its replies give
(`Ready.act`), and so does every run (`Ready.run`). Meanwhile the emitter stays the same but for its
switch, which is where the last call put it that turned it (`Switched.run`). As long as the
transport is open, a call that sends answers with a number, which is zero exactly if the call was
silent (`hands_over`).
-/

namespace NetSession.LogSender

open Record

/-- A call that was made. -/
structure Reply where
  /-- The emitter at that time. -/
  emitter : Emitter
  /-- The call. -/
  call : Call
  /-- What it returned. -/
  answer : Answer

/-- Something that happens to a sender. -/
inductive Act where
  /-- It is called. -/
  | call (call : Call)
  /-- Its transport takes a step. -/
  | transport (move : Transport.Move)

/-- How many datagrams are written. -/
def Act.writes : Act → Nat
  | .call _ => 0
  | .transport move => move.writes

/-- How many datagrams are written in a run. -/
def writes : List Act → Nat
  | [] => 0
  | act :: rest => act.writes + writes rest

/-- Lets something happen, if it can: nobody but the sender sends through its transport. -/
def act (s : LogSender) : Act → Option (List Reply × LogSender)
  | .call call => some ([⟨s.emitter, call, (s.call call).1⟩], (s.call call).2)
  | .transport move =>
    if move.sends then none
    else (s.transport.step move).map fun transport => ([], { s with transport })

/-- A run: acts that can happen one after the other, with the replies to all calls, in order. -/
def run (s : LogSender) : List Act → Option (List Reply × LogSender)
  | [] => some ([], s)
  | act :: rest => do
    let (replies, s) ← s.act act
    let (more, s) ← s.run rest
    return (replies ++ more, s)

/-- What a step of the transport leaves: no reply, and another transport. -/
theorem exists_of_act_transport {s s' : LogSender} {move : Transport.Move} {replies : List Reply}
    (hact : s.act (.transport move) = some (replies, s')) :
    move.sends = false ∧ replies = [] ∧
      ∃ t, s.transport.step move = some t ∧ s' = { s with transport := t } := by
  unfold act at hact
  dsimp only at hact
  split_ifs at hact with hmove
  obtain ⟨t, hstep, ht⟩ := Option.map_eq_some_iff.mp hact
  obtain ⟨rfl, rfl⟩ := Prod.mk.inj ht
  exact ⟨Bool.eq_false_iff.mpr hmove, rfl, t, hstep, rfl⟩

/-- A run is its first act and the run from there. -/
theorem exists_of_run_cons {s s' : LogSender} {first : Act} {rest : List Act}
    {replies : List Reply} (hrun : s.run (first :: rest) = some (replies, s')) :
    ∃ answered more between, s.act first = some (answered, between) ∧
      between.run rest = some (more, s') ∧ replies = answered ++ more := by
  obtain ⟨⟨answered, between⟩, hact, hrest⟩ := Option.bind_eq_some_iff.mp hrun
  obtain ⟨⟨more, last⟩, hmore, heq⟩ := Option.bind_eq_some_iff.mp hrest
  obtain ⟨rfl, rfl⟩ := Prod.mk.inj (Option.some.inj heq)
  exact ⟨answered, more, between, hact, hmore, rfl⟩

namespace Reply

/-- Whether a call answered that it sent something. -/
def isSent (r : Reply) : Bool :=
  match r.answer with
  | .sent (.ok n) => 0 < n
  | _ => false

/-- A call that sends answered how many bytes it sent: none exactly if it was silent. -/
def IsTrue (r : Reply) : Prop :=
  r.call.sends = true →
    ∃ n, r.answer = .sent (.ok n) ∧ (n = 0 ↔ r.call.IsSilent r.emitter)

/-- A datagram is the one that a call answered it sent. -/
structure Carries (target : Endpoint) (r : Reply) (datagram : Datagram) : Prop where
  /-- It goes to the target. -/
  peer : datagram.peer = target
  /-- It holds the record of the call. -/
  record : r.call.record r.emitter = .ok datagram.data
  /-- It has as many bytes as the call said. -/
  answer : r.answer = .sent (.ok datagram.data.length)

/-- Whether sending is on after some calls: as the last of them has it that turned the switch, and
as before if none did. -/
def switch (on : Bool) (replies : List Reply) : Bool :=
  (replies.filterMap (·.call.enabled?)).getLast?.getD on

/-- Later calls go on where the earlier ones left the switch. -/
theorem switch_append (on : Bool) (replies more : List Reply) :
    switch on (replies ++ more) = switch (switch on replies) more := by
  unfold switch
  rw [List.filterMap_append, List.getLast?_append, Option.getD_or]

/-- One call with its datagram. -/
theorem Carries.singleton {target : Endpoint} {r : Reply} {datagram : Datagram}
    (h : r.Carries target datagram) (hne : datagram.data ≠ []) :
    List.Forall₂ (Carries target) ([r].filter isSent) [datagram] := by
  have hsent : r.isSent = true := by
    rw [isSent, h.answer]
    exact decide_eq_true (List.length_pos_iff.mpr hne)
  rw [List.filter_singleton, hsent]
  exact .cons h .nil

end Reply

/-- A sender that can write a record for every entry, with a transport that sends nothing of its own
accord and has written so many datagrams. -/
structure Ready (target : Endpoint) (written : Nat) (s : LogSender) : Prop where
  /-- Its target is fixed. -/
  target : s.target = target
  /-- The name of its emitter is short. -/
  name : (Utf8.ofString s.emitter.name).length ≤ Emitter.maxNameLength
  /-- Only the sender makes its transport send. -/
  passive : s.transport.Passive written

/-- On the way from one state of a sender to another, exactly the records were handed over that the
replies tell of. In the later one its transport has written so many datagrams. -/
structure Progress (target : Endpoint) (written : Nat) (s s' : LogSender)
    (replies : List Reply) : Prop where
  /-- The sender can go on. -/
  ready : s'.Ready target written
  /-- A transport that was closed is not opened again. -/
  running : s'.transport.running = true → s.transport.running = true
  /-- One datagram was handed over for each call that answered it sent something, in order. -/
  handed : ∃ more, s'.transport.handed = s.transport.handed ++ more ∧
    List.Forall₂ (Reply.Carries target) (replies.filter Reply.isSent) more
  /-- As long as the transport is open, the calls that send answer how many bytes they sent. -/
  answers : s'.transport.running = true → ∀ r ∈ replies, r.IsTrue

namespace Progress

variable {target : Endpoint} {written written' : Nat} {s s' s'' : LogSender}
  {replies more : List Reply}

theorem trans (h : Progress target written s s' replies)
    (h' : Progress target written' s' s'' more) :
    Progress target written' s s'' (replies ++ more) where
  ready := h'.ready
  running := h.running ∘ h'.running
  handed := by
    obtain ⟨l, hl, hcarried⟩ := h.handed
    obtain ⟨l', hl', hcarried'⟩ := h'.handed
    refine ⟨l ++ l', by rw [hl', hl, List.append_assoc], ?_⟩
    rw [List.filter_append]
    exact List.rel_append hcarried hcarried'
  answers hopen := by
    have hopen' := h'.running hopen
    exact List.forall_mem_append.mpr ⟨h.answers hopen', h'.answers hopen⟩

/-- If nothing was handed over, nothing may be said to be sent. -/
theorem of_handed_eq (hready : s'.Ready target written)
    (hrunning : s'.transport.running = true → s.transport.running = true)
    (hhanded : s'.transport.handed = s.transport.handed)
    (hsent : ∀ r ∈ replies, r.isSent = false)
    (hanswers : s'.transport.running = true → ∀ r ∈ replies, r.IsTrue) :
    Progress target written s s' replies where
  ready := hready
  running := hrunning
  handed := by
    refine ⟨[], by rw [hhanded, List.append_nil], ?_⟩
    rw [List.filter_eq_nil_iff.mpr (by simpa using hsent)]
    exact .nil
  answers := hanswers

end Progress

namespace Ready

variable {target : Endpoint} {written : Nat} {s s' : LogSender}

section

variable {call : Call} {record : Bytes} (h : s.Ready target written) (hne : record ≠ [])

include h

/-- A silent call may answer that it sent nothing. -/
theorem silent (hsilent : call.IsSilent s.emitter) :
    Progress target written s s [⟨s.emitter, call, .sent (.ok 0)⟩] := by
  refine .of_handed_eq h id rfl (by simp [Reply.isSent]) fun _ => ?_
  rw [List.forall_mem_singleton]
  exact fun _ => ⟨0, rfl, iff_of_true rfl hsilent⟩

include hne

/-- A transport that runs takes a record. -/
theorem sendWritten_running (hrunning : s.transport.running = true)
    (hrecord : call.record s.emitter = .ok record) (hloud : ¬ call.IsSilent s.emitter) :
    Progress target written s (s.sendWritten record).2
      [⟨s.emitter, call, .sent (s.sendWritten record).1⟩] := by
  obtain ⟨notice, heq⟩ := sendWritten_of_running hne hrunning
  obtain ⟨hpassive, hhanded⟩ := h.passive.send ⟨s.target, record⟩
  have hnoted := hpassive.note (show (Datagram.Happening.said notice).taken? = none from rfl)
  have hcarries : Reply.Carries target ⟨s.emitter, call, .sent (.ok record.length)⟩
      ⟨s.target, record⟩ := ⟨h.target, hrecord, rfl⟩
  have hlength : record.length ≠ 0 := by simpa using hne
  rw [hrunning] at hhanded
  rw [heq]
  exact
    { ready := ⟨h.target, h.name, hnoted.passive⟩
      running := fun _ => hrunning
      handed := ⟨[⟨s.target, record⟩], hnoted.handed.trans hhanded, hcarries.singleton hne⟩
      answers := fun _ => by
        rw [List.forall_mem_singleton]
        exact fun _ => ⟨record.length, rfl, iff_of_false hlength hloud⟩ }

/-- A transport that has ended takes no record, and the call fails. -/
theorem sendWritten_ended (hended : s.transport.running = false) :
    Progress target written s (s.sendWritten record).2
      [⟨s.emitter, call, .sent (s.sendWritten record).1⟩] := by
  obtain ⟨hpassive, hhanded⟩ := h.passive.send ⟨s.target, record⟩
  have hstill : (s.transport.send ⟨s.target, record⟩).2.running = false := by
    rw [Transport.send_eq]
    exact hended
  rw [hended] at hhanded
  rw [sendWritten_of_ended hne hended]
  refine .of_handed_eq ⟨h.target, h.name, hpassive⟩ ?_ ?_ ?_ ?_
  · simp [hstill]
  · simpa using hhanded
  · simp [Reply.isSent]
  · simp [hstill]

end

/-- A call that sends hands over its record, if that is not empty. -/
theorem sendWritten (h : s.Ready target written) {call : Call} {record : Bytes}
    (hrecord : call.record s.emitter = .ok record)
    (hsilent : record = [] ↔ call.IsSilent s.emitter) :
    Progress target written s (s.sendWritten record).2
      [⟨s.emitter, call, .sent (s.sendWritten record).1⟩] := by
  by_cases hempty : record = []
  · have hquiet := h.silent (hsilent.mp hempty)
    rw [hempty]
    exact hquiet
  · cases hrunning : s.transport.running with
    | true => exact h.sendWritten_running hempty hrunning hrecord (hempty ∘ hsilent.mpr)
    | false => exact h.sendWritten_ended hempty hrunning

/-- A call hands over what its reply says. -/
theorem call (h : s.Ready target written) (call : Call) :
    Progress target written s (s.call call).2 [⟨s.emitter, call, (s.call call).1⟩] := by
  cases hsends : call.sends with
  | true =>
    obtain ⟨record, hrecord, hsilent⟩ := call.exists_record h.name
    rw [call_eq_sendWritten hsends hrecord]
    exact h.sendWritten hrecord hsilent
  | false =>
    -- Neither turning the switch nor writing into a buffer touches the transport.
    have htrue : Reply.IsTrue ⟨s.emitter, call, (s.call call).1⟩ :=
      fun hsends' => absurd (hsends.symm.trans hsends') (by simp)
    have htrue' : ∀ r ∈ [(⟨s.emitter, call, (s.call call).1⟩ : Reply)], r.IsTrue :=
      List.forall_mem_singleton.mpr htrue
    cases call with
    | setEnabled enabled =>
      exact .of_handed_eq ⟨h.target, h.name, h.passive⟩ id rfl
        (by simp [Reply.isSent, LogSender.call]) fun _ => htrue'
    | serialize stamp buffer entry =>
      exact .of_handed_eq h id rfl (by simp [Reply.isSent, LogSender.call]) fun _ => htrue'
    | send | sendSerialized => contradiction

/-- Whatever happens, exactly the records are handed over that the replies tell of. -/
theorem act (h : s.Ready target written) {act : Act} {replies : List Reply}
    (hact : s.act act = some (replies, s')) :
    Progress target (written + act.writes) s s' replies := by
  cases act with
  | call call =>
    obtain ⟨rfl, rfl⟩ := Prod.mk.inj (Option.some.inj hact)
    exact h.call call
  | transport move =>
    obtain ⟨hmove, rfl, t, hstep, rfl⟩ := exists_of_act_transport hact
    have hkept := h.passive.step hmove hstep
    exact .of_handed_eq ⟨h.target, h.name, hkept.passive⟩ hkept.running hkept.handed
      (by simp) (by simp)

/-- Over a whole run, exactly the records are handed over that the replies tell of. -/
theorem run (h : s.Ready target written) {acts : List Act} {replies : List Reply}
    (hrun : s.run acts = some (replies, s')) :
    Progress target (written + writes acts) s s' replies := by
  induction acts generalizing s written replies with
  | nil =>
    obtain ⟨rfl, rfl⟩ := Prod.mk.inj (Option.some.inj hrun)
    exact .of_handed_eq h id rfl (by simp) (by simp)
  | cons first rest ih =>
    obtain ⟨answered, more, between, hact, hmore, rfl⟩ := exists_of_run_cons hrun
    have hfirst := h.act hact
    rw [writes, ← Nat.add_assoc]
    exact hfirst.trans (ih hfirst.ready hmore)

end Ready

/-! ## The switch -/

/-- On the way from one emitter of a sender to another, only the calls that were made turned the
switch, and nothing else of it changed. -/
structure Switched (emitter emitter' : Emitter) (replies : List Reply) : Prop where
  /-- A call finds the switch where the calls before it have left it. -/
  found : ∀ i r, replies[i]? = some r →
    r.emitter = { emitter with enabled := Reply.switch emitter.enabled (replies.take i) }
  /-- All of them have left it where it is. -/
  left : emitter' = { emitter with enabled := Reply.switch emitter.enabled replies }

namespace Switched

variable {emitter emitter' emitter'' : Emitter} {replies more : List Reply}

/-- Nothing was asked. -/
theorem nil : Switched emitter emitter [] where
  found _ _ h := by simp at h
  left := rfl

theorem trans (h : Switched emitter emitter' replies) (h' : Switched emitter' emitter'' more) :
    Switched emitter emitter'' (replies ++ more) where
  found i r hr := by
    by_cases hi : i < replies.length
    · rw [List.getElem?_append_left hi] at hr
      rw [List.take_append_of_le_length (Nat.le_of_lt hi)]
      exact h.found i r hr
    · have hle : replies.length ≤ i := Nat.le_of_not_lt hi
      rw [List.getElem?_append_right hle] at hr
      have htake : (replies ++ more).take i = replies ++ more.take (i - replies.length) := by
        rw [List.take_append, List.take_of_length_le hle]
      -- What this call finds was left by all of the first calls and by some of the later ones.
      rw [htake, Reply.switch_append]
      calc r.emitter = { emitter' with
              enabled := Reply.switch emitter'.enabled (more.take (i - replies.length)) } :=
            h'.found _ r hr
        _ = _ := by rw [h.left]
  left := by
    rw [Reply.switch_append]
    calc emitter'' = { emitter' with enabled := Reply.switch emitter'.enabled more } := h'.left
      _ = _ := by rw [h.left]

/-- One call turns the switch if it is one that does. -/
theorem call (s : LogSender) (call : Call) :
    Switched s.emitter (s.call call).2.emitter [⟨s.emitter, call, (s.call call).1⟩] where
  found i r hr := by
    obtain ⟨rfl, rfl⟩ : i = 0 ∧ r = ⟨s.emitter, call, (s.call call).1⟩ := by
      simpa [List.getElem?_singleton, eq_comm] using hr
    rfl
  left := by
    have hswitch : Reply.switch s.emitter.enabled [⟨s.emitter, call, (s.call call).1⟩] =
        call.enabled?.getD s.emitter.enabled := by
      cases call <;> rfl
    rw [hswitch, emitter_call]

/-- Whatever happens, only calls turn the switch. -/
theorem act {s s' : LogSender} {act : Act} (hact : s.act act = some (replies, s')) :
    Switched s.emitter s'.emitter replies := by
  cases act with
  | call asked =>
    obtain ⟨rfl, rfl⟩ := Prod.mk.inj (Option.some.inj hact)
    exact call s asked
  | transport move =>
    obtain ⟨-, rfl, t, -, rfl⟩ := exists_of_act_transport hact
    exact nil

/-- Over a whole run, only calls turn the switch. -/
theorem run {s s' : LogSender} {acts : List Act} (hrun : s.run acts = some (replies, s')) :
    Switched s.emitter s'.emitter replies := by
  induction acts generalizing s replies with
  | nil =>
    obtain ⟨rfl, rfl⟩ := Prod.mk.inj (Option.some.inj hrun)
    exact nil
  | cons first rest ih =>
    obtain ⟨answered, more, between, hact, hmore, rfl⟩ := exists_of_run_cons hrun
    exact (act hact).trans (ih hmore)

end Switched

/-! ## Every run -/

/-- A sender that was made with an emitter has handed over what the replies to its calls tell of,
and its transport has written so many datagrams. -/
structure Accounted (emitter : Emitter) (target : Endpoint) (written : Nat) (replies : List Reply)
    (s : LogSender) : Prop where
  /-- One datagram for each call that answered it sent something, in order: as long as the answer,
  with the record of the call, to the target. -/
  handed : List.Forall₂ (Reply.Carries target) (replies.filter Reply.isSent) s.transport.handed
  /-- A call that sends answers with a number of bytes, which is zero exactly if it was silent. -/
  answers : ∀ r ∈ replies, r.IsTrue
  /-- Each call finds the emitter that the sender was made with: on at first, and then as the last
  call before it has it that turned the switch. -/
  switched : ∀ i r, replies[i]? = some r →
    r.emitter = { emitter with enabled := Reply.switch true (replies.take i) }
  /-- So will the next one. -/
  emitter : s.emitter = { emitter with enabled := Reply.switch true replies }
  /-- What was handed over waits in order until it is written. -/
  waiting : s.transport.outbox = s.transport.handed.drop written
  /-- An entry is sent as if its record were written into a buffer, and what was written sent. -/
  same : ∀ (stamp : Stamp) (entry : Emitter.Entry) (buffer : Bytes),
    maxRecordSize ≤ buffer.length →
      ∃ w, s.serialize stamp buffer entry = .ok w ∧ s.send stamp entry = s.sendSerialized w.record

/-- As long as its transport is open, a sender hands over what it says and nothing else, in every
run. -/
theorem hands_over {name : String} {pid : Int32} {emitter : Emitter} {target address : Endpoint}
    {now : Instant} {acts : List Act} {replies : List Reply} {s : LogSender}
    (hnew : Emitter.new name pid = .ok emitter)
    (hrun : (start emitter target address now).run acts = some (replies, s))
    (hopen : s.transport.running = true) :
    Accounted emitter target (writes acts) replies s := by
  obtain ⟨rfl, hname⟩ := Emitter.new_eq_ok hnew
  have hstart : (start ⟨name, true, pid⟩ target address now).Ready target 0 :=
    ⟨rfl, hname, .start _ _ _⟩
  have hprogress := hstart.run hrun
  rw [Nat.zero_add] at hprogress
  obtain ⟨more, hmore, hcarried⟩ := hprogress.handed
  have hswitched : Switched ⟨name, true, pid⟩ s.emitter replies := Switched.run hrun
  exact
    { handed := by
        rw [hmore]
        exact hcarried
      answers := hprogress.answers hopen
      switched := hswitched.found
      emitter := hswitched.left
      waiting := hprogress.ready.passive.waiting hopen
      same := fun stamp entry _ hbuffer =>
        send_eq_sendSerialized hprogress.ready.name stamp entry hbuffer }

/-- An entry is sent and written to the network, another is sent while sending is off, and a record
that was made before is sent before and after it is on again. Then come an empty record, and a
binary message that does not fit one. -/
def everyKind : List Act :=
  [.call (.send ⟨1, 2⟩ ⟨.info, "t", .text "up", "m.rs", 3⟩),
    .transport (.write (.taken 40)),
    .call (.setEnabled false),
    .call (.send ⟨1, 2⟩ ⟨.info, "t", .text "off", "m.rs", 4⟩),
    .call (.sendSerialized [1, 2, 3]),
    .call (.setEnabled true),
    .call (.serialize ⟨1, 2⟩ (List.replicate 60 0) ⟨.info, "t", .binary [0, 1], "m.rs", 5⟩),
    .call (.sendSerialized [1, 2, 3]),
    .call (.sendSerialized []),
    .call (.send ⟨1, 2⟩ ⟨.info, "t", .binary (List.replicate 1024 0), "m.rs", 6⟩)]

/-- Of the calls of every kind, two hand something over. -/
theorem hands_over_two :
    ∃ emitter replies s, Emitter.new "a" 7 = .ok emitter ∧
      (start emitter ⟨.v4 .unspecified, 9⟩ .unspecifiedV4 .zero).run everyKind =
        some (replies, s) ∧
      s.transport.running = true ∧ s.transport.handed.map (·.data.length) = [40, 3] ∧
      Accounted emitter ⟨.v4 .unspecified, 9⟩ 1 replies s := by
  have hscene : ((start ⟨"a", true, 7⟩ ⟨.v4 .unspecified, 9⟩ .unspecifiedV4 .zero).run
      everyKind).map (fun p => (p.2.transport.running, p.2.transport.handed.map (·.data.length))) =
        some (true, [40, 3]) := by decide +kernel
  obtain ⟨⟨replies, s⟩, hrun, hend⟩ := Option.map_eq_some_iff.mp hscene
  obtain ⟨hopen, hlengths⟩ := Prod.mk.inj hend
  have hnew : Emitter.new "a" 7 = .ok ⟨"a", true, 7⟩ := rfl
  exact ⟨_, replies, s, hnew, hrun, hopen, hlengths, hands_over hnew hrun hopen⟩

end NetSession.LogSender
