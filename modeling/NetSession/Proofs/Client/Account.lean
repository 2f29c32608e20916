import NetSession.Proofs.Client.Others
import NetSession.Proofs.Stream.Account

/-!
# The accounts of attempts

What counts of the byte stream of one attempt of a client, as an `Account`. A record is told apart
by the attempt that was at hand when it was written (`during`), and so are the payloads that were
accepted and the bytes that were handed on. Whatever a client does to the account of one attempt is
`Traffic`; that it sends on the attempt at hand only is what `AtHand` says.
-/

namespace NetSession.Client

open NetSession.Stream (Account)
open NetSession.Stream.Account (Traffic)

variable {σ τ : Type}

/-- What was written down while an attempt was at hand, if some attempt was at hand before. -/
def during (attempt : Nat) (current : Nat) : List Happening → List Happening
  | [] => []
  | .dialed next :: rest => during attempt next rest
  | e :: rest => (if current = attempt then [e] else []) ++ during attempt current rest

/-- The payload that was accepted to be sent. -/
def Happening.payload? : Happening → Option Bytes
  | .sent data true => some data
  | _ => none

/-- The bytes that were handed on to the handler. -/
def Happening.bytes? : Happening → Option Bytes
  | .called (.received data) _ => some data
  | _ => none

/-- The payloads that were accepted to be sent on an attempt, in order. -/
def payloads (attempt : Nat) (trace : List Happening) : List Bytes :=
  (during attempt 0 trace).filterMap Happening.payload?

/-- The bytes of an attempt that were handed on to the handler, in order. -/
def handed (attempt : Nat) (trace : List Happening) : Bytes :=
  ((during attempt 0 trace).filterMap Happening.bytes?).flatten

/-- The report that an event is, if it comes of an attempt. -/
def Event.report? (attempt : Nat) : Event → Option Stream.Report
  | .read attempt' data => if attempt' = attempt then some (.read data) else none
  | .ended attempt' failure => if attempt' = attempt then some (.ended failure) else none
  | .closed attempt' => if attempt' = attempt then some .closed else none
  | .connected _ | .connectFailed _ _ => none

/-- Whether what is read of an attempt is handed on. -/
def isOpen (c : Client σ) (attempt : Nat) : Bool := c.attempt == attempt && c.isConnected

/-- What a client has on the account of an attempt, with what others have. -/
def account (c : Client σ) (attempt : Nat) (stream : Option Stream) (mail : List Stream.Report)
    (heard due : Bool) : Account where
  link := c.links[attempt]?
  stream := stream
  mail := mail
  heard := heard
  isOpen := c.isOpen attempt
  due := due
  accepted := payloads attempt c.trace
  received := handed attempt c.trace

/-- The account of an attempt. -/
def Machine.account (m : Machine σ) (attempt : Nat) : Account :=
  m.client.account attempt m.system.streams[attempt]?
    (m.system.events.filterMap (·.report? attempt)) m.system.running
    (decide (.spawn attempt ∈ m.jobs))

/-! ## What is written down -/

/-- The attempt that was begun last. -/
def lastDialed (trace : List Happening) : Nat := (dialings trace).getLastD 0

/-- What comes later is told apart by the attempt that was begun last. -/
theorem during_append (attempt current : Nat) (l l' : List Happening) :
    during attempt current (l ++ l') =
      during attempt current l ++ during attempt ((dialings l).getLastD current) l' := by
  induction l generalizing current with
  | nil => rfl
  | cons e l ih =>
    cases e with
    | dialed next =>
      have hlast : (dialings (.dialed next :: l)).getLastD current =
          (dialings l).getLastD next := List.getLastD_cons ..
      rw [hlast]
      exact ih next
    | called | sent | asked | said | wrote | shut | reported =>
      simp only [List.cons_append, during, List.append_assoc]
      rw [ih]
      rfl

section Notes

variable {attempt : Nat} {trace : List Happening} {e : Happening}

/-- What is neither a payload nor bytes that were handed on counts for no attempt. -/
theorem records_concat (hpayload : e.payload? = none) (hbytes : e.bytes? = none) :
    payloads attempt (trace ++ [e]) = payloads attempt trace ∧
      handed attempt (trace ++ [e]) = handed attempt trace := by
  have hlast (current : Nat) : (during attempt current [e]).filterMap Happening.payload? = [] ∧
      (during attempt current [e]).filterMap Happening.bytes? = [] := by
    cases e with
    | dialed next => exact ⟨rfl, rfl⟩
    | called | sent | asked | said | wrote | shut | reported =>
      simp only [during, List.append_nil]
      split
      · simp [hpayload, hbytes]
      · exact ⟨rfl, rfl⟩
  simp only [payloads, handed, during_append, List.filterMap_append, (hlast _).1, (hlast _).2,
    List.append_nil, and_self]

/-- A payload that is accepted counts for the attempt at hand. -/
theorem records_sent (attempt : Nat) (trace : List Happening) (data : Bytes) :
    payloads attempt (trace ++ [.sent data true]) =
        payloads attempt trace ++ (if lastDialed trace = attempt then [data] else []) ∧
      handed attempt (trace ++ [.sent data true]) = handed attempt trace := by
  have hlast : (dialings trace).getLastD 0 = lastDialed trace := rfl
  simp only [payloads, handed, during_append, hlast, List.filterMap_append, during, List.append_nil]
  split <;> simp [Happening.payload?, Happening.bytes?]

/-- Bytes that are handed on count for the attempt at hand. -/
theorem records_received (attempt : Nat) (trace : List Happening) (data : Bytes)
    (state : State) :
    payloads attempt (trace ++ [.called (.received data) state]) = payloads attempt trace ∧
      handed attempt (trace ++ [.called (.received data) state]) =
        handed attempt trace ++ (if lastDialed trace = attempt then data else []) := by
  have hlast : (dialings trace).getLastD 0 = lastDialed trace := rfl
  simp only [payloads, handed, during_append, hlast, List.filterMap_append, during, List.append_nil]
  split <;> simp [Happening.payload?, Happening.bytes?]

end Notes

/-- What a client has on the account of an attempt has not changed. -/
structure SameAccount (attempt : Nat) (c c' : Client σ) : Prop where
  /-- The link is the same. -/
  link : c'.links[attempt]? = c.links[attempt]?
  /-- The attempt is as open as before. -/
  isOpen : c'.isOpen attempt = c.isOpen attempt
  /-- No payload was accepted. -/
  payloads : payloads attempt c'.trace = payloads attempt c.trace
  /-- No bytes were handed on. -/
  handed : handed attempt c'.trace = handed attempt c.trace

namespace SameAccount

variable {attempt : Nat} {c c' c'' : Client σ}

/-- Nothing has changed. -/
theorem refl (attempt : Nat) (c : Client σ) : SameAccount attempt c c := ⟨rfl, rfl, rfl, rfl⟩

/-- Nothing has changed after one step and another. -/
theorem trans (h : SameAccount attempt c c') (h' : SameAccount attempt c' c'') :
    SameAccount attempt c c'' :=
  ⟨h'.link.trans h.link, h'.isOpen.trans h.isOpen, h'.payloads.trans h.payloads,
    h'.handed.trans h.handed⟩

/-- The account is the same. -/
theorem account_eq (h : SameAccount attempt c c') (stream : Option Stream)
    (mail : List Stream.Report) (heard due : Bool) :
    c'.account attempt stream mail heard due = c.account attempt stream mail heard due := by
  simp only [account, h.link, h.isOpen, h.payloads, h.handed]

/-- Something is written down that is no send and hands on no bytes. -/
theorem note (c : Client σ) {e : Happening} (hpayload : e.payload? = none)
    (hbytes : e.bytes? = none) : SameAccount attempt c (c.note e) :=
  have hrecords := records_concat hpayload hbytes
  ⟨rfl, rfl, hrecords.1, hrecords.2⟩

/-- Something is said. -/
theorem say (c : Client σ) (severity : Console.Severity) (message : String) :
    SameAccount attempt c (c.say severity message) :=
  note c rfl rfl

/-- Only the links of others have changed, and what is on no account. -/
theorem of_eq (hlink : c'.links[attempt]? = c.links[attempt]?) (hattempt : c'.attempt = c.attempt)
    (hstate : c'.state = c.state) (htrace : c'.trace = c.trace) : SameAccount attempt c c' := by
  refine ⟨hlink, ?_, by rw [htrace], by rw [htrace]⟩
  simp only [Client.isOpen, isConnected, hattempt, hstate]

/-- Something is sent that is not accepted. -/
theorem refuse (c : Client σ) (data : Bytes) : SameAccount attempt c (c.note (.sent data false)) :=
  note c rfl rfl

end SameAccount

/-- The client says why nothing more can be read. -/
theorem SameAccount.sayEnded (attempt : Nat) (c : Client σ) (failure : Option String) :
    SameAccount attempt c (c.sayEnded failure) := by
  cases failure with
  | none => exact .say c _ _
  | some cause => exact .say c _ _

/-- Whatever a client sends goes out on the attempt that was begun last. -/
structure AtHand (c : Client σ) : Prop where
  /-- The attempt at hand was begun last. -/
  dialed : lastDialed c.trace = c.attempt
  /-- There is no other way out. -/
  outlet : ∀ attempt, c.outlet = some attempt → attempt = c.attempt

/-- A calm change leaves the attempt at hand. -/
theorem AtHand.calm {c c' : Client σ} (h : c.AtHand) (hcalm : Calm c c') : c'.AtHand := by
  obtain ⟨l, htrace, hl⟩ := hcalm.trace
  constructor
  · rw [lastDialed, htrace, dialings_append_minor hl, hcalm.attempt]
    exact h.dialed
  · rw [hcalm.outlet, hcalm.attempt]
    exact h.outlet

section Reactions

variable (attempt : Nat) (stream : Option Stream) (mail : List Stream.Report) (heard due : Bool)
variable {c : Client σ}

/-- A payload is accepted at the end of the queue of the attempt that payloads are sent on. -/
theorem push_of_enqueue {c' : Client σ} {data : Bytes} (h : c.enqueue data = .ok c') :
    ∃ attempt link link', c.outlet = some attempt ∧ c.links[attempt]? = some link ∧
      link.push? data = some link' ∧ c' = { c with links := c.links.insert attempt link' } := by
  unfold enqueue at h
  split at h
  · exact nomatch h
  · next attempt link hfound =>
    obtain ⟨attempt', houtlet, hfound⟩ := Option.bind_eq_some_iff.mp hfound
    obtain ⟨link', hlink, heq⟩ := Option.bind_eq_some_iff.mp hfound
    obtain ⟨rfl, rfl⟩ := Prod.mk.inj (Option.some.inj heq)
    split at h
    · exact nomatch h
    · next pushed hpush =>
      obtain rfl := Except.ok.inj h
      exact ⟨attempt', link', pushed, houtlet, hlink, hpush, rfl⟩

/-- To send is on the account of the attempt at hand only. -/
theorem traffic_send (h : c.AtHand) (data : Bytes) :
    Relation.ReflTransGen Traffic (c.account attempt stream mail heard due)
      ((c.send data).2.account attempt stream mail heard due) := by
  unfold send
  split
  · next c' hsend =>
    obtain ⟨attempt', link, link', houtlet, hlink, hpush, rfl⟩ := push_of_enqueue hsend
    obtain rfl := h.outlet attempt' houtlet
    obtain ⟨hpayloads, hhanded⟩ := records_sent attempt c.trace data
    have hinsert := Ascending.getElem?_insert c.links c.attempt attempt link'
    rw [h.dialed] at hpayloads
    by_cases heq : c.attempt = attempt
    · subst heq
      rw [if_pos rfl] at hpayloads hinsert
      have hsent : Traffic (c.account c.attempt stream mail heard due) _ := .send hlink hpush
      refine .single ?_
      simp only [account, note, hpayloads, hhanded, hinsert]
      exact hsent
    · rw [if_neg heq, List.append_nil] at hpayloads
      rw [if_neg (Ne.symm heq)] at hinsert
      have hsame : SameAccount attempt c
          (({ c with links := c.links.insert c.attempt link' } : Client σ).note
            (.sent data true)) := ⟨hinsert, rfl, hpayloads, hhanded⟩
      rw [hsame.account_eq]
  · have hsame : SameAccount attempt c (c.note (.sent data false)) := .refuse c data
    rw [hsame.account_eq]

/-- To ask for a shutdown is on no account. -/
theorem SameAccount.askShutdown (c : Client σ) : SameAccount attempt c c.askShutdown := by
  have hrequests : SameAccount attempt c { c with requests := c.requests + 1 } :=
    .of_eq rfl rfl rfl rfl
  exact hrequests.trans (.note _ rfl rfl)

/-- What a reaction does first. -/
theorem traffic_advance (h : c.AtHand) (reaction : Reaction τ) :
    Relation.ReflTransGen Traffic (c.account attempt stream mail heard due)
      ((c.advance reaction).2.account attempt stream mail heard due) := by
  have hsame {c' : Client σ} (h : SameAccount attempt c c') :
      Relation.ReflTransGen Traffic (c.account attempt stream mail heard due)
        (c'.account attempt stream mail heard due) := by
    rw [h.account_eq]
  cases reaction with
  | done value => exact .refl
  | look next => exact .refl
  | send data next => exact traffic_send attempt stream mail heard due h data
  | shutdown next => exact hsame (.askShutdown attempt c)
  | say notice next => exact hsame (.note c rfl rfl)

/-- All that a reaction does. -/
theorem traffic_perform (h : c.AtHand) (reaction : Reaction τ) :
    Relation.ReflTransGen Traffic (c.account attempt stream mail heard due)
      ((c.perform reaction).2.account attempt stream mail heard due) := by
  induction reaction generalizing c with
  | done value => exact .refl
  | look next ih => exact ih _ h
  | send data next ih =>
    have hfirst := traffic_send attempt stream mail heard due h data
    exact hfirst.trans (ih _ (h.calm (calm_send c data)))
  | shutdown next ih =>
    have hfirst := traffic_advance attempt stream mail heard due h (.shutdown next)
    exact hfirst.trans (ih (h.calm (calm_askShutdown c)))
  | say notice next ih =>
    have hfirst := traffic_advance attempt stream mail heard due h (.say notice next)
    have hcalm : Calm c (c.note (.said notice)) := .note c trivial
    exact hfirst.trans (ih (h.calm hcalm))

end Reactions

end NetSession.Client
