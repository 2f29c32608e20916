import Mathlib.Logic.Function.Basic
import NetSession.Proofs.Datagram.Owed

/-!
# Two transports in exchange

An `Exchange` is two transports and a network between them that loses nothing that one of them sends
the other, and may deliver it in any order. Nobody else sends, shuts a side down, or lets go of it.
What one side was given to send and the other has not heard yet is on its way (`toward`). A step
keeps that up to its order, or loses what was sent to someone else, or lets one side hear something,
which then owes what its handler sends because of it (`follows_of_step`). What is heard is what the
handlers are called with (`Sound.run`), and a single datagram that is on its way can be heard in the
end (`exists_hears`).
-/

namespace NetSession

open Datagram

/-- The sides of an exchange. -/
inductive Side where
  /-- The one. -/
  | here
  /-- The other. -/
  | there
  deriving DecidableEq

/-- The side opposite. -/
def Side.other : Side → Side
  | .here => .there
  | .there => .here

@[simp] theorem Side.other_other (s : Side) : s.other.other = s := by cases s <;> rfl

@[simp] theorem Side.other_ne (s : Side) : s.other ≠ s := by cases s <;> decide

@[simp] theorem Side.ne_other (s : Side) : s ≠ s.other := s.other_ne.symm

/-- A side is the one or the other. -/
theorem Side.eq_or_other_eq (s s' : Side) : s = s' ∨ s.other = s' := by
  cases s <;> cases s' <;> decide

/-- Two transports with a network between them. -/
structure Exchange (σ : Type) where
  /-- Where the network finds each side. -/
  address : Side → Endpoint
  /-- Who is there. -/
  party : Side → Transport σ
  /-- The datagrams that the network has for each side; all of them come from the other. -/
  underway : Side → List Bytes
  /-- What each side heard of them, in order. -/
  heard : List (Side × Bytes)

namespace Exchange

variable {σ : Type}

/-- A step of one side, or of the network. -/
inductive Move where
  /-- A quiet move of one side. -/
  | own (s : Side) (move : Transport.Move)
  /-- One side writes a datagram, and the network takes all of it. -/
  | write (s : Side)
  /-- One side receives one of the datagrams that the network has for it. -/
  | deliver (s : Side) (i : Nat)

/-- The exchange with another transport on one side. -/
def place (x : Exchange σ) (s : Side) (t : Transport σ) : Exchange σ :=
  { x with party := Function.update x.party s t }

/-- The network takes a datagram from one side. -/
def carry (x : Exchange σ) (s : Side) (datagram : Datagram) : Exchange σ :=
  if datagram.peer = x.address s.other then
    { x with underway :=
        Function.update x.underway s.other (x.underway s.other ++ [datagram.data]) }
  else x

/-- The datagram that one side gets. -/
def arriving (x : Exchange σ) (s : Side) (data : Bytes) : Datagram := ⟨x.address s.other, data⟩

/-- One side gets a datagram, and its transport becomes another. -/
def hear (x : Exchange σ) (s : Side) (i : Nat) (data : Bytes) (t : Transport σ) : Exchange σ :=
  { x.place s t with
    underway := Function.update x.underway s ((x.underway s).eraseIdx i)
    heard := x.heard ++ [(s, ((x.party s).told (x.arriving s data)).datagram.data)] }

/-- One step, if it can be taken. -/
def step (x : Exchange σ) : Move → Option (Exchange σ)
  | .own s move => if move.isQuiet then ((x.party s).step move).map (x.place s) else none
  | .write s =>
    (x.party s).next?.bind fun datagram =>
      ((x.party s).step (.write (.taken datagram.data.length))).map fun t =>
        (x.place s t).carry s datagram
  | .deliver s i =>
    (x.underway s)[i]?.bind fun data =>
      ((x.party s).step (.receive (x.arriving s data))).map (x.hear s i data)

/-- A run: moves that can be taken one after the other. -/
def run (x : Exchange σ) : List Move → Option (Exchange σ)
  | [] => some x
  | move :: rest => (x.step move).bind (·.run rest)

/-- What is on its way to a side. -/
def toward (x : Exchange σ) (s : Side) : List Datagram :=
  (x.underway s).map (⟨x.address s, ·⟩) ++ (x.party s.other).owed

/-- What a side heard, in order. -/
def heardBy (x : Exchange σ) (s : Side) : List Bytes :=
  (x.heard.filter (·.1 = s)).map (·.2)

theorem run_append (x : Exchange σ) (moves rest : List Move) :
    x.run (moves ++ rest) = (x.run moves).bind (·.run rest) := by
  induction moves generalizing x with
  | nil => rfl
  | cons move moves ih =>
    rw [List.cons_append, run, run, Option.bind_assoc]
    exact congrArg _ (funext ih)

/-! ## What a step does -/

/-- Both sides are up, and their handlers were called with what they heard. -/
structure Sound (x : Exchange σ) : Prop where
  /-- Both sides are up. -/
  up : ∀ s, (x.party s).Up
  /-- Their handlers were called with what they heard. -/
  calls : ∀ s, (x.party s).calls.map (·.datagram.data) = x.heardBy s

/-- What a step does about what is on its way. -/
inductive Change (x x' : Exchange σ) : Prop
  /-- Nothing but change its order. -/
  | quiet (hheard : x'.heard = x.heard) (htoward : ∀ s, (x'.toward s).Perm (x.toward s))
  /-- It loses a datagram that was addressed to someone else. -/
  | astray (s : Side) (datagram : Datagram) (hmem : datagram ∈ x.toward s)
    (hpeer : datagram.peer ≠ x.address s)
  /-- One side hears of a datagram, and owes what its handler sends because of it. -/
  | hear (s : Side) (data : Bytes)
    (hheard : x'.heard = x.heard ++ [(s, ((x.party s).told (x.arriving s data)).datagram.data)])
    (htoward : (x.toward s).Perm (⟨x.address s, data⟩ :: x'.toward s))
    (hsends : (x'.toward s.other).Perm (x.toward s.other ++
      ((x.party s).handler ((x.party s).told (x.arriving s data)) (x.party s).memory).sends))

/-- What a step leads to. -/
structure Follows (x x' : Exchange σ) : Prop where
  /-- The network finds both sides where they were. -/
  address : x'.address = x.address
  /-- Both sides stay what they are. -/
  party : ∀ s, (x.party s).Stays (x'.party s)
  /-- Their handlers are called with what they hear. -/
  sound : x'.Sound
  /-- Something of what is on its way changes. -/
  change : x.Change x'

section

variable {x x' : Exchange σ} {s : Side} {t : Transport σ}

theorem place_self : (x.place s t).party s = t := by
  rw [place]
  exact Function.update_self ..

theorem place_other : (x.place s t).party s.other = x.party s.other := by
  rw [place]
  exact Function.update_of_ne s.other_ne ..

/-- Both sides stay what they are if the one that changes does. -/
theorem stays_place (h : (x.party s).Stays t) (s' : Side) :
    (x.party s').Stays ((x.place s t).party s') := by
  obtain rfl | rfl := s.eq_or_other_eq s'
  · rwa [place_self]
  · rw [place_other]
    exact .refl _

/-- If one side changes, it is to be seen that its handler was called with what it heard. -/
theorem Sound.of_place (hsound : x.Sound) (hstays : (x.party s).Stays t)
    (hparty : x'.party = (x.place s t).party)
    (hself : t.calls.map (·.datagram.data) = x'.heardBy s)
    (hother : x'.heardBy s.other = x.heardBy s.other) : x'.Sound where
  up s' := by
    rw [hparty]
    exact (stays_place hstays s').up (hsound.up s')
  calls s' := by
    rw [hparty]
    obtain rfl | rfl := s.eq_or_other_eq s'
    · rw [place_self, hself]
    · rw [place_other, hother, hsound.calls]

/-- A quiet move of one side. -/
theorem Follows.own (hsound : x.Sound) (h : (x.party s).Takes t [] []) :
    x.Follows (x.place s t) where
  address := rfl
  party := stays_place h.toStays
  sound := by
    refine hsound.of_place h.toStays rfl ?_ rfl
    rw [h.calls, List.append_nil]
    exact hsound.calls s
  change := by
    refine .quiet rfl fun s' => ?_
    obtain rfl | rfl := s.eq_or_other_eq s'
    · rw [toward, place_other]
      exact List.Perm.refl _
    · have howed := h.owed
      rw [List.append_nil] at howed
      rw [toward, toward, s.other_other, place_self]
      exact howed.append_left _

/-- A datagram that one side writes. -/
theorem Follows.write (hsound : x.Sound) {datagram : Datagram} (hstays : (x.party s).Stays t)
    (howed : (x.party s).owed = datagram :: t.owed) (hcalls : t.calls = (x.party s).calls) :
    x.Follows ((x.place s t).carry s datagram) := by
  have hself : t.calls.map (·.datagram.data) = x.heardBy s := by
    rw [hcalls]
    exact hsound.calls s
  rw [carry]
  split_ifs with hpeer
  · -- The other side is to get it.
    obtain ⟨peer, data⟩ := datagram
    obtain rfl : peer = x.address s.other := hpeer
    refine ⟨rfl, stays_place hstays, hsound.of_place hstays rfl hself rfl, .quiet rfl fun s' => ?_⟩
    obtain rfl | rfl := s.eq_or_other_eq s'
    · rw [toward, toward]
      dsimp only
      rw [Function.update_of_ne s.ne_other, place_other]
      exact List.Perm.refl _
    · rw [toward, toward]
      dsimp only
      rw [Function.update_self, s.other_other, place_self, howed, List.map_append,
        List.append_assoc]
      exact List.Perm.refl _
  · -- It is lost.
    refine ⟨rfl, stays_place hstays, hsound.of_place hstays rfl hself rfl, ?_⟩
    refine .astray s.other datagram ?_ hpeer
    rw [toward, s.other_other, howed]
    exact List.mem_append_right _ List.mem_cons_self

/-- A datagram that one side receives. -/
theorem Follows.deliver (hsound : x.Sound) {i : Nat} {data : Bytes}
    (hdata : (x.underway s)[i]? = some data) :
    x.Follows (x.hear s i data ((x.party s).receive (x.arriving s data))) := by
  have h := Transport.Takes.receive (hsound.up s) (x.arriving s data)
  refine ⟨rfl, stays_place h.toStays, hsound.of_place h.toStays rfl ?_ ?_, .hear s data rfl ?_ ?_⟩
  · rw [h.calls, List.map_append, hsound.calls]
    simp [heardBy, hear]
  · simp [heardBy, hear]
  · have hperm := Transport.perm_cons_eraseIdx hdata
    rw [toward, toward, hear]
    dsimp only
    rw [Function.update_self, place_other]
    exact (hperm.map _).append_right _
  · rw [toward, toward, hear]
    dsimp only
    rw [Function.update_of_ne s.other_ne, s.other_other, place_self, List.append_assoc]
    exact h.owed.append_left _

/-- A step leads to what follows. -/
theorem follows_of_step (hsound : x.Sound) {move : Move} (hstep : x.step move = some x') :
    x.Follows x' := by
  cases move with
  | own s move =>
    obtain ⟨hmove, hstep⟩ := Option.ite_none_right_eq_some.mp hstep
    obtain ⟨t, ht, rfl⟩ := Option.map_eq_some_iff.mp hstep
    exact .own hsound (.quiet (hsound.up s) hmove ht)
  | write s =>
    obtain ⟨datagram, hnext, hstep⟩ := Option.bind_eq_some_iff.mp hstep
    obtain ⟨t, ht, rfl⟩ := Option.map_eq_some_iff.mp hstep
    obtain ⟨hrunning, rest, houtbox⟩ := Transport.next?_eq_some_iff.mp hnext
    rw [Transport.step_write hrunning houtbox] at ht
    obtain rfl := Option.some.inj ht
    have howed : (x.party s).owed = datagram ::
        { x.party s with outbox := rest : Transport σ }.owed := by
      rw [Transport.owed, houtbox]
      rfl
    exact .write hsound (.of_eq rfl rfl rfl rfl) howed rfl
  | deliver s i =>
    obtain ⟨data, hdata, hstep⟩ := Option.bind_eq_some_iff.mp hstep
    obtain ⟨t, ht, rfl⟩ := Option.map_eq_some_iff.mp hstep
    obtain ⟨-, ⟨⟩⟩ := Option.ite_none_right_eq_some.mp ht
    exact .deliver hsound hdata

/-- In every run the handlers are called with what the sides hear, and the network finds both sides
where they were. -/
theorem Sound.run (hsound : x.Sound) {moves : List Move} (hrun : x.run moves = some x') :
    x'.Sound ∧ x'.address = x.address := by
  induction moves generalizing x with
  | nil =>
    obtain rfl := Option.some.inj hrun
    exact ⟨hsound, rfl⟩
  | cons move moves ih =>
    obtain ⟨x₁, hstep, hrest⟩ := Option.bind_eq_some_iff.mp hrun
    have hfollows := follows_of_step hsound hstep
    obtain ⟨hsound', haddress⟩ := ih hfollows.sound hrest
    exact ⟨hsound', haddress.trans hfollows.address⟩

end

/-! ## What can be heard -/

section

variable {x : Exchange σ} {s : Side}

/-- Quiet moves of one side are moves of the exchange. -/
theorem run_own {moves : List Transport.Move} {t : Transport σ}
    (hquiet : ∀ move ∈ moves, move.isQuiet = true) (hrun : (x.party s).run moves = some t) :
    x.run (moves.map (.own s)) = some (x.place s t) := by
  induction moves generalizing x with
  | nil =>
    obtain rfl := Option.some.inj hrun
    rw [place, Function.update_eq_self]
    rfl
  | cons move moves ih =>
    obtain ⟨hmove, hmoves⟩ := List.forall_mem_cons.mp hquiet
    obtain ⟨t₁, hstep, hrest⟩ := Option.bind_eq_some_iff.mp hrun
    have hmoved : x.step (.own s move) = some (x.place s t₁) := by
      rw [step, if_pos hmove, hstep, Option.map_some]
    have hplace : (x.place s t₁).place s t = x.place s t := by
      rw [place, place, Function.update_idem]
      rfl
    rw [List.map_cons, run, hmoved, Option.bind_some, ← hplace]
    exact ih hmoves (by rwa [place_self])

/-- The network has what it takes for a side. -/
theorem underway_carry_ne_nil {data : Bytes} :
    (x.carry s.other ⟨x.address s, data⟩).underway s ≠ [] := by
  rw [carry, if_pos (by rw [s.other_other])]
  dsimp only
  rw [s.other_other, Function.update_self]
  exact List.append_ne_nil_of_right_ne_nil _ (List.cons_ne_nil _ _)

/-- Nobody hears of it yet. -/
theorem heard_carry {datagram : Datagram} : (x.carry s datagram).heard = x.heard := by
  rw [carry]
  split_ifs <;> rfl

/-- A datagram that the network has can be heard. -/
theorem exists_hears_of_underway (hsound : x.Sound) (h : x.underway s ≠ []) :
    ∃ moves x', x.run moves = some x' ∧ x'.heard.length = x.heard.length + 1 := by
  obtain ⟨data, rest, hcons⟩ := List.exists_cons_of_ne_nil h
  have hdata : (x.underway s)[0]? = some data := by rw [hcons, List.getElem?_cons_zero]
  have hreceive : (x.party s).step (.receive (x.arriving s data)) =
      some ((x.party s).receive (x.arriving s data)) := if_pos (hsound.up s).running
  have hstep : x.step (.deliver s 0) =
      some (x.hear s 0 data ((x.party s).receive (x.arriving s data))) := by
    rw [step, hdata, Option.bind_some, hreceive, Option.map_some]
  exact ⟨[.deliver s 0], _, by rw [run, hstep]; rfl, List.length_append⟩

/-- So can one that waits in the outbox of the other side. -/
theorem exists_hears_of_outbox (hsound : x.Sound) {data : Bytes} {rest : List Datagram}
    (houtbox : (x.party s.other).outbox = ⟨x.address s, data⟩ :: rest) :
    ∃ moves x', x.run moves = some x' ∧ x'.heard.length = x.heard.length + 1 := by
  have hrunning := (hsound.up s.other).running
  have hstep : x.step (.write s.other) =
      some ((x.place s.other { x.party s.other with outbox := rest }).carry s.other
        ⟨x.address s, data⟩) := by
    rw [step, Transport.next?_eq_some_iff.mpr ⟨hrunning, rest, houtbox⟩, Option.bind_some,
      Transport.step_write hrunning houtbox, Option.map_some]
  obtain ⟨moves, x', hrun, hheard⟩ := exists_hears_of_underway
    (follows_of_step hsound hstep).sound underway_carry_ne_nil
  refine ⟨.write s.other :: moves, x', by rw [run, hstep, Option.bind_some, hrun], ?_⟩
  rw [hheard, heard_carry]
  rfl

/-- A single datagram that is on its way can be heard, if one waits until what was put off is done
and written. -/
theorem exists_hears (hsound : x.Sound) {data : Bytes}
    (htoward : x.toward s = [⟨x.address s, data⟩]) :
    ∃ moves x', x.run moves = some x' ∧ x'.heard.length = x.heard.length + 1 := by
  by_cases hunderway : x.underway s = []
  · obtain ⟨own, t, hrun, hquiet, htakes, hdone⟩ :=
      Transport.exists_quiet_run (hsound.up s.other)
    have hfollows : x.Follows (x.place s.other t) := .own hsound htakes
    have houtbox : t.outbox = [⟨x.address s, data⟩] := by
      rw [toward, hunderway, List.map_nil, List.nil_append] at htoward
      have howed := htakes.owed
      rw [List.append_nil, htoward, Transport.owed, hdone, List.flatMap_nil, List.append_nil]
        at howed
      exact List.perm_singleton.mp howed
    have hplaced : ((x.place s.other t).party s.other).outbox = [⟨x.address s, data⟩] := by
      rw [place_self, houtbox]
    obtain ⟨moves, x', hrest, hheard⟩ := exists_hears_of_outbox hfollows.sound hplaced
    refine ⟨own.map (.own s.other) ++ moves, x', ?_, hheard⟩
    rw [run_append, run_own hquiet hrun, Option.bind_some, hrest]
  · exact exists_hears_of_underway hsound hunderway

end

end Exchange

end NetSession
