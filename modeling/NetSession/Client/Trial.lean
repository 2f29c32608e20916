import NetSession.Client.System

/-!
# Clients on trial

A client whose attempts to connect end by a plan: they reach a network of which it is known how it
answers, are refused, or hang until they are released. So runs the client of a tool on a host that
knows what becomes of its attempts.
-/

namespace NetSession.Client

/-- What becomes of an attempt to connect. -/
inductive Fate where
  /-- It goes out to the network. -/
  | reach
  /-- It is refused. -/
  | refuse
  /-- It hangs until it is released. -/
  | hang
  deriving DecidableEq, Repr

/-- A client on trial. -/
structure Trial (σ : Type) where
  /-- The client. -/
  system : System σ
  /-- What the network does with an attempt: it connects, or fails. -/
  network : Except String Unit
  /-- What becomes of the attempts to come. -/
  plan : List Fate
  /-- What becomes of all later ones. -/
  later : Fate := .refuse
  /-- The attempts that hang. -/
  hanging : List Nat := []
  /-- A release that came while nothing was hanging; it says whether the next attempt that would
  hang reaches the network. -/
  kept : Option Bool := none
  /-- When attempts were begun. -/
  begun : List Instant := []

namespace Trial

variable {σ : Type}

/-- Takes a step, if it can be taken. -/
def step (t : Trial σ) (move : Move) : Trial σ :=
  { t with system := (t.system.step move).getD t.system }

/-- The trial with nothing written down. -/
def forget (t : Trial σ) : Trial σ := { t with system := t.system.forget }

/-- Ends an attempt: at the network, or refused. -/
def conclude (t : Trial σ) (attempt : Nat) (reaches : Bool) : Trial σ :=
  t.step (match reaches, t.network with
    | false, _ => .refuse attempt "refused"
    | true, .error cause => .refuse attempt cause
    | true, .ok () => .connect attempt)

/-- Lets an attempt begin. -/
def begin (t : Trial σ) (attempt : Nat) : Trial σ :=
  let fate := t.plan.headD t.later
  let t := { t with plan := t.plan.tail, begun := t.begun ++ [t.system.now] }
  match fate, t.kept with
  | .reach, _ => t.conclude attempt true
  | .refuse, _ => t.conclude attempt false
  | .hang, some reaches => { t with kept := none : Trial σ }.conclude attempt reaches
  | .hang, none => { t with hanging := t.hanging ++ [attempt] }

/-- Lets happen what can happen by itself, at most `fuel` steps. -/
def settle (t : Trial σ) : Nat → Trial σ
  | 0 => t
  | fuel + 1 =>
    let t := { t with system := t.system.settle fuel }
    match t.system.dials.find? (· ∉ t.hanging) with
    | some attempt => (t.begin attempt).settle fuel
    | none => t

/-- Releases the attempt that hangs, or keeps the release for the next one that would. -/
def release (t : Trial σ) (reaches : Bool) : Trial σ :=
  match t.hanging with
  | [] => { t with kept := some reaches }
  | attempt :: rest => { t with hanging := rest : Trial σ }.conclude attempt reaches

end Trial

end NetSession.Client
