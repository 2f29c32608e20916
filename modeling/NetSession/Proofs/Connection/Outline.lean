import NetSession.Proofs.Connection.Pool

/-!
# Outlines of connections

Whoever has a reference to a connection can queue payloads on it and write into its extension block.
`Connection.outline` is a connection without these two, and `Pool.outline` the outline of the one
behind a reference. Sending, asking for a close and writing leave all outlines alone, and the close
of a connection begins with a change of its own outline only.
-/

namespace NetSession

namespace Connection

/-- A connection without the payloads that wait on it and without its extension block. -/
def outline (c : Connection) : Connection :=
  { c with extra := [], link := { c.link with queue := none } }

variable {c c' : Connection}

/-- A connection that was sent on has kept its outline, and had not begun to close. -/
theorem outline_of_send {data : Bytes} (h : c.send data = .ok c') :
    c'.outline = c.outline ∧ c.closing = false := by
  unfold send at h
  split at h
  · exact nomatch h
  · next hclosing =>
    split at h
    · next link hpush =>
      obtain rfl := Except.ok.inj h
      obtain ⟨waiting, -, rfl⟩ := Option.map_eq_some_iff.mp hpush
      exact ⟨rfl, Bool.eq_false_iff.mpr hclosing⟩
    · exact nomatch h

end Connection

namespace Pool

variable (pool : Pool) (ref ref' : Ref)

/-- The outline of the connection behind a reference. -/
def outline : Option Connection := (pool.get? ref).map Connection.outline

/-- Whether there is a connection that has begun to close. -/
def isClosing : Bool := (pool.get? ref).any (·.closing)

/-- Whether there is a connection that has not begun to close. -/
def isOpen : Bool := (pool.get? ref).any (!·.closing)

/-- An outline shows whether a connection has begun to close. -/
theorem isClosing_eq : pool.isClosing ref = (pool.outline ref).any (·.closing) := by
  unfold isClosing outline
  cases pool.get? ref <;> rfl

/-- An outline shows whether a connection has not begun to close. -/
theorem isOpen_eq : pool.isOpen ref = (pool.outline ref).any (!·.closing) := by
  unfold isOpen outline
  cases pool.get? ref <;> rfl

variable {pool ref}

/-- A connection that has not begun to close is not one that has. -/
theorem isClosing_of_isOpen (h : pool.isOpen ref) : pool.isClosing ref = false := by
  unfold isOpen at h
  unfold isClosing
  cases hget : pool.get? ref with
  | none => rfl
  | some c =>
    rw [hget, Option.any_some, Bool.not_eq_true'] at h
    rw [Option.any_some, h]

/-- A connection that there is has begun to close, or has not. -/
theorem isOpen_eq_not (h : pool.outline ref ≠ none) : pool.isOpen ref = !pool.isClosing ref := by
  rw [isOpen_eq, isClosing_eq]
  obtain ⟨c, hc⟩ := Option.ne_none_iff_exists'.mp h
  rw [hc, Option.any_some, Option.any_some]

/-- What has an outline is there. -/
theorem outline_ne_none : pool.outline ref ≠ none ↔ pool.get? ref ≠ none := by
  unfold outline
  rw [Ne, Option.map_eq_none_iff]

/-- What changes connections changes not which there are. -/
theorem get?_modify_ne_none {f : Connection → Connection} (pool : Pool) (ref ref' : Ref) :
    (pool.modify ref f).get? ref' ≠ none ↔ pool.get? ref' ≠ none := by
  rw [get?_modify]
  split
  · next heq => rw [heq, Ne, Option.map_eq_none_iff]
  · rfl

/-- What changes no mark changes not which connections have begun to close. -/
theorem isClosing_modify {f : Connection → Connection} (pool : Pool) (ref ref' : Ref)
    (hf : ∀ c, (f c).closing = c.closing) :
    (pool.modify ref f).isClosing ref' = pool.isClosing ref' := by
  unfold isClosing
  rw [get?_modify]
  split
  · next heq =>
    rw [heq, Option.any_map]
    congr 1
    funext c
    exact hf c
  · rfl

/-- What is put behind a reference has its own outline there. -/
theorem outline_set (pool : Pool) (ref : Ref) (c : Connection) (ref' : Ref) :
    (pool.set ref c).outline ref' = if ref' = ref then some c.outline else pool.outline ref' := by
  unfold outline
  rw [get?_set]
  split <;> rfl

/-- What changes the outline of every connection alike changes the one behind the reference. -/
theorem outline_modify {f g : Connection → Connection} (pool : Pool) (ref : Ref)
    (hf : ∀ c, (f c).outline = g c.outline) (ref' : Ref) :
    (pool.modify ref f).outline ref' =
      if ref' = ref then (pool.outline ref).map g else pool.outline ref' := by
  unfold outline
  rw [get?_modify]
  split
  · cases pool.get? ref with
    | none => rfl
    | some c => exact congrArg some (hf c)
  · rfl

/-- What leaves the outline of a connection alone leaves all outlines alone. -/
theorem outline_modify_of_eq {f : Connection → Connection} (pool : Pool) (ref : Ref)
    (hf : ∀ c, (f c).outline = c.outline) (ref' : Ref) :
    (pool.modify ref f).outline ref' = pool.outline ref' := by
  rw [outline_modify (g := id) pool ref hf, Option.map_id_apply]
  split
  · next heq => rw [heq]
  · rfl

/-- To send leaves all outlines alone. -/
theorem outline_send (pool : Pool) (ref : Ref) (data : Bytes) (ref' : Ref) :
    (pool.send ref data).2.outline ref' = pool.outline ref' := by
  unfold send
  cases hget : pool.get? ref with
  | none => rfl
  | some c =>
    cases hsend : c.send data with
    | error => simp only [hsend]
    | ok c' =>
      simp only [hsend]
      rw [outline_set, (Connection.outline_of_send hsend).1]
      split
      · next heq => rw [heq, outline, hget]; rfl
      · rfl

/-- Nothing can be sent on a connection that has begun to close. -/
theorem send_of_isClosing (h : pool.isClosing ref) (data : Bytes) :
    pool.send ref data = (.error .connection, pool) := by
  unfold isClosing at h
  obtain ⟨c, hget, hclosing⟩ := (Option.any_eq_true _ _).mp h
  simp only [send, hget, Connection.send, hclosing, if_true]

/-- To ask for a close leaves all outlines alone. -/
theorem outline_askClose (pool : Pool) (ref ref' : Ref) :
    (pool.askClose ref).2.outline ref' = pool.outline ref' :=
  congrArg (Option.map Connection.outline) (get?_askClose pool ref ref')

/-- A close begins for the first time if the connection had not begun to close. -/
theorem beginClose_fst (pool : Pool) (ref : Ref) : (pool.beginClose ref).1 = pool.isOpen ref := by
  unfold beginClose isOpen
  cases pool.get? ref <;> rfl

/-- The close of a connection begins with its mark. -/
theorem outline_beginClose (pool : Pool) (ref ref' : Ref) :
    (pool.beginClose ref).2.outline ref' =
      if ref' = ref then (pool.outline ref).map fun c => { c with closing := true }
      else pool.outline ref' := by
  cases hget : pool.get? ref with
  | none =>
    simp only [beginClose, hget]
    split
    · next heq => rw [heq, outline, hget]; rfl
    · rfl
  | some c =>
    have hold : pool.outline ref = some c.outline := by rw [outline, hget]; rfl
    simp only [beginClose, hget]
    rw [outline_set, hold]
    rfl

end Pool

end NetSession
