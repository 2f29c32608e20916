import Mathlib.Data.List.TakeWhile
import Mathlib.Tactic.SplitIfs
import NetSession.Proofs.Record.HeaderBytes
import NetSession.Proofs.Record.Places

/-!
# The format that is read

What bytes are read as a record is spread over the reading of the header, its checks and the checks
of the fields. Here it is said in one place, by the bytes alone: how a record begins (`Begins`),
when four bytes behind the base header count as extended fields (`Extended`), where the extra block
is then (`block`), and when a field fits into it (`Part.Fits`). `parse_format` shows that exactly
these bytes are read, and which fault each other input is answered with: beyond a sound start, it is
always that of the first field that does not fit.
-/

namespace NetSession.Record

open Header

/-! ## The form of a header -/

/-- The two marker bytes are there. -/
def Marked (bytes : Bytes) : Prop := byteAt bytes 1 = 0x4c ∧ byteAt bytes 2 = 0xaf

/-- Bytes begin like a record: with a whole base header that has the marker bytes and an existing
version. -/
structure Begins (bytes : Bytes) : Prop where
  /-- The base header is whole. -/
  length_ge : 24 ≤ bytes.length
  /-- The marker bytes are there. -/
  marked : Marked bytes
  /-- The version exists. -/
  version : byteAt bytes 0 ≠ 0

/-- The four bytes behind the base header are a message length, a place of the extra block and flags
that fit the other bytes. -/
structure Extended (bytes : Bytes) : Prop where
  /-- The four bytes are there. -/
  length_ge : 28 ≤ bytes.length
  /-- The extra block is behind the base header. -/
  start_ge : 24 ≤ (byteAt bytes 26).toNat
  /-- The extra block is inside the record. -/
  start_le : (byteAt bytes 26).toNat ≤ bytes.length
  /-- No flag is set, or the version is a later one. -/
  flags : byteAt bytes 27 = 0 ∨ 1 < byteAt bytes 0
  /-- The message has a NUL behind it. -/
  terminated : bytes[(byteAt bytes 26).toNat + (byteAt bytes 23).toNat +
    ((byteAt bytes 24).toNat + 256 * (byteAt bytes 25).toNat)]? = some 0

/-- The message length is the value of its two bytes. -/
theorem toNat_msgLenAt {bytes : Bytes} (hlen : 26 ≤ bytes.length) :
    (msgLenAt bytes).toNat = (byteAt bytes 24).toNat + 256 * (byteAt bytes 25).toNat := by
  have hfirst : 24 < bytes.length := by omega
  have hsecond : 25 < bytes.length := by omega
  have htwo : (bytes.drop 24).take 2 = [byteAt bytes 24, byteAt bytes 25] := by
    have hbyte {i : Nat} (h : i < bytes.length) : byteAt bytes i = bytes[i] := by
      simp [byteAt, h]
    rw [hbyte hfirst, hbyte hsecond, List.drop_eq_getElem_cons hfirst,
      List.drop_eq_getElem_cons hsecond]
    rfl
  have hlow := (byteAt bytes 24).toNat_lt
  have hhigh := (byteAt bytes 25).toNat_lt
  rw [msgLenAt, htwo]
  show UInt16.toNat (Nat.toUInt16 (_ + 256 * (_ + 256 * 0))) = _
  rw [Nat.mul_zero, Nat.add_zero]
  exact UInt16.toNat_ofNat_of_lt' (show _ < 65536 by omega)

/-- The header is read in the extended form exactly if the four bytes fit. -/
theorem isExtended_iff {bytes : Bytes} : isExtended bytes = true ↔ Extended bytes := by
  rw [isExtended, describes]
  simp only [Bool.and_eq_true, Bool.or_eq_true, decide_eq_true_eq, beq_iff_eq]
  rw [headerSize, baseHeaderSize, currentVersion]
  constructor
  · rintro ⟨hlen, ⟨⟨hge, hle⟩, hflags⟩, hnul⟩
    rw [toNat_msgLenAt (by omega)] at hnul
    exact ⟨hlen, hge, hle, hflags.symm, hnul⟩
  · rintro ⟨hlen, hge, hle, hflags, hnul⟩
    rw [toNat_msgLenAt (by omega)]
    exact ⟨hlen, ⟨⟨hge, hle⟩, hflags.symm⟩, hnul⟩

instance (bytes : Bytes) : Decidable (Extended bytes) := decidable_of_iff _ isExtended_iff

/-- Where the extra block starts. -/
def blockStart (bytes : Bytes) : Nat := if Extended bytes then (byteAt bytes 26).toNat else 24

/-- The extra block. -/
def block (bytes : Bytes) : Bytes := bytes.drop (blockStart bytes)

/-- The header that is read says where the extra block starts. -/
theorem toNat_extraOffset_readFields (bytes : Bytes) :
    (readFields bytes).extraOffset.toNat = blockStart bytes := by
  rw [readFields, blockStart]
  by_cases h : Extended bytes
  · simp only [isExtended_iff.mpr h, h, if_true]
  · simp only [mt isExtended_iff.mp h, h, if_false]
    rfl

/-- The header that is read has a message length exactly in the extended form. -/
theorem msgLen_readFields (bytes : Bytes) :
    (readFields bytes).msgLen = if Extended bytes then some (msgLenAt bytes) else none := by
  rw [readFields]
  by_cases h : Extended bytes
  · simp only [isExtended_iff.mpr h, h, if_true]
  · simp only [mt isExtended_iff.mp h, h, if_false]
    rfl

/-- What lies behind the header that is read is the extra block. -/
theorem extra_view (bytes : Bytes) : (view bytes).extra = block bytes := by
  rw [view, toNat_extraOffset_readFields, block]

/-! ## The fields -/

/-- The fields of a record. -/
inductive Part where
  /-- The emitter's name. -/
  | name
  /-- The tags. -/
  | tags
  /-- The source file. -/
  | file
  /-- The message. -/
  | message
  deriving DecidableEq, Repr

namespace Part

/-- The fields in the order in which they are checked. -/
def all : List Part := [.name, .tags, .file, .message]

/-- Where a field starts in the extra block. -/
def offset (bytes : Bytes) : Part → Nat
  | .name => (byteAt bytes 20).toNat
  | .tags => (byteAt bytes 21).toNat
  | .file => (byteAt bytes 22).toNat
  | .message => (byteAt bytes 23).toNat

/-- The extra block from the start of a field on. -/
def tail (bytes : Bytes) (part : Part) : Bytes := (block bytes).drop (part.offset bytes)

/-- A field fits: it starts inside the extra block and there is a NUL from there on. The message of
the base form must have its first NUL at the end; that of the extended form is known to fit. -/
def Fits (bytes : Bytes) : Part → Prop
  | .message => Extended bytes ∨ message.offset bytes < (block bytes).length ∧
      ∃ text, 0 ∉ text ∧ message.tail bytes = text ++ [0]
  | part => part.offset bytes < (block bytes).length ∧ 0 ∈ part.tail bytes

/-- A field before the message fits if it starts inside the extra block and has a NUL behind it. -/
theorem fits_of_ne_message {bytes : Bytes} {part : Part} (hpart : part ≠ .message)
    (hin : part.offset bytes < (block bytes).length) (hnul : 0 ∈ part.tail bytes) :
    part.Fits bytes := by
  cases part with
  | message => exact absurd rfl hpart
  | _ => exact ⟨hin, hnul⟩

/-- The fault of a field that does not fit. -/
def fault (bytes : Bytes) (part : Part) : Fault :=
  if (block bytes).length ≤ part.offset bytes then .offset (part.offset bytes)
  else .unterminated (part.offset bytes)

/-- A field is the first one that does not fit. -/
def FirstMisfit (bytes : Bytes) (part : Part) : Prop :=
  ¬ part.Fits bytes ∧
    ∃ before after, all = before ++ part :: after ∧ ∀ earlier ∈ before, earlier.Fits bytes

/-- The bytes of a field. -/
def read (r : Record) : Part → Except Fault Bytes
  | .name => r.field r.header.nameOffset
  | .tags => r.field r.header.tagsOffset
  | .file => r.field r.header.fileOffset
  | .message => r.messageBytes

end Part

/-! ## Checking the fields -/

/-- Actions over a list fail with the fault of the first one that fails. -/
theorem mapM_eq_error_iff {α β : Type} {f : α → Except Fault β} {l : List α} {fault : Fault} :
    l.mapM f = .error fault ↔ ∃ before a after, l = before ++ a :: after ∧
      (∀ b ∈ before, ∃ x, f b = .ok x) ∧ f a = .error fault := by
  induction l with
  | nil => simp [pure, Except.pure]
  | cons first l ih =>
    rw [List.mapM_cons]
    constructor
    · intro h
      cases hfirst : f first with
      | error e =>
        rw [hfirst] at h
        have he : e = fault := Except.error.inj h
        exact ⟨[], first, l, rfl, by simp, he ▸ hfirst⟩
      | ok x =>
        -- The first action does not fail, so one of the others does.
        have hrest : l.mapM f = .error fault := by
          rw [hfirst] at h
          cases hl : l.mapM f with
          | error e => rw [hl] at h; exact h
          | ok xs => rw [hl] at h; cases h
        obtain ⟨before, a, after, rfl, hbefore, ha⟩ := ih.mp hrest
        refine ⟨first :: before, a, after, rfl, ?_, ha⟩
        exact List.forall_mem_cons.mpr ⟨⟨x, hfirst⟩, hbefore⟩
    · rintro ⟨before, a, after, hsplit, hbefore, ha⟩
      cases before with
      | nil =>
        obtain ⟨rfl, -⟩ := List.cons.inj hsplit
        rw [ha]
        rfl
      | cons b before =>
        obtain ⟨rfl, rfl⟩ := List.cons.inj hsplit
        obtain ⟨⟨x, hfirst⟩, hbefore⟩ := List.forall_mem_cons.mp hbefore
        rw [hfirst, ih.mpr ⟨before, a, after, rfl, hbefore, ha⟩]
        rfl

/-- Checking the fields is reading them in their order. -/
theorem checkFields_eq (r : Record) :
    r.checkFields = (Part.all.mapM (Part.read r)).map fun _ => r := by
  simp only [checkFields, Part.all, List.mapM_cons, List.mapM_nil, Part.read]
  cases r.field r.header.nameOffset <;> cases r.field r.header.tagsOffset <;>
    cases r.field r.header.fileOffset <;> cases r.messageBytes <;> rfl

/-- The fields are read exactly if each of them is. -/
theorem checkFields_isOk_iff {r s : Record} :
    r.checkFields = .ok s ↔ r = s ∧ ∀ part : Part, ∃ text, part.read r = .ok text := by
  rw [checkFields_eq_ok_iff]
  constructor
  · rintro ⟨rfl, hname, htags, hfile, hmessage⟩
    refine ⟨rfl, fun part => ?_⟩
    cases part with
    | name => exact hname
    | tags => exact htags
    | file => exact hfile
    | message => exact hmessage
  · rintro ⟨rfl, h⟩
    exact ⟨rfl, h .name, h .tags, h .file, h .message⟩

/-! ## Reading the fields -/

variable {bytes : Bytes}

/-- A text field can be read if it has a NUL behind it, and is then what stands before the NUL. -/
theorem field_view {offset : UInt8} (hin : offset.toNat < (block bytes).length)
    (hnul : 0 ∈ (block bytes).drop offset.toNat) :
    (view bytes).field offset = .ok (((block bytes).drop offset.toNat).takeWhile (· != 0)) := by
  rw [Record.field, extra_view, if_neg (Nat.not_le.mpr hin), if_pos hnul]

/-- A text field that cannot be read starts outside the extra block, or has no NUL behind it. -/
theorem field_view_fault {offset : UInt8}
    (h : ¬ (offset.toNat < (block bytes).length ∧ 0 ∈ (block bytes).drop offset.toNat)) :
    (view bytes).field offset = .error (if (block bytes).length ≤ offset.toNat then
      .offset offset.toNat else .unterminated offset.toNat) := by
  rw [Record.field, extra_view]
  split_ifs with hout hnul
  · rfl
  · exact absurd ⟨Nat.lt_of_not_le hout, hnul⟩ h
  · rfl

/-- What stands before the first NUL has none. -/
theorem zero_notMem_takeWhile (text : Bytes) : 0 ∉ text.takeWhile (· != 0) := fun h => by
  simpa using List.mem_takeWhile_imp h

/-- Bytes end with their first NUL exactly if that is the only byte behind what stands before
it. -/
theorem ends_with_nul_iff {tail : Bytes} : (∃ text, 0 ∉ text ∧ tail = text ++ [0]) ↔
    0 ∈ tail ∧ (tail.takeWhile (· != 0)).length + 1 = tail.length := by
  constructor
  · rintro ⟨text, hclean, rfl⟩
    have hkept : ∀ x ∈ text, (x != 0) = true := fun x hx => by
      simpa using fun e : x = 0 => hclean (e ▸ hx)
    rw [List.takeWhile_append_of_pos hkept, List.takeWhile_cons_of_neg (by simp), List.append_nil]
    simp
  · rintro ⟨hmem, hlast⟩
    refine ⟨_, zero_notMem_takeWhile tail, ?_⟩
    obtain ⟨rest, hrest⟩ := List.takeWhile_prefix (l := tail) (· != 0)
    have hone : rest.length = 1 := by
      have := congrArg List.length hrest
      rw [List.length_append] at this
      omega
    obtain ⟨b, rfl⟩ := List.length_eq_one_iff.mp hone
    -- The byte behind the text is where the first NUL is.
    have hnul : (tail.takeWhile (· != 0) ++ [b])[(tail.takeWhile (· != 0)).length]? = some 0 := by
      rw [hrest]
      exact getElem?_length_takeWhile (zero_mem_iff.mp hmem)
    rw [List.getElem?_append_right (Nat.le_refl _), Nat.sub_self] at hnul
    exact Option.some.inj hnul ▸ hrest.symm

/-- In the extended form the message can be read. -/
theorem messageBytes_view_extended (h : Extended bytes) :
    ∃ message, (view bytes).messageBytes = .ok message := by
  have hlen : (view bytes).header.msgLen = some (msgLenAt bytes) := by
    rw [view, msgLen_readFields, if_pos h]
  have hvalue := @toNat_msgLenAt bytes (by have := h.length_ge; omega)
  have hnul : (block bytes)[(byteAt bytes 23).toNat + (msgLenAt bytes).toNat]? = some 0 := by
    rw [block, blockStart, if_pos h, List.getElem?_drop, ← Nat.add_assoc, hvalue]
    exact h.terminated
  have hin : ¬ (block bytes).length ≤ (byteAt bytes 23).toNat + (msgLenAt bytes).toNat := by
    intro hle
    rw [List.getElem?_eq_none hle] at hnul
    cases hnul
  refine ⟨((block bytes).drop (byteAt bytes 23).toNat).take (msgLenAt bytes).toNat, ?_⟩
  rw [Record.messageBytes, hlen, extra_view]
  show (if (block bytes).length ≤ (byteAt bytes 23).toNat + (msgLenAt bytes).toNat then _
    else if (block bytes)[(byteAt bytes 23).toNat + (msgLenAt bytes).toNat]? ≠ some 0 then _
    else _) = _
  rw [if_neg hin, if_neg (not_not.mpr hnul)]
  rfl

/-- In the base form the message is a text field, and it must end the record. -/
theorem messageBytes_view_base (h : ¬ Extended bytes)
    (hin : Part.message.offset bytes < (block bytes).length)
    (hnul : 0 ∈ Part.message.tail bytes) :
    (view bytes).messageBytes =
      if ((Part.message.tail bytes).takeWhile (· != 0)).length + 1 =
          (Part.message.tail bytes).length then
        .ok ((Part.message.tail bytes).takeWhile (· != 0))
      else .error (.unterminated (Part.message.offset bytes)) := by
  have hlen : (view bytes).header.msgLen = none := by
    rw [view, msgLen_readFields, if_neg h]
  have hoffset : (view bytes).header.msgOffset = byteAt bytes 23 := rfl
  rw [Record.messageBytes, hlen, hoffset, extra_view]
  dsimp only
  rw [field_view hin hnul]
  refine if_congr ?_ rfl rfl
  rw [Part.tail, List.length_drop]
  rw [Part.offset] at hin ⊢
  omega

namespace Part

variable {part : Part}

/-- A field that fits can be read; only the message of the extended form may have NULs. -/
theorem exists_read_of_fits (h : part.Fits bytes) :
    ∃ text, part.read (view bytes) = .ok text ∧ (0 ∈ text → part = .message ∧ Extended bytes) := by
  have hfield {offset : UInt8} (h : offset.toNat < (block bytes).length ∧
      0 ∈ (block bytes).drop offset.toNat) :
      ∃ text, (view bytes).field offset = .ok text ∧
        (0 ∈ text → part = .message ∧ Extended bytes) :=
    ⟨_, field_view h.1 h.2, fun hmem => absurd hmem (zero_notMem_takeWhile _)⟩
  cases part with
  | name => exact hfield h
  | tags => exact hfield h
  | file => exact hfield h
  | message =>
    by_cases hext : Extended bytes
    · obtain ⟨message, hmessage⟩ := messageBytes_view_extended hext
      exact ⟨message, hmessage, fun _ => ⟨rfl, hext⟩⟩
    · obtain ⟨hin, hends⟩ := h.resolve_left hext
      obtain ⟨hnul, hlast⟩ := ends_with_nul_iff.mp hends
      have hread := messageBytes_view_base hext hin hnul
      rw [if_pos hlast] at hread
      exact ⟨_, hread, fun hmem => absurd hmem (zero_notMem_takeWhile _)⟩

/-- A field that does not fit cannot be read, and the fault says where it starts. -/
theorem read_of_not_fits (h : ¬ part.Fits bytes) :
    part.read (view bytes) = .error (part.fault bytes) := by
  cases part with
  | name => exact field_view_fault h
  | tags => exact field_view_fault h
  | file => exact field_view_fault h
  | message =>
    obtain ⟨hext, hbase⟩ := not_or.mp h
    by_cases hstarts : message.offset bytes < (block bytes).length ∧ 0 ∈ message.tail bytes
    · -- There is a NUL, but not at the end.
      obtain ⟨hin, hnul⟩ := hstarts
      have hlast := fun hlast => hbase ⟨hin, ends_with_nul_iff.mpr ⟨hnul, hlast⟩⟩
      have hread := messageBytes_view_base hext hin hnul
      rw [if_neg hlast] at hread
      rw [fault, if_neg (Nat.not_le.mpr hin)]
      exact hread
    · have hlen : (view bytes).header.msgLen = none := by
        rw [view, msgLen_readFields, if_neg hext]
      have hfield := field_view_fault hstarts
      rw [read, Record.messageBytes, hlen]
      dsimp only
      rw [show (view bytes).header.msgOffset = byteAt bytes 23 from rfl, hfield]
      rfl

/-- A field can be read exactly if it fits. -/
theorem read_isOk_iff : (∃ text, part.read (view bytes) = .ok text) ↔ part.Fits bytes := by
  constructor
  · rintro ⟨text, htext⟩
    by_contra h
    rw [read_of_not_fits h] at htext
    cases htext
  · intro h
    obtain ⟨text, htext, -⟩ := exists_read_of_fits h
    exact ⟨text, htext⟩

/-- A field fails with a fault exactly if it does not fit and the fault is its own. -/
theorem read_eq_error_iff {e : Fault} :
    part.read (view bytes) = .error e ↔ ¬ part.Fits bytes ∧ e = part.fault bytes := by
  constructor
  · intro he
    have hmisfit : ¬ part.Fits bytes := fun h => by
      obtain ⟨text, htext⟩ := read_isOk_iff.mpr h
      rw [htext] at he
      cases he
    rw [read_of_not_fits hmisfit] at he
    exact ⟨hmisfit, (Except.error.inj he).symm⟩
  · rintro ⟨hmisfit, rfl⟩
    exact read_of_not_fits hmisfit

/-- The fault of a field says whether it starts inside the extra block. -/
theorem fault_eq_iff {e : Fault} : part.fault bytes = e ↔
    ((block bytes).length ≤ part.offset bytes ∧ e = .offset (part.offset bytes)) ∨
      (part.offset bytes < (block bytes).length ∧ e = .unterminated (part.offset bytes)) := by
  rw [fault, ← Nat.not_le]
  split_ifs with h
  · simp only [h, true_and, not_true, false_and, or_false, eq_comm]
  · simp only [h, false_and, not_false_iff, true_and, false_or, eq_comm]

end Part

/-! ## Reading records -/

/-- Behind a sound start, bytes are read exactly if all fields fit. -/
theorem parse_begins_eq_ok_iff (h : Begins bytes) {r : Record} :
    parse bytes = .ok r ↔ (∀ part : Part, part.Fits bytes) ∧ r = view bytes := by
  rw [parse_eq h.length_ge h.marked h.version, checkFields_isOk_iff, and_comm, eq_comm]
  simp only [Part.read_isOk_iff]

/-- Behind a sound start, the fault is that of the first field that does not fit. -/
theorem parse_begins_eq_error_iff (h : Begins bytes) {e : Fault} :
    parse bytes = .error e ↔ ∃ part : Part, part.FirstMisfit bytes ∧ part.fault bytes = e := by
  have hmap : (view bytes).checkFields = .error e ↔
      Part.all.mapM (Part.read (view bytes)) = .error e := by
    rw [checkFields_eq]
    cases Part.all.mapM (Part.read (view bytes)) <;> simp [Except.map]
  rw [parse_eq h.length_ge h.marked h.version, hmap, mapM_eq_error_iff]
  constructor
  · rintro ⟨before, part, after, hall, hbefore, hpart⟩
    obtain ⟨hmisfit, rfl⟩ := Part.read_eq_error_iff.mp hpart
    exact ⟨part, ⟨hmisfit, before, after, hall,
      fun earlier hmem => Part.read_isOk_iff.mp (hbefore earlier hmem)⟩, rfl⟩
  · rintro ⟨part, ⟨hmisfit, before, after, hall, hbefore⟩, rfl⟩
    exact ⟨before, part, after, hall,
      fun earlier hmem => Part.read_isOk_iff.mpr (hbefore earlier hmem),
      Part.read_of_not_fits hmisfit⟩

/-- Too few bytes are no header. -/
theorem parse_short (h : bytes.length < 24) : parse bytes = .error .incomplete := by
  have hdecode : decode bytes = .error .incomplete := by
    rw [decode, baseHeaderSize, if_pos h]
  rw [parse, hdecode]
  rfl

/-- Without the marker bytes there is no header. -/
theorem parse_unmarked (hlen : 24 ≤ bytes.length) (h : ¬ Marked bytes) :
    parse bytes = .error (.badMagic (byteAt bytes 1) (byteAt bytes 2)) := by
  have hdecode : decode bytes = .error (.badMagic (byteAt bytes 1) (byteAt bytes 2)) := by
    rw [decode, baseHeaderSize, magic1, magic2, if_neg (Nat.not_lt.mpr hlen),
      if_pos (not_and_or.mp h)]
  rw [parse, hdecode]
  rfl

/-- There is no version zero. -/
theorem parse_unversioned (hlen : 24 ≤ bytes.length) (hmarked : Marked bytes)
    (h : byteAt bytes 0 = 0) : parse bytes = .error (.badVersion 0) := by
  have hdecode : decode bytes = .error (.badVersion 0) := by
    rw [decode, baseHeaderSize, magic1, magic2, if_neg (Nat.not_lt.mpr hlen),
      if_neg (fun hne => not_and_or.mpr hne hmarked), if_pos h]
  rw [parse, hdecode]
  rfl

/-- What is read of bytes: their extra block, in the form that they have, and all fields, without
NULs but in a message of known length. -/
structure WellRead (bytes : Bytes) (r : Record) : Prop where
  /-- The extra block is read from where it starts. -/
  extra : r.extra = block bytes
  /-- The header says where the extra block starts. -/
  start : r.header.extraOffset.toNat = blockStart bytes
  /-- The message length is there in the extended form only. -/
  msgLen : r.header.msgLen = if Extended bytes then some (msgLenAt bytes) else none
  /-- Each field can be read. -/
  parts : ∀ part : Part, ∃ text, part.read r = .ok text ∧
    (0 ∈ text → part = .message ∧ Extended bytes)

/-- Each input that is not read has its fault. -/
theorem parse_eq_error_iff {e : Fault} : parse bytes = .error e ↔
    (bytes.length < 24 ∧ e = .incomplete) ∨
    (24 ≤ bytes.length ∧ ¬ Marked bytes ∧ e = .badMagic (byteAt bytes 1) (byteAt bytes 2)) ∨
    (24 ≤ bytes.length ∧ Marked bytes ∧ byteAt bytes 0 = 0 ∧ e = .badVersion 0) ∨
    (Begins bytes ∧ ∃ part : Part, part.FirstMisfit bytes ∧ part.fault bytes = e) := by
  by_cases hlen : bytes.length < 24
  · have hbegins : ¬ Begins bytes := fun h => absurd h.length_ge (Nat.not_le.mpr hlen)
    simp only [parse_short hlen, hlen, Nat.not_le.mpr hlen, hbegins, true_and, false_and, or_false,
      Except.error.injEq, eq_comm]
  rw [Nat.not_lt] at hlen
  by_cases hmarked : Marked bytes
  · by_cases hversion : byteAt bytes 0 = 0
    · have hbegins : ¬ Begins bytes := fun h => absurd hversion h.version
      simp only [parse_unversioned hlen hmarked hversion, hlen, Nat.not_lt.mpr hlen, hmarked,
        hversion, hbegins, true_and, false_and, or_false, false_or, not_true, Except.error.injEq,
        eq_comm]
    · have hbegins : Begins bytes := ⟨hlen, hmarked, hversion⟩
      simp only [parse_begins_eq_error_iff hbegins, Nat.not_lt.mpr hlen, hmarked, hversion, hbegins,
        true_and, false_and, and_false, false_or, not_true]
  · have hbegins : ¬ Begins bytes := fun h => absurd h.marked hmarked
    simp only [parse_unmarked hlen hmarked, hlen, Nat.not_lt.mpr hlen, hmarked, hbegins, true_and,
      false_and, and_false, or_false, false_or, not_false_iff, Except.error.injEq, eq_comm]

/-- Bytes that are read begin like a record and all their fields fit. -/
theorem parse_eq_ok_iff {r : Record} :
    parse bytes = .ok r ↔ Begins bytes ∧ (∀ part : Part, part.Fits bytes) ∧ r = view bytes := by
  by_cases hbegins : Begins bytes
  · simp only [parse_begins_eq_ok_iff hbegins, hbegins, true_and]
  · simp only [hbegins, false_and, iff_false]
    intro hr
    have hnone (e : Fault) : parse bytes ≠ .error e := by
      rw [hr]
      exact nofun
    -- Whatever was wrong at the beginning would be the fault.
    have hlen : 24 ≤ bytes.length := Nat.le_of_not_lt fun h => hnone _ (parse_short h)
    have hmarked : Marked bytes := not_not.mp fun h => hnone _ (parse_unmarked hlen h)
    exact hbegins ⟨hlen, hmarked, fun h => hnone _ (parse_unversioned hlen hmarked h)⟩

/-- What is read has all fields of the bytes. -/
theorem wellRead_of_parse {r : Record} (hr : parse bytes = .ok r) : WellRead bytes r := by
  obtain ⟨-, hfits, rfl⟩ := parse_eq_ok_iff.mp hr
  exact ⟨extra_view bytes, toNat_extraOffset_readFields bytes, msgLen_readFields bytes,
    fun part => Part.exists_read_of_fits (hfits part)⟩

/-- Reading records accepts exactly the format, and answers everything else with one fault: that of
the beginning, or that of the first field that does not fit. -/
theorem parse_format (bytes : Bytes) :
    (parse bytes = .error .incomplete ↔ bytes.length < 24) ∧
    (∀ first second, parse bytes = .error (.badMagic first second) ↔
      24 ≤ bytes.length ∧ ¬ Marked bytes ∧ first = byteAt bytes 1 ∧ second = byteAt bytes 2) ∧
    (∀ version, parse bytes = .error (.badVersion version) ↔
      24 ≤ bytes.length ∧ Marked bytes ∧ byteAt bytes 0 = 0 ∧ version = 0) ∧
    (∀ r, parse bytes = .ok r ↔
      Begins bytes ∧ (∀ part : Part, part.Fits bytes) ∧ r = view bytes) ∧
    (∀ i, parse bytes = .error (.offset i) ↔ Begins bytes ∧ ∃ part : Part,
      part.FirstMisfit bytes ∧ (block bytes).length ≤ part.offset bytes ∧
        i = part.offset bytes) ∧
    (∀ i, parse bytes = .error (.unterminated i) ↔ Begins bytes ∧ ∃ part : Part,
      part.FirstMisfit bytes ∧ part.offset bytes < (block bytes).length ∧
        i = part.offset bytes) ∧
    (parse bytes ≠ .error .reserved ∧ parse bytes ≠ .error .notText ∧
      (∀ needed available, parse bytes ≠ .error (.bufferTooSmall needed available)) ∧
      ∀ length, parse bytes ≠ .error (.nameTooLong length)) ∧
    ∀ r, parse bytes = .ok r → WellRead bytes r := by
  refine ⟨?_, ?_, ?_, fun r => parse_eq_ok_iff, ?_, ?_, ⟨?_, ?_, ?_, ?_⟩,
    fun r => wellRead_of_parse⟩ <;>
    simp [parse_eq_error_iff, Part.fault_eq_iff]

end NetSession.Record
