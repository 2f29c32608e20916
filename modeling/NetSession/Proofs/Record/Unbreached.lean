import NetSession.Proofs.Record.InPlace
import NetSession.Proofs.Record.ShortPath
import NetSession.Record.Guarded

/-!
# The guards find no fault

No step of `Guarded.write` ends in a breach, whatever the buffer, the header and the fields are:
`Guarded.write_unbreached`. So `write` takes nothing for granted in vain.

Each guarded step has a lemma that says when its guard is content, and that it then does what the
step without a guard does. Two of them carry the rest. The walk back through the bytes of a path
stops at the separator at which the walk through its characters stops, hence between characters
(`separatorBefore_encode`). And where a text can have its terminator at an index, the next one can
have it at any later index of the block (`Writer.Takes.next`), so that last indices which ascend
leave room for every field before the message (`fill_eq`): the name may be of any length.
-/

namespace NetSession.Record

namespace Guarded

open NetSession.Path (afterSeparatorFromEnd isSeparator)

/-! ## Single steps -/

/-- A step without a breach goes on with what it gave. -/
theorem ok_bind {α β : Type} (a : α) (f : α → Except Breach β) : (Except.ok a >>= f) = f a := rfl

theorem sub_eq {number subtrahend : Nat} (h : subtrahend ≤ number) :
    sub number subtrahend = .ok (number - subtrahend) := if_pos h

theorem get_eq {bytes : Bytes} {place : Nat} (h : place < bytes.length) :
    get bytes place = .ok bytes[place] := by
  rw [get, List.getElem?_eq_getElem h]

theorem set_eq {bytes : Bytes} {place : Nat} (h : place < bytes.length) (b : UInt8) :
    set bytes place b = .ok (bytes.set place b) := if_pos h

theorem slice_eq {bytes : Bytes} {start stop : Nat} (h : start ≤ stop) (h' : stop ≤ bytes.length) :
    slice bytes start stop = .ok ((bytes.take stop).drop start) := if_pos ⟨h, h'⟩

/-- Bytes are copied over as many others. -/
theorem copy_eq {bytes data : Bytes} {start : Nat} (h : start + data.length ≤ bytes.length) :
    copy bytes start (start + data.length) data = .ok (overlay start data bytes) := by
  have hlen : ((bytes.take (start + data.length)).drop start).length = data.length := by
    rw [List.length_drop, List.length_take_of_le h, Nat.add_sub_cancel_left]
  rw [copy, slice_eq (Nat.le_add_right _ _) h, ok_bind, if_pos hlen]

theorem toByte_eq {number : Nat} (h : number < 256) : toByte number = .ok number.toUInt8 := if_pos h

theorem toShort_eq {number : Nat} (h : number < 65536) : toShort number = .ok number.toUInt16 :=
  if_pos h

/-! ## Paths -/

/-- The byte behind the bytes before it. -/
theorem getElem?_append_cons (before after : Bytes) (b : UInt8) :
    (before ++ b :: after)[before.length]? = some b := by
  rw [List.getElem?_append_right (Nat.le_refl _), Nat.sub_self, List.getElem?_cons_zero]

/-- A place between two texts is no place inside a character. -/
theorem isBoundary_append (before after : List Char) :
    isBoundary (Utf8.encode before ++ Utf8.encode after) (Utf8.encode before).length = true := by
  cases after with
  | nil => simp [isBoundary]
  | cons c after =>
    obtain ⟨b, tail, hc, hb, -⟩ := Utf8.exists_encodeChar c
    have hbyte : (Utf8.encode before ++ Utf8.encode (c :: after))[(Utf8.encode before).length]? =
        some b := by
      rw [Utf8.encode_cons, hc]
      exact getElem?_append_cons _ _ b
    have hlead : b.toNat < 0x80 ∨ 0xC0 ≤ b.toNat := hb.imp_right And.left
    rw [isBoundary, hbyte, Option.any_some]
    simp [hlead]

/-- A byte separates by its number. -/
theorem isSeparatorByte_iff {b : UInt8} :
    isSeparatorByte b = true ↔ b.toNat = 0x2F ∨ b.toNat = 0x5C := by
  rw [isSeparatorByte, Bool.or_eq_true, beq_iff_eq, beq_iff_eq, ← UInt8.toNat_inj,
    ← UInt8.toNat_inj]
  rfl

/-- A character separates by its number. -/
theorem isSeparator_iff {c : Char} : isSeparator c = true ↔ c.toNat = 0x2F ∨ c.toNat = 0x5C := by
  rw [isSeparator, Bool.or_eq_true, beq_iff_eq, beq_iff_eq, ← Char.toNat_inj, ← Char.toNat_inj]
  rfl

/-- A separator is one byte, which separates as well. -/
theorem encodeChar_of_isSeparator {c : Char} (hc : isSeparator c = true) :
    ∃ b, Utf8.encodeChar c = [b] ∧ isSeparatorByte b = true := by
  rw [isSeparator_iff] at hc
  refine ⟨_, Utf8.encodeChar_of_lt (by omega), ?_⟩
  rw [isSeparatorByte_iff, Utf8.toNat_byte (by omega)]
  exact hc

/-- No byte of another character separates. -/
theorem not_isSeparatorByte {c : Char} (hc : ¬ isSeparator c = true) {x : UInt8}
    (hx : x ∈ Utf8.encodeChar c) : ¬ isSeparatorByte x = true := by
  rw [isSeparator_iff] at hc
  rw [isSeparatorByte_iff]
  rcases Nat.lt_or_ge c.toNat 0x80 with hlt | hge
  · rw [Utf8.encodeChar_of_lt hlt, List.mem_singleton] at hx
    rwa [hx, Utf8.toNat_byte (by omega)]
  · have hle := Utf8.le_of_mem_encodeChar hge hx
    omega

/-- The walk back stops at a separator if it is to skip no more. -/
theorem separatorBefore_zero {b : UInt8} (hb : isSeparatorByte b = true) (before after : Bytes) :
    separatorBefore (before ++ b :: after) 0 (before.length + 1) = some before.length := by
  rw [separatorBefore, getElem?_append_cons, Option.any_some, if_pos hb]

/-- A separator that the walk back meets is one less to skip. -/
theorem separatorBefore_succ {b : UInt8} (hb : isSeparatorByte b = true) (before after : Bytes)
    (skip : Nat) : separatorBefore (before ++ b :: after) (skip + 1) (before.length + 1) =
      separatorBefore (before ++ b :: after) skip before.length := by
  rw [separatorBefore, getElem?_append_cons, Option.any_some, if_pos hb]

/-- The walk back passes a byte that does not separate. -/
theorem separatorBefore_of_not {b : UInt8} (hb : ¬ isSeparatorByte b = true)
    (before after : Bytes) (skip : Nat) :
    separatorBefore (before ++ b :: after) skip (before.length + 1) =
      separatorBefore (before ++ b :: after) skip before.length := by
  cases skip with
  | zero => rw [separatorBefore, getElem?_append_cons, Option.any_some, if_neg hb]
  | succ skip => rw [separatorBefore, getElem?_append_cons, Option.any_some, if_neg hb]

/-- The walk back passes bytes that do not separate. -/
theorem separatorBefore_append {run : Bytes} (hrun : ∀ x ∈ run, ¬ isSeparatorByte x = true)
    (before after : Bytes) (skip : Nat) :
    separatorBefore (before ++ (run ++ after)) skip (before ++ run).length =
      separatorBefore (before ++ (run ++ after)) skip before.length := by
  induction run generalizing before with
  | nil => rw [List.append_nil]
  | cons x run ih =>
    obtain ⟨hx, hrun⟩ := List.forall_mem_cons.mp hrun
    have hbytes : before ++ (x :: run ++ after) = before ++ [x] ++ (run ++ after) := by simp
    have hplace : before ++ x :: run = before ++ [x] ++ run := by simp
    calc separatorBefore (before ++ (x :: run ++ after)) skip (before ++ x :: run).length
      _ = separatorBefore (before ++ [x] ++ (run ++ after)) skip (before ++ [x]).length := by
          rw [hbytes, hplace, ih hrun]
      _ = separatorBefore (before ++ x :: (run ++ after)) skip (before.length + 1) := by
          rw [← hbytes, List.length_append, List.length_singleton, List.cons_append]
      _ = separatorBefore (before ++ (x :: run ++ after)) skip before.length :=
          separatorBefore_of_not hx before (run ++ after) skip

/-- On the bytes of a path, the walk back comes to the separator that the walk over its characters
comes to. -/
theorem separatorBefore_encode (skip : Nat) (before tail : List Char) :
    (afterSeparatorFromEnd skip before tail = none ∧
      separatorBefore (Utf8.encode (before.reverse ++ tail)) skip
        (Utf8.encode before.reverse).length = none) ∨
    ∃ front c kept, before.reverse ++ tail = front ++ c :: kept ∧ isSeparator c = true ∧
      afterSeparatorFromEnd skip before tail = some kept ∧
      separatorBefore (Utf8.encode (before.reverse ++ tail)) skip
        (Utf8.encode before.reverse).length = some (Utf8.encode front).length := by
  -- One character at a time: a separator is one byte, and the bytes of any other one are passed.
  induction before generalizing skip tail with
  | nil =>
    left
    constructor
    · rfl
    · cases skip <;> rfl
  | cons c before ih =>
    have hsplit : (c :: before).reverse ++ tail = before.reverse ++ c :: tail := by
      rw [List.reverse_cons, List.append_assoc, List.singleton_append]
    have hbytes : Utf8.encode (before.reverse ++ c :: tail) =
        Utf8.encode before.reverse ++ (Utf8.encodeChar c ++ Utf8.encode tail) := by
      rw [Utf8.encode_append, Utf8.encode_cons]
    have hplace : Utf8.encode (c :: before).reverse =
        Utf8.encode before.reverse ++ Utf8.encodeChar c := by
      rw [List.reverse_cons, Utf8.encode_append, Utf8.encode_cons, Utf8.encode_nil,
        List.append_nil]
    rw [hsplit, hplace]
    by_cases hc : isSeparator c = true
    · obtain ⟨b, hb, hsep⟩ := encodeChar_of_isSeparator hc
      rw [hb, List.singleton_append] at hbytes
      rw [hb, List.length_append, List.length_singleton]
      unfold afterSeparatorFromEnd
      rw [if_pos hc]
      cases skip with
      | zero =>
        rw [hbytes, separatorBefore_zero hsep]
        exact Or.inr ⟨before.reverse, c, tail, rfl, hc, rfl, rfl⟩
      | succ skip =>
        rw [hbytes, separatorBefore_succ hsep, ← hbytes]
        exact ih skip (c :: tail)
    · have hpass := separatorBefore_append (fun x hx => not_isSeparatorByte hc hx)
        (Utf8.encode before.reverse) (Utf8.encode tail) skip
      rw [← hbytes] at hpass
      rw [hpass]
      unfold afterSeparatorFromEnd
      rw [if_neg hc]
      exact ih skip (c :: tail)

/-- The cut of a path is between characters, and leaves the shortened path. -/
theorem shorten_eq (path : List Char) :
    shorten path = .ok (Utf8.encode (Path.shorten path)) := by
  have hwalk := separatorBefore_encode 2 path.reverse []
  rw [List.reverse_reverse, List.append_nil] at hwalk
  obtain ⟨hnone, hbytes⟩ | ⟨front, c, kept, hpath, hc, hsome, hbytes⟩ := hwalk
  · rw [shorten, hbytes, Path.shorten, hnone]
    rfl
  · -- The cut is behind the separator, which is the last character before it.
    obtain ⟨b, hb, -⟩ := encodeChar_of_isSeparator hc
    have hfront : (Utf8.encode front).length + 1 = (Utf8.encode (front ++ [c])).length := by
      rw [Utf8.encode_append, Utf8.encode_cons, hb, Utf8.encode_nil, List.length_append,
        List.append_nil, List.length_singleton]
    have hencode : Utf8.encode path = Utf8.encode (front ++ [c]) ++ Utf8.encode kept := by
      rw [hpath, ← Utf8.encode_append, List.append_assoc, List.singleton_append]
    rw [shorten, hbytes, Path.shorten, hsome]
    dsimp only
    rw [textFrom, hfront, hencode, if_pos (isBoundary_append _ _), List.drop_left]
    rfl

/-! ## Fields -/

/-- The first NUL is inside the bytes. -/
theorem beforeNul_eq (bytes : Bytes) : beforeNul bytes = .ok (Record.beforeNul bytes) := by
  have htake : Record.beforeNul bytes = bytes.take (bytes.findIdx (· == 0)) := by
    rw [Record.beforeNul, List.takeWhile_eq_take_findIdx_not]
    simp [bne]
  rw [beforeNul]
  cases h : bytes.findIdx? (· == 0) with
  | none =>
    have hlen : bytes.findIdx (· == 0) = bytes.length :=
      List.findIdx?_eq_none_iff_findIdx_eq.mp h
    rw [htake, hlen, List.take_length]
  | some nul =>
    dsimp only
    obtain ⟨hlt, hnul⟩ := List.findIdx?_eq_some_iff_findIdx_eq.mp h
    rw [slice_eq (Nat.zero_le _) (Nat.le_of_lt hlt), List.drop_zero, htake, hnul]

/-- The walk back to where a character begins stays inside the bytes. -/
theorem leadingBefore_eq {bytes : Bytes} {place : Nat} (h : place < bytes.length) :
    leadingBefore bytes place = .ok (Record.charFloor bytes place) := by
  induction place with
  | zero => rfl
  | succ place ih =>
    rw [leadingBefore, get_eq h, ok_bind, Record.charFloor, List.getElem?_eq_getElem h,
      Option.any_some]
    split_ifs
    · rfl
    · exact ih (by omega)

/-- Where a character begins is no later than where the walk back sets out. -/
theorem charFloor_le (bytes : Bytes) (place : Nat) : Record.charFloor bytes place ≤ place := by
  induction place with
  | zero => exact Nat.le_refl _
  | succ place ih =>
    rw [Record.charFloor]
    split_ifs
    · exact Nat.le_refl _
    · exact Nat.le_succ_of_le ih

/-- A field with its terminator is written inside the block. -/
theorem put_eq {w : Writer} {data : Bytes} (h : w.position + data.length < w.block.length) :
    put w data = .ok (w.put data) := by
  have hcopied : (overlay w.position data w.block).length = w.block.length :=
    length_overlay (Nat.le_of_lt h)
  rw [put, copy_eq (Nat.le_of_lt h), ok_bind, set_eq (by rwa [hcopied]), ok_bind]
  rfl

/-- Bytes are written if all of them have room, which is none at worst. -/
theorem putWhole?_eq {w : Writer} (h : w.position ≤ w.block.length) (data : Bytes) :
    putWhole? w data w.block.length = .ok (w.putWhole? data) := by
  rw [putWhole?, Nat.min_self, sub_eq h, ok_bind, Writer.putWhole?]
  split_ifs with hfits
  · rfl
  · rw [put_eq (by omega)]
    rfl

/-- What is kept of a text is a part of it. -/
theorem exists_keptLength (text : Bytes) {start last : Nat} (h : start ≤ last) :
    ∃ n ≤ (Record.beforeNul text).length,
      keptLength (Record.beforeNul text) (last + 1 - start) = .ok n ∧
      (Record.beforeNul text).take n = fitText text start last := by
  unfold keptLength fitText
  dsimp only
  generalize Record.beforeNul text = bytes
  split_ifs with hfits
  · exact ⟨bytes.length, Nat.le_refl _, rfl, List.take_length⟩
  · -- The walk back sets out inside the bytes.
    have hroom : last + 1 - start - 1 = last - start := by omega
    have hlt : last - start < bytes.length := by omega
    have hle := charFloor_le bytes (last - start)
    refine ⟨Record.charFloor bytes (last - start), by omega, ?_, rfl⟩
    rw [sub_eq (by omega), ok_bind, hroom, charFloor, if_neg (Nat.not_le.mpr hlt),
      leadingBefore_eq hlt]

end Guarded

namespace Writer

/-- The next field can have its terminator at an index. -/
structure Takes (w : Writer) (last : Nat) : Prop where
  /-- The field does not start behind the index. -/
  position_le : w.position ≤ last
  /-- The index is inside the block. -/
  lt_length : last < w.block.length

variable {w : Writer} {last : Nat}

/-- A text stays before its last index, and so does its terminator. -/
theorem Takes.lt (h : w.Takes last) (text : List Char) :
    w.position + (fitText (Utf8.encode text) w.position last).length < w.block.length := by
  have hlen := length_fitText_le text w.position last
  have hle := h.position_le
  have hlt := h.lt_length
  omega

/-- Writing a text leaves the length of the block. -/
theorem Takes.length_block (h : w.Takes last) (text : List Char) :
    (w.putText (Utf8.encode text) last).block.length = w.block.length := by
  have hlt := h.lt text
  rw [putText, put, List.length_set, length_overlay (Nat.le_of_lt hlt)]

/-- The field behind a text can have its terminator at any later index. -/
theorem Takes.next (h : w.Takes last) (text : List Char) {last' : Nat} (hlast : last < last')
    (hlt : last' < w.block.length) : (w.putText (Utf8.encode text) last).Takes last' := by
  have hlen := length_fitText_le text w.position last
  have hle := h.position_le
  constructor
  · show w.position + (fitText (Utf8.encode text) w.position last).length + 1 ≤ last'
    omega
  · rwa [h.length_block]

end Writer

namespace Guarded

variable {w : Writer}

/-- A text is written if its terminator can stand at the last index. -/
theorem putText_eq {last : Nat} (h : w.Takes last) (text : List Char) :
    putText w (Utf8.encode text) last = .ok (w.putText (Utf8.encode text) last) := by
  have hle := h.position_le
  obtain ⟨n, hn, hkept, htake⟩ := exists_keptLength (Utf8.encode text) hle
  rw [putText, if_pos ⟨hle, h.lt_length⟩, beforeNul_eq, ok_bind,
    sub_eq (Nat.le_succ_of_le hle), ok_bind, hkept, ok_bind, slice_eq (Nat.zero_le _) hn, ok_bind,
    List.drop_zero, htake, put_eq (h.lt text)]
  rfl

-- A text is not written where its terminator cannot stand.
example : putText ⟨[0, 0], 2⟩ [0x61] 1 = .error (.noRoom 2 1 2) := rfl

/-- A message is written as it fits if there is room for a terminator. -/
theorem putMessage?_eq (h : w.position < w.block.length) (message : Payload) :
    putMessage? w message = .ok (w.putMessage? message) := by
  cases message with
  | text text =>
    have htakes : w.Takes (w.block.length - 1) := by
      constructor <;> omega
    rw [putMessage?, sub_eq (by omega), ok_bind, Utf8.ofString, putText_eq htakes]
    rfl
  | binary data => exact putWhole?_eq (Nat.le_of_lt h) data

/-- The last index of a field that leaves room for the terminators after it. -/
theorem lastFor_eq {fieldsAfter room : Nat} (h : fieldsAfter ≤ 255) (hroom : fieldsAfter < room) :
    lastFor fieldsAfter room = .ok (min (255 - fieldsAfter) (room - (fieldsAfter + 1))) := by
  rw [lastFor, sub_eq h, ok_bind, sub_eq hroom, ok_bind]
  rfl

/-- Each field before the message leaves room for the next, whatever the texts before it are. -/
theorem fill_eq {block : Bytes} (h : 4 ≤ block.length) (fields : Fields) :
    fill block fields = .ok (Starts.fill block fields) := by
  have hname : lastFor 3 block.length = .ok (lastForName block.length) :=
    lastFor_eq (by omega) (by omega)
  have htags : lastFor 2 block.length = .ok (lastForTags block.length) :=
    lastFor_eq (by omega) (by omega)
  have hfile : lastFor 1 block.length = .ok (lastForFile block.length) :=
    lastFor_eq (by omega) (by omega)
  -- The last indices ascend by one from field to field, and all of them are inside the block.
  have hafterName : lastForName block.length < lastForTags block.length := by
    unfold lastForName lastForTags
    omega
  have hafterTags : lastForTags block.length < lastForFile block.length := by
    unfold lastForTags lastForFile
    omega
  have hinside : lastForFile block.length < block.length := by
    unfold lastForFile
    omega
  have hatName : Writer.Takes ⟨block, 0⟩ (lastForName block.length) := by
    constructor
    · exact Nat.zero_le _
    · show lastForName block.length < block.length
      omega
  have hatTags := hatName.next fields.name.toList hafterName (by dsimp only; omega)
  have hlengthTags := hatName.length_block fields.name.toList
  have hatFile := hatTags.next fields.tags.toList hafterTags (by rw [hlengthTags]; exact hinside)
  unfold fill
  dsimp only
  rw [hname, ok_bind, Utf8.ofString, putText_eq hatName, ok_bind, htags, ok_bind, Utf8.ofString,
    putText_eq hatTags, ok_bind, shorten_eq, ok_bind, hfile, ok_bind, putText_eq hatFile]
  rfl

/-! ## Headers -/

/-- Bytes laid behind others that were laid before. -/
theorem overlay_overlay {buffer data more : Bytes} {start : Nat}
    (h : start + data.length ≤ buffer.length) :
    overlay (start + data.length) more (overlay start data buffer) =
      overlay start (data ++ more) buffer := by
  have hstart : start ≤ buffer.length := by omega
  have hfront : (overlay start data buffer).take (start + data.length) =
      buffer.take start ++ data := by
    have hlen : (buffer.take start ++ data).length = start + data.length := by
      rw [List.length_append, List.length_take_of_le hstart]
    rw [overlay, List.take_left' hlen]
  have hrest : (overlay start data buffer).drop (start + data.length + more.length) =
      buffer.drop (start + (data ++ more).length) := by
    rw [← List.drop_drop, drop_overlay_end data hstart, List.drop_drop, List.length_append,
      Nat.add_assoc]
  rw [overlay, hfront, hrest, overlay, List.append_assoc (buffer.take start)]

/-- Pieces that have room are laid over a buffer as one. -/
theorem putAll_eq {buffer : Bytes} {place : Nat} {pieces : List Bytes}
    (h : place + pieces.flatten.length ≤ buffer.length) :
    putAll buffer place pieces = .ok (overlay place pieces.flatten buffer) := by
  induction pieces generalizing buffer place with
  | nil =>
    have hnothing : overlay place [] buffer = buffer := by
      rw [overlay, List.append_nil, List.length_nil, Nat.add_zero, List.take_append_drop]
    rw [List.flatten_nil, hnothing]
    rfl
  | cons piece pieces ih =>
    rw [List.flatten_cons, List.length_append] at h
    have hpiece : place + piece.length ≤ buffer.length := by omega
    have hlen := length_overlay hpiece
    rw [putAll, copy_eq hpiece, ok_bind, ih (by omega), overlay_overlay hpiece, List.flatten_cons]

/-- The pieces of a header are all of its bytes. -/
theorem flatten_pieces (h : Header) : (pieces h).flatten = h.toBytes := by
  simp [pieces, Header.toBytes]

/-- A header is written inside a buffer that has room for it, or not at all. -/
theorem encode_eq (h : Header) (buffer : Bytes) : encode h buffer = .ok (h.encode buffer) := by
  unfold encode Header.encode
  split_ifs with hsize
  · rfl
  · have hlen : (pieces h).flatten.length = headerSize := by
      rw [flatten_pieces, Header.length_toBytes]
    have hput : putAll buffer 0 (pieces h) = .ok (h.toBytes ++ buffer.drop headerSize) := by
      rw [putAll_eq (by omega), flatten_pieces, overlay, List.take_zero, List.nil_append,
        Header.length_toBytes, Nat.zero_add]
    rw [hput]
    rfl

/-- Offsets and a length that their bytes can say are put into a header as they are. -/
theorem header_eq {starts : Starts} {ended : Writer} (hname : starts.name.position < 256)
    (htags : starts.tags.position < 256) (hfile : starts.file.position < 256)
    (hmessage : starts.message.position < 256)
    (hended : starts.message.position < ended.position) (hlen : ended.position < 65536)
    (h : Header) : header starts ended h = .ok (starts.header ended h) := by
  have hextra : toByte headerSize = .ok headerSize.toUInt8 := rfl
  rw [header, toByte_eq hname, ok_bind, toByte_eq htags, ok_bind, toByte_eq hfile, ok_bind,
    toByte_eq hmessage, ok_bind, sub_eq (Nat.le_of_lt hended), ok_bind, sub_eq (by omega), ok_bind,
    toShort_eq (by omega), ok_bind, hextra, ok_bind]
  rfl

end Guarded

/-! ## Records -/

/-- The fields before the message and the message itself start where a byte can say they start. -/
theorem Starts.position_fill_le (fields : Fields) {block : Bytes} (hroom : 4 ≤ block.length) :
    (fill block fields).name.position ≤ 255 ∧ (fill block fields).tags.position ≤ 255 ∧
      (fill block fields).file.position ≤ 255 ∧ (fill block fields).message.position ≤ 255 := by
  obtain ⟨hname, htags, hfile, hmessage⟩ := holds_fill fields hroom
  have hbound := Prefix.msgOffset_fit_le fields hroom
  rw [hname, htags, hfile, hmessage.position_eq, Prefix.length_toBytes]
  -- The message starts behind all fields before it.
  unfold Prefix.msgOffset Prefix.fileOffset at *
  omega

/-- The message starts inside the block. -/
theorem Starts.position_fill_lt (fields : Fields) {block : Bytes} (hroom : 4 ≤ block.length) :
    (fill block fields).message.position < block.length := by
  obtain ⟨-, -, -, hmessage⟩ := holds_fill fields hroom
  rw [hmessage.position_eq, Prefix.length_toBytes]
  exact Prefix.msgOffset_fit_lt fields hroom

/-- A writer that has written a message stands behind where it started, still inside the block or
right behind it. -/
theorem Writer.Holds.position_putMessage? {w ended : Writer} {block written : Bytes}
    (h : w.Holds block written) (hroom : w.position < block.length) {message : Payload}
    (hput : w.putMessage? message = some ended) :
    w.position < ended.position ∧ ended.position ≤ block.length := by
  have hwritten : written.length < block.length := by rwa [← h.position_eq]
  obtain ⟨-, hnone⟩ | ⟨kept, w', -, hsome, hended⟩ := h.putMessage? hwritten message
  · rw [hnone] at hput
    contradiction
  · obtain rfl : w' = ended := Option.some.inj (hsome.symm.trans hput)
    have hlen := hended.length_le
    rw [h.position_eq, hended.position_eq]
    simp only [List.length_append, List.length_singleton] at hlen ⊢
    omega

namespace Guarded

/-- No guard finds fault, whatever is to be written: no difference is below zero, each text field
starts no later than its last index, which is inside the extra block, no byte is read or written
outside the bytes, no path is cut inside a character, and the offsets and the message's length fit
the bytes that hold them. So under guard a record is written as it is without. -/
theorem write_unbreached (buffer : Bytes) (h : Header) (fields : Fields) :
    write buffer h fields = .ok (Record.write buffer h fields) := by
  unfold write
  dsimp only
  split_ifs with hsmall
  · rw [Record.write, if_pos hsmall]
    rfl
  · have hsize := Nat.not_lt.mp hsmall
    obtain ⟨hroom, hstart⟩ := four_le_roomIn hsize
    have hlong : roomIn buffer < 65536 := by
      unfold roomIn maxRecordSize
      omega
    rw [← length_blockIn] at hroom hlong
    obtain ⟨hname, htags, hfile, hmessage⟩ := Starts.position_fill_le fields hroom
    obtain ⟨-, -, -, hbefore⟩ := Starts.holds_fill fields hroom
    have hlt := Starts.position_fill_lt fields hroom
    have hlength := hbefore.length_block
    rw [slice_eq hstart (Nat.min_le_left _ _), ok_bind, ← blockIn, fill_eq hroom, ok_bind,
      putMessage?_eq (by omega), ok_bind, write_of_le hsize]
    cases hput : (Starts.fill (blockIn buffer) fields).message.putMessage? fields.message with
    | none =>
      -- The room that the notice is about is behind the fields before the message.
      dsimp only
      rw [sub_eq (by omega)]
      rfl
    | some ended =>
      obtain ⟨hbehind, hinside⟩ := hbefore.position_putMessage? hlt hput
      dsimp only
      rw [header_eq (by omega) (by omega) (by omega) (by omega) hbehind (by omega), ok_bind,
        encode_eq, ok_bind]
      cases ((Starts.fill (blockIn buffer) fields).header ended h).encode
          (overlay headerSize ended.block buffer) <;> rfl

end Guarded

end NetSession.Record
