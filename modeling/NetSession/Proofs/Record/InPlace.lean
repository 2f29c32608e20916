import NetSession.Proofs.Record.Emission
import NetSession.Record.Writer

/-!
# What writing leaves in the buffer

Behind its position a writer has not touched the block (`Writer.Holds`). Each field keeps that up
(`Holds.put`), so that in the end the buffer has the fields where they belong and everything behind
them as it was. So the steps of `write` come to the record that `encode` lays over the buffer at
once (`write_eq`), also where they end early: with a buffer that is too small nothing was written,
and without room for a binary message only the fields before it were. `write_outcome` says when
each of this happens and which bytes of the buffer stay as they were.
-/

namespace NetSession.Record

/-! ## Bytes laid over a buffer -/

/-- A buffer keeps its length if the bytes laid over it have room. -/
theorem length_overlay {start : Nat} {data buffer : Bytes}
    (h : start + data.length ≤ buffer.length) :
    (overlay start data buffer).length = buffer.length := by
  unfold overlay
  simp only [List.length_append, List.length_take, List.length_drop]
  omega

/-- Before the bytes laid over it, a buffer is as it was. -/
theorem take_overlay {start : Nat} (data : Bytes) {buffer : Bytes} (h : start ≤ buffer.length) :
    (overlay start data buffer).take start = buffer.take start := by
  unfold overlay
  rw [List.append_assoc, List.take_left' (List.length_take_of_le h)]

/-- From there on, the bytes laid over a buffer are followed by what was behind them. -/
theorem drop_overlay {start : Nat} (data : Bytes) {buffer : Bytes} (h : start ≤ buffer.length) :
    (overlay start data buffer).drop start = data ++ buffer.drop (start + data.length) := by
  unfold overlay
  rw [List.append_assoc, List.drop_left' (List.length_take_of_le h)]

/-- Behind the bytes laid over it, a buffer is as it was. -/
theorem drop_overlay_end {start : Nat} (data : Bytes) {buffer : Bytes} (h : start ≤ buffer.length) :
    (overlay start data buffer).drop (start + data.length) =
      buffer.drop (start + data.length) := by
  rw [← List.drop_drop, drop_overlay data h, List.drop_left]

/-- A slice of a buffer, followed by what is behind the slice. -/
theorem drop_take_append_drop {start stop : Nat} (buffer : Bytes) (h : start ≤ stop) :
    (buffer.take stop).drop start ++ buffer.drop stop = buffer.drop start := by
  have hstop : buffer.drop stop = (buffer.drop start).drop (stop - start) := by
    rw [List.drop_drop, Nat.add_sub_cancel' h]
  rw [hstop, List.drop_take, List.take_append_drop]

/-! ## A writer -/

namespace Writer

/-- A writer has written so many bytes over the start of a block, and has left the rest alone. -/
structure Holds (w : Writer) (block written : Bytes) : Prop where
  /-- What was written is there, and behind it what was there before. -/
  block_eq : w.block = written ++ block.drop written.length
  /-- The next field starts behind what was written. -/
  position_eq : w.position = written.length
  /-- What was written has room. -/
  length_le : written.length ≤ block.length

variable {w : Writer} {block written : Bytes}

/-- At first nothing is written. -/
theorem holds_nil (block : Bytes) : Holds ⟨block, 0⟩ block [] :=
  ⟨rfl, rfl, Nat.zero_le _⟩

/-- The block keeps its length. -/
theorem Holds.length_block (h : w.Holds block written) : w.block.length = block.length := by
  have hle := h.length_le
  rw [h.block_eq, List.length_append, List.length_drop]
  omega

/-- A field that has room with its terminator is added to what was written. -/
theorem Holds.put (h : w.Holds block written) {data : Bytes}
    (hroom : written.length + data.length < block.length) :
    (w.put data).Holds block (written ++ (data ++ [0])) := by
  obtain ⟨hblock, hposition, hle⟩ := h
  have hoverlay : overlay w.position data w.block =
      written ++ data ++ block.drop (written.length + data.length) := by
    have htail : w.block.drop (written.length + data.length) =
        block.drop (written.length + data.length) := by
      rw [hblock, ← List.drop_drop, List.drop_left, List.drop_drop]
    rw [hposition, overlay, htail, hblock, List.take_left]
  -- The byte right behind the data becomes the terminator.
  have hnext : block.drop (written.length + data.length) =
      block[written.length + data.length] :: block.drop (written.length + data.length + 1) :=
    List.drop_eq_getElem_cons hroom
  have hend : w.position + data.length = (written ++ data).length := by
    rw [hposition, List.length_append]
  constructor
  · show (overlay w.position data w.block).set (w.position + data.length) 0 = _
    rw [hoverlay, hnext, hend, List.set_append_right _ _ (Nat.le_refl _), Nat.sub_self,
      List.set_cons_zero]
    simp only [List.append_assoc, List.cons_append, List.nil_append, List.length_append,
      List.length_cons, List.length_nil, Nat.add_assoc, Nat.zero_add]
  · show w.position + data.length + 1 = _
    rw [hend]
    simp only [List.length_append, List.length_cons, List.length_nil]
    omega
  · simp only [List.length_append, List.length_cons, List.length_nil]
    omega

/-- What is kept of a text is added to what was written. -/
theorem Holds.putText (h : w.Holds block written) {text : List Char} {last : Nat}
    (hstart : written.length ≤ last) (hlast : last < block.length) :
    (w.putText (Utf8.encode text) last).Holds block
      (written ++ (fitText (Utf8.encode text) written.length last ++ [0])) := by
  have hlen := length_fitText_le text written.length last
  rw [Writer.putText, h.position_eq]
  apply h.put
  omega

/-- A message is added to what was written as it fits, or there is no room for it. -/
theorem Holds.putMessage? (h : w.Holds block written) (hroom : written.length < block.length)
    (message : Payload) :
    (fitMessage? message written.length block.length = none ∧ w.putMessage? message = none) ∨
    ∃ kept w', fitMessage? message written.length block.length = some kept ∧
      w.putMessage? message = some w' ∧ w'.Holds block (written ++ (kept ++ [0])) := by
  have hlength := h.length_block
  cases message with
  | text text =>
    refine Or.inr ⟨_, _, rfl, rfl, ?_⟩
    rw [hlength]
    apply h.putText <;> rw [lastForMessage] <;> omega
  | binary data =>
    simp only [fitMessage?, Writer.putMessage?, putWhole?, hlength, h.position_eq]
    split_ifs with hfits
    · exact Or.inl ⟨rfl, rfl⟩
    · exact Or.inr ⟨data, _, rfl, rfl, h.put (by omega)⟩

/-- A slice of a buffer over which a writer has gone, put back into the buffer: what was written is
laid over it, and the rest is as it was. -/
theorem Holds.overlay_block {buffer : Bytes} {start stop : Nat} (hstart : start ≤ stop)
    (hstop : stop ≤ buffer.length)
    (h : w.Holds ((buffer.take stop).drop start) written) :
    overlay start w.block buffer = overlay start written buffer := by
  have hlength : ((buffer.take stop).drop start).length = stop - start := by
    rw [List.length_drop, List.length_take_of_le hstop]
  have hle := h.length_le
  have hend : start + w.block.length = stop := by
    rw [h.length_block, hlength]
    omega
  unfold overlay
  rw [hend, h.block_eq, List.drop_drop]
  simp only [List.append_assoc]
  rw [drop_take_append_drop buffer (by omega)]

end Writer

/-! ## The steps together -/

section Steps

variable {buffer : Bytes} {header : Header} {fields : Fields}

/-- The part of a buffer for the extra block is as long as the room for it. -/
theorem length_blockIn (buffer : Bytes) : (blockIn buffer).length = roomIn buffer := by
  rw [blockIn, List.length_drop, List.length_take, roomIn]
  omega

/-- The fields before the message are written where they fit, one behind the other. -/
theorem Starts.holds_fill (fields : Fields) {block : Bytes} (hroom : 4 ≤ block.length) :
    (fill block fields).name.position = 0 ∧
    (fill block fields).tags.position = (Prefix.fit fields block.length).tagsOffset ∧
    (fill block fields).file.position = (Prefix.fit fields block.length).fileOffset ∧
    (fill block fields).message.Holds block (Prefix.fit fields block.length).toBytes := by
  have hname : (Prefix.fit fields block.length).name.length ≤ lastForName block.length :=
    Prefix.length_name_fit_le fields
  have htags := Prefix.tagsOffset_fit_add_le fields hroom
  have hfile := Prefix.fileOffset_fit_add_le fields hroom
  have hnameEq := @Prefix.fit_name fields block.length
  have htagsEq := @Prefix.fit_tags fields block.length
  have hfileEq := @Prefix.fit_file fields block.length
  generalize Prefix.fit fields block.length = p at *
  have htagsOffset : (p.name ++ [0]).length = p.tagsOffset := by
    rw [List.length_append, List.length_singleton, Prefix.tagsOffset]
  have hfileOffset : (p.name ++ [0] ++ (p.tags ++ [0])).length = p.fileOffset := by
    rw [List.length_append, htagsOffset, List.length_append, List.length_singleton,
      Prefix.fileOffset, Nat.add_assoc]
  have hbytes : p.name ++ [0] ++ (p.tags ++ [0]) ++ (p.file ++ [0]) = p.toBytes := by
    simp [Prefix.toBytes]
  -- Each field starts where the one before it ended with its terminator.
  have hatTags : (fill block fields).tags.Holds block (p.name ++ [0]) := by
    rw [hnameEq]
    apply (Writer.holds_nil block).putText
    · exact Nat.zero_le _
    · rw [lastForName]
      omega
  have hatFile : (fill block fields).file.Holds block (p.name ++ [0] ++ (p.tags ++ [0])) := by
    rw [htagsEq, ← htagsOffset]
    apply hatTags.putText
    · rw [htagsOffset]
      omega
    · rw [lastForTags]
      omega
  have hatMessage : (fill block fields).message.Holds block p.toBytes := by
    rw [← hbytes, hfileEq, ← hfileOffset]
    apply hatFile.putText
    · rw [hfileOffset]
      omega
    · rw [lastForFile]
      omega
  exact ⟨rfl, hatTags.position_eq.trans htagsOffset, hatFile.position_eq.trans hfileOffset,
    hatMessage⟩

/-- The header that is known in the end is the one of the fields as they are kept. -/
theorem Starts.header_eq {starts : Starts} {ended : Writer} {p : Prefix} {kept : Bytes}
    (hname : starts.name.position = 0) (htags : starts.tags.position = p.tagsOffset)
    (hfile : starts.file.position = p.fileOffset)
    (hmessage : starts.message.position = p.msgOffset)
    (hended : ended.position = p.msgOffset + kept.length + 1) (header : Header) :
    starts.header ended header = header.place p kept.length := by
  have hlength : p.msgOffset + kept.length + 1 - p.msgOffset - 1 = kept.length := by omega
  rw [Starts.header, hname, htags, hfile, hmessage, hended, hlength]
  rfl

/-- A buffer that is large enough has room for the header and four terminators. -/
theorem four_le_roomIn
    (hsize : minRecordSize (Utf8.ofString fields.name).length ≤ min buffer.length maxRecordSize) :
    4 ≤ roomIn buffer ∧ headerSize ≤ min buffer.length maxRecordSize := by
  rw [minRecordSize] at hsize
  rw [roomIn]
  omega

/-- In a buffer that is large enough the block is filled, and the header is written in the end. -/
theorem write_of_le
    (hsize : minRecordSize (Utf8.ofString fields.name).length ≤ min buffer.length maxRecordSize) :
    write buffer header fields =
      match (Starts.fill (blockIn buffer) fields).message.putMessage? fields.message with
      | none =>
        (.ok 0, overlay headerSize (Starts.fill (blockIn buffer) fields).message.block buffer)
      | some ended =>
        match ((Starts.fill (blockIn buffer) fields).header ended header).encode
            (overlay headerSize ended.block buffer) with
        | .error fault => (.error fault, overlay headerSize ended.block buffer)
        | .ok written => (.ok (headerSize + ended.position), written) :=
  if_neg (Nat.not_lt.mpr hsize)

/-- Without room for the message, the fields before it are what is written. -/
theorem write_of_fitMessage?_eq_none
    (hsize : minRecordSize (Utf8.ofString fields.name).length ≤ min buffer.length maxRecordSize)
    (hnone : fitMessage? fields.message (Prefix.fit fields (roomIn buffer)).msgOffset
      (roomIn buffer) = none) :
    write buffer header fields =
      (.ok 0, overlay headerSize (Prefix.fit fields (roomIn buffer)).toBytes buffer) := by
  obtain ⟨hroom, hstart⟩ := four_le_roomIn hsize
  have hlt := Prefix.msgOffset_fit_lt fields hroom
  rw [← length_blockIn] at hroom hnone hlt ⊢
  rw [← Prefix.length_toBytes] at hnone hlt
  obtain ⟨-, -, -, hbefore⟩ := Starts.holds_fill fields hroom
  obtain ⟨-, hput⟩ | ⟨kept, _, hsome, -, -⟩ := hbefore.putMessage? hlt fields.message
  · rw [write_of_le hsize, hput]
    dsimp only
    rw [hbefore.overlay_block hstart (Nat.min_le_left _ _)]
  · rw [hnone] at hsome
    contradiction

/-- Fields that are kept are written behind one another, and their header in front of them. -/
theorem Stored.Keeps.write_eq {f : Stored} (hkeeps : f.Keeps fields (roomIn buffer))
    (hsize : minRecordSize (Utf8.ofString fields.name).length ≤ min buffer.length maxRecordSize) :
    write buffer header fields = (.ok (f.bytes header).length,
      f.bytes header ++ buffer.drop (f.bytes header).length) := by
  obtain ⟨hroom, hstart⟩ := four_le_roomIn hsize
  have hstop : min buffer.length maxRecordSize ≤ buffer.length := Nat.min_le_left _ _
  have hlt := Prefix.msgOffset_fit_lt fields hroom
  obtain ⟨hkept, hmessage⟩ := hkeeps
  rw [← length_blockIn] at hroom hmessage hlt hkept
  obtain ⟨hname, htags, hfile, hbefore⟩ := Starts.holds_fill fields hroom
  rw [← hkept] at htags hfile hbefore hlt
  rw [← Prefix.length_toBytes] at hmessage hlt
  obtain ⟨hnone, -⟩ | ⟨kept, ended, hsome, hput, hended⟩ := hbefore.putMessage? hlt fields.message
  · rw [hnone] at hmessage
    contradiction
  · rw [hmessage] at hsome
    obtain rfl : f.message = kept := Option.some.inj hsome
    have hextra : f.kept.toBytes ++ (f.message ++ [0]) = f.extra := by
      rw [Stored.extra, List.append_assoc]
    rw [hextra] at hended
    -- The positions are those that the header is to have.
    have hposition := hbefore.position_eq.trans f.kept.length_toBytes
    have hend := hended.position_eq
    have hheader := Starts.header_eq hname htags hfile hposition (hend.trans f.length_extra) header
    have hfilled := hended.overlay_block hstart hstop
    have hfits : headerSize ≤ (overlay headerSize f.extra buffer).length := by
      have hle : f.extra.length ≤ roomIn buffer := hended.length_le.trans_eq (length_blockIn buffer)
      rw [roomIn] at hle
      rw [length_overlay (by omega)]
      omega
    rw [write_of_le hsize, hput]
    dsimp only
    rw [hheader, hfilled, Header.encode, if_neg (Nat.not_lt.mpr hfits)]
    dsimp only
    rw [drop_overlay _ (Nat.le_trans hstart hstop), hend, f.length_bytes, f.length_extra,
      Stored.bytes, List.append_assoc]
    rfl

/-- Step by step, writing comes to what it comes to at once. -/
theorem write_eq (buffer : Bytes) (header : Header) (fields : Fields) :
    write buffer header fields =
      match encode buffer header fields with
      | .ok w => (.ok w.length, w.buffer)
      | .error fault => (.error fault, buffer) := by
  obtain ⟨hsize, heq⟩ | ⟨hsize, hnone, heq⟩ | ⟨hsize, f, hkeeps, heq⟩ :=
    encode_cases buffer header fields
  · rw [heq]
    exact if_pos hsize
  · rw [heq]
    exact write_of_fitMessage?_eq_none hsize hnone
  · rw [heq]
    exact hkeeps.write_eq hsize

end Steps

/-! ## The outcomes -/

/-- Where the message starts in a buffer: behind the header and the fields before it, as they are
kept. -/
def messageStart (buffer : Bytes) (fields : Fields) : Nat :=
  headerSize + (Prefix.fit fields (roomIn buffer)).msgOffset

/-- What comes of writing a record into a buffer: the result, and the buffer afterwards. -/
structure Outcome (buffer : Bytes) (header : Header) (fields : Fields) (result : Except Fault Nat)
    (after : Bytes) : Prop where
  /-- It comes to the same at once. -/
  encode_eq : encode buffer header fields = result.map fun n => ⟨n, after⟩
  /-- The one fault that there can be is a buffer without room for the header, the name and four
  terminators. -/
  refused_iff : ∀ fault, result = .error fault ↔
    min buffer.length 1024 < 32 + (Utf8.ofString fields.name).length ∧
      fault = .bufferTooSmall (32 + (Utf8.ofString fields.name).length) (min buffer.length 1024)
  /-- Then no byte of the buffer changes. -/
  refused : ∀ fault, result = .error fault → after = buffer
  /-- Else there is no record exactly if a binary message has no room with its terminator behind the
  fields before it. -/
  dropped_iff : result = .ok 0 ↔
    32 + (Utf8.ofString fields.name).length ≤ min buffer.length 1024 ∧
      ∃ data, fields.message = .binary data ∧
        min buffer.length 1024 - messageStart buffer fields < data.length + 1
  /-- Then only those fields are written: the header's place and everything behind them stay as they
  are. -/
  dropped : result = .ok 0 → after.take 28 = buffer.take 28 ∧
    (after.drop 28).take (Prefix.fit fields (roomIn buffer)).msgOffset =
      (Prefix.fit fields (roomIn buffer)).toBytes ∧
    after.drop (messageStart buffer fields) = buffer.drop (messageStart buffer fields)
  /-- A record is no longer than the buffer and the longest record, and everything behind it stays
  as it is. -/
  written : ∀ n, result = .ok n → 0 < n →
    n ≤ min buffer.length 1024 ∧ after.drop n = buffer.drop n
  /-- The buffer keeps its length. -/
  length_after : after.length = buffer.length
  /-- A binary message that has room is kept whole. -/
  binary : ∀ data, fields.message = .binary data →
    32 + (Utf8.ofString fields.name).length ≤ min buffer.length 1024 →
    data.length + 1 ≤ min buffer.length 1024 - messageStart buffer fields →
    result = .ok (messageStart buffer fields + data.length + 1) ∧
      (after.drop (messageStart buffer fields)).take (data.length + 1) = data ++ [0]

/-- The smallest buffer for a record, in bytes. -/
theorem minRecordSize_eq (n : Nat) : minRecordSize n = 32 + n := by
  rw [minRecordSize, headerSize]
  omega

section Outcomes

variable {buffer : Bytes} {header : Header} {fields : Fields}

/-- The room for the message is what the capacity leaves behind its start. -/
theorem roomIn_sub_msgOffset :
    roomIn buffer - (Prefix.fit fields (roomIn buffer)).msgOffset =
      min buffer.length 1024 - messageStart buffer fields := by
  have hroom : roomIn buffer = min buffer.length 1024 - headerSize := rfl
  rw [messageStart, Nat.sub_add_eq, ← hroom]

/-- In a buffer that is large enough, the message starts inside the capacity. -/
theorem messageStart_lt
    (hsize : minRecordSize (Utf8.ofString fields.name).length ≤ min buffer.length maxRecordSize) :
    messageStart buffer fields < min buffer.length maxRecordSize := by
  have hlt := Prefix.msgOffset_fit_lt fields (four_le_roomIn hsize).1
  have hroom : roomIn buffer = min buffer.length maxRecordSize - headerSize := rfl
  rw [messageStart]
  omega

/-- A buffer that is too small is refused and left alone. -/
theorem outcome_of_lt
    (hsize : min buffer.length maxRecordSize < minRecordSize (Utf8.ofString fields.name).length) :
    Outcome buffer header fields
      (.error (.bufferTooSmall (minRecordSize (Utf8.ofString fields.name).length)
        (min buffer.length maxRecordSize))) buffer := by
  have hencode : encode buffer header fields = _ := encode_of_lt hsize
  rw [minRecordSize_eq, maxRecordSize] at *
  have hnot := Nat.not_le.mpr hsize
  constructor
  case encode_eq => exact hencode
  case refused_iff =>
    intro fault
    rw [Except.error.injEq, and_iff_right hsize, eq_comm]
  case refused => exact fun _ _ => rfl
  case dropped_iff => exact iff_of_false (by simp) fun h => hnot h.1
  case binary => exact fun _ _ hle => absurd hle hnot
  case length_after => rfl
  all_goals simp

/-- Without room for a binary message, the fields before it are left in the buffer. -/
theorem outcome_of_fitMessage?_eq_none
    (hsize : minRecordSize (Utf8.ofString fields.name).length ≤ min buffer.length maxRecordSize)
    (hnone : fitMessage? fields.message (Prefix.fit fields (roomIn buffer)).msgOffset
      (roomIn buffer) = none) :
    Outcome buffer header fields (.ok 0)
      (overlay headerSize (Prefix.fit fields (roomIn buffer)).toBytes buffer) := by
  have hencode : encode buffer header fields = _ := encode_of_fitMessage?_eq_none hsize hnone
  obtain ⟨-, hstart⟩ := four_le_roomIn hsize
  have hlt := messageStart_lt hsize
  have hlength := (Prefix.fit fields (roomIn buffer)).length_toBytes
  have hinside : headerSize ≤ buffer.length := Nat.le_trans hstart (Nat.min_le_left _ _)
  have hend : headerSize + (Prefix.fit fields (roomIn buffer)).toBytes.length =
      messageStart buffer fields := by
    rw [hlength, messageStart]
  obtain ⟨data, hdata, hdropped⟩ := fitMessage?_eq_none_iff.mp hnone
  rw [roomIn_sub_msgOffset] at hdropped
  rw [minRecordSize_eq, maxRecordSize] at hsize
  have hnot := Nat.not_lt.mpr hsize
  constructor
  case encode_eq => exact hencode
  case refused_iff => exact fun fault => iff_of_false (by simp) fun h => hnot h.1
  case refused => exact fun _ h => absurd h (by simp)
  case dropped_iff => exact iff_of_true rfl ⟨hsize, data, hdata, hdropped⟩
  case dropped =>
    intro _
    refine ⟨take_overlay _ hinside, ?_, ?_⟩
    · show ((overlay headerSize _ buffer).drop headerSize).take _ = _
      rw [drop_overlay _ hinside, ← hlength, List.take_left]
    · rw [← hend]
      exact drop_overlay_end _ hinside
  case written => exact fun n h hpos => absurd (Except.ok.inj h) (Nat.ne_of_lt hpos)
  case length_after =>
    apply length_overlay
    omega
  case binary =>
    intro data' hdata' _ hfits
    obtain rfl : data = data' := Payload.binary.inj (hdata.symm.trans hdata')
    omega

/-- Behind the header and the fields before it lies the message with its terminator. -/
theorem Stored.drop_bytes_append (f : Stored) (header : Header) (rest : Bytes) :
    ((f.bytes header ++ rest).drop (headerSize + f.kept.msgOffset)).take (f.message.length + 1) =
      f.message ++ [0] := by
  have hfront : ((f.header header).toBytes ++ f.kept.toBytes).length =
      headerSize + f.kept.msgOffset := by
    rw [List.length_append, Header.length_toBytes, Prefix.length_toBytes]
  have hsplit : f.bytes header ++ rest =
      ((f.header header).toBytes ++ f.kept.toBytes) ++ (f.message ++ [0] ++ rest) := by
    simp only [Stored.bytes, Stored.extra, List.append_assoc]
  rw [hsplit, List.drop_left' hfront]
  exact List.take_left' (by rw [List.length_append, List.length_singleton])

/-- Fields that are kept make a record, and what is behind it stays as it was. -/
theorem Stored.Keeps.outcome {f : Stored} (hkeeps : f.Keeps fields (roomIn buffer))
    (hsize : minRecordSize (Utf8.ofString fields.name).length ≤ min buffer.length maxRecordSize) :
    Outcome buffer header fields (.ok (f.bytes header).length)
      (f.bytes header ++ buffer.drop (f.bytes header).length) := by
  have hencode : encode buffer header fields = _ := hkeeps.encode_eq hsize
  obtain ⟨hkept, hmessage⟩ := hkeeps
  rw [hkept] at hmessage
  have hstart : headerSize + f.kept.msgOffset = messageStart buffer fields := by
    rw [hkept, messageStart]
  have hlength : (f.bytes header).length = messageStart buffer fields + f.message.length + 1 := by
    rw [f.length_bytes, ← hstart]
    omega
  have hfits := length_fitMessage_lt (Prefix.msgOffset_fit_lt fields (four_le_roomIn hsize).1)
    hmessage
  have hle : (f.bytes header).length ≤ min buffer.length maxRecordSize := by
    have hlt := messageStart_lt hsize
    have hroom := @roomIn_sub_msgOffset buffer fields
    rw [hlength]
    rw [maxRecordSize] at hlt ⊢
    omega
  -- The message was kept, so it is not the binary one that is too long.
  have hsome := Option.ne_none_iff_exists'.mpr ⟨_, hmessage⟩
  rw [Ne, fitMessage?_eq_none_iff, roomIn_sub_msgOffset] at hsome
  rw [minRecordSize_eq, maxRecordSize] at hsize
  have hnot := Nat.not_lt.mpr hsize
  have hpos : (f.bytes header).length ≠ 0 := by omega
  constructor
  case encode_eq => exact hencode
  case refused_iff => exact fun fault => iff_of_false (by simp) fun h => hnot h.1
  case refused => exact fun _ h => absurd h (by simp)
  case dropped_iff =>
    exact iff_of_false (fun h => hpos (Except.ok.inj h)) fun h => hsome h.2
  case dropped => exact fun h => absurd (Except.ok.inj h) hpos
  case written =>
    intro n h _
    obtain rfl := Except.ok.inj h
    exact ⟨hle, List.drop_left⟩
  case length_after =>
    rw [List.length_append, List.length_drop]
    omega
  case binary =>
    intro data hdata _ _
    rw [hdata] at hmessage
    obtain rfl := eq_of_fitMessage?_binary hmessage
    refine ⟨congrArg Except.ok hlength, ?_⟩
    rw [← hstart]
    exact f.drop_bytes_append header _

/-- What comes of writing a record step by step. -/
theorem write_outcome (buffer : Bytes) (header : Header) (fields : Fields) :
    Outcome buffer header fields (write buffer header fields).1 (write buffer header fields).2 := by
  rw [write_eq]
  obtain ⟨hsize, heq⟩ | ⟨hsize, hnone, heq⟩ | ⟨hsize, f, hkeeps, heq⟩ :=
    encode_cases buffer header fields
  · rw [heq]
    exact outcome_of_lt hsize
  · rw [heq]
    exact outcome_of_fitMessage?_eq_none hsize hnone
  · rw [heq]
    exact hkeeps.outcome hsize

end Outcomes

end NetSession.Record
