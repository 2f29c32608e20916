import NetSession.Proofs.Record.Emission
import NetSession.Proofs.Record.RoundTrip

/-!
# An emitter keeps its identity

An emitter is made with a name that was checked or with the default name, and it takes another name
only if that passes the same check. So whatever is asked of it, its name is short and has no NUL
(`Sound.serveAll`). The smallest buffer that has room for the header, four terminators, and the
longest name that passes is then enough for a record with the whole name, since the name is fitted
before the tags, the source file and the message (`Sound.exists_named`). `keeps_identity` puts this
together for every emitter and every sequence of requests.
-/

namespace NetSession.Emitter

open Record

/-! ## What is asked of an emitter -/

/-- Something that is asked of an emitter. -/
inductive Request where
  /-- To take another name. -/
  | setName (name : String)
  /-- To be switched on or off. -/
  | setEnabled (enabled : Bool)
  /-- To write the record for an entry into a buffer. -/
  | encode (stamp : Stamp) (buffer : Bytes) (entry : Entry)

/-- What an emitter answers. -/
inductive Answer where
  /-- The name was taken or refused. -/
  | named (result : Except Fault Unit)
  /-- It was switched. -/
  | switched
  /-- What was written into the buffer. -/
  | encoded (result : Except Fault Written)

/-- Serves a request. -/
def serve (emitter : Emitter) : Request → Answer × Emitter
  | .setName name =>
    match emitter.setName name with
    | .ok renamed => (.named (.ok ()), renamed)
    | .error fault => (.named (.error fault), emitter)
  | .setEnabled enabled => (.switched, emitter.setEnabled enabled)
  | .encode stamp buffer entry => (.encoded (emitter.encode stamp buffer entry), emitter)

/-- Serves requests one after the other; gives the emitter afterwards. -/
def serveAll (emitter : Emitter) : List Request → Emitter
  | [] => emitter
  | request :: rest => (emitter.serve request).2.serveAll rest

/-- An emitter as it is made: with a name that is given, or without one. -/
inductive Made : Emitter → Prop where
  /-- The name that is given passes its check. -/
  | new {name : String} {pid : Int32} {emitter : Emitter} (h : new name pid = .ok emitter) :
    Made emitter
  /-- No name is given. -/
  | unnamed (pid : Int32) : Made (unnamed pid)

/-! ## The name -/

/-- The name of an emitter has passed its check. -/
structure Sound (emitter : Emitter) : Prop where
  /-- It is short. -/
  length_name_le : (Utf8.ofString emitter.name).length ≤ maxNameLength
  /-- It has no NUL. -/
  name_clean : 0 ∉ Utf8.ofString emitter.name

/-- An emitter is made with a sound name. -/
theorem Made.sound {emitter : Emitter} (h : Made emitter) : emitter.Sound := by
  cases h with
  | new h =>
    obtain ⟨hcheck, rfl⟩ := new_eq_ok_iff.mp h
    obtain ⟨hlength, hclean⟩ := checkName_eq_ok_iff.mp hcheck
    exact ⟨hlength, hclean⟩
  | unnamed pid =>
    have hdefault : (Utf8.ofString defaultName).length ≤ maxNameLength ∧
        0 ∉ Utf8.ofString defaultName := by decide
    exact ⟨hdefault.1, hdefault.2⟩

/-- A name is taken if it passes its check, and else it is refused and nothing changes. -/
theorem serve_setName (emitter : Emitter) (name : String) :
    (checkName name = .ok () ∧ emitter.serve (.setName name) =
      (.named (.ok ()), { emitter with name := name })) ∨
    ∃ fault, checkName name = .error fault ∧
      emitter.serve (.setName name) = (.named (.error fault), emitter) := by
  cases hcheck : checkName name with
  | ok =>
    have hset : emitter.setName name = .ok { emitter with name := name } := by
      rw [setName, hcheck]
      rfl
    exact Or.inl ⟨rfl, by simp only [serve, hset]⟩
  | error fault =>
    have hset : emitter.setName name = .error fault := by
      rw [setName, hcheck]
      rfl
    exact Or.inr ⟨fault, rfl, by simp only [serve, hset]⟩

/-- A name is refused exactly if it is too long or has a NUL. -/
theorem refused_setName_iff (emitter : Emitter) (name : String) :
    (∃ fault, (emitter.serve (.setName name)).1 = .named (.error fault)) ↔
      maxNameLength < (Utf8.ofString name).length ∨ 0 ∈ Utf8.ofString name := by
  have hcheck := not_congr (@checkName_eq_ok_iff name)
  rw [not_and_or, Nat.not_le, not_not] at hcheck
  rw [← hcheck]
  obtain ⟨hok, heq⟩ | ⟨fault, herror, heq⟩ := emitter.serve_setName name
  · rw [heq]
    exact iff_of_false (by simp) (not_not.mpr hok)
  · rw [heq, herror]
    exact iff_of_true ⟨fault, rfl⟩ (by simp)

namespace Sound

variable {emitter : Emitter}

/-- Every request leaves the name sound. -/
theorem serve (h : emitter.Sound) (request : Request) : (emitter.serve request).2.Sound := by
  cases request with
  | setName name =>
    obtain ⟨hcheck, heq⟩ | ⟨fault, -, heq⟩ := emitter.serve_setName name
    · obtain ⟨hlength, hclean⟩ := checkName_eq_ok_iff.mp hcheck
      rw [heq]
      exact ⟨hlength, hclean⟩
    · rw [heq]
      exact h
  | setEnabled enabled => exact ⟨h.length_name_le, h.name_clean⟩
  | encode stamp buffer entry => exact h

/-- Any requests leave the name sound. -/
theorem serveAll (h : emitter.Sound) (requests : List Request) :
    (emitter.serveAll requests).Sound := by
  induction requests generalizing emitter with
  | nil => exact h
  | cons request rest ih => exact ih (h.serve request)

/-- All of a sound name comes before its first NUL. -/
theorem untilNul_name (h : emitter.Sound) :
    String.ofList (Utf8.untilNul emitter.name.toList) = emitter.name := by
  have hclean : '\x00' ∉ emitter.name.toList := mt Utf8.zero_mem_encode_iff.mpr h.name_clean
  rw [Utf8.untilNul_of_notMem hclean, String.ofList_toList]

/-- While it is on, an emitter with a sound name writes into every buffer that has room for the
longest name. If there is a record it has the whole name, and for a text there is one. -/
theorem exists_named (h : emitter.Sound) (hon : emitter.enabled = true) (stamp : Stamp)
    {buffer : Bytes} (entry : Entry) (hbuffer : minRecordSize maxNameLength ≤ buffer.length) :
    ∃ w, emitter.encode stamp buffer entry = .ok w ∧
      (∀ text, entry.message = .text text → 0 < w.length) ∧
      (0 < w.length → ∃ r, parse (w.buffer.take w.length) = .ok r ∧ r.name = .ok emitter.name) := by
  have hname := h.length_name_le
  obtain ⟨w, hw⟩ := emitter.exists_encode stamp entry hname hbuffer
  have hwrite : Record.encode buffer (emitter.header stamp entry) (emitter.fields entry) = .ok w :=
    (if_pos hon).symm.trans hw
  refine ⟨w, hw, fun text htext => ?_, fun hpos => ?_⟩
  · -- A text is cut and not dropped.
    obtain ⟨-, hrefused⟩ | ⟨-, hnone, -⟩ | ⟨-, f, -, hwritten⟩ := encode_cases buffer
      (emitter.header stamp entry) (emitter.fields entry)
    · rw [hrefused] at hwrite
      contradiction
    · obtain ⟨data, hdata, -⟩ := fitMessage?_eq_none_iff.mp hnone
      have hboth : Payload.text text = .binary data := htext.symm.trans hdata
      contradiction
    · have hall : w = ⟨_, _⟩ := Except.ok.inj (hwrite.symm.trans hwritten)
      show 0 < w.length
      rw [hall]
      show 0 < (f.bytes _).length
      rw [Stored.length_bytes]
      exact Nat.lt_add_left _ (Nat.succ_pos _)
  · obtain ⟨f, hsize, hkeeps, -, hbytes⟩ := exists_stored hwrite hpos
    -- The name is far below its budget, and the smallest buffer leaves room for all of it.
    have hlimit : (Utf8.ofString (emitter.fields entry).name).length ≤ 252 :=
      Nat.le_trans hname (by decide)
    have hroom : (Utf8.ofString (emitter.fields entry).name).length + 4 ≤ roomIn buffer := by
      rw [minRecordSize] at hsize
      rw [roomIn]
      omega
    have hversion : (emitter.header stamp entry).version ≠ 0 := by
      show currentVersion ≠ 0
      decide
    have hreads := hkeeps.reads (emitter.header stamp entry) hlimit hroom
    refine ⟨_, ?_, hreads.name.trans (congrArg _ h.untilNul_name)⟩
    rw [hbytes]
    exact f.parse_bytes _ hversion

end Sound

/-! ## Every sequence of requests -/

/-- What is true of an emitter at any time. -/
structure KeepsIdentity (emitter : Emitter) : Prop where
  /-- The name has at most 15 bytes. -/
  length_name_le : (Utf8.ofString emitter.name).length ≤ 15
  /-- The name has no NUL. -/
  name_clean : 0 ∉ Utf8.ofString emitter.name
  /-- A name is refused exactly if it is longer or has a NUL. -/
  refused_iff : ∀ name, (∃ fault, (emitter.serve (.setName name)).1 = .named (.error fault)) ↔
    15 < (Utf8.ofString name).length ∨ 0 ∈ Utf8.ofString name
  /-- A name that is taken is the name from then on. -/
  taken : ∀ name, (emitter.serve (.setName name)).1 = .named (.ok ()) →
    (emitter.serve (.setName name)).2 = { emitter with name := name }
  /-- A name that is refused leaves the whole emitter as it is. -/
  refused : ∀ name fault, (emitter.serve (.setName name)).1 = .named (.error fault) →
    (emitter.serve (.setName name)).2 = emitter
  /-- It is on or off from then on as it is asked to be. -/
  switched : ∀ on, (emitter.serve (.setEnabled on)).2 = { emitter with enabled := on }
  /-- Writing leaves the emitter as it is. -/
  encode : ∀ stamp buffer entry, (emitter.serve (.encode stamp buffer entry)).2 = emitter
  /-- While it is off nothing is written, and the buffer stays as it is. -/
  disabled : emitter.enabled = false → ∀ stamp buffer entry,
    (emitter.serve (.encode stamp buffer entry)).1 = .encoded (.ok ⟨0, buffer⟩)
  /-- While it is on, writing into 47 bytes or more does not fail; for a text there is a record, and
  the record that there is has the whole name. -/
  enabled : emitter.enabled = true → ∀ stamp buffer entry, 47 ≤ buffer.length →
    ∃ w, (emitter.serve (.encode stamp buffer entry)).1 = .encoded (.ok w) ∧
      (∀ text, entry.message = .text text → 0 < w.length) ∧
      (0 < w.length → ∃ r, parse (w.buffer.take w.length) = .ok r ∧ r.name = .ok emitter.name)

/-- Whatever is asked of an emitter since it was made, it keeps its identity. -/
theorem keeps_identity {made : Emitter} (h : Made made) (requests : List Request) :
    (made.serveAll requests).KeepsIdentity := by
  have hsound := h.sound.serveAll requests
  generalize made.serveAll requests = emitter at hsound
  constructor
  case length_name_le => exact hsound.length_name_le
  case name_clean => exact hsound.name_clean
  case refused_iff => exact emitter.refused_setName_iff
  case taken =>
    intro name htaken
    obtain ⟨-, heq⟩ | ⟨_, -, heq⟩ := emitter.serve_setName name
    · exact congrArg Prod.snd heq
    · have hrefused : Except.error _ = .ok () :=
        Answer.named.inj ((congrArg Prod.fst heq).symm.trans htaken)
      contradiction
  case refused =>
    intro name fault hrefused
    obtain ⟨-, heq⟩ | ⟨_, -, heq⟩ := emitter.serve_setName name
    · have htaken : Except.ok () = .error fault :=
        Answer.named.inj ((congrArg Prod.fst heq).symm.trans hrefused)
      contradiction
    · exact congrArg Prod.snd heq
  case switched => exact fun _ => rfl
  case encode => exact fun _ _ _ => rfl
  case disabled =>
    intro hoff stamp buffer entry
    exact congrArg Answer.encoded (if_neg (by simp [hoff]))
  case enabled =>
    intro hon stamp buffer entry hbuffer
    obtain ⟨w, hw, htext, hnamed⟩ := hsound.exists_named hon stamp entry hbuffer
    exact ⟨w, congrArg Answer.encoded hw, htext, hnamed⟩

/-- A name that is too long is refused and one with a NUL too, and the longest one is taken; its
record just has room in the smallest buffer. -/
theorem keeps_identity_longest_name :
    Made (unnamed 7) ∧
    (unnamed 7).serveAll [.setName "sixteen-bytes-xx", .setName "a\x00b", .setEnabled false,
      .setName "fifteen-bytes-x", .encode ⟨1, 2⟩ [0] ⟨.info, "t", .text "m", "f.c", 3⟩,
      .setEnabled true] = ⟨"fifteen-bytes-x", true, 7⟩ ∧
    KeepsIdentity ⟨"fifteen-bytes-x", true, 7⟩ :=
  ⟨.unnamed 7, rfl, keeps_identity (.unnamed 7) [.setName "sixteen-bytes-xx", .setName "a\x00b",
    .setEnabled false, .setName "fifteen-bytes-x",
    .encode ⟨1, 2⟩ [0] ⟨.info, "t", .text "m", "f.c", 3⟩, .setEnabled true]⟩

end NetSession.Emitter
