import NetSession.Endpoint.Ipv6
import NetSession.Proofs.Endpoint.Quad

/-!
# IPv6 addresses read back

Every form in which an address is written is read as that address (`Ipv6.read_render`): all eight
groups, a run of zero groups shortened to `::`, and the dotted quad of an IPv4-mapped address.

Both sides of a `::` are runs of groups, and a run is read up to the `::` or the end of the text
behind it (`readGroups_renderGroups`). No group is mistaken for the first octet of a dotted quad, as
no dot follows it. What a `::` stands for is found again from the number of groups that are missing
(`read_of_compressed`), since the shortened run is one of zeros (`longestZeroRun_eq`).
-/

namespace NetSession.Ipv6

/-! ## One group -/

/-- The digits of a number in hexadecimal read back. -/
theorem hexDigit?_digitChar {d : Nat} (hd : d < 16) : hexDigit? d.digitChar = some d := by
  have hall : ∀ d : Fin 16, hexDigit? d.1.digitChar = some d.1 := by decide
  exact hall ⟨d, hd⟩

/-- A digit behind others counts once, and those before it sixteen times. -/
theorem hexValue_append_singleton (digits : List Char) (c : Char) :
    hexValue (digits ++ [c]) = hexValue digits * 16 + (hexDigit? c).getD 0 := by
  unfold hexValue
  rw [List.foldl_append, List.foldl_cons, List.foldl_nil]

/-- The digits of a number in hexadecimal have its value. -/
theorem hexValue_toDigits (n : Nat) : hexValue (Nat.toDigits 16 n) = n := by
  induction n using Nat.strong_induction_on with
  | _ n ih =>
    rw [Nat.toDigits_eq_if (by decide)]
    split_ifs with hlt
    · have hdigit := hexDigit?_digitChar hlt
      have hvalue := hexValue_append_singleton [] n.digitChar
      rw [hdigit, List.nil_append] at hvalue
      rw [hvalue, show hexValue [] = 0 from rfl, Option.getD_some]
      omega
    · have hdigit := hexDigit?_digitChar (Nat.mod_lt n (show 16 > 0 by decide))
      have hsixteenth := ih (n / 16) (by omega)
      -- The last digit counts once, and those of the sixteenth of the number sixteen times.
      calc hexValue (Nat.toDigits 16 (n / 16) ++ [(n % 16).digitChar])
          = hexValue (Nat.toDigits 16 (n / 16)) * 16 + (hexDigit? (n % 16).digitChar).getD 0 :=
            hexValue_append_singleton _ _
        _ = n / 16 * 16 + n % 16 := by rw [hsixteenth, hdigit, Option.getD_some]
        _ = n := Nat.div_add_mod' n 16

/-- A group is written in hexadecimal digits. -/
theorem isSome_of_mem_renderGroup {group : UInt16} {c : Char} (h : c ∈ renderGroup group) :
    (hexDigit? c).isSome = true := by
  obtain ⟨d, hd, rfl⟩ := exists_of_mem_toDigits (by decide) h
  rw [hexDigit?_digitChar hd, Option.isSome_some]

/-- A group takes at most four digits. -/
theorem length_renderGroup_le (group : UInt16) : (renderGroup group).length ≤ 4 := by
  have hbound : group.toNat < 16 ^ 4 := group.toNat_lt
  exact (Nat.length_toDigits_le_iff (by decide) (by decide)).mpr hbound

/-- Up to the next character that is no digit, a group is read back. -/
theorem readGroup_renderGroup_append (group : UInt16) {rest : List Char}
    (hrest : ∀ c ∈ rest.head?, c = ':') :
    readGroup (renderGroup group ++ rest) = some (group, rest) := by
  have hdigits : ∀ c ∈ renderGroup group, (hexDigit? c).isSome = true :=
    fun _ => isSome_of_mem_renderGroup
  have hcolon : ∀ c ∈ rest.head?, (hexDigit? c).isSome = false := by
    rintro c hc
    rw [hrest c hc]
    decide
  have hne : (renderGroup group).length ≠ 0 :=
    fun h => Nat.toDigits_ne_nil (List.length_eq_zero_iff.mp h)
  have hlength := length_renderGroup_le group
  obtain ⟨htake, -⟩ := takeWhile_append_of_head? hdigits hcolon
  unfold readGroup
  dsimp only
  rw [htake, if_neg (by omega), List.drop_left]
  rw [renderGroup, hexValue_toDigits, Nat.toUInt16_eq, UInt16.ofNat_toNat]

/-! ## Runs of groups -/

/-- Neither a dotted quad nor a group starts at a colon or at the end of a text. -/
theorem starts_nothing {text : List Char} (h : ∀ c ∈ text.head?, c = ':') :
    Ipv4.readFirst text = none ∧ readGroup text = none := by
  cases text with
  | nil => exact ⟨by decide, by decide⟩
  | cons c text =>
    obtain rfl := h c rfl
    constructor
    · exact Ipv4.readFirst_eq_none fun c hc => by
        obtain rfl := Option.some.inj hc
        decide
    · rfl

/-- What ends a run of groups: the end of the text, or two colons. -/
def Stops (rest : List Char) : Prop := rest = [] ∨ ∃ behind, rest = ':' :: ':' :: behind

/-- Where a run of groups stops, there is a colon or nothing. -/
theorem Stops.head? {rest : List Char} (h : Stops rest) : ∀ c ∈ rest.head?, c = ':' := by
  rintro c hc
  rcases h with rfl | ⟨behind, rfl⟩
  · exact absurd hc (by simp)
  · exact (Option.some.inj hc).symm

/-- Nothing is read where a run stops, neither as a first group nor behind others. -/
theorem Stops.readGroups {rest : List Char} (h : Stops rest) (first : Bool) (room : Nat) :
    Ipv6.readGroups first room rest = ⟨[], false, rest⟩ := by
  have hafter : ∀ after ∈ afterSeparator first rest, ∀ c ∈ after.head?, c = ':' := by
    rintro after hmem
    cases first with
    | true =>
      obtain rfl := Option.some.inj hmem
      exact h.head?
    | false =>
      -- Behind the first colon there is a second one.
      rcases h with rfl | ⟨behind, rfl⟩
      · exact absurd hmem (by simp [afterSeparator])
      · obtain rfl := Option.some.inj hmem
        exact fun c hc => (Option.some.inj hc).symm
  cases room with
  | zero => rfl
  | succ room =>
    have hquad : (afterSeparator first rest).bind Ipv4.readFirst = none :=
      Option.bind_eq_none_iff.mpr fun after hmem => (starts_nothing (hafter after hmem)).1
    have hgroup : (afterSeparator first rest).bind readGroup = none :=
      Option.bind_eq_none_iff.mpr fun after hmem => (starts_nothing (hafter after hmem)).2
    rw [Ipv6.readGroups, hquad, hgroup, ite_self]

/-- A group that starts no dotted quad is read, and the groups behind it after that. -/
theorem readGroups_group {first : Bool} {room : Nat} {text after rest : List Char}
    {group : UInt16} (hafter : afterSeparator first text = some after)
    (hquad : Ipv4.readFirst after = none) (hgroup : readGroup after = some (group, rest)) :
    readGroups first (room + 1) text =
      ⟨group :: (readGroups false room rest).groups, (readGroups false room rest).dotted,
        (readGroups false room rest).rest⟩ := by
  rw [readGroups, hafter, Option.bind_some, Option.bind_some, hquad, hgroup, ite_self]

/-- The text of further groups, each behind its colon. -/
def furtherGroups (groups : List UInt16) : List Char :=
  groups.flatMap fun group => ':' :: renderGroup group

/-- The text of groups is that of the first and of the further ones. -/
theorem renderGroups_cons (group : UInt16) (groups : List UInt16) :
    renderGroups (group :: groups) = renderGroup group ++ furtherGroups groups := by
  induction groups generalizing group with
  | nil => simp [renderGroups, furtherGroups]
  | cons next groups ih =>
    have hnext := ih next
    unfold renderGroups furtherGroups at hnext ⊢
    rw [List.map_cons] at hnext
    rw [List.map_cons, List.map_cons, List.intercalate_cons_cons, hnext, List.flatMap_cons]
    simp only [List.append_assoc, List.cons_append, List.nil_append]

/-- Groups are written in hexadecimal digits and colons. -/
theorem mem_furtherGroups {groups : List UInt16} {c : Char} (h : c ∈ furtherGroups groups) :
    (hexDigit? c).isSome = true ∨ c = ':' := by
  obtain ⟨group, -, hc⟩ := List.mem_flatMap.mp h
  rcases List.mem_cons.mp hc with hcolon | hdigit
  · exact Or.inr hcolon
  · exact Or.inl (isSome_of_mem_renderGroup hdigit)

/-- Groups are written in hexadecimal digits and colons. -/
theorem mem_renderGroups {groups : List UInt16} {c : Char} (h : c ∈ renderGroups groups) :
    (hexDigit? c).isSome = true ∨ c = ':' := by
  cases groups with
  | nil => exact absurd h (by simp [renderGroups])
  | cons group groups =>
    rw [renderGroups_cons] at h
    rcases List.mem_append.mp h with hfirst | hfurther
    · exact Or.inl (isSome_of_mem_renderGroup hfirst)
    · exact mem_furtherGroups hfurther

/-- There is no dot in further groups. -/
theorem dot_not_mem_furtherGroups_append {groups : List UInt16} {rest : List Char}
    (hdot : '.' ∉ rest) : '.' ∉ furtherGroups groups ++ rest := by
  intro hmem
  rcases List.mem_append.mp hmem with hfurther | hrest
  · exact absurd (mem_furtherGroups hfurther) (by decide)
  · exact hdot hrest

/-- Further groups and where they stop start with a colon or not at all. -/
theorem head?_furtherGroups_append (groups : List UInt16) {rest : List Char} (hrest : Stops rest) :
    ∀ c ∈ (furtherGroups groups ++ rest).head?, c = ':' := by
  cases groups with
  | nil => exact hrest.head?
  | cons group groups => exact fun c hc => (Option.some.inj hc).symm

/-- Text without a dot starts no dotted quad. -/
theorem readFirst_eq_none_of_not_mem {text : List Char} (h : '.' ∉ text) :
    Ipv4.readFirst text = none := by
  refine Ipv4.readFirst_eq_none fun c hc hdot => h ?_
  have hmem := List.mem_of_mem_head? hc
  rw [hdot] at hmem
  exact List.dropWhile_subset _ hmem

/-- Without a dot in it, a group is read from the head of a text and the rest behind it. -/
theorem readGroups_renderGroup {first : Bool} {room : Nat} {group : UInt16} {text rest : List Char}
    (hafter : afterSeparator first text = some (renderGroup group ++ rest)) (hdot : '.' ∉ rest)
    (hrest : ∀ c ∈ rest.head?, c = ':') :
    readGroups first (room + 1) text =
      ⟨group :: (readGroups false room rest).groups, (readGroups false room rest).dotted,
        (readGroups false room rest).rest⟩ := by
  have hquad : Ipv4.readFirst (renderGroup group ++ rest) = none := by
    refine readFirst_eq_none_of_not_mem fun hmem => ?_
    rcases List.mem_append.mp hmem with hdigit | hbehind
    · exact absurd (isSome_of_mem_renderGroup hdigit) (by decide)
    · exact hdot hbehind
  exact readGroups_group hafter hquad (readGroup_renderGroup_append group hrest)

/-- Further groups are read back, each behind its colon. -/
theorem readGroups_furtherGroups {groups : List UInt16} {room : Nat} {rest : List Char}
    (hroom : groups.length ≤ room) (hdot : '.' ∉ rest) (hrest : Stops rest) :
    readGroups false room (furtherGroups groups ++ rest) = ⟨groups, false, rest⟩ := by
  induction groups generalizing room with
  | nil => exact hrest.readGroups false room
  | cons group groups ih =>
    cases room with
    | zero => exact absurd hroom (by simp)
    | succ room =>
      have hbehind := ih (Nat.le_of_succ_le_succ hroom)
      have hafter : afterSeparator false (furtherGroups (group :: groups) ++ rest) =
          some (renderGroup group ++ (furtherGroups groups ++ rest)) := by
        rw [← List.append_assoc]
        rfl
      rw [readGroups_renderGroup hafter (dot_not_mem_furtherGroups_append hdot)
        (head?_furtherGroups_append groups hrest), hbehind]

/-- A run of groups is read back, up to where it stops. -/
theorem readGroups_renderGroups {groups : List UInt16} {room : Nat} {rest : List Char}
    (hroom : groups.length ≤ room) (hdot : '.' ∉ rest) (hrest : Stops rest) :
    readGroups true room (renderGroups groups ++ rest) = ⟨groups, false, rest⟩ := by
  cases groups with
  | nil => exact hrest.readGroups true room
  | cons group groups =>
    cases room with
    | zero => exact absurd hroom (by simp)
    | succ room =>
      have hbehind := readGroups_furtherGroups (Nat.le_of_succ_le_succ hroom) hdot hrest
      have hafter : afterSeparator true (renderGroups (group :: groups) ++ rest) =
          some (renderGroup group ++ (furtherGroups groups ++ rest)) := by
        rw [renderGroups_cons, List.append_assoc]
        rfl
      rw [readGroups_renderGroup hafter (dot_not_mem_furtherGroups_append hdot)
        (head?_furtherGroups_append groups hrest), hbehind]

/-! ## The shortened run of zero groups -/

/-- The run of zero groups at the head is one of zeros, and groups follow it. -/
theorem zeroRun_eq (groups : List UInt16) :
    ∃ after, groups = List.replicate (zeroRun groups) 0 ++ after := by
  refine ⟨groups.dropWhile (· == 0), ?_⟩
  have hzeros : groups.takeWhile (· == 0) = List.replicate (zeroRun groups) 0 :=
    List.eq_replicate_iff.mpr ⟨rfl, fun group h => by simpa using List.mem_takeWhile_imp h⟩
  rw [← hzeros, List.takeWhile_append_dropWhile]

/-- Where a longest run of zero groups is found, there are as many zero groups. -/
theorem longestZeroRun_eq {groups : List UInt16} {offset start length : Nat}
    (h : longestZeroRun offset groups = (start, length)) (hpos : 0 < length) :
    ∃ before after, groups = before ++ List.replicate length 0 ++ after ∧
      start = offset + before.length := by
  induction groups generalizing offset with
  | nil =>
    obtain ⟨-, rfl⟩ := Prod.mk.inj h
    exact absurd hpos (Nat.lt_irrefl 0)
  | cons group groups ih =>
    rw [longestZeroRun] at h
    split at h
    next later longest hlater =>
    split_ifs at h with hhere
    · -- The run lies behind this group.
      obtain ⟨rfl, rfl⟩ := Prod.mk.inj h
      obtain ⟨before, after, rfl, rfl⟩ := ih hlater
      refine ⟨group :: before, after, rfl, ?_⟩
      rw [List.length_cons]
      omega
    · -- The run starts at this group.
      obtain ⟨rfl, rfl⟩ := Prod.mk.inj h
      obtain ⟨after, hafter⟩ := zeroRun_eq (group :: groups)
      exact ⟨[], after, hafter, rfl⟩

/-! ## The mapped form -/

/-- Two octets of a group give it back. -/
theorem ofOctets (group : UInt16) :
    (group / 256).toUInt8.toUInt16 * 256 + (group % 256).toUInt8.toUInt16 = group := by
  have hbound := group.toNat_lt
  apply UInt16.toNat_inj.mp
  simp only [UInt16.toNat_add, UInt16.toNat_mul, UInt8.toNat_toUInt16, UInt16.toNat_toUInt8,
    UInt16.toNat_div, UInt16.toNat_mod, UInt16.reduceToNat]
  omega

/-- The groups of an address that stands for an IPv4 address are given by that address. -/
theorem groups_of_mapped? {ip : Ipv6} {v4 : Ipv4} (h : ip.mapped? = some v4) :
    ip.groups = List.replicate 5 0 ++ [0xFFFF, v4.a.toUInt16 * 256 + v4.b.toUInt16,
      v4.c.toUInt16 * 256 + v4.d.toUInt16] := by
  unfold mapped? at h
  split at h
  · next high low hgroups =>
    obtain rfl := Option.some.inj h
    rw [hgroups, ofOctets, ofOctets]
    rfl
  · exact absurd h (by simp)

/-- The last three groups of a mapped address are read back from behind the `::`. -/
theorem readGroups_mapped (v4 : Ipv4) :
    readGroups true 7 ("ffff:".toList ++ v4.render) =
      ⟨[0xFFFF, v4.a.toUInt16 * 256 + v4.b.toUInt16, v4.c.toUInt16 * 256 + v4.d.toUInt16],
        true, []⟩ := by
  have hafter : afterSeparator true ("ffff:".toList ++ v4.render) =
      some (renderGroup 0xFFFF ++ ':' :: v4.render) := rfl
  have hquad : Ipv4.readFirst (renderGroup 0xFFFF ++ ':' :: v4.render) = none :=
    Ipv4.readFirst_eq_none fun c hc => by
      obtain rfl : 'f' = c := Option.some.inj hc
      decide
  have hgroup : readGroup (renderGroup 0xFFFF ++ ':' :: v4.render) =
      some (0xFFFF, ':' :: v4.render) :=
    readGroup_renderGroup_append 0xFFFF fun c hc => (Option.some.inj hc).symm
  have hfirst : Ipv4.readFirst (v4.render ++ []) = some (v4, []) :=
    v4.readFirst_render_append (by simp)
  rw [List.append_nil] at hfirst
  have hbehind : readGroups false 6 (':' :: v4.render) =
      ⟨[v4.a.toUInt16 * 256 + v4.b.toUInt16, v4.c.toUInt16 * 256 + v4.d.toUInt16], true, []⟩ := by
    rw [readGroups, show afterSeparator false (':' :: v4.render) = some v4.render from rfl,
      Option.bind_some, hfirst]
    rfl
  rw [readGroups_group hafter hquad hgroup, hbehind]

/-! ## Addresses -/

/-- The groups of an address are those of no other. -/
theorem ofGroups?_groups {ip : Ipv6} {groups : List UInt16} (h : groups = ip.groups) :
    ofGroups? groups = some ip := by
  have hlength : groups.length = 8 := by rw [h, ip.length_groups]
  unfold ofGroups?
  rw [dif_pos hlength]
  congr

/-- Two colons between two runs of groups stand for the zero groups that are missing. -/
theorem read_of_compressed {ip : Ipv6} {text behind : List Char} {before after : List UInt16}
    {zeros : Nat} {dotted : Bool}
    (hgroups : ip.groups = before ++ List.replicate zeros 0 ++ after) (hzeros : 0 < zeros)
    (hhead : readGroups true 8 text = ⟨before, false, ':' :: ':' :: behind⟩)
    (htail : readGroups true (7 - before.length) behind = ⟨after, dotted, []⟩) :
    read text = some ip := by
  have hlength := ip.length_groups
  rw [hgroups, List.length_append, List.length_append, List.length_replicate] at hlength
  have hmissing : 8 - before.length - after.length = zeros := by omega
  unfold read
  simp only [hhead]
  rw [if_neg (by omega), if_neg (by simp), htail]
  dsimp only
  rw [if_pos rfl, hmissing]
  exact ofGroups?_groups hgroups.symm

/-- The three forms of an address: mapped, shortened and whole. -/
theorem render_cases (ip : Ipv6) :
    (∃ v4, ip.mapped? = some v4 ∧ ip.render = "::ffff:".toList ++ v4.render) ∨
    (∃ before zeros after, 1 < zeros ∧ ip.groups = before ++ List.replicate zeros 0 ++ after ∧
      ip.render = renderGroups before ++ [':', ':'] ++ renderGroups after) ∨
    ip.render = renderGroups ip.groups := by
  unfold render
  split
  · next v4 hmapped => exact Or.inl ⟨v4, hmapped, rfl⟩
  · split
    next start zeros hrun =>
    split_ifs with hlong
    · -- The run that is left out has its groups before and behind it.
      obtain ⟨before, after, hgroups, hstart⟩ := longestZeroRun_eq hrun (by omega)
      have htake : ip.groups.take start = before := by
        rw [hgroups, hstart, Nat.zero_add, List.append_assoc, List.take_left]
      have hdrop : ip.groups.drop (start + zeros) = after := by
        refine hgroups ▸ List.drop_left' ?_
        rw [List.length_append, List.length_replicate, hstart, Nat.zero_add]
      rw [htake, hdrop]
      exact Or.inr (Or.inl ⟨before, zeros, after, hlong, hgroups, rfl⟩)
    · exact Or.inr (Or.inr rfl)

/-- The mapped form is read back. It has nothing before the two colons. -/
theorem read_mapped {ip : Ipv6} {v4 : Ipv4} (h : ip.mapped? = some v4) :
    read ("::ffff:".toList ++ v4.render) = some ip := by
  have hstops : Stops ("::ffff:".toList ++ v4.render) := Or.inr ⟨_, rfl⟩
  have hgroups := groups_of_mapped? h
  rw [← List.nil_append (List.replicate 5 0)] at hgroups
  exact read_of_compressed hgroups (by decide) (hstops.readGroups true 8) (readGroups_mapped v4)

/-- A shortened form is read back. -/
theorem read_shortened {ip : Ipv6} {before after : List UInt16} {zeros : Nat}
    (hgroups : ip.groups = before ++ List.replicate zeros 0 ++ after) (hzeros : 0 < zeros) :
    read (renderGroups before ++ [':', ':'] ++ renderGroups after) = some ip := by
  have hlength := ip.length_groups
  rw [hgroups, List.length_append, List.length_append, List.length_replicate] at hlength
  have hnodot : '.' ∉ [':', ':'] ++ renderGroups after := by
    intro hmem
    rcases List.mem_append.mp hmem with hcolons | hafter
    · exact absurd hcolons (by decide)
    · exact absurd (mem_renderGroups hafter) (by decide)
  have hhead : readGroups true 8 (renderGroups before ++ ([':', ':'] ++ renderGroups after)) =
      ⟨before, false, ':' :: ':' :: renderGroups after⟩ :=
    readGroups_renderGroups (by omega) hnodot (Or.inr ⟨_, rfl⟩)
  have htail : readGroups true (7 - before.length) (renderGroups after ++ []) =
      ⟨after, false, []⟩ :=
    readGroups_renderGroups (by omega) (by simp) (Or.inl rfl)
  rw [List.append_nil] at htail
  rw [List.append_assoc]
  exact read_of_compressed hgroups hzeros hhead htail

/-- All eight groups are read back. -/
theorem read_renderGroups (ip : Ipv6) : read (renderGroups ip.groups) = some ip := by
  have hlength := ip.length_groups
  have hread : readGroups true 8 (renderGroups ip.groups ++ []) = ⟨ip.groups, false, []⟩ :=
    readGroups_renderGroups hlength.le (by simp) (Or.inl rfl)
  rw [List.append_nil] at hread
  rw [read, hread]
  dsimp only
  rw [if_pos hlength, if_pos rfl]
  exact ofGroups?_groups rfl

/-- An address is read back, in whichever form it is written. -/
theorem read_render (ip : Ipv6) : read ip.render = some ip := by
  obtain ⟨v4, hmapped, heq⟩ | ⟨before, zeros, after, hlong, hgroups, heq⟩ | heq := ip.render_cases
  · rw [heq]
    exact read_mapped hmapped
  · rw [heq]
    exact read_shortened hgroups (Nat.lt_of_succ_lt hlong)
  · rw [heq]
    exact ip.read_renderGroups

/-! ## The characters of an address -/

/-- The characters in which addresses of both families are written. -/
def isAddressChar (c : Char) : Bool := (hexDigit? c).isSome || c == ':' || c == '.'

/-- Digits in decimal are hexadecimal ones. -/
theorem isAddressChar_of_isDigit {c : Char} (h : c.isDigit = true) : isAddressChar c = true := by
  simp only [Char.isDigit, Bool.and_eq_true, decide_eq_true_eq] at h
  have hdigit : hexDigit? c = some (c.toNat - '0'.toNat) := if_pos h
  rw [isAddressChar, hdigit]
  rfl

/-- Groups are written in such characters. -/
theorem isAddressChar_of_mem_renderGroups {groups : List UInt16} {c : Char}
    (h : c ∈ renderGroups groups) : isAddressChar c = true := by
  unfold isAddressChar
  rcases mem_renderGroups h with hdigit | rfl
  · rw [hdigit, Bool.true_or, Bool.true_or]
  · decide

/-- A dotted quad is written in such characters. -/
theorem isAddressChar_of_mem_quad {ip : Ipv4} {c : Char} (h : c ∈ ip.render) :
    isAddressChar c = true := by
  rcases Ipv4.mem_render h with hdigit | rfl
  · exact isAddressChar_of_isDigit hdigit
  · decide

/-- An address is written in such characters. -/
theorem isAddressChar_of_mem_render {ip : Ipv6} {c : Char} (h : c ∈ ip.render) :
    isAddressChar c = true := by
  obtain ⟨v4, -, heq⟩ | ⟨before, zeros, after, -, -, heq⟩ | heq := ip.render_cases
  · rw [heq] at h
    rcases List.mem_append.mp h with hfront | hquad
    · have hall : "::ffff:".toList.all isAddressChar = true := by decide
      exact List.all_eq_true.mp hall c hfront
    · exact isAddressChar_of_mem_quad hquad
  · rw [heq] at h
    rcases List.mem_append.mp h with hfront | hafter
    · rcases List.mem_append.mp hfront with hbefore | hcolons
      · exact isAddressChar_of_mem_renderGroups hbefore
      · have hall : [':', ':'].all isAddressChar = true := by decide
        exact List.all_eq_true.mp hall c hcolons
    · exact isAddressChar_of_mem_renderGroups hafter
  · exact isAddressChar_of_mem_renderGroups (heq ▸ h)

/-- Two groups or more are written with a colon. -/
theorem colon_mem_renderGroups {groups : List UInt16} (h : 2 ≤ groups.length) :
    ':' ∈ renderGroups groups := by
  cases groups with
  | nil => exact absurd h (by simp)
  | cons first groups =>
    rw [renderGroups_cons]
    refine List.mem_append_right _ ?_
    cases groups with
    | nil => exact absurd h (by simp)
    | cons second groups => exact List.mem_cons_self

/-- An address is written with a colon. -/
theorem colon_mem_render (ip : Ipv6) : ':' ∈ ip.render := by
  obtain ⟨v4, -, heq⟩ | ⟨before, zeros, after, -, -, heq⟩ | heq := ip.render_cases <;> rw [heq]
  · exact List.mem_append_left _ (by decide)
  · exact List.mem_append_left _ (List.mem_append_right _ (by decide))
  · have hlength := ip.length_groups
    exact colon_mem_renderGroups (by omega)

end NetSession.Ipv6
