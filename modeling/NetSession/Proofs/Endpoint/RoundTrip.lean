import NetSession.Proofs.Endpoint.Grammar

/-!
# Endpoints read back

The written form of an endpoint is read as that endpoint, whatever blanks stand around it, and so is
the written form of its address beside its port, for an IPv6 address with and without brackets
(`understood`).

An address is written in hexadecimal digits, colons and dots (`Ipv6.isAddressChar`). So neither
trimming nor taking off brackets takes any of it, a colon in it tells an IPv6 address from an IPv4
one, and the last colon of an endpoint is the one before its port.
-/

namespace NetSession

/-! ## Addresses -/

/-- There is no colon in a dotted quad. -/
theorem Ipv4.colon_not_mem_render (ip : Ipv4) : ':' ∉ ip.render :=
  fun h => absurd (mem_render h) (by decide)

namespace Ip

/-- The texts that stand for an address: its written form, and that of an IPv6 address in
brackets. -/
inductive Form : Ip → List Char → Prop
  /-- As it is written. -/
  | plain (ip : Ip) : Form ip ip.render
  /-- In brackets. -/
  | bracketed (ip : Ipv6) : Form (.v6 ip) ('[' :: ip.render ++ [']'])

/-- A text that stands for an address is not empty, and no character of it is a blank. -/
theorem Form.visible {ip : Ip} {text : List Char} (h : Form ip text) :
    text ≠ [] ∧ ∀ c ∈ text, Text.isBlank c = false := by
  cases h with
  | plain =>
    cases ip with
    | v4 ip =>
      have hne : ip.render ≠ [] :=
        List.append_ne_nil_of_right_ne_nil _ (List.cons_ne_nil _ _)
      refine ⟨hne, fun c hc => ?_⟩
      exact Ipv6.isBlank_of_isAddressChar (Ipv6.isAddressChar_of_mem_quad hc)
    | v6 ip =>
      refine ⟨List.ne_nil_of_mem ip.colon_mem_render, fun c hc => ?_⟩
      exact Ipv6.isBlank_of_isAddressChar (Ipv6.isAddressChar_of_mem_render hc)
  | bracketed ip =>
    refine ⟨List.cons_ne_nil _ _, fun c hc => ?_⟩
    rcases List.mem_append.mp hc with hfront | hclosing
    · rcases List.mem_cons.mp hfront with rfl | hc
      · decide
      · exact Ipv6.isBlank_of_isAddressChar (Ipv6.isAddressChar_of_mem_render hc)
    · rw [List.mem_singleton.mp hclosing]
      decide

end Ip

namespace Endpoint

/-- A text that stands for an address is read as that address, whatever blanks are around it. -/
theorem readIp_form {ip : Ip} {text before after : List Char} (h : ip.Form text)
    (hbefore : ∀ c ∈ before, Text.isBlank c = true) (hafter : ∀ c ∈ after, Text.isBlank c = true) :
    readIp (before ++ text ++ after) = some ip := by
  obtain ⟨hne, hvisible⟩ := h.visible
  have htrim := Text.trim_append hne hbefore hvisible hafter
  cases h with
  | plain =>
    cases ip with
    | v4 ip =>
      have hcolon : ':' ∉ (Ip.v4 ip).render := ip.colon_not_mem_render
      unfold readIp
      dsimp only
      rw [htrim, if_neg hcolon, Ip.render, ip.read_render, Option.map_some]
    | v6 ip =>
      refine readIp_eq_v6_iff.mpr ⟨0, 0, ip.render, ?_, ip.read_render⟩
      rw [htrim]
      exact (List.append_nil _).symm
  | bracketed ip => exact readIp_eq_v6_iff.mpr ⟨1, 1, ip.render, htrim, ip.read_render⟩

/-- An endpoint is written as a text that stands for its address, a colon and its port. -/
theorem exists_render_eq (endpoint : Endpoint) : ∃ address, endpoint.ip.Form address ∧
    endpoint.render = address ++ ':' :: Decimal.render endpoint.port.toNat := by
  obtain ⟨ip, port⟩ := endpoint
  cases ip with
  | v4 ip => exact ⟨ip.render, .plain (.v4 ip), rfl⟩
  | v6 ip =>
    refine ⟨_, .bracketed ip, ?_⟩
    simp only [render, List.append_assoc, List.cons_append, List.nil_append]

/-- A text that stands for an address gives the endpoint of it and the port. -/
theorem resolve_form {ip : Ip} {text before after : List Char} (port : UInt16) (h : ip.Form text)
    (hbefore : ∀ c ∈ before, Text.isBlank c = true) (hafter : ∀ c ∈ after, Text.isBlank c = true) :
    resolve (String.ofList (before ++ text ++ after)) port = .ok ⟨ip, port⟩ := by
  rw [resolve, String.toList_ofList, readIp_form h hbefore hafter]

/-- The written form of an endpoint is read as that endpoint, whatever blanks are around it. -/
theorem read_render (endpoint : Endpoint) {before after : List Char}
    (hbefore : ∀ c ∈ before, Text.isBlank c = true) (hafter : ∀ c ∈ after, Text.isBlank c = true) :
    read (String.ofList (before ++ endpoint.render ++ after)) = .ok endpoint := by
  obtain ⟨address, hform, hrender⟩ := endpoint.exists_render_eq
  obtain ⟨-, hvisible⟩ := hform.visible
  have hport : ∀ c ∈ Decimal.render endpoint.port.toNat, Ipv6.isAddressChar c = true :=
    fun c hc => Ipv6.isAddressChar_of_isDigit (Decimal.isDigit_of_mem_render hc)
  have htrim : Text.trim (before ++ endpoint.render ++ after) = endpoint.render := by
    refine Text.trim_append ?_ hbefore ?_ hafter <;> rw [hrender]
    · exact List.append_ne_nil_of_right_ne_nil _ (List.cons_ne_nil _ _)
    · rintro c hc
      rcases List.mem_append.mp hc with haddress | hbehind
      · exact hvisible c haddress
      · rcases List.mem_cons.mp hbehind with rfl | hdigit
        · decide
        · exact Ipv6.isBlank_of_isAddressChar (hport c hdigit)
  have hip : readIp ([] ++ address ++ []) = some endpoint.ip :=
    readIp_form hform (by simp) (by simp)
  rw [List.nil_append, List.append_nil] at hip
  rw [read_eq_ok_iff, String.toList_ofList, htrim, hrender]
  exact ⟨address, _, rfl, hip, .plain (Decimal.digits_render _)⟩

/-- The text of an endpoint is read as that endpoint. -/
theorem read_text (endpoint : Endpoint) : read endpoint.text = .ok endpoint := by
  have hread : read (String.ofList ([] ++ endpoint.render ++ [])) = .ok endpoint :=
    endpoint.read_render (by simp) (by simp)
  rwa [List.nil_append, List.append_nil] at hread

/-- No two endpoints have the same text. -/
theorem text_injective : Function.Injective text := by
  intro first second h
  have hread := first.read_text
  rw [h, second.read_text] at hread
  exact (Except.ok.inj hread).symm

/-- The text of an endpoint is read as that endpoint, with blanks around it as well, and every text
that stands for its address gives the endpoint with its port. -/
theorem understood (endpoint : Endpoint) (before after : List Char)
    (hbefore : ∀ c ∈ before, Text.isBlank c = true) (hafter : ∀ c ∈ after, Text.isBlank c = true) :
    read endpoint.text = .ok endpoint ∧
    read (String.ofList (before ++ endpoint.render ++ after)) = .ok endpoint ∧
    ∀ address, endpoint.ip.Form address →
      resolve (String.ofList (before ++ address ++ after)) endpoint.port = .ok endpoint :=
  ⟨endpoint.read_text, endpoint.read_render hbefore hafter,
    fun _ hform => resolve_form endpoint.port hform hbefore hafter⟩

/-- An IPv4-mapped address on a port, read with blanks around it. -/
theorem understood_mapped :
    let ip : Ipv6 := ⟨[0, 0, 0, 0, 0, 0xFFFF, 0x0A00, 0x0001], rfl⟩
    text ⟨.v6 ip, 514⟩ = "[::ffff:10.0.0.1]:514" ∧
    read "\t [::ffff:10.0.0.1]:514\u00a0" = .ok ⟨.v6 ip, 514⟩ ∧
    resolve "\t [::ffff:10.0.0.1]\u00a0" 514 = .ok ⟨.v6 ip, 514⟩ := by
  intro ip
  have htext : text ⟨.v6 ip, 514⟩ = "[::ffff:10.0.0.1]:514" := by decide +kernel
  have hspaced : String.ofList (['\t', ' '] ++ render ⟨.v6 ip, 514⟩ ++ ['\u00a0']) =
      "\t [::ffff:10.0.0.1]:514\u00a0" := by decide +kernel
  have haddress : String.ofList (['\t', ' '] ++ ('[' :: ip.render ++ [']']) ++ ['\u00a0']) =
      "\t [::ffff:10.0.0.1]\u00a0" := by decide +kernel
  have hbefore : ['\t', ' '].all Text.isBlank = true := by decide
  have hafter : ['\u00a0'].all Text.isBlank = true := by decide
  obtain ⟨-, hread, hresolve⟩ := understood ⟨.v6 ip, 514⟩ _ _ (List.all_eq_true.mp hbefore)
    (List.all_eq_true.mp hafter)
  have hbracketed := hresolve _ (.bracketed ip)
  rw [hspaced] at hread
  rw [haddress] at hbracketed
  exact ⟨htext, hread, hbracketed⟩

end Endpoint

end NetSession
