import TrishulSnmp.Wire.MessageGrammar

namespace TrishulSnmp.Wire

open OffsetReader Outcome Ber Asn1

variable {o o₁ o₂ : OID → Bytes → Prop}

theorem valueContent_mono (h : ∀ oid content, o₁ oid content → o₂ oid content) {value : SnmpValue} {tag : UInt8}
    {content : Bytes} (hv : ValueContent o₁ value tag content) : ValueContent o₂ value tag content := by
  cases hv with
  | objectIdentifier oid content ho => exact .objectIdentifier oid content (h oid content ho)
  | _ => constructor <;> assumption

theorem varbindElement_mono (h : ∀ oid content, o₁ oid content → o₂ oid content) {varbind : RawVarBind} {enc : Bytes}
    (hv : VarbindElement o₁ varbind enc) : VarbindElement o₂ varbind enc := by
  obtain ⟨tag, content, htlv, ht, name, value, hc, ⟨nt, nc, hn, hnt, hoid⟩, vt, vc, hvtlv, hval⟩ := hv
  exact ⟨tag, content, htlv, ht, name, value, hc, ⟨nt, nc, hn, hnt, h _ _ hoid⟩, vt, vc, hvtlv,
    valueContent_mono h hval⟩

theorem pduElement_mono (h : ∀ oid content, o₁ oid content → o₂ oid content) {pdu : Pdu} {enc : Bytes}
    (hp : PduElement o₁ pdu enc) : PduElement o₂ pdu enc := by
  obtain ⟨content, htlv, e1, e2, e3, e4, hc, i1, i2, i3, tag, list, hl, ht, hs⟩ := hp
  exact ⟨content, htlv, e1, e2, e3, e4, hc, i1, i2, i3, tag, list, hl, ht, hs.mono fun _ _ => varbindElement_mono h⟩

theorem messageFrame_mono (h : ∀ oid content, o₁ oid content → o₂ oid content) {message : SnmpMessage} {data : Bytes}
    (hm : MessageFrame o₁ message data) : MessageFrame o₂ message data := by
  obtain ⟨content, e1, e2, e3, htlv, hc, g1, g2, hp⟩ := hm
  exact ⟨content, e1, e2, e3, htlv, hc, g1, g2, pduElement_mono h hp⟩

theorem messageSyntax_mono (h : ∀ oid content, o₁ oid content → o₂ oid content) {message : SnmpMessage} {data : Bytes}
    (hm : MessageSyntax o₁ message data) : MessageSyntax o₂ message data := ⟨messageFrame_mono h hm.1, hm.2⟩

def Both (o₁ o₂ : OID → Bytes → Prop) (same : Prop) (oid : OID) (content : Bytes) : Prop :=
  o₁ oid content ∧ ∃ oid', o₂ oid' content ∧ (same → oid' = oid)

theorem valueContent_objectIdentifier {value : SnmpValue} {tag : UInt8} {content : Bytes}
    (h : ValueContent o value tag content) (ht : tag = objectIdentifierTag) :
    ∃ oid, value = .objectIdentifierValue oid ∧ o oid content := by
  cases h with
  | objectIdentifier oid _ ho => exact ⟨oid, rfl, ho⟩
  | _ => exact absurd ht (by decide)

theorem valueContent_both {same : Prop} {v₁ v₂ : SnmpValue} {tag : UInt8} {content : Bytes}
    (h₁ : ValueContent o₁ v₁ tag content) (h₂ : ValueContent o₂ v₂ tag content) (hsame : same → v₁ = v₂) :
    ValueContent (Both o₁ o₂ same) v₁ tag content := by
  cases h₁ with
  | objectIdentifier oid _ ho =>
    obtain ⟨oid', rfl, ho'⟩ := valueContent_objectIdentifier h₂ rfl
    refine .objectIdentifier oid _ ⟨ho, oid', ho', fun hs => ?_⟩
    have := hsame hs
    simpa using this.symm
  | _ => constructor <;> assumption

theorem varbindElement_both {same : Prop} {v₁ v₂ : RawVarBind} {enc : Bytes} (h₁ : VarbindElement o₁ v₁ enc)
    (h₂ : VarbindElement o₂ v₂ enc) (hsame : same → v₁ = v₂) : VarbindElement (Both o₁ o₂ same) v₁ enc := by
  obtain ⟨t, c, htlv, ht, name, value, rfl, ⟨nt, nc, hn, hnt, hoid⟩, vt, vc, hv, hval⟩ := h₁
  obtain ⟨t', c', htlv', -, name', value', rfl, ⟨nt', nc', hn', -, hoid'⟩, vt', vc', hv', hval'⟩ := h₂
  obtain ⟨rfl, happ⟩ := Prod.mk.inj (htlv.unique htlv')
  obtain ⟨hx, rfl⟩ := decodeTlv_reads.unique hn hn' happ
  obtain ⟨rfl, rfl⟩ := Prod.mk.inj hx
  obtain rfl := List.append_cancel_left happ
  obtain ⟨rfl, rfl⟩ := Prod.mk.inj (hv.unique hv')
  refine ⟨t, _, htlv, ht, name, value, rfl, ⟨nt, nc, hn, hnt, hoid, v₂.oid, hoid', ?_⟩, vt, vc, hv, ?_⟩
  · intro hs
    rw [hsame hs]
  · exact valueContent_both hval hval' fun hs => congrArg RawVarBind.value (hsame hs)

theorem VarbindElement.exists_tlv {varbind : RawVarBind} {enc : Bytes} (h : VarbindElement o varbind enc) :
    ∃ x, Tlv x enc := by
  obtain ⟨tag, content, htlv, -⟩ := h
  exact ⟨_, htlv⟩

theorem varbinds_both {same : Prop} {vs₁ vs₂ : List RawVarBind} {enc : Bytes}
    (h₁ : Sequence (VarbindElement o₁) vs₁ enc) (h₂ : Sequence (VarbindElement o₂) vs₂ enc)
    (hsame : same → vs₁ = vs₂) : Sequence (VarbindElement (Both o₁ o₂ same)) vs₁ enc := by
  induction h₁ generalizing vs₂ with
  | nil => exact .nil
  | @cons v₁ vs₁ e encs hv _ ih =>
    obtain ⟨x, hx⟩ := hv.exists_tlv
    generalize hcat : e ++ encs = cat at h₂
    cases h₂ with
    | nil => exact absurd (List.append_eq_nil_iff.mp hcat).1 hx.ne_nil
    | @cons v₂ vs₂ e' encs' hv' hs' =>
      obtain ⟨y, hy⟩ := hv'.exists_tlv
      obtain ⟨-, rfl⟩ := decodeTlv_reads.unique hx hy hcat
      obtain rfl := List.append_cancel_left hcat
      refine .cons (varbindElement_both hv hv' fun hs => ?_) (ih hs' fun hs => ?_)
      · exact (List.cons.inj (hsame hs)).1
      · exact (List.cons.inj (hsame hs)).2

theorem IntegerElement.exists_tlv {value : ℤ} {enc : Bytes} (h : IntegerElement value enc) : ∃ x, Tlv x enc := by
  obtain ⟨tag, content, htlv, -⟩ := h
  exact ⟨_, htlv⟩

theorem CommunityElement.exists_tlv {community : String} {enc : Bytes} (h : CommunityElement community enc) :
    ∃ x, Tlv x enc := by
  obtain ⟨tag, content, htlv, -⟩ := h
  exact ⟨_, htlv⟩

theorem head_unique {ex ey rx ry : Bytes} (hx : ∃ x, Tlv x ex) (hy : ∃ y, Tlv y ey)
    (h : ex ++ rx = ey ++ ry) : ex = ey ∧ rx = ry := by
  obtain ⟨_, hx⟩ := hx
  obtain ⟨_, hy⟩ := hy
  obtain ⟨-, rfl⟩ := decodeTlv_reads.unique hx hy h
  exact ⟨rfl, List.append_cancel_left h⟩

theorem pduElement_both {same : Prop} {p₁ p₂ : Pdu} {enc : Bytes} (h₁ : PduElement o₁ p₁ enc)
    (h₂ : PduElement o₂ p₂ enc) (hsame : same → p₁ = p₂) : PduElement (Both o₁ o₂ same) p₁ enc := by
  obtain ⟨_, htlv, e1, e2, e3, e4, rfl, i1, i2, i3, tag, list, hl, ht, hs⟩ := h₁
  obtain ⟨_, htlv', e1', e2', e3', e4', rfl, i1', i2', i3', tag', list', hl', -, hs'⟩ := h₂
  obtain ⟨-, happ⟩ := Prod.mk.inj (htlv.unique htlv')
  simp only [List.append_assoc] at happ
  obtain ⟨rfl, hrest⟩ := head_unique i1.exists_tlv i1'.exists_tlv happ
  obtain ⟨rfl, htail⟩ := head_unique i2.exists_tlv i2'.exists_tlv hrest
  obtain ⟨rfl, rfl⟩ := head_unique i3.exists_tlv i3'.exists_tlv htail
  obtain ⟨-, rfl⟩ := Prod.mk.inj (hl.unique hl')
  exact ⟨_, htlv, e1, e2, e3, e4, rfl, i1, i2, i3, tag, list, hl, ht,
    varbinds_both hs hs' fun h => congrArg Pdu.varbinds (hsame h)⟩

theorem messageSyntax_both (same : Prop) {m₁ m₂ : SnmpMessage} {data : Bytes} (h₁ : MessageSyntax o₁ m₁ data)
    (h₂ : MessageSyntax o₂ m₂ data) (hsame : same → m₁ = m₂) : MessageSyntax (Both o₁ o₂ same) m₁ data := by
  obtain ⟨⟨_, e1, e2, e3, htlv, rfl, g1, g2, hp⟩, hversion⟩ := h₁
  obtain ⟨⟨_, e1', e2', e3', htlv', rfl, g1', g2', hp'⟩, -⟩ := h₂
  obtain ⟨-, happ⟩ := Prod.mk.inj (htlv.unique htlv')
  -- both readings cut the octets in the same places
  simp only [List.append_assoc] at happ
  obtain ⟨rfl, hrest⟩ := head_unique g1.exists_tlv g1'.exists_tlv happ
  obtain ⟨rfl, rfl⟩ := head_unique g2.exists_tlv g2'.exists_tlv hrest
  exact ⟨⟨_, e1, e2, e3, htlv, rfl, g1, g2, pduElement_both hp hp' fun h => congrArg SnmpMessage.pdu (hsame h)⟩,
    hversion⟩

theorem MessageSyntax.oid_content {message : SnmpMessage} {data : Bytes} (h : MessageSyntax o message data) :
    ∀ varbind ∈ message.pdu.varbinds, ∃ content, o varbind.oid content := by
  intro varbind hmem
  obtain ⟨_, hvb⟩ := h.1.varbind_element varbind hmem
  obtain ⟨_, _, _, _, _, _, _, ⟨_, content, _, _, hoid⟩, _⟩ := hvb
  exact ⟨content, hoid⟩

theorem valueContent_realise {value : SnmpValue} {tag : UInt8} {content : Bytes}
    (h : ValueContent (fun _ content => ∃ oid, o oid content) value tag content) :
    ∃ value', ValueContent o value' tag content := by
  cases h with
  | objectIdentifier _ _ ho =>
    obtain ⟨oid, ho⟩ := ho
    exact ⟨_, .objectIdentifier oid content ho⟩
  | _ => exact ⟨_, by constructor <;> assumption⟩

theorem varbinds_realise {varbinds : List RawVarBind} {enc : Bytes}
    (h : Sequence (VarbindElement fun _ content => ∃ oid, o oid content) varbinds enc) :
    ∃ varbinds', Sequence (VarbindElement o) varbinds' enc := by
  induction h with
  | nil => exact ⟨[], .nil⟩
  | cons hvb _ ih =>
    obtain ⟨t, c, htlv, ht, name, value, hc, ⟨nt, nc, hn, hnt, oid, hoid⟩, vt, vc, hv, hval⟩ := hvb
    obtain ⟨value', hval'⟩ := valueContent_realise hval
    obtain ⟨varbinds', hvbs⟩ := ih
    exact ⟨⟨oid, value'⟩ :: varbinds',
      .cons ⟨t, c, htlv, ht, name, value, hc, ⟨nt, nc, hn, hnt, hoid⟩, vt, vc, hv, hval'⟩ hvbs⟩

theorem messageFrame_realise {message : SnmpMessage} {data : Bytes}
    (h : MessageFrame (fun _ content => ∃ oid, o oid content) message data) :
    ∃ message', MessageFrame o message' data ∧ message'.version = message.version := by
  obtain ⟨content, e1, e2, e3, htlv, hc, g1, g2, body, hp, r1, r2, r3, r4, hb, i1, i2, i3, tag, list, hl, ht, hs⟩ := h
  obtain ⟨varbinds, hvarbinds⟩ := varbinds_realise hs
  have hbody : PduBody o { message.pdu with varbinds := varbinds } body :=
    ⟨r1, r2, r3, r4, hb, i1, i2, i3, tag, list, hl, ht, hvarbinds⟩
  exact ⟨{ message with pdu := { message.pdu with varbinds := varbinds } },
    ⟨content, e1, e2, e3, htlv, hc, g1, g2, body, hp, hbody⟩, rfl⟩

theorem messageSyntax_realise {message : SnmpMessage} {data : Bytes}
    (h : MessageSyntax (fun _ content => ∃ oid, o oid content) message data) :
    ∃ message', MessageSyntax o message' data := by
  obtain ⟨message', hframe, hversion⟩ := messageFrame_realise h.1
  exact ⟨message', hframe, hversion.trans h.2⟩

end TrishulSnmp.Wire
