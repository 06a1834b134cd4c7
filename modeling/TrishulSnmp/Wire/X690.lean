import TrishulSnmp.Wire.Framing

namespace TrishulSnmp.Wire

open OffsetReader Outcome Ber Asn1

def topArcs (first : ℕ) : OID :=
  if first < 40 then [0, first] else if first < 80 then [1, first - 40] else [2, first - 80]

/-- X.690: a non-empty sequence of terminated sub-identifiers, the first of which holds two arcs. -/
inductive X690Content : OID → Bytes → Prop
  | mk (first : ℕ) (arcs : List ℕ) (content : Bytes) : Sequence Base128.Group (first :: arcs) content →
      X690Content (topArcs first ++ arcs.map fun arc : ℕ => (arc : ℤ)) content

def AcceptsGrammar (data : Bytes) : Prop :=
  (∀ message, decodeMessage data = .ok message ↔ MessageSyntax X690Content message data) ∧
    ∀ e, decodeMessage data = .error e → e.isProtocolError

def Framed (legal : Bytes → Prop) (data : Bytes) : Prop :=
  ∃ message, MessageSyntax (fun _ content => legal content) message data

def TailTerminated (content : Bytes) : Prop :=
  ∃ first arcs rest, content = first :: rest ∧ Sequence Base128.Group arcs rest

/-- A message whose version number is too long to be quoted in an error. -/
def HugeVersion (data : Bytes) : Prop :=
  ∃ message, MessageFrame (fun _ content => TailTerminated content) message data ∧ ¬ PyText.Printable message.version

def FirstOctetClear (content : Bytes) : Prop := ∃ first rest, content = first :: rest ∧ first.toNat < 0x80

theorem tailTerminated_iff (content : Bytes) : TailTerminated content ↔ ∃ oid, OidContent oid content := by
  constructor
  · rintro ⟨first, arcs, rest, rfl, hseq⟩
    exact ⟨_, .mk first hseq⟩
  · rintro ⟨oid, @⟨first, arcs, rest, hseq⟩⟩
    exact ⟨first, arcs, rest, rfl, hseq⟩

theorem topArcs_eq (first : UInt8) : topArcs first.toNat = [(firstArcs first).1, (firstArcs first).2] := by
  unfold topArcs firstArcs
  split_ifs <;> rfl

theorem x690Content_iff_of_clear {oid : OID} {content : Bytes} (h : FirstOctetClear content) :
    X690Content oid content ↔ OidContent oid content := by
  obtain ⟨first, rest, rfl, hclear⟩ := h
  constructor
  · rintro ⟨n, arcs, _, hseq⟩
    generalize hcat : first :: rest = cat at hseq
    cases hseq with
    | @cons _ _ enc encs hg hs =>
      cases enc with
      | nil => exact absurd rfl hg.ne_nil
      | cons b enc =>
        obtain ⟨rfl, rfl⟩ := List.cons.inj hcat
        obtain ⟨-, rfl, rfl⟩ | ⟨hcont, -⟩ := Base128.Group.cons_iff.mp hg
        · rw [topArcs_eq]
          exact .mk first hs
        · omega
  · rintro @⟨_, arcs, _, hseq⟩
    have := X690Content.mk _ _ _ (.cons (Base128.group_singleton first hclear) hseq)
    rwa [topArcs_eq] at this

theorem tailTerminated_of_x690Content {oid : OID} {content : Bytes} (h : X690Content oid content) :
    TailTerminated content := by
  obtain ⟨first, arcs, _, hseq⟩ := h
  cases hseq with
  | @cons _ _ enc encs hg hs =>
    cases enc with
    | nil => exact absurd rfl hg.ne_nil
    | cons b enc =>
      obtain ⟨-, rfl, -⟩ | ⟨-, m, hm, -⟩ := Base128.Group.cons_iff.mp hg
      · exact ⟨b, arcs, encs, rfl, hs⟩
      · exact ⟨b, m :: arcs, enc ++ encs, rfl, .cons hm hs⟩

theorem length_of_groups {ns : List ℕ} {enc : Bytes} (h : Sequence Base128.Group ns enc) :
    ns.length = enc.countP fun b => b.toNat < 128 := by
  induction h with
  | nil => rfl
  | @cons n ns enc encs hg _ ih =>
    obtain ⟨init, last, rfl, hinit, hlast, -⟩ := hg
    have hzero : init.countP (fun b => b.toNat < 128) = 0 := by
      rw [List.countP_eq_zero]
      intro b hb
      have := hinit b hb
      simp
      omega
    simp only [List.length_cons, ih, List.countP_append, hzero, List.countP_singleton, hlast, decide_true]
    simp
    omega

theorem firstOctetClear_of_both {oid : OID} {content : Bytes} (h : OidContent oid content)
    (hx : X690Content oid content) : FirstOctetClear content := by
  obtain @⟨first, arcs, rest, hseq⟩ := h
  refine ⟨first, rest, rfl, ?_⟩
  by_contra hset
  generalize hoid : (firstArcs first).1 :: (firstArcs first).2 :: arcs.map (fun arc : ℕ => (arc : ℤ)) = oid at hx
  obtain ⟨n, arcs', _, hseq'⟩ := hx
  have hlen := congrArg List.length hoid
  have htop : (topArcs n).length = 2 := by
    unfold topArcs
    split_ifs <;> rfl
  have hcount := length_of_groups hseq
  have hcount' := length_of_groups hseq'
  rw [List.countP_cons, if_neg (by simpa using hset)] at hcount'
  simp only [List.length_cons, List.length_append, List.length_map, htop] at hlen hcount'
  omega

theorem integerContent_failsOnly (expected : String) (tag : UInt8) (content : Bytes) :
    FailsOnly (fun e => e.isProtocolError) (integerContent expected tag content) :=
  failsOnly_ite (fun _ => failsOnly_error rfl) fun _ =>
    failsOnly_ite (fun _ => failsOnly_error rfl) fun _ => failsOnly_ok _

theorem oidContent_failsOnly (tag : UInt8) (content : Bytes) :
    FailsOnly (fun e => e.isProtocolError) (oidContent tag content) :=
  failsOnly_ite (fun _ => failsOnly_error rfl) fun _ => decodeOid_failsOnly content

theorem decodeValue_failsOnly (data : Bytes) : FailsOnly (fun e => e.isProtocolError) (decodeValue data) :=
  failsOnly_bind (decodeTlv_failsOnly _ _) fun _ _ =>
    failsOnly_bind (expectEnd_failsOnly _ _) fun _ _ => decodeContent_failsOnly _ _

theorem varbindContent_failsOnly (tag : UInt8) (content : Bytes) :
    FailsOnly (fun e => e.isProtocolError) (varbindContent tag content) := by
  refine failsOnly_ite (fun _ => failsOnly_error rfl) fun _ => ?_
  refine failsOnly_bind (decodeElement_failsOnly _ _ oidContent_failsOnly) fun _ _ => ?_
  refine failsOnly_bind (decodeTlv_failsOnly _ _) fun _ _ => ?_
  refine failsOnly_bind (decodeValue_failsOnly _) fun _ _ => ?_
  exact failsOnly_bind (expectEnd_failsOnly _ _) fun _ _ => failsOnly_ok _

theorem varbindListContent_failsOnly (tag : UInt8) (content : Bytes) :
    FailsOnly (fun e => e.isProtocolError) (varbindListContent tag content) := by
  refine failsOnly_ite (fun _ => failsOnly_error rfl) fun _ => ?_
  refine failsOnly_bind ?_ fun _ _ => failsOnly_bind (expectEnd_failsOnly _ _) fun _ _ => failsOnly_ok _
  exact readMany_failsOnly _ decodeVarbind_reads (fun _ _ => VarbindElement.ne_nil)
    (fun offset => decodeElement_failsOnly _ _ varbindContent_failsOnly) _ 0 (by omega) (by omega)

theorem decodePdu_failsOnly (data : Bytes) : FailsOnly (fun e => e.isProtocolError) (decodePdu data) := by
  refine failsOnly_bind (decodeTlv_failsOnly _ _) fun x _ => ?_
  refine failsOnly_bind (expectEnd_failsOnly _ _) fun _ _ => ?_
  have hint := fun data offset => decodeElement_failsOnly data offset (integerContent_failsOnly "INTEGER tag")
  cases PduType.ofTag? x.1.1 with
  | none => exact failsOnly_error rfl
  | some pduType =>
    refine failsOnly_bind (hint _ _) fun _ _ => ?_
    refine failsOnly_bind (hint _ _) fun _ _ => ?_
    refine failsOnly_bind (hint _ _) fun _ _ => ?_
    refine failsOnly_bind (decodeElement_failsOnly _ _ varbindListContent_failsOnly) fun _ _ => ?_
    exact failsOnly_bind (expectEnd_failsOnly _ _) fun _ _ => failsOnly_ok _

theorem communityContent_failsOnly (tag : UInt8) (content : Bytes) :
    FailsOnly (fun e => e.isProtocolError) (communityContent tag content) := by
  refine failsOnly_ite (fun _ => failsOnly_error rfl) fun _ => ?_
  cases Utf8.decode content with
  | none => exact failsOnly_error rfl
  | some text => exact failsOnly_ok text

theorem hugeVersion_iff (data : Bytes) : HugeVersion data ↔
    ∃ message, MessageFrame OidContent message data ∧ ¬ PyText.Printable message.version := by
  constructor
  · rintro ⟨message, hframe, hprint⟩
    obtain ⟨message', hframe', hversion⟩ := messageFrame_realise (o := OidContent)
      (messageFrame_mono (fun _ content => (tailTerminated_iff content).mp) hframe)
    exact ⟨message', hframe', hversion ▸ hprint⟩
  · rintro ⟨message, hframe, hprint⟩
    exact ⟨message, messageFrame_mono (fun oid content ho => (tailTerminated_iff content).mpr ⟨oid, ho⟩) hframe, hprint⟩

theorem decodeMessage_huge {data : Bytes} (h : HugeVersion data) :
    ∃ text, decodeMessage data = .error (.valueError text) := by
  obtain ⟨message, hframe, hprint⟩ := (hugeVersion_iff data).mp h
  have hversion : message.version ≠ snmpV2cVersion := by
    intro heq
    rw [heq] at hprint
    exact hprint (by decide)
  obtain ⟨text, htext⟩ := formatInt_error hprint
  exact ⟨text, by rw [decodeMessage_frame hframe, if_pos hversion, htext, error_bind]⟩

theorem not_hugeVersion_of_ne {data : Bytes} (h : ∀ text, decodeMessage data ≠ .error (.valueError text)) :
    ¬ HugeVersion data := by
  intro hhuge
  obtain ⟨text, htext⟩ := decodeMessage_huge hhuge
  exact h text htext

theorem not_hugeVersion_of_decoded {data : Bytes} {message : SnmpMessage} (h : decodeMessage data = .ok message) :
    ¬ HugeVersion data := by
  apply not_hugeVersion_of_ne
  intro text
  rw [h]
  nofun

theorem decodeMessage_failsOnly {data : Bytes} (h : ¬ HugeVersion data) :
    FailsOnly (fun e => e.isProtocolError) (decodeMessage data) := by
  rw [hugeVersion_iff] at h
  refine failsOnly_bind (decodeTlv_failsOnly _ _) fun ⟨⟨tag, content⟩, stop⟩ htlv => ?_
  refine failsOnly_ite (fun _ => failsOnly_error rfl) fun htag => ?_
  refine failsOnly_bind (expectEnd_failsOnly _ _) fun _ hend => ?_
  refine failsOnly_bind (decodeElement_failsOnly _ _ (integerContent_failsOnly _)) fun ⟨version, o1⟩ h1 => ?_
  refine failsOnly_bind (decodeElement_failsOnly _ _ communityContent_failsOnly) fun ⟨community, o2⟩ h2 => ?_
  refine failsOnly_bind (decodeTlv_failsOnly _ _) fun ⟨⟨pduTag, pduContent⟩, o3⟩ h3 => ?_
  refine failsOnly_bind (decodePdu_failsOnly _) fun pdu hpdu => ?_
  refine failsOnly_bind (expectEnd_failsOnly _ _) fun _ hend' => ?_
  refine failsOnly_ite (fun _ => formatted_failsOnly ?_ _) fun _ => failsOnly_ok _
  have hframe : MessageFrame OidContent { version := version, community := community, pdu := pdu } data :=
    frame_of_decoded htlv (not_not.mp htag) hend h1 h2 h3 hpdu hend'
  by_contra hprint
  exact h ⟨_, hframe, hprint⟩

theorem framed_clear_of_accepts {data : Bytes} (h : AcceptsGrammar data) (hframed : Framed TailTerminated data) :
    Framed FirstOctetClear data := by
  obtain ⟨frame, hframe⟩ := hframed
  obtain ⟨message, hmessage⟩ := messageSyntax_realise (o := OidContent)
    (messageSyntax_mono (fun _ content => (tailTerminated_iff content).mp) hframe)
  have hx := (h.1 message).mp (decodeMessage_ok_iff.mpr hmessage)
  refine ⟨message, messageSyntax_mono ?_ (messageSyntax_both True hmessage hx fun _ => rfl)⟩
  rintro oid content ⟨hoid, oid', hoid', heq⟩
  obtain rfl := heq trivial
  exact firstOctetClear_of_both hoid hoid'

theorem syntax_iff_of_clear {data : Bytes} (h : Framed TailTerminated data → Framed FirstOctetClear data)
    (message : SnmpMessage) : MessageSyntax OidContent message data ↔ MessageSyntax X690Content message data := by
  have clear {o : OID → Bytes → Prop} (ho : ∀ oid content, o oid content → TailTerminated content)
      (hm : MessageSyntax o message data) :
      MessageSyntax (fun oid content => o oid content ∧ FirstOctetClear content) message data := by
    obtain ⟨frame, hframe⟩ := h ⟨message, messageSyntax_mono ho hm⟩
    refine messageSyntax_mono ?_ (messageSyntax_both False hm hframe False.elim)
    rintro oid content ⟨hoid, _, hclear, -⟩
    exact ⟨hoid, hclear⟩
  constructor
  · intro hm
    refine messageSyntax_mono ?_ (clear (fun oid content ho => (tailTerminated_iff content).mpr ⟨oid, ho⟩) hm)
    exact fun _ _ ⟨hoid, hclear⟩ => (x690Content_iff_of_clear hclear).mpr hoid
  · intro hm
    refine messageSyntax_mono ?_ (clear (fun _ _ => tailTerminated_of_x690Content) hm)
    exact fun _ _ ⟨hoid, hclear⟩ => (x690Content_iff_of_clear hclear).mp hoid

theorem accepts_grammar_iff (data : Bytes) : AcceptsGrammar data ↔
    (Framed TailTerminated data → Framed FirstOctetClear data) ∧ ¬ HugeVersion data := by
  constructor
  · intro h
    refine ⟨framed_clear_of_accepts h, fun hhuge => ?_⟩
    obtain ⟨text, htext⟩ := decodeMessage_huge hhuge
    cases h.2 _ htext
  · rintro ⟨hclear, hhuge⟩
    refine ⟨fun message => ?_, decodeMessage_failsOnly hhuge⟩
    rw [decodeMessage_ok_iff, syntax_iff_of_clear hclear]

def unterminatedName : Bytes :=
  [48, 26, 2, 1, 1, 4, 1, 112, 160, 18, 2, 1, 1, 2, 1, 0, 2, 1, 0, 48, 7, 48, 5, 6, 1, 0x88, 5, 0]

theorem unterminated_name_accepted : ¬ AcceptsGrammar unterminatedName := by
  intro h
  have hdecode : decodeMessage unterminatedName = .ok {
      version := 1
      community := "p"
      pdu := {
        pduType := .get
        requestId := 1
        errorStatus := 0
        errorIndex := 0
        varbinds := [{ oid := [2, 56], value := .nullValue }] } } := by decide +kernel
  have hsyntax := decodeMessage_ok_iff.mp hdecode
  have hx := (h.1 _).mp hdecode
  obtain ⟨content, hoid, oid', hoid', heq⟩ := (messageSyntax_both True hsyntax hx fun _ => rfl).oid_content
    _ (List.mem_singleton_self _)
  obtain rfl := heq trivial
  obtain ⟨first, rest, rfl, hclear⟩ := firstOctetClear_of_both hoid hoid'
  generalize hfirst : ([2, 56] : OID) = oid at hoid
  cases hoid with
  | mk _ hseq =>
    have hsecond := (List.cons.inj (List.cons.inj hfirst).2).1
    simp only [firstArcs] at hsecond
    split_ifs at hsecond <;> simp only at hsecond <;> omega

end TrishulSnmp.Wire
