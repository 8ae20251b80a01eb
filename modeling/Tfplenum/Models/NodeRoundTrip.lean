/-
  Tfplenum.Models.NodeRoundTrip

  Which stored node documents `NodeSchema` accepts: exactly those whose host
  name, address, MAC address and type pass their checks (`NodeDoc.Valid`), since
  every other field reads back what was written for it.  And which host names
  stay valid when a domain is appended (`isHostname_append_iff`): the bound on
  the length is computed from the last label, so a name without a dot may be of
  any length before, and of 52 characters at most after.
-/

import Mathlib.Tactic.ByContra
import Tfplenum.Models.Nodes

namespace Tfplenum

open Lib Lib.Pattern

/-! ## Stored documents -/

/-- What a stored document has to satisfy to be loaded. -/
structure NodeDoc.Valid (doc : NodeDoc) : Prop where
  hostname : isHostname doc.hostname.toList = true
  ipAddress : ∃ ip, IPv4Address.parse doc.ipAddress = some ip
  macAddress : ∀ mac ∈ doc.macAddress, validateMacAddress mac = []
  nodeType : doc.nodeType ∈ NodeSchema.nodeTypes

namespace NodeSchema

/-- The fields a valid document is read as. -/
def Data.ofDoc (id : String) (doc : NodeDoc) (ip : IPv4Address) : Data where
  id := .value id
  hostname := .value doc.hostname
  ipAddress := .value ip
  macAddress := .ofOption doc.macAddress
  raid0Override := .ofOption doc.raid0Override
  nodeType := .value doc.nodeType
  error := .missing
  deviceFacts := .value doc.deviceFacts
  deploymentType := .ofOption doc.deploymentType
  vpnStatus := .ofOption doc.vpnStatus
  virtualCpu := .ofOption doc.virtualCpu
  virtualMem := .ofOption doc.virtualMem
  virtualOs := .ofOption doc.virtualOs
  virtualData := .ofOption doc.virtualData

theorem errors_ofDoc (id : String) (doc : NodeDoc) (ip : IPv4Address) :
    (Data.ofDoc id doc ip).errors = [] := by
  simp [Data.ofDoc, Data.errors]

theorem unknownFields_fields (id : String) (doc : NodeDoc) :
    unknownFields fieldNames (doc.fields id) = [] := by
  rw [unknownFields_eq_nil_iff]
  simp [NodeDoc.fields, fieldNames]

/-- The fields of a valid document are read as what they hold. -/
theorem read_fields {id : String} {doc : NodeDoc} (hv : doc.Valid) {ip : IPv4Address}
    (hip : IPv4Address.parse doc.ipAddress = some ip) :
    read (doc.fields id) = Data.ofDoc id doc ip := by
  have hread : Fields.IPv4.deserialize (.str doc.ipAddress) = .ok ip := by
    simp only [Fields.IPv4.deserialize, hip]
  -- a nullable field reads back what was written for it, checked or not
  have hnullable {α : Type} {f : Field Json α} (toJson : α → Json) {a : Option α}
      (hname : (doc.fields id).lookup f.name = some (Fields.ofOption toJson a))
      (hnone : f.allowNone = true) (hnull : ∀ a, Fields.isNull (toJson a) = false)
      (hf : ∀ a, f.deserialize (toJson a) = .ok a) (hcheck : ∀ b ∈ a, f.check b = []) :
      f.load Fields.isNull (doc.fields id) = .ofOption a :=
    Fields.load_ofOption hname hnone hnull hf hcheck
  simp only [read, Data.ofDoc, Data.mk.injEq]
  refine ⟨?id, ?hostname, ?ip, ?mac, ?raid, ?type, ?error, ?facts, ?deployment, ?vpn, ?cpu, ?mem,
    ?os, ?data⟩
  case id => exact Field.load_eq_value rfl rfl rfl rfl
  case hostname => exact Field.load_eq_value rfl rfl rfl (if_pos hv.hostname)
  case ip => exact Field.load_eq_value rfl rfl hread rfl
  case mac => exact hnullable .str rfl rfl (fun _ => rfl) (fun _ => rfl) hv.macAddress
  case raid => exact hnullable .bool rfl rfl (fun _ => rfl) (fun _ => rfl) fun _ _ => rfl
  case type => exact Field.load_eq_value rfl rfl rfl (if_pos hv.nodeType)
  case error => exact Field.load_eq_missing rfl rfl
  case facts => exact Field.load_eq_value rfl rfl rfl rfl
  case deployment => exact hnullable .str rfl rfl (fun _ => rfl) (fun _ => rfl) fun _ _ => rfl
  case vpn => exact hnullable .bool rfl rfl (fun _ => rfl) (fun _ => rfl) fun _ _ => rfl
  case cpu => exact hnullable .num rfl rfl (fun _ => rfl) (fun _ => rfl) fun _ _ => rfl
  case mem => exact hnullable .num rfl rfl (fun _ => rfl) (fun _ => rfl) fun _ _ => rfl
  case os => exact hnullable .num rfl rfl (fun _ => rfl) (fun _ => rfl) fun _ _ => rfl
  case data => exact hnullable .num rfl rfl (fun _ => rfl) (fun _ => rfl) fun _ _ => rfl

theorem deserialize_fields {id : String} {doc : NodeDoc} (hv : doc.Valid) {ip : IPv4Address}
    (hip : IPv4Address.parse doc.ipAddress = some ip) :
    deserialize (.obj (doc.fields id)) = .ok (Data.ofDoc id doc ip) := by
  rw [deserialize, read_fields hv hip, errors_ofDoc, unknownFields_fields]
  rfl

/-- What the checks of the schema say about the fields of a payload it accepts. -/
structure Data.Checked (data : Data) : Prop where
  hostname : ∃ hostname, data.hostname = .value hostname ∧ isHostname hostname.toList = true
  ipAddress : ∃ ip, data.ipAddress = .value ip
  macAddress : ∀ mac, data.macAddress = .value mac → validateMacAddress mac = []
  nodeType : data.nodeType.valueD NodeTypes.undefined ∈ nodeTypes

theorem checked_of_deserialize {payload : Json} {data : Data} (h : deserialize payload = .ok data) :
    data.Checked := by
  unfold deserialize at h
  split at h
  · rename_i payload
    dsimp only at h
    split at h
    · rename_i hnil
      cases h
      have herrors := (List.append_eq_nil_iff.mp hnil).1
      simp only [Data.errors, read, List.append_eq_nil_iff, Loaded.errors_eq_nil_iff] at herrors
      obtain ⟨⟨⟨⟨⟨⟨⟨⟨⟨⟨⟨⟨⟨-, hhost⟩, hip⟩, -⟩, -⟩, -⟩, -⟩, -⟩, -⟩, -⟩, -⟩, -⟩, -⟩, -⟩ := herrors
      obtain ⟨hostname, hload⟩ := Field.exists_value_of_required rfl rfl hhost
      obtain ⟨ip, hipload⟩ := Field.exists_value_of_required rfl rfl hip
      refine ⟨⟨hostname, hload, ?_⟩, ⟨ip, hipload⟩, ?_, ?_⟩
      · have hc : validateHostnameFn hostname = [] := Field.check_of_load_eq_value hload
        unfold validateHostnameFn at hc
        split at hc
        · assumption
        · cases hc
      · exact fun mac hmac => Field.check_of_load_eq_value hmac
      · cases htype : nodeTypeField.load Fields.isNull payload with
        | value nodeType =>
            have hc : Fields.oneOf nodeTypes nodeType = [] := Field.check_of_load_eq_value htype
            unfold Fields.oneOf at hc
            split at hc
            · simpa only [read, htype, Loaded.valueD_value]
            · cases hc
        | missing => simp [read, htype, Loaded.valueD, nodeTypes]
        | null => simp [read, htype, Loaded.valueD, nodeTypes]
        | invalid messages => simp [read, htype, Loaded.valueD, nodeTypes]
    · cases h
  · cases h

/-- The fields of a payload that is accepted are those read from it. -/
theorem eq_read_of_deserialize {payload : List (String × Json)} {data : Data}
    (h : deserialize (.obj payload) = .ok data) : data = read payload := by
  rw [deserialize] at h
  split at h
  · exact (Except.ok.inj h).symm
  · cases h

/-- A document that is accepted is valid. -/
theorem valid_of_deserialize {id : String} {doc : NodeDoc} {data : Data}
    (h : deserialize (.obj (doc.fields id)) = .ok data) : doc.Valid := by
  have herrors : (read (doc.fields id)).errors = [] := by
    rw [deserialize] at h
    split at h
    · rename_i hnil
      exact (List.append_eq_nil_iff.mp hnil).1
    · cases h
  simp only [Data.errors, read, List.append_eq_nil_iff, Loaded.errors_eq_nil_iff] at herrors
  obtain ⟨⟨⟨⟨⟨⟨⟨⟨⟨⟨⟨⟨⟨-, hhost⟩, hip⟩, hmac⟩, -⟩, htype⟩, -⟩, -⟩, -⟩, -⟩, -⟩, -⟩, -⟩, -⟩ := herrors
  -- a check that does not pass would have left its messages
  have hchecked {α : Type} {f : Field Json α} {r : Json} {a : α}
      (hl : (f.load Fields.isNull (doc.fields id)).isInvalid = false)
      (hr : (doc.fields id).lookup f.name = some r) (hnull : Fields.isNull r = false)
      (ha : f.deserialize r = .ok a) : f.check a = [] := by
    by_contra hc
    rw [Field.load_eq_invalid hr hnull ha hc] at hl
    cases hl
  refine ⟨?_, ?_, ?_, ?_⟩
  · have hc : validateHostnameFn doc.hostname = [] := hchecked hhost rfl rfl rfl
    unfold validateHostnameFn at hc
    split at hc
    · assumption
    · cases hc
  · obtain ⟨ip, hload⟩ := Field.exists_value_of_required rfl rfl hip
    cases hp : IPv4Address.parse doc.ipAddress with
    | some ip => exact ⟨ip, rfl⟩
    | none =>
        have hraw : Fields.IPv4.deserialize (.str doc.ipAddress) =
            .error "Not a valid IPv4 address." := by
          simp only [Fields.IPv4.deserialize, hp]
        have hlookup : (doc.fields id).lookup ipAddressField.name = some (.str doc.ipAddress) := rfl
        have hd : ipAddressField.deserialize = Fields.IPv4.deserialize := rfl
        simp only [Field.load, hlookup, hd, hraw] at hload
        cases hload
  · intro mac hm
    have hlookup : (doc.fields id).lookup macAddressField.name = some (.str mac) := by
      have hof : Fields.ofOption Json.str doc.macAddress = .str mac := by
        rw [Option.mem_def.mp hm]
        rfl
      exact congrArg some hof
    exact hchecked hmac hlookup rfl rfl
  · have hc : Fields.oneOf nodeTypes doc.nodeType = [] := hchecked htype rfl rfl rfl
    unfold Fields.oneOf at hc
    split at hc
    · assumption
    · cases hc

/-- The schema accepts the valid documents and no others. -/
theorem accepts_iff_valid {id : String} {doc : NodeDoc} :
    (∃ data, deserialize (.obj (doc.fields id)) = .ok data) ↔ doc.Valid := by
  constructor
  · rintro ⟨data, h⟩
    exact valid_of_deserialize h
  · intro hv
    obtain ⟨ip, hip⟩ := hv.ipAddress
    exact ⟨_, deserialize_fields hv hip⟩

end NodeSchema

/-- What is made from the fields of a document. -/
theorem Node.init_ofDoc (id : String) (doc : NodeDoc) (ip : IPv4Address) :
    Node.init (.ofDoc id doc ip) = (do
      let id' ← (if id = "" then Prog.ask .uuid4 else pure id)
      let hostname ← Node.setHostname doc.hostname
      let macAddress ← Node.setMacAddress doc.macAddress doc.nodeType
      pure {
        id := id'
        hostname := hostname
        ipAddress := ip
        macAddress := macAddress
        raid0Override := doc.raid0Override
        nodeType := doc.nodeType
        deviceFacts := doc.deviceFacts
        deploymentType := doc.deploymentType
        vpnStatus := Fields.ofOption .bool doc.vpnStatus
        virtualCpu := doc.virtualCpu
        virtualMem := doc.virtualMem
        virtualOs := doc.virtualOs
        virtualData := doc.virtualData }) := by
  simp only [Node.init, NodeSchema.Data.ofDoc, Loaded.getD_ofOption, Loaded.valueD_value]
  rfl

/-- Loading a document refuses it, or makes a node from its fields. -/
theorem Node.loadDoc_cases (id : String) (doc : NodeDoc) :
    (∃ e, Node.loadDoc (id, doc) = Program.raise e) ∨
      ∃ ip, IPv4Address.parse doc.ipAddress = some ip ∧
        Node.loadDoc (id, doc) = Node.init (.ofDoc id doc ip) := by
  cases hload : NodeSchema.deserialize (.obj (doc.fields id)) with
  | error e =>
      refine .inl ⟨e, ?_⟩
      rw [Node.loadDoc, Node.load, hload]
      rfl
  | ok data =>
      have hvalid := NodeSchema.valid_of_deserialize hload
      obtain ⟨ip, hip⟩ := hvalid.ipAddress
      have hfields : NodeSchema.deserialize (.obj (doc.fields id)) = .ok (.ofDoc id doc ip) :=
        NodeSchema.deserialize_fields hvalid hip
      have hdata := hfields.symm.trans hload
      refine .inr ⟨ip, hip, ?_⟩
      rw [Node.loadDoc, Node.load, hload, Except.ok.inj hdata]
      rfl

/-! ## Host names under a domain -/

/-- A domain is a word of domain characters, with or without a newline after it. -/
theorem isDomain_chomp {d : List Char} (hd : isDomain d = true) :
    2 < (chomp d).length ∧ ∀ c ∈ chomp d, isDomainChar c = true := by
  unfold isDomain anchored at hd
  refine ⟨?_, forall_of_word hd ?_ fun c hc => hc⟩
  · obtain ⟨c, cs, hcs⟩ := exists_cons_of_word hd
    rw [hcs] at hd ⊢
    obtain ⟨-, -, hlo, -⟩ := word_cons_iff.mp hd
    simp only [List.length_cons]
    omega
  · intro c hc
    simp [isDomainChar, hc]

theorem dot_not_mem_of_isDomain {d : List Char} (hd : isDomain d = true) : '.' ∉ d := by
  intro hmem
  have hchars := (isDomain_chomp hd).2
  have hdot : isDomainChar '.' = false := by decide
  rcases chomp_cases d with h | h
  · rw [h] at hmem
    rw [hchars '.' hmem] at hdot
    cases hdot
  · rw [h] at hmem
    rcases List.mem_append.mp hmem with hmem | hmem
    · rw [hchars '.' hmem] at hdot
      cases hdot
    · simp at hmem

/-- A text is one longer than its chomped text where it ends with a newline. -/
theorem length_eq_chomp (cs : List Char) :
    cs.length = (chomp cs).length + if cs.getLast? = some '\n' then 1 else 0 := by
  unfold chomp
  split
  · rename_i h
    have hne : cs ≠ [] := by
      rintro rfl
      cases h
    have hpos : 0 < cs.length := List.length_pos_iff.mpr hne
    simp only [List.length_dropLast]
    omega
  · rfl

/-- When a valid host name stays valid under a domain. -/
theorem isHostname_append_iff {h d : List Char} (hh : isHostname h = true)
    (hd : isDomain d = true) :
    isHostname (h ++ '.' :: d) = true ↔
      h.getLast? ≠ some '\n' ∧
        h.length ≤ 52 + if d.getLast? = some '\n' then 1 else 0 := by
  have hdne : d ≠ [] := by
    rintro rfl
    cases hd
  have hlast : lastLabel (h ++ '.' :: d) = d := lastLabel_append (dot_not_mem_of_isDomain hd)
  have hchomp : chomp (h ++ '.' :: d) = h ++ '.' :: chomp d := by
    rw [chomp_append (by simp)]
    have hdot : chomp (['.'] ++ d) = ['.'] ++ chomp d := chomp_append hdne
    exact congrArg (h ++ ·) hdot
  have hlen := length_eq_chomp d
  obtain ⟨hd2, hdchars⟩ := isDomain_chomp hd
  unfold isHostname anchored at hh
  obtain ⟨c, cs, hcs⟩ := exists_cons_of_word hh
  rw [hcs] at hh
  obtain ⟨hc, hcschars, hlo, -⟩ := word_cons_iff.mp hh
  rw [isHostname, anchored, fqdnLength, hlast, hchomp]
  rcases chomp_cases h with heq | heq
  · -- no newline at the end of the name: its length decides
    rw [hcs] at heq
    subst heq
    have hnl : (c :: cs).getLast? ≠ some '\n' := by
      intro hl
      have hmem := List.mem_of_getLast? hl
      rcases List.mem_cons.mp hmem with rfl | hmem
      · exact absurd hc (by decide)
      · exact absurd (hcschars _ hmem) (by decide)
    rw [List.cons_append, word_cons_iff]
    simp only [List.length_append, List.length_cons, ne_eq, hnl, not_false_eq_true, true_and]
    constructor
    · rintro ⟨-, -, -, hhi⟩
      omega
    · intro hle
      refine ⟨hc, ?_, by omega, by omega⟩
      intro e he
      rcases List.mem_append.mp he with he | he
      · exact hcschars e he
      · rcases List.mem_cons.mp he with rfl | he
        · rfl
        · simp [isHostChar, hdchars e he]
  · -- a newline at its end comes to stand inside the result
    rw [hcs] at heq
    subst heq
    constructor
    · intro hw
      rw [List.append_assoc, List.cons_append, word_cons_iff] at hw
      have hbad := hw.2.1 '\n' (by simp)
      exact absurd hbad (by decide)
    · rintro ⟨hnl, -⟩
      exact absurd List.getLast?_concat hnl

end Tfplenum
