import DevicePairing.Config.Anonymous
import DevicePairing.Config.Client
import DevicePairing.Config.Service
import DevicePairing.Proofs.Json.Printing
import DevicePairing.Proofs.Results

set_option autoImplicit false
set_option relaxedAutoImplicit false

/-!
Configurations and their storage as JSON texts. An identity holds what its texts hold, however it
was come by, and only its texts are stored. Whatever is configured is restored from what is written
of it.
-/

namespace DevicePairing

open DevicePairing.Results
open DevicePairing.Text

namespace Json

private theorem mapM_map {α β γ : Type} (as : List α) {key : α → β} {f : β → Option γ} {g : α → γ}
    (read : ∀ a ∈ as, f (key a) = some (g a)) : (as.map key).mapM f = some (as.map g) := by
  induction as with
  | nil => rfl
  | cons a as ih =>
    have others := ih fun a' later => read a' (List.mem_cons_of_mem a later)
    simp only [List.map_cons, List.mapM_cons, read a List.mem_cons_self, others,
      Option.bind_eq_bind, Option.bind_some, Option.pure_def]

private theorem namedMembers_map (ms : List (String × Document)) :
    namedMembers (ms.map fun m => (some m.1, m.2)) = some ms := by
  induction ms with
  | nil => rfl
  | cons m ms ih =>
    rw [List.map_cons, namedMembers, ih]
    rfl

private theorem filter_name {ms : List (String × Document)} (distinct : (ms.map Prod.fst).Nodup)
    {m : String × Document} (member : m ∈ ms) : (ms.filter fun m' => m'.1 == m.1) = [m] := by
  induction ms with
  | nil => cases member
  | cons m' ms ih =>
    obtain ⟨apart, distinct⟩ := List.nodup_cons.mp distinct
    rcases List.mem_cons.mp member with rfl | later
    · have others : (ms.filter fun m' => m'.1 == m.1) = [] := by
        refine List.filter_eq_nil_iff.mpr fun m' later same => apart ?_
        exact eq_of_beq same ▸ List.mem_map_of_mem later
      rw [List.filter_cons, if_pos (beq_self_eq_true m.1), others]
    · have other : ¬(m'.1 == m.1) = true := fun same =>
        apart (eq_of_beq same ▸ List.mem_map_of_mem later)
      rw [List.filter_cons, if_neg other, ih distinct later]

private theorem fieldsOf?_object {names : List String} (ms : List (String × Document))
    (named : ms.map Prod.fst = names) (distinct : names.Nodup) :
    fieldsOf? names (.object (ms.map fun m => (some m.1, m.2))) = some (ms.map fun m => some m.2) := by
  subst named
  rw [fieldsOf?, namedMembers_map]
  refine mapM_map ms fun m member => ?_
  rw [member?, filter_name distinct member]

private theorem uint64?_natural (n : UInt64) : uint64? (.natural n.toNat) = some n := by
  have small : n.toNat < 1 <<< 64 := n.toNat_lt
  rw [uint64?, if_pos small, UInt64.ofNat_toNat]

private theorem optionalText?_of (s : Option String) :
    optionalText? (match s with | none => .null | some s => .string (some s)) = some s := by
  cases s <;> rfl

private theorem version?_name (v : ProtocolVersion) :
    version? (.string (some v.name)) = some v := by
  cases v <;> rfl

private theorem versions?_names (vs : List ProtocolVersion) :
    versions? (.array (vs.map fun v => .string (some v.name))) = some vs :=
  (mapM_map vs fun v _ => version?_name v).trans (congrArg some (List.map_id vs))

end Json

namespace TlsConfig

/-- What is known of an identity is what its texts hold, and there is something to know: a chain of
certificates, certificates to trust and a key. -/
structure HoldsTexts (t : TlsConfig) : Prop where
  chain : Pem.certificates (Utf8.ofString t.certPem) = .ok t.certChain
  chain_ne_nil : t.certChain ≠ []
  trusted : Pem.certificates (Utf8.ofString t.caPem) = .ok t.caCerts
  trusted_ne_nil : t.caCerts ≠ []
  key : Pem.privateKey (Utf8.ofString t.keyPem) = .ok (some t.keyDer)

/-- The ways to an identity: three texts, three files, and a document. -/
inductive Obtained : TlsConfig → Prop where
  | texts {certPem keyPem caPem : String} {t : TlsConfig}
      (made : ofPem certPem keyPem caPem = .ok t) : Obtained t
  | files {files : Files} {certPath keyPath caPath : String} {t : TlsConfig}
      (made : ofFiles files certPath keyPath caPath = .ok t) : Obtained t
  | document {d : Json.Document} {t : TlsConfig} (made : ofDocument? d = some t) : Obtained t

private theorem certificatesOf_eq_ok {pem : String} {certs : List Bytes} :
    certificatesOf pem = .ok certs ↔
      Pem.certificates (Utf8.ofString pem) = .ok certs ∧ certs ≠ [] := by
  rw [certificatesOf, bind_eq_ok]
  simp only [mapError_eq_ok]
  constructor
  · rintro ⟨found, read, checked⟩
    split at checked
    · cases checked
    · rename_i nonempty
      obtain rfl := Except.ok.inj checked
      exact ⟨read, mt List.isEmpty_iff.mpr nonempty⟩
  · rintro ⟨read, nonempty⟩
    exact ⟨certs, read, if_neg (mt List.isEmpty_iff.mp nonempty)⟩

private theorem privateKeyOf_eq_ok {pem : String} {key : Bytes} :
    privateKeyOf pem = .ok key ↔ Pem.privateKey (Utf8.ofString pem) = .ok (some key) := by
  rw [privateKeyOf, bind_eq_ok]
  simp only [mapError_eq_ok]
  constructor
  · rintro ⟨found, read, checked⟩
    cases found with
    | none => cases checked
    | some found =>
      obtain rfl := Except.ok.inj checked
      exact read
  · intro read
    exact ⟨some key, read, rfl⟩

private theorem ofPem_eq_ok {certPem keyPem caPem : String} {t : TlsConfig} :
    ofPem certPem keyPem caPem = .ok t ↔
      (t.certPem = certPem ∧ t.keyPem = keyPem ∧ t.caPem = caPem) ∧ t.HoldsTexts := by
  simp only [ofPem, bind_eq_ok, certificatesOf_eq_ok, privateKeyOf_eq_ok]
  constructor
  · rintro ⟨chain, ⟨read, chained⟩, trusted, ⟨read', trusting⟩, key, found, made⟩
    obtain rfl := Except.ok.inj made
    exact ⟨⟨rfl, rfl, rfl⟩, read, chained, read', trusting, found⟩
  · rintro ⟨⟨rfl, rfl, rfl⟩, h⟩
    exact ⟨_, ⟨h.chain, h.chain_ne_nil⟩, _, ⟨h.trusted, h.trusted_ne_nil⟩, _, h.key, rfl⟩

private theorem Obtained.holdsTexts {t : TlsConfig} (h : Obtained t) : t.HoldsTexts := by
  cases h with
  | texts made => exact (ofPem_eq_ok.mp made).2
  | files made =>
    simp only [ofFiles, bind_eq_ok] at made
    obtain ⟨_, -, _, -, _, -, made⟩ := made
    exact (ofPem_eq_ok.mp made).2
  | document made =>
    obtain ⟨fields, -, made⟩ := Option.bind_eq_some_iff.mp made
    split at made
    · simp only [Option.bind_eq_bind, Option.bind_eq_some_iff, toOption_eq_some] at made
      obtain ⟨_, -, _, -, _, -, made⟩ := made
      exact (ofPem_eq_ok.mp made).2
    · cases made

private theorem HoldsTexts.fingerprint_eq {t : TlsConfig} (h : t.HoldsTexts) :
    ∃ own others, t.certChain = own :: others ∧ t.fingerprint = DevicePairing.fingerprint own := by
  obtain ⟨own, others, chain⟩ := List.exists_cons_of_ne_nil h.chain_ne_nil
  exact ⟨own, others, chain, by rw [fingerprint, chain]; rfl⟩

private theorem toDocument_eq (t : TlsConfig) : t.toDocument = .object (
    [("cert_pem", .string (some t.certPem)), ("key_pem", .string (some t.keyPem)),
      ("ca_pem", .string (some t.caPem))].map fun m => (some m.1, m.2)) := rfl

private theorem ofDocument?_toDocument {t : TlsConfig} (h : t.HoldsTexts) :
    ofDocument? t.toDocument = some t := by
  have made : ofPem t.certPem t.keyPem t.caPem = .ok t := ofPem_eq_ok.mpr ⟨⟨rfl, rfl, rfl⟩, h⟩
  rw [ofDocument?, toDocument_eq, Json.fieldsOf?_object]
  · simp only [List.map_cons, List.map_nil, Option.bind_eq_bind, Option.bind_some, Json.text?,
      toOption_eq_some, made]
  · rfl
  · decide

end TlsConfig

namespace ClientConfig

/-- The ways to the settings of a client: an identity that was obtained, another value for one of
the settings, and a JSON text. -/
inductive Obtained : ClientConfig → Prop where
  | identity {t : TlsConfig} (obtained : t.Obtained) : Obtained (ofTls t)
  | uri {c : ClientConfig} (before : Obtained c) (uri : String) : Obtained (c.withUri uri)
  | version {c : ClientConfig} (before : Obtained c) (version : ProtocolVersion) :
      Obtained (c.withVersion version)
  | pairingTimeout {c : ClientConfig} (before : Obtained c) (ms : UInt64) :
      Obtained (c.withPairingTimeout ms)
  | requestTimeout {c : ClientConfig} (before : Obtained c) (ms : UInt64) :
      Obtained (c.withRequestTimeout ms)
  | json {text : String} {c : ClientConfig} (read : ofJson text = .ok c) : Obtained c

private theorem ofJson_eq_ok {text : String} {c : ClientConfig} :
    ofJson text = .ok c ↔ (Json.Document.parse? text).bind ofDocument? = some c := by
  rw [ofJson]
  cases (Json.Document.parse? text).bind ofDocument? <;> simp

private theorem Obtained.tls {c : ClientConfig} (h : Obtained c) : c.tls.Obtained := by
  induction h with
  | identity obtained => exact obtained
  | uri before uri ih => exact ih
  | version before version ih => exact ih
  | pairingTimeout before ms ih => exact ih
  | requestTimeout before ms ih => exact ih
  | json read =>
    obtain ⟨d, -, read⟩ := Option.bind_eq_some_iff.mp (ofJson_eq_ok.mp read)
    obtain ⟨fields, -, read⟩ := Option.bind_eq_some_iff.mp read
    split at read
    · simp only [Option.bind_eq_bind, Option.bind_eq_some_iff, Option.some.injEq] at read
      obtain ⟨_, made, _, -, _, -, _, -, _, -, rfl⟩ := read
      exact .document made
    · cases read

private theorem toDocument_eq (c : ClientConfig) : c.toDocument = .object (
    [("tls", c.tls.toDocument),
      ("uri", match c.uri with | none => .null | some s => .string (some s)),
      ("protocol_version", .string (some c.version.name)),
      ("pairing_timeout_ms", .natural c.pairingTimeout.toNat),
      ("request_timeout_ms", .natural c.requestTimeout.toNat)].map fun m => (some m.1, m.2)) := rfl

private theorem isPlain_toDocument (c : ClientConfig) : c.toDocument.IsPlain := by
  rw [toDocument]
  cases c.uri <;>
    simp [Json.Document.IsPlain, Json.PlainMembers, TlsConfig.toDocument]

private theorem ofDocument?_toDocument {c : ClientConfig} (h : c.tls.HoldsTexts) :
    ofDocument? c.toDocument = some c := by
  rw [ofDocument?, toDocument_eq, Json.fieldsOf?_object]
  · simp only [List.map_cons, List.map_nil, Option.bind_eq_bind, Option.bind_some, Json.orElse,
      TlsConfig.ofDocument?_toDocument h, Json.optionalText?_of, Json.version?_name,
      Json.uint64?_natural]
  · rfl
  · decide

private theorem ofJson_toJson {c : ClientConfig} (h : c.tls.HoldsTexts) :
    ofJson c.toJson = .ok c := by
  rw [ofJson_eq_ok, toJson, Json.parse?_toText c.isPlain_toDocument, Option.bind_some,
    ofDocument?_toDocument h]

end ClientConfig

namespace ServiceConfig

private theorem toDocument_eq (c : ServiceConfig) : c.toDocument = .object (
    [("session_ttl_ms", .natural c.sessionTtl.toNat),
      ("supported_versions", .array (c.supportedVersions.map fun v => .string (some v.name))),
      ("frame_buffer", .natural c.frameBuffer.toNat)].map fun m => (some m.1, m.2)) := rfl

private theorem plainElements_names (vs : List ProtocolVersion) :
    Json.PlainElements (vs.map fun v => .string (some v.name)) := by
  induction vs with
  | nil => trivial
  | cons v vs ih => exact ⟨rfl, ih⟩

private theorem isPlain_toDocument (c : ServiceConfig) : c.toDocument.IsPlain :=
  ⟨rfl, trivial, rfl, plainElements_names c.supportedVersions, rfl, trivial, trivial⟩

private theorem ofDocument?_toDocument (c : ServiceConfig) : ofDocument? c.toDocument = some c := by
  rw [ofDocument?, toDocument_eq, Json.fieldsOf?_object]
  · simp only [List.map_cons, List.map_nil, Option.bind_eq_bind, Option.bind_some, Json.orElse,
      Json.versions?_names, Json.uint64?_natural]
  · rfl
  · decide

private theorem ofJson_toJson (c : ServiceConfig) : ofJson c.toJson = .ok c := by
  rw [ofJson, toJson, Json.parse?_toText c.isPlain_toDocument, Option.bind_some,
    ofDocument?_toDocument]

end ServiceConfig

/-- Whatever is configured is restored from what is written of it. An identity holds what its texts
hold, with a certificate of its own to be known by, and so does the identity of every client. -/
theorem configurations_survive_storage :
    (∀ t : TlsConfig, t.Obtained → t.HoldsTexts ∧ ∃ own others, t.certChain = own :: others ∧
      t.fingerprint = fingerprint own) ∧
    (∀ c : ClientConfig, c.Obtained → c.tls.Obtained ∧ ClientConfig.ofJson c.toJson = .ok c) ∧
    ∀ c : ServiceConfig, ServiceConfig.ofJson c.toJson = .ok c := by
  refine ⟨fun t obtained => ?_, fun c obtained => ?_, ServiceConfig.ofJson_toJson⟩
  · exact ⟨obtained.holdsTexts, obtained.holdsTexts.fingerprint_eq⟩
  · exact ⟨obtained.tls, ClientConfig.ofJson_toJson obtained.tls.holdsTexts⟩

/-- The anonymous identity is obtained from its texts, and with an address and another time to wait
it is restored from what is written of it. -/
theorem configurations_survive_storage_of_anonymous :
    ∃ t, TlsConfig.anonymous = .ok t ∧ t.HoldsTexts ∧
      let c := ((ClientConfig.ofTls t).withUri "tcp://\"h\\\n:1").withPairingTimeout 0
      ClientConfig.ofJson c.toJson = .ok c := by
  have made : TlsConfig.anonymous = .ok ⟨TlsConfig.anonymousCertificate, TlsConfig.anonymousKey,
      TlsConfig.anonymousCertificate, [[1, 2, 3, 4]], [5, 6, 7, 8], [[1, 2, 3, 4]]⟩ := by
    decide +kernel
  have obtained : TlsConfig.Obtained _ := .texts made
  obtain ⟨identities, clients, -⟩ := configurations_survive_storage
  refine ⟨_, made, (identities _ obtained).1, (clients _ ?_).2⟩
  exact ((ClientConfig.Obtained.identity obtained).uri _).pairingTimeout 0

end DevicePairing
