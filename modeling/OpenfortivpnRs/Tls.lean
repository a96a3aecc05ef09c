import OpenfortivpnRs.Config
import OpenfortivpnRs.Error
import OpenfortivpnRs.Text

/-!
# The TLS connection (`tls.rs`)

The certificate of the gateway is judged twice: in the handshake by `verify_server_cert`, which records
what the PKI verifier says, and behind it by `verification_for`, which reads the record.  SHA-256 and
the PKI verifier are parameters.
-/

namespace OpenfortivpnRs.Tls

open Text

def hexDigits : List Char := "0123456789abcdef".toList

def bytesToLowerHex (bytes : List UInt8) : String :=
  .ofList (bytes.flatMap fun byte : UInt8 =>
    [hexDigits.getD (byte >>> 4).toNat '0', hexDigits.getD (byte &&& 0x0f).toNat '0'])

inductive CertificateVerification
  | verifiedByPki
  | verifiedByPinnedDigest
  | disabled
  deriving DecidableEq, Repr

/-- A `RecordingVerifier` without the verifier it wraps. -/
structure RecordingVerifier where
  insecure : Bool
  trustedCerts : List String
  lastPkiResult : Option (Except String Unit)

section Verifier

variable (sha256 : List UInt8 → List UInt8)

def certSha256Hex (cert : List UInt8) : String := bytesToLowerHex (sha256 cert)

namespace RecordingVerifier

def new (config : Config) : RecordingVerifier := ⟨config.insecureSsl, config.trustedCerts, none⟩

/-- One of the trusted digests is the digest. -/
def isTrusted (verifier : RecordingVerifier) (certSha256 : String) : Bool :=
  verifier.trustedCerts.any fun digest => eqIgnoreAsciiCase digest.toList certSha256.toList

/-- `verify_server_cert`, with the verdict of the PKI verifier. -/
def verifyServerCert (verifier : RecordingVerifier) (endEntity : List UInt8) (pki : Except String Unit) :
    Except String Unit × RecordingVerifier :=
  let verifier := { verifier with lastPkiResult := some pki }
  if pki = .ok () ∨ verifier.insecure ∨ verifier.isTrusted (certSha256Hex sha256 endEntity) then
    (.ok (), verifier)
  else (pki, verifier)

def verificationFor (verifier : RecordingVerifier) (config : Config) (peerCertSha256 : String) :
    Result CertificateVerification :=
  if config.insecureSsl then .ok .disabled
  else if verifier.isTrusted peerCertSha256 then .ok .verifiedByPinnedDigest
  else
    match verifier.lastPkiResult with
    | some (.ok ()) => .ok .verifiedByPki
    | some (.error err) => .error (.certificateVerification (err ++ "; add '--trusted-cert " ++
        peerCertSha256 ++ "' if this gateway certificate is expected"))
    | none => .error (.certificateVerification ("certificate was not verified; add '--trusted-cert " ++
        peerCertSha256 ++ "' if this gateway certificate is expected"))

end RecordingVerifier

/-! ### The connection -/

def rejectUnsupportedRustlsOptions (config : Config) : Result Unit :=
  if config.cipherList.isSome then
    .error (.tlsHandshake "--cipher-list is not supported with rustls")
  else if config.seclevel1 then .error (.tlsHandshake "--seclevel-1 is not supported with rustls")
  else if config.minTls = some .tls10 ∨ config.minTls = some .tls11 then
    .error (.tlsHandshake "rustls supports TLS 1.2 and newer only")
  else if (config.userCert.bind (stripPrefix · "pkcs11:")).isSome ∨
      (config.userKey.bind (stripPrefix · "pkcs11:")).isSome then
    .error (.tlsHandshake "PKCS#11 client certificates are not supported with rustls")
  else .ok ()

/-- What connecting meets: the result of what is made ready (the addresses, the roots, the client
certificate), the certificates of the server, the verdict of the PKI verifier on them, and the result of
the rest of the handshake. -/
structure Handshake where
  setup : Result Unit
  certs : List (List UInt8)
  pki : Except String Unit
  rest : Except String Unit

/-- The handshake of `rustls`: the first certificate is verified. -/
def Handshake.run (handshake : Handshake) (verifier : RecordingVerifier) :
    Except String Unit × RecordingVerifier :=
  match handshake.certs with
  | [] => (handshake.rest, verifier)
  | endEntity :: _ =>
    match verifier.verifyServerCert sha256 endEntity handshake.pki with
    | (.error err, verifier) => (.error err, verifier)
    | (.ok (), verifier) => (handshake.rest, verifier)

/-- `connect_stream`: what the certificate of the connection was accepted for. -/
def connectStream (config : Config) (handshake : Handshake) : Result CertificateVerification :=
  match rejectUnsupportedRustlsOptions config with
  | .error err => .error err
  | .ok () =>
    match handshake.setup with
    | .error err => .error err
    | .ok () =>
      match handshake.run sha256 (.new config) with
      | (.error err, _) => .error (.tlsHandshake err)
      | (.ok (), verifier) =>
        match handshake.certs with
        | [] => .error .missingPeerCertificate
        | peerCert :: _ => verifier.verificationFor config (certSha256Hex sha256 peerCert)

/-! ### What a certificate is accepted for -/

/-- The digest of the certificate is one of the trusted ones, in whatever case they are written. -/
def Pinned (config : Config) (cert : List UInt8) : Prop :=
  ∃ digest ∈ config.trustedCerts,
    eqIgnoreAsciiCase digest.toList (certSha256Hex sha256 cert).toList = true

/-- The grounds of a verification; each is looked at when those before it are not given. -/
def Grounds (config : Config) (cert : List UInt8) (pki : Except String Unit) :
    CertificateVerification → Prop
  | .disabled => config.insecureSsl = true
  | .verifiedByPinnedDigest => config.insecureSsl = false ∧ Pinned sha256 config cert
  | .verifiedByPki => config.insecureSsl = false ∧ ¬ Pinned sha256 config cert ∧ pki = .ok ()

variable {sha256}

theorem isTrusted_iff {config : Config} {cert : List UInt8} {verifier : RecordingVerifier}
    (hverifier : verifier.trustedCerts = config.trustedCerts) :
    verifier.isTrusted (certSha256Hex sha256 cert) = true ↔ Pinned sha256 config cert := by
  unfold RecordingVerifier.isTrusted Pinned
  rw [List.any_eq_true, hverifier]

/-- The verifier behind the handshake has the verdict on record, whether it passed or not. -/
theorem verifyServerCert_snd (verifier : RecordingVerifier) (cert : List UInt8)
    (pki : Except String Unit) :
    (verifier.verifyServerCert sha256 cert pki).2 = { verifier with lastPkiResult := some pki } := by
  unfold RecordingVerifier.verifyServerCert
  dsimp only
  split
  · rfl
  · rfl

theorem verifyServerCert_ok_iff {config : Config} {cert : List UInt8} {pki : Except String Unit} :
    ((RecordingVerifier.new config).verifyServerCert sha256 cert pki).1 = .ok () ↔
      pki = .ok () ∨ config.insecureSsl = true ∨ Pinned sha256 config cert := by
  unfold RecordingVerifier.verifyServerCert
  rw [← @isTrusted_iff sha256 config cert { RecordingVerifier.new config with lastPkiResult := some pki } rfl]
  dsimp only
  split
  · rename_i h
    exact iff_of_true rfl h
  · rename_i h
    exact ⟨fun hok => absurd (.inl hok) h, fun hany => absurd hany h⟩

/-- What the record says is accepted on its grounds. -/
theorem verificationFor_ok_iff {config : Config} {cert : List UInt8} {pki : Except String Unit}
    {verification : CertificateVerification} :
    RecordingVerifier.verificationFor ⟨config.insecureSsl, config.trustedCerts, some pki⟩ config
        (certSha256Hex sha256 cert) = .ok verification ↔
      Grounds sha256 config cert pki verification := by
  unfold RecordingVerifier.verificationFor
  have htrusted := @isTrusted_iff sha256 config cert
    ⟨config.insecureSsl, config.trustedCerts, some pki⟩ rfl
  by_cases hinsecure : config.insecureSsl = true
  · rw [if_pos hinsecure]
    cases verification <;> simp [Grounds, hinsecure]
  · rw [if_neg hinsecure]
    by_cases hpinned : Pinned sha256 config cert
    · rw [if_pos (htrusted.mpr hpinned)]
      cases verification <;> simp [Grounds, hinsecure, hpinned]
    · rw [if_neg (fun h => hpinned (htrusted.mp h))]
      rcases pki with err | _ <;> cases verification <;> simp [Grounds, hinsecure, hpinned]

/-- **The two judgements agree**: a certificate passes the handshake and is accepted behind it exactly on
one of the three grounds. -/
theorem judged_iff {config : Config} {cert : List UInt8} {pki : Except String Unit}
    {verification : CertificateVerification} :
    (((RecordingVerifier.new config).verifyServerCert sha256 cert pki).1 = .ok () ∧
      ((RecordingVerifier.new config).verifyServerCert sha256 cert pki).2.verificationFor config
        (certSha256Hex sha256 cert) = .ok verification) ↔
      Grounds sha256 config cert pki verification := by
  rw [verifyServerCert_snd, verifyServerCert_ok_iff]
  unfold RecordingVerifier.new
  rw [verificationFor_ok_iff]
  refine ⟨And.right, fun h => ⟨?_, h⟩⟩
  cases verification with
  | disabled => exact .inr (.inl h)
  | verifiedByPinnedDigest => exact .inr (.inr h.2)
  | verifiedByPki => exact .inl h.2.2

end Verifier

/-- **When a connection is accepted, and for what**: the server presents a certificate, and it is pinned,
or else the PKI verifier accepts it, or `insecure_ssl` is set. -/
theorem connectStream_ok_iff (sha256 : List UInt8 → List UInt8) (config : Config)
    (handshake : Handshake) (verification : CertificateVerification) :
    connectStream sha256 config handshake = .ok verification ↔
      rejectUnsupportedRustlsOptions config = .ok () ∧ handshake.setup = .ok () ∧
        handshake.rest = .ok () ∧ ∃ cert certs, handshake.certs = cert :: certs ∧
          Grounds sha256 config cert handshake.pki verification := by
  unfold connectStream Handshake.run
  cases rejectUnsupportedRustlsOptions config with
  | error err => exact iff_of_false nofun fun h => nomatch h.1
  | ok _ =>
    cases handshake.setup with
    | error err => exact iff_of_false nofun fun h => nomatch h.2.1
    | ok _ =>
      cases handshake.certs with
      | nil =>
        refine iff_of_false ?_ fun ⟨_, _, _, _, _, h, _⟩ => nomatch h
        cases handshake.rest <;> nofun
      | cons cert certs =>
        have hjudged := @judged_iff sha256 config cert handshake.pki verification
        dsimp only
        generalize (RecordingVerifier.new config).verifyServerCert sha256 cert handshake.pki = judged
          at hjudged ⊢
        obtain ⟨result, verifier⟩ := judged
        cases result with
        | error err =>
          refine iff_of_false nofun fun ⟨_, _, _, _, _, hcerts, hgrounds⟩ => ?_
          cases hcerts
          exact nomatch (hjudged.mpr hgrounds).1
        | ok _ =>
          cases handshake.rest with
          | error err => exact iff_of_false nofun fun h => nomatch h.2.2.1
          | ok _ =>
            constructor
            · intro hok
              exact ⟨rfl, rfl, rfl, cert, certs, rfl, hjudged.mp ⟨rfl, hok⟩⟩
            · rintro ⟨-, -, -, _, _, hcerts, hgrounds⟩
              cases hcerts
              exact (hjudged.mpr hgrounds).2

/-- SHA-256 on the certificate `abc` of the tests. -/
def sha256OfAbc (cert : List UInt8) : List UInt8 :=
  if cert = [0x61, 0x62, 0x63] then
    [0xba, 0x78, 0x16, 0xbf, 0x8f, 0x01, 0xcf, 0xea, 0x41, 0x41, 0x40, 0xde, 0x5d, 0xae, 0x22, 0x23,
      0xb0, 0x03, 0x61, 0xa3, 0x96, 0x17, 0x7a, 0x9c, 0xb4, 0x10, 0xff, 0x61, 0xf2, 0x00, 0x15, 0xad]
  else []

/-- One certificate is pinned; another that the PKI verifier accepts is accepted all the same. -/
theorem unpinned_accepted : ¬ ∀ (sha256 : List UInt8 → List UInt8) (config : Config)
    (handshake : Handshake) (verification : CertificateVerification),
    config.insecureSsl = false → config.trustedCerts ≠ [] →
    connectStream sha256 config handshake = .ok verification →
      ∃ cert certs, handshake.certs = cert :: certs ∧ Pinned sha256 config cert := by
  intro h
  obtain ⟨cert, certs, hcerts, hpinned⟩ := h sha256OfAbc
    { trustedCerts := ["e46d4aff08ba6914e64daa85bc6112a422fa7ce16631bff0b592a28556f993db"] }
    ⟨.ok (), [[0x61, 0x62, 0x63]], .ok (), .ok ()⟩ .verifiedByPki rfl (List.cons_ne_nil _ _)
    (by decide +kernel)
  cases hcerts
  rw [← @isTrusted_iff sha256OfAbc _ _ (.new _) rfl] at hpinned
  exact absurd hpinned (by decide +kernel)

end OpenfortivpnRs.Tls
