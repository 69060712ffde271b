import DevicePairing.Certificate
import DevicePairing.Config.Files
import DevicePairing.Json.Printer
import DevicePairing.Json.Record
import DevicePairing.Pem.Section
import DevicePairing.Text.Outline

set_option autoImplicit false
set_option relaxedAutoImplicit false

namespace DevicePairing

open DevicePairing.Text

/-- The identity of a client and whom it trusts. -/
structure TlsConfig where
  certPem : String
  keyPem : String
  caPem : String
  certChain : List Bytes
  keyDer : Bytes
  caCerts : List Bytes
  deriving DecidableEq

namespace TlsConfig

def certificatesOf (pem : String) : Except ConfigError (List Bytes) := do
  let certs ← (Pem.certificates (Utf8.ofString pem)).mapError fun e => .pem e.message
  if certs.isEmpty then .error .missingCertificate else .ok certs

def privateKeyOf (pem : String) : Except ConfigError Bytes := do
  match ← (Pem.privateKey (Utf8.ofString pem)).mapError fun e => .pem e.message with
  | some key => .ok key
  | none => .error .missingKey

def ofPem (certPem keyPem caPem : String) : Except ConfigError TlsConfig := do
  let certChain ← certificatesOf certPem
  let caCerts ← certificatesOf caPem
  let keyDer ← privateKeyOf keyPem
  .ok ⟨certPem, keyPem, caPem, certChain, keyDer, caCerts⟩

def ofFiles (files : Files) (certPath keyPath caPath : String) : Except ConfigError TlsConfig := do
  let read (path : String) : Except ConfigError String :=
    (files.readText path).mapError fun e => .io (path ++ ": " ++ e)
  let certPem ← read certPath
  let keyPem ← read keyPath
  let caPem ← read caPath
  ofPem certPem keyPem caPem

def fingerprint (t : TlsConfig) : String := DevicePairing.fingerprint (t.certChain.head?.getD [])

def toDocument (t : TlsConfig) : Json.Document :=
  .object [(some "cert_pem", .string (some t.certPem)), (some "key_pem", .string (some t.keyPem)),
    (some "ca_pem", .string (some t.caPem))]

def ofDocument? (d : Json.Document) : Option TlsConfig := do
  match ← Json.fieldsOf? ["cert_pem", "key_pem", "ca_pem"] d with
  | [some cert, some key, some ca] => do
    let certPem ← Json.text? cert
    let keyPem ← Json.text? key
    let caPem ← Json.text? ca
    (ofPem certPem keyPem caPem).toOption
  | _ => none

def outline (t : TlsConfig) : String :=
  Outline.partialRecord "TlsConfig" [("fingerprint", Outline.text t.fingerprint)]

end TlsConfig

end DevicePairing
